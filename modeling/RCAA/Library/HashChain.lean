import Mathlib

/-! Chains of items each of which names the hash of the one before it. A chain is
determined by the order its items were recorded in, when none names an item recorded
after it, and it breaks where an item is taken out of its middle. -/

namespace HashChain
variable {α η : Type} (previous : α → Option η) (hash : α → η)

/-- Each item names the hash of the one before it, the first one `start`. -/
def Links : Option η → List α → Prop
  | _, [] => True
  | start, a :: rest => previous a = start ∧ Links (some (hash a)) rest

/-- The hash the next item has to name. -/
def tip (start : Option η) (items : List α) : Option η := (items.getLast?.map hash).or start

@[simp] theorem tip_nil (start : Option η) : tip hash start [] = start := rfl

theorem tip_cons (start : Option η) (a : α) (rest : List α) : tip hash start (a :: rest) = tip hash (some (hash a)) rest := by
  cases rest with
  | nil => rfl
  | cons b rest => simp [tip, List.getLast?_cons]

@[simp] theorem tip_snoc (start : Option η) (items : List α) (a : α) : tip hash start (items ++ [a]) = some (hash a) := by
  simp [tip]

variable {previous hash}

theorem links_append {start : Option η} {first rest : List α} :
    Links previous hash start (first ++ rest) ↔
      Links previous hash start first ∧ Links previous hash (tip hash start first) rest := by
  induction first generalizing start with
  | nil => simp [Links]
  | cons a first ih => simp only [List.cons_append, Links, ih, tip_cons, and_assoc]

/-- Items that keep what they name and their hash keep the chain. -/
theorem links_map_iff {f : α → α} {items : List α} (kept : ∀ a ∈ items, previous (f a) = previous a ∧ hash (f a) = hash a)
    {start : Option η} : Links previous hash start (items.map f) ↔ Links previous hash start items := by
  induction items generalizing start with
  | nil => exact Iff.rfl
  | cons a rest ih =>
    obtain ⟨same, others⟩ := List.forall_mem_cons.mp kept
    simp only [List.map_cons, Links, same.1, same.2, ih others]

/-- An item of a chain names the last of those before it. -/
theorem Links.names {start : Option η} {before after : List α} {a : α}
    (links : Links previous hash start (before ++ a :: after)) : previous a = tip hash start before :=
  (links_append.mp links).2.1

theorem links_of_names {start : Option η} {items : List α}
    (names : ∀ before a after, items = before ++ a :: after → previous a = tip hash start before) :
    Links previous hash start items := by
  induction items generalizing start with
  | nil => trivial
  | cons a rest ih =>
    refine ⟨names [] a rest rfl, ih fun before b after split => ?_⟩
    rw [names (a :: before) b after (by rw [split, List.cons_append]), tip_cons]

/-- Without one of its items a chain breaks at the next. -/
theorem Links.removed {before after : List α} {a b : α} (links : Links previous hash none (before ++ a :: b :: after))
    (fresh : hash a ∉ before.map hash) : ¬Links previous hash none (before ++ b :: after) := by
  intro without
  have named : previous b = some (hash a) := by
    rw [List.append_cons] at links
    rw [links.names, tip_snoc]
  rw [without.names] at named
  rcases List.eq_nil_or_concat before with rfl | ⟨front, last, rfl⟩
  · cases named
  · rw [List.concat_eq_append, tip_snoc] at named
    apply fresh
    rw [← Option.some.inj named]
    exact List.mem_map_of_mem (by simp)

/-- A chain of items each of which names one recorded before it is the record. -/
theorem Links.eq_recorded {recorded items : List α} (links : Links previous hash none items)
    (perm : items.Perm recorded) (distinct : (recorded.map hash).Nodup)
    (names : ∀ before b after, recorded = before ++ b :: after → ∀ h, previous b = some h → ∃ a ∈ before, hash a = h) :
    items = recorded := by
  classical
  have nodup : recorded.Nodup := distinct.of_map hash
  have place {before after : List α} {b : α} (split : recorded = before ++ b :: after) :
      recorded.idxOf b = before.length := by
    subst split
    have absent : b ∉ before := fun inside => (List.nodup_append.mp nodup).2.2 b inside b List.mem_cons_self rfl
    rw [List.idxOf_append_of_notMem absent, List.idxOf_cons_self, Nat.add_zero]
  have earlier {before after : List α} {a b : α} (split : recorded = before ++ b :: after) (inside : a ∈ before) :
      recorded.idxOf a < recorded.idxOf b := by
    rw [place split, split, List.idxOf_append_of_mem inside]
    exact List.idxOf_lt_length_of_mem inside
  let before : α → α → Prop := fun a b => recorded.idxOf a < recorded.idxOf b
  have trans : Trans before before before := ⟨Nat.lt_trans⟩
  have sorted : items.Pairwise before := by
    rw [← List.isChain_iff_pairwise, List.isChain_iff_forall_rel_of_append_cons_cons]
    rintro a b front rest rfl
    have follows : previous b = some (hash a) := by
      rw [List.append_cons] at links
      rw [links.names, tip_snoc]
    obtain ⟨earlierPart, laterPart, split⟩ := List.append_of_mem (perm.subset (show b ∈ _ by simp))
    obtain ⟨named, inside, same⟩ := names _ b _ split _ follows
    have recordedNamed : named ∈ recorded := by
      rw [split]
      exact List.mem_append_left _ inside
    obtain rfl : named = a := List.inj_on_of_nodup_map distinct recordedNamed (perm.subset (by simp)) same
    exact earlier split inside
  have recordedSorted : recorded.Pairwise before := by
    rw [← List.isChain_iff_pairwise, List.isChain_iff_forall_rel_of_append_cons_cons]
    intro a b front rest split
    rw [List.append_cons] at split
    exact earlier split (by simp)
  exact List.Perm.eq_of_pairwise (fun a b _ _ before after => absurd before (Nat.lt_asymm after)) sorted recordedSorted perm

end HashChain
