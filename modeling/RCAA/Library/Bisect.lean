import Mathlib

/-! Binary search for the partition point of a sequence, the two bisections of a
sorted sequence built on it, and the slice between them. The loop halves an index
interval; `fuel` bounds its rounds and the interval length always suffices. -/

namespace Bisect
variable {α : Type}

/-- First index in `[lo, hi)` whose element is not `below`; the midpoint is rounded down. -/
def search (below : α → Bool) (xs : List α) : (fuel lo hi : Nat) → Nat
  | 0, lo, _ => lo
  | fuel + 1, lo, hi =>
    if lo < hi then
      let mid := (lo + hi) / 2
      match xs[mid]? with
      | some x => if below x then search below xs fuel (mid + 1) hi else search below xs fuel lo mid
      | none => lo
    else lo

def partitionPoint (below : α → Bool) (xs : List α) : Nat := search below xs xs.length 0 xs.length

/-- Every element before `n` is below, none from `n` on is. -/
def Splits (below : α → Bool) (xs : List α) (n : Nat) : Prop :=
  (∀ i < n, ∀ x ∈ xs[i]?, below x = true) ∧ (∀ i ≥ n, ∀ x ∈ xs[i]?, below x = false)

/-- The loop invariant: the point lies in `[lo, hi]`, and the rounds left cover it. -/
theorem search_splits {below : α → Bool} {xs : List α}
    (mono : xs.Pairwise (fun a b => below b = true → below a = true)) (fuel lo hi : Nat)
    (rounds : hi - lo ≤ fuel) (order : lo ≤ hi) (bound : hi ≤ xs.length)
    (low : ∀ i < lo, ∀ x ∈ xs[i]?, below x = true) (high : ∀ i ≥ hi, ∀ x ∈ xs[i]?, below x = false) :
    Splits below xs (search below xs fuel lo hi) ∧ search below xs fuel lo hi ≤ hi := by
  induction fuel generalizing lo hi with
  | zero =>
    have same : hi = lo := by omega
    subst same
    exact ⟨⟨low, high⟩, Nat.le_refl _⟩
  | succ fuel ih =>
    simp only [search]
    split
    · next less =>
      have inside : (lo + hi) / 2 < xs.length := by omega
      simp only [List.getElem?_eq_getElem inside]
      split
      · next isBelow =>
        -- Everything up to the midpoint is below it, hence below.
        refine ih ((lo + hi) / 2 + 1) hi (by omega) (by omega) bound ?_ high
        intro i hi' x hx
        obtain ⟨bound', rfl⟩ := List.getElem?_eq_some_iff.mp hx
        rcases Nat.lt_or_ge i ((lo + hi) / 2) with earlier | later
        · exact List.pairwise_iff_getElem.mp mono i _ bound' inside earlier isBelow
        · have same : i = (lo + hi) / 2 := by omega
          subst same
          exact isBelow
      · next notBelow =>
        have shrunk := ih lo ((lo + hi) / 2) (by omega) (by omega) (by omega) low (by
          intro i hi' x hx
          obtain ⟨bound', rfl⟩ := List.getElem?_eq_some_iff.mp hx
          rcases Nat.eq_or_lt_of_le hi' with same | later
          · subst same
            exact Bool.eq_false_iff.mpr notBelow
          · exact Bool.eq_false_iff.mpr fun isBelow =>
              notBelow (List.pairwise_iff_getElem.mp mono _ i inside bound' later isBelow))
        exact ⟨shrunk.1, by omega⟩
    · next stop =>
      have same : hi = lo := by omega
      subst same
      exact ⟨⟨low, high⟩, Nat.le_refl _⟩

theorem partitionPoint_splits {below : α → Bool} {xs : List α}
    (mono : xs.Pairwise (fun a b => below b = true → below a = true)) :
    Splits below xs (partitionPoint below xs) :=
  (search_splits mono _ _ _ (Nat.le_refl _) (Nat.zero_le _) (Nat.le_refl _)
    (fun _ h => absurd h (Nat.not_lt_zero _)) (by
      intro i h x hx
      obtain ⟨bound, _⟩ := List.getElem?_eq_some_iff.mp hx
      omega)).1

theorem Splits.tail {below : α → Bool} {x : α} {rest : List α} {n : Nat} (split : Splits below (x :: rest) n) :
    Splits below rest (n - 1) :=
  ⟨fun i h y hy => split.1 (i + 1) (by omega) y (by simpa using hy),
    fun i h y hy => split.2 (i + 1) (by omega) y (by simpa using hy)⟩

theorem take_eq_filter {below : α → Bool} {xs : List α} {n : Nat} (split : Splits below xs n) :
    xs.take n = xs.filter below := by
  induction xs generalizing n with
  | nil => simp
  | cons x rest ih =>
    have tail := split.tail
    obtain ⟨low, high⟩ := split
    cases n with
    | zero =>
      have none : (x :: rest).filter below = [] := by
        apply List.filter_eq_nil_iff.mpr
        intro y hy
        obtain ⟨i, hi⟩ := List.getElem?_of_mem hy
        simp [high i (Nat.zero_le _) y hi]
      rw [none, List.take_zero]
    | succ n =>
      have first : below x = true := low 0 (by omega) x (by simp)
      rw [List.take_succ_cons, ih (by simpa using tail), List.filter_cons_of_pos first]

theorem drop_eq_filter {below : α → Bool} {xs : List α} {n : Nat} (split : Splits below xs n) :
    xs.drop n = xs.filter (fun x => !below x) := by
  induction xs generalizing n with
  | nil => simp
  | cons x rest ih =>
    have tail := split.tail
    obtain ⟨low, high⟩ := split
    cases n with
    | zero =>
      have all : (x :: rest).filter (fun y => !below y) = x :: rest := by
        apply List.filter_eq_self.mpr
        intro y hy
        obtain ⟨i, hi⟩ := List.getElem?_of_mem hy
        simp [high i (Nat.zero_le _) y hi]
      rw [all, List.drop_zero]
    | succ n =>
      have first : below x = true := low 0 (by omega) x (by simp)
      rw [List.drop_succ_cons, ih (by simpa using tail), List.filter_cons_of_neg (by simp [first])]

theorem Splits.take {below : α → Bool} {xs : List α} {n : Nat} (split : Splits below xs n) (m : Nat) :
    Splits below (xs.take m) n := by
  constructor
  · intro i h x hx
    rw [List.getElem?_take] at hx
    split at hx
    · exact split.1 i h x hx
    · simp at hx
  · intro i h x hx
    rw [List.getElem?_take] at hx
    split at hx
    · exact split.2 i h x hx
    · simp at hx

section Sorted
variable {β : Type} [LinearOrder β]

/-- Index before every key equal to `x`. -/
def left (keys : List β) (x : β) : Nat := partitionPoint (fun k => decide (k < x)) keys

/-- Index after every key equal to `x`. -/
def right (keys : List β) (x : β) : Nat := partitionPoint (fun k => !decide (x < k)) keys

theorem left_splits {keys : List β} (sorted : keys.Pairwise (· ≤ ·)) (x : β) :
    Splits (fun k => decide (k < x)) keys (left keys x) :=
  partitionPoint_splits (sorted.imp fun {a b} ordered below => by
    simp only [decide_eq_true_eq] at below ⊢
    exact lt_of_le_of_lt ordered below)

theorem right_splits {keys : List β} (sorted : keys.Pairwise (· ≤ ·)) (x : β) :
    Splits (fun k => !decide (x < k)) keys (right keys x) :=
  partitionPoint_splits (sorted.imp fun {a b} ordered below => by
    simp only [Bool.not_eq_true', decide_eq_false_iff_not, not_lt] at below ⊢
    exact le_trans ordered below)

omit [LinearOrder β] in
theorem Splits.of_map {f : α → β} {below : β → Bool} {xs : List α} {n : Nat}
    (split : Splits below (xs.map f) n) : Splits (fun x => below (f x)) xs n :=
  ⟨fun i h x hx => split.1 i h (f x) (by simp only [List.getElem?_map, Option.mem_def] at hx ⊢; simp [hx]),
    fun i h x hx => split.2 i h (f x) (by simp only [List.getElem?_map, Option.mem_def] at hx ⊢; simp [hx])⟩

/-- The slice between the two bisections holds exactly the entries whose key is in
the closed interval, in order; it is empty when the interval is. -/
theorem slice_eq_filter (key : α → β) (entries : List α)
    (sorted : (entries.map key).Pairwise (· ≤ ·)) (first last : β) :
    (entries.take (right (entries.map key) last)).drop (left (entries.map key) first) =
      entries.filter (fun e => decide (first ≤ key e) && decide (key e ≤ last)) := by
  have upper := (right_splits sorted last).of_map
  have lower := ((left_splits sorted first).of_map (f := key)).take (right (entries.map key) last)
  rw [drop_eq_filter lower, take_eq_filter upper, List.filter_filter]
  apply List.filter_congr
  intro e _
  rw [Bool.eq_iff_iff]
  simp only [Bool.and_eq_true, Bool.not_eq_true', decide_eq_false_iff_not, decide_eq_true_eq, not_lt]

end Sorted
end Bisect
