import Mathlib

/-! Ranked rules. Each tier is the set of alternatives one rule accepts; the first
tier with a member decides, and it decides uniquely when it is a singleton. The
list form computes the same choice from tiers listed in rank order. -/

namespace Tiers
variable {α : Type}

/-- The members of the first inhabited tier. -/
def decidingSet : List (Set α) → Set α
  | [] => ∅
  | tier :: rest => {a | a ∈ tier ∨ (tier = ∅ ∧ a ∈ decidingSet rest)}

def deciding : List (List α) → List α
  | [] => []
  | [] :: rest => deciding rest
  | (a :: tier) :: _ => a :: tier

def members (tier : List α) : Set α := {a | a ∈ tier}

theorem members_eq_empty_iff (tier : List α) : members tier = ∅ ↔ tier = [] := by
  simp only [members, Set.eq_empty_iff_forall_notMem, Set.mem_ofPred_eq, List.eq_nil_iff_forall_not_mem]

/-- The list form refines the choice between sets. -/
theorem members_deciding (tiers : List (List α)) :
    members (deciding tiers) = decidingSet (tiers.map members) := by
  induction tiers with
  | nil =>
    ext a
    simp [deciding, decidingSet, members]
  | cons tier rest ih =>
    ext a
    cases tier with
    | nil =>
      have empty : members ([] : List α) = ∅ := (members_eq_empty_iff _).mpr rfl
      simp only [deciding, ih, List.map_cons, decidingSet, empty, Set.mem_ofPred_eq, Set.mem_empty_iff_false,
        true_and, false_or]
    | cons b tier =>
      have inhabited : members (b :: tier) ≠ ∅ := fun h => by simpa using (members_eq_empty_iff _).mp h
      simp only [deciding, List.map_cons, decidingSet, Set.mem_ofPred_eq, inhabited, false_and, or_false]

@[simp] theorem deciding_cons_nil (rest : List (List α)) : deciding ([] :: rest) = deciding rest := rfl

theorem deciding_cons_of_ne_nil {tier : List α} (inhabited : tier ≠ []) (rest : List (List α)) :
    deciding (tier :: rest) = tier := by
  cases tier with
  | nil => exact absurd rfl inhabited
  | cons a tier => rfl

@[simp] theorem deciding_singleton (tier : List α) : deciding [tier] = tier := by
  cases tier <;> rfl

theorem deciding_eq_nil_or_mem (tiers : List (List α)) : deciding tiers = [] ∨ deciding tiers ∈ tiers := by
  induction tiers with
  | nil => exact .inl rfl
  | cons tier rest ih =>
    cases tier with
    | nil => exact ih.imp id (List.mem_cons_of_mem _)
    | cons b tier => exact .inr List.mem_cons_self

theorem deciding_sublist {tiers : List (List α)} {items : List α} (listed : ∀ tier ∈ tiers, tier.Sublist items) :
    (deciding tiers).Sublist items := by
  rcases deciding_eq_nil_or_mem tiers with none | member
  · rw [none]
    exact List.nil_sublist _
  · exact listed _ member

theorem deciding_eq_nil_iff (tiers : List (List α)) : deciding tiers = [] ↔ ∀ tier ∈ tiers, tier = [] := by
  induction tiers with
  | nil => simp [deciding]
  | cons tier rest ih =>
    cases tier with
    | nil => simpa using ih
    | cons b tier => simp [deciding]

/-- One member decides exactly when the deciding set is its singleton. -/
theorem eq_singleton_iff {tier : List α} (distinct : tier.Nodup) (a : α) : tier = [a] ↔ members tier = {a} := by
  constructor
  · rintro rfl
    ext b
    simp [members]
  · intro single
    refine List.perm_singleton.mp ((List.perm_ext_iff_of_nodup distinct (List.nodup_singleton a)).mpr fun b => ?_)
    simpa [members] using Set.ext_iff.mp single b

theorem one_lt_length_iff {tier : List α} (distinct : tier.Nodup) : 1 < tier.length ↔ (members tier).Nontrivial := by
  constructor
  · intro several
    obtain ⟨a, b, rest, rfl⟩ : ∃ a b rest, tier = a :: b :: rest := by
      rcases tier with _ | ⟨a, _ | ⟨b, rest⟩⟩
      · simp at several
      · simp at several
      · exact ⟨a, b, rest, rfl⟩
    have differ : a ≠ b := fun same => (List.nodup_cons.mp distinct).1 (by simp [same])
    exact ⟨a, by simp [members], b, by simp [members], differ⟩
  · rintro ⟨a, first, b, second, differ⟩
    rcases tier with _ | ⟨c, _ | ⟨d, rest⟩⟩
    · simp [members] at first
    · simp only [members, List.mem_singleton, Set.mem_ofPred_eq] at first second
      exact absurd (first.trans second.symm) differ
    · simp

/-- Tiers that list the same members lead to choices that list the same members. -/
theorem deciding_perm {tiers others : List (List α)} (same : List.Forall₂ List.Perm tiers others) :
    (deciding tiers).Perm (deciding others) := by
  induction same with
  | nil => exact List.Perm.refl _
  | @cons tier other rest others first _ ih =>
    cases tier with
    | nil =>
      cases first.nil_eq
      exact ih
    | cons a tier =>
      have inhabited : other ≠ [] := by
        rintro rfl
        exact absurd first.eq_nil (by simp)
      rw [deciding_cons_of_ne_nil inhabited]
      exact first

end Tiers
