import Mathlib

/-! A log of closed stretches, each entered at a point that is not before its end, in the
order of these points. The log is without a gap when everything from the point of its first
entry to that of any other lies in some stretch; whether a new entry leaves a gap depends
on the last point only. -/

/-- From `lo` to `hi`, entered at `ends`. -/
structure Stretch (α : Type) where
  lo : α
  hi : α
  ends : α

namespace Stretch
variable {α : Type} [LinearOrder α]

def Within (log : List (Stretch α)) (x : α) : Prop := ∃ r ∈ log, r.lo ≤ x ∧ x ≤ r.hi

/-- No stretch reaches past its point, and the points are in order. -/
structure Ordered (log : List (Stretch α)) : Prop where
  points : log.Pairwise fun r q => r.ends ≤ q.ends
  before : ∀ r ∈ log, r.hi ≤ r.ends

def Gapless (log : List (Stretch α)) : Prop :=
  ∀ first ∈ log.head?, ∀ r ∈ log, ∀ x, first.ends ≤ x → x ≤ r.ends → Within log x

/-- The new entry takes up where the last one was entered, and reaches its own point. -/
def Continues [SuccOrder α] (last : Option (Stretch α)) (r : Stretch α) : Prop :=
  match last with
  | none => r.lo ≤ r.ends ∧ r.ends ≤ r.hi
  | some last => r.ends ≤ last.ends ∨ (r.lo ≤ Order.succ last.ends ∧ r.ends ≤ r.hi)

theorem within_append {log : List (Stretch α)} {r : Stretch α} {x : α} :
    Within (log ++ [r]) x ↔ Within log x ∨ (r.lo ≤ x ∧ x ≤ r.hi) := by
  simp only [Within, List.mem_append, List.mem_singleton, or_and_right, exists_or, exists_eq_left]

theorem Ordered.le_last {log : List (Stretch α)} {last : Stretch α} (ordered : Ordered (log ++ [last])) :
    ∀ r ∈ log ++ [last], r.ends ≤ last.ends := by
  intro r member
  rcases List.mem_append.mp member with earlier | same
  · exact (List.pairwise_append.mp ordered.points).2.2 r earlier last (List.mem_singleton_self last)
  · rw [List.mem_singleton.mp same]

/-- No stretch of the log reaches past the last point. -/
theorem Ordered.within_le {log : List (Stretch α)} {last : Stretch α} (ordered : Ordered (log ++ [last])) {x : α}
    (within : Within (log ++ [last]) x) : x ≤ last.ends := by
  obtain ⟨r, member, _, below⟩ := within
  exact below.trans ((ordered.before r member).trans (ordered.le_last r member))

variable [SuccOrder α] [NoMaxOrder α]

/-- Whether a new entry leaves a gap in a log that has none. -/
theorem gapless_snoc_iff {log : List (Stretch α)} {r : Stretch α} (ordered : Ordered (log ++ [r])) (gapless : Gapless log) :
    Gapless (log ++ [r]) ↔ Continues log.getLast? r := by
  rcases List.eq_nil_or_concat log with rfl | ⟨earlier, last, rfl⟩
  · simp only [Gapless, Continues, List.nil_append, List.head?_cons, Option.mem_some_iff, forall_eq', List.mem_singleton,
      forall_eq, List.getLast?_nil, Within, exists_eq_left]
    constructor
    · exact fun all => all r.ends le_rfl le_rfl
    · intro continues x above below
      rwa [le_antisymm below above]
  · rw [List.concat_eq_append] at *
    have inner : Ordered (earlier ++ [last]) :=
      ⟨(List.pairwise_append.mp ordered.points).1, fun q member => ordered.before q (List.mem_append_left _ member)⟩
    have lastIn : last ∈ earlier ++ [last] := by simp
    obtain ⟨first, starts⟩ : ∃ first, (earlier ++ [last]).head? = some first :=
      Option.isSome_iff_exists.mp (by cases earlier <;> rfl)
    have starts' : (earlier ++ [last] ++ [r]).head? = some first := by
      rw [List.head?_append, starts]
      rfl
    have early : first.ends ≤ last.ends := inner.le_last first (List.mem_of_mem_head? starts)
    simp only [Continues, List.getLast?_append, List.getLast?_singleton, Option.some_or]
    constructor
    · intro all
      by_contra broken
      rw [not_or, not_le] at broken
      obtain ⟨later, gap⟩ := broken
      -- The day after the last point, and the point of the new entry, are in no earlier stretch.
      have new : ∀ x, last.ends < x → x ≤ r.ends → r.lo ≤ x ∧ x ≤ r.hi := by
        intro x past within
        have found := all first starts' r (by simp) x (early.trans past.le) within
        exact (within_append.mp found).resolve_left fun old => absurd (inner.within_le old) (not_le.mpr past)
      exact gap ⟨(new _ (Order.lt_succ _) (Order.succ_le_of_lt later)).1, (new _ later le_rfl).2⟩
    · intro continues first' starts'' q member x above below
      obtain rfl : first = first' := Option.some.inj (starts'.symm.trans starts'')
      rw [within_append]
      rcases le_or_gt x last.ends with old | past
      · exact .inl (gapless first starts last lastIn x above old)
      · have reaches : x ≤ r.ends := below.trans (ordered.le_last q member)
        rcases continues with short | ⟨begins, whole⟩
        · exact absurd (reaches.trans short) (not_le.mpr past)
        · exact .inr ⟨begins.trans (Order.succ_le_of_lt past), reaches.trans whole⟩

end Stretch
