import Mathlib
import RCAA.Library.Paging

/-! Pages of a list that every query orders again, by a column in which rows may tie. A query
may put rows that tie in any order, so the pages of one list are complete when no two rows that
tie lie on two of them. -/

namespace OffsetPages
variable {α τ : Type} [LinearOrder τ] (time : α → τ)

/-- What a query ordered by a column may return, the latest rows first. -/
structure Descending (rows listed : List α) : Prop where
  perm : listed.Perm rows
  ordered : listed.Pairwise fun a b => time b ≤ time a

/-- How a query lists the rows it finds. -/
structure Listing where
  list : List α → List α
  descending : ∀ rows, Descending time rows (list rows)

/-- Of the rows of one time some come before a place and some after it. -/
def Straddles (rows : List α) (place : Nat) (t : τ) : Prop :=
  rows.countP (t < time ·) < place ∧ place < rows.countP (t ≤ time ·)

instance (rows : List α) (place : Nat) (t : τ) : Decidable (Straddles time rows place t) := inferInstanceAs (Decidable (_ ∧ _))

variable {time} {rows listed again : List α} {place : Nat} {t : τ}

theorem Straddles.perm_iff (perm : listed.Perm rows) : Straddles time listed place t ↔ Straddles time rows place t := by
  rw [Straddles, Straddles, perm.countP_eq, perm.countP_eq]

/-! ## Where no rows that tie are parted -/

/-- The rows later than a time are the first ones. -/
theorem take_later (ordered : listed.Pairwise fun a b => time b ≤ time a) (t : τ) :
    listed.take (listed.countP (t < time ·)) = listed.filter (t < time ·) := by
  induction listed with
  | nil => rfl
  | cons a rest ih =>
    obtain ⟨first, ordered⟩ := List.pairwise_cons.mp ordered
    by_cases later : t < time a
    · rw [List.countP_cons_of_pos (by simpa using later), List.filter_cons_of_pos (by simpa using later),
        List.take_succ_cons, ih ordered]
    · have none : ∀ b ∈ rest, ¬decide (t < time b) = true := fun b member after =>
        later ((of_decide_eq_true after).trans_le (first b member))
      rw [List.countP_cons_of_neg (by simpa using later), List.filter_cons_of_neg (by simpa using later),
        List.countP_eq_zero.mpr none, List.filter_eq_nil_iff.mpr none, List.take_zero]

/-- A place that parts no rows that tie follows all the rows later than some time. -/
theorem countP_later (ordered : listed.Pairwise fun a b => time b ≤ time a) (inside : place < listed.length)
    (whole : ¬Straddles time listed place (time listed[place])) : listed.countP (time listed[place] < time ·) = place := by
  have apart : ∀ a ∈ listed.take place, ∀ b ∈ listed.drop place, time b ≤ time a := by
    rw [← List.take_append_drop place listed] at ordered
    exact (List.pairwise_append.mp ordered).2.2
  have split : listed.drop place = listed[place] :: listed.drop (place + 1) := List.drop_eq_getElem_cons inside
  have after : ∀ b ∈ listed.drop place, time b ≤ time listed[place] := by
    have tail := ordered.sublist (List.drop_sublist place listed)
    rw [split, List.pairwise_cons] at tail
    rw [split]
    exact List.forall_mem_cons.mpr ⟨le_rfl, tail.1⟩
  have count (p : α → Bool) : listed.countP p = (listed.take place).countP p + (listed.drop place).countP p := by
    rw [← List.countP_append, List.take_append_drop]
  have length : (listed.take place).length = place := List.length_take_of_le inside.le
  have before : (listed.take place).countP (time listed[place] ≤ time ·) = place := by
    rw [List.countP_eq_length.mpr, length]
    intro a member
    exact decide_eq_true (apart a member _ (by rw [split]; exact List.mem_cons_self))
  have reached : 0 < (listed.drop place).countP (time listed[place] ≤ time ·) :=
    List.countP_pos_iff.mpr ⟨listed[place], by rw [split]; exact List.mem_cons_self, decide_eq_true le_rfl⟩
  have none : (listed.drop place).countP (time listed[place] < time ·) = 0 :=
    List.countP_eq_zero.mpr fun b member later => (after b member).not_gt (of_decide_eq_true later)
  have few := (listed.take place).countP_le_length (p := (time listed[place] < time ·))
  have upper := count (time listed[place] ≤ time ·)
  have lower := count (time listed[place] < time ·)
  unfold Straddles at whole
  omega

theorem Descending.take_perm (one : Descending time rows listed) (other : Descending time rows again)
    (whole : ∀ t, ¬Straddles time rows place t) : (listed.take place).Perm (again.take place) := by
  have perm := one.perm.trans other.perm.symm
  by_cases inside : place < listed.length
  · have count := countP_later one.ordered inside ((Straddles.perm_iff one.perm).not.mpr (whole _))
    have first := take_later one.ordered (time listed[place])
    have second := take_later other.ordered (time listed[place])
    rw [count] at first
    rw [← perm.countP_eq, count] at second
    rw [first, second]
    exact perm.filter _
  · rw [List.take_of_length_le (not_lt.mp inside), List.take_of_length_le (perm.length_eq ▸ not_lt.mp inside)]
    exact perm

/-- Each page has the same rows, whatever order its query takes. -/
theorem Descending.page_perm (one : Descending time rows listed) (other : Descending time rows again) {skip count : Nat}
    (start : ∀ t, ¬Straddles time rows skip t) (stop : ∀ t, ¬Straddles time rows (skip + count) t) :
    (Paging.page skip count listed).Perm (Paging.page skip count again) := by
  have ends := one.take_perm other stop
  rw [List.take_add, List.take_add] at ends
  exact (List.perm_append_left_iff _).mp (((one.take_perm other start).symm.append_right _).trans ends)

/-! ## Where they are parted -/

theorem later_tied_earlier_perm (listed : List α) (t : τ) :
    (listed.filter (t < time ·) ++ (listed.filter (time · = t) ++ listed.filter (time · < t))).Perm listed := by
  induction listed with
  | nil => rfl
  | cons a rest ih =>
    rcases lt_trichotomy t (time a) with later | tied | earlier
    · simpa [later, later.ne', later.not_gt] using ih
    · simp only [← tied, lt_irrefl, decide_false, Bool.false_eq_true, not_false_eq_true, List.filter_cons_of_neg, decide_true,
        List.filter_cons_of_pos, List.cons_append]
      exact List.perm_middle.trans (ih.cons a)
    · simp only [earlier, earlier.ne, earlier.not_gt, decide_false, Bool.false_eq_true, not_false_eq_true,
        List.filter_cons_of_neg, decide_true, List.filter_cons_of_pos]
      rw [← List.append_assoc]
      refine List.perm_middle.trans (.cons a ?_)
      rwa [List.append_assoc]

theorem countP_tied (listed : List α) (t : τ) :
    listed.countP (t ≤ time ·) = listed.countP (t < time ·) + (listed.filter (time · = t)).length := by
  have parts := (@later_tied_earlier_perm _ _ _ time listed t).countP_eq fun a => t ≤ time a
  have all {part : List α} (late : ∀ a ∈ part, t ≤ time a) : part.countP (t ≤ time ·) = part.length :=
    List.countP_eq_length.mpr fun a member => decide_eq_true (late a member)
  have none : (listed.filter (time · < t)).countP (t ≤ time ·) = 0 := List.countP_eq_zero.mpr fun a member late =>
    (of_decide_eq_true late).not_gt (of_decide_eq_true (List.mem_filter.mp member).2)
  rw [← parts, List.countP_append, List.countP_append, none, all, all, ← List.countP_eq_length_filter, Nat.add_zero]
  · exact fun a member => (of_decide_eq_true (List.mem_filter.mp member).2).ge
  · exact fun a member => (of_decide_eq_true (List.mem_filter.mp member).2).le

/-- A row may stand at any place among the rows it ties with. -/
theorem Descending.insert (one : Descending time rows listed) {x : α} {rest : List α}
    (ties : listed.filter (time · = t) = x :: rest) (place : Nat) (lower : listed.countP (t < time ·) ≤ place)
    (upper : place ≤ listed.countP (t < time ·) + rest.length) :
    ∃ again, Descending time rows again ∧ again[place]? = some x := by
  obtain ⟨shift, rfl⟩ := Nat.exists_eq_add_of_le lower
  have inside : shift ≤ rest.length := Nat.le_of_add_le_add_left upper
  have above : ∀ a ∈ listed.filter (t < time ·), t < time a := fun a member => of_decide_eq_true (List.mem_filter.mp member).2
  have below : ∀ a ∈ listed.filter (time · < t), time a < t := fun a member => of_decide_eq_true (List.mem_filter.mp member).2
  have moved : (rest.insertIdx shift x).Perm (listed.filter (time · = t)) := ties ▸ List.perm_insertIdx x rest inside
  have tied : ∀ a ∈ rest.insertIdx shift x, time a = t := fun a member =>
    of_decide_eq_true (List.mem_filter.mp (moved.subset member)).2
  have ordered (p : α → Bool) : (listed.filter p).Pairwise fun a b => time b ≤ time a := one.ordered.sublist List.filter_sublist
  refine ⟨listed.filter (t < time ·) ++ (rest.insertIdx shift x ++ listed.filter (time · < t)), ⟨?_, ?_⟩, ?_⟩
  · exact ((moved.append_right _).append_left _).trans ((later_tied_earlier_perm listed t).trans one.perm)
  · refine List.pairwise_append.mpr ⟨ordered _, List.pairwise_append.mpr ⟨?_, ordered _, ?_⟩, ?_⟩
    · exact List.pairwise_of_forall_mem_list fun a first b second => ((tied b second).trans (tied a first).symm).le
    · exact fun a first b second => (below b second).le.trans_eq (tied a first).symm
    · intro a first b second
      rcases List.mem_append.mp second with second | second
      · exact (tied b second).trans_le (above a first).le
      · exact (below b second).le.trans (above a first).le
  · have held : shift < (rest.insertIdx shift x).length := by
      rw [List.length_insertIdx_of_le_length inside]
      omega
    rw [List.countP_eq_length_filter, List.getElem?_append_right (Nat.le_add_right ..), Nat.add_sub_cancel_left,
      List.getElem?_append_left held, List.getElem?_insertIdx_self, if_pos inside]

/-- Where a place parts rows that tie, two queries may have the same row before and after it. -/
theorem Straddles.repeats (straddles : Straddles time rows place t) :
    ∃ x first second, Descending time rows first ∧ Descending time rows second ∧
      first[place - 1]? = some x ∧ second[place]? = some x := by
  have one : Descending time rows (rows.insertionSort fun a b => time b ≤ time a) :=
    ⟨List.perm_insertionSort _ _, List.pairwise_insertionSort _ _⟩
  obtain ⟨after, before⟩ := (Straddles.perm_iff one.perm).mpr straddles
  rw [countP_tied] at before
  cases ties : (rows.insertionSort fun a b => time b ≤ time a).filter (time · = t) with
  | nil =>
    rw [ties, List.length_nil] at before
    omega
  | cons x rest =>
    rw [ties, List.length_cons] at before
    obtain ⟨first, listed, last⟩ := one.insert ties (place - 1) (by omega) (by omega)
    obtain ⟨second, relisted, next⟩ := one.insert ties place (by omega) (by omega)
    exact ⟨x, first, second, listed, relisted, last, next⟩

/-! ## All the pages -/

/-- The pages of a list have each row once, in whatever order their queries take rows that tie,
exactly when no place between two pages parts rows that tie. -/
theorem pages_perm_iff (distinct : rows.Nodup) {count : Nat} (positive : 0 < count) :
    (∀ orders : Nat → List α, (∀ i, Descending time rows (orders i)) → ∀ pages, rows.length ≤ pages * count →
        ((List.range pages).flatMap fun i => Paging.page (i * count) count (orders i)).Perm rows) ↔
      ∀ k t, ¬Straddles time rows (k * count) t := by
  constructor
  · intro complete k t straddles
    obtain ⟨x, first, second, listed, relisted, last, next⟩ := straddles.repeats
    have reached : 0 < k * count := Nat.zero_lt_of_lt straddles.1
    have turn : 0 < k := Nat.pos_of_mul_pos_right reached
    have covered : k * count < rows.length := straddles.2.trans_le List.countP_le_length
    let orders (i : Nat) : List α := if i = k - 1 then first else second
    have whole := complete orders (fun i => by dsimp only [orders]; split <;> assumption) rows.length
      (Nat.le_mul_of_pos_right _ positive)
    have apart := List.pairwise_iff_getElem.mp (List.nodup_flatMap.mp (whole.nodup_iff.mpr distinct)).2 (k - 1) k
    have turns : k < rows.length := (Nat.le_mul_of_pos_right k positive).trans_lt covered
    have before : (k - 1) * count + count = k * count := by rw [← Nat.succ_mul, Nat.sub_one, Nat.succ_pred turn.ne']
    -- The row that is the last of one page and the first of the next.
    refine apart (by simpa using (Nat.sub_le k 1).trans_lt turns) (by simpa using turns) (by omega) (a := x) ?_ ?_
    · have earlier : x ∈ Paging.page ((k - 1) * count) count first := Paging.mem_page last (by omega) (by omega)
      simpa only [List.getElem_range, orders, if_true] using earlier
    · have later : x ∈ Paging.page (k * count) count second := Paging.mem_page next le_rfl (by omega)
      simpa only [List.getElem_range, orders, if_neg (show k ≠ k - 1 by omega)] using later
  · intro whole orders ordered pages enough
    have pagesOf : ∀ i ∈ List.range pages, (Paging.page (i * count) count (orders i)).Perm
        (Paging.page (i * count) count (orders 0)) := fun i _ =>
      (ordered i).page_perm (ordered 0) (whole i) (by rw [← Nat.succ_mul]; exact whole (i + 1))
    refine (List.Perm.flatMap_left _ pagesOf).trans ?_
    rw [Paging.flatMap_page, List.take_of_length_le (by rw [(ordered 0).perm.length_eq]; exact enough)]
    exact (ordered 0).perm

end OffsetPages
