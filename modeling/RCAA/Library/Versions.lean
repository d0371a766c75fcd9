import Mathlib

/-! A value that gives way only to one that differs from it, and the archive of those that
gave way. Together they are the values offered, but for each that repeats the one before. -/

namespace Versions
variable {α : Type}

structure Register (α : Type) where
  current : Option α := none
  past : List α := []

namespace Register

/-- The values kept, the oldest first. -/
def all (register : Register α) : List α := register.past ++ register.current.toList

/-- Nothing was archived before there was a value. -/
def Whole (register : Register α) : Prop := register.current = none → register.past = []

theorem Whole.past_eq {register : Register α} (whole : register.Whole) : register.past = register.all.dropLast := by
  cases current : register.current with
  | none => simp only [all, whole current, current, Option.toList_none, List.append_nil, List.dropLast_nil]
  | some value => simp only [all, current, Option.toList_some, List.dropLast_concat]

theorem Whole.current_eq {register : Register α} (whole : register.Whole) : register.current = register.all.getLast? := by
  cases current : register.current with
  | none => simp only [all, whole current, current, Option.toList_none, List.append_nil, List.getLast?_nil]
  | some value => simp only [all, current, Option.toList_some, List.getLast?_concat]

variable (differs : α → α → Prop) [DecidableRel differs]

def record (register : Register α) (value : α) : Register α :=
  match register.current with
  | none => { register with current := some value }
  | some current => if differs current value then ⟨some value, register.past ++ [current]⟩ else register

theorem whole_record (register : Register α) (value : α) : (register.record differs value).Whole := by
  unfold record
  split
  · exact fun none => nomatch none
  · next current =>
    split
    · exact fun none => nomatch none
    · exact fun none => nomatch current.symm.trans none

theorem record_some (first value : α) (past : List α) :
    record differs ⟨some first, past⟩ value = if differs first value then ⟨some value, past ++ [first]⟩ else ⟨some first, past⟩ := rfl

/-- From a first value on, the values kept are those that differ from the last one kept. -/
theorem all_foldl (past : List α) (first : α) (values : List α) :
    (values.foldl (record differs) ⟨some first, past⟩).all = past ++ values.destutter' differs first := by
  induction values generalizing past first with
  | nil => rfl
  | cons value rest ih =>
    rw [List.foldl_cons]
    by_cases replaced : differs first value
    · rw [List.destutter'_cons_pos _ replaced, record_some, if_pos replaced, ih, List.append_assoc, List.singleton_append]
    · rw [List.destutter'_cons_neg _ replaced, record_some, if_neg replaced, ih]

theorem all_run (values : List α) : (values.foldl (record differs) {}).all = values.destutter differs := by
  cases values with
  | nil => rfl
  | cons first rest => exact all_foldl differs [] first rest

theorem whole_run (values : List α) : (values.foldl (record differs) {}).Whole := by
  induction values using List.reverseRecOn with
  | nil => exact fun _ => rfl
  | append_singleton values value _ =>
    rw [List.foldl_append]
    exact whole_record differs _ value

/-- After a run the archive holds every value kept but the last, which is the current one. -/
theorem run_eq (values : List α) :
    (values.foldl (record differs) {}).past = (values.destutter differs).dropLast ∧
      (values.foldl (record differs) {}).current = (values.destutter differs).getLast? := by
  rw [← all_run differs values]
  exact ⟨(whole_run differs values).past_eq, (whole_run differs values).current_eq⟩

end Register
end Versions
