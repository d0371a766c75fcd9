import RCAA.Values

/-! Case numbers: the year and a running count of the year's cases. In a store whose
cases were all numbered this way the next number is unused, so the unique constraint
on the column never fires. -/

namespace RCAA

/-- `RCAA-{year}-`. -/
def yearPrefix (year : Nat) : List Char := "RCAA-".toList ++ (Decimal.digits year ++ ['-'])

def caseNumber (year n : Nat) : String := String.ofList (yearPrefix year ++ (padded 6 n).toList)

/-- `case_number LIKE 'RCAA-{year}-%'`. -/
def inYear (year : Nat) (number : String) : Bool := (yearPrefix year).isPrefixOf number.toList

def nextCaseNumber (numbers : List String) (year : Nat) : String :=
  caseNumber year ((numbers.filter (inYear year)).length + 1)

/-- The numbers of each year are the first ones, in order. -/
def Numbered (numbers : List String) : Prop :=
  ∀ year, numbers.filter (inYear year) =
    (List.range (numbers.filter (inYear year)).length).map fun n => caseNumber year (n + 1)

theorem numbered_nil : Numbered [] := fun _ => rfl

theorem caseNumber_injective (year : Nat) : Function.Injective (caseNumber year) := by
  intro m n same
  simp only [caseNumber, String.ofList_inj, List.append_cancel_left_eq, String.toList_inj] at same
  exact padded_injective 6 same

/-- A number is counted in its own year only. -/
theorem inYear_caseNumber (year other n : Nat) : inYear other (caseNumber year n) = decide (other = year) := by
  rw [Bool.eq_iff_iff, decide_eq_true_eq, inYear, List.isPrefixOf_iff_prefix, caseNumber, String.toList_ofList]
  constructor
  · rintro ⟨rest, same⟩
    simp only [yearPrefix, List.append_assoc, List.append_cancel_left_eq, List.singleton_append] at same
    have stop : ∀ rest : List Char, ∀ c ∈ ('-' :: rest).head?, c.isDigit = false := by
      intro rest c h
      simp only [List.head?_cons, Option.mem_def, Option.some.injEq] at h
      subst h
      rfl
    have digits := (Decimal.takeWhile_digits (fun c h => Decimal.digits_isDigit (n := other) h) (stop rest)).1
    rw [same, (Decimal.takeWhile_digits (fun c h => Decimal.digits_isDigit (n := year) h) (stop _)).1] at digits
    have value := congrArg (fun ds => Nat.ofDigitChars 10 ds 0) digits
    simpa only [Decimal.digits, Nat.ofDigitChars_ten_toDigits, eq_comm] using value
  · rintro rfl
    exact List.prefix_append _ _

theorem nextCaseNumber_fresh {numbers : List String} (numbered : Numbered numbers) (year : Nat) :
    nextCaseNumber numbers year ∉ numbers := by
  intro used
  have counted : nextCaseNumber numbers year ∈ numbers.filter (inYear year) :=
    List.mem_filter.mpr ⟨used, by simp [nextCaseNumber, inYear_caseNumber]⟩
  rw [numbered year] at counted
  obtain ⟨n, small, same⟩ := List.mem_map.mp counted
  have equal := caseNumber_injective year same
  have bound := List.mem_range.mp small
  omega

theorem Numbered.next {numbers : List String} (numbered : Numbered numbers) (year : Nat) :
    Numbered (numbers ++ [nextCaseNumber numbers year]) := by
  intro other
  have year' := numbered other
  by_cases same : other = year
  · subst same
    simp only [List.filter_append, List.filter_cons, nextCaseNumber, inYear_caseNumber, decide_true, if_true,
      List.filter_nil, List.length_append, List.length_singleton, List.range_succ, List.map_append, List.map_cons,
      List.map_nil]
    rw [← year']
  · simp only [List.filter_append, List.filter_cons, nextCaseNumber, inYear_caseNumber, same, decide_false,
      Bool.false_eq_true, if_false, List.filter_nil, List.append_nil]
    exact year'

end RCAA
