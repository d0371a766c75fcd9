import RCAA.Ingestion.Records

/-! The text of an instant in UTC tells instants apart: the calendar date determines
the day, and the fields of the text are digits between separators. -/

namespace RCAA

/-! ## Dates -/

/-- The year of a day of an era of 400 years, counted from March. -/
def yearOfEra (dayOfEra : Int) : Int :=
  (dayOfEra - dayOfEra / 1460 + dayOfEra / 36524 - dayOfEra / 146096) / 365

def dayOfYear (dayOfEra : Int) : Int :=
  dayOfEra - (365 * yearOfEra dayOfEra + yearOfEra dayOfEra / 4 - yearOfEra dayOfEra / 100)

def dateOf (era year day : Int) : Int × Int × Int :=
  let shiftedMonth := (5 * day + 2) / 153
  let month := if shiftedMonth < 10 then shiftedMonth + 3 else shiftedMonth - 9
  (if month ≤ 2 then year + era * 400 + 1 else year + era * 400, month, day - (153 * shiftedMonth + 2) / 5 + 1)

theorem civil_eq (days : Int) : civil days =
    dateOf ((days + 719468) / 146097) (yearOfEra ((days + 719468) % 146097)) (dayOfYear ((days + 719468) % 146097)) := rfl

theorem yearOfEra_bounds {dayOfEra : Int} (lower : 0 ≤ dayOfEra) (upper : dayOfEra < 146097) :
    0 ≤ yearOfEra dayOfEra ∧ yearOfEra dayOfEra ≤ 399 := by
  unfold yearOfEra
  omega

theorem dayOfYear_bounds {dayOfEra : Int} (lower : 0 ≤ dayOfEra) (upper : dayOfEra < 146097) :
    0 ≤ dayOfYear dayOfEra ∧ dayOfYear dayOfEra ≤ 366 := by
  unfold dayOfYear
  obtain ⟨year, definition⟩ : ∃ year, year = yearOfEra dayOfEra := ⟨_, rfl⟩
  rw [← definition]
  unfold yearOfEra at definition
  -- The leap days of a century are counted within it.
  have days : dayOfEra / 36524 = 0 ∨ dayOfEra / 36524 = 1 ∨ dayOfEra / 36524 = 2 ∨ dayOfEra / 36524 = 3 ∨
      dayOfEra / 36524 = 4 := by omega
  have years : year / 100 = 0 ∨ year / 100 = 1 ∨ year / 100 = 2 ∨ year / 100 = 3 := by omega
  constructor
  · rcases days with c | c | c | c | c <;> rcases years with y | y | y | y <;> omega
  · omega

theorem dateOf_unique {era year day era' year' day' : Int} (years : 0 ≤ year ∧ year ≤ 399) (days : 0 ≤ day ∧ day ≤ 366)
    (years' : 0 ≤ year' ∧ year' ≤ 399) (days' : 0 ≤ day' ∧ day' ≤ 366) (same : dateOf era year day = dateOf era' year' day') :
    era = era' ∧ year = year' ∧ day = day' := by
  simp only [dateOf, Prod.mk.injEq] at same
  obtain ⟨calendarYear, month, dayOfMonth⟩ := same
  have shifted : (5 * day + 2) / 153 = (5 * day' + 2) / 153 := by
    split at month <;> split at month <;> omega
  rw [shifted] at calendarYear dayOfMonth
  have total : year + era * 400 = year' + era' * 400 := by
    generalize (if (5 * day' + 2) / 153 < 10 then (5 * day' + 2) / 153 + 3 else (5 * day' + 2) / 153 - 9) = m at calendarYear
    split at calendarYear <;> omega
  omega

theorem civil_injective : Function.Injective civil := by
  intro a b same
  have bounds (days : Int) : 0 ≤ (days + 719468) % 146097 ∧ (days + 719468) % 146097 < 146097 := by omega
  rw [civil_eq, civil_eq] at same
  obtain ⟨era, year, day⟩ := dateOf_unique (yearOfEra_bounds (bounds a).1 (bounds a).2)
    (dayOfYear_bounds (bounds a).1 (bounds a).2) (yearOfEra_bounds (bounds b).1 (bounds b).2)
    (dayOfYear_bounds (bounds b).1 (bounds b).2) same
  have inEra : (a + 719468) % 146097 = (b + 719468) % 146097 := by
    unfold dayOfYear at day
    rw [year] at day
    omega
  omega

/-- From the first day of year one, no part of a date is negative. -/
theorem civil_nonneg {days : Int} (lower : -719162 ≤ days) :
    0 ≤ (civil days).1 ∧ 0 ≤ (civil days).2.1 ∧ 0 ≤ (civil days).2.2 := by
  have bounds : 0 ≤ (days + 719468) % 146097 ∧ (days + 719468) % 146097 < 146097 := by omega
  have year := yearOfEra_bounds bounds.1 bounds.2
  have day := dayOfYear_bounds bounds.1 bounds.2
  rw [civil_eq]
  simp only [dateOf]
  refine ⟨?_, ?_, ?_⟩
  · split <;> omega
  · split <;> omega
  · omega

/-! ## Fields of the text -/

theorem isDigit_of_mem_padded {width n : Nat} {c : Char} (member : c ∈ (padded width n).toList) : c.isDigit = true := by
  rw [padded, String.toList_ofList, List.mem_append] at member
  rcases member with zero | digit
  · rw [List.eq_of_mem_replicate zero]
    rfl
  · exact Decimal.digits_isDigit digit

/-- Two texts that agree up to the first separator. -/
theorem split_at {x : Char} {a b rest rest' : List Char} (absent : x ∉ a) (absent' : x ∉ b)
    (same : a ++ x :: rest = b ++ x :: rest') : a = b ∧ rest = rest' := by
  induction a generalizing b with
  | nil =>
    cases b with
    | nil => exact ⟨rfl, (List.cons.inj same).2⟩
    | cons c b => exact absurd ((List.cons.inj same).1 ▸ List.mem_cons_self) absent'
  | cons c a ih =>
    cases b with
    | nil => exact absurd ((List.cons.inj same).1 ▸ List.mem_cons_self) absent
    | cons c' b =>
      obtain ⟨rfl, tail⟩ := List.cons.inj same
      obtain ⟨rfl, rests⟩ := ih (fun inside => absent (List.mem_cons_of_mem _ inside))
        (fun inside => absent' (List.mem_cons_of_mem _ inside)) tail
      exact ⟨rfl, rests⟩

theorem padded_split {width n m : Nat} {x : Char} {rest rest' : List Char} (separator : x.isDigit = false)
    (same : (padded width n).toList ++ x :: rest = (padded width m).toList ++ x :: rest') : n = m ∧ rest = rest' := by
  have absent (k : Nat) : x ∉ (padded width k).toList := by
    intro member
    rw [isDigit_of_mem_padded member] at separator
    cases separator
  obtain ⟨texts, rests⟩ := split_at (absent n) (absent m) same
  exact ⟨padded_injective width (String.toList_inj.mp texts), rests⟩

/-- The fraction of a second in the text, if there is one. -/
def fractionText (fraction : Nat) : List Char := if fraction = 0 then [] else '.' :: (padded 6 fraction).toList

theorem clockTime_toList (micros : Int) : (clockTime micros).toList =
    (padded 2 ((micros / 1000000).toNat / 3600)).toList ++ ':' ::
      ((padded 2 ((micros / 1000000).toNat / 60 % 60)).toList ++ ':' ::
        ((padded 2 ((micros / 1000000).toNat % 60)).toList ++ fractionText (micros % 1000000).toNat)) := by
  simp only [clockTime, fractionText, String.toList_append, List.append_assoc]
  split <;> simp

theorem seconds_split {n m f f' : Nat} {rest rest' : List Char}
    (same : (padded 2 n).toList ++ (fractionText f ++ '+' :: rest) = (padded 2 m).toList ++ (fractionText f' ++ '+' :: rest')) :
    n = m ∧ f = f' := by
  have digits (k : Nat) {c : Char} (other : c.isDigit = false) : c ∉ (padded 2 k).toList := by
    intro member
    rw [isDigit_of_mem_padded member] at other
    cases other
  have seconds (k g : Nat) : '+' ∉ (padded 2 k).toList ++ fractionText g := by
    rw [List.mem_append, not_or]
    refine ⟨digits k rfl, ?_⟩
    unfold fractionText
    split
    · nofun
    · intro member
      rcases List.mem_cons.mp member with point | digit
      · exact absurd point (by decide)
      · exact absurd (isDigit_of_mem_padded digit) (by decide)
  rw [← List.append_assoc, ← List.append_assoc] at same
  have text := (split_at (seconds n f) (seconds m f') same).1
  unfold fractionText at text
  split at text <;> split at text
  · next none none' =>
    simp only [List.append_nil] at text
    exact ⟨padded_injective 2 (String.toList_inj.mp text), none.trans none'.symm⟩
  · rw [List.append_nil] at text
    exact absurd (text ▸ List.mem_append_right _ List.mem_cons_self) (digits n rfl)
  · rw [List.append_nil] at text
    exact absurd (text ▸ List.mem_append_right _ List.mem_cons_self) (digits m rfl)
  · obtain ⟨seconds, fraction⟩ := padded_split rfl text
    exact ⟨seconds, padded_injective 6 (String.toList_inj.mp fraction)⟩

theorem isoformat_toList (wall : Int) : (⟨wall, some 0⟩ : DateTime).isoformat.toList =
    (padded 4 (civil (wall / DateTime.day)).1.toNat).toList ++ '-' ::
      ((padded 2 (civil (wall / DateTime.day)).2.1.toNat).toList ++ '-' ::
        ((padded 2 (civil (wall / DateTime.day)).2.2.toNat).toList ++ 'T' ::
          ((clockTime (wall % DateTime.day)).toList ++ "+00:00".toList))) := by
  have zone : offsetText 0 = "+00:00" := by decide
  have dash : "-".toList = ['-'] := rfl
  have letter : "T".toList = ['T'] := rfl
  simp only [DateTime.isoformat, zone, String.toList_append, List.append_assoc, dash, letter, List.cons_append,
    List.nil_append]

/-- The text of a time in UTC from year one on. -/
theorem isoformat_injective {a b : Int} (lower : firstInstant ≤ a) (lower' : firstInstant ≤ b)
    (same : (⟨a, some 0⟩ : DateTime).isoformat = (⟨b, some 0⟩ : DateTime).isoformat) : a = b := by
  have text := congrArg String.toList same
  rw [isoformat_toList, isoformat_toList, clockTime_toList, clockTime_toList] at text
  simp only [List.append_assoc, List.cons_append] at text
  obtain ⟨year, text⟩ := padded_split rfl text
  obtain ⟨month, text⟩ := padded_split rfl text
  obtain ⟨day, text⟩ := padded_split rfl text
  obtain ⟨hours, text⟩ := padded_split rfl text
  obtain ⟨minutes, text⟩ := padded_split rfl text
  obtain ⟨seconds, fraction⟩ := seconds_split text
  have days (wall : Int) (first : firstInstant ≤ wall) : -719162 ≤ wall / DateTime.day := by
    simp only [firstInstant, DateTime.day, DateTime.minute] at first ⊢
    omega
  obtain ⟨y, m, d⟩ := civil_nonneg (days a lower)
  obtain ⟨y', m', d'⟩ := civil_nonneg (days b lower')
  have date : a / DateTime.day = b / DateTime.day :=
    civil_injective (Prod.ext (by omega) (Prod.ext (by omega) (by omega)))
  simp only [DateTime.day, DateTime.minute] at date hours minutes seconds fraction
  omega

/-! ## Instants -/

/-- A point in time a timestamp can hold. -/
abbrev Instant := { t : Int // firstInstant ≤ t ∧ t ≤ lastInstant }

/-- `t.astimezone(timezone.utc).isoformat()`. -/
def Instant.text (t : Instant) : String := (⟨t.1, some 0⟩ : DateTime).isoformat

theorem Instant.text_injective : Function.Injective Instant.text :=
  fun a b same => Subtype.ext (isoformat_injective a.2.1 b.2.1 same)

end RCAA
