import RCAA.Cases.Models
import RCAA.Library.Outcome

/-! The summary of a merchant's records over a period. Four statements are bounded by
the creation time of their model, a column the settlements do not have; the counts of
open and resolved cases and of the severities and codes are not bounded. The database
adds without rounding. -/

namespace RCAA.Reports

/-! ## What is read -/

structure Tables where
  store : Store := {}
  desk : Desk := {}
  exceptionCreatedAt : ReconciliationException → Int := fun _ => 0

namespace Tables
variable (tables : Tables) (merchantId : String)

def payments : List Payment := tables.store.payments.filter fun p => p.merchantId = some merchantId
def settlements : List Settlement := tables.store.settlements.filter fun s => s.merchantId = some merchantId

def exceptions : List ReconciliationException :=
  tables.desk.exceptions.filter fun e => e.merchantId = some merchantId

def cases : List CaseRow := tables.desk.cases.filter fun c => c.merchantId = some merchantId

end Tables

inductive ReportError where
  /-- `AttributeError`. -/
  | attribute (message : String)
  /-- `InvalidOperation`. -/
  | invalidOperation
deriving DecidableEq, Repr

/-- `model.created_at`, read when a statement is bounded. -/
abbrev CreatedAt (α : Type) := Except ReportError (α → Int)

def paymentCreatedAt : CreatedAt Payment := .ok fun p => p.createdAt.instant

/-- The model has `settled_at` and `received_at`. -/
def settlementCreatedAt : CreatedAt Settlement :=
  .error (.attribute "type object 'Settlement' has no attribute 'created_at'")

def exceptionCreatedAt (tables : Tables) : CreatedAt ReconciliationException := .ok tables.exceptionCreatedAt
def caseCreatedAt : CreatedAt CaseRow := .ok (·.createdAt)

section Period
variable {α : Type}

def fromStart (createdAt : CreatedAt α) (start : Option DateTime) (rows : List α) : Except ReportError (List α) :=
  match start with
  | none => .ok rows
  | some start => createdAt.map fun time => rows.filter fun row => start.instant ≤ time row

def toEnd (createdAt : CreatedAt α) (stop : Option DateTime) (rows : List α) : Except ReportError (List α) :=
  match stop with
  | none => .ok rows
  | some stop => createdAt.map fun time => rows.filter fun row => time row ≤ stop.instant

/-- The rows of a bounded statement. -/
def within (createdAt : CreatedAt α) (start stop : Option DateTime) (rows : List α) : Except ReportError (List α) := do
  toEnd createdAt stop (← fromStart createdAt start rows)

end Period

/-! ## The figures -/

/-- `Decimal(x).quantize(Decimal("0.01"))`. -/
def twoPlaces (x : Decimal) : Except ReportError Decimal :=
  match x.quantize 28 (-2) with
  | none => .error .invalidOperation
  | some rounded => .ok rounded

/-- One more in the group of a value, which may be new. -/
def countIn (value : String) : List (String × Nat) → List (String × Nat)
  | [] => [(value, 1)]
  | (group, count) :: rest => if group = value then (group, count + 1) :: rest else (group, count) :: countIn value rest

/-- The group counts of a column; the statement leaves their order open. -/
def counts (values : List String) : List (String × Nat) := values.foldr countIn []

/-- `Decimal("100") * x`, of a number computed in the context. -/
def hundredfold (x : Decimal) : Decimal :=
  let kept := x.inContext 28
  (⟨100 * kept.coeff, kept.exponent⟩ : Decimal).inContext 28

/-- The larger of zero and the share of payments without an exception, which is negative
or zero where there are as many exceptions. -/
def matchRate (payments exceptions : Nat) : Decimal :=
  if payments = 0 then .ofInt 100
  else if payments ≤ exceptions then .zero
  else (hundredfold (.ofInt (payments - exceptions))).quotient 28 (.ofInt payments)

example : (matchRate 3 1).quantize 28 (-2) = some ⟨6667, -2⟩ := by decide

/-- A count and the text of an amount. -/
structure Figure where
  count : Nat
  amount : String

def figure {α : Type} (amount : α → Decimal) (rows : List α) : Except ReportError Figure :=
  (twoPlaces (.sum (rows.map amount))).map fun sum => ⟨rows.length, sum.str⟩

structure Summary where
  periodStart : Option String
  periodEnd : Option String
  payments : Figure
  settlements : Figure
  exceptions : Figure
  bySeverity : List (String × Nat)
  byCode : List (String × Nat)
  cases : Nat
  openCases : Nat
  resolvedCases : Nat
  estimatedMatchRate : String

def openStatuses : List String := ["OPEN", "IN_PROGRESS", "REOPENED"]

/-- The report of the rows the four bounded statements find. -/
def summarize (tables : Tables) (merchantId : String) (start stop : Option DateTime) (payments : List Payment)
    (settlements : List Settlement) (exceptions : List ReconciliationException) (cases : List CaseRow) :
    Except ReportError Summary := do
  let paymentFigure ← figure Payment.amount payments
  let settlementFigure ← figure Settlement.netAmount settlements
  let exceptionFigure ← figure (fun e => e.difference.money.abs) exceptions
  let rate ← twoPlaces (matchRate payments.length exceptions.length)
  return {
    periodStart := start.map DateTime.isoformat
    periodEnd := stop.map DateTime.isoformat
    payments := paymentFigure
    settlements := settlementFigure
    exceptions := exceptionFigure
    bySeverity := counts ((tables.exceptions merchantId).map (·.severity))
    byCode := counts ((tables.exceptions merchantId).map (·.exceptionCode))
    cases := cases.length
    openCases := (tables.cases merchantId).countP fun c => c.status ∈ openStatuses
    resolvedCases := (tables.cases merchantId).countP fun c => c.status = "RESOLVED"
    estimatedMatchRate := rate.str }

def buildSummary (tables : Tables) (merchantId : String) (start stop : Option DateTime) : Except ReportError Summary := do
  let payments ← within paymentCreatedAt start stop (tables.payments merchantId)
  let settlements ← within settlementCreatedAt start stop (tables.settlements merchantId)
  let exceptions ← within (exceptionCreatedAt tables) start stop (tables.exceptions merchantId)
  let cases ← within caseCreatedAt start stop (tables.cases merchantId)
  summarize tables merchantId start stop payments settlements exceptions cases

/-! ## Bounded statements -/

section Within
variable {α : Type} {start stop : Option DateTime}

/-- The row was created in the period. -/
def inPeriod (time : α → Int) (start stop : Option DateTime) (row : α) : Bool :=
  (start.all fun start => start.instant ≤ time row) && stop.all fun stop => time row ≤ stop.instant

theorem fromStart_created (time : α → Int) (start : Option DateTime) (rows : List α) :
    fromStart (.ok time) start rows = .ok (rows.filter fun row => start.all fun start => start.instant ≤ time row) := by
  cases start with
  | none => exact congrArg Except.ok (List.filter_eq_self.mpr fun _ _ => rfl).symm
  | some start => rfl

theorem toEnd_created (time : α → Int) (stop : Option DateTime) (rows : List α) :
    toEnd (.ok time) stop rows = .ok (rows.filter fun row => stop.all fun stop => time row ≤ stop.instant) := by
  cases stop with
  | none => exact congrArg Except.ok (List.filter_eq_self.mpr fun _ _ => rfl).symm
  | some stop => rfl

theorem within_created (time : α → Int) (start stop : Option DateTime) (rows : List α) :
    within (.ok time) start stop rows = .ok (rows.filter (inPeriod time start stop)) := by
  rw [within, fromStart_created]
  refine (toEnd_created time stop _).trans ?_
  rw [List.filter_filter]
  exact congrArg Except.ok (List.filter_congr fun row _ => Bool.and_comm _ _)

/-- A statement on a model without the column is not built. -/
theorem within_missing (error : ReportError) (bounded : start ≠ none ∨ stop ≠ none) (rows : List α) :
    within (.error error) start stop rows = .error error := by
  cases start with
  | none =>
    cases stop with
    | none => simp at bounded
    | some stop => rfl
  | some start => rfl

/-- The instant is in the period. -/
def Inside (start stop : Option DateTime) (instant : DateTime) : Prop :=
  (∀ s, start = some s → s.instant ≤ instant.instant) ∧ ∀ e, stop = some e → instant.instant ≤ e.instant

theorem inPeriod_split {time : α → Int} {instant : DateTime} (inside : Inside start stop instant) {row : α}
    (apart : time row ≠ instant.instant) :
    (inPeriod time start (some instant) row).toNat + (inPeriod time (some instant) stop row).toNat =
      (inPeriod time start stop row).toNat := by
  obtain ⟨after, before⟩ := inside
  rcases lt_or_gt_of_ne apart with earlier | later
  · have ends : (stop.all fun stop => time row ≤ stop.instant) = true :=
      (Option.all_eq_true _ _).mpr fun e given => decide_eq_true (earlier.le.trans (before e given))
    simp only [inPeriod, Option.all_some, ends, decide_eq_true earlier.le, decide_eq_false (not_le.mpr earlier),
      Bool.and_true, Bool.toNat_false, Nat.add_zero]
  · have starts : (start.all fun start => start.instant ≤ time row) = true :=
      (Option.all_eq_true _ _).mpr fun s given => decide_eq_true ((after s given).trans later.le)
    simp only [inPeriod, Option.all_some, starts, decide_eq_true later.le, decide_eq_false (not_le.mpr later),
      Bool.true_and, Bool.and_false, Bool.toNat_false, Nat.zero_add]

/-- A period splits at any instant between the rows of a model that has the column. -/
theorem within_split {time : α → Int} {instant : DateTime} (inside : Inside start stop instant) {rows : List α}
    (between : ∀ row ∈ rows, time row ≠ instant.instant) :
    (rows.filter (inPeriod time start (some instant))).length + (rows.filter (inPeriod time (some instant) stop)).length =
      (rows.filter (inPeriod time start stop)).length := by
  induction rows with
  | nil => rfl
  | cons row rest ih =>
    obtain ⟨apart, later⟩ := List.forall_mem_cons.mp between
    have first := inPeriod_split inside apart
    have others := ih later
    have counted (listed : Bool) : (if listed = true then 1 else 0) = listed.toNat := by cases listed <;> rfl
    simp only [← List.countP_eq_length_filter, List.countP_cons, counted] at others ⊢
    omega

end Within

/-! ## Consistent totals -/

theorem countIn_sum (value : String) (groups : List (String × Nat)) :
    ((countIn value groups).map Prod.snd).sum = (groups.map Prod.snd).sum + 1 := by
  induction groups with
  | nil => rfl
  | cons group rest ih =>
    obtain ⟨name, count⟩ := group
    rw [countIn]
    split
    · simp only [List.map_cons, List.sum_cons]
      omega
    · simp only [List.map_cons, List.sum_cons, ih]
      omega

theorem counts_sum (values : List String) : ((counts values).map Prod.snd).sum = values.length := by
  induction values with
  | nil => rfl
  | cons value rest ih => rw [counts, List.foldr_cons, countIn_sum, ← counts, ih, List.length_cons]

/-- Two kinds that no row has both of, counted apart and together. -/
theorem countP_add_of_apart {α : Type} {p q : α → Bool} (apart : ∀ a, p a = true → q a = false) (rows : List α) :
    rows.countP p + rows.countP q = rows.countP fun a => p a || q a := by
  induction rows with
  | nil => rfl
  | cons a rest ih =>
    simp only [List.countP_cons, ← ih]
    cases first : p a with
    | true =>
      rw [apart a first]
      simp only [Bool.or_false, if_true, Bool.false_eq_true, if_false]
      omega
    | false =>
      simp only [Bool.false_or, Bool.false_eq_true, if_false]
      omega

namespace Summary

/-- The groups sum to the exceptions, and every case is open or resolved. -/
structure Consistent (s : Summary) : Prop where
  severities : (s.bySeverity.map Prod.snd).sum = s.exceptions.count
  codes : (s.byCode.map Prod.snd).sum = s.exceptions.count
  cases : s.openCases + s.resolvedCases = s.cases

/-- The counts of two periods add up to those of a third. -/
structure AddsUp (first second whole : Summary) : Prop where
  payments : first.payments.count + second.payments.count = whole.payments.count
  settlements : first.settlements.count + second.settlements.count = whole.settlements.count
  exceptions : first.exceptions.count + second.exceptions.count = whole.exceptions.count
  cases : first.cases + second.cases = whole.cases

end Summary

section Report
variable (tables : Tables) (merchantId : String)

/-- The times the merchant's records have; a settlement has the one it was settled at. -/
def instants : List Int :=
  (tables.payments merchantId).map (·.createdAt.instant) ++ (tables.settlements merchantId).map (·.settledAt.instant) ++
    (tables.exceptions merchantId).map tables.exceptionCreatedAt ++ (tables.cases merchantId).map (·.createdAt)

/-- The report of a period is consistent, and adds up from those of its parts wherever it
is split between records. -/
def ReportHolds (start stop : Option DateTime) : Prop :=
  ∃ whole, buildSummary tables merchantId start stop = .ok whole ∧ whole.Consistent ∧
    ∀ instant : DateTime, instant.instant ∉ instants tables merchantId → Inside start stop instant →
      ∃ first second, buildSummary tables merchantId start (some instant) = .ok first ∧
        buildSummary tables merchantId (some instant) stop = .ok second ∧ first.AddsUp second whole

/-- The amounts a report of all records prints with two places. -/
def totals : List Decimal :=
  [.sum ((tables.payments merchantId).map Payment.amount),
    .sum ((tables.settlements merchantId).map Settlement.netAmount),
    .sum ((tables.exceptions merchantId).map fun e => e.difference.money.abs)]

/-- Each of them has at most 28 digits. -/
def Printable : Prop := ∀ x ∈ totals tables merchantId, (x.quantize 28 (-2)).isSome = true

/-- Every case has a status of the service. -/
def StatusesKnown : Prop := ∀ c ∈ tables.cases merchantId, ∃ status : CaseStatus, c.status = status.value

/-- The settlements have no column to bound. -/
theorem buildSummary_bounded {start stop : Option DateTime} (bounded : start ≠ none ∨ stop ≠ none) :
    ∃ error, buildSummary tables merchantId start stop = .error error := by
  refine ⟨.attribute "type object 'Settlement' has no attribute 'created_at'", ?_⟩
  rw [buildSummary, paymentCreatedAt, within_created, settlementCreatedAt, within_missing _ bounded]
  rfl

end Report

/-! ## A report of all records -/

theorem twoPlaces_returns_iff (x : Decimal) : (∃ rounded, twoPlaces x = .ok rounded) ↔ (x.quantize 28 (-2)).isSome = true := by
  rw [twoPlaces]
  cases x.quantize 28 (-2) with
  | none => simp
  | some rounded => exact ⟨fun _ => rfl, fun _ => ⟨rounded, rfl⟩⟩

theorem figure_ok {α : Type} {amount : α → Decimal} {rows : List α} {f : Figure} (done : figure amount rows = .ok f) :
    f.count = rows.length ∧ ((Decimal.sum (rows.map amount)).quantize 28 (-2)).isSome = true := by
  obtain ⟨sum, printed, rfl⟩ := Outcome.map_ok done
  exact ⟨rfl, (twoPlaces_returns_iff _).mp ⟨sum, printed⟩⟩

theorem figure_returns {α : Type} {amount : α → Decimal} {rows : List α}
    (fits : ((Decimal.sum (rows.map amount)).quantize 28 (-2)).isSome = true) : ∃ f, figure amount rows = .ok f := by
  obtain ⟨sum, printed⟩ := (twoPlaces_returns_iff _).mpr fits
  exact ⟨⟨rows.length, sum.str⟩, by rw [figure, printed]; rfl⟩

theorem hundredfold_nonneg {x : Decimal} (nonneg : 0 ≤ x.coeff) : 0 ≤ (hundredfold x).coeff :=
  Decimal.inContext_nonneg 28 (mul_nonneg (by decide) (Decimal.inContext_nonneg 28 nonneg))

theorem toRat_hundredfold_le {x : Decimal} (nonneg : 0 ≤ x.coeff) : (hundredfold x).toRat ≤ 400 * x.toRat := by
  have kept : 0 ≤ (x.inContext 28).coeff := Decimal.inContext_nonneg 28 nonneg
  have first := Decimal.toRat_inContext_le (by decide : 0 < 28) nonneg
  have scaled : (⟨100 * (x.inContext 28).coeff, (x.inContext 28).exponent⟩ : Decimal).toRat = 100 * (x.inContext 28).toRat := by
    simp only [Decimal.toRat]
    push_cast
    ring
  have second : (hundredfold x).toRat ≤ 2 * (⟨100 * (x.inContext 28).coeff, (x.inContext 28).exponent⟩ : Decimal).toRat :=
    Decimal.toRat_inContext_le (by decide) (mul_nonneg (by decide) kept)
  linarith

/-- The rate is a share of a hundred, which rounding in a context at most doubles. -/
theorem matchRate_prints (payments exceptions : Nat) : ((matchRate payments exceptions).quantize 28 (-2)).isSome = true := by
  unfold matchRate
  split
  · decide
  · split
    · decide
    · next some_payments fewer =>
      have count : 0 < (Decimal.ofInt payments).coeff := by
        simp only [Decimal.ofInt]
        omega
      have difference : 0 ≤ (Decimal.ofInt (payments - exceptions)).coeff := by
        simp only [Decimal.ofInt]
        omega
      have share : (hundredfold (.ofInt (payments - exceptions))).toRat / (Decimal.ofInt payments).toRat ≤ 400 := by
        have positive : (0 : ℚ) < payments := by exact_mod_cast (by omega : 0 < payments)
        have scaled := toRat_hundredfold_le difference
        rw [Decimal.toRat_ofInt] at scaled
        rw [Decimal.toRat_ofInt, Int.cast_natCast, div_le_iff₀ positive]
        push_cast at scaled
        have subtracted : (0 : ℚ) ≤ exceptions := Nat.cast_nonneg exceptions
        linarith
      have rate := Decimal.toRat_quotient_le (by decide : 0 < 28) (hundredfold_nonneg difference) count
      have limit : (1601 : ℚ) ≤ (10 ^ 28 : Nat) * (10 : ℚ) ^ (-2 : Int) := by norm_num
      have unit : (10 : ℚ) ^ (-2 : Int) ≤ 1 := by norm_num
      exact Decimal.quantize_isSome (Decimal.quotient_nonneg 28 (hundredfold_nonneg difference) count.le) (by linarith)

section Unbounded
variable {tables : Tables} {merchantId : String}

/-- What a report of all records says of exceptions and cases. -/
structure Unbounded (tables : Tables) (merchantId : String) (s : Summary) : Prop where
  exceptions : s.exceptions.count = (tables.exceptions merchantId).length
  bySeverity : s.bySeverity = counts ((tables.exceptions merchantId).map (·.severity))
  byCode : s.byCode = counts ((tables.exceptions merchantId).map (·.exceptionCode))
  cases : s.cases = (tables.cases merchantId).length
  openCases : s.openCases = (tables.cases merchantId).countP fun c => c.status ∈ openStatuses
  resolvedCases : s.resolvedCases = (tables.cases merchantId).countP fun c => c.status = "RESOLVED"

theorem unbounded_ok {s : Summary} (built : buildSummary tables merchantId none none = .ok s) :
    Unbounded tables merchantId s ∧ Printable tables merchantId := by
  have summarized : summarize tables merchantId none none (tables.payments merchantId) (tables.settlements merchantId)
    (tables.exceptions merchantId) (tables.cases merchantId) = .ok s := built
  obtain ⟨payments, first, summarized⟩ := Outcome.bind_ok summarized
  obtain ⟨settlements, second, summarized⟩ := Outcome.bind_ok summarized
  obtain ⟨exceptions, third, summarized⟩ := Outcome.bind_ok summarized
  obtain ⟨_, _, summarized⟩ := Outcome.bind_ok summarized
  cases summarized
  refine ⟨⟨(figure_ok third).1, rfl, rfl, rfl, rfl, rfl⟩, ?_⟩
  simp only [Printable, totals, List.forall_mem_cons, List.not_mem_nil, false_implies, implies_true, and_true]
  exact ⟨(figure_ok first).2, (figure_ok second).2, (figure_ok third).2⟩

theorem unbounded_returns (fits : Printable tables merchantId) : ∃ s, buildSummary tables merchantId none none = .ok s := by
  simp only [Printable, totals, List.forall_mem_cons, List.not_mem_nil, false_implies, implies_true, and_true] at fits
  obtain ⟨payments, first⟩ := figure_returns fits.1
  obtain ⟨settlements, second⟩ := figure_returns fits.2.1
  obtain ⟨exceptions, third⟩ := figure_returns fits.2.2
  obtain ⟨rate, fourth⟩ := (twoPlaces_returns_iff _).mpr
    (matchRate_prints (tables.payments merchantId).length (tables.exceptions merchantId).length)
  have summarized : buildSummary tables merchantId none none =
    summarize tables merchantId none none (tables.payments merchantId) (tables.settlements merchantId)
      (tables.exceptions merchantId) (tables.cases merchantId) := rfl
  rw [summarized, summarize, first, second, third, fourth]
  exact ⟨_, rfl⟩

/-- The open and the resolved cases are all cases when each has a status of the service. -/
theorem statuses_counted (tables : Tables) (merchantId : String) :
    ((tables.cases merchantId).countP fun c => c.status ∈ openStatuses) +
        ((tables.cases merchantId).countP fun c => c.status = "RESOLVED") = (tables.cases merchantId).length ↔
      StatusesKnown tables merchantId := by
  have apart : ∀ c : CaseRow, decide (c.status ∈ openStatuses) = true → decide (c.status = "RESOLVED") = false := by
    intro c opened
    refine decide_eq_false fun resolved => ?_
    rw [resolved] at opened
    exact absurd opened (by decide)
  rw [countP_add_of_apart apart, List.countP_eq_length]
  refine forall₂_congr fun c _ => ?_
  rw [Bool.or_eq_true, decide_eq_true_iff, decide_eq_true_iff]
  constructor
  · rintro (opened | resolved)
    · simp only [openStatuses, List.mem_cons, List.not_mem_nil, or_false] at opened
      rcases opened with opened | progress | reopened
      · exact ⟨.opened, opened⟩
      · exact ⟨.inProgress, progress⟩
      · exact ⟨.reopened, reopened⟩
    · exact ⟨.resolved, resolved⟩
  · rintro ⟨status, same⟩
    rw [same]
    cases status <;> decide

theorem Unbounded.consistent_iff {s : Summary} (report : Unbounded tables merchantId s) :
    s.Consistent ↔ StatusesKnown tables merchantId := by
  rw [← statuses_counted, ← report.openCases, ← report.resolvedCases, ← report.cases]
  refine ⟨Summary.Consistent.cases, fun cases => ⟨?severities, ?codes, cases⟩⟩
  case severities => rw [report.bySeverity, counts_sum, List.length_map, report.exceptions]
  case codes => rw [report.byCode, counts_sum, List.length_map, report.exceptions]

end Unbounded

section Totals
variable (tables : Tables) (merchantId : String)

/-- There is an instant between records, since one may come after them all. -/
theorem exists_between : ∃ instant : DateTime, instant.instant ∉ instants tables merchantId := by
  obtain ⟨latest, above⟩ := (instants tables merchantId).toFinset.exists_le
  refine ⟨⟨latest + 1, some 0⟩, fun used => ?_⟩
  have later := above _ (List.mem_toFinset.mpr used)
  simp only [DateTime.instant, Option.getD_some, sub_zero] at later
  omega

/-- No report holds: one of a bounded period is not built, and a period splits into bounded
ones. A report by itself is consistent exactly when it is of all records, its figures
print, and every case has a status of the service. -/
theorem report_totals_fail (start stop : Option DateTime) : ¬ReportHolds tables merchantId start stop ∧
    ((∃ s, buildSummary tables merchantId start stop = .ok s ∧ s.Consistent) ↔
      start = none ∧ stop = none ∧ Printable tables merchantId ∧ StatusesKnown tables merchantId) := by
  have refused : ∀ start stop s, start ≠ none ∨ stop ≠ none → buildSummary tables merchantId start stop ≠ .ok s := by
    intro start stop s bounded built
    obtain ⟨error, raised⟩ := buildSummary_bounded tables merchantId bounded
    rw [raised] at built
    cases built
  by_cases bounded : start ≠ none ∨ stop ≠ none
  · refine ⟨fun ⟨s, built, _⟩ => refused start stop s bounded built, fun ⟨s, built, _⟩ => ?_, fun unbounded => ?_⟩
    · exact absurd built (refused start stop s bounded)
    · exact absurd bounded (by simp [unbounded.1, unbounded.2.1])
  · obtain ⟨rfl, rfl⟩ : start = none ∧ stop = none := by simpa using bounded
    constructor
    · rintro ⟨whole, _, _, splits⟩
      obtain ⟨instant, between⟩ := exists_between tables merchantId
      obtain ⟨first, _, built, _⟩ := splits instant between ⟨nofun, nofun⟩
      exact refused none (some instant) first (.inr nofun) built
    · constructor
      · rintro ⟨s, built, consistent⟩
        obtain ⟨report, fits⟩ := unbounded_ok built
        exact ⟨rfl, rfl, fits, report.consistent_iff.mp consistent⟩
      · rintro ⟨-, -, fits, known⟩
        obtain ⟨s, built⟩ := unbounded_returns fits
        exact ⟨s, built, (unbounded_ok built).1.consistent_iff.mpr known⟩

/-- A report from the beginning of a year. -/
theorem report_from_date_raises : ¬ReportHolds {} "m1" (some ⟨1704067200000000, some 0⟩) none := by
  rintro ⟨whole, built, _⟩
  have bounded : some (⟨1704067200000000, some 0⟩ : DateTime) ≠ none ∨ (none : Option DateTime) ≠ none := .inl nofun
  obtain ⟨error, raised⟩ := buildSummary_bounded {} "m1" bounded
  rw [raised] at built
  cases built

end Totals

end RCAA.Reports
