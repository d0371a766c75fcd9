import RCAA.Ingestion.Merchants
import RCAA.Reconciliation.EngineProofs

/-! The status of a refund from its record to the difference of a payment. Ingestion and
the calculator each have a list of the words for a refund that counts. -/

namespace RCAA

/-! ## The calculator -/

/-- What one refund takes from the expected amount. -/
def deduction (r : Refund) : Rat := if r.status ∈ deductedStatuses then r.amount.toRat else 0

theorem refunded_insert (before after : List Refund) (r : Refund) :
    (Decimal.sum (((before ++ r :: after).filter (fun r => r.status ∈ deductedStatuses)).map Refund.amount)).toRat =
      (Decimal.sum (((before ++ after).filter (fun r => r.status ∈ deductedStatuses)).map Refund.amount)).toRat + deduction r := by
  simp only [Decimal.toRat_sum, List.filter_append, List.map_append, List.sum_append, List.filter_cons, deduction,
    decide_eq_true_eq]
  split
  · simp only [List.map_cons, List.sum_cons]
    ring
  · ring

section Platform
variable [Platform]

/-- A refund, wherever in the list, lowers the expectation by its deduction and raises the
difference by it. -/
theorem calculate_insert {payment : Payment} {before after : List Refund} {r : Refund} {settlements : List Settlement}
    {e : Expectation} (calculated : calculateExpectedSettlement payment (before ++ r :: after) settlements = .ok e) :
    ∃ without, calculateExpectedSettlement payment (before ++ after) settlements = .ok without ∧
      e.expected.toRat = without.expected.toRat - deduction r ∧
      e.difference.toRat = without.difference.toRat + deduction r := by
  obtain ⟨adjustments, adjusted, calculated⟩ := Outcome.bind_ok calculated
  cases calculated
  refine ⟨_, by simp only [calculateExpectedSettlement, adjusted]; rfl, ?_, ?_⟩
  · simp only [Decimal.toRat_sub, Decimal.toRat_add, refunded_insert]
    ring
  · simp only [Decimal.toRat_sub, Decimal.toRat_add, refunded_insert]
    ring

/-- Without settlements there is always an expectation. -/
theorem calculate_unsettled (payment : Payment) (refunds : List Refund) :
    ∃ e, calculateExpectedSettlement payment refunds [] = .ok e := ⟨_, rfl⟩

/-! ## What ingestion makes of a refund -/

/-- Ingestion takes the refund as pending or as effective. -/
def TakenAsRefund (r : Refund) : Prop := r.status = "created" ∨ r.processedAt.isSome = true

/-- The calculator deducts the refund exactly when ingestion takes it as one: with it the
expectation is less by its amount, or else the same, and so the difference. -/
def DeductedAsTaken (r : Refund) : Prop :=
  ∀ (payment : Payment) (before after : List Refund) (settlements : List Settlement) (e : Expectation),
    calculateExpectedSettlement payment (before ++ r :: after) settlements = .ok e →
      ∃ without, calculateExpectedSettlement payment (before ++ after) settlements = .ok without ∧
        (TakenAsRefund r → e.expected.toRat = without.expected.toRat - r.amount.toRat ∧
          e.difference.toRat = without.difference.toRat + r.amount.toRat) ∧
        (¬TakenAsRefund r → e.expected.toRat = without.expected.toRat ∧ e.difference.toRat = without.difference.toRat)

/-- The words ingestion takes for an effective refund and the calculator does not. -/
def overlookedStatuses : List String := ["successful", "success"]

/-- A row whose processing time ingestion has set by its status. -/
def Timed (r : Refund) : Prop :=
  r.processedAt.isSome = true ↔ r.status ∈ ["processed", "successful", "success"]

omit [Platform] in
theorem Timed.taken_iff {r : Refund} (timed : Timed r) :
    TakenAsRefund r ↔ r.status ∈ deductedStatuses ∨ r.status ∈ overlookedStatuses := by
  rw [Timed] at timed
  rw [TakenAsRefund, timed]
  simp only [deductedStatuses, overlookedStatuses, List.mem_cons, List.not_mem_nil, or_false]
  tauto

omit [Platform] in
theorem overlooked_not_deducted {status : String} (overlooked : status ∈ overlookedStatuses) : status ∉ deductedStatuses := by
  rcases List.mem_pair.mp overlooked with rfl | rfl <;> decide

/-- The two lists differ in two words, which matter unless there is nothing to deduct. -/
theorem Timed.deducted_iff {r : Refund} (timed : Timed r) :
    DeductedAsTaken r ↔ r.status ∉ overlookedStatuses ∨ r.amount.toRat = 0 := by
  constructor
  · intro deducted
    by_contra missed
    obtain ⟨overlooked, amount⟩ := not_or.mp missed
    rw [not_not] at overlooked
    let payment : Payment :=
      { id := "", provider := "", providerPaymentId := "", amount := r.amount, status := "", createdAt := r.createdAt }
    obtain ⟨e, calculated⟩ := calculate_unsettled payment ([] ++ r :: [])
    obtain ⟨without, left, taken, _⟩ := deducted payment [] [] [] e calculated
    obtain ⟨without', left', same, _⟩ := calculate_insert calculated
    cases left.symm.trans left'
    have less := (taken (timed.taken_iff.mpr (.inr overlooked))).1
    rw [same, deduction, if_neg (overlooked_not_deducted overlooked)] at less
    exact amount (by linarith)
  · intro agrees payment before after settlements e calculated
    obtain ⟨without, left, expected, difference⟩ := calculate_insert calculated
    refine ⟨without, left, fun taken => ?_, fun untaken => ?_⟩
    · have whole : deduction r = r.amount.toRat := by
        rw [deduction]
        split
        · rfl
        · next missed =>
          have overlooked := (timed.taken_iff.mp taken).resolve_left missed
          exact (agrees.resolve_left fun other => other overlooked).symm
      exact ⟨whole ▸ expected, whole ▸ difference⟩
    · have none : deduction r = 0 := by
        rw [deduction, if_neg fun counted => untaken (timed.taken_iff.mpr (.inl counted))]
      rw [none] at expected difference
      exact ⟨by rw [expected, sub_zero], by rw [difference, add_zero]⟩

end Platform

section Runtime
variable [Runtime]

/-- The status a record is accepted with. -/
def suppliedStatus (data : Dict) : String := lower (strip (data.get "status").text)

end Runtime

section Examples
open PlainText

def refundRecord (status : String) : Dict :=
  [("external_id", .str "R1"), ("payment_reference", .str "P1"), ("amount", .str "10.00"), ("status", .str status)]

def importRefund (status : String) : IngestCall := .ingestRecords [refundRecord status] "manual_demo" .refund (some "demo") true

def storedRefund : Record → Option (String × Option DateTime × Decimal)
  | .refund r => some (r.status, r.processedAt, r.amount)
  | _ => none

end Examples
end RCAA
