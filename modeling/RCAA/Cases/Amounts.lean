import RCAA.Cases.Verification

/-! The three amounts of a recovery record: recovered, recoverable and exposure, in this
order. Initiation lowers the recoverable amount without regard to what was recovered,
and a verification that does not match records a smaller bank amount as it is, also a
negative one; nothing else puts the order at risk. -/

namespace RCAA
open Cases

/-- `0 <= recovered_amount <= recoverable_amount <= exposure_amount`. -/
def RecoveryRecord.Ordered (r : RecoveryRecord) : Prop :=
  0 ≤ r.recoveredAmount.toRat ∧ r.recoveredAmount.toRat ≤ r.recoverableAmount.toRat ∧
    r.recoverableAmount.toRat ≤ r.exposureAmount.toRat

def AmountsOrdered (s : System) : Prop := ∀ r ∈ s.desk.recoveries, r.Ordered

/-- An exposure comes from a money column. -/
def ExposuresInPlaces (s : System) : Prop := ∀ r ∈ s.desk.recoveries, r.exposureAmount.exponent = -2

theorem newRecovery_ordered (keys : KeySource) (now : Int) (desk : Desk) (case : CaseRow) :
    (newRecovery keys now desk case).Ordered :=
  ⟨by simp [newRecovery], by simp [newRecovery], le_refl _⟩

theorem newRecovery_places (keys : KeySource) (now : Int) (desk : Desk) (case : CaseRow) :
    (newRecovery keys now desk case).exposureAmount.exponent = -2 := rfl

section Recovery
variable [Platform]

/-- The operation puts the amounts out of order: it initiates a recovery of less than was
recovered, or verifies against a negative bank amount. -/
def Disorders (bank : List BankTransaction) (c : CaseRow) (r : RecoveryRecord) : CaseOperation → Prop
  | .initiateRecovery request => r.Initiable request ∧
      (request.recoverableAmount.getD r.exposureAmount).money.toRat < r.recoveredAmount.toRat
  | .verifyRecovery bankTransactionId _ => ∃ b, merchantBank bank c bankTransactionId = some b ∧
      0 < r.recoverableAmount.toRat ∧ b.amount.toRat < 0
  | _ => False

/-- A write keeps the order of an ordered record exactly unless it disorders it. -/
theorem recoveryWrite_ordered_iff {now : Int} {bank : List BankTransaction} {c : CaseRow} {r : RecoveryRecord}
    {operation : CaseOperation} {write : RecoveryRecord → RecoveryRecord} (written : RecoveryWrite now bank c r operation write)
    (places : r.exposureAmount.exponent = -2) (ordered : r.Ordered) :
    (write r).Ordered ↔ ¬Disorders bank c r operation := by
  obtain ⟨nonneg, below, within⟩ := ordered
  cases written with
  | initiated request initiable =>
    have bounded : (request.recoverableAmount.getD r.exposureAmount).money.toRat ≤ r.exposureAmount.toRat :=
      Decimal.money_le places initiable.2.1
    constructor
    · rintro ⟨_, above, _⟩ ⟨_, less⟩
      exact absurd above (not_le.mpr less)
    · intro harmless
      exact ⟨nonneg, not_lt.mp fun less => harmless ⟨initiable, less⟩, bounded⟩
  | unproven bankTransactionId note b found required differs =>
    by_cases short : b.amount.lt r.recoverableAmount
    · have less := (Decimal.lt_iff _ _).mp short
      have recovered : (RecoveryRecord.unproven now b.amount note r).recoveredAmount = b.amount := if_pos short
      simp only [RecoveryRecord.Ordered, recovered]
      constructor
      · rintro ⟨positive, _⟩ ⟨other, again, _, negative⟩
        rw [found] at again
        cases again
        exact absurd positive (not_le.mpr negative)
      · intro harmless
        exact ⟨not_lt.mp fun negative => harmless ⟨b, found, required, negative⟩, less.le, within⟩
    · have recovered : (RecoveryRecord.unproven now b.amount note r).recoveredAmount = .zero := if_neg short
      simp only [RecoveryRecord.Ordered, recovered, Decimal.toRat_zero]
      refine iff_of_true ⟨le_refl _, nonneg.trans below, within⟩ ?_
      rintro ⟨other, again, _, negative⟩
      rw [found] at again
      cases again
      exact short ((Decimal.lt_iff _ _).mpr (negative.trans required))
  | verified bankTransactionId note b found required equal named =>
    refine iff_of_true ⟨equal ▸ required.le, equal.le, within⟩ ?_
    rintro ⟨other, again, _, negative⟩
    rw [found] at again
    cases again
    linarith
  | unrecoverable note reason => exact iff_of_true ⟨nonneg, below, within⟩ not_false

theorem recoveryWrite_of_disorders (now : Int) {bank : List BankTransaction} {c : CaseRow} {r : RecoveryRecord}
    {operation : CaseOperation} (disorders : Disorders bank c r operation) :
    ∃ write, RecoveryWrite now bank c r operation write := by
  cases operation with
  | initiateRecovery request => exact ⟨_, .initiated request disorders.1⟩
  | verifyRecovery bankTransactionId note =>
    obtain ⟨b, found, required, negative⟩ := disorders
    exact ⟨_, .unproven bankTransactionId note b found required (by linarith)⟩
  | _ => exact disorders.elim

/-- A call that does so to the record of its case, the one it has or is given. -/
def DisordersAmounts (s : System) (a : Action) : Prop :=
  ∃ c ∈ s.desk.cases, ∃ operation, a.operation = .onCase c.id operation ∧
    Disorders s.database.store.bankTransactions c (ensureRecovery a.keys a.now s.desk c).1 operation

end Recovery

section Step
variable [Runtime] [Hashing] [Exceptions.ExceptionHashing] {settings : Settings} {s s' : System} {a : Action}

omit [Runtime] [Hashing] [Exceptions.ExceptionHashing] in
/-- The record an operation works on is a stored one or a new one. -/
theorem ensured_of_all {good : RecoveryRecord → Prop} (stored : ∀ r ∈ s.desk.recoveries, good r) (case : CaseRow)
    (new : good (newRecovery a.keys a.now s.desk case)) : good (ensureRecovery a.keys a.now s.desk case).1 := by
  rcases ensureRecovery_origin a.keys a.now s.desk case with old | fresh
  · exact stored _ old
  · rw [fresh]
    exact new

omit [Runtime] [Hashing] [Exceptions.ExceptionHashing] in
/-- What holds of the stored records and of every new one holds of those opened cases bring. -/
theorem Opened.all {desk after : Desk} {new : List CaseRow} (grows : Opened desk after new) {good : RecoveryRecord → Prop}
    (stored : ∀ r ∈ desk.recoveries, good r) (fresh : ∀ keys now drawn row, good (newRecovery keys now drawn row)) :
    ∀ r ∈ after.recoveries, good r := by
  rcases grows.recoveries with same | ⟨row, _, keys, now, drawn, appended⟩
  · rwa [same]
  · rw [appended]
    exact List.forall_mem_append.mpr ⟨stored, by simpa using fresh keys now drawn row⟩

omit [Hashing] [Exceptions.ExceptionHashing] in
theorem Stepped.exposuresInPlaces (stepped : Stepped s a s') (places : ExposuresInPlaces s) : ExposuresInPlaces s' := by
  cases stepped with
  | ingested database keeps other => exact places
  | opened desk new grows other => exact grows.all places newRecovery_places
  | operated case inside operation named =>
    have writes : Writes a.keys a.now s.database.store.bankTransactions s.desk case operation _ := operate_writes operation
    intro r member
    by_cases own : r.caseId = case.id
    · have before := ensured_of_all places case (newRecovery_places a.keys a.now s.desk case)
      rw [writes.own member own]
      cases written : recoveryWrite a.now s.database.store.bankTransactions case
          (ensureRecovery a.keys a.now s.desk case).1 operation with
      | none => exact before
      | some f => rwa [Option.getD_some, recoveryWrite_exposure ((recoveryWrite_iff _ _ _ _ _ _).mp written)]
    · exact places r ((writes.other own).mp member)

omit [Hashing] [Exceptions.ExceptionHashing] in
theorem Stepped.amountsOrdered_iff (stepped : Stepped s a s') (places : ExposuresInPlaces s) (ordered : AmountsOrdered s) :
    AmountsOrdered s' ↔ ¬DisordersAmounts s a := by
  have unnamed (other : ∀ c ∈ s.desk.cases, ∀ op, a.operation ≠ .onCase c.id op) : ¬DisordersAmounts s a := by
    rintro ⟨c, member, operation, named, _⟩
    exact other c member _ named
  cases stepped with
  | ingested database keeps other => exact iff_of_true ordered (unnamed other)
  | opened desk new grows other => exact iff_of_true (grows.all ordered newRecovery_ordered) (unnamed other)
  | operated case inside operation named =>
    have writes : Writes a.keys a.now s.database.store.bankTransactions s.desk case operation _ := operate_writes operation
    have sound := ensured_of_all ordered case (newRecovery_ordered a.keys a.now s.desk case)
    have scaled := ensured_of_all places case (newRecovery_places a.keys a.now s.desk case)
    constructor
    · rintro after ⟨c, member, other, again, disorders⟩
      rw [named] at again
      obtain ⟨same, rfl⟩ := Operation.onCase.inj again
      obtain rfl : case = c := KeyedRows.faithful_of_nodup _ s.desk.caseIds case inside c member same
      obtain ⟨f, written⟩ := recoveryWrite_of_disorders a.now disorders
      have stored := writes.stored ((recoveryWrite_iff _ _ _ _ _ _).mpr written)
      exact (recoveryWrite_ordered_iff written scaled sound).mp (after _ stored) disorders
    · intro harmless r member
      by_cases own : r.caseId = case.id
      · rw [writes.own member own]
        cases written : recoveryWrite a.now s.database.store.bankTransactions case
            (ensureRecovery a.keys a.now s.desk case).1 operation with
        | none => exact sound
        | some f =>
          have form := (recoveryWrite_iff _ _ _ _ _ _).mp written
          exact (recoveryWrite_ordered_iff form scaled sound).mpr fun disorders =>
            harmless ⟨case, inside, operation, named, disorders⟩
      · exact ordered r ((writes.other own).mp member)

/-- In every run the amounts are in order in each state exactly when no call disorders them. -/
theorem amounts_ordered_iff (database : Database) (actions : List Action) :
    Runs.Throughout (step settings) AmountsOrdered { database } actions ↔
      Runs.Along (step settings) (fun s a => ¬DisordersAmounts s a) { database } actions := by
  apply Runs.throughout_iff (fun s a => (step_cases settings s a).exposuresInPlaces)
    (fun s a => (step_cases settings s a).amountsOrdered_iff)
  · intro r member
    cases member
  · intro r member
    cases member

end Step

section Examples
open PlainText

def reversedCredit : BankTransaction := { laterCredit with amount := ⟨-5000, -2⟩ }

/-- A bank statement row that takes money out. -/
def reversedPayment : Database where
  store := { payments := [unsettledPayment], bankTransactions := [reversedCredit], paymentNamed := unsettledPayment_named }

def verifiedAgainstDebit : List Action :=
  [call (.runReconciliation .insertion (some "m1")), call (.onCase unsettledCase (.verifyRecovery "b1" none))]

/-- The refused verification leaves a negative recovered amount. -/
theorem debit_is_recorded_as_recovered :
    ¬∀ actions, AmountsOrdered (Runs.run (step {}) { database := reversedPayment } actions) := by
  intro law
  have records : (Runs.run (step {}) { database := reversedPayment } verifiedAgainstDebit).desk.recoveries.map
      (fun r => (r.status, r.recoveredAmount)) = [(.partiallyRecovered, ⟨-5000, -2⟩)] := by decide
  obtain ⟨r, _, whole, row, _⟩ := List.map_eq_cons_iff.mp records
  simp only [Prod.mk.injEq] at row
  obtain ⟨nonneg, _⟩ := law verifiedAgainstDebit r (by simp [whole])
  rw [row.2] at nonneg
  norm_num [Decimal.toRat] at nonneg

end Examples
end RCAA
