import RCAA.SystemProofs

/-! A case resolved otherwise than as a false positive is backed by verified money.
Only the transition tests this; what a run has to avoid is that a later recovery
operation takes the record of such a case out of `VERIFIED`. -/

namespace RCAA
open Cases

/-- Resolved, and not as a false positive. -/
def CaseRow.ResolvedForMoney (c : CaseRow) : Prop :=
  c.status = CaseStatus.resolved.value ∧ c.resolutionCode ≠ some ResolutionCode.falsePositive.value

/-- Every such case with a positive exposure has its recovery verified. -/
def Backed (s : System) : Prop :=
  ∀ c ∈ s.desk.cases, c.ResolvedForMoney → ∀ r ∈ s.desk.recoveries, r.caseId = c.id →
    0 < r.exposureAmount.toRat → r.status = .verified

/-- A resolved case has a recovery record. -/
def HasRecovery (s : System) : Prop :=
  ∀ c ∈ s.desk.cases, c.status = CaseStatus.resolved.value → ∃ r ∈ s.desk.recoveries, r.caseId = c.id

section Recovery
variable [Platform]

/-- The operation takes a verified record back. -/
def TakesBack (bank : List BankTransaction) (c : CaseRow) (r : RecoveryRecord) : CaseOperation → Prop
  | .initiateRecovery request => r.Initiable request
  | .verifyRecovery bankTransactionId _ => ∃ b, merchantBank bank c bankTransactionId = some b ∧
      0 < r.recoverableAmount.toRat ∧ b.amount.toRat ≠ r.recoverableAmount.toRat
  | .markUnrecoverable note => blank note = false
  | _ => False

/-- Such an operation writes another state than `VERIFIED`; the only other write verifies. -/
theorem recoveryWrite_status {now : Int} {bank : List BankTransaction} {c : CaseRow} {r : RecoveryRecord}
    {operation : CaseOperation} {write : RecoveryRecord → RecoveryRecord}
    (written : RecoveryWrite now bank c r operation write) :
    (write r).status ≠ .verified ↔ TakesBack bank c r operation := by
  cases written with
  | initiated request initiable => exact iff_of_true (by simp [RecoveryRecord.initiated]) initiable
  | unproven bankTransactionId note b found required differs =>
    refine iff_of_true ?_ ⟨b, found, required, differs⟩
    simp only [RecoveryRecord.unproven]
    split <;> simp
  | verified bankTransactionId note b found required equal named =>
    refine iff_of_false (by simp [RecoveryRecord.verified]) ?_
    rintro ⟨other, again, _, differs⟩
    rw [found] at again
    exact differs (Option.some.inj again ▸ equal)
  | unrecoverable note reason => exact iff_of_true (by simp [RecoveryRecord.markedUnrecoverable]) reason

theorem recoveryWrite_of_takesBack (now : Int) {bank : List BankTransaction} {c : CaseRow} {r : RecoveryRecord}
    {operation : CaseOperation} (takes : TakesBack bank c r operation) :
    ∃ write, RecoveryWrite now bank c r operation write := by
  cases operation with
  | initiateRecovery request => exact ⟨_, .initiated request takes⟩
  | verifyRecovery bankTransactionId note =>
    obtain ⟨b, found, required, differs⟩ := takes
    exact ⟨_, .unproven bankTransactionId note b found required differs⟩
  | markUnrecoverable note => exact ⟨_, .unrecoverable note takes⟩
  | _ => exact takes.elim

theorem recoveryWrite_exposure {now : Int} {bank : List BankTransaction} {c : CaseRow} {r : RecoveryRecord}
    {operation : CaseOperation} {write : RecoveryRecord → RecoveryRecord}
    (written : RecoveryWrite now bank c r operation write) (before : RecoveryRecord) :
    (write before).exposureAmount = before.exposureAmount := by
  cases written <;> rfl

/-- A call that takes back the record of a case resolved for money, whose exposure is positive. -/
def UndoesResolution (s : System) (a : Action) : Prop :=
  ∃ c ∈ s.desk.cases, c.ResolvedForMoney ∧ ∃ r ∈ s.desk.recoveries, r.caseId = c.id ∧ 0 < r.exposureAmount.toRat ∧
    ∃ operation, a.operation = .onCase c.id operation ∧ TakesBack s.database.store.bankTransactions c r operation

end Recovery

section Step
variable [Runtime] [Hashing] [Exceptions.ExceptionHashing] {settings : Settings} {s s' : System} {a : Action}

omit [Hashing] [Exceptions.ExceptionHashing] in
/-- An operation that resolves a case has ensured its record before. -/
theorem Stepped.hasRecovery (stepped : Stepped s a s') (kept : HasRecovery s) : HasRecovery s' := by
  cases stepped with
  | ingested database keeps other => exact kept
  | opened desk new grows other =>
    intro c member resolved
    simp only at member
    rw [grows.cases] at member
    rcases List.mem_append.mp member with old | added
    · obtain ⟨r, stored, own⟩ := kept c old resolved
      rcases grows.recoveries with same | ⟨row, _, keys, now, drawn, appended⟩
      · exact ⟨r, same ▸ stored, own⟩
      · exact ⟨r, appended ▸ List.mem_append_left _ stored, own⟩
    · rw [grows.fresh c added] at resolved
      exact absurd resolved (by decide)
  | operated case inside operation named =>
    have writes : Writes a.keys a.now s.database.store.bankTransactions s.desk case operation _ := operate_writes operation
    obtain ⟨write, cases, fixed, status⟩ := writes.case_mem inside
    intro c member resolved
    rcases (cases c).mp member with ⟨old, _⟩ | rfl
    · obtain ⟨r, stored, own⟩ := kept c old resolved
      obtain ⟨r', stored', same⟩ := writes.keeps stored
      exact ⟨r', stored', same.trans own⟩
    · rw [(fixed case).1]
      cases status with
      | kept status code =>
        obtain ⟨r, stored, own⟩ := kept case inside (status case ▸ resolved)
        obtain ⟨r', stored', same⟩ := writes.keeps stored
        exact ⟨r', stored', same.trans own⟩
      | moved transition status => exact absurd resolved (status case)
      | resolved transition code taken stored guard =>
        exact ⟨_, stored, ensureRecovery_caseId a.keys a.now s.desk case⟩

omit [Runtime] [Hashing] [Exceptions.ExceptionHashing] in
/-- Opening cases changes no resolved one. -/
theorem Opened.backed {desk : Desk} {new : List CaseRow} (grows : Opened s.desk desk new) (backed : Backed s) :
    Backed { s with desk } := by
  intro c member guarded r stored own exposed
  simp only at member stored
  rw [grows.cases] at member
  rcases List.mem_append.mp member with old | added
  · rcases grows.recoveries with same | ⟨row, inside, keys, now, drawn, appended⟩
    · exact backed c old guarded r (same ▸ stored) own exposed
    · rw [appended] at stored
      rcases List.mem_append.mp stored with before | fresh
      · exact backed c old guarded r before own exposed
      · -- A new record belongs to a new case, and identifiers are distinct.
        rw [List.mem_singleton.mp fresh] at own
        have same : row.id = c.id := own
        have distinct := desk.caseIds
        rw [grows.cases, List.map_append] at distinct
        exact absurd same.symm (List.nodup_append.mp distinct |>.2.2 _ (List.mem_map_of_mem old) _
          (List.mem_map_of_mem inside))
  · rw [CaseRow.ResolvedForMoney, grows.fresh c added] at guarded
    exact absurd guarded.1 (by decide)

omit [Hashing] [Exceptions.ExceptionHashing] in
theorem Stepped.backed_iff (stepped : Stepped s a s') (kept : HasRecovery s) (backed : Backed s) :
    Backed s' ↔ ¬UndoesResolution s a := by
  have unnamed (other : ∀ c ∈ s.desk.cases, ∀ op, a.operation ≠ .onCase c.id op) : ¬UndoesResolution s a := by
    rintro ⟨c, member, _, r, _, _, _, operation, named, _⟩
    exact other c member operation named
  cases stepped with
  | ingested database keeps other => exact iff_of_true backed (unnamed other)
  | opened desk new grows other => exact iff_of_true (grows.backed backed) (unnamed other)
  | operated case inside operation named =>
    have writes : Writes a.keys a.now s.database.store.bankTransactions s.desk case operation _ := operate_writes operation
    obtain ⟨write, cases, fixed, status⟩ := writes.case_mem inside
    constructor
    · rintro after ⟨c, member, guarded, r, stored, own, exposed, other, again, takes⟩
      obtain ⟨same, rfl⟩ : case.id = c.id ∧ operation = other := by
        rw [named] at again
        exact ⟨(Operation.onCase.inj again).1, (Operation.onCase.inj again).2⟩
      obtain rfl : case = c := KeyedRows.faithful_of_nodup _ s.desk.caseIds case inside c member same
      have found : ensureRecovery a.keys a.now s.desk case = (r, s.desk) := ensureRecovery_found stored own
      obtain ⟨f, written⟩ := recoveryWrite_of_takesBack a.now takes
      have afterwards := writes.stored (by rw [found]; exact (recoveryWrite_iff _ _ _ _ _ _).mpr written)
      rw [found] at afterwards
      cases status with
      | kept status code =>
        have still : (write case).ResolvedForMoney := by
          rw [CaseRow.ResolvedForMoney, status, code]
          exact guarded
        have owned : (f r).caseId = (write case).id := by
          rw [recoveryWrite_caseId ((recoveryWrite_iff _ _ _ _ _ _).mpr written), own, (fixed case).1]
        have verified := after (write case) ((cases _).mpr (.inr rfl)) still (f r) afterwards owned
          (by rw [recoveryWrite_exposure written]; exact exposed)
        exact (recoveryWrite_status written).mpr takes verified
      | moved transition _ =>
        obtain ⟨target, code, note, rfl⟩ := transition
        exact takes
      | resolved transition _ _ _ _ =>
        obtain ⟨target, code, note, rfl⟩ := transition
        exact takes
    · intro harmless c member guarded r stored own exposed
      rcases (cases c).mp member with ⟨old, differs⟩ | rfl
      · have before := (writes.other (own ▸ differs)).mp stored
        exact backed c old guarded r before own exposed
      · rw [(fixed case).1] at own
        have value := writes.own stored own
        cases status with
        | kept status code =>
          rw [CaseRow.ResolvedForMoney, status, code] at guarded
          obtain ⟨first, member', own'⟩ := kept case inside guarded.1
          have found : ensureRecovery a.keys a.now s.desk case = (first, s.desk) := ensureRecovery_found member' own'
          rw [found] at value
          cases written : recoveryWrite a.now s.database.store.bankTransactions case first operation with
          | none =>
            rw [written, Option.getD_none, id] at value
            rw [value] at exposed ⊢
            exact backed case inside guarded first member' own' exposed
          | some f =>
            rw [written, Option.getD_some] at value
            have form := (recoveryWrite_iff _ _ _ _ _ _).mp written
            rw [value] at exposed ⊢
            rw [recoveryWrite_exposure form] at exposed
            by_contra unverified
            have takes := (recoveryWrite_status form).mp unverified
            exact harmless ⟨case, inside, guarded, first, member', own', exposed, operation, named, takes⟩
        | moved _ status => exact absurd guarded.1 (status case)
        | resolved transition code taken _ guard =>
          obtain ⟨target, resolutionCode, note, rfl⟩ := transition
          have same : r = (ensureRecovery a.keys a.now s.desk case).1 := value
          rw [same] at exposed ⊢
          rcases guard with rfl | unexposed | verified
          · exact absurd (taken case) guarded.2
          · exact absurd exposed unexposed
          · exact verified

/-- In every run the law holds in each state exactly when no call undoes a resolution. -/
theorem resolved_cases_backed_iff (database : Database) (actions : List Action) :
    Runs.Throughout (step settings) Backed { database } actions ↔
      Runs.Along (step settings) (fun s a => ¬UndoesResolution s a) { database } actions := by
  apply Runs.throughout_iff (fun s a => (step_cases settings s a).hasRecovery)
    (fun s a => (step_cases settings s a).backed_iff)
  · intro c member
    cases member
  · intro c member
    cases member

end Step

section Examples
open PlainText

def unsettledPayment : Payment where
  id := "p1"
  provider := "razorpay"
  providerPaymentId := "pay_1"
  merchantId := some "m1"
  amount := ⟨10000, -2⟩
  status := "captured"
  captured := true
  createdAt := ⟨1704110400000000, some 0⟩

def laterCredit : BankTransaction where
  id := "b1"
  externalId := "bank_1"
  merchantId := some "m1"
  amount := ⟨10000, -2⟩
  eventTimestamp := ⟨1704196800000000, some 0⟩

theorem unsettledPayment_named : ∀ p ∈ [unsettledPayment], p.id ≠ "" := by decide
theorem laterCredit_named : ∀ b ∈ [laterCredit], b.id ≠ "" := by decide

/-- A captured payment without a settlement, and a later credit of its amount. -/
def recoveredPayment : Database where
  store :=
    { payments := [unsettledPayment], bankTransactions := [laterCredit]
      paymentNamed := unsettledPayment_named, bankNamed := laterCredit_named }

def unsettledCase : String := longer []

/-- The case is found, its money is verified, it is resolved, and its recovery is initiated again. -/
def reinitiated : List Action :=
  [call (.runReconciliation .insertion (some "m1")),
    call (.onCase unsettledCase (.verifyRecovery "b1" none)),
    call (.onCase unsettledCase (.transition "RESOLVED" (some "SETTLEMENT_POSTED") none)),
    call (.onCase unsettledCase (.initiateRecovery { actionType := "REFUND" }))]

/-- The resolved case ends with a recovery that is only initiated. -/
theorem reinitiated_case_is_not_backed :
    ¬∀ actions, Runs.Throughout (step {}) Backed { database := recoveredPayment } actions := by
  intro law
  have backed := law reinitiated reinitiated (List.prefix_refl _)
  have cases : (Runs.run (step {}) { database := recoveredPayment } reinitiated).desk.cases.map
      (fun c => (c.id, c.status, c.resolutionCode)) =
      [(unsettledCase, "RESOLVED", some "SETTLEMENT_POSTED"), (longer [unsettledCase], "OPEN", none)] := by decide
  have recoveries : (Runs.run (step {}) { database := recoveredPayment } reinitiated).desk.recoveries.map
      (fun r => (r.caseId, r.exposureAmount, r.status)) = [(unsettledCase, ⟨10000, -2⟩, .recoveryInitiated)] := by decide
  obtain ⟨c, _, whole, columns, _⟩ := List.map_eq_cons_iff.mp cases
  obtain ⟨r, _, records, row, _⟩ := List.map_eq_cons_iff.mp recoveries
  simp only [Prod.mk.injEq] at columns row
  obtain ⟨id, status, code⟩ := columns
  obtain ⟨own, exposure, state⟩ := row
  have verified := backed c (by simp [whole]) ⟨status, by rw [code]; decide⟩ r (by simp [records]) (own.trans id.symm)
    (by rw [exposure]; norm_num [Decimal.toRat])
  rw [state] at verified
  cases verified

end Examples
end RCAA
