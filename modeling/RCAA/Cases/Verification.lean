import RCAA.Cases.Resolution

/-! What a verified recovery proves: the bank row it names exists, belongs to the
case's merchant, has the recoverable amount and carries the recovery's reference. The
row is not consumed: a later verification of another case may name it again. -/

namespace RCAA
open Cases

section Recovery
variable [Platform]

/-- What a verified record says holds of the bank. -/
def RecoveryRecord.Sound (bank : List BankTransaction) (cases : List CaseRow) (r : RecoveryRecord) : Prop :=
  r.recoveredAmount.toRat = r.recoverableAmount.toRat ∧ 0 < r.recoverableAmount.toRat ∧
    ∃ c ∈ cases, c.id = r.caseId ∧ ∃ b ∈ bank, r.verifiedBankTransactionId = some b.id ∧
      b.merchantId = c.merchantId ∧ b.amount.toRat = r.recoverableAmount.toRat ∧ carriesReference r b = true

def VerifiedSound (s : System) : Prop :=
  ∀ r ∈ s.desk.recoveries, r.status = .verified → r.Sound s.database.store.bankTransactions s.desk.cases

/-- The verification proves the case's recovery with the bank row `b`. -/
def Proves (s : System) (a : Action) (c : CaseRow) (bankTransactionId : String) (b : BankTransaction) : Prop :=
  let recovery := (ensureRecovery a.keys a.now s.desk c).1
  merchantBank s.database.store.bankTransactions c bankTransactionId = some b ∧ 0 < recovery.recoverableAmount.toRat ∧
    b.amount.toRat = recovery.recoverableAmount.toRat ∧ carriesReference recovery b = true

omit [Platform] in
theorem newRecovery_unverified (keys : KeySource) (now : Int) (desk : Desk) (case : CaseRow) :
    (newRecovery keys now desk case).status ≠ .verified := by
  simp only [newRecovery]
  split <;> simp

/-- What the only write that verifies has tested. -/
theorem recoveryWrite_verified {now : Int} {bank : List BankTransaction} {c : CaseRow} {r : RecoveryRecord}
    {operation : CaseOperation} {write : RecoveryRecord → RecoveryRecord}
    (written : RecoveryWrite now bank c r operation write) (verified : (write r).status = .verified) :
    ∃ bankTransactionId note b, operation = .verifyRecovery bankTransactionId note ∧
      merchantBank bank c bankTransactionId = some b ∧ 0 < r.recoverableAmount.toRat ∧
      b.amount.toRat = r.recoverableAmount.toRat ∧ carriesReference r b = true ∧
      write r = RecoveryRecord.verified now b note r := by
  cases written with
  | initiated request initiable => cases verified
  | unproven bankTransactionId note b found required differs =>
    simp only [RecoveryRecord.unproven] at verified
    split at verified <;> cases verified
  | verified bankTransactionId note b found required equal named =>
    exact ⟨bankTransactionId, note, b, rfl, found, required, equal, named, rfl⟩
  | unrecoverable note reason => cases verified

end Recovery

/-- A verified record is none of those opened cases bring. -/
theorem Opened.verified_old {desk after : Desk} {new : List CaseRow} (grows : Opened desk after new) {r : RecoveryRecord}
    (member : r ∈ after.recoveries) (verified : r.status = .verified) : r ∈ desk.recoveries := by
  rcases grows.recoveries with same | ⟨row, _, keys, now, drawn, appended⟩
  · exact same ▸ member
  · rw [appended] at member
    rcases List.mem_append.mp member with old | fresh
    · exact old
    · rw [List.mem_singleton.mp fresh] at verified
      exact absurd verified (newRecovery_unverified keys now drawn row)

/-! ## Soundness -/

/-- The operations on a case that are not about its recovery. -/
def CaseOperation.aboutCase : CaseOperation → Bool
  | .transition .. | .assignCase .. | .addNote .. | .attachException .. => true
  | .ensureRecovery | .initiateRecovery .. | .verifyRecovery .. | .markUnrecoverable .. => false

section Step
variable [Runtime] [Hashing] [Exceptions.ExceptionHashing] {settings : Settings} {s s' : System} {a : Action}

omit [Hashing] [Exceptions.ExceptionHashing] in
/-- A verified record after an operation was there before, or the operation proved it. -/
theorem Writes.verified_origin {case : CaseRow} {operation : CaseOperation} {after : Desk}
    (writes : Writes a.keys a.now s.database.store.bankTransactions s.desk case operation after) {r : RecoveryRecord}
    (member : r ∈ after.recoveries) (verified : r.status = .verified) :
    r ∈ s.desk.recoveries ∨ (r.caseId = case.id ∧ ∃ bankTransactionId note b,
      operation = .verifyRecovery bankTransactionId note ∧ Proves s a case bankTransactionId b ∧
        r = RecoveryRecord.verified a.now b note (ensureRecovery a.keys a.now s.desk case).1) := by
  by_cases own : r.caseId = case.id
  · have value := writes.own member own
    cases written : recoveryWrite a.now s.database.store.bankTransactions case
        (ensureRecovery a.keys a.now s.desk case).1 operation with
    | none =>
      rw [written, Option.getD_none, id] at value
      rcases ensureRecovery_origin a.keys a.now s.desk case with stored | new
      · exact .inl (value ▸ stored)
      · rw [value, new] at verified
        exact absurd verified (newRecovery_unverified _ _ _ _)
    | some f =>
      rw [written, Option.getD_some] at value
      obtain ⟨id, note, b, named, found, required, equal, carries, result⟩ :=
        recoveryWrite_verified ((recoveryWrite_iff _ _ _ _ _ _).mp written) (value ▸ verified)
      exact .inr ⟨own, id, note, b, named, ⟨found, required, equal, carries⟩, value.trans result⟩
  · exact .inl ((writes.other own).mp member)

omit [Hashing] [Exceptions.ExceptionHashing] in
theorem Stepped.verifiedSound (stepped : Stepped s a s') (sound : VerifiedSound s) : VerifiedSound s' := by
  cases stepped with
  | ingested database keeps other =>
    intro r member verified
    obtain ⟨equal, positive, c, owner, same, b, stored, rest⟩ := sound r member verified
    exact ⟨equal, positive, c, owner, same, b, keeps b stored, rest⟩
  | opened desk new grows other =>
    intro r member verified
    obtain ⟨equal, positive, c, owner, rest⟩ := sound r (grows.verified_old member verified) verified
    refine ⟨equal, positive, c, ?_, rest⟩
    simp only [grows.cases]
    exact List.mem_append_left _ owner
  | operated case inside operation named =>
    have writes : Writes a.keys a.now s.database.store.bankTransactions s.desk case operation _ := operate_writes operation
    obtain ⟨write, cases, fixed, _⟩ := writes.case_mem inside
    have carried {r : RecoveryRecord} (before : r.Sound s.database.store.bankTransactions s.desk.cases) :
        r.Sound s.database.store.bankTransactions
          (operate a.keys a.now s.database.store.bankTransactions s.desk case operation).cases := by
      obtain ⟨equal, positive, c, owner, same, rest⟩ := before
      by_cases self : c.id = case.id
      · obtain rfl : c = case := KeyedRows.faithful_of_nodup _ s.desk.caseIds c owner case inside self
        refine ⟨equal, positive, write c, (cases _).mpr (.inr rfl), (fixed c).1.trans same, ?_⟩
        rwa [(fixed c).2]
      · exact ⟨equal, positive, c, (cases c).mpr (.inl ⟨owner, self⟩), same, rest⟩
    intro r member verified
    rcases writes.verified_origin member verified with stored | ⟨own, id, note, b, rfl, proves, rfl⟩
    · exact carried (sound r stored verified)
    · obtain ⟨found, required, equal, carries⟩ := proves
      obtain ⟨stored, _, merchant⟩ := (merchantBank_eq_some_iff s.database.store.bankIds case id b).mp found
      refine ⟨equal, required, write case, (cases _).mpr (.inr rfl), ?_, b, stored, rfl, ?_, equal, carries⟩
      · rw [(fixed case).1]
        exact own.symm
      · rw [(fixed case).2, merchant]

omit [Hashing] [Exceptions.ExceptionHashing] in
/-- Work on a case leaves every recovery record as it is. -/
theorem Stepped.keepsRecoveries (stepped : Stepped s a s') {caseId : String} {operation : CaseOperation}
    (named : a.operation = .onCase caseId operation) (about : operation.aboutCase = true) :
    s.desk.recoveries <+: s'.desk.recoveries := by
  cases stepped with
  | ingested database keeps other => exact List.prefix_refl _
  | opened desk new grows other =>
    rcases grows.recoveries with same | ⟨row, _, keys, now, drawn, appended⟩
    · simp only [same, List.prefix_refl]
    · simp only [appended, List.prefix_append]
  | operated case inside other again =>
    rw [named] at again
    obtain ⟨rfl, rfl⟩ := Operation.onCase.inj again
    have writes : Writes a.keys a.now s.database.store.bankTransactions s.desk case operation _ := operate_writes operation
    have nothing : recoveryWrite a.now s.database.store.bankTransactions case
        (ensureRecovery a.keys a.now s.desk case).1 operation = none := by
      cases operation <;> first | rfl | cases about
    have recoveries := writes.recoveries
    rw [nothing] at recoveries
    rcases recoveries with same | same
    · simp only [same, List.prefix_refl]
    · simp only [same]
      rcases ensureRecovery_recoveries a.keys a.now s.desk case with found | added
      · simp only [found, List.prefix_refl]
      · simp only [added, List.prefix_append]

/-- In every state a run reaches each verified recovery is sound, and work on a case
that is not about its recovery changes no recovery record. -/
theorem verified_recoveries_sound (database : Database) (actions : List Action) :
    VerifiedSound (Runs.run (step settings) { database } actions) ∧
      ∀ a caseId operation, a.operation = .onCase caseId operation → operation.aboutCase = true →
        (Runs.run (step settings) { database } actions).desk.recoveries <+:
          (step settings (Runs.run (step settings) { database } actions) a).desk.recoveries := by
  refine ⟨?_, fun a caseId operation named about => ?_⟩
  · apply Runs.invariant (fun s a => (step_cases settings s a).verifiedSound)
    intro r member
    cases member
  · exact (step_cases settings _ a).keepsRecoveries named about

end Step

section Examples
open PlainText

/-- The reference occurs in one of the bank row's references. -/
def InOneReference (r : RecoveryRecord) (b : BankTransaction) : Prop :=
  ∀ reference, given r.externalReference = some reference →
    (lower reference).toList <:+: (lower (b.reference.getD "")).toList ∨
      (lower reference).toList <:+: (lower (b.rawReference.getD "")).toList

def splitCredit : BankTransaction := { laterCredit with reference := some "NEFT", rawReference := some "UTR 77" }

def splitReference : Database where
  store := { payments := [unsettledPayment], bankTransactions := [splitCredit], paymentNamed := unsettledPayment_named }

def verifiedAcross : List Action :=
  [call (.runReconciliation .insertion (some "m1")),
    call (.onCase unsettledCase (.initiateRecovery { actionType := "TRANSFER", externalReference := some "neft utr" })),
    call (.onCase unsettledCase (.verifyRecovery "b1" none))]

/-- The recovery is verified although neither reference of the bank row has its own. -/
theorem reference_spans_both :
    ¬∀ actions, ∀ r ∈ (Runs.run (step {}) { database := splitReference } actions).desk.recoveries,
      r.status = .verified → ∃ b ∈ splitReference.store.bankTransactions,
        r.verifiedBankTransactionId = some b.id ∧ InOneReference r b := by
  intro law
  have records : (Runs.run (step {}) { database := splitReference } verifiedAcross).desk.recoveries.map
      (fun r => (r.status, r.externalReference)) = [(.verified, some "neft utr")] := by decide
  obtain ⟨r, _, whole, columns, _⟩ := List.map_eq_cons_iff.mp records
  simp only [Prod.mk.injEq] at columns
  obtain ⟨b, member, _, inOne⟩ := law verifiedAcross r (by simp [whole]) columns.1
  obtain rfl : b = splitCredit := List.mem_singleton.mp member
  have found := inOne "neft utr" (by rw [columns.2]; decide)
  revert found
  decide

end Examples

/-! ## One credit, two recoveries -/

/-- A bank row is the verified one of at most one verified recovery. -/
def CreditsProveOnce (s : System) : Prop :=
  ∀ r ∈ s.desk.recoveries, ∀ other ∈ s.desk.recoveries, r.status = .verified → other.status = .verified →
    ∀ bankTransactionId, r.verifiedBankTransactionId = some bankTransactionId →
      other.verifiedBankTransactionId = some bankTransactionId → r = other

section Reuse
variable [Platform]

/-- A verification that succeeds with the bank row of another case's verified recovery. -/
def ReusesCredit (s : System) (a : Action) : Prop :=
  ∃ c ∈ s.desk.cases, ∃ bankTransactionId note b, a.operation = .onCase c.id (.verifyRecovery bankTransactionId note) ∧
    Proves s a c bankTransactionId b ∧
    ∃ other ∈ s.desk.recoveries, other.caseId ≠ c.id ∧ other.status = .verified ∧
      other.verifiedBankTransactionId = some b.id

end Reuse

section Step
variable [Runtime] [Hashing] [Exceptions.ExceptionHashing] {settings : Settings} {s s' : System} {a : Action}

omit [Runtime] [Hashing] [Exceptions.ExceptionHashing] in
/-- New records are not verified, so only the records that were there count. -/
theorem CreditsProveOnce.of_unverified {s s' : System} (once : CreditsProveOnce s)
    (before : ∀ r ∈ s'.desk.recoveries, r.status = .verified → r ∈ s.desk.recoveries) : CreditsProveOnce s' :=
  fun r member other member' verified verified' =>
    once r (before r member verified) other (before other member' verified') verified verified'

omit [Hashing] [Exceptions.ExceptionHashing] in
theorem Stepped.creditsProveOnce_iff (stepped : Stepped s a s') (once : CreditsProveOnce s) :
    CreditsProveOnce s' ↔ ¬ReusesCredit s a := by
  have unnamed (other : ∀ c ∈ s.desk.cases, ∀ op, a.operation ≠ .onCase c.id op) : ¬ReusesCredit s a := by
    rintro ⟨c, member, id, note, b, named, _⟩
    exact other c member _ named
  cases stepped with
  | ingested database keeps other => exact iff_of_true once (unnamed other)
  | opened desk new grows other =>
    exact iff_of_true (once.of_unverified fun r member verified => grows.verified_old member verified) (unnamed other)
  | operated case inside operation named =>
    have writes : Writes a.keys a.now s.database.store.bankTransactions s.desk case operation _ := operate_writes operation
    constructor
    · rintro after ⟨c, member, id, note, b, again, proves, other, stored, differs, verified, taken⟩
      rw [named] at again
      obtain ⟨same, rfl⟩ := Operation.onCase.inj again
      obtain rfl : case = c := KeyedRows.faithful_of_nodup _ s.desk.caseIds case inside c member same
      obtain ⟨found, required, equal, carries⟩ := proves
      have proved := writes.stored ((recoveryWrite_iff _ _ _ _ _ _).mpr (.verified id note b found required equal carries))
      have equalRecords := after _ proved other ((writes.other differs).mpr stored) rfl verified b.id rfl taken
      exact differs (equalRecords ▸ ensureRecovery_caseId a.keys a.now s.desk case)
    · intro harmless r member other member' verified verified' id taken taken'
      -- A row proved now is not the verified one of another case.
      have apart {r other : RecoveryRecord} (own : r.caseId = case.id) (stored : other ∈ s.desk.recoveries)
          (verified' : other.status = .verified) (taken : r.verifiedBankTransactionId = some id)
          (taken' : other.verifiedBankTransactionId = some id)
          (proved : ∃ bankTransactionId note b, operation = .verifyRecovery bankTransactionId note ∧
            Proves s a case bankTransactionId b ∧
              r = RecoveryRecord.verified a.now b note (ensureRecovery a.keys a.now s.desk case).1) :
          other.caseId = case.id := by
        obtain ⟨named', note, b, rfl, proves, rfl⟩ := proved
        by_contra differs
        refine harmless ⟨case, inside, named', note, b, named, proves, other, stored, differs, verified', ?_⟩
        rw [taken', ← taken]
        rfl
      have unique {r other : RecoveryRecord} (member : r ∈ (operate a.keys a.now s.database.store.bankTransactions s.desk
          case operation).recoveries) (member' : other ∈ (operate a.keys a.now s.database.store.bankTransactions s.desk
          case operation).recoveries) (own : r.caseId = case.id) (own' : other.caseId = case.id) : r = other := by
        rw [writes.own member own, writes.own member' own']
      rcases writes.verified_origin member verified with old | ⟨own, proved⟩
      · rcases writes.verified_origin member' verified' with old' | ⟨own', proved'⟩
        · exact once r old other old' verified verified' id taken taken'
        · exact unique member member' (apart own' old verified taken' taken proved') own'
      · rcases writes.verified_origin member' verified' with old' | ⟨own', proved'⟩
        · exact unique member member' own (apart own old' verified' taken taken' proved)
        · exact unique member member' own own'

/-- In every run credits prove one recovery each, in every state, exactly when no
verification succeeds with the row of another case's verified recovery. -/
theorem credits_prove_once_iff (database : Database) (actions : List Action) :
    Runs.Throughout (step settings) CreditsProveOnce { database } actions ↔
      Runs.Along (step settings) (fun s a => ¬ReusesCredit s a) { database } actions := by
  apply Runs.throughout_iff (fun _ _ (always : True) => always)
    (fun s a _ => (step_cases settings s a).creditsProveOnce_iff) trivial
  intro r member
  cases member

end Step

section Examples
open PlainText

/-- Two captured payments of one amount, and one credit of it. -/
def oneCreditForTwo : Database where
  store :=
    { payments := [unsettledPayment, { unsettledPayment with id := "p2", providerPaymentId := "pay_2" }],
      bankTransactions := [laterCredit]
      bankNamed := laterCredit_named }

def verifiedTwice : List Action :=
  [call (.runReconciliation .insertion (some "m1")),
    call (.onCase unsettledCase (.verifyRecovery "b1" none)),
    call (.onCase (longer [unsettledCase]) (.verifyRecovery "b1" none))]

/-- Both recoveries end verified by the one credit. -/
theorem one_credit_proves_two_recoveries :
    ¬∀ actions, CreditsProveOnce (Runs.run (step {}) { database := oneCreditForTwo } actions) := by
  intro law
  have records : (Runs.run (step {}) { database := oneCreditForTwo } verifiedTwice).desk.recoveries.map
      (fun r => (r.caseId, r.status, r.verifiedBankTransactionId)) =
      [(unsettledCase, .verified, some "b1"), (longer [unsettledCase], .verified, some "b1")] := by decide
  obtain ⟨r, _, whole, row, rest⟩ := List.map_eq_cons_iff.mp records
  obtain ⟨other, _, more, row', _⟩ := List.map_eq_cons_iff.mp rest
  simp only [Prod.mk.injEq] at row row'
  have same := law verifiedTwice r (by simp [whole]) other (by simp [whole, more]) row.2.1 row'.2.1 "b1" row.2.2 row'.2.2
  have cases := congrArg RecoveryRecord.caseId same
  rw [row.1, row'.1] at cases
  exact absurd cases (by decide)

end Examples
end RCAA
