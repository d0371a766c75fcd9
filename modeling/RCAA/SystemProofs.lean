import RCAA.System
import RCAA.Ingestion.PersistProofs
import RCAA.Library.Runs

/-! What one call does to the cases, the recovery records and the bank rows. Each
operation on a case is described by the change it writes to the case's recovery record
and by the status it gives the case; a step of the system is one of a few forms. -/

namespace RCAA
open Cases

/-! ## The record an operation works on -/

section Recovery

/-- The record of the case is found, or added, before the operation works on it. -/
theorem ensureRecovery_cases (keys : KeySource) (now : Int) (desk : Desk) (case : CaseRow) :
    (∃ r, desk.recovery? case.id = some r ∧ ensureRecovery keys now desk case = (r, desk)) ∨
      (∃ absent : desk.recovery? (newRecovery keys now desk case).caseId = none,
        ensureRecovery keys now desk case =
          (newRecovery keys now desk case, desk.addRecovery (newRecovery keys now desk case) absent)) := by
  unfold ensureRecovery
  split
  · next r found => exact .inl ⟨r, found, rfl⟩
  · next absent => exact .inr ⟨absent, rfl⟩

variable (keys : KeySource) (now : Int) (desk : Desk) (case : CaseRow)

@[simp] theorem ensureRecovery_keeps_cases : (ensureRecovery keys now desk case).2.cases = desk.cases := by
  rcases ensureRecovery_cases keys now desk case with ⟨r, _, same⟩ | ⟨absent, same⟩ <;> rw [same]
  rfl

@[simp] theorem ensureRecovery_keeps_events : (ensureRecovery keys now desk case).2.events = desk.events := by
  rcases ensureRecovery_cases keys now desk case with ⟨r, _, same⟩ | ⟨absent, same⟩ <;> rw [same]
  rfl

@[simp] theorem ensureRecovery_keeps_exceptions :
    (ensureRecovery keys now desk case).2.exceptions = desk.exceptions := by
  rcases ensureRecovery_cases keys now desk case with ⟨r, _, same⟩ | ⟨absent, same⟩ <;> rw [same]
  rfl

theorem ensureRecovery_recoveries :
    (ensureRecovery keys now desk case).2.recoveries = desk.recoveries ∨
      (ensureRecovery keys now desk case).2.recoveries = desk.recoveries ++ [newRecovery keys now desk case] := by
  rcases ensureRecovery_cases keys now desk case with ⟨r, _, same⟩ | ⟨absent, same⟩ <;> rw [same]
  · exact .inl rfl
  · exact .inr rfl

theorem ensureRecovery_mem : (ensureRecovery keys now desk case).1 ∈ (ensureRecovery keys now desk case).2.recoveries := by
  rcases ensureRecovery_cases keys now desk case with ⟨r, found, same⟩ | ⟨absent, same⟩ <;> rw [same]
  · exact ((desk.recovery?_eq_some_iff case.id r).mp found).1
  · exact List.mem_append_right _ List.mem_cons_self

theorem ensureRecovery_caseId : (ensureRecovery keys now desk case).1.caseId = case.id := by
  rcases ensureRecovery_cases keys now desk case with ⟨r, found, same⟩ | ⟨absent, same⟩ <;> rw [same]
  · exact ((desk.recovery?_eq_some_iff case.id r).mp found).2
  · rfl

/-- The record is the case's own, or a new one where it had none. -/
theorem ensureRecovery_origin : (ensureRecovery keys now desk case).1 ∈ desk.recoveries ∨
    (ensureRecovery keys now desk case).1 = newRecovery keys now desk case := by
  rcases ensureRecovery_cases keys now desk case with ⟨r, found, same⟩ | ⟨absent, same⟩ <;> rw [same]
  · exact .inl ((desk.recovery?_eq_some_iff case.id r).mp found).1
  · exact .inr rfl

end Recovery

/-! ## Operations on a case -/

@[simp] theorem Desk.after_ok (desk desk' : Desk) : desk.after (.ok desk') = desk' := rfl
@[simp] theorem Desk.after_error (desk : Desk) (error : CaseError) : desk.after (.error error) = desk := rfl

theorem merchantBank_eq_some_iff {bank : List BankTransaction} (distinct : (bank.map BankTransaction.id).Nodup)
    (case : CaseRow) (bankTransactionId : String) (b : BankTransaction) :
    merchantBank bank case bankTransactionId = some b ↔
      b ∈ bank ∧ b.id = bankTransactionId ∧ b.merchantId = case.merchantId := by
  constructor
  · intro found
    have holds := List.find?_some found
    rw [Bool.and_eq_true, decide_eq_true_eq, beq_iff_eq] at holds
    exact ⟨List.mem_of_find?_eq_some found, holds⟩
  · rintro ⟨member, rfl, same⟩
    cases found : merchantBank bank case b.id with
    | none => simpa [same] using List.find?_eq_none.mp found b member
    | some other =>
      have holds := List.find?_some found
      rw [Bool.and_eq_true, decide_eq_true_eq] at holds
      rw [KeyedRows.faithful_of_nodup _ distinct other (List.mem_of_find?_eq_some found) b member holds.1]

section Operations
variable [Platform]

/-- What an operation writes to the case's recovery record, when it writes any. -/
def recoveryWrite (now : Int) (bank : List BankTransaction) (case : CaseRow) (recovery : RecoveryRecord) :
    CaseOperation → Option (RecoveryRecord → RecoveryRecord)
  | .initiateRecovery request =>
    let amount := request.recoverableAmount.getD recovery.exposureAmount
    if amount.lt .zero || recovery.exposureAmount.lt amount || blank request.actionType then none
    else some (RecoveryRecord.initiated now amount request)
  | .verifyRecovery bankTransactionId note => match merchantBank bank case bankTransactionId with
    | none => none
    | some b =>
      if recovery.recoverableAmount.le .zero then none
      else if !b.amount.numEq recovery.recoverableAmount then some (RecoveryRecord.unproven now b.amount note)
      else if !carriesReference recovery b then none
      else some (RecoveryRecord.verified now b note)
  | .markUnrecoverable note => if blank note then none else some (RecoveryRecord.markedUnrecoverable now note)
  | _ => none

/-- The recovery of a record may be initiated as asked. -/
def RecoveryRecord.Initiable (r : RecoveryRecord) (request : RecoveryRequest) : Prop :=
  let amount := request.recoverableAmount.getD r.exposureAmount
  0 ≤ amount.toRat ∧ amount.toRat ≤ r.exposureAmount.toRat ∧ blank request.actionType = false

/-- The four writes, each with what it takes. -/
inductive RecoveryWrite (now : Int) (bank : List BankTransaction) (case : CaseRow) (r : RecoveryRecord) :
    CaseOperation → (RecoveryRecord → RecoveryRecord) → Prop where
  | initiated (request : RecoveryRequest) (initiable : r.Initiable request) :
      RecoveryWrite now bank case r (.initiateRecovery request)
        (RecoveryRecord.initiated now (request.recoverableAmount.getD r.exposureAmount) request)
  | unproven (bankTransactionId : String) (note : Option String) (b : BankTransaction)
      (found : merchantBank bank case bankTransactionId = some b) (required : 0 < r.recoverableAmount.toRat)
      (differs : b.amount.toRat ≠ r.recoverableAmount.toRat) :
      RecoveryWrite now bank case r (.verifyRecovery bankTransactionId note) (RecoveryRecord.unproven now b.amount note)
  | verified (bankTransactionId : String) (note : Option String) (b : BankTransaction)
      (found : merchantBank bank case bankTransactionId = some b) (required : 0 < r.recoverableAmount.toRat)
      (equal : b.amount.toRat = r.recoverableAmount.toRat) (named : carriesReference r b = true) :
      RecoveryWrite now bank case r (.verifyRecovery bankTransactionId note) (RecoveryRecord.verified now b note)
  | unrecoverable (note : String) (reason : blank note = false) :
      RecoveryWrite now bank case r (.markUnrecoverable note) (RecoveryRecord.markedUnrecoverable now note)

theorem initiable_iff (r : RecoveryRecord) (request : RecoveryRequest) :
    r.Initiable request ↔ ¬((request.recoverableAmount.getD r.exposureAmount).lt .zero ||
      r.exposureAmount.lt (request.recoverableAmount.getD r.exposureAmount) || blank request.actionType) = true := by
  simp only [RecoveryRecord.Initiable, Bool.or_eq_true, Decimal.lt_iff, Decimal.toRat_zero, not_or, not_lt,
    Bool.not_eq_true, and_assoc]

theorem recoveryWrite_iff (now : Int) (bank : List BankTransaction) (case : CaseRow) (r : RecoveryRecord)
    (operation : CaseOperation) (write : RecoveryRecord → RecoveryRecord) :
    recoveryWrite now bank case r operation = some write ↔ RecoveryWrite now bank case r operation write := by
  constructor
  · intro written
    cases operation with
    | initiateRecovery request =>
      simp only [recoveryWrite] at written
      split at written
      · cases written
      · next accepted =>
        cases written
        exact .initiated request ((initiable_iff r request).mpr accepted)
    | verifyRecovery bankTransactionId note =>
      simp only [recoveryWrite] at written
      split at written
      · cases written
      · next b found =>
        split at written
        · cases written
        · next required =>
          rw [Decimal.le_iff, Decimal.toRat_zero, not_le] at required
          split at written
          · next differs =>
            rw [Bool.not_eq_true', ← Bool.not_eq_true, Decimal.numEq_iff] at differs
            cases written
            exact .unproven bankTransactionId note b found required differs
          · next equal =>
            rw [Bool.not_eq_true', Bool.not_eq_false, Decimal.numEq_iff] at equal
            split at written
            · cases written
            · next named =>
              rw [Bool.not_eq_true', Bool.not_eq_false] at named
              cases written
              exact .verified bankTransactionId note b found required equal named
    | markUnrecoverable note =>
      simp only [recoveryWrite] at written
      split at written
      · cases written
      · next reason =>
        cases written
        exact .unrecoverable note (Bool.not_eq_true _ ▸ reason)
    | _ => cases written
  · intro written
    cases written with
    | initiated request initiable => exact if_neg ((initiable_iff r request).mp initiable)
    | unproven bankTransactionId note b found required differs =>
      rw [← not_le, ← Decimal.toRat_zero, ← Decimal.le_iff] at required
      rw [ne_eq, ← Decimal.numEq_iff, Bool.not_eq_true] at differs
      simp only [recoveryWrite, found, required, differs, Bool.not_false, Bool.false_eq_true, if_false, if_true]
    | verified bankTransactionId note b found required equal named =>
      rw [← not_le, ← Decimal.toRat_zero, ← Decimal.le_iff] at required
      rw [← Decimal.numEq_iff] at equal
      simp only [recoveryWrite, found, required, equal, named, Bool.not_true, Bool.false_eq_true, if_false]
    | unrecoverable note reason => simp only [recoveryWrite, reason, Bool.false_eq_true, if_false]

/-- The records after an operation that wrote `write`: changed as it says, otherwise as
they were, perhaps with the new record of the case. -/
def RecoveriesAfter (keys : KeySource) (now : Int) (desk : Desk) (case : CaseRow)
    (write : Option (RecoveryRecord → RecoveryRecord)) (recoveries : List RecoveryRecord) : Prop :=
  let ensured := (ensureRecovery keys now desk case).2.recoveries
  match write with
  | none => recoveries = desk.recoveries ∨ recoveries = ensured
  | some f => recoveries = KeyedRows.update RecoveryRecord.caseId case.id f ensured

/-- What an operation does to the columns of its case that say whether it is resolved. -/
inductive StatusWrite (operation : CaseOperation) (recovery : RecoveryRecord) (after : Desk) (write : CaseRow → CaseRow) :
    Prop where
  | kept (status : ∀ c, (write c).status = c.status) (code : ∀ c, (write c).resolutionCode = c.resolutionCode)
  | moved (transition : ∃ target code note, operation = .transition target code note)
      (status : ∀ c, (write c).status ≠ CaseStatus.resolved.value)
  | resolved (transition : ∃ target code note, operation = .transition target code note)
      (code : ResolutionCode) (taken : ∀ c, (write c).resolutionCode = some code.value)
      (stored : recovery ∈ after.recoveries)
      (guard : code = .falsePositive ∨ ¬0 < recovery.exposureAmount.toRat ∨ recovery.status = .verified)

/-- The cases after an operation: one case changed, whose identity and owner stay. -/
def CasesAfter (desk : Desk) (case : CaseRow) (operation : CaseOperation) (recovery : RecoveryRecord)
    (after : Desk) : Prop :=
  ∃ write : CaseRow → CaseRow, after.cases = KeyedRows.update (·.id) case.id write desk.cases ∧
    (∀ c, (write c).id = c.id ∧ (write c).merchantId = c.merchantId) ∧ StatusWrite operation recovery after write

variable (keys : KeySource) (now : Int) (bank : List BankTransaction) (desk : Desk) (case : CaseRow)

/-- What an operation leaves: the records as it writes them, and the cases. -/
structure Writes (operation : CaseOperation) (after : Desk) : Prop where
  recoveries : RecoveriesAfter keys now desk case
    (recoveryWrite now bank case (ensureRecovery keys now desk case).1 operation) after.recoveries
  cases : CasesAfter desk case operation (ensureRecovery keys now desk case).1 after

variable {keys now bank desk case}

omit [Platform] in
theorem CasesAfter.same {operation : CaseOperation} {recovery : RecoveryRecord} {after : Desk}
    (same : after.cases = desk.cases) : CasesAfter desk case operation recovery after := by
  refine ⟨id, ?_, fun _ => ⟨rfl, rfl⟩, .kept (fun _ => rfl) fun _ => rfl⟩
  rw [same, KeyedRows.update_id]

omit [Platform] in
/-- A write that keeps status and resolution code. -/
theorem CasesAfter.of_kept {operation : CaseOperation} {recovery : RecoveryRecord} {after : Desk}
    (write : CaseRow → CaseRow) (written : after.cases = KeyedRows.update (·.id) case.id write desk.cases)
    (kept : ∀ c, (write c).id = c.id ∧ (write c).merchantId = c.merchantId ∧ (write c).status = c.status ∧
      (write c).resolutionCode = c.resolutionCode) : CasesAfter desk case operation recovery after :=
  ⟨write, written, fun c => ⟨(kept c).1, (kept c).2.1⟩, .kept (fun c => (kept c).2.2.1) fun c => (kept c).2.2.2⟩

omit [Platform] in
theorem CasesAfter.touched {operation : CaseOperation} {recovery : RecoveryRecord} {after : Desk} (time : Int)
    (written : after.cases = KeyedRows.update (·.id) case.id (fun c => { c with updatedAt := time }) desk.cases) :
    CasesAfter desk case operation recovery after := .of_kept _ written fun _ => ⟨rfl, rfl, rfl, rfl⟩

/-- A refused operation that records nothing. -/
theorem Writes.refused {operation : CaseOperation}
    (nothing : recoveryWrite now bank case (ensureRecovery keys now desk case).1 operation = none) :
    Writes keys now bank desk case operation desk :=
  ⟨by rw [nothing]; exact .inl rfl, .same rfl⟩

theorem ensureRecovery_writes :
    Writes keys now bank desk case .ensureRecovery (ensureRecovery keys now desk case).2 :=
  ⟨.inr rfl, .same (ensureRecovery_keeps_cases keys now desk case)⟩

theorem initiateRecovery_writes (request : RecoveryRequest) :
    Writes keys now bank desk case (.initiateRecovery request)
      (desk.after (initiateRecovery keys now desk case request)) := by
  unfold initiateRecovery
  simp only
  split
  · next outside =>
    apply Writes.refused
    simp only [recoveryWrite, outside, Bool.true_or, if_true]
  · next within =>
    split
    · next untyped =>
      apply Writes.refused
      simp only [recoveryWrite, untyped, Bool.or_true, if_true]
    · next typed =>
      refine ⟨?_, .touched now ?_⟩
      · simp only [recoveryWrite, within, typed, Bool.or_self, Bool.false_eq_true, if_false]
        rfl
      · simp only [Desk.after_ok]
        rw [← ensureRecovery_keeps_cases keys now desk case]
        rfl

theorem verifyRecovery_writes (bankTransactionId : String) (note : Option String) :
    Writes keys now bank desk case (.verifyRecovery bankTransactionId note)
      (verifyRecovery keys now bank desk case bankTransactionId note).2 := by
  unfold verifyRecovery
  simp only
  split
  · next missing =>
    apply Writes.refused
    simp only [recoveryWrite, missing]
  · next b found =>
    split
    · next nothing =>
      apply Writes.refused
      simp only [recoveryWrite, found, nothing, if_true]
    · next required =>
      split
      · next differs =>
        refine ⟨?_, .same (ensureRecovery_keeps_cases keys now desk case)⟩
        simp only [recoveryWrite, found, required, differs, Bool.false_eq_true, if_false, if_true]
        rfl
      · next equal =>
        split
        · next foreign =>
          apply Writes.refused
          simp only [recoveryWrite, found, required, equal, foreign, Bool.false_eq_true, if_false, if_true]
        · next named =>
          refine ⟨?_, .touched now ?_⟩
          · simp only [recoveryWrite, found, required, equal, named, Bool.false_eq_true, if_false]
            rfl
          · rw [← ensureRecovery_keeps_cases keys now desk case]
            rfl

theorem markUnrecoverable_writes (note : String) :
    Writes keys now bank desk case (.markUnrecoverable note)
      (desk.after (markUnrecoverable keys now desk case note)) := by
  unfold markUnrecoverable
  simp only
  split
  · next empty =>
    apply Writes.refused
    simp only [recoveryWrite, empty, if_true]
  · next reason =>
    refine ⟨?_, .touched now ?_⟩
    · simp only [recoveryWrite, reason, Bool.false_eq_true, if_false]
      rfl
    · rw [← ensureRecovery_keeps_cases keys now desk case]
      rfl

theorem resolve_writes (target : String) (resolutionCode resolutionNote : Option String) :
    Writes keys now bank desk case (.transition target resolutionCode resolutionNote)
      (desk.after (resolve keys now desk case resolutionCode resolutionNote)) := by
  unfold resolve
  split
  · exact Writes.refused rfl
  · split
    · exact Writes.refused rfl
    · next code _ =>
      simp only
      split
      · exact Writes.refused rfl
      · next guard =>
        refine ⟨.inr rfl, CaseRow.resolved now code resolutionNote, ?_, fun _ => ⟨rfl, rfl⟩,
          .resolved ⟨_, _, _, rfl⟩ code (fun _ => rfl) (ensureRecovery_mem keys now desk case) ?_⟩
        · rw [← ensureRecovery_keeps_cases keys now desk case]
          rfl
        · simp only [Decimal.lt_iff, Decimal.toRat_zero, ne_eq] at guard
          tauto

theorem transition_writes (target : String) (resolutionCode resolutionNote : Option String) :
    Writes keys now bank desk case (.transition target resolutionCode resolutionNote)
      (desk.after (transition keys now desk case target resolutionCode resolutionNote)) := by
  unfold transition
  split
  · exact Writes.refused rfl
  · split
    · exact Writes.refused rfl
    · split
      · exact Writes.refused rfl
      · split
        · exact resolve_writes target resolutionCode resolutionNote
        · exact ⟨.inl rfl, _, rfl, fun _ => ⟨rfl, rfl⟩, .moved ⟨_, _, _, rfl⟩ fun _ => by simp [CaseStatus.value]⟩
        · next other _ =>
          refine ⟨.inl rfl, _, rfl, fun _ => ⟨rfl, rfl⟩, .moved ⟨_, _, _, rfl⟩ fun _ same => ?_⟩
          exact other (CaseStatus.value_injective same)

theorem assignCase_writes (assignedTo : Option String) :
    Writes keys now bank desk case (.assignCase assignedTo) (desk.after (assignCase now desk case assignedTo)) := by
  unfold assignCase
  simp only
  split
  · exact Writes.refused rfl
  · exact ⟨.inl rfl, .of_kept _ rfl fun _ => ⟨rfl, rfl, rfl, rfl⟩⟩

theorem addNote_writes (note : String) (authorReference : Option String) :
    Writes keys now bank desk case (.addNote note authorReference)
      (desk.after (addNote keys now desk case note authorReference)) := by
  unfold addNote
  split
  · exact Writes.refused rfl
  · exact ⟨.inl rfl, .of_kept _ rfl fun _ => ⟨rfl, rfl, rfl, rfl⟩⟩

omit [Platform] in
theorem Desk.nameCase_ok {desk desk' : Desk} {exceptionId caseId : String}
    (named : desk.nameCase exceptionId caseId = .ok desk') :
    desk'.cases = desk.cases ∧ desk'.recoveries = desk.recoveries ∧ desk'.events = desk.events := by
  unfold Desk.nameCase at named
  split at named
  · cases named
    exact ⟨rfl, rfl, rfl⟩
  · cases named

omit [Platform] in
theorem nameUnlessNamed_ok {desk desk' : Desk} {exception : ReconciliationException} {caseId : String}
    (named : nameUnlessNamed desk exception caseId = .ok desk') :
    desk'.cases = desk.cases ∧ desk'.recoveries = desk.recoveries ∧ desk'.events = desk.events := by
  unfold nameUnlessNamed at named
  split at named
  · exact Desk.nameCase_ok named
  · cases named
    exact ⟨rfl, rfl, rfl⟩

omit [Platform] in
theorem attachException_ok {desk' : Desk} {exceptionId : String}
    (attached : attachException now desk case exceptionId = .ok desk') :
    desk'.cases = KeyedRows.update (·.id) case.id (fun c => { c with updatedAt := now }) desk.cases ∧
      desk'.recoveries = desk.recoveries ∧
      ∃ metadata, desk'.events = desk.events ++ [⟨case.id, "EXCEPTION_ATTACHED", metadata⟩] := by
  unfold attachException at attached
  split at attached
  · cases attached
  · next exception _ =>
    split at attached
    · cases attached
    · obtain ⟨named, naming, attached⟩ := Outcome.bind_ok attached
      cases attached
      obtain ⟨cases, recoveries, events⟩ := nameUnlessNamed_ok naming
      exact ⟨congrArg (KeyedRows.update _ _ _) cases, recoveries, _, congrArg (· ++ [_]) events⟩

theorem attachException_writes (exceptionId : String) :
    Writes keys now bank desk case (.attachException exceptionId)
      (desk.after (attachException now desk case exceptionId)) := by
  cases attached : attachException now desk case exceptionId with
  | error => exact Writes.refused rfl
  | ok desk' =>
    obtain ⟨cases, recoveries, _⟩ := attachException_ok attached
    exact ⟨.inl recoveries, .touched now cases⟩

/-- Every operation writes what `recoveryWrite` says, to its own case only. -/
theorem operate_writes (operation : CaseOperation) :
    Writes keys now bank desk case operation (operate keys now bank desk case operation) := by
  cases operation with
  | ensureRecovery => exact ensureRecovery_writes
  | initiateRecovery request => exact initiateRecovery_writes request
  | verifyRecovery bankTransactionId note => exact verifyRecovery_writes bankTransactionId note
  | markUnrecoverable note => exact markUnrecoverable_writes note
  | transition target code note => exact transition_writes target code note
  | assignCase assignedTo => exact assignCase_writes assignedTo
  | addNote note author => exact addNote_writes note author
  | attachException exceptionId => exact attachException_writes exceptionId

omit [Platform] in
theorem ensureRecovery_unique {r : RecoveryRecord} (member : r ∈ (ensureRecovery keys now desk case).2.recoveries)
    (own : r.caseId = case.id) : r = (ensureRecovery keys now desk case).1 :=
  KeyedRows.faithful_of_nodup _ (ensureRecovery keys now desk case).2.recoveryCases r member _
    (ensureRecovery_mem keys now desk case) (own.trans (ensureRecovery_caseId keys now desk case).symm)

omit [Platform] in
theorem ensureRecovery_other {r : RecoveryRecord} (other : r.caseId ≠ case.id) :
    r ∈ (ensureRecovery keys now desk case).2.recoveries ↔ r ∈ desk.recoveries := by
  rcases ensureRecovery_recoveries keys now desk case with same | added
  · rw [same]
  · rw [added, List.mem_append, List.mem_singleton]
    constructor
    · rintro (old | rfl)
      · exact old
      · exact absurd rfl other
    · exact .inl

omit [Platform] in
/-- The case's record, where it has one, is the one worked on. -/
theorem ensureRecovery_found {r : RecoveryRecord} (member : r ∈ desk.recoveries) (own : r.caseId = case.id) :
    ensureRecovery keys now desk case = (r, desk) := by
  have found := (desk.recovery?_eq_some_iff case.id r).mpr ⟨member, own⟩
  rcases ensureRecovery_cases keys now desk case with ⟨other, again, same⟩ | ⟨absent, _⟩
  · rw [same, Option.some.inj (found.symm.trans again)]
  · rw [show (newRecovery keys now desk case).caseId = case.id from rfl, found] at absent
    cases absent

theorem recoveryWrite_caseId {operation : CaseOperation} {recovery : RecoveryRecord}
    {write : RecoveryRecord → RecoveryRecord} (written : recoveryWrite now bank case recovery operation = some write)
    (r : RecoveryRecord) : (write r).caseId = r.caseId := by
  cases (recoveryWrite_iff now bank case recovery operation write).mp written <;> rfl

/-- The record of the case afterwards. -/
theorem Writes.own {operation : CaseOperation} {after : Desk} (writes : Writes keys now bank desk case operation after)
    {r : RecoveryRecord} (member : r ∈ after.recoveries) (own : r.caseId = case.id) :
    r = ((recoveryWrite now bank case (ensureRecovery keys now desk case).1 operation).getD id)
      (ensureRecovery keys now desk case).1 := by
  have recoveries := writes.recoveries
  cases written : recoveryWrite now bank case (ensureRecovery keys now desk case).1 operation with
  | none =>
    rw [written] at recoveries
    rcases recoveries with same | same
    · rw [same] at member
      rw [Option.getD_none, ensureRecovery_found member own]
      rfl
    · rw [same] at member
      exact ensureRecovery_unique member own
  | some write =>
    rw [written] at recoveries
    simp only [RecoveriesAfter] at recoveries
    rw [recoveries, KeyedRows.mem_update] at member
    rcases member with ⟨_, differs⟩ | ⟨before, member, same, rfl⟩
    · exact absurd own differs
    · rw [Option.getD_some, ensureRecovery_unique member same]

/-- The records of the other cases stay, and no other is added. -/
theorem Writes.other {operation : CaseOperation} {after : Desk} (writes : Writes keys now bank desk case operation after)
    {r : RecoveryRecord} (other : r.caseId ≠ case.id) : r ∈ after.recoveries ↔ r ∈ desk.recoveries := by
  have recoveries := writes.recoveries
  cases written : recoveryWrite now bank case (ensureRecovery keys now desk case).1 operation with
  | none =>
    rw [written] at recoveries
    rcases recoveries with same | same
    · rw [same]
    · rw [same, ensureRecovery_other other]
  | some write =>
    rw [written] at recoveries
    simp only [RecoveriesAfter] at recoveries
    have before : r ∈ (ensureRecovery keys now desk case).2.recoveries ↔ r ∈ desk.recoveries := ensureRecovery_other other
    rw [recoveries, KeyedRows.mem_update]
    constructor
    · rintro (⟨member, _⟩ | ⟨row, _, same, rfl⟩)
      · exact before.mp member
      · exact absurd ((recoveryWrite_caseId written row).trans same) other
    · exact fun member => .inl ⟨before.mpr member, other⟩

theorem Writes.stored {operation : CaseOperation} {after : Desk} (writes : Writes keys now bank desk case operation after)
    {write : RecoveryRecord → RecoveryRecord}
    (written : recoveryWrite now bank case (ensureRecovery keys now desk case).1 operation = some write) :
    write (ensureRecovery keys now desk case).1 ∈ after.recoveries := by
  have recoveries := writes.recoveries
  rw [written] at recoveries
  simp only [RecoveriesAfter] at recoveries
  rw [recoveries, KeyedRows.mem_update]
  exact .inr ⟨_, ensureRecovery_mem keys now desk case, ensureRecovery_caseId keys now desk case, rfl⟩

/-- No case loses its record. -/
theorem Writes.keeps {operation : CaseOperation} {after : Desk} (writes : Writes keys now bank desk case operation after)
    {r : RecoveryRecord} (member : r ∈ desk.recoveries) : ∃ r' ∈ after.recoveries, r'.caseId = r.caseId := by
  by_cases own : r.caseId = case.id
  · have found : ensureRecovery keys now desk case = (r, desk) := ensureRecovery_found member own
    have recoveries := writes.recoveries
    cases written : recoveryWrite now bank case (ensureRecovery keys now desk case).1 operation with
    | none =>
      rw [written, RecoveriesAfter, found] at recoveries
      rcases recoveries with same | same <;> exact ⟨r, same ▸ member, rfl⟩
    | some write =>
      refine ⟨_, writes.stored written, ?_⟩
      rw [recoveryWrite_caseId written, found]
  · exact ⟨r, (writes.other own).mpr member, rfl⟩

/-- The cases afterwards: the others as they were, and the case with its columns written. -/
theorem Writes.case_mem {operation : CaseOperation} {after : Desk} (writes : Writes keys now bank desk case operation after)
    (member : case ∈ desk.cases) : ∃ write : CaseRow → CaseRow,
      (∀ c, c ∈ after.cases ↔ (c ∈ desk.cases ∧ c.id ≠ case.id) ∨ c = write case) ∧
        (∀ c, (write c).id = c.id ∧ (write c).merchantId = c.merchantId) ∧
        StatusWrite operation (ensureRecovery keys now desk case).1 after write := by
  obtain ⟨write, cases, fixed, status⟩ := writes.cases
  refine ⟨write, fun c => ?_, fixed, status⟩
  rw [cases, KeyedRows.mem_update]
  constructor
  · rintro (other | ⟨row, inside, same, rfl⟩)
    · exact .inl other
    · rw [KeyedRows.faithful_of_nodup _ desk.caseIds row inside case member same]
      exact .inr rfl
  · rintro (other | rfl)
    · exact .inl other
    · exact .inr ⟨case, member, rfl, rfl⟩

end Operations

/-! ## Calls that open cases -/

/-- New cases, open, at the end; the desk may hold a recovery record for one of them. -/
structure Opened (desk after : Desk) (new : List CaseRow) : Prop where
  cases : after.cases = desk.cases ++ new
  fresh : ∀ c ∈ new, c.status = CaseStatus.opened.value
  recoveries : after.recoveries = desk.recoveries ∨
    ∃ row ∈ new, ∃ keys now drawn, after.recoveries = desk.recoveries ++ [newRecovery keys now drawn row]

theorem Opened.refl (desk : Desk) : Opened desk desk [] := ⟨(List.append_nil _).symm, by simp, .inl rfl⟩

theorem Desk.insertCase_ok {desk desk' : Desk} {row : CaseRow} {year : Nat}
    {numbered : row.caseNumber = nextCaseNumber (desk.cases.map (·.caseNumber)) year}
    (inserted : desk.insertCase row year numbered = .ok desk') :
    desk'.cases = desk.cases ++ [row] ∧ desk'.recoveries = desk.recoveries ∧ desk'.exceptions = desk.exceptions ∧
      desk'.links = desk.links ∧ desk'.events = desk.events := by
  unfold Desk.insertCase at inserted
  split at inserted
  · cases inserted
    exact ⟨rfl, rfl, rfl, rfl, rfl⟩
  · cases inserted

section Opening
variable [Platform]

omit [Platform] in
theorem attachOpened_ok {desk desk' : Desk} {caseId : String} {exception : Option ReconciliationException}
    (attached : attachOpened desk caseId exception = .ok desk') :
    desk'.cases = desk.cases ∧ desk'.recoveries = desk.recoveries := by
  cases exception with
  | none =>
    cases attached
    exact ⟨rfl, rfl⟩
  | some exception =>
    simp only [attachOpened] at attached
    split at attached
    · obtain ⟨cases, recoveries, _⟩ := Desk.nameCase_ok attached
      exact ⟨cases, recoveries⟩
    · cases attached

theorem openCase_opened {settings : Settings} {keys : KeySource} {now : Int} {desk desk' : Desk} {args : CaseArguments}
    {exception : Option ReconciliationException} {row : CaseRow} {new : Bool}
    (made : openCase settings keys now desk args exception = .ok (row, new, desk')) : Opened desk desk' [row] := by
  unfold openCase at made
  split at made
  · cases made
  · obtain ⟨inserted, accepted, made⟩ := Outcome.bind_ok made
    obtain ⟨named, naming, made⟩ := Outcome.bind_ok made
    obtain ⟨cases, recoveries, _⟩ := Desk.insertCase_ok accepted
    obtain ⟨sameCases, sameRecoveries⟩ := attachOpened_ok naming
    cases made
    have unassigned : ∀ (d : Desk) (id : String) (metadata : CaseMetadata),
        (if (given args.assignedTo).isSome then d.log id "CASE_ASSIGNED" metadata else d).cases = d.cases ∧
          (if (given args.assignedTo).isSome then d.log id "CASE_ASSIGNED" metadata else d).recoveries = d.recoveries := by
      intro d id metadata
      split <;> exact ⟨rfl, rfl⟩
    refine ⟨?_, ?_, ?_⟩
    · rw [(unassigned _ _ _).1, sameCases, ← cases]
      exact ensureRecovery_keeps_cases keys now inserted _
    · intro c member
      rw [List.mem_singleton.mp member]
      rfl
    · rw [(unassigned _ _ _).2, sameRecoveries, ← recoveries]
      rcases ensureRecovery_recoveries keys now inserted (Cases.newCase settings keys now desk args exception) with
        found | added
      · exact .inl found
      · exact .inr ⟨_, List.mem_singleton_self _, keys, now, inserted, added⟩

theorem createCase_opened {settings : Settings} {keys : KeySource} {now : Int} {desk desk' : Desk}
    {args : CaseArguments} {row : CaseRow} {new : Bool}
    (made : Cases.createCase settings keys now desk args = .ok (row, new, desk')) : ∃ rows, Opened desk desk' rows := by
  unfold Cases.createCase at made
  split at made
  · exact ⟨_, openCase_opened made⟩
  · split at made
    · cases made
    · split at made
      · cases made
        exact ⟨[], .refl desk⟩
      · exact ⟨_, openCase_opened made⟩

end Opening

section Recording
variable [Hashing]

/-- Recording findings adds open cases and nothing else that is read here. -/
structure Reported (desk after : Desk) : Prop where
  cases : ∃ new : List CaseRow, after.cases = desk.cases ++ new ∧ ∀ c ∈ new, c.status = CaseStatus.opened.value
  recoveries : after.recoveries = desk.recoveries

theorem recordCase_reported {settings : Settings} {keys : KeySource} {now : Int} {desk desk' : Desk}
    {request : CaseRequest} (recorded : recordCase settings keys now desk request = .ok desk') : Reported desk desk' := by
  unfold recordCase at recorded
  simp only at recorded
  split at recorded
  · cases recorded
    exact ⟨⟨[], (List.append_nil _).symm, by simp⟩, rfl⟩
  · obtain ⟨inserted, accepted, recorded⟩ := Outcome.bind_ok recorded
    cases recorded
    obtain ⟨cases, recoveries, _⟩ := Desk.insertCase_ok accepted
    refine ⟨⟨[reportedCase settings keys now desk request], cases, ?_⟩, recoveries⟩
    intro c member
    rw [List.mem_singleton.mp member]
    rfl

omit [Hashing] in
theorem Reported.trans {desk middle after : Desk} (first : Reported desk middle) (second : Reported middle after) :
    Reported desk after := by
  obtain ⟨⟨new, cases, opened⟩, recoveries⟩ := first
  obtain ⟨⟨more, cases', opened'⟩, recoveries'⟩ := second
  refine ⟨⟨new ++ more, ?_, List.forall_mem_append.mpr ⟨opened, opened'⟩⟩, recoveries'.trans recoveries⟩
  rw [cases', cases, List.append_assoc]

theorem recordCases_reported {settings : Settings} {keys : KeySource} {now : Int} {desk desk' : Desk}
    {requests : List CaseRequest} (recorded : requests.foldlM (recordCase settings keys now) desk = .ok desk') :
    Reported desk desk' := by
  induction requests generalizing desk with
  | nil =>
    cases recorded
    exact ⟨⟨[], (List.append_nil _).symm, by simp⟩, rfl⟩
  | cons request rest ih =>
    obtain ⟨middle, first, others⟩ := Outcome.foldlM_ok_cons recorded
    exact (recordCase_reported first).trans (ih others)

end Recording

/-! ## Ingestion keeps what is stored -/

section Ingestion
variable [Runtime]

/-- Every bank row stays. -/
def KeepsBank (store store' : Store) : Prop := ∀ b ∈ store.bankTransactions, b ∈ store'.bankTransactions

theorem persistAll_keepsBank {draws : Draws} {store : Store} {records : List NormalizedRecord} {progress : Progress}
    {written : Written} (done : persistAll draws store records = .ok (progress, written)) :
    KeepsBank store written.store := by
  intro b member
  have added := (persistAll_kept done).2
  rw [← Store.bank_mem_rows] at member ⊢
  exact added.rows.mem_iff.mpr (List.mem_append_left _ member)

theorem persistNormalized_keepsBank (draws : Draws) (database : Database) (batches : List IngestionBatch)
    (records : List NormalizedRecord) (batch : IngestionBatch) :
    KeepsBank database.store (persistNormalized draws ⟨database, { database with batches }⟩ records batch
      true).2.durable.store := by
  simp only [persistNormalized]
  split
  · next progress written done => exact persistAll_keepsBank done
  · split <;> exact fun b member => member

theorem ingestRecords_keepsBank (draws : Draws) (database : Database) (data : List Dict) (source : String)
    (recordType : RecordType) (provider merchantId : Option String) :
    KeepsBank database.store (ingestRecords draws ⟨database, database⟩ data source recordType provider merchantId
      true).2.durable.store := by
  unfold ingestRecords
  split
  · next error _ => cases error <;> exact fun b member => member
  · exact persistNormalized_keepsBank draws database _ _ _

theorem ingestBankCsv_keepsBank (maxUploadBytes : Nat) (draws : Draws) (database : Database) (content : List UInt8)
    (source : String) (provider merchantId : Option String) :
    KeepsBank database.store (ingestBankCsv maxUploadBytes draws ⟨database, database⟩ content source provider merchantId
      true).2.durable.store := by
  unfold ingestBankCsv
  split
  · next error _ => cases error <;> exact fun b member => member
  · exact persistNormalized_keepsBank draws database _ _ _

end Ingestion

/-! ## One step -/

section Step
variable [Runtime] [Hashing] [Exceptions.ExceptionHashing]

omit [Runtime] [Hashing] in
theorem generateExceptions_keeps {settings : Settings} {keys : KeySource} {batches : List IngestionBatch}
    {desk desk' : Desk} {merchantId : Option String} {report : Exceptions.GenerationReport}
    (done : Exceptions.generateExceptions settings keys batches desk merchantId = .ok (report, desk')) :
    desk'.cases = desk.cases ∧ desk'.recoveries = desk.recoveries := by
  have pass : ∀ {d d' : Desk} {requests : List Exceptions.ExceptionRequest} {created : Nat},
      (Exceptions.exceptionRegistry settings keys).putAll d requests = .ok (d', created) →
        d'.cases = d.cases ∧ d'.recoveries = d.recoveries := by
    intro d d' requests created put
    refine Registry.putAll_relates _ (R := fun after _ => after.cases = d.cases ∧ after.recoveries = d.recoveries) ?_
      ⟨rfl, rfl⟩ put
    rintro s r absent s' added ⟨cases, recoveries⟩ recorded
    obtain ⟨row, one⟩ := Exceptions.recordException_ok recorded
    exact ⟨one.cases.trans cases, one.recoveries.trans recoveries⟩
  obtain ⟨⟨middle, ofBatches⟩, first, done⟩ := Outcome.bind_ok done
  obtain ⟨⟨last, ofCases⟩, second, done⟩ := Outcome.bind_ok done
  cases done
  exact ⟨(pass second).1.trans (pass first).1, (pass second).2.trans (pass first).2⟩

/-- The forms of a step. -/
inductive Stepped (s : System) (a : Action) : System → Prop where
  | ingested (database : Database) (keeps : KeepsBank s.database.store database.store)
      (other : ∀ c ∈ s.desk.cases, ∀ op, a.operation ≠ .onCase c.id op) : Stepped s a { s with database }
  | opened (desk : Desk) (new : List CaseRow) (grows : Opened s.desk desk new)
      (other : ∀ c ∈ s.desk.cases, ∀ op, a.operation ≠ .onCase c.id op) : Stepped s a { s with desk }
  | operated (c : CaseRow) (member : c ∈ s.desk.cases) (op : CaseOperation) (named : a.operation = .onCase c.id op) :
      Stepped s a { s with desk := operate a.keys a.now s.database.store.bankTransactions s.desk c op }

theorem step_cases (settings : Settings) (s : System) (a : Action) : Stepped s a (step settings s a) := by
  obtain ⟨keys, now, operation⟩ := a
  cases operation with
  | ingestRecords draws data source recordType provider merchantId =>
    exact .ingested _ (ingestRecords_keepsBank draws s.database data source recordType provider merchantId)
      fun _ _ _ => nofun
  | ingestBankCsv maxUploadBytes draws content source provider merchantId =>
    exact .ingested _ (ingestBankCsv_keepsBank maxUploadBytes draws s.database content source provider merchantId)
      fun _ _ _ => nofun
  | runReconciliation order merchantId =>
    have grows : ∃ new, Opened s.desk (reconcile settings keys now s order merchantId) new := by
      unfold reconcile
      split
      · exact ⟨[], .refl s.desk⟩
      · next survey _ =>
        cases recorded : survey.findings.requests.foldlM (recordCase settings keys now) s.desk with
        | error => exact ⟨[], .refl s.desk⟩
        | ok desk =>
          obtain ⟨⟨new, cases, opened⟩, recoveries⟩ := recordCases_reported recorded
          exact ⟨new, cases, opened, .inl recoveries⟩
    obtain ⟨new, grows⟩ := grows
    exact .opened _ new grows fun _ _ _ => nofun
  | generateExceptions merchantId =>
    have grows : Opened s.desk (s.desk.after ((Exceptions.generateExceptions settings keys s.database.batches s.desk
        merchantId).map Prod.snd)) [] := by
      cases done : Exceptions.generateExceptions settings keys s.database.batches s.desk merchantId with
      | error => exact .refl s.desk
      | ok result =>
        obtain ⟨cases, recoveries⟩ := generateExceptions_keeps done
        exact ⟨cases.trans (List.append_nil _).symm, by simp, .inl recoveries⟩
    exact .opened _ [] grows fun _ _ _ => nofun
  | createCase args =>
    have grows : ∃ new, Opened s.desk (s.desk.after ((Cases.createCase settings keys now s.desk args).map
        fun made => made.2.2)) new := by
      cases made : Cases.createCase settings keys now s.desk args with
      | error => exact ⟨[], .refl s.desk⟩
      | ok result => exact createCase_opened made
    obtain ⟨new, grows⟩ := grows
    exact .opened _ new grows fun _ _ _ => nofun
  | onCase caseId operation =>
    cases found : s.desk.case? caseId with
    | none =>
      have same : step settings s ⟨keys, now, .onCase caseId operation⟩ = s := by simp only [step, found]
      rw [same]
      refine .opened s.desk [] (.refl s.desk) ?_
      rintro c member op named
      cases named
      rw [(s.desk.case?_eq_some_iff c.id c).mpr ⟨member, rfl⟩] at found
      cases found
    | some c =>
      have same : step settings s ⟨keys, now, .onCase caseId operation⟩ =
          { s with desk := operate keys now s.database.store.bankTransactions s.desk c operation } := by
        simp only [step, found]
      rw [same]
      obtain ⟨member, rfl⟩ := (s.desk.case?_eq_some_iff caseId c).mp found
      exact .operated c member operation rfl

end Step
end RCAA
