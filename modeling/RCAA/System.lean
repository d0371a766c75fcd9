import Mathlib
import RCAA.Exceptions.Engine

/-! The service as one state, the tables ingestion fills and the case desk, and the
calls that change it. A call runs in a session of its own and is atomic: it reads what
the last one committed, and one that raises commits nothing except what its operation
says. An operation on a case that is not there is refused. -/

namespace RCAA

/-! ## Recording the findings of a run -/

/-- The part of the desk a reconciliation reads and writes. -/
def Desk.caseStore (desk : Desk) : CaseStore where
  cases := desk.cases.map (·.toCase)
  events := desk.events
  fingerprints := by simpa only [List.map_map, Function.comp_def] using desk.fingerprints
  numbering := by simpa only [List.map_map, Function.comp_def] using desk.numbering

section Recording
variable [Hashing]

def reportedCase (settings : Settings) (keys : KeySource) (now : Int) (desk : Desk) (request : CaseRequest) : CaseRow :=
  { newCase settings ⟨keys.draw (desk.cases.map (·.id)), now⟩ desk.caseStore request with updatedAt := now }

theorem reportedCase_caseNumber (settings : Settings) (keys : KeySource) (now : Int) (desk : Desk) (request : CaseRequest) :
    (reportedCase settings keys now desk request).caseNumber = nextCaseNumber (desk.cases.map (·.caseNumber)) (yearOf now) := by
  simp only [reportedCase, newCase, Desk.caseStore, List.map_map, Function.comp_def]

/-- A finding becomes a case unless its fingerprint is stored. -/
def recordCase (settings : Settings) (keys : KeySource) (now : Int) (desk : Desk) (request : CaseRequest) :
    Except CaseError Desk :=
  let row := reportedCase settings keys now desk request
  if row.fingerprint ∈ desk.cases.map (·.fingerprint) then .ok desk
  else do
    let stored ← desk.insertCase row (yearOf now) (reportedCase_caseNumber settings keys now desk request)
    return stored.log row.id "CASE_CREATED"

/-- Recording on the desk is the engine's own recording on its part of the desk. -/
theorem recordCase_caseStore (settings : Settings) (keys : KeySource) (now : Int) (desk : Desk) (request : CaseRequest) :
    ∃ desk', recordCase settings keys now desk request = .ok desk' ∧
      desk'.caseStore = (createCase settings (fun _ => ⟨keys.draw (desk.cases.map (·.id)), now⟩) desk.caseStore
        request).1 := by
  have prints : desk.caseStore.cases.map (·.fingerprint) = desk.cases.map (·.fingerprint) := by
    simp only [Desk.caseStore, List.map_map, Function.comp_def]
  by_cases known : request.content.fingerprint ∈ desk.cases.map (·.fingerprint)
  · refine ⟨desk, if_pos known, ?_⟩
    rw [createCase, dif_pos (prints ▸ known)]
  · have accepted : (reportedCase settings keys now desk request).id ∉ desk.cases.map (·.id) ∧
        (reportedCase settings keys now desk request).fingerprint ∉ desk.cases.map (·.fingerprint) :=
      ⟨keys.fresh _, known⟩
    simp only [recordCase, Desk.insertCase]
    rw [if_neg accepted.2, dif_pos accepted]
    refine ⟨_, rfl, ?_⟩
    rw [createCase, dif_neg fun stored => known (prints ▸ stored)]
    simp only [Desk.caseStore, CaseStore.insert, Desk.log, List.map_append, List.map_singleton]
    rfl

end Recording

/-! ## Calls -/

structure System where
  database : Database := {}
  desk : Desk := {}

inductive CaseOperation where
  | ensureRecovery
  | initiateRecovery (request : Cases.RecoveryRequest)
  | verifyRecovery (bankTransactionId : String) (note : Option String)
  | markUnrecoverable (note : String)
  | transition (target : String) (resolutionCode resolutionNote : Option String)
  | assignCase (assignedTo : Option String)
  | addNote (note : String) (authorReference : Option String)
  | attachException (exceptionId : String)

inductive Operation where
  | ingestRecords (draws : Draws) (data : List Dict) (source : String) (recordType : RecordType)
      (provider merchantId : Option String)
  | ingestBankCsv (maxUploadBytes : Nat) (draws : Draws) (content : List UInt8) (source : String)
      (provider merchantId : Option String)
  | runReconciliation (order : SetOrder) (merchantId : Option String)
  | generateExceptions (merchantId : Option String)
  | createCase (args : Cases.CaseArguments)
  | onCase (caseId : String) (operation : CaseOperation)

/-- A call with the keys it draws and the time it reads. -/
structure Action where
  keys : KeySource
  now : Int
  operation : Operation

/-- The desk after an operation that may have raised. -/
def Desk.after (desk : Desk) (outcome : Except CaseError Desk) : Desk := outcome.toOption.getD desk

section Calls
variable [Platform]

def operate (keys : KeySource) (now : Int) (bank : List BankTransaction) (desk : Desk) (case : CaseRow) :
    CaseOperation → Desk
  | .ensureRecovery => (Cases.ensureRecovery keys now desk case).2
  | .initiateRecovery request => desk.after (Cases.initiateRecovery keys now desk case request)
  | .verifyRecovery bankTransactionId note => (Cases.verifyRecovery keys now bank desk case bankTransactionId note).2
  | .markUnrecoverable note => desk.after (Cases.markUnrecoverable keys now desk case note)
  | .transition target resolutionCode resolutionNote =>
    desk.after (Cases.transition keys now desk case target resolutionCode resolutionNote)
  | .assignCase assignedTo => desk.after (Cases.assignCase now desk case assignedTo)
  | .addNote note authorReference => desk.after (Cases.addNote keys now desk case note authorReference)
  | .attachException exceptionId => desk.after (Cases.attachException now desk case exceptionId)

end Calls

section Step
variable [Runtime] [Hashing] [Exceptions.ExceptionHashing]

def reconcile (settings : Settings) (keys : KeySource) (now : Int) (s : System) (order : SetOrder)
    (merchantId : Option String) : Desk :=
  match survey order settings s.database.store merchantId with
  | .error _ => s.desk
  | .ok survey => s.desk.after (survey.findings.requests.foldlM (recordCase settings keys now) s.desk)

def step (settings : Settings) (s : System) (a : Action) : System :=
  match a.operation with
  | .ingestRecords draws data source recordType provider merchantId =>
    { s with database := (ingestRecords draws ⟨s.database, s.database⟩ data source recordType provider merchantId
        true).2.durable }
  | .ingestBankCsv maxUploadBytes draws content source provider merchantId =>
    { s with database := (ingestBankCsv maxUploadBytes draws ⟨s.database, s.database⟩ content source provider
        merchantId true).2.durable }
  | .runReconciliation order merchantId =>
    { s with desk := reconcile settings a.keys a.now s order merchantId }
  | .generateExceptions merchantId =>
    { s with desk := s.desk.after ((Exceptions.generateExceptions settings a.keys s.database.batches s.desk
        merchantId).map Prod.snd) }
  | .createCase args =>
    { s with desk := s.desk.after ((Cases.createCase settings a.keys a.now s.desk args).map fun made => made.2.2) }
  | .onCase caseId operation => match s.desk.case? caseId with
    | none => s
    | some case =>
      { s with desk := operate a.keys a.now s.database.store.bankTransactions s.desk case operation }

end Step

/-! ## Evaluation -/

namespace PlainText

/-- A host on UTC whose text is ASCII and which stores text only. -/
scoped instance plainRuntime : Runtime where
  toPlatform := plainText
  objectText _ := "{}"
  columnText _ := none
  comparable _ := false
  readCsv _ := none
  errorText _ := "error"

/-- A text longer than any in use. -/
def longer (used : List String) : String :=
  String.ofList (List.replicate ((used.map fun key => key.toList.length).sum + 1) 'k')

def keys : KeySource where
  draw := longer
  fresh used member := by
    have bound := List.le_sum_of_mem (List.mem_map_of_mem (f := fun key => key.toList.length) member)
    simp only [longer, String.toList_ofList, List.length_replicate] at bound
    omega

def call (operation : Operation) : Action := ⟨keys, 1704110400000000, operation⟩

end PlainText
end RCAA
