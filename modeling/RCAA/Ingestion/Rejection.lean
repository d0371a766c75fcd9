import RCAA.Ingestion.Merchants

/-! What an import that raises leaves behind. The batch of a call is not committed before its
rows are, so the rollback of a failed write takes it away, and the handler that would mark it
finds nothing. Only a call refused while its input is read commits a rejected batch. -/

namespace RCAA

section Rejection
variable [Runtime]

/-- A call of one of the two entry points. -/
inductive ImportCall where
  | ingestRecords (data : List Dict) (recordType : RecordType)
  | ingestBankCsv (maxUploadBytes : Nat) (content : List UInt8)

namespace ImportCall

def run (draws : Draws) (session : Session) (source : String) (provider merchantId : Option String) (commit : Bool) :
    ImportCall → Except IngestError IngestReport × Session
  | .ingestRecords data recordType => RCAA.ingestRecords draws session data source recordType provider merchantId commit
  | .ingestBankCsv maxUploadBytes content =>
    RCAA.ingestBankCsv maxUploadBytes draws session content source provider merchantId commit

/-- The records the call reads before it writes any. -/
def read (draws : Draws) (source : String) (provider : Option String) : ImportCall → Except IngestError (List NormalizedRecord)
  | .ingestRecords data recordType => normalizeAll draws data source recordType provider
  | .ingestBankCsv maxUploadBytes content => parseBankCsv maxUploadBytes draws content source provider

/-- What a call that refuses its input counts as received and rejected; a file counts as one. -/
def refused : ImportCall → Nat × Nat
  | .ingestRecords data _ => (data.length, data.length)
  | .ingestBankCsv .. => (0, 1)

/-- A call reads its records, and writes them under a new batch or refuses them. -/
theorem run_eq (draws : Draws) (session : Session) (source : String) (provider merchantId : Option String) (commit : Bool)
    (call : ImportCall) :
    call.run draws session source provider merchantId commit =
      match call.read draws source provider with
      | .error error => rejectInput draws session source provider merchantId call.refused.1 call.refused.2 error
      | .ok records => persistNormalized draws (createBatch session draws.batchId source provider merchantId).1 records
          (createBatch session draws.batchId source provider merchantId).2 commit := by
  cases call <;> rfl

end ImportCall

/-- No row is there that the session did not have, durably or in its transaction. -/
def NoRowAdded (before after : Session) : Prop :=
  ∀ row, row ∈ after.durable.store.rows ∨ row ∈ after.current.store.rows →
    row ∈ before.durable.store.rows ∨ row ∈ before.current.store.rows

/-- The call under `id` left exactly one batch, durable and rejected, with its counts and its error. -/
structure Traced (id : String) (received rejected : Nat) (error : IngestError) (before after : Session) : Prop where
  one : ∃ batch, (after.durable.batches.filter fun b => b.id = id) = [batch] ∧ batch.status = "REJECTED" ∧
    batch.receivedCount = received ∧ batch.rejectedCount = rejected ∧ batch.errorSummary = some error.text
  others : ∀ batch ∈ after.durable.batches, batch.id ≠ id → batch ∈ before.durable.batches ∨ batch ∈ before.current.batches

/-- The identifier of the batch is new. -/
def Draws.FreshBatch (draws : Draws) (session : Session) : Prop :=
  ∀ batch, batch ∈ session.durable.batches ∨ batch ∈ session.current.batches → batch.id ≠ draws.batchId

/-- The durable batches of a failed write are those of the last commit. -/
theorem persistNormalized_untraced {draws : Draws} {session after : Session} {records : List NormalizedRecord}
    {batch : IngestionBatch} {commit : Bool} {error : IngestError} (fresh : ∀ b ∈ session.durable.batches, b.id ≠ batch.id)
    (ran : persistNormalized draws session records batch commit = (.error error, after)) :
    after.durable = session.durable ∧ after.current = session.durable := by
  simp only [persistNormalized] at ran
  split at ran
  · cases (Prod.mk.inj ran).1
  · have unmarked : session.durable.batches.find? (fun b => b.id = batch.id) = none := by
      simpa only [List.find?_eq_none, decide_eq_true_eq] using fresh
    have still : session.rollback.durable.batches.find? (fun b => b.id = batch.id) = none := unmarked
    simp only [still] at ran
    obtain ⟨_, rfl⟩ := Prod.mk.inj ran
    exact ⟨rfl, rfl⟩

omit [Runtime] in
/-- A batch marked under a new identifier is the only one with it. -/
theorem put_new {database : Database} {batch marked : IngestionBatch} (same : marked.id = batch.id)
    (fresh : ∀ b ∈ database.batches, b.id ≠ batch.id) :
    ({ database with batches := database.batches ++ [batch] }.put marked).batches = database.batches ++ [marked] := by
  have kept : database.batches.map (fun b => if b.id = marked.id then marked else b) = database.batches := by
    refine (List.map_congr_left fun b member => ?_).trans (List.map_id _)
    rw [same, if_neg (fresh b member)]
    rfl
  rw [Database.put, List.map_append, kept, List.map_singleton, if_pos same.symm]

/-- A refused input is committed as one rejected batch. -/
theorem rejectInput_traced {draws : Draws} {session : Session} {source : String} {provider merchantId : Option String}
    {received rejected : Nat} {message : String} (fresh : draws.FreshBatch session) :
    Traced draws.batchId received rejected (.validation message) session
      (rejectInput draws session source provider merchantId received rejected (.validation message)).2 := by
  let blank : IngestionBatch := { id := draws.batchId, source, provider, merchantId }
  let marked : IngestionBatch := { blank with
    receivedCount := received, rejectedCount := rejected, status := "REJECTED", errorSummary := some message }
  have unused : ∀ b ∈ session.current.batches, b.id ≠ draws.batchId := fun b member => fresh b (.inr member)
  have batches : (rejectInput draws session source provider merchantId received rejected (.validation message)).2.durable.batches =
      session.current.batches ++ [marked] := @put_new session.current blank marked rfl unused
  have none : (session.current.batches.filter fun b => b.id = draws.batchId) = [] := by
    simpa only [List.filter_eq_nil_iff, decide_eq_true_eq] using unused
  refine ⟨⟨marked, ?_, rfl, rfl, rfl, rfl⟩, fun batch member other => ?_⟩
  · rw [batches, List.filter_append, none, List.nil_append, List.filter_cons_of_pos (by simp [marked, blank]), List.filter_nil]
  · rw [batches] at member
    rcases List.mem_append.mp member with old | new
    · exact .inr old
    · rw [List.mem_singleton.mp new] at other
      exact absurd rfl other

omit [Runtime] in
theorem Draws.FreshBatch.untraced {draws : Draws} {before after : Session} (fresh : draws.FreshBatch before) [Runtime]
    {received rejected : Nat} {error : IngestError} (kept : after.durable.batches = before.durable.batches) :
    ¬Traced draws.batchId received rejected error before after := by
  rintro ⟨⟨batch, only, _⟩, _⟩
  have member : batch ∈ after.durable.batches.filter fun b => b.id = draws.batchId := by rw [only]; exact List.mem_cons_self
  rw [kept, List.mem_filter, decide_eq_true_eq] at member
  exact fresh batch (.inl member.1) member.2

/-- An import that raises adds no row, whatever it fails on. It leaves its one rejected batch
exactly if the input was refused while it was read, with the counts of such a refusal. -/
theorem rejected_import_traced_iff {draws : Draws} {session after : Session} {source : String}
    {provider merchantId : Option String} {commit : Bool} {call : ImportCall} {error : IngestError}
    (fresh : draws.FreshBatch session) (raised : call.run draws session source provider merchantId commit = (.error error, after)) :
    NoRowAdded session after ∧ ∀ received rejected, Traced draws.batchId received rejected error session after ↔
      (received, rejected) = call.refused ∧ ∃ message, call.read draws source provider = .error (.validation message) := by
  rw [ImportCall.run_eq] at raised
  cases read : call.read draws source provider with
  | ok records =>
    simp only [read] at raised
    have rolled : after.durable = session.durable ∧ after.current = session.durable :=
      @persistNormalized_untraced _ _ (createBatch session draws.batchId source provider merchantId).1 _ _ _ _ _
        (fun b member => fresh b (.inl member)) raised
    refine ⟨fun row found => .inl ?_, fun received rejected => ⟨fun traced => ?_, ?_⟩⟩
    · rw [rolled.1, rolled.2] at found
      exact found.elim id id
    · exact absurd traced (fresh.untraced (congrArg Database.batches rolled.1))
    · rintro ⟨_, _, refused⟩
      cases refused
  | error failed =>
    simp only [read] at raised
    cases failed with
    | validation message =>
      have trace := @rejectInput_traced _ draws session source provider merchantId call.refused.1 call.refused.2 message fresh
      have left : (rejectInput draws session source provider merchantId call.refused.1 call.refused.2 (.validation message)).2 =
          after := congrArg Prod.snd raised
      have stores : after.durable.store = session.current.store ∧ after.current.store = session.current.store := by
        rw [← left]
        exact ⟨rfl, rfl⟩
      rw [left] at trace
      cases congrArg Prod.fst raised
      refine ⟨fun row found => .inr ?_, fun received rejected => ⟨fun traced => ?_, ?_⟩⟩
      · rw [stores.1, stores.2] at found
        exact found.elim id id
      · obtain ⟨batch, only, _, received', rejected', _⟩ := trace.one
        obtain ⟨again, only', _, rfl, rfl, _⟩ := traced.one
        cases only.symm.trans only'
        exact ⟨Prod.ext received' rejected', message, rfl⟩
      · rintro ⟨counts, _⟩
        rwa [← counts] at trace
    | _ =>
      obtain ⟨_, rfl⟩ := Prod.mk.inj raised
      refine ⟨fun row found => found, fun received rejected => ⟨fun traced => ?_, ?_⟩⟩
      · exact absurd traced (fresh.untraced rfl)
      · rintro ⟨_, _, refused⟩
        cases refused

end Rejection

section Examples
open PlainText

/-- One payment of an import. -/
def importedPayment (amount status : String) : ImportCall :=
  .ingestRecords [[("external_id", .str "p1"), ("amount", .str amount), ("status", .str status)]] .payment

theorem importDraws_freshBatch : importDraws.FreshBatch emptySession := by
  rintro _ (stored | stored) <;> cases stored

/-- An amount that is no number is refused while it is read. -/
theorem rejected_import_traced_iff_amount :
    NoRowAdded emptySession ((importedPayment "ten" "captured").run importDraws emptySession "manual_demo" none none true).2 ∧
      Traced "batch" 1 1 (.validation "amount must be a valid decimal") emptySession
        ((importedPayment "ten" "captured").run importDraws emptySession "manual_demo" none none true).2 := by
  have raised : (importedPayment "ten" "captured").run importDraws emptySession "manual_demo" none none true =
      (.error (.validation "amount must be a valid decimal"), _) := Prod.ext rfl rfl
  obtain ⟨none, traced⟩ := rejected_import_traced_iff importDraws_freshBatch raised
  exact ⟨none, (traced 1 1).mpr ⟨rfl, "amount must be a valid decimal", rfl⟩⟩

/-- A status that is read only when the rows are written fails there, and leaves no batch. -/
theorem failed_write_leaves_no_trace :
    ¬∀ (draws : Draws) (session after : Session) (source : String) (provider merchantId : Option String) (commit : Bool)
      (call : ImportCall) (error : IngestError), draws.FreshBatch session →
        call.run draws session source provider merchantId commit = (.error error, after) →
          NoRowAdded session after ∧ Traced draws.batchId call.refused.1 call.refused.2 error session after := by
  intro law
  have raised : (importedPayment "10.00" "reversed").run importDraws emptySession "manual_demo" none none true =
      (.error (.validation "unsupported status: reversed"), emptySession) := Prod.ext rfl rfl
  obtain ⟨_, traced⟩ := law _ _ _ _ _ _ _ _ _ importDraws_freshBatch raised
  obtain ⟨batch, only, _⟩ := traced.one
  cases only

end Examples
end RCAA
