import RCAA.Ingestion.Validation
import RCAA.Reconciliation.BankReferences
import RCAA.Library.Runs

/-! Uploads that are imported. The source of the rows of an upload names the upload, and a bank
row is known by its source: the same file uploaded again is stored again. Of an upload's row
only what validation and import read and write is kept. -/

namespace RCAA

inductive UploadStatus where
  | uploaded | ready | validationFailed | imported
deriving DecidableEq, Repr

structure DataUpload where
  id : String
  merchantId : String
  dataType : DataType
  provider : Option String := none
  headers : List String := []
  rows : List Dict := []
  rowCount : Nat := rows.length
  mapping : List (String × String) := []
  validation : Option ValidationReport := none
  status : UploadStatus := .uploaded
  importResult : Option IngestReport := none

namespace DataUpload

/-- `validation_json.get("valid")`. -/
def valid (upload : DataUpload) : Bool := (upload.validation.map ValidationReport.valid).getD false

/-- `f"customer_upload:{upload.id}"`. -/
def source (upload : DataUpload) : String := "customer_upload:" ++ upload.id

end DataUpload

/-- The statuses of a refused import. -/
inductive ImportRefused where
  | conflict (detail : String)
  | unprocessable (detail : String)
deriving DecidableEq

section Import
variable [Runtime]

/-- `import_upload`, which has a session of its own. -/
def importUpload (draws : Draws) (database : Database) (upload : DataUpload) : Except ImportRefused DataUpload × Database :=
  if upload.status = .imported then (.ok upload, database)
  else if !upload.valid then (.error (.conflict "Fix validation errors before importing this file"), database)
  else match importRows draws ⟨database, database⟩ upload.merchantId upload.dataType upload.rows upload.mapping upload.source
      upload.provider with
    | (.error error, session) => (.error (.unprocessable error.text), session.rollback.durable)
    | (.ok result, session) => (.ok { upload with importResult := some result, status := .imported }, session.commit.durable)

/-- An upload that was imported is not imported again. -/
theorem importUpload_again {draws again : Draws} {database : Database} {upload imported : DataUpload} {after : Database}
    (done : importUpload draws database upload = (.ok imported, after)) (later : Database) :
    importUpload again later imported = (.ok imported, later) := by
  have status : imported.status = .imported := by
    simp only [importUpload] at done
    split at done
    · next already =>
      cases done
      exact already
    · split at done
      · cases (Prod.mk.inj done).1
      · split at done
        · cases (Prod.mk.inj done).1
        · cases (Prod.mk.inj done).1
          rfl
  exact if_pos status

/-! ## The same file in several uploads -/

/-- The import of one more upload of a file. -/
def importCopy (file : DataUpload) (database : Database) (copy : Draws × String) : Database :=
  (importUpload copy.1 database { file with id := copy.2 }).2

def CopyImported (file : DataUpload) (database : Database) (copy : Draws × String) : Prop :=
  (importUpload copy.1 database { file with id := copy.2 }).1.isOk = true

instance (file : DataUpload) (database : Database) (copy : Draws × String) : Decidable (CopyImported file database copy) :=
  inferInstanceAs (Decidable (_ = _))

/-- The external ids the rows of a file name. -/
def DataUpload.externalIds (file : DataUpload) : List String :=
  (transformRows file.dataType file.rows file.mapping).filterMap fun row =>
    (requiredText (row.get "external_id") "external_id").toOption

/-- The stored bank rows with an external id that came from uploads. -/
def copies (database : Database) (uploadIds : List String) (externalId : String) : List BankTransaction :=
  database.store.bankTransactions.filter fun b =>
    b.externalId = externalId ∧ b.source ∈ uploadIds.map fun id => "customer_upload:" ++ id

/-- An import of a bank file leaves a row for each external id of the file, under its source. -/
theorem importUpload_keys {draws : Draws} {database : Database} {file : DataUpload} (bank : file.dataType = .bankTransactions)
    (pending : file.status ≠ .imported) (imported : (importUpload draws database file).1.isOk = true) :
    database.store.keys ⊆ (importUpload draws database file).2.store.keys ∧
      ∀ externalId ∈ file.externalIds,
        (.bankTransaction, some file.source, externalId) ∈ (importUpload draws database file).2.store.keys := by
  simp only [importUpload, if_neg pending] at imported ⊢
  split at imported
  · cases imported
  · next valid =>
    rw [if_neg valid]
    split at imported
    · cases imported
    · next report session ran =>
      obtain ⟨records, progress, written, normalized, done, _, _, _, stored⟩ := ran_persisted ran
      have added := (persistAll_kept done).2
      refine ⟨fun key member => ?_, fun externalId named => ?_⟩
      · change key ∈ session.current.store.keys
        rw [stored]
        exact added.keys_subset member
      · obtain ⟨row, inside, read⟩ := List.mem_filterMap.mp named
        obtain ⟨i, place⟩ := List.mem_iff_getElem?.mp inside
        obtain ⟨record, member, accepted⟩ := Outcome.forall₂_left (Outcome.mapM_forall₂ normalized)
          (List.mem_zipIdx_iff_getElem?.mpr place : (row, i) ∈ _)
        rw [bank] at accepted
        have kept := normalizeRecord_readFrom accepted
        rw [(normalizeRecord_bank accepted).1] at read
        cases read
        change _ ∈ session.current.store.keys
        rw [stored, added.mem_keys_iff]
        refine .inr (List.mem_map.mpr ⟨record, member, ?_⟩)
        simp only [NormalizedRecord.key, kept.type, kept.source, DataType.recordType]

/-- Every upload of a bank file that was imported left its own row for each external id. -/
theorem importCopies_keys {file : DataUpload} (bank : file.dataType = .bankTransactions) (pending : file.status ≠ .imported)
    {database : Database} {imports : List (Draws × String)}
    (imported : Runs.Along (importCopy file) (CopyImported file) database imports) :
    database.store.keys ⊆ (Runs.run (importCopy file) database imports).store.keys ∧
      ∀ externalId ∈ file.externalIds, ∀ id ∈ imports.map Prod.snd,
        (.bankTransaction, some ("customer_upload:" ++ id), externalId) ∈
          (Runs.run (importCopy file) database imports).store.keys := by
  induction imports generalizing database with
  | nil => exact ⟨List.Subset.refl _, fun _ _ id member => nomatch member⟩
  | cons copy rest ih =>
    obtain ⟨first, later⟩ := imported
    obtain ⟨kept, stored⟩ := @importUpload_keys _ copy.1 _ { file with id := copy.2 } bank pending first
    obtain ⟨grown, others⟩ := ih later
    rw [Runs.run_cons]
    refine ⟨fun key member => grown (kept member), fun externalId named id member => ?_⟩
    rcases List.mem_cons.mp member with rfl | member
    · exact grown (stored externalId named)
    · exact others externalId named id member

omit [Runtime] in
theorem mem_copies {database : Database} {uploads : List String} {externalId : String} {b : BankTransaction} :
    b ∈ copies database uploads externalId ↔
      b ∈ database.store.bankTransactions ∧ b.externalId = externalId ∧ b.source ∈ uploads.map fun id => "customer_upload:" ++ id := by
  simp only [copies, List.mem_filter, decide_eq_true_eq]

omit [Runtime] in
/-- The copies of a bank row come from different uploads. -/
theorem copies_sources_nodup (database : Database) (uploads : List String) (externalId : String) :
    ((copies database uploads externalId).map BankTransaction.source).Nodup := by
  have pairs := database.store.bankSourceIds.sublist
    ((List.filter_sublist (p := fun b => decide (b.externalId = externalId ∧
      b.source ∈ uploads.map fun id => "customer_upload:" ++ id))).map _)
  have same : (copies database uploads externalId).map (fun b => (b.source, b.externalId)) =
      ((copies database uploads externalId).map BankTransaction.source).map fun source => (source, externalId) := by
    rw [List.map_map]
    exact List.map_congr_left fun b member => Prod.ext rfl (mem_copies.mp member).2.1
  exact List.Nodup.of_map _ (same ▸ pairs)

/-- As many copies of a bank row are stored as uploads of its file were imported. -/
theorem copies_length {file : DataUpload} (bank : file.dataType = .bankTransactions) (pending : file.status ≠ .imported)
    {database : Database} {imports : List (Draws × String)} (own : (imports.map Prod.snd).Nodup)
    (imported : Runs.Along (importCopy file) (CopyImported file) database imports) {externalId : String}
    (named : externalId ∈ file.externalIds) :
    (copies (Runs.run (importCopy file) database imports) (imports.map Prod.snd) externalId).length = imports.length := by
  obtain ⟨_, stored⟩ := importCopies_keys bank pending imported
  generalize Runs.run (importCopy file) database imports = after at stored
  have distinct := copies_sources_nodup after (imports.map Prod.snd) externalId
  have sources : ((imports.map Prod.snd).map fun id => "customer_upload:" ++ id).Nodup :=
    own.map fun _ _ same => String.append_right_inj _ |>.mp same
  have perm := (List.perm_ext_iff_of_nodup distinct sources).mpr fun source => by
    constructor
    · intro member
      obtain ⟨b, inside, rfl⟩ := List.mem_map.mp member
      exact (mem_copies.mp inside).2.2
    · intro member
      obtain ⟨id, uploaded, rfl⟩ := List.mem_map.mp member
      obtain ⟨row, inside, key⟩ := Store.mem_keys.mp (stored externalId named id uploaded)
      cases row with
      | payment | refund | settlement => cases key
      | bank b =>
        simp only [Record.key, Prod.mk.injEq, Option.some.injEq, true_and] at key
        obtain ⟨from_, named⟩ := key
        refine List.mem_map.mpr ⟨b, mem_copies.mpr ⟨Store.bank_mem_rows.mp inside, named, ?_⟩, from_⟩
        exact from_ ▸ List.mem_map_of_mem uploaded
  have lengths := perm.length_eq
  simpa only [List.length_map] using lengths

/-- A bank file whose uploads were all imported has each of its rows stored once exactly if it
was uploaded once, or has no row. -/
theorem bank_reimport_once_iff {file : DataUpload} (bank : file.dataType = .bankTransactions) (pending : file.status ≠ .imported)
    {database : Database} {imports : List (Draws × String)} (own : (imports.map Prod.snd).Nodup)
    (imported : Runs.Along (importCopy file) (CopyImported file) database imports) :
    (∀ externalId ∈ file.externalIds,
        (copies (Runs.run (importCopy file) database imports) (imports.map Prod.snd) externalId).length = 1) ↔
      file.externalIds = [] ∨ imports.length = 1 := by
  constructor
  · intro once
    rcases List.eq_nil_or_concat' file.externalIds with none | ⟨_, externalId, whole⟩
    · exact .inl none
    · have named : externalId ∈ file.externalIds := by simp [whole]
      rw [← copies_length bank pending own imported named]
      exact .inr (once externalId named)
  · rintro (none | one) externalId named
    · rw [none] at named
      cases named
    · rw [copies_length bank pending own imported named, one]

end Import

section Examples
open DatedText

def creditRows : List Dict :=
  [[("transaction_id", .str "BANK_1"), ("amount", .str "90.00"), ("value_date", .str "2024-01-01T12:00:00Z")]]

def creditMapping : List (String × String) :=
  [("external_id", "transaction_id"), ("amount", "amount"), ("event_timestamp", "value_date")]

/-- A file of one credit, as it was validated. -/
def creditFile : DataUpload :=
  { id := "", merchantId := "m1", dataType := .bankTransactions, rows := creditRows, mapping := creditMapping
    validation := some (validateRows (fun _ => ⟨0, some 0⟩) .bankTransactions creditRows creditMapping), status := .ready }

def uploadedAs (id : String) : Draws × String := (⟨id, fun i => id ++ toString i, fun _ => ⟨0, some 0⟩⟩, id)

theorem bank_reimport_once_iff_uploaded :
    creditFile.externalIds = ["BANK_1"] ∧
      (copies (Runs.run (importCopy creditFile) {} [uploadedAs "u1"]) ["u1"] "BANK_1").length = 1 := by
  have once := (@bank_reimport_once_iff _ creditFile rfl (by decide) {} [uploadedAs "u1"] (by decide) ⟨by decide, trivial⟩).mpr
    (.inr rfl)
  exact ⟨by decide, once "BANK_1" (by decide)⟩

/-- The file uploaded and imported twice stores its credit twice. -/
theorem second_upload_stores_again :
    ¬∀ (file : DataUpload) (database : Database) (imports : List (Draws × String)), file.dataType = .bankTransactions →
      file.status ≠ .imported → (imports.map Prod.snd).Nodup →
        Runs.Along (importCopy file) (CopyImported file) database imports → ∀ externalId ∈ file.externalIds,
          (copies (Runs.run (importCopy file) database imports) (imports.map Prod.snd) externalId).length = 1 := by
  intro law
  have once := law creditFile {} [uploadedAs "u1", uploadedAs "u2"] rfl (by decide) (by decide)
    ⟨by decide, by decide, trivial⟩ "BANK_1" (by decide)
  exact absurd once (by decide)

end Examples
end RCAA
