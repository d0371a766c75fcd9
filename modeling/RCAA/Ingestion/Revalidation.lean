import RCAA.Ingestion.Uploads

/-! Requests on one upload. Validation stores the mapping and the status it finds without
looking at the status there was: an upload that was imported can be validated again, under
another mapping, and is then imported again. -/

namespace RCAA

/-- `payload.mapping or upload.mapping_json or {}`. -/
def requestedMapping (payload stored : List (String × String)) : List (String × String) :=
  if payload.isEmpty then stored else payload

section Requests
variable [Runtime]

/-- `validate_upload`. -/
def validateUpload (received : Nat → DateTime) (upload : DataUpload) (payload : List (String × String)) : DataUpload :=
  let mapping := requestedMapping payload upload.mapping
  let errors := validateMapping upload.dataType upload.headers mapping
  let validation :=
    if errors.isEmpty then validateRows received upload.dataType upload.rows mapping
    else { valid := false, rows := upload.rowCount, validRows := 0, warningRows := 0, errorRows := upload.rowCount
           errors := errors.take 20, warnings := [] }
  { upload with
    mapping
    validation := some validation
    status := if validation.valid then .ready else .validationFailed }

/-- A request of a merchant's user. -/
inductive UploadRequest where
  | validate (merchantId : String) (payload : List (String × String)) (received : Nat → DateTime)
  | importUpload (merchantId : String) (draws : Draws)

/-- An import that stored its batch: the mapping it read the rows with, and its result. -/
structure UploadImport where
  mapping : List (String × String)
  result : IngestReport

/-- What a request for an import stores. -/
def storedImport (draws : Draws) (database : Database) (upload : DataUpload) : Option UploadImport :=
  if upload.status = .imported ∨ upload.valid = false then none
  else match importRows draws ⟨database, database⟩ upload.merchantId upload.dataType upload.rows upload.mapping upload.source
      upload.provider with
    | (.error _, _) => none
    | (.ok result, _) => some ⟨upload.mapping, result⟩

/-- The database, the upload's row, and the imports of it there have been. -/
structure UploadDesk where
  database : Database
  upload : DataUpload
  imports : List UploadImport := []

namespace UploadDesk

/-- A user of another merchant does not find the upload. A refused import leaves its row. -/
def step (desk : UploadDesk) : UploadRequest → UploadDesk
  | .validate merchantId payload received =>
    if desk.upload.merchantId = merchantId then { desk with upload := validateUpload received desk.upload payload } else desk
  | .importUpload merchantId draws =>
    if desk.upload.merchantId = merchantId then
      { database := (RCAA.importUpload draws desk.database desk.upload).2
        upload := (RCAA.importUpload draws desk.database desk.upload).1.toOption.getD desk.upload
        imports := desk.imports ++ (storedImport draws desk.database desk.upload).toList }
    else desk

/-- The upload was imported once at most, and shows the import there was. -/
structure StaysImported (desk : UploadDesk) : Prop where
  once : desk.imports.length ≤ 1
  shown : ∀ done ∈ desk.imports, desk.upload.status = .imported ∧ desk.upload.mapping = done.mapping ∧
    desk.upload.importResult = some done.result

/-- A request that does not validate an imported upload again. -/
def Leaves (desk : UploadDesk) : UploadRequest → Prop
  | .validate merchantId _ _ => desk.upload.merchantId = merchantId → desk.upload.status ≠ .imported
  | .importUpload _ _ => True

instance (desk : UploadDesk) : (request : UploadRequest) → Decidable (desk.Leaves request)
  | .validate merchantId _ _ => inferInstanceAs (Decidable (desk.upload.merchantId = merchantId → desk.upload.status ≠ .imported))
  | .importUpload _ _ => isTrue trivial

end UploadDesk

/-! ## One request -/

theorem validateUpload_status (received : Nat → DateTime) (upload : DataUpload) (payload : List (String × String)) :
    (validateUpload received upload payload).status ≠ .imported := by
  simp only [validateUpload]
  generalize ite (validateMapping upload.dataType upload.headers (requestedMapping payload upload.mapping)).isEmpty _ _ = validation
  cases validation.valid <;> simp

/-- What a request for an import does: it stores one and shows it, or leaves the upload and
the rows there are. -/
theorem importUpload_cases (draws : Draws) (database : Database) (upload : DataUpload) :
    (∃ result, storedImport draws database upload = some ⟨upload.mapping, result⟩ ∧ upload.status ≠ .imported ∧
      (importUpload draws database upload).1 = .ok { upload with importResult := some result, status := .imported }) ∨
    (storedImport draws database upload = none ∧ (importUpload draws database upload).1.toOption.getD upload = upload ∧
      (importUpload draws database upload).2.store = database.store) := by
  by_cases imported : upload.status = .imported
  · exact .inr ⟨if_pos (.inl imported), by simp [importUpload, imported, Except.toOption], by simp [importUpload, imported]⟩
  · cases valid : upload.valid with
    | false =>
      exact .inr ⟨if_pos (.inr valid), by simp [importUpload, imported, valid, Except.toOption],
        by simp [importUpload, imported, valid]⟩
    | true =>
      have pending : ¬(upload.status = .imported ∨ upload.valid = false) := by simp [imported, valid]
      have checked : ¬(!upload.valid) = true := by simp [valid]
      rw [storedImport, if_neg pending, importUpload, if_neg imported, if_neg checked]
      rcases ran : importRows draws ⟨database, database⟩ upload.merchantId upload.dataType upload.rows upload.mapping
        upload.source upload.provider with ⟨outcome, session⟩
      cases outcome with
      | error error =>
        have kept : session.durable.store = database.store := ingestRecords_error_durable ran
        exact .inr ⟨rfl, rfl, kept⟩
      | ok result => exact .inl ⟨result, rfl, imported, rfl⟩

/-- Rows are stored by the imports that count. -/
theorem UploadDesk.step_store {desk : UploadDesk} {request : UploadRequest} (none : (desk.step request).imports = desk.imports) :
    (desk.step request).database.store = desk.database.store := by
  cases request with
  | validate merchantId payload received =>
    simp only [step]
    split <;> rfl
  | importUpload merchantId draws =>
    simp only [step] at none ⊢
    split at none
    · next own =>
      rw [if_pos own]
      rcases importUpload_cases draws desk.database desk.upload with ⟨result, stored, _, _⟩ | ⟨_, _, kept⟩
      · rw [stored] at none
        simp at none
      · exact kept
    · next other => rw [if_neg other]

namespace UploadDesk

/-- An upload shown as imported was imported. -/
def Known (desk : UploadDesk) : Prop := desk.upload.status = .imported → desk.imports ≠ []

theorem step_known (desk : UploadDesk) (request : UploadRequest) (known : desk.Known) : (desk.step request).Known := by
  cases request with
  | validate merchantId payload received =>
    simp only [step]
    split
    · exact fun imported => absurd imported (validateUpload_status received desk.upload payload)
    · exact known
  | importUpload merchantId draws =>
    simp only [step]
    split
    · rcases importUpload_cases draws desk.database desk.upload with ⟨result, stored, _, _⟩ | ⟨stored, same, _⟩
      · intro _
        simp [stored]
      · intro imported
        simp only [stored, same, Option.toList_none, List.append_nil] at imported ⊢
        exact known imported
    · exact known

/-- A request keeps the upload imported exactly if it does not validate it after the import. -/
theorem step_staysImported_iff (desk : UploadDesk) (request : UploadRequest) (known : desk.Known) (stays : desk.StaysImported) :
    (desk.step request).StaysImported ↔ desk.Leaves request := by
  cases request with
  | validate merchantId payload received =>
    simp only [step, Leaves]
    split
    · next own =>
      constructor
      · rintro after - imported
        obtain ⟨done, rest, listed⟩ := List.exists_cons_of_ne_nil (known imported)
        have shown := after.shown done (show done ∈ desk.imports by rw [listed]; exact List.mem_cons_self)
        exact validateUpload_status received desk.upload payload shown.1
      · intro pending
        have none : desk.imports = [] := List.eq_nil_iff_forall_not_mem.mpr fun done member =>
          pending own (stays.shown done member).1
        exact ⟨stays.once, fun done member => absurd (none ▸ member : done ∈ []) List.not_mem_nil⟩
    · next other => exact ⟨fun _ own => absurd own other, fun _ => stays⟩
  | importUpload merchantId draws =>
    simp only [step, Leaves, iff_true]
    split
    · rcases importUpload_cases draws desk.database desk.upload with ⟨result, stored, pending, now⟩ | ⟨stored, same, _⟩
      · have none : desk.imports = [] := List.eq_nil_iff_forall_not_mem.mpr fun done member =>
          pending (stays.shown done member).1
        refine ⟨by simp [none, stored], fun done member => ?_⟩
        simp only [none, stored, Option.toList_some, List.nil_append, List.mem_singleton] at member
        subst member
        rw [now]
        exact ⟨rfl, rfl, rfl⟩
      · refine ⟨by simpa [stored] using stays.once, fun done member => ?_⟩
        rw [same]
        exact stays.shown done (by simpa [stored] using member)
    · exact stays

end UploadDesk

/-! ## Any requests -/

/-- Throughout the requests on an upload at most one import of it is stored and is the one it
shows, exactly if no request validates it once it was imported. -/
theorem stays_imported_iff (database : Database) {upload : DataUpload} (pending : upload.status ≠ .imported)
    (requests : List UploadRequest) :
    Runs.Throughout UploadDesk.step UploadDesk.StaysImported ⟨database, upload, []⟩ requests ↔
      Runs.Along UploadDesk.step UploadDesk.Leaves ⟨database, upload, []⟩ requests :=
  Runs.throughout_iff UploadDesk.step_known UploadDesk.step_staysImported_iff (fun imported => absurd imported pending)
    ⟨Nat.zero_le _, fun _ member => absurd member List.not_mem_nil⟩ requests

end Requests

section Examples
open DatedText

/-- A file with two columns that may name its payment. -/
def paymentFile : DataUpload :=
  { id := "u1", merchantId := "m1", dataType := .payments, headers := ["payment_id", "order_id", "amount", "created_at"]
    rows := [[("payment_id", .str "pay-1"), ("order_id", .str "ord-1"), ("amount", .str "90.00"),
      ("created_at", .str "2024-01-01T12:00:00Z")]] }

def namedBy (column : String) : List (String × String) :=
  [("external_id", column), ("amount", "amount"), ("event_timestamp", "created_at")]

def validateAs (column : String) : UploadRequest := .validate "m1" (namedBy column) fun _ => ⟨0, some 0⟩
def importAs (id : String) : UploadRequest := .importUpload "m1" (uploadedAs id).1

theorem stays_imported_iff_once :
    Runs.Throughout UploadDesk.step UploadDesk.StaysImported ⟨{}, paymentFile, []⟩
      [validateAs "payment_id", importAs "i1", importAs "i2"] :=
  (stays_imported_iff {} (by decide) _).mpr (by decide)

/-- Validated again by its other column, the file is imported again. -/
theorem validated_again_is_imported_again :
    ¬∀ (database : Database) (upload : DataUpload) (requests : List UploadRequest), upload.status ≠ .imported →
      Runs.Throughout UploadDesk.step UploadDesk.StaysImported ⟨database, upload, []⟩ requests := by
  intro law
  have once := (law {} paymentFile [validateAs "payment_id", importAs "i1", validateAs "order_id", importAs "i2"] (by decide) _
    (List.prefix_refl _)).once
  exact absurd once (by decide)

end Examples
end RCAA
