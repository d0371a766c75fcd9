import RCAA.Ingestion.Persist

/-! What a returned call has written: one row for each record whose key neither the
store nor an earlier record has, built from that record. -/

namespace RCAA

open FirstByKey

section Persist
variable [Runtime]

/-- The key a record is looked up by. -/
def NormalizedRecord.key (record : NormalizedRecord) : TableKey :=
  (record.recordType,
    match record.recordType with
    | .bankTransaction => some record.source
    | _ => (queried record.provider).toOption.join,
    record.externalId)

/-- The tables whose rows take the record's merchant. -/
def RecordType.takesMerchant : RecordType → Bool
  | .payment | .bankTransaction => true
  | .refund | .settlement => false

/-! ## One record -/

theorem existing_iff {store : Store} {record : NormalizedRecord} {found : Bool}
    (looked : existing store record = .ok found) : found = true ↔ record.key ∈ store.keys := by
  cases type : record.recordType with
  | payment | refund | settlement =>
    simp only [existing, type] at looked
    obtain ⟨provider, read, looked⟩ := Outcome.bind_ok looked
    cases looked
    simp [NormalizedRecord.key, type, read, Except.toOption, Store.mem_keys, Store.rows, Record.key, or_and_right,
      exists_or]
  | bankTransaction =>
    simp only [existing, type] at looked
    cases looked
    simp [NormalizedRecord.key, type, Store.mem_keys, Store.rows, Record.key, or_and_right, exists_or]

theorem queried_provider {store : Store} {record : NormalizedRecord} {found : Bool}
    (looked : existing store record = .ok found) (other : record.recordType ≠ .bankTransaction) :
    ∃ provider, queried record.provider = .ok provider := by
  cases type : record.recordType with
  | payment | refund | settlement =>
    simp only [existing, type] at looked
    obtain ⟨provider, read, _⟩ := Outcome.bind_ok looked
    exact ⟨provider, read⟩
  | bankTransaction => exact absurd type other

theorem key_of_provider {record : NormalizedRecord} {stored : String} (other : record.recordType ≠ .bankTransaction)
    (looked : ∃ provider, queried record.provider = .ok provider) (taken : requiredColumn record.provider = .ok stored) :
    record.key = (record.recordType, some stored, record.externalId) := by
  obtain ⟨provider, read⟩ := looked
  have same : provider = some stored := Except.ok.inj ((column_of_queried read).symm.trans (column_of_required taken))
  cases type : record.recordType <;> simp_all [NormalizedRecord.key, Except.toOption]

/-- What the rows of each type take from the record. -/
structure Built (record : NormalizedRecord) (row : Record) : Prop where
  merchant : if record.recordType.takesMerchant then column record.merchantId = .ok row.merchantId
    else row.merchantId = none
  key : (∃ found store, existing store record = .ok found) → row.key = record.key
  money : record.recordType = .settlement → ∃ s metadata net, row = .settlement s ∧
    storedMetadata record = .object metadata ∧ record.amount = some net ∧ s.netAmount = net ∧
    toDecimal (metaGet metadata "gross_amount" (.decimal net)) "gross_amount" true = .ok s.grossAmount ∧
    toDecimal (metaGet metadata "fee" (.scalar (.int 0))) "fee" true = .ok s.fee ∧
    toDecimal (metaGet metadata "tax" (.scalar (.int 0))) "tax" true = .ok s.tax

omit [Runtime] in
theorem asObject_ok {value : Value} {fields : RawData} (read : asObject value = .ok fields) : value = .object fields := by
  cases value <;> cases read
  rfl

omit [Runtime] in
theorem checkRecord_ok {record : NormalizedRecord} {amount : Decimal} {timestamp : DateTime}
    (checked : checkRecord record = .ok (amount, timestamp)) :
    record.amount = some amount ∧ record.eventTimestamp = some timestamp := by
  unfold checkRecord at checked
  split at checked
  · cases checked
  · split at checked
    · cases checked
    · next found =>
      split at checked
      · cases checked
      · split at checked
        · cases checked
        · next time =>
          cases checked
          exact ⟨found, time⟩

/-! ## The row of each type -/

/-- What a payment takes from its record. -/
structure PaymentOf (id : String) (record : NormalizedRecord) (row : Payment) : Prop where
  drawn : row.id = id
  named : row.providerPaymentId = record.externalId
  provider : requiredColumn record.provider = .ok row.provider
  merchant : column record.merchantId = .ok row.merchantId

/-- What a refund takes from its record and from the payment it names. -/
structure RefundOf (store : Store) (id : String) (record : NormalizedRecord) (amount : Decimal) (timestamp : DateTime)
    (row : Refund) : Prop where
  drawn : row.id = id
  named : row.providerRefundId = record.externalId
  provider : requiredColumn record.provider = .ok row.provider
  merchant : row.merchantId = none
  linked : linkedPaymentId store record = .ok row.paymentId
  money : row.amount = amount
  status : row.status = record.status
  processed : row.processedAt =
    if record.status ∈ ["processed", "successful", "success"] then some timestamp else none

/-- What a settlement takes from its record, from the record's metadata and from the
payment it names. -/
structure SettlementOf (store : Store) (id : String) (record : NormalizedRecord) (amount : Decimal) (row : Settlement) :
    Prop where
  drawn : row.id = id
  named : row.providerSettlementId = record.externalId
  provider : requiredColumn record.provider = .ok row.provider
  paid : requiredColumn (.ofOption record.paymentReference) = .ok row.providerPaymentId
  merchant : row.merchantId = none
  linked : linkedPaymentId store record = .ok row.paymentId
  metadata : storedMetadata record = .object row.rawData
  net : row.netAmount = amount
  gross : toDecimal (metaGet row.rawData "gross_amount" (.decimal amount)) "gross_amount" true = .ok row.grossAmount
  fee : toDecimal (metaGet row.rawData "fee" (.scalar (.int 0))) "fee" true = .ok row.fee
  tax : toDecimal (metaGet row.rawData "tax" (.scalar (.int 0))) "tax" true = .ok row.tax

/-- What a bank transaction takes from its record. -/
structure BankOf (id : String) (record : NormalizedRecord) (row : BankTransaction) : Prop where
  drawn : row.id = id
  source : row.source = record.source
  named : row.externalId = record.externalId
  merchant : column record.merchantId = .ok row.merchantId
  reference : column record.orderReference = .ok row.reference
  metadata : row.metadataJson = storedMetadata record

section Rows
variable {store : Store} {id batchId : String} {record : NormalizedRecord} {amount : Decimal} {timestamp : DateTime}
  {row : Record}

theorem rowOf_payment (type : record.recordType = .payment)
    (built : rowOf store id batchId record amount timestamp = .ok (.ok row)) :
    ∃ payment, row = .payment payment ∧ PaymentOf id record payment := by
  simp only [rowOf, type] at built
  obtain ⟨metadata, _, built⟩ := Outcome.bind_ok built
  obtain ⟨provider, stored, built⟩ := Outcome.bind_ok (Except.ok.inj built)
  obtain ⟨order, _, built⟩ := Outcome.bind_ok built
  obtain ⟨merchant, taken, built⟩ := Outcome.bind_ok built
  obtain ⟨method, _, built⟩ := Outcome.bind_ok built
  obtain ⟨reference, _, built⟩ := Outcome.bind_ok built
  cases built
  exact ⟨_, rfl, rfl, rfl, stored, taken⟩

theorem rowOf_refund (type : record.recordType = .refund)
    (built : rowOf store id batchId record amount timestamp = .ok (.ok row)) :
    ∃ refund, row = .refund refund ∧ RefundOf store id record amount timestamp refund := by
  simp only [rowOf, type] at built
  obtain ⟨paymentId, linked, built⟩ := Outcome.bind_ok built
  obtain ⟨provider, stored, built⟩ := Outcome.bind_ok (Except.ok.inj built)
  obtain ⟨named, _, built⟩ := Outcome.bind_ok built
  obtain ⟨reference, _, built⟩ := Outcome.bind_ok built
  cases built
  exact ⟨_, rfl, rfl, rfl, stored, rfl, linked, rfl, rfl, rfl⟩

theorem rowOf_settlement (type : record.recordType = .settlement)
    (built : rowOf store id batchId record amount timestamp = .ok (.ok row)) :
    ∃ settlement, row = .settlement settlement ∧ SettlementOf store id record amount settlement := by
  simp only [rowOf, type] at built
  obtain ⟨paymentId, linked, built⟩ := Outcome.bind_ok built
  obtain ⟨metadata, object, built⟩ := Outcome.bind_ok built
  obtain ⟨gross, grossRead, built⟩ := Outcome.bind_ok built
  obtain ⟨fee, feeRead, built⟩ := Outcome.bind_ok built
  obtain ⟨tax, taxRead, built⟩ := Outcome.bind_ok built
  obtain ⟨provider, stored, built⟩ := Outcome.bind_ok (Except.ok.inj built)
  obtain ⟨named, paid, built⟩ := Outcome.bind_ok built
  obtain ⟨reference, _, built⟩ := Outcome.bind_ok built
  cases built
  exact ⟨_, rfl, rfl, rfl, stored, paid, rfl, linked, asObject_ok object, rfl, grossRead, feeRead, taxRead⟩

theorem rowOf_bank (type : record.recordType = .bankTransaction)
    (built : rowOf store id batchId record amount timestamp = .ok (.ok row)) :
    ∃ entry, row = .bank entry ∧ BankOf id record entry := by
  simp only [rowOf, type] at built
  obtain ⟨provider, _, built⟩ := Outcome.bind_ok (Except.ok.inj built)
  obtain ⟨merchant, taken, built⟩ := Outcome.bind_ok built
  obtain ⟨reference, stored, built⟩ := Outcome.bind_ok built
  obtain ⟨raw, _, built⟩ := Outcome.bind_ok built
  cases built
  exact ⟨_, rfl, rfl, rfl, rfl, taken, stored, rfl⟩

theorem rowOf_built (checked : checkRecord record = .ok (amount, timestamp))
    (built : rowOf store id batchId record amount timestamp = .ok (.ok row)) : Built record row := by
  obtain ⟨net, _⟩ := checkRecord_ok checked
  cases type : record.recordType with
  | payment =>
    obtain ⟨payment, rfl, kept⟩ := rowOf_payment type built
    refine ⟨by simpa [type, RecordType.takesMerchant, Record.merchantId] using kept.merchant, ?_, by simp [type]⟩
    rintro ⟨found, store, looked⟩
    rw [key_of_provider (by simp [type]) (queried_provider looked (by simp [type])) kept.provider, type, ← kept.named]
    rfl
  | refund =>
    obtain ⟨refund, rfl, kept⟩ := rowOf_refund type built
    refine ⟨by simpa [type, RecordType.takesMerchant, Record.merchantId] using kept.merchant, ?_, by simp [type]⟩
    rintro ⟨found, store, looked⟩
    rw [key_of_provider (by simp [type]) (queried_provider looked (by simp [type])) kept.provider, type, ← kept.named]
    rfl
  | settlement =>
    obtain ⟨settlement, rfl, kept⟩ := rowOf_settlement type built
    refine ⟨by simpa [type, RecordType.takesMerchant, Record.merchantId] using kept.merchant, ?_, fun _ =>
      ⟨_, _, amount, rfl, kept.metadata, net, kept.net, kept.gross, kept.fee, kept.tax⟩⟩
    rintro ⟨found, store, looked⟩
    rw [key_of_provider (by simp [type]) (queried_provider looked (by simp [type])) kept.provider, type, ← kept.named]
    rfl
  | bankTransaction =>
    obtain ⟨entry, rfl, kept⟩ := rowOf_bank type built
    refine ⟨by simpa [type, RecordType.takesMerchant, Record.merchantId] using kept.merchant, ?_, by simp [type]⟩
    intro _
    simp [NormalizedRecord.key, Record.key, type, kept.source, kept.named]

end Rows

/-! ## The loop -/

/-- The rows of a store together with those a loop has added over the items read. -/
structure Added (initial : Store) (items : List (NormalizedRecord × Nat)) (written : Written) : Prop where
  rows : written.store.rows.Perm (initial.rows ++ written.created.map Created.row)
  new : (written.created.map fun c => (c.record, c.index)) = firsts (fun item => item.1.key) initial.keys items
  built : ∀ c ∈ written.created, Built c.record c.row
  keyed : ∀ c ∈ written.created, c.row.key = c.record.key

theorem Added.mem_keys {initial : Store} {items : List (NormalizedRecord × Nat)} {written : Written}
    (added : Added initial items written) (key : TableKey) :
    key ∈ written.store.keys ↔
      key ∈ initial.keys ++ (firsts (fun item => item.1.key) initial.keys items).map (fun item => item.1.key) := by
  have rowKeys : written.created.map (fun c => c.row.key) = written.created.map (fun c => c.record.key) :=
    List.map_congr_left added.keyed
  rw [Store.keys, (added.rows.map Record.key).mem_iff, List.map_append, List.map_map, ← added.new, List.map_map]
  change key ∈ initial.keys ++ written.created.map (fun c => c.row.key) ↔ _
  rw [rowKeys]
  rfl

theorem zipIdx_keys (records : List NormalizedRecord) :
    records.zipIdx.map (fun item => item.1.key) = records.map NormalizedRecord.key := by
  rw [← Function.comp_def (fun r => NormalizedRecord.key r), ← List.map_map, List.zipIdx_map_fst]

theorem Added.mem_keys_iff {initial : Store} {records : List NormalizedRecord} {written : Written}
    (added : Added initial records.zipIdx written) (key : TableKey) :
    key ∈ written.store.keys ↔ key ∈ initial.keys ∨ key ∈ records.map NormalizedRecord.key := by
  rw [added.mem_keys, mem_seen_or_firsts, zipIdx_keys, List.mem_append]

/-- A row was added for a record whose key was new. -/
theorem Added.kept {initial : Store} {items : List (NormalizedRecord × Nat)} {written : Written}
    (added : Added initial items written) {c : Created} (member : c ∈ written.created) :
    (c.record, c.index) ∈ firsts (fun item => item.1.key) initial.keys items := by
  rw [← added.new]
  exact List.mem_map_of_mem (f := fun c => (c.record, c.index)) member

theorem Added.stored {initial : Store} {items : List (NormalizedRecord × Nat)} {written : Written}
    (added : Added initial items written) {c : Created} (member : c ∈ written.created) : c.row ∈ written.store.rows :=
  added.rows.mem_iff.mpr (List.mem_append_right _ (List.mem_map_of_mem member))

/-- What one step of the loop does. -/
theorem persistRecord_cases {draws : Draws} {progress progress' : Progress} {item : NormalizedRecord × Nat}
    (stepped : persistRecord draws progress item = .ok progress') :
    ∃ written, progress.written = .ok written ∧
      ((existing written.store item.1 = .ok true ∧
          progress' = { progress with duplicateRefs := progress.duplicateRefs ++ [item.1.externalId] }) ∨
        (existing written.store item.1 = .ok false ∧ ∃ amount timestamp row,
          checkRecord item.1 = .ok (amount, timestamp) ∧
          rowOf written.store (draws.rowId item.2) draws.batchId item.1 amount timestamp = .ok row ∧
          progress' = { progress with
            created := progress.created + 1, written := written.add item.2 item.1 row })) := by
  obtain ⟨⟨amount, timestamp⟩, checked, stepped⟩ := Outcome.bind_ok stepped
  obtain ⟨written, flushed, stepped⟩ := Outcome.bind_ok stepped
  obtain ⟨found, looked, stepped⟩ := Outcome.bind_ok stepped
  refine ⟨written, flushed, ?_⟩
  cases found with
  | true =>
    cases stepped
    exact .inl ⟨looked, rfl⟩
  | false =>
    obtain ⟨row, built, stepped⟩ := Outcome.bind_ok stepped
    cases stepped
    exact .inr ⟨looked, amount, timestamp, row, checked, built, rfl⟩

omit [Runtime] in
theorem Written.add_ok {written written' : Written} {index : Nat} {record : NormalizedRecord}
    {row : Except IngestError Record} (added : written.add index record row = .ok written') :
    ∃ r store, row = .ok r ∧ written.store.insert r = .ok store ∧
      written' = ⟨store, written.created ++ [⟨index, record, r⟩]⟩ := by
  obtain ⟨r, built, added⟩ := Outcome.bind_ok added
  obtain ⟨store, stored, added⟩ := Outcome.bind_ok added
  cases added
  exact ⟨r, store, built, stored, rfl⟩

/-- The loop invariant: the counts and, once what was added is sent, the rows. -/
structure Kept (initial : Store) (items : List (NormalizedRecord × Nat)) (progress : Progress) : Prop where
  created : progress.created = (firsts (fun item => item.1.key) initial.keys items).length
  total : progress.created + progress.duplicateRefs.length = items.length
  added : ∀ written, progress.written = .ok written → Added initial items written

theorem Kept.step {draws : Draws} {initial : Store} {items : List (NormalizedRecord × Nat)}
    {progress progress' : Progress} {item : NormalizedRecord × Nat} (kept : Kept initial items progress)
    (stepped : persistRecord draws progress item = .ok progress') : Kept initial (items ++ [item]) progress' := by
  obtain ⟨written, flushed, outcome⟩ := persistRecord_cases stepped
  have added := kept.added written flushed
  rcases outcome with ⟨looked, rfl⟩ | ⟨looked, amount, timestamp, row, checked, built, rfl⟩
  · have known := (added.mem_keys item.1.key).mp ((existing_iff looked).mp rfl)
    have same : firsts (fun item => item.1.key) initial.keys (items ++ [item]) =
        firsts (fun item => item.1.key) initial.keys items := by
      rw [firsts_snoc, if_pos known, List.append_nil]
    refine ⟨by rw [same]; exact kept.created, ?_, fun later stored => ?_⟩
    · simpa only [List.length_append, List.length_singleton, ← Nat.add_assoc] using congrArg (· + 1) kept.total
    · have again := kept.added later stored
      exact ⟨again.rows, by rw [same]; exact again.new, again.built, again.keyed⟩
  · have absent := fun known => Bool.false_ne_true ((existing_iff looked).mpr ((added.mem_keys item.1.key).mpr known))
    have grown : firsts (fun item => item.1.key) initial.keys (items ++ [item]) =
        firsts (fun item => item.1.key) initial.keys items ++ [item] := by
      rw [firsts_snoc, if_neg absent]
    refine ⟨by rw [grown, List.length_append, List.length_singleton, kept.created], ?_, fun later stored => ?_⟩
    · have total := kept.total
      simp only [List.length_append, List.length_singleton]
      omega
    · obtain ⟨r, store, rfl, inserted, rfl⟩ := Written.add_ok stored
      have isBuilt := rowOf_built checked built
      obtain ⟨_, rows⟩ := Store.insert_ok inserted
      refine ⟨?_, by rw [grown, ← added.new, List.map_append, List.map_singleton], ?_, ?_⟩
      · rw [List.map_append, List.map_singleton, ← List.append_assoc]
        exact rows.trans (added.rows.append_right _)
      · intro c member
        rcases List.mem_append.mp member with before | last
        · exact added.built c before
        · rw [List.mem_singleton.mp last]
          exact isBuilt
      · intro c member
        rcases List.mem_append.mp member with before | last
        · exact added.keyed c before
        · rw [List.mem_singleton.mp last]
          exact isBuilt.key ⟨_, _, looked⟩

/-- What a loop that returns has counted and written. -/
theorem persistAll_kept {draws : Draws} {store : Store} {records : List NormalizedRecord} {progress : Progress}
    {written : Written} (done : persistAll draws store records = .ok (progress, written)) :
    Kept store records.zipIdx progress ∧ Added store records.zipIdx written := by
  obtain ⟨final, looped, done⟩ := Outcome.bind_ok done
  obtain ⟨flushed, sent, done⟩ := Outcome.bind_ok done
  cases done
  have start : Kept store [] { written := .ok { store } } := by
    refine ⟨rfl, rfl, fun written stored => ?_⟩
    cases stored
    exact ⟨by simp, rfl, by simp, by simp⟩
  have kept := Outcome.foldlM_invariant (Kept store) (fun kept stepped => kept.step stepped) start looped
  rw [List.nil_append] at kept
  exact ⟨kept, kept.added written sent⟩

/-- A loop over one record adds its key, or finds it and adds nothing. -/
theorem persistAll_singleton {draws : Draws} {store : Store} {record : NormalizedRecord} {progress : Progress}
    {written : Written} (done : persistAll draws store [record] = .ok (progress, written)) :
    (record.key ∈ store.keys ∧ written.store = store) ∨ (record.key ∉ store.keys ∧ record.key ∈ written.store.keys) := by
  have added := (persistAll_kept done).2
  by_cases known : record.key ∈ store.keys
  · refine .inl ⟨known, ?_⟩
    obtain ⟨final, looped, done⟩ := Outcome.bind_ok done
    obtain ⟨flushed, sent, done⟩ := Outcome.bind_ok done
    cases done
    obtain ⟨_, stepped, last⟩ := Outcome.foldlM_ok_cons looped
    cases last
    obtain ⟨_, start, ⟨_, rfl⟩ | ⟨looked, _⟩⟩ := persistRecord_cases stepped
    · cases sent
      rfl
    · cases start
      exact absurd ((existing_iff looked).mpr known) Bool.false_ne_true
  · refine .inr ⟨known, (added.mem_keys _).mpr ?_⟩
    simp [FirstByKey.firsts, known]

theorem Added.keys_subset {initial : Store} {items : List (NormalizedRecord × Nat)} {written : Written}
    (added : Added initial items written) : initial.keys ⊆ written.store.keys :=
  fun key member => (added.mem_keys key).mpr (List.mem_append_left _ member)

/-! ## Calls -/

theorem persistNormalized_ok {draws : Draws} {session after : Session} {records : List NormalizedRecord}
    {batch : IngestionBatch} {commit : Bool} {report : IngestReport}
    (ran : persistNormalized draws session records batch commit = (.ok report, after)) :
    ∃ progress written, persistAll draws session.current.store records = .ok (progress, written) ∧
      report.created = progress.created ∧ report.duplicates = progress.duplicateRefs.length ∧
      report.received = records.length ∧ report.rows = written.created ∧ after.current.store = written.store := by
  simp only [persistNormalized] at ran
  split at ran
  · next progress written done =>
    obtain ⟨returned, rfl⟩ := Prod.mk.inj ran
    cases returned
    exact ⟨progress, written, done, rfl, rfl, rfl, rfl, by cases commit <;> rfl⟩
  · split at ran <;> cases (Prod.mk.inj ran).1

/-- A call returns what the loop over its records counts, and raises what it raises. -/
theorem persistNormalized_returns {draws : Draws} {session : Session} {records : List NormalizedRecord} {batch : IngestionBatch}
    {commit : Bool} {progress : Progress} {written : Written}
    (done : persistAll draws session.current.store records = .ok (progress, written)) :
    ∃ report, (persistNormalized draws session records batch commit).1 = .ok report ∧ report.created = progress.created ∧
      report.duplicates = progress.duplicateRefs.length := by
  simp only [persistNormalized, done]
  exact ⟨_, rfl, rfl, rfl⟩

theorem persistNormalized_raises {draws : Draws} {session : Session} {records : List NormalizedRecord} {batch : IngestionBatch}
    {commit : Bool} {error : IngestError} (failed : persistAll draws session.current.store records = .error error) :
    (persistNormalized draws session records batch commit).1 = .error error := by
  simp only [persistNormalized, failed]
  split <;> rfl

/-- A call that raises leaves the rows of the transaction or those of the last commit. -/
theorem persistNormalized_error {draws : Draws} {session after : Session} {records : List NormalizedRecord}
    {batch : IngestionBatch} {commit : Bool} {error : IngestError}
    (ran : persistNormalized draws session records batch commit = (.error error, after)) :
    after.current.store = session.durable.store := by
  simp only [persistNormalized] at ran
  split at ran
  · cases (Prod.mk.inj ran).1
  · split at ran <;> (obtain ⟨_, rfl⟩ := Prod.mk.inj ran; rfl)

/-- A failed write leaves the rows of the last commit. -/
theorem persistNormalized_error_durable {draws : Draws} {session after : Session} {records : List NormalizedRecord}
    {batch : IngestionBatch} {commit : Bool} {error : IngestError}
    (ran : persistNormalized draws session records batch commit = (.error error, after)) :
    after.durable.store = session.durable.store := by
  simp only [persistNormalized] at ran
  split at ran
  · cases (Prod.mk.inj ran).1
  · split at ran <;> (obtain ⟨_, rfl⟩ := Prod.mk.inj ran; rfl)

/-- A write that is left to the caller to commit commits nothing when it returns. -/
theorem persistNormalized_uncommitted {draws : Draws} {session after : Session} {records : List NormalizedRecord}
    {batch : IngestionBatch} {report : IngestReport}
    (ran : persistNormalized draws session records batch false = (.ok report, after)) : after.durable = session.durable := by
  simp only [persistNormalized] at ran
  split at ran
  · obtain ⟨_, rfl⟩ := Prod.mk.inj ran
    rfl
  · split at ran <;> cases (Prod.mk.inj ran).1

omit [Runtime] in
theorem rejectInput_store {draws : Draws} {session : Session} {source : String} {provider merchantId : Option String}
    {received rejected : Nat} {error : IngestError} :
    (rejectInput draws session source provider merchantId received rejected error).2.current.store =
      session.current.store := by
  cases error <;> rfl

omit [Runtime] in
theorem rejectInput_error {draws : Draws} {session : Session} {source : String} {provider merchantId : Option String}
    {received rejected : Nat} {error : IngestError} :
    ∃ raised, (rejectInput draws session source provider merchantId received rejected error).1 = .error raised := by
  cases error <;> exact ⟨_, rfl⟩

theorem ran_persisted {draws : Draws} {session after : Session} {source : String} {provider merchantId : Option String}
    {received rejected : Nat} {commit : Bool} {report : IngestReport} {parsed : Except IngestError (List NormalizedRecord)}
    (ran : (match parsed with
      | .error error => rejectInput draws session source provider merchantId received rejected error
      | .ok records => persistNormalized draws (createBatch session draws.batchId source provider merchantId).1 records
          (createBatch session draws.batchId source provider merchantId).2 commit) = (.ok report, after)) :
    ∃ records progress written, parsed = .ok records ∧
      persistAll draws session.current.store records = .ok (progress, written) ∧ report.created = progress.created ∧
      report.duplicates = progress.duplicateRefs.length ∧ report.rows = written.created ∧ after.current.store = written.store := by
  cases parsed with
  | error error =>
    obtain ⟨raised, failed⟩ := @rejectInput_error draws session source provider merchantId received rejected error
    rw [congrArg Prod.fst ran] at failed
    cases failed
  | ok records =>
    obtain ⟨progress, written, done, created, duplicates, _, rows, stored⟩ := persistNormalized_ok ran
    exact ⟨records, progress, written, rfl, done, created, duplicates, rows, stored⟩

theorem failed_unchanged {draws : Draws} {session after : Session} {source : String} {provider merchantId : Option String}
    {received rejected : Nat} {commit : Bool} {error : IngestError} {parsed : Except IngestError (List NormalizedRecord)}
    (ran : (match parsed with
      | .error error => rejectInput draws session source provider merchantId received rejected error
      | .ok records => persistNormalized draws (createBatch session draws.batchId source provider merchantId).1 records
          (createBatch session draws.batchId source provider merchantId).2 commit) = (.error error, after)) :
    after.current.store = session.current.store ∨ after.current.store = session.durable.store := by
  cases parsed with
  | error refused =>
    have kept := @rejectInput_store draws session source provider merchantId received rejected refused
    rw [congrArg Prod.snd ran] at kept
    exact .inl kept
  | ok records =>
    have stored : after.current.store = (createBatch session draws.batchId source provider merchantId).1.durable.store :=
      persistNormalized_error ran
    exact .inr stored

theorem terms_agree {data : Dict} {amount : Value} {field : String} {nonNegative : Bool} {status timestamp other : Value}
    {first second : Terms} (one : terms data amount field nonNegative status timestamp = .ok first)
    (two : terms data amount field nonNegative status other = .ok second) :
    second = { first with eventTimestamp := second.eventTimestamp } := by
  obtain ⟨_, money, one⟩ := Outcome.bind_ok one
  obtain ⟨_, currency, one⟩ := Outcome.bind_ok one
  obtain ⟨_, text, one⟩ := Outcome.bind_ok one
  obtain ⟨_, _, one⟩ := Outcome.bind_ok one
  obtain ⟨_, money', two⟩ := Outcome.bind_ok two
  obtain ⟨_, currency', two⟩ := Outcome.bind_ok two
  obtain ⟨_, text', two⟩ := Outcome.bind_ok two
  obtain ⟨_, _, two⟩ := Outcome.bind_ok two
  cases one
  cases two
  cases money.symm.trans money'
  cases currency.symm.trans currency'
  cases text.symm.trans text'
  rfl

/-- Data normalized again gives the same record but for the time that stands in for a missing one. -/
theorem normalizeRecord_again {data : Dict} {source : String} {recordType : RecordType} {provider : Option String}
    {received later : DateTime} {first second : NormalizedRecord}
    (one : normalizeRecord data source recordType provider received = .ok first)
    (two : normalizeRecord data source recordType provider later = .ok second) :
    second = { first with eventTimestamp := second.eventTimestamp } := by
  cases recordType with
  | payment | bankTransaction =>
    obtain ⟨_, read, one⟩ := Outcome.bind_ok one
    obtain ⟨_, checked, one⟩ := Outcome.bind_ok one
    obtain ⟨_, read', two⟩ := Outcome.bind_ok two
    obtain ⟨_, checked', two⟩ := Outcome.bind_ok two
    cases one
    cases two
    cases read.symm.trans read'
    rw [terms_agree checked checked']
  | refund | settlement =>
    obtain ⟨_, read, one⟩ := Outcome.bind_ok one
    obtain ⟨_, linked, one⟩ := Outcome.bind_ok one
    obtain ⟨_, checked, one⟩ := Outcome.bind_ok one
    obtain ⟨_, read', two⟩ := Outcome.bind_ok two
    obtain ⟨_, linked', two⟩ := Outcome.bind_ok two
    obtain ⟨_, checked', two⟩ := Outcome.bind_ok two
    cases one
    cases two
    cases read.symm.trans read'
    cases linked.symm.trans linked'
    rw [terms_agree checked checked']

/-- The key of a record does not depend on when it is received. -/
theorem normalizeRecord_key {data : Dict} {source : String} {recordType : RecordType} {provider : Option String}
    {received later : DateTime} {first second : NormalizedRecord}
    (one : normalizeRecord data source recordType provider received = .ok first)
    (two : normalizeRecord data source recordType provider later = .ok second) : first.key = second.key := by
  rw [normalizeRecord_again one two]
  rfl

/-- A call that commits on its own leaves nothing uncommitted. -/
theorem persistNormalized_settled {draws : Draws} {session : Session} {records : List NormalizedRecord} {batch : IngestionBatch} :
    (persistNormalized draws session records batch true).2.durable = (persistNormalized draws session records batch true).2.current := by
  unfold persistNormalized
  cases persistAll draws session.current.store records with
  | ok written => rfl
  | error error =>
    simp only
    split <;> rfl

theorem ingestRecords_settled {draws : Draws} {database : Database} {data : List Dict} {source : String} {recordType : RecordType}
    {provider merchantId : Option String} :
    (ingestRecords draws ⟨database, database⟩ data source recordType provider merchantId true).2.durable =
      (ingestRecords draws ⟨database, database⟩ data source recordType provider merchantId true).2.current := by
  unfold ingestRecords
  cases normalizeAll draws data source recordType provider with
  | ok records => exact persistNormalized_settled
  | error error => cases error <;> rfl

/-- A call that raises in a session without changes leaves the rows that were durable. -/
theorem ingestRecords_error_durable {draws : Draws} {database : Database} {after : Session} {data : List Dict} {source : String}
    {recordType : RecordType} {provider merchantId : Option String} {commit : Bool} {error : IngestError}
    (ran : ingestRecords draws ⟨database, database⟩ data source recordType provider merchantId commit = (.error error, after)) :
    after.durable.store = database.store := by
  unfold ingestRecords at ran
  cases read : normalizeAll draws data source recordType provider with
  | error failed =>
    rw [read] at ran
    cases failed <;> (obtain ⟨_, rfl⟩ := Prod.mk.inj ran; rfl)
  | ok records =>
    rw [read] at ran
    exact (persistNormalized_error_durable ran).trans rfl

theorem ingestRecords_uncommitted {draws : Draws} {session after : Session} {data : List Dict} {source : String}
    {recordType : RecordType} {provider merchantId : Option String} {report : IngestReport}
    (ran : ingestRecords draws session data source recordType provider merchantId false = (.ok report, after)) :
    after.durable = session.durable := by
  unfold ingestRecords at ran
  cases read : normalizeAll draws data source recordType provider with
  | error error =>
    rw [read] at ran
    obtain ⟨raised, failed⟩ := @rejectInput_error draws session source provider merchantId data.length data.length error
    cases failed.symm.trans (congrArg Prod.fst ran)
  | ok records =>
    rw [read] at ran
    exact (persistNormalized_uncommitted ran).trans rfl

theorem normalizeAll_getElem? {draws : Draws} {data : List Dict} {source : String} {recordType : RecordType}
    {provider : Option String} {records : List NormalizedRecord}
    (normalized : normalizeAll draws data source recordType provider = .ok records) {i : Nat} {record : NormalizedRecord}
    (found : records[i]? = some record) :
    ∃ item, data[i]? = some item ∧ normalizeRecord item source recordType provider (draws.now i) = .ok record :=
  Outcome.mapM_zipIdx_getElem? normalized found

/-- The records are of the type they are asked for as. -/
theorem normalizeAll_typed {draws : Draws} {data : List Dict} {source : String} {recordType : RecordType}
    {provider : Option String} {records : List NormalizedRecord}
    (normalized : normalizeAll draws data source recordType provider = .ok records) :
    ∀ record ∈ records, record.recordType = recordType := by
  intro record member
  obtain ⟨i, place⟩ := List.mem_iff_getElem?.mp member
  obtain ⟨_, _, read⟩ := normalizeAll_getElem? normalized place
  exact (normalizeRecord_readFrom read).type

theorem normalizeBankRows_getElem? {draws : Draws} {source : String} {provider : Option String} {rows : List Dict}
    {records : List NormalizedRecord} (normalized : normalizeBankRows draws source provider rows = .ok records) {i : Nat}
    {record : NormalizedRecord} (found : records[i]? = some record) :
    ∃ item, rows[i]? = some item ∧ normalizeRecord item source .bankTransaction provider (draws.now i) = .ok record := by
  obtain ⟨item, inside, read⟩ := Outcome.mapM_zipIdx_getElem? normalized found
  refine ⟨item, inside, ?_⟩
  split at read
  · cases read
  · split at read
    · cases read
    · exact read

theorem parseBankCsv_ok {maxUploadBytes : Nat} {draws : Draws} {content : List UInt8} {source : String}
    {provider : Option String} {records : List NormalizedRecord}
    (parsed : parseBankCsv maxUploadBytes draws content source provider = .ok records) :
    normalizeBankRows draws source provider (((Runtime.readCsv content).map Prod.snd).getD []) = .ok records := by
  simp only [parseBankCsv] at parsed
  split at parsed
  · cases parsed
  · split at parsed
    · cases parsed
    · next header rows read =>
      rw [read]
      split at parsed
      · cases parsed
      · exact parsed

end Persist
end RCAA
