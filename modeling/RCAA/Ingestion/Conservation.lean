import RCAA.Ingestion.Arrivals

/-! What a call of ingestion that returns counts, writes and reports, and the same data sent
again: one row for each key that neither the store nor an earlier record has. -/

namespace RCAA

open FirstByKey

section Conservation
variable [Runtime]

/-! ## The counts and the rows -/

/-- The records that add a row, with their places. -/
def newRecords (store : Store) (records : List NormalizedRecord) : List (NormalizedRecord × Nat) :=
  records.zipIdx.filter fun item => ¬Repeated NormalizedRecord.key store.keys records item

/-- The records whose key is stored or stands before them, with their places. -/
def duplicateRecords (store : Store) (records : List NormalizedRecord) : List (NormalizedRecord × Nat) :=
  records.zipIdx.filter fun item => Repeated NormalizedRecord.key store.keys records item

/-- The loop notes the records it does not keep, in their order. -/
theorem persistAll_duplicates {draws : Draws} {store : Store} {records : List NormalizedRecord} {progress : Progress}
    {written : Written} (done : persistAll draws store records = .ok (progress, written)) :
    progress.duplicateRefs = (duplicateRecords store records).map fun item => item.1.externalId := by
  obtain ⟨final, looped, done⟩ := Outcome.bind_ok done
  obtain ⟨flushed, sent, done⟩ := Outcome.bind_ok done
  cases done
  let Notes (read : List (NormalizedRecord × Nat)) (progress : Progress) : Prop :=
    Kept store read progress ∧ progress.duplicateRefs =
      (repeats (fun item : NormalizedRecord × Nat => item.1.key) store.keys read).map fun item => item.1.externalId
  have start : Notes [] { written := .ok { store } } := by
    refine ⟨⟨rfl, rfl, fun written stored => ?_⟩, rfl⟩
    cases stored
    exact ⟨by simp, rfl, by simp, by simp⟩
  have step : ∀ {read progress item progress'}, Notes read progress → persistRecord draws progress item = .ok progress' →
      Notes (read ++ [item]) progress' := by
    intro read progress item progress' ⟨kept, noted⟩ stepped
    refine ⟨kept.step stepped, ?_⟩
    obtain ⟨written, flushed, outcome⟩ := persistRecord_cases stepped
    have known := (kept.added written flushed).mem_keys item.1.key
    rcases outcome with ⟨looked, rfl⟩ | ⟨looked, _, _, _, _, _, rfl⟩
    · have met := known.mp ((existing_iff looked).mp rfl)
      rw [repeats_snoc, if_pos met, List.map_append, ← noted]
      rfl
    · have unmet := fun met => Bool.false_ne_true ((existing_iff looked).mpr (known.mpr met))
      rw [repeats_snoc, if_neg unmet, List.append_nil, ← noted]
  have every := (Outcome.foldlM_invariant Notes step start looped).2
  rwa [List.nil_append, (partition_zipIdx NormalizedRecord.key store.keys records).2] at every

theorem Added.newRecords {store : Store} {records : List NormalizedRecord} {written : Written}
    (added : Added store records.zipIdx written) :
    (written.created.map fun c => (c.record, c.index)) = RCAA.newRecords store records :=
  added.new.trans (partition_zipIdx NormalizedRecord.key store.keys records).1

/-- What a call that returns has done for its records. -/
structure Conserved (before : Session) (records : List NormalizedRecord) (report : IngestReport) (after : Session) : Prop where
  received : report.received = records.length
  total : report.created + report.duplicates = report.received
  created : report.created =
    ((records.map NormalizedRecord.key).dedup.filter fun key => key ∉ before.current.store.keys).length
  rows : ∃ rows, after.current.store.rows.Perm (before.current.store.rows ++ rows) ∧
    List.Forall₂ (fun item row => MadeIn before.current.store item.1 row) (newRecords before.current.store records) rows
  batch : ∃ batch ∈ after.current.batches, batch.id = report.batchId
  reported : ∀ batch ∈ after.current.batches, batch.id = report.batchId →
    batch.status = "COMPLETED" ∧ batch.receivedCount = report.received ∧ batch.createdCount = report.created ∧
      batch.updatedCount = report.updated ∧ batch.duplicateCount = report.duplicates ∧ batch.rejectedCount = report.rejected ∧
      batch.duplicateRecordsJson = (duplicateRecords before.current.store records).map fun item => item.1.externalId

omit [Runtime] in
theorem Database.mem_put {database : Database} {batch b : IngestionBatch} (member : b ∈ (database.put batch).batches) :
    b.id = batch.id → b = batch := by
  intro same
  obtain ⟨old, _, rfl⟩ := List.mem_map.mp member
  by_cases named : old.id = batch.id
  · exact if_pos named
  · rw [if_neg named] at same
    exact absurd same named

/-- The records of a call that returns are counted, written and reported. -/
theorem ingestRecords_conserved {draws : Draws} {session after : Session} {data : List Dict} {source : String}
    {recordType : RecordType} {provider merchantId : Option String} {commit : Bool} {report : IngestReport}
    {records : List NormalizedRecord} (normalized : normalizeAll draws data source recordType provider = .ok records)
    (ran : ingestRecords draws session data source recordType provider merchantId commit = (.ok report, after)) :
    Conserved session records report after := by
  simp only [ingestRecords, normalized, persistNormalized, createBatch] at ran
  split at ran
  · next progress written done =>
    obtain ⟨returned, rfl⟩ := Prod.mk.inj ran
    cases returned
    obtain ⟨kept, added⟩ := persistAll_kept done
    have created := (keys_firsts_perm (fun item : NormalizedRecord × Nat => item.1.key) session.current.store.keys records.zipIdx).length_eq
    rw [List.length_map, ← kept.created, zipIdx_keys] at created
    have total := kept.total
    rw [List.length_zipIdx] at total
    have made := persistAll_madeFrom (normalizeAll_typed normalized) done
    have rows : List.Forall₂ (fun item row => MadeIn session.current.store item.1 row)
        (newRecords session.current.store records) (written.created.map Created.row) := by
      rw [← added.newRecords, List.forall₂_map_left_iff, List.forall₂_map_right_iff]
      refine List.forall₂_same.mpr fun c member => ?_
      obtain ⟨_, amount, timestamp, checked, built⟩ := made.made c member
      exact ⟨added.keyed c member, _, _, amount, timestamp, checked, built⟩
    cases commit <;>
    · refine ⟨rfl, total, by convert created, ⟨_, added.rows, rows⟩, ?_, fun batch member named => ?_⟩
      · refine ⟨_, List.mem_map.mpr ⟨_, List.mem_append_right _ List.mem_cons_self, if_pos rfl⟩, rfl⟩
      · rw [Database.mem_put member named]
        exact ⟨rfl, rfl, rfl, rfl, rfl, rfl, persistAll_duplicates done⟩
  · split at ran <;> cases (Prod.mk.inj ran).1

/-! ## The same data again -/

/-- A loop over records that are all stored notes each of them and writes nothing. -/
theorem persistAll_known {draws : Draws} {store : Store} {records : List NormalizedRecord}
    (checks : ∀ record ∈ records, ∃ checked, checkRecord record = .ok checked)
    (known : ∀ record ∈ records, existing store record = .ok true) :
    persistAll draws store records =
      .ok ({ duplicateRefs := records.map NormalizedRecord.externalId, written := .ok { store } }, { store }) := by
  have loop : ∀ (items : List (NormalizedRecord × Nat)) (noted : List String), (∀ item ∈ items, item.1 ∈ records) →
      items.foldlM (persistRecord draws) { duplicateRefs := noted, written := .ok { store } } =
        .ok { duplicateRefs := noted ++ items.map fun item => item.1.externalId, written := .ok { store } } := by
    intro items
    induction items with
    | nil => exact fun noted _ => by rw [List.map_nil, List.append_nil]; rfl
    | cons item rest ih =>
      intro noted inside
      obtain ⟨checked, check⟩ := checks item.1 (inside item List.mem_cons_self)
      have step : persistRecord draws { duplicateRefs := noted, written := .ok { store } } item =
          .ok { duplicateRefs := noted ++ [item.1.externalId], written := .ok { store } } := by
        simp only [persistRecord, check]
        change (existing store item.1 >>= _) = _
        rw [known item.1 (inside item List.mem_cons_self)]
        rfl
      rw [List.map_cons, List.append_cons]
      simp only [List.foldlM_cons, step]
      exact ih _ fun other member => inside other (List.mem_cons_of_mem _ member)
  have whole := loop records.zipIdx [] fun item member => List.fst_mem_of_mem_zipIdx member
  have noted : records.zipIdx.map (fun item => item.1.externalId) = records.map NormalizedRecord.externalId := by
    rw [← Function.comp_def NormalizedRecord.externalId, ← List.map_map, List.zipIdx_map_fst]
  simp only [persistAll, whole, noted, List.nil_append]
  rfl

/-- A record read again passes the checks it passed, and is found once its key is stored. -/
theorem known_again {data : Dict} {source : String} {recordType : RecordType} {provider : Option String}
    {received later : DateTime} {first second : NormalizedRecord} {store earlier : Store} {found : Bool}
    (one : normalizeRecord data source recordType provider received = .ok first)
    (two : normalizeRecord data source recordType provider later = .ok second)
    (checked : ∃ checked, checkRecord first = .ok checked) (looked : existing earlier first = .ok found)
    (stored : first.key ∈ store.keys) :
    (∃ checked, checkRecord second = .ok checked) ∧ existing store second = .ok true := by
  have again := normalizeRecord_again one two
  have status : second.status = first.status := by rw [again]
  have provider : second.provider = first.provider := by rw [again]
  have type : second.recordType = first.recordType := by rw [again]
  constructor
  · rw [checkRecord_isOk_iff (normalizeRecord_normal two), status]
    exact (checkRecord_isOk_iff (normalizeRecord_normal one)).mp checked
  · have asked : second.recordType ≠ .bankTransaction → ∃ provider, queried second.provider = .ok provider := fun other => by
      rw [provider]
      exact queried_provider looked (type ▸ other)
    obtain ⟨present, here⟩ := existing_isOk store asked
    have known : present = true := (existing_iff here).mpr (normalizeRecord_key one two ▸ stored)
    rw [here, known]

/-- An accepted call conserves its records: it counts each once, adds one row for each new
key and changes none that is there, and its batch says so. The same data sent again, while
those rows are stored, creates nothing. -/
theorem ingest_conserves {draws : Draws} {session after : Session} {data : List Dict} {source : String}
    {recordType : RecordType} {provider merchantId : Option String} {commit : Bool} {report : IngestReport}
    (ran : ingestRecords draws session data source recordType provider merchantId commit = (.ok report, after)) :
    (∃ records, normalizeAll draws data source recordType provider = .ok records ∧ records.length = data.length ∧
      Conserved session records report after) ∧
    ∀ (again : Draws) (later : Session) (merchantId : Option String) (commit : Bool), (∀ i, Timely (again.now i)) →
      after.current.store.keys ⊆ later.current.store.keys →
      ∃ report' last, ingestRecords again later data source recordType provider merchantId commit = (.ok report', last) ∧
        report'.created = 0 ∧ report'.duplicates = data.length ∧ last.current.store = later.current.store := by
  obtain ⟨records, progress, written, normalized, done, _, _, _, stored⟩ := ran_persisted ran
  have length : records.length = data.length := by
    rw [← (Outcome.mapM_forall₂ normalized).length_eq, List.length_zipIdx]
  refine ⟨⟨records, normalized, length, ingestRecords_conserved normalized ran⟩, ?_⟩
  intro again later merchantId commit timely covers
  have readable : ∃ records, normalizeAll again data source recordType provider = .ok records := by
    refine Outcome.mapM_isOk_iff.mpr fun item member => ?_
    exact normalizeRecord_isOk_congr (timely item.2) (Outcome.mapM_isOk_iff.mp ⟨records, normalized⟩ item member)
  obtain ⟨reread, renormalized⟩ := readable
  have relength : reread.length = data.length := by
    rw [← (Outcome.mapM_forall₂ renormalized).length_eq, List.length_zipIdx]
  have each : ∀ record ∈ reread, (∃ checked, checkRecord record = .ok checked) ∧ existing later.current.store record = .ok true := by
    intro record member
    obtain ⟨i, place⟩ := List.mem_iff_getElem?.mp member
    obtain ⟨item, inside, two⟩ := normalizeAll_getElem? renormalized place
    obtain ⟨first, found, one⟩ := Outcome.forall₂_left (Outcome.mapM_forall₂ normalized)
      (List.mem_zipIdx_iff_getElem?.mpr inside : (item, i) ∈ data.zipIdx)
    obtain ⟨checked, _, _, looked⟩ := persistAll_checked done found
    have key : first.key ∈ after.current.store.keys := by
      rw [stored, (persistAll_kept done).2.mem_keys_iff]
      exact .inr (List.mem_map_of_mem found)
    exact known_again one two checked looked (covers key)
  have loop := @persistAll_known _ again later.current.store reread (fun r m => (each r m).1) fun r m => (each r m).2
  simp only [ingestRecords, renormalized, persistNormalized, createBatch, loop]
  refine ⟨_, _, rfl, rfl, by rw [List.length_map, relength], ?_⟩
  cases commit <;> rfl

end Conservation

section Examples
open PlainText

/-- One payment named twice in a list. -/
def repeatedImport (session : Session) : Except IngestError IngestReport × Session :=
  ingestRecords importDraws session [stampedRecord, stampedRecord] "manual_demo" .payment (some "demo") none true

theorem ingest_conserves_repeated :
    ∃ report after, repeatedImport emptySession = (.ok report, after) ∧ report.created = 1 ∧ report.duplicates = 1 ∧
      (∃ records, Conserved emptySession records report after) ∧
      ∃ report' last, repeatedImport after = (.ok report', last) ∧ report'.created = 0 ∧ report'.duplicates = 2 := by
  obtain ⟨report, returned, counts⟩ : ∃ report, (repeatedImport emptySession).1 = .ok report ∧
      (report.created, report.duplicates) = (1, 1) := Outcome.exists_ok_of_map (by decide)
  obtain ⟨created, duplicates⟩ := Prod.mk.inj counts
  obtain ⟨⟨records, _, _, conserved⟩, again⟩ := ingest_conserves (Prod.ext returned rfl : repeatedImport emptySession = (.ok report, _))
  obtain ⟨report', last, rerun, none, every, _⟩ := again importDraws _ none true (fun _ => timely_upload) (List.Subset.refl _)
  exact ⟨report, _, Prod.ext returned rfl, created, duplicates, ⟨records, conserved⟩, report', last, rerun, none, every⟩

end Examples
end RCAA
