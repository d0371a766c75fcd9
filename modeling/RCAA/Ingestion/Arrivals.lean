import RCAA.Ingestion.Noninterference
import RCAA.Ingestion.Validation

/-! Records that arrive in several calls. A row is made when its record arrives and is not
touched again: a refund or a settlement is linked to the payment it names if that payment
arrived in an earlier call. -/

namespace RCAA

open FirstByKey

section Arrivals
variable [Runtime] {merchant : String}

/-- Calls made for a merchant one after another, all of which return, and the records they read. -/
inductive Delivered (merchant : String) : Session → List NormalizedRecord → Session → Prop
  | none (session : Session) : Delivered merchant session [] session
  | call {draws : Draws} {call : IngestCall} {session next after : Session} {report : IngestReport}
      {records rest : List NormalizedRecord} (normalized : call.normalized draws = .ok records)
      (ran : call.run draws session merchant = (.ok report, next)) (later : Delivered merchant next rest after) :
      Delivered merchant session (records ++ rest) after

theorem Delivered.append {start middle after : Session} {first second : List NormalizedRecord}
    (one : Delivered merchant start first middle) (two : Delivered merchant middle second after) :
    Delivered merchant start (first ++ second) after := by
  induction one with
  | none => exact two
  | call normalized ran _ ih =>
    rw [List.append_assoc]
    exact .call normalized ran (ih two)

/-! ## The rows that are made -/

/-- The row was made from the record while the store was `earlier`. -/
structure MadeIn (earlier : Store) (record : NormalizedRecord) (row : Record) : Prop where
  key : row.key = record.key
  made : ∃ id batchId amount timestamp, checkRecord record = .ok (amount, timestamp) ∧
    rowOf earlier id batchId record amount timestamp = .ok (.ok row)

section MadeIn
variable {earlier : Store} {record : NormalizedRecord} {row : Record}

theorem MadeIn.built (made : MadeIn earlier record row) : Built record row := by
  obtain ⟨_, _, _, _, checked, built⟩ := made.made
  exact rowOf_built checked built

/-- Two rows of one payment record differ in what was generated for them only. -/
theorem MadeIn.withoutIds {other : Store} {again : Record} (made : MadeIn earlier record row)
    (made' : MadeIn other record again) (type : record.recordType.links = false) : row.withoutIds = again.withoutIds := by
  obtain ⟨id, batchId, amount, timestamp, checked, built⟩ := made.made
  obtain ⟨id', batchId', amount', timestamp', checked', built'⟩ := made'.made
  cases checked.symm.trans checked'
  have unlinked : rowOf other id batchId record amount timestamp = rowOf earlier id batchId record amount timestamp :=
    rowOf_congr fun links => absurd (type.symm.trans links) Bool.false_ne_true
  have alike := rowOf_withoutIds other id batchId id' batchId' record amount timestamp
  rw [unlinked, built, built'] at alike
  exact Except.ok.inj (Except.ok.inj alike)

/-- A refund or a settlement is linked to the payment it names if there was one. -/
theorem MadeIn.linked (made : MadeIn earlier record row) (links : record.recordType.links = true) (id : String) :
    row.paymentId = some id ↔ ∃ p ∈ earlier.payments, record.Names p ∧ p.id = id := by
  obtain ⟨_, _, _, _, _, built⟩ := made.made
  exact linkedPaymentId_iff (rowOf_linked links built) id

end MadeIn

/-- A call adds one row for each of its records when their keys are new. -/
theorem IngestCall.makes {draws : Draws} {call : IngestCall} {session next : Session} {report : IngestReport}
    {records : List NormalizedRecord} (normalized : call.normalized draws = .ok records)
    (ran : call.run draws session merchant = (.ok report, next)) (distinct : (records.map NormalizedRecord.key).Nodup)
    (new : ∀ record ∈ records, record.key ∉ session.current.store.keys) :
    ∃ rows, next.current.store.rows.Perm (session.current.store.rows ++ rows) ∧
      List.Forall₂ (MadeIn session.current.store) records rows := by
  obtain ⟨records', progress, written, again, done, _, _, _, stored⟩ := call.ok_persisted ran
  cases normalized.symm.trans again
  have added := (persistAll_kept done).2
  have typed : ∀ record ∈ records, record.recordType = call.recordType := IngestCall.normalized_typed normalized
  have made := persistAll_madeFrom typed done
  have every : firsts (fun item => item.1.key) session.current.store.keys records.zipIdx = records.zipIdx := by
    refine firsts_of_distinct _ ?_ fun item member => new item.1 (List.fst_mem_of_mem_zipIdx member)
    have keys : records.zipIdx.map (fun item => item.1.key) = records.map NormalizedRecord.key := by
      rw [← List.zipIdx_map_fst 0 records, List.map_map, List.zipIdx_map_fst]
      rfl
    rw [keys]
    exact distinct
  have each : records = written.created.map Created.record := by
    rw [← List.zipIdx_map_fst 0 records, ← every, ← added.new, List.map_map]
    rfl
  refine ⟨written.created.map Created.row, stored ▸ added.rows, ?_⟩
  rw [each, List.forall₂_map_left_iff, List.forall₂_map_right_iff]
  refine List.forall₂_same.mpr fun c member => ?_
  obtain ⟨_, amount, timestamp, checked, built⟩ := made.made c member
  exact ⟨added.keyed c member, _, _, amount, timestamp, checked, built⟩

omit [Runtime] in
theorem payments_subset_of_perm {a b : Store} {rows : List Record} (grown : b.rows.Perm (a.rows ++ rows)) :
    a.payments ⊆ b.payments := by
  intro p member
  exact Store.payment_mem_rows.mp (grown.mem_iff.mpr (List.mem_append_left _ (Store.payment_mem_rows.mpr member)))

theorem keys_of_made {a b : Store} {records : List NormalizedRecord} {rows : List Record} (grown : b.rows.Perm (a.rows ++ rows))
    (made : List.Forall₂ (fun record row => row.key = NormalizedRecord.key record) records rows) :
    b.keys.Perm (a.keys ++ records.map NormalizedRecord.key) := by
  have keys : rows.map Record.key = records.map NormalizedRecord.key := by
    rw [← List.forall₂_eq_eq_eq, List.forall₂_map_left_iff, List.forall₂_map_right_iff]
    exact made.flip
  rw [← keys]
  simpa only [Store.keys, List.map_append] using grown.map Record.key

/-- Records with new keys leave one row each, made while the payments stored were some of
those there are now. -/
theorem Delivered.makes {session after : Session} {records : List NormalizedRecord}
    (delivered : Delivered merchant session records after) (distinct : (records.map NormalizedRecord.key).Nodup)
    (new : ∀ record ∈ records, record.key ∉ session.current.store.keys) :
    ∃ rows, after.current.store.rows.Perm (session.current.store.rows ++ rows) ∧
      List.Forall₂ (fun record row => ∃ earlier : Store, session.current.store.payments ⊆ earlier.payments ∧
        earlier.payments ⊆ after.current.store.payments ∧ MadeIn earlier record row) records rows := by
  induction delivered with
  | none session => exact ⟨[], by rw [List.append_nil], .nil⟩
  | @call _ _ session next after _ records rest normalized ran _ ih =>
    rw [List.map_append, List.nodup_append] at distinct
    obtain ⟨distinctHere, distinctLater, apart⟩ := distinct
    obtain ⟨rows, grown, made⟩ := IngestCall.makes normalized ran distinctHere fun record member =>
      new record (List.mem_append_left _ member)
    have keys := keys_of_made grown (made.imp fun _ _ made => made.key)
    obtain ⟨later, grownLater, madeLater⟩ := ih distinctLater fun record member => by
      rw [keys.mem_iff, List.mem_append, not_or]
      refine ⟨new record (List.mem_append_right _ member), fun here => ?_⟩
      exact apart record.key here record.key (List.mem_map_of_mem member) rfl
    have before := payments_subset_of_perm grown
    refine ⟨rows ++ later, ?_, List.rel_append (made.imp fun record row made => ?_) (madeLater.imp fun record row made => ?_)⟩
    · rw [← List.append_assoc]
      exact grownLater.trans (grown.append_right later)
    · exact ⟨_, List.Subset.refl _, List.Subset.trans before (payments_subset_of_perm grownLater), made⟩
    · obtain ⟨earlier, above, below, made⟩ := made
      exact ⟨earlier, List.Subset.trans before above, below, made⟩

/-! ## Every order of arrival -/

/-- A record of the merchant that normalizing returns and an empty store takes. -/
structure NormalizedRecord.Valid (merchant : String) (record : NormalizedRecord) : Prop where
  financial : record.recordType ≠ .bankTransaction
  read : ∃ data source provider received, normalizeRecord data source record.recordType provider received = .ok record
  importable : Importable {} [record]
  owner : column record.merchantId = .ok (some merchant)

omit [Runtime] in
/-- Identifiers no row has. -/
theorem exists_unused (store : Store) :
    ∃ rowId : Nat → String, Function.Injective rowId ∧ (∀ i, rowId i ≠ "") ∧ ∀ i, ∀ row ∈ store.rows, row.id ≠ rowId i := by
  let longest := (store.rows.map fun row => row.id.length).sum
  have length (i : Nat) : (String.ofList (List.replicate (longest + 1 + i) 'r')).length = longest + 1 + i := by
    rw [String.length_ofList, List.length_replicate]
  refine ⟨fun i => String.ofList (List.replicate (longest + 1 + i) 'r'), fun i j same => ?_, fun i empty => ?_,
    fun i row stored same => ?_⟩
  · have lengths := congrArg String.length same
    simp only [length] at lengths
    omega
  · have lengths := congrArg String.length empty
    rw [length, String.length_empty] at lengths
    omega
  · have within : row.id.length ≤ longest := List.le_sum_of_mem (List.mem_map_of_mem stored)
    rw [same, length] at within
    omega

/-- A valid record can arrive in a call of its own at any time. -/
theorem NormalizedRecord.Valid.arrives {record : NormalizedRecord} (valid : record.Valid merchant) (session : Session) :
    ∃ next, Delivered merchant session [record] next := by
  obtain ⟨data, source, provider, received, read⟩ := valid.read
  obtain ⟨rowId, distinct, named, unused⟩ := exists_unused session.current.store
  let draws : Draws := ⟨"", rowId, fun _ => received⟩
  let call : IngestCall := .ingestRecords [data] source record.recordType provider true
  have normalized : call.normalized draws = .ok [record] := by
    simp only [call, draws, IngestCall.normalized, normalizeAll, List.zipIdx_cons, List.zipIdx_nil, List.mapM_cons,
      List.mapM_nil, read]
    rfl
  have importable : Importable session.current.store [record] := by
    refine ⟨valid.importable.status, valid.importable.asked, fun item kept => ?_⟩
    have member : item.1 ∈ [record] := List.fst_mem_of_mem_zipIdx ((firsts_sublist _ _ _).subset kept)
    rw [List.mem_singleton.mp member]
    exact valid.importable.accepted (record, 0) (by simp [firsts, List.zipIdx, Store.keys, Store.rows])
  have fresh : draws.Fresh session.current.store := ⟨distinct, named, unused⟩
  obtain ⟨⟨progress, written⟩, done⟩ := (persistAll_isOk_iff fresh
    (fun other member => congrArg recordType (List.mem_singleton.mp member))
    (fun other member => List.mem_singleton.mp member ▸ normalizeRecord_normal read)).mpr importable
  have ran : ∃ report, (call.run draws session merchant).1 = .ok report := by
    simp only [call, IngestCall.run, ingestRecords]
    rw [show normalizeAll draws [data] source record.recordType provider = .ok [record] from normalized]
    obtain ⟨report, returned, _⟩ := @persistNormalized_returns _ draws
      (createBatch session draws.batchId source provider (some merchant)).1 [record]
      (createBatch session draws.batchId source provider (some merchant)).2 true progress written done
    exact ⟨report, returned⟩
  obtain ⟨report, ran⟩ := ran
  have delivered := Delivered.call normalized (Prod.ext ran rfl) (.none (call.run draws session merchant).2)
  exact ⟨_, delivered⟩

/-- Valid records can arrive in any order. -/
theorem exists_delivered {records : List NormalizedRecord} (valid : ∀ record ∈ records, record.Valid merchant) (session : Session) :
    ∃ after, Delivered merchant session records after := by
  induction records generalizing session with
  | nil => exact ⟨session, .none session⟩
  | cons record rest ih =>
    obtain ⟨next, first⟩ := (valid record List.mem_cons_self).arrives session
    obtain ⟨after, later⟩ := ih (fun other member => valid other (List.mem_cons_of_mem _ member)) next
    exact ⟨after, first.append later⟩

/-- Some records can arrive first and the others later, which then find the rows of the first. -/
theorem exists_two_phases {first second : List NormalizedRecord} (valid : ∀ record ∈ first ++ second, record.Valid merchant)
    (distinct : ((first ++ second).map NormalizedRecord.key).Nodup) :
    ∃ middle after : Session, Delivered merchant ⟨{}, {}⟩ (first ++ second) after ∧ ∃ rows later,
      middle.current.store.rows.Perm rows ∧ after.current.store.rows.Perm (rows ++ later) ∧
      List.Forall₂ (fun record row => ∃ earlier : Store, earlier.payments ⊆ middle.current.store.payments ∧
        MadeIn earlier record row) first rows ∧
      List.Forall₂ (fun record row => ∃ earlier : Store, middle.current.store.payments ⊆ earlier.payments ∧
        earlier.payments ⊆ after.current.store.payments ∧ MadeIn earlier record row) second later := by
  rw [List.map_append, List.nodup_append] at distinct
  obtain ⟨distinctFirst, distinctSecond, apart⟩ := distinct
  obtain ⟨middle, one⟩ := exists_delivered (fun record member => valid record (List.mem_append_left _ member)) ⟨{}, {}⟩
  obtain ⟨after, two⟩ := exists_delivered (fun record member => valid record (List.mem_append_right _ member)) middle
  obtain ⟨rows, grown, made⟩ := one.makes distinctFirst fun _ _ => List.not_mem_nil
  have keys := keys_of_made grown (made.imp fun _ _ ⟨_, _, _, made⟩ => made.key)
  obtain ⟨later, grownLater, madeLater⟩ := two.makes distinctSecond fun record member known => by
    have here : record.key ∈ first.map NormalizedRecord.key := keys.mem_iff.mp known
    exact apart record.key here record.key (List.mem_map_of_mem member) rfl
  exact ⟨middle, after, one.append two, rows, later, grown, grownLater.trans (grown.append_right later),
    made.imp fun _ _ ⟨earlier, _, below, made⟩ => ⟨earlier, below, made⟩, madeLater⟩

end Arrivals
end RCAA
