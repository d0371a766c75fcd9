import RCAA.Ingestion.Merchants
import RCAA.Ingestion.Rows

/-! What the rows that are stored already can do to a call of ingestion. A call reads them
in two ways: whether a key is stored, and which payment a refund or settlement names. Both
lookups are made over the rows of every merchant. -/

namespace RCAA

open FirstByKey

section Persist
variable [Runtime]

/-! ## What a row takes from its record -/

/-- The row, the identifiers generated for it apart. -/
def Record.withoutIds : Record → Record
  | .payment row => .payment { row with id := "", ingestionBatchId := none }
  | .refund row => .refund { row with id := "", ingestionBatchId := none }
  | .settlement row => .settlement { row with id := "", ingestionBatchId := none }
  | .bank row => .bank { row with id := "", ingestionBatchId := none }

omit [Runtime] in
@[simp] theorem Record.withoutIds_key (row : Record) : row.withoutIds.key = row.key := by
  cases row <;> rfl

omit [Runtime] in
@[simp] theorem Record.withoutIds_paymentId (row : Record) : row.withoutIds.paymentId = row.paymentId := by
  cases row <;> rfl

theorem rowOf_withoutIds (store : Store) (id batchId id' batchId' : String) (record : NormalizedRecord) (amount : Decimal)
    (timestamp : DateTime) :
    (rowOf store id batchId record amount timestamp).map (·.map Record.withoutIds) =
      (rowOf store id' batchId' record amount timestamp).map (·.map Record.withoutIds) := by
  cases type : record.recordType with
  | payment =>
    simp only [rowOf, type, Outcome.map_bind]
    refine bind_congr fun metadata => congrArg Except.ok ?_
    simp only [paymentRow, Outcome.map_bind]
    rfl
  | refund =>
    simp only [rowOf, type, Outcome.map_bind]
    refine bind_congr fun paymentId => congrArg Except.ok ?_
    simp only [refundRow, Outcome.map_bind]
    rfl
  | settlement =>
    simp only [rowOf, type, Outcome.map_bind]
    refine bind_congr fun paymentId => bind_congr fun metadata => bind_congr fun gross => bind_congr fun fee =>
      bind_congr fun tax => congrArg Except.ok ?_
    simp only [settlementRow, Outcome.map_bind]
    rfl
  | bankTransaction =>
    simp only [rowOf, type]
    refine congrArg Except.ok ?_
    simp only [bankRow, Outcome.map_bind]
    rfl

/-- The payment a refund or settlement names. -/
def NormalizedRecord.Names (record : NormalizedRecord) (p : Payment) : Prop :=
  queried record.provider = .ok (some p.provider) ∧ record.paymentReference = some p.providerPaymentId

theorem linkedPaymentId_iff {store : Store} {record : NormalizedRecord} {linked : Option String}
    (read : linkedPaymentId store record = .ok linked) (id : String) :
    linked = some id ↔ ∃ p ∈ store.payments, record.Names p ∧ p.id = id := by
  obtain ⟨provider, asked, read⟩ := Outcome.bind_ok read
  simp only [NormalizedRecord.Names, asked, Except.ok.injEq]
  split at read
  · next named reference provided =>
    cases read
    simp only [provided, Option.map_eq_some_iff, store.paymentByProviderId_eq_some_iff, Option.some.injEq]
    constructor
    · rintro ⟨p, ⟨inside, rfl, rfl⟩, same⟩
      exact ⟨p, inside, ⟨rfl, rfl⟩, same⟩
    · rintro ⟨p, inside, ⟨rfl, rfl⟩, same⟩
      exact ⟨p, ⟨inside, rfl, rfl⟩, same⟩
  · next neither =>
    cases read
    simp only [reduceCtorEq, false_iff]
    rintro ⟨p, _, ⟨rfl, reference⟩, _⟩
    exact neither _ _ rfl reference

/-! ## Two stores -/

/-- Two stores agree on what the records of a call read: which of their keys are stored,
and which payments those that are added name. -/
structure SameReads (type : RecordType) (a b : Store) (records : List NormalizedRecord) : Prop where
  keys : ∀ record ∈ records, (record.key ∈ a.keys ↔ record.key ∈ b.keys)
  payments : type.links = true → ∀ item ∈ firsts (fun item : NormalizedRecord × Nat => item.1.key) a.keys records.zipIdx, ∀ id,
    (∃ p ∈ a.payments, item.1.Names p ∧ p.id = id) ↔ ∃ p ∈ b.payments, item.1.Names p ∧ p.id = id

omit [Runtime] in
/-- What was created at one place of two lists that agree there. -/
theorem same_place {β : Type} {f : Created → β} {one two : List Created} (same : one.map f = two.map f) {i : Nat} {c : Created}
    (place : one[i]? = some c) : ∃ d, two[i]? = some d ∧ f d = f c := by
  have mapped := congrArg (fun list => list[i]?) same
  simp only [List.getElem?_map, place, Option.map_some] at mapped
  exact Option.map_eq_some_iff.mp mapped.symm

omit [Runtime] in
theorem created_ext {β : Type} {f : Created → β} {one two : List Created}
    (items : one.map (fun c => (c.record, c.index)) = two.map fun c => (c.record, c.index))
    (each : ∀ c ∈ one, ∀ d ∈ two, d.record = c.record → f c = f d) : one.map f = two.map f := by
  have lengths := congrArg List.length items
  simp only [List.length_map] at lengths
  refine List.ext_getElem? fun i => ?_
  rw [List.getElem?_map, List.getElem?_map]
  cases first : one[i]? with
  | none =>
    rw [List.getElem?_eq_none_iff, lengths, ← List.getElem?_eq_none_iff] at first
    rw [first]
  | some c =>
    obtain ⟨d, second, same⟩ := same_place items first
    rw [second, Option.map_some, Option.map_some,
      each c (List.mem_of_getElem? first) d (List.mem_of_getElem? second) (Prod.mk.inj same).1]

/-- The rows that were created hold the keys of the records kept. -/
theorem Added.created_keys {initial : Store} {items : List (NormalizedRecord × Nat)} {written : Written}
    (added : Added initial items written) :
    (written.created.map fun c => c.row.withoutIds).map Record.key =
      (firsts (fun item => item.1.key) initial.keys items).map fun item => item.1.key := by
  rw [← added.new, List.map_map, List.map_map]
  refine List.map_congr_left fun c member => ?_
  rw [Function.comp_apply, Function.comp_apply, Record.withoutIds_key, added.keyed c member]

/-- The link of a row that was created is the payment its record names. -/
theorem MadeFrom.paymentId_iff {draws : Draws} {type : RecordType} {initial : Store} {written : Written}
    (made : MadeFrom draws type initial written) (links : type.links = true) {c : Created} (member : c ∈ written.created)
    (id : String) : c.row.paymentId = some id ↔ ∃ p ∈ initial.payments, c.record.Names p ∧ p.id = id := by
  obtain ⟨typed, amount, timestamp, _, built⟩ := made.made c member
  exact linkedPaymentId_iff (rowOf_linked (by rw [typed]; exact links) built) id

/-- Rows made from one record hold the same where they link to the same payment. -/
theorem MadeFrom.same_row {drawsA drawsB : Draws} {type : RecordType} {a b : Store} {one two : Written}
    (madeA : MadeFrom drawsA type a one) (madeB : MadeFrom drawsB type b two) {c d : Created} (first : c ∈ one.created)
    (second : d ∈ two.created) (record : d.record = c.record) (linked : type.links = true → c.row.paymentId = d.row.paymentId) :
    c.row.withoutIds = d.row.withoutIds := by
  obtain ⟨typed, amount, timestamp, checked, builtA⟩ := madeA.made c first
  obtain ⟨_, amount', timestamp', checked', builtB⟩ := madeB.made d second
  rw [record] at checked' builtB
  cases checked.symm.trans checked'
  have links : c.record.recordType.links = true → linkedPaymentId a c.record = linkedPaymentId b c.record := by
    intro links
    rw [rowOf_linked links builtA, rowOf_linked links builtB, linked (typed ▸ links)]
  have same := rowOf_withoutIds a (drawsA.rowId c.index) drawsA.batchId (drawsB.rowId d.index) drawsB.batchId c.record amount timestamp
  rw [builtA, rowOf_congr links, builtB] at same
  exact Except.ok.inj (Except.ok.inj same)

/-- Two calls add the same rows, generated ids apart, exactly if the stores agree on what
the records read. -/
theorem created_iff {drawsA drawsB : Draws} {type : RecordType} {a b : Store} {records : List NormalizedRecord}
    (typed : ∀ record ∈ records, record.recordType = type) {progressA progressB : Progress} {one two : Written}
    (doneA : persistAll drawsA a records = .ok (progressA, one)) (doneB : persistAll drawsB b records = .ok (progressB, two)) :
    (one.created.map (fun c => c.row.withoutIds) = two.created.map fun c => c.row.withoutIds) ↔ SameReads type a b records := by
  have addedA := (persistAll_kept doneA).2
  have addedB := (persistAll_kept doneB).2
  have madeA := persistAll_madeFrom typed doneA
  have madeB := persistAll_madeFrom typed doneB
  have items (agree : ∀ item ∈ records.zipIdx, (item.1.key ∈ a.keys ↔ item.1.key ∈ b.keys)) :
      (one.created.map fun c => (c.record, c.index)) = two.created.map fun c => (c.record, c.index) := by
    rw [addedA.new, addedB.new, firsts_of_agree _ agree]
  constructor
  · intro same
    have agree := agree_of_firsts (fun item : NormalizedRecord × Nat => item.1.key)
      (addedA.created_keys.symm.trans ((congrArg _ same).trans addedB.created_keys))
    refine ⟨fun record member => ?_, fun links item kept id => ?_⟩
    · obtain ⟨i, place⟩ := List.mem_iff_getElem?.mp member
      exact agree (record, i) (List.mem_zipIdx_iff_getElem?.mpr place)
    · rw [← addedA.new] at kept
      obtain ⟨c, inside, rfl⟩ := List.mem_map.mp kept
      obtain ⟨i, place⟩ := List.mem_iff_getElem?.mp inside
      obtain ⟨d, second, read⟩ := same_place (items agree) place
      obtain ⟨d', second', row⟩ := same_place same place
      cases second.symm.trans second'
      have linked : d.row.paymentId = c.row.paymentId := by
        rw [← Record.withoutIds_paymentId, row, Record.withoutIds_paymentId]
      have record := (Prod.mk.inj read).1
      rw [← madeA.paymentId_iff links inside, ← record, ← madeB.paymentId_iff links (List.mem_of_getElem? second), linked]
  · intro reads
    have agree : ∀ item ∈ records.zipIdx, (item.1.key ∈ a.keys ↔ item.1.key ∈ b.keys) :=
      fun item member => reads.keys item.1 (List.fst_mem_of_mem_zipIdx member)
    refine created_ext (items agree) fun c first d second record => madeA.same_row madeB first second record fun links => ?_
    refine Option.ext fun id => ?_
    rw [madeA.paymentId_iff links first, reads.payments links _ (addedA.kept first), ← record, ← madeB.paymentId_iff links second]

/-! ## Whose rows -/

/-- A row is a merchant's by its own column, or by the payment it is linked to. -/
def Store.Owns (store : Store) (merchant : String) (row : Record) : Prop :=
  row.merchantId = some merchant ∨ ∃ p ∈ store.payments, row.paymentId = some p.id ∧ p.merchantId = some merchant

/-- Each row that only one of the stores has is the merchant's. -/
structure DifferOnlyIn (merchant : String) (a b : Store) : Prop where
  left : ∀ row ∈ a.rows, row ∉ b.rows → a.Owns merchant row
  right : ∀ row ∈ b.rows, row ∉ a.rows → b.Owns merchant row

omit [Runtime] in
theorem DifferOnlyIn.symm {merchant : String} {a b : Store} (differ : DifferOnlyIn merchant a b) : DifferOnlyIn merchant b a :=
  ⟨differ.right, differ.left⟩

/-- No row of the merchant has the key of a record, and none is a payment a record names. -/
structure Unread (merchant : String) (store : Store) (records : List NormalizedRecord) : Prop where
  keys : ∀ record ∈ records, ∀ row ∈ store.rows, store.Owns merchant row → row.key ≠ record.key
  payments : ∀ record ∈ records, ∀ p ∈ store.payments, p.merchantId = some merchant → ¬record.Names p

theorem DifferOnlyIn.payment_mem {merchant : String} {a b : Store} (differ : DifferOnlyIn merchant a b)
    {records : List NormalizedRecord} (unread : Unread merchant a records) {record : NormalizedRecord} (member : record ∈ records)
    {p : Payment} (stored : p ∈ a.payments) (named : record.Names p) : p ∈ b.payments := by
  by_contra missing
  rcases differ.left (.payment p) (Store.payment_mem_rows.mpr stored) (fun inside => missing (Store.payment_mem_rows.mp inside))
    with owned | ⟨_, _, linked, _⟩
  · exact unread.payments record member p stored owned named
  · cases linked

theorem DifferOnlyIn.key_mem {merchant : String} {a b : Store} (differ : DifferOnlyIn merchant a b)
    {records : List NormalizedRecord} (unread : Unread merchant a records) {record : NormalizedRecord} (member : record ∈ records)
    (stored : record.key ∈ a.keys) : record.key ∈ b.keys := by
  obtain ⟨row, inside, key⟩ := Store.mem_keys.mp stored
  by_cases there : row ∈ b.rows
  · exact Store.mem_keys.mpr ⟨row, there, key⟩
  · exact absurd key (unread.keys record member row inside (differ.left row inside there))

/-- Rows that are not read change nothing. -/
theorem DifferOnlyIn.sameReads {merchant : String} {a b : Store} (differ : DifferOnlyIn merchant a b) (type : RecordType)
    {records : List NormalizedRecord} (unreadA : Unread merchant a records) (unreadB : Unread merchant b records) :
    SameReads type a b records := by
  refine ⟨fun record member => ⟨differ.key_mem unreadA member, differ.symm.key_mem unreadB member⟩, fun _ item kept id => ?_⟩
  have member : item.1 ∈ records := List.fst_mem_of_mem_zipIdx ((firsts_sublist _ _ _).subset kept)
  constructor
  · rintro ⟨p, stored, named, same⟩
    exact ⟨p, differ.payment_mem unreadA member stored named, named, same⟩
  · rintro ⟨p, stored, named, same⟩
    exact ⟨p, differ.symm.payment_mem unreadB member stored named, named, same⟩

/-! ## Calls -/

/-- Two calls report the same: the rows they added, generated ids apart, and their counts. -/
structure SameOutcome (one two : IngestReport) : Prop where
  rows : (one.rows.map fun c => c.row.withoutIds) = two.rows.map fun c => c.row.withoutIds
  created : one.created = two.created
  duplicates : one.duplicates = two.duplicates

theorem IngestCall.normalized_congr {drawsA drawsB : Draws} (clock : drawsA.now = drawsB.now) (call : IngestCall) :
    call.normalized drawsA = call.normalized drawsB := by
  cases call with
  | ingestRecords data source recordType provider commit => simp only [IngestCall.normalized, normalizeAll, clock]
  | ingestBankCsv maxUploadBytes content source provider commit =>
    simp only [IngestCall.normalized, parseBankCsv, normalizeBankRows, clock]
  | importRows dataType rows mapping source provider => simp only [IngestCall.normalized, normalizeAll, clock]

/-- The counts of a call follow from the rows it added and the records it was given. -/
theorem IngestCall.counted {draws : Draws} {session after : Session} {merchant : String} {call : IngestCall} {report : IngestReport}
    {records : List NormalizedRecord} (normalized : call.normalized draws = .ok records)
    (ran : call.run draws session merchant = (.ok report, after)) :
    report.created = report.rows.length ∧ report.created + report.duplicates = records.length := by
  obtain ⟨records', progress, written, again, done, created, duplicates, rows, _⟩ := call.ok_persisted ran
  cases normalized.symm.trans again
  obtain ⟨kept, added⟩ := persistAll_kept done
  have lengths := congrArg List.length added.new
  rw [List.length_map, ← kept.created] at lengths
  exact ⟨by rw [created, rows, lengths], by rw [created, duplicates, kept.total, List.length_zipIdx]⟩

/-- A call for one merchant made on two stores that differ in another's rows adds the same
rows and counts the same exactly if both stores have the same of the records' keys and of
the payments named; it does when no row of the other merchant is read. -/
theorem ingestion_noninterference_iff {drawsA drawsB : Draws} (clock : drawsA.now = drawsB.now) {merchant other : String}
    (call : IngestCall) {a b afterA afterB : Session} {reportA reportB : IngestReport} {records : List NormalizedRecord}
    (differ : DifferOnlyIn other a.current.store b.current.store) (normalized : call.normalized drawsA = .ok records)
    (ranA : call.run drawsA a merchant = (.ok reportA, afterA)) (ranB : call.run drawsB b merchant = (.ok reportB, afterB)) :
    (SameOutcome reportA reportB ↔ SameReads call.recordType a.current.store b.current.store records) ∧
      (Unread other a.current.store records → Unread other b.current.store records → SameOutcome reportA reportB) := by
  have also : call.normalized drawsB = .ok records := by rw [← call.normalized_congr clock, normalized]
  obtain ⟨_, _, one, again, doneA, _, _, rowsA, _⟩ := call.ok_persisted ranA
  cases normalized.symm.trans again
  obtain ⟨_, _, two, again, doneB, _, _, rowsB, _⟩ := call.ok_persisted ranB
  cases also.symm.trans again
  have typed : ∀ record ∈ records, record.recordType = call.recordType := IngestCall.normalized_typed normalized
  have same : SameOutcome reportA reportB ↔ SameReads call.recordType a.current.store b.current.store records := by
    rw [← created_iff typed doneA doneB, ← rowsA, ← rowsB]
    refine ⟨SameOutcome.rows, fun rows => ?_⟩
    have lengths := congrArg List.length rows
    rw [List.length_map, List.length_map] at lengths
    obtain ⟨createdA, totalA⟩ := IngestCall.counted normalized ranA
    obtain ⟨createdB, totalB⟩ := IngestCall.counted also ranB
    exact ⟨rows, by omega, by omega⟩
  exact ⟨same, fun unreadA unreadB => same.mpr (differ.sameReads call.recordType unreadA unreadB)⟩

end Persist

section Examples
open PlainText

/-- The store after `m2` has imported one payment through the shared provider. -/
def sharedProvider (externalId : String) : Session :=
  ((IngestCall.ingestRecords [[("external_id", .str externalId), ("amount", .str "5.00"), ("status", .str "captured"),
      ("merchant_id", .str "m2")]] "manual_demo" .payment (some "demo") true).run
    ⟨"theirs", fun i => "their-row-" ++ toString i, importDraws.now⟩ emptySession "m2").2

theorem sharedProvider_differs {externalId : String}
    (owned : ∀ row ∈ (sharedProvider externalId).current.store.rows, row.merchantId = some "m2") :
    DifferOnlyIn "m2" emptySession.current.store (sharedProvider externalId).current.store :=
  ⟨fun _ inside => absurd inside List.not_mem_nil, fun row inside _ => .inl (owned row inside)⟩

theorem ingestion_noninterference_iff_refund :
    ∃ reportA reportB, ((importOne .refund).run importDraws emptySession "m1").1 = .ok reportA ∧
      ((importOne .refund).run importDraws (sharedProvider "e2") "m1").1 = .ok reportB ∧ SameOutcome reportA reportB := by
  obtain ⟨reportA, returnedA⟩ : ∃ report, ((importOne .refund).run importDraws emptySession "m1").1 = .ok report :=
    Outcome.exists_ok (by decide)
  obtain ⟨reportB, returnedB⟩ : ∃ report, ((importOne .refund).run importDraws (sharedProvider "e2") "m1").1 = .ok report :=
    Outcome.exists_ok (by decide)
  obtain ⟨records, normalized⟩ : ∃ records, (importOne .refund).normalized importDraws = .ok records :=
    Outcome.exists_ok (by decide)
  have whole : ((importOne .refund).normalized importDraws).toOption.getD [] = records := by rw [normalized]; rfl
  have differ := @sharedProvider_differs "e2" (by decide)
  have unread : Unread "m2" (sharedProvider "e2").current.store records := by
    rw [← whole]
    have keys : ∀ record ∈ ((importOne .refund).normalized importDraws).toOption.getD [],
        ∀ row ∈ (sharedProvider "e2").current.store.rows, row.key ≠ record.key := by decide
    have references : ∀ record ∈ ((importOne .refund).normalized importDraws).toOption.getD [],
        ∀ p ∈ (sharedProvider "e2").current.store.payments, record.paymentReference ≠ some p.providerPaymentId := by decide
    exact ⟨fun record member row inside _ => keys record member row inside,
      fun record member p inside _ named => references record member p inside named.2⟩
  have nothing : Unread "m2" emptySession.current.store records :=
    ⟨fun _ _ _ inside => absurd inside List.not_mem_nil, fun _ _ _ inside => absurd inside List.not_mem_nil⟩
  obtain ⟨_, same⟩ := ingestion_noninterference_iff rfl (importOne .refund) differ normalized (Prod.ext returnedA rfl) (Prod.ext returnedB rfl)
  exact ⟨reportA, reportB, returnedA, returnedB, same nothing unread⟩

/-- A payment of `m2` under the same provider and external id takes the place of `m1`'s. -/
theorem foreign_payment_suppresses :
    ¬∀ (call : IngestCall) (draws : Draws) (merchant other : String) (a b afterA afterB : Session) (reportA reportB : IngestReport),
      merchant ≠ other → DifferOnlyIn other a.current.store b.current.store →
        call.run draws a merchant = (.ok reportA, afterA) → call.run draws b merchant = (.ok reportB, afterB) →
          SameOutcome reportA reportB := by
  intro law
  obtain ⟨reportA, returnedA, createdA⟩ : ∃ report, ((importOne .payment).run importDraws emptySession "m1").1 = .ok report ∧
      report.created = 1 := Outcome.exists_ok_of_map (by decide)
  obtain ⟨reportB, returnedB, createdB⟩ : ∃ report,
      ((importOne .payment).run importDraws (sharedProvider "e1") "m1").1 = .ok report ∧ report.created = 0 :=
    Outcome.exists_ok_of_map (by decide)
  have same := law (importOne .payment) importDraws "m1" "m2" emptySession (sharedProvider "e1") _ _ reportA reportB (by decide)
    (@sharedProvider_differs "e1" (by decide)) (Prod.ext returnedA rfl) (Prod.ext returnedB rfl)
  have counts := same.created
  rw [createdA, createdB] at counts
  cases counts

end Examples
end RCAA
