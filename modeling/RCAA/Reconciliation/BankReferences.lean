import RCAA.Ingestion.Merchants
import RCAA.Reconciliation.PlainRule

/-! The references of a bank row from ingestion to the bank leg. A record has columns for a
UTR and a settlement reference; the row has one reference and its metadata, and the bank
leg finds it by these alone. -/

namespace RCAA

section Runtime
variable [Runtime]

/-! ## What is supplied -/

/-- The references a record has columns of their own for. -/
def columnReferences (data : Dict) : List String :=
  referenceSet [.ofOption (optionalText (data.get "utr")), .ofOption (optionalText (data.get "settlement_reference"))]

/-- What the row takes as metadata. -/
def bankMetadata (data : Dict) : Value := (data.get "metadata").or (.object [])

/-- The references the row keeps: that of the record, and those of its metadata. -/
def keptReferences (data : Dict) : List String :=
  referenceSet [.ofOption (optionalText ((data.get "reference").or (data.get "order_reference"))),
    (bankMetadata data).fields.get "settlement_reference", (bankMetadata data).fields.get "settlement_id",
    (bankMetadata data).fields.get "utr"]

/-- A run raises on metadata that is not an object. -/
def Readable (b : BankTransaction) : Prop := ∃ fields, b.metadataJson = .object fields

/-- In every run that reads the row and a settlement of its merchant with a reference of
the record's columns, the row is among the settlement's reference candidates. -/
def ReferencesSurvive (data : Dict) (b : BankTransaction) : Prop :=
  ∀ (order : SetOrder) (store : Store) (merchantId : Option String) (s : Settlement), b ∈ store.bankTransactions →
    s ∈ bankLegSettlements store merchantId → s.merchantId = b.merchantId →
    (∃ ref ∈ payoutReferences s, ref ∈ columnReferences data) →
    Readable b ∧ b ∈ referencedBank order (buildBankIndexes order (selectBank store (scopeOf merchantId))) s

/-- Every reference of the columns is kept elsewhere too, in metadata that is an object if
there is any such reference. -/
def KeepsReferences (data : Dict) : Prop :=
  ∀ ref ∈ columnReferences data, (∃ fields, bankMetadata data = .object fields) ∧ ref ∈ keptReferences data

/-! ## What the row keeps -/

theorem column_ofOption {text stored : Option String} (read : column (.ofOption text) = .ok stored) : stored = text := by
  cases text <;> exact (Except.ok.inj read).symm

/-- What a row takes of the references of its data. -/
structure Bears (data : Dict) (b : BankTransaction) : Prop where
  reference : b.reference = optionalText ((data.get "reference").or (data.get "order_reference"))
  metadata : b.metadataJson.fields = (bankMetadata data).fields
  readable : Readable b ↔ ∃ fields, bankMetadata data = .object fields

omit [Runtime] in
theorem or_object_fields (value : Value) : (value.or (.object [])).fields = value.fields := by
  cases value with
  | object fields => cases fields <;> rfl
  | scalar | decimal | timestamp | other =>
    rw [Value.or]
    split <;> rfl

omit [Runtime] in
/-- What is falsy is an empty object once stored, and an empty object stays one. -/
theorem or_object_twice (value : Value) :
    (∃ fields, (value.or (.object [])).or (.object []) = .object fields) ↔ ∃ fields, value.or (.object []) = .object fields := by
  by_cases truthy : value.truthy = true
  · rw [Value.or, Value.or, if_pos truthy, if_pos truthy]
  · simp only [Value.or, if_neg truthy, ite_self]

theorem MadeOf.bears {data : List Dict} {initial : Store} {c : Created} (origin : MadeOf data .bankTransaction initial c) :
    ∃ item b, data[c.index]? = some item ∧ c.row = .bank b ∧ Bears item b := by
  obtain ⟨item, _, _, _, inside, read⟩ := origin.read
  obtain ⟨_, _, amount, timestamp, _, made⟩ := origin.made
  obtain ⟨b, whole, kept⟩ := rowOf_bank origin.recordType made
  have reference := kept.reference
  have entries : _ = (item.get "metadata").or (.object []) := (normalizeRecord_readFrom read).metadata
  rw [(normalizeRecord_bank read).2] at reference
  refine ⟨item, b, inside, whole, column_ofOption reference, ?_, ?_⟩
  · rw [kept.metadata, storedMetadata, or_object_fields, entries]
    rfl
  · rw [Readable, kept.metadata, storedMetadata, entries]
    exact or_object_twice _

theorem Bears.referenced_iff {data : Dict} {b : BankTransaction} (bears : Bears data b) (s : Settlement) :
    Referenced s b ↔ ∃ ref ∈ payoutReferences s, ref ∈ keptReferences data := by
  simp only [Referenced, bankReferences, keptReferences, mem_referenceSet_iff, bankUtr_eq_some_iff, bears.reference,
    bears.metadata, List.mem_cons, List.not_mem_nil, or_false, exists_eq_or_imp, exists_eq_left]
  refine exists_congr fun ref => ?_
  tauto

theorem mem_referencedBank_iff (order : SetOrder) (store : Store) (merchantId : Option String) (s : Settlement)
    (b : BankTransaction) :
    b ∈ referencedBank order (buildBankIndexes order (selectBank store (scopeOf merchantId))) s ↔
      b ∈ selectBank store (scopeOf merchantId) ∧ Referenced s b := by
  rw [(referencedBank_perm order (selectBank_ids store _) s).mem_iff, List.mem_filter, decide_eq_true_eq]

theorem mem_columnReferences {data : Dict} {ref : String} (column : ref ∈ columnReferences data) :
    ref ≠ "" ∧ ∃ text, normalize (.str text) = some ref := by
  obtain ⟨named, value, listed, normal⟩ := (mem_referenceSet_iff _ _).mp column
  refine ⟨named, ?_⟩
  rcases List.mem_pair.mp listed with rfl | rfl
  · cases text : optionalText (data.get "utr") with
    | none => simp [text, Scalar.ofOption, normalize] at normal
    | some utr => exact ⟨utr, by rwa [text] at normal⟩
  · cases text : optionalText (data.get "settlement_reference") with
    | none => simp [text, Scalar.ofOption, normalize] at normal
    | some reference => exact ⟨reference, by rwa [text] at normal⟩

/-- A settlement of the row's merchant whose only reference is the given text. -/
def payoutNamed (b : BankTransaction) (text : String) : Settlement where
  id := "s"
  provider := ""
  merchantId := b.merchantId
  providerSettlementId := text
  providerPaymentId := ""
  grossAmount := b.amount
  netAmount := b.amount
  status := "processed"
  settledAt := b.eventTimestamp

theorem mem_payoutNamed_references {b : BankTransaction} {text ref other : String} (normal : normalize (.str text) = some ref)
    (named : ref ≠ "") : other ∈ payoutReferences (payoutNamed b text) ↔ other = ref := by
  have null : normalize .null = none := rfl
  simp only [payoutReferences, payoutNamed, mem_referenceSet_iff, List.mem_cons, List.not_mem_nil, or_false,
    exists_eq_or_imp, exists_eq_left, normal, null, Option.some.injEq, Scalar.ofOption, reduceCtorEq]
  constructor
  · rintro ⟨_, same⟩
    exact same.symm
  · exact fun same => ⟨same ▸ named, same.symm⟩

/-- The row and one settlement. -/
def payoutStore (b : BankTransaction) (named : b.id ≠ "") (text : String) : Store where
  settlements := [payoutNamed b text]
  bankTransactions := [b]
  settlementIds := List.nodup_singleton _
  settlementProviderIds := List.nodup_singleton _
  settlementNamed s member := by
    rw [List.mem_singleton.mp member]
    change "s" ≠ ""
    decide
  bankIds := List.nodup_singleton _
  bankSourceIds := List.nodup_singleton _
  bankNamed c member := by
    rw [List.mem_singleton.mp member]
    exact named

/-- A row keeps the references that matter exactly when its record has them in a second place. -/
theorem Bears.survive_iff {data : Dict} {b : BankTransaction} (bears : Bears data b) (named : b.id ≠ "") :
    ReferencesSurvive data b ↔ KeepsReferences data := by
  constructor
  · intro survives ref column
    obtain ⟨visible, text, normal⟩ := mem_columnReferences column
    have listed {other : String} := @mem_payoutNamed_references _ b text ref other normal visible
    obtain ⟨readable, found⟩ := survives .insertion (payoutStore b named text) none (payoutNamed b text)
      List.mem_cons_self ((mem_bankLegSettlements _).mpr ⟨List.mem_cons_self, rfl⟩) rfl ⟨ref, listed.mpr rfl, column⟩
    obtain ⟨other, payout, kept⟩ := (bears.referenced_iff _).mp ((mem_referencedBank_iff _ _ _ _ b).mp found).2
    exact ⟨bears.readable.mp readable, listed.mp payout ▸ kept⟩
  · intro keeps order store merchantId s member read same ⟨ref, payout, column⟩
    obtain ⟨readable, kept⟩ := keeps ref column
    have own := ((mem_bankLegSettlements s).mp read).2
    rw [same] at own
    refine ⟨bears.readable.mpr readable, (mem_referencedBank_iff order store merchantId s b).mpr ⟨?_, ?_⟩⟩
    · exact (mem_selectBank store _ b).mpr ⟨member, own⟩
    · exact (bears.referenced_iff s).mpr ⟨ref, payout, kept⟩

/-- Every bank row a call accepts is found by the references of its record's columns
exactly when its metadata or its one reference repeats them. -/
theorem bank_references_survive_iff {draws : Draws} {session after : Session} {merchant : String} {call : IngestCall}
    (bank : call.recordType = .bankTransaction) {report : IngestReport}
    (ran : call.run draws session merchant = (.ok report, after)) {accepted : Created} (made : accepted ∈ report.rows) :
    ∃ data b, call.supplied[accepted.index]? = some data ∧ accepted.row = .bank b ∧
      b ∈ after.current.store.bankTransactions ∧ (ReferencesSurvive data b ↔ KeepsReferences data) := by
  obtain ⟨origin, stored⟩ := call.made_of ran made
  rw [bank] at origin
  obtain ⟨data, b, inside, whole, bears⟩ := origin.bears
  rw [whole] at stored
  have held := Store.bank_mem_rows.mp stored
  exact ⟨data, b, inside, whole, held, bears.survive_iff (after.current.store.bankNamed b held)⟩

end Runtime

section Examples

namespace DatedText

/-- A host that reads one timestamp. -/
scoped instance datedRuntime : Runtime where
  toPlatform :=
    { PlainText.plainText with
      fromisoformat := fun text => if text = "2024-01-01T12:00:00+00:00" then some (1704110400000000, some 0) else none }
  objectText _ := "{}"
  columnText _ := none
  comparable _ := false
  readCsv _ := none
  errorText _ := "error"

end DatedText

open DatedText

/-- A credit whose UTR has a column of its own. -/
def utrRecord (metadata : RawData) : Dict :=
  [("external_id", .str "BANK_1"), ("amount", .str "90.00"), ("currency", .str "INR"), ("utr", .str "UTR1"),
    ("event_timestamp", .str "2024-01-01T12:00:00Z"), ("merchant_id", .str "m1"), ("metadata", .object metadata)]

def importCredit (metadata : RawData) : IngestCall :=
  .ingestRecords [utrRecord metadata] "bank_json" .bankTransaction none true

theorem bank_references_survive_iff_repeated : ∃ report accepted b,
    ((importCredit [("utr", .str " utr1")]).run importDraws emptySession "m1").1 = .ok report ∧ report.rows = [accepted] ∧
      accepted.row = .bank b ∧ ReferencesSurvive (utrRecord [("utr", .str " utr1")]) b := by
  obtain ⟨report, returned⟩ : ∃ report,
      ((importCredit [("utr", .str " utr1")]).run importDraws emptySession "m1").1 = .ok report := Outcome.exists_ok (by decide)
  obtain ⟨accepted, rows, index⟩ := only_row returned (by decide)
  obtain ⟨data, b, place, bank, _, survive_iff⟩ :=
    bank_references_survive_iff rfl (Prod.ext returned rfl) (rows ▸ List.mem_singleton_self accepted)
  rw [index] at place
  cases place
  refine ⟨report, accepted, b, returned, rows, bank, survive_iff.mpr fun ref column => ⟨⟨_, rfl⟩, ?_⟩⟩
  have only : columnReferences (utrRecord [("utr", .str " utr1")]) = ["utr1"] := by decide
  rw [only, List.mem_singleton] at column
  rw [column]
  decide

/-- Given in its own column, the UTR leads to nothing. -/
theorem column_reference_is_lost :
    ¬∀ (call : IngestCall) (draws : Draws) (session after : Session) (merchant : String) (report : IngestReport),
      call.recordType = .bankTransaction → call.run draws session merchant = (.ok report, after) →
        ∀ accepted ∈ report.rows, ∀ data b, call.supplied[accepted.index]? = some data → accepted.row = .bank b →
          ReferencesSurvive data b := by
  intro law
  obtain ⟨report, returned⟩ : ∃ report, ((importCredit []).run importDraws emptySession "m1").1 = .ok report :=
    Outcome.exists_ok (by decide)
  obtain ⟨accepted, rows, index⟩ := only_row returned (by decide)
  have member : accepted ∈ report.rows := rows ▸ List.mem_singleton_self accepted
  have ran : (importCredit []).run importDraws emptySession "m1" = (.ok report, _) := Prod.ext returned rfl
  obtain ⟨origin, stored⟩ := (importCredit []).made_of ran member
  obtain ⟨data, b, inside, whole, bears⟩ := origin.bears
  rw [whole] at stored
  have named := Store.bankNamed _ b (Store.bank_mem_rows.mp stored)
  have survives := law (importCredit []) importDraws emptySession _ "m1" report rfl ran accepted member data b inside whole
  rw [index] at inside
  cases inside
  have kept := ((bears.survive_iff named).mp survives "utr1" (by decide)).2
  exact absurd kept (by decide)

end Examples
end RCAA
