import RCAA.Models
import RCAA.Cases.Numbering
import RCAA.Library.Registry

/-! Recording a discrepancy as a case. A case is identified by the digest of what
was found; a discrepancy found before is not recorded again, whatever became of its
case. The hash of the canonical JSON is a parameter. The explanation and the action
a caller passes are not stored, and audit events are recorded elsewhere. -/

namespace RCAA

inductive CaseType where
  | duplicateSettlement | duplicatePayment | statusMismatch | duplicateRefund | missingRefund
  | ambiguousMatch | paymentWithoutSettlement | currencyMismatch | delayedSettlement | settlementMismatch
  | settlementWithoutPayment | refundWithoutPayment | refundWithoutSettlement
  | bankAmbiguousMatch | bankSettlementMismatch | bankWithoutSettlement
deriving DecidableEq, Repr

def CaseType.name : CaseType → String
  | .duplicateSettlement => "DUPLICATE_SETTLEMENT"
  | .duplicatePayment => "DUPLICATE_PAYMENT"
  | .statusMismatch => "STATUS_MISMATCH"
  | .duplicateRefund => "DUPLICATE_REFUND"
  | .missingRefund => "MISSING_REFUND"
  | .ambiguousMatch => "AMBIGUOUS_MATCH"
  | .paymentWithoutSettlement => "PAYMENT_WITHOUT_SETTLEMENT"
  | .currencyMismatch => "CURRENCY_MISMATCH"
  | .delayedSettlement => "DELAYED_SETTLEMENT"
  | .settlementMismatch => "SETTLEMENT_MISMATCH"
  | .settlementWithoutPayment => "SETTLEMENT_WITHOUT_PAYMENT"
  | .refundWithoutPayment => "REFUND_WITHOUT_PAYMENT"
  | .refundWithoutSettlement => "REFUND_WITHOUT_SETTLEMENT"
  | .bankAmbiguousMatch => "BANK_AMBIGUOUS_MATCH"
  | .bankSettlementMismatch => "BANK_SETTLEMENT_MISMATCH"
  | .bankWithoutSettlement => "BANK_WITHOUT_SETTLEMENT"

theorem CaseType.name_injective : Function.Injective CaseType.name := by
  intro a b
  cases a <;> cases b <;> decide

/-! ## Metadata of a case -/

inductive MetaValue where
  | null
  | text (value : String)
  | texts (values : List String)
  | rows (values : List (List (String × String)))
deriving DecidableEq

def MetaValue.ofOption : Option String → MetaValue
  | none => .null
  | some value => .text value

abbrev CaseMetadata := List (String × MetaValue)

namespace CaseMetadata

def get (metadata : CaseMetadata) (key : String) : MetaValue :=
  ((metadata.find? (fun entry => entry.1 = key)).map Prod.snd).getD .null

def getText (metadata : CaseMetadata) (key : String) : Option String :=
  match get metadata key with
  | .text value => some value
  | _ => none

def setDefault (metadata : CaseMetadata) (key : String) (value : MetaValue) : CaseMetadata :=
  if metadata.any (fun entry => entry.1 = key) then metadata else metadata ++ [(key, value)]

end CaseMetadata

/-! ## Cases -/

/-- What a caller of `create_case` reports. -/
structure CaseRequest where
  payment : Option Payment := none
  caseType : CaseType
  expected : Decimal
  actual : Decimal
  summary : String
  cause : String
  recordId : Option String := none
  recordType : String := "payment"
  matchMethod : String := "NONE"
  matchConfidence : String := "NONE"
  matchedRecordId : Option String := none
  metadata : CaseMetadata := []
deriving DecidableEq

structure FingerprintPayload where
  source : String
  recordType : String
  caseType : String
  expected : String
  actual : String
  matchMethod : String
  matchedRecordId : Option String
deriving DecidableEq

/-- The digest of the canonical JSON of a payload. -/
class Hashing where
  digest : FingerprintPayload → String

/-- The columns of a case that the request decides. -/
structure CaseContent where
  merchantId : Option String
  title : String
  description : String
  priority : String
  paymentId : Option String
  recordId : Option String
  recordType : String
  caseType : String
  severity : String
  status : String
  expectedAmount : Decimal
  actualAmount : Decimal
  difference : Decimal
  confidence : Decimal
  matchMethod : String
  matchConfidence : String
  matchedRecordId : Option String
  reasonCode : String
  summary : String
  metadataJson : CaseMetadata
  fingerprint : String
deriving DecidableEq

structure Case extends CaseContent where
  id : String
  caseNumber : String
  slaDueAt : Int
  createdAt : Int
deriving DecidableEq

structure CaseEvent where
  caseId : String
  eventType : String
  metadataJson : CaseMetadata := []
deriving DecidableEq

/-- Cases and their events, under the table's unique constraints. -/
structure CaseStore where
  cases : List Case := []
  events : List CaseEvent := []
  fingerprints : (cases.map (·.fingerprint)).Nodup
  numbering : Numbered (cases.map Case.caseNumber)

namespace CaseStore

def empty : CaseStore := ⟨[], [], List.nodup_nil, numbered_nil⟩

def contents (store : CaseStore) : List CaseContent := store.cases.map Case.toCaseContent

end CaseStore

/-- The generated key of a case and the time it is created at. -/
structure Draw where
  id : String
  now : Int

structure Settings where
  settlementWindowDays : Int := 3
  reconciliationTimestampToleranceMinutes : Int := 30
  reconciliationAmountTolerance : Decimal := ⟨0, -2⟩
  slaCriticalHours : Int := 4
  slaHighHours : Int := 24
  slaMediumHours : Int := 72
  slaLowHours : Int := 120

def slaHours (settings : Settings) (priority : String) : Int :=
  if priority = "CRITICAL" then settings.slaCriticalHours
  else if priority = "HIGH" then settings.slaHighHours
  else if priority = "MEDIUM" then settings.slaMediumHours
  else if priority = "LOW" then settings.slaLowHours
  else settings.slaMediumHours

def yearOf (now : Int) : Nat := (civil (now / DateTime.day)).1.toNat

namespace CaseRequest

def sourceKey (request : CaseRequest) : String :=
  match request.payment with
  | some payment => payment.id
  | none => match request.recordId with
    | none => "none"
    | some recordId => if recordId = "" then "none" else recordId

def fingerprintPayload (request : CaseRequest) : FingerprintPayload where
  source := request.sourceKey
  recordType := request.recordType
  caseType := request.caseType.name
  expected := request.expected.str
  actual := request.actual.str
  matchMethod := request.matchMethod
  matchedRecordId := request.matchedRecordId

def storedMetadata (request : CaseRequest) : CaseMetadata :=
  match request.payment with
  | some payment => (request.metadata.setDefault "source" (.text payment.source)).setDefault "merchant_id"
      (.ofOption payment.merchantId)
  | none => request.metadata

def merchantId (request : CaseRequest) : Option String :=
  match request.payment with
  | some payment => payment.merchantId
  | none => request.storedMetadata.getText "merchant_id"

def priority (request : CaseRequest) : String :=
  if (Decimal.ofInt 1000).le (request.expected.sub request.actual).abs then "CRITICAL" else "HIGH"

variable [Hashing]

def content (request : CaseRequest) : CaseContent where
  merchantId := request.merchantId
  title := "Investigate " ++ request.caseType.name
  description := request.summary
  priority := request.priority
  paymentId := request.payment.map Payment.id
  recordId := request.recordId
  recordType := request.recordType
  caseType := request.caseType.name
  severity := request.priority
  status := "OPEN"
  expectedAmount := request.expected
  actualAmount := request.actual
  difference := request.actual.sub request.expected
  confidence := ⟨90, -2⟩
  matchMethod := request.matchMethod
  matchConfidence := request.matchConfidence
  matchedRecordId := request.matchedRecordId
  reasonCode := request.cause
  summary := request.summary
  metadataJson := request.storedMetadata
  fingerprint := Hashing.digest request.fingerprintPayload

end CaseRequest

section Hashing
variable [Hashing]

/-- The case a request would be stored as, next after `store`'s. -/
def newCase (settings : Settings) (draw : Draw) (store : CaseStore) (request : CaseRequest) : Case where
  toCaseContent := request.content
  id := draw.id
  caseNumber := nextCaseNumber (store.cases.map Case.caseNumber) (yearOf draw.now)
  slaDueAt := draw.now + slaHours settings request.priority * (60 * DateTime.minute)
  createdAt := draw.now

def CaseStore.insert (settings : Settings) (draw : Draw) (store : CaseStore) (request : CaseRequest)
    (absent : request.content.fingerprint ∉ store.cases.map (·.fingerprint)) : CaseStore where
  cases := store.cases ++ [newCase settings draw store request]
  events := store.events ++ [{ caseId := draw.id, eventType := "CASE_CREATED" }]
  fingerprints := by
    rw [List.map_append, List.map_singleton, ← List.concat_eq_append]
    exact store.fingerprints.concat absent
  numbering := by
    rw [List.map_append, List.map_singleton]
    exact store.numbering.next (yearOf draw.now)

/-- Whether the case is new is reported with the store; `draws` supplies the
generated values of the n-th case of the store. -/
def createCase (settings : Settings) (draws : Nat → Draw) (store : CaseStore) (request : CaseRequest) :
    CaseStore × Bool :=
  if known : request.content.fingerprint ∈ store.cases.map (·.fingerprint) then (store, false)
  else (store.insert settings (draws store.cases.length) request known, true)

/-- The cases of successive requests, and how many of them are new. -/
def createCases (settings : Settings) (draws : Nat → Draw) (store : CaseStore) (requests : List CaseRequest) :
    CaseStore × Nat :=
  requests.foldl (fun (store, created) request =>
    let (store, new) := createCase settings draws store request
    (store, created + new.toNat)) (store, 0)

/-! ## Cases as a registry of contents -/

def caseRegistry (settings : Settings) (draws : Nat → Draw) :
    Registry CaseStore CaseRequest CaseContent String Empty where
  rows := CaseStore.contents
  row := CaseRequest.content
  key := CaseContent.fingerprint
  add store request absent := .ok (store.insert settings (draws store.cases.length) request (by
    simpa only [CaseStore.contents, List.map_map, Function.comp_def] using absent))
  rows_add := by
    intro store request absent added done
    cases done
    simp [CaseStore.contents, CaseStore.insert, newCase]

variable (settings : Settings) (draws : Nat → Draw)

theorem caseRegistry_keys (store : CaseStore) :
    (caseRegistry settings draws).keys store = store.cases.map (·.fingerprint) := by
  simp only [Registry.keys, caseRegistry, CaseStore.contents, List.map_map, Function.comp_def]

theorem put_eq_createCase (store : CaseStore) (request : CaseRequest) :
    (caseRegistry settings draws).put store request = .ok (createCase settings draws store request) := by
  have keys := caseRegistry_keys settings draws store
  simp only [Registry.put, createCase]
  by_cases known : request.content.fingerprint ∈ store.cases.map (·.fingerprint)
  · rw [dif_pos known, dif_pos (keys ▸ known)]
  · rw [dif_neg known, dif_neg (keys ▸ known)]
    rfl

/-- Creating cases one after another fills the registry. -/
theorem putAll_eq_createCases (store : CaseStore) (requests : List CaseRequest) :
    (caseRegistry settings draws).putAll store requests = .ok (createCases settings draws store requests) := by
  have general : ∀ (store : CaseStore) (count : Nat),
      requests.foldlM (caseRegistry settings draws).step (store, count) =
        .ok (requests.foldl (fun (store, created) request =>
          let (store, new) := createCase settings draws store request
          (store, created + new.toNat)) (store, count)) := by
    induction requests with
    | nil => exact fun _ _ => rfl
    | cons request rest ih =>
      intro store count
      have first : (caseRegistry settings draws).step (store, count) request =
          .ok ((createCase settings draws store request).1,
            count + (createCase settings draws store request).2.toNat) := by
        simp only [Registry.step, put_eq_createCase]
        rfl
      rw [List.foldlM_cons, first]
      exact ih _ _
  exact general store 0

end Hashing

/-! ## A digest that loses nothing -/

namespace PlainText

def draws (n : Nat) : Draw := ⟨"case-" ++ toString n, 1704110400000000 + n⟩

/-- The characters of a field, each marked, with a terminator. -/
def marked (text : String) : List Char := text.toList.flatMap (fun c => ['.', c]) ++ ['|']

theorem marked_append_inj {a b : String} {rest rest' : List Char} (same : marked a ++ rest = marked b ++ rest') :
    a = b ∧ rest = rest' := by
  have general : ∀ (xs ys : List Char),
      xs.flatMap (fun c => ['.', c]) ++ ['|'] ++ rest = ys.flatMap (fun c => ['.', c]) ++ ['|'] ++ rest' →
        xs = ys ∧ rest = rest' := by
    intro xs
    induction xs with
    | nil =>
      intro ys same
      cases ys with
      | nil => simpa using same
      | cons y ys => simp at same
    | cons x xs ih =>
      intro ys same
      cases ys with
      | nil => simp at same
      | cons y ys =>
        simp only [List.flatMap_cons, List.cons_append, List.nil_append, List.cons.injEq, true_and] at same
        obtain ⟨rfl, tail⟩ := ih ys same.2
        exact ⟨by rw [same.1], tail⟩
  obtain ⟨texts, rests⟩ := general _ _ same
  exact ⟨String.toList_inj.mp texts, rests⟩

theorem marked_injective : Function.Injective marked := by
  intro a b same
  have whole : marked a ++ [] = marked b ++ [] := by rw [same]
  exact (marked_append_inj whole).1

def markedOption : Option String → List Char
  | none => []
  | some text => marked text

theorem markedOption_injective : Function.Injective markedOption := by
  intro a b same
  cases a with
  | none => cases b <;> simp_all [markedOption, marked]
  | some text =>
    cases b with
    | none => simp [markedOption, marked] at same
    | some other => rw [marked_injective same]

/-- The fields of a payload one after another stand for the hash in evaluation. -/
scoped instance fieldText : Hashing where
  digest payload := String.ofList (marked payload.source ++ (marked payload.recordType ++ (marked payload.caseType ++
    (marked payload.expected ++ (marked payload.actual ++ (marked payload.matchMethod ++
      markedOption payload.matchedRecordId))))))

theorem fieldText_injective : Function.Injective fieldText.digest := by
  intro a b texts
  have same := String.ofList_inj.mp texts
  obtain ⟨source, same⟩ := marked_append_inj same
  obtain ⟨recordType, same⟩ := marked_append_inj same
  obtain ⟨caseType, same⟩ := marked_append_inj same
  obtain ⟨expected, same⟩ := marked_append_inj same
  obtain ⟨actual, same⟩ := marked_append_inj same
  obtain ⟨matchMethod, same⟩ := marked_append_inj same
  have matched := markedOption_injective same
  cases a
  cases b
  simp_all

end PlainText
end RCAA
