import RCAA.Audit.Models
import RCAA.Library.HashChain

/-! The audit service: the canonical form of an event and its hash, recording within a
transaction, and the check of the chain. Metrics are left out. -/

namespace RCAA.Audit

/-! ## Canonical form -/

/-- SHA-256 in hexadecimal of a text in UTF-8, and the compact JSON text of a document. -/
class AuditHashing where
  sha256 : String → String
  dumps : Json → String

def sensitiveKeys : List String :=
  ["password", "password_hash", "jwt", "token", "access_token", "api_key", "apikey", "webhook_secret", "private_key",
    "ai_api_key", "authorization"]

def outcomes : List String := ["SUCCESS", "FAILURE", "DENIED"]

section Service
variable [Platform]

/-- `_safe`: without the sensitive keys, timestamps as UTC text. -/
def safe (value : Json) : Json :=
  value.scrub (fun key => lower key ∈ sensitiveKeys) fun d => .str (⟨d.instant, some 0⟩ : DateTime).isoformat

/-- `value or {}`. -/
def orEmpty (value : Json) : Json := if value.truthy then value else .object []

def payloadFields (event : AuditEvent) : List (String × Json) :=
  [("event_id", .str event.eventId),
    ("merchant_id", .ofOption event.merchantId),
    ("actor_user_id", .ofOption event.actorUserId),
    ("actor_role", .ofOption event.actorRole),
    ("actor_type", .str event.actorType),
    ("action", .str event.action),
    ("resource_type", .str event.resourceType),
    ("resource_id", .ofOption event.resourceId),
    ("request_id", .ofOption event.requestId),
    ("timestamp", .str (Instant.text event.timestamp)),
    ("outcome", .str event.outcome),
    ("ip_address", .ofOption event.ipAddress),
    ("metadata", safe (orEmpty event.metadataJson)),
    ("before_snapshot", safe event.beforeSnapshot),
    ("after_snapshot", safe event.afterSnapshot),
    ("previous_event_hash", .ofOption event.previousEventHash)]

def canonicalPayload (event : AuditEvent) : Json := .object (payloadFields event)

/-- What the hash of an event reads, apart from the hash before it. -/
structure SameContent (a b : AuditEvent) : Prop where
  eventId : a.eventId = b.eventId
  merchantId : a.merchantId = b.merchantId
  actorUserId : a.actorUserId = b.actorUserId
  actorRole : a.actorRole = b.actorRole
  actorType : a.actorType = b.actorType
  action : a.action = b.action
  resourceType : a.resourceType = b.resourceType
  resourceId : a.resourceId = b.resourceId
  requestId : a.requestId = b.requestId
  timestamp : a.timestamp = b.timestamp
  outcome : a.outcome = b.outcome
  ipAddress : a.ipAddress = b.ipAddress
  metadata : (safe (orEmpty a.metadataJson)).sorted = (safe (orEmpty b.metadataJson)).sorted
  beforeSnapshot : (safe a.beforeSnapshot).sorted = (safe b.beforeSnapshot).sorted
  afterSnapshot : (safe a.afterSnapshot).sorted = (safe b.afterSnapshot).sorted

def payloadKeys : List String :=
  ["event_id", "merchant_id", "actor_user_id", "actor_role", "actor_type", "action", "resource_type", "resource_id",
    "request_id", "timestamp", "outcome", "ip_address", "metadata", "before_snapshot", "after_snapshot",
    "previous_event_hash"]

theorem payloadFields_keys (event : AuditEvent) : (payloadFields event).map Prod.fst = payloadKeys := rfl

theorem payload_sorted_iff {a b : AuditEvent} (previous : a.previousEventHash = b.previousEventHash) :
    (canonicalPayload a).sorted = (canonicalPayload b).sorted ↔ SameContent a b := by
  constructor
  · intro same
    have distinct : ((payloadFields a).map Prod.fst).Nodup := by
      rw [payloadFields_keys]
      decide
    have fields := Json.sortedFields_inj ((payloadFields_keys a).trans (payloadFields_keys b).symm) distinct same
    simp only [payloadFields, Json.sortedFields, Json.sorted_str, Json.sorted_ofOption, List.cons.injEq, Prod.mk.injEq,
      true_and, Json.str_inj, Json.ofOption_inj, and_true] at fields
    obtain ⟨eventId, merchantId, actorUserId, actorRole, actorType, action, resourceType, resourceId, requestId, timestamp,
      outcome, ipAddress, metadata, beforeSnapshot, afterSnapshot, -⟩ := fields
    exact ⟨eventId, merchantId, actorUserId, actorRole, actorType, action, resourceType, resourceId, requestId,
      Instant.text_injective timestamp, outcome, ipAddress, metadata, beforeSnapshot, afterSnapshot⟩
  · intro same
    have fields : Json.sortedFields (payloadFields a) = Json.sortedFields (payloadFields b) := by
      simp only [payloadFields, Json.sortedFields, Json.sorted_str, Json.sorted_ofOption, same.eventId, same.merchantId,
        same.actorUserId, same.actorRole, same.actorType, same.action, same.resourceType, same.resourceId, same.requestId,
        same.timestamp, same.outcome, same.ipAddress, same.metadata, same.beforeSnapshot, same.afterSnapshot, previous]
    rw [canonicalPayload, canonicalPayload, Json.sorted, Json.sorted, fields]

variable [AuditHashing]

/-- `json.dumps` with its keys sorted. -/
def canonicalJson (payload : Json) : String := AuditHashing.dumps payload.sorted

def calculateEventHash (previousEventHash : Option String) (payload : Json) : String :=
  AuditHashing.sha256 (previousEventHash.getD "" ++ canonicalJson payload)

/-- Under hashes that tell texts apart, the content determines the hash and the hash the content. -/
theorem calculateEventHash_inj (sha256 : Function.Injective AuditHashing.sha256) (dumps : Function.Injective AuditHashing.dumps)
    {a b : AuditEvent} {previous : Option String} (named : a.previousEventHash = b.previousEventHash) :
    calculateEventHash previous (canonicalPayload a) = calculateEventHash previous (canonicalPayload b) ↔
      SameContent a b := by
  rw [← payload_sorted_iff named, calculateEventHash, calculateEventHash, sha256.eq_iff, String.append_right_inj,
    canonicalJson, canonicalJson, dumps.eq_iff]

/-! ## Recording -/

structure EventArguments where
  action : String
  resourceType : String
  resourceId : Option String := none
  merchantId : Option String := none
  actorUserId : Option String := none
  actorRole : Option String := none
  actorType : String := "USER"
  requestId : Option String := none
  outcome : String := "SUCCESS"
  ipAddress : Option String := none
  metadata : Json := .null
  beforeSnapshot : Json := .null
  afterSnapshot : Json := .null
  timestamp : Option Instant := none

/-- The event `record_event` adds after those it sees. -/
def newEvent (visible : List AuditEvent) (id eventId : String) (now : Instant) (args : EventArguments) : AuditEvent :=
  let event : AuditEvent :=
    { id
      eventId
      merchantId := args.merchantId
      actorUserId := args.actorUserId
      actorRole := args.actorRole
      actorType := args.actorType
      action := args.action
      resourceType := args.resourceType
      resourceId := args.resourceId
      requestId := args.requestId
      timestamp := args.timestamp.getD now
      outcome := args.outcome
      ipAddress := args.ipAddress
      metadataJson := safe (orEmpty args.metadata)
      beforeSnapshot := safe args.beforeSnapshot
      afterSnapshot := safe args.afterSnapshot
      previousEventHash := (latest visible).map (·.eventHash)
      eventHash := "" }
  { event with eventHash := calculateEventHash event.previousEventHash (canonicalPayload event) }

inductive AuditError where
  /-- `ValueError`. -/
  | value (message : String)
  /-- `IntegrityError`. -/
  | integrity
deriving DecidableEq, Repr

def recordEvent (log : AuditLog) (transaction id eventId : String) (now : Instant) (args : EventArguments) :
    Except AuditError AuditLog :=
  if args.outcome ∉ outcomes then .error (.value ("Invalid audit outcome: " ++ args.outcome))
  else
    let event := newEvent (log.visible transaction) id eventId now args
    if free : event.id ∉ log.events.map (·.id) ∧ event.eventId ∉ log.events.map (·.eventId) ∧
        event.eventHash ∉ log.events.map (·.eventHash) then
      .ok (log.insert transaction event free.1 free.2.1 free.2.2)
    else .error .integrity

/-! ## Verification -/

def verifyFrom (previousHash : Option String) : List AuditEvent → Bool × Option String
  | [] => (true, none)
  | event :: rest =>
    if event.previousEventHash ≠ previousHash then (false, some event.eventId)
    else if event.eventHash ≠ calculateEventHash previousHash (canonicalPayload event) then (false, some event.eventId)
    else verifyFrom (some event.eventHash) rest

def verifyHashChain (events : List AuditEvent) : Bool × Option String := verifyFrom none (inOrder events)

/-- The hash of the event is that of its content. -/
def Sealed (event : AuditEvent) : Prop :=
  event.eventHash = calculateEventHash event.previousEventHash (canonicalPayload event)

abbrev Linked (start : Option String) (events : List AuditEvent) : Prop :=
  HashChain.Links AuditEvent.previousEventHash AuditEvent.eventHash start events

theorem verifyFrom_iff {start : Option String} {events : List AuditEvent} :
    verifyFrom start events = (true, none) ↔ Linked start events ∧ ∀ e ∈ events, Sealed e := by
  induction events generalizing start with
  | nil => simp [verifyFrom, HashChain.Links]
  | cons event rest ih =>
    simp only [verifyFrom, HashChain.Links, List.forall_mem_cons, Sealed]
    split
    · next broken =>
      constructor
      · intro valid
        simp at valid
      · exact fun holds => absurd holds.1.1 broken
    · next named =>
      have named := not_not.mp named
      subst named
      split
      · next forged =>
        constructor
        · intro valid
          simp at valid
        · exact fun holds => absurd holds.2.1 forged
      · next sealed =>
        rw [ih]
        constructor
        · rintro ⟨links, rest⟩
          exact ⟨⟨rfl, links⟩, not_not.mp sealed, rest⟩
        · rintro ⟨⟨_, links⟩, _, rest⟩
          exact ⟨links, rest⟩

theorem verifyFrom_true_iff {start : Option String} {events : List AuditEvent} :
    (verifyFrom start events).1 = true ↔ verifyFrom start events = (true, none) := by
  induction events generalizing start with
  | nil => simp [verifyFrom]
  | cons event rest ih =>
    simp only [verifyFrom]
    split
    · simp
    · split
      · simp
      · exact ih

theorem verifyHashChain_iff {events : List AuditEvent} :
    verifyHashChain events = (true, none) ↔ Linked none (inOrder events) ∧ ∀ e ∈ events, Sealed e := by
  rw [verifyHashChain, verifyFrom_iff]
  simp only [mem_inOrder]

theorem verifyHashChain_false_iff {events : List AuditEvent} :
    (verifyHashChain events).1 = false ↔ ¬verifyHashChain events = (true, none) := by
  rw [verifyHashChain, ← verifyFrom_true_iff, Bool.not_eq_true]

end Service

/-! ## Evaluation -/

namespace PlainText
open RCAA.PlainText

def intText (n : Int) : List Char := (if n < 0 then '-' else '+') :: marked (padded 0 n.natAbs)

theorem intText_append_inj {a b : Int} {rest rest' : List Char} (same : intText a ++ rest = intText b ++ rest') :
    a = b ∧ rest = rest' := by
  obtain ⟨signs, tail⟩ := List.cons.inj same
  obtain ⟨digits, rests⟩ := marked_append_inj tail
  have size := padded_injective 0 digits
  refine ⟨?_, rests⟩
  split at signs <;> split at signs <;> first
    | omega
    | exact absurd signs (by decide)

def optionText (text : α → List Char) : Option α → List Char
  | none => ['-']
  | some value => '+' :: text value

theorem optionText_append_inj {text : α → List Char} {a b : Option α} {rest rest' : List Char}
    (inner : ∀ {x y : α}, text x ++ rest = text y ++ rest' → x = y ∧ rest = rest')
    (same : optionText text a ++ rest = optionText text b ++ rest') : a = b ∧ rest = rest' := by
  cases a with
  | none =>
    cases b with
    | none => exact ⟨rfl, (List.cons.inj same).2⟩
    | some y => exact absurd (List.cons.inj same).1 (by decide)
  | some x =>
    cases b with
    | none => exact absurd (List.cons.inj same).1 (by decide)
    | some y =>
      obtain ⟨rfl, rests⟩ := inner (List.cons.inj same).2
      exact ⟨rfl, rests⟩

def ratText (q : Rat) : List Char := intText q.num ++ marked (padded 0 q.den)

theorem ratText_append_inj {a b : Rat} {rest rest' : List Char} (same : ratText a ++ rest = ratText b ++ rest') :
    a = b ∧ rest = rest' := by
  simp only [ratText, List.append_assoc] at same
  obtain ⟨num, tail⟩ := intText_append_inj same
  obtain ⟨den, rests⟩ := marked_append_inj tail
  exact ⟨Rat.ext num (padded_injective 0 den), rests⟩

def scalarText : Scalar → List Char
  | .null => ['n']
  | .bool b => ['b', if b then 't' else 'f']
  | .int n => 'i' :: intText n
  | .float text value => 'r' :: (marked text ++ optionText ratText value)
  | .str text => 's' :: marked text

theorem scalarText_append_inj {a b : Scalar} {rest rest' : List Char}
    (same : scalarText a ++ rest = scalarText b ++ rest') : a = b ∧ rest = rest' := by
  obtain ⟨tags, tail⟩ : (scalarText a).head? = (scalarText b).head? ∧ (scalarText a).tail ++ rest =
      (scalarText b).tail ++ rest' := by
    cases a <;> cases b <;> exact ⟨congrArg some (List.cons.inj same).1, (List.cons.inj same).2⟩
  cases a <;> cases b <;> simp only [scalarText, List.head?_cons, Option.some.injEq] at tags <;>
    first | exact absurd tags (by decide) | skip
  · exact ⟨rfl, tail⟩
  · next x y =>
    obtain ⟨letters, rests⟩ := List.cons.inj tail
    refine ⟨congrArg Scalar.bool ?_, rests⟩
    cases x <;> cases y <;> first | rfl | exact absurd letters (by decide)
  · obtain ⟨rfl, rests⟩ := intText_append_inj tail
    exact ⟨rfl, rests⟩
  · simp only [scalarText, List.tail_cons, List.append_assoc] at tail
    obtain ⟨rfl, value⟩ := marked_append_inj tail
    obtain ⟨rfl, rests⟩ := optionText_append_inj ratText_append_inj value
    exact ⟨rfl, rests⟩
  · obtain ⟨rfl, rests⟩ := marked_append_inj tail
    exact ⟨rfl, rests⟩

mutual

def documentText : Json → List Char
  | .scalar value => 'v' :: scalarText value
  | .timestamp value => '@' :: (intText value.wall ++ optionText intText value.offset)
  | .list items => '[' :: itemsText items
  | .object fields => '{' :: fieldsText fields

def itemsText : List Json → List Char
  | [] => [']']
  | item :: rest => ',' :: (documentText item ++ itemsText rest)

def fieldsText : List (String × Json) → List Char
  | [] => ['}']
  | (key, value) :: rest => ',' :: (marked key ++ (documentText value ++ fieldsText rest))

end

mutual

theorem documentText_append_inj {rest rest' : List Char} :
    (a b : Json) → documentText a ++ rest = documentText b ++ rest' → a = b ∧ rest = rest'
  | .scalar a, .scalar b, same => by
    obtain ⟨rfl, rests⟩ := scalarText_append_inj (List.cons.inj same).2
    exact ⟨rfl, rests⟩
  | .timestamp a, .timestamp b, same => by
    simp only [documentText, List.cons_append, List.append_assoc] at same
    obtain ⟨wall, tail⟩ := intText_append_inj (List.cons.inj same).2
    obtain ⟨offset, rests⟩ := optionText_append_inj intText_append_inj tail
    cases a
    cases b
    cases wall
    cases offset
    exact ⟨rfl, rests⟩
  | .list a, .list b, same => by
    obtain ⟨rfl, rests⟩ := itemsText_append_inj a b (List.cons.inj same).2
    exact ⟨rfl, rests⟩
  | .object a, .object b, same => by
    obtain ⟨rfl, rests⟩ := fieldsText_append_inj a b (List.cons.inj same).2
    exact ⟨rfl, rests⟩
  | .scalar _, .timestamp _, same | .scalar _, .list _, same | .scalar _, .object _, same
  | .timestamp _, .scalar _, same | .timestamp _, .list _, same | .timestamp _, .object _, same
  | .list _, .scalar _, same | .list _, .timestamp _, same | .list _, .object _, same
  | .object _, .scalar _, same | .object _, .timestamp _, same | .object _, .list _, same =>
    absurd (List.cons.inj same).1 (by decide)

theorem itemsText_append_inj {rest rest' : List Char} :
    (a b : List Json) → itemsText a ++ rest = itemsText b ++ rest' → a = b ∧ rest = rest'
  | [], [], same => ⟨rfl, (List.cons.inj same).2⟩
  | a :: as, b :: bs, same => by
    simp only [itemsText, List.cons_append, List.append_assoc] at same
    obtain ⟨rfl, tail⟩ := documentText_append_inj a b (List.cons.inj same).2
    obtain ⟨rfl, rests⟩ := itemsText_append_inj as bs tail
    exact ⟨rfl, rests⟩
  | [], _ :: _, same | _ :: _, [], same => absurd (List.cons.inj same).1 (by decide)

theorem fieldsText_append_inj {rest rest' : List Char} :
    (a b : List (String × Json)) → fieldsText a ++ rest = fieldsText b ++ rest' → a = b ∧ rest = rest'
  | [], [], same => ⟨rfl, (List.cons.inj same).2⟩
  | (key, a) :: as, (key', b) :: bs, same => by
    simp only [fieldsText, List.cons_append, List.append_assoc] at same
    obtain ⟨rfl, tail⟩ := marked_append_inj (List.cons.inj same).2
    obtain ⟨rfl, others⟩ := documentText_append_inj a b tail
    obtain ⟨rfl, rests⟩ := fieldsText_append_inj as bs others
    exact ⟨rfl, rests⟩
  | [], (_, _) :: _, same | (_, _) :: _, [], same => absurd (List.cons.inj same).1 (by decide)

end

/-- A text stands for its hash, and the parts of a document one after another for its text. -/
scoped instance documentHashing : AuditHashing where
  sha256 text := text
  dumps document := String.ofList (documentText document)

theorem sha256_injective : Function.Injective documentHashing.sha256 := Function.injective_id

theorem dumps_injective : Function.Injective documentHashing.dumps := by
  intro a b texts
  have same : documentText a ++ [] = documentText b ++ [] := by rw [String.ofList_inj.mp texts]
  exact (documentText_append_inj a b same).1

end PlainText
end RCAA.Audit
