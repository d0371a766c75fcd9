import Mathlib
import RCAA.Billing.Webhooks
import RCAA.Ingestion.SettlementMoney
import RCAA.Library.Outcome

/-! What one delivery can do: nothing, the update of the subscription it names with the
booking of its payment, or the ingestion of financial records. -/

namespace RCAA.Billing

section Tables

namespace Subscriptions

theorem columns_self {row stored : BillingSubscription} (id : row.id = stored.id)
    (merchantId : row.merchantId = stored.merchantId) : columns row stored = row := by
  simp only [columns, ← id, ← merchantId]

/-- The update of a row that keeps its provider and its subscription there, as a lookup
by them returns it. -/
theorem ofProvider?_put {table : Subscriptions} {row stored : BillingSubscription} (member : stored ∈ table.rows)
    (id : row.id = stored.id) (provider : row.provider = stored.provider)
    (named : row.providerSubscriptionId = stored.providerSubscriptionId) (subscriptionId : String) :
    (table.put row).ofProvider? subscriptionId =
      (table.ofProvider? subscriptionId).map fun a => if a.id = row.id then columns row a else a := by
  unfold ofProvider? put KeyedRows.update
  rw [List.find?_map]
  congr 1
  refine List.find?_congr fun a inside => ?_
  by_cases same : a.id = row.id
  · have this : stored = a :=
      KeyedRows.faithful_of_nodup BillingSubscription.id table.ids stored member a inside (id.symm.trans same.symm)
    subst this
    simp only [Function.comp_apply, if_pos same, columns, provider, named]
  · simp [same]

theorem ofProvider?_some {table : Subscriptions} {subscriptionId : String} {row : BillingSubscription}
    (found : table.ofProvider? subscriptionId = some row) :
    row ∈ table.rows ∧ row.provider = "RAZORPAY" ∧ row.providerSubscriptionId = some subscriptionId :=
  ⟨List.mem_of_find?_eq_some found, by simpa using List.find?_some found⟩

end Subscriptions

theorem WebhookEvents.insert_ok {table grown : WebhookEvents} {row : WebhookEvent} (added : table.insert row = .ok grown) :
    row.key ∉ table.rows.map (·.key) ∧ grown.rows = table.rows ++ [row] := by
  unfold insert at added
  split at added
  · next accepted =>
    cases added
    exact ⟨accepted, rfl⟩
  · cases added

theorem Ledger.note_ok {ledger noted : Ledger} {eventId eventType : String} (done : ledger.note eventId eventType = .ok noted) :
    noted.subscriptions = ledger.subscriptions ∧ noted.invoices = ledger.invoices ∧ noted.database = ledger.database ∧
      noted.events.rows = ledger.events.rows ++ [⟨"razorpay", eventId, eventType⟩] := by
  obtain ⟨events, inserted, rfl⟩ := Outcome.map_ok done
  exact ⟨rfl, rfl, rfl, (WebhookEvents.insert_ok inserted).2⟩

end Tables

section Webhooks
variable [WebhookRuntime] (settings : BillingSettings)

/-- The tables after a delivery. -/
def deliver (ledger : Ledger) (d : Delivery) : Ledger := (processRazorpayWebhook settings ledger d).2

/-- A delivery of the provider whose id is new. -/
structure Opened (ledger : Ledger) (d : Delivery) (payload : Json) (eventId eventType : String) : Prop where
  verified : verified settings d = .ok true
  loaded : WebhookRuntime.loads d.raw = some payload
  resolved : resolvedEventId d payload = .ok eventId
  fresh : ledger.events.get? "razorpay" eventId = none
  typed : eventTypeOf payload = .ok eventType

/-- What a delivery can do. -/
inductive Handled (ledger : Ledger) (d : Delivery) : Except Failure (Option WebhookReply) → Ledger → Prop
  | kept {reply} (answered : reply ≠ .ok (some .processed)) : Handled ledger d reply ledger
  | subscription {payload eventId eventType reply changed after} (opened : Opened settings ledger d payload eventId eventType)
      (branch : startsWith eventType "subscription." = true)
      (told : subscriptionEvent d.invoiceId d.now ledger eventType payload = .ok (reply, changed))
      (noted : changed.note eventId eventType = .ok after) : Handled ledger d (.ok (some reply)) after
  | financial {payload eventId eventType} (opened : Opened settings ledger d payload eventId eventType)
      (branch : startsWith eventType "subscription." = false) :
      Handled ledger d ((financialEvent d ledger eventId eventType payload).1.map some)
        (financialEvent d ledger eventId eventType payload).2

theorem handled (ledger : Ledger) (d : Delivery) :
    Handled settings ledger d (processRazorpayWebhook settings ledger d).1 (processRazorpayWebhook settings ledger d).2 := by
  unfold processRazorpayWebhook
  cases checked : verified settings d with
  | error failure => exact .kept nofun
  | ok answer =>
    cases answer with
    | false => exact .kept nofun
    | true =>
      cases loaded : WebhookRuntime.loads d.raw with
      | none => exact .kept nofun
      | some payload =>
        simp only
        cases resolved : resolvedEventId d payload with
        | error failure => exact .kept nofun
        | ok eventId =>
          simp only
          cases recorded : ledger.events.get? "razorpay" eventId with
          | some row => exact .kept (by simp)
          | none =>
            simp only [Option.isSome_none, Bool.false_eq_true, if_false]
            cases typed : eventTypeOf payload with
            | error failure =>
              simp only [handleEvent, typed]
              exact .kept nofun
            | ok eventType =>
              have opened : Opened settings ledger d payload eventId eventType := ⟨checked, loaded, resolved, recorded, typed⟩
              cases branch : startsWith eventType "subscription." with
              | false =>
                simp only [handleEvent, typed, branch, Bool.false_eq_true, if_false]
                exact .financial opened branch
              | true =>
                simp only [handleEvent, typed, branch, if_true]
                cases done : subscriptionBranch d ledger eventId eventType payload with
                | error failure => exact .kept nofun
                | ok result =>
                  obtain ⟨⟨reply, changed⟩, told, done⟩ := Outcome.bind_ok done
                  obtain ⟨after, noted, done⟩ := Outcome.bind_ok done
                  cases done
                  exact .subscription opened branch told noted

/-- The event that is told of a known subscription. -/
structure Told (invoiceId : String) (now : Int) (ledger : Ledger) (eventType : String) (payload : Json)
    (subscriptionId : String) (sub : BillingSubscription) (event : SubscriptionEvent) (changed : BillingSubscription)
    (invoices : Invoices) : Prop where
  type : event.eventType = eventType
  entity : entityOf payload "subscription" = .ok event.entity
  payment : entityOf payload "payment" = .ok event.payment
  createdAt : timeOf payload "created_at" = .ok event.createdAt
  named : queriedField event.entity "id" = .ok (some subscriptionId)
  known : ledger.subscriptions.ofProvider? subscriptionId = some sub
  updated : updated sub event = .ok changed
  booked : (if event.captured then bookPayment invoiceId now ledger.invoices changed event.payment
    else .ok ledger.invoices) = .ok invoices

theorem subscriptionEvent_cases {invoiceId : String} {now : Int} {ledger after : Ledger} {eventType : String} {payload : Json}
    {reply : WebhookReply} (done : subscriptionEvent invoiceId now ledger eventType payload = .ok (reply, after)) :
    ((∃ reason, reply = .ignored reason) ∧ after = ledger) ∨
      ∃ subscriptionId sub event changed invoices,
        Told invoiceId now ledger eventType payload subscriptionId sub event changed invoices ∧ reply = .processed ∧
          after = { ledger with subscriptions := ledger.subscriptions.put changed, invoices } := by
  obtain ⟨entity, entityRead, done⟩ := Outcome.bind_ok done
  split at done
  · cases done
    exact .inl ⟨⟨_, rfl⟩, rfl⟩
  · obtain ⟨found, lookup, done⟩ := Outcome.bind_ok done
    obtain ⟨named, namedRead, known⟩ := Outcome.bind_ok lookup
    cases known
    cases named with
    | none =>
      cases done
      exact .inl ⟨⟨_, rfl⟩, rfl⟩
    | some subscriptionId =>
      simp only [Option.bind_some] at done
      cases known : ledger.subscriptions.ofProvider? subscriptionId with
      | none =>
        rw [known] at done
        cases done
        exact .inl ⟨⟨_, rfl⟩, rfl⟩
      | some sub =>
        rw [known] at done
        obtain ⟨createdAt, createdRead, done⟩ := Outcome.bind_ok done
        obtain ⟨payment, paymentRead, done⟩ := Outcome.bind_ok done
        obtain ⟨changed, changedRead, done⟩ := Outcome.bind_ok done
        split at done
        · next captured =>
          obtain ⟨invoices, booked, done⟩ := Outcome.bind_ok done
          cases done
          exact .inr ⟨subscriptionId, sub, ⟨eventType, createdAt, entity, payment⟩, changed, invoices,
            ⟨rfl, entityRead, paymentRead, createdRead, namedRead, known, changedRead, (if_pos captured).trans booked⟩, rfl, rfl⟩
        · next uncaptured =>
          cases done
          exact .inr ⟨subscriptionId, sub, ⟨eventType, createdAt, entity, payment⟩, changed, ledger.invoices,
            ⟨rfl, entityRead, paymentRead, createdRead, namedRead, known, changedRead, if_neg uncaptured⟩, rfl, rfl⟩

/-- What the ingestion of an event leaves: the tables, or a database with its record. -/
theorem ingestEvent_after (d : Delivery) (ledger : Ledger) (eventType : String) (payload : Json) :
    (ingestEvent d ledger eventType payload).2 = ledger ∨ ∃ entity recordType fields,
      financialEntity payload = .ok entity ∧ recordTypeOf eventType = some recordType ∧ scalars entity = .ok fields ∧
      (ingestEvent d ledger eventType payload).2 = { ledger with
        database := (ingestProviderPayload d.draws ⟨ledger.database, ledger.database⟩ [fields] recordType
          "razorpay_webhook" none).2.durable } := by
  unfold ingestEvent
  cases found : financialEntity payload with
  | error failure => exact .inl rfl
  | ok entity =>
    cases type : recordTypeOf eventType with
    | none => exact .inl rfl
    | some recordType =>
      simp only
      split
      · cases read : scalars entity with
        | error failure => exact .inl rfl
        | ok fields => exact .inr ⟨entity, recordType, fields, rfl, rfl, read, rfl⟩
      · exact .inl rfl

/-- After the ingestion the event is noted, or nothing more happens. -/
theorem financialEvent_after (d : Delivery) (ledger : Ledger) (eventId eventType : String) (payload : Json) :
    (financialEvent d ledger eventId eventType payload).2 = (ingestEvent d ledger eventType payload).2 ∨
      (ingestEvent d ledger eventType payload).2.note eventId eventType =
        .ok (financialEvent d ledger eventId eventType payload).2 := by
  unfold financialEvent
  generalize ingestEvent d ledger eventType payload = result
  obtain ⟨outcome, grown⟩ := result
  cases outcome with
  | error failure => exact .inl rfl
  | ok outcome =>
    cases outcome with
    | error error => cases error <;> exact .inl rfl
    | ok ingested =>
      cases noted : grown.note eventId eventType with
      | error failure => exact .inl (by simp only [noted])
      | ok after => exact .inr (by simp only [noted])

theorem ingestEvent_kept (d : Delivery) (ledger : Ledger) (eventType : String) (payload : Json) :
    (ingestEvent d ledger eventType payload).2.subscriptions = ledger.subscriptions ∧
      (ingestEvent d ledger eventType payload).2.invoices = ledger.invoices ∧
      (ingestEvent d ledger eventType payload).2.events = ledger.events := by
  rcases ingestEvent_after d ledger eventType payload with same | ⟨_, _, _, _, _, _, grown⟩
  · rw [same]
    exact ⟨rfl, rfl, rfl⟩
  · rw [grown]
    exact ⟨rfl, rfl, rfl⟩

/-- Financial records change no subscription and no invoice. -/
theorem financialEvent_kept (d : Delivery) (ledger : Ledger) (eventId eventType : String) (payload : Json) :
    (financialEvent d ledger eventId eventType payload).2.subscriptions = ledger.subscriptions ∧
      (financialEvent d ledger eventId eventType payload).2.invoices = ledger.invoices := by
  obtain ⟨subscriptions, invoices, _⟩ := ingestEvent_kept d ledger eventType payload
  rcases financialEvent_after d ledger eventId eventType payload with same | noted
  · rw [same]
    exact ⟨subscriptions, invoices⟩
  · obtain ⟨subscriptions', invoices', _⟩ := Ledger.note_ok noted
    exact ⟨subscriptions'.trans subscriptions, invoices'.trans invoices⟩

/-- No event is forgotten. -/
theorem deliver_events (ledger : Ledger) (d : Delivery) : ledger.events.rows <+: (deliver settings ledger d).events.rows := by
  unfold deliver
  have what := handled settings ledger d
  generalize processRazorpayWebhook settings ledger d = result at what ⊢
  obtain ⟨reply, after⟩ := result
  cases what with
  | kept answered => exact List.prefix_refl _
  | subscription opened branch told noted =>
    obtain ⟨_, _, _, events⟩ := Ledger.note_ok noted
    rcases subscriptionEvent_cases told with ⟨_, rfl⟩ | ⟨_, _, _, _, _, _, _, rfl⟩ <;> exact ⟨_, events.symm⟩
  | @financial payload eventId eventType opened branch =>
    obtain ⟨_, _, ingested⟩ := ingestEvent_kept d ledger eventType payload
    rcases financialEvent_after d ledger eventId eventType payload with same | noted
    · simp only [same, ingested]
      exact List.prefix_refl _
    · obtain ⟨_, _, _, events⟩ := Ledger.note_ok noted
      simp only [events, ingested]
      exact List.prefix_append _ _

end Webhooks
end RCAA.Billing

namespace RCAA.PlainText
open Billing

mutual

/-- The text of a document whose texts need no escape. -/
def jsonText : Json → List Char
  | .scalar (.str text) => '"' :: text.toList ++ ['"']
  | .scalar .null => ['n', 'u', 'l', 'l']
  | .scalar value => value.text.toList
  | .timestamp _ => []
  | .list items => '[' :: [','].intercalate (itemTexts items) ++ [']']
  | .object fields => '\x7b' :: [','].intercalate (fieldTexts fields) ++ ['\x7d']

def itemTexts : List Json → List (List Char)
  | [] => []
  | item :: rest => jsonText item :: itemTexts rest

def fieldTexts : List (String × Json) → List (List Char)
  | [] => []
  | (key, value) :: rest => ('"' :: key.toList ++ '"' :: ':' :: jsonText value) :: fieldTexts rest

end

def jsonBytes (document : Json) : List UInt8 := (jsonText document).map fun c => .ofNat c.toNat

/-- A short stand-in for a digest. -/
def digest (data : List UInt8) : String := padded 4 (data.foldl (fun n b => (31 * n + b.toNat) % 9973) 0)

/-- A parser of the texts of some documents. -/
@[reducible] def plainWebhooks (documents : List Json) : WebhookRuntime where
  toProviderRuntime := plainProviders
  loads raw := documents.find? fun document => jsonBytes document = raw
  hmacSha256 _ body := digest body
  sha256 := digest
  sourceAllowed allowed clientIp := some (allowed.contains clientIp)

/-- The entity of an event with its fields. -/
def entityJson (fields : List (String × Scalar)) : Json :=
  .object [("entity", .object (fields.map fun entry => (entry.1, .scalar entry.2)))]

def eventJson (eventType : String) (createdAt : Int) (payload : List (String × Json)) : Json :=
  .object [("event", .str eventType), ("created_at", .scalar (.int createdAt)), ("payload", .object payload)]

/-- A document as the provider delivers it, signed. -/
def delivery (document : Json) (eventId : Option String) (invoiceId : String) : Delivery where
  raw := jsonBytes document
  signature := some (digest (jsonBytes document))
  eventId
  now := 1704110400000000
  invoiceId
  draws := importDraws

def billingSettings : BillingSettings := { razorpayWebhookSecret := "whsec" }

def soldSubscription : BillingSubscription where
  id := "s1"
  merchantId := "m1"
  planCode := "GROWTH"
  monthlyPrice := ⟨2499900, -2⟩
  currentPeriodStart := 0
  currentPeriodEnd := 0
  provider := "RAZORPAY"
  providerSubscriptionId := some "sub_1"

def soldLedger : Ledger := { subscriptions := { rows := [soldSubscription] } }

end RCAA.PlainText
