import RCAA.Billing.Deliveries
import RCAA.Library.Runs

/-! One body delivered again. A body of financial records is known by the key of its
record; the event of a subscription is known only by the event id, which the signature
does not cover. -/

namespace RCAA.Billing

section Ingestion
variable [ProviderRuntime]

/-- The record an entity of the provider is adapted to. -/
def adapted (recordType : RecordType) (fields : RawData) : Except IngestError Dict :=
  match recordType with
  | .payment => normalizePayment fields
  | .refund => normalizeRefund fields
  | .settlement => normalizeSettlement fields
  | .bankTransaction => invalid ("unsupported provider record_type: " ++ recordType.name)

theorem ingestProviderPayload_one (draws : Draws) (session : Session) (fields : RawData) (recordType : RecordType)
    (source : String) (merchantId : Option String) :
    ingestProviderPayload draws session [fields] recordType source merchantId = match adapted recordType fields with
      | .error error => (.error error, session)
      | .ok data => ingestRecords draws session [data] source recordType (some "razorpay") merchantId true := by
  have one {read : RawData → Except IngestError Dict} : [fields].mapM read = (read fields).map fun data => [data] := by
    cases adapted : read fields <;> simp [adapted] <;> rfl
  unfold ingestProviderPayload adapted
  cases recordType with
  | payment =>
    simp only [one]
    cases normalizePayment fields <;> rfl
  | refund =>
    simp only [one]
    cases normalizeRefund fields <;> rfl
  | settlement =>
    simp only [one]
    cases normalizeSettlement fields <;> rfl
  | bankTransaction => rfl

/-- The ingestion of one entity leaves the rows alone or adds the key of its record. -/
theorem ingestOne (draws : Draws) (database : Database) (fields : RawData) (recordType : RecordType) (source : String)
    (merchantId : Option String) {after : Database}
    (ran : (ingestProviderPayload draws ⟨database, database⟩ [fields] recordType source merchantId).2.durable = after) :
    after.store = database.store ∨ ∃ data received record, adapted recordType fields = .ok data ∧
      normalizeRecord data source recordType (some "razorpay") received = .ok record ∧
      record.key ∉ database.store.keys ∧ record.key ∈ after.store.keys ∧ database.store.keys ⊆ after.store.keys := by
  rw [ingestProviderPayload_one] at ran
  cases read : adapted recordType fields with
  | error error =>
    rw [read] at ran
    exact .inl (congrArg Database.store ran.symm)
  | ok data =>
    simp only [read] at ran
    rw [ingestRecords_settled] at ran
    subst ran
    generalize call : ingestRecords draws ⟨database, database⟩ [data] source recordType (some "razorpay") merchantId true = result
    obtain ⟨outcome, session⟩ := result
    cases outcome with
    | error error =>
      refine .inl ?_
      rcases failed_unchanged call with kept | kept <;> exact kept
    | ok report =>
      obtain ⟨records, progress, written, parsed, done, _, _, _, stored⟩ := ran_persisted call
      obtain ⟨record, others, one, last, rfl⟩ := Outcome.mapM_ok_cons parsed
      cases last
      rw [stored]
      rcases persistAll_singleton done with ⟨_, kept⟩ | ⟨new, present⟩
      · exact .inl kept
      · exact .inr ⟨data, _, record, rfl, one, new, present, (persistAll_kept done).2.keys_subset⟩

end Ingestion

section Webhooks
variable [WebhookRuntime] (settings : BillingSettings)

/-! ## Bodies -/

/-- The body is an event of a subscription that is known. -/
def TellsKnown (ledger : Ledger) (raw : List UInt8) : Prop :=
  ∃ payload eventType entity sub, WebhookRuntime.loads raw = some payload ∧ eventTypeOf payload = .ok eventType ∧
    startsWith eventType "subscription." = true ∧ entityOf payload "subscription" = .ok entity ∧
    knownSubscription ledger.subscriptions entity = .ok (some sub)

/-- The body is an event of the record with a key. -/
def Books (raw : List UInt8) (key : TableKey) : Prop :=
  ∃ payload eventType entity recordType fields data received record,
    WebhookRuntime.loads raw = some payload ∧ eventTypeOf payload = .ok eventType ∧
    startsWith eventType "subscription." = false ∧ financialEntity payload = .ok entity ∧
    recordTypeOf eventType = some recordType ∧ scalars entity = .ok fields ∧ adapted recordType fields = .ok data ∧
    normalizeRecord data "razorpay_webhook" recordType (some "razorpay") received = .ok record ∧ record.key = key

theorem Books.unique {raw : List UInt8} {first second : TableKey} (one : Books raw first) (two : Books raw second) :
    first = second := by
  obtain ⟨_, _, _, _, _, _, _, _, loaded, typed, _, found, type, read, made, normalized, rfl⟩ := one
  obtain ⟨_, _, _, _, _, _, _, _, loaded', typed', _, found', type', read', made', normalized', rfl⟩ := two
  cases loaded.symm.trans loaded'
  cases typed.symm.trans typed'
  cases found.symm.trans found'
  cases type.symm.trans type'
  cases read.symm.trans read'
  cases made.symm.trans made'
  exact normalizeRecord_key normalized normalized'

theorem Books.not_told {raw : List UInt8} {key : TableKey} (books : Books raw key) (ledger : Ledger) : ¬TellsKnown ledger raw := by
  obtain ⟨_, _, _, _, _, _, _, _, loaded, typed, branch, _⟩ := books
  rintro ⟨_, _, _, _, loaded', typed', branch', _⟩
  cases loaded.symm.trans loaded'
  cases typed.symm.trans typed'
  cases branch.symm.trans branch'

/-! ## Effects -/

/-- A delivery changes subscriptions, invoices or financial rows. -/
def TakesEffect (ledger : Ledger) (d : Delivery) : Prop :=
  ¬((deliver settings ledger d).subscriptions = ledger.subscriptions ∧ (deliver settings ledger d).invoices = ledger.invoices ∧
    (deliver settings ledger d).database.store = ledger.database.store)

/-- The event id of a delivery is recorded. -/
def Recorded (ledger : Ledger) (d : Delivery) : Prop :=
  ∃ payload eventId, WebhookRuntime.loads d.raw = some payload ∧ resolvedEventId d payload = .ok eventId ∧
    (ledger.events.get? "razorpay" eventId).isSome

variable {settings} {ledger : Ledger} {d : Delivery}

omit [WebhookRuntime] in
theorem get?_isSome_iff {table : WebhookEvents} {provider eventId : String} :
    (table.get? provider eventId).isSome ↔ ∃ row ∈ table.rows, row.key = (provider, eventId) := by
  simp [WebhookEvents.get?, List.find?_isSome]

theorem Recorded.later (recorded : Recorded ledger d) {after : Ledger} (grown : ledger.events.rows <+: after.events.rows) :
    Recorded after d := by
  obtain ⟨payload, eventId, loaded, resolved, found⟩ := recorded
  obtain ⟨row, member, same⟩ := get?_isSome_iff.mp found
  exact ⟨payload, eventId, loaded, resolved, get?_isSome_iff.mpr ⟨row, grown.subset member, same⟩⟩

theorem Opened.unrecorded {payload : Json} {eventId eventType : String} (opened : Opened settings ledger d payload eventId eventType) :
    ¬Recorded ledger d := by
  rintro ⟨payload', eventId', loaded, resolved, found⟩
  cases opened.loaded.symm.trans loaded
  cases opened.resolved.symm.trans resolved
  rw [opened.fresh] at found
  cases found

theorem Told.knownSubscription {invoiceId : String} {now : Int} {eventType : String} {payload : Json} {named : String}
    {sub changed : BillingSubscription} {event : SubscriptionEvent} {invoices : Invoices}
    (told : Told invoiceId now ledger eventType payload named sub event changed invoices) :
    knownSubscription ledger.subscriptions event.entity = .ok (some sub) := by
  simp only [Billing.knownSubscription, told.named]
  exact congrArg Except.ok told.known

/-- An event of financial records leaves the rows alone or adds the key of its record. -/
theorem financialEvent_store {payload : Json} {eventId eventType : String} (opened : Opened settings ledger d payload eventId eventType)
    (branch : startsWith eventType "subscription." = false) {after : Ledger}
    (done : (financialEvent d ledger eventId eventType payload).2 = after) :
    after.database.store = ledger.database.store ∨ ∃ key, Books d.raw key ∧ key ∉ ledger.database.store.keys ∧
      key ∈ after.database.store.keys ∧ ledger.database.store.keys ⊆ after.database.store.keys := by
  have database : after.database = (ingestEvent d ledger eventType payload).2.database := by
    rcases financialEvent_after d ledger eventId eventType payload with same | noted
    · rw [← done, same]
    · rw [← done, (Ledger.note_ok noted).2.2.1]
  rcases ingestEvent_after d ledger eventType payload with same | ⟨entity, recordType, fields, found, type, read, grown⟩
  · exact .inl (by rw [database, same])
  · rw [grown] at database
    rcases ingestOne d.draws ledger.database fields recordType "razorpay_webhook" none database.symm with
      kept | ⟨data, received, record, made, normalized, new, present, whole⟩
    · exact .inl kept
    · exact .inr ⟨record.key, ⟨payload, eventType, entity, recordType, fields, data, received, record, opened.loaded,
        opened.typed, branch, found, type, read, made, normalized, rfl⟩, new, present, whole⟩

/-- What a delivery that takes effect is: an event of a known subscription under a new id,
or a record whose key is new. -/
theorem takesEffect_cases (effect : TakesEffect settings ledger d) :
    (verified settings d = .ok true ∧ TellsKnown ledger d.raw ∧ ¬Recorded ledger d ∧ Recorded (deliver settings ledger d) d) ∨
      ∃ key, Books d.raw key ∧ key ∉ ledger.database.store.keys ∧ key ∈ (deliver settings ledger d).database.store.keys := by
  have what := handled settings ledger d
  unfold TakesEffect deliver at effect
  unfold deliver
  generalize processRazorpayWebhook settings ledger d = result at what effect ⊢
  obtain ⟨reply, after⟩ := result
  cases what with
  | kept answered => exact absurd ⟨rfl, rfl, rfl⟩ effect
  | @subscription payload eventId eventType reply changed after opened branch told noted =>
    obtain ⟨subscriptions, invoices, database, events⟩ := Ledger.note_ok noted
    refine .inl ⟨opened.verified, ?_, opened.unrecorded, payload, eventId, opened.loaded, opened.resolved, ?_⟩
    · rcases subscriptionEvent_cases told with ⟨_, rfl⟩ | ⟨named, sub, event, changed, _, told, _, _⟩
      · exact absurd ⟨subscriptions, invoices, congrArg Database.store database⟩ effect
      · exact ⟨payload, eventType, event.entity, sub, opened.loaded, opened.typed, branch, told.entity, told.knownSubscription⟩
    · exact get?_isSome_iff.mpr ⟨_, by rw [events]; exact List.mem_append_right _ (List.mem_singleton_self _), rfl⟩
  | @financial payload eventId eventType opened branch =>
    obtain ⟨subscriptions, invoices⟩ := financialEvent_kept d ledger eventId eventType payload
    rcases financialEvent_store opened branch rfl with kept | ⟨key, books, new, present, _⟩
    · exact absurd ⟨subscriptions, invoices, kept⟩ effect
    · exact .inr ⟨key, books, new, present⟩

/-- No row's key is forgotten. -/
theorem deliver_keys (ledger : Ledger) (d : Delivery) :
    ledger.database.store.keys ⊆ (deliver settings ledger d).database.store.keys := by
  have what := handled settings ledger d
  unfold deliver
  generalize processRazorpayWebhook settings ledger d = result at what ⊢
  obtain ⟨reply, after⟩ := result
  cases what with
  | kept answered => exact List.Subset.refl _
  | subscription opened branch told noted =>
    obtain ⟨_, _, database, _⟩ := Ledger.note_ok noted
    refine fun key member => ?_
    rw [database]
    rcases subscriptionEvent_cases told with ⟨_, rfl⟩ | ⟨_, _, _, _, _, _, _, rfl⟩ <;> exact member
  | @financial payload eventId eventType opened branch =>
    rcases financialEvent_store opened branch rfl with kept | ⟨_, _, _, _, whole⟩
    · simp only [kept]
      exact List.Subset.refl _
    · exact whole

/-! ## Runs -/

theorem Recorded.run (recorded : Recorded ledger d) (deliveries : List Delivery) :
    Recorded (Runs.run (deliver settings) ledger deliveries) d := by
  have kept : ∀ (ledger : Ledger) (next : Delivery), Recorded ledger d → Recorded (deliver settings ledger next) d :=
    fun ledger next recorded => recorded.later (deliver_events settings ledger next)
  exact Runs.invariant kept recorded deliveries

variable (settings) in
/-- The body of an event of a known subscription, once processed, is not delivered again
under an event id that is not recorded. -/
def ReplaysRecorded (ledger : Ledger) (deliveries : List Delivery) : Prop :=
  ∀ before first between second after, deliveries = before ++ first :: (between ++ second :: after) →
    first.raw = second.raw → verified settings second = .ok true →
    TellsKnown (Runs.run (deliver settings) ledger before) first.raw →
    ¬Recorded (Runs.run (deliver settings) ledger before) first →
    Recorded (Runs.run (deliver settings) ledger (before ++ [first])) first →
    TellsKnown (Runs.run (deliver settings) ledger (before ++ first :: between)) second.raw →
    Recorded (Runs.run (deliver settings) ledger (before ++ first :: between)) second

/-- In such a run each body takes effect at most once. -/
theorem body_takes_effect_once {deliveries : List Delivery} (recorded : ReplaysRecorded settings ledger deliveries)
    {before between after : List Delivery} {first second : Delivery}
    (split : deliveries = before ++ first :: (between ++ second :: after)) (same : first.raw = second.raw)
    (effect : TakesEffect settings (Runs.run (deliver settings) ledger before) first) :
    ¬TakesEffect settings (Runs.run (deliver settings) ledger (before ++ first :: between)) second := by
  intro again
  have reached : Runs.run (deliver settings) ledger (before ++ first :: between) =
      Runs.run (deliver settings) (deliver settings (Runs.run (deliver settings) ledger before) first) between := by
    rw [Runs.run_append, Runs.run_cons]
  have middle : Runs.run (deliver settings) ledger (before ++ [first]) =
      deliver settings (Runs.run (deliver settings) ledger before) first := by
    rw [Runs.run_append, Runs.run_cons, Runs.run_nil]
  rcases takesEffect_cases effect with ⟨_, told, new, now⟩ | ⟨key, books, _, present⟩
  · rcases takesEffect_cases again with ⟨signed, retold, unrecorded, _⟩ | ⟨key, books, _⟩
    · exact unrecorded (recorded before first between second after split same signed told new (by rwa [middle]) retold)
    · exact books.not_told _ (by rw [← same]; exact told)
  · rcases takesEffect_cases again with ⟨_, retold, _⟩ | ⟨key', books', new, _⟩
    · exact books.not_told _ (by rw [same]; exact retold)
    · rw [← same] at books'
      obtain rfl := books.unique books'
      have kept : ∀ (ledger : Ledger) (next : Delivery), key ∈ ledger.database.store.keys →
          key ∈ (deliver settings ledger next).database.store.keys := fun ledger next member => deliver_keys ledger next member
      refine new ?_
      rw [reached]
      exact Runs.invariant kept present between

/-- Deliveries that give one body one event id, as those without a header do, are such a run. -/
theorem replaysRecorded_of_resolved {deliveries : List Delivery}
    (one : ∀ first ∈ deliveries, ∀ second ∈ deliveries, first.raw = second.raw →
      ∀ payload, WebhookRuntime.loads first.raw = some payload → resolvedEventId first payload = resolvedEventId second payload) :
    ReplaysRecorded settings ledger deliveries := by
  rintro before first between second after rfl same _ _ _ ⟨payload, eventId, loaded, resolved, found⟩ _
  have here : Recorded (Runs.run (deliver settings) ledger (before ++ [first])) second :=
    ⟨payload, eventId, by rw [← same]; exact loaded,
      by rw [← one first (by simp) second (by simp) same payload loaded]; exact resolved, found⟩
  rw [List.append_cons, Runs.run_append]
  exact here.run between

end Webhooks

section Examples
open PlainText

def capturedCharge : Json := eventJson "subscription.charged" 100
  [("subscription", entityJson [("id", .str "sub_1"), ("status", .str "active")]),
    ("payment", entityJson [("id", .str "pay_1"), ("status", .str "captured"), ("amount", .int 2499900)])]

local instance eventsOfOne : WebhookRuntime := plainWebhooks [capturedCharge]

def firstCharge : Delivery := delivery capturedCharge (some "evt_1") "i1"

theorem firstCharge_takesEffect : TakesEffect billingSettings soldLedger firstCharge :=
  fun same => absurd (congrArg (fun table : Invoices => table.rows.length) same.2.1) (by decide +kernel)

theorem body_takes_effect_once_under_one_id :
    ¬TakesEffect billingSettings (Runs.run (deliver billingSettings) soldLedger [firstCharge])
      (delivery capturedCharge (some "evt_1") "i2") := by
  have recorded : ReplaysRecorded billingSettings soldLedger [firstCharge, delivery capturedCharge (some "evt_1") "i2"] := by
    refine replaysRecorded_of_resolved fun first member second inside _ payload _ => ?_
    have header : ∀ d ∈ [firstCharge, delivery capturedCharge (some "evt_1") "i2"], d.eventId = some "evt_1" := by
      simp [firstCharge, delivery]
    have given : Option.filter (· ≠ "") (some "evt_1") = some "evt_1" := by decide
    simp only [resolvedEventId, header first member, header second inside, given]
  have split : [firstCharge, delivery capturedCharge (some "evt_1") "i2"] =
      [] ++ firstCharge :: ([] ++ delivery capturedCharge (some "evt_1") "i2" :: []) := by simp only [List.nil_append]
  have same : firstCharge.raw = (delivery capturedCharge (some "evt_1") "i2").raw := by simp only [firstCharge, delivery]
  have effect : TakesEffect billingSettings (Runs.run (deliver billingSettings) soldLedger []) firstCharge := by
    rw [Runs.run_nil]
    exact firstCharge_takesEffect
  have once := body_takes_effect_once recorded split same effect
  simpa only [List.nil_append] using once

/-- Delivered again without a header, the charge makes and pays a second invoice. -/
theorem replayed_charge_takes_effect : ¬∀ (settings : BillingSettings) (ledger : Ledger) (before between : List Delivery)
    (first second : Delivery), first.raw = second.raw → TakesEffect settings (Runs.run (deliver settings) ledger before) first →
    ¬TakesEffect settings (Runs.run (deliver settings) ledger (before ++ first :: between)) second := by
  intro law
  refine law billingSettings soldLedger [] [] firstCharge (delivery capturedCharge none "i2") rfl firstCharge_takesEffect ?_
  exact fun same => absurd (congrArg (fun table : Invoices => table.rows.length) same.2.1) (by decide +kernel)

end Examples
end RCAA.Billing
