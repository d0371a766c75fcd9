import RCAA.Billing.Checkout
import RCAA.Billing.Monotonic
import RCAA.Billing.Redelivery

/-! Payments on invoices, over runs of checkouts and deliveries: no payment on two
invoices, no invoice with two payments, and paid invoices of the captured amount, as long
as each captured payment is booked where it belongs. -/

namespace RCAA.Billing

/-! ## Invoices -/

/-- No payment is on two invoices. -/
def Unshared (invoices : Invoices) : Prop :=
  ∀ a ∈ invoices.rows, ∀ b ∈ invoices.rows, ∀ payment, a.providerPaymentId = some payment →
    b.providerPaymentId = some payment → a.id = b.id

/-- Every invoice keeps the payment it has. -/
def KeepsPayments (before after : Invoices) : Prop :=
  ∀ row ∈ before.rows, ∀ payment, row.providerPaymentId = some payment →
    ∃ row' ∈ after.rows, row'.id = row.id ∧ row'.providerPaymentId = some payment

theorem KeepsPayments.of_subset {before after : Invoices} (whole : before.rows ⊆ after.rows) : KeepsPayments before after :=
  fun row member _ has => ⟨row, whole member, rfl, has⟩

theorem Invoices.insert_ok {table grown : Invoices} {row : BillingInvoice} (added : table.insert row = .ok grown) :
    grown.rows = table.rows ++ [stored row] := by
  unfold insert at added
  split at added
  · cases added
    rfl
  · cases added

/-- An invoice without a payment shares none. -/
theorem Unshared.snoc {invoices grown : Invoices} {row : BillingInvoice} (unshared : Unshared invoices)
    (rows : grown.rows = invoices.rows ++ [row]) (unpaid : row.providerPaymentId = none) : Unshared grown := by
  have inside : ∀ a ∈ grown.rows, ∀ payment, a.providerPaymentId = some payment → a ∈ invoices.rows := by
    intro a member payment has
    rw [rows] at member
    rcases List.mem_append.mp member with old | last
    · exact old
    · rw [List.mem_singleton.mp last, unpaid] at has
      cases has
  exact fun a memberA b memberB payment hasA hasB =>
    unshared a (inside a memberA payment hasA) b (inside b memberB payment hasB) payment hasA hasB

section Booking
variable [WebhookRuntime]

theorem openInvoice_mem {invoices : Invoices} {sub : BillingSubscription} {payment : RawData} {target : BillingInvoice}
    (opened : openInvoice invoices sub payment = .ok (some target)) : target ∈ invoices.rows := by
  obtain ⟨named, _, opened⟩ := Outcome.bind_ok opened
  have found := Except.ok.inj opened
  cases lookup : named.bind invoices.ofProvider? with
  | some invoice =>
    rw [lookup] at found
    cases found
    obtain ⟨_, _, lookup⟩ := Option.bind_eq_some_iff.mp lookup
    exact List.mem_of_find?_eq_some lookup
  | none =>
    rw [lookup] at found
    exact (List.mem_filter.mp (List.argmax_mem found)).1

theorem openInvoice_congr {invoices : Invoices} {sub changed : BillingSubscription} {payment : RawData} (id : changed.id = sub.id) :
    openInvoice invoices changed payment = openInvoice invoices sub payment := by
  simp only [openInvoice, id]

/-- Where a captured payment is booked: on a stored invoice, or on one made of its amount. -/
structure BookedOn (invoices : Invoices) (sub : BillingSubscription) (payment : RawData) (target : BillingInvoice)
    (grown : Invoices) : Prop where
  member : target ∈ grown.rows
  source : (openInvoice invoices sub payment = .ok (some target) ∧ grown = invoices) ∨
    (openInvoice invoices sub payment = .ok none ∧ grown.rows = invoices.rows ++ [target] ∧ target.providerPaymentId = none ∧
      ∃ amount, chargedAmount payment = .ok amount ∧ target.total = amount.money)

theorem invoiceFor_bookedOn {invoiceId id : String} {now : Int} {invoices grown : Invoices} {sub : BillingSubscription}
    {payment : RawData} (done : invoiceFor invoiceId now invoices sub payment = .ok (id, grown)) :
    ∃ target, target.id = id ∧ BookedOn invoices sub payment target grown := by
  obtain ⟨found, opened, done⟩ := Outcome.bind_ok done
  cases found with
  | some target =>
    cases done
    exact ⟨target, rfl, openInvoice_mem opened, .inl ⟨opened, rfl⟩⟩
  | none =>
    obtain ⟨made, making, done⟩ := Outcome.bind_ok done
    obtain ⟨grown, inserted, done⟩ := Outcome.bind_ok done
    cases done
    have rows := Invoices.insert_ok inserted
    obtain ⟨amount, charged, making⟩ := Outcome.bind_ok making
    obtain ⟨currency, _, making⟩ := Outcome.bind_ok making
    cases currency with
    | none => cases making
    | some currency =>
      cases making
      refine ⟨Invoices.stored _, rfl, by rw [rows]; exact List.mem_append_right _ (List.mem_singleton_self _), ?_⟩
      exact .inr ⟨opened, rows, rfl, amount, charged, rfl⟩

/-- What the booking of a captured payment does. -/
theorem bookPayment_ok {invoiceId : String} {now : Int} {invoices after : Invoices} {sub : BillingSubscription}
    {payment : RawData} (done : bookPayment invoiceId now invoices sub payment = .ok after) :
    ∃ target grown providerInvoiceId paymentId, BookedOn invoices sub payment target grown ∧
      textField payment "id" = .ok paymentId ∧ after = grown.pay target.id now providerInvoiceId paymentId := by
  obtain ⟨⟨id, grown⟩, found, done⟩ := Outcome.bind_ok done
  obtain ⟨providerInvoiceId, _, done⟩ := Outcome.bind_ok done
  obtain ⟨paymentId, read, done⟩ := Outcome.bind_ok done
  cases done
  obtain ⟨target, rfl, booked⟩ := invoiceFor_bookedOn found
  exact ⟨target, grown, providerInvoiceId, paymentId, booked, read, rfl⟩

/-- A captured payment that belongs where it is booked: the invoice is of its amount, it
has no other payment, and no other invoice has this one. -/
structure CleanCharge (invoices : Invoices) (sub : BillingSubscription) (payment : RawData) : Prop where
  amount : ∃ amount, chargedAmount payment = .ok amount ∧
    (∀ target, openInvoice invoices sub payment = .ok (some target) → target.total.toRat = amount.toRat) ∧
    (openInvoice invoices sub payment = .ok none → amount.money.toRat = amount.toRat)
  alone : ∀ paymentId, textField payment "id" = .ok (some paymentId) → ∀ row ∈ invoices.rows,
    row.providerPaymentId = some paymentId → openInvoice invoices sub payment = .ok (some row)
  single : ∀ paymentId, textField payment "id" = .ok (some paymentId) →
    ∀ target, openInvoice invoices sub payment = .ok (some target) →
      ∀ other, target.providerPaymentId = some other → other = paymentId

section Clean
variable {invoiceId : String} {now : Int} {invoices grown : Invoices} {sub : BillingSubscription} {payment : RawData}
  {target : BillingInvoice}

theorem BookedOn.whole (booked : BookedOn invoices sub payment target grown) : invoices.rows ⊆ grown.rows := by
  rcases booked.source with ⟨_, rfl⟩ | ⟨_, rows, _⟩
  · exact List.Subset.refl _
  · rw [rows]
    exact List.subset_append_left _ _

/-- A row besides the target is one that was there. -/
theorem BookedOn.old (booked : BookedOn invoices sub payment target grown) {row : BillingInvoice} (member : row ∈ grown.rows)
    (other : row.id ≠ target.id) : row ∈ invoices.rows := by
  rcases booked.source with ⟨_, rfl⟩ | ⟨_, rows, _⟩
  · exact member
  · rw [rows] at member
    rcases List.mem_append.mp member with old | last
    · exact old
    · exact absurd (by rw [List.mem_singleton.mp last]) other

theorem BookedOn.unshared (booked : BookedOn invoices sub payment target grown) (unshared : Unshared invoices) : Unshared grown := by
  rcases booked.source with ⟨_, rfl⟩ | ⟨_, rows, unpaid, _⟩
  · exact unshared
  · exact unshared.snoc rows unpaid

theorem BookedOn.same (booked : BookedOn invoices sub payment target grown) {row : BillingInvoice} (member : row ∈ grown.rows)
    (id : row.id = target.id) : row = target :=
  KeyedRows.faithful_of_nodup BillingInvoice.id grown.ids row member target booked.member id

/-- The rows after the target is paid. -/
theorem BookedOn.mem_pay (booked : BookedOn invoices sub payment target grown) {providerInvoiceId paymentId : Option String}
    {row : BillingInvoice} : row ∈ (grown.pay target.id now providerInvoiceId paymentId).rows ↔
      (row ∈ grown.rows ∧ row.id ≠ target.id) ∨ row = Invoices.paid now providerInvoiceId paymentId target := by
  unfold Invoices.pay
  rw [KeyedRows.mem_update]
  refine or_congr Iff.rfl ⟨?_, fun same => ⟨target, booked.member, rfl, same⟩⟩
  rintro ⟨stored, member, id, rfl⟩
  rw [booked.same member id]

theorem CleanCharge.unshared (clean : CleanCharge invoices sub payment) (unshared : Unshared invoices)
    (done : bookPayment invoiceId now invoices sub payment = .ok after) : Unshared after := by
  obtain ⟨target, grown, providerInvoiceId, paymentId, booked, read, rfl⟩ := bookPayment_ok done
  have alone := booked.unshared unshared
  -- A row besides the target has another payment than the target takes.
  have apart : ∀ row ∈ grown.rows, row.id ≠ target.id → ∀ payment, row.providerPaymentId = some payment →
      (Invoices.paid now providerInvoiceId paymentId target).providerPaymentId ≠ some payment := by
    intro row member other payment has taken
    cases paymentId with
    | none => exact other (alone row member target booked.member payment has (by simpa [Invoices.paid] using taken))
    | some paymentId =>
      obtain rfl : paymentId = payment := by simpa [Invoices.paid] using taken
      have found := clean.alone paymentId read row (booked.old member other) has
      rcases booked.source with ⟨opened, _⟩ | ⟨opened, _⟩
      · cases found.symm.trans opened
        exact other rfl
      · cases found.symm.trans opened
  intro a memberA b memberB payment hasA hasB
  rcases booked.mem_pay.mp memberA with ⟨memberA, otherA⟩ | rfl
  · rcases booked.mem_pay.mp memberB with ⟨memberB, otherB⟩ | rfl
    · exact alone a memberA b memberB payment hasA hasB
    · exact absurd hasB (apart a memberA otherA payment hasA)
  · rcases booked.mem_pay.mp memberB with ⟨memberB, otherB⟩ | rfl
    · exact absurd hasA (apart b memberB otherB payment hasB)
    · rfl

theorem CleanCharge.keeps (clean : CleanCharge invoices sub payment)
    (done : bookPayment invoiceId now invoices sub payment = .ok after) : KeepsPayments invoices after := by
  obtain ⟨target, grown, providerInvoiceId, paymentId, booked, read, rfl⟩ := bookPayment_ok done
  intro row member kept has
  by_cases id : row.id = target.id
  · obtain rfl := booked.same (booked.whole member) id
    refine ⟨_, booked.mem_pay.mpr (.inr rfl), rfl, ?_⟩
    cases paymentId with
    | none => simpa [Invoices.paid] using has
    | some paymentId =>
      rcases booked.source with ⟨opened, _⟩ | ⟨_, _, unpaid, _⟩
      · rw [clean.single paymentId read row opened kept has]
        rfl
      · rw [unpaid] at has
        cases has
  · exact ⟨row, booked.mem_pay.mpr (.inl ⟨booked.whole member, id⟩), rfl, has⟩

/-- A row the booking changes is of the charged amount. -/
theorem CleanCharge.charged (clean : CleanCharge invoices sub payment)
    (done : bookPayment invoiceId now invoices sub payment = .ok after) {row : BillingInvoice} (member : row ∈ after.rows)
    (new : row ∉ invoices.rows) : ∃ amount, chargedAmount payment = .ok amount ∧ row.total.toRat = amount.toRat := by
  obtain ⟨target, grown, providerInvoiceId, paymentId, booked, read, rfl⟩ := bookPayment_ok done
  rcases booked.mem_pay.mp member with ⟨member, other⟩ | rfl
  · exact absurd (booked.old member other) new
  · obtain ⟨amount, charged, stored, made⟩ := clean.amount
    refine ⟨amount, charged, ?_⟩
    rcases booked.source with ⟨opened, _⟩ | ⟨opened, _, _, amount', charged', total⟩
    · exact stored target opened
    · cases charged.symm.trans charged'
      rw [← made opened, ← total]
      rfl

end Clean

/-! ## Steps -/

inductive BillingAction where
  | checkout (r : CheckoutRequest)
  | webhook (d : Delivery)

variable (settings : BillingSettings)

def billingStep (ledger : Ledger) : BillingAction → Ledger
  | .checkout r => (checkout settings ledger r).2
  | .webhook d => deliver settings ledger d

/-- The captured payment a delivery tells of a known subscription. -/
def chargeOf (ledger : Ledger) (d : Delivery) : Option (BillingSubscription × RawData) := do
  let payload ← WebhookRuntime.loads d.raw
  let eventType ← (eventTypeOf payload).toOption
  let entity ← (entityOf payload "subscription").toOption
  let known ← (knownSubscription ledger.subscriptions entity).toOption
  let sub ← known
  let payment ← (entityOf payload "payment").toOption
  let event : SubscriptionEvent := ⟨eventType, none, entity, payment⟩
  if event.captured then some (sub, payment) else none

/-- The amount of the captured payment a webhook tells. -/
def Captured (ledger : Ledger) (total : Decimal) : BillingAction → Prop
  | .checkout _ => False
  | .webhook d => ∃ sub payment amount, chargeOf ledger d = some (sub, payment) ∧ chargedAmount payment = .ok amount ∧
    total.toRat = amount.toRat

/-- What a step keeps of the ledger: no payment on two invoices, every invoice its
payment, and whatever becomes paid is of the captured amount. -/
structure Sound (ledger : Ledger) (action : BillingAction) : Prop where
  unshared : Unshared (billingStep settings ledger action).invoices
  keeps : KeepsPayments ledger.invoices (billingStep settings ledger action).invoices
  captured : ∀ row ∈ (billingStep settings ledger action).invoices.rows, row ∉ ledger.invoices.rows → row.status = "PAID" →
    Captured ledger row.total action

/-- A captured payment under a new event id is booked where it belongs. -/
def Clean (ledger : Ledger) : BillingAction → Prop
  | .checkout _ => True
  | .webhook d => verified settings d = .ok true → ¬Recorded ledger d →
    ∀ sub payment, chargeOf ledger d = some (sub, payment) → CleanCharge ledger.invoices sub payment

variable {settings} {ledger : Ledger}

/-- A step that adds invoices that are not paid, or none. -/
theorem sound_of_unpaid {action : BillingAction} (unshared : Unshared ledger.invoices) {added : List BillingInvoice}
    (rows : (billingStep settings ledger action).invoices.rows = ledger.invoices.rows ++ added)
    (unpaid : added = [] ∨ ∃ row, added = [row] ∧ row.status ≠ "PAID" ∧ row.providerPaymentId = none) :
    Sound settings ledger action := by
  have keeps : KeepsPayments ledger.invoices (billingStep settings ledger action).invoices :=
    .of_subset (by rw [rows]; exact List.subset_append_left _ _)
  rcases unpaid with rfl | ⟨row, rfl, pending, none⟩
  · rw [List.append_nil] at rows
    exact ⟨by unfold Unshared; rwa [rows], keeps, fun row member new => absurd (by rwa [rows] at member) new⟩
  · refine ⟨unshared.snoc rows none, keeps, fun other member new paid => ?_⟩
    rw [rows] at member
    rcases List.mem_append.mp member with old | last
    · exact absurd old new
    · rw [List.mem_singleton.mp last] at paid
      exact absurd paid pending

theorem checkout_sound (unshared : Unshared ledger.invoices) (r : CheckoutRequest) : Sound settings ledger (.checkout r) := by
  cases ran : checkoutSession settings ledger r with
  | error failure =>
    have same : (billingStep settings ledger (.checkout r)).invoices.rows = ledger.invoices.rows ++ [] := by
      simp [billingStep, checkout, ran]
    exact sound_of_unpaid unshared same (.inl rfl)
  | ok result =>
    obtain ⟨reply, after⟩ := result
    have reached : billingStep settings ledger (.checkout r) = after := by simp [billingStep, checkout, ran]
    obtain ⟨⟨sub, subscriptions⟩, _, ran⟩ := Outcome.bind_ok ran
    simp only at ran
    split at ran
    · cases ran
    · obtain ⟨finish, _, ran⟩ := Outcome.bind_ok ran
      obtain ⟨⟨sold, data⟩, _, ran⟩ := Outcome.bind_ok ran
      obtain ⟨⟨invoice, invoices⟩, created, ran⟩ := Outcome.bind_ok ran
      cases ran
      obtain ⟨due, _, created⟩ := Outcome.bind_ok created
      obtain ⟨grown, inserted, created⟩ := Outcome.bind_ok created
      cases created
      refine sound_of_unpaid unshared (by rw [reached]; exact Invoices.insert_ok inserted) (.inr ⟨_, rfl, ?_, rfl⟩)
      simp [Invoices.stored]

theorem chargeOf_told {d : Delivery} {payload : Json} {eventId eventType : String} (opened : Opened settings ledger d payload eventId eventType)
    {named : String} {sub changed : BillingSubscription} {event : SubscriptionEvent} {invoices : Invoices}
    (told : Told d.invoiceId d.now ledger eventType payload named sub event changed invoices) (captured : event.captured = true) :
    chargeOf ledger d = some (sub, event.payment) := by
  have charged : (SubscriptionEvent.mk eventType none event.entity event.payment).captured = true := by
    rw [← told.type]
    exact captured
  simp [chargeOf, opened.loaded, opened.typed, told.entity, told.knownSubscription, told.payment, Except.toOption, charged]

theorem webhook_sound (unshared : Unshared ledger.invoices) {d : Delivery} (clean : Clean settings ledger (.webhook d)) :
    Sound settings ledger (.webhook d) := by
  have what := handled settings ledger d
  generalize result : processRazorpayWebhook settings ledger d = outcome at what
  obtain ⟨reply, after⟩ := outcome
  have reached : billingStep settings ledger (.webhook d) = after := by simp [billingStep, deliver, result]
  have idle (same : after.invoices = ledger.invoices) : Sound settings ledger (.webhook d) :=
    sound_of_unpaid unshared (by rw [reached, same, List.append_nil]) (.inl rfl)
  cases what with
  | kept answered => exact idle rfl
  | @financial payload eventId eventType opened branch =>
    exact idle (financialEvent_kept d ledger eventId eventType payload).2
  | @subscription payload eventId eventType reply changed after opened branch finished noted =>
    obtain ⟨_, invoices, _⟩ := Ledger.note_ok noted
    rcases subscriptionEvent_cases finished with ⟨_, rfl⟩ | ⟨named, sub, event, row, booked, told, _, rfl⟩
    · exact idle invoices
    · by_cases captured : event.captured = true
      · have charge := chargeOf_told opened told captured
        have cleanCharge := clean opened.verified opened.unrecorded sub event.payment charge
        have done := told.booked
        rw [if_pos captured] at done
        have id := (updated_written told.updated).id
        have own : CleanCharge ledger.invoices row event.payment :=
          ⟨by simpa only [openInvoice_congr id] using cleanCharge.amount, by simpa only [openInvoice_congr id] using cleanCharge.alone,
            by simpa only [openInvoice_congr id] using cleanCharge.single⟩
        refine ⟨by rw [reached, invoices]; exact own.unshared unshared done, by rw [reached, invoices]; exact own.keeps done, ?_⟩
        intro paid member new _
        rw [reached, invoices] at member
        obtain ⟨amount, charged, total⟩ := own.charged done member new
        exact ⟨sub, event.payment, amount, charge, charged, total⟩
      · have done := told.booked
        rw [if_neg captured] at done
        exact idle (invoices.trans (Except.ok.inj done).symm)

/-! ## Runs -/

end Booking

section Examples
open PlainText

def completedCharge : Json := eventJson "subscription.completed" 200
  [("subscription", entityJson [("id", .str "sub_1"), ("status", .str "completed")]),
    ("payment", entityJson [("id", .str "pay_1"), ("status", .str "captured"), ("amount", .int 2499900)])]

local instance eventsOfPayment : WebhookRuntime := plainWebhooks [capturedCharge, completedCharge]

def bookedPayment : RawData := [("id", .str "pay_1"), ("status", .str "captured"), ("amount", .int 2499900)]

/-- The event ids of a run's deliveries. -/
def eventIds (actions : List BillingAction) : List (Option String) :=
  actions.filterMap fun action => match action with
    | .checkout _ => none
    | .webhook d => some d.eventId

end Examples
end RCAA.Billing
