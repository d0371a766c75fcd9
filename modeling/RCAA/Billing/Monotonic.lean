import RCAA.Billing.Deliveries
import RCAA.Library.Newest
import RCAA.Library.Runs

/-! The events of one subscription in any order. The provider's status goes by the time of
an event; the plan, the billing period and the status a captured payment sets go by the
order of arrival. -/

namespace RCAA.Billing
open Newest

/-! ## What an event carries -/

namespace SubscriptionEvent

def time (event : SubscriptionEvent) : Int := event.createdAt.getD 0

/-- The status the event gives the subscription on its own. -/
def carriedStatus (event : SubscriptionEvent) : Option String :=
  if event.captured then some "ACTIVE" else event.mapped.map Prod.snd

def carriedProviderStatus (event : SubscriptionEvent) : Option (Option String) := event.mapped.map fun status => some status.1

/-- The time of an event with a known status. -/
def carriedTime (event : SubscriptionEvent) : Option (Option Int) := event.mapped.map fun _ => event.createdAt

section Fields
variable [WebhookRuntime]

def carriedPlan (event : SubscriptionEvent) : Option (Option String) :=
  match textField event.entity "plan_id" with
  | .ok (some text) => some (some text)
  | _ => none

def carriedPeriod (key : String) (event : SubscriptionEvent) : Option Int := ((timeField event.entity key).toOption).bind id

end Fields
end SubscriptionEvent

open SubscriptionEvent

section Fields
variable [WebhookRuntime]

/-- Each field of the subscription is as the newest event that carries it says. -/
structure Right (sub row : BillingSubscription) (events : List SubscriptionEvent) : Prop where
  status : Determined time carriedStatus events sub.status row.status
  providerStatus : Determined time carriedProviderStatus events sub.providerStatus row.providerStatus
  plan : Determined time carriedPlan events sub.providerPlanId row.providerPlanId
  start : Determined time (carriedPeriod "current_start") events sub.currentPeriodStart row.currentPeriodStart
  finish : Determined time (carriedPeriod "current_end") events sub.currentPeriodEnd row.currentPeriodEnd

/-- What the order of arrival must spare: an event that carries a plan or a bound of the
period, or a captured payment, after a newer event that says otherwise; and an event with
the newest status after a newer captured payment that says otherwise. -/
structure InOrder (before : List SubscriptionEvent) (event : SubscriptionEvent) : Prop where
  plan : ∀ own, event.carriedPlan = some own → ¬Late time carriedPlan before event own
  start : ∀ own, event.carriedPeriod "current_start" = some own →
    ¬Late time (carriedPeriod "current_start") before event own
  finish : ∀ own, event.carriedPeriod "current_end" = some own →
    ¬Late time (carriedPeriod "current_end") before event own
  charge : event.captured = true → ¬Late time carriedStatus before event "ACTIVE"
  status : event.captured = false → ∀ own, event.mapped.map Prod.snd = some own →
    IsNewest time mapped before event → ¬Late time carriedStatus before event own

/-- The newest event so far comes in order. -/
theorem InOrder.of_newest {before : List SubscriptionEvent} {event : SubscriptionEvent}
    (newest : ∀ other ∈ before, other.time ≤ event.time) : InOrder before event := by
  have punctual {β : Type} (carried : SubscriptionEvent → Option β) (own : β) : ¬Late time carried before event own := by
    rintro ⟨other, member, _, _, _, newer, _⟩
    have below := newest other member
    omega
  exact ⟨fun _ _ => punctual _ _, fun _ _ => punctual _ _, fun _ _ => punctual _ _, fun _ => punctual _ _,
    fun _ _ _ _ => punctual _ _⟩

/-! ## One event -/

/-- The event's status is applied to the row. -/
def applies (row : BillingSubscription) (event : SubscriptionEvent) : Bool :=
  inTime event.createdAt row.providerEventCreatedAt

/-- What the update of a row does, field by field. -/
structure Written (row : BillingSubscription) (event : SubscriptionEvent) (after : BillingSubscription) : Prop where
  id : after.id = row.id
  merchantId : after.merchantId = row.merchantId
  provider : after.provider = row.provider
  providerSubscriptionId : after.providerSubscriptionId = row.providerSubscriptionId
  plan : after.providerPlanId = event.carriedPlan.getD row.providerPlanId
  start : after.currentPeriodStart = (event.carriedPeriod "current_start").getD row.currentPeriodStart
  finish : after.currentPeriodEnd = (event.carriedPeriod "current_end").getD row.currentPeriodEnd
  providerStatus : after.providerStatus =
    (if applies row event then event.carriedProviderStatus else none).getD row.providerStatus
  clock : event.createdAt.isSome → after.providerEventCreatedAt =
    (if applies row event then event.carriedTime else none).getD row.providerEventCreatedAt
  status : after.status =
    (if event.captured then some "ACTIVE" else if applies row event then event.mapped.map Prod.snd else none).getD row.status

omit [WebhookRuntime] in
/-- What the status of an event leaves of the row. -/
theorem applyStatus_written (row : BillingSubscription) (event : SubscriptionEvent) :
    (applyStatus row event).providerStatus =
        (if applies row event then event.carriedProviderStatus else none).getD row.providerStatus ∧
      (event.createdAt.isSome → (applyStatus row event).providerEventCreatedAt =
        (if applies row event then event.carriedTime else none).getD row.providerEventCreatedAt) ∧
      (applyStatus row event).status =
        (if applies row event then event.mapped.map Prod.snd else none).getD row.status := by
  unfold applyStatus applies carriedProviderStatus carriedTime
  cases event.mapped with
  | none => simp
  | some status =>
    cases inTime event.createdAt row.providerEventCreatedAt with
    | false => simp
    | true =>
      refine ⟨by simp, fun dated => ?_, by simp⟩
      obtain ⟨createdAt, dated⟩ := Option.isSome_iff_exists.mp dated
      simp [dated]

omit [WebhookRuntime] in
theorem applyStatus_fixed (row : BillingSubscription) (event : SubscriptionEvent) :
    (applyStatus row event).id = row.id ∧ (applyStatus row event).merchantId = row.merchantId ∧
      (applyStatus row event).provider = row.provider ∧
      (applyStatus row event).providerSubscriptionId = row.providerSubscriptionId ∧
      (applyStatus row event).providerPlanId = row.providerPlanId ∧
      (applyStatus row event).currentPeriodStart = row.currentPeriodStart ∧
      (applyStatus row event).currentPeriodEnd = row.currentPeriodEnd := by
  unfold applyStatus
  cases event.mapped with
  | none => simp
  | some status => cases inTime event.createdAt row.providerEventCreatedAt <;> simp

theorem updated_written {row after : BillingSubscription} {event : SubscriptionEvent}
    (done : updated row event = .ok after) : Written row event after := by
  obtain ⟨customer, _, done⟩ := Outcome.bind_ok done
  obtain ⟨plan, planRead, done⟩ := Outcome.bind_ok done
  obtain ⟨start, startRead, done⟩ := Outcome.bind_ok done
  obtain ⟨finish, finishRead, done⟩ := Outcome.bind_ok done
  obtain ⟨payment, _, done⟩ := Outcome.bind_ok done
  cases done
  obtain ⟨id, merchantId, provider, subscriptionId, planKept, startKept, finishKept⟩ := applyStatus_fixed row event
  obtain ⟨providerStatus, clock, status⟩ := applyStatus_written row event
  have carriedStart : event.carriedPeriod "current_start" = start := by simp [carriedPeriod, startRead, Except.toOption]
  have carriedFinish : event.carriedPeriod "current_end" = finish := by simp [carriedPeriod, finishRead, Except.toOption]
  refine ⟨id, merchantId, provider, subscriptionId, ?_, ?_, ?_, providerStatus, clock, ?_⟩
  · cases plan with
    | none => simp [carriedPlan, planRead, planKept]
    | some text => simp [carriedPlan, planRead]
  · rw [carriedStart, ← startKept]
  · rw [carriedFinish, ← finishKept]
  · cases event.captured with
    | true => simp
    | false => simpa using status

/-! ## The clock of the row -/

omit [WebhookRuntime] in
/-- The time on the row tells whether a newer status was applied before. -/
theorem applies_cases {initial : Option Int} {row : BillingSubscription} {before : List SubscriptionEvent} {event : SubscriptionEvent}
    (dated : ∀ other ∈ before ++ [event], other.createdAt.isSome)
    (later : ∀ clock, initial = some clock → clock ≤ event.time)
    (clock : Determined time carriedTime before initial row.providerEventCreatedAt) :
    if applies row event then IsNewest time mapped before event
    else ∃ other ∈ before, other.mapped.isSome ∧ event.time < other.time := by
  have timed : ∀ other ∈ before ++ [event], other.createdAt = some other.time := fun other member => by
    obtain ⟨at', dated⟩ := Option.isSome_iff_exists.mp (dated other member)
    simp [time, dated]
  have now := timed event (by simp)
  rcases clock with ⟨newest, member, carries, isNewest⟩ | ⟨none, kept⟩
  · obtain ⟨status, status', same⟩ := Option.map_eq_some_iff.mp carries
    rw [timed newest (by simp [member])] at same
    simp only [applies, now, ← same, inTime]
    split
    · next notOlder =>
      intro other inside carried
      have below := isNewest other inside (by simpa [carriedTime] using carried)
      have notOlder := of_decide_eq_true notOlder
      omega
    · next older => exact ⟨newest, member, by simp [status'], by simpa using older⟩
  · have unmarked : ∀ other ∈ before, other.mapped = Option.none := fun other inside => by
      simpa [carriedTime] using none other inside
    have applied : applies row event = true := by
      rw [applies, now, kept]
      cases initial with
      | none => rfl
      | some clock => exact decide_eq_true (later clock rfl)
    rw [if_pos applied]
    intro other inside carried
    rw [unmarked other inside] at carried
    cases carried

/-- An event that arrives at a row whose time is that of the newest status. -/
structure Arrives (sub row : BillingSubscription) (before : List SubscriptionEvent) (event : SubscriptionEvent) : Prop where
  distinct : ((before ++ [event]).map time).Nodup
  dated : ∀ other ∈ before ++ [event], other.createdAt.isSome
  later : ∀ clock, sub.providerEventCreatedAt = some clock → clock ≤ event.time
  clock : Determined time carriedTime before sub.providerEventCreatedAt row.providerEventCreatedAt

section Arrives
variable {sub row after : BillingSubscription} {before : List SubscriptionEvent} {event : SubscriptionEvent}

omit [WebhookRuntime] in
/-- A column that goes with the status is right again. -/
theorem Arrives.marked {β : Type} {carried : SubscriptionEvent → Option β} (arrives : Arrives sub row before event)
    (marks : ∀ other : SubscriptionEvent, (carried other).isSome = other.mapped.isSome) {initial value : β}
    (right : Determined time carried before initial value) :
    Determined time carried (before ++ [event]) initial ((if applies row event then carried event else none).getD value) := by
  have cases := applies_cases arrives.dated arrives.later arrives.clock
  refine (determined_snoc_iff arrives.distinct ?_ ?_ right).mpr ?_
  · intro own written
    split at written
    · exact written
    · cases written
  · intro skipped
    split at skipped
    · exact .inl skipped
    · next older =>
      rw [if_neg older] at cases
      obtain ⟨other, member, some, newer⟩ := cases
      exact .inr ⟨other, member, by rwa [marks], newer⟩
  · rintro own written ⟨other, member, current, carries, newest, newer, differs⟩
    split at written
    · next applied =>
      rw [if_pos applied] at cases
      have below := cases other member (by rw [← marks, carries]; rfl)
      omega
    · cases written

theorem Arrives.clock_after (arrives : Arrives sub row before event) (written : Written row event after) :
    Determined time carriedTime (before ++ [event]) sub.providerEventCreatedAt after.providerEventCreatedAt := by
  rw [written.clock (arrives.dated event (by simp))]
  exact arrives.marked (fun other => by simp [carriedTime]) arrives.clock

theorem Arrives.status_iff (arrives : Arrives sub row before event) (written : Written row event after)
    (right : Determined time carriedStatus before sub.status row.status) :
    Determined time carriedStatus (before ++ [event]) sub.status after.status ↔
      (event.captured = true → ¬Late time carriedStatus before event "ACTIVE") ∧
      (event.captured = false → ∀ own, event.mapped.map Prod.snd = some own →
        IsNewest time mapped before event → ¬Late time carriedStatus before event own) := by
  have cases := applies_cases arrives.dated arrives.later arrives.clock
  rw [written.status]
  cases captured : event.captured with
  | true =>
    rw [determined_snoc_iff arrives.distinct (by simp [carriedStatus, captured]) (by simp) right]
    simp
  | false =>
    have newestIff : applies row event = true ↔ IsNewest time mapped before event := by
      constructor
      · intro applied
        rwa [if_pos applied] at cases
      · intro newest
        by_contra older
        rw [if_neg older] at cases
        obtain ⟨other, member, some, newer⟩ := cases
        have below := newest other member some
        omega
    rw [determined_snoc_iff arrives.distinct ?_ ?_ right]
    · simp only [Bool.false_eq_true, if_false, newestIff, Option.ite_none_right_eq_some]
      tauto
    · intro own written
      simp only [Bool.false_eq_true, if_false, Option.ite_none_right_eq_some] at written
      simpa [carriedStatus, captured] using written.2
    · intro skipped
      simp only [Bool.false_eq_true, if_false] at skipped
      split at skipped
      · exact .inl (by simpa [carriedStatus, captured] using skipped)
      · next older =>
        rw [if_neg older] at cases
        obtain ⟨other, member, some, newer⟩ := cases
        refine .inr ⟨other, member, ?_, newer⟩
        unfold carriedStatus
        split
        · rfl
        · simpa using some

/-- One event leaves the row right exactly if it comes in order. -/
theorem Arrives.right_iff (arrives : Arrives sub row before event) (written : Written row event after)
    (right : Right sub row before) : Right sub after (before ++ [event]) ↔ InOrder before event := by
  have status := arrives.status_iff written right.status
  have providerStatus : Determined time carriedProviderStatus (before ++ [event]) sub.providerStatus after.providerStatus := by
    rw [written.providerStatus]
    exact arrives.marked (fun other => by simp [carriedProviderStatus]) right.providerStatus
  have plan := determined_snoc_iff arrives.distinct (fun _ same => same) .inl right.plan
  have start := determined_snoc_iff arrives.distinct (fun _ same => same) .inl right.start
  have finish := determined_snoc_iff arrives.distinct (fun _ same => same) .inl right.finish
  rw [← written.plan] at plan
  rw [← written.start] at start
  rw [← written.finish] at finish
  constructor
  · intro now
    exact ⟨plan.mp now.plan, start.mp now.start, finish.mp now.finish, (status.mp now.status).1, (status.mp now.status).2⟩
  · intro order
    exact ⟨status.mpr ⟨order.charge, order.status⟩, providerStatus, plan.mpr order.plan, start.mpr order.start,
      finish.mpr order.finish⟩

end Arrives

/-! ## Rows and runs -/

omit [WebhookRuntime] in
theorem time_sublist {events before : List SubscriptionEvent} {event : SubscriptionEvent} (first : before ++ [event] <+: events)
    (distinct : (events.map time).Nodup) : ((before ++ [event]).map time).Nodup :=
  distinct.sublist (first.sublist.map time)

theorem clock_determined {sub row : BillingSubscription} {events : List SubscriptionEvent}
    (dated : ∀ event ∈ events, event.createdAt.isSome) (distinct : (events.map time).Nodup)
    (later : ∀ event ∈ events, ∀ clock, sub.providerEventCreatedAt = some clock → clock ≤ event.time)
    (done : events.foldlM updated sub = .ok row) :
    Determined time carriedTime events sub.providerEventCreatedAt row.providerEventCreatedAt := by
  induction events using List.reverseRecOn generalizing row with
  | nil =>
    cases done
    exact determined_nil.mpr rfl
  | append_singleton before event ih =>
    rw [List.foldlM_append] at done
    obtain ⟨middle, first, done⟩ := Outcome.bind_ok done
    obtain ⟨after, last, done⟩ := Outcome.bind_ok done
    cases done
    have earlier := ih (fun other member => dated other (by simp [member]))
      (time_sublist (List.prefix_refl _) distinct |>.sublist (by simp))
      (fun other member => later other (by simp [member])) first
    have arrives : Arrives sub middle before event := ⟨distinct, dated, later event (by simp), earlier⟩
    exact arrives.clock_after (updated_written last)

/-- The events of a subscription leave its row right after each of them exactly if they
all come in order. -/
theorem rows_right_iff {sub row : BillingSubscription} {events : List SubscriptionEvent}
    (dated : ∀ event ∈ events, event.createdAt.isSome) (distinct : (events.map time).Nodup)
    (later : ∀ event ∈ events, ∀ clock, sub.providerEventCreatedAt = some clock → clock ≤ event.time)
    (done : events.foldlM updated sub = .ok row) :
    (∀ before, before <+: events → ∀ middle, before.foldlM updated sub = .ok middle → Right sub middle before) ↔
      ∀ before event after, events = before ++ event :: after → InOrder before event := by
  refine prefixes_iff ?_ ?_
  · intro middle same
    cases same
    exact ⟨determined_nil.mpr rfl, determined_nil.mpr rfl, determined_nil.mpr rfl, determined_nil.mpr rfl,
      determined_nil.mpr rfl⟩
  · rintro before event ⟨rest, rfl⟩ right
    rw [List.append_assoc, List.foldlM_append] at done
    obtain ⟨middle, first, done⟩ := Outcome.bind_ok done
    rw [List.singleton_append, List.foldlM_cons] at done
    obtain ⟨after, last, _⟩ := Outcome.bind_ok done
    have inside : ∀ other, other ∈ before → other ∈ before ++ [event] ++ rest := by simp +contextual
    have earlier := clock_determined (fun other member => dated other (inside other member))
      (distinct.sublist (by simp)) (fun other member => later other (inside other member)) first
    have arrives : Arrives sub middle before event :=
      ⟨time_sublist (List.prefix_append _ _) distinct, fun other member => dated other (List.mem_append_left _ member),
        later event (by simp), earlier⟩
    rw [← arrives.right_iff (updated_written last) (right middle first)]
    have both : (before ++ [event]).foldlM updated sub = .ok after := by
      rw [List.foldlM_append, first]
      change (updated middle event >>= pure) = _
      rw [last]
      rfl
    constructor
    · exact fun every => every after both
    · intro now row' done'
      rw [both] at done'
      cases done'
      exact now

/-! ## Deliveries -/

/-- What a delivery says about a subscription. -/
def eventOf (subscriptionId : String) (d : Delivery) : Option SubscriptionEvent := do
  let payload ← WebhookRuntime.loads d.raw
  let eventType ← (eventTypeOf payload).toOption
  let entity ← (entityOf payload "subscription").toOption
  let named ← (queriedField entity "id").toOption
  let createdAt ← (timeOf payload "created_at").toOption
  let payment ← (entityOf payload "payment").toOption
  if startsWith eventType "subscription." = true ∧ named = some subscriptionId then
    some ⟨eventType, createdAt, entity, payment⟩
  else none

variable (settings : BillingSettings)

/-- The event of the subscription that the delivery told, unless it was refused. -/
def heard (subscriptionId : String) (ledger : Ledger) (d : Delivery) : Option SubscriptionEvent :=
  match (processRazorpayWebhook settings ledger d).1 with
  | .ok (some .processed) => eventOf subscriptionId d
  | _ => none

/-- The events of the subscription that a run of deliveries told, in their order. -/
def history (subscriptionId : String) : Ledger → List Delivery → List SubscriptionEvent
  | _, [] => []
  | ledger, d :: rest =>
    (heard settings subscriptionId ledger d).toList ++ history subscriptionId (deliver settings ledger d) rest

variable {settings} {subscriptionId : String} {ledger : Ledger}

variable (settings) in
/-- A delivery changes the row of the subscription by the event it told. -/
theorem deliver_row {row : BillingSubscription} (known : ledger.subscriptions.ofProvider? subscriptionId = some row) (d : Delivery) :
    ∃ after, (deliver settings ledger d).subscriptions.ofProvider? subscriptionId = some after ∧
      (heard settings subscriptionId ledger d).toList.foldlM updated row = .ok after := by
  unfold deliver heard
  have what := handled settings ledger d
  generalize processRazorpayWebhook settings ledger d = result at what ⊢
  obtain ⟨reply, after⟩ := result
  cases what with
  | kept answered =>
    refine ⟨row, known, ?_⟩
    split
    · exact absurd ‹_› answered
    · rfl
  | @financial payload eventId eventType opened branch =>
    refine ⟨row, by rw [(financialEvent_kept d ledger eventId eventType payload).1]; exact known, ?_⟩
    have silent : eventOf subscriptionId d = none := by simp [eventOf, opened.loaded, opened.typed, Except.toOption, branch]
    split
    · rw [silent]
      rfl
    · rfl
  | @subscription payload eventId eventType reply changed after opened branch finished noted =>
    obtain ⟨subscriptions, _, _, _⟩ := Ledger.note_ok noted
    rcases subscriptionEvent_cases finished with ⟨⟨reason, rfl⟩, rfl⟩ | ⟨named, sub, event, changed, invoices, told, rfl, rfl⟩
    · exact ⟨row, by rw [subscriptions]; exact known, rfl⟩
    · rw [← told.type] at branch
      have spoken : eventOf subscriptionId d = if named = subscriptionId then some event else none := by
        simp [eventOf, opened.loaded, opened.typed, told.entity, told.named, told.createdAt, told.payment, Except.toOption,
          branch, ← told.type]
      have written := updated_written told.updated
      obtain ⟨member, _, itsId⟩ := Subscriptions.ofProvider?_some told.known
      have lookup := Subscriptions.ofProvider?_put member written.id written.provider written.providerSubscriptionId subscriptionId
      rw [known, Option.map_some] at lookup
      by_cases same : named = subscriptionId
      · subst same
        obtain rfl := Option.some.inj (told.known.symm.trans known)
        rw [if_pos written.id.symm, Subscriptions.columns_self written.id written.merchantId] at lookup
        refine ⟨changed, by rw [subscriptions]; exact lookup, ?_⟩
        rw [spoken, if_pos rfl]
        change (updated sub event >>= pure) = _
        rw [told.updated]
        rfl
      · have other : row.id ≠ changed.id := by
          intro one
          obtain ⟨inside, _, rowId⟩ := Subscriptions.ofProvider?_some known
          have this : row = sub := KeyedRows.faithful_of_nodup BillingSubscription.id ledger.subscriptions.ids row inside sub member
            (one.trans written.id)
          rw [this, itsId] at rowId
          exact same (Option.some.inj rowId)
        rw [if_neg other] at lookup
        refine ⟨row, by rw [subscriptions]; exact lookup, ?_⟩
        rw [spoken, if_neg same]
        rfl

theorem history_append (ledger : Ledger) (first rest : List Delivery) :
    history settings subscriptionId ledger (first ++ rest) = history settings subscriptionId ledger first ++
      history settings subscriptionId (Runs.run (deliver settings) ledger first) rest := by
  induction first generalizing ledger with
  | nil => rfl
  | cons d first ih => simp only [List.cons_append, history, ih, List.append_assoc, Runs.run_cons]

variable (settings) in
/-- The row a run leaves is made from its events. -/
theorem run_row {row : BillingSubscription} (known : ledger.subscriptions.ofProvider? subscriptionId = some row)
    (deliveries : List Delivery) :
    ∃ after, (Runs.run (deliver settings) ledger deliveries).subscriptions.ofProvider? subscriptionId = some after ∧
      (history settings subscriptionId ledger deliveries).foldlM updated row = .ok after := by
  induction deliveries generalizing ledger row with
  | nil => exact ⟨row, known, rfl⟩
  | cons d rest ih =>
    obtain ⟨middle, now, first⟩ := deliver_row settings known d
    obtain ⟨after, reached, others⟩ := ih now
    refine ⟨after, reached, ?_⟩
    rw [history, List.foldlM_append, first]
    exact others

/-- Every part of the events is what a part of the run told. -/
theorem history_prefix {before : List SubscriptionEvent} {deliveries : List Delivery}
    (first : before <+: history settings subscriptionId ledger deliveries) :
    ∃ part, part <+: deliveries ∧ history settings subscriptionId ledger part = before := by
  induction deliveries using List.reverseRecOn with
  | nil => exact ⟨[], List.prefix_refl _, (List.prefix_nil.mp first).symm⟩
  | append_singleton deliveries d ih =>
    have last : (history settings subscriptionId ledger (deliveries ++ [d])) =
        history settings subscriptionId ledger deliveries ++
          (heard settings subscriptionId (Runs.run (deliver settings) ledger deliveries) d).toList := by
      rw [history_append]
      simp [history]
    by_cases short : before <+: history settings subscriptionId ledger deliveries
    · obtain ⟨part, inside, same⟩ := ih short
      exact ⟨part, inside.trans (List.prefix_append _ _), same⟩
    · refine ⟨deliveries ++ [d], List.prefix_refl _, ?_⟩
      rw [last] at first ⊢
      cases told : heard settings subscriptionId (Runs.run (deliver settings) ledger deliveries) d with
      | none => exact absurd (by simpa [told] using first) short
      | some event =>
        rw [told] at first
        rcases List.prefix_concat_iff.mp first with whole | part
        · exact whole.symm
        · exact absurd part short

/-- The webhooks of a subscription leave it right, after every part of every run, exactly
if its events come in order. -/
theorem subscription_monotonic_iff {sub : BillingSubscription} {deliveries : List Delivery}
    (known : ledger.subscriptions.ofProvider? subscriptionId = some sub)
    (dated : ∀ event ∈ history settings subscriptionId ledger deliveries, event.createdAt.isSome)
    (distinct : ((history settings subscriptionId ledger deliveries).map time).Nodup)
    (later : ∀ event ∈ history settings subscriptionId ledger deliveries,
      ∀ clock, sub.providerEventCreatedAt = some clock → clock ≤ event.time) :
    (∀ part, part <+: deliveries → ∃ row,
      (Runs.run (deliver settings) ledger part).subscriptions.ofProvider? subscriptionId = some row ∧
        Right sub row (history settings subscriptionId ledger part)) ↔
      ∀ before event after, history settings subscriptionId ledger deliveries = before ++ event :: after →
        InOrder before event := by
  obtain ⟨final, _, done⟩ := run_row settings known deliveries
  rw [← rows_right_iff dated distinct later done]
  constructor
  · intro every before first middle made
    obtain ⟨part, inside, rfl⟩ := history_prefix first
    obtain ⟨row, reached, right⟩ := every part inside
    obtain ⟨row', reached', made'⟩ := run_row settings known part
    obtain rfl := Option.some.inj (reached.symm.trans reached')
    cases made.symm.trans made'
    exact right
  · intro every part inside
    obtain ⟨row, reached, made⟩ := run_row settings known part
    obtain ⟨rest, rfl⟩ := inside
    refine ⟨row, reached, every _ ?_ row made⟩
    rw [history_append]
    exact List.prefix_append _ _

end Fields

section Examples
open PlainText

def cancelled : Json := eventJson "subscription.cancelled" 200
  [("subscription", entityJson [("id", .str "sub_1"), ("status", .str "cancelled")])]

def charged : Json := eventJson "subscription.charged" 100
  [("subscription", entityJson [("id", .str "sub_1"), ("status", .str "active")]),
    ("payment", entityJson [("id", .str "pay_1"), ("status", .str "captured"), ("amount", .int 2499900)])]

local instance eventsOfTwo : WebhookRuntime := plainWebhooks [charged, cancelled]

def chargedFirst : List Delivery := [delivery charged (some "evt_1") "i1", delivery cancelled (some "evt_2") "i2"]
def cancelledFirst : List Delivery := chargedFirst.reverse

def chargedEvent : SubscriptionEvent := ⟨"subscription.charged", some 100000000,
  [("id", .str "sub_1"), ("status", .str "active")],
  [("id", .str "pay_1"), ("status", .str "captured"), ("amount", .int 2499900)]⟩

def cancelledEvent : SubscriptionEvent :=
  ⟨"subscription.cancelled", some 200000000, [("id", .str "sub_1"), ("status", .str "cancelled")], []⟩

set_option maxRecDepth 4000 in
theorem subscription_monotonic_inTurn :
    history billingSettings "sub_1" soldLedger chargedFirst = [chargedEvent, cancelledEvent] ∧
      ∀ part, part <+: chargedFirst → ∃ row,
        (Runs.run (deliver billingSettings) soldLedger part).subscriptions.ofProvider? "sub_1" = some row ∧
          Right soldSubscription row (history billingSettings "sub_1" soldLedger part) := by
  have told : history billingSettings "sub_1" soldLedger chargedFirst = [chargedEvent, cancelledEvent] := by decide +kernel
  refine ⟨told, (subscription_monotonic_iff (by decide) (by rw [told]; decide) (by rw [told]; decide)
    (by rw [told]; decide)).mpr ?_⟩
  rw [told]
  intro before event after split
  refine InOrder.of_newest fun other member => ?_
  rcases before with _ | ⟨first, _ | ⟨second, rest⟩⟩
  · cases member
  · simp only [List.cons_append, List.nil_append, List.cons.injEq] at split
    obtain ⟨rfl, rfl, rfl⟩ := split
    rw [List.mem_singleton.mp member]
    decide
  · simp at split

/-- An older captured charge, delivered late, makes a cancelled subscription active. -/
theorem late_charge_reactivates : ¬∀ (settings : BillingSettings) (ledger : Ledger) (subscriptionId : String)
    (sub row : BillingSubscription) (deliveries : List Delivery),
    ledger.subscriptions.ofProvider? subscriptionId = some sub → (deliveries.map Delivery.eventId).Nodup →
    (∀ event ∈ history settings subscriptionId ledger deliveries, event.createdAt.isSome) →
    ((history settings subscriptionId ledger deliveries).map time).Nodup →
    (∀ event ∈ history settings subscriptionId ledger deliveries,
      ∀ clock, sub.providerEventCreatedAt = some clock → clock ≤ event.time) →
    (Runs.run (deliver settings) ledger deliveries).subscriptions.ofProvider? subscriptionId = some row →
    Right sub row (history settings subscriptionId ledger deliveries) := by
  intro law
  have told : history billingSettings "sub_1" soldLedger cancelledFirst = [cancelledEvent, chargedEvent] := by decide +kernel
  have active : ((Runs.run (deliver billingSettings) soldLedger cancelledFirst).subscriptions.ofProvider? "sub_1").map
      (·.status) = some "ACTIVE" := by decide +kernel
  obtain ⟨row, reached, status⟩ := Option.map_eq_some_iff.mp active
  have right := law billingSettings soldLedger "sub_1" soldSubscription row cancelledFirst (by decide) (by decide)
    (by rw [told]; decide) (by rw [told]; decide) (by rw [told]; decide) reached
  rw [told] at right
  have newest : Determined time carriedStatus [cancelledEvent, chargedEvent] soldSubscription.status "CANCELLED" :=
    .inl ⟨cancelledEvent, by decide, by decide, by decide⟩
  have same := right.status.unique (by decide) newest
  rw [status] at same
  exact absurd same (by decide)

end Examples
end RCAA.Billing
