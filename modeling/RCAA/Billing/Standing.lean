import RCAA.Api.Isolation
import RCAA.Billing.Booking
import RCAA.Billing.Requests

/-! What every run of billing requests and deliveries keeps: plans with their prices, invoices
of the workspace's own subscription that stay as they are issued and stay paid. Only what
concerns a workspace changes its rows, and only an administrator of its own, where no provider
is configured, or a verified delivery makes its subscription active. -/

namespace RCAA.Billing
open OffsetPages (Listing)
open OwnedRows (Within)

/-! ## Consistent tables -/

/-- The price and the limit of a subscription are those of its plan. -/
def Priced (sub : BillingSubscription) : Prop :=
  (sub.planCode = "TRIAL" ∧ sub.monthlyPrice = ⟨0, -2⟩ ∧ sub.monthlyTransactionLimit = some trialLimit) ∨
    ∃ plan : Plan, sub.planCode = plan.code ∧ sub.monthlyPrice = plan.monthlyPrice ∧
      sub.monthlyTransactionLimit = some plan.transactionLimit

/-- `STATUSES`. -/
def statuses : List String := ["TRIAL", "PENDING_ACTIVATION", "ACTIVE", "PAST_DUE", "CANCELLED"]

/-- The invoice as it was issued, less what its payment writes. -/
def BillingInvoice.terms (row : BillingInvoice) : BillingInvoice :=
  { row with status := "", paidAt := none, provider := "", providerInvoiceId := none, providerPaymentId := none }

/-- An invoice is pending, or paid at a time. -/
def BillingInvoice.Settled (row : BillingInvoice) : Prop :=
  (row.status = "PENDING" ∧ row.paidAt = none) ∨ (row.status = "PAID" ∧ row.paidAt.isSome = true)

structure Consistent (ledger : Ledger) : Prop where
  priced : ∀ sub ∈ ledger.subscriptions.rows, Priced sub
  known : ∀ sub ∈ ledger.subscriptions.rows, sub.status ∈ statuses
  issued : ∀ invoice ∈ ledger.invoices.rows, ∃ sub ∈ ledger.subscriptions.rows,
    invoice.subscriptionId = some sub.id ∧ invoice.merchantId = sub.merchantId
  settled : ∀ invoice ∈ ledger.invoices.rows, invoice.Settled
  totals : ∀ invoice ∈ ledger.invoices.rows, invoice.total.toRat = invoice.subtotal.toRat + invoice.tax.toRat

theorem consistent_empty : Consistent {} :=
  ⟨List.forall_mem_nil _, List.forall_mem_nil _, List.forall_mem_nil _, List.forall_mem_nil _, List.forall_mem_nil _⟩

/-- The keys of a subscription, which no write changes. -/
def BillingSubscription.keys (sub : BillingSubscription) : String × String := (sub.id, sub.merchantId)

/-! ## Moves -/

/-- What a part of a step does: it writes rows of some merchants, and makes a subscription
active only where that is granted. -/
structure Moves (mine grants : String → Prop) (before after : Ledger) : Prop where
  consistent : Consistent after
  subscriptions : Within BillingSubscription.keys (fun keys => mine keys.2) before.subscriptions.rows after.subscriptions.rows
  invoices : Within BillingInvoice.terms (fun terms => mine terms.merchantId) before.invoices.rows after.invoices.rows
  active : ∀ sub ∈ after.subscriptions.rows, sub.status = "ACTIVE" →
    grants sub.merchantId ∨ ∃ earlier ∈ before.subscriptions.rows, earlier.keys = sub.keys ∧ earlier.status = "ACTIVE"
  paid : ∀ invoice ∈ before.invoices.rows, ∃ later ∈ after.invoices.rows,
    later.terms = invoice.terms ∧ (invoice.status = "PAID" → later.status = "PAID")

namespace Moves
variable {mine grants : String → Prop} {before middle after : Ledger}

theorem of_same (consistent : Consistent before) (subscriptions : after.subscriptions = before.subscriptions)
    (invoices : after.invoices = before.invoices) : Moves mine grants before after where
  consistent := by
    obtain ⟨priced, known, issued, settled, totals⟩ := consistent
    constructor <;> simpa only [subscriptions, invoices]
  subscriptions := .of_eq (by rw [subscriptions])
  invoices := .of_eq (by rw [invoices])
  active sub member active := .inr ⟨sub, subscriptions ▸ member, rfl, active⟩
  paid invoice member := ⟨invoice, invoices ▸ member, rfl, id⟩

theorem trans (first : Moves mine grants before middle) (second : Moves mine grants middle after) : Moves mine grants before after where
  consistent := second.consistent
  subscriptions := first.subscriptions.trans second.subscriptions
  invoices := first.invoices.trans second.invoices
  active sub member active := by
    rcases second.active sub member active with granted | ⟨earlier, inside, keys, was⟩
    · exact .inl granted
    · have merchant : earlier.merchantId = sub.merchantId := congrArg Prod.snd keys
      rcases first.active earlier inside was with granted | ⟨first, there, same, active⟩
      · exact .inl (merchant ▸ granted)
      · exact .inr ⟨first, there, same.trans keys, active⟩
  paid invoice member := by
    obtain ⟨kept, inside, terms, stays⟩ := first.paid invoice member
    obtain ⟨last, there, same, still⟩ := second.paid kept inside
    exact ⟨last, there, same.trans terms, fun paid => still (stays paid)⟩

end Moves

/-! ## Writes -/

section Writes
variable {mine grants : String → Prop} {ledger : Ledger} {sub row : BillingSubscription}

theorem Subscriptions.mem_put {table : Subscriptions} (member : sub ∈ table.rows) (keys : row.keys = sub.keys) (a : BillingSubscription) :
    a ∈ (table.put row).rows ↔ (a ∈ table.rows ∧ a.id ≠ row.id) ∨ a = row := by
  have id : row.id = sub.id := congrArg Prod.fst keys
  unfold put
  rw [KeyedRows.mem_update]
  refine or_congr Iff.rfl ⟨?_, fun same => ⟨sub, member, id.symm, same ▸ (columns_self id (congrArg Prod.snd keys)).symm⟩⟩
  rintro ⟨stored, inside, same, rfl⟩
  obtain rfl := KeyedRows.faithful_of_nodup BillingSubscription.id table.ids stored inside sub member (same.trans id)
  exact columns_self id (congrArg Prod.snd keys)

/-- A subscription is written over, by a row with a plan's price and a status. -/
theorem Moves.put (consistent : Consistent ledger) (member : sub ∈ ledger.subscriptions.rows) (keys : row.keys = sub.keys)
    (own : mine sub.merchantId) (priced : Priced row) (known : row.status ∈ statuses)
    (active : row.status = "ACTIVE" → grants sub.merchantId ∨ sub.status = "ACTIVE") :
    Moves mine grants ledger { ledger with subscriptions := ledger.subscriptions.put row } := by
  have rows := Subscriptions.mem_put member keys
  have id : row.id = sub.id := congrArg Prod.fst keys
  have merchant : row.merchantId = sub.merchantId := congrArg Prod.snd keys
  refine ⟨⟨?priced, ?known, ?issued, consistent.settled, consistent.totals⟩, ?within, .refl _ _ _, ?active, fun invoice inside =>
    ⟨invoice, inside, rfl, fun was => was⟩⟩
  case priced =>
    intro a inside
    rcases (rows a).mp inside with ⟨old, _⟩ | rfl
    · exact consistent.priced a old
    · exact priced
  case known =>
    intro a inside
    rcases (rows a).mp inside with ⟨old, _⟩ | rfl
    · exact consistent.known a old
    · exact known
  case issued =>
    intro invoice inside
    obtain ⟨owner, there, names, same⟩ := consistent.issued invoice inside
    by_cases written : owner.id = row.id
    · obtain rfl := KeyedRows.faithful_of_nodup BillingSubscription.id ledger.subscriptions.ids owner there sub member (written.trans id)
      exact ⟨row, (rows row).mpr (.inr rfl), names.trans (congrArg some id.symm), same.trans merchant.symm⟩
    · exact ⟨owner, (rows owner).mpr (.inl ⟨there, written⟩), names, same⟩
  case within =>
    refine Within.update BillingSubscription.id (fun _ => rfl) fun a inside same => ?_
    obtain rfl := KeyedRows.faithful_of_nodup BillingSubscription.id ledger.subscriptions.ids a inside sub member (same.trans id)
    exact own
  case active =>
    intro a inside isActive
    rcases (rows a).mp inside with ⟨old, _⟩ | rfl
    · exact .inr ⟨a, old, rfl, isActive⟩
    · rcases active isActive with granted | was
      · exact .inl (merchant ▸ granted)
      · exact .inr ⟨sub, member, keys.symm, was⟩

theorem Subscriptions.insert_ok {table grown : Subscriptions} (added : table.insert row = .ok grown) : grown.rows = table.rows ++ [row] := by
  unfold insert at added
  split at added
  · cases added
    rfl
  · cases added

/-- A subscription is added, which is not active. -/
theorem Moves.insert {grown : Subscriptions} (consistent : Consistent ledger) (added : ledger.subscriptions.insert row = .ok grown)
    (own : mine row.merchantId) (priced : Priced row) (known : row.status ∈ statuses) (inactive : row.status ≠ "ACTIVE") :
    Moves mine grants ledger { ledger with subscriptions := grown } := by
  have rows := Subscriptions.insert_ok added
  refine ⟨⟨?priced, ?known, ?issued, consistent.settled, consistent.totals⟩, ?within, .refl _ _ _, ?active, fun invoice inside =>
    ⟨invoice, inside, rfl, id⟩⟩
  case priced =>
    rw [rows]
    exact List.forall_mem_append.mpr ⟨consistent.priced, List.forall_mem_singleton.mpr priced⟩
  case known =>
    rw [rows]
    exact List.forall_mem_append.mpr ⟨consistent.known, List.forall_mem_singleton.mpr known⟩
  case issued =>
    intro invoice inside
    obtain ⟨owner, there, same⟩ := consistent.issued invoice inside
    exact ⟨owner, by rw [rows]; exact List.mem_append_left _ there, same⟩
  case within =>
    rw [rows]
    exact Within.snoc own
  case active =>
    rw [rows]
    intro a inside isActive
    rcases List.mem_append.mp inside with old | last
    · exact .inr ⟨a, old, rfl, isActive⟩
    · exact absurd (List.mem_singleton.mp last ▸ isActive) inactive

/-- An invoice of a subscription is added, which is pending. -/
theorem Moves.issue {grown : Invoices} {invoice : BillingInvoice} (consistent : Consistent ledger)
    (added : ledger.invoices.insert invoice = .ok grown) (member : sub ∈ ledger.subscriptions.rows)
    (names : invoice.subscriptionId = some sub.id) (merchant : invoice.merchantId = sub.merchantId) (own : mine sub.merchantId)
    (pending : invoice.status = "PENDING" ∧ invoice.paidAt = none)
    (total : invoice.total.money.toRat = invoice.subtotal.money.toRat + invoice.tax.money.toRat) :
    Moves mine grants ledger { ledger with invoices := grown } := by
  have rows := Invoices.insert_ok added
  refine ⟨⟨consistent.priced, consistent.known, ?issued, ?settled, ?totals⟩, .refl _ _ _, ?within, fun a inside active =>
    .inr ⟨a, inside, rfl, active⟩, ?paid⟩
  case issued =>
    rw [rows]
    exact List.forall_mem_append.mpr ⟨consistent.issued, List.forall_mem_singleton.mpr ⟨sub, member, names, merchant⟩⟩
  case settled =>
    rw [rows]
    exact List.forall_mem_append.mpr ⟨consistent.settled, List.forall_mem_singleton.mpr (.inl pending)⟩
  case totals =>
    rw [rows]
    exact List.forall_mem_append.mpr ⟨consistent.totals, List.forall_mem_singleton.mpr total⟩
  case within =>
    rw [rows]
    exact Within.snoc (by rw [← merchant] at own; exact own)
  case paid =>
    intro other inside
    exact ⟨other, by rw [rows]; exact List.mem_append_left _ inside, rfl, id⟩

/-- An invoice is paid: what that writes leaves its terms. -/
theorem Moves.pay {table : Invoices} {id : String} {write : BillingInvoice → BillingInvoice} (consistent : Consistent ledger)
    (rows : table.rows = KeyedRows.update BillingInvoice.id id write ledger.invoices.rows)
    (terms : ∀ invoice, (write invoice).terms = invoice.terms)
    (paid : ∀ invoice, (write invoice).status = "PAID" ∧ (write invoice).paidAt.isSome = true)
    (own : ∀ invoice ∈ ledger.invoices.rows, invoice.id = id → mine invoice.merchantId) :
    Moves mine grants ledger { ledger with invoices := table } := by
  -- A row that is there comes from one with its terms, and is that one or paid.
  have origin : ∀ invoice ∈ table.rows, ∃ old ∈ ledger.invoices.rows, invoice.terms = old.terms ∧ (invoice = old ∨ invoice = write old) := by
    intro invoice inside
    rw [rows] at inside
    rcases (KeyedRows.mem_update BillingInvoice.id invoice).mp inside with ⟨old, _⟩ | ⟨old, there, _, rfl⟩
    · exact ⟨invoice, old, rfl, .inl rfl⟩
    · exact ⟨old, there, terms old, .inr rfl⟩
  refine ⟨⟨consistent.priced, consistent.known, ?issued, ?settled, ?totals⟩, .refl _ _ _, ?within, fun a inside active =>
    .inr ⟨a, inside, rfl, active⟩, ?kept⟩
  case issued =>
    intro invoice inside
    obtain ⟨old, there, same, _⟩ := origin invoice inside
    obtain ⟨owner, known, names, merchant⟩ := consistent.issued old there
    exact ⟨owner, known, (congrArg BillingInvoice.subscriptionId same).trans names, (congrArg BillingInvoice.merchantId same).trans merchant⟩
  case settled =>
    intro invoice inside
    obtain ⟨old, there, _, rfl | rfl⟩ := origin invoice inside
    · exact consistent.settled _ there
    · exact .inr (paid old)
  case totals =>
    intro invoice inside
    obtain ⟨old, there, same, _⟩ := origin invoice inside
    have total : invoice.terms.total = old.terms.total := congrArg BillingInvoice.total same
    have subtotal : invoice.terms.subtotal = old.terms.subtotal := congrArg BillingInvoice.subtotal same
    have tax : invoice.terms.tax = old.terms.tax := congrArg BillingInvoice.tax same
    change invoice.total = old.total at total
    change invoice.subtotal = old.subtotal at subtotal
    change invoice.tax = old.tax at tax
    rw [total, subtotal, tax]
    exact consistent.totals old there
  case within =>
    rw [rows]
    exact Within.update BillingInvoice.id terms fun invoice inside same => own invoice inside same
  case kept =>
    intro invoice inside
    by_cases same : invoice.id = id
    · exact ⟨write invoice, by rw [rows]; exact (KeyedRows.mem_update BillingInvoice.id _).mpr (.inr ⟨invoice, inside, same, rfl⟩),
        terms invoice, fun _ => (paid invoice).1⟩
    · exact ⟨invoice, by rw [rows]; exact (KeyedRows.mem_update BillingInvoice.id _).mpr (.inl ⟨inside, same⟩), rfl, fun was => was⟩

end Writes

/-! ## Requests -/

theorem Plan.priced (sub : BillingSubscription) (r : CheckoutRequest) (finish : Int) : Priced (planned sub r finish) :=
  .inr ⟨r.plan, rfl, rfl, rfl⟩

/-- No tax. -/
theorem untaxed (amount : Rat) : amount = amount + (⟨0, -2⟩ : Decimal).money.toRat := by
  have free : (⟨0, -2⟩ : Decimal).money.toRat = 0 := by decide +kernel
  rw [free, add_zero]

/-- The price of a plan is its total: no tax is added. -/
theorem Priced.total {sub : BillingSubscription} (priced : Priced sub) :
    (sub.monthlyPrice.add ⟨0, -2⟩).money.toRat = sub.monthlyPrice.money.toRat + (⟨0, -2⟩ : Decimal).money.toRat := by
  rw [← untaxed]
  rcases priced with ⟨_, price, _⟩ | ⟨plan, _, price, _⟩
  · rw [price]
    rfl
  · rw [price]
    cases plan <;> rfl

section Requests
variable {settings : BillingSettings} {listing : Listing BillingInvoice.issuedAt} {mine grants : String → Prop}
  {ledger after : Ledger} {r : Request} {answer : Answer}

/-- The workspace has its subscription: one it had, or a new trial. -/
theorem trial_moves {subscriptions : Subscriptions} {c : CheckoutRequest} {sub : BillingSubscription} (consistent : Consistent ledger)
    (own : mine c.merchantId) (made : ensureTrial ledger.subscriptions c = .ok (sub, subscriptions)) :
    Moves mine grants ledger { ledger with subscriptions } ∧ sub ∈ subscriptions.rows ∧ sub.merchantId = c.merchantId := by
  unfold ensureTrial at made
  split at made
  · next found =>
    cases made
    exact ⟨.of_same consistent rfl rfl, List.mem_of_find?_eq_some found, by simpa using List.find?_some found⟩
  · obtain ⟨finish, _, made⟩ := Outcome.bind_ok made
    obtain ⟨grown, added, made⟩ := Outcome.bind_ok made
    cases made
    refine ⟨.insert consistent added own (.inl ⟨rfl, rfl, rfl⟩) (show "TRIAL" ∈ statuses by decide)
      (show "TRIAL" ≠ "ACTIVE" by decide), ?_, rfl⟩
    rw [Subscriptions.insert_ok added]
    exact List.mem_append_right _ (List.mem_singleton_self _)

theorem trialOf_moves {sub : BillingSubscription} (consistent : Consistent ledger) (own : mine r.user.merchantId)
    (made : trialOf ledger r = .ok (sub, after)) :
    Moves mine grants ledger after ∧ sub ∈ after.subscriptions.rows ∧ sub.merchantId = r.user.merchantId := by
  obtain ⟨⟨found, subscriptions⟩, ensured, same⟩ := Outcome.map_ok made
  cases same
  exact trial_moves (c := r.checkout .starter) consistent own ensured

theorem ofMerchant?_some {table : Subscriptions} {merchantId : String} {sub : BillingSubscription}
    (found : table.ofMerchant? merchantId = some sub) : sub ∈ table.rows ∧ sub.merchantId = merchantId :=
  ⟨List.mem_of_find?_eq_some found, by simpa using List.find?_some found⟩

/-- A write that leaves a subscription's plan and status. -/
theorem Moves.write {sub row : BillingSubscription} (consistent : Consistent ledger) (member : sub ∈ ledger.subscriptions.rows)
    (keys : row.keys = sub.keys) (own : mine sub.merchantId) (priced : Priced sub → Priced row) (status : row.status = sub.status) :
    Moves mine grants ledger { ledger with subscriptions := ledger.subscriptions.put row } :=
  .put consistent member keys own (priced (consistent.priced sub member)) (status ▸ consistent.known sub member)
    fun active => .inr (status ▸ active)

theorem manualOnly_ok {detail : String} {u : Unit} (passed : manualOnly settings detail = .ok u) : settings.billingProvider ≠ "razorpay" := by
  unfold manualOnly at passed
  split at passed
  · cases passed
  · assumption

theorem requireAdmin_ok {user : Security.User} {u : Unit} (passed : Api.requireRoles ["ADMIN"] user = .ok u) : user.role = "ADMIN" :=
  List.mem_singleton.mp (Api.requireRoles_ok passed)

/-- What an administrator confirms by hand. -/
def Operation.Confirms : Operation → Prop
  | .activate _ | .markPaid _ => True
  | _ => False

theorem overview_moves (consistent : Consistent ledger) (own : mine r.user.merchantId)
    (done : overview listing ledger r = .ok (answer, after)) : Moves mine grants ledger after := by
  obtain ⟨⟨sub, grown⟩, made, done⟩ := Outcome.bind_ok done
  cases done
  exact (trialOf_moves consistent own made).1

theorem currentUsage_moves (consistent : Consistent ledger) (own : mine r.user.merchantId)
    (done : currentUsage ledger r = .ok (answer, after)) : Moves mine grants ledger after := by
  obtain ⟨⟨sub, grown⟩, made, done⟩ := Outcome.bind_ok done
  cases done
  exact (trialOf_moves consistent own made).1

theorem activate_moves {plan : Plan} (consistent : Consistent ledger) (own : mine r.user.merchantId)
    (granted : r.user.role = "ADMIN" → settings.billingProvider ≠ "razorpay" → grants r.user.merchantId)
    (done : activate settings ledger r plan = .ok (answer, after)) : Moves mine grants ledger after := by
  obtain ⟨_, admin, done⟩ := Outcome.bind_ok done
  obtain ⟨⟨sub, grown⟩, made, done⟩ := Outcome.bind_ok done
  obtain ⟨_, manual, done⟩ := Outcome.bind_ok done
  obtain ⟨finish, _, done⟩ := Outcome.bind_ok done
  cases done
  obtain ⟨first, member, merchant⟩ : Moves mine grants ledger grown ∧ sub ∈ grown.subscriptions.rows ∧ sub.merchantId = r.user.merchantId :=
    trialOf_moves consistent own made
  have second : Moves mine grants grown
      { grown with subscriptions := grown.subscriptions.put ({ planned sub (r.checkout plan) finish with status := "ACTIVE" }) } :=
    .put first.consistent member rfl (merchant ▸ own) (.inr ⟨plan, rfl, rfl, rfl⟩) (show "ACTIVE" ∈ statuses by decide)
      fun _ => .inl (merchant ▸ granted (requireAdmin_ok admin) (manualOnly_ok manual))
  exact first.trans second

theorem ended_ok {sub ending : BillingSubscription} (done : ended settings sub r = .ok ending) :
    ending.keys = sub.keys ∧ (Priced sub → Priced ending) ∧ (ending.status = sub.status ∨ ending.status = "CANCELLED") := by
  unfold ended at done
  simp only at done
  split at done
  · obtain ⟨remote, _, done⟩ := Outcome.bind_ok done
    split at done <;> cases done
    · exact ⟨rfl, id, .inr rfl⟩
    · exact ⟨rfl, id, .inl rfl⟩
  · cases done
    exact ⟨rfl, id, .inl rfl⟩

theorem cancel_moves (consistent : Consistent ledger) (own : mine r.user.merchantId)
    (done : cancel settings ledger r = .ok (answer, after)) : Moves mine grants ledger after := by
  obtain ⟨_, _, done⟩ := Outcome.bind_ok done
  split at done
  · cases done
  next sub found =>
  obtain ⟨member, merchant⟩ := ofMerchant?_some found
  obtain ⟨ending, stopped, done⟩ := Outcome.bind_ok done
  cases done
  obtain ⟨keys, priced, same | cancelled⟩ := ended_ok stopped
  · exact .write consistent member keys (merchant ▸ own) priced same
  · exact .put consistent member keys (merchant ▸ own) (priced (consistent.priced sub member)) (by rw [cancelled]; decide)
      fun active => absurd (cancelled.symm.trans active) (by decide)

/-- The subscription an invoice was issued for is the one that its id finds. -/
theorem confirmed_some {invoice : BillingInvoice} {row : BillingSubscription} (consistent : Consistent ledger)
    (issued : invoice ∈ ledger.invoices.rows) (found : confirmed ledger invoice = some row) :
    ∃ sub ∈ ledger.subscriptions.rows, sub.merchantId = invoice.merchantId ∧ row.keys = sub.keys ∧ (Priced sub → Priced row) ∧
      (row.status = sub.status ∨ row.status = "ACTIVE") := by
  obtain ⟨sub, lookup, rfl⟩ := Option.map_eq_some_iff.mp found
  obtain ⟨subscriptionId, filtered, lookup⟩ := Option.bind_eq_some_iff.mp lookup
  obtain ⟨named, _⟩ := Option.filter_eq_some_iff.mp filtered
  obtain ⟨owner, inside, names, merchant⟩ := consistent.issued invoice issued
  have member : sub ∈ ledger.subscriptions.rows := List.mem_of_find?_eq_some lookup
  have id : sub.id = subscriptionId := by simpa using List.find?_some lookup
  have same : owner = sub :=
    KeyedRows.faithful_of_nodup BillingSubscription.id ledger.subscriptions.ids owner inside sub member
      ((Option.some.inj (names.symm.trans named)).trans id.symm)
  refine ⟨sub, member, same ▸ merchant.symm, ?_⟩
  split
  · exact ⟨rfl, fun priced => priced, .inr rfl⟩
  · exact ⟨rfl, fun priced => priced, .inl rfl⟩

theorem markPaid_moves {invoiceId : String} (consistent : Consistent ledger) (own : mine r.user.merchantId)
    (granted : r.user.role = "ADMIN" → settings.billingProvider ≠ "razorpay" → grants r.user.merchantId)
    (done : markPaid settings ledger r invoiceId = .ok (answer, after)) : Moves mine grants ledger after := by
  obtain ⟨_, admin, done⟩ := Outcome.bind_ok done
  split at done
  · cases done
  next invoice found =>
  obtain ⟨member, merchant⟩ := List.mem_filter.mp (List.mem_of_find?_eq_some found)
  have merchant : invoice.merchantId = r.user.merchantId := by simpa using merchant
  obtain ⟨_, manual, done⟩ := Outcome.bind_ok done
  split at done
  · cases done
    exact .of_same consistent rfl rfl
  · cases done
    have first : Moves mine grants ledger { ledger with invoices := ledger.invoices.settle invoice.id r.now } :=
      .pay consistent rfl (fun _ => rfl) (fun _ => ⟨rfl, rfl⟩) fun other inside same => by
        obtain rfl := KeyedRows.faithful_of_nodup BillingInvoice.id ledger.invoices.ids other inside invoice member same
        exact merchant ▸ own
    cases paid : confirmed ledger invoice with
    | none => exact first
    | some row =>
      obtain ⟨sub, there, owner, keys, priced, status⟩ := confirmed_some consistent member paid
      refine first.trans (.put first.consistent there keys ((owner.trans merchant) ▸ own) (priced (consistent.priced sub there)) ?_ ?_)
      · rcases status with same | active
        · exact same ▸ consistent.known sub there
        · exact active ▸ (show "ACTIVE" ∈ statuses by decide)
      · exact fun _ => .inl ((owner.trans merchant) ▸ granted (requireAdmin_ok admin) (manualOnly_ok manual))

variable [WebhookRuntime]

theorem provided_ok {sub sold : BillingSubscription} {c : CheckoutRequest} {data : Option CheckoutData}
    (made : provided settings sub c = .ok (sold, data)) :
    sold.keys = sub.keys ∧ sold.status = "PENDING_ACTIVATION" ∧ (Priced sub → Priced sold) ∧ sold.monthlyPrice = sub.monthlyPrice := by
  unfold provided at made
  split at made
  · obtain ⟨plan, _, made⟩ := Outcome.bind_ok made
    obtain ⟨remote, _, made⟩ := Outcome.bind_ok made
    obtain ⟨subscriptionId, _, made⟩ := Outcome.bind_ok made
    obtain ⟨customerId, _, made⟩ := Outcome.bind_ok made
    cases made
    exact ⟨rfl, rfl, id, rfl⟩
  · cases made
    exact ⟨rfl, rfl, id, rfl⟩

theorem checkout_moves {c : CheckoutRequest} {reply : CheckoutReply} (consistent : Consistent ledger) (own : mine c.merchantId)
    (done : checkoutSession settings ledger c = .ok (reply, after)) : Moves mine grants ledger after := by
  obtain ⟨⟨sub, subscriptions⟩, trial, done⟩ := Outcome.bind_ok done
  obtain ⟨first, member, merchant⟩ : Moves mine grants ledger { ledger with subscriptions } ∧ sub ∈ subscriptions.rows ∧
      sub.merchantId = c.merchantId := trial_moves consistent own trial
  simp only at done
  split at done
  · cases done
  · obtain ⟨finish, _, done⟩ := Outcome.bind_ok done
    obtain ⟨⟨sold, data⟩, made, done⟩ := Outcome.bind_ok done
    obtain ⟨⟨invoice, invoices⟩, created, done⟩ := Outcome.bind_ok done
    cases done
    obtain ⟨keys, pending, priced, price⟩ := provided_ok made
    have sold_priced := priced (Plan.priced sub c finish)
    have second : Moves mine grants { ledger with subscriptions } { ledger with subscriptions := subscriptions.put sold } :=
      .put first.consistent member keys (merchant ▸ own) sold_priced (by rw [pending]; decide)
        (fun active => absurd (pending.symm.trans active) (by decide))
    obtain ⟨due, _, created⟩ := Outcome.bind_ok created
    obtain ⟨grown, added, created⟩ := Outcome.bind_ok created
    cases created
    have sold_member : sold ∈ (subscriptions.put sold).rows := (Subscriptions.mem_put member keys sold).mpr (.inr rfl)
    have sold_merchant : sold.merchantId = c.merchantId := (congrArg Prod.snd keys).trans merchant
    refine (first.trans second).trans (.issue second.consistent added sold_member rfl rfl (sold_merchant ▸ own) ⟨rfl, rfl⟩ ?_)
    exact sold_priced.total

theorem verify_moves {paymentId subscriptionId signature : String} (consistent : Consistent ledger) (own : mine r.user.merchantId)
    (done : verifyRazorpayCheckout settings ledger r paymentId subscriptionId signature = .ok (answer, after)) :
    Moves mine grants ledger after := by
  obtain ⟨_, _, done⟩ := Outcome.bind_ok done
  split at done
  · cases done
  split at done
  · cases done
  next sub found =>
  obtain ⟨member, merchant⟩ := ofMerchant?_some found
  split at done
  · cases done
  obtain ⟨valid, _, done⟩ := Outcome.bind_ok done
  split at done
  · cases done
    exact .write consistent member rfl (merchant ▸ own) id rfl
  · cases done

/-- What a request may make of the ledger of its user's workspace. -/
theorem session_moves {operation : Operation} (consistent : Consistent ledger) (own : mine r.user.merchantId)
    (granted : r.user.role = "ADMIN" → settings.billingProvider ≠ "razorpay" → operation.Confirms → grants r.user.merchantId)
    (done : session settings listing ledger r operation = .ok (answer, after)) : Moves mine grants ledger after := by
  cases operation with
  | overview => exact overview_moves consistent own done
  | usage => exact currentUsage_moves consistent own done
  | invoices =>
    cases done
    exact .of_same consistent rfl rfl
  | checkout plan =>
    obtain ⟨⟨reply, left⟩, sold, same⟩ := Outcome.map_ok done
    cases same
    exact checkout_moves (c := r.checkout plan) consistent own sold
  | verify paymentId subscriptionId signature => exact verify_moves consistent own done
  | activate plan => exact activate_moves consistent own (fun admin manual => granted admin manual trivial) done
  | cancel => exact cancel_moves consistent own done
  | markPaid invoiceId => exact markPaid_moves consistent own (fun admin manual => granted admin manual trivial) done

end Requests

/-! ## Deliveries -/

section Deliveries
variable [WebhookRuntime] {settings : BillingSettings} {mine grants : String → Prop} {ledger after : Ledger} {d : Delivery}

omit [WebhookRuntime] in
theorem statusMap_known {text status : String} (maps : statusMap text = some status) : status ∈ statuses := by
  unfold statusMap at maps
  split at maps <;> cases maps <;> decide

theorem updated_priced {sub changed : BillingSubscription} {event : SubscriptionEvent} (done : updated sub event = .ok changed)
    (priced : Priced sub) : Priced changed := by
  obtain ⟨customer, _, done⟩ := Outcome.bind_ok done
  obtain ⟨plan, _, done⟩ := Outcome.bind_ok done
  obtain ⟨start, _, done⟩ := Outcome.bind_ok done
  obtain ⟨finish, _, done⟩ := Outcome.bind_ok done
  obtain ⟨payment, _, done⟩ := Outcome.bind_ok done
  cases done
  change Priced (applyStatus sub event)
  unfold applyStatus
  split
  · exact priced
  · split
    · exact priced
    · exact priced

/-- The status of a subscription after an event: as it was, or as the event says. -/
theorem updated_status {sub changed : BillingSubscription} {event : SubscriptionEvent} (done : updated sub event = .ok changed) :
    changed.status = sub.status ∨ event.carriedStatus = some changed.status := by
  have status := (updated_written done).status
  unfold SubscriptionEvent.carriedStatus
  cases captured : event.captured with
  | true =>
    rw [captured] at status
    exact .inr (by rw [status]; rfl)
  | false =>
    rw [captured] at status
    cases mapped : event.mapped with
    | none =>
      rw [mapped] at status
      exact .inl (by simpa using status)
    | some told =>
      rw [mapped] at status
      cases applied : applies sub event with
      | true =>
        rw [applied] at status
        exact .inr (by rw [status]; rfl)
      | false =>
        rw [applied] at status
        exact .inl (by simpa using status)

omit [WebhookRuntime] in
theorem carriedStatus_known {event : SubscriptionEvent} {status : String} (carried : event.carriedStatus = some status) :
    status ∈ statuses := by
  unfold SubscriptionEvent.carriedStatus at carried
  split at carried
  · cases carried
    decide
  · obtain ⟨told, mapped, rfl⟩ := Option.map_eq_some_iff.mp carried
    unfold SubscriptionEvent.mapped at mapped
    split at mapped
    · obtain ⟨status, maps, rfl⟩ := Option.map_eq_some_iff.mp mapped
      exact statusMap_known maps
    · cases mapped

/-- The invoice a payment names. -/
def billed (ledger : Ledger) (payment : RawData) : Option BillingInvoice :=
  ((queriedField payment "invoice_id").toOption.join).bind ledger.invoices.ofProvider?

theorem chargedInvoice_ok {invoiceId : String} {now : Int} {invoices : Invoices} {sub : BillingSubscription} {payment : RawData}
    {made : BillingInvoice} (done : chargedInvoice invoiceId now invoices sub payment = .ok made) :
    made.merchantId = sub.merchantId ∧ made.subscriptionId = some sub.id ∧ (made.status = "PENDING" ∧ made.paidAt = none) ∧
      made.total.money.toRat = made.subtotal.money.toRat + made.tax.money.toRat := by
  obtain ⟨amount, _, done⟩ := Outcome.bind_ok done
  obtain ⟨currency, _, done⟩ := Outcome.bind_ok done
  cases currency with
  | none => cases done
  | some currency =>
    cases done
    exact ⟨rfl, rfl, ⟨rfl, rfl⟩, untaxed _⟩

/-- The invoice a captured payment is booked on: one the payment names, or one of the subscription. -/
theorem invoiceFor_moves {invoiceId id : String} {now : Int} {grown : Invoices} {sub : BillingSubscription} {payment : RawData}
    (consistent : Consistent ledger) (member : sub ∈ ledger.subscriptions.rows) (own : mine sub.merchantId)
    (named : ∀ invoice, billed ledger payment = some invoice → mine invoice.merchantId)
    (done : invoiceFor invoiceId now ledger.invoices sub payment = .ok (id, grown)) :
    Moves mine grants ledger { ledger with invoices := grown } ∧ ∀ invoice ∈ grown.rows, invoice.id = id → mine invoice.merchantId := by
  obtain ⟨found, opened, done⟩ := Outcome.bind_ok done
  cases found with
  | some target =>
    cases done
    refine ⟨.of_same consistent rfl rfl, fun invoice inside same => ?_⟩
    have stored := openInvoice_mem opened
    obtain rfl := KeyedRows.faithful_of_nodup BillingInvoice.id ledger.invoices.ids invoice inside target stored same
    obtain ⟨name, read, opened⟩ := Outcome.bind_ok opened
    have found := Except.ok.inj opened
    cases lookup : name.bind ledger.invoices.ofProvider? with
    | some other =>
      rw [lookup] at found
      cases found
      exact named invoice (by simpa [billed, read, Except.toOption] using lookup)
    | none =>
      rw [lookup] at found
      -- The newest unpaid invoice of the subscription is its merchant's.
      have unpaid := (List.mem_filter.mp (List.argmax_mem found)).2
      obtain ⟨names, _⟩ : invoice.subscriptionId = some sub.id ∧ invoice.status ≠ "PAID" := by simpa using unpaid
      obtain ⟨owner, there, names', merchant⟩ := consistent.issued invoice inside
      obtain rfl := KeyedRows.faithful_of_nodup BillingSubscription.id ledger.subscriptions.ids owner there sub member
        (Option.some.inj (names'.symm.trans names))
      exact merchant ▸ own
  | none =>
    obtain ⟨made, making, done⟩ := Outcome.bind_ok done
    obtain ⟨added, inserted, done⟩ := Outcome.bind_ok done
    cases done
    obtain ⟨merchant, names, pending, total⟩ := chargedInvoice_ok making
    refine ⟨.issue consistent inserted member names merchant own pending total, fun invoice inside same => ?_⟩
    have last : Invoices.stored made ∈ grown.rows := by
      rw [Invoices.insert_ok inserted]
      exact List.mem_append_right _ (List.mem_singleton_self _)
    obtain rfl := KeyedRows.faithful_of_nodup BillingInvoice.id grown.ids invoice inside _ last same
    exact merchant ▸ own

theorem bookPayment_moves {invoiceId : String} {now : Int} {invoices : Invoices} {sub : BillingSubscription} {payment : RawData}
    (consistent : Consistent ledger) (member : sub ∈ ledger.subscriptions.rows) (own : mine sub.merchantId)
    (named : ∀ invoice, billed ledger payment = some invoice → mine invoice.merchantId)
    (done : bookPayment invoiceId now ledger.invoices sub payment = .ok invoices) :
    Moves mine grants ledger { ledger with invoices } := by
  obtain ⟨⟨id, grown⟩, found, done⟩ := Outcome.bind_ok done
  obtain ⟨providerInvoiceId, _, done⟩ := Outcome.bind_ok done
  obtain ⟨paymentId, _, done⟩ := Outcome.bind_ok done
  cases done
  obtain ⟨issued, booked⟩ : Moves mine grants ledger { ledger with invoices := grown } ∧
      ∀ invoice ∈ grown.rows, invoice.id = id → mine invoice.merchantId := invoiceFor_moves consistent member own named found
  exact issued.trans (.pay issued.consistent rfl (fun _ => rfl) (fun _ => ⟨rfl, rfl⟩) booked)

/-- The subscription that a delivery tells of, with the event less its time. -/
def toldOf (ledger : Ledger) (d : Delivery) : Option (BillingSubscription × SubscriptionEvent) := do
  let payload ← WebhookRuntime.loads d.raw
  let eventType ← (eventTypeOf payload).toOption
  let entity ← (entityOf payload "subscription").toOption
  let known ← (knownSubscription ledger.subscriptions entity).toOption
  let sub ← known
  let payment ← (entityOf payload "payment").toOption
  return (sub, ⟨eventType, none, entity, payment⟩)

/-- The workspaces a delivery names: that of its subscription, and that of the invoice its payment names. -/
def namedBy (ledger : Ledger) (d : Delivery) : List String :=
  match toldOf ledger d with
  | none => []
  | some (sub, event) => sub.merchantId :: ((billed ledger event.payment).map (·.merchantId)).toList

theorem toldOf_told {payload : Json} {eventId eventType : String} (opened : Opened settings ledger d payload eventId eventType)
    {named : String} {sub changed : BillingSubscription} {event : SubscriptionEvent} {invoices : Invoices}
    (told : Told d.invoiceId d.now ledger eventType payload named sub event changed invoices) :
    toldOf ledger d = some (sub, { event with createdAt := none }) := by
  simp [toldOf, opened.loaded, opened.typed, told.type, told.entity, told.knownSubscription, told.payment, Except.toOption]

theorem deliver_moves (consistent : Consistent ledger) (own : verified settings d = .ok true → ∀ merchant ∈ namedBy ledger d, mine merchant)
    (granted : verified settings d = .ok true → ∀ sub event, toldOf ledger d = some (sub, event) →
      event.carriedStatus = some "ACTIVE" → grants sub.merchantId) : Moves mine grants ledger (deliver settings ledger d) := by
  have what := handled settings ledger d
  unfold deliver
  generalize processRazorpayWebhook settings ledger d = result at what ⊢
  obtain ⟨reply, after⟩ := result
  cases what with
  | kept answered => exact .of_same consistent rfl rfl
  | @financial payload eventId eventType opened branch =>
    obtain ⟨subscriptions, invoices⟩ := financialEvent_kept d ledger eventId eventType payload
    exact .of_same consistent subscriptions invoices
  | @subscription payload eventId eventType reply changed after opened branch finished noted =>
    obtain ⟨subscriptions, invoices, _⟩ := Ledger.note_ok noted
    rcases subscriptionEvent_cases finished with ⟨_, rfl⟩ | ⟨named, sub, event, row, booked, told, _, rfl⟩
    · exact .of_same consistent subscriptions invoices
    · have tells := toldOf_told opened told
      have names : ∀ merchant ∈ sub.merchantId :: ((billed ledger event.payment).map (·.merchantId)).toList, mine merchant := by
        have named := own opened.verified
        unfold namedBy at named
        rw [tells] at named
        exact named
      obtain ⟨mineSub, mineInvoice⟩ := List.forall_mem_cons.mp names
      obtain ⟨member, _⟩ := Subscriptions.ofProvider?_some told.known
      have written := updated_written told.updated
      have keys : row.keys = sub.keys := Prod.ext written.id written.merchantId
      have first : Moves mine grants ledger { ledger with subscriptions := ledger.subscriptions.put row } := by
        refine .put consistent member keys mineSub (updated_priced told.updated (consistent.priced sub member)) ?known ?active
        case known =>
          rcases updated_status told.updated with same | carried
          · exact same ▸ consistent.known sub member
          · exact carriedStatus_known carried
        case active =>
          intro active
          rcases updated_status told.updated with same | carried
          · exact .inr (same ▸ active)
          · exact .inl (granted opened.verified sub _ tells (active ▸ carried))
      have second : Moves mine grants ledger { ledger with subscriptions := ledger.subscriptions.put row, invoices := booked } := by
        have done := told.booked
        split at done
        · have inside : row ∈ (ledger.subscriptions.put row).rows := (Subscriptions.mem_put member keys row).mpr (.inr rfl)
          refine first.trans (bookPayment_moves first.consistent inside (written.merchantId ▸ mineSub) (fun invoice found => ?_) done)
          exact mineInvoice _ (by rw [Option.mem_toList]; exact Option.mem_map_of_mem _ found)
        · cases done
          exact first
      exact second.trans (.of_same second.consistent subscriptions invoices)

end Deliveries

/-! ## Runs -/

section Runs
variable [WebhookRuntime] (settings : BillingSettings) (listing : Listing BillingInvoice.issuedAt)

/-- The workspaces whose billing an event may change: its user's, or those that a delivery of the provider names. -/
def Concerns (merchantId : String) (ledger : Ledger) : BillingEvent → Prop
  | .request r _ => r.user.merchantId = merchantId
  | .webhook d => verified settings d = .ok true ∧ merchantId ∈ namedBy ledger d

/-- What makes the subscription of a workspace active: an administrator of its own, where no
provider is configured, or a delivery of the provider that reports it active or paid. -/
def Grants (merchantId : String) (ledger : Ledger) : BillingEvent → Prop
  | .request r operation =>
    r.user.merchantId = merchantId ∧ r.user.role = "ADMIN" ∧ settings.billingProvider ≠ "razorpay" ∧ operation.Confirms
  | .webhook d => verified settings d = .ok true ∧
    ∃ sub event, toldOf ledger d = some (sub, event) ∧ sub.merchantId = merchantId ∧ event.carriedStatus = some "ACTIVE"

variable {settings listing} {ledger : Ledger}

variable (settings listing) in
/-- What one event does. -/
theorem advance_moves (consistent : Consistent ledger) (event : BillingEvent) :
    Moves (fun merchant => Concerns settings merchant ledger event) (fun merchant => Grants settings merchant ledger event)
      ledger (advance settings listing ledger event) := by
  cases event with
  | request r operation =>
    simp only [advance, serve]
    cases done : session settings listing ledger r operation with
    | error failure => exact .of_same consistent rfl rfl
    | ok result => exact session_moves consistent rfl (fun admin manual confirms => ⟨rfl, admin, manual, confirms⟩) done
  | webhook d =>
    exact deliver_moves consistent (fun checked merchant named => ⟨checked, named⟩)
      fun checked sub event tells active => ⟨checked, sub, event, tells, rfl, active⟩

theorem run_consistent (consistent : Consistent ledger) (events : List BillingEvent) :
    Consistent (Runs.run (advance settings listing) ledger events) := by
  have kept : ∀ (ledger : Ledger) (event : BillingEvent), Consistent ledger → Consistent (advance settings listing ledger event) :=
    fun _ event consistent => (advance_moves settings listing consistent event).consistent
  exact Runs.invariant kept consistent events

/-- No invoice is lost or written over, and none that is paid becomes unpaid. -/
theorem run_kept (consistent : Consistent ledger) (events : List BillingEvent) {invoice : BillingInvoice}
    (member : invoice ∈ ledger.invoices.rows) :
    ∃ later ∈ (Runs.run (advance settings listing) ledger events).invoices.rows,
      later.terms = invoice.terms ∧ (invoice.status = "PAID" → later.status = "PAID") := by
  induction events generalizing ledger invoice with
  | nil => exact ⟨invoice, member, rfl, id⟩
  | cons event rest ih =>
    have moves := advance_moves settings listing consistent event
    obtain ⟨middle, inside, terms, stays⟩ := moves.paid invoice member
    obtain ⟨later, there, same, still⟩ := ih moves.consistent inside
    exact ⟨later, there, same.trans terms, fun paid => still (stays paid)⟩

/-- In every run of requests and deliveries, from the empty tables, each subscription has the price
of its plan and a known status, each invoice is of its workspace's own subscription and adds up,
and from then on is kept with its terms, and stays paid once it is. -/
theorem billing_consistent (settings : BillingSettings) (listing : Listing BillingInvoice.issuedAt) (before later : List BillingEvent) :
    Consistent (Runs.run (advance settings listing) {} (before ++ later)) ∧
      ∀ invoice ∈ (Runs.run (advance settings listing) {} before).invoices.rows,
        ∃ kept ∈ (Runs.run (advance settings listing) {} (before ++ later)).invoices.rows,
          kept.terms = invoice.terms ∧ (invoice.status = "PAID" → kept.status = "PAID") := by
  refine ⟨run_consistent consistent_empty _, fun invoice member => ?_⟩
  rw [Runs.run_append]
  exact run_kept (run_consistent consistent_empty before) later member

/-- The rows of a workspace that no event concerns. -/
theorem run_isolated (consistent : Consistent ledger) {merchantId : String} {events : List BillingEvent}
    (foreign : Runs.Along (advance settings listing) (fun ledger event => ¬Concerns settings merchantId ledger event) ledger events) :
    (Runs.run (advance settings listing) ledger events).subscriptions.rows.filter (fun sub => sub.merchantId = merchantId) =
        ledger.subscriptions.rows.filter (fun sub => sub.merchantId = merchantId) ∧
      (Runs.run (advance settings listing) ledger events).invoices.rows.filter (fun invoice => invoice.merchantId = merchantId) =
        ledger.invoices.rows.filter fun invoice => invoice.merchantId = merchantId := by
  induction events generalizing ledger with
  | nil => exact ⟨rfl, rfl⟩
  | cons event rest ih =>
    have moves := advance_moves settings listing consistent event
    have apart : ∀ merchant, Concerns settings merchant ledger event → decide (merchant = merchantId) = false := by
      intro merchant concerns
      refine decide_eq_false fun same => foreign.1 (same ▸ concerns)
    obtain ⟨subscriptions, invoices⟩ := ih moves.consistent foreign.2
    exact ⟨subscriptions.trans (moves.subscriptions.filter_eq (fun keys => decide (keys.2 = merchantId)) fun keys => apart keys.2),
      invoices.trans (moves.invoices.filter_eq (fun terms => decide (terms.merchantId = merchantId)) fun terms => apart terms.merchantId)⟩

/-- An active subscription was active before, or an event of the run made it so. -/
theorem run_active (consistent : Consistent ledger) {events : List BillingEvent} {sub : BillingSubscription}
    (member : sub ∈ (Runs.run (advance settings listing) ledger events).subscriptions.rows) (active : sub.status = "ACTIVE") :
    (∃ earlier ∈ ledger.subscriptions.rows, earlier.keys = sub.keys ∧ earlier.status = "ACTIVE") ∨
      ∃ before event after, events = before ++ event :: after ∧
        Grants settings sub.merchantId (Runs.run (advance settings listing) ledger before) event := by
  induction events generalizing ledger with
  | nil => exact .inl ⟨sub, member, rfl, active⟩
  | cons event rest ih =>
    have moves := advance_moves settings listing consistent event
    rcases ih moves.consistent member with ⟨earlier, inside, keys, was⟩ | ⟨before, granting, after, rfl, grants⟩
    · rcases moves.active earlier inside was with granted | ⟨first, there, same, active⟩
      · have merchant : earlier.merchantId = sub.merchantId := congrArg Prod.snd keys
        exact .inr ⟨[], event, rest, rfl, merchant ▸ granted⟩
      · exact .inl ⟨first, there, same.trans keys, active⟩
    · exact .inr ⟨event :: before, granting, after, rfl, grants⟩

/-- In a run from the empty tables, as long as no event concerns a workspace, its rows stay as they are. -/
theorem billing_isolated {merchantId : String} {before later : List BillingEvent}
    (foreign : Runs.Along (advance settings listing) (fun ledger event => ¬Concerns settings merchantId ledger event)
      (Runs.run (advance settings listing) {} before) later) :
    (Runs.run (advance settings listing) {} (before ++ later)).subscriptions.rows.filter (fun sub => sub.merchantId = merchantId) =
        (Runs.run (advance settings listing) {} before).subscriptions.rows.filter (fun sub => sub.merchantId = merchantId) ∧
      (Runs.run (advance settings listing) {} (before ++ later)).invoices.rows.filter (fun invoice => invoice.merchantId = merchantId) =
        (Runs.run (advance settings listing) {} before).invoices.rows.filter fun invoice => invoice.merchantId = merchantId := by
  rw [Runs.run_append]
  exact run_isolated (run_consistent consistent_empty before) foreign

end Runs

section Examples
open PlainText

local instance noDocuments : WebhookRuntime := plainWebhooks []

def byIssue : Listing BillingInvoice.issuedAt where
  list rows := rows.insertionSort fun a b => b.issuedAt ≤ a.issuedAt
  descending _ := ⟨List.perm_insertionSort _ _, List.pairwise_insertionSort _ _⟩

def byAdmin (merchantId : String) : Request where
  user := Api.member merchantId
  now := 1704110400000000
  subscriptionId := "s-" ++ merchantId
  invoiceId := "i-" ++ merchantId

def activated : BillingEvent := .request (byAdmin "m1") (.activate .growth)

def growthSubscription : BillingSubscription where
  id := "s-m1"
  merchantId := "m1"
  planCode := "GROWTH"
  status := "ACTIVE"
  monthlyPrice := ⟨2499900, -2⟩
  monthlyTransactionLimit := some 500000
  currentPeriodStart := 1704110400000000
  currentPeriodEnd := 1706788800000000

theorem billing_isolated_checkout :
    (Runs.run (advance {} byIssue) {} ([activated] ++ [.request (byAdmin "m2") (.checkout .starter)])).subscriptions.rows.filter
        (fun sub => sub.merchantId = "m1") =
        (Runs.run (advance {} byIssue) {} [activated]).subscriptions.rows.filter (fun sub => sub.merchantId = "m1") ∧
      (Runs.run (advance {} byIssue) {} ([activated] ++ [.request (byAdmin "m2") (.checkout .starter)])).invoices.rows.filter
        (fun invoice => invoice.merchantId = "m1") =
        (Runs.run (advance {} byIssue) {} [activated]).invoices.rows.filter fun invoice => invoice.merchantId = "m1" := by
  have other : ("m2" : String) ≠ "m1" := by decide
  exact billing_isolated ⟨other, trivial⟩

end Examples

end RCAA.Billing
