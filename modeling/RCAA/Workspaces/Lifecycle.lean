import RCAA.Billing.Standing
import RCAA.Workspaces.Product

/-! Workspaces over whole runs of sign-ups, billing and onboarding, while the other tables change
in any way. Each merchant has its onboarding and its subscription. An onboarding that is complete
was completed by an administrator with data and a run, and stays so until the profile changes.
What the product routes take for a completed onboarding is never stored. -/

namespace RCAA.Workspaces
open Api (requireRoles_ok)
open Audit (AuditEvent)
open Billing (BillingEvent BillingInvoice BillingSettings BillingSubscription Consistent Ledger Moves WebhookRuntime)
open Connectors (DataConnector)
open OffsetPages (Listing)
open Security (Accounts AuthRuntime User)

/-- What happens to the tables. Elsewhere in the service they change in any way, but for the
merchants, their onboarding and their billing. -/
inductive OfficeEvent where
  | signup (s : Signup)
  | billing (event : BillingEvent)
  | guide (r : Request)
  | view (r : Request)
  | update (r : Request) (payload : OnboardingProfile)
  | complete (r : Request)
  | elsewhere (accounts : Accounts) (database : Database) (desk : Desk) (uploads : List DataUpload)
      (connectors : List DataConnector) (audit : List AuditEvent)

-- The two interpreters may be of different hosts: nothing here joins them.
set_option linter.overlappingInstances false

section Step
variable [AuthRuntime] [WebhookRuntime] (isSpace : Char → Bool) (settings : SignupSettings) (billing : BillingSettings)
  (listing : Listing BillingInvoice.issuedAt)

def officeStep (office : Office) : OfficeEvent → Office
  | .signup s => (signup isSpace settings office s).2
  | .billing event => { office with ledger := Billing.advance billing listing office.ledger event }
  | .guide _ => office
  | .view r => ((getOnboarding office r).toOption.map Prod.snd).getD office
  | .update r payload => ((updateProfile office r payload).toOption.map Prod.snd).getD office
  | .complete r => ((completeOnboarding office r).toOption.map Prod.snd).getD office
  | .elsewhere accounts database desk uploads connectors audit =>
    { office with accounts, desk, uploads, connectors, audit, ledger := { office.ledger with database } }

end Step

/-! ## Tables -/

section Tables

theorem Merchants.insert_ok {table grown : Merchants} {merchant : Merchant} (added : table.insert merchant = .ok grown) :
    grown.rows = table.rows ++ [merchant] := by
  unfold insert at added
  split at added
  · cases added
    rfl
  · cases added

theorem Onboardings.insert_ok {table grown : Onboardings} {row : MerchantOnboarding} (added : table.insert row = .ok grown) :
    grown.rows = table.rows ++ [row] := by
  unfold insert at added
  split at added
  · cases added
    rfl
  · cases added

theorem Onboardings.ofMerchant?_some {table : Onboardings} {merchantId : String} {row : MerchantOnboarding}
    (found : table.ofMerchant? merchantId = some row) : row ∈ table.rows ∧ row.merchantId = merchantId :=
  (KeyedRows.find?_eq_some_iff MerchantOnboarding.merchantId table.merchants merchantId row).mp found

/-- The rows after a write: those of the other merchants, and the one that is set. -/
theorem Onboardings.mem_write {table : Onboardings} {row : MerchantOnboarding} (member : row ∈ table.rows)
    (profile : Option OnboardingProfile) (status : String) (completedAt : Option Int) (a : MerchantOnboarding) :
    a ∈ (table.write row.merchantId profile status completedAt).rows ↔
      (a ∈ table.rows ∧ a.merchantId ≠ row.merchantId) ∨ a = set profile status completedAt row := by
  unfold write
  rw [KeyedRows.mem_update]
  refine or_congr Iff.rfl ⟨?_, fun same => ⟨row, member, rfl, same⟩⟩
  rintro ⟨stored, inside, same, rfl⟩
  rw [KeyedRows.faithful_of_nodup MerchantOnboarding.merchantId table.merchants stored inside row member same]

end Tables

/-! ## Requests -/

section Requests
variable {office after : Office} {r : Request}

/-- The row of a merchant is there, or one is made that is in progress. -/
theorem profileOf_ok {merchantId id : String} {row : MerchantOnboarding} (made : profileOf office merchantId id = .ok (row, after)) :
    row ∈ after.onboarding.rows ∧ row.merchantId = merchantId ∧ after = { office with onboarding := after.onboarding } ∧
      (after.onboarding.rows = office.onboarding.rows ∨
        after.onboarding.rows = office.onboarding.rows ++ [row] ∧ row.status = "IN_PROGRESS" ∧ row.completedAt = none) := by
  unfold profileOf at made
  split at made
  · next found =>
    cases made
    obtain ⟨member, merchant⟩ := Onboardings.ofMerchant?_some found
    exact ⟨member, merchant, rfl, .inl rfl⟩
  · obtain ⟨onboarding, added, same⟩ := Outcome.map_ok made
    cases same
    have rows := Onboardings.insert_ok added
    exact ⟨by rw [rows]; exact List.mem_append_right _ (List.mem_singleton_self _), rfl, rfl, .inr ⟨rows, rfl, rfl⟩⟩

/-- What a request on an onboarding does: it makes a row, or sets the one of its merchant. -/
structure Handles (office after : Office) (merchantId : String) (sets : MerchantOnboarding → MerchantOnboarding → Prop) : Prop where
  only : after = { office with onboarding := after.onboarding }
  kept : ∀ row ∈ office.onboarding.rows, ∃ later ∈ after.onboarding.rows, later.merchantId = row.merchantId
  origin : ∀ later ∈ after.onboarding.rows, (later ∈ office.onboarding.rows ∧ later.merchantId ≠ merchantId) ∨
    ∃ row, later.merchantId = merchantId ∧ sets row later ∧
      (row ∈ office.onboarding.rows ∨ row.status = "IN_PROGRESS" ∧ row.completedAt = none)

theorem getOnboarding_handles {view : OnboardingView} (done : getOnboarding office r = .ok (view, after)) :
    Handles office after r.user.merchantId fun row later => later = row := by
  obtain ⟨⟨row, grown⟩, made, same⟩ := Outcome.map_ok done
  cases same
  obtain ⟨member, merchant, only, rows⟩ := profileOf_ok made
  refine ⟨only, fun old inside => ⟨old, ?_, rfl⟩, fun later inside => ?_⟩
  · rcases rows with same | ⟨grew, _⟩
    · rwa [same]
    · rw [grew]
      exact List.mem_append_left _ inside
  · by_cases own : later.merchantId = r.user.merchantId
    · refine .inr ⟨later, own, rfl, ?_⟩
      rcases rows with same | ⟨grew, fresh⟩
      · exact .inl (same ▸ inside)
      · rw [grew] at inside
        rcases List.mem_append.mp inside with old | last
        · exact .inl old
        · exact .inr (List.mem_singleton.mp last ▸ fresh)
    · rcases rows with same | ⟨grew, _⟩
      · exact .inl ⟨same ▸ inside, own⟩
      · rw [grew] at inside
        rcases List.mem_append.mp inside with old | last
        · exact .inl ⟨old, own⟩
        · exact absurd (List.mem_singleton.mp last ▸ merchant) own

/-- A row is read and set. -/
theorem set_handles {row : MerchantOnboarding} {grown : Office} {id : String} (profile : Option OnboardingProfile) (status : String)
    (completedAt : Option Int) (made : profileOf office r.user.merchantId id = .ok (row, grown)) :
    Handles office { grown with onboarding := grown.onboarding.write r.user.merchantId profile status completedAt } r.user.merchantId
      fun old later => old = row ∧ later = Onboardings.set profile status completedAt row := by
  obtain ⟨member, merchant, only, rows⟩ := profileOf_ok made
  have written := merchant ▸ Onboardings.mem_write member profile status completedAt
  have whole : office.onboarding.rows ⊆ grown.onboarding.rows := by
    rcases rows with same | ⟨grew, _⟩
    · rw [same]
      exact List.Subset.refl _
    · rw [grew]
      exact List.subset_append_left _ _
  refine ⟨by rw [only], fun old inside => ?_, fun later inside => ?_⟩
  · by_cases own : old.merchantId = r.user.merchantId
    · exact ⟨_, (written _).mpr (.inr rfl), merchant.trans own.symm⟩
    · exact ⟨old, (written _).mpr (.inl ⟨whole inside, own⟩), rfl⟩
  · rcases (written _).mp inside with ⟨old, other⟩ | rfl
    · refine .inl ⟨?_, other⟩
      rcases rows with same | ⟨grew, _⟩
      · rwa [← same]
      · rw [grew] at old
        rcases List.mem_append.mp old with old | last
        · exact old
        · exact absurd (List.mem_singleton.mp last ▸ merchant) other
    · refine .inr ⟨row, merchant, ⟨rfl, rfl⟩, ?_⟩
      rcases rows with same | ⟨_, fresh⟩
      · exact .inl (same ▸ member)
      · exact .inr fresh

theorem counts_onboarding (office : Office) (onboarding : Onboardings) (merchantId : String) :
    counts { office with onboarding } merchantId = counts office merchantId := rfl

/-- The onboarding goes on. -/
def MerchantOnboarding.InProgress (row : MerchantOnboarding) : Prop := row.status = "IN_PROGRESS" ∧ row.completedAt = none

/-- A merchant's profile that is set anew is in progress. -/
theorem updateProfile_handles {payload : OnboardingProfile} {view : OnboardingView} (done : updateProfile office r payload = .ok (view, after)) :
    r.user.role = "ADMIN" ∧ Handles office after r.user.merchantId fun row later =>
      row.InProgress ∨ row.status = "COMPLETE" → later.InProgress := by
  obtain ⟨_, admin, done⟩ := Outcome.bind_ok done
  obtain ⟨⟨row, grown⟩, made, done⟩ := Outcome.bind_ok done
  cases done
  obtain ⟨only, kept, origin⟩ := set_handles (some payload) (if row.status = "COMPLETE" then "IN_PROGRESS" else row.status)
    (if row.status = "COMPLETE" then none else row.completedAt) made
  refine ⟨Billing.requireAdmin_ok admin, only, kept, fun later inside => (origin later inside).imp id ?_⟩
  rintro ⟨old, merchant, ⟨rfl, rfl⟩, from_⟩
  refine ⟨old, merchant, fun was => ?_, from_⟩
  by_cases complete : old.status = "COMPLETE"
  · exact ⟨if_pos complete, if_pos complete⟩
  · obtain ⟨status, open_⟩ := was.resolve_right complete
    exact ⟨(if_neg complete).trans status, (if_neg complete).trans open_⟩

/-- The data and the run that a completion asks for. -/
def Ready (counts : Counts) : Prop := 0 < counts.payments ∧ 0 < counts.settlements ∧ 0 < counts.reconciliations

theorem completeOnboarding_handles {view : OnboardingView} (done : completeOnboarding office r = .ok (view, after)) :
    r.user.role = "ADMIN" ∧ Ready (counts office r.user.merchantId) ∧ Handles office after r.user.merchantId fun _ later =>
      later.status = "COMPLETE" ∧ later.completedAt = some r.now ∧ later.profile.isSome = true := by
  obtain ⟨_, admin, done⟩ := Outcome.bind_ok done
  obtain ⟨⟨row, grown⟩, made, done⟩ := Outcome.bind_ok done
  simp only at done
  split at done
  · cases done
  · next ready =>
    cases done
    obtain ⟨_, _, alone, _⟩ := profileOf_ok made
    have same : counts grown r.user.merchantId = counts office r.user.merchantId := by
      rw [alone]
      rfl
    simp only [viewOf, Bool.not_eq_false, Bool.and_eq_true, dataReady, decide_eq_true_eq, same] at ready
    obtain ⟨⟨profile, payments, settlements⟩, runs⟩ := ready
    obtain ⟨only, kept, origin⟩ := set_handles row.profile "COMPLETE" (some r.now) made
    refine ⟨Billing.requireAdmin_ok admin, ⟨payments, settlements, runs⟩, only, kept, fun later inside => (origin later inside).imp id ?_⟩
    rintro ⟨old, merchant, ⟨rfl, rfl⟩, from_⟩
    exact ⟨old, merchant, ⟨rfl, rfl, profile⟩, from_⟩

/-- An administrator can set the profile of an onboarding that is there. -/
theorem updateProfile_returns {row : MerchantOnboarding} (payload : OnboardingProfile) (admin : r.user.role = "ADMIN")
    (member : row ∈ office.onboarding.rows) (merchant : row.merchantId = r.user.merchantId) :
    ∃ view after, updateProfile office r payload = .ok (view, after) := by
  have found : office.onboarding.ofMerchant? r.user.merchantId = some row :=
    (KeyedRows.find?_eq_some_iff MerchantOnboarding.merchantId office.onboarding.merchants r.user.merchantId row).mpr ⟨member, merchant⟩
  have made : profileOf office r.user.merchantId r.onboardingId = .ok (row, office) := by
    unfold profileOf
    rw [found]
  have allowed : Api.requireRoles ["ADMIN"] r.user = .ok () := if_pos (by rw [admin]; decide)
  unfold updateProfile
  rw [allowed, made]
  exact ⟨_, _, rfl⟩

end Requests

/-! ## Sign-up -/

/-- What a sign-up makes: a merchant with an onboarding in progress and the trial of its own. -/
structure Opens (office after : Office) (merchant : Merchant) (row : MerchantOnboarding) (trial : Billing.CheckoutRequest)
    (sub : BillingSubscription) : Prop where
  merchants : after.merchants.rows = office.merchants.rows ++ [merchant]
  onboarding : after.onboarding.rows = office.onboarding.rows ++ [row]
  named : row.merchantId = merchant.id
  inProgress : row.InProgress
  bought : trial.merchantId = merchant.id
  trial : Billing.ensureTrial office.ledger.subscriptions trial = .ok (sub, after.ledger.subscriptions)
  ledger : after.ledger = { office.ledger with subscriptions := after.ledger.subscriptions }

section Signup
variable [AuthRuntime] {isSpace : Char → Bool} {settings : SignupSettings} {office : Office}

variable (settings office) in
theorem signupLimits_only (s : Signup) (email : String) :
    (signupLimits settings office s email).2 = { office with accounts := (signupLimits settings office s email).2.accounts } := by
  unfold signupLimits
  dsimp only
  split
  · next failure limited first =>
    rw [← (Prod.mk.inj first).2]
  · next limited first =>
    rw [← (Prod.mk.inj first).2]

theorem openWorkspace_opens {s : Signup} {email : String} {user : User} {after : Office}
    (opened : openWorkspace office s email = .ok (user, after)) : ∃ merchant row trial sub, Opens office after merchant row trial sub := by
  obtain ⟨merchants, named, opened⟩ := Outcome.bind_ok opened
  obtain ⟨passwordHash, _, opened⟩ := Outcome.bind_ok opened
  obtain ⟨users, _, opened⟩ := Outcome.bind_ok opened
  obtain ⟨onboarding, begun, opened⟩ := Outcome.bind_ok opened
  obtain ⟨⟨sub, subscriptions⟩, bought, opened⟩ := Outcome.bind_ok opened
  cases opened
  exact ⟨_, _, _, sub, Merchants.insert_ok named, Onboardings.insert_ok begun, rfl, ⟨rfl, rfl⟩, rfl, bought, rfl⟩

theorem admitted_only {s : Signup} {user : User} {reply : Security.Reply} {after : Office}
    (done : admitted settings s user office = .ok (reply, after)) : after = { office with accounts := after.accounts } := by
  unfold admitted at done
  split at done
  · obtain ⟨token, _, same⟩ := Outcome.map_ok done
    cases same
    rfl
  · obtain ⟨⟨_, accounts⟩, _, same⟩ := Outcome.map_ok done
    cases same
    rfl

variable (isSpace settings office) in
/-- A sign-up changes the counters of the limiter, or opens a workspace. -/
theorem signup_cases (s : Signup) :
    (signup isSpace settings office s).2 = { office with accounts := (signup isSpace settings office s).2.accounts } ∨
      ∃ merchant row trial sub, Opens office (signup isSpace settings office s).2 merchant row trial sub := by
  unfold signup
  split
  · exact .inl rfl
  · dsimp only
    have only := signupLimits_only settings office s (lower (strip s.payload.email))
    generalize signupLimits settings office s (lower (strip s.payload.email)) = limited at only ⊢
    obtain ⟨answer, limited⟩ := limited
    cases answer with
    | error failure => exact .inl only
    | ok passed =>
      dsimp only at only ⊢
      split
      · exact .inl only
      split
      · exact .inl only
      split
      · exact .inl only
      · next reply after made =>
        obtain ⟨⟨user, opened⟩, opening, made⟩ := Outcome.bind_ok made
        obtain ⟨merchant, row, trial, sub, opens⟩ := openWorkspace_opens opening
        rw [only] at opens
        have kept := admitted_only made
        refine .inr ⟨merchant, row, trial, sub, ?_⟩
        rw [kept]
        exact ⟨opens.merchants, opens.onboarding, opens.named, opens.inProgress, opens.bought, opens.trial, opens.ledger⟩

end Signup

/-! ## Steps -/

/-- The event completes the onboarding of a merchant: an administrator asks, with data and a run. -/
def Completes (merchantId : String) (time : Int) (office : Office) : OfficeEvent → Prop
  | .complete r => r.user.merchantId = merchantId ∧ r.user.role = "ADMIN" ∧ r.now = time ∧ Ready (counts office merchantId)
  | _ => False

/-- An administrator sets the profile of a merchant. -/
def Reopens (merchantId : String) : OfficeEvent → Prop
  | .update r _ => r.user.merchantId = merchantId ∧ r.user.role = "ADMIN"
  | _ => False

def MerchantOnboarding.Complete (row : MerchantOnboarding) (time : Int) : Prop :=
  row.status = "COMPLETE" ∧ row.completedAt = some time ∧ row.profile.isSome = true

section Steps
variable [AuthRuntime] [WebhookRuntime] {isSpace : Char → Bool} {settings : SignupSettings} {billing : BillingSettings}
  {listing : Listing BillingInvoice.issuedAt} {office : Office}

/-- Where a row comes from: it was there and no profile was set, it is in progress, or it was completed now. -/
theorem step_origin (sound : ∀ row ∈ office.onboarding.rows, row.InProgress ∨ row.status = "COMPLETE") (event : OfficeEvent)
    {row : MerchantOnboarding} (member : row ∈ (officeStep isSpace settings billing listing office event).onboarding.rows) :
    (row ∈ office.onboarding.rows ∧ ¬Reopens row.merchantId event) ∨ row.InProgress ∨
      ∃ time, row.Complete time ∧ Completes row.merchantId time office event := by
  cases event with
  | signup s =>
    simp only [officeStep] at member
    rcases signup_cases isSpace settings office s with only | ⟨merchant, new, trial, sub, opens⟩
    · rw [only] at member
      exact .inl ⟨member, id⟩
    · rw [opens.onboarding] at member
      rcases List.mem_append.mp member with old | last
      · exact .inl ⟨old, id⟩
      · exact .inr (.inl (List.mem_singleton.mp last ▸ opens.inProgress))
  | billing event => exact .inl ⟨member, id⟩
  | guide r => exact .inl ⟨member, id⟩
  | view r =>
    simp only [officeStep] at member
    cases done : getOnboarding office r with
    | error failure =>
      rw [done] at member
      exact .inl ⟨member, id⟩
    | ok result =>
      rw [done] at member
      rcases (getOnboarding_handles done).origin row member with ⟨old, _⟩ | ⟨old, _, rfl, old | fresh⟩
      · exact .inl ⟨old, id⟩
      · exact .inl ⟨old, id⟩
      · exact .inr (.inl fresh)
  | update r payload =>
    simp only [officeStep] at member
    cases done : updateProfile office r payload with
    | error failure =>
      rw [done] at member
      refine .inl ⟨member, ?_⟩
      rintro ⟨merchant, admin⟩
      obtain ⟨_, _, returns⟩ := updateProfile_returns payload admin member merchant.symm
      cases done.symm.trans returns
    | ok result =>
      rw [done] at member
      rcases (updateProfile_handles done).2.origin row member with ⟨old, other⟩ | ⟨old, _, sets, from_⟩
      · exact .inl ⟨old, fun same => other same.1.symm⟩
      · exact .inr (.inl (sets (from_.elim (sound old) .inl)))
  | complete r =>
    simp only [officeStep] at member
    cases done : completeOnboarding office r with
    | error failure =>
      rw [done] at member
      exact .inl ⟨member, id⟩
    | ok result =>
      rw [done] at member
      obtain ⟨admin, ready, handles⟩ := completeOnboarding_handles done
      rcases handles.origin row member with ⟨old, _⟩ | ⟨old, merchant, sets, _⟩
      · exact .inl ⟨old, id⟩
      · exact .inr (.inr ⟨r.now, sets, merchant.symm, admin, rfl, merchant ▸ ready⟩)
  | elsewhere accounts database desk uploads connectors audit => exact .inl ⟨member, id⟩

end Steps

/-! ## Whole workspaces -/

/-- Each merchant has an onboarding and a subscription, and the ledger is consistent. -/
structure Whole (office : Office) : Prop where
  ledger : Consistent office.ledger
  onboarding : ∀ merchant ∈ office.merchants.rows, ∃ row ∈ office.onboarding.rows, row.merchantId = merchant.id
  subscription : ∀ merchant ∈ office.merchants.rows, ∃ sub ∈ office.ledger.subscriptions.rows, sub.merchantId = merchant.id

theorem whole_empty : Whole {} := ⟨Billing.consistent_empty, List.forall_mem_nil _, List.forall_mem_nil _⟩

namespace Whole
variable {office after : Office}

/-- A request on an onboarding loses no row. -/
theorem handled (whole : Whole office) {merchantId : String} {sets : MerchantOnboarding → MerchantOnboarding → Prop}
    (handles : Handles office after merchantId sets) : Whole after := by
  have merchants : after.merchants = office.merchants := by rw [handles.only]
  have ledger : after.ledger = office.ledger := by rw [handles.only]
  refine ⟨ledger ▸ whole.ledger, ?_, ?_⟩
  · rw [merchants]
    intro merchant member
    obtain ⟨row, inside, same⟩ := whole.onboarding merchant member
    obtain ⟨later, there, kept⟩ := handles.kept row inside
    exact ⟨later, there, kept.trans same⟩
  · rw [merchants, ledger]
    exact whole.subscription

/-- Nor does what moves the ledger. -/
theorem moved (whole : Whole office) {mine grants : String → Prop} {ledger : Ledger} (moves : Moves mine grants office.ledger ledger) :
    Whole { office with ledger } := by
  refine ⟨moves.consistent, whole.onboarding, fun merchant member => ?_⟩
  obtain ⟨sub, inside, same⟩ := whole.subscription merchant member
  obtain ⟨later, there, keys⟩ := moves.subscriptions.kept inside
  have merchants : later.merchantId = sub.merchantId := congrArg Prod.snd keys
  exact ⟨later, there, merchants.trans same⟩

/-- A new workspace has both, and the others keep theirs. -/
theorem opened (whole : Whole office) {merchant : Merchant} {row : MerchantOnboarding} {trial : Billing.CheckoutRequest}
    {sub : BillingSubscription} (opens : Opens office after merchant row trial sub) : Whole after := by
  obtain ⟨moves, member, bought⟩ : Moves (fun _ => True) (fun _ => True) office.ledger
      { office.ledger with subscriptions := after.ledger.subscriptions } ∧ sub ∈ after.ledger.subscriptions.rows ∧
      sub.merchantId = trial.merchantId := Billing.trial_moves whole.ledger trivial opens.trial
  have grown := whole.moved moves
  refine ⟨opens.ledger ▸ moves.consistent, ?_, ?_⟩
  · rw [opens.merchants, opens.onboarding]
    intro other inside
    rcases List.mem_append.mp inside with old | last
    · obtain ⟨begun, there, same⟩ := whole.onboarding other old
      exact ⟨begun, List.mem_append_left _ there, same⟩
    · rw [List.mem_singleton.mp last]
      exact ⟨row, List.mem_append_right _ (List.mem_singleton_self row), opens.named⟩
  · rw [opens.merchants]
    intro other inside
    rcases List.mem_append.mp inside with old | last
    · exact grown.subscription other old
    · rw [List.mem_singleton.mp last]
      exact ⟨sub, member, bought.trans opens.bought⟩

end Whole

section Workspaces
variable [AuthRuntime] [WebhookRuntime] (isSpace : Char → Bool) (settings : SignupSettings) (billing : BillingSettings)
  (listing : Listing BillingInvoice.issuedAt)

theorem whole_step {office : Office} (whole : Whole office) (event : OfficeEvent) :
    Whole (officeStep isSpace settings billing listing office event) := by
  cases event with
  | signup s =>
    simp only [officeStep]
    rcases signup_cases isSpace settings office s with only | ⟨merchant, row, trial, sub, opens⟩
    · rw [only]
      exact ⟨whole.ledger, whole.onboarding, whole.subscription⟩
    · exact whole.opened opens
  | billing event => exact whole.moved (Billing.advance_moves billing listing whole.ledger event)
  | guide r => exact whole
  | view r =>
    simp only [officeStep]
    cases done : getOnboarding office r with
    | error failure => exact whole
    | ok result => exact whole.handled (getOnboarding_handles done)
  | update r payload =>
    simp only [officeStep]
    cases done : updateProfile office r payload with
    | error failure => exact whole
    | ok result => exact whole.handled (updateProfile_handles done).2
  | complete r =>
    simp only [officeStep]
    cases done : completeOnboarding office r with
    | error failure => exact whole
    | ok result => exact whole.handled (completeOnboarding_handles done).2.2
  | elsewhere accounts database desk uploads connectors audit =>
    have same : Moves (fun _ => True) (fun _ => True) office.ledger { office.ledger with database } := .of_same whole.ledger rfl rfl
    exact ⟨same.consistent, whole.onboarding, whole.subscription⟩

/-- After every run each merchant has one onboarding and one subscription, and the ledger is consistent. -/
theorem workspaces_whole (events : List OfficeEvent) :
    let office := Runs.run (officeStep isSpace settings billing listing) {} events
    Consistent office.ledger ∧ ∀ merchant ∈ office.merchants.rows,
      (∃! row, row ∈ office.onboarding.rows ∧ row.merchantId = merchant.id) ∧
        ∃! sub, sub ∈ office.ledger.subscriptions.rows ∧ sub.merchantId = merchant.id := by
  intro office
  have kept : ∀ (office : Office) (event : OfficeEvent), Whole office → Whole (officeStep isSpace settings billing listing office event) :=
    fun _ event whole => whole_step isSpace settings billing listing whole event
  have whole : Whole office := Runs.invariant kept whole_empty events
  refine ⟨whole.ledger, fun merchant member => ⟨?_, ?_⟩⟩
  · exact KeyedRows.existsUnique_of_nodup MerchantOnboarding.merchantId office.onboarding.merchants (whole.onboarding merchant member)
  · exact KeyedRows.existsUnique_of_nodup BillingSubscription.merchantId office.ledger.subscriptions.merchants
      (whole.subscription merchant member)

end Workspaces

/-! ## Onboarding -/

/-- Without the first of the four parts three quarters are the most. -/
theorem scoreOf_le (a b c : Bool) : scoreOf [false, a, b, c] ≤ 75 := by
  cases a <;> cases b <;> cases c <;> decide

theorem healthOf_of_le {score : Nat} (low : score ≤ 75) : (healthOf score).1 ≠ "HEALTHY" := by
  unfold healthOf
  split
  · decide
  · rw [if_pos (by omega)]
    decide

section Onboarding
variable [AuthRuntime] [WebhookRuntime] (isSpace : Char → Bool) (settings : SignupSettings) (billing : BillingSettings)
  (listing : Listing BillingInvoice.issuedAt)

theorem run_sound (events : List OfficeEvent) :
    ∀ row ∈ (Runs.run (officeStep isSpace settings billing listing) {} events).onboarding.rows, row.InProgress ∨ row.status = "COMPLETE" := by
  have kept : ∀ (office : Office) (event : OfficeEvent), (∀ row ∈ office.onboarding.rows, row.InProgress ∨ row.status = "COMPLETE") →
      ∀ row ∈ (officeStep isSpace settings billing listing office event).onboarding.rows, row.InProgress ∨ row.status = "COMPLETE" := by
    intro office event sound row member
    rcases step_origin sound event member with ⟨old, _⟩ | inProgress | ⟨time, complete, _⟩
    · exact sound row old
    · exact .inl inProgress
    · exact .inr complete.1
  exact Runs.invariant kept (List.forall_mem_nil _) events

/-- After every run each onboarding is in progress, or an administrator of its merchant completed it when payments,
settlements, a run and the profile were there, and its profile was not set since. -/
theorem onboarding_earned (events : List OfficeEvent) :
    ∀ row ∈ (Runs.run (officeStep isSpace settings billing listing) {} events).onboarding.rows,
      row.InProgress ∨ ∃ before event after time, events = before ++ event :: after ∧ row.Complete time ∧
        Completes row.merchantId time (Runs.run (officeStep isSpace settings billing listing) {} before) event ∧
        ∀ later ∈ after, ¬Reopens row.merchantId later := by
  induction events using List.reverseRecOn with
  | nil => exact List.forall_mem_nil _
  | append_singleton events last ih =>
    intro row member
    rw [Runs.run_append, Runs.run_cons, Runs.run_nil] at member
    rcases step_origin (run_sound isSpace settings billing listing events) last member with ⟨old, quiet⟩ | inProgress | ⟨time, complete, completes⟩
    · refine (ih row old).imp id ?_
      rintro ⟨before, event, after, time, rfl, complete, completes, since⟩
      refine ⟨before, event, after ++ [last], time, by simp, complete, completes, fun later inside => ?_⟩
      rcases List.mem_append.mp inside with earlier | now
      · exact since later earlier
      · exact List.mem_singleton.mp now ▸ quiet
    · exact .inl inProgress
    · exact .inr ⟨events, last, [], time, rfl, complete, completes, List.forall_mem_nil _⟩

/-! ## Health -/

/-- No onboarding that is stored counts as completed. -/
theorem run_not_completed (events : List OfficeEvent) (merchantId : String) :
    onboardingCompleted (Runs.run (officeStep isSpace settings billing listing) {} events) merchantId = false := by
  unfold onboardingCompleted
  cases found : (Runs.run (officeStep isSpace settings billing listing) {} events).onboarding.ofMerchant? merchantId with
  | none => rfl
  | some row =>
    obtain ⟨member, _⟩ := Onboardings.ofMerchant?_some found
    rcases run_sound isSpace settings billing listing events row member with ⟨status, _⟩ | status <;> simp [status]

/-- After every run, however the onboarding went, the activation of a workspace has its onboarding open, and no
workspace is healthy, neither to its users nor in the portfolio: three quarters are the most that any scores. -/
theorem never_healthy (events : List OfficeEvent) :
    let office := Runs.run (officeStep isSpace settings billing listing) {} events
    (∀ user now, (activation office user now).steps.head? = some ⟨"onboarding", "Complete workspace onboarding", false⟩ ∧
        (activation office user now).activationScore ≤ 75) ∧
      (∀ user now, (workspaceHealth office user now).health ≠ "HEALTHY" ∧ (workspaceHealth office user now).healthScore ≤ 75) ∧
      ∀ merchant, (portfolioRow office merchant).health ≠ "HEALTHY" ∧ (portfolioRow office merchant).healthScore ≤ 75 := by
  intro office
  have none : ∀ merchantId, onboardingCompleted office merchantId = false := run_not_completed isSpace settings billing listing events
  refine ⟨fun user now => ?_, fun user now => ?_, fun merchant => ?_⟩
  · simp only [activation, activationSteps, none, List.map_cons, List.map_nil]
    exact ⟨rfl, scoreOf_le _ _ _⟩
  · have low : scoreOf (healthChecks office user.merchantId) ≤ 75 := by
      simp only [healthChecks, none]
      exact scoreOf_le _ _ _
    refine ⟨?_, low⟩
    simp only [workspaceHealth]
    split
    · decide
    · exact healthOf_of_le low
  · have low : scoreOf (portfolioParts office merchant.id) ≤ 75 := by
      simp only [portfolioParts, none]
      exact scoreOf_le _ _ _
    refine ⟨?_, low⟩
    simp only [portfolioRow]
    split
    · decide
    · exact healthOf_of_le low

end Onboarding

section Examples
open PlainText

local instance noDocuments : WebhookRuntime := plainWebhooks []

def openSettings : SignupSettings where
  authSecret := "0123456789abcdef0123456789abcdef"

def asksAt (now : Int) : Request := ⟨Api.member "m1", now, "o1"⟩

def importedBooks : Database where
  store := {
    payments := [{
      id := "p1"
      provider := "razorpay"
      providerPaymentId := "pay_1"
      merchantId := some "m1"
      amount := ⟨10000, -2⟩
      status := "captured"
      createdAt := ⟨0, none⟩ }]
    settlements := [{
      id := "s1"
      provider := "razorpay"
      providerSettlementId := "setl_1"
      providerPaymentId := "pay_1"
      merchantId := some "m1"
      grossAmount := ⟨10000, -2⟩
      netAmount := ⟨10000, -2⟩
      status := "settled"
      settledAt := ⟨0, none⟩ }] }

theorem epoch_isInstant : firstInstant ≤ 0 ∧ 0 ≤ lastInstant := by decide

def reconciled : AuditEvent where
  id := "a1"
  eventId := "e1"
  merchantId := some "m1"
  actorUserId := none
  actorRole := none
  actorType := "USER"
  action := "RECONCILIATION_COMPLETED"
  resourceType := "RECONCILIATION_RUN"
  resourceId := none
  requestId := none
  timestamp := ⟨0, epoch_isInstant⟩
  outcome := "SUCCESS"
  ipAddress := none
  metadataJson := .null
  beforeSnapshot := .null
  afterSnapshot := .null
  previousEventHash := none
  eventHash := "h1"

/-- Data is imported and reconciled, then the profile is set and the onboarding completed. -/
def completing : List OfficeEvent :=
  [.elsewhere {} importedBooks {} [] [] [reconciled], .update (asksAt 1) ⟨.saas, .under10k, .razorpay⟩, .complete (asksAt 2)]

def completed : MerchantOnboarding := ⟨"o1", "m1", some ⟨.saas, .under10k, .razorpay⟩, "COMPLETE", some 2⟩

theorem onboarding_earned_completing :
    completed.InProgress ∨ ∃ before event after time, completing = before ++ event :: after ∧ completed.Complete time ∧
      Completes completed.merchantId time (Runs.run (officeStep Char.isWhitespace openSettings {} Billing.byIssue) {} before) event ∧
      ∀ later ∈ after, ¬Reopens completed.merchantId later := by
  have member : completed ∈
      (Runs.run (officeStep Char.isWhitespace openSettings {} Billing.byIssue) {} completing).onboarding.rows := by
    decide +kernel
  exact onboarding_earned Char.isWhitespace openSettings {} Billing.byIssue completing completed member

end Examples
end RCAA.Workspaces
