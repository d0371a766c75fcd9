import RCAA.Billing.Standing
import RCAA.Security.Standing
import RCAA.Workspaces.Members

/-! Who gave the members of the workspaces their roles, over whole runs of sign-ups, authentication, registration and the
requests of administrators, one after another. A role comes with the founding of a workspace, from an active administrator of
it, or from a connection that one set up; and no workspace loses its last active administrator. -/

namespace RCAA.Workspaces
open Security (Arrival AuthRuntime Failure Provider SSOConnection Stands User UserWrite Users)
open Security.Admins (ActiveAdmin HasAdmin roles)

/-- The workspace of a user and his role there. -/
def rank (user : User) : String × String × String := (user.id, user.merchantId, user.role)

section Grants
variable [AuthRuntime] (settings : MemberSettings) (office : Office)

/-- The request comes from an active administrator of the workspace. -/
def ByAdmin (r : MemberRequest) (merchantId : String) : Prop :=
  ∃ admin ∈ office.accounts.users.rows, currentUser settings office r = .ok admin ∧ ActiveAdmin merchantId admin

/-- The request comes with the token of the deployment, before there are any users. -/
def Bootstraps (r : Registration) : Prop :=
  office.accounts.users.rows = [] ∧ settings.authBootstrapToken ≠ "" ∧ r.bootstrapToken = some settings.authBootstrapToken

/-- The event gives a user of a workspace a role. -/
def Grants (userId merchantId role : String) : MemberEvent → Prop
  | .signup s => s.draws.userId = userId ∧ s.draws.merchantId = merchantId ∧ role = "ADMIN"
  | .auth a => a.request.viaSso = true ∧ a.draws.login.userId = userId ∧ ∃ connection ∈ office.accounts.connections,
      connection.enabled = true ∧ connection.merchantId = merchantId ∧ role = upper connection.defaultRole
  | .register r => r.userId = userId ∧ r.payload.merchantId = merchantId ∧ role = upper r.payload.role ∧
      (Bootstraps settings office r ∧ role = "ADMIN" ∨ ByAdmin settings office r.toMemberRequest merchantId)
  | .create r payload => r.userId = userId ∧ role = upper payload.role ∧ ByAdmin settings office r merchantId
  | .update r target payload => target = userId ∧ some role = payload.role.map upper ∧ ByAdmin settings office r merchantId
  | .configure _ _ _ | .elsewhere _ => False

/-- The event sets up a connection. -/
def Configures (connection : SSOConnection) : MemberEvent → Prop
  | .configure r payload _ => payload.defaultRole = connection.defaultRole ∧ ByAdmin settings office r connection.merchantId
  | _ => False

/-- What an event does to the users and the connections. -/
inductive Effect (event : MemberEvent) (after : Office) : Prop
  | stands (same : Stands office.accounts after.accounts)
  | joins (user : User) (users : after.accounts.users.rows.map User.standing = office.accounts.users.rows.map User.standing ++ [user.standing])
      (connections : after.accounts.connections = office.accounts.connections) (active : user.isActive = true)
      (grants : Grants settings office user.id user.merchantId user.role event)
  | changes (admin user : User) (role : String) (isActive : Bool) (asks : admin ∈ office.accounts.users.rows)
      (member : user ∈ office.accounts.users.rows) (administers : ActiveAdmin user.merchantId admin)
      (users : after.accounts.users = office.accounts.users.write user.id (setStanding role isActive))
      (connections : after.accounts.connections = office.accounts.connections)
      (own : user.id = admin.id → role = "ADMIN" ∧ isActive = true)
      (grants : role = user.role ∨ Grants settings office user.id user.merchantId role event)
  | configures (connection : SSOConnection) (users : after.accounts.users = office.accounts.users)
      (connections : after.accounts.connections = KeyedRows.put SSOConnection.merchantId connection office.accounts.connections)
      (configures : Configures settings office connection event)

end Grants

/-! ## Requests -/

section Requests
variable [AuthRuntime] {isSpace : Char → Bool} {settings : MemberSettings} {office after : Office}

/-- A request of an administrator is of an active one of his workspace. -/
theorem byAdmin_of_current {r : MemberRequest} {admin : User} (known : currentUser settings office r = .ok admin)
    (role : admin.role = "ADMIN") : ByAdmin settings office r admin.merchantId := by
  obtain ⟨member, active⟩ := Security.current_ok known
  exact ⟨admin, member, known, rfl, role, active⟩

theorem addUser_ok {r : MemberRequest} {email password merchantId role : String} {user : User}
    (made : addUser office r email password merchantId role = .ok (user, after)) :
    after.accounts.users.rows = office.accounts.users.rows ++ [user] ∧ after.accounts.connections = office.accounts.connections ∧
      user.id = r.userId ∧ user.merchantId = merchantId ∧ user.role = role ∧ user.isActive = true := by
  unfold addUser at made
  split at made
  · cases made
  · obtain ⟨passwordHash, _, made⟩ := Outcome.bind_ok made
    obtain ⟨users, inserted, made⟩ := Outcome.bind_ok made
    cases made
    exact ⟨Users.insert_ok inserted, rfl, rfl, rfl, rfl, rfl⟩

theorem signupLimits_stands (s : Signup) (email : String) :
    Stands office.accounts (signupLimits settings.toSignupSettings office s email).2.accounts := by
  unfold signupLimits
  dsimp only
  split
  · next failure limited first =>
    rw [← (Prod.mk.inj first).2]
    exact Security.stands_limits _
  · next limited first =>
    rw [← (Prod.mk.inj first).2]
    exact Security.stands_limits _

theorem openWorkspace_founder {s : Signup} {email : String} {user : User} (opened : openWorkspace office s email = .ok (user, after)) :
    after.accounts.users.rows = office.accounts.users.rows ++ [user] ∧ after.accounts.connections = office.accounts.connections ∧
      user.id = s.draws.userId ∧ user.merchantId = s.draws.merchantId ∧ user.role = "ADMIN" ∧ user.isActive = true := by
  obtain ⟨merchants, _, opened⟩ := Outcome.bind_ok opened
  obtain ⟨passwordHash, _, opened⟩ := Outcome.bind_ok opened
  obtain ⟨users, inserted, opened⟩ := Outcome.bind_ok opened
  obtain ⟨onboarding, _, opened⟩ := Outcome.bind_ok opened
  obtain ⟨⟨sub, subscriptions⟩, _, opened⟩ := Outcome.bind_ok opened
  cases opened
  exact ⟨Users.insert_ok inserted, rfl, rfl, rfl, rfl, rfl⟩

theorem admitted_stands {s : Signup} {user : User} {reply : Security.Reply}
    (done : admitted settings.toSignupSettings s user office = .ok (reply, after)) : Stands office.accounts after.accounts := by
  unfold admitted at done
  split at done
  · obtain ⟨token, _, same⟩ := Outcome.map_ok done
    cases same
    exact Security.stands_of_tables rfl rfl
  · obtain ⟨⟨_, accounts⟩, issued, same⟩ := Outcome.map_ok done
    cases same
    exact Security.issue_stands issued (Security.stands_of_tables rfl rfl)

/-- A sign-up makes the administrator of the new workspace, or leaves the users. -/
theorem signup_effect (s : Signup) : Effect settings office (.signup s) (signup isSpace settings.toSignupSettings office s).2 := by
  unfold signup
  split
  · exact .stands (Security.stands_of_tables rfl rfl)
  · dsimp only
    have stands := @signupLimits_stands _ settings office s (lower (strip s.payload.email))
    generalize signupLimits settings.toSignupSettings office s (lower (strip s.payload.email)) = limited at stands ⊢
    obtain ⟨answer, limited⟩ := limited
    cases answer with
    | error failure => exact .stands stands
    | ok passed =>
      dsimp only at stands ⊢
      split
      · exact .stands stands
      split
      · exact .stands stands
      split
      · exact .stands stands
      · next reply after made =>
        obtain ⟨⟨user, opened⟩, opening, made⟩ := Outcome.bind_ok made
        obtain ⟨users, connections, id, merchant, role, active⟩ := openWorkspace_founder opening
        have kept := admitted_stands made
        refine .joins user ?_ (kept.connections.trans (connections.trans stands.connections)) active ⟨id.symm, merchant.symm, role⟩
        rw [kept.users, users, List.map_append, List.map_singleton, stands.users]

theorem registrant_ok {r : Registration} {admin : User} (known : registrant settings office r = .ok (some admin)) :
    currentUser settings office r.toMemberRequest = .ok admin := by
  unfold registrant at known
  split at known
  · cases known
  · obtain ⟨user, current, same⟩ := Outcome.map_ok known
    cases same
    exact current

/-- A registration that is admitted is the first, with the token of the deployment, or by an administrator. -/
theorem mayRegister_ok {r : Registration} {current : Option User} {u : Unit} (known : registrant settings office r = .ok current)
    (passed : mayRegister settings office r current = .ok u) :
    Bootstraps settings office r ∨ ByAdmin settings office r.toMemberRequest r.payload.merchantId := by
  unfold mayRegister at passed
  split at passed
  · next empty =>
    split at passed
    · cases passed
    · next token =>
      rw [not_or, not_not] at token
      exact .inl ⟨List.length_eq_zero_iff.mp empty, token⟩
  · split at passed
    · next allowed =>
      obtain ⟨admin, rfl, may⟩ := (Option.any_eq_true _ _).mp allowed
      obtain ⟨role, merchant⟩ := of_decide_eq_true may
      exact .inr (merchant ▸ byAdmin_of_current (registrant_ok known) role)
    · cases passed

theorem register_effect {r : Registration} {user : User} (made : register settings office r = .ok (user, after)) :
    Effect settings office (.register r) after := by
  obtain ⟨_, _, made⟩ := Outcome.bind_ok made
  obtain ⟨current, known, made⟩ := Outcome.bind_ok made
  dsimp only at made
  split at made
  · cases made
  · obtain ⟨_, passed, made⟩ := Outcome.bind_ok made
    split at made
    · cases made
    · next merchant found =>
      split at made
      · cases made
      · next admin =>
        obtain ⟨users, connections, id, merchantId, role, active⟩ := addUser_ok made
        have named : merchant.id = r.payload.merchantId := by simpa using List.find?_some found
        refine .joins user (by simp [users]) connections active ⟨id.symm, ?_, role, ?_⟩
        · rw [merchantId, named]
        · rw [merchantId, named]
          refine (mayRegister_ok known passed).imp (fun first => ⟨first, ?_⟩) fun asked => asked
          rw [role]
          exact by_contra fun other => admin ⟨by rw [first.1]; rfl, other⟩

theorem createUser_effect {r : MemberRequest} {payload : CreateUserRequest} {user : User}
    (made : createUser settings office r payload = .ok (user, after)) : Effect settings office (.create r payload) after := by
  obtain ⟨admin, known, made⟩ := Outcome.bind_ok made
  obtain ⟨_, allowed, made⟩ := Outcome.bind_ok made
  obtain ⟨_, _, made⟩ := Outcome.bind_ok made
  dsimp only at made
  split at made
  · cases made
  · obtain ⟨users, connections, id, merchant, role, active⟩ := addUser_ok made
    refine .joins user (by simp [users]) connections active ⟨id.symm, role, ?_⟩
    rw [merchant]
    exact byAdmin_of_current known (Billing.requireAdmin_ok allowed)

/-- What the two checks of an update leave of its own requester. -/
theorem changeRole_ok {users : Users} {admin user promoted : User} {role : Option String}
    (made : changeRole users admin user role = .ok promoted) :
    promoted = { user with role := promoted.role } ∧ (promoted.role = user.role ∨ some promoted.role = role.map upper) ∧
      (user.id = admin.id → user.role = "ADMIN" → promoted.role = "ADMIN") := by
  unfold changeRole at made
  split at made
  · cases made
    exact ⟨rfl, .inl rfl, fun _ was => was⟩
  · dsimp only at made
    split at made
    · cases made
    · split at made
      · cases made
      · next demotes =>
        obtain ⟨_, _, made⟩ := Outcome.bind_ok made
        cases made
        exact ⟨rfl, .inr rfl, fun own _ => by_contra fun other => demotes ⟨own, other⟩⟩

omit [AuthRuntime] in
theorem changeActive_ok {users : Users} {admin user changed : User} {isActive : Option Bool}
    (made : changeActive users admin user isActive = .ok changed) :
    changed.role = user.role ∧ (user.id = admin.id → user.isActive = true → changed.isActive = true) := by
  unfold changeActive at made
  split at made
  · cases made
    exact ⟨rfl, fun _ was => was⟩
  · split at made
    · cases made
    · next disables =>
      obtain ⟨_, _, made⟩ := Outcome.bind_ok made
      cases made
      exact ⟨rfl, fun own _ => by simpa [own] using disables⟩

theorem updateUser_effect {r : MemberRequest} {userId : String} {payload : UpdateUserRequest} {user : User}
    (made : updateUser settings office r userId payload = .ok (user, after)) :
    Effect settings office (.update r userId payload) after := by
  obtain ⟨admin, known, made⟩ := Outcome.bind_ok made
  obtain ⟨_, allowed, made⟩ := Outcome.bind_ok made
  have role := Billing.requireAdmin_ok allowed
  obtain ⟨stored, active⟩ := Security.current_ok known
  split at made
  · cases made
  · next target found =>
    obtain ⟨promoted, first, made⟩ := Outcome.bind_ok made
    obtain ⟨changed, second, made⟩ := Outcome.bind_ok made
    cases made
    have named : target.id = userId ∧ target.merchantId = admin.merchantId := by simpa using List.find?_some found
    have member := List.mem_of_find?_eq_some found
    obtain ⟨only, from_, keeps⟩ := changeRole_ok first
    obtain ⟨same, stays⟩ := changeActive_ok second
    have kept : promoted.id = target.id ∧ promoted.isActive = target.isActive := by
      rw [only]
      exact ⟨rfl, rfl⟩
    refine .changes admin target user.role user.isActive stored member ⟨named.2.symm, role, active⟩ rfl rfl (fun own => ?_) ?_
    · obtain rfl := KeyedRows.faithful_of_nodup User.id office.accounts.users.ids target member admin stored own
      rw [same]
      exact ⟨keeps rfl role, stays kept.1 (kept.2.trans active)⟩
    · rw [same]
      refine from_.imp id fun asked => ⟨named.1.symm, asked, ?_⟩
      rw [named.2]
      exact byAdmin_of_current known role

theorem putConfig_effect {r : MemberRequest} {payload : SSOConfigRequest} {provider : Provider} {connection : SSOConnection}
    (made : putConfig settings office r payload provider = .ok (connection, after)) :
    Effect settings office (.configure r payload provider) after := by
  obtain ⟨admin, known, made⟩ := Outcome.bind_ok made
  obtain ⟨_, allowed, made⟩ := Outcome.bind_ok made
  obtain ⟨_, _, made⟩ := Outcome.bind_ok made
  split at made
  · cases made
  · obtain ⟨clientSecretEnc, _, made⟩ := Outcome.bind_ok made
    cases made
    exact .configures _ rfl rfl ⟨rfl, byAdmin_of_current known (Billing.requireAdmin_ok allowed)⟩

variable (isSpace settings office) in
theorem memberStep_effect (event : MemberEvent) : Effect settings office event (memberStep isSpace settings office event) := by
  have same : Stands office.accounts office.accounts := Security.stands_of_tables rfl rfl
  cases event with
  | signup s => exact signup_effect s
  | auth a =>
    rcases Security.serve_cases settings.toAuthSettings office.accounts a with
      stands | ⟨sso, connection, user, provisions⟩
    · exact .stands stands
    · refine .joins user provisions.users provisions.connections provisions.active
        ⟨sso, provisions.id.symm, connection, provisions.used.1, provisions.used.2, provisions.merchant.symm, provisions.role⟩
  | register r =>
    simp only [memberStep, Office.after]
    cases made : register settings office r with
    | error failure => exact .stands same
    | ok result => exact register_effect made
  | create r payload =>
    simp only [memberStep, Office.after]
    cases made : createUser settings office r payload with
    | error failure => exact .stands same
    | ok result => exact createUser_effect made
  | update r userId payload =>
    simp only [memberStep, Office.after]
    cases made : updateUser settings office r userId payload with
    | error failure => exact .stands same
    | ok result => exact updateUser_effect made
  | configure r payload provider =>
    simp only [memberStep, Office.after]
    cases made : putConfig settings office r payload provider with
    | error failure => exact .stands same
    | ok result => exact putConfig_effect made
  | elsewhere other => exact .stands (Security.stands_of_tables rfl rfl)

end Requests

/-! ## Steps -/

section Steps
variable [AuthRuntime] {settings : MemberSettings} {office after : Office} {event : MemberEvent}

omit [AuthRuntime] in
/-- A user of some standing is one of those standings. -/
theorem mem_standing {users grown : Users} {more : List (String × String × String × Bool)}
    (rows : grown.rows.map User.standing = users.rows.map User.standing ++ more) {user : User} (member : user ∈ grown.rows) :
    (∃ old ∈ users.rows, old.standing = user.standing) ∨ user.standing ∈ more := by
  have listed : user.standing ∈ grown.rows.map User.standing := List.mem_map_of_mem member
  rw [rows] at listed
  exact (List.mem_append.mp listed).imp List.mem_map.mp fun added => added

omit [AuthRuntime] in
theorem rank_of_standing {user other : User} (same : user.standing = other.standing) : rank user = rank other := by
  obtain ⟨id, rest⟩ := Prod.mk.inj same
  obtain ⟨merchant, rest⟩ := Prod.mk.inj rest
  obtain ⟨role, _⟩ := Prod.mk.inj rest
  rw [rank, rank, id, merchant, role]

/-- A user had his rank in the workspace before, or the event gives it to him. -/
theorem Effect.origin (effect : Effect settings office event after) {user : User} (member : user ∈ after.accounts.users.rows) :
    (∃ old ∈ office.accounts.users.rows, rank old = rank user) ∨ Grants settings office user.id user.merchantId user.role event := by
  cases effect with
  | stands same =>
    rcases mem_standing (same.users.trans (List.append_nil _).symm) member with ⟨old, inside, standing⟩ | none
    · exact .inl ⟨old, inside, rank_of_standing standing⟩
    · cases none
  | joins new users connections active grants =>
    rcases mem_standing users member with ⟨old, inside, standing⟩ | added
    · exact .inl ⟨old, inside, rank_of_standing standing⟩
    · have same := rank_of_standing (List.mem_singleton.mp added)
      obtain ⟨id, rest⟩ := Prod.mk.inj same
      obtain ⟨merchant, role⟩ := Prod.mk.inj rest
      rw [id, merchant, role]
      exact .inr grants
  | changes admin target role isActive asks stored administers users connections own grants =>
    rw [users] at member
    rcases (KeyedRows.mem_update User.id user).mp member with ⟨old, _⟩ | ⟨old, inside, named, rfl⟩
    · exact .inl ⟨user, old, rfl⟩
    · obtain rfl := KeyedRows.faithful_of_nodup User.id office.accounts.users.ids old inside target stored named
      rcases grants with same | granted
      · exact .inl ⟨old, inside, by rw [rank, rank, ← same]; rfl⟩
      · exact .inr granted
  | configures connection users connections configures =>
    rw [users] at member
    exact .inl ⟨user, member, rfl⟩

theorem Effect.connection (effect : Effect settings office event after) {connection : SSOConnection}
    (member : connection ∈ after.accounts.connections) :
    connection ∈ office.accounts.connections ∨ Configures settings office connection event := by
  cases effect with
  | stands same => exact .inl (same.connections ▸ member)
  | joins _ _ connections _ _ => exact .inl (connections ▸ member)
  | changes _ _ _ _ _ _ _ _ connections _ _ => exact .inl (connections ▸ member)
  | configures new users connections configures =>
    rw [connections] at member
    rcases KeyedRows.mem_of_put SSOConnection.merchantId member with rfl | old
    · exact .inr configures
    · exact .inl old

/-! ## Administrators -/

/-- Each workspace that has a user or a connection has an active administrator. -/
structure Staffed (office : Office) : Prop where
  users : ∀ user ∈ office.accounts.users.rows, HasAdmin user.merchantId office.accounts.users.rows
  connections : ∀ connection ∈ office.accounts.connections, HasAdmin connection.merchantId office.accounts.users.rows

omit [AuthRuntime] in
theorem staffed_empty : Staffed {} := ⟨List.forall_mem_nil _, List.forall_mem_nil _⟩

omit [AuthRuntime] in
/-- An administrator of some standing is one of those standings. -/
theorem hasAdmin_iff {rows : List User} {merchantId : String} :
    HasAdmin merchantId rows ↔ ∃ id, (id, merchantId, "ADMIN", true) ∈ rows.map User.standing := by
  constructor
  · rintro ⟨admin, member, rfl, role, active⟩
    refine ⟨admin.id, List.mem_map.mpr ⟨admin, member, ?_⟩⟩
    rw [User.standing, role, active]
  · rintro ⟨id, listed⟩
    obtain ⟨admin, member, same⟩ := List.mem_map.mp listed
    obtain ⟨_, rest⟩ := Prod.mk.inj same
    obtain ⟨merchant, rest⟩ := Prod.mk.inj rest
    exact ⟨admin, member, merchant, Prod.mk.inj rest⟩

omit [AuthRuntime] in
/-- Users who join leave the administrators there are. -/
theorem hasAdmin_grown {users grown : Users} {more : List (String × String × String × Bool)} {merchantId : String}
    (rows : grown.rows.map User.standing = users.rows.map User.standing ++ more) (has : HasAdmin merchantId users.rows) :
    HasAdmin merchantId grown.rows := by
  obtain ⟨id, listed⟩ := hasAdmin_iff.mp has
  exact hasAdmin_iff.mpr ⟨id, rows ▸ List.mem_append_left _ listed⟩

omit [AuthRuntime] in
theorem Staffed.grown (staffed : Staffed office) {more : List (String × String × String × Bool)}
    (rows : after.accounts.users.rows.map User.standing = office.accounts.users.rows.map User.standing ++ more)
    (connections : after.accounts.connections = office.accounts.connections)
    (new : ∀ standing ∈ more, HasAdmin standing.2.1 after.accounts.users.rows) : Staffed after := by
  refine ⟨fun user member => ?_, fun connection member => hasAdmin_grown rows (staffed.connections connection (connections ▸ member))⟩
  rcases mem_standing rows member with ⟨old, inside, same⟩ | added
  · have merchant : old.merchantId = user.merchantId := (Prod.mk.inj (Prod.mk.inj same).2).1
    exact merchant ▸ hasAdmin_grown rows (staffed.users old inside)
  · exact new _ added

/-- Who gets a role becomes an administrator, or his workspace has one. -/
theorem Staffed.of_grants (staffed : Staffed office) {userId merchantId role : String}
    (grants : Grants settings office userId merchantId role event) : role = "ADMIN" ∨ HasAdmin merchantId office.accounts.users.rows := by
  have admin {r : MemberRequest} (asks : ByAdmin settings office r merchantId) : HasAdmin merchantId office.accounts.users.rows := by
    obtain ⟨admin, member, _, active⟩ := asks
    exact ⟨admin, member, active⟩
  cases event with
  | signup s => exact .inl grants.2.2
  | auth a =>
    obtain ⟨_, _, connection, used, _, merchant, _⟩ := grants
    exact .inr (merchant ▸ staffed.connections connection used)
  | register r => exact grants.2.2.2.imp And.right admin
  | create r payload => exact .inr (admin grants.2.2)
  | update r target payload => exact .inr (admin grants.2.2)
  | configure r payload provider => cases grants
  | elsewhere other => cases grants

theorem Effect.staffed (effect : Effect settings office event after) (staffed : Staffed office) : Staffed after := by
  cases effect with
  | stands same => exact staffed.grown (same.users.trans (List.append_nil _).symm) same.connections (List.forall_mem_nil _)
  | joins new users connections active grants =>
    refine staffed.grown users connections (List.forall_mem_singleton.mpr ?_)
    rcases staffed.of_grants grants with founder | has
    · refine hasAdmin_iff.mpr ⟨new.id, ?_⟩
      rw [users, ← founder, ← active]
      exact List.mem_append_right _ (List.mem_singleton_self _)
    · exact hasAdmin_grown users has
  | changes admin target role isActive asks stored administers users connections own grants =>
    -- The administrator who asks stays one.
    have stays : HasAdmin target.merchantId after.accounts.users.rows := by
      rw [users]
      by_cases himself : admin.id = target.id
      · obtain rfl := KeyedRows.faithful_of_nodup User.id office.accounts.users.ids admin asks target stored himself
        exact ⟨_, (KeyedRows.mem_update User.id _).mpr (.inr ⟨admin, asks, rfl, rfl⟩), rfl, own rfl⟩
      · exact ⟨admin, (KeyedRows.mem_update User.id _).mpr (.inl ⟨asks, himself⟩), administers⟩
    have kept {m : String} (has : HasAdmin m office.accounts.users.rows) : HasAdmin m after.accounts.users.rows := by
      by_cases same : m = target.merchantId
      · exact same ▸ stays
      · obtain ⟨other, member, merchant, rest⟩ := has
        have apart : other.id ≠ target.id := fun equal => same
          (merchant ▸ congrArg User.merchantId
            (KeyedRows.faithful_of_nodup User.id office.accounts.users.ids other member target stored equal))
        rw [users]
        exact ⟨other, (KeyedRows.mem_update User.id _).mpr (.inl ⟨member, apart⟩), merchant, rest⟩
    refine ⟨fun user member => ?_, fun connection member => kept (staffed.connections connection (connections ▸ member))⟩
    rw [users] at member
    rcases (KeyedRows.mem_update User.id user).mp member with ⟨old, _⟩ | ⟨old, inside, _, rfl⟩
    · exact kept (staffed.users user old)
    · exact kept (staffed.users old inside)
  | configures new users connections configures =>
    refine ⟨by rw [users]; exact staffed.users, fun connection member => ?_⟩
    rw [connections] at member
    rw [users]
    rcases KeyedRows.mem_of_put SSOConnection.merchantId member with rfl | old
    · cases event with
      | configure r payload provider =>
        obtain ⟨_, admin, asks, _, active⟩ := configures
        exact ⟨admin, asks, active⟩
      | signup | auth | register | create | update | elsewhere => cases configures
    · exact staffed.connections connection old

end Steps

/-! ## Runs -/

/-- The event founds a workspace: its sign-up, or the first registration with the token of the deployment. -/
def Founds (settings : MemberSettings) (merchantId : String) : MemberEvent → Prop
  | .signup s => s.draws.merchantId = merchantId
  | .register r => r.payload.merchantId = merchantId ∧ settings.authBootstrapToken ≠ "" ∧
      r.bootstrapToken = some settings.authBootstrapToken
  | _ => False

section Founding
variable [AuthRuntime] {settings : MemberSettings} {office : Office} {event : MemberEvent} {merchantId : String}

/-- Who gives a role founds the workspace, or finds a user or a connection of it. -/
theorem founds_of_grants {userId role : String} (grants : Grants settings office userId merchantId role event) :
    Founds settings merchantId event ∨ (∃ user ∈ office.accounts.users.rows, user.merchantId = merchantId) ∨
      ∃ connection ∈ office.accounts.connections, connection.merchantId = merchantId := by
  have admin {r : MemberRequest} (asks : ByAdmin settings office r merchantId) :
      ∃ user ∈ office.accounts.users.rows, user.merchantId = merchantId := by
    obtain ⟨admin, member, _, merchant, _⟩ := asks
    exact ⟨admin, member, merchant⟩
  cases event with
  | signup s => exact .inl grants.2.1
  | auth a =>
    obtain ⟨_, _, connection, used, _, merchant, _⟩ := grants
    exact .inr (.inr ⟨connection, used, merchant⟩)
  | register r =>
    obtain ⟨_, merchant, _, ⟨⟨_, token⟩, _⟩ | asks⟩ := grants
    · exact .inl ⟨merchant, token⟩
    · exact .inr (.inl (admin asks))
  | create r payload => exact .inr (.inl (admin grants.2.2))
  | update r target payload => exact .inr (.inl (admin grants.2.2))
  | configure r payload provider => cases grants
  | elsewhere other => cases grants

end Founding

section Runs
variable [AuthRuntime] (isSpace : Char → Bool) (settings : MemberSettings)

/-- After every run each user has the role that an event of the run gave him, and has had it in his workspace in every
state since: the founding of the workspace, an active administrator of it, or a connection of it. Each connection was set up
by an active administrator of its workspace. -/
theorem privileges_granted (events : List MemberEvent) :
    let office := Runs.run (memberStep isSpace settings) {} events
    (∀ user ∈ office.accounts.users.rows, ∃ before event after, events = before ++ event :: after ∧
      Grants settings (Runs.run (memberStep isSpace settings) {} before) user.id user.merchantId user.role event ∧
      Runs.Throughout (memberStep isSpace settings) (fun office => ∃ held ∈ office.accounts.users.rows, rank held = rank user)
        (Runs.run (memberStep isSpace settings) {} (before ++ [event])) after) ∧
    ∀ connection ∈ office.accounts.connections, ∃ before event after, events = before ++ event :: after ∧
      Configures settings (Runs.run (memberStep isSpace settings) {} before) connection event := by
  intro office
  induction events using List.reverseRecOn with
  | nil => exact ⟨List.forall_mem_nil _, List.forall_mem_nil _⟩
  | append_singleton events last ih =>
    obtain ⟨users, connections⟩ := ih
    have stepped : office = memberStep isSpace settings (Runs.run (memberStep isSpace settings) {} events) last := Runs.run_append ..
    have effect := stepped ▸ memberStep_effect isSpace settings (Runs.run (memberStep isSpace settings) {} events) last
    constructor
    · intro user member
      rcases effect.origin member with ⟨old, inside, same⟩ | granted
      · obtain ⟨before, event, after, rfl, granted, held⟩ := users old inside
        obtain ⟨id, rest⟩ := Prod.mk.inj same
        obtain ⟨merchant, role⟩ := Prod.mk.inj rest
        refine ⟨before, event, after ++ [last], by simp, id ▸ merchant ▸ role ▸ granted, fun first prefix_ => ?_⟩
        rcases List.prefix_concat_iff.mp prefix_ with rfl | earlier
        · refine ⟨user, ?_, rfl⟩
          rw [← Runs.run_append]
          simpa [office] using member
        · rw [← same]
          exact held first earlier
      · refine ⟨events, last, [], rfl, granted, fun first prefix_ => ?_⟩
        rw [List.prefix_nil.mp prefix_]
        exact ⟨user, member, rfl⟩
    · intro connection member
      rcases effect.connection member with old | configures
      · obtain ⟨before, event, after, rfl, configured⟩ := connections connection old
        exact ⟨before, event, after ++ [last], by simp, configured⟩
      · exact ⟨events, last, [], rfl, configures⟩

/-- The workspaces that have a user or a connection were founded in the run. -/
theorem run_founded (events : List MemberEvent) :
    let office := Runs.run (memberStep isSpace settings) {} events
    (∀ user ∈ office.accounts.users.rows, ∃ event ∈ events, Founds settings user.merchantId event) ∧
      ∀ connection ∈ office.accounts.connections, ∃ event ∈ events, Founds settings connection.merchantId event := by
  intro office
  induction events using List.reverseRecOn with
  | nil => exact ⟨List.forall_mem_nil _, List.forall_mem_nil _⟩
  | append_singleton events last ih =>
    obtain ⟨users, connections⟩ := ih
    have stepped : office = memberStep isSpace settings (Runs.run (memberStep isSpace settings) {} events) last := Runs.run_append ..
    have effect := stepped ▸ memberStep_effect isSpace settings (Runs.run (memberStep isSpace settings) {} events) last
    have earlier {merchantId : String} (founded : ∃ event ∈ events, Founds settings merchantId event) :
        ∃ event ∈ events ++ [last], Founds settings merchantId event := by
      obtain ⟨event, inside, founds⟩ := founded
      exact ⟨event, List.mem_append_left _ inside, founds⟩
    constructor
    · intro user member
      rcases effect.origin member with ⟨old, inside, same⟩ | granted
      · have merchant : old.merchantId = user.merchantId := (Prod.mk.inj (Prod.mk.inj same).2).1
        exact merchant ▸ earlier (users old inside)
      · rcases founds_of_grants granted with founds | ⟨other, inside, merchant⟩ | ⟨connection, inside, merchant⟩
        · exact ⟨last, List.mem_append_right _ (List.mem_singleton_self last), founds⟩
        · exact merchant ▸ earlier (users other inside)
        · exact merchant ▸ earlier (connections connection inside)
    · intro connection member
      rcases effect.connection member with old | configures
      · exact earlier (connections connection old)
      · cases last with
        | configure r payload provider =>
          obtain ⟨_, admin, asks, _, merchant, _⟩ := configures
          exact merchant ▸ earlier (users admin asks)
        | signup | auth | register | create | update | elsewhere => cases configures

/-- After every run each workspace that has a user was founded in it, and has an active administrator. -/
theorem workspaces_staffed (events : List MemberEvent) :
    ∀ user ∈ (Runs.run (memberStep isSpace settings) {} events).accounts.users.rows,
      (∃ event ∈ events, Founds settings user.merchantId event) ∧
        HasAdmin user.merchantId (Runs.run (memberStep isSpace settings) {} events).accounts.users.rows := by
  have kept : ∀ (office : Office) (event : MemberEvent), Staffed office → Staffed (memberStep isSpace settings office event) :=
    fun office event staffed => (memberStep_effect isSpace settings office event).staffed staffed
  have staffed := Runs.invariant kept staffed_empty events
  exact fun user member => ⟨(run_founded isSpace settings events).1 user member, staffed.users user member⟩

end Runs

section Examples
open PlainText

def memberSettings : MemberSettings where
  authSecret := "0123456789abcdef0123456789abcdef"

def founding : MemberEvent := .signup {
  payload := ⟨"Acme", "Ada", "ada@acme.example", "a long password"⟩
  origin := {}
  now := 1704110400000000
  draws := {
    merchantId := "m1"
    userId := "u1"
    onboardingId := "o1"
    subscriptionId := "s1"
    request := {
      session := { sessionId := "t1", refresh := "refresh", family := keys }
      login := { state := "", verifier := "", nonce := "", encryption := [], userId := "", password := "" } } } }

def founder : User where
  id := "u1"
  email := "ada@acme.example"
  passwordHash := "scrypt$$a long password"
  merchantId := "m1"
  role := "ADMIN"

theorem workspaces_staffed_founding :
    (∃ event ∈ [founding], Founds memberSettings founder.merchantId event) ∧
      HasAdmin founder.merchantId (Runs.run (memberStep Char.isWhitespace memberSettings) {} [founding]).accounts.users.rows := by
  have member : founder ∈ (Runs.run (memberStep Char.isWhitespace memberSettings) {} [founding]).accounts.users.rows := by
    decide +kernel
  exact workspaces_staffed Char.isWhitespace memberSettings [founding] founder member

end Examples
end RCAA.Workspaces
