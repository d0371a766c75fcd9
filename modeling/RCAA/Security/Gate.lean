import RCAA.Security.Routes
import RCAA.Library.Runs
import RCAA.System

/-! Which requests open a session. Every route that opens one checks its user for itself;
a reset asks for no code, and a callback does not ask whether the user is active. -/

namespace RCAA.Security

def Request.viaSso : Request → Bool
  | .ssoCallback _ _ _ => true
  | _ => false

/-- A refresh hands a family on and opens none. -/
def Request.continues : Request → Bool
  | .refresh _ => true
  | _ => false

/-- The code a request carries. -/
def Request.code : Request → Option String
  | .verifyMfaLogin _ code | .mfaVerifySetupRequired _ code | .mfaVerify _ code | .mfaDisable _ code => some code
  | _ => none

section Gate
variable [AuthRuntime] (settings : AuthSettings)

/-- The user is active and, off single sign-on, the request has a code of the second
factor they have enabled. -/
def Admitted (a : Arrival) (after : Accounts) (userId : String) : Prop :=
  ∃ user, after.users.get? userId = some user ∧ user.isActive = true ∧
    (user.mfaEnabled = true → a.request.viaSso = false →
      ∃ code, a.request.code = some code ∧ Verifies settings a.now user code)

/-- The users of the families that are new are admitted. -/
def GatedTo (accounts : Accounts) (a : Arrival) (after : Accounts) : Prop :=
  ∀ row ∈ after.sessions.rows, row.familyId ∉ accounts.sessions.families → Admitted settings a after row.userId

def Gated (accounts : Accounts) (a : Arrival) : Prop :=
  a.request.continues = false → GatedTo settings accounts a (serve settings accounts a)

/-- The secrets are configured and what is drawn for a session is not in use. -/
def Drawable (draws : SessionDraws) (sessions : Sessions) : Prop :=
  32 ≤ settings.authSecret.length ∧ draws.sessionId ∉ sessions.rows.map (·.id) ∧
    AuthRuntime.hmacSha256 settings.authSecret draws.refresh ∉ sessions.rows.map (·.tokenHash)

instance (draws : SessionDraws) (sessions : Sessions) : Decidable (Drawable settings draws sessions) :=
  inferInstanceAs (Decidable (_ ∧ _))

/-- A usable reset of a user whose second factor is enabled, or an identity whose user is
not active. -/
def bypasses (accounts : Accounts) (a : Arrival) : Bool :=
  match a.request with
  | .passwordReset token newPassword =>
    fits 20 200 token && fits 10 128 newPassword &&
      (usableReset settings a.now accounts token).any fun (_, user) => user.mfaEnabled
  | .ssoCallback state code provider =>
    match acceptedIdentity settings a.now accounts.connections accounts.logins state code provider with
    | .error _ => false
    | .ok (_, connection, email) =>
      (accounts.users.byEmail? email).any fun user => user.merchantId = connection.merchantId && !user.isActive
  | _ => false

def Bypasses (accounts : Accounts) (a : Arrival) : Prop :=
  bypasses settings accounts a = true ∧ Drawable settings a.draws.session accounts.sessions

instance (accounts : Accounts) (a : Arrival) : Decidable (Bypasses settings accounts a) :=
  inferInstanceAs (Decidable (_ ∧ _))

end Gate

section Frames
variable [AuthRuntime] {settings : AuthSettings} {accounts base : Accounts} {a : Arrival}

/-! ## What the combinators of the routes keep -/

omit [AuthRuntime] in
theorem attempt_keeps {P : Accounts → Prop} {made : Except Failure (Reply × Accounts)} (before : P base)
    (succeeded : ∀ reply after, made = .ok (reply, after) → P after) : P (base.attempt made).2 := by
  unfold Accounts.attempt
  split
  · exact before
  · next reply after => exact succeeded reply after rfl

theorem limited_keeps {P : Accounts → Prop} {now : Int} {action key : String} {limit windowSeconds : Int}
    {route : Accounts → Response} (before : ∀ limits, P { base with limits })
    (routed : ∀ limits, P (route { base with limits }).2) :
    P (base.limited settings now action key limit windowSeconds route).2 := by
  unfold Accounts.limited
  split
  · next limits _ => exact before limits
  · next limits _ => exact routed limits

/-! ## Opening a family -/

/-- No family is new where the families are those there were. -/
theorem gatedTo_of_families {after : Accounts}
    (families : ∀ row ∈ after.sessions.rows, row.familyId ∈ accounts.sessions.families) :
    GatedTo settings accounts a after := fun row member new => absurd (families row member) new

theorem gatedTo_of_sessions {after : Accounts} (same : after.sessions = accounts.sessions) :
    GatedTo settings accounts a after :=
  gatedTo_of_families fun _ member => same ▸ Sessions.mem_families member

/-- Counting a request opens no family. -/
theorem gatedTo_limits (limits : List SecurityRateLimit) : GatedTo settings accounts a { accounts with limits } :=
  gatedTo_of_sessions rfl

theorem hashMetadata_isOk (configured : ¬settings.authSecret.length < 32) (value : Option String) :
    ∃ hashed, hashMetadata settings value = .ok hashed := by
  unfold hashMetadata
  cases value with
  | none => exact ⟨_, rfl⟩
  | some value =>
    by_cases blank : value = ""
    · exact ⟨_, if_pos blank⟩
    · simp only [if_neg blank, hashToken, secret, if_neg configured]
      exact ⟨_, rfl⟩

theorem createSessionTokens_isOk_iff {draws : SessionDraws} {now : Int} {sessions : Sessions} {user : User}
    {clientIp userAgent familyId : Option String} :
    (∃ made, createSessionTokens settings draws now sessions user clientIp userAgent familyId = .ok made) ↔
      Drawable settings draws sessions := by
  by_cases short : settings.authSecret.length < 32
  · refine iff_of_false ?_ fun drawable => absurd drawable.1 (by omega)
    rintro ⟨made, created⟩
    obtain ⟨_, row, _⟩ := Outcome.bind_ok created
    obtain ⟨_, hashed, _⟩ := Outcome.bind_ok row
    rw [hashToken, secret, if_pos short] at hashed
    cases hashed
  · obtain ⟨ipHash, ip⟩ := hashMetadata_isOk short clientIp
    obtain ⟨agentHash, agent⟩ := hashMetadata_isOk short userAgent
    have configured : 32 ≤ settings.authSecret.length := by omega
    have hashed : hashToken settings draws.refresh = .ok (AuthRuntime.hmacSha256 settings.authSecret draws.refresh) := by
      rw [hashToken, secret, if_neg short]
      rfl
    simp only [createSessionTokens, newSession, hashed, ip, agent, bind, Except.bind, pure, Except.pure, Sessions.insert,
      createAccessToken, secret, if_neg short, Drawable, configured, true_and]
    by_cases untaken : draws.sessionId ∉ sessions.rows.map (·.id) ∧
        AuthRuntime.hmacSha256 settings.authSecret draws.refresh ∉ sessions.rows.map (·.tokenHash)
    · rw [dif_pos untaken]
      exact iff_of_true ⟨_, rfl⟩ untaken
    · rw [dif_neg untaken]
      refine iff_of_false ?_ untaken
      rintro ⟨_, made⟩
      cases made

/-- Where a family is opened the gate is the admission of its user. -/
theorem issue_gated_iff {draws : RequestDraws} {now : Int} {user : User} {clientIp userAgent : Option String} {reply : Reply}
    {after : Accounts} (issued : base.issue settings draws now user clientIp userAgent = .ok (reply, after))
    (families : base.sessions.families = accounts.sessions.families) :
    GatedTo settings accounts a after ↔ Admitted settings a base user.id := by
  obtain ⟨⟨made, sessions⟩, created, rest⟩ := Outcome.bind_ok issued
  cases rest
  obtain ⟨rows, family, owner, _⟩ := createSessionTokens_ok created
  have fresh : made.session.familyId ∉ accounts.sessions.families := by
    rw [family, ← families]
    exact familyOf_fresh _ _ (.inl rfl)
  constructor
  · intro gated
    have member : made.session ∈ sessions.rows := by simp [rows]
    exact owner ▸ gated made.session member fresh
  · intro admitted row member new
    rw [rows] at member
    rcases List.mem_append.mp member with old | added
    · exact absurd (families ▸ Sessions.mem_families old) new
    · rw [List.mem_singleton.mp added, owner]
      exact admitted

theorem issue_isOk_iff {draws : RequestDraws} {now : Int} {user : User} {clientIp userAgent : Option String} :
    (∃ made, base.issue settings draws now user clientIp userAgent = .ok made) ↔
      Drawable settings draws.session base.sessions := by
  refine Iff.trans ?_ (createSessionTokens_isOk_iff : (∃ made,
    createSessionTokens settings draws.session now base.sessions user clientIp userAgent none = .ok made) ↔ _)
  constructor
  · rintro ⟨made, issued⟩
    obtain ⟨created, done, _⟩ := Outcome.bind_ok issued
    exact ⟨created, done⟩
  · rintro ⟨⟨issued, sessions⟩, created⟩
    refine ⟨(.tokens issued.access issued.refresh, { base with sessions }), ?_⟩
    rw [Accounts.issue, created]
    rfl

/-! ## The routes that ask what they should -/

/-- A family a request opens for a user it admits is as it should be. -/
theorem issue_gated {draws : RequestDraws} {now : Int} {user : User} {clientIp userAgent : Option String} {reply : Reply}
    {after : Accounts} (issued : base.issue settings draws now user clientIp userAgent = .ok (reply, after))
    (families : base.sessions.families = accounts.sessions.families) (admitted : Admitted settings a base user.id) :
    GatedTo settings accounts a after := (issue_gated_iff issued families).mpr admitted

omit [AuthRuntime] in
theorem filter_eq_some {α : Type} {p : α → Bool} {x : Option α} {value : α} (kept : x.filter p = some value) :
    x = some value ∧ p value = true := Option.filter_eq_some_iff.mp kept

theorem login_gated {draws : RequestDraws} {now : Int} {origin : Origin} {email password : String} :
    GatedTo settings accounts a (login settings draws now origin accounts email password).2 := by
  unfold login
  refine limited_keeps gatedTo_limits fun limits => limited_keeps gatedTo_limits fun limits => ?_
  split
  · exact gatedTo_limits _
  · next user found =>
    refine attempt_keeps (gatedTo_limits _) fun reply after made => ?_
    split at made
    · obtain ⟨_, _, made⟩ := Outcome.map_ok made
      cases made
      exact gatedTo_limits _
    · next without =>
      split at made
      · obtain ⟨_, _, made⟩ := Outcome.map_ok made
        cases made
        exact gatedTo_limits _
      · obtain ⟨stored, checked⟩ := filter_eq_some found
        obtain ⟨active, _⟩ := Bool.and_eq_true_iff.mp checked
        have member := (Users.byEmail?_eq_some_iff.mp stored).1
        exact issue_gated made rfl
          ⟨user, Users.get?_eq_some_iff.mpr ⟨member, rfl⟩, active, fun enabled => absurd enabled without⟩

theorem verifyMfaLogin_gated {challenge code : String} (request : a.request = .verifyMfaLogin challenge code) :
    GatedTo settings accounts a (verifyMfaLogin settings a.draws a.now a.origin accounts challenge code).2 := by
  unfold verifyMfaLogin
  split
  · exact gatedTo_limits _
  · split
    · exact gatedTo_limits _
    · next claims _ =>
      split
      · exact gatedTo_limits _
      · next user found =>
        obtain ⟨known, checked⟩ := filter_eq_some found
        obtain ⟨active, _⟩ := Bool.and_eq_true_iff.mp checked
        split
        · exact gatedTo_limits _
        · next stored kept =>
          split
          · exact gatedTo_limits _
          · next secret decrypted =>
            refine limited_keeps gatedTo_limits fun limits => attempt_keeps (gatedTo_limits _) fun reply after made => ?_
            obtain ⟨verified, checkedCode, made⟩ := Outcome.bind_ok made
            split at made
            · next correct =>
              have verifies : Verifies settings a.now user code :=
                ⟨stored, secret, (filter_eq_some kept).1, decrypted, by rw [checkedCode, correct]⟩
              have id : user.id = claims.sub := (Users.get?_eq_some_iff.mp known).2
              refine issue_gated made rfl ⟨user, id ▸ known, active, fun _ _ => ⟨code, ?_, verifies⟩⟩
              rw [request, Request.code]
            · cases made

theorem mfaVerifySetupRequired_gated {setupToken : Option String} {code : String}
    (request : a.request = .mfaVerifySetupRequired setupToken code) :
    GatedTo settings accounts a (mfaVerifySetupRequired settings a.draws a.now accounts setupToken code).2 := by
  unfold mfaVerifySetupRequired
  split
  · exact gatedTo_limits _
  · split
    · exact gatedTo_limits _
    · next user held =>
      have known : accounts.users.get? user.id = some user ∧ user.isActive = true := by
        unfold userFromSetupToken at held
        split at held
        · cases held
        · obtain ⟨claims, _, held⟩ := Outcome.bind_ok held
          split at held
          · cases held
          · next found =>
            cases held
            obtain ⟨found, active⟩ := filter_eq_some found
            exact ⟨(Users.get?_eq_some_iff.mp found).2 ▸ found, active⟩
      refine limited_keeps gatedTo_limits fun limits => ?_
      split
      · exact gatedTo_limits _
      · next stored kept =>
        refine attempt_keeps (gatedTo_limits _) fun reply after made => ?_
        obtain ⟨secret, decrypted, made⟩ := Outcome.bind_ok made
        obtain ⟨verified, checkedCode, made⟩ := Outcome.bind_ok made
        split at made
        · next correct =>
          have written : (accounts.users.write user.id enableMfa).get? user.id = some (enableMfa.apply user) := by
            rw [Users.get?_write, known.1, Option.map_some, if_pos rfl]
          refine issue_gated made rfl ⟨_, written, known.2, fun _ _ => ⟨code, ?_, ?_⟩⟩
          · rw [request, Request.code]
          · exact ⟨stored, secret, (filter_eq_some kept).1, decrypted, by rw [checkedCode, correct]⟩
        · cases made

/-! ## The routes that open no session -/

/-- A request that writes to sessions that are stored, and leaves the reset tokens. -/
structure Rewrites (accounts after : Accounts) : Prop where
  sessions : ∃ writes : List Write, after.sessions = writes.foldl Sessions.write accounts.sessions
  resets : after.resets = accounts.resets

omit [AuthRuntime] in
theorem rewrites_of_tables {after : Accounts} (sessions : after.sessions = accounts.sessions)
    (resets : after.resets = accounts.resets) : Rewrites accounts after := ⟨⟨[], sessions⟩, resets⟩

omit [AuthRuntime] in
theorem rewrites_limits (limits : List SecurityRateLimit) : Rewrites accounts { accounts with limits } :=
  rewrites_of_tables rfl rfl

omit [AuthRuntime] in
theorem families_writes (sessions : Sessions) (writes : List Write) :
    (writes.foldl Sessions.write sessions).families = sessions.families := by
  induction writes generalizing sessions with
  | nil => rfl
  | cons w rest ih => rw [List.foldl_cons, ih, Sessions.families_write]

theorem Rewrites.gated {after : Accounts} (rewrites : Rewrites accounts after) : GatedTo settings accounts a after := by
  obtain ⟨writes, same⟩ := rewrites.sessions
  refine gatedTo_of_families fun row member => ?_
  rw [← families_writes accounts.sessions writes, ← same]
  exact Sessions.mem_families member

theorem startSetup_rewrites {draws : RequestDraws} {user : User} {reply : Reply} {after : Accounts}
    (made : startSetup settings draws accounts user = .ok (reply, after)) : Rewrites accounts after := by
  unfold startSetup at made
  split at made
  · cases made
  · obtain ⟨_, _, made⟩ := Outcome.bind_ok made
    cases made
    exact rewrites_of_tables rfl rfl

theorem mfaSetupRequired_rewrites {draws : RequestDraws} {now : Int} {setupToken : Option String} :
    Rewrites accounts (mfaSetupRequired settings draws now accounts setupToken).2 := by
  refine attempt_keeps (rewrites_of_tables rfl rfl) fun reply after made => ?_
  obtain ⟨user, _, made⟩ := Outcome.bind_ok made
  exact startSetup_rewrites made

theorem mfaSetup_rewrites {draws : RequestDraws} {now : Int} {credentials : Option String} {password : String} :
    Rewrites accounts (mfaSetup settings draws now accounts credentials password).2 := by
  refine attempt_keeps (rewrites_of_tables rfl rfl) fun reply after made => ?_
  obtain ⟨user, _, made⟩ := Outcome.bind_ok made
  split at made
  · cases made
  · split at made
    · cases made
    · exact startSetup_rewrites made

theorem mfaVerify_rewrites {now : Int} {credentials : Option String} {code : String} :
    Rewrites accounts (mfaVerify settings now accounts credentials code).2 := by
  unfold mfaVerify
  split
  · exact rewrites_limits _
  · split
    · exact rewrites_limits _
    · refine limited_keeps rewrites_limits fun limits => ?_
      split
      · exact rewrites_limits _
      · refine attempt_keeps (rewrites_limits _) fun reply after made => ?_
        obtain ⟨_, _, made⟩ := Outcome.bind_ok made
        obtain ⟨_, _, made⟩ := Outcome.bind_ok made
        split at made
        · cases made
          exact rewrites_of_tables rfl rfl
        · cases made

theorem mfaDisable_rewrites {now : Int} {credentials : Option String} {code : String} :
    Rewrites accounts (mfaDisable settings now accounts credentials code).2 := by
  unfold mfaDisable
  split
  · exact rewrites_limits _
  · next user _ =>
    split
    · exact rewrites_limits _
    · refine limited_keeps rewrites_limits fun limits => ?_
      split
      · exact rewrites_limits _
      · refine attempt_keeps (rewrites_limits _) fun reply after made => ?_
        obtain ⟨_, _, made⟩ := Outcome.bind_ok made
        obtain ⟨_, _, made⟩ := Outcome.bind_ok made
        split at made
        · cases made
          exact ⟨⟨[revokeUser user.id now], rfl⟩, rfl⟩
        · cases made

theorem revokeSessionByRefresh_writes (now : Int) (sessions : Sessions) (refreshToken : Option String) :
    ∃ writes : List Write, (revokeSessionByRefresh settings now sessions refreshToken).2 =
      writes.foldl Sessions.write sessions := by
  unfold revokeSessionByRefresh
  repeat' split
  all_goals first | exact ⟨[], rfl⟩ | exact ⟨[_], rfl⟩

theorem revokeSessionByAccess_writes (now : Int) (sessions : Sessions) (token : Option String) :
    ∃ writes : List Write, (revokeSessionByAccess settings now sessions token).2 = writes.foldl Sessions.write sessions := by
  unfold revokeSessionByAccess
  repeat' split
  all_goals first | exact ⟨[], rfl⟩ | exact ⟨[_], rfl⟩

theorem logout_rewrites {now : Int} {refreshToken access : Option String} :
    Rewrites accounts (logout settings now accounts refreshToken access).2 := by
  obtain ⟨first, byRefresh⟩ := @revokeSessionByRefresh_writes _ settings now accounts.sessions refreshToken
  unfold logout
  split
  · next revoked =>
    rw [revoked] at byRefresh
    exact ⟨⟨first, byRefresh⟩, rfl⟩
  · next sessions revoked =>
    rw [revoked] at byRefresh
    obtain ⟨second, byAccess⟩ := @revokeSessionByAccess_writes _ settings now sessions access
    refine ⟨⟨first ++ second, ?_⟩, rfl⟩
    rw [List.foldl_append, ← byRefresh]
    exact byAccess

theorem ssoStart_rewrites {draws : RequestDraws} {now : Int} {email : String} {provider : Provider} :
    Rewrites accounts (ssoStart settings draws now accounts email provider).2 := by
  have same : Rewrites accounts accounts := rewrites_of_tables rfl rfl
  unfold ssoStart
  split
  · exact same
  · split
    · exact same
    · split
      · exact same
      · refine attempt_keeps same fun reply after made => ?_
        obtain ⟨_, _, made⟩ := Outcome.bind_ok made
        cases made
        exact rewrites_of_tables rfl rfl

theorem passwordForgot_gated {draws : RequestDraws} {now : Int} {origin : Origin} {email : String} :
    GatedTo settings accounts a (passwordForgot settings draws now origin accounts email).2 := by
  unfold passwordForgot
  split
  · exact gatedTo_limits _
  · refine limited_keeps gatedTo_limits fun limits => limited_keeps gatedTo_limits fun limits => ?_
    split
    · exact gatedTo_limits _
    · refine attempt_keeps (gatedTo_limits _) fun reply after made => ?_
      obtain ⟨_, _, made⟩ := Outcome.bind_ok made
      cases made
      exact gatedTo_of_sessions rfl

/-! ## The reset and the callback -/

theorem hashPassword_isOk {password : String} (accepted : fits 10 128 password = true) (salt : List UInt8) :
    ∃ hashed, hashPassword salt password = .ok hashed := by
  obtain ⟨low, high⟩ := of_decide_eq_true accepted
  exact ⟨_, if_neg (by omega)⟩

theorem drawable_write {draws : SessionDraws} {sessions : Sessions} {w : Write} :
    Drawable settings draws (sessions.write w) ↔ Drawable settings draws sessions := by
  simp only [Drawable, Sessions.write, List.map_map, Function.comp_def, Write.id, Write.tokenHash]

theorem usableReset_user {now : Int} {token : String} {item : PasswordResetToken} {user : User}
    (usable : usableReset settings now accounts token = some (item, user)) :
    accounts.users.get? user.id = some user ∧ user.isActive = true := by
  obtain ⟨found, _, usable⟩ := Option.bind_eq_some_iff.mp usable
  split at usable
  · cases usable
  · obtain ⟨owner, known, usable⟩ := Option.bind_eq_some_iff.mp usable
    split at usable
    · next active =>
      cases usable
      exact ⟨(Users.get?_eq_some_iff.mp known).2 ▸ known, active⟩
    · cases usable

/-- What a request is admitted for, where it opens a session at all. -/
theorem every_issue_gated_iff {draws : RequestDraws} {now : Int} {user : User} {clientIp userAgent : Option String}
    (families : base.sessions.families = accounts.sessions.families) :
    (∀ reply after, base.issue settings draws now user clientIp userAgent = .ok (reply, after) →
        GatedTo settings accounts a after) ↔
      (Drawable settings draws.session base.sessions → Admitted settings a base user.id) := by
  constructor
  · intro every drawable
    obtain ⟨⟨reply, after⟩, issued⟩ := issue_isOk_iff.mpr drawable
    exact (issue_gated_iff issued families).mp (every reply after issued)
  · intro admitted reply after issued
    exact issue_gated issued families (admitted (issue_isOk_iff.mp ⟨_, issued⟩))

omit [AuthRuntime] in
theorem attempt_iff {P : Accounts → Prop} {made : Except Failure (Reply × Accounts)} (before : P base) :
    P (base.attempt made).2 ↔ ∀ reply after, made = .ok (reply, after) → P after := by
  refine ⟨fun kept reply after done => ?_, attempt_keeps before⟩
  rwa [done] at kept

/-- A reset that opens a session opens it for a user whose second factor may be enabled. -/
theorem passwordReset_gated_iff {token newPassword : String} (request : a.request = .passwordReset token newPassword) :
    GatedTo settings accounts a (passwordReset settings a.draws a.now a.origin accounts token newPassword).2 ↔
      ¬Bypasses settings accounts a := by
  have same : GatedTo settings accounts a accounts := gatedTo_of_sessions rfl
  unfold passwordReset Bypasses bypasses
  rw [request]
  split
  · next refused =>
    refine iff_of_true same fun both => ?_
    obtain ⟨accepted, _⟩ := Bool.and_eq_true_iff.mp both.1
    obtain ⟨first, second⟩ := Bool.and_eq_true_iff.mp accepted
    rw [first, second] at refused
    exact absurd refused (by decide)
  · next accepted =>
    have accepted : fits 20 200 token = true ∧ fits 10 128 newPassword = true := by simpa [not_or] using accepted
    simp only [accepted.1, accepted.2, Bool.true_and]
    cases usable : usableReset settings a.now accounts token with
    | none => exact iff_of_true same fun both => absurd both.1 (by decide)
    | some found =>
      obtain ⟨item, user⟩ := found
      obtain ⟨known, active⟩ := usableReset_user usable
      obtain ⟨passwordHash, hashed⟩ := hashPassword_isOk accepted.2 a.draws.salt
      have written : (accounts.users.write user.id (setPassword passwordHash)).get? user.id =
          some ((setPassword passwordHash).apply user) := by
        rw [Users.get?_write, known, Option.map_some, if_pos rfl]
      simp only [hashed, bind, Except.bind, Option.any_some]
      rw [attempt_iff same, every_issue_gated_iff (Sessions.families_write _), drawable_write, not_and, imp_not_comm]
      refine imp_congr_right fun _ => ⟨?_, fun without => ⟨_, written, active, fun enabled => absurd enabled without⟩⟩
      rintro ⟨other, stored, _, gate⟩ enabled
      cases written.symm.trans stored
      obtain ⟨code, carried, _⟩ := gate enabled (congrArg Request.viaSso request)
      cases (congrArg Request.code request).symm.trans carried

theorem ssoAdmitted_iff {user : User} (sso : a.request.viaSso = true)
    (known : base.users.get? user.id = some user) : Admitted settings a base user.id ↔ user.isActive = true := by
  constructor
  · rintro ⟨other, stored, active, _⟩
    cases known.symm.trans stored
    exact active
  · exact fun active => ⟨user, known, active, fun _ off => absurd (sso.symm.trans off) (by decide)⟩

theorem completed_gated_iff {state code : String} {provider : Provider} {user : User} {users : Users}
    {logins : List SSOLoginState} (completed : completeLogin settings a.draws.login a.now accounts.users
      accounts.connections accounts.logins state code provider = .ok (user, users, logins)) :
    GatedTo settings accounts a (ssoCallback settings a.draws a.now a.origin accounts state code provider).2 ↔
      (Drawable settings a.draws.session accounts.sessions →
        Admitted settings a { accounts with users, logins } user.id) := by
  have issues : (∀ reply after, Accounts.issue settings a.draws a.now { accounts with users, logins } user
      a.origin.clientIp a.origin.userAgent = .ok (reply, after) → GatedTo settings accounts a after) ↔ _ :=
    every_issue_gated_iff rfl
  rw [← issues]
  simp only [ssoCallback, completed]
  split
  · next refused =>
    refine iff_of_true (gatedTo_of_sessions rfl) fun reply after issued => ?_
    cases refused.symm.trans issued
  · next reply after issued =>
    have reached : GatedTo settings accounts a after ↔ ∀ reply after, Accounts.issue settings a.draws a.now
        { accounts with users, logins } user a.origin.clientIp a.origin.userAgent = .ok (reply, after) →
          GatedTo settings accounts a after := by
      refine ⟨fun gated reply other again => ?_, fun every => every _ _ issued⟩
      cases issued.symm.trans again
      exact gated
    split
    · exact reached
    · exact reached

/-- The user of an identity is the stored one, of the merchant, or a new one. -/
theorem identityUser_ok {draws : LoginDraws} {users users' : Users} {connection : SSOConnection} {email : String}
    {user : User} (found : identityUser settings draws users connection email = .ok (user, users')) :
    users'.get? user.id = some user ∧
      ((users.byEmail? email = some user ∧ user.merchantId = connection.merchantId) ∨
        (users.byEmail? email = none ∧ user.isActive = true)) := by
  unfold identityUser at found
  split at found
  · next stored known =>
    split at found
    · cases found
    · next merchant =>
      cases found
      refine ⟨Users.get?_eq_some_iff.mpr ⟨(Users.byEmail?_eq_some_iff.mp known).1, rfl⟩, .inl ⟨known, ?_⟩⟩
      exact of_not_not merchant
  · next absent =>
    obtain ⟨_, _, found⟩ := Outcome.bind_ok found
    obtain ⟨grown, inserted, found⟩ := Outcome.bind_ok found
    cases found
    exact ⟨Users.get?_eq_some_iff.mpr ⟨by rw [Users.insert_ok inserted]; simp, rfl⟩, .inr ⟨absent, rfl⟩⟩

theorem identityUser_error {draws : LoginDraws} {users : Users} {connection : SSOConnection} {email : String}
    {failure : Failure} (refused : identityUser settings draws users connection email = .error failure) {user : User}
    (known : users.byEmail? email = some user) : user.merchantId ≠ connection.merchantId := by
  intro merchant
  simp only [identityUser, known, merchant, ne_eq, not_true_eq_false, if_false] at refused
  cases refused

/-- A callback opens a session for whoever the identity names, active or not. -/
theorem ssoCallback_gated_iff {state code : String} {provider : Provider}
    (request : a.request = .ssoCallback state code provider) :
    GatedTo settings accounts a (ssoCallback settings a.draws a.now a.origin accounts state code provider).2 ↔
      ¬Bypasses settings accounts a := by
  have same : GatedTo settings accounts a accounts := gatedTo_of_sessions rfl
  have sso : a.request.viaSso = true := congrArg Request.viaSso request
  unfold Bypasses bypasses
  rw [request]
  cases accepted : acceptedIdentity settings a.now accounts.connections accounts.logins state code provider with
  | error failure =>
    simp only [ssoCallback, completeLogin, accepted, bind, Except.bind]
    exact iff_of_true same fun both => absurd both.1 (by decide)
  | ok identity =>
    obtain ⟨row, connection, email⟩ := identity
    simp only [accepted, Option.any_eq_true, Bool.and_eq_true, decide_eq_true_eq, Bool.not_eq_true']
    cases found : identityUser settings a.draws.login accounts.users connection email with
    | error failure =>
      simp only [ssoCallback, completeLogin, accepted, found, bind, Except.bind]
      refine iff_of_true same ?_
      rintro ⟨⟨user, known, merchant, _⟩, _⟩
      exact identityUser_error found known merchant
    | ok made =>
      obtain ⟨user, users⟩ := made
      have completed : completeLogin settings a.draws.login a.now accounts.users accounts.connections accounts.logins
          state code provider = .ok (user, users, accounts.logins.filter fun other => other.stateHash ≠ row.stateHash) := by
        simp only [completeLogin, accepted, found, bind, Except.bind, pure, Except.pure]
      obtain ⟨stored, origin⟩ := identityUser_ok found
      rw [completed_gated_iff completed, ssoAdmitted_iff sso stored, not_and, imp_not_comm]
      refine imp_congr_right fun _ => ?_
      rcases origin with ⟨known, merchant⟩ | ⟨absent, active⟩
      · constructor
        · rintro active ⟨other, again, _, inactive⟩
          cases known.symm.trans again
          exact absurd (active.symm.trans inactive) (by decide)
        · intro none
          by_contra inactive
          exact none ⟨user, known, merchant, Bool.not_eq_true _ |>.mp inactive⟩
      · refine iff_of_true active ?_
        rintro ⟨other, again, _⟩
        cases absent.symm.trans again

/-! ## Every request -/

theorem gated_iff : Gated settings accounts a ↔ ¬Bypasses settings accounts a := by
  -- The routes that ask what they should bypass nothing.
  have asks {opens : Prop} (quiet : bypasses settings accounts a = false)
      (gated : GatedTo settings accounts a (respond settings accounts a).2) :
      (opens → GatedTo settings accounts a (serve settings accounts a)) ↔ ¬Bypasses settings accounts a :=
    iff_of_true (fun _ => gated) fun both => absurd (both.1.symm.trans quiet) (by decide)
  unfold Gated
  cases request : a.request with
  | passwordReset token newPassword =>
    simp only [serve, respond, request, Request.continues, true_implies]
    exact passwordReset_gated_iff request
  | ssoCallback state code provider =>
    simp only [serve, respond, request, Request.continues, true_implies]
    exact ssoCallback_gated_iff request
  | refresh refreshToken =>
    refine iff_of_true nofun fun both => ?_
    have quiet : bypasses settings accounts a = false := by rw [bypasses, request]
    exact absurd (both.1.symm.trans quiet) (by decide)
  | passwordForgot email =>
    refine asks (by rw [bypasses, request]) ?_
    rw [respond, request]
    exact passwordForgot_gated
  | login email password =>
    refine asks (by rw [bypasses, request]) ?_
    rw [respond, request]
    exact login_gated
  | verifyMfaLogin challenge code =>
    refine asks (by rw [bypasses, request]) ?_
    rw [respond, request]
    exact verifyMfaLogin_gated request
  | mfaSetupRequired setupToken =>
    refine asks (by rw [bypasses, request]) ?_
    rw [respond, request]
    exact mfaSetupRequired_rewrites.gated
  | mfaVerifySetupRequired setupToken code =>
    refine asks (by rw [bypasses, request]) ?_
    rw [respond, request]
    exact mfaVerifySetupRequired_gated request
  | mfaSetup credentials password =>
    refine asks (by rw [bypasses, request]) ?_
    rw [respond, request]
    exact mfaSetup_rewrites.gated
  | mfaVerify credentials code =>
    refine asks (by rw [bypasses, request]) ?_
    rw [respond, request]
    exact mfaVerify_rewrites.gated
  | mfaDisable credentials code =>
    refine asks (by rw [bypasses, request]) ?_
    rw [respond, request]
    exact mfaDisable_rewrites.gated
  | logout refreshToken access =>
    refine asks (by rw [bypasses, request]) ?_
    rw [respond, request]
    exact logout_rewrites.gated
  | ssoStart email provider =>
    refine asks (by rw [bypasses, request]) ?_
    rw [respond, request]
    exact ssoStart_rewrites.gated

/-- In every sequence of requests: each family that is opened is opened for an active
user, and for one whose second factor is enabled, off single sign-on, with a code of it,
exactly if no request is a reset for such a user or a callback for one not active. -/
theorem issuance_gated_iff (settings : AuthSettings) (accounts : Accounts) (arrivals : List Arrival) :
    Runs.Along (serve settings) (Gated settings) accounts arrivals ↔
      Runs.Along (serve settings) (fun accounts a => ¬Bypasses settings accounts a) accounts arrivals :=
  ⟨Runs.Along.imp fun _ _ => gated_iff.mp, Runs.Along.imp fun _ _ => gated_iff.mpr⟩

end Frames

section Examples
open PlainText

def gateSettings : AuthSettings where
  authSecret := "0123456789abcdef0123456789abcdef"
  mfaEncryptionKey := "key"

/-- An active user with a second factor. -/
def enrolled : User where
  id := "u1"
  email := "ops@example.com"
  passwordHash := "scrypt$salt$old password"
  merchantId := "m1"
  role := "OPS"
  mfaEnabled := true
  mfaSecretEnc := some "JBSWY3DPEHPK3PXP"

def resetDraws : RequestDraws where
  session := { sessionId := "s1", refresh := "refresh", family := keys }
  reset := "a reset token of some length"
  login := { state := "", verifier := "", nonce := "", encryption := [], userId := "", password := "" }

/-- The user asks for a reset and uses it. -/
def forgottenPassword : List Arrival :=
  [⟨resetDraws, 0, {}, .passwordForgot "ops@example.com"⟩,
    ⟨resetDraws, 60, {}, .passwordReset "a reset token of some length" "a new password"⟩]

/-- A reset opens a session for a user whose second factor nobody asked for. -/
theorem reset_skips_the_second_factor :
    ¬∀ accounts arrivals, Runs.Along (serve gateSettings) (Gated gateSettings) accounts arrivals := by
  intro law
  have second := (law { users := { rows := [enrolled] } } forgottenPassword).2.1
  exact gated_iff.mp second (by decide +kernel)

end Examples
end RCAA.Security
