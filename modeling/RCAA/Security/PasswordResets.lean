import RCAA.Security.Kept

/-! Password resets over whole histories of requests, of any kind and by any party. A reset
token that was used or superseded stays unusable, and a session that was revoked lets nobody in. -/

namespace RCAA.Security

section Requests
variable [AuthRuntime] {settings : AuthSettings} {accounts : Accounts}

/-! ## The two routes of a reset -/

/-- A token was issued to a user, and those there were are used. -/
structure Reissued (accounts after : Accounts) (user : User) : Prop where
  sessions : after.sessions = accounts.sessions
  resets : ∃ selected now new, (∀ row : PasswordResetToken, row.userId = user.id → row.usedAt = none → selected row = true) ∧
    new.userId = user.id ∧ after.resets.rows = (accounts.resets.use selected now).rows ++ [new]

/-- What a request for a reset does: unless it is refused or there is no such user, a token is issued. -/
inductive Forgotten (accounts : Accounts) (email : String) : Response → Prop
  | refused (failure : Failure) (after : Accounts) (aside : Aside accounts after) : Forgotten accounts email (.error failure, after)
  | unknown (reply : Reply) (after : Accounts) (aside : Aside accounts after)
      (none : (accounts.users.byEmail? (lower (strip email))).filter (·.isActive) = none) :
      Forgotten accounts email (.ok reply, after)
  | issued (reply : Reply) (after : Accounts) (user : User)
      (known : (accounts.users.byEmail? (lower (strip email))).filter (·.isActive) = some user)
      (reissued : Reissued accounts after user) : Forgotten accounts email (.ok reply, after)

theorem limited_forgotten {base : Accounts} {email : String} {now : Int} {action key : String} {limit windowSeconds : Int}
    {route : Accounts → Response} (before : ∀ limits, Aside accounts { base with limits })
    (routed : ∀ limits, Forgotten accounts email (route { base with limits })) :
    Forgotten accounts email (base.limited settings now action key limit windowSeconds route) := by
  unfold Accounts.limited
  split
  · next failure limits _ => exact .refused failure _ (before limits)
  · next limits _ => exact routed limits

omit [AuthRuntime] in
theorem attempt_cases {base : Accounts} (made : Except Failure (Reply × Accounts)) :
    (∃ failure, base.attempt made = (.error failure, base)) ∨
      ∃ reply after, made = .ok (reply, after) ∧ base.attempt made = (.ok reply, after) := by
  cases made with
  | error failure => exact .inl ⟨failure, rfl⟩
  | ok result => exact .inr ⟨result.1, result.2, rfl, rfl⟩

theorem attempt_forgotten {base : Accounts} {email : String} {made : Except Failure (Reply × Accounts)}
    (before : Aside accounts base) (succeeded : ∀ reply after, made = .ok (reply, after) → Forgotten accounts email (.ok reply, after)) :
    Forgotten accounts email (base.attempt made) := by
  rcases attempt_cases made with ⟨failure, failed⟩ | ⟨reply, after, done, attempted⟩
  · rw [failed]
    exact .refused failure base before
  · rw [attempted]
    exact succeeded reply after done

theorem passwordForgot_forgotten {draws : RequestDraws} {now : Int} {origin : Origin} (email : String) :
    Forgotten accounts email (passwordForgot settings draws now origin accounts email) := by
  unfold passwordForgot
  split
  · exact .refused _ _ (aside_limits _)
  · refine limited_forgotten aside_limits fun limits => limited_forgotten aside_limits fun limits => ?_
    split
    · next none => exact .unknown _ _ (aside_limits _) none
    · next user known =>
      refine attempt_forgotten (aside_limits _) fun reply after made => ?_
      obtain ⟨resets, inserted, made⟩ := Outcome.bind_ok made
      cases made
      refine .issued _ _ user known ⟨rfl, _, now, _, fun row owner unused => ?_, ?_, Resets.insert_ok inserted⟩
      · exact decide_eq_true ⟨owner, unused⟩
      · rfl

/-- What a successful reset writes. -/
structure WasReset (now : Int) (accounts after : Accounts) (item : PasswordResetToken) (user : User) (passwordHash : String) :
    Prop where
  users : after.users = accounts.users.write user.id (setPassword passwordHash)
  resets : after.resets = accounts.resets.use (fun row => row.tokenHash = item.tokenHash) now
  sessions : ∃ row, after.sessions.rows = (accounts.sessions.write (revokeUser user.id now)).rows ++ [row]

theorem passwordReset_cases {draws : RequestDraws} {now : Int} {origin : Origin} (token newPassword : String) :
    (∃ failure, passwordReset settings draws now origin accounts token newPassword = (.error failure, accounts)) ∨
      ∃ reply after item user passwordHash,
        passwordReset settings draws now origin accounts token newPassword = (.ok reply, after) ∧
          usableReset settings now accounts token = some (item, user) ∧
          hashPassword draws.salt newPassword = .ok passwordHash ∧ WasReset now accounts after item user passwordHash := by
  unfold passwordReset
  split
  · exact .inl ⟨_, rfl⟩
  · split
    · exact .inl ⟨_, rfl⟩
    · next item user usable =>
      rcases attempt_cases _ with failed | ⟨reply, after, made, attempted⟩
      · exact .inl failed
      · obtain ⟨passwordHash, hashed, issued⟩ := Outcome.bind_ok made
        obtain ⟨row, resets, users⟩ := issue_ok issued
        exact .inr ⟨reply, after, item, user, passwordHash, attempted, usable, hashed, users, resets, row⟩

/-! ## Any request -/

/-- What a request keeps, of whatever kind it is. -/
structure Advances (accounts after : Accounts) : Prop where
  sessions : accounts.sessions.Kept after.sessions
  resets : accounts.resets.Kept after.resets
  one : accounts.resets.OneOpen → after.resets.OneOpen

section Advances
variable {after : Accounts}

omit [AuthRuntime] in
theorem Aside.advances (aside : Aside accounts after) : Advances accounts after :=
  ⟨aside.sessions, aside.resets ▸ .refl _, fun one => aside.resets ▸ one⟩

omit [AuthRuntime] in
theorem Reissued.advances {user : User} (reissued : Reissued accounts after user) : Advances accounts after := by
  obtain ⟨sessions, selected, now, new, owned, owner, grown⟩ := reissued
  refine ⟨sessions ▸ .refl _, Resets.kept_use.trans (Resets.kept_of_rows grown), fun one => one.use.snoc grown ?_⟩
  intro row member same unused
  obtain ⟨stored, spared⟩ := Resets.unused_of_use member unused
  exact Bool.false_ne_true (spared.symm.trans (owned row (same.trans owner) unused))

omit [AuthRuntime] in
theorem WasReset.advances {now : Int} {item : PasswordResetToken} {user : User} {passwordHash : String}
    (reset : WasReset now accounts after item user passwordHash) : Advances accounts after := by
  obtain ⟨row, grown⟩ := reset.sessions
  refine ⟨(Sessions.kept_write _).trans (Sessions.kept_of_rows grown), ?_, fun one => ?_⟩
  · exact reset.resets ▸ Resets.kept_use
  · exact reset.resets ▸ one.use

theorem serve_advances (a : Arrival) : Advances accounts (serve settings accounts a) := by
  unfold serve respond
  split
  · next email _ =>
    generalize response_eq : passwordForgot settings a.draws a.now a.origin accounts email = response
    have forgotten : Forgotten accounts email response := response_eq ▸ passwordForgot_forgotten email
    cases forgotten with
    | refused _ _ aside => exact aside.advances
    | unknown _ _ aside _ => exact aside.advances
    | issued _ _ _ _ reissued => exact reissued.advances
  · next token newPassword _ =>
    rcases passwordReset_cases token newPassword with ⟨failure, refused⟩ | ⟨reply, after, item, user, hash, done, _, _, reset⟩
    · rw [refused]
      exact (aside_of_tables rfl rfl).advances
    · rw [done]
      exact reset.advances
  · exact login_aside.advances
  · exact verifyMfaLogin_aside.advances
  · exact mfaSetupRequired_rewrites.aside.advances
  · exact mfaVerifySetupRequired_aside.advances
  · exact mfaSetup_rewrites.aside.advances
  · exact mfaVerify_rewrites.aside.advances
  · exact mfaDisable_rewrites.aside.advances
  · exact refresh_aside.advances
  · exact logout_rewrites.aside.advances
  · exact ssoStart_rewrites.aside.advances
  · exact ssoCallback_aside.advances

theorem run_advances (arrivals : List Arrival) : Advances accounts (Runs.run (serve settings) accounts arrivals) := by
  refine Runs.invariant (fun reached a before => ?_) ⟨.refl _, .refl _, id⟩ arrivals
  have next : Advances reached (serve settings reached a) := serve_advances a
  exact ⟨before.sessions.trans next.sessions, before.resets.trans next.resets, fun one => next.one (before.one one)⟩

end Advances

/-! ## For good -/

/-- No later request can use a token of this hash. -/
def Unusable (settings : AuthSettings) (accounts : Accounts) (tokenHash : String) : Prop :=
  ∀ later now token, resetHash settings token = tokenHash →
    usableReset settings now (Runs.run (serve settings) accounts later) token = none

/-- No later request is let in by a token of the session. -/
def LoggedOut (settings : AuthSettings) (accounts : Accounts) (session : AuthSession) : Prop :=
  ∀ later now token, let after := Runs.run (serve settings) accounts later
    (hashToken settings token = .ok session.tokenHash → ∀ draws clientIp userAgent, ∃ failure,
      (rotateRefreshToken settings draws now after.users.rows after.sessions token clientIp userAgent).1 = .error failure) ∧
    ∀ claims, decodeToken settings now token = .ok claims → claims.sid = some session.id → session.id ≠ "" →
      ∃ failure, getCurrentUser settings now after.users.rows after.sessions (some token) = .error failure

theorem usableReset_item {now : Int} {token : String} {item : PasswordResetToken} {user : User}
    (usable : usableReset settings now accounts token = some (item, user)) :
    accounts.resets.byToken? (resetHash settings token) = some item ∧ item.usedAt = none ∧ now < item.expiresAt ∧
      user.id = item.userId := by
  obtain ⟨found, stored, usable⟩ := Option.bind_eq_some_iff.mp usable
  split at usable
  · cases usable
  · next live =>
    obtain ⟨owner, known, usable⟩ := Option.bind_eq_some_iff.mp usable
    split at usable
    · cases usable
      obtain ⟨unused, later⟩ := not_or.mp live
      exact ⟨stored, not_not.mp unused, not_le.mp later, (Users.get?_eq_some_iff.mp known).2⟩
    · cases usable

theorem unusable_of_used {row : PasswordResetToken} (member : row ∈ accounts.resets.rows) (used : row.usedAt ≠ none)
    {tokenHash : String} (named : row.tokenHash = tokenHash) : Unusable settings accounts tokenHash := by
  intro later now token hash
  have advances : Advances accounts (Runs.run (serve settings) accounts later) := run_advances later
  obtain ⟨last, held, same, unused⟩ := advances.resets row member
  refine Option.eq_none_iff_forall_ne_some.mpr fun ⟨item, user⟩ usable => ?_
  obtain ⟨found, fresh, _⟩ := usableReset_item usable
  rw [Resets.byToken?_eq_some_iff.mpr ⟨held, same.trans (named.trans hash.symm)⟩] at found
  cases found
  exact used (unused fresh)

theorem loggedOut_of_revoked {row session : AuthSession} (member : row ∈ accounts.sessions.rows) (revoked : ¬row.Unrevoked)
    (sameId : row.id = session.id) (sameToken : row.tokenHash = session.tokenHash) : LoggedOut settings accounts session := by
  intro later now token after
  have advances : Advances accounts after := run_advances later
  obtain ⟨last, held, id, tokenHash, live⟩ := advances.sessions row member
  have still : ¬last.Unrevoked := fun unrevoked => revoked (live unrevoked)
  refine ⟨fun hashed draws clientIp userAgent => ?_, fun claims decoded bound named => ?_⟩
  · have found : after.sessions.byToken? session.tokenHash = some last :=
      Sessions.byToken?_eq_some_iff.mpr ⟨held, tokenHash.trans sameToken⟩
    by_cases blank : token = ""
    · exact ⟨_, congrArg Prod.fst (if_pos blank)⟩
    · refine ⟨authError "Refresh token reuse detected", ?_⟩
      simp only [rotateRefreshToken, if_neg blank, hashed, found, presented_replayed still]
  · have gone : ∀ other ∈ after.sessions.rows, other.id = session.id → ¬other.Unrevoked := fun other stored same =>
      Sessions.eq_of_id held stored (id.trans (sameId.trans same.symm)) ▸ still
    obtain ⟨detail, refused⟩ := @getCurrentUser_revoked _ settings now after.sessions after.users.rows token claims session.id
      decoded bound named gone
    exact ⟨authError detail, refused⟩

/-- What holds of resets at every moment of a history. -/
structure ResetsSafe (settings : AuthSettings) (accounts : Accounts) : Prop where
  one : ∀ now token other item item' user, usableReset settings now accounts token = some (item, user) →
    usableReset settings now accounts other = some (item', user) → item' = item
  refused : ∀ a token newPassword failure, a.request = .passwordReset token newPassword →
    (respond settings accounts a).1 = .error failure → serve settings accounts a = accounts
  /-- A reset takes a token before its expiry, and ends all the tokens and sessions of its user. -/
  reset : ∀ a token newPassword reply, a.request = .passwordReset token newPassword → (respond settings accounts a).1 = .ok reply →
    ∃ item user passwordHash, usableReset settings a.now accounts token = some (item, user) ∧ a.now < item.expiresAt ∧
      hashPassword a.draws.salt newPassword = .ok passwordHash ∧
      (serve settings accounts a).users = accounts.users.write user.id (setPassword passwordHash) ∧
      (∀ row ∈ accounts.resets.rows, row.userId = user.id → Unusable settings (serve settings accounts a) row.tokenHash) ∧
      ∀ session ∈ accounts.sessions.rows, session.userId = user.id → LoggedOut settings (serve settings accounts a) session
  /-- A new token ends the earlier ones. -/
  issued : ∀ a email user reply, a.request = .passwordForgot email →
    (accounts.users.byEmail? (lower (strip email))).filter (·.isActive) = some user → (respond settings accounts a).1 = .ok reply →
    ∀ row ∈ accounts.resets.rows, row.userId = user.id → Unusable settings (serve settings accounts a) row.tokenHash

/-! ## At one moment -/

theorem usableReset_stored {now : Int} {token : String} {item : PasswordResetToken} {user : User}
    (usable : usableReset settings now accounts token = some (item, user)) :
    item ∈ accounts.resets.rows ∧ item.usedAt = none ∧ user.id = item.userId := by
  obtain ⟨found, unused, _, owner⟩ := usableReset_item usable
  exact ⟨(Resets.byToken?_eq_some_iff.mp found).1, unused, owner⟩

/-- A reset uses the one open token of its user, so that none is left. -/
theorem WasReset.ends_tokens (one : accounts.resets.OneOpen) {now : Int} {token passwordHash : String} {item : PasswordResetToken}
    {user : User} {after : Accounts} (usable : usableReset settings now accounts token = some (item, user))
    (reset : WasReset now accounts after item user passwordHash) {row : PasswordResetToken} (held : row ∈ accounts.resets.rows)
    (same : row.userId = user.id) : Unusable settings after row.tokenHash := by
  obtain ⟨member, unused, owner⟩ := usableReset_stored usable
  have covered (fresh : row.usedAt = none) : decide (row.tokenHash = item.tokenHash) = true :=
    decide_eq_true (congrArg (·.tokenHash) (one row held item member (same.trans owner) fresh unused))
  obtain ⟨later, image, hash, used⟩ :=
    @Resets.used_after_use accounts.resets (fun row => row.tokenHash = item.tokenHash) now row held covered
  exact unusable_of_used (reset.resets ▸ image) used hash

/-- A reset revokes the sessions of its user. -/
theorem WasReset.ends_sessions {now : Int} {passwordHash : String} {item : PasswordResetToken} {user : User} {after : Accounts}
    (reset : WasReset now accounts after item user passwordHash) {session : AuthSession} (held : session ∈ accounts.sessions.rows)
    (same : session.userId = user.id) : LoggedOut settings after session := by
  obtain ⟨new, grown⟩ := reset.sessions
  have image : (revokeUser user.id now).apply session ∈ after.sessions.rows := by
    rw [grown]
    exact List.mem_append_left _ (Sessions.mem_write.mpr ⟨session, held, rfl⟩)
  refine loggedOut_of_revoked image (fun live => ?_) (Write.id _ session) (Write.tokenHash _ session)
  exact absurd same (of_decide_eq_false (revokeWhere_unrevoked.mp live).2)

/-- Issuing a token uses the earlier ones. -/
theorem Reissued.ends_tokens {after : Accounts} {user : User} (reissued : Reissued accounts after user) {row : PasswordResetToken}
    (held : row ∈ accounts.resets.rows) (same : row.userId = user.id) : Unusable settings after row.tokenHash := by
  obtain ⟨_, selected, now, new, owned, _, grown⟩ := reissued
  obtain ⟨later, image, hash, used⟩ := Resets.used_after_use held (owned row same)
  exact unusable_of_used (grown ▸ List.mem_append_left _ image) used hash

theorem resetsSafe_of_oneOpen (one : accounts.resets.OneOpen) : ResetsSafe settings accounts := by
  refine ⟨?_, ?_, ?_, ?_⟩
  · intro now token other item item' user first second
    obtain ⟨member, unused, owner⟩ := usableReset_stored first
    obtain ⟨member', unused', owner'⟩ := usableReset_stored second
    exact one item' member' item member (owner'.symm.trans owner) unused' unused
  · intro a token newPassword failure request failed
    simp only [serve, respond, request] at failed ⊢
    rcases passwordReset_cases token newPassword with ⟨_, refused⟩ | ⟨reply, after, item, user, hash, done, _⟩
    · rw [refused]
    · rw [done] at failed
      cases failed
  · intro a token newPassword reply request succeeded
    simp only [serve, respond, request] at succeeded ⊢
    rcases passwordReset_cases token newPassword with ⟨_, refused⟩ | ⟨reply, after, item, user, hash, done, usable, hashed, reset⟩
    · rw [refused] at succeeded
      cases succeeded
    · rw [done]
      obtain ⟨_, _, live, _⟩ := usableReset_item usable
      exact ⟨item, user, hash, usable, live, hashed, reset.users, fun row => reset.ends_tokens one usable,
        fun session => reset.ends_sessions⟩
  · intro a email user reply request known succeeded row held same
    simp only [serve, respond, request] at succeeded ⊢
    have forgotten := @passwordForgot_forgotten _ settings accounts a.draws a.now a.origin email
    cases made : passwordForgot settings a.draws a.now a.origin accounts email with
    | mk answer after =>
      rw [made] at succeeded forgotten
      cases forgotten with
      | refused => cases succeeded
      | unknown _ _ _ none => cases known.symm.trans none
      | issued _ _ user' known' reissued =>
        cases known.symm.trans known'
        exact reissued.ends_tokens held same

/-- Throughout every history of requests that starts without reset tokens. -/
theorem resets_safe {start : Accounts} (fresh : start.resets.rows = []) (arrivals : List Arrival) :
    Runs.Throughout (serve settings) (ResetsSafe settings) start arrivals := by
  intro before _
  have advances : Advances start (Runs.run (serve settings) start before) := run_advances before
  refine resetsSafe_of_oneOpen (advances.one fun a member => ?_)
  rw [fresh] at member
  cases member

end Requests

section Examples
open PlainText

theorem resets_safe_forgotten :
    Runs.Throughout (serve gateSettings) (ResetsSafe gateSettings) { users := { rows := [enrolled] } } forgottenPassword :=
  resets_safe rfl forgottenPassword

end Examples
end RCAA.Security
