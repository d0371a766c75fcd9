import RCAA.Security.Kept

/-! What the authentication requests leave of the users: nobody changes his workspace, his role
or his activity by one, and only the callback of a single sign-on makes a user, who has the role
the connection of the workspace gives. -/

namespace RCAA.Security

/-- What a user is in the service. -/
def User.standing (user : User) : String × String × String × Bool := (user.id, user.merchantId, user.role, user.isActive)

/-- A request leaves the standing of the users, and the connections. -/
structure Stands (accounts after : Accounts) : Prop where
  users : after.users.rows.map User.standing = accounts.users.rows.map User.standing
  connections : after.connections = accounts.connections

/-- A request makes one user, by a connection that is in use. -/
structure Provisions (accounts after : Accounts) (draws : LoginDraws) (connection : SSOConnection) (user : User) [Platform] : Prop where
  used : connection ∈ accounts.connections ∧ connection.enabled = true
  users : after.users.rows.map User.standing = accounts.users.rows.map User.standing ++ [user.standing]
  connections : after.connections = accounts.connections
  id : user.id = draws.userId
  merchant : user.merchantId = connection.merchantId
  role : user.role = upper connection.defaultRole
  active : user.isActive = true

section Tables
variable {accounts after : Accounts}

theorem stands_of_tables (users : after.users = accounts.users) (connections : after.connections = accounts.connections) :
    Stands accounts after := ⟨by rw [users], connections⟩

theorem stands_limits (limits : List SecurityRateLimit) : Stands accounts { accounts with limits } := stands_of_tables rfl rfl

/-- A write to a user that leaves his standing. -/
theorem stands_write {id : String} {w : UserWrite} (kept : ∀ user, (w.apply user).standing = user.standing)
    (users : after.users = accounts.users.write id w) (connections : after.connections = accounts.connections) :
    Stands accounts after := by
  refine ⟨?_, connections⟩
  rw [users]
  exact KeyedRows.map_update User.id kept accounts.users.rows

end Tables

section Requests
variable [AuthRuntime] {settings : AuthSettings} {accounts base after : Accounts} {draws : RequestDraws} {now : Int} {origin : Origin}

/-- Opening a session leaves the users. -/
theorem issue_stands {user : User} {clientIp userAgent : Option String} {reply : Reply}
    (issued : base.issue settings draws now user clientIp userAgent = .ok (reply, after)) (stands : Stands accounts base) :
    Stands accounts after := by
  obtain ⟨⟨made, sessions⟩, _, issued⟩ := Outcome.bind_ok issued
  cases issued
  exact ⟨stands.users, stands.connections⟩

theorem passwordForgot_stands {email : String} : Stands accounts (passwordForgot settings draws now origin accounts email).2 := by
  unfold passwordForgot
  split
  · exact stands_of_tables rfl rfl
  · refine limited_keeps stands_limits fun limits => limited_keeps stands_limits fun limits => ?_
    split
    · exact stands_limits _
    · refine attempt_keeps (stands_limits _) fun reply after made => ?_
      obtain ⟨_, _, made⟩ := Outcome.bind_ok made
      cases made
      exact stands_of_tables rfl rfl

theorem passwordReset_stands {token newPassword : String} :
    Stands accounts (passwordReset settings draws now origin accounts token newPassword).2 := by
  have same : Stands accounts accounts := stands_of_tables rfl rfl
  unfold passwordReset
  split
  · exact same
  · split
    · exact same
    · refine attempt_keeps same fun reply after made => ?_
      obtain ⟨_, _, made⟩ := Outcome.bind_ok made
      exact issue_stands made (stands_write (fun _ => rfl) rfl rfl)

theorem login_stands {email password : String} : Stands accounts (login settings draws now origin accounts email password).2 := by
  unfold login
  refine limited_keeps stands_limits fun limits => limited_keeps stands_limits fun limits => ?_
  split
  · exact stands_limits _
  · next user found =>
    refine attempt_keeps (stands_limits _) fun reply after made => ?_
    split at made
    · obtain ⟨_, _, made⟩ := Outcome.map_ok made
      cases made
      exact stands_limits _
    · split at made
      · obtain ⟨_, _, made⟩ := Outcome.map_ok made
        cases made
        exact stands_limits _
      · exact issue_stands made (stands_limits _)

theorem verifyMfaLogin_stands {challenge code : String} :
    Stands accounts (verifyMfaLogin settings draws now origin accounts challenge code).2 := by
  have same : Stands accounts accounts := stands_of_tables rfl rfl
  unfold verifyMfaLogin
  split
  · exact same
  · split
    · exact same
    · split
      · exact same
      · split
        · exact same
        · split
          · exact same
          · refine limited_keeps stands_limits fun limits => attempt_keeps (stands_limits _) fun reply after made => ?_
            obtain ⟨_, _, made⟩ := Outcome.bind_ok made
            split at made
            · exact issue_stands made (stands_limits _)
            · cases made

theorem startSetup_stands {user : User} {reply : Reply} (made : startSetup settings draws accounts user = .ok (reply, after)) :
    Stands accounts after := by
  unfold startSetup at made
  split at made
  · cases made
  · obtain ⟨_, _, made⟩ := Outcome.bind_ok made
    cases made
    exact stands_write (fun _ => rfl) rfl rfl

theorem mfaSetupRequired_stands {setupToken : Option String} :
    Stands accounts (mfaSetupRequired settings draws now accounts setupToken).2 := by
  refine attempt_keeps (stands_of_tables rfl rfl) fun reply after made => ?_
  obtain ⟨user, _, made⟩ := Outcome.bind_ok made
  exact startSetup_stands made

theorem mfaVerifySetupRequired_stands {setupToken : Option String} {code : String} :
    Stands accounts (mfaVerifySetupRequired settings draws now accounts setupToken code).2 := by
  have same : Stands accounts accounts := stands_of_tables rfl rfl
  unfold mfaVerifySetupRequired
  split
  · exact same
  · split
    · exact same
    · refine limited_keeps stands_limits fun limits => ?_
      split
      · exact stands_limits _
      · refine attempt_keeps (stands_limits _) fun reply after made => ?_
        obtain ⟨_, _, made⟩ := Outcome.bind_ok made
        obtain ⟨_, _, made⟩ := Outcome.bind_ok made
        split at made
        · exact issue_stands made (stands_write (fun _ => rfl) rfl rfl)
        · cases made

theorem mfaSetup_stands {credentials : Option String} {password : String} :
    Stands accounts (mfaSetup settings draws now accounts credentials password).2 := by
  refine attempt_keeps (stands_of_tables rfl rfl) fun reply after made => ?_
  obtain ⟨user, _, made⟩ := Outcome.bind_ok made
  split at made
  · cases made
  · split at made
    · cases made
    · exact startSetup_stands made

theorem mfaVerify_stands {credentials : Option String} {code : String} :
    Stands accounts (mfaVerify settings now accounts credentials code).2 := by
  have same : Stands accounts accounts := stands_of_tables rfl rfl
  unfold mfaVerify
  split
  · exact same
  · split
    · exact same
    · refine limited_keeps stands_limits fun limits => ?_
      split
      · exact stands_limits _
      · refine attempt_keeps (stands_limits _) fun reply after made => ?_
        obtain ⟨_, _, made⟩ := Outcome.bind_ok made
        obtain ⟨_, _, made⟩ := Outcome.bind_ok made
        split at made
        · cases made
          exact stands_write (fun _ => rfl) rfl rfl
        · cases made

theorem mfaDisable_stands {credentials : Option String} {code : String} :
    Stands accounts (mfaDisable settings now accounts credentials code).2 := by
  have same : Stands accounts accounts := stands_of_tables rfl rfl
  unfold mfaDisable
  split
  · exact same
  · split
    · exact same
    · refine limited_keeps stands_limits fun limits => ?_
      split
      · exact stands_limits _
      · refine attempt_keeps (stands_limits _) fun reply after made => ?_
        obtain ⟨_, _, made⟩ := Outcome.bind_ok made
        obtain ⟨_, _, made⟩ := Outcome.bind_ok made
        split at made
        · cases made
          exact stands_write (fun _ => rfl) rfl rfl
        · cases made

theorem refresh_stands {refreshToken : Option String} : Stands accounts (refresh settings draws now origin accounts refreshToken).2 := by
  unfold refresh
  split
  · exact stands_of_tables rfl rfl
  · exact stands_of_tables rfl rfl

theorem logout_stands {refreshToken access : Option String} : Stands accounts (logout settings now accounts refreshToken access).2 := by
  unfold logout
  split
  · exact stands_of_tables rfl rfl
  · exact stands_of_tables rfl rfl

theorem ssoStart_stands {email : String} {provider : Provider} :
    Stands accounts (ssoStart settings draws now accounts email provider).2 := by
  have same : Stands accounts accounts := stands_of_tables rfl rfl
  unfold ssoStart
  split
  · exact same
  · split
    · exact same
    · split
      · exact same
      · refine attempt_keeps same fun reply after made => ?_
        obtain ⟨_, _, made⟩ := Outcome.bind_ok made
        cases made
        exact stands_of_tables rfl rfl

/-- The user of a token is stored and active. -/
theorem current_ok {credentials : Option String} {user : User} (known : accounts.current settings now credentials = .ok user) :
    user ∈ accounts.users.rows ∧ user.isActive = true := by
  unfold Accounts.current getCurrentUser at known
  split at known
  · cases known
  · obtain ⟨claims, _, known⟩ := Outcome.bind_ok known
    split at known
    · cases known
    · next stored found =>
      split at known
      · cases known
      · next valid =>
        have kept : stored ∈ accounts.users.rows ∧ stored.isActive = true :=
          ⟨List.mem_of_find?_eq_some found, by_contra fun inactive => valid (.inl (by simpa using inactive))⟩
        -- With a session or without, the answer is the user that is stored.
        have same : stored = user := by
          split at known
          · exact Except.ok.inj known
          · split at known
            · exact Except.ok.inj known
            · split at known
              · cases known
              · split at known
                · cases known
                · exact Except.ok.inj known
        exact same ▸ kept

/-! ## The callback -/

theorem connectionOf_ok {connections : List SSOConnection} {logins : List SSOLoginState} {state code : String} {row : SSOLoginState}
    {connection : SSOConnection} (found : connectionOf now connections logins state code = .ok (row, connection)) :
    connection ∈ connections ∧ connection.enabled = true := by
  simp only [connectionOf, bind, Except.bind] at found
  by_cases missing : state = "" ∨ code = ""
  · rw [if_pos missing] at found
    cases found
  · rw [if_neg missing] at found
    split at found
    · cases found
    · next login _ =>
      by_cases expired : login.expiresAt ≤ now
      · rw [if_pos expired] at found
        cases found
      · rw [if_neg expired] at found
        split at found
        · cases found
        · next named =>
          cases found
          have enabled := List.find?_some named
          simp only [Bool.decide_and, Bool.decide_eq_true, Bool.and_eq_true] at enabled
          exact ⟨List.mem_of_find?_eq_some named, enabled.2⟩

/-- The user of an identity is stored already, or made with the role of the connection. -/
theorem identityUser_cases {login : LoginDraws} {users grown : Users} {connection : SSOConnection} {email : String} {user : User}
    (found : identityUser settings login users connection email = .ok (user, grown)) :
    grown = users ∨ grown.rows = users.rows ++ [user] ∧ user.id = login.userId ∧ user.merchantId = connection.merchantId ∧
      user.role = upper connection.defaultRole ∧ user.isActive = true := by
  unfold identityUser at found
  split at found
  · split at found
    · cases found
    · cases found
      exact .inl rfl
  · obtain ⟨_, _, found⟩ := Outcome.bind_ok found
    obtain ⟨_, inserted, found⟩ := Outcome.bind_ok found
    cases found
    exact .inr ⟨Users.insert_ok inserted, rfl, rfl, rfl, rfl⟩

theorem ssoCallback_cases {state code : String} {provider : Provider} :
    Stands accounts (ssoCallback settings draws now origin accounts state code provider).2 ∨
      ∃ connection user, Provisions accounts (ssoCallback settings draws now origin accounts state code provider).2 draws.login
        connection user := by
  have same : Stands accounts accounts := stands_of_tables rfl rfl
  unfold ssoCallback
  split
  · exact .inl same
  · next user users logins completed =>
    obtain ⟨⟨row, connection, email⟩, accepted, completed⟩ := Outcome.bind_ok completed
    obtain ⟨⟨found, grown⟩, identified, completed⟩ := Outcome.bind_ok completed
    cases completed
    obtain ⟨⟨login, used⟩, named, accepted⟩ := Outcome.bind_ok accepted
    obtain ⟨_, _, accepted⟩ := Outcome.bind_ok accepted
    obtain ⟨_, _, accepted⟩ := Outcome.bind_ok accepted
    obtain ⟨_, _, accepted⟩ := Outcome.bind_ok accepted
    obtain ⟨_, _, accepted⟩ := Outcome.bind_ok accepted
    cases accepted
    split
    · exact .inl same
    · next reply after issued =>
      obtain ⟨⟨made, sessions⟩, _, issued⟩ := Outcome.bind_ok issued
      cases issued
      have outcome (logins : List SSOLoginState) : Stands accounts { accounts with users, logins, sessions } ∨ ∃ connection user,
          Provisions accounts { accounts with users, logins, sessions } draws.login connection user := by
        rcases identityUser_cases identified with rfl | ⟨rows, id, merchant, role, active⟩
        · exact .inl (stands_of_tables rfl rfl)
        · exact .inr ⟨connection, user, connectionOf_ok named, by simp [rows], rfl, id, merchant, role, active⟩
      split
      · exact outcome _
      · exact outcome _

variable (settings accounts) in
/-- A request leaves the standing of the users, or it is a callback that makes one. -/
theorem serve_cases (a : Arrival) :
    Stands accounts (serve settings accounts a) ∨
      a.request.viaSso = true ∧ ∃ connection user, Provisions accounts (serve settings accounts a) a.draws.login connection user := by
  unfold serve respond
  cases a.request with
  | passwordForgot email => exact .inl passwordForgot_stands
  | passwordReset token newPassword => exact .inl passwordReset_stands
  | login email password => exact .inl login_stands
  | verifyMfaLogin challenge code => exact .inl verifyMfaLogin_stands
  | mfaSetupRequired setupToken => exact .inl mfaSetupRequired_stands
  | mfaVerifySetupRequired setupToken code => exact .inl mfaVerifySetupRequired_stands
  | mfaSetup credentials password => exact .inl mfaSetup_stands
  | mfaVerify credentials code => exact .inl mfaVerify_stands
  | mfaDisable credentials code => exact .inl mfaDisable_stands
  | refresh refreshToken => exact .inl refresh_stands
  | logout refreshToken access => exact .inl logout_stands
  | ssoStart email provider => exact .inl ssoStart_stands
  | ssoCallback state code provider => exact ssoCallback_cases.imp id fun provisions => ⟨rfl, provisions⟩

end Requests
end RCAA.Security
