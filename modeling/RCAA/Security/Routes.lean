import RCAA.Security.RateLimit
import RCAA.Security.Sso

/-! The authentication routes: each takes the tables to what is durable when it returns,
with the reply or the failure. Audit events, cookies and the mail of a reset are left
out; a reset token is in the reply where the route puts it there. -/

namespace RCAA.Security

structure Accounts where
  users : Users := {}
  sessions : Sessions := {}
  resets : Resets := {}
  limits : List SecurityRateLimit := []
  connections : List SSOConnection := []
  logins : List SSOLoginState := []

/-- What a request carries besides its body. -/
structure Origin where
  clientIp : Option String := none
  host : Option String := none
  userAgent : Option String := none

/-- The address a limit counts. -/
def Origin.address (origin : Origin) : String :=
  match origin.clientIp with
  | none => origin.host.getD "unknown"
  | some ip => if ip = "" then origin.host.getD "unknown" else ip

/-- The random values of a request. -/
structure RequestDraws where
  session : SessionDraws
  nonce : String := ""
  reset : String := ""
  salt : List UInt8 := []
  secret : List UInt8 := []
  encryption : List UInt8 := []
  login : LoginDraws

inductive Reply where
  | accepted (resetToken : Option String)
  | tokens (access refresh : String)
  | mfaRequired (challenge : String)
  | mfaSetupRequired (setupToken : String)
  | mfaSetup (secret uri : String)
  | enabled (enabled : Bool)
  | redirect (endpoint : String)
  | done

abbrev Response := Except Failure Reply × Accounts

/-- A text whose length `Field` bounds. -/
def fits (low high : Nat) (text : String) : Bool := low ≤ text.length ∧ text.length ≤ high

/-! ## Writes to a user -/

def setPassword (passwordHash : String) : UserWrite := ⟨fun user => { user with passwordHash }, fun _ => rfl, fun _ => rfl⟩

def setSecret (stored : String) : UserWrite :=
  ⟨fun user => { user with mfaSecretEnc := some stored }, fun _ => rfl, fun _ => rfl⟩

def enableMfa : UserWrite := ⟨fun user => { user with mfaEnabled := true }, fun _ => rfl, fun _ => rfl⟩

def disableMfa : UserWrite :=
  ⟨fun user => { user with mfaEnabled := false, mfaSecretEnc := none }, fun _ => rfl, fun _ => rfl⟩

section Routes
variable [AuthRuntime] (settings : AuthSettings) (draws : RequestDraws) (now : Int) (origin : Origin)

/-- A route that fails leaves what was durable. -/
def Accounts.attempt (accounts : Accounts) (made : Except Failure (Reply × Accounts)) : Response :=
  match made with
  | .error failure => (.error failure, accounts)
  | .ok (reply, after) => (.ok reply, after)

/-- The route behind a limit. -/
def Accounts.limited (accounts : Accounts) (action key : String) (limit windowSeconds : Int)
    (route : Accounts → Response) : Response :=
  match enforceRateLimit settings now accounts.limits action key limit windowSeconds with
  | (.error failure, limits) => (.error failure, { accounts with limits })
  | (.ok (), limits) => route { accounts with limits }

/-- A new session family for a user, in tables the request has written. -/
def Accounts.issue (accounts : Accounts) (user : User) (clientIp userAgent : Option String) :
    Except Failure (Reply × Accounts) := do
  let (issued, sessions) ←
    createSessionTokens settings draws.session now accounts.sessions user clientIp userAgent none
  return (.tokens issued.access issued.refresh, { accounts with sessions })

/-! ## Passwords -/

/-- `_reset_hash`. -/
def resetHash (token : String) : String := AuthRuntime.sha256 (settings.authSecret ++ token)

def passwordForgot (accounts : Accounts) (email : String) : Response :=
  if !fits 5 254 email then (.error .validation, accounts)
  else
    let email := lower (strip email)
    accounts.limited settings now "password_reset" ("ip:" ++ origin.address) 10 3600 fun accounts =>
    accounts.limited settings now "password_reset" ("email:" ++ email) 5 3600 fun accounts =>
    match (accounts.users.byEmail? email).filter (·.isActive) with
    | none => (.ok (.accepted none), accounts)
    | some user =>
      let mailed := settings.passwordResetPublicBaseUrl ≠ "" ∧ settings.smtpHost ≠ "" ∧ settings.smtpFrom ≠ ""
      let shown := settings.testing ∨ settings.appEnv ∉ ["production", "prod"]
      let resets := accounts.resets.use (fun row => row.userId = user.id ∧ row.usedAt = none) now
      accounts.attempt do
        let resets ← resets.insert {
          userId := user.id
          tokenHash := resetHash settings draws.reset
          expiresAt := now + settings.passwordResetExpireMinutes * DateTime.minute
          requestIpHash := some (AuthRuntime.sha256 (settings.authSecret ++ origin.address)) }
        return (.accepted (if ¬mailed ∧ shown then some draws.reset else none), { accounts with resets })

/-- The unused reset of a token and its user. -/
def usableReset (accounts : Accounts) (token : String) : Option (PasswordResetToken × User) := do
  let item ← accounts.resets.byToken? (resetHash settings token)
  if item.usedAt ≠ none ∨ item.expiresAt ≤ now then none
  let user ← accounts.users.get? item.userId
  if user.isActive then return (item, user) else none

def passwordReset (accounts : Accounts) (token newPassword : String) : Response :=
  if !fits 20 200 token ∨ !fits 10 128 newPassword then (.error .validation, accounts)
  else match usableReset settings now accounts token with
    | none => (.error (.http 400 "Reset link is invalid or expired"), accounts)
    | some (item, user) =>
      accounts.attempt do
        let passwordHash ← hashPassword draws.salt newPassword
        let written : Accounts := { accounts with
          users := accounts.users.write user.id (setPassword passwordHash)
          resets := accounts.resets.use (fun row => row.tokenHash = item.tokenHash) now
          sessions := accounts.sessions.write (revokeUser user.id now) }
        written.issue settings draws now user origin.clientIp origin.userAgent

/-! ## Login -/

/-- The user of an e-mail, when active and the password is theirs. -/
def authenticate (accounts : Accounts) (email password : String) : Option User :=
  (accounts.users.byEmail? email).filter fun user => user.isActive && verifyPassword password user.passwordHash

def login (accounts : Accounts) (email password : String) : Response :=
  let email := strip (lower email)
  let ip := "ip:" ++ origin.address
  accounts.limited settings now "login" ip settings.rateLimitLoginIp settings.rateLimitLoginWindowSeconds fun accounts =>
  accounts.limited settings now "login" ("email:" ++ email) settings.rateLimitLoginEmail
    settings.rateLimitLoginWindowSeconds fun accounts =>
  match authenticate accounts email password with
  | none => (.error (.http 401 "Invalid email or password"), accounts)
  | some user =>
    let limits := resetRateLimit settings accounts.limits "login" ("email:" ++ email)
    let accounts := { accounts with limits := resetRateLimit settings limits "login" ip }
    accounts.attempt (
      if user.mfaEnabled then
        (mfaLoginChallenge settings now draws.nonce user).map fun challenge => (.mfaRequired challenge, accounts)
      else if user.role ∈ settings.mfaRequiredRoles then
        (mfaSetupToken settings now draws.nonce user).map fun token => (.mfaSetupRequired token, accounts)
      else accounts.issue settings draws now user (some origin.address) origin.userAgent)

/-! ## The second factor -/

def invalidCode : Failure := .http 401 "Invalid authentication code"

/-- The limit every check of a code is behind. -/
def Accounts.limitedUser (accounts : Accounts) (action : String) (user : User) (route : Accounts → Response) : Response :=
  accounts.limited settings now action ("user:" ++ user.id) settings.rateLimitMfaUser
    settings.rateLimitMfaWindowSeconds route

def verifyMfaLogin (accounts : Accounts) (challenge code : String) : Response :=
  if !fits 6 8 code then (.error .validation, accounts)
  else match decodeSpecialToken settings now challenge "mfa_login" with
    | .error failure => (.error failure, accounts)
    | .ok claims =>
      match (accounts.users.get? claims.sub).filter fun user => user.isActive && user.mfaEnabled with
      | none => (.error (.http 401 "Invalid MFA challenge"), accounts)
      | some user => match user.mfaSecretEnc.filter (· ≠ "") with
        | none => (.error (.http 401 "Invalid MFA challenge"), accounts)
        | some stored => match decryptSecret settings stored with
          | .error failure => (.error failure, accounts)
          | .ok secret =>
            accounts.limitedUser settings now "mfa" user fun accounts =>
            accounts.attempt do
              if ← verifyCode now secret code then
                accounts.issue settings draws now user origin.clientIp origin.userAgent
              else .error invalidCode

/-- `_user_from_setup_token`. -/
def userFromSetupToken (accounts : Accounts) (token : Option String) : Except Failure User :=
  match token.filter (· ≠ "") with
  | none => .error (.http 401 "MFA setup authorization required")
  | some token => do
    let claims ← decodeSpecialToken settings now token "mfa_setup"
    match (accounts.users.get? claims.sub).filter (·.isActive) with
    | none => .error (.http 401 "MFA setup authorization is invalid")
    | some user => return user

/-- A new secret for a user whose second factor is not enabled. -/
def startSetup (accounts : Accounts) (user : User) : Except Failure (Reply × Accounts) :=
  if user.mfaEnabled then .error (.http 409 "MFA is already enabled")
  else do
    let secret := newSecret draws.secret
    let stored ← encryptSecret settings draws.encryption secret
    return (.mfaSetup secret (provisioningUri settings secret user.email),
      { accounts with users := accounts.users.write user.id (setSecret stored) })

def mfaSetupRequired (accounts : Accounts) (setupToken : Option String) : Response :=
  accounts.attempt do
    let user ← userFromSetupToken settings now accounts setupToken
    startSetup settings draws accounts user

def mfaVerifySetupRequired (accounts : Accounts) (setupToken : Option String) (code : String) : Response :=
  if !fits 6 8 code then (.error .validation, accounts)
  else match userFromSetupToken settings now accounts setupToken with
    | .error failure => (.error failure, accounts)
    | .ok user =>
      accounts.limitedUser settings now "mfa" user fun accounts =>
      match user.mfaSecretEnc.filter (· ≠ "") with
      | none => (.error invalidCode, accounts)
      | some stored =>
        accounts.attempt do
          let secret ← decryptSecret settings stored
          if ← verifyCode now secret code then
            let written : Accounts := { accounts with users := accounts.users.write user.id enableMfa }
            written.issue settings draws now user none none
          else .error invalidCode

/-- The user of an access token; the time of last use is left out. -/
def Accounts.current (accounts : Accounts) (credentials : Option String) : Except Failure User :=
  getCurrentUser settings now accounts.users.rows accounts.sessions credentials

def mfaSetup (accounts : Accounts) (credentials : Option String) (password : String) : Response :=
  accounts.attempt do
    let user ← accounts.current settings now credentials
    if !fits 10 128 password then .error .validation
    else if !verifyPassword password user.passwordHash then .error (.http 401 "Password verification failed")
    else startSetup settings draws accounts user

def mfaVerify (accounts : Accounts) (credentials : Option String) (code : String) : Response :=
  match accounts.current settings now credentials with
  | .error failure => (.error failure, accounts)
  | .ok user =>
    if !fits 6 8 code then (.error .validation, accounts)
    else
      accounts.limitedUser settings now "mfa" user fun accounts =>
      match user.mfaSecretEnc.filter (· ≠ "") with
      | none => (.error (.http 409 "MFA setup has not been started"), accounts)
      | some stored =>
        accounts.attempt do
          let secret ← decryptSecret settings stored
          if ← verifyCode now secret code then
            return (.enabled true, { accounts with users := accounts.users.write user.id enableMfa })
          else .error invalidCode

def mfaDisable (accounts : Accounts) (credentials : Option String) (code : String) : Response :=
  match accounts.current settings now credentials with
  | .error failure => (.error failure, accounts)
  | .ok user =>
    if !fits 6 8 code then (.error .validation, accounts)
    else
      accounts.limitedUser settings now "mfa_disable" user fun accounts =>
      match if user.mfaEnabled then user.mfaSecretEnc.filter (· ≠ "") else none with
      | none => (.ok (.enabled false), accounts)
      | some stored =>
        accounts.attempt do
          let secret ← decryptSecret settings stored
          if ← verifyCode now secret code then
            return (.enabled false, { accounts with
              users := accounts.users.write user.id disableMfa
              sessions := accounts.sessions.write (revokeUser user.id now) })
          else .error invalidCode

/-! ## Refresh and logout -/

def refresh (accounts : Accounts) (refreshToken : Option String) : Response :=
  match rotateRefreshToken settings draws.session now accounts.users.rows accounts.sessions (refreshToken.getD "")
      origin.clientIp origin.userAgent with
  | (.error failure, sessions) => (.error failure, { accounts with sessions })
  | (.ok (access, token, _), sessions) => (.ok (.tokens access token), { accounts with sessions })

def logout (accounts : Accounts) (refreshToken access : Option String) : Response :=
  match revokeSessionByRefresh settings now accounts.sessions refreshToken with
  | (.error failure, sessions) => (.error failure, { accounts with sessions })
  | (.ok _, sessions) => (.ok .done, { accounts with sessions := (revokeSessionByAccess settings now sessions access).2 })

/-! ## Single sign-on -/

/-- The domain of the e-mail a login starts with. -/
def startDomain (email : String) : String := if '@' ∈ email.toList then domainOf (lower (strip email)) else ""

def ssoStart (accounts : Accounts) (email : String) (provider : Provider) : Response :=
  if 254 < email.length then (.error .validation, accounts)
  else if settings.ssoEnabled = false then (.error (.http 404 "Enterprise SSO is not enabled"), accounts)
  else match accounts.connections.find? fun connection =>
      connection.enabled && (connection.allowedDomains == "" || startDomain email ∈ allowedDomains connection) with
    | none => (.error (.http 404 "No SSO workspace is configured for this email domain"), accounts)
    | some connection =>
      accounts.attempt do
        let (endpoint, logins) ← startLogin settings draws.login now accounts.logins connection provider
        return (.redirect endpoint, { accounts with logins })

/-- The callback commits before it looks where to redirect. -/
def ssoCallback (accounts : Accounts) (state code : String) (provider : Provider) : Response :=
  match completeLogin settings draws.login now accounts.users accounts.connections accounts.logins state code provider with
  | .error failure => (.error failure, accounts)
  | .ok (user, users, logins) =>
    match { accounts with users, logins }.issue settings draws now user origin.clientIp origin.userAgent with
    | .error failure => (.error failure, accounts)
    | .ok (_, after) =>
      if settings.ssoFrontendUrl = "" then
        (.error (.http 503 "Enterprise SSO frontend redirect is not configured"), after)
      else (.ok (.redirect (rstrip '/' settings.ssoFrontendUrl ++ "/login?sso=1")), after)

end Routes

/-! ## Requests -/

inductive Request where
  | passwordForgot (email : String)
  | passwordReset (token newPassword : String)
  | login (email password : String)
  | verifyMfaLogin (challenge code : String)
  | mfaSetupRequired (setupToken : Option String)
  | mfaVerifySetupRequired (setupToken : Option String) (code : String)
  | mfaSetup (credentials : Option String) (password : String)
  | mfaVerify (credentials : Option String) (code : String)
  | mfaDisable (credentials : Option String) (code : String)
  | refresh (refreshToken : Option String)
  | logout (refreshToken access : Option String)
  | ssoStart (email : String) (provider : Provider)
  | ssoCallback (state code : String) (provider : Provider)

/-- A request, with the time it reads and what it draws. -/
structure Arrival where
  draws : RequestDraws
  now : Int
  origin : Origin := {}
  request : Request

section Serve
variable [AuthRuntime] (settings : AuthSettings)

def respond (accounts : Accounts) (a : Arrival) : Response :=
  match a.request with
  | .passwordForgot email => passwordForgot settings a.draws a.now a.origin accounts email
  | .passwordReset token newPassword => passwordReset settings a.draws a.now a.origin accounts token newPassword
  | .login email password => login settings a.draws a.now a.origin accounts email password
  | .verifyMfaLogin challenge code => verifyMfaLogin settings a.draws a.now a.origin accounts challenge code
  | .mfaSetupRequired setupToken => mfaSetupRequired settings a.draws a.now accounts setupToken
  | .mfaVerifySetupRequired setupToken code => mfaVerifySetupRequired settings a.draws a.now accounts setupToken code
  | .mfaSetup credentials password => mfaSetup settings a.draws a.now accounts credentials password
  | .mfaVerify credentials code => mfaVerify settings a.now accounts credentials code
  | .mfaDisable credentials code => mfaDisable settings a.now accounts credentials code
  | .refresh refreshToken => refresh settings a.draws a.now a.origin accounts refreshToken
  | .logout refreshToken access => logout settings a.now accounts refreshToken access
  | .ssoStart email provider => ssoStart settings a.draws a.now accounts email provider
  | .ssoCallback state code provider => ssoCallback settings a.draws a.now a.origin accounts state code provider

/-- The tables after a request. -/
def serve (accounts : Accounts) (a : Arrival) : Accounts := (respond settings accounts a).2

end Serve
end RCAA.Security
