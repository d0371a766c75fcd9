import RCAA.Security.Mfa

/-! Sign-on through the identity provider of a merchant: the login a user starts and the
callback that completes it. What the provider answers comes with the request. -/

namespace RCAA.Security

/-- The claims of an identity. One that is a list or an object stands as the text it prints. -/
structure IdentityClaims where
  iss : Scalar := .null
  email : Scalar := .null
  emailVerified : Scalar := .null

/-- The status of an answer and its body, when that is an object. -/
structure Answer (α : Type) where
  status : Nat := 200
  body : Option α

structure Provider where
  /-- The authorization endpoint; `none` when the metadata cannot be had or is incomplete. -/
  discovered : Option String
  accessToken : Answer Scalar
  userinfo : Answer IdentityClaims

/-- The random values of a login that is started, and of a user it makes. -/
structure LoginDraws where
  state : String
  verifier : String
  nonce : String
  encryption : List UInt8
  userId : String
  password : String

section Sso
variable [AuthRuntime] (settings : AuthSettings)

/-- `email.rsplit("@", 1)[-1]`. -/
def domainOf (email : String) : String := .ofList (email.toList.rtakeWhile (· ≠ '@'))

/-- The domains a connection names. -/
def allowedDomains (connection : SSOConnection) : List String :=
  ((connection.allowedDomains.toList.splitOn ',').map String.ofList).filterMap fun d =>
    if strip d = "" then none
    else some (rstrip '.' (.ofList ((lower (strip d)).toList.dropWhile (· = '@'))))

def issuerOf (connection : SSOConnection) : Except Failure String :=
  let issuer := rstrip '/' connection.issuerUrl
  if settings.ssoAllowedIssuers ≠ [] ∧ issuer ∉ settings.ssoAllowedIssuers then
    .error (.http 403 "SSO issuer is not allowed")
  else .ok issuer

/-- `discover`. -/
def discover (provider : Provider) : Except Failure String :=
  match provider.discovered with
  | none => .error .raised
  | some endpoint => .ok endpoint

/-- `start_login`; the query of the redirect is left out. -/
def startLogin (draws : LoginDraws) (now : Int) (logins : List SSOLoginState) (connection : SSOConnection)
    (provider : Provider) : Except Failure (String × List SSOLoginState) := do
  if settings.ssoEnabled = false ∨ settings.ssoCallbackUrl = "" then
    .error (.http 503 "Enterprise SSO is not configured")
  let _ ← issuerOf settings connection
  let endpoint ← discover provider
  let codeVerifierEnc ← encryptSecret settings draws.encryption draws.verifier
  let row : SSOLoginState := {
    stateHash := AuthRuntime.sha256 draws.state
    merchantId := connection.merchantId
    nonceHash := AuthRuntime.sha256 draws.nonce
    expiresAt := now + settings.ssoStateExpireMinutes * DateTime.minute
    codeVerifierEnc }
  if row.stateHash ∈ logins.map (·.stateHash) then .error .integrity
  return (endpoint, logins ++ [row])

/-- The connection of a login that is known and not expired. -/
def connectionOf (now : Int) (connections : List SSOConnection) (logins : List SSOLoginState) (state code : String) :
    Except Failure (SSOLoginState × SSOConnection) := do
  if state = "" ∨ code = "" then .error (.http 400 "Invalid SSO callback")
  match logins.find? fun row => row.stateHash = AuthRuntime.sha256 state with
  | none => .error (.http 400 "SSO login state is invalid or expired")
  | some row =>
    if row.expiresAt ≤ now then .error (.http 400 "SSO login state is invalid or expired")
    match connections.find? fun connection => connection.merchantId = row.merchantId ∧ connection.enabled with
    | none => .error (.http 400 "SSO connection is unavailable")
    | some connection => return (row, connection)

/-- The claims the provider gives for the code. -/
def identityClaims (row : SSOLoginState) (connection : SSOConnection) (provider : Provider) :
    Except Failure IdentityClaims := do
  let _ ← discover provider
  let _ ← decryptSecret settings row.codeVerifierEnc
  let _ ← decryptSecret settings connection.clientSecretEnc
  if 400 ≤ provider.accessToken.status then .error (.http 401 "SSO authorization failed")
  match provider.accessToken.body with
  | none => .error .raised
  | some token =>
    if token.truthy = false then .error (.http 401 "SSO provider returned no access token")
    if 400 ≤ provider.userinfo.status then .error (.http 401 "Unable to retrieve SSO identity")
    match provider.userinfo.body with
    | none => .error .raised
    | some claims => return claims

/-- `claims["iss"].rstrip("/") != issuer`, where there is one. -/
def issuedBy (issuer : String) (claims : IdentityClaims) : Except Failure Unit :=
  if claims.iss.truthy then match claims.iss with
    | .str iss => if rstrip '/' iss = issuer then .ok () else .error (.http 401 "SSO issuer mismatch")
    | _ => .error .raised
  else .ok ()

/-- The verified e-mail of the identity, of a domain the connection allows. -/
def verifiedEmail (connection : SSOConnection) (claims : IdentityClaims) : Except Failure String := do
  let email := lower (strip (if claims.email.truthy then claims.email.text else ""))
  if email = "" ∨ claims.emailVerified = .bool false then
    .error (.http 401 "SSO account does not provide a verified email")
  if allowedDomains connection ≠ [] ∧ domainOf email ∉ allowedDomains connection then
    .error (.http 403 "SSO email domain is not allowed for this workspace")
  return email

/-- The part of `complete_login` before it looks for the user. -/
def acceptedIdentity (now : Int) (connections : List SSOConnection) (logins : List SSOLoginState) (state code : String)
    (provider : Provider) : Except Failure (SSOLoginState × SSOConnection × String) := do
  let (row, connection) ← connectionOf now connections logins state code
  let issuer ← issuerOf settings connection
  let claims ← identityClaims settings row connection provider
  issuedBy issuer claims
  let email ← verifiedEmail connection claims
  return (row, connection, email)

/-- The user of the identity, made when there is none. -/
def identityUser (draws : LoginDraws) (users : Users) (connection : SSOConnection) (email : String) :
    Except Failure (User × Users) :=
  match users.byEmail? email with
  | some user =>
    if user.merchantId ≠ connection.merchantId then
      .error (.http 403 "SSO account is already associated with another workspace")
    else .ok (user, users)
  | none => do
    let passwordHash ← encryptSecret settings draws.encryption draws.password
    let user : User := {
      id := draws.userId
      merchantId := connection.merchantId
      role := upper connection.defaultRole
      email, passwordHash }
    let users ← users.insert user
    return (user, users)

/-- `complete_login`: the user, and the tables without the login. -/
def completeLogin (draws : LoginDraws) (now : Int) (users : Users) (connections : List SSOConnection)
    (logins : List SSOLoginState) (state code : String) (provider : Provider) :
    Except Failure (User × Users × List SSOLoginState) := do
  let (row, connection, email) ← acceptedIdentity settings now connections logins state code provider
  let (user, users) ← identityUser settings draws users connection email
  return (user, users, logins.filter fun other => other.stateHash ≠ row.stateHash)

end Sso
end RCAA.Security
