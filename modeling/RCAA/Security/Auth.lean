import RCAA.Security.Models
import RCAA.Library.Outcome

/-! Sessions and their tokens: creation, rotation and revocation of refresh tokens, and
the check of an access token. A call reads one time. The test-only user of a request
without credentials, metrics and the time of last use a check notes are left out. -/

namespace RCAA.Security

/-! ## Cryptography -/

structure AccessClaims where
  sub : String
  merchantId : String
  role : String
  iat : Int
  exp : Int
  sid : Option String := none
deriving DecidableEq

/-- The claims of a challenge, which stands for one purpose only. -/
structure SpecialClaims where
  sub : String
  purpose : String
  iat : Int
  exp : Int
  nonce : String
deriving DecidableEq

inductive JwtError where
  | expired | invalid
deriving DecidableEq

/-- What the cryptographic packages supply. Decoding checks the signature, the required
claims and the expiry. -/
class AuthRuntime extends Platform where
  hmacSha256 : (secret message : String) → String
  sha256 : String → String
  encodeAccess : (secret : String) → AccessClaims → String
  decodeAccess : (secret token : String) → (now : Int) → Except JwtError AccessClaims
  encodeSpecial : (secret : String) → SpecialClaims → String
  decodeSpecial : (secret token : String) → (now : Int) → Except JwtError SpecialClaims
  hmacSha1 : (key message : List UInt8) → Vector UInt8 20
  b32encode : List UInt8 → String
  b32decode : String → Option (List UInt8)
  b64encode : List UInt8 → String
  b64decode : String → Option (List UInt8)
  scrypt : (salt : List UInt8) → (password : String) → List UInt8
  /-- Fernet under a key, with what it draws; a key may be no key. -/
  encrypt : (key : String) → (draw : List UInt8) → (secret : String) → Option String
  decrypt : (key value : String) → Option String
  /-- `str.isdigit` of one character. -/
  isDigit : Char → Bool
  /-- Percent encoding of a text in a URL. -/
  quote : String → String

structure AuthSettings where
  authSecret : String
  accessTokenExpireMinutes : Int := 15
  refreshTokenExpireDays : Int := 7
  mfaEncryptionKey : String := ""
  mfaIssuer : String := "RCAA"
  mfaRequiredRoles : List String := []
  passwordResetExpireMinutes : Int := 30
  passwordResetPublicBaseUrl : String := ""
  smtpHost : String := ""
  smtpFrom : String := ""
  appEnv : String := "development"
  testing : Bool := false
  rateLimitEnabled : Bool := true
  rateLimitLoginIp : Int := 60
  rateLimitLoginEmail : Int := 10
  rateLimitLoginWindowSeconds : Int := 300
  rateLimitMfaUser : Int := 10
  rateLimitMfaWindowSeconds : Int := 600
  ssoEnabled : Bool := false
  ssoCallbackUrl : String := ""
  ssoFrontendUrl : String := ""
  ssoAllowedIssuers : List String := []
  ssoStateExpireMinutes : Int := 10

/-- The random values one call draws. A family is never one that is in use. -/
structure SessionDraws where
  sessionId : String
  refresh : String
  family : KeySource

section Tokens
variable [AuthRuntime] (settings : AuthSettings)

/-- `_secret`. -/
def secret : Except Failure String :=
  if settings.authSecret.length < 32 then .error .configuration else .ok settings.authSecret

/-- `_hash_token`. -/
def hashToken (token : String) : Except Failure String :=
  (secret settings).map fun secret => AuthRuntime.hmacSha256 secret token

/-- `_hash_metadata`. -/
def hashMetadata (value : Option String) : Except Failure (Option String) :=
  match value with
  | none => .ok none
  | some value => if value = "" then .ok none else (hashToken settings value).map some

def createAccessToken (now : Int) (user : User) (sessionId : String) : Except Failure String :=
  match secret settings with
  | .error _ => .error (.http 503 "Authentication service is not configured securely")
  | .ok secret => .ok (AuthRuntime.encodeAccess secret {
      sub := user.id
      merchantId := user.merchantId
      role := user.role
      iat := now
      exp := now + settings.accessTokenExpireMinutes * DateTime.minute
      sid := if sessionId = "" then none else some sessionId })

def decodeToken (now : Int) (token : String) : Except Failure AccessClaims :=
  match secret settings with
  | .error _ => .error (.http 503 "Authentication service is not configured securely")
  | .ok secret => match AuthRuntime.decodeAccess secret token now with
    | .ok claims => .ok claims
    | .error .expired => .error (authError "Token expired")
    | .error .invalid => .error (authError "Invalid authentication token")

/-! ## Passwords -/

/-- `hash_password`, with the salt it draws. -/
def hashPassword (salt : List UInt8) (password : String) : Except Failure String :=
  if password.length < 10 ∨ 128 < password.length then .error .raised
  else .ok ("scrypt$" ++ AuthRuntime.b64encode salt ++ "$" ++ AuthRuntime.b64encode (AuthRuntime.scrypt salt password))

/-- What stands before the first `$` and after it. -/
def splitDollar (text : List Char) : Option (List Char × List Char) :=
  match text.dropWhile (· ≠ '$') with
  | [] => none
  | _ :: rest => some (text.takeWhile (· ≠ '$'), rest)

def verifyPassword (password encoded : String) : Bool :=
  let accepted : Option Bool := do
    let (_, rest) ← splitDollar encoded.toList
    let (salt, digest) ← splitDollar rest
    let salt ← AuthRuntime.b64decode (.ofList salt)
    let expected ← AuthRuntime.b64decode (.ofList digest)
    return AuthRuntime.scrypt salt password = expected
  accepted.getD false

/-! ## Creation and rotation -/

/-- `family_id or secrets.token_urlsafe(18)`. -/
def familyOf (draws : SessionDraws) (table : Sessions) (familyId : Option String) : String :=
  match familyId with
  | none => draws.family.draw table.families
  | some familyId => if familyId = "" then draws.family.draw table.families else familyId

/-- The access token, the refresh token and the row of a session. -/
structure Issued where
  access : String
  refresh : String
  session : AuthSession

/-- The row `create_session_tokens` adds. -/
def newSession (draws : SessionDraws) (now : Int) (user : User) (clientIp userAgent : Option String)
    (familyId : String) : Except Failure AuthSession := do
  let tokenHash ← hashToken settings draws.refresh
  let ipHash ← hashMetadata settings clientIp
  let userAgentHash ← hashMetadata settings userAgent
  return {
    id := draws.sessionId
    userId := user.id
    merchantId := user.merchantId
    createdAt := now
    expiresAt := now + settings.refreshTokenExpireDays * DateTime.day
    tokenHash, familyId, ipHash, userAgentHash }

def createSessionTokens (draws : SessionDraws) (now : Int) (table : Sessions) (user : User)
    (clientIp userAgent familyId : Option String) : Except Failure (Issued × Sessions) := do
  let row ← newSession settings draws now user clientIp userAgent (familyOf draws table familyId)
  let table ← table.insert row
  let access ← createAccessToken settings now user row.id
  return (⟨access, draws.refresh, row⟩, table)

/-- What `rotate_refresh_token` makes of the row of a presented token. -/
inductive Presented where
  | replayed | expired | refused
  | accepted (user : User)

def presented (users : List User) (now : Int) (row : AuthSession) : Presented :=
  if row.revokedAt.isSome then .replayed
  else if row.expiresAt ≤ now then .expired
  else match users.find? fun user => user.id = row.userId with
    | none => .refused
    | some user => if user.isActive ∧ user.merchantId = row.merchantId then .accepted user else .refused

/-- `rotate_refresh_token`: what is revoked on the way to an error is committed. -/
def rotateRefreshToken (draws : SessionDraws) (now : Int) (users : List User) (table : Sessions)
    (refreshToken : String) (clientIp userAgent : Option String) : Except Failure (String × String × User) × Sessions :=
  if refreshToken = "" then (.error (authError "Refresh token required"), table)
  else match hashToken settings refreshToken with
    | .error failure => (.error failure, table)
    | .ok tokenHash => match table.byToken? tokenHash with
      | none => (.error (authError "Invalid refresh token"), table)
      | some row => match presented users now row with
        | .replayed => (.error (authError "Refresh token reuse detected"), table.write (revokeFamily row.familyId now))
        | .expired => (.error (authError "Refresh token expired"), table.write (revokeRow row.id now))
        | .refused => (.error (authError "Authentication required"), table.write (revokeRow row.id now))
        | .accepted user =>
          match createSessionTokens settings draws now table user clientIp userAgent (some row.familyId) with
          | .error failure => (.error failure, table)
          | .ok (issued, grown) =>
            (.ok (issued.access, issued.refresh, user), grown.write (replaceRow row.id issued.session.id now))

/-! ## Revocation -/

def revokeSessionByRefresh (now : Int) (table : Sessions) (refreshToken : Option String) :
    Except Failure Bool × Sessions :=
  match refreshToken with
  | none => (.ok false, table)
  | some refreshToken =>
    if refreshToken = "" then (.ok false, table)
    else match hashToken settings refreshToken with
      | .error failure => (.error failure, table)
      | .ok tokenHash => match table.byToken? tokenHash with
        | none => (.ok false, table)
        | some row => (.ok true, if row.revokedAt = none then table.write (revokeRow row.id now) else table)

def revokeSessionByAccess (now : Int) (table : Sessions) (token : Option String) : Bool × Sessions :=
  match token with
  | none => (false, table)
  | some token =>
    if token = "" then (false, table)
    else match decodeToken settings now token with
      | .error _ => (false, table)
      | .ok claims => match claims.sid with
        | none => (false, table)
        | some sid =>
          if sid = "" then (false, table)
          else match table.get? sid with
            | none => (false, table)
            | some row => (true, if row.revokedAt = none then table.write (revokeRow row.id now) else table)

/-- `revoke_session` of the session routes: one session of a user. -/
def revokeSession (now : Int) (table : Sessions) (sessionId userId : String) : Except Failure Unit × Sessions :=
  match table.get? sessionId with
  | none => (.error (.http 404 "Session not found"), table)
  | some row =>
    if row.userId = userId then (.ok (), table.write (revokeRow row.id now))
    else (.error (.http 404 "Session not found"), table)

/-! ## The check of an access token -/

/-- `get_current_user`. -/
def getCurrentUser (now : Int) (users : List User) (table : Sessions) (credentials : Option String) :
    Except Failure User :=
  match credentials with
  | none => .error (authError "Authentication required")
  | some token => do
    let claims ← decodeToken settings now token
    match users.find? fun user => user.id = claims.sub with
    | none => .error (authError "Authentication required")
    | some user =>
      if !user.isActive ∨ user.merchantId ≠ claims.merchantId ∨ user.role ≠ claims.role then
        .error (authError "Authentication required")
      else match claims.sid with
        | none => return user
        | some sid =>
          if sid = "" then return user
          else match table.get? sid with
            | none => .error (authError "Session revoked or expired")
            | some row =>
              if row.userId ≠ user.id ∨ row.merchantId ≠ user.merchantId ∨ row.revokedAt ≠ none ∨ row.expiresAt ≤ now then
                .error (authError "Session revoked or expired")
              else return user

end Tokens

/-! ## What the calls do to the table -/

section Calls
variable [AuthRuntime] {settings : AuthSettings} {draws : SessionDraws} {now : Int} {table : Sessions}

theorem newSession_ok {user : User} {clientIp userAgent : Option String} {familyId : String} {row : AuthSession}
    (made : newSession settings draws now user clientIp userAgent familyId = .ok row) :
    row.familyId = familyId ∧ row.userId = user.id ∧ row.merchantId = user.merchantId ∧ row.Unrevoked ∧
      row.replacedBy = none := by
  obtain ⟨_, _, made⟩ := Outcome.bind_ok made
  obtain ⟨_, _, made⟩ := Outcome.bind_ok made
  obtain ⟨_, _, made⟩ := Outcome.bind_ok made
  cases made
  exact ⟨rfl, rfl, rfl, rfl, rfl⟩

theorem createSessionTokens_ok {user : User} {clientIp userAgent familyId : Option String} {issued : Issued}
    {after : Sessions}
    (created : createSessionTokens settings draws now table user clientIp userAgent familyId = .ok (issued, after)) :
    after.rows = table.rows ++ [issued.session] ∧ issued.session.familyId = familyOf draws table familyId ∧
      issued.session.userId = user.id ∧ issued.session.merchantId = user.merchantId ∧ issued.session.Unrevoked ∧
      issued.session.replacedBy = none := by
  obtain ⟨row, made, created⟩ := Outcome.bind_ok created
  obtain ⟨grown, inserted, created⟩ := Outcome.bind_ok created
  obtain ⟨_, _, created⟩ := Outcome.bind_ok created
  cases created
  exact ⟨Sessions.insert_ok inserted, newSession_ok made⟩

omit [AuthRuntime] in
theorem familyOf_fresh (draws : SessionDraws) (table : Sessions) {familyId : Option String}
    (new : familyId = none ∨ familyId = some "") : familyOf draws table familyId ∉ table.families := by
  rcases new with rfl | rfl
  · exact draws.family.fresh _
  · exact draws.family.fresh _

omit [AuthRuntime] in
theorem familyOf_cases (draws : SessionDraws) (table : Sessions) (familyId : Option String) :
    familyOf draws table familyId ∉ table.families ∨ some (familyOf draws table familyId) = familyId := by
  cases familyId with
  | none => exact .inl (familyOf_fresh draws table (.inl rfl))
  | some familyId =>
    by_cases blank : familyId = ""
    · exact .inl (familyOf_fresh draws table (.inr (congrArg some blank)))
    · exact .inr (congrArg some (if_neg blank))

omit [AuthRuntime] in
theorem presented_replayed {users : List User} {row : AuthSession} (revoked : ¬row.Unrevoked) :
    presented users now row = .replayed := if_pos (Option.isSome_iff_ne_none.mpr revoked)

omit [AuthRuntime] in
theorem presented_unrevoked {users : List User} {row : AuthSession} (other : presented users now row ≠ .replayed) :
    row.Unrevoked := by
  by_contra revoked
  exact other (presented_replayed revoked)

/-- A session that is revoked, or not there, admits no token bound to it. -/
theorem getCurrentUser_revoked {users : List User} {token : String} {claims : AccessClaims} {sid : String}
    (decoded : decodeToken settings now token = .ok claims) (bound : claims.sid = some sid) (named : sid ≠ "")
    (revoked : ∀ row ∈ table.rows, row.id = sid → ¬row.Unrevoked) :
    ∃ detail, getCurrentUser settings now users table (some token) = .error (authError detail) := by
  simp only [getCurrentUser, decoded, bind, Except.bind]
  split
  · exact ⟨_, rfl⟩
  · split
    · exact ⟨_, rfl⟩
    · simp only [bound, if_neg named]
      split
      · exact ⟨_, rfl⟩
      · next row found =>
        obtain ⟨member, same⟩ := Sessions.get?_eq_some_iff.mp found
        rw [if_pos (.inr (.inr (.inl (revoked row member same))))]
        exact ⟨_, rfl⟩

end Calls
end RCAA.Security

namespace RCAA.PlainText
open Security Decimal

def bytes (text : String) : List UInt8 := text.toList.map fun c => .ofNat c.toNat
def ofBytes (data : List UInt8) : String := String.ofList (data.map fun b => Char.ofNat b.toNat)

/-- The fields `marked` wrote. -/
def unmarked : List Char → List (List Char)
  | '.' :: c :: rest => match unmarked rest with
    | [] => [[c]]
    | field :: fields => (c :: field) :: fields
  | '|' :: rest => [] :: unmarked rest
  | _ => []

def integer (n : Int) : List Char := marked (String.ofList (signedDigits n))

def sealed (secret : String) (claims : List Char) : String := String.ofList (marked secret ++ claims)

/-- The claims of a token under the secret, unless it has expired. -/
def unsealed {α : Type} (read : List (List Char) → Option (Int × α)) (secret token : String) (now : Int) :
    Except JwtError α :=
  match unmarked token.toList with
  | [] => .error .invalid
  | under :: fields =>
    if under = secret.toList then match read fields with
      | none => .error .invalid
      | some (exp, claims) => if exp ≤ now then .error .expired else .ok claims
    else .error .invalid

def readAccess : List (List Char) → Option (Int × AccessClaims)
  | sub :: merchantId :: role :: iat :: exp :: sid => do
    let iat ← parseSigned iat
    let exp ← parseSigned exp
    return (exp, ⟨.ofList sub, .ofList merchantId, .ofList role, iat, exp, sid.head?.map .ofList⟩)
  | _ => none

def readSpecial : List (List Char) → Option (Int × SpecialClaims)
  | [sub, purpose, iat, exp, nonce] => do
    let iat ← parseSigned iat
    let exp ← parseSigned exp
    return (exp, ⟨.ofList sub, .ofList purpose, iat, exp, .ofList nonce⟩)
  | _ => none

/-- Hashes and ciphers that show what they hide, and tokens that carry their secret. -/
scoped instance plainAuth : AuthRuntime where
  toPlatform := plainText
  hmacSha256 _ message := message
  sha256 text := text
  encodeAccess secret claims := sealed secret (marked claims.sub ++ marked claims.merchantId ++ marked claims.role ++
    integer claims.iat ++ integer claims.exp ++ (claims.sid.map marked).getD [])
  decodeAccess := unsealed readAccess
  encodeSpecial secret claims := sealed secret (marked claims.sub ++ marked claims.purpose ++ integer claims.iat ++
    integer claims.exp ++ marked claims.nonce)
  decodeSpecial := unsealed readSpecial
  hmacSha1 _ message := Vector.ofFn fun i => if i = 19 then 0 else message.getD (i + 4) 0
  b32encode := ofBytes
  b32decode text := some (bytes text)
  b64encode := ofBytes
  b64decode text := some (bytes text)
  scrypt _ password := bytes password
  encrypt _ _ secret := some secret
  decrypt _ value := some value
  isDigit := Char.isDigit
  quote text := text

end RCAA.PlainText
