import Mathlib
import RCAA.Security.Auth

/-! The second factor: the codes of an authenticator, the stored secret and the
challenges that stand between two requests. -/

namespace RCAA.Security

section Mfa
variable [AuthRuntime] (settings : AuthSettings)

/-! ## The stored secret -/

def encryptSecret (draw : List UInt8) (secret : String) : Except Failure String :=
  if settings.mfaEncryptionKey = "" then .error .configuration
  else match AuthRuntime.encrypt settings.mfaEncryptionKey draw secret with
    | none => .error .configuration
    | some value => .ok value

def decryptSecret (value : String) : Except Failure String :=
  if settings.mfaEncryptionKey = "" then .error .configuration
  else match AuthRuntime.decrypt settings.mfaEncryptionKey value with
    | none => .error .configuration
    | some secret => .ok secret

def rstrip (c : Char) (text : String) : String := .ofList (text.toList.rdropWhile (· = c))

/-- `new_secret`, of the bytes it draws. -/
def newSecret (draw : List UInt8) : String := rstrip '=' (AuthRuntime.b32encode draw)

def provisioningUri (secret email : String) : String :=
  let issuer := AuthRuntime.quote settings.mfaIssuer
  let label := AuthRuntime.quote (settings.mfaIssuer ++ ":" ++ email)
  "otpauth://totp/" ++ label ++ "?secret=" ++ secret ++ "&issuer=" ++ issuer ++ "&algorithm=SHA1&digits=6&period=30"

/-! ## Codes -/

/-- `struct.pack(">Q", n)`. -/
def packQ (n : Nat) : List UInt8 := (List.range 8).map fun i => .ofNat (n / 256 ^ (7 - i))

/-- `struct.unpack(">I", ...)` of the four bytes from an offset. -/
def unpackI (digest : Vector UInt8 20) (offset : Nat) : Nat :=
  ((List.range 4).map fun i => (digest.toList.getD (offset + i) 0).toNat).foldl (fun n byte => n * 256 + byte) 0

/-- The last byte says where in the digest the code is read. -/
def truncated (digest : Vector UInt8 20) : String :=
  let offset := digest[19].toNat % 16
  let value := unpackI digest offset % 2 ^ 31
  .ofList ((Decimal.digits (value % 1000000)).leftpad 6 '0')

/-- `_hotp`. -/
def hotp (secret : String) (counter : Int) : Except Failure String :=
  let padded := upper secret ++ String.ofList (List.replicate ((8 - secret.length % 8) % 8) '=')
  match AuthRuntime.b32decode padded with
  | none => .error .raised
  | some key =>
    if 0 ≤ counter ∧ counter < 2 ^ 64 then .ok (truncated (AuthRuntime.hmacSha1 key (packQ counter.toNat)))
    else .error .raised

/-- `hmac.compare_digest` of two texts, which have to be ASCII. -/
def compareDigest (a b : String) : Except Failure Bool :=
  if a.toList.all (·.toNat < 128) ∧ b.toList.all (·.toNat < 128) then .ok (a = b) else .error .raised

def anyCode (secret normalized : String) : List Int → Except Failure Bool
  | [] => .ok false
  | counter :: rest => do
    let expected ← hotp secret counter
    if ← compareDigest expected normalized then return true
    else anyCode secret normalized rest

def verifyCode (now : Int) (secret code : String) : Except Failure Bool :=
  let normalized := String.ofList (code.toList.filter AuthRuntime.isDigit)
  if normalized.length ≠ 6 then .ok false
  else
    let counter := now / (30 * 1000000)
    anyCode secret normalized [counter - 1, counter, counter + 1]

/-! ## Challenges -/

/-- `_special_token`. -/
def specialToken (now : Int) (nonce userId purpose : String) (minutes : Int) : Except Failure String := do
  let secret ← secret settings
  return AuthRuntime.encodeSpecial secret ⟨userId, purpose, now, now + minutes * DateTime.minute, nonce⟩

def mfaSetupToken (now : Int) (nonce : String) (user : User) : Except Failure String :=
  specialToken settings now nonce user.id "mfa_setup" 10

def mfaLoginChallenge (now : Int) (nonce : String) (user : User) : Except Failure String :=
  specialToken settings now nonce user.id "mfa_login" 5

def decodeSpecialToken (now : Int) (token purpose : String) : Except Failure SpecialClaims := do
  let secret ← secret settings
  match AuthRuntime.decodeSpecial secret token now with
  | .error .expired => .error (.http 401 "Security challenge expired")
  | .error .invalid => .error (.http 401 "Invalid security challenge")
  | .ok claims =>
    if claims.purpose = purpose then return claims else .error (.http 401 "Invalid security challenge")

/-- The code is a current code of the user's secret. -/
def Verifies (now : Int) (user : User) (code : String) : Prop :=
  ∃ stored secret, user.mfaSecretEnc = some stored ∧ decryptSecret settings stored = .ok secret ∧
    verifyCode now secret code = .ok true

end Mfa
end RCAA.Security
