import RCAA.Security.Auth

/-! The counters that limit requests, one for an action and a key. Each call commits the
count it takes. -/

namespace RCAA.Security

def tooManyRequests : Failure := .http 429 "Too many requests. Please try again later."

section RateLimit
variable [AuthRuntime] (settings : AuthSettings)

/-- `_hash_key`. -/
def hashKey (action key : String) : String :=
  let secret := if settings.authSecret = "" then "rcaa-rate-limit-development" else settings.authSecret
  AuthRuntime.hmacSha256 secret (action ++ ":" ++ key)

/-- `enforce_rate_limit`. -/
def enforceRateLimit (now : Int) (limits : List SecurityRateLimit) (action key : String) (limit windowSeconds : Int) :
    Except Failure Unit × List SecurityRateLimit :=
  if !settings.rateLimitEnabled ∨ settings.testing ∨ limit ≤ 0 then (.ok (), limits)
  else
    let keyHash := hashKey settings action key
    let window := windowSeconds * 1000000
    let changed (f : SecurityRateLimit → SecurityRateLimit) :=
      limits.map fun row => if row.action = action ∧ row.keyHash = keyHash then f row else row
    match limits.find? fun row => row.action = action ∧ row.keyHash = keyHash with
    | none => (.ok (), limits ++ [{ action, keyHash, windowStartedAt := now, count := 1 }])
    | some row =>
      if row.blockedUntil.any (now < ·) then (.error tooManyRequests, limits)
      else if window ≤ now - row.windowStartedAt then
        (.ok (), changed fun row => { row with windowStartedAt := now, count := 1, blockedUntil := none })
      else if limit < row.count + 1 then
        (.error tooManyRequests, changed fun row =>
          { row with count := row.count + 1, blockedUntil := some (row.windowStartedAt + window) })
      else (.ok (), changed fun row => { row with count := row.count + 1 })

/-- `reset_rate_limit`. -/
def resetRateLimit (limits : List SecurityRateLimit) (action key : String) : List SecurityRateLimit :=
  if !settings.rateLimitEnabled ∨ settings.testing then limits
  else
    let keyHash := hashKey settings action key
    limits.filter fun row => ¬(row.action = action ∧ row.keyHash = keyHash)

end RateLimit
end RCAA.Security
