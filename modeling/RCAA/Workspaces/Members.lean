import RCAA.Security.Admins
import RCAA.Workspaces.Onboarding

/-! The members of the workspaces: registration, what administrators do to the users of their
workspace, and how they set up its single sign-on. A request that fails leaves the tables as
they were. Audit events and the requests that only read are left out. -/

namespace RCAA.Workspaces
open Api (requireRoles requireBody)
open Security (Accounts Arrival AuthRuntime AuthSettings Failure Provider SSOConnection User UserWrite Users fits)
open Security.Admins (countAdmins retainFailure roles)

/-- The token a request comes with and its time, and what it draws. -/
structure MemberRequest where
  credentials : Option String
  now : Int
  userId : String := ""
  salt : List UInt8 := []
  encryption : List UInt8 := []

structure RegisterRequest where
  email : String
  password : String
  merchantId : String
  role : String := "VIEWER"

structure Registration extends MemberRequest where
  payload : RegisterRequest
  bootstrapToken : Option String := none

structure CreateUserRequest where
  email : String
  password : String
  role : String

structure UpdateUserRequest where
  role : Option String := none
  isActive : Option Bool := none

structure SSOConfigRequest where
  issuerUrl : String
  clientId : String
  clientSecret : String := ""
  allowedDomains : String := ""
  defaultRole : String := "VIEWER"
  enabled : Bool := true

structure MemberSettings extends SignupSettings where
  authBootstrapToken : String := ""

section Members
variable [AuthRuntime] (isSpace : Char → Bool) (settings : MemberSettings)

/-- The user of the token of a request. -/
def currentUser (office : Office) (r : MemberRequest) : Except Failure User :=
  office.accounts.current settings.toAuthSettings r.now r.credentials

def Office.withUsers (office : Office) (users : Users) : Office := { office with accounts := { office.accounts with users } }

/-! ## New users -/

/-- A user of an e-mail that no user has. -/
def addUser (office : Office) (r : MemberRequest) (email password merchantId role : String) : Except Failure (User × Office) :=
  if (office.accounts.users.byEmail? email).isSome then .error (.http 409 "User already exists")
  else do
    let passwordHash ← Security.hashPassword r.salt password
    let user : User := { id := r.userId, email, passwordHash, merchantId, role }
    let users ← office.accounts.users.insert user
    return (user, office.withUsers users)

/-- The first user comes with the token of the deployment, any other by an administrator of the workspace. -/
def mayRegister (office : Office) (r : Registration) (current : Option User) : Except Failure Unit :=
  if office.accounts.users.rows.length = 0 then
    if settings.authBootstrapToken = "" ∨ r.bootstrapToken ≠ some settings.authBootstrapToken then
      .error (.http 403 "Controlled bootstrap token required for initial registration")
    else .ok ()
  else if current.any fun user => user.role = "ADMIN" ∧ r.payload.merchantId = user.merchantId then .ok ()
  else .error (.http 403 "Only a same-merchant admin may create users")

/-- The user of the token of a registration, where there is one. -/
def registrant (office : Office) (r : Registration) : Except Failure (Option User) :=
  match r.credentials with
  | none => .ok none
  | some _ => (currentUser settings office r.toMemberRequest).map some

def register (office : Office) (r : Registration) : Except Failure (User × Office) := do
  requireBody (fits 10 128 r.payload.password)
  let current ← registrant settings office r
  let role := upper r.payload.role
  if role ∉ roles then .error (.http 422 "Invalid role")
  else do
    mayRegister settings office r current
    match office.merchants.get? r.payload.merchantId with
    | none => .error (.http 404 "Merchant not found")
    | some merchant =>
      if office.accounts.users.rows.length = 0 ∧ role ≠ "ADMIN" then .error (.http 400 "Initial user must be ADMIN")
      else addUser office r.toMemberRequest (strip (lower r.payload.email)) r.payload.password merchant.id role

def createUser (office : Office) (r : MemberRequest) (payload : CreateUserRequest) : Except Failure (User × Office) := do
  let current ← currentUser settings office r
  requireRoles ["ADMIN"] current
  requireBody (fits 10 128 payload.password)
  let role := upper payload.role
  if role ∉ roles then .error (.http 422 "Invalid role")
  else addUser office r (strip (lower payload.email)) payload.password current.merchantId role

/-! ## Changes of a user -/

/-- `_last_admin_guard`, over the users as they are flushed. -/
def lastAdminGuard (users : Users) (user : User) (newRole : Option String) (newActive : Option Bool) : Except Failure Unit :=
  let willAdmin : Bool := (Cases.given newRole).getD user.role = "ADMIN" && newActive.getD user.isActive
  if willAdmin then .ok ()
  else if user.role = "ADMIN" ∧ user.isActive ∧ countAdmins user.merchantId users.rows ≤ 1 then .error retainFailure
  else .ok ()

/-- What an update sets. -/
def setStanding (role : String) (isActive : Bool) : UserWrite := ⟨fun user => { user with role, isActive }, fun _ => rfl, fun _ => rfl⟩

def changeRole (users : Users) (current user : User) : Option String → Except Failure User
  | none => .ok user
  | some text => do
    let role := upper text
    if role ∉ roles then .error (.http 422 "Invalid role")
    else if user.id = current.id ∧ role ≠ "ADMIN" then .error (.http 400 "Admin cannot demote themselves")
    else do
      lastAdminGuard users user (some role) none
      return { user with role }

def changeActive (users : Users) (current user : User) : Option Bool → Except Failure User
  | none => .ok user
  | some isActive => do
    if user.id = current.id ∧ isActive = false then .error (.http 400 "Admin cannot disable themselves")
    else do
      lastAdminGuard (users.write user.id (setStanding user.role user.isActive)) user none (some isActive)
      return { user with isActive }

def updateUser (office : Office) (r : MemberRequest) (userId : String) (payload : UpdateUserRequest) : Except Failure (User × Office) := do
  let current ← currentUser settings office r
  requireRoles ["ADMIN"] current
  match office.accounts.users.rows.find? fun user => user.id = userId ∧ user.merchantId = current.merchantId with
  | none => .error (.http 404 "User not found")
  | some user =>
    let promoted ← changeRole office.accounts.users current user payload.role
    let changed ← changeActive office.accounts.users current promoted payload.isActive
    return (changed, office.withUsers (office.accounts.users.write user.id (setStanding changed.role changed.isActive)))

/-! ## Single sign-on -/

def SSOConfigRequest.valid (payload : SSOConfigRequest) : Bool :=
  fits 10 500 payload.issuerUrl && fits 2 300 payload.clientId && fits 0 1000 payload.clientSecret &&
    fits 0 1000 payload.allowedDomains && payload.defaultRole ∈ roles

/-- The secret of a connection: the one it is given, or the one it had. -/
def clientSecretOf (r : MemberRequest) (payload : SSOConfigRequest) (stored : Option SSOConnection) : Except Failure String :=
  if strip payload.clientSecret = "" then .ok ((stored.map (·.clientSecretEnc)).getD "")
  else Security.encryptSecret settings.toAuthSettings r.encryption (strip payload.clientSecret)

def putConfig (office : Office) (r : MemberRequest) (payload : SSOConfigRequest) (provider : Provider) :
    Except Failure (SSOConnection × Office) := do
  let current ← currentUser settings office r
  requireRoles ["ADMIN"] current
  requireBody payload.valid
  if provider.discovered.isNone then .error (.http 422 "Unable to validate the OIDC issuer")
  else do
    let stored := office.accounts.connections.find? fun connection => connection.merchantId = current.merchantId
    let clientSecretEnc ← clientSecretOf settings r payload stored
    let connection : SSOConnection := {
      merchantId := current.merchantId
      issuerUrl := Security.rstrip '/' payload.issuerUrl
      clientId := strip payload.clientId
      clientSecretEnc
      allowedDomains := strip payload.allowedDomains
      enabled := payload.enabled
      defaultRole := payload.defaultRole }
    let connections := KeyedRows.put SSOConnection.merchantId connection office.accounts.connections
    return (connection, { office with accounts := { office.accounts with connections } })

/-! ## Events -/

/-- What happens to the users and the connections. The other tables change in any way, but for the merchants. -/
inductive MemberEvent where
  | signup (s : Signup)
  | auth (a : Arrival)
  | register (r : Registration)
  | create (r : MemberRequest) (payload : CreateUserRequest)
  | update (r : MemberRequest) (userId : String) (payload : UpdateUserRequest)
  | configure (r : MemberRequest) (payload : SSOConfigRequest) (provider : Provider)
  | elsewhere (other : Office)

/-- The tables after a request, which are as before where it fails. -/
def Office.after (office : Office) (made : Except Failure (α × Office)) : Office := (made.toOption.map Prod.snd).getD office

def memberStep (office : Office) : MemberEvent → Office
  | .signup s => (signup isSpace settings.toSignupSettings office s).2
  | .auth a => { office with accounts := Security.serve settings.toAuthSettings office.accounts a }
  | .register r => office.after (register settings office r)
  | .create r payload => office.after (createUser settings office r payload)
  | .update r userId payload => office.after (updateUser settings office r userId payload)
  | .configure r payload provider => office.after (putConfig settings office r payload provider)
  | .elsewhere other => { other with
      accounts := { other.accounts with users := office.accounts.users, connections := office.accounts.connections }
      merchants := office.merchants }

end Members
end RCAA.Workspaces
