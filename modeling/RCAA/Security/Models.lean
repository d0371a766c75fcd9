import RCAA.Cases.Models

/-! The tables behind authentication. Times are instants in UTC. A session row is added
once and then only revoked, replaced or touched: a write keeps its keys, its family and
the fact that it is revoked. -/

namespace RCAA.Security

structure User where
  id : String
  email : String
  passwordHash : String
  merchantId : String
  role : String
  isActive : Bool := true
  mfaEnabled : Bool := false
  mfaSecretEnc : Option String := none
deriving DecidableEq

structure AuthSession where
  id : String
  userId : String
  merchantId : String
  tokenHash : String
  familyId : String
  createdAt : Int
  expiresAt : Int
  lastUsedAt : Option Int := none
  revokedAt : Option Int := none
  replacedBy : Option String := none
  ipHash : Option String := none
  userAgentHash : Option String := none
deriving DecidableEq

namespace AuthSession

/-- The session is not revoked. -/
abbrev Unrevoked (row : AuthSession) : Prop := row.revokedAt = none

/-- The token of the session was rotated. -/
abbrev Rotated (row : AuthSession) : Prop := row.replacedBy ≠ none

/-- A rotated token's session is revoked. -/
def Consistent (row : AuthSession) : Prop := row.Rotated → ¬row.Unrevoked

instance (row : AuthSession) : Decidable row.Consistent := inferInstanceAs (Decidable (row.Rotated → ¬row.Unrevoked))

end AuthSession

/-! ## Failures -/

inductive Failure where
  /-- `HTTPException`. -/
  | http (status : Nat) (detail : String)
  /-- `RuntimeError`: the secrets are not configured, or a stored one cannot be read. -/
  | configuration
  /-- A unique constraint. -/
  | integrity
  /-- The body of the request is not of its model. -/
  | validation
  /-- Any other exception a request ends with. -/
  | raised
deriving DecidableEq, Repr

/-- `AuthError`. -/
def authError (detail : String) : Failure := .http 401 detail

/-! ## Users -/

/-- What a statement does to a user: the keys stay. -/
structure UserWrite where
  apply : User → User
  id : ∀ user, (apply user).id = user.id
  email : ∀ user, (apply user).email = user.email

structure Users where
  rows : List User := []
  ids : (rows.map (·.id)).Nodup := by decide
  emails : (rows.map (·.email)).Nodup := by decide

namespace Users

def get? (table : Users) (id : String) : Option User := table.rows.find? fun user => user.id = id
def byEmail? (table : Users) (email : String) : Option User := table.rows.find? fun user => user.email = email

def insert (table : Users) (user : User) : Except Failure Users :=
  if accepted : user.id ∉ table.rows.map (·.id) ∧ user.email ∉ table.rows.map (·.email) then
    .ok {
      rows := table.rows ++ [user]
      ids := KeyedRows.nodup_snoc _ table.ids accepted.1
      emails := KeyedRows.nodup_snoc _ table.emails accepted.2 }
  else .error .integrity

/-- The user with an id changed. -/
def write (table : Users) (id : String) (w : UserWrite) : Users where
  rows := KeyedRows.update User.id id w.apply table.rows
  ids := by simpa only [KeyedRows.map_update User.id w.id] using table.ids
  emails := by simpa only [KeyedRows.map_update User.id w.email] using table.emails

variable {table : Users}

theorem get?_eq_some_iff {id : String} {user : User} : table.get? id = some user ↔ user ∈ table.rows ∧ user.id = id :=
  KeyedRows.find?_eq_some_iff User.id table.ids id user

theorem byEmail?_eq_some_iff {email : String} {user : User} :
    table.byEmail? email = some user ↔ user ∈ table.rows ∧ user.email = email :=
  KeyedRows.find?_eq_some_iff User.email table.emails email user

theorem insert_ok {after : Users} {user : User} (inserted : table.insert user = .ok after) :
    after.rows = table.rows ++ [user] := by
  unfold insert at inserted
  split at inserted
  · cases inserted
    rfl
  · cases inserted

theorem get?_write {id : String} {w : UserWrite} (other : String) :
    (table.write id w).get? other = (table.get? other).map fun user => if user.id = id then w.apply user else user :=
  KeyedRows.find?_update User.id w.id table.rows other

end Users

/-! ## Resets, single sign-on and rate limits -/

/-- The hash of the token tells the rows apart. -/
structure PasswordResetToken where
  userId : String
  tokenHash : String
  expiresAt : Int
  usedAt : Option Int := none
  requestIpHash : Option String := none
deriving DecidableEq

structure Resets where
  rows : List PasswordResetToken := []
  tokens : (rows.map (·.tokenHash)).Nodup := by decide

namespace Resets

def byToken? (table : Resets) (tokenHash : String) : Option PasswordResetToken :=
  table.rows.find? fun row => row.tokenHash = tokenHash

def insert (table : Resets) (row : PasswordResetToken) : Except Failure Resets :=
  if accepted : row.tokenHash ∉ table.rows.map (·.tokenHash) then
    .ok { rows := table.rows ++ [row], tokens := KeyedRows.nodup_snoc _ table.tokens accepted }
  else .error .integrity

/-- `UPDATE ... SET used_at = now` of the rows that are selected. -/
def use (table : Resets) (selected : PasswordResetToken → Bool) (now : Int) : Resets where
  rows := table.rows.map fun row => if selected row then { row with usedAt := some now } else row
  tokens := by
    have kept : (fun row : PasswordResetToken =>
        (if selected row then { row with usedAt := some now } else row).tokenHash) = PasswordResetToken.tokenHash := by
      funext row
      split <;> rfl
    simpa only [List.map_map, Function.comp_def, kept] using table.tokens

end Resets

structure SSOConnection where
  merchantId : String
  issuerUrl : String
  clientId : String
  clientSecretEnc : String
  allowedDomains : String := ""
  enabled : Bool := true
  defaultRole : String := "VIEWER"
deriving DecidableEq

structure SSOLoginState where
  stateHash : String
  merchantId : String
  codeVerifierEnc : String
  nonceHash : String
  expiresAt : Int
deriving DecidableEq

/-- The action and the hash of the key tell the rows apart. -/
structure SecurityRateLimit where
  action : String
  keyHash : String
  windowStartedAt : Int
  count : Int
  blockedUntil : Option Int := none
deriving DecidableEq

/-! ## Sessions -/

/-- What a statement does to the session rows. -/
structure Write where
  apply : AuthSession → AuthSession
  id : ∀ row, (apply row).id = row.id
  userId : ∀ row, (apply row).userId = row.userId
  tokenHash : ∀ row, (apply row).tokenHash = row.tokenHash
  familyId : ∀ row, (apply row).familyId = row.familyId
  revoked : ∀ row, (apply row).Unrevoked → row.Unrevoked
  consistent : ∀ row, row.Consistent → (apply row).Consistent

attribute [simp] Write.id Write.userId Write.tokenHash Write.familyId

structure Sessions where
  rows : List AuthSession := []
  ids : (rows.map (·.id)).Nodup := by decide
  tokens : (rows.map (·.tokenHash)).Nodup := by decide

namespace Sessions

def write (table : Sessions) (w : Write) : Sessions where
  rows := table.rows.map w.apply
  ids := by simpa only [List.map_map, Function.comp_def, w.id] using table.ids
  tokens := by simpa only [List.map_map, Function.comp_def, w.tokenHash] using table.tokens

def insert (table : Sessions) (row : AuthSession) : Except Failure Sessions :=
  if accepted : row.id ∉ table.rows.map (·.id) ∧ row.tokenHash ∉ table.rows.map (·.tokenHash) then
    .ok {
      rows := table.rows ++ [row]
      ids := KeyedRows.nodup_snoc _ table.ids accepted.1
      tokens := KeyedRows.nodup_snoc _ table.tokens accepted.2 }
  else .error .integrity

def get? (table : Sessions) (id : String) : Option AuthSession := table.rows.find? fun row => row.id = id
def byToken? (table : Sessions) (tokenHash : String) : Option AuthSession :=
  table.rows.find? fun row => row.tokenHash = tokenHash

def families (table : Sessions) : List String := table.rows.map (·.familyId)

variable {table : Sessions}

theorem mem_write {w : Write} {row : AuthSession} : row ∈ (table.write w).rows ↔ ∃ old ∈ table.rows, w.apply old = row :=
  List.mem_map

theorem mem_families {row : AuthSession} (member : row ∈ table.rows) : row.familyId ∈ table.families :=
  List.mem_map_of_mem member

@[simp] theorem families_write (w : Write) : (table.write w).families = table.families := by
  simp only [families, write, List.map_map, Function.comp_def, w.familyId]

theorem insert_ok {after : Sessions} {row : AuthSession} (inserted : table.insert row = .ok after) :
    after.rows = table.rows ++ [row] := by
  unfold insert at inserted
  split at inserted
  · cases inserted
    rfl
  · cases inserted

theorem get?_eq_some_iff {id : String} {row : AuthSession} : table.get? id = some row ↔ row ∈ table.rows ∧ row.id = id :=
  KeyedRows.find?_eq_some_iff AuthSession.id table.ids id row

theorem byToken?_eq_some_iff {tokenHash : String} {row : AuthSession} :
    table.byToken? tokenHash = some row ↔ row ∈ table.rows ∧ row.tokenHash = tokenHash :=
  KeyedRows.find?_eq_some_iff AuthSession.tokenHash table.tokens tokenHash row

theorem eq_of_id {a b : AuthSession} (ha : a ∈ table.rows) (hb : b ∈ table.rows) (same : a.id = b.id) : a = b :=
  KeyedRows.faithful_of_nodup AuthSession.id table.ids a ha b hb same

end Sessions

/-! ## Writes -/

/-- `UPDATE ... SET revoked_at = now WHERE ... AND revoked_at IS NULL`. -/
def revokeWhere (selected : AuthSession → Bool) (now : Int) : Write where
  apply row := if selected row ∧ row.revokedAt = none then { row with revokedAt := some now } else row
  id row := by split <;> rfl
  userId row := by split <;> rfl
  tokenHash row := by split <;> rfl
  familyId row := by split <;> rfl
  revoked row := by
    split
    · nofun
    · exact fun unrevoked => unrevoked
  consistent row := by
    split
    · exact fun _ _ => nofun
    · exact fun consistent => consistent

/-- `_revoke_family`. -/
def revokeFamily (familyId : String) (now : Int) : Write := revokeWhere (fun row => row.familyId = familyId) now

/-- The bulk revocation when a password is reset or a second factor disabled. -/
def revokeUser (userId : String) (now : Int) : Write := revokeWhere (fun row => row.userId = userId) now

/-- `row.revoked_at = now`. -/
def revokeRow (id : String) (now : Int) : Write where
  apply row := if row.id = id then { row with revokedAt := some now } else row
  id row := by split <;> rfl
  userId row := by split <;> rfl
  tokenHash row := by split <;> rfl
  familyId row := by split <;> rfl
  revoked row := by
    split
    · nofun
    · exact fun unrevoked => unrevoked
  consistent row := by
    split
    · exact fun _ _ => nofun
    · exact fun consistent => consistent

/-- The row of a token that was rotated. -/
def replaceRow (id replacement : String) (now : Int) : Write where
  apply row :=
    if row.id = id then { row with revokedAt := some now, replacedBy := some replacement, lastUsedAt := some now } else row
  id row := by split <;> rfl
  userId row := by split <;> rfl
  tokenHash row := by split <;> rfl
  familyId row := by split <;> rfl
  revoked row := by
    split
    · nofun
    · exact fun unrevoked => unrevoked
  consistent row := by
    split
    · exact fun _ _ => nofun
    · exact fun consistent => consistent

theorem revokeWhere_unrevoked {selected : AuthSession → Bool} {now : Int} {row : AuthSession} :
    ((revokeWhere selected now).apply row).Unrevoked ↔ row.Unrevoked ∧ selected row = false := by
  simp only [revokeWhere]
  split
  · next both => exact ⟨nofun, fun h => absurd (both.1.symm.trans h.2) (by decide)⟩
  · next not =>
    refine ⟨fun unrevoked => ⟨unrevoked, ?_⟩, And.left⟩
    cases chosen : selected row with
    | true => exact absurd ⟨chosen, unrevoked⟩ not
    | false => rfl

theorem revokeRow_unrevoked {id : String} {now : Int} {row : AuthSession} :
    ((revokeRow id now).apply row).Unrevoked ↔ row.Unrevoked ∧ row.id ≠ id := by
  simp only [revokeRow]
  split
  · next same => exact ⟨nofun, fun h => absurd same h.2⟩
  · next differs => exact ⟨fun unrevoked => ⟨unrevoked, differs⟩, And.left⟩

theorem replaceRow_unrevoked {id replacement : String} {now : Int} {row : AuthSession} :
    ((replaceRow id replacement now).apply row).Unrevoked ↔ row.Unrevoked ∧ row.id ≠ id := by
  simp only [replaceRow]
  split
  · next same => exact ⟨nofun, fun h => absurd same h.2⟩
  · next differs => exact ⟨fun unrevoked => ⟨unrevoked, differs⟩, And.left⟩

end RCAA.Security
