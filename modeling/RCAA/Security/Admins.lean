import RCAA.Library.ReadCommitted
import RCAA.Library.Runs
import RCAA.Security.Models

/-! Concurrent updates of the users of one merchant by its admins, statement by statement:
the requester and the user are read, the active admins are counted, the row is updated
and committed. The guard takes no lock, so what it counted may be gone at the commit. -/

namespace RCAA.Security.Admins

open ReadCommitted (Table)

/-! ## Requests -/

structure UpdateRequest where
  /-- The user and the role of the token the request comes with. -/
  actorId : String
  actorRole : String := "ADMIN"
  userId : String
  role : Option String := none
  isActive : Option Bool := none

/-- The columns an UPDATE sets: those that change. -/
structure Change where
  role : Option String := none
  isActive : Option Bool := none
deriving DecidableEq

def Change.apply (change : Change) (user : User) : User :=
  { user with role := change.role.getD user.role, isActive := change.isActive.getD user.isActive }

def Change.and (first second : Change) : Change := ⟨second.role <|> first.role, second.isActive <|> first.isActive⟩

/-- The UPDATE of a row. -/
def updateRow (id : String) (change : Change) (rows : List User) : List User :=
  KeyedRows.update User.id id change.apply rows

abbrev ActiveAdmin (merchantId : String) (user : User) : Prop :=
  user.merchantId = merchantId ∧ user.role = "ADMIN" ∧ user.isActive = true

/-- `select(func.count(User.id))` of the active admins. -/
def countAdmins (merchantId : String) (rows : List User) : Nat := (rows.filter fun user => ActiveAdmin merchantId user).length

def roles : List String := ["ADMIN", "OPS", "ANALYST", "VIEWER"]

/-- Where a request is, with what it has read. -/
inductive Phase where
  /-- Before `get_current_user` and `require_roles`. -/
  | authenticating
  /-- Before the select of the user. -/
  | selecting (current : User)
  /-- Before the change of the role. -/
  | changingRole (current user : User)
  /-- Before the change of the activity, with the role to be flushed. -/
  | changingActive (current user : User) (pending : Change)
  /-- Before the flush the count of the second guard causes. -/
  | autoflushing (user : User) (active : Bool) (pending : Change)
  /-- Before the count of the second guard. -/
  | counting (user : User) (active : Bool) (flushed : Change)
  /-- Before the flush of what is pending. -/
  | flushing (id : String) (flushed pending : Change)
  | committing (id : String) (change : Change)
  | committed
  | failed (failure : Failure)

/-- The next statement is the commit. -/
def Phase.commits : Phase → Bool
  | .committing _ _ => true
  | _ => false

section Requests
variable {τ : Type}

/-- The admins' requests to one merchant. -/
structure Desk (τ : Type) where
  merchantId : String
  requests : τ → UpdateRequest

structure State (τ : Type) where
  table : Table τ String User
  phase : τ → Phase := fun _ => .authenticating

variable [DecidableEq τ]

def State.enter (s : State τ) (t : τ) (phase : Phase) : State τ := { s with phase := Function.update s.phase t phase }

/-- The request ends with an exception, and its transaction is rolled back. -/
def State.fail (s : State τ) (t : τ) (failure : Failure) : State τ :=
  { s with table := s.table.rollback t }.enter t (.failed failure)

section Enter
variable {s : State τ} {t other : τ} {phase : Phase}

@[simp] theorem State.enter_table : (s.enter t phase).table = s.table := rfl
@[simp] theorem State.enter_phase : (s.enter t phase).phase t = phase := Function.update_self ..

theorem State.enter_phase_of_ne (differs : other ≠ t) : (s.enter t phase).phase other = s.phase other :=
  Function.update_of_ne differs ..

end Enter

/-! ## Statements -/

section Step
variable [Platform] (desk : Desk τ)

/-- `_last_admin_guard` where it counts. -/
def lastAdmin (s : State τ) (t : τ) (user : User) : Bool :=
  user.role = "ADMIN" && user.isActive && countAdmins desk.merchantId (s.table.visible t) ≤ 1

def retainFailure : Failure := .http 400 "Merchant must retain an active ADMIN"

/-- `get_current_user` and `require_roles("ADMIN")`. -/
def authenticate (s : State τ) (t : τ) : State τ :=
  match (s.table.visible t).find? fun user => user.id = (desk.requests t).actorId with
  | none => s.fail t (authError "Authentication required")
  | some current =>
    if !current.isActive ∨ current.merchantId ≠ desk.merchantId ∨ current.role ≠ (desk.requests t).actorRole then
      s.fail t (authError "Authentication required")
    else if current.role ≠ "ADMIN" then s.fail t (.http 403 "Insufficient permissions")
    else s.enter t (.selecting current)

/-- The select of the user; the requester's own row is the object read before. -/
def select (s : State τ) (t : τ) (current : User) : State τ :=
  match (s.table.visible t).find? fun user => user.id = (desk.requests t).userId ∧ user.merchantId = desk.merchantId with
  | none => s.fail t (.http 404 "User not found")
  | some user => s.enter t (.changingRole current (if user.id = current.id then current else user))

def changeRole (s : State τ) (t : τ) (current user : User) : State τ :=
  match (desk.requests t).role with
  | none => s.enter t (.changingActive current user {})
  | some text =>
    let role := upper text
    if role ∉ roles then s.fail t (.http 422 "Invalid role")
    else if user.id = current.id ∧ role ≠ "ADMIN" then s.fail t (.http 400 "Admin cannot demote themselves")
    else if ¬(role = "ADMIN" ∧ user.isActive) ∧ lastAdmin desk s t user then s.fail t retainFailure
    else s.enter t (.changingActive current { user with role } ⟨if role = user.role then none else some role, none⟩)

/-- What of the activity is to be flushed. -/
def activity (user : User) (active : Bool) : Change := ⟨none, if active = user.isActive then none else some active⟩

def changeActive (s : State τ) (t : τ) (current user : User) (pending : Change) : State τ :=
  match (desk.requests t).isActive with
  | none => s.enter t (.flushing user.id {} pending)
  | some active =>
    if user.id = current.id ∧ !active then s.fail t (.http 400 "Admin cannot disable themselves")
    else if user.role = "ADMIN" ∧ active then s.enter t (.flushing user.id {} (pending.and (activity user active)))
    else if pending = {} then s.enter t (.counting user active {})
    else s.enter t (.autoflushing user active pending)

/-- An UPDATE, once the row is free. -/
def update (s : State τ) (t : τ) (id : String) (change : Change) (next : Phase) : State τ :=
  if s.table.free t id then { s with table := (s.table.lock t id).write t (updateRow id change) }.enter t next else s

/-- The statement a request executes next; one that has to wait changes nothing. -/
def execute (s : State τ) (t : τ) : State τ :=
  match s.phase t with
  | .authenticating => authenticate desk s t
  | .selecting current => select desk s t current
  | .changingRole current user => changeRole desk s t current user
  | .changingActive current user pending => changeActive desk s t current user pending
  | .autoflushing user active pending => update s t user.id pending (.counting user active pending)
  | .counting user active flushed =>
    if lastAdmin desk s t user then s.fail t retainFailure else s.enter t (.flushing user.id flushed (activity user active))
  | .flushing id flushed pending => update s t id pending (.committing id (flushed.and pending))
  | .committing _ _ => { s with table := s.table.commit t }.enter t .committed
  | .committed | .failed _ => s

end Step

/-! ## What a step does -/

/-- A step stays, moves on, ends with an exception, updates a free row, or commits. -/
inductive Moves (s : State τ) (t : τ) : State τ → Prop
  | stays : Moves s t s
  | enters (phase : Phase) : Moves s t (s.enter t phase)
  | fails (failure : Failure) : Moves s t (s.fail t failure)
  | updates {id : String} (change : Change) (next : Phase) (free : s.table.free t id = true) :
      Moves s t ({ s with table := (s.table.lock t id).write t (updateRow id change) }.enter t next)
  | commits {id : String} {change : Change} (phase : s.phase t = .committing id change) :
      Moves s t ({ s with table := s.table.commit t }.enter t .committed)

section Moves
variable [Platform] (desk : Desk τ) (s : State τ) (t : τ)

omit [Platform] in
theorem update_moves (id : String) (change : Change) (next : Phase) : Moves s t (update s t id change next) := by
  unfold update
  split
  · next free => exact .updates change next free
  · exact .stays

theorem execute_moves : Moves s t (execute desk s t) := by
  unfold execute
  cases phase : s.phase t with
  | authenticating =>
    simp only [authenticate]
    split
    · exact .fails _
    · split
      · exact .fails _
      · split
        · exact .fails _
        · exact .enters _
  | selecting current =>
    simp only [select]
    split
    · exact .fails _
    · exact .enters _
  | changingRole current user =>
    simp only [changeRole]
    split
    · exact .enters _
    · split
      · exact .fails _
      · split
        · exact .fails _
        · split
          · exact .fails _
          · exact .enters _
  | changingActive current user pending =>
    simp only [changeActive]
    split
    · exact .enters _
    · split
      · exact .fails _
      · split
        · exact .enters _
        · split
          · exact .enters _
          · exact .enters _
  | autoflushing user active pending => exact update_moves s t _ _ _
  | counting user active flushed =>
    simp only
    split
    · exact .fails _
    · exact .enters _
  | flushing id flushed pending => exact update_moves s t _ _ _
  | committing id change => exact .commits phase
  | committed => exact .stays
  | failed failure => exact .stays

variable {s t}

omit [Platform] in
theorem Moves.phase_of_ne {after : State τ} (moves : Moves s t after) {other : τ} (differs : other ≠ t) :
    after.phase other = s.phase other := by
  cases moves with
  | stays => rfl
  | enters phase => exact State.enter_phase_of_ne differs
  | fails failure => exact State.enter_phase_of_ne differs
  | updates change next free => exact State.enter_phase_of_ne differs
  | commits phase => exact State.enter_phase_of_ne differs

omit [Platform] in
theorem Moves.writes_of_ne {after : State τ} (moves : Moves s t after) {other : τ} (differs : other ≠ t) :
    after.table.writes other = s.table.writes other := by
  cases moves with
  | stays => rfl
  | enters phase => rfl
  | fails failure => exact Table.finish_writes_of_ne differs
  | updates change next free => exact Table.write_writes_of_ne differs
  | commits phase => exact Table.finish_writes_of_ne differs

end Moves

/-! ## Invariants -/

theorem updateRow_nothing (userId : String) : updateRow userId {} = id := by
  funext rows
  have same : (fun user : User => if user.id = userId then Change.apply {} user else user) = id := by
    funext user
    split <;> rfl
  simp only [updateRow, KeyedRows.update, same, List.map_id, id_eq]

theorem updateRow_and (userId : String) (first second : Change) :
    updateRow userId second ∘ updateRow userId first = updateRow userId (first.and second) := by
  funext rows
  simp only [updateRow, KeyedRows.update, Function.comp_apply, List.map_map]
  refine List.map_congr_left fun user _ => ?_
  by_cases same : user.id = userId
  · have changed : (first.apply user).id = userId := same
    simp only [Function.comp_apply, if_pos same, if_pos changed]
    obtain ⟨role, active⟩ := second
    cases role <;> cases active <;> simp [Change.apply, Change.and]
  · simp only [Function.comp_apply, if_neg same]

theorem Change.and_nothing (change : Change) : Change.and {} change = change := by
  obtain ⟨role, active⟩ := change
  cases role <;> cases active <;> rfl

def HasAdmin (merchantId : String) (rows : List User) : Prop := ∃ user ∈ rows, ActiveAdmin merchantId user

section Invariant
variable (desk : Desk τ)

/-- The user read for the token of a request. -/
structure Requester (t : τ) (current : User) : Prop where
  id : current.id = (desk.requests t).actorId
  role : current.role = "ADMIN"
  active : current.isActive = true

/-- What a request has written and has still to write. Of its own row it changes nothing. -/
def Acts (s : State τ) (t : τ) : Prop :=
  match s.phase t with
  | .authenticating | .committed | .failed _ => s.table.writes t = id
  | .selecting current => s.table.writes t = id ∧ Requester desk t current
  | .changingRole current user => s.table.writes t = id ∧ Requester desk t current ∧ (user.id = current.id → user = current)
  | .changingActive current user pending =>
    s.table.writes t = id ∧ Requester desk t current ∧ (user.id = current.id → user = current ∧ pending = {})
  | .autoflushing user _ _ => s.table.writes t = id ∧ user.id ≠ (desk.requests t).actorId
  | .counting user _ flushed => s.table.writes t = updateRow user.id flushed ∧ user.id ≠ (desk.requests t).actorId
  | .flushing userId flushed pending => s.table.writes t = updateRow userId flushed ∧
    (userId = (desk.requests t).actorId → flushed = {} ∧ pending = {})
  | .committing userId change => s.table.writes t = updateRow userId change ∧
    (userId = (desk.requests t).actorId → change = {})

structure Invariant (s : State τ) : Prop where
  ids : (s.table.committed.map User.id).Nodup
  acts : ∀ t, Acts desk s t

variable {desk} {s : State τ} {t : τ}

theorem acts_fail {failure : Failure} : Acts desk (s.fail t failure) t := by
  simp [Acts, State.fail, Table.rollback]

omit [DecidableEq τ] in
theorem acts_congr {after : State τ} {other : τ} (phase : after.phase other = s.phase other)
    (writes : after.table.writes other = s.table.writes other) (acts : Acts desk s other) : Acts desk after other := by
  unfold Acts at acts ⊢
  rw [phase, writes]
  exact acts

/-- An update composes with what was written before, or waits. -/
theorem acts_update {userId : String} {flushed change : Change} {next : Phase} (acts : Acts desk s t)
    (written : s.table.writes t = updateRow userId flushed)
    (moved : ∀ after : State τ, after.phase t = next → after.table.writes t = updateRow userId (flushed.and change) →
      Acts desk after t) :
    Acts desk (update s t userId change next) t := by
  unfold update
  split
  · refine moved _ State.enter_phase ?_
    rw [State.enter_table, Table.write_writes, Table.lock_writes, written, updateRow_and]
  · exact acts

variable [Platform]

omit [Platform] in
theorem acts_authenticate (writes : s.table.writes t = id) : Acts desk (authenticate desk s t) t := by
  simp only [authenticate]
  split
  · exact acts_fail
  · next current found =>
    split
    · exact acts_fail
    · next valid =>
      split
      · exact acts_fail
      · next admin =>
        have named : current.id = (desk.requests t).actorId := by simpa using List.find?_some found
        have active : current.isActive = true := by
          by_contra inactive
          exact valid (.inl (by simpa using inactive))
        simp only [Acts, State.enter_phase, State.enter_table]
        exact ⟨writes, named, not_not.mp admin, active⟩

omit [Platform] in
theorem acts_select {current : User} (writes : s.table.writes t = id) (requester : Requester desk t current) :
    Acts desk (select desk s t current) t := by
  simp only [select]
  split
  · exact acts_fail
  · simp only [Acts, State.enter_phase, State.enter_table]
    refine ⟨writes, requester, fun same => ?_⟩
    split
    · rfl
    · next other => exact absurd (by rwa [if_neg other] at same) other

/-- An admin's own role stays. -/
theorem acts_changeRole {current user : User} (writes : s.table.writes t = id) (requester : Requester desk t current)
    (own : user.id = current.id → user = current) : Acts desk (changeRole desk s t current user) t := by
  simp only [changeRole]
  split
  · simp only [Acts, State.enter_phase, State.enter_table]
    exact ⟨writes, requester, fun same => ⟨own same, trivial⟩⟩
  · split
    · exact acts_fail
    · split
      · exact acts_fail
      · next text _ _ demotes =>
        split
        · exact acts_fail
        · simp only [Acts, State.enter_phase, State.enter_table]
          refine ⟨writes, requester, fun same => ?_⟩
          have admin : upper text = "ADMIN" := by
            by_contra other
            exact demotes ⟨same, other⟩
          obtain rfl := own same
          rw [admin, ← requester.role]
          exact ⟨rfl, by simp⟩

omit [Platform] in
/-- An admin's own activity stays. -/
theorem acts_changeActive {current user : User} {pending : Change} (writes : s.table.writes t = id)
    (requester : Requester desk t current) (own : user.id = current.id → user = current ∧ pending = {}) :
    Acts desk (changeActive desk s t current user pending) t := by
  simp only [changeActive]
  split
  · simp only [Acts, State.enter_phase, State.enter_table]
    refine ⟨by rw [writes, updateRow_nothing], fun same => ⟨trivial, (own (same.trans requester.id.symm)).2⟩⟩
  · next active _ =>
    split
    · exact acts_fail
    · next disables =>
      split
      · simp only [Acts, State.enter_phase, State.enter_table]
        refine ⟨by rw [writes, updateRow_nothing], fun same => ⟨trivial, ?_⟩⟩
        next stays =>
        obtain ⟨rfl, rfl⟩ := own (same.trans requester.id.symm)
        simp [activity, stays.2, requester.active, Change.and]
      · next leaves =>
        have other : user.id ≠ (desk.requests t).actorId := by
          intro same
          obtain ⟨rfl, _⟩ := own (same.trans requester.id.symm)
          cases active with
          | true => exact leaves ⟨requester.role, rfl⟩
          | false => exact disables ⟨rfl, rfl⟩
        split
        · simp only [Acts, State.enter_phase, State.enter_table]
          exact ⟨by rw [writes, updateRow_nothing], other⟩
        · simp only [Acts, State.enter_phase, State.enter_table]
          exact ⟨writes, other⟩

theorem acts_execute (acts : Acts desk s t) : Acts desk (execute desk s t) t := by
  have before := acts
  unfold Acts at acts
  unfold execute
  cases phase : s.phase t with
  | authenticating =>
    rw [phase] at acts
    exact acts_authenticate acts
  | selecting current =>
    rw [phase] at acts
    exact acts_select acts.1 acts.2
  | changingRole current user =>
    rw [phase] at acts
    exact acts_changeRole acts.1 acts.2.1 acts.2.2
  | changingActive current user pending =>
    rw [phase] at acts
    exact acts_changeActive acts.1 acts.2.1 acts.2.2
  | autoflushing user active pending =>
    rw [phase] at acts
    have nothing : s.table.writes t = updateRow user.id {} := by rw [acts.1, updateRow_nothing]
    refine acts_update before nothing fun after phase writes => ?_
    simp only [Acts, phase]
    exact ⟨by rw [writes, Change.and_nothing], acts.2⟩
  | counting user active flushed =>
    rw [phase] at acts
    simp only
    split
    · exact acts_fail
    · simp only [Acts, State.enter_phase, State.enter_table]
      exact ⟨acts.1, fun same => absurd same acts.2⟩
  | flushing userId flushed pending =>
    rw [phase] at acts
    refine acts_update before acts.1 fun after phase writes => ?_
    simp only [Acts, phase]
    refine ⟨writes, fun same => ?_⟩
    obtain ⟨rfl, rfl⟩ := acts.2 same
    rfl
  | committing userId change => simp [Acts, Table.commit]
  | committed => exact before
  | failed failure => exact before

theorem invariant_execute (invariant : Invariant desk s) : Invariant desk (execute desk s t) := by
  have moves := execute_moves desk s t
  refine ⟨?_, fun other => ?_⟩
  · generalize execute desk s t = after at moves ⊢
    have kept := invariant.ids
    cases moves with
    | stays => exact kept
    | enters phase => exact kept
    | fails failure => exact kept
    | updates change next free => exact kept
    | @commits userId change phase =>
      have acts := invariant.acts t
      rw [Acts, phase] at acts
      have fixed : ∀ user : User, (change.apply user).id = user.id := fun _ => rfl
      simpa only [State.enter_table, Table.commit, Table.finish_committed, Table.visible, acts.1, updateRow,
        KeyedRows.map_update User.id fixed] using kept
  · by_cases same : other = t
    · rw [same]
      exact acts_execute (invariant.acts t)
    · exact acts_congr (moves.phase_of_ne same) (moves.writes_of_ne same) (invariant.acts other)

/-- A step that is no commit leaves the committed rows; a commit changes one of them. -/
theorem committed_cases (invariant : Invariant desk s) :
    (execute desk s t).table.committed = s.table.committed ∧ (∀ userId change, s.phase t ≠ .committing userId change) ∨
      ∃ userId change, s.phase t = .committing userId change ∧ (userId = (desk.requests t).actorId → change = {}) ∧
        (execute desk s t).table.committed = updateRow userId change s.table.committed := by
  by_cases committing : ∃ userId change, s.phase t = .committing userId change
  · obtain ⟨userId, change, phase⟩ := committing
    have acts := invariant.acts t
    rw [Acts, phase] at acts
    refine .inr ⟨userId, change, phase, acts.2, ?_⟩
    simp only [execute, phase, State.enter_table, Table.commit, Table.finish_committed, Table.visible, acts.1]
  · simp only [not_exists] at committing
    refine .inl ⟨?_, committing⟩
    have moves := execute_moves desk s t
    generalize execute desk s t = after at moves ⊢
    cases moves with
    | commits phase => exact absurd phase (committing _ _)
    | _ => rfl

end Invariant

/-! ## Runs -/

section Runs
variable (desk : Desk τ)

def Good (s : State τ) : Prop := HasAdmin desk.merchantId s.table.committed

/-- The next step of the request commits the demotion or the disabling of the user who is
the only active admin by then. -/
def TakesLast (s : State τ) (t : τ) : Prop :=
  match s.phase t with
  | .committing userId change => ∃ user ∈ s.table.committed, user.id = userId ∧ ActiveAdmin desk.merchantId user ∧
      ¬ActiveAdmin desk.merchantId (change.apply user) ∧
      ∀ other ∈ s.table.committed, ActiveAdmin desk.merchantId other → other.id = userId
  | _ => False

/-- A request that commits comes from a user who is an active admin still. -/
def RequesterStands (s : State τ) (t : τ) : Prop :=
  (s.phase t).commits = true →
    ∃ user ∈ s.table.committed, user.id = (desk.requests t).actorId ∧ ActiveAdmin desk.merchantId user

instance (s : State τ) (t : τ) : Decidable (RequesterStands desk s t) := inferInstanceAs (Decidable (_ → _))

def initial (users : Users) : State τ where
  table := { committed := users.rows }

variable {desk} [Platform] {s : State τ} {t : τ}

theorem good_execute_iff (invariant : Invariant desk s) (good : Good desk s) :
    Good desk (execute desk s t) ↔ ¬TakesLast desk s t := by
  rcases committed_cases invariant with ⟨same, idle⟩ | ⟨userId, change, phase, _, rows⟩
  · have idle' : ¬TakesLast desk s t := by
      unfold TakesLast
      split
      · next phase => exact absurd phase (idle _ _)
      · exact id
    exact iff_of_true (by unfold Good; rwa [same]) idle'
  · unfold Good HasAdmin TakesLast
    rw [rows, phase]
    constructor
    · rintro ⟨after, member, admin⟩ ⟨user, inside, named, _, leaves, last⟩
      rcases (KeyedRows.mem_update User.id after).mp member with ⟨old, other⟩ | ⟨stored, inside', named', rfl⟩
      · exact other (last after old admin)
      · have same : stored = user :=
          KeyedRows.faithful_of_nodup User.id invariant.ids stored inside' user inside (named'.trans named.symm)
        exact leaves (same ▸ admin)
    · intro spared
      obtain ⟨admin, member, active⟩ := good
      by_cases target : admin.id = userId
      · by_cases stays : ActiveAdmin desk.merchantId (change.apply admin)
        · exact ⟨_, (KeyedRows.mem_update User.id _).mpr (.inr ⟨admin, member, target, rfl⟩), stays⟩
        · by_contra none
          refine spared ⟨admin, member, target, active, stays, fun other inside active' => ?_⟩
          by_contra apart
          exact none ⟨other, (KeyedRows.mem_update User.id _).mpr (.inl ⟨inside, apart⟩), active'⟩
      · exact ⟨admin, (KeyedRows.mem_update User.id _).mpr (.inl ⟨member, target⟩), active⟩

/-- A request whose requester stands leaves him: it changes nothing of its own row. -/
theorem good_of_requester (invariant : Invariant desk s) (good : Good desk s) (stands : RequesterStands desk s t) :
    Good desk (execute desk s t) := by
  rcases committed_cases invariant with ⟨same, _⟩ | ⟨userId, change, phase, own, rows⟩
  · unfold Good
    rwa [same]
  · obtain ⟨user, member, named, admin⟩ := stands (by rw [phase]; rfl)
    unfold Good HasAdmin
    rw [rows]
    by_cases target : user.id = userId
    · have nothing := own (target.symm.trans named)
      refine ⟨_, (KeyedRows.mem_update User.id _).mpr (.inr ⟨user, member, target, rfl⟩), ?_⟩
      rw [nothing]
      exact admin
    · exact ⟨user, (KeyedRows.mem_update User.id _).mpr (.inl ⟨member, target⟩), admin⟩

omit [DecidableEq τ] [Platform] in
theorem invariant_initial (users : Users) : Invariant desk (initial users) := ⟨users.ids, fun _ => rfl⟩

/-- Over every interleaving of updates the merchant keeps an active admin exactly if no
request takes the last one, as none does whose requester is an active admin at its commit. -/
theorem active_admin_kept_iff {users : Users} (has : HasAdmin desk.merchantId users.rows) (schedule : List τ) :
    (Runs.Throughout (execute desk) (Good desk) (initial users) schedule ↔
      Runs.Along (execute desk) (fun s t => ¬TakesLast desk s t) (initial users) schedule) ∧
    (Runs.Along (execute desk) (RequesterStands desk) (initial users) schedule →
      Runs.Throughout (execute desk) (Good desk) (initial users) schedule) := by
  refine ⟨Runs.throughout_iff (fun s t => invariant_execute) (fun s t => good_execute_iff) (invariant_initial users) has schedule,
    fun stands before first => ?_⟩
  have both : ∀ (s : State τ) (t : τ), Invariant desk s ∧ Good desk s → RequesterStands desk s t →
      Invariant desk (execute desk s t) ∧ Good desk (execute desk s t) :=
    fun s t holds stands => ⟨invariant_execute holds.1, good_of_requester holds.1 holds.2 stands⟩
  exact (Runs.invariant_along both ⟨invariant_initial users, has⟩ (stands.take first)).2

end Runs
end Requests

section Examples
open PlainText

def adminUser (id : String) : User where
  id
  email := id
  passwordHash := ""
  merchantId := "m1"
  role := "ADMIN"

def twoAdmins : Users where
  rows := [adminUser "a1", adminUser "a2"]

/-- Each of two admins disables the other. -/
def rivals : Desk Bool where
  merchantId := "m1"
  requests first := if first then ⟨"a1", "ADMIN", "a2", none, some false⟩ else ⟨"a2", "ADMIN", "a1", none, some false⟩

theorem active_admin_kept_inTurn :
    Runs.Throughout (execute rivals) (Good rivals) (initial twoAdmins) (List.replicate 7 true ++ List.replicate 7 false) :=
  (active_admin_kept_iff ⟨adminUser "a1", by decide, by decide⟩ _).2 (by decide)

/-- Both count two active admins before either commits. -/
theorem rivals_leave_no_admin : ¬∀ (desk : Desk Bool) (users : Users) (schedule : List Bool),
    HasAdmin desk.merchantId users.rows → Runs.Throughout (execute desk) (Good desk) (initial users) schedule := by
  intro law
  have kept := law rivals twoAdmins ((List.replicate 7 [true, false]).flatten) ⟨adminUser "a1", by decide, by decide⟩ _
    (List.prefix_refl _)
  obtain ⟨user, member, _, _, active⟩ := kept
  have none : ∀ user ∈ (Runs.run (execute rivals) (initial twoAdmins) ((List.replicate 7 [true, false]).flatten)).table.committed,
      user.isActive = false := by decide
  rw [none user member] at active
  cases active

end Examples
end RCAA.Security.Admins
