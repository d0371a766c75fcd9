import RCAA.Security.Families
import RCAA.Library.ReadCommitted
import RCAA.System

/-! A rotation of a family's current token and a replay of an older one, statement by
statement. Both run `rotate_refresh_token`. The select locks the row of the token
presented; the update that revokes a family goes through the rows it saw when it began,
waits for the lock of each and tests it again. -/

namespace RCAA.Security

open ReadCommitted (Table)

inductive Party where
  | rotation | replay
deriving DecidableEq

theorem Party.rotation_ne : Party.rotation ≠ .replay := nofun
theorem Party.replay_ne : Party.replay ≠ .rotation := nofun

/-- Where a transaction is. -/
inductive Phase where
  /-- Before `SELECT ... FOR UPDATE`. -/
  | presenting
  | loaded (row : AuthSession) (now : Int)
  | inserted (row replacement : AuthSession) (now : Int)
  /-- In the update of a family, with the rows still to come. -/
  | revoking (familyId : String) (now : Int) (todo : List String)
  /-- Before the commit, with the session that was inserted. -/
  | ready (replacement : Option AuthSession)
  | committed
  | failed

/-- The two requests and the sessions they meet: one is the family's only session that is
not revoked, the other one of the same family that is. The id of a family is random and
never empty. -/
structure Encounter where
  users : List User
  table : Sessions
  handed : Handed table
  current : AuthSession
  older : AuthSession
  currentStored : current ∈ table.rows
  olderStored : older ∈ table.rows
  family : older.familyId = current.familyId
  unrevoked : current.Unrevoked
  revoked : ¬older.Unrevoked
  familyNamed : current.familyId ≠ ""
  draws : Party → SessionDraws
  clientIp : Party → Option String := fun _ => none
  userAgent : Party → Option String := fun _ => none

/-- The hash of the token a party presents. -/
def Encounter.tokenHash (e : Encounter) : Party → String
  | .rotation => e.current.tokenHash
  | .replay => e.older.tokenHash

structure State where
  table : Table Party String AuthSession
  phase : Party → Phase := fun _ => .presenting

def State.enter (s : State) (party : Party) (phase : Phase) : State :=
  { s with phase := Function.update s.phase party phase }

section Enter
variable {s : State} {party other : Party} {phase : Phase}

@[simp] theorem State.enter_table : (s.enter party phase).table = s.table := rfl
@[simp] theorem State.enter_phase : (s.enter party phase).phase party = phase := Function.update_self ..

theorem State.enter_phase_of_ne (differs : other ≠ party) : (s.enter party phase).phase other = s.phase other :=
  Function.update_of_ne differs ..

end Enter

def Encounter.initial (e : Encounter) : State where
  table := { committed := e.table.rows }

/-- The sessions of a family that are not revoked. -/
def liveIds (familyId : String) (rows : List AuthSession) : List String :=
  (rows.filter fun row => row.familyId = familyId ∧ row.revokedAt = none).map (·.id)

/-- The update of a family on one of its rows. -/
def revokeOne (id familyId : String) (now : Int) : Write :=
  revokeWhere (fun row => row.id = id ∧ row.familyId = familyId) now

section Step
variable [AuthRuntime] (settings : AuthSettings) (e : Encounter)

def present (s : State) (party : Party) (now : Int) : State :=
  match (s.table.visible party).find? fun row => row.tokenHash = e.tokenHash party with
  | none => { s with table := s.table.rollback party }.enter party .failed
  | some row =>
    if s.table.free party row.id then { s with table := s.table.lock party row.id }.enter party (.loaded row now) else s

/-- The flush of the new session; a key that is taken ends the transaction. -/
def insertSession (s : State) (party : Party) (row : AuthSession) (now : Int) (user : User) : State :=
  match newSession settings (e.draws party) now user (e.clientIp party) (e.userAgent party)
      (familyOf (e.draws party) e.table (some row.familyId)) with
  | .error _ => { s with table := s.table.rollback party }.enter party .failed
  | .ok new =>
    if (s.table.visible party).any fun row => row.id = new.id || row.tokenHash = new.tokenHash then
      { s with table := s.table.rollback party }.enter party .failed
    else { s with table := s.table.write party (· ++ [new]) }.enter party (.inserted row new now)

def decideOn (s : State) (party : Party) (row : AuthSession) (now : Int) : State :=
  match presented e.users now row with
  | .replayed => s.enter party (.revoking row.familyId now (liveIds row.familyId (s.table.visible party)))
  | .expired | .refused =>
    { s with table := s.table.write party (List.map (revokeRow row.id now).apply) }.enter party (.ready none)
  | .accepted user => insertSession settings e s party row now user

/-- The statement a party executes next; one that has to wait changes nothing. -/
def execute (s : State) (party : Party) (now : Int) : State :=
  match s.phase party with
  | .presenting => present e s party now
  | .loaded row now => decideOn settings e s party row now
  | .inserted row new now =>
    { s with table := s.table.write party (List.map (replaceRow row.id new.id now).apply) }.enter party (.ready (some new))
  | .revoking _ _ [] => s.enter party (.ready none)
  | .revoking familyId now (id :: todo) =>
    if s.table.free party id then
      { s with table := (s.table.lock party id).write party (List.map (revokeOne id familyId now).apply) }.enter party
        (.revoking familyId now todo)
    else s
  | .ready _ => { s with table := s.table.commit party }.enter party .committed
  | .committed | .failed => s

/-- A party moves; `now` is what it reads when it loads its row. -/
def interleave (s : State) (a : Party × Int) : State := execute settings e s a.1 a.2

end Step

/-- The next statement commits a session that was inserted. -/
def Phase.handsOn : Phase → Bool
  | .ready (some _) => true
  | _ => false

def Phase.inUpdate : Phase → Bool
  | .revoking _ _ _ => true
  | _ => false

/-- The rotation commits its new session while the replay is in its update. -/
def Overtakes (s : State) (a : Party × Int) : Prop :=
  a.1 = .rotation ∧ (s.phase .rotation).handsOn = true ∧ (s.phase .replay).inUpdate = true

instance (s : State) (a : Party × Int) : Decidable (Overtakes s a) := inferInstanceAs (Decidable (_ ∧ _))

/-! ## Live sessions -/

theorem mem_liveIds {familyId id : String} {rows : List AuthSession} :
    id ∈ liveIds familyId rows ↔ ∃ row ∈ rows, row.familyId = familyId ∧ row.Unrevoked ∧ row.id = id := by
  simp [liveIds, and_assoc]

theorem liveIds_eq_nil_iff {familyId : String} {rows : List AuthSession} :
    liveIds familyId rows = [] ↔ ∀ row ∈ rows, row.familyId = familyId → ¬row.Unrevoked := by
  simp [liveIds, List.filter_eq_nil_iff]

theorem revokeOne_unrevoked {id familyId : String} {now : Int} {row : AuthSession} :
    ((revokeOne id familyId now).apply row).Unrevoked ↔ row.Unrevoked ∧ ¬(row.id = id ∧ row.familyId = familyId) := by
  rw [revokeOne, revokeWhere_unrevoked, decide_eq_false_iff_not]

/-- The update of a family on one row leaves the other live sessions of the family. -/
theorem mem_liveIds_revokeOne {id k familyId : String} {now : Int} {rows : List AuthSession} :
    k ∈ liveIds familyId (rows.map (revokeOne id familyId now).apply) ↔ k ∈ liveIds familyId rows ∧ k ≠ id := by
  simp only [mem_liveIds, List.mem_map]
  constructor
  · rintro ⟨_, ⟨row, member, rfl⟩, family, live, same⟩
    rw [Write.familyId] at family
    rw [Write.id] at same
    obtain ⟨before, spared⟩ := revokeOne_unrevoked.mp live
    exact ⟨⟨row, member, family, before, same⟩, fun equal => spared ⟨same.trans equal, family⟩⟩
  · rintro ⟨⟨row, member, family, live, rfl⟩, differs⟩
    exact ⟨_, ⟨row, member, rfl⟩, by rw [Write.familyId, family],
      revokeOne_unrevoked.mpr ⟨live, fun both => differs both.1⟩, by rw [Write.id]⟩

namespace Encounter
variable (e : Encounter)

/-- A row that may stand for the rotation: of the family, not revoked, its keys new. -/
structure New (new : AuthSession) : Prop where
  family : new.familyId = e.current.familyId
  unrevoked : new.Unrevoked
  fresh : ∀ row ∈ e.table.rows, row.id ≠ new.id ∧ row.tokenHash ≠ new.tokenHash

variable {e}

theorem live_initial {id : String} : id ∈ liveIds e.current.familyId e.table.rows ↔ id = e.current.id := by
  rw [mem_liveIds]
  constructor
  · rintro ⟨row, member, family, live, rfl⟩
    rw [e.handed.one row member e.current e.currentStored family live e.unrevoked]
  · rintro rfl
    exact ⟨e.current, e.currentStored, rfl, e.unrevoked, rfl⟩

theorem liveIds_initial : liveIds e.current.familyId e.table.rows = [e.current.id] := by
  have distinct : (liveIds e.current.familyId e.table.rows).Nodup := e.table.ids.sublist (List.filter_sublist.map _)
  refine List.perm_singleton.mp ((List.perm_ext_iff_of_nodup distinct (List.nodup_singleton _)).mpr fun id => ?_)
  rw [live_initial, List.mem_singleton]

theorem live_rotated {new : AuthSession} (isNew : e.New new) (now : Int) {id : String} :
    id ∈ liveIds e.current.familyId ((e.table.rows ++ [new]).map (replaceRow e.current.id new.id now).apply) ↔
      id = new.id := by
  simp only [mem_liveIds, List.mem_map]
  constructor
  · rintro ⟨_, ⟨row, member, rfl⟩, family, live, rfl⟩
    rw [Write.familyId] at family
    rw [Write.id]
    obtain ⟨before, differs⟩ := replaceRow_unrevoked.mp live
    rcases List.mem_append.mp member with old | added
    · exact absurd (live_initial.mp (mem_liveIds.mpr ⟨row, old, family, before, rfl⟩)) differs
    · rw [List.mem_singleton.mp added]
  · rintro rfl
    refine ⟨_, ⟨new, by simp, rfl⟩, by rw [Write.familyId, isNew.family], ?_, by rw [Write.id]⟩
    exact replaceRow_unrevoked.mpr ⟨isNew.unrevoked, (isNew.fresh e.current e.currentStored).1.symm⟩

theorem live_revoked (now : Int) : liveIds e.current.familyId (e.table.rows.map (revokeRow e.current.id now).apply) = [] := by
  rw [liveIds_eq_nil_iff]
  intro row member family live
  obtain ⟨x, stored, rfl⟩ := List.mem_map.mp member
  rw [Write.familyId] at family
  obtain ⟨before, differs⟩ := revokeRow_unrevoked.mp live
  exact differs (live_initial.mp (mem_liveIds.mpr ⟨x, stored, family, before, rfl⟩))

theorem live_replayed (now : Int) :
    liveIds e.current.familyId (e.table.rows.map (revokeOne e.current.id e.current.familyId now).apply) = [] := by
  rw [List.eq_nil_iff_forall_not_mem]
  intro id member
  obtain ⟨live, differs⟩ := mem_liveIds_revokeOne.mp member
  exact differs (live_initial.mp live)

end Encounter

/-! ## The states the two reach -/

/-- The token is stored, and its row is a revoked one of the family. -/
structure Spent (familyId tokenHash : String) (rows : List AuthSession) : Prop where
  stored : ∃ row ∈ rows, row.tokenHash = tokenHash
  spent : ∀ row ∈ rows, row.tokenHash = tokenHash → row.familyId = familyId ∧ ¬row.Unrevoked

theorem Spent.map {familyId tokenHash : String} {rows : List AuthSession} (spent : Spent familyId tokenHash rows)
    (w : Write) : Spent familyId tokenHash (rows.map w.apply) := by
  obtain ⟨row, member, same⟩ := spent.stored
  refine ⟨⟨_, List.mem_map_of_mem member, (w.tokenHash row).trans same⟩, fun row member same => ?_⟩
  obtain ⟨x, stored, rfl⟩ := List.mem_map.mp member
  obtain ⟨family, revoked⟩ := spent.spent x stored ((w.tokenHash x).symm.trans same)
  exact ⟨(w.familyId x).trans family, fun live => revoked (w.revoked x live)⟩

theorem Spent.snoc {familyId tokenHash : String} {rows : List AuthSession} (spent : Spent familyId tokenHash rows)
    {new : AuthSession} (fresh : ∀ row ∈ rows, row.tokenHash ≠ new.tokenHash) :
    Spent familyId tokenHash (rows ++ [new]) := by
  obtain ⟨row, member, same⟩ := spent.stored
  refine ⟨⟨row, List.mem_append_left _ member, same⟩, fun other inside equal => ?_⟩
  rcases List.mem_append.mp inside with old | added
  · exact spent.spent other old equal
  · rw [List.mem_singleton.mp added] at equal
    exact absurd (same.trans equal.symm) (fresh row member)

theorem Encounter.older_spent (e : Encounter) : Spent e.current.familyId e.older.tokenHash e.table.rows := by
  refine ⟨⟨e.older, e.olderStored, rfl⟩, fun row member same => ?_⟩
  rw [KeyedRows.faithful_of_nodup AuthSession.tokenHash e.table.tokens row member e.older e.olderStored same]
  exact ⟨e.family, e.revoked⟩

/-- Once the family is revoked the current token is spent as well. -/
theorem Encounter.current_spent (e : Encounter) (now : Int) : Spent e.current.familyId e.current.tokenHash
    (e.table.rows.map (revokeOne e.current.id e.current.familyId now).apply) := by
  refine ⟨⟨_, List.mem_map_of_mem e.currentStored, Write.tokenHash _ _⟩, fun row member same => ?_⟩
  obtain ⟨x, stored, rfl⟩ := List.mem_map.mp member
  rw [Write.tokenHash] at same
  rw [KeyedRows.faithful_of_nodup AuthSession.tokenHash e.table.tokens x stored e.current e.currentStored same,
    revokeOne_unrevoked]
  exact ⟨Write.familyId _ _, fun both => both.2 ⟨rfl, rfl⟩⟩

/-- The party has not begun an update, and will find its token spent. -/
structure Doomed (e : Encounter) (party : Party) (s : State) : Prop where
  writes : s.table.writes party = id
  spent : Spent e.current.familyId (e.tokenHash party) s.table.committed
  phase : s.phase party = .presenting ∨
    ∃ row now, s.phase party = .loaded row now ∧ row.familyId = e.current.familyId ∧ ¬row.Unrevoked

/-- The rotation has loaded its row, which it holds, and not committed. -/
inductive Rotating (e : Encounter) (s : State) : Prop where
  | loaded (now : Int) (phase : s.phase .rotation = .loaded e.current now) (writes : s.table.writes .rotation = id)
  | inserted (new : AuthSession) (now : Int) (isNew : e.New new) (phase : s.phase .rotation = .inserted e.current new now)
      (writes : s.table.writes .rotation = (· ++ [new]))
  | replaced (new : AuthSession) (now : Int) (isNew : e.New new) (phase : s.phase .rotation = .ready (some new))
      (writes : s.table.writes .rotation = fun rows => (rows ++ [new]).map (replaceRow e.current.id new.id now).apply)
  | revoked (now : Int) (phase : s.phase .rotation = .ready none)
      (writes : s.table.writes .rotation = List.map (revokeRow e.current.id now).apply)

/-- The rotation comes after the replay, which leaves nothing to revoke. -/
inductive Late (e : Encounter) (s : State) : Prop where
  | doomed (doomed : Doomed e .rotation s)
  | revoking (now : Int) (phase : s.phase .rotation = .revoking e.current.familyId now [])
      (writes : s.table.writes .rotation = id)
  | ready (phase : s.phase .rotation = .ready none) (writes : s.table.writes .rotation = id)
  | committed (phase : s.phase .rotation = .committed)

inductive Reached (e : Encounter) (s : State) : (overtaken : Bool) → Prop where
  | waiting (rows : s.table.committed = e.table.rows) (writes : s.table.writes .rotation = id)
      (rotation : s.phase .rotation = .presenting) (replay : Doomed e .replay s) : Reached e s false
  | begun (now : Int) (rows : s.table.committed = e.table.rows) (writes : s.table.writes .rotation = id)
      (own : s.table.writes .replay = id) (rotation : s.phase .rotation = .presenting)
      (replay : s.phase .replay = .revoking e.current.familyId now [e.current.id]) : Reached e s false
  | updated (now : Int) (rows : s.table.committed = e.table.rows) (writes : s.table.writes .rotation = id)
      (own : s.table.writes .replay = List.map (revokeOne e.current.id e.current.familyId now).apply)
      (held : s.table.holder e.current.id = some .replay) (rotation : s.phase .rotation = .presenting)
      (replay : (∃ now, s.phase .replay = .revoking e.current.familyId now []) ∨ s.phase .replay = .ready none) :
      Reached e s false
  | first (none : liveIds e.current.familyId s.table.committed = []) (rotation : Late e s)
      (replay : s.phase .replay = .committed) : Reached e s false
  | rotating (rows : s.table.committed = e.table.rows) (held : s.table.holder e.current.id = some .rotation)
      (rotation : Rotating e s) (replay : Doomed e .replay s) : Reached e s false
  | blocked (now : Int) (rows : s.table.committed = e.table.rows)
      (held : s.table.holder e.current.id = some .rotation) (rotation : Rotating e s) (own : s.table.writes .replay = id)
      (replay : s.phase .replay = .revoking e.current.familyId now [e.current.id]) : Reached e s false
  | rotated (rotation : s.phase .rotation = .committed) (replay : Doomed e .replay s) : Reached e s false
  | clearing (now : Int) (todo : List String) (rotation : s.phase .rotation = .committed)
      (replay : s.phase .replay = .revoking e.current.familyId now todo)
      (covered : ∀ id ∈ liveIds e.current.familyId (s.table.visible .replay), id ∈ todo) : Reached e s false
  | cleared (rotation : s.phase .rotation = .committed) (replay : s.phase .replay = .ready none)
      (none : liveIds e.current.familyId (s.table.visible .replay) = []) : Reached e s false
  | ended (rotation : s.phase .rotation = .committed) (replay : s.phase .replay = .committed)
      (none : liveIds e.current.familyId s.table.committed = []) : Reached e s false
  | missed (id : String) (rotation : s.phase .rotation = .committed)
      (replay : (∃ now todo, s.phase .replay = .revoking e.current.familyId now todo ∧ id ∉ todo) ∨
        s.phase .replay = .ready none)
      (live : id ∈ liveIds e.current.familyId (s.table.visible .replay)) : Reached e s true
  | survived (id : String) (rotation : s.phase .rotation = .committed) (replay : s.phase .replay = .committed)
      (live : id ∈ liveIds e.current.familyId s.table.committed) : Reached e s true
  | failed {overtaken : Bool} (rotation : s.phase .rotation = .failed) : Reached e s overtaken

theorem reached_initial (e : Encounter) : Reached e e.initial false :=
  .waiting rfl rfl rfl ⟨rfl, e.older_spent, .inl rfl⟩

/-! ## Steps -/

/-- What a step of a party leaves to the other one. -/
structure Beside (party : Party) (s after : State) : Prop where
  phase : ∀ other, other ≠ party → after.phase other = s.phase other
  table : Table.Beside party s.table after.table

section Steps
variable [AuthRuntime] {settings : AuthSettings} {e : Encounter} {s : State}

omit [AuthRuntime] in
theorem beside_enter {party : Party} {table : Table Party String AuthSession} (beside : Table.Beside party s.table table)
    (phase : Phase) : Beside party s ({ s with table := table }.enter party phase) :=
  ⟨fun _ differs => State.enter_phase_of_ne differs, beside⟩

omit [AuthRuntime] in
theorem Beside.refl (party : Party) (s : State) : Beside party s s := ⟨fun _ _ => rfl, .refl party s.table⟩

theorem execute_beside (party : Party) (now : Int) : Beside party s (execute settings e s party now) := by
  unfold execute
  split
  · unfold present
    split
    · exact beside_enter Table.beside_finish _
    · split
      · next free => exact beside_enter (Table.beside_lock free) _
      · exact .refl party s
  · unfold decideOn
    split
    · exact beside_enter (.refl party s.table) _
    · exact beside_enter Table.beside_write _
    · exact beside_enter Table.beside_write _
    · unfold insertSession
      split
      · exact beside_enter Table.beside_finish _
      · split
        · exact beside_enter Table.beside_finish _
        · exact beside_enter Table.beside_write _
  · exact beside_enter Table.beside_write _
  · exact beside_enter (.refl party s.table) _
  · split
    · next free => exact beside_enter ((Table.beside_lock free).trans Table.beside_write) _
    · exact .refl party s
  · exact beside_enter Table.beside_finish _
  · exact .refl party s
  · exact .refl party s

variable (settings) in
/-- A party that finds its token spent waits or loads it, or begins to update the family. -/
theorem Doomed.execute {party : Party} (doomed : Doomed e party s) (now : Int) :
    (Doomed e party (execute settings e s party now) ∧
        (execute settings e s party now).table.committed = s.table.committed) ∨
      ∃ began, execute settings e s party now =
        s.enter party (.revoking e.current.familyId began (liveIds e.current.familyId s.table.committed)) := by
  have visible : s.table.visible party = s.table.committed := by rw [Table.visible, doomed.writes, id]
  rcases doomed.phase with phase | ⟨row, loaded, phase, family, revoked⟩
  · refine .inl ?_
    simp only [Security.execute, phase, present, visible]
    split
    · next absent =>
      obtain ⟨row, member, same⟩ := doomed.spent.stored
      exact absurd same (by simpa using List.find?_eq_none.mp absent row member)
    · next row found =>
      split
      · refine ⟨⟨doomed.writes, doomed.spent, .inr ⟨row, now, State.enter_phase, ?_⟩⟩, rfl⟩
        exact doomed.spent.spent row (List.mem_of_find?_eq_some found) (by simpa using List.find?_some found)
      · exact ⟨doomed, rfl⟩
  · refine .inr ⟨loaded, ?_⟩
    simp only [Security.execute, phase, decideOn, presented_replayed revoked, family, visible]

omit [AuthRuntime] in
theorem Doomed.beside {party other : Party} {after : State} (doomed : Doomed e party s) (differs : party ≠ other)
    (beside : Beside other s after) (spent : Spent e.current.familyId (e.tokenHash party) after.table.committed) :
    Doomed e party after where
  writes := (beside.table.writes party differs).trans doomed.writes
  spent := spent
  phase := by
    rw [beside.phase party differs]
    exact doomed.phase

omit [AuthRuntime] in
theorem Rotating.beside {after : State} (rotating : Rotating e s) (beside : Beside .replay s after) : Rotating e after := by
  have phase : after.phase .rotation = s.phase .rotation := beside.phase .rotation nofun
  have writes : after.table.writes .rotation = s.table.writes .rotation := beside.table.writes .rotation nofun
  cases rotating with
  | loaded now was own => exact .loaded now (phase.trans was) (writes.trans own)
  | inserted new now isNew was own => exact .inserted new now isNew (phase.trans was) (writes.trans own)
  | replaced new now isNew was own => exact .replaced new now isNew (phase.trans was) (writes.trans own)
  | revoked now was own => exact .revoked now (phase.trans was) (writes.trans own)

/-- What a statement makes of a rotation that has loaded its row. -/
inductive Turn (e : Encounter) (s after : State) : Prop where
  | on (rotating : Rotating e after) (rows : after.table.committed = e.table.rows)
      (held : after.table.holder e.current.id = some .rotation) (quiet : (s.phase .rotation).handsOn = false)
  | failed (phase : after.phase .rotation = .failed) (quiet : (s.phase .rotation).handsOn = false)
  | handedOn (new : AuthSession) (now : Int) (isNew : e.New new) (phase : after.phase .rotation = .committed)
      (rows : after.table.committed = (e.table.rows ++ [new]).map (replaceRow e.current.id new.id now).apply)
      (loud : (s.phase .rotation).handsOn = true)
  | gaveUp (now : Int) (phase : after.phase .rotation = .committed)
      (rows : after.table.committed = e.table.rows.map (revokeRow e.current.id now).apply)
      (quiet : (s.phase .rotation).handsOn = false)

variable (settings) in
theorem Rotating.execute (rotating : Rotating e s) (rows : s.table.committed = e.table.rows)
    (held : s.table.holder e.current.id = some .rotation) (now : Int) : Turn e s (execute settings e s .rotation now) := by
  cases rotating with
  | loaded began phase writes =>
    have quiet : (s.phase .rotation).handsOn = false := congrArg Phase.handsOn phase
    have visible : s.table.visible .rotation = e.table.rows := by rw [Table.visible, writes, id, rows]
    simp only [Security.execute, phase, decideOn]
    split
    · next replayed =>
      rw [presented, if_neg (by simp [e.unrevoked])] at replayed
      repeat' split at replayed
      all_goals cases replayed
    · refine .on (.revoked began State.enter_phase ?_) rows held quiet
      rw [State.enter_table, Table.write_writes, writes, Function.comp_id]
    · refine .on (.revoked began State.enter_phase ?_) rows held quiet
      rw [State.enter_table, Table.write_writes, writes, Function.comp_id]
    · next user accepted =>
      simp only [insertSession, visible]
      split
      · exact .failed State.enter_phase quiet
      · next new made =>
        obtain ⟨family, _, _, unrevoked, _⟩ := newSession_ok made
        split
        · exact .failed State.enter_phase quiet
        · next untaken =>
          have isNew : e.New new := by
            refine ⟨?_, unrevoked, fun row member => ?_⟩
            · rw [family, familyOf]
              exact if_neg e.familyNamed
            · simp only [List.any_eq_true, not_exists, not_and] at untaken
              simpa using untaken row member
          refine .on (.inserted new began isNew State.enter_phase ?_) rows held quiet
          rw [State.enter_table, Table.write_writes, writes, Function.comp_id]
  | inserted new began isNew phase writes =>
    simp only [Security.execute, phase]
    refine .on (.replaced new began isNew State.enter_phase ?_) rows held (congrArg Phase.handsOn phase)
    rw [State.enter_table, Table.write_writes, writes]
    rfl
  | replaced new began isNew phase writes =>
    simp only [Security.execute, phase]
    refine .handedOn new began isNew State.enter_phase ?_ (congrArg Phase.handsOn phase)
    rw [State.enter_table, Table.commit, Table.finish_committed, Table.visible, writes, rows]
  | revoked began phase writes =>
    simp only [Security.execute, phase]
    refine .gaveUp began State.enter_phase ?_ (congrArg Phase.handsOn phase)
    rw [State.enter_table, Table.commit, Table.finish_committed, Table.visible, writes, rows]

variable (settings) in
theorem Late.execute (late : Late e s) (none : liveIds e.current.familyId s.table.committed = []) (now : Int) :
    Late e (execute settings e s .rotation now) ∧
      (execute settings e s .rotation now).table.committed = s.table.committed ∧ (s.phase .rotation).handsOn = false := by
  cases late with
  | doomed doomed =>
    have quiet : (s.phase .rotation).handsOn = false := by
      rcases doomed.phase with phase | ⟨_, _, phase, _⟩
      · exact congrArg Phase.handsOn phase
      · exact congrArg Phase.handsOn phase
    rcases doomed.execute settings now with ⟨still, rows⟩ | ⟨began, next⟩
    · exact ⟨.doomed still, rows, quiet⟩
    · rw [next, none]
      exact ⟨.revoking began State.enter_phase doomed.writes, rfl, quiet⟩
  | revoking began phase writes =>
    simp only [Security.execute, phase]
    exact ⟨.ready State.enter_phase writes, rfl, rfl⟩
  | ready phase writes =>
    simp only [Security.execute, phase]
    refine ⟨.committed State.enter_phase, ?_, rfl⟩
    rw [State.enter_table, Table.commit, Table.finish_committed, Table.visible, writes, id]
  | committed phase =>
    simp only [Security.execute, phase]
    exact ⟨.committed phase, trivial, rfl⟩

variable (settings) in
/-- The rotation loads its row, or waits for it. -/
theorem execute_presenting (phase : s.phase .rotation = .presenting) (rows : s.table.committed = e.table.rows)
    (writes : s.table.writes .rotation = id) (now : Int) :
    execute settings e s .rotation now = s ∧ s.table.free .rotation e.current.id = false ∨
      execute settings e s .rotation now =
        { s with table := s.table.lock .rotation e.current.id }.enter .rotation (.loaded e.current now) := by
  have visible : s.table.visible .rotation = e.table.rows := by rw [Table.visible, writes, id, rows]
  have found : e.table.rows.find? (fun row => row.tokenHash = e.tokenHash .rotation) = some e.current :=
    Sessions.byToken?_eq_some_iff.mpr ⟨e.currentStored, rfl⟩
  simp only [execute, phase, present, visible, found]
  split
  · exact .inr rfl
  · next taken => exact .inl ⟨rfl, by simpa using taken⟩

omit [AuthRuntime] in
/-- The replay that found its token spent has no row of the rotation to miss. -/
theorem Doomed.notInUpdate {party : Party} (doomed : Doomed e party s) : (s.phase party).inUpdate = false := by
  rcases doomed.phase with phase | ⟨_, _, phase, _⟩
  · exact congrArg Phase.inUpdate phase
  · exact congrArg Phase.inUpdate phase

omit [AuthRuntime] in
theorem Doomed.notCommitted {party : Party} (doomed : Doomed e party s) : s.phase party ≠ .committed := by
  intro done
  rcases doomed.phase with phase | ⟨_, _, phase, _⟩ <;> cases done.symm.trans phase

omit [AuthRuntime] in
theorem Rotating.notCommitted (rotating : Rotating e s) : s.phase .rotation ≠ .committed := by
  intro done
  cases rotating with
  | loaded _ phase _ => cases done.symm.trans phase
  | inserted _ _ _ phase _ => cases done.symm.trans phase
  | replaced _ _ _ phase _ => cases done.symm.trans phase
  | revoked _ phase _ => cases done.symm.trans phase

theorem Reached.replay {overtaken : Bool} (reached : Reached e s overtaken) (now : Int) :
    Reached e (execute settings e s .replay now) overtaken := by
  have beside : Beside .replay s (execute settings e s .replay now) := execute_beside .replay now
  have phase : (execute settings e s .replay now).phase .rotation = s.phase .rotation := beside.phase .rotation Party.rotation_ne
  have frame : (execute settings e s .replay now).table.writes .rotation = s.table.writes .rotation :=
    beside.table.writes .rotation Party.rotation_ne
  cases reached with
  | waiting rows writes rotation replay =>
    rcases replay.execute settings now with ⟨still, same⟩ | ⟨began, next⟩
    · exact .waiting (same.trans rows) (frame.trans writes) (phase.trans rotation) still
    · rw [next, rows, Encounter.liveIds_initial]
      exact .begun began rows writes replay.writes ((State.enter_phase_of_ne Party.rotation_ne).trans rotation) State.enter_phase
  | begun began rows writes own rotation replay =>
    simp only [execute, replay]
    split
    · refine .updated began rows ?_ ?_ Table.lock_holder ((State.enter_phase_of_ne Party.rotation_ne).trans rotation)
        (.inl ⟨began, State.enter_phase⟩)
      · rw [State.enter_table, Table.write_writes_of_ne Party.rotation_ne, Table.lock_writes, writes]
      · rw [State.enter_table, Table.write_writes, Table.lock_writes, own, Function.comp_id]
    · exact .begun began rows writes own rotation replay
  | updated began rows writes own held rotation replay =>
    rcases replay with ⟨_, replay⟩ | replay
    · simp only [execute, replay]
      exact .updated began rows writes own held ((State.enter_phase_of_ne Party.rotation_ne).trans rotation) (.inr State.enter_phase)
    · simp only [execute, replay]
      have after : s.table.visible .replay = e.table.rows.map (revokeOne e.current.id e.current.familyId began).apply := by
        rw [Table.visible, own, rows]
      refine .first ?_ (.doomed ⟨?_, ?_, .inl ((State.enter_phase_of_ne Party.rotation_ne).trans rotation)⟩) State.enter_phase
      · rw [State.enter_table, Table.commit, Table.finish_committed, after, e.live_replayed]
      · rw [State.enter_table, Table.commit, Table.finish_writes_of_ne Party.rotation_ne, writes]
      · rw [State.enter_table, Table.commit, Table.finish_committed, after]
        exact e.current_spent began
  | first none rotation replay =>
    simp only [execute, replay]
    exact .first none rotation replay
  | rotating rows held rotation replay =>
    rcases replay.execute settings now with ⟨still, same⟩ | ⟨began, next⟩
    · exact .rotating (same.trans rows) (beside.table.holder .rotation Party.rotation_ne _ held) (rotation.beside beside) still
    · rw [next] at beside ⊢
      rw [rows, Encounter.liveIds_initial] at beside ⊢
      exact .blocked began rows held (rotation.beside beside) replay.writes State.enter_phase
  | blocked began rows held rotation own replay =>
    have waits : s.table.free .replay e.current.id = false := Table.not_free held Party.rotation_ne
    simp only [execute, replay, waits, Bool.false_eq_true, if_false]
    exact .blocked began rows held rotation own replay
  | rotated rotation replay =>
    rcases replay.execute settings now with ⟨still, _⟩ | ⟨began, next⟩
    · exact .rotated (phase.trans rotation) still
    · rw [next] at phase ⊢
      refine .clearing began _ (phase.trans rotation) State.enter_phase fun id live => ?_
      rwa [State.enter_table, Table.visible, replay.writes, id_eq] at live
  | clearing began todo rotation replay covered =>
    cases todo with
    | nil =>
      simp only [execute, replay] at phase ⊢
      exact .cleared (phase.trans rotation) State.enter_phase (List.eq_nil_iff_forall_not_mem.mpr fun id live =>
        List.not_mem_nil (covered id live))
    | cons id todo =>
      simp only [execute, replay] at phase ⊢
      split
      · next free =>
        refine .clearing began todo ((State.enter_phase_of_ne Party.rotation_ne).trans rotation) State.enter_phase fun other live => ?_
        rw [State.enter_table, Table.visible, Table.write_writes, Table.lock_writes] at live
        obtain ⟨before, differs⟩ := mem_liveIds_revokeOne.mp live
        exact (List.mem_cons.mp (covered other before)).resolve_left differs
      · exact .clearing began (id :: todo) rotation replay covered
  | cleared rotation replay none =>
    simp only [execute, replay] at phase ⊢
    exact .ended (phase.trans rotation) State.enter_phase none
  | ended rotation replay none =>
    simp only [execute, replay]
    exact .ended rotation replay none
  | missed id rotation replay live =>
    rcases replay with ⟨began, todo, replay, absent⟩ | replay
    · cases todo with
      | nil =>
        simp only [execute, replay] at phase ⊢
        exact .missed id (phase.trans rotation) (.inr State.enter_phase) live
      | cons first todo =>
        simp only [execute, replay] at phase ⊢
        split
        · refine .missed id ((State.enter_phase_of_ne Party.rotation_ne).trans rotation) (.inl ⟨began, todo, State.enter_phase, ?_⟩) ?_
          · exact fun inside => absent (List.mem_cons_of_mem _ inside)
          · rw [State.enter_table, Table.visible, Table.write_writes, Table.lock_writes]
            exact mem_liveIds_revokeOne.mpr ⟨live, fun same => absent (same ▸ List.mem_cons_self)⟩
        · exact .missed id rotation (.inl ⟨began, first :: todo, replay, absent⟩) live
    · simp only [execute, replay] at phase ⊢
      exact .survived id (phase.trans rotation) State.enter_phase live
  | survived id rotation replay live =>
    simp only [execute, replay]
    exact .survived id rotation replay live
  | failed rotation => exact .failed (phase.trans rotation)

theorem Reached.rotation {overtaken : Bool} (reached : Reached e s overtaken) (now : Int) :
    Reached e (execute settings e s .rotation now) (overtaken || decide (Overtakes s (.rotation, now))) := by
  have beside : Beside .rotation s (execute settings e s .rotation now) := execute_beside .rotation now
  have phase : (execute settings e s .rotation now).phase .replay = s.phase .replay := beside.phase .replay Party.replay_ne
  have frame : (execute settings e s .rotation now).table.writes .replay = s.table.writes .replay :=
    beside.table.writes .replay Party.replay_ne
  -- A statement that hands nothing on overtakes nothing.
  have quietly (quiet : (s.phase .rotation).handsOn = false)
      (next : Reached e (execute settings e s .rotation now) overtaken) :
      Reached e (execute settings e s .rotation now) (overtaken || decide (Overtakes s (.rotation, now))) := by
    have not : ¬Overtakes s (.rotation, now) := fun overtakes => absurd (quiet.symm.trans overtakes.2.1) (by decide)
    rwa [decide_eq_false not, Bool.or_false]
  have ended (done : s.phase .rotation = .committed) :
      Reached e (execute settings e s .rotation now) (overtaken || decide (Overtakes s (.rotation, now))) := by
    refine quietly (congrArg Phase.handsOn done) ?_
    simp only [execute, done]
    exact reached
  cases reached with
  | waiting rows writes rotation replay =>
    refine quietly (congrArg Phase.handsOn rotation) ?_
    rcases execute_presenting settings rotation rows writes now with ⟨same, _⟩ | next
    · rw [same]
      exact .waiting rows writes rotation replay
    · rw [next] at beside ⊢
      exact .rotating rows Table.lock_holder (.loaded now State.enter_phase writes)
        (replay.beside Party.replay_ne beside replay.spent)
  | begun began rows writes own rotation replay =>
    refine quietly (congrArg Phase.handsOn rotation) ?_
    rcases execute_presenting settings rotation rows writes now with ⟨same, _⟩ | next
    · rw [same]
      exact .begun began rows writes own rotation replay
    · rw [next] at phase ⊢
      exact .blocked began rows Table.lock_holder (.loaded now State.enter_phase writes) own (phase.trans replay)
  | updated began rows writes own held rotation replay =>
    refine quietly (congrArg Phase.handsOn rotation) ?_
    rcases execute_presenting settings rotation rows writes now with ⟨same, _⟩ | next
    · rw [same]
      exact .updated began rows writes own held rotation replay
    · rw [next] at beside
      have lost := beside.table.holder .replay Party.replay_ne _ held
      rw [State.enter_table, Table.lock_holder] at lost
      cases lost
  | first none rotation replay =>
    obtain ⟨late, rows, quiet⟩ := rotation.execute settings none now
    exact quietly quiet (.first (rows.symm ▸ none) late (phase.trans replay))
  | rotating rows held rotation replay =>
    cases rotation.execute settings rows held now with
    | on rotating same kept quiet =>
      exact quietly quiet (.rotating same kept rotating
        (replay.beside Party.replay_ne beside (same.trans rows.symm ▸ replay.spent)))
    | failed lost quiet => exact quietly quiet (.failed lost)
    | handedOn new began isNew done after loud =>
      have not : ¬Overtakes s (.rotation, now) :=
        fun overtakes => absurd (replay.notInUpdate.symm.trans overtakes.2.2) (by decide)
      rw [decide_eq_false not]
      refine .rotated done (replay.beside Party.replay_ne beside ?_)
      rw [after]
      have fresh : ∀ row ∈ e.table.rows, row.tokenHash ≠ new.tokenHash := fun row member => (isNew.fresh row member).2
      exact (Spent.snoc (rows ▸ replay.spent) fresh).map _
    | gaveUp began done after quiet =>
      refine quietly quiet (.rotated done (replay.beside Party.replay_ne beside ?_))
      rw [after]
      exact Spent.map (rows ▸ replay.spent) _
  | blocked began rows held rotation own replay =>
    cases rotation.execute settings rows held now with
    | on rotating same kept quiet =>
      exact quietly quiet (.blocked began same kept rotating (frame.trans own) (phase.trans replay))
    | failed lost quiet => exact quietly quiet (.failed lost)
    | handedOn new at' isNew done after loud =>
      have overtakes : Overtakes s (.rotation, now) := ⟨rfl, loud, congrArg Phase.inUpdate replay⟩
      rw [decide_eq_true overtakes]
      refine .missed new.id done (.inl ⟨began, [e.current.id], phase.trans replay, ?_⟩) ?_
      · rw [List.mem_singleton]
        exact (isNew.fresh e.current e.currentStored).1.symm
      · rw [Table.visible, frame, own, id, after]
        exact (e.live_rotated isNew at').mpr rfl
    | gaveUp at' done after quiet =>
      refine quietly quiet (.clearing began [e.current.id] done (phase.trans replay) fun id live => ?_)
      rw [Table.visible, frame, own, id_eq, after, e.live_revoked] at live
      cases live
  | rotated rotation replay => exact ended rotation
  | clearing began todo rotation replay covered => exact ended rotation
  | cleared rotation replay none => exact ended rotation
  | ended rotation replay none => exact ended rotation
  | missed id rotation replay live => exact ended rotation
  | survived id rotation replay live => exact ended rotation
  | failed rotation =>
    refine .failed ?_
    simp only [execute, rotation]

variable (settings) in
theorem Reached.step {overtaken : Bool} (reached : Reached e s overtaken) (a : Party × Int) :
    Reached e (interleave settings e s a) (overtaken || decide (Overtakes s a)) := by
  obtain ⟨party, now⟩ := a
  cases party with
  | rotation => exact reached.rotation now
  | replay =>
    have not : ¬Overtakes s (.replay, now) := fun overtakes => Party.replay_ne overtakes.1
    rw [decide_eq_false not, Bool.or_false]
    exact reached.replay now

/-! ## Schedules -/

variable (settings) in
theorem run_reached {overtaken : Bool} (reached : Reached e s overtaken) (actions : List (Party × Int)) :
    ∃ overtaken', Reached e (Runs.run (interleave settings e) s actions) overtaken' ∧
      (overtaken' = false ↔ overtaken = false ∧ Runs.Along (interleave settings e) (fun s a => ¬Overtakes s a) s actions) := by
  induction actions generalizing s overtaken with
  | nil => exact ⟨overtaken, reached, by simp [Runs.Along]⟩
  | cons a rest ih =>
    obtain ⟨final, there, same⟩ := ih (reached.step settings a)
    refine ⟨final, there, ?_⟩
    rw [same, Runs.along_cons, Bool.or_eq_false_iff, decide_eq_false_iff_not, and_assoc]

/-- After both have committed the family is revoked, exactly if the rotation did not
commit its new session while the replay was in its update. -/
theorem replay_revokes_iff (e : Encounter) (actions : List (Party × Int))
    (done : ∀ party, (Runs.run (interleave settings e) e.initial actions).phase party = .committed) :
    (∀ row ∈ (Runs.run (interleave settings e) e.initial actions).table.committed,
        row.familyId = e.current.familyId → ¬row.Unrevoked) ↔
      Runs.Along (interleave settings e) (fun s a => ¬Overtakes s a) e.initial actions := by
  obtain ⟨overtaken, reached, same⟩ := run_reached settings (reached_initial e) actions
  rw [← liveIds_eq_nil_iff]
  have rotation := done .rotation
  have replay := done .replay
  have none_iff : liveIds e.current.familyId (Runs.run (interleave settings e) e.initial actions).table.committed = [] ↔
      overtaken = false := by
    cases reached with
    | first none _ _ => exact iff_of_true none rfl
    | ended _ _ none => exact iff_of_true none rfl
    | survived id _ _ live => exact iff_of_false (List.ne_nil_of_mem live) nofun
    | waiting _ _ other _ => cases rotation.symm.trans other
    | begun _ _ _ _ other _ => cases rotation.symm.trans other
    | updated _ _ _ _ _ other _ => cases rotation.symm.trans other
    | rotating _ _ rotating _ => exact absurd rotation rotating.notCommitted
    | blocked _ _ _ rotating _ _ => exact absurd rotation rotating.notCommitted
    | rotated _ doomed => exact absurd replay doomed.notCommitted
    | clearing _ _ _ other _ => cases replay.symm.trans other
    | cleared _ other _ => cases replay.symm.trans other
    | missed _ _ other _ => rcases other with ⟨_, _, other, _⟩ | other <;> cases replay.symm.trans other
    | failed other => cases rotation.symm.trans other
  rw [none_iff, same]
  exact and_iff_right rfl

end Steps

section Examples
open PlainText

def family : AuthSession where
  id := "s1"
  userId := "u1"
  merchantId := "m1"
  tokenHash := "first"
  familyId := "f1"
  createdAt := 0
  expiresAt := 7 * DateTime.day

/-- A family whose first token was rotated. -/
def rotatedOnce : Sessions where
  rows := [{ family with revokedAt := some 60, replacedBy := some "s2" }, { family with id := "s2", tokenHash := "second" }]

def sessionUser : User where
  id := "u1"
  email := "ops@example.com"
  passwordHash := ""
  merchantId := "m1"
  role := "OPS"

def encounter : Encounter where
  users := [sessionUser]
  table := rotatedOnce
  handed := ⟨by decide, by decide⟩
  current := { family with id := "s2", tokenHash := "second" }
  older := { family with revokedAt := some 60, replacedBy := some "s2" }
  currentStored := by decide
  olderStored := by decide
  family := rfl
  unrevoked := rfl
  revoked := nofun
  familyNamed := by decide
  draws _ := { sessionId := "s3", refresh := "third", family := keys }

def testSettings : AuthSettings where
  authSecret := "0123456789abcdef0123456789abcdef"

def times (n : Nat) (party : Party) : List (Party × Int) := List.replicate n (party, 120)

/-- The rotation, and then the replay. -/
def inTurn : List (Party × Int) := times 4 .rotation ++ times 5 .replay

/-- The replay begins its update while the rotation holds the row. -/
def overtaken : List (Party × Int) := times 3 .rotation ++ times 2 .replay ++ times 1 .rotation ++ times 3 .replay

theorem replay_revokes_inTurn :
    (∀ party, (Runs.run (interleave testSettings encounter) encounter.initial inTurn).phase party = .committed) ∧
      ∀ row ∈ (Runs.run (interleave testSettings encounter) encounter.initial inTurn).table.committed,
        row.familyId = "f1" → ¬row.Unrevoked := by
  have both : ∀ party, (Runs.run (interleave testSettings encounter) encounter.initial inTurn).phase party = .committed := by
    intro party
    cases party <;> rfl
  exact ⟨both, (replay_revokes_iff encounter inTurn both).mpr (by decide +kernel)⟩

/-- The session the rotation added survives a replay that has committed. -/
theorem replay_misses_the_new_session :
    ¬∀ (e : Encounter) (actions : List (Party × Int)),
      (∀ party, (Runs.run (interleave testSettings e) e.initial actions).phase party = .committed) →
        ∀ row ∈ (Runs.run (interleave testSettings e) e.initial actions).table.committed,
          row.familyId = e.current.familyId → ¬row.Unrevoked := by
  intro law
  have every := law encounter overtaken (by intro party; cases party <;> rfl)
  exact absurd every (by decide +kernel)

end Examples
end RCAA.Security
