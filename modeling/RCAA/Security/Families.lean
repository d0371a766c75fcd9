import RCAA.Security.Auth
import RCAA.Library.Runs

/-! The family of a refresh token over whole histories. A family starts with one session
and each rotation hands it on, so at most one of its sessions is not revoked; a token
that comes back after its rotation ends the family. -/

namespace RCAA.Security

inductive Call where
  | create (user : User) (clientIp userAgent : Option String)
  | rotate (refreshToken : String) (clientIp userAgent : Option String)
  | revokeByRefresh (refreshToken : Option String)
  | revokeByAccess (token : Option String)
  | revokeUser (userId : String)
  | revokeSession (sessionId userId : String)

/-- A call, with the time and the users it reads and what it draws. -/
structure Action where
  now : Int
  users : List User
  draws : SessionDraws
  call : Call

section Step
variable [AuthRuntime] (settings : AuthSettings)

/-- The sessions after a call. A login that fails leaves them as they are. -/
def step (table : Sessions) (a : Action) : Sessions :=
  match a.call with
  | .create user clientIp userAgent =>
    ((createSessionTokens settings a.draws a.now table user clientIp userAgent none).toOption.map Prod.snd).getD table
  | .rotate refreshToken clientIp userAgent =>
    (rotateRefreshToken settings a.draws a.now a.users table refreshToken clientIp userAgent).2
  | .revokeByRefresh refreshToken => (revokeSessionByRefresh settings a.now table refreshToken).2
  | .revokeByAccess token => (revokeSessionByAccess settings a.now table token).2
  | .revokeUser userId => table.write (revokeUser userId a.now)
  | .revokeSession sessionId userId => (revokeSession a.now table sessionId userId).2

end Step

/-! ## The forms of a step -/

inductive Stepped (table : Sessions) : Sessions → Prop where
  | stayed : Stepped table table
  | written (w : Write) : Stepped table (table.write w)
  | created (row : AuthSession) (after : Sessions) (grown : after.rows = table.rows ++ [row])
      (family : row.familyId ∉ table.families) (first : row.replacedBy = none) : Stepped table after
  | rotated (row new : AuthSession) (now : Int) (after : Sessions) (member : row ∈ table.rows) (unrevoked : row.Unrevoked)
      (family : new.familyId ∉ table.families ∨ new.familyId = row.familyId) (first : new.replacedBy = none)
      (handed : after.rows = (table.rows ++ [new]).map (replaceRow row.id new.id now).apply) : Stepped table after

section Cases
variable [AuthRuntime] {settings : AuthSettings} {table : Sessions}

theorem rotateRefreshToken_stepped (draws : SessionDraws) (now : Int) (users : List User) (refreshToken : String)
    (clientIp userAgent : Option String) :
    Stepped table (rotateRefreshToken settings draws now users table refreshToken clientIp userAgent).2 := by
  unfold rotateRefreshToken
  split
  · exact .stayed
  · split
    · exact .stayed
    · split
      · exact .stayed
      · next row found =>
        split
        · exact .written _
        · exact .written _
        · exact .written _
        · next user accepted =>
          split
          · exact .stayed
          · next issued grown created =>
            obtain ⟨rows, family, _, _, _, first⟩ := createSessionTokens_ok created
            refine .rotated row issued.session now _ (Sessions.byToken?_eq_some_iff.mp found).1
              (presented_unrevoked (by rw [accepted]; nofun)) ?_ first (by simp only [Sessions.write, rows])
            rw [family]
            exact (familyOf_cases draws table (some row.familyId)).imp_right Option.some.inj

theorem step_stepped (table : Sessions) (a : Action) : Stepped table (step settings table a) := by
  unfold step
  split
  · next user clientIp userAgent _ =>
    cases created : createSessionTokens settings a.draws a.now table user clientIp userAgent none with
    | error failure => exact .stayed
    | ok result =>
      obtain ⟨rows, family, _, _, _, first⟩ := createSessionTokens_ok created
      exact .created result.1.session result.2 rows (family ▸ familyOf_fresh a.draws table (.inl rfl)) first
  · exact rotateRefreshToken_stepped _ _ _ _ _ _
  · unfold revokeSessionByRefresh
    repeat' split
    all_goals first | exact .stayed | exact .written _
  · unfold revokeSessionByAccess
    repeat' split
    all_goals first | exact .stayed | exact .written _
  · exact .written _
  · unfold revokeSession
    repeat' split
    all_goals first | exact .stayed | exact .written _

end Cases

/-! ## The invariant -/

structure Handed (table : Sessions) : Prop where
  /-- At most one session of a family is not revoked. -/
  one : ∀ a ∈ table.rows, ∀ b ∈ table.rows, a.familyId = b.familyId → a.Unrevoked → b.Unrevoked → a = b
  consistent : ∀ row ∈ table.rows, row.Consistent

/-- The family is known and all its sessions are revoked. -/
structure Ended (familyId : String) (table : Sessions) : Prop where
  known : familyId ∈ table.families
  revoked : ∀ row ∈ table.rows, row.familyId = familyId → ¬row.Unrevoked

theorem handed_initial : Handed {} := ⟨by simp, by simp⟩

theorem Handed.write {table : Sessions} (handed : Handed table) (w : Write) : Handed (table.write w) := by
  constructor
  · intro a ha b hb family unrevoked unrevoked'
    obtain ⟨x, hx, rfl⟩ := Sessions.mem_write.mp ha
    obtain ⟨y, hy, rfl⟩ := Sessions.mem_write.mp hb
    rw [w.familyId, w.familyId] at family
    rw [handed.one x hx y hy family (w.revoked x unrevoked) (w.revoked y unrevoked')]
  · intro a ha
    obtain ⟨x, hx, rfl⟩ := Sessions.mem_write.mp ha
    exact w.consistent x (handed.consistent x hx)

/-- A family that is not there has no session. -/
theorem absent_family {table : Sessions} {familyId : String} (absent : familyId ∉ table.families) {row : AuthSession}
    (member : row ∈ table.rows) : row.familyId ≠ familyId :=
  fun same => absent (same ▸ Sessions.mem_families member)

theorem consistent_of_first {row : AuthSession} (first : row.replacedBy = none) : row.Consistent :=
  fun rotated => absurd first rotated

theorem Stepped.handed {table after : Sessions} (stepped : Stepped table after) (handed : Handed table) :
    Handed after := by
  cases stepped with
  | stayed => exact handed
  | written w => exact handed.write w
  | created row after grown family first =>
    constructor
    · intro a ha b hb same unrevoked unrevoked'
      rw [grown, List.mem_append, List.mem_singleton] at ha hb
      rcases ha with ha | rfl <;> rcases hb with hb | rfl
      · exact handed.one a ha b hb same unrevoked unrevoked'
      · exact absurd same (absent_family family ha)
      · exact absurd same.symm (absent_family family hb)
      · rfl
    · rw [grown]
      exact List.forall_mem_append.mpr ⟨handed.consistent, by simpa using consistent_of_first first⟩
  | rotated row new now after member unrevoked family first rows =>
    have origin {a : AuthSession} (ha : a ∈ after.rows) : ∃ x, (x ∈ table.rows ∨ x = new) ∧
        (replaceRow row.id new.id now).apply x = a := by
      rw [rows, List.mem_map] at ha
      simpa only [List.mem_append, List.mem_singleton] using ha
    constructor
    · intro a ha b hb same live live'
      obtain ⟨x, hx, rfl⟩ := origin ha
      obtain ⟨y, hy, rfl⟩ := origin hb
      rw [Write.familyId, Write.familyId] at same
      obtain ⟨liveX, differs⟩ := replaceRow_unrevoked.mp live
      obtain ⟨liveY, differs'⟩ := replaceRow_unrevoked.mp live'
      -- The session handed on was the only one of its family.
      have only {z : AuthSession} (hz : z ∈ table.rows) (inFamily : z.familyId = new.familyId) (liveZ : z.Unrevoked) :
          z = row := by
        rcases family with fresh | kept
        · exact absurd inFamily (absent_family fresh hz)
        · exact handed.one z hz row member (inFamily.trans kept) liveZ unrevoked
      rcases hx with hx | rfl <;> rcases hy with hy | rfl
      · rw [handed.one x hx y hy same liveX liveY]
      · exact absurd (congrArg AuthSession.id (only hx same liveX)) differs
      · exact absurd (congrArg AuthSession.id (only hy same.symm liveY)) differs'
      · rfl
    · intro a ha
      obtain ⟨x, hx, rfl⟩ := origin ha
      refine Write.consistent _ x ?_
      rcases hx with hx | rfl
      · exact handed.consistent x hx
      · exact consistent_of_first first

theorem Stepped.ended {table after : Sessions} {familyId : String} (stepped : Stepped table after)
    (ended : Ended familyId table) : Ended familyId after := by
  cases stepped with
  | stayed => exact ended
  | written w =>
    refine ⟨by simpa using ended.known, fun a ha family => ?_⟩
    obtain ⟨x, hx, rfl⟩ := Sessions.mem_write.mp ha
    exact fun unrevoked => ended.revoked x hx ((w.familyId x).symm.trans family) (w.revoked x unrevoked)
  | created row after grown family first =>
    constructor
    · rw [Sessions.families, grown, List.map_append]
      exact List.mem_append_left _ ended.known
    · intro a ha same
      rw [grown, List.mem_append, List.mem_singleton] at ha
      rcases ha with ha | rfl
      · exact ended.revoked a ha same
      · exact absurd (same ▸ ended.known) family
  | rotated row new now after member unrevoked family first rows =>
    constructor
    · obtain ⟨x, hx, same⟩ := List.mem_map.mp ended.known
      rw [Sessions.families, rows, List.map_map]
      exact List.mem_map.mpr ⟨x, List.mem_append_left _ hx, by rw [Function.comp_apply, Write.familyId, same]⟩
    · intro a ha same live
      rw [rows, List.mem_map] at ha
      obtain ⟨x, hx, rfl⟩ := ha
      rw [Write.familyId] at same
      have liveX := (replaceRow_unrevoked.mp live).1
      rcases List.mem_append.mp hx with hx | hx
      · exact ended.revoked x hx same liveX
      · obtain rfl := List.mem_singleton.mp hx
        rcases family with fresh | kept
        · exact fresh (same ▸ ended.known)
        · exact ended.revoked row member (kept.symm.trans same) unrevoked

/-- No step undoes a revocation. -/
theorem Stepped.keepsRevoked {table after : Sessions} (stepped : Stepped table after) {row : AuthSession}
    (member : row ∈ table.rows) (revoked : ¬row.Unrevoked) :
    ∃ later ∈ after.rows, later.id = row.id ∧ ¬later.Unrevoked := by
  cases stepped with
  | stayed => exact ⟨row, member, rfl, revoked⟩
  | written w =>
    exact ⟨w.apply row, Sessions.mem_write.mpr ⟨row, member, rfl⟩, w.id row, fun live => revoked (w.revoked row live)⟩
  | created new after grown family first => exact ⟨row, grown ▸ List.mem_append_left _ member, rfl, revoked⟩
  | rotated old new now after _ _ family first rows =>
    refine ⟨(replaceRow old.id new.id now).apply row, ?_, Write.id _ row, fun live => revoked (Write.revoked _ row live)⟩
    rw [rows]
    exact List.mem_map_of_mem (List.mem_append_left _ member)

/-! ## Histories -/

section Histories
variable [AuthRuntime] {settings : AuthSettings}

theorem run_handed (actions : List Action) : Handed (Runs.run (step settings) {} actions) :=
  Runs.invariant (fun table a handed => (step_stepped table a).handed handed) handed_initial actions

theorem run_ended {table : Sessions} {familyId : String} (ended : Ended familyId table) (actions : List Action) :
    Ended familyId (Runs.run (step settings) table actions) :=
  Runs.invariant (fun table a ended => (step_stepped table a).ended ended) ended actions

theorem run_keepsRevoked {table : Sessions} {row : AuthSession} (member : row ∈ table.rows) (revoked : ¬row.Unrevoked)
    (actions : List Action) :
    ∃ later ∈ (Runs.run (step settings) table actions).rows, later.id = row.id ∧ ¬later.Unrevoked := by
  induction actions generalizing table row with
  | nil => exact ⟨row, member, rfl, revoked⟩
  | cons a rest ih =>
    have stepped : Stepped table (step settings table a) := step_stepped table a
    obtain ⟨next, inside, same, still⟩ := stepped.keepsRevoked member revoked
    obtain ⟨later, found, id, final⟩ := ih inside still
    exact ⟨later, found, id.trans same, final⟩

/-- Presenting a token whose session is revoked ends the family. -/
theorem replay_ends {table : Sessions} {a : Action} {token tokenHash : String} {clientIp userAgent : Option String}
    {row : AuthSession} (call : a.call = .rotate token clientIp userAgent) (named : token ≠ "")
    (hashed : hashToken settings token = .ok tokenHash) (found : table.byToken? tokenHash = some row)
    (revoked : ¬row.Unrevoked) : Ended row.familyId (step settings table a) := by
  obtain ⟨member, _⟩ := Sessions.byToken?_eq_some_iff.mp found
  have written : step settings table a = table.write (revokeFamily row.familyId a.now) := by
    simp only [step, call, rotateRefreshToken, if_neg named, hashed, found, presented_replayed revoked]
  rw [written]
  refine ⟨by simpa using Sessions.mem_families member, fun other inside family live => ?_⟩
  obtain ⟨x, hx, rfl⟩ := Sessions.mem_write.mp inside
  rw [Write.familyId] at family
  have spared := (revokeWhere_unrevoked.mp live).2
  exact absurd family (of_decide_eq_false spared)

/-- In every history: a family has at most one session that is not revoked; a revoked
session stays revoked; and after a rotated token is presented again, every session of
its family is revoked for good and every access token bound to one is refused. -/
theorem refresh_families (actions : List Action) :
    let table := Runs.run (step settings) {} actions
    (∀ a ∈ table.rows, ∀ b ∈ table.rows, a.familyId = b.familyId → a.Unrevoked → b.Unrevoked → a = b) ∧
      (∀ row ∈ table.rows, ¬row.Unrevoked → ∀ more,
        ∃ later ∈ (Runs.run (step settings) table more).rows, later.id = row.id ∧ ¬later.Unrevoked) ∧
      ∀ a token tokenHash clientIp userAgent row, a.call = .rotate token clientIp userAgent → token ≠ "" →
        hashToken settings token = .ok tokenHash → table.byToken? tokenHash = some row → row.Rotated → ∀ more,
          let later := Runs.run (step settings) (step settings table a) more
          ∀ r ∈ later.rows, r.familyId = row.familyId → ¬r.Unrevoked ∧
            ∀ now users access claims, decodeToken settings now access = .ok claims → claims.sid = some r.id → r.id ≠ "" →
              ∃ detail, getCurrentUser settings now users later (some access) = .error (authError detail) := by
  have handed : Handed (Runs.run (step settings) {} actions) := run_handed actions
  refine ⟨handed.one, fun row member revoked more => run_keepsRevoked member revoked more, ?_⟩
  intro a token tokenHash clientIp userAgent row call named hashed found rotated more later r inside family
  obtain ⟨member, _⟩ := Sessions.byToken?_eq_some_iff.mp found
  have ended : Ended row.familyId later :=
    run_ended (replay_ends call named hashed found (handed.consistent row member rotated)) more
  refine ⟨ended.revoked r inside family, fun now users access claims decoded bound id => ?_⟩
  refine getCurrentUser_revoked decoded bound id fun other stored same => ?_
  rw [Sessions.eq_of_id stored inside same]
  exact ended.revoked r inside family

end Histories
end RCAA.Security
