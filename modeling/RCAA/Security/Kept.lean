import RCAA.Security.Families
import RCAA.Security.Gate

/-! What the requests leave of sessions and reset tokens. None is deleted, and nothing undoes
that a session is revoked or a token used; only the two routes of a reset touch the tokens. -/

namespace RCAA.Security

/-! ## What no request undoes -/

/-- The sessions stay, and those that are revoked stay revoked. -/
def Sessions.Kept (before after : Sessions) : Prop :=
  ∀ row ∈ before.rows, ∃ later ∈ after.rows,
    later.id = row.id ∧ later.tokenHash = row.tokenHash ∧ (later.Unrevoked → row.Unrevoked)

/-- The reset tokens stay, and those that are used stay used. -/
def Resets.Kept (before after : Resets) : Prop :=
  ∀ row ∈ before.rows, ∃ later ∈ after.rows, later.tokenHash = row.tokenHash ∧ (later.usedAt = none → row.usedAt = none)

/-- Of the tokens of a user at most one is not used. -/
def Resets.OneOpen (table : Resets) : Prop :=
  ∀ a ∈ table.rows, ∀ b ∈ table.rows, a.userId = b.userId → a.usedAt = none → b.usedAt = none → a = b

namespace Sessions
variable {table after later : Sessions}

theorem Kept.refl (table : Sessions) : table.Kept table := fun row member => ⟨row, member, rfl, rfl, fun live => live⟩

theorem Kept.trans (first : table.Kept after) (second : after.Kept later) : table.Kept later := by
  intro row member
  obtain ⟨next, stored, id, hash, live⟩ := first row member
  obtain ⟨last, held, id', hash', live'⟩ := second next stored
  exact ⟨last, held, id'.trans id, hash'.trans hash, fun unrevoked => live (live' unrevoked)⟩

theorem kept_write (w : Write) : table.Kept (table.write w) := fun row member =>
  ⟨w.apply row, mem_write.mpr ⟨row, member, rfl⟩, w.id row, w.tokenHash row, w.revoked row⟩

theorem kept_of_rows {new : List AuthSession} (grown : after.rows = table.rows ++ new) : table.Kept after := fun row member =>
  ⟨row, grown ▸ List.mem_append_left _ member, rfl, rfl, fun live => live⟩

end Sessions

theorem Stepped.kept {table after : Sessions} (stepped : Stepped table after) : table.Kept after := by
  cases stepped with
  | stayed => exact .refl table
  | written w => exact Sessions.kept_write w
  | created row after grown _ _ => exact Sessions.kept_of_rows grown
  | rotated old new now after _ _ _ _ handed =>
    intro row member
    refine ⟨(replaceRow old.id new.id now).apply row, ?_, Write.id _ row, Write.tokenHash _ row, Write.revoked _ row⟩
    rw [handed]
    exact List.mem_map_of_mem (List.mem_append_left _ member)

namespace Resets
variable {table after later : Resets} {selected : PasswordResetToken → Bool} {now : Int}

theorem Kept.refl (table : Resets) : table.Kept table := fun row member => ⟨row, member, rfl, fun unused => unused⟩

theorem Kept.trans (first : table.Kept after) (second : after.Kept later) : table.Kept later := by
  intro row member
  obtain ⟨next, stored, hash, unused⟩ := first row member
  obtain ⟨last, held, hash', unused'⟩ := second next stored
  exact ⟨last, held, hash'.trans hash, fun fresh => unused (unused' fresh)⟩

theorem mem_use {row : PasswordResetToken} :
    row ∈ (table.use selected now).rows ↔
      ∃ old ∈ table.rows, (if selected old then { old with usedAt := some now } else old) = row := List.mem_map

/-- A token that is still unused was not selected and was unused before. -/
theorem unused_of_use {row : PasswordResetToken} (member : row ∈ (table.use selected now).rows) (unused : row.usedAt = none) :
    row ∈ table.rows ∧ selected row = false := by
  obtain ⟨old, stored, rfl⟩ := mem_use.mp member
  split at unused
  · cases unused
  · next spared =>
    rw [if_neg spared]
    exact ⟨stored, Bool.eq_false_iff.mpr spared⟩

/-- A token that is selected if it is unused is used afterwards. -/
theorem used_after_use {row : PasswordResetToken} (member : row ∈ table.rows) (covered : row.usedAt = none → selected row = true) :
    ∃ later ∈ (table.use selected now).rows, later.tokenHash = row.tokenHash ∧ later.usedAt ≠ none := by
  refine ⟨_, mem_use.mpr ⟨row, member, rfl⟩, ?_, ?_⟩
  · split <;> rfl
  · split
    · nofun
    · next spared => exact fun unused => spared (covered unused)

theorem kept_use : table.Kept (table.use selected now) := by
  intro row member
  refine ⟨_, mem_use.mpr ⟨row, member, rfl⟩, ?_, ?_⟩
  · split <;> rfl
  · split
    · nofun
    · exact fun unused => unused

theorem kept_of_rows {new : List PasswordResetToken} (grown : after.rows = table.rows ++ new) : table.Kept after :=
  fun row member => ⟨row, grown ▸ List.mem_append_left _ member, rfl, fun unused => unused⟩

theorem OneOpen.use (one : table.OneOpen) : (table.use selected now).OneOpen := fun a ha b hb same first second =>
  one a (unused_of_use ha first).1 b (unused_of_use hb second).1 same first second

/-- A new token of a user whose earlier ones are all used. -/
theorem OneOpen.snoc (one : table.OneOpen) {new : PasswordResetToken} (grown : after.rows = table.rows ++ [new])
    (superseded : ∀ row ∈ table.rows, row.userId = new.userId → row.usedAt ≠ none) : after.OneOpen := by
  intro a ha b hb same first second
  rw [grown, List.mem_append, List.mem_singleton] at ha hb
  rcases ha with ha | rfl <;> rcases hb with hb | rfl
  · exact one a ha b hb same first second
  · exact absurd first (superseded a ha same)
  · exact absurd second (superseded b hb same.symm)
  · rfl

theorem byToken?_eq_some_iff {tokenHash : String} {row : PasswordResetToken} :
    table.byToken? tokenHash = some row ↔ row ∈ table.rows ∧ row.tokenHash = tokenHash :=
  KeyedRows.find?_eq_some_iff PasswordResetToken.tokenHash table.tokens tokenHash row

theorem insert_ok {row : PasswordResetToken} (inserted : table.insert row = .ok after) : after.rows = table.rows ++ [row] := by
  unfold insert at inserted
  split at inserted
  · cases inserted
    rfl
  · cases inserted

end Resets

/-! ## One request -/

/-- A request that leaves the reset tokens alone. -/
structure Aside (accounts after : Accounts) : Prop where
  sessions : accounts.sessions.Kept after.sessions
  resets : after.resets = accounts.resets

section Requests
variable [AuthRuntime] {settings : AuthSettings} {accounts : Accounts}

omit [AuthRuntime] in
theorem aside_of_tables {after : Accounts} (sessions : after.sessions = accounts.sessions) (resets : after.resets = accounts.resets) :
    Aside accounts after := ⟨sessions ▸ .refl _, resets⟩

omit [AuthRuntime] in
theorem kept_writes (sessions : Sessions) (writes : List Write) : sessions.Kept (writes.foldl Sessions.write sessions) := by
  induction writes generalizing sessions with
  | nil => exact .refl sessions
  | cons w rest ih => exact (Sessions.kept_write w).trans (ih (sessions.write w))

omit [AuthRuntime] in
theorem Rewrites.aside {after : Accounts} (rewrites : Rewrites accounts after) : Aside accounts after := by
  obtain ⟨writes, same⟩ := rewrites.sessions
  exact ⟨same ▸ kept_writes accounts.sessions writes, rewrites.resets⟩

theorem issue_ok {draws : RequestDraws} {now : Int} {user : User} {clientIp userAgent : Option String} {reply : Reply}
    {after : Accounts} (issued : accounts.issue settings draws now user clientIp userAgent = .ok (reply, after)) :
    (∃ row, after.sessions.rows = accounts.sessions.rows ++ [row]) ∧ after.resets = accounts.resets ∧
      after.users = accounts.users := by
  obtain ⟨⟨made, sessions⟩, created, issued⟩ := Outcome.bind_ok issued
  cases issued
  exact ⟨⟨_, (createSessionTokens_ok created).1⟩, rfl, rfl⟩

theorem issue_aside {draws : RequestDraws} {now : Int} {user : User} {clientIp userAgent : Option String} {reply : Reply}
    {base after : Accounts} (issued : base.issue settings draws now user clientIp userAgent = .ok (reply, after))
    (aside : Aside accounts base) : Aside accounts after := by
  obtain ⟨⟨row, rows⟩, resets, _⟩ := issue_ok issued
  exact ⟨aside.sessions.trans (Sessions.kept_of_rows rows), resets.trans aside.resets⟩

omit [AuthRuntime] in
theorem aside_limits (limits : List SecurityRateLimit) : Aside accounts { accounts with limits } := aside_of_tables rfl rfl

theorem login_aside {draws : RequestDraws} {now : Int} {origin : Origin} {email password : String} :
    Aside accounts (login settings draws now origin accounts email password).2 := by
  unfold login
  refine limited_keeps aside_limits fun limits => limited_keeps aside_limits fun limits => ?_
  split
  · exact aside_limits _
  · next user found =>
    refine attempt_keeps (aside_limits _) fun reply after made => ?_
    split at made
    · obtain ⟨_, _, made⟩ := Outcome.map_ok made
      cases made
      exact aside_limits _
    · split at made
      · obtain ⟨_, _, made⟩ := Outcome.map_ok made
        cases made
        exact aside_limits _
      · exact issue_aside made (aside_limits _)

theorem verifyMfaLogin_aside {draws : RequestDraws} {now : Int} {origin : Origin} {challenge code : String} :
    Aside accounts (verifyMfaLogin settings draws now origin accounts challenge code).2 := by
  unfold verifyMfaLogin
  split
  · exact aside_limits _
  · split
    · exact aside_limits _
    · split
      · exact aside_limits _
      · split
        · exact aside_limits _
        · split
          · exact aside_limits _
          · refine limited_keeps aside_limits fun limits => attempt_keeps (aside_limits _) fun reply after made => ?_
            obtain ⟨_, _, made⟩ := Outcome.bind_ok made
            split at made
            · exact issue_aside made (aside_limits _)
            · cases made

theorem mfaVerifySetupRequired_aside {draws : RequestDraws} {now : Int} {setupToken : Option String} {code : String} :
    Aside accounts (mfaVerifySetupRequired settings draws now accounts setupToken code).2 := by
  unfold mfaVerifySetupRequired
  split
  · exact aside_limits _
  · split
    · exact aside_limits _
    · refine limited_keeps aside_limits fun limits => ?_
      split
      · exact aside_limits _
      · refine attempt_keeps (aside_limits _) fun reply after made => ?_
        obtain ⟨_, _, made⟩ := Outcome.bind_ok made
        obtain ⟨_, _, made⟩ := Outcome.bind_ok made
        split at made
        · exact issue_aside made (aside_of_tables rfl rfl)
        · cases made

theorem refresh_aside {draws : RequestDraws} {now : Int} {origin : Origin} {refreshToken : Option String} :
    Aside accounts (refresh settings draws now origin accounts refreshToken).2 := by
  have stepped := @rotateRefreshToken_stepped _ settings accounts.sessions draws.session now accounts.users.rows
    (refreshToken.getD "") origin.clientIp origin.userAgent
  unfold refresh
  split
  · next rotated =>
    rw [rotated] at stepped
    exact ⟨stepped.kept, rfl⟩
  · next rotated =>
    rw [rotated] at stepped
    exact ⟨stepped.kept, rfl⟩

theorem ssoCallback_aside {draws : RequestDraws} {now : Int} {origin : Origin} {state code : String} {provider : Provider} :
    Aside accounts (ssoCallback settings draws now origin accounts state code provider).2 := by
  unfold ssoCallback
  split
  · exact aside_of_tables rfl rfl
  · split
    · exact aside_of_tables rfl rfl
    · next issued =>
      have aside : Aside accounts _ := issue_aside issued (aside_of_tables rfl rfl)
      split
      · exact aside
      · exact aside

end Requests
end RCAA.Security
