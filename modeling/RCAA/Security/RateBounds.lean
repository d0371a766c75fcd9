import RCAA.Library.FixedWindows
import RCAA.Library.Runs
import RCAA.Security.RateLimit

/-! What a counter admits over a sequence of calls. The calls it admits are kept in the
windows they are counted in, the latest first; calls to other counters may come between. -/

namespace RCAA.Security
open FixedWindows (Window Spaced events)

structure RateCall where
  now : Int
  action : String
  key : String
  limit : Int
  windowSeconds : Int

/-- What a call does to the row it reads. -/
inductive CounterStep (now limit length : Int) :
    Option SecurityRateLimit → Except Failure Unit → Option SecurityRateLimit → Prop where
  | opened (row : SecurityRateLimit) (starts : row.windowStartedAt = now) (one : row.count = 1)
      (unblocked : row.blockedUntil = none) : CounterStep now limit length none (.ok ()) (some row)
  | barred (row : SecurityRateLimit) (blockEnd : Int) (block : row.blockedUntil = some blockEnd) (inForce : now < blockEnd) :
      CounterStep now limit length (some row) (.error tooManyRequests) (some row)
  | reopened (row : SecurityRateLimit) (free : ∀ blockEnd ∈ row.blockedUntil, blockEnd ≤ now)
      (ended : row.windowStartedAt + length ≤ now) :
      CounterStep now limit length (some row) (.ok ())
        (some { row with windowStartedAt := now, count := 1, blockedUntil := none })
  | refused (row : SecurityRateLimit) (free : ∀ blockEnd ∈ row.blockedUntil, blockEnd ≤ now)
      (inside : now < row.windowStartedAt + length) (full : limit ≤ row.count) :
      CounterStep now limit length (some row) (.error tooManyRequests)
        (some { row with count := row.count + 1, blockedUntil := some (row.windowStartedAt + length) })
  | counted (row : SecurityRateLimit) (free : ∀ blockEnd ∈ row.blockedUntil, blockEnd ≤ now)
      (inside : now < row.windowStartedAt + length) (room : row.count < limit) :
      CounterStep now limit length (some row) (.ok ()) (some { row with count := row.count + 1 })

/-- A call counted in a window. It opens one when the row stands at one after it. -/
def countIn (row : SecurityRateLimit) (now : Int) (windows : List (Window Int)) : List (Window Int) :=
  if row.count = 1 then ⟨row.windowStartedAt, [now]⟩ :: windows
  else match windows with
    | [] => []
    | current :: earlier => { current with events := current.events ++ [now] } :: earlier

/-- The windows after a call was answered and left a row. -/
def recordIn (answer : Except Failure Unit) (row : Option SecurityRateLimit) (now : Int) (windows : List (Window Int)) :
    List (Window Int) :=
  match answer, row with
  | .ok (), some row => countIn row now windows
  | _, _ => windows

/-! ## The windows of a counter -/

/-- The row of a counter and the window it counts in. -/
structure SameWindow (limit length : Int) (row : SecurityRateLimit) (window : Window Int) : Prop where
  start : window.start = row.windowStartedAt
  count : (window.events.length : Int) = min row.count limit
  positive : 1 ≤ row.count
  block : ∀ blockEnd ∈ row.blockedUntil, blockEnd = row.windowStartedAt + length

structure Tally (limit length clock : Int) (row : Option SecurityRateLimit) (windows : List (Window Int)) : Prop where
  current : Option.Rel (SameWindow limit length) row windows.head?
  few : ∀ w ∈ windows, (w.events.length : Int) ≤ limit
  spaced : Spaced length windows
  held : ∀ w ∈ windows, ∀ t ∈ w.events, w.start ≤ t ∧ (t = w.start ∨ t < w.start + length)
  past : ∀ w ∈ windows, w.start ≤ clock

section Tally
variable {limit length clock now : Int} {row after : Option SecurityRateLimit} {windows : List (Window Int)}

theorem Tally.later (tally : Tally limit length clock row windows) (later : clock ≤ now) : Tally limit length now row windows :=
  { tally with past := fun w stored => (tally.past w stored).trans later }

theorem Tally.latest {row : SecurityRateLimit} (tally : Tally limit length clock (some row) windows) :
    ∃ w earlier, windows = w :: earlier ∧ SameWindow limit length row w := by
  cases windows with
  | nil => cases tally.current
  | cons w earlier =>
    cases tally.current with
    | some same => exact ⟨w, earlier, rfl, same⟩

/-- A row that stands at one opens a window, once the windows before it have ended. -/
theorem Tally.open {row : SecurityRateLimit} (starts : row.windowStartedAt = now) (one : row.count = 1)
    (unblocked : row.blockedUntil = none) (positive : 0 < limit) {before : Option SecurityRateLimit}
    (tally : Tally limit length now before windows) (ended : ∀ w ∈ windows, w.start + length ≤ now) :
    Tally limit length now (some row) (countIn row now windows) := by
  unfold countIn
  rw [if_pos one]
  refine ⟨.some ⟨rfl, ?_, one.ge, by simp [unblocked]⟩, ?_, ?_, ?_, ?_⟩
  · rw [one, min_eq_left (by omega)]
    rfl
  · exact List.forall_mem_cons.mpr ⟨positive, tally.few⟩
  · exact List.pairwise_cons.mpr ⟨fun w stored => by simpa only [starts] using ended w stored, tally.spaced⟩
  · refine List.forall_mem_cons.mpr ⟨fun t counted => ?_, tally.held⟩
    rw [List.mem_singleton.mp counted, starts]
    exact ⟨le_rfl, .inl rfl⟩
  · exact List.forall_mem_cons.mpr ⟨starts.le, tally.past⟩

/-- What a call to the counter makes of its windows. -/
theorem Tally.step (positive : 0 < limit) (tally : Tally limit length clock row windows) (later : clock ≤ now)
    {answer : Except Failure Unit} (step : CounterStep now limit length row answer after) :
    Tally limit length now after (recordIn answer after now windows) := by
  have tally := tally.later later
  cases step with
  | opened row starts one unblocked =>
    cases windows with
    | nil => exact tally.open starts one unblocked positive nofun
    | cons w earlier => cases tally.current
  | barred row blockEnd block inForce => exact tally
  | reopened row free ended =>
    obtain ⟨w, earlier, rfl, same⟩ := tally.latest
    refine tally.open rfl rfl rfl positive (List.forall_mem_cons.mpr ⟨same.start ▸ ended, fun e stored => ?_⟩)
    exact ((List.pairwise_cons.mp tally.spaced).1 e stored).trans (tally.past w List.mem_cons_self)
  | refused row free inside full =>
    obtain ⟨w, earlier, rfl, same⟩ := tally.latest
    refine { tally with current := .some ⟨same.start, ?_, ?_, ?_⟩ }
    · rw [same.count, min_eq_right full, min_eq_right (by dsimp only; omega)]
    · have := same.positive
      dsimp only
      omega
    · rintro blockEnd ⟨⟩
      rfl
  | counted row free inside room =>
    obtain ⟨w, earlier, rfl, same⟩ := tally.latest
    have counted := same.positive
    have length_eq : ((w.events ++ [now]).length : Int) = row.count + 1 := by
      rw [List.length_append, Nat.cast_add, same.count, min_eq_left room.le]
      rfl
    simp only [recordIn, countIn]
    rw [if_neg (by omega)]
    refine ⟨.some ⟨same.start, ?_, ?_, same.block⟩, ?_, List.pairwise_cons.mpr (List.pairwise_cons.mp tally.spaced), ?_,
      List.forall_mem_cons.mpr (List.forall_mem_cons.mp tally.past)⟩
    · rw [length_eq, min_eq_left (by dsimp only; omega)]
    · dsimp only
      omega
    · refine List.forall_mem_cons.mpr ⟨?_, (List.forall_mem_cons.mp tally.few).2⟩
      rw [length_eq]
      omega
    · refine List.forall_mem_cons.mpr ⟨fun t member => ?_, (List.forall_mem_cons.mp tally.held).2⟩
      rcases List.mem_append.mp member with before | added
      · exact tally.held w List.mem_cons_self t before
      · rw [List.mem_singleton.mp added]
        exact ⟨tally.past w List.mem_cons_self, .inr (same.start ▸ inside)⟩

/-! What a sequence keeps bounds what was admitted in any interval. -/

theorem Tally.closed (tally : Tally limit length clock row windows) (positive : 0 < limit) (nonempty : 0 < length) (first : Int) :
    (((events windows).filter fun t => first ≤ t ∧ t ≤ first + length).length : Int) ≤ 2 * limit := by
  have holds : ∀ w ∈ windows, w.Holds length := by
    intro w stored t counted
    obtain ⟨lower, start | upper⟩ := tally.held w stored t counted
    · exact ⟨lower, by omega⟩
    · exact ⟨lower, upper⟩
  have few : ∀ w ∈ windows, w.events.length ≤ limit.toNat := by
    intro w stored
    have := tally.few w stored
    omega
  have two := @FixedWindows.within_interval _ _ _ _ first limit.toNat _ _ tally.spaced holds few
  rw [FixedWindows.within] at two
  omega

theorem Tally.interval (tally : Tally limit length clock row windows) (positive : 0 < limit) (first : Int) :
    (((events windows).filter fun t => first ≤ t ∧ t < first + length).length : Int) ≤ 2 * limit := by
  by_cases nonempty : 0 < length
  · refine le_trans (Nat.cast_le.mpr (List.Sublist.length_le ?_)) (tally.closed positive nonempty first)
    refine List.monotone_filter_right _ fun t inside => ?_
    simp only [decide_eq_true_eq] at inside ⊢
    exact ⟨inside.1, inside.2.le⟩
  · rw [List.filter_eq_nil_iff.mpr fun t _ inside => by simp only [decide_eq_true_eq] at inside; omega]
    simp only [List.length_nil, Nat.cast_zero]
    omega

theorem Tally.start_eq (tally : Tally limit length clock row windows) :
    windows.head?.map (·.start) = row.map (·.windowStartedAt) := by
  cases row with
  | none =>
    cases windows with
    | nil => rfl
    | cons w earlier => cases tally.current
  | some row =>
    obtain ⟨w, earlier, rfl, same⟩ := tally.latest
    exact congrArg some same.start

theorem CounterStep.answer_of_block {row : SecurityRateLimit} {answer : Except Failure Unit}
    (step : CounterStep now limit length (some row) answer after) {blockEnd : Int} (block : blockEnd ∈ row.blockedUntil)
    (inForce : now < blockEnd) : answer = .error tooManyRequests := by
  cases step with
  | barred | refused => rfl
  | reopened _ free ended => exact absurd (free blockEnd block) (by omega)
  | counted _ free inside room => exact absurd (free blockEnd block) (by omega)

theorem CounterStep.answer_of_ended {row : SecurityRateLimit} {window : Window Int} {answer : Except Failure Unit}
    (step : CounterStep now limit length (some row) answer after) (same : SameWindow limit length row window)
    (ended : row.windowStartedAt + length ≤ now) : answer = .ok () := by
  cases step with
  | reopened | counted => rfl
  | barred _ blockEnd block inForce =>
    have := same.block blockEnd block
    omega
  | refused _ free inside full => omega

end Tally

/-! ## The calls of a sequence -/

structure RateLedger where
  limits : List SecurityRateLimit := []
  clock : Int
  windows : List (Window Int) := []

section RateBounds
variable [AuthRuntime] (settings : AuthSettings)

/-- The row of an action and a key. -/
def counter (limits : List SecurityRateLimit) (action key : String) : Option SecurityRateLimit :=
  limits.find? fun row => (row.action, row.keyHash) = (action, hashKey settings action key)

/-- A call reads the row of an action and a key. -/
def RateCall.Reads (action key : String) (call : RateCall) : Prop :=
  (call.action, hashKey settings call.action call.key) = (action, hashKey settings action key)

instance (action key : String) (call : RateCall) : Decidable (call.Reads settings action key) :=
  inferInstanceAs (Decidable (_ = _))

section Counter
variable (action key : String) (limit windowSeconds : Int)

def RateLedger.step (ledger : RateLedger) (call : RateCall) : RateLedger :=
  let (answer, limits) :=
    enforceRateLimit settings call.now ledger.limits call.action call.key call.limit call.windowSeconds
  { limits
    clock := call.now
    windows :=
      if call.Reads settings action key then recordIn answer (counter settings limits action key) call.now ledger.windows
      else ledger.windows }

/-- Times do not go back, and every call to the counter has its limit and its window. -/
structure RateLedger.Regular (ledger : RateLedger) (call : RateCall) : Prop where
  later : ledger.clock ≤ call.now
  fixed : call.Reads settings action key → call.limit = limit ∧ call.windowSeconds = windowSeconds

/-- What the next call to the counter is told. -/
def RateLedger.answer (ledger : RateLedger) (now : Int) : Except Failure Unit :=
  (enforceRateLimit settings now ledger.limits action key limit windowSeconds).1

structure RateLedger.Bounded (ledger : RateLedger) : Prop where
  window : ∀ w ∈ ledger.windows, (w.events.length : Int) ≤ limit
  interval : ∀ first,
    (((events ledger.windows).filter fun t => first ≤ t ∧ t < first + windowSeconds * 1000000).length : Int) ≤ 2 * limit
  /-- With both ends, unless the window is empty. -/
  closed : 0 < windowSeconds → ∀ first,
    (((events ledger.windows).filter fun t => first ≤ t ∧ t ≤ first + windowSeconds * 1000000).length : Int) ≤ 2 * limit
  current : ledger.windows.head?.map (·.start) = (counter settings ledger.limits action key).map (·.windowStartedAt)
  barred : ∀ row ∈ counter settings ledger.limits action key, ∀ blockEnd ∈ row.blockedUntil, ∀ now < blockEnd,
    ledger.answer settings action key limit windowSeconds now = .error tooManyRequests
  reopened : ∀ row ∈ counter settings ledger.limits action key, ∀ now ≥ row.windowStartedAt + windowSeconds * 1000000,
    ledger.answer settings action key limit windowSeconds now = .ok ()

end Counter

/-! ## One call -/

section Call
variable {settings} (enabled : settings.rateLimitEnabled = true) (live : settings.testing = false)

/-- A write to the row of one action and key, read at another one. -/
theorem counter_changed {f : SecurityRateLimit → SecurityRateLimit}
    (fixed : ∀ row, ((f row).action, (f row).keyHash) = (row.action, row.keyHash)) (limits : List SecurityRateLimit)
    (action key other otherKey : String) :
    counter settings (limits.map fun row => if row.action = action ∧ row.keyHash = hashKey settings action key then f row else row)
        other otherKey =
      (counter settings limits other otherKey).map fun row =>
        if row.action = action ∧ row.keyHash = hashKey settings action key then f row else row := by
  have written := KeyedRows.find?_update (fun row : SecurityRateLimit => (row.action, row.keyHash))
    (k := (action, hashKey settings action key)) fixed limits (other, hashKey settings other otherKey)
  simpa only [KeyedRows.update, Prod.mk.injEq, counter] using written

theorem counter_key {limits : List SecurityRateLimit} {action key : String} {row : SecurityRateLimit}
    (found : counter settings limits action key = some row) :
    row.action = action ∧ row.keyHash = hashKey settings action key := by
  simpa only [decide_eq_true_eq, Prod.mk.injEq] using List.find?_some found

theorem counter_changed_self {limits : List SecurityRateLimit} {action key : String} {row : SecurityRateLimit}
    (found : counter settings limits action key = some row) {f : SecurityRateLimit → SecurityRateLimit}
    (fixed : ∀ row, ((f row).action, (f row).keyHash) = (row.action, row.keyHash)) :
    counter settings (limits.map fun row => if row.action = action ∧ row.keyHash = hashKey settings action key then f row else row)
      action key = some (f row) := by
  rw [counter_changed fixed, found, Option.map_some, if_pos (counter_key found)]

include enabled live

theorem enforceRateLimit_counter {limit : Int} (positive : 0 < limit) (now : Int) (limits : List SecurityRateLimit)
    (action key : String) (windowSeconds : Int) :
    CounterStep now limit (windowSeconds * 1000000) (counter settings limits action key)
      (enforceRateLimit settings now limits action key limit windowSeconds).1
      (counter settings (enforceRateLimit settings now limits action key limit windowSeconds).2 action key) := by
  have acts : ¬((!settings.rateLimitEnabled) = true ∨ settings.testing = true ∨ limit ≤ 0) := by
    simp [enabled, live, positive]
  have lookup : (limits.find? fun row => row.action = action ∧ row.keyHash = hashKey settings action key) =
      counter settings limits action key := by
    simp only [counter, Prod.mk.injEq]
  unfold enforceRateLimit
  rw [if_neg acts]
  dsimp only
  rw [lookup]
  cases found : counter settings limits action key with
  | none =>
    have added (new : SecurityRateLimit) (same : (new.action, new.keyHash) = (action, hashKey settings action key)) :
        counter settings (limits ++ [new]) action key = some new := by
      rw [counter, List.find?_append, ← counter, found, Option.none_or, List.find?_singleton, if_pos (decide_eq_true same)]
    dsimp only
    rw [added _ rfl]
    exact .opened _ rfl rfl rfl
  | some row =>
    dsimp only
    by_cases block : row.blockedUntil.any (now < ·)
    · rw [if_pos block, found]
      obtain ⟨blockEnd, stored, inForce⟩ := (Option.any_eq_true _ _).mp block
      exact .barred row blockEnd stored (of_decide_eq_true inForce)
    · have free : ∀ blockEnd ∈ row.blockedUntil, blockEnd ≤ now := by
        intro blockEnd stored
        by_contra later
        exact block ((Option.any_eq_true _ _).mpr ⟨blockEnd, stored, decide_eq_true (not_le.mp later)⟩)
      rw [if_neg block]
      by_cases ended : windowSeconds * 1000000 ≤ now - row.windowStartedAt
      · rw [if_pos ended]
        dsimp only
        rw [counter_changed_self found]
        · exact .reopened row free (by omega)
        · exact fun _ => rfl
      · rw [if_neg ended]
        by_cases full : limit < row.count + 1
        · rw [if_pos full]
          dsimp only
          rw [counter_changed_self found]
          · exact .refused row free (by omega) (by omega)
          · exact fun _ => rfl
        · rw [if_neg full]
          dsimp only
          rw [counter_changed_self found]
          · exact .counted row free (by omega) (by omega)
          · exact fun _ => rfl

omit enabled live in
/-- A call leaves the other counters as they are. -/
theorem enforceRateLimit_frame {action key other otherKey : String}
    (differs : (action, hashKey settings action key) ≠ (other, hashKey settings other otherKey)) (now : Int)
    (limits : List SecurityRateLimit) (limit windowSeconds : Int) :
    counter settings (enforceRateLimit settings now limits action key limit windowSeconds).2 other otherKey =
      counter settings limits other otherKey := by
  have unchanged {f : SecurityRateLimit → SecurityRateLimit}
      (fixed : ∀ row, ((f row).action, (f row).keyHash) = (row.action, row.keyHash)) :
      counter settings (limits.map fun row => if row.action = action ∧ row.keyHash = hashKey settings action key then f row else row)
        other otherKey = counter settings limits other otherKey := by
    rw [counter_changed fixed]
    cases found : counter settings limits other otherKey with
    | none => rfl
    | some row =>
      have elsewhere : ¬(row.action = action ∧ row.keyHash = hashKey settings action key) := by
        rintro ⟨sameAction, sameHash⟩
        exact differs (Prod.ext (sameAction.symm.trans (counter_key found).1) (sameHash.symm.trans (counter_key found).2))
      rw [Option.map_some, if_neg elsewhere]
  unfold enforceRateLimit
  dsimp only
  split
  · rfl
  · split
    · rw [counter, List.find?_append, ← counter, List.find?_singleton, if_neg (by simpa using differs), Option.or_none]
    · split
      · rfl
      · split
        · exact unchanged fun _ => rfl
        · split
          · exact unchanged fun _ => rfl
          · exact unchanged fun _ => rfl

end Call

/-! ## A sequence of calls -/

section Sequence
variable {settings} (enabled : settings.rateLimitEnabled = true) (live : settings.testing = false)
variable {action key : String} {limit windowSeconds : Int} (positive : 0 < limit) {ledger : RateLedger}

def RateLedger.Tallied (settings : AuthSettings) (action key : String) (limit windowSeconds : Int) (ledger : RateLedger) : Prop :=
  Tally limit (windowSeconds * 1000000) ledger.clock (counter settings ledger.limits action key) ledger.windows

include enabled live positive

theorem RateLedger.step_tallied {call : RateCall} (tallied : ledger.Tallied settings action key limit windowSeconds)
    (regular : ledger.Regular settings action key limit windowSeconds call) :
    (ledger.step settings action key call).Tallied settings action key limit windowSeconds := by
  by_cases reads : call.Reads settings action key
  · obtain ⟨rfl, rfl⟩ := regular.fixed reads
    have sameRow (limits : List SecurityRateLimit) :
        counter settings limits call.action call.key = counter settings limits action key := by
      rw [counter, counter, reads]
    have step := enforceRateLimit_counter enabled live positive call.now ledger.limits call.action call.key call.windowSeconds
    rw [sameRow, sameRow] at step
    simpa only [RateLedger.Tallied, RateLedger.step, if_pos reads] using tallied.step positive regular.later step
  · have unchanged := enforceRateLimit_frame reads call.now ledger.limits call.limit call.windowSeconds
    simpa only [RateLedger.Tallied, RateLedger.step, if_neg reads, unchanged] using tallied.later regular.later

theorem RateLedger.Tallied.bounded (tallied : ledger.Tallied settings action key limit windowSeconds) :
    ledger.Bounded settings action key limit windowSeconds := by
  have told (now : Int) {row : SecurityRateLimit} (found : row ∈ counter settings ledger.limits action key) :
      CounterStep now limit (windowSeconds * 1000000) (some row) (ledger.answer settings action key limit windowSeconds now)
        (counter settings (enforceRateLimit settings now ledger.limits action key limit windowSeconds).2 action key) := by
    rw [← Option.mem_def.mp found]
    exact enforceRateLimit_counter enabled live positive now ledger.limits action key windowSeconds
  refine ⟨tallied.few, tallied.interval positive, fun nonempty => tallied.closed positive (by omega), tallied.start_eq,
    fun row found blockEnd block now inForce => (told now found).answer_of_block block inForce, fun row found now ended => ?_⟩
  have tally := tallied
  rw [RateLedger.Tallied, Option.mem_def.mp found] at tally
  obtain ⟨w, earlier, _, same⟩ := tally.latest
  exact (told now found).answer_of_ended same ended

/-- Over any sequence of calls a counter admits its limit in each of its windows and twice its limit
in any interval as long as one; it refuses while a block is in force and admits from the end of its window. -/
theorem rate_limit_bounded {limits : List SecurityRateLimit} (fresh : counter settings limits action key = none) (start : Int)
    {calls : List RateCall}
    (regular : Runs.Along (RateLedger.step settings action key) (RateLedger.Regular settings action key limit windowSeconds)
      ⟨limits, start, []⟩ calls) :
    Runs.Throughout (RateLedger.step settings action key) (RateLedger.Bounded settings action key limit windowSeconds)
      ⟨limits, start, []⟩ calls := by
  have initial : RateLedger.Tallied settings action key limit windowSeconds ⟨limits, start, []⟩ := by
    rw [RateLedger.Tallied, fresh]
    exact ⟨.none, nofun, List.Pairwise.nil, nofun, nofun⟩
  intro before first
  refine RateLedger.Tallied.bounded enabled live positive ?_
  exact Runs.invariant_along (fun ledger call tallied => RateLedger.step_tallied enabled live positive tallied) initial
    (regular.take first)

end Sequence
end RateBounds

section Examples
open PlainText

def limitedSettings : AuthSettings := { authSecret := "secret" }

def loginAt (now : Int) : RateCall := ⟨now, "login", "192.0.2.1", 2, 300⟩

theorem rate_limit_bounded_logins :
    Runs.Throughout (RateLedger.step limitedSettings "login" "192.0.2.1")
      (RateLedger.Bounded limitedSettings "login" "192.0.2.1" 2 300) ⟨[], 0, []⟩ [loginAt 0, loginAt 1, loginAt 2] := by
  have regular (ledger : RateLedger) (now : Int) (later : ledger.clock ≤ now) :
      ledger.Regular limitedSettings "login" "192.0.2.1" 2 300 (loginAt now) := ⟨later, fun _ => ⟨rfl, rfl⟩⟩
  exact rate_limit_bounded rfl rfl (by decide) rfl 0
    ⟨regular _ 0 (by decide), regular _ 1 (by decide), regular _ 2 (by decide), trivial⟩

/-- The third call within the window is refused. -/
example :
    (Runs.run (RateLedger.step limitedSettings "login" "192.0.2.1") ⟨[], 0, []⟩ [loginAt 0, loginAt 1, loginAt 2]).windows.map
      (·.events) = [[0, 1]] := by rfl

end Examples
end RCAA.Security
