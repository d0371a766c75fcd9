import RCAA.Security.RateBounds

/-! The scheduled removal of the counters that were not written for as long as raw data is kept.
No caller can tell: the counters that are removed would have started over anyway, as long as
no window is longer. -/

namespace RCAA.Security

/-- A counter and the time of its last write. -/
structure StampedLimit where
  row : SecurityRateLimit
  updatedAt : Int
deriving DecidableEq

def StampedLimit.key (stamped : StampedLimit) : String × String := (stamped.row.action, stamped.row.keyHash)

/-- What happens to the counters. -/
inductive LimiterEvent where
  | call (c : RateCall)
  | reset (now : Int) (action key : String)
  | cleanup (now : Int) (dryRun : Bool)

def LimiterEvent.now : LimiterEvent → Int
  | .call c => c.now
  | .reset now _ _ => now
  | .cleanup now _ => now

/-- What a call makes of the counter it finds: the answer, and the counter where it writes one. -/
def counted (keyHash : String) (call : RateCall) : Option SecurityRateLimit → Except Failure Unit × Option SecurityRateLimit
  | none => (.ok (), some { action := call.action, keyHash, windowStartedAt := call.now, count := 1 })
  | some row =>
    let window := call.windowSeconds * 1000000
    if row.blockedUntil.any (call.now < ·) then (.error tooManyRequests, none)
    else if window ≤ call.now - row.windowStartedAt then
      (.ok (), some { row with windowStartedAt := call.now, count := 1, blockedUntil := none })
    else if call.limit < row.count + 1 then
      (.error tooManyRequests, some { row with count := row.count + 1, blockedUntil := some (row.windowStartedAt + window) })
    else (.ok (), some { row with count := row.count + 1 })

/-- The counter with a key. -/
def stamped (limits : List StampedLimit) (key : String × String) : Option StampedLimit := limits.find? fun s => s.key = key

/-- The counters after a call has written one. -/
def written (limits : List StampedLimit) (now : Int) : Option SecurityRateLimit → List StampedLimit
  | none => limits
  | some row => KeyedRows.put StampedLimit.key ⟨row, now⟩ limits

section Limiter
variable [AuthRuntime] (settings : AuthSettings)

/-- `enforce_rate_limit`, with the times of the writes. -/
def enforceStamped (limits : List StampedLimit) (call : RateCall) : Except Failure Unit × List StampedLimit :=
  if !settings.rateLimitEnabled ∨ settings.testing ∨ call.limit ≤ 0 then (.ok (), limits)
  else
    let keyHash := hashKey settings call.action call.key
    let (answer, changed) := counted keyHash call ((stamped limits (call.action, keyHash)).map (·.row))
    (answer, written limits call.now changed)

def resetStamped (limits : List StampedLimit) (action key : String) : List StampedLimit :=
  if !settings.rateLimitEnabled ∨ settings.testing then limits
  else limits.filter fun s => s.key ≠ (action, hashKey settings action key)

/-- What `run` of the cleanup leaves of the counters. -/
def cleaned (retentionDays : Int) (limits : List StampedLimit) (now : Int) (dryRun : Bool) : List StampedLimit :=
  if dryRun then limits else limits.filter fun s => now - retentionDays * DateTime.day ≤ s.updatedAt

def limiterStep (retentionDays : Int) (limits : List StampedLimit) : LimiterEvent → List StampedLimit
  | .call c => (enforceStamped settings limits c).2
  | .reset _ action key => resetStamped settings limits action key
  | .cleanup now dryRun => cleaned retentionDays limits now dryRun

/-- What a call is told. -/
def limiterAnswer (limits : List StampedLimit) : LimiterEvent → Option (Except Failure Unit)
  | .call c => some (enforceStamped settings limits c).1
  | _ => none

/-- What the calls of a run are told, in order. -/
def limiterAnswers (retentionDays : Int) : List StampedLimit → List LimiterEvent → List (Except Failure Unit)
  | _, [] => []
  | limits, e :: rest =>
    (limiterAnswer settings limits e).toList ++ limiterAnswers retentionDays (limiterStep settings retentionDays limits e) rest

/-- What the calls are told where nothing is removed. -/
def plainAnswers : List SecurityRateLimit → List LimiterEvent → List (Except Failure Unit)
  | _, [] => []
  | limits, .call c :: rest =>
    let (answer, after) := enforceRateLimit settings c.now limits c.action c.key c.limit c.windowSeconds
    answer :: plainAnswers after rest
  | limits, .reset _ action key :: rest => plainAnswers (resetRateLimit settings limits action key) rest
  | limits, .cleanup _ _ :: rest => plainAnswers limits rest

end Limiter

/-! ## Counters without their times -/

section Plain
variable {limits : List StampedLimit} {call : RateCall}

theorem counted_key {keyHash : String} {found : Option SecurityRateLimit} {row : SecurityRateLimit}
    (key : ∀ old ∈ found, (old.action, old.keyHash) = (call.action, keyHash)) (written : (counted keyHash call found).2 = some row) :
    (row.action, row.keyHash) = (call.action, keyHash) := by
  cases found with
  | none =>
    cases written
    rfl
  | some old =>
    have same := key old rfl
    simp only [counted] at written
    split at written
    · cases written
    split at written
    · cases written
      exact same
    split at written
    · cases written
      exact same
    · cases written
      exact same

theorem stamped_key {key : String × String} {s : StampedLimit} (found : stamped limits key = some s) : s.key = key := by
  simpa using List.find?_some found

variable [AuthRuntime] {settings : AuthSettings}

/-- Without the times of the writes this is the limiter of the requests. -/
theorem enforceStamped_plain (distinct : (limits.map StampedLimit.key).Nodup) :
    (enforceStamped settings limits call).1 =
        (enforceRateLimit settings call.now (limits.map (·.row)) call.action call.key call.limit call.windowSeconds).1 ∧
      (enforceStamped settings limits call).2.map (·.row) =
        (enforceRateLimit settings call.now (limits.map (·.row)) call.action call.key call.limit call.windowSeconds).2 := by
  unfold enforceStamped enforceRateLimit
  split
  · exact ⟨rfl, rfl⟩
  · simp only
    have lookup : ((limits.map (·.row)).find? fun row => row.action = call.action ∧ row.keyHash = hashKey settings call.action call.key) =
        (stamped limits (call.action, hashKey settings call.action call.key)).map (·.row) := by
      rw [List.find?_map, stamped]
      simp only [Function.comp_def, StampedLimit.key, Prod.mk.injEq]
    rw [lookup]
    cases found : stamped limits (call.action, hashKey settings call.action call.key) with
    | none =>
      have absent : (call.action, hashKey settings call.action call.key) ∉ limits.map StampedLimit.key := by
        intro inside
        obtain ⟨s, member, same⟩ := List.mem_map.mp inside
        exact List.find?_eq_none.mp found s member (decide_eq_true same)
      refine ⟨rfl, ?_⟩
      simp only [Option.map_none, counted]
      have added (row : SecurityRateLimit) (same : (row.action, row.keyHash) = (call.action, hashKey settings call.action call.key)) :
          (written limits call.now (some row)).map (·.row) = limits.map (·.row) ++ [row] := by
        have fresh : StampedLimit.key ⟨row, call.now⟩ ∉ limits.map StampedLimit.key := by
          rw [StampedLimit.key, same]
          exact absent
        rw [written, KeyedRows.put_absent StampedLimit.key fresh, List.map_append, List.map_singleton]
      exact added _ rfl
    | some s =>
      have inside : s ∈ limits := List.mem_of_find?_eq_some found
      have key := stamped_key found
      -- A write of the row that was found is a write of the rows with its key.
      have changed (f : SecurityRateLimit → SecurityRateLimit) (fixed : ((f s.row).action, (f s.row).keyHash) = s.key) :
          (written limits call.now (some (f s.row))).map (·.row) =
            (limits.map (·.row)).map fun row =>
              if row.action = call.action ∧ row.keyHash = hashKey settings call.action call.key then f row else row := by
        have same : StampedLimit.key ⟨f s.row, call.now⟩ = s.key := fixed
        rw [written, KeyedRows.put_present StampedLimit.key distinct inside same, KeyedRows.update, List.map_map, List.map_map]
        refine List.map_congr_left fun a member => ?_
        simp only [Function.comp_apply, same, key]
        by_cases own : a.key = (call.action, hashKey settings call.action call.key)
        · have equal : a = s := KeyedRows.faithful_of_nodup StampedLimit.key distinct a member s inside (own.trans key.symm)
          rw [if_pos own, if_pos (Prod.mk.inj own), equal]
        · rw [if_neg own, if_neg fun both => own (Prod.ext both.1 both.2)]
      simp only [Option.map_some, counted]
      by_cases block : s.row.blockedUntil.any (call.now < ·)
      · simp only [if_pos block, written, and_self]
      · simp only [if_neg block]
        by_cases ended : call.windowSeconds * 1000000 ≤ call.now - s.row.windowStartedAt
        · simp only [if_pos ended, true_and]
          exact changed (fun row => { row with windowStartedAt := call.now, count := 1, blockedUntil := none }) rfl
        · simp only [if_neg ended]
          by_cases full : call.limit < s.row.count + 1
          · simp only [if_pos full, true_and]
            exact changed (fun row =>
              { row with count := row.count + 1, blockedUntil := some (row.windowStartedAt + call.windowSeconds * 1000000) }) rfl
          · simp only [if_neg full, true_and]
            exact changed (fun row => { row with count := row.count + 1 }) rfl

theorem resetStamped_plain (action key : String) :
    (resetStamped settings limits action key).map (·.row) = resetRateLimit settings (limits.map (·.row)) action key := by
  unfold resetStamped resetRateLimit
  split
  · rfl
  · rw [List.filter_map]
    congr 1
    refine List.filter_congr fun s _ => decide_eq_decide.mpr (not_congr ?_)
    rw [StampedLimit.key, Prod.mk.injEq]

end Plain

/-! ## With the cleanup and without -/

/-- The counter starts over at the next call, which has no window longer than the span. -/
def Bygone (span clock : Int) (row : SecurityRateLimit) : Prop := row.windowStartedAt + span ≤ clock

/-- A counter that was written by calls within the span, until the clock. -/
structure Aged (span clock : Int) (s : StampedLimit) : Prop where
  started : s.row.windowStartedAt ≤ s.updatedAt
  past : s.updatedAt ≤ clock
  block : ∀ blockEnd ∈ s.row.blockedUntil, blockEnd ≤ s.row.windowStartedAt + span

/-- The counters of a run with the cleanup, beside those of the run without. -/
structure Follows (span clock : Int) (full kept : List StampedLimit) : Prop where
  distinct : (kept.map StampedLimit.key).Nodup
  whole : (full.map StampedLimit.key).Nodup
  aged : ∀ s ∈ full, Aged span clock s
  found : ∀ key, stamped kept key = stamped full key ∨
    stamped kept key = none ∧ ∃ s, stamped full key = some s ∧ Bygone span clock s.row

section Follows
variable {span clock now : Int} {full kept limits : List StampedLimit} {call : RateCall} {keyHash : String}

theorem Bygone.later {row : SecurityRateLimit} (spent : Bygone span clock row) (later : clock ≤ now) : Bygone span now row :=
  le_trans (b := clock) spent later

theorem Aged.later {s : StampedLimit} (aged : Aged span clock s) (later : clock ≤ now) : Aged span now s :=
  ⟨aged.started, aged.past.trans later, aged.block⟩

/-- A counter that starts over is as one that is not there. -/
theorem counted_spent {s : StampedLimit} (aged : Aged span call.now s) (spent : Bygone span call.now s.row)
    (within : call.windowSeconds * 1000000 ≤ span) (key : s.key = (call.action, keyHash)) :
    counted keyHash call (some s.row) = counted keyHash call none := by
  have free : s.row.blockedUntil.any (call.now < ·) = false := by
    refine Bool.eq_false_iff.mpr fun inForce => ?_
    obtain ⟨blockEnd, stored, later⟩ := (Option.any_eq_true _ _).mp inForce
    have bound := aged.block blockEnd stored
    have later := of_decide_eq_true later
    unfold Bygone at spent
    omega
  have ended : call.windowSeconds * 1000000 ≤ call.now - s.row.windowStartedAt := by
    unfold Bygone at spent
    omega
  obtain ⟨action, hash⟩ := Prod.mk.inj key
  simp only [counted, free, Bool.false_eq_true, if_false, if_pos ended, action, hash]

/-- What a call writes is written by a call within the span. -/
theorem counted_aged {found : Option SecurityRateLimit} {row : SecurityRateLimit}
    (old : ∀ before ∈ found, before.windowStartedAt ≤ call.now ∧ ∀ blockEnd ∈ before.blockedUntil, blockEnd ≤ before.windowStartedAt + span)
    (within : call.windowSeconds * 1000000 ≤ span) (written : (counted keyHash call found).2 = some row) :
    Aged span call.now ⟨row, call.now⟩ := by
  cases found with
  | none =>
    cases written
    exact ⟨le_rfl, le_rfl, nofun⟩
  | some before =>
    obtain ⟨started, block⟩ := old before rfl
    simp only [counted] at written
    split at written
    · cases written
    split at written
    · cases written
      exact ⟨le_rfl, le_rfl, nofun⟩
    split at written
    · cases written
      refine ⟨started, le_rfl, fun blockEnd stored => ?_⟩
      rw [← Option.some.inj stored]
      simp only
      omega
    · cases written
      exact ⟨started, le_rfl, block⟩

theorem stamped_mem {key : String × String} {s : StampedLimit} (found : stamped limits key = some s) : s ∈ limits :=
  List.mem_of_find?_eq_some found

theorem follows_initial (span clock : Int) : Follows span clock [] [] :=
  ⟨List.nodup_nil, List.nodup_nil, List.forall_mem_nil _, fun _ => .inl rfl⟩

theorem Follows.later (follows : Follows span clock full kept) (later : clock ≤ now) : Follows span now full kept := by
  refine ⟨follows.distinct, follows.whole, fun s member => (follows.aged s member).later later, fun key => ?_⟩
  exact (follows.found key).imp id fun ⟨absent, s, found, spent⟩ => ⟨absent, s, found, spent.later later⟩

/-- Both write the same counter. -/
theorem Follows.written (follows : Follows span clock full kept) {row : SecurityRateLimit} (aged : Aged span clock ⟨row, clock⟩) :
    Follows span clock (written full clock (some row)) (written kept clock (some row)) := by
  refine ⟨KeyedRows.nodup_keys_put _ _ follows.distinct, KeyedRows.nodup_keys_put _ _ follows.whole, fun s member => ?_, fun key => ?_⟩
  · rcases KeyedRows.mem_of_put StampedLimit.key member with rfl | old
    · exact aged
    · exact follows.aged s old
  · simp only [stamped, Security.written, KeyedRows.find?_put]
    split
    · exact .inl rfl
    · exact follows.found key

/-- Both lose the same counters. -/
theorem Follows.filter (follows : Follows span clock full kept) (remains : String × String → Bool) :
    Follows span clock (full.filter fun s => remains s.key) (kept.filter fun s => remains s.key) := by
  have lookup (limits : List StampedLimit) (distinct : (limits.map StampedLimit.key).Nodup) (key : String × String) :
      stamped (limits.filter fun s => remains s.key) key = (stamped limits key).filter fun s => remains s.key :=
    KeyedRows.find?_filter StampedLimit.key distinct _ key
  refine ⟨follows.distinct.sublist (List.filter_sublist.map _), follows.whole.sublist (List.filter_sublist.map _),
    fun s member => follows.aged s (List.mem_of_mem_filter member), fun key => ?_⟩
  rw [lookup _ follows.distinct, lookup _ follows.whole]
  rcases follows.found key with same | ⟨absent, s, found, spent⟩
  · exact .inl (by rw [same])
  · rw [absent, found]
    cases stays : remains s.key with
    | true => exact .inr ⟨rfl, s, if_pos stays, spent⟩
    | false => exact .inl (if_neg (by simp [stays])).symm

/-- The cleanup removes only counters that start over anyway. -/
theorem Follows.keepsFresh (follows : Follows span clock full kept) :
    Follows span clock full (kept.filter fun s => clock - span ≤ s.updatedAt) := by
  refine ⟨follows.distinct.sublist (List.filter_sublist.map _), follows.whole, follows.aged, fun key => ?_⟩
  have lookup : stamped (kept.filter fun s => clock - span ≤ s.updatedAt) key =
      (stamped kept key).filter fun s => clock - span ≤ s.updatedAt := KeyedRows.find?_filter StampedLimit.key follows.distinct _ key
  rw [lookup]
  rcases follows.found key with same | ⟨absent, there⟩
  · rw [same]
    cases found : stamped full key with
    | none => exact .inl rfl
    | some s =>
      by_cases fresh : clock - span ≤ s.updatedAt
      · exact .inl (if_pos (decide_eq_true fresh))
      · have started := (follows.aged s (stamped_mem found)).started
        have spent : Bygone span clock s.row := by
          unfold Bygone
          omega
        exact .inr ⟨if_neg (by rwa [decide_eq_true_eq]), s, rfl, spent⟩
  · exact .inr ⟨by rw [absent]; rfl, there⟩

end Follows

section Steps
variable [AuthRuntime] {settings : AuthSettings} {retentionDays clock : Int} {full kept : List StampedLimit}

/-- A call is told the same with the cleanup and without. -/
theorem Follows.call {call : RateCall} (follows : Follows (retentionDays * DateTime.day) call.now full kept)
    (within : call.windowSeconds * 1000000 ≤ retentionDays * DateTime.day) :
    (enforceStamped settings kept call).1 = (enforceStamped settings full call).1 ∧
      Follows (retentionDays * DateTime.day) call.now (enforceStamped settings full call).2 (enforceStamped settings kept call).2 := by
  unfold enforceStamped
  split
  · exact ⟨rfl, follows⟩
  · simp only
    have aged {found : Option SecurityRateLimit} {row : SecurityRateLimit}
        (reads : found = (stamped full (call.action, hashKey settings call.action call.key)).map (·.row))
        (changed : (counted (hashKey settings call.action call.key) call found).2 = some row) :
        Aged (retentionDays * DateTime.day) call.now ⟨row, call.now⟩ := by
      refine counted_aged (fun before old => ?_) within changed
      rw [reads] at old
      obtain ⟨s, found, rfl⟩ := Option.map_eq_some_iff.mp old
      have was := follows.aged s (stamped_mem found)
      exact ⟨was.started.trans was.past, was.block⟩
    have same : counted (hashKey settings call.action call.key) call
        ((stamped kept (call.action, hashKey settings call.action call.key)).map (·.row)) =
          counted (hashKey settings call.action call.key) call
            ((stamped full (call.action, hashKey settings call.action call.key)).map (·.row)) := by
      rcases follows.found (call.action, hashKey settings call.action call.key) with same | ⟨absent, s, found, spent⟩
      · rw [same]
      · rw [absent, found]
        exact (counted_spent (follows.aged s (stamped_mem found)) spent within (stamped_key found)).symm
    rw [same]
    refine ⟨rfl, ?_⟩
    cases changed : (counted (hashKey settings call.action call.key) call
        ((stamped full (call.action, hashKey settings call.action call.key)).map (·.row))).2 with
    | none => exact follows
    | some row => exact follows.written (aged rfl changed)

theorem Follows.reset {now : Int} (follows : Follows (retentionDays * DateTime.day) now full kept) (action key : String) :
    Follows (retentionDays * DateTime.day) now (resetStamped settings full action key) (resetStamped settings kept action key) := by
  unfold resetStamped
  split
  · exact follows
  · exact follows.filter fun other => other ≠ (action, hashKey settings action key)

omit [AuthRuntime] in
theorem Follows.cleanup {now : Int} {dryRun : Bool} (follows : Follows (retentionDays * DateTime.day) now full kept) :
    Follows (retentionDays * DateTime.day) now full (cleaned retentionDays kept now dryRun) := by
  unfold cleaned
  split
  · exact follows
  · exact follows.keepsFresh

/-! ## Runs -/

/-- No call has a window longer than the data is kept. -/
def LimiterEvent.Within (retentionDays : Int) : LimiterEvent → Prop
  | .call c => c.windowSeconds * 1000000 ≤ retentionDays * DateTime.day
  | _ => True

theorem Follows.answers {events : List LimiterEvent} (follows : Follows (retentionDays * DateTime.day) clock full kept)
    (ordered : (clock :: events.map (·.now)).Pairwise (· ≤ ·)) (within : ∀ event ∈ events, event.Within retentionDays) :
    limiterAnswers settings retentionDays kept events = plainAnswers settings (full.map (·.row)) events := by
  induction events generalizing clock full kept with
  | nil => rfl
  | cons event rest ih =>
    obtain ⟨first, ordered⟩ := List.pairwise_cons.mp ordered
    have now := follows.later (first event.now (List.mem_map_of_mem List.mem_cons_self))
    obtain ⟨own, others⟩ := List.forall_mem_cons.mp within
    cases event with
    | call c =>
      obtain ⟨answer, after⟩ := now.call own
      obtain ⟨told, rows⟩ := enforceStamped_plain now.whole
      simp only [limiterAnswers, limiterAnswer, limiterStep, plainAnswers, Option.toList_some, List.singleton_append]
      rw [answer, told, ih after ordered others, rows]
    | reset time action key =>
      simp only [limiterAnswers, limiterAnswer, limiterStep, plainAnswers, Option.toList_none, List.nil_append]
      rw [ih (now.reset action key) ordered others, resetStamped_plain]
    | cleanup time dryRun => exact ih now.cleanup ordered others

/-- Over any sequence of calls and cleanups, as long as no window is longer than raw data is kept, every
call is told what it would be told if no counter were ever removed. -/
theorem cleanup_invisible {events : List LimiterEvent} (ordered : (events.map (·.now)).Pairwise (· ≤ ·))
    (within : ∀ event ∈ events, event.Within retentionDays) :
    limiterAnswers settings retentionDays [] events = plainAnswers settings [] events := by
  cases events with
  | nil => rfl
  | cons event rest =>
    obtain ⟨first, _⟩ := List.pairwise_cons.mp ordered
    have whole : (event.now :: (event :: rest).map (·.now)).Pairwise (· ≤ ·) :=
      List.pairwise_cons.mpr ⟨List.forall_mem_cons.mpr ⟨le_rfl, first⟩, ordered⟩
    exact (follows_initial _ event.now).answers whole within

end Steps

section Examples
open PlainText

/-- A login 91 days later, after a cleanup. -/
def loginsAroundCleanup : List LimiterEvent :=
  [.call (loginAt 0), .call (loginAt 1), .call (loginAt 2), .cleanup (91 * DateTime.day) false, .call (loginAt (91 * DateTime.day))]

theorem cleanup_invisible_logins :
    limiterAnswers limitedSettings 90 [] loginsAroundCleanup = plainAnswers limitedSettings [] loginsAroundCleanup := by
  have ordered : (loginsAroundCleanup.map (·.now)).Pairwise (· ≤ ·) := by decide
  have within : ∀ event ∈ loginsAroundCleanup, event.Within 90 := by
    have short (now : Int) : (LimiterEvent.call (loginAt now)).Within 90 := (by decide : (300 : Int) * 1000000 ≤ 90 * DateTime.day)
    exact List.forall_mem_cons.mpr ⟨short 0, List.forall_mem_cons.mpr ⟨short 1, List.forall_mem_cons.mpr ⟨short 2,
      List.forall_mem_cons.mpr ⟨trivial, List.forall_mem_singleton.mpr (short _)⟩⟩⟩⟩
  exact cleanup_invisible ordered within

/-- The cleanup removes the counter, and the login is admitted as it would have been. -/
example : limiterAnswers limitedSettings 90 [] loginsAroundCleanup =
    [.ok (), .ok (), .error tooManyRequests, .ok ()] := by decide +kernel

end Examples
end RCAA.Security
