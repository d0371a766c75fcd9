import RCAA.Audit.Service
import RCAA.Library.Runs

/-! When the chain of the committed events verifies. A writer names the latest event it
sees, so its events continue the chain exactly when no other transaction has committed
since it recorded its first, and when they sort after all events that are there. -/

namespace RCAA.Audit

/-! ## Actions -/

inductive Action where
  | record (transaction id eventId : String) (now : Instant) (args : EventArguments)
  | commit (transaction : String)
  | rollback (transaction : String)

/-- The order of the log. -/
abbrev Before (a b : AuditEvent) : Prop := Precedes (fun e : AuditEvent => ⟨e.timestamp.1, some 0⟩) AuditEvent.id a b

abbrev tipOf (start : Option String) (events : List AuditEvent) : Option String :=
  HashChain.tip AuditEvent.eventHash start events

theorem inOrder_before {events : List AuditEvent} (unique : Unique events) : (inOrder events).Pairwise Before :=
  orderRows_precedes unique.ids

theorem inOrder_perm (events : List AuditEvent) : (inOrder events).Perm events := orderRows_perm _ _ _

/-- Events after all others in the order, and in order, come last. -/
theorem inOrder_append {events more : List AuditEvent} (unique : Unique (events ++ more))
    (sorted : (inOrder events ++ more).Pairwise Before) : inOrder (events ++ more) = inOrder events ++ more := by
  refine ordered_eq (inOrder_before unique) sorted fun a => ?_
  simp only [mem_inOrder, List.mem_append]

theorem latest_hash (events : List AuditEvent) : (latest events).map (·.eventHash) = tipOf none (inOrder events) := by
  rw [tipOf, HashChain.tip, Option.or_none]
  rfl

/-- An event that all others precede is the latest. -/
theorem latest_eq {events : List AuditEvent} (unique : Unique events) {a : AuditEvent} (member : a ∈ events)
    (last : ∀ b ∈ events, b ≠ a → Before b a) : latest events = some a := by
  have some : inOrder events ≠ [] := List.ne_nil_of_mem (mem_inOrder.mpr member)
  rw [latest, List.getLast?_eq_getLast_of_ne_nil some]
  by_contra other
  have differs : (inOrder events).getLast some ≠ a := fun same => other (congrArg Option.some same)
  have before := last _ (mem_inOrder.mp (List.getLast_mem some)) differs
  have sorted := inOrder_before unique
  rw [← List.dropLast_append_getLast some, List.pairwise_append] at sorted
  have inside : a ∈ (inOrder events).dropLast := by
    have listed := mem_inOrder.mpr member
    rw [← List.dropLast_append_getLast some, List.mem_append, List.mem_singleton] at listed
    exact listed.resolve_right (Ne.symm differs)
  exact (sorted.2.2 a inside _ List.mem_cons_self).asymm before

section Step
variable [Platform] [AuditHashing]

def step (log : AuditLog) : Action → AuditLog
  | .record transaction id eventId now args => (recordEvent log transaction id eventId now args).toOption.getD log
  | .commit transaction => log.commit transaction
  | .rollback transaction => log.rollback transaction

/-! ## What recording leaves -/

/-- Every event is sealed, and an event of an open transaction names the latest of the
committed events there were and the events the transaction had. -/
structure Recorded (log : AuditLog) : Prop where
  sealed : ∀ e ∈ log.events, Sealed e
  seen : ∀ transaction before e after, log.own transaction = before ++ e :: after →
    ∃ known, known.Sublist log.committed ∧ e.previousEventHash = (latest (known ++ before)).map (·.eventHash)

theorem newEvent_sealed (visible : List AuditEvent) (id eventId : String) (now : Instant) (args : EventArguments) :
    Sealed (newEvent visible id eventId now args) := rfl

theorem newEvent_previous (visible : List AuditEvent) (id eventId : String) (now : Instant) (args : EventArguments) :
    (newEvent visible id eventId now args).previousEventHash = (latest visible).map (·.eventHash) := rfl

/-- Two events with the same predecessor and different event ids have different hashes. -/
theorem newEvent_hash_ne (sha256 : Function.Injective AuditHashing.sha256) (dumps : Function.Injective AuditHashing.dumps)
    {visible : List AuditEvent} {id id' eventId eventId' : String} {now now' : Instant} {args args' : EventArguments}
    (differ : eventId ≠ eventId') :
    (newEvent visible id eventId now args).eventHash ≠ (newEvent visible id' eventId' now' args').eventHash := by
  intro same
  rw [newEvent_sealed, newEvent_sealed, newEvent_previous, newEvent_previous] at same
  have named := (newEvent_previous visible id eventId now args).trans
    (newEvent_previous visible id' eventId' now' args').symm
  exact differ ((calculateEventHash_inj sha256 dumps named).mp same).eventId

theorem recordEvent_ok {log after : AuditLog} {transaction id eventId : String} {now : Instant} {args : EventArguments}
    (recorded : recordEvent log transaction id eventId now args = .ok after) :
    after.committed = log.committed ∧
      after.pending = log.pending ++ [(transaction, newEvent (log.visible transaction) id eventId now args)] := by
  simp only [recordEvent] at recorded
  split_ifs at recorded
  cases recorded
  exact ⟨rfl, rfl⟩

theorem recordEvent_fresh {log : AuditLog} {transaction id eventId : String} {now : Instant} {args : EventArguments}
    (outcome : args.outcome ∈ outcomes) (freshId : id ∉ log.events.map (·.id))
    (freshEvent : eventId ∉ log.events.map (·.eventId))
    (freshHash : (newEvent (log.visible transaction) id eventId now args).eventHash ∉ log.events.map (·.eventHash)) :
    ∃ after, recordEvent log transaction id eventId now args = .ok after := by
  simp only [recordEvent]
  rw [if_neg (not_not.mpr outcome), dif_pos ⟨freshId, freshEvent, freshHash⟩]
  exact ⟨_, rfl⟩

/-- A transaction closes: its events are committed or gone. -/
theorem Recorded.closed {log after : AuditLog} {transaction : String} (recorded : Recorded log)
    (pending : after.pending = log.others transaction) (committed : log.committed.Sublist after.committed)
    (inside : ∀ e ∈ after.events, e ∈ log.events) : Recorded after := by
  refine ⟨fun e member => recorded.sealed e (inside e member), fun other before e rest split => ?_⟩
  rw [AuditLog.own_closed pending] at split
  by_cases same : other = transaction
  · rw [if_pos same] at split
    exact absurd split (by simp)
  · rw [if_neg same] at split
    obtain ⟨known, sub, names⟩ := recorded.seen other before e rest split
    exact ⟨known, sub.trans committed, names⟩

theorem recorded_step {log : AuditLog} (recorded : Recorded log) (a : Action) : Recorded (step log a) := by
  cases a with
  | record transaction id eventId now args =>
    simp only [step]
    cases outcome : recordEvent log transaction id eventId now args with
    | error _ => exact recorded
    | ok after =>
      obtain ⟨committed, pending⟩ := recordEvent_ok outcome
      change Recorded after
      constructor
      · intro e member
        rw [AuditLog.events, committed, pending, List.map_append, ← List.append_assoc, List.mem_append] at member
        rcases member with old | new
        · exact recorded.sealed e old
        · rw [List.mem_singleton.mp new]
          exact newEvent_sealed _ _ _ _ _
      · intro other before e rest split
        rw [committed]
        by_cases same : transaction = other
        · subst same
          have own : after.own transaction = log.own transaction ++ [newEvent (log.visible transaction) id eventId now args] := by
            simp [AuditLog.own, pending]
          rw [own] at split
          rcases List.eq_nil_or_concat rest with rfl | ⟨front, last, rfl⟩
          · obtain ⟨rfl, new⟩ := List.append_inj' split rfl
            obtain rfl := (List.cons.inj new).1
            exact ⟨log.committed, List.Sublist.refl _, newEvent_previous _ _ _ _ _⟩
          · rw [List.concat_eq_append, ← List.cons_append, ← List.append_assoc] at split
            exact recorded.seen transaction before e front (List.append_inj_left' split rfl)
        · have own : after.own other = log.own other := by
            simp [AuditLog.own, pending, same]
          exact recorded.seen other before e rest (own ▸ split)
  | commit transaction =>
    refine recorded.closed rfl (List.sublist_append_left _ _) fun e member => ?_
    refine ((log.pending_perm transaction).append_left log.committed).symm.subset ?_
    rwa [AuditLog.events, step, AuditLog.commit, List.append_assoc] at member
  | rollback transaction =>
    refine recorded.closed rfl (List.Sublist.refl _) fun e member => ?_
    exact ((List.filter_sublist.map _).append_left _).subset member

/-! ## Committing -/

/-- The transaction recorded its first event against what is still the latest committed
one, and its events sort after the committed ones, in the order it recorded them. -/
def Follows (log : AuditLog) (transaction : String) : Prop :=
  (∀ first ∈ (log.own transaction).head?, first.previousEventHash = (latest log.committed).map (·.eventHash)) ∧
    (inOrder log.committed ++ log.own transaction).Pairwise Before

theorem Recorded.commit_links {log : AuditLog} {transaction : String} (recorded : Recorded log)
    (links : Linked none (inOrder log.committed)) (follows : Follows log transaction) :
    Linked none (inOrder log.committed ++ log.own transaction) := by
  obtain ⟨first, sorted⟩ := follows
  have unique : Unique (log.committed ++ log.own transaction) := (log.commit transaction).committed_unique
  refine HashChain.links_append.mpr ⟨links, HashChain.links_of_names fun before e after split => ?_⟩
  rcases List.eq_nil_or_concat before with rfl | ⟨front, last, rfl⟩
  · rw [first e (by rw [split]; rfl), latest_hash]
    rfl
  · -- All the transaction saw precedes the last event it had.
    rw [List.concat_eq_append] at split ⊢
    obtain ⟨known, sub, names⟩ := recorded.seen transaction _ e after split
    have seen : Unique (known ++ (front ++ [last])) :=
      unique.sublist (sub.append (split ▸ List.sublist_append_left _ _))
    have final : latest (known ++ (front ++ [last])) = some last := by
      apply latest_eq seen (by simp)
      intro b member differs
      rw [split] at sorted
      obtain ⟨-, own, across⟩ := List.pairwise_append.mp sorted
      rcases List.mem_append.mp member with old | new
      · exact across b (mem_inOrder.mpr (sub.subset old)) last (by simp)
      · rcases List.mem_append.mp new with earlier | same
        · exact (List.pairwise_append.mp (List.pairwise_append.mp own).1).2.2 b earlier last List.mem_cons_self
        · exact absurd (List.mem_singleton.mp same) differs
    rw [names, final, HashChain.tip_snoc]
    rfl

/-- The events of a chain that verifies are the committed ones, in order, and then the
transaction's as it recorded them. -/
theorem Recorded.committed_order {log : AuditLog} {transaction : String} (recorded : Recorded log)
    (links : Linked none (inOrder log.committed)) (after : Linked none (inOrder (log.committed ++ log.own transaction))) :
    inOrder (log.committed ++ log.own transaction) = inOrder log.committed ++ log.own transaction := by
  have unique : Unique (log.committed ++ log.own transaction) := (log.commit transaction).committed_unique
  have perm : (inOrder log.committed ++ log.own transaction).Perm (log.committed ++ log.own transaction) :=
    (inOrder_perm _).append_right _
  refine after.eq_recorded ((inOrder_perm _).trans perm.symm) (unique.perm perm.symm).hashes ?_
  intro before e rest split hash names
  rcases List.append_eq_append_iff.mp split with ⟨own, rfl, tail⟩ | ⟨front, whole, tail⟩
  · obtain ⟨known, sub, previous⟩ := recorded.seen transaction own e rest tail
    obtain ⟨a, found, same⟩ := Option.map_eq_some_iff.mp (previous.symm.trans names)
    have member : a ∈ known ++ own := mem_inOrder.mp (List.mem_of_getLast? found)
    refine ⟨a, ?_, same⟩
    rcases List.mem_append.mp member with old | new
    · exact List.mem_append_left _ (mem_inOrder.mpr (sub.subset old))
    · exact List.mem_append_right _ new
  · cases front with
    | nil =>
      rw [List.append_nil] at whole
      subst whole
      obtain ⟨known, sub, previous⟩ := recorded.seen transaction [] e rest tail.symm
      obtain ⟨a, found, same⟩ := Option.map_eq_some_iff.mp (previous.symm.trans names)
      have member : a ∈ known ++ [] := mem_inOrder.mp (List.mem_of_getLast? found)
      rw [List.append_nil] at member
      exact ⟨a, mem_inOrder.mpr (sub.subset member), same⟩
    | cons other front =>
      obtain ⟨rfl, -⟩ := List.cons.inj tail
      rw [whole] at links
      have tip := links.names.symm.trans names
      rw [HashChain.tip, Option.or_none] at tip
      obtain ⟨a, found, same⟩ := Option.map_eq_some_iff.mp tip
      exact ⟨a, List.mem_of_getLast? found, same⟩

/-- A commit keeps the chain exactly when the transaction follows the log. -/
theorem Recorded.commit_verifies_iff {log : AuditLog} {transaction : String} (recorded : Recorded log)
    (verified : verifyHashChain log.committed = (true, none)) :
    verifyHashChain (log.commit transaction).committed = (true, none) ↔ Follows log transaction := by
  have unique : Unique (log.committed ++ log.own transaction) := (log.commit transaction).committed_unique
  have links := (verifyHashChain_iff.mp verified).1
  change verifyHashChain (log.committed ++ log.own transaction) = (true, none) ↔ _
  rw [verifyHashChain_iff]
  constructor
  · rintro ⟨after, -⟩
    have order := recorded.committed_order links after
    rw [order] at after
    refine ⟨fun first head => ?_, order ▸ inOrder_before unique⟩
    obtain ⟨rest, own⟩ := List.head?_eq_some_iff.mp head
    rw [own] at after
    rw [latest_hash]
    exact after.names
  · intro follows
    refine ⟨?_, fun e member => recorded.sealed e ?_⟩
    · rw [inOrder_append unique follows.2]
      exact recorded.commit_links links follows
    · exact ((log.pending_perm transaction).append_left log.committed).symm.subset
        (by rw [← List.append_assoc]; exact List.mem_append_left _ member)

/-- What a step asks of the log: a commit asks that the transaction follows it. -/
def Extends (log : AuditLog) : Action → Prop
  | .commit transaction => Follows log transaction
  | _ => True

/-- In every run the chain verifies, in every state, exactly when every transaction that
commits recorded its first event against what is still the latest committed one, and its
events sort after those committed, in the order it recorded them. -/
theorem chain_verifies_iff (actions : List Action) :
    Runs.Throughout step (fun log => verifyHashChain log.committed = (true, none)) {} actions ↔
      Runs.Along step Extends {} actions := by
  apply Runs.throughout_iff fun log a (recorded : Recorded log) => recorded_step recorded a
  · intro log a recorded verified
    cases a with
    | record transaction id eventId now args =>
      refine iff_of_true ?_ trivial
      simp only [step]
      cases outcome : recordEvent log transaction id eventId now args with
      | error _ => exact verified
      | ok after =>
        change verifyHashChain after.committed = (true, none)
        rw [(recordEvent_ok outcome).1]
        exact verified
    | commit transaction => exact recorded.commit_verifies_iff verified
    | rollback transaction => exact iff_of_true verified trivial
  · refine ⟨fun e member => absurd member List.not_mem_nil, fun transaction before e after split => ?_⟩
    exact absurd split (by simp [AuditLog.own])
  · rfl

end Step

section Examples
open RCAA.PlainText PlainText

/-- The timestamp of the event an action records. -/
def Action.timestamp? : Action → Option Instant
  | .record _ _ _ now args => some (args.timestamp.getD now)
  | .commit _ | .rollback _ => none

def Successful (log : AuditLog) : Action → Prop
  | .record transaction id eventId now args => ∃ after, recordEvent log transaction id eventId now args = .ok after
  | .commit _ | .rollback _ => True

def login : EventArguments := { action := "LOGIN", resourceType := "USER" }

def firstLogin : AuditEvent := newEvent [] "a" "a" ⟨0, by decide⟩ login
def secondLogin : AuditEvent := newEvent [] "b" "b" ⟨1, by decide⟩ login

/-- Both transactions read the log before either commits. -/
def racing : List Action :=
  [.record "first" "a" "a" ⟨0, by decide⟩ login, .record "second" "b" "b" ⟨1, by decide⟩ login,
    .commit "first", .commit "second"]

theorem racing_committed :
    Runs.Along step Successful {} racing ∧ (Runs.run step {} racing).committed = [firstLogin, secondLogin] := by
  have fresh {key : String} : key ∉ ([] : List String) := List.not_mem_nil
  have outcome : login.outcome ∈ outcomes := by decide
  obtain ⟨one, recorded⟩ : ∃ after, recordEvent {} "first" "a" "a" ⟨0, by decide⟩ login = .ok after :=
    recordEvent_fresh outcome fresh fresh fresh
  obtain ⟨committed, pending⟩ := recordEvent_ok recorded
  change one.committed = [] at committed
  change one.pending = [("first", firstLogin)] at pending
  have visible : one.visible "second" = [] := by simp [AuditLog.visible, AuditLog.own, committed, pending]
  have events : one.events = [firstLogin] := by simp [AuditLog.events, committed, pending]
  have other : "b" ∉ ["a"] := by decide
  obtain ⟨both, recorded'⟩ : ∃ after, recordEvent one "second" "b" "b" ⟨1, by decide⟩ login = .ok after := by
    refine recordEvent_fresh outcome (events ▸ other) (events ▸ other) ?_
    rw [events, visible, List.map_singleton, List.mem_singleton]
    exact newEvent_hash_ne sha256_injective dumps_injective (by decide)
  obtain ⟨committed', pending'⟩ := recordEvent_ok recorded'
  rw [visible, pending] at pending'
  rw [committed] at committed'
  have first : step {} (.record "first" "a" "a" ⟨0, by decide⟩ login) = one := by
    rw [step, recorded]
    rfl
  have second : step one (.record "second" "b" "b" ⟨1, by decide⟩ login) = both := by
    rw [step, recorded']
    rfl
  constructor
  · refine ⟨⟨one, recorded⟩, ?_⟩
    rw [first]
    exact ⟨⟨both, recorded'⟩, trivial, trivial, trivial⟩
  · rw [racing, Runs.run_cons, first, Runs.run_cons, second]
    simp [step, AuditLog.commit, AuditLog.own, AuditLog.others, committed', pending', secondLogin]

/-- The second event names no event before it. -/
theorem racing_chain_breaks :
    ¬∀ actions : List Action, (actions.filterMap Action.timestamp?).Pairwise (· ≤ ·) → Runs.Along step Successful {} actions →
      verifyHashChain (Runs.run step {} actions).committed = (true, none) := by
  intro law
  obtain ⟨successful, committed⟩ := racing_committed
  have verified := law racing (by decide) successful
  rw [committed, verifyHashChain_iff] at verified
  have order : inOrder [firstLogin, secondLogin] = [firstLogin, secondLogin] := rfl
  rw [order] at verified
  cases verified.1.2.1

end Examples
end RCAA.Audit
