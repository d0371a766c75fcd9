import RCAA.Json
import RCAA.Reconciliation.Noninterference
import RCAA.Timestamps

/-! The audit table and the transactions that write to it. A transaction sees what is
committed and what it wrote itself; a row that repeats an id, an event id or a hash is
refused. The column of a timestamp keeps an instant, so a naive one is read as UTC. -/

namespace RCAA.Audit

/-! ## Events -/

structure AuditEvent where
  id : String
  eventId : String
  merchantId : Option String
  actorUserId : Option String
  actorRole : Option String
  actorType : String
  action : String
  resourceType : String
  resourceId : Option String
  requestId : Option String
  timestamp : Instant
  outcome : String
  ipAddress : Option String
  metadataJson : Json
  beforeSnapshot : Json
  afterSnapshot : Json
  previousEventHash : Option String
  eventHash : String
deriving DecidableEq

/-- `timestamp.desc(), id.desc()` read backwards. -/
def inOrder (events : List AuditEvent) : List AuditEvent := orderRows (fun e => ⟨e.timestamp.1, some 0⟩) (·.id) events

/-- `_latest`. -/
def latest (events : List AuditEvent) : Option AuditEvent := (inOrder events).getLast?

theorem mem_inOrder {events : List AuditEvent} {e : AuditEvent} : e ∈ inOrder events ↔ e ∈ events :=
  List.mem_insertionSort _

/-! ## Transactions -/

/-- The unique columns of the table. -/
structure Unique (events : List AuditEvent) : Prop where
  ids : (events.map (·.id)).Nodup
  eventIds : (events.map (·.eventId)).Nodup
  hashes : (events.map (·.eventHash)).Nodup

namespace Unique

theorem perm {events others : List AuditEvent} (unique : Unique events) (perm : events.Perm others) : Unique others :=
  ⟨(perm.map _).nodup_iff.mp unique.ids, (perm.map _).nodup_iff.mp unique.eventIds, (perm.map _).nodup_iff.mp unique.hashes⟩

theorem sublist {events others : List AuditEvent} (unique : Unique others) (sub : events.Sublist others) : Unique events :=
  ⟨unique.ids.sublist (sub.map _), unique.eventIds.sublist (sub.map _), unique.hashes.sublist (sub.map _)⟩

theorem snoc {events : List AuditEvent} (unique : Unique events) {event : AuditEvent} (id : event.id ∉ events.map (·.id))
    (eventId : event.eventId ∉ events.map (·.eventId)) (hash : event.eventHash ∉ events.map (·.eventHash)) :
    Unique (events ++ [event]) :=
  ⟨KeyedRows.nodup_snoc AuditEvent.id unique.ids id, KeyedRows.nodup_snoc AuditEvent.eventId unique.eventIds eventId,
    KeyedRows.nodup_snoc AuditEvent.eventHash unique.hashes hash⟩

end Unique

/-- The committed events, and those of the open transactions in the order they were recorded. -/
structure AuditLog where
  committed : List AuditEvent := []
  pending : List (String × AuditEvent) := []
  unique : Unique (committed ++ pending.map Prod.snd) := by exact ⟨List.nodup_nil, List.nodup_nil, List.nodup_nil⟩

namespace AuditLog

def events (log : AuditLog) : List AuditEvent := log.committed ++ log.pending.map Prod.snd

theorem committed_unique (log : AuditLog) : Unique log.committed := log.unique.sublist (List.sublist_append_left _ _)

/-- The events of an open transaction. -/
def own (log : AuditLog) (transaction : String) : List AuditEvent :=
  (log.pending.filter fun entry => entry.1 = transaction).map Prod.snd

def others (log : AuditLog) (transaction : String) : List (String × AuditEvent) :=
  log.pending.filter fun entry => entry.1 ≠ transaction

def visible (log : AuditLog) (transaction : String) : List AuditEvent := log.committed ++ log.own transaction

theorem pending_perm (log : AuditLog) (transaction : String) :
    (log.pending.map Prod.snd).Perm (log.own transaction ++ (log.others transaction).map Prod.snd) := by
  rw [own, others, ← List.map_append]
  simpa only [decide_not] using (List.filter_append_perm (fun entry => decide (entry.1 = transaction)) log.pending).symm.map _

/-- Closing a transaction takes its own events and no others. -/
theorem own_closed {log after : AuditLog} {transaction : String} (closed : after.pending = log.others transaction)
    (other : String) : after.own other = if other = transaction then [] else log.own other := by
  simp only [own, closed, others, List.filter_filter]
  split
  · next same =>
    subst same
    simp
  · next differs =>
    congr 1
    apply List.filter_congr
    intro entry _
    by_cases mine : entry.1 = other
    · simp [mine, differs]
    · simp [mine]

def insert (log : AuditLog) (transaction : String) (event : AuditEvent) (id : event.id ∉ log.events.map (·.id))
    (eventId : event.eventId ∉ log.events.map (·.eventId)) (hash : event.eventHash ∉ log.events.map (·.eventHash)) :
    AuditLog where
  committed := log.committed
  pending := log.pending ++ [(transaction, event)]
  unique := by
    rw [List.map_append, List.map_singleton, ← List.append_assoc]
    exact log.unique.snoc id eventId hash

def commit (log : AuditLog) (transaction : String) : AuditLog where
  committed := log.committed ++ log.own transaction
  pending := log.others transaction
  unique := by
    refine log.unique.perm ?_
    rw [List.append_assoc]
    exact (log.pending_perm transaction).append_left _

def rollback (log : AuditLog) (transaction : String) : AuditLog where
  committed := log.committed
  pending := log.others transaction
  unique := log.unique.sublist ((List.filter_sublist.map _).append_left _)

end AuditLog

end RCAA.Audit
