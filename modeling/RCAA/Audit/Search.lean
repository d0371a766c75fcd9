import RCAA.Api.Desk
import RCAA.Audit.Chain

/-! Searching the audit events of a merchant page by page, while transactions go on recording.
The order of a search tells all events apart, and no event leaves the table, so an event that
was there when the reader began is on one of the pages. -/

namespace RCAA.Audit
open Api (requireRoles requireBody)
open Cases (given)
open Security (Failure User)

/-! ## Queries -/

structure EventFilters where
  action : Option String := none
  actorUserId : Option String := none
  resourceType : Option String := none
  resourceId : Option String := none
  outcome : Option String := none
  startDate : Option DateTime := none
  endDate : Option DateTime := none
  requestId : Option String := none

def EventFilters.admits (filters : EventFilters) (e : AuditEvent) : Bool :=
  ((given filters.action).all fun action => e.action = action) &&
  ((given filters.actorUserId).all fun actor => e.actorUserId = some actor) &&
  ((given filters.resourceType).all fun type => e.resourceType = type) &&
  ((given filters.resourceId).all fun resource => e.resourceId = some resource) &&
  ((given filters.outcome).all fun outcome => e.outcome = outcome) &&
  (filters.startDate.all fun start => start.instant ≤ e.timestamp.1) &&
  (filters.endDate.all fun stop => e.timestamp.1 ≤ stop.instant) &&
  ((given filters.requestId).all fun request => e.requestId = some request)

/-- The events of a merchant that the filters admit, the latest first. -/
def searched (stored : List AuditEvent) (merchantId : String) (filters : EventFilters) : List AuditEvent :=
  (inOrder (stored.filter fun e => e.merchantId = some merchantId && filters.admits e)).reverse

/-- `list_events`: a page and the count of all. -/
def listEvents (stored : List AuditEvent) (merchantId : String) (filters : EventFilters) (page limit : Int) : List AuditEvent × Nat :=
  let found := searched stored merchantId filters
  (Paging.page ((page - 1) * limit).toNat limit.toNat found, found.length)

def getEvent (stored : List AuditEvent) (eventId merchantId : String) : Option AuditEvent :=
  stored.find? fun e => e.eventId = eventId ∧ e.merchantId = some merchantId

/-! ## Requests -/

structure AuditEventView where
  eventId : String
  merchantId : Option String
  actorUserId : Option String
  actorRole : Option String
  actorType : String
  action : String
  resourceType : String
  resourceId : Option String
  requestId : Option String
  timestamp : Instant
  outcome : String
  ipAddress : Option String
  metadata : List (String × Json)
  beforeSnapshot : Option (List (String × Json))
  afterSnapshot : Option (List (String × Json))
  previousEventHash : Option String
  eventHash : String
deriving DecidableEq

/-- A `dict`, or the answer fails. -/
def dictOf : Json → Except Failure (List (String × Json))
  | .object fields => .ok fields
  | _ => .error .raised

/-- `dict | None`. -/
def snapshotOf : Json → Except Failure (Option (List (String × Json)))
  | .scalar .null => .ok none
  | snapshot => (dictOf snapshot).map some

def viewOf (e : AuditEvent) : Except Failure AuditEventView := do
  let metadata ← dictOf (orEmpty e.metadataJson)
  let beforeSnapshot ← snapshotOf e.beforeSnapshot
  let afterSnapshot ← snapshotOf e.afterSnapshot
  return {
    eventId := e.eventId
    merchantId := e.merchantId
    actorUserId := e.actorUserId
    actorRole := e.actorRole
    actorType := e.actorType
    action := e.action
    resourceType := e.resourceType
    resourceId := e.resourceId
    requestId := e.requestId
    timestamp := e.timestamp
    outcome := e.outcome
    ipAddress := e.ipAddress
    metadata
    beforeSnapshot
    afterSnapshot
    previousEventHash := e.previousEventHash
    eventHash := e.eventHash }

structure EventPage where
  items : List AuditEventView
  page : Int
  limit : Int
  total : Nat
  pages : Int
deriving DecidableEq

def readers : List String := ["ADMIN", "OPS", "ANALYST"]

def events (stored : List AuditEvent) (user : User) (filters : EventFilters) (page limit : Int) : Except Failure EventPage := do
  requireRoles readers user
  requireBody ((filters.outcome.all (· ∈ outcomes)) && 1 ≤ page && 1 ≤ limit && limit ≤ 200)
  let (found, total) := listEvents stored user.merchantId filters page limit
  let items ← found.mapM viewOf
  return { items, page, limit, total, pages := (total + limit - 1) / limit }

def eventDetail (stored : List AuditEvent) (user : User) (eventId : String) : Except Failure AuditEventView := do
  requireRoles readers user
  match getEvent stored eventId user.merchantId with
  | none => .error (.http 404 "Audit event not found")
  | some e => viewOf e

/-! ## Searches -/

section Searches
variable {stored more : List AuditEvent} {merchantId : String} {filters : EventFilters} {user : User}

theorem mem_searched {e : AuditEvent} :
    e ∈ searched stored merchantId filters ↔ e ∈ stored ∧ e.merchantId = some merchantId ∧ filters.admits e = true := by
  simp only [searched, List.mem_reverse, mem_inOrder, List.mem_filter, Bool.and_eq_true, decide_eq_true_eq]

/-- Some of the events are in the order of all. -/
theorem inOrder_sublist (unique : Unique stored) (sub : more.Sublist stored) : (inOrder more).Sublist (inOrder stored) := by
  have antisymm : Std.Antisymm Before := ⟨fun _ _ before after => absurd after before.asymm⟩
  refine List.sublist_of_subperm_of_pairwise ?_ (inOrder_before (unique.sublist sub)) (inOrder_before unique)
  exact ((inOrder_perm more).subperm.trans sub.subperm).trans (inOrder_perm stored).symm.subperm

/-- A search finds what it found before, in the same order, and may find more. -/
theorem searched_sublist (unique : Unique stored) (sub : more.Sublist stored) :
    (searched more merchantId filters).Sublist (searched stored merchantId filters) :=
  (inOrder_sublist (unique.sublist List.filter_sublist) (sub.filter _)).reverse

theorem viewOf_eventId {e : AuditEvent} {view : AuditEventView} (shown : viewOf e = .ok view) : view.eventId = e.eventId := by
  obtain ⟨metadata, _, shown⟩ := Outcome.bind_ok shown
  obtain ⟨beforeSnapshot, _, shown⟩ := Outcome.bind_ok shown
  obtain ⟨afterSnapshot, _, shown⟩ := Outcome.bind_ok shown
  cases shown
  rfl

/-- The request of a page that is answered. -/
theorem events_ok {page limit : Int} {answer : EventPage} (done : events stored user filters page limit = .ok answer) :
    user.role ∈ readers ∧ 1 ≤ limit ∧
      List.Forall₂ (fun e view => viewOf e = .ok view)
        (Paging.page ((page - 1) * limit).toNat limit.toNat (searched stored user.merchantId filters)) answer.items ∧
      answer.pages = ((searched stored user.merchantId filters).length + limit - 1) / limit := by
  obtain ⟨_, allowed, done⟩ := Outcome.bind_ok done
  obtain ⟨_, valid, done⟩ := Outcome.bind_ok done
  obtain ⟨items, shown, done⟩ := Outcome.bind_ok done
  cases done
  refine ⟨?_, ?_, Outcome.mapM_forall₂ shown, rfl⟩
  · unfold requireRoles at allowed
    split at allowed
    · assumption
    · cases allowed
  · unfold requireBody at valid
    split at valid
    · next body =>
      simp only [Bool.and_eq_true, decide_eq_true_eq] at body
      exact body.1.2
    · cases valid

/-- The event of an id is found by it. -/
theorem getEvent_eq (unique : Unique stored) {e : AuditEvent} (member : e ∈ stored) (merchant : e.merchantId = some merchantId) :
    getEvent stored e.eventId merchantId = some e := by
  unfold getEvent
  cases found : stored.find? fun other => other.eventId = e.eventId ∧ other.merchantId = some merchantId with
  | none => simpa [merchant] using List.find?_eq_none.mp found e member
  | some other =>
    have same : other.eventId = e.eventId ∧ other.merchantId = some merchantId := by simpa using List.find?_some found
    rw [KeyedRows.faithful_of_nodup AuditEvent.eventId unique.eventIds other (List.mem_of_find?_eq_some found) e member same.1]

end Searches

/-! ## Searches while events are recorded -/

section Growing
variable [Platform] [AuditHashing]

theorem committed_step (log : AuditLog) (a : Action) : log.committed.Sublist (step log a).committed := by
  cases a with
  | record transaction id eventId now args =>
    simp only [step]
    cases recorded : recordEvent log transaction id eventId now args with
    | error failure => exact List.Sublist.refl _
    | ok after =>
      change log.committed.Sublist after.committed
      rw [(recordEvent_ok recorded).1]
  | commit transaction => exact List.sublist_append_left _ _
  | rollback transaction => exact List.Sublist.refl _

theorem committed_run (log : AuditLog) (actions : List Action) : log.committed.Sublist (Runs.run step log actions).committed := by
  have kept : ∀ after a, log.committed.Sublist after.committed → log.committed.Sublist (step after a).committed :=
    fun after a sub => sub.trans (committed_step after a)
  exact Runs.invariant kept (List.Sublist.refl _) actions

/-- A reader asks for page after page of a search until the answer says that it is the last, while transactions record,
commit and roll back in between. Every event of the search that was committed when the reader began is on one of the pages,
the pages show nothing but events of the search, and what they show of an event the event's own page shows from then on. -/
theorem search_complete {user : User} {filters : EventFilters} {limit : Int} {last : Nat} {logs : Nat → AuditLog}
    {between : Nat → List Action} (goes : ∀ i, logs (i + 1) = Runs.run step (logs i) (between i)) {answers : Nat → EventPage}
    (read : ∀ i ≤ last, events (logs i).committed user filters (i + 1) limit = .ok (answers i))
    (ended : (answers last).pages ≤ last + 1) :
    (∀ e ∈ (logs 0).committed, e.merchantId = some user.merchantId → filters.admits e = true →
      ∃ i ≤ last, ∃ view ∈ (answers i).items, viewOf e = .ok view) ∧
    ∀ i ≤ last, ∀ view ∈ (answers i).items,
      (∃ e ∈ (logs i).committed, e.merchantId = some user.merchantId ∧ filters.admits e = true ∧ viewOf e = .ok view) ∧
      ∀ later, eventDetail (Runs.run step (logs i) later).committed user view.eventId = .ok view := by
  obtain ⟨allowed, positive, _, pages⟩ := events_ok (read last le_rfl)
  obtain ⟨count, rfl⟩ := Int.eq_ofNat_of_zero_le (show 0 ≤ limit by omega)
  have skip (i : Nat) : (((i : Int) + 1 - 1) * (count : Int)).toNat = i * count := by
    rw [Int.add_sub_cancel, ← Int.natCast_mul, Int.toNat_natCast]
  constructor
  · intro e member merchant admitted
    have grows (i : Nat) : (searched (logs i).committed user.merchantId filters).Sublist
        (searched (logs (i + 1)).committed user.merchantId filters) := by
      refine searched_sublist (logs (i + 1)).committed_unique ?_
      rw [goes i]
      exact committed_run _ _
    have whole : (searched (logs last).committed user.merchantId filters).length ≤ (last + 1) * count := by
      rw [pages] at ended
      have bound := Int.lt_mul_of_ediv_lt (by omega) (Int.lt_add_one_of_le ended)
      rw [add_mul, one_mul] at bound
      have most : ((searched (logs last).committed user.merchantId filters).length : Int) ≤ (last + 1) * count := by omega
      exact_mod_cast most
    obtain ⟨i, within, shown⟩ := Paging.mem_growing_pages grows (mem_searched.mpr ⟨member, merchant, admitted⟩) whole
    obtain ⟨_, _, items, _⟩ := events_ok (read i within)
    rw [skip, Int.toNat_natCast] at items
    obtain ⟨view, listed, view_of⟩ := Outcome.forall₂_left items shown
    exact ⟨i, within, view, listed, view_of⟩
  · intro i within view listed
    obtain ⟨_, _, items, _⟩ := events_ok (read i within)
    obtain ⟨e, shown, view_of⟩ := Outcome.forall₂_right items listed
    obtain ⟨member, merchant, admitted⟩ := mem_searched.mp (List.mem_of_mem_drop (List.mem_of_mem_take shown))
    refine ⟨⟨e, member, merchant, admitted, view_of⟩, fun later => ?_⟩
    have kept : e ∈ (Runs.run step (logs i) later).committed := (committed_run (logs i) later).subset member
    have found := getEvent_eq (Runs.run step (logs i) later).committed_unique kept merchant
    have passes : requireRoles readers user = .ok () := if_pos allowed
    unfold eventDetail
    rw [passes, viewOf_eventId view_of]
    change (match getEvent _ e.eventId user.merchantId with
      | none => Except.error (Failure.http 404 "Audit event not found")
      | some e => viewOf e) = _
    rw [found]
    exact view_of

end Growing

section Examples
open RCAA.PlainText PlainText

def ofReport : EventArguments := { action := "REPORT_EXPORTED", resourceType := "REPORT", merchantId := some "m1" }

def exported (id : String) (time : Instant) : AuditEvent := { newEvent [] id id time ofReport with eventHash := id }

def analyst : User := { id := "u1", email := "a@m1", passwordHash := "", merchantId := "m1", role := "ANALYST" }

/-- One of the first instants of the epoch. -/
def early (n : Fin 3) : Instant := ⟨n.val, by unfold firstInstant lastInstant; omega⟩

def twoExports : AuditLog where
  committed := [exported "a" (early 0), exported "b" (early 1)]
  unique := ⟨by decide, by decide, by decide⟩

/-- A third export is committed when the first page is read. -/
def thirdExport : Nat → List Action
  | 0 => [.record "t" "c" "c" (early 2) ofReport, .commit "t"]
  | _ => []

def growing : Nat → AuditLog
  | 0 => twoExports
  | i + 1 => Runs.run step (growing i) (thirdExport i)

def shownAt (i : Nat) : EventPage := ((events (growing i).committed analyst {} (i + 1) 1).toOption).getD ⟨[], 0, 0, 0, 0⟩

/-- The event of the first page is on the second again, and the other one on the third. -/
example : [0, 1, 2].map (fun i => (shownAt i).items.map (·.eventId)) = [["b"], ["b"], ["a"]] := by decide +kernel

theorem search_complete_growing :
    (∀ e ∈ twoExports.committed, e.merchantId = some "m1" → EventFilters.admits {} e = true →
      ∃ i ≤ 2, ∃ view ∈ (shownAt i).items, viewOf e = .ok view) ∧
    ∀ i ≤ 2, ∀ view ∈ (shownAt i).items,
      (∃ e ∈ (growing i).committed, e.merchantId = some "m1" ∧ EventFilters.admits {} e = true ∧ viewOf e = .ok view) ∧
      ∀ later, eventDetail (Runs.run step (growing i) later).committed analyst view.eventId = .ok view := by
  have read : ∀ i ≤ 2, events (growing i).committed analyst {} (i + 1) 1 = .ok (shownAt i) := by decide +kernel
  have ended : (shownAt 2).pages ≤ ((2 : Nat) : Int) + 1 := by decide +kernel
  exact search_complete (fun _ => rfl) read ended

end Examples
end RCAA.Audit
