import RCAA.Library.Journal
import RCAA.SystemProofs

/-! The life of a case. Its status, the columns of its resolution and the events of its
timeline are written separately, by eight operations that may raise at several places. In
every run of the service the status is the one its timeline replays to, the resolution
columns agree with it, and no operation that raises writes to a case or a timeline. -/

namespace RCAA
open Cases Journal

/-! ## Timelines -/

/-- The events that give a case another status. -/
def statusEvents : List String := ["CASE_STATUS_CHANGED", "CASE_RESOLVED", "CASE_REOPENED"]

/-- The status of a case after an event of its timeline. -/
def statusAfter (status : String) (e : CaseEvent) : String :=
  if e.eventType = "CASE_STATUS_CHANGED" then (CaseMetadata.getText e.metadataJson "to").getD status
  else if e.eventType = "CASE_RESOLVED" then CaseStatus.resolved.value
  else if e.eventType = "CASE_REOPENED" then CaseStatus.reopened.value
  else status

theorem quiet_of_type {e : CaseEvent} (other : e.eventType ∉ statusEvents) : Quiet statusAfter e := by
  intro status
  simp only [statusEvents, List.mem_cons, List.not_mem_nil, or_false, not_or] at other
  rw [statusAfter, if_neg other.1, if_neg other.2.1, if_neg other.2.2]

def Desk.timeline (desk : Desk) (caseId : String) : List CaseEvent := history CaseEvent.caseId caseId desk.events

/-! ## A case and its timeline -/

/-- The columns of a resolution agree with the status. -/
structure CaseRow.Coherent (c : CaseRow) : Prop where
  resolvedAt : c.resolvedAt.isSome ↔ c.status = CaseStatus.resolved.value
  code : c.status = CaseStatus.resolved.value → ∃ code : ResolutionCode, c.resolutionCode = some code.value

theorem CaseRow.Coherent.of_unresolved {c : CaseRow} (unresolved : c.resolvedAt = none)
    (other : c.status ≠ CaseStatus.resolved.value) : c.Coherent :=
  ⟨iff_of_false (by simp [unresolved]) other, fun resolved => absurd resolved other⟩

/-- A case that is not resolved has no time of a resolution. -/
theorem CaseRow.Coherent.unresolved {c : CaseRow} (coherent : c.Coherent) (other : c.status ≠ CaseStatus.resolved.value) :
    c.resolvedAt = none := by
  rw [← Option.not_isSome_iff_eq_none]
  exact fun there => other (coherent.resolvedAt.mp there)

/-- A case as its timeline tells it. -/
structure CaseRow.Follows (c : CaseRow) (timeline : List CaseEvent) : Prop where
  status : c.status = replay statusAfter CaseStatus.opened.value timeline
  coherent : c.Coherent

/-- Another status comes by a valid transition. -/
def CaseRow.Moves (c c' : CaseRow) : Prop :=
  c'.status = c.status ∨ ∃ current target : CaseStatus, c.status = current.value ∧ c'.status = target.value ∧
    target ∈ current.validTransitions

/-- Every case shows what its timeline replays to, and is coherent. -/
structure Desk.Chronicled (desk : Desk) : Prop where
  kept : Journal.Kept CaseEvent.caseId statusAfter (·.id) (fun (c : CaseRow) status => c.status = status)
    CaseStatus.opened.value desk.cases desk.events
  coherent : ∀ c ∈ desk.cases, c.Coherent

theorem Desk.Chronicled.follows {desk : Desk} (chronicled : desk.Chronicled) :
    ∀ c ∈ desk.cases, c.Follows (desk.timeline c.id) :=
  fun c member => ⟨chronicled.kept.replays c member, chronicled.coherent c member⟩

/-! ## Calls that open cases -/

/-- New cases are open and the new events say nothing about a status. -/
def Grows (desk after : Desk) : Prop :=
  ∃ (new : List CaseRow) (added : List CaseEvent), after.cases = desk.cases ++ new ∧ after.events = desk.events ++ added ∧
    (∀ c ∈ new, c.status = CaseStatus.opened.value ∧ c.resolvedAt = none) ∧ ∀ e ∈ added, e.eventType ∉ statusEvents

namespace Grows
variable {desk middle after : Desk}

theorem of_same (cases : after.cases = desk.cases) (events : after.events = desk.events) : Grows desk after :=
  ⟨[], [], by rw [cases, List.append_nil], by rw [events, List.append_nil], by simp, by simp⟩

theorem refl (desk : Desk) : Grows desk desk := of_same rfl rfl

theorem trans (first : Grows desk middle) (second : Grows middle after) : Grows desk after := by
  obtain ⟨new, added, cases, events, opened, quiet⟩ := first
  obtain ⟨new', added', cases', events', opened', quiet'⟩ := second
  refine ⟨new ++ new', added ++ added', ?_, ?_, List.forall_mem_append.mpr ⟨opened, opened'⟩,
    List.forall_mem_append.mpr ⟨quiet, quiet'⟩⟩
  · rw [cases', cases, List.append_assoc]
  · rw [events', events, List.append_assoc]

theorem log (desk : Desk) (caseId : String) {eventType : String} (metadata : CaseMetadata)
    (other : eventType ∉ statusEvents) : Grows desk (desk.log caseId eventType metadata) :=
  ⟨[], [⟨caseId, eventType, metadata⟩], (List.append_nil _).symm, rfl, by simp, by simpa using other⟩

theorem insertCase {row : CaseRow} {year : Nat}
    {numbered : row.caseNumber = nextCaseNumber (desk.cases.map (·.caseNumber)) year} (opened : row.status = CaseStatus.opened.value)
    (unresolved : row.resolvedAt = none) (inserted : desk.insertCase row year numbered = .ok after) : Grows desk after := by
  obtain ⟨cases, _, _, _, events⟩ := Desk.insertCase_ok inserted
  exact ⟨[row], [], cases, by rw [events, List.append_nil], by simpa using ⟨opened, unresolved⟩, by simp⟩

theorem ensureRecovery (keys : KeySource) (now : Int) (desk : Desk) (case : CaseRow) :
    Grows desk (Cases.ensureRecovery keys now desk case).2 :=
  of_same (ensureRecovery_keeps_cases keys now desk case) (ensureRecovery_keeps_events keys now desk case)

theorem nameCase {exceptionId caseId : String} (named : desk.nameCase exceptionId caseId = .ok after) :
    Grows desk after := by
  obtain ⟨cases, _, events⟩ := Desk.nameCase_ok named
  exact of_same cases events

/-- Opening a case keeps the desk chronicled: its key is new, so no event told of it before. -/
theorem chronicled (grows : Grows desk after) (before : desk.Chronicled) : after.Chronicled := by
  obtain ⟨new, added, cases, events, opened, quiet⟩ := grows
  have distinct := after.caseIds
  rw [cases] at distinct
  constructor
  · rw [cases, events]
    exact before.kept.grow distinct (fun c member => (opened c member).1) fun e member => quiet_of_type (quiet e member)
  · intro c member
    rw [cases] at member
    rcases List.mem_append.mp member with old | made
    · exact before.coherent c old
    · obtain ⟨status, unresolved⟩ := opened c made
      exact .of_unresolved unresolved (by rw [status]; decide)

theorem keeps (grows : Grows desk after) : ∀ c ∈ desk.cases, c ∈ after.cases := by
  obtain ⟨new, _, cases, _⟩ := grows
  intro c member
  rw [cases]
  exact List.mem_append_left _ member

end Grows

section Opening
variable [Platform] {settings : Settings} {keys : KeySource} {now : Int} {desk desk' : Desk} {args : CaseArguments}
  {row : CaseRow} {created : Bool}

omit [Platform] in
theorem attachOpened_grows {caseId : String} {exception : Option ReconciliationException}
    (attached : attachOpened desk caseId exception = .ok desk') : Grows desk desk' := by
  cases exception with
  | none =>
    cases attached
    exact .refl desk
  | some exception =>
    simp only [attachOpened] at attached
    split at attached
    · have linked : Grows desk ((desk.link caseId exception.id ‹_›).log caseId "EXCEPTION_ATTACHED"
          [("exception_id", .text exception.id)]) :=
        (Grows.of_same rfl rfl).trans (.log (desk.link caseId exception.id ‹_›) caseId _ (by decide))
      exact linked.trans (.nameCase attached)
    · cases attached

theorem openCase_grows {exception : Option ReconciliationException}
    (made : openCase settings keys now desk args exception = .ok (row, created, desk')) : Grows desk desk' := by
  unfold openCase at made
  split at made
  · cases made
  · obtain ⟨inserted, accepted, made⟩ := Outcome.bind_ok made
    obtain ⟨attached, attaching, made⟩ := Outcome.bind_ok made
    have written : Grows desk attached := by
      have first : Grows desk inserted := .insertCase rfl rfl accepted
      have second := first.trans (.ensureRecovery keys now inserted (Cases.newCase settings keys now desk args exception))
      exact (second.trans (.log _ _ [] (by decide))).trans (attachOpened_grows attaching)
    cases made
    refine written.trans ?_
    split
    · exact .log _ _ _ (by decide)
    · exact .refl attached

theorem createCase_grows (made : Cases.createCase settings keys now desk args = .ok (row, created, desk')) :
    Grows desk desk' := by
  unfold Cases.createCase at made
  split at made
  · exact openCase_grows made
  · split at made
    · cases made
    · split at made
      · cases made
        exact .refl desk
      · exact openCase_grows made

end Opening

section Recording
variable [Hashing] {settings : Settings} {keys : KeySource} {now : Int} {desk desk' : Desk}

theorem recordCase_grows {request : CaseRequest} (recorded : recordCase settings keys now desk request = .ok desk') :
    Grows desk desk' := by
  unfold recordCase at recorded
  simp only at recorded
  split at recorded
  · cases recorded
    exact .refl desk
  · obtain ⟨inserted, accepted, recorded⟩ := Outcome.bind_ok recorded
    cases recorded
    exact (Grows.insertCase rfl rfl accepted).trans (.log _ _ [] (by decide))

theorem recordCases_grows {requests : List CaseRequest}
    (recorded : requests.foldlM (recordCase settings keys now) desk = .ok desk') : Grows desk desk' := by
  induction requests generalizing desk with
  | nil =>
    cases recorded
    exact .refl _
  | cons request rest ih =>
    obtain ⟨middle, first, others⟩ := Outcome.foldlM_ok_cons recorded
    exact (recordCase_grows first).trans (ih others)

omit [Hashing] in
theorem recordException_grows [Exceptions.ExceptionHashing] {request : Exceptions.ExceptionRequest}
    {new : (request.content settings).fingerprint ∉ desk.exceptions.map (·.fingerprint)}
    (recorded : Exceptions.recordException settings keys desk request new = .ok desk') : Grows desk desk' := by
  obtain ⟨stored, inserted, linked⟩ := Outcome.bind_ok recorded
  have first : Grows desk stored := by
    simp only [Desk.insertException] at inserted
    split at inserted
    · cases inserted
      exact .of_same rfl rfl
    · cases inserted
  cases request with
  | duplicate =>
    cases linked
    exact first
  | ofCase case =>
    simp only [Exceptions.linkRecorded] at linked
    split at linked
    · next added =>
      cases linked
      have second : Grows stored (stored.link case.id _ added) := .of_same rfl rfl
      exact (first.trans second).trans (.log _ _ _ (by decide))
    · cases linked

omit [Hashing] in
theorem generateExceptions_grows [Exceptions.ExceptionHashing] {batches : List IngestionBatch} {merchantId : Option String}
    {report : Exceptions.GenerationReport}
    (done : Exceptions.generateExceptions settings keys batches desk merchantId = .ok (report, desk')) :
    Grows desk desk' := by
  have pass : ∀ {d d' : Desk} {requests : List Exceptions.ExceptionRequest} {created : Nat},
      (Exceptions.exceptionRegistry settings keys).putAll d requests = .ok (d', created) → Grows d d' := fun {d} _ _ _ put =>
    Registry.putAll_relates _ (R := fun after _ => Grows d after)
      (fun grows recorded => grows.trans (recordException_grows recorded)) (.refl d) put
  obtain ⟨⟨middle, ofBatches⟩, first, done⟩ := Outcome.bind_ok done
  obtain ⟨⟨last, ofCases⟩, second, done⟩ := Outcome.bind_ok done
  cases done
  exact (pass first).trans (pass second)

end Recording

/-! ## Operations on a case -/

/-- What an operation writes to the row and the timeline of its case: nothing that is said
here, or one valid transition with its event. -/
inductive LifeWrite (case : CaseRow) (write : CaseRow → CaseRow) (added : List CaseEvent) : Prop where
  | kept (same : ∀ c, (write c).status = c.status ∧ (write c).resolvedAt = c.resolvedAt ∧
      (write c).resolutionCode = c.resolutionCode) (quiet : ∀ e ∈ added, e.eventType ∉ statusEvents)
  | moved (current target : CaseStatus) (stands : case.status = current.value)
      (valid : target ∈ current.validTransitions) (status : ∀ c, (write c).status = target.value)
      (told : ∀ s, replay statusAfter s added = target.value)
      (coherent : ∀ c, c.status = current.value → c.Coherent → (write c).Coherent)

/-- The case is written and events are added to its timeline, and no other case is. -/
def Writing (desk : Desk) (case : CaseRow) (after : Desk) : Prop :=
  ∃ write added, after.cases = KeyedRows.update (·.id) case.id write desk.cases ∧ after.events = desk.events ++ added ∧
    (∀ c, (write c).id = c.id) ∧ (∀ e ∈ added, e.caseId = case.id) ∧ LifeWrite case write added

namespace Writing
variable {desk after : Desk} {case : CaseRow}

theorem of_same (cases : after.cases = desk.cases) (events : after.events = desk.events) : Writing desk case after := by
  refine ⟨id, [], ?_, by rw [events, List.append_nil], fun _ => rfl, by simp, .kept (fun _ => ⟨rfl, rfl, rfl⟩) (by simp)⟩
  rw [cases, KeyedRows.update_id]

/-- An operation that writes other columns of the case and one event that names no status. -/
theorem of_quiet (write : CaseRow → CaseRow) {eventType : String} {metadata : CaseMetadata}
    (cases : after.cases = KeyedRows.update (·.id) case.id write desk.cases)
    (events : after.events = desk.events ++ [⟨case.id, eventType, metadata⟩])
    (fixed : ∀ c, (write c).id = c.id ∧ (write c).status = c.status ∧ (write c).resolvedAt = c.resolvedAt ∧
      (write c).resolutionCode = c.resolutionCode) (other : eventType ∉ statusEvents) : Writing desk case after :=
  ⟨write, _, cases, events, fun c => (fixed c).1, by simp, .kept (fun c => (fixed c).2) (by simpa using other)⟩

theorem touched {eventType : String} {metadata : CaseMetadata} (time : Int)
    (cases : after.cases = KeyedRows.update (·.id) case.id (fun c => { c with updatedAt := time }) desk.cases)
    (events : after.events = desk.events ++ [⟨case.id, eventType, metadata⟩]) (other : eventType ∉ statusEvents) :
    Writing desk case after := .of_quiet _ cases events (fun _ => ⟨rfl, rfl, rfl, rfl⟩) other

/-- A chronicled desk stays so. -/
theorem chronicled (writing : Writing desk case after) (member : case ∈ desk.cases) (before : desk.Chronicled) :
    after.Chronicled := by
  obtain ⟨write, added, cases, events, fixed, own, life⟩ := writing
  have only : ∀ c ∈ desk.cases, c.id = case.id → c = case := fun c inside same =>
    KeyedRows.faithful_of_nodup _ desk.caseIds c inside case member same
  constructor
  · rw [cases, events]
    refine before.kept.update fixed own (List.mem_map_of_mem member) ?_
    intro c inside same status shown
    cases life with
    | kept same quiet =>
      rw [replay_quiet fun e added => quiet_of_type (quiet e added)]
      exact (same c).1.trans shown
    | moved current target stands valid written told coherent => rw [told]; exact written c
  · intro c member'
    rw [cases] at member'
    rcases (KeyedRows.mem_update _ c).mp member' with ⟨old, _⟩ | ⟨row, old, same, rfl⟩
    · exact before.coherent c old
    · have coherent := before.coherent row old
      cases life with
      | kept same quiet =>
        obtain ⟨status, resolvedAt, code⟩ := same row
        exact ⟨by rw [status, resolvedAt]; exact coherent.resolvedAt, by rw [status, code]; exact coherent.code⟩
      | moved current target stands valid written told still =>
        exact still row (only row old same ▸ stands) coherent

/-- The cases afterwards: each as it was, or moved. -/
theorem moves (writing : Writing desk case after) (member : case ∈ desk.cases) :
    ∀ c ∈ desk.cases, ∃ c' ∈ after.cases, c'.id = c.id ∧ c.Moves c' := by
  obtain ⟨write, added, cases, events, fixed, own, life⟩ := writing
  intro c inside
  by_cases same : c.id = case.id
  · obtain rfl : c = case := KeyedRows.faithful_of_nodup _ desk.caseIds c inside case member same
    refine ⟨write c, ?_, fixed c, ?_⟩
    · rw [cases, KeyedRows.mem_update]
      exact .inr ⟨c, inside, rfl, rfl⟩
    · cases life with
      | kept same quiet => exact .inl (same c).1
      | moved current target stands valid status told coherent =>
        exact .inr ⟨current, target, stands, status c, valid⟩
  · refine ⟨c, ?_, rfl, .inl rfl⟩
    rw [cases, KeyedRows.mem_update]
    exact .inl ⟨inside, same⟩

end Writing

section Operations
variable [Platform] {keys : KeySource} {now : Int} {bank : List BankTransaction} {desk : Desk} {case : CaseRow}

/-- How an operation on a case ends. -/
def outcome (keys : KeySource) (now : Int) (bank : List BankTransaction) (desk : Desk) (case : CaseRow) :
    CaseOperation → Except CaseError Unit
  | .ensureRecovery => .ok ()
  | .initiateRecovery request => (Cases.initiateRecovery keys now desk case request).map fun _ => ()
  | .verifyRecovery bankTransactionId note => (Cases.verifyRecovery keys now bank desk case bankTransactionId note).1
  | .markUnrecoverable note => (Cases.markUnrecoverable keys now desk case note).map fun _ => ()
  | .transition target resolutionCode resolutionNote =>
    (Cases.transition keys now desk case target resolutionCode resolutionNote).map fun _ => ()
  | .assignCase assignedTo => (Cases.assignCase now desk case assignedTo).map fun _ => ()
  | .addNote note authorReference => (Cases.addNote keys now desk case note authorReference).map fun _ => ()
  | .attachException exceptionId => (Cases.attachException now desk case exceptionId).map fun _ => ()

omit [Platform] in
theorem after_raised {operation : Except CaseError Desk} {e : CaseError} (raised : operation.map (fun _ => ()) = .error e) :
    desk.after operation = desk := by
  cases operation with
  | error => rfl
  | ok after => cases raised

/-- A verification that raises may leave what it found in the recovery record, and nothing else. -/
theorem verifyRecovery_raised {bankTransactionId : String} {note : Option String} {e : CaseError}
    (raised : (verifyRecovery keys now bank desk case bankTransactionId note).1 = .error e) :
    (verifyRecovery keys now bank desk case bankTransactionId note).2.cases = desk.cases ∧
      (verifyRecovery keys now bank desk case bankTransactionId note).2.events = desk.events := by
  unfold verifyRecovery at raised ⊢
  simp only at raised ⊢
  split
  · exact ⟨rfl, rfl⟩
  · next b found =>
    split
    · exact ⟨rfl, rfl⟩
    · next required =>
      split
      · exact ⟨ensureRecovery_keeps_cases keys now desk case, ensureRecovery_keeps_events keys now desk case⟩
      · next equal =>
        split
        · exact ⟨rfl, rfl⟩
        · next named =>
          simp only [found, required, equal, named, Bool.false_eq_true, if_false] at raised
          cases raised

/-- An operation that raises leaves every case and every timeline as they were. -/
theorem operate_raised {operation : CaseOperation} {e : CaseError}
    (raised : outcome keys now bank desk case operation = .error e) :
    (operate keys now bank desk case operation).cases = desk.cases ∧
      (operate keys now bank desk case operation).events = desk.events := by
  have unchanged : ∀ {call : Except CaseError Desk}, call.map (fun _ => ()) = .error e →
      (desk.after call).cases = desk.cases ∧ (desk.after call).events = desk.events := by
    intro call failed
    rw [after_raised failed]
    exact ⟨rfl, rfl⟩
  cases operation with
  | ensureRecovery => cases raised
  | verifyRecovery => exact verifyRecovery_raised raised
  | _ => exact unchanged raised

omit [Platform] in
/-- Work on the recovery record of a case: its row is touched and one event logged. -/
theorem recovery_writing (f : RecoveryRecord → RecoveryRecord) (fixed : ∀ r, (f r).caseId = r.caseId) {eventType : String}
    (metadata : CaseMetadata) (other : eventType ∉ statusEvents) :
    Writing desk case ((((Cases.ensureRecovery keys now desk case).2.updateRecovery case.id f fixed).touchCase case.id
      now).log case.id eventType metadata) := by
  have cases := ensureRecovery_keeps_cases keys now desk case
  have events := ensureRecovery_keeps_events keys now desk case
  exact .touched now (congrArg (KeyedRows.update _ case.id _) cases) (congrArg (· ++ [_]) events) other

theorem initiateRecovery_writing (request : RecoveryRequest) :
    Writing desk case (desk.after (initiateRecovery keys now desk case request)) := by
  unfold initiateRecovery
  simp only
  split
  · exact .of_same rfl rfl
  · split
    · exact .of_same rfl rfl
    · exact recovery_writing _ _ _ (by decide)

theorem verifyRecovery_writing (bankTransactionId : String) (note : Option String) :
    Writing desk case (verifyRecovery keys now bank desk case bankTransactionId note).2 := by
  unfold verifyRecovery
  simp only
  split
  · exact .of_same rfl rfl
  · split
    · exact .of_same rfl rfl
    · split
      · exact .of_same (ensureRecovery_keeps_cases keys now desk case) (ensureRecovery_keeps_events keys now desk case)
      · split
        · exact .of_same rfl rfl
        · exact recovery_writing _ _ _ (by decide)

theorem markUnrecoverable_writing (note : String) :
    Writing desk case (desk.after (markUnrecoverable keys now desk case note)) := by
  unfold markUnrecoverable
  simp only
  split
  · exact .of_same rfl rfl
  · exact recovery_writing _ _ _ (by decide)

theorem resolve_writing {current : CaseStatus} (stands : case.status = current.value)
    (valid : CaseStatus.resolved ∈ current.validTransitions) (resolutionCode resolutionNote : Option String) :
    Writing desk case (desk.after (resolve keys now desk case resolutionCode resolutionNote)) := by
  unfold resolve
  split
  · exact .of_same rfl rfl
  · split
    · exact .of_same rfl rfl
    · next code _ =>
      simp only
      split
      · exact .of_same rfl rfl
      · refine ⟨CaseRow.resolved now code resolutionNote,
          [⟨case.id, "CASE_RESOLVED", [("resolution_code", .text code.value)]⟩], ?_, ?_, fun _ => rfl, by simp,
          .moved current .resolved stands valid (fun _ => rfl) (fun _ => rfl) fun _ _ _ => ?_⟩
        · exact congrArg (KeyedRows.update _ case.id _) (ensureRecovery_keeps_cases keys now desk case)
        · exact congrArg (· ++ [_]) (ensureRecovery_keeps_events keys now desk case)
        · exact ⟨iff_of_true rfl rfl, fun _ => ⟨code, rfl⟩⟩

theorem transition_writing (target : String) (resolutionCode resolutionNote : Option String) :
    Writing desk case (desk.after (transition keys now desk case target resolutionCode resolutionNote)) := by
  unfold transition
  split
  · exact .of_same rfl rfl
  · next targetStatus _ =>
    split
    · exact .of_same rfl rfl
    · next current stands =>
      rw [CaseStatus.ofValue_eq_some_iff] at stands
      split
      · exact .of_same rfl rfl
      · next valid =>
        rw [not_not] at valid
        split
        · exact resolve_writing stands valid resolutionCode resolutionNote
        · refine ⟨_, [⟨case.id, "CASE_REOPENED", []⟩], rfl, rfl, fun _ => rfl, by simp,
            .moved current .reopened stands valid (fun _ => rfl) (fun _ => rfl) fun _ _ _ => ?_⟩
          have other : CaseStatus.reopened.value ≠ CaseStatus.resolved.value := by decide
          exact .of_unresolved rfl other
        · next notResolved notReopened =>
          refine ⟨_, [⟨case.id, "CASE_STATUS_CHANGED",
            [("from", .text current.value), ("to", .text targetStatus.value)]⟩], rfl, rfl, fun _ => rfl, by simp,
            .moved current targetStatus stands valid (fun _ => rfl) (fun _ => rfl) fun c shown coherent => ?_⟩
          -- A resolved case is only reopened, so the time of a resolution is not there to stay.
          have before : c.status ≠ CaseStatus.resolved.value := by
            rw [shown]
            intro same
            rw [CaseStatus.value_injective same] at valid
            exact notReopened (List.mem_singleton.mp valid)
          exact .of_unresolved (coherent.unresolved before) fun same => notResolved (CaseStatus.value_injective same)

theorem assignCase_writing (assignedTo : Option String) :
    Writing desk case (desk.after (assignCase now desk case assignedTo)) := by
  unfold assignCase
  simp only
  split
  · exact .of_same rfl rfl
  · exact .of_quiet _ rfl rfl (fun _ => ⟨rfl, rfl, rfl, rfl⟩) (by decide)

theorem addNote_writing (note : String) (authorReference : Option String) :
    Writing desk case (desk.after (addNote keys now desk case note authorReference)) := by
  unfold addNote
  split
  · exact .of_same rfl rfl
  · exact .touched now rfl rfl (by decide)

omit [Platform] in
theorem attachException_writing (exceptionId : String) :
    Writing desk case (desk.after (attachException now desk case exceptionId)) := by
  cases attached : attachException now desk case exceptionId with
  | error => exact .of_same rfl rfl
  | ok desk' =>
    obtain ⟨cases, _, metadata, events⟩ := attachException_ok attached
    exact .touched now cases events (by decide)

theorem operate_writing (operation : CaseOperation) :
    Writing desk case (operate keys now bank desk case operation) := by
  cases operation with
  | ensureRecovery =>
    exact .of_same (ensureRecovery_keeps_cases keys now desk case) (ensureRecovery_keeps_events keys now desk case)
  | initiateRecovery request => exact initiateRecovery_writing request
  | verifyRecovery bankTransactionId note => exact verifyRecovery_writing bankTransactionId note
  | markUnrecoverable note => exact markUnrecoverable_writing note
  | transition target code note => exact transition_writing target code note
  | assignCase assignedTo => exact assignCase_writing assignedTo
  | addNote note author => exact addNote_writing note author
  | attachException exceptionId => exact attachException_writing exceptionId

end Operations

/-! ## Runs -/

/-- What a step writes to the cases and their timelines. -/
inductive Lived (s : System) (after : Desk) : Prop where
  | grown (grows : Grows s.desk after)
  | operated (case : CaseRow) (member : case ∈ s.desk.cases) (writing : Writing s.desk case after)

theorem Lived.chronicled {s : System} {after : Desk} (lived : Lived s after) (before : s.desk.Chronicled) :
    after.Chronicled := by
  cases lived with
  | grown grows => exact grows.chronicled before
  | operated case member writing => exact writing.chronicled member before

theorem Lived.moves {s : System} {after : Desk} (lived : Lived s after) :
    ∀ c ∈ s.desk.cases, ∃ c' ∈ after.cases, c'.id = c.id ∧ c.Moves c' := by
  cases lived with
  | grown grows => exact fun c member => ⟨c, grows.keeps c member, rfl, .inl rfl⟩
  | operated case member writing => exact writing.moves member

section Step
variable [Runtime] [Hashing] [Exceptions.ExceptionHashing]

theorem step_lived (settings : Settings) (s : System) (a : Action) : Lived s (step settings s a).desk := by
  obtain ⟨keys, now, operation⟩ := a
  cases operation with
  | ingestRecords => exact .grown (.refl s.desk)
  | ingestBankCsv => exact .grown (.refl s.desk)
  | runReconciliation order merchantId =>
    refine .grown ?_
    simp only [step, reconcile]
    split
    · exact .refl s.desk
    · next survey _ =>
      cases recorded : survey.findings.requests.foldlM (recordCase settings keys now) s.desk with
      | error => exact .refl s.desk
      | ok desk => exact recordCases_grows recorded
  | generateExceptions merchantId =>
    refine .grown ?_
    simp only [step]
    cases done : Exceptions.generateExceptions settings keys s.database.batches s.desk merchantId with
    | error => exact .refl s.desk
    | ok result => exact generateExceptions_grows done
  | createCase args =>
    refine .grown ?_
    simp only [step]
    cases made : Cases.createCase settings keys now s.desk args with
    | error => exact .refl s.desk
    | ok result => exact createCase_grows made
  | onCase caseId operation =>
    cases found : s.desk.case? caseId with
    | none =>
      refine .grown ?_
      simp only [step, found]
      exact .refl s.desk
    | some case =>
      refine .operated case ((s.desk.case?_eq_some_iff caseId case).mp found).1 ?_
      simp only [step, found]
      exact operate_writing operation

/-- A call on a stored case that raises. -/
def Raises (s : System) (a : Action) : Prop :=
  ∃ case ∈ s.desk.cases, ∃ operation e, a.operation = .onCase case.id operation ∧
    outcome a.keys a.now s.database.store.bankTransactions s.desk case operation = .error e

theorem step_raised {settings : Settings} {s : System} {a : Action} (raises : Raises s a) :
    (step settings s a).desk.cases = s.desk.cases ∧ (step settings s a).desk.events = s.desk.events := by
  obtain ⟨case, member, operation, e, named, raised⟩ := raises
  have found := (s.desk.case?_eq_some_iff case.id case).mpr ⟨member, rfl⟩
  simp only [step, named, found]
  exact operate_raised raised

/-- In every run of the service, in every state reached: each case has the status its
timeline replays to from `OPEN`, a time of resolution exactly while it is resolved, and then
a resolution code; and each call changes statuses only along the valid transitions, and no
case and no timeline if it raises. -/
theorem case_lifecycle (settings : Settings) (actions : List Action) :
    Runs.Throughout (step settings) (fun s => ∀ c ∈ s.desk.cases, c.Follows (s.desk.timeline c.id)) {} actions ∧
      Runs.Along (step settings) (fun s a =>
        (∀ c ∈ s.desk.cases, ∃ c' ∈ (step settings s a).desk.cases, c'.id = c.id ∧ c.Moves c') ∧
          (Raises s a → (step settings s a).desk.cases = s.desk.cases ∧ (step settings s a).desk.events = s.desk.events))
        {} actions := by
  have empty : ({} : System).desk.Chronicled := ⟨.empty .., by simp⟩
  have kept : ∀ s a, s.desk.Chronicled → (step settings s a).desk.Chronicled := fun s a before =>
    (step_lived settings s a).chronicled before
  constructor
  · intro first _
    exact (Runs.invariant kept empty first).follows
  · rw [Runs.along_iff]
    intro before a after _
    exact ⟨(step_lived settings _ a).moves, step_raised⟩

end Step
end RCAA
