import RCAA.Reconciliation.EngineProofs
import RCAA.Cases.Resolution

/-! A run on the service: what it returns, and what it leaves of the tables and the
desk. Every creation site of the run reports through one recording step, so what the
step adds to a desk is what the run adds. Amounts are those the run computes; each
column of a case rounds its own. -/

namespace RCAA

section Hashing
variable [Hashing]

/-! ## The desk as a registry of cases -/

def deskRegistry (settings : Settings) (keys : KeySource) (now : Int) :
    Registry Desk CaseRequest CaseContent String CaseError where
  rows desk := desk.cases.map (·.toCaseContent)
  row := CaseRequest.content
  key := CaseContent.fingerprint
  add desk request _ := do
    let row := reportedCase settings keys now desk request
    let stored ← desk.insertCase row (yearOf now) (reportedCase_caseNumber settings keys now desk request)
    return stored.log row.id "CASE_CREATED"
  rows_add := by
    intro desk request absent after added
    obtain ⟨stored, inserted, done⟩ := Outcome.bind_ok added
    cases done
    simp only [Desk.log, (Desk.insertCase_ok inserted).1, List.map_append, List.map_singleton]
    rfl

variable (settings : Settings) (keys : KeySource) (now : Int)

theorem deskRegistry_keys (desk : Desk) : (deskRegistry settings keys now).keys desk = desk.cases.map (·.fingerprint) := by
  simp only [Registry.keys, deskRegistry, List.map_map, Function.comp_def]

theorem put_eq_recordCase (desk : Desk) (request : CaseRequest) :
    ((deskRegistry settings keys now).put desk request).map Prod.fst = recordCase settings keys now desk request := by
  have listed := deskRegistry_keys settings keys now desk
  simp only [Registry.put, recordCase]
  by_cases known : request.content.fingerprint ∈ desk.cases.map (·.fingerprint)
  · rw [dif_pos (listed ▸ known)]
    exact (if_pos known).symm
  · rw [dif_neg (listed ▸ known)]
    refine Eq.trans ?_ (if_neg known).symm
    simp only [deskRegistry]
    cases desk.insertCase (reportedCase settings keys now desk request) (yearOf now) _ <;> rfl

theorem putAll_eq_recordCases (desk : Desk) (requests : List CaseRequest) :
    ((deskRegistry settings keys now).putAll desk requests).map Prod.fst =
      requests.foldlM (recordCase settings keys now) desk := by
  have general : ∀ (desk : Desk) (count : Nat),
      (requests.foldlM (deskRegistry settings keys now).step (desk, count)).map Prod.fst =
        requests.foldlM (recordCase settings keys now) desk := by
    induction requests with
    | nil => exact fun _ _ => rfl
    | cons request rest ih =>
      intro desk count
      have first := put_eq_recordCase settings keys now desk request
      rw [List.foldlM_cons, List.foldlM_cons, ← first, Registry.step]
      cases (deskRegistry settings keys now).put desk request with
      | error => rfl
      | ok stored => exact ih stored.1 (count + stored.2.toNat)
  exact general desk 0

omit [Hashing] in
theorem insertCase_finishes {desk : Desk} {row : CaseRow} (year : Nat)
    (numbered : row.caseNumber = nextCaseNumber (desk.cases.map (·.caseNumber)) year)
    (accepted : row.id ∉ desk.cases.map (·.id) ∧ row.fingerprint ∉ desk.cases.map (·.fingerprint)) :
    ∃ after, desk.insertCase row year numbered = .ok after := by
  rw [Desk.insertCase, dif_pos accepted]
  exact ⟨_, rfl⟩

/-- No finding is refused: its key is new, its fingerprint is compared before, and its
number is the next one. -/
theorem recording_finishes (desk : Desk) (requests : List CaseRequest) :
    ∃ after created, (deskRegistry settings keys now).putAll desk requests = .ok (after, created) := by
  refine Registry.putAll_ok _ (fun desk request absent => ?_) desk requests
  have accepted : (reportedCase settings keys now desk request).id ∉ desk.cases.map (·.id) ∧
      (reportedCase settings keys now desk request).fingerprint ∉ desk.cases.map (·.fingerprint) :=
    ⟨keys.fresh _, deskRegistry_keys settings keys now desk ▸ absent⟩
  obtain ⟨after, inserted⟩ := insertCase_finishes (yearOf now) (by
    simp only [reportedCase, newCase, Desk.caseStore, List.map_map, Function.comp_def]) accepted
  refine ⟨after.log (reportedCase settings keys now desk request).id "CASE_CREATED", ?_⟩
  simp only [deskRegistry, inserted]
  rfl

end Hashing

/-! ## What recording adds -/

/-- New cases stand after the earlier ones, each with its event; nothing else differs. -/
structure Appends (before after : Desk) (new : List CaseRow) : Prop where
  cases : after.cases = before.cases ++ new
  events : after.events = before.events ++ new.map fun c => { caseId := c.id, eventType := "CASE_CREATED" }
  notes : after.notes = before.notes
  recoveries : after.recoveries = before.recoveries
  exceptions : after.exceptions = before.exceptions
  links : after.links = before.links

theorem Appends.refl (desk : Desk) : Appends desk desk [] :=
  ⟨(List.append_nil _).symm, (List.append_nil _).symm, rfl, rfl, rfl, rfl⟩

/-- The events name stored cases, as their foreign key has it. -/
def Desk.EventsNamed (desk : Desk) : Prop := ∀ e ∈ desk.events, e.caseId ∈ desk.cases.map (·.id)

theorem Appends.eventsNamed {before after : Desk} {new : List CaseRow} (appends : Appends before after new)
    (named : before.EventsNamed) : after.EventsNamed := by
  intro e member
  rw [appends.cases, List.map_append, List.mem_append]
  rcases List.mem_append.mp (appends.events ▸ member) with earlier | added
  · exact .inl (named e earlier)
  · obtain ⟨c, inside, rfl⟩ := List.mem_map.mp added
    exact .inr (List.mem_map_of_mem inside)

/-- A new case has the event of its creation once: its key is no earlier case's, so no
earlier event names it, and no other new case's. -/
theorem Appends.event_once {before after : Desk} {new : List CaseRow} (appends : Appends before after new)
    (named : before.EventsNamed) {c : CaseRow} (member : c ∈ new) :
    after.events.count { caseId := c.id, eventType := "CASE_CREATED" } = 1 := by
  have distinct : (before.cases.map (·.id) ++ new.map (·.id)).Nodup := by
    rw [← List.map_append, ← appends.cases]
    exact after.caseIds
  obtain ⟨_, apart, disjoint⟩ := List.nodup_append.mp distinct
  have unseen : ({ caseId := c.id, eventType := "CASE_CREATED" } : CaseEvent) ∉ before.events := fun earlier =>
    disjoint c.id (named _ earlier) c.id (List.mem_map_of_mem member) rfl
  have once : (new.map fun c => ({ caseId := c.id, eventType := "CASE_CREATED" } : CaseEvent)).Nodup :=
    List.Nodup.of_map CaseEvent.caseId (by simpa only [List.map_map, Function.comp_def] using apart)
  rw [appends.events, List.count_append, List.count_eq_zero.mpr unseen, Nat.zero_add]
  exact List.count_eq_one_of_mem once (List.mem_map.mpr ⟨c, member, rfl⟩)

section Recording
variable [Hashing] {settings : Settings} {keys : KeySource} {now : Int}

theorem recording_step {before desk : Desk} {request : CaseRequest}
    {absent : (deskRegistry settings keys now).keyOf request ∉ (deskRegistry settings keys now).keys desk}
    {after : Desk} {new : List CaseRow} (appends : Appends before desk new)
    (added : (deskRegistry settings keys now).add desk request absent = .ok after) :
    Appends before after (new ++ [reportedCase settings keys now desk request]) := by
  obtain ⟨stored, inserted, done⟩ := Outcome.bind_ok added
  cases done
  unfold Desk.insertCase at inserted
  split at inserted
  · cases inserted
    refine ⟨?_, ?_, appends.notes, appends.recoveries, appends.exceptions, appends.links⟩
    · simp only [Desk.log, appends.cases, List.append_assoc]
    · simp only [Desk.log, appends.events, List.map_append, List.map_singleton, List.append_assoc]
  · cases inserted

/-- Recording findings appends one case for each whose fingerprint is new, and counts them. -/
theorem recording_appends {before after : Desk} {requests : List CaseRequest} {created : Nat}
    (recorded : (deskRegistry settings keys now).putAll before requests = .ok (after, created)) :
    ∃ new, Appends before after new ∧ created = new.length ∧
      new.map (·.toCaseContent) =
        ((deskRegistry settings keys now).fresh (before.cases.map (·.fingerprint)) requests).map CaseRequest.content := by
  obtain ⟨rows, counted⟩ := Registry.putAll_rows _ recorded
  have related := Registry.putAll_relates (deskRegistry settings keys now)
    (R := fun desk added => ∃ new, Appends before desk new ∧ new.map (·.toCaseContent) = added.map CaseRequest.content)
    (by
      rintro desk request absent desk' added ⟨new, appends, contents⟩ stored
      refine ⟨_, recording_step appends stored, ?_⟩
      rw [List.map_append, List.map_append, contents]
      rfl)
    ⟨[], .refl before, rfl⟩ recorded
  rw [deskRegistry_keys] at related counted
  obtain ⟨new, appends, contents⟩ := related
  refine ⟨new, appends, ?_, contents⟩
  rw [counted, ← List.length_map (CaseRequest.content), ← contents, List.length_map]

end Recording

/-! ## A run as a call -/

section Call
variable [Runtime] [Hashing] [Exceptions.ExceptionHashing] (settings : Settings) (s : System) (keys : KeySource)
  (now : Int) (order : SetOrder) (merchantId : Option String)

omit [Exceptions.ExceptionHashing] in
/-- What `run_reconciliation` returns, unless it raises, and the service it leaves. -/
def System.runReconciliation : Option Nat × System :=
  match survey order settings s.database.store merchantId with
  | .error _ => (none, s)
  | .ok survey => match (deskRegistry settings keys now).putAll s.desk survey.findings.requests with
    | .error _ => (none, s)
    | .ok (desk, created) => (some created, { s with desk := desk })

theorem step_runReconciliation :
    step settings s ⟨keys, now, .runReconciliation order merchantId⟩ =
      (s.runReconciliation settings keys now order merchantId).2 := by
  simp only [step, reconcile, System.runReconciliation]
  cases survey order settings s.database.store merchantId with
  | error => rfl
  | ok found =>
    simp only [← putAll_eq_recordCases]
    cases (deskRegistry settings keys now).putAll s.desk found.findings.requests <;> rfl

omit [Exceptions.ExceptionHashing] in
/-- The returned count is the one of the engine's own run over the same cases. -/
theorem runReconciliation_returns {draws : Nat → Draw} {report : Report}
    (ran : RCAA.runReconciliation order settings draws s.database.store merchantId s.desk.caseStore = .ok report) :
    (s.runReconciliation settings keys now order merchantId).1 = some report.createdCases := by
  obtain ⟨found, surveyed, done⟩ := Outcome.bind_ok ran
  have reported : report.survey = found := by
    cases done
    rfl
  have counted := (report_cases ran).2
  obtain ⟨after, created, recorded⟩ := recording_finishes settings keys now s.desk found.findings.requests
  simp only [System.runReconciliation, surveyed, recorded]
  obtain ⟨_, _, length, contents⟩ := recording_appends recorded
  have fresh := congrArg List.length contents
  rw [List.length_map, List.length_map, ← length] at fresh
  rw [counted, fresh, reported]
  simp only [Registry.fresh, Desk.caseStore, List.map_map, Function.comp_def]
  rfl

end Call

section Examples
open PlainText

/-- The unsettled payment and the unexplained credit were reported by a first run. -/
def reconciledOnce : System :=
  (({ database := recoveredPayment } : System).runReconciliation {} keys 1704110400000000 .insertion (some "m1")).2

end Examples
end RCAA
