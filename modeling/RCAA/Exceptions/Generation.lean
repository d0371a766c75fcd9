import RCAA.SystemProofs
import RCAA.Reconciliation.EngineProofs

/-! When generating exceptions for a merchant does what it is for: it completes, every
case in scope is linked to an exception afterwards, and a second call adds nothing.
It fails at a case whose exception would be new although one names the case already,
and passes over a case whose fingerprint is taken although nothing is linked to it. -/

namespace RCAA.Exceptions

/-! ## One pass over requests -/

/-- Two requests that do not name one case. -/
def ExceptionRequest.Apart (request other : ExceptionRequest) : Prop := ∀ id, request.caseId = some id → other.caseId ≠ some id

section Generation
variable [ExceptionHashing] {settings : Settings} {keys : KeySource}

/-- The exceptions that name a case, and the links of a case. -/
def Named (desk : Desk) (caseId : String) : Prop := ∃ e ∈ desk.exceptions, e.reconciliationCaseId = some caseId
def Linked (desk : Desk) (caseId : String) : Prop := ∃ l ∈ desk.links, l.caseId = caseId

omit [ExceptionHashing] in
theorem free_iff (desk : Desk) (request : ExceptionRequest) :
    request.Free desk ↔ ∀ id, request.caseId = some id → ¬Named desk id := by
  simp only [ExceptionRequest.Free, Named, not_exists, not_and]

theorem Recorded.named_iff {desk after : Desk} {request : ExceptionRequest} {row : ReconciliationException}
    (recorded : Recorded settings request desk after row) (id : String) :
    Named after id ↔ Named desk id ∨ request.caseId = some id := by
  have named : row.reconciliationCaseId = request.caseId := by
    rw [recorded.content, request.content_reconciliationCaseId]
  simp only [Named, recorded.exceptions, List.mem_append, List.mem_singleton, or_and_right, exists_or, exists_eq_left, named]

theorem Recorded.linked_iff {desk after : Desk} {request : ExceptionRequest} {row : ReconciliationException}
    (recorded : Recorded settings request desk after row) (id : String) :
    Linked after id ↔ Linked desk id ∨ request.caseId = some id := by
  simp only [Linked, recorded.links, List.mem_append, or_and_right, exists_or]
  cases request.caseId <;> simp

/-- A pass completes exactly when no exception names the case of a request it adds. -/
theorem pass_ok_iff {requests : List ExceptionRequest} (apart : requests.Pairwise ExceptionRequest.Apart) (desk : Desk) :
    (∃ after created, (exceptionRegistry settings keys).putAll desk requests = .ok (after, created)) ↔
      ∀ r ∈ (exceptionRegistry settings keys).fresh ((exceptionRegistry settings keys).keys desk) requests, r.Free desk := by
  refine Registry.putAll_ok_iff _ (fun s r absent => recordException_ok_iff) ?_ apart desk
  intro s r absent s' other apart added
  obtain ⟨row, recorded⟩ := recordException_ok added
  rw [free_iff, free_iff]
  apply forall_congr'
  intro id
  apply forall_congr'
  intro names
  rw [recorded.named_iff, not_or]
  exact and_iff_left fun same => apart id same names

/-- What a pass leaves: the cases, and a name and a link more for the case of each request it adds. -/
structure Passed (added : List ExceptionRequest) (desk after : Desk) : Prop where
  cases : after.cases = desk.cases
  named : ∀ id, Named after id ↔ Named desk id ∨ ∃ r ∈ added, r.caseId = some id
  linked : ∀ id, Linked after id ↔ Linked desk id ∨ ∃ r ∈ added, r.caseId = some id

theorem pass_passed {requests : List ExceptionRequest} {desk after : Desk} {created : Nat}
    (done : (exceptionRegistry settings keys).putAll desk requests = .ok (after, created)) :
    Passed ((exceptionRegistry settings keys).fresh ((exceptionRegistry settings keys).keys desk) requests) desk after := by
  refine Registry.putAll_relates _ (R := fun after added => Passed added desk after) ?_ ⟨rfl, by simp, by simp⟩ done
  intro s r absent s' added passed stored
  obtain ⟨row, recorded⟩ := recordException_ok stored
  refine ⟨recorded.cases.trans passed.cases, fun id => ?_, fun id => ?_⟩
  · rw [recorded.named_iff, passed.named, or_assoc]
    simp only [List.mem_append, List.mem_singleton, or_and_right, exists_or, exists_eq_left]
  · rw [recorded.linked_iff, passed.linked, or_assoc]
    simp only [List.mem_append, List.mem_singleton, or_and_right, exists_or, exists_eq_left]

/-- Every exception a pass adds has the content of a request. -/
theorem pass_adds {requests : List ExceptionRequest} {desk after : Desk} {created : Nat}
    (done : (exceptionRegistry settings keys).putAll desk requests = .ok (after, created)) :
    ∀ e ∈ after.exceptions, e ∈ desk.exceptions ∨ ∃ r ∈ requests, e.toExceptionContent = r.content settings := by
  have added := Registry.putAll_relates (exceptionRegistry settings keys)
    (R := fun after added => ∀ e ∈ after.exceptions, e ∈ desk.exceptions ∨ ∃ r ∈ added, e.toExceptionContent = r.content settings)
    (fun {s r absent s' added} known stored => ?_) (fun e member => .inl member) done
  · intro e member
    rcases added e member with earlier | ⟨r, new, same⟩
    · exact .inl earlier
    · exact .inr ⟨r, (FirstByKey.firsts_sublist _ _ _).subset new, same⟩
  · obtain ⟨row, recorded⟩ := recordException_ok stored
    intro e member
    rw [recorded.exceptions, List.mem_append, List.mem_singleton] at member
    rcases member with earlier | rfl
    · exact (known e earlier).imp_right fun ⟨r, inside, same⟩ => ⟨r, List.mem_append_left _ inside, same⟩
    · exact .inr ⟨r, by simp, recorded.content⟩

/-! ## A call -/

omit [ExceptionHashing] in
theorem duplicateRequests_caseId {batches : List IngestionBatch} {merchantId : Option String} {r : ExceptionRequest}
    (member : r ∈ duplicateRequests batches merchantId) : r.caseId = none := by
  obtain ⟨batch, _, inside⟩ := List.mem_flatMap.mp member
  unfold batchRequests at inside
  split at inside
  · cases inside
  · split at inside
    · cases inside
    · obtain ⟨externalId, _, rfl⟩ := List.mem_map.mp inside
      rfl

omit [ExceptionHashing] in
theorem duplicateRequests_payload {batches : List IngestionBatch} {merchantId : Option String} {r : ExceptionRequest}
    (member : r ∈ duplicateRequests batches merchantId) (case : CaseRow) :
    r.payload ≠ (ExceptionRequest.ofCase case).payload := by
  have none := duplicateRequests_caseId member
  cases r with
  | duplicate batch recordType code externalId => exact fun same => nomatch same
  | ofCase other => cases none

/-- The duplicates of the batches never stop a call. -/
theorem duplicates_pass (settings : Settings) (keys : KeySource) (batches : List IngestionBatch) (merchantId : Option String)
    (desk : Desk) : ∃ middle created,
      (exceptionRegistry settings keys).putAll desk (duplicateRequests batches merchantId) = .ok (middle, created) := by
  refine (pass_ok_iff ?_ desk).mpr fun r added id names => ?_
  · refine List.Pairwise.imp_of_mem (R := fun _ _ => True) (fun member _ _ id names => ?_)
      (List.pairwise_of_forall fun _ _ => trivial)
    rw [duplicateRequests_caseId member] at names
    cases names
  · rw [duplicateRequests_caseId ((FirstByKey.firsts_sublist _ _ _).subset added)] at names
    cases names

omit [ExceptionHashing] in
theorem casesInScope_ids (desk : Desk) (merchantId : Option String) : ((casesInScope desk merchantId).map (·.id)).Nodup := by
  refine ((orderRows_perm _ _ _).map _).nodup_iff.mpr ?_
  exact desk.caseIds.sublist (List.filter_sublist.map _)

/-- The fingerprint of a case is stored, or a case that comes before has it. -/
def AlreadyReported (desk : Desk) (before : List CaseRow) (c : CaseRow) : Prop :=
  ExceptionHashing.digest (.ofCase (casePayload c)) ∈ desk.exceptions.map (·.fingerprint) ∨
    ∃ d ∈ before, casePayload d = casePayload c

theorem mem_fresh_iff (lossless : Function.Injective ExceptionHashing.digest) {batches : List IngestionBatch}
    {merchantId : Option String} {desk middle : Desk} {created : Nat}
    (first : (exceptionRegistry settings keys).putAll desk (duplicateRequests batches merchantId) = .ok (middle, created))
    {before after : List CaseRow} {c : CaseRow} (once : c ∉ before) :
    ExceptionRequest.ofCase c ∈ (exceptionRegistry settings keys).fresh ((exceptionRegistry settings keys).keys middle)
      ((before ++ c :: after).map .ofCase) ↔ ¬AlreadyReported desk before c := by
  have absent : ExceptionRequest.ofCase c ∉ before.map .ofCase := by
    intro member
    obtain ⟨d, earlier, same⟩ := List.mem_map.mp member
    cases same
    exact once earlier
  have keyOf : ∀ r, (exceptionRegistry settings keys).keyOf r = ExceptionHashing.digest r.payload :=
    fun r => r.content_fingerprint settings
  have stored : (exceptionRegistry settings keys).keyOf (.ofCase c) ∈ (exceptionRegistry settings keys).keys middle ↔
      ExceptionHashing.digest (.ofCase (casePayload c)) ∈ desk.exceptions.map (·.fingerprint) := by
    rw [Registry.mem_keys_putAll _ first, keyOf]
    have own : (exceptionRegistry settings keys).keys desk = desk.exceptions.map (·.fingerprint) := by
      simp only [Registry.keys, exceptionRegistry, List.map_map, Function.comp_def]
    rw [own]
    refine or_iff_left ?_
    rintro ⟨r, member, same⟩
    rw [keyOf] at same
    exact duplicateRequests_payload member c (lossless same)
  rw [List.map_append, List.map_cons, Registry.fresh, FirstByKey.mem_firsts_first _ absent, stored, AlreadyReported, not_or]
  refine and_congr_right fun _ => ?_
  simp only [List.forall_mem_map, keyOf, not_exists, not_and]
  refine forall_congr' fun d => forall_congr' fun _ => not_congr ?_
  exact ⟨fun same => ExceptionPayload.ofCase.inj (lossless same), fun same => congrArg (fun p => ExceptionHashing.digest (.ofCase p)) same⟩

/-- An exception that a call adds for a case has the content of the case's own. -/
theorem generateExceptions_adds {batches : List IngestionBatch} {desk after : Desk} {merchantId : Option String}
    {report : GenerationReport} (done : generateExceptions settings keys batches desk merchantId = .ok (report, after))
    {e : ReconciliationException} (stored : e ∈ after.exceptions) (new : e ∉ desk.exceptions) {caseId : String}
    (named : e.reconciliationCaseId = some caseId) :
    ∃ c ∈ desk.cases, c.id = caseId ∧ e.toExceptionContent = (ExceptionRequest.ofCase c).content settings := by
  obtain ⟨⟨middle, ofBatches⟩, first, done⟩ := Outcome.bind_ok done
  obtain ⟨⟨last, ofCases⟩, second, done⟩ := Outcome.bind_ok done
  cases done
  rcases pass_adds second e stored with earlier | ⟨r, member, same⟩
  · rcases pass_adds first e earlier with old | ⟨r, member, same⟩
    · exact absurd old new
    · rw [same, r.content_reconciliationCaseId, duplicateRequests_caseId member] at named
      cases named
  · obtain ⟨c, inside, rfl⟩ := List.mem_map.mp member
    rw [same] at named
    refine ⟨c, ?_, Option.some.inj named, same⟩
    rw [casesInScope, (orderRows_perm _ _ _).mem_iff, List.mem_filter, (pass_passed first).cases] at inside
    exact inside.1

/-! ## What a call is for -/

/-- A case is linked to an exception that is stored. -/
def HasException (desk : Desk) (c : CaseRow) : Prop :=
  ∃ l ∈ desk.links, l.caseId = c.id ∧ ∃ e ∈ desk.exceptions, e.id = l.exceptionId

omit [ExceptionHashing] in
theorem hasException_iff (desk : Desk) (c : CaseRow) : HasException desk c ↔ Linked desk c.id := by
  constructor
  · rintro ⟨l, member, same, _⟩
    exact ⟨l, member, same⟩
  · rintro ⟨l, member, same⟩
    exact ⟨l, member, same, List.mem_map.mp (desk.linkedExceptions l member)⟩

/-- The call completes, afterwards every case in scope has an exception, and a call on
what it leaves completes without creating any. -/
def Generates (settings : Settings) (keys : KeySource) (batches : List IngestionBatch) (desk : Desk)
    (merchantId : Option String) : Prop :=
  ∃ report after, generateExceptions settings keys batches desk merchantId = .ok (report, after) ∧
    (∀ c ∈ casesInScope after merchantId, HasException after c) ∧
    ∀ keys', ∃ again, generateExceptions settings keys' batches after merchantId = .ok (again, after) ∧ again.created = 0

/-- Each case in scope, in the order they are read: one that would be passed over has an
exception already, and of one that would be reported no exception is the primary one. -/
def Clear (desk : Desk) (merchantId : Option String) : Prop :=
  ∀ before c after, casesInScope desk merchantId = before ++ c :: after →
    (AlreadyReported desk before c → HasException desk c) ∧ (¬AlreadyReported desk before c → ¬Named desk c.id)

theorem generateExceptions_eq {batches : List IngestionBatch} {desk middle : Desk} {merchantId : Option String}
    {ofBatches : Nat}
    (first : (exceptionRegistry settings keys).putAll desk (duplicateRequests batches merchantId) = .ok (middle, ofBatches)) :
    generateExceptions settings keys batches desk merchantId =
      ((exceptionRegistry settings keys).putAll middle ((casesInScope middle merchantId).map .ofCase)).map fun result =>
        ({ created := ofBatches + result.2
           existing := (duplicateRequests batches merchantId).length + (casesInScope middle merchantId).length -
            (ofBatches + result.2) }, result.1) := by
  rw [generateExceptions, first]
  simp only [bind, Except.bind]
  cases (exceptionRegistry settings keys).putAll middle ((casesInScope middle merchantId).map .ofCase) <;> rfl

omit [ExceptionHashing] in
theorem casesInScope_congr {desk after : Desk} (same : after.cases = desk.cases) (merchantId : Option String) :
    casesInScope after merchantId = casesInScope desk merchantId := by rw [casesInScope, casesInScope, same]

/-- What every call that completes leaves to a second one. -/
theorem generateExceptions_again {batches : List IngestionBatch} {desk after : Desk} {merchantId : Option String}
    {report : GenerationReport} (done : generateExceptions settings keys batches desk merchantId = .ok (report, after))
    (keys' : KeySource) :
    ∃ again, generateExceptions settings keys' batches after merchantId = .ok (again, after) ∧ again.created = 0 := by
  obtain ⟨⟨middle, ofBatches⟩, first, done⟩ := Outcome.bind_ok done
  obtain ⟨⟨last, ofCases⟩, second, done⟩ := Outcome.bind_ok done
  cases done
  have scope : casesInScope after merchantId = casesInScope middle merchantId :=
    casesInScope_congr (pass_passed second).cases merchantId
  have ofDuplicates : ∀ r ∈ duplicateRequests batches merchantId, (exceptionRegistry settings keys').keyOf r ∈
      (exceptionRegistry settings keys').keys after := fun r member =>
    (Registry.mem_keys_putAll _ second _).mpr (.inl ((Registry.mem_keys_putAll _ first _).mpr (.inr ⟨r, member, rfl⟩)))
  have ofScope : ∀ r ∈ (casesInScope after merchantId).map .ofCase, (exceptionRegistry settings keys').keyOf r ∈
      (exceptionRegistry settings keys').keys after := fun r member =>
    (Registry.mem_keys_putAll _ second _).mpr (.inr ⟨r, scope ▸ member, rfl⟩)
  rw [generateExceptions_eq (Registry.putAll_stored _ ofDuplicates), Registry.putAll_stored _ ofScope]
  exact ⟨_, rfl, rfl⟩

/-- A call does what it is for exactly when the cases in scope are clear. -/
theorem generates_iff (lossless : Function.Injective ExceptionHashing.digest) (batches : List IngestionBatch) (desk : Desk)
    (merchantId : Option String) : Generates settings keys batches desk merchantId ↔ Clear desk merchantId := by
  obtain ⟨middle, ofBatches, first⟩ := duplicates_pass settings keys batches merchantId desk
  have passed := pass_passed first
  have nothing : ¬∃ r ∈ (exceptionRegistry settings keys).fresh ((exceptionRegistry settings keys).keys desk)
      (duplicateRequests batches merchantId), ∃ id, r.caseId = some id := by
    rintro ⟨r, added, id, names⟩
    rw [duplicateRequests_caseId ((FirstByKey.firsts_sublist _ _ _).subset added)] at names
    cases names
  have named (id : String) : Named middle id ↔ Named desk id := by
    rw [passed.named]
    exact or_iff_left fun ⟨r, added, names⟩ => nothing ⟨r, added, id, names⟩
  have linked (id : String) : Linked middle id ↔ Linked desk id := by
    rw [passed.linked]
    exact or_iff_left fun ⟨r, added, names⟩ => nothing ⟨r, added, id, names⟩
  have scope : casesInScope middle merchantId = casesInScope desk merchantId := casesInScope_congr passed.cases merchantId
  have once {before after : List CaseRow} {c : CaseRow} (split : casesInScope desk merchantId = before ++ c :: after) :
      c ∉ before := by
    have distinct := (casesInScope_ids desk merchantId).of_map
    rw [split] at distinct
    exact fun member => (List.nodup_append.mp distinct).2.2 c member c List.mem_cons_self rfl
  have fresh {before after : List CaseRow} {c : CaseRow} (split : casesInScope desk merchantId = before ++ c :: after) :
      ExceptionRequest.ofCase c ∈ (exceptionRegistry settings keys).fresh ((exceptionRegistry settings keys).keys middle)
        ((casesInScope middle merchantId).map .ofCase) ↔ ¬AlreadyReported desk before c := by
    rw [scope, split]
    exact mem_fresh_iff lossless first (once split)
  have origin {r : ExceptionRequest} (added : r ∈ (exceptionRegistry settings keys).fresh
      ((exceptionRegistry settings keys).keys middle) ((casesInScope middle merchantId).map .ofCase)) :
      ∃ c ∈ casesInScope desk merchantId, r = .ofCase c := by
    obtain ⟨c, member, rfl⟩ := List.mem_map.mp ((FirstByKey.firsts_sublist _ _ _).subset added)
    exact ⟨c, scope ▸ member, rfl⟩
  have apart : ((casesInScope middle merchantId).map ExceptionRequest.ofCase).Pairwise ExceptionRequest.Apart := by
    refine List.pairwise_map.mpr ((List.pairwise_map.mp (casesInScope_ids middle merchantId)).imp ?_)
    intro c d differ id names same
    exact differ ((Option.some.inj names).trans (Option.some.inj same).symm)
  constructor
  · rintro ⟨report, last, done, every, _⟩ before c after split
    rw [generateExceptions_eq first] at done
    obtain ⟨⟨final, ofCases⟩, second, same⟩ := Outcome.map_ok done
    obtain rfl : final = last := (Prod.mk.inj same).2
    have accepted := (pass_ok_iff apart middle).mp ⟨final, ofCases, second⟩
    have passed' := pass_passed second
    have member : c ∈ casesInScope final merchantId := by
      rw [casesInScope_congr passed'.cases, scope, split]
      simp
    constructor
    · intro reported
      rw [hasException_iff]
      rcases (passed'.linked c.id).mp ((hasException_iff final c).mp (every c member)) with old | ⟨r, added, names⟩
      · exact (linked c.id).mp old
      · obtain ⟨d, inside, rfl⟩ := origin added
        have sameCase : d = c := KeyedRows.faithful_of_nodup _ (casesInScope_ids desk merchantId) d inside c
          (by rw [split]; simp) (Option.some.inj names)
        exact absurd reported ((fresh split).mp (sameCase ▸ added))
    · intro unreported
      rw [← named]
      exact (free_iff middle _).mp (accepted _ ((fresh split).mpr unreported)) c.id rfl
  · intro clear
    have accepted : ∀ r ∈ (exceptionRegistry settings keys).fresh ((exceptionRegistry settings keys).keys middle)
        ((casesInScope middle merchantId).map .ofCase), r.Free middle := by
      intro r added
      obtain ⟨c, inside, rfl⟩ := origin added
      obtain ⟨before, after, split⟩ := List.append_of_mem inside
      rw [free_iff]
      rintro id names
      cases names
      rw [named]
      exact (clear before c after split).2 ((fresh split).mp added)
    obtain ⟨last, ofCases, second⟩ := (pass_ok_iff apart middle).mpr accepted
    have passed' := pass_passed second
    have done := generateExceptions_eq first
    rw [second] at done
    refine ⟨_, last, done, fun c member => ?_, generateExceptions_again done⟩
    rw [casesInScope_congr passed'.cases, scope] at member
    obtain ⟨before, after, split⟩ := List.append_of_mem member
    rw [hasException_iff, passed'.linked]
    by_cases reported : AlreadyReported desk before c
    · exact .inl ((linked c.id).mpr ((hasException_iff desk c).mp ((clear before c after split).1 reported)))
    · exact .inr ⟨_, (fresh split).mpr reported, rfl⟩

end Generation

section Reachable
variable [Runtime] [Hashing] [ExceptionHashing] {settings : Settings}

/-- In every state a run reaches, a call for a merchant does what it is for exactly when
the merchant's cases are clear there. -/
theorem generation_works_iff (lossless : Function.Injective ExceptionHashing.digest) (database : Database)
    (actions : List Action) (keys : KeySource) (merchantId : Option String) :
    Generates settings keys (Runs.run (step settings) { database } actions).database.batches
        (Runs.run (step settings) { database } actions).desk merchantId ↔
      Clear (Runs.run (step settings) { database } actions).desk merchantId :=
  generates_iff lossless _ _ merchantId

end Reachable

section Examples
open PlainText

def repeatingBatch : IngestionBatch where
  id := "batch"
  source := "manual_demo"
  provider := none
  merchantId := some "m1"
  recordType := some .payment
  status := "COMPLETED"
  receivedCount := 1
  duplicateCount := 1
  duplicateRecordsJson := ["pay_1"]

/-- A batch that reported a payment it had seen before. -/
def repeatedPayment : Database where
  batches := [repeatingBatch]

/-- The duplicate becomes an exception, and a case is opened for it. -/
def openedForDuplicate : List Action :=
  [call (.generateExceptions (some "m1")),
    call (.createCase { exceptionId := some (longer []), merchantId := some "m1" })]

theorem generation_works_iff_repeatedPayment :
    Generates {} keys (Runs.run (step {}) { database := repeatedPayment } openedForDuplicate).database.batches
        (Runs.run (step {}) { database := repeatedPayment } openedForDuplicate).desk (some "m1") ↔
      Clear (Runs.run (step {}) { database := repeatedPayment } openedForDuplicate).desk (some "m1") :=
  generation_works_iff exceptionText_injective repeatedPayment openedForDuplicate keys (some "m1")

/-- The next call would report that case as a second exception of itself, and raises. -/
theorem case_of_an_exception_blocks_generation :
    ¬∀ actions, Generates {} keys (Runs.run (step {}) { database := repeatedPayment } actions).database.batches
      (Runs.run (step {}) { database := repeatedPayment } actions).desk (some "m1") := by
  intro works
  obtain ⟨report, after, done, _⟩ := works openedForDuplicate
  have raised : (generateExceptions {} keys
      (Runs.run (step {}) { database := repeatedPayment } openedForDuplicate).database.batches
      (Runs.run (step {}) { database := repeatedPayment } openedForDuplicate).desk (some "m1")).isOk = false := by decide
  rw [done] at raised
  cases raised

end Examples
end RCAA.Exceptions
