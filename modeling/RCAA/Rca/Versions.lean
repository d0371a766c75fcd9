import RCAA.Library.Runs
import RCAA.Library.Versions
import RCAA.Rca.Engine
import RCAA.System

/-! The versions of a case's root cause over any sequence of calls, for any cases, with the
cases, their exceptions and the stored records changing between the calls. -/

namespace RCAA

open Versions

/-! ## Calls -/

/-- A call with all it is given; what it stores it adds to a state. -/
structure RcaCall where
  keys : KeySource
  now : Int
  store : Store
  desk : Desk
  case : CaseRow
  exception : Option ReconciliationException := none

/-- The exception a call is about. -/
def RcaCall.about (call : RcaCall) : Option ReconciliationException :=
  call.exception.or (EvidenceBuilder.exceptionOf call.desk call.case)

/-- Whether what a call is given has the types of evidence that its exception asks for. -/
def RcaCall.supported (call : RcaCall) : Bool :=
  call.about.any fun exception => (EvidenceBuilder.required exception.exceptionCode).all fun type =>
    type ∈ (EvidenceBuilder.payloads call.store call.case exception).map (·.evidenceType)

/-- The root cause a call is to state, by what it is given. -/
def RcaCall.cause (call : RcaCall) : RootCause :=
  let code := (call.about.map (·.exceptionCode)).getD "UNKNOWN_REFERENCE"
  let cause := classify code call.supported
  if call.supported then { cause with explanation := explanationOf code call.case } else cause

theorem RcaCall.about_or (call : RcaCall) : call.about.or (EvidenceBuilder.exceptionOf call.desk call.case) = call.about := by
  rw [about, Option.or_assoc, Option.or_self]

/-- The case, its exception and the stored records are those of another call. -/
structure RcaCall.Unchanged (call again : RcaCall) : Prop where
  case : again.case = call.case
  about : again.about = call.about
  store : again.store = call.store

section Hashing
variable [RcaHashing] [EvidenceHashing]

structure RcaState where
  evidence : EvidenceTable := {}
  tables : RcaTables := {}

namespace RcaState

def answer (state : RcaState) (call : RcaCall) : (Rca × Bool) × EvidenceTable × RcaTables :=
  generateRca call.keys call.now call.store call.desk state.evidence state.tables call.case call.exception

def step (state : RcaState) (call : RcaCall) : RcaState := ⟨(state.answer call).2.1, (state.answer call).2.2⟩

/-- The evidence a call builds. -/
def built (state : RcaState) (call : RcaCall) : EvidenceBuilder.EvidenceBundle × EvidenceTable :=
  EvidenceBuilder.build call.keys call.store call.desk state.evidence call.case call.about

/-- What a call says, and when. -/
def statement (state : RcaState) (call : RcaCall) : RcaPayload × Int :=
  (rcaPayload call.case call.about (state.built call).1, call.now)

/-- What the calls for a case say, in order. -/
def said (caseId : String) : RcaState → List RcaCall → List (RcaPayload × Int)
  | _, [] => []
  | state, call :: rest =>
    if call.case.id = caseId then state.statement call :: said caseId (state.step call) rest else said caseId (state.step call) rest

end RcaState

/-- The columns of a version that a call writes. -/
structure RcaContent where
  cause : RootCause
  evidenceIds : List String
  engineVersion : String
  fingerprint : String
  generatedAt : Int

def RcaVersion.content (version : RcaVersion) : RcaContent :=
  ⟨version.cause, version.evidenceIds, version.engineVersion, version.fingerprint, version.generatedAt⟩

/-- The version a call writes when it writes one. -/
def contentOf (said : RcaPayload × Int) : RcaContent :=
  ⟨said.1.cause, said.1.evidenceIds, said.1.engineVersion, RcaHashing.digest said.1, said.2⟩

/-! ## One call -/

/-- The result of a case and its history. -/
def RcaTables.register (tables : RcaTables) (caseId : String) : Register RcaContent where
  current := (tables.find caseId).map fun r => r.content
  past := (tables.history.filter fun h => h.reconciliationCaseId = caseId).map fun h => h.content

/-- A version gives way to one with another fingerprint. -/
def Replaces (before after : RcaContent) : Prop := before.fingerprint ≠ after.fingerprint

instance : DecidableRel Replaces := fun before after => inferInstanceAs (Decidable (before.fingerprint ≠ after.fingerprint))

namespace RcaTables

omit [EvidenceHashing] in
theorem find_replace (tables : RcaTables) (payload : RcaPayload) (now : Int) (existing : Rca) (caseId : String) :
    (tables.replace payload now existing).find caseId =
      (tables.find caseId).map fun r => if r.reconciliationCaseId = payload.caseId then renewed payload now r else r := by
  have fixed (r : Rca) : (renewed payload now r).reconciliationCaseId = r.reconciliationCaseId := rfl
  exact KeyedRows.find?_update (fun r : Rca => r.reconciliationCaseId) fixed tables.results caseId

omit [EvidenceHashing] in
theorem find_insert (tables : RcaTables) (id : String) (payload : RcaPayload) (now : Int) (new : tables.find payload.caseId = none)
    (caseId : String) :
    (tables.insert id payload now new).2.find caseId =
      (tables.find caseId).or (if payload.caseId = caseId then some (tables.insert id payload now new).1 else none) := by
  simp only [insert, find, List.find?_append, List.find?_singleton, decide_eq_true_eq]

omit [EvidenceHashing] in
/-- A result that is added is the one its case has. -/
theorem find_insert_self (tables : RcaTables) (id : String) (payload : RcaPayload) (now : Int)
    (new : tables.find payload.caseId = none) :
    (tables.insert id payload now new).2.find payload.caseId = some (tables.insert id payload now new).1 := by
  have none_or (item : Rca) : (tables.find payload.caseId).or (some item) = some item := by rw [new, Option.none_or]
  refine (tables.find_insert id payload now new payload.caseId).trans ?_
  rw [if_pos rfl]
  exact none_or _

omit [EvidenceHashing] in
/-- A call returns the result it leaves. -/
theorem find_store_answer (tables : RcaTables) (keys : KeySource) (payload : RcaPayload) (now : Int) :
    (tables.store keys payload now).2.find payload.caseId = some (tables.store keys payload now).1.1 := by
  unfold store
  split
  · next existing known =>
    obtain ⟨_, own⟩ := (tables.find_eq_some_iff _ _).mp known
    split
    · exact known
    · rw [find_replace, known, Option.map_some, if_pos own]
  · next new => exact tables.find_insert_self _ payload now new

omit [EvidenceHashing] in
/-- A call records what it says in the register of its case. -/
theorem register_store (tables : RcaTables) (keys : KeySource) (payload : RcaPayload) (now : Int) :
    (tables.store keys payload now).2.register payload.caseId =
      (tables.register payload.caseId).record Replaces (contentOf (payload, now)) := by
  unfold store
  split
  · next existing known =>
    obtain ⟨_, own⟩ := (tables.find_eq_some_iff _ _).mp known
    have current : (tables.register payload.caseId).current = some existing.content := by rw [register, known, Option.map_some]
    split
    · next same =>
      simp only [Register.record, current, Replaces, contentOf, RcaVersion.content, same, ne_eq, not_true_eq_false, if_false]
    · next other =>
      simp only [Register.record, current, Replaces, contentOf, RcaVersion.content, ne_eq, other, not_false_eq_true, if_true]
      rw [register, find_replace, known, Option.map_some, if_pos own, Option.map_some]
      simp only [replace, List.filter_append, List.map_append, register]
      rw [List.filter_cons_of_pos (by simpa using own)]
      rfl
  · next new =>
    have current : (tables.register payload.caseId).current = none := by rw [register, new, Option.map_none]
    simp only [Register.record, current]
    rw [register, find_insert_self]
    rfl

omit [EvidenceHashing] in
/-- Another case's result is left alone. -/
theorem find_store_other (tables : RcaTables) (keys : KeySource) {payload : RcaPayload} (now : Int) {caseId : String}
    (other : payload.caseId ≠ caseId) : (tables.store keys payload now).2.find caseId = tables.find caseId := by
  unfold store
  split
  · split
    · rfl
    · rw [find_replace]
      cases found : tables.find caseId with
      | none => rfl
      | some r =>
        obtain ⟨_, own⟩ := (tables.find_eq_some_iff _ _).mp found
        rw [Option.map_some, if_neg fun same => other (same.symm.trans own)]
  · rw [find_insert, if_neg other, Option.or_none]

omit [EvidenceHashing] in
theorem register_store_other (tables : RcaTables) (keys : KeySource) {payload : RcaPayload} (now : Int) {caseId : String}
    (other : payload.caseId ≠ caseId) : (tables.store keys payload now).2.register caseId = tables.register caseId := by
  have history : (tables.store keys payload now).2.history.filter (fun h => h.reconciliationCaseId = caseId) =
      tables.history.filter fun h => h.reconciliationCaseId = caseId := by
    unfold store
    split
    · next existing known =>
      obtain ⟨_, own⟩ := (tables.find_eq_some_iff _ _).mp known
      split
      · rfl
      · simp only [replace, List.filter_append]
        rw [List.filter_cons_of_neg (by simpa [own] using other), List.filter_nil, List.append_nil]
    · rfl
  rw [register, tables.find_store_other keys now other, history, register]

omit [EvidenceHashing] in
/-- After a call the result of its case has the fingerprint of what the call says. -/
theorem find_store (tables : RcaTables) (keys : KeySource) (payload : RcaPayload) (now : Int) :
    ∃ r, (tables.store keys payload now).2.find payload.caseId = some r ∧ r.fingerprint = RcaHashing.digest payload := by
  refine ⟨_, tables.find_store_answer keys payload now, ?_⟩
  unfold store
  split
  · split
    · next same => exact same
    · rfl
  · rfl

omit [EvidenceHashing] in
/-- What the result says already changes nothing. -/
theorem store_again {tables : RcaTables} {keys : KeySource} {payload : RcaPayload} {now : Int} {r : Rca}
    (found : tables.find payload.caseId = some r) (same : r.fingerprint = RcaHashing.digest payload) :
    tables.store keys payload now = ((r, false), tables) := by
  unfold store
  split
  · next other known =>
    rw [found] at known
    cases known
    rw [if_pos same]
  · next new => cases found.symm.trans new

end RcaTables

/-! ## Any number of calls -/

namespace RcaState

theorem answer_eq (state : RcaState) (call : RcaCall) :
    state.answer call = ((state.tables.store call.keys (state.statement call).1 call.now).1, (state.built call).2,
      (state.tables.store call.keys (state.statement call).1 call.now).2) := rfl

theorem register_step (state : RcaState) (call : RcaCall) (caseId : String) :
    (state.step call).tables.register caseId = if call.case.id = caseId
      then (state.tables.register caseId).record Replaces (contentOf (state.statement call)) else state.tables.register caseId := by
  split
  · next own =>
    subst own
    exact state.tables.register_store call.keys (state.statement call).1 call.now
  · next other => exact state.tables.register_store_other call.keys call.now other

theorem register_run (caseId : String) (state : RcaState) (calls : List RcaCall) :
    (Runs.run step state calls).tables.register caseId =
      ((said caseId state calls).map contentOf).foldl (Register.record Replaces) (state.tables.register caseId) := by
  induction calls generalizing state with
  | nil => rfl
  | cons call rest ih =>
    rw [Runs.run_cons, ih, register_step, said]
    split
    · rw [List.map_cons, List.foldl_cons]
    · rfl

/-- Calls for other cases leave the result of a case, and only add evidence. -/
theorem run_others {caseId : String} (state : RcaState) {calls : List RcaCall} (others : ∀ call ∈ calls, call.case.id ≠ caseId) :
    (Runs.run step state calls).tables.find caseId = state.tables.find caseId ∧
      state.evidence.rows <+: (Runs.run step state calls).evidence.rows := by
  induction calls generalizing state with
  | nil => exact ⟨rfl, List.prefix_refl _⟩
  | cons call rest ih =>
    obtain ⟨other, others⟩ := List.forall_mem_cons.mp others
    obtain ⟨same, grown⟩ := ih (state.step call) others
    have kept : (state.step call).tables.find caseId = state.tables.find caseId :=
      state.tables.find_store_other call.keys call.now other
    have added : state.evidence.rows <+: (state.step call).evidence.rows := EvidenceBuilder.build_grows _ _ _ _ _ _
    exact ⟨same.trans kept, added.trans grown⟩

/-- Evidence for what an earlier call was given is found, however much has been added. -/
theorem built_again {state after : RcaState} {call again : RcaCall} (unchanged : call.Unchanged again)
    (grown : (state.built call).2.rows <+: after.evidence.rows) : after.built again = ((state.built call).1, after.evidence) := by
  have about := again.about_or.trans (unchanged.about.trans call.about_or.symm)
  have case := unchanged.case
  rw [built, unchanged.store]
  rw [case] at about ⊢
  exact EvidenceBuilder.build_again grown again.keys about

/-- A call on what an earlier call was given changes nothing, if only other cases were called for between them. -/
theorem answer_again {state : RcaState} {call again : RcaCall} {others : List RcaCall} (unchanged : call.Unchanged again)
    (between : ∀ other ∈ others, other.case.id ≠ call.case.id) :
    ∃ r, (Runs.run step (state.step call) others).tables.find call.case.id = some r ∧
      (Runs.run step (state.step call) others).answer again =
        ((r, false), (Runs.run step (state.step call) others).evidence, (Runs.run step (state.step call) others).tables) := by
  obtain ⟨kept, grown⟩ := (state.step call).run_others between
  generalize Runs.run step (state.step call) others = after at kept grown
  obtain ⟨r, found, fingerprint⟩ := state.tables.find_store call.keys (state.statement call).1 call.now
  have current : after.tables.find call.case.id = some r := kept.trans found
  have built := built_again unchanged grown
  have payload : (after.statement again).1 = (state.statement call).1 := by
    simp only [statement, unchanged.case, unchanged.about, built]
  have stored : after.tables.store again.keys (after.statement again).1 again.now = ((r, false), after.tables) := by
    rw [payload]
    exact RcaTables.store_again current fingerprint
  exact ⟨r, current, by rw [answer_eq, stored, built]⟩

/-! ## What is stated -/

variable (lossless : Function.Injective EvidenceHashing.digest)
include lossless

omit [RcaHashing] in
theorem built_complete [RcaHashing] (state : RcaState) (call : RcaCall) : (state.built call).1.complete = call.supported := by
  simp only [built, RcaCall.supported]
  cases about : call.about with
  | none =>
    have none : EvidenceBuilder.exceptionOf call.desk call.case = none := by
      rw [RcaCall.about, Option.or_eq_none_iff] at about
      exact about.2
    simp only [EvidenceBuilder.build, none, Option.or_none, Option.any_none]
  | some exception =>
    rw [Option.any_some, Bool.eq_iff_iff, EvidenceBuilder.build_complete_iff lossless, List.all_eq_true]
    simp only [decide_eq_true_eq]

theorem statement_cause (state : RcaState) (call : RcaCall) : (state.statement call).1.cause = call.cause := by
  simp only [statement, rcaPayload, RcaCall.cause, state.built_complete lossless call]

theorem said_causes (caseId : String) (state : RcaState) (calls : List RcaCall) :
    (said caseId state calls).map (fun said => said.1.cause) =
      (calls.filter fun call => call.case.id = caseId).map RcaCall.cause := by
  induction calls generalizing state with
  | nil => rfl
  | cons call rest ih =>
    rw [said, List.filter_cons]
    by_cases own : call.case.id = caseId
    · rw [if_pos own, if_pos (decide_eq_true own), List.map_cons, List.map_cons, ih, state.statement_cause lossless]
    · rw [if_neg own, if_neg (by simpa using own), ih]

end RcaState

/-! ## Nothing is lost -/

/-- The versions of a case are what its calls have stated, but for each that repeats the one
before: the last is the result, those before it are the history. A call on what the last call
for the case was given changes nothing. -/
theorem rca_versions_kept (lossless : Function.Injective RcaHashing.digest) {start : RcaState} {caseId : String}
    (new : start.tables.find caseId = none) (unarchived : ∀ h ∈ start.tables.history, h.reconciliationCaseId ≠ caseId)
    (calls : List RcaCall) :
    let after := Runs.run RcaState.step start calls
    let versions := (RcaState.said caseId start calls).destutter fun earlier later => earlier.1 ≠ later.1
    (after.tables.history.filter fun h => h.reconciliationCaseId = caseId).map (fun h => h.content) = versions.dropLast.map contentOf ∧
      (after.tables.find caseId).map (fun r => r.content) = versions.getLast?.map contentOf ∧
      ∀ before call others again, calls = before ++ call :: others → call.case.id = caseId →
        (∀ other ∈ others, other.case.id ≠ caseId) → call.Unchanged again →
          ∃ r, after.tables.find caseId = some r ∧ after.answer again = ((r, false), after.evidence, after.tables) := by
  intro after versions
  have blank : start.tables.register caseId = {} := by
    rw [RcaTables.register, new, List.filter_eq_nil_iff.mpr fun h member => by simpa using unarchived h member]
    rfl
  have recorded := RcaState.register_run caseId start calls
  rw [blank] at recorded
  have distinct : versions.map contentOf = ((RcaState.said caseId start calls).map contentOf).destutter Replaces :=
    List.map_destutter fun earlier _ later _ => not_congr (lossless.eq_iff (a := earlier.1) (b := later.1)).symm
  obtain ⟨past, current⟩ := Register.run_eq Replaces ((RcaState.said caseId start calls).map contentOf)
  rw [← recorded, ← distinct] at past current
  refine ⟨?_, ?_, ?_⟩
  · rw [List.map_dropLast]
    exact past
  · rw [← List.getLast?_map]
    exact current
  · rintro before call others again rfl rfl between unchanged
    have reached : after = Runs.run RcaState.step ((Runs.run RcaState.step start before).step call) others := by
      rw [← Runs.run_cons, ← Runs.run_append]
    rw [reached]
    exact RcaState.answer_again unchanged between

end Hashing

section Examples
open PlainText

/-- A case of a payment that was not settled. -/
def lateCase : CaseRow where
  id := "case-1"
  caseNumber := "CASE-000001"
  merchantId := some "m1"
  title := "Payment without settlement"
  description := ""
  priority := "HIGH"
  paymentId := some "p1"
  recordId := some "p1"
  recordType := "payment"
  caseType := "PAYMENT_WITHOUT_SETTLEMENT"
  severity := "HIGH"
  status := "OPEN"
  expectedAmount := ⟨10000, -2⟩
  actualAmount := ⟨0, -2⟩
  difference := ⟨-10000, -2⟩
  confidence := ⟨100, -2⟩
  matchMethod := "UNMATCHED"
  matchConfidence := "LOW"
  matchedRecordId := none
  reasonCode := "PAYMENT_WITHOUT_SETTLEMENT"
  summary := ""
  metadataJson := []
  fingerprint := "f1"
  slaDueAt := 0
  createdAt := 0
  updatedAt := 0

def lateException : ReconciliationException where
  id := "e1"
  reconciliationCaseId := some "case-1"
  exceptionCode := "PAYMENT_NOT_SETTLED"
  severity := "HIGH"
  status := "OPEN"
  source := none
  merchantId := some "m1"
  primaryRecordId := some "p1"
  relatedRecordId := none
  expectedAmount := ⟨10000, -2⟩
  actualAmount := ⟨0, -2⟩
  difference := ⟨-10000, -2⟩
  fingerprint := "x1"

def latePayment : Payment :=
  { id := "p1", merchantId := some "m1", provider := "demo", providerPaymentId := "pay_1", amount := ⟨10000, -2⟩
    currency := "INR", status := "captured", captured := true
    createdAt := ⟨0, some 0⟩ }

/-- A call before the payment is stored, and one after. -/
def lateCalls : List RcaCall :=
  [⟨keys, 1, {}, {}, lateCase, some lateException⟩,
    ⟨keys, 2, { payments := [latePayment] }, {}, lateCase, some lateException⟩]

theorem rca_versions_kept_late :
    ((Runs.run RcaState.step {} lateCalls).tables.history.filter fun h => h.reconciliationCaseId = "case-1").map
        (fun h => h.content.cause.code) = ["INSUFFICIENT_EVIDENCE"] ∧
      ((Runs.run RcaState.step {} lateCalls).tables.find "case-1").map (fun r => r.content.cause.code) = some "SETTLEMENT_MISSING" := by
  have codes : ((RcaState.said "case-1" {} lateCalls).map fun said => said.1.cause).map RootCause.code =
      ["INSUFFICIENT_EVIDENCE", "SETTLEMENT_MISSING"] := by
    rw [RcaState.said_causes evidenceText_injective]
    decide
  obtain ⟨past, current, _⟩ := @rca_versions_kept _ _ rcaText_injective {} "case-1" rfl (fun _ member => nomatch member) lateCalls
  generalize Runs.run RcaState.step {} lateCalls = after at past current ⊢
  generalize RcaState.said "case-1" {} lateCalls = said at past current codes
  rw [List.map_map] at codes
  obtain ⟨first, rest, rfl, code, others⟩ := List.map_eq_cons_iff.mp codes
  obtain ⟨second, none, rfl, next, nothing⟩ := List.map_eq_cons_iff.mp others
  cases List.map_eq_nil_iff.mp nothing
  have differ : first.1 ≠ second.1 := by
    intro same
    have codes : "INSUFFICIENT_EVIDENCE" = "SETTLEMENT_MISSING" :=
      code.symm.trans ((congrArg (fun payload => payload.cause.code) same).trans next)
    exact absurd codes (by decide)
  rw [List.destutter_pair, if_pos differ] at past current
  constructor
  · have codes := congrArg (List.map fun c => c.cause.code) past
    rw [List.map_map] at codes
    exact codes.trans (congrArg (fun code => [code]) code)
  · have code := congrArg (Option.map fun c => c.cause.code) current
    rw [Option.map_map] at code
    exact code.trans (congrArg some next)

end Examples
end RCAA
