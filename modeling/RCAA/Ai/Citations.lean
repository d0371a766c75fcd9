import RCAA.Ai.Service
import RCAA.Library.Runs

/-! An answer that is returned, fresh or stored, cites the evidence of the case as it is
then. A stored answer passed the check of the evidence its request fingerprint names, and
the fingerprint of a request that finds it names the same evidence. -/

namespace RCAA.Ai

open AiRuntime

/-- An answer that cites only the given evidence, with no forbidden phrase in a text of it. -/
structure Grounded [AiRuntime] (ids : List String) (fields : ResultFields) : Prop where
  cites : ∀ id ∈ fields.evidenceReferences, id ∈ ids
  permitted : ∀ text ∈ fields.searched, ∀ term ∈ forbidden, ¬term.toList <:+: (lower text).toList

section Service
variable [AiRuntime]

/-! ## The check -/

/-- Each text is found, lower-cased, in the lower-cased join of all. -/
theorem lower_within (words : ∀ a b, lower (a ++ " " ++ b) = lower a ++ " " ++ lower b) {texts : List String} {text : String}
    (member : text ∈ texts) : (lower text).toList <:+: (lower (" ".intercalate texts)).toList := by
  induction texts with
  | nil => cases member
  | cons first rest ih =>
    cases rest with
    | nil =>
      rw [List.mem_singleton.mp member, String.intercalate_singleton]
    | cons second rest =>
      rw [String.intercalate_cons_cons, words, String.toList_append, String.toList_append]
      rcases List.mem_cons.mp member with rfl | later
      · rw [List.append_assoc]
        exact (List.prefix_append _ _).isInfix
      · exact (ih later).trans (List.suffix_append _ _).isInfix

theorem validateCitations_grounded (words : ∀ a b, lower (a ++ " " ++ b) = lower a ++ " " ++ lower b)
    {context : InvestigationContext} {result checked : AIInvestigationResult}
    (passed : validateCitations context result = .ok checked) :
    Grounded (context.evidence.map (·.id)) result.toResultFields := by
  obtain ⟨_, cites, permitted⟩ := validateCitations_ok passed
  refine ⟨cites, fun text searched term member inside => ?_⟩
  exact permitted term member (inside.trans (lower_within words searched))

/-! ## What a fingerprint names -/

section Fingerprints
variable (hash : Function.Injective sha256) (text : Function.Injective compact)
include hash text

theorem fingerprint_inj {a b : Json} : fingerprint a = fingerprint b ↔ a.sorted = b.sorted := by
  rw [fingerprint, fingerprint, hash.eq_iff, text.eq_iff]

theorem RequestKey.fingerprint_injective : Function.Injective RequestKey.fingerprint := by
  intro a b same
  have documents : (Json.object a.entries).sorted = (Json.object b.entries).sorted := (fingerprint_inj hash text).mp same
  have distinct : (a.entries.map Prod.fst).Nodup := by
    rw [entries_keys]
    decide
  have fields := Json.sortedFields_inj (a.entries_keys.trans b.entries_keys.symm) distinct documents
  simp only [entries, Json.sortedFields, Json.sorted_str, List.cons.injEq, Prod.mk.injEq, true_and, Json.str_inj, and_true]
    at fields
  obtain ⟨caseId, evidence, question, version, provider, model⟩ := fields
  exact RequestKey.ext caseId evidence question version provider model

/-- Evidence with one fingerprint has the same ids. -/
theorem evidence_ids {a b : List Evidence} (same : evidenceFingerprint a = evidenceFingerprint b) :
    a.map (·.id) = b.map (·.id) := by
  obtain ⟨read, reads⟩ := (Function.factorsThrough_iff fun e : Evidence => e.id).mp id_of_entries
  have documents := (fingerprint_inj hash text).mp same
  simp only [evidenceDicts, Json.sorted, Json.sortedItems_eq_map, List.map_map, Json.list.injEq] at documents
  have ids (evidence : List Evidence) :
      evidence.map (·.id) = (evidence.map (Json.sorted ∘ fun e => Json.object (evidenceEntries e))).map read := by
    rw [List.map_map, reads]
    rfl
  rw [ids a, ids b, documents]

end Fingerprints
/-! ## The stored answers -/

/-- Every stored answer passed the check of the evidence its request names. -/
def Audits.Vetted (audits : Audits) : Prop :=
  ∀ row ∈ audits.rows, row.status = "SUCCEEDED" → ∃ (result : AIInvestigationResult) (key : RequestKey) (evidence : List Evidence),
    row.resultJson = some result.modelDump ∧ row.requestFingerprint = key.fingerprint ∧
      key.evidenceFingerprint = evidenceFingerprint evidence ∧ Grounded (evidence.map (·.id)) result.toResultFields

theorem prepare_evidence {files : CaseFiles} {selected : Except AIServiceError Provider} {case : CaseRow} {question : String}
    {request : Request} (prepared : prepare files selected case question = .ok request) :
    request.keyFields.evidenceFingerprint = evidenceFingerprint request.context.evidence := by
  obtain ⟨evidence, fingerprint⟩ := buildContext_ok (prepare_ok prepared).1
  rw [evidence]
  exact fingerprint

variable (words : ∀ a b, lower (a ++ " " ++ b) = lower a ++ " " ++ lower b)

include words in
theorem vetted_called {files : CaseFiles} {audits : Audits} {selected : Except AIServiceError Provider} {case : CaseRow}
    {question : String} {outcome : Except InvestigateError (AIInvestigationResult × String) × Audits}
    (called : Called audits (prepare files selected case question) outcome) (vetted : audits.Vetted) : outcome.2.Vetted := by
  cases called with
  | raised error => exact vetted
  | failed error other rows =>
    intro row member succeeded
    rw [rows, List.mem_append, List.mem_singleton] at member
    rcases member with before | rfl
    · exact vetted row before succeeded
    · exact absurd succeeded other
  | reused asked hit read => exact vetted
  | @answered request result after asked answer rows =>
    intro row member succeeded
    rw [rows, List.mem_append, List.mem_singleton] at member
    rcases member with before | rfl
    · exact vetted row before succeeded
    · have grounded := validateCitations_grounded words (Request.answer_ok answer)
      exact ⟨result, request.keyFields, request.context.evidence, rfl, rfl, prepare_evidence asked, grounded⟩

/-- A call that raises stores no answer. -/
theorem Called.stores_none {audits after : Audits} {prepared : Except AIServiceError Request} {error : InvestigateError}
    (called : Called audits prepared (.error error, after)) {row : AIInvestigationAudit} (member : row ∈ after.rows)
    (succeeded : row.status = "SUCCEEDED") : row ∈ audits.rows := by
  cases called with
  | raised error => exact member
  | failed error other rows =>
    rw [rows, List.mem_append, List.mem_singleton] at member
    rcases member with before | rfl
    · exact before
    · exact absurd succeeded other

section Fingerprints
variable (hash : Function.Injective sha256) (text : Function.Injective compact)
  (strips : ∀ text, strip (strip text) = strip text)
include words hash text strips

/-- An answer is grounded in the evidence of the case at the time of the call. -/
theorem Called.grounded {files : CaseFiles} {audits after : Audits} {selected : Except AIServiceError Provider} {case : CaseRow}
    {question key : String} {result : AIInvestigationResult}
    (called : Called audits (prepare files selected case question) (.ok (result, key), after)) (vetted : audits.Vetted) :
    ∃ context, buildContext files case = .ok context ∧ Grounded (context.evidence.map (·.id)) result.toResultFields := by
  cases called with
  | @reused request stored _ asked hit read =>
    refine ⟨request.context, (prepare_ok asked).1, ?_⟩
    obtain ⟨row, member, named, succeeded, kept⟩ := Audits.cached_mem hit
    obtain ⟨answer, fields, evidence, dumped, fingerprint, names, grounded⟩ := vetted row member succeeded
    -- The row was found by the fingerprint of this request, so both name one evidence.
    have request_eq : request.keyFields = fields :=
      RequestKey.fingerprint_injective hash text (named.symm.trans fingerprint)
    have ids : request.context.evidence.map (·.id) = evidence.map (·.id) :=
      evidence_ids hash text ((prepare_evidence asked).symm.trans (request_eq ▸ names))
    rw [kept, Option.some.injEq] at dumped
    rw [dumped] at read
    rw [ids, AIInvestigationResult.modelValidate_again strips read]
    exact grounded
  | @answered request _ _ asked answer rows =>
    exact ⟨request.context, (prepare_ok asked).1, validateCitations_grounded words (Request.answer_ok answer)⟩

end Fingerprints

/-! ## Runs -/

/-- The rows of the cases, and the audits. -/
structure World where
  files : CaseFiles
  audits : Audits := {}

inductive Step where
  /-- Rows of cases are written. -/
  | changed (files : CaseFiles)
  | investigated (selected : Except AIServiceError Provider) (case : CaseRow) (question : String)

def Step.apply (world : World) (step : Step) : World :=
  match step with
  | .changed files => { world with files }
  | .investigated selected case question =>
    { world with audits := (investigate world.files world.audits selected case question).2 }

include words in
theorem vetted_run (files : CaseFiles) (steps : List Step) : (Runs.run Step.apply ⟨files, {}⟩ steps).audits.Vetted := by
  have kept : ∀ (world : World) (step : Step), world.audits.Vetted → (step.apply world).audits.Vetted := by
    intro world step vetted
    cases step with
    | changed files => exact vetted
    | investigated selected case question => exact vetted_called words (investigate_called ..) vetted
  have initial : (World.mk files {}).audits.Vetted := fun row member => nomatch member
  exact Runs.invariant kept initial steps

/-- Whatever was asked and changed before and whatever a provider answers, an answer that
is returned is grounded in the evidence of the case at that time, and a call that raises
stores none. -/
theorem answers_cite_current_evidence (words : ∀ a b, lower (a ++ " " ++ b) = lower a ++ " " ++ lower b)
    (hash : Function.Injective sha256) (text : Function.Injective compact) (strips : ∀ text, strip (strip text) = strip text)
    (files : CaseFiles) (steps : List Step) (selected : Except AIServiceError Provider) (case : CaseRow) (question : String) :
    let world := Runs.run Step.apply ⟨files, {}⟩ steps
    let outcome := investigate world.files world.audits selected case question
    (∀ result key, outcome.1 = .ok (result, key) → ∃ context, buildContext world.files case = .ok context ∧
      Grounded (context.evidence.map (·.id)) result.toResultFields) ∧
    ∀ error, outcome.1 = .error error → ∀ row ∈ outcome.2.rows, row.status = "SUCCEEDED" → row ∈ world.audits.rows := by
  intro world outcome
  have called : Called world.audits (prepare world.files selected case question) outcome := investigate_called ..
  constructor
  · intro result key returned
    rw [← Prod.eta outcome, returned] at called
    exact called.grounded words hash text strips (vetted_run words files steps)
  · intro error raised row member succeeded
    rw [← Prod.eta outcome, raised] at called
    exact called.stores_none member succeeded

end Service

section Examples
open RCAA.PlainText PlainText Audit.PlainText

theorem lower_words (a b : String) : lower (a ++ " " ++ b) = lower a ++ " " ++ lower b := by
  rw [lower_append, lower_append]
  rfl

/-- Evidence of the case that is deleted again. -/
def bankEvidence : Evidence where
  id := "ev-1"
  caseId := "case-1"
  evidenceType := .bankTransaction
  sourceEntityType := "BankTransaction"
  sourceEntityId := "b1"
  snapshot := [("amount", .text "500.00")]
  relevance := "Primary financial record supporting the exception."
  capturedAt := 0
  fingerprint := "e1"

/-- Evidence is added, a blank question asked, and the evidence deleted. -/
def deletion : List Step :=
  [.changed { evidence := [bankEvidence] }, .investigated (.ok MockAIProvider.provider) bareCase " ", .changed {}]

theorem run_deletion : Runs.run Step.apply ⟨{}, {}⟩ deletion = ⟨{}, {}⟩ := by
  have blank : strip " " = "" := by decide
  simp only [deletion, Runs.run_cons, Runs.run_nil, Step.apply, investigate, prepare, blank, if_true]

/-- A provider that gives the answer that cites nothing. -/
def plainProvider : Provider := ⟨"mock", "", fun _ _ => .ok plainAnswer⟩

theorem plainAnswer_returned :
    ∃ key, (investigate {} {} (.ok plainProvider) bareCase "Why?").1 = .ok (plainAnswer, key) := by
  have given : Request.answer ⟨strip "Why?", bareContext, plainProvider⟩ = .ok plainAnswer :=
    Request.answer_valid rfl plainAnswer_valid
  have new : Request.key ⟨strip "Why?", bareContext, plainProvider⟩ ∉ Audits.keys {} := by simp
  obtain ⟨after, asked, _⟩ := ask_answers given new
  rw [bareCase_askable.investigate (Audits.cached_empty _), asked]
  exact ⟨_, rfl⟩

theorem answers_cite_current_evidence_deletion :
    ∃ context, buildContext {} bareCase = .ok context ∧ Grounded (context.evidence.map (·.id)) plainAnswer.toResultFields := by
  obtain ⟨key, returned⟩ := plainAnswer_returned
  have current := answers_cite_current_evidence lower_words sha256_injective dumps_injective strip_again {} deletion
    (.ok plainProvider) bareCase "Why?"
  rw [run_deletion] at current
  exact current.1 plainAnswer key returned

end Examples
end RCAA.Ai
