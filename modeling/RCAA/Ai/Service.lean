import RCAA.Ai.Providers
import RCAA.Audit.Service
import RCAA.Jobs.Service

/-! An investigation: the check of a provider's answer, and the cache of the answers that
passed it. A question is asked of the provider once; its audit is found by a fingerprint
of the case, the evidence, the question and the provider. -/

namespace RCAA.Ai

open AiRuntime

def maxQuestionChars : Nat := 2000

def forbidden : List String :=
  ["issue refund", "mark settled", "settle transaction", "change payment amount", "update payment", "update settlement",
    "modify refund", "resolve case", "execute sql", "reveal api key"]

/-- The texts of an answer that are searched for what is forbidden. -/
def ResultFields.searched (fields : ResultFields) : List String :=
  fields.facts ++ fields.deterministicFindings ++ fields.hypotheses ++ fields.recommendedActions ++
    [fields.summary, fields.uncertainty]

/-- What the fingerprint of a request is taken of. -/
@[ext] structure RequestKey where
  caseId : String
  evidenceFingerprint : String
  question : String
  promptVersion : String
  provider : String
  model : String

def RequestKey.entries (key : RequestKey) : List (String × Json) :=
  [("case_id", .str key.caseId),
    ("evidence_fingerprint", .str key.evidenceFingerprint),
    ("question", .str key.question),
    ("prompt_version", .str key.promptVersion),
    ("provider", .str key.provider),
    ("model", .str key.model)]

def requestKeys : List String := ["case_id", "evidence_fingerprint", "question", "prompt_version", "provider", "model"]

theorem RequestKey.entries_keys (key : RequestKey) : key.entries.map Prod.fst = requestKeys := rfl

/-- What `investigate` raises. -/
inductive InvestigateError where
  | service (error : AIServiceError)
  /-- `ValidationError`, of a stored answer. -/
  | validation
  /-- `IntegrityError`: the request has an audit. -/
  | integrity
deriving DecidableEq, Repr

section Service
variable [AiRuntime]

def validateCitations (context : InvestigationContext) (result : AIInvestigationResult) :
    Except AIServiceError AIInvestigationResult :=
  if ∃ id ∈ result.evidenceReferences, id ∉ context.evidence.map (·.id) then
    .error ⟨"INVALID_EVIDENCE_CITATION", "AI response referenced evidence outside the investigation context"⟩
  else if ∃ term ∈ forbidden, Jobs.containsText (lower (" ".intercalate result.searched)) term = true then
    .error ⟨"UNSAFE_AI_OUTPUT", "AI response contained a prohibited financial or privileged action"⟩
  else .ok result

def RequestKey.fingerprint (key : RequestKey) : String := Ai.fingerprint (.object key.entries)

/-- A question that may be asked, and what of. -/
structure Request where
  question : String
  context : InvestigationContext
  provider : Provider

namespace Request

def keyFields (request : Request) : RequestKey where
  caseId := request.context.case.id
  evidenceFingerprint := request.context.evidenceFingerprint
  question := request.question
  promptVersion := Ai.promptVersion
  provider := request.provider.name
  model := request.provider.model

/-- `request_key`. -/
def key (request : Request) : String := request.keyFields.fingerprint

/-- What the provider answers, where it passes the check. -/
def answer (request : Request) : Except ProviderFailure AIInvestigationResult := do
  let result ← request.provider.generateInvestigation request.question request.context
  (validateCitations request.context result).mapError .service

/-- The audit of a call that failed. -/
def failure (request : Request) (status : String) : AIInvestigationAudit where
  caseId := request.context.case.id
  requestFingerprint := request.key
  evidenceFingerprint := request.context.evidenceFingerprint
  promptVersion := Ai.promptVersion
  provider := request.provider.name
  model := request.provider.model
  status

/-- The audit of an answer. -/
def success (request : Request) (result : AIInvestigationResult) : AIInvestigationAudit where
  caseId := request.context.case.id
  requestFingerprint := request.key
  evidenceFingerprint := request.context.evidenceFingerprint
  promptVersion := Ai.promptVersion
  provider := result.provider
  model := result.model
  resultFingerprint := some (fingerprint result.modelDump)
  resultJson := some result.modelDump
  status := "SUCCEEDED"

end Request

/-- `investigate` up to the provider it asks. -/
def prepare (files : CaseFiles) (selected : Except AIServiceError Provider) (case : CaseRow) (question : String) :
    Except AIServiceError Request :=
  let question := strip question
  if question = "" then .error ⟨"INVALID_QUESTION", "question must not be empty"⟩
  else if maxQuestionChars < question.length then
    .error ⟨"QUESTION_TOO_LONG", "question exceeds the configured length limit"⟩
  else do
    let context ← buildContext files case
    let provider ← selected
    return ⟨question, context, provider⟩

/-- A question that may be asked of a case, and the context it is asked of. -/
structure Askable (files : CaseFiles) (case : CaseRow) (question : String) (context : InvestigationContext) : Prop where
  named : strip question ≠ ""
  short : (strip question).length ≤ maxQuestionChars
  built : buildContext files case = .ok context

/-- Adds an audit and goes on, unless its request has one. -/
def recorded {α : Type} (audits : Audits) (audit : AIInvestigationAudit) (result : Except InvestigateError α) :
    Except InvestigateError α × Audits :=
  match audits.insert audit with
  | some audits => (result, audits)
  | none => (.error .integrity, audits)

/-- The question is asked of the provider. -/
def ask (audits : Audits) (request : Request) : Except InvestigateError (AIInvestigationResult × String) × Audits :=
  match request.answer with
  | .error (.provider exc) => recorded audits (request.failure exc.code) (.error (.service ⟨exc.code, exc.safeMessage⟩))
  | .error (.service exc) => (.error (.service exc), audits)
  | .error .raised =>
    recorded audits (request.failure "AI_ERROR")
      (.error (.service ⟨"AI_ERROR", "AI investigation could not be completed safely"⟩))
  | .ok result => recorded audits (request.success result) (.ok (result, request.key))

/-- A stored answer is returned without asking. -/
def investigate (files : CaseFiles) (audits : Audits) (selected : Except AIServiceError Provider) (case : CaseRow)
    (question : String) : Except InvestigateError (AIInvestigationResult × String) × Audits :=
  match prepare files selected case question with
  | .error exc => (.error (.service exc), audits)
  | .ok request =>
    match audits.cached request.key with
    | some stored =>
      match modelValidate stored with
      | some result => (.ok (result, request.key), audits)
      | none => (.error .validation, audits)
    | none => ask audits request

/-! ## What a call did -/

theorem prepare_ok {files : CaseFiles} {selected : Except AIServiceError Provider} {case : CaseRow} {question : String}
    {request : Request} (prepared : prepare files selected case question = .ok request) :
    buildContext files case = .ok request.context ∧ request.question = strip question ∧ selected = .ok request.provider := by
  simp only [prepare] at prepared
  split_ifs at prepared
  obtain ⟨context, built, prepared⟩ := Outcome.bind_ok prepared
  obtain ⟨provider, chosen, prepared⟩ := Outcome.bind_ok prepared
  cases prepared
  exact ⟨built, rfl, chosen⟩

theorem Askable.prepare {files : CaseFiles} {case : CaseRow} {question : String} {context : InvestigationContext}
    (askable : Askable files case question context) (provider : Provider) :
    prepare files (.ok provider) case question = .ok ⟨strip question, context, provider⟩ := by
  simp only [Ai.prepare, if_neg askable.named, if_neg (Nat.not_lt.mpr askable.short), askable.built]
  rfl

theorem validateCitations_ok {context : InvestigationContext} {result checked : AIInvestigationResult}
    (passed : validateCitations context result = .ok checked) :
    checked = result ∧ (∀ id ∈ result.evidenceReferences, id ∈ context.evidence.map (·.id)) ∧
      ∀ term ∈ forbidden, ¬term.toList <:+: (lower (" ".intercalate result.searched)).toList := by
  simp only [validateCitations] at passed
  split_ifs at passed with invalid prohibited
  cases passed
  push Not at invalid prohibited
  refine ⟨rfl, invalid, fun term member inside => prohibited term member ?_⟩
  exact decide_eq_true inside

/-- An answer passed the check of the context it was given for. -/
theorem Request.answer_ok {request : Request} {result : AIInvestigationResult} (answered : request.answer = .ok result) :
    validateCitations request.context result = .ok result := by
  obtain ⟨given, _, passed⟩ := Outcome.bind_ok answered
  cases checked : validateCitations request.context given with
  | error exc =>
    rw [checked] at passed
    cases passed
  | ok same =>
    rw [checked] at passed
    cases passed
    rw [← (validateCitations_ok checked).1] at checked
    exact checked

theorem Request.answer_valid {request : Request} {result : AIInvestigationResult}
    (given : request.provider.generateInvestigation request.question request.context = .ok result)
    (valid : validateCitations request.context result = .ok result) : request.answer = .ok result := by
  rw [Request.answer, given]
  change (validateCitations request.context result).mapError ProviderFailure.service = .ok result
  rw [valid]
  rfl

/-- What a call returns or raises, and the audits it leaves. -/
inductive Called (audits : Audits) (prepared : Except AIServiceError Request) :
    Except InvestigateError (AIInvestigationResult × String) × Audits → Prop where
  | raised (error : InvestigateError) : Called audits prepared (.error error, audits)
  | failed {request : Request} {status : String} {after : Audits} (error : InvestigateError) (other : status ≠ "SUCCEEDED")
      (rows : after.rows = audits.rows ++ [request.failure status]) : Called audits prepared (.error error, after)
  | reused {request : Request} {stored : Json} {result : AIInvestigationResult} (asked : prepared = .ok request)
      (hit : audits.cached request.key = some stored) (read : modelValidate stored = some result) :
      Called audits prepared (.ok (result, request.key), audits)
  | answered {request : Request} {result : AIInvestigationResult} {after : Audits} (asked : prepared = .ok request)
      (answer : request.answer = .ok result) (rows : after.rows = audits.rows ++ [request.success result]) :
      Called audits prepared (.ok (result, request.key), after)

theorem recorded_failure {audits : Audits} {prepared : Except AIServiceError Request} {request : Request} {status : String}
    (other : status ≠ "SUCCEEDED") (error : InvestigateError) :
    Called audits prepared (recorded audits (request.failure status) (.error error)) := by
  unfold recorded
  split
  · next inserted => exact .failed error other (Audits.insert_eq_some inserted)
  · exact .raised .integrity

theorem ask_called {audits : Audits} {prepared : Except AIServiceError Request} {request : Request}
    (asked : prepared = .ok request) : Called audits prepared (ask audits request) := by
  unfold ask
  split
  · next exc _ => exact recorded_failure exc.code_ne_succeeded _
  · next exc _ => exact .raised (.service exc)
  · exact recorded_failure (by decide) _
  · next result answer =>
    unfold recorded
    split
    · next inserted => exact .answered asked answer (Audits.insert_eq_some inserted)
    · exact .raised .integrity

theorem investigate_called (files : CaseFiles) (audits : Audits) (selected : Except AIServiceError Provider) (case : CaseRow)
    (question : String) :
    Called audits (prepare files selected case question) (investigate files audits selected case question) := by
  unfold investigate
  split
  · next exc _ => exact .raised (.service exc)
  · next request asked =>
    split
    · next stored hit =>
      split
      · next result read => exact .reused asked hit read
      · exact .raised .validation
    · exact ask_called asked

/-- While no answer is stored, a call asks the provider. -/
theorem Askable.investigate {files : CaseFiles} {case : CaseRow} {question : String} {context : InvestigationContext}
    (askable : Askable files case question context) {audits : Audits} {provider : Provider}
    (unanswered : audits.cached (Request.key ⟨strip question, context, provider⟩) = none) :
    Ai.investigate files audits (.ok provider) case question = ask audits ⟨strip question, context, provider⟩ := by
  simp only [Ai.investigate, askable.prepare, unanswered]

omit [AiRuntime] in
theorem recorded_new {α : Type} {audits : Audits} {audit : AIInvestigationAudit} (new : audit.requestFingerprint ∉ audits.keys)
    (result : Except InvestigateError α) :
    ∃ after, recorded audits audit result = (result, after) ∧ after.rows = audits.rows ++ [audit] := by
  obtain ⟨after, inserted, rows⟩ := Audits.insert_new new
  refine ⟨after, ?_, rows⟩
  simp only [recorded, inserted]

/-- An answer that passed the check is returned and stored, where its request has no audit. -/
theorem ask_answers {audits : Audits} {request : Request} {answer : AIInvestigationResult} (given : request.answer = .ok answer)
    (new : request.key ∉ audits.keys) :
    ∃ after, ask audits request = (.ok (answer, request.key), after) ∧ after.rows = audits.rows ++ [request.success answer] := by
  have absent : (request.success answer).requestFingerprint ∉ audits.keys := new
  obtain ⟨after, returned, rows⟩ := recorded_new absent (.ok (answer, request.key))
  refine ⟨after, ?_, rows⟩
  simp only [ask, given, returned]

end Service

/-! ## Evaluation -/

namespace PlainText
open RCAA.PlainText Audit.PlainText

scoped instance plainAi : AiRuntime where
  toPlatform := plainText
  sha256 := documentHashing.sha256
  compact := documentHashing.dumps
  spaced := documentHashing.dumps
  loads _ := none
  listText _ := ""

/-- A case without evidence, and its context. -/
def bareCase : CaseRow where
  id := "case-1"
  caseNumber := "CASE-000001"
  merchantId := some "m1"
  title := "Bank credit"
  description := ""
  priority := "HIGH"
  paymentId := none
  recordId := none
  recordType := "bank_transaction"
  caseType := "BANK_WITHOUT_SETTLEMENT"
  severity := "HIGH"
  status := "OPEN"
  expectedAmount := ⟨0, 0⟩
  actualAmount := ⟨500, 0⟩
  difference := ⟨500, 0⟩
  confidence := ⟨100, -2⟩
  matchMethod := "UNMATCHED"
  matchConfidence := "LOW"
  matchedRecordId := none
  reasonCode := "BANK_WITHOUT_SETTLEMENT"
  summary := ""
  metadataJson := []
  fingerprint := "f1"
  slaDueAt := 0
  createdAt := 0
  updatedAt := 0

def bareContext : InvestigationContext where
  case := bareCase
  exceptions := []
  evidence := []
  deterministicRca := none
  relevantFinancialValues := financialValues bareCase []
  evidenceFingerprint := evidenceFingerprint []
  contextFingerprint := fingerprint (baseContext bareCase [] [] none)

theorem bareContext_fits : ¬maxContextChars < (AiRuntime.compact (baseContext bareCase [] [] none).sorted).length := by
  change ¬maxContextChars < (String.ofList (documentText _)).length
  rw [String.length_ofList]
  decide +kernel

theorem bareCase_askable : Askable {} bareCase "Why?" bareContext where
  named := by decide
  short := by decide
  built := by
    have evidence : CaseFiles.listCaseEvidence {} bareCase.id = [] := rfl
    have exceptions : CaseFiles.listCaseExceptions {} bareCase.id = [] := rfl
    have rca : CaseFiles.rca {} bareCase.id = none := rfl
    simp only [buildContext, evidence, exceptions, rca]
    rw [if_neg (by decide), if_neg (by simp), if_neg bareContext_fits]
    rfl

/-- An answer that cites nothing. -/
def plainFields : ResultFields where
  summary := "A credit without a settlement."
  safetyDisclaimer := "Not financial truth."
  provider := "mock"
  promptVersion := promptVersion

def plainAnswer : AIInvestigationResult := ⟨plainFields, plainFields, rfl⟩

theorem plainAnswer_permitted :
    ¬∃ term ∈ forbidden, Jobs.containsText (lower (" ".intercalate plainAnswer.searched)) term = true := by
  decide +kernel

theorem plainAnswer_valid : validateCitations bareContext plainAnswer = .ok plainAnswer := by
  rw [validateCitations, if_neg (by simp [plainAnswer, plainFields]), if_neg plainAnswer_permitted]

end PlainText
end RCAA.Ai
