import RCAA.Ai.Service
import RCAA.Library.Runs

/-! Asking again. A call whose provider fails leaves an audit under the fingerprint of its
request, which then takes no other: the answer a retry gets cannot be stored, and the
retry raises. A call whose answer is refused leaves none. -/

namespace RCAA.Ai

open AiRuntime

section Service
variable [AiRuntime]

/-- What a provider gives back for one call. -/
abbrev Reply := Except ProviderFailure AIInvestigationResult

/-- A provider that gives back this. -/
def answering (name model : String) (reply : Reply) : Provider := ⟨name, model, fun _ _ => reply⟩

/-- A failure that leaves an audit. -/
def Recorded (reply : Reply) : Prop := (∃ exc, reply = .error (.provider exc)) ∨ reply = .error .raised

/-- The provider fails, or its answer does not pass the check. -/
def Fails (context : InvestigationContext) (reply : Reply) : Prop :=
  ∀ result, reply = .ok result → ∃ exc, validateCitations context result = .error exc

/-- A call returned the answer and left it stored as that of its request. -/
def Answered (outcome : Except InvestigateError (AIInvestigationResult × String) × Audits) (answer : AIInvestigationResult)
    (key : String) : Prop :=
  outcome.1 = .ok (answer, key) ∧
    ∃ row ∈ outcome.2.rows, row.requestFingerprint = key ∧ row.status = "SUCCEEDED" ∧ row.resultJson = some answer.modelDump

/-! ## One call -/

theorem recorded_failure_audits {audits : Audits} {request : Request} {status : String} (other : status ≠ "SUCCEEDED")
    (error : InvestigateError) (unanswered : audits.cached request.key = none) :
    let after := (recorded audits (request.failure status) (Except.error (α := AIInvestigationResult × String) error)).2
    after.cached request.key = none ∧ request.key ∈ after.keys := by
  unfold recorded
  split
  · next after inserted =>
    refine ⟨(Audits.cached_insert inserted other request.key).trans unanswered, ?_⟩
    rw [Audits.keys_insert inserted]
    exact List.mem_append_right _ (List.mem_singleton_self _)
  · next taken => exact ⟨unanswered, Audits.insert_eq_none_iff.mp taken⟩

/-- A call that fails leaves the request unanswered, and with an audit where it had one or
the failure is recorded. -/
theorem ask_fails {audits : Audits} {question name model : String} {context : InvestigationContext} {reply : Reply}
    (fails : Fails context reply) :
    let request : Request := ⟨question, context, answering name model reply⟩
    audits.cached request.key = none → (ask audits request).2.cached request.key = none ∧
      (request.key ∈ (ask audits request).2.keys ↔ request.key ∈ audits.keys ∨ Recorded reply) := by
  intro request unanswered
  have given : request.answer = reply >>= fun result => (validateCitations context result).mapError ProviderFailure.service := rfl
  cases reply with
  | ok result =>
    obtain ⟨exc, refused⟩ := fails result rfl
    have answer : request.answer = .error (.service exc) := by
      rw [given]
      change (validateCitations context result).mapError ProviderFailure.service = _
      rw [refused]
      rfl
    simp only [ask, answer]
    exact ⟨unanswered, by simp [Recorded]⟩
  | error failure =>
    have answer : request.answer = .error failure := given
    cases failure with
    | provider exc =>
      simp only [ask, answer]
      obtain ⟨still, has⟩ := recorded_failure_audits exc.code_ne_succeeded (.service ⟨exc.code, exc.safeMessage⟩) unanswered
      exact ⟨still, by simp [has, Recorded]⟩
    | service exc =>
      simp only [ask, answer]
      exact ⟨unanswered, by simp [Recorded]⟩
    | raised =>
      have other : "AI_ERROR" ≠ "SUCCEEDED" := by decide
      simp only [ask, answer]
      obtain ⟨still, has⟩ := recorded_failure_audits other
        (.service ⟨"AI_ERROR", "AI investigation could not be completed safely"⟩) unanswered
      exact ⟨still, by simp [has, Recorded]⟩

/-- A call whose answer passes the check returns it, where the request has no audit. -/
theorem ask_answered_iff {audits : Audits} {request : Request} {answer : AIInvestigationResult}
    (given : request.answer = .ok answer) : Answered (ask audits request) answer request.key ↔ request.key ∉ audits.keys := by
  constructor
  · rintro ⟨returned, _⟩ taken
    have refused : audits.insert (request.success answer) = none := Audits.insert_eq_none_iff.mpr taken
    simp only [ask, given, recorded, refused] at returned
    cases returned
  · intro new
    obtain ⟨after, asked, rows⟩ := ask_answers given new
    rw [asked]
    refine ⟨rfl, request.success answer, ?_, rfl, rfl, rfl⟩
    rw [rows]
    exact List.mem_append_right _ (List.mem_singleton_self _)

/-! ## Attempts -/

section Attempts
variable (files : CaseFiles) (case : CaseRow) (question name model : String)

/-- One call of the question, whose provider gives back this. -/
def attempt (audits : Audits) (reply : Reply) : Except InvestigateError (AIInvestigationResult × String) × Audits :=
  investigate files audits (.ok (answering name model reply)) case question

/-- The audits that calls of the question leave, one after another. -/
def afterAttempts (audits : Audits) (replies : List Reply) : Audits :=
  Runs.run (fun audits reply => (attempt files case question name model audits reply).2) audits replies

/-- The fingerprint of every call of the question. -/
def attemptKey (context : InvestigationContext) : String :=
  Request.key ⟨strip question, context, answering name model (.error .raised)⟩

variable {files case question name model} {context : InvestigationContext}

/-- While no answer is stored, every call asks the provider. -/
theorem attempt_asks (askable : Askable files case question context) {audits : Audits}
    (unanswered : audits.cached (attemptKey question name model context) = none) (reply : Reply) :
    attempt files case question name model audits reply =
      ask audits ⟨strip question, context, answering name model reply⟩ :=
  askable.investigate unanswered

/-- After calls that failed the request is unanswered still, and has an audit where it had
one before or a failure was recorded. -/
theorem afterAttempts_failed (askable : Askable files case question context) {audits : Audits} {failures : List Reply}
    (unanswered : audits.cached (attemptKey question name model context) = none)
    (fails : ∀ reply ∈ failures, Fails context reply) :
    let after := afterAttempts files case question name model audits failures
    after.cached (attemptKey question name model context) = none ∧
      (attemptKey question name model context ∈ after.keys ↔
        attemptKey question name model context ∈ audits.keys ∨ ∃ reply ∈ failures, Recorded reply) := by
  induction failures generalizing audits with
  | nil => exact ⟨unanswered, by simp [afterAttempts]⟩
  | cons reply rest ih =>
    have step := ask_fails (fails reply List.mem_cons_self) unanswered
    rw [← attempt_asks askable unanswered reply] at step
    obtain ⟨still, has⟩ := ih step.1 fun reply member => fails reply (List.mem_cons_of_mem _ member)
    refine ⟨still, has.trans ?_⟩
    have first : attemptKey question name model context ∈ (attempt files case question name model audits reply).2.keys ↔
        attemptKey question name model context ∈ audits.keys ∨ Recorded reply := step.2
    rw [first, List.exists_mem_cons_iff, or_assoc]

/-- A call whose answer passes the check returns it, unless the request has an audit. -/
theorem attempt_answered_iff (askable : Askable files case question context) {audits : Audits}
    (unanswered : audits.cached (attemptKey question name model context) = none) {answer : AIInvestigationResult}
    (valid : validateCitations context answer = .ok answer) :
    Answered (attempt files case question name model audits (.ok answer)) answer (attemptKey question name model context) ↔
      attemptKey question name model context ∉ audits.keys := by
  have given : Request.answer ⟨strip question, context, answering name model (.ok answer)⟩ = .ok answer :=
    Request.answer_valid rfl valid
  rw [attempt_asks askable unanswered]
  exact ask_answered_iff given

/-- After any calls of a question that fail, a call whose provider answers validly returns
the answer and stores it exactly when no failure of the request was recorded, among these
or before them. -/
theorem retry_answers_iff (askable : Askable files case question context) {audits : Audits} {failures : List Reply}
    (unanswered : audits.cached (attemptKey question name model context) = none)
    (fails : ∀ reply ∈ failures, Fails context reply) {answer : AIInvestigationResult}
    (valid : validateCitations context answer = .ok answer) :
    Answered (attempt files case question name model (afterAttempts files case question name model audits failures) (.ok answer))
        answer (attemptKey question name model context) ↔
      attemptKey question name model context ∉ audits.keys ∧ ∀ reply ∈ failures, ¬Recorded reply := by
  obtain ⟨still, has⟩ := afterAttempts_failed askable unanswered fails
  refine (attempt_answered_iff askable still valid).trans ((not_congr has).trans ?_)
  push Not
  rfl

/-- One recorded failure, and no later call answers the question. -/
theorem recorded_failure_blocks (askable : Askable files case question context) {audits : Audits} {failures : List Reply}
    (unanswered : audits.cached (attemptKey question name model context) = none)
    (fails : ∀ reply ∈ failures, Fails context reply) {failure : Reply} (among : failure ∈ failures) (recorded : Recorded failure)
    {answer : AIInvestigationResult} (valid : validateCitations context answer = .ok answer) :
    ¬Answered (attempt files case question name model (afterAttempts files case question name model audits failures) (.ok answer))
      answer (attemptKey question name model context) := by
  obtain ⟨still, has⟩ := afterAttempts_failed askable unanswered fails
  rw [attempt_answered_iff askable still valid, not_not, has]
  exact .inr ⟨failure, among, recorded⟩

end Attempts

/-! ## The configured provider -/

section Configured
variable {settings : AiSettings} {endpoint : String → InvestigationContext → Exchange} {provider : Provider}
  {question : String} {context : InvestigationContext} {failure : ProviderFailure}

/-- Whatever a call of the configured provider raises is recorded. -/
theorem configured_failure_recorded (selected : selectProvider settings endpoint = .ok provider)
    (failed : provider.generateInvestigation question context = .error failure) : Recorded (.error failure) := by
  have own := selectProvider_avoids selected question context failure failed
  cases failure with
  | provider exc => exact .inl ⟨exc, rfl⟩
  | service exc => exact absurd trivial own
  | raised => exact .inr rfl

/-- An exception of the service as a worker sees it. -/
def raisedBy (exc : AIServiceError) : Jobs.Raised where
  classes := ["AIServiceError", "RuntimeError", "Exception"]
  message := exc.message
  code := exc.code

/-- The worker calls again after the first failure of the configured provider. -/
theorem configured_failure_retried {files : CaseFiles} {case : CaseRow} (askable : Askable files case question context)
    (selected : selectProvider settings endpoint = .ok provider)
    (failed : provider.generateInvestigation (strip question) context = .error failure) {audits : Audits}
    (unanswered : audits.cached (Request.key ⟨strip question, context, provider⟩) = none)
    (new : Request.key ⟨strip question, context, provider⟩ ∉ audits.keys) :
    ∃ exc, (investigate files audits (.ok provider) case question).1 = .error (.service exc) ∧
      Jobs.retryable (raisedBy exc) = true := by
  have own := selectProvider_avoids selected (strip question) context failure failed
  let request : Request := ⟨strip question, context, provider⟩
  have answer : request.answer = .error failure := by
    rw [Request.answer, failed]
    rfl
  have raises (status : String) (exc : AIServiceError) :
      (recorded audits (request.failure status)
        (Except.error (.service exc) : Except InvestigateError (AIInvestigationResult × String))).1 = .error (.service exc) := by
    have absent : (request.failure status).requestFingerprint ∉ audits.keys := new
    obtain ⟨after, raised, _⟩ := recorded_new absent _
    rw [raised]
  rw [askable.investigate unanswered]
  change ∃ exc, (ask audits request).1 = _ ∧ _
  unfold ask
  rw [answer]
  cases failure with
  | provider exc =>
    refine ⟨_, raises _ _, ?_⟩
    cases exc with
    | missingApiKey => exact absurd trivial own
    | rateLimit | unavailable | timeout | unusable => rfl
  | service exc => exact absurd trivial own
  | raised => exact ⟨_, raises _ _, rfl⟩

end Configured
end Service

section Examples
open RCAA.PlainText PlainText

/-- An answer that cites evidence the case has not. -/
def foreignFields : ResultFields := { plainFields with evidenceReferences := ["ev-1"] }

def foreignAnswer : AIInvestigationResult := ⟨foreignFields, foreignFields, by decide⟩

theorem foreignAnswer_fails : Fails bareContext (.ok foreignAnswer) := by
  intro result same
  cases same
  have invalid : ∃ id ∈ foreignAnswer.evidenceReferences, id ∉ bareContext.evidence.map (·.id) :=
    ⟨"ev-1", List.mem_singleton_self _, List.not_mem_nil⟩
  rw [validateCitations, if_pos invalid]
  exact ⟨_, rfl⟩

theorem retry_answers_iff_refused :
    Answered (attempt {} bareCase "Why?" "mock" "mock-v1"
        (afterAttempts {} bareCase "Why?" "mock" "mock-v1" {} [.ok foreignAnswer]) (.ok plainAnswer))
      plainAnswer (attemptKey "Why?" "mock" "mock-v1" bareContext) := by
  have fails : ∀ reply ∈ [(.ok foreignAnswer : Reply)], Fails bareContext reply :=
    List.forall_mem_singleton.mpr foreignAnswer_fails
  refine (retry_answers_iff bareCase_askable (Audits.cached_empty _) fails plainAnswer_valid).mpr ⟨List.not_mem_nil, ?_⟩
  simp [Recorded]

/-- One timeout, then an answer. -/
theorem timeout_blocks_retry :
    ¬∀ (files : CaseFiles) (case : CaseRow) (question name model : String) (context : InvestigationContext)
      (failures : List Reply) (answer : AIInvestigationResult), Askable files case question context →
      (∀ reply ∈ failures, Fails context reply) → validateCitations context answer = .ok answer →
      Answered (attempt files case question name model (afterAttempts files case question name model {} failures) (.ok answer))
        answer (attemptKey question name model context) := by
  intro law
  have fails : ∀ reply ∈ [(.error (.provider .timeout) : Reply)], Fails bareContext reply :=
    List.forall_mem_singleton.mpr fun result same => nomatch same
  exact recorded_failure_blocks bareCase_askable (Audits.cached_empty _) fails (List.mem_singleton_self _) (.inl ⟨_, rfl⟩)
    plainAnswer_valid (law {} bareCase "Why?" "openai_compatible" "gpt-4o-mini" bareContext _ plainAnswer bareCase_askable fails
      plainAnswer_valid)

end Examples
end RCAA.Ai
