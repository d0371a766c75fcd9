import RCAA.Ai.Context
import RCAA.Library.Outcome

/-! The providers. The mock one answers from the context alone; the other reads what an
endpoint answers, whose behaviour is a parameter. The prompt an endpoint is sent is left out. -/

namespace RCAA.Ai

open AiRuntime

/-- `AIProviderError`, with the codes it is raised with. -/
inductive AIProviderError where
  | missingApiKey | rateLimit | unavailable | timeout | unusable
deriving DecidableEq, Repr

namespace AIProviderError

def code : AIProviderError → String
  | missingApiKey => "AI_MISSING_API_KEY"
  | rateLimit => "AI_RATE_LIMIT"
  | unavailable => "AI_PROVIDER_UNAVAILABLE"
  | timeout => "AI_TIMEOUT"
  | unusable => "AI_ERROR"

def safeMessage : AIProviderError → String
  | missingApiKey => "AI provider is not configured with an API key"
  | rateLimit => "AI provider rate limit reached"
  | unavailable => "AI provider is unavailable"
  | timeout => "AI provider request timed out"
  | unusable => "AI provider returned an invalid or unusable response"

theorem code_ne_succeeded (e : AIProviderError) : e.code ≠ "SUCCEEDED" := by
  cases e <;> decide

end AIProviderError

/-- What a call of a provider raises. -/
inductive ProviderFailure where
  | provider (error : AIProviderError)
  | service (error : AIServiceError)
  /-- Any other exception. -/
  | raised
deriving DecidableEq, Repr

section Providers
variable [AiRuntime]

structure Provider where
  name : String
  model : String
  generateInvestigation : String → InvestigationContext → Except ProviderFailure AIInvestigationResult

/-! ## The mock provider -/

namespace MockAIProvider

def name : String := "mock"
def model : String := "mock-v1"

/-- The amounts a fact is stated of, with the words for them. -/
def labels : List (String × String) :=
  [("payment_amount", "Payment amount"), ("settlement_amount", "Settlement amount"), ("refund_amount", "Refund amount"),
    ("expected_amount", "Expected amount"), ("actual_amount", "Actual amount"), ("difference", "Difference")]

def valueText : MetaValue → Option String
  | .null => none
  | .text value => some value
  | .texts values => some (listText (values.map .str))
  | .rows values => some (listText (values.map fun row => .object (row.map fun entry => (entry.1, .str entry.2))))

def facts (financial : CaseMetadata) : List String :=
  labels.filterMap fun label => (valueText (CaseMetadata.get financial label.1)).map fun value => label.2 ++ " = " ++ value

def hypotheses (rootCauseCode : String) : List String :=
  if rootCauseCode = "SETTLEMENT_AMOUNT_MISMATCH" then
    ["A provider settlement component may differ from the stored calculation; this is a hypothesis, not a proven provider-side cause."]
  else if rootCauseCode = "AMBIGUOUS_TRANSACTION_MAPPING" then
    ["The available records do not uniquely identify the correct settlement candidate."]
  else if rootCauseCode ∈ ["", "UNKNOWN_ROOT_CAUSE", "INSUFFICIENT_EVIDENCE"] then
    ["The supplied evidence does not establish a more specific root cause."]
  else []

/-- A field of the root cause; a missing one is false like the empty text. -/
def ofRca (context : InvestigationContext) (field : Rca → String) : String := (context.deterministicRca.map field).getD ""

def answer (question : String) (context : InvestigationContext) : ResultFields :=
  let rootCauseCode := ofRca context (·.cause.code)
  let explanation := ofRca context (·.cause.explanation)
  let recommended := ofRca context (·.cause.action)
  { summary := "Investigation of case " ++ context.case.caseNumber ++ " for: " ++ strip question
    facts := facts context.relevantFinancialValues
    deterministicFindings :=
      (if rootCauseCode = "" then [] else ["Deterministic RCA: " ++ rootCauseCode]) ++
        if explanation = "" then [] else [explanation]
    hypotheses := hypotheses rootCauseCode
    recommendedActions :=
      if recommended = "" then
        ["Review the supplied evidence and deterministic findings before taking an operational action."]
      else [recommended]
    evidenceReferences := (context.evidence.map (·.id)).filter (· ≠ "")
    uncertainty :=
      if ofRca context (fun rca => confidenceText rca.cause.confidence) = "UNKNOWN" then
        "The deterministic RCA reports insufficient evidence; no stronger conclusion is supported."
      else
        "The mock provider does not add external facts; provider-side causes are not established unless present in supplied evidence."
    safetyDisclaimer := "AI output is investigative assistance and not financial truth."
    provider := name
    model
    promptVersion }

def generateInvestigation (question : String) (context : InvestigationContext) : Except ProviderFailure AIInvestigationResult :=
  match AIInvestigationResult.validate (answer question context) with
  | some result => .ok result
  | none => .error .raised

def provider : Provider := ⟨name, model, generateInvestigation⟩

end MockAIProvider

/-! ## The compatible provider -/

/-- What an endpoint answers: nothing in time, a transport error, or a status and a body,
where it is a JSON document. -/
inductive Exchange where
  | timeout
  | failed
  | response (status : Nat) (body : Option Json)

namespace OpenAICompatibleProvider

def name : String := "openai_compatible"

/-- `value[key]`: a missing key is a `KeyError`, and only an object has keys of text. -/
def item (key : String) : Json → Except ProviderFailure Json
  | .object fields =>
    match fields.find? fun entry => entry.1 = key with
    | some entry => .ok entry.2
    | none => .error (.provider .unusable)
  | _ => .error .raised

/-- `value[0]`: a missing item is an `IndexError`, and no key of an object is a number. -/
def first : Json → Except ProviderFailure Json
  | .list (item :: _) => .ok item
  | .list [] | .object _ | .scalar (.str "") => .error (.provider .unusable)
  | .scalar (.str text) => .ok (.str (.ofList (text.toList.take 1)))
  | _ => .error .raised

/-- `part.get("text", "")` of each part that is an object; only texts are joined. -/
def partText : Json → Except ProviderFailure String
  | .object fields =>
    match fields.find? fun entry => entry.1 = "text" with
    | some (_, .scalar (.str text)) => .ok text
    | some _ => .error .raised
    | none => .ok ""
  | _ => .ok ""

/-- The text of the content. Nothing else is a document to `json.loads`. -/
def contentText : Json → Except ProviderFailure String
  | .scalar (.str text) => .ok text
  | .list parts => (parts.mapM partText).map String.join
  | _ => .error .raised

/-- `json.loads`, and the check of what it returns: both raise a `ValueError`. -/
def readAnswer (content : String) : Except ProviderFailure AIInvestigationResult :=
  match (loads content).bind modelValidate with
  | some result => .ok result
  | none => .error (.provider .unusable)

def readBody (model : String) (body : Json) : Except ProviderFailure AIInvestigationResult := do
  let choices ← item "choices" body
  let choice ← first choices
  let message ← item "message" choice
  let content ← item "content" message
  let text ← contentText content
  let result ← readAnswer text
  return result.modelCopy name model promptVersion

def readExchange (model : String) : Exchange → Except ProviderFailure AIInvestigationResult
  | .timeout => .error (.provider .timeout)
  | .failed => .error (.provider .unusable)
  | .response status body =>
    if status = 429 then .error (.provider .rateLimit)
    else if 500 ≤ status then .error (.provider .unavailable)
    else if status < 200 ∨ 300 ≤ status then .error (.provider .unusable)
    else
      match body with
      | none => .error (.provider .unusable)
      | some body => readBody model body

def provider (model : String) (endpoint : String → InvestigationContext → Exchange) : Provider where
  name
  model
  generateInvestigation question context := readExchange model (endpoint question context)

end OpenAICompatibleProvider

/-! ## The failures of a call -/

/-- What no call of a configured provider raises: a missing key, and the service's own errors. -/
def ProviderFailure.Foreign : ProviderFailure → Prop
  | .provider .missingApiKey | .service _ => True
  | _ => False

namespace OpenAICompatibleProvider
open Outcome

omit [AiRuntime] in
theorem item_avoids (key : String) (value : Json) : Avoids ProviderFailure.Foreign (item key value) := by
  unfold item
  split
  · split
    · exact .ok _
    · exact .error id
  · exact .error id

omit [AiRuntime] in
theorem first_avoids (value : Json) : Avoids ProviderFailure.Foreign (first value) := by
  unfold first
  split
  · exact .ok _
  · exact .error id
  · exact .error id
  · exact .error id
  · exact .ok _
  · exact .error id

omit [AiRuntime] in
theorem contentText_avoids (content : Json) : Avoids ProviderFailure.Foreign (contentText content) := by
  unfold contentText
  split
  · exact .ok _
  · refine (Avoids.mapM fun part _ => ?_).map
    unfold partText
    split
    · split
      · exact .ok _
      · exact .error id
      · exact .ok _
    · exact .ok _
  · exact .error id

theorem readAnswer_avoids (content : String) : Avoids ProviderFailure.Foreign (readAnswer content) := by
  unfold readAnswer
  split
  · exact .ok _
  · exact .error id

theorem readBody_avoids (model : String) (body : Json) : Avoids ProviderFailure.Foreign (readBody model body) := by
  refine (item_avoids "choices" body).bind fun choices _ => ?_
  refine (first_avoids choices).bind fun choice _ => ?_
  refine (item_avoids "message" choice).bind fun message _ => ?_
  refine (item_avoids "content" message).bind fun content _ => ?_
  refine (contentText_avoids content).bind fun text _ => ?_
  exact (readAnswer_avoids text).bind fun result _ => .ok _

theorem readExchange_avoids (model : String) (exchange : Exchange) :
    Avoids ProviderFailure.Foreign (readExchange model exchange) := by
  unfold readExchange
  split
  · exact .error id
  · exact .error id
  · split_ifs
    · exact .error id
    · exact .error id
    · exact .error id
    · split
      · exact .error id
      · exact readBody_avoids model _

end OpenAICompatibleProvider

theorem MockAIProvider.generateInvestigation_avoids (question : String) (context : InvestigationContext) :
    Outcome.Avoids ProviderFailure.Foreign (MockAIProvider.generateInvestigation question context) := by
  unfold MockAIProvider.generateInvestigation
  split
  · exact .ok _
  · exact .error id

/-! ## The configured provider -/

structure AiSettings where
  aiProvider : String := "mock"
  aiApiKey : String := ""
  aiModel : String := "gpt-4o-mini"

/-- `_provider`; a missing key is raised as the service raises it. -/
def selectProvider (settings : AiSettings) (endpoint : String → InvestigationContext → Exchange) : Except AIServiceError Provider :=
  let name := lower (strip (if settings.aiProvider = "" then "mock" else settings.aiProvider))
  if name ∈ ["mock", "deterministic"] then .ok MockAIProvider.provider
  else if name ∈ ["openai", "openai_compatible"] then
    if settings.aiApiKey = "" then .error ⟨AIProviderError.missingApiKey.code, AIProviderError.missingApiKey.safeMessage⟩
    else .ok (OpenAICompatibleProvider.provider settings.aiModel endpoint)
  else .error ⟨"AI_PROVIDER_CONFIG", "Unsupported AI provider configuration"⟩

theorem selectProvider_avoids {settings : AiSettings} {endpoint : String → InvestigationContext → Exchange} {provider : Provider}
    (selected : selectProvider settings endpoint = .ok provider) (question : String) (context : InvestigationContext) :
    Outcome.Avoids ProviderFailure.Foreign (provider.generateInvestigation question context) := by
  simp only [selectProvider] at selected
  generalize lower (strip (if settings.aiProvider = "" then "mock" else settings.aiProvider)) = name at selected
  split_ifs at selected
  · cases selected
    exact MockAIProvider.generateInvestigation_avoids question context
  · cases selected
    exact OpenAICompatibleProvider.readExchange_avoids settings.aiModel (endpoint question context)

end Providers
end RCAA.Ai
