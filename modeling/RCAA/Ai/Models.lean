import RCAA.Json
import RCAA.Library.KeyedRows

/-! The answers of the investigation assistant and the audits of its calls. An answer is
checked when it is built and again when a stored one is read; the lists of an answer hold
no blank items. A request has one audit. Latencies, times and metrics are left out. -/

namespace RCAA.Ai

/-- What the interpreter supplies: SHA-256 in hexadecimal of a text in UTF-8, the text of
a document with and without blanks after its separators, the document of a text, and the
text of a list in a format string. -/
class AiRuntime extends Platform where
  sha256 : String → String
  compact : Json → String
  spaced : Json → String
  loads : String → Option Json
  listText : List Json → String

def promptVersion : String := "rcaa-ai-v1"

/-- `AIServiceError`. -/
structure AIServiceError where
  code : String
  message : String
deriving DecidableEq, Repr

/-! ## Answers -/

/-- The fields of an answer as a provider gives them. -/
structure ResultFields where
  summary : String
  facts : List String := []
  deterministicFindings : List String := []
  hypotheses : List String := []
  recommendedActions : List String := []
  evidenceReferences : List String := []
  uncertainty : String := ""
  safetyDisclaimer : String
  provider : String
  model : String := ""
  promptVersion : String
deriving DecidableEq

/-- The lengths the model admits, before blank items are dropped. -/
structure ResultFields.Admitted (given : ResultFields) : Prop where
  summary : 1 ≤ given.summary.length ∧ given.summary.length ≤ 4000
  facts : given.facts.length ≤ 20
  deterministicFindings : given.deterministicFindings.length ≤ 20
  hypotheses : given.hypotheses.length ≤ 20
  recommendedActions : given.recommendedActions.length ≤ 20
  evidenceReferences : given.evidenceReferences.length ≤ 50
  uncertainty : given.uncertainty.length ≤ 2000
  safetyDisclaimer : 1 ≤ given.safetyDisclaimer.length ∧ given.safetyDisclaimer.length ≤ 1000
  provider : 1 ≤ given.provider.length ∧ given.provider.length ≤ 100
  model : given.model.length ≤ 200
  promptVersion : 1 ≤ given.promptVersion.length ∧ given.promptVersion.length ≤ 100

instance (given : ResultFields) : Decidable given.Admitted :=
  decidable_of_iff
    ((1 ≤ given.summary.length ∧ given.summary.length ≤ 4000) ∧ given.facts.length ≤ 20 ∧
      given.deterministicFindings.length ≤ 20 ∧ given.hypotheses.length ≤ 20 ∧ given.recommendedActions.length ≤ 20 ∧
      given.evidenceReferences.length ≤ 50 ∧ given.uncertainty.length ≤ 2000 ∧
      (1 ≤ given.safetyDisclaimer.length ∧ given.safetyDisclaimer.length ≤ 1000) ∧
      (1 ≤ given.provider.length ∧ given.provider.length ≤ 100) ∧ given.model.length ≤ 200 ∧
      (1 ≤ given.promptVersion.length ∧ given.promptVersion.length ≤ 100))
    ⟨fun ⟨a, b, c, d, e, f, g, h, i, j, k⟩ => ⟨a, b, c, d, e, f, g, h, i, j, k⟩,
      fun ⟨a, b, c, d, e, f, g, h, i, j, k⟩ => ⟨a, b, c, d, e, f, g, h, i, j, k⟩⟩

section Platform
variable [Platform]

/-- `no_blank_items`. -/
def noBlankItems (value : List String) : List String := (value.map strip).filter (· ≠ "")

def ResultFields.cleaned (given : ResultFields) : ResultFields :=
  { given with
    facts := noBlankItems given.facts
    deterministicFindings := noBlankItems given.deterministicFindings
    hypotheses := noBlankItems given.hypotheses
    recommendedActions := noBlankItems given.recommendedActions
    evidenceReferences := noBlankItems given.evidenceReferences }

/-- An answer: its lists are what the validator leaves of some lists. -/
structure AIInvestigationResult extends ResultFields where
  validated : ∃ given : ResultFields, given.cleaned = toResultFields

namespace AIInvestigationResult

/-- The answer with the fields given, or a `ValidationError`. -/
def validate (given : ResultFields) : Option AIInvestigationResult :=
  if given.Admitted then some ⟨given.cleaned, given, rfl⟩ else none

/-- `model_copy(update=...)`, which checks nothing. -/
def modelCopy (result : AIInvestigationResult) (provider model promptVersion : String) : AIInvestigationResult where
  toResultFields := { result.toResultFields with provider, model, promptVersion }
  validated := by
    obtain ⟨given, cleaned⟩ := result.validated
    refine ⟨{ given with provider, model, promptVersion }, ?_⟩
    rw [← cleaned]
    rfl

theorem ext_fields {a b : AIInvestigationResult} (fields : a.toResultFields = b.toResultFields) : a = b := by
  cases a
  cases b
  cases fields
  rfl

theorem noBlankItems_again (strips : ∀ text, strip (strip text) = strip text) (value : List String) :
    noBlankItems (noBlankItems value) = noBlankItems value := by
  have same : (noBlankItems value).map strip = noBlankItems value := by
    conv_rhs => rw [← List.map_id (noBlankItems value)]
    apply List.map_congr_left
    intro item member
    obtain ⟨raw, _, rfl⟩ := List.mem_map.mp (List.mem_of_mem_filter member)
    exact strips raw
  rw [noBlankItems, same, noBlankItems, List.filter_filter]
  simp only [Bool.and_self]

/-- An answer is not changed by being checked again. -/
theorem cleaned_eq (strips : ∀ text, strip (strip text) = strip text) (result : AIInvestigationResult) :
    result.cleaned = result.toResultFields := by
  obtain ⟨given, cleaned⟩ := result.validated
  rw [← cleaned]
  simp only [ResultFields.cleaned, noBlankItems_again strips]

end AIInvestigationResult
end Platform

/-! ## Answers as documents -/

def textsJson (texts : List String) : Json := .list (texts.map .str)

def ResultFields.entries (fields : ResultFields) : List (String × Json) :=
  [("summary", .str fields.summary),
    ("facts", textsJson fields.facts),
    ("deterministic_findings", textsJson fields.deterministicFindings),
    ("hypotheses", textsJson fields.hypotheses),
    ("recommended_actions", textsJson fields.recommendedActions),
    ("evidence_references", textsJson fields.evidenceReferences),
    ("uncertainty", .str fields.uncertainty),
    ("safety_disclaimer", .str fields.safetyDisclaimer),
    ("provider", .str fields.provider),
    ("model", .str fields.model),
    ("prompt_version", .str fields.promptVersion)]

/-- `model_dump`. -/
def ResultFields.modelDump (fields : ResultFields) : Json := .object fields.entries

def resultKeys : List String :=
  ["summary", "facts", "deterministic_findings", "hypotheses", "recommended_actions", "evidence_references",
    "uncertainty", "safety_disclaimer", "provider", "model", "prompt_version"]

/-- A text is read from a text alone. -/
def textOf : Json → Option String
  | .scalar (.str text) => some text
  | _ => none

def textsOf : Json → Option (List String)
  | .list items => items.mapM textOf
  | _ => none

@[simp] theorem textOf_str (text : String) : textOf (.str text) = some text := rfl

@[simp] theorem textsOf_textsJson (texts : List String) : textsOf (textsJson texts) = some texts := by
  simp only [textsOf, textsJson]
  induction texts with
  | nil => rfl
  | cons text rest ih => simp only [List.map_cons, List.mapM_cons, textOf_str, ih, Option.bind_eq_bind, Option.bind_some,
      Option.pure_def]

/-- The value of a field, or its default where the document has none. -/
def readField {α : Type} (fields : List (String × Json)) (key : String) (read : Json → Option α) (default : Option α) : Option α :=
  match fields.find? fun entry => entry.1 = key with
  | none => default
  | some entry => read entry.2

def readFields (fields : List (String × Json)) : Option ResultFields := do
  let summary ← readField fields "summary" textOf none
  let facts ← readField fields "facts" textsOf (some [])
  let deterministicFindings ← readField fields "deterministic_findings" textsOf (some [])
  let hypotheses ← readField fields "hypotheses" textsOf (some [])
  let recommendedActions ← readField fields "recommended_actions" textsOf (some [])
  let evidenceReferences ← readField fields "evidence_references" textsOf (some [])
  let uncertainty ← readField fields "uncertainty" textOf (some "")
  let safetyDisclaimer ← readField fields "safety_disclaimer" textOf none
  let provider ← readField fields "provider" textOf none
  let model ← readField fields "model" textOf (some "")
  let promptVersion ← readField fields "prompt_version" textOf none
  return {
    summary, facts, deterministicFindings, hypotheses, recommendedActions, evidenceReferences, uncertainty,
    safetyDisclaimer, provider, model, promptVersion }

theorem entries_keys (fields : ResultFields) : fields.entries.map Prod.fst = resultKeys := rfl

theorem readFields_entries (fields : ResultFields) : readFields fields.entries = some fields := by
  simp only [readFields, readField, ResultFields.entries, List.find?_cons, decide_true, decide_false, String.reduceEq,
    textOf_str, textsOf_textsJson, Option.bind_eq_bind, Option.bind_some, Option.pure_def]

section Platform
variable [Platform]

/-- `model_validate`: no field but those of the model. -/
def modelValidate : Json → Option AIInvestigationResult
  | .object fields =>
    if ∀ key ∈ fields.map Prod.fst, key ∈ resultKeys then (readFields fields).bind AIInvestigationResult.validate else none
  | _ => none

/-- What is stored of an answer is read back, where its lengths are still admitted. -/
theorem modelValidate_modelDump (fields : ResultFields) :
    modelValidate fields.modelDump = AIInvestigationResult.validate fields := by
  have known : ∀ key ∈ fields.entries.map Prod.fst, key ∈ resultKeys := by
    rw [entries_keys]
    exact fun _ member => member
  rw [ResultFields.modelDump, modelValidate, if_pos known, readFields_entries, Option.bind_some]

namespace AIInvestigationResult

theorem modelValidate_again (strips : ∀ text, strip (strip text) = strip text) {stored read : AIInvestigationResult}
    (again : modelValidate stored.modelDump = some read) : read = stored := by
  rw [modelValidate_modelDump, validate] at again
  split at again
  · cases again
    exact ext_fields (stored.cleaned_eq strips)
  · cases again

end AIInvestigationResult
end Platform

/-! ## Audits -/

structure AIInvestigationAudit where
  caseId : String
  requestFingerprint : String
  evidenceFingerprint : String
  promptVersion : String
  provider : String
  model : String
  resultFingerprint : Option String := none
  resultJson : Option Json := none
  status : String
deriving DecidableEq

/-- The table: a request has one audit. -/
structure Audits where
  rows : List AIInvestigationAudit := []
  unique : (rows.map (·.requestFingerprint)).Nodup := by decide

namespace Audits

def keys (audits : Audits) : List String := audits.rows.map (·.requestFingerprint)

/-- Adding an audit and committing it, unless `IntegrityError` is raised. -/
def insert (audits : Audits) (audit : AIInvestigationAudit) : Option Audits :=
  if taken : audit.requestFingerprint ∈ audits.keys then none
  else some ⟨audits.rows ++ [audit], KeyedRows.nodup_snoc _ audits.unique taken⟩

/-- The stored answer to a request. -/
def cached (audits : Audits) (key : String) : Option Json :=
  (audits.rows.find? fun row => row.requestFingerprint = key ∧ row.status = "SUCCEEDED").bind fun row =>
    row.resultJson.filter Json.truthy

@[simp] theorem cached_empty (key : String) : cached {} key = none := rfl

@[simp] theorem keys_empty : keys {} = [] := rfl

theorem insert_eq_none_iff {audits : Audits} {audit : AIInvestigationAudit} :
    audits.insert audit = none ↔ audit.requestFingerprint ∈ audits.keys := by
  unfold insert
  split <;> simp_all

theorem insert_eq_some {audits after : Audits} {audit : AIInvestigationAudit} (inserted : audits.insert audit = some after) :
    after.rows = audits.rows ++ [audit] := by
  unfold insert at inserted
  split at inserted
  · cases inserted
  · rw [← Option.some.inj inserted]

theorem insert_new {audits : Audits} {audit : AIInvestigationAudit} (new : audit.requestFingerprint ∉ audits.keys) :
    ∃ after, audits.insert audit = some after ∧ after.rows = audits.rows ++ [audit] := by
  obtain ⟨after, inserted⟩ := Option.ne_none_iff_exists'.mp (mt insert_eq_none_iff.mp new)
  exact ⟨after, inserted, insert_eq_some inserted⟩

theorem cached_mem {audits : Audits} {key : String} {json : Json} (hit : audits.cached key = some json) :
    ∃ row ∈ audits.rows, row.requestFingerprint = key ∧ row.status = "SUCCEEDED" ∧ row.resultJson = some json := by
  obtain ⟨row, found, stored⟩ := Option.bind_eq_some_iff.mp hit
  have accepted : row.requestFingerprint = key ∧ row.status = "SUCCEEDED" := by simpa using List.find?_some found
  obtain ⟨same, succeeded⟩ := accepted
  exact ⟨row, List.mem_of_find?_eq_some found, same, succeeded, (Option.filter_eq_some_iff.mp stored).1⟩

/-- An audit that is no answer answers nothing. -/
theorem cached_insert {audits after : Audits} {audit : AIInvestigationAudit} (inserted : audits.insert audit = some after)
    (other : audit.status ≠ "SUCCEEDED") (key : String) : after.cached key = audits.cached key := by
  have refused : [audit].find? (fun row => row.requestFingerprint = key ∧ row.status = "SUCCEEDED") = none := by
    simp [other]
  rw [cached, cached, insert_eq_some inserted, List.find?_append, refused, Option.or_none]

theorem keys_insert {audits after : Audits} {audit : AIInvestigationAudit} (inserted : audits.insert audit = some after) :
    after.keys = audits.keys ++ [audit.requestFingerprint] := by
  rw [keys, insert_eq_some inserted, List.map_append]
  rfl

end Audits
end RCAA.Ai
