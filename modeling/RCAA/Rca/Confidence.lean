import RCAA.Rca.Versions

/-! The number and the label of a result's confidence. The number is written with the first
version of a result and never again, the label with every version. -/

namespace RCAA

/-- The number is the one that belongs to the label. -/
def Rca.Coherent (r : Rca) : Prop := r.confidence = numericConfidence r.cause.confidence

theorem numericConfidence_injective : Function.Injective numericConfidence := by
  intro a b same
  cases a <;> cases b <;> simp_all [numericConfidence]

/-- What the calls for a case so far have made of its result. -/
def Standing (result : Option Rca) (own : List RcaCall) : Prop :=
  (own = [] ∧ result = none) ∨ ∃ first last r, own.head? = some first ∧ own.getLast? = some last ∧ result = some r ∧
    r.cause = last.cause ∧ r.confidence = numericConfidence first.cause.confidence

section Hashing
variable [RcaHashing] [EvidenceHashing]

namespace RcaTables

omit [EvidenceHashing] in
/-- The first version of a result is written with the number of its label; the next keep it. -/
theorem confidence_store (tables : RcaTables) (keys : KeySource) (payload : RcaPayload) (now : Int) :
    (tables.store keys payload now).1.1.confidence =
      ((tables.find payload.caseId).map (·.confidence)).getD (numericConfidence payload.cause.confidence) := by
  unfold store
  split
  · next existing known =>
    rw [known]
    split
    · rfl
    · rfl
  · next new =>
    have blank : (tables.find payload.caseId).map (·.confidence) = none := by rw [new, Option.map_none]
    rw [blank]
    rfl

end RcaTables

namespace RcaState

/-- What a call leaves of the result of a case: its label, when the call is for the case, and the number. -/
theorem find_step (lossless : Function.Injective RcaHashing.digest) (state : RcaState) (call : RcaCall) (caseId : String) :
    if call.case.id = caseId then ∃ r, (state.step call).tables.find caseId = some r ∧ r.cause = (state.statement call).1.cause ∧
        r.confidence = ((state.tables.find caseId).map (·.confidence)).getD (numericConfidence (state.statement call).1.cause.confidence)
      else (state.step call).tables.find caseId = state.tables.find caseId := by
  split
  · next own =>
    subst own
    refine ⟨_, state.tables.find_store_answer call.keys (state.statement call).1 call.now, ?_, ?_⟩
    · exact (RcaTables.store_says lossless state.tables call.keys (state.statement call).1 call.now).1
    · exact state.tables.confidence_store call.keys (state.statement call).1 call.now
  · next other => exact state.tables.find_store_other call.keys call.now other

variable (lossless : Function.Injective RcaHashing.digest) (faithful : Function.Injective EvidenceHashing.digest)
include lossless faithful

/-- A result has the cause of the last call for its case, and the number of the first. -/
theorem standing_run {start : RcaState} {caseId : String} (new : start.tables.find caseId = none) (calls : List RcaCall) :
    Standing ((Runs.run step start calls).tables.find caseId) (calls.filter fun call => call.case.id = caseId) := by
  induction calls using List.reverseRecOn with
  | nil => exact .inl ⟨rfl, new⟩
  | append_singleton calls call ih =>
    have stepped := find_step lossless (Runs.run step start calls) call caseId
    rw [Runs.run_append, List.filter_append]
    change Standing ((step (Runs.run step start calls) call).tables.find caseId) _
    split at stepped
    · next own =>
      obtain ⟨r, found, cause, number⟩ := stepped
      rw [statement_cause faithful] at cause number
      rw [List.filter_cons_of_pos (by simpa using own), List.filter_nil]
      rcases ih with ⟨none, absent⟩ | ⟨first, last, before, head, _, stored, _, kept⟩
      · rw [absent] at number
        exact .inr ⟨call, call, r, by rw [none]; rfl, List.getLast?_concat, found, cause, number⟩
      · rw [stored, Option.map_some, Option.getD_some, kept] at number
        exact .inr ⟨first, call, r, by rw [List.head?_append, head, Option.some_or], List.getLast?_concat, found, cause, number⟩
    · next other =>
      rw [List.filter_cons_of_neg (by simpa using other), List.filter_nil, List.append_nil, stepped]
      exact ih

end RcaState

/-- After any sequence of calls the number of a case's result belongs to its label exactly if
the last call for the case is to give the label of the first. -/
theorem rca_confidence_coherent_iff (lossless : Function.Injective RcaHashing.digest)
    (faithful : Function.Injective EvidenceHashing.digest) {start : RcaState} {caseId : String}
    (new : start.tables.find caseId = none) (calls : List RcaCall) :
    (∀ r, (Runs.run RcaState.step start calls).tables.find caseId = some r → r.Coherent) ↔
      ∀ first last, (calls.filter fun call => call.case.id = caseId).head? = some first →
        (calls.filter fun call => call.case.id = caseId).getLast? = some last → last.cause.confidence = first.cause.confidence := by
  rcases RcaState.standing_run lossless faithful new calls with ⟨none, absent⟩ | ⟨first, last, r, head, final, found, cause, number⟩
  · refine iff_of_true (fun r stored => ?_) fun first _ some => ?_
    · cases absent.symm.trans stored
    · rw [none] at some
      cases some
  · have coherent : r.Coherent ↔ last.cause.confidence = first.cause.confidence := by
      rw [Rca.Coherent, number, cause, numericConfidence_injective.eq_iff, eq_comm]
    rw [found, head, final]
    simp only [Option.some.injEq, forall_eq', coherent]
    constructor
    · rintro same _ _ rfl rfl
      exact same
    · exact fun every => every first last rfl rfl

end Hashing

section Examples
open PlainText

/-- A case whose payment was stored before its first call keeps a coherent result. -/
theorem rca_confidence_coherent_iff_stored :
    ∃ r, (Runs.run RcaState.step {} (lateCalls.drop 1)).tables.find "case-1" = some r ∧ r.Coherent := by
  have coherent := (@rca_confidence_coherent_iff _ _ rcaText_injective evidenceText_injective {} "case-1" rfl (lateCalls.drop 1)).mpr
    fun first last head final => Option.some.inj (head.symm.trans final) ▸ rfl
  rcases @RcaState.standing_run _ _ rcaText_injective evidenceText_injective {} "case-1" rfl (lateCalls.drop 1) with
    ⟨none, _⟩ | ⟨_, _, r, _, _, found, _⟩
  · cases none
  · exact ⟨r, found, coherent r found⟩

/-- A result first written without evidence keeps the number 0.00 when its label becomes high. -/
theorem confidence_number_is_stale :
    ¬∀ (start : RcaState) (caseId : String) (calls : List RcaCall), start.tables.find caseId = none →
      ∀ r, (Runs.run RcaState.step start calls).tables.find caseId = some r → r.Coherent := by
  intro law
  rcases @RcaState.standing_run _ _ rcaText_injective evidenceText_injective {} "case-1" rfl lateCalls with
    ⟨none, _⟩ | ⟨first, last, r, head, final, found, cause, number⟩
  · cases none
  · have coherent := law {} "case-1" lateCalls rfl r found
    cases head
    cases final
    rw [Rca.Coherent, number, cause] at coherent
    exact absurd coherent (by decide)

end Examples
end RCAA
