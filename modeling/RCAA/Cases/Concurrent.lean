import RCAA.Library.ReadCommitted
import RCAA.SystemProofs

/-! Calls of `create_case` for one exception that run at the same time, statement by
statement. A call reads the exception, counts the cases of the year, inserts its row,
names the exception and commits. Only the commit stands in the `try`; the insert comes
before, and what it breaks is raised. Audit events and the root cause are written
elsewhere, about the new case alone. -/

namespace RCAA.Cases

open ReadCommitted

/-! ## What a call stores -/

section Store
variable [Platform]

/-- The rows of a new case, with its recovery record, its events and its link. A number that
was counted before and is not taken is still the next one. -/
def storeCase (keys : KeySource) (now : Int) (desk : Desk) (args : CaseArguments) (exception : ReconciliationException)
    (row : CaseRow) : Except CaseError Desk :=
  if numbered : row.caseNumber = nextCaseNumber (desk.cases.map (·.caseNumber)) (yearOf now) then do
    let desk ← desk.insertCase row (yearOf now) numbered
    let desk ← attachOpened ((ensureRecovery keys now desk row).2.log row.id "CASE_CREATED") row.id (some exception)
    return if (given args.assignedTo).isSome then
        desk.log row.id "CASE_ASSIGNED" [("assigned_to", .ofOption (stripped args.assignedTo))]
      else desk
  else .error .integrity

/-- Built and stored without a statement of another call between, it is `openCase`. -/
theorem openCase_eq_storeCase {settings : Settings} {keys : KeySource} {now : Int} {desk : Desk} {args : CaseArguments}
    {exception : ReconciliationException}
    (accepted : ((given args.priority).any fun priority => upper priority ∉ CasePriority.values) = false) :
    openCase settings keys now desk args (some exception) =
      (storeCase keys now desk args exception (newCase settings keys now desk args (some exception))).map
        fun after => (newCase settings keys now desk args (some exception), true, after) := by
  have numbered : (newCase settings keys now desk args (some exception)).caseNumber =
      nextCaseNumber (desk.cases.map (·.caseNumber)) (yearOf now) := rfl
  rw [openCase, if_neg (by rw [accepted]; exact Bool.false_ne_true), storeCase, dif_pos numbered, Outcome.map_bind]
  refine congrArg _ (funext fun inserted => ?_)
  beta_reduce
  rw [Outcome.map_bind]
  rfl

end Store

/-! ## Calls -/

/-- A value of a unique column of the case table. -/
inductive UniqueKey where
  | id (value : String)
  | fingerprint (value : String)
  | caseNumber (value : String)
deriving DecidableEq

/-- Where a call is. -/
inductive Phase where
  | calling
  /-- Has read an exception that names a case. -/
  | named (exception : ReconciliationException) (caseId : String)
  /-- Has read an exception that names none. -/
  | unnamed (exception : ReconciliationException)
  /-- Before the flush of the row. -/
  | built (exception : ReconciliationException) (row : CaseRow)
  | inserted (exception : ReconciliationException) (row : CaseRow)
  /-- Before the commit. -/
  | attached (exception : ReconciliationException) (row : CaseRow)
  | returned (row : CaseRow) (created : Bool)
  | raised (error : CaseError)

def uniqueKeys (row : CaseRow) : List UniqueKey := [.id row.id, .fingerprint row.fingerprint, .caseNumber row.caseNumber]

/-- A committed row has one of the values. -/
def taken (desk : Desk) (row : CaseRow) : Bool :=
  row.id ∈ desk.cases.map (·.id) || row.fingerprint ∈ desk.cases.map (·.fingerprint) ||
    row.caseNumber ∈ desk.cases.map (·.caseNumber)

/-- The committed desk, who holds a value of a unique column, and where each call is. -/
structure Floor (τ : Type) where
  desk : Desk
  holder : UniqueKey → Option τ := fun _ => none
  phase : τ → Phase := fun _ => .calling

section Floor
variable {τ : Type} [DecidableEq τ]

def Floor.enter (s : Floor τ) (t : τ) (phase : Phase) : Floor τ := { s with phase := Function.update s.phase t phase }

/-- The transaction ends. -/
def Floor.finish (s : Floor τ) (t : τ) (desk : Desk) (phase : Phase) : Floor τ :=
  { s with desk, holder := release s.holder t }.enter t phase

end Floor

/-- Calls for one exception that names no case: none has its fingerprint. Each call draws
its keys and has a priority that is accepted. -/
structure Race (τ : Type) [Platform] where
  settings : Settings
  desk : Desk
  exception : ReconciliationException
  keys : τ → KeySource
  now : τ → Int
  args : τ → CaseArguments
  stored : exception ∈ desk.exceptions
  asked : ∀ t, given (args t).exceptionId = some exception.id
  accepted : ∀ t, ((given (args t).priority).any fun priority => upper priority ∉ CasePriority.values) = false
  unnamed : given exception.reconciliationCaseId = none
  unopened : exception.fingerprint ∉ desk.cases.map (·.fingerprint)
  /-- The foreign key of the column. -/
  named : ∀ e ∈ desk.exceptions, ∀ caseId, e.reconciliationCaseId = some caseId → caseId ∈ desk.cases.map (·.id)
  /-- A drawn key is not empty. -/
  drawn : ∀ t used, (keys t).draw used ≠ ""

section Step
variable {τ : Type} [DecidableEq τ] [Platform] (race : Race τ)

def Race.initial : Floor τ where
  desk := race.desk

/-- The row a call builds from what it sees. -/
def Race.build (t : τ) (desk : Desk) (exception : ReconciliationException) : CaseRow :=
  newCase race.settings (race.keys t) (race.now t) desk (race.args t) (some exception)

def Race.store (t : τ) (desk : Desk) (exception : ReconciliationException) (row : CaseRow) : Except CaseError Desk :=
  storeCase (race.keys t) (race.now t) desk (race.args t) exception row

/-- The exception has no case: the priority is tested, then a case is built. -/
def proceed (s : Floor τ) (t : τ) (exception : ReconciliationException) : Floor τ :=
  if (given (race.args t).priority).any fun priority => upper priority ∉ CasePriority.values then
    s.finish t s.desk (.raised (.business "Invalid priority"))
  else s.enter t (.unnamed exception)

/-- The flush of the row; it waits for a transaction that holds one of its values. -/
def flush (s : Floor τ) (t : τ) (exception : ReconciliationException) (row : CaseRow) : Floor τ :=
  if available s.holder t (uniqueKeys row) then
    if taken s.desk row then s.finish t s.desk (.raised .integrity)
    else { s with holder := reserve s.holder t (uniqueKeys row) }.enter t (.inserted exception row)
  else s

/-- The commit; a constraint it breaks is answered by the case with the fingerprint. -/
def commit (s : Floor τ) (t : τ) (exception : ReconciliationException) (row : CaseRow) : Floor τ :=
  match race.store t s.desk exception row with
  | .ok desk => s.finish t desk (.returned row true)
  | .error _ => match s.desk.cases.find? fun c => c.fingerprint = exception.fingerprint with
    | some existing => s.finish t s.desk (.returned existing false)
    | none => s.finish t s.desk (.raised (.business "Case creation conflicted with an existing case"))

/-- The statement a call executes next; one that has to wait changes nothing. -/
def execute (s : Floor τ) (t : τ) : Floor τ :=
  match s.phase t with
  | .calling => match (given (race.args t).exceptionId).bind s.desk.exception? with
    | none => s.finish t s.desk (.raised (.business "Exception not found"))
    | some exception => match given exception.reconciliationCaseId with
      | some caseId => s.enter t (.named exception caseId)
      | none => proceed race s t exception
  | .named exception caseId => match s.desk.case? caseId with
    | some existing => s.enter t (.returned existing false)
    | none => proceed race s t exception
  | .unnamed exception => s.enter t (.built exception (race.build t s.desk exception))
  | .built exception row => flush s t exception row
  | .inserted exception row =>
    if s.desk.exceptions.any fun e => e.reconciliationCaseId = some row.id then s.finish t s.desk (.raised .integrity)
    else s.enter t (.attached exception row)
  | .attached exception row => commit race s t exception row
  | .returned _ _ | .raised _ => s

end Step

/-! ## What the call that opens the case leaves -/

section Stored
variable {keys : KeySource} {now : Int} {desk : Desk}

theorem attachOpened_accepts {caseId : String} {exception : ReconciliationException}
    (stored : exception.id ∈ desk.exceptions.map (·.id))
    (free : ∀ e ∈ desk.exceptions, e.reconciliationCaseId ≠ some caseId) :
    ∃ after, attachOpened desk caseId (some exception) = .ok after ∧ after.cases = desk.cases ∧
      after.exceptions = KeyedRows.update (·.id) exception.id (.naming caseId) desk.exceptions := by
  simp only [attachOpened, Desk.nameCase]
  rw [dif_pos stored, dif_pos (show ∀ e ∈ ((desk.link caseId exception.id stored).log caseId "EXCEPTION_ATTACHED"
    [("exception_id", .text exception.id)]).exceptions, _ from free)]
  exact ⟨_, rfl, rfl, rfl⟩

theorem storeCase_accepts [Platform] {args : CaseArguments} {exception : ReconciliationException} {row : CaseRow}
    (numbered : row.caseNumber = nextCaseNumber (desk.cases.map (·.caseNumber)) (yearOf now))
    (new : row.id ∉ desk.cases.map (·.id) ∧ row.fingerprint ∉ desk.cases.map (·.fingerprint))
    (stored : exception.id ∈ desk.exceptions.map (·.id))
    (free : ∀ e ∈ desk.exceptions, e.reconciliationCaseId ≠ some row.id) :
    ∃ after, storeCase keys now desk args exception row = .ok after ∧ after.cases = desk.cases ++ [row] ∧
      after.exceptions = KeyedRows.update (·.id) exception.id (.naming row.id) desk.exceptions := by
  obtain ⟨inserted, accepted⟩ : ∃ inserted, desk.insertCase row (yearOf now) numbered = .ok inserted := by
    rw [Desk.insertCase, dif_pos new]
    exact ⟨_, rfl⟩
  obtain ⟨cases, _, exceptions, _⟩ := Desk.insertCase_ok accepted
  have kept := ensureRecovery_keeps_exceptions keys now inserted row
  have logged : ((ensureRecovery keys now inserted row).2.log row.id "CASE_CREATED").exceptions = desk.exceptions :=
    kept.trans exceptions
  obtain ⟨attached, attaching, sameCases, named⟩ : ∃ attached, attachOpened ((ensureRecovery keys now inserted row).2.log
      row.id "CASE_CREATED") row.id (some exception) = .ok attached ∧ attached.cases = _ ∧ attached.exceptions = _ :=
    attachOpened_accepts (logged ▸ stored) (logged ▸ free)
  have both : attached.cases = desk.cases ++ [row] ∧
      attached.exceptions = KeyedRows.update (·.id) exception.id (.naming row.id) desk.exceptions := by
    refine ⟨sameCases.trans ((ensureRecovery_keeps_cases keys now inserted row).trans cases), named.trans ?_⟩
    rw [logged]
  rw [storeCase, dif_pos numbered, accepted]
  simp only [bind, Except.bind, attaching]
  refine ⟨_, rfl, ?_⟩
  split <;> exact both

end Stored

section Race
variable {τ : Type} [Platform] (race : Race τ)

/-- The row a call builds from the desk at the start. -/
def Race.row (t : τ) : CaseRow := race.build t race.desk race.exception

variable {race}

@[simp] theorem Race.row_fingerprint (t : τ) : (race.row t).fingerprint = race.exception.fingerprint := rfl

theorem Race.row_id_fresh (t : τ) : (race.row t).id ∉ race.desk.cases.map (·.id) := (race.keys t).fresh _

theorem Race.row_id_drawn (t : τ) : (race.row t).id ≠ "" := race.drawn t _

/-- No unique column of the row is taken. -/
theorem Race.row_new (t : τ) : taken race.desk (race.row t) = false := by
  have number : (race.row t).caseNumber ∉ race.desk.cases.map (·.caseNumber) :=
    nextCaseNumber_fresh race.desk.numbering (yearOf (race.now t))
  simp only [taken, Bool.or_eq_false_iff, decide_eq_false_iff_not]
  exact ⟨⟨race.row_id_fresh t, race.unopened⟩, number⟩

theorem Race.row_free (t : τ) : ∀ e ∈ race.desk.exceptions, e.reconciliationCaseId ≠ some (race.row t).id :=
  fun e member same => race.row_id_fresh t (race.named e member _ same)

theorem Race.exception_found : race.desk.exception? race.exception.id = some race.exception :=
  (race.desk.exception?_eq_some_iff _ _).mpr ⟨race.stored, rfl⟩

/-- Stored on the desk of the start, the row is there and the exception names it. -/
theorem Race.store_accepts (t : τ) : ∃ after, race.store t race.desk race.exception (race.row t) = .ok after ∧
    after.cases = race.desk.cases ++ [race.row t] ∧
    after.exceptions = KeyedRows.update (·.id) race.exception.id (.naming (race.row t).id) race.desk.exceptions :=
  storeCase_accepts rfl ⟨race.row_id_fresh t, race.unopened⟩ (List.mem_map_of_mem race.stored) (race.row_free t)

end Race

/-! ## Steps -/

def Phase.ended : Phase → Bool
  | .returned _ _ | .raised _ => true
  | _ => false

/-- The call has read the exception without a case and has not ended. -/
def Phase.opening : Phase → Bool
  | .unnamed _ | .built _ _ | .inserted _ _ | .attached _ _ => true
  | _ => false

/-- What a call that read the exception without a case does, or how it ends. -/
def Phase.opener : Phase → Bool
  | .returned _ created => created
  | .raised _ => true
  | phase => phase.opening

theorem Phase.opening_running {phase : Phase} (opening : phase.opening = true) : phase.ended = false := by
  cases phase with
  | returned | raised => cases opening
  | _ => rfl

theorem Phase.opening_opener {phase : Phase} (opening : phase.opening = true) : phase.opener = true := by
  cases phase with
  | returned | raised => cases opening
  | _ => exact opening

section Frame
variable {τ : Type} [DecidableEq τ] {s : Floor τ} {t other : τ} {desk : Desk} {phase : Phase}

@[simp] theorem Floor.enter_desk : (s.enter t phase).desk = s.desk := rfl
@[simp] theorem Floor.enter_holder : (s.enter t phase).holder = s.holder := rfl
@[simp] theorem Floor.enter_phase : (s.enter t phase).phase t = phase := Function.update_self ..
@[simp] theorem Floor.finish_desk : (s.finish t desk phase).desk = desk := rfl
@[simp] theorem Floor.finish_holder : (s.finish t desk phase).holder = release s.holder t := rfl
@[simp] theorem Floor.finish_phase : (s.finish t desk phase).phase t = phase := Function.update_self ..

theorem Floor.enter_phase_of_ne (differs : other ≠ t) : (s.enter t phase).phase other = s.phase other :=
  Function.update_of_ne differs ..

theorem Floor.finish_phase_of_ne (differs : other ≠ t) : (s.finish t desk phase).phase other = s.phase other :=
  Function.update_of_ne differs ..

variable [Platform] {race : Race τ}

theorem proceed_phase_of_ne (exception : ReconciliationException) (differs : other ≠ t) :
    (proceed race s t exception).phase other = s.phase other := by
  unfold proceed
  split
  · exact Floor.finish_phase_of_ne differs
  · exact Floor.enter_phase_of_ne differs

/-- A call moves itself only. -/
theorem execute_phase_of_ne (differs : other ≠ t) : (execute race s t).phase other = s.phase other := by
  unfold execute
  split
  · split
    · exact Floor.finish_phase_of_ne differs
    · split
      · exact Floor.enter_phase_of_ne differs
      · exact proceed_phase_of_ne _ differs
  · split
    · exact Floor.enter_phase_of_ne differs
    · exact proceed_phase_of_ne _ differs
  · exact Floor.enter_phase_of_ne differs
  · unfold flush
    split
    · split
      · exact Floor.finish_phase_of_ne differs
      · exact Floor.enter_phase_of_ne differs
    · rfl
  · split
    · exact Floor.finish_phase_of_ne differs
    · exact Floor.enter_phase_of_ne differs
  · unfold commit
    split
    · exact Floor.finish_phase_of_ne differs
    · split <;> exact Floor.finish_phase_of_ne differs
  · rfl
  · rfl

/-- A call that has ended stays so. -/
theorem execute_ended (finished : (s.phase t).ended = true) : execute race s t = s := by
  unfold execute
  cases phase : s.phase t <;> simp only [phase, Phase.ended, Bool.false_eq_true] at finished ⊢

theorem proceed_eq (exception : ReconciliationException) : proceed race s t exception = s.enter t (.unnamed exception) := by
  rw [proceed, if_neg (by rw [race.accepted t]; exact Bool.false_ne_true)]

end Frame

/-! ## What every call knows -/

section Consistent
variable {τ : Type} [DecidableEq τ] [Platform]

/-- What a call has read and built, as long as no case is there for the exception; a call
between its insert and its end holds the fingerprint, so no other one commits. -/
def Race.Knows (race : Race τ) (s : Floor τ) (t : τ) : Phase → Prop
  | .named exception _ | .unnamed exception => exception.fingerprint = race.exception.fingerprint ∧
      (s.desk = race.desk → exception = race.exception)
  | .built exception row => row.fingerprint = race.exception.fingerprint ∧
      (s.desk = race.desk → exception = race.exception ∧ row = race.row t)
  | .inserted exception row | .attached exception row => s.desk = race.desk ∧ exception = race.exception ∧
      row = race.row t ∧ s.holder (.fingerprint race.exception.fingerprint) = some t
  | .calling | .returned _ _ | .raised _ => True

structure Consistent (race : Race τ) (s : Floor τ) : Prop where
  desk : s.desk = race.desk ∨
    race.exception.fingerprint ∈ s.desk.cases.map (·.fingerprint) ∧ ∃ t row, s.phase t = .returned row true
  exceptions : ∀ e ∈ s.desk.exceptions, e.id = race.exception.id → e.fingerprint = race.exception.fingerprint
  knows : ∀ t, race.Knows s t (s.phase t)

variable {race : Race τ} {s : Floor τ} {t : τ}

omit [DecidableEq τ] in
theorem knows_ended {phase : Phase} (finished : phase.ended = true) : race.Knows s t phase := by
  cases phase with
  | returned | raised => trivial
  | _ => cases finished

omit [DecidableEq τ] in
/-- What a call knows depends on the desk and on who holds the fingerprint. -/
theorem Race.Knows.keep {s' : Floor τ} {phase : Phase} (knows : race.Knows s t phase) (desk : s'.desk = s.desk)
    (held : ∀ k, s.holder k = some t → s'.holder k = some t) : race.Knows s' t phase := by
  cases phase with
  | named | unnamed | built => exact ⟨knows.1, fun same => knows.2 (desk.symm.trans same)⟩
  | inserted | attached => exact ⟨desk.trans knows.1, knows.2.1, knows.2.2.1, held _ knows.2.2.2⟩
  | _ => trivial

omit [DecidableEq τ] in
theorem Consistent.unchanged (consistent : Consistent race s)
    (absent : race.exception.fingerprint ∉ s.desk.cases.map (·.fingerprint)) : s.desk = race.desk :=
  consistent.desk.resolve_right fun opened => absent opened.1

/-- A call that goes on leaves what the others know, and keeps the one that opened the case. -/
theorem Consistent.moved (consistent : Consistent race s) {s' : Floor τ} (running : (s.phase t).ended = false)
    (desk : s'.desk = s.desk) (holder : ∀ k other, other ≠ t → s.holder k = some other → s'.holder k = some other)
    (others : ∀ other, other ≠ t → s'.phase other = s.phase other) (knows : race.Knows s' t (s'.phase t)) :
    Consistent race s' := by
  refine ⟨?_, desk ▸ consistent.exceptions, fun other => ?_⟩
  · rw [desk]
    refine consistent.desk.imp_right (And.imp_right ?_)
    rintro ⟨winner, row, returned⟩
    refine ⟨winner, row, (others winner ?_).trans returned⟩
    rintro rfl
    rw [returned] at running
    cases running
  · by_cases same : other = t
    · exact same ▸ knows
    · rw [others other same]
      exact (consistent.knows other).keep desk fun k => holder k other same

theorem Consistent.enter (consistent : Consistent race s) (running : (s.phase t).ended = false) {phase : Phase}
    (knows : race.Knows s t phase) : Consistent race (s.enter t phase) := by
  refine consistent.moved running rfl (fun _ _ _ held => held) (fun _ => Floor.enter_phase_of_ne) ?_
  rw [Floor.enter_phase]
  exact knows

theorem Consistent.finish (consistent : Consistent race s) (running : (s.phase t).ended = false) {phase : Phase}
    (finished : phase.ended = true) : Consistent race (s.finish t s.desk phase) := by
  refine consistent.moved running rfl (fun _ _ differs held => release_eq_some_iff.mpr ⟨held, differs⟩)
    (fun _ => Floor.finish_phase_of_ne) ?_
  rw [Floor.finish_phase]
  exact knows_ended finished

/-- The insert is let through only while no case is there for the exception. -/
theorem Consistent.flush (consistent : Consistent race s) {exception : ReconciliationException} {row : CaseRow}
    (phase : s.phase t = .built exception row) : Consistent race (flush s t exception row) := by
  have running : (s.phase t).ended = false := by rw [phase]; rfl
  have knows := consistent.knows t
  rw [phase] at knows
  unfold Cases.flush
  split
  · next free =>
    split
    · exact consistent.finish running rfl
    · next untaken =>
      simp only [taken, Bool.or_eq_true, decide_eq_true_eq, not_or] at untaken
      have desk := consistent.unchanged (knows.1 ▸ untaken.1.2)
      obtain ⟨same, built⟩ := knows.2 desk
      refine consistent.moved running rfl (fun k other differs held => reserve_kept free held differs)
        (fun _ => Floor.enter_phase_of_ne) ?_
      rw [Floor.enter_phase]
      refine ⟨desk, same, built, ?_⟩
      rw [← knows.1]
      exact reserve_mem (by simp [uniqueKeys])
  · exact consistent

/-- At the commit the case is stored: nothing has changed since the row was built. -/
theorem Consistent.commits (consistent : Consistent race s) {exception : ReconciliationException} {row : CaseRow}
    (phase : s.phase t = .attached exception row) :
    row = race.row t ∧ ∃ after, execute race s t = s.finish t after (.returned row true) ∧
      after.cases = race.desk.cases ++ [row] ∧
      after.exceptions = KeyedRows.update (·.id) race.exception.id (.naming row.id) race.desk.exceptions := by
  have knows := consistent.knows t
  rw [phase] at knows
  obtain ⟨desk, rfl, rfl, held⟩ := knows
  obtain ⟨after, stored, cases, exceptions⟩ := race.store_accepts t
  refine ⟨rfl, after, ?_, cases, exceptions⟩
  simp only [execute, phase, commit, desk, stored]

/-- The case is stored while every other call is before its insert. -/
theorem Consistent.committed (consistent : Consistent race s) {exception : ReconciliationException} {row : CaseRow}
    (phase : s.phase t = .attached exception row) : Consistent race (execute race s t) := by
  obtain ⟨rfl, after, committed, cases, exceptions⟩ := consistent.commits phase
  have held : s.holder (.fingerprint race.exception.fingerprint) = some t := by
    have knows := consistent.knows t
    rw [phase] at knows
    exact knows.2.2.2
  have opened : race.exception.fingerprint ∈ after.cases.map (·.fingerprint) := by
    rw [cases]
    simp
  have changed : after ≠ race.desk := fun same => race.unopened (same ▸ opened)
  rw [committed]
  refine ⟨.inr ⟨opened, t, race.row t, Floor.finish_phase⟩, ?_, fun other => ?_⟩
  · intro e member same
    rw [Floor.finish_desk, exceptions, KeyedRows.mem_update] at member
    rcases member with ⟨_, apart⟩ | ⟨stored, inside, own, rfl⟩
    · exact absurd same apart
    · rw [KeyedRows.faithful_of_nodup _ race.desk.exceptionIds stored inside race.exception race.stored own]
      rfl
  · by_cases own : other = t
    · rw [own, Floor.finish_phase]
      trivial
    · rw [Floor.finish_phase_of_ne own]
      have before := consistent.knows other
      cases waiting : s.phase other with
      | named | unnamed | built =>
        rw [waiting] at before
        exact ⟨before.1, fun same => absurd same changed⟩
      | inserted | attached =>
        rw [waiting] at before
        exact absurd (Option.some.inj (before.2.2.2.symm.trans held)) own
      | _ => trivial

theorem Consistent.proceed (consistent : Consistent race s) (running : (s.phase t).ended = false)
    {exception : ReconciliationException} (knows : race.Knows s t (.unnamed exception)) :
    Consistent race (proceed race s t exception) := by
  rw [proceed_eq]
  exact consistent.enter running knows

omit [DecidableEq τ] in
/-- What is read of the exception. -/
theorem Consistent.read (consistent : Consistent race s) {exception : ReconciliationException}
    (found : s.desk.exception? race.exception.id = some exception) :
    exception.fingerprint = race.exception.fingerprint ∧ (s.desk = race.desk → exception = race.exception) := by
  obtain ⟨member, same⟩ := (s.desk.exception?_eq_some_iff _ _).mp found
  refine ⟨consistent.exceptions exception member same, fun start => ?_⟩
  rw [start, race.exception_found] at found
  exact (Option.some.inj found).symm

theorem Consistent.step (consistent : Consistent race s) (t : τ) : Consistent race (execute race s t) := by
  cases phase : s.phase t with
  | attached exception row => exact consistent.committed phase
  | returned row created => rwa [execute_ended (by rw [phase]; rfl)]
  | raised error => rwa [execute_ended (by rw [phase]; rfl)]
  | built exception row =>
    simp only [execute, phase]
    exact consistent.flush phase
  | calling =>
    have running : (s.phase t).ended = false := by rw [phase]; rfl
    simp only [execute, phase, race.asked t, Option.bind_some]
    split
    · exact consistent.finish running rfl
    · next exception found =>
      have knows := consistent.read found
      split
      · exact consistent.enter running knows
      · exact consistent.proceed running knows
  | named exception caseId =>
    have running : (s.phase t).ended = false := by rw [phase]; rfl
    have knows := consistent.knows t
    rw [phase] at knows
    simp only [execute, phase]
    split
    · exact consistent.enter running trivial
    · exact consistent.proceed running knows
  | unnamed exception =>
    have running : (s.phase t).ended = false := by rw [phase]; rfl
    have knows := consistent.knows t
    rw [phase] at knows
    simp only [execute, phase]
    refine consistent.enter running ⟨knows.1, fun start => ?_⟩
    rw [knows.2 start, start]
    exact ⟨rfl, rfl⟩
  | inserted exception row =>
    have running : (s.phase t).ended = false := by rw [phase]; rfl
    have knows := consistent.knows t
    rw [phase] at knows
    simp only [execute, phase]
    split
    · exact consistent.finish running rfl
    · exact consistent.enter running knows

omit [DecidableEq τ] in
theorem consistent_initial (race : Race τ) : Consistent race race.initial where
  desk := .inl rfl
  exceptions e member same := by
    rw [KeyedRows.faithful_of_nodup _ race.desk.exceptionIds e member race.exception race.stored same]
  knows _ := trivial

/-! ## Calls that read the exception without a case -/

/-- Such a call opens the case or raises: the commit breaks no constraint, so the handler
behind it never answers. -/
theorem Consistent.opener (consistent : Consistent race s) {u : τ} (opener : (s.phase u).opener = true) (t : τ) :
    ((execute race s t).phase u).opener = true := by
  by_cases same : u = t
  · subst same
    cases phase : s.phase u with
    | calling | named => rw [phase] at opener; cases opener
    | unnamed exception =>
      simp only [execute, phase, Floor.enter_phase]
      rfl
    | built exception row =>
      simp only [execute, phase, Cases.flush]
      split
      · split
        · rw [Floor.finish_phase]
          rfl
        · rw [Floor.enter_phase]
          rfl
      · rw [phase]
        rfl
    | inserted exception row =>
      simp only [execute, phase]
      split
      · rw [Floor.finish_phase]
        rfl
      · rw [Floor.enter_phase]
        rfl
    | attached exception row =>
      obtain ⟨_, after, committed, _⟩ := consistent.commits phase
      rw [committed, Floor.finish_phase]
      rfl
    | returned row created =>
      rw [execute_ended (by rw [phase]; rfl), phase]
      rw [phase] at opener
      exact opener
    | raised error =>
      rw [execute_ended (by rw [phase]; rfl), phase]
      rfl
  · rw [execute_phase_of_ne same]
    exact opener

theorem Consistent.openers (consistent : Consistent race s) {u : τ} (opener : (s.phase u).opener = true)
    (schedule : List τ) : ((Runs.run (execute race) s schedule).phase u).opener = true := by
  have both : ∀ s t, Consistent race s ∧ (s.phase u).opener = true →
      Consistent race (execute race s t) ∧ ((execute race s t).phase u).opener = true :=
    fun s t holds => ⟨holds.1.step t, holds.1.opener holds.2 t⟩
  exact (Runs.invariant both ⟨consistent, opener⟩ schedule).2

end Consistent

/-! ## Calls that do not overlap -/

/-- One case is there for the exception, which names it; every call returned it, and one
as the call that opened it. -/
structure Idempotent {τ : Type} [Platform] (race : Race τ) (s : Floor τ) (row : CaseRow) : Prop where
  one : s.desk.cases.filter (fun c => c.fingerprint = race.exception.fingerprint) = [row]
  named : ∃ e, s.desk.exception? race.exception.id = some e ∧ e.reconciliationCaseId = some row.id
  returned : ∀ t, ∃ created, s.phase t = .returned row created
  created : ∃! t, s.phase t = .returned row true

/-- Every call has ended. -/
def Floor.Ended {τ : Type} (s : Floor τ) : Prop := ∀ t, (s.phase t).ended = true

/-- A call reads the exception while another one has read it without a case and has not ended. -/
def Overlaps {τ : Type} (s : Floor τ) (t : τ) : Prop :=
  s.phase t = .calling ∧ ∃ other, (s.phase other).opening = true

/-- The states without an overlap: nobody has begun, one call is opening the case, or it is open. -/
inductive Serial {τ : Type} [Platform] (race : Race τ) (s : Floor τ) : Prop
  | untouched (desk : s.desk = race.desk) (holder : ∀ k, s.holder k = none) (phase : ∀ t, s.phase t = .calling)
  | alone (t : τ) (desk : s.desk = race.desk) (holder : ∀ k u, s.holder k = some u → u = t)
      (own : (s.phase t).opening = true) (others : ∀ u, u ≠ t → s.phase u = .calling)
  | opened (t : τ) (row : CaseRow) (keyed : row.id ≠ "") (cases : s.desk.cases = race.desk.cases ++ [row])
      (fingerprint : row.fingerprint = race.exception.fingerprint)
      (named : ∃ e, s.desk.exception? race.exception.id = some e ∧ e.reconciliationCaseId = some row.id)
      (own : s.phase t = .returned row true)
      (others : ∀ u, u ≠ t →
        s.phase u = .calling ∨ (∃ e, s.phase u = .named e row.id) ∨ s.phase u = .returned row false)

section Serial
variable {τ : Type} [DecidableEq τ] [Platform] {race : Race τ} {s : Floor τ} {t : τ}

/-! The statements of a call that is alone. -/

theorem execute_calling (desk : s.desk = race.desk) (phase : s.phase t = .calling) :
    execute race s t = s.enter t (.unnamed race.exception) := by
  simp only [execute, phase, race.asked t, Option.bind_some, desk, race.exception_found, race.unnamed, proceed_eq]

theorem execute_unnamed (desk : s.desk = race.desk) (phase : s.phase t = .unnamed race.exception) :
    execute race s t = s.enter t (.built race.exception (race.row t)) := by
  simp only [execute, phase, desk]
  rfl

/-- No value of the row is held or taken. -/
theorem execute_built (desk : s.desk = race.desk) (holder : ∀ k u, s.holder k = some u → u = t)
    (phase : s.phase t = .built race.exception (race.row t)) :
    execute race s t = { s with holder := reserve s.holder t (uniqueKeys (race.row t)) }.enter t
      (.inserted race.exception (race.row t)) := by
  have free : available s.holder t (uniqueKeys (race.row t)) = true :=
    available_iff.mpr fun k _ => holder k
  simp only [execute, phase, flush]
  rw [if_pos free, if_neg (by rw [desk, race.row_new t]; exact Bool.false_ne_true)]

theorem execute_inserted (desk : s.desk = race.desk) (phase : s.phase t = .inserted race.exception (race.row t)) :
    execute race s t = s.enter t (.attached race.exception (race.row t)) := by
  have free : (s.desk.exceptions.any fun e => e.reconciliationCaseId = some (race.row t).id) = false := by
    rw [desk, List.any_eq_false]
    intro e member same
    exact race.row_free t e member (of_decide_eq_true same)
  simp only [execute, phase]
  rw [free, if_neg Bool.false_ne_true]

theorem execute_attached {after : Desk} (desk : s.desk = race.desk)
    (stored : race.store t race.desk race.exception (race.row t) = .ok after)
    (phase : s.phase t = .attached race.exception (race.row t)) :
    execute race s t = s.finish t after (.returned (race.row t) true) := by
  simp only [execute, phase, commit, desk, stored]

/-- A call that runs alone does what `createCase` does. -/
theorem alone_createCase (race : Race τ) (t : τ) : ∃ row after,
    createCase race.settings (race.keys t) (race.now t) race.desk (race.args t) = .ok (row, true, after) ∧
      (Runs.run (execute race) race.initial (List.replicate 5 t)).desk = after ∧
      (Runs.run (execute race) race.initial (List.replicate 5 t)).phase t = .returned row true := by
  obtain ⟨after, stored, _⟩ := race.store_accepts t
  have called : createCase race.settings (race.keys t) (race.now t) race.desk (race.args t) =
      .ok (race.row t, true, after) := by
    simp only [createCase, race.asked t, race.exception_found, race.unnamed, Option.bind_none,
      openCase_eq_storeCase (race.accepted t)]
    exact congrArg (Except.map _) stored
  have idle : ∀ k u, race.initial.holder k = some u → u = t := by
    intro k u held
    cases held
  refine ⟨race.row t, after, called, ?_⟩
  simp only [List.replicate, Runs.run_cons, Runs.run_nil]
  rw [execute_calling (s := race.initial) rfl rfl, execute_unnamed rfl Floor.enter_phase,
    execute_built (s := (race.initial.enter t _).enter t _) rfl idle Floor.enter_phase,
    execute_inserted rfl Floor.enter_phase, execute_attached rfl stored Floor.enter_phase]
  exact ⟨rfl, Floor.finish_phase⟩

/-- A call that is alone goes on with each statement. -/
theorem Consistent.alone (consistent : Consistent race s) (desk : s.desk = race.desk)
    (holder : ∀ k u, s.holder k = some u → u = t) (own : (s.phase t).opening = true)
    (others : ∀ u, u ≠ t → s.phase u = .calling) : Serial race (execute race s t) := by
  have stay : ∀ {phase : Phase}, phase.opening = true → Serial race (s.enter t phase) := by
    intro phase opening
    exact .alone t desk holder (by rwa [Floor.enter_phase]) fun u differs =>
      (Floor.enter_phase_of_ne differs).trans (others u differs)
  have knows := consistent.knows t
  cases phase : s.phase t with
  | unnamed exception =>
    rw [phase] at knows
    obtain rfl := knows.2 desk
    rw [execute_unnamed desk phase]
    exact stay rfl
  | built exception row =>
    rw [phase] at knows
    obtain ⟨rfl, rfl⟩ := knows.2 desk
    rw [execute_built desk holder phase]
    refine .alone t desk ?_ (by rw [Floor.enter_phase]; rfl) fun u differs =>
      (Floor.enter_phase_of_ne differs).trans (others u differs)
    intro k u held
    exact (reserve_cases held).elim id (holder k u)
  | inserted exception row =>
    rw [phase] at knows
    obtain ⟨_, rfl, rfl, _⟩ := knows
    rw [execute_inserted desk phase]
    exact stay rfl
  | attached exception row =>
    obtain ⟨rfl, after, committed, cases, exceptions⟩ := consistent.commits phase
    rw [committed]
    refine .opened t (race.row t) (race.row_id_drawn t) cases rfl ⟨race.exception.naming (race.row t).id, ?_, rfl⟩
      Floor.finish_phase fun u differs => .inl ((Floor.finish_phase_of_ne differs).trans (others u differs))
    rw [Desk.exception?_eq_some_iff, Floor.finish_desk, exceptions, KeyedRows.mem_update]
    exact ⟨.inr ⟨race.exception, race.stored, rfl, rfl⟩, rfl⟩
  | calling | named | returned | raised => rw [phase] at own; cases own

theorem Serial.step (serial : Serial race s) (consistent : Consistent race s) (apart : ¬Overlaps s t) :
    Serial race (execute race s t) := by
  cases serial with
  | untouched desk holder phase =>
    rw [execute_calling desk (phase t)]
    refine .alone t desk (fun k u held => ?_) (by rw [Floor.enter_phase]; rfl) fun u differs =>
      (Floor.enter_phase_of_ne differs).trans (phase u)
    rw [Floor.enter_holder, holder k] at held
    cases held
  | alone u desk holder own others =>
    by_cases same : t = u
    · subst same
      exact consistent.alone desk holder own others
    · exact absurd ⟨others t same, u, own⟩ apart
  | opened u row keyed cases fingerprint named own others =>
    by_cases same : t = u
    · rw [execute_ended (by rw [same, own]; rfl)]
      exact .opened u row keyed cases fingerprint named own others
    · have enter : ∀ {phase : Phase}, (∃ e, phase = .named e row.id) ∨ phase = .returned row false →
          Serial race (s.enter t phase) := by
        intro phase next
        refine .opened u row keyed cases fingerprint named ((Floor.enter_phase_of_ne (Ne.symm same)).trans own) ?_
        intro v differs
        by_cases moved : v = t
        · subst moved
          rw [Floor.enter_phase]
          exact .inr next
        · rw [Floor.enter_phase_of_ne moved]
          exact others v differs
      rcases others t same with phase | ⟨e, phase⟩ | phase
      · obtain ⟨e, found, names⟩ := named
        have given : given e.reconciliationCaseId = some row.id := by simp [given, names, keyed]
        simp only [execute, phase, race.asked t, Option.bind_some, found, given]
        exact enter (.inl ⟨e, rfl⟩)
      · have found : s.desk.case? row.id = some row := by
          rw [Desk.case?_eq_some_iff, cases]
          exact ⟨List.mem_append_right _ List.mem_cons_self, rfl⟩
        simp only [execute, phase, found]
        exact enter (.inr rfl)
      · rw [execute_ended (by rw [phase]; rfl)]
        exact .opened u row keyed cases fingerprint named own others

omit [DecidableEq τ] in
/-- Once every call has ended, the case is open and all have returned it. -/
theorem Serial.idempotent [Nonempty τ] (serial : Serial race s) (ended : s.Ended) : ∃ row, Idempotent race s row := by
  cases serial with
  | untouched desk holder phase =>
    have finished := ended (Classical.arbitrary τ)
    rw [phase] at finished
    cases finished
  | alone t desk holder own others =>
    have finished := ended t
    rw [Phase.opening_running own] at finished
    cases finished
  | opened t row keyed cases fingerprint named own others =>
    have returned : ∀ u, u ≠ t → s.phase u = .returned row false := by
      intro u differs
      have finished := ended u
      rcases others u differs with phase | ⟨e, phase⟩ | phase
      · rw [phase] at finished
        cases finished
      · rw [phase] at finished
        cases finished
      · exact phase
    refine ⟨row, ?_, named, fun u => ?_, t, own, fun u created => ?_⟩
    · have none : race.desk.cases.filter (fun c => c.fingerprint = race.exception.fingerprint) = [] := by
        rw [List.filter_eq_nil_iff]
        intro c member same
        exact race.unopened (of_decide_eq_true same ▸ List.mem_map_of_mem member)
      rw [cases, List.filter_append, none, List.nil_append, List.filter_singleton, decide_eq_true fingerprint]
      rfl
    · by_cases same : u = t
      · exact ⟨true, same ▸ own⟩
      · exact ⟨false, returned u same⟩
    · by_contra differs
      have clash := (returned u differs).symm.trans created
      cases clash

omit [DecidableEq τ] in
/-- Two calls that read the exception without a case do not both return it as required. -/
theorem not_idempotent {row : CaseRow} {u v : τ} (differ : u ≠ v) (first : (s.phase u).opener = true)
    (second : (s.phase v).opener = true) : ¬Idempotent race s row := by
  intro idempotent
  have opens : ∀ t, (s.phase t).opener = true → s.phase t = .returned row true := by
    intro t opener
    obtain ⟨created, returned⟩ := idempotent.returned t
    rw [returned] at opener ⊢
    rw [show created = true from opener]
  exact differ (idempotent.created.unique (opens u first) (opens v second))

/-- An overlap leaves two calls that read the exception without a case. -/
theorem Consistent.overlapped (consistent : Consistent race s) (overlaps : Overlaps s t) :
    ∃ u v, u ≠ v ∧ ((execute race s t).phase u).opener = true ∧ ((execute race s t).phase v).opener = true := by
  obtain ⟨calling, other, opening⟩ := overlaps
  have apart : other ≠ t := by
    rintro rfl
    rw [calling] at opening
    cases opening
  have opener : (s.phase other).opener = true := Phase.opening_opener opening
  rcases consistent.desk with desk | ⟨_, winner, row, returned⟩
  · refine ⟨other, t, apart, consistent.opener opener t, ?_⟩
    rw [execute_calling desk calling, Floor.enter_phase]
    rfl
  · -- The case is open, so the other call comes too late, beside the one that opened it.
    refine ⟨other, winner, ?_, consistent.opener opener t, consistent.opener (by rw [returned]; rfl) t⟩
    rintro rfl
    rw [returned] at opening
    cases opening

end Serial

/-! ## Runs -/

section Runs
variable {τ : Type} [DecidableEq τ] [Platform] (race : Race τ)

/-- Whatever the interleaving, once every call has ended: the calls have opened one case, which
all return, exactly when no call read the exception between the read and the end of the one
that opens it. -/
theorem createCase_idempotent_iff [Nonempty τ] (schedule : List τ)
    (ended : (Runs.run (execute race) race.initial schedule).Ended) :
    (∃ row, Idempotent race (Runs.run (execute race) race.initial schedule) row) ↔
      Runs.Along (execute race) (fun s t => ¬Overlaps s t) race.initial schedule := by
  have kept : ∀ s t, Consistent race s → Consistent race (execute race s t) := fun s t consistent => consistent.step t
  constructor
  · rintro ⟨row, idempotent⟩
    rw [Runs.along_iff]
    rintro before t after rfl overlaps
    have reached := Runs.invariant kept (consistent_initial race) before
    obtain ⟨u, v, differ, first, second⟩ := reached.overlapped overlaps
    have next := reached.step t
    rw [Runs.run_append] at idempotent
    exact not_idempotent differ (next.openers first after) (next.openers second after) idempotent
  · intro along
    have both : ∀ s t, Serial race s ∧ Consistent race s → ¬Overlaps s t →
        Serial race (execute race s t) ∧ Consistent race (execute race s t) :=
      fun s t holds apart => ⟨holds.1.step holds.2 apart, holds.2.step t⟩
    have start : Serial race race.initial := .untouched rfl (fun _ => rfl) fun _ => rfl
    exact (Runs.invariant_along both ⟨start, consistent_initial race⟩ along).1.idempotent ended

end Runs

section Examples
open PlainText

/-- An exception no case has been opened for. -/
def unhandled : ReconciliationException where
  id := "exc_1"
  reconciliationCaseId := none
  exceptionCode := "DUPLICATE_PAYMENT"
  severity := "HIGH"
  status := "OPEN"
  source := some "manual_demo"
  merchantId := some "m1"
  primaryRecordId := some "pay_1"
  relatedRecordId := none
  expectedAmount := .zero
  actualAmount := .zero
  difference := .zero
  fingerprint := "duplicate:pay_1"

/-- Keys that are longer by those of another call. -/
def apart (extra : List String) : KeySource where
  draw used := keys.draw (used ++ extra)
  fresh used member := keys.fresh (used ++ extra) (List.mem_append_left extra member)

/-- Two calls for it. -/
def twoCalls : Race Bool where
  settings := {}
  desk :=
    { exceptions := [unhandled]
      reconciliationCases := List.pairwise_singleton _ _ }
  exception := unhandled
  keys t := apart (if t then [] else ["other"])
  now _ := 1704110400000000
  args _ := { exceptionId := some "exc_1", merchantId := some "m1" }
  stored := List.mem_cons_self
  asked _ := rfl
  accepted _ := rfl
  unnamed := rfl
  unopened := by decide
  named := by simp [unhandled]
  drawn t used := by simp [apart, keys, longer, String.ext_iff]

/-- One after the other. -/
def inTurn : List Bool := [true, true, true, true, true, false, false]

/-- The second call reads the exception before the first one commits. -/
def bothRead : List Bool := [true, false, true, true, true, true, false, false]

theorem createCase_idempotent_iff_inTurn :
    (∃ row, Idempotent twoCalls (Runs.run (execute twoCalls) twoCalls.initial inTurn) row) ↔
      Runs.Along (execute twoCalls) (fun s t => ¬Overlaps s t) twoCalls.initial inTurn :=
  createCase_idempotent_iff twoCalls inTurn fun t => by cases t <;> decide

def Phase.raisedIntegrity : Phase → Bool
  | .raised .integrity => true
  | _ => false

/-- Its insert is refused outside the `try`, and the call raises. -/
theorem overlapping_call_raises : ¬∀ schedule : List Bool,
    (Runs.run (execute twoCalls) twoCalls.initial schedule).Ended →
      ∃ row, Idempotent twoCalls (Runs.run (execute twoCalls) twoCalls.initial schedule) row := by
  intro always
  obtain ⟨row, idempotent⟩ := always bothRead fun t => by cases t <;> decide
  have raised : ((Runs.run (execute twoCalls) twoCalls.initial bothRead).phase false).raisedIntegrity = true := by decide
  obtain ⟨created, returned⟩ := idempotent.returned false
  rw [returned] at raised
  cases raised

end Examples

end RCAA.Cases
