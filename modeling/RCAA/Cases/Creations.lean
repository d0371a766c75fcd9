import RCAA.Reconciliation.Appends

/-! The numbers of the cases two services create, over the transactions of a database
that runs one at a time. Reconciliation creates cases within a transaction that is
committed or rolled back later; the operational service ends its own. A case that is
rolled back was not created, and its number is drawn again. -/

namespace RCAA.Cases

/-! ## Transactions -/

/-- The desk a transaction sees, and when the cases on it were created. -/
structure View where
  desk : Desk := {}
  created : List Int := []

namespace View

def numbers (view : View) : List String := view.desk.cases.map (·.caseNumber)

def createdIn (view : View) (year : Nat) : Nat := view.created.countP fun now => yearOf now = year

end View

/-- What is committed, and what the open transaction sees. -/
structure History where
  committed : View := {}
  working : View := {}

namespace History

def commit (s : History) : History := { s with committed := s.working }
def rollback (s : History) : History := { s with working := s.committed }

def write (s : History) (desk : Desk) (created : List Int) : History :=
  { s with working := ⟨desk, s.working.created ++ created⟩ }

end History

inductive Event where
  /-- Reconciliation's `create_case`. -/
  | reported (keys : KeySource) (now : Int) (request : CaseRequest)
  /-- The operational one, which commits, unless what follows the insert fails. -/
  | opened (keys : KeySource) (now : Int) (args : CaseArguments) (commits : Bool)
  /-- Another write of the transaction: none gives a case another number or removes it. -/
  | written (desk : Desk)
  | commit
  | rollback

section Step
variable [Platform] [Hashing] (settings : Settings)

/-- What raises is rolled back. -/
def step (s : History) : Event → History
  | .reported keys now request =>
    match (deskRegistry settings keys now).put s.working.desk request with
    | .error _ => s.rollback
    | .ok (desk, false) => s.write desk []
    | .ok (desk, true) => s.write desk [now]
  | .opened keys now args commits =>
    match createCase settings keys now s.working.desk args with
    | .error _ => s.rollback
    | .ok (_, false, _) => s
    | .ok (_, true, desk) => if commits then (s.write desk [now]).commit else s.rollback
  | .written desk => if desk.cases.map (·.caseNumber) = s.working.numbers then s.write desk [] else s
  | .commit => s.commit
  | .rollback => s.rollback

end Step

/-! ## The numbers in use -/

namespace View

/-- The numbers of each year are the first ones, as many as it has cases. -/
structure Consecutive (view : View) : Prop where
  years : ∀ year, view.numbers.filter (inYear year) =
    (List.range (view.createdIn year)).map fun n => caseNumber year (n + 1)
  distinct : view.numbers.Nodup
  unused : ∀ year, nextCaseNumber view.numbers year ∉ view.numbers

/-- Each year's cases are those counted by its prefix. -/
structure Counted (view : View) : Prop where
  counts : ∀ year, (view.numbers.filter (inYear year)).length = view.createdIn year
  distinct : view.numbers.Nodup

theorem Counted.empty : Counted {} := ⟨fun _ => rfl, List.nodup_nil⟩

theorem Counted.consecutive {view : View} (counted : view.Counted) : view.Consecutive := by
  refine ⟨fun year => ?_, counted.distinct, nextCaseNumber_fresh view.desk.numbering⟩
  rw [← counted.counts year]
  exact view.desk.numbering year

theorem Counted.same {view after : View} (counted : view.Counted) (numbers : after.numbers = view.numbers)
    (created : after.created = view.created) : after.Counted := by
  refine ⟨fun year => ?_, numbers ▸ counted.distinct⟩
  rw [numbers, counted.counts year, createdIn, createdIn, created]

/-- A case under the next number of the year it is created in. -/
theorem Counted.snoc {view after : View} {now : Int} (counted : view.Counted)
    (numbers : after.numbers = view.numbers ++ [nextCaseNumber view.numbers (yearOf now)])
    (created : after.created = view.created ++ [now]) : after.Counted := by
  constructor
  · intro year
    have before := counted.counts year
    rw [numbers, createdIn, created, List.filter_append, List.length_append, before, createdIn, List.countP_append,
      List.countP_singleton, List.filter_singleton, nextCaseNumber, inYear_caseNumber]
    by_cases same : year = yearOf now
    · rw [if_pos (decide_eq_true same.symm), decide_eq_true same]
      rfl
    · rw [if_neg (by simpa using Ne.symm same), decide_eq_false same]
      rfl
  · rw [numbers, ← List.concat_eq_append]
    exact counted.distinct.concat (nextCaseNumber_fresh view.desk.numbering (yearOf now))

end View

/-! ## What a creation adds -/

section Creation
variable [Platform] [Hashing] {settings : Settings} {keys : KeySource} {now : Int} {desk after : Desk}

omit [Platform] in
theorem put_created {request : CaseRequest}
    (stored : (deskRegistry settings keys now).put desk request = .ok (after, true)) :
    after.cases.map (·.caseNumber) =
      desk.cases.map (·.caseNumber) ++ [nextCaseNumber (desk.cases.map (·.caseNumber)) (yearOf now)] := by
  rcases Registry.put_cases _ stored with ⟨_, _, known⟩ | ⟨absent, added, _⟩
  · cases known
  · obtain ⟨inserted, accepted, logged⟩ := Outcome.bind_ok added
    cases logged
    have cases := (Desk.insertCase_ok accepted).1
    simp only [Desk.log, cases, List.map_append, List.map_singleton, reportedCase, RCAA.newCase, Desk.caseStore,
      List.map_map, Function.comp_def]

omit [Platform] in
theorem put_known {request : CaseRequest}
    (stored : (deskRegistry settings keys now).put desk request = .ok (after, false)) : after = desk := by
  rcases Registry.put_cases _ stored with ⟨_, same, _⟩ | ⟨_, _, new⟩
  · exact same
  · cases new

omit [Hashing] in
theorem openCase_row {args : CaseArguments} {exception : Option ReconciliationException} {row : CaseRow} {new : Bool}
    (made : openCase settings keys now desk args exception = .ok (row, new, after)) :
    row = newCase settings keys now desk args exception := by
  unfold openCase at made
  split at made
  · cases made
  · obtain ⟨inserted, _, made⟩ := Outcome.bind_ok made
    obtain ⟨attached, _, made⟩ := Outcome.bind_ok made
    cases made
    rfl

omit [Hashing] in
theorem createCase_created {args : CaseArguments} {row : CaseRow}
    (made : createCase settings keys now desk args = .ok (row, true, after)) :
    after.cases.map (·.caseNumber) =
      desk.cases.map (·.caseNumber) ++ [nextCaseNumber (desk.cases.map (·.caseNumber)) (yearOf now)] := by
  have opened : ∃ exception, openCase settings keys now desk args exception = .ok (row, true, after) := by
    unfold createCase at made
    split at made
    · exact ⟨none, made⟩
    · split at made
      · cases made
      · split at made
        · cases made
        · exact ⟨some _, made⟩
  obtain ⟨exception, made⟩ := opened
  rw [(openCase_opened made).cases, List.map_append, List.map_singleton, openCase_row made]
  rfl

end Creation

/-! ## Histories -/

namespace History

/-- What is committed and what the transaction sees number their cases without gaps,
and no committed number is drawn again. -/
structure Consecutive (s : History) : Prop where
  committed : s.committed.Consecutive
  working : s.working.Consecutive
  kept : s.committed.numbers <+: s.working.numbers

/-- Both tables are counted, and the transaction's extends the committed one. -/
structure Counted (s : History) : Prop where
  committed : s.committed.Counted
  working : s.working.Counted
  kept : s.committed.numbers <+: s.working.numbers

theorem Counted.initial : Counted {} := ⟨.empty, .empty, List.prefix_rfl⟩

theorem Counted.commit {s : History} (counted : s.Counted) : s.commit.Counted :=
  ⟨counted.working, counted.working, List.prefix_rfl⟩

theorem Counted.rollback {s : History} (counted : s.Counted) : s.rollback.Counted :=
  ⟨counted.committed, counted.committed, List.prefix_rfl⟩

theorem Counted.unchanged {s : History} {desk : Desk} (counted : s.Counted)
    (numbers : desk.cases.map (·.caseNumber) = s.working.numbers) : (s.write desk []).Counted := by
  have same : (s.write desk []).working.numbers = s.working.numbers := numbers
  refine ⟨counted.committed, counted.working.same same (List.append_nil _), ?_⟩
  rw [same]
  exact counted.kept

theorem Counted.creation {s : History} {desk : Desk} {now : Int} (counted : s.Counted)
    (numbers : desk.cases.map (·.caseNumber) =
      s.working.numbers ++ [nextCaseNumber s.working.numbers (yearOf now)]) : (s.write desk [now]).Counted := by
  have longer : (s.write desk [now]).working.numbers =
      s.working.numbers ++ [nextCaseNumber s.working.numbers (yearOf now)] := numbers
  refine ⟨counted.committed, counted.working.snoc longer rfl, ?_⟩
  rw [longer]
  exact counted.kept.trans (List.prefix_append _ _)

theorem Counted.consecutive {s : History} (counted : s.Counted) : s.Consecutive :=
  ⟨counted.committed.consecutive, counted.working.consecutive, counted.kept⟩

section Step
variable [Platform] [Hashing]

theorem Counted.step (settings : Settings) {s : History} (counted : s.Counted) (event : Event) :
    (step settings s event).Counted := by
  cases event with
  | reported keys now request =>
    simp only [Cases.step]
    split
    · exact counted.rollback
    · next desk stored => exact counted.unchanged (by rw [put_known stored]; rfl)
    · next desk stored => exact counted.creation (put_created stored)
  | opened keys now args commits =>
    simp only [Cases.step]
    split
    · exact counted.rollback
    · exact counted
    · next row desk made =>
      split
      · exact (counted.creation (createCase_created made)).commit
      · exact counted.rollback
  | written desk =>
    simp only [Cases.step]
    split
    · next numbers => exact counted.unchanged numbers
    · exact counted
  | commit => exact counted.commit
  | rollback => exact counted.rollback

end Step

end History

theorem case_numbers_consecutive [Platform] [Hashing] (settings : Settings) (events : List Event) :
    Runs.Throughout (step settings) History.Consecutive {} events := by
  intro before _
  have counted : (Runs.run (step settings) {} before).Counted :=
    Runs.invariant (fun _ event holds => holds.step settings event) .initial before
  exact counted.consecutive

end RCAA.Cases
