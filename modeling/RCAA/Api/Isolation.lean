import RCAA.Api.Writes
import RCAA.Library.Runs

/-! The tenants of the case desk are apart: over a whole run, what other merchants do
leaves the part of a merchant, and what a user is answered shows rows of the user's
merchant only. -/

namespace RCAA.Api
open Cases OwnedRows
open Security (AuthSettings Failure User)

variable {merchant : String} {desk after : Desk}

/-! ## The part of a merchant -/

/-- What a desk has of one merchant. -/
structure Part where
  cases : List CaseRow
  recoveries : List RecoveryRecord
  events : List CaseEvent
  notes : List CaseNote
  exceptions : List ReconciliationException
  links : List CaseExceptionLink

/-- The key is that of a case filed under the merchant. -/
def holdsCase (desk : Desk) (merchant caseId : String) : Bool :=
  desk.cases.any fun c => c.id = caseId && c.merchantId = some merchant

def partOf (desk : Desk) (merchant : String) : Part where
  cases := desk.cases.filter fun c => c.merchantId = some merchant
  recoveries := desk.recoveries.filter fun r => holdsCase desk merchant r.caseId
  events := desk.events.filter fun e => holdsCase desk merchant e.caseId
  notes := desk.notes.filter fun n => holdsCase desk merchant n.caseId
  exceptions := desk.exceptions.filter fun e => e.merchantId = some merchant
  links := desk.links.filter fun l => holdsCase desk merchant l.caseId

theorem holdsCase_iff {caseId : String} :
    holdsCase desk merchant caseId = true ↔ ∃ c ∈ desk.cases, c.id = caseId ∧ c.merchantId = some merchant := by
  simp [holdsCase]

theorem Filed.foreign {part : String × Option String × Option String} (filed : Filed merchant part) {other : String}
    (differs : other ≠ merchant) : part.2.1 ≠ some other := by
  rcases filed.1 with none | own
  · simp [none]
  · simpa [own] using differs.symm

theorem OwnsCase.foreign {caseId : String} (owns : OwnsCase merchant desk caseId) {other : String} (differs : other ≠ merchant) :
    holdsCase desk other caseId = false := by
  obtain ⟨c, member, key, filed⟩ := owns
  rw [← Bool.not_eq_true, holdsCase_iff]
  rintro ⟨c', inside, same, theirs⟩
  rw [List.inj_on_of_nodup_map desk.caseIds inside member (same.trans key.symm)] at theirs
  exact filed.foreign differs theirs

namespace Changes

/-- The cases of another merchant have the keys they had. -/
theorem holdsCase_eq (changes : Changes merchant desk after) {other : String} (differs : other ≠ merchant) (caseId : String) :
    holdsCase after other caseId = holdsCase desk other caseId := by
  rw [Bool.eq_iff_iff, holdsCase_iff, holdsCase_iff]
  constructor
  · rintro ⟨c, member, key, theirs⟩
    rcases changes.cases.origin member with ⟨c', earlier, same⟩ | filed
    · exact ⟨c', earlier, (congrArg Prod.fst same).trans key, (congrArg (·.2.1) same).trans theirs⟩
    · exact absurd theirs (filed.foreign differs)
  · rintro ⟨c, member, key, theirs⟩
    obtain ⟨c', stored, same⟩ := changes.case_kept member
    exact ⟨c', stored, (congrArg Prod.fst same).trans key, (congrArg (·.2.1) same).trans theirs⟩

/-- The part of another merchant stays. -/
theorem partOf_eq (changes : Changes merchant desk after) {other : String} (differs : other ≠ merchant) :
    partOf after other = partOf desk other := by
  have cases := changes.cases.filter_eq (fun part => part.2.1 = some other)
    fun part filed => by simpa using filed.foreign differs
  have exceptions := changes.exceptions.filter_eq (fun part => part.2 = some other)
    fun part own => by simpa [own] using differs.symm
  have recoveries := changes.recoveries.filter_eq (holdsCase after other) fun caseId owns => owns.foreign differs
  have events := changes.events.filter_eq (holdsCase after other) fun caseId owns => owns.foreign differs
  have notes := changes.notes.filter_eq (holdsCase after other) fun caseId owns => owns.foreign differs
  have links := changes.links.filter_eq (fun part => holdsCase after other part.1) fun part owns => by
    obtain ⟨c, member, key, filed, _⟩ := owns
    exact OwnsCase.foreign ⟨c, member, key, filed⟩ differs
  have same (caseId : String) := changes.holdsCase_eq differs caseId
  simp only [same] at recoveries events notes links
  unfold partOf
  simp only [same]
  congr 1

end Changes
/-! ## What is answered -/

/-- Every link joins a case and an exception of one merchant. -/
def Linked (desk : Desk) : Prop :=
  ∀ l ∈ desk.links, ∃ c ∈ desk.cases, c.id = l.caseId ∧ ∃ e ∈ desk.exceptions, e.id = l.exceptionId ∧ e.merchantId = c.merchantId

/-- What requests keep of the desk. -/
structure Orderly (desk : Desk) : Prop where
  named : Named desk
  agrees : Agrees desk
  linked : Linked desk

theorem orderly_empty : Orderly {} := ⟨by simp [Named], by simp [Agrees], by simp [Linked]⟩

theorem Changes.orderly (changes : Changes merchant desk after) (orderly : Orderly desk) : Orderly after where
  named := changes.named orderly.named
  agrees := changes.agrees orderly.agrees
  linked l member := by
    rcases changes.links.origin member with ⟨l', earlier, same⟩ | ⟨c, stored, key, _, own, e, inside, id, theirs⟩
    · obtain ⟨c, stored, key, e, inside, id, own⟩ := orderly.linked l' earlier
      obtain ⟨c', kept, part⟩ := changes.case_kept stored
      obtain ⟨e', still, also⟩ := changes.exceptions.kept inside
      refine ⟨c', kept, ?_, e', still, ?_, ?_⟩
      · exact (congrArg Prod.fst part).trans (key.trans (congrArg Prod.fst same))
      · exact (congrArg Prod.fst also).trans (id.trans (congrArg Prod.snd same))
      · exact (congrArg Prod.snd also).trans (own.trans (congrArg (·.2.1) part).symm)
    · exact ⟨c, stored, key, e, inside, id, theirs.trans own.symm⟩

/-- The key is that of a case of the merchant. -/
def CaseOf (merchant : String) (desk : Desk) (caseId : String) : Prop :=
  ∃ c ∈ desk.cases, c.id = caseId ∧ c.merchantId = some merchant

/-- An answer that shows rows of the merchant only. -/
def Answer.Confined (merchant : String) (desk : Desk) : Answer → Prop
  | .detail d _ => d.case.merchantId = some merchant ∧ (∀ e ∈ d.exceptions, e.merchantId = some merchant) ∧
      (∀ n ∈ d.notes, n.caseId = d.case.id) ∧ (∀ e ∈ d.timeline, e.caseId = d.case.id) ∧ d.recovery.caseId = d.case.id
  | .case row => row.merchantId = some merchant
  | .recovery row => CaseOf merchant desk row.caseId
  | .note row => CaseOf merchant desk row.caseId
  | .exception row => row.merchantId = some merchant
  | .generated _ => True

theorem detail_confined {keys : KeySource} {now : Int} {case : CaseRow} {created : Option Bool} (linked : Linked desk)
    (member : case ∈ desk.cases) (own : case.merchantId = some merchant) :
    (Answer.detail (detail keys now desk case) created).Confined merchant desk := by
  refine ⟨own, fun e listed => ?_, fun n listed => ?_, fun e listed => ?_, ensureRecovery_caseId keys now desk case⟩
  · obtain ⟨inside, joined⟩ := List.mem_filter.mp listed
    obtain ⟨l, stored, same⟩ := List.any_eq_true.mp joined
    rw [Bool.and_eq_true, decide_eq_true_eq, decide_eq_true_eq] at same
    obtain ⟨c, cases, key, e', exceptions, id, agrees⟩ := linked l stored
    rw [List.inj_on_of_nodup_map desk.caseIds cases member (key.trans same.1),
      List.inj_on_of_nodup_map desk.exceptionIds exceptions inside (id.trans same.2)] at agrees
    exact agrees.trans own
  · simpa [detail] using (List.mem_filter.mp listed).2
  · simpa [detail, Desk.timeline, Journal.history] using (List.mem_filter.mp listed).2

/-! ## Requests -/

/-- A user of a merchant who is not the fixture of the tests. -/
structure Regular (auth : AuthSettings) (user : User) : Prop where
  named : user.merchantId ≠ ""
  bypass : testAdminBypass auth user = false

section Requests
variable {auth : AuthSettings} {user : User}

theorem mem_visible {α : Type} {merchantId : α → Option String} {rows : List α} {row : α} (regular : Regular auth user) :
    row ∈ visible auth user merchantId rows ↔ row ∈ rows ∧ merchantId row = some user.merchantId := by
  simp [visible, regular.bypass]

theorem caseOf_ok {caseId : String} {case : CaseRow} (regular : Regular auth user) (found : caseOf auth user desk caseId = .ok case) :
    case ∈ desk.cases ∧ case.merchantId = some user.merchantId := by
  unfold caseOf at found
  split at found
  · cases found
  · next c shown =>
    cases found
    exact (mem_visible regular).mp (List.mem_of_find?_eq_some shown)

theorem exceptionOf_ok {exceptionId : String} {missing : Failure} {e : ReconciliationException} (regular : Regular auth user)
    (found : exceptionOf auth user desk exceptionId missing = .ok e) :
    e ∈ desk.exceptions ∧ e.id = exceptionId ∧ e.merchantId = some user.merchantId := by
  unfold exceptionOf at found
  split at found
  · cases found
  · next e shown =>
    cases found
    obtain ⟨member, own⟩ := (mem_visible regular).mp (List.mem_of_find?_eq_some shown)
    exact ⟨member, by simpa using List.find?_some shown, own⟩

theorem requireRoles_ok {roles : List String} {u : Unit} : requireRoles roles user = .ok u → user.role ∈ roles := by
  unfold requireRoles
  split
  · next allowed => exact fun _ => allowed
  · exact fun refused => nomatch refused

/-- What a request does and what it shows. -/
def Served.Confined (merchant : String) (desk : Desk) (served : Served) : Prop :=
  Changes merchant desk served.2 ∧ ∀ answer, served.1 = .ok answer → answer.Confined merchant served.2

theorem refused_confined (merchant : String) (desk : Desk) (failure : Failure) : Served.Confined merchant desk (.error failure, desk) :=
  ⟨.refl .., fun _ served => nomatch served⟩

variable {settings : Settings} {keys : KeySource} {now : Int}

theorem getCaseApi_confined {caseId : String} (regular : Regular auth user) (orderly : Orderly desk) :
    (getCaseApi auth keys now user desk caseId).Confined user.merchantId desk := by
  refine ⟨.refl .., fun answer served => ?_⟩
  obtain ⟨case, found, same⟩ := Outcome.map_ok served
  obtain ⟨member, own⟩ := caseOf_ok regular found
  exact same ▸ detail_confined orderly.linked member own

theorem routedCase_ok {bank : List BankTransaction} {caseId : String} {route : CaseRoute} {case : CaseRow} (regular : Regular auth user)
    (admitted : routedCase auth user bank desk caseId route = .ok case) :
    case ∈ desk.cases ∧ case.merchantId = some user.merchantId ∧
      ∀ exceptionId, route = .exceptions exceptionId → ∃ e ∈ desk.exceptions, e.id = exceptionId ∧ e.merchantId = some user.merchantId := by
  obtain ⟨_, _, admitted⟩ := Outcome.bind_ok admitted
  obtain ⟨_, _, admitted⟩ := Outcome.bind_ok admitted
  obtain ⟨found, reading, admitted⟩ := Outcome.bind_ok admitted
  obtain ⟨_, referenced, admitted⟩ := Outcome.bind_ok admitted
  cases admitted
  obtain ⟨member, own⟩ := caseOf_ok regular reading
  refine ⟨member, own, ?_⟩
  rintro exceptionId rfl
  obtain ⟨e, shown, _⟩ := Outcome.map_ok referenced
  exact ⟨e, exceptionOf_ok regular shown⟩

/-- The row of the case after requests of its merchant. -/
theorem case_stored {case : CaseRow} (changes : Changes merchant desk after) (member : case ∈ desk.cases)
    (own : case.merchantId = some merchant) :
    (after.case? case.id).getD case ∈ after.cases ∧ ((after.case? case.id).getD case).merchantId = some merchant := by
  obtain ⟨c, stored, same⟩ := changes.case_kept member
  have found := (after.case?_eq_some_iff case.id c).mpr ⟨stored, congrArg Prod.fst same⟩
  rw [found]
  exact ⟨stored, (congrArg (·.2.1) same).trans own⟩

theorem exceptionApi_confined {exceptionId status : String} (regular : Regular auth user) :
    (exceptionApi auth user desk exceptionId status).Confined user.merchantId desk := by
  unfold exceptionApi
  dsimp only
  split
  · exact refused_confined ..
  · next e admitted =>
    obtain ⟨_, _, reading⟩ := Outcome.bind_ok admitted
    obtain ⟨member, key, own⟩ := exceptionOf_ok regular reading
    refine ⟨.handleException status fun other inside same => ?_, fun answer served => ?_⟩
    · rw [List.inj_on_of_nodup_map desk.exceptionIds inside member same]
      exact own
    · cases served
      exact own

section Serving
variable [Platform]

theorem createCaseApi_confined {args : CaseArguments} (regular : Regular auth user) (orderly : Orderly desk) :
    (createCaseApi settings auth keys now user desk args).Confined user.merchantId desk := by
  unfold createCaseApi
  dsimp only
  split
  · exact refused_confined ..
  · next admitted =>
    split
    · exact refused_confined ..
    · next case created after made =>
      have own : ∀ id, given args.exceptionId = some id → ∀ e, desk.exception? id = some e → e.merchantId = some user.merchantId := by
        intro id asked e found
        obtain ⟨_, _, admitted⟩ := Outcome.bind_ok admitted
        simp only [regular.bypass, Bool.not_false, if_true, asked] at admitted
        obtain ⟨_, _, admitted⟩ := Outcome.bind_ok admitted
        obtain ⟨shown, reading, _⟩ := Outcome.bind_ok admitted
        obtain ⟨member, key, theirs⟩ := exceptionOf_ok regular reading
        obtain ⟨inside, same⟩ := (desk.exception?_eq_some_iff id e).mp found
        rwa [List.inj_on_of_nodup_map desk.exceptionIds inside member (same.trans key.symm)]
      obtain ⟨changes, mine, stored⟩ := createCase_changes made (by simp [regular.bypass]) regular.named orderly.named own
      refine ⟨changes, fun answer served => ?_⟩
      cases served
      exact detail_confined (changes.orderly orderly).linked stored mine

theorem caseApi_confined {bank : List BankTransaction} {caseId : String} {route : CaseRoute} (regular : Regular auth user)
    (orderly : Orderly desk) : (caseApi auth keys now user bank desk caseId route).Confined user.merchantId desk := by
  unfold caseApi
  split
  · exact refused_confined ..
  · next case admitted =>
    obtain ⟨member, own, attaches⟩ := routedCase_ok regular admitted
    have filed : Filed user.merchantId (casePart case) := ⟨.inr own, orderly.agrees case member⟩
    have changes : Changes user.merchantId desk (operate keys now bank desk case route.operation) := by
      refine operate_changes ⟨case, member, rfl, filed⟩ fun exceptionId attaching e found => ?_
      have asked : route = .exceptions exceptionId := by
        cases route <;> cases attaching
        rfl
      obtain ⟨shown, inside, key, theirs⟩ := attaches exceptionId asked
      obtain ⟨stored, same⟩ := (desk.exception?_eq_some_iff exceptionId e).mp found
      rw [List.inj_on_of_nodup_map desk.exceptionIds stored inside (same.trans key.symm)]
      exact ⟨case, member, rfl, filed, own, shown, inside, rfl, theirs⟩
    refine ⟨changes, fun answer served => ?_⟩
    obtain ⟨_, _, same⟩ := Outcome.map_ok served
    obtain ⟨stored, mine⟩ := case_stored changes member own
    have caseOf : CaseOf user.merchantId (operate keys now bank desk case route.operation) case.id := by
      obtain ⟨c, kept, part⟩ := changes.case_kept member
      exact ⟨c, kept, congrArg Prod.fst part, (congrArg (·.2.1) part).trans own⟩
    subst same
    cases route with
    | recovery | initiate | verify | unrecoverable =>
      simp only [answerOf, Answer.Confined, ensureRecovery_caseId]
      exact caseOf
    | notes => exact caseOf
    | exceptions => exact detail_confined (changes.orderly orderly).linked stored mine
    | assign | start | resolve | reopen => exact mine

/-! ## Runs for a merchant -/

variable [Hashing] [Exceptions.ExceptionHashing] {s : System} {order : SetOrder}

omit [Exceptions.ExceptionHashing] in
theorem runFor_changes (named : merchant ≠ "") (untangled : Untangled s.database.store)
    (ran : runFor settings keys now s order (some merchant) = .ok after) : Changes merchant s.desk after := by
  unfold runFor at ran
  split at ran
  · cases ran
  · next found surveyed =>
    obtain ⟨reviews, reviewed, same⟩ := Outcome.map_ok surveyed
    cases recorded : found.findings.requests.foldlM (recordCase settings keys now) s.desk with
    | error e =>
      rw [recorded] at ran
      cases ran
    | ok desk =>
      rw [recorded] at ran
      cases ran
      exact recordCases_changes recorded fun r reported => reported_filed named untangled reviewed (same ▸ reported)

omit [Platform] [Hashing] in
theorem generateFor_confined {batches : List IngestionBatch} (named : merchant ≠ "") (agrees : Agrees desk) :
    (generateFor settings keys batches (some merchant) desk).Confined merchant desk := by
  unfold generateFor
  split
  · exact refused_confined ..
  · next report after done =>
    refine ⟨generateExceptions_changes done named agrees, fun answer served => ?_⟩
    cases served
    trivial

theorem reconcileApi_confined (regular : Regular auth user) (untangled : Untangled s.database.store) (orderly : Orderly s.desk) :
    (reconcileApi settings auth keys now user s order).Confined user.merchantId s.desk := by
  have scope : runMerchant auth user = some user.merchantId := by simp [runMerchant, regular.bypass]
  unfold reconcileApi
  rw [scope]
  split
  · exact refused_confined ..
  · split
    · exact refused_confined ..
    · next ran =>
      have changes := runFor_changes regular.named untangled ran
      obtain ⟨generated, shown⟩ := generateFor_confined regular.named (changes.orderly orderly).agrees
      exact ⟨changes.trans generated, shown⟩

/-- What a user is answered, and what the answer leaves, is of the user's merchant. -/
theorem serve_confined {request : DeskRequest} (regular : Regular auth user) (untangled : Untangled s.database.store)
    (orderly : Orderly s.desk) : (serve settings auth keys now user s order request).Confined user.merchantId s.desk := by
  cases request with
  | createCase args => exact createCaseApi_confined regular orderly
  | getCase caseId => exact getCaseApi_confined regular orderly
  | onCase caseId route => exact caseApi_confined regular orderly
  | reconcile => exact reconcileApi_confined regular untangled orderly
  | acknowledgeException exceptionId => exact exceptionApi_confined regular
  | resolveException exceptionId => exact exceptionApi_confined regular

/-! ## Runs of the service -/

/-- Users are regular, and no record is tied to another merchant's payment. -/
def Event.Regular (auth : AuthSettings) : Event → Prop
  | .request _ _ _ user _ => Api.Regular auth user
  | .job _ _ _ merchant _ => merchant ≠ ""
  | .stored database => Untangled database.store

/-- What holds in every state of a run. -/
structure Reached (s : System) : Prop where
  untangled : Untangled s.database.store
  orderly : Orderly s.desk

theorem jobDesk_changes {generates : Bool} (named : merchant ≠ "") (reached : Reached s) :
    Changes merchant s.desk (jobDesk settings keys now s order merchant generates) := by
  unfold jobDesk
  split
  · exact .refl ..
  · next ran =>
    have changes := runFor_changes named reached.untangled ran
    split
    · exact changes.trans (generateFor_confined named (changes.orderly reached.orderly).agrees).1
    · exact changes

theorem step_changes {event : Event} (regular : event.Regular auth) (reached : Reached s) {merchant : String}
    (own : event.owner = some merchant) : Changes merchant s.desk (step settings auth s event).desk := by
  cases event with
  | request keys now order user request =>
    cases own
    exact (serve_confined regular reached.untangled reached.orderly).1
  | job keys now order merchant generates =>
    cases own
    exact jobDesk_changes regular reached
  | stored database => cases own

theorem step_reached {event : Event} (regular : event.Regular auth) (reached : Reached s) : Reached (step settings auth s event) := by
  cases event with
  | request keys now order user request =>
    exact ⟨reached.untangled, (serve_confined regular reached.untangled reached.orderly).1.orderly reached.orderly⟩
  | job keys now order merchant generates =>
    exact ⟨reached.untangled, (jobDesk_changes regular reached).orderly reached.orderly⟩
  | stored database => exact ⟨regular, reached.orderly⟩

/-- A step of others leaves the part of a merchant. -/
theorem step_partOf {event : Event} (regular : event.Regular auth) (reached : Reached s) (foreign : event.owner ≠ some merchant) :
    partOf (step settings auth s event).desk merchant = partOf s.desk merchant := by
  cases own : event.owner with
  | none =>
    cases event with
    | stored database => rfl
    | request | job => cases own
  | some other => exact (step_changes regular reached own).partOf_eq fun same => foreign (same ▸ own)

variable (settings) in
theorem run_reached {events : List Event} (regular : ∀ e ∈ events, e.Regular auth) (reached : Reached s) :
    Reached (Runs.run (step settings auth) s events) := by
  induction events generalizing s with
  | nil => exact reached
  | cons e rest ih =>
    obtain ⟨first, others⟩ := List.forall_mem_cons.mp regular
    exact ih others (step_reached first reached)

theorem run_partOf {events : List Event} (regular : ∀ e ∈ events, e.Regular auth) (reached : Reached s)
    (foreign : ∀ e ∈ events, e.owner ≠ some merchant) :
    partOf (Runs.run (step settings auth) s events).desk merchant = partOf s.desk merchant := by
  induction events generalizing s with
  | nil => rfl
  | cons e rest ih =>
    obtain ⟨first, others⟩ := List.forall_mem_cons.mp regular
    obtain ⟨other, foreign⟩ := List.forall_mem_cons.mp foreign
    rw [Runs.run_cons, ih others (step_reached first reached) foreign]
    exact step_partOf first reached other

end Serving
end Requests

section Examples
open PlainText

def member (merchantId : String) : User := ⟨"u", "u@m.example", "", merchantId, "ADMIN", true, false, none⟩

/-- A request of a merchant's admin. -/
def asked (merchantId : String) (request : DeskRequest) : Event := .request keys 1704110400000000 .insertion (member merchantId) request

def openedByBoth : List Event := [asked "m1" (.createCase {}), asked "m2" (.createCase {})]

/-- The second merchant's admin works on both cases. -/
def workedBySecond : List Event :=
  [asked "m2" (.onCase (longer []) (.notes "mine" none)), asked "m2" (.onCase (longer [longer []]) (.notes "mine" none)),
    asked "m2" .reconcile]

end Examples
end RCAA.Api
