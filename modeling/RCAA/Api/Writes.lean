import RCAA.Api.Desk
import RCAA.Exceptions.Generation
import RCAA.Library.OwnedRows
import RCAA.Reconciliation.Ownership

/-! What the calls of one merchant write on the desk that all merchants share: rows of its
own, and new rows of its own. A reconciliation run does so as long as no stored refund or
settlement of a merchant is tied to a payment of another. -/

namespace RCAA.Api
open Cases OwnedRows
open Security (AuthSettings Failure User)

/-! ## Whose rows -/

/-- What a write leaves of a case: its key, its merchant and the merchant its metadata names. -/
def casePart (c : CaseRow) : String × Option String × Option String := (c.id, c.merchantId, c.metadataText "merchant_id")

/-- A case filed under the merchant, or under none, whose metadata agrees. -/
def Filed (merchant : String) (part : String × Option String × Option String) : Prop :=
  (part.2.1 = none ∨ part.2.1 = some merchant) ∧ given part.2.2 = given part.2.1

def exceptionPart (e : ReconciliationException) : String × Option String := (e.id, e.merchantId)

def linkPart (l : CaseExceptionLink) : String × String := (l.caseId, l.exceptionId)

/-- The key is that of a case of the merchant. -/
def OwnsCase (merchant : String) (desk : Desk) (caseId : String) : Prop :=
  ∃ c ∈ desk.cases, c.id = caseId ∧ Filed merchant (casePart c)

def OwnsLink (merchant : String) (desk : Desk) (part : String × String) : Prop :=
  ∃ c ∈ desk.cases, c.id = part.1 ∧ Filed merchant (casePart c) ∧ c.merchantId = some merchant ∧
    ∃ e ∈ desk.exceptions, e.id = part.2 ∧ e.merchantId = some merchant

/-- Every exception names a case of its merchant. -/
def Named (desk : Desk) : Prop :=
  ∀ e ∈ desk.exceptions, ∀ id, given e.reconciliationCaseId = some id → ∃ c ∈ desk.cases, c.id = id ∧ c.merchantId = e.merchantId

/-- What requests of one merchant do to the desk. -/
structure Changes (merchant : String) (desk after : Desk) : Prop where
  cases : Within casePart (Filed merchant) desk.cases after.cases
  recoveries : Within RecoveryRecord.caseId (OwnsCase merchant after) desk.recoveries after.recoveries
  events : Within CaseEvent.caseId (OwnsCase merchant after) desk.events after.events
  notes : Within CaseNote.caseId (OwnsCase merchant after) desk.notes after.notes
  exceptions : Within exceptionPart (fun part => part.2 = some merchant) desk.exceptions after.exceptions
  links : Within linkPart (OwnsLink merchant after) desk.links after.links
  named : Named desk → Named after

variable {merchant : String} {desk middle after : Desk}

namespace Changes

theorem case_kept (changes : Changes merchant desk after) {c : CaseRow} (member : c ∈ desk.cases) :
    ∃ c' ∈ after.cases, casePart c' = casePart c := changes.cases.kept member

theorem ownsCase (changes : Changes merchant desk after) {caseId : String} (owns : OwnsCase merchant desk caseId) :
    OwnsCase merchant after caseId := by
  obtain ⟨c, member, rfl, filed⟩ := owns
  obtain ⟨c', stored, same⟩ := changes.case_kept member
  exact ⟨c', stored, congrArg Prod.fst same, same ▸ filed⟩

theorem ownsLink (changes : Changes merchant desk after) {part : String × String} (owns : OwnsLink merchant desk part) :
    OwnsLink merchant after part := by
  obtain ⟨c, member, id, filed, own, e, inside, key, theirs⟩ := owns
  obtain ⟨c', stored, same⟩ := changes.case_kept member
  obtain ⟨e', kept, part⟩ := changes.exceptions.kept inside
  exact ⟨c', stored, (congrArg Prod.fst same).trans id, same ▸ filed, (congrArg (·.2.1) same).trans own, e', kept,
    (congrArg Prod.fst part).trans key, (congrArg Prod.snd part).trans theirs⟩

theorem refl (merchant : String) (desk : Desk) : Changes merchant desk desk where
  cases := .refl ..
  recoveries := .refl ..
  events := .refl ..
  notes := .refl ..
  exceptions := .refl ..
  links := .refl ..
  named := id

theorem trans (first : Changes merchant desk middle) (second : Changes merchant middle after) : Changes merchant desk after where
  cases := first.cases.trans second.cases
  recoveries := (first.recoveries.mono fun _ => second.ownsCase).trans second.recoveries
  events := (first.events.mono fun _ => second.ownsCase).trans second.events
  notes := (first.notes.mono fun _ => second.ownsCase).trans second.notes
  exceptions := first.exceptions.trans second.exceptions
  links := (first.links.mono fun _ => second.ownsLink).trans second.links
  named := second.named ∘ first.named

/-! ### The writes -/

/-- Exceptions stay named when they are as they were and cases keep their parts. -/
theorem named_of_same (cases : Within casePart (Filed merchant) desk.cases after.cases) (same : after.exceptions = desk.exceptions)
    (named : Named desk) : Named after := by
  intro e member id names
  obtain ⟨c, stored, key, own⟩ := named e (same ▸ member) id names
  obtain ⟨c', kept, part⟩ := cases.kept stored
  exact ⟨c', kept, (congrArg Prod.fst part).trans key, (congrArg (·.2.1) part).trans own⟩

theorem of_cases (cases : Within casePart (Filed merchant) desk.cases after.cases) (recoveries : after.recoveries = desk.recoveries)
    (events : after.events = desk.events) (notes : after.notes = desk.notes) (exceptions : after.exceptions = desk.exceptions)
    (links : after.links = desk.links) : Changes merchant desk after where
  cases := cases
  recoveries := .of_eq recoveries
  events := .of_eq events
  notes := .of_eq notes
  exceptions := .of_eq exceptions
  links := .of_eq links
  named := named_of_same cases exceptions

theorem updateCase {caseId : String} {f : CaseRow → CaseRow}
    {fixed : ∀ c, (f c).id = c.id ∧ (f c).fingerprint = c.fingerprint ∧ (f c).caseNumber = c.caseNumber}
    (kept : ∀ c, casePart (f c) = casePart c) (owns : OwnsCase merchant desk caseId) :
    Changes merchant desk (desk.updateCase caseId f fixed) := by
  refine .of_cases (.update _ kept fun c member key => ?_) rfl rfl rfl rfl rfl
  obtain ⟨own, stored, id, filed⟩ := owns
  rwa [List.inj_on_of_nodup_map desk.caseIds member stored (key.trans id.symm)]

theorem touchCase {caseId : String} (now : Int) (owns : OwnsCase merchant desk caseId) :
    Changes merchant desk (desk.touchCase caseId now) := updateCase (fun _ => rfl) owns

theorem insertCase {row : CaseRow} {year : Nat} {numbered : row.caseNumber = nextCaseNumber (desk.cases.map (·.caseNumber)) year}
    (inserted : desk.insertCase row year numbered = .ok after) (filed : Filed merchant (casePart row)) :
    Changes merchant desk after ∧ OwnsCase merchant after row.id := by
  unfold Desk.insertCase at inserted
  split at inserted
  · cases inserted
    exact ⟨.of_cases (.snoc filed) rfl rfl rfl rfl rfl, row, List.mem_append_right _ List.mem_cons_self, rfl, filed⟩
  · cases inserted

theorem log {caseId : String} (eventType : String) (metadata : CaseMetadata) (owns : OwnsCase merchant desk caseId) :
    Changes merchant desk (desk.log caseId eventType metadata) :=
  { refl merchant desk with events := .snoc owns }

theorem addNote {item : CaseNote} (owns : OwnsCase merchant desk item.caseId) :
    Changes merchant desk { desk with notes := desk.notes ++ [item] } :=
  { refl merchant desk with notes := .snoc owns }

theorem ensureRecovery (keys : KeySource) (now : Int) {case : CaseRow} (owns : OwnsCase merchant desk case.id) :
    Changes merchant desk (Cases.ensureRecovery keys now desk case).2 := by
  rcases ensureRecovery_cases keys now desk case with ⟨r, _, same⟩ | ⟨absent, same⟩ <;> rw [same]
  · exact refl merchant desk
  · exact { refl merchant desk with recoveries := .snoc owns }

theorem updateRecovery {caseId : String} (f : RecoveryRecord → RecoveryRecord) (fixed : ∀ r, (f r).caseId = r.caseId)
    (owns : OwnsCase merchant desk caseId) : Changes merchant desk (desk.updateRecovery caseId f fixed) :=
  { refl merchant desk with recoveries := .update _ fixed fun _ _ key => key ▸ owns }

theorem link {caseId exceptionId : String} {stored : exceptionId ∈ desk.exceptions.map (·.id)}
    (owns : OwnsLink merchant desk (caseId, exceptionId)) : Changes merchant desk (desk.link caseId exceptionId stored) :=
  { refl merchant desk with links := .snoc owns }

theorem nameCase {caseId exceptionId : String} (named : desk.nameCase exceptionId caseId = .ok after)
    (owns : OwnsLink merchant desk (caseId, exceptionId)) : Changes merchant desk after := by
  obtain ⟨c, stored, id, _, own, e, inside, key, theirs⟩ := owns
  have unique {other : ReconciliationException} (member : other ∈ desk.exceptions) (same : other.id = exceptionId) : other = e :=
    List.inj_on_of_nodup_map desk.exceptionIds member inside (same.trans key.symm)
  unfold Desk.nameCase at named
  split at named
  · cases named
    refine { refl merchant desk with exceptions := .update _ (fun _ => rfl) fun other member same => ?_, links := .refl .., named := ?_ }
    · rw [unique member same]
      exact theirs
    · intro named other member wanted names
      rcases (KeyedRows.mem_update _ _).mp member with ⟨earlier, _⟩ | ⟨before, earlier, same, rfl⟩
      · exact named other earlier wanted names
      · obtain rfl : caseId = wanted := by
          simp only [ReconciliationException.naming, given, Option.filter_eq_some_iff, Option.some.injEq] at names
          exact names.1
        exact ⟨c, stored, id, own.trans (unique earlier same ▸ theirs).symm⟩
  · cases named

theorem insertException {keys : KeySource} {content : ExceptionContent}
    {new : content.fingerprint ∉ desk.exceptions.map (·.fingerprint)} (inserted : desk.insertException keys content new = .ok after)
    (own : content.merchantId = some merchant)
    (names : ∀ id, content.reconciliationCaseId = some id → ∃ c ∈ desk.cases, c.id = id ∧ c.merchantId = some merchant) :
    Changes merchant desk after := by
  simp only [Desk.insertException] at inserted
  split at inserted
  · cases inserted
    refine { refl merchant desk with exceptions := .snoc own, links := .refl .., named := fun named e member id wanted => ?_ }
    rcases List.mem_append.mp member with earlier | last
    · exact named e earlier id wanted
    · rw [List.mem_singleton.mp last] at wanted ⊢
      obtain ⟨c, stored, key, theirs⟩ := names id (Option.filter_eq_some_iff.mp wanted).1
      exact ⟨c, stored, key, theirs.trans own.symm⟩
  · cases inserted

theorem handleException {exceptionId : String} (status : String)
    (own : ∀ e ∈ desk.exceptions, e.id = exceptionId → e.merchantId = some merchant) :
    Changes merchant desk (handleException desk exceptionId status) := by
  refine { refl merchant desk with exceptions := .update _ (fun _ => rfl) own, links := .refl .., named := fun named e member id wanted => ?_ }
  rcases (KeyedRows.mem_update _ _).mp member with ⟨earlier, _⟩ | ⟨before, earlier, _, rfl⟩
  · exact named e earlier id wanted
  · exact named before earlier id wanted

end Changes

/-! ## Operations on a case -/

section Operations
variable [Platform] {keys : KeySource} {now : Int} {bank : List BankTransaction} {case : CaseRow}

omit [Platform] in
/-- Work on the recovery record of a case: the record is written, the case touched and an event logged. -/
theorem recovery_changes {f : RecoveryRecord → RecoveryRecord} {fixed : ∀ r, (f r).caseId = r.caseId} (eventType : String)
    (metadata : CaseMetadata) (owns : OwnsCase merchant desk case.id) :
    Changes merchant desk ((((ensureRecovery keys now desk case).2.updateRecovery case.id f fixed).touchCase case.id
      now).log case.id eventType metadata) := by
  have ensured : Changes merchant desk (ensureRecovery keys now desk case).2 := .ensureRecovery keys now owns
  have written := ensured.trans (.updateRecovery f fixed (ensured.ownsCase owns))
  have touched := written.trans (.touchCase now (written.ownsCase owns))
  exact touched.trans (.log eventType metadata (touched.ownsCase owns))

theorem verifyRecovery_changes (bankTransactionId : String) (note : Option String) (owns : OwnsCase merchant desk case.id) :
    Changes merchant desk (verifyRecovery keys now bank desk case bankTransactionId note).2 := by
  unfold verifyRecovery
  dsimp only
  split
  · exact .refl ..
  · split
    · exact .refl ..
    · split
      · have ensured : Changes merchant desk (ensureRecovery keys now desk case).2 := .ensureRecovery keys now owns
        exact ensured.trans (.updateRecovery (Cases.RecoveryRecord.unproven now _ note) (fun _ => rfl) (ensured.ownsCase owns))
      · split
        · exact .refl ..
        · exact recovery_changes _ _ owns

omit [Platform] in
theorem updateCase_changes {f : CaseRow → CaseRow}
    {fixed : ∀ c, (f c).id = c.id ∧ (f c).fingerprint = c.fingerprint ∧ (f c).caseNumber = c.caseNumber}
    (kept : ∀ c, casePart (f c) = casePart c) (eventType : String) (metadata : CaseMetadata)
    (owns : OwnsCase merchant desk case.id) :
    Changes merchant desk ((desk.updateCase case.id f fixed).log case.id eventType metadata) := by
  have written : Changes merchant desk (desk.updateCase case.id f fixed) := .updateCase kept owns
  exact written.trans (.log eventType metadata (written.ownsCase owns))

theorem resolve_changes {code note : Option String} (resolved : resolve keys now desk case code note = .ok after)
    (owns : OwnsCase merchant desk case.id) : Changes merchant desk after := by
  unfold resolve at resolved
  split at resolved
  · cases resolved
  · split at resolved
    · cases resolved
    · have ensured : Changes merchant desk (ensureRecovery keys now desk case).2 := .ensureRecovery keys now owns
      dsimp only at resolved
      split at resolved
      · cases resolved
      · cases resolved
        exact ensured.trans (updateCase_changes (by intro c; rfl) _ _ (ensured.ownsCase owns))

theorem transition_changes {target : String} {code note : Option String}
    (moved : transition keys now desk case target code note = .ok after) (owns : OwnsCase merchant desk case.id) :
    Changes merchant desk after := by
  unfold transition at moved
  split at moved
  · cases moved
  · split at moved
    · cases moved
    · split at moved
      · cases moved
      · split at moved
        · exact resolve_changes moved owns
        · cases moved
          exact updateCase_changes (by intro c; rfl) _ _ owns
        · cases moved
          exact updateCase_changes (by intro c; rfl) _ _ owns

omit [Platform] in
theorem attachException_changes {exceptionId : String} (attached : attachException now desk case exceptionId = .ok after)
    (owns : ∀ e, desk.exception? exceptionId = some e → OwnsLink merchant desk (case.id, e.id)) : Changes merchant desk after := by
  unfold attachException at attached
  split at attached
  · cases attached
  · next exception found =>
    split at attached
    · cases attached
    · obtain ⟨named, naming, attached⟩ := Outcome.bind_ok attached
      cases attached
      have owns := owns exception found
      have linked : Changes merchant desk (desk.link case.id exception.id (Desk.exception?_stored found)) := .link owns
      have kept : Changes merchant (desk.link case.id exception.id (Desk.exception?_stored found)) named := by
        unfold nameUnlessNamed at naming
        split at naming
        · exact .nameCase naming (linked.ownsLink owns)
        · cases naming
          exact .refl ..
      have both := linked.trans kept
      have own : OwnsCase merchant desk case.id := by
        obtain ⟨c, stored, id, filed, _⟩ := owns
        exact ⟨c, stored, id, filed⟩
      have logged := both.trans (.log "EXCEPTION_ATTACHED" [("exception_id", .text exception.id)] (both.ownsCase own))
      exact logged.trans (.touchCase now (logged.ownsCase own))

omit [Platform] in
theorem after_changes {call : Except CaseError Desk} (changes : ∀ after, call = .ok after → Changes merchant desk after) :
    Changes merchant desk (desk.after call) := by
  cases done : call with
  | error => exact .refl ..
  | ok after => exact changes after done

/-- An operation on a case of the merchant; an exception it attaches is of the merchant too. -/
theorem operate_changes {operation : CaseOperation} (owns : OwnsCase merchant desk case.id)
    (attaches : ∀ exceptionId, operation = .attachException exceptionId →
      ∀ e, desk.exception? exceptionId = some e → OwnsLink merchant desk (case.id, e.id)) :
    Changes merchant desk (operate keys now bank desk case operation) := by
  cases operation with
  | ensureRecovery => exact .ensureRecovery keys now owns
  | initiateRecovery request =>
    refine after_changes fun after done => ?_
    unfold initiateRecovery at done
    dsimp only at done
    split at done
    · cases done
    · split at done
      · cases done
      · cases done
        exact recovery_changes _ _ owns
  | verifyRecovery bankTransactionId note => exact verifyRecovery_changes bankTransactionId note owns
  | markUnrecoverable note =>
    refine after_changes fun after done => ?_
    unfold markUnrecoverable at done
    dsimp only at done
    split at done
    · cases done
    · cases done
      exact recovery_changes _ _ owns
  | transition target code note => exact after_changes fun after moved => transition_changes moved owns
  | assignCase assignedTo =>
    refine after_changes fun after done => ?_
    unfold assignCase at done
    dsimp only at done
    split at done
    · cases done
    · cases done
      exact updateCase_changes (by intro c; rfl) _ _ owns
  | addNote note authorReference =>
    refine after_changes fun after done => ?_
    unfold addNote at done
    split at done
    · cases done
    · cases done
      let item : CaseNote := ⟨keys.draw (desk.notes.map CaseNote.id), case.id, authorReference, strip note, now⟩
      have noted : Changes merchant desk { desk with notes := desk.notes ++ [item] } := .addNote owns
      have logged := noted.trans (.log "CASE_NOTE_ADDED" [("note_id", .text item.id)] (noted.ownsCase owns))
      exact logged.trans (.touchCase now (logged.ownsCase owns))
  | attachException exceptionId => exact after_changes fun after attached => attachException_changes attached (attaches exceptionId rfl)

/-! ## Opening a case -/

omit [Platform] in
theorem attachOpened_changes {caseId : String} {exception : Option ReconciliationException}
    (attached : attachOpened desk caseId exception = .ok after)
    (owns : ∀ e, exception = some e → OwnsLink merchant desk (caseId, e.id)) : Changes merchant desk after := by
  cases exception with
  | none =>
    cases attached
    exact .refl ..
  | some e =>
    simp only [attachOpened] at attached
    split at attached
    · next stored =>
      have owns := owns e rfl
      have linked : Changes merchant desk (desk.link caseId e.id stored) := .link owns
      have own : OwnsCase merchant desk caseId := by
        obtain ⟨c, member, id, filed, _⟩ := owns
        exact ⟨c, member, id, filed⟩
      have logged := linked.trans (.log "EXCEPTION_ATTACHED" [("exception_id", .text e.id)] (linked.ownsCase own))
      exact logged.trans (.nameCase attached (logged.ownsLink owns))
    · cases attached

/-- A case is opened for the merchant, and for an exception of the merchant. -/
theorem openCase_changes {settings : Settings} {args : CaseArguments} {exception : Option ReconciliationException} {row : CaseRow}
    {created : Bool} (made : openCase settings keys now desk args exception = .ok (row, created, after))
    (asked : args.merchantId = some merchant) (named : merchant ≠ "")
    (own : ∀ e, exception = some e → e ∈ desk.exceptions ∧ e.merchantId = some merchant) :
    Changes merchant desk after ∧ row.merchantId = some merchant ∧ row ∈ after.cases := by
  have opened := (openCase_opened made).cases
  unfold openCase at made
  split at made
  · cases made
  · obtain ⟨inserted, accepted, made⟩ := Outcome.bind_ok made
    obtain ⟨attached, attaching, made⟩ := Outcome.bind_ok made
    have given_merchant : given (some merchant) = some merchant := by simp [given, Option.filter, named]
    have mine : (Cases.newCase settings keys now desk args exception).merchantId = some merchant := by
      simp [Cases.newCase, asked, given_merchant]
    have filed : Filed merchant (casePart (Cases.newCase settings keys now desk args exception)) := by
      refine ⟨.inr mine, ?_⟩
      simp [casePart, CaseRow.metadataText, Cases.newCase, asked, given_merchant, CaseMetadata.getText, CaseMetadata.get]
    obtain ⟨first, owns⟩ := Changes.insertCase accepted filed
    obtain ⟨cases, _, exceptions, _⟩ := Desk.insertCase_ok accepted
    have ensured : Changes merchant inserted _ := .ensureRecovery keys now owns
    have recorded := ensured.trans (.log "CASE_CREATED" [] (ensured.ownsCase owns))
    have linked := recorded.trans (attachOpened_changes attaching fun e same => recorded.ownsLink ?_)
    · obtain ⟨last, stored⟩ : Changes merchant inserted after ∧ Cases.newCase settings keys now desk args exception = row := by
        cases made
        refine ⟨?_, rfl⟩
        split
        · exact linked.trans (.log _ _ (linked.ownsCase owns))
        · exact linked
      exact ⟨first.trans last, stored ▸ mine, opened ▸ List.mem_append_right _ List.mem_cons_self⟩
    · obtain ⟨member, theirs⟩ := own e same
      exact ⟨_, cases ▸ List.mem_append_right _ List.mem_cons_self, rfl, filed, mine, e, exceptions ▸ member, rfl, theirs⟩

/-- `create_case` for a merchant, and for an exception of the merchant; a case it finds is one
that the exception names. -/
theorem createCase_changes {settings : Settings} {args : CaseArguments} {row : CaseRow} {created : Bool}
    (made : Cases.createCase settings keys now desk args = .ok (row, created, after)) (asked : args.merchantId = some merchant)
    (named : merchant ≠ "") (names : Named desk)
    (own : ∀ id, given args.exceptionId = some id → ∀ e, desk.exception? id = some e → e.merchantId = some merchant) :
    Changes merchant desk after ∧ row.merchantId = some merchant ∧ row ∈ after.cases := by
  unfold Cases.createCase at made
  split at made
  · exact openCase_changes made asked named (by simp)
  · next id given =>
    split at made
    · cases made
    · next e found =>
      have theirs := own id given e found
      have member := ((desk.exception?_eq_some_iff id e).mp found).1
      split at made
      · next existing same =>
        obtain ⟨caseId, wanted, stored⟩ := Option.bind_eq_some_iff.mp same
        obtain ⟨c, inside, key, owner⟩ := names e member caseId wanted
        obtain ⟨kept, id⟩ := (desk.case?_eq_some_iff caseId existing).mp stored
        have mine : existing.merchantId = some merchant := by
          rw [List.inj_on_of_nodup_map desk.caseIds kept inside (id.trans key.symm), owner, theirs]
        cases made
        exact ⟨.refl .., mine, kept⟩
      · refine openCase_changes made asked named fun other same => ?_
        cases same
        exact ⟨member, theirs⟩

end Operations
/-! ## A reconciliation run -/

/-- A finding that is filed under the merchant, or under none, and whose metadata agrees. -/
def FiledRequest (merchant : String) (r : CaseRequest) : Prop :=
  (r.merchantId = none ∨ r.merchantId = some merchant) ∧ given (r.storedMetadata.getText "merchant_id") = given r.merchantId

section Recording
variable [Hashing] {settings : Settings} {keys : KeySource} {now : Int}

theorem recordCase_changes {r : CaseRequest} (recorded : recordCase settings keys now desk r = .ok after)
    (filed : FiledRequest merchant r) : Changes merchant desk after := by
  unfold recordCase at recorded
  dsimp only at recorded
  split at recorded
  · cases recorded
    exact .refl ..
  · obtain ⟨inserted, accepted, recorded⟩ := Outcome.bind_ok recorded
    obtain ⟨changes, owns⟩ := Changes.insertCase accepted filed
    cases recorded
    exact changes.trans (.log _ _ owns)

theorem recordCases_changes {requests : List CaseRequest} (recorded : requests.foldlM (recordCase settings keys now) desk = .ok after)
    (filed : ∀ r ∈ requests, FiledRequest merchant r) : Changes merchant desk after := by
  induction requests generalizing desk with
  | nil =>
    cases recorded
    exact .refl ..
  | cons r rest ih =>
    obtain ⟨middle, first, others⟩ := Outcome.foldlM_ok_cons recorded
    obtain ⟨own, rest⟩ := List.forall_mem_cons.mp filed
    exact (recordCase_changes first own).trans (ih others rest)

end Recording

section Generation
variable [Exceptions.ExceptionHashing] {settings : Settings} {keys : KeySource}
open Exceptions

/-- An exception of the merchant, which names a case of the merchant if any. -/
def OwnRequest (merchant : String) (desk : Desk) (r : ExceptionRequest) (settings : Settings) : Prop :=
  (r.content settings).merchantId = some merchant ∧ ∀ id, r.caseId = some id →
    ∃ c ∈ desk.cases, c.id = id ∧ Filed merchant (casePart c) ∧ c.merchantId = some merchant

theorem Changes.ownRequest (changes : Changes merchant desk after) {r : ExceptionRequest}
    (own : OwnRequest merchant desk r settings) : OwnRequest merchant after r settings := by
  refine ⟨own.1, fun id names => ?_⟩
  obtain ⟨c, member, key, filed, theirs⟩ := own.2 id names
  obtain ⟨c', stored, same⟩ := changes.case_kept member
  exact ⟨c', stored, (congrArg Prod.fst same).trans key, same ▸ filed, (congrArg (·.2.1) same).trans theirs⟩

theorem recordException_changes {r : ExceptionRequest} {new : (r.content settings).fingerprint ∉ desk.exceptions.map (·.fingerprint)}
    (recorded : recordException settings keys desk r new = .ok after) (own : OwnRequest merchant desk r settings) :
    Changes merchant desk after := by
  obtain ⟨stored, inserted, linked⟩ := Outcome.bind_ok recorded
  have first : Changes merchant desk stored := by
    refine .insertException inserted own.1 fun id names => ?_
    obtain ⟨c, member, key, _, theirs⟩ := own.2 id (by rwa [ExceptionRequest.content_reconciliationCaseId] at names)
    exact ⟨c, member, key, theirs⟩
  cases r with
  | duplicate batch recordType code externalId =>
    cases linked
    exact first
  | ofCase case =>
    simp only [linkRecorded] at linked
    split at linked
    · next added =>
      cases linked
      obtain ⟨c, member, key, filed, theirs⟩ := (first.ownRequest own).2 case.id rfl
      have owns : OwnsLink merchant stored (case.id, keys.draw (desk.exceptions.map (·.id))) := by
        refine ⟨c, member, key, filed, theirs, ?_⟩
        simp only [Desk.insertException] at inserted
        split at inserted
        · cases inserted
          exact ⟨_, List.mem_append_right _ List.mem_cons_self, rfl, own.1⟩
        · cases inserted
      have linked : Changes merchant stored (stored.link case.id _ added) := .link owns
      exact first.trans (linked.trans (.log _ _ (linked.ownsCase ⟨c, member, key, filed⟩)))
    · cases linked

theorem pass_changes {requests : List ExceptionRequest} {created : Nat}
    (done : (exceptionRegistry settings keys).putAll desk requests = .ok (after, created))
    (own : ∀ r ∈ requests, OwnRequest merchant desk r settings) : Changes merchant desk after := by
  have passed := Registry.putAll_relates (exceptionRegistry settings keys)
    (R := fun after added => (∀ r ∈ added, r ∈ requests) → Changes merchant desk after)
    (fun {s r absent s' added} before recorded listed => ?_) (fun _ => .refl ..) done
  · exact passed fun r new => (FirstByKey.firsts_sublist _ _ _).subset new
  · have changes := before fun other member => listed other (List.mem_append_left _ member)
    have inside := listed r (List.mem_append_right _ List.mem_cons_self)
    exact changes.trans (recordException_changes recorded (changes.ownRequest (own r inside)))

/-- The metadata of every case agrees with the merchant it is filed under. -/
def Agrees (desk : Desk) : Prop := ∀ c ∈ desk.cases, given (c.metadataText "merchant_id") = given c.merchantId

omit [ExceptionHashing] in
theorem Changes.agrees (changes : Changes merchant desk after) (agrees : Agrees desk) : Agrees after := by
  intro c member
  rcases changes.cases.origin member with ⟨c', earlier, same⟩ | filed
  · have owner : c'.merchantId = c.merchantId := congrArg (·.2.1) same
    have metadata : c'.metadataText "merchant_id" = c.metadataText "merchant_id" := congrArg (·.2.2) same
    rw [← owner, ← metadata]
    exact agrees c' earlier
  · exact filed.2

theorem generateExceptions_changes {batches : List IngestionBatch} {report : GenerationReport}
    (done : generateExceptions settings keys batches desk (some merchant) = .ok (report, after)) (named : merchant ≠ "")
    (agrees : Agrees desk) : Changes merchant desk after := by
  obtain ⟨⟨middle, ofBatches⟩, first, done⟩ := Outcome.bind_ok done
  obtain ⟨⟨last, ofCases⟩, second, done⟩ := Outcome.bind_ok done
  cases done
  have duplicates : Changes merchant desk middle := by
    refine pass_changes first fun r member => ⟨?_, fun id names => ?_⟩
    · obtain ⟨batch, listed, inside⟩ := List.mem_flatMap.mp member
      have counted := (List.mem_filter.mp listed).2
      rw [Bool.and_eq_true, beq_iff_eq] at counted
      unfold batchRequests at inside
      split at inside
      · cases inside
      · split at inside
        · cases inside
        · obtain ⟨externalId, _, rfl⟩ := List.mem_map.mp inside
          exact counted.2
    · rw [duplicateRequests_caseId member] at names
      cases names
  refine duplicates.trans (pass_changes second fun r member => ?_)
  obtain ⟨c, listed, rfl⟩ := List.mem_map.mp member
  obtain ⟨inside, owner⟩ := List.mem_filter.mp ((orderRows_perm _ _ _).subset listed)
  rw [scopeOf_some named, owned_some_iff] at owner
  have metadata := duplicates.agrees agrees c inside
  have given_merchant : given (some merchant) = some merchant := by simp [given, Option.filter, named]
  refine ⟨?_, fun id names => ⟨c, inside, Option.some.inj names, ⟨.inr owner, metadata⟩, owner⟩⟩
  rw [owner, given_merchant] at metadata
  exact (Option.filter_eq_some_iff.mp metadata).1

end Generation
/-! ## Whose findings -/

/-- No refund or settlement of a merchant is tied to a payment of another. -/
structure Untangled [Platform] (store : Store) : Prop where
  refunds : ∀ r ∈ store.refunds, ∀ merchant, r.merchantId = some merchant →
    ∀ p, linkedPayment store r.paymentId r.provider r.providerPaymentId = some p → p.merchantId = some merchant
  settlements : ∀ s ∈ store.settlements, ∀ merchant, s.merchantId = some merchant →
    ∀ p, store.getPayment s.paymentId = some p → p.merchantId = some merchant

/-- The metadata names no merchant itself. -/
def Untagged (metadata : CaseMetadata) : Prop := metadata.any (fun entry => entry.1 = "merchant_id") = false

theorem getText_setDefault {metadata : CaseMetadata} {key text : String}
    (absent : metadata.any (fun entry => entry.1 = key) = false) :
    (metadata.setDefault key (.text text)).getText key = some text := by
  have missing : metadata.find? (fun entry => entry.1 = key) = none := by
    rw [List.find?_eq_none]
    intro entry member
    simpa using List.any_eq_false.mp absent entry member
  simp [CaseMetadata.setDefault, absent, CaseMetadata.getText, CaseMetadata.get, List.find?_append, missing]

theorem untagged_setDefault {metadata : CaseMetadata} {key : String} (value : MetaValue) (differs : key ≠ "merchant_id")
    (untagged : Untagged metadata) : Untagged (metadata.setDefault key value) := by
  unfold CaseMetadata.setDefault
  split
  · exact untagged
  · simpa [Untagged, differs] using untagged

section Findings
variable [Platform] {order : SetOrder} {settings : Settings} {store : Store} {reviews : List PaymentReview}

omit [Platform] in
theorem filedRequest_unpaid {r : CaseRequest} (about : r.payment = none) (owner : r.merchantId = none ∨ r.merchantId = some merchant) :
    FiledRequest merchant r := ⟨owner, by simp only [CaseRequest.merchantId, about]⟩

omit [Platform] in
theorem filedRequest_paid {r : CaseRequest} {p : Payment} (about : r.payment = some p) (own : p.merchantId = some merchant)
    (untagged : Untagged r.metadata) : FiledRequest merchant r := by
  have owner : r.merchantId = some merchant := by simp only [CaseRequest.merchantId, about, own]
  refine ⟨.inr owner, ?_⟩
  simp only [CaseRequest.storedMetadata, about, own, MetaValue.ofOption]
  rw [getText_setDefault (untagged_setDefault _ (by decide) untagged), owner]

theorem reviewOf_requests_untagged {rules : ReconciliationRules} {indexes : PaymentIndexes} {p : Payment}
    {decision : MatchDecision} {tier : List Settlement} {review : PaymentReview}
    (done : reviewOf rules indexes p decision tier = .ok review) {r : CaseRequest}
    (reported : r ∈ review.findings.requests) : Untagged r.metadata := by
  have before : ∀ r ∈ (unmatchedFindings indexes p).requests, Untagged r.metadata := by
    intro r reported
    simp only [unmatchedFindings, Findings.requests_flatten, List.mem_flatMap, List.mem_cons, List.not_mem_nil, or_false,
      exists_eq_or_imp, exists_eq_left, duplicatePaymentFindings, paymentStatusFindings, missingRefundFindings,
      Findings.mem_requests_only, duplicateRefundFindings, List.mem_map, exists_exists_and_eq_and]
      at reported
    rcases reported with ⟨_, rfl⟩ | ⟨_, rfl⟩ | ⟨group, _, reported⟩ | ⟨_, rfl⟩
    · rfl
    · rfl
    · rcases group with _ | ⟨a, _ | ⟨b, rest⟩⟩
      · simp [duplicateRefundGroupFindings] at reported
      · simp [duplicateRefundGroupFindings] at reported
      · rw [duplicateRefundGroupFindings, List.mem_singleton] at reported
        rw [reported]
        rfl
    · rfl
  rcases tier with _ | ⟨s, _ | ⟨t, rest⟩⟩
  · cases done
    rcases List.mem_append.mp reported with reported | reported
    · exact before r reported
    · rw [List.mem_singleton.mp reported]
      rfl
  · obtain ⟨e, _, rfl⟩ := Outcome.map_ok done
    simp only [matchedReview, matchedFindings, Findings.requests_flatten, List.mem_flatMap, List.mem_cons,
      List.not_mem_nil, or_false, exists_eq_or_imp, exists_eq_left, settlementStatusFindings, currencyFindings,
      delayFindings, amountFindings, Findings.mem_requests_only, false_or] at reported
    rcases reported with reported | ⟨_, rfl⟩ | ⟨_, rfl⟩ | ⟨_, rfl⟩ | ⟨_, rfl⟩
    · exact before r reported
    all_goals rfl
  · cases done
    rcases List.mem_append.mp reported with reported | reported
    · exact before r reported
    · rw [List.mem_singleton.mp reported]
      rfl

theorem bankCase_filed {s : Settlement} {r : CaseRequest} (raises : RaisesBankCase order settings store (some merchant) s r)
    (own : s.merchantId = some merchant) (tied : ∀ p, store.getPayment s.paymentId = some p → p.merchantId = some merchant) :
    FiledRequest merchant r := by
  obtain ⟨about, owner⟩ := raises.merchantId_eq
  have mine : r.merchantId = some merchant := by
    rw [owner]
    split
    · next p paid => exact tied p paid
    · exact own
  refine ⟨.inr mine, ?_⟩
  rw [mine]
  cases paid : store.getPayment s.paymentId <;> cases raises <;>
    simp [bankMismatchCase, bankAmbiguousCase, RCAA.caseOf, paid, own, CaseRequest.storedMetadata, CaseMetadata.getText,
      CaseMetadata.get, CaseMetadata.setDefault, MetaValue.ofOption]

/-- A refund in the scope of a merchant is its own or linked to a payment of it. -/
theorem linkedPayment_own (named : merchant ≠ "") (untangled : Untangled store) {r : Refund} {p : Payment}
    (listed : r ∈ selectRefunds store (scopeOf (some merchant)))
    (linked : linkedPayment store r.paymentId r.provider r.providerPaymentId = some p) : p.merchantId = some merchant := by
  obtain ⟨stored, reach⟩ := (mem_selectRefunds store _ r).mp listed
  rw [scopeOf_some named] at reach
  simp only [ownedOrLinked, Bool.or_eq_true, beq_iff_eq, List.any_eq_true, Bool.and_eq_true] at reach
  rcases reach with own | ⟨q, member, own, tied⟩
  · exact untangled.refunds r stored merchant own p linked
  · have found := (store.getPayment_eq_some_iff r.paymentId q).mpr ⟨member, tied⟩
    simp only [linkedPayment, found, Option.some.injEq] at linked
    exact linked ▸ own

/-- What a run for a merchant reports is filed under the merchant or under none. -/
theorem reported_filed (named : merchant ≠ "") (untangled : Untangled store)
    (reviewed : reviewPayments order settings store (scopeOf (some merchant)) = .ok reviews) {r : CaseRequest}
    (reported : r ∈ (surveyOf order settings store (scopeOf (some merchant)) reviews).findings.requests) : FiledRequest merchant r := by
  rcases (mem_surveyOf_requests order settings store _ reviews r).mp reported with
    ⟨group, _, site⟩ | ⟨review, member, found⟩ | ⟨s, _, site⟩ | ⟨refund, listed, site⟩ | ⟨review, member, found⟩ | ⟨b, listed, site⟩
  · obtain ⟨_, first, _, rfl⟩ := duplicateSettlementFindings_cases.mp site
    exact filedRequest_unpaid rfl (.inl rfl)
  · obtain ⟨p, inside, done⟩ := Outcome.forall₂_right (reviewPayments_forall₂ reviewed) member
    have own := ((mem_selectPayments store _ p).mp inside).2
    rw [scopeOf_some named, owned_some_iff] at own
    exact filedRequest_paid (reviewOf_requests_payment done found).1 own (reviewOf_requests_untagged done found)
  · rw [(orphanSettlementFindings_cases.mp site).2.2]
    exact filedRequest_unpaid rfl (.inl rfl)
  · rcases (orphanRefundFindings_cases.mp site).2 with ⟨_, rfl⟩ | ⟨p, linked, _, rfl⟩
    · exact filedRequest_unpaid rfl (.inl rfl)
    · exact filedRequest_paid rfl (linkedPayment_own named untangled listed linked) rfl
  · obtain ⟨s, read, rfl⟩ := List.mem_map.mp member
    exact bankCase_filed ((mem_reportedInBankLeg_iff r).mp found) (owned_of_bankLeg named read)
      (untangled.settlements s ((mem_bankLegSettlements s).mp read).1 merchant (owned_of_bankLeg named read))
  · have own := ((mem_selectBank store _ b).mp listed).2
    rw [scopeOf_some named, owned_some_iff] at own
    rw [(unexplainedCreditFindings_cases.mp site).2]
    exact filedRequest_unpaid rfl (.inr ((unexplainedCreditCase_merchantId b).trans own))

end Findings

end RCAA.Api
