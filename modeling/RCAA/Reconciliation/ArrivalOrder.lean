import Mathlib
import RCAA.Ingestion.Arrivals
import RCAA.Reconciliation.PaymentsAlone

/-! Whether the order in which a merchant's records arrive shows in the cases of a run. The
merchant's refunds and settlements are in the scope of the run by their links alone, and a
link is made on arrival or never. -/

namespace RCAA

/-! ## Cases by the keys of their rows -/

/-- The key of the row with an identifier. -/
def Store.keyOf (store : Store) (id : Option String) : Option TableKey :=
  (store.rows.find? fun row => some row.id = id).map Record.key

/-- A case with the keys of the rows it names for their identifiers. -/
structure CaseView where
  content : CaseContent
  payment : Option TableKey
  record : Option TableKey
  matched : Option TableKey
deriving DecidableEq

def viewOf (store : Store) (content : CaseContent) : CaseView where
  content := content.withoutIds
  payment := store.keyOf content.paymentId
  record := store.keyOf content.recordId
  matched := store.keyOf content.matchedRecordId

theorem keyOf_payment {store : Store} {p : Payment} (stored : p ∈ store.payments) :
    store.keyOf (some p.id) = some (Record.payment p).key := by
  have found : store.payments.find? (fun q => q.id = p.id) = some p :=
    (KeyedRows.find?_eq_some_iff Payment.id store.paymentIds p.id p).mpr ⟨stored, rfl⟩
  have first : (store.payments.map Record.payment).find? (fun row => some row.id = some p.id) = some (.payment p) := by
    rw [List.find?_map]
    simpa only [Function.comp_def, Record.id, Option.some.injEq, Option.map_eq_some_iff, Record.payment.injEq,
      exists_eq_right] using found
  simp only [Store.keyOf, Store.rows, List.append_assoc, List.find?_append, first, Option.some_or, Option.map_some]

section Run
variable [Platform] [Hashing] {order : SetOrder} {settings : Settings} {draws : Nat → Draw} {store : Store} {merchant : String}

/-- The cases a run for the merchant raises; one that raises an error leaves none. -/
def raisedCases (order : SetOrder) (settings : Settings) (draws : Nat → Draw) (store : Store) (merchant : String) :
    Multiset CaseView :=
  match runReconciliation order settings draws store (some merchant) .empty with
  | .ok report => report.cases.contents.map (viewOf store)
  | .error _ => 0

theorem raisedCases_ok {report : Report} (ran : runReconciliation order settings draws store (some merchant) .empty = .ok report) :
    raisedCases order settings draws store merchant = (report.cases.contents.map (viewOf store) : List CaseView) := by
  rw [raisedCases, ran]

/-- Every case is one that some site of the run calls for. -/
theorem site_of_raised {view : CaseView} (raised : view ∈ raisedCases order settings draws store merchant) :
    ∃ record r, Site order settings store (some merchant) record r ∧ viewOf store r.content = view := by
  cases ran : runReconciliation order settings draws store (some merchant) .empty with
  | error e =>
    rw [raisedCases, ran] at raised
    exact absurd raised (Multiset.notMem_zero view)
  | ok report =>
    rw [raisedCases_ok ran, Multiset.mem_coe, (report_cases ran).1] at raised
    obtain ⟨content, stored, rfl⟩ := List.mem_map.mp raised
    obtain ⟨r, fresh, rfl⟩ := List.mem_map.mp stored
    obtain ⟨reviews, reviewed, found, _⟩ := runReconciliation_ok ran
    have reported := (FirstByKey.firsts_sublist _ _ _).subset fresh
    rw [found] at reported
    obtain ⟨record, site⟩ := (mem_requests_iff_site reviewed r).mp reported
    exact ⟨record, r, site, rfl⟩

/-- What a site of a finished run calls for is raised, under one fingerprint. -/
theorem raised_of_site (lossless : Function.Injective Hashing.digest) {report : Report}
    (ran : runReconciliation order settings draws store (some merchant) .empty = .ok report) {record : Record}
    {r : CaseRequest} (site : Site order settings store (some merchant) record r) :
    ∃ view ∈ raisedCases order settings draws store merchant, view.content.caseType = r.caseType.name := by
  obtain ⟨reviews, reviewed, found, _⟩ := runReconciliation_ok ran
  have reported : r ∈ report.survey.findings.requests := found ▸ (mem_requests_iff_site reviewed r).mpr ⟨record, site⟩
  have stored := (stored_after_iff ran r.content.fingerprint).mpr (.inr ⟨r, reported, rfl⟩)
  obtain ⟨c, member, same⟩ := List.mem_map.mp stored
  have inside : c.toCaseContent ∈ report.cases.contents := List.mem_map_of_mem member
  obtain ⟨other, _, content⟩ := List.mem_map.mp ((report_cases ran).1 ▸ inside)
  have payload : other.fingerprintPayload = r.fingerprintPayload := lossless ((congrArg CaseContent.fingerprint content).trans same)
  refine ⟨viewOf store c.toCaseContent, ?_, ?_⟩
  · rw [raisedCases_ok ran, Multiset.mem_coe]
    exact List.mem_map_of_mem inside
  · rw [← content]
    exact congrArg FingerprintPayload.caseType payload

/-! ## Payments alone -/

/-- The cases of a run over payments alone. -/
theorem raisedCases_alone (lossless : Function.Injective Hashing.digest) (named : merchant ≠ "")
    (alone : PaymentsAlone store (some merchant)) :
    raisedCases order settings draws store merchant =
      ((selectPayments store (some merchant)).flatMap fun p =>
        (reportedAlone (selectPayments store (some merchant)) p).map fun r =>
          CaseView.mk r.content.withoutIds (some (Record.payment p).key) (some (Record.payment p).key) none : List CaseView) := by
  have scope := scopeOf_some named
  obtain ⟨report, ran, contents⟩ :=
    @runReconciliation_alone _ _ lossless order settings draws store (some merchant) (by rw [scope]; exact alone)
  rw [scope] at contents
  rw [raisedCases_ok ran, contents, List.map_map, List.map_flatMap]
  refine congrArg _ (List.flatMap_congr fun p read => List.map_congr_left fun r reported => ?_)
  have about := reportedAlone_about reported
  have key := keyOf_payment ((mem_selectPayments store (some merchant) p).mp read).1
  simp only [Function.comp_apply, viewOf, CaseRequest.content, about.payment, about.recordId, about.matchedRecordId,
    Option.map_some, key]
  simp [Store.keyOf]

theorem raisedCases_congr (lossless : Function.Injective Hashing.digest) (named : merchant ≠ "") {other : Store}
    (alone : PaymentsAlone store (some merchant)) (alone' : PaymentsAlone other (some merchant))
    (same : SamePayments (selectPayments store (some merchant)) (selectPayments other (some merchant)))
    (order' : SetOrder) (draws' : Nat → Draw) :
    raisedCases order settings draws store merchant = raisedCases order' settings draws' other merchant := by
  rw [raisedCases_alone lossless named alone, raisedCases_alone lossless named alone', Multiset.coe_eq_coe]
  refine same.flatMap fun p q alike => ?_
  have contents := reportedAlone_congr same alike
  have key : (Record.payment p).key = (Record.payment q).key := by
    obtain ⟨id, batchId, rfl⟩ := alike.exists_ids
    rfl
  have views (payments : List Payment) (q : Payment) (key : TableKey) :
      (reportedAlone payments q).map (fun r => CaseView.mk r.content.withoutIds (some key) (some key) none) =
        ((reportedAlone payments q).map fun r => r.content.withoutIds).map fun content =>
          CaseView.mk content (some key) (some key) none := by
    rw [List.map_map]
    rfl
  rw [views, views, contents, key]

end Run

/-! ## Ingested stores -/

section Arrivals
variable [Runtime] {merchant : String} {records : List NormalizedRecord} {store : Store}

/-- The store that calls for the merchant leave when they read the records, in some order,
into an empty database. -/
def Ingested (merchant : String) (records : List NormalizedRecord) (store : Store) : Prop :=
  ∃ (arrived : List NormalizedRecord) (session : Session), arrived.Perm records ∧
    Delivered merchant ⟨{}, {}⟩ arrived session ∧ session.current.store = store

/-- The refund or settlement names the payment by its provider and external id. -/
def NormalizedRecord.NamesPayment (x r : NormalizedRecord) : Prop :=
  x.recordType.links = true ∧ r.recordType = .payment ∧
    (∃ provider, queried x.provider = .ok (some provider) ∧ queried r.provider = .ok (some provider)) ∧
    x.paymentReference = some r.externalId

/-- The row was made from the record while the payments stored were some of the store's. -/
def MadeWithin (store : Store) (record : NormalizedRecord) (row : Record) : Prop :=
  ∃ earlier : Store, earlier.payments ⊆ store.payments ∧ MadeIn earlier record row

theorem MadeWithin.key {record : NormalizedRecord} {row : Record} (made : MadeWithin store record row) :
    row.key = record.key := by
  obtain ⟨_, _, made⟩ := made
  exact made.key

theorem MadeWithin.payment {r : NormalizedRecord} {p : Payment} (made : MadeWithin store r (.payment p)) :
    r.recordType = .payment ∧ queried r.provider = .ok (some p.provider) ∧ r.externalId = p.providerPaymentId := by
  have key := made.key
  obtain ⟨table, owner⟩ := Prod.mk.inj key
  obtain ⟨provider, id⟩ := Prod.mk.inj owner
  have type : r.recordType = .payment := table.symm
  rw [type] at provider
  refine ⟨type, ?_, id.symm⟩
  cases read : queried r.provider with
  | error e => rw [read] at provider; cases provider
  | ok found => rw [read] at provider; exact congrArg Except.ok provider.symm

theorem MadeWithin.names_iff {x r : NormalizedRecord} {p : Payment} (made : MadeWithin store r (.payment p)) :
    x.NamesPayment r ↔ x.recordType.links = true ∧ x.Names p := by
  obtain ⟨type, provider, id⟩ := made.payment
  simp only [NormalizedRecord.NamesPayment, NormalizedRecord.Names, type, provider, id, Except.ok.injEq, Option.some.injEq,
    exists_eq_right', true_and]

theorem Ingested.made (ingested : Ingested merchant records store) (distinct : (records.map NormalizedRecord.key).Nodup) :
    ∃ rows, store.rows.Perm rows ∧ List.Forall₂ (MadeWithin store) records rows := by
  obtain ⟨arrived, session, moved, delivered, rfl⟩ := ingested
  obtain ⟨rows, grown, made⟩ := delivered.makes ((moved.map NormalizedRecord.key).nodup_iff.mpr distinct)
    fun _ _ => List.not_mem_nil
  have within : List.Forall₂ (MadeWithin session.current.store) arrived rows := by
    refine made.imp ?_
    rintro _ _ ⟨earlier, _, below, made⟩
    exact ⟨earlier, below, made⟩
  obtain ⟨rows', made', moved'⟩ := List.perm_comp_forall₂ moved.symm within
  exact ⟨rows', grown.trans moved'.symm, made'⟩

theorem Ingested.record (ingested : Ingested merchant records store) (distinct : (records.map NormalizedRecord.key).Nodup)
    {row : Record} (stored : row ∈ store.rows) : ∃ record ∈ records, MadeWithin store record row := by
  obtain ⟨rows, same, made⟩ := ingested.made distinct
  exact Outcome.forall₂_right made (same.mem_iff.mp stored)

theorem Ingested.row (ingested : Ingested merchant records store) (distinct : (records.map NormalizedRecord.key).Nodup)
    {record : NormalizedRecord} (member : record ∈ records) : ∃ row ∈ store.rows, MadeWithin store record row := by
  obtain ⟨rows, same, made⟩ := ingested.made distinct
  obtain ⟨row, listed, this⟩ := Outcome.forall₂_left made member
  exact ⟨row, same.mem_iff.mpr listed, this⟩

/-- A link is to a payment that the record of the row names. -/
theorem Ingested.linked (ingested : Ingested merchant records store) (distinct : (records.map NormalizedRecord.key).Nodup)
    {row : Record} (stored : row ∈ store.rows) {id : String} (linked : row.paymentId = some id) :
    ∃ x ∈ records, ∃ r ∈ records, x.recordType = row.key.1 ∧ x.NamesPayment r := by
  obtain ⟨x, member, made⟩ := ingested.record distinct stored
  have type : x.recordType = row.key.1 := congrArg Prod.fst made.key.symm
  have links : x.recordType.links = true := by
    rw [type]
    cases row with
    | refund | settlement => rfl
    | payment | bank => cases linked
  obtain ⟨earlier, below, madeIn⟩ := made
  obtain ⟨p, inside, names, _⟩ := (madeIn.linked links id).mp linked
  obtain ⟨r, member', made'⟩ := ingested.record distinct (Store.payment_mem_rows.mpr (below inside))
  exact ⟨x, member, r, member', type, made'.names_iff.mpr ⟨links, names⟩⟩

/-- Nobody owns a refund or a settlement: a run reads it by its link or not at all. -/
theorem Ingested.unowned (ingested : Ingested merchant records store) (distinct : (records.map NormalizedRecord.key).Nodup)
    {row : Record} (stored : row ∈ store.rows) (links : row.key.1.links = true) :
    row.merchantId = none := by
  obtain ⟨x, member, made⟩ := ingested.record distinct stored
  have type : x.recordType = row.key.1 := congrArg Prod.fst made.key.symm
  obtain ⟨_, _, madeIn⟩ := made
  have taken := madeIn.built.merchant
  rw [type] at taken
  cases row with
  | refund | settlement => exact taken
  | payment | bank => cases links

section Valid
variable (ingested : Ingested merchant records store) (distinct : (records.map NormalizedRecord.key).Nodup)
  (valid : ∀ record ∈ records, record.Valid merchant)
include ingested distinct valid

theorem Ingested.owner {p : Payment} (stored : p ∈ store.payments) : p.merchantId = some merchant := by
  obtain ⟨r, member, made⟩ := ingested.record distinct (Store.payment_mem_rows.mpr stored)
  have type := made.payment.1
  obtain ⟨_, _, madeIn⟩ := made
  have taken := madeIn.built.merchant
  rw [type] at taken
  exact (Except.ok.inj ((valid r member).owner.symm.trans taken)).symm

theorem Ingested.scope_iff {row : Record} (stored : row ∈ store.rows) (links : row.key.1.links = true) :
    ownedOrLinked store (some merchant) row.merchantId row.paymentId = true ↔
      ∃ p ∈ store.payments, row.paymentId = some p.id := by
  rw [ownedOrLinked_some_iff, ingested.unowned distinct stored links]
  simp only [reduceCtorEq, false_or]
  exact exists_congr fun p => and_congr_right fun inside => and_iff_right (ingested.owner distinct valid inside)

theorem Ingested.selectBank_nil : selectBank store (some merchant) = [] := by
  rw [List.eq_nil_iff_forall_not_mem]
  intro b read
  obtain ⟨record, member, made⟩ := ingested.record distinct
    (Store.bank_mem_rows.mpr ((mem_selectBank store (some merchant) b).mp read).1)
  exact (valid record member).financial (congrArg Prod.fst made.key.symm)

theorem Ingested.selectSettlements_nil (unlinked : ∀ s ∈ store.settlements, s.paymentId = none) :
    selectSettlements store (some merchant) = [] := by
  rw [List.eq_nil_iff_forall_not_mem]
  intro s read
  obtain ⟨stored, inScope⟩ := (mem_selectSettlements store (some merchant) s).mp read
  obtain ⟨p, _, linked⟩ := (ingested.scope_iff distinct valid (Store.settlement_mem_rows.mpr stored) rfl).mp inScope
  cases (unlinked s stored).symm.trans linked

theorem Ingested.alone (unlinked : ∀ row ∈ store.rows, row.paymentId = none) : PaymentsAlone store (some merchant) := by
  refine ⟨?_, ingested.selectSettlements_nil distinct valid fun s stored => unlinked _ (Store.settlement_mem_rows.mpr stored),
    ingested.selectBank_nil distinct valid⟩
  rw [List.eq_nil_iff_forall_not_mem]
  intro x read
  obtain ⟨stored, inScope⟩ := (mem_selectRefunds store (some merchant) x).mp read
  obtain ⟨p, _, linked⟩ := (ingested.scope_iff distinct valid (Store.refund_mem_rows.mpr stored) rfl).mp inScope
  cases (unlinked _ (Store.refund_mem_rows.mpr stored)).symm.trans linked

theorem Ingested.selectPayments_perm : (selectPayments store (some merchant)).Perm store.payments := by
  have every : store.payments.filter (fun p => owned (some merchant) p.merchantId) = store.payments :=
    List.filter_eq_self.mpr fun p stored => owned_some_iff.mpr (ingested.owner distinct valid stored)
  exact every ▸ orderRows_perm Payment.createdAt Payment.id _

end Valid

/-! ## The payments of two orders -/

def Record.payment? : Record → Option Payment
  | .payment p => some p
  | _ => none

omit [Runtime] in
theorem filterMap_payment? (store : Store) : store.rows.filterMap Record.payment? = store.payments := by
  simp only [Store.rows, List.filterMap_append, List.filterMap_map]
  have payments : store.payments.filterMap (Record.payment? ∘ Record.payment) = store.payments := List.filterMap_some
  have refunds : store.refunds.filterMap (Record.payment? ∘ Record.refund) = [] := by simp [Function.comp_def, Record.payment?]
  have settlements : store.settlements.filterMap (Record.payment? ∘ Record.settlement) = [] := by
    simp [Function.comp_def, Record.payment?]
  have bank : store.bankTransactions.filterMap (Record.payment? ∘ Record.bank) = [] := by simp [Function.comp_def, Record.payment?]
  rw [payments, refunds, settlements, bank, List.append_nil, List.append_nil, List.append_nil]

theorem MadeWithin.alike {other : Store} {record : NormalizedRecord} {row again : Record} (made : MadeWithin store record row)
    (made' : MadeWithin other record again) : Option.Rel Payment.Alike row.payment? again.payment? := by
  have key := made.key
  have key' := made'.key
  obtain ⟨_, _, one⟩ := made
  obtain ⟨_, _, two⟩ := made'
  have tables : row.key.1 = again.key.1 := by rw [key, key']
  cases row with
  | payment p =>
    cases again with
    | payment q => exact .some (one.withoutIds two (by rw [show record.recordType = .payment from congrArg Prod.fst key.symm]; rfl))
    | refund | settlement | bank => cases tables
  | refund | settlement | bank =>
    cases again with
    | payment q => cases tables
    | refund | settlement | bank => exact .none

omit [Runtime] in
theorem SamePayments.of_perm {payments others moved moved' : List Payment} (same : SamePayments payments others)
    (left : moved.Perm payments) (right : others.Perm moved') : SamePayments moved moved' := by
  obtain ⟨paired, alike, whole⟩ := same
  obtain ⟨paired', alike', whole'⟩ := List.perm_comp_forall₂ left alike
  exact ⟨paired', alike', whole'.trans (whole.trans right)⟩

theorem Ingested.samePayments {other : Store} (ingested : Ingested merchant records store)
    (ingested' : Ingested merchant records other) (distinct : (records.map NormalizedRecord.key).Nodup) :
    SamePayments store.payments other.payments := by
  obtain ⟨rows, same, made⟩ := ingested.made distinct
  obtain ⟨rows', same', made'⟩ := ingested'.made distinct
  have alike : List.Forall₂ Payment.Alike (rows.filterMap Record.payment?) (rows'.filterMap Record.payment?) := by
    refine List.rel_filterMap (R := fun row row' => ∃ record, MadeWithin store record row ∧ MadeWithin other record row') ?_
      (Outcome.forall₂_common made made')
    rintro row row' ⟨record, one, two⟩
    exact one.alike two
  rw [← filterMap_payment? store, ← filterMap_payment? other]
  exact SamePayments.of_perm ⟨_, alike, List.Perm.refl _⟩ (same.filterMap _) (same'.filterMap _).symm

/-! ## Two orders -/

theorem exists_ingested {first second : List NormalizedRecord} (valid : ∀ record ∈ records, record.Valid merchant)
    (distinct : (records.map NormalizedRecord.key).Nodup) (parts : (first ++ second).Perm records) :
    ∃ middle after : Store, Ingested merchant records after ∧ ∃ rows later,
      middle.rows.Perm rows ∧ after.rows.Perm (rows ++ later) ∧ List.Forall₂ (MadeWithin middle) first rows ∧
      List.Forall₂ (fun record row => ∃ earlier : Store, middle.payments ⊆ earlier.payments ∧
        earlier.payments ⊆ after.payments ∧ MadeIn earlier record row) second later := by
  obtain ⟨middle, after, delivered, rows, later, grown, grownLater, made, madeLater⟩ :=
    exists_two_phases (fun record member => valid record (parts.mem_iff.mp member))
      ((parts.map NormalizedRecord.key).nodup_iff.mpr distinct)
  exact ⟨middle.current.store, after.current.store, ⟨_, after, parts, delivered, rfl⟩, rows, later, grown, grownLater, made, madeLater⟩

/-- When the payments arrive first, every refund and settlement is linked to the payment it names. -/
theorem exists_linked (valid : ∀ record ∈ records, record.Valid merchant) (distinct : (records.map NormalizedRecord.key).Nodup) :
    ∃ store, Ingested merchant records store ∧ ∀ x ∈ records, ∀ r ∈ records, x.NamesPayment r →
      ∃ p row, MadeWithin store r (.payment p) ∧ p ∈ store.payments ∧ MadeWithin store x row ∧ row ∈ store.rows ∧
        row.paymentId = some p.id := by
  obtain ⟨middle, after, ingested, rows, later, grown, grownLater, made, madeLater⟩ :=
    exists_ingested valid distinct (List.filter_append_perm (fun record => record.recordType = .payment) records)
  have below := payments_subset_of_perm (a := middle) (grownLater.trans (grown.symm.append_right later))
  refine ⟨after, ingested, fun x member r member' names => ?_⟩
  have ⟨links, type, _⟩ := names
  obtain ⟨row, listed, earlier, within, madeIn⟩ :=
    Outcome.forall₂_left made (List.mem_filter.mpr ⟨member', decide_eq_true type⟩)
  have other : x.recordType ≠ .payment := by
    intro payment
    rw [payment] at links
    cases links
  obtain ⟨linking, listed', earlier', above, within', madeIn'⟩ :=
    Outcome.forall₂_left madeLater (List.mem_filter.mpr ⟨member, by simpa using other⟩)
  have table : row.key.1 = .payment := (congrArg Prod.fst madeIn.key).trans type
  cases row with
  | refund | settlement | bank => cases table
  | payment p =>
    have stored : p ∈ middle.payments := Store.payment_mem_rows.mp (grown.mem_iff.mpr listed)
    have made' : MadeWithin after r (.payment p) := ⟨earlier, List.Subset.trans within below, madeIn⟩
    refine ⟨p, linking, made', below stored, ⟨earlier', within', madeIn'⟩, grownLater.mem_iff.mpr (List.mem_append_right _ listed'), ?_⟩
    exact (madeIn'.linked links p.id).mpr ⟨p, above stored, (made'.names_iff.mp names).2, rfl⟩

/-- When the payments arrive last, no refund and no settlement is linked. -/
theorem exists_unlinked (valid : ∀ record ∈ records, record.Valid merchant) (distinct : (records.map NormalizedRecord.key).Nodup) :
    ∃ store, Ingested merchant records store ∧ ∀ row ∈ store.rows, row.paymentId = none := by
  obtain ⟨middle, after, ingested, rows, later, grown, grownLater, made, madeLater⟩ :=
    exists_ingested valid distinct (List.filter_append_perm (fun record => record.recordType ≠ .payment) records)
  have nothing : middle.payments = [] := by
    rw [List.eq_nil_iff_forall_not_mem]
    intro p stored
    obtain ⟨record, member, made⟩ := Outcome.forall₂_right made (grown.mem_iff.mp (Store.payment_mem_rows.mpr stored))
    exact of_decide_eq_true (List.mem_filter.mp member).2 made.payment.1
  refine ⟨after, ingested, fun row stored => ?_⟩
  rcases List.mem_append.mp (grownLater.mem_iff.mp stored) with early | late
  · obtain ⟨record, _, earlier, within, madeIn⟩ := Outcome.forall₂_right made early
    rw [Option.eq_none_iff_forall_ne_some]
    intro id linked
    have links : record.recordType.links = true := by
      rw [show record.recordType = row.key.1 from congrArg Prod.fst madeIn.key.symm]
      cases row with
      | refund | settlement => rfl
      | payment | bank => cases linked
    obtain ⟨p, inside, _⟩ := (madeIn.linked links id).mp linked
    exact List.not_mem_nil (nothing ▸ within inside)
  · obtain ⟨record, member, _, _, _, madeIn⟩ := Outcome.forall₂_right madeLater late
    have type : record.recordType = .payment := by simpa using (List.mem_filter.mp member).2
    have table : row.key.1 = .payment := (congrArg Prod.fst madeIn.key).trans type
    cases row with
    | payment p => rfl
    | refund | settlement | bank => cases table

/-! ## When the order does not show -/

/-- What the documentation says of stripped and lower-cased text. -/
structure LawfulText [Platform] : Prop where
  strip_strip : ∀ text, strip (strip text) = strip text
  lower_named : ∀ text, text ≠ "" → lower text ≠ ""

/-- The matcher has a key for every payment that normalizing returns. -/
theorem NormalizedRecord.Valid.paymentIdKey {r : NormalizedRecord} (lawful : LawfulText) (valid : r.Valid merchant)
    (type : r.recordType = .payment) : ∃ key, RCAA.paymentIdKey r.externalId = some key := by
  obtain ⟨data, source, provider, received, read⟩ := valid.read
  rw [type] at read
  obtain ⟨externalId, text, read⟩ := Outcome.bind_ok read
  obtain ⟨terms, _, read⟩ := Outcome.bind_ok read
  cases read
  have named := requiredText_named text
  have stripped : strip externalId = externalId := by
    rw [requiredText_ok text]
    exact lawful.strip_strip _
  have normalized : normalize (.str externalId) = some (lower externalId) := by
    simp only [normalize, Scalar.text, stripped, if_neg named]
  exact ⟨lower externalId, by simp [RCAA.paymentIdKey, normalized, Option.filter, lawful.lower_named externalId named]⟩

section Run
variable [Hashing] {order : SetOrder} {settings : Settings} {draws : Nat → Draw}

/-- Whatever the order in which the records arrive, the run for the merchant raises the same cases. -/
def OrderIndependent (settings : Settings) (merchant : String) (records : List NormalizedRecord) : Prop :=
  ∀ (order order' : SetOrder) (draws draws' : Nat → Draw) (store other : Store),
    Ingested merchant records store → Ingested merchant records other →
      raisedCases order settings draws store merchant = raisedCases order' settings draws' other merchant

omit [Hashing] in
theorem Site.of_unsettled {store : Store} {merchantId : Option String} {a : Record} {r : CaseRequest}
    (site : Site order settings store merchantId a r) (kind : r.caseType = .paymentWithoutSettlement) :
    ∃ p, r.payment = some p ∧ p ∈ store.payments ∧ runTier settings store merchantId p = [] := by
  cases site with
  | @payment p _ read found =>
    have payment := found.about.1.payment
    rcases found with (found | found | found) | ⟨none, _⟩ | ⟨_, found⟩
    · obtain ⟨_, found⟩ := Findings.mem_requests_only.mp found
      rw [List.mem_singleton.mp found] at kind
      cases kind
    · obtain ⟨_, found⟩ := Findings.mem_requests_only.mp found
      rw [List.mem_singleton.mp found] at kind
      cases kind
    · obtain ⟨_, found⟩ := Findings.mem_requests_only.mp found
      rw [List.mem_singleton.mp found] at kind
      cases kind
    · exact ⟨p, payment, ((mem_selectPayments store _ p).mp read).1, none⟩
    · rw [List.mem_singleton.mp found] at kind
      cases kind
  | duplicateRefund _ _ first found => cases kind.symm.trans (duplicateRefundGroupFindings_about first found).2.2.1
  | matched _ _ _ found => exact absurd (matchedFindings_about found).2.2 (by rw [kind]; decide)
  | _ => cases kind

omit [Hashing] in
/-- A payment with a settlement of its own in scope does not go without one. -/
theorem runTier_ne_nil {merchantId : Option String} {p : Payment} {s : Settlement} {key : String}
    (read : s ∈ selectSettlements store (scopeOf merchantId)) (provider : s.provider = p.provider)
    (id : s.providerPaymentId = p.providerPaymentId) (named : paymentIdKey p.providerPaymentId = some key) :
    runTier settings store merchantId p ≠ [] := by
  intro none
  rw [runTier, decidingTier, Tiers.deciding_eq_nil_iff] at none
  have first : s ∈ ([] : List Settlement) := by
    rw [← none _ List.mem_cons_self]
    simp only [List.mem_filter, decide_eq_true_eq, provider, id, named, Option.mem_some_iff, exists_eq_left', and_true]
    exact read
  cases first

omit [Hashing] in
/-- A settlement that names a payment has its provider and its id. -/
theorem MadeWithin.settlement {store : Store} {x : NormalizedRecord} {row : Record} {p : Payment} (made : MadeWithin store x row)
    (type : x.recordType = .settlement) (names : x.Names p) :
    ∃ s, row = .settlement s ∧ s.provider = p.provider ∧ s.providerPaymentId = p.providerPaymentId := by
  obtain ⟨_, _, made⟩ := made
  obtain ⟨_, _, _, _, _, built⟩ := made.made
  obtain ⟨asked, reference⟩ := names
  obtain ⟨s, rfl, kept⟩ := rowOf_settlement type built
  have paid := kept.paid
  rw [reference] at paid
  refine ⟨s, rfl, ?_, (Except.ok.inj paid).symm⟩
  exact (Option.some.inj (Except.ok.inj ((column_of_queried asked).symm.trans (column_of_required kept.provider)))).symm

section Shows
variable (lossless : Function.Injective Hashing.digest) (named : merchant ≠ "")
  (valid : ∀ record ∈ records, record.Valid merchant) (distinct : (records.map NormalizedRecord.key).Nodup)
  {x r : NormalizedRecord} (member : x ∈ records) (member' : r ∈ records) (names : x.NamesPayment r)
include lossless named valid distinct member member' names

/-- The payment a settlement names has no settlement when the settlement is not linked, and
has one when it is. -/
theorem settlement_shows (lawful : LawfulText) (type : x.recordType = .settlement) :
    ¬OrderIndependent settings merchant records := by
  intro same
  have scope := scopeOf_some named
  obtain ⟨first, ingested, linked⟩ := exists_linked valid distinct
  obtain ⟨last, ingested', unlinked⟩ := exists_unlinked valid distinct
  obtain ⟨p, row, madeP, storedP, madeX, storedX, link⟩ := linked x member r member' names
  obtain ⟨rowQ, storedQ, madeQ⟩ := ingested'.row distinct member'
  have keys : rowQ.key = (Record.payment p).key := madeQ.key.trans madeP.key.symm
  have tableQ : rowQ.key.1 = .payment := congrArg Prod.fst keys
  cases rowQ with
  | refund | settlement | bank => cases tableQ
  | payment q =>
    -- The run after the payments arrive last reports the payment without a settlement.
    have read : q ∈ selectPayments last (some merchant) :=
      (ingested'.selectPayments_perm distinct valid).mem_iff.mpr (Store.payment_mem_rows.mp storedQ)
    have reported : (unsettledFindings q nothingToMatch).requests ⊆ reportedAlone (selectPayments last (some merchant)) q :=
      List.subset_append_right _ _
    let request : CaseRequest :=
      { caseOf q (.payment q) .paymentWithoutSettlement "PAYMENT_NOT_SETTLED" q.amount .zero
          "No unique settlement was found for the payment." with }
    have raised : CaseView.mk request.content.withoutIds (some (Record.payment q).key) (some (Record.payment q).key) none ∈
        raisedCases .insertion settings (fun _ => ⟨"", 0⟩) last merchant := by
      rw [raisedCases_alone lossless named (ingested'.alone distinct valid unlinked), Multiset.mem_coe, List.mem_flatMap]
      exact ⟨q, read, List.mem_map.mpr ⟨request, reported (List.mem_singleton.mpr rfl), rfl⟩⟩
    rw [← same .insertion .insertion (fun _ => ⟨"", 0⟩) (fun _ => ⟨"", 0⟩) first last ingested ingested'] at raised
    -- The run after the payments arrive first would have to report it too.
    obtain ⟨record, r', site, view⟩ := site_of_raised raised
    have kind : r'.caseType = .paymentWithoutSettlement :=
      CaseType.name_injective (congrArg (fun view : CaseView => view.content.caseType) view)
    obtain ⟨p', payment, stored', tier⟩ := site.of_unsettled kind
    have key := congrArg CaseView.payment view
    simp only [viewOf, CaseRequest.content, payment, Option.map_some, keyOf_payment stored', Option.some.injEq, keys] at key
    have one : p' = p := by
      obtain ⟨provider, id⟩ := Prod.mk.inj (Prod.mk.inj key).2
      exact List.inj_on_of_nodup_map first.paymentProviderIds stored' storedP (Prod.ext (Option.some.inj provider) id)
    subst one
    obtain ⟨links, namesP⟩ := madeP.names_iff.mp names
    obtain ⟨s, rfl, provider, id⟩ := madeX.settlement type namesP
    have inScope := (ingested.scope_iff distinct valid storedX (by rw [madeX.key]; exact links)).mpr ⟨p', stored', link⟩
    obtain ⟨_, known⟩ := (valid r member').paymentIdKey lawful madeP.payment.1
    rw [madeP.payment.2.2] at known
    refine runTier_ne_nil (s := s) ?_ provider id known tier
    rw [scope]
    exact (mem_selectSettlements first (some merchant) s).mpr ⟨Store.settlement_mem_rows.mp storedX, inScope⟩

/-- A refund of a payment without a settlement is reported when it is linked, and is not
read when it is not. -/
theorem refund_shows (type : x.recordType = .refund)
    (unsettled : ∀ s ∈ records, s.recordType = .settlement → ∀ r ∈ records, ¬s.NamesPayment r) :
    ¬OrderIndependent settings merchant records := by
  intro same
  have scope := scopeOf_some named
  obtain ⟨first, ingested, linked⟩ := exists_linked valid distinct
  obtain ⟨last, ingested', unlinked⟩ := exists_unlinked valid distinct
  obtain ⟨p, row, madeP, storedP, madeX, storedX, link⟩ := linked x member r member' names
  have table : row.key.1 = .refund := (congrArg Prod.fst madeX.key).trans type
  cases row with
  | payment | settlement | bank => cases table
  | refund y =>
    have none : selectSettlements first (scopeOf (some merchant)) = [] := by
      rw [scope]
      refine ingested.selectSettlements_nil distinct valid fun s stored => ?_
      rw [Option.eq_none_iff_forall_ne_some]
      intro id linked
      obtain ⟨x', inside, r', inside', type', names'⟩ := ingested.linked distinct (Store.settlement_mem_rows.mpr stored) linked
      exact unsettled x' inside type' r' inside' names'
    have unmatched : ∀ p s, decidingTier settings.rules p (selectSettlements first (scopeOf (some merchant))) ≠ [s] := by
      intro p s tier
      have listed := (mem_decidingTier (tier ▸ List.mem_cons_self)).1
      rw [none] at listed
      cases listed
    obtain ⟨report, ran⟩ := (runReconciliation_isOk_iff .insertion settings (fun _ => ⟨"", 0⟩) first (some merchant) .empty).mpr
      fun p _ s tier => absurd tier (unmatched p s)
    have stored : y ∈ first.refunds := Store.refund_mem_rows.mp storedX
    have read : y ∈ selectRefunds first (scopeOf (some merchant)) := by
      rw [scope]
      exact (mem_selectRefunds first (some merchant) y).mpr
        ⟨stored, (ingested.scope_iff distinct valid storedX rfl).mpr ⟨p, storedP, link⟩⟩
    have payment : linkedPayment first y.paymentId y.provider y.providerPaymentId = some p := by
      rw [linkedPayment, (first.getPayment_eq_some_iff y.paymentId p).mpr ⟨storedP, link⟩]
    have site : Site .insertion settings first (some merchant) (.refund y) (unsettledRefundCase p y) := by
      refine .unsettledRefund read (fun p _ _ s alone => ?_) payment (by rw [runIndexes, none]; rfl)
      exact unmatched p s ((decidingTier_eq_singleton_iff settings first (some merchant) p s).mpr alone)
    obtain ⟨view, raised, kind⟩ := raised_of_site lossless ran site
    rw [same .insertion .insertion (fun _ => ⟨"", 0⟩) (fun _ => ⟨"", 0⟩) first last ingested ingested',
      raisedCases_alone lossless named (ingested'.alone distinct valid unlinked), Multiset.mem_coe, List.mem_flatMap] at raised
    obtain ⟨q, _, raised⟩ := raised
    obtain ⟨r', reported, rfl⟩ := List.mem_map.mp raised
    have kinds := (reportedAlone_kinds _ q).subset (List.mem_map_of_mem reported)
    rw [CaseType.name_injective kind] at kinds
    simp [unsettledRefundCase, caseOf] at kinds

/-- A refund or settlement that names a payment makes the order of arrival show. -/
theorem order_shows (lawful : LawfulText) : ¬OrderIndependent settings merchant records := by
  by_cases settled : ∃ s ∈ records, s.recordType = .settlement ∧ ∃ r ∈ records, s.NamesPayment r
  · obtain ⟨s, inside, type, r', inside', names'⟩ := settled
    exact settlement_shows lossless named valid distinct inside inside' names' lawful type
  · have unsettled : ∀ s ∈ records, s.recordType = .settlement → ∀ r ∈ records, ¬s.NamesPayment r :=
      fun s inside type r inside' names' => settled ⟨s, inside, type, r, inside', names'⟩
    have type : x.recordType = .refund := by
      have links := names.1
      cases type : x.recordType with
      | refund => rfl
      | settlement => exact absurd names (unsettled x member type r member')
      | payment | bankTransaction =>
        rw [type] at links
        cases links
    exact refund_shows lossless named valid distinct member member' names type unsettled

end Shows

/-- The order in which records arrive does not show in the cases of a run exactly when no
refund and no settlement among them names a payment among them. -/
theorem order_independent_iff (lossless : Function.Injective Hashing.digest) (lawful : LawfulText) (settings : Settings)
    (named : merchant ≠ "") (valid : ∀ record ∈ records, record.Valid merchant)
    (distinct : (records.map NormalizedRecord.key).Nodup) :
    OrderIndependent settings merchant records ↔ ∀ x ∈ records, ∀ r ∈ records, ¬x.NamesPayment r := by
  constructor
  · exact fun same x member r member' names => order_shows lossless named valid distinct member member' names lawful same
  · intro apart order order' draws draws' store other ingested ingested'
    have unlinked {store : Store} (ingested : Ingested merchant records store) : ∀ row ∈ store.rows, row.paymentId = none := by
      intro row stored
      rw [Option.eq_none_iff_forall_ne_some]
      intro id linked
      obtain ⟨x, member, r, member', _, names⟩ := ingested.linked distinct stored linked
      exact apart x member r member' names
    refine raisedCases_congr lossless named (ingested.alone distinct valid (unlinked ingested))
      (ingested'.alone distinct valid (unlinked ingested')) ?_ order' draws'
    exact (ingested.samePayments ingested' distinct).of_perm (ingested.selectPayments_perm distinct valid)
      (ingested'.selectPayments_perm distinct valid).symm

end Run
end Arrivals
section Examples
open PlainText

theorem plainText_lawful : LawfulText where
  strip_strip := strip_again
  lower_named text named empty := by
    have none : text.toList.map Char.toLower = [] := String.ofList_inj.mp empty
    exact named (String.toList_inj.mp (List.map_eq_nil_iff.mp none))

/-- A payment and refunds of the merchant `m1`, as normalizing returns them. -/
def arrivedPayment : NormalizedRecord where
  source := "manual_demo"
  provider := .str "demo"
  recordType := .payment
  externalId := "pay_1"
  merchantId := .str "m1"
  paymentReference := some "pay_1"
  amount := some ⟨1000, -2⟩
  status := "captured"
  eventTimestamp := some ⟨1704110400000000, some 0⟩
  metadata := .object []

def arrivedRefund (payment : String) : NormalizedRecord where
  source := "manual_demo"
  provider := .str "demo"
  recordType := .refund
  externalId := "rfnd_1"
  merchantId := .str "m1"
  paymentReference := some payment
  refundReference := some "rfnd_1"
  amount := some ⟨400, -2⟩
  eventTimestamp := some ⟨1704110400000000, some 0⟩
  metadata := .object []

theorem arrivedPayment_valid : arrivedPayment.Valid "m1" where
  financial := by decide
  read := ⟨[("external_id", .str "pay_1"), ("amount", .str "10.00"), ("status", .str "captured"), ("merchant_id", .str "m1")],
    "manual_demo", none, ⟨1704110400000000, some 0⟩, by decide⟩
  importable := by
    refine ⟨by decide, fun _ member _ => ⟨some "demo", by rw [List.mem_singleton.mp member]; rfl⟩, fun item kept => ?_⟩
    have member := List.mem_singleton.mp ((FirstByKey.firsts_sublist _ _ _).subset kept)
    rw [member]
    refine ⟨[], rfl, ⟨"demo", rfl⟩, ?_, by decide⟩
    simp only [List.forall_mem_cons]
    exact ⟨⟨none, rfl⟩, ⟨some "m1", rfl⟩, ⟨none, rfl⟩, ⟨none, rfl⟩, by simp⟩
  owner := rfl

theorem arrivedRefund_valid {payment : String} (valid : payment ∈ ["pay_1", "pay_2"]) : (arrivedRefund payment).Valid "m1" where
  financial := nofun
  read := by
    refine ⟨[("external_id", .str "rfnd_1"), ("payment_reference", .str payment), ("amount", .str "4.00"),
      ("status", .str "processed"), ("merchant_id", .str "m1")], "manual_demo", none, ⟨1704110400000000, some 0⟩, ?_⟩
    simp only [List.mem_cons, List.not_mem_nil, or_false] at valid
    rcases valid with rfl | rfl <;> decide
  importable := by
    have status : "processed" ∈ supportedStatuses := by decide
    have money : ∀ amount ∈ some (⟨400, -2⟩ : Decimal), fitsMoney amount = true := by decide
    refine ⟨fun _ member => by rw [List.mem_singleton.mp member]; exact status,
      fun _ member _ => ⟨some "demo", by rw [List.mem_singleton.mp member]; rfl⟩, fun item kept => ?_⟩
    have member := List.mem_singleton.mp ((FirstByKey.firsts_sublist _ _ _).subset kept)
    rw [member]
    exact ⟨⟨"demo", rfl⟩, ⟨payment, rfl⟩, ⟨none, rfl⟩, money⟩
  owner := rfl

theorem arrived_valid {payment : String} (known : payment ∈ ["pay_1", "pay_2"]) :
    ∀ record ∈ [arrivedPayment, arrivedRefund payment], record.Valid "m1" := by
  simp only [List.forall_mem_cons]
  exact ⟨arrivedPayment_valid, arrivedRefund_valid known, by simp⟩

theorem arrived_names_iff (payment : String) :
    (∀ x ∈ [arrivedPayment, arrivedRefund payment], ∀ r ∈ [arrivedPayment, arrivedRefund payment], ¬x.NamesPayment r) ↔
      payment ≠ "pay_1" := by
  have named : (arrivedRefund payment).NamesPayment arrivedPayment ↔ payment = "pay_1" := by
    refine ⟨fun names => Option.some.inj names.2.2.2, ?_⟩
    rintro rfl
    exact ⟨rfl, rfl, ⟨"demo", rfl, rfl⟩, rfl⟩
  have never {x r : NormalizedRecord} (other : x.recordType.links = false ∨ r.recordType = .refund) : ¬x.NamesPayment r := by
    rintro ⟨links, type, _⟩
    rcases other with none | refund
    · cases none.symm.trans links
    · cases refund.symm.trans type
  simp only [List.forall_mem_cons, List.not_mem_nil, IsEmpty.forall_iff, implies_true, and_true, named]
  exact ⟨fun every => every.2.1, fun apart => ⟨⟨never (.inl rfl), never (.inl rfl)⟩, apart, never (.inr rfl)⟩⟩

/-- A refund of another payment makes no difference; a refund of the payment does. -/
theorem order_independent_iff_refunded :
    OrderIndependent {} "m1" [arrivedPayment, arrivedRefund "pay_2"] ∧
      ¬OrderIndependent {} "m1" [arrivedPayment, arrivedRefund "pay_1"] := by
  constructor
  · refine (order_independent_iff fieldText_injective plainText_lawful {} (by decide) (arrived_valid (by decide)) (by decide)).mpr ?_
    exact (arrived_names_iff "pay_2").mpr (by decide)
  · intro same
    exact (arrived_names_iff "pay_1").mp ((order_independent_iff fieldText_injective plainText_lawful {} (by decide)
      (arrived_valid (by decide)) (by decide)).mp same) rfl

/-- A refund that arrives before its payment is left out of the merchant's runs for good. -/
theorem refund_before_payment_is_lost :
    ¬∀ (merchant : String) (records : List NormalizedRecord), merchant ≠ "" → (∀ record ∈ records, record.Valid merchant) →
      (records.map NormalizedRecord.key).Nodup → OrderIndependent {} merchant records := by
  intro law
  have valid := @arrived_valid "pay_1" (by decide)
  refine refund_shows fieldText_injective (by decide) valid (by decide) (x := arrivedRefund "pay_1") (r := arrivedPayment)
    (by decide) (by decide) ⟨rfl, rfl, ⟨"demo", rfl, rfl⟩, rfl⟩ rfl ?_ (law "m1" _ (by decide) valid (by decide))
  simp [arrivedPayment, arrivedRefund]

end Examples
end RCAA
