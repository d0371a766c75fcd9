import RCAA.Connectors.Ingest
import RCAA.Reconciliation.EngineProofs
import RCAA.Library.Runs

/-! The settlement rows of one payment over many synchronizations. A line is stored under the
settlement it names, or under "unknown", and the payment's id: a payment that a report shows
before its settlement has an id and another shows after it is stored twice, and the matcher
then finds two settlements for it. -/

namespace RCAA.Connectors

section Sync
variable [ProviderRuntime]

/-- One synchronization, with what the provider and the database give it. -/
structure SyncRun where
  provider : Provider
  draws : Nat → Draws
  now : Int
  connector : DataConnector
  days : Int

/-- The database after a sync: the worker commits its session, or what a failed one leaves. -/
def runSync (database : Database) (sync : SyncRun) : Database :=
  let ended := ingestSync sync.provider sync.draws sync.now sync.connector sync.days ⟨database, database⟩
  match ended.outcome with
  | .ok _ => ended.session.commit.durable
  | .error _ => (failedSession ended.session).durable

/-- The id of the settlement line of a row. -/
def lineId (row : RawData) : String := ((row.get "settlement_id").or (.str "unknown")).text ++ ":" ++ entityId row

/-- The settlements a matcher finds for a payment of the provider by its normalized id. -/
def settlementsOf (paymentId : String) (settlements : List Settlement) : List Settlement :=
  settlements.filter fun s => lower s.provider = lower "razorpay" ∧ paymentIdKey s.providerPaymentId = some paymentId

/-- There is one settlement row of the payment at most, and no run that reads it finds the
payment's match ambiguous. -/
structure Converged (paymentId : String) (database : Database) : Prop where
  one : (settlementsOf paymentId database.store.settlements).length ≤ 1
  unambiguous : ∀ (order : SetOrder) (rules : ReconciliationRules) (payment : Payment) (merchantId : Option String),
    lower payment.provider = lower "razorpay" → paymentIdKey payment.providerPaymentId = some paymentId →
    settlementsOf paymentId (selectSettlements database.store merchantId) ≠ [] →
    (matchPaymentToSettlement order payment rules
      (buildSettlementIndexes order (selectSettlements database.store merchantId))).candidates = []

/-- The settlement rows of the payment have one key. -/
def StoredAs (paymentId key : String) (store : Store) : Prop :=
  ∀ s ∈ store.settlements, lower s.provider = lower "razorpay" → paymentIdKey s.providerPaymentId = some paymentId →
    s.provider = "razorpay" ∧ s.providerSettlementId = key

/-- Every row of the payment that a sync reads is stored under one key: all of them name the same
settlement, or none does. -/
def ShownAs (paymentId key : String) (sync : SyncRun) : Prop :=
  ∀ date ∈ syncDates sync.now sync.days, ∀ items, sync.provider.report date = .ok items →
    ∀ row ∈ items, SettlementSource.settles row = true → paymentIdKey (strip (entityId row)) = some paymentId →
      strip (lineId row) = key

/-! ## Rows of one line -/

/-- What a settlement row takes from the line it was made of. -/
theorem settlementLine_row {row : RawData} {terms : RowTerms} {merchantId source : String} {received : DateTime}
    {record : NormalizedRecord} {store : Store} {id batchId : String} {amount : Decimal} {timestamp : DateTime} {stored : Record}
    (accepted : normalizeRecord ((settlementLine row terms).set "merchant_id" (.str merchantId)) source .settlement
      (some "razorpay") received = .ok record)
    (built : rowOf store id batchId record amount timestamp = .ok (.ok stored)) :
    ∃ s, stored = .settlement s ∧ s.provider = "razorpay" ∧ s.providerPaymentId = strip (entityId row) ∧
      s.providerSettlementId = strip (lineId row) := by
  obtain ⟨provided, named, reference, shown, linked⟩ := normalizeRecord_settlement accepted
  have id : record.externalId = strip (lineId row) := by
    rw [requiredText_ok named]
    have twice : ∀ value : Value, value.or value = value := fun value => by
      unfold Value.or
      split <;> rfl
    exact congrArg (fun value : Value => strip value.text) (twice (.str (lineId row)))
  have payment : reference = strip (entityId row) := requiredText_ok linked
  obtain ⟨s, rfl, kept⟩ := rowOf_settlement (normalizeRecord_readFrom accepted).type built
  have paid := kept.paid
  have provider := kept.provider
  rw [shown] at paid
  rw [provided] at provider
  exact ⟨s, rfl, (Except.ok.inj provider).symm, (Except.ok.inj paid).symm.trans payment, kept.named.trans id⟩

/-- The lines of a call are settlement lines of rows that show the payment under one key. -/
def LineCall.ShownAs (paymentId key : String) (call : LineCall) : Prop :=
  call.recordType = .settlement → ∀ line ∈ call.lines, ∃ row terms, line = settlementLine row terms ∧
    (paymentIdKey (strip (entityId row)) = some paymentId → strip (lineId row) = key)

theorem ingestLines_storedAs {paymentId key merchantId : String} {draws : Draws} {session next : Session} {call : LineCall}
    {report : IngestReport} (shown : call.ShownAs paymentId key)
    (returned : ingestLines draws session merchantId call = (.ok report, next))
    (stored : StoredAs paymentId key session.current.store) : StoredAs paymentId key next.current.store := by
  obtain ⟨records, progress, written, normalized, done, _, _, _, after⟩ := ran_persisted returned
  have added := (persistAll_kept done).2
  have typed : ∀ record ∈ records, record.recordType = call.recordType := normalizeAll_typed normalized
  intro s member provider paid
  rw [after] at member
  rcases List.mem_append.mp (added.rows.mem_iff.mp (Store.settlement_mem_rows.mpr member)) with old | new
  · exact stored s (Store.settlement_mem_rows.mp old) provider paid
  · obtain ⟨c, inside, same⟩ := List.mem_map.mp new
    have place := List.mem_zipIdx_iff_getElem?.mp ((FirstByKey.firsts_sublist _ _ _).subset (added.kept inside))
    obtain ⟨item, listed, read⟩ := normalizeAll_getElem? normalized place
    obtain ⟨type, amount, timestamp, _, built⟩ := (persistAll_madeFrom typed done).made c inside
    have settles : call.recordType = .settlement := by
      have keys := added.keyed c inside
      rw [same] at keys
      rw [← type]
      exact (congrArg Prod.fst keys).symm
    obtain ⟨line, brought, rfl⟩ := List.mem_map.mp (List.mem_of_getElem? listed)
    obtain ⟨row, terms, rfl, named⟩ := shown settles line brought
    rw [settles] at read
    obtain ⟨made, whole, own, linked, id⟩ := settlementLine_row read built
    cases same.symm.trans whole
    rw [linked] at paid
    exact ⟨own, id.trans (named paid)⟩

/-! ## What a sync keeps -/

/-- What every call keeps that returns. -/
def LineCall.Keeps (holds : Store → Prop) (merchantId : String) (call : LineCall) : Prop :=
  ∀ draws session report next, ingestLines draws session merchantId call = (.ok report, next) →
    holds session.current.store → holds next.current.store

variable {holds : Store → Prop} {draws : Nat → Draws} {merchantId : String}

theorem Ran.keeps {start session : Session} {n : Nat} {calls : List LineCall} (each : ∀ call ∈ calls, call.Keeps holds merchantId)
    (ran : Ran draws merchantId start n calls session) (initial : holds start.current.store) : holds session.current.store := by
  induction ran with
  | nil => exact initial
  | cons returned _ ih =>
    rw [List.forall_mem_cons] at each
    exact ih each.2 (each.1 _ _ _ _ returned initial)

/-- What the calls for reports keep is durable after them, and current if they are done. -/
theorem ingestReports_keeps {session : Session} {n : Nat} {reports : List (Except Raised (List RawData))}
    (each : ∀ report ∈ reports, ∀ items, report = .ok items → ∀ lines, normalizeCombined items = .ok lines →
      ∀ call ∈ reportCalls lines, call.Keeps holds merchantId)
    (durable : holds session.durable.store) (current : holds session.current.store) :
    holds (ingestReports draws merchantId session n reports).session.durable.store ∧
      ((ingestReports draws merchantId session n reports).outcome = .ok () →
        holds (ingestReports draws merchantId session n reports).session.current.store) := by
  induction reports generalizing session n with
  | nil => exact ⟨durable, fun _ => current⟩
  | cons report rest ih =>
    rw [List.forall_mem_cons] at each
    obtain ⟨here, later⟩ := each
    cases report with
    | error raised => exact ⟨durable, by simp [ingestReports]⟩
    | ok items =>
      cases adapted : normalizeCombined items with
      | error error =>
        simp only [ingestReports, adapted]
        exact ⟨durable, by simp⟩
      | ok lines =>
        have calls := here items rfl lines adapted
        simp only [ingestReports, adapted]
        rcases @ingestReport_spec _ draws merchantId session n (reportCalls lines) with
          ⟨done, _, ran⟩ | ⟨error, failed, before, call, after, reached, split, _, ran, raised⟩
        · simp only [done]
          refine ih later ?_ (ran.keeps calls current)
          rw [ran.pending.durable]
          exact durable
        · simp only [failed]
          refine ⟨?_, by simp⟩
          have kept := ran.keeps (fun earlier member => calls earlier (by rw [split]; exact List.mem_append_left _ member)) current
          rcases ingestLines_error raised with ⟨_, held⟩ | ⟨_, held⟩
          · rw [held]
            exact kept
          · rw [held, ran.pending.durable]
            exact durable

theorem runSync_keeps {database : Database} {sync : SyncRun}
    (each : ∀ date ∈ syncDates sync.now sync.days, ∀ items, sync.provider.report date = .ok items →
      ∀ lines, normalizeCombined items = .ok lines → ∀ call ∈ reportCalls lines, call.Keeps holds sync.connector.merchantId)
    (initial : holds database.store) : holds (runSync database sync).store := by
  have ended : holds (ingestSync sync.provider sync.draws sync.now sync.connector sync.days ⟨database, database⟩).session.durable.store ∧
      ((ingestSync sync.provider sync.draws sync.now sync.connector sync.days ⟨database, database⟩).outcome = .ok () →
        holds (ingestSync sync.provider sync.draws sync.now sync.connector sync.days ⟨database, database⟩).session.current.store) := by
    unfold ingestSync
    split
    · exact ⟨initial, fun done => (nomatch done)⟩
    · split
      · exact ⟨initial, fun done => (nomatch done)⟩
      · refine ingestReports_keeps (fun report member items arrived => ?_) initial initial
        obtain ⟨date, asked, rfl⟩ := List.mem_map.mp member
        exact each date asked items arrived
  unfold runSync
  dsimp only
  split
  · next done => exact ended.2 done
  · exact ended.1

/-! ## Many syncs -/

theorem reportCalls_shownAs {paymentId key : String} {items : List RawData} {lines : Lines}
    (shown : ∀ row ∈ items, SettlementSource.settles row = true → paymentIdKey (strip (entityId row)) = some paymentId →
      strip (lineId row) = key)
    (adapted : normalizeCombined items = .ok lines) {call : LineCall} (member : call ∈ reportCalls lines) :
    call.ShownAs paymentId key := by
  intro settlement line brought
  have lines : line ∈ lines.settlements := by
    simp only [reportCalls, List.mem_filter, List.mem_cons, List.not_mem_nil, or_false] at member
    rcases member with ⟨rfl | rfl | rfl, _⟩
    · cases settlement
    · cases settlement
    · exact brought
  obtain ⟨each, read, adapted⟩ := Outcome.bind_ok adapted
  cases adapted
  obtain ⟨part, inside, here⟩ := List.mem_flatMap.mp lines
  obtain ⟨row, listed, normalized⟩ := Outcome.forall₂_right (Outcome.mapM_forall₂ read) inside
  rcases normalizeRow_settlements normalized with ⟨settles, terms, _, own⟩ | ⟨_, none⟩
  · rw [own] at here
    exact ⟨row, terms, List.mem_singleton.mp here, shown row listed settles⟩
  · rw [none] at here
    cases here

/-- A payment of the provider is matched by its id to the settlements found for it, if there are any. -/
theorem decidingTier_eq {paymentId : String} {rules : ReconciliationRules} {payment : Payment} {settlements : List Settlement}
    (provider : lower payment.provider = lower "razorpay") (paid : paymentIdKey payment.providerPaymentId = some paymentId)
    (settled : settlementsOf paymentId settlements ≠ []) :
    decidingTier rules payment settlements = settlementsOf paymentId settlements := by
  have first : (settlements.filter fun s => lower s.provider = lower payment.provider).filter (fun s =>
      ∃ id ∈ paymentIdKey payment.providerPaymentId, paymentIdKey s.providerPaymentId = some id) =
      settlementsOf paymentId settlements := by
    rw [List.filter_filter, settlementsOf]
    exact List.filter_congr fun s _ => by simp [provider, paid, and_comm]
  rw [decidingTier, tiers, tiersWith, Tiers.deciding_cons_of_ne_nil (by rw [first]; exact settled), first]

/-- Settlement rows under one key are one row, and a matcher that reads it finds no other. -/
theorem StoredAs.converged {paymentId key : String} {database : Database} (stored : StoredAs paymentId key database.store) :
    Converged paymentId database := by
  have keyed {s : Settlement} (member : s ∈ settlementsOf paymentId database.store.settlements) :
      (s.provider, s.providerSettlementId) = ("razorpay", key) := by
    obtain ⟨inside, found⟩ := List.mem_filter.mp member
    obtain ⟨provider, paid⟩ := decide_eq_true_eq.mp found
    exact Prod.ext_iff.mpr (stored s inside provider paid)
  have one : (settlementsOf paymentId database.store.settlements).length ≤ 1 := by
    have distinct : ((settlementsOf paymentId database.store.settlements).map fun s => (s.provider, s.providerSettlementId)).Nodup :=
      database.store.settlementProviderIds.sublist (List.filter_sublist.map _)
    by_contra more
    match listed : settlementsOf paymentId database.store.settlements with
    | [] => simp [listed] at more
    | [_] => simp [listed] at more
    | first :: second :: rest =>
      rw [listed] at keyed distinct
      have same := (keyed List.mem_cons_self).trans (keyed (List.mem_cons_of_mem _ List.mem_cons_self)).symm
      simp [same] at distinct
  refine ⟨one, fun order rules payment merchantId provider paid settled => ?_⟩
  have settles := matchPaymentToSettlement_settles order payment rules (selectSettlements_ids database.store merchantId)
  have fewer : (settlementsOf paymentId (selectSettlements database.store merchantId)).length ≤ 1 := by
    refine le_trans ?_ one
    rw [selectSettlements, settlementsOf, ((orderRows_perm _ _ _).filter _).length_eq]
    exact (List.filter_sublist.filter _).length_le
  rw [decidingTier_eq provider paid settled] at settles
  have candidates := settles.candidates
  rw [if_pos fewer] at candidates
  exact List.perm_nil.mp candidates

/-- Throughout syncs that show a payment under one key, one settlement row of it is stored at
most, and no match of it that reads the row is ambiguous. -/
theorem syncs_converge {paymentId key : String} {database : Database} (stored : StoredAs paymentId key database.store)
    {syncs : List SyncRun} (shown : Runs.Along runSync (fun _ sync => ShownAs paymentId key sync) database syncs) :
    Runs.Throughout runSync (Converged paymentId) database syncs := by
  have step (database : Database) (sync : SyncRun) (stored : StoredAs paymentId key database.store)
      (shown : ShownAs paymentId key sync) : StoredAs paymentId key (runSync database sync).store := by
    refine runSync_keeps (fun date asked items arrived lines adapted call member => ?_) stored
    exact fun draws session report next returned => ingestLines_storedAs
      (reportCalls_shownAs (shown date asked items arrived) adapted member) returned
  intro before first
  exact (Runs.invariant_along step stored (shown.take first)).converged

end Sync

section Examples
open PlainText

/-- A payment before and after its settlement has an id. -/
def unsettledLine : RawData := [("entity_id", .str "pay_1"), ("type", .str "payment"), ("amount", .int 1000)]

def settledLine : RawData :=
  [("entity_id", .str "pay_1"), ("type", .str "payment"), ("amount", .int 1000), ("settled", .bool true),
    ("settlement_id", .str "setl_1")]

def syncOf (id : String) (line : RawData) : SyncRun where
  provider := reporting [line]
  draws i := { importDraws with batchId := id ++ toString i, rowId := fun j => id ++ toString i ++ toString j }
  now := 0
  connector := connected
  days := 1

theorem syncs_converge_settled :
    Runs.Throughout runSync (Converged "pay_1") emptyDatabase [syncOf "a" settledLine, syncOf "b" settledLine] := by
  have shown (id : String) : ShownAs "pay_1" "setl_1:pay_1" (syncOf id settledLine) := by
    intro date asked items arrived row member _ _
    cases arrived
    rw [List.mem_singleton.mp member]
    decide
  exact syncs_converge (fun _ member => absurd member List.not_mem_nil) ⟨shown "a", shown "b", trivial⟩

/-- A payment that is first shown without its settlement is stored twice. -/
theorem settled_later_is_stored_twice :
    ¬∀ (paymentId : String) (syncs : List SyncRun),
      Runs.Throughout runSync (Converged paymentId) emptyDatabase syncs := by
  intro law
  have one := (law "pay_1" [syncOf "a" unsettledLine, syncOf "b" settledLine] _ (List.prefix_refl _)).one
  have two : (settlementsOf "pay_1" (Runs.run runSync emptyDatabase [syncOf "a" unsettledLine, syncOf "b" settledLine]).store.settlements).length = 2 := by
    rfl
  omega

end Examples
end RCAA.Connectors
