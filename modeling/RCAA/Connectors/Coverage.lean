import Mathlib
import RCAA.System
import RCAA.Connectors.Sync
import RCAA.Library.Stretches

/-! Which days the successful syncs of a connector have fetched. A sync fetches the days of
its window, whatever was fetched before, so a gap is left when the window of a success does
not reach back to the day of the last one, or when it ends on a later day than it started.
These are the only ways. -/

namespace RCAA.Connectors
open Jobs

def State.syncsOf (s : State) (connectorId : String) : List Synced := s.synced.filter (·.connectorId = connectorId)

/-- Every day from that of the first success to that of any other is fetched by some success. -/
def Covered (connectorId : String) (s : State) : Prop :=
  ∀ first ∈ (s.syncsOf connectorId).head?, ∀ r ∈ s.syncsOf connectorId, ∀ day,
    dayNumber first.finishedAt ≤ day → day ≤ dayNumber r.finishedAt → ∃ q ∈ s.syncsOf connectorId, civil day ∈ q.dates

/-- What the action commits. -/
def State.completes (s : State) (a : Action) : Option Fetch :=
  match a.event with
  | .job (.succeed workerId _) => s.underway workerId
  | _ => none

/-- A sync that succeeds ends on the day it started and its window reaches back to the day
after the last success, or it ends on the day of the last success. -/
def Timely (connectorId : String) (s : State) (a : Action) : Prop :=
  ∀ fetch ∈ s.completes a, fetch.connector.id = connectorId →
    let started := dayNumber fetch.startedAt
    let finished := dayNumber (s.clock + a.elapsed)
    match (s.syncsOf connectorId).getLast? with
    | none => finished = started
    | some last => finished = dayNumber last.finishedAt ∨
        (finished = started ∧ started - fetch.window ≤ dayNumber last.finishedAt + 1)

/-! ## What a step does -/

def Fetch.synced (fetch : Fetch) (finishedAt : Int) : Synced :=
  ⟨fetch.connector.id, fetch.startedAt, fetch.window, finishedAt, fetch.dates⟩

inductive Effect (s : State) (a : Action) (t : State) : Prop
  | kept (completes : s.completes a = none) (fetches : t.fetches = s.fetches) (synced : t.synced = s.synced)
  | fetched (workerId : String) (outcome : Except Raised Fetch) (completes : s.completes a = none)
      (fetches : t.fetches = Function.update s.fetches workerId (some outcome)) (synced : t.synced = s.synced)
      (whole : ∀ fetch, outcome = .ok fetch → fetch.Whole ∧ fetch.startedAt = t.clock)
  | succeeded (workerId : String) (fetch : Fetch) (completes : s.completes a = some fetch)
      (held : s.fetches workerId = some (.ok fetch)) (fetches : t.fetches = s.fetches)
      (synced : t.synced = s.synced ++ [fetch.synced t.clock])

/-! ## The record of the syncs -/

/-- What the record of a sync says of its times and its days. -/
structure Synced.Sound (r : Synced) : Prop where
  started : r.startedAt ≤ r.finishedAt
  dates : ∀ day, civil day ∈ r.dates ↔ dayNumber r.startedAt - r.window ≤ day ∧ day ≤ dayNumber r.startedAt

/-- Successes are recorded in their order, and no handler started later than now. -/
structure Recorded (s : State) : Prop where
  fetches : ∀ workerId fetch, s.fetches workerId = some (.ok fetch) → fetch.Whole ∧ fetch.startedAt ≤ s.clock
  syncs : ∀ r ∈ s.synced, r.Sound ∧ r.finishedAt ≤ s.clock
  order : s.synced.Pairwise fun r q => r.finishedAt ≤ q.finishedAt

section Days
variable {s : State} {connectorId : String}

def Synced.stretch (r : Synced) : Stretch Int :=
  ⟨dayNumber r.startedAt - r.window, dayNumber r.startedAt, dayNumber r.finishedAt⟩

theorem Recorded.ordered (recorded : Recorded s) : Stretch.Ordered ((s.syncsOf connectorId).map Synced.stretch) := by
  constructor
  · exact List.pairwise_map.mpr ((recorded.order.filter _).imp fun le => dayNumber_mono le)
  · intro stretch member
    obtain ⟨r, listed, rfl⟩ := List.mem_map.mp member
    exact dayNumber_mono (recorded.syncs r (List.mem_filter.mp listed).1).1.started

theorem Recorded.covered_iff (recorded : Recorded s) :
    Covered connectorId s ↔ Stretch.Gapless ((s.syncsOf connectorId).map Synced.stretch) := by
  have within (day : Int) : Stretch.Within ((s.syncsOf connectorId).map Synced.stretch) day ↔
      ∃ q ∈ s.syncsOf connectorId, civil day ∈ q.dates := by
    simp only [Stretch.Within, List.mem_map, exists_exists_and_eq_and]
    refine exists_congr fun q => and_congr_right fun listed => ?_
    exact ((recorded.syncs q (List.mem_filter.mp listed).1).1.dates day).symm
  simp only [Covered, Stretch.Gapless, List.head?_map, Option.mem_map, List.forall_mem_map, within,
    forall_exists_index, and_imp, forall_apply_eq_imp_iff₂]
  rfl

end Days

/-! ## Runs -/

section Steps
variable [Platform] {settings : WorkerSettings} {s : State} {a : Action} {connectorId : String}

theorem step_clock : (step settings s a).clock = s.clock + a.elapsed := by
  have ticked : (s.tick a.elapsed).clock = s.clock + a.elapsed := rfl
  rw [← ticked, step]
  generalize s.tick a.elapsed = t
  have jobs (event : Jobs.Event) : (Jobs.perform settings t.jobs event).clock = t.clock := perform_clock t.jobs event
  cases a.event with
  | createConnector | testConnector => rfl
  | syncConnector keys connectorId merchantId userId requestId days =>
    simp only [perform]
    split
    · rfl
    · next connector _ => exact jobs (.createJob keys (syncRequest t.clock connector userId requestId days))
  | schedule keys limit =>
    simp only [perform, schedule]
    split <;> rfl
  | fetch workerId adapter =>
    simp only [perform, fetch]
    split <;> rfl
  | job event =>
    cases event with
    | succeed workerId result =>
      simp only [perform, succeed]
      split
      · exact jobs (.succeed workerId result)
      · split
        · rfl
        · exact jobs (.succeed workerId result)
    | _ => exact jobs _

theorem step_effect : Effect s a (step settings s a) := by
  unfold step
  cases event : a.event with
  | createConnector | testConnector => exact .kept (by simp only [State.completes, event]) rfl rfl
  | syncConnector | schedule =>
    simp only [perform, schedule]
    split <;> exact .kept (by simp only [State.completes, event]) rfl rfl
  | fetch workerId adapter =>
    have completes : s.completes a = none := by simp only [State.completes, event]
    simp only [perform, fetch]
    split
    · exact .fetched workerId _ completes rfl rfl fun fetch done => processSync_whole done
    · exact .kept completes rfl rfl
  | job inner =>
    cases inner with
    | succeed workerId result =>
      have completes : s.completes a = s.underway workerId := by simp only [State.completes, event]
      simp only [perform, succeed]
      split
      · next other =>
        refine .kept (completes.trans ?_) rfl rfl
        have none : s.syncJob workerId = none := Option.isNone_iff_eq_none.mp other
        simp only [State.underway, none, Option.bind_none]
      · split
        · next nothing => exact .kept (completes.trans nothing) rfl rfl
        · next fetch fetched =>
          refine .succeeded workerId fetch (completes.trans fetched) ?_ rfl ?_
          · obtain ⟨_, _, held⟩ := Option.bind_eq_some_iff.mp fetched
            obtain ⟨outcome, reached, ok⟩ := Option.bind_eq_some_iff.mp held
            cases outcome with
            | error => cases ok
            | ok value =>
              cases ok
              exact reached
          · have clock : (Jobs.perform settings (s.tick a.elapsed).jobs (.succeed workerId result)).clock =
                (s.tick a.elapsed).clock := perform_clock _ _
            exact congrArg (fun time => s.synced ++ [fetch.synced time]) clock.symm
    | _ => exact .kept (by simp only [State.completes, event]) rfl rfl

theorem Recorded.step (recorded : Recorded s) : Recorded (step settings s a) := by
  have later : s.clock ≤ (Connectors.step settings s a).clock := by
    rw [step_clock]
    omega
  generalize reached : Connectors.step settings s a = t at later
  have effect : Effect s a t := reached ▸ step_effect
  cases effect with
  | kept _ fetches synced =>
    refine ⟨fun workerId fetch held => ?_, fun r member => ?_, synced ▸ recorded.order⟩
    · exact (recorded.fetches workerId fetch (fetches ▸ held)).imp_right later.trans'
    · exact (recorded.syncs r (synced ▸ member)).imp_right later.trans'
  | fetched workerId outcome _ fetches synced whole =>
    refine ⟨fun w fetch held => ?_, fun r member => ?_, synced ▸ recorded.order⟩
    · rw [fetches] at held
      by_cases own : w = workerId
      · subst own
        rw [Function.update_self, Option.some.injEq] at held
        exact (whole fetch held).imp_right le_of_eq
      · rw [Function.update_of_ne own] at held
        exact (recorded.fetches w fetch held).imp_right later.trans'
    · exact (recorded.syncs r (synced ▸ member)).imp_right later.trans'
  | succeeded workerId fetch _ held fetches synced =>
    obtain ⟨whole, started⟩ := recorded.fetches workerId fetch held
    refine ⟨fun w fetch held => ?_, fun r member => ?_, ?_⟩
    · exact (recorded.fetches w fetch (fetches ▸ held)).imp_right later.trans'
    · rw [synced, List.mem_append, List.mem_singleton] at member
      rcases member with earlier | rfl
      · exact (recorded.syncs r earlier).imp_right later.trans'
      · exact ⟨⟨started.trans later, whole⟩, le_rfl⟩
    · rw [synced, List.pairwise_append]
      refine ⟨recorded.order, List.pairwise_singleton _ _, fun r earlier q same => ?_⟩
      rw [List.mem_singleton.mp same]
      exact (recorded.syncs r earlier).2.trans later

/-- A step leaves a gap exactly when it commits a sync that is not timely. -/
theorem Recorded.covered_step_iff (recorded : Recorded s) (covered : Covered connectorId s) :
    Covered connectorId (Connectors.step settings s a) ↔ Timely connectorId s a := by
  have next : Recorded (Connectors.step settings s a) := recorded.step
  have clock : (Connectors.step settings s a).clock = s.clock + a.elapsed := step_clock
  have effect : Effect s a (Connectors.step settings s a) := step_effect
  rw [next.covered_iff]
  generalize Connectors.step settings s a = t at next clock effect
  rw [recorded.covered_iff] at covered
  cases effect with
  | kept completes _ synced =>
    have same : t.syncsOf connectorId = s.syncsOf connectorId := congrArg _ synced
    exact iff_of_true (same ▸ covered) (by simp [Timely, completes])
  | fetched _ _ completes _ synced =>
    have same : t.syncsOf connectorId = s.syncsOf connectorId := congrArg _ synced
    exact iff_of_true (same ▸ covered) (by simp [Timely, completes])
  | succeeded workerId fetch completes held _ synced =>
    by_cases own : fetch.connector.id = connectorId
    · have appended : t.syncsOf connectorId = s.syncsOf connectorId ++ [fetch.synced t.clock] := by
        simp [State.syncsOf, synced, Fetch.synced, own]
      have ordered : Stretch.Ordered ((t.syncsOf connectorId).map Synced.stretch) := next.ordered
      rw [appended, List.map_append, List.map_singleton] at ordered ⊢
      rw [Stretch.gapless_snoc_iff ordered covered, List.getLast?_map]
      have started : dayNumber fetch.startedAt ≤ dayNumber t.clock :=
        dayNumber_mono ((recorded.fetches workerId fetch held).2.trans (by rw [clock]; omega))
      simp only [Timely, completes, Option.mem_some_iff, forall_eq', own, forall_true_left, ← clock]
      cases last : (s.syncsOf connectorId).getLast? with
      | none =>
        simp only [Option.map_none, Stretch.Continues, Synced.stretch, Fetch.synced]
        omega
      | some r =>
        have earlier : dayNumber r.finishedAt ≤ dayNumber t.clock := by
          have listed := (List.mem_filter.mp (List.mem_of_getLast? last)).1
          exact dayNumber_mono ((recorded.syncs r listed).2.trans (by rw [clock]; omega))
        simp only [Option.map_some, Stretch.Continues, Synced.stretch, Fetch.synced, Order.succ_eq_add_one]
        omega
    · have same : t.syncsOf connectorId = s.syncsOf connectorId := by
        simp [State.syncsOf, synced, Fetch.synced, own]
      exact iff_of_true (same ▸ covered) (by simp [Timely, completes, own])

/-- From any queue and any connectors, no day is left out in a run exactly when every sync
it commits is timely. -/
theorem covered_throughout_iff (jobs : Jobs.State) (connectors : ConnectorTable) (connectorId : String) (actions : List Action) :
    Runs.Throughout (step settings) (Covered connectorId) { jobs, connectors } actions ↔
      Runs.Along (step settings) (Timely connectorId) { jobs, connectors } actions := by
  have initial : Recorded { jobs, connectors } :=
    ⟨fun _ _ held => (nomatch held), fun _ member => (nomatch member), List.Pairwise.nil⟩
  refine Runs.throughout_iff (fun s a recorded => recorded.step)
    (fun s a recorded covered => recorded.covered_step_iff covered) initial ?_ actions
  rintro first ⟨⟩

end Steps

section Examples
open PlainText

def razorpayConnector : DataConnector where
  id := "c1"
  merchantId := "m1"
  provider := "razorpay"
  status := .connected
  credentialsEnc := some "sealed"
  syncEnabled := true
  nextSyncAt := some 1704110400000000

/-- A connector that is due at noon of a first day of January. -/
def connectedAtNoon : State where
  jobs := { clock := 1704110400000000 }
  connectors := { rows := [razorpayConnector] }

def answering : Adapter := ⟨.ok (), fun _ => .ok ()⟩

/-- The scheduler runs after some days without one, and a worker takes its job. -/
def syncAfter (days : Nat) (workerId : String) : List Action :=
  [⟨days * 86400000000, .schedule keys 20⟩, ⟨0, .job (.recoverAtOnce workerId 0)⟩, ⟨0, .job (.claimSelect workerId 0)⟩,
    ⟨0, .job (.claimUpdate workerId 0)⟩, ⟨0, .job (.start workerId)⟩, ⟨0, .fetch workerId answering⟩,
    ⟨0, .job (.succeed workerId (.object []))⟩]

/-- The service is down for ten days between two syncs. -/
def downForTenDays : List Action := syncAfter 0 "a" ++ syncAfter 10 "b"

/-- The second sync reaches back two days, so the fifth day after the first is never fetched. -/
theorem outage_leaves_a_gap :
    ¬∀ connectorId actions, Runs.Throughout (step {}) (Covered connectorId) connectedAtNoon actions := by
  intro law
  have covered := law "c1" downForTenDays downForTenDays (List.prefix_refl _)
  have syncs : (Runs.run (step {}) connectedAtNoon downForTenDays).syncsOf "c1" =
      [⟨"c1", 1704110400000000, 2, 1704110400000000, [(2023, 12, 30), (2023, 12, 31), (2024, 1, 1)]⟩,
        ⟨"c1", 1704974400000000, 2, 1704974400000000, [(2024, 1, 9), (2024, 1, 10), (2024, 1, 11)]⟩] := by decide +kernel
  unfold Covered at covered
  rw [syncs] at covered
  obtain ⟨q, listed, fetched⟩ := covered _ rfl _ (List.mem_cons_of_mem _ (List.mem_singleton_self _)) 19728 (by decide) (by decide)
  simp only [List.mem_cons, List.not_mem_nil, or_false] at listed
  rcases listed with rfl | rfl
  · exact absurd fetched (by decide)
  · exact absurd fetched (by decide)

end Examples
end RCAA.Connectors
