import RCAA.Library.ReadCommitted
import RCAA.Library.Runs

/-! Transactions that store a row unless its key is there. Each looks its key up, inserts
its row and commits; an insert that meets a committed value of a unique column is rolled
back and the key is looked up once more. Whatever the order of their statements, those
that look up one key return one row, which one of them at most has stored. -/

namespace InsertOnce
open ReadCommitted

/-- The values of a row's unique columns, the row each transaction inserts, and the value
of it that it looks up. -/
structure Protocol (τ κ α : Type) where
  keys : α → List κ
  row : τ → α
  wanted : τ → κ
  wanted_mem : ∀ t, wanted t ∈ keys (row t)

/-- Where a transaction is. -/
inductive Phase (α : Type) where
  | calling
  /-- The look-up found nothing; before the insert. -/
  | absent
  /-- Before the commit. -/
  | inserted
  /-- The insert met a committed value; before the second look-up. -/
  | conflicted
  | returned (row : α) (created : Bool)
  | raised

/-- The committed rows, who holds a value, and where each transaction is. -/
structure Floor (τ κ α : Type) where
  rows : List α
  holder : κ → Option τ := fun _ => none
  phase : τ → Phase α := fun _ => .calling

variable {τ κ α : Type}

namespace Phase

def ended : Phase α → Bool
  | .returned _ _ | .raised => true
  | _ => false

/-- How many statements a transaction has before it at most. -/
def rank : Phase α → Nat
  | .calling => 3
  | .absent => 2
  | .inserted | .conflicted => 1
  | .returned _ _ | .raised => 0

end Phase

section Step
variable [DecidableEq τ]

def Floor.enter (s : Floor τ κ α) (t : τ) (phase : Phase α) : Floor τ κ α :=
  { s with phase := Function.update s.phase t phase }

@[simp] theorem enter_rows (s : Floor τ κ α) (t : τ) (phase : Phase α) : (s.enter t phase).rows = s.rows := rfl
@[simp] theorem enter_holder (s : Floor τ κ α) (t : τ) (phase : Phase α) : (s.enter t phase).holder = s.holder := rfl
@[simp] theorem enter_phase (s : Floor τ κ α) (t : τ) (phase : Phase α) : (s.enter t phase).phase t = phase :=
  Function.update_self ..

theorem enter_phase_of_ne {other t : τ} (differs : other ≠ t) (s : Floor τ κ α) (phase : Phase α) :
    (s.enter t phase).phase other = s.phase other := Function.update_of_ne differs ..

variable [DecidableEq κ] (p : Protocol τ κ α)

def lookup (rows : List α) (k : κ) : Option α := rows.find? fun r => k ∈ p.keys r

/-- Two rows have a value in common. -/
def Shares (a b : α) : Prop := ∃ k ∈ p.keys a, k ∈ p.keys b

instance (a b : α) : Decidable (Shares p a b) := inferInstanceAs (Decidable (∃ k ∈ p.keys a, k ∈ p.keys b))

/-- The insert; it waits for a transaction that holds one of the values. -/
def insert (s : Floor τ κ α) (t : τ) : Floor τ κ α :=
  if available s.holder t (p.keys (p.row t)) then
    if s.rows.any fun r => Shares p r (p.row t) then { s with holder := release s.holder t }.enter t .conflicted
    else { s with holder := reserve s.holder t (p.keys (p.row t)) }.enter t .inserted
  else s

/-- The statement a transaction executes next; one that has to wait changes nothing. -/
def step (s : Floor τ κ α) (t : τ) : Floor τ κ α :=
  match s.phase t with
  | .calling => match lookup p s.rows (p.wanted t) with
    | some existing => s.enter t (.returned existing false)
    | none => s.enter t .absent
  | .absent => insert p s t
  | .inserted => { s with rows := s.rows ++ [p.row t], holder := release s.holder t }.enter t (.returned (p.row t) true)
  | .conflicted => match lookup p s.rows (p.wanted t) with
    | some existing => s.enter t (.returned existing false)
    | none => s.enter t .raised
  | .returned _ _ | .raised => s

/-! ## The invariant -/

/-- The unique columns. -/
def Distinct (rows : List α) : Prop := rows.Pairwise fun a b => ¬Shares p a b

structure Invariant (start : List α) (s : Floor τ κ α) : Prop where
  distinct : Distinct p s.rows
  grown : ∃ made, s.rows = start ++ made ∧ ∀ r ∈ made, ∃ t, s.phase t = .returned r true
  holds : ∀ k t, s.holder k = some t ↔ s.phase t = .inserted ∧ k ∈ p.keys (p.row t)
  clear : ∀ t, s.phase t = .inserted → ∀ r ∈ s.rows, ¬Shares p r (p.row t)
  conflicted : ∀ t, s.phase t = .conflicted → ∃ r ∈ s.rows, Shares p r (p.row t)
  raised : ∀ t, s.phase t = .raised → ∃ r ∈ s.rows, ∃ k ∈ p.keys r, k ∈ p.keys (p.row t) ∧ k ≠ p.wanted t
  returned : ∀ t r created, s.phase t = .returned r created → r ∈ s.rows ∧ p.wanted t ∈ p.keys r ∧
    (created = true → r = p.row t)
  single : ∀ t other r r', s.phase t = .returned r true → s.phase other = .returned r' true → t ≠ other → ¬Shares p r r'

end Step

variable {p : Protocol τ κ α} {s : Floor τ κ α} {start : List α} {t : τ}

theorem lookup_some [DecidableEq κ] {k : κ} {rows : List α} {r : α} (found : lookup p rows k = some r) : r ∈ rows ∧ k ∈ p.keys r := by
  refine ⟨List.mem_of_find?_eq_some found, ?_⟩
  simpa using List.find?_some found

theorem lookup_none [DecidableEq κ] {k : κ} {rows : List α} (missing : lookup p rows k = none) : ∀ r ∈ rows, k ∉ p.keys r := by
  intro r member
  have absent := List.find?_eq_none.mp missing r member
  simpa using absent

theorem Shares.symm {a b : α} (shares : Shares p a b) : Shares p b a := by
  obtain ⟨k, first, second⟩ := shares
  exact ⟨k, second, first⟩

/-- Rows of the table that have a value in common are one row. -/
theorem Distinct.eq {rows : List α} (distinct : Distinct p rows) {a b : α} (ha : a ∈ rows) (hb : b ∈ rows)
    (shares : Shares p a b) : a = b := by
  induction rows with
  | nil => cases ha
  | cons head rest ih =>
    obtain ⟨apart, distinct⟩ := List.pairwise_cons.mp distinct
    rcases List.mem_cons.mp ha with rfl | inside
    · rcases List.mem_cons.mp hb with rfl | other
      · rfl
      · exact absurd shares (apart b other)
    · rcases List.mem_cons.mp hb with rfl | other
      · exact absurd shares.symm (apart a inside)
      · exact ih distinct inside other

theorem invariant_initial (distinct : Distinct p start) : Invariant p start { rows := start } where
  distinct := distinct
  grown := ⟨[], by simp, by simp⟩
  holds k t := by simp
  clear t inserted := by cases inserted
  conflicted t conflicted := by cases conflicted
  raised t raised := by cases raised
  returned t r created returned := by cases returned
  single t other r r' returned := by cases returned

/-- One transaction moves on, and the table with it: what is asked of its new phase. -/
theorem Invariant.move [DecidableEq τ] (holds : Invariant p start s) {extra : List α} {holder : κ → Option τ} {phase : Phase α}
    (before : ∀ r, s.phase t ≠ .returned r true) (distinct : Distinct p (s.rows ++ extra))
    (grown : ∀ r ∈ extra, phase = .returned r true)
    (held : ∀ k other, holder k = some other ↔ (if other = t then phase else s.phase other) = .inserted ∧ k ∈ p.keys (p.row other))
    (clear : ∀ other, (if other = t then phase else s.phase other) = .inserted → ∀ r ∈ s.rows ++ extra, ¬Shares p r (p.row other))
    (conflicted : phase = .conflicted → ∃ r ∈ s.rows, Shares p r (p.row t))
    (raised : phase = .raised → ∃ r ∈ s.rows, ∃ k ∈ p.keys r, k ∈ p.keys (p.row t) ∧ k ≠ p.wanted t)
    (returned : ∀ r created, phase = .returned r created →
      r ∈ s.rows ++ extra ∧ p.wanted t ∈ p.keys r ∧ (created = true → r = p.row t))
    (single : ∀ r, phase = .returned r true → ∀ r' ∈ s.rows, ¬Shares p r r') :
    Invariant p start ⟨s.rows ++ extra, holder, Function.update s.phase t phase⟩ := by
  have phases (other : τ) : (⟨s.rows ++ extra, holder, Function.update s.phase t phase⟩ : Floor τ κ α).phase other =
      if other = t then phase else s.phase other := Function.update_apply ..
  have inside {r : α} (member : r ∈ s.rows) : r ∈ s.rows ++ extra := List.mem_append_left _ member
  refine ⟨distinct, ?_, fun k other => ?_, fun other inserted => ?_, fun other conflict => ?_, fun other error => ?_,
    fun other r created done => ?_, fun one other r r' first second differs => ?_⟩
  · obtain ⟨made, rows, creators⟩ := holds.grown
    refine ⟨made ++ extra, by rw [← List.append_assoc, ← rows], fun r member => ?_⟩
    rcases List.mem_append.mp member with old | new
    · obtain ⟨creator, done⟩ := creators r old
      have differs : creator ≠ t := by
        rintro rfl
        exact before r done
      exact ⟨creator, by rw [phases, if_neg differs, done]⟩
    · exact ⟨t, by rw [phases, if_pos rfl, grown r new]⟩
  · rw [phases]
    exact held k other
  · rw [phases] at inserted
    exact clear other inserted
  · rw [phases] at conflict
    split at conflict
    · next own =>
      obtain ⟨r, member, shares⟩ := conflicted conflict
      exact ⟨r, inside member, own ▸ shares⟩
    · obtain ⟨r, member, shares⟩ := holds.conflicted other conflict
      exact ⟨r, inside member, shares⟩
  · rw [phases] at error
    split at error
    · next own =>
      obtain ⟨r, member, met⟩ := raised error
      exact ⟨r, inside member, own ▸ met⟩
    · obtain ⟨r, member, met⟩ := holds.raised other error
      exact ⟨r, inside member, met⟩
  · rw [phases] at done
    split at done
    · next own => exact own ▸ returned r created done
    · obtain ⟨member, rest⟩ := holds.returned other r created done
      exact ⟨inside member, rest⟩
  · rw [phases] at first second
    split at first
    · next own =>
      rw [if_neg fun same => differs (own.trans same.symm)] at second
      exact single r first r' (holds.returned other r' true second).1
    · split at second
      · exact fun shares => single r' second r (holds.returned one r true first).1 shares.symm
      · exact holds.single one other r r' first second differs

/-- A transaction that holds nothing moves to a phase in which it holds nothing. -/
theorem Invariant.enter [DecidableEq τ] (holds : Invariant p start s) {phase : Phase α} (before : s.phase t ≠ .inserted)
    (fresh : ∀ r, s.phase t ≠ .returned r true) (quiet : phase ≠ .inserted) (new : ∀ r, phase ≠ .returned r true)
    (conflicted : phase = .conflicted → ∃ r ∈ s.rows, Shares p r (p.row t))
    (raised : phase = .raised → ∃ r ∈ s.rows, ∃ k ∈ p.keys r, k ∈ p.keys (p.row t) ∧ k ≠ p.wanted t)
    (returned : ∀ r created, phase = .returned r created → r ∈ s.rows ∧ p.wanted t ∈ p.keys r) :
    Invariant p start (s.enter t phase) := by
  have same (other : τ) : (if other = t then phase else s.phase other) = .inserted ↔ s.phase other = .inserted := by
    split
    · next own => exact iff_of_false quiet (own ▸ before)
    · exact Iff.rfl
  have moved : Invariant p start ⟨s.rows ++ [], s.holder, Function.update s.phase t phase⟩ :=
    holds.move fresh (by simpa using holds.distinct) (by simp) (fun k other => by rw [same, holds.holds]) (fun other inserted => by simpa using holds.clear other ((same other).mp inserted))
    conflicted raised (fun r created done => ?_) (fun r done => absurd done (new r))
  · rwa [List.append_nil] at moved
  · obtain ⟨member, wanted⟩ := returned r created done
    refine ⟨by simpa using member, wanted, ?_⟩
    rintro rfl
    exact absurd done (new r)

/-- A transaction that has inserted nothing holds nothing. -/
theorem Invariant.release_eq [DecidableEq τ] (holds : Invariant p start s) (before : s.phase t ≠ .inserted) : release s.holder t = s.holder := by
  funext k
  unfold release
  split
  · next own => exact absurd ((holds.holds k t).mp own).1 before
  · rfl

theorem Invariant.insert [DecidableEq τ] [DecidableEq κ] (holds : Invariant p start s) (absent : s.phase t = .absent) :
    Invariant p start (insert p s t) := by
  unfold InsertOnce.insert
  split
  · next free =>
    split
    · next met =>
      rw [holds.release_eq (by simp [absent])]
      refine holds.enter (by simp [absent]) (by simp [absent]) (by simp) (by simp) (fun _ => ?_) (by simp) (by simp)
      simpa using met
    · next clear =>
      have clear : ∀ r ∈ s.rows, ¬Shares p r (p.row t) := by simpa using clear
      have moved : Invariant p start ⟨s.rows ++ [], reserve s.holder t (p.keys (p.row t)), Function.update s.phase t .inserted⟩ :=
        holds.move (by simp [absent]) (by simpa using holds.distinct) (by simp) (fun k other => ?_) (fun other inserted => ?_)
          (by simp) (by simp) (by simp) (by simp)
      · rwa [List.append_nil] at moved
      · -- The values of the row are held by it alone; the others are held as before.
        unfold reserve
        by_cases own : other = t
        · subst own
          rw [if_pos rfl]
          split
          · next mine => simp [mine]
          · next other' =>
            refine iff_of_false (fun held => ?_) (fun both => other' both.2)
            rw [holds.holds, absent] at held
            cases held.1
        · rw [if_neg own, ← holds.holds]
          split
          · next mine =>
            refine iff_of_false (fun held => own (Option.some.inj held).symm) (fun held => own ?_)
            exact available_iff.mp free k mine other held
          · exact Iff.rfl
      · rw [List.append_nil]
        split at inserted
        · next own => exact own ▸ clear
        · exact holds.clear other inserted
  · exact holds

theorem Invariant.commit [DecidableEq τ] (holds : Invariant p start s) (inserted : s.phase t = .inserted) :
    Invariant p start ({ s with rows := s.rows ++ [p.row t], holder := release s.holder t }.enter t (.returned (p.row t) true)) := by
  have clear := holds.clear t inserted
  have apart (other : τ) (differs : other ≠ t) (also : s.phase other = .inserted) : ¬Shares p (p.row t) (p.row other) := by
    rintro ⟨k, mine, theirs⟩
    have first := (holds.holds k t).mpr ⟨inserted, mine⟩
    have second := (holds.holds k other).mpr ⟨also, theirs⟩
    exact differs (Option.some.inj (second.symm.trans first))
  refine holds.move (by simp [inserted]) ?_ (by simp) (fun k other => ?_) (fun other also => ?_) (by simp) (by simp)
    (fun r created done => ?_) (fun r done => ?_)
  · refine List.pairwise_append.mpr ⟨holds.distinct, List.pairwise_singleton _ _, fun a member b new => ?_⟩
    rw [List.mem_singleton.mp new]
    exact clear a member
  · rw [release_eq_some_iff, holds.holds]
    by_cases own : other = t
    · simp [own]
    · simp [own]
  · split at also
    · cases also
    · next differs =>
      intro r member
      rcases List.mem_append.mp member with old | new
      · exact holds.clear other also r old
      · rw [List.mem_singleton.mp new]
        exact apart other differs also
  · obtain ⟨rfl, rfl⟩ := Phase.returned.inj done
    exact ⟨by simp, p.wanted_mem t, fun _ => rfl⟩
  · obtain ⟨rfl, _⟩ := Phase.returned.inj done
    exact fun r' member shares => clear r' member shares.symm

theorem Invariant.step [DecidableEq τ] [DecidableEq κ] (holds : Invariant p start s) (t : τ) : Invariant p start (step p s t) := by
  unfold InsertOnce.step
  cases phase : s.phase t with
  | calling =>
    dsimp only
    split
    · next existing found =>
      refine holds.enter (by simp [phase]) (by simp [phase]) (by simp) (by simp) (by simp) (by simp) fun r created done => ?_
      obtain ⟨rfl, _⟩ := Phase.returned.inj done
      exact lookup_some found
    · exact holds.enter (by simp [phase]) (by simp [phase]) (by simp) (by simp) (by simp) (by simp) (by simp)
  | absent => exact holds.insert phase
  | inserted => exact holds.commit phase
  | conflicted =>
    dsimp only
    split
    · next existing found =>
      refine holds.enter (by simp [phase]) (by simp [phase]) (by simp) (by simp) (by simp) (by simp) fun r created done => ?_
      obtain ⟨rfl, _⟩ := Phase.returned.inj done
      exact lookup_some found
    · next missing =>
      refine holds.enter (by simp [phase]) (by simp [phase]) (by simp) (by simp) (by simp) (fun _ => ?_) (by simp)
      obtain ⟨r, member, k, mine, theirs⟩ := holds.conflicted t phase
      refine ⟨r, member, k, mine, theirs, ?_⟩
      rintro rfl
      exact lookup_none missing r member mine
  | returned | raised => exact holds

theorem run_invariant [DecidableEq τ] [DecidableEq κ] (distinct : Distinct p start) (schedule : List τ) :
    Invariant p start (Runs.run (step p) { rows := start } schedule) :=
  Runs.invariant (fun _ t holds => holds.step t) (invariant_initial distinct) schedule

/-- Transactions that look up one value return one row. -/
theorem Invariant.same (holds : Invariant p start s) {t other : τ} {r r' : α} {created created' : Bool}
    (first : s.phase t = .returned r created) (second : s.phase other = .returned r' created')
    (wanted : p.wanted t = p.wanted other) : r = r' := by
  obtain ⟨member, mine, _⟩ := holds.returned t r created first
  obtain ⟨member', theirs, _⟩ := holds.returned other r' created' second
  exact holds.distinct.eq member member' ⟨p.wanted t, mine, wanted ▸ theirs⟩

/-- One of them at most has stored it. -/
theorem Invariant.creator (holds : Invariant p start s) {t other : τ} {r r' : α}
    (first : s.phase t = .returned r true) (second : s.phase other = .returned r' true) (wanted : p.wanted t = p.wanted other) :
    t = other := by
  by_contra differs
  have mine := (holds.returned t r true first).2.1
  have theirs := (holds.returned other r' true second).2.1
  exact holds.single t other r r' first second differs ⟨p.wanted t, mine, wanted ▸ theirs⟩

/-! ## A transaction alone -/

/-- Nothing is stored for a value that is there. -/
theorem alone_found [DecidableEq τ] [DecidableEq κ] {existing : α} (found : lookup p start (p.wanted t) = some existing) :
    Runs.run (step p) { rows := start } [t, t, t] = ({ rows := start } : Floor τ κ α).enter t (.returned existing false) := by
  simp [Runs.run_cons, Runs.run_nil, step, found]

theorem alone_missing [DecidableEq τ] [DecidableEq κ] (missing : lookup p start (p.wanted t) = none)
    (clear : ∀ r ∈ start, ¬Shares p r (p.row t)) :
    (Runs.run (step p) { rows := start } [t, t, t]).phase t = .returned (p.row t) true ∧
      (Runs.run (step p) { rows := start } [t, t, t]).rows = start ++ [p.row t] := by
  have free : available (fun _ => none : κ → Option τ) t (p.keys (p.row t)) = true := by simp [available_iff]
  have none_met : ¬∃ r ∈ start, Shares p r (p.row t) := by simpa using clear
  simp [Runs.run_cons, Runs.run_nil, step, missing, insert, free, none_met]

/-! ## Every transaction ends -/

def pending [Fintype τ] (s : Floor τ κ α) : Nat := ∑ t, (s.phase t).rank

theorem pending_initial [Fintype τ] (rows : List α) : pending ({ rows } : Floor τ κ α) = 3 * Fintype.card τ := by
  simp [pending, Phase.rank, Nat.mul_comm]

section Ends
variable [DecidableEq τ] [DecidableEq κ]

/-- A statement that changes anything brings its transaction forward. -/
theorem step_forward (s : Floor τ κ α) (t : τ) :
    step p s t = s ∨ (((step p s t).phase t).rank < (s.phase t).rank ∧ ∀ other, other ≠ t → (step p s t).phase other = s.phase other) := by
  unfold InsertOnce.step
  cases phase : s.phase t with
  | calling =>
    dsimp only
    split
    · exact .inr ⟨by simp [Phase.rank], fun other differs => enter_phase_of_ne differs ..⟩
    · exact .inr ⟨by simp [Phase.rank], fun other differs => enter_phase_of_ne differs ..⟩
  | absent =>
    dsimp only [InsertOnce.insert]
    split
    · split
      · exact .inr ⟨by simp [Phase.rank], fun other differs => enter_phase_of_ne differs ..⟩
      · exact .inr ⟨by simp [Phase.rank], fun other differs => enter_phase_of_ne differs ..⟩
    · exact .inl rfl
  | inserted => exact .inr ⟨by simp [Phase.rank], fun other differs => enter_phase_of_ne differs ..⟩
  | conflicted =>
    dsimp only
    split
    · exact .inr ⟨by simp [Phase.rank], fun other differs => enter_phase_of_ne differs ..⟩
    · exact .inr ⟨by simp [Phase.rank], fun other differs => enter_phase_of_ne differs ..⟩
  | returned | raised => exact .inl rfl

/-- When no statement changes anything, every transaction has ended: one that waits waits
for one that only has to commit. -/
theorem Invariant.ended_of_still (holds : Invariant p start s) (still : ∀ t, InsertOnce.step p s t = s) (t : τ) :
    (s.phase t).ended = true := by
  have moves (other : τ) (phase : s.phase other ≠ (InsertOnce.step p s other).phase other) : False :=
    phase (by rw [still other])
  cases phase : s.phase t with
  | calling =>
    refine (moves t ?_).elim
    simp only [InsertOnce.step, phase]
    split <;> simp
  | inserted =>
    refine (moves t ?_).elim
    simp only [InsertOnce.step, phase]
    simp
  | conflicted =>
    refine (moves t ?_).elim
    simp only [InsertOnce.step, phase]
    split <;> simp
  | absent =>
    by_cases free : available s.holder t (p.keys (p.row t)) = true
    · refine (moves t ?_).elim
      simp only [InsertOnce.step, phase, InsertOnce.insert, free, if_true]
      split <;> simp
    · rw [available_iff] at free
      push Not at free
      obtain ⟨k, _, other, held, _⟩ := free
      have inserted := ((holds.holds k other).mp held).1
      refine (moves other ?_).elim
      simp only [InsertOnce.step, inserted]
      simp
  | returned | raised => rfl

variable [Fintype τ]

theorem step_pending (s : Floor τ κ α) (t : τ) : step p s t = s ∨ pending (step p s t) < pending s := by
  rcases step_forward (p := p) s t with same | ⟨forward, others⟩
  · exact .inl same
  · refine .inr (Finset.sum_lt_sum (fun other _ => ?_) ⟨t, Finset.mem_univ t, forward⟩)
    by_cases own : other = t
    · rw [own]
      exact forward.le
    · rw [others other own]

/-- A schedule changes nothing at any of its statements, or brings the whole forward. -/
theorem run_pending (s : Floor τ κ α) (schedule : List τ) :
    (Runs.run (step p) s schedule = s ∧ ∀ t ∈ schedule, step p s t = s) ∨ pending (Runs.run (step p) s schedule) < pending s := by
  induction schedule generalizing s with
  | nil => exact .inl ⟨rfl, by simp⟩
  | cons t rest ih =>
    rw [Runs.run_cons]
    rcases step_pending (p := p) s t with same | less
    · rw [same]
      exact (ih s).imp_left fun both => ⟨both.1, List.forall_mem_cons.mpr ⟨same, both.2⟩⟩
    · rcases ih (step p s t) with ⟨same, _⟩ | further
      · exact .inr (same.symm ▸ less)
      · exact .inr (further.trans less)

theorem pending_run_le (s : Floor τ κ α) (schedule : List τ) : pending (Runs.run (step p) s schedule) ≤ pending s := by
  rcases run_pending (p := p) s schedule with ⟨same, _⟩ | less
  · rw [same]
  · exact less.le

/-- More rounds than there are statements left end every transaction, in any order within a round. -/
theorem Invariant.rounds_end {rounds : List (List τ)} (holds : Invariant p start s) (complete : ∀ round ∈ rounds, ∀ t, t ∈ round)
    (enough : pending s < rounds.length) (t : τ) : ((Runs.run (InsertOnce.step p) s rounds.flatten).phase t).ended = true := by
  induction rounds generalizing s with
  | nil => exact absurd enough (Nat.not_lt_zero _)
  | cons round rest ih =>
    rw [List.flatten_cons, Runs.run_append]
    rcases run_pending (p := p) s round with ⟨same, still⟩ | less
    · -- The round changed nothing, so no later one does.
      have still (other : τ) : InsertOnce.step p s other = s := still other (complete round List.mem_cons_self other)
      have fixed (schedule : List τ) : Runs.run (InsertOnce.step p) s schedule = s := by
        induction schedule with
        | nil => rfl
        | cons other more again => rw [Runs.run_cons, still, again]
      rw [same, fixed]
      exact holds.ended_of_still still t
    · rw [List.length_cons] at enough
      exact ih (Runs.invariant (fun _ other holds => holds.step other) holds round)
        (fun round member => complete round (List.mem_cons_of_mem _ member)) (by omega)

end Ends
end InsertOnce
