import RCAA.Library.KeyedRows

/-! Rows kept beside a log of events. Each event belongs to the row of one key; the
state a row shows is what replaying its own events from a first state gives. Rows and
log are written separately, so this is an invariant of the writes: new rows start with
no event that says anything, and a row changes with the events that account for it. -/

namespace Journal
variable {κ ε σ ρ : Type} [DecidableEq κ] (owner : ε → κ) (effect : σ → ε → σ)

/-- The events of one row, in the order of the log. -/
def history (k : κ) (log : List ε) : List ε := log.filter fun e => owner e = k

def replay (start : σ) (events : List ε) : σ := events.foldl effect start

/-- An event that changes no state. -/
def Quiet (e : ε) : Prop := ∀ s, effect s e = s

theorem replay_append (start : σ) (first rest : List ε) :
    replay effect start (first ++ rest) = replay effect (replay effect start first) rest := List.foldl_append

variable {effect}

theorem replay_quiet {events : List ε} (quiet : ∀ e ∈ events, Quiet effect e) (start : σ) :
    replay effect start events = start := by
  induction events with
  | nil => rfl
  | cons e rest ih =>
    obtain ⟨first, others⟩ := List.forall_mem_cons.mp quiet
    have tail := ih others
    simp only [replay, List.foldl_cons, first start] at tail ⊢
    exact tail

variable {owner}

theorem history_append (k : κ) (first rest : List ε) :
    history owner k (first ++ rest) = history owner k first ++ history owner k rest := List.filter_append ..

theorem mem_history {k : κ} {log : List ε} {e : ε} : e ∈ history owner k log ↔ e ∈ log ∧ owner e = k := by
  rw [history, List.mem_filter, decide_eq_true_eq]

theorem history_own {k : κ} {log : List ε} (own : ∀ e ∈ log, owner e = k) : history owner k log = log := by
  rw [history, List.filter_eq_self]
  exact fun e member => decide_eq_true (own e member)

theorem history_other {k other : κ} {log : List ε} (own : ∀ e ∈ log, owner e = k) (apart : other ≠ k) :
    history owner other log = [] := by
  rw [history, List.filter_eq_nil_iff]
  intro e member same
  rw [decide_eq_true_eq, own e member] at same
  exact apart same.symm

variable (owner effect) (key : ρ → κ) (shows : ρ → σ → Prop) (start : σ)

/-- Every row shows what its history replays to, and an event that says anything belongs to a row. -/
structure Kept (rows : List ρ) (log : List ε) : Prop where
  replays : ∀ r ∈ rows, shows r (replay effect start (history owner (key r) log))
  owned : ∀ e ∈ log, Quiet effect e ∨ owner e ∈ rows.map key

theorem Kept.empty : Kept owner effect key shows start [] [] := ⟨by simp, by simp⟩

variable {owner effect key shows start} {rows : List ρ} {log added : List ε}

/-- New rows show the first state: no event that says anything has their key. -/
theorem Kept.grow (kept : Kept owner effect key shows start rows log) {new : List ρ}
    (distinct : ((rows ++ new).map key).Nodup) (fresh : ∀ r ∈ new, shows r start)
    (quiet : ∀ e ∈ added, Quiet effect e) : Kept owner effect key shows start (rows ++ new) (log ++ added) := by
  have silent : ∀ k, ∀ e ∈ history owner k added, Quiet effect e := fun k e member => quiet e (mem_history.mp member).1
  rw [List.map_append, List.nodup_append] at distinct
  constructor
  · intro r member
    rw [history_append, replay_append, replay_quiet (silent (key r))]
    rcases List.mem_append.mp member with old | made
    · exact kept.replays r old
    · have unsaid : ∀ e ∈ history owner (key r) log, Quiet effect e := by
        intro e inside
        obtain ⟨logged, own⟩ := mem_history.mp inside
        refine (kept.owned e logged).resolve_right fun known => ?_
        exact distinct.2.2 _ known _ (List.mem_map_of_mem made) own
      rw [replay_quiet unsaid]
      exact fresh r made
  · intro e member
    rcases List.mem_append.mp member with logged | new
    · rw [List.map_append, List.mem_append]
      exact (kept.owned e logged).imp_right .inl
    · exact .inl (quiet e new)

/-- One row is written with the events that account for the change. -/
theorem Kept.update (kept : Kept owner effect key shows start rows log) {k : κ} {write : ρ → ρ}
    (fixed : ∀ r, key (write r) = key r) (own : ∀ e ∈ added, owner e = k)
    (known : k ∈ rows.map key)
    (accounts : ∀ r ∈ rows, key r = k → ∀ s, shows r s → shows (write r) (replay effect s added)) :
    Kept owner effect key shows start (KeyedRows.update key k write rows) (log ++ added) := by
  constructor
  · intro r member
    rw [history_append, replay_append]
    rcases (KeyedRows.mem_update key r).mp member with ⟨old, apart⟩ | ⟨row, old, same, rfl⟩
    · rw [history_other own apart]
      exact kept.replays r old
    · rw [fixed, same, history_own own, ← same]
      exact accounts row old same _ (kept.replays row old)
  · intro e member
    rw [KeyedRows.map_update key fixed]
    rcases List.mem_append.mp member with logged | new
    · exact kept.owned e logged
    · exact .inr (own e new ▸ known)

end Journal
