import RCAA.Library.FirstByKey
import RCAA.Library.Outcome

/-! Insert-if-absent into a keyed, append-only collection, over a sequence of
requests. A request whose key is stored already is dropped; any other appends one
row, which takes the proof that the key is absent and may still fail. -/

/-- How requests become rows of a store. -/
structure Registry (σ ρ β κ ε : Type) where
  rows : σ → List β
  row : ρ → β
  key : β → κ
  add : (s : σ) → (r : ρ) → key (row r) ∉ (rows s).map key → Except ε σ
  rows_add : ∀ {s : σ} {r : ρ} {absent s'}, add s r absent = .ok s' → rows s' = rows s ++ [row r]

namespace Registry
variable {σ ρ β κ ε : Type} (g : Registry σ ρ β κ ε)

def keys (s : σ) : List κ := (g.rows s).map g.key
def keyOf (r : ρ) : κ := g.key (g.row r)

theorem keys_add {s s' : σ} {r : ρ} {absent : g.keyOf r ∉ g.keys s} (added : g.add s r absent = .ok s') :
    g.keys s' = g.keys s ++ [g.keyOf r] := by
  simp only [keys, keyOf, g.rows_add added, List.map_append, List.map_cons, List.map_nil]

variable [DecidableEq κ]

/-- Whether the request was new is reported with the store. -/
def put (s : σ) (r : ρ) : Except ε (σ × Bool) :=
  if known : g.keyOf r ∈ g.keys s then .ok (s, false) else (g.add s r known).map fun s' => (s', true)

def step (state : σ × Nat) (r : ρ) : Except ε (σ × Nat) :=
  (g.put state.1 r).map fun (s, new) => (s, state.2 + new.toNat)

/-- The store after a sequence of requests, with the number of rows it gained. -/
def putAll (s : σ) (requests : List ρ) : Except ε (σ × Nat) := requests.foldlM g.step (s, 0)

/-- The requests that append, in order: those whose key neither the store nor an
earlier request has. -/
def fresh (seen : List κ) (requests : List ρ) : List ρ := FirstByKey.firsts g.keyOf seen requests

theorem put_cases {s s' : σ} {r : ρ} {new : Bool} (done : g.put s r = .ok (s', new)) :
    (g.keyOf r ∈ g.keys s ∧ s' = s ∧ new = false) ∨
      (∃ absent : g.keyOf r ∉ g.keys s, g.add s r absent = .ok s' ∧ new = true) := by
  simp only [put] at done
  split at done
  · next known =>
    cases done
    exact .inl ⟨known, rfl, rfl⟩
  · next absent =>
    obtain ⟨added, stored, same⟩ := Outcome.map_ok done
    cases same
    exact .inr ⟨absent, stored, rfl⟩

/-- What every row added keeps holds of the store and the requests that added one. -/
theorem foldlM_relates {R : σ → List ρ → Prop}
    (kept : ∀ {s r absent s' added}, R s added → g.add s r absent = .ok s' → R s' (added ++ [r]))
    {s t : σ} {requests added : List ρ} {count total : Nat} (initial : R s added)
    (done : requests.foldlM g.step (s, count) = .ok (t, total)) :
    R t (added ++ g.fresh (g.keys s) requests) ∧ total = count + (g.fresh (g.keys s) requests).length := by
  induction requests generalizing s count added with
  | nil =>
    cases done
    simpa [fresh, FirstByKey.firsts] using initial
  | cons r rest ih =>
    obtain ⟨⟨s', count'⟩, stepped, finished⟩ := Outcome.foldlM_ok_cons done
    obtain ⟨⟨s'', new⟩, stored, same⟩ := Outcome.map_ok stepped
    cases same
    rcases g.put_cases stored with ⟨known, rfl, rfl⟩ | ⟨absent, added', rfl⟩
    · have tail := ih initial finished
      simpa only [fresh, FirstByKey.firsts, if_pos known, Bool.toNat_false, Nat.add_zero] using tail
    · obtain ⟨rows, counted⟩ := ih (kept initial added') finished
      rw [g.keys_add added'] at rows counted
      simp only [fresh] at rows counted
      simp only [fresh, FirstByKey.firsts, if_neg absent]
      exact ⟨by simpa using rows, by simp at counted ⊢; omega⟩

theorem putAll_relates {R : σ → List ρ → Prop}
    (kept : ∀ {s r absent s' added}, R s added → g.add s r absent = .ok s' → R s' (added ++ [r]))
    {s t : σ} {requests : List ρ} {created : Nat} (initial : R s []) (done : g.putAll s requests = .ok (t, created)) :
    R t (g.fresh (g.keys s) requests) := by
  simpa using (g.foldlM_relates kept initial done).1

/-- What a sequence of requests appends, and that the count is exact. -/
theorem putAll_rows {s t : σ} {requests : List ρ} {created : Nat}
    (done : g.putAll s requests = .ok (t, created)) :
    g.rows t = g.rows s ++ (g.fresh (g.keys s) requests).map g.row ∧
      created = (g.fresh (g.keys s) requests).length := by
  have kept : ∀ {s' : σ} {r : ρ} {absent s'' added}, g.rows s' = g.rows s ++ List.map g.row added →
      g.add s' r absent = .ok s'' → g.rows s'' = g.rows s ++ (added ++ [r]).map g.row := by
    intro s' r absent s'' added rows stored
    rw [g.rows_add stored, rows, List.map_append, List.map_singleton, List.append_assoc]
  have start : g.rows s = g.rows s ++ List.map g.row [] := by rw [List.map_nil, List.append_nil]
  have whole := g.foldlM_relates (R := fun t added => g.rows t = g.rows s ++ added.map g.row) kept start done
  rwa [List.nil_append, Nat.zero_add] at whole

/-! ## The store afterwards -/

/-- When what is refused does not depend on the other rows added, a sequence of
requests succeeds exactly when every request that appends is accepted at the start. -/
theorem putAll_ok_iff {accepts : σ → ρ → Prop} {apart : ρ → ρ → Prop}
    (exact : ∀ s r absent, (∃ s', g.add s r absent = .ok s') ↔ accepts s r)
    (stable : ∀ {s r absent s' other}, apart r other → g.add s r absent = .ok s' → (accepts s' other ↔ accepts s other))
    {requests : List ρ} (pairwise : requests.Pairwise apart) (s : σ) :
    (∃ t created, g.putAll s requests = .ok (t, created)) ↔ ∀ r ∈ g.fresh (g.keys s) requests, accepts s r := by
  have general : ∀ (s : σ) (count : Nat), (∃ t total, requests.foldlM g.step (s, count) = .ok (t, total)) ↔
      ∀ r ∈ g.fresh (g.keys s) requests, accepts s r := by
    induction requests with
    | nil => exact fun s count => ⟨fun _ r member => (by simp [fresh, FirstByKey.firsts] at member), fun _ => ⟨s, count, rfl⟩⟩
    | cons r rest ih =>
      intro s count
      obtain ⟨apart, pairwise⟩ := List.pairwise_cons.mp pairwise
      by_cases known : g.keyOf r ∈ g.keys s
      · have first : g.step (s, count) r = .ok (s, count) := by
          simp only [step, put, dif_pos known]
          rfl
        rw [List.foldlM_cons, first, fresh, FirstByKey.firsts, if_pos known]
        exact ih pairwise s count
      · rw [List.foldlM_cons, fresh, FirstByKey.firsts, if_neg known, List.forall_mem_cons, ← exact s r known]
        cases added : g.add s r known with
        | error e =>
          have failed : g.step (s, count) r = .error e := by
            simp only [step, put, dif_neg known, added]
            rfl
          rw [failed]
          constructor
          · rintro ⟨t, total, done⟩
            cases done
          · rintro ⟨⟨s', done⟩, _⟩
            cases done
        | ok s' =>
          have first : g.step (s, count) r = .ok (s', count + 1) := by
            simp only [step, put, dif_neg known, added]
            rfl
          have tail := ih pairwise s' (count + 1)
          rw [g.keys_add added] at tail
          rw [first, show (Except.ok (s', count + 1) >>= fun state => rest.foldlM g.step state) =
            rest.foldlM g.step (s', count + 1) from rfl, tail]
          constructor
          · intro every
            refine ⟨⟨s', rfl⟩, fun other member => ?_⟩
            have inside := (FirstByKey.firsts_sublist g.keyOf _ _).subset member
            exact (stable (apart other inside) added).mp (every other member)
          · rintro ⟨_, every⟩ other member
            have inside := (FirstByKey.firsts_sublist g.keyOf _ _).subset member
            exact (stable (apart other inside) added).mpr (every other member)
  exact general s 0

/-- When adding an absent row never fails, no sequence of requests does. -/
theorem putAll_ok (total : ∀ s r absent, ∃ s', g.add s r absent = .ok s') (s : σ) (requests : List ρ) :
    ∃ t created, g.putAll s requests = .ok (t, created) := by
  have exact : ∀ s r absent, (∃ s', g.add s r absent = .ok s') ↔ True := fun s r absent => iff_true_intro (total s r absent)
  have unrelated : requests.Pairwise fun _ _ => True := List.pairwise_of_forall fun _ _ => trivial
  exact (g.putAll_ok_iff exact (fun _ _ => Iff.rfl) unrelated s).mpr fun _ _ => trivial

theorem mem_keys_putAll {s t : σ} {requests : List ρ} {created : Nat}
    (done : g.putAll s requests = .ok (t, created)) (k : κ) :
    k ∈ g.keys t ↔ k ∈ g.keys s ∨ ∃ r ∈ requests, g.keyOf r = k := by
  simp only [keys, (g.putAll_rows done).1, List.map_append, List.map_map, List.mem_append]
  constructor
  · rintro (h | h)
    · exact .inl h
    · obtain ⟨r, hr, rfl⟩ := List.mem_map.mp h
      exact .inr ⟨r, (FirstByKey.firsts_sublist g.keyOf _ _).subset hr, rfl⟩
  · rintro (h | ⟨r, hr, rfl⟩)
    · exact .inl h
    · rcases FirstByKey.covered g.keyOf (g.keys s) requests hr with stored | ⟨e, he, same⟩
      · exact .inl stored
      · exact .inr (List.mem_map.mpr ⟨e, he, same⟩)

/-- A second pass adds nothing exactly when the first left every key of it. -/
theorem created_eq_zero_iff {s t : σ} {requests : List ρ} {created : Nat}
    (done : g.putAll s requests = .ok (t, created)) :
    created = 0 ↔ ∀ r ∈ requests, g.keyOf r ∈ g.keys s := by
  rw [(g.putAll_rows done).2, List.length_eq_zero_iff, fresh, FirstByKey.firsts_eq_nil_iff]

theorem putAll_stored {s : σ} {requests : List ρ} (stored : ∀ r ∈ requests, g.keyOf r ∈ g.keys s) :
    g.putAll s requests = .ok (s, 0) := by
  have general : ∀ (count : Nat), requests.foldlM g.step (s, count) = .ok (s, count) := by
    induction requests with
    | nil => exact fun _ => rfl
    | cons r rest ih =>
      intro count
      have first : g.step (s, count) r = .ok (s, count) := by
        simp only [step, put, dif_pos (stored r (by simp))]
        rfl
      rw [List.foldlM_cons, first]
      exact ih (fun e he => stored e (by simp [he])) count
  exact general 0

end Registry
