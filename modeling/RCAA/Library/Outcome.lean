import Mathlib

/-! Computations that return a value or raise: what a finished `do` block did, and
invariants of a loop that may raise. -/

namespace Outcome
variable {ε α β γ σ : Type}

theorem bind_ok {x : Except ε α} {f : α → Except ε β} {b : β} (done : (x >>= f) = .ok b) :
    ∃ a, x = .ok a ∧ f a = .ok b := by
  cases x with
  | error e => cases done
  | ok a => exact ⟨a, rfl, done⟩

theorem bind_ok_iff {x : Except ε α} {f : α → Except ε β} {b : β} : (x >>= f) = .ok b ↔ ∃ a, x = .ok a ∧ f a = .ok b := by
  refine ⟨bind_ok, ?_⟩
  rintro ⟨a, rfl, done⟩
  exact done

theorem map_ok {x : Except ε α} {f : α → β} {b : β} (done : x.map f = .ok b) :
    ∃ a, x = .ok a ∧ f a = b := by
  cases x with
  | error e => cases done
  | ok a => exact ⟨a, rfl, Except.ok.inj done⟩

theorem map_bind {x : Except ε α} {f : α → Except ε β} {g : β → γ} : (x >>= f).map g = x >>= fun a => (f a).map g := by
  cases x <;> rfl

theorem exists_ok {x : Except ε α} (returns : x.isOk = true) : ∃ a, x = .ok a := by
  cases x with
  | error e => cases returns
  | ok a => exact ⟨a, rfl⟩

/-- A value read of the result is that of one returned. -/
theorem exists_ok_of_map {x : Except ε α} {f : α → β} {b : β} (read : x.toOption.map f = some b) : ∃ a, x = .ok a ∧ f a = b := by
  cases x with
  | error e => cases read
  | ok a => exact ⟨a, rfl, Option.some.inj read⟩

theorem foldlM_ok_cons {f : σ → α → Except ε σ} {s t : σ} {a : α} {rest : List α}
    (done : (a :: rest).foldlM f s = .ok t) : ∃ s', f s a = .ok s' ∧ rest.foldlM f s' = .ok t := by
  rw [List.foldlM_cons] at done
  exact bind_ok done

/-- A property of the state and the elements read so far, kept by each step that
does not raise, holds at the end of a loop that does not. -/
theorem foldlM_invariant {f : σ → α → Except ε σ} (invariant : List α → σ → Prop)
    (step : ∀ {read s a s'}, invariant read s → f s a = .ok s' → invariant (read ++ [a]) s')
    {read items : List α} {s t : σ} (initial : invariant read s) (done : items.foldlM f s = .ok t) :
    invariant (read ++ items) t := by
  induction items generalizing read s with
  | nil =>
    cases done
    simpa only [List.append_nil] using initial
  | cons a rest ih =>
    obtain ⟨s', stepped, finished⟩ := foldlM_ok_cons done
    rw [List.append_cons]
    exact ih (step initial stepped) finished

/-- A loop whose every step returns, from the state the steps before leave, returns. -/
theorem foldlM_returns {f : σ → α → Except ε σ} (invariant : List α → σ → Prop) {items : List α} {s : σ} (initial : invariant [] s)
    (step : ∀ {read s a rest}, items = read ++ a :: rest → invariant read s → ∃ s', f s a = .ok s' ∧ invariant (read ++ [a]) s') :
    ∃ t, items.foldlM f s = .ok t ∧ invariant items t := by
  have loop : ∀ (rest read : List α) (s : σ), items = read ++ rest → invariant read s →
      ∃ t, rest.foldlM f s = .ok t ∧ invariant items t := by
    intro rest
    induction rest with
    | nil =>
      intro read s whole holds
      rw [List.append_nil] at whole
      exact ⟨s, rfl, whole ▸ holds⟩
    | cons a rest ih =>
      intro read s whole holds
      obtain ⟨s', stepped, kept⟩ := step whole holds
      obtain ⟨t, done, last⟩ := ih (read ++ [a]) s' (by rw [whole, List.append_cons]) kept
      refine ⟨t, ?_, last⟩
      rw [List.foldlM_cons, stepped]
      exact done
  exact loop items [] s rfl initial

theorem mapM_ok_cons {f : α → Except ε β} {a : α} {rest : List α} {results : List β}
    (done : (a :: rest).mapM f = .ok results) :
    ∃ b bs, f a = .ok b ∧ rest.mapM f = .ok bs ∧ results = b :: bs := by
  rw [List.mapM_cons] at done
  obtain ⟨b, first, done⟩ := bind_ok done
  obtain ⟨bs, others, done⟩ := bind_ok done
  exact ⟨b, bs, first, others, (Except.ok.inj done).symm⟩

/-- A loop that collects results and does not raise relates them one by one. -/
theorem mapM_forall₂ {f : α → Except ε β} {items : List α} {results : List β}
    (done : items.mapM f = .ok results) : List.Forall₂ (fun a b => f a = .ok b) items results := by
  induction items generalizing results with
  | nil =>
    cases done
    exact List.Forall₂.nil
  | cons a rest ih =>
    obtain ⟨b, bs, first, others, rfl⟩ := mapM_ok_cons done
    exact List.Forall₂.cons first (ih others)

theorem mapM_isOk_iff {f : α → Except ε β} {items : List α} :
    (∃ results, items.mapM f = .ok results) ↔ ∀ a ∈ items, ∃ b, f a = .ok b := by
  induction items with
  | nil => exact ⟨fun _ a member => (by simp at member), fun _ => ⟨[], rfl⟩⟩
  | cons a rest ih =>
    rw [List.forall_mem_cons, ← ih]
    constructor
    · rintro ⟨results, done⟩
      obtain ⟨b, bs, first, others, _⟩ := mapM_ok_cons done
      exact ⟨⟨b, first⟩, bs, others⟩
    · rintro ⟨⟨b, first⟩, bs, others⟩
      refine ⟨b :: bs, ?_⟩
      rw [List.mapM_cons, first]
      change (rest.mapM f >>= fun bs => pure (b :: bs)) = _
      rw [others]
      rfl

theorem forall₂_getElem? {related : α → β → Prop} {items : List α} {results : List β}
    (every : List.Forall₂ related items results) {i : Nat} {b : β} (result : results[i]? = some b) :
    ∃ a, items[i]? = some a ∧ related a b := by
  induction every generalizing i with
  | nil => cases result
  | cons first _ ih =>
    cases i with
    | zero =>
      cases result
      exact ⟨_, rfl, first⟩
    | succ i => exact ih result

theorem mapM_getElem? {f : α → Except ε β} {items : List α} {results : List β} (done : items.mapM f = .ok results)
    {i : Nat} {b : β} (result : results[i]? = some b) : ∃ a, items[i]? = some a ∧ f a = .ok b :=
  forall₂_getElem? (mapM_forall₂ done) result

/-- The same of a loop that is given the place of each element. -/
theorem mapM_zipIdx_getElem? {f : α × Nat → Except ε β} {items : List α} {results : List β}
    (done : items.zipIdx.mapM f = .ok results) {i : Nat} {b : β} (result : results[i]? = some b) :
    ∃ a, items[i]? = some a ∧ f (a, i) = .ok b := by
  obtain ⟨⟨a, j⟩, place, read⟩ := mapM_getElem? done result
  rw [List.getElem?_zipIdx, Option.map_eq_some_iff] at place
  obtain ⟨_, inside, same⟩ := place
  cases same
  rw [Nat.zero_add] at read
  exact ⟨a, inside, read⟩

theorem forall₂_right {related : α → β → Prop} {items : List α} {results : List β}
    (every : List.Forall₂ related items results) {b : β} (member : b ∈ results) : ∃ a ∈ items, related a b := by
  induction every with
  | nil => simp at member
  | cons first _ ih =>
    rcases List.mem_cons.mp member with rfl | member
    · exact ⟨_, List.mem_cons_self, first⟩
    · obtain ⟨a, inside, this⟩ := ih member
      exact ⟨a, List.mem_cons_of_mem _ inside, this⟩

theorem forall₂_left {related : α → β → Prop} {items : List α} {results : List β}
    (every : List.Forall₂ related items results) {a : α} (member : a ∈ items) : ∃ b ∈ results, related a b :=
  forall₂_right every.flip member

/-- Two lists related one by one to the same list are related one by one. -/
theorem forall₂_common {related : α → β → Prop} {also : α → γ → Prop} {items : List α} {results : List β}
    {others : List γ} (every : List.Forall₂ related items results) (again : List.Forall₂ also items others) :
    List.Forall₂ (fun b c => ∃ a, related a b ∧ also a c) results others := by
  induction every generalizing others with
  | nil =>
    cases again
    exact List.Forall₂.nil
  | cons first _ ih =>
    cases again with
    | cons second rest => exact List.Forall₂.cons ⟨_, first, second⟩ (ih rest)

/-! ## Errors that are not raised -/

/-- A computation that raises no error of a kind. -/
def Avoids (kind : ε → Prop) (x : Except ε α) : Prop := ∀ e, x = .error e → ¬kind e

namespace Avoids
variable {kind : ε → Prop}

theorem ok (a : α) : Avoids kind (.ok a : Except ε α) := fun _ raised => nomatch raised

theorem error {e : ε} (other : ¬kind e) : Avoids kind (.error e : Except ε α) := by
  intro e' raised
  cases raised
  exact other

theorem bind {x : Except ε α} {f : α → Except ε β} (first : Avoids kind x) (next : ∀ a, x = .ok a → Avoids kind (f a)) :
    Avoids kind (x >>= f) := by
  cases x with
  | error e =>
    intro e' raised
    cases raised
    exact first e rfl
  | ok a => exact next a rfl

/-- A loop avoids the errors its steps avoid from every state they keep. -/
theorem foldlM {f : σ → α → Except ε σ} (invariant : σ → Prop) {items : List α} {s : σ} (initial : invariant s)
    (step : ∀ {s a}, a ∈ items → invariant s → Avoids kind (f s a) ∧ ∀ s', f s a = .ok s' → invariant s') :
    Avoids kind (items.foldlM f s) ∧ ∀ t, items.foldlM f s = .ok t → invariant t := by
  induction items generalizing s with
  | nil =>
    refine ⟨ok s, fun t done => ?_⟩
    cases done
    exact initial
  | cons a rest ih =>
    obtain ⟨avoids, keeps⟩ := step List.mem_cons_self initial
    have later {s' : σ} (stepped : f s a = .ok s') := ih (keeps s' stepped) fun member => step (List.mem_cons_of_mem _ member)
    rw [List.foldlM_cons]
    refine ⟨avoids.bind fun s' stepped => (later stepped).1, fun t done => ?_⟩
    obtain ⟨s', stepped, done⟩ := bind_ok done
    exact (later stepped).2 t done

theorem map {x : Except ε α} {f : α → β} (first : Avoids kind x) : Avoids kind (x.map f) := by
  cases x with
  | error e =>
    intro e' raised
    cases raised
    exact first e rfl
  | ok a => exact ok (f a)

theorem mapM {f : α → Except ε β} {items : List α} (each : ∀ a ∈ items, Avoids kind (f a)) : Avoids kind (items.mapM f) := by
  induction items with
  | nil => exact ok []
  | cons a rest ih =>
    rw [List.mapM_cons]
    refine (each a List.mem_cons_self).bind fun b _ => ?_
    exact (ih fun a member => each a (List.mem_cons_of_mem _ member)).bind fun bs _ => ok (b :: bs)

end Avoids

/-! ## What a computation ends with -/

/-- A computation that raises only errors of a kind, and returns only good values. -/
def Ends (kind : ε → Prop) (good : α → Prop) : Except ε α → Prop
  | .error e => kind e
  | .ok a => good a

theorem ends_bind {kind : ε → Prop} {good : β → Prop} {x : Except ε α} {f : α → Except ε β} :
    Ends kind good (x >>= f) ↔ Ends kind (fun a => Ends kind good (f a)) x := by
  cases x <;> exact Iff.rfl

@[simp] theorem ends_pure {kind : ε → Prop} {good : α → Prop} {a : α} :
    Ends kind good (pure a : Except ε α) ↔ good a := Iff.rfl

end Outcome
