import Mathlib

/-! Runs of a total step function. A property of every state a run reaches follows
from one step that keeps it, under a condition on the states and actions of the run
or without one. -/

namespace Runs
variable {σ α : Type} (step : σ → α → σ)

def run (s : σ) (actions : List α) : σ := actions.foldl step s

/-- A condition on the state before each action and the action taken there. -/
def Along (allowed : σ → α → Prop) : σ → List α → Prop
  | _, [] => True
  | s, a :: rest => allowed s a ∧ Along allowed (step s a) rest

/-- A property of every state a run reaches, the first and the last included. -/
def Throughout (good : σ → Prop) (s : σ) (actions : List α) : Prop :=
  ∀ before, before <+: actions → good (run step s before)

@[simp] theorem run_nil (s : σ) : run step s [] = s := rfl

@[simp] theorem run_cons (s : σ) (a : α) (rest : List α) : run step s (a :: rest) = run step (step s a) rest := rfl

theorem run_append (s : σ) (first rest : List α) : run step s (first ++ rest) = run step (run step s first) rest :=
  List.foldl_append

variable {step} {allowed : σ → α → Prop}

theorem along_cons {s : σ} {a : α} {rest : List α} :
    Along step allowed s (a :: rest) ↔ allowed s a ∧ Along step allowed (step s a) rest := Iff.rfl

theorem along_append {s : σ} {first rest : List α} :
    Along step allowed s (first ++ rest) ↔ Along step allowed s first ∧ Along step allowed (run step s first) rest := by
  induction first generalizing s with
  | nil => simp [Along]
  | cons a first ih => simp only [List.cons_append, along_cons, ih, run_cons, and_assoc]

def decideAlong [∀ s a, Decidable (allowed s a)] : (s : σ) → (actions : List α) → Decidable (Along step allowed s actions)
  | _, [] => isTrue trivial
  | s, a :: rest =>
    have := decideAlong (step s a) rest
    inferInstanceAs (Decidable (allowed s a ∧ Along step allowed (step s a) rest))

instance [∀ s a, Decidable (allowed s a)] (s : σ) (actions : List α) : Decidable (Along step allowed s actions) :=
  decideAlong s actions

/-- The condition holds along a run exactly when it holds at each of its actions. -/
theorem along_iff {s : σ} {actions : List α} :
    Along step allowed s actions ↔
      ∀ before a after, actions = before ++ a :: after → allowed (run step s before) a := by
  constructor
  · rintro along before a after rfl
    exact (along_append.mp along).2.1
  · intro every
    induction actions generalizing s with
    | nil => trivial
    | cons a rest ih =>
      refine ⟨every [] a rest rfl, ih fun before b after split => ?_⟩
      exact every (a :: before) b after (by rw [split, List.cons_append])

theorem Along.imp {weaker : σ → α → Prop} (implies : ∀ s a, allowed s a → weaker s a) {s : σ} {actions : List α}
    (along : Along step allowed s actions) : Along step weaker s actions := by
  rw [along_iff] at along ⊢
  exact fun before a after split => implies _ _ (along before a after split)

/-- What an invariant lets each allowed action promise, it promises along every allowed run. -/
theorem Along.promise {invariant : σ → Prop} {promised : σ → α → Prop}
    (kept : ∀ s a, invariant s → allowed s a → invariant (step s a))
    (each : ∀ s a, invariant s → allowed s a → promised s a) {s : σ} {actions : List α} (initial : invariant s)
    (along : Along step allowed s actions) : Along step promised s actions := by
  induction actions generalizing s with
  | nil => trivial
  | cons a rest ih => exact ⟨each s a initial along.1, ih (kept s a initial along.1) along.2⟩

theorem Along.and {other : σ → α → Prop} {s : σ} {actions : List α} (first : Along step allowed s actions)
    (second : Along step other s actions) : Along step (fun s a => allowed s a ∧ other s a) s actions := by
  induction actions generalizing s with
  | nil => trivial
  | cons a rest ih => exact ⟨⟨first.1, second.1⟩, ih first.2 second.2⟩

theorem Along.take {s : σ} {before actions : List α} (along : Along step allowed s actions)
    (first : before <+: actions) : Along step allowed s before := by
  obtain ⟨rest, rfl⟩ := first
  exact (along_append.mp along).1

/-- What each allowed action keeps holds at the end of an allowed run. -/
theorem invariant_along {invariant : σ → Prop} (kept : ∀ s a, invariant s → allowed s a → invariant (step s a))
    {s : σ} {actions : List α} (initial : invariant s) (along : Along step allowed s actions) :
    invariant (run step s actions) := by
  induction actions generalizing s with
  | nil => exact initial
  | cons a rest ih => exact ih (kept s a initial along.1) along.2

/-- What every action keeps holds at the end of every run. -/
theorem invariant {invariant : σ → Prop} (kept : ∀ s a, invariant s → invariant (step s a)) {s : σ}
    (initial : invariant s) (actions : List α) : invariant (run step s actions) := by
  have along : Along step (fun _ _ => True) s actions := along_iff.mpr fun _ _ _ _ => trivial
  exact invariant_along (fun s a holds _ => kept s a holds) initial along

/-- When, in every state an invariant admits, an action keeps the property exactly if
it is allowed, the property holds throughout a run exactly if every action of it is. -/
theorem throughout_iff {invariant good : σ → Prop} (kept : ∀ s a, invariant s → invariant (step s a))
    (exact : ∀ s a, invariant s → good s → (good (step s a) ↔ allowed s a)) {s : σ} (initial : invariant s)
    (start : good s) (actions : List α) :
    Throughout step good s actions ↔ Along step allowed s actions := by
  constructor
  · intro throughout
    rw [along_iff]
    rintro before a after rfl
    have reached : invariant (run step s before) := Runs.invariant kept initial before
    have now := throughout before (List.prefix_append _ _)
    have next := throughout (before ++ [a]) ⟨after, by simp⟩
    rw [run_append] at next
    exact (exact _ a reached now).mp next
  · intro along before first
    have both : ∀ s a, invariant s ∧ good s → allowed s a → invariant (step s a) ∧ good (step s a) :=
      fun s a holds may => ⟨kept s a holds.1, (exact s a holds.1 holds.2).mpr may⟩
    exact (invariant_along both ⟨initial, start⟩ (along.take first)).2

end Runs
