import Mathlib

/-! Windows of one length that open with an event and hold the events until they end. Where
they open at least that length apart, an interval of the length meets at most two of them. -/

namespace FixedWindows

/-- The events counted in a window, and where it starts. -/
structure Window (τ : Type) where
  start : τ
  events : List τ

def events {τ : Type} (windows : List (Window τ)) : List τ := windows.flatMap (·.events)

section Interval
variable {τ : Type} [LinearOrder τ]

/-- The events in a closed interval. -/
def within (first last : τ) (events : List τ) : List τ := events.filter fun event => first ≤ event ∧ event ≤ last

theorem within_append (first last : τ) (left right : List τ) :
    within first last (left ++ right) = within first last left ++ within first last right := List.filter_append ..

theorem within_length_le (first last : τ) (events : List τ) : (within first last events).length ≤ events.length :=
  List.length_filter_le ..

variable [AddCommGroup τ]

/-- The latest window is the first of the list. -/
def Spaced (length : τ) (windows : List (Window τ)) : Prop :=
  windows.Pairwise fun later earlier => earlier.start + length ≤ later.start

def Window.Holds (length : τ) (window : Window τ) : Prop :=
  ∀ event ∈ window.events, window.start ≤ event ∧ event < window.start + length

variable {length first : τ} {limit : Nat} {windows : List (Window τ)}

/-- Windows that have ended by then have no events in the interval. -/
theorem within_ended (holds : ∀ w ∈ windows, w.Holds length) (ended : ∀ w ∈ windows, w.start + length ≤ first) :
    within first (first + length) (events windows) = [] := by
  refine List.filter_eq_nil_iff.mpr fun event member inside => ?_
  obtain ⟨w, stored, counted⟩ := List.mem_flatMap.mp member
  have before : event < first := (holds w stored event counted).2.trans_le (ended w stored)
  exact absurd (of_decide_eq_true inside).1 before.not_ge

/-- Of windows the latest of which starts by then, only that one has events in the interval. -/
theorem within_started (spaced : Spaced length windows) (holds : ∀ w ∈ windows, w.Holds length)
    (few : ∀ w ∈ windows, w.events.length ≤ limit) (started : ∀ w ∈ windows.head?, w.start ≤ first) :
    (within first (first + length) (events windows)).length ≤ limit := by
  cases windows with
  | nil => exact Nat.zero_le _
  | cons latest rest =>
    have ended : ∀ w ∈ rest, w.start + length ≤ first := fun w stored =>
      ((List.pairwise_cons.mp spaced).1 w stored).trans (started latest rfl)
    have none := within_ended (fun w stored => holds w (List.mem_cons_of_mem _ stored)) ended
    rw [events, List.flatMap_cons, within_append, ← events, none, List.append_nil]
    exact (within_length_le ..).trans (few latest List.mem_cons_self)

variable [IsOrderedAddMonoid τ]

/-- In an interval of a window's length there are at most the events of two windows. -/
theorem within_interval (spaced : Spaced length windows) (holds : ∀ w ∈ windows, w.Holds length)
    (few : ∀ w ∈ windows, w.events.length ≤ limit) :
    (within first (first + length) (events windows)).length ≤ 2 * limit := by
  induction windows with
  | nil => exact Nat.zero_le _
  | cons latest rest ih =>
    obtain ⟨apart, spaced⟩ := List.pairwise_cons.mp spaced
    obtain ⟨latestHolds, holds⟩ := List.forall_mem_cons.mp holds
    obtain ⟨latestFew, few⟩ := List.forall_mem_cons.mp few
    rw [events, List.flatMap_cons, within_append, ← events, List.length_append]
    by_cases reached : latest.start ≤ first + length
    · -- Every earlier window starts by the beginning of the interval.
      have started : ∀ w ∈ rest.head?, w.start ≤ first := fun w head =>
        le_of_add_le_add_right ((apart w (List.mem_of_mem_head? head)).trans reached)
      have earlier := within_started spaced holds few started
      have own := (within_length_le first (first + length) latest.events).trans latestFew
      omega
    · have beyond : within first (first + length) latest.events = [] := by
        refine List.filter_eq_nil_iff.mpr fun event counted inside => reached ?_
        exact (latestHolds event counted).1.trans (of_decide_eq_true inside).2
      rw [beyond, List.length_nil, Nat.zero_add]
      exact ih spaced holds few

end Interval
end FixedWindows
