import Mathlib

/-! Registers that events write in the order they arrive, while the value that counts is
the one of the newest event. An event that arrives late does no harm when it writes
nothing, or what the newest wrote. -/

namespace Newest
variable {ε α : Type} (time : ε → Int) (carried : ε → Option α)

/-- The event is as new as any of those that carry a value. -/
def IsNewest (events : List ε) (e : ε) : Prop := ∀ other ∈ events, (carried other).isSome → time other ≤ time e

instance (events : List ε) (e : ε) : Decidable (IsNewest time carried events e) :=
  inferInstanceAs (Decidable (∀ other ∈ events, (carried other).isSome → time other ≤ time e))

/-- The value is that of the newest event that carries one, or the initial value. -/
def Determined (events : List ε) (initial value : α) : Prop :=
  (∃ e ∈ events, carried e = some value ∧ IsNewest time carried events e) ∨
    ((∀ e ∈ events, carried e = none) ∧ value = initial)

/-- The newest of the events before is newer still and carries another value. -/
def Late (before : List ε) (e : ε) (value : α) : Prop :=
  ∃ other ∈ before, ∃ current, carried other = some current ∧ IsNewest time carried before other ∧
    time e < time other ∧ current ≠ value

variable {time carried} {events before : List ε} {e : ε} {initial value : α}

@[simp] theorem determined_nil : Determined time carried [] initial value ↔ value = initial := by
  simp [Determined]

theorem IsNewest.snoc (newest : IsNewest time carried before e) {other : ε} (later : (carried other).isSome → time other ≤ time e) :
    IsNewest time carried (before ++ [other]) e := by
  intro third member carries
  rcases List.mem_append.mp member with old | added
  · exact newest third old carries
  · rw [List.mem_singleton.mp added] at carries ⊢
    exact later carries

theorem Determined.unique {first second : α} (distinct : (events.map time).Nodup)
    (one : Determined time carried events initial first) (two : Determined time carried events initial second) :
    first = second := by
  rcases one with ⟨e, member, carries, newest⟩ | ⟨none, rfl⟩
  · rcases two with ⟨other, inside, carries', newest'⟩ | ⟨none, _⟩
    · have below := newest other inside (by rw [carries']; rfl)
      have above := newest' e member (by rw [carries]; rfl)
      have same : e = other := List.inj_on_of_nodup_map distinct member inside (Int.le_antisymm above below)
      rw [same] at carries
      exact Option.some.inj (carries.symm.trans carries')
    · cases carries.symm.trans (none e member)
  · rcases two with ⟨other, inside, carries', _⟩ | ⟨_, rfl⟩
    · cases carries'.symm.trans (none other inside)
    · rfl

/-- What one arrival makes of a register that was right: it is right again exactly if the
event, where it writes, is not late. -/
theorem determined_snoc_iff (distinct : ((before ++ [e]).map time).Nodup) {written : Option α}
    (carries : ∀ own, written = some own → carried e = some own)
    (skips : written = none → carried e = none ∨ ∃ other ∈ before, (carried other).isSome ∧ time e < time other)
    (right : Determined time carried before initial value) :
    Determined time carried (before ++ [e]) initial (written.getD value) ↔
      ∀ own, written = some own → ¬Late time carried before e own := by
  cases written with
  | none =>
    refine iff_of_true ?_ nofun
    rw [Option.getD_none]
    rcases right with ⟨other, member, value', newest⟩ | ⟨none, rfl⟩
    · refine .inl ⟨other, List.mem_append_left _ member, value', newest.snoc fun some => ?_⟩
      rcases skips rfl with without | ⟨third, inside, some', older⟩
      · rw [without] at some
        cases some
      · have below := newest third inside some'
        omega
    · refine .inr ⟨List.forall_mem_append.mpr ⟨none, ?_⟩, rfl⟩
      rcases skips rfl with without | ⟨third, inside, some', _⟩
      · simpa using without
      · rw [none third inside] at some'
        cases some'
  | some own =>
    have carriesOwn : carried e = some own := carries own rfl
    rw [Option.getD_some]
    constructor
    · intro determined own' written
      obtain rfl := Option.some.inj written
      rintro ⟨other, member, current, carries', newest, older, differs⟩
      have now : Determined time carried (before ++ [e]) initial current :=
        .inl ⟨other, List.mem_append_left _ member, carries', newest.snoc fun _ => Int.le_of_lt older⟩
      exact differs (now.unique distinct determined)
    · intro inTime
      by_cases newest : IsNewest time carried before e
      · exact .inl ⟨e, by simp, carriesOwn, newest.snoc fun _ => Int.le_refl _⟩
      · rcases right with ⟨other, member, carries', newest'⟩ | ⟨none, rfl⟩
        · have older : time e < time other := by
            by_contra notOlder
            refine newest fun third inside some => ?_
            have below := newest' third inside some
            omega
          have same : value = own := by
            by_contra differs
            exact inTime own rfl ⟨other, member, value, carries', newest', older, differs⟩
          rw [← same]
          exact .inl ⟨other, List.mem_append_left _ member, carries', newest'.snoc fun _ => Int.le_of_lt older⟩
        · exact absurd (fun other member some => by simp [none other member] at some) newest

/-- A property that each arrival keeps exactly if it is allowed holds after every part of
the arrivals exactly if each of them is. -/
theorem prefixes_iff {good : List ε → Prop} {allowed : List ε → ε → Prop} (start : good [])
    (step : ∀ before e, before ++ [e] <+: events → good before → (good (before ++ [e]) ↔ allowed before e)) :
    (∀ before, before <+: events → good before) ↔
      ∀ before e after, events = before ++ e :: after → allowed before e := by
  constructor
  · rintro every before e after rfl
    have now : before ++ [e] <+: before ++ e :: after := ⟨after, by simp⟩
    exact (step before e now (every before (List.prefix_append _ _))).mp (every _ now)
  · intro each before
    induction before using List.reverseRecOn with
    | nil => exact fun _ => start
    | append_singleton before e ih =>
      rintro ⟨after, rfl⟩
      have now : before ++ [e] <+: before ++ [e] ++ after := List.prefix_append _ _
      refine (step before e now (ih ⟨[e] ++ after, by simp⟩)).mpr (each before e after (by simp))

end Newest
