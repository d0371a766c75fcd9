import Mathlib

/-! Writers whose texts show where they end: what follows a text cannot be taken for a
part of it. Pairs and sequences of such texts are again such texts, so structured values
can be written one field after another and still be told apart. -/

/-- Equal texts with something behind them come from equal values. -/
def Delimited {α σ : Type} (write : α → List σ) : Prop :=
  ∀ a b rest rest', write a ++ rest = write b ++ rest' → a = b ∧ rest = rest'

namespace Delimited
variable {α β σ : Type} {write : α → List σ}

theorem injective (delimited : Delimited write) : Function.Injective write := by
  intro a b same
  have whole : write a ++ [] = write b ++ [] := by rw [same]
  exact (delimited a b [] [] whole).1

/-- Values told apart by what is written of them. -/
theorem comp (delimited : Delimited write) {f : β → α} (injective : Function.Injective f) :
    Delimited fun b => write (f b) := by
  intro a b rest rest' same
  obtain ⟨images, rests⟩ := delimited _ _ rest rest' same
  exact ⟨injective images, rests⟩

theorem pair (delimited : Delimited write) {other : β → List σ} (second : Delimited other) :
    Delimited fun p : α × β => write p.1 ++ other p.2 := by
  intro p q rest rest' same
  rw [List.append_assoc, List.append_assoc] at same
  obtain ⟨firsts, same⟩ := delimited _ _ _ _ same
  obtain ⟨seconds, rests⟩ := second _ _ _ _ same
  exact ⟨Prod.ext firsts seconds, rests⟩

end Delimited

/-- Every element behind a mark, and another mark at the end. -/
def delimitedList {α σ : Type} (next last : σ) (write : α → List σ) : List α → List σ
  | [] => [last]
  | a :: rest => next :: (write a ++ delimitedList next last write rest)

theorem Delimited.list {α σ : Type} {write : α → List σ} (delimited : Delimited write) {next last : σ} (apart : next ≠ last) :
    Delimited (delimitedList next last write) := by
  intro values
  induction values with
  | nil =>
    intro others rest rest' same
    cases others with
    | nil => exact ⟨rfl, (List.cons.inj same).2⟩
    | cons b others => exact absurd (List.cons.inj same).1.symm apart
  | cons a values ih =>
    intro others rest rest' same
    cases others with
    | nil => exact absurd (List.cons.inj same).1 apart
    | cons b others =>
      simp only [delimitedList, List.cons_append, List.append_assoc, List.cons.injEq, true_and] at same
      obtain ⟨rfl, tails⟩ := delimited _ _ _ _ same
      obtain ⟨rfl, rests⟩ := ih _ _ _ tails
      exact ⟨rfl, rests⟩
