import RCAA.Library.KeyedRows

/-! Tables that several owners share. A writer changes rows of its own, of which a part
says who owns them and stays, and adds rows of its own; the rows of the others are then
the same list as before. -/

namespace OwnedRows
variable {α β : Type} {part : α → β} {mine : β → Prop} {rows middle after : List α}

/-- The table after writes to rows of one owner. -/
def Within (part : α → β) (mine : β → Prop) (rows after : List α) : Prop :=
  ∃ (write : α → α) (new : List α), after = rows.map write ++ new ∧ (∀ r, part (write r) = part r) ∧
    (∀ r ∈ rows, ¬mine (part r) → write r = r) ∧ ∀ r ∈ new, mine (part r)

namespace Within

theorem refl (part : α → β) (mine : β → Prop) (rows : List α) : Within part mine rows rows :=
  ⟨id, [], by simp, fun _ => rfl, fun _ _ _ => rfl, List.forall_mem_nil _⟩

theorem of_eq (same : after = rows) : Within part mine rows after := same ▸ refl part mine rows

theorem append {new : List α} (own : ∀ r ∈ new, mine (part r)) : Within part mine rows (rows ++ new) :=
  ⟨id, new, by simp, fun _ => rfl, fun _ _ _ => rfl, own⟩

theorem snoc {row : α} (own : mine (part row)) : Within part mine rows (rows ++ [row]) :=
  append fun _ member => List.mem_singleton.mp member ▸ own

/-- A write to the row of a key. -/
theorem update {κ : Type} [DecidableEq κ] (key : α → κ) {k : κ} {f : α → α} (fixed : ∀ r, part (f r) = part r)
    (own : ∀ r ∈ rows, key r = k → mine (part r)) : Within part mine rows (KeyedRows.update key k f rows) := by
  refine ⟨fun r => if key r = k then f r else r, [], by simp [KeyedRows.update], fun r => ?_, fun r member foreign => ?_,
    List.forall_mem_nil _⟩
  · dsimp only
    split
    · exact fixed r
    · rfl
  · exact if_neg fun same => foreign (own r member same)

theorem mono {wider : β → Prop} (within : Within part mine rows after) (implies : ∀ b, mine b → wider b) :
    Within part wider rows after := by
  obtain ⟨write, new, rows, fixed, others, own⟩ := within
  exact ⟨write, new, rows, fixed, fun r member foreign => others r member fun held => foreign (implies _ held),
    fun r member => implies _ (own r member)⟩

theorem trans (first : Within part mine rows middle) (second : Within part mine middle after) :
    Within part mine rows after := by
  obtain ⟨write, new, rfl, fixed, others, own⟩ := first
  obtain ⟨again, more, rfl, fixed', others', own'⟩ := second
  refine ⟨again ∘ write, new.map again ++ more, by simp, fun r => ?_, fun r member foreign => ?_, List.forall_mem_append.mpr ⟨?_, own'⟩⟩
  · exact (fixed' _).trans (fixed r)
  · have same := others r member foreign
    rw [Function.comp_apply, same]
    exact others' r (List.mem_append_left _ (List.mem_map.mpr ⟨r, member, same⟩)) foreign
  · intro r member
    obtain ⟨before, inside, rfl⟩ := List.mem_map.mp member
    rw [fixed']
    exact own before inside

/-- No row is lost, and each keeps its part. -/
theorem kept (within : Within part mine rows after) {r : α} (member : r ∈ rows) : ∃ r' ∈ after, part r' = part r := by
  obtain ⟨write, new, rfl, fixed, _, _⟩ := within
  exact ⟨write r, List.mem_append_left _ (List.mem_map_of_mem member), fixed r⟩

/-- A row was there, or is the writer's. -/
theorem origin (within : Within part mine rows after) {r' : α} (member : r' ∈ after) :
    (∃ r ∈ rows, part r = part r') ∨ mine (part r') := by
  obtain ⟨write, new, rfl, fixed, _, own⟩ := within
  rcases List.mem_append.mp member with old | added
  · obtain ⟨r, inside, rfl⟩ := List.mem_map.mp old
    exact .inl ⟨r, inside, (fixed r).symm⟩
  · exact .inr (own r' added)

/-- The rows of the others are as before. -/
theorem filter_eq (within : Within part mine rows after) (others : β → Bool) (apart : ∀ b, mine b → others b = false) :
    after.filter (fun r => others (part r)) = rows.filter fun r => others (part r) := by
  obtain ⟨write, new, rfl, fixed, kept, own⟩ := within
  have added : new.filter (fun r => others (part r)) = [] := by
    refine List.filter_eq_nil_iff.mpr fun r member => ?_
    rw [apart _ (own r member)]
    exact Bool.false_ne_true
  rw [List.filter_append, added, List.append_nil]
  induction rows with
  | nil => rfl
  | cons r rest ih =>
    rw [List.map_cons, List.filter_cons, List.filter_cons, fixed, ih fun r member => kept r (List.mem_cons_of_mem _ member)]
    split
    · next theirs =>
      rw [kept r List.mem_cons_self fun held => by rw [apart _ held] at theirs; cases theirs]
    · rfl

end Within
end OwnedRows
