import Mathlib

/-! Pages of a list. Consecutive pages are the list again; a reader that asks for page after
page until one is not full ends with what is left of the list. -/

namespace Paging
variable {α ε : Type}

/-- The items from a place on, as many as a page holds. -/
def page (skip count : Nat) (items : List α) : List α := (items.drop skip).take count

theorem page_append_drop (skip count : Nat) (items : List α) :
    page skip count items ++ items.drop (skip + count) = items.drop skip := by
  rw [page, ← List.drop_drop, List.take_append_drop]

theorem mem_page {skip count place : Nat} {items : List α} {x : α} (held : items[place]? = some x) (first : skip ≤ place)
    (last : place < skip + count) : x ∈ page skip count items := by
  refine List.mem_iff_getElem?.mpr ⟨place - skip, ?_⟩
  rw [page, List.getElem?_take_of_lt (by omega), List.getElem?_drop, Nat.add_sub_of_le first, held]

/-- The first pages hold the first items. -/
theorem flatMap_page (count pages : Nat) (items : List α) :
    (List.range pages).flatMap (fun i => page (i * count) count items) = items.take (pages * count) := by
  induction pages with
  | zero => simp
  | succ pages ih =>
    rw [List.range_succ, List.flatMap_append, ih, List.flatMap_singleton, page, Nat.succ_mul, List.take_add]

/-- Page after page until one is not full, with as many requests as there is fuel. -/
def fetch (get : Nat → Except ε (List α)) (count : Nat) : Nat → Nat → List α → Option (Except ε (List α))
  | 0, _, _ => none
  | fuel + 1, skip, items => match get skip with
    | .error raised => some (.error raised)
    | .ok read =>
      if read.length < count then some (.ok (items ++ read))
      else fetch get count fuel (skip + count) (items ++ read)

/-- More fuel changes no result. -/
theorem fetch_add {get : Nat → Except ε (List α)} {count fuel skip : Nat} {items : List α} {result : Except ε (List α)}
    (done : fetch get count fuel skip items = some result) (more : Nat) : fetch get count (fuel + more) skip items = some result := by
  induction fuel generalizing skip items with
  | zero => cases done
  | succ fuel ih =>
    rw [Nat.succ_add]
    simp only [fetch] at done ⊢
    split at done
    · exact done
    · split at done
      · next last =>
        rw [if_pos last]
        exact done
      · next full =>
        rw [if_neg full]
        exact ih done

theorem fetch_unique {get : Nat → Except ε (List α)} {count fuel other skip : Nat} {items : List α} {result also : Except ε (List α)}
    (done : fetch get count fuel skip items = some result) (again : fetch get count other skip items = some also) : result = also := by
  have one := fetch_add done other
  have two := fetch_add again fuel
  rw [Nat.add_comm] at two
  exact Option.some.inj (one.symm.trans two)

/-- A reader that is answered with the pages of a list ends, and has read it from its start on:
each full page leaves fewer items than there were. -/
theorem fetch_pages {count : Nat} (positive : 0 < count) (items : List α) {fuel skip : Nat} (before : List α)
    (enough : (items.length - skip) / count < fuel) :
    fetch (fun skip => (.ok (page skip count items) : Except ε (List α))) count fuel skip before =
      some (.ok (before ++ items.drop skip)) := by
  induction fuel generalizing skip before with
  | zero => exact absurd enough (Nat.not_lt_zero _)
  | succ fuel ih =>
    have rest := page_append_drop skip count items
    have held : (page skip count items).length = min count (items.length - skip) := by
      rw [page, List.length_take, List.length_drop]
    rw [fetch]
    dsimp only
    split
    · next short =>
      have last : items.drop (skip + count) = [] := List.drop_eq_nil_of_le (by omega)
      rw [last, List.append_nil] at rest
      rw [rest]
    · next full =>
      have fewer : (items.length - skip) / count = (items.length - (skip + count)) / count + 1 := by
        rw [← Nat.sub_sub]
        exact Nat.div_eq_sub_div positive (by omega)
      rw [ih _ (by omega), List.append_assoc, rest]

/-! ## Lists that grow while they are read -/

/-- An item of a list stands no earlier in a longer one. -/
theorem place_later {items longer : List α} (sub : items.Sublist longer) {place : Nat} {x : α} (held : items[place]? = some x) :
    ∃ later, place ≤ later ∧ longer[later]? = some x := by
  obtain ⟨move, same⟩ := List.sublist_iff_exists_orderEmbedding_getElem?_eq.mp sub
  exact ⟨move place, move.strictMono.le_apply, (same place).symm.trans held⟩

/-- A reader who takes page after page, each from the list as it is by then, comes to every item that was there at first. -/
theorem mem_growing_pages {lists : Nat → List α} (grows : ∀ i, (lists i).Sublist (lists (i + 1))) {count last : Nat} {x : α}
    (member : x ∈ lists 0) (whole : (lists last).length ≤ (last + 1) * count) :
    ∃ i ≤ last, x ∈ page (i * count) count (lists i) := by
  -- Not on the first pages, the item stands after them.
  have reached : ∀ n, (∃ i < n, x ∈ page (i * count) count (lists i)) ∨ ∃ place, n * count ≤ place ∧ (lists n)[place]? = some x := by
    intro n
    induction n with
    | zero =>
      obtain ⟨place, held⟩ := List.mem_iff_getElem?.mp member
      exact .inr ⟨place, by omega, held⟩
    | succ n ih =>
      rcases ih with ⟨i, before, found⟩ | ⟨place, after, held⟩
      · exact .inl ⟨i, by omega, found⟩
      · by_cases inside : place < n * count + count
        · exact .inl ⟨n, n.lt_succ_self, mem_page held after inside⟩
        · obtain ⟨later, moved, held⟩ := place_later (grows n) held
          refine .inr ⟨later, ?_, held⟩
          rw [Nat.succ_mul]
          omega
  rcases reached last with ⟨i, before, found⟩ | ⟨place, after, held⟩
  · exact ⟨i, before.le, found⟩
  · have inside := (List.getElem?_eq_some_iff.mp held).1
    rw [Nat.succ_mul] at whole
    exact ⟨last, le_rfl, mem_page held after (by omega)⟩

end Paging
