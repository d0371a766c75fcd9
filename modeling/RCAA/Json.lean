import Mathlib
import RCAA.Values

/-! JSON documents as the services pass and store them. A timestamp occurs only in
what a caller passes: a JSON column holds none. An object's keys are text and none is
repeated in a dictionary, in the order it was built. -/

namespace RCAA

inductive Json where
  | scalar (value : Scalar)
  | timestamp (value : DateTime)
  | list (items : List Json)
  | object (fields : List (String × Json))

namespace Json

def null : Json := .scalar .null
def str (text : String) : Json := .scalar (.str text)
def ofOption (text : Option String) : Json := .scalar (.ofOption text)

@[simp] theorem str_inj {a b : String} : str a = str b ↔ a = b := by
  simp only [str, scalar.injEq, Scalar.str.injEq]

@[simp] theorem ofOption_inj {a b : Option String} : ofOption a = ofOption b ↔ a = b := by
  cases a <;> cases b <;> simp [ofOption, Scalar.ofOption]

mutual

def decEq : (a b : Json) → Decidable (a = b)
  | .scalar a, .scalar b => decidable_of_iff (a = b) (by simp)
  | .timestamp a, .timestamp b => decidable_of_iff (a = b) (by simp)
  | .list a, .list b =>
    have := decEqItems a b
    decidable_of_iff (a = b) (by simp)
  | .object a, .object b =>
    have := decEqFields a b
    decidable_of_iff (a = b) (by simp)
  | .scalar _, .timestamp _ | .scalar _, .list _ | .scalar _, .object _ => isFalse nofun
  | .timestamp _, .scalar _ | .timestamp _, .list _ | .timestamp _, .object _ => isFalse nofun
  | .list _, .scalar _ | .list _, .timestamp _ | .list _, .object _ => isFalse nofun
  | .object _, .scalar _ | .object _, .timestamp _ | .object _, .list _ => isFalse nofun

def decEqItems : (a b : List Json) → Decidable (a = b)
  | [], [] => isTrue rfl
  | a :: rest, b :: rest' =>
    have := decEq a b
    have := decEqItems rest rest'
    decidable_of_iff (a = b ∧ rest = rest') (by simp)
  | [], _ :: _ | _ :: _, [] => isFalse nofun

def decEqFields : (a b : List (String × Json)) → Decidable (a = b)
  | [], [] => isTrue rfl
  | (key, a) :: rest, (key', b) :: rest' =>
    have := decEq a b
    have := decEqFields rest rest'
    decidable_of_iff (key = key' ∧ a = b ∧ rest = rest') (by simp [and_assoc])
  | [], _ :: _ | _ :: _, [] => isFalse nofun

end

instance : DecidableEq Json := decEq

def truthy : Json → Bool
  | .scalar value => value.truthy
  | .timestamp _ => true
  | .list items => !items.isEmpty
  | .object fields => !fields.isEmpty

mutual

/-- The document with the keys of its objects in order, at every depth. -/
def sorted : Json → Json
  | .scalar value => .scalar value
  | .timestamp value => .timestamp value
  | .list items => .list (sortedItems items)
  | .object fields => .object ((sortedFields fields).insertionSort fun a b => a.1 ≤ b.1)

def sortedItems : List Json → List Json
  | [] => []
  | item :: rest => sorted item :: sortedItems rest

def sortedFields : List (String × Json) → List (String × Json)
  | [] => []
  | (key, value) :: rest => (key, sorted value) :: sortedFields rest

end

@[simp] theorem sorted_str (text : String) : (str text).sorted = str text := rfl

@[simp] theorem sorted_ofOption (text : Option String) : (ofOption text).sorted = ofOption text := rfl

theorem sortedItems_eq_map (items : List Json) : sortedItems items = items.map sorted := by
  induction items with
  | nil => rfl
  | cons item rest ih => rw [sortedItems, ih, List.map_cons]

theorem sortedFields_keys (fields : List (String × Json)) : (sortedFields fields).map Prod.fst = fields.map Prod.fst := by
  induction fields with
  | nil => rfl
  | cons field rest ih => rw [sortedFields, List.map_cons, ih, List.map_cons]

/-- Lists with the same distinct keys, in the same order, that are permutations of each other. -/
theorem eq_of_perm_of_keys {β : Type} {xs ys : List (String × β)} (perm : xs.Perm ys) (keys : xs.map Prod.fst = ys.map Prod.fst)
    (distinct : (xs.map Prod.fst).Nodup) : xs = ys := by
  induction xs generalizing ys with
  | nil => exact perm.nil_eq
  | cons x xs ih =>
    cases ys with
    | nil => exact perm.eq_nil
    | cons y ys =>
      rw [List.map_cons, List.map_cons, List.cons.injEq] at keys
      rw [List.map_cons, List.nodup_cons, keys.2] at distinct
      have first : x = y := by
        rcases List.mem_cons.mp (perm.subset List.mem_cons_self) with first | later
        · exact first
        · exact absurd (List.mem_map_of_mem later) distinct.1
      subst first
      rw [ih perm.cons_inv keys.2 (keys.2 ▸ distinct.2)]

/-- Two objects with the same distinct keys, listed in the same order, differ in a value. -/
theorem sortedFields_inj {fields others : List (String × Json)} (keys : fields.map Prod.fst = others.map Prod.fst)
    (distinct : (fields.map Prod.fst).Nodup) (same : (object fields).sorted = (object others).sorted) :
    sortedFields fields = sortedFields others := by
  rw [sorted, sorted, object.injEq] at same
  have back := List.perm_insertionSort (fun a b : String × Json => a.1 ≤ b.1) (sortedFields others)
  rw [← same] at back
  refine eq_of_perm_of_keys ((List.perm_insertionSort _ _).symm.trans back) ?_ ?_
  · rw [sortedFields_keys, sortedFields_keys, keys]
  · rwa [sortedFields_keys]

mutual

/-- The document without the keys to drop, at every depth, its timestamps rendered. -/
def scrub (drops : String → Bool) (render : DateTime → Json) : Json → Json
  | .scalar value => .scalar value
  | .timestamp value => render value
  | .list items => .list (scrubItems drops render items)
  | .object fields => .object (scrubFields drops render fields)

def scrubItems (drops : String → Bool) (render : DateTime → Json) : List Json → List Json
  | [] => []
  | item :: rest => scrub drops render item :: scrubItems drops render rest

def scrubFields (drops : String → Bool) (render : DateTime → Json) : List (String × Json) → List (String × Json)
  | [] => []
  | (key, value) :: rest =>
    if drops key then scrubFields drops render rest
    else (key, scrub drops render value) :: scrubFields drops render rest

end

end Json
end RCAA
