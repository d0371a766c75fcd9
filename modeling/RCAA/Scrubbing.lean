import RCAA.Audit.Service
import RCAA.Jobs.Service

/-! Removing secrets from documents. The audit trail and the job queue drop the members
whose lower-cased name is sensitive, wherever an object stands, and leave the rest where
it was; a second pass finds nothing more to drop. A place in a document is the names and
positions that lead to it. -/

namespace RCAA

namespace Json

/-! ## Places -/

inductive Step where
  | name (key : String)
  | position (index : Nat)
deriving DecidableEq

/-- The step enters a member that is dropped. -/
def Step.dropped (drops : String → Bool) : Step → Bool
  | .name key => drops key
  | .position _ => false

/-- The value at a place. -/
def at? : List Step → Json → Option Json
  | [], value => some value
  | .name key :: rest, .object fields => (fields.lookup key).bind (at? rest)
  | .position index :: rest, .list items => items[index]?.bind (at? rest)
  | _ :: _, _ => none

def isLeaf : Json → Bool
  | .scalar _ | .timestamp _ => true
  | .list _ | .object _ => false

/-- A leaf with its timestamp as it is written. -/
def rendered (render : DateTime → Json) : Json → Json
  | .timestamp value => render value
  | value => value

theorem at?_leaf {value : Json} (leaf : value.isLeaf = true) (step : Step) (rest : List Step) :
    at? (step :: rest) value = none := by
  cases value with
  | scalar => cases step <;> rfl
  | timestamp => cases step <;> rfl
  | list => cases leaf
  | object => cases leaf

/-- A property of the members of every container holds of every document. -/
@[elab_as_elim]
theorem member_induction {motive : Json → Prop} (scalar : ∀ value, motive (.scalar value))
    (timestamp : ∀ value, motive (.timestamp value))
    (list : ∀ items, (∀ item ∈ items, motive item) → motive (.list items))
    (object : ∀ fields, (∀ field ∈ fields, motive field.2) → motive (.object fields)) (value : Json) : motive value := by
  refine Json.rec (motive_2 := fun items => ∀ item ∈ items, motive item)
    (motive_3 := fun fields => ∀ field ∈ fields, motive field.2) (motive_4 := fun field => motive field.2)
    scalar timestamp list object ?_ ?_ ?_ ?_ (fun _ _ holds => holds) value
  · exact fun _ member => nomatch member
  · exact fun _ _ head tail => List.forall_mem_cons.mpr ⟨head, tail⟩
  · exact fun _ member => nomatch member
  · exact fun _ _ head tail => List.forall_mem_cons.mpr ⟨head, tail⟩

/-! ## What scrubbing leaves -/

section Scrub
variable {drops : String → Bool} {render : DateTime → Json}

theorem scrubItems_eq_map (items : List Json) : scrubItems drops render items = items.map (scrub drops render) := by
  induction items with
  | nil => rfl
  | cons item rest ih => rw [scrubItems, ih, List.map_cons]

theorem scrubFields_lookup_dropped {key : String} (dropped : drops key = true) (fields : List (String × Json)) :
    (scrubFields drops render fields).lookup key = none := by
  induction fields with
  | nil => rfl
  | cons field rest ih =>
    obtain ⟨name, value⟩ := field
    rw [scrubFields]
    split
    · exact ih
    · next kept =>
      have other : (key == name) = false := beq_eq_false_iff_ne.mpr fun same => kept (same ▸ dropped)
      rw [List.lookup_cons, other]
      exact ih

theorem scrubFields_lookup_kept {key : String} (kept : drops key = false) (fields : List (String × Json)) :
    (scrubFields drops render fields).lookup key = (fields.lookup key).map (scrub drops render) := by
  induction fields with
  | nil => rfl
  | cons field rest ih =>
    obtain ⟨name, value⟩ := field
    rw [scrubFields, List.lookup_cons]
    cases same : key == name with
    | true =>
      rw [← beq_iff_eq.mp same, kept, if_neg Bool.false_ne_true, List.lookup_cons, beq_self_eq_true]
      rfl
    | false =>
      split
      · exact ih
      · rw [List.lookup_cons, same]
        exact ih

theorem scrub_leaf {value : Json} (leaf : value.isLeaf = true) : scrub drops render value = value.rendered render := by
  cases value with
  | scalar => rfl
  | timestamp => rfl
  | list => cases leaf
  | object => cases leaf

/-- A place is empty when its way leads through a dropped name, and has the scrubbed
value of the same place otherwise. -/
theorem at?_scrub (atomic : ∀ d, (render d).isLeaf = true) (path : List Step) (value : Json) :
    at? path (scrub drops render value) =
      if path.any (Step.dropped drops) then none else (at? path value).map (scrub drops render) := by
  induction path generalizing value with
  | nil => rfl
  | cons step rest ih =>
    cases value with
    | scalar => rw [scrub, at?_leaf rfl, Option.map_none, ite_self]
    | timestamp d => rw [scrub, at?_leaf (atomic d), at?_leaf rfl, Option.map_none, ite_self]
    | list items =>
      cases step with
      | name => exact (ite_self none).symm
      | position index =>
        rw [scrub, at?, at?, scrubItems_eq_map, List.getElem?_map, List.any_cons, Step.dropped, Bool.false_or]
        cases items[index]? with
        | none => exact (ite_self none).symm
        | some item => exact ih item
    | object fields =>
      cases step with
      | position => exact (ite_self none).symm
      | name key =>
        rw [scrub, at?, at?, List.any_cons, Step.dropped]
        cases dropped : drops key with
        | true => rw [scrubFields_lookup_dropped dropped, Bool.true_or, if_pos rfl, Option.bind_none]
        | false =>
          rw [scrubFields_lookup_kept dropped, Bool.false_or]
          cases fields.lookup key with
          | none => exact (ite_self none).symm
          | some value => exact ih value

/-- There is nothing to drop the second time. -/
theorem scrub_scrub (atomic : ∀ d, scrub drops render (render d) = render d) (value : Json) :
    scrub drops render (scrub drops render value) = scrub drops render value := by
  induction value using member_induction with
  | scalar => rfl
  | timestamp d => exact atomic d
  | list items ih =>
    rw [scrub, scrub, scrubItems_eq_map, scrubItems_eq_map, List.map_map]
    exact congrArg list (List.map_congr_left ih)
  | object fields ih =>
    rw [scrub, scrub]
    refine congrArg object ?_
    induction fields with
    | nil => rfl
    | cons field rest others =>
      obtain ⟨name, value⟩ := field
      obtain ⟨first, later⟩ := List.forall_mem_cons.mp ih
      cases dropped : drops name with
      | true => rw [scrubFields, dropped, if_pos rfl, others later]
      | false =>
        rw [scrubFields, dropped, if_neg Bool.false_ne_true, scrubFields, dropped, if_neg Bool.false_ne_true, first,
          others later]

end Scrub

end Json

/-! ## The two services -/

section Services
variable [Platform]

/-- The way leads through a member whose lower-cased name is sensitive. -/
def EntersSensitive (sensitive : List String) (path : List Json.Step) : Prop :=
  ∃ key, .name key ∈ path ∧ lower key ∈ sensitive

/-- What a scrubber removes and what it keeps. -/
structure ScrubsExactly (sensitive : List String) (render : DateTime → Json) (scrubber : Json → Json) : Prop where
  /-- Sensitive members are gone with their values, at every depth. -/
  removed : ∀ value path, EntersSensitive sensitive path → Json.at? path (scrubber value) = none
  /-- Every other leaf is where it was. -/
  kept : ∀ value path leaf, ¬EntersSensitive sensitive path → Json.at? path value = some leaf → leaf.isLeaf = true →
    Json.at? path (scrubber value) = some (leaf.rendered render)
  /-- Every other place has what scrubbing leaves of its value, and no place is new. -/
  places : ∀ value path, ¬EntersSensitive sensitive path → Json.at? path (scrubber value) = (Json.at? path value).map scrubber
  twice : ∀ value, scrubber (scrubber value) = scrubber value

theorem any_dropped_iff (sensitive : List String) (path : List Json.Step) :
    path.any (Json.Step.dropped fun key => lower key ∈ sensitive) = true ↔ EntersSensitive sensitive path := by
  rw [List.any_eq_true]
  constructor
  · rintro ⟨step, member, dropped⟩
    cases step with
    | name key => exact ⟨key, member, of_decide_eq_true dropped⟩
    | position => cases dropped
  · rintro ⟨key, member, dropped⟩
    exact ⟨.name key, member, decide_eq_true dropped⟩

/-- A scrubber that writes timestamps as leaves it leaves alone is exact. -/
theorem scrubs_exactly (sensitive : List String) {render : DateTime → Json} (atomic : ∀ d, (render d).isLeaf = true)
    (stable : ∀ d, (render d).rendered render = render d) :
    ScrubsExactly sensitive render (Json.scrub (fun key => lower key ∈ sensitive) render) := by
  have places : ∀ value path, ¬EntersSensitive sensitive path →
      Json.at? path (Json.scrub (fun key => lower key ∈ sensitive) render value) =
        (Json.at? path value).map (Json.scrub (fun key => lower key ∈ sensitive) render) := by
    intro value path clear
    rw [Json.at?_scrub atomic, if_neg fun dropped => clear ((any_dropped_iff sensitive path).mp dropped)]
  refine ⟨?removed, ?kept, places, ?twice⟩
  case removed =>
    intro value path enters
    rw [Json.at?_scrub atomic, if_pos ((any_dropped_iff sensitive path).mpr enters)]
  case kept =>
    intro value path leaf clear found isLeaf
    rw [places value path clear, found, Option.map_some, Json.scrub_leaf isLeaf]
  case twice =>
    exact Json.scrub_scrub fun d => (Json.scrub_leaf (atomic d)).trans (stable d)

/-- `scrub` within `create_job`, on any value. -/
def Jobs.scrubValue (value : Json) : Json := value.scrub (fun key => lower key ∈ sensitive) .timestamp

/-- A timestamp as the audit trail writes it. -/
def Audit.utcText (d : DateTime) : Json := .str (⟨d.instant, some 0⟩ : DateTime).isoformat

theorem scrubbing_exact : ScrubsExactly Audit.sensitiveKeys Audit.utcText Audit.safe ∧
    ScrubsExactly Jobs.sensitive .timestamp Jobs.scrubValue ∧
    ∀ payload, Json.object (Jobs.scrub payload) = Jobs.scrubValue (.object payload) := by
  refine ⟨?audit, ?jobs, fun _ => rfl⟩
  case audit => exact scrubs_exactly Audit.sensitiveKeys (fun _ => rfl) fun _ => rfl
  case jobs => exact scrubs_exactly Jobs.sensitive (fun _ => rfl) fun _ => rfl

end Services
end RCAA
