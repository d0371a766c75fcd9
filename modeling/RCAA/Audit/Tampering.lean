import RCAA.Audit.Chain

/-! Tampering with a stored log that verifies. The hash of an event is that of its
content, so an edit is seen exactly when the content reads differently: the JSON columns
are scrubbed once more before they are hashed, so what the scrubbing drops is not seen. -/

namespace RCAA.Audit

/-! ## Tampering -/

inductive Tampering where
  /-- The row of one event becomes the other. -/
  | edit (before after : AuditEvent)
  | delete (event : AuditEvent)

namespace Tampering

def apply (events : List AuditEvent) : Tampering → List AuditEvent
  | .edit before after => events.map fun e => if e.id = before.id then after else e
  | .delete event => events.filter fun e => e.id ≠ event.id

/-- An edit leaves the key and the hashes of a stored event, a deletion is of one that has
a successor. -/
def Of (events : List AuditEvent) : Tampering → Prop
  | .edit before after => before ∈ events ∧ after.id = before.id ∧ after.eventId = before.eventId ∧
      after.previousEventHash = before.previousEventHash ∧ after.eventHash = before.eventHash ∧ after ≠ before
  | .delete event => event ∈ events ∧ ∃ later ∈ events, Before event later

variable [Platform]

/-- What the check can see: an edit of what the hash reads, and every deletion. -/
def Seen : Tampering → Prop
  | .edit before after => ¬SameContent before after
  | .delete _ => True

end Tampering

/-! ## Edits -/

section Edit
variable {events : List AuditEvent} {before after : AuditEvent}

theorem mem_edit (stored : before ∈ events) : after ∈ (Tampering.edit before after).apply events :=
  List.mem_map.mpr ⟨before, stored, if_pos rfl⟩

/-- What an edit keeps of the event it is of, it keeps of every event. -/
theorem edit_kept {β : Type} (column : AuditEvent → β) (unique : Unique events) (stored : before ∈ events)
    (kept : column after = column before) {e : AuditEvent} (member : e ∈ events) :
    column (if e.id = before.id then after else e) = column e := by
  split
  · next named =>
    rw [List.inj_on_of_nodup_map unique.ids member stored named]
    exact kept
  · rfl

/-- An edit that keeps the timestamp keeps the order. -/
theorem inOrder_edit (unique : Unique events) (stored : before ∈ events) (id : after.id = before.id)
    (timestamp : after.timestamp = before.timestamp) :
    inOrder ((Tampering.edit before after).apply events) = (Tampering.edit before after).apply (inOrder events) := by
  refine (List.map_insertionSort _ _ _ _ fun a left b right => ?_).symm
  simp only [edit_kept AuditEvent.timestamp unique stored timestamp left, edit_kept AuditEvent.id unique stored id left,
    edit_kept AuditEvent.timestamp unique stored timestamp right, edit_kept AuditEvent.id unique stored id right]

variable [Platform] [AuditHashing]

theorem edit_verifies_iff (sha256 : Function.Injective AuditHashing.sha256) (dumps : Function.Injective AuditHashing.dumps)
    (unique : Unique events) (verified : verifyHashChain events = (true, none)) (edit : (Tampering.edit before after).Of events) :
    verifyHashChain ((Tampering.edit before after).apply events) = (true, none) ↔ SameContent before after := by
  obtain ⟨stored, id, -, previous, hash, -⟩ := edit
  obtain ⟨links, sealed⟩ := verifyHashChain_iff.mp verified
  have content : Sealed after ↔ SameContent before after := by
    rw [Sealed, hash, sealed before stored, previous]
    exact calculateEventHash_inj sha256 dumps previous.symm
  rw [verifyHashChain_iff]
  constructor
  · rintro ⟨_, sealedToo⟩
    exact content.mp (sealedToo after (mem_edit stored))
  · intro same
    constructor
    · rw [inOrder_edit unique stored id same.timestamp.symm]
      refine (HashChain.links_map_iff fun e member => ?_).mpr links
      have member := mem_inOrder.mp member
      exact ⟨edit_kept _ unique stored previous member, edit_kept _ unique stored hash member⟩
    · intro e member
      obtain ⟨old, oldMember, rfl⟩ := List.mem_map.mp member
      split
      · exact content.mpr same
      · exact sealed old oldMember

end Edit

/-! ## Deletions -/

section Deletion
variable {events : List AuditEvent} {event : AuditEvent}

theorem inOrder_delete (unique : Unique events) :
    inOrder ((Tampering.delete event).apply events) = (Tampering.delete event).apply (inOrder events) := by
  refine ordered_eq (inOrder_before (unique.sublist List.filter_sublist))
    ((inOrder_before unique).sublist List.filter_sublist) fun a => ?_
  simp only [Tampering.apply, mem_inOrder, List.mem_filter]

/-- The event and what surrounds it in the order. -/
theorem delete_split {front rest : List AuditEvent} (unique : Unique (front ++ event :: rest)) :
    (Tampering.delete event).apply (front ++ event :: rest) = front ++ rest := by
  have ids := unique.ids
  rw [List.map_append, List.map_cons, List.nodup_append, List.nodup_cons] at ids
  obtain ⟨-, ⟨later, -⟩, apart⟩ := ids
  have kept {part : List AuditEvent} (absent : ∀ e ∈ part, e.id ≠ event.id) :
      part.filter (fun e => e.id ≠ event.id) = part :=
    List.filter_eq_self.mpr fun e member => decide_eq_true (absent e member)
  rw [Tampering.apply, List.filter_append, List.filter_cons_of_neg (by simp), kept, kept]
  · exact fun e member same => later (same ▸ List.mem_map_of_mem member)
  · exact fun e member same => apart _ (List.mem_map_of_mem member) _ List.mem_cons_self same

variable [Platform] [AuditHashing]

theorem delete_breaks (unique : Unique events) (verified : verifyHashChain events = (true, none))
    (deletion : (Tampering.delete event).Of events) :
    ¬verifyHashChain ((Tampering.delete event).apply events) = (true, none) := by
  obtain ⟨stored, later, laterStored, order⟩ := deletion
  intro without
  have links := (verifyHashChain_iff.mp verified).1
  have linksWithout := (verifyHashChain_iff.mp without).1
  rw [inOrder_delete unique] at linksWithout
  have sorted := inOrder_before unique
  have uniqueInOrder := unique.perm (inOrder_perm events).symm
  obtain ⟨front, rest, split⟩ := List.append_of_mem (mem_inOrder.mpr stored)
  rw [split] at links linksWithout sorted uniqueInOrder
  rw [delete_split uniqueInOrder] at linksWithout
  have hashes := uniqueInOrder.hashes
  rw [List.map_append, List.nodup_append] at hashes
  have fresh : event.eventHash ∉ front.map (·.eventHash) :=
    fun inside => hashes.2.2 _ inside _ List.mem_cons_self rfl
  cases rest with
  | cons next rest => exact links.removed fresh linksWithout
  | nil =>
    -- Nothing is left for the successor to be.
    have place := mem_inOrder.mpr laterStored
    rw [split, List.mem_append, List.mem_singleton] at place
    rcases place with inside | same
    · exact order.asymm ((List.pairwise_append.mp sorted).2.2 later inside event List.mem_cons_self)
    · rw [same] at order
      exact order.asymm order

end Deletion

/-! ## Detection -/

section Detection
variable [Platform] [AuditHashing]

/-- On a log that verifies, the check fails after an edit or a deletion exactly when the
edit changes what the hash reads, or an event with a successor is deleted. -/
theorem tampering_detected_iff (sha256 : Function.Injective AuditHashing.sha256)
    (dumps : Function.Injective AuditHashing.dumps) (log : AuditLog) (verified : verifyHashChain log.committed = (true, none))
    (tampering : Tampering) (of : tampering.Of log.committed) :
    (verifyHashChain (tampering.apply log.committed)).1 = false ↔ tampering.Seen := by
  rw [verifyHashChain_false_iff]
  cases tampering with
  | edit before after => exact not_congr (edit_verifies_iff sha256 dumps log.committed_unique verified of)
  | delete event => exact iff_of_true (delete_breaks log.committed_unique verified of) trivial

end Detection

section Examples
open RCAA.PlainText PlainText

/-- The log after one login. -/
def oneLogin : AuditLog where
  committed := [firstLogin]
  pending := []
  unique := ⟨List.nodup_singleton _, List.nodup_singleton _, List.nodup_singleton _⟩

theorem oneLogin_verified : verifyHashChain oneLogin.committed = (true, none) := by
  rw [verifyHashChain_iff]
  refine ⟨⟨rfl, trivial⟩, fun e member => ?_⟩
  rw [List.mem_singleton.mp member]
  exact newEvent_sealed _ _ _ _ _

def denied : AuditEvent := { firstLogin with outcome := "DENIED" }

theorem tampering_detected_outcome :
    (verifyHashChain ((Tampering.edit firstLogin denied).apply oneLogin.committed)).1 = false := by
  refine (tampering_detected_iff sha256_injective dumps_injective oneLogin oneLogin_verified (.edit firstLogin denied)
    ⟨List.mem_singleton_self _, rfl, rfl, rfl, rfl, ?_⟩).mpr ?_
  · intro same
    exact absurd (congrArg AuditEvent.outcome same) (by decide)
  · intro content
    exact absurd content.outcome (by decide)

/-- The metadata of the login with a key that is dropped before hashing. -/
def withToken : AuditEvent := { firstLogin with metadataJson := .object [("token", .str "secret")] }

theorem added_key_unseen :
    ¬∀ log : AuditLog, verifyHashChain log.committed = (true, none) → ∀ tampering : Tampering,
      tampering.Of log.committed → (verifyHashChain (tampering.apply log.committed)).1 = false := by
  intro law
  have edit : (Tampering.edit firstLogin withToken).Of oneLogin.committed := by
    refine ⟨List.mem_singleton_self _, rfl, rfl, rfl, rfl, fun same => ?_⟩
    exact absurd (congrArg AuditEvent.metadataJson same) (by decide)
  have content : SameContent firstLogin withToken :=
    ⟨rfl, rfl, rfl, rfl, rfl, rfl, rfl, rfl, rfl, rfl, rfl, rfl, by decide, rfl, rfl⟩
  have verified :=
    (edit_verifies_iff sha256_injective dumps_injective oneLogin.committed_unique oneLogin_verified edit).mpr content
  exact verifyHashChain_false_iff.mp (law oneLogin oneLogin_verified _ edit) verified

end Examples
end RCAA.Audit
