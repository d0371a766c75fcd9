import Mathlib

/-! A table that concurrent transactions read and write under read-committed isolation.
A statement sees the committed rows and what its own transaction wrote; a row is locked
before it is written, until the transaction ends. Writes are applied at the commit to
the rows there are then, which is the same: a locked row does not change in between. A
row that is inserted holds the values of its unique columns in the same way: an insert of
one of them waits for the end of the transaction that holds it. -/

namespace ReadCommitted

/-! ## Values that are held -/

section Unique
variable {τ κ : Type} [DecidableEq τ] [DecidableEq κ] {holder : κ → Option τ} {t other : τ} {keys : List κ} {k : κ}

/-- No other transaction holds one of the values. -/
def available (holder : κ → Option τ) (t : τ) (keys : List κ) : Bool := keys.all fun k => (holder k).all (· = t)

def reserve (holder : κ → Option τ) (t : τ) (keys : List κ) (k : κ) : Option τ := if k ∈ keys then some t else holder k

def release (holder : κ → Option τ) (t : τ) (k : κ) : Option τ := if holder k = some t then none else holder k

omit [DecidableEq κ] in
theorem available_iff : available holder t keys = true ↔ ∀ k ∈ keys, ∀ other, holder k = some other → other = t := by
  simp only [available, List.all_eq_true]
  refine forall₂_congr fun k _ => ?_
  cases holder k <;> simp [eq_comm]

omit [DecidableEq τ] in
theorem reserve_mem (member : k ∈ keys) : reserve holder t keys k = some t := if_pos member

/-- A value is reserved from nobody. -/
theorem reserve_kept (free : available holder t keys = true) (held : holder k = some other) (differs : other ≠ t) :
    reserve holder t keys k = some other := by
  refine (if_neg fun member => ?_).trans held
  exact differs (available_iff.mp free k member other held)

omit [DecidableEq τ] in
theorem reserve_cases (held : reserve holder t keys k = some other) : other = t ∨ holder k = some other := by
  unfold reserve at held
  split at held
  · exact .inl (Option.some.inj held).symm
  · exact .inr held

omit [DecidableEq κ] in
theorem release_eq_some_iff : release holder t k = some other ↔ holder k = some other ∧ other ≠ t := by
  unfold release
  split
  · next own =>
    rw [own]
    constructor
    · nofun
    · rintro ⟨same, differs⟩
      exact absurd (Option.some.inj same).symm differs
  · next own =>
    refine ⟨fun held => ⟨held, ?_⟩, And.left⟩
    rintro rfl
    exact own held

end Unique

/-! ## Tables -/

/-- The committed rows, what each open transaction has written, and who holds the lock
of a row. -/
structure Table (τ κ α : Type) where
  committed : List α
  writes : τ → List α → List α := fun _ => id
  holder : κ → Option τ := fun _ => none

namespace Table
variable {τ κ α : Type} (table : Table τ κ α)

/-- What a statement of the transaction sees. -/
def visible (t : τ) : List α := table.writes t table.committed

section Lock
variable [DecidableEq κ]

def lock (t : τ) (k : κ) : Table τ κ α := { table with holder := Function.update table.holder k (some t) }

variable {table} {t : τ} {k k' : κ}

@[simp] theorem lock_committed : (table.lock t k).committed = table.committed := rfl
@[simp] theorem lock_writes : (table.lock t k).writes = table.writes := rfl
@[simp] theorem lock_holder : (table.lock t k).holder k = some t := Function.update_self ..

theorem lock_holder_of_ne (differs : k' ≠ k) : (table.lock t k).holder k' = table.holder k' :=
  Function.update_of_ne differs ..

end Lock

variable [DecidableEq τ]

/-- The transaction holds the lock of the row or can take it. -/
def free (t : τ) (k : κ) : Bool := (table.holder k).all (· = t)

def write (t : τ) (f : List α → List α) : Table τ κ α :=
  { table with writes := Function.update table.writes t (f ∘ table.writes t) }

/-- The transaction is over: it holds no lock and has written nothing. -/
def finish (t : τ) (rows : List α) : Table τ κ α where
  committed := rows
  writes := Function.update table.writes t id
  holder k := if table.holder k = some t then none else table.holder k

def commit (t : τ) : Table τ κ α := table.finish t (table.visible t)
def rollback (t : τ) : Table τ κ α := table.finish t table.committed

variable {table} {t other : τ} {k : κ} {f : List α → List α} {rows : List α}

theorem free_iff : table.free t k = true ↔ table.holder k = none ∨ table.holder k = some t := by
  unfold free
  cases table.holder k <;> simp

/-- A row another transaction holds is not free. -/
theorem not_free (held : table.holder k = some other) (differs : other ≠ t) : table.free t k = false := by
  rw [Bool.eq_false_iff, Ne, free_iff, held]
  simpa using differs

@[simp] theorem write_committed : (table.write t f).committed = table.committed := rfl
@[simp] theorem write_holder : (table.write t f).holder = table.holder := rfl
@[simp] theorem write_writes : (table.write t f).writes t = f ∘ table.writes t := Function.update_self ..

theorem write_writes_of_ne (differs : other ≠ t) : (table.write t f).writes other = table.writes other :=
  Function.update_of_ne differs ..

@[simp] theorem finish_committed : (table.finish t rows).committed = rows := rfl
@[simp] theorem finish_writes : (table.finish t rows).writes t = id := Function.update_self ..

theorem finish_writes_of_ne (differs : other ≠ t) : (table.finish t rows).writes other = table.writes other :=
  Function.update_of_ne differs ..

theorem finish_holder : (table.finish t rows).holder k = some other ↔ table.holder k = some other ∧ other ≠ t :=
  release_eq_some_iff

/-- What a transaction leaves to the others: what they wrote and the locks they hold. -/
structure Beside (t : τ) (before after : Table τ κ α) : Prop where
  writes : ∀ other, other ≠ t → after.writes other = before.writes other
  holder : ∀ other, other ≠ t → ∀ k, before.holder k = some other → after.holder k = some other

omit [DecidableEq τ] in
theorem Beside.refl (t : τ) (table : Table τ κ α) : Beside t table table := ⟨fun _ _ => rfl, fun _ _ _ held => held⟩

omit [DecidableEq τ] in
theorem Beside.trans {first second third : Table τ κ α} (one : Beside t first second) (two : Beside t second third) :
    Beside t first third where
  writes other differs := (two.writes other differs).trans (one.writes other differs)
  holder other differs k held := two.holder other differs k (one.holder other differs k held)

theorem beside_write : Beside t table (table.write t f) where
  writes _ differs := write_writes_of_ne differs
  holder _ _ _ held := held

theorem beside_finish : Beside t table (table.finish t rows) where
  writes _ differs := finish_writes_of_ne differs
  holder _ differs _ held := finish_holder.mpr ⟨held, differs⟩

/-- A lock is taken from nobody. -/
theorem beside_lock [DecidableEq κ] (free : table.free t k = true) : Beside t table (table.lock t k) where
  writes _ _ := rfl
  holder other differs k' held := by
    by_cases same : k' = k
    · rw [same] at held
      rw [not_free held differs] at free
      cases free
    · exact (lock_holder_of_ne same).trans held

end Table

end ReadCommitted
