import Mathlib.Logic.Function.Basic

/-! Objects behind pointers, of any type. An identity is given out once, so a
pointer to an object that is gone never leads to a later one. -/
namespace ArenaClient

structure ObjectStore (α : Type*) where
  object : Nat → Option α
  next : Nat
  /-- Nothing exists beyond what has been allocated. -/
  unused : ∀ key, next ≤ key → object key = none

namespace ObjectStore
variable {α : Type*} {store : ObjectStore α} {key other : Nat} {value earlier : α}
  {pointer : Option Nat}

def empty : ObjectStore α := { object := fun _ => none, next := 0, unused := fun _ _ => rfl }

/-- A pointer may be used: it is not null and its object has not been destroyed. -/
def Valid (store : ObjectStore α) (pointer : Option Nat) : Prop :=
  (pointer.bind store.object).isSome

instance (store : ObjectStore α) (pointer : Option Nat) : Decidable (store.Valid pointer) :=
  inferInstanceAs (Decidable (_ = true))

/-- An update of the object itself; nothing happens to an identity without one. -/
def modify (store : ObjectStore α) (key : Nat) (update : α → α) : ObjectStore α where
  object := Function.update store.object key ((store.object key).map update)
  next := store.next
  unused other beyond := by
    by_cases same : other = key
    · rw [same, Function.update_self, store.unused key (same ▸ beyond), Option.map_none]
    · rw [Function.update_of_ne same, store.unused other beyond]

/-- The new object has the identity `store.next`. -/
def allocate (store : ObjectStore α) (value : α) : ObjectStore α where
  object := Function.update store.object store.next (some value)
  next := store.next + 1
  unused other beyond := by
    rw [Function.update_of_ne (Nat.ne_of_gt beyond), store.unused other (Nat.le_of_lt beyond)]

theorem valid_some : store.Valid (some key) ↔ ∃ value, store.object key = some value :=
  Option.isSome_iff_exists

theorem not_valid_none : ¬ store.Valid none := Bool.false_ne_true

theorem Valid.exists (valid : store.Valid pointer) :
    ∃ key value, pointer = some key ∧ store.object key = some value := by
  cases pointer with
  | none => exact absurd valid not_valid_none
  | some key =>
    obtain ⟨value, found⟩ := valid_some.mp valid
    exact ⟨key, value, rfl, found⟩

theorem lt_next (found : store.object key = some value) : key < store.next := by
  apply Nat.lt_of_not_le
  intro beyond
  rw [store.unused key beyond] at found
  contradiction

theorem object_modify (store : ObjectStore α) (key : Nat) (update : α → α) :
    (store.modify key update).object =
      Function.update store.object key ((store.object key).map update) := rfl

theorem object_modify_ne (apart : other ≠ key) (update : α → α) :
    (store.modify key update).object other = store.object other :=
  Function.update_of_ne apart _ _

/-- Only what the update does to the object that is there matters. -/
theorem modify_congr {f g : α → α} (found : store.object key = some value)
    (same : f value = g value) : store.modify key f = store.modify key g := by
  unfold modify
  simp only [found, Option.map_some, same]

theorem modify_eq_self {f : α → α} (found : store.object key = some value)
    (fixed : f value = value) : store.modify key f = store := by
  obtain ⟨objects, next, unused⟩ := store
  have found : objects key = some value := found
  simp only [modify, found, Option.map_some, fixed, mk.injEq, and_true]
  rw [← found, Function.update_eq_self]

@[simp] theorem isSome_object_modify (store : ObjectStore α) (key other : Nat) (update : α → α) :
    ((store.modify key update).object other).isSome = (store.object other).isSome := by
  by_cases same : other = key
  · rw [same, object_modify, Function.update_self, Option.isSome_map]
  · rw [object_modify_ne same]

/-- Updates neither create nor destroy objects. -/
@[simp] theorem valid_modify (store : ObjectStore α) (key : Nat) (update : α → α)
    (pointer : Option Nat) : (store.modify key update).Valid pointer ↔ store.Valid pointer := by
  cases pointer with
  | none => exact Iff.rfl
  | some other => simp only [Valid, Option.bind_some, isSome_object_modify]

@[simp] theorem object_allocate_self (store : ObjectStore α) (value : α) :
    (store.allocate value).object store.next = some value := Function.update_self _ _ _

theorem object_allocate_ne (apart : key ≠ store.next) (value : α) :
    (store.allocate value).object key = store.object key := Function.update_of_ne apart _ _

theorem object_allocate (found : store.object key = some earlier) (value : α) :
    (store.allocate value).object key = some earlier := by
  have apart : key ≠ store.next := Nat.ne_of_lt (lt_next found)
  exact (object_allocate_ne apart value).trans found

/-- Allocation destroys nothing. -/
theorem valid_allocate (valid : store.Valid pointer) (value : α) : (store.allocate value).Valid pointer := by
  obtain ⟨key, earlier, rfl, found⟩ := valid.exists
  exact valid_some.mpr ⟨earlier, object_allocate found value⟩

end ObjectStore
end ArenaClient
