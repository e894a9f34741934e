import ArenaClient.Base.UnknownFields

/-! Merging into a new message copies, as long as messages are not nested deeper
than is looked at: what is serialized parses to itself. -/
namespace Protobuf

theorem Slot.set_default {M α : Type} [DecidableEq α] (slot : Slot M α) {value : α} {source this : M}
    (unset : slot.get this = value) :
    (if slot.get source = value then this else slot.set this (slot.get source)) =
      slot.set this (slot.get source) := by
  split
  · rename_i same
    rw [same, ← unset, slot.set_get]
  · rfl

/-- The type of the messages in a field. -/
def FieldKind.inner {Name : Type} {Carrier : Name → Type} {M : Type} : FieldKind Carrier M → Option Name
  | message name _ | «repeated» name _ => some name
  | bool _ | uint64 _ | uint32 _ | int32 _ | enum _ | float _ | string _ => none

namespace Schema
variable {schema : Schema} {M : Type}

/-- Nothing has been set yet. -/
def Unset (kind : FieldKind schema.Carrier M) (this : M) : Prop :=
  match kind with
  | .bool slot => slot.get this = false
  | .uint64 slot => slot.get this = 0
  | .uint32 slot | .float slot => slot.get this = 0
  | .int32 slot | .enum slot => slot.get this = 0
  | .string slot => slot.get this = []
  | .message _ slot => slot.get this = none
  | .repeated _ slot => slot.get this = []

def copyField (kind : FieldKind schema.Carrier M) (source this : M) : M :=
  match kind with
  | .bool slot => slot.set this (slot.get source)
  | .uint64 slot => slot.set this (slot.get source)
  | .uint32 slot | .float slot => slot.set this (slot.get source)
  | .int32 slot | .enum slot => slot.set this (slot.get source)
  | .string slot => slot.set this (slot.get source)
  | .message _ slot => slot.set this (slot.get source)
  | .repeated _ slot => slot.set this (slot.get source)

/-- The fields are all there is to a message, and setting one sets no other. -/
def Covers (source : M) : List (FieldCase schema.Carrier M) → M → Prop
  | [], this => this = source
  | field :: fields, this => Unset field.kind this ∧ Covers source fields (copyField field.kind source this)

variable {merge : (name : schema.Name) → schema.Carrier name → schema.Carrier name → schema.Carrier name}
  {source this : M}

theorem mergeField_eq_copy {field : FieldCase schema.Carrier M} (unset : Unset field.kind this)
    (copies : ∀ name, field.kind.inner = some name → ∀ inner, merge name inner (schema.empty name) = inner) :
    mergeField merge field source this = copyField field.kind source this := by
  unfold mergeField copyField
  cases kind : field.kind with
  | bool slot =>
    rw [kind] at unset
    have unset : slot.get this = false := unset
    dsimp only
    split
    · rfl
    · rename_i clear
      rw [Bool.eq_false_of_not_eq_true clear, ← unset, slot.set_get]
  | uint64 slot | uint32 slot | int32 slot | enum slot | float slot =>
    rw [kind] at unset
    exact slot.set_default unset
  | string slot =>
    rw [kind] at unset
    simp only [List.isEmpty_iff]
    exact slot.set_default unset
  | message name slot =>
    rw [kind] at unset
    have unset : slot.get this = none := unset
    obtain missing | ⟨inner, there⟩ := Option.eq_none_or_eq_some (slot.get source)
    · simp only [missing, Option.elim_none]
      rw [← unset, slot.set_get]
    · simp only [there, Option.elim_some, mutable, unset, Option.getD_none]
      rw [copies name (by rw [kind]; rfl)]
  | «repeated» name slot =>
    rw [kind] at unset
    have unset : slot.get this = [] := unset
    have copied : ((slot.get source).map fun inner => merge name inner (schema.empty name)) =
        slot.get source := by
      rw [List.map_congr_left fun inner _ => copies name (by rw [kind]; rfl) inner, List.map_id']
    dsimp only
    rw [copied, unset, List.nil_append]

theorem foldl_mergeField (fields : List (FieldCase schema.Carrier M)) (covers : Covers source fields this)
    (copies : ∀ field ∈ fields, ∀ name, field.kind.inner = some name →
      ∀ inner, merge name inner (schema.empty name) = inner) :
    fields.foldl (fun this field => mergeField merge field source this) this = source := by
  induction fields generalizing this with
  | nil => exact covers
  | cons field fields ih =>
    obtain ⟨unset, covers⟩ := covers
    obtain ⟨here, later⟩ := List.forall_mem_cons.mp copies
    rw [List.foldl_cons, mergeField_eq_copy unset here]
    exact ih covers later

/-- Message types that nest in layers. -/
structure Layered (schema : Schema) (height : schema.Name → Nat) : Prop where
  positive : ∀ name, 0 < height name
  below : ∀ name, ∀ field ∈ schema.cases name, ∀ inner, field.kind.inner = some inner →
    height inner < height name
  covers : ∀ name source, Covers source (schema.cases name) (schema.empty name)

theorem mergeImpl_empty {height : schema.Name → Nat} (layered : Layered schema height) {levels : Nat}
    {name : schema.Name} (deep : height name ≤ levels) (source : schema.Carrier name) :
    mergeImpl levels name source (schema.empty name) = source := by
  induction levels generalizing name with
  | zero => exact absurd (layered.positive name) (Nat.not_lt.mpr deep)
  | succ levels ih =>
    refine foldl_mergeField _ (layered.covers name source) fun field member inner nested => ih ?_
    have lower := layered.below name field member inner nested
    omega

/-- What is serialized decodes to itself, or to nothing for its text; fields that
the reader does not know may follow. -/
theorem decode_serialized {height : schema.Name → Nat} (layered : Layered schema height) {levels depth : Nat}
    {name : schema.Name} (deep : height name ≤ levels) (room : levels ≤ depth) (msg : schema.Carrier name)
    (fits : byteSizeLong levels name msg ≤ maxSize) (unknown : unknownFields name depth newer) :
    decode depth name (schema.empty name) (internalSerialize levels name msg ++ newer) =
      if validUtf8 levels name msg then some msg else none := by
  rw [decode_internalSerialize room name msg (schema.empty name) fits newer,
    decode_unknownFields unknown, mergeImpl_empty layered deep]

end Schema
end Protobuf
