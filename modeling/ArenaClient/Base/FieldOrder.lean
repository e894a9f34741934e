import ArenaClient.Base.Merge
import ArenaClient.Base.Runs
import Mathlib.Data.List.Pairwise

/-! The fields of a message do not get into each other's way: what bytes mean
depends on the occurrences of each field in turn, and on nothing else about
their order. -/
namespace Protobuf

/-! ### Two accessors -/

/-- The accessors of two fields. -/
def Slot.Apart {M α β : Type} (first : Slot M α) (second : Slot M β) : Prop :=
  ∀ msg x y, second.set (first.set msg x) y = first.set (second.set msg y) x

theorem Slot.Apart.symm {first : Slot M α} {second : Slot M β} (apart : first.Apart second) :
    second.Apart first := fun msg x y => (apart msg y x).symm

theorem Slot.Apart.get_set {first : Slot M α} {second : Slot M β} (apart : first.Apart second) (msg : M)
    (x : α) : second.get (first.set msg x) = second.get msg := by
  have same := apart msg x (second.get msg)
  rw [second.set_get] at same
  rw [← same, second.get_set]

namespace FieldKind
variable {Name : Type} {Carrier : Name → Type} {M : Type}

/-- What the field holds. -/
def Value : FieldKind Carrier M → Type
  | bool _ => Bool
  | uint64 _ => UInt64
  | uint32 _ | float _ => UInt32
  | int32 _ | enum _ => Int32
  | string _ => List UInt8
  | message name _ => Option (Carrier name)
  | «repeated» name _ => List (Carrier name)

def slot : (kind : FieldKind Carrier M) → Slot M kind.Value
  | bool slot => slot
  | uint64 slot => slot
  | uint32 slot | float slot => slot
  | int32 slot | enum slot => slot
  | string slot => slot
  | message _ slot => slot
  | «repeated» _ slot => slot

end FieldKind

/-! ### Folds over commuting steps -/

section Fold
variable {S A K : Type*} {f : S → A → Option S} {key : A → K}

theorem foldlM_front (commutes : ∀ s a b, key a ≠ key b → (f s a).bind (f · b) = (f s b).bind (f · a))
    {before : List A} {a : A} (others : ∀ b ∈ before, key b ≠ key a) (after : List A) (s : S) :
    (before ++ a :: after).foldlM f s = (a :: (before ++ after)).foldlM f s := by
  induction before generalizing s with
  | nil => rfl
  | cons b before ih =>
    obtain ⟨differs, others⟩ := List.forall_mem_cons.mp others
    have swapped := commutes s b a differs
    simp only [List.cons_append, List.foldlM_cons, Option.bind_eq_bind] at ih ⊢
    simp only [ih others, ← Option.bind_assoc, swapped]

/-- Only the order within a key matters. -/
theorem foldlM_eq_of_filter [DecidableEq K]
    (commutes : ∀ s a b, key a ≠ key b → (f s a).bind (f · b) = (f s b).bind (f · a))
    {first second : List A} (same : ∀ k, (first.filter (key · = k)) = second.filter (key · = k)) (s : S) :
    first.foldlM f s = second.foldlM f s := by
  induction first generalizing second s with
  | nil =>
    cases second with
    | nil => rfl
    | cons a second => simpa using same (key a)
  | cons a first ih =>
    have found := same (key a)
    rw [List.filter_cons_of_pos (by simp)] at found
    obtain ⟨before, after, rfl, others, -, rest⟩ := List.filter_eq_cons_iff.mp found.symm
    rw [foldlM_front commutes (by simpa using others), List.foldlM_cons, List.foldlM_cons]
    congr 1
    funext next
    refine ih (fun k => ?_) next
    by_cases here : key a = k
    · have none : before.filter (key · = k) = [] := by
        rw [List.filter_eq_nil_iff]
        simpa [← here] using others
      rw [List.filter_append, none, List.nil_append, ← here, rest]
    · have others := same k
      rw [List.filter_cons_of_neg (by simpa using here), List.filter_append,
        List.filter_cons_of_neg (by simpa using here)] at others
      rw [others, List.filter_append]

end Fold

namespace Schema
variable {schema : Schema} {M : Type} {sub : schema.Reader} {name : schema.Name} {depth : Nat}

/-- What a payload makes of the value in a field. -/
def received (sub : schema.Reader) : (kind : FieldKind schema.Carrier M) → kind.Value → Payload → Option kind.Value
  | .bool _, _, .varint value => some (value != 0)
  | .uint64 _, _, .varint value => some value
  | .uint32 _, _, .varint value => some value.toUInt32
  | .int32 _, _, .varint value => some value.toUInt32.toInt32
  | .enum _, _, .varint value => some value.toUInt32.toInt32
  | .float _, _, .fixed32 raw => some (.ofNat (Bytes.value raw))
  | .string _, _, .delimited text => if Utf8.isStructurallyValidUTF8 text then some text else none
  | .message name _, old, .delimited bytes => (sub name (old.getD (schema.empty name)) bytes).map some
  | .repeated name _, old, .delimited bytes =>
    (sub name (schema.empty name) bytes).map fun element => List.append old [element]
  | _, old, _ => some old

theorem applyField_eq (kind : FieldKind schema.Carrier M) (msg : M) (payload : Payload) :
    applyField sub kind msg payload =
      (received sub kind (kind.slot.get msg) payload).map (kind.slot.set msg) := by
  have kept : some msg = some (kind.slot.set msg (kind.slot.get msg)) := by rw [kind.slot.set_get]
  cases kind with
  | string slot =>
    cases payload with
    | delimited text =>
      simp only [applyField, received]
      split <;> rfl
    | _ => exact kept
  | message name slot =>
    cases payload with
    | delimited bytes =>
      simp only [applyField, received]
      exact (Option.map_map ..).symm
    | _ => exact kept
  | «repeated» name slot =>
    cases payload with
    | delimited bytes =>
      simp only [applyField, received]
      exact (Option.map_map ..).symm
    | _ => exact kept
  | _ => cases payload <;> first | rfl | exact kept

/-- Payloads of two fields, in either order. -/
theorem applyField_comm {first second : FieldKind schema.Carrier M} (apart : first.slot.Apart second.slot)
    (msg : M) (x y : Payload) :
    ((applyField sub first msg x).bind fun msg => applyField sub second msg y) =
      (applyField sub second msg y).bind fun msg => applyField sub first msg x := by
  simp only [applyField_eq, Option.bind_map, Function.comp_def, apart.get_set, apart.symm.get_set]
  cases received sub first (first.slot.get msg) x <;> cases received sub second (second.slot.get msg) y <;>
    simp [apart msg]

/-- No two fields of a type share anything. -/
def Independent (schema : Schema) : Prop :=
  ∀ name, (schema.cases name).Pairwise fun first second => first.kind.slot.Apart second.kind.slot

theorem Independent.apart (independent : schema.Independent)
    {first second : FieldCase schema.Carrier (schema.Carrier name)} (one : first ∈ schema.cases name)
    (other : second ∈ schema.cases name) (differ : first.number ≠ second.number) :
    first.kind.slot.Apart second.kind.slot := by
  have symmetric : Std.Symm fun first second : FieldCase schema.Carrier (schema.Carrier name) =>
      first.kind.slot.Apart second.kind.slot := ⟨fun _ _ => Slot.Apart.symm⟩
  exact (independent name).forall one other fun same => differ (congrArg FieldCase.number same)

/-- A field at the top of a message. -/
def applyNumbered (sub : schema.Reader) (msg : schema.Carrier name) (field : Nat × Payload) :
    Option (schema.Carrier name) :=
  (schema.find name field.1).elim (some msg) fun found => applyField sub found.kind msg field.2

theorem applyNumbered_comm (independent : schema.Independent) (msg : schema.Carrier name) (x y : Nat × Payload)
    (differ : x.1 ≠ y.1) : ((applyNumbered sub msg x).bind (applyNumbered sub · y)) =
      (applyNumbered sub msg y).bind (applyNumbered sub · x) := by
  unfold applyNumbered
  cases first : schema.find name x.1 with
  | none => simp
  | some one =>
    cases second : schema.find name y.1 with
    | none => simp
    | some other =>
      have apart := independent.apart (List.mem_of_find?_eq_some first) (List.mem_of_find?_eq_some second) (by
        rwa [find_number first, find_number second])
      exact applyField_comm apart msg x.2 y.2

theorem step_field (field : Nat × Payload) (msg : schema.Carrier name) :
    step sub depth name ([], msg) (.field field.1 field.2) = (applyNumbered sub msg field).map (Prod.mk []) := by
  rw [step, applyNumbered]
  cases schema.find name field.1 <;> rfl

/-- The bytes are fields of any kind, and no groups. -/
def ReadsFields (bytes : List UInt8) (fields : List (Nat × Payload)) : Prop :=
  lex bytes = some (fields.map fun field => .field field.1 field.2)

instance : Decidable (ReadsFields bytes fields) := inferInstanceAs (Decidable (_ = _))

theorem steps_fields (fields : List (Nat × Payload)) (msg : schema.Carrier name) :
    (fields.map fun field => Token.field field.1 field.2).foldlM (step sub depth name) ([], msg) =
      (fields.foldlM (applyNumbered sub) msg).map (Prod.mk []) := by
  induction fields generalizing msg with
  | nil => rfl
  | cons field fields ih =>
    rw [List.map_cons, List.foldlM_cons, List.foldlM_cons, step_field]
    cases applyNumbered sub msg field with
    | none => rfl
    | some next => exact ih next

theorem decode_fields (reads : ReadsFields bytes fields) (msg : schema.Carrier name) :
    decode depth name msg bytes = fields.foldlM (applyNumbered (nested depth)) msg := by
  rw [decode_eq, decodeWith, run, reads, Option.bind_some, steps_fields]
  cases fields.foldlM (applyNumbered (nested depth)) msg <;> rfl

/-- Writers may order the fields of a message as they like, but not the
occurrences of one field. -/
theorem decode_fieldOrder (independent : schema.Independent) (readsFirst : ReadsFields bytes first)
    (readsSecond : ReadsFields bytes' second)
    (same : ∀ number, (first.filter (·.1 = number)) = second.filter (·.1 = number)) (msg : schema.Carrier name) :
    decode depth name msg bytes = decode depth name msg bytes' := by
  rw [decode_fields readsFirst, decode_fields readsSecond]
  exact foldlM_eq_of_filter (fun msg x y => applyNumbered_comm independent msg x y) same msg

end Schema
end Protobuf
