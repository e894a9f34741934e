import ArenaClient.Base.Bytes
import ArenaClient.Base.WireFormat

/-! Message types as data, and what bytes make of a message. A type is the list
of its fields; nested messages are named, so that one definition reads all of
them. Decoding is merging: it starts from a message that is already there. -/
namespace Protobuf

/-- The accessors of a field. -/
structure Slot (M α : Type) where
  get : M → α
  set : M → α → M
  get_set : ∀ msg value, get (set msg value) = value := by intros; rfl
  set_get : ∀ msg, set msg (get msg) = msg := by intros; rfl
  set_set : ∀ msg first second, set (set msg first) second = set msg second := by intros; rfl

/-- What a field holds, and where in the message it is. -/
inductive FieldKind {Name : Type} (Carrier : Name → Type) (M : Type) where
  | bool (slot : Slot M Bool)
  | uint64 (slot : Slot M UInt64)
  | uint32 (slot : Slot M UInt32)
  | int32 (slot : Slot M Int32)
  | enum (slot : Slot M Int32)
  | float (slot : Slot M UInt32)
  | string (slot : Slot M (List UInt8))
  | message (name : Name) (slot : Slot M (Option (Carrier name)))
  | repeated (name : Name) (slot : Slot M (List (Carrier name)))

def FieldKind.wireType {Name : Type} {Carrier : Name → Type} {M : Type} : FieldKind Carrier M → Nat
  | bool _ | uint64 _ | uint32 _ | int32 _ | enum _ => 0
  | string _ | message _ _ | repeated _ _ => 2
  | float _ => 5

theorem FieldKind.wireType_lt {Name : Type} {Carrier : Name → Type} {M : Type} (kind : FieldKind Carrier M) :
    kind.wireType < 8 := by
  cases kind <;> simp [wireType]

/-- One case of the switch over `tag >> 3`, with the tag it compares. -/
structure FieldCase {Name : Type} (Carrier : Name → Type) (M : Type) where
  number : Nat
  tag : UInt8
  kind : FieldKind Carrier M
  tagged : 0 < number ∧ number < 15 ∧ tag.toNat = 8 * number + kind.wireType := by decide

structure Schema where
  Name : Type
  Carrier : Name → Type
  /-- The message before anything is set. -/
  empty : (name : Name) → Carrier name
  cases : (name : Name) → List (FieldCase Carrier (Carrier name))
  distinct : ∀ name, ((cases name).map FieldCase.number).Nodup

namespace Schema
variable (schema : Schema)

/-- Reads bytes into a message of any of the types. -/
abbrev Reader := (name : schema.Name) → schema.Carrier name → List UInt8 → Option (schema.Carrier name)

def find (name : schema.Name) (number : Nat) :
    Option (FieldCase schema.Carrier (schema.Carrier name)) :=
  (schema.cases name).find? fun field => field.number = number

variable {schema} {M : Type}

/-- `_internal_mutable`: the message in the field, or a new one. -/
def mutable {name : schema.Name} (slot : Slot M (Option (schema.Carrier name))) (msg : M) : schema.Carrier name :=
  (slot.get msg).getD (schema.empty name)

/-- `_internal_add`. -/
def add {E : Type} (slot : Slot M (List E)) (msg : M) (element : E) : M := slot.set msg (slot.get msg ++ [element])

/-- A field with another wire type than its own is as good as unknown. -/
def applyField (sub : schema.Reader) (kind : FieldKind schema.Carrier M) (msg : M) (payload : Payload) :
    Option M :=
  match kind, payload with
  | .bool slot, .varint value => some (slot.set msg (value != 0))
  | .uint64 slot, .varint value => some (slot.set msg value)
  | .uint32 slot, .varint value => some (slot.set msg value.toUInt32)
  | .int32 slot, .varint value => some (slot.set msg value.toUInt32.toInt32)
  | .enum slot, .varint value => some (slot.set msg value.toUInt32.toInt32)
  | .float slot, .fixed32 raw => some (slot.set msg (.ofNat (Bytes.value raw)))
  | .string slot, .delimited text =>
    if Utf8.isStructurallyValidUTF8 text then some (slot.set msg text) else none
  | .message name slot, .delimited bytes =>
    (sub name (mutable slot msg) bytes).map fun inner => slot.set msg (some inner)
  | .repeated name slot, .delimited bytes => (sub name (schema.empty name) bytes).map (add slot msg)
  | _, _ => some msg

/-- The groups that are open, innermost first, and the message: a token changes
one or the other. Groups can only be nested as deep as messages. -/
def step (sub : schema.Reader) (depth : Nat) (name : schema.Name) :
    List Nat × schema.Carrier name → Token → Option (List Nat × schema.Carrier name)
  | (groups, msg), .startGroup number =>
    if groups.length < depth then some (number :: groups, msg) else none
  | ([], _), .endGroup _ => none
  | (group :: groups, msg), .endGroup number => if group = number then some (groups, msg) else none
  | ([], msg), .field number payload =>
    match schema.find name number with
    | some field => (applyField sub field.kind msg payload).map (Prod.mk [])
    | none => some ([], msg)
  | (group :: groups, msg), .field _ _ => some (group :: groups, msg)

def run (sub : schema.Reader) (depth : Nat) (name : schema.Name)
    (state : List Nat × schema.Carrier name) (bytes : List UInt8) :
    Option (List Nat × schema.Carrier name) :=
  (lex bytes).bind (List.foldlM (step sub depth name) state)

/-- All groups are closed at the end. -/
def decodeWith (sub : schema.Reader) (depth : Nat) : schema.Reader := fun name msg bytes =>
  (run sub depth name ([], msg) bytes).bind fun (groups, msg) => if groups = [] then some msg else none

/-- What the bytes make of the message, with room for `depth` more levels. -/
def decode : Nat → schema.Reader
  | 0 => decodeWith (fun _ _ _ => none) 0
  | depth + 1 => decodeWith (decode depth) (depth + 1)

/-- The reader of the nested messages. -/
def nested : Nat → schema.Reader
  | 0 => fun _ _ _ => none
  | depth + 1 => decode depth

theorem decode_eq (depth : Nat) : (decode depth : schema.Reader) = decodeWith (nested depth) depth := by
  cases depth <;> rfl

theorem nested_eq_some {name : schema.Name} {msg msg' : schema.Carrier name} :
    nested depth name msg bytes = some msg' ↔ depth ≠ 0 ∧ decode (depth - 1) name msg bytes = some msg' := by
  cases depth with
  | zero => simp [nested]
  | succ depth => simp [nested]

/-! ### Runs -/

variable {sub : schema.Reader} {depth : Nat} {name : schema.Name}

@[simp] theorem run_nil (state : List Nat × schema.Carrier name) :
    run sub depth name state [] = some state := by
  rw [run, lex_nil]
  rfl

theorem run_token (read : token bytes = some (used, t)) (state : List Nat × schema.Carrier name) :
    run sub depth name state bytes =
      (step sub depth name state t).bind fun next => run sub depth name next (bytes.drop used) := by
  rw [run, lex_cons read, Option.bind_map]
  simp only [Function.comp_def, List.foldlM_cons, run, Option.bind_eq_bind]
  cases step sub depth name state t with
  | none => simp
  | some next => rfl

theorem run_none (nonempty : bytes ≠ []) (stuck : token bytes = none)
    (state : List Nat × schema.Carrier name) : run sub depth name state bytes = none := by
  rw [run, lex_none nonempty stuck]
  rfl

theorem run_append (front : run sub depth name state bytes = some middle) (more : List UInt8) :
    run sub depth name state (bytes ++ more) = run sub depth name middle more := by
  obtain ⟨tokens, read, folded⟩ := Option.bind_eq_some_iff.mp front
  rw [run, lex_append read more, Option.bind_map, run]
  simp only [Function.comp_def, List.foldlM_append, folded, Option.bind_eq_bind, Option.bind_some]

theorem decode_eq_some_iff {msg msg' : schema.Carrier name} :
    decode depth name msg bytes = some msg' ↔
      run (nested depth) depth name ([], msg) bytes = some ([], msg') := by
  rw [decode_eq, decodeWith, Option.bind_eq_some_iff]
  constructor
  · rintro ⟨⟨groups, final⟩, ran, closed⟩
    obtain ⟨rfl, same⟩ := Option.ite_none_right_eq_some.mp closed
    obtain rfl := Option.some.inj same
    exact ran
  · intro ran
    exact ⟨_, ran, if_pos rfl⟩

@[simp] theorem decode_nil (msg : schema.Carrier name) : decode depth name msg [] = some msg :=
  decode_eq_some_iff.mpr (run_nil _)

/-- Bytes one after the other are merged one after the other. -/
theorem decode_append {msg middle : schema.Carrier name}
    (front : decode depth name msg bytes = some middle) (more : List UInt8) :
    decode depth name msg (bytes ++ more) = decode depth name middle more := by
  have ran := run_append (decode_eq_some_iff.mp front) more
  rw [decode_eq, decodeWith, ran, decodeWith]

end Schema
end Protobuf
