import ArenaClient.Base.Schema
import Mathlib.Algebra.Order.BigOperators.Group.List

/-! What the generated code of a message type writes, counts and merges, field
by field: a default value is left out of all three. What it writes decodes to
what it merges. -/
namespace Protobuf

/-- `InternalWriteMessage`, with the size that `ByteSizeLong` left behind. -/
def internalWriteMessage (number size : Nat) (message : List UInt8) : List UInt8 :=
  varint (8 * number + 2) ++ varint size ++ message

namespace Schema
variable {schema : Schema} {M : Type}

/-- A field of `ByteSizeLong`. -/
def fieldSize (sub : (name : schema.Name) → schema.Carrier name → Nat) (field : FieldCase schema.Carrier M)
    (msg : M) : Nat :=
  match field.kind with
  | .bool slot => boolFieldSize (slot.get msg)
  | .uint64 slot => uintFieldSize (slot.get msg).toNat
  | .uint32 slot => uintFieldSize (slot.get msg).toNat
  | .int32 slot => enumFieldSize (slot.get msg)
  | .enum slot => enumFieldSize (slot.get msg)
  | .float slot => floatFieldSize (slot.get msg)
  | .string slot => stringFieldSize (slot.get msg)
  | .message name slot => ((slot.get msg).map fun inner => messageFieldSize (sub name inner)).getD 0
  | .repeated name slot => ((slot.get msg).map fun inner => messageFieldSize (sub name inner)).sum

/-- `ByteSizeLong`. Messages are nested as deep as `depth` says. -/
def byteSizeLong : Nat → (name : schema.Name) → schema.Carrier name → Nat
  | 0 => fun _ _ => 0
  | depth + 1 => fun name msg =>
    ((schema.cases name).map fun field => fieldSize (byteSizeLong depth) field msg).sum

/-- A field of `_InternalSerialize`. -/
def writeField (size : (name : schema.Name) → schema.Carrier name → Nat)
    (sub : (name : schema.Name) → schema.Carrier name → List UInt8) (field : FieldCase schema.Carrier M)
    (msg : M) : List UInt8 :=
  match field.kind with
  | .bool slot => boolField field.number (slot.get msg)
  | .uint64 slot => uintField field.number (slot.get msg).toNat
  | .uint32 slot => uintField field.number (slot.get msg).toNat
  | .int32 slot => enumField field.number (slot.get msg)
  | .enum slot => enumField field.number (slot.get msg)
  | .float slot => floatField field.number (slot.get msg)
  | .string slot => stringField field.number (slot.get msg)
  | .message name slot =>
    ((slot.get msg).map fun inner =>
      internalWriteMessage field.number (size name inner) (sub name inner)).getD []
  | .repeated name slot =>
    (slot.get msg).flatMap fun inner => internalWriteMessage field.number (size name inner) (sub name inner)

/-- `_InternalSerialize`. -/
def internalSerialize : Nat → (name : schema.Name) → schema.Carrier name → List UInt8
  | 0 => fun _ _ => []
  | depth + 1 => fun name msg =>
    (schema.cases name).flatMap fun field =>
      writeField (byteSizeLong depth) (internalSerialize depth) field msg

/-- A field of `MergeImpl`. -/
def mergeField (sub : (name : schema.Name) → schema.Carrier name → schema.Carrier name → schema.Carrier name)
    (field : FieldCase schema.Carrier M) (source this : M) : M :=
  match field.kind with
  | .bool slot => if slot.get source then slot.set this (slot.get source) else this
  | .uint64 slot => if slot.get source = 0 then this else slot.set this (slot.get source)
  | .uint32 slot => if slot.get source = 0 then this else slot.set this (slot.get source)
  | .int32 slot => if slot.get source = 0 then this else slot.set this (slot.get source)
  | .enum slot => if slot.get source = 0 then this else slot.set this (slot.get source)
  | .float slot => if slot.get source = 0 then this else slot.set this (slot.get source)
  | .string slot => if (slot.get source).isEmpty then this else slot.set this (slot.get source)
  | .message name slot =>
    (slot.get source).elim this fun inner => slot.set this (some (sub name inner (mutable slot this)))
  | .repeated name slot =>
    slot.set this (slot.get this ++ (slot.get source).map fun inner => sub name inner (schema.empty name))

/-- `MergeImpl`, from the first message into the second. -/
def mergeImpl : Nat → (name : schema.Name) → schema.Carrier name → schema.Carrier name → schema.Carrier name
  | 0 => fun _ _ this => this
  | depth + 1 => fun name source this =>
    (schema.cases name).foldl (fun this field => mergeField (mergeImpl depth) field source this) this

/-- The strings of a field are UTF-8. -/
def fieldUtf8 (sub : (name : schema.Name) → schema.Carrier name → Bool) (field : FieldCase schema.Carrier M)
    (msg : M) : Bool :=
  match field.kind with
  | .string slot => Utf8.isStructurallyValidUTF8 (slot.get msg)
  | .message name slot => (slot.get msg).all (sub name)
  | .repeated name slot => (slot.get msg).all (sub name)
  | .bool _ | .uint64 _ | .uint32 _ | .int32 _ | .enum _ | .float _ => true

/-- All strings of a message are UTF-8. -/
def validUtf8 : Nat → (name : schema.Name) → schema.Carrier name → Bool
  | 0 => fun _ _ => true
  | depth + 1 => fun name msg => (schema.cases name).all fun field => fieldUtf8 (validUtf8 depth) field msg

/-! ### Sizes -/

theorem length_internalWriteMessage {number : Nat} (small : number < 15) (message : List UInt8) (size : Nat) :
    (internalWriteMessage number size message).length = 1 + (message.length + varintSize size) := by
  simp only [internalWriteMessage, List.length_append, length_varint,
    varintSize_eq_one (show 8 * number + 2 < 128 by omega)]
  omega

theorem length_writeField {size : (name : schema.Name) → schema.Carrier name → Nat}
    {sub : (name : schema.Name) → schema.Carrier name → List UInt8}
    (lengths : ∀ name msg, (sub name msg).length = size name msg) (field : FieldCase schema.Carrier M)
    (msg : M) : (writeField size sub field msg).length = fieldSize size field msg := by
  obtain ⟨number, byte, kind, -, small, -⟩ := field
  have few : number < 16 := small.trans (by decide)
  cases kind with
  | bool slot => exact length_boolField few _
  | uint64 slot | uint32 slot => exact length_uintField few _
  | int32 slot | enum slot => exact length_enumField few _
  | float slot => exact length_floatField small _
  | string slot => exact length_stringField small _
  | message name slot =>
    simp only [writeField, fieldSize]
    cases slot.get msg with
    | none => rfl
    | some inner =>
      simp only [Option.map_some, Option.getD_some]
      rw [length_internalWriteMessage small, lengths, messageFieldSize]
  | «repeated» name slot =>
    simp only [writeField, fieldSize, List.length_flatMap, length_internalWriteMessage small, lengths,
      messageFieldSize]

/-- `ByteSizeLong` counts what `_InternalSerialize` writes. -/
theorem length_internalSerialize (depth : Nat) (name : schema.Name) (msg : schema.Carrier name) :
    (internalSerialize depth name msg).length = byteSizeLong depth name msg := by
  induction depth generalizing name with
  | zero => rfl
  | succ depth ih =>
    simp only [internalSerialize, byteSizeLong, List.length_flatMap, length_writeField ih]

/-! ### What is written decodes -/

theorem token_tag {number wireType : Nat} (positive : 0 < number) (small : number < 15) (kind : wireType < 8)
    (rest : List UInt8) :
    token (varint (8 * number + wireType) ++ rest) =
      (body number wireType rest).map (Prod.map (1 + ·) id) := by
  have one := varintSize_eq_one (show 8 * number + wireType < 128 by omega)
  have tag : (UInt32.ofNat (8 * number + wireType)).toNat = 8 * number + wireType :=
    UInt32.toNat_ofNat_of_lt' (show 8 * number + wireType < 2 ^ 32 by omega)
  have front : tagDigits (varint (8 * number + wireType) ++ rest) =
      some (1, .ofNat (8 * number + wireType)) := by
    rw [tagDigits, digits_varint (show 8 * number + wireType < 128 ^ (4 + 1) by omega), one]
    rfl
  rw [token, front, Option.bind_some]
  dsimp only
  rw [List.drop_left' (by rw [length_varint, one]), tagged, tag, if_neg (by omega)]
  rw [show (8 * number + wireType) / 8 = number by omega,
    show (8 * number + wireType) % 8 = wireType by omega]

theorem body_varint_append (number : Nat) {value : Nat} (fits : value < 2 ^ 64) (rest : List UInt8) :
    body number 0 (varint value ++ rest) =
      some (varintSize value, .field number (.varint (.ofNat value))) := by
  refine body_varint.mpr ⟨_, ?_, rfl⟩
  rw [varintDigits, digits_varint (fits.trans (by decide))]
  rfl

theorem body_delimited_append (number : Nat) {message : List UInt8} (fits : message.length ≤ maxSize)
    (rest : List UInt8) :
    body number 2 (varint message.length ++ (message ++ rest)) =
      some (varintSize message.length + message.length, .field number (.delimited message)) := by
  refine body_delimited.mpr ⟨_, ?_, rfl⟩
  have size : message.length < 128 ^ (4 + 1) := fits.trans_lt (by decide)
  rw [delimited, sizeDigits, digits_varint size, Option.filter_some, if_pos (decide_eq_true fits),
    Option.bind_some]
  dsimp only
  rw [List.drop_left' (length_varint _), raw, if_pos (by simp), List.take_left, Option.map_some]
  rfl

theorem body_fixed32_append (number : Nat) {four : List UInt8} (fits : four.length = 4) (rest : List UInt8) :
    body number 5 (four ++ rest) = some (4, .field number (.fixed32 four)) := by
  refine body_fixed32.mpr ⟨_, ?_, rfl⟩
  rw [raw, if_pos (by rw [List.length_append]; omega), List.take_left' fits]

theorem toUInt32_ofNat_toNat (value : UInt32) : (UInt64.ofNat value.toNat).toUInt32 = value := by
  have size := value.toNat_lt
  apply UInt32.toNat_inj.mp
  rw [UInt64.toNat_toUInt32, UInt64.toNat_ofNat']
  omega

/-- An int32 survives the sign extension. -/
theorem sign_extend (value : Int32) : value.toInt64.toUInt64.toUInt32.toInt32 = value := by
  apply Int32.toBitVec_inj.mp
  show (value.toBitVec.signExtend 64).setWidth 32 = value.toBitVec
  apply BitVec.eq_of_getElem_eq
  intro i small
  rw [BitVec.getElem_setWidth, BitVec.getLsbD_signExtend]
  simp [small, Nat.lt_trans small (show 32 < 64 by decide)]

theorem sign_extend_eq_zero (value : Int32) : value.toInt64.toUInt64.toNat = 0 ↔ value = 0 := by
  constructor
  · intro zero
    have same : value.toInt64.toUInt64 = 0 := UInt64.toNat_inj.mp zero
    rw [← sign_extend value, same]
    rfl
  · rintro rfl
    rfl

section Fields
variable {name : schema.Name} {depth : Nat} {sub : schema.Reader}
  {field : FieldCase schema.Carrier (schema.Carrier name)} {this : schema.Carrier name} {rest : List UInt8}

/-- The field at the front of a message. -/
theorem run_front (found : schema.find name field.number = some field)
    (read : body field.number field.kind.wireType (payload ++ rest) =
      some (payload.length, .field field.number carried)) :
    run sub depth name ([], this) (varint (8 * field.number + field.kind.wireType) ++ (payload ++ rest)) =
      (applyField sub field.kind this carried).bind fun next => run sub depth name ([], next) rest := by
  obtain ⟨positive, small, -⟩ := field.tagged
  have kind := field.kind.wireType_lt
  have front := token_tag positive small kind (payload ++ rest)
  rw [read, Option.map_some, Prod.map_apply, id] at front
  have one := varintSize_eq_one (show 8 * field.number + field.kind.wireType < 128 by omega)
  rw [run_token front, step, found]
  dsimp only
  rw [← one, ← length_varint, ← List.append_assoc, List.drop_left' (List.length_append)]
  cases applyField sub field.kind this carried <;> rfl

theorem run_uintField (found : schema.find name field.number = some field)
    (wireType : field.kind.wireType = 0) {value : Nat} (fits : value < 2 ^ 64) :
    run sub depth name ([], this) (uintField field.number value ++ rest) =
      if value = 0 then run sub depth name ([], this) rest
      else (applyField sub field.kind this (.varint (.ofNat value))).bind fun next =>
        run sub depth name ([], next) rest := by
  rw [uintField]
  split
  · rfl
  · have read := body_varint_append field.number fits rest
    rw [← length_varint, ← wireType] at read
    rw [← run_front found read, wireType, Nat.add_zero, List.append_assoc]

theorem run_number (found : schema.find name field.number = some field) (wireType : field.kind.wireType = 0)
    {value : Nat} (fits : value < 2 ^ 64) {zero : Prop} [Decidable zero] (default : value = 0 ↔ zero)
    (applied : applyField sub field.kind this (.varint (.ofNat value)) = some next) :
    run sub depth name ([], this) (uintField field.number value ++ rest) =
      run sub depth name ([], if zero then this else next) rest := by
  rw [run_uintField found wireType fits, applied, Option.bind_some]
  simp only [default]
  split <;> rfl

theorem run_internalWriteMessage (found : schema.find name field.number = some field)
    (wireType : field.kind.wireType = 2) {message : List UInt8} (fits : message.length ≤ maxSize) :
    run sub depth name ([], this) (internalWriteMessage field.number message.length message ++ rest) =
      (applyField sub field.kind this (.delimited message)).bind fun next =>
        run sub depth name ([], next) rest := by
  have read := body_delimited_append field.number fits rest
  rw [← length_varint, ← List.length_append, ← wireType, ← List.append_assoc] at read
  rw [← run_front found read, wireType, internalWriteMessage, List.append_assoc, List.append_assoc,
    List.append_assoc]

variable {size : (name : schema.Name) → schema.Carrier name → Nat}
  {write : (name : schema.Name) → schema.Carrier name → List UInt8}
  {merge : (name : schema.Name) → schema.Carrier name → schema.Carrier name → schema.Carrier name}
  {valid : (name : schema.Name) → schema.Carrier name → Bool}

/-- Elements, one after the other. -/
theorem run_elements {inner : schema.Name} {slot : Slot (schema.Carrier name) (List (schema.Carrier inner))}
    (found : schema.find name field.number = some field) (kind : field.kind = .repeated inner slot)
    (lengths : ∀ name msg, (write name msg).length = size name msg)
    (decodes : ∀ name source this, size name source ≤ maxSize →
      sub name this (write name source) = if valid name source then some (merge name source this) else none)
    (elements : List (schema.Carrier inner)) (fits : ∀ element ∈ elements, size inner element ≤ maxSize) :
    run sub depth name ([], this)
        (elements.flatMap (fun element =>
          internalWriteMessage field.number (size inner element) (write inner element)) ++ rest) =
      if elements.all (valid inner) then
        run sub depth name ([], slot.set this
          (slot.get this ++ elements.map fun element => merge inner element (schema.empty inner))) rest
      else none := by
  induction elements generalizing this with
  | nil => simp [slot.set_get]
  | cons element elements ih =>
    obtain ⟨first, later⟩ := List.forall_mem_cons.mp fits
    have wireType : field.kind.wireType = 2 := by rw [kind]; rfl
    rw [List.flatMap_cons, List.append_assoc, ← lengths,
      run_internalWriteMessage found wireType (by rw [lengths]; exact first), kind, applyField,
      decodes _ _ _ first, List.all_cons]
    cases valid inner element with
    | false => simp
    | true =>
      simp only [if_true, Option.map_some, Option.bind_some, Bool.true_and, add, ih later, slot.get_set,
        slot.set_set, List.map_cons, List.append_assoc, List.singleton_append]

/-- What a field writes makes the change that `MergeImpl` makes. -/
theorem run_writeField (found : schema.find name field.number = some field)
    (lengths : ∀ name msg, (write name msg).length = size name msg)
    (decodes : ∀ name source this, size name source ≤ maxSize →
      sub name this (write name source) = if valid name source then some (merge name source this) else none)
    (source : schema.Carrier name) (fits : fieldSize size field source ≤ maxSize) :
    run sub depth name ([], this) (writeField size write field source ++ rest) =
      if fieldUtf8 valid field source then run sub depth name ([], mergeField merge field source this) rest
      else none := by
  rw [writeField, fieldUtf8, mergeField]
  rw [fieldSize] at fits
  cases kind : field.kind with
  | bool slot =>
    have wireType : field.kind.wireType = 0 := by rw [kind]; rfl
    dsimp only
    rw [boolField, run_uintField found wireType (by cases slot.get source <;> decide), kind]
    cases slot.get source <;> rfl
  | uint64 slot =>
    have wireType : field.kind.wireType = 0 := by rw [kind]; rfl
    refine run_number found wireType (UInt64.toNat_lt _) (UInt64.toNat_inj (b := 0)) ?_
    rw [kind, applyField, UInt64.ofNat_toNat]
  | uint32 slot =>
    have wireType : field.kind.wireType = 0 := by rw [kind]; rfl
    refine run_number found wireType ((UInt32.toNat_lt _).trans (by decide)) (UInt32.toNat_inj (b := 0)) ?_
    rw [kind, applyField, toUInt32_ofNat_toNat]
  | int32 slot | enum slot =>
    have wireType : field.kind.wireType = 0 := by rw [kind]; rfl
    refine run_number found wireType (UInt64.toNat_lt _) (sign_extend_eq_zero _) ?_
    rw [kind, applyField, UInt64.ofNat_toNat, sign_extend]
  | float slot =>
    have wireType : field.kind.wireType = 5 := by rw [kind]; rfl
    dsimp only
    rw [floatField]
    split
    · rfl
    · rename_i set
      generalize same : Bytes.littleEndian 4 (slot.get source).toNat = four
      have length : four.length = 4 := same ▸ Bytes.length_littleEndian 4 _
      have read := body_fixed32_append field.number length rest
      rw [← length, ← wireType] at read
      rw [List.append_assoc, ← wireType, run_front found read, kind, applyField, ← same,
        Bytes.value_littleEndian (UInt32.toNat_lt _), UInt32.ofNat_toNat]
      rfl
  | string slot =>
    have wireType : field.kind.wireType = 2 := by rw [kind]; rfl
    rw [kind] at fits
    dsimp only at fits ⊢
    rw [stringField]
    split
    · rename_i empty
      rw [List.isEmpty_iff.mp empty]
      rfl
    · rename_i nonempty
      have written : varint (8 * field.number + 2) ++ varint (slot.get source).length ++ slot.get source =
          internalWriteMessage field.number (slot.get source).length (slot.get source) := rfl
      rw [written, run_internalWriteMessage found wireType ?_, kind, applyField]
      · split <;> rfl
      · rw [stringFieldSize, if_neg nonempty] at fits
        omega
  | message inner slot =>
    have wireType : field.kind.wireType = 2 := by rw [kind]; rfl
    rw [kind] at fits
    dsimp only at fits ⊢
    obtain missing | ⟨value, there⟩ := Option.eq_none_or_eq_some (slot.get source)
    · simp [missing]
    · rw [there, Option.map_some, Option.getD_some, messageFieldSize] at fits
      simp only [there, Option.map_some, Option.getD_some, Option.all_some, Option.elim_some]
      rw [← lengths, run_internalWriteMessage found wireType (by rw [lengths]; omega), kind, applyField,
        decodes _ _ _ (by omega)]
      split <;> rfl
  | «repeated» inner slot =>
    rw [kind] at fits
    refine run_elements found kind lengths decodes _ fun element member => ?_
    have one : messageFieldSize (size inner element) ≤
        ((slot.get source).map fun element => messageFieldSize (size inner element)).sum :=
      List.le_sum_of_mem (List.mem_map_of_mem member)
    dsimp only at fits
    rw [messageFieldSize] at one
    omega

/-- All fields, one after the other. -/
theorem run_writeFields (fields : List (FieldCase schema.Carrier (schema.Carrier name)))
    (found : ∀ field ∈ fields, schema.find name field.number = some field)
    (lengths : ∀ name msg, (write name msg).length = size name msg)
    (decodes : ∀ name source this, size name source ≤ maxSize →
      sub name this (write name source) = if valid name source then some (merge name source this) else none)
    (source : schema.Carrier name)
    (fits : (fields.map fun field => fieldSize size field source).sum ≤ maxSize) :
    run sub depth name ([], this) (fields.flatMap (fun field => writeField size write field source) ++ rest) =
      if fields.all fun field => fieldUtf8 valid field source then
        run sub depth name ([], fields.foldl (fun this field => mergeField merge field source this) this) rest
      else none := by
  induction fields generalizing this with
  | nil => rfl
  | cons field fields ih =>
    obtain ⟨here, later⟩ := List.forall_mem_cons.mp found
    rw [List.map_cons, List.sum_cons] at fits
    rw [List.flatMap_cons, List.append_assoc, run_writeField here lengths decodes source (by omega),
      List.all_cons]
    cases fieldUtf8 valid field source with
    | false => rfl
    | true =>
      rw [if_pos rfl, ih later (by omega), Bool.true_and]
      rfl

end Fields

theorem find_of_mem {name : schema.Name} {field : FieldCase schema.Carrier (schema.Carrier name)}
    (member : field ∈ schema.cases name) : schema.find name field.number = some field := by
  have distinct := schema.distinct name
  unfold find
  generalize schema.cases name = fields at member distinct
  induction fields with
  | nil => cases member
  | cons first fields ih =>
    rw [List.map_cons, List.nodup_cons] at distinct
    obtain rfl | later := List.mem_cons.mp member
    · exact List.find?_cons_of_pos (decide_eq_true rfl)
    · have other : first.number ≠ field.number :=
        fun same => distinct.1 (same ▸ List.mem_map_of_mem later)
      rw [List.find?_cons_of_neg (by simpa using other)]
      exact ih later distinct.2

/-- A serialized message, and whatever follows, decodes to its merge: unless one
of its strings is not UTF-8. -/
theorem decode_internalSerialize {levels depth : Nat} (deep : levels ≤ depth) (name : schema.Name)
    (source this : schema.Carrier name) (fits : byteSizeLong levels name source ≤ maxSize)
    (rest : List UInt8) :
    decode depth name this (internalSerialize levels name source ++ rest) =
      if validUtf8 levels name source then decode depth name (mergeImpl levels name source this) rest
      else none := by
  induction levels generalizing depth name this rest with
  | zero => rfl
  | succ levels ih =>
    have decodes (name : schema.Name) (source this : schema.Carrier name)
        (fits : byteSizeLong levels name source ≤ maxSize) :
        nested depth name this (internalSerialize levels name source) =
          if validUtf8 levels name source then some (mergeImpl levels name source this) else none := by
      obtain ⟨depth, rfl⟩ := Nat.exists_eq_succ_of_ne_zero (show depth ≠ 0 by omega)
      have one := ih (Nat.le_of_succ_le_succ deep) name source this fits []
      simpa [nested] using one
    rw [decode_eq, decodeWith, internalSerialize,
      run_writeFields _ (fun field member => find_of_mem member) (length_internalSerialize levels) decodes
        source fits, validUtf8, mergeImpl, decodeWith]
    split <;> rfl

end Schema
end Protobuf
