import ArenaClient.Base.Bytes
import Mathlib.Data.Nat.Log

/-! The proto3 wire encoding of the field kinds a client sends: base-128
varints, length-delimited strings and messages, integers and floats, each with
the size the generated `ByteSizeLong` adds for it. A field with its default
value is left out of both. -/
namespace Protobuf

/-- Seven bits a byte, low bits first, the top bit set on all but the last. -/
def varint (n : Nat) : List UInt8 :=
  if n < 128 then [UInt8.ofNat n] else UInt8.ofNat (n % 128 + 128) :: varint (n / 128)
  termination_by n

/-- `value == 0 ? 1 : floor(log2(value)) / 7 + 1`. -/
def varintSize (n : Nat) : Nat := n.log2 / 7 + 1

theorem log2_div_128 {n : Nat} (large : 128 ≤ n) : n.log2 = (n / 128).log2 + 7 := by
  have lower : 2 ^ ((n / 128).log2 + 7) ≤ n := by
    have floor := Nat.log2_self_le (n := n / 128) (by omega)
    rw [Nat.pow_add]
    omega
  have upper : n < 2 ^ ((n / 128).log2 + 7 + 1) := by
    have ceiling := Nat.lt_log2_self (n := n / 128)
    rw [Nat.add_right_comm, Nat.pow_add]
    omega
  exact (Nat.log2_eq_iff (by omega)).mpr ⟨lower, upper⟩

theorem length_varint (n : Nat) : (varint n).length = varintSize n := by
  induction n using varint.induct with
  | case1 n small =>
    have bits : n.log2 < 7 := by
      rcases Nat.eq_zero_or_pos n with rfl | positive
      · decide
      · exact (Nat.log2_lt (by omega)).mpr small
    rw [varint, if_pos small, List.length_singleton, varintSize]
    omega
  | case2 n large ih =>
    have bits := log2_div_128 (n := n) (by omega)
    rw [varint, if_neg large, List.length_cons, ih]
    unfold varintSize
    omega

theorem varintSize_eq_one {n : Nat} (small : n < 128) : varintSize n = 1 := by
  rw [← length_varint, varint, if_pos small, List.length_singleton]

theorem varintSize_mono {m n : Nat} (ordered : m ≤ n) : varintSize m ≤ varintSize n := by
  unfold varintSize
  have logs : m.log2 ≤ n.log2 := by
    rw [Nat.log2_eq_log_two, Nat.log2_eq_log_two]
    exact Nat.log_mono_right ordered
  exact Nat.add_le_add_right (Nat.div_le_div_right logs) 1

/-! ### Fields -/

/-- `WriteStringMaybeAliased`. -/
def stringField (number : Nat) (text : List UInt8) : List UInt8 :=
  if text.isEmpty then [] else varint (8 * number + 2) ++ varint text.length ++ text

/-- `1 + WireFormatLite::StringSize`. -/
def stringFieldSize (text : List UInt8) : Nat :=
  if text.isEmpty then 0 else 1 + (text.length + varintSize text.length)

/-- `WriteUInt32ToArray` and `WriteUInt64ToArray`. -/
def uintField (number value : Nat) : List UInt8 :=
  if value = 0 then [] else varint (8 * number) ++ varint value

/-- `UInt32SizePlusOne` and `UInt64SizePlusOne`. -/
def uintFieldSize (value : Nat) : Nat := if value = 0 then 0 else varintSize value + 1

/-- `WriteEnumToArray`: the number is extended to 64 bits. -/
def enumField (number : Nat) (value : Int32) : List UInt8 :=
  uintField number value.toInt64.toUInt64.toNat

def enumFieldSize (value : Int32) : Nat := uintFieldSize value.toInt64.toUInt64.toNat

/-- `WriteBoolToArray`. -/
def boolField (number : Nat) (value : Bool) : List UInt8 := uintField number value.toNat

def boolFieldSize (value : Bool) : Nat := if value then 1 + 1 else 0

/-- `WriteFloatToArray`, given the bits. -/
def floatField (number : Nat) (raw : UInt32) : List UInt8 :=
  if raw = 0 then [] else varint (8 * number + 5) ++ Bytes.littleEndian 4 raw.toNat

def floatFieldSize (raw : UInt32) : Nat := if raw = 0 then 0 else 1 + 4

/-- `InternalWriteMessage`, of a sub-message that is there. -/
def messageField (number : Nat) (message : List UInt8) : List UInt8 :=
  varint (8 * number + 2) ++ varint message.length ++ message

/-- `1 + WireFormatLite::MessageSize`. -/
def messageFieldSize (size : Nat) : Nat := 1 + (size + varintSize size)

theorem length_stringField {number : Nat} (small : number < 15) (text : List UInt8) :
    (stringField number text).length = stringFieldSize text := by
  unfold stringField stringFieldSize
  split
  · rfl
  · simp only [List.length_append, length_varint, varintSize_eq_one (n := 8 * number + 2) (by omega)]
    omega

theorem length_uintField {number : Nat} (small : number < 16) (value : Nat) :
    (uintField number value).length = uintFieldSize value := by
  unfold uintField uintFieldSize
  split
  · rfl
  · simp only [List.length_append, length_varint, varintSize_eq_one (n := 8 * number) (by omega)]
    omega

theorem length_enumField {number : Nat} (small : number < 16) (value : Int32) :
    (enumField number value).length = enumFieldSize value := length_uintField small _

theorem length_boolField {number : Nat} (small : number < 16) (value : Bool) :
    (boolField number value).length = boolFieldSize value := by
  rw [boolField, length_uintField small]
  cases value <;> decide

theorem length_floatField {number : Nat} (small : number < 15) (raw : UInt32) :
    (floatField number raw).length = floatFieldSize raw := by
  unfold floatField floatFieldSize
  split
  · rfl
  · rw [List.length_append, length_varint, varintSize_eq_one (by omega), Bytes.length_littleEndian]

theorem length_messageField {number : Nat} (small : number < 15) (message : List UInt8) :
    (messageField number message).length = messageFieldSize message.length := by
  simp only [messageField, messageFieldSize, List.length_append, length_varint,
    varintSize_eq_one (n := 8 * number + 2) (by omega)]
  omega

end Protobuf
