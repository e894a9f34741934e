import Mathlib.Data.List.Basic
import Mathlib.Tactic.Ring

/-! Little-endian numbers of any width and checked accesses to a byte buffer.
Both are executable; the laws hold for every width, value and buffer. -/
namespace Bytes

def littleEndian : Nat → Nat → List UInt8
  | 0, _ => []
  | width + 1, n => UInt8.ofNat (n % 256) :: littleEndian width (n / 256)

def value : List UInt8 → Nat
  | [] => 0
  | byte :: rest => byte.toNat + 256 * value rest

@[simp] theorem length_littleEndian (width n : Nat) : (littleEndian width n).length = width := by
  induction width generalizing n with
  | zero => rfl
  | succ width ih => simp [littleEndian, ih]

theorem value_littleEndian {width n : Nat} (fits : n < 256 ^ width) :
    value (littleEndian width n) = n := by
  induction width generalizing n with
  | zero =>
    have : n = 0 := by simpa using fits
    simp [littleEndian, value, this]
  | succ width ih =>
    have tailFits : n / 256 < 256 ^ width := by
      rw [Nat.div_lt_iff_lt_mul (by decide), ← Nat.pow_succ]
      exact fits
    have byte : (UInt8.ofNat (n % 256)).toNat = n % 256 := by
      simp [UInt8.toNat_ofNat']
    rw [littleEndian, value, ih tailFits, byte]
    exact Nat.mod_add_div n 256

variable {α : Type*}

/-- `memcpy(&buffer[offset], bytes, bytes.length)` on a buffer large enough. -/
def overwrite (buffer : List α) (offset : Nat) (bytes : List α) : List α :=
  buffer.take offset ++ bytes ++ buffer.drop (offset + bytes.length)

/-- A store that leaves the buffer is no value at all. -/
def store (buffer : List α) (offset : Nat) (bytes : List α) : Option (List α) :=
  if offset + bytes.length ≤ buffer.length then some (overwrite buffer offset bytes) else none

theorem store_of_le {buffer bytes : List α} {offset : Nat}
    (fits : offset + bytes.length ≤ buffer.length) :
    store buffer offset bytes = some (overwrite buffer offset bytes) := if_pos fits

/-- A load from outside the buffer is no value either. -/
def load (buffer : List α) (offset count : Nat) : Option (List α) :=
  if offset + count ≤ buffer.length then some ((buffer.drop offset).take count) else none

theorem load_of_le {buffer : List α} {offset count : Nat} (fits : offset + count ≤ buffer.length) :
    load buffer offset count = some ((buffer.drop offset).take count) := if_pos fits

theorem length_overwrite {buffer bytes : List α} {offset : Nat}
    (fits : offset + bytes.length ≤ buffer.length) :
    (overwrite buffer offset bytes).length = buffer.length := by
  simp only [overwrite, List.length_append, List.length_take, List.length_drop]
  omega

/-- Consecutive stores from the front of a buffer leave the stored bytes in
order, followed by the untouched rest. -/
theorem overwrite_append (done bytes rest : List α) :
    overwrite (done ++ rest) done.length bytes = done ++ bytes ++ rest.drop bytes.length := by
  have cut : (done ++ rest).drop (done.length + bytes.length) = rest.drop bytes.length := by
    rw [← List.drop_drop, List.drop_left]
  rw [overwrite, List.take_left, cut]

theorem overwrite_nil (buffer : List α) (offset : Nat) : overwrite buffer offset [] = buffer := by
  rw [overwrite, List.append_nil, List.length_nil, Nat.add_zero, List.take_append_drop]

/-- Two stores side by side are one. -/
theorem overwrite_overwrite {buffer first : List α} {offset : Nat}
    (fits : offset + first.length ≤ buffer.length) (second : List α) :
    overwrite (overwrite buffer offset first) (offset + first.length) second =
      overwrite buffer offset (first ++ second) := by
  have done : (buffer.take offset ++ first).length = offset + first.length := by
    rw [List.length_append, List.length_take_of_le (Nat.le_of_add_right_le fits)]
  have stored := overwrite_append (buffer.take offset ++ first) second (buffer.drop (offset + first.length))
  rw [done, List.drop_drop] at stored
  calc overwrite (overwrite buffer offset first) (offset + first.length) second
    _ = buffer.take offset ++ first ++ second ++ buffer.drop (offset + first.length + second.length) := stored
    _ = overwrite buffer offset (first ++ second) := by
      rw [overwrite, List.length_append, Nat.add_assoc, List.append_assoc (buffer.take offset)]

theorem take_overwrite {buffer : List α} {offset : Nat} (fits : offset ≤ buffer.length) (bytes : List α) :
    (overwrite buffer offset bytes).take offset = buffer.take offset := by
  rw [overwrite, List.append_assoc, List.take_left' (List.length_take_of_le fits)]

theorem drop_overwrite {buffer : List α} {offset : Nat} (fits : offset ≤ buffer.length) (bytes : List α) :
    (overwrite buffer offset bytes).drop offset = bytes ++ buffer.drop (offset + bytes.length) := by
  rw [overwrite, List.append_assoc, List.drop_left' (List.length_take_of_le fits)]

end Bytes
