import ArenaClient.Network.BufferCursors

/-! When a run of buffer operations keeps to the buffer. The checked operations
do, whatever they are asked for; the two operators do as long as their callers
have made sure that there is room. -/
namespace ArenaClient
open Bytes Calls

namespace BufferCursor
variable {R : Type} {cursor next : BufferCursor}

/-- A call about `extent` bytes stays inside the buffer: it has an outcome, so
nothing outside was touched, the position is inside afterwards and `FreeSize`
does not wrap; and if there was no room, it fails and changes nothing. -/
def StaysInside (cursor : BufferCursor) (extent : Nat) (success : R → Bool)
    (outcome : Option (R × BufferCursor)) : Prop :=
  ∃ answer next, outcome = some (answer, next) ∧ next.InBounds ∧
    next.pos.toNat + next.freeSize.toNat = next.size.toNat ∧ next.size = cursor.size ∧
    (cursor.size.toNat < cursor.pos.toNat + extent → success answer = false ∧ next = cursor)

/-- The cursor after `count` more bytes. -/
def advance (cursor : BufferCursor) (count : Nat) : BufferCursor :=
  { cursor with pos := UInt32.ofNat (cursor.pos.toNat + count) }

theorem advance_toNat (cursor : BufferCursor) (len : UInt32) :
    cursor.advance len.toNat = { cursor with pos := cursor.pos + len } := by
  rw [advance, UInt32.ofNat_add, UInt32.ofNat_toNat, UInt32.ofNat_toNat]

theorem advance_advance (cursor : BufferCursor) (first second : Nat) :
    (cursor.advance first).advance second = cursor.advance (first + second) := by
  have moved : UInt32.ofNat ((UInt32.ofNat (cursor.pos.toNat + first)).toNat + second) =
      UInt32.ofNat (cursor.pos.toNat + (first + second)) := by
    apply UInt32.toNat_inj.mp
    rw [UInt32.toNat_ofNat', UInt32.toNat_ofNat', UInt32.toNat_ofNat']
    omega
  rw [advance, advance, advance, moved]

theorem pos_advance {count : Nat} (fits : cursor.pos.toNat + count ≤ cursor.size.toNat) :
    (cursor.advance count).pos.toNat = cursor.pos.toNat + count := by
  have bound := cursor.size.toNat_lt
  rw [advance, UInt32.toNat_ofNat', Nat.mod_eq_of_lt (by omega)]

theorem InBounds.advance {count : Nat} (bounds : cursor.InBounds)
    (fits : cursor.pos.toNat + count ≤ cursor.size.toNat) : (cursor.advance count).InBounds where
  whole := bounds.whole
  inside := by
    rw [UInt32.le_iff_toNat_le, pos_advance fits]
    exact fits

theorem InBounds.overwrite {bytes : List UInt8} (bounds : cursor.InBounds)
    (fits : cursor.pos.toNat + bytes.length ≤ cursor.size.toNat) :
    { cursor with buffer := overwrite cursor.buffer cursor.pos.toNat bytes }.InBounds where
  whole := (length_overwrite (bounds.whole ▸ fits)).trans bounds.whole
  inside := bounds.inside

/-- The check of the four operations is the one in unbounded numbers. -/
theorem InBounds.freeSize_lt (bounds : cursor.InBounds) (len : UInt32) :
    cursor.freeSize < len ↔ cursor.size.toNat < cursor.pos.toNat + len.toNat := by
  have balance := bounds.freeSize
  rw [UInt32.lt_iff_toNat_lt]
  omega

theorem StaysInside.inBounds {success : R → Bool} {answer : R} {extent : Nat}
    (stays : cursor.StaysInside extent success (some (answer, next))) : next.InBounds := by
  obtain ⟨_, _, outcome, bounds, _⟩ := stays
  obtain ⟨rfl, rfl⟩ := Prod.mk.inj (Option.some.inj outcome)
  exact bounds

variable {success : R → Bool} {accepted refused : R} {len extent : Nat}

/-- What a call that goes through has to satisfy. -/
theorem staysInside_accepted_iff (bounds : cursor.InBounds) (nextBounds : next.InBounds)
    (sameSize : next.size = cursor.size) (succeeds : success accepted = true) :
    cursor.StaysInside extent success (some (accepted, next)) ↔ extent ≤ cursor.freeSize.toNat := by
  have balance := bounds.freeSize
  constructor
  · rintro ⟨_, _, outcome, _, _, _, refuses⟩
    obtain ⟨rfl, rfl⟩ := Prod.mk.inj (Option.some.inj outcome)
    by_contra wide
    exact Bool.false_ne_true ((refuses (by omega)).1.symm.trans succeeds)
  · intro fits
    refine ⟨accepted, next, rfl, nextBounds, nextBounds.freeSize, sameSize, fun wide => ?_⟩
    omega

/-- An operation that checks for `len` bytes, and is about `extent` bytes. -/
theorem checked_staysInside_iff (bounds : cursor.InBounds)
    (nextBounds : cursor.pos.toNat + len ≤ cursor.size.toNat → next.InBounds)
    (sameSize : next.size = cursor.size) (succeeds : success accepted = true)
    (fails : success refused = false) :
    cursor.StaysInside extent success
        (some (if cursor.pos.toNat + len ≤ cursor.size.toNat then (accepted, next) else (refused, cursor))) ↔
      (len ≤ cursor.freeSize.toNat → extent ≤ cursor.freeSize.toNat) := by
  have balance := bounds.freeSize
  by_cases fits : cursor.pos.toNat + len ≤ cursor.size.toNat
  · rw [if_pos fits, staysInside_accepted_iff bounds (nextBounds fits) sameSize succeeds]
    exact (imp_iff_right (by omega)).symm
  · rw [if_neg fits]
    refine iff_of_true ⟨refused, cursor, rfl, bounds, balance, rfl, fun _ => ⟨fails, rfl⟩⟩ fun small => ?_
    omega

/-- An operation that does not check. -/
theorem unchecked_staysInside_iff (bounds : cursor.InBounds)
    (nextBounds : cursor.pos.toNat + extent ≤ cursor.size.toNat → next.InBounds)
    (sameSize : next.size = cursor.size) (succeeds : success accepted = true) :
    cursor.StaysInside extent success
        (if cursor.pos.toNat + extent ≤ cursor.size.toNat then some (accepted, next) else none) ↔
      extent ≤ cursor.freeSize.toNat := by
  have balance := bounds.freeSize
  by_cases fits : cursor.pos.toNat + extent ≤ cursor.size.toNat
  · rw [if_pos fits, staysInside_accepted_iff bounds (nextBounds fits) sameSize succeeds]
  · rw [if_neg fits]
    refine iff_of_false ?_ (by omega)
    rintro ⟨_, _, outcome, _⟩
    exact Option.some_ne_none _ outcome.symm

end BufferCursor

open BufferCursor

/-! ### The operations in closed form -/

namespace BufferReader
variable {reader : BufferReader}

theorem peek_eq (bounds : reader.InBounds) (len : UInt32) :
    reader.peek len = some
      (if reader.pos.toNat + len.toNat ≤ reader.size.toNat then
        ({ success := true, dest := (reader.buffer.drop reader.pos.toNat).take len.toNat }, reader)
      else ({ success := false }, reader)) := by
  have check := bounds.freeSize_lt len
  rw [peek]
  by_cases fits : reader.pos.toNat + len.toNat ≤ reader.size.toNat
  · rw [if_neg (mt check.mp (by omega)), if_pos fits, load_of_le (bounds.whole ▸ fits)]
    rfl
  · rw [if_pos (check.mpr (by omega)), if_neg fits]

theorem read_eq (bounds : reader.InBounds) (len : UInt32) :
    reader.read len = some
      (if reader.pos.toNat + len.toNat ≤ reader.size.toNat then
        ({ success := true, dest := (reader.buffer.drop reader.pos.toNat).take len.toNat },
          reader.advance len.toNat)
      else ({ success := false }, reader)) := by
  rw [read, peek_eq bounds, advance_toNat]
  by_cases fits : reader.pos.toNat + len.toNat ≤ reader.size.toNat
  · simp [fits]
  · simp [fits]

theorem extract_eq (bounds : reader.InBounds) (sizeofT : Nat) :
    reader.extract sizeofT =
      if reader.pos.toNat + sizeofT ≤ reader.size.toNat then
        some ({ success := true, dest := (reader.buffer.drop reader.pos.toNat).take sizeofT },
          reader.advance sizeofT)
      else none := by
  rw [extract, load, bounds.whole]
  split <;> rfl

end BufferReader

namespace BufferWriter
variable {writer : BufferWriter}

/-- The writer with some bytes put in at its position, and moved past them. -/
def wrote (writer : BufferWriter) (bytes : List UInt8) : BufferWriter :=
  { writer with buffer := overwrite writer.buffer writer.pos.toNat bytes }.advance bytes.length

theorem write_eq (bounds : writer.InBounds) (src : List UInt8) {len : UInt32}
    (enough : len.toNat ≤ src.length) :
    writer.write src len = some
      (if writer.pos.toNat + len.toNat ≤ writer.size.toNat then
        (true, writer.wrote (src.take len.toNat))
      else (false, writer)) := by
  have check := bounds.freeSize_lt len
  have taken : (src.take len.toNat).length = len.toNat := List.length_take_of_le enough
  rw [write]
  by_cases fits : writer.pos.toNat + len.toNat ≤ writer.size.toNat
  · have stored : writer.pos.toNat + (src.take len.toNat).length ≤ writer.buffer.length := by
      rw [taken, bounds.whole]
      exact fits
    rw [if_neg (mt check.mp (by omega)), if_pos fits, load_of_le (by omega), List.drop_zero, wrote, taken,
      advance_toNat]
    simp [store_of_le stored]
  · rw [if_pos (check.mpr (by omega)), if_neg fits]

theorem reserve_eq (bounds : writer.InBounds) (sizeofT : Nat) :
    writer.reserve sizeofT =
      if writer.pos.toNat + sizeofT ≤ writer.size.toNat then
        (some writer.pos.toNat, writer.advance sizeofT)
      else (none, writer) := by
  have balance := bounds.freeSize
  rw [reserve]
  by_cases fits : writer.pos.toNat + sizeofT ≤ writer.size.toNat
  · rw [if_neg (by omega), if_pos fits]
    rfl
  · rw [if_pos (by omega), if_neg fits]

theorem insert_eq (bounds : writer.InBounds) (object : List UInt8) :
    writer.insert object =
      if writer.pos.toNat + object.length ≤ writer.size.toNat then some (true, writer.wrote object)
      else none := by
  rw [insert, store, bounds.whole]
  split <;> rfl

theorem InBounds.wrote {bytes : List UInt8} (bounds : writer.InBounds)
    (fits : writer.pos.toNat + bytes.length ≤ writer.size.toNat) : (writer.wrote bytes).InBounds :=
  (bounds.overwrite fits).advance fits

end BufferWriter

/-! ### Runs -/

/-- What the callers of the operators, and of the operations that narrow
`sizeof(T)`, would have to see to. -/
def ReaderCall.Guarded (reader : BufferReader) : ReaderCall → Prop
  | .peek _ | .read _ => True
  | .peekAs sizeofT | .readAs sizeofT => sizeofT < 2 ^ 32 ∨ reader.freeSize < UInt32.ofNat sizeofT
  | .extract sizeofT => sizeofT ≤ reader.freeSize.toNat

def WriterCall.Guarded (writer : BufferWriter) : WriterCall → Prop
  | .write _ | .reserve _ => True
  | .writeAs object => object.length < 2 ^ 32 ∨ writer.freeSize < UInt32.ofNat object.length
  | .insert object => object.length ≤ writer.freeSize.toNat

instance (reader : BufferReader) : (call : ReaderCall) → Decidable (call.Guarded reader)
  | .peek _ | .read _ => .isTrue trivial
  | .peekAs _ | .readAs _ => inferInstanceAs (Decidable (_ ∨ _))
  | .extract _ => inferInstanceAs (Decidable (_ ≤ _))

instance (writer : BufferWriter) : (call : WriterCall) → Decidable (call.Guarded writer)
  | .write _ | .reserve _ => .isTrue trivial
  | .writeAs _ => inferInstanceAs (Decidable (_ ∨ _))
  | .insert _ => inferInstanceAs (Decidable (_ ≤ _))

/-- A size of 2³² or more fits nowhere, but what is left of it might. -/
theorem narrowed_iff (free : UInt32) (sizeofT : Nat) :
    ((UInt32.ofNat sizeofT).toNat ≤ free.toNat → sizeofT ≤ free.toNat) ↔
      sizeofT < 2 ^ 32 ∨ free < UInt32.ofNat sizeofT := by
  have bound := free.toNat_lt
  rw [UInt32.lt_iff_toNat_lt, UInt32.toNat_ofNat']
  omega

theorem BufferReader.call_staysInside_iff {reader : BufferReader} (bounds : reader.InBounds)
    (call : ReaderCall) :
    reader.StaysInside call.extent Copied.success (reader.call call) ↔ call.Guarded reader := by
  have checkedPeek (len : UInt32) (extent : Nat) :
      reader.StaysInside extent Copied.success (reader.peek len) ↔
        (len.toNat ≤ reader.freeSize.toNat → extent ≤ reader.freeSize.toNat) := by
    rw [peek_eq bounds]
    exact checked_staysInside_iff bounds (fun _ => bounds) rfl rfl rfl
  have checkedRead (len : UInt32) (extent : Nat) :
      reader.StaysInside extent Copied.success (reader.read len) ↔
        (len.toNat ≤ reader.freeSize.toNat → extent ≤ reader.freeSize.toNat) := by
    rw [read_eq bounds]
    exact checked_staysInside_iff bounds bounds.advance rfl rfl rfl
  cases call with
  | peek len => exact (checkedPeek len len.toNat).trans (iff_of_true id trivial)
  | read len => exact (checkedRead len len.toNat).trans (iff_of_true id trivial)
  | peekAs sizeofT => exact (checkedPeek _ sizeofT).trans (narrowed_iff _ sizeofT)
  | readAs sizeofT => exact (checkedRead _ sizeofT).trans (narrowed_iff _ sizeofT)
  | extract sizeofT =>
    rw [call, extract_eq bounds]
    exact unchecked_staysInside_iff bounds bounds.advance rfl rfl

theorem BufferWriter.call_staysInside_iff {writer : BufferWriter} (bounds : writer.InBounds)
    (call : WriterCall) :
    writer.StaysInside call.extent id (writer.call call) ↔ call.Guarded writer := by
  have checkedWrite (src : List UInt8) (len : UInt32) (enough : len.toNat ≤ src.length) (extent : Nat) :
      writer.StaysInside extent id (writer.write src len) ↔
        (len.toNat ≤ writer.freeSize.toNat → extent ≤ writer.freeSize.toNat) := by
    have taken : (src.take len.toNat).length = len.toNat := List.length_take_of_le enough
    rw [write_eq bounds src enough]
    exact checked_staysInside_iff bounds (fun fits => InBounds.wrote bounds (taken.symm ▸ fits)) rfl rfl rfl
  cases call with
  | write block =>
    have exact := checkedWrite block.bytes block.len (Nat.le_of_eq block.toNat_len) block.bytes.length
    rw [block.toNat_len] at exact
    exact exact.trans (iff_of_true id trivial)
  | writeAs object =>
    have narrows : (UInt32.ofNat object.length).toNat ≤ object.length := by
      rw [UInt32.toNat_ofNat']
      exact Nat.mod_le _ _
    exact (checkedWrite object _ narrows object.length).trans (narrowed_iff _ object.length)
  | reserve sizeofT =>
    rw [call, reserve_eq bounds, apply_ite (Prod.map Option.isSome id)]
    exact (checked_staysInside_iff bounds bounds.advance rfl rfl rfl).trans (iff_of_true id trivial)
  | insert object =>
    rw [call, insert_eq bounds]
    exact unchecked_staysInside_iff bounds (InBounds.wrote bounds) rfl rfl

/-- Every call of a reader stays inside the buffer. -/
def ReaderStaysInside (reader : BufferReader) (calls : List ReaderCall) : Prop :=
  EveryCall BufferReader.call (fun reader call => reader.StaysInside call.extent Copied.success) reader calls

def WriterStaysInside (writer : BufferWriter) (calls : List WriterCall) : Prop :=
  EveryCall BufferWriter.call (fun writer call => writer.StaysInside call.extent id) writer calls

/-- From a cursor inside its buffer, a run of calls stays inside exactly when
each operator finds room for its type, and no size is narrowed to one that fits. -/
theorem staysInside_iff_guarded (cursor : BufferCursor) (bounds : cursor.InBounds) :
    (∀ calls, ReaderStaysInside cursor calls ↔
      EveryCall BufferReader.call (fun reader call _ => call.Guarded reader) cursor calls) ∧
    (∀ calls, WriterStaysInside cursor calls ↔
      EveryCall BufferWriter.call (fun writer call _ => call.Guarded writer) cursor calls) := by
  constructor
  · exact everyCall_iff (I := InBounds) (fun _ call inside => BufferReader.call_staysInside_iff inside call)
      (fun _ _ _ _ _ => StaysInside.inBounds) bounds
  · exact everyCall_iff (I := InBounds) (fun _ call inside => BufferWriter.call_staysInside_iff inside call)
      (fun _ _ _ _ _ => StaysInside.inBounds) bounds

theorem checked_calls_inside :
    ReaderStaysInside ⟨[1, 2, 3, 4], 4, 1⟩ [.read 2, .peek 9, .extract 1] ∧
      WriterStaysInside ⟨[1, 2, 3, 4], 4, 1⟩ [.reserve 2, .writeAs [5, 6], .insert [7]] := by
  obtain ⟨reads, writes⟩ := staysInside_iff_guarded ⟨[1, 2, 3, 4], 4, 1⟩ (by decide)
  exact ⟨(reads _).mpr (by decide), (writes _).mpr (by decide)⟩

/-- With nothing left, the operators reach past the end all the same. -/
theorem operators_leave_buffer :
    BufferCursor.InBounds ⟨[0], 1, 1⟩ ∧ ¬ ReaderStaysInside ⟨[0], 1, 1⟩ [.extract 1] ∧
      ¬ WriterStaysInside ⟨[0], 1, 1⟩ [.insert [7]] := by
  refine ⟨by decide, ?_, ?_⟩
  · rintro ⟨⟨_, _, outcome, _⟩, _⟩
    exact Option.some_ne_none _ outcome.symm
  · rintro ⟨⟨_, _, outcome, _⟩, _⟩
    exact Option.some_ne_none _ outcome.symm

end ArenaClient
