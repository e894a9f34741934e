import ArenaClient.Base.Bytes
import ArenaClient.Base.Calls

/-! `BufferReader` and `BufferWriter`: positions in a byte buffer that belongs to
the caller. Four of their six operations ask whether there is room, by a
subtraction of uint32s that is meaningful only while the position is inside. -/
namespace ArenaClient
open Bytes

/-- The fields of both classes: the bytes behind `_buffer`, `_size` and `_pos`. -/
structure BufferCursor where
  buffer : List UInt8 := []
  size : UInt32 := 0
  pos : UInt32 := 0
  deriving DecidableEq, Repr

def BufferCursor.freeSize (cursor : BufferCursor) : UInt32 := cursor.size - cursor.pos

abbrev BufferReader := BufferCursor

abbrev BufferWriter := BufferCursor

/-- What a reading call returns, and what it has put into `dest`. -/
structure Copied where
  success : Bool
  dest : List UInt8 := []
  deriving DecidableEq, Repr

namespace BufferReader
variable (reader : BufferReader)

def readSize : UInt32 := reader.pos

/-- `Peek(void* dest, uint32 len)`; `none` is a read outside the buffer. -/
def peek (len : UInt32) : Option (Copied × BufferReader) :=
  if reader.freeSize < len then some ({ success := false }, reader)
  else do
    let dest ← load reader.buffer reader.pos.toNat len.toNat
    return ({ success := true, dest }, reader)

/-- `Read(void* dest, uint32 len)`. -/
def read (len : UInt32) : Option (Copied × BufferReader) := do
  let (peeked, reader) ← reader.peek len
  if peeked.success = false then return (peeked, reader)
  return (peeked, { reader with pos := reader.pos + len })

/-- `Peek(T* dest)`: `sizeof(T)` becomes a uint32. -/
def peekAs (sizeofT : Nat) : Option (Copied × BufferReader) := reader.peek (UInt32.ofNat sizeofT)

/-- `Read(T* dest)`. -/
def readAs (sizeofT : Nat) : Option (Copied × BufferReader) := reader.read (UInt32.ofNat sizeofT)

/-- `operator>>(T& dest)`, which returns the reader and so has no way to fail. -/
def extract (sizeofT : Nat) : Option (Copied × BufferReader) := do
  let dest ← load reader.buffer reader.pos.toNat sizeofT
  return ({ success := true, dest }, { reader with pos := UInt32.ofNat (reader.pos.toNat + sizeofT) })

end BufferReader

/-- Bytes whose number a uint32 can say. -/
structure Block where
  bytes : List UInt8
  short : bytes.length < 2 ^ 32
  deriving DecidableEq

def Block.len (block : Block) : UInt32 := UInt32.ofNat block.bytes.length

@[simp] theorem Block.toNat_len (block : Block) : block.len.toNat = block.bytes.length := by
  rw [len, UInt32.toNat_ofNat', Nat.mod_eq_of_lt block.short]

namespace BufferWriter
variable (writer : BufferWriter)

def writeSize : UInt32 := writer.pos

/-- `Write(void* src, uint32 len)`. -/
def write (src : List UInt8) (len : UInt32) : Option (Bool × BufferWriter) :=
  if writer.freeSize < len then some (false, writer)
  else do
    let bytes ← load src 0 len.toNat
    let buffer ← store writer.buffer writer.pos.toNat bytes
    return (true, { writer with buffer, pos := writer.pos + len })

/-- `Write(T* src)`, of the bytes of an object. -/
def writeAs (object : List UInt8) : Option (Bool × BufferWriter) :=
  writer.write object (UInt32.ofNat object.length)

/-- `Reserve<T>()`: the offset of the bytes it hands out, or null. Here
`sizeof(T)` is compared before it is narrowed. -/
def reserve (sizeofT : Nat) : Option Nat × BufferWriter :=
  if writer.freeSize.toNat < sizeofT then (none, writer)
  else (some writer.pos.toNat, { writer with pos := UInt32.ofNat (writer.pos.toNat + sizeofT) })

/-- `operator<<(T&& src)`. -/
def insert (object : List UInt8) : Option (Bool × BufferWriter) := do
  let buffer ← store writer.buffer writer.pos.toNat object
  return (true, { writer with buffer, pos := UInt32.ofNat (writer.pos.toNat + object.length) })

end BufferWriter

/-! ### The operations together -/

inductive ReaderCall where
  | peek (len : UInt32)
  | peekAs (sizeofT : Nat)
  | read (len : UInt32)
  | readAs (sizeofT : Nat)
  | extract (sizeofT : Nat)
  deriving DecidableEq, Repr

inductive WriterCall where
  | write (block : Block)
  | writeAs (object : List UInt8)
  | reserve (sizeofT : Nat)
  | insert (object : List UInt8)
  deriving DecidableEq

def BufferReader.call (reader : BufferReader) : ReaderCall → Option (Copied × BufferReader)
  | .peek len => reader.peek len
  | .peekAs sizeofT => reader.peekAs sizeofT
  | .read len => reader.read len
  | .readAs sizeofT => reader.readAs sizeofT
  | .extract sizeofT => reader.extract sizeofT

/-- The answer is whether the call succeeds; of `Reserve`, whether it is not null. -/
def BufferWriter.call (writer : BufferWriter) : WriterCall → Option (Bool × BufferWriter)
  | .write block => writer.write block.bytes block.len
  | .writeAs object => writer.writeAs object
  | .reserve sizeofT => some ((writer.reserve sizeofT).map Option.isSome id)
  | .insert object => writer.insert object

/-- How many bytes a call is about. -/
def ReaderCall.extent : ReaderCall → Nat
  | .peek len | .read len => len.toNat
  | .peekAs sizeofT | .readAs sizeofT | .extract sizeofT => sizeofT

def WriterCall.extent : WriterCall → Nat
  | .write block => block.bytes.length
  | .writeAs object | .insert object => object.length
  | .reserve sizeofT => sizeofT

/-! ### Bounds -/

namespace BufferCursor

/-- `_size` is the size of the buffer and `_pos` is not past it. -/
structure InBounds (cursor : BufferCursor) : Prop where
  whole : cursor.buffer.length = cursor.size.toNat
  inside : cursor.pos ≤ cursor.size

instance (cursor : BufferCursor) : Decidable cursor.InBounds :=
  decidable_of_iff (cursor.buffer.length = cursor.size.toNat ∧ cursor.pos ≤ cursor.size)
    ⟨fun ⟨whole, inside⟩ => ⟨whole, inside⟩, fun ⟨whole, inside⟩ => ⟨whole, inside⟩⟩

variable {cursor : BufferCursor}

/-- `FreeSize()` does not wrap. -/
theorem InBounds.freeSize (bounds : cursor.InBounds) :
    cursor.pos.toNat + cursor.freeSize.toNat = cursor.size.toNat := by
  have inside : cursor.pos.toNat ≤ cursor.size.toNat := UInt32.le_iff_toNat_le.mp bounds.inside
  rw [BufferCursor.freeSize, UInt32.toNat_sub_of_le _ _ bounds.inside]
  omega

end BufferCursor
end ArenaClient
