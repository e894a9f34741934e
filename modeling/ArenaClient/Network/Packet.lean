import ArenaClient.Base.Bytes

/-! The frame format of `S1.h`, `NetworkWorker.h` and `ServerPacketHandler.h`:
two little-endian uint16 (size, id) and the serialized message. Three pieces of
header code are modeled separately, because the source writes them separately:
the struct cast of the sender, the archive read of the receive worker and the
struct cast of the dispatcher. -/
namespace ArenaClient
open Bytes

/-- `TArray<uint8>`: one received frame, header included. -/
abbrev Packet := List UInt8

/-- Packets the client sends, with the ids of the `PKT_C_` enumerators. -/
inductive ClientPacket where
  | login | register | roomList | createRoom | enterRoom | leaveRoom | changePlayerType
  | changeTeam | ready | startMatch | matchPrepare | move | fire | hit | returnToRoom | chat
  deriving DecidableEq, Repr

def ClientPacket.id : ClientPacket → UInt16
  | .login => 1000
  | .register => 1002
  | .roomList => 1004
  | .createRoom => 1006
  | .enterRoom => 1008
  | .leaveRoom => 1010
  | .changePlayerType => 1012
  | .changeTeam => 1013
  | .ready => 1014
  | .startMatch => 1016
  | .matchPrepare => 1018
  | .move => 1023
  | .fire => 1025
  | .hit => 1027
  | .returnToRoom => 1030
  | .chat => 1032

/-- Packets the server sends, with the ids of the `PKT_S_` enumerators. -/
inductive ServerPacket where
  | login | register | roomList | createRoom | enterRoom | leaveRoom | roomState | matchPrepare
  | matchStart | matchState | playerState | playerRespawn | move | fire | playerDespawn | matchEnd
  | returnToRoom | chat
  deriving DecidableEq, Repr

def ServerPacket.id : ServerPacket → UInt16
  | .login => 1001
  | .register => 1003
  | .roomList => 1005
  | .createRoom => 1007
  | .enterRoom => 1009
  | .leaveRoom => 1011
  | .roomState => 1015
  | .matchPrepare => 1017
  | .matchStart => 1019
  | .matchState => 1020
  | .playerState => 1021
  | .playerRespawn => 1022
  | .move => 1024
  | .fire => 1026
  | .playerDespawn => 1028
  | .matchEnd => 1029
  | .returnToRoom => 1031
  | .chat => 1033

/-! ### Headers -/

/-- `uint16` as it lies in memory on a little-endian host. -/
def uint16Bytes (n : UInt16) : List UInt8 := littleEndian 2 n.toNat

def uint16Of (bytes : List UInt8) : UInt16 := UInt16.ofNat (value bytes)

@[simp] theorem length_uint16Bytes (n : UInt16) : (uint16Bytes n).length = 2 :=
  length_littleEndian 2 _

@[simp] theorem uint16Of_uint16Bytes (n : UInt16) : uint16Of (uint16Bytes n) = n := by
  rw [uint16Of, uint16Bytes, value_littleEndian n.toNat_lt, UInt16.ofNat_toNat]

/-- `struct PacketHeader`, read and written through `reinterpret_cast`. -/
structure PacketHeader where
  size : UInt16
  id : UInt16
  deriving DecidableEq, Repr

/-- `sizeof(PacketHeader)`, and `sizeof(FPacketHeader)` in the worker. -/
def headerSize : Nat := 4

/-- `reinterpret_cast<PacketHeader*>(buffer)`, fields read at offsets 0 and 2. -/
def PacketHeader.ofBuffer (buffer : List UInt8) : PacketHeader :=
  { size := uint16Of (buffer.take 2), id := uint16Of ((buffer.drop 2).take 2) }

structure FPacketHeader where
  packetSize : UInt16 := 0
  packetID : UInt16 := 0
  deriving DecidableEq, Repr

/-- `FMemoryReader << uint16`: the value and what is left to read. -/
def readUInt16 (reader : List UInt8) : UInt16 × List UInt8 :=
  (uint16Of (reader.take 2), reader.drop 2)

/-- `operator<<(FArchive&, FPacketHeader&)`: the size first, the id second. -/
def FPacketHeader.read (reader : List UInt8) : FPacketHeader :=
  let (packetSize, reader) := readUInt16 reader
  let (packetID, _) := readUInt16 reader
  { packetSize, packetID }

def headerBytes (size id : UInt16) : List UInt8 := uint16Bytes size ++ uint16Bytes id

@[simp] theorem length_headerBytes (size id : UInt16) : (headerBytes size id).length = headerSize := by
  simp [headerBytes, headerSize]

@[simp] theorem PacketHeader.ofBuffer_headerBytes (size id : UInt16) (rest : List UInt8) :
    PacketHeader.ofBuffer (headerBytes size id ++ rest) = ⟨size, id⟩ := by
  have first : (headerBytes size id ++ rest).take 2 = uint16Bytes size := by
    rw [headerBytes, List.append_assoc, List.take_left' (length_uint16Bytes size)]
  have second : ((headerBytes size id ++ rest).drop 2).take 2 = uint16Bytes id := by
    rw [headerBytes, List.append_assoc, List.drop_left' (length_uint16Bytes size),
      List.take_left' (length_uint16Bytes id)]
  rw [ofBuffer, first, second, uint16Of_uint16Bytes, uint16Of_uint16Bytes]

/-- The worker and the dispatcher decode a header alike. -/
theorem FPacketHeader.read_eq (buffer : List UInt8) :
    FPacketHeader.read buffer =
      ⟨(PacketHeader.ofBuffer buffer).size, (PacketHeader.ofBuffer buffer).id⟩ := rfl

/-! ### Frames -/

/-- The largest message whose frame size still fits a uint16. -/
def maxDataSize : Nat := 65531

/-- What may go over the wire: a frame whose size field does not wrap. -/
structure Frame where
  id : UInt16
  payload : List UInt8
  fits : payload.length ≤ maxDataSize
  deriving DecidableEq

namespace Frame

def size (frame : Frame) : Nat := headerSize + frame.payload.length

def header (frame : Frame) : List UInt8 := headerBytes (UInt16.ofNat frame.size) frame.id

def encode (frame : Frame) : List UInt8 := frame.header ++ frame.payload

theorem size_toNat (frame : Frame) : (UInt16.ofNat frame.size).toNat = frame.size := by
  have fits := frame.fits
  unfold maxDataSize at fits
  rw [UInt16.toNat_ofNat', Nat.mod_eq_of_lt]
  simp only [size, headerSize]
  omega

@[simp] theorem length_header (frame : Frame) : frame.header.length = headerSize :=
  length_headerBytes _ _

@[simp] theorem length_encode (frame : Frame) : frame.encode.length = frame.size := by
  rw [encode, List.length_append, length_header, size]

@[simp] theorem ofBuffer_encode (frame : Frame) :
    PacketHeader.ofBuffer frame.encode = ⟨UInt16.ofNat frame.size, frame.id⟩ :=
  PacketHeader.ofBuffer_headerBytes _ _ _

end Frame

/-! ### Send buffers -/

/-- A generated message: its encoding and the size it announces beforehand. -/
class ProtoMessage (M : Type*) where
  byteSizeLong : M → Nat
  serialize : M → List UInt8
  length_serialize : ∀ pkt, (serialize pkt).length = byteSizeLong pkt

export ProtoMessage (byteSizeLong serialize length_serialize)

structure SendBuffer where
  buffer : List UInt8
  writeSize : Int := 0
  deriving DecidableEq, Repr

namespace SendBuffer

/-- `_buffer.SetNum(bufferSize)` on an empty array. -/
def new (bufferSize : Nat) : SendBuffer := { buffer := List.replicate bufferSize 0 }

def capacity (sendBuffer : SendBuffer) : Nat := sendBuffer.buffer.length

def close (sendBuffer : SendBuffer) (writeSize : Nat) : SendBuffer :=
  { sendBuffer with writeSize := writeSize }

end SendBuffer

section
variable {M : Type*} [ProtoMessage M]

/-- `SerializeToArray(&buffer[offset], size)`: refuses, writing nothing, when
`size` is below the message size. The write itself is bounded by the message
and not by the buffer it lands in. -/
def serializeToArray (pkt : M) (buffer : List UInt8) (offset size : Nat) :
    Option (Bool × List UInt8) :=
  if size < byteSizeLong pkt then some (false, buffer)
  else (store buffer offset (serialize pkt)).map (true, ·)

/-- `ServerPacketHandler::MakeSendBuffer(T& pkt, uint16 pktId)`. Both size
computations narrow to uint16; `none` is a write outside the buffer. -/
def makeSendBuffer (pkt : M) (pktId : UInt16) : Option SendBuffer := do
  let dataSize : UInt16 := UInt16.ofNat (byteSizeLong pkt)
  let packetSize : UInt16 := dataSize + 4
  let sendBuffer := SendBuffer.new packetSize.toNat
  let buffer ← store sendBuffer.buffer 0 (uint16Bytes packetSize)
  let buffer ← store buffer 2 (uint16Bytes pktId)
  -- The result of SerializeToArray is not looked at.
  let (_, buffer) ← serializeToArray pkt buffer headerSize dataSize.toNat
  return { sendBuffer with buffer }.close packetSize.toNat

/-- The frame meant for a message. -/
def frameOf (pkt : M) (pktId : UInt16) (fits : byteSizeLong pkt ≤ maxDataSize) : Frame :=
  { id := pktId, payload := serialize pkt, fits := length_serialize pkt ▸ fits }

theorem size_frameOf (pkt : M) (pktId : UInt16) (fits : byteSizeLong pkt ≤ maxDataSize) :
    (frameOf pkt pktId fits).size = headerSize + byteSizeLong pkt := by
  rw [Frame.size, frameOf, length_serialize]

theorem dataSize_toNat {n : Nat} (fits : n ≤ maxDataSize) : (UInt16.ofNat n).toNat = n := by
  rw [UInt16.toNat_ofNat', Nat.mod_eq_of_lt]
  exact Nat.lt_of_le_of_lt fits (by decide)

theorem packetSize_eq (n : Nat) : UInt16.ofNat n + 4 = UInt16.ofNat (headerSize + n) := by
  rw [Nat.add_comm, UInt16.ofNat_add]
  rfl

theorem packetSize_toNat {n : Nat} (fits : n ≤ maxDataSize) :
    (UInt16.ofNat n + 4).toNat = headerSize + n := by
  unfold maxDataSize at fits
  rw [packetSize_eq, UInt16.toNat_ofNat', headerSize]
  omega

/-- The two header stores fill exactly the first four bytes. -/
theorem store_header (size id : UInt16) (n : Nat) :
    (store (List.replicate (headerSize + n) 0) 0 (uint16Bytes size) >>= fun buffer =>
      store buffer 2 (uint16Bytes id)) = some (headerBytes size id ++ List.replicate n 0) := by
  have first : store (List.replicate (headerSize + n) 0) 0 (uint16Bytes size) =
      some (uint16Bytes size ++ List.replicate (n + 2) 0) := by
    rw [store_of_le (by simp [headerSize]; omega)]
    have stored := overwrite_append [] (uint16Bytes size) (List.replicate (headerSize + n) 0)
    simpa [headerSize, Nat.add_comm, Nat.add_left_comm] using congrArg some stored
  have second : store (uint16Bytes size ++ List.replicate (n + 2) 0) 2 (uint16Bytes id) =
      some (headerBytes size id ++ List.replicate n 0) := by
    rw [store_of_le (by simp; omega)]
    have stored := overwrite_append (uint16Bytes size) (uint16Bytes id) (List.replicate (n + 2) 0)
    simpa [headerBytes] using congrArg some stored
  rw [first]
  exact second

theorem makeSendBuffer_fits (pkt : M) (pktId : UInt16) (fits : byteSizeLong pkt ≤ maxDataSize) :
    makeSendBuffer pkt pktId =
      some { buffer := (frameOf pkt pktId fits).encode,
             writeSize := ↑(headerSize + byteSizeLong pkt) } := by
  have header := store_header (UInt16.ofNat (byteSizeLong pkt) + 4) pktId (byteSizeLong pkt)
  obtain ⟨buffer, first, second⟩ := Option.bind_eq_some_iff.mp header
  have payload : store (headerBytes (UInt16.ofNat (byteSizeLong pkt) + 4) pktId ++
      List.replicate (byteSizeLong pkt) 0) headerSize (serialize pkt) =
      some (frameOf pkt pktId fits).encode := by
    rw [store_of_le (by simp [length_serialize])]
    have stored := overwrite_append (headerBytes (UInt16.ofNat (byteSizeLong pkt) + 4) pktId)
      (serialize pkt) (List.replicate (byteSizeLong pkt) 0)
    rw [length_headerBytes, length_serialize, List.drop_replicate, Nat.sub_self,
      List.replicate_zero, List.append_nil] at stored
    rw [stored, Frame.encode, Frame.header, size_frameOf, packetSize_eq]
    rfl
  simp only [makeSendBuffer, packetSize_toNat fits, SendBuffer.new, first, second,
    dataSize_toNat fits, serializeToArray, Nat.lt_irrefl, if_false, payload, SendBuffer.close,
    bind, pure, Option.bind_some, Option.map_some]

/-- What it means for a frame to go out whole: the three sizes agree, the bytes
after the header are the complete message, and so a parser that inverts the
encoding gives the message back. -/
structure SendBuffer.Whole (sendBuffer : SendBuffer) (pkt : M) (pktId : UInt16) : Prop where
  capacity : sendBuffer.capacity = headerSize + byteSizeLong pkt
  writeSize : sendBuffer.writeSize = ↑(headerSize + byteSizeLong pkt)
  size : (PacketHeader.ofBuffer sendBuffer.buffer).size.toNat = headerSize + byteSizeLong pkt
  id : (PacketHeader.ofBuffer sendBuffer.buffer).id = pktId
  payload : sendBuffer.buffer.drop headerSize = serialize pkt
  parsed : ∀ parseFromArray : List UInt8 → Option M, parseFromArray (serialize pkt) = some pkt →
    parseFromArray (sendBuffer.buffer.drop headerSize) = some pkt

theorem frameOf_whole (pkt : M) (pktId : UInt16) (fits : byteSizeLong pkt ≤ maxDataSize) :
    SendBuffer.Whole { buffer := (frameOf pkt pktId fits).encode,
                       writeSize := ↑(headerSize + byteSizeLong pkt) } pkt pktId where
  capacity := (Frame.length_encode _).trans (size_frameOf pkt pktId fits)
  writeSize := rfl
  size := by rw [Frame.ofBuffer_encode, Frame.size_toNat, size_frameOf]
  id := by rw [Frame.ofBuffer_encode, frameOf]
  payload := List.drop_left' (Frame.length_header _)
  parsed := by
    intro parseFromArray inverse
    exact (congrArg parseFromArray (List.drop_left' (Frame.length_header _))).trans inverse

/-- A frame goes out whole exactly when the message size survives both
narrowing steps. -/
theorem makeSendBuffer_whole_iff (pkt : M) (pktId : UInt16) :
    (∃ sendBuffer, makeSendBuffer pkt pktId = some sendBuffer ∧ sendBuffer.Whole pkt pktId) ↔
      byteSizeLong pkt ≤ maxDataSize := by
  constructor
  · rintro ⟨sendBuffer, _, whole⟩
    have bound := (PacketHeader.ofBuffer sendBuffer.buffer).size.toNat_lt
    rw [whole.size] at bound
    unfold headerSize at bound
    unfold maxDataSize
    omega
  · intro fits
    exact ⟨_, makeSendBuffer_fits pkt pktId fits, frameOf_whole pkt pktId fits⟩

/-! ### Any size -/

/-- Complete or not, a buffer in the frame format: its size, an id and the bytes. -/
def SendBuffer.IsFrame (sendBuffer : SendBuffer) (pktId : UInt16) : Prop :=
  ∃ frame : Frame, frame.id = pktId ∧ sendBuffer.buffer = frame.encode ∧ sendBuffer.writeSize = frame.size

/-- What is left of a size in a uint16 leaves room for the header. -/
def HeaderFits (size : Nat) : Prop := size % 2 ^ 16 ≤ maxDataSize

instance (size : Nat) : Decidable (HeaderFits size) := inferInstanceAs (Decidable (_ ≤ _))

theorem headerFits_of_le {size : Nat} (fits : size ≤ maxDataSize) : HeaderFits size :=
  (Nat.mod_le _ _).trans fits

/-- A size that wraps leaves zeros in place of the message. -/
theorem makeSendBuffer_isFrame (pkt : M) (pktId : UInt16) (fits : HeaderFits (byteSizeLong pkt)) :
    ∃ sendBuffer, makeSendBuffer pkt pktId = some sendBuffer ∧ sendBuffer.IsFrame pktId := by
  let dataSize := byteSizeLong pkt % 2 ^ 16
  have narrowed : (UInt16.ofNat (byteSizeLong pkt)).toNat = dataSize := UInt16.toNat_ofNat'
  have same : UInt16.ofNat dataSize = UInt16.ofNat (byteSizeLong pkt) := by
    rw [← narrowed, UInt16.ofNat_toNat]
  by_cases whole : byteSizeLong pkt = dataSize
  · have small : byteSizeLong pkt ≤ maxDataSize := whole ▸ fits
    exact ⟨_, makeSendBuffer_fits pkt pktId small, frameOf pkt pktId small, rfl, rfl,
      congrArg Nat.cast (size_frameOf pkt pktId small).symm⟩
  · have refused : dataSize < byteSizeLong pkt := Nat.lt_of_le_of_ne (Nat.mod_le _ _) (Ne.symm whole)
    have packetSize : (UInt16.ofNat (byteSizeLong pkt) + 4).toNat = headerSize + dataSize :=
      same ▸ packetSize_toNat fits
    have header := store_header (UInt16.ofNat (byteSizeLong pkt) + 4) pktId dataSize
    obtain ⟨buffer, first, second⟩ := Option.bind_eq_some_iff.mp header
    let frame : Frame :=
      { id := pktId, payload := List.replicate dataSize 0, fits := by rw [List.length_replicate]; exact fits }
    have size : frame.size = headerSize + dataSize := by rw [Frame.size, List.length_replicate]
    have encoded : headerBytes (UInt16.ofNat (byteSizeLong pkt) + 4) pktId ++ List.replicate dataSize 0 =
        frame.encode := by rw [Frame.encode, Frame.header, size, ← packetSize_eq, same]
    refine ⟨{ buffer := frame.encode, writeSize := frame.size }, ?_, frame, rfl, rfl, rfl⟩
    simp only [makeSendBuffer, packetSize, SendBuffer.new, first, second, narrowed, serializeToArray,
      refused, if_true, SendBuffer.close, bind, pure, Option.bind_some, encoded, size]

/-- A frame size that wraps has no room for the header. -/
theorem makeSendBuffer_eq_none (pkt : M) (pktId : UInt16) (wraps : ¬ HeaderFits (byteSizeLong pkt)) :
    makeSendBuffer pkt pktId = none := by
  have tiny : (UInt16.ofNat (byteSizeLong pkt) + 4).toNat < headerSize := by
    unfold HeaderFits maxDataSize at wraps
    rw [packetSize_eq, UInt16.toNat_ofNat']
    unfold headerSize
    omega
  unfold headerSize at tiny
  rw [makeSendBuffer]
  cases first : store (SendBuffer.new (UInt16.ofNat (byteSizeLong pkt) + 4).toNat).buffer 0
      (uint16Bytes (UInt16.ofNat (byteSizeLong pkt) + 4)) with
  | none => rfl
  | some buffer =>
    have length : buffer.length = (UInt16.ofNat (byteSizeLong pkt) + 4).toNat := by
      rw [store] at first
      split at first
      · rename_i room
        rw [← Option.some.inj first, length_overwrite room, SendBuffer.new, List.length_replicate]
      · contradiction
    have second : store buffer 2 (uint16Bytes pktId) = none := if_neg (by rw [length_uint16Bytes]; omega)
    simp [second]

/-- With room for the header a buffer is a frame; without, there is none. -/
theorem makeSendBuffer_isFrame_iff (pkt : M) (pktId : UInt16) :
    (∃ sendBuffer, makeSendBuffer pkt pktId = some sendBuffer ∧ sendBuffer.IsFrame pktId) ↔
      HeaderFits (byteSizeLong pkt) := by
  constructor
  · rintro ⟨sendBuffer, built, _⟩
    by_contra wraps
    exact Option.some_ne_none _ (built.symm.trans (makeSendBuffer_eq_none pkt pktId wraps))
  · exact makeSendBuffer_isFrame pkt pktId

end
end ArenaClient
