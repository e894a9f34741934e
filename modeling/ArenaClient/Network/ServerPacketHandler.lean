import ArenaClient.Network.Packet
import Mathlib.Logic.Function.Basic

/-! Dispatch of received packets: the handler table of `ServerPacketHandler` and
the drain loop of `PacketSession`. What a handler does is a parameter, and so is
the generated parser it calls. -/
namespace ArenaClient

/-- `UINT16_MAX`. -/
def uint16Max : Nat := 65535

/-- `PacketHandlerFunc`, on whatever state the handlers work on. -/
abbrev PacketHandlerFunc (σ : Type*) := Packet → Int → σ → Bool × σ

/-- `PacketHandlerFunc GPacketHandler[UINT16_MAX]`; `none` is a function object
that has not been assigned. -/
abbrev PacketHandlerTable (σ : Type*) := Fin uint16Max → Option (PacketHandlerFunc σ)

inductive DispatchFault where
  | outOfBounds (index : Nat)
  | emptySlot (index : Nat)
  deriving DecidableEq, Repr

/-- The typed handlers `Handle_S_*` and the parser of their messages. -/
structure MessageHandlers (M σ : Type*) where
  parseFromArray : ServerPacket → List UInt8 → Int → Option M
  handle : ServerPacket → M → σ → Bool × σ

/-- The registrations of `Init`, in its order. -/
def ServerPacket.registered : List ServerPacket :=
  [.login, .register, .roomList, .createRoom, .enterRoom, .leaveRoom, .roomState, .matchPrepare,
    .matchStart, .matchState, .playerState, .playerRespawn, .move, .fire, .playerDespawn, .matchEnd,
    .returnToRoom, .chat]

namespace ServerPacketHandler
variable {M σ : Type*}

def handleInvalid : PacketHandlerFunc σ := fun _ _ state => (false, state)

/-- `len - sizeof(PacketHeader)` is a size_t; `ParseFromArray` takes an int. -/
def parseSize (len : Int) : Int := ((len - headerSize) % 2 ^ 64).bmod (2 ^ 32)

/-- `HandlePacket<PacketType>`. -/
def handlePacketAs (handlers : MessageHandlers M σ) (type : ServerPacket) : PacketHandlerFunc σ :=
  fun buffer len state =>
    match handlers.parseFromArray type (buffer.drop headerSize) (parseSize len) with
    | none => (false, state)
    | some pkt => handlers.handle type pkt state

/-- `GPacketHandler[index] = func`. -/
def assign (table : PacketHandlerTable σ) (index : Nat) (func : PacketHandlerFunc σ) :
    Except DispatchFault (PacketHandlerTable σ) :=
  if inside : index < uint16Max then .ok (Function.update table ⟨index, inside⟩ (some func))
  else .error (.outOfBounds index)

/-- `GPacketHandler[index]`, called. -/
def lookup (table : PacketHandlerTable σ) (index : Nat) :
    Except DispatchFault (PacketHandlerFunc σ) :=
  if inside : index < uint16Max then
    match table ⟨index, inside⟩ with
    | some func => .ok func
    | none => .error (.emptySlot index)
  else .error (.outOfBounds index)

/-- `for (int i = 0; i < count; i++) GPacketHandler[i] = Handle_INVALID;` -/
def fill : Nat → PacketHandlerTable σ → Except DispatchFault (PacketHandlerTable σ)
  | 0, table => .ok table
  | count + 1, table => do
    let table ← fill count table
    assign table count handleInvalid

/-- `ServerPacketHandler::Init`, on a table left by an earlier session. -/
def init (handlers : MessageHandlers M σ) (table : PacketHandlerTable σ) :
    Except DispatchFault (PacketHandlerTable σ) := do
  let table ← fill uint16Max table
  ServerPacket.registered.foldlM
    (fun table type => assign table type.id.toNat (handlePacketAs handlers type)) table

/-- `ServerPacketHandler::HandlePacket`. -/
def handlePacket (table : PacketHandlerTable σ) (buffer : Packet) (len : Int) (state : σ) :
    Except DispatchFault (Bool × σ) := do
  let header := PacketHeader.ofBuffer buffer
  let func ← lookup table header.id.toNat
  return func buffer len state

end ServerPacketHandler

/-- `PacketSession::HandleRecvPackets`: dequeue, head first, until the queue is
empty. The result of each handler is dropped. -/
def handleRecvPackets (table : PacketHandlerTable σ) : List Packet → σ → Except DispatchFault σ
  | [], state => .ok state
  | packet :: recvPacketQueue, state => do
    let (_, state) ← ServerPacketHandler.handlePacket table packet packet.length state
    handleRecvPackets table recvPacketQueue state

/-! ### The table after `Init` -/

/-- The message type registered for an id, the last registration first. -/
def ServerPacket.ofId (id : Nat) : Option ServerPacket :=
  registered.reverse.find? fun type => type.id.toNat == id

namespace ServerPacketHandler
variable {M σ : Type*} {table : PacketHandlerTable σ}

def handlerFor (handlers : MessageHandlers M σ) (id : Nat) : PacketHandlerFunc σ :=
  match ServerPacket.ofId id with
  | some type => handlePacketAs handlers type
  | none => handleInvalid

theorem fill_eq {count : Nat} (inside : count ≤ uint16Max) (table : PacketHandlerTable σ) :
    fill count table = .ok fun slot => if slot.val < count then some handleInvalid else table slot := by
  induction count with
  | zero => simp [fill]
  | succ count ih =>
    have within : count < uint16Max := inside
    simp only [fill, ih within.le, bind, Except.bind, assign, within, dif_pos, Except.ok.injEq]
    funext slot
    by_cases last : slot = ⟨count, within⟩
    · simp [last]
    · have apart : slot.val ≠ count := fun same => last (Fin.ext same)
      rw [Function.update_of_ne last]
      have below : slot.val < count ↔ slot.val < count + 1 := by omega
      simp only [below]

/-- Registrations overwrite what is in their slots, later ones earlier ones. -/
theorem register_eq (handlers : MessageHandlers M σ) (types : List ServerPacket)
    (inside : ∀ type ∈ types, type.id.toNat < uint16Max) (table : PacketHandlerTable σ) :
    types.foldlM (fun table type => assign table type.id.toNat (handlePacketAs handlers type)) table =
      .ok fun slot => match types.reverse.find? fun type => type.id.toNat == slot.val with
        | some type => some (handlePacketAs handlers type)
        | none => table slot := by
  induction types generalizing table with
  | nil => rfl
  | cons type types ih =>
    obtain ⟨within, rest⟩ := List.forall_mem_cons.mp inside
    simp only [List.foldlM_cons, assign, within, dif_pos, bind, Except.bind]
    have tail := ih rest (Function.update table ⟨type.id.toNat, within⟩ (some (handlePacketAs handlers type)))
    simp only [assign] at tail
    rw [tail, Except.ok.injEq]
    funext slot
    rw [List.reverse_cons, List.find?_append]
    cases types.reverse.find? fun type => type.id.toNat == slot.val with
    | some later => rfl
    | none =>
      simp only [Option.none_or, List.find?_singleton, Function.update_apply, Fin.ext_iff]
      by_cases here : slot.val = type.id.toNat
      · simp [here]
      · simp [here, Ne.symm here]

theorem registered_inside : ∀ type ∈ ServerPacket.registered, type.id.toNat < uint16Max := by decide

/-- `Init` writes inside the table only and leaves no slot empty. -/
theorem init_eq (handlers : MessageHandlers M σ) (table : PacketHandlerTable σ) :
    init handlers table = .ok fun slot => some (handlerFor handlers slot.val) := by
  rw [init, fill_eq (Nat.le_refl _)]
  -- The fill loop is never run: only its result goes into the registrations.
  apply (pure_bind _ _).trans
  rw [register_eq handlers _ registered_inside, Except.ok.injEq]
  funext slot
  rw [handlerFor, ServerPacket.ofId]
  cases ServerPacket.registered.reverse.find? fun type => type.id.toNat == slot.val with
  | some type => rfl
  | none => simp [slot.isLt]

theorem lookup_init (initialized : init handlers earlier = .ok table) (index : Nat) :
    lookup table index =
      if index < uint16Max then .ok (handlerFor handlers index) else .error (.outOfBounds index) := by
  obtain rfl := Except.ok.inj ((init_eq handlers earlier).symm.trans initialized)
  unfold lookup
  split <;> rfl

theorem parseSize_eq {len : Nat} (header : headerSize ≤ len) (int : len < 2 ^ 31) :
    parseSize len = len - headerSize := by
  unfold headerSize at header ⊢
  have sizeT : ((len : Int) - 4) % 2 ^ 64 = len - 4 := by omega
  rw [parseSize, headerSize, Nat.cast_ofNat, sizeT, Int.bmod_eq_of_le]
  · omega
  · omega

/-! ### Draining the queue -/

/-- What dispatching a packet is for: the handler of its id, if it has one, gets
the message that is parsed from everything behind the header. -/
def dispatched (handlers : MessageHandlers M σ) (packet : Packet) (state : σ) : σ :=
  match ServerPacket.ofId (PacketHeader.ofBuffer packet).id.toNat with
  | none => state
  | some type =>
    match handlers.parseFromArray type (packet.drop headerSize) (packet.length - headerSize) with
    | none => state
    | some pkt => (handlers.handle type pkt state).2

/-- A buffer with at least a header, of a length that `TArray` can have. -/
def Bounded (packet : Packet) : Prop := headerSize ≤ packet.length ∧ packet.length < 2 ^ 31

instance (packet : Packet) : Decidable (Bounded packet) := inferInstanceAs (Decidable (_ ∧ _))

theorem handlerFor_dispatched (handlers : MessageHandlers M σ) {packet : Packet}
    (bounded : Bounded packet) (state : σ) :
    (handlerFor handlers (PacketHeader.ofBuffer packet).id.toNat packet packet.length state).2 =
      dispatched handlers packet state := by
  unfold handlerFor dispatched
  cases ServerPacket.ofId (PacketHeader.ofBuffer packet).id.toNat with
  | none => rfl
  | some type =>
    simp only [handlePacketAs, parseSize_eq bounded.1 bounded.2]
    split <;> rfl

theorem handlePacket_eq (initialized : init handlers earlier = .ok table) (packet : Packet)
    (len : Int) (state : σ) : handlePacket table packet len state =
      if (PacketHeader.ofBuffer packet).id.toNat < uint16Max then
        .ok (handlerFor handlers (PacketHeader.ofBuffer packet).id.toNat packet len state)
      else .error (.outOfBounds (PacketHeader.ofBuffer packet).id.toNat) := by
  rw [handlePacket, lookup_init initialized]
  split <;> rfl

/-- Dispatch is total on a queue: every lookup is inside the table and finds a
handler, every parse gets the bytes behind the header, and the drain hands each
packet to its handler once, in order, until the queue is empty. -/
structure Total (handlers : MessageHandlers M σ) (table : PacketHandlerTable σ)
    (recvPacketQueue : List Packet) : Prop where
  inside : ∀ packet ∈ recvPacketQueue, (PacketHeader.ofBuffer packet).id.toNat < uint16Max
  filled : ∀ packet ∈ recvPacketQueue,
    ∃ func, lookup table (PacketHeader.ofBuffer packet).id.toNat = .ok func
  parsed : ∀ packet ∈ recvPacketQueue, parseSize packet.length = ↑(packet.length - headerSize)
  drained : ∀ state, handleRecvPackets table recvPacketQueue state =
    .ok (recvPacketQueue.foldl (fun state packet => dispatched handlers packet state) state)

theorem inside_iff (id : UInt16) : id.toNat < uint16Max ↔ id ≠ 0xFFFF := by
  have bound := id.toNat_lt
  rw [ne_eq, ← UInt16.toNat_inj, uint16Max]
  change id.toNat < 65535 ↔ ¬ id.toNat = 65535
  omega

theorem handleRecvPackets_eq (initialized : init handlers earlier = .ok table)
    (recvPacketQueue : List Packet) (bounded : ∀ packet ∈ recvPacketQueue, Bounded packet)
    (inside : ∀ packet ∈ recvPacketQueue, (PacketHeader.ofBuffer packet).id ≠ 0xFFFF) (state : σ) :
    handleRecvPackets table recvPacketQueue state =
      .ok (recvPacketQueue.foldl (fun state packet => dispatched handlers packet state) state) := by
  induction recvPacketQueue generalizing state with
  | nil => rfl
  | cons packet recvPacketQueue ih =>
    obtain ⟨bounded, boundedTail⟩ := List.forall_mem_cons.mp bounded
    obtain ⟨inside, insideTail⟩ := List.forall_mem_cons.mp inside
    rw [handleRecvPackets, handlePacket_eq initialized, if_pos ((inside_iff _).mpr inside)]
    simp only [bind, Except.bind, handlerFor_dispatched handlers bounded, List.foldl_cons]
    exact ih boundedTail insideTail _

/-- After `Init` a queue is dispatched in full exactly when no packet in it
carries the one id that the table has no slot for. -/
theorem total_iff (initialized : init handlers earlier = .ok table) (recvPacketQueue : List Packet)
    (bounded : ∀ packet ∈ recvPacketQueue, Bounded packet) :
    Total handlers table recvPacketQueue ↔
      ∀ packet ∈ recvPacketQueue, (PacketHeader.ofBuffer packet).id ≠ 0xFFFF := by
  constructor
  · intro total packet member
    exact (inside_iff _).mp (total.inside packet member)
  · intro inside
    refine ⟨fun packet member => (inside_iff _).mpr (inside packet member), ?_, ?_,
      handleRecvPackets_eq initialized recvPacketQueue bounded inside⟩
    · intro packet member
      rw [lookup_init initialized, if_pos ((inside_iff _).mpr (inside packet member))]
      exact ⟨_, rfl⟩
    · intro packet member
      obtain ⟨header, int⟩ := bounded packet member
      rw [parseSize_eq header int, Int.natCast_sub header]

/-- Handlers that keep what they are given. -/
def recorder : MessageHandlers (List UInt8) (List (ServerPacket × List UInt8)) where
  parseFromArray _ bytes _ := some bytes
  handle type bytes kept := (true, kept ++ [(type, bytes)])

theorem total_mixed_queue : Total recorder (fun slot => some (handlerFor recorder slot.val))
    [[5, 0, 0xE9, 0x03, 7], [4, 0, 0xFE, 0xFF]] :=
  (total_iff (init_eq recorder fun _ => none) _ (by decide)).mpr (by decide)

/-- The last 16-bit id is one past the table. -/
theorem last_id_outside : ¬ Total recorder (fun slot => some (handlerFor recorder slot.val))
    [[4, 0, 0xFF, 0xFF]] := by
  intro total
  have inside := total.inside _ List.mem_cons_self
  revert inside
  decide

end ServerPacketHandler
end ArenaClient
