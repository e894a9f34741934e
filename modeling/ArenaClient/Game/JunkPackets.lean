import ArenaClient.Base.Interspersed
import ArenaClient.Game.Play

/-! Packets that no handler gets to see: those with an id that is not registered
and those whose payload does not parse. A queue with such packets in it is
drained to the same state. -/
namespace ArenaClient
open Protocol

namespace ServerPacketHandler
variable {M σ : Type _} {handlers : MessageHandlers M σ} {table earlier : PacketHandlerTable σ}

/-- A whole header, an id inside the table, and nothing to handle behind it. -/
structure Junk (handlers : MessageHandlers M σ) (packet : Packet) : Prop where
  header : headerSize ≤ packet.length
  inside : (PacketHeader.ofBuffer packet).id.toNat < uint16Max
  unhandled : (∀ type : ServerPacket, type.id ≠ (PacketHeader.ofBuffer packet).id) ∨
    ∃ type : ServerPacket, type.id = (PacketHeader.ofBuffer packet).id ∧
      handlers.parseFromArray type (packet.drop headerSize) (parseSize packet.length) = none

theorem ofId_id (type : ServerPacket) : ServerPacket.ofId type.id.toNat = some type := by
  cases type <;> rfl

theorem ofId_eq_none {id : UInt16} (unregistered : ∀ type : ServerPacket, type.id ≠ id) :
    ServerPacket.ofId id.toNat = none := by
  rw [ServerPacket.ofId, List.find?_eq_none]
  intro type _ same
  exact unregistered type (UInt16.toNat_inj.mp (beq_iff_eq.mp same))

/-- No client id is registered. -/
theorem client_id_unregistered (client : ClientPacket) (type : ServerPacket) : type.id ≠ client.id := by
  cases client <;> cases type <;> decide

theorem handlePacket_junk (initialized : init handlers earlier = .ok table) (junk : Junk handlers packet)
    (state : σ) : handlePacket table packet packet.length state = .ok (false, state) := by
  rw [handlePacket_eq initialized, if_pos junk.inside, Except.ok.injEq, handlerFor]
  rcases junk.unhandled with unregistered | ⟨type, same, rejected⟩
  · rw [ofId_eq_none unregistered]
    rfl
  · rw [← same, ofId_id]
    simp only [handlePacketAs, rejected]

theorem handleRecvPackets_foldlM (table : PacketHandlerTable σ) (recvPacketQueue : List Packet) (state : σ) :
    handleRecvPackets table recvPacketQueue state =
      recvPacketQueue.foldlM (fun state packet =>
        Prod.snd <$> handlePacket table packet packet.length state) state := by
  induction recvPacketQueue generalizing state with
  | nil => rfl
  | cons packet recvPacketQueue ih =>
    rw [handleRecvPackets, List.foldlM_cons]
    cases handlePacket table packet packet.length state with
    | error fault => rfl
    | ok result => exact ih result.2

/-- Whatever the handlers do, they do the same with and without junk. -/
theorem handleRecvPackets_junk (initialized : init handlers earlier = .ok table)
    (mixed : Interspersed (Junk handlers) recvPacketQueue noisy) (state : σ) :
    handleRecvPackets table noisy state = handleRecvPackets table recvPacketQueue state := by
  rw [handleRecvPackets_foldlM, handleRecvPackets_foldlM]
  refine mixed.foldlM_eq ?_ state
  intro packet junk state
  rw [handlePacket_junk initialized junk]
  rfl

/-- Junk leaves no trace in the game instance: not in its state, not in the send
queue of its session, not in what it broadcasts. -/
theorem junk_invisible [TextDecoder] {parser : Parser}
    {table earlier : PacketHandlerTable (Except AccessFault GameInstance)}
    (initialized : init (gameHandlers parser) earlier = .ok table)
    (mixed : Interspersed (Junk (gameHandlers parser)) recvPacketQueue noisy) (game : GameInstance) :
    (∀ client : ClientPacket, ∀ type : ServerPacket, type.id ≠ client.id) ∧
      handleRecvPackets table noisy (.ok game) = handleRecvPackets table recvPacketQueue (.ok game) :=
  ⟨client_id_unregistered, handleRecvPackets_junk initialized mixed (.ok game)⟩

/-- The message of a type with every field at its default. -/
def emptyMessage : ServerPacket → ServerMessage
  | .login => .login {}
  | .register => .register {}
  | .roomList => .roomList {}
  | .createRoom => .createRoom {}
  | .enterRoom => .enterRoom {}
  | .leaveRoom => .leaveRoom {}
  | .roomState => .roomState {}
  | .matchPrepare => .matchPrepare {}
  | .matchStart => .matchStart {}
  | .matchState => .matchState {}
  | .playerState => .playerState {}
  | .playerRespawn => .playerRespawn {}
  | .move => .move {}
  | .fire => .fire {}
  | .playerDespawn => .playerDespawn {}
  | .matchEnd => .matchEnd {}
  | .returnToRoom => .returnToRoom {}
  | .chat => .chat {}

/-- A parser that knows empty payloads: they are the default of every type. -/
def emptyParser : Parser where
  parseFromArray type bytes _ := if bytes.isEmpty then some (emptyMessage type) else none
  type_of_parse {type bytes _ msg} parsed := by
    by_cases blank : bytes.isEmpty = true
    · obtain rfl := Option.some.inj ((if_pos blank).symm.trans parsed)
      cases type <;> rfl
    · exact absurd ((if_neg blank).symm.trans parsed) nofun

/-- A client packet and a room list with a torn payload around an empty one. -/
theorem junk_around_room_list :
    let table := fun slot : Fin uint16Max =>
      some (handlerFor (@gameHandlers asciiDecoder emptyParser) slot.val)
    handleRecvPackets table [[4, 0, 0xE8, 0x03], [4, 0, 0xED, 0x03], [5, 0, 0xED, 0x03, 0xFF]] (.ok {}) =
      handleRecvPackets table [[4, 0, 0xED, 0x03]] (.ok {}) := by
  intro table
  let _ := asciiDecoder
  refine (junk_invisible (init_eq (gameHandlers emptyParser) fun _ => none) ?_ {}).2
  have fromClient : Junk (gameHandlers emptyParser) [4, 0, 0xE8, 0x03] :=
    ⟨by decide, by decide, .inl (client_id_unregistered .login)⟩
  have torn : Junk (gameHandlers emptyParser) [5, 0, 0xED, 0x03, 0xFF] :=
    ⟨by decide, by decide, .inr ⟨.roomList, rfl, rfl⟩⟩
  exact .insert _ fromClient (.keep _ (.insert _ torn .nil))

end ServerPacketHandler
end ArenaClient
