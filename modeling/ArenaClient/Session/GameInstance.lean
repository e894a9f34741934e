import ArenaClient.Network.Packet

/-! The connection fields of `US1GameInstance` and `PacketSession`, and the path
every outgoing message takes: a check of the connection, `MakeSendBuffer`, and
the send queue of the current session. -/
namespace ArenaClient

/-- `FString`: UTF-16 code units. -/
abbrev FString := List UInt16

/-- `TEXT` of a literal without surrogates. -/
def textLiteral (literal : String) : FString := literal.toList.map fun ch => UInt16.ofNat ch.toNat

/-- `FSocket*`. -/
abbrev SocketId := Nat

structure PacketSession where
  socket : SocketId
  recvPacketQueue : List Packet := []
  sendPacketQueue : List SendBuffer := []
  deriving DecidableEq, Repr

/-- `PacketSession::SendPacket`. -/
def PacketSession.sendPacket (session : PacketSession) (sendBuffer : SendBuffer) : PacketSession :=
  { session with sendPacketQueue := session.sendPacketQueue ++ [sendBuffer] }

structure US1GameInstance where
  socket : Option SocketId := none
  gameServerSession : Option PacketSession := none
  /-- What `OnLoginFailed` has broadcast. -/
  onLoginFailed : List String := []
  deriving DecidableEq, Repr

namespace US1GameInstance

/-- The guard of every request: `Socket != nullptr && GameServerSession.IsValid()`. -/
def Connected (gameInstance : US1GameInstance) : Prop :=
  gameInstance.socket.isSome ∧ gameInstance.gameServerSession.isSome

instance (gameInstance : US1GameInstance) : Decidable gameInstance.Connected :=
  inferInstanceAs (Decidable (_ ∧ _))

/-- `US1GameInstance::SendPacket`. -/
def sendPacket (gameInstance : US1GameInstance) (sendBuffer : SendBuffer) : US1GameInstance :=
  if gameInstance.Connected then
    { gameInstance with
      gameServerSession := gameInstance.gameServerSession.map (·.sendPacket sendBuffer) }
  else gameInstance

/-- `SEND_PACKET`; `none` is a write outside the send buffer. -/
def send [ProtoMessage M] (gameInstance : US1GameInstance) (pkt : M) (pktId : UInt16) :
    Option US1GameInstance := do
  let sendBuffer ← makeSendBuffer pkt pktId
  return gameInstance.sendPacket sendBuffer

/-- The common body of the requests: nothing happens without a connection or
when the arguments fail the checks that come before `pkt` is filled in. -/
def request [ProtoMessage M] (gameInstance : US1GameInstance) (pktId : UInt16) (pkt : Option M) :
    Option (Bool × US1GameInstance) :=
  if gameInstance.Connected then
    match pkt with
    | none => some (false, gameInstance)
    | some pkt => (gameInstance.send pkt pktId).map (true, ·)
  else some (false, gameInstance)

theorem send_eq [ProtoMessage M] (gameInstance : US1GameInstance) (pkt : M) (pktId : UInt16) :
    (gameInstance.send pkt pktId).map (true, ·) =
      (makeSendBuffer pkt pktId).map fun sendBuffer => (true, gameInstance.sendPacket sendBuffer) := by
  cases built : makeSendBuffer pkt pktId <;> simp [send, built]

theorem request_some [ProtoMessage M] {gameInstance : US1GameInstance}
    (connected : gameInstance.Connected) (pktId : UInt16) (pkt : M) :
    gameInstance.request pktId (some pkt) =
      (makeSendBuffer pkt pktId).map fun sendBuffer => (true, gameInstance.sendPacket sendBuffer) := by
  rw [request, if_pos connected]
  exact send_eq gameInstance pkt pktId

end US1GameInstance
end ArenaClient
