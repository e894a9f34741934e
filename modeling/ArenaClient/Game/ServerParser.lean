import ArenaClient.Game.Play
import ArenaClient.Network.GeneratedProofs
import ArenaClient.Network.Messages

/-! What the handlers see of the messages that the generated classes parse. An
accessor of a missing sub-message returns the default instance. -/
namespace ArenaClient

/-! ### `Enum.pb.h` -/

namespace Protocol

def AuthResult.ofNumber (value : Int32) : AuthResult :=
  if value = 0 then .none
  else if value = 1 then .success
  else if value = 2 then .invalidInput
  else if value = 3 then .duplicateLoginId
  else if value = 4 then .duplicateNickname
  else if value = 5 then .invalidCredentials
  else if value = 6 then .serverError
  else .unknown value

def Team.ofNumber (value : Int32) : Team :=
  if value = 0 then .none else if value = 1 then .red else if value = 2 then .blue else .unknown value

def MoveState.ofNumber (value : Int32) : MoveState :=
  if value = 0 then .none else if value = 1 then .idle else if value = 2 then .move else .unknown value

@[simp] theorem Team.number_ofNumber (value : Int32) : (Team.ofNumber value).number = value := by
  unfold ofNumber
  split_ifs <;> simp_all [number]

@[simp] theorem MoveState.number_ofNumber (value : Int32) : (MoveState.ofNumber value).number = value := by
  unfold ofNumber
  split_ifs <;> simp_all [number]

end Protocol

/-! ### Accessors -/

namespace Generated

def RoomPlayerInfo.view (info : RoomPlayerInfo) : Protocol.RoomPlayerInfo :=
  { objectId := info.objectId, team := .ofNumber info.team, ready := info.ready, nickname := info.nickname }

def RoomInfo.view (info : RoomInfo) : Protocol.RoomInfo :=
  { roomId := info.roomId, roomName := info.roomName, hostObjectId := info.hostObjectId,
    maxPlayerCount := info.maxPlayerCount, players := info.players.map RoomPlayerInfo.view }

def MoveInfo.view (info : MoveInfo) : Protocol.MoveInfo :=
  { x := info.x, y := info.y, z := info.z, yaw := info.yaw, state := .ofNumber info.state }

def PlayerInfo.view (info : PlayerInfo) : Protocol.PlayerInfo :=
  { objectId := info.objectId, moveInfo := (info.moveInfo.getD {}).view, nickname := info.nickname }

def MatchPlayerInfo.view (info : MatchPlayerInfo) : Protocol.MatchPlayerInfo :=
  { playerInfo := (info.playerInfo.getD {}).view }

def MatchPlayerState.view (state : MatchPlayerState) : Protocol.MatchPlayerState :=
  { hp := state.hp, maxHp := state.maxHp, isAlive := state.isAlive, killCount := state.killCount,
    deathCount := state.deathCount }

def MatchInfo.view (info : MatchInfo) : Protocol.MatchInfo :=
  { matchId := info.matchId, durationSeconds := info.durationSeconds, redScore := info.redScore,
    blueScore := info.blueScore, matchPlayersInfo := info.matchPlayersInfo.map MatchPlayerInfo.view,
    matchPlayersState := info.matchPlayersState.map MatchPlayerState.view }

def MatchStateInfo.view (info : MatchStateInfo) : Protocol.MatchStateInfo :=
  { matchId := info.matchId, remainingTimeSeconds := info.remainingTimeSeconds, redScore := info.redScore,
    blueScore := info.blueScore }

def MatchResult.view (result : MatchResult) : Protocol.MatchResult :=
  { matchId := result.matchId, winnerTeam := .ofNumber result.winnerTeam, redScore := result.redScore,
    blueScore := result.blueScore }

/-- The message that `HandlePacket` gives to the handler of its type. -/
def view : (type : ServerPacket) → Carrier (.server type) → ServerMessage
  | .login, pkt => .login
    { success := pkt.success, objectId := pkt.objectId, result := .ofNumber pkt.result,
      accountId := pkt.accountId, nickname := pkt.nickname }
  | .register, pkt => .register { success := pkt.success, result := .ofNumber pkt.result }
  | .roomList, pkt => .roomList { rooms := pkt.rooms.map RoomInfo.view }
  | .createRoom, pkt => .createRoom
    { success := pkt.success, roomInfo := pkt.roomInfo.map RoomInfo.view }
  | .enterRoom, pkt => .enterRoom { success := pkt.success, roomInfo := pkt.roomInfo.map RoomInfo.view }
  | .leaveRoom, pkt => .leaveRoom { success := pkt.success }
  | .roomState, pkt => .roomState { roomInfo := pkt.roomInfo.map RoomInfo.view }
  | .matchPrepare, pkt => .matchPrepare { matchInfo := (pkt.matchInfo.getD {}).view }
  | .matchStart, pkt => .matchStart { matchId := pkt.matchId }
  | .matchState, pkt => .matchState { matchState := (pkt.matchState.getD {}).view }
  | .playerState, pkt => .playerState
    { objectId := pkt.objectId, playerState := (pkt.playerState.getD {}).view }
  | .playerRespawn, pkt => .playerRespawn
    { playerInfo := (pkt.playerInfo.getD {}).view, playerState := (pkt.playerState.getD {}).view }
  | .move, pkt => .move { playerInfo := (pkt.playerInfo.getD {}).view }
  | .fire, pkt => .fire
    { objectId := pkt.objectId, spawnX := pkt.spawnX, spawnY := pkt.spawnY, spawnZ := pkt.spawnZ,
      directionX := pkt.directionX, directionY := pkt.directionY, directionZ := pkt.directionZ }
  | .playerDespawn, pkt => .playerDespawn { objectId := pkt.objectId }
  | .matchEnd, pkt => .matchEnd { result := (pkt.result.getD {}).view }
  | .returnToRoom, pkt => .returnToRoom { roomInfo := pkt.roomInfo.map RoomInfo.view }
  | .chat, pkt => .chat { playerId := pkt.playerId, msg := pkt.msg }

theorem type_view (type : ServerPacket) (pkt : Carrier (.server type)) : (view type pkt).type = type := by
  cases type <;> rfl

end Generated

/-! ### The parser of the handler table -/

namespace ServerPacketHandler

/-- `pkt.ParseFromArray(buffer + sizeof(PacketHeader), size)` for each type. The
size is never negative where the buffer holds a header. -/
def generatedParser : Parser where
  parseFromArray type bytes size :=
    if size < 0 then none
    else (Generated.parseFromArray (.server type) (bytes.take size.toNat)).map (Generated.view type)
  type_of_parse {type bytes size msg} parsed := by
    obtain ⟨_, parsed⟩ := Option.ite_none_left_eq_some.mp parsed
    obtain ⟨pkt, _, rfl⟩ := Option.map_eq_some_iff.mp parsed
    exact Generated.type_view type pkt

/-- What a frame tells the game: nothing if its id is not registered or its
payload is no message of that type. -/
def meaning (frame : Frame) : Option ServerMessage :=
  (ServerPacket.ofId frame.id.toNat).bind fun type =>
    (Generated.decode (.server type) (Generated.empty (.server type)) frame.payload).map (Generated.view type)

theorem parse_payload (type : ServerPacket) (payload : List UInt8) :
    generatedParser.parseFromArray type payload payload.length =
      (Generated.decode (.server type) (Generated.empty (.server type)) payload).map (Generated.view type) := by
  have whole : ¬ (payload.length : Int) < 0 := by omega
  have decoded : Generated.parseFromArray (.server type) payload =
      Generated.decode (.server type) (Generated.empty (.server type)) payload :=
    @Protobuf.Schema.parseFromArray_eq_decode Generated.protocol (.server type) payload
  simp only [generatedParser, if_neg whole, Int.toNat_natCast, List.take_length, decoded]

end ServerPacketHandler
end ArenaClient
