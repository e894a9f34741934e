import ArenaClient.Network.Packet

/-! The messages of `Protocol.pb.h` that the server sends, with the fields that
the client reads. Strings are UTF-8 bytes, floats the bits of the wire format.
A sub-message is optional where the client asks whether it is there; elsewhere
the accessor returns the default instance for a missing one. -/
namespace ArenaClient.Protocol

/-! ### Enumerations: proto3 keeps values it has no name for -/

inductive AuthResult where
  | none | success | invalidInput | duplicateLoginId | duplicateNickname | invalidCredentials
  | serverError
  | unknown (value : Int32)
  deriving DecidableEq, Repr, Inhabited

inductive Team where
  | none | red | blue
  | unknown (value : Int32)
  deriving DecidableEq, Repr, Inhabited

inductive MoveState where
  | none | idle | move
  | unknown (value : Int32)
  deriving DecidableEq, Repr, Inhabited

/-! ### Sub-messages -/

structure RoomPlayerInfo where
  objectId : UInt64 := 0
  team : Team := .none
  ready : Bool := false
  nickname : List UInt8 := []
  deriving DecidableEq, Repr

structure RoomInfo where
  roomId : UInt64 := 0
  roomName : List UInt8 := []
  hostObjectId : UInt64 := 0
  maxPlayerCount : UInt32 := 0
  players : List RoomPlayerInfo := []
  deriving DecidableEq, Repr

structure MoveInfo where
  x : UInt32 := 0
  y : UInt32 := 0
  z : UInt32 := 0
  yaw : UInt32 := 0
  state : MoveState := .none
  deriving DecidableEq, Repr

structure PlayerInfo where
  objectId : UInt64 := 0
  moveInfo : MoveInfo := {}
  nickname : List UInt8 := []
  deriving DecidableEq, Repr

structure MatchPlayerInfo where
  playerInfo : PlayerInfo := {}
  deriving DecidableEq, Repr

structure MatchPlayerState where
  hp : Int32 := 0
  maxHp : Int32 := 0
  isAlive : Bool := false
  killCount : UInt32 := 0
  deathCount : UInt32 := 0
  deriving DecidableEq, Repr

structure MatchInfo where
  matchId : UInt64 := 0
  durationSeconds : UInt32 := 0
  redScore : UInt32 := 0
  blueScore : UInt32 := 0
  matchPlayersInfo : List MatchPlayerInfo := []
  matchPlayersState : List MatchPlayerState := []
  deriving DecidableEq, Repr

structure MatchStateInfo where
  matchId : UInt64 := 0
  remainingTimeSeconds : UInt32 := 0
  redScore : UInt32 := 0
  blueScore : UInt32 := 0
  deriving DecidableEq, Repr

structure MatchResult where
  matchId : UInt64 := 0
  winnerTeam : Team := .none
  redScore : UInt32 := 0
  blueScore : UInt32 := 0
  deriving DecidableEq, Repr

/-! ### Messages -/

structure SLogin where
  success : Bool := false
  objectId : UInt64 := 0
  result : AuthResult := .none
  accountId : UInt64 := 0
  nickname : List UInt8 := []
  deriving DecidableEq, Repr

structure SRegister where
  success : Bool := false
  result : AuthResult := .none
  deriving DecidableEq, Repr

structure SRoomList where
  rooms : List RoomInfo := []
  deriving DecidableEq, Repr

structure SCreateRoom where
  success : Bool := false
  roomInfo : Option RoomInfo := .none
  deriving DecidableEq, Repr

structure SEnterRoom where
  success : Bool := false
  roomInfo : Option RoomInfo := .none
  deriving DecidableEq, Repr

structure SLeaveRoom where
  success : Bool := false
  deriving DecidableEq, Repr

structure SRoomState where
  roomInfo : Option RoomInfo := .none
  deriving DecidableEq, Repr

structure SMatchPrepare where
  matchInfo : MatchInfo := {}
  deriving DecidableEq, Repr

structure SMatchStart where
  matchId : UInt64 := 0
  deriving DecidableEq, Repr

structure SMatchState where
  matchState : MatchStateInfo := {}
  deriving DecidableEq, Repr

structure SPlayerState where
  objectId : UInt64 := 0
  playerState : MatchPlayerState := {}
  deriving DecidableEq, Repr

structure SPlayerRespawn where
  playerInfo : PlayerInfo := {}
  playerState : MatchPlayerState := {}
  deriving DecidableEq, Repr

structure SMove where
  playerInfo : PlayerInfo := {}
  deriving DecidableEq, Repr

structure SFire where
  objectId : UInt64 := 0
  spawnX : UInt32 := 0
  spawnY : UInt32 := 0
  spawnZ : UInt32 := 0
  directionX : UInt32 := 0
  directionY : UInt32 := 0
  directionZ : UInt32 := 0
  deriving DecidableEq, Repr

structure SPlayerDespawn where
  objectId : UInt64 := 0
  deriving DecidableEq, Repr

structure SMatchEnd where
  result : MatchResult := {}
  deriving DecidableEq, Repr

structure SReturnToRoom where
  roomInfo : Option RoomInfo := .none
  deriving DecidableEq, Repr

structure SChat where
  playerId : UInt64 := 0
  msg : List UInt8 := []
  deriving DecidableEq, Repr

end ArenaClient.Protocol

namespace ArenaClient
open Protocol

inductive ServerMessage where
  | login (pkt : SLogin)
  | register (pkt : SRegister)
  | roomList (pkt : SRoomList)
  | createRoom (pkt : SCreateRoom)
  | enterRoom (pkt : SEnterRoom)
  | leaveRoom (pkt : SLeaveRoom)
  | roomState (pkt : SRoomState)
  | matchPrepare (pkt : SMatchPrepare)
  | matchStart (pkt : SMatchStart)
  | matchState (pkt : SMatchState)
  | playerState (pkt : SPlayerState)
  | playerRespawn (pkt : SPlayerRespawn)
  | move (pkt : SMove)
  | fire (pkt : SFire)
  | playerDespawn (pkt : SPlayerDespawn)
  | matchEnd (pkt : SMatchEnd)
  | returnToRoom (pkt : SReturnToRoom)
  | chat (pkt : SChat)
  deriving DecidableEq, Repr

def ServerMessage.type : ServerMessage → ServerPacket
  | login _ => .login
  | register _ => .register
  | roomList _ => .roomList
  | createRoom _ => .createRoom
  | enterRoom _ => .enterRoom
  | leaveRoom _ => .leaveRoom
  | roomState _ => .roomState
  | matchPrepare _ => .matchPrepare
  | matchStart _ => .matchStart
  | matchState _ => .matchState
  | playerState _ => .playerState
  | playerRespawn _ => .playerRespawn
  | move _ => .move
  | fire _ => .fire
  | playerDespawn _ => .playerDespawn
  | matchEnd _ => .matchEnd
  | returnToRoom _ => .returnToRoom
  | chat _ => .chat

end ArenaClient
