import ArenaClient.Base.Merge
import ArenaClient.Base.ParseFromArray
import ArenaClient.Network.Packet

/-! The generated classes of `Struct.pb.cc` and `Protocol.pb.cc` with all their
fields. Strings are bytes, floats their bits, enumerations the numbers that the
wire has; a sub-message may be missing. Each class is the list of its fields: the
number, the byte that `_InternalParse` compares, and the accessors. -/
namespace ArenaClient.Generated
open Protobuf

/-! ### `Struct.pb.h` -/

structure RoomPlayerInfo where
  objectId : UInt64 := 0
  playerType : Int32 := 0
  team : Int32 := 0
  ready : Bool := false
  nickname : List UInt8 := []
  deriving DecidableEq, Repr

structure RoomInfo where
  roomId : UInt64 := 0
  roomName : List UInt8 := []
  state : Int32 := 0
  hostObjectId : UInt64 := 0
  maxPlayerCount : UInt32 := 0
  players : List RoomPlayerInfo := []
  deriving DecidableEq, Repr

structure MoveInfo where
  x : UInt32 := 0
  y : UInt32 := 0
  z : UInt32 := 0
  yaw : UInt32 := 0
  state : Int32 := 0
  deriving DecidableEq, Repr

structure PlayerInfo where
  objectId : UInt64 := 0
  moveInfo : Option MoveInfo := none
  nickname : List UInt8 := []
  deriving DecidableEq, Repr

structure MatchPlayerInfo where
  playerInfo : Option PlayerInfo := none
  playerType : Int32 := 0
  team : Int32 := 0
  deriving DecidableEq, Repr

structure MatchPlayerState where
  hp : Int32 := 0
  maxHp : Int32 := 0
  isAlive : Bool := false
  killCount : UInt32 := 0
  deathCount : UInt32 := 0
  deriving DecidableEq, Repr

structure MatchInfo where
  matchId : UInt64 := 0
  durationSeconds : UInt32 := 0
  redScore : UInt32 := 0
  blueScore : UInt32 := 0
  matchPlayersInfo : List MatchPlayerInfo := []
  matchPlayersState : List MatchPlayerState := []
  deriving DecidableEq, Repr

structure MatchStateInfo where
  matchId : UInt64 := 0
  remainingTimeSeconds : UInt32 := 0
  redScore : UInt32 := 0
  blueScore : UInt32 := 0
  deriving DecidableEq, Repr

structure MatchResult where
  matchId : UInt64 := 0
  winnerTeam : Int32 := 0
  redScore : UInt32 := 0
  blueScore : UInt32 := 0
  playerResults : List MatchPlayerState := []
  deriving DecidableEq, Repr

/-! ### `Protocol.pb.h` -/

structure CLogin where
  loginId : List UInt8 := []
  password : List UInt8 := []
  deriving DecidableEq, Repr

structure SLogin where
  success : Bool := false
  objectId : UInt64 := 0
  result : Int32 := 0
  accountId : UInt64 := 0
  nickname : List UInt8 := []
  deriving DecidableEq, Repr

structure CRegister where
  loginId : List UInt8 := []
  password : List UInt8 := []
  nickname : List UInt8 := []
  deriving DecidableEq, Repr

structure SRegister where
  success : Bool := false
  result : Int32 := 0
  deriving DecidableEq, Repr

structure SRoomList where
  rooms : List RoomInfo := []
  deriving DecidableEq, Repr

structure CCreateRoom where
  roomName : List UInt8 := []
  maxPlayerCount : UInt32 := 0
  deriving DecidableEq, Repr

structure SCreateRoom where
  success : Bool := false
  roomInfo : Option RoomInfo := none
  deriving DecidableEq, Repr

structure CEnterRoom where
  roomId : UInt64 := 0
  deriving DecidableEq, Repr

structure SEnterRoom where
  success : Bool := false
  roomInfo : Option RoomInfo := none
  deriving DecidableEq, Repr

structure SLeaveRoom where
  success : Bool := false
  deriving DecidableEq, Repr

structure CChangePlayerType where
  success : Bool := false
  playerType : Int32 := 0
  deriving DecidableEq, Repr

structure CChangeTeam where
  team : Int32 := 0
  deriving DecidableEq, Repr

structure CReady where
  ready : Bool := false
  deriving DecidableEq, Repr

structure SRoomState where
  roomInfo : Option RoomInfo := none
  deriving DecidableEq, Repr

structure SMatchPrepare where
  matchInfo : Option MatchInfo := none
  deriving DecidableEq, Repr

structure SMatchStart where
  matchId : UInt64 := 0
  deriving DecidableEq, Repr

structure SMatchState where
  matchState : Option MatchStateInfo := none
  deriving DecidableEq, Repr

structure SPlayerState where
  objectId : UInt64 := 0
  playerState : Option MatchPlayerState := none
  deriving DecidableEq, Repr

structure SPlayerRespawn where
  playerInfo : Option PlayerInfo := none
  playerState : Option MatchPlayerState := none
  deriving DecidableEq, Repr

structure CMove where
  moveInfo : Option MoveInfo := none
  deriving DecidableEq, Repr

structure SMove where
  playerInfo : Option PlayerInfo := none
  deriving DecidableEq, Repr

structure CFire where
  objectId : UInt64 := 0
  spawnX : UInt32 := 0
  spawnY : UInt32 := 0
  spawnZ : UInt32 := 0
  directionX : UInt32 := 0
  directionY : UInt32 := 0
  directionZ : UInt32 := 0
  deriving DecidableEq, Repr

structure SFire where
  objectId : UInt64 := 0
  spawnX : UInt32 := 0
  spawnY : UInt32 := 0
  spawnZ : UInt32 := 0
  directionX : UInt32 := 0
  directionY : UInt32 := 0
  directionZ : UInt32 := 0
  deriving DecidableEq, Repr

structure CHit where
  targetObjectId : UInt64 := 0
  deriving DecidableEq, Repr

structure SPlayerDespawn where
  objectId : UInt64 := 0
  deriving DecidableEq, Repr

structure SMatchEnd where
  result : Option MatchResult := none
  deriving DecidableEq, Repr

structure SReturnToRoom where
  roomInfo : Option RoomInfo := none
  deriving DecidableEq, Repr

structure CChat where
  msg : List UInt8 := []
  deriving DecidableEq, Repr

structure SChat where
  playerId : UInt64 := 0
  msg : List UInt8 := []
  deriving DecidableEq, Repr

structure CRoomList where
  deriving DecidableEq, Repr

structure CLeaveRoom where
  deriving DecidableEq, Repr

structure CStartMatch where
  deriving DecidableEq, Repr

structure CMatchPrepare where
  deriving DecidableEq, Repr

structure CReturnToRoom where
  deriving DecidableEq, Repr

inductive MessageType where
  | roomPlayerInfo | roomInfo | moveInfo | playerInfo | matchPlayerInfo | matchInfo | matchPlayerState
  | matchStateInfo | matchResult
  | server (type : ServerPacket)
  | client (type : ClientPacket)
  deriving DecidableEq, Repr

abbrev Carrier : MessageType → Type
  | .roomPlayerInfo => RoomPlayerInfo
  | .roomInfo => RoomInfo
  | .moveInfo => MoveInfo
  | .playerInfo => PlayerInfo
  | .matchPlayerInfo => MatchPlayerInfo
  | .matchInfo => MatchInfo
  | .matchPlayerState => MatchPlayerState
  | .matchStateInfo => MatchStateInfo
  | .matchResult => MatchResult
  | .server .login => SLogin
  | .server .register => SRegister
  | .server .roomList => SRoomList
  | .server .createRoom => SCreateRoom
  | .server .enterRoom => SEnterRoom
  | .server .leaveRoom => SLeaveRoom
  | .server .roomState => SRoomState
  | .server .matchPrepare => SMatchPrepare
  | .server .matchStart => SMatchStart
  | .server .matchState => SMatchState
  | .server .playerState => SPlayerState
  | .server .playerRespawn => SPlayerRespawn
  | .server .move => SMove
  | .server .fire => SFire
  | .server .playerDespawn => SPlayerDespawn
  | .server .matchEnd => SMatchEnd
  | .server .returnToRoom => SReturnToRoom
  | .server .chat => SChat
  | .client .login => CLogin
  | .client .register => CRegister
  | .client .createRoom => CCreateRoom
  | .client .enterRoom => CEnterRoom
  | .client .changePlayerType => CChangePlayerType
  | .client .changeTeam => CChangeTeam
  | .client .ready => CReady
  | .client .move => CMove
  | .client .fire => CFire
  | .client .hit => CHit
  | .client .chat => CChat
  | .client .roomList => CRoomList
  | .client .leaveRoom => CLeaveRoom
  | .client .startMatch => CStartMatch
  | .client .matchPrepare => CMatchPrepare
  | .client .returnToRoom => CReturnToRoom

/-! ### `Struct.pb.cc` -/

def RoomPlayerInfo.cases : List (FieldCase Carrier RoomPlayerInfo) :=
  [{ number := 1, tag := 8, kind := .uint64 (.mk objectId ({ · with objectId := · })) },
   { number := 2, tag := 16, kind := .enum (.mk playerType ({ · with playerType := · })) },
   { number := 3, tag := 24, kind := .enum (.mk team ({ · with team := · })) },
   { number := 4, tag := 32, kind := .bool (.mk ready ({ · with ready := · })) },
   { number := 5, tag := 42, kind := .string (.mk nickname ({ · with nickname := · })) }]

def RoomInfo.cases : List (FieldCase Carrier RoomInfo) :=
  [{ number := 1, tag := 8, kind := .uint64 (.mk roomId ({ · with roomId := · })) },
   { number := 2, tag := 18, kind := .string (.mk roomName ({ · with roomName := · })) },
   { number := 3, tag := 24, kind := .enum (.mk state ({ · with state := · })) },
   { number := 4, tag := 32, kind := .uint64 (.mk hostObjectId ({ · with hostObjectId := · })) },
   { number := 5, tag := 40, kind := .uint32 (.mk maxPlayerCount ({ · with maxPlayerCount := · })) },
   { number := 6, tag := 50, kind := .repeated .roomPlayerInfo (.mk players ({ · with players := · })) }]

def MoveInfo.cases : List (FieldCase Carrier MoveInfo) :=
  [{ number := 1, tag := 13, kind := .float (.mk x ({ · with x := · })) },
   { number := 2, tag := 21, kind := .float (.mk y ({ · with y := · })) },
   { number := 3, tag := 29, kind := .float (.mk z ({ · with z := · })) },
   { number := 4, tag := 37, kind := .float (.mk yaw ({ · with yaw := · })) },
   { number := 5, tag := 40, kind := .enum (.mk state ({ · with state := · })) }]

def PlayerInfo.cases : List (FieldCase Carrier PlayerInfo) :=
  [{ number := 1, tag := 8, kind := .uint64 (.mk objectId ({ · with objectId := · })) },
   { number := 2, tag := 18, kind := .message .moveInfo (.mk moveInfo ({ · with moveInfo := · })) },
   { number := 3, tag := 26, kind := .string (.mk nickname ({ · with nickname := · })) }]

def MatchPlayerInfo.cases : List (FieldCase Carrier MatchPlayerInfo) :=
  [{ number := 1, tag := 10, kind := .message .playerInfo (.mk playerInfo ({ · with playerInfo := · })) },
   { number := 2, tag := 16, kind := .enum (.mk playerType ({ · with playerType := · })) },
   { number := 3, tag := 24, kind := .enum (.mk team ({ · with team := · })) }]

def MatchInfo.cases : List (FieldCase Carrier MatchInfo) :=
  [{ number := 1, tag := 8, kind := .uint64 (.mk matchId ({ · with matchId := · })) },
   { number := 2, tag := 16, kind := .uint32 (.mk durationSeconds ({ · with durationSeconds := · })) },
   { number := 3, tag := 24, kind := .uint32 (.mk redScore ({ · with redScore := · })) },
   { number := 4, tag := 32, kind := .uint32 (.mk blueScore ({ · with blueScore := · })) },
   { number := 5, tag := 42, kind := .repeated .matchPlayerInfo (.mk
      matchPlayersInfo ({ · with matchPlayersInfo := · })) },
   { number := 6, tag := 50, kind := .repeated .matchPlayerState (.mk
      matchPlayersState ({ · with matchPlayersState := · })) }]

def MatchPlayerState.cases : List (FieldCase Carrier MatchPlayerState) :=
  [{ number := 1, tag := 8, kind := .int32 (.mk hp ({ · with hp := · })) },
   { number := 2, tag := 16, kind := .int32 (.mk maxHp ({ · with maxHp := · })) },
   { number := 3, tag := 24, kind := .bool (.mk isAlive ({ · with isAlive := · })) },
   { number := 4, tag := 32, kind := .uint32 (.mk killCount ({ · with killCount := · })) },
   { number := 5, tag := 40, kind := .uint32 (.mk deathCount ({ · with deathCount := · })) }]

def MatchStateInfo.cases : List (FieldCase Carrier MatchStateInfo) :=
  [{ number := 1, tag := 8, kind := .uint64 (.mk matchId ({ · with matchId := · })) },
   { number := 2, tag := 16, kind := .uint32 (.mk
      remainingTimeSeconds ({ · with remainingTimeSeconds := · })) },
   { number := 3, tag := 24, kind := .uint32 (.mk redScore ({ · with redScore := · })) },
   { number := 4, tag := 32, kind := .uint32 (.mk blueScore ({ · with blueScore := · })) }]

def MatchResult.cases : List (FieldCase Carrier MatchResult) :=
  [{ number := 1, tag := 8, kind := .uint64 (.mk matchId ({ · with matchId := · })) },
   { number := 2, tag := 16, kind := .enum (.mk winnerTeam ({ · with winnerTeam := · })) },
   { number := 3, tag := 24, kind := .uint32 (.mk redScore ({ · with redScore := · })) },
   { number := 4, tag := 32, kind := .uint32 (.mk blueScore ({ · with blueScore := · })) },
   { number := 5, tag := 42, kind := .repeated .matchPlayerState (.mk
      playerResults ({ · with playerResults := · })) }]

/-! ### `Protocol.pb.cc` -/

def CLogin.cases : List (FieldCase Carrier CLogin) :=
  [{ number := 1, tag := 10, kind := .string (.mk loginId ({ · with loginId := · })) },
   { number := 2, tag := 18, kind := .string (.mk password ({ · with password := · })) }]

def SLogin.cases : List (FieldCase Carrier SLogin) :=
  [{ number := 1, tag := 8, kind := .bool (.mk success ({ · with success := · })) },
   { number := 2, tag := 16, kind := .uint64 (.mk objectId ({ · with objectId := · })) },
   { number := 3, tag := 24, kind := .enum (.mk result ({ · with result := · })) },
   { number := 4, tag := 32, kind := .uint64 (.mk accountId ({ · with accountId := · })) },
   { number := 5, tag := 42, kind := .string (.mk nickname ({ · with nickname := · })) }]

def CRegister.cases : List (FieldCase Carrier CRegister) :=
  [{ number := 1, tag := 10, kind := .string (.mk loginId ({ · with loginId := · })) },
   { number := 2, tag := 18, kind := .string (.mk password ({ · with password := · })) },
   { number := 3, tag := 26, kind := .string (.mk nickname ({ · with nickname := · })) }]

def SRegister.cases : List (FieldCase Carrier SRegister) :=
  [{ number := 1, tag := 8, kind := .bool (.mk success ({ · with success := · })) },
   { number := 2, tag := 16, kind := .enum (.mk result ({ · with result := · })) }]

def SRoomList.cases : List (FieldCase Carrier SRoomList) :=
  [{ number := 1, tag := 10, kind := .repeated .roomInfo (.mk rooms ({ · with rooms := · })) }]

def CCreateRoom.cases : List (FieldCase Carrier CCreateRoom) :=
  [{ number := 1, tag := 10, kind := .string (.mk roomName ({ · with roomName := · })) },
   { number := 2, tag := 16, kind := .uint32 (.mk maxPlayerCount ({ · with maxPlayerCount := · })) }]

def SCreateRoom.cases : List (FieldCase Carrier SCreateRoom) :=
  [{ number := 1, tag := 8, kind := .bool (.mk success ({ · with success := · })) },
   { number := 2, tag := 18, kind := .message .roomInfo (.mk roomInfo ({ · with roomInfo := · })) }]

def CEnterRoom.cases : List (FieldCase Carrier CEnterRoom) :=
  [{ number := 1, tag := 8, kind := .uint64 (.mk roomId ({ · with roomId := · })) }]

def SEnterRoom.cases : List (FieldCase Carrier SEnterRoom) :=
  [{ number := 1, tag := 8, kind := .bool (.mk success ({ · with success := · })) },
   { number := 2, tag := 18, kind := .message .roomInfo (.mk roomInfo ({ · with roomInfo := · })) }]

def SLeaveRoom.cases : List (FieldCase Carrier SLeaveRoom) :=
  [{ number := 1, tag := 8, kind := .bool (.mk success ({ · with success := · })) }]

def CChangePlayerType.cases : List (FieldCase Carrier CChangePlayerType) :=
  [{ number := 1, tag := 8, kind := .bool (.mk success ({ · with success := · })) },
   { number := 2, tag := 16, kind := .enum (.mk playerType ({ · with playerType := · })) }]

def CChangeTeam.cases : List (FieldCase Carrier CChangeTeam) :=
  [{ number := 1, tag := 8, kind := .enum (.mk team ({ · with team := · })) }]

def CReady.cases : List (FieldCase Carrier CReady) :=
  [{ number := 1, tag := 8, kind := .bool (.mk ready ({ · with ready := · })) }]

def SRoomState.cases : List (FieldCase Carrier SRoomState) :=
  [{ number := 1, tag := 10, kind := .message .roomInfo (.mk roomInfo ({ · with roomInfo := · })) }]

def SMatchPrepare.cases : List (FieldCase Carrier SMatchPrepare) :=
  [{ number := 1, tag := 10, kind := .message .matchInfo (.mk matchInfo ({ · with matchInfo := · })) }]

def SMatchStart.cases : List (FieldCase Carrier SMatchStart) :=
  [{ number := 1, tag := 8, kind := .uint64 (.mk matchId ({ · with matchId := · })) }]

def SMatchState.cases : List (FieldCase Carrier SMatchState) :=
  [{ number := 1, tag := 10, kind := .message .matchStateInfo (.mk
      matchState ({ · with matchState := · })) }]

def SPlayerState.cases : List (FieldCase Carrier SPlayerState) :=
  [{ number := 1, tag := 8, kind := .uint64 (.mk objectId ({ · with objectId := · })) },
   { number := 2, tag := 18, kind := .message .matchPlayerState (.mk
      playerState ({ · with playerState := · })) }]

def SPlayerRespawn.cases : List (FieldCase Carrier SPlayerRespawn) :=
  [{ number := 1, tag := 10, kind := .message .playerInfo (.mk playerInfo ({ · with playerInfo := · })) },
   { number := 2, tag := 18, kind := .message .matchPlayerState (.mk
      playerState ({ · with playerState := · })) }]

def CMove.cases : List (FieldCase Carrier CMove) :=
  [{ number := 1, tag := 10, kind := .message .moveInfo (.mk moveInfo ({ · with moveInfo := · })) }]

def SMove.cases : List (FieldCase Carrier SMove) :=
  [{ number := 1, tag := 10, kind := .message .playerInfo (.mk playerInfo ({ · with playerInfo := · })) }]

def CFire.cases : List (FieldCase Carrier CFire) :=
  [{ number := 1, tag := 8, kind := .uint64 (.mk objectId ({ · with objectId := · })) },
   { number := 2, tag := 21, kind := .float (.mk spawnX ({ · with spawnX := · })) },
   { number := 3, tag := 29, kind := .float (.mk spawnY ({ · with spawnY := · })) },
   { number := 4, tag := 37, kind := .float (.mk spawnZ ({ · with spawnZ := · })) },
   { number := 5, tag := 45, kind := .float (.mk directionX ({ · with directionX := · })) },
   { number := 6, tag := 53, kind := .float (.mk directionY ({ · with directionY := · })) },
   { number := 7, tag := 61, kind := .float (.mk directionZ ({ · with directionZ := · })) }]

def SFire.cases : List (FieldCase Carrier SFire) :=
  [{ number := 1, tag := 8, kind := .uint64 (.mk objectId ({ · with objectId := · })) },
   { number := 2, tag := 21, kind := .float (.mk spawnX ({ · with spawnX := · })) },
   { number := 3, tag := 29, kind := .float (.mk spawnY ({ · with spawnY := · })) },
   { number := 4, tag := 37, kind := .float (.mk spawnZ ({ · with spawnZ := · })) },
   { number := 5, tag := 45, kind := .float (.mk directionX ({ · with directionX := · })) },
   { number := 6, tag := 53, kind := .float (.mk directionY ({ · with directionY := · })) },
   { number := 7, tag := 61, kind := .float (.mk directionZ ({ · with directionZ := · })) }]

def CHit.cases : List (FieldCase Carrier CHit) :=
  [{ number := 1, tag := 8, kind := .uint64 (.mk targetObjectId ({ · with targetObjectId := · })) }]

def SPlayerDespawn.cases : List (FieldCase Carrier SPlayerDespawn) :=
  [{ number := 1, tag := 8, kind := .uint64 (.mk objectId ({ · with objectId := · })) }]

def SMatchEnd.cases : List (FieldCase Carrier SMatchEnd) :=
  [{ number := 1, tag := 10, kind := .message .matchResult (.mk result ({ · with result := · })) }]

def SReturnToRoom.cases : List (FieldCase Carrier SReturnToRoom) :=
  [{ number := 1, tag := 10, kind := .message .roomInfo (.mk roomInfo ({ · with roomInfo := · })) }]

def CChat.cases : List (FieldCase Carrier CChat) :=
  [{ number := 1, tag := 10, kind := .string (.mk msg ({ · with msg := · })) }]

def SChat.cases : List (FieldCase Carrier SChat) :=
  [{ number := 1, tag := 8, kind := .uint64 (.mk playerId ({ · with playerId := · })) },
   { number := 2, tag := 18, kind := .string (.mk msg ({ · with msg := · })) }]

/-- The default instances. -/
def empty : (type : MessageType) → Carrier type
  | .roomPlayerInfo => ({} : RoomPlayerInfo)
  | .roomInfo => ({} : RoomInfo)
  | .moveInfo => ({} : MoveInfo)
  | .playerInfo => ({} : PlayerInfo)
  | .matchPlayerInfo => ({} : MatchPlayerInfo)
  | .matchInfo => ({} : MatchInfo)
  | .matchPlayerState => ({} : MatchPlayerState)
  | .matchStateInfo => ({} : MatchStateInfo)
  | .matchResult => ({} : MatchResult)
  | .server .login => ({} : SLogin)
  | .server .register => ({} : SRegister)
  | .server .roomList => ({} : SRoomList)
  | .server .createRoom => ({} : SCreateRoom)
  | .server .enterRoom => ({} : SEnterRoom)
  | .server .leaveRoom => ({} : SLeaveRoom)
  | .server .roomState => ({} : SRoomState)
  | .server .matchPrepare => ({} : SMatchPrepare)
  | .server .matchStart => ({} : SMatchStart)
  | .server .matchState => ({} : SMatchState)
  | .server .playerState => ({} : SPlayerState)
  | .server .playerRespawn => ({} : SPlayerRespawn)
  | .server .move => ({} : SMove)
  | .server .fire => ({} : SFire)
  | .server .playerDespawn => ({} : SPlayerDespawn)
  | .server .matchEnd => ({} : SMatchEnd)
  | .server .returnToRoom => ({} : SReturnToRoom)
  | .server .chat => ({} : SChat)
  | .client .login => ({} : CLogin)
  | .client .register => ({} : CRegister)
  | .client .createRoom => ({} : CCreateRoom)
  | .client .enterRoom => ({} : CEnterRoom)
  | .client .changePlayerType => ({} : CChangePlayerType)
  | .client .changeTeam => ({} : CChangeTeam)
  | .client .ready => ({} : CReady)
  | .client .move => ({} : CMove)
  | .client .fire => ({} : CFire)
  | .client .hit => ({} : CHit)
  | .client .chat => ({} : CChat)
  | .client .roomList => ({} : CRoomList)
  | .client .leaveRoom => ({} : CLeaveRoom)
  | .client .startMatch => ({} : CStartMatch)
  | .client .matchPrepare => ({} : CMatchPrepare)
  | .client .returnToRoom => ({} : CReturnToRoom)

/-- `ZeroFieldsBase` is the base of the classes without fields. -/
def cases : (type : MessageType) → List (FieldCase Carrier (Carrier type))
  | .roomPlayerInfo => RoomPlayerInfo.cases
  | .roomInfo => RoomInfo.cases
  | .moveInfo => MoveInfo.cases
  | .playerInfo => PlayerInfo.cases
  | .matchPlayerInfo => MatchPlayerInfo.cases
  | .matchInfo => MatchInfo.cases
  | .matchPlayerState => MatchPlayerState.cases
  | .matchStateInfo => MatchStateInfo.cases
  | .matchResult => MatchResult.cases
  | .server .login => SLogin.cases
  | .server .register => SRegister.cases
  | .server .roomList => SRoomList.cases
  | .server .createRoom => SCreateRoom.cases
  | .server .enterRoom => SEnterRoom.cases
  | .server .leaveRoom => SLeaveRoom.cases
  | .server .roomState => SRoomState.cases
  | .server .matchPrepare => SMatchPrepare.cases
  | .server .matchStart => SMatchStart.cases
  | .server .matchState => SMatchState.cases
  | .server .playerState => SPlayerState.cases
  | .server .playerRespawn => SPlayerRespawn.cases
  | .server .move => SMove.cases
  | .server .fire => SFire.cases
  | .server .playerDespawn => SPlayerDespawn.cases
  | .server .matchEnd => SMatchEnd.cases
  | .server .returnToRoom => SReturnToRoom.cases
  | .server .chat => SChat.cases
  | .client .login => CLogin.cases
  | .client .register => CRegister.cases
  | .client .createRoom => CCreateRoom.cases
  | .client .enterRoom => CEnterRoom.cases
  | .client .changePlayerType => CChangePlayerType.cases
  | .client .changeTeam => CChangeTeam.cases
  | .client .ready => CReady.cases
  | .client .move => CMove.cases
  | .client .fire => CFire.cases
  | .client .hit => CHit.cases
  | .client .chat => CChat.cases
  | .client .roomList => []
  | .client .leaveRoom => []
  | .client .startMatch => []
  | .client .matchPrepare => []
  | .client .returnToRoom => []

theorem distinct_numbers (type : MessageType) : ((cases type).map FieldCase.number).Nodup := by
  cases type with
  | server type => cases type <;> decide
  | client type => cases type <;> decide
  | _ => decide

def protocol : Schema where
  Name := MessageType
  Carrier := Carrier
  empty := empty
  cases := cases
  distinct := distinct_numbers

end ArenaClient.Generated
