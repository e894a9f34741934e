import ArenaClient.Game.Instance
import ArenaClient.Network.Messages

/-! The handlers of `S1GameInstance.cpp`, one for each message of the server,
and `PrepareMatch`, which the game level calls. A handler that follows a pointer
to an actor can fail; the others are total. -/
namespace ArenaClient
open Protocol

namespace GameInstance
variable (game : GameInstance)

/-! ### Login -/

def registerFailure : AuthResult → String
  | .invalidInput => "입력한 회원정보의 형식이 올바르지 않습니다."
  | .duplicateLoginId => "이미 사용 중인 아이디입니다."
  | .duplicateNickname => "이미 사용 중인 닉네임입니다."
  | .serverError => "서버 오류가 발생했습니다. 잠시 후 다시 시도해주세요."
  | _ => "회원가입에 실패했습니다."

def handleRegister (pkt : SRegister) : GameInstance :=
  let registerSucceeded := pkt.success && pkt.result == .success
  let resultMessage :=
    if registerSucceeded then "회원가입에 성공했습니다." else registerFailure pkt.result
  game.broadcast (.onRegisterResult registerSucceeded resultMessage)

def loginFailure : AuthResult → String
  | .invalidInput => "아이디 또는 비밀번호 형식이 올바르지 않습니다."
  | .invalidCredentials => "아이디 또는 비밀번호가 올바르지 않습니다."
  | .duplicateLoginId => "이미 접속 중인 계정입니다."
  | .serverError => "서버 오류가 발생했습니다."
  | _ => "로그인에 실패했습니다."

def broadcastLoginFailed (message : String) : GameInstance :=
  { game with onLoginFailed := game.onLoginFailed ++ [message] }.broadcast (.onLoginFailed message)

/-- The checks of `HandleLogin`; what fails has a text to show. -/
def loginError (pkt : SLogin) : Option String :=
  if ¬ (pkt.success ∧ pkt.result = .success) then some (loginFailure pkt.result)
  else if pkt.accountId = 0 ∨ pkt.objectId = 0 then some "서버에서 잘못된 로그인 응답을 받았습니다."
  else none

def handleLogin [TextDecoder] (pkt : SLogin) : GameInstance :=
  match loginError pkt with
  | some message => game.broadcastLoginFailed message
  | none =>
    { game with
      localAccountId := pkt.accountId
      localObjectId := pkt.objectId
      localNickname := tchar pkt.nickname }.openLevel "Lobby"

/-! ### Lobby and room -/

def roomListItem [TextDecoder] (info : RoomInfo) : FRoomListItem where
  roomId := info.roomId.toInt64
  roomName := tchar info.roomName
  currentPlayerCount := Int32.ofNat info.players.length
  maxPlayerCount := info.maxPlayerCount.toInt32
  hostObjectId := info.hostObjectId.toInt64

def handleRoomList [TextDecoder] (pkt : SRoomList) : GameInstance :=
  { game with
    lobbyRooms := pkt.rooms.foldl (fun rooms info => rooms ++ [roomListItem info]) [] }.broadcast
    .onRoomListUpdated

def roomTeam : Team → ERoomTeam
  | .blue => .blue
  | .red => .red
  | _ => .none

def roomPlayerItem [TextDecoder] (player : RoomPlayerInfo) : FRoomPlayerItem where
  objectId := player.objectId.toInt64
  nickname := tchar player.nickname
  ready := player.ready
  team := roomTeam player.team

/-- The assignments one after the other: the players are reset, then added. -/
def updateCurrentRoom [TextDecoder] (info : RoomInfo) : GameInstance :=
  let room := game.currentRoom
  let room := { room with roomId := info.roomId.toInt64 }
  let room := { room with roomName := tchar info.roomName }
  let room := { room with currentPlayerCount := Int32.ofNat info.players.length }
  let room := { room with maxPlayerCount := info.maxPlayerCount.toInt32 }
  let room := { room with hostObjectId := info.hostObjectId.toInt64 }
  let room := { room with players := [] }
  { game with
    currentRoom := info.players.foldl
      (fun room player => { room with players := room.players ++ [roomPlayerItem player] }) room }

/-- `HandleCreateRoom` and `HandleEnterRoom`, which differ in their delegate. -/
def handleRoomResult [TextDecoder] (success : Bool) (roomInfo : Option RoomInfo)
    (result : Bool → Broadcast) : GameInstance :=
  match success, roomInfo with
  | true, some info => (game.updateCurrentRoom info).broadcast (result true)
  | _, _ => game.broadcast (result false)

def handleCreateRoom [TextDecoder] (pkt : SCreateRoom) : GameInstance :=
  game.handleRoomResult pkt.success pkt.roomInfo .onCreateRoomResult

def handleEnterRoom [TextDecoder] (pkt : SEnterRoom) : GameInstance :=
  game.handleRoomResult pkt.success pkt.roomInfo .onEnterRoomResult

def handleRoomState [TextDecoder] (pkt : SRoomState) : GameInstance :=
  match pkt.roomInfo with
  | none => game
  | some info => (game.updateCurrentRoom info).broadcast .onRoomStateUpdated

def handleLeaveRoom (pkt : SLeaveRoom) : GameInstance :=
  if pkt.success then
    { game with currentRoom := {} }.broadcast (.onLeaveRoomResult pkt.success)
  else game

/-- The name of a player in the match, if there is a valid actor for it. -/
def actorNickname (senderId : UInt64) : Except AccessFault FString :=
  match game.players.lookup senderId with
  | none => .ok []
  | some foundPlayer =>
    if game.engine.IsValid foundPlayer then (·.2.nickname) <$> game.engine.deref foundPlayer
    else .ok []

/-- The name of the first player in the room with that id. -/
def roomNickname (senderId : UInt64) : FString :=
  match game.currentRoom.players.find? (·.objectId.toUInt64 == senderId) with
  | none => []
  | some player => player.nickname

/-- One's own name, then one from the match, one from the room, one from the id. -/
def chatNickname (senderId : UInt64) : Except AccessFault FString := do
  let nickname := if senderId = game.localObjectId then game.localNickname else []
  let nickname ← (if nickname.isEmpty then game.actorNickname senderId else .ok nickname)
  let nickname := if nickname.isEmpty then game.roomNickname senderId else nickname
  return if nickname.isEmpty then textLiteral "Player_" ++ textLiteral (toString senderId.toNat) else nickname

def handleChat [TextDecoder] (pkt : SChat) : Except AccessFault GameInstance := do
  let nickname ← game.chatNickname pkt.playerId
  return game.broadcast (.onChatReceived (nickname ++ textLiteral ": " ++ tchar pkt.msg))

/-! ### The match as a whole -/

def handleMatchStart (pkt : SMatchStart) : GameInstance :=
  if game.matchId ≠ pkt.matchId then game else game.broadcast .onMatchStarted

def handleMatchState (pkt : SMatchState) : GameInstance :=
  if game.matchId ≠ pkt.matchState.matchId then game
  else
    { game with
      remainSeconds := pkt.matchState.remainingTimeSeconds
      redScore := pkt.matchState.redScore
      blueScore := pkt.matchState.blueScore }.broadcast .onMatchStateUpdated

/-- Unlike its two neighbours, `HandleMatchEnd` does not look at the match id. -/
def handleMatchEnd (pkt : SMatchEnd) : GameInstance :=
  if ¬ game.engine.world then game
  else
    let game := { game with
      redScore := pkt.result.redScore
      blueScore := pkt.result.blueScore
      remainSeconds := 0 }
    let winnerTeam := roomTeam pkt.result.winnerTeam
    let game := { game with engine := { game.engine with gamePaused := true } }
    (game.broadcast .onMatchStateUpdated).broadcast
      (.onMatchEnded winnerTeam game.redScore.toInt32 game.blueScore.toInt32)

def handleReturnRoom [TextDecoder] (pkt : SReturnToRoom) : GameInstance :=
  match pkt.roomInfo with
  | none => game
  | some info =>
    { game.updateCurrentRoom info with
      players := ∅
      myPlayer := none
      matchPlayerInfo := []
      matchPlayerState := ∅ }.openLevel "Lobby"

/-- `MatchPlayerState.Add`, once for each position of the two lists. -/
def pairStates (infos : List MatchPlayerInfo) (states : List MatchPlayerState) :
    AList (fun _ : UInt64 => MatchPlayerState) :=
  (infos.zip states).foldl (fun map (info, state) => map.insert info.playerInfo.objectId state) ∅

/-- The lists are compared after the match id, the clock and the scores have
been written and the rosters reset. -/
def handlePrepareMatch (pkt : SMatchPrepare) : GameInstance :=
  let game := { game with matchPlayerInfo := [], matchPlayerState := ∅ }
  let game := { game with
    matchId := pkt.matchInfo.matchId
    remainSeconds := pkt.matchInfo.durationSeconds
    redScore := pkt.matchInfo.redScore
    blueScore := pkt.matchInfo.blueScore }
  if pkt.matchInfo.matchPlayersInfo.length ≠ pkt.matchInfo.matchPlayersState.length then game
  else
    { game with
      matchPlayerInfo := pkt.matchInfo.matchPlayersInfo
      matchPlayerState := pairStates pkt.matchInfo.matchPlayersInfo pkt.matchInfo.matchPlayersState }

/-! ### Single players -/

def handleDespawn (objectId : UInt64) : Except AccessFault GameInstance :=
  if ¬ game.Connected then .ok game
  else if ¬ game.engine.world then .ok game
  else match game.players.lookup objectId with
    | none => .ok game
    | some findActor =>
      if ¬ game.engine.IsValid findActor then .ok game
      else do
        let (id, _) ← game.engine.deref findActor
        return game.modifyActor id (·.despawn)

def handleRespawn (playerInfo : PlayerInfo) : Except AccessFault GameInstance :=
  if ¬ game.Connected then .ok game
  else match game.players.lookup playerInfo.objectId with
    | none => .ok game
    | some findActor =>
      if ¬ game.engine.IsValid findActor then .ok game
      else do
        let (id, _) ← game.engine.deref findActor
        return game.modifyActor id (·.respawn playerInfo.moveInfo)

/-- The one handler that follows the pointer of an entry without `IsValid`. -/
def handleMove (movePkt : SMove) : Except AccessFault GameInstance :=
  if ¬ game.Connected then .ok game
  else if ¬ game.engine.world then .ok game
  else match game.players.lookup movePkt.playerInfo.objectId with
    | none => .ok game
    | some findActor => do
      let (id, player) ← game.engine.deref findActor
      if player.isMyPlayer then return game
      else return game.modifyActor id (·.setDestInfo movePkt.playerInfo.moveInfo)

/-- `SpawnActor<AActor>(BulletClass, ..)`: the bullet stays if it has a movement
component that moves something with collision, and is destroyed otherwise. -/
def spawnBullet (engine : Engine) (bulletClass : BulletClass) (bullet : Bullet) : Engine :=
  match engine.spawnResult with
  | (false, engine) => engine
  | (true, engine) =>
    if bulletClass.projectileMovement ∧ bulletClass.collisionComponent then
      { engine with bullets := engine.bullets ++ [bullet] }
    else engine

def handleFire (firePkt : SFire) : Except AccessFault GameInstance :=
  match game.engine.world, game.bulletClass with
  | true, some bulletClass =>
    match game.players.lookup firePkt.objectId with
    | none => .ok game
    | some foundPlayer =>
      if ¬ game.engine.IsValid foundPlayer then .ok game
      else do
        let (id, _) ← game.engine.deref foundPlayer
        let bullet : Bullet :=
          { owner := id
            instigator := id
            location := ⟨firePkt.spawnX, firePkt.spawnY, firePkt.spawnZ⟩
            direction := ⟨firePkt.directionX, firePkt.directionY, firePkt.directionZ⟩
            ignoredWhenMoving := [id] }
        return { game with engine := spawnBullet game.engine bulletClass bullet }
  | _, _ => .ok game

/-- The two overloads of `HandlePlayerState` have one body. -/
def handlePlayerState (objectId : UInt64) (playerState : MatchPlayerState) :
    Except AccessFault GameInstance :=
  match game.matchPlayerState.lookup objectId with
  | none => .ok game
  | some _ =>
    let game := { game with matchPlayerState := game.matchPlayerState.insert objectId playerState }
    match game.players.lookup objectId with
    | none => .ok game
    | some foundPlayer =>
      if ¬ game.engine.IsValid foundPlayer then .ok game
      else do
        let (id, _) ← game.engine.deref foundPlayer
        return (game.updateMatchState id playerState).broadcast
          (.onMatchPlayerScoreUpdated objectId.toInt64 playerState.killCount.toInt32
            playerState.deathCount.toInt32)

/-! ### Preparing the match -/

/-- What `HandleSpawn` does to the actor it has found or spawned. -/
def place (playerInfo : PlayerInfo) (id : ActorId) (nickname : FString) : GameInstance :=
  let game := game.modifyActor id fun player =>
    ((player.setNickname nickname).setMoveInfo playerInfo.moveInfo).setDestInfo playerInfo.moveInfo
  let game := match game.matchPlayerState.lookup playerInfo.objectId with
    | none => game
    | some state => game.updateMatchState id state
  { game with players := game.players.insert playerInfo.objectId (some id) }

/-- The local player is the pawn of the first controller, which has to be there;
the others are spawned. -/
def handleSpawn [TextDecoder] (playerInfo : PlayerInfo) : Except AccessFault GameInstance :=
  if ¬ game.Connected then .ok game
  else if game.localObjectId = playerInfo.objectId then
    match game.engine.playerController with
    | none => .error .playerController
    | some none => .ok game
    | some (some pawn) => do
      let (id, _) ← game.engine.deref (some pawn)
      return { game.place playerInfo id game.localNickname with myPlayer := some id }
  else if ¬ game.engine.gWorld then .error .world
  else
    match game.engine.spawnPlayer game.otherPlayerClass playerInfo.moveInfo.location with
    | (none, engine) => .ok { game with engine }
    | (some id, engine) => .ok ({ game with engine }.place playerInfo id (tchar playerInfo.nickname))

/-- `SEND_PACKET`, which asks neither for the world nor for its game instance. -/
def sendMacro [ProtoMessage M] (pkt : M) (pktId : UInt16) : Except AccessFault GameInstance :=
  if ¬ game.engine.Hosts then .error .gameInstance
  else match game.toUS1GameInstance.send pkt pktId with
    | none => .error .sendBuffer
    | some connection => .ok { game with toUS1GameInstance := connection }

def prepareMatch [TextDecoder] : Except AccessFault GameInstance := do
  let game := { game with players := ∅, myPlayer := none }
  let game ← game.matchPlayerInfo.foldlM (fun game info => game.handleSpawn info.playerInfo) game
  game.sendMacro ({} : CMatchPrepare) ClientPacket.matchPrepare.id

end GameInstance
end ArenaClient
