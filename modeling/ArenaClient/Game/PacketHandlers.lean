import ArenaClient.Game.Handlers
import ArenaClient.Network.ServerPacketHandler

/-! `ServerPacketHandler.cpp`: the functions in the handler table, which look up
the game instance and hand the message on. Some of them change the host flag or
open a level themselves. -/
namespace ArenaClient
open Protocol

namespace ServerPacketHandler
variable (game : GameInstance)

/-- The frame of the `Handle_S_*`. Without a world all return false; without a
game instance some return false and others, written with one `if`, true. -/
def withGameInstance (missing : Bool) (body : Except AccessFault GameInstance) :
    Except AccessFault (Bool × GameInstance) :=
  if ¬ game.engine.gWorld then .ok (false, game)
  else if ¬ game.engine.gameInstance then .ok (missing, game)
  else (true, ·) <$> body

/-- `GetLocalObjectId() != 0 && GetLocalObjectId() == host_object_id()`. -/
def isRoomHost (localObjectId hostObjectId : UInt64) : Bool :=
  localObjectId != 0 && localObjectId == hostObjectId

def setRoomHost (success : Bool) (roomInfo : Option RoomInfo) : GameInstance :=
  match success, roomInfo with
  | true, some info => { game with bIsRoomHost := isRoomHost game.localObjectId info.hostObjectId }
  | _, _ => game

def handleSLogin [TextDecoder] (pkt : SLogin) : Except AccessFault (Bool × GameInstance) :=
  withGameInstance game false <| .ok (game.handleLogin pkt)

def handleSRegister (pkt : SRegister) : Except AccessFault (Bool × GameInstance) :=
  withGameInstance game false <| .ok (game.handleRegister pkt)

def handleSRoomList [TextDecoder] (pkt : SRoomList) : Except AccessFault (Bool × GameInstance) :=
  withGameInstance game false <| .ok (game.handleRoomList pkt)

def handleSCreateRoom [TextDecoder] (pkt : SCreateRoom) : Except AccessFault (Bool × GameInstance) :=
  withGameInstance game false <|
    .ok ((setRoomHost game pkt.success pkt.roomInfo).handleCreateRoom pkt)

def handleSEnterRoom [TextDecoder] (pkt : SEnterRoom) : Except AccessFault (Bool × GameInstance) :=
  withGameInstance game false <|
    .ok ((setRoomHost game pkt.success pkt.roomInfo).handleEnterRoom pkt)

def handleSLeaveRoom (pkt : SLeaveRoom) : Except AccessFault (Bool × GameInstance) :=
  withGameInstance game false <|
    .ok ((if pkt.success then { game with bIsRoomHost := false } else game).handleLeaveRoom pkt)

def handleSRoomState [TextDecoder] (pkt : SRoomState) : Except AccessFault (Bool × GameInstance) :=
  withGameInstance game false <| .ok ((setRoomHost game true pkt.roomInfo).handleRoomState pkt)

/-- The level is opened whatever `HandlePrepareMatch` made of the packet. -/
def handleSMatchPrepare (pkt : SMatchPrepare) : Except AccessFault (Bool × GameInstance) :=
  withGameInstance game false <| .ok ((game.handlePrepareMatch pkt).openLevel "GameMap")

def handleSMatchStart (pkt : SMatchStart) : Except AccessFault (Bool × GameInstance) :=
  withGameInstance game false <| .ok (game.handleMatchStart pkt)

def handleSMatchState (pkt : SMatchState) : Except AccessFault (Bool × GameInstance) :=
  withGameInstance game false <| .ok (game.handleMatchState pkt)

def handleSPlayerState (pkt : SPlayerState) : Except AccessFault (Bool × GameInstance) :=
  withGameInstance game false <| game.handlePlayerState pkt.objectId pkt.playerState

def handleSPlayerRespawn (pkt : SPlayerRespawn) : Except AccessFault (Bool × GameInstance) :=
  withGameInstance game true do
    let game ← game.handleRespawn pkt.playerInfo
    game.handlePlayerState pkt.playerInfo.objectId pkt.playerState

def handleSMove (pkt : SMove) : Except AccessFault (Bool × GameInstance) :=
  withGameInstance game true <| game.handleMove pkt

def handleSFire (pkt : SFire) : Except AccessFault (Bool × GameInstance) :=
  withGameInstance game true <| game.handleFire pkt

def handleSPlayerDespawn (pkt : SPlayerDespawn) : Except AccessFault (Bool × GameInstance) :=
  withGameInstance game true <| game.handleDespawn pkt.objectId

def handleSMatchEnd (pkt : SMatchEnd) : Except AccessFault (Bool × GameInstance) :=
  withGameInstance game true <| .ok (game.handleMatchEnd pkt)

def handleSReturnToRoom [TextDecoder] (pkt : SReturnToRoom) :
    Except AccessFault (Bool × GameInstance) :=
  withGameInstance game true <| .ok (game.handleReturnRoom pkt)

def handleSChat [TextDecoder] (pkt : SChat) : Except AccessFault (Bool × GameInstance) :=
  withGameInstance game true <| game.handleChat pkt

/-- The handler of a parsed message. -/
def handleMessage [TextDecoder] : ServerMessage → Except AccessFault (Bool × GameInstance)
  | .login pkt => handleSLogin game pkt
  | .register pkt => handleSRegister game pkt
  | .roomList pkt => handleSRoomList game pkt
  | .createRoom pkt => handleSCreateRoom game pkt
  | .enterRoom pkt => handleSEnterRoom game pkt
  | .leaveRoom pkt => handleSLeaveRoom game pkt
  | .roomState pkt => handleSRoomState game pkt
  | .matchPrepare pkt => handleSMatchPrepare game pkt
  | .matchStart pkt => handleSMatchStart game pkt
  | .matchState pkt => handleSMatchState game pkt
  | .playerState pkt => handleSPlayerState game pkt
  | .playerRespawn pkt => handleSPlayerRespawn game pkt
  | .move pkt => handleSMove game pkt
  | .fire pkt => handleSFire game pkt
  | .playerDespawn pkt => handleSPlayerDespawn game pkt
  | .matchEnd pkt => handleSMatchEnd game pkt
  | .returnToRoom pkt => handleSReturnToRoom game pkt
  | .chat pkt => handleSChat game pkt

/-- The generated `ParseFromArray`s, whose message is of the type asked for. -/
structure Parser where
  parseFromArray : ServerPacket → List UInt8 → Int → Option ServerMessage
  type_of_parse : ∀ {type bytes size msg}, parseFromArray type bytes size = some msg → msg.type = type

/-- The handlers in the table. After a fault there is no state to go on from. -/
def gameHandlers [TextDecoder] (parser : Parser) :
    MessageHandlers ServerMessage (Except AccessFault GameInstance) where
  parseFromArray := parser.parseFromArray
  handle _ msg state :=
    match state.bind (handleMessage · msg) with
    | .ok (handled, game) => (handled, .ok game)
    | .error fault => (false, .error fault)

end ServerPacketHandler
end ArenaClient
