import ArenaClient.Game.Actors
import Mathlib.Data.List.AList

/-! The rest of `US1GameInstance`: what the handlers of server packets keep and
what they broadcast. The maps are association lists with one entry a key. -/
namespace ArenaClient
open Protocol

/-- The engine's conversion of UTF-8 bytes to `TCHAR`s. -/
class TextDecoder where
  utf8ToTchar : List UInt8 → FString

/-- `UTF8_TO_TCHAR(text.c_str())`: a C string ends at the first NUL. -/
def tchar [TextDecoder] (text : List UInt8) : FString :=
  TextDecoder.utf8ToTchar (text.takeWhile (· ≠ 0))

inductive ERoomTeam where
  | none | red | blue
  deriving DecidableEq, Repr

structure FRoomPlayerItem where
  objectId : Int64 := 0
  nickname : FString := []
  team : ERoomTeam := .none
  ready : Bool := false
  deriving DecidableEq, Repr

structure FRoomListItem where
  roomId : Int64 := 0
  roomName : FString := []
  currentPlayerCount : Int32 := 0
  maxPlayerCount : Int32 := 0
  hostObjectId : Int64 := 0
  deriving DecidableEq, Repr

structure FCurrentRoomState where
  roomId : Int64 := 0
  roomName : FString := []
  currentPlayerCount : Int32 := 0
  maxPlayerCount : Int32 := 0
  hostObjectId : Int64 := 0
  players : List FRoomPlayerItem := []
  deriving DecidableEq, Repr

/-- A broadcast of one of the delegates. -/
inductive Broadcast where
  | onLoginFailed (message : String)
  | onRegisterResult (success : Bool) (message : String)
  | onRoomListUpdated
  | onCreateRoomResult (success : Bool)
  | onEnterRoomResult (success : Bool)
  | onRoomStateUpdated
  | onLeaveRoomResult (success : Bool)
  | onMatchStateUpdated
  | onMatchStarted
  | onMatchPlayerScoreUpdated (objectId : Int64) (killCount deathCount : Int32)
  | onMatchEnded (winnerTeam : ERoomTeam) (finalRedScore finalBlueScore : Int32)
  | onChatReceived (formattedMessage : FString)
  /-- The one delegate that belongs to an actor. -/
  | onPlayerStateUpdated (actor : ActorId) (playerState : FMatchPlayerStateData)
  deriving DecidableEq, Repr

/-- All of `US1GameInstance`, with the engine it runs in. The numbers of the
match have no initializer and start as the zeroed memory of a UObject. -/
structure GameInstance extends US1GameInstance where
  engine : Engine := {}
  /-- What packet handlers and `PrepareMatch` have broadcast, in order. What
  `RequestLogin` tells `OnLoginFailed` is only in `onLoginFailed`. -/
  broadcasts : List Broadcast := []
  lobbyRooms : List FRoomListItem := []
  currentRoom : FCurrentRoomState := {}
  bIsRoomHost : Bool := false
  bulletClass : Option BulletClass := none
  matchId : UInt64 := 0
  remainSeconds : UInt32 := 0
  redScore : UInt32 := 0
  blueScore : UInt32 := 0
  matchPlayerInfo : List MatchPlayerInfo := []
  matchPlayerState : AList (fun _ : UInt64 => MatchPlayerState) := ∅
  /-- The default object of the class, if one is set. -/
  otherPlayerClass : Option AS1Player := none
  myPlayer : ActorPtr := none
  players : AList (fun _ : UInt64 => ActorPtr) := ∅
  localObjectId : UInt64 := 0
  localAccountId : UInt64 := 0
  localNickname : FString := []

namespace GameInstance
variable (game : GameInstance)

/-- Nothing received yet, whatever the engine, the connection and the assets are. -/
def initial (connection : US1GameInstance) (engine : Engine) (bulletClass : Option BulletClass)
    (otherPlayerClass : Option AS1Player) : GameInstance :=
  { toUS1GameInstance := connection, engine, bulletClass, otherPlayerClass }

def broadcast (event : Broadcast) : GameInstance :=
  { game with broadcasts := game.broadcasts ++ [event] }

def openLevel (level : String) : GameInstance := { game with engine := game.engine.openLevel level }

def modifyActor (id : ActorId) (update : AS1Player → AS1Player) : GameInstance :=
  { game with engine := game.engine.modifyActor id update }

/-- `AS1Player::UpdateMatchState` on an actor, with its broadcast. -/
def updateMatchState (id : ActorId) (state : MatchPlayerState) : GameInstance :=
  (game.modifyActor id (·.updateMatchState state)).broadcast (.onPlayerStateUpdated id state.data)

def getRemainSeconds : Int32 := game.remainSeconds.toInt32

def getRedScore : Int32 := game.redScore.toInt32

def getBlueScore : Int32 := game.blueScore.toInt32

end GameInstance
end ArenaClient
