import ArenaClient.Base.ObjectStore
import ArenaClient.Game.ServerMessages
import ArenaClient.Session.GameInstance

/-! `AS1Player` and the part of the engine that the handlers of server packets
use: the world, its actors, and the requests the engine carries out later. -/
namespace ArenaClient
open Protocol

/-- `FVector`, by the bits of the floats it is made from. -/
structure FVector where
  x : UInt32 := 0
  y : UInt32 := 0
  z : UInt32 := 0
  deriving DecidableEq, Repr

def Protocol.MoveInfo.location (info : MoveInfo) : FVector := ⟨info.x, info.y, info.z⟩

inductive EMovementMode where
  | none | walking
  | other (value : UInt8)
  deriving DecidableEq, Repr

structure UCharacterMovementComponent where
  movementMode : EMovementMode := .walking
  velocity : FVector := {}
  deriving DecidableEq, Repr

namespace UCharacterMovementComponent
variable (movement : UCharacterMovementComponent)

def stopMovementImmediately : UCharacterMovementComponent := { movement with velocity := {} }

def setMovementMode (mode : EMovementMode) : UCharacterMovementComponent :=
  { movement with movementMode := mode }

def disableMovement : UCharacterMovementComponent := movement.setMovementMode .none

end UCharacterMovementComponent

structure FMatchPlayerStateData where
  hp : Int32 := 100
  maxHp : Int32 := 100
  bIsAlive : Bool := true
  killCount : Int32 := 0
  deathCount : Int32 := 0
  deriving DecidableEq, Repr

structure AS1Player where
  nickname : FString := []
  playerState : FMatchPlayerStateData := {}
  playerInfo : MoveInfo := {}
  destInfo : MoveInfo := {}
  location : FVector := {}
  hiddenInGame : Bool := false
  enableCollision : Bool := true
  tickEnabled : Bool := true
  characterMovement : Option UCharacterMovementComponent := some {}
  /-- `Cast<APlayerController>(GetController())` is not null. -/
  playerController : Bool := false
  inputEnabled : Bool := true
  /-- `Cast<AS1MyPlayer>(this)` is not null. -/
  isMyPlayer : Bool := false
  deriving DecidableEq, Repr

/-- The fields that `AS1Player::UpdateMatchState` copies; counts become int32. -/
def Protocol.MatchPlayerState.data (state : MatchPlayerState) : FMatchPlayerStateData where
  hp := state.hp
  maxHp := state.maxHp
  bIsAlive := state.isAlive
  killCount := state.killCount.toInt32
  deathCount := state.deathCount.toInt32

namespace AS1Player
variable (player : AS1Player)

def setNickname (nickname : FString) : AS1Player := { player with nickname }

def setMoveState (state : MoveState) : AS1Player :=
  if player.playerInfo.state = state then player
  else { player with playerInfo := { player.playerInfo with state } }

/-- `UpdateMatchState`, less its broadcast. -/
def updateMatchState (state : MatchPlayerState) : AS1Player :=
  { player with playerState := state.data }

def setMoveInfo (info : MoveInfo) : AS1Player :=
  { player with playerInfo := info, location := info.location }

def setDestInfo (info : MoveInfo) : AS1Player :=
  { player with destInfo := info }.setMoveState info.state

def setInput (enabled : Bool) : AS1Player :=
  if player.isMyPlayer ∧ player.playerController then { player with inputEnabled := enabled }
  else player

/-- The body of `HandleDespawn` behind its guards. -/
def despawn : AS1Player :=
  let player := { player with hiddenInGame := true, enableCollision := false, tickEnabled := false }
  let movement := player.characterMovement.map fun movement =>
    movement.stopMovementImmediately.disableMovement
  { player with characterMovement := movement }.setInput false

/-- The body of `HandleRespawn` behind its guards. -/
def respawn (info : MoveInfo) : AS1Player :=
  let player := { player with hiddenInGame := false, enableCollision := true, tickEnabled := true }
  let movement := player.characterMovement.map fun movement =>
    movement.stopMovementImmediately.setMovementMode .walking
  let player := { player with characterMovement := movement }.setMoveInfo info
  (player.setDestInfo info).setInput true

theorem setMoveState_eq (state : MoveState) :
    player.setMoveState state = { player with playerInfo := { player.playerInfo with state } } := by
  rw [setMoveState]
  split
  · rename_i same
    rw [← same]
  · rfl

theorem setInput_eq (enabled : Bool) :
    player.setInput enabled = { player with
      inputEnabled := if player.isMyPlayer ∧ player.playerController then enabled else player.inputEnabled } := by
  rw [setInput]
  split <;> rfl

@[simp] theorem playerState_setMoveState (state : MoveState) :
    (player.setMoveState state).playerState = player.playerState := by
  rw [setMoveState_eq]

@[simp] theorem playerState_setDestInfo (info : MoveInfo) :
    (player.setDestInfo info).playerState = player.playerState := playerState_setMoveState _ _

end AS1Player

/-! ### The engine -/

abbrev ActorId := Nat

/-- `AS1Player*`. -/
abbrev ActorPtr := Option ActorId

/-- What code may not do: follow a pointer to nothing, or write past a buffer. -/
inductive AccessFault where
  | actor (pointer : ActorPtr)
  | playerController
  | world
  | gameInstance
  | sendBuffer
  deriving DecidableEq, Repr

/-- A `TSubclassOf<AActor>` for bullets: the components its actors come with. -/
structure BulletClass where
  projectileMovement : Bool := true
  collisionComponent : Bool := true
  deriving DecidableEq, Repr

structure Bullet where
  owner : ActorId
  instigator : ActorId
  location : FVector
  /-- The rotation of the bullet is that of this direction. -/
  direction : FVector
  ignoredWhenMoving : List ActorId := []
  deriving DecidableEq, Repr

structure Engine where
  /-- `GWorld != nullptr`. -/
  gWorld : Bool := true
  /-- `Cast<US1GameInstance>(GWorld->GetGameInstance()) != nullptr`. -/
  gameInstance : Bool := true
  /-- `GetWorld() != nullptr`. -/
  world : Bool := true
  actors : ObjectStore AS1Player := .empty
  /-- `GetPlayerController(this, 0)`, null or with the `AS1Player` that is its pawn. -/
  playerController : Option ActorPtr := none
  /-- Whether the next calls of `SpawnActor` succeed; all do once the list is used up. -/
  spawnResults : List Bool := []
  bullets : List Bullet := []
  /-- The levels that `OpenLevel` has been asked for; travel comes later. -/
  openedLevels : List String := []
  gamePaused : Bool := false

namespace Engine
variable (engine : Engine)

/-- What `Handle_S_*` checks before it calls the game instance. -/
def Hosts : Prop := engine.gWorld ∧ engine.gameInstance

instance : Decidable engine.Hosts := inferInstanceAs (Decidable (_ ∧ _))

/-- `IsValid`. -/
def IsValid (pointer : ActorPtr) : Prop := engine.actors.Valid pointer

instance (pointer : ActorPtr) : Decidable (engine.IsValid pointer) :=
  inferInstanceAs (Decidable (ObjectStore.Valid _ _))

/-- `->` on an actor. -/
def deref (pointer : ActorPtr) : Except AccessFault (ActorId × AS1Player) :=
  match pointer with
  | none => .error (.actor none)
  | some id =>
    match engine.actors.object id with
    | none => .error (.actor (some id))
    | some player => .ok (id, player)

def modifyActor (id : ActorId) (update : AS1Player → AS1Player) : Engine :=
  { engine with actors := engine.actors.modify id update }

/-- One result of `SpawnActor`. -/
def spawnResult : Bool × Engine :=
  match engine.spawnResults with
  | [] => (true, engine)
  | result :: spawnResults => (result, { engine with spawnResults })

/-- `SpawnActor` of a player class, given by its default object. -/
def spawnPlayer (playerClass : Option AS1Player) (location : FVector) : ActorPtr × Engine :=
  match playerClass with
  | none => (none, engine)
  | some player =>
    match engine.spawnResult with
    | (false, engine) => (none, engine)
    | (true, engine) =>
      (some engine.actors.next, { engine with actors := engine.actors.allocate { player with location } })

def openLevel (level : String) : Engine := { engine with openedLevels := engine.openedLevels ++ [level] }

theorem deref_valid {engine : Engine} {pointer : ActorPtr} (valid : engine.IsValid pointer) :
    ∃ id player, pointer = some id ∧ engine.actors.object id = some player ∧
      engine.deref pointer = .ok (id, player) := by
  obtain ⟨id, player, rfl, found⟩ := valid.exists
  refine ⟨id, player, rfl, found, ?_⟩
  simp only [deref, found]

theorem deref_ok {engine : Engine} {pointer id : ActorId} {player : AS1Player}
    (reached : engine.deref (some pointer) = .ok (id, player)) :
    pointer = id ∧ engine.actors.object id = some player := by
  simp only [deref] at reached
  split at reached
  · contradiction
  · rename_i found
    obtain ⟨rfl, rfl⟩ := Prod.mk.inj (Except.ok.inj reached)
    exact ⟨rfl, found⟩

theorem deref_invalid {engine : Engine} {pointer : ActorPtr} (invalid : ¬ engine.IsValid pointer) :
    engine.deref pointer = .error (.actor pointer) := by
  cases pointer with
  | none => rfl
  | some id =>
    have gone : engine.actors.object id = none :=
      Option.eq_none_iff_forall_ne_some.mpr fun player found =>
        invalid (ObjectStore.valid_some.mpr ⟨player, found⟩)
    simp only [deref, gone]

end Engine
end ArenaClient
