import ArenaClient.Game.Handlers
import Mathlib.Data.Rat.Defs

/-! `AS1MyPlayer`: what a frame of the local player does and when it tells the
server about it. Times and inputs are exact numbers; locations and angles are the
bits of the floats that go into the message. -/
namespace ArenaClient
open Protocol

structure FVector2D where
  x : ℚ := 0
  y : ℚ := 0
  deriving DecidableEq

/-- `FVector2D::Zero()`. -/
def FVector2D.zero : FVector2D := ⟨0, 0⟩

/-- `AS1Player::Tick`, less the part for players that are not one's own. -/
def AS1Player.tick (player : AS1Player) (controlYaw : UInt32) : AS1Player :=
  { player with
    playerInfo := { player.playerInfo with
      x := player.location.x, y := player.location.y, z := player.location.z, yaw := controlYaw } }

/-- `MOVE_PACKET_SEND_DELAY`. -/
def movePacketSendDelay : ℚ := 1 / 30

/-- The caches have no initializer and start as the zeroed memory of a UObject. -/
structure AS1MyPlayer extends AS1Player where
  movePacketSendTimer : ℚ := movePacketSendDelay
  desiredInput : FVector2D := {}
  lastDesiredInput : FVector2D := {}
  mine : isMyPlayer = true

namespace AS1MyPlayer

/-- A player as it comes out of the constructor, whatever its base class has set. -/
def construct (base : AS1Player) : AS1MyPlayer :=
  { base with isMyPlayer := true, mine := rfl }

variable (player : AS1MyPlayer)

theorem mine_setMoveState (state : MoveState) : (player.toAS1Player.setMoveState state).isMyPlayer = true := by
  rw [AS1Player.setMoveState_eq]
  exact player.mine

def setMoveState (state : MoveState) : AS1MyPlayer :=
  { player with toAS1Player := player.toAS1Player.setMoveState state, mine := player.mine_setMoveState state }

def setMoveInfo (info : MoveInfo) : AS1MyPlayer :=
  { player with toAS1Player := player.toAS1Player.setMoveInfo info, mine := player.mine }

def setDestInfo (info : MoveInfo) : AS1MyPlayer :=
  { player with destInfo := info }.setMoveState info.state

/-- The engine moves the actor. -/
def setActorLocation (location : FVector) : AS1MyPlayer := { player with location }

/-- `AS1MyPlayer::Move`; the direction it also caches is read by nobody. -/
def move (controller : Bool) (movementVector : FVector2D) : AS1MyPlayer :=
  if controller then { player with desiredInput := movementVector } else player

/-- `AS1MyPlayer::Tick`, with the messages it gives to `SEND_PACKET`. -/
def tick (deltaTime : ℚ) (controlYaw actorYaw : UInt32) : AS1MyPlayer × List CMove :=
  let player := { player with toAS1Player := player.toAS1Player.tick controlYaw, mine := player.mine }
  let forceSendPacket := player.lastDesiredInput ≠ player.desiredInput
  let player := if forceSendPacket then { player with lastDesiredInput := player.desiredInput } else player
  let player := player.setMoveState (if player.desiredInput = FVector2D.zero then .idle else .move)
  let player := { player with movePacketSendTimer := player.movePacketSendTimer - deltaTime }
  if player.movePacketSendTimer ≤ 0 ∨ forceSendPacket then
    ({ player with movePacketSendTimer := movePacketSendDelay },
      [{ moveInfo := { player.playerInfo with yaw := actorYaw } }])
  else (player, [])

/-- What happens to the local player between two frames and in one. -/
inductive Action where
  | tick (deltaTime : ℚ) (controlYaw actorYaw : UInt32)
  | move (controller : Bool) (movementVector : FVector2D)
  | setMoveInfo (info : MoveInfo)
  | setDestInfo (info : MoveInfo)
  | setActorLocation (location : FVector)

def perform : Action → AS1MyPlayer × List CMove
  | .tick deltaTime controlYaw actorYaw => player.tick deltaTime controlYaw actorYaw
  | .move controller movementVector => (player.move controller movementVector, [])
  | .setMoveInfo info => (player.setMoveInfo info, [])
  | .setDestInfo info => (player.setDestInfo info, [])
  | .setActorLocation location => (player.setActorLocation location, [])

/-! ### What a frame does -/

/-- The condition under which a frame sends. -/
def Due (deltaTime : ℚ) : Prop :=
  player.movePacketSendTimer - deltaTime ≤ 0 ∨ player.lastDesiredInput ≠ player.desiredInput

/-- What a frame reports. -/
def report (actorYaw : UInt32) : CMove where
  moveInfo :=
    { x := player.location.x
      y := player.location.y
      z := player.location.z
      yaw := actorYaw
      state := if player.desiredInput = FVector2D.zero then .idle else .move }

theorem report_state_iff (actorYaw : UInt32) :
    (player.report actorYaw).moveInfo.state = .idle ↔ player.desiredInput = FVector2D.zero := by
  rw [report]
  split <;> simp [*]

variable {player : AS1MyPlayer} {deltaTime : ℚ}

theorem desiredInput_tick (controlYaw actorYaw : UInt32) :
    (player.tick deltaTime controlYaw actorYaw).1.desiredInput = player.desiredInput := by
  rw [tick]
  dsimp only [setMoveState]
  split <;> split <;> rfl

theorem lastDesiredInput_tick (controlYaw actorYaw : UInt32) :
    (player.tick deltaTime controlYaw actorYaw).1.lastDesiredInput = player.desiredInput := by
  rw [tick]
  dsimp only [setMoveState]
  by_cases changed : player.lastDesiredInput ≠ player.desiredInput
  · simp [changed]
  · simp only [changed, if_false]
    split <;> exact not_not.mp changed

theorem tick_due (due : player.Due deltaTime) (controlYaw actorYaw : UInt32) :
    (player.tick deltaTime controlYaw actorYaw).2 = [player.report actorYaw] ∧
      (player.tick deltaTime controlYaw actorYaw).1.movePacketSendTimer = movePacketSendDelay := by
  rw [tick]
  by_cases changed : player.lastDesiredInput ≠ player.desiredInput
  · simp [changed, setMoveState, AS1Player.setMoveState_eq, report, AS1Player.tick]
  · have expired : player.movePacketSendTimer - deltaTime ≤ 0 := due.resolve_right changed
    simp [changed, expired, setMoveState, AS1Player.setMoveState_eq, report, AS1Player.tick]

theorem tick_not_due (quiet : ¬ player.Due deltaTime) (controlYaw actorYaw : UInt32) :
    (player.tick deltaTime controlYaw actorYaw).2 = [] ∧
      (player.tick deltaTime controlYaw actorYaw).1.movePacketSendTimer =
        player.movePacketSendTimer - deltaTime := by
  obtain ⟨early, same⟩ := not_or.mp quiet
  rw [tick]
  simp only [same, if_false, or_false, setMoveState, early, and_self]

end AS1MyPlayer
end ArenaClient
