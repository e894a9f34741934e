import ArenaClient.Game.HandlersProofs
import ArenaClient.Game.MyPlayer
import Mathlib.Tactic.Linarith

/-! How often the local player reports to the server. The countdown is what is
left of the delay after the time since the last report, and the input cache is
the input at the frame before. -/
namespace ArenaClient.AS1MyPlayer
open Transition Protocol

/-- What has happened and what was sent at it, latest first. -/
abbrev History := List (Action × List CMove)

/-- The input that the last `Move` of a controlled player has cached. -/
def cachedInput : History → FVector2D
  | [] => FVector2D.zero
  | (.move true movementVector, _) :: _ => movementVector
  | _ :: earlier => cachedInput earlier

/-- The cached input at the frame before, zero before the first one. -/
def inputAtLastTick : History → FVector2D
  | [] => FVector2D.zero
  | (.tick _ _ _, _) :: earlier => cachedInput earlier
  | _ :: earlier => inputAtLastTick earlier

/-- The time that frames have taken since the last one that sent. -/
def sinceLastSend : History → ℚ
  | [] => 0
  | (.tick deltaTime _ _, []) :: earlier => sinceLastSend earlier + deltaTime
  | (_, []) :: earlier => sinceLastSend earlier
  | (_, _ :: _) :: _ => 0

/-- What a frame owes, given what has happened before it, where the actor is and
how long the frame took. -/
structure Paced (history : History) (location : FVector) (deltaTime : ℚ) (sent : List CMove) : Prop where
  onInput : cachedInput history ≠ inputAtLastTick history → sent.length = 1
  single : sent.length ≤ 1
  location : ∀ pkt ∈ sent, pkt.moveInfo.location = location
  state : ∀ pkt ∈ sent, pkt.moveInfo.state = .idle ↔ cachedInput history = FVector2D.zero
  spaced : sent ≠ [] → cachedInput history = inputAtLastTick history →
    movePacketSendDelay ≤ sinceLastSend history + deltaTime
  prompt : sent = [] → sinceLastSend history + deltaTime < movePacketSendDelay

/-- One call, and the messages it sends. -/
def Step (player : AS1MyPlayer) (call : Action × List CMove) (next : AS1MyPlayer) : Prop :=
  player.perform call.1 = (next, call.2)

/-- Runs from the constructor, with everything that has happened. -/
def Reached (recorded : Recorded AS1MyPlayer (Action × List CMove)) : Prop :=
  ∃ base, Reachable (Recording Step fun _ _ => True) { state := construct base } recorded

/-- How the fields of the player follow from what has happened. -/
structure Tracks (player : AS1MyPlayer) (history : History) : Prop where
  cached : player.desiredInput = cachedInput history
  last : player.lastDesiredInput = inputAtLastTick history
  timer : player.movePacketSendTimer = movePacketSendDelay - sinceLastSend history

theorem tracks_construct (base : AS1Player) : (construct base).Tracks [] := ⟨rfl, rfl, (sub_zero _).symm⟩

variable {player next : AS1MyPlayer} {history : History} {call : Action × List CMove}
  {deltaTime : ℚ} {controlYaw actorYaw : UInt32}

theorem Tracks.tick (tracks : player.Tracks history) :
    (player.tick deltaTime controlYaw actorYaw).1.Tracks
      ((.tick deltaTime controlYaw actorYaw, (player.tick deltaTime controlYaw actorYaw).2) :: history) where
  cached := (desiredInput_tick _ _).trans tracks.cached
  last := (lastDesiredInput_tick _ _).trans tracks.cached
  timer := by
    by_cases due : player.Due deltaTime
    · obtain ⟨sent, timer⟩ := tick_due due controlYaw actorYaw
      rw [timer, sent, sinceLastSend, sub_zero]
    · obtain ⟨sent, timer⟩ := tick_not_due due controlYaw actorYaw
      rw [timer, sent, sinceLastSend, tracks.timer]
      ring

theorem Tracks.move (tracks : player.Tracks history) (controller : Bool) (movementVector : FVector2D) :
    (player.move controller movementVector).Tracks ((.move controller movementVector, []) :: history) := by
  cases controller with
  | false => exact ⟨tracks.cached, tracks.last, tracks.timer⟩
  | true => exact ⟨rfl, tracks.last, tracks.timer⟩

theorem Tracks.step (tracks : player.Tracks history) (taken : Step player call next) :
    next.Tracks (call :: history) := by
  obtain ⟨action, sent⟩ := call
  have performed : player.perform action = (next, sent) := taken
  obtain ⟨rfl, rfl⟩ : next = (player.perform action).1 ∧ sent = (player.perform action).2 := by
    rw [performed]
    exact ⟨rfl, rfl⟩
  cases action with
  | tick deltaTime controlYaw actorYaw => exact tracks.tick
  | move controller movementVector => exact tracks.move controller movementVector
  | setMoveInfo | setDestInfo | setActorLocation => exact ⟨tracks.cached, tracks.last, tracks.timer⟩

theorem Reached.tracks {recorded : Recorded AS1MyPlayer (Action × List CMove)} (reached : Reached recorded) :
    recorded.state.Tracks recorded.history := by
  obtain ⟨base, reached⟩ := reached
  refine reached.invariant (P := fun recorded => recorded.state.Tracks recorded.history) ?_
    (tracks_construct base)
  rintro before call after tracks ⟨taken, ⟨_, grown⟩ | ⟨ignored, _⟩⟩
  · rw [grown]
    exact tracks.step taken
  · exact absurd trivial ignored

theorem Tracks.paced (tracks : player.Tracks history) (deltaTime : ℚ) (controlYaw actorYaw : UInt32) :
    Paced history player.location deltaTime (player.tick deltaTime controlYaw actorYaw).2 := by
  have input : player.lastDesiredInput ≠ player.desiredInput ↔ cachedInput history ≠ inputAtLastTick history := by
    rw [tracks.cached, tracks.last, ne_comm]
  have countdown : player.movePacketSendTimer - deltaTime ≤ 0 ↔
      movePacketSendDelay ≤ sinceLastSend history + deltaTime := by
    rw [tracks.timer, sub_sub, sub_nonpos]
  by_cases due : player.Due deltaTime
  · rw [(tick_due due controlYaw actorYaw).1]
    constructor
    · exact fun _ => rfl
    · exact Nat.le_refl 1
    · intro pkt sent
      rw [List.mem_singleton.mp sent]
      rfl
    · intro pkt sent
      rw [List.mem_singleton.mp sent, report_state_iff, tracks.cached]
    · intro _ unchanged
      exact countdown.mp (due.resolve_right fun changed => input.mp changed unchanged)
    · exact fun none => absurd none (List.cons_ne_nil _ _)
  · obtain ⟨early, same⟩ := not_or.mp due
    rw [(tick_not_due due controlYaw actorYaw).1]
    constructor
    · exact fun changed => absurd (input.mpr changed) same
    · exact Nat.zero_le 1
    · exact fun pkt sent => absurd sent List.not_mem_nil
    · exact fun pkt sent => absurd sent List.not_mem_nil
    · exact fun sent => absurd rfl sent
    · exact fun _ => lt_of_not_ge (mt countdown.mpr early)

/-- In every run from the constructor every frame sends what it owes, however
long it takes and whatever has moved or respawned the player in between. -/
theorem move_packets_paced (recorded : Recorded AS1MyPlayer (Action × List CMove)) (reached : Reached recorded)
    (deltaTime : ℚ) (controlYaw actorYaw : UInt32) :
    Paced recorded.history recorded.state.location deltaTime
      (recorded.state.tick deltaTime controlYaw actorYaw).2 :=
  reached.tracks.paced deltaTime controlYaw actorYaw

theorem first_input_sends : (((construct {}).move true ⟨1, 0⟩).tick (1 / 60) 0 0).2.length = 1 := by
  have moved : Recording Step (fun _ _ => True) { state := construct {} } (.move true ⟨1, 0⟩, [])
      { state := (construct {}).move true ⟨1, 0⟩, history := [(.move true ⟨1, 0⟩, [])] } :=
    ⟨rfl, .inl ⟨trivial, rfl⟩⟩
  have reached : Reached _ := ⟨{}, (Reachable.refl _).next moved⟩
  exact (move_packets_paced _ reached (1 / 60) 0 0).onInput (by decide)

end ArenaClient.AS1MyPlayer
