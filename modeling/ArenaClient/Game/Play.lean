import ArenaClient.Base.History
import ArenaClient.Game.PacketHandlers

/-! Everything that happens to the game instance on the game thread, one call at
a time: packets, `PrepareMatch`, and between them whatever the engine does to
its world and the requests do to the connection. -/
namespace ArenaClient
open Transition

namespace GameInstance

inductive Action where
  | packet (msg : ServerMessage)
  | prepareMatch
  /-- Travel, garbage collection, ticks: the engine as it is at the next call. -/
  | engine (next : Engine)
  | connection (next : US1GameInstance)

variable [TextDecoder]

def perform (game : GameInstance) : Action → Except AccessFault GameInstance
  | .packet msg => Prod.snd <$> ServerPacketHandler.handleMessage game msg
  | .prepareMatch => game.prepareMatch
  | .engine next => .ok { game with engine := next }
  | .connection next => .ok { game with toUS1GameInstance := next }

/-- A call that returns. -/
def Step (game : GameInstance) (action : Action) (next : GameInstance) : Prop :=
  game.perform action = .ok next

omit [TextDecoder] in
/-- A packet that arrives while the game instance cannot be found is lost. -/
def Handles (game : GameInstance) : Action → Prop
  | .packet _ => game.engine.Hosts
  | _ => True

omit [TextDecoder] in
instance (game : GameInstance) : (action : Action) → Decidable (game.Handles action)
  | .packet _ => inferInstanceAs (Decidable game.engine.Hosts)
  | .prepareMatch | .engine _ | .connection _ => .isTrue trivial

end GameInstance

/-- A game instance with what it has handled so far, latest first. -/
abbrev Play := Recorded GameInstance GameInstance.Action

namespace Play
variable [TextDecoder]

abbrev Step : Play → GameInstance.Action → Play → Prop :=
  Recording GameInstance.Step GameInstance.Handles

/-- The same as a function. -/
def perform (play : Play) (action : GameInstance.Action) : Except AccessFault Play := do
  let game ← play.state.perform action
  let history := if play.state.Handles action then action :: play.history else play.history
  return { state := game, history }

theorem step_of_perform {play next : Play} {action : GameInstance.Action}
    (performed : play.perform action = .ok next) : Step play action next := by
  rw [perform] at performed
  obtain ⟨game, taken, recorded⟩ := bind_ok performed
  obtain rfl := Except.ok.inj recorded
  refine ⟨taken, ?_⟩
  by_cases handled : play.state.Handles action
  · exact .inl ⟨handled, if_pos handled⟩
  · exact .inr ⟨handled, if_neg handled⟩

/-- The states that a client gets into, whatever the engine, the connection and
the assets are at the start. -/
def Reached (play : Play) : Prop :=
  ∃ connection engine bulletClass otherPlayerClass,
    Reachable Step
      { state := GameInstance.initial connection engine bulletClass otherPlayerClass } play

/-- The first state, with a class to spawn and the rest at its default. -/
def start : Play := { state := GameInstance.initial {} {} none (some {}) }

/-- Where calls lead from there; back to the start if one of them faults. -/
def after (actions : List GameInstance.Action) : Play :=
  match actions.foldlM perform start with
  | .ok play => play
  | .error _ => start

theorem reached_after (actions : List GameInstance.Action) : (after actions).Reached := by
  refine ⟨{}, {}, none, some {}, ?_⟩
  rw [after]
  split
  · rename_i play ran
    exact (Reachable.of_foldlM ran).mono fun _ _ _ => step_of_perform
  · exact .refl _

end Play

/-- A decoder for text in ASCII. -/
@[reducible] def asciiDecoder : TextDecoder := ⟨fun bytes => bytes.map UInt8.toUInt16⟩

end ArenaClient
