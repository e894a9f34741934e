import ArenaClient.Game.DisplayProofs
import ArenaClient.Game.MatchClock

/-! The state that a player shows is the one received last, whether it came
before or after the level asked for the players. -/
namespace ArenaClient
open Protocol ServerPacketHandler Transition

/-! ### What was received last -/

/-- The level has asked for the players since they were announced. -/
def prepared : List GameInstance.Action → Bool
  | [] => false
  | .prepareMatch :: _ => true
  | .packet (.matchPrepare _) :: _ => false
  | _ :: earlier => prepared earlier

namespace Play
variable [TextDecoder] {before play next : Play} {pkt : SMatchPrepare} {action : GameInstance.Action}

omit [TextDecoder] in
/-- Nobody is announced, sent back or logged in, the level asks for the players
when they can be spawned, and the engine leaves the actors of players alone. -/
def Undisturbed (play : Play) : GameInstance.Action → Prop
  | .packet msg => ¬ GameInstance.Redefines msg
  | .prepareMatch => ∃ pawn, play.state.CanSpawn pawn
  | .engine engine => prepared play.history → ∀ objectId actor player,
    play.state.players.lookup objectId = some (some actor) →
    play.state.engine.actors.object actor = some player →
    ∃ later, engine.actors.object actor = some later ∧ later.playerState = player.playerState
  | .connection _ => True

omit [TextDecoder] in
def duel : SMatchPrepare :=
  { matchInfo :=
      { matchPlayersInfo := [{ playerInfo := { objectId := 7 } }, { playerInfo := { objectId := 8 } }]
        matchPlayersState := [{ hp := 100 }, { hp := 100 }] } }

end Play
end ArenaClient
