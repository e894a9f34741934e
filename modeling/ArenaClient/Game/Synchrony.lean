import ArenaClient.Game.ServerView
import ArenaClient.Game.TwoThreads

/-! From what the server has sent to what the client knows of it. The worker and
the game thread take turns in any order; the view of the game instance is the one
of the messages handled so far, which are the first that were sent. -/
namespace ArenaClient
open Transition ServerPacketHandler RecvWorker

variable [TextDecoder]

/-- The view after some messages, one after the other. -/
def ServerView.after (view : ServerView) (msgs : List ServerMessage) : ServerView :=
  msgs.foldl (fun view msg => view.receive msg) view

namespace GameInstance
variable {game next : GameInstance} {action : Action}

end GameInstance

namespace Client
variable {table earlier : GameTable} {parser : Parser} {first : GameInstance} {start client next : Client}
  {call : Call} {path : List (Call × Client)} {sends handled queued left : List Sent}

/-- The messages are handled in order, and those that are make up the view. -/
structure Shows (sends : List Sent) (start : Client) (path : List (Call × Client))
    (handled queued left : List Sent) : Prop extends InOrder sends start path handled queued left where
  view : (final start path).game.serverView = start.game.serverView.after (handled.filterMap Sent.message)

end Client
end ArenaClient
