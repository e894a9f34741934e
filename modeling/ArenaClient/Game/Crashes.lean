import ArenaClient.Game.ActorAccess
import ArenaClient.Game.TwoThreads

/-! What can end the process while packets come in: a header that announces less
than itself, the one id outside the handler table, and an `S_MOVE` for a player
whose actor is gone. Only the last can come from a server that frames its messages. -/
namespace ArenaClient
open Transition ServerPacketHandler RecvWorker

namespace GameInstance
variable [TextDecoder] {game : GameInstance} {msg : ServerMessage}

end GameInstance

namespace Client
variable [TextDecoder] {parser : Parser} {table earlier : GameTable} {first game : GameInstance}
  {start client : Client} {path : List (Call × Client)} {packet : Packet} {sends handled queued left : List Sent}

end Client
end ArenaClient
