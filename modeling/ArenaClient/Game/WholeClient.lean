import ArenaClient.Game.GameCalls
import ArenaClient.Game.TwoThreads

/-! The whole client on one connection: the receive worker, the game thread and
the send worker, in any order of their steps. The threads of `TwoThreads` and
the send path are two views of it, and what holds of either view holds of it:
the game handles what the server sent, and the server reads what the game asked
for. -/
namespace ArenaClient
open Transition ServerPacketHandler

namespace US1GameInstance

/-- The same connection after the send worker has taken from its queue. -/
def requeue (gameInstance : US1GameInstance) (sendPacketQueue : List SendBuffer) : US1GameInstance :=
  { gameInstance with gameServerSession := gameInstance.gameServerSession.map ({ · with sendPacketQueue }) }

theorem queued_requeue {gameInstance : US1GameInstance} (connected : gameInstance.Connected)
    (sendPacketQueue : List SendBuffer) : (gameInstance.requeue sendPacketQueue).queued = sendPacketQueue := by
  obtain ⟨session, valid⟩ := Option.isSome_iff_exists.mp connected.2
  rw [queued, requeue, valid]
  rfl

theorem connected_requeue {gameInstance : US1GameInstance} (connected : gameInstance.Connected)
    (sendPacketQueue : List SendBuffer) : (gameInstance.requeue sendPacketQueue).Connected :=
  ⟨connected.1, by rw [requeue, Option.isSome_map]; exact connected.2⟩

end US1GameInstance

namespace SendPath
variable {path next : SendPath} {action : Action}

/-- What `SendWorker::Run` does, as opposed to the game thread. -/
def Action.OfWorker : Action → Prop
  | dequeue | accept _ | fail | finish => True
  | sendPacket _ | leave | destroySocket => False

theorem kept_of_worker (worker : action.OfWorker) (taken : Step path action next) :
    next.connection = path.connection ∧ next.enqueued = path.enqueued := by
  cases taken with
  | sendPacket | leave | destroySocket => exact worker.elim
  | _ => exact ⟨rfl, rfl⟩

/-- Buffers from any number of calls. -/
theorem Consistent.enqueueAll (consistent : path.Consistent) (sendBuffers : List SendBuffer) :
    Consistent { path with
      sendPacketQueue := path.sendPacketQueue ++ sendBuffers, enqueued := path.enqueued ++ sendBuffers } := by
  induction sendBuffers generalizing path with
  | nil => simpa only [List.append_nil] using consistent
  | cons sendBuffer sendBuffers ih =>
    have later := ih (consistent.enqueue sendBuffer)
    simpa only [SendPath.enqueue, List.append_assoc, List.singleton_append] using later

end SendPath

/-- The send queue is that of the session. The last three fields are history:
what was ever queued, the pieces of the buffers the send worker is done with, and
what the game has asked the server for. -/
structure WholeClient extends Client where
  sending : Option Sending := none
  accepted : List UInt8 := []
  enqueued : List SendBuffer := []
  done : List Piece := []
  asked : List GeneratedMessage := []

namespace WholeClient

/-- The client as the send worker sees it. -/
def sendPath (client : WholeClient) : SendPath where
  sendPacketQueue := client.game.queued
  sending := client.sending
  accepted := client.accepted
  enqueued := client.enqueued
  done := client.done

/-- A step of the send worker, seen by the game. -/
def afterSend (client : WholeClient) (path : SendPath) : WholeClient :=
  { client with
    toClient := client.withGame
      { client.game with toUS1GameInstance := client.game.requeue path.sendPacketQueue }
    sending := path.sending
    accepted := path.accepted
    done := path.done }

inductive Call where
  /-- A pass of `RecvWorker::Run`. -/
  | receive
  /-- A turn of the loop in `HandleRecvPackets`. -/
  | handle
  | call (call : GameInstance.Call)
  | send (action : SendPath.Action)

section Interleaving
variable [TextDecoder]

inductive Step (engine : TextEngine) (table : GameTable) : WholeClient → Call → WholeClient → Prop where
  | receive {client next} (taken : Client.Step table client.toClient .receive next) :
    Step engine table client .receive { client with toClient := next }
  | handle {client next} (taken : Client.Step table client.toClient .handle next) :
    Step engine table client .handle { client with toClient := next }
  | call {client call game} (called : client.game.call engine call = .ok game) :
    Step engine table client (.call call) { client with
      toClient := client.withGame game
      enqueued := client.enqueued ++ game.queued.drop client.game.queued.length
      asked := client.asked ++ client.game.asks engine call }
  | send {client action path} (worker : action.OfWorker) (taken : SendPath.Step client.sendPath action path) :
    Step engine table client (.send action) (client.afterSend path)

omit [TextDecoder] in
/-- The text of a request fits a frame, and the socket does not fail. -/
def Orderly (engine : TextEngine) (_ : WholeClient) : Call → Prop
  | .call call => call.Fits engine
  | .send action => action ≠ .fail
  | .receive | .handle => True

variable {engine : TextEngine} {table earlier : GameTable} {start client next : WholeClient} {call : Call}
  {path : List (Call × WholeClient)} {game first : GameInstance}

/-! ### The view of the two threads -/

omit [TextDecoder] in
theorem connection_moves {pkts : List Protocol.CMove}
    (sent : pkts.foldlM (fun game pkt => game.sendMacro pkt ClientPacket.move.id) game = .ok after) :
    ∃ connection, after = { game with toUS1GameInstance := connection } := by
  induction pkts generalizing game with
  | nil => exact ⟨game.toUS1GameInstance, (Except.ok.inj sent).symm⟩
  | cons pkt pkts ih =>
    obtain ⟨middle, one, later⟩ := foldlM_cons_ok sent
    obtain ⟨sendBuffer, rfl⟩ := GameInstance.sendMacro_ok one
    obtain ⟨connection, connects⟩ := ih later
    exact ⟨connection, connects⟩

/-- What a call is to the two threads: apart from `PrepareMatch` and the engine it
only reaches the connection. -/
def playedAs (after : GameInstance) : GameInstance.Call → GameInstance.Action
  | .prepareMatch => .prepareMatch
  | .engine next => .engine next
  | .request _ | .requestHit .. | .sendFireRequest .. | .tick .. => .connection after.toUS1GameInstance

omit [TextDecoder] in
theorem message_playedAs (after : GameInstance) (call : GameInstance.Call) :
    (playedAs after call).message = none := by
  cases call <;> rfl

theorem performs_playedAs {call : GameInstance.Call} (called : game.call engine call = .ok after) :
    game.perform (playedAs after call) = .ok after := by
  have connects : (∃ connection, after = { game with toUS1GameInstance := connection }) →
      game.perform (.connection after.toUS1GameInstance) = .ok after := by
    rintro ⟨connection, rfl⟩
    rfl
  have unchanged : Except.ok game = Except.ok (ε := AccessFault) after →
      ∃ connection, after = { game with toUS1GameInstance := connection } :=
    fun same => ⟨game.toUS1GameInstance, (Except.ok.inj same).symm⟩
  cases call with
  | prepareMatch => exact called
  | engine engine => exact called
  | request request =>
    refine connects ?_
    change game.performRequest _ request = _ at called
    unfold GameInstance.performRequest at called
    split at called
    · contradiction
    · split at called
      · contradiction
      · exact ⟨_, (Except.ok.inj called).symm⟩
  | requestHit order targetPlayer =>
    refine connects ?_
    change game.requestHit order targetPlayer = _ at called
    unfold GameInstance.requestHit at called
    split at called
    · exact unchanged called
    · rw [GameInstance.sendHit_eq] at called
      cases found : order.find? (·.2 = targetPlayer) with
      | none => exact unchanged (by rwa [found] at called)
      | some iter =>
        rw [found] at called
        obtain ⟨sendBuffer, rfl⟩ := GameInstance.sendMacro_ok called
        exact ⟨_, rfl⟩
  | sendFireRequest spawnLocation fireDirection =>
    refine connects ?_
    change game.sendFireRequest spawnLocation fireDirection = _ at called
    unfold GameInstance.sendFireRequest at called
    split at called
    · exact unchanged called
    · obtain ⟨sendBuffer, rfl⟩ := GameInstance.sendMacro_ok called
      exact ⟨_, rfl⟩
  | tick player deltaTime controlYaw actorYaw => exact connects (connection_moves called)

/-- A step as the receive worker and the handlers see it. To them the send worker
is one more caller. -/
def seen (_ : WholeClient) (call : Call) (next : WholeClient) : Client.Call :=
  match call with
  | .receive => .receive
  | .handle => .handle
  | .call call => .play (playedAs next.game call)
  | .send _ => .play (.connection next.game.toUS1GameInstance)

theorem client_step (taken : Step engine table client call next) :
    Client.Step table client.toClient (client.seen call next) next.toClient := by
  cases taken with
  | receive taken | handle taken => exact taken
  | call called => exact .play (message_playedAs _ _) (performs_playedAs called)
  | send worker taken => exact .play rfl rfl

/-- The run of the two threads inside a run of all three. -/
abbrev threads (start : WholeClient) (path : List (Call × WholeClient)) : List (Client.Call × Client) :=
  projected toClient seen start path

theorem threads_run (run : Run (Step engine table) start path) :
    Run (Client.Step table) start.toClient (threads start path) := run.project fun _ _ _ => client_step

/-! ### The view of the send worker -/

/-- Queue, wire and history belong together, and all that was queued was asked for. -/
structure Posts (client : WholeClient) : Prop where
  connected : client.game.Connected
  consistent : client.sendPath.Consistent
  unfailed : client.sendPath.Unfailed
  posted : ∃ posted : List Posted, client.enqueued = posted.map Posted.buffer ∧
    client.asked = posted.map Posted.message

theorem handled_leaves {client next : Client} (initialized : init (gameHandlers generatedParser) earlier = .ok table)
    (connected : client.game.Connected) (taken : Client.Step table client .handle next) :
    client.game.Leaves [] next.game := by
  cases taken with
  | handle isOpen queued called =>
    have after := handlePacket_game initialized called
    cases read : readMessage generatedParser _ with
    | none =>
      rw [read] at after
      exact GameInstance.leaves_nothing connected (congrArg _ (Except.ok.inj after))
    | some msg =>
      rw [read] at after
      exact GameInstance.leaves_handled connected after.symm

omit [TextDecoder] in
theorem sendPath_afterSend {path : SendPath} (connected : client.game.Connected) {action : SendPath.Action}
    (worker : action.OfWorker) (taken : SendPath.Step client.sendPath action path) :
    (client.afterSend path).sendPath = path := by
  obtain ⟨connection, enqueued⟩ := SendPath.kept_of_worker worker taken
  have queue := US1GameInstance.queued_requeue connected path.sendPacketQueue
  rw [sendPath, afterSend]
  obtain ⟨connection', sendPacketQueue, sending, accepted, enqueued', done⟩ := path
  obtain rfl : connection' = .connected := connection
  obtain rfl : enqueued' = client.enqueued := enqueued
  exact SendPath.mk.injEq .. ▸ ⟨rfl, queue, rfl, rfl, rfl, rfl⟩

theorem Posts.step (initialized : init (gameHandlers generatedParser) earlier = .ok table)
    (posts : client.Posts) (orderly : Orderly engine client call) (taken : Step engine table client call next) :
    next.Posts := by
  cases taken with
  | receive taken =>
    cases taken with
    | receive isOpen passed => exact ⟨posts.connected, posts.consistent, posts.unfailed, posts.posted⟩
  | @handle after taken =>
    obtain ⟨_, posted, same, connected, queued, nothing, _⟩ := handled_leaves initialized posts.connected taken
    obtain rfl := Option.some.inj same
    obtain rfl := List.map_eq_nil_iff.mp nothing
    have unchanged : sendPath { client with toClient := after } = client.sendPath := by
      rw [sendPath, queued, List.map_nil, List.append_nil]
      rfl
    exact ⟨connected, unchanged ▸ posts.consistent, unchanged ▸ posts.unfailed, posts.posted⟩
  | @call call game called =>
    obtain ⟨_, posted, same, connected, queued, asked, _⟩ :=
      GameInstance.leaves_call posts.connected orderly called
    obtain rfl := Option.some.inj same
    obtain ⟨earlier, enqueued, wanted⟩ := posts.posted
    have added : game.queued.drop client.game.queued.length = posted.map Posted.buffer := by
      rw [queued, List.drop_left]
    constructor
    case connected => exact connected
    case consistent =>
      have grown := posts.consistent.enqueueAll (posted.map Posted.buffer)
      have view : sendPath { client with
          toClient := client.withGame game, enqueued := client.enqueued ++ posted.map Posted.buffer
          asked := client.asked ++ client.game.asks engine call } = _ :=
        congrArg (fun queue => { client.sendPath with
          sendPacketQueue := queue, enqueued := client.enqueued ++ posted.map Posted.buffer }) queued
      rw [added, view]
      exact grown
    case unfailed => exact posts.unfailed
    case posted =>
      refine ⟨earlier ++ posted, ?_, ?_⟩
      · rw [List.map_append, ← enqueued, ← added]
      · rw [List.map_append, ← wanted, asked]
  | send worker taken =>
    have view := sendPath_afterSend posts.connected worker taken
    constructor
    case connected => exact US1GameInstance.connected_requeue posts.connected _
    case consistent =>
      rw [view]
      exact posts.consistent.step taken
    case unfailed =>
      rw [view]
      exact posts.unfailed.step orderly taken
    case posted => exact posts.posted

/-! ### Both views -/

/-- After a run of the three threads the game has handled the first messages of the
server, as in the run of two threads inside it, and the server can read the first
ones that the game asked for; the rest is in a queue or on its way. -/
structure InStep (table : GameTable) (sends : List Sent) (start : WholeClient)
    (path : List (Call × WholeClient)) : Prop where
  run : Run (Client.Step table) start.toClient (threads start path)
  same : final start.toClient (threads start path) = (final start path).toClient
  handled : ∃ handled queued left, Client.InOrder sends start.toClient (threads start path) handled queued left
  read : ∃ read waiting : List Posted, ∃ cut, (final start path).asked = (read ++ waiting).map Posted.message ∧
    SendPath.Reads (final start path).accepted read waiting.head? cut ∧
    ((final start path).sending = none → (final start path).game.queued = [] → waiting = [] ∧ cut = [])

/-- All three threads at the start of a connection. -/
def connected (sends : List Sent) (schedule : List Delivery) (first : GameInstance) : WholeClient :=
  { toClient := .connected (sends.map Sent.frame) schedule first }

omit [TextDecoder] in
theorem posts_connected (isOpen : first.Connected) (fresh : first.queued = []) (sends : List Sent)
    (schedule : List Delivery) : (connected sends schedule first).Posts := by
  have start : (connected sends schedule first).sendPath = {} := by
    rw [sendPath]
    exact congrArg (fun queue => ({ sendPacketQueue := queue } : SendPath)) fresh
  constructor
  case connected => exact isOpen
  case consistent =>
    rw [start]
    exact SendPath.consistent_start
  case unfailed => simp [SendPath.Unfailed, sendPath, connected]
  case posted => exact ⟨[], rfl, rfl⟩

theorem posts_of_run (initialized : init (gameHandlers generatedParser) earlier = .ok table) (posts : start.Posts)
    (run : Run (Step engine table) start path) (orderly : EveryStep (Orderly engine) start path) :
    (final start path).Posts := by
  have orderlyRun := run.restrict orderly
  exact orderlyRun.preserved (fun _ _ _ posts step => posts.step initialized step.2 step.1) posts

/-- However the three threads take turns. -/
theorem both_directions (initialized : init (gameHandlers generatedParser) earlier = .ok table)
    {sends : List Sent} (intact : (RecvWorker.start (RecvWorker.encodeAll (sends.map Sent.frame)) schedule).net.Intact)
    (fed : RecvWorker.NeverStarves (sends.map Sent.frame) schedule)
    (isOpen : first.Connected) (fresh : first.queued = [])
    (run : Run (Step engine table) (connected sends schedule first) path)
    (orderly : EveryStep (Orderly engine) (connected sends schedule first) path) :
    InStep table sends (connected sends schedule first) path := by
  have seen := threads_run run
  obtain ⟨_, _, _, delivered⟩ := Client.delivered_of_run intact fed seen
  obtain ⟨handled, queued, left, inOrder⟩ := Client.inOrder_of_delivered initialized seen delivered
  have posts := posts_of_run initialized (posts_connected isOpen fresh sends schedule) run orderly
  obtain ⟨posted, enqueued, asked⟩ := posts.posted
  obtain ⟨read, waiting, cut, rfl, reads, drained⟩ := posts.unfailed.reads posts.consistent enqueued
  constructor
  case run => exact seen
  case same => exact final_projected _ _ _ _
  case handled => exact ⟨handled, queued, left, inOrder⟩
  case read => exact ⟨read, waiting, cut, asked, reads, drained⟩

end Interleaving

/-! ### A run -/

theorem ready_asked [TextDecoder] {game : GameInstance} (connected : game.Connected) (hosts : game.engine.Hosts) :
    game.call TextRequest.asciiEngine (.request (.ready true)) =
      .ok { game with toUS1GameInstance := game.sendPacket SendPath.ready.buffer } := by
  have made : makeSendBuffer ({ ready := true } : Protocol.CReady) ClientPacket.ready.id =
      some SendPath.ready.buffer := by decide +kernel
  have sent : Request.call TextRequest.asciiEngine game.toUS1GameInstance (.ready true) =
      some (game.sendPacket SendPath.ready.buffer) := by
    rw [Request.call, Request.perform, US1GameInstance.requestReady, US1GameInstance.request, if_pos connected]
    simp only [US1GameInstance.send_eq, made, Option.map_some]
  change game.performRequest _ _ = _
  rw [GameInstance.performRequest, if_neg fun lost => lost.2.2 hosts, sent]

/-- The client is let into a room and says that it is ready. -/
theorem ready_read :
    let _ := asciiDecoder
    let table : GameTable := fun slot => some (handlerFor (gameHandlers generatedParser) slot.val)
    let sends := [Client.loggedIn, Client.roomEntered]
    let start := connected sends (RecvWorker.settled (RecvWorker.encodeAll (sends.map Sent.frame))) Client.entering.game
    ∃ path, Run (Step TextRequest.asciiEngine table) start path ∧ Client.Entered (final start path).game ∧
      (final start path).accepted = SendPath.ready.frame.encode ∧ InStep table sends start path := by
  intro _ table sends start
  obtain ⟨first, second, passed, again, queue⟩ := Client.entering_passes
  have initialized : init (gameHandlers generatedParser) (fun _ => none) = .ok table := init_eq _ _
  obtain ⟨_, login⟩ := Client.handlePacket_sent initialized Client.loggedIn Client.entering.game
  obtain ⟨_, room⟩ :=
    Client.handlePacket_sent initialized Client.roomEntered (Client.entering.game.handleLogin Client.loginPkt)
  rw [Client.message_loggedIn] at login
  rw [Client.message_roomEntered] at room
  have bound : 6 ≤ SendPath.ready.buffer.bytes.length := by decide +kernel
  have drained : SendPath.ready.buffer.bytes.drop 6 = [] := by decide +kernel
  have run : Run (Step TextRequest.asciiEngine table) start
      [(.receive, _), (.receive, _), (.handle, _), (.handle, _), (.call (.request (.ready true)), _),
        (.send .dequeue, _), (.send (.accept 6), _), (.send .finish, _)] :=
    ⟨.receive (.receive ⟨rfl, rfl, rfl⟩ passed), .receive (.receive ⟨rfl, rfl, rfl⟩ again),
      .handle (.handle ⟨rfl, rfl, rfl⟩ queue login), .handle (.handle ⟨rfl, rfl, rfl⟩ rfl room),
      .call (ready_asked ⟨rfl, rfl⟩ ⟨rfl, rfl⟩), .send trivial (.dequeue rfl rfl),
      .send trivial (.accept nofun rfl (by decide) bound), .send trivial (.finish rfl drained), trivial⟩
  have sends : ∀ action : SendPath.Action, action ≠ .fail → ∀ client,
      Orderly TextRequest.asciiEngine client (.send action) := fun _ succeeds _ => succeeds
  have whole : ([] : List UInt8) ++ SendPath.ready.buffer.bytes.take 6 = SendPath.ready.frame.encode := by
    decide +kernel
  refine ⟨_, run, ⟨rfl, rfl, rfl⟩, whole, both_directions initialized (RecvWorker.settled_intact _)
    (RecvWorker.neverStarves_settled _) ⟨rfl, rfl⟩ rfl run ⟨trivial, trivial, trivial, trivial, trivial,
      sends _ (by decide) _, sends _ (by decide) _, sends _ (by decide) _, trivial⟩⟩

end WholeClient
end ArenaClient
