import ArenaClient.Game.JunkPackets
import ArenaClient.Game.ServerParser
import ArenaClient.Network.PausedDelivery

/-! The receive worker and the game thread with the queue between them, in any
order of their steps. What the game thread handles is what the server sent, in
order, as far as it has come; the rest is in the queue or still on its way. -/
namespace ArenaClient
open Transition ServerPacketHandler RecvWorker

/-! ### Frames and messages -/

namespace ServerPacketHandler

theorem bounded_encode (frame : Frame) : Bounded frame.encode := by
  have fits := frame.fits
  unfold maxDataSize at fits
  rw [Bounded, Frame.length_encode, Frame.size]
  exact ⟨Nat.le_add_right _ _, by unfold headerSize; omega⟩

/-- A message of the server in its frame. The fields behind it are those that the
classes of the client have no case for. -/
structure Sent where
  type : ServerPacket
  pkt : Generated.Carrier (.server type)
  newer : List UInt8 := []
  unknown : Generated.unknownFields (.server type) newer
  fits : Generated.byteSizeLong (.server type) pkt + newer.length ≤ maxDataSize

namespace Sent

def frame (sent : Sent) : Frame where
  id := sent.type.id
  payload := Generated.internalSerialize (.server sent.type) sent.pkt ++ sent.newer
  fits := by
    rw [List.length_append, Generated.length_serialize_eq]
    exact sent.fits

/-- Text that is not UTF-8 takes the whole message with it. -/
def message (sent : Sent) : Option ServerMessage :=
  if Generated.validUtf8 (.server sent.type) sent.pkt then some (Generated.view sent.type sent.pkt) else none

theorem meaning_frame (sent : Sent) : meaning sent.frame = sent.message := by
  have small : Generated.byteSizeLong (.server sent.type) sent.pkt ≤ Protobuf.maxSize :=
    (Nat.le_of_add_right_le sent.fits).trans (by decide)
  rw [meaning, frame, ofId_id, Option.bind_some, Generated.decode_newer _ _ small sent.unknown, message]
  split <;> rfl

end Sent

theorem id_lt_uint16Max (type : ServerPacket) : type.id.toNat < uint16Max := by
  cases type <;> decide

/-- The table of the game: after a fault there is no state to go on from. -/
abbrev GameTable := PacketHandlerTable (Except AccessFault GameInstance)

variable [TextDecoder] {table earlier : GameTable}

/-- The message that `HandlePacket` reads from a packet of any bytes. -/
def readMessage (parser : Parser) (packet : Packet) : Option ServerMessage :=
  (ServerPacket.ofId (PacketHeader.ofBuffer packet).id.toNat).bind fun type =>
    parser.parseFromArray type (packet.drop headerSize) (parseSize packet.length)

omit [TextDecoder] in
theorem readMessage_encode (frame : Frame) : readMessage generatedParser frame.encode = meaning frame := by
  have payload : frame.encode.drop headerSize = frame.payload := List.drop_left' frame.length_header
  have bounded := bounded_encode frame
  have size : (frame.encode.length : Int) - headerSize = frame.payload.length := by
    rw [Frame.length_encode, Frame.size]
    omega
  rw [readMessage, Frame.ofBuffer_encode, payload, parseSize_eq bounded.1 bounded.2, size, meaning]
  simp only [parse_payload]

/-- The handlers in the table do what the message asks for. -/
theorem handlerFor_game (parser : Parser) (packet : Packet) (game : GameInstance) :
    (handlerFor (gameHandlers parser) (PacketHeader.ofBuffer packet).id.toNat packet packet.length (.ok game)).2 =
      (readMessage parser packet).elim (.ok game) fun msg => game.perform (.packet msg) := by
  unfold handlerFor readMessage
  cases ServerPacket.ofId (PacketHeader.ofBuffer packet).id.toNat with
  | none => rfl
  | some type =>
    simp only [handlePacketAs, gameHandlers, Option.bind_some]
    cases parser.parseFromArray type (packet.drop headerSize) (parseSize packet.length) with
    | none => rfl
    | some msg =>
      simp only [Except.bind, Option.elim_some, GameInstance.perform]
      cases handleMessage game msg <;> rfl

theorem handlePacket_game {parser : Parser} (initialized : init (gameHandlers parser) earlier = .ok table)
    (called : handlePacket table packet packet.length (.ok game) = .ok (handled, after)) :
    after = (readMessage parser packet).elim (.ok game) fun msg => game.perform (.packet msg) := by
  rw [handlePacket_eq initialized] at called
  split at called
  · rw [← handlerFor_game, Except.ok.inj called]
  · cases called

end ServerPacketHandler

/-! ### The threads -/

namespace GameInstance

namespace Action

/-- The message of a packet. -/
def message : Action → Option ServerMessage
  | packet msg => some msg
  | prepareMatch | engine _ | connection _ => none

end Action

/-- Neither the socket nor the session of the game instance is another one. -/
def SameConnection (game next : GameInstance) : Prop :=
  next.socket = game.socket ∧
    next.gameServerSession.map PacketSession.socket = game.gameServerSession.map PacketSession.socket

instance (game next : GameInstance) : Decidable (game.SameConnection next) :=
  inferInstanceAs (Decidable (_ ∧ _))

end GameInstance

/-- The worker of one connection and the game instance. `live` says that the game
instance has kept the connection; one that it gives up is gone for good. -/
structure Client where
  worker : RecvWorker
  game : GameInstance
  live : Bool := true

namespace Client

/-- The socket is not destroyed, and the session is that of the game instance. -/
def Open (client : Client) : Prop := client.live ∧ client.game.Connected

instance (client : Client) : Decidable client.Open := inferInstanceAs (Decidable (_ ∧ _))

/-- The game thread has changed the game instance. -/
def withGame (client : Client) (game : GameInstance) : Client :=
  { client with game, live := client.live && decide (client.game.SameConnection game) }

inductive Call where
  /-- A pass of `RecvWorker::Run`. -/
  | receive
  /-- A turn of the loop in `HandleRecvPackets`. -/
  | handle
  /-- What else happens on the game thread. -/
  | play (action : GameInstance.Action)

/-- The packet that a turn takes out of the queue. -/
def taken (client : Client) : Call → List Packet
  | .handle => client.worker.recvPacketQueue.head?.toList
  | .receive | .play _ => []

/-- What a call does to the game instance: a turn performs the message that its
packet is read as, if there is one. -/
def doing (parser : Parser) (client : Client) : Call → List GameInstance.Action
  | .handle => ((client.taken .handle).filterMap (readMessage parser)).map .packet
  | .receive => []
  | .play action => [action]

section Interleaving
variable [TextDecoder]

/-- The threads take turns in any order; neither waits for the other. Both loops
need the connection: `US1GameInstance::HandleRecvPackets` checks for it, and the
worker has no socket without it. -/
inductive Step (table : GameTable) : Client → Call → Client → Prop where
  | receive {client worker} (isOpen : client.Open) (passed : client.worker.pass = .ok worker) :
    Step table client .receive { client with worker }
  | handle {client packet recvPacketQueue handled game} (isOpen : client.Open)
    (queued : client.worker.recvPacketQueue = packet :: recvPacketQueue)
    (called : handlePacket table packet packet.length (.ok client.game) = .ok (handled, .ok game)) :
    Step table client .handle { client with worker := { client.worker with recvPacketQueue }, game }
  | play {client action game} (own : action.message = none)
    (performed : client.game.perform action = .ok game) :
    Step table client (.play action) (client.withGame game)

variable {table earlier : GameTable} {parser : Parser} {frames handled queued left : List Frame}
  {first game after : GameInstance} {start client next : Client} {call : Call}
  {path : List (Call × Client)} {worker : RecvWorker} {recvPacketQueue : List Packet}

/-! ### What a run does to the game instance -/

omit [TextDecoder] in
theorem taken_cons (head : client.worker.recvPacketQueue = packet :: recvPacketQueue) :
    client.taken .handle = [packet] := by
  rw [taken, head]
  rfl

omit [TextDecoder] in
theorem doing_cons (head : client.worker.recvPacketQueue = packet :: recvPacketQueue) :
    client.doing parser .handle = (readMessage parser packet).toList.map .packet := by
  rw [doing, taken_cons head]
  cases read : readMessage parser packet <;> simp [read]

theorem performs (initialized : init (gameHandlers parser) earlier = .ok table)
    (step : Step table client call next) :
    (client.doing parser call).foldlM GameInstance.perform client.game = .ok next.game := by
  cases step with
  | receive isOpen passed => rfl
  | play own performed => exact (bind_pure _).trans performed
  | @handle packet recvPacketQueue handled game isOpen queued called =>
    have after := handlePacket_game initialized called
    rw [doing_cons queued]
    cases read : readMessage parser packet with
    | none =>
      rw [read] at after
      exact after.symm
    | some msg =>
      rw [read] at after
      exact (bind_pure _).trans after.symm

/-- The packets among what a call does are the messages that it takes. -/
theorem message_doing (step : Step table client call next) :
    (client.doing parser call).filterMap GameInstance.Action.message =
      (client.taken call).filterMap (readMessage parser) := by
  cases step with
  | receive isOpen passed => rfl
  | play own performed =>
    rw [doing, List.filterMap_cons_none own]
    rfl
  | handle isOpen queued called =>
    rw [doing, List.filterMap_map]
    exact List.filterMap_some

theorem performs_run (initialized : init (gameHandlers parser) earlier = .ok table)
    (run : Run (Step table) start path) :
    (output (doing parser) start path).foldlM GameInstance.perform start.game = .ok (final start path).game := by
  induction path generalizing start with
  | nil => rfl
  | cons head tail ih =>
    rw [output, List.foldlM_append, performs initialized run.1]
    exact ih run.2

theorem message_run (run : Run (Step table) start path) :
    (output (doing parser) start path).filterMap GameInstance.Action.message =
      (output taken start path).filterMap (readMessage parser) := by
  induction path generalizing start with
  | nil => rfl
  | cons head tail ih => rw [output, output, List.filterMap_append, List.filterMap_append, message_doing run.1, ih run.2]

/-! ### Frames on their way -/

/-- What the server sent, by where it is after a run: taken by a turn of the
loop, queued, or not read yet. -/
structure Delivered (frames : List Frame) (start : Client) (path : List (Call × Client))
    (handled queued left : List Frame) : Prop where
  sent : frames = handled ++ queued ++ left
  taken : output taken start path = handled.map Frame.encode
  queue : (final start path).worker.recvPacketQueue = queued.map Frame.encode
  stream : (final start path).worker.net.stream = encodeAll left

namespace Delivered

omit [TextDecoder] in
theorem receive (delivered : Delivered frames start path handled queued left)
    (intact : (final start path).worker.net.Intact) (fed : ¬ Starves (final start path).worker.net)
    (passed : (final start path).worker.pass = .ok worker) : ∃ read rest,
      Delivered frames start (path ++ [(.receive, { final start path with worker })]) handled (queued ++ read) rest := by
  obtain ⟨read, rest, split, stream, queue⟩ := pass_boundary intact delivered.stream fed passed
  refine ⟨read, rest, ?_⟩
  constructor
  case sent =>
    rw [delivered.sent, split]
    simp only [List.append_assoc]
  case taken =>
    simp only [output_snoc, delivered.taken, Client.taken, List.append_nil]
  case queue =>
    rw [final_append, List.map_append, ← delivered.queue]
    exact queue
  case stream =>
    rw [final_append]
    exact stream

omit [TextDecoder] in
theorem handle (delivered : Delivered frames start path handled queued left)
    (head : (final start path).worker.recvPacketQueue = packet :: recvPacketQueue) (game : GameInstance) :
    ∃ frame rest, Delivered frames start
      (path ++ [(.handle, { final start path with
        worker := { (final start path).worker with recvPacketQueue }, game })])
      (handled ++ [frame]) rest left := by
  have same := taken_cons head
  rw [delivered.queue] at head
  obtain ⟨frame, rest, rfl, rfl, rfl⟩ := List.map_eq_cons_iff.mp head
  refine ⟨frame, rest, ?_⟩
  constructor
  case sent =>
    rw [delivered.sent]
    simp only [List.append_assoc, List.cons_append, List.nil_append]
  case taken =>
    simp only [output_snoc, delivered.taken, same, List.map_append, List.map_cons, List.map_nil]
  case queue =>
    rw [final_append]
    rfl
  case stream =>
    rw [final_append]
    exact delivered.stream

omit [TextDecoder] in
theorem play (delivered : Delivered frames start path handled queued left) (action : GameInstance.Action)
    (game : GameInstance) : Delivered frames start
      (path ++ [(.play action, (final start path).withGame game)]) handled queued left where
  sent := delivered.sent
  taken := by
    rw [output_snoc, delivered.taken]
    exact List.append_nil _
  queue := by
    rw [final_append]
    exact delivered.queue
  stream := by
    rw [final_append]
    exact delivered.stream

end Delivered

/-- The client right after it connected to a server that sends `frames`. -/
def connected (frames : List Frame) (schedule : List Delivery) (game : GameInstance) : Client :=
  { worker := RecvWorker.start (encodeAll frames) schedule, game }

/-- What a worker has read does not depend on who empties its queue. -/
def ReadsAlone (frames : List Frame) (schedule : List Delivery) (client : Client) : Prop :=
  ∃ seen, Reaches (RecvWorker.start (encodeAll frames) schedule) { client.worker with recvPacketQueue := seen }

omit [TextDecoder] in
theorem readsAlone_pass (alone : ReadsAlone frames schedule client)
    (passed : client.worker.pass = .ok worker) : ReadsAlone frames schedule { client with worker } := by
  obtain ⟨seen, reached⟩ := alone
  obtain ⟨received, packet, call, _⟩ := pass_ok_iff.mp passed
  refine ⟨seen ++ if received then [packet] else [], reached.next (l := ()) ?_⟩
  exact pass_ok_iff.mpr ⟨received, packet, call, rfl⟩

/-- The worker of the client reads as one that is left alone. -/
structure Supplied (frames : List Frame) (schedule : List Delivery) (client : Client) : Prop where
  alone : ReadsAlone frames schedule client
  intact : client.worker.net.Intact

omit [TextDecoder] in
theorem supplied_connected (intact : (RecvWorker.start (encodeAll frames) schedule).net.Intact)
    (game : GameInstance) : Supplied frames schedule (connected frames schedule game) :=
  ⟨⟨[], .refl _⟩, intact⟩

omit [TextDecoder] in
theorem Supplied.fed (supplied : Supplied frames schedule client) (fed : NeverStarves frames schedule) :
    ¬ Starves client.worker.net := by
  obtain ⟨seen, reads⟩ := supplied.alone
  exact fed { client.worker with recvPacketQueue := seen } reads

theorem Supplied.step (supplied : Supplied frames schedule client) (step : Step table client call next) :
    Supplied frames schedule next := by
  obtain ⟨alone, intact⟩ := supplied
  cases step with
  | receive isOpen passed => exact ⟨readsAlone_pass alone passed, pass_intact intact passed⟩
  | handle | play => exact ⟨alone, intact⟩

theorem supplied_of_run (supplied : Supplied frames schedule start) (run : Run (Step table) start path) :
    Supplied frames schedule (final start path) := run.preserved (fun _ _ _ => Supplied.step) supplied

/-- In every run, whatever the threads and the schedule do. -/
theorem delivered_of_run (intact : (RecvWorker.start (encodeAll frames) schedule).net.Intact)
    (fed : NeverStarves frames schedule) (run : Run (Step table) (connected frames schedule first) path) :
    ∃ handled queued left, Delivered frames (connected frames schedule first) path handled queued left := by
  refine run.snoc_induction (P := fun path => ∃ handled queued left,
    Delivered frames (connected frames schedule first) path handled queued left)
    ⟨[], [], frames, rfl, rfl, rfl, rfl⟩ ?_
  rintro seen call next earlier ⟨handled, queued, left, delivered⟩ step
  have supplied := supplied_of_run (supplied_connected intact first) earlier
  cases step with
  | receive isOpen passed =>
    obtain ⟨read, rest, delivered⟩ := delivered.receive supplied.intact (supplied.fed fed) passed
    exact ⟨_, _, _, delivered⟩
  | handle isOpen head called =>
    obtain ⟨frame, rest, delivered⟩ := delivered.handle head _
    exact ⟨_, _, _, delivered⟩
  | play own performed => exact ⟨_, _, _, delivered.play _ _⟩

/-! ### Messages in order -/

/-- The messages of a server by where they are after a run. The turns of the loop
have taken the frames of `handled`, one a turn; what the calls of the run do, one
after the other, leads from the first game instance to the last, and the packets
among it are the messages of `handled`. -/
structure InOrder (sends : List Sent) (start : Client) (path : List (Call × Client))
    (handled queued left : List Sent) : Prop where
  sent : sends = handled ++ queued ++ left
  taken : output taken start path = handled.map (Frame.encode ∘ Sent.frame)
  queue : (final start path).worker.recvPacketQueue = queued.map (Frame.encode ∘ Sent.frame)
  stream : (final start path).worker.net.stream = encodeAll (left.map Sent.frame)
  played : (output (doing generatedParser) start path).foldlM GameInstance.perform start.game =
    .ok (final start path).game
  packets : (output (doing generatedParser) start path).filterMap GameInstance.Action.message =
    handled.filterMap Sent.message

omit [TextDecoder] in
theorem readMessage_sent (sent : Sent) : readMessage generatedParser sent.frame.encode = sent.message := by
  rw [readMessage_encode, Sent.meaning_frame]

theorem inOrder_of_delivered (initialized : init (gameHandlers generatedParser) earlier = .ok table)
    (run : Run (Step table) start path) {sends : List Sent}
    (delivered : Delivered (sends.map Sent.frame) start path handled queued left) :
    ∃ handled queued left, InOrder sends start path handled queued left := by
  obtain ⟨front, last, rfl, frontFrames, rfl⟩ := List.map_eq_append_iff.mp delivered.sent
  obtain ⟨first, middle, rfl, rfl, rfl⟩ := List.map_eq_append_iff.mp frontFrames
  have taken : output taken start path = first.map (Frame.encode ∘ Sent.frame) := by
    rw [delivered.taken, List.map_map]
  refine ⟨first, middle, last, ?_⟩
  constructor
  case sent => rfl
  case taken => exact taken
  case queue => rw [delivered.queue, List.map_map]
  case stream => exact delivered.stream
  case played => exact performs_run initialized run
  case packets =>
    have messages : readMessage generatedParser ∘ (Frame.encode ∘ Sent.frame) = Sent.message :=
      funext readMessage_sent
    rw [message_run run, taken, List.filterMap_map, messages]

end Interleaving

/-! ### A run -/

/-- The server has given us the id 7. -/
def loggedIn : Sent where
  type := .login
  pkt := { success := true, objectId := 7, result := 1, accountId := 41, nickname := [0x61, 0x62] }
  unknown := by decide +kernel
  fits := by decide +kernel

/-- The room is ours, from a server that knows one more field of `S_ENTER_ROOM`. -/
def roomEntered : Sent where
  type := .enterRoom
  pkt := { success := true, roomInfo := some { roomId := 3, hostObjectId := 7, maxPlayerCount := 4 } }
  newer := [24, 7]
  unknown := by decide +kernel
  fits := by decide +kernel

/-- What the first of them reads as. -/
def loginPkt : Protocol.SLogin where
  success := true
  objectId := 7
  result := .success
  accountId := 41
  nickname := [0x61, 0x62]

theorem message_loggedIn : loggedIn.message = some (.login loginPkt) := if_pos (by decide +kernel)

theorem message_roomEntered : roomEntered.message = some (.enterRoom
    { success := true, roomInfo := some { roomId := 3, hostObjectId := 7, maxPlayerCount := 4 } }) :=
  if_pos (by decide +kernel)

/-- A client that is sent these two packets, all at once. -/
def entering : Client :=
  connected ([loggedIn, roomEntered].map Sent.frame) (settled (encodeAll ([loggedIn, roomEntered].map Sent.frame)))
    (.initial { socket := some 1, gameServerSession := some { socket := 1 } } {} none none)

theorem pass_of_toOption {worker next : RecvWorker} (passed : worker.pass.toOption = some next) :
    worker.pass = .ok next := by
  revert passed
  cases worker.pass with
  | error stopped => exact nofun
  | ok next => exact fun passed => congrArg Except.ok (Option.some.inj passed)

theorem entering_passes : ∃ first second : RecvWorker, entering.worker.pass = .ok first ∧ first.pass = .ok second ∧
    second.recvPacketQueue = [loggedIn.frame.encode, roomEntered.frame.encode] := by
  have both : (entering.worker.pass.toOption.bind fun first => first.pass.toOption.map fun second =>
      second.recvPacketQueue) = some [loggedIn.frame.encode, roomEntered.frame.encode] := by decide +kernel
  obtain ⟨first, passed, rest⟩ := Option.bind_eq_some_iff.mp both
  obtain ⟨second, again, queue⟩ := Option.map_eq_some_iff.mp rest
  exact ⟨first, second, pass_of_toOption passed, pass_of_toOption again, queue⟩

theorem handlePacket_sent [TextDecoder] {table earlier : GameTable}
    (initialized : init (gameHandlers generatedParser) earlier = .ok table)
    (sent : Sent) (game : GameInstance) : ∃ handled,
      handlePacket table sent.frame.encode sent.frame.encode.length (.ok game) =
        .ok (handled, sent.message.elim (.ok game) fun msg => game.perform (.packet msg)) := by
  have inside : (PacketHeader.ofBuffer sent.frame.encode).id.toNat < uint16Max := by
    rw [Frame.ofBuffer_encode]
    exact id_lt_uint16Max sent.type
  rw [handlePacket_eq initialized, if_pos inside]
  refine ⟨_, congrArg Except.ok (Prod.ext rfl ?_)⟩
  rw [handlerFor_game, readMessage_sent]

/-- The client is the host of a room. -/
structure Entered (game : GameInstance) : Prop where
  localObjectId : game.localObjectId = 7
  bIsRoomHost : game.bIsRoomHost = true
  currentRoom : game.currentRoom = { roomId := 3, hostObjectId := 7, maxPlayerCount := 4 }

end Client
end ArenaClient
