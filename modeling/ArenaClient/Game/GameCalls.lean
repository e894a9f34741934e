import ArenaClient.Game.Hits
import ArenaClient.Game.MyPlayer
import ArenaClient.Session.PostedRequests

/-! What the game thread tells the server, call by call: requests, the answer to
a match announcement, hits, shots and moves. A call that returns leaves its
messages behind what was queued before, each in a frame that parses to it. -/
namespace ArenaClient
open Protocol ServerPacketHandler Transition

namespace GameInstance

/-- The message of `SendFireRequest`: the height of the shot is always `50.f`. -/
def firePacket (game : GameInstance) (spawnLocation fireDirection : FVector) : CFire where
  objectId := game.localObjectId
  spawnX := spawnLocation.x
  spawnY := spawnLocation.y
  spawnZ := 0x42480000
  directionX := fireDirection.x
  directionY := fireDirection.y
  directionZ := 0

def sendFireRequest (game : GameInstance) (spawnLocation fireDirection : FVector) :
    Except AccessFault GameInstance :=
  if ¬ game.Connected then .ok game
  else game.sendMacro (game.firePacket spawnLocation fireDirection) ClientPacket.fire.id

/-- What runs on the game thread besides the handling of packets. -/
inductive Call where
  | request (request : Request)
  | prepareMatch
  /-- The map is iterated in the given order. -/
  | requestHit (order : List ((_ : UInt64) × ActorPtr)) (targetPlayer : ActorPtr)
  | sendFireRequest (spawnLocation fireDirection : FVector)
  | tick (player : AS1MyPlayer) (deltaTime : ℚ) (controlYaw actorYaw : UInt32)
  | engine (next : Engine)

section Calls
variable (engine : TextEngine) (game : GameInstance)

/-- A request that gets past its checks goes through `SEND_PACKET` as well. -/
def performRequest (request : Request) : Except AccessFault GameInstance :=
  if game.Connected ∧ (request.message engine).isSome ∧ ¬ game.engine.Hosts then .error .gameInstance
  else match request.call engine game.toUS1GameInstance with
    | none => .error .sendBuffer
    | some connection => .ok { game with toUS1GameInstance := connection }

def call [TextDecoder] : Call → Except AccessFault GameInstance
  | .request request => game.performRequest engine request
  | .prepareMatch => game.prepareMatch
  | .requestHit order targetPlayer => game.requestHit order targetPlayer
  | .sendFireRequest spawnLocation fireDirection => game.sendFireRequest spawnLocation fireDirection
  | .tick player deltaTime controlYaw actorYaw =>
    (player.tick deltaTime controlYaw actorYaw).2.foldlM
      (fun game pkt => game.sendMacro pkt ClientPacket.move.id) game
  | .engine next => .ok { game with engine := next }

/-- What a connected game asks the server for. -/
def asks : Call → List GeneratedMessage
  | .request request => (request.message engine).toList
  | .prepareMatch => [messageOf ({} : CMatchPrepare)]
  | .requestHit order targetPlayer =>
    if game.engine.IsValid targetPlayer then
      ((order.find? (·.2 = targetPlayer)).map fun iter =>
        messageOf ({ targetObjectId := iter.1 } : CHit)).toList
    else []
  | .sendFireRequest spawnLocation fireDirection => [messageOf (game.firePacket spawnLocation fireDirection)]
  | .tick player deltaTime controlYaw actorYaw =>
    (player.tick deltaTime controlYaw actorYaw).2.map messageOf
  | .engine _ => []

/-- The text of a request fits a frame. -/
def Call.Fits : Call → Prop
  | .request asked => asked.Fits engine
  | _ => True

end Calls

variable {engine : TextEngine} {game next : GameInstance}

/-- The connection after calls is the one before, with these messages behind its
queue. -/
abbrev Leaves (game : GameInstance) (messages : List GeneratedMessage) (next : GameInstance) : Prop :=
  game.toUS1GameInstance.Leaves messages (some next.toUS1GameInstance)

theorem leaves_nothing (connected : game.Connected) (same : next.toUS1GameInstance = game.toUS1GameInstance) :
    game.Leaves [] next := by
  rw [Leaves, same]
  exact US1GameInstance.leaves_nothing connected game.onLoginFailed

theorem leaves_sendMacro {M : Type} [ClientMessage M] {pkt : M} (connected : game.Connected)
    (fits : byteSizeLong pkt ≤ maxDataSize) (sent : game.sendMacro pkt (ClientMessage.type M).id = .ok next) :
    game.Leaves [messageOf pkt] next := by
  have leaves := US1GameInstance.leaves_sent connected pkt fits
  unfold sendMacro at sent
  split at sent
  · contradiction
  · cases queued : game.toUS1GameInstance.send pkt (ClientMessage.type M).id with
    | none =>
      rw [queued] at sent
      contradiction
    | some connection =>
      rw [queued] at sent leaves
      obtain rfl := Except.ok.inj sent
      exact leaves

/-! ### The calls -/

theorem sendHit_eq (targetPlayer : ActorPtr) (order : List ((_ : UInt64) × ActorPtr)) :
    game.sendHit targetPlayer order = (order.find? (·.2 = targetPlayer)).elim (.ok game) fun iter =>
      game.sendMacro ({ targetObjectId := iter.1 } : CHit) ClientPacket.hit.id := by
  induction order with
  | nil => rfl
  | cons iter players ih =>
    rw [sendHit]
    by_cases hit : iter.2 = targetPlayer
    · rw [if_neg (not_not_intro hit)]
      simp only [List.find?_cons, hit, decide_true, Option.elim_some]
    · rw [if_pos hit, ih]
      simp only [List.find?_cons, hit, decide_false]

theorem leaves_request (connected : game.Connected) {request : Request} (fits : request.Fits engine)
    (called : game.performRequest engine request = .ok next) :
    game.Leaves (request.message engine).toList next := by
  have leaves := US1GameInstance.leaves_perform connected request fits
  unfold performRequest at called
  split at called
  · contradiction
  · cases performed : request.call engine game.toUS1GameInstance with
    | none =>
      rw [performed] at called
      contradiction
    | some connection =>
      rw [performed] at called leaves
      obtain rfl := Except.ok.inj called
      exact leaves

theorem byteSizeLong_fire_le (pkt : CFire) : byteSizeLong pkt ≤ maxDataSize := by
  have objectId := uintFieldSize_le pkt.objectId
  have spawnX := floatFieldSize_le pkt.spawnX
  have spawnY := floatFieldSize_le pkt.spawnY
  have spawnZ := floatFieldSize_le pkt.spawnZ
  have directionX := floatFieldSize_le pkt.directionX
  have directionY := floatFieldSize_le pkt.directionY
  have directionZ := floatFieldSize_le pkt.directionZ
  unfold maxDataSize
  simp only [byteSizeLong]
  omega

theorem leaves_moves (connected : game.Connected) (pkts : List CMove)
    (sent : pkts.foldlM (fun game pkt => game.sendMacro pkt ClientPacket.move.id) game = .ok next) :
    game.Leaves (pkts.map messageOf) next := by
  induction pkts generalizing game with
  | nil =>
    obtain rfl := Except.ok.inj sent
    exact leaves_nothing connected rfl
  | cons pkt pkts ih =>
    obtain ⟨middle, first, later⟩ := foldlM_cons_ok sent
    have posted : game.Leaves [messageOf pkt] middle :=
      leaves_sendMacro connected ((byteSizeLong_move_le pkt).trans (by decide)) first
    have ⟨_, _, same, kept, _⟩ := posted
    obtain rfl := Option.some.inj same
    exact posted.trans (ih kept later)

/-- Every call that returns has queued exactly what it asks for. -/
theorem leaves_call [TextDecoder] (connected : game.Connected) {call : Call} (fits : call.Fits engine)
    (called : game.call engine call = .ok next) : game.Leaves (game.asks engine call) next := by
  cases call with
  | request request => exact leaves_request connected fits called
  | prepareMatch =>
    obtain ⟨spawned, loop, sent⟩ := bind_ok (show game.prepareMatch = _ from called)
    obtain ⟨_, _, _, _, respawned⟩ := respawned_foldlM loop
    have same : spawned.toUS1GameInstance = game.toUS1GameInstance := by rw [respawned]
    rw [Leaves, ← same]
    exact leaves_sendMacro (by rwa [same]) (Nat.zero_le _) sent
  | requestHit order targetPlayer =>
    change game.requestHit order targetPlayer = _ at called
    rw [asks]
    by_cases valid : game.engine.IsValid targetPlayer
    · rw [requestHit, if_neg (not_or.mpr ⟨not_not_intro valid, not_not_intro connected.2⟩), sendHit_eq] at called
      rw [if_pos valid]
      cases found : order.find? (·.2 = targetPlayer) with
      | none =>
        rw [found] at called
        exact leaves_nothing connected (congrArg toUS1GameInstance (Except.ok.inj called).symm)
      | some iter =>
        rw [found] at called
        exact leaves_sendMacro connected ((uintFieldSize_le _).trans (by decide)) called
    · rw [requestHit, if_pos (.inl valid)] at called
      rw [if_neg valid]
      exact leaves_nothing connected (congrArg toUS1GameInstance (Except.ok.inj called).symm)
  | sendFireRequest spawnLocation fireDirection =>
    change game.sendFireRequest spawnLocation fireDirection = _ at called
    rw [sendFireRequest, if_neg (not_not_intro connected)] at called
    exact leaves_sendMacro connected (byteSizeLong_fire_le _) called
  | tick player deltaTime controlYaw actorYaw => exact leaves_moves connected _ called
  | engine engine =>
    obtain rfl := Except.ok.inj (show Except.ok _ = _ from called)
    exact leaves_nothing connected rfl

/-! ### Packets -/

/-- No handler sends, connects or disconnects. -/
theorem leaves_received [TextDecoder] {msg : ServerMessage} (connected : game.Connected)
    (taken : game.received msg = .ok next) : game.Leaves [] next := by
  have connection : next.socket = game.socket ∧ next.gameServerSession = game.gameServerSession := by
    cases msg with
    | createRoom | enterRoom | roomState | leaveRoom =>
      obtain ⟨_, _, _, rfl⟩ := housed_received taken trivial
      exact ⟨rfl, rfl⟩
    | register | roomList | playerState | playerRespawn | move | fire | playerDespawn | chat =>
      obtain ⟨_, _, _, _, _, rfl⟩ := presented_received taken trivial
      exact ⟨rfl, rfl⟩
    | login pkt =>
      obtain rfl := Except.ok.inj taken
      rw [handleLogin]
      split <;> exact ⟨rfl, rfl⟩
    | matchPrepare pkt =>
      obtain rfl := Except.ok.inj taken
      rw [handlePrepareMatch]
      split <;> exact ⟨rfl, rfl⟩
    | matchStart pkt =>
      obtain rfl := Except.ok.inj taken
      rw [handleMatchStart]
      split <;> exact ⟨rfl, rfl⟩
    | matchState pkt =>
      obtain rfl := Except.ok.inj taken
      rw [handleMatchState]
      split <;> exact ⟨rfl, rfl⟩
    | matchEnd pkt =>
      obtain rfl := Except.ok.inj taken
      rw [handleMatchEnd]
      split <;> exact ⟨rfl, rfl⟩
    | returnToRoom pkt =>
      obtain rfl := Except.ok.inj taken
      rw [handleReturnRoom]
      split <;> exact ⟨rfl, rfl⟩
  obtain ⟨socket, session⟩ := connection
  refine ⟨_, [], rfl, ⟨socket ▸ connected.1, session ▸ connected.2⟩, ?_, rfl, by simp⟩
  rw [US1GameInstance.queued, session]
  exact (List.append_nil _).symm

theorem leaves_handled [TextDecoder] {msg : ServerMessage} (connected : game.Connected)
    (performed : game.perform (.packet msg) = .ok next) : game.Leaves [] next := by
  by_cases hosts : game.engine.Hosts
  · rw [perform_packet hosts] at performed
    exact leaves_received connected performed
  · rw [perform_lost hosts] at performed
    exact leaves_nothing connected (congrArg toUS1GameInstance (Except.ok.inj performed).symm)

end GameInstance
end ArenaClient
