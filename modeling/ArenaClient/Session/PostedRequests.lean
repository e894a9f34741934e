import ArenaClient.Network.PostedMessages
import ArenaClient.Session.RoomRequests

/-! What a sequence of requests leaves in the send queue, and what a server makes
of it: one frame for each request that passes its checks, in order, that parses
to what was asked for. -/
namespace ArenaClient
open Protocol

/-- A message of the client with its class. -/
abbrev GeneratedMessage := (type : ClientPacket) × Generated.Carrier (.client type)

def Posted.message (posted : Posted) : GeneratedMessage := ⟨posted.type, posted.pkt⟩

def messageOf {M : Type} [ClientMessage M] (pkt : M) : GeneratedMessage :=
  ⟨ClientMessage.type M, ClientMessage.generated pkt⟩

/-- The buffers that wait for the send worker. -/
def US1GameInstance.queued (gameInstance : US1GameInstance) : List SendBuffer :=
  (gameInstance.gameServerSession.map PacketSession.sendPacketQueue).getD []

namespace Request
variable (engine : TextEngine)

/-- What a request asks for, if its arguments pass the checks. -/
def message : Request → Option GeneratedMessage
  | .text (.register loginId password nickname) =>
    (US1GameInstance.registerPacket engine loginId password nickname).map messageOf
  | .text (.login loginId password) =>
    (US1GameInstance.loginPacket engine loginId password).toOption.map messageOf
  | .text (.createRoom roomName maxPlayerCount) =>
    (US1GameInstance.createRoomPacket engine roomName maxPlayerCount).map messageOf
  | .text (.chat message) => (US1GameInstance.chatPacket engine message).map messageOf
  | .refresh => some (messageOf ({} : CRoomList))
  | .enterRoom roomId => (US1GameInstance.enterRoomPacket roomId).map messageOf
  | .changeTeam team => some (messageOf (US1GameInstance.changeTeamPacket team))
  | .ready value => some (messageOf { ready := value : CReady })
  | .leaveRoom => some (messageOf ({} : CLeaveRoom))
  | .gameStart => some (messageOf ({} : CStartMatch))
  | .returnRoom => some (messageOf ({} : CReturnToRoom))

/-- The text fits a frame. -/
def Fits : Request → Prop
  | .text request => request.Fits engine
  | _ => True

/-- A call of a request whose result nobody looks at. -/
def call (gameInstance : US1GameInstance) (request : Request) : Option US1GameInstance :=
  (request.perform engine gameInstance).map Prod.snd

end Request

/-- Still connected, with frames of exactly these messages behind what was queued,
each of which a server parses. -/
def US1GameInstance.Leaves (gameInstance : US1GameInstance) (messages : List GeneratedMessage)
    (outcome : Option US1GameInstance) : Prop :=
  ∃ next, ∃ posted : List Posted, outcome = some next ∧ next.Connected ∧
    next.queued = gameInstance.queued ++ posted.map Posted.buffer ∧ posted.map Posted.message = messages ∧
    ∀ message ∈ posted, message.Parses

namespace US1GameInstance
variable {engine : TextEngine} {gameInstance : US1GameInstance}

theorem leaves_nothing (connected : gameInstance.Connected) (onLoginFailed : List String) :
    gameInstance.Leaves [] (some { gameInstance with onLoginFailed }) :=
  ⟨_, [], rfl, connected, (List.append_nil _).symm, rfl, by simp⟩

theorem Leaves.trans {middle : US1GameInstance} (first : gameInstance.Leaves messages (some middle))
    (second : middle.Leaves others outcome) : gameInstance.Leaves (messages ++ others) outcome := by
  obtain ⟨_, front, same, _, queued, asked, _⟩ := first
  obtain rfl := Option.some.inj same
  obtain ⟨next, back, later, kept, queued', asked', _⟩ := second
  refine ⟨next, front ++ back, later, kept, ?_, ?_, fun message _ => message.parses⟩
  · rw [queued', queued, List.map_append, List.append_assoc]
  · rw [List.map_append, asked, asked']

theorem leaves_sent {M : Type} [ClientMessage M] (connected : gameInstance.Connected) (pkt : M)
    (fits : byteSizeLong pkt ≤ maxDataSize) :
    gameInstance.Leaves [messageOf pkt] (gameInstance.send pkt (ClientMessage.type M).id) := by
  obtain ⟨session, valid⟩ := Option.isSome_iff_exists.mp connected.2
  refine ⟨gameInstance.sendPacket (Posted.of pkt fits).buffer, [Posted.of pkt fits], ?_, ?_, ?_, rfl,
    fun message _ => message.parses⟩
  · rw [send, Posted.makeSendBuffer_of pkt fits]
    rfl
  · rw [sendPacket, if_pos connected]
    exact ⟨connected.1, by rw [valid]; rfl⟩
  · rw [sendPacket, if_pos connected, queued, queued, valid]
    rfl

theorem leaves_request {M : Type} [ClientMessage M] (connected : gameInstance.Connected) (pkt : Option M)
    (fits : ∀ message, pkt = some message → byteSizeLong message ≤ maxDataSize) :
    gameInstance.Leaves (pkt.map messageOf).toList
      ((gameInstance.request (ClientMessage.type M).id pkt).map Prod.snd) := by
  unfold request
  rw [if_pos connected]
  cases pkt with
  | none => exact leaves_nothing connected _
  | some pkt =>
    have sent := leaves_sent connected pkt (fits pkt rfl)
    rw [Option.map_map]
    exact (Option.map_id' (x := gameInstance.send pkt (ClientMessage.type M).id)).symm ▸ sent

theorem leaves_perform (connected : gameInstance.Connected) (request : Request) (fits : request.Fits engine) :
    gameInstance.Leaves (request.message engine).toList (request.call engine gameInstance) := by
  cases request with
  | text request =>
    cases request with
    | register loginId password nickname =>
      exact leaves_request connected _ fun _ checked => registerPacket_fits checked
    | login loginId password =>
      rw [Request.call, Request.perform, TextRequest.perform, requestLogin, if_pos connected, Request.message]
      cases checked : loginPacket engine loginId password with
      | error text => exact leaves_nothing connected _
      | ok pkt =>
        have sent := leaves_sent connected pkt (loginPacket_fits checked)
        rw [Option.map_map]
        exact (Option.map_id' (x := gameInstance.send pkt ClientPacket.login.id)).symm ▸ sent
    | createRoom roomName maxPlayerCount =>
      exact leaves_request connected _ fun _ checked => (createRoomPacket_fits_iff checked).mpr fits
    | chat message => exact leaves_request connected _ fun _ checked => (chatPacket_fits_iff checked).mpr fits
  | refresh => exact leaves_request connected (some ({} : CRoomList)) fun _ _ => Nat.zero_le _
  | enterRoom roomId =>
    exact leaves_request connected (enterRoomPacket roomId) fun pkt _ => (uintFieldSize_le pkt.roomId).trans (by decide)
  | changeTeam team =>
    exact leaves_request connected (some (changeTeamPacket team)) fun pkt _ =>
      (enumFieldSize_le pkt.team.number).trans (by decide)
  | ready value =>
    exact leaves_request connected (some { ready := value : CReady }) fun pkt _ =>
      (boolFieldSize_le pkt.ready).trans (by decide)
  | leaveRoom => exact leaves_request connected (some ({} : CLeaveRoom)) fun _ _ => Nat.zero_le _
  | gameStart => exact leaves_request connected (some ({} : CStartMatch)) fun _ _ => Nat.zero_le _
  | returnRoom => exact leaves_request connected (some ({} : CReturnToRoom)) fun _ _ => Nat.zero_le _

/-- Any requests, one after the other: the queue of the connection gets a frame
for each that passes its checks, in order, and what a server parses is what was
asked for. -/
theorem requests_posted (connected : gameInstance.Connected) (requests : List Request)
    (fits : ∀ request ∈ requests, request.Fits engine) :
    gameInstance.Leaves (requests.filterMap (Request.message engine))
      (requests.foldlM (Request.call engine) gameInstance) := by
  induction requests generalizing gameInstance with
  | nil => exact ⟨gameInstance, [], rfl, connected, (List.append_nil _).symm, rfl, by simp⟩
  | cons request requests ih =>
    obtain ⟨first, rest⟩ := List.forall_mem_cons.mp fits
    have posted := leaves_perform connected request first
    have ⟨middle, _, called, kept, _⟩ := posted
    have asked : (request :: requests).filterMap (Request.message engine) =
        (request.message engine).toList ++ requests.filterMap (Request.message engine) := by
      rw [List.filterMap_cons]
      cases request.message engine <;> rfl
    rw [asked, List.foldlM_cons, called]
    rw [called] at posted
    exact posted.trans (ih kept rest)

/-- A room, a chat line, and a room that there cannot be. -/
theorem three_requests_posted :
    let client : US1GameInstance := { socket := some 1, gameServerSession := some { socket := 1 } }
    let requests := [Request.enterRoom 5, .text (.chat [0x68, 0x69, 0x20]), .enterRoom 0]
    client.Leaves [⟨.enterRoom, { roomId := 5 }⟩, ⟨.chat, { msg := [0x68, 0x69] }⟩]
      (requests.foldlM (Request.call TextRequest.asciiEngine) client) := by
  have fits : (TextRequest.chat [0x68, 0x69, 0x20]).Fits TextRequest.asciiEngine := by decide
  intro client requests
  have connected : client.Connected := ⟨rfl, rfl⟩
  have posted := @requests_posted TextRequest.asciiEngine client connected requests (by simp [requests, Request.Fits, fits])
  have asked : requests.filterMap (Request.message TextRequest.asciiEngine) =
      [⟨.enterRoom, { roomId := 5 }⟩, ⟨.chat, { msg := [0x68, 0x69] }⟩] := rfl
  rwa [asked] at posted

end US1GameInstance
end ArenaClient
