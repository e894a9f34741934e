import ArenaClient.Session.RequestsProofs

/-! The requests without text, all requests together, and what each of them owes
to its caller: true for one frame in the queue of the session, false for none. -/
namespace ArenaClient
open Protocol Protobuf

namespace US1GameInstance
variable (gameInstance : US1GameInstance)

/-- The check of `RequestEnterRoom`, on the signed id that Blueprint has. -/
def enterRoomPacket (roomId : Int64) : Option CEnterRoom :=
  if roomId ≤ 0 then none else some { roomId := roomId.toUInt64 }

/-- An `ERoomTeam` by its value, which need not be one of the three. -/
def changeTeamPacket (team : UInt8) : CChangeTeam :=
  match team with
  | 0 => { team := .none }
  | 1 => { team := .red }
  | 2 => { team := .blue }
  | _ => {}

def requestRefresh : Option (Bool × US1GameInstance) :=
  gameInstance.request ClientPacket.roomList.id (some ({} : CRoomList))

def requestEnterRoom (roomId : Int64) : Option (Bool × US1GameInstance) :=
  gameInstance.request ClientPacket.enterRoom.id (enterRoomPacket roomId)

def requestChangeTeam (team : UInt8) : Option (Bool × US1GameInstance) :=
  gameInstance.request ClientPacket.changeTeam.id (some (changeTeamPacket team))

def requestReady (ready : Bool) : Option (Bool × US1GameInstance) :=
  gameInstance.request ClientPacket.ready.id (some { ready : CReady })

def requestLeaveRoom : Option (Bool × US1GameInstance) :=
  gameInstance.request ClientPacket.leaveRoom.id (some ({} : CLeaveRoom))

def requestGameStart : Option (Bool × US1GameInstance) :=
  gameInstance.request ClientPacket.startMatch.id (some ({} : CStartMatch))

def requestReturnRoom : Option (Bool × US1GameInstance) :=
  gameInstance.request ClientPacket.returnToRoom.id (some ({} : CReturnToRoom))

/-! ### Return values -/

/-- What a caller may take from a return value: on true one frame with that id is
at the end of the queue of the session, and nothing else has changed; on false
the connection and its queue have not. -/
def Truthful (gameInstance : US1GameInstance) (pktId : UInt16)
    (outcome : Option (Bool × US1GameInstance)) : Prop :=
  ∃ returned next, outcome = some (returned, next) ∧
    (returned = true → ∃ session sendBuffer, gameInstance.gameServerSession = some session ∧
      sendBuffer.IsFrame pktId ∧
      next = { gameInstance with gameServerSession := some (session.sendPacket sendBuffer) }) ∧
    (returned = false →
      next.socket = gameInstance.socket ∧ next.gameServerSession = gameInstance.gameServerSession)

variable {gameInstance : US1GameInstance}

theorem truthful_false (pktId : UInt16) (onLoginFailed : List String) :
    gameInstance.Truthful pktId (some (false, { gameInstance with onLoginFailed })) :=
  ⟨false, { gameInstance with onLoginFailed }, rfl,
    fun claimed => absurd claimed Bool.false_ne_true, fun _ => ⟨rfl, rfl⟩⟩

/-- A message that is sent in a connected state. -/
theorem truthful_send_iff [ProtoMessage M] (connected : gameInstance.Connected) (pkt : M) (pktId : UInt16) :
    gameInstance.Truthful pktId ((makeSendBuffer pkt pktId).map fun sendBuffer =>
        (true, gameInstance.sendPacket sendBuffer)) ↔ HeaderFits (byteSizeLong pkt) := by
  obtain ⟨session, valid⟩ := Option.isSome_iff_exists.mp connected.2
  rw [← makeSendBuffer_isFrame_iff pkt pktId]
  constructor
  · rintro ⟨returned, next, outcome, sent, _⟩
    obtain ⟨sendBuffer, built, same⟩ := Option.map_eq_some_iff.mp outcome
    obtain ⟨rfl, rfl⟩ := Prod.mk.inj same
    obtain ⟨session', sendBuffer', valid', isFrame, appended⟩ := sent rfl
    obtain rfl := Option.some.inj (valid.symm.trans valid')
    rw [sendPacket, if_pos connected, valid] at appended
    have queues := congrArg PacketSession.sendPacketQueue
      (Option.some.inj (congrArg US1GameInstance.gameServerSession appended))
    obtain rfl := List.singleton_inj.mp (List.append_cancel_left queues)
    exact ⟨sendBuffer, built, isFrame⟩
  · rintro ⟨sendBuffer, built, isFrame⟩
    refine ⟨true, gameInstance.sendPacket sendBuffer, by rw [built, Option.map_some], ?_,
      fun denied => absurd denied.symm Bool.false_ne_true⟩
    exact fun _ => ⟨session, sendBuffer, valid, isFrame, by rw [sendPacket, if_pos connected, valid]; rfl⟩

theorem truthful_request_iff [ProtoMessage M] (pktId : UInt16) (pkt : Option M) :
    gameInstance.Truthful pktId (gameInstance.request pktId pkt) ↔
      (gameInstance.Connected → ∀ p, pkt = some p → HeaderFits (byteSizeLong p)) := by
  by_cases connected : gameInstance.Connected
  · cases pkt with
    | none =>
      rw [request, if_pos connected]
      exact iff_of_true (truthful_false pktId _) fun _ _ none => absurd none.symm (Option.some_ne_none _)
    | some pkt =>
      rw [request_some connected, truthful_send_iff connected]
      exact ⟨fun fits _ _ same => Option.some.inj same ▸ fits, fun fits => fits connected pkt rfl⟩
  · have refused : gameInstance.request pktId pkt = some (false, gameInstance) := by
      unfold request
      rw [if_neg connected]
    rw [refused]
    exact iff_of_true (truthful_false pktId _) fun attempt => absurd attempt connected

end US1GameInstance

/-! ### Requests with text -/

namespace TextRequest
variable {engine : TextEngine} {gameInstance : US1GameInstance}

def id : TextRequest → UInt16
  | .register _ _ _ => ClientPacket.register.id
  | .login _ _ => ClientPacket.login.id
  | .createRoom _ _ => ClientPacket.createRoom.id
  | .chat _ => ClientPacket.chat.id

/-- What the checks of the two unbounded requests leave out for a header: the
size of the message may not wrap to one of the last four values of a uint16. -/
def HeaderFits (engine : TextEngine) : TextRequest → Prop
  | .register _ _ _ | .login _ _ => True
  | .createRoom roomName maxPlayerCount => 0 < maxPlayerCount →
    ArenaClient.HeaderFits (stringFieldSize (engine.toUtf8 (engine.trimStartAndEnd roomName)) +
      uintFieldSize maxPlayerCount.toUInt32.toNat)
  | .chat message => ArenaClient.HeaderFits (stringFieldSize (engine.toUtf8 (engine.trimStartAndEnd message)))

theorem toUtf8_nil (engine : TextEngine) : engine.toUtf8 [] = [] :=
  List.length_eq_zero_iff.mp (Nat.le_zero.mp (engine.length_toUtf8 []))

/-- An empty name is refused, and would have had room. -/
theorem createRoom_headerFits_iff (roomName : FString) (maxPlayerCount : Int32) :
    (∀ pkt, US1GameInstance.createRoomPacket engine roomName maxPlayerCount = some pkt →
        ArenaClient.HeaderFits (byteSizeLong pkt)) ↔
      (createRoom roomName maxPlayerCount).HeaderFits engine := by
  rw [US1GameInstance.createRoomPacket, HeaderFits]
  split
  · rename_i refused
    refine iff_of_true (fun _ none => absurd none.symm (Option.some_ne_none _)) fun positive => ?_
    obtain blank | low := refused
    · rw [List.isEmpty_iff.mp blank, toUtf8_nil]
      have digits := varintSize_uint32 maxPlayerCount.toUInt32
      have number : uintFieldSize maxPlayerCount.toUInt32.toNat ≤ 6 := by
        unfold uintFieldSize
        split <;> omega
      have name : stringFieldSize [] = 0 := rfl
      rw [name, Nat.zero_add]
      exact headerFits_of_le (number.trans (by decide))
    · exact absurd low (Int32.not_le.mpr positive)
  · rename_i checked
    have positive : 0 < maxPlayerCount := Int32.not_le.mp fun low => checked (.inr low)
    exact ⟨fun fits _ => fits _ rfl, fun fits _ built => Option.some.inj built ▸ fits positive⟩

theorem chat_headerFits_iff (message : FString) :
    (∀ pkt, US1GameInstance.chatPacket engine message = some pkt → ArenaClient.HeaderFits (byteSizeLong pkt)) ↔
      (chat message).HeaderFits engine := by
  rw [US1GameInstance.chatPacket, HeaderFits]
  split
  · rename_i blank
    refine iff_of_true (fun _ none => absurd none.symm (Option.some_ne_none _)) ?_
    rw [List.isEmpty_iff.mp blank, toUtf8_nil]
    decide
  · exact ⟨fun fits => fits _ rfl, fun fits _ built => Option.some.inj built ▸ fits⟩

theorem truthful_login (loginId password : FString) :
    gameInstance.Truthful ClientPacket.login.id (gameInstance.requestLogin engine loginId password) := by
  by_cases connected : gameInstance.Connected
  · rw [US1GameInstance.requestLogin, if_pos connected]
    cases checked : US1GameInstance.loginPacket engine loginId password with
    | error message => exact US1GameInstance.truthful_false _ _
    | ok pkt =>
      dsimp only
      rw [US1GameInstance.send_eq, US1GameInstance.truthful_send_iff connected]
      exact headerFits_of_le (loginPacket_fits checked)
  · rw [US1GameInstance.requestLogin, if_neg connected]
    exact US1GameInstance.truthful_false _ _

theorem truthful_perform_iff (request : TextRequest) :
    gameInstance.Truthful request.id (request.perform engine gameInstance) ↔
      (gameInstance.Connected → request.HeaderFits engine) := by
  cases request with
  | register loginId password nickname =>
    refine iff_of_true ((US1GameInstance.truthful_request_iff _ _).mpr fun _ pkt accepted => ?_) fun _ => trivial
    exact headerFits_of_le (registerPacket_fits accepted)
  | login loginId password => exact iff_of_true (truthful_login loginId password) fun _ => trivial
  | createRoom roomName maxPlayerCount =>
    rw [← createRoom_headerFits_iff]
    exact US1GameInstance.truthful_request_iff _ _
  | chat message =>
    rw [← chat_headerFits_iff]
    exact US1GameInstance.truthful_request_iff _ _

end TextRequest

/-! ### All requests -/

inductive Request where
  | text (request : TextRequest)
  | refresh
  | enterRoom (roomId : Int64)
  | changeTeam (team : UInt8)
  | ready (value : Bool)
  | leaveRoom
  | gameStart
  | returnRoom
  deriving DecidableEq, Repr

namespace Request
variable (engine : TextEngine)

def perform (gameInstance : US1GameInstance) : Request → Option (Bool × US1GameInstance)
  | .text request => request.perform engine gameInstance
  | .refresh => gameInstance.requestRefresh
  | .enterRoom roomId => gameInstance.requestEnterRoom roomId
  | .changeTeam team => gameInstance.requestChangeTeam team
  | .ready value => gameInstance.requestReady value
  | .leaveRoom => gameInstance.requestLeaveRoom
  | .gameStart => gameInstance.requestGameStart
  | .returnRoom => gameInstance.requestReturnRoom

/-- The id of the packet a request sends. -/
def id : Request → UInt16
  | .text request => request.id
  | .refresh => ClientPacket.roomList.id
  | .enterRoom _ => ClientPacket.enterRoom.id
  | .changeTeam _ => ClientPacket.changeTeam.id
  | .ready _ => ClientPacket.ready.id
  | .leaveRoom => ClientPacket.leaveRoom.id
  | .gameStart => ClientPacket.startMatch.id
  | .returnRoom => ClientPacket.returnToRoom.id

def HeaderFits : Request → Prop
  | .text request => request.HeaderFits engine
  | _ => True

variable {engine} {gameInstance : US1GameInstance}

/-- The messages without text are far below the limit. -/
theorem truthful_of_small [ProtoMessage M] (pktId : UInt16) (pkt : Option M)
    (small : ∀ p, pkt = some p → byteSizeLong p ≤ 11) :
    gameInstance.Truthful pktId (gameInstance.request pktId pkt) :=
  (US1GameInstance.truthful_request_iff pktId pkt).mpr fun _ p same =>
    headerFits_of_le ((small p same).trans (by decide))

theorem truthful_perform_iff (request : Request) :
    gameInstance.Truthful request.id (request.perform engine gameInstance) ↔
      (gameInstance.Connected → request.HeaderFits engine) := by
  cases request with
  | text request => exact request.truthful_perform_iff
  | refresh =>
    exact iff_of_true (truthful_of_small _ (some ({} : CRoomList)) fun _ _ => Nat.zero_le 11) fun _ => trivial
  | enterRoom roomId =>
    exact iff_of_true (truthful_of_small _ (US1GameInstance.enterRoomPacket roomId) fun pkt _ =>
      uintFieldSize_le pkt.roomId) fun _ => trivial
  | changeTeam team =>
    exact iff_of_true (truthful_of_small _ (some (US1GameInstance.changeTeamPacket team)) fun pkt _ =>
      enumFieldSize_le pkt.team.number) fun _ => trivial
  | ready value =>
    exact iff_of_true (truthful_of_small _ (some (CReady.mk value)) fun pkt _ =>
      (boolFieldSize_le pkt.ready).trans (by decide)) fun _ => trivial
  | leaveRoom =>
    exact iff_of_true (truthful_of_small _ (some ({} : CLeaveRoom)) fun _ _ => Nat.zero_le 11) fun _ => trivial
  | gameStart =>
    exact iff_of_true (truthful_of_small _ (some ({} : CStartMatch)) fun _ _ => Nat.zero_le 11) fun _ => trivial
  | returnRoom =>
    exact iff_of_true (truthful_of_small _ (some ({} : CReturnToRoom)) fun _ _ => Nat.zero_le 11) fun _ => trivial

end Request
end ArenaClient
