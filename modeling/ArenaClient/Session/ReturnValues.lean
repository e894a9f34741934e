import ArenaClient.Base.Calls
import ArenaClient.Game.Instance
import ArenaClient.Session.RoomRequests

/-! Connecting, disconnecting and the requests, in any order. Every request asks
for a socket and a session; that the two belong together is a matter of how the
connection comes and goes. -/
namespace ArenaClient.ReturnValues
open Calls Protocol

/-- The game instance, and the sessions it has replaced. -/
structure Client where
  game : GameInstance := {}
  replaced : List PacketSession := []

namespace Client
variable (client : Client)

def withConnection (connection : US1GameInstance) : Client :=
  { client with game := { client.game with toUS1GameInstance := connection } }

/-- `ConnectToGameServer`, given what `CreateSocket` and `Connect` make of it. A
null socket is followed all the same. -/
def connectToGameServer (createSocket : Option SocketId) (connects : Bool) : Option (Bool × Client) :=
  if client.game.socket.isSome then some (true, client)
  else match createSocket with
    | none => none
    | some socket =>
      let connection := { client.game.toUS1GameInstance with socket := some socket }
      if connects then
        let replaced := connection.gameServerSession.toList ++ client.replaced
        let connection := { connection with gameServerSession := some { socket } }
        some (true, { client with replaced }.withConnection connection)
      else some (false, client.withConnection { connection with socket := none })

/-- `DisconnectFromGameServer`, which keeps the session. -/
def disconnectFromGameServer : Option Client :=
  if client.game.Connected then do
    let connection ← client.game.toUS1GameInstance.send ({} : CLeaveRoom) ClientPacket.leaveRoom.id
    return client.withConnection { connection with socket := none }
  else some client

/-- Where there is a socket there is a session of that socket. -/
def Coupled : Prop := ∀ socket, client.game.socket = some socket →
  ∃ session, client.game.gameServerSession = some session ∧ session.socket = socket

end Client

inductive Call where
  | connect (createSocket : Option SocketId) (connects : Bool)
  | disconnect
  | request (request : Request)

/-- A call, with its return value if it has one. -/
def perform (engine : TextEngine) (client : Client) : Call → Option (Option Bool × Client)
  | .connect createSocket connects => (client.connectToGameServer createSocket connects).map (Prod.map some id)
  | .disconnect => client.disconnectFromGameServer.map (none, ·)
  | .request request =>
    (request.perform engine client.game.toUS1GameInstance).map fun (returned, connection) =>
      (some returned, client.withConnection connection)

/-- What is asked of a call. A request returns; on true one frame with its own id
has gone to the queue of the session, and on false nothing but a broadcast of
`OnLoginFailed` has happened. Every call leaves socket and session together. -/
def Truthful (client : Client) (call : Call) (outcome : Option (Option Bool × Client)) : Prop :=
  match call with
  | .request request => ∃ returned next, outcome = some (some returned, next) ∧
      next.Coupled ∧
      (returned = true → ∃ session sendBuffer, client.game.gameServerSession = some session ∧
        sendBuffer.IsFrame request.id ∧ next = client.withConnection
          { client.game.toUS1GameInstance with
            gameServerSession := some (session.sendPacket sendBuffer) }) ∧
      (returned = false → ∃ onLoginFailed,
        next = client.withConnection { client.game.toUS1GameInstance with onLoginFailed })
  | _ => ∀ returned next, outcome = some (returned, next) → next.Coupled

/-- In a connected state the message has room for its header. -/
def Guarded (engine : TextEngine) (client : Client) : Call → Prop
  | .request request => client.game.Connected → request.HeaderFits engine
  | _ => True

variable {engine : TextEngine} {client next : Client}

theorem coupled_connect (coupled : client.Coupled) (createSocket : Option SocketId) (connects : Bool) :
    Truthful client (.connect createSocket connects) (perform engine client (.connect createSocket connects)) := by
  intro returned next outcome
  obtain ⟨⟨answer, next⟩, taken, same⟩ := Option.map_eq_some_iff.mp outcome
  obtain ⟨_, rfl⟩ := Prod.mk.inj same
  unfold Client.connectToGameServer at taken
  split at taken
  · obtain ⟨_, rfl⟩ := Prod.mk.inj (Option.some.inj taken)
    exact coupled
  · cases createSocket with
    | none => exact absurd taken.symm (Option.some_ne_none _)
    | some created =>
      cases connects with
      | true =>
        obtain ⟨_, rfl⟩ := Prod.mk.inj (Option.some.inj taken)
        intro socket same
        exact ⟨{ socket := created }, rfl, Option.some.inj same⟩
      | false =>
        obtain ⟨_, rfl⟩ := Prod.mk.inj (Option.some.inj taken)
        intro socket none
        exact absurd none.symm (Option.some_ne_none _)

theorem coupled_disconnect (coupled : client.Coupled) :
    Truthful client .disconnect (perform engine client .disconnect) := by
  intro returned next outcome
  obtain ⟨next, taken, same⟩ := Option.map_eq_some_iff.mp outcome
  obtain ⟨_, rfl⟩ := Prod.mk.inj same
  rw [Client.disconnectFromGameServer] at taken
  split at taken
  · obtain ⟨connection, _, left⟩ := Option.bind_eq_some_iff.mp taken
    obtain rfl := Option.some.inj left
    intro socket none
    exact absurd none.symm (Option.some_ne_none _)
  · obtain rfl := Option.some.inj taken
    exact coupled

/-- What the client takes over from the connection decides for the client. -/
theorem truthful_request_iff (coupled : client.Coupled) (request : Request) :
    Truthful client (.request request) (perform engine client (.request request)) ↔
      client.game.Truthful request.id (request.perform engine client.game.toUS1GameInstance) := by
  constructor
  · rintro ⟨returned, next, outcome, _, sent, unsent⟩
    obtain ⟨⟨answer, connection⟩, taken, same⟩ := Option.map_eq_some_iff.mp outcome
    obtain ⟨answered, rfl⟩ := Prod.mk.inj same
    obtain rfl := Option.some.inj answered
    refine ⟨answer, connection, taken, fun yes => ?_, fun no => ?_⟩
    · obtain ⟨session, sendBuffer, valid, isFrame, appended⟩ := sent yes
      exact ⟨session, sendBuffer, valid, isFrame, congrArg (·.game.toUS1GameInstance) appended⟩
    · obtain ⟨onLoginFailed, kept⟩ := unsent no
      exact ⟨congrArg (·.game.socket) kept, congrArg (·.game.gameServerSession) kept⟩
  · rintro ⟨returned, connection, taken, sent, unsent⟩
    refine ⟨returned, client.withConnection connection, by rw [perform, taken, Option.map_some], ?_,
      fun yes => ?_, fun no => ?_⟩
    · cases returned with
      | true =>
        obtain ⟨session, sendBuffer, valid, _, rfl⟩ := sent rfl
        intro socket same
        obtain ⟨session', valid', own⟩ := coupled socket same
        obtain rfl := Option.some.inj (valid.symm.trans valid')
        exact ⟨session.sendPacket sendBuffer, rfl, own⟩
      | false =>
        obtain ⟨sameSocket, sameSession⟩ := unsent rfl
        intro socket same
        obtain ⟨session, valid, own⟩ := coupled socket (sameSocket.symm.trans same)
        exact ⟨session, sameSession.trans valid, own⟩
    · obtain ⟨session, sendBuffer, valid, isFrame, rfl⟩ := sent yes
      exact ⟨session, sendBuffer, valid, isFrame, rfl⟩
    · obtain ⟨socket, gameServerSession, onLoginFailed⟩ := connection
      obtain ⟨rfl, rfl⟩ := unsent no
      exact ⟨onLoginFailed, rfl⟩

theorem truthful_iff_guarded (coupled : client.Coupled) (call : Call) :
    Truthful client call (perform engine client call) ↔ Guarded engine client call := by
  cases call with
  | connect createSocket connects => exact iff_of_true (coupled_connect coupled createSocket connects) trivial
  | disconnect => exact iff_of_true (coupled_disconnect coupled) trivial
  | request request =>
    rw [truthful_request_iff coupled request]
    exact request.truthful_perform_iff

theorem coupled_of_truthful {call : Call} {answer : Option Bool}
    (truthful : Truthful client call (some (answer, next))) : next.Coupled := by
  cases call with
  | connect | disconnect => exact truthful answer next rfl
  | request request =>
    obtain ⟨returned, after, outcome, coupled, _⟩ := truthful
    obtain ⟨_, rfl⟩ := Prod.mk.inj (Option.some.inj outcome)
    exact coupled

/-- In a run of calls every return value tells the truth, and socket and session
stay together, exactly when no message that a connected client sends wraps to a
size that leaves its header out. -/
theorem returnValues_truthful_iff (engine : TextEngine) (client : Client) (coupled : client.Coupled)
    (calls : List Call) :
    EveryCall (perform engine) Truthful client calls ↔
      EveryCall (perform engine) (fun client call _ => Guarded engine client call) client calls :=
  everyCall_iff (I := Client.Coupled) (fun _ call together => truthful_iff_guarded together call)
    (fun _ _ _ _ _ => coupled_of_truthful) coupled calls

theorem coupled_start : Client.Coupled {} := fun _ none => absurd none.symm (Option.some_ne_none _)

/-- A request before there is a connection, one with an id that is refused, and one
after connecting anew. -/
theorem requests_truthful_after_reconnect :
    EveryCall (perform TextRequest.asciiEngine) Truthful {}
      [.request .refresh, .connect (some 0) false, .connect (some 1) true, .request (.enterRoom 0),
        .disconnect, .connect (some 2) true, .request .leaveRoom] := by
  refine (returnValues_truthful_iff TextRequest.asciiEngine {} coupled_start _).mpr ?_
  refine ⟨fun _ => trivial, fun _ _ _ => ⟨trivial, fun _ _ _ => ⟨trivial, fun _ _ _ => ⟨fun _ => trivial, ?_⟩⟩⟩⟩
  exact fun _ _ _ => ⟨trivial, fun _ _ _ => ⟨trivial, fun _ _ _ => ⟨fun _ => trivial, fun _ _ _ => trivial⟩⟩⟩

/-- A text whose frame size wraps to one: the header does not fit. -/
theorem headerFits_letters : ¬ (TextRequest.chat (List.replicate 131065 0x61)).HeaderFits
    TextRequest.asciiEngine := by
  have digits : Protobuf.varintSize 131065 = 3 := by decide
  rw [TextRequest.HeaderFits, TextRequest.trimStartAndEnd_letters,
    TextRequest.stringFieldSize_letters 131065 (by decide), digits]
  decide

/-- `RequestChat` accepts that text from a client that has just connected. -/
theorem long_chat_untruthful :
    ¬ EveryCall (perform TextRequest.asciiEngine) Truthful {}
      [.connect (some 0) true, .request (.text (.chat (List.replicate 131065 0x61)))] := by
  rintro ⟨_, later⟩
  obtain ⟨truthful, _⟩ := later (some true) _ rfl
  have coupled := coupled_of_truthful (@coupled_connect TextRequest.asciiEngine _ coupled_start (some 0) true)
  exact headerFits_letters ((truthful_iff_guarded coupled _).mp truthful (by decide))

end ArenaClient.ReturnValues
