import ArenaClient.Session.WholeCalls
import Mathlib.Data.List.Induction

/-! Which connection a dispatched packet came from. `HandleRecvPackets` looks at
the connection once, on its way into a loop that then runs until the queue is
empty, while the subscribers it calls may disconnect and connect again. -/
namespace ArenaClient.Lifetime
open Transition

namespace Session

variable {session next : Session} {action : Action} {held : Bool}

/-- Only `Enqueue` touches the queue. -/
theorem Step.recvPacketQueue (taken : Step held session action next)
    (other : ∀ packet, action ≠ .enqueue packet) : next.recvPacketQueue = session.recvPacketQueue := by
  cases taken with
  | enqueue => exact absurd rfl (other _)
  | _ => rfl

end Session

namespace Client

variable {client next : Client} {action : Action} {steps : List (Action × Client)}

/-- A packet handler runs only while the game instance is connected, and only on
what was received on that connection. -/
def Proper (client : Client) : Action → Prop
  | .dispatch _ received => client.socket = some received.socket
  | .dispatchFreed _ => False
  | _ => True

/-- The connection of the session is the one the game instance has. -/
def OnConnection (client : Client) (k : SessionId) : Prop :=
  client.socket = some (client.sessions k).socket

/-- What nobody may do while the packets of a session are being handled:
disconnect before the queue is empty, connect, or put a packet into the queue
once the connection is gone. -/
def Undisturbed (client : Client) : Action → Prop
  | .destroySocket => ∀ drain ∈ client.drains, (client.sessions drain.session).recvPacketQueue = []
  | .connectSucceeded => client.drains = []
  | .session k (.enqueue _) => (∃ drain ∈ client.drains, drain.session = k) → client.OnConnection k
  | _ => True

/-- A running drain belongs to the current session, and has nothing left to
handle when the connection is gone. -/
def Isolated (client : Client) : Prop :=
  ∀ drain ∈ client.drains, client.gameServerSession = some drain.session ∧
    (client.OnConnection drain.session ∨ (client.sessions drain.session).recvPacketQueue = [])

theorem isolated_start : Isolated {} := by
  intro drain member
  cases member

/-- Dropping a reference is no concern of the current session. -/
theorem Isolated.drop (isolated : Isolated client) (thread : Thread) (k : SessionId) :
    Isolated (client.drop thread k) := by
  rcases drop_cases client thread k with same | ⟨released, _, dropped⟩
  · rwa [same]
  · rw [dropped]
    intro drain member
    obtain ⟨current, either⟩ := isolated drain member
    have other : drain.session ≠ k := fun same => released (same ▸ current)
    constructor
    · exact current
    · rwa [OnConnection, sessions_setSession, if_neg other]

theorem Isolated.dropOld (isolated : Isolated client) (old : Option SessionId) :
    Isolated (client.dropOld old) := by
  cases old with
  | none => exact isolated
  | some k => exact isolated.drop .game k

theorem Isolated.setHandling (isolated : Isolated client) (handling : Bool)
    (running : client.drains = drain :: outer) :
    Isolated { client with drains := { session := drain.session, handling } :: outer } := by
  intro other member
  rcases List.mem_cons.mp member with rfl | older
  · exact isolated drain (running ▸ List.mem_cons_self)
  · exact isolated other (running ▸ List.mem_cons_of_mem _ older)

/-- While there is something to handle, the connection is that of the session. -/
theorem Isolated.onConnection (isolated : Isolated client) (running : client.drains = drain :: outer)
    (queued : (client.sessions drain.session).recvPacketQueue = received :: rest) :
    client.OnConnection drain.session := by
  have either := (isolated drain (running ▸ List.mem_cons_self)).2
  exact either.resolve_right (by simp [queued])

theorem Isolated.setSession (isolated : Isolated client)
    (socket : after.socket = (client.sessions k).socket)
    (queue : (∃ drain ∈ client.drains, drain.session = k) → client.OnConnection k ∨
      after.recvPacketQueue = (client.sessions k).recvPacketQueue) : Isolated (client.setSession k after) := by
  intro drain member
  obtain ⟨current, either⟩ := isolated drain member
  refine ⟨current, ?_⟩
  rw [OnConnection, sessions_setSession]
  split
  · rename_i here
    subst here
    rw [socket]
    rcases queue ⟨drain, member, rfl⟩ with on | same
    · exact .inl on
    · rwa [same]
  · exact either

theorem Isolated.session (isolated : Isolated client)
    (taken : Session.Step referenced (client.sessions k) act after)
    (undisturbed : client.Undisturbed (.session k act)) : Isolated (client.setSession k after) := by
  refine isolated.setSession taken.kept.socket fun drained => ?_
  cases act with
  | enqueue packet => exact .inl (undisturbed drained)
  | _ => exact .inr (taken.recvPacketQueue (by simp))

/-- Without a connection nothing is left to handle, so a new socket is none of
the running drains' business. -/
theorem Isolated.emptied (isolated : Isolated client)
    (off : ∀ drain ∈ client.drains, ¬ client.OnConnection drain.session)
    (drains : next.drains = client.drains) (current : next.gameServerSession = client.gameServerSession)
    (sessions : next.sessions = client.sessions) : Isolated next := by
  intro drain member
  rw [drains] at member
  obtain ⟨held, either⟩ := isolated drain member
  rw [current, sessions]
  exact ⟨held, .inr (either.resolve_left (off drain member))⟩

theorem Isolated.step (consistent : Consistent client) (isolated : Isolated client)
    (undisturbed : Undisturbed client action) (taken : Step client action next) : Isolated next := by
  cases taken with
  | createSocket may closed =>
    refine isolated.emptied (fun drain _ on => ?_) rfl rfl rfl
    exact nomatch closed.symm.trans on
  | connectFailed awake calling =>
    obtain ⟨connected, _, _, unused⟩ := consistent.connecting _ calling
    refine isolated.emptied (fun drain member on => ?_) rfl rfl rfl
    exact unused drain.session (consistent.drained drain member) (Option.some.inj (on.symm.trans connected))
  | connectSucceeded awake calling =>
    apply Isolated.dropOld
    have none : client.drains = [] := undisturbed
    intro drain member
    cases none ▸ member
  | startWorker awake calling => exact isolated.setSession rfl fun _ => .inr rfl
  | leave => exact isolated
  | destroySocket awake calling connected =>
    intro drain member
    exact ⟨(isolated drain member).1, .inr (undisturbed drain member)⟩
  | handleRecvPackets may connected valid =>
    intro drain member
    rcases List.mem_cons.mp member with rfl | older
    · have same := (consistent.connected (.inl may.2.1) _ _ connected valid).1
      exact ⟨valid, .inl (connected.trans (congrArg some same.symm))⟩
    · exact isolated drain older
  | dispatch awake idle looping alive queued =>
    have on := isolated.onConnection looping queued
    exact (isolated.setHandling true looping).setSession rfl fun _ => .inl on
  | dispatchFreed awake idle looping freed => exact isolated.setHandling true looping
  | handlerReturned awake idle handling => exact (isolated.setHandling false handling).drop .game _
  | drained awake idle looping empty =>
    exact fun drain member => isolated drain (looping ▸ List.mem_cons_of_mem _ member)
  | releaseSession may top valid =>
    apply Isolated.drop
    intro drain member
    cases top ▸ member
  | session taken other => exact isolated.session taken undisturbed
  | unpin taken =>
    apply Isolated.drop
    exact isolated.session taken trivial

theorem Isolated.proper (consistent : Consistent client) (isolated : Isolated client)
    (taken : Step client action next) : Proper client action := by
  cases taken with
  | dispatch awake idle looping alive queued =>
    have on := isolated.onConnection looping queued
    have received := (consistent.sound _).queue _ (queued ▸ List.mem_cons_self)
    exact on.trans (congrArg some received.symm)
  | dispatchFreed awake idle looping freed =>
    have valid := (isolated _ (looping ▸ List.mem_cons_self)).1
    have alive := (consistent.current _ valid).2
    simp [alive] at freed
  | _ => trivial

/-! ### A drain and what disturbs it -/

/-- The game thread is connected and idle, and this is left to be handled. -/
structure Waiting (client : Client) (s : SocketId) (k : SessionId) (pending : List Received) : Prop where
  awake : client.Awake
  idle : client.call = none
  top : client.drains = []
  connected : client.socket = some s
  valid : client.gameServerSession = some k
  alive : (client.sessions k).destructor = none
  receiving : (client.sessions k).worker .recv = some { socket := s }
  queued : (client.sessions k).recvPacketQueue = pending

theorem connected_run : ∃ steps, Run Step {} steps ∧ EveryStep Undisturbed {} steps ∧
    Waiting (final {} steps) 0 0 [] := by
  obtain ⟨run, may⟩ := connectSteps_run mayCall_start rfl rfl
  refine ⟨_, run, ?_, may.1, rfl, rfl, rfl, rfl, rfl, rfl, rfl⟩
  exact ⟨trivial, rfl, trivial, trivial, trivial⟩

theorem Waiting.mayCall (waiting : Waiting client s k pending) : client.MayCall :=
  ⟨waiting.awake, waiting.idle, by simp [waiting.top]⟩

/-- A pass of the receive worker that puts a packet into the queue. -/
theorem Waiting.receive (waiting : Waiting client s k pending) (packet : Packet) :
    ∃ steps, Run Step client steps ∧ EveryStep Undisturbed client steps ∧
      Waiting (final client steps) s k (pending ++ [⟨packet, s⟩]) := by
  have run := receiveSteps_run waiting.valid waiting.alive waiting.receiving rfl rfl packet
  have top := waiting.top
  have here : (final client (client.receiveSteps k { socket := s } packet)).sessions k =
      (client.sessions k).enqueue ⟨packet, s⟩ := sessions_setSession_self ..
  refine ⟨_, run, ⟨trivial, fun drained => ?_, trivial, trivial⟩, ?_⟩
  · obtain ⟨drain, member, _⟩ := drained
    cases top ▸ member
  · refine ⟨waiting.awake.setSession k waiting.alive, waiting.idle, top, waiting.connected,
      waiting.valid, ?_, ?_, ?_⟩
    · exact here ▸ waiting.alive
    · exact here ▸ waiting.receiving
    · rw [here, ← waiting.queued]
      rfl

/-- Any packets may be waiting. -/
theorem waiting_run (packets : List Packet) : ∃ steps, Run Step {} steps ∧
    EveryStep Undisturbed {} steps ∧
    Waiting (final {} steps) 0 0 (packets.map fun packet => ⟨packet, 0⟩) := by
  induction packets using List.reverseRecOn with
  | nil => exact connected_run
  | append_singleton packets packet ih =>
    obtain ⟨steps, run, undisturbed, waiting⟩ := ih
    obtain ⟨more, run', undisturbed', waiting'⟩ := waiting.receive packet
    refine ⟨steps ++ more, run.append run', everyStep_append.mpr ⟨undisturbed, undisturbed'⟩, ?_⟩
    rw [final_append, List.map_append]
    exact waiting'

/-- `HandleRecvPackets` from its guard to the end of its loop. -/
theorem Waiting.handle (waiting : Waiting client s k [received]) :
    ∃ steps, Run Step client steps ∧ EveryStep Undisturbed client steps ∧
      (∃ next, (.dispatch k received, next) ∈ steps) ∧ Waiting (final client steps) s k [] := by
  obtain ⟨awake, idle, top, connected, valid, alive, receiving, queued⟩ := id waiting
  let looping : Client := { client with drains := { session := k } :: client.drains }
  let handling : Client :=
    { looping.setSession k { looping.sessions k with recvPacketQueue := [] } with
      drains := { session := k, handling := true } :: client.drains }
  let returned : Client := { handling with drains := { session := k } :: client.drains }
  let drained : Client := { returned with drains := client.drains }
  have here : drained.sessions k = { client.sessions k with recvPacketQueue := [] } := sessions_setSession_self ..
  have inside : handling.Awake := Awake.setSession (k := k) awake alive
  have back : Step handling .handlerReturned returned := by
    have step : Step handling .handlerReturned _ := .handlerReturned inside idle rfl
    have kept : returned.drop .game k = returned := by
      apply drop_current
      exact valid
    rwa [← kept]
  have empty : (returned.sessions k).recvPacketQueue = [] := congrArg Session.recvPacketQueue here
  refine ⟨[(.handleRecvPackets, looping), (.dispatch k received, handling), (.handlerReturned, returned),
    (.drained, drained)], ⟨.handleRecvPackets waiting.mayCall connected valid, .dispatch awake idle rfl alive queued,
      back, .drained inside idle rfl (.inl empty), trivial⟩, ⟨trivial, trivial, trivial, trivial, trivial⟩,
    ⟨handling, by simp⟩, ⟨inside, idle, top, connected, valid, here ▸ alive, here ▸ receiving, empty⟩⟩

/-- The game thread disconnects in between. -/
theorem Waiting.leave (waiting : Waiting client s k pending) : Run Step client (client.disconnectSteps s) ∧
    EveryStep Undisturbed client (client.disconnectSteps s) ∧
      (final client (client.disconnectSteps s)).socket = none := by
  refine ⟨disconnectSteps_run waiting.mayCall waiting.connected waiting.valid, ⟨trivial, ?_, trivial⟩, rfl⟩
  intro drain member
  cases waiting.top ▸ member

/-- With two packets queued, a subscriber of the first that disconnects is
followed by the handler of the second. -/
theorem Waiting.leak (waiting : Waiting client s k (first :: second :: rest)) :
    ∃ steps, Run Step client steps ∧ ¬ EveryStep Proper client steps := by
  obtain ⟨awake, idle, top, connected, valid, alive, _, queued⟩ := id waiting
  let looping : Client := { client with drains := { session := k } :: client.drains }
  let handling : Client :=
    { looping.setSession k { looping.sessions k with recvPacketQueue := second :: rest } with
      drains := { session := k, handling := true } :: client.drains }
  let returned : Client :=
    { handling.destroySocket s with drains := { session := k } :: client.drains }
  have here : returned.sessions k = { client.sessions k with recvPacketQueue := second :: rest } :=
    sessions_setSession_self ..
  have remaining : (returned.sessions k).recvPacketQueue = second :: rest := by rw [here]
  have inside : handling.Awake := Awake.setSession (k := k) awake alive
  have entered : Run Step client [(.handleRecvPackets, looping), (.dispatch k first, handling)] :=
    ⟨.handleRecvPackets waiting.mayCall connected valid, .dispatch awake idle rfl alive queued, trivial⟩
  have left : Run Step handling (handling.disconnectSteps s) :=
    disconnectSteps_run ⟨inside, idle, by simp [handling]⟩ connected valid
  have back : Step (handling.destroySocket s) .handlerReturned returned := by
    have step : Step (handling.destroySocket s) .handlerReturned _ := .handlerReturned inside rfl rfl
    have kept : returned.drop .game k = returned := by
      apply drop_current
      exact valid
    rwa [← kept]
  have leak : Run Step (handling.destroySocket s) [(.handlerReturned, returned), (.dispatch k second, _)] :=
    ⟨back, .dispatch inside rfl rfl (by rwa [here]) remaining, trivial⟩
  refine ⟨_, entered.append (left.append leak), fun every => ?_⟩
  have last := (everyStep_append.mp (everyStep_append.mp every).2).2.2.1
  cases last

/-- As long as no drain is disturbed, connections do not leak into each other. -/
theorem proper_of_undisturbed (run : Run Step {} steps) (undisturbed : EveryStep Undisturbed {} steps) :
    EveryStep Proper {} steps :=
  everyStep_of_everyStep (P := Consistent) (fun _ _ _ => Consistent.step)
    (fun _ _ _ => Isolated.step) (fun _ _ _ => Isolated.proper)
    run consistent_start isolated_start undisturbed

/-- The packet is handled, the queue is empty, and only then the client disconnects. -/
theorem proper_while_connected : ∃ steps, Run Step {} steps ∧
    (∃ k received next, (.dispatch k received, next) ∈ steps) ∧ (final {} steps).socket = none ∧
      EveryStep Proper {} steps := by
  obtain ⟨steps, run, undisturbed, waiting⟩ := waiting_run [headerBytes 4 ServerPacket.login.id]
  obtain ⟨more, run', undisturbed', ⟨next, member⟩, waiting⟩ := waiting.handle
  obtain ⟨run'', undisturbed'', off⟩ := waiting.leave
  have whole := run.append (run'.append run'')
  have proper := proper_of_undisturbed whole
    (everyStep_append.mpr ⟨undisturbed, everyStep_append.mpr ⟨undisturbed', undisturbed''⟩⟩)
  have handled := List.mem_append_left (disconnectSteps (final (final {} steps) more) 0) member
  refine ⟨_, whole, ⟨_, _, next, List.mem_append_right steps handled⟩, ?_, proper⟩
  rw [final_append, final_append]
  exact off

/-- A subscriber of a failed login disconnects while another packet is queued. -/
theorem dispatch_after_disconnect : ∃ steps, Run Step {} steps ∧ ¬ EveryStep Proper {} steps := by
  obtain ⟨steps, run, _, waiting⟩ :=
    waiting_run [headerBytes 4 ServerPacket.login.id, headerBytes 4 ServerPacket.chat.id]
  obtain ⟨more, run', leaks⟩ := waiting.leak
  exact ⟨steps ++ more, run.append run', fun every => leaks (everyStep_append.mp every).2⟩

end Client
end ArenaClient.Lifetime
