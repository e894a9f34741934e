import ArenaClient.Base.Transition
import ArenaClient.Session.GameInstance
import Mathlib.Logic.Function.Basic

/-! Who is alive while the connection comes and goes: the game thread inside
`US1GameInstance` and `PacketSession`, and the two worker threads of each
session. A session lives as long as someone holds a strong reference to it; the
thread that drops the last one runs `~PacketSession`. Sockets and worker objects
are not counted: they end where the code ends them. -/
namespace ArenaClient.Lifetime

abbrev SessionId := Nat

inductive Role where
  | recv | send
  deriving DecidableEq, Repr

/-- The reference that a pass of `Run` takes with `SessionRef.Pin()`. A receive
worker enqueues its packet under it. -/
inductive Pin where
  | free | taken | used
  deriving DecidableEq, Repr

/-- How far a pass gets with its reference before it drops it. -/
def Role.lastPin : Role → Pin
  | .recv => .used
  | .send => .taken

/-- A worker object with its thread. `inRun` holds until the thread has left the
loop, `released` from when the session has let go of the object. -/
structure Worker where
  socket : SocketId
  running : Bool := true
  inRun : Bool := true
  released : Bool := false
  pin : Pin := .free
  deriving DecidableEq, Repr

inductive Thread where
  | game
  | worker (role : Role)
  deriving DecidableEq, Repr

/-- A received packet, with the socket it came from. -/
structure Received where
  packet : Packet
  socket : SocketId
  deriving DecidableEq, Repr

/-! ### One session -/

/-- A `PacketSession`, with the thread that runs its destructor once it is no
longer referenced. -/
structure Session where
  socket : SocketId
  worker : Role → Option Worker := fun _ => none
  recvPacketQueue : List Received := []
  destructor : Option Thread := none

namespace Session

def setWorker (session : Session) (role : Role) (worker : Worker) : Session :=
  { session with worker := Function.update session.worker role (some worker) }

def enqueue (session : Session) (received : Received) : Session :=
  { session with recvPacketQueue := session.recvPacketQueue ++ [received] }

def pinned (session : Session) (role : Role) : Bool := (session.worker role).any (·.pin ≠ .free)

def Gone (session : Session) (role : Role) : Prop :=
  ∀ worker, session.worker role = some worker → worker.released = true

/-- The thread is inside `~PacketSession`. -/
def Destructing (session : Session) (thread : Thread) : Prop :=
  session.destructor = some thread ∧ ¬ ∀ role, session.Gone role

/-- What its worker threads and its destructor do to a session. -/
inductive Action where
  | pin (role : Role)
  | enqueue (packet : Packet)
  | unpin (role : Role)
  | exit (role : Role)
  | destroy (role : Role)
  | release (role : Role)
  deriving DecidableEq, Repr

/-- One step of a worker thread or of the destructor. `held` says whether the
session is referenced at all. Between its steps on the session a pass is in
socket calls, which are not repeated here. -/
inductive Step (held : Bool) (session : Session) : Action → Session → Prop where
  /-- `SessionRef.Pin()`: a reference only if there still is one. -/
  | pin (found : session.worker role = some w) (inRun : w.inRun = true) (idle : w.pin = .free)
      (awake : ¬ session.Destructing (.worker role)) (alive : held = true) :
      Step held session (.pin role) (session.setWorker role { w with pin := .taken })
  /-- `Session->RecvPacketQueue.Enqueue(Packet)`. -/
  | enqueue (found : session.worker .recv = some w) (pinned : w.pin = .taken) :
      Step held session (.enqueue packet)
        ((session.enqueue ⟨packet, w.socket⟩).setWorker .recv { w with pin := .used })
  /-- The reference goes out of scope. -/
  | unpin (found : session.worker role = some w) (last : w.pin = role.lastPin) :
      Step held session (.unpin role) (session.setWorker role { w with pin := .free })
  /-- `while (Running)` ends. -/
  | exit (found : session.worker role = some w) (inRun : w.inRun = true) (stopped : w.running = false)
      (idle : w.pin = .free) (awake : ¬ session.Destructing (.worker role)) :
      Step held session (.exit role) (session.setWorker role { w with inRun := false })
  /-- `RecvWorkerThread->Destroy()`, or the same for the send worker, whose turn
  is second. -/
  | destroy (ended : session.destructor = some thread) (order : role = .send → session.Gone .recv)
      (found : session.worker role = some w) (running : w.running = true) :
      Step held session (.destroy role) (session.setWorker role { w with running := false })
  /-- `RecvWorkerThread = nullptr`, or the same for the send worker. -/
  | release (ended : session.destructor = some thread) (found : session.worker role = some w)
      (stopped : w.running = false) (kept : w.released = false) :
      Step held session (.release role) (session.setWorker role { w with released := true })

end Session

/-! ### The client -/

/-- A call that the game thread is in the middle of. -/
inductive Call where
  /-- `ConnectToGameServer` behind `CreateSocket`. -/
  | connecting (socket : SocketId)
  /-- `PacketSession::Run` before it makes the worker. -/
  | starting (session : SessionId) (role : Role)
  /-- `DisconnectFromGameServer` behind `SEND_PACKET(LeavePkt)`. -/
  | leaving
  deriving DecidableEq, Repr

/-- A running `PacketSession::HandleRecvPackets`. While a packet is handled the
loop holds `ThisPtr`, and a subscriber of the handler may call back. -/
structure Drain where
  session : SessionId
  handling : Bool := false
  deriving DecidableEq, Repr

/-- Sockets and sessions are numbered in the order they are made. -/
structure Client where
  nextSocket : SocketId := 0
  live : SocketId → Bool := fun _ => false
  nextSession : SessionId := 0
  sessions : SessionId → Session := fun _ => { socket := 0 }
  socket : Option SocketId := none
  gameServerSession : Option SessionId := none
  call : Option Call := none
  drains : List Drain := []

namespace Client

def setSession (client : Client) (k : SessionId) (session : Session) : Client :=
  { client with sessions := Function.update client.sessions k session }

/-- Some strong reference to the session exists. -/
def held (client : Client) (k : SessionId) : Bool :=
  client.gameServerSession == some k || (client.sessions k).pinned .recv ||
    (client.sessions k).pinned .send || client.drains.any fun drain => drain.session == k && drain.handling

/-- The thread has dropped a reference to the session; if it was the last one,
the thread goes on into the destructor. -/
def drop (client : Client) (thread : Thread) (k : SessionId) : Client :=
  if client.held k ∨ (client.sessions k).destructor.isSome then client
  else client.setSession k { client.sessions k with destructor := some thread }

def dropOld (client : Client) : Option SessionId → Client
  | none => client
  | some k => client.drop .game k

/-- `Socket = CreateSocket(..)`. -/
def createSocket (client : Client) : Client :=
  { client with
    nextSocket := client.nextSocket + 1
    live := Function.update client.live client.nextSocket true
    socket := some client.nextSocket
    call := some (.connecting client.nextSocket) }

/-- `DestroySocket(Socket); Socket = nullptr;` at the end of a call. -/
def destroySocket (client : Client) (socket : SocketId) : Client :=
  { client with live := Function.update client.live socket false, socket := none, call := none }

/-- `GameServerSession = MakeShared<PacketSession>(Socket)`: the old session
loses its reference. -/
def makeSession (client : Client) (socket : SocketId) : Client :=
  let made := client.setSession client.nextSession { socket }
  { made with
    nextSession := client.nextSession + 1
    gameServerSession := some client.nextSession
    call := some (.starting client.nextSession .recv) }.dropOld client.gameServerSession

/-- `MakeShared<RecvWorker>(Socket, AsShared())` or the same for the send
worker: the thread starts. -/
def startWorker (client : Client) (k : SessionId) (role : Role) : Client :=
  let session := client.sessions k
  { client.setSession k (session.setWorker role { socket := session.socket }) with
    call := if role = .recv then some (.starting k .send) else none }

/-- The game thread is not inside a destructor. -/
def Awake (client : Client) : Prop := ∀ k, ¬ (client.sessions k).Destructing .game

/-- The game thread may enter a method of `US1GameInstance`: at the top level,
or from a subscriber of the packet that is being handled. -/
def MayCall (client : Client) : Prop :=
  client.Awake ∧ client.call = none ∧ ∀ drain ∈ client.drains.head?, drain.handling = true

inductive Action where
  | createSocket
  | connectFailed
  | connectSucceeded
  | startWorker (k : SessionId) (role : Role)
  | leave
  | destroySocket
  | handleRecvPackets
  | dispatch (k : SessionId) (received : Received)
  | dispatchFreed (received : Received)
  | handlerReturned
  | drained
  | releaseSession
  | session (k : SessionId) (action : Session.Action)
  | unpin (k : SessionId) (role : Role)
  deriving DecidableEq, Repr

inductive Step (client : Client) : Action → Client → Prop where
  /-- `ConnectToGameServer` without a socket; with one it returns at once. -/
  | createSocket (may : client.MayCall) (closed : client.socket = none) :
      Step client .createSocket client.createSocket
  | connectFailed (awake : client.Awake) (calling : client.call = some (.connecting s)) :
      Step client .connectFailed (client.destroySocket s)
  | connectSucceeded (awake : client.Awake) (calling : client.call = some (.connecting s)) :
      Step client .connectSucceeded (client.makeSession s)
  | startWorker (awake : client.Awake) (calling : client.call = some (.starting k role)) :
      Step client (.startWorker k role) (client.startWorker k role)
  /-- `DisconnectFromGameServer` behind its guard. -/
  | leave (may : client.MayCall) (connected : client.socket = some s)
      (valid : client.gameServerSession = some k) : Step client .leave { client with call := some .leaving }
  | destroySocket (awake : client.Awake) (calling : client.call = some .leaving)
      (connected : client.socket = some s) : Step client .destroySocket (client.destroySocket s)
  /-- `US1GameInstance::HandleRecvPackets` behind its guard, into the loop of
  `PacketSession::HandleRecvPackets`. -/
  | handleRecvPackets (may : client.MayCall) (connected : client.socket = some s)
      (valid : client.gameServerSession = some k) :
      Step client .handleRecvPackets { client with drains := { session := k } :: client.drains }
  /-- `Dequeue` returns a packet and `HandlePacket` is called with `ThisPtr`. -/
  | dispatch (awake : client.Awake) (idle : client.call = none)
      (looping : client.drains = { session := k, handling := false } :: outer)
      (alive : (client.sessions k).destructor = none)
      (queued : (client.sessions k).recvPacketQueue = received :: rest) :
      Step client (.dispatch k received)
        { client.setSession k { client.sessions k with recvPacketQueue := rest } with
          drains := { session := k, handling := true } :: outer }
  /-- The session that the loop belongs to is gone: anything may come out of the
  memory that was its queue. -/
  | dispatchFreed (awake : client.Awake) (idle : client.call = none)
      (looping : client.drains = { session := k, handling := false } :: outer)
      (freed : (client.sessions k).destructor.isSome = true) :
      Step client (.dispatchFreed received)
        { client with drains := { session := k, handling := true } :: outer }
  /-- `ThisPtr` goes out of scope. -/
  | handlerReturned (awake : client.Awake) (idle : client.call = none)
      (handling : client.drains = { session := k, handling := true } :: outer) :
      Step client .handlerReturned
        (Client.drop { client with drains := { session := k, handling := false } :: outer } .game k)
  /-- `Dequeue` returns false. -/
  | drained (awake : client.Awake) (idle : client.call = none)
      (looping : client.drains = { session := k, handling := false } :: outer)
      (empty : (client.sessions k).recvPacketQueue = [] ∨ (client.sessions k).destructor.isSome = true) :
      Step client .drained { client with drains := outer }
  /-- The game instance goes away, and with it its reference. -/
  | releaseSession (may : client.MayCall) (top : client.drains = [])
      (valid : client.gameServerSession = some k) :
      Step client .releaseSession (Client.drop { client with gameServerSession := none } .game k)
  | session (taken : Session.Step (client.held k) (client.sessions k) action next)
      (other : ∀ role, action ≠ .unpin role) :
      Step client (.session k action) (client.setSession k next)
  /-- A worker drops its reference, which may be the last one. -/
  | unpin (taken : Session.Step (client.held k) (client.sessions k) (.unpin role) next) :
      Step client (.unpin k role) ((client.setSession k next).drop (.worker role) k)

end Client
end ArenaClient.Lifetime
