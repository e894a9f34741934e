import ArenaClient.Network.Packet

/-! The receive worker of `NetworkWorker.cpp` against an arbitrary network. The
peer's bytes are in flight, then unread, then read. A schedule says for each
socket call how many bytes arrive before it and, for `Recv`, how many it hands
over; a worker is observed until its schedule ends. -/
namespace ArenaClient
open Bytes

/-- The receiving end of the connection. -/
structure FSocket where
  unread : List UInt8 := []
  inFlight : List UInt8 := []
  deriving DecidableEq, Repr

def FSocket.arrive (socket : FSocket) (count : Nat) : FSocket :=
  { unread := socket.unread ++ socket.inFlight.take count, inFlight := socket.inFlight.drop count }

/-- The surroundings of one socket call. `broken` is a `Recv` that returns
without bytes: the peer has closed or the connection failed. -/
structure Delivery where
  arrived : Nat
  handed : Nat := 0
  broken : Bool := false
  deriving DecidableEq, Repr

structure Network where
  socket : FSocket
  schedule : List Delivery
  deriving DecidableEq, Repr

/-- Everything the worker has not read yet, arrived or not. -/
def Network.stream (net : Network) : List UInt8 := net.socket.unread ++ net.socket.inFlight

/-- No `Recv` fails: each one blocks until a byte is there. -/
def Network.Intact (net : Network) : Prop := ∀ delivery ∈ net.schedule, delivery.broken = false

instance (net : Network) : Decidable net.Intact :=
  inferInstanceAs (Decidable (∀ delivery ∈ net.schedule, delivery.broken = false))

/-- Engine assertions that end the process. -/
inductive Fault where
  | addZeroed (count : Int)
  | indexOutOfRange (index length : Nat)
  | checkFailed
  deriving DecidableEq, Repr

/-- Why the worker is not running: its schedule ended inside a socket call, or
it failed an assertion. -/
inductive Stop where
  | waiting
  | fault (fault : Fault)
  deriving DecidableEq, Repr

abbrev SocketM := EStateM Stop Network

/-! ### The socket -/

/-- `FSocket::HasPendingData`, with the pending size it reports. -/
def hasPendingData : SocketM (Bool × Nat) := fun net =>
  match net.schedule with
  | [] => .error .waiting net
  | delivery :: schedule =>
    let socket := net.socket.arrive delivery.arrived
    .ok (!socket.unread.isEmpty, socket.unread.length) { socket, schedule }

/-- How many bytes a `Recv` of `size` bytes hands over when some are unread. -/
def Delivery.numRead (delivery : Delivery) (size : Nat) : Nat := max 1 (min delivery.handed size)

def recvFrom (size : Nat) : List Delivery → FSocket → EStateM.Result Stop Network (List UInt8)
  | [], socket => .error .waiting { socket, schedule := [] }
  | delivery :: schedule, socket =>
    let socket := socket.arrive delivery.arrived
    if delivery.broken then .ok [] { socket, schedule }
    -- Nothing to read yet: the call blocks over the next deliveries.
    else if socket.unread.isEmpty then recvFrom size schedule socket
    else .ok (socket.unread.take (delivery.numRead size))
      { socket := { socket with unread := socket.unread.drop (delivery.numRead size) }, schedule }

/-- `FSocket::Recv` on a blocking socket. -/
def recv (size : Nat) : SocketM (List UInt8) := fun net => recvFrom size net.schedule net.socket

/-! ### The worker -/

namespace RecvWorker

/-- The loop of `ReceiveDesiredBytes`. A round reads a byte or leaves the loop,
so as many rounds as bytes desired are enough. -/
def receiveLoop : Nat → Int → List UInt8 → SocketM (Bool × List UInt8)
  | 0, _, results => return (true, results)
  | rounds + 1, size, results =>
    if 0 < size then do
      let read ← recv size.toNat
      if size < read.length then
        throw (.fault .checkFailed)
      else if read.length ≤ 0 then
        return (false, results)
      else
        receiveLoop rounds (size - read.length) (results ++ read)
    else
      return (true, results)

/-- `RecvWorker::ReceiveDesiredBytes`, with the bytes it wrote to `Results`. -/
def receiveDesiredBytes (size : Int) : SocketM (Bool × List UInt8) := do
  let (pending, pendingDataSize) ← hasPendingData
  if pending = false ∨ pendingDataSize ≤ 0 then
    return (false, [])
  else
    receiveLoop size.toNat size []

/-- `TArray::AddZeroed`, which asserts a count of at least zero. -/
def addZeroed (array : List UInt8) (count : Int) : SocketM (List UInt8) :=
  if 0 ≤ count then return array ++ List.replicate count.toNat 0
  else throw (.fault (.addZeroed count))

/-- The range check of `TArray::operator[]`. -/
def checkIndex (array : List UInt8) (index : Nat) : SocketM Unit :=
  if index < array.length then return ()
  else throw (.fault (.indexOutOfRange index array.length))

/-- `RecvWorker::ReceivePacket`, with `OutPacket` as it leaves it. -/
def receivePacket : SocketM (Bool × Packet) := do
  let (received, headerBuffer) ← receiveDesiredBytes headerSize
  if received = false then
    return (false, [])
  else
    let header := FPacketHeader.read headerBuffer
    let payloadSize : Int := header.packetSize.toNat - headerSize
    if payloadSize = 0 then
      return (true, headerBuffer)
    else
      let outPacket ← addZeroed headerBuffer payloadSize
      checkIndex outPacket headerSize
      let (received, payload) ← receiveDesiredBytes payloadSize
      return (received, overwrite outPacket headerSize payload)

end RecvWorker

/-- The worker between two passes of `Run`, with the receive queue of the
session it pins, head first. -/
structure RecvWorker where
  net : Network
  recvPacketQueue : List Packet := []
  deriving DecidableEq, Repr

namespace RecvWorker

/-- One pass through the loop body of `RecvWorker::Run` while `Running` holds. -/
def pass (worker : RecvWorker) : Except (Stop × RecvWorker) RecvWorker :=
  match receivePacket worker.net with
  | .ok (true, packet) net => .ok { net, recvPacketQueue := worker.recvPacketQueue ++ [packet] }
  | .ok (false, _) net => .ok { worker with net }
  | .error stop net => .error (stop, { worker with net })

def runFor : Nat → RecvWorker → Stop × RecvWorker
  | 0, worker => (.waiting, worker)
  | passes + 1, worker =>
    match worker.pass with
    | .ok next => runFor passes next
    | .error stopped => stopped

/-- `RecvWorker::Run` until its schedule ends. Each pass polls the socket, so
there are at most as many passes as deliveries. -/
def run (worker : RecvWorker) : Stop × RecvWorker :=
  runFor (worker.net.schedule.length + 1) worker

/-- A worker whose peer has sent `bytes`, none of them arrived. -/
def start (bytes : List UInt8) (schedule : List Delivery) : RecvWorker :=
  { net := { socket := { inFlight := bytes }, schedule } }

end RecvWorker
end ArenaClient
