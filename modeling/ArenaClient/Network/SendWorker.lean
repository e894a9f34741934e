import ArenaClient.Base.Transition
import ArenaClient.Network.Messages

/-! The send path of one session: the game thread appends to the send queue, the
send worker takes buffers from it and pushes each through `Send` calls that may
accept part of it or fail, and `DisconnectFromGameServer` queues a last frame
and destroys the socket. The two threads interleave in any order. -/
namespace ArenaClient

/-- How a `Send` of some bytes ends. -/
inductive SendOutcome where
  | failed
  | accepted (count : Nat)
  deriving DecidableEq, Repr

/-- `BytesSent`: at least one byte and no more than asked. -/
def bytesSent (count size : Nat) : Nat := max 1 (min count size)

/-- The bytes a buffer puts on the wire: `WriteSize()` bytes from `Buffer()`. -/
def SendBuffer.bytes (sendBuffer : SendBuffer) : List UInt8 :=
  sendBuffer.buffer.take sendBuffer.writeSize.toNat

namespace SendWorker

/-- `SendWorker::SendDesiredBytes` against a list of outcomes: the bytes the
socket accepts, the result (`none` when the last `Send` has not come back) and
the outcomes that are left. -/
def sendDesiredBytes : List SendOutcome → List UInt8 → List UInt8 × Option Bool × List SendOutcome
  | outcomes, [] => ([], some true, outcomes)
  | [], _ :: _ => ([], none, [])
  | .failed :: outcomes, _ :: _ => ([], some false, outcomes)
  | .accepted count :: outcomes, byte :: buffer =>
    let sent := bytesSent count (byte :: buffer).length
    let (accepted, result) := sendDesiredBytes outcomes ((byte :: buffer).drop sent)
    ((byte :: buffer).take sent ++ accepted, result)

/-- `SendWorker::SendPacket`. -/
def sendPacket (outcomes : List SendOutcome) (sendBuffer : SendBuffer) :
    List UInt8 × Option Bool × List SendOutcome := sendDesiredBytes outcomes sendBuffer.bytes

end SendWorker

/-! ### Both threads -/

/-- Where the game thread stands with the connection. -/
inductive Connection where
  | connected
  /-- Inside `DisconnectFromGameServer`, behind the leave packet. -/
  | leaving
  | disconnected
  deriving DecidableEq, Repr

/-- What became of a buffer that the worker has taken. -/
structure Piece where
  frame : List UInt8
  bytes : List UInt8
  failed : Bool
  deriving DecidableEq, Repr

/-- A running `SendDesiredBytes`: `Buffer` and `Size`, with the frame it was
called for and the bytes it has sent of it. -/
structure Sending where
  frame : List UInt8
  sent : List UInt8
  buffer : List UInt8
  deriving DecidableEq, Repr

/-- The last two fields are history: what was ever queued, and the pieces of the
buffers the worker is done with. -/
structure SendPath where
  connection : Connection := .connected
  sendPacketQueue : List SendBuffer := []
  sending : Option Sending := none
  accepted : List UInt8 := []
  enqueued : List SendBuffer := []
  done : List Piece := []
  deriving DecidableEq, Repr

/-- The buffer that `SEND_PACKET(LeavePkt)` queues. -/
def leaveBuffer : SendBuffer :=
  { buffer := headerBytes 4 ClientPacket.leaveRoom.id, writeSize := 4 }

theorem makeSendBuffer_leave :
    makeSendBuffer Protocol.CLeaveRoom.mk ClientPacket.leaveRoom.id = some leaveBuffer := by decide

namespace SendPath

def enqueue (path : SendPath) (sendBuffer : SendBuffer) : SendPath :=
  { path with
    sendPacketQueue := path.sendPacketQueue ++ [sendBuffer]
    enqueued := path.enqueued ++ [sendBuffer] }

inductive Action where
  | sendPacket (sendBuffer : SendBuffer)
  | leave
  | destroySocket
  | dequeue
  | accept (count : Nat)
  | fail
  | finish
  deriving DecidableEq, Repr

/-- One step of either thread. The loop condition of the worker is left out: a
worker that is stopped only cuts a run short. A destroyed socket accepts
nothing. -/
inductive Step : SendPath → Action → SendPath → Prop where
  /-- `US1GameInstance::SendPacket`. -/
  | sendPacket (connected : path.connection = .connected) :
      Step path (.sendPacket sendBuffer) (path.enqueue sendBuffer)
  /-- `DisconnectFromGameServer` up to and including `SEND_PACKET(LeavePkt)`. -/
  | leave (connected : path.connection = .connected) :
      Step path .leave { path.enqueue leaveBuffer with connection := .leaving }
  /-- The rest of it: `DestroySocket(Socket); Socket = nullptr;`. -/
  | destroySocket (leaving : path.connection = .leaving) :
      Step path .destroySocket { path with connection := .disconnected }
  /-- The worker enters `SendPacket` with the head of the queue. -/
  | dequeue (idle : path.sending = none) (queued : path.sendPacketQueue = sendBuffer :: rest) :
      Step path .dequeue { path with
        sendPacketQueue := rest
        sending := some { frame := sendBuffer.bytes, sent := [], buffer := sendBuffer.bytes } }
  /-- A `Send` that takes `count` of the remaining bytes. -/
  | accept (live : path.connection ≠ .disconnected) (busy : path.sending = some hand)
      (positive : 0 < count) (bound : count ≤ hand.buffer.length) :
      Step path (.accept count) { path with
        sending := some { hand with
          sent := hand.sent ++ hand.buffer.take count, buffer := hand.buffer.drop count }
        accepted := path.accepted ++ hand.buffer.take count }
  /-- A `Send` that fails. `Run` drops the result and goes on with the queue. -/
  | fail (busy : path.sending = some hand) (desired : hand.buffer ≠ []) :
      Step path .fail { path with
        sending := none, done := path.done ++ [⟨hand.frame, hand.sent, true⟩] }
  /-- `Size` has come down to zero. -/
  | finish (busy : path.sending = some hand) (sent : hand.buffer = []) :
      Step path .finish { path with
        sending := none, done := path.done ++ [⟨hand.frame, hand.sent, false⟩] }

/-- Every buffer taken so far, the one in hand last. -/
def pieces (path : SendPath) : List Piece :=
  path.done ++ (path.sending.map fun hand => ⟨hand.frame, hand.sent, false⟩).toList

end SendPath
end ArenaClient
