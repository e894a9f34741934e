import ArenaClient.Network.FrameStream
import ArenaClient.Network.GeneratedProofs
import ArenaClient.Network.SendAlignment

/-! What a server that has the same generated classes reads of the messages that
the client puts into its send queue, whichever way the two threads interleave. -/
namespace ArenaClient
open Protocol Protobuf Transition

/-! ### Messages and their classes -/

/-- A message that the client fills in, as its generated class. -/
class ClientMessage (M : Type) extends ProtoMessage M where
  type : ClientPacket
  generated : M → Generated.Carrier (.client type)
  serialize_eq : ∀ pkt, serialize pkt = Generated.internalSerialize (.client type) (generated pkt)

namespace ClientMessage

instance : ClientMessage CRegister where
  type := .register
  generated pkt := { loginId := pkt.loginId, password := pkt.password, nickname := pkt.nickname }
  serialize_eq pkt := by
    change _ ++ _ ++ _ = _ ++ (_ ++ (_ ++ []))
    rw [List.append_nil, List.append_assoc]
    rfl

instance : ClientMessage CLogin where
  type := .login
  generated pkt := { loginId := pkt.loginId, password := pkt.password }
  serialize_eq pkt := by
    change _ ++ _ = _ ++ (_ ++ [])
    rw [List.append_nil]
    rfl

instance : ClientMessage CCreateRoom where
  type := .createRoom
  generated pkt := { roomName := pkt.roomName, maxPlayerCount := pkt.maxPlayerCount }
  serialize_eq pkt := by
    change _ ++ _ = _ ++ (_ ++ [])
    rw [List.append_nil]
    rfl

instance : ClientMessage CChat where
  type := .chat
  generated pkt := { msg := pkt.msg }
  serialize_eq _ := (List.append_nil _).symm

instance : ClientMessage CLeaveRoom where
  type := .leaveRoom
  generated _ := {}
  serialize_eq _ := rfl

instance : ClientMessage CMatchPrepare where
  type := .matchPrepare
  generated _ := {}
  serialize_eq _ := rfl

instance : ClientMessage CRoomList where
  type := .roomList
  generated _ := {}
  serialize_eq _ := rfl

instance : ClientMessage CStartMatch where
  type := .startMatch
  generated _ := {}
  serialize_eq _ := rfl

instance : ClientMessage CReturnToRoom where
  type := .returnToRoom
  generated _ := {}
  serialize_eq _ := rfl

instance : ClientMessage CEnterRoom where
  type := .enterRoom
  generated pkt := { roomId := pkt.roomId }
  serialize_eq _ := (List.append_nil _).symm

instance : ClientMessage CChangeTeam where
  type := .changeTeam
  generated pkt := { team := pkt.team.number }
  serialize_eq _ := (List.append_nil _).symm

instance : ClientMessage CReady where
  type := .ready
  generated pkt := { ready := pkt.ready }
  serialize_eq _ := (List.append_nil _).symm

instance : ClientMessage CHit where
  type := .hit
  generated pkt := { targetObjectId := pkt.targetObjectId }
  serialize_eq _ := (List.append_nil _).symm

instance : ClientMessage CFire where
  type := .fire
  generated pkt :=
    { objectId := pkt.objectId, spawnX := pkt.spawnX, spawnY := pkt.spawnY, spawnZ := pkt.spawnZ,
      directionX := pkt.directionX, directionY := pkt.directionY, directionZ := pkt.directionZ }
  serialize_eq pkt := by
    change _ ++ _ ++ _ ++ _ ++ _ ++ _ ++ _ = _ ++ (_ ++ (_ ++ (_ ++ (_ ++ (_ ++ (_ ++ []))))))
    simp only [List.append_nil, List.append_assoc]
    rfl

/-- `MoveInfo` as the client fills it in. -/
def moveInfo (info : MoveInfo) : Generated.MoveInfo :=
  { x := info.x, y := info.y, z := info.z, yaw := info.yaw, state := info.state.number }

theorem serialize_moveInfo (info : MoveInfo) :
    serialize info = @Schema.internalSerialize Generated.protocol 4 .moveInfo (moveInfo info) := by
  change _ ++ _ ++ _ ++ _ ++ _ = _ ++ (_ ++ (_ ++ (_ ++ (_ ++ []))))
  simp only [List.append_nil, List.append_assoc]
  rfl

instance : ClientMessage CMove where
  type := .move
  generated pkt := { moveInfo := some (moveInfo pkt.moveInfo) }
  serialize_eq pkt := by
    have size : (serialize pkt.moveInfo).length =
        @Schema.byteSizeLong Generated.protocol 4 .moveInfo (moveInfo pkt.moveInfo) := by
      rw [serialize_moveInfo]
      exact @Schema.length_internalSerialize Generated.protocol _ _ _
    change messageField 1 (serialize pkt.moveInfo) = internalWriteMessage 1
      (@Schema.byteSizeLong Generated.protocol 4 .moveInfo (moveInfo pkt.moveInfo))
      (@Schema.internalSerialize Generated.protocol 4 .moveInfo (moveInfo pkt.moveInfo)) ++ []
    rw [List.append_nil, ← size, ← serialize_moveInfo]
    rfl

end ClientMessage

/-! ### Posted messages -/

/-- A message of the client that is small enough for a frame. -/
structure Posted where
  type : ClientPacket
  pkt : Generated.Carrier (.client type)
  fits : Generated.byteSizeLong (.client type) pkt ≤ maxDataSize

namespace Posted

def frame (posted : Posted) : Frame where
  id := posted.type.id
  payload := Generated.internalSerialize (.client posted.type) posted.pkt
  fits := by
    rw [Generated.length_serialize_eq]
    exact posted.fits

def buffer (posted : Posted) : SendBuffer := { buffer := posted.frame.encode, writeSize := posted.frame.size }

/-- The id says which class to parse, and the class gives the message back if its
text is UTF-8, and nothing otherwise. -/
structure Parses (posted : Posted) : Prop where
  id : (PacketHeader.ofBuffer posted.frame.encode).id = posted.type.id
  parsed : Generated.validUtf8 (.client posted.type) posted.pkt →
    Generated.parseFromArray (.client posted.type) (posted.frame.encode.drop headerSize) = some posted.pkt
  refused : ¬ Generated.validUtf8 (.client posted.type) posted.pkt →
    Generated.parseFromArray (.client posted.type) (posted.frame.encode.drop headerSize) = none

theorem parseFromArray_frame (posted : Posted) :
    Generated.parseFromArray (.client posted.type) (posted.frame.encode.drop headerSize) =
      if Generated.validUtf8 (.client posted.type) posted.pkt then some posted.pkt else none := by
  have payload : posted.frame.encode.drop headerSize = posted.frame.payload :=
    List.drop_left' posted.frame.length_header
  rw [payload]
  exact (@Schema.parseFromArray_eq_decode Generated.protocol _ _).trans
    (Generated.decode_serialize _ posted.pkt (posted.fits.trans (by decide)))

theorem parses (posted : Posted) : posted.Parses where
  id := by rw [Frame.ofBuffer_encode, frame]
  parsed utf8 := by rw [parseFromArray_frame, if_pos utf8]
  refused broken := by rw [parseFromArray_frame, if_neg broken]

@[simp] theorem bytes_buffer (posted : Posted) : posted.buffer.bytes = posted.frame.encode := by
  rw [SendBuffer.bytes, buffer, Int.toNat_natCast, ← Frame.length_encode, List.take_length]

/-- The generated message of one that fits. -/
def of {M : Type} [ClientMessage M] (pkt : M) (fits : byteSizeLong pkt ≤ maxDataSize) : Posted where
  type := ClientMessage.type M
  pkt := ClientMessage.generated pkt
  fits := by
    rw [← Generated.length_serialize_eq, ← ClientMessage.serialize_eq, length_serialize]
    exact fits

theorem makeSendBuffer_of {M : Type} [ClientMessage M] (pkt : M) (fits : byteSizeLong pkt ≤ maxDataSize) :
    makeSendBuffer pkt (ClientMessage.type M).id = some (of pkt fits).buffer := by
  have same : frameOf pkt (ClientMessage.type M).id fits = (of pkt fits).frame :=
    Frame.mk.injEq .. ▸ ⟨rfl, ClientMessage.serialize_eq pkt⟩
  have size : ((of pkt fits).frame.size : Int) = ↑(headerSize + byteSizeLong pkt) := by
    rw [← same, size_frameOf]
  rw [makeSendBuffer_fits pkt _ fits, same, buffer, size]

end Posted

/-! ### On the wire -/

namespace SendPath
variable {path next : SendPath} {posted : List Posted} {steps : List (Action × SendPath)}

theorem bytes_posted (queued : path.enqueued = posted.map Posted.buffer) :
    path.enqueued.map SendBuffer.bytes = posted.map fun posted => posted.frame.encode := by
  rw [queued, List.map_map]
  exact List.map_congr_left fun posted _ => posted.bytes_buffer

/-- No `Send` has failed. -/
def Unfailed (path : SendPath) : Prop := ∀ piece ∈ path.done, piece.failed = false

theorem Unfailed.step (unfailed : path.Unfailed) (succeeds : action ≠ .fail) (taken : Step path action next) :
    next.Unfailed := by
  cases taken with
  | fail busy desired => exact absurd rfl succeeds
  | finish busy sent =>
    intro piece member
    rcases List.mem_append.mp member with old | new
    · exact unfailed piece old
    · obtain rfl := List.mem_singleton.mp new
      rfl
  | sendPacket connected | leave connected | destroySocket leaving | dequeue idle queued
  | accept live busy positive bound => exact unfailed

/-- Whole frames of messages that are read, and at most a part of the frame behind
them. -/
structure Reads (accepted : List UInt8) (read : List Posted) (behind : Option Posted) (cut : List UInt8) :
    Prop where
  stream : accepted = RecvWorker.encodeAll (read.map Posted.frame) ++ cut
  short : cut = [] ∨ ∃ next ∈ behind, Framing.Part next.frame.encode cut
  parses : ∀ message ∈ read, message.Parses

theorem flatten_encode (read : List Posted) :
    (read.map fun posted => posted.frame.encode).flatten = RecvWorker.encodeAll (read.map Posted.frame) := by
  rw [RecvWorker.encodeAll, List.flatMap_def, List.map_map]
  rfl

theorem consistent_of_run (run : Run Step {} steps) : (final {} steps).Consistent :=
  run.preserved (fun _ _ _ => Consistent.step) consistent_start

/-- What an unfailed worker is done with went out whole. The frame in its hand has
gone out whole as well, or it is the one that is cut. -/
theorem Unfailed.reads (unfailed : path.Unfailed) (consistent : path.Consistent)
    (queued : path.enqueued = posted.map Posted.buffer) :
    ∃ read waiting cut, posted = read ++ waiting ∧ Reads path.accepted read waiting.head? cut ∧
      (path.sending = none → path.sendPacketQueue = [] → waiting = [] ∧ cut = []) := by
  have whole : path.done.map Piece.bytes = path.done.map Piece.frame :=
    List.map_congr_left fun piece member => (consistent.done piece member).2 (unfailed piece member)
  have order := consistent.order
  rw [bytes_posted queued, pieces, List.map_append, List.append_assoc] at order
  obtain ⟨read, rest, rfl, first, later⟩ := List.map_eq_append_iff.mp order
  have stream : path.accepted =
      RecvWorker.encodeAll (read.map Posted.frame) ++ path.sending.elim [] Sending.sent := by
    rw [consistent.accepted, pieces, List.map_append, whole, List.flatten_append, ← first, flatten_encode]
    cases path.sending <;> simp
  cases busy : path.sending with
  | none =>
    rw [busy] at stream later
    refine ⟨read, rest, [], rfl, ⟨stream, .inl rfl, fun message _ => message.parses⟩, fun _ empty => ⟨?_, rfl⟩⟩
    rw [empty] at later
    exact List.map_eq_nil_iff.mp later
  | some hand =>
    have split := consistent.split hand busy
    rw [busy] at stream later
    obtain ⟨next, waiting, rfl, inHand, _⟩ := List.map_eq_cons_iff.mp later
    have same : next.frame.encode = hand.frame := inHand
    by_cases sent : hand.sent = hand.frame
    · refine ⟨read ++ [next], waiting, [], by simp, ⟨?_, .inl rfl, fun message _ => message.parses⟩,
        fun idle => absurd idle (Option.some_ne_none hand)⟩
      rw [stream, ← flatten_encode, ← flatten_encode, Option.elim_some, sent, ← same]
      simp
    · refine ⟨read, next :: waiting, hand.sent, rfl, ⟨stream, .inr ⟨next, rfl, ?_, ?_⟩, fun message _ => message.parses⟩,
        fun idle => absurd idle (Option.some_ne_none hand)⟩
      · rw [same, split]
        exact List.prefix_append _ _
      · exact fun all => sent (all.trans same)

/-- Where no `Send` succeeds behind a torn frame, a server reads some of the
messages, in order, and at most a part of the frame behind them. -/
theorem read_aligned (run : Run Step {} steps) (silent : EveryStep SilentAfterTear {} steps)
    (queued : output (fun _ => Action.queues) {} steps = posted.map Posted.buffer) :
    ∃ front back read cut, posted = front ++ back ∧ read.Sublist front ∧
      Reads (final {} steps).accepted read back.head? cut := by
  have consistent := consistent_of_run run
  have aligned : (final {} steps).Aligned := ((aligned_iff run).mpr silent).last
  obtain ⟨front, back, whole, cut, shape, stream, inner, short⟩ := aligned.stream consistent
  rw [bytes_posted ((enqueued_of_run run).trans queued)] at shape
  obtain ⟨front, back, rfl, rfl, rfl⟩ := List.map_eq_append_iff.mp shape
  obtain ⟨read, among, rfl⟩ := List.sublist_map_iff.mp inner
  refine ⟨front, back, read, cut, rfl, among, ?_, ?_, fun message _ => message.parses⟩
  · rw [stream, flatten_encode]
  · refine short.imp_right ?_
    rintro ⟨frame, next, part⟩
    rw [List.head?_map] at next
    obtain ⟨message, behind, rfl⟩ := Option.map_eq_some_iff.mp next
    exact ⟨message, behind, part⟩

/-- `CLeaveRoom` as `DisconnectFromGameServer` queues it. -/
def leaveRoom : Posted where
  type := .leaveRoom
  pkt := {}
  fits := by decide +kernel

def ready : Posted where
  type := .ready
  pkt := { ready := true }
  fits := by decide +kernel

/-- The first of three messages is skipped, the second goes out whole, and of the
third there are three bytes. -/
theorem torn_leave_read : ∃ steps, Run Step {} steps ∧
    (final {} steps).accepted = ready.frame.encode ++ [4, 0, 0xF2] ∧
    ∃ front back read cut, [ready, ready, leaveRoom] = front ++ back ∧ read.Sublist front ∧
      Reads (final {} steps).accepted read back.head? cut := by
  have run : Run Step {} [(Action.sendPacket ready.buffer, _), (.sendPacket ready.buffer, _), (.leave, _),
      (.dequeue, _), (.fail, _), (.dequeue, _), (.accept 6, _), (.finish, _), (.dequeue, _), (.accept 3, _),
      (.fail, _)] :=
    ⟨.sendPacket rfl, .sendPacket rfl, .leave rfl, .dequeue rfl rfl, .fail rfl (by decide +kernel),
      .dequeue rfl rfl, .accept (by decide) rfl (by decide) (by decide +kernel), .finish rfl (by decide +kernel),
      .dequeue rfl rfl, .accept (by decide) rfl (by decide) (by decide), .fail rfl (by decide), trivial⟩
  refine ⟨_, run, by decide +kernel, read_aligned run ?_ (by decide +kernel)⟩
  refine ⟨nofun, nofun, nofun, nofun, nofun, nofun, fun _ _ => ?_, nofun, nofun, fun _ _ => ?_, nofun, trivial⟩
  · decide +kernel
  · decide +kernel

/-- Where no `Send` fails, they are the first ones that were sent, and all of them
once the worker has nothing left to do. -/
theorem read_unfailed (run : Run Step {} steps) (succeeds : EveryStep (fun _ action => action ≠ .fail) {} steps)
    (queued : output (fun _ => Action.queues) {} steps = posted.map Posted.buffer) :
    ∃ read waiting cut, posted = read ++ waiting ∧ Reads (final {} steps).accepted read waiting.head? cut ∧
      ((final {} steps).sending = none → (final {} steps).sendPacketQueue = [] → waiting = [] ∧ cut = []) := by
  have unfailed : (final {} steps).Unfailed := by
    have every : EveryState Unfailed {} steps :=
      everyState_of_everyStep (P := Consistent) (C := fun _ action => action ≠ Action.fail)
        (fun _ _ _ => Consistent.step) (fun _ _ _ _ unfailed succeeds taken => unfailed.step succeeds taken)
        run consistent_start (by simp [Unfailed]) succeeds
    exact every.last
  exact unfailed.reads (consistent_of_run run) ((enqueued_of_run run).trans queued)

theorem leave_read : ∃ steps, Run Step {} steps ∧
    (final {} steps).accepted = ready.frame.encode ++ [4, 0, 0xF2] ∧
    ∃ read waiting cut, [ready, leaveRoom] = read ++ waiting ∧
      Reads (final {} steps).accepted read waiting.head? cut ∧
      ((final {} steps).sending = none → (final {} steps).sendPacketQueue = [] → waiting = [] ∧ cut = []) := by
  have run : Run Step {} [(Action.sendPacket ready.buffer, _), (.leave, _), (.dequeue, _), (.accept 6, _),
      (.finish, _), (.dequeue, _), (.accept 3, _)] :=
    ⟨.sendPacket rfl, .leave rfl, .dequeue rfl rfl, .accept (by decide) rfl (by decide) (by decide +kernel),
      .finish rfl (by decide +kernel), .dequeue rfl rfl, .accept (by decide) rfl (by decide) (by decide), trivial⟩
  exact ⟨_, run, by decide +kernel, read_unfailed run
    ⟨by decide, by decide, by decide, by decide, by decide, by decide, by decide, trivial⟩ (by decide +kernel)⟩

end SendPath
end ArenaClient
