import ArenaClient.Network.FrameStream
import ArenaClient.Network.Messages
import ArenaClient.Network.ServerPacketHandler
import Mathlib.Data.List.Forall2

/-! What `MakeSendBuffer` packs, `ReceivePacket` unpacks and `HandlePacket`
hands on: whole lists of messages of any kind through all three pieces of
header code. -/
namespace ArenaClient.RecvWorker

variable {M : Type*} [ProtoMessage M] {net : Network}

/-- As many successive calls of `ReceivePacket`, with the result of each. -/
def receivePackets : Nat → SocketM (List (Bool × Packet))
  | 0 => return []
  | calls + 1 => do
    let call ← receivePacket
    let rest ← receivePackets calls
    return call :: rest

theorem receivePackets_cons {calls : Nat} (first : receivePacket net = .ok call middle)
    (rest : receivePackets calls middle = .ok results after) :
    receivePackets (calls + 1) net = .ok (call :: results) after := by
  simp only [receivePackets, bind, EStateM.bind, first, rest]
  rfl

/-! ### Everything is pending -/

theorem receivePacket_drained (delivery : Delivery) (schedule : List Delivery) :
    receivePacket ⟨{}, delivery :: schedule⟩ = .ok (false, []) ⟨{}, schedule⟩ := by
  simp [receivePacket, receiveDesiredBytes, hasPendingData, FSocket.arrive, bind, EStateM.bind, pure,
    EStateM.pure]

theorem receivePackets_drained (calls : Nat) (schedule : List Delivery)
    (enough : calls ≤ schedule.length) :
    ∃ rest, receivePackets calls ⟨{}, schedule⟩ = .ok (List.replicate calls (false, [])) ⟨{}, rest⟩ := by
  induction calls generalizing schedule with
  | zero => exact ⟨schedule, rfl⟩
  | succ calls ih =>
    cases schedule with
    | nil => simp at enough
    | cons delivery schedule =>
      obtain ⟨rest, later⟩ := ih schedule (by simpa using enough)
      exact ⟨rest, receivePackets_cons (receivePacket_drained delivery schedule) later⟩

theorem receivePacket_pending (intact : net.Intact) (arrived : net.socket.inFlight = [])
    (stream : net.stream = encodeAll (frame :: rest))
    (enough : net.stream.length + 2 < net.schedule.length) :
    ∃ after, receivePacket net = .ok (true, frame.encode) after ∧ net.Advances after frame.encode ∧
      after.stream = encodeAll rest ∧ net.Prompt after frame.encode 2 := by
  have spec := receivePacket_frames intact stream
  generalize receivePacket net = result at spec
  cases spec with
  | nothingPending empty advances =>
    have none : net.stream = [] := by
      rw [advances.stream, Network.stream, empty, advances.pending arrived]
      rfl
    have some := congrArg List.length stream
    rw [none, encodeAll_cons, List.length_append, Frame.length_encode, Frame.size, headerSize,
      List.length_nil] at some
    omega
  | received shape advances left prompt =>
    obtain ⟨rfl, rfl⟩ := List.cons.inj shape
    exact ⟨_, rfl, advances, left, prompt⟩
  | starved starves => exact absurd starves (fed_of_pending intact arrived stream)
  | waiting advances drained exhausts =>
    have read := advances.length
    rcases exhausts arrived with short | all
    · omega
    · exact absurd (drained all) (List.cons_ne_nil _ _)

/-- However the bytes of a pending stream are cut into reads, each frame takes
one call, and no call after the last frame gets anything. -/
theorem receivePackets_frames (frames : List Frame) (extra : Nat) (net : Network)
    (intact : net.Intact) (arrived : net.socket.inFlight = []) (stream : net.stream = encodeAll frames)
    (enough : net.stream.length + 2 * frames.length + extra < net.schedule.length) :
    ∃ rest, receivePackets (frames.length + extra) net =
      .ok (frames.map (fun frame => (true, frame.encode)) ++ List.replicate extra (false, []))
        ⟨{}, rest⟩ := by
  induction frames generalizing net with
  | nil =>
    obtain ⟨⟨unread, inFlight⟩, schedule⟩ := net
    obtain ⟨rfl, rfl⟩ := List.append_eq_nil_iff.mp stream
    have polls : extra ≤ schedule.length := by
      rw [List.length_nil] at enough
      exact (Nat.le_add_left extra _).trans enough.le
    simpa using receivePackets_drained extra schedule polls
  | cons frame frames ih =>
    rw [List.length_cons] at enough
    obtain ⟨after, call, advances, left, prompt⟩ :=
      receivePacket_pending intact arrived stream (by omega)
    have read := advances.length
    have used := prompt arrived
    obtain ⟨rest, later⟩ := ih after (advances.intact intact) (advances.pending arrived) left (by omega)
    refine ⟨rest, ?_⟩
    rw [List.length_cons, Nat.add_right_comm]
    exact receivePackets_cons call later

/-! ### From messages to packets -/

/-- What the dispatcher finds in a packet: the header of the message and, in
the slice it parses, all of the message. -/
structure Carries (packet : Packet) (pkt : M) (pktId : UInt16) : Prop where
  id : (PacketHeader.ofBuffer packet).id = pktId
  size : (PacketHeader.ofBuffer packet).size.toNat = packet.length
  slice : packet.drop headerSize = serialize pkt
  parsed : ServerPacketHandler.parseSize packet.length = (serialize pkt).length

theorem frameOf_carries (pkt : M) (pktId : UInt16) (fits : byteSizeLong pkt ≤ maxDataSize) :
    Carries (frameOf pkt pktId fits).encode pkt pktId := by
  have whole := frameOf_whole pkt pktId fits
  have length : (frameOf pkt pktId fits).encode.length = headerSize + byteSizeLong pkt := whole.capacity
  refine ⟨whole.id, whole.size.trans length.symm, whole.payload, ?_⟩
  unfold maxDataSize at fits
  rw [ServerPacketHandler.parseSize_eq (by omega) (by unfold headerSize at length; omega), length,
    length_serialize]
  omega

/-- The frames meant for the messages are what `MakeSendBuffer` builds. -/
theorem makeSendBuffers_frames (messages : List (M × UInt16))
    (fits : ∀ message ∈ messages, byteSizeLong message.1 ≤ maxDataSize) :
    ∃ frames : List Frame, ∃ sendBuffers,
      messages.mapM (fun message => makeSendBuffer message.1 message.2) = some sendBuffers ∧
      sendBuffers.map SendBuffer.buffer = frames.map Frame.encode ∧
      List.Forall₂ (fun message frame => Carries (Frame.encode frame) message.1 message.2)
        messages frames := by
  induction messages with
  | nil => exact ⟨[], [], rfl, rfl, .nil⟩
  | cons message messages ih =>
    obtain ⟨pkt, pktId⟩ := message
    obtain ⟨first, rest⟩ := List.forall_mem_cons.mp fits
    obtain ⟨frames, sendBuffers, built, same, carried⟩ := ih rest
    refine ⟨frameOf pkt pktId first :: frames,
      ⟨(frameOf pkt pktId first).encode, ↑(headerSize + byteSizeLong pkt)⟩ :: sendBuffers, ?_, ?_,
      .cons (frameOf_carries pkt pktId first) carried⟩
    · rw [List.mapM_cons, makeSendBuffer_fits pkt pktId first, built]
      rfl
    · rw [List.map_cons, List.map_cons, same]

/-- The buffers built for the messages, pending back to back on a socket, come
out of `ReceivePacket` as one packet a message, each of which carries its
message. The schedule is any list of short reads long enough for the calls: a
delivery for each byte, and the polls. -/
def Decodes (messages : List (M × UInt16)) : Prop :=
  ∃ sendBuffers packets,
    messages.mapM (fun message => makeSendBuffer message.1 message.2) = some sendBuffers ∧
    sendBuffers.map SendBuffer.buffer = packets ∧
    List.Forall₂ (fun message packet => Carries packet message.1 message.2) messages packets ∧
    ∀ (extra : Nat) (schedule : List Delivery), (∀ delivery ∈ schedule, delivery.broken = false) →
      packets.flatten.length + 2 * messages.length + extra < schedule.length →
      ∃ rest, receivePackets (messages.length + extra) ⟨{ unread := packets.flatten }, schedule⟩ =
        .ok (packets.map (fun packet => (true, packet)) ++ List.replicate extra (false, []))
          ⟨{}, rest⟩

/-- Decoding undoes encoding over whole streams of messages that fit. -/
theorem decodes_of_fits (messages : List (M × UInt16))
    (fits : ∀ message ∈ messages, byteSizeLong message.1 ≤ maxDataSize) : Decodes messages := by
  obtain ⟨frames, sendBuffers, built, same, carried⟩ := makeSendBuffers_frames messages fits
  have count : messages.length = frames.length := carried.length_eq
  refine ⟨sendBuffers, frames.map Frame.encode, built, same, List.forall₂_map_right_iff.mpr carried, ?_⟩
  intro extra schedule intact enough
  have stream : Network.stream ⟨{ unread := (frames.map Frame.encode).flatten }, schedule⟩ =
      encodeAll frames := by
    rw [Network.stream, List.append_nil, encodeAll, List.flatMap_def]
  rw [count] at enough ⊢
  obtain ⟨rest, received⟩ := receivePackets_frames frames extra
    ⟨{ unread := (frames.map Frame.encode).flatten }, schedule⟩ intact rfl stream
    (by rw [stream, encodeAll, List.flatMap_def]; exact enough)
  exact ⟨rest, by rw [received, List.map_map]; rfl⟩

theorem decodes_chat : Decodes [(Protocol.CChat.mk [104, 105], ClientPacket.chat.id),
    (Protocol.CChat.mk [], ClientPacket.chat.id)] :=
  decodes_of_fits _ (by decide)

end ArenaClient.RecvWorker
