import ArenaClient.Base.Framing
import ArenaClient.Network.RecvRun

/-! Streams of well-formed frames. A pass that starts between two frames either
returns one frame whole or stays where it is, unless it finds nothing pending
between a header and its payload: then the header is gone and the stream is
left inside the frame. -/
namespace ArenaClient.RecvWorker
open Transition

variable {net : Network} {tail : List Frame}

def encodeAll (frames : List Frame) : List UInt8 := frames.flatMap Frame.encode

abbrev AtBoundary (frames : List Frame) (net : Network) : Prop :=
  Framing.AtBoundary Frame.encode frames net.stream

theorem encodeAll_cons (frame : Frame) (rest : List Frame) :
    encodeAll (frame :: rest) = frame.encode ++ encodeAll rest := List.flatMap_cons

theorem sizeField_encode (frame : Frame) : sizeField frame.encode = frame.size := by
  rw [sizeField, FPacketHeader.read_eq, Frame.ofBuffer_encode, Frame.size_toNat]

/-! ### One pass at a boundary -/

/-- Bytes read from a boundary on, at least a header of them, announce the size
of the frame that comes next. -/
theorem sizeField_taken (advances : Network.Advances net after bytes)
    (stream : net.stream = encodeAll tail) (header : headerSize ≤ bytes.length) :
    ∃ frame rest, tail = frame :: rest ∧ sizeField bytes = frame.size := by
  have both := advances.stream
  cases tail with
  | nil =>
    have size := advances.length
    rw [stream] at size
    simp only [encodeAll, List.flatMap_nil, List.length_nil, headerSize] at size header
    omega
  | cons frame rest =>
    have long : headerSize ≤ frame.encode.length := by simp [Frame.size]
    refine ⟨frame, rest, rfl, ?_⟩
    rw [← sizeField_append header after.stream, ← both, stream, encodeAll_cons,
      sizeField_append long, sizeField_encode]

/-- As many bytes as the frame has are the frame. -/
theorem frame_taken (advances : Network.Advances net after bytes)
    (stream : net.stream = encodeAll (frame :: rest)) (size : bytes.length = frame.size) :
    bytes = frame.encode ∧ after.stream = encodeAll rest := by
  have both := advances.stream
  rw [stream, encodeAll_cons] at both
  have parts := List.append_inj both (by rw [Frame.length_encode, size])
  exact ⟨parts.1.symm, parts.2.symm⟩

/-- Every way `ReceivePacket` can end between two frames of an intact stream. -/
inductive FrameSpec (tail : List Frame) (net : Network) :
    EStateM.Result Stop Network (Bool × Packet) → Prop where
  | nothingPending (empty : after.socket.unread = []) (advances : net.Advances after []) :
      FrameSpec tail net (.ok (false, []) after)
  | received (shape : tail = frame :: rest) (advances : net.Advances after frame.encode)
      (left : after.stream = encodeAll rest) (prompt : net.Prompt after frame.encode 2) :
      FrameSpec tail net (.ok (true, frame.encode) after)
  | starved (starves : Starves net) (shape : tail = frame :: rest) (payload : frame.payload ≠ [])
      (length : header.length = headerSize) (empty : after.socket.unread = [])
      (advances : net.Advances after header) : FrameSpec tail net (.ok (false, packet) after)
  | waiting (advances : net.Advances after bytes) (drained : after.stream = [] → tail = [])
      (exhausts : net.Exhausts after bytes 2) : FrameSpec tail net (.error .waiting after)

theorem receivePacket_frames (intact : net.Intact) (stream : net.stream = encodeAll tail) :
    FrameSpec tail net (receivePacket net) := by
  have spec := receivePacket_spec net
  generalize receivePacket net = result at spec
  cases spec with
  | nothingPending empty advances polled => exact .nothingPending empty advances
  | broken failed _ _ => exact absurd intact failed
  | @waiting after bytes ended advances partly exhausts =>
    refine .waiting advances (fun read => ?_) exhausts
    -- Everything was read, so a whole frame would have been among it.
    have all : bytes = encodeAll tail := by
      rw [← stream, advances.stream, read, List.append_nil]
    cases tail with
    | nil => rfl
    | cons frame rest =>
      have header : headerSize ≤ frame.encode.length := by simp [Frame.size]
      rw [all, encodeAll_cons, sizeField_append header, sizeField_encode, List.length_append,
        Frame.length_encode] at partly
      rw [Frame.length_encode] at header
      omega
  | bare length size advances polled prompt =>
    obtain ⟨frame, rest, rfl, announced⟩ := sizeField_taken advances stream length.ge
    obtain ⟨rfl, left⟩ := frame_taken advances stream (by omega)
    exact .received rfl advances left prompt
  | negative _ length short advances =>
    obtain ⟨frame, rest, rfl, announced⟩ := sizeField_taken advances stream length.ge
    exact absurd short (by rw [announced, Frame.size]; omega)
  | starved starves length long empty advances polled prompt =>
    obtain ⟨frame, rest, rfl, announced⟩ := sizeField_taken advances stream length.ge
    refine .starved starves rfl (fun none => ?_) length empty advances
    rw [announced, Frame.size, none, List.length_nil] at long
    omega
  | @whole header _ payload length long size advances polled prompt =>
    have header' : headerSize ≤ (header ++ payload).length := by
      rw [List.length_append]
      omega
    obtain ⟨frame, rest, rfl, announced⟩ := sizeField_taken advances stream header'
    rw [sizeField_append length.ge] at announced
    obtain ⟨whole, left⟩ := frame_taken advances stream (by rw [List.length_append]; omega)
    rw [whole] at advances prompt ⊢
    exact .received rfl advances left prompt

/-- What starving does, at a boundary or not: the header is read and dropped. -/
theorem receivePacket_starves (starves : Starves net) : ∃ header packet after,
    receivePacket net = .ok (false, packet) after ∧ net.Advances after header ∧
      header.length = headerSize := by
  obtain ⟨header, middle, after, received, long, poll⟩ := starves
  have first := receiveDesiredBytes_spec (by decide : 0 < headerSize) net
  rw [received] at first
  cases first with
  | whole length advances polled prompt =>
    have second : receiveDesiredBytes ↑(sizeField header - headerSize) middle =
        .ok (false, []) after := by
      simp only [receiveDesiredBytes, bind, EStateM.bind, poll, true_or, if_true]
      rfl
    rcases hasPendingData_cases middle with ⟨_, call⟩ | ⟨polled', call, further, _⟩
    · simp [call] at poll
    · obtain rfl : polled' = after := by
        rw [call] at poll
        injection poll
      have call := receivePacket_payload received length long
      rw [second] at call
      exact ⟨header, _, polled', call, by simpa using advances.trans further, length⟩

/-- At a boundary, what is lost is the header of a frame with a payload. -/
theorem starves_frame (intact : net.Intact) (stream : net.stream = encodeAll tail)
    (starves : Starves net) : ∃ frame rest packet after, tail = frame :: rest ∧
      frame.payload ≠ [] ∧ receivePacket net = .ok (false, packet) after ∧
      after.socket.unread = [] ∧ net.Advances after frame.header ∧
      after.stream = frame.payload ++ encodeAll rest := by
  obtain ⟨header, packet, after, call, dropped, length⟩ := receivePacket_starves starves
  have spec := receivePacket_frames intact stream
  rw [call] at spec
  cases spec with
  | nothingPending empty advances =>
    have lost := dropped.length
    have kept := advances.length
    simp only [headerSize, List.length_nil] at length kept
    omega
  | @starved frame rest _ _ _ _ shape payload _ empty _ =>
    subst shape
    have both := dropped.stream
    rw [stream, encodeAll_cons, Frame.encode, List.append_assoc] at both
    obtain ⟨rfl, left⟩ := List.append_inj both (by rw [Frame.length_header, length])
    exact ⟨frame, rest, packet, after, rfl, payload, call, empty, dropped, left.symm⟩

/-- With nothing in flight a header at a boundary has its payload behind it. -/
theorem fed_of_pending (intact : net.Intact) (arrived : net.socket.inFlight = [])
    (stream : net.stream = encodeAll tail) : ¬ Starves net := by
  intro starves
  obtain ⟨frame, rest, packet, after, _, payload, _, empty, advances, left⟩ :=
    starves_frame intact stream starves
  rw [Network.stream, empty, advances.pending arrived] at left
  exact payload (List.append_eq_nil_iff.mp left.symm).1

/-- Where a starved call leaves the stream is no boundary. -/
theorem starved_inside (intact : net.Intact) (within : tail <:+ frames)
    (stream : net.stream = encodeAll tail) (starves : Starves net) :
    ∃ packet after, receivePacket net = .ok (false, packet) after ∧ ¬ AtBoundary frames after := by
  obtain ⟨frame, rest, packet, after, rfl, payload, call, _, _, left⟩ :=
    starves_frame intact stream starves
  refine ⟨packet, after, call, ?_⟩
  rw [AtBoundary, left]
  apply Framing.not_atBoundary_inside within (List.length_pos_iff.mpr payload)
  rw [Frame.length_encode, Frame.size]
  exact Nat.lt_add_of_pos_left (by decide)

end ArenaClient.RecvWorker
