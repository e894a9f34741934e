import ArenaClient.Network.DeliveryIndependence

/-! Two schedules for any stream of frames: one that brings everything at once
and one that pauses once, between a header and its payload. The first never
starves the worker and the second does whenever some frame has a payload. -/
namespace ArenaClient.RecvWorker
open Transition

variable {worker later : RecvWorker} {frames : List Frame}

theorem run_congr {left right : RecvWorker} (same : left.pass = right.pass) : run left = run right := by
  cases passed : right.pass with
  | ok next => rw [run_of_pass (same.trans passed), run_of_pass passed]
  | error ending => rw [run_of_stop (same.trans passed), run_of_stop passed]

/-! ### A first delivery -/

theorem receiveDesiredBytes_arrived (size : Int) (socket : FSocket) (count : Nat)
    (schedule : List Delivery) :
    receiveDesiredBytes size ⟨socket, { arrived := count } :: schedule⟩ =
      receiveDesiredBytes size ⟨socket.arrive count, { arrived := 0 } :: schedule⟩ := by
  have poll : hasPendingData ⟨socket, { arrived := count } :: schedule⟩ =
      hasPendingData ⟨socket.arrive count, { arrived := 0 } :: schedule⟩ := by
    simp [hasPendingData, FSocket.arrive]
  simp only [receiveDesiredBytes, bind, EStateM.bind, poll]

/-- A poll cannot tell bytes that arrive with it from bytes already there. -/
theorem pass_arrived (socket : FSocket) (count : Nat) (schedule : List Delivery)
    (queue : List Packet) :
    pass ⟨⟨socket, { arrived := count } :: schedule⟩, queue⟩ =
      pass ⟨⟨socket.arrive count, { arrived := 0 } :: schedule⟩, queue⟩ := by
  have same : receivePacket ⟨socket, { arrived := count } :: schedule⟩ =
      receivePacket ⟨socket.arrive count, { arrived := 0 } :: schedule⟩ := by
    have first := receiveDesiredBytes_arrived headerSize socket count schedule
    simp only [receivePacket, bind, EStateM.bind, first]
  simp only [pass, same]

theorem starves_arrived (socket : FSocket) (count : Nat) (schedule : List Delivery) :
    Starves ⟨socket, { arrived := count } :: schedule⟩ ↔
      Starves ⟨socket.arrive count, { arrived := 0 } :: schedule⟩ := by
  have first := receiveDesiredBytes_arrived headerSize socket count schedule
  simp only [Starves, first]

/-! ### Everything at once -/

/-- All bytes come with the first poll; deliveries enough to read them follow. -/
def settled (bytes : List UInt8) : List Delivery :=
  { arrived := bytes.length } :: List.replicate (3 * bytes.length + 3) { arrived := 0 }

theorem settled_intact (bytes : List UInt8) : ∀ delivery ∈ settled bytes, delivery.broken = false := by
  intro delivery member
  rcases List.mem_cons.mp member with rfl | member
  · rfl
  · rw [(List.mem_replicate.mp member).2]

/-- The worker that sees all of `bytes` at its next poll, and the one that has
them already. -/
def arriving (bytes : List UInt8) (queue : List Packet) : RecvWorker :=
  ⟨⟨{ inFlight := bytes }, settled bytes⟩, queue⟩

def arrivedAlready (bytes : List UInt8) (queue : List Packet) : RecvWorker :=
  ⟨⟨{ unread := bytes }, { arrived := 0 } :: List.replicate (3 * bytes.length + 3) { arrived := 0 }⟩,
    queue⟩

theorem arrive_all (bytes : List UInt8) :
    FSocket.arrive { inFlight := bytes } bytes.length = { unread := bytes } := by
  simp [FSocket.arrive]

theorem pass_arriving (bytes : List UInt8) (queue : List Packet) :
    (arriving bytes queue).pass = (arrivedAlready bytes queue).pass := by
  rw [arriving, settled, pass_arrived, arrive_all, arrivedAlready]

theorem arrivedAlready_intact (bytes : List UInt8) (queue : List Packet) :
    (arrivedAlready bytes queue).net.Intact := by
  intro delivery member
  rcases List.mem_cons.mp member with rfl | member
  · rfl
  · rw [(List.mem_replicate.mp member).2]

theorem finished_arriving (bytes : List UInt8) (queue : List Packet) :
    Finished (run (arriving bytes queue)) := by
  rw [run_congr (pass_arriving bytes queue)]
  apply finished_of_pending _ (arrivedAlready_intact bytes queue) rfl
  simp [arrivedAlready, Network.stream]

theorem complete_settled (frames : List Frame) : Complete frames (settled (encodeAll frames)) :=
  ⟨settled_intact _, finished_arriving (encodeAll frames) []⟩

theorem neverStarves_settled (frames : List Frame) :
    NeverStarves frames (settled (encodeAll frames)) := by
  intro worker reached starves
  have boundary : AtBoundary frames (arrivedAlready (encodeAll frames) []).net :=
    ⟨frames, List.suffix_refl _, List.append_nil _⟩
  have fed (later : RecvWorker) (reached : Reaches (arrivedAlready (encodeAll frames) []) later) :
      ¬ Starves later.net :=
    fed_of_arrived (arrivedAlready_intact (encodeAll frames) []) rfl boundary reached
  rcases reached.head with rfl | ⟨l, next, passed, rest⟩
  · apply fed _ (.refl _)
    rw [start, settled, starves_arrived, arrive_all] at starves
    exact starves
  · have first : Reaches (arrivedAlready (encodeAll frames) []) next :=
      (Reachable.refl _).next (l := ()) ((pass_arriving _ _).symm.trans passed)
    exact fed _ (first.trans rest) starves

/-! ### One pause inside a frame -/

/-- Headers come one at a time until the first frame with a payload. There the
worker finds nothing pending after the header, and the rest comes at once. -/
def pausing : List Frame → List Delivery
  | [] => []
  | frame :: rest =>
    { arrived := headerSize } :: { arrived := 0, handed := headerSize } ::
      if frame.payload = [] then pausing rest
      else { arrived := 0 } :: settled (frame.payload ++ encodeAll rest)

theorem pausing_intact (frames : List Frame) : ∀ delivery ∈ pausing frames, delivery.broken = false := by
  induction frames with
  | nil => simp [pausing]
  | cons frame rest ih =>
    simp only [pausing, List.forall_mem_cons, true_and]
    split
    · exact ih
    · simpa only [List.forall_mem_cons, true_and] using settled_intact _

theorem receiveDesiredBytes_header {header : List UInt8} (length : header.length = headerSize)
    (rest : List UInt8) (schedule : List Delivery) :
    receiveDesiredBytes headerSize ⟨{ inFlight := header ++ rest },
        { arrived := headerSize } :: { arrived := 0, handed := headerSize } :: schedule⟩ =
      .ok (true, header) ⟨{ inFlight := rest }, schedule⟩ := by
  have arrive : FSocket.arrive { inFlight := header ++ rest } headerSize =
      { unread := header, inFlight := rest } := by
    simp [FSocket.arrive, ← length]
  have nonempty : header.isEmpty = false := by
    cases header <;> simp_all [headerSize]
  have read : recv headerSize ⟨{ unread := header, inFlight := rest },
      { arrived := 0, handed := headerSize } :: schedule⟩ =
      .ok header ⟨{ inFlight := rest }, schedule⟩ := by
    have all : Delivery.numRead { arrived := 0, handed := headerSize } headerSize = header.length :=
      length.symm
    simp [recv, recvFrom, FSocket.arrive, nonempty, all]
  have loop : receiveLoop headerSize headerSize [] ⟨{ unread := header, inFlight := rest },
      { arrived := 0, handed := headerSize } :: schedule⟩ =
      .ok (true, header) ⟨{ inFlight := rest }, schedule⟩ := by
    have round := @receiveLoop_received _ _ _ 3 headerSize [] read (by rw [length]; decide) length.le
    rw [length, Nat.sub_self, Int.ofNat_zero, receiveLoop_zero] at round
    exact round
  have pending : ¬ ((!header.isEmpty) = false ∨ header.length ≤ 0) := by
    simp [nonempty, length, headerSize]
  simp only [receiveDesiredBytes, hasPendingData, bind, EStateM.bind, arrive, pending, if_false,
    Int.toNat_natCast]
  exact loop

theorem poll_nothing (bytes : List UInt8) (schedule : List Delivery) :
    hasPendingData ⟨{ inFlight := bytes }, { arrived := 0 } :: schedule⟩ =
      .ok (false, 0) ⟨{ inFlight := bytes }, schedule⟩ := by
  simp [hasPendingData, FSocket.arrive]

theorem pass_bare {frame : Frame} (bare : frame.payload = []) (rest : List UInt8)
    (schedule : List Delivery) (queue : List Packet) :
    pass ⟨⟨{ inFlight := frame.encode ++ rest }, { arrived := headerSize } ::
        { arrived := 0, handed := headerSize } :: schedule⟩, queue⟩ =
      .ok ⟨⟨{ inFlight := rest }, schedule⟩, queue ++ [frame.encode]⟩ := by
  have size : frame.size = headerSize := by rw [Frame.size, bare, List.length_nil, Nat.add_zero]
  have length : frame.encode.length = headerSize := by rw [Frame.length_encode, size]
  have call := receivePacket_header (receiveDesiredBytes_header length rest schedule)
  rw [sizeField_encode, if_pos size] at call
  rw [pass, call]

/-- The header is read, the poll after it finds nothing, and everything that
follows the header comes at once. -/
theorem pass_paused {frame : Frame} (payload : frame.payload ≠ []) (rest : List UInt8)
    (queue : List Packet) :
    let worker : RecvWorker := ⟨⟨{ inFlight := frame.encode ++ rest }, { arrived := headerSize } ::
      { arrived := 0, handed := headerSize } :: { arrived := 0 } :: settled (frame.payload ++ rest)⟩, queue⟩
    Starves worker.net ∧ worker.pass = .ok (arriving (frame.payload ++ rest) queue) := by
  have received := receiveDesiredBytes_header frame.length_header (frame.payload ++ rest)
    ({ arrived := 0 } :: settled (frame.payload ++ rest))
  rw [← List.append_assoc, ← Frame.encode] at received
  have long : headerSize < sizeField frame.header := by
    have some := List.length_pos_iff.mpr payload
    have same := sizeField_append frame.length_header.ge frame.payload
    rw [← Frame.encode, sizeField_encode, Frame.size] at same
    omega
  refine ⟨⟨_, _, _, received, long, poll_nothing _ _⟩, ?_⟩
  have call := receivePacket_payload received frame.length_header long
  simp only [receiveDesiredBytes, bind, EStateM.bind, poll_nothing, true_or, if_true] at call
  rw [pass, call]
  rfl

theorem pausing_starves (frames : List Frame) (some : ∃ frame ∈ frames, frame.payload ≠ [])
    (queue : List Packet) :
    let worker : RecvWorker := ⟨⟨{ inFlight := encodeAll frames }, pausing frames⟩, queue⟩
    (∃ later, Reaches worker later ∧ Starves later.net) ∧ Finished (run worker) := by
  induction frames generalizing queue with
  | nil => simp at some
  | cons frame rest ih =>
    simp only [encodeAll_cons, pausing]
    by_cases bare : frame.payload = []
    · have passed := pass_bare bare (encodeAll rest) (pausing rest) queue
      have others : ∃ frame ∈ rest, frame.payload ≠ [] := by simpa [bare] using some
      obtain ⟨⟨later, reached, starves⟩, finished⟩ := ih others (queue ++ [frame.encode])
      rw [if_pos bare]
      have first : Reaches _ _ := (Reachable.refl _).next (l := ()) passed
      exact ⟨⟨later, first.trans reached, starves⟩, run_of_pass passed ▸ finished⟩
    · obtain ⟨starves, passed⟩ := pass_paused bare (encodeAll rest) queue
      rw [if_neg bare]
      exact ⟨⟨_, .refl _, starves⟩, run_of_pass passed ▸ finished_arriving _ _⟩

theorem complete_pausing (some : ∃ frame ∈ frames, frame.payload ≠ []) :
    Complete frames (pausing frames) :=
  ⟨pausing_intact frames, (pausing_starves frames some []).2⟩

theorem not_neverStarves_pausing (some : ∃ frame ∈ frames, frame.payload ≠ []) :
    ¬ NeverStarves frames (pausing frames) := by
  intro fed
  obtain ⟨later, reached, starves⟩ := (pausing_starves frames some []).1
  exact fed later reached starves

/-! ### Which deliveries keep the framing -/

theorem neverStarves_bare (intact : (start (encodeAll frames) schedule).net.Intact)
    (bare : ∀ frame ∈ frames, frame.payload = []) : NeverStarves frames schedule := by
  have fed {net : Network} {tail : List Frame} (intact : net.Intact) (within : tail <:+ frames)
      (stream : net.stream = encodeAll tail) : ¬ Starves net := by
    intro starves
    obtain ⟨frame, rest, _, _, rfl, payload, _⟩ := starves_frame intact stream starves
    exact payload (bare frame (within.subset List.mem_cons_self))
  intro worker reached
  have kept : worker.net.Intact ∧ AtBoundary frames worker.net := by
    refine reached.invariant (P := fun w => w.net.Intact ∧ AtBoundary frames w.net) ?_
      ⟨intact, start_boundary frames schedule⟩
    rintro w _ next ⟨intact, boundary⟩ passed
    obtain ⟨inner, within, stream⟩ := id boundary
    exact ⟨pass_intact intact passed,
      pass_atBoundary intact boundary (fed intact within stream) passed⟩
  obtain ⟨intact, tail, within, stream⟩ := kept
  exact fed intact within stream

theorem deliveryIndependent_iff_bare (frames : List Frame) :
    DeliveryIndependent frames ↔ ∀ frame ∈ frames, frame.payload = [] := by
  constructor
  · intro independent
    apply Classical.byContradiction
    intro absent
    have some : ∃ frame ∈ frames, frame.payload ≠ [] := by simpa using absent
    have whole := (received_iff (complete_settled frames)).mpr (neverStarves_settled frames)
    have same := independent.sameQueue _ _ (complete_pausing some) (complete_settled frames)
    exact not_neverStarves_pausing some
      ((received_iff (complete_pausing some)).mp (same.trans whole))
  · intro bare
    constructor
    · intro first second complete complete'
      rw [(received_iff complete).mpr (neverStarves_bare complete.1 bare),
        (received_iff complete').mpr (neverStarves_bare complete'.1 bare)]
    · intro schedule intact
      exact (staysAligned_iff intact).mpr (neverStarves_bare intact bare)

/-- Framing depends on the delivery exactly when a frame has a payload, and a
given delivery keeps it exactly when no poll between a header and its payload
finds nothing pending. -/
theorem deliveryIndependent_iff (frames : List Frame) :
    (DeliveryIndependent frames ↔ ∀ frame ∈ frames, frame.payload = []) ∧
    (∀ schedule, (start (encodeAll frames) schedule).net.Intact →
      (StaysAligned frames schedule ↔ NeverStarves frames schedule)) ∧
    ∀ schedule, Complete frames schedule →
      (received frames schedule = frames.map Frame.encode ↔ NeverStarves frames schedule) :=
  ⟨deliveryIndependent_iff_bare frames, fun _ => staysAligned_iff, fun _ => received_iff⟩

/-- One frame whose payload happens to look like a header. A pause behind the
real header makes the worker take the payload for a packet. -/
theorem pause_changes_queue :
    ¬ DeliveryIndependent [{ id := 1, payload := [4, 0, 2, 0], fits := by decide }] := by
  intro independent
  have same := independent.sameQueue
    [⟨8, 0, false⟩, ⟨0, 4, false⟩, ⟨0, 0, false⟩, ⟨0, 4, false⟩]
    [⟨4, 0, false⟩, ⟨0, 4, false⟩, ⟨0, 0, false⟩, ⟨4, 0, false⟩, ⟨0, 4, false⟩]
    (by decide) (by decide)
  revert same
  decide

end ArenaClient.RecvWorker
