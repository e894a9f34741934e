import ArenaClient.Network.RecvWorker

/-! What each call of the receive worker can do, for every socket state, every
schedule and every requested size. Later results cite these cases and do not
unfold the calls again. -/
namespace ArenaClient
open Bytes

/-- Exactly `bytes` have left the stream; deliveries are used up in order and
bytes in flight only arrive. -/
structure Network.Advances (net after : Network) (bytes : List UInt8) : Prop where
  stream : net.stream = bytes ++ after.stream
  schedule : after.schedule <:+ net.schedule
  inFlight : after.socket.inFlight <:+ net.socket.inFlight

namespace Network.Advances

theorem refl (net : Network) : net.Advances net [] :=
  ⟨rfl, List.suffix_refl _, List.suffix_refl _⟩

theorem trans (first : Network.Advances net middle bytes) (second : middle.Advances after more) :
    net.Advances after (bytes ++ more) where
  stream := by rw [first.stream, second.stream, List.append_assoc]
  schedule := second.schedule.trans first.schedule
  inFlight := second.inFlight.trans first.inFlight

theorem intact (advances : Network.Advances net after bytes) (intact : net.Intact) : after.Intact :=
  fun delivery member => intact delivery (advances.schedule.subset member)

theorem remaining (advances : Network.Advances net after bytes) :
    after.stream = net.stream.drop bytes.length := by
  rw [advances.stream, List.drop_left]

theorem taken (advances : Network.Advances net after bytes) : bytes = net.stream.take bytes.length := by
  rw [advances.stream, List.take_left]

theorem length (advances : Network.Advances net after bytes) :
    net.stream.length = bytes.length + after.stream.length := by
  rw [advances.stream, List.length_append]

end Network.Advances

/-- An arrival uses up one delivery and reads nothing. -/
theorem arrive_advances (socket : FSocket) (delivery : Delivery) (schedule : List Delivery) :
    Network.Advances ⟨socket, delivery :: schedule⟩
      ⟨socket.arrive delivery.arrived, schedule⟩ [] where
  stream := by simp [Network.stream, FSocket.arrive]
  schedule := List.suffix_cons delivery schedule
  inFlight := List.drop_suffix delivery.arrived socket.inFlight

/-- Once nothing is in flight, a call uses up at most one delivery a byte read
and one a poll. -/
def Network.Prompt (net after : Network) (bytes : List UInt8) (polls : Nat) : Prop :=
  net.socket.inFlight = [] → net.schedule.length ≤ after.schedule.length + bytes.length + polls

/-- Once nothing is in flight, a call waits only for want of deliveries or
after reading everything. -/
def Network.Exhausts (net after : Network) (bytes : List UInt8) (polls : Nat) : Prop :=
  net.socket.inFlight = [] → net.schedule.length ≤ bytes.length + polls ∨ after.stream = []

theorem Network.Advances.pending (advances : Network.Advances net after bytes)
    (pending : net.socket.inFlight = []) : after.socket.inFlight = [] :=
  List.suffix_nil.mp (pending ▸ advances.inFlight)

theorem Network.Prompt.trans (first : Network.Prompt net middle bytes polls)
    (advances : Network.Advances net middle bytes) (second : Network.Prompt middle after more further) :
    Network.Prompt net after (bytes ++ more) (polls + further) := by
  intro pending
  have head := first pending
  have tail := second (advances.pending pending)
  rw [List.length_append]
  omega

theorem Network.Prompt.mono (prompt : Network.Prompt net after bytes polls) (more : polls ≤ bound) :
    Network.Prompt net after bytes bound := fun pending => (prompt pending).trans (by omega)

theorem Network.Exhausts.mono (exhausts : Network.Exhausts net after bytes polls)
    (more : polls ≤ bound) : Network.Exhausts net after bytes bound :=
  fun pending => (exhausts pending).imp_left fun short => short.trans (by omega)

theorem Network.Prompt.exhausts (first : Network.Prompt net middle bytes polls)
    (advances : Network.Advances net middle bytes) (second : Network.Exhausts middle after more further) :
    Network.Exhausts net after (bytes ++ more) (polls + further) := by
  intro pending
  have head := first pending
  rw [List.length_append]
  rcases second (advances.pending pending) with short | read
  · exact .inl (by omega)
  · exact .inr read

/-! ### The socket calls -/

theorem hasPendingData_cases (net : Network) :
    (net.schedule = [] ∧ hasPendingData net = .error .waiting net) ∨
    ∃ after, hasPendingData net = .ok (!after.socket.unread.isEmpty, after.socket.unread.length) after ∧
      net.Advances after [] ∧ after.schedule.length + 1 = net.schedule.length := by
  obtain ⟨socket, schedule⟩ := net
  cases schedule with
  | nil => exact .inl ⟨rfl, rfl⟩
  | cons delivery schedule =>
    exact .inr ⟨⟨socket.arrive delivery.arrived, schedule⟩, rfl,
      arrive_advances socket delivery schedule, rfl⟩

/-- Every way a `Recv` of at least one byte can end. -/
inductive RecvSpec (size : Nat) (net : Network) :
    EStateM.Result Stop Network (List UInt8) → Prop where
  | waiting (ended : after.schedule = []) (advances : net.Advances after [])
      (exhausts : net.Exhausts after [] 0) : RecvSpec size net (.error .waiting after)
  | broken (failed : ¬ net.Intact) (advances : net.Advances after []) :
      RecvSpec size net (.ok [] after)
  | received (some : 0 < bytes.length) (bound : bytes.length ≤ size)
      (advances : net.Advances after bytes) (prompt : net.Prompt after bytes 0) :
      RecvSpec size net (.ok bytes after)

/-- A call that blocks over one delivery ends like the call after it. With
nothing in flight such a call never gets a byte. -/
theorem RecvSpec.blocked (advances : Network.Advances net middle []) (empty : middle.socket.unread = [])
    (spec : RecvSpec size middle result) : RecvSpec size net result := by
  have dry (pending : net.socket.inFlight = []) : middle.stream = [] := by
    rw [Network.stream, empty, advances.pending pending, List.append_nil]
  cases spec with
  | waiting ended rest _ =>
    refine .waiting ended (advances.trans rest) (fun pending => .inr ?_)
    simpa [rest.stream] using dry pending
  | broken failed rest =>
    exact .broken (fun intact => failed (advances.intact intact)) (advances.trans rest)
  | received some bound rest _ =>
    refine .received some bound (advances.trans rest) (fun pending => ?_)
    have drained := dry pending
    rw [rest.stream, List.append_eq_nil_iff] at drained
    simp [drained.1] at some

theorem recvFrom_spec {size : Nat} (positive : 0 < size) (schedule : List Delivery)
    (socket : FSocket) : RecvSpec size ⟨socket, schedule⟩ (recvFrom size schedule socket) := by
  induction schedule generalizing socket with
  | nil => exact .waiting rfl (.refl _) (fun _ => .inl (Nat.le_refl 0))
  | cons delivery schedule ih =>
    have arrived := arrive_advances socket delivery schedule
    simp only [recvFrom]
    split
    · rename_i broken
      refine .broken (fun intact => ?_) arrived
      have sound := intact delivery List.mem_cons_self
      rw [broken] at sound
      contradiction
    · split
      · rename_i unread
        exact (ih _).blocked arrived (List.isEmpty_iff.mp unread)
      · rename_i unbroken unread
        have nonempty : 0 < (socket.arrive delivery.arrived).unread.length := by
          simpa [List.length_pos_iff] using unread
        have count : 0 < delivery.numRead size ∧ delivery.numRead size ≤ size := by
          unfold Delivery.numRead
          omega
        refine .received ?_ ?_ (arrived.trans ⟨?_, List.suffix_refl _, List.suffix_refl _⟩) ?_
        · rw [List.length_take]
          omega
        · rw [List.length_take]
          omega
        · simp [Network.stream, ← List.append_assoc]
        · intro _
          simp only [List.length_cons, List.length_take]
          omega

theorem recv_spec {size : Nat} (positive : 0 < size) (net : Network) :
    RecvSpec size net (recv size net) := recvFrom_spec positive net.schedule net.socket

namespace RecvWorker

/-! ### Reading a given number of bytes -/

/-- Every way the reading loop can end with `count` bytes still desired. -/
inductive LoopSpec (count : Nat) (results : List UInt8) (net : Network) :
    EStateM.Result Stop Network (Bool × List UInt8) → Prop where
  | whole (length : bytes.length = count) (advances : net.Advances after bytes)
      (prompt : net.Prompt after bytes 0) :
      LoopSpec count results net (.ok (true, results ++ bytes) after)
  | broken (failed : ¬ net.Intact) (partly : bytes.length < count)
      (advances : net.Advances after bytes) :
      LoopSpec count results net (.ok (false, results ++ bytes) after)
  | waiting (ended : after.schedule = []) (partly : bytes.length < count)
      (advances : net.Advances after bytes) (exhausts : net.Exhausts after bytes 0) :
      LoopSpec count results net (.error .waiting after)

theorem LoopSpec.done (results : List UInt8) (net : Network) :
    LoopSpec 0 results net (.ok (true, results) net) := by
  have whole : LoopSpec 0 results net (.ok (true, results ++ []) net) :=
    .whole rfl (.refl net) (fun _ => by simp)
  rwa [List.append_nil] at whole

theorem receiveLoop_zero (rounds : Nat) (results : List UInt8) (net : Network) :
    receiveLoop rounds 0 results net = .ok (true, results) net := by
  cases rounds <;> rfl

/-- One round of the loop, once the assertion is known to hold. -/
theorem receiveLoop_received {net : Network} {rounds count : Nat} (results : List UInt8)
    (received : recv count net = .ok bytes after) (some : 0 < bytes.length)
    (bound : bytes.length ≤ count) :
    receiveLoop (rounds + 1) count results net =
      receiveLoop rounds ↑(count - bytes.length) (results ++ bytes) after := by
  have desired : (0 : Int) < count := by omega
  have checked : ¬ (count : Int) < bytes.length := by omega
  have nonempty : ¬ bytes.length ≤ 0 := by omega
  simp only [receiveLoop, desired, if_true, Int.toNat_natCast, bind, EStateM.bind, received,
    checked, nonempty, if_false, Int.natCast_sub bound]

theorem receiveLoop_spec (rounds count : Nat) (enough : count ≤ rounds) (results : List UInt8)
    (net : Network) : LoopSpec count results net (receiveLoop rounds count results net) := by
  induction rounds generalizing count results net with
  | zero =>
    obtain rfl : count = 0 := by omega
    rw [Int.ofNat_zero, receiveLoop_zero]
    exact .done results net
  | succ rounds ih =>
    rcases Nat.eq_zero_or_pos count with rfl | positive
    · rw [Int.ofNat_zero, receiveLoop_zero]
      exact .done results net
    · have desired : (0 : Int) < count := by omega
      have spec := recv_spec positive net
      generalize call : recv count net = result at spec
      cases spec with
      | waiting ended advances exhausts =>
        simp only [receiveLoop, desired, if_true, Int.toNat_natCast, bind, EStateM.bind, call]
        exact .waiting ended (List.length_nil.trans_lt positive) advances exhausts
      | broken failed advances =>
        have checked : ¬ (count : Int) < 0 := by omega
        simp only [receiveLoop, desired, if_true, Int.toNat_natCast, bind, EStateM.bind, call,
          List.length_nil, Int.ofNat_zero, checked, if_false, Nat.le_refl]
        have ending : LoopSpec count results net (.ok (false, results ++ []) _) :=
          .broken failed positive advances
        rwa [List.append_nil] at ending
      | @received after bytes some bound advances prompt =>
        rw [receiveLoop_received results call some bound]
        have rest := ih (count - bytes.length) (by omega) (results ++ bytes) after
        generalize receiveLoop rounds ↑(count - bytes.length) (results ++ bytes) after = ending at rest
        cases rest with
        | whole length further further' =>
          rw [List.append_assoc]
          exact .whole (by rw [List.length_append]; omega) (advances.trans further)
            (prompt.trans advances further')
        | broken failed partly further =>
          rw [List.append_assoc]
          exact .broken (fun intact => failed (advances.intact intact))
            (by rw [List.length_append]; omega) (advances.trans further)
        | waiting ended partly further exhausts =>
          exact .waiting ended (by rw [List.length_append]; omega) (advances.trans further)
            (prompt.exhausts advances exhausts)

/-- Every way `ReceiveDesiredBytes` can end. It gives up at once when nothing
is pending, and this is the one case that reads nothing and does not block. -/
inductive DesiredBytesSpec (count : Nat) (net : Network) :
    EStateM.Result Stop Network (Bool × List UInt8) → Prop where
  | nothingPending (poll : hasPendingData net = .ok (false, 0) after)
      (empty : after.socket.unread = []) (advances : net.Advances after [])
      (polled : after.schedule.length < net.schedule.length) (prompt : net.Prompt after [] 1) :
      DesiredBytesSpec count net (.ok (false, []) after)
  | whole (length : bytes.length = count) (advances : net.Advances after bytes)
      (polled : after.schedule.length < net.schedule.length) (prompt : net.Prompt after bytes 1) :
      DesiredBytesSpec count net (.ok (true, bytes) after)
  | broken (failed : ¬ net.Intact) (partly : bytes.length < count)
      (advances : net.Advances after bytes) (polled : after.schedule.length < net.schedule.length) :
      DesiredBytesSpec count net (.ok (false, bytes) after)
  | waiting (ended : after.schedule = []) (partly : bytes.length < count)
      (advances : net.Advances after bytes) (exhausts : net.Exhausts after bytes 1) :
      DesiredBytesSpec count net (.error .waiting after)

theorem receiveDesiredBytes_spec {count : Nat} (positive : 0 < count) (net : Network) :
    DesiredBytesSpec count net (receiveDesiredBytes count net) := by
  rcases hasPendingData_cases net with ⟨ended, call⟩ | ⟨polled, call, advances, used⟩
  · simp only [receiveDesiredBytes, bind, EStateM.bind, call]
    refine .waiting ended (List.length_nil.trans_lt positive) (.refl net) (fun _ => .inl ?_)
    simp [ended]
  · have prompt : net.Prompt polled [] 1 := fun _ => by simp [← used]
    simp only [receiveDesiredBytes, bind, EStateM.bind, call]
    by_cases empty : polled.socket.unread = []
    · simp only [empty, List.isEmpty_nil, Bool.not_true, true_or, if_true]
      exact .nothingPending (by simp [call, empty]) empty advances (by omega) prompt
    · have pending : ¬ ((!polled.socket.unread.isEmpty) = false ∨ polled.socket.unread.length ≤ 0) := by
        simp [empty]
      simp only [pending, if_false, Int.toNat_natCast]
      have loop := receiveLoop_spec count count (Nat.le_refl _) [] polled
      generalize receiveLoop count count [] polled = ending at loop
      cases loop with
      | whole length further further' =>
        exact .whole length (advances.trans further)
          (by have := further.schedule.length_le; omega) (prompt.trans advances further')
      | broken failed partly further =>
        exact .broken (fun intact => failed (advances.intact intact)) partly (advances.trans further)
          (by have := further.schedule.length_le; omega)
      | waiting ended partly further exhausts =>
        exact .waiting ended partly (advances.trans further) (prompt.exhausts advances exhausts)

/-! ### One packet -/

/-- The size field of a frame, as the worker decodes it. -/
def sizeField (bytes : List UInt8) : Nat := (FPacketHeader.read bytes).packetSize.toNat

theorem sizeField_append {header : List UInt8} (length : headerSize ≤ header.length)
    (payload : List UInt8) : sizeField (header ++ payload) = sizeField header := by
  have first : (header ++ payload).take 2 = header.take 2 :=
    List.take_append_of_le_length (Nat.le_trans (by decide) length)
  simp only [sizeField, FPacketHeader.read, readUInt16, first]

/-- The state in which `ReceivePacket` loses a header: it has read one that
announces a payload, and its second poll finds nothing pending. -/
def Starves (net : Network) : Prop :=
  ∃ header middle after, receiveDesiredBytes headerSize net = .ok (true, header) middle ∧
    headerSize < sizeField header ∧ hasPendingData middle = .ok (false, 0) after

/-- The header that `ReceivePacket` reads next arrives whole and announces less
than itself. -/
def ShortHeader (net : Network) : Prop :=
  ∃ header middle, receiveDesiredBytes headerSize net = .ok (true, header) middle ∧
    sizeField header < headerSize

/-- Every way `ReceivePacket` can end. Only `starved` and `broken` return false
after bytes have left the stream. -/
inductive PacketSpec (net : Network) : EStateM.Result Stop Network (Bool × Packet) → Prop where
  | nothingPending (empty : after.socket.unread = []) (advances : net.Advances after [])
      (polled : after.schedule.length < net.schedule.length) : PacketSpec net (.ok (false, []) after)
  | broken (failed : ¬ net.Intact) (advances : net.Advances after bytes)
      (polled : after.schedule.length < net.schedule.length) : PacketSpec net (.ok (false, packet) after)
  | waiting (ended : after.schedule = []) (advances : net.Advances after bytes)
      (partly : bytes.length < headerSize ∨ bytes.length < sizeField bytes)
      (exhausts : net.Exhausts after bytes 2) : PacketSpec net (.error .waiting after)
  | bare (length : header.length = headerSize) (size : sizeField header = headerSize)
      (advances : net.Advances after header)
      (polled : after.schedule.length < net.schedule.length) (prompt : net.Prompt after header 2) :
      PacketSpec net (.ok (true, header) after)
  | negative (announced : ShortHeader net) (length : header.length = headerSize)
      (short : sizeField header < headerSize) (advances : net.Advances after header) :
      PacketSpec net (.error (.fault (.addZeroed (sizeField header - headerSize))) after)
  | starved (starves : Starves net) (length : header.length = headerSize)
      (long : headerSize < sizeField header) (empty : after.socket.unread = [])
      (advances : net.Advances after header)
      (polled : after.schedule.length < net.schedule.length) (prompt : net.Prompt after header 2) :
      PacketSpec net (.ok (false, packet) after)
  | whole (length : header.length = headerSize) (long : headerSize < sizeField header)
      (size : headerSize + payload.length = sizeField header)
      (advances : net.Advances after (header ++ payload))
      (polled : after.schedule.length < net.schedule.length)
      (prompt : net.Prompt after (header ++ payload) 2) :
      PacketSpec net (.ok (true, header ++ payload) after)

/-- `ReceivePacket` once the header read has succeeded. -/
theorem receivePacket_header {net : Network}
    (received : receiveDesiredBytes headerSize net = .ok (true, header) middle) :
    receivePacket net =
      if sizeField header = headerSize then .ok (true, header) middle
      else (addZeroed header (sizeField header - headerSize) >>= fun outPacket => do
        checkIndex outPacket headerSize
        let (received, payload) ← receiveDesiredBytes (sizeField header - headerSize)
        return (received, overwrite outPacket headerSize payload)) middle := by
  have zero : ((FPacketHeader.read header).packetSize.toNat : Int) - headerSize = 0 ↔
      sizeField header = headerSize := by
    unfold sizeField
    omega
  simp only [receivePacket, bind, EStateM.bind, received, Bool.true_eq_false, if_false, zero]
  split <;> rfl

/-- The payload read of a frame longer than its header. -/
theorem receivePacket_payload {net : Network}
    (received : receiveDesiredBytes headerSize net = .ok (true, header) middle)
    (length : header.length = headerSize) (long : headerSize < sizeField header) :
    receivePacket net =
      match receiveDesiredBytes ↑(sizeField header - headerSize) middle with
      | .ok (received, payload) after => .ok (received, overwrite
          (header ++ List.replicate (sizeField header - headerSize) 0) headerSize payload) after
      | .error stop after => .error stop after := by
  have size : (sizeField header : Int) - headerSize = ↑(sizeField header - headerSize) := by omega
  have indexed : headerSize <
      (header ++ List.replicate (sizeField header - headerSize) (0 : UInt8)).length := by
    rw [List.length_append, List.length_replicate]
    omega
  rw [receivePacket_header received, if_neg (by omega), size]
  simp only [addZeroed, checkIndex, bind, EStateM.bind, pure, EStateM.pure, Int.natCast_nonneg,
    if_true, Int.toNat_natCast, indexed]
  split <;> rename_i call <;> rw [call]

theorem receivePacket_spec (net : Network) : PacketSpec net (receivePacket net) := by
  have header := receiveDesiredBytes_spec (by decide : 0 < headerSize) net
  generalize call : receiveDesiredBytes headerSize net = result at header
  cases header with
  | nothingPending _ empty advances polled _ =>
    simp only [receivePacket, bind, EStateM.bind, call, if_true]
    exact .nothingPending empty advances polled
  | broken failed partly advances polled =>
    simp only [receivePacket, bind, EStateM.bind, call, if_true]
    exact .broken failed advances polled
  | waiting ended partly advances exhausts =>
    simp only [receivePacket, bind, EStateM.bind, call]
    exact .waiting ended advances (.inl partly) (exhausts.mono (by decide))
  | @whole middle header length advances polled prompt =>
    rcases Nat.lt_trichotomy (sizeField header) headerSize with short | size | long
    · rw [receivePacket_header call, if_neg (by omega)]
      have negative : ¬ (0 : Int) ≤ sizeField header - headerSize := by omega
      simp only [addZeroed, bind, EStateM.bind, negative, if_false]
      exact .negative ⟨_, _, call, short⟩ length short advances
    · rw [receivePacket_header call, if_pos size]
      exact .bare length size advances polled (prompt.mono (by decide))
    · rw [receivePacket_payload call length long]
      have payload := receiveDesiredBytes_spec (by omega : 0 < sizeField header - headerSize) middle
      generalize receiveDesiredBytes ↑(sizeField header - headerSize) middle = result at payload
      cases payload with
      | nothingPending poll empty further used further' =>
        have advances' := advances.trans further
        have prompt' := prompt.trans advances further'
        rw [List.append_nil] at advances' prompt'
        exact .starved ⟨_, _, _, call, long, poll⟩ length long empty advances' (by omega) prompt'
      | broken failed partly further used =>
        exact .broken (fun intact => failed (advances.intact intact)) (advances.trans further) (by omega)
      | waiting ended partly further exhausts =>
        refine .waiting ended (advances.trans further) (.inr ?_) (prompt.exhausts advances exhausts)
        rw [sizeField_append length.ge, List.length_append]
        omega
      | @whole _ payload size further used further' =>
        have filled := overwrite_append header payload
          (List.replicate (sizeField header - headerSize) 0)
        rw [length, size, List.drop_replicate, Nat.sub_self, List.replicate_zero,
          List.append_nil] at filled
        simp only [filled]
        exact .whole length long (by omega) (advances.trans further) (by omega)
          (prompt.trans advances further')

end RecvWorker
end ArenaClient
