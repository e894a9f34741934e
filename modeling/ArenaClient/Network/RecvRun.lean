import ArenaClient.Base.Transition
import ArenaClient.Network.RecvWorkerProofs

/-! Whole runs of the receive worker on arbitrary bytes and schedules: the
passes of `Run` as a step relation, and the size discipline of what they
enqueue. -/
namespace ArenaClient.RecvWorker
open Transition

/-- One pass of `Run` that comes back to the loop condition. -/
def Step (worker : RecvWorker) (_ : Unit) (next : RecvWorker) : Prop := worker.pass = .ok next

abbrev Reaches := Reachable Step

theorem pass_ok_iff {worker next : RecvWorker} : worker.pass = .ok next ↔
    ∃ received packet, receivePacket worker.net = .ok (received, packet) next.net ∧
      next.recvPacketQueue = worker.recvPacketQueue ++ if received then [packet] else [] := by
  obtain ⟨net, queue⟩ := next
  unfold pass
  split <;> simp_all [and_comm, eq_comm]

theorem pass_error_iff {worker last : RecvWorker} : worker.pass = .error (stop, last) ↔
    receivePacket worker.net = .error stop last.net ∧
      last.recvPacketQueue = worker.recvPacketQueue := by
  obtain ⟨net, queue⟩ := last
  unfold pass
  split
  · simp_all
  · simp_all
  · simp_all only [Except.error.injEq, Prod.mk.injEq, mk.injEq, EStateM.Result.error.injEq, and_assoc]
    exact and_congr Iff.rfl (and_congr Iff.rfl eq_comm)

/-- Each pass uses up a delivery, whatever it receives. -/
theorem pass_shorter {worker next : RecvWorker} (passed : worker.pass = .ok next) :
    next.net.schedule.length < worker.net.schedule.length := by
  obtain ⟨received, packet, call, _⟩ := pass_ok_iff.mp passed
  have spec := receivePacket_spec worker.net
  rw [call] at spec
  cases spec <;> assumption

theorem runFor_eq (worker : RecvWorker) (more fewer : Nat)
    (enough : worker.net.schedule.length < fewer) (bound : fewer ≤ more) :
    runFor more worker = runFor fewer worker := by
  induction fewer generalizing worker more with
  | zero => omega
  | succ fewer ih =>
    obtain ⟨more, rfl⟩ : ∃ k, more = k + 1 := ⟨more - 1, by omega⟩
    simp only [runFor]
    cases passed : worker.pass with
    | error stopped => rfl
    | ok next =>
      have shorter := pass_shorter passed
      exact ih next more (by omega) (by omega)

theorem run_of_pass {worker next : RecvWorker} (passed : worker.pass = .ok next) :
    run worker = run next := by
  have shorter := pass_shorter passed
  simp only [run, runFor, passed]
  exact runFor_eq next _ _ (Nat.lt_succ_self _) (by omega)

theorem run_of_stop {worker : RecvWorker} (stopped : worker.pass = .error ending) :
    run worker = ending := by
  simp only [run, runFor, stopped]

/-- Every run is finitely many passes and a stop. -/
theorem run_induction {P : RecvWorker → Prop}
    (stop : ∀ worker ending, worker.pass = .error ending → P worker)
    (pass : ∀ worker next, worker.pass = .ok next → P next → P worker) (worker : RecvWorker) :
    P worker := by
  induction length : worker.net.schedule.length using Nat.strong_induction_on generalizing worker with
  | _ n ih =>
    cases passed : worker.pass with
    | error ending => exact stop worker ending passed
    | ok next =>
      have shorter := pass_shorter passed
      exact pass worker next passed (ih _ (by omega) next rfl)

theorem run_of_reaches {worker later : RecvWorker} (reached : Reaches worker later) :
    run worker = run later := by
  have same : run later = run worker := reached.invariant (P := fun w => run w = run worker)
    (fun _ _ _ same passed => (run_of_pass passed).symm.trans same) rfl
  exact same.symm

theorem receivePacket_advances {net : Network} (call : receivePacket net = .ok result after) :
    ∃ bytes, net.Advances after bytes := by
  have spec := receivePacket_spec net
  rw [call] at spec
  cases spec <;> exact ⟨_, ‹_›⟩

theorem receivePacket_error_advances {net : Network}
    (call : receivePacket net = .error stop after) : ∃ bytes, net.Advances after bytes := by
  have spec := receivePacket_spec net
  rw [call] at spec
  cases spec <;> exact ⟨_, ‹_›⟩

/-! ### The size discipline -/

/-- What the dispatcher relies on: a whole header, and the length it announces. -/
def WellSized (packet : Packet) : Prop :=
  headerSize ≤ packet.length ∧ packet.length = (PacketHeader.ofBuffer packet).size.toNat

theorem wellSized_iff (packet : Packet) :
    WellSized packet ↔ headerSize ≤ packet.length ∧ packet.length = sizeField packet := Iff.rfl

theorem receivePacket_wellSized {net : Network}
    (call : receivePacket net = .ok (true, packet) after) : WellSized packet := by
  have spec := receivePacket_spec net
  rw [call] at spec
  rw [wellSized_iff]
  cases spec with
  | bare length size _ _ _ => exact ⟨length.ge, length.trans size.symm⟩
  | whole length long size _ _ _ =>
    rw [sizeField_append length.ge, List.length_append]
    omega

theorem queue_wellSized {worker later : RecvWorker} (reached : Reaches worker later)
    (initial : ∀ packet ∈ worker.recvPacketQueue, WellSized packet) :
    ∀ packet ∈ later.recvPacketQueue, WellSized packet := by
  refine reached.invariant (P := fun w => ∀ packet ∈ w.recvPacketQueue, WellSized packet) ?_ initial
  intro w _ next sized passed packet member
  obtain ⟨received, taken, call, queue⟩ := pass_ok_iff.mp passed
  rw [queue, List.mem_append] at member
  rcases member with old | new
  · exact sized packet old
  · cases received with
    | false => simp at new
    | true =>
      obtain rfl : packet = taken := by simpa using new
      exact receivePacket_wellSized call

/-- The only assertion `ReceivePacket` can fail is the count of `AddZeroed`,
and only on a header that announces less than itself. -/
theorem receivePacket_fault_iff (net : Network) :
    (∃ fault after, receivePacket net = .error (.fault fault) after) ↔ ShortHeader net := by
  constructor
  · rintro ⟨fault, after, call⟩
    have spec := receivePacket_spec net
    rw [call] at spec
    cases spec with
    | negative announced _ _ _ => exact announced
  · rintro ⟨header, middle, received, short⟩
    have negative : ¬ (0 : Int) ≤ sizeField header - headerSize := by omega
    refine ⟨.addZeroed (sizeField header - headerSize), middle, ?_⟩
    rw [receivePacket_header received, if_neg (by omega)]
    simp only [addZeroed, bind, EStateM.bind, negative, if_false]
    rfl

/-- No assertion fails in any pass of a run, and everything enqueued is at
least a header long and as long as it says. -/
def ReceivesSafely (bytes : List UInt8) (schedule : List Delivery) : Prop :=
  ∀ worker, Reaches (start bytes schedule) worker →
    (∀ fault after, receivePacket worker.net ≠ .error (.fault fault) after) ∧
    ∀ packet ∈ worker.recvPacketQueue, WellSized packet

/-- Arbitrary bytes are received safely under a schedule exactly when no pass
gets to a header that announces less than itself. -/
theorem receivesSafely_iff (bytes : List UInt8) (schedule : List Delivery) :
    ReceivesSafely bytes schedule ↔
      ∀ worker, Reaches (start bytes schedule) worker → ¬ ShortHeader worker.net := by
  constructor
  · intro safe worker reached short
    obtain ⟨fault, after, call⟩ := (receivePacket_fault_iff worker.net).mpr short
    exact (safe worker reached).1 fault after call
  · intro announced worker reached
    refine ⟨fun fault after call => ?_, queue_wellSized reached (by simp [start])⟩
    exact announced worker reached ((receivePacket_fault_iff worker.net).mp ⟨fault, after, call⟩)

/-- Four bytes are enough to end the process. -/
theorem zero_size_unsafe :
    ¬ ReceivesSafely [0, 0, 0, 0] [{ arrived := 4 }, { arrived := 0, handed := 4 }] := by
  intro safe
  have call : receivePacket (start [0, 0, 0, 0] [{ arrived := 4 }, { arrived := 0, handed := 4 }]).net =
      .error (.fault (.addZeroed (-4))) { socket := {}, schedule := [] } := by rfl
  exact (safe _ (.refl _)).1 _ _ call

end ArenaClient.RecvWorker
