import ArenaClient.Network.FrameStream

/-! What the receive queue holds at the end of a run does not depend on the
delivery schedule, as long as no header is dropped. Which streams and which
schedules these are is exact. -/
namespace ArenaClient.RecvWorker
open Transition

variable {net : Network} {worker next later : RecvWorker} {frames tail : List Frame}

/-! ### Runs between frame boundaries -/

theorem pass_intact (intact : worker.net.Intact) (passed : worker.pass = .ok next) :
    next.net.Intact := by
  obtain ⟨received, packet, call, _⟩ := pass_ok_iff.mp passed
  obtain ⟨bytes, advances⟩ := receivePacket_advances call
  exact advances.intact intact

/-- A pass that does not starve goes from a boundary to a boundary. -/
theorem pass_boundary (intact : worker.net.Intact) (stream : worker.net.stream = encodeAll tail)
    (fed : ¬ Starves worker.net) (passed : worker.pass = .ok next) :
    ∃ taken left, tail = taken ++ left ∧ next.net.stream = encodeAll left ∧
      next.recvPacketQueue = worker.recvPacketQueue ++ taken.map Frame.encode := by
  obtain ⟨received, packet, call, queue⟩ := pass_ok_iff.mp passed
  have spec := receivePacket_frames intact stream
  rw [call] at spec
  cases spec with
  | nothingPending empty advances =>
    have same : next.net.stream = worker.net.stream := advances.remaining
    exact ⟨[], tail, rfl, same.trans stream, by simpa using queue⟩
  | received shape advances left prompt => exact ⟨[_], _, shape, left, by simpa using queue⟩
  | starved starves => exact absurd starves fed

theorem pass_atBoundary (intact : worker.net.Intact) (boundary : AtBoundary frames worker.net)
    (fed : ¬ Starves worker.net) (passed : worker.pass = .ok next) : AtBoundary frames next.net := by
  obtain ⟨inner, within, stream⟩ := boundary
  obtain ⟨taken, left, rfl, stream', _⟩ := pass_boundary intact stream fed passed
  exact ⟨left, (List.suffix_append taken left).trans within, stream'⟩

theorem reaches_boundary (intact : worker.net.Intact) (boundary : AtBoundary frames worker.net)
    (fed : ∀ later, Reaches worker later → ¬ Starves later.net) (reached : Reaches worker later) :
    later.net.Intact ∧ AtBoundary frames later.net := by
  refine reached.invariant_of_reached (P := fun w => w.net.Intact ∧ AtBoundary frames w.net) ?_
    ⟨intact, boundary⟩
  intro w _ next reached ⟨intact, boundary⟩ passed
  exact ⟨pass_intact intact passed, pass_atBoundary intact boundary (fed w reached) passed⟩

/-- The run has read everything, unless it failed an assertion. -/
def Finished (ending : Stop × RecvWorker) : Prop :=
  ending.1 = .waiting → ending.2.net.stream = []

instance (ending : Stop × RecvWorker) : Decidable (Finished ending) :=
  inferInstanceAs (Decidable (ending.1 = .waiting → ending.2.net.stream = []))

/-- A finished run that never starves enqueues the frames it has not read yet,
whole and in order. -/
theorem run_queue (worker : RecvWorker) : ∀ tail, worker.net.Intact →
    worker.net.stream = encodeAll tail →
    (∀ later, Reaches worker later → ¬ Starves later.net) → Finished (run worker) →
    (run worker).2.recvPacketQueue = worker.recvPacketQueue ++ tail.map Frame.encode := by
  induction worker using run_induction with
  | stop worker ending stopped =>
    obtain ⟨stop, last⟩ := ending
    intro tail intact stream _ finished
    obtain ⟨call, queue⟩ := pass_error_iff.mp stopped
    have spec := receivePacket_frames intact stream
    rw [call] at spec
    rw [run_of_stop stopped] at finished ⊢
    cases spec with
    | waiting advances drained exhausts =>
      rw [drained (finished rfl)]
      simpa using queue
  | pass worker next passed ih =>
    intro tail intact stream fed finished
    obtain ⟨taken, left, rfl, stream', queue⟩ :=
      pass_boundary intact stream (fed worker (.refl worker)) passed
    have first : Reaches worker next := (Reachable.refl worker).next (l := ()) passed
    have rest := ih left (pass_intact intact passed) stream'
      (fun later reached => fed later (first.trans reached)) (run_of_pass passed ▸ finished)
    rw [run_of_pass passed, rest, queue, List.append_assoc, List.map_append]

/-! ### Bytes that are lost -/

/-- The bytes of a worker: those it has enqueued and those it can still read. -/
def held (worker : RecvWorker) : Nat :=
  worker.recvPacketQueue.flatten.length + worker.net.stream.length

theorem pass_held (passed : worker.pass = .ok next) : held next ≤ held worker := by
  obtain ⟨received, packet, call, queue⟩ := pass_ok_iff.mp passed
  have spec := receivePacket_spec worker.net
  rw [call] at spec
  unfold held
  rw [queue]
  cases spec with
  | nothingPending _ advances _ | broken _ advances _ | starved _ _ _ _ advances _ _ =>
    have read := advances.length
    simp only [Bool.false_eq_true, if_false, List.append_nil]
    omega
  | bare _ _ advances _ _ | whole _ _ _ advances _ _ =>
    have read := advances.length
    simp only [if_true, List.flatten_append, List.flatten_singleton, List.length_append] at read ⊢
    omega

theorem pass_starves (starves : Starves worker.net) :
    ∃ next, worker.pass = .ok next ∧ held next < held worker := by
  obtain ⟨header, packet, after, call, advances, length⟩ := receivePacket_starves starves
  refine ⟨{ worker with net := after }, by rw [pass, call], ?_⟩
  have read := advances.length
  unfold headerSize at length
  simp only [held]
  omega

theorem run_held (worker : RecvWorker) : held (run worker).2 ≤ held worker := by
  induction worker using run_induction with
  | stop worker ending stopped =>
    obtain ⟨stop, last⟩ := ending
    obtain ⟨call, queue⟩ := pass_error_iff.mp stopped
    obtain ⟨bytes, advances⟩ := receivePacket_error_advances call
    have read := advances.length
    rw [run_of_stop stopped]
    simp only [held, queue]
    omega
  | pass worker next passed ih =>
    rw [run_of_pass passed]
    exact ih.trans (pass_held passed)

theorem reaches_held (reached : Reaches worker later) : held later ≤ held worker :=
  reached.invariant (P := fun w => held w ≤ held worker)
    (fun _ _ _ bound passed => (pass_held passed).trans bound) (Nat.le_refl _)

/-- A run that starves once ends with fewer bytes than it started with. -/
theorem run_starved (reached : Reaches worker later) (starves : Starves later.net) :
    held (run worker).2 < held worker := by
  obtain ⟨next, passed, lost⟩ := pass_starves starves
  have before := reaches_held reached
  have after := run_held next
  rw [run_of_reaches reached, run_of_pass passed]
  omega

/-! ### Everything has arrived -/

theorem finished_of_drained (worker : RecvWorker) (drained : worker.net.stream = []) :
    Finished (run worker) := by
  induction worker using run_induction with
  | stop worker ending stopped =>
    obtain ⟨stop, last⟩ := ending
    obtain ⟨bytes, advances⟩ := receivePacket_error_advances (pass_error_iff.mp stopped).1
    rw [run_of_stop stopped]
    intro _
    exact (List.append_eq_nil_iff.mp (advances.stream.symm.trans drained)).2
  | pass worker next passed ih =>
    obtain ⟨received, packet, call, _⟩ := pass_ok_iff.mp passed
    obtain ⟨bytes, advances⟩ := receivePacket_advances call
    rw [run_of_pass passed]
    exact ih (List.append_eq_nil_iff.mp (advances.stream.symm.trans drained)).2

/-- Once nothing is in flight, three deliveries a byte are enough to read
everything: a poll, a poll and a byte. -/
theorem finished_of_pending (worker : RecvWorker) (intact : worker.net.Intact)
    (arrived : worker.net.socket.inFlight = [])
    (enough : 3 * worker.net.stream.length + 3 ≤ worker.net.schedule.length) :
    Finished (run worker) := by
  induction worker using run_induction with
  | stop worker ending stopped =>
    obtain ⟨stop, last⟩ := ending
    obtain ⟨call, _⟩ := pass_error_iff.mp stopped
    have spec := receivePacket_spec worker.net
    rw [call] at spec
    rw [run_of_stop stopped]
    intro waiting
    cases spec with
    | waiting ended advances partly exhausts =>
      have read := advances.length
      exact (exhausts arrived).resolve_left (by omega)
    | negative => simp at waiting
  | pass worker next passed ih =>
    obtain ⟨received, packet, call, _⟩ := pass_ok_iff.mp passed
    have spec := receivePacket_spec worker.net
    have intact' := pass_intact intact passed
    rw [call] at spec
    rw [run_of_pass passed]
    cases spec with
    | broken failed => exact absurd intact failed
    | nothingPending empty advances _ | starved _ _ _ empty advances _ _ =>
      apply finished_of_drained
      rw [Network.stream, empty, advances.pending arrived, List.append_nil]
    | bare length _ advances _ prompt | whole length _ _ advances _ prompt =>
      have read := advances.length
      have used := prompt arrived
      simp only [List.length_append, length, headerSize] at read used
      exact ih intact' (advances.pending arrived) (by omega)

theorem fed_of_arrived (intact : worker.net.Intact) (arrived : worker.net.socket.inFlight = [])
    (boundary : AtBoundary frames worker.net) (reached : Reaches worker later) :
    ¬ Starves later.net := by
  have kept : later.net.Intact ∧ later.net.socket.inFlight = [] ∧ AtBoundary frames later.net := by
    refine reached.invariant (P := fun w => w.net.Intact ∧ w.net.socket.inFlight = [] ∧
      AtBoundary frames w.net) ?_ ⟨intact, arrived, boundary⟩
    rintro w _ next ⟨intact, arrived, boundary⟩ passed
    obtain ⟨inner, within, stream⟩ := id boundary
    obtain ⟨received, packet, call, _⟩ := pass_ok_iff.mp passed
    obtain ⟨bytes, advances⟩ := receivePacket_advances call
    have fed := fed_of_pending intact arrived stream
    exact ⟨advances.intact intact, advances.pending arrived, pass_atBoundary intact boundary fed passed⟩
  obtain ⟨intact, arrived, tail, _, stream⟩ := kept
  exact fed_of_pending intact arrived stream

/-! ### Delivery schedules of a stream of frames -/

/-- No `Recv` of the schedule fails, and by its end the worker has read all
that was sent. -/
def Complete (frames : List Frame) (schedule : List Delivery) : Prop :=
  (start (encodeAll frames) schedule).net.Intact ∧
    Finished (run (start (encodeAll frames) schedule))

instance (frames : List Frame) (schedule : List Delivery) : Decidable (Complete frames schedule) :=
  inferInstanceAs (Decidable (_ ∧ _))

/-- What the worker has enqueued by the end of a schedule. -/
def received (frames : List Frame) (schedule : List Delivery) : List Packet :=
  (run (start (encodeAll frames) schedule)).2.recvPacketQueue

/-- Whenever `ReceivePacket` returns false the stream is between two frames. -/
def StaysAligned (frames : List Frame) (schedule : List Delivery) : Prop :=
  ∀ worker packet after, Reaches (start (encodeAll frames) schedule) worker →
    receivePacket worker.net = .ok (false, packet) after → AtBoundary frames after

/-- No pass drops a header. -/
def NeverStarves (frames : List Frame) (schedule : List Delivery) : Prop :=
  ∀ worker, Reaches (start (encodeAll frames) schedule) worker → ¬ Starves worker.net

/-- Framing as it should be: any two deliveries of the same stream enqueue the
same packets, and no call gives up inside a frame. -/
structure DeliveryIndependent (frames : List Frame) : Prop where
  sameQueue : ∀ first second, Complete frames first → Complete frames second →
    received frames first = received frames second
  aligned : ∀ schedule, (start (encodeAll frames) schedule).net.Intact → StaysAligned frames schedule

theorem start_boundary (frames : List Frame) (schedule : List Delivery) :
    AtBoundary frames (start (encodeAll frames) schedule).net :=
  Framing.AtBoundary.start Frame.encode frames

theorem staysAligned_iff (intact : (start (encodeAll frames) schedule).net.Intact) :
    StaysAligned frames schedule ↔ NeverStarves frames schedule := by
  constructor
  · intro aligned worker reached starves
    have kept : worker.net.Intact ∧ AtBoundary frames worker.net := by
      refine reached.invariant_of_reached (P := fun w => w.net.Intact ∧ AtBoundary frames w.net) ?_
        ⟨intact, start_boundary frames schedule⟩
      intro w _ next reached ⟨intact, boundary⟩ passed
      refine ⟨pass_intact intact passed, ?_⟩
      obtain ⟨received, packet, call, _⟩ := pass_ok_iff.mp passed
      cases received with
      | false => exact aligned w packet next.net reached call
      | true =>
        by_cases starved : Starves w.net
        · obtain ⟨_, _, _, call', _⟩ := receivePacket_starves starved
          simp [call] at call'
        · exact pass_atBoundary intact boundary starved passed
    obtain ⟨intact, inner, within, stream⟩ := kept
    obtain ⟨packet, after, call, inside⟩ := starved_inside intact within stream starves
    exact inside (aligned worker packet after reached call)
  · intro fed worker packet after reached call
    have passed : worker.pass = .ok { worker with net := after } := by rw [pass, call]
    exact (reaches_boundary intact (start_boundary frames schedule) fed
      (reached.next (l := ()) passed)).2

theorem length_flatten_encode (frames : List Frame) :
    (frames.map Frame.encode).flatten.length = (encodeAll frames).length := by
  rw [encodeAll, List.flatMap_def]

theorem received_iff (complete : Complete frames schedule) :
    received frames schedule = frames.map Frame.encode ↔ NeverStarves frames schedule := by
  constructor
  · intro whole worker reached starves
    have lost := run_starved reached starves
    have sent : held (start (encodeAll frames) schedule) = (encodeAll frames).length := Nat.zero_add _
    rw [sent, held, ← received, whole, length_flatten_encode] at lost
    omega
  · intro fed
    exact run_queue _ frames complete.1 rfl fed complete.2

end ArenaClient.RecvWorker
