import ArenaClient.Base.Framing
import ArenaClient.Network.SendWorker

/-! Order and content of what the socket accepts, over every interleaving of the
two threads and every outcome of `Send`; when the frames stay aligned after a
failure; and when the leave packet makes it out. -/
namespace ArenaClient.SendPath
open Transition

variable {path next : SendPath} {action : Action} {steps : List (Action × SendPath)}

theorem pieces_idle (idle : path.sending = none) : path.pieces = path.done := by
  rw [pieces, idle]
  exact List.append_nil _

theorem pieces_busy (busy : path.sending = some hand) :
    path.pieces = path.done ++ [⟨hand.frame, hand.sent, false⟩] := by
  rw [pieces, busy]
  rfl

/-- What the histories have to do with the queue, the buffer in hand and the
bytes on the wire. -/
structure Consistent (path : SendPath) : Prop where
  accepted : path.accepted = (path.pieces.map Piece.bytes).flatten
  order : path.enqueued.map SendBuffer.bytes =
    path.pieces.map Piece.frame ++ path.sendPacketQueue.map SendBuffer.bytes
  split : ∀ hand, path.sending = some hand → hand.frame = hand.sent ++ hand.buffer
  done : ∀ piece ∈ path.done,
    piece.bytes <+: piece.frame ∧ (piece.failed = false → piece.bytes = piece.frame)

theorem consistent_start : Consistent {} := ⟨rfl, rfl, by simp, by simp⟩

theorem Consistent.enqueue (consistent : Consistent path) (sendBuffer : SendBuffer) :
    Consistent (path.enqueue sendBuffer) where
  accepted := consistent.accepted
  order := by
    have order := consistent.order
    simp only [SendPath.enqueue, pieces, List.map_append, List.map_cons, List.map_nil] at order ⊢
    rw [order, List.append_assoc]
  split := consistent.split
  done := consistent.done

/-- The worker is done with the buffer in hand, whatever came of it. -/
theorem Consistent.retire (consistent : Consistent path) (busy : path.sending = some hand)
    (failed : Bool) (sent : failed = false → hand.buffer = []) :
    Consistent { path with
      sending := none, done := path.done ++ [⟨hand.frame, hand.sent, failed⟩] } := by
  have split := consistent.split hand busy
  refine ⟨?_, ?_, by simp, ?_⟩
  · have accepted := consistent.accepted
    rw [pieces_busy busy] at accepted
    simpa [pieces] using accepted
  · have order := consistent.order
    rw [pieces_busy busy] at order
    simpa [pieces] using order
  · intro piece member
    rcases List.mem_append.mp member with old | new
    · exact consistent.done piece old
    · obtain rfl := List.mem_singleton.mp new
      refine ⟨⟨hand.buffer, split.symm⟩, fun whole => ?_⟩
      simp only at whole ⊢
      rw [split, sent whole, List.append_nil]

theorem Consistent.step (consistent : Consistent path) (taken : Step path action next) :
    Consistent next := by
  cases taken with
  | sendPacket connected => exact consistent.enqueue _
  | leave connected =>
    have queued := consistent.enqueue leaveBuffer
    exact ⟨queued.accepted, queued.order, queued.split, queued.done⟩
  | destroySocket leaving =>
    exact ⟨consistent.accepted, consistent.order, consistent.split, consistent.done⟩
  | dequeue idle queued =>
    refine ⟨?_, ?_, ?_, consistent.done⟩
    · rw [consistent.accepted, pieces_idle idle]
      simp [pieces]
    · rw [consistent.order, pieces_idle idle, queued]
      simp [pieces]
    · rintro _ ⟨rfl⟩
      rfl
  | accept live busy positive bound =>
    have split := consistent.split _ busy
    refine ⟨?_, ?_, ?_, consistent.done⟩
    · rw [consistent.accepted, pieces_busy busy]
      simp [pieces]
    · rw [consistent.order, pieces_busy busy]
      simp [pieces]
    · rintro _ ⟨rfl⟩
      simp only [List.append_assoc, List.take_append_drop]
      exact split
  | fail busy desired => exact consistent.retire busy true (by simp)
  | finish busy sent => exact consistent.retire busy false (fun _ => sent)

theorem Consistent.prefixes (consistent : Consistent path) :
    ∀ piece ∈ path.pieces, piece.bytes <+: piece.frame := by
  intro piece member
  rcases List.mem_append.mp member with old | new
  · exact (consistent.done piece old).1
  · obtain ⟨hand, busy, rfl⟩ : ∃ hand, path.sending = some hand ∧
        (⟨hand.frame, hand.sent, false⟩ : Piece) = piece := by simpa using new
    exact ⟨hand.buffer, (consistent.split hand busy).symm⟩

/-! ### Order and content -/

/-- What the socket has accepted: for each buffer taken, in the order they were
queued, a prefix of its frame, and the whole frame unless a `Send` failed for it
or it is the last one. -/
structure InOrder (path : SendPath) : Prop where
  accepted : path.accepted = (path.pieces.map Piece.bytes).flatten
  order : path.pieces.map Piece.frame =
    (path.enqueued.map SendBuffer.bytes).take path.pieces.length
  prefixes : ∀ piece ∈ path.pieces, piece.bytes <+: piece.frame
  whole : ∀ earlier piece later, path.pieces = earlier ++ piece :: later → later ≠ [] →
    piece.failed = false → piece.bytes = piece.frame

theorem Consistent.inOrder (consistent : Consistent path) : InOrder path where
  accepted := consistent.accepted
  order := by
    rw [consistent.order, List.take_append_of_le_length (by simp), ← List.map_take, List.take_length]
  prefixes := consistent.prefixes
  whole := by
    intro earlier piece later shape more clean
    have member : piece ∈ path.done := by
      cases busy : path.sending with
      | none =>
        rw [pieces_idle busy] at shape
        exact shape ▸ by simp
      | some hand =>
        -- The piece in hand is the last one, and this one is not.
        rw [pieces_busy busy] at shape
        obtain ⟨front, last, rfl⟩ := (List.eq_nil_or_concat' later).resolve_left more
        rw [← List.cons_append, ← List.append_assoc] at shape
        obtain ⟨front, _⟩ := List.append_inj' shape rfl
        exact front ▸ by simp
    exact (consistent.done piece member).2 clean

/-- Along every run of a session the bytes on the wire are prefixes of the
queued frames, in queue order. -/
theorem inOrder_of_run (run : Run Step {} steps) : EveryState InOrder {} steps :=
  Run.everyState (P := Consistent) (fun _ _ _ => Consistent.step) run consistent_start |>.mono
    fun _ => Consistent.inOrder

theorem inOrder_of_leave : ∃ steps, Run Step {} steps ∧
    (final {} steps).accepted = leaveBuffer.bytes ∧ EveryState InOrder {} steps := by
  have run : Run Step {} [(Action.leave, _), (.dequeue, _), (.accept 3, _), (.accept 1, _), (.finish, _)] :=
    ⟨.leave rfl, .dequeue rfl rfl, .accept (by decide) rfl (by decide) (by decide),
      .accept (by decide) rfl (by decide) (by decide), .finish rfl rfl, trivial⟩
  exact ⟨_, run, rfl, inOrder_of_run run⟩

/-- What a call of the game thread queues. -/
def Action.queues : Action → List SendBuffer
  | sendPacket sendBuffer => [sendBuffer]
  | leave => [leaveBuffer]
  | destroySocket | dequeue | accept _ | fail | finish => []

/-- The history of the queue is what the calls of the run have queued, in order. -/
theorem enqueued_of_run (run : Run Step path steps) :
    (final path steps).enqueued = path.enqueued ++ output (fun _ => Action.queues) path steps := by
  refine Run.log_eq (P := fun _ => True) enqueued _ (fun _ _ _ _ _ => trivial) ?_ run trivial
  rintro before action after _ taken
  cases taken with
  | sendPacket | leave => rfl
  | _ => exact (List.append_nil _).symm

/-! ### The loop of `SendDesiredBytes` -/

/-- The steps of the worker compute `SendDesiredBytes`: what the call reports is
what a run of `accept`, `fail` and `finish` steps leaves behind. -/
theorem sendDesiredBytes_run (outcomes : List SendOutcome) (hand : Sending) (path : SendPath)
    (live : path.connection ≠ .disconnected) (busy : path.sending = some hand) :
    ∃ steps, Run Step path steps ∧
      (final path steps).accepted =
        path.accepted ++ (SendWorker.sendDesiredBytes outcomes hand.buffer).1 ∧
      ∀ result, (SendWorker.sendDesiredBytes outcomes hand.buffer).2.1 = some result →
        (final path steps).sending = none ∧ (final path steps).done = path.done ++
          [⟨hand.frame, hand.sent ++ (SendWorker.sendDesiredBytes outcomes hand.buffer).1, !result⟩] := by
  induction outcomes generalizing hand path with
  | nil =>
    cases left : hand.buffer with
    | nil =>
      refine ⟨[(.finish, _)], ⟨.finish busy left, trivial⟩, ?_, ?_⟩
      · simp [final, SendWorker.sendDesiredBytes]
      · simp [final, SendWorker.sendDesiredBytes]
    | cons byte buffer =>
      refine ⟨[], trivial, ?_, ?_⟩
      · simp [final, SendWorker.sendDesiredBytes]
      · simp [SendWorker.sendDesiredBytes]
  | cons outcome outcomes ih =>
    cases left : hand.buffer with
    | nil =>
      refine ⟨[(.finish, _)], ⟨.finish busy left, trivial⟩, ?_, ?_⟩
      · simp [final, SendWorker.sendDesiredBytes]
      · simp [final, SendWorker.sendDesiredBytes]
    | cons byte buffer =>
      cases outcome with
      | failed =>
        refine ⟨[(.fail, _)], ⟨.fail busy (by simp [left]), trivial⟩, ?_, ?_⟩
        · simp [final, SendWorker.sendDesiredBytes]
        · simp [final, SendWorker.sendDesiredBytes]
      | accepted count =>
        let sent := bytesSent count (byte :: buffer).length
        have bounds : 0 < sent ∧ sent ≤ (byte :: buffer).length := by
          simp only [sent, bytesSent, List.length_cons]
          omega
        let rest : Sending :=
          { hand with sent := hand.sent ++ hand.buffer.take sent, buffer := hand.buffer.drop sent }
        let middle : SendPath :=
          { path with sending := some rest, accepted := path.accepted ++ hand.buffer.take sent }
        have taken : Step path (.accept sent) middle := .accept live busy bounds.1 (left ▸ bounds.2)
        obtain ⟨steps, run, accepted, ended⟩ := ih rest middle live rfl
        have call : SendWorker.sendDesiredBytes (.accepted count :: outcomes) (byte :: buffer) =
            (hand.buffer.take sent ++ (SendWorker.sendDesiredBytes outcomes rest.buffer).1,
              (SendWorker.sendDesiredBytes outcomes rest.buffer).2) := by
          rw [show rest.buffer = (byte :: buffer).drop sent from left ▸ rfl, left]
          rfl
        rw [call]
        refine ⟨(.accept sent, middle) :: steps, ⟨taken, run⟩, ?_, ?_⟩
        · exact accepted.trans (List.append_assoc ..)
        · intro result returned
          obtain ⟨idle, done⟩ := ended result returned
          refine ⟨idle, done.trans ?_⟩
          rw [← List.append_assoc hand.sent]

end ArenaClient.SendPath
