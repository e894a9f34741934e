import ArenaClient.Network.SendWorkerProofs

/-! The last packet of a connection. `DisconnectFromGameServer` queues it and
destroys the socket in the next statement, with nothing in between that waits
for the worker. -/
namespace ArenaClient.SendPath
open Transition

variable {path next : SendPath} {action : Action} {steps : List (Action × SendPath)}

/-- A step of a session in which every `Send` succeeds. -/
def CleanStep (path : SendPath) (action : Action) (next : SendPath) : Prop :=
  Step path action next ∧ action ≠ .fail

/-- What has been queued and not yet accepted. -/
def unsent (path : SendPath) : List UInt8 :=
  (path.sending.map Sending.buffer).getD [] ++ (path.sendPacketQueue.map SendBuffer.bytes).flatten

/-- All that was queued before the socket went away has been accepted, and the
leave packet was queued last. -/
structure Flushed (path : SendPath) : Prop where
  accepted : path.accepted = (path.enqueued.map SendBuffer.bytes).flatten
  leave : path.enqueued.getLast? = some leaveBuffer

def FlushedAtEnd (path : SendPath) : Prop := path.connection = .disconnected → Flushed path

/-- The socket is destroyed only when the worker has nothing left to send. -/
def NothingLeft (path : SendPath) (action : Action) : Prop :=
  action = .destroySocket → path.unsent = []

/-- Without failures every byte queued is accepted or still to be sent. -/
structure Clean (path : SendPath) : Prop where
  consistent : path.Consistent
  whole : ∀ piece ∈ path.done, piece.bytes = piece.frame
  leave : path.connection ≠ .connected → path.enqueued.getLast? = some leaveBuffer

theorem clean_start : Clean {} := ⟨consistent_start, by simp, by simp⟩

theorem Clean.balance (clean : Clean path) :
    path.accepted ++ path.unsent = (path.enqueued.map SendBuffer.bytes).flatten := by
  have consistent := clean.consistent
  have done : path.done.map Piece.bytes = path.done.map Piece.frame :=
    List.map_congr_left clean.whole
  rw [consistent.accepted, consistent.order, unsent]
  cases busy : path.sending with
  | none => simp [pieces_idle busy, done]
  | some hand => simp [pieces_busy busy, done, consistent.split hand busy]

theorem Clean.step (clean : Clean path) (taken : CleanStep path action next) : Clean next := by
  obtain ⟨taken, succeeds⟩ := taken
  refine ⟨clean.consistent.step taken, ?_, ?_⟩
  · cases taken with
    | finish busy sent =>
      intro piece member
      rcases List.mem_append.mp member with old | new
      · exact clean.whole piece old
      · obtain rfl := List.mem_singleton.mp new
        have split := clean.consistent.split _ busy
        rw [sent, List.append_nil] at split
        exact split.symm
    | fail => contradiction
    | _ => exact clean.whole
  · cases taken with
    | sendPacket connected => exact fun left => absurd connected left
    | leave connected => exact fun _ => List.getLast?_concat
    | destroySocket leaving => exact fun _ => clean.leave (by simp [leaving])
    | _ => exact clean.leave

theorem flushed_of_nothingLeft (clean : Clean path) (flushed : FlushedAtEnd path)
    (waits : NothingLeft path action) (taken : CleanStep path action next) : FlushedAtEnd next := by
  obtain ⟨taken, succeeds⟩ := taken
  cases taken with
  | sendPacket connected => exact fun ended => nomatch connected.symm.trans ended
  | leave connected => exact fun ended => nomatch ended
  | destroySocket leaving =>
    have balance := clean.balance
    rw [waits rfl, List.append_nil] at balance
    exact fun _ => ⟨balance, clean.leave (by simp [leaving])⟩
  | accept live => exact fun ended => absurd ended live
  | fail => contradiction
  | _ => exact fun ended => ⟨(flushed ended).accepted, (flushed ended).leave⟩

theorem not_flushed_of_left (clean : Clean path) (taken : CleanStep path action next)
    (left : ¬ NothingLeft path action) : ¬ FlushedAtEnd next := by
  intro flushed
  apply left
  rintro rfl
  obtain ⟨taken, _⟩ := taken
  cases taken with
  | destroySocket leaving =>
    have balance := clean.balance
    have all : path.accepted = (path.enqueued.map SendBuffer.bytes).flatten := (flushed rfl).accepted
    exact List.append_cancel_left (balance.trans (all.symm.trans (List.append_nil _).symm))

/-- When every `Send` succeeds, nothing queued is lost exactly in the runs whose
game thread destroys the socket after the worker has sent everything. -/
theorem flushedAtEnd_iff (run : Run CleanStep {} steps) :
    EveryState FlushedAtEnd {} steps ↔ EveryStep NothingLeft {} steps :=
  everyState_iff_everyStep (P := Clean) (fun _ _ _ => Clean.step)
    (fun _ _ _ => flushed_of_nothingLeft) (fun _ _ _ => not_flushed_of_left)
    run clean_start (fun ended => absurd ended (by decide))

theorem flushed_when_waited : ∃ steps, Run CleanStep {} steps ∧
    (final {} steps).connection = .disconnected ∧ EveryState FlushedAtEnd {} steps := by
  have run : Run CleanStep {} [(Action.leave, _), (.dequeue, _), (.accept 4, _), (.finish, _),
      (.destroySocket, _)] :=
    ⟨⟨.leave rfl, by decide⟩, ⟨.dequeue rfl rfl, by decide⟩,
      ⟨.accept (by decide) rfl (by decide) (by decide), by decide⟩, ⟨.finish rfl rfl, by decide⟩,
      ⟨.destroySocket rfl, by decide⟩, trivial⟩
  have flushed := (flushedAtEnd_iff run).mpr (by simp [EveryStep, NothingLeft, unsent])
  exact ⟨_, run, rfl, flushed⟩

/-- Nothing has to go wrong for the leave packet to be lost. -/
theorem leave_lost : ∃ steps, Run CleanStep {} steps ∧ ¬ EveryState FlushedAtEnd {} steps := by
  refine ⟨[(.leave, _), (.destroySocket, _)],
    ⟨⟨.leave rfl, by decide⟩, ⟨.destroySocket rfl, by decide⟩, trivial⟩, fun every => ?_⟩
  have accepted := (every.last rfl).accepted
  revert accepted
  decide

end ArenaClient.SendPath
