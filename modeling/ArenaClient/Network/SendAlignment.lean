import ArenaClient.Network.SendWorkerProofs

/-! Frame alignment after a failed `Send`. `SendWorker::Run` does not look at
the result of `SendPacket`, so a frame that was cut short is followed by the
next one as if nothing had happened. -/
namespace ArenaClient.SendPath
open Transition

variable {path next : SendPath} {action : Action} {steps : List (Action × SendPath)}

/-- A proper, non-empty part of the frame. -/
abbrev Torn (piece : Piece) : Prop := Framing.Torn piece.frame piece.bytes

/-- Nothing of a later frame follows a part of an earlier one. -/
def Aligned (path : SendPath) : Prop :=
  path.pieces.Pairwise fun earlier later => Torn earlier → later.bytes = []

instance (path : SendPath) : Decidable path.Aligned := inferInstanceAs (Decidable (List.Pairwise _ _))

/-- No `Send` succeeds once one has failed part-way through a frame. -/
def SilentAfterTear (path : SendPath) (action : Action) : Prop :=
  ∀ count, action = .accept count → ∀ piece ∈ path.done, ¬ Torn piece

/-- Then the wire carries whole frames, in order, and at its end at most a part of
the frame behind them. -/
theorem Aligned.stream (aligned : path.Aligned) (consistent : path.Consistent) :
    ∃ (front back whole : List (List UInt8)) (cut : List UInt8),
      path.enqueued.map SendBuffer.bytes = front ++ back ∧ path.accepted = whole.flatten ++ cut ∧
      whole.Sublist front ∧ (cut = [] ∨ ∃ frame ∈ back.head?, Framing.Part frame cut) := by
  obtain ⟨front, back, whole, cut, shape, stream, inner, short⟩ :=
    Framing.flatten_pieces Piece.frame Piece.bytes consistent.prefixes aligned
  refine ⟨front.map Piece.frame, back.map Piece.frame ++ path.sendPacketQueue.map SendBuffer.bytes, whole, cut,
    ?_, consistent.accepted.trans stream, inner, short.imp_right ?_⟩
  · rw [consistent.order, shape, List.map_append, List.append_assoc]
  · rintro ⟨piece, next, part⟩
    refine ⟨piece.frame, ?_, part⟩
    obtain ⟨others, rfl⟩ := List.head?_eq_some_iff.mp next
    rfl

/-- Only an accepted `Send` can put a piece behind a torn one. -/
theorem Aligned.step (aligned : path.Aligned) (silent : SilentAfterTear path action)
    (taken : Step path action next) : next.Aligned := by
  cases taken with
  | sendPacket connected => exact aligned
  | leave connected => exact aligned
  | destroySocket leaving => exact aligned
  | dequeue idle queued =>
    rw [Aligned, pieces_idle idle] at aligned
    rw [Aligned, pieces_busy rfl]
    exact List.pairwise_append.mpr ⟨aligned, List.pairwise_singleton _ _, by simp⟩
  | accept live busy positive bound =>
    rw [Aligned, pieces_busy busy] at aligned
    rw [Aligned, pieces_busy rfl]
    obtain ⟨before, _, _⟩ := List.pairwise_append.mp aligned
    refine List.pairwise_append.mpr ⟨before, List.pairwise_singleton _ _, ?_⟩
    intro piece member _ _ torn
    exact absurd torn (silent _ rfl piece member)
  | fail busy desired | finish busy sent =>
    rw [Aligned, pieces_busy busy] at aligned
    rw [Aligned, pieces_idle rfl]
    obtain ⟨before, _, after⟩ := List.pairwise_append.mp aligned
    refine List.pairwise_append.mpr ⟨before, List.pairwise_singleton _ _, ?_⟩
    simpa using after

theorem not_aligned_of_accept (loud : ¬ SilentAfterTear path action)
    (taken : Step path action next) : ¬ next.Aligned := by
  intro aligned
  apply loud
  rintro count rfl piece member torn
  cases taken with
  | accept live busy positive bound =>
    rw [Aligned, pieces_busy rfl] at aligned
    obtain ⟨_, _, after⟩ := List.pairwise_append.mp aligned
    have empty := after piece member _ List.mem_cons_self torn
    have taken := (List.append_eq_nil_iff.mp empty).2
    have length := congrArg List.length taken
    rw [List.length_take, List.length_nil] at length
    omega

/-- Along a run the frames stay aligned exactly when no `Send` succeeds after
one that failed inside a frame. -/
theorem aligned_iff (run : Run Step {} steps) :
    EveryState Aligned {} steps ↔ EveryStep SilentAfterTear {} steps :=
  everyState_iff_everyStep (P := Consistent) (fun _ _ _ => Consistent.step)
    (fun _ _ _ _ aligned silent taken => aligned.step silent taken)
    (fun _ _ _ _ taken loud => not_aligned_of_accept loud taken)
    run consistent_start (by decide)

/-- Three bytes of a frame go out before its `Send` fails, and the next frame fails
as a whole. -/
theorem aligned_after_tear : ∃ steps, Run Step {} steps ∧ (final {} steps).accepted = [4, 0, 0xF2] ∧
    EveryState Aligned {} steps := by
  have run : Run Step {} [(Action.sendPacket leaveBuffer, _), (.sendPacket leaveBuffer, _), (.dequeue, _),
      (.accept 1, _), (.accept 2, _), (.fail, _), (.dequeue, _), (.fail, _)] :=
    ⟨.sendPacket rfl, .sendPacket rfl, .dequeue rfl rfl, .accept (by decide) rfl (by decide) (by decide),
      .accept (by decide) rfl (by decide) (by decide), .fail rfl (by decide), .dequeue rfl rfl,
      .fail rfl (by decide), trivial⟩
  exact ⟨_, run, rfl, (aligned_iff run).mpr (by simp [EveryStep, SilentAfterTear, enqueue])⟩

/-- Two frames: one byte of the first goes out, a `Send` fails, and the second
follows. -/
theorem torn_frame_followed : ∃ steps, Run Step {} steps ∧ ¬ EveryState Aligned {} steps := by
  refine ⟨[(.sendPacket leaveBuffer, _), (.sendPacket leaveBuffer, _), (.dequeue, _), (.accept 1, _),
    (.fail, _), (.dequeue, _), (.accept 4, _)],
    ⟨.sendPacket rfl, .sendPacket rfl, .dequeue rfl rfl, .accept (by decide) rfl (by decide) (by decide),
      .fail rfl (by decide), .dequeue rfl rfl, .accept (by decide) rfl (by decide) (by decide), trivial⟩,
    fun every => ?_⟩
  have last := every.last
  revert last
  decide

end ArenaClient.SendPath
