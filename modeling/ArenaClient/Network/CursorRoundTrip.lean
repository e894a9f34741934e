import ArenaClient.Base.Interspersed
import ArenaClient.Network.CursorBounds

/-! What was written is what is read: accepted writes are one store of all the
blocks together, and reads of the same lengths take that store apart again. -/
namespace ArenaClient
open Bytes Calls BufferCursor

/-! ### Writing -/

namespace BufferWriter
variable {writer last : BufferWriter}

theorem wrote_nil (writer : BufferWriter) : writer.wrote [] = writer := by
  simp [wrote, overwrite_nil, advance]

theorem wrote_wrote {first : List UInt8} (bounds : writer.InBounds)
    (fits : writer.pos.toNat + first.length ≤ writer.size.toNat) (second : List UInt8) :
    (writer.wrote first).wrote second = writer.wrote (first ++ second) := by
  have moved : (writer.wrote first).pos.toNat = writer.pos.toNat + first.length := pos_advance fits
  have joined := overwrite_overwrite (bounds.whole ▸ fits) second
  rw [wrote, moved, wrote, wrote, List.length_append, ← advance_advance, ← joined]
  rfl

/-- Writes that all return true store the blocks one behind the other. -/
theorem run_write {blocks : List Block} (bounds : writer.InBounds)
    (written : run call writer (blocks.map .write) = some (answers, last))
    (accepted : ∀ answer ∈ answers, answer = true) :
    writer.pos.toNat + (blocks.flatMap Block.bytes).length ≤ writer.size.toNat ∧
      last = writer.wrote (blocks.flatMap Block.bytes) := by
  induction blocks generalizing writer answers with
  | nil =>
    obtain ⟨_, rfl⟩ := Prod.mk.inj (Option.some.inj written)
    exact ⟨UInt32.le_iff_toNat_le.mp bounds.inside, (wrote_nil writer).symm⟩
  | cons block blocks ih =>
    obtain ⟨answer, next, rest, taken, later, rfl⟩ := run_cons_eq_some written
    obtain ⟨success, restAccepted⟩ := List.forall_mem_cons.mp accepted
    subst success
    have all : block.bytes.take block.len.toNat = block.bytes := List.take_of_length_le (by simp)
    rw [call, write_eq bounds block.bytes (Nat.le_of_eq block.toNat_len), all, block.toNat_len] at taken
    split at taken
    · rename_i fits
      obtain ⟨_, rfl⟩ := Prod.mk.inj (Option.some.inj taken)
      obtain ⟨room, ending⟩ := ih (InBounds.wrote bounds fits) later restAccepted
      have moved : (writer.wrote block.bytes).pos.toNat = writer.pos.toNat + block.bytes.length :=
        pos_advance fits
      rw [moved] at room
      rw [List.flatMap_cons, List.length_append, ← wrote_wrote bounds fits]
      exact ⟨by rw [← Nat.add_assoc]; exact room, ending⟩
    · exact absurd (Prod.mk.inj (Option.some.inj taken)).1 Bool.false_ne_true

end BufferWriter

/-! ### Reading -/

def ReaderCall.IsPeek : ReaderCall → Prop
  | .peek _ | .peekAs _ => True
  | .read _ | .readAs _ | .extract _ => False

/-- The answers to the calls of `Read`. -/
def readAnswers : List ReaderCall → List Copied → List Copied
  | .read _ :: calls, answer :: answers => answer :: readAnswers calls answers
  | _ :: calls, _ :: answers => readAnswers calls answers
  | _, _ => []

namespace BufferReader
variable {reader : BufferReader} {calls : List ReaderCall}

theorem call_peek (bounds : reader.InBounds) {call : ReaderCall} (peeks : call.IsPeek) :
    (∃ answer, reader.call call = some (answer, reader)) ∧
      ∀ calls answer answers, readAnswers (call :: calls) (answer :: answers) = readAnswers calls answers := by
  have stays (len : UInt32) : ∃ answer, reader.peek len = some (answer, reader) := by
    rw [peek_eq bounds]
    split <;> exact ⟨_, rfl⟩
  cases call with
  | peek len => exact ⟨stays len, fun _ _ _ => rfl⟩
  | peekAs sizeofT => exact ⟨stays _, fun _ _ _ => rfl⟩
  | read | readAs | extract => exact peeks.elim

/-- What lies ahead of the reader is read block by block. -/
theorem run_read {blocks : List Block} {rest : List UInt8} (bounds : reader.InBounds)
    (ahead : reader.buffer.drop reader.pos.toNat = blocks.flatMap Block.bytes ++ rest)
    (mixed : Interspersed ReaderCall.IsPeek (blocks.map fun block => .read block.len) calls) :
    ∃ answers, run call reader calls =
        some (answers, reader.advance (blocks.flatMap Block.bytes).length) ∧
      readAnswers calls answers =
        blocks.map fun block => { success := true, dest := block.bytes } := by
  generalize same : blocks.map (fun block => ReaderCall.read block.len) = reads at mixed
  induction mixed generalizing blocks reader with
  | nil =>
    obtain rfl := List.map_eq_nil_iff.mp same
    exact ⟨[], by simp [run, advance], rfl⟩
  | insert call peeks mixed ih =>
    obtain ⟨⟨answer, taken⟩, skipped⟩ := call_peek bounds peeks
    obtain ⟨answers, ran, answered⟩ := ih bounds ahead same
    exact ⟨answer :: answers, run_cons taken ran, (skipped _ _ _).trans answered⟩
  | keep call mixed ih =>
    obtain ⟨block, blocks, rfl, rfl, later⟩ := List.map_eq_cons_iff.mp same
    have total := congrArg List.length ahead
    simp only [List.flatMap_cons, List.length_append, List.length_drop, bounds.whole] at total
    have inside := UInt32.le_iff_toNat_le.mp bounds.inside
    have fits : reader.pos.toNat + block.bytes.length ≤ reader.size.toNat := by omega
    have here : (reader.buffer.drop reader.pos.toNat).take block.bytes.length = block.bytes := by
      rw [ahead, List.flatMap_cons, List.append_assoc, List.take_left]
    have taken : reader.call (.read block.len) =
        some ({ success := true, dest := block.bytes }, reader.advance block.bytes.length) := by
      rw [BufferReader.call, read_eq bounds, block.toNat_len, if_pos fits, here]
    have next : (reader.advance block.bytes.length).buffer.drop
        (reader.advance block.bytes.length).pos.toNat = blocks.flatMap Block.bytes ++ rest := by
      rw [pos_advance fits, ← List.drop_drop]
      exact (congrArg (List.drop _) ahead).trans (by
        rw [List.flatMap_cons, List.append_assoc, List.drop_left])
    obtain ⟨answers, ran, answered⟩ := ih (bounds.advance fits) next later
    refine ⟨_ :: answers, ?_, congrArg (List.cons _) answered⟩
    rw [List.flatMap_cons, List.length_append, ← advance_advance]
    exact run_cons taken ran

end BufferReader

/-- After writes that all return true, reads of the same lengths from the same
start, with any calls of `Peek` between them, give the blocks back and end where
the writer ended; the rest of the buffer is as it was. -/
theorem reading_undoes_writing (start writer : BufferCursor) (blocks : List Block)
    (answers : List Bool) (calls : List ReaderCall) (bounds : start.InBounds)
    (written : run BufferWriter.call start (blocks.map .write) = some (answers, writer))
    (accepted : ∀ answer ∈ answers, answer = true)
    (mixed : Interspersed ReaderCall.IsPeek (blocks.map fun block => .read block.len) calls) :
    (∃ answers reader, run BufferReader.call { start with buffer := writer.buffer } calls =
          some (answers, reader) ∧
        readAnswers calls answers = blocks.map (fun block => { success := true, dest := block.bytes }) ∧
        BufferReader.readSize reader = BufferWriter.writeSize writer) ∧
      writer.buffer.length = start.buffer.length ∧
      writer.buffer.take start.pos.toNat = start.buffer.take start.pos.toNat ∧
      writer.buffer.drop writer.pos.toNat = start.buffer.drop writer.pos.toNat := by
  obtain ⟨fits, rfl⟩ := BufferWriter.run_write bounds written accepted
  have inside : start.pos.toNat ≤ start.buffer.length := by
    rw [bounds.whole]
    exact UInt32.le_iff_toNat_le.mp bounds.inside
  have ahead := drop_overwrite inside (blocks.flatMap Block.bytes)
  obtain ⟨answers, ran, answered⟩ := BufferReader.run_read (bounds.overwrite fits) ahead mixed
  have moved : (BufferWriter.wrote start (blocks.flatMap Block.bytes)).pos.toNat =
      start.pos.toNat + (blocks.flatMap Block.bytes).length := pos_advance fits
  refine ⟨⟨answers, _, ran, answered, rfl⟩, length_overwrite (bounds.whole ▸ fits),
    take_overwrite inside _, ?_⟩
  rw [moved, ← List.drop_drop]
  exact (congrArg (List.drop _) ahead).trans List.drop_left

/-- Two bytes, none and the last one, with a look ahead after the first block. -/
theorem reading_undoes_three_writes : ∃ answers reader,
    run BufferReader.call ⟨[9, 1, 2, 3], 4, 1⟩ [.read 2, .peek 1, .read 0, .peekAs 8, .read 1] =
      some (answers, reader) ∧
    readAnswers [.read 2, .peek 1, .read 0, .peekAs 8, .read 1] answers =
      [⟨true, [1, 2]⟩, ⟨true, []⟩, ⟨true, [3]⟩] := by
  obtain ⟨⟨answers, reader, ran, answered, _⟩, _⟩ :=
    reading_undoes_writing ⟨[9, 0, 0, 0], 4, 1⟩ ⟨[9, 1, 2, 3], 4, 4⟩
      [⟨[1, 2], by decide⟩, ⟨[], by decide⟩, ⟨[3], by decide⟩] [true, true, true]
      [.read 2, .peek 1, .read 0, .peekAs 8, .read 1] (by decide) (by decide) (by decide)
      (.keep _ (.insert _ trivial (.keep _ (.insert _ trivial (.keep _ .nil)))))
  exact ⟨answers, reader, ran, answered⟩

end ArenaClient
