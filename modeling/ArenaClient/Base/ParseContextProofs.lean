import ArenaClient.Base.ParseContext

/-! What the steps of a parse do, wherever the patch buffer takes over: the end
of a message, strings, and the numbers before them. -/
namespace Protobuf

namespace ParseContext

/-- The parse goes on, if need be in the patch buffer. -/
def Moves (ctx after : ParseContext) : Prop :=
  ∃ chunk : Bool, (chunk → ctx.nextChunk) ∧ after = { ctx with nextChunk := chunk }

/-- What holds between two fields. -/
structure Ready (ctx : ParseContext) (ptr : Nat) : Prop where
  chunk : ctx.nextChunk → kSlopBytes < ctx.flat.length
  near : ptr ≤ ctx.bufferEnd + kSlopBytes
  going : ctx.lastTagMinus1 = 0

variable {ctx : ParseContext} {ptr : Nat}

theorem Moves.refl (ctx : ParseContext) : Moves ctx ctx := ⟨ctx.nextChunk, id, rfl⟩

theorem Moves.trans (first : Moves ctx middle) (second : Moves middle after) : Moves ctx after := by
  obtain ⟨_, kept, rfl⟩ := first
  obtain ⟨chunk, kept', rfl⟩ := second
  exact ⟨chunk, fun still => kept (kept' still), rfl⟩

theorem Moves.bufferEnd (moves : Moves ctx after) : ctx.bufferEnd ≤ after.bufferEnd := by
  obtain ⟨chunk, kept, rfl⟩ := moves
  unfold ParseContext.bufferEnd
  cases chunk <;> cases next : ctx.nextChunk <;> simp_all

theorem bufferEnd_le (ctx : ParseContext) : ctx.bufferEnd ≤ ctx.flat.length := by
  unfold bufferEnd
  split <;> omega

theorem Ready.moves (ready : Ready ctx ptr) (moves : Moves ctx after)
    (near : next ≤ after.bufferEnd + kSlopBytes) : Ready after next := by
  obtain ⟨chunk, kept, rfl⟩ := moves
  exact ⟨fun still => ready.chunk (kept still), near, ready.going⟩

theorem bufferEnd_of_used (used : ctx.nextChunk = false) : ctx.bufferEnd = ctx.flat.length :=
  if_neg (by simp [used])

theorem moves_patch (ctx : ParseContext) : Moves ctx { ctx with nextChunk := false } :=
  ⟨false, by simp, rfl⟩

/-! ### The end of a message -/

/-- What `DoneWithCheck` finds: it looks at the limit and at the end of the
array, wherever the buffer ends. -/
inductive Done (ctx : ParseContext) (ptr : Nat) : Option (Bool × ParseContext) → Prop
  | more {after : ParseContext} (moves : Moves ctx after) (below : ptr < ctx.limit)
      (inside : ptr < after.bufferEnd) : Done ctx ptr (some (false, after))
  | atLimit (reached : ptr = ctx.limit) (inside : ptr ≤ ctx.flat.length) : Done ctx ptr (some (true, ctx))
  | endOfStream {after : ParseContext} (moves : Moves ctx after) (reached : ptr = ctx.flat.length)
      (below : ptr < ctx.limit) : Done ctx ptr (some (true, after.setEndOfStream))
  | exceeded (past : ctx.limit < ptr ∨ ctx.flat.length < ptr) : Done ctx ptr none

theorem done_atEndOfStream (moves : Moves ctx after) (whole : after.bufferEnd = ctx.flat.length)
    (past : ctx.flat.length ≤ ptr) (below : ptr < ctx.limit) : Done ctx ptr (after.atEndOfStream ptr) := by
  unfold atEndOfStream
  split
  · rename_i reached
    exact .endOfStream moves (reached.trans whole) below
  · exact .exceeded (.inr (by omega))

theorem done_doneWithCheck (ready : Ready ctx ptr) : Done ctx ptr (ctx.doneWithCheck ptr) := by
  have near := ready.near
  unfold doneWithCheck
  split
  · rename_i below
    unfold limitEnd at below
    exact .more (.refl ctx) (by omega) (by omega)
  rename_i reached
  split
  · rename_i atLimit
    cases next : ctx.nextChunk with
    | true =>
      have long := ready.chunk next
      rw [bufferEnd, if_pos next] at near
      rw [if_neg (by simp)]
      exact .atLimit atLimit (by omega)
    | false =>
      have whole := bufferEnd_of_used next
      split
      · exact .exceeded (.inr (by omega))
      · rename_i inside
        exact .atLimit atLimit (by simp at inside; omega)
  · unfold doneFallback limitEnd at *
    split
    · exact .exceeded (.inl (by assumption))
    cases next : ctx.nextChunk with
    | false =>
      have whole := bufferEnd_of_used next
      simp only [nextBuffer, next]
      exact done_atEndOfStream (.refl ctx) whole (by omega) (by omega)
    | true =>
      have below := bufferEnd_le ctx
      simp only [nextBuffer, next, if_true]
      split
      · exact .more (moves_patch ctx) (by omega) (by assumption)
      · rename_i past
        exact done_atEndOfStream (moves_patch ctx) rfl (Nat.not_lt.mp past) (by omega)

theorem doneWithCheck_more (ready : Ready ctx ptr) (below : ptr < ctx.limit)
    (inside : ctx.limit ≤ ctx.flat.length) :
    ∃ here, ctx.doneWithCheck ptr = some (false, here) ∧ Moves ctx here ∧ ptr < here.bufferEnd := by
  have done := done_doneWithCheck ready
  generalize ctx.doneWithCheck ptr = found at done
  cases done with
  | more moves _ room => exact ⟨_, rfl, moves, room⟩
  | atLimit | endOfStream | exceeded => omega

theorem doneWithCheck_atLimit (ready : Ready ctx ptr) (reached : ptr = ctx.limit)
    (inside : ctx.limit ≤ ctx.flat.length) : ctx.doneWithCheck ptr = some (true, ctx) := by
  have done := done_doneWithCheck ready
  generalize ctx.doneWithCheck ptr = found at done
  cases done with
  | atLimit => rfl
  | more | endOfStream | exceeded => omega

/-! ### Strings -/

/-- What `ReadString` does: without the patch buffer or with it, the bytes, up
to the slop. -/
inductive ReadsString (ctx : ParseContext) (ptr size : Nat) :
    Option (List UInt8 × Nat × ParseContext) → Prop
  | read {after : ParseContext} (moves : Moves ctx after) (near : ptr + size ≤ after.bufferEnd + kSlopBytes) :
    ReadsString ctx ptr size (some (ctx.chars ptr size, ptr + size, after))
  | past (beyond : ctx.flat.length < ptr + size) : ReadsString ctx ptr size none

theorem readsString_readString (chunk : ctx.nextChunk → kSlopBytes < ctx.flat.length) (ptr size : Nat) :
    ReadsString ctx ptr size (ctx.readString ptr size) := by
  unfold readString
  split
  · rename_i near
    exact .read (.refl ctx) near
  · rename_i far
    cases next : ctx.nextChunk with
    | false =>
      have whole := bufferEnd_of_used next
      simp only [readStringFallback, nextBuffer, next]
      exact .past (by omega)
    | true =>
      have long := chunk next
      have beyond : ctx.flat.length < ptr + size := by
        rw [bufferEnd, if_pos next] at far
        omega
      simp only [readStringFallback, nextBuffer, next, if_true]
      split
      · exact .past beyond
      split
      · exact .read (moves_patch ctx) (by assumption)
      · exact .past beyond

end ParseContext

/-! ### Pieces of the array -/

def slice (flat : List UInt8) (ptr stop : Nat) : List UInt8 := (flat.take stop).drop ptr

section Slice
variable {flat : List UInt8} {ptr stop : Nat}

theorem length_slice (ptr : Nat) (inside : stop ≤ flat.length) : (slice flat ptr stop).length = stop - ptr := by
  rw [slice, List.length_drop, List.length_take_of_le inside]

theorem slice_drop (flat : List UInt8) (ptr stop count : Nat) :
    (slice flat ptr stop).drop count = slice flat (ptr + count) stop := List.drop_drop

theorem slice_take (count : Nat) (inside : ptr + count ≤ stop) :
    (slice flat ptr stop).take count = slice flat ptr (ptr + count) := by
  rw [slice, slice, List.take_drop, List.take_take, Nat.min_eq_left inside]

theorem slice_self (flat : List UInt8) (ptr : Nat) : slice flat ptr ptr = [] :=
  List.drop_eq_nil_of_le (List.length_take_le _ _)

theorem slice_ne_nil (inside : stop ≤ flat.length) (below : ptr < stop) : slice flat ptr stop ≠ [] := by
  intro empty
  have length := length_slice ptr inside
  rw [empty, List.length_nil] at length
  omega

theorem Agrees.inside {reader plain : Option (Nat × α)}
    (agrees : Agrees reader plain (slice flat ptr stop).length) (inside : stop ≤ flat.length)
    (found : reader = some (used, value)) (enough : ptr + used ≤ stop) : plain = some (used, value) :=
  (agrees _ _).mpr ⟨found, by rw [length_slice _ inside]; omega⟩

theorem Agrees.found {reader plain : Option (Nat × α)}
    (agrees : Agrees reader plain (slice flat ptr stop).length) (inside : stop ≤ flat.length)
    (low : ptr ≤ stop) (there : plain = some (used, value)) :
    reader = some (used, value) ∧ ptr + used ≤ stop := by
  obtain ⟨found, enough⟩ := (agrees _ _).mp there
  rw [length_slice _ inside] at enough
  exact ⟨found, by omega⟩

theorem raw_slice (inside : stop ≤ flat.length) (enough : ptr + count ≤ stop) :
    raw count (slice flat ptr stop) = some (count, slice flat ptr (ptr + count)) := by
  rw [raw, if_pos (by rw [length_slice _ inside]; omega), slice_take count enough]

theorem raw_found (inside : stop ≤ flat.length) (low : ptr ≤ stop)
    (there : raw count (slice flat ptr stop) = some (used, bytes)) :
    count = used ∧ ptr + count ≤ stop ∧ bytes = slice flat ptr (ptr + count) := by
  obtain ⟨enough, same⟩ := Option.ite_none_right_eq_some.mp there
  rw [length_slice _ inside] at enough
  obtain ⟨rfl, rfl⟩ := Prod.mk.inj (Option.some.inj same)
  exact ⟨rfl, by omega, slice_take count (by omega)⟩

end Slice

namespace ParseContext
variable {ctx : ParseContext} {ptr stop : Nat}

theorem pointer_slice (inside : stop ≤ ctx.flat.length) :
    (ctx.pointer ptr).From 0 (slice ctx.flat ptr stop) := by
  intro i below
  have length := length_slice ptr inside
  have there : ptr + i < ctx.flat.length := by omega
  simp only [slice, List.getElem_drop, List.getElem_take, pointer, Nat.zero_add]
  rw [List.getD_eq_getElem?_getD, List.getElem?_eq_getElem there, Option.getD_some]

theorem chars_eq (inside : ptr + size ≤ ctx.flat.length) :
    ctx.chars ptr size = slice ctx.flat ptr (ptr + size) := by
  have length := length_slice ptr inside
  apply List.ext_getElem
  · rw [length, Nat.add_sub_cancel_left]
    simp [chars]
  · intro i _ below
    rw [← pointer_slice inside i below]
    simp [chars]

variable {after : ParseContext} {p : Nat}

/-! ### What the readers of a field do -/

/-- What holds after a tag: there is room for any number. -/
structure AfterTag (ctx : ParseContext) (ptr : Nat) : Prop where
  chunk : ctx.nextChunk → kSlopBytes < ctx.flat.length
  near : ptr ≤ ctx.bufferEnd + 5
  going : ctx.lastTagMinus1 = 0

/-- What reading anything does to the parse. -/
structure Advances (ctx after : ParseContext) (ptr p : Nat) : Prop where
  moves : Moves ctx after
  near : p ≤ after.bufferEnd + kSlopBytes
  forward : ptr ≤ p

theorem Advances.trans {middle : ParseContext} {next : Nat} (first : Advances ctx middle ptr next)
    (second : Advances middle after next p) : Advances ctx after ptr p :=
  ⟨first.moves.trans second.moves, second.near, first.forward.trans second.forward⟩

theorem AfterTag.ready (tagged : AfterTag ctx ptr) (advances : Advances ctx after ptr p) : Ready after p := by
  obtain ⟨⟨chunk, kept, rfl⟩, near, -⟩ := advances
  exact ⟨fun still => tagged.chunk (kept still), near, tagged.going⟩

theorem delimited_slice (inside : stop ≤ ctx.flat.length)
    (sized : readSize (ctx.pointer ptr) = some (used, size)) (enough : ptr + used + size ≤ stop) :
    delimited (slice ctx.flat ptr stop) =
      some (used + size, slice ctx.flat (ptr + used) (ptr + used + size)) := by
  have there := (readSize_agrees (pointer_slice inside)).inside inside sized (by omega)
  rw [delimited, there, Option.bind_some]
  dsimp only
  rw [slice_drop, raw_slice inside enough]
  rfl

theorem delimited_found (inside : stop ≤ ctx.flat.length) (low : ptr ≤ stop)
    (there : delimited (slice ctx.flat ptr stop) = some (count, bytes)) :
    ∃ used size, readSize (ctx.pointer ptr) = some (used, size) ∧ used + size = count ∧
      ptr + count ≤ stop ∧ bytes = slice ctx.flat (ptr + used) (ptr + count) := by
  obtain ⟨⟨used, size⟩, sized, there⟩ := Option.bind_eq_some_iff.mp there
  obtain ⟨⟨_, bytes⟩, there, same⟩ := Option.map_eq_some_iff.mp there
  obtain ⟨sized, fits⟩ := (readSize_agrees (pointer_slice inside)).found inside low sized
  rw [slice_drop] at there
  obtain ⟨rfl, enough, rfl⟩ := raw_found inside fits there
  obtain ⟨rfl, rfl⟩ := Prod.mk.inj same
  refine ⟨used, size, sized, rfl, by dsimp only; omega, ?_⟩
  rw [← Nat.add_assoc]
  rfl

theorem string_sound (tagged : AfterTag ctx ptr)
    (read : ctx.inlineGreedyStringParser ptr = some (text, p, after)) :
    Advances ctx after ptr p ∧ ∀ stop, p ≤ stop → stop ≤ ctx.flat.length →
      delimited (slice ctx.flat ptr stop) = some (p - ptr, text) := by
  obtain ⟨⟨used, size⟩, sized, read⟩ := Option.bind_eq_some_iff.mp read
  have string := readsString_readString tagged.chunk (ptr + used) size
  dsimp only at read
  rw [read] at string
  cases string with
  | read moves near =>
    refine ⟨⟨moves, near, by omega⟩, fun stop enough inside => ?_⟩
    rw [delimited_slice inside sized enough, chars_eq (by omega), Nat.add_assoc, Nat.add_sub_cancel_left]

theorem string_complete (tagged : AfterTag ctx ptr) (low : ptr ≤ stop) (inside : stop ≤ ctx.flat.length)
    (there : delimited (slice ctx.flat ptr stop) = some (used, text)) :
    ∃ after, ctx.inlineGreedyStringParser ptr = some (text, ptr + used, after) ∧
      Advances ctx after ptr (ptr + used) ∧ ptr + used ≤ stop := by
  obtain ⟨first, size, sized, rfl, enough, rfl⟩ := delimited_found inside low there
  have string := readsString_readString tagged.chunk (ptr + first) size
  rw [inlineGreedyStringParser, sized, Option.bind_eq_bind, Option.bind_some]
  change ∃ after, ctx.readString (ptr + first) size = _ ∧ _
  generalize ctx.readString (ptr + first) size = read at string
  cases string with
  | read moves near =>
    refine ⟨_, ?_, ⟨moves, by omega, by omega⟩, enough⟩
    rw [chars_eq (by omega), Nat.add_assoc]
  | past beyond => omega

/-! ### Messages and groups -/

theorem popLimit_eq_some {old : Nat} : ctx.popLimit old = some after ↔
    ctx.lastTagMinus1 = 0 ∧ { ctx with limit := old } = after := by
  rw [popLimit, Option.ite_none_right_eq_some, endedAtLimit, decide_eq_true_eq, Option.some.injEq]

theorem parseMessage_eq_some {M : Type} {parse : ParseContext → Nat → M → Option (Nat × ParseContext × M)}
    {msg msg' : M} : ctx.parseMessage parse ptr msg = some (p, after, msg') ↔
      ∃ used size inner, readSize (ctx.pointer ptr) = some (used, size) ∧ ctx.depth ≠ 0 ∧
        parse { ctx with limit := ptr + used + size, depth := ctx.depth - 1 } (ptr + used) msg =
          some (p, inner, msg') ∧
        inner.lastTagMinus1 = 0 ∧ { inner with depth := inner.depth + 1, limit := ctx.limit } = after := by
  simp only [parseMessage, Option.bind_eq_bind, Option.bind_eq_some_iff, Prod.exists,
    Option.ite_none_left_eq_some, popLimit_eq_some, Option.pure_def, Option.some.injEq, Prod.mk.injEq]
  constructor
  · rintro ⟨used, size, sized, deep, _, inner, _, parsed, _, ⟨ended, rfl⟩, rfl, rfl, rfl⟩
    exact ⟨used, size, inner, sized, deep, parsed, ended, rfl⟩
  · rintro ⟨used, size, inner, sized, deep, parsed, ended, rfl⟩
    exact ⟨used, size, sized, deep, p, inner, msg', parsed, _, ⟨ended, rfl⟩, rfl, rfl, rfl⟩

theorem parseGroup_eq_some {parse : ParseContext → Nat → Option (Nat × ParseContext)} {startTag : UInt32} :
    ctx.parseGroup parse startTag ptr = some (p, after) ↔
      ∃ inner, ctx.depth ≠ 0 ∧ parse { ctx with depth := ctx.depth - 1 } ptr = some (p, inner) ∧
        inner.lastTagMinus1 = startTag ∧
        { inner with depth := inner.depth + 1, lastTagMinus1 := 0 } = after := by
  simp only [parseGroup, Option.bind_eq_bind, Option.bind_eq_some_iff, Prod.exists,
    Option.ite_none_left_eq_some, Option.ite_none_right_eq_some, Option.pure_def, Option.some.injEq, Prod.mk.injEq]
  constructor
  · rintro ⟨deep, _, inner, parsed, closed, rfl, rfl⟩
    exact ⟨inner, deep, parsed, closed, rfl⟩
  · rintro ⟨inner, deep, parsed, closed, rfl⟩
    exact ⟨deep, p, inner, parsed, closed, rfl, rfl⟩

end ParseContext
end Protobuf
