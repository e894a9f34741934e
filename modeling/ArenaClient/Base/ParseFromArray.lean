import ArenaClient.Base.ParseField

/-! The generated parsers read what the format says: they accept exactly the
arrays that decode, with the same message, although no limit is checked while a
field is read. -/
namespace Protobuf

namespace ParseContext
variable {ctx after : ParseContext} {ptr p : Nat}

/-- What `FieldParser` reads, by the wire type. -/
theorem fieldParser_eq_some {tag : UInt32} {group : ParseContext → Nat → Option (Nat × ParseContext)} :
    ctx.fieldParser group tag ptr = some (p, after) ↔ 0 < tag.toNat / 8 ∧
      ((tag.toNat % 8 = 0 ∧ ∃ used value, varintParse64 (ctx.pointer ptr) = some (used, value) ∧
          ptr + used = p ∧ ctx = after) ∨
        (tag.toNat % 8 = 1 ∧ ptr + 8 = p ∧ ctx = after) ∨
        (tag.toNat % 8 = 2 ∧ ∃ text, ctx.inlineGreedyStringParser ptr = some (text, p, after)) ∨
        (tag.toNat % 8 = 3 ∧ ctx.parseGroup group tag ptr = some (p, after)) ∨
        (tag.toNat % 8 = 5 ∧ ptr + 4 = p ∧ ctx = after)) := by
  rw [fieldParser]
  simp only [tag_number_eq_zero, tag_wireType]
  by_cases zero : tag.toNat / 8 = 0
  · simp [zero]
  rw [if_neg zero, and_iff_right (Nat.pos_of_ne_zero zero)]
  have few : tag.toNat % 8 < 8 := Nat.mod_lt _ (by decide)
  generalize wireType : tag.toNat % 8 = n at few
  match n with
  | 0 | 1 | 2 | 5 => simp [Option.bind_eq_some_iff]
  | 3 => simp [start_tag tag wireType]
  | 4 | 6 | 7 => simp
  | n + 8 => omega

end ParseContext

namespace Schema
open ParseContext
variable {schema : Schema} {name : schema.Name} {tag : UInt32} {ctx after : ParseContext} {start ptr p : Nat}
  {fuel : Nat}

/-! ### Unknown fields and groups -/

/-- A parser that stops at the end tag of a group has read the group. -/
def GroupSound (schema : Schema) (group : ParseContext → Nat → Option (Nat × ParseContext)) : Prop :=
  ∀ {ctx ptr p inner number}, Ready ctx ptr → group ctx ptr = some (p, inner) → 0 < number →
    inner.lastTagMinus1.toNat = 8 * number + 3 →
      (∃ after, Advances ctx after ptr p ∧ { inner with lastTagMinus1 := 0 } = after) ∧
        ∀ {name sub depth groups} {msg : schema.Carrier name}, depth = ctx.depth + groups.length + 1 →
          Runs sub depth name ctx.flat ptr p (number :: groups, msg) (groups, msg)

variable {group : ParseContext → Nat → Option (Nat × ParseContext)} {groups : List Nat} {sub : schema.Reader}
  {depth : Nat}

theorem fieldParser_sound (sound : GroupSound schema group)
    (read : readTag (ctx.pointer start) = some (used, tag)) (tagged : AfterTag ctx (start + used))
    (parsed : ctx.fieldParser group tag (start + used) = some (p, after)) :
    Advances ctx after (start + used) p ∧ ∀ {name sub depth groups} {msg : schema.Carrier name},
      Passes name groups tag → depth = ctx.depth + groups.length →
        Runs sub depth name ctx.flat start p (groups, msg) (groups, msg) := by
  obtain ⟨positive, found⟩ := fieldParser_eq_some.mp parsed
  obtain ⟨wireType, _, value, number, rfl, rfl⟩ | ⟨wireType, rfl, rfl⟩ | ⟨wireType, text, string⟩ |
    ⟨wireType, found⟩ | ⟨wireType, rfl, rfl⟩ := found
  · have advances := advances_number tagged (varintParse64_used number).2
    refine ⟨advances, fun passes _ => ?_⟩
    refine runs_passes (.varint value) positive passes read advances.forward wireType.symm ?_ _
    rw [wireType]
    exact (varint_reads number).map _
  · have advances := advances_number tagged (show 8 ≤ 10 by decide)
    refine ⟨advances, fun passes _ => ?_⟩
    refine runs_passes (.fixed64 (ctx.chars (start + used) 8)) positive passes read advances.forward
      wireType.symm ?_ _
    rw [wireType]
    exact (chars_reads ctx _ 8).map _
  · obtain ⟨advances, reads⟩ := string_sound tagged string
    refine ⟨advances, fun passes _ => ?_⟩
    refine runs_passes (.delimited text) positive passes read advances.forward wireType.symm ?_ _
    rw [wireType]
    exact Reads.map reads _
  · obtain ⟨inner, deep, found, closed, same⟩ := parseGroup_eq_some.mp found
    have ready : Ready { ctx with depth := ctx.depth - 1 } (start + used) :=
      ⟨tagged.chunk, tagged.near.trans (Nat.add_le_add_left (by decide) _), tagged.going⟩
    obtain ⟨⟨_, ⟨⟨chunk, kept, rfl⟩, near, forward⟩, rest⟩, runs⟩ :=
      sound ready found positive (by rw [closed]; omega)
    have whole : { ctx with nextChunk := chunk } = after := by
      obtain ⟨_, _, _, _, _⟩ := inner
      simp only [ParseContext.mk.injEq] at rest
      obtain ⟨rfl, rfl, rfl, -, rfl⟩ := rest
      rw [← same, ParseContext.mk.injEq]
      exact ⟨rfl, rfl, rfl, tagged.going, by dsimp only; omega⟩
    subst whole
    refine ⟨⟨⟨chunk, kept, rfl⟩, near, forward⟩, fun _ level stop enough inside => ?_⟩
    have there : Protobuf.tagged tag (slice ctx.flat (start + used) stop) =
        some (0, .startGroup (tag.toNat / 8)) := by
      rw [tagged_eq positive, wireType, body]
    rw [run_tagged read inside (by omega) there, step, if_pos (by omega), Option.bind_some]
    exact runs (by dsimp only; omega) stop enough inside
  · have advances := advances_number tagged (show 4 ≤ 10 by decide)
    refine ⟨advances, fun passes _ => ?_⟩
    refine runs_passes (.fixed32 (ctx.chars (start + used) 4)) positive passes read advances.forward
      wireType.symm ?_ _
    rw [wireType]
    exact (chars_reads ctx _ 4).map _

/-- It finds the end tag of each group that is closed before the limit. -/
def GroupComplete (schema : Schema) (fuel : Nat)
    (group : ParseContext → Nat → Option (Nat × ParseContext)) : Prop :=
  ∀ {ctx ptr name sub depth groups number} {msg msg' : schema.Carrier name}, Ready ctx ptr → ptr ≤ ctx.limit →
    ctx.limit ≤ ctx.flat.length → ctx.limit < ptr + fuel → depth = ctx.depth + groups.length + 1 →
    run sub depth name (number :: groups, msg) (slice ctx.flat ptr ctx.limit) = some ([], msg') →
      ∃ p after last, group ctx ptr = some (p, { after with lastTagMinus1 := last }) ∧
        Advances ctx after ptr p ∧ last.toNat = 8 * number + 3 ∧ p ≤ ctx.limit ∧
        run sub depth name (groups, msg) (slice ctx.flat p ctx.limit) = some ([], msg')

theorem fieldParser_complete (complete : GroupComplete schema fuel group) (passes : Passes name groups tag)
    (notEnd : tag.toNat % 8 ≠ 4) (tagged : AfterTag ctx ptr) (low : ptr ≤ ctx.limit)
    (inside : ctx.limit ≤ ctx.flat.length) (fuelled : ctx.limit < ptr + fuel)
    (level : depth = ctx.depth + groups.length)
    (there : Protobuf.tagged tag (slice ctx.flat ptr ctx.limit) = some (count, t))
    (stepped : step sub depth name (groups, msg) t = some state)
    (ran : run sub depth name state (slice ctx.flat (ptr + count) ctx.limit) = some ([], msg')) :
    ∃ p after, ctx.fieldParser group tag ptr = some (p, after) ∧ Advances ctx after ptr p ∧ p ≤ ctx.limit ∧
      run sub depth name (groups, msg) (slice ctx.flat p ctx.limit) = some ([], msg') := by
  obtain ⟨number, there⟩ := Option.ite_none_left_eq_some.mp there
  have positive : 0 < tag.toNat / 8 := Nat.pos_of_ne_zero number
  obtain ⟨wireType, rfl, rfl⟩ | ⟨wireType, -⟩ | ⟨payload, rfl, wireType⟩ := body_cases there
  · obtain ⟨room, same⟩ := Option.ite_none_right_eq_some.mp stepped
    obtain rfl := Option.some.inj same
    have ready : Ready { ctx with depth := ctx.depth - 1 } ptr :=
      ⟨tagged.chunk, tagged.near.trans (Nat.add_le_add_left (by decide) _), tagged.going⟩
    obtain ⟨p, _, last, found, ⟨⟨chunk, kept, rfl⟩, near, forward⟩, closed, past, rest⟩ :=
      complete ready low inside fuelled (by dsimp only; omega) ran
    have same : last = tag := UInt32.toNat_inj.mp (by omega)
    refine ⟨p, { ctx with nextChunk := chunk }, ?_, ⟨⟨chunk, kept, rfl⟩, near, forward⟩, past, rest⟩
    refine fieldParser_eq_some.mpr ⟨positive, .inr (.inr (.inr (.inl ⟨wireType, ?_⟩)))⟩
    refine parseGroup_eq_some.mpr ⟨_, by omega, found, same, ?_⟩
    rw [ParseContext.mk.injEq]
    exact ⟨rfl, rfl, rfl, tagged.going.symm, by dsimp only; omega⟩
  · exact absurd wireType notEnd
  · rw [step_passes passes wireType] at stepped
    obtain rfl := Option.some.inj stepped
    refine ⟨ptr + count, ?_⟩
    cases payload with
    | varint value =>
      rw [← wireType, Payload.wireType, body_varint] at there
      obtain ⟨value, read, -⟩ := there
      obtain ⟨read, enough⟩ := (varintParse64_agrees (pointer_slice inside)).found inside low read
      refine ⟨ctx, ?_, advances_number tagged (varintParse64_used read).2, enough, ran⟩
      exact fieldParser_eq_some.mpr ⟨positive, .inl ⟨wireType.symm, count, value, read, rfl, rfl⟩⟩
    | fixed64 eight =>
      rw [← wireType, Payload.wireType, body_fixed64] at there
      obtain ⟨eight, read, -⟩ := there
      obtain ⟨rfl, enough, -⟩ := raw_found inside low read
      refine ⟨ctx, ?_, advances_number tagged (by decide), enough, ran⟩
      exact fieldParser_eq_some.mpr ⟨positive, .inr (.inl ⟨wireType.symm, rfl, rfl⟩)⟩
    | delimited text =>
      rw [← wireType, Payload.wireType, body_delimited] at there
      obtain ⟨text, read, -⟩ := there
      obtain ⟨after, read, advances, enough⟩ := string_complete tagged low inside read
      refine ⟨after, ?_, advances, enough, ran⟩
      exact fieldParser_eq_some.mpr ⟨positive, .inr (.inr (.inl ⟨wireType.symm, text, read⟩))⟩
    | fixed32 four =>
      rw [← wireType, Payload.wireType, body_fixed32] at there
      obtain ⟨four, read, -⟩ := there
      obtain ⟨rfl, enough, -⟩ := raw_found inside low read
      refine ⟨ctx, ?_, advances_number tagged (by decide), enough, ran⟩
      exact fieldParser_eq_some.mpr ⟨positive, .inr (.inr (.inr (.inr ⟨wireType.symm, rfl, rfl⟩)))⟩

theorem wireFormatParser_eq_some {inner : ParseContext} :
    wireFormatParser (fuel + 1) ctx ptr = some (p, inner) ↔
      ctx.doneWithCheck ptr = some (true, inner) ∧ ptr = p ∨
      ∃ here, ctx.doneWithCheck ptr = some (false, here) ∧ ∃ used tag,
        readTag (here.pointer ptr) = some (used, tag) ∧
        (endsGroup tag ∧ ptr + used = p ∧ here.setLastTag tag = inner ∨
          ¬ endsGroup tag ∧ ∃ next middle, here.fieldParser (wireFormatParser fuel) tag (ptr + used) =
              some (next, middle) ∧ wireFormatParser fuel middle next = some (p, inner)) := by
  rw [wireFormatParser]
  cases ctx.doneWithCheck ptr with
  | none => simp
  | some found =>
    obtain ⟨done, here⟩ := found
    cases done with
    | true => simp [and_comm]
    | false =>
      simp only [Option.bind_eq_bind, Option.bind_some, Bool.false_eq_true, if_false, Option.bind_eq_some_iff,
        Prod.exists, Option.some.injEq, Prod.mk.injEq, true_and, exists_eq_left', false_and, false_or]
      refine exists_congr fun used => exists_congr fun tag => and_congr_right fun _ => ?_
      split
      · rename_i ends
        simp [ends]
      · rename_i goes
        simp [goes, Option.bind_eq_some_iff]

theorem afterTag_readTag {here : ParseContext} (ready : Ready ctx ptr) (moves : Moves ctx here)
    (inside : ptr < here.bufferEnd) (read : readTag (here.pointer ptr) = some (used, tag)) :
    AfterTag here (ptr + used) := by
  have few := readTag_used read
  obtain ⟨chunk, kept, rfl⟩ := moves
  exact ⟨fun still => ready.chunk (kept still), by omega, ready.going⟩

theorem advances_tag {here : ParseContext} (moves : Moves ctx here) (inside : ptr < here.bufferEnd)
    (read : readTag (here.pointer ptr) = some (used, tag)) : Advances ctx here ptr (ptr + used) := by
  have few := readTag_used read
  refine ⟨moves, ?_, Nat.le_add_right _ _⟩
  unfold kSlopBytes
  omega

theorem wireFormatParser_sound (fuel : Nat) : GroupSound schema (wireFormatParser fuel) := by
  induction fuel with
  | zero => exact fun _ parsed => (by cases parsed)
  | succ fuel ih =>
    intro ctx ptr p inner number ready parsed positive closed
    have done := done_doneWithCheck ready
    obtain ⟨ended, rfl⟩ | ⟨here, goes, used, tag, read, rest⟩ := wireFormatParser_eq_some.mp parsed
    · -- neither the limit nor the end of the stream is an end tag
      rw [ended] at done
      cases done with
      | atLimit =>
        rw [ready.going] at closed
        exact absurd closed (by simp)
      | endOfStream =>
        have last : (1 : UInt32).toNat = 8 * number + 3 := closed
        simp only [UInt32.reduceToNat] at last
        omega
    rw [goes] at done
    obtain ⟨moves, below, inside⟩ := done
    have tagged := afterTag_readTag ready moves inside read
    have advances := advances_tag moves inside read
    obtain ⟨ends, rfl, rfl⟩ | ⟨goes, next, middle, field, rest⟩ := rest
    · have ending : tag.toNat = 8 * number + 4 := end_tag.mp closed
      obtain ⟨chunk, kept, rfl⟩ := moves
      refine ⟨⟨_, advances, ?_⟩, fun level stop enough inside => ?_⟩
      · rw [setLastTag, ParseContext.mk.injEq]
        exact ⟨rfl, rfl, rfl, ready.going.symm, rfl⟩
      · have there : Protobuf.tagged tag (slice ctx.flat (ptr + used) stop) = some (0, .endGroup number) := by
          rw [tagged_eq (by omega), show tag.toNat % 8 = 4 by omega, show tag.toNat / 8 = number by omega, body]
        rw [run_tagged read inside enough there, step, if_pos rfl, Option.bind_some]
        rfl
    · obtain ⟨advances', passed⟩ := fieldParser_sound ih read tagged field
      have ready := tagged.ready advances'
      obtain ⟨⟨after, advances'', same⟩, runs⟩ := ih ready rest positive closed
      refine ⟨⟨after, advances.trans (advances'.trans advances''), same⟩, fun {_ _ _ groups _} level => ?_⟩
      obtain ⟨chunk, kept, rfl⟩ := moves
      have forward := advances''.forward
      refine Runs.trans (passed (.inl (List.cons_ne_nil number groups)) ?_) ?_ forward
      · rw [level, List.length_cons, Nat.add_assoc]
      · obtain ⟨⟨chunk, kept, rfl⟩, -⟩ := advances'
        exact runs level

theorem wireFormatParser_complete (fuel : Nat) : GroupComplete schema fuel (wireFormatParser fuel) := by
  induction fuel with
  | zero => exact fun _ low _ enough => absurd enough (by omega)
  | succ fuel ih =>
    intro ctx ptr name sub depth groups number msg msg' ready low inside fuelled level ran
    have below : ptr < ctx.limit := by
      refine lt_of_le_of_ne low fun reached => ?_
      rw [reached, slice_self, run_nil] at ran
      cases ran
    obtain ⟨here, goes, moves, room⟩ := doneWithCheck_more ready below inside
    obtain ⟨used, tag, count, t, next, read, high, there, stepped, ran⟩ := run_found inside below ran
    have positive := (readTag_used read).1
    have found : readTag (here.pointer ptr) = some (used, tag) := by
      obtain ⟨chunk, kept, rfl⟩ := moves
      exact read
    have tagged := afterTag_readTag ready moves room found
    have advances := advances_tag moves room found
    by_cases ends : endsGroup tag
    · obtain ⟨wireType, rfl, rfl⟩ := tagged_ends ends there
      obtain ⟨same, stepped⟩ := Option.ite_none_right_eq_some.mp stepped
      obtain rfl := Option.some.inj stepped
      refine ⟨ptr + used, here, tag - 1, ?_, advances, end_tag.mpr (by omega), high, ran⟩
      exact wireFormatParser_eq_some.mpr (.inr ⟨here, goes, used, tag, found, .inl ⟨ends, rfl, rfl⟩⟩)
    · have notEnd : tag.toNat % 8 ≠ 4 := fun wireType => ends (endsGroup_iff.mpr (.inr wireType))
      obtain ⟨chunk, kept, rfl⟩ := moves
      obtain ⟨p, middle, field, advances', high', ran⟩ :=
        fieldParser_complete ih (.inl (List.cons_ne_nil number groups)) notEnd tagged high inside
          (by dsimp only; omega) (level.trans (Nat.add_assoc _ _ _)) there stepped ran
      have ready := tagged.ready advances'
      have forward := advances'.forward
      have whole := advances.trans advances'
      obtain ⟨⟨chunk', kept', rfl⟩, -⟩ := advances'
      obtain ⟨q, after, last, parsed, advances'', closed, past, ran⟩ :=
        ih ready high' inside (by dsimp only; omega) level ran
      refine ⟨q, after, last, ?_, whole.trans advances'', closed, past, ran⟩
      exact wireFormatParser_eq_some.mpr
        (.inr ⟨_, goes, used, tag, found, .inr ⟨ends, p, _, field, parsed⟩⟩)

/-! ### Messages -/

theorem internalParse_eq_some {msg msg' : schema.Carrier name} :
    schema.internalParse (fuel + 1) name ctx ptr msg = some (p, after, msg') ↔
      ctx.doneWithCheck ptr = some (true, after) ∧ ptr = p ∧ msg = msg' ∨
      ∃ here, ctx.doneWithCheck ptr = some (false, here) ∧ ∃ used tag,
        readTag (here.pointer ptr) = some (used, tag) ∧
        ((∃ field, schema.dispatch name tag = some field ∧ ∃ next middle changed,
            parseField (schema.internalParse fuel) fuel field here (ptr + used) msg =
              some (next, middle, changed) ∧
            schema.internalParse fuel name middle next changed = some (p, after, msg')) ∨
          schema.dispatch name tag = none ∧
            (endsGroup tag ∧ ptr + used = p ∧ here.setLastTag tag = after ∧ msg = msg' ∨
              ¬ endsGroup tag ∧ ∃ next middle, here.fieldParser (wireFormatParser fuel) tag (ptr + used) =
                some (next, middle) ∧
              schema.internalParse fuel name middle next msg = some (p, after, msg'))) := by
  simp only [internalParse]
  cases ctx.doneWithCheck ptr with
  | none => simp
  | some found =>
    obtain ⟨done, here⟩ := found
    cases done with
    | true => simp [and_left_comm]
    | false =>
      simp only [Option.bind_eq_bind, Option.bind_some, Bool.false_eq_true, if_false, Option.bind_eq_some_iff,
        Prod.exists, Option.some.injEq, Prod.mk.injEq, true_and, exists_eq_left', false_and, false_or]
      refine exists_congr fun used => exists_congr fun tag => and_congr_right fun _ => ?_
      cases schema.dispatch name tag with
      | some field => simp [Option.bind_eq_some_iff]
      | none =>
        dsimp only
        split
        · rename_i ends
          simp [ends]
        · rename_i goes
          simp [goes, Option.bind_eq_some_iff]

theorem internalParse_sound (fuel : Nat) : Sound (schema.internalParse fuel) := by
  induction fuel with
  | zero => exact fun _ parsed => (by cases parsed)
  | succ fuel ih =>
    intro name ctx ptr msg p after msg' ready parsed ended
    have done := done_doneWithCheck ready
    obtain ⟨stopped, rfl, rfl⟩ | ⟨here, goes, used, tag, read, rest⟩ := internalParse_eq_some.mp parsed
    · rw [stopped] at done
      cases done with
      | atLimit reached inside =>
        refine ⟨⟨.refl ctx, ready.near, le_refl ptr⟩, reached, inside, ?_⟩
        rw [slice_self, decode_nil]
      | endOfStream => exact absurd (show (1 : UInt32) = 0 from ended) (by decide)
    rw [goes] at done
    obtain ⟨moves, below, inside⟩ := done
    have tagged := afterTag_readTag ready moves inside read
    have advances := advances_tag moves inside read
    -- what comes after one field
    have later {next middle} {changed : schema.Carrier name}
        (advances' : Advances here middle (ptr + used) next)
        (runs : Runs (nested here.depth) here.depth name here.flat ptr next ([], msg) ([], changed))
        (rest : schema.internalParse fuel name middle next changed = some (p, after, msg')) :
        Advances ctx after ptr p ∧ p = ctx.limit ∧ p ≤ ctx.flat.length ∧
          decode ctx.depth name msg (slice ctx.flat ptr p) = some msg' := by
      obtain ⟨advances'', reached, fits, decoded⟩ := ih (tagged.ready advances') rest ended
      have whole := advances.trans (advances'.trans advances'')
      have forward := advances''.forward
      obtain ⟨⟨chunk, kept, rfl⟩, -⟩ := advances'
      obtain ⟨chunk, kept, rfl⟩ := moves
      refine ⟨whole, reached, fits, ?_⟩
      rw [decode_eq_some_iff, runs p forward fits]
      exact decode_eq_some_iff.mp decoded
    obtain ⟨field, known, next, middle, changed, one, rest⟩ |
      ⟨unknown, ⟨ends, rfl, rfl, rfl⟩ | ⟨-, next, middle, one, rest⟩⟩ := rest
    · obtain ⟨advances', runs⟩ := case_sound ih known read tagged one
      exact later advances' runs rest
    · -- an end tag is not the end of a message
      exact absurd ended (setLastTag_going ends)
    · obtain ⟨advances', runs⟩ := fieldParser_sound (wireFormatParser_sound fuel) read tagged one
      exact later advances' (runs (.inr unknown) rfl) rest

theorem internalParse_complete (fuel : Nat) : Complete fuel (schema.internalParse fuel) := by
  induction fuel with
  | zero => exact fun _ low _ enough => absurd enough (by omega)
  | succ fuel ih =>
    intro name ctx ptr msg msg' ready low inside fuelled decoded
    obtain reached | below := low.eq_or_lt
    · rw [reached, slice_self, decode_nil] at decoded
      obtain rfl := Option.some.inj decoded
      refine ⟨ctx, internalParse_eq_some.mpr (.inl ⟨doneWithCheck_atLimit ready reached inside, reached, rfl⟩),
        .refl ctx, ?_, low⟩
      rw [← reached]
      exact ready.near
    have ran := decode_eq_some_iff.mp decoded
    obtain ⟨here, goes, moves, room⟩ := doneWithCheck_more ready below inside
    obtain ⟨used, tag, count, t, next, read, high, there, stepped, ran⟩ := run_found inside below ran
    have positive := (readTag_used read).1
    obtain ⟨chunk, kept, rfl⟩ := moves
    have tagged := afterTag_readTag ready ⟨chunk, kept, rfl⟩ room read
    have advances : Advances ctx _ ptr (ptr + used) := advances_tag ⟨chunk, kept, rfl⟩ room read
    have later {p middle} {changed : schema.Carrier name}
        (advances' : Advances { ctx with nextChunk := chunk } middle (ptr + used) p) (high' : p ≤ ctx.limit)
        (ran : run (nested ctx.depth) ctx.depth name ([], changed) (slice ctx.flat p ctx.limit) =
          some ([], msg')) :
        ∃ after, schema.internalParse fuel name middle p changed = some (ctx.limit, after, msg') ∧
          Advances ctx after ptr ctx.limit := by
      have forward := advances'.forward
      have ready' := tagged.ready advances'
      have whole := advances.trans advances'
      obtain ⟨⟨chunk', kept', rfl⟩, -⟩ := advances'
      obtain ⟨after, parsed, rest⟩ := ih ready' high' inside (by dsimp only; omega) (decode_eq_some_iff.mpr ran)
      exact ⟨after, parsed, whole.trans rest⟩
    cases known : schema.dispatch name tag with
    | some field =>
      obtain ⟨p, middle, changed, one, advances', high', ran⟩ :=
        case_complete ih known tagged rfl high inside (by dsimp only; omega) there stepped ran
      obtain ⟨after, parsed, whole⟩ := later advances' high' ran
      exact ⟨after, internalParse_eq_some.mpr
        (.inr ⟨_, goes, used, tag, read, .inl ⟨field, known, p, middle, changed, one, parsed⟩⟩), whole⟩
    | none =>
      have goesOn : ¬ endsGroup tag := by
        intro ends
        obtain ⟨-, -, rfl⟩ := tagged_ends ends there
        cases stepped
      have notEnd : tag.toNat % 8 ≠ 4 := fun wireType => goesOn (endsGroup_iff.mpr (.inr wireType))
      obtain ⟨p, middle, one, advances', high', ran⟩ :=
        fieldParser_complete (wireFormatParser_complete fuel) (.inr known) notEnd tagged high inside
          (by dsimp only; omega) rfl there stepped ran
      obtain ⟨after, parsed, whole⟩ := later advances' high' ran
      exact ⟨after, internalParse_eq_some.mpr
        (.inr ⟨_, goes, used, tag, read, .inr ⟨known, .inr ⟨goesOn, p, middle, one, parsed⟩⟩⟩), whole⟩

/-- The parser accepts exactly the arrays that decode, with the same message. -/
theorem mergeFrom_eq_decode {flat : List UInt8} {fuel : Nat} (enough : flat.length < fuel)
    (name : schema.Name) (msg : schema.Carrier name) :
    mergeFrom fuel name flat msg = decode defaultRecursionLimit name msg flat := by
  have ready : Ready (.initFrom defaultRecursionLimit flat) 0 :=
    ⟨fun chunk => of_decide_eq_true chunk, Nat.zero_le _, rfl⟩
  have all : slice flat 0 flat.length = flat := by rw [slice, List.take_length, List.drop_zero]
  apply Option.ext
  intro msg'
  rw [mergeFrom, Option.bind_eq_bind, Option.bind_eq_some_iff]
  constructor
  · rintro ⟨⟨p, after, msg⟩, parsed, kept⟩
    obtain ⟨ended, same⟩ := Option.ite_none_right_eq_some.mp kept
    obtain rfl := Option.some.inj same
    obtain ⟨-, reached, -, decoded⟩ := internalParse_sound fuel ready parsed (of_decide_eq_true ended)
    rw [reached] at decoded
    exact all ▸ decoded
  · intro decoded
    obtain ⟨after, parsed, advances⟩ := internalParse_complete fuel ready (Nat.zero_le _) (le_refl flat.length)
      (show flat.length < 0 + fuel by omega) (all.symm ▸ decoded)
    obtain ⟨⟨chunk, -, rfl⟩, -⟩ := advances
    exact ⟨_, parsed, rfl⟩

theorem parseFromArray_eq_decode (name : schema.Name) (flat : List UInt8) :
    schema.parseFromArray name flat = decode defaultRecursionLimit name (schema.empty name) flat :=
  mergeFrom_eq_decode (Nat.lt_succ_self _) name _

end Schema
end Protobuf
