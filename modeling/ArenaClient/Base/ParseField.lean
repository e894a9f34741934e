import ArenaClient.Base.Runs

/-! The cases of a generated `_InternalParse`, one by one: each reads the fields
that the format has there, and finds every one that ends before the limit. -/
namespace Protobuf

namespace Schema
open ParseContext
variable {schema : Schema} {name : schema.Name} {ctx after : ParseContext} {ptr p : Nat} {fuel : Nat}

/-- A parser of messages that stops at its limit has read a message up to there. -/
def Sound (parse : schema.Parser) : Prop :=
  ∀ {name ctx ptr msg p after msg'}, Ready ctx ptr → parse name ctx ptr msg = some (p, after, msg') →
    after.lastTagMinus1 = 0 →
      Advances ctx after ptr p ∧ p = ctx.limit ∧ p ≤ ctx.flat.length ∧
        decode ctx.depth name msg (slice ctx.flat ptr p) = some msg'

/-- It finds each message that ends at the limit. -/
def Complete (fuel : Nat) (parse : schema.Parser) : Prop :=
  ∀ {name ctx ptr msg msg'}, Ready ctx ptr → ptr ≤ ctx.limit → ctx.limit ≤ ctx.flat.length →
    ctx.limit < ptr + fuel → decode ctx.depth name msg (slice ctx.flat ptr ctx.limit) = some msg' →
      ∃ after, parse name ctx ptr msg = some (ctx.limit, after, msg') ∧ Advances ctx after ptr ctx.limit

theorem parseMessage_sound {parse : schema.Parser} (sound : Sound parse) (tagged : AfterTag ctx ptr)
    (parsed : ctx.parseMessage (parse name) ptr msg = some (p, after, msg')) :
    Advances ctx after ptr p ∧ ∃ bytes, Reads ctx.flat delimited ptr p bytes ∧
      nested ctx.depth name msg bytes = some msg' := by
  obtain ⟨used, size, inner, sized, deep, found, ended, rfl⟩ := parseMessage_eq_some.mp parsed
  have few := readSize_used sized
  have near := tagged.near
  have ready : Ready { ctx with limit := ptr + used + size, depth := ctx.depth - 1 } (ptr + used) := by
    refine ⟨tagged.chunk, ?_, tagged.going⟩
    simp only [kSlopBytes, bufferEnd] at near ⊢
    omega
  obtain ⟨⟨⟨chunk, kept, rfl⟩, near, forward⟩, reached, -, decoded⟩ := sound ready found ended
  dsimp only at reached
  subst reached
  refine ⟨⟨⟨chunk, kept, ?_⟩, near, by omega⟩,
    slice ctx.flat (ptr + used) (ptr + used + size), ?_, ?_⟩
  · simp only [ParseContext.mk.injEq, true_and]
    omega
  · intro stop enough inside
    rw [delimited_slice inside sized enough, Nat.add_assoc, Nat.add_sub_cancel_left]
  · exact nested_eq_some.mpr ⟨deep, decoded⟩

theorem parseMessage_complete {parse : schema.Parser} (complete : Complete fuel parse)
    (tagged : AfterTag ctx ptr) (low : ptr ≤ stop) (inside : stop ≤ ctx.flat.length)
    (fuelled : stop < ptr + fuel) (there : delimited (slice ctx.flat ptr stop) = some (used, bytes))
    (decoded : nested ctx.depth name msg bytes = some msg') :
    ∃ after, ctx.parseMessage (parse name) ptr msg = some (ptr + used, after, msg') ∧
      Advances ctx after ptr (ptr + used) ∧ ptr + used ≤ stop := by
  obtain ⟨first, size, sized, rfl, enough, rfl⟩ := delimited_found inside low there
  have few := readSize_used sized
  have near := tagged.near
  obtain ⟨deep, decoded⟩ := nested_eq_some.mp decoded
  have ready : Ready { ctx with limit := ptr + first + size, depth := ctx.depth - 1 } (ptr + first) := by
    refine ⟨tagged.chunk, ?_, tagged.going⟩
    simp only [kSlopBytes, bufferEnd] at near ⊢
    omega
  rw [← Nat.add_assoc] at enough decoded ⊢
  obtain ⟨_, parsed, ⟨⟨chunk, kept, rfl⟩, near, forward⟩⟩ :=
    complete ready (show ptr + first ≤ ptr + first + size by omega)
      (show ptr + first + size ≤ ctx.flat.length by omega)
      (show ptr + first + size < ptr + first + fuel by omega) decoded
  refine ⟨{ ctx with nextChunk := chunk }, ?_, ⟨⟨chunk, kept, rfl⟩, near, by omega⟩, enough⟩
  refine parseMessage_eq_some.mpr ⟨first, size, _, sized, deep, parsed, ready.going, ?_⟩
  simp only [ParseContext.mk.injEq, true_and]
  omega

/-! ### The cases of a message -/

section Cases
variable {M : Type} {field : FieldCase schema.Carrier M} {msg msg' : M} {parse : schema.Parser}

/-- The case of a number sets what the format says. -/
theorem parseField_number (wireType : field.kind.wireType = 0) (sub : schema.Reader) :
    parseField parse fuel field ctx ptr msg = some (p, after, msg') ↔
      ∃ used value, varintParse64 (ctx.pointer ptr) = some (used, value) ∧ ptr + used = p ∧ ctx = after ∧
        applyField sub field.kind msg (.varint value) = some msg' := by
  obtain ⟨number, byte, kind, tagged⟩ := field
  cases kind with
  | bool | uint64 | enum => simp [parseField, applyField, Option.bind_eq_some_iff]
  | uint32 | int32 => simp [parseField, applyField, varintParse32_eq_64, Option.bind_eq_some_iff]
  | float | string | message | «repeated» => cases wireType

theorem parseField_float (wireType : field.kind.wireType = 5) (sub : schema.Reader) :
    parseField parse fuel field ctx ptr msg = some (p, after, msg') ↔ ptr + 4 = p ∧ ctx = after ∧
      applyField sub field.kind msg (.fixed32 (ctx.chars ptr 4)) = some msg' := by
  obtain ⟨number, byte, kind, tagged⟩ := field
  cases kind with
  | float => simp [parseField, applyField]
  | bool | uint64 | uint32 | int32 | enum | string | message | «repeated» => cases wireType

theorem parseField_string {slot : Slot M (List UInt8)} (string : field.kind = .string slot) (sub : schema.Reader) :
    parseField parse fuel field ctx ptr msg = some (p, after, msg') ↔
      ∃ text, ctx.inlineGreedyStringParser ptr = some (text, p, after) ∧
        applyField sub field.kind msg (.delimited text) = some msg' := by
  obtain ⟨number, byte, kind, tagged⟩ := field
  dsimp only at string
  subst string
  simp [parseField, applyField, Option.bind_eq_some_iff]

theorem parseField_message {slot : Slot M (Option (schema.Carrier name))}
    (message : field.kind = .message name slot) :
    parseField parse fuel field ctx ptr msg = some (p, after, msg') ↔
      ∃ inner, ctx.parseMessage (parse name) ptr (mutable slot msg) = some (p, after, inner) ∧
        slot.set msg (some inner) = msg' := by
  obtain ⟨number, byte, kind, tagged⟩ := field
  dsimp only at message
  subst message
  simp [parseField, Option.bind_eq_some_iff]

/-- A field that is not repeated holds one payload. -/
theorem parseField_sound (sound : Sound parse) (tagged : AfterTag ctx ptr)
    (single : ∀ name slot, field.kind ≠ .repeated name slot)
    (parsed : parseField parse fuel field ctx ptr msg = some (p, after, msg')) (number : Nat) :
    Advances ctx after ptr p ∧
      ∃ payload, Reads ctx.flat (body number field.kind.wireType) ptr p (.field number payload) ∧
        applyField (nested ctx.depth) field.kind msg payload = some msg' := by
  cases kind : field.kind with
  | bool | uint64 | uint32 | int32 | enum =>
    have wireType : field.kind.wireType = 0 := by rw [kind]; rfl
    obtain ⟨used, value, read, rfl, rfl, applied⟩ := (parseField_number wireType (nested ctx.depth)).mp parsed
    rw [kind] at applied
    exact ⟨advances_number tagged (varintParse64_used read).2, _, (varint_reads read).map _, applied⟩
  | float =>
    have wireType : field.kind.wireType = 5 := by rw [kind]; rfl
    obtain ⟨rfl, rfl, applied⟩ := (parseField_float wireType (nested ctx.depth)).mp parsed
    rw [kind] at applied
    exact ⟨advances_number tagged (by decide), _, (chars_reads ctx ptr 4).map _, applied⟩
  | string =>
    obtain ⟨text, read, applied⟩ := (parseField_string kind (nested ctx.depth)).mp parsed
    obtain ⟨advances, reads⟩ := string_sound tagged read
    rw [kind] at applied
    exact ⟨advances, _, Reads.map reads _, applied⟩
  | message inner =>
    obtain ⟨value, found, rfl⟩ := (parseField_message kind).mp parsed
    obtain ⟨advances, bytes, reads, decoded⟩ := parseMessage_sound sound tagged found
    refine ⟨advances, _, Reads.map reads _, ?_⟩
    rw [applyField, decoded, Option.map_some]
  | «repeated» name slot => exact absurd kind (single name slot)

theorem parseField_complete (complete : Complete fuel parse) (tagged : AfterTag ctx ptr)
    (single : ∀ name slot, field.kind ≠ .repeated name slot)
    (low : ptr ≤ stop) (inside : stop ≤ ctx.flat.length) (fuelled : stop < ptr + fuel)
    (there : body number field.kind.wireType (slice ctx.flat ptr stop) = some (used, .field number payload))
    (applied : applyField (nested ctx.depth) field.kind msg payload = some msg') :
    ∃ after, parseField parse fuel field ctx ptr msg = some (ptr + used, after, msg') ∧
      Advances ctx after ptr (ptr + used) ∧ ptr + used ≤ stop := by
  cases kind : field.kind with
  | bool | uint64 | uint32 | int32 | enum =>
    have wireType : field.kind.wireType = 0 := by rw [kind]; rfl
    rw [wireType, body_varint] at there
    obtain ⟨value, read, same⟩ := there
    obtain ⟨-, rfl⟩ := Token.field.inj same
    obtain ⟨read, enough⟩ := (varintParse64_agrees (pointer_slice inside)).found inside low read
    exact ⟨ctx, (parseField_number wireType _).mpr ⟨used, value, read, rfl, rfl, applied⟩,
      advances_number tagged (varintParse64_used read).2, enough⟩
  | float =>
    have wireType : field.kind.wireType = 5 := by rw [kind]; rfl
    rw [wireType, body_fixed32] at there
    obtain ⟨bytes, read, same⟩ := there
    obtain ⟨-, rfl⟩ := Token.field.inj same
    obtain ⟨rfl, enough, rfl⟩ := raw_found inside low read
    rw [← chars_eq (by omega)] at applied
    exact ⟨ctx, (parseField_float wireType _).mpr ⟨rfl, rfl, applied⟩,
      advances_number tagged (by decide), enough⟩
  | string =>
    rw [kind, FieldKind.wireType, body_delimited] at there
    obtain ⟨text, read, same⟩ := there
    obtain ⟨-, rfl⟩ := Token.field.inj same
    obtain ⟨after, read, advances, enough⟩ := string_complete tagged low inside read
    exact ⟨after, (parseField_string kind _).mpr ⟨text, read, applied⟩, advances, enough⟩
  | message inner =>
    rw [kind, FieldKind.wireType, body_delimited] at there
    obtain ⟨bytes, read, same⟩ := there
    obtain ⟨-, rfl⟩ := Token.field.inj same
    rw [kind, applyField] at applied
    obtain ⟨value, decoded, rfl⟩ := Option.map_eq_some_iff.mp applied
    obtain ⟨after, found, advances, enough⟩ :=
      parseMessage_complete complete tagged low inside fuelled read decoded
    exact ⟨after, (parseField_message kind).mpr ⟨value, found, rfl⟩, advances, enough⟩
  | «repeated» name slot => exact absurd kind (single name slot)

end Cases

/-! ### Elements in a row -/

section Repeated
variable {M E : Type} {parse : ParseContext → Nat → E → Option (Nat × ParseContext × E)} {element : E}
  {add : M → E → M}

theorem parseRepeated_eq_some {byte : UInt8} {msg msg' : M} :
    parseRepeated parse element add byte (fuel + 1) ctx ptr msg = some (p, after, msg') ↔
      ∃ next middle added, ctx.parseMessage parse ptr element = some (next, middle, added) ∧
        ((middle.dataAvailable next ∧ middle.pointer next 0 = byte ∧
            parseRepeated parse element add byte fuel middle (next + 1) (add msg added) =
              some (p, after, msg')) ∨
          ((middle.dataAvailable next → middle.pointer next 0 ≠ byte) ∧ next = p ∧ middle = after ∧
            add msg added = msg')) := by
  rw [parseRepeated, Option.bind_eq_bind, Option.bind_eq_some_iff]
  simp only [Prod.exists]
  refine exists_congr fun next => exists_congr fun middle => exists_congr fun added =>
    and_congr_right fun _ => ?_
  split
  · rename_i again
    simp [again]
  · rename_i last
    have last : middle.dataAvailable next → middle.pointer next 0 ≠ byte :=
      fun there same => last ⟨there, same⟩
    simp only [Option.some.injEq, Prod.mk.injEq]
    constructor
    · exact fun same => .inr ⟨last, same⟩
    · rintro (⟨there, same, -⟩ | ⟨-, same⟩)
      · exact absurd same (last there)
      · exact same

end Repeated

/-- A tag of one byte. -/
theorem readTag_byte {pointer : Pointer} {byte : UInt8} (points : pointer 0 = byte) (small : tag.toNat < 128)
    (same : tag.toNat = byte.toNat) : readTag pointer = some (1, tag) := by
  rw [readTag, points, if_pos (UInt8.lt_iff_toNat_lt.mpr (same ▸ small)), ← same]
  simp

theorem readTag_inj {pointer : Pointer} (read : readTag pointer = some (used, tag))
    (again : readTag pointer = some (used', tag')) : used = used' ∧ tag = tag' :=
  Prod.mk.inj (Option.some.inj (read.symm.trans again))

section Elements
variable {parse : schema.Parser} {inner : schema.Name} {field : FieldCase schema.Carrier (schema.Carrier name)}
  {slot : Slot (schema.Carrier name) (List (schema.Carrier inner))}

/-- After an element in a row, its tag again. -/
theorem again_ready (known : schema.dispatch name tag = some field) (available : ctx.dataAvailable ptr)
    (same : ctx.pointer ptr 0 = field.tag) (ready : Ready ctx ptr) :
    readTag (ctx.pointer ptr) = some (1, tag) ∧ AfterTag ctx (ptr + 1) := by
  obtain ⟨-, byte, small⟩ := dispatch_tag known
  refine ⟨readTag_byte same small byte, ready.chunk, ?_, ready.going⟩
  have below : ptr < ctx.limitEnd := of_decide_eq_true available
  unfold limitEnd at below
  omega

theorem parseRepeated_sound (sound : Sound parse) (known : schema.dispatch name tag = some field)
    (kind : field.kind = .repeated inner slot) (read : readTag (ctx.pointer start) = some (used, tag))
    (tagged : AfterTag ctx (start + used))
    (parsed : parseRepeated (parse inner) (schema.empty inner) (add slot) field.tag fuel ctx (start + used) msg =
      some (p, after, msg')) :
    Advances ctx after (start + used) p ∧
      Runs (nested ctx.depth) ctx.depth name ctx.flat start p ([], msg) ([], msg') := by
  induction fuel generalizing ctx start used msg with
  | zero => cases parsed
  | succ fuel ih =>
    obtain ⟨next, middle, added, element, rest⟩ := parseRepeated_eq_some.mp parsed
    obtain ⟨advances, bytes, reads, decoded⟩ := parseMessage_sound sound tagged element
    have applied : applyField (nested ctx.depth) field.kind msg (.delimited bytes) = some (add slot msg added) := by
      rw [kind, applyField, decoded, Option.map_some]
    have first : Runs (nested ctx.depth) ctx.depth name ctx.flat start next ([], msg) ([], add slot msg added) := by
      refine runs_field known read advances.forward ?_ applied
      rw [kind]
      exact Reads.map reads _
    obtain ⟨available, same, parsed⟩ | ⟨-, rfl, rfl, rfl⟩ := rest
    · obtain ⟨again, tagged⟩ := again_ready known available same (tagged.ready advances)
      obtain ⟨advances', runs⟩ := ih again tagged parsed
      obtain ⟨chunk, kept, rfl⟩ := advances.moves
      have forward := advances.forward
      have forward' := advances'.forward
      exact ⟨⟨advances.moves.trans advances'.moves, advances'.near, by omega⟩,
        first.trans runs (by omega)⟩
    · exact ⟨advances, first⟩

theorem parseRepeated_complete (complete : Complete most parse) (known : schema.dispatch name tag = some field)
    (kind : field.kind = .repeated inner slot) (tagged : AfterTag ctx ptr) (limit : ctx.limit = stop)
    (low : ptr ≤ stop) (inside : stop ≤ ctx.flat.length) (fuelled : stop < ptr + most)
    (enough : stop < ptr + fuel)
    (there : Protobuf.tagged tag (slice ctx.flat ptr stop) = some (count, t))
    (stepped : step (nested ctx.depth) ctx.depth name ([], msg) t = some state)
    (ran : run (nested ctx.depth) ctx.depth name state (slice ctx.flat (ptr + count) stop) = some final) :
    ∃ p after msg', parseRepeated (parse inner) (schema.empty inner) (add slot) field.tag fuel ctx ptr msg =
        some (p, after, msg') ∧ Advances ctx after ptr p ∧ p ≤ stop ∧
      run (nested ctx.depth) ctx.depth name ([], msg') (slice ctx.flat p stop) = some final := by
  induction fuel generalizing ctx ptr count t msg state with
  | zero => omega
  | succ fuel ih =>
    obtain ⟨payload, msg', there, applied, rfl⟩ := step_known known there stepped
    rw [kind, FieldKind.wireType, body_delimited] at there
    obtain ⟨bytes, read, same⟩ := there
    obtain ⟨-, rfl⟩ := Token.field.inj same
    rw [kind, applyField] at applied
    obtain ⟨added, decoded, rfl⟩ := Option.map_eq_some_iff.mp applied
    obtain ⟨middle, found, advances, near⟩ :=
      parseMessage_complete complete tagged low inside fuelled read decoded
    by_cases again : middle.dataAvailable (ptr + count) ∧ middle.pointer (ptr + count) 0 = field.tag
    · obtain ⟨read, tagged⟩ := again_ready known again.1 again.2 (tagged.ready advances)
      have below : ptr + count < middle.limitEnd := of_decide_eq_true again.1
      obtain ⟨⟨chunk, kept, rfl⟩, near, forward⟩ := advances
      unfold limitEnd at below
      dsimp only at below
      obtain ⟨used, tag', later, t, next, read', high, there, stepped, ran⟩ :=
        run_found inside (show ptr + count < stop by omega) ran
      obtain ⟨rfl, rfl⟩ := readTag_inj read read'
      obtain ⟨p, after, msg', parsed, advances, past, rest⟩ :=
        ih tagged limit high inside (by omega) (by omega) there stepped ran
      refine ⟨p, after, msg', ?_, ⟨.trans ⟨chunk, kept, rfl⟩ advances.moves, advances.near, ?_⟩, past, rest⟩
      · exact parseRepeated_eq_some.mpr ⟨_, _, added, found, .inl ⟨again.1, again.2, parsed⟩⟩
      · have forward' := advances.forward
        omega
    · refine ⟨ptr + count, middle, add slot msg added, ?_, advances, near, ran⟩
      exact parseRepeated_eq_some.mpr
        ⟨_, _, added, found, .inr ⟨fun there same => again ⟨there, same⟩, rfl, rfl, rfl⟩⟩

theorem case_sound (sound : Sound parse) (known : schema.dispatch name tag = some field)
    (read : readTag (ctx.pointer start) = some (used, tag)) (tagged : AfterTag ctx (start + used))
    (parsed : parseField parse fuel field ctx (start + used) msg = some (p, after, msg')) :
    Advances ctx after (start + used) p ∧
      Runs (nested ctx.depth) ctx.depth name ctx.flat start p ([], msg) ([], msg') := by
  by_cases single : ∀ inner slot, field.kind ≠ .repeated inner slot
  · obtain ⟨advances, payload, reads, applied⟩ := parseField_sound sound tagged single parsed field.number
    exact ⟨advances, runs_field known read advances.forward reads applied⟩
  · push Not at single
    obtain ⟨inner, slot, kind⟩ := single
    rw [parseField, kind] at parsed
    exact parseRepeated_sound sound known kind read tagged parsed

theorem case_complete (complete : Complete fuel parse) (known : schema.dispatch name tag = some field)
    (tagged : AfterTag ctx ptr) (limit : ctx.limit = stop) (low : ptr ≤ stop) (inside : stop ≤ ctx.flat.length)
    (fuelled : stop < ptr + fuel)
    (there : Protobuf.tagged tag (slice ctx.flat ptr stop) = some (count, t))
    (stepped : step (nested ctx.depth) ctx.depth name ([], msg) t = some state)
    (ran : run (nested ctx.depth) ctx.depth name state (slice ctx.flat (ptr + count) stop) = some final) :
    ∃ p after msg', parseField parse fuel field ctx ptr msg = some (p, after, msg') ∧
      Advances ctx after ptr p ∧ p ≤ stop ∧
      run (nested ctx.depth) ctx.depth name ([], msg') (slice ctx.flat p stop) = some final := by
  by_cases single : ∀ inner slot, field.kind ≠ .repeated inner slot
  · obtain ⟨payload, msg', there, applied, rfl⟩ := step_known known there stepped
    obtain ⟨after, parsed, advances, near⟩ :=
      parseField_complete complete tagged single low inside fuelled there applied
    exact ⟨_, after, msg', parsed, advances, near, ran⟩
  · push Not at single
    obtain ⟨inner, slot, kind⟩ := single
    rw [parseField, kind]
    exact parseRepeated_complete complete known kind tagged limit low inside fuelled fuelled there stepped ran

end Elements

end Schema
end Protobuf
