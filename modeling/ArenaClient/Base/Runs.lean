import ArenaClient.Base.ParseContextProofs

/-! Runs over pieces of an array: what one tag and the field after it do to the
message, in the terms of the parser that read them. -/
namespace Protobuf

/-! ### Tags -/

theorem tag_number (tag : UInt32) : (tag >>> 3).toNat = tag.toNat / 8 := by
  rw [UInt32.toNat_shiftRight, Nat.shiftRight_eq_div_pow]
  rfl

theorem tag_wireType (tag : UInt32) : (tag &&& 7).toNat = tag.toNat % 8 := by
  rw [UInt32.toNat_and]
  exact Nat.and_two_pow_sub_one_eq_mod tag.toNat 3

theorem tag_number_eq_zero {tag : UInt32} : tag >>> 3 = 0 ↔ tag.toNat / 8 = 0 := by
  rw [← tag_number, ← UInt32.toNat_inj]
  rfl

theorem start_tag (tag : UInt32) (start : tag.toNat % 8 = 3) : (tag >>> 3) * 8 + 3 = tag := by
  have size := tag.toNat_lt
  apply UInt32.toNat_inj.mp
  rw [UInt32.toNat_add, UInt32.toNat_mul, tag_number]
  simp only [UInt32.reduceToNat]
  omega

theorem end_tag {tag : UInt32} : (tag - 1).toNat = 8 * number + 3 ↔ tag.toNat = 8 * number + 4 := by
  have size := tag.toNat_lt
  rw [UInt32.toNat_sub]
  simp only [UInt32.reduceToNat]
  omega

theorem endsGroup_iff {tag : UInt32} : endsGroup tag ↔ tag = 0 ∨ tag.toNat % 8 = 4 := by
  rw [← tag_wireType, endsGroup, Bool.or_eq_true, decide_eq_true_eq, decide_eq_true_eq,
    ← UInt32.toNat_inj (b := 4)]
  rfl

/-- A tag that ends a group is not the limit. -/
theorem setLastTag_going {tag : UInt32} (ends : endsGroup tag) : tag - 1 ≠ 0 := by
  intro going
  obtain rfl | wireType := endsGroup_iff.mp ends
  · exact absurd going (by decide)
  · have last := congrArg UInt32.toNat going
    rw [UInt32.toNat_sub] at last
    simp only [UInt32.reduceToNat] at last
    omega

/-- There is no field 0 to end, either. -/
theorem tagged_ends {tag : UInt32} (ends : endsGroup tag) (there : tagged tag bytes = some (count, t)) :
    tag.toNat % 8 = 4 ∧ count = 0 ∧ t = .endGroup (tag.toNat / 8) := by
  have zero : tag ≠ 0 := by
    rintro rfl
    cases there
  have wireType := (endsGroup_iff.mp ends).resolve_left zero
  obtain ⟨_, there⟩ := Option.ite_none_left_eq_some.mp there
  rw [wireType] at there
  obtain ⟨rfl, rfl⟩ := Prod.mk.inj (Option.some.inj there)
  exact ⟨wireType, rfl, rfl⟩

theorem tagged_eq {tag : UInt32} (positive : 0 < tag.toNat / 8) (bytes : List UInt8) :
    tagged tag bytes = body (tag.toNat / 8) (tag.toNat % 8) bytes :=
  if_neg positive.ne'

/-! ### What a parser reads -/

/-- Whatever comes later, the bytes from `ptr` to `p` are the value. -/
def Reads (flat : List UInt8) (plain : List UInt8 → Option (Nat × α)) (ptr p : Nat) (value : α) : Prop :=
  ∀ stop, p ≤ stop → stop ≤ flat.length → plain (slice flat ptr stop) = some (p - ptr, value)

theorem Reads.map {flat : List UInt8} {plain : List UInt8 → Option (Nat × α)}
    (reads : Reads flat plain ptr p value) (f : α → β) :
    Reads flat (fun bytes => (plain bytes).map (Prod.map id f)) ptr p (f value) := by
  intro stop enough inside
  dsimp only
  rw [reads stop enough inside]
  rfl

namespace Schema
variable {schema : Schema} {name : schema.Name} {sub : schema.Reader} {depth : Nat} {tag : UInt32}

theorem find_number {field : FieldCase schema.Carrier (schema.Carrier name)}
    (found : schema.find name number = some field) : field.number = number :=
  of_decide_eq_true (List.find?_some (p := fun field : FieldCase _ _ => decide (field.number = number)) found)

/-- The comparison of the tag is one of the wire type. -/
theorem dispatch_eq_some {field : FieldCase schema.Carrier (schema.Carrier name)} :
    schema.dispatch name tag = some field ↔
      schema.find name (tag.toNat / 8) = some field ∧ tag.toNat % 8 = field.kind.wireType := by
  rw [dispatch, Option.filter_eq_some_iff, tag_number, decide_eq_true_eq]
  refine and_congr_right fun found => ?_
  have number := find_number found
  obtain ⟨positive, small, whole⟩ := field.tagged
  rw [← UInt8.toNat_inj, UInt32.toNat_toUInt8, whole, number]
  omega

/-- A field of a known message with the tag it is written with. -/
theorem dispatch_tag {field : FieldCase schema.Carrier (schema.Carrier name)}
    (found : schema.dispatch name tag = some field) :
    0 < tag.toNat / 8 ∧ tag.toNat = field.tag.toNat ∧ tag.toNat < 128 := by
  obtain ⟨found, wireType⟩ := dispatch_eq_some.mp found
  have number := find_number found
  obtain ⟨positive, small, whole⟩ := field.tagged
  omega

theorem applyField_other {M : Type} {kind : FieldKind schema.Carrier M} {payload : Payload}
    (other : payload.wireType ≠ kind.wireType) (msg : M) : applyField sub kind msg payload = some msg := by
  cases kind <;> cases payload <;> first | rfl | exact absurd rfl other

/-- Fields inside a group, and fields the message does not know, are passed over. -/
def Passes (name : schema.Name) (groups : List Nat) (tag : UInt32) : Prop :=
  groups ≠ [] ∨ schema.dispatch name tag = none

theorem step_passes (passes : Passes name groups tag) {payload : Payload}
    (wireType : payload.wireType = tag.toNat % 8) (msg : schema.Carrier name) :
    step sub depth name (groups, msg) (.field (tag.toNat / 8) payload) = some (groups, msg) := by
  cases groups with
  | cons group groups => rfl
  | nil =>
    rw [step]
    split
    · rename_i field found
      rw [applyField_other, Option.map_some]
      intro same
      have known := dispatch_eq_some.mpr ⟨found, wireType.symm.trans same⟩
      rw [passes.resolve_left (fun nonempty => nonempty rfl)] at known
      cases known
    · rfl

/-! ### One field of a run -/

variable {ctx after : ParseContext} {start ptr p stop : Nat} {state : List Nat × schema.Carrier name}

theorem run_tagged (read : readTag (ctx.pointer start) = some (used, tag)) (inside : stop ≤ ctx.flat.length)
    (enough : start + used ≤ stop) (there : tagged tag (slice ctx.flat (start + used) stop) = some (count, t)) :
    run sub depth name state (slice ctx.flat start stop) =
      (step sub depth name state t).bind fun next =>
        run sub depth name next (slice ctx.flat (start + used + count) stop) := by
  have first := (readTag_agrees (ParseContext.pointer_slice inside)).inside inside read enough
  have whole : token (slice ctx.flat start stop) = some (used + count, t) := by
    rw [token, first, Option.bind_some]
    dsimp only
    rw [slice_drop, there]
    rfl
  rw [run_token whole, slice_drop, Nat.add_assoc]

/-- From `start` to `p`, the bytes take one state to another. -/
def Runs (sub : schema.Reader) (depth : Nat) (name : schema.Name) (flat : List UInt8)
    (start p : Nat) (state next : List Nat × schema.Carrier name) : Prop :=
  ∀ stop, p ≤ stop → stop ≤ flat.length →
    run sub depth name state (slice flat start stop) = run sub depth name next (slice flat p stop)

theorem Runs.trans {flat : List UInt8} {middle next : List Nat × schema.Carrier name}
    (first : Runs sub depth name flat start ptr state middle)
    (second : Runs sub depth name flat ptr p middle next) (forward : ptr ≤ p) :
    Runs sub depth name flat start p state next := by
  intro stop enough inside
  rw [first stop (forward.trans enough) inside, second stop enough inside]

/-- One field of a known kind. -/
theorem runs_field {field : FieldCase schema.Carrier (schema.Carrier name)}
    (known : schema.dispatch name tag = some field) (read : readTag (ctx.pointer start) = some (used, tag))
    (forward : start + used ≤ p)
    (reads : Reads ctx.flat (body field.number field.kind.wireType) (start + used) p
      (.field field.number payload))
    (applied : applyField sub field.kind msg payload = some msg') :
    Runs sub depth name ctx.flat start p ([], msg) ([], msg') := by
  intro stop enough inside
  obtain ⟨found, wireType⟩ := dispatch_eq_some.mp known
  have there := reads stop enough inside
  rw [find_number found, ← wireType, ← tagged_eq (dispatch_tag known).1] at there
  rw [run_tagged read inside (by omega) there, step, found]
  simp only [applied, Option.map_some, Option.bind_some]
  rw [show start + used + (p - (start + used)) = p by omega]

theorem wireType_payload {M : Type} (kind : FieldKind schema.Carrier M) :
    kind.wireType ≠ 3 ∧ kind.wireType ≠ 4 := by
  cases kind <;> simp [FieldKind.wireType]

/-- What a step did with a known field. -/
theorem step_known {field : FieldCase schema.Carrier (schema.Carrier name)}
    (known : schema.dispatch name tag = some field) (there : tagged tag bytes = some (count, t))
    (stepped : step sub depth name ([], msg) t = some next) :
    ∃ payload msg', body field.number field.kind.wireType bytes = some (count, .field field.number payload) ∧
      applyField sub field.kind msg payload = some msg' ∧ next = ([], msg') := by
  obtain ⟨found, wireType⟩ := dispatch_eq_some.mp known
  rw [tagged_eq (dispatch_tag known).1, ← find_number found, wireType] at there
  obtain ⟨group, -⟩ | ⟨group, -⟩ | ⟨payload, rfl, -⟩ := body_cases there
  · exact absurd group (wireType_payload field.kind).1
  · exact absurd group (wireType_payload field.kind).2
  · rw [step, find_number found, found] at stepped
    obtain ⟨msg', applied, rfl⟩ := Option.map_eq_some_iff.mp stepped
    exact ⟨payload, msg', there, applied, rfl⟩

/-- A field that is passed over. -/
theorem runs_passes (payload : Payload) (positive : 0 < tag.toNat / 8) (passes : Passes name groups tag)
    (read : readTag (ctx.pointer start) = some (used, tag)) (forward : start + used ≤ p)
    (wireType : payload.wireType = tag.toNat % 8)
    (reads : Reads ctx.flat (body (tag.toNat / 8) (tag.toNat % 8)) (start + used) p
      (.field (tag.toNat / 8) payload)) (msg : schema.Carrier name) :
    Runs sub depth name ctx.flat start p (groups, msg) (groups, msg) := by
  intro stop enough inside
  have there := reads stop enough inside
  rw [← tagged_eq positive] at there
  rw [run_tagged read inside (by omega) there, step_passes passes wireType, Option.bind_some]
  rw [show start + used + (p - (start + used)) = p by omega]

theorem run_found (inside : stop ≤ ctx.flat.length) (below : start < stop)
    (ran : run sub depth name state (slice ctx.flat start stop) = some final) :
    ∃ used tag count t next, readTag (ctx.pointer start) = some (used, tag) ∧ start + used ≤ stop ∧
      tagged tag (slice ctx.flat (start + used) stop) = some (count, t) ∧
      step sub depth name state t = some next ∧
      run sub depth name next (slice ctx.flat (start + used + count) stop) = some final := by
  cases whole : token (slice ctx.flat start stop) with
  | none =>
    rw [run_none (slice_ne_nil inside below) whole] at ran
    cases ran
  | some found =>
    obtain ⟨count, t⟩ := found
    have next := ran
    rw [run_token whole, slice_drop] at next
    obtain ⟨⟨used, tag⟩, first, whole⟩ := Option.bind_eq_some_iff.mp whole
    obtain ⟨⟨later, t⟩, there, same⟩ := Option.map_eq_some_iff.mp whole
    obtain ⟨rfl, rfl⟩ := Prod.mk.inj same
    obtain ⟨read, enough⟩ :=
      (readTag_agrees (ParseContext.pointer_slice inside)).found inside below.le first
    obtain ⟨next, stepped, ran⟩ := Option.bind_eq_some_iff.mp next
    rw [slice_drop] at there
    refine ⟨used, tag, later, t, next, read, enough, there, stepped, ?_⟩
    rw [Nat.add_assoc]
    exact ran

end Schema

namespace ParseContext
variable {ctx after : ParseContext} {ptr p : Nat}

theorem chars_reads (ctx : ParseContext) (ptr count : Nat) :
    Reads ctx.flat (raw count) ptr (ptr + count) (ctx.chars ptr count) := by
  intro stop enough inside
  rw [raw_slice inside enough, chars_eq (by omega), Nat.add_sub_cancel_left]

theorem varint_reads (read : varintParse64 (ctx.pointer ptr) = some (used, value)) :
    Reads ctx.flat varintDigits ptr (ptr + used) value := by
  intro stop enough inside
  rw [(varintParse64_agrees (pointer_slice inside)).inside inside read enough, Nat.add_sub_cancel_left]

/-- A number takes ten bytes, at most. -/
theorem advances_number (tagged : AfterTag ctx ptr) (few : used ≤ 10) : Advances ctx ctx ptr (ptr + used) := by
  have near := tagged.near
  refine ⟨.refl ctx, ?_, Nat.le_add_right _ _⟩
  unfold kSlopBytes
  omega

end ParseContext
end Protobuf
