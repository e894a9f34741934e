import ArenaClient.Base.Utf8
import ArenaClient.Base.Varint

/-! The proto3 wire format in the abstract: bytes are a sequence of tokens, a
message what its fields, in order, make of the message that was there. Fields
without a meaning are passed over, and with them everything inside a group. -/
namespace Protobuf

/-- What a field carries, by its wire type. -/
inductive Payload where
  | varint (value : UInt64)
  | fixed64 (raw : List UInt8)
  | delimited (bytes : List UInt8)
  | fixed32 (raw : List UInt8)
  deriving DecidableEq, Repr

def Payload.wireType : Payload → Nat
  | varint _ => 0
  | fixed64 _ => 1
  | delimited _ => 2
  | fixed32 _ => 5

inductive Token where
  | field (number : Nat) (payload : Payload)
  | startGroup (number : Nat)
  | endGroup (number : Nat)
  deriving DecidableEq, Repr

/-! ### Tokens -/

/-- As many bytes, if they are there. -/
def raw (count : Nat) (bytes : List UInt8) : Option (Nat × List UInt8) :=
  if count ≤ bytes.length then some (count, bytes.take count) else none

/-- A length, and as many bytes. -/
def delimited (bytes : List UInt8) : Option (Nat × List UInt8) :=
  (sizeDigits bytes).bind fun (used, size) => (raw size (bytes.drop used)).map (Prod.map (used + ·) id)

/-- What follows a tag. -/
def body (number wireType : Nat) (bytes : List UInt8) : Option (Nat × Token) :=
  match wireType with
  | 0 => (varintDigits bytes).map (Prod.map id fun value => .field number (.varint value))
  | 1 => (raw 8 bytes).map (Prod.map id fun raw => .field number (.fixed64 raw))
  | 2 => (delimited bytes).map (Prod.map id fun bytes => .field number (.delimited bytes))
  | 3 => some (0, .startGroup number)
  | 4 => some (0, .endGroup number)
  | 5 => (raw 4 bytes).map (Prod.map id fun raw => .field number (.fixed32 raw))
  | _ => none

section Body
variable {number used : Nat} {bytes : List UInt8} {t : Token}

theorem body_varint : body number 0 bytes = some (used, t) ↔
    ∃ value, varintDigits bytes = some (used, value) ∧ .field number (.varint value) = t := by
  simp [body, Option.map_eq_some_iff]

theorem body_fixed64 : body number 1 bytes = some (used, t) ↔
    ∃ eight, raw 8 bytes = some (used, eight) ∧ .field number (.fixed64 eight) = t := by
  simp [body, Option.map_eq_some_iff]

theorem body_delimited : body number 2 bytes = some (used, t) ↔
    ∃ inner, delimited bytes = some (used, inner) ∧ .field number (.delimited inner) = t := by
  simp [body, Option.map_eq_some_iff]

theorem body_fixed32 : body number 5 bytes = some (used, t) ↔
    ∃ four, raw 4 bytes = some (used, four) ∧ .field number (.fixed32 four) = t := by
  simp [body, Option.map_eq_some_iff]

theorem body_cases (there : body number wireType bytes = some (used, t)) :
    (wireType = 3 ∧ used = 0 ∧ t = .startGroup number) ∨ (wireType = 4 ∧ used = 0 ∧ t = .endGroup number) ∨
      ∃ payload, t = .field number payload ∧ payload.wireType = wireType := by
  match wireType with
  | 0 =>
    obtain ⟨value, -, rfl⟩ := body_varint.mp there
    exact .inr (.inr ⟨_, rfl, rfl⟩)
  | 1 =>
    obtain ⟨eight, -, rfl⟩ := body_fixed64.mp there
    exact .inr (.inr ⟨_, rfl, rfl⟩)
  | 2 =>
    obtain ⟨inner, -, rfl⟩ := body_delimited.mp there
    exact .inr (.inr ⟨_, rfl, rfl⟩)
  | 3 =>
    obtain ⟨rfl, rfl⟩ := Prod.mk.inj (Option.some.inj there)
    exact .inl ⟨rfl, rfl, rfl⟩
  | 4 =>
    obtain ⟨rfl, rfl⟩ := Prod.mk.inj (Option.some.inj there)
    exact .inr (.inl ⟨rfl, rfl, rfl⟩)
  | 5 =>
    obtain ⟨four, -, rfl⟩ := body_fixed32.mp there
    exact .inr (.inr ⟨_, rfl, rfl⟩)
  | n + 6 => cases there

end Body

/-- There is no field 0. -/
def tagged (tag : UInt32) (bytes : List UInt8) : Option (Nat × Token) :=
  if tag.toNat / 8 = 0 then none else body (tag.toNat / 8) (tag.toNat % 8) bytes

/-- The first token, and the number of its bytes. -/
def token (bytes : List UInt8) : Option (Nat × Token) :=
  (tagDigits bytes).bind fun (used, tag) =>
    (tagged tag (bytes.drop used)).map (Prod.map (used + ·) id)

/-- A reader that reads no further than it says, and so the same before any rest. -/
structure ReadsFront (reader : List UInt8 → Option (Nat × α)) : Prop where
  inside : ∀ {bytes used value}, reader bytes = some (used, value) → used ≤ bytes.length
  append : ∀ {bytes r}, reader bytes = some r → ∀ more, reader (bytes ++ more) = some r

theorem digits_readsFront (count : Nat) : ReadsFront (digits count) where
  inside read := (digits_used read).2.2.1
  append read := digits_append read

theorem raw_readsFront (count : Nat) : ReadsFront (raw count) where
  inside read := by
    obtain ⟨enough, same⟩ := Option.ite_none_right_eq_some.mp read
    obtain ⟨rfl, -⟩ := Prod.mk.inj (Option.some.inj same)
    exact enough
  append read more := by
    obtain ⟨enough, same⟩ := Option.ite_none_right_eq_some.mp read
    rw [raw, if_pos (by rw [List.length_append]; omega), List.take_append_of_le_length enough, same]

namespace ReadsFront
variable {reader : List UInt8 → Option (Nat × α)}

theorem map (reads : ReadsFront reader) (f : α → β) :
    ReadsFront fun bytes => (reader bytes).map (Prod.map id f) where
  inside read := by
    obtain ⟨⟨used, value⟩, found, same⟩ := Option.map_eq_some_iff.mp read
    obtain ⟨rfl, -⟩ := Prod.mk.inj same
    exact reads.inside found
  append read more := by
    obtain ⟨found, inner, rfl⟩ := Option.map_eq_some_iff.mp read
    rw [reads.append inner more, Option.map_some]

theorem filter (reads : ReadsFront reader) (keep : Nat × α → Bool) :
    ReadsFront fun bytes => (reader bytes).filter keep where
  inside read := reads.inside (Option.filter_eq_some_iff.mp read).1
  append read more := by
    obtain ⟨read, kept⟩ := Option.filter_eq_some_iff.mp read
    rw [reads.append read more, Option.filter_some, if_pos kept]

/-- One reader after the other. -/
theorem bind (reads : ReadsFront reader) {next : α → List UInt8 → Option (Nat × β)}
    (later : ∀ value, ReadsFront (next value)) :
    ReadsFront fun bytes => (reader bytes).bind fun (used, value) =>
      (next value (bytes.drop used)).map (Prod.map (used + ·) id) where
  inside read := by
    obtain ⟨⟨used, value⟩, first, read⟩ := Option.bind_eq_some_iff.mp read
    obtain ⟨⟨more, result⟩, second, same⟩ := Option.map_eq_some_iff.mp read
    obtain ⟨rfl, rfl⟩ := Prod.mk.inj same
    have enough := reads.inside first
    have left := (later value).inside second
    rw [List.length_drop] at left
    show used + more ≤ _
    omega
  append read more := by
    obtain ⟨⟨used, value⟩, first, read⟩ := Option.bind_eq_some_iff.mp read
    obtain ⟨found, second, rfl⟩ := Option.map_eq_some_iff.mp read
    simp only [reads.append first more, Option.bind_some, List.drop_append_of_le_length (reads.inside first),
      (later value).append second more, Option.map_some]

end ReadsFront

theorem delimited_readsFront : ReadsFront delimited :=
  ((digits_readsFront 5).filter _).bind raw_readsFront

theorem body_readsFront (number wireType : Nat) : ReadsFront (body number wireType) := by
  have constant (t : Token) : ReadsFront fun _ => some (0, t) :=
    { inside := fun read => by
        obtain ⟨rfl, -⟩ := Prod.mk.inj (Option.some.inj read)
        exact Nat.zero_le _
      append := fun read _ => read }
  match wireType with
  | 0 => exact ((digits_readsFront 10).map _).map _
  | 1 => exact (raw_readsFront 8).map _
  | 2 => exact delimited_readsFront.map _
  | 3 => exact constant _
  | 4 => exact constant _
  | 5 => exact (raw_readsFront 4).map _
  | n + 6 => exact ⟨fun read => (by cases read), fun read _ => (by cases read)⟩

theorem tagged_readsFront (tag : UInt32) : ReadsFront (tagged tag) := by
  unfold tagged
  split
  · exact ⟨fun read => (by cases read), fun read _ => (by cases read)⟩
  · exact body_readsFront _ _

theorem token_readsFront : ReadsFront token :=
  ((digits_readsFront 5).map UInt32.ofNat).bind tagged_readsFront

theorem token_used (read : token bytes = some (used, t)) : 0 < used ∧ used ≤ bytes.length := by
  refine ⟨?_, token_readsFront.inside read⟩
  obtain ⟨⟨first, tag⟩, front, read⟩ := Option.bind_eq_some_iff.mp read
  obtain ⟨⟨later, _⟩, -, same⟩ := Option.map_eq_some_iff.mp read
  obtain ⟨⟨_, _⟩, digits, front⟩ := Option.map_eq_some_iff.mp front
  obtain ⟨rfl, -⟩ := Prod.mk.inj front
  obtain ⟨rfl, -⟩ := Prod.mk.inj same
  exact Nat.add_pos_left (digits_used digits).1 _

/-! ### Sequences of tokens -/

/-- All of the bytes, as tokens. -/
def lex (bytes : List UInt8) : Option (List Token) :=
  if bytes = [] then some []
  else match _read : token bytes with
    | none => none
    | some (used, t) => (lex (bytes.drop used)).map (t :: ·)
  termination_by bytes.length
  decreasing_by
    obtain ⟨positive, inside⟩ := token_used _read
    rw [List.length_drop]
    omega

@[simp] theorem lex_nil : lex [] = some [] := by
  rw [lex, if_pos rfl]

theorem lex_cons (read : token bytes = some (used, t)) :
    lex bytes = (lex (bytes.drop used)).map (t :: ·) := by
  have nonempty : bytes ≠ [] := by
    rintro rfl
    obtain ⟨positive, inside⟩ := token_used read
    exact absurd (positive.trans_le inside) (Nat.lt_irrefl 0)
  rw [lex, if_neg nonempty]
  split
  · rename_i stuck
    rw [stuck] at read
    cases read
  · rename_i found
    rw [found] at read
    obtain ⟨rfl, rfl⟩ := Prod.mk.inj (Option.some.inj read)
    rfl

theorem lex_none (nonempty : bytes ≠ []) (stuck : token bytes = none) : lex bytes = none := by
  rw [lex, if_neg nonempty]
  split
  · rfl
  · rename_i found
    rw [found] at stuck
    cases stuck

theorem lex_append (read : lex bytes = some tokens) (more : List UInt8) :
    lex (bytes ++ more) = (lex more).map (tokens ++ ·) := by
  induction size : bytes.length using Nat.strongRecOn generalizing bytes tokens with
  | ind _ ih =>
    by_cases empty : bytes = []
    · subst empty
      rw [lex_nil] at read
      obtain rfl := Option.some.inj read
      simp
    · cases first : token bytes with
      | none =>
        rw [lex_none empty first] at read
        cases read
      | some found =>
        obtain ⟨used, t⟩ := found
        obtain ⟨positive, inside⟩ := token_used first
        rw [lex_cons first] at read
        obtain ⟨rest, later, rfl⟩ := Option.map_eq_some_iff.mp read
        have tail := ih _ (by rw [List.length_drop, ← size]; omega) later rfl
        rw [lex_cons (token_readsFront.append first more), List.drop_append_of_le_length inside, tail,
          Option.map_map]
        rfl

end Protobuf
