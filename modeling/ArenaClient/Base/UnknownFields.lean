import ArenaClient.Base.Serialize

/-! Bytes a message type has no meaning for: they can stand between the fields
of a message, and change nothing. -/
namespace Protobuf.Schema
variable {schema : Schema} {name : schema.Name} {sub : schema.Reader} {depth : Nat}

/-- The open groups after a token, where it says nothing to the message. -/
def skip (name : schema.Name) (depth : Nat) : List Nat → Token → Option (List Nat)
  | groups, .startGroup number => if groups.length < depth then some (number :: groups) else none
  | [], .endGroup _ => none
  | group :: groups, .endGroup number => if group = number then some groups else none
  | [], .field number _ => if (schema.find name number).isNone then some [] else none
  | group :: groups, .field _ _ => some (group :: groups)

/-- Fields without a case, and whole groups. -/
def unknownFields (name : schema.Name) (depth : Nat) (bytes : List UInt8) : Bool :=
  (lex bytes).bind (List.foldlM (skip name depth) []) = some []

@[simp] theorem unknownFields_nil : unknownFields name depth [] = true := by
  rw [unknownFields, lex_nil]
  rfl

theorem step_skip (skipped : skip name depth groups t = some next) (msg : schema.Carrier name) :
    step sub depth name (groups, msg) t = some (next, msg) := by
  cases t with
  | startGroup number =>
    obtain ⟨room, same⟩ := Option.ite_none_right_eq_some.mp (show (if _ then _ else _) = _ from skipped)
    obtain rfl := Option.some.inj same
    exact if_pos room
  | endGroup number =>
    cases groups with
    | nil => cases skipped
    | cons group groups =>
      obtain ⟨closed, same⟩ := Option.ite_none_right_eq_some.mp skipped
      obtain rfl := Option.some.inj same
      exact if_pos closed
  | field number payload =>
    cases groups with
    | nil =>
      obtain ⟨unknown, same⟩ := Option.ite_none_right_eq_some.mp skipped
      obtain rfl := Option.some.inj same
      rw [step, Option.isNone_iff_eq_none.mp unknown]
    | cons group groups =>
      obtain rfl := Option.some.inj skipped
      rfl

theorem steps_skip (tokens : List Token) (skipped : tokens.foldlM (skip name depth) groups = some next)
    (msg : schema.Carrier name) : tokens.foldlM (step sub depth name) (groups, msg) = some (next, msg) := by
  induction tokens generalizing groups with
  | nil =>
    obtain rfl := Option.some.inj skipped
    rfl
  | cons t tokens ih =>
    rw [List.foldlM_cons] at skipped
    obtain ⟨middle, first, later⟩ := Option.bind_eq_some_iff.mp skipped
    rw [List.foldlM_cons, step_skip first]
    exact ih later

theorem decode_unknownFields (unknown : unknownFields name depth bytes) (msg : schema.Carrier name) :
    decode depth name msg bytes = some msg := by
  obtain ⟨tokens, read, skipped⟩ := Option.bind_eq_some_iff.mp (of_decide_eq_true unknown)
  refine decode_eq_some_iff.mpr (Option.bind_eq_some_iff.mpr ⟨tokens, read, ?_⟩)
  exact steps_skip tokens skipped msg

/-! ### Mixtures -/

/-- A message that is sent, or bytes that mean nothing here. -/
inductive Piece (schema : Schema) (name : schema.Name) where
  | message (msg : schema.Carrier name)
  | unknown (bytes : List UInt8)

namespace Piece
variable (levels depth : Nat)

def bytes : Piece schema name → List UInt8
  | message msg => internalSerialize levels name msg
  | unknown bytes => bytes

/-- The piece can be read: its strings are UTF-8, or there is nothing to read. -/
def Readable : Piece schema name → Prop
  | message msg => validUtf8 levels name msg ∧ byteSizeLong levels name msg ≤ maxSize
  | unknown bytes => unknownFields name depth bytes

def merge : schema.Carrier name → Piece schema name → schema.Carrier name
  | this, message msg => mergeImpl levels name msg this
  | this, unknown _ => this

end Piece

/-- Messages one after the other are merged in order, whatever is between them. -/
theorem decode_pieces {levels : Nat} (deep : levels ≤ depth) (pieces : List (Piece schema name))
    (readable : ∀ piece ∈ pieces, piece.Readable levels depth) (this : schema.Carrier name) :
    decode depth name this (pieces.flatMap (Piece.bytes levels)) = some (pieces.foldl (Piece.merge levels) this) := by
  induction pieces generalizing this with
  | nil => exact decode_nil this
  | cons piece pieces ih =>
    obtain ⟨first, later⟩ := List.forall_mem_cons.mp readable
    rw [List.flatMap_cons, List.foldl_cons, ← ih later]
    cases piece with
    | message msg =>
      rw [Piece.bytes, decode_internalSerialize deep name msg this first.2, if_pos first.1]
      rfl
    | unknown bytes => exact decode_append (decode_unknownFields first this) _

end Protobuf.Schema
