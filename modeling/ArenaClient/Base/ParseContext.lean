import ArenaClient.Base.Schema

/-! The parser of `parse_context.h`, `parse_context.cc` and `unknown_field_set.cc`
over a flat array, with the loop that every generated `_InternalParse` is. It
checks a limit between two fields only: a field is read past it, into what
follows or into the slop after the array, before anyone looks. -/
namespace Protobuf

def kSlopBytes : Nat := 16

/-- `ParseContext`. Pointers and ends are offsets from the start of the array:
the limit of the source is relative to the end of the buffer, and moves with it
when the patch buffer takes the place of the array. `nextChunk` says that this
is still to come. -/
structure ParseContext where
  flat : List UInt8
  nextChunk : Bool
  limit : Nat
  lastTagMinus1 : UInt32
  depth : Nat

namespace ParseContext
variable (ctx : ParseContext)

/-- `InitFrom` a flat array. -/
def initFrom (depth : Nat) (flat : List UInt8) : ParseContext :=
  { flat, nextChunk := kSlopBytes < flat.length, limit := flat.length, lastTagMinus1 := 0, depth }

/-- The last bytes of a long array are only read from the patch buffer. -/
def bufferEnd : Nat := if ctx.nextChunk then ctx.flat.length - kSlopBytes else ctx.flat.length

def limitEnd : Nat := min ctx.bufferEnd ctx.limit

/-- The patch buffer is zero after the array. -/
def pointer (ptr : Nat) : Pointer := fun i => ctx.flat.getD (ptr + i) 0

def chars (ptr size : Nat) : List UInt8 := (List.range size).map (ctx.pointer ptr)

def endedAtLimit : Bool := ctx.lastTagMinus1 = 0

def setLastTag (tag : UInt32) : ParseContext := { ctx with lastTagMinus1 := tag - 1 }

def setEndOfStream : ParseContext := { ctx with lastTagMinus1 := 1 }

def dataAvailable (ptr : Nat) : Bool := ptr < ctx.limitEnd

/-- `NextBuffer`: the patch buffer, and nothing after it. -/
def nextBuffer : Option ParseContext :=
  if ctx.nextChunk then some { ctx with nextChunk := false } else none

/-- The end of the stream, where it ends between two fields. -/
def atEndOfStream (ptr : Nat) : Option (Bool × ParseContext) :=
  if ptr = ctx.bufferEnd then some (true, ctx.setEndOfStream) else none

/-- `DoneFallback`. The loop goes round twice where the patch buffer is used up
as well. -/
def doneFallback (ptr : Nat) : Option (Bool × ParseContext) :=
  if ctx.limit < ptr then none
  else match ctx.nextBuffer with
    | none => ctx.atEndOfStream ptr
    | some ctx => if ptr < ctx.bufferEnd then some (false, ctx) else ctx.atEndOfStream ptr

/-- `DoneWithCheck`: whether the parse is at its end, and nothing where it set
the pointer to null. -/
def doneWithCheck (ptr : Nat) : Option (Bool × ParseContext) :=
  if ptr < ctx.limitEnd then some (false, ctx)
  else if ptr = ctx.limit then
    if ctx.bufferEnd < ptr ∧ ¬ ctx.nextChunk then none else some (true, ctx)
  else ctx.doneFallback ptr

/-- `AppendSize`: what is left of the array, then as much of the patch buffer. -/
def readStringFallback (ptr size : Nat) : Option (List UInt8 × Nat × ParseContext) :=
  match ctx.nextBuffer with
  | none => none
  | some next =>
    if ctx.limit ≤ ctx.bufferEnd + kSlopBytes then none
    else if ptr + size ≤ next.bufferEnd + kSlopBytes then some (ctx.chars ptr size, ptr + size, next)
    else none

def readString (ptr size : Nat) : Option (List UInt8 × Nat × ParseContext) :=
  if ptr + size ≤ ctx.bufferEnd + kSlopBytes then some (ctx.chars ptr size, ptr + size, ctx)
  else ctx.readStringFallback ptr size

/-- `InlineGreedyStringParser`, and `ParseLengthDelimited` of an unknown field. -/
def inlineGreedyStringParser (ptr : Nat) : Option (List UInt8 × Nat × ParseContext) := do
  let (used, size) ← readSize (ctx.pointer ptr)
  ctx.readString (ptr + used) size

/-- `PopLimit`, given the limit that `PushLimit` replaced. -/
def popLimit (old : Nat) : Option ParseContext :=
  if ctx.endedAtLimit then some { ctx with limit := old } else none

/-- `ParseMessage`: the size, the limit and one level of depth around the message. -/
def parseMessage {M : Type} (parse : ParseContext → Nat → M → Option (Nat × ParseContext × M))
    (ptr : Nat) (msg : M) : Option (Nat × ParseContext × M) := do
  let (used, size) ← readSize (ctx.pointer ptr)
  let ptr := ptr + used
  if ctx.depth = 0 then none
  else do
    let (ptr, inner, msg) ← parse { ctx with limit := ptr + size, depth := ctx.depth - 1 } ptr msg
    let after ← { inner with depth := inner.depth + 1 }.popLimit ctx.limit
    return (ptr, after, msg)

/-- `ParseGroup`, with `ConsumeEndGroup`. -/
def parseGroup (parse : ParseContext → Nat → Option (Nat × ParseContext)) (startTag : UInt32) (ptr : Nat) :
    Option (Nat × ParseContext) :=
  if ctx.depth = 0 then none
  else do
    let (ptr, inner) ← parse { ctx with depth := ctx.depth - 1 } ptr
    let after := { inner with depth := inner.depth + 1, lastTagMinus1 := 0 }
    if inner.lastTagMinus1 = startTag then return (ptr, after) else none

/-- `FieldParser`, for the unknown fields; what it keeps of them is left out. -/
def fieldParser (group : ParseContext → Nat → Option (Nat × ParseContext)) (tag : UInt32) (ptr : Nat) :
    Option (Nat × ParseContext) :=
  let number := tag >>> 3
  if number = 0 then none
  else match (tag &&& 7).toNat with
    | 0 => do
      let (used, _) ← varintParse64 (ctx.pointer ptr)
      return (ptr + used, ctx)
    | 1 => some (ptr + 8, ctx)
    | 2 => do
      let (_, ptr, ctx) ← ctx.inlineGreedyStringParser ptr
      return (ptr, ctx)
    | 3 => ctx.parseGroup group (number * 8 + 3) ptr
    | 5 => some (ptr + 4, ctx)
    | _ => none

end ParseContext

/-- A zero tag or an end-group tag ends a message or a group. -/
def endsGroup (tag : UInt32) : Bool := tag = 0 || tag &&& 7 = 4

/-- `WireFormatParser`, inside a group. The fuel is only there for Lean: each
round reads a byte. -/
def wireFormatParser : Nat → ParseContext → Nat → Option (Nat × ParseContext)
  | 0, _, _ => none
  | fuel + 1, ctx, ptr => do
    let (done, ctx) ← ctx.doneWithCheck ptr
    if done then some (ptr, ctx)
    else do
      let (used, tag) ← readTag (ctx.pointer ptr)
      if endsGroup tag then some (ptr + used, ctx.setLastTag tag)
      else do
        let (ptr, ctx) ← ctx.fieldParser (wireFormatParser fuel) tag (ptr + used)
        wireFormatParser fuel ctx ptr

namespace Schema
variable {schema : Schema}

/-- The parsers of the nested messages. -/
abbrev Parser (schema : Schema) :=
  (name : schema.Name) → ParseContext → Nat → schema.Carrier name →
    Option (Nat × ParseContext × schema.Carrier name)

/-- `do { ptr += 1; ptr = ctx->ParseMessage(_internal_add(), ptr); if (!ctx->DataAvailable(ptr))
break; } while (ExpectTag<tag>(ptr))`: elements in a row do without the switch. -/
def parseRepeated {M E : Type} (parse : ParseContext → Nat → E → Option (Nat × ParseContext × E))
    (element : E) (add : M → E → M) (tag : UInt8) :
    Nat → ParseContext → Nat → M → Option (Nat × ParseContext × M)
  | 0, _, _, _ => none
  | fuel + 1, ctx, ptr, msg => do
    let (ptr, ctx, added) ← ctx.parseMessage parse ptr element
    if ctx.dataAvailable ptr ∧ ctx.pointer ptr 0 = tag then
      parseRepeated parse element add tag fuel ctx (ptr + 1) (add msg added)
    else some (ptr, ctx, add msg added)

/-- The code of a case, by what the field holds. -/
def parseField {M : Type} (parse : schema.Parser) (fuel : Nat) (field : FieldCase schema.Carrier M)
    (ctx : ParseContext) (ptr : Nat) (msg : M) : Option (Nat × ParseContext × M) :=
  match field.kind with
  | .bool slot => do
    let (used, value) ← varintParse64 (ctx.pointer ptr)
    return (ptr + used, ctx, slot.set msg (value != 0))
  | .uint64 slot => do
    let (used, value) ← varintParse64 (ctx.pointer ptr)
    return (ptr + used, ctx, slot.set msg value)
  | .uint32 slot => do
    let (used, value) ← varintParse32 (ctx.pointer ptr)
    return (ptr + used, ctx, slot.set msg value)
  | .int32 slot => do
    let (used, value) ← varintParse32 (ctx.pointer ptr)
    return (ptr + used, ctx, slot.set msg value.toInt32)
  | .enum slot => do
    let (used, value) ← varintParse64 (ctx.pointer ptr)
    return (ptr + used, ctx, slot.set msg value.toUInt32.toInt32)
  | .float slot => some (ptr + 4, ctx, slot.set msg (.ofNat (Bytes.value (ctx.chars ptr 4))))
  | .string slot => do
    let (text, ptr, ctx) ← ctx.inlineGreedyStringParser ptr
    if Utf8.isStructurallyValidUTF8 text then some (ptr, ctx, slot.set msg text) else none
  | .message name slot => do
    let (ptr, ctx, inner) ← ctx.parseMessage (parse name) ptr (mutable slot msg)
    return (ptr, ctx, slot.set msg (some inner))
  | .repeated name slot =>
    parseRepeated (parse name) (schema.empty name) (add slot) field.tag fuel ctx ptr msg

/-- `switch (tag >> 3)`, and the comparison of the whole tag in each case. -/
def dispatch (name : schema.Name) (tag : UInt32) : Option (FieldCase schema.Carrier (schema.Carrier name)) :=
  (schema.find name (tag >>> 3).toNat).filter fun field => tag.toUInt8 = field.tag

/-- `_InternalParse` of a message type. -/
def internalParse (schema : Schema) : Nat → schema.Parser
  | 0 => fun _ _ _ _ => none
  | fuel + 1 => fun name ctx ptr msg => do
    let (done, ctx) ← ctx.doneWithCheck ptr
    if done then some (ptr, ctx, msg)
    else do
      let (used, tag) ← readTag (ctx.pointer ptr)
      match schema.dispatch name tag with
      | some field => do
        let (ptr, ctx, msg) ← parseField (internalParse schema fuel) fuel field ctx (ptr + used) msg
        internalParse schema fuel name ctx ptr msg
      | none =>
        if endsGroup tag then some (ptr + used, ctx.setLastTag tag, msg)
        else do
          let (ptr, ctx) ← ctx.fieldParser (wireFormatParser fuel) tag (ptr + used)
          internalParse schema fuel name ctx ptr msg

/-- `CodedInputStream::GetDefaultRecursionLimit`. -/
def defaultRecursionLimit : Nat := 100

/-- `MergeFromImpl`: the message stands only where the parse ended at the limit. -/
def mergeFrom (fuel : Nat) (name : schema.Name) (flat : List UInt8) (msg : schema.Carrier name) :
    Option (schema.Carrier name) := do
  let (_, ctx, msg) ← schema.internalParse fuel name (.initFrom defaultRecursionLimit flat) 0 msg
  if ctx.endedAtLimit then some msg else none

/-- `ParseFromArray`, into a new message. -/
def parseFromArray (schema : Schema) (name : schema.Name) (flat : List UInt8) : Option (schema.Carrier name) :=
  mergeFrom (flat.length + 1) name flat (schema.empty name)

end Schema
end Protobuf
