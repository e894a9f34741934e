import ArenaClient.Base.ParseFromArray
import ArenaClient.Base.WellFormed
import ArenaClient.Network.GeneratedMessages

/-! The generated classes as a wire format: what is accepted, what comes back of a
message that is written, and what is passed over. No two of the message types are
nested deeper than five levels. -/
namespace ArenaClient.Generated
open Protobuf

/-- `_InternalParse` below `MessageLite::ParseFromArray`. -/
def parseFromArray (type : MessageType) (bytes : List UInt8) : Option (Carrier type) :=
  Schema.parseFromArray protocol type bytes

/-- The meaning of bytes for a message that is there already. -/
def decode (type : MessageType) (this : Carrier type) (bytes : List UInt8) : Option (Carrier type) :=
  @Schema.decode protocol Schema.defaultRecursionLimit type this bytes

def byteSizeLong (type : MessageType) (msg : Carrier type) : Nat := @Schema.byteSizeLong protocol 5 type msg

def internalSerialize (type : MessageType) (msg : Carrier type) : List UInt8 :=
  @Schema.internalSerialize protocol 5 type msg

/-- `MergeImpl(this, source)`. -/
def mergeImpl (type : MessageType) (this source : Carrier type) : Carrier type :=
  @Schema.mergeImpl protocol 5 type source this

def validUtf8 (type : MessageType) (msg : Carrier type) : Bool := @Schema.validUtf8 protocol 5 type msg

/-- Fields that the type has no case for, and whole groups. -/
def unknownFields (type : MessageType) (bytes : List UInt8) : Bool :=
  @Schema.unknownFields protocol type Schema.defaultRecursionLimit bytes

/-! ### The shape of the types -/

/-- How deep the messages of a type are nested. -/
def height : MessageType → Nat
  | .roomPlayerInfo | .moveInfo | .matchPlayerState | .matchStateInfo => 1
  | .roomInfo | .playerInfo | .matchResult => 2
  | .matchPlayerInfo => 3
  | .matchInfo => 4
  | .server _ | .client _ => 5

theorem height_le (type : MessageType) : height type ≤ 5 := by
  cases type <;> simp [height]

theorem nested_below (type : MessageType) : ∀ field ∈ cases type, ∀ inner, field.kind.inner = some inner →
    height inner < height type := by
  have below : ∀ field ∈ cases type, field.kind.inner.all fun inner => height inner < height type := by
    cases type with
    | server type => cases type <;> decide
    | client type => cases type <;> decide
    | _ => decide
  intro field member inner there
  have one := below field member
  rw [there] at one
  exact of_decide_eq_true one

section Covers

attribute [local simp] RoomPlayerInfo.cases RoomInfo.cases MoveInfo.cases PlayerInfo.cases
  MatchPlayerInfo.cases MatchInfo.cases MatchPlayerState.cases MatchStateInfo.cases MatchResult.cases
  CLogin.cases SLogin.cases CRegister.cases SRegister.cases SRoomList.cases CCreateRoom.cases
  SCreateRoom.cases CEnterRoom.cases SEnterRoom.cases SLeaveRoom.cases CChangePlayerType.cases
  CChangeTeam.cases CReady.cases SRoomState.cases SMatchPrepare.cases SMatchStart.cases
  SMatchState.cases SPlayerState.cases SPlayerRespawn.cases CMove.cases SMove.cases CFire.cases
  SFire.cases CHit.cases SPlayerDespawn.cases SMatchEnd.cases SReturnToRoom.cases CChat.cases
  SChat.cases

/-- Copying each field of a message copies the message. -/
theorem cases_cover (type : MessageType) (source : Carrier type) :
    @Schema.Covers protocol _ source (cases type) (empty type) := by
  cases type with
  | server type =>
    cases type <;> simp [cases, empty, Schema.Covers, Schema.copyField, Schema.Unset]
    all_goals trivial
  | client type =>
    cases type <;> simp [cases, empty, Schema.Covers, Schema.copyField, Schema.Unset]
    all_goals trivial
  | roomPlayerInfo | moveInfo | matchPlayerState | matchStateInfo =>
    simp [cases, empty, Schema.Covers, Schema.copyField, Schema.Unset]
  | _ =>
    simp [cases, empty, Schema.Covers, Schema.copyField, Schema.Unset]
    trivial

end Covers

theorem clear (type : MessageType) : @Schema.WellFormed protocol type (empty type) := by
  have values : ∀ field ∈ cases type, ∀ levels, @Schema.valueUtf8 protocol _ (@Schema.validUtf8 protocol levels)
      field.kind (field.kind.slot.get (empty type)) = true := by
    cases type
    all_goals try (rename_i type; cases type)
    all_goals repeat' first
      | exact fun _ => rfl
      | exact List.forall_mem_nil _
      | refine List.forall_mem_cons.mpr ⟨?_, ?_⟩
  exact Schema.wellFormed_iff.mpr values

theorem independent : protocol.Independent := by
  intro type
  change (cases type).Pairwise fun first second => first.kind.slot.Apart second.kind.slot
  cases type
  all_goals try (rename_i type; cases type)
  -- One goal for each pair of fields of a type, and both sides of it set both fields.
  all_goals repeat' first
    | exact fun _ _ _ => rfl
    | exact List.forall_mem_nil _
    | refine List.forall_mem_cons.mpr ⟨?_, ?_⟩
    | exact List.Pairwise.nil
    | refine List.Pairwise.cons ?_ ?_

theorem layered : protocol.Layered height where
  positive type := by cases type <;> simp [height]
  below := nested_below
  covers := cases_cover

/-! ### What is accepted -/

/-- The parser on the buffer accepts what the wire format gives a meaning, and
returns that meaning. -/
theorem parseFromArray_eq (type : MessageType) (bytes : List UInt8) :
    parseFromArray type bytes = decode type (empty type) bytes :=
  @Schema.parseFromArray_eq_decode protocol type bytes

/-- The two ways to order the fields of a message, as long as those of one number
stay in order. -/
theorem parse_fieldOrder {type : MessageType} {first second : List (Nat × Payload)}
    (readsFirst : Schema.ReadsFields bytes first) (readsSecond : Schema.ReadsFields bytes' second)
    (same : ∀ number, first.filter (·.1 = number) = second.filter (·.1 = number)) :
    parseFromArray type bytes = parseFromArray type bytes' := by
  have meaning : decode type (empty type) bytes = decode type (empty type) bytes' :=
    Schema.decode_fieldOrder independent readsFirst readsSecond same (empty type)
  exact (@Schema.parseFromArray_eq_decode protocol type bytes).trans
    (meaning.trans (@Schema.parseFromArray_eq_decode protocol type bytes').symm)

/-- A chat line with its text in front. -/
theorem parse_chat_fieldOrder :
    parseFromArray (.server .chat) [8, 7, 18, 2, 0x68, 0x69] =
      parseFromArray (.server .chat) [18, 2, 0x68, 0x69, 8, 7] := by
  refine @parse_fieldOrder _ _ _ [(1, .varint 7), (2, .delimited [0x68, 0x69])]
    [(2, .delimited [0x68, 0x69]), (1, .varint 7)] ?_ ?_ fun number => ?_
  · decide +kernel
  · decide +kernel
  · by_cases one : 1 = number
    · subst one
      rfl
    · simp [List.filter, one]

/-! ### What is written -/

theorem length_serialize_eq (type : MessageType) (msg : Carrier type) :
    (internalSerialize type msg).length = byteSizeLong type msg :=
  @Schema.length_internalSerialize protocol 5 type msg

/-- A message comes back as it was, unless it holds text that is not UTF-8. Fields
that a later version of the protocol has put behind it are passed over. -/
theorem decode_newer (type : MessageType) (msg : Carrier type) (fits : byteSizeLong type msg ≤ maxSize)
    (unknown : unknownFields type newer) :
    decode type (empty type) (internalSerialize type msg ++ newer) =
      if validUtf8 type msg then some msg else none :=
  Schema.decode_serialized layered (height_le type) (show 5 ≤ 100 by decide) msg fits unknown

theorem decode_serialize (type : MessageType) (msg : Carrier type) (fits : byteSizeLong type msg ≤ maxSize) :
    decode type (empty type) (internalSerialize type msg) = if validUtf8 type msg then some msg else none := by
  have nothing : unknownFields type [] := Schema.unknownFields_nil
  have whole := decode_newer type msg fits nothing
  rwa [List.append_nil] at whole

/-- Any number of messages one after the other, with fields of later versions
between them, are merged in order. -/
theorem parse_pieces {type : MessageType} (pieces : List (Schema.Piece protocol type))
    (readable : ∀ piece ∈ pieces, piece.Readable 5 Schema.defaultRecursionLimit) :
    parseFromArray type (pieces.flatMap (Schema.Piece.bytes 5)) =
      some (pieces.foldl (Schema.Piece.merge 5) (empty type)) := by
  have merged : decode type (empty type) (pieces.flatMap (Schema.Piece.bytes 5)) = _ :=
    Schema.decode_pieces (by decide) pieces readable (empty type)
  exact (@Schema.parseFromArray_eq_decode protocol type _).trans merged

/-- A room list in two parts, with a field in front of the second that has no case. -/
theorem parse_two_room_lists :
    parseFromArray (.server .roomList) [10, 2, 8, 1, 0x78, 5, 10, 2, 8, 2] =
      some ({ rooms := [{ roomId := 1 }, { roomId := 2 }] } : SRoomList) := by
  let pieces : List (Schema.Piece protocol (.server .roomList)) :=
    [.message ({ rooms := [{ roomId := 1 }] } : SRoomList), .unknown [0x78, 5],
      .message ({ rooms := [{ roomId := 2 }] } : SRoomList)]
  have bytes : pieces.flatMap (Schema.Piece.bytes 5) = [10, 2, 8, 1, 0x78, 5, 10, 2, 8, 2] := by decide +kernel
  have skipped : unknownFields (.server .roomList) [0x78, 5] := by decide +kernel
  have merged := @parse_pieces (.server .roomList) pieces (List.forall_mem_cons.mpr
    ⟨⟨by decide +kernel, by decide +kernel⟩, List.forall_mem_cons.mpr
      ⟨skipped, List.forall_mem_singleton.mpr ⟨by decide +kernel, by decide +kernel⟩⟩⟩)
  rwa [bytes] at merged

/-- Parsing takes back what serializing wrote, whatever a later version of the
protocol puts behind it. Only text that is not UTF-8 is lost, and the message with it. -/
theorem parse_serialize (type : MessageType) (msg : Carrier type) (fits : byteSizeLong type msg ≤ maxSize)
    (unknown : unknownFields type newer) :
    parseFromArray type (internalSerialize type msg ++ newer) =
      if validUtf8 type msg then some msg else none :=
  (@Schema.parseFromArray_eq_decode protocol type _).trans (decode_newer type msg fits unknown)

/-- A score that `S_MATCH_STATE` does not have yet. -/
theorem parse_newer_matchState :
    let msg : SMatchState := { matchState := some { matchId := 3, redScore := 2 } }
    parseFromArray (.server .matchState) (internalSerialize (.server .matchState) msg ++ [0x78, 5]) = some msg :=
  parse_serialize (.server .matchState) _ (by decide +kernel) (by decide +kernel)

/-- Nothing is accepted that cannot be written and read again, with the unknown
fields behind it that the class has kept. -/
theorem reserialize_accepted {type : MessageType} {msg : Carrier type} (parsed : parseFromArray type bytes = some msg) :
    (∀ levels, @Schema.validUtf8 protocol levels type msg) ∧ (byteSizeLong type msg ≤ maxSize →
      ∀ kept, unknownFields type kept → parseFromArray type (internalSerialize type msg ++ kept) = some msg) := by
  have decoded := (@Schema.parseFromArray_eq_decode protocol type bytes).symm.trans parsed
  have wellFormed : @Schema.WellFormed protocol type msg :=
    Schema.decode_keeps clear independent _ _ _ _ _ decoded (clear type)
  refine ⟨wellFormed, fun fits kept unknown => ?_⟩
  have back := decode_newer type msg fits unknown
  rw [validUtf8, if_pos (wellFormed 5)] at back
  exact (@Schema.parseFromArray_eq_decode protocol type _).trans back

/-- The flag has ten bytes, the account id comes twice, and there is a field
that the class keeps as it is. -/
theorem reserialize_login :
    let bytes := [8, 0x81, 0x80, 0x80, 0x80, 0x80, 0x80, 0x80, 0x80, 0x80, 0, 0x78, 5, 32, 7, 32, 9]
    ∃ msg, parseFromArray (.server .login) bytes = some msg ∧
      (∀ levels, @Schema.validUtf8 protocol levels (.server .login) msg) ∧
      parseFromArray (.server .login) (internalSerialize (.server .login) msg ++ [0x78, 5]) = some msg := by
  intro bytes
  have parsed : parseFromArray (.server .login) bytes = some ({ success := true, accountId := 9 } : SLogin) := by
    decide +kernel
  have accepted := reserialize_accepted parsed
  exact ⟨_, parsed, accepted.1, accepted.2 (by decide +kernel) _ (by decide +kernel)⟩

end ArenaClient.Generated
