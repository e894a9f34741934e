import ArenaClient.Base.Protobuf
import ArenaClient.Game.ServerMessages

/-! The generated messages of `Protocol.pb.cc` that the modeled requests send:
their fields, `ByteSizeLong` and `_InternalSerialize`. Strings are UTF-8 bytes. -/
namespace ArenaClient.Protocol
open Protobuf

structure CRegister where
  loginId : List UInt8
  password : List UInt8
  nickname : List UInt8
  deriving DecidableEq, Repr

structure CLogin where
  loginId : List UInt8
  password : List UInt8
  deriving DecidableEq, Repr

structure CCreateRoom where
  roomName : List UInt8
  maxPlayerCount : UInt32
  deriving DecidableEq, Repr

structure CChat where
  msg : List UInt8
  deriving DecidableEq, Repr

structure CLeaveRoom where
  deriving DecidableEq, Repr

structure CMatchPrepare where
  deriving DecidableEq, Repr

structure CRoomList where
  deriving DecidableEq, Repr

structure CStartMatch where
  deriving DecidableEq, Repr

structure CReturnToRoom where
  deriving DecidableEq, Repr

structure CEnterRoom where
  roomId : UInt64
  deriving DecidableEq, Repr

structure CChangeTeam where
  team : Team := .none
  deriving DecidableEq, Repr

structure CReady where
  ready : Bool
  deriving DecidableEq, Repr

structure CHit where
  targetObjectId : UInt64
  deriving DecidableEq, Repr

/-- The floats are kept as the bits that go on the wire. -/
structure CFire where
  objectId : UInt64
  spawnX : UInt32
  spawnY : UInt32
  spawnZ : UInt32
  directionX : UInt32
  directionY : UInt32
  directionZ : UInt32
  deriving DecidableEq, Repr

/-- The client always fills `move_info` in. -/
structure CMove where
  moveInfo : MoveInfo
  deriving DecidableEq, Repr

def Team.number : Team → Int32
  | .none => 0
  | .red => 1
  | .blue => 2
  | .unknown value => value

def MoveState.number : MoveState → Int32
  | .none => 0
  | .idle => 1
  | .move => 2
  | .unknown value => value

instance : ProtoMessage CRegister where
  byteSizeLong pkt :=
    stringFieldSize pkt.loginId + stringFieldSize pkt.password + stringFieldSize pkt.nickname
  serialize pkt := stringField 1 pkt.loginId ++ stringField 2 pkt.password ++ stringField 3 pkt.nickname
  length_serialize pkt := by
    rw [List.length_append, List.length_append, length_stringField (by decide),
      length_stringField (by decide), length_stringField (by decide)]

instance : ProtoMessage CLogin where
  byteSizeLong pkt := stringFieldSize pkt.loginId + stringFieldSize pkt.password
  serialize pkt := stringField 1 pkt.loginId ++ stringField 2 pkt.password
  length_serialize pkt := by
    rw [List.length_append, length_stringField (by decide), length_stringField (by decide)]

instance : ProtoMessage CCreateRoom where
  byteSizeLong pkt := stringFieldSize pkt.roomName + uintFieldSize pkt.maxPlayerCount.toNat
  serialize pkt := stringField 1 pkt.roomName ++ uintField 2 pkt.maxPlayerCount.toNat
  length_serialize pkt := by
    rw [List.length_append, length_stringField (by decide), length_uintField (by decide)]

instance : ProtoMessage CChat where
  byteSizeLong pkt := stringFieldSize pkt.msg
  serialize pkt := stringField 1 pkt.msg
  length_serialize pkt := length_stringField (by decide) pkt.msg

instance : ProtoMessage CLeaveRoom where
  byteSizeLong _ := 0
  serialize _ := []
  length_serialize _ := rfl

instance : ProtoMessage CMatchPrepare where
  byteSizeLong _ := 0
  serialize _ := []
  length_serialize _ := rfl

instance : ProtoMessage CRoomList where
  byteSizeLong _ := 0
  serialize _ := []
  length_serialize _ := rfl

instance : ProtoMessage CStartMatch where
  byteSizeLong _ := 0
  serialize _ := []
  length_serialize _ := rfl

instance : ProtoMessage CReturnToRoom where
  byteSizeLong _ := 0
  serialize _ := []
  length_serialize _ := rfl

instance : ProtoMessage CEnterRoom where
  byteSizeLong pkt := uintFieldSize pkt.roomId.toNat
  serialize pkt := uintField 1 pkt.roomId.toNat
  length_serialize pkt := length_uintField (by decide) pkt.roomId.toNat

instance : ProtoMessage CChangeTeam where
  byteSizeLong pkt := enumFieldSize pkt.team.number
  serialize pkt := enumField 1 pkt.team.number
  length_serialize pkt := length_enumField (by decide) pkt.team.number

instance : ProtoMessage CReady where
  byteSizeLong pkt := boolFieldSize pkt.ready
  serialize pkt := boolField 1 pkt.ready
  length_serialize pkt := length_boolField (by decide) pkt.ready

instance : ProtoMessage CHit where
  byteSizeLong pkt := uintFieldSize pkt.targetObjectId.toNat
  serialize pkt := uintField 1 pkt.targetObjectId.toNat
  length_serialize pkt := length_uintField (by decide) pkt.targetObjectId.toNat

instance : ProtoMessage MoveInfo where
  byteSizeLong info := floatFieldSize info.x + floatFieldSize info.y + floatFieldSize info.z +
    floatFieldSize info.yaw + enumFieldSize info.state.number
  serialize info := floatField 1 info.x ++ floatField 2 info.y ++ floatField 3 info.z ++
    floatField 4 info.yaw ++ enumField 5 info.state.number
  length_serialize info := by
    simp only [List.length_append, length_floatField (show 1 < 15 by decide),
      length_floatField (show 2 < 15 by decide), length_floatField (show 3 < 15 by decide),
      length_floatField (show 4 < 15 by decide), length_enumField (show 5 < 16 by decide)]

instance : ProtoMessage CMove where
  byteSizeLong pkt := messageFieldSize (byteSizeLong pkt.moveInfo)
  serialize pkt := messageField 1 (serialize pkt.moveInfo)
  length_serialize pkt := by
    rw [length_messageField (by decide), length_serialize]

instance : ProtoMessage CFire where
  byteSizeLong pkt := uintFieldSize pkt.objectId.toNat + floatFieldSize pkt.spawnX +
    floatFieldSize pkt.spawnY + floatFieldSize pkt.spawnZ + floatFieldSize pkt.directionX +
    floatFieldSize pkt.directionY + floatFieldSize pkt.directionZ
  serialize pkt := uintField 1 pkt.objectId.toNat ++ floatField 2 pkt.spawnX ++
    floatField 3 pkt.spawnY ++ floatField 4 pkt.spawnZ ++ floatField 5 pkt.directionX ++
    floatField 6 pkt.directionY ++ floatField 7 pkt.directionZ
  length_serialize pkt := by
    simp only [List.length_append, length_uintField (show 1 < 16 by decide),
      length_floatField (show 2 < 15 by decide), length_floatField (show 3 < 15 by decide),
      length_floatField (show 4 < 15 by decide), length_floatField (show 5 < 15 by decide),
      length_floatField (show 6 < 15 by decide), length_floatField (show 7 < 15 by decide)]

/-! ### Sizes of the messages without text -/

theorem uintFieldSize_le (n : UInt64) : uintFieldSize n.toNat ≤ 11 := by
  have digits : varintSize n.toNat ≤ 10 :=
    (varintSize_mono (Nat.le_pred_of_lt n.toNat_lt)).trans (by decide)
  unfold uintFieldSize
  split <;> omega

theorem enumFieldSize_le (n : Int32) : enumFieldSize n ≤ 11 := uintFieldSize_le _

theorem boolFieldSize_le (value : Bool) : boolFieldSize value ≤ 2 := by
  cases value <;> decide

theorem floatFieldSize_le (raw : UInt32) : floatFieldSize raw ≤ 5 := by
  unfold floatFieldSize
  split <;> decide

theorem byteSizeLong_move_le (pkt : CMove) : byteSizeLong pkt ≤ 33 := by
  have fields : byteSizeLong pkt.moveInfo ≤ 31 := by
    have x := floatFieldSize_le pkt.moveInfo.x
    have y := floatFieldSize_le pkt.moveInfo.y
    have z := floatFieldSize_le pkt.moveInfo.z
    have yaw := floatFieldSize_le pkt.moveInfo.yaw
    have state := enumFieldSize_le pkt.moveInfo.state.number
    simp only [byteSizeLong]
    omega
  have digits := varintSize_eq_one (n := byteSizeLong pkt.moveInfo) (by omega)
  change messageFieldSize (byteSizeLong pkt.moveInfo) ≤ 33
  unfold messageFieldSize
  omega

end ArenaClient.Protocol
