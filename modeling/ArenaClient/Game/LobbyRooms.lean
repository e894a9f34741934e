import ArenaClient.Game.Play
import ArenaClient.Session.RoomRequests

/-! From the list of the server to a request for one of its rooms. The id is
unsigned on the wire and signed for Blueprint; the cast loses nothing, but the
check of the request is on the sign. -/
namespace ArenaClient
open Protocol

/-- The guard of `RequestEnterRoom` on an id that came from the server. -/
theorem UInt64.toInt64_nonpos_iff (id : UInt64) : id.toInt64 ≤ 0 ↔ id = 0 ∨ 2 ^ 63 ≤ id.toNat := by
  have bits : id.toInt64.toInt = id.toBitVec.toInt := rfl
  have value : id.toBitVec.toNat = id.toNat := rfl
  have zero : id = 0 ↔ id.toNat = 0 := by
    rw [← UInt64.toNat_inj]
    rfl
  have bound := id.toNat_lt
  have none : (0 : Int64).toInt = 0 := rfl
  rw [Int64.le_iff_toInt_le, bits, BitVec.toInt_eq_toNat_cond, zero, value, none]
  split <;> omega

namespace US1GameInstance
variable {gameInstance : US1GameInstance}

/-- `RequestEnterRoom` with an id returns true and queues the whole frame of a
`C_ENTER_ROOM` for the listed room. -/
def Enters (gameInstance : US1GameInstance) (roomId : Int64) (listed : UInt64) : Prop :=
  ∃ sendBuffer, gameInstance.requestEnterRoom roomId = some (true, gameInstance.sendPacket sendBuffer) ∧
    sendBuffer.Whole ({ roomId := listed } : CEnterRoom) ClientPacket.enterRoom.id

theorem enters_iff (connected : gameInstance.Connected) (id : UInt64) :
    gameInstance.Enters id.toInt64 id ↔ ¬ id.toInt64 ≤ 0 := by
  rw [Enters, requestEnterRoom, enterRoomPacket]
  split
  · rename_i refused
    refine iff_of_false ?_ (not_not_intro refused)
    rintro ⟨sendBuffer, answered, _⟩
    rw [request, if_pos connected] at answered
    exact absurd (Prod.mk.inj (Option.some.inj answered)).1 Bool.false_ne_true
  · rename_i accepted
    refine iff_of_true ?_ accepted
    have fits : byteSizeLong ({ roomId := id } : CEnterRoom) ≤ maxDataSize :=
      (uintFieldSize_le id).trans (by decide)
    refine ⟨_, ?_, frameOf_whole _ _ fits⟩
    rw [request_some connected, UInt64.toUInt64_toInt64, makeSendBuffer_fits _ _ fits, Option.map_some]

end US1GameInstance

namespace GameInstance
variable [TextDecoder] (game : GameInstance) (rooms : List RoomInfo)

theorem lobbyRooms_handleRoomList :
    (game.handleRoomList { rooms }).lobbyRooms = rooms.map roomListItem := by
  have added (items : List FRoomListItem) :
      rooms.foldl (fun items info => items ++ [roomListItem info]) items = items ++ rooms.map roomListItem := by
    induction rooms generalizing items with
    | nil => exact (List.append_nil items).symm
    | cons info rooms ih => rw [List.foldl_cons, ih, List.append_assoc, List.map_cons, List.singleton_append]
  exact added []

/-- The lobby shows the list, and from any connected state each room in it that
has an id can be entered by what the lobby shows of it. -/
def ListsEnterable (game : GameInstance) (rooms : List RoomInfo) : Prop :=
  game.lobbyRooms = rooms.map roomListItem ∧
    ∀ item info, (item, info) ∈ game.lobbyRooms.zip rooms → info.roomId ≠ 0 →
      ∀ connection : US1GameInstance, connection.Connected → connection.Enters item.roomId info.roomId

/-- Every listed room can be entered exactly when no id has its top bit set. -/
theorem listsEnterable_iff :
    (game.handleRoomList { rooms }).ListsEnterable rooms ↔ ∀ info ∈ rooms, info.roomId.toNat < 2 ^ 63 := by
  have shown := game.lobbyRooms_handleRoomList rooms
  have same : (rooms.map roomListItem).zip rooms = rooms.map fun info => (roomListItem info, info) := by
    have zipped := List.zip_map' (f := roomListItem) (g := id) (l := rooms)
    rwa [List.map_id] at zipped
  constructor
  · rintro ⟨_, enterable⟩ info listed
    by_contra high
    have present : info.roomId ≠ 0 := by
      rintro zero
      rw [zero] at high
      exact high (by decide)
    rw [shown, same] at enterable
    have connected : US1GameInstance.Connected
        { socket := some 0, gameServerSession := some { socket := 0 } } := by decide
    have enters := enterable _ info (List.mem_map_of_mem listed) present _ connected
    exact (US1GameInstance.enters_iff connected info.roomId).mp enters
      ((UInt64.toInt64_nonpos_iff info.roomId).mpr (.inr (Nat.le_of_not_lt high)))
  · intro low
    refine ⟨shown, ?_⟩
    rw [shown, same]
    intro item info listed present connection connected
    obtain ⟨room, member, pair⟩ := List.mem_map.mp listed
    obtain ⟨rfl, rfl⟩ := Prod.mk.inj pair
    apply (US1GameInstance.enters_iff connected room.roomId).mpr
    rw [UInt64.toInt64_nonpos_iff]
    rintro (zero | high)
    · exact present zero
    · exact absurd (low room member) (Nat.not_lt.mpr high)

omit [TextDecoder] in
/-- A room whose id is 2⁶³ is listed with a negative one, which is refused. -/
theorem high_room_refused :
    ¬ @ListsEnterable asciiDecoder
      (@handleRoomList {} asciiDecoder { rooms := [{ roomId := 0x8000000000000000 }] })
      [{ roomId := 0x8000000000000000 }] := by
  let _ := asciiDecoder
  rintro ⟨_, enterable⟩
  have connected : US1GameInstance.Connected
      { socket := some 0, gameServerSession := some { socket := 0 } } := by decide
  have enters := enterable _ { roomId := 0x8000000000000000 } List.mem_cons_self (by decide) _ connected
  exact (US1GameInstance.enters_iff connected 0x8000000000000000).mp enters (by decide)

end GameInstance
end ArenaClient
