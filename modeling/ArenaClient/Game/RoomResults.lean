import ArenaClient.Base.Observed
import ArenaClient.Game.RoomCache

/-! The answers to the room requests, as the UI hears of them. A listener of a
delegate runs in the middle of the handler, so the handlers are put once more as
what they assign and what they raise, in this order. -/
namespace ArenaClient
open Protocol ServerPacketHandler

abbrev HandlerStatement := Statement GameInstance Broadcast

inductive RoomAnswer where
  | createRoom (pkt : SCreateRoom)
  | enterRoom (pkt : SEnterRoom)
  | leaveRoom (pkt : SLeaveRoom)
  deriving DecidableEq, Repr

namespace RoomAnswer

def message : RoomAnswer → ServerMessage
  | .createRoom pkt => .createRoom pkt
  | .enterRoom pkt => .enterRoom pkt
  | .leaveRoom pkt => .leaveRoom pkt

/-! ### The handlers, statement by statement -/

variable [TextDecoder]

/-- `HandleCreateRoom` and `HandleEnterRoom`. -/
def roomResult (success : Bool) (roomInfo : Option RoomInfo) (result : Bool → Broadcast) :
    List HandlerStatement :=
  match success, roomInfo with
  | true, some info => [.assign (·.updateCurrentRoom info), .raise (result true)]
  | _, _ => [.raise (result false)]

omit [TextDecoder] in
/-- `HandleLeaveRoom`. -/
def leaveResult (success : Bool) : List HandlerStatement :=
  if success then [.assign fun game => { game with currentRoom := {} }, .raise (.onLeaveRoomResult success)]
  else []

/-- The `Handle_S_*` and the handler it calls. -/
def statements : RoomAnswer → List HandlerStatement
  | .createRoom pkt => .assign (setRoomHost · pkt.success pkt.roomInfo) ::
      roomResult pkt.success pkt.roomInfo .onCreateRoomResult
  | .enterRoom pkt => .assign (setRoomHost · pkt.success pkt.roomInfo) ::
      roomResult pkt.success pkt.roomInfo .onEnterRoomResult
  | .leaveRoom pkt => .assign (fun game => if pkt.success then { game with bIsRoomHost := false } else game) ::
      leaveResult pkt.success

/-- An answer arrives; without a game instance to find it is lost. -/
def observe (observed : Observed GameInstance Broadcast) (answer : RoomAnswer) :
    Observed GameInstance Broadcast :=
  if observed.state.engine.Hosts then observed.execute GameInstance.broadcast answer.statements else observed

theorem execute_roomResult (observed : Observed GameInstance Broadcast) (success : Bool)
    (roomInfo : Option RoomInfo) (result : Bool → Broadcast) :
    (observed.execute GameInstance.broadcast (roomResult success roomInfo result)).state =
      observed.state.handleRoomResult success roomInfo result := by
  cases success <;> cases roomInfo <;> rfl

/-- The statements do what the handler does. -/
theorem observe_performs (observed : Observed GameInstance Broadcast) (answer : RoomAnswer) :
    observed.state.perform (.packet answer.message) = .ok (observe observed answer).state := by
  rw [observe]
  split
  · rename_i hosts
    rw [GameInstance.perform_packet hosts]
    cases answer with
    | createRoom pkt | enterRoom pkt =>
      rw [statements, Observed.execute_cons, execute_roomResult]
      rfl
    | leaveRoom pkt =>
      cases success : pkt.success <;>
        simp [message, GameInstance.received, statements, leaveResult, success, Observed.run,
          GameInstance.handleLeaveRoom]
  · rename_i absent
    exact GameInstance.perform_lost absent answer.message

/-! ### What the UI should hear -/

omit [TextDecoder] in
/-- Granted by the server, with the room if there has to be one. -/
def accepted : RoomAnswer → Bool
  | .createRoom pkt => pkt.success && pkt.roomInfo.isSome
  | .enterRoom pkt => pkt.success && pkt.roomInfo.isSome
  | .leaveRoom pkt => pkt.success

omit [TextDecoder] in
/-- The broadcast on the delegate for the kind of answer. -/
def result : RoomAnswer → Broadcast
  | .createRoom pkt => .onCreateRoomResult (accepted (.createRoom pkt))
  | .enterRoom pkt => .onEnterRoomResult (accepted (.enterRoom pkt))
  | .leaveRoom pkt => .onLeaveRoomResult (accepted (.leaveRoom pkt))

/-- The room once an accepted answer has been applied; others change nothing. -/
def roomAfter (room : FCurrentRoomState) : RoomAnswer → FCurrentRoomState
  | .createRoom pkt => if pkt.success then (pkt.roomInfo.map .ofRoomInfo).getD room else room
  | .enterRoom pkt => if pkt.success then (pkt.roomInfo.map .ofRoomInfo).getD room else room
  | .leaveRoom pkt => if pkt.success then {} else room

/-- One result for each answer, heard when the room is what it makes of it. -/
def expected (room : FCurrentRoomState) : List RoomAnswer → List (Broadcast × FCurrentRoomState)
  | [] => []
  | answer :: answers => (answer.result, answer.roomAfter room) :: expected (answer.roomAfter room) answers

omit [TextDecoder] in
/-- The events so far, with `CurrentRoom` as a listener finds it at each. -/
def heard (observed : Observed GameInstance Broadcast) : List (Broadcast × FCurrentRoomState) :=
  observed.trace.map fun (event, game) => (event, game.currentRoom)

/-- The answers handled from `game` on reach the UI and the room. -/
def ReachUI (game : GameInstance) (answers : List RoomAnswer) : Prop :=
  heard (answers.foldl observe { state := game }) = expected game.currentRoom answers ∧
    (answers.foldl observe { state := game }).state.currentRoom = answers.foldl roomAfter game.currentRoom

omit [TextDecoder] in
/-- The one early exit without a broadcast is not taken. -/
def Notifies : RoomAnswer → Prop
  | .createRoom _ | .enterRoom _ => True
  | .leaveRoom pkt => pkt.success = true

omit [TextDecoder] in
instance : (answer : RoomAnswer) → Decidable answer.Notifies
  | .createRoom _ | .enterRoom _ => .isTrue trivial
  | .leaveRoom _ => inferInstanceAs (Decidable (_ = true))

variable {observed : Observed GameInstance Broadcast} {answer : RoomAnswer}

theorem engine_observe (observed : Observed GameInstance Broadcast) (answer : RoomAnswer) :
    (observe observed answer).state.engine = observed.state.engine := by
  have taken := observe_performs observed answer
  by_cases hosts : observed.state.engine.Hosts
  · rw [GameInstance.perform_packet hosts] at taken
    obtain ⟨_, _, _, same⟩ := GameInstance.housed_received taken (by cases answer <;> trivial)
    rw [same]
  · rw [observe, if_neg hosts]

theorem observe_notifies (hosts : observed.state.engine.Hosts) (notifies : answer.Notifies) :
    heard (observe observed answer) =
        heard observed ++ [(answer.result, answer.roomAfter observed.state.currentRoom)] ∧
      (observe observed answer).state.currentRoom = answer.roomAfter observed.state.currentRoom := by
  rw [observe, if_pos hosts]
  cases answer with
  | createRoom pkt | enterRoom pkt =>
    obtain ⟨success, roomInfo⟩ := pkt
    cases success <;> cases roomInfo <;>
      simp [heard, statements, roomResult, Observed.run, result, accepted, roomAfter, setRoomHost,
        GameInstance.broadcast, GameInstance.updateCurrentRoom_eq]
  | leaveRoom pkt =>
    have success : pkt.success = true := notifies
    simp [heard, statements, leaveResult, Observed.run, result, accepted, roomAfter, success,
      GameInstance.broadcast]

theorem observe_silent (unheard : ¬ (observed.state.engine.Hosts ∧ answer.Notifies)) :
    (observe observed answer).trace = observed.trace := by
  rw [observe]
  split
  · rename_i hosts
    cases answer with
    | createRoom pkt | enterRoom pkt => exact absurd ⟨hosts, trivial⟩ unheard
    | leaveRoom pkt =>
      have refused : pkt.success = false := Bool.eq_false_iff.mpr fun success => unheard ⟨hosts, success⟩
      simp [statements, leaveResult, refused, Observed.run]
  · rfl

/-- As many results are heard as there are answers that are handled and notify. -/
theorem length_heard (observed : Observed GameInstance Broadcast) (answers : List RoomAnswer) :
    (heard (answers.foldl observe observed)).length = (heard observed).length +
      (answers.filter fun answer => observed.state.engine.Hosts ∧ answer.Notifies).length := by
  induction answers generalizing observed with
  | nil => rfl
  | cons answer answers ih =>
    rw [List.foldl_cons, ih, engine_observe, List.filter_cons]
    by_cases notified : observed.state.engine.Hosts ∧ answer.Notifies
    · rw [(observe_notifies notified.1 notified.2).1, if_pos (decide_eq_true notified),
        List.length_append, List.length_cons, List.length_cons]
      exact (Nat.add_assoc _ _ _).trans (congrArg _ (Nat.add_comm _ _))
    · rw [heard, observe_silent notified, ← heard, if_neg (by simpa using notified)]

theorem length_expected (room : FCurrentRoomState) (answers : List RoomAnswer) :
    (expected room answers).length = answers.length := by
  induction answers generalizing room with
  | nil => rfl
  | cons answer answers ih => rw [expected, List.length_cons, ih, List.length_cons]

theorem reach_of_notified (observed : Observed GameInstance Broadcast) (answers : List RoomAnswer)
    (notified : ∀ answer ∈ answers, observed.state.engine.Hosts ∧ answer.Notifies) :
    heard (answers.foldl observe observed) =
        heard observed ++ expected observed.state.currentRoom answers ∧
      (answers.foldl observe observed).state.currentRoom =
        answers.foldl roomAfter observed.state.currentRoom := by
  induction answers generalizing observed with
  | nil => exact ⟨(List.append_nil _).symm, rfl⟩
  | cons answer answers ih =>
    obtain ⟨⟨hosts, notifies⟩, later⟩ := List.forall_mem_cons.mp notified
    obtain ⟨told, shown⟩ := observe_notifies hosts notifies
    obtain ⟨rest, last⟩ := ih (observe observed answer)
      (fun a member => (engine_observe observed answer).symm ▸ later a member)
    rw [List.foldl_cons, List.foldl_cons, rest, last, told, shown]
    exact ⟨by rw [List.append_assoc, expected, List.singleton_append], rfl⟩

end RoomAnswer

/-- The answers reach the UI exactly when the game instance can be found and no
`S_LEAVE_ROOM` is a refusal. -/
theorem roomAnswers_reachUI_iff [TextDecoder] (game : GameInstance) (answers : List RoomAnswer) :
    RoomAnswer.ReachUI game answers ↔
      ∀ answer ∈ answers, game.engine.Hosts ∧ answer.Notifies := by
  constructor
  · rintro ⟨heardAll, _⟩
    have lengths := congrArg List.length heardAll
    rw [RoomAnswer.length_heard, RoomAnswer.length_expected] at lengths
    have all := List.length_filter_eq_length_iff.mp ((Nat.zero_add _).symm.trans lengths)
    exact fun answer member => of_decide_eq_true (all answer member)
  · exact RoomAnswer.reach_of_notified { state := game } answers

/-- A refusal to let the player leave is not passed on. -/
theorem refused_leave_unheard : ¬ @RoomAnswer.ReachUI asciiDecoder {} [.leaveRoom { success := false }] := by
  let _ := asciiDecoder
  rintro ⟨heardAll, _⟩
  exact absurd (congrArg List.length heardAll) (by decide)

end ArenaClient
