import ArenaClient.Game.HandlersProofs

/-! The room the client shows, and whether it shows the local player as its
host. The room is what the latest snapshot of the server says. The flag is
recomputed with most snapshots, by the caller of the handler that stores them. -/
namespace ArenaClient
open Protocol ServerPacketHandler Transition

variable [TextDecoder]

/-! ### Snapshots -/

/-- How a snapshot is shown. -/
def FCurrentRoomState.ofRoomInfo (info : RoomInfo) : FCurrentRoomState where
  roomId := info.roomId.toInt64
  roomName := tchar info.roomName
  currentPlayerCount := Int32.ofNat info.players.length
  maxPlayerCount := info.maxPlayerCount.toInt32
  hostObjectId := info.hostObjectId.toInt64
  players := info.players.map GameInstance.roomPlayerItem

/-- What a snapshot promises to the one who reads the room. -/
structure FCurrentRoomState.Shows (room : FCurrentRoomState) (info : RoomInfo) : Prop where
  roomId : room.roomId.toUInt64 = info.roomId
  hostObjectId : room.hostObjectId.toUInt64 = info.hostObjectId
  roomName : room.roomName = tchar info.roomName
  maxPlayerCount : room.maxPlayerCount.toUInt32 = info.maxPlayerCount
  count : room.currentPlayerCount = Int32.ofNat room.players.length
  players : List.Forall₂ (fun (item : FRoomPlayerItem) (player : RoomPlayerInfo) =>
    item.objectId.toUInt64 = player.objectId ∧ item.nickname = tchar player.nickname ∧
      item.ready = player.ready ∧
      (item.team = .red ↔ player.team = .red) ∧ (item.team = .blue ↔ player.team = .blue))
    room.players info.players

theorem FCurrentRoomState.shows_ofRoomInfo (info : RoomInfo) : (ofRoomInfo info).Shows info where
  roomId := UInt64.toUInt64_toInt64 info.roomId
  hostObjectId := UInt64.toUInt64_toInt64 info.hostObjectId
  roomName := rfl
  maxPlayerCount := UInt32.toUInt32_toInt32 info.maxPlayerCount
  count := by rw [ofRoomInfo, List.length_map]
  players := by
    rw [ofRoomInfo, List.forall₂_map_left_iff, List.forall₂_same]
    intro player _
    refine ⟨UInt64.toUInt64_toInt64 player.objectId, rfl, rfl, ?_, ?_⟩
    all_goals
      rw [GameInstance.roomPlayerItem]
      cases player.team <;> simp [GameInstance.roomTeam]

namespace GameInstance
variable {game next : GameInstance}

theorem addPlayers_eq (players : List RoomPlayerInfo) (room : FCurrentRoomState) :
    players.foldl (fun room player => { room with players := room.players ++ [roomPlayerItem player] }) room =
      { room with players := room.players ++ players.map roomPlayerItem } := by
  induction players generalizing room with
  | nil => rw [List.foldl_nil, List.map_nil, List.append_nil]
  | cons player players ih => rw [List.foldl_cons, ih, List.map_cons, List.append_assoc, List.singleton_append]

/-- Nothing of the earlier room survives. -/
theorem updateCurrentRoom_eq (game : GameInstance) (info : RoomInfo) :
    game.updateCurrentRoom info = { game with currentRoom := .ofRoomInfo info } := by
  simp only [updateCurrentRoom, addPlayers_eq, List.nil_append, FCurrentRoomState.ofRoomInfo]

end GameInstance

/-! ### The room as an abstract machine -/

/-- The fields that only room messages and a login write. -/
structure RoomView where
  currentRoom : FCurrentRoomState
  bIsRoomHost : Bool
  localObjectId : UInt64

namespace RoomView

def snapshot (success : Bool) (roomInfo : Option RoomInfo) (view : RoomView) : RoomView :=
  match success, roomInfo with
  | true, some info => { view with
      currentRoom := .ofRoomInfo info
      bIsRoomHost := isRoomHost view.localObjectId info.hostObjectId }
  | _, _ => view

/-- The snapshot that comes with the return to the room leaves the flag alone,
and so does a new local id. -/
def receive : ServerMessage → RoomView → RoomView
  | .login pkt, view =>
    match GameInstance.loginError pkt with
    | none => { view with localObjectId := pkt.objectId }
    | some _ => view
  | .createRoom pkt, view => view.snapshot pkt.success pkt.roomInfo
  | .enterRoom pkt, view => view.snapshot pkt.success pkt.roomInfo
  | .roomState pkt, view => view.snapshot true pkt.roomInfo
  | .leaveRoom pkt, view =>
    if pkt.success then { view with currentRoom := {}, bIsRoomHost := false } else view
  | .returnToRoom pkt, view =>
    match pkt.roomInfo with
    | none => view
    | some info => { view with currentRoom := .ofRoomInfo info }
  | _, view => view

def act : GameInstance.Action → RoomView → RoomView
  | .packet msg, view => view.receive msg
  | _, view => view

end RoomView

namespace GameInstance
variable {game next : GameInstance}

omit [TextDecoder] in
def roomView (game : GameInstance) : RoomView where
  currentRoom := game.currentRoom
  bIsRoomHost := game.bIsRoomHost
  localObjectId := game.localObjectId

theorem roomView_handleRoomResult (game : GameInstance) (success : Bool) (roomInfo : Option RoomInfo)
    (result : Bool → Broadcast) :
    ((setRoomHost game success roomInfo).handleRoomResult success roomInfo result).roomView =
      game.roomView.snapshot success roomInfo := by
  cases success <;> cases roomInfo
  all_goals
    simp only [setRoomHost, handleRoomResult, updateCurrentRoom_eq]
    rfl

theorem roomView_handleRoomState (game : GameInstance) (pkt : SRoomState) :
    ((setRoomHost game true pkt.roomInfo).handleRoomState pkt).roomView =
      game.roomView.snapshot true pkt.roomInfo := by
  rw [handleRoomState]
  cases pkt.roomInfo
  all_goals
    simp only [setRoomHost, updateCurrentRoom_eq]
    rfl

theorem roomView_handleLogin (game : GameInstance) (pkt : SLogin) :
    (game.handleLogin pkt).roomView = game.roomView.receive (.login pkt) := by
  simp only [handleLogin, RoomView.receive]
  cases loginError pkt with
  | none => rfl
  | some message => rfl

theorem roomView_handleReturnRoom (game : GameInstance) (pkt : SReturnToRoom) :
    (game.handleReturnRoom pkt).roomView = game.roomView.receive (.returnToRoom pkt) := by
  simp only [handleReturnRoom, RoomView.receive, updateCurrentRoom_eq]
  cases pkt.roomInfo with
  | none => rfl
  | some info => rfl

omit [TextDecoder] in
theorem Presented.roomView (presented : game.Presented next) : next.roomView = game.roomView := by
  obtain ⟨_, _, _, _, _, rfl⟩ := presented
  rfl

theorem roomView_received {msg : ServerMessage} (taken : game.received msg = .ok next) :
    next.roomView = game.roomView.receive msg := by
  cases msg with
  | login pkt =>
    obtain rfl := Except.ok.inj taken
    exact roomView_handleLogin game pkt
  | createRoom pkt | enterRoom pkt =>
    obtain rfl := Except.ok.inj taken
    exact roomView_handleRoomResult game pkt.success pkt.roomInfo _
  | roomState pkt =>
    obtain rfl := Except.ok.inj taken
    exact roomView_handleRoomState game pkt
  | leaveRoom pkt =>
    obtain rfl := Except.ok.inj taken
    simp only [handleLeaveRoom, RoomView.receive]
    cases pkt.success <;> rfl
  | returnToRoom pkt =>
    obtain rfl := Except.ok.inj taken
    exact roomView_handleReturnRoom game pkt
  | matchPrepare pkt =>
    obtain rfl := Except.ok.inj taken
    exact (apply_ite roomView _ _ _).trans (ite_self _)
  | matchStart pkt | matchState pkt | matchEnd pkt =>
    obtain rfl := Except.ok.inj taken
    exact (apply_ite roomView _ _ _).trans (ite_self _)
  | _ => exact (presented_received taken trivial).roomView

theorem roomView_prepareMatch (taken : game.prepareMatch = .ok next) : next.roomView = game.roomView := by
  obtain ⟨spawned, sendBuffer, loop, rfl⟩ := prepareMatch_ok taken
  obtain ⟨_, _, _, _, rfl⟩ := respawned_foldlM loop
  rfl

/-- The game instance refines the machine. -/
theorem roomView_follows : Follows Step Handles roomView RoomView.act where
  counted game action next taken handled := by
    cases action with
    | packet msg => exact roomView_received ((step_packet handled).mp taken)
    | prepareMatch => exact roomView_prepareMatch taken
    | engine | connection =>
      obtain rfl := Except.ok.inj taken
      rfl
  ignored game action next taken ignored := by
    cases action with
    | packet msg => rw [(step_lost ignored).mp taken]
    | prepareMatch | engine | connection => exact absurd trivial ignored

end GameInstance

/-! ### The latest snapshot -/

/-- What a message says about one's room: a snapshot that is accepted, that one
has left it, or nothing. -/
def ServerMessage.roomUpdate : ServerMessage → Option (Option RoomInfo)
  | .createRoom pkt => if pkt.success then pkt.roomInfo.map some else none
  | .enterRoom pkt => if pkt.success then pkt.roomInfo.map some else none
  | .roomState pkt => pkt.roomInfo.map some
  | .returnToRoom pkt => pkt.roomInfo.map some
  | .leaveRoom pkt => if pkt.success then some none else none
  | _ => none

def GameInstance.Action.roomUpdate : GameInstance.Action → Option (Option RoomInfo)
  | .packet msg => msg.roomUpdate
  | _ => none

/-- The snapshot accepted last, unless one has left the room since. -/
def lastSnapshot : List GameInstance.Action → Option RoomInfo
  | [] => none
  | action :: earlier =>
    match action.roomUpdate with
    | none => lastSnapshot earlier
    | some roomInfo => roomInfo

/-- The room that a history leaves one in. -/
def roomAfter (history : List GameInstance.Action) : FCurrentRoomState :=
  match lastSnapshot history with
  | none => {}
  | some info => .ofRoomInfo info

theorem RoomView.currentRoom_act (action : GameInstance.Action) (view : RoomView) :
    (view.act action).currentRoom =
      match action.roomUpdate with
      | none => view.currentRoom
      | some none => {}
      | some (some info) => .ofRoomInfo info := by
  cases action with
  | prepareMatch | engine | connection => rfl
  | packet msg =>
    cases msg with
    | createRoom pkt | enterRoom pkt =>
      simp only [act, receive, snapshot, GameInstance.Action.roomUpdate, ServerMessage.roomUpdate]
      cases pkt.success <;> cases pkt.roomInfo <;> rfl
    | roomState pkt | returnToRoom pkt =>
      simp only [act, receive, snapshot, GameInstance.Action.roomUpdate, ServerMessage.roomUpdate]
      cases pkt.roomInfo <;> rfl
    | leaveRoom pkt =>
      simp only [act, receive, GameInstance.Action.roomUpdate, ServerMessage.roomUpdate]
      cases pkt.success <;> rfl
    | login pkt =>
      simp only [act, receive, GameInstance.Action.roomUpdate, ServerMessage.roomUpdate]
      cases GameInstance.loginError pkt <;> rfl
    | _ => rfl

theorem currentRoom_history (history : List GameInstance.Action) (view : RoomView)
    (initially : view.currentRoom = {}) :
    (history.foldr RoomView.act view).currentRoom = roomAfter history := by
  induction history with
  | nil => exact initially
  | cons action earlier ih =>
    rw [List.foldr_cons, RoomView.currentRoom_act, ih]
    simp only [roomAfter, lastSnapshot]
    cases action.roomUpdate with
    | none => rfl
    | some roomInfo => cases roomInfo <;> rfl

/-- The cached room is the latest accepted snapshot, shown in full; nothing else
the server sends touches it. -/
structure RoomCached (play : Play) : Prop where
  current : play.state.currentRoom = roomAfter play.history
  shown : ∀ info, lastSnapshot play.history = some info → play.state.currentRoom.Shows info
  default : lastSnapshot play.history = none → play.state.currentRoom = {}
  kept : ∀ action next, Play.Step play action next →
    action.roomUpdate = none ∨ ¬ play.state.Handles action →
    next.state.currentRoom = play.state.currentRoom

theorem current_room_cached {play : Play} (reached : play.Reached) : RoomCached play := by
  obtain ⟨connection, engine, bulletClass, otherPlayerClass, reached⟩ := reached
  have current : play.state.currentRoom = roomAfter play.history :=
    (congrArg RoomView.currentRoom (GameInstance.roomView_follows.view_eq reached)).trans
      (currentRoom_history _ _ rfl)
  refine ⟨current, ?_, ?_, ?_⟩
  · intro info latest
    rw [current, roomAfter, latest]
    exact FCurrentRoomState.shows_ofRoomInfo info
  · intro left
    rw [current, roomAfter, left]
  · rintro action next ⟨taken, _⟩ irrelevant
    by_cases handled : play.state.Handles action
    · have silent : action.roomUpdate = none := irrelevant.resolve_right (not_not_intro handled)
      have moved := congrArg RoomView.currentRoom (GameInstance.roomView_follows.counted taken handled)
      rw [RoomView.currentRoom_act, silent] at moved
      exact moved
    · exact congrArg RoomView.currentRoom (GameInstance.roomView_follows.ignored taken handled)

omit [TextDecoder] in
/-- A room created, and a second creation refused. -/
theorem cached_after_refusal :
    let play := @Play.after asciiDecoder
      [.packet (.createRoom { success := true, roomInfo := some { hostObjectId := 7 } }),
        .packet (.createRoom { success := false, roomInfo := some { hostObjectId := 8 } })]
    @RoomCached asciiDecoder play ∧ play.state.currentRoom.hostObjectId = 7 :=
  ⟨@current_room_cached asciiDecoder _ (@Play.reached_after asciiDecoder _), rfl⟩

/-! ### The host flag -/

namespace GameInstance
variable {game next : GameInstance}

omit [TextDecoder] in
/-- The flag says whether the local player is the host of the room that is shown. -/
def HostFlag (game : GameInstance) : Prop :=
  game.bIsRoomHost = true ↔
    game.localObjectId ≠ 0 ∧ game.localObjectId = game.currentRoom.hostObjectId.toUInt64

omit [TextDecoder] in
/-- The two packets that write one side of the relation and not the flag find
the flag as it has to be. -/
def FlagFits (game : GameInstance) : Action → Prop
  | .packet (.returnToRoom pkt) =>
    ∀ info, pkt.roomInfo = some info → game.engine.Hosts →
      (game.bIsRoomHost = true ↔ game.localObjectId ≠ 0 ∧ game.localObjectId = info.hostObjectId)
  | .packet (.login pkt) =>
    loginError pkt = none → game.engine.Hosts →
      (game.bIsRoomHost = true ↔ pkt.objectId = game.currentRoom.hostObjectId.toUInt64)
  | _ => True

end GameInstance

namespace RoomView
variable {view : RoomView}

omit [TextDecoder] in
def HostFlag (view : RoomView) : Prop :=
  view.bIsRoomHost = true ↔
    view.localObjectId ≠ 0 ∧ view.localObjectId = view.currentRoom.hostObjectId.toUInt64

omit [TextDecoder] in
theorem isRoomHost_iff (localObjectId hostObjectId : UInt64) :
    isRoomHost localObjectId hostObjectId = true ↔ localObjectId ≠ 0 ∧ localObjectId = hostObjectId := by
  simp [isRoomHost]

/-- A snapshot that is stored with its flag restores the relation. -/
theorem hostFlag_snapshot (flag : view.HostFlag) (success : Bool) (roomInfo : Option RoomInfo) :
    (view.snapshot success roomInfo).HostFlag := by
  unfold snapshot
  split
  · rename_i info
    have host : (FCurrentRoomState.ofRoomInfo info).hostObjectId.toUInt64 = info.hostObjectId :=
      (FCurrentRoomState.shows_ofRoomInfo info).hostObjectId
    simp only [HostFlag, isRoomHost_iff, host]
  · exact flag

omit [TextDecoder] in
theorem hostFlag_left (view : RoomView) :
    HostFlag { view with currentRoom := {}, bIsRoomHost := false } := by
  constructor
  · intro host
    contradiction
  · rintro ⟨known, nobody⟩
    exact absurd nobody known

omit [TextDecoder] in
theorem loginError_objectId {pkt : SLogin} (accepted : GameInstance.loginError pkt = none) :
    pkt.objectId ≠ 0 := by
  rw [GameInstance.loginError] at accepted
  intro zero
  rw [if_pos (Or.inr zero)] at accepted
  split at accepted <;> contradiction

end RoomView

namespace GameInstance
variable {game next : GameInstance}

/-- What one step does to the relation. -/
theorem hostFlag_step (flag : game.HostFlag) (taken : game.Step action next) :
    next.HostFlag ↔ game.FlagFits action := by
  by_cases handled : game.Handles action
  · have moved : next.HostFlag ↔ (game.roomView.act action).HostFlag := by
      rw [← roomView_follows.counted taken handled]
      exact Iff.rfl
    have before : game.roomView.HostFlag := flag
    rw [moved]
    cases action with
    | prepareMatch | engine | connection => exact iff_of_true flag trivial
    | packet msg =>
      cases msg with
      | createRoom pkt | enterRoom pkt =>
        exact iff_of_true (RoomView.hostFlag_snapshot before pkt.success pkt.roomInfo) trivial
      | roomState pkt => exact iff_of_true (RoomView.hostFlag_snapshot before true pkt.roomInfo) trivial
      | leaveRoom pkt =>
        refine iff_of_true ?_ trivial
        simp only [RoomView.act, RoomView.receive]
        by_cases success : pkt.success = true
        · rw [if_pos success]
          exact RoomView.hostFlag_left game.roomView
        · rw [if_neg success]
          exact before
      | returnToRoom pkt =>
        simp only [RoomView.act, RoomView.receive, FlagFits]
        cases present : pkt.roomInfo with
        | none => exact iff_of_true flag (by simp)
        | some info =>
          have host : (FCurrentRoomState.ofRoomInfo info).hostObjectId.toUInt64 = info.hostObjectId :=
            (FCurrentRoomState.shows_ofRoomInfo info).hostObjectId
          constructor
          · rintro next _ ⟨⟩ _
            rwa [RoomView.HostFlag, host] at next
          · intro fits
            rw [RoomView.HostFlag, host]
            exact fits info rfl handled
      | login pkt =>
        simp only [RoomView.act, RoomView.receive, FlagFits]
        cases accepted : loginError pkt with
        | some message => exact iff_of_true flag (by simp)
        | none =>
          have known := RoomView.loginError_objectId accepted
          constructor
          · intro next _ _
            exact next.trans (and_iff_right known)
          · intro fits
            exact (fits rfl handled).trans (and_iff_right known).symm
      | _ => exact iff_of_true flag trivial
  · cases action with
    | prepareMatch | engine | connection => exact absurd trivial handled
    | packet msg =>
      rw [(step_lost handled).mp taken]
      apply iff_of_true flag
      cases msg with
      | login pkt => exact fun _ hosts => absurd hosts handled
      | returnToRoom pkt => exact fun _ _ hosts => absurd hosts handled
      | _ => exact trivial

/-- The relation holds throughout a run exactly when no return to the room and
no login finds a flag that it would have to change. -/
theorem host_flag_iff (connection : US1GameInstance) (engine : Engine) (bulletClass : Option BulletClass)
    (otherPlayerClass : Option AS1Player)
    (run : Run Step (initial connection engine bulletClass otherPlayerClass) path) :
    EveryState HostFlag (initial connection engine bulletClass otherPlayerClass) path ↔
      EveryStep FlagFits (initial connection engine bulletClass otherPlayerClass) path := by
  refine everyState_iff_of_step (P := fun _ => True) (fun _ _ _ _ _ => trivial) ?_ run trivial ?_
  · intro game action next _ flag taken
    exact hostFlag_step flag taken
  · exact RoomView.hostFlag_left (roomView (initial connection engine bulletClass otherPlayerClass))

omit [TextDecoder] in
/-- The host comes back from a match as the host. -/
theorem host_flag_through_match :
    let start := initial {} {} none none
    let sent : List Action :=
      [.packet (.login { success := true, result := .success, accountId := 1, objectId := 7 }),
        .packet (.enterRoom { success := true, roomInfo := some { hostObjectId := 7 } }),
        .packet (.returnToRoom { roomInfo := some { hostObjectId := 7 } })]
    ∃ path, path.map Prod.fst = sent ∧ Run (@Step asciiDecoder) start path ∧
      (final start path).bIsRoomHost = true ∧ EveryState HostFlag start path := by
  intro start sent
  let _ := asciiDecoder
  have run : Run Step start [(sent[0], _), (sent[1], _), (sent[2], _)] := ⟨rfl, rfl, rfl, trivial⟩
  refine ⟨_, rfl, run, rfl, (host_flag_iff {} {} none none run).mpr ⟨?_, trivial, ?_, trivial⟩⟩
  · exact fun _ _ => by decide
  · rintro _ ⟨⟩ _
    decide

omit [TextDecoder] in
/-- The host changes during a match, and the return to the room does not say so. -/
theorem host_flag_stale :
    ¬ ∀ [TextDecoder] (play : Play), play.Reached → play.state.HostFlag := by
  intro claim
  let _ := asciiDecoder
  have flag := claim (Play.after
    [.packet (.login { success := true, result := .success, accountId := 1, objectId := 7 }),
      .packet (.enterRoom { success := true, roomInfo := some { hostObjectId := 7 } }),
      .packet (.returnToRoom { roomInfo := some { hostObjectId := 9 } })]) (Play.reached_after _)
  have host : (7 : UInt64) ≠ 0 ∧ (7 : UInt64) = 9 := flag.mp rfl
  exact absurd host.2 (by decide)

end GameInstance
end ArenaClient
