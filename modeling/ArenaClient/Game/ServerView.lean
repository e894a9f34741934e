import ArenaClient.Game.RoomCache
import ArenaClient.Game.PlayerStates
import ArenaClient.Game.LobbyRooms

/-! What the client knows of the server: who it is, the lobby, the room, the match
and the players in it. Packets that are handled move this view, and nothing else
on the game thread does, so it is a function of them. -/
namespace ArenaClient
open Protocol ServerPacketHandler Transition

/-- The fields of the game instance that only packets write, without the clock. -/
structure ServerView extends RoomView where
  localAccountId : UInt64
  localNickname : FString
  lobbyRooms : List FRoomListItem
  matchId : UInt64
  matchPlayerInfo : List MatchPlayerInfo
  matchPlayerState : EntryMap UInt64 MatchPlayerState

namespace ServerView

/-- Before the first packet. -/
def blank : ServerView where
  currentRoom := {}
  bIsRoomHost := false
  localObjectId := 0
  localAccountId := 0
  localNickname := []
  lobbyRooms := []
  matchId := 0
  matchPlayerInfo := []
  matchPlayerState := ∅

/-- A state counts for the players that were announced. -/
def report (view : ServerView) (objectId : UInt64) (state : MatchPlayerState) : ServerView :=
  if objectId ∈ view.matchPlayerState then
    { view with matchPlayerState := view.matchPlayerState.insert objectId state }
  else view

variable [TextDecoder]

/-- The room first, then what else a message says. -/
def receive (msg : ServerMessage) (view : ServerView) : ServerView :=
  let view := { view with toRoomView := view.toRoomView.receive msg }
  match msg with
  | .login pkt =>
    match GameInstance.loginError pkt with
    | none => { view with localAccountId := pkt.accountId, localNickname := tchar pkt.nickname }
    | some _ => view
  | .roomList pkt => { view with lobbyRooms := pkt.rooms.map GameInstance.roomListItem }
  | .matchPrepare pkt =>
    if pkt.WellFormed then
      { view with
        matchId := pkt.matchInfo.matchId
        matchPlayerInfo := pkt.matchInfo.matchPlayersInfo
        matchPlayerState :=
          GameInstance.pairStates pkt.matchInfo.matchPlayersInfo pkt.matchInfo.matchPlayersState }
    else { view with matchId := pkt.matchInfo.matchId, matchPlayerInfo := [], matchPlayerState := ∅ }
  | .returnToRoom pkt =>
    match pkt.roomInfo with
    | none => view
    | some _ => { view with matchPlayerInfo := [], matchPlayerState := ∅ }
  | .playerState pkt => view.report pkt.objectId pkt.playerState
  | .playerRespawn pkt => view.report pkt.playerInfo.objectId pkt.playerState
  | _ => view

def act : GameInstance.Action → ServerView → ServerView
  | .packet msg, view => view.receive msg
  | _, view => view

end ServerView

namespace GameInstance
variable {game next : GameInstance} {objectId : UInt64} {state : MatchPlayerState}

def serverView (game : GameInstance) : ServerView where
  toRoomView := game.roomView
  localAccountId := game.localAccountId
  localNickname := game.localNickname
  lobbyRooms := game.lobbyRooms
  matchId := game.matchId
  matchPlayerInfo := game.matchPlayerInfo
  matchPlayerState := game.matchPlayerState

@[simp] theorem serverView_matchId (game : GameInstance) : game.serverView.matchId = game.matchId := rfl

@[simp] theorem serverView_matchPlayerState (game : GameInstance) :
    game.serverView.matchPlayerState = game.matchPlayerState := rfl

/-! ### One call -/

theorem Housed.serverView (housed : game.Housed next) :
    next.serverView = { game.serverView with toRoomView := next.roomView } := by
  obtain ⟨_, _, _, rfl⟩ := housed
  rfl

theorem serverView_updatePlayer (game : GameInstance) (objectId : UInt64) (update : AS1Player → AS1Player) :
    (game.updatePlayer objectId update).serverView = game.serverView := by
  obtain ⟨engine, same⟩ := game.updatePlayer_shape objectId update
  rw [same]
  rfl

theorem serverView_handlePlayerState (taken : game.handlePlayerState objectId state = .ok next) :
    next.serverView = game.serverView.report objectId state := by
  rw [handlePlayerState_eq, Except.ok.injEq] at taken
  subst taken
  rw [ServerView.report]
  refine (apply_ite serverView _ _ _).trans (if_congr Iff.rfl ?_ rfl)
  cases game.addressed objectId <;> rfl

variable [TextDecoder]

theorem serverView_received {msg : ServerMessage} (taken : game.received msg = .ok next) :
    next.serverView = game.serverView.receive msg := by
  cases msg with
  | playerState pkt => exact serverView_handlePlayerState taken
  | playerRespawn pkt =>
    rw [received_respawn] at taken
    have kept : (game.respawned pkt.playerInfo).serverView = game.serverView := by
      rw [respawned]
      split
      · exact serverView_updatePlayer _ _ _
      · rfl
    rw [serverView_handlePlayerState taken, kept]
    rfl
  | createRoom | enterRoom | roomState | leaveRoom =>
    rw [(housed_received taken trivial).serverView, roomView_received taken]
    rfl
  | login pkt =>
    obtain rfl := Except.ok.inj taken
    simp only [handleLogin, ServerView.receive, RoomView.receive]
    cases loginError pkt <;> rfl
  | register pkt =>
    obtain rfl := Except.ok.inj taken
    rfl
  | roomList pkt =>
    obtain rfl := Except.ok.inj taken
    have listed := game.lobbyRooms_handleRoomList pkt.rooms
    rw [ServerView.receive, ← listed]
    rfl
  | matchPrepare pkt =>
    obtain rfl := Except.ok.inj taken
    simp only [handlePrepareMatch, ServerView.receive, SMatchPrepare.WellFormed, ite_not]
    exact apply_ite serverView _ _ _
  | returnToRoom pkt =>
    obtain rfl := Except.ok.inj taken
    simp only [handleReturnRoom, updateCurrentRoom_eq, ServerView.receive, RoomView.receive]
    cases pkt.roomInfo <;> rfl
  | matchStart pkt | matchState pkt | matchEnd pkt =>
    obtain rfl := Except.ok.inj taken
    exact (apply_ite serverView _ _ _).trans (ite_self _)
  | move pkt =>
    rw [received, handleMove_eq] at taken
    split at taken
    · split at taken
      · obtain rfl := Except.ok.inj taken
        rfl
      · split at taken
        · obtain rfl := Except.ok.inj taken
          exact serverView_updatePlayer _ _ _
        · contradiction
    · obtain rfl := Except.ok.inj taken
      rfl
  | fire pkt =>
    obtain ⟨engine, _, fired⟩ := game.handleFire_ok pkt
    obtain rfl := Except.ok.inj (fired.symm.trans taken)
    rfl
  | playerDespawn pkt =>
    rw [received, handleDespawn_eq, Except.ok.injEq] at taken
    subst taken
    refine (apply_ite serverView _ _ _).trans ?_
    rw [serverView_updatePlayer]
    exact ite_self _
  | chat pkt =>
    obtain ⟨formatted, chatted⟩ := game.handleChat_ok pkt
    obtain rfl := Except.ok.inj (chatted.symm.trans taken)
    rfl

theorem serverView_prepareMatch (taken : game.prepareMatch = .ok next) : next.serverView = game.serverView := by
  obtain ⟨spawned, sendBuffer, loop, rfl⟩ := prepareMatch_ok taken
  obtain ⟨_, _, _, _, rfl⟩ := respawned_foldlM loop
  rfl

/-- The game instance refines the view. -/
theorem serverView_follows : Follows Step Handles serverView ServerView.act where
  counted game action next taken handled := by
    cases action with
    | packet msg => exact serverView_received ((step_packet handled).mp taken)
    | prepareMatch => exact serverView_prepareMatch taken
    | engine | connection =>
      obtain rfl := Except.ok.inj taken
      rfl
  ignored game action next taken ignored := by
    cases action with
    | packet msg => rw [(step_lost ignored).mp taken]
    | prepareMatch | engine | connection => exact absurd trivial ignored

end GameInstance

/-! ### What a history tells -/

/-- The view of a client that has handled these calls, latest first. -/
def ServerView.told [TextDecoder] (history : List GameInstance.Action) : ServerView :=
  history.foldr ServerView.act blank

/-- The login that was accepted last. -/
def lastLogin : List GameInstance.Action → Option SLogin
  | [] => none
  | .packet (.login pkt) :: earlier =>
    if GameInstance.loginError pkt = none then some pkt else lastLogin earlier
  | _ :: earlier => lastLogin earlier

namespace ServerView
variable [TextDecoder] {view : ServerView}

/-- Who the local player is. -/
def identity (view : ServerView) : UInt64 × UInt64 × FString :=
  (view.localObjectId, view.localAccountId, view.localNickname)

theorem toRoomView_receive (msg : ServerMessage) (view : ServerView) :
    (view.receive msg).toRoomView = view.toRoomView.receive msg := by
  cases msg with
  | login pkt =>
    simp only [receive]
    cases GameInstance.loginError pkt <;> rfl
  | matchPrepare pkt => exact (apply_ite toRoomView _ _ _).trans (ite_self _)
  | playerState pkt | playerRespawn pkt => exact (apply_ite toRoomView _ _ _).trans (ite_self _)
  | returnToRoom pkt =>
    simp only [receive]
    cases pkt.roomInfo <;> rfl
  | _ => rfl

/-- Unless a message replaces the players, it brings a state for one of them or
leaves their states alone. -/
theorem matchPlayerState_receive {msg : ServerMessage} (keeps : ¬ GameInstance.ReplacesRoster msg)
    (view : ServerView) :
    (view.receive msg).matchPlayerState =
      match GameInstance.reported msg with
      | none => view.matchPlayerState
      | some (objectId, state) =>
        if objectId ∈ view.matchPlayerState then view.matchPlayerState.insert objectId state
        else view.matchPlayerState := by
  cases msg with
  | matchPrepare => exact absurd trivial keeps
  | returnToRoom pkt =>
    simp only [receive]
    cases present : pkt.roomInfo with
    | none => rfl
    | some info => exact absurd (by rw [GameInstance.ReplacesRoster, present]; rfl) keeps
  | login pkt =>
    simp only [receive]
    cases GameInstance.loginError pkt <;> rfl
  | playerState | playerRespawn => exact apply_ite matchPlayerState _ _ _
  | _ => rfl

theorem localObjectId_snapshot (view : RoomView) (success : Bool) (roomInfo : Option RoomInfo) :
    (view.snapshot success roomInfo).localObjectId = view.localObjectId := by
  cases success <;> cases roomInfo <;> rfl

theorem identity_receive (msg : ServerMessage) (view : ServerView) :
    (view.receive msg).identity =
      (lastLogin [.packet msg]).elim view.identity fun pkt => (pkt.objectId, pkt.accountId, tchar pkt.nickname) := by
  cases msg with
  | login pkt =>
    simp only [receive, RoomView.receive, lastLogin]
    cases GameInstance.loginError pkt <;> rfl
  | createRoom pkt | enterRoom pkt =>
    exact congrArg (·, _, _) (localObjectId_snapshot view.toRoomView pkt.success pkt.roomInfo)
  | roomState pkt => exact congrArg (·, _, _) (localObjectId_snapshot view.toRoomView true pkt.roomInfo)
  | leaveRoom pkt =>
    simp only [receive, RoomView.receive]
    cases pkt.success <;> rfl
  | returnToRoom pkt =>
    simp only [receive, RoomView.receive]
    cases pkt.roomInfo <;> rfl
  | matchPrepare pkt => exact (apply_ite identity _ _ _).trans (ite_self _)
  | playerState pkt | playerRespawn pkt => exact (apply_ite identity _ _ _).trans (ite_self _)
  | _ => rfl

theorem told_toRoomView (history : List GameInstance.Action) :
    (told history).toRoomView = history.foldr RoomView.act blank.toRoomView := by
  induction history with
  | nil => rfl
  | cons action earlier ih =>
    rw [List.foldr_cons, ← ih]
    cases action with
    | packet msg => exact toRoomView_receive msg (told earlier)
    | prepareMatch | engine | connection => rfl

theorem told_currentRoom (history : List GameInstance.Action) :
    (told history).currentRoom = roomAfter history := by
  rw [told_toRoomView]
  exact currentRoom_history history blank.toRoomView rfl

theorem told_identity (history : List GameInstance.Action) :
    (told history).identity =
      (lastLogin history).elim (0, 0, []) fun pkt => (pkt.objectId, pkt.accountId, tchar pkt.nickname) := by
  induction history with
  | nil => rfl
  | cons action earlier ih =>
    cases action with
    | prepareMatch | engine | connection => exact ih
    | packet msg =>
      apply (identity_receive msg (told earlier)).trans
      rw [ih]
      cases msg with
      | login pkt =>
        simp only [lastLogin]
        split <;> rfl
      | _ => rfl

end ServerView

/-- Whatever the engine, the connection and the assets are, and whatever happens
between the packets. -/
theorem Play.serverView_told [TextDecoder] {play : Play} (reached : play.Reached) :
    play.state.serverView = .told play.history := by
  obtain ⟨connection, engine, bulletClass, otherPlayerClass, reached⟩ := reached
  exact GameInstance.serverView_follows.view_eq reached

end ArenaClient
