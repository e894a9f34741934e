import ArenaClient.Game.ServerView

/-! What the UI hears. The events of a call are determined by what the server has
told before it and by the actors of the players; a line of the chat names its
speaker by what is known of that id. -/
namespace ArenaClient
open Protocol ServerPacketHandler Transition

/-- The first text that is not empty. -/
def firstNonempty (texts : List FString) (otherwise : FString) : FString :=
  (texts.find? fun text => !text.isEmpty).getD otherwise

/-- `Player_%s`. -/
def anonymous (senderId : UInt64) : FString := textLiteral "Player_" ++ textLiteral (toString senderId.toNat)

theorem anonymous_ne_nil (senderId : UInt64) : anonymous senderId ≠ [] := fun empty =>
  List.cons_ne_nil _ _ (List.append_eq_nil_iff.mp empty).1

theorem firstNonempty_ne_nil {otherwise : FString} (named : otherwise ≠ []) (texts : List FString) :
    firstNonempty texts otherwise ≠ [] := by
  unfold firstNonempty
  cases found : texts.find? fun text => !text.isEmpty with
  | none => exact named
  | some text => simpa using List.find?_some found

/-- The name of the first player of a room with that id. -/
def FCurrentRoomState.nickname (room : FCurrentRoomState) (senderId : UInt64) : FString :=
  match room.players.find? (·.objectId.toUInt64 == senderId) with
  | none => []
  | some player => player.nickname

namespace GameInstance
variable {game next : GameInstance} {action : Action}

/-! ### The speaker of a chat line -/

/-- The name of the valid actor of an id. -/
def actorName (game : GameInstance) (senderId : UInt64) : FString :=
  ((game.addressed senderId).bind game.engine.actors.object).elim [] AS1Player.nickname

theorem actorNickname_eq (game : GameInstance) (senderId : UInt64) :
    game.actorNickname senderId = .ok (game.actorName senderId) := by
  rw [actorNickname, actorName]
  cases game.lookup_cases senderId with
  | missing found unaddressed => simp only [found, unaddressed, Option.bind_none, Option.elim_none]
  | invalid pointer found destroyed unaddressed =>
    simp only [found, destroyed, if_false, unaddressed, Option.bind_none, Option.elim_none]
  | valid id player found isValid object deref addressee =>
    simp only [found, isValid, if_true, deref, addressee, Option.bind_some, object, Option.elim_some]
    rfl

/-- The names that `HandleChat` tries, in order. -/
def speaker (game : GameInstance) (view : ServerView) (senderId : UInt64) : FString :=
  firstNonempty [if senderId = view.localObjectId then view.localNickname else [], game.actorName senderId,
    view.currentRoom.nickname senderId] (anonymous senderId)

theorem chatNickname_eq (game : GameInstance) (senderId : UInt64) :
    game.chatNickname senderId = .ok (game.speaker game.serverView senderId) := by
  rw [chatNickname, actorNickname_eq, speaker, firstNonempty]
  have room : game.roomNickname senderId = game.serverView.currentRoom.nickname senderId := rfl
  have own : (if senderId = game.localObjectId then game.localNickname else []) =
    if senderId = game.serverView.localObjectId then game.serverView.localNickname else [] := rfl
  rw [room, own]
  generalize (if senderId = game.serverView.localObjectId then game.serverView.localNickname else []) = own
  generalize game.actorName senderId = actor
  generalize game.serverView.currentRoom.nickname senderId = room
  cases own <;> cases actor <;> cases room <;> rfl

/-! ### One call -/

/-- `HandlePlayerState`: one event of the actor and one of the game instance, if
there is an actor. -/
def stateEvents (game : GameInstance) (view : ServerView) (objectId : UInt64) (state : MatchPlayerState) :
    List Broadcast :=
  if objectId ∈ view.matchPlayerState then
    (game.addressed objectId).elim [] fun actor => [.onPlayerStateUpdated actor state.data,
      .onMatchPlayerScoreUpdated objectId.toInt64 state.killCount.toInt32 state.deathCount.toInt32]
  else []

/-- `HandleSpawn`: an actor that is placed shows the state received before it. -/
def spawnEvents (game : GameInstance) (playerInfo : PlayerInfo) : List Broadcast :=
  ((game.spawnedActor playerInfo).bind fun actor =>
    (game.matchPlayerState.lookup playerInfo.objectId).map fun state =>
      .onPlayerStateUpdated actor state.data).toList

variable [TextDecoder]

/-- The events of a packet, in order. -/
def packetEvents (game : GameInstance) (view : ServerView) : ServerMessage → List Broadcast
  | .login pkt => (loginError pkt).elim [] fun message => [.onLoginFailed message]
  | .register pkt =>
    let registerSucceeded := pkt.success && pkt.result == .success
    [.onRegisterResult registerSucceeded
      (if registerSucceeded then "회원가입에 성공했습니다." else registerFailure pkt.result)]
  | .roomList _ => [.onRoomListUpdated]
  | .createRoom pkt => [.onCreateRoomResult (pkt.success && pkt.roomInfo.isSome)]
  | .enterRoom pkt => [.onEnterRoomResult (pkt.success && pkt.roomInfo.isSome)]
  | .leaveRoom pkt => if pkt.success then [.onLeaveRoomResult true] else []
  | .roomState pkt => if pkt.roomInfo.isSome then [.onRoomStateUpdated] else []
  | .matchStart pkt => if view.matchId = pkt.matchId then [.onMatchStarted] else []
  | .matchState pkt => if view.matchId = pkt.matchState.matchId then [.onMatchStateUpdated] else []
  | .playerState pkt => game.stateEvents view pkt.objectId pkt.playerState
  | .playerRespawn pkt => game.stateEvents view pkt.playerInfo.objectId pkt.playerState
  | .matchEnd pkt =>
    if game.engine.world then
      [.onMatchStateUpdated, .onMatchEnded (roomTeam pkt.result.winnerTeam) pkt.result.redScore.toInt32
        pkt.result.blueScore.toInt32]
    else []
  | .chat pkt => [.onChatReceived (game.speaker view pkt.playerId ++ textLiteral ": " ++ tchar pkt.msg)]
  | .matchPrepare _ | .move _ | .fire _ | .playerDespawn _ | .returnToRoom _ => []

/-- The events of the loop in `PrepareMatch`. -/
def rosterEvents (game : GameInstance) : List MatchPlayerInfo → List Broadcast
  | [] => []
  | info :: infos => game.spawnEvents info.playerInfo ++
    match game.handleSpawn info.playerInfo with
    | .error _ => []
    | .ok next => next.rosterEvents infos

/-- The events of a call. -/
def events (game : GameInstance) (view : ServerView) : Action → List Broadcast
  | .packet msg => if game.engine.Hosts then game.packetEvents view msg else []
  | .prepareMatch => game.withoutActors.rosterEvents view.matchPlayerInfo
  | .engine _ | .connection _ => []

omit [TextDecoder] in
theorem broadcasts_updatePlayer (game : GameInstance) (objectId : UInt64) (update : AS1Player → AS1Player) :
    (game.updatePlayer objectId update).broadcasts = game.broadcasts := by
  obtain ⟨engine, same⟩ := game.updatePlayer_shape objectId update
  rw [same]

omit [TextDecoder] in
theorem addressed_updatePlayer (game : GameInstance) (objectId other : UInt64) (update : AS1Player → AS1Player) :
    (game.updatePlayer objectId update).addressed other = game.addressed other := by
  unfold updatePlayer
  split
  · rfl
  · refine congrArg (Option.bind _) (funext fun pointer => if_congr ?_ rfl rfl)
    exact Iff.of_eq (by simp only [modifyActor, Engine.modifyActor, Engine.IsValid, ObjectStore.valid_modify])

omit [TextDecoder] in
/-- `HandleRespawn` moves an actor, and neither says anything nor loses it. -/
theorem respawned_quiet (game : GameInstance) (playerInfo : PlayerInfo) :
    (game.respawned playerInfo).broadcasts = game.broadcasts ∧
      (game.respawned playerInfo).serverView = game.serverView ∧
      (game.respawned playerInfo).addressed = game.addressed := by
  rw [respawned]
  split
  · exact ⟨broadcasts_updatePlayer _ _ _, serverView_updatePlayer _ _ _,
      funext fun other => addressed_updatePlayer _ _ other _⟩
  · exact ⟨rfl, rfl, rfl⟩

omit [TextDecoder] in
theorem broadcasts_handlePlayerState (taken : game.handlePlayerState objectId state = .ok next) :
    next.broadcasts = game.broadcasts ++ game.stateEvents game.serverView objectId state := by
  rw [handlePlayerState_eq, Except.ok.injEq] at taken
  subst taken
  rw [stateEvents, serverView_matchPlayerState]
  split
  · cases game.addressed objectId with
    | none => exact (List.append_nil _).symm
    | some actor => exact List.append_assoc _ _ _
  · exact (List.append_nil _).symm

theorem broadcasts_received {msg : ServerMessage} (taken : game.received msg = .ok next) :
    next.broadcasts = game.broadcasts ++ game.packetEvents game.serverView msg := by
  cases msg with
  | playerState pkt => exact broadcasts_handlePlayerState taken
  | playerRespawn pkt =>
    rw [received_respawn] at taken
    obtain ⟨quiet, stored, addressee⟩ := game.respawned_quiet pkt.playerInfo
    rw [broadcasts_handlePlayerState taken, quiet, packetEvents, stateEvents, stateEvents, stored, addressee]
  | login pkt =>
    obtain rfl := Except.ok.inj taken
    rw [handleLogin, packetEvents]
    cases loginError pkt with
    | none => exact (List.append_nil _).symm
    | some message => rfl
  | register pkt | roomList pkt =>
    obtain rfl := Except.ok.inj taken
    rfl
  | createRoom pkt | enterRoom pkt =>
    obtain rfl := Except.ok.inj taken
    obtain ⟨success, roomInfo⟩ := pkt
    cases success <;> cases roomInfo <;> rfl
  | roomState pkt =>
    obtain rfl := Except.ok.inj taken
    obtain ⟨roomInfo⟩ := pkt
    cases roomInfo with
    | none => exact (List.append_nil _).symm
    | some info => rfl
  | leaveRoom pkt =>
    obtain rfl := Except.ok.inj taken
    obtain ⟨success⟩ := pkt
    cases success with
    | false => exact (List.append_nil _).symm
    | true => rfl
  | matchPrepare pkt =>
    obtain rfl := Except.ok.inj taken
    rw [handlePrepareMatch]
    split <;> exact (List.append_nil _).symm
  | matchStart pkt =>
    obtain rfl := Except.ok.inj taken
    rw [handleMatchStart, packetEvents, serverView_matchId, ite_not]
    split
    · rfl
    · exact (List.append_nil _).symm
  | matchState pkt =>
    obtain rfl := Except.ok.inj taken
    rw [handleMatchState, packetEvents, serverView_matchId, ite_not]
    split
    · rfl
    · exact (List.append_nil _).symm
  | matchEnd pkt =>
    obtain rfl := Except.ok.inj taken
    rw [handleMatchEnd, packetEvents, ite_not]
    split
    · exact List.append_assoc _ _ _
    · exact (List.append_nil _).symm
  | returnToRoom pkt =>
    obtain rfl := Except.ok.inj taken
    rw [handleReturnRoom]
    split <;> exact (List.append_nil _).symm
  | move pkt =>
    rw [received, handleMove_eq] at taken
    rw [packetEvents, List.append_nil]
    split at taken
    · split at taken
      · obtain rfl := Except.ok.inj taken
        rfl
      · split at taken
        · obtain rfl := Except.ok.inj taken
          exact broadcasts_updatePlayer _ _ _
        · contradiction
    · obtain rfl := Except.ok.inj taken
      rfl
  | fire pkt =>
    obtain ⟨engine, _, fired⟩ := game.handleFire_ok pkt
    obtain rfl := Except.ok.inj (fired.symm.trans taken)
    exact (List.append_nil _).symm
  | playerDespawn pkt =>
    rw [received, handleDespawn_eq, Except.ok.injEq] at taken
    subst taken
    rw [packetEvents, List.append_nil]
    split
    · exact broadcasts_updatePlayer _ _ _
    · rfl
  | chat pkt =>
    rw [received, handleChat, chatNickname_eq] at taken
    obtain rfl := Except.ok.inj taken
    rfl

omit [TextDecoder] in
theorem broadcasts_place (game : GameInstance) (playerInfo : PlayerInfo) (id : ActorId) (nickname : FString) :
    (game.place playerInfo id nickname).broadcasts = game.broadcasts ++
      ((game.matchPlayerState.lookup playerInfo.objectId).map fun state =>
        Broadcast.onPlayerStateUpdated id state.data).toList := by
  unfold place
  dsimp only
  split
  · rename_i unknown
    have unknown : game.matchPlayerState.lookup playerInfo.objectId = none := unknown
    rw [unknown]
    exact (List.append_nil _).symm
  · rename_i state known
    have known : game.matchPlayerState.lookup playerInfo.objectId = some state := known
    rw [known]
    rfl

theorem broadcasts_handleSpawn {playerInfo : PlayerInfo} (taken : game.handleSpawn playerInfo = .ok next) :
    next.broadcasts = game.broadcasts ++ game.spawnEvents playerInfo := by
  rw [spawnEvents]
  cases spawning_of_handleSpawn taken with
  | nobody spawnResults unplaced =>
    rw [unplaced]
    exact (List.append_nil _).symm
  | pawn pawn mine possessed existing placed =>
    rw [placed, Option.bind_some]
    exact broadcasts_place game playerInfo pawn game.localNickname
  | actor player spawnResults other fewer placed =>
    rw [placed, Option.bind_some]
    exact broadcasts_place _ playerInfo game.engine.actors.next (tchar playerInfo.nickname)

theorem broadcasts_roster {infos : List MatchPlayerInfo}
    (taken : infos.foldlM (fun game info => game.handleSpawn info.playerInfo) game = .ok next) :
    next.broadcasts = game.broadcasts ++ game.rosterEvents infos := by
  induction infos generalizing game with
  | nil =>
    obtain rfl := Except.ok.inj taken
    exact (List.append_nil _).symm
  | cons info infos ih =>
    obtain ⟨middle, spawned, later⟩ := foldlM_cons_ok taken
    rw [ih later, broadcasts_handleSpawn spawned, rosterEvents, spawned, List.append_assoc]

theorem broadcasts_step (taken : Step game action next) :
    next.broadcasts = game.broadcasts ++ game.events game.serverView action := by
  cases action with
  | prepareMatch =>
    obtain ⟨spawned, sendBuffer, loop, rfl⟩ := prepareMatch_ok taken
    exact broadcasts_roster loop
  | engine | connection =>
    obtain rfl := Except.ok.inj taken
    exact (List.append_nil _).symm
  | packet msg =>
    rw [events]
    split
    · rename_i hosts
      exact broadcasts_received ((step_packet hosts).mp taken)
    · rename_i absent
      rw [(step_lost absent).mp taken]
      exact (List.append_nil _).symm

end GameInstance

/-! ### Runs -/

namespace Play
variable [TextDecoder] {play next : Play} {action : GameInstance.Action}

/-- The events of a call, by what the packets before it have told. -/
def events (play : Play) (action : GameInstance.Action) : List Broadcast :=
  play.state.events (.told play.history) action

/-- The name by which an id speaks: one's own if one has logged in as it, that of
its actor, that in the latest snapshot of the room. -/
def speaker (play : Play) (senderId : UInt64) : FString :=
  firstNonempty
    [(lastLogin play.history).elim [] fun pkt => if senderId = pkt.objectId then tchar pkt.nickname else [],
      play.state.actorName senderId,
      (lastSnapshot play.history).elim [] fun info =>
        (info.players.find? (·.objectId == senderId)).elim [] fun player => tchar player.nickname]
    (anonymous senderId)

theorem nickname_ofRoomInfo (info : RoomInfo) (senderId : UInt64) :
    (FCurrentRoomState.ofRoomInfo info).nickname senderId =
      (info.players.find? (·.objectId == senderId)).elim [] fun player => tchar player.nickname := by
  have same : (fun item : FRoomPlayerItem => item.objectId.toUInt64 == senderId) ∘ GameInstance.roomPlayerItem =
      fun player : RoomPlayerInfo => player.objectId == senderId := by
    funext player
    rw [Function.comp_apply, GameInstance.roomPlayerItem, UInt64.toUInt64_toInt64]
  rw [FCurrentRoomState.nickname, FCurrentRoomState.ofRoomInfo, List.find?_map, same]
  cases info.players.find? fun player => player.objectId == senderId <;> rfl

theorem speaker_told (play : Play) (senderId : UInt64) :
    play.state.speaker (.told play.history) senderId = play.speaker senderId := by
  have room : (ServerView.told play.history).currentRoom.nickname senderId =
      (lastSnapshot play.history).elim [] fun info =>
        (info.players.find? (·.objectId == senderId)).elim [] fun player => tchar player.nickname := by
    rw [ServerView.told_currentRoom, roomAfter]
    cases lastSnapshot play.history with
    | none => rfl
    | some info => exact nickname_ofRoomInfo info senderId
  have own : (if senderId = (ServerView.told play.history).localObjectId then
        (ServerView.told play.history).localNickname else []) =
      (lastLogin play.history).elim [] fun pkt => if senderId = pkt.objectId then tchar pkt.nickname else [] := by
    have identity := ServerView.told_identity play.history
    cases login : lastLogin play.history with
    | none =>
      rw [login] at identity
      have nameless : (ServerView.told play.history).localNickname = [] := congrArg (·.2.2) identity
      rw [nameless]
      exact ite_self _
    | some pkt =>
      rw [login] at identity
      have id : (ServerView.told play.history).localObjectId = pkt.objectId := congrArg Prod.fst identity
      have name : (ServerView.told play.history).localNickname = tchar pkt.nickname := congrArg (·.2.2) identity
      rw [id, name]
      rfl
  rw [GameInstance.speaker, room, own, speaker]

theorem Reached.step (reached : play.Reached) (taken : Step play action next) : next.Reached := by
  obtain ⟨connection, engine, bulletClass, otherPlayerClass, reached⟩ := reached
  exact ⟨connection, engine, bulletClass, otherPlayerClass, reached.next taken⟩

theorem broadcasts_taken (reached : play.Reached) (taken : Step play action next) :
    next.state.broadcasts = play.state.broadcasts ++ play.events action := by
  rw [events, ← serverView_told reached]
  exact GameInstance.broadcasts_step taken.1

/-- From the first moment on, the UI hears what the packets that are handled have
to tell, and for the players of a match what their actors have to show. -/
theorem ui_heard (connection : US1GameInstance) (engine : Engine) (bulletClass : Option BulletClass)
    (otherPlayerClass : Option AS1Player)
    (run : Run Step { state := .initial connection engine bulletClass otherPlayerClass } path) :
    (final { state := .initial connection engine bulletClass otherPlayerClass } path).state.broadcasts =
      output events { state := .initial connection engine bulletClass otherPlayerClass } path := by
  have fresh : Reached { state := .initial connection engine bulletClass otherPlayerClass } :=
    ⟨connection, engine, bulletClass, otherPlayerClass, .refl _⟩
  refine Run.log_eq (fun play => play.state.broadcasts) events ?_ ?_ run fresh
  · exact fun _ _ _ reached taken => reached.step taken
  · exact fun _ _ _ reached taken => broadcasts_taken reached taken

/-- A line of the chat names its speaker, whatever has been handled before it. -/
theorem chat_named {pkt : SChat} (reached : play.Reached) (hosts : play.state.engine.Hosts)
    (taken : Step play (.packet (.chat pkt)) next) :
    next.state.broadcasts = play.state.broadcasts ++
        [.onChatReceived (play.speaker pkt.playerId ++ textLiteral ": " ++ tchar pkt.msg)] ∧
      play.speaker pkt.playerId ≠ [] := by
  refine ⟨?_, firstNonempty_ne_nil (anonymous_ne_nil pkt.playerId) _⟩
  have heard := broadcasts_taken reached taken
  rwa [events, GameInstance.events, if_pos hosts, GameInstance.packetEvents, speaker_told] at heard

/-! ### A chat in a room -/

/-- The room that one enters, with one other player in it. -/
def entering : SEnterRoom where
  success := true
  roomInfo := some { players := [{ objectId := 8, nickname := [66, 111] }] }

def greeting : SChat where
  playerId := 8
  msg := [72, 105]

omit [TextDecoder] in
theorem greeting_heard :
    let _ := asciiDecoder
    let entered := after [.packet (.enterRoom entering)]
    let greeted := after [.packet (.enterRoom entering), .packet (.chat greeting)]
    let path := [(.packet (.enterRoom entering), entered), (.packet (.chat greeting), greeted)]
    Run Step start path ∧ output events start path =
      [.onEnterRoomResult true, .onChatReceived ([66, 111] ++ textLiteral ": " ++ [72, 105])] := by
  intro _ entered greeted path
  have run : Run Step start path := ⟨step_of_perform rfl, step_of_perform rfl, trivial⟩
  exact ⟨run, (ui_heard {} {} none (some {}) run).symm⟩

omit [TextDecoder] in
theorem greeting_named :
    let _ := asciiDecoder
    let entered := after [.packet (.enterRoom entering)]
    let greeted := after [.packet (.enterRoom entering), .packet (.chat greeting)]
    greeted.state.broadcasts = entered.state.broadcasts ++
      [.onChatReceived ([66, 111] ++ textLiteral ": " ++ [72, 105])] := by
  intro _ entered greeted
  have taken : Step entered (.packet (.chat greeting)) greeted := step_of_perform rfl
  exact (chat_named (reached_after _) ⟨rfl, rfl⟩ taken).1

end Play
end ArenaClient
