import ArenaClient.Base.EntryMap
import ArenaClient.Game.Play

/-! What a call can do. Each handler that looks a player up is put in closed
form once: it acts on the addressed actor if there is one. The other lemmas say
which fields a call leaves alone. -/
namespace ArenaClient
open Protocol ServerPacketHandler Transition

/-- The body of `HandleMove` behind its guards. -/
def AS1Player.move (player : AS1Player) (info : MoveInfo) : AS1Player :=
  if player.isMyPlayer then player else player.setDestInfo info

namespace GameInstance
variable {game next : GameInstance} {objectId : UInt64}

/-! ### The addressed actor -/

/-- The actor of an id: the entry of `Players`, if it passes `IsValid`. -/
def addressed (game : GameInstance) (objectId : UInt64) : ActorPtr :=
  (game.players.lookup objectId).bind fun pointer => if game.engine.IsValid pointer then pointer else none

/-- The three outcomes of `Find` and `IsValid`. -/
inductive Lookup (game : GameInstance) (objectId : UInt64) : Prop where
  | missing (found : game.players.lookup objectId = none) (unaddressed : game.addressed objectId = none)
  | invalid (pointer : ActorPtr) (found : game.players.lookup objectId = some pointer)
      (destroyed : ¬ game.engine.IsValid pointer) (unaddressed : game.addressed objectId = none)
  | valid (id : ActorId) (player : AS1Player) (found : game.players.lookup objectId = some (some id))
      (isValid : game.engine.IsValid (some id)) (object : game.engine.actors.object id = some player)
      (deref : game.engine.deref (some id) = .ok (id, player)) (addressed : game.addressed objectId = some id)

theorem lookup_cases (game : GameInstance) (objectId : UInt64) : game.Lookup objectId := by
  cases found : game.players.lookup objectId with
  | none => exact .missing found (by rw [addressed, found, Option.bind_none])
  | some pointer =>
    by_cases valid : game.engine.IsValid pointer
    · obtain ⟨id, player, rfl, object, deref⟩ := Engine.deref_valid valid
      exact .valid id player found valid object deref
        (by rw [addressed, found, Option.bind_some, if_pos valid])
    · exact .invalid pointer found valid (by rw [addressed, found, Option.bind_some, if_neg valid])

/-- An update of the addressed actor. -/
def updatePlayer (game : GameInstance) (objectId : UInt64) (update : AS1Player → AS1Player) :
    GameInstance :=
  match game.addressed objectId with
  | none => game
  | some id => game.modifyActor id update

theorem handleDespawn_eq (game : GameInstance) (objectId : UInt64) :
    game.handleDespawn objectId =
      .ok (if game.Connected ∧ game.engine.world then game.updatePlayer objectId (·.despawn) else game) := by
  unfold handleDespawn updatePlayer
  by_cases connected : game.Connected
  · by_cases world : game.engine.world = true
    · simp only [connected, world, not_true, if_false, and_self, if_true]
      cases game.lookup_cases objectId with
      | missing found unaddressed => simp only [found, unaddressed]
      | invalid pointer found destroyed unaddressed => simp [found, unaddressed, destroyed]
      | valid id player found isValid object deref target =>
        simp only [found, target, isValid, not_true, if_false, deref]
        rfl
    · simp [connected, world]
  · simp [connected]

theorem handleRespawn_eq (game : GameInstance) (playerInfo : PlayerInfo) :
    game.handleRespawn playerInfo =
      .ok (if game.Connected then
        game.updatePlayer playerInfo.objectId (·.respawn playerInfo.moveInfo) else game) := by
  unfold handleRespawn updatePlayer
  by_cases connected : game.Connected
  · simp only [connected, not_true, if_false, if_true]
    cases game.lookup_cases playerInfo.objectId with
    | missing found unaddressed => simp only [found, unaddressed]
    | invalid pointer found destroyed unaddressed => simp [found, unaddressed, destroyed]
    | valid id player found isValid object deref target =>
      simp only [found, target, isValid, not_true, if_false, deref]
      rfl
  · simp [connected]

/-- An entry that `IsValid` rejects is followed all the same. -/
theorem handleMove_eq (game : GameInstance) (movePkt : SMove) :
    game.handleMove movePkt =
      if game.Connected ∧ game.engine.world then
        match game.players.lookup movePkt.playerInfo.objectId with
        | none => .ok game
        | some findActor =>
          if game.engine.IsValid findActor then
            .ok (game.updatePlayer movePkt.playerInfo.objectId (·.move movePkt.playerInfo.moveInfo))
          else .error (.actor findActor)
      else .ok game := by
  unfold handleMove updatePlayer
  by_cases connected : game.Connected
  · by_cases world : game.engine.world = true
    · simp only [connected, world, not_true, if_false, and_self, if_true]
      cases game.lookup_cases movePkt.playerInfo.objectId with
      | missing found unaddressed => simp only [found]
      | invalid pointer found destroyed unaddressed =>
        simp only [found, destroyed, if_false, Engine.deref_invalid destroyed]
        rfl
      | valid id player found isValid object deref target =>
        simp only [found, target, isValid, if_true, deref, bind, Except.bind, modifyActor, Engine.modifyActor]
        by_cases mine : player.isMyPlayer = true
        · rw [if_pos mine, ObjectStore.modify_eq_self object (by rw [AS1Player.move, if_pos mine])]
          rfl
        · have moved : player.setDestInfo movePkt.playerInfo.moveInfo =
              player.move movePkt.playerInfo.moveInfo := by rw [AS1Player.move, if_neg mine]
          rw [if_neg mine, ObjectStore.modify_congr (g := (·.move movePkt.playerInfo.moveInfo)) object moved]
          rfl
    · simp [connected, world]
  · simp [connected]

theorem spawnResult_actors (engine : Engine) : engine.spawnResult.2.actors = engine.actors := by
  rw [Engine.spawnResult]
  split <;> rfl

theorem spawnBullet_actors (engine : Engine) (bulletClass : BulletClass) (bullet : Bullet) :
    (spawnBullet engine bulletClass bullet).actors = engine.actors := by
  have kept := spawnResult_actors engine
  rw [spawnBullet]
  cases outcome : engine.spawnResult with
  | mk success spawned =>
    rw [outcome] at kept
    cases success with
    | false => exact kept
    | true => exact (apply_ite Engine.actors _ _ _).trans ((ite_self _).trans kept)

/-- Firing reaches no field but the engine, and no actor in it. -/
theorem handleFire_ok (game : GameInstance) (firePkt : SFire) :
    ∃ engine, engine.actors = game.engine.actors ∧ game.handleFire firePkt = .ok { game with engine } := by
  rw [handleFire]
  split
  · cases game.lookup_cases firePkt.objectId with
    | missing found unaddressed => exact ⟨game.engine, rfl, by simp only [found]⟩
    | invalid pointer found destroyed unaddressed =>
      exact ⟨game.engine, rfl, by simp only [found, destroyed, not_false_eq_true, if_true]⟩
    | valid id player found isValid object deref target =>
      simp only [found, isValid, not_true, if_false, deref]
      exact ⟨_, spawnBullet_actors _ _ _, rfl⟩
  · exact ⟨game.engine, rfl, rfl⟩

theorem handlePlayerState_eq (game : GameInstance) (objectId : UInt64) (state : MatchPlayerState) :
    game.handlePlayerState objectId state = .ok (
      if objectId ∈ game.matchPlayerState then
        let stored := { game with matchPlayerState := game.matchPlayerState.insert objectId state }
        match game.addressed objectId with
        | none => stored
        | some id => (stored.updateMatchState id state).broadcast
          (.onMatchPlayerScoreUpdated objectId.toInt64 state.killCount.toInt32 state.deathCount.toInt32)
      else game) := by
  unfold handlePlayerState
  cases known : game.matchPlayerState.lookup objectId with
  | none => simp only [AList.lookup_eq_none.mp known, if_false]
  | some earlier =>
    have member : objectId ∈ game.matchPlayerState := AList.lookup_isSome.mp (by rw [known]; rfl)
    simp only [member, if_true]
    cases game.lookup_cases objectId with
    | missing found unaddressed => simp only [found, unaddressed]
    | invalid pointer found destroyed unaddressed => simp [found, unaddressed, destroyed]
    | valid id player found isValid object deref target =>
      simp only [found, target, isValid, not_true, if_false, deref]
      rfl

theorem actorNickname_ok (game : GameInstance) (senderId : UInt64) :
    ∃ nickname, game.actorNickname senderId = .ok nickname := by
  rw [actorNickname]
  cases game.lookup_cases senderId with
  | missing found unaddressed => exact ⟨[], by simp only [found]⟩
  | invalid pointer found destroyed unaddressed => exact ⟨[], by simp only [found, destroyed, if_false]⟩
  | valid id player found isValid object deref target =>
    exact ⟨player.nickname, by simp only [found, isValid, if_true, deref]; rfl⟩

theorem chatNickname_ok (game : GameInstance) (senderId : UInt64) :
    ∃ nickname, game.chatNickname senderId = .ok nickname := by
  obtain ⟨nickname, named⟩ := game.actorNickname_ok senderId
  rw [chatNickname]
  rw [named]
  dsimp only
  by_cases unnamed : (if senderId = game.localObjectId then game.localNickname else []).isEmpty = true
  · rw [if_pos unnamed]
    exact ⟨_, rfl⟩
  · rw [if_neg unnamed]
    exact ⟨_, rfl⟩

theorem handleChat_ok [TextDecoder] (game : GameInstance) (pkt : SChat) :
    ∃ formatted, game.handleChat pkt = .ok (game.broadcast (.onChatReceived formatted)) := by
  obtain ⟨nickname, named⟩ := game.chatNickname_ok pkt.playerId
  exact ⟨_, by rw [handleChat, named]; rfl⟩

/-! ### What spawning reaches -/

/-- Another state with the same connection, room and match. -/
def Respawned (game next : GameInstance) : Prop :=
  ∃ engine broadcasts myPlayer players, next = { game with engine, broadcasts, myPlayer, players }

theorem Respawned.refl (game : GameInstance) : game.Respawned game :=
  ⟨game.engine, game.broadcasts, game.myPlayer, game.players, rfl⟩

theorem Respawned.trans {last : GameInstance} (first : game.Respawned next) (second : next.Respawned last) :
    game.Respawned last := by
  obtain ⟨_, _, _, _, rfl⟩ := first
  obtain ⟨engine, broadcasts, myPlayer, players, rfl⟩ := second
  exact ⟨engine, broadcasts, myPlayer, players, rfl⟩

theorem respawned_place (game : GameInstance) (playerInfo : PlayerInfo) (id : ActorId) (nickname : FString) :
    game.Respawned (game.place playerInfo id nickname) := by
  unfold place
  dsimp only
  split <;> exact ⟨_, _, _, _, rfl⟩

/-- The actor that `HandleSpawn` puts in place for a player, if any. -/
def spawnedActor (game : GameInstance) (playerInfo : PlayerInfo) : ActorPtr :=
  if ¬ game.Connected then none
  else if game.localObjectId = playerInfo.objectId then game.engine.playerController.join
  else (game.engine.spawnPlayer game.otherPlayerClass playerInfo.moveInfo.location).1

theorem spawnedActor_mine {playerInfo : PlayerInfo} (connected : game.Connected)
    (mine : game.localObjectId = playerInfo.objectId) :
    game.spawnedActor playerInfo = game.engine.playerController.join := by
  rw [spawnedActor, if_neg (not_not_intro connected), if_pos mine]

theorem spawnedActor_other {playerInfo : PlayerInfo} (connected : game.Connected)
    (other : game.localObjectId ≠ playerInfo.objectId) :
    game.spawnedActor playerInfo =
      (game.engine.spawnPlayer game.otherPlayerClass playerInfo.moveInfo.location).1 := by
  rw [spawnedActor, if_neg (not_not_intro connected), if_neg other]

/-- `SpawnActor` succeeds with an identity of its own, or not at all. -/
theorem spawnPlayer_cases (engine : Engine) (playerClass : Option AS1Player) (location : FVector) :
    (∃ spawnResults, engine.spawnPlayer playerClass location = (none, { engine with spawnResults }) ∧
        (playerClass.isSome → false ∈ engine.spawnResults)) ∨
      ∃ player spawnResults, spawnResults ⊆ engine.spawnResults ∧
        engine.spawnPlayer playerClass location = (some engine.actors.next,
          { engine with actors := engine.actors.allocate player, spawnResults }) := by
  cases playerClass with
  | none => exact .inl ⟨engine.spawnResults, rfl, fun present => absurd present Bool.false_ne_true⟩
  | some player =>
    cases results : engine.spawnResults with
    | nil =>
      refine .inr ⟨{ player with location }, [], List.nil_subset _, ?_⟩
      simp only [Engine.spawnPlayer, Engine.spawnResult, results]
    | cons result rest =>
      cases result with
      | false =>
        refine .inl ⟨rest, ?_, fun _ => List.mem_cons_self⟩
        simp only [Engine.spawnPlayer, Engine.spawnResult, results]
      | true =>
        refine .inr ⟨{ player with location }, rest, List.subset_cons_self _ _, ?_⟩
        simp only [Engine.spawnPlayer, Engine.spawnResult, results]

variable [TextDecoder]

/-- The ways through `HandleSpawn`. -/
inductive Spawning (game : GameInstance) (playerInfo : PlayerInfo) : GameInstance → Prop
  | nobody (spawnResults : List Bool) (unplaced : game.spawnedActor playerInfo = none) :
    Spawning game playerInfo { game with engine := { game.engine with spawnResults } }
  | pawn (pawn : ActorId) (mine : game.localObjectId = playerInfo.objectId)
      (possessed : game.engine.playerController = some (some pawn)) (existing : pawn < game.engine.actors.next)
      (placed : game.spawnedActor playerInfo = some pawn) :
    Spawning game playerInfo { game.place playerInfo pawn game.localNickname with myPlayer := some pawn }
  | actor (player : AS1Player) (spawnResults : List Bool) (other : game.localObjectId ≠ playerInfo.objectId)
      (fewer : spawnResults ⊆ game.engine.spawnResults)
      (placed : game.spawnedActor playerInfo = some game.engine.actors.next) :
    Spawning game playerInfo (GameInstance.place
      { game with engine := { game.engine with actors := game.engine.actors.allocate player, spawnResults } }
      playerInfo game.engine.actors.next (tchar playerInfo.nickname))

theorem spawning_of_handleSpawn {playerInfo : PlayerInfo} (taken : game.handleSpawn playerInfo = .ok next) :
    game.Spawning playerInfo next := by
  rw [handleSpawn] at taken
  split at taken
  · rename_i offline
    obtain rfl := Except.ok.inj taken
    exact .nobody game.engine.spawnResults (if_pos offline)
  · rename_i online
    split at taken
    · rename_i mine
      have spawns := spawnedActor_mine (not_not.mp online) mine
      split at taken
      · contradiction
      · rename_i unpossessed
        obtain rfl := Except.ok.inj taken
        exact .nobody game.engine.spawnResults (spawns.trans (congrArg Option.join unpossessed))
      · rename_i pawn possessed
        obtain ⟨⟨id, player⟩, reached, placed⟩ := bind_ok taken
        obtain ⟨rfl, object⟩ := Engine.deref_ok reached
        obtain rfl := Except.ok.inj placed
        rw [possessed] at spawns
        exact .pawn pawn mine possessed (ObjectStore.lt_next object) spawns
    · rename_i other
      have spawns := spawnedActor_other (not_not.mp online) other
      split at taken
      · contradiction
      · obtain ⟨spawnResults, failed, _⟩ | ⟨player, spawnResults, fewer, spawned⟩ :=
          spawnPlayer_cases game.engine game.otherPlayerClass playerInfo.moveInfo.location
        · rw [failed] at taken spawns
          obtain rfl := Except.ok.inj taken
          exact .nobody spawnResults spawns
        · rw [spawned] at taken spawns
          obtain rfl := Except.ok.inj taken
          exact .actor player spawnResults other fewer spawns

theorem respawned_handleSpawn {playerInfo : PlayerInfo} (taken : game.handleSpawn playerInfo = .ok next) :
    game.Respawned next := by
  cases spawning_of_handleSpawn taken with
  | nobody spawnResults unplaced => exact ⟨_, _, _, _, rfl⟩
  | pawn pawn mine possessed existing placed =>
    exact (respawned_place game playerInfo pawn game.localNickname).trans ⟨_, _, _, _, rfl⟩
  | actor player spawnResults other fewer placed =>
    have first : game.Respawned
        { game with engine := { game.engine with actors := game.engine.actors.allocate player, spawnResults } } :=
      ⟨_, _, _, _, rfl⟩
    exact first.trans (respawned_place _ playerInfo _ _)

theorem respawned_foldlM {infos : List MatchPlayerInfo}
    (taken : infos.foldlM (fun game info => game.handleSpawn info.playerInfo) game = .ok next) :
    game.Respawned next := by
  induction infos generalizing game with
  | nil =>
    obtain rfl := Except.ok.inj taken
    exact .refl game
  | cons info infos ih =>
    obtain ⟨middle, spawned, later⟩ := foldlM_cons_ok taken
    exact (respawned_handleSpawn spawned).trans (ih later)

omit [TextDecoder] in
theorem sendMacro_ok [ProtoMessage M] {pkt : M} {pktId : UInt16}
    (sent : game.sendMacro pkt pktId = .ok next) :
    ∃ sendBuffer, next = { game with toUS1GameInstance := game.toUS1GameInstance.sendPacket sendBuffer } := by
  unfold sendMacro at sent
  split at sent
  · contradiction
  · unfold US1GameInstance.send at sent
    cases built : makeSendBuffer pkt pktId with
    | none => simp [built] at sent
    | some sendBuffer =>
      simp only [built, Option.pure_def, Option.bind_eq_bind, Option.bind_some, Except.ok.injEq] at sent
      exact ⟨sendBuffer, sent.symm⟩

omit [TextDecoder] in
/-- A whole frame with the message at the end of the send queue, nothing else. -/
def Queues [ProtoMessage M] (game : GameInstance) (pkt : M) (pktId : UInt16) (next : GameInstance) : Prop :=
  ∃ sendBuffer, sendBuffer.Whole pkt pktId ∧ next = { game with
    gameServerSession := game.gameServerSession.map (·.sendPacket sendBuffer) }

omit [TextDecoder] in
theorem sendMacro_queues [ProtoMessage M] (pkt : M) (hosts : game.engine.Hosts)
    (connected : game.Connected) (fits : byteSizeLong pkt ≤ maxDataSize) (pktId : UInt16) :
    ∃ next, game.sendMacro pkt pktId = .ok next ∧ game.Queues pkt pktId next := by
  refine ⟨_, ?_, _, frameOf_whole pkt pktId fits, rfl⟩
  rw [sendMacro, if_neg (not_not_intro hosts), US1GameInstance.send, makeSendBuffer_fits pkt pktId fits]
  simp only [Option.bind_eq_bind, Option.bind_some, Option.pure_def, US1GameInstance.sendPacket,
    if_pos connected]

/-- The roster as `PrepareMatch` finds it when the loop starts. -/
def withoutActors (game : GameInstance) : GameInstance := { game with players := ∅, myPlayer := none }

theorem prepareMatch_ok (taken : game.prepareMatch = .ok next) :
    ∃ spawned sendBuffer,
      game.matchPlayerInfo.foldlM (fun game info => game.handleSpawn info.playerInfo)
        game.withoutActors = .ok spawned ∧
      next = { spawned with toUS1GameInstance := spawned.toUS1GameInstance.sendPacket sendBuffer } := by
  rw [prepareMatch] at taken
  obtain ⟨spawned, loop, sent⟩ := bind_ok taken
  obtain ⟨sendBuffer, queued⟩ := sendMacro_ok sent
  exact ⟨spawned, sendBuffer, loop, queued⟩

/-! ### One step -/

/-- What a handler does with the game instance once it has found it. -/
def received (game : GameInstance) : ServerMessage → Except AccessFault GameInstance
  | .login pkt => .ok (game.handleLogin pkt)
  | .register pkt => .ok (game.handleRegister pkt)
  | .roomList pkt => .ok (game.handleRoomList pkt)
  | .createRoom pkt => .ok ((setRoomHost game pkt.success pkt.roomInfo).handleCreateRoom pkt)
  | .enterRoom pkt => .ok ((setRoomHost game pkt.success pkt.roomInfo).handleEnterRoom pkt)
  | .leaveRoom pkt =>
    .ok ((if pkt.success then { game with bIsRoomHost := false } else game).handleLeaveRoom pkt)
  | .roomState pkt => .ok ((setRoomHost game true pkt.roomInfo).handleRoomState pkt)
  | .matchPrepare pkt => .ok ((game.handlePrepareMatch pkt).openLevel "GameMap")
  | .matchStart pkt => .ok (game.handleMatchStart pkt)
  | .matchState pkt => .ok (game.handleMatchState pkt)
  | .playerState pkt => game.handlePlayerState pkt.objectId pkt.playerState
  | .playerRespawn pkt => do
    let game ← game.handleRespawn pkt.playerInfo
    game.handlePlayerState pkt.playerInfo.objectId pkt.playerState
  | .move pkt => game.handleMove pkt
  | .fire pkt => game.handleFire pkt
  | .playerDespawn pkt => game.handleDespawn pkt.objectId
  | .matchEnd pkt => .ok (game.handleMatchEnd pkt)
  | .returnToRoom pkt => .ok (game.handleReturnRoom pkt)
  | .chat pkt => game.handleChat pkt

omit [TextDecoder] in
theorem withGameInstance_hosts (hosts : game.engine.Hosts) (missing : Bool)
    (body : Except AccessFault GameInstance) :
    withGameInstance game missing body = (true, ·) <$> body := by
  simp only [withGameInstance, hosts.1, hosts.2, not_true, if_false]

omit [TextDecoder] in
theorem withGameInstance_absent (absent : ¬ game.engine.Hosts) (missing : Bool)
    (body : Except AccessFault GameInstance) :
    ∃ handled, withGameInstance game missing body = .ok (handled, game) := by
  rw [withGameInstance]
  by_cases gWorld : game.engine.gWorld = true
  · by_cases gameInstance : game.engine.gameInstance = true
    · exact absurd ⟨gWorld, gameInstance⟩ absent
    · exact ⟨missing, by rw [if_neg (not_not_intro gWorld), if_pos gameInstance]⟩
  · exact ⟨false, if_pos gWorld⟩

omit [TextDecoder] in
theorem updatePlayer_shape (game : GameInstance) (objectId : UInt64) (update : AS1Player → AS1Player) :
    ∃ engine, game.updatePlayer objectId update = { game with engine } := by
  unfold updatePlayer
  split <;> exact ⟨_, rfl⟩

/-- The state after `HandleRespawn`, which cannot fail. -/
def respawned (game : GameInstance) (playerInfo : PlayerInfo) : GameInstance :=
  if game.Connected then game.updatePlayer playerInfo.objectId (·.respawn playerInfo.moveInfo) else game

theorem received_respawn (game : GameInstance) (pkt : SPlayerRespawn) :
    game.received (.playerRespawn pkt) = (game.respawned pkt.playerInfo).handlePlayerState
      pkt.playerInfo.objectId pkt.playerState := by
  simp only [received, handleRespawn_eq]
  rfl

/-- Another state with the same roster, room, match and local player; states are
kept for the same players. -/
def Presented (game next : GameInstance) : Prop :=
  ∃ engine broadcasts lobbyRooms matchPlayerState,
    (∀ objectId, objectId ∈ matchPlayerState ↔ objectId ∈ game.matchPlayerState) ∧
    next = { game with engine, broadcasts, lobbyRooms, matchPlayerState }

omit [TextDecoder] in
theorem presented_updatePlayer (game : GameInstance) (objectId : UInt64)
    (update : AS1Player → AS1Player) : game.Presented (game.updatePlayer objectId update) := by
  obtain ⟨engine, updated⟩ := game.updatePlayer_shape objectId update
  exact ⟨engine, _, _, _, fun _ => Iff.rfl, updated⟩

omit [TextDecoder] in
theorem Presented.refl (game : GameInstance) : game.Presented game := ⟨_, _, _, _, fun _ => Iff.rfl, rfl⟩

omit [TextDecoder] in
theorem Presented.trans {last : GameInstance} (first : game.Presented next) (second : next.Presented last) :
    game.Presented last := by
  obtain ⟨_, _, _, _, keys, rfl⟩ := first
  obtain ⟨engine, broadcasts, lobbyRooms, matchPlayerState, keys', rfl⟩ := second
  exact ⟨engine, broadcasts, lobbyRooms, matchPlayerState, fun id => (keys' id).trans (keys id), rfl⟩

omit [TextDecoder] in
theorem presented_handlePlayerState {state : MatchPlayerState}
    (taken : game.handlePlayerState objectId state = .ok next) : game.Presented next := by
  rw [handlePlayerState_eq, Except.ok.injEq] at taken
  subst taken
  split
  · rename_i listed
    have keys := EntryMap.mem_insert_of_mem listed state
    dsimp only
    split <;> exact ⟨_, _, _, _, keys, rfl⟩
  · exact .refl game

/-- The messages about single players, and those that only tell the user something. -/
def Presents : ServerMessage → Prop
  | .register _ | .roomList _ | .playerState _ | .playerRespawn _ | .move _ | .fire _
  | .playerDespawn _ | .chat _ => True
  | _ => False

theorem presented_received {msg : ServerMessage} (taken : game.received msg = .ok next)
    (presents : Presents msg) : game.Presented next := by
  cases msg with
  | register pkt | roomList pkt =>
    obtain rfl := Except.ok.inj taken
    exact ⟨_, _, _, _, fun _ => Iff.rfl, rfl⟩
  | playerState pkt => exact presented_handlePlayerState taken
  | playerRespawn pkt =>
    rw [received_respawn] at taken
    have first : game.Presented (game.respawned pkt.playerInfo) := by
      rw [respawned]
      split
      · exact presented_updatePlayer _ _ _
      · exact .refl game
    exact first.trans (presented_handlePlayerState taken)
  | move pkt =>
    rw [received, handleMove_eq] at taken
    split at taken
    · split at taken
      · obtain rfl := Except.ok.inj taken
        exact .refl game
      · split at taken
        · obtain rfl := Except.ok.inj taken
          exact presented_updatePlayer _ _ _
        · contradiction
    · obtain rfl := Except.ok.inj taken
      exact .refl game
  | fire pkt =>
    obtain ⟨engine, _, fired⟩ := game.handleFire_ok pkt
    obtain rfl := Except.ok.inj (fired.symm.trans taken)
    exact ⟨_, _, _, _, fun _ => Iff.rfl, rfl⟩
  | playerDespawn pkt =>
    rw [received, handleDespawn_eq, Except.ok.injEq] at taken
    subst taken
    split
    · exact presented_updatePlayer _ _ _
    · exact .refl game
  | chat pkt =>
    obtain ⟨formatted, chatted⟩ := game.handleChat_ok pkt
    obtain rfl := Except.ok.inj (chatted.symm.trans taken)
    exact ⟨_, _, _, _, fun _ => Iff.rfl, rfl⟩
  | _ => exact presents.elim

/-- Another state with the same match; the room and the host flag may differ. -/
def Housed (game next : GameInstance) : Prop :=
  ∃ broadcasts currentRoom bIsRoomHost, next = { game with broadcasts, currentRoom, bIsRoomHost }

omit [TextDecoder] in
theorem Housed.trans {last : GameInstance} (first : game.Housed next) (second : next.Housed last) :
    game.Housed last := by
  obtain ⟨_, _, _, rfl⟩ := first
  obtain ⟨broadcasts, currentRoom, bIsRoomHost, rfl⟩ := second
  exact ⟨broadcasts, currentRoom, bIsRoomHost, rfl⟩

omit [TextDecoder] in
theorem housed_setRoomHost (game : GameInstance) (success : Bool) (roomInfo : Option RoomInfo) :
    game.Housed (setRoomHost game success roomInfo) := by
  unfold setRoomHost
  split <;> exact ⟨_, _, _, rfl⟩

theorem housed_handleRoomResult (game : GameInstance) (success : Bool) (roomInfo : Option RoomInfo)
    (result : Bool → Broadcast) : game.Housed (game.handleRoomResult success roomInfo result) := by
  unfold handleRoomResult
  split <;> exact ⟨_, _, _, rfl⟩

/-- The messages about one's own room, as long as it is not left for a match. -/
def Houses : ServerMessage → Prop
  | .createRoom _ | .enterRoom _ | .leaveRoom _ | .roomState _ => True
  | _ => False

theorem housed_received {msg : ServerMessage} (taken : game.received msg = .ok next) (houses : Houses msg) :
    game.Housed next := by
  cases msg with
  | createRoom pkt | enterRoom pkt =>
    obtain rfl := Except.ok.inj taken
    exact (housed_setRoomHost game _ _).trans (housed_handleRoomResult _ _ _ _)
  | roomState pkt =>
    obtain rfl := Except.ok.inj taken
    apply (housed_setRoomHost game true pkt.roomInfo).trans
    rw [handleRoomState]
    split <;> exact ⟨_, _, _, rfl⟩
  | leaveRoom pkt =>
    obtain rfl := Except.ok.inj taken
    rw [handleLeaveRoom]
    cases pkt.success <;> exact ⟨_, _, _, rfl⟩
  | _ => exact houses.elim

theorem handleMessage_hosts (hosts : game.engine.Hosts) (msg : ServerMessage) :
    handleMessage game msg = (true, ·) <$> game.received msg := by
  cases msg <;> exact withGameInstance_hosts hosts _ _

theorem handleMessage_absent (absent : ¬ game.engine.Hosts) (msg : ServerMessage) :
    ∃ handled, handleMessage game msg = .ok (handled, game) := by
  cases msg <;> exact withGameInstance_absent absent _ _

theorem perform_packet (hosts : game.engine.Hosts) (msg : ServerMessage) :
    game.perform (.packet msg) = game.received msg := by
  rw [perform, handleMessage_hosts hosts]
  cases game.received msg <;> rfl

theorem perform_lost (absent : ¬ game.engine.Hosts) (msg : ServerMessage) :
    game.perform (.packet msg) = .ok game := by
  obtain ⟨handled, lost⟩ := handleMessage_absent absent msg
  rw [perform, lost]
  rfl

theorem step_packet (hosts : game.engine.Hosts) {msg : ServerMessage} :
    game.Step (.packet msg) next ↔ game.received msg = .ok next := by
  rw [Step, perform_packet hosts]

theorem step_lost (absent : ¬ game.engine.Hosts) {msg : ServerMessage} :
    game.Step (.packet msg) next ↔ next = game := by
  rw [Step, perform_lost absent, Except.ok.injEq, eq_comm]

end GameInstance

namespace Play
variable [TextDecoder] {play next : Play} {action : GameInstance.Action}

/-- The effects of calls that return. Whatever holds of every state reached is
shown effect by effect. -/
inductive Effect (play : Play) : GameInstance.Action → Play → Prop
  | received (msg : ServerMessage) (game : GameInstance) (hosts : play.state.engine.Hosts)
      (taken : play.state.received msg = .ok game) :
      Effect play (.packet msg) { state := game, history := .packet msg :: play.history }
  | lost (msg : ServerMessage) (absent : ¬ play.state.engine.Hosts) : Effect play (.packet msg) play
  | prepared (game : GameInstance) (taken : play.state.prepareMatch = .ok game) :
      Effect play .prepareMatch { state := game, history := .prepareMatch :: play.history }
  | engine (engine : Engine) :
      Effect play (.engine engine)
        { state := { play.state with engine }, history := .engine engine :: play.history }
  | connection (connection : US1GameInstance) :
      Effect play (.connection connection)
        { state := { play.state with toUS1GameInstance := connection }
          history := .connection connection :: play.history }

theorem step_effect (taken : Step play action next) : play.Effect action next := by
  obtain ⟨state, history⟩ := next
  obtain ⟨taken, ⟨handled, grown⟩ | ⟨ignored, same⟩⟩ := taken
  · dsimp only at grown
    subst grown
    cases action with
    | packet msg => exact .received msg state handled ((GameInstance.step_packet handled).mp taken)
    | prepareMatch => exact .prepared state taken
    | engine engine =>
      obtain rfl := Except.ok.inj taken
      exact .engine engine
    | connection connection =>
      obtain rfl := Except.ok.inj taken
      exact .connection connection
  · dsimp only at same
    subst same
    cases action with
    | packet msg =>
      obtain rfl := (GameInstance.step_lost ignored).mp taken
      exact .lost msg ignored
    | prepareMatch | engine | connection => exact absurd trivial ignored

end Play
end ArenaClient
