import ArenaClient.Game.Display
import ArenaClient.Game.Roster

/-! The game instance as a display: a packet moves it by the state it reports
or not at all, and `PrepareMatch` puts one actor after the other in place. -/
namespace ArenaClient
open Protocol ServerPacketHandler Transition

namespace GameInstance
variable {game next : GameInstance} {objectId : UInt64} {actor pawn : ActorId} {state : MatchPlayerState}
  {player : AS1Player}

/-! ### What a call does to the display -/

def display (game : GameInstance) : Display where
  stored := game.matchPlayerState
  players := game.players
  myPlayer := game.myPlayer
  localObjectId := game.localObjectId
  shown actor := (game.engine.actors.object actor).map (·.playerState)

theorem shown_display (game : GameInstance) (actor : ActorId) :
    game.display.shown actor = (game.engine.actors.object actor).map (·.playerState) := rfl

theorem display_modifyActor {update : AS1Player → AS1Player}
    (keeps : ∀ player, (update player).playerState = player.playerState) (actor : ActorId) :
    (game.modifyActor actor update).display = game.display := by
  refine Display.ext rfl rfl rfl rfl (funext fun other => ?_)
  by_cases same : other = actor
  · subst same
    simp only [display, modifyActor, Engine.modifyActor, ObjectStore.object_modify, Function.update_self,
      Option.map_map]
    exact Option.map_congr fun player _ => keeps player
  · simp only [display, modifyActor, Engine.modifyActor, ObjectStore.object_modify_ne same]

theorem shown_updateMatchState (game : GameInstance) (actor other : ActorId) (state : MatchPlayerState) :
    (game.updateMatchState actor state).display.shown other =
      if other = actor then (game.display.shown other).map fun _ => state.data else game.display.shown other := by
  by_cases same : other = actor
  · subst same
    rw [if_pos rfl]
    simp only [display, updateMatchState, broadcast, modifyActor, Engine.modifyActor,
      ObjectStore.object_modify, Function.update_self, Option.map_map]
    rfl
  · rw [if_neg same]
    simp only [display, updateMatchState, broadcast, modifyActor, Engine.modifyActor,
      ObjectStore.object_modify_ne same]

theorem Housed.display (housed : game.Housed next) : next.display = game.display := by
  obtain ⟨_, _, _, rfl⟩ := housed
  rfl

/-- The states that a packet brings, with the id it is for. -/
def reported : ServerMessage → Option (UInt64 × MatchPlayerState)
  | .playerState pkt => some (pkt.objectId, pkt.playerState)
  | .playerRespawn pkt => some (pkt.playerInfo.objectId, pkt.playerState)
  | _ => none

/-- Announcements, returns and logins, which say whose state is shown. -/
def Redefines : ServerMessage → Prop
  | .login _ => True
  | msg => ReplacesRoster msg

variable [TextDecoder]

omit [TextDecoder] in
/-- What spawning relies on: a connection, a world, a class that the engine is
able to spawn whenever it is asked to, and a pawn of the local controller. -/
structure CanSpawn (game : GameInstance) (pawn : ActorId) : Prop where
  connected : game.Connected
  hosts : game.engine.Hosts
  playerClass : game.otherPlayerClass.isSome
  spawns : ∀ result ∈ game.engine.spawnResults, result = true
  controller : game.engine.playerController = some (some pawn)
  valid : game.engine.IsValid (some pawn)

omit [TextDecoder] in
theorem place_eq {playerInfo : PlayerInfo} (stored : game.matchPlayerState.lookup playerInfo.objectId = some state)
    (actor : ActorId) (nickname : FString) :
    game.place playerInfo actor nickname =
      { (game.modifyActor actor fun player =>
          ((player.setNickname nickname).setMoveInfo playerInfo.moveInfo).setDestInfo
            playerInfo.moveInfo).updateMatchState actor state with
        players := game.players.insert playerInfo.objectId (some actor) } := by
  simp only [place, modifyActor, stored]
  rfl

omit [TextDecoder] in
theorem display_place {playerInfo : PlayerInfo} (object : game.engine.actors.object actor = some player)
    (stored : game.matchPlayerState.lookup playerInfo.objectId = some state) (nickname : FString) :
    (game.place playerInfo actor nickname).display =
      { game.display with
        players := game.players.insert playerInfo.objectId (some actor)
        shown := Function.update game.display.shown actor (some state.data) } := by
  rw [place_eq stored]
  refine Display.ext rfl rfl rfl rfl (funext fun other => ?_)
  apply (shown_updateMatchState _ actor other state).trans
  have kept : (game.modifyActor actor fun player =>
      ((player.setNickname nickname).setMoveInfo playerInfo.moveInfo).setDestInfo
        playerInfo.moveInfo).display = game.display :=
    display_modifyActor (fun player => ((player.setNickname nickname).setMoveInfo _).playerState_setDestInfo _)
      actor
  rw [kept]
  dsimp only
  by_cases same : other = actor
  · subst same
    have shows : game.display.shown other = some player.playerState := by
      rw [shown_display, object, Option.map_some]
    rw [if_pos rfl, shows, Option.map_some, Function.update_self]
  · rw [if_neg same, Function.update_of_ne same]

omit [TextDecoder] in
theorem CanSpawn.place {playerInfo : PlayerInfo} (can : game.CanSpawn pawn)
    (stored : game.matchPlayerState.lookup playerInfo.objectId = some state) (actor : ActorId)
    (nickname : FString) : (game.place playerInfo actor nickname).CanSpawn pawn := by
  rw [place_eq stored]
  refine ⟨can.connected, can.hosts, can.playerClass, can.spawns, can.controller, ?_⟩
  apply (ObjectStore.valid_modify _ _ _ _).mpr
  exact (ObjectStore.valid_modify _ _ _ _).mpr can.valid

omit [TextDecoder] in
theorem spawnPlayer_ok (can : game.CanSpawn pawn) (location : FVector) :
    ∃ player spawnResults, (∀ result ∈ spawnResults, result = true) ∧
      game.engine.spawnPlayer game.otherPlayerClass location = (some game.engine.actors.next,
        { game.engine with actors := game.engine.actors.allocate player, spawnResults }) := by
  obtain ⟨_, _, refused⟩ | ⟨player, spawnResults, fewer, spawned⟩ :=
    spawnPlayer_cases game.engine game.otherPlayerClass location
  · exact absurd (can.spawns false (refused can.playerClass)) Bool.false_ne_true
  · exact ⟨player, spawnResults, fun result member => can.spawns result (fewer member), spawned⟩

omit [TextDecoder] in
theorem shown_allocate (game : GameInstance) (player : AS1Player) :
    (fun actor => ((game.engine.actors.allocate player).object actor).map (·.playerState)) =
      Function.update game.display.shown game.engine.actors.next (some player.playerState) := by
  funext other
  by_cases same : other = game.engine.actors.next
  · rw [same, ObjectStore.object_allocate_self, Option.map_some, Function.update_self]
  · rw [ObjectStore.object_allocate_ne same, Function.update_of_ne same, display]

/-- The local player is the pawn. -/
theorem spawned_local {playerInfo : PlayerInfo} (can : game.CanSpawn pawn)
    (stored : game.matchPlayerState.lookup playerInfo.objectId = some state)
    (mine : game.localObjectId = playerInfo.objectId) (taken : game.handleSpawn playerInfo = .ok next) :
    next.CanSpawn pawn ∧ next.display = game.display.place playerInfo.objectId pawn state := by
  cases spawning_of_handleSpawn taken with
  | nobody spawnResults unplaced =>
    rw [spawnedActor_mine can.connected mine, can.controller] at unplaced
    contradiction
  | actor player spawnResults other fewer placed => exact absurd mine other
  | pawn pawn' mine possessed existing placed =>
    obtain rfl : pawn' = pawn := Option.some.inj (Option.some.inj (possessed.symm.trans can.controller))
    obtain ⟨player, object⟩ := ObjectStore.valid_some.mp can.valid
    constructor
    · have placed := can.place stored pawn' game.localNickname
      exact ⟨placed.connected, placed.hosts, placed.playerClass, placed.spawns, placed.controller, placed.valid⟩
    · have shows := display_place object stored game.localNickname
      refine (congrArg (fun display => { display with myPlayer := some pawn' }) shows).trans ?_
      exact Display.ext rfl rfl (if_pos mine.symm).symm rfl rfl

/-- Anybody else gets an actor that did not exist before. -/
theorem spawned_other {playerInfo : PlayerInfo} (can : game.CanSpawn pawn)
    (stored : game.matchPlayerState.lookup playerInfo.objectId = some state)
    (other : game.localObjectId ≠ playerInfo.objectId) (taken : game.handleSpawn playerInfo = .ok next) :
    next.CanSpawn pawn ∧
      next.display = game.display.place playerInfo.objectId game.engine.actors.next state := by
  cases spawning_of_handleSpawn taken with
  | nobody spawnResults unplaced =>
    obtain ⟨_, _, _, spawned⟩ := spawnPlayer_ok can playerInfo.moveInfo.location
    rw [spawnedActor_other can.connected other, spawned] at unplaced
    contradiction
  | pawn pawn mine possessed existing placed => exact absurd mine other
  | actor player spawnResults other fewer placed =>
    let actors := game.engine.actors.allocate player
    let spawner : GameInstance := { game with engine := { game.engine with actors, spawnResults } }
    constructor
    · have able : spawner.CanSpawn pawn :=
        ⟨can.connected, can.hosts, can.playerClass, fun result member => can.spawns result (fewer member),
          can.controller, ObjectStore.valid_allocate can.valid _⟩
      exact able.place stored _ _
    · have object : spawner.engine.actors.object game.engine.actors.next = some player :=
        ObjectStore.object_allocate_self _ _
      have shows := @display_place spawner _ _ _ _ object stored (tchar playerInfo.nickname)
      have grown : spawner.display.shown =
          Function.update game.display.shown game.engine.actors.next (some player.playerState) :=
        shown_allocate game player
      apply shows.trans
      refine Display.ext rfl rfl (if_neg other.symm).symm rfl ?_
      dsimp only [Display.place]
      rw [grown, Function.update_idem]

/-- `HandleSpawn` puts an actor in place. -/
theorem spawned_one {playerInfo : PlayerInfo} (can : game.CanSpawn pawn)
    (stored : game.matchPlayerState.lookup playerInfo.objectId = some state)
    (taken : game.handleSpawn playerInfo = .ok next) :
    ∃ actor, next.CanSpawn pawn ∧ next.display = game.display.place playerInfo.objectId actor state ∧
      (game.localObjectId = playerInfo.objectId ∧ actor = pawn ∨
        game.localObjectId ≠ playerInfo.objectId ∧ game.display.shown actor = none) := by
  by_cases mine : game.localObjectId = playerInfo.objectId
  · obtain ⟨able, shows⟩ := spawned_local can stored mine taken
    exact ⟨pawn, able, shows, .inl ⟨mine, rfl⟩⟩
  · obtain ⟨able, shows⟩ := spawned_other can stored mine taken
    have unused : game.display.shown game.engine.actors.next = none := by
      rw [shown_display, game.engine.actors.unused _ (Nat.le_refl _), Option.map_none]
    exact ⟨game.engine.actors.next, able, shows, .inr ⟨mine, unused⟩⟩

omit [TextDecoder] in
/-- The spawn loop, with the ids it has been through. -/
structure Spawned (pawn : ActorId) (ids : List UInt64) (game : GameInstance) : Prop where
  upToDate : game.display.UpToDate ids
  canSpawn : game.CanSpawn pawn
  pawnIsMine : ∀ objectId, game.players.lookup objectId = some (some pawn) → objectId = game.localObjectId

theorem Spawned.another {playerInfo : PlayerInfo} (spawned : Spawned pawn ids game)
    (stored : game.matchPlayerState.lookup playerInfo.objectId = some state)
    (taken : game.handleSpawn playerInfo = .ok next) : Spawned pawn (ids ++ [playerInfo.objectId]) next := by
  obtain ⟨actor, able, shows, whose⟩ := spawned_one spawned.canSpawn stored taken
  have fresh : ∀ other, game.players.lookup other = some (some actor) → other = playerInfo.objectId := by
    intro other found
    obtain ⟨mine, rfl⟩ | ⟨_, unused⟩ := whose
    · exact mine ▸ spawned.pawnIsMine other found
    · obtain ⟨id, earlier, same, _, shown⟩ := spawned.upToDate.shown other _ found
      obtain rfl := Option.some.inj same
      rw [unused] at shown
      contradiction
  refine ⟨shows ▸ spawned.upToDate.place stored fresh, able, ?_⟩
  have players : next.players = game.players.insert playerInfo.objectId (some actor) :=
    congrArg Display.players shows
  have localId : next.localObjectId = game.localObjectId := congrArg Display.localObjectId shows
  intro other found
  rw [players, EntryMap.lookup_insert_eq] at found
  rw [localId]
  split at found
  · rename_i same
    obtain rfl : actor = pawn := Option.some.inj (Option.some.inj found)
    obtain ⟨mine, _⟩ | ⟨_, unused⟩ := whose
    · exact same.trans mine.symm
    · obtain ⟨player, object⟩ := ObjectStore.valid_some.mp spawned.canSpawn.valid
      rw [shown_display, object] at unused
      contradiction
  · exact spawned.pawnIsMine other found

omit [TextDecoder] in
theorem CanSpawn.withoutActors (can : game.CanSpawn pawn) : game.withoutActors.CanSpawn pawn :=
  ⟨can.connected, can.hosts, can.playerClass, can.spawns, can.controller, can.valid⟩

end GameInstance
end ArenaClient
