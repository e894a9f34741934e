import ArenaClient.Base.LastWrite
import ArenaClient.Game.ActorAccess

/-! Death, return and movement of the players of a match. Each packet reaches
the player it names and nobody else, and what a player is in the end was said by
the last packet that had a say in it. -/
namespace ArenaClient
open Protocol ServerPacketHandler

inductive LifePacket where
  | despawn (pkt : SPlayerDespawn)
  | respawn (pkt : SPlayerRespawn)
  | move (pkt : SMove)
  deriving DecidableEq, Repr

namespace LifePacket

def message : LifePacket → ServerMessage
  | .despawn pkt => .playerDespawn pkt
  | .respawn pkt => .playerRespawn pkt
  | .move pkt => .move pkt

def objectId : LifePacket → UInt64
  | .despawn pkt => pkt.objectId
  | .respawn pkt => pkt.playerInfo.objectId
  | .move pkt => pkt.playerInfo.objectId

/-- Whether the packet switches a player on or off. -/
def enables : LifePacket → Option Bool
  | .despawn _ => some false
  | .respawn _ => some true
  | .move _ => none

/-- Where the packet sends a player; the local player goes its own way. -/
def destination (isMyPlayer : Bool) : LifePacket → Option MoveInfo
  | .despawn _ => none
  | .respawn pkt => some pkt.playerInfo.moveInfo
  | .move pkt => if isMyPlayer then none else some pkt.playerInfo.moveInfo

end LifePacket

/-! ### What a packet does to a player -/

namespace AS1Player
variable (player : AS1Player)

/-- All that despawning switches off and respawning on. A player has a movement
mode if it has the component, and input if it is controlled from here. -/
structure InSetting (player : AS1Player) (enabled : Bool) : Prop where
  hidden : player.hiddenInGame = !enabled
  collision : player.enableCollision = enabled
  tick : player.tickEnabled = enabled
  movement : ∀ movement, player.characterMovement = some movement →
    movement.movementMode = if enabled then .walking else .none
  input : player.isMyPlayer → player.playerController → player.inputEnabled = enabled

theorem inSetting_despawn : player.despawn.InSetting false := by
  rw [despawn, setInput_eq]
  refine ⟨rfl, rfl, rfl, ?_, fun mine controlled => if_pos ⟨mine, controlled⟩⟩
  intro movement has
  obtain ⟨earlier, _, rfl⟩ := Option.map_eq_some_iff.mp has
  rfl

theorem inSetting_respawn (info : MoveInfo) : (player.respawn info).InSetting true := by
  rw [respawn, setInput_eq, setDestInfo, setMoveState_eq]
  refine ⟨rfl, rfl, rfl, ?_, fun mine controlled => if_pos ⟨mine, controlled⟩⟩
  intro movement has
  obtain ⟨earlier, _, rfl⟩ := Option.map_eq_some_iff.mp has
  rfl

variable {player}

theorem InSetting.move {enabled : Bool} (setting : player.InSetting enabled) (info : MoveInfo) :
    (player.move info).InSetting enabled := by
  rw [AS1Player.move]
  split
  · exact setting
  · rw [setDestInfo, setMoveState_eq]
    exact ⟨setting.hidden, setting.collision, setting.tick, setting.movement, setting.input⟩

variable (player)

theorem destInfo_despawn : player.despawn.destInfo = player.destInfo := by
  rw [despawn, setInput_eq]

theorem destInfo_respawn (info : MoveInfo) : (player.respawn info).destInfo = info := by
  rw [respawn, setInput_eq, setDestInfo, setMoveState_eq]

theorem destInfo_move (info : MoveInfo) :
    (player.move info).destInfo = if player.isMyPlayer then player.destInfo else info := by
  rw [move]
  split
  · rfl
  · rw [setDestInfo, setMoveState_eq]

/-- What no packet changes: whose actor it is, if it is controlled from here, if
it has a movement component. -/
def kind : Bool × Bool × Bool :=
  (player.isMyPlayer, player.playerController, player.characterMovement.isSome)

theorem kind_despawn : player.despawn.kind = player.kind := by
  rw [despawn, setInput_eq, kind, Option.isSome_map]
  rfl

theorem kind_respawn (info : MoveInfo) : (player.respawn info).kind = player.kind := by
  rw [respawn, setInput_eq, setDestInfo, setMoveState_eq, setMoveInfo, kind, Option.isSome_map]
  rfl

theorem kind_move (info : MoveInfo) : (player.move info).kind = player.kind := by
  rw [move]
  split
  · rfl
  · rw [setDestInfo, setMoveState_eq]
    rfl

end AS1Player

/-- What the client keeps of one player: the actor, and the state if it is listed. -/
structure PlayerRecord where
  actor : AS1Player
  state : Option MatchPlayerState
  deriving DecidableEq, Repr

namespace PlayerRecord

def update (record : PlayerRecord) (change : AS1Player → AS1Player) : PlayerRecord :=
  { record with actor := change record.actor }

def receiveState (record : PlayerRecord) (state : MatchPlayerState) : PlayerRecord :=
  match record.state with
  | none => record
  | some _ => { actor := record.actor.updateMatchState state, state := some state }

def receive (record : PlayerRecord) : LifePacket → PlayerRecord
  | .despawn _ => record.update (·.despawn)
  | .respawn pkt => (record.update (·.respawn pkt.playerInfo.moveInfo)).receiveState pkt.playerState
  | .move pkt => record.update (·.move pkt.playerInfo.moveInfo)

variable (record : PlayerRecord)

theorem actor_receiveState (state : MatchPlayerState) :
    ∃ playerState, (record.receiveState state).actor = { record.actor with playerState } := by
  rw [receiveState]
  split <;> exact ⟨_, rfl⟩

theorem kind_receive (packet : LifePacket) : (record.receive packet).actor.kind = record.actor.kind := by
  cases packet with
  | despawn pkt => exact record.actor.kind_despawn
  | respawn pkt =>
    obtain ⟨playerState, same⟩ :=
      (record.update (·.respawn pkt.playerInfo.moveInfo)).actor_receiveState pkt.playerState
    rw [receive, same]
    exact record.actor.kind_respawn pkt.playerInfo.moveInfo
  | move pkt => exact record.actor.kind_move pkt.playerInfo.moveInfo

theorem settingField : LastWrite.Field receive (fun _ => True) LifePacket.enables
    fun record enabled => record.actor.InSetting enabled where
  keeps _ _ _ := trivial
  writes record packet enabled _ switched := by
    cases packet with
    | despawn pkt =>
      obtain rfl := Option.some.inj switched
      exact record.actor.inSetting_despawn
    | respawn pkt =>
      obtain rfl := Option.some.inj switched
      obtain ⟨playerState, same⟩ :=
        (record.update (·.respawn pkt.playerInfo.moveInfo)).actor_receiveState pkt.playerState
      have setting := record.actor.inSetting_respawn pkt.playerInfo.moveInfo
      rw [receive, same]
      exact ⟨setting.hidden, setting.collision, setting.tick, setting.movement, setting.input⟩
    | move pkt => exact absurd switched.symm (Option.some_ne_none enabled)
  leaves record packet enabled _ silent setting := by
    cases packet with
    | despawn pkt => exact absurd silent (Option.some_ne_none false)
    | respawn pkt => exact absurd silent (Option.some_ne_none true)
    | move pkt => exact setting.move pkt.playerInfo.moveInfo

theorem destinationField (player : AS1Player) :
    LastWrite.Field receive (fun record => record.actor.kind = player.kind)
      (LifePacket.destination player.isMyPlayer) fun record info => record.actor.destInfo = info where
  keeps record packet same := (record.kind_receive packet).trans same
  writes record packet info same sent := by
    cases packet with
    | despawn pkt => exact absurd sent.symm (Option.some_ne_none info)
    | respawn pkt =>
      obtain rfl := Option.some.inj sent
      obtain ⟨playerState, kept⟩ :=
        (record.update (·.respawn pkt.playerInfo.moveInfo)).actor_receiveState pkt.playerState
      rw [receive, kept]
      exact record.actor.destInfo_respawn pkt.playerInfo.moveInfo
    | move pkt =>
      have mine : record.actor.isMyPlayer = player.isMyPlayer := congrArg Prod.fst same
      refine (record.actor.destInfo_move pkt.playerInfo.moveInfo).trans ?_
      rw [LifePacket.destination, ← mine] at sent
      split at sent
      · exact absurd sent.symm (Option.some_ne_none info)
      · rename_i remote
        rw [if_neg remote]
        exact Option.some.inj sent
  leaves record packet info same silent holds := by
    cases packet with
    | despawn pkt => exact record.actor.destInfo_despawn.trans holds
    | respawn pkt => exact absurd silent (Option.some_ne_none _)
    | move pkt =>
      have mine : record.actor.isMyPlayer = player.isMyPlayer := congrArg Prod.fst same
      refine (record.actor.destInfo_move pkt.playerInfo.moveInfo).trans ?_
      rw [LifePacket.destination, ← mine] at silent
      split at silent
      · rename_i stays
        rw [if_pos stays]
        exact holds
      · exact absurd silent (Option.some_ne_none _)

end PlayerRecord

/-! ### What a packet does to the match -/

namespace GameInstance
variable {game next : GameInstance}

/-- A match on screen: connected, in a world, every player with a valid actor of its own. -/
structure Populated (game : GameInstance) : Prop where
  connected : game.Connected
  hosts : game.engine.Hosts
  world : game.engine.world = true
  valid : ∀ ⦃objectId pointer⦄, game.players.lookup objectId = some pointer → game.engine.IsValid pointer
  oneToOne : EntryMap.OneToOne game.players

/-- The record of an id in `Players`. -/
def playerRecord (game : GameInstance) (objectId : UInt64) : Option PlayerRecord :=
  ((game.players.lookup objectId).join.bind game.engine.actors.object).map fun actor =>
    { actor, state := game.matchPlayerState.lookup objectId }

theorem playerRecord_unlisted (game : GameInstance) {objectId : UInt64}
    (missing : game.players.lookup objectId = none) : game.playerRecord objectId = none := by
  rw [playerRecord, missing]
  rfl

theorem playerRecord_listed (game : GameInstance) {objectId : UInt64} {id : ActorId}
    (found : game.players.lookup objectId = some (some id)) :
    game.playerRecord objectId = (game.engine.actors.object id).map fun actor =>
      { actor, state := game.matchPlayerState.lookup objectId } := by
  rw [playerRecord, found]
  rfl

/-- Nobody else has the actor, so nobody else notices. -/
theorem playerRecord_updatePlayer (populated : game.Populated) (target objectId : UInt64)
    (change : AS1Player → AS1Player) :
    (game.updatePlayer target change).playerRecord objectId =
      if target = objectId then (game.playerRecord objectId).map (·.update change)
      else game.playerRecord objectId := by
  cases game.lookup_cases target with
  | missing found unaddressed =>
    rw [updatePlayer_none unaddressed]
    split
    · rename_i same
      subst same
      rw [playerRecord_unlisted game found, Option.map_none]
    · rfl
  | invalid pointer found destroyed unaddressed => exact absurd (populated.valid found) destroyed
  | valid id player found isValid object deref addressed =>
    rw [updatePlayer_some addressed]
    split
    · rename_i same
      subst same
      rw [playerRecord_listed (game.modifyActor id change) found, playerRecord_listed game found,
        modifyActor, Engine.modifyActor, ObjectStore.object_modify, Function.update_self, object]
      rfl
    · rename_i other
      cases listed : game.players.lookup objectId with
      | none => rw [playerRecord_unlisted (game.modifyActor id change) listed, playerRecord_unlisted game listed]
      | some pointer =>
        obtain ⟨id', player', rfl, _, _⟩ := Engine.deref_valid (populated.valid listed)
        have apart : id' ≠ id := fun same => other (populated.oneToOne found (same ▸ listed))
        rw [playerRecord_listed (game.modifyActor id change) listed, playerRecord_listed game listed,
          modifyActor, Engine.modifyActor, ObjectStore.object_modify_ne apart]

theorem players_updatePlayer (game : GameInstance) (objectId : UInt64) (change : AS1Player → AS1Player) :
    (game.updatePlayer objectId change).players = game.players := by
  obtain ⟨engine, updated⟩ := game.updatePlayer_shape objectId change
  rw [updated]

theorem Populated.updatePlayer (populated : game.Populated) (objectId : UInt64)
    (change : AS1Player → AS1Player) : (game.updatePlayer objectId change).Populated := by
  rw [GameInstance.updatePlayer]
  split
  · exact populated
  · refine ⟨populated.connected, populated.hosts, populated.world, ?_, populated.oneToOne⟩
    intro other pointer found
    exact (ObjectStore.valid_modify _ _ _ _).mpr (populated.valid found)

/-! ### One packet -/

/-- A new state of a listed player. -/
def storeState (game : GameInstance) (objectId : UInt64) (state : MatchPlayerState) : GameInstance :=
  { game with matchPlayerState := game.matchPlayerState.insert objectId state }

theorem Populated.storeState (populated : game.Populated) (objectId : UInt64) (state : MatchPlayerState) :
    (game.storeState objectId state).Populated :=
  ⟨populated.connected, populated.hosts, populated.world, populated.valid, populated.oneToOne⟩

theorem playerRecord_storeState (game : GameInstance) (target objectId : UInt64) (state : MatchPlayerState) :
    (game.storeState target state).playerRecord objectId =
      if target = objectId then (game.playerRecord objectId).map fun record => { record with state := some state }
      else game.playerRecord objectId := by
  rw [playerRecord, playerRecord, storeState, EntryMap.lookup_insert_eq]
  split
  · rename_i same
    rw [if_pos same.symm, Option.map_map]
    rfl
  · rename_i other
    rw [if_neg fun swapped => other swapped.symm]

theorem handlePlayerState_listed {target : UInt64} (listed : target ∈ game.matchPlayerState)
    (state : MatchPlayerState) :
    ∃ broadcasts, game.handlePlayerState target state =
      .ok { (game.storeState target state).updatePlayer target (·.updateMatchState state) with broadcasts } := by
  rw [handlePlayerState_eq, if_pos listed, GameInstance.updatePlayer]
  have same : (game.storeState target state).addressed target = game.addressed target := rfl
  rw [same]
  cases game.addressed target with
  | none => exact ⟨_, rfl⟩
  | some id => exact ⟨_, rfl⟩

/-- The state of a player reaches the actor along with the list, or neither. -/
theorem handlePlayerState_populated (populated : game.Populated) (target : UInt64) (state : MatchPlayerState) :
    ∃ next, game.handlePlayerState target state = .ok next ∧ next.Populated ∧ next.players = game.players ∧
      ∀ objectId, next.playerRecord objectId =
        if target = objectId then (game.playerRecord objectId).map (·.receiveState state)
        else game.playerRecord objectId := by
  by_cases listed : target ∈ game.matchPlayerState
  · obtain ⟨broadcasts, handled⟩ := handlePlayerState_listed listed state
    have stored := populated.storeState target state
    have updated := stored.updatePlayer target (·.updateMatchState state)
    refine ⟨_, handled, ⟨updated.connected, updated.hosts, updated.world, updated.valid, updated.oneToOne⟩,
      players_updatePlayer _ _ _, fun objectId => ?_⟩
    refine (playerRecord_updatePlayer stored target objectId _).trans ?_
    rw [playerRecord_storeState]
    split
    · rename_i same
      subst same
      obtain ⟨earlier, known⟩ := EntryMap.mem_iff_lookup.mp listed
      rw [Option.map_map, playerRecord, known, Option.map_map, Option.map_map]
      rfl
    · rfl
  · refine ⟨game, by rw [handlePlayerState_eq, if_neg listed], populated, rfl, fun objectId => ?_⟩
    split
    · rename_i same
      subst same
      rw [playerRecord, AList.lookup_eq_none.mpr listed, Option.map_map]
      rfl
    · rfl

variable [TextDecoder]

theorem received_populated (populated : game.Populated) (packet : LifePacket) :
    ∃ next, game.received packet.message = .ok next ∧ next.Populated ∧ next.players = game.players ∧
      ∀ objectId, next.playerRecord objectId =
        if packet.objectId = objectId then (game.playerRecord objectId).map (·.receive packet)
        else game.playerRecord objectId := by
  cases packet with
  | despawn pkt =>
    refine ⟨_, (handleDespawn_eq game pkt.objectId).trans ?_, populated.updatePlayer pkt.objectId (·.despawn),
      players_updatePlayer _ _ _, fun objectId => playerRecord_updatePlayer populated pkt.objectId objectId _⟩
    rw [if_pos ⟨populated.connected, populated.world⟩]
  | move pkt =>
    refine ⟨_, (handleMove_eq game pkt).trans ?_,
      populated.updatePlayer pkt.playerInfo.objectId (·.move pkt.playerInfo.moveInfo),
      players_updatePlayer _ _ _,
      fun objectId => playerRecord_updatePlayer populated pkt.playerInfo.objectId objectId _⟩
    rw [if_pos ⟨populated.connected, populated.world⟩]
    cases found : game.players.lookup pkt.playerInfo.objectId with
    | none => rw [updatePlayer_none (by rw [addressed, found, Option.bind_none])]
    | some pointer => exact if_pos (populated.valid found)
  | respawn pkt =>
    have spawned := populated.updatePlayer pkt.playerInfo.objectId (·.respawn pkt.playerInfo.moveInfo)
    obtain ⟨next, handled, still, players, records⟩ :=
      handlePlayerState_populated spawned pkt.playerInfo.objectId pkt.playerState
    refine ⟨next, ?_, still, players.trans (players_updatePlayer _ _ _), fun objectId => ?_⟩
    · rw [LifePacket.message, received_respawn, respawned, if_pos populated.connected]
      exact handled
    · rw [records, playerRecord_updatePlayer populated, LifePacket.objectId]
      split
      · rw [Option.map_map]
        rfl
      · rfl

/-! ### Any sequence of packets -/

/-- The packets, handled one after the other. -/
def receiveAll (game : GameInstance) (packets : List LifePacket) : Except AccessFault GameInstance :=
  packets.foldlM (fun game packet => game.perform (.packet packet.message)) game

/-- The state after a packet; a fault leaves it, where there is one. -/
def lived (game : GameInstance) (packet : LifePacket) : GameInstance :=
  (game.perform (.packet packet.message)).toOption.getD game

theorem perform_populated (populated : game.Populated) (packet : LifePacket) :
    game.perform (.packet packet.message) = .ok (game.lived packet) ∧ (game.lived packet).Populated ∧
      (game.lived packet).players = game.players ∧
      ∀ objectId, (game.lived packet).playerRecord objectId =
        if packet.objectId = objectId then (game.playerRecord objectId).map (·.receive packet)
        else game.playerRecord objectId := by
  obtain ⟨next, received, rest⟩ := received_populated populated packet
  have performed := (perform_packet populated.hosts packet.message).trans received
  have same : game.lived packet = next := by rw [lived, performed]; rfl
  rw [same]
  exact ⟨performed, rest⟩

theorem lived_addressed (players : AList fun _ : UInt64 => ActorPtr) :
    LastWrite.Addressed lived (fun game => game.Populated ∧ game.players = players) LifePacket.objectId
      playerRecord fun record packet => record.map (·.receive packet) where
  keeps game packet inv := by
    obtain ⟨_, populated, same, _⟩ := perform_populated inv.1 packet
    exact ⟨populated, same.trans inv.2⟩
  acts game packet objectId inv := (perform_populated inv.1 packet).2.2.2 objectId

theorem receiveAll_populated (populated : game.Populated) (packets : List LifePacket) :
    game.receiveAll packets = .ok (packets.foldl lived game) := by
  induction packets generalizing game with
  | nil => rfl
  | cons packet packets ih =>
    obtain ⟨performed, still, _⟩ := perform_populated populated packet
    rw [receiveAll, List.foldlM_cons, performed]
    exact ih still

omit [TextDecoder] in
/-- What has become of a player whose packets these are. -/
structure Settled (packets : List LifePacket) (first last : PlayerRecord) : Prop where
  setting : ∀ enabled, LastWrite.last LifePacket.enables packets = some enabled → last.actor.InSetting enabled
  destInfo : last.actor.destInfo =
    (LastWrite.last (LifePacket.destination first.actor.isMyPlayer) packets).getD first.actor.destInfo
  kind : last.actor.kind = first.actor.kind
  untouched : packets = [] → last = first

omit [TextDecoder] in
theorem settled_receive (packets : List LifePacket) (first : PlayerRecord) :
    Settled packets first (packets.foldl PlayerRecord.receive first) where
  setting enabled decided := PlayerRecord.settingField.holds_foldl trivial packets (.inl decided)
  destInfo := by
    apply (PlayerRecord.destinationField first.actor).holds_foldl rfl packets
    cases LastWrite.last (LifePacket.destination first.actor.isMyPlayer) packets with
    | none => exact .inr ⟨rfl, rfl⟩
    | some info => exact .inl rfl
  kind := by
    induction packets generalizing first with
    | nil => rfl
    | cons packet packets ih => exact (ih (first.receive packet)).trans (first.kind_receive packet)
  untouched silent := by rw [silent, List.foldl_nil]

theorem playerRecord_lived (populated : game.Populated) (packets : List LifePacket) {objectId : UInt64}
    {first : PlayerRecord} (known : game.playerRecord objectId = some first) :
    (packets.foldl lived game).playerRecord objectId =
      some ((LastWrite.sentTo LifePacket.objectId objectId packets).foldl PlayerRecord.receive first) := by
  rw [(lived_addressed game.players).component_foldl ⟨populated, rfl⟩, known]
  exact List.foldl_hom some fun _ _ => rfl

end GameInstance

/-- Each player ends up as its own packets left it, the last of each sort
deciding, and the packets for others make no difference to it. -/
theorem last_life_packet_wins [TextDecoder] {game : GameInstance} (populated : game.Populated)
    (packets : List LifePacket) :
    ∃ final, game.receiveAll packets = .ok final ∧ final.players = game.players ∧
      ∀ objectId first, game.playerRecord objectId = some first →
        ∃ last alone, final.playerRecord objectId = some last ∧
          GameInstance.Settled (LastWrite.sentTo LifePacket.objectId objectId packets) first last ∧
          game.receiveAll (LastWrite.sentTo LifePacket.objectId objectId packets) = .ok alone ∧
          alone.playerRecord objectId = some last := by
  have kept := (GameInstance.lived_addressed game.players).inv ⟨populated, rfl⟩ packets
  refine ⟨_, GameInstance.receiveAll_populated populated packets, kept.2, fun objectId first known => ?_⟩
  refine ⟨_, _, GameInstance.playerRecord_lived populated packets known, GameInstance.settled_receive _ first,
    GameInstance.receiveAll_populated populated _, ?_⟩
  rw [GameInstance.playerRecord_lived populated _ known, LastWrite.sentTo_sentTo]

/-- The local player 7 and a remote player 8. -/
def arena : GameInstance where
  socket := some 0
  gameServerSession := some { socket := 0 }
  engine := { actors := (ObjectStore.empty.allocate { isMyPlayer := true, playerController := true }).allocate {} }
  players := AList.insert 8 (some 1) (AList.insert 7 (some 0) ∅)

theorem populated_arena : arena.Populated := by
  have players : ∀ objectId, arena.players.lookup objectId =
      if objectId = 8 then some (some 1) else if objectId = 7 then some (some 0) else none := by
    intro objectId
    rw [arena, EntryMap.lookup_insert_eq, EntryMap.lookup_insert_eq, AList.lookup_empty]
  refine ⟨by decide, by decide, rfl, ?_, ?_⟩
  · intro objectId pointer found
    rw [players] at found
    split at found
    · obtain rfl := Option.some.inj found
      decide
    · split at found
      · obtain rfl := Option.some.inj found
        decide
      · exact absurd found.symm (Option.some_ne_none pointer)
  · intro objectId other pointer found found'
    rw [players] at found found'
    split at found <;> split at found' <;> grind

/-- Both die; player 8 still slides when it is dead, and then returns elsewhere. -/
theorem life_packets_in_arena : ∃ final mine other,
    @GameInstance.receiveAll asciiDecoder arena
      [.despawn { objectId := 8 }, .move { playerInfo := { objectId := 8, moveInfo := { x := 1 } } },
        .despawn { objectId := 7 }, .respawn { playerInfo := { objectId := 8, moveInfo := { x := 2 } } }] =
      .ok final ∧
    final.playerRecord 7 = some mine ∧ mine.actor.InSetting false ∧
    final.playerRecord 8 = some other ∧ other.actor.InSetting true ∧ other.actor.destInfo = { x := 2 } := by
  let _ := asciiDecoder
  obtain ⟨final, received, _, settled⟩ := last_life_packet_wins populated_arena
    [.despawn { objectId := 8 }, .move { playerInfo := { objectId := 8, moveInfo := { x := 1 } } },
      .despawn { objectId := 7 }, .respawn { playerInfo := { objectId := 8, moveInfo := { x := 2 } } }]
  obtain ⟨mine, _, found, ends, _⟩ := settled 7 _ rfl
  obtain ⟨other, _, found', ends', _⟩ := settled 8 _ rfl
  exact ⟨final, mine, other, received, found, ends.setting false rfl, found', ends'.setting true rfl,
    ends'.destInfo⟩

end ArenaClient
