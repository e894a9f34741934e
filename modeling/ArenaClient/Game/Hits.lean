import ArenaClient.Game.PlayerStates

/-! `RequestHit`, which reads `Players` backwards, and why that works: no two ids
share an actor, because the level spawns all players anew and an actor that was
not spawned is the pawn of the one local player. -/
namespace ArenaClient
open Protocol Transition

namespace GameInstance
variable (game : GameInstance)

/-- The loop of `RequestHit` over `Players`, from some entry on. -/
def sendHit (targetPlayer : ActorPtr) : List ((_ : UInt64) × ActorPtr) → Except AccessFault GameInstance
  | [] => .ok game
  | iter :: players =>
    if iter.2 ≠ targetPlayer then sendHit targetPlayer players
    else game.sendMacro ({ targetObjectId := iter.1 } : CHit) ClientPacket.hit.id

/-- `order` is the order in which the map is iterated. -/
def requestHit (order : List ((_ : UInt64) × ActorPtr)) (targetPlayer : ActorPtr) :
    Except AccessFault GameInstance :=
  if ¬ game.engine.IsValid targetPlayer ∨ ¬ game.gameServerSession.isSome then .ok game
  else game.sendHit targetPlayer order

/-- An id and the actor that was spawned or possessed for it. -/
abbrev Placement := UInt64 × ActorPtr

/-- At most one. -/
def placement (playerInfo : PlayerInfo) : List Placement :=
  match game.spawnedActor playerInfo with
  | none => []
  | some actor => [(playerInfo.objectId, some actor)]

variable [TextDecoder]

/-- What the loop of `PrepareMatch` puts in place. -/
def placements (game : GameInstance) : List MatchPlayerInfo → List Placement
  | [] => []
  | info :: infos =>
    match game.handleSpawn info.playerInfo with
    | .error _ => game.placement info.playerInfo
    | .ok next => game.placement info.playerInfo ++ next.placements infos

def placedBy (game : GameInstance) : Action → List Placement
  | .prepareMatch => game.withoutActors.placements game.matchPlayerInfo
  | .packet _ | .engine _ | .connection _ => []

/-- A call, and what it puts in place. -/
def PlacingStep (game : GameInstance) (call : Action × List Placement) (next : GameInstance) : Prop :=
  game.Step call.1 next ∧ call.2 = game.placedBy call.1

/-! ### What spawning does to `Players` -/

variable {game next : GameInstance} {playerInfo : PlayerInfo}

omit [TextDecoder] in
/-- The loop of `PrepareMatch`, with what it has put in place. Each actor is there
for the id it was placed for last, and the pawn for nobody but the local player. -/
structure Cast (placed : List Placement) (game : GameInstance) : Prop where
  traced : EntryMap.Traced placed game.players
  allocated : ∀ ⦃objectId actor⦄, game.players.lookup objectId = some (some actor) →
    actor < game.engine.actors.next
  pawnAllocated : ∀ ⦃pawn⦄, game.engine.playerController = some (some pawn) → pawn < game.engine.actors.next
  pawnIsMine : ∀ ⦃objectId pawn⦄, game.engine.playerController = some (some pawn) →
    game.players.lookup objectId = some (some pawn) → objectId = game.localObjectId

variable {placed : List Placement}

omit [TextDecoder] in
theorem Cast.allocate (cast : Cast placed game) (player : AS1Player) (spawnResults : List Bool) :
    Cast placed { game with
      engine := { game.engine with actors := game.engine.actors.allocate player, spawnResults } } where
  traced := cast.traced
  allocated _ _ found := Nat.lt_succ_of_lt (cast.allocated found)
  pawnAllocated _ possessed := Nat.lt_succ_of_lt (cast.pawnAllocated possessed)
  pawnIsMine _ _ possessed found := cast.pawnIsMine possessed found

omit [TextDecoder] in
/-- What `HandleSpawn` does with an actor, to the fields that count here. -/
theorem place_keeps (game : GameInstance) (playerInfo : PlayerInfo) (actor : ActorId) (nickname : FString) :
    (game.place playerInfo actor nickname).players = game.players.insert playerInfo.objectId (some actor) ∧
      (game.place playerInfo actor nickname).engine.actors.next = game.engine.actors.next ∧
      (game.place playerInfo actor nickname).engine.playerController = game.engine.playerController ∧
      (game.place playerInfo actor nickname).localObjectId = game.localObjectId := by
  unfold place
  dsimp only
  split <;> exact ⟨rfl, rfl, rfl, rfl⟩

omit [TextDecoder] in
/-- An actor may be put in place for an id if nobody else has it, and if it is
the pawn only for the local player. -/
theorem Cast.place {actor : ActorId} (cast : Cast placed game) (nickname : FString)
    (fresh : ∀ other, game.players.lookup other = some (some actor) → other = playerInfo.objectId)
    (existing : actor < game.engine.actors.next)
    (whose : game.engine.playerController = some (some actor) → playerInfo.objectId = game.localObjectId) :
    Cast (placed ++ [(playerInfo.objectId, some actor)]) (game.place playerInfo actor nickname) := by
  obtain ⟨players, sameNext, sameController, sameLocal⟩ := game.place_keeps playerInfo actor nickname
  refine ⟨players ▸ cast.traced.insert fresh, ?_, ?_, ?_⟩
  · intro objectId other found
    rw [players, EntryMap.lookup_insert_eq] at found
    rw [sameNext]
    split at found
    · obtain rfl := Option.some.inj (Option.some.inj found)
      exact existing
    · exact cast.allocated found
  · intro pawn possessed
    rw [sameNext]
    exact cast.pawnAllocated (sameController ▸ possessed)
  · intro objectId pawn possessed found
    rw [players, EntryMap.lookup_insert_eq] at found
    rw [sameController] at possessed
    rw [sameLocal]
    split at found
    · rename_i isKey
      obtain rfl := Option.some.inj (Option.some.inj found)
      exact isKey.trans (whose possessed)
    · exact cast.pawnIsMine possessed found

theorem Cast.spawning (cast : Cast placed game) (spawning : game.Spawning playerInfo next) :
    Cast (placed ++ game.placement playerInfo) next := by
  cases spawning with
  | nobody spawnResults unplaced =>
    rw [placement, unplaced, List.append_nil]
    exact ⟨cast.traced, cast.allocated, cast.pawnAllocated, cast.pawnIsMine⟩
  | pawn pawn mine possessed existing placedFor =>
    rw [placement, placedFor]
    have further := cast.place game.localNickname
      (fun other found => (cast.pawnIsMine possessed found).trans mine) existing fun _ => mine.symm
    exact ⟨further.traced, further.allocated, further.pawnAllocated, further.pawnIsMine⟩
  | actor player spawnResults other fewer placedFor =>
    rw [placement, placedFor]
    refine (cast.allocate player spawnResults).place (tchar playerInfo.nickname) ?_ (Nat.lt_succ_self _) ?_
    · exact fun another found => absurd (cast.allocated found) (Nat.lt_irrefl _)
    · exact fun possessed => absurd (cast.pawnAllocated possessed) (Nat.lt_irrefl _)

theorem Cast.foldlM {infos : List MatchPlayerInfo} (cast : Cast placed game)
    (taken : infos.foldlM (fun game info => game.handleSpawn info.playerInfo) game = .ok next) :
    Cast (placed ++ game.placements infos) next := by
  induction infos generalizing game placed with
  | nil =>
    obtain rfl := Except.ok.inj taken
    rw [placements, List.append_nil]
    exact cast
  | cons info infos ih =>
    obtain ⟨middle, spawned, later⟩ := foldlM_cons_ok taken
    rw [placements, spawned, ← List.append_assoc]
    exact ih (cast.spawning (spawning_of_handleSpawn spawned)) later

omit [TextDecoder] in
/-- `SpawnActor` will give out nothing that is the pawn of the local controller. -/
def PawnApart (game : GameInstance) : Prop :=
  ∀ pawn, game.engine.playerController = some (some pawn) → pawn < game.engine.actors.next

/-- Whoever has an actor after `PrepareMatch` got it there. -/
theorem traced_prepareMatch (apart : game.PawnApart) (taken : game.prepareMatch = .ok next) :
    EntryMap.Traced (game.withoutActors.placements game.matchPlayerInfo) next.players := by
  obtain ⟨spawned, sendBuffer, loop, rfl⟩ := prepareMatch_ok taken
  have nobody : ∀ objectId pointer, game.withoutActors.players.lookup objectId ≠ some pointer :=
    fun objectId pointer found => Option.some_ne_none pointer (found.symm.trans (AList.lookup_empty objectId))
  have first : Cast [] game.withoutActors :=
    ⟨EntryMap.traced_empty [], fun objectId actor found => absurd found (nobody objectId _), apart,
      fun objectId pawn _ found => absurd found (nobody objectId _)⟩
  exact (first.foldlM loop).traced

/-- No packet adds to `Players`. -/
theorem players_received {msg : ServerMessage} (taken : game.received msg = .ok next) :
    next.players = game.players ∨ next.players = ∅ := by
  by_cases replaces : ReplacesRoster msg
  · cases msg with
    | matchPrepare pkt =>
      obtain rfl := Except.ok.inj taken
      rw [handlePrepareMatch]
      exact .inl (by split <;> rfl)
    | returnToRoom pkt => exact .inr (rosterEmpty_returnToRoom taken replaces).players
    | _ => exact replaces.elim
  · exact .inl (rosterSame_received taken replaces).players

/-! ### The loop of `RequestHit` -/

omit [TextDecoder] in
/-- The loop stops at the one entry with the target, wherever it stands. -/
theorem sendHit_found {order : List ((_ : UInt64) × ActorPtr)} {targetPlayer : ActorPtr} {objectId : UInt64}
    (listed : ⟨objectId, targetPlayer⟩ ∈ order)
    (unique : ∀ iter ∈ order, iter.2 = targetPlayer → iter.1 = objectId) :
    game.sendHit targetPlayer order =
      game.sendMacro ({ targetObjectId := objectId } : CHit) ClientPacket.hit.id := by
  induction order with
  | nil => exact absurd listed List.not_mem_nil
  | cons iter players ih =>
    obtain ⟨here, later⟩ := List.forall_mem_cons.mp unique
    rw [sendHit]
    by_cases hit : iter.2 = targetPlayer
    · rw [if_neg (not_not_intro hit), here hit]
    · have further : ⟨objectId, targetPlayer⟩ ∈ players := by
        refine (List.mem_cons.mp listed).resolve_left ?_
        rintro rfl
        exact hit rfl
      rw [if_pos hit]
      exact ih further later

omit [TextDecoder] in
theorem sendHit_missed {order : List ((_ : UInt64) × ActorPtr)} {targetPlayer : ActorPtr}
    (unlisted : ∀ iter ∈ order, iter.2 ≠ targetPlayer) : game.sendHit targetPlayer order = .ok game := by
  induction order with
  | nil => rfl
  | cons iter players ih =>
    obtain ⟨here, later⟩ := List.forall_mem_cons.mp unlisted
    rw [sendHit, if_pos here]
    exact ih later

end GameInstance

/-! ### Every state reached -/

namespace Hits
open GameInstance
variable [TextDecoder]

/-- A game instance, with the calls so far and what each put in place. -/
abbrev Recording := Recorded GameInstance (Action × List Placement)

abbrev Step : Recording → Action × List Placement → Recording → Prop :=
  Transition.Recording PlacingStep fun _ _ => True

omit [TextDecoder] in
/-- All placements, the first one first. -/
def placed (recording : Recording) : List Placement := recording.history.reverse.flatMap Prod.snd

omit [TextDecoder] in
/-- `SpawnActor` returns fresh actors, none of them the pawn. -/
def SpawnsApart (recording : Recording) : Action × List Placement → Prop
  | (.prepareMatch, _) => recording.state.PawnApart
  | _ => True

omit [TextDecoder] in
/-- A hit goes out under the id for which the target was placed last, in whatever
order the map is iterated, and a hit on nobody in `Players` does not go out. -/
structure Attributed (recording : Recording) : Prop where
  oneToOne : EntryMap.OneToOne recording.state.players
  hit : ∀ order targetPlayer objectId, order.Perm recording.state.players.entries →
    recording.state.engine.IsValid targetPlayer → recording.state.Connected → recording.state.engine.Hosts →
    recording.state.players.lookup objectId = some targetPlayer →
    EntryMap.lastKey (placed recording) targetPlayer = some objectId ∧
      ∃ next, recording.state.requestHit order targetPlayer = .ok next ∧
        recording.state.Queues ({ targetObjectId := objectId } : CHit) ClientPacket.hit.id next
  miss : ∀ order targetPlayer, order.Perm recording.state.players.entries →
    (∀ objectId, recording.state.players.lookup objectId ≠ some targetPlayer) →
    recording.state.requestHit order targetPlayer = .ok recording.state

variable {recording next : Recording} {call : Action × List Placement}

omit [TextDecoder] in
theorem placed_grown (grown : next.history = call :: recording.history) :
    placed next = placed recording ++ call.2 := by
  rw [placed, grown, List.reverse_cons, List.flatMap_append, List.flatMap_singleton, placed]

omit [TextDecoder] in
theorem attributed_of_traced (traced : EntryMap.Traced (placed recording) recording.state.players) :
    Attributed recording where
  oneToOne := traced.oneToOne
  hit order targetPlayer objectId same valid connected hosts found := by
    have listed : ⟨objectId, targetPlayer⟩ ∈ order := same.mem_iff.mpr (AList.mem_lookup_iff.mp found)
    have unique : ∀ iter ∈ order, iter.2 = targetPlayer → iter.1 = objectId := by
      intro iter member targeted
      exact traced.oneToOne (AList.mem_lookup_iff.mpr (same.mem_iff.mp member)) (targeted ▸ found)
    refine ⟨traced found, ?_⟩
    rw [requestHit, if_neg (not_or.mpr ⟨not_not_intro valid, not_not_intro connected.2⟩),
      sendHit_found listed unique]
    exact sendMacro_queues _ hosts connected ((uintFieldSize_le _).trans (by decide)) _
  miss order targetPlayer same unlisted := by
    rw [requestHit]
    split
    · rfl
    · apply sendHit_missed
      intro iter member targeted
      exact unlisted iter.1 (targeted ▸ AList.mem_lookup_iff.mpr (same.mem_iff.mp member))

theorem traced_step (traced : EntryMap.Traced (placed recording) recording.state.players)
    (apart : SpawnsApart recording call) (taken : Step recording call next) :
    EntryMap.Traced (placed next) next.state.players := by
  obtain ⟨⟨taken, places⟩, ⟨_, grown⟩ | ⟨uncounted, _⟩⟩ := taken
  · obtain ⟨action, placements⟩ := call
    obtain rfl : placements = recording.state.placedBy action := places
    rw [placed_grown grown]
    cases action with
    | prepareMatch => exact (traced_prepareMatch apart taken).prepend _
    | packet msg =>
      rw [placedBy, List.append_nil]
      by_cases hosts : recording.state.engine.Hosts
      · obtain same | cleared := players_received ((step_packet hosts).mp taken)
        · exact same ▸ traced
        · exact cleared ▸ EntryMap.traced_empty _
      · exact (step_lost hosts).mp taken ▸ traced
    | engine engine | connection connection =>
      rw [placedBy, List.append_nil, ← Except.ok.inj taken]
      exact traced
  · exact absurd trivial uncounted

/-- In every state of every run hits are attributed to the right player. -/
theorem hits_attributed (connection : US1GameInstance) (engine : Engine) (bulletClass : Option BulletClass)
    (otherPlayerClass : Option AS1Player)
    (run : Run Step { state := GameInstance.initial connection engine bulletClass otherPlayerClass } path)
    (apart : EveryStep SpawnsApart
      { state := GameInstance.initial connection engine bulletClass otherPlayerClass } path) :
    EveryState Attributed { state := GameInstance.initial connection engine bulletClass otherPlayerClass }
      path := by
  have traced : EveryState
      (fun recording : Recording => EntryMap.Traced (placed recording) recording.state.players)
      { state := GameInstance.initial connection engine bulletClass otherPlayerClass } path :=
    everyState_of_everyStep (P := fun _ => True) (fun _ _ _ _ _ => trivial)
      (fun _ _ _ _ traced apart taken => traced_step traced apart taken) run trivial
      (EntryMap.traced_empty _) apart
  exact traced.mono fun _ => attributed_of_traced

omit [TextDecoder] in
/-- The other player of a duel is hit, and the server hears the right id. -/
theorem hit_in_duel : ∃ (game next : GameInstance), game.players.lookup 8 = some (some 1) ∧
    game.requestHit game.players.entries (some 1) = .ok next ∧
    game.Queues ({ targetObjectId := 8 } : CHit) ClientPacket.hit.id next := by
  let _ := asciiDecoder
  let connection : US1GameInstance := { socket := some 0, gameServerSession := some { socket := 0 } }
  let engine : Engine :=
    { actors := ObjectStore.empty.allocate { isMyPlayer := true }, playerController := some (some 0) }
  let login : SLogin := { success := true, result := .success, accountId := 1, objectId := 7 }
  let first := GameInstance.initial connection engine none (some {})
  let lobby := first.handleLogin login
  let announced := (lobby.handlePrepareMatch Play.duel).openLevel "GameMap"
  let game := announced.prepareMatch.toOption.getD announced
  let inLobby : Recording := { state := lobby, history := [(.packet (.login login), [])] }
  let inLevel : Recording :=
    { state := announced, history := (.packet (.matchPrepare Play.duel), []) :: inLobby.history }
  let inMatch : Recording :=
    { state := game, history := (.prepareMatch, announced.placedBy .prepareMatch) :: inLevel.history }
  have run : Run Step { state := first }
      [((.packet (.login login), []), inLobby), ((.packet (.matchPrepare Play.duel), []), inLevel),
        ((.prepareMatch, announced.placedBy .prepareMatch), inMatch)] :=
    ⟨⟨⟨rfl, rfl⟩, .inl ⟨trivial, rfl⟩⟩, ⟨⟨rfl, rfl⟩, .inl ⟨trivial, rfl⟩⟩,
      ⟨⟨rfl, rfl⟩, .inl ⟨trivial, rfl⟩⟩, trivial⟩
  have apart : announced.PawnApart := by
    intro pawn possessed
    obtain rfl : 0 = pawn := Option.some.inj (Option.some.inj possessed)
    exact Nat.one_pos
  have attributed := hits_attributed connection engine none (some {}) run ⟨trivial, trivial, apart, trivial⟩
  obtain ⟨_, next, sent, queued⟩ :=
    attributed.2.2.2.hit game.players.entries (some 1) 8 (.refl _) (by decide) ⟨rfl, rfl⟩ ⟨rfl, rfl⟩ rfl
  exact ⟨game, next, rfl, sent, queued⟩

end Hits
end ArenaClient
