import ArenaClient.Game.HandlersProofs

/-! Which actors the handlers touch. `Players` keeps raw pointers, so an entry
may be null or lead to an actor of a level that is gone. -/
namespace ArenaClient
open Protocol ServerPacketHandler

/-- The player that a packet about a single player addresses. -/
def ServerMessage.addressee : ServerMessage → Option UInt64
  | move pkt => some pkt.playerInfo.objectId
  | fire pkt => some pkt.objectId
  | playerState pkt => some pkt.objectId
  | playerDespawn pkt => some pkt.objectId
  | playerRespawn pkt => some pkt.playerInfo.objectId
  | _ => none

namespace GameInstance
variable {game next : GameInstance} {objectId : UInt64}

/-- The handler returns, so each pointer it follows is valid, and without a
valid entry for the addressee no actor changes. -/
def Guarded [TextDecoder] (game : GameInstance) (msg : ServerMessage) (objectId : UInt64) : Prop :=
  ∃ next, game.Step (.packet msg) next ∧
    (game.addressed objectId = none → next.engine.actors = game.engine.actors)

/-- An `S_MOVE` gets as far as an entry that is null or destroyed. -/
structure MovesInvalid (game : GameInstance) (msg : ServerMessage) : Prop where
  hosts : game.engine.Hosts
  connected : game.Connected
  world : game.engine.world = true
  entry : ∃ pkt pointer, msg = .move pkt ∧ game.players.lookup pkt.playerInfo.objectId = some pointer ∧
    ¬ game.engine.IsValid pointer

theorem updatePlayer_none (unaddressed : game.addressed objectId = none) (update : AS1Player → AS1Player) :
    game.updatePlayer objectId update = game := by
  rw [updatePlayer, unaddressed]

theorem updatePlayer_some {id : ActorId} (addressed : game.addressed objectId = some id)
    (update : AS1Player → AS1Player) :
    game.updatePlayer objectId update = game.modifyActor id update := by
  rw [updatePlayer, addressed]

theorem respawned_none {playerInfo : PlayerInfo} (unaddressed : game.addressed playerInfo.objectId = none) :
    game.respawned playerInfo = game := by
  rw [respawned, updatePlayer_none unaddressed, ite_self]

theorem handlePlayerState_none {state : MatchPlayerState} (unaddressed : game.addressed objectId = none)
    (taken : game.handlePlayerState objectId state = .ok next) : next.engine = game.engine := by
  rw [handlePlayerState_eq, Except.ok.injEq] at taken
  subst taken
  by_cases listed : objectId ∈ game.matchPlayerState
  · simp only [listed, if_true, unaddressed]
  · simp only [listed, if_false]

variable [TextDecoder]

/-- Without a valid entry for the addressee no actor changes. -/
theorem actors_of_unaddressed {msg : ServerMessage} (about : msg.addressee = some objectId)
    (unaddressed : game.addressed objectId = none) (taken : game.received msg = .ok next) :
    next.engine.actors = game.engine.actors := by
  cases msg with
  | move pkt =>
    obtain rfl := Option.some.inj about
    rw [received, handleMove_eq, updatePlayer_none unaddressed] at taken
    split at taken
    · split at taken
      · rw [← Except.ok.inj taken]
      · split at taken
        · rw [← Except.ok.inj taken]
        · contradiction
    · rw [← Except.ok.inj taken]
  | fire pkt =>
    obtain ⟨engine, kept, fired⟩ := game.handleFire_ok pkt
    obtain rfl := Except.ok.inj (fired.symm.trans taken)
    exact kept
  | playerState pkt =>
    obtain rfl := Option.some.inj about
    rw [handlePlayerState_none unaddressed taken]
  | playerDespawn pkt =>
    obtain rfl := Option.some.inj about
    rw [received, handleDespawn_eq, updatePlayer_none unaddressed, ite_self] at taken
    rw [← Except.ok.inj taken]
  | playerRespawn pkt =>
    obtain rfl := Option.some.inj about
    rw [received_respawn, respawned_none unaddressed] at taken
    rw [handlePlayerState_none unaddressed taken]
  | _ => contradiction

omit [TextDecoder] in
theorem handleMove_ok {pkt : SMove} (guarded : ¬ game.MovesInvalid (.move pkt)) (hosts : game.engine.Hosts) :
    ∃ next, game.handleMove pkt = .ok next := by
  rw [handleMove_eq]
  by_cases reaches : game.Connected ∧ game.engine.world = true
  · rw [if_pos reaches]
    cases found : game.players.lookup pkt.playerInfo.objectId with
    | none => exact ⟨_, rfl⟩
    | some pointer =>
      have valid : game.engine.IsValid pointer := Classical.byContradiction fun destroyed =>
        guarded ⟨hosts, reaches.1, reaches.2, pkt, pointer, rfl, found, destroyed⟩
      exact ⟨_, if_pos valid⟩
  · exact ⟨_, if_neg reaches⟩

omit [TextDecoder] in
theorem handleMove_fault {pkt : SMove} (invalid : game.MovesInvalid (.move pkt)) (next : GameInstance) :
    game.handleMove pkt ≠ .ok next := by
  obtain ⟨_, connected, world, move, pointer, ⟨⟩, found, destroyed⟩ := invalid
  rw [handleMove_eq, if_pos ⟨connected, world⟩, found]
  simp only [destroyed, if_false]
  exact nofun

theorem received_ok {msg : ServerMessage} (about : msg.addressee = some objectId)
    (guarded : ¬ game.MovesInvalid msg) (hosts : game.engine.Hosts) :
    ∃ next, game.received msg = .ok next := by
  cases msg with
  | move pkt => exact handleMove_ok guarded hosts
  | fire pkt =>
    obtain ⟨engine, _, fired⟩ := game.handleFire_ok pkt
    exact ⟨_, fired⟩
  | playerState pkt => exact ⟨_, handlePlayerState_eq game pkt.objectId pkt.playerState⟩
  | playerDespawn pkt => exact ⟨_, handleDespawn_eq game pkt.objectId⟩
  | playerRespawn pkt => exact ⟨_, (received_respawn game pkt).trans (handlePlayerState_eq _ _ _)⟩
  | _ => contradiction

/-- Four of the five handlers guard every access. `HandleMove` does unless the
entry for the id is there and does not pass `IsValid`. -/
theorem guarded_iff {msg : ServerMessage} (about : msg.addressee = some objectId) :
    game.Guarded msg objectId ↔ ¬ game.MovesInvalid msg := by
  constructor
  · rintro ⟨next, taken, _⟩ invalid
    obtain ⟨pkt, _, rfl, _⟩ := invalid.entry
    exact handleMove_fault invalid next ((step_packet invalid.hosts).mp taken)
  · intro guarded
    by_cases hosts : game.engine.Hosts
    · obtain ⟨next, ok⟩ := received_ok about guarded hosts
      exact ⟨next, (step_packet hosts).mpr ok, fun unaddressed => actors_of_unaddressed about unaddressed ok⟩
    · exact ⟨game, (step_lost hosts).mpr rfl, fun _ => rfl⟩

omit [TextDecoder] in
/-- A player moves whose actor is in the level. -/
theorem guarded_known_move :
    let _ := asciiDecoder
    let play := Play.after
      [.connection { socket := some 1, gameServerSession := some { socket := 1 } },
        .packet (.matchPrepare { matchInfo :=
          { matchPlayersInfo := [{ playerInfo := { objectId := 5 } }], matchPlayersState := [{}] } }),
        .prepareMatch]
    play.state.players.lookup 5 = some (some 0) ∧ play.state.Connected ∧
      play.state.Guarded (.move { playerInfo := { objectId := 5 } }) 5 := by
  intro _ play
  have entry : play.state.players.lookup 5 = some (some 0) := rfl
  refine ⟨entry, ⟨rfl, rfl⟩, (guarded_iff rfl).mpr ?_⟩
  rintro ⟨_, _, _, _, pointer, ⟨⟩, found, destroyed⟩
  obtain rfl := Option.some.inj (entry.symm.trans found)
  exact destroyed rfl

omit [TextDecoder] in
/-- The level is left, the roster is not, and a late `S_MOVE` follows a pointer
into the old level. -/
theorem move_of_destroyed :
    ¬ ∀ [TextDecoder] (play : Play) (msg : ServerMessage) (objectId : UInt64), play.Reached →
      msg.addressee = some objectId → play.state.Guarded msg objectId := by
  intro claim
  let _ := asciiDecoder
  let travelled := Play.after
    [.connection { socket := some 1, gameServerSession := some { socket := 1 } },
      .packet (.matchPrepare { matchInfo :=
        { matchPlayersInfo := [{ playerInfo := { objectId := 5 } }], matchPlayersState := [{}] } }),
      .prepareMatch, .engine {}]
  obtain ⟨next, taken, _⟩ := claim travelled (.move { playerInfo := { objectId := 5 } }) 5 (Play.reached_after _) rfl
  have fault : travelled.state.perform (.packet (.move { playerInfo := { objectId := 5 } })) =
    .error (.actor (some 0)) := rfl
  rw [Step, fault] at taken
  contradiction

end GameInstance
end ArenaClient
