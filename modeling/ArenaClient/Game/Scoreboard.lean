import ArenaClient.Game.Announcements

/-! The score table of a match. A widget fills it from `GetMatchPlayerScore` and
then follows `OnMatchPlayerScoreUpdated`. The handler of a state stores it and
only then looks for the player, so a score can change without a broadcast. -/
namespace ArenaClient
open Protocol ServerPacketHandler Transition

/-- A row for each id: whether there is a score, and the two counts. -/
abbrev ScoreTable := Int64 → Bool × Int32 × Int32

namespace ScoreTable

/-- The listener of the delegate; the others do not concern the table. -/
def hear (table : ScoreTable) : Broadcast → ScoreTable
  | .onMatchPlayerScoreUpdated objectId killCount deathCount =>
    Function.update table objectId (true, killCount, deathCount)
  | _ => table

end ScoreTable

def Protocol.MatchPlayerState.score (state : MatchPlayerState) : Bool × Int32 × Int32 :=
  (true, state.killCount.toInt32, state.deathCount.toInt32)

namespace GameInstance

/-- `GetMatchPlayerScore`: its result and the two counts. -/
def getMatchPlayerScore (game : GameInstance) : ScoreTable := fun objectId =>
  match game.matchPlayerState.lookup objectId.toUInt64 with
  | none => (false, 0, 0)
  | some state => (true, state.killCount.toInt32, state.deathCount.toInt32)

variable {first game next : GameInstance} {action : Action}

theorem getMatchPlayerScore_insert {stored : AList fun _ : UInt64 => MatchPlayerState}
    (grown : next.matchPlayerState = stored.insert objectId state) (same : game.matchPlayerState = stored) :
    next.getMatchPlayerScore = Function.update game.getMatchPlayerScore objectId.toInt64 state.score := by
  funext row
  rw [getMatchPlayerScore, grown, EntryMap.lookup_insert_eq, Function.update_apply]
  by_cases here : row = objectId.toInt64
  · rw [if_pos here, here, UInt64.toUInt64_toInt64, if_pos rfl]
    rfl
  · have other : row.toUInt64 ≠ objectId := fun same => here (same ▸ (Int64.toInt64_toUInt64 row).symm)
    rw [if_neg here, if_neg other, getMatchPlayerScore, same]

/-! ### A widget -/

/-- The table of a widget that was filled in the state `first`. -/
def shownScores (first game : GameInstance) : ScoreTable :=
  (game.broadcasts.drop first.broadcasts.length).foldl ScoreTable.hear first.getMatchPlayerScore

def InSync (first game : GameInstance) : Prop := shownScores first game = game.getMatchPlayerScore

/-- The state of a player in the match that a packet brings. -/
def reports (game : GameInstance) : Action → Option (UInt64 × MatchPlayerState)
  | .packet msg =>
    if game.engine.Hosts then (reported msg).filter (·.1 ∈ game.matchPlayerState) else none
  | _ => none

/-- Whoever gets a new score has a valid actor. -/
def Told (game : GameInstance) (action : Action) : Prop :=
  ∀ objectId state, game.reports action = some (objectId, state) → game.addressed objectId = none →
    game.getMatchPlayerScore objectId.toInt64 = state.score

def Action.Replaces : Action → Prop
  | .packet msg => ReplacesRoster msg
  | _ => False

/-! ### What a call does to the scores -/

variable [TextDecoder]

omit [TextDecoder] in
theorem hear_place (table : ScoreTable) (actor : ActorId) (state : Option MatchPlayerState) :
    ((state.map fun state => Broadcast.onPlayerStateUpdated actor state.data).toList).foldl ScoreTable.hear table =
      table := by
  cases state <;> rfl

theorem hear_rosterEvents (game : GameInstance) (infos : List MatchPlayerInfo) (table : ScoreTable) :
    (game.rosterEvents infos).foldl ScoreTable.hear table = table := by
  induction infos generalizing game with
  | nil => rfl
  | cons info infos ih =>
    have spawned : (game.spawnEvents info.playerInfo).foldl ScoreTable.hear table = table := by
      rw [spawnEvents]
      cases game.spawnedActor info.playerInfo with
      | none => rfl
      | some actor => exact hear_place table actor _
    rw [rosterEvents, List.foldl_append, spawned]
    cases game.handleSpawn info.playerInfo with
    | error fault => rfl
    | ok next => exact ih next

omit [TextDecoder] in
theorem hear_stateEvents (game : GameInstance) (objectId : UInt64) (state : MatchPlayerState) (table : ScoreTable) :
    (game.stateEvents game.serverView objectId state).foldl ScoreTable.hear table =
      if objectId ∈ game.matchPlayerState ∧ game.addressed objectId ≠ none then
        Function.update table objectId.toInt64 state.score
      else table := by
  rw [stateEvents, serverView_matchPlayerState]
  by_cases listed : objectId ∈ game.matchPlayerState
  · rw [if_pos listed]
    cases addressee : game.addressed objectId with
    | none => exact (if_neg fun both => both.2 rfl).symm
    | some actor => exact (if_pos ⟨listed, Option.some_ne_none actor⟩).symm
  · rw [if_neg listed, if_neg fun both => listed both.1]
    rfl

/-- A packet that brings no state says nothing about scores. -/
theorem hear_packetEvents {msg : ServerMessage} (unreported : reported msg = none) (table : ScoreTable) :
    (game.packetEvents game.serverView msg).foldl ScoreTable.hear table = table := by
  cases msg with
  | playerState | playerRespawn => contradiction
  | login pkt =>
    rw [packetEvents]
    cases loginError pkt <;> rfl
  | leaveRoom | roomState | matchStart | matchState | matchEnd =>
    rw [packetEvents]
    split <;> rfl
  | _ => rfl

theorem hear_events (game : GameInstance) (action : Action) (table : ScoreTable) :
    (game.events game.serverView action).foldl ScoreTable.hear table =
      match game.reports action with
      | none => table
      | some (objectId, state) =>
        if game.addressed objectId = none then table else Function.update table objectId.toInt64 state.score := by
  cases action with
  | engine | connection => rfl
  | prepareMatch => exact hear_rosterEvents game.withoutActors game.matchPlayerInfo table
  | packet msg =>
    rw [events, reports]
    split
    · cases brings : reported msg with
      | none => exact hear_packetEvents brings table
      | some report =>
        have states : game.packetEvents game.serverView msg =
            game.stateEvents game.serverView report.1 report.2 := by
          cases msg with
          | playerState | playerRespawn =>
            cases brings
            rfl
          | _ => contradiction
        rw [states, hear_stateEvents, Option.filter_some]
        by_cases listed : report.1 ∈ game.matchPlayerState
        · simp [listed, ite_not]
        · simp [listed]
    · rfl

/-- A call that does not replace the players stores the state that it reports. -/
theorem stored_step (taken : Step game action next) (keeps : ¬ action.Replaces) :
    next.matchPlayerState =
      match game.reports action with
      | none => game.matchPlayerState
      | some (objectId, state) => game.matchPlayerState.insert objectId state := by
  cases action with
  | prepareMatch =>
    exact congrArg ServerView.matchPlayerState (serverView_prepareMatch taken)
  | engine | connection =>
    obtain rfl := Except.ok.inj taken
    rfl
  | packet msg =>
    by_cases hosts : game.engine.Hosts
    · have moved := congrArg ServerView.matchPlayerState (serverView_received ((step_packet hosts).mp taken))
      rw [serverView_matchPlayerState, ServerView.matchPlayerState_receive keeps] at moved
      rw [moved, reports, if_pos hosts]
      cases reported msg with
      | none => rfl
      | some report =>
        rw [Option.filter_some]
        by_cases listed : report.1 ∈ game.matchPlayerState
        · simp [listed]
        · simp [listed]
    · rw [reports, if_neg hosts, (step_lost hosts).mp taken]

/-! ### Runs -/

omit [TextDecoder] in
theorem getMatchPlayerScore_congr (same : next.matchPlayerState = game.matchPlayerState) :
    next.getMatchPlayerScore = game.getMatchPlayerScore := by
  unfold getMatchPlayerScore
  rw [same]

/-- A table on screen shows the scores of the match for as long as no score
changes while its player has no valid actor, and no longer. -/
theorem inSync_iff (run : Run Step first path)
    (settled : EveryStep (fun _ action => ¬ Action.Replaces action) first path) :
    EveryState (InSync first) first path ↔ EveryStep Told first path := by
  refine everyState_iff_of_step (P := fun game => first.broadcasts <+: game.broadcasts) ?_ ?_
    (run.restrict settled) List.prefix_rfl ?_
  · rintro game action next grown ⟨taken, _⟩
    exact grown.trans ⟨_, (broadcasts_step taken).symm⟩
  · rintro game action next ⟨heard, grown⟩ inSync ⟨taken, keeps⟩
    have shown : shownScores first next =
        (game.events game.serverView action).foldl ScoreTable.hear game.getMatchPlayerScore := by
      rw [InSync, shownScores, ← grown, List.drop_left] at inSync
      rw [shownScores, broadcasts_step taken, ← grown, List.append_assoc, List.drop_left, List.foldl_append, inSync]
    have stored := stored_step taken keeps
    rw [InSync, shown, hear_events]
    cases reported : game.reports action with
    | none =>
      rw [reported] at stored
      refine iff_of_true (getMatchPlayerScore_congr stored).symm fun _ _ reports => ?_
      exact absurd (reported.symm.trans reports) (Option.some_ne_none _).symm
    | some report =>
      obtain ⟨objectId, state⟩ := report
      rw [reported] at stored
      rw [getMatchPlayerScore_insert stored rfl]
      dsimp only
      by_cases unaddressed : game.addressed objectId = none
      · rw [if_pos unaddressed, Function.eq_update_self_iff]
        constructor
        · rintro same _ _ reports _
          cases reported.symm.trans reports
          exact same
        · exact fun told => told objectId state reported unaddressed
      · rw [if_neg unaddressed]
        refine iff_of_true rfl ?_
        rintro _ _ reports nobody
        cases reported.symm.trans reports
        exact absurd nobody unaddressed
  · rw [InSync, shownScores, List.drop_length]
    rfl

omit [TextDecoder] in
/-- A kill before the level has spawned the players is stored and not announced. -/
theorem kill_unseen :
    let first : GameInstance := { matchPlayerState := AList.singleton 8 { hp := 100 } }
    let kill : SPlayerState := { objectId := 8, playerState := { hp := 100, killCount := 1 } }
    ∃ next, next.getMatchPlayerScore 8 = (true, 1, 0) ∧
      ¬ EveryState (InSync first) first [(Action.packet (.playerState kill), next)] := by
  let _ := asciiDecoder
  intro first kill
  let next := { first with matchPlayerState := first.matchPlayerState.insert 8 kill.playerState }
  have run : Run (@Step asciiDecoder) first [(Action.packet (.playerState kill), next)] := ⟨rfl, trivial⟩
  refine ⟨next, rfl, fun inSync => ?_⟩
  obtain ⟨told, _⟩ := (inSync_iff run ⟨fun replaces => replaces, trivial⟩).mp inSync
  exact absurd (told 8 kill.playerState rfl rfl) (by decide)

end GameInstance
end ArenaClient
