import ArenaClient.Game.ActorAccess

/-! The players of a match: who they are, what is known of them, and the actors
that stand for them. The return to the room clears all of it, and the other way
out of a match does not. -/
namespace ArenaClient
open Protocol ServerPacketHandler Transition

namespace GameInstance
variable {game next : GameInstance}

/-! ### Which steps reach the roster -/

structure RosterEmpty (game : GameInstance) : Prop where
  players : game.players = ∅
  matchPlayerInfo : game.matchPlayerInfo = []
  matchPlayerState : game.matchPlayerState = ∅
  myPlayer : game.myPlayer = none

/-- The same players, with states for the same of them. -/
structure RosterSame (game next : GameInstance) : Prop where
  players : next.players = game.players
  matchPlayerInfo : next.matchPlayerInfo = game.matchPlayerInfo
  listed : ∀ objectId, objectId ∈ next.matchPlayerState ↔ objectId ∈ game.matchPlayerState
  myPlayer : next.myPlayer = game.myPlayer

theorem RosterSame.refl (game : GameInstance) : RosterSame game game := ⟨rfl, rfl, fun _ => Iff.rfl, rfl⟩

theorem RosterSame.trans {last : GameInstance} (first : RosterSame game next) (second : RosterSame next last) :
    RosterSame game last :=
  ⟨second.players.trans first.players, second.matchPlayerInfo.trans first.matchPlayerInfo,
    fun objectId => (second.listed objectId).trans (first.listed objectId),
    second.myPlayer.trans first.myPlayer⟩

theorem RosterSame.empty_iff (same : RosterSame game next) : RosterEmpty next ↔ RosterEmpty game := by
  have states : next.matchPlayerState = ∅ ↔ game.matchPlayerState = ∅ := by
    rw [EntryMap.eq_empty_iff, EntryMap.eq_empty_iff]
    exact forall_congr' fun objectId => not_congr (same.listed objectId)
  constructor
  · rintro ⟨players, infos, stored, mine⟩
    exact ⟨same.players ▸ players, same.matchPlayerInfo ▸ infos, states.mp stored, same.myPlayer ▸ mine⟩
  · rintro ⟨players, infos, stored, mine⟩
    exact ⟨same.players.trans players, same.matchPlayerInfo.trans infos, states.mpr stored,
      same.myPlayer.trans mine⟩

theorem Presented.rosterSame (presented : game.Presented next) : RosterSame game next := by
  obtain ⟨_, _, _, _, keys, rfl⟩ := presented
  exact ⟨rfl, rfl, keys, rfl⟩

theorem Housed.rosterSame (housed : game.Housed next) : RosterSame game next := by
  obtain ⟨_, _, _, rfl⟩ := housed
  exact ⟨rfl, rfl, fun _ => Iff.rfl, rfl⟩

variable [TextDecoder]

omit [TextDecoder] in
/-- The two packets that replace the roster. -/
def ReplacesRoster : ServerMessage → Prop
  | .matchPrepare _ => True
  | .returnToRoom pkt => pkt.roomInfo.isSome
  | _ => False

theorem rosterSame_received {msg : ServerMessage} (taken : game.received msg = .ok next)
    (keeps : ¬ ReplacesRoster msg) : RosterSame game next := by
  cases msg with
  | matchPrepare pkt => exact absurd trivial keeps
  | returnToRoom pkt =>
    obtain rfl := Except.ok.inj taken
    rw [handleReturnRoom]
    cases present : pkt.roomInfo with
    | none => exact .refl game
    | some info => exact absurd (by rw [ReplacesRoster, present]; rfl) keeps
  | login pkt =>
    obtain rfl := Except.ok.inj taken
    rw [handleLogin]
    split <;> exact ⟨rfl, rfl, fun _ => Iff.rfl, rfl⟩
  | createRoom | enterRoom | roomState | leaveRoom => exact (housed_received taken trivial).rosterSame
  | matchStart pkt =>
    obtain rfl := Except.ok.inj taken
    rw [handleMatchStart]
    split <;> exact ⟨rfl, rfl, fun _ => Iff.rfl, rfl⟩
  | matchState pkt =>
    obtain rfl := Except.ok.inj taken
    rw [handleMatchState]
    split <;> exact ⟨rfl, rfl, fun _ => Iff.rfl, rfl⟩
  | matchEnd pkt =>
    obtain rfl := Except.ok.inj taken
    rw [handleMatchEnd]
    split <;> exact ⟨rfl, rfl, fun _ => Iff.rfl, rfl⟩
  | _ => exact (presented_received taken trivial).rosterSame

theorem rosterEmpty_returnToRoom {pkt : SReturnToRoom} (taken : game.received (.returnToRoom pkt) = .ok next)
    (present : pkt.roomInfo.isSome) : RosterEmpty next := by
  obtain rfl := Except.ok.inj taken
  obtain ⟨info, present⟩ := Option.isSome_iff_exists.mp present
  rw [handleReturnRoom, present]
  exact ⟨rfl, rfl, rfl, rfl⟩

/-- Without players there is nothing for `PrepareMatch` to spawn. -/
theorem prepareMatch_empty (empty : RosterEmpty game) (taken : game.prepareMatch = .ok next) :
    RosterEmpty next ∧ next.engine = game.engine := by
  obtain ⟨spawned, sendBuffer, loop, rfl⟩ := prepareMatch_ok taken
  rw [empty.matchPlayerInfo] at loop
  obtain rfl := Except.ok.inj loop
  exact ⟨⟨rfl, empty.matchPlayerInfo, empty.matchPlayerState, rfl⟩, rfl⟩

/-! ### Outside a match -/

omit [TextDecoder] in
/-- The calls that deal with the actors of players. -/
def AboutActors : Action → Prop
  | .packet msg => msg.addressee.isSome
  | .prepareMatch => True
  | _ => False

/-- No players, and so no actor that a call about players could touch. -/
structure RosterClear (game : GameInstance) : Prop where
  empty : RosterEmpty game
  unfollowed : ∀ action pointer, AboutActors action → game.perform action ≠ .error (.actor pointer)
  untouched : ∀ action next, AboutActors action → game.Step action next →
    next.engine.actors = game.engine.actors

omit [TextDecoder] in
theorem addressed_empty (empty : RosterEmpty game) (objectId : UInt64) : game.addressed objectId = none := by
  rw [addressed, empty.players, AList.lookup_empty, Option.bind_none]

omit [TextDecoder] in
theorem not_movesInvalid (empty : RosterEmpty game) (msg : ServerMessage) : ¬ game.MovesInvalid msg := by
  intro invalid
  obtain ⟨pkt, pointer, _, found, _⟩ := invalid.entry
  rw [empty.players, AList.lookup_empty] at found
  contradiction

theorem prepareMatch_unfollowed (empty : RosterEmpty game) (pointer : ActorPtr) :
    game.prepareMatch ≠ .error (.actor pointer) := by
  rw [prepareMatch, empty.matchPlayerInfo]
  simp only [List.foldlM_nil, pure_bind, sendMacro]
  split
  · simp
  · split <;> simp

theorem rosterClear_of_empty (empty : RosterEmpty game) : RosterClear game := by
  refine ⟨empty, ?_, ?_⟩
  · intro action pointer about
    cases action with
    | prepareMatch => exact prepareMatch_unfollowed empty pointer
    | engine | connection => exact about.elim
    | packet msg =>
      obtain ⟨objectId, addressee⟩ := Option.isSome_iff_exists.mp about
      by_cases hosts : game.engine.Hosts
      · obtain ⟨next, ok⟩ := received_ok addressee (not_movesInvalid empty msg) hosts
        rw [perform_packet hosts, ok]
        exact nofun
      · rw [perform_lost hosts]
        exact nofun
  · intro action next about taken
    cases action with
    | prepareMatch => rw [(prepareMatch_empty empty taken).2]
    | engine | connection => exact about.elim
    | packet msg =>
      obtain ⟨objectId, addressee⟩ := Option.isSome_iff_exists.mp about
      by_cases hosts : game.engine.Hosts
      · exact actors_of_unaddressed addressee (addressed_empty empty objectId) ((step_packet hosts).mp taken)
      · rw [(step_lost hosts).mp taken]

end GameInstance

/-- A match has been announced, and neither way out of it has been taken since. -/
def inProgress : List GameInstance.Action → Bool
  | [] => false
  | .packet (.matchPrepare _) :: _ => true
  | .packet (.leaveRoom pkt) :: earlier => !pkt.success && inProgress earlier
  | .packet (.returnToRoom pkt) :: earlier => !pkt.roomInfo.isSome && inProgress earlier
  | _ :: earlier => inProgress earlier

namespace Play
variable [TextDecoder] {play next : Play} {action : GameInstance.Action}

/-- The roster lives no longer than its match. -/
def RosterLives (play : Play) : Prop :=
  inProgress play.history = false → play.state.RosterClear

omit [TextDecoder] in
/-- Leaving the room is harmless where there is no roster to take along. -/
def LeavesNobody (play : Play) : GameInstance.Action → Prop
  | .packet (.leaveRoom pkt) => pkt.success → play.state.engine.Hosts → play.state.RosterEmpty
  | _ => True

omit [TextDecoder] in
/-- Of the messages, three have to do with how far a match is. -/
theorem inProgress_packet {msg : ServerMessage} {earlier : List GameInstance.Action}
    (keeps : ¬ GameInstance.ReplacesRoster msg) (stays : ∀ pkt, msg = .leaveRoom pkt → pkt.success = false) :
    inProgress (.packet msg :: earlier) = inProgress earlier := by
  cases msg with
  | matchPrepare pkt => exact absurd trivial keeps
  | leaveRoom pkt => rw [inProgress, stays pkt rfl, Bool.not_false, Bool.true_and]
  | returnToRoom pkt =>
    have absent : pkt.roomInfo.isSome = false := Bool.not_eq_true _ ▸ keeps
    rw [inProgress, absent, Bool.not_false, Bool.true_and]
  | _ => rfl

theorem rosterLives_iff : play.RosterLives ↔ (inProgress play.history = false → play.state.RosterEmpty) :=
  ⟨fun lives idle => (lives idle).empty, fun empty idle => GameInstance.rosterClear_of_empty (empty idle)⟩

/-- A step that counts neither as announcement nor as exit. -/
theorem rosterLives_same (lives : play.RosterLives) (same : play.state.RosterSame next.state)
    (progress : inProgress next.history = inProgress play.history) : next.RosterLives := by
  rw [rosterLives_iff, progress, same.empty_iff]
  exact rosterLives_iff.mp lives

theorem rosterLives_packet {msg : ServerMessage} (lives : play.RosterLives)
    (received : play.state.received msg = .ok next.state)
    (grown : next.history = .packet msg :: play.history) (hosts : play.state.engine.Hosts) :
    next.RosterLives ↔ play.LeavesNobody (.packet msg) := by
  by_cases replaces : GameInstance.ReplacesRoster msg
  · cases msg with
    | matchPrepare pkt =>
      refine iff_of_true (fun idle => ?_) trivial
      rw [grown, inProgress] at idle
      contradiction
    | returnToRoom pkt =>
      refine iff_of_true (rosterLives_iff.mpr fun _ => ?_) trivial
      exact GameInstance.rosterEmpty_returnToRoom received replaces
    | _ => exact replaces.elim
  · have same := GameInstance.rosterSame_received received replaces
    by_cases leaving : ∃ pkt, msg = .leaveRoom pkt ∧ pkt.success = true
    · obtain ⟨pkt, rfl, success⟩ := leaving
      have idle : inProgress next.history = false := by
        rw [grown, inProgress, success, Bool.not_true, Bool.false_and]
      rw [rosterLives_iff, imp_iff_right idle, same.empty_iff]
      exact ⟨fun empty _ _ => empty, fun nobody => nobody success hosts⟩
    · have stays : ∀ pkt, msg = .leaveRoom pkt → pkt.success = false := fun pkt leave =>
        Bool.not_eq_true _ ▸ fun success => leaving ⟨pkt, leave, success⟩
      refine iff_of_true (rosterLives_same lives same ?_) ?_
      · rw [grown, inProgress_packet replaces stays]
      · cases msg with
        | leaveRoom pkt =>
          intro success
          rw [stays pkt rfl] at success
          contradiction
        | _ => trivial

theorem rosterLives_step (lives : play.RosterLives) (taken : play.Step action next) :
    next.RosterLives ↔ play.LeavesNobody action := by
  cases step_effect taken with
  | received msg game hosts received => exact rosterLives_packet lives received rfl hosts
  | lost msg absent =>
    refine iff_of_true lives ?_
    cases msg with
    | leaveRoom pkt => exact fun _ hosts => absurd hosts absent
    | _ => trivial
  | prepared game prepared =>
    refine iff_of_true (rosterLives_iff.mpr fun idle => ?_) trivial
    exact (GameInstance.prepareMatch_empty (lives idle).empty prepared).1
  | engine | connection =>
    exact iff_of_true (rosterLives_same lives ⟨rfl, rfl, fun _ => Iff.rfl, rfl⟩ rfl) trivial

/-- Throughout a run the roster lives no longer than its match exactly when
every successful leave finds it empty already. -/
theorem roster_lives_iff (connection : US1GameInstance) (engine : Engine) (bulletClass : Option BulletClass)
    (otherPlayerClass : Option AS1Player)
    (run : Run Step { state := GameInstance.initial connection engine bulletClass otherPlayerClass } path) :
    EveryState RosterLives { state := GameInstance.initial connection engine bulletClass otherPlayerClass } path ↔
      EveryStep LeavesNobody { state := GameInstance.initial connection engine bulletClass otherPlayerClass }
        path := by
  refine everyState_iff_of_step (P := fun _ => True) (fun _ _ _ _ _ => trivial) ?_ run trivial ?_
  · intro play action next _ lives taken
    exact rosterLives_step lives taken
  · intro _
    exact GameInstance.rosterClear_of_empty ⟨rfl, rfl, rfl, rfl⟩

omit [TextDecoder] in
/-- A match with a player in it, the return to the room, and only then the leave. -/
theorem roster_lives_through_match :
    let called : List GameInstance.Action :=
      [.connection { socket := some 1, gameServerSession := some { socket := 1 } },
        .packet (.matchPrepare { matchInfo :=
          { matchPlayersInfo := [{ playerInfo := { objectId := 5 } }], matchPlayersState := [{}] } }),
        .prepareMatch, .packet (.returnToRoom { roomInfo := some {} }), .packet (.leaveRoom { success := true })]
    ∃ path, path.map Prod.fst = called ∧ Run (@Step asciiDecoder) start path ∧
      (final start (path.take 3)).state.players.lookup 5 = some (some 0) ∧
      EveryState (@RosterLives asciiDecoder) start path := by
  intro called
  let _ := asciiDecoder
  have run : Run Step start [(called[0], _), (called[1], _), (called[2], _), (called[3], _), (called[4], _)] :=
    ⟨step_of_perform rfl, step_of_perform rfl, step_of_perform rfl, step_of_perform rfl, step_of_perform rfl, trivial⟩
  exact ⟨_, rfl, run, rfl, (roster_lives_iff {} {} none (some {}) run).mpr
    ⟨trivial, trivial, trivial, trivial, fun _ _ => ⟨rfl, rfl, rfl, rfl⟩, trivial⟩⟩

omit [TextDecoder] in
/-- Who leaves the room in a match takes its players along. -/
theorem roster_outlives_leave :
    ¬ ∀ [TextDecoder] (play : Play), play.Reached → play.RosterLives := by
  intro claim
  let _ := asciiDecoder
  have lives := claim (Play.after
    [.packet (.matchPrepare { matchInfo := { matchPlayersInfo := [{}], matchPlayersState := [{}] } }),
      .packet (.leaveRoom { success := true })]) (Play.reached_after _)
  exact List.cons_ne_nil _ _ (lives rfl).empty.matchPlayerInfo

end Play
end ArenaClient
