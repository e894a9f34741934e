import ArenaClient.Game.HandlersProofs

/-! The match the client counts for: its id, the clock and the scores. Every
announcement writes them, well-formed or not, and nothing clears the id, so the
id that a packet is compared with may be that of a match that is over. -/
namespace ArenaClient
open Protocol ServerPacketHandler Transition

variable [TextDecoder]

/-! ### The clock as an abstract machine -/

structure MatchClock where
  matchId : UInt64
  remainSeconds : UInt32
  redScore : UInt32
  blueScore : UInt32
  deriving DecidableEq, Repr

namespace MatchClock

omit [TextDecoder] in
def receive (world : Bool) : ServerMessage → MatchClock → MatchClock
  | .matchPrepare pkt, _ =>
    ⟨pkt.matchInfo.matchId, pkt.matchInfo.durationSeconds, pkt.matchInfo.redScore, pkt.matchInfo.blueScore⟩
  | .matchState pkt, clock =>
    if clock.matchId ≠ pkt.matchState.matchId then clock
    else ⟨clock.matchId, pkt.matchState.remainingTimeSeconds, pkt.matchState.redScore, pkt.matchState.blueScore⟩
  | .matchEnd pkt, clock =>
    if world then ⟨clock.matchId, 0, pkt.result.redScore, pkt.result.blueScore⟩ else clock
  | _, clock => clock

end MatchClock

namespace GameInstance
variable {game next : GameInstance}

omit [TextDecoder] in
def matchClock (game : GameInstance) : MatchClock where
  matchId := game.matchId
  remainSeconds := game.remainSeconds
  redScore := game.redScore
  blueScore := game.blueScore

omit [TextDecoder] in
theorem matchClock_handlePrepareMatch (game : GameInstance) (pkt : SMatchPrepare) :
    (game.handlePrepareMatch pkt).matchClock = game.matchClock.receive world (.matchPrepare pkt) :=
  (apply_ite matchClock _ _ _).trans (ite_self _)

omit [TextDecoder] in
theorem matchClock_handleMatchState (game : GameInstance) (pkt : SMatchState) :
    (game.handleMatchState pkt).matchClock = game.matchClock.receive world (.matchState pkt) :=
  apply_ite matchClock _ _ _

omit [TextDecoder] in
theorem matchClock_handleMatchEnd (game : GameInstance) (pkt : SMatchEnd) :
    (game.handleMatchEnd pkt).matchClock = game.matchClock.receive game.engine.world (.matchEnd pkt) := by
  simp only [handleMatchEnd, MatchClock.receive]
  cases game.engine.world <;> rfl

omit [TextDecoder] in
theorem Housed.matchClock (housed : game.Housed next) : next.matchClock = game.matchClock := by
  obtain ⟨_, _, _, rfl⟩ := housed
  rfl

omit [TextDecoder] in
theorem Presented.matchClock (presented : game.Presented next) : next.matchClock = game.matchClock := by
  obtain ⟨_, _, _, _, _, rfl⟩ := presented
  rfl

theorem matchClock_received {msg : ServerMessage} (taken : game.received msg = .ok next) :
    next.matchClock = game.matchClock.receive game.engine.world msg := by
  cases msg with
  | matchPrepare pkt =>
    obtain rfl := Except.ok.inj taken
    exact matchClock_handlePrepareMatch game pkt
  | matchState pkt =>
    obtain rfl := Except.ok.inj taken
    exact matchClock_handleMatchState game pkt
  | matchEnd pkt =>
    obtain rfl := Except.ok.inj taken
    exact matchClock_handleMatchEnd game pkt
  | matchStart pkt =>
    obtain rfl := Except.ok.inj taken
    exact (apply_ite matchClock _ _ _).trans (ite_self _)
  | login pkt =>
    obtain rfl := Except.ok.inj taken
    rw [handleLogin]
    split <;> rfl
  | createRoom | enterRoom | roomState | leaveRoom => exact (housed_received taken trivial).matchClock
  | returnToRoom pkt =>
    obtain rfl := Except.ok.inj taken
    rw [handleReturnRoom]
    split <;> rfl
  | _ => exact (presented_received taken trivial).matchClock

theorem matchClock_prepareMatch (taken : game.prepareMatch = .ok next) :
    next.matchClock = game.matchClock := by
  obtain ⟨spawned, sendBuffer, loop, rfl⟩ := prepareMatch_ok taken
  obtain ⟨_, _, _, _, rfl⟩ := respawned_foldlM loop
  rfl

end GameInstance

/-! ### Whose match it is -/

section
omit [TextDecoder]

/-- The check that `HandlePrepareMatch` makes of the two lists. -/
def Protocol.SMatchPrepare.WellFormed (pkt : SMatchPrepare) : Prop :=
  pkt.matchInfo.matchPlayersInfo.length = pkt.matchInfo.matchPlayersState.length

instance (pkt : SMatchPrepare) : Decidable pkt.WellFormed := inferInstanceAs (Decidable (_ = _))

/-- The match of the latest well-formed announcement, until the return to the room. -/
def currentMatch : List GameInstance.Action → Option UInt64
  | [] => none
  | .packet (.matchPrepare pkt) :: earlier =>
    if pkt.WellFormed then some pkt.matchInfo.matchId else currentMatch earlier
  | .packet (.returnToRoom pkt) :: earlier =>
    if pkt.roomInfo.isSome then none else currentMatch earlier
  | _ :: earlier => currentMatch earlier

def announced : GameInstance.Action → UInt64 → UInt64
  | .packet (.matchPrepare pkt), _ => pkt.matchInfo.matchId
  | _, matchId => matchId

/-- The id in the latest announcement of any form; zero before the first. -/
def lastAnnounced (history : List GameInstance.Action) : UInt64 := history.foldr announced 0

/-- The match that a packet about a match as a whole belongs to. -/
def ServerMessage.matchId : ServerMessage → Option UInt64
  | matchStart pkt => some pkt.matchId
  | matchState pkt => some pkt.matchState.matchId
  | matchEnd pkt => some pkt.result.matchId
  | _ => none

/-- A packet about a match that is not the current one. -/
def Stale (history : List GameInstance.Action) (msg : ServerMessage) : Prop :=
  ∃ id, msg.matchId = some id ∧ currentMatch history ≠ some id

def Broadcast.AboutMatch : Broadcast → Prop
  | onMatchStarted | onMatchStateUpdated | onMatchEnded _ _ _ => True
  | _ => False

/-- A step that nobody who watches the match notices. -/
structure MatchUntouched (game next : GameInstance) : Prop where
  clock : next.matchClock = game.matchClock
  paused : next.engine.gamePaused = game.engine.gamePaused
  silent : ∃ raised, next.broadcasts = game.broadcasts ++ raised ∧ ∀ event ∈ raised, ¬ event.AboutMatch

/-- The packets that the client recognizes as those of another match: for two
kinds by the id announced last, for the third not at all while there is a world. -/
def Recognized (play : Play) : ServerMessage → Prop
  | .matchStart pkt => pkt.matchId ≠ lastAnnounced play.history
  | .matchState pkt => pkt.matchState.matchId ≠ lastAnnounced play.history
  | .matchEnd _ => play.state.engine.world = false
  | _ => True

theorem MatchUntouched.refl (game : GameInstance) : MatchUntouched game game :=
  ⟨rfl, rfl, [], (List.append_nil _).symm, by simp⟩

/-- A delegate that has been raised cannot be taken back. -/
theorem not_untouched {game next : GameInstance} {raised : List Broadcast} {event : Broadcast}
    (broadcasts : next.broadcasts = game.broadcasts ++ raised) (member : event ∈ raised)
    (about : event.AboutMatch) : ¬ MatchUntouched game next := by
  rintro ⟨_, _, silently, appended, silent⟩
  obtain rfl : raised = silently := List.append_cancel_left (broadcasts.symm.trans appended)
  exact silent event member about

end

omit [TextDecoder] in
theorem MatchClock.matchId_receive (world : Bool) (msg : ServerMessage) (clock : MatchClock) :
    (clock.receive world msg).matchId = announced (.packet msg) clock.matchId := by
  cases msg with
  | matchState pkt => exact (apply_ite MatchClock.matchId _ _ _).trans (ite_self _)
  | matchEnd pkt => exact (apply_ite MatchClock.matchId _ _ _).trans (ite_self _)
  | _ => rfl

theorem matchId_follows :
    Follows GameInstance.Step GameInstance.Handles (fun game => game.matchId) announced where
  counted game action next taken handled := by
    cases action with
    | packet msg =>
      have moved := GameInstance.matchClock_received ((GameInstance.step_packet handled).mp taken)
      exact (congrArg MatchClock.matchId moved).trans (MatchClock.matchId_receive _ msg _)
    | prepareMatch => exact congrArg MatchClock.matchId (GameInstance.matchClock_prepareMatch taken)
    | engine | connection =>
      obtain rfl := Except.ok.inj taken
      rfl
  ignored game action next taken ignored := by
    cases action with
    | packet msg => rw [(GameInstance.step_lost ignored).mp taken]
    | prepareMatch | engine | connection => exact absurd trivial ignored

/-- The id the client compares with is the one announced last. -/
theorem matchId_announced {play : Play} (reached : play.Reached) :
    play.state.matchId = lastAnnounced play.history := by
  obtain ⟨connection, engine, bulletClass, otherPlayerClass, reached⟩ := reached
  exact matchId_follows.view_eq reached

/-! ### Packets of another match -/

namespace GameInstance
variable (game : GameInstance)

omit [TextDecoder] in
theorem untouched_handleMatchStart (pkt : SMatchStart) :
    MatchUntouched game (game.handleMatchStart pkt) ↔ pkt.matchId ≠ game.matchId := by
  rw [handleMatchStart]
  by_cases same : game.matchId = pkt.matchId
  · rw [if_neg (not_not_intro same)]
    exact iff_of_false (not_untouched rfl (List.mem_singleton_self _) trivial) (not_not_intro same.symm)
  · rw [if_pos same]
    exact iff_of_true (.refl game) (Ne.symm same)

omit [TextDecoder] in
theorem untouched_handleMatchState (pkt : SMatchState) :
    MatchUntouched game (game.handleMatchState pkt) ↔ pkt.matchState.matchId ≠ game.matchId := by
  rw [handleMatchState]
  by_cases same : game.matchId = pkt.matchState.matchId
  · rw [if_neg (not_not_intro same)]
    exact iff_of_false (not_untouched rfl (List.mem_singleton_self _) trivial) (not_not_intro same.symm)
  · rw [if_pos same]
    exact iff_of_true (.refl game) (Ne.symm same)

omit [TextDecoder] in
/-- The id of the match plays no part. -/
theorem untouched_handleMatchEnd (pkt : SMatchEnd) :
    MatchUntouched game (game.handleMatchEnd pkt) ↔ game.engine.world = false := by
  rw [handleMatchEnd]
  cases world : game.engine.world with
  | false => exact iff_of_true (.refl game) rfl
  | true =>
    refine iff_of_false (not_untouched (List.append_assoc _ _ _) List.mem_cons_self trivial) ?_
    exact Bool.noConfusion

end GameInstance

/-- A packet of another match goes unnoticed exactly when it never reaches the
game instance or is recognized there. -/
theorem stale_untouched_iff {play next : Play} {msg : ServerMessage} (reached : play.Reached)
    (taken : play.Step (.packet msg) next) (stale : Stale play.history msg) :
    MatchUntouched play.state next.state ↔ (play.state.engine.Hosts → Recognized play msg) := by
  obtain ⟨id, about, _⟩ := stale
  by_cases hosts : play.state.engine.Hosts
  · rw [imp_iff_right hosts]
    have handled := (GameInstance.step_packet hosts).mp taken.1
    cases msg with
    | matchStart pkt =>
      rw [← Except.ok.inj handled, Recognized, ← matchId_announced reached]
      exact play.state.untouched_handleMatchStart pkt
    | matchState pkt =>
      rw [← Except.ok.inj handled, Recognized, ← matchId_announced reached]
      exact play.state.untouched_handleMatchState pkt
    | matchEnd pkt =>
      rw [← Except.ok.inj handled]
      exact play.state.untouched_handleMatchEnd pkt
    | _ => contradiction
  · rw [(GameInstance.step_lost hosts).mp taken.1]
    exact iff_of_true (.refl _) fun present => absurd present hosts

omit [TextDecoder] in
/-- The start of another match, recognized by its id. -/
theorem other_start_untouched :
    let announcement := GameInstance.Action.packet (.matchPrepare { matchInfo := { matchId := 1 } })
    let start := GameInstance.Action.packet (.matchStart { matchId := 2 })
    MatchUntouched (@Play.after asciiDecoder [announcement]).state
      (@Play.after asciiDecoder [announcement, start]).state := by
  intro announcement start
  let _ := asciiDecoder
  have taken : Play.Step (Play.after [announcement]) start (Play.after [announcement, start]) :=
    Play.step_of_perform rfl
  have recognized : (2 : UInt64) ≠ 1 := by decide
  exact (stale_untouched_iff (Play.reached_after _) taken ⟨2, rfl, by decide⟩).mpr fun _ => recognized

omit [TextDecoder] in
/-- The end of a match arrives in the lobby and pauses it. -/
theorem late_end_noticed :
    ¬ ∀ [TextDecoder] (play next : Play) (msg : ServerMessage), play.Reached →
      Play.Step play (.packet msg) next → Stale play.history msg →
      MatchUntouched play.state next.state := by
  intro claim
  let _ := asciiDecoder
  let lobby := Play.after [.packet (.matchPrepare { matchInfo := { matchId := 1 } }),
    .packet (.returnToRoom { roomInfo := some {} })]
  let paused := Play.after [.packet (.matchPrepare { matchInfo := { matchId := 1 } }),
    .packet (.returnToRoom { roomInfo := some {} }), .packet (.matchEnd { result := { matchId := 1 } })]
  have untouched := claim lobby paused (.matchEnd { result := { matchId := 1 } }) (Play.reached_after _)
    (Play.step_of_perform rfl) ⟨1, rfl, by decide⟩
  exact Bool.noConfusion untouched.paused

/-! ### Announcements that are rejected -/

/-- Nothing of the match has changed, and no level has been asked for. -/
structure MatchKept (game next : GameInstance) : Prop where
  clock : next.matchClock = game.matchClock
  matchPlayerInfo : next.matchPlayerInfo = game.matchPlayerInfo
  matchPlayerState : next.matchPlayerState = game.matchPlayerState
  players : next.players = game.players
  myPlayer : next.myPlayer = game.myPlayer
  openedLevels : next.engine.openedLevels = game.engine.openedLevels

/-- What is left after a rejection: the announced numbers, empty rosters, and
the actors of the match before. -/
structure MatchReplaced (pkt : SMatchPrepare) (game next : GameInstance) : Prop where
  clock : next.matchClock = game.matchClock.receive true (.matchPrepare pkt)
  matchPlayerInfo : next.matchPlayerInfo = []
  matchPlayerState : next.matchPlayerState = ∅
  players : next.players = game.players
  myPlayer : next.myPlayer = game.myPlayer
  openedLevels : next.engine.openedLevels = game.engine.openedLevels ++ ["GameMap"]

namespace GameInstance
variable {game next : GameInstance} {pkt : SMatchPrepare}

theorem replaced_of_malformed (malformed : ¬ pkt.WellFormed) (hosts : game.engine.Hosts)
    (taken : game.Step (.packet (.matchPrepare pkt)) next) : MatchReplaced pkt game next := by
  obtain rfl := Except.ok.inj ((step_packet hosts).mp taken)
  have rejected : pkt.matchInfo.matchPlayersInfo.length ≠ pkt.matchInfo.matchPlayersState.length :=
    malformed
  simp only [handlePrepareMatch, if_pos rejected]
  constructor <;> rfl

/-- A rejected announcement changes nothing exactly when no game instance is
found for it: the level is opened in any case. -/
theorem malformed_kept_iff (malformed : ¬ pkt.WellFormed)
    (taken : game.Step (.packet (.matchPrepare pkt)) next) :
    MatchKept game next ↔ ¬ game.engine.Hosts := by
  constructor
  · intro kept hosts
    have opened := (replaced_of_malformed malformed hosts taken).openedLevels
    rw [kept.openedLevels, List.self_eq_append_right] at opened
    exact List.cons_ne_nil _ _ opened
  · intro absent
    rw [(step_lost absent).mp taken]
    constructor <;> rfl

omit [TextDecoder] in
/-- Without a game instance an announcement is lost, lists and all. -/
theorem malformed_lost :
    MatchKept { engine := { gWorld := false } } { engine := { gWorld := false } } := by
  let _ := asciiDecoder
  have malformed : ¬ SMatchPrepare.WellFormed { matchInfo := { matchPlayersInfo := [{}] } } := by decide
  have taken : Step { engine := { gWorld := false } }
      (.packet (.matchPrepare { matchInfo := { matchPlayersInfo := [{}] } }))
      { engine := { gWorld := false } } := rfl
  exact (malformed_kept_iff malformed taken).mpr (by decide)

end GameInstance

omit [TextDecoder] in
/-- During a match, a second announcement without states ends every update. -/
theorem malformed_replaces :
    ¬ ∀ [TextDecoder] (play next : Play) (pkt : SMatchPrepare), play.Reached → ¬ pkt.WellFormed →
      Play.Step play (.packet (.matchPrepare pkt)) next → MatchKept play.state next.state := by
  intro claim
  let _ := asciiDecoder
  let announcement : SMatchPrepare :=
    { matchInfo := { matchId := 1, matchPlayersInfo := [{}], matchPlayersState := [{}] } }
  let malformed : SMatchPrepare := { matchInfo := { matchId := 1, matchPlayersInfo := [{}] } }
  have kept := claim (Play.after [.packet (.matchPrepare announcement)])
    (Play.after [.packet (.matchPrepare announcement), .packet (.matchPrepare malformed)]) malformed
    (Play.reached_after _) (by decide) (Play.step_of_perform rfl)
  exact List.cons_ne_nil _ _ kept.matchPlayerInfo.symm

/-! ### The final result -/

namespace GameInstance
variable {game ended next : GameInstance}

omit [TextDecoder] in
/-- What the getters say is what was announced, with no time left. -/
structure FinalResult (result : MatchResult) (game : GameInstance) : Prop where
  redScore : game.getRedScore = result.redScore.toInt32
  blueScore : game.getBlueScore = result.blueScore.toInt32
  remainSeconds : game.getRemainSeconds = 0

/-- A step after the end, in the same match. -/
def LaterStep (game : GameInstance) (action : Action) (next : GameInstance) : Prop :=
  game.Step action next ∧ ∀ pkt, action ≠ .packet (.matchPrepare pkt)

omit [TextDecoder] in
/-- The packets that would be stored repeat the result. -/
def RepeatsResult (result : MatchResult) (game : GameInstance) : Action → Prop
  | .packet (.matchState pkt) => game.engine.Hosts → pkt.matchState.matchId = game.matchId →
    pkt.matchState.remainingTimeSeconds = 0 ∧ pkt.matchState.redScore = result.redScore ∧
      pkt.matchState.blueScore = result.blueScore
  | .packet (.matchEnd pkt) => game.engine.Hosts → game.engine.world →
    pkt.result.redScore = result.redScore ∧ pkt.result.blueScore = result.blueScore
  | _ => True

end GameInstance

section
omit [TextDecoder]

def MatchClock.Shows (result : MatchResult) (clock : MatchClock) : Prop :=
  clock.redScore = result.redScore ∧ clock.blueScore = result.blueScore ∧ clock.remainSeconds = 0

theorem toInt32_inj {a b : UInt32} : a.toInt32 = b.toInt32 ↔ a = b :=
  ⟨fun same => congrArg Int32.toUInt32 same, congrArg _⟩

theorem GameInstance.finalResult_iff {result : MatchResult} {game : GameInstance} :
    FinalResult result game ↔ game.matchClock.Shows result := by
  constructor
  · rintro ⟨red, blue, remain⟩
    exact ⟨toInt32_inj.mp red, toInt32_inj.mp blue, toInt32_inj.mp remain⟩
  · rintro ⟨red, blue, remain⟩
    exact ⟨toInt32_inj.mpr red, toInt32_inj.mpr blue, toInt32_inj.mpr remain⟩

end

namespace GameInstance
variable {game ended next : GameInstance} {result : MatchResult}

omit [TextDecoder] in
theorem shows_lost (absent : ¬ game.engine.Hosts) (msg : ServerMessage) :
    RepeatsResult result game (.packet msg) := by
  cases msg with
  | matchState pkt => exact fun hosts => absurd hosts absent
  | matchEnd pkt => exact fun hosts => absurd hosts absent
  | _ => trivial

theorem finalResult_step (holds : FinalResult result game) (taken : LaterStep game action next) :
    FinalResult result next ↔ RepeatsResult result game action := by
  have shown := finalResult_iff.mp holds
  rw [finalResult_iff]
  obtain ⟨taken, later⟩ := taken
  cases action with
  | prepareMatch =>
    rw [matchClock_prepareMatch taken]
    exact iff_of_true shown trivial
  | engine | connection =>
    obtain rfl := Except.ok.inj taken
    exact iff_of_true shown trivial
  | packet msg =>
    by_cases hosts : game.engine.Hosts
    · rw [matchClock_received ((step_packet hosts).mp taken)]
      cases msg with
      | matchPrepare pkt => exact absurd rfl (later pkt)
      | matchState pkt =>
        by_cases same : game.matchClock.matchId = pkt.matchState.matchId
        · simp only [MatchClock.receive, same, not_true, if_false, MatchClock.Shows, RepeatsResult, ne_eq]
          constructor
          · rintro ⟨red, blue, remain⟩ _ _
            exact ⟨remain, red, blue⟩
          · intro repeats
            obtain ⟨remain, red, blue⟩ := repeats hosts same.symm
            exact ⟨red, blue, remain⟩
        · simp only [MatchClock.receive, same, not_false_eq_true, if_true, ne_eq]
          exact iff_of_true shown fun _ current => absurd current.symm same
      | matchEnd pkt =>
        by_cases world : game.engine.world = true
        · simp only [MatchClock.receive, world, if_true, MatchClock.Shows, RepeatsResult, and_true]
          exact ⟨fun scores _ _ => scores, fun repeats => repeats hosts trivial⟩
        · simp only [MatchClock.receive, world]
          exact iff_of_true shown fun _ present => absurd present world
      | _ => exact iff_of_true shown trivial
    · rw [(step_lost hosts).mp taken]
      exact iff_of_true shown (shows_lost hosts msg)

omit [TextDecoder] in
theorem finalResult_handleMatchEnd (pkt : SMatchEnd) (world : game.engine.world = true) :
    FinalResult pkt.result (game.handleMatchEnd pkt) := by
  rw [finalResult_iff, matchClock_handleMatchEnd, world]
  exact ⟨rfl, rfl, rfl⟩

omit [TextDecoder] in
theorem broadcasts_handleMatchEnd (pkt : SMatchEnd) (world : game.engine.world = true) :
    (game.handleMatchEnd pkt).broadcasts = game.broadcasts ++ [.onMatchStateUpdated,
      .onMatchEnded (roomTeam pkt.result.winnerTeam) pkt.result.redScore.toInt32
        pkt.result.blueScore.toInt32] := by
  rw [handleMatchEnd, if_neg (not_not_intro world)]
  exact List.append_assoc _ _ _

/-- After an end that is shown, the scores it announces stay exactly as long as
every state of the same id and every other end behind it says the same. -/
theorem final_result_iff {pkt : SMatchEnd} (hosts : game.engine.Hosts) (world : game.engine.world = true)
    (ending : game.Step (.packet (.matchEnd pkt)) ended) (run : Run LaterStep ended path) :
    (∃ winnerTeam, ended.broadcasts = game.broadcasts ++ [.onMatchStateUpdated,
      .onMatchEnded winnerTeam pkt.result.redScore.toInt32 pkt.result.blueScore.toInt32]) ∧
    (EveryState (FinalResult pkt.result) ended path ↔ EveryStep (RepeatsResult pkt.result) ended path) := by
  have handled : game.handleMatchEnd pkt = ended := Except.ok.inj ((step_packet hosts).mp ending)
  have announced : FinalResult pkt.result ended := by
    rw [← handled]
    exact finalResult_handleMatchEnd pkt world
  constructor
  · rw [← handled]
    exact ⟨_, broadcasts_handleMatchEnd pkt world⟩
  · exact everyState_iff_of_step (P := fun _ => True) (fun _ _ _ _ _ => trivial)
      (fun _ _ _ _ holds taken => finalResult_step holds taken) run trivial announced

omit [TextDecoder] in
/-- A tick of another match does no harm. -/
theorem final_result_kept :
    let ended := (initial {} {} none none).handleMatchEnd { result := { redScore := 3 } }
    EveryState (FinalResult { redScore := 3 }) ended
      [(Action.packet (.matchState { matchState := { matchId := 5 } }), ended)] := by
  intro ended
  let _ := asciiDecoder
  have ending : (initial {} {} none none).Step (.packet (.matchEnd { result := { redScore := 3 } })) ended := rfl
  have tick : ended.Step (.packet (.matchState { matchState := { matchId := 5 } })) ended := rfl
  have run : Run LaterStep ended [(_, ended)] := ⟨⟨tick, fun _ => nofun⟩, trivial⟩
  have other : (5 : UInt64) ≠ 0 := by decide
  exact (final_result_iff ⟨rfl, rfl⟩ rfl ending run).2.mpr ⟨fun _ same => absurd same other, trivial⟩

omit [TextDecoder] in
/-- A tick of the same match that was sent just before the end arrives after it. -/
theorem final_result_overwritten :
    ¬ ∀ [TextDecoder] (play : Play) (ended last : GameInstance) (pkt : SMatchEnd), play.Reached →
      currentMatch play.history = some pkt.result.matchId → play.state.engine.Hosts →
      play.state.engine.world = true → play.state.Step (.packet (.matchEnd pkt)) ended →
      Reachable LaterStep ended last → FinalResult pkt.result last := by
  intro claim
  let _ := asciiDecoder
  let announcement := Action.packet (.matchPrepare { matchInfo := { matchId := 1 } })
  let result : SMatchEnd := { result := { matchId := 1, redScore := 3 } }
  let tick := Action.packet (.matchState { matchState := { matchId := 1, remainingTimeSeconds := 1, redScore := 3 } })
  let ended := (Play.after [announcement, .packet (.matchEnd result)]).state
  let last := (Play.after [announcement, .packet (.matchEnd result), tick]).state
  have later : LaterStep ended tick last := ⟨rfl, fun _ => by simp [tick]⟩
  have final := claim (Play.after [announcement]) ended last result (Play.reached_after _) rfl ⟨rfl, rfl⟩ rfl rfl
    ⟨[(tick, last)], ⟨later, trivial⟩, rfl⟩
  exact absurd final.remainSeconds (by decide)

end GameInstance

end ArenaClient
