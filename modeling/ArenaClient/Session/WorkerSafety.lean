import ArenaClient.Session.WholeCalls

/-! When a worker thread outlives its socket or its own object, over every
interleaving of the game thread and the workers and any number of connections.
Nothing in the code makes a thread leave `Run` before either of them ends. -/
namespace ArenaClient.Lifetime
open Transition

/-! ### Worker threads in their loops -/

namespace Session

variable {session next : Session} {action : Action} {held : Bool}

/-- No worker object is let go of while its thread is in `Run`. -/
def ReleasesLate (session : Session) (action : Action) : Prop :=
  ∀ role w, action = .release role → session.worker role = some w → w.inRun = false

/-- Every step writes one worker and leaves the others as they were. -/
theorem setWorker_inRun {middle : Session} {old new w : Worker}
    (found : (middle.setWorker turn new).worker role = some w) (inRun : w.inRun = true)
    (same : middle.worker = session.worker) (was : session.worker turn = some old)
    (keeps : new.inRun = true →
      old.inRun = true ∧ old.socket = new.socket ∧ old.released = new.released) :
    ∃ before, session.worker role = some before ∧ before.inRun = true ∧
      before.socket = w.socket ∧ before.released = w.released := by
  rw [worker_setWorker] at found
  split at found
  · rename_i here
    obtain rfl := Option.some.inj found
    exact ⟨old, here ▸ was, keeps inRun⟩
  · exact ⟨w, same ▸ found, inRun, rfl, rfl⟩

/-- What a step that releases late leaves of a worker thread in `Run`. -/
theorem Step.inRun (taken : Step held session action next) (late : session.ReleasesLate action)
    (found : next.worker role = some w) (inRun : w.inRun = true) :
    ∃ before, session.worker role = some before ∧ before.inRun = true ∧
      before.socket = w.socket ∧ before.released = w.released := by
  cases taken with
  | pin was | unpin was | destroy _ _ was | enqueue was =>
    exact setWorker_inRun found inRun rfl was (fun inRun => ⟨inRun, rfl, rfl⟩)
  | exit was => exact setWorker_inRun found inRun rfl was (fun left => Bool.noConfusion left)
  | release _ was =>
    have left := late _ _ rfl was
    exact setWorker_inRun found inRun rfl was (fun inRun => Bool.noConfusion (left.symm.trans inRun))

end Session

namespace Client

variable {client next : Client} {action : Action} {steps : List (Action × Client)}

/-- No worker outlives what it uses. -/
def Safe (client : Client) : Prop :=
  ∀ k role w, (client.sessions k).worker role = some w → w.inRun = true →
    client.live w.socket = true ∧ w.released = false

/-- `DisconnectFromGameServer` does not get to `DestroySocket`, and the workers
of a dying session have left their loops when they are released. -/
def Orderly (client : Client) (action : Action) : Prop :=
  action ≠ .destroySocket ∧
    ∀ k act, action = .session k act → (client.sessions k).ReleasesLate act

theorem safe_start : Safe {} := by
  intro k role w found
  cases found

theorem drop_worker (client : Client) (thread : Thread) (k i : SessionId) :
    ((client.drop thread k).sessions i).worker = (client.sessions i).worker := by
  rcases drop_cases client thread k with same | ⟨_, _, dropped⟩
  · rw [same]
  · rw [dropped, sessions_setSession]
    split
    · rename_i here
      rw [here]
    · rfl

theorem drop_live (client : Client) (thread : Thread) (k : SessionId) :
    (client.drop thread k).live = client.live := by
  rcases drop_cases client thread k with same | ⟨_, _, dropped⟩
  · rw [same]
  · rw [dropped]
    rfl

theorem Safe.drop (safe : Safe client) (thread : Thread) (k : SessionId) :
    Safe (client.drop thread k) := by
  intro i role w found inRun
  rw [drop_worker] at found
  rw [drop_live]
  exact safe i role w found inRun

theorem Safe.dropOld (safe : Safe client) (old : Option SessionId) : Safe (client.dropOld old) := by
  cases old with
  | none => exact safe
  | some k => exact safe.drop .game k

/-- It is enough to look at the session that changes. -/
theorem Safe.setSession (safe : Safe client) (k : SessionId)
    (changed : ∀ role w, after.worker role = some w → w.inRun = true →
      client.live w.socket = true ∧ w.released = false) : Safe (client.setSession k after) := by
  intro i role w found inRun
  rw [sessions_setSession] at found
  split at found
  · exact changed role w found inRun
  · exact safe i role w found inRun

theorem Safe.session (safe : Safe client)
    (taken : Session.Step referenced (client.sessions k) act after)
    (late : (client.sessions k).ReleasesLate act) : Safe (client.setSession k after) := by
  refine safe.setSession k fun role w found inRun => ?_
  obtain ⟨before, was, inRun, socket, released⟩ := taken.inRun late found inRun
  exact socket ▸ released ▸ safe k role before was inRun

/-- The socket of a failed connection has never had a worker. -/
theorem Safe.connectFailed (safe : Safe client) (consistent : Consistent client)
    (calling : client.call = some (.connecting s)) : Safe (client.destroySocket s) := by
  obtain ⟨_, _, _, unused⟩ := consistent.connecting s calling
  intro k role w found inRun
  have made : k < client.nextSession := by
    apply Nat.lt_of_not_le
    intro unmade
    have none : (client.sessions k).worker role = none := by rw [consistent.unmade k unmade]
    exact nomatch none.symm.trans found
  have other : w.socket ≠ s := (consistent.sound k).sockets role w found ▸ unused k made
  obtain ⟨live, kept⟩ := safe k role w found inRun
  rw [live_destroySocket, if_neg other]
  exact ⟨live, kept⟩

theorem Safe.step (consistent : Consistent client) (safe : Safe client)
    (orderly : Orderly client action) (taken : Step client action next) : Safe next := by
  cases taken with
  | createSocket may closed =>
    intro k role w found inRun
    obtain ⟨live, kept⟩ := safe k role w found inRun
    constructor
    · rw [live_createSocket]
      split
      · rfl
      · exact live
    · exact kept
  | connectFailed awake calling => exact safe.connectFailed consistent calling
  | connectSucceeded awake calling =>
    apply Safe.dropOld
    exact safe.setSession client.nextSession (fun role w found => nomatch found)
  | @startWorker k role awake calling =>
    obtain ⟨_, _, live, _⟩ := consistent.starting k role calling
    refine safe.setSession k fun other w found inRun => ?_
    rw [Session.worker_setWorker] at found
    split at found
    · cases found
      exact ⟨live, rfl⟩
    · exact safe k other w found inRun
  | destroySocket => exact absurd rfl orderly.1
  | dispatch awake idle looping alive queued => exact safe.setSession _ (safe _)
  | handlerReturned | releaseSession =>
    apply Safe.drop
    exact safe
  | session taken other => exact safe.session taken (orderly.2 _ _ rfl)
  | unpin taken =>
    refine (safe.session taken ?_).drop (.worker _) _
    intro role w same
    cases same
  | leave | handleRecvPackets | dispatchFreed | drained => exact safe

/-- At `DestroySocket` both workers of the current session are in their loops:
the only one who stops them is the destructor, and the session is referenced. -/
theorem destroySocket_unsafe (consistent : Consistent client) (calling : client.call = some .leaving)
    (open' : client.socket = some s) : ¬ Safe (client.destroySocket s) := by
  intro safe
  obtain ⟨_, k, _, valid⟩ := consistent.leaving calling
  obtain ⟨same, started⟩ := consistent.connected (.inr calling) s k open' valid
  obtain ⟨w, found⟩ := Option.isSome_iff_exists.mp (started .recv)
  have sound := consistent.sound k
  have socket : w.socket = s := (sound.sockets .recv w found).trans same
  have inRun : w.inRun = true := by
    cases left : w.inRun with
    | true => rfl
    | false =>
      have stops := sound.stops .recv w found (sound.exits .recv w found left)
      exact absurd (consistent.current k valid).2 stops
  have live := (safe k .recv w found inRun).1
  rw [socket, live_destroySocket, if_pos rfl] at live
  cases live

theorem release_unsafe (taken : Session.Step referenced (client.sessions k) act after)
    (early : ¬ (client.sessions k).ReleasesLate act) : ¬ Safe (client.setSession k after) := by
  intro safe
  refine early fun role w same found => ?_
  subst same
  cases taken with
  | release ended was =>
    obtain rfl := Option.some.inj (found.symm.trans was)
    cases inRun : w.inRun with
    | false => rfl
    | true =>
      have kept := (safe k role { w with released := true } (by simp) inRun).2
      cases kept

theorem not_safe_of_not_orderly (consistent : Consistent client) (taken : Step client action next)
    (disorder : ¬ Orderly client action) : ¬ Safe next := by
  cases taken with
  | destroySocket awake calling open' => exact destroySocket_unsafe consistent calling open'
  | session taken other =>
    refine release_unsafe taken fun late => disorder ⟨by simp, ?_⟩
    rintro _ _ ⟨⟩
    exact late
  | _ => exact absurd ⟨by simp, by simp⟩ disorder

/-- The worker threads are safe in exactly the runs in which no connection is
ever torn down by `DisconnectFromGameServer` and no worker is released early. -/
theorem everyState_safe_iff (run : Run Step {} steps) :
    EveryState Safe {} steps ↔ EveryStep Orderly {} steps :=
  everyState_iff_everyStep (P := Consistent) (fun _ _ _ => Consistent.step)
    (fun _ _ _ => Safe.step) (fun _ _ _ => not_safe_of_not_orderly)
    run consistent_start safe_start

theorem safe_while_connected : EveryState Safe {} (connectSteps {}) := by
  have run := (connectSteps_run mayCall_start rfl rfl).1
  apply (everyState_safe_iff run).mpr
  simp [EveryStep, connectSteps, Orderly]

/-- One connection that is closed again: the receive thread goes on with a
destroyed socket. -/
theorem disconnect_unsafe : ∃ steps, Run Step {} steps ∧ ¬ EveryState Safe {} steps := by
  obtain ⟨run, may⟩ := connectSteps_run mayCall_start rfl rfl
  refine ⟨_, run.append (disconnectSteps_run may rfl rfl), fun every => ?_⟩
  have live := (every.last 0 .recv { socket := 0 } rfl rfl).1
  cases live

end Client
end ArenaClient.Lifetime
