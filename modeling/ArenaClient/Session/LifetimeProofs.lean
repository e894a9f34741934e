import ArenaClient.Session.Lifetime

/-! What holds in every reachable state of the client, whatever the threads do:
which socket a session and its workers have, who may stop a worker, and where
the game thread's calls stand. -/
namespace ArenaClient.Lifetime
open Transition

/-! ### One session -/

namespace Session

variable {session next : Session} {action : Action} {held : Bool}

/-- A worker has the socket of its session, leaves its loop only when told to
stop, and is told so only by the destructor; a queue holds what came from the
socket of its session. -/
structure Sound (session : Session) : Prop where
  queue : ∀ received ∈ session.recvPacketQueue, received.socket = session.socket
  sockets : ∀ role w, session.worker role = some w → w.socket = session.socket
  exits : ∀ role w, session.worker role = some w → w.inRun = false → w.running = false
  stops : ∀ role w, session.worker role = some w → w.running = false → session.destructor ≠ none

theorem sound_fresh (s : SocketId) : Sound { socket := s } := ⟨by simp, by simp, by simp, by simp⟩

theorem worker_setWorker (session : Session) (role other : Role) (w : Worker) :
    (session.setWorker role w).worker other = if other = role then some w else session.worker other := by
  exact Function.update_apply ..

@[simp] theorem worker_setWorker_self (session : Session) (role : Role) (w : Worker) :
    (session.setWorker role w).worker role = some w := Function.update_self ..

theorem setWorker_self (found : session.worker role = some w) : session.setWorker role w = session := by
  simp [setWorker, ← found]

theorem Sound.setWorker (sound : Sound session) (role : Role) {w : Worker}
    (socket : w.socket = session.socket) (exits : w.inRun = false → w.running = false)
    (stops : w.running = false → session.destructor ≠ none) : Sound (session.setWorker role w) where
  queue := sound.queue
  sockets := by
    intro other w' found
    rw [worker_setWorker] at found
    split at found
    · exact Option.some.inj found ▸ socket
    · exact sound.sockets other w' found
  exits := by
    intro other w' found
    rw [worker_setWorker] at found
    split at found
    · exact Option.some.inj found ▸ exits
    · exact sound.exits other w' found
  stops := by
    intro other w' found
    rw [worker_setWorker] at found
    split at found
    · exact Option.some.inj found ▸ stops
    · exact sound.stops other w' found

theorem Sound.enqueue (sound : Sound session) {received : Received}
    (socket : received.socket = session.socket) : Sound (session.enqueue received) where
  queue := by
    intro other member
    rcases List.mem_append.mp member with old | new
    · exact sound.queue other old
    · exact List.mem_singleton.mp new ▸ socket
  sockets := sound.sockets
  exits := sound.exits
  stops := sound.stops

theorem Sound.dequeue (sound : Sound session) (queued : session.recvPacketQueue = received :: rest) :
    Sound { session with recvPacketQueue := rest } where
  queue other member := sound.queue other (queued ▸ List.mem_cons_of_mem _ member)
  sockets := sound.sockets
  exits := sound.exits
  stops := sound.stops

theorem Sound.step (sound : Sound session) (taken : Step held session action next) : Sound next := by
  cases taken with
  | pin found | unpin found | release _ found =>
    have socket := sound.sockets _ _ found
    have exits := sound.exits _ _ found
    have stops := sound.stops _ _ found
    exact sound.setWorker _ socket exits stops
  | enqueue found pinned =>
    have socket := sound.sockets _ _ found
    have exits := sound.exits _ _ found
    have stops := sound.stops _ _ found
    exact (sound.enqueue socket).setWorker _ socket exits stops
  | exit found inRun stopped =>
    have socket := sound.sockets _ _ found
    have stops := sound.stops _ _ found
    exact sound.setWorker _ socket (fun _ => stopped) stops
  | destroy ended order found =>
    have socket := sound.sockets _ _ found
    exact sound.setWorker _ socket (fun _ => rfl) (fun _ => by simp [ended])

/-- What no step on a session changes. -/
structure Kept (session next : Session) : Prop where
  socket : next.socket = session.socket
  destructor : next.destructor = session.destructor
  started : ∀ role, (next.worker role).isSome = (session.worker role).isSome

theorem kept_setWorker (found : session.worker role = some w) (w' : Worker) :
    Kept session (session.setWorker role w') where
  socket := rfl
  destructor := rfl
  started := by
    intro other
    rw [worker_setWorker]
    split
    · rename_i same
      rw [same, found]
      rfl
    · rfl

theorem Kept.enqueue (kept : Kept (session.enqueue received) next) : Kept session next :=
  ⟨kept.socket, kept.destructor, kept.started⟩

theorem Step.found (taken : Step held session action next) : ∃ role w, session.worker role = some w := by
  cases taken with
  | enqueue found | pin found | unpin found | exit found | destroy _ _ found | release _ found =>
    exact ⟨_, _, found⟩

theorem Step.kept (taken : Step held session action next) : Kept session next := by
  cases taken with
  | enqueue found pinned =>
    apply Kept.enqueue
    apply kept_setWorker
    exact found
  | pin found | unpin found | exit found | destroy _ _ found | release _ found =>
    exact kept_setWorker found _

end Session

/-! ### The client -/

namespace Client

variable {client next : Client} {action : Action}

theorem sessions_setSession (client : Client) (k i : SessionId) (session : Session) :
    (client.setSession k session).sessions i = if i = k then session else client.sessions i :=
  Function.update_apply ..

@[simp] theorem sessions_setSession_self (client : Client) (k : SessionId) (session : Session) :
    (client.setSession k session).sessions k = session := Function.update_self ..

theorem live_createSocket (client : Client) (s : SocketId) :
    client.createSocket.live s = if s = client.nextSocket then true else client.live s :=
  Function.update_apply ..

theorem live_destroySocket (client : Client) (s other : SocketId) :
    (client.destroySocket s).live other = if other = s then false else client.live other :=
  Function.update_apply ..

/-- Dropping a reference changes at most who runs the destructor, and never the
session that the game instance holds. -/
theorem drop_cases (client : Client) (thread : Thread) (k : SessionId) :
    client.drop thread k = client ∨
      (client.gameServerSession ≠ some k ∧ (client.sessions k).destructor = none ∧
        client.drop thread k =
          client.setSession k { client.sessions k with destructor := some thread }) := by
  unfold drop
  split
  · exact .inl rfl
  · rename_i last
    simp only [not_or, Option.not_isSome_iff_eq_none] at last
    refine .inr ⟨fun current => last.1 ?_, last.2, rfl⟩
    simp [held, current]

theorem drop_current (valid : client.gameServerSession = some k) (thread : Thread) :
    client.drop thread k = client := by
  rcases drop_cases client thread k with same | ⟨released, _⟩
  · exact same
  · exact absurd valid released

/-- Outside `ConnectToGameServer`. -/
def Settled (client : Client) : Prop := client.call = none ∨ client.call = some .leaving

/-- Sockets and sessions are new when they are made, the held session is not
being destroyed, and between calls the socket of the game instance is that of
its session, whose workers have both been started. -/
structure Consistent (client : Client) : Prop where
  sound : ∀ k, (client.sessions k).Sound
  unmade : ∀ k, client.nextSession ≤ k → client.sessions k = { socket := 0 }
  sockets : ∀ k < client.nextSession, (client.sessions k).socket < client.nextSocket
  current : ∀ k, client.gameServerSession = some k →
    k < client.nextSession ∧ (client.sessions k).destructor = none
  drained : ∀ drain ∈ client.drains, drain.session < client.nextSession
  connecting : ∀ s, client.call = some (.connecting s) → client.socket = some s ∧
    s < client.nextSocket ∧ client.live s = true ∧
    ∀ k < client.nextSession, (client.sessions k).socket ≠ s
  starting : ∀ k role, client.call = some (.starting k role) → client.gameServerSession = some k ∧
    client.socket = some (client.sessions k).socket ∧ client.live (client.sessions k).socket = true ∧
    (role = .send → ((client.sessions k).worker .recv).isSome = true)
  leaving : client.call = some .leaving →
    ∃ s k, client.socket = some s ∧ client.gameServerSession = some k
  connected : client.Settled → ∀ s k, client.socket = some s → client.gameServerSession = some k →
    (client.sessions k).socket = s ∧ ∀ role, ((client.sessions k).worker role).isSome = true

theorem consistent_start : Consistent {} where
  sound _ := Session.sound_fresh 0
  unmade _ _ := rfl
  sockets := by simp
  current := by simp
  drained := by simp
  connecting := by simp
  starting := by simp
  leaving := by simp
  connected := by simp

/-- A session that has been made may change in what no invariant speaks of. -/
theorem Consistent.setSession (consistent : Consistent client) (made : k < client.nextSession)
    (sound : session.Sound) (socket : session.socket = (client.sessions k).socket)
    (started : ∀ role, ((client.sessions k).worker role).isSome = true →
      (session.worker role).isSome = true)
    (destructor : client.gameServerSession = some k → session.destructor = none) :
    Consistent (client.setSession k session) where
  sound i := by
    rw [sessions_setSession]
    split
    · exact sound
    · exact consistent.sound i
  unmade i later := by
    have other : i ≠ k := Nat.ne_of_gt (Nat.lt_of_lt_of_le made later)
    rw [sessions_setSession, if_neg other]
    exact consistent.unmade i later
  sockets i earlier := by
    rw [sessions_setSession]
    split
    · rw [socket]
      exact consistent.sockets k made
    · exact consistent.sockets i earlier
  current i held := by
    have current := consistent.current i held
    rw [sessions_setSession]
    split
    · rename_i same
      exact ⟨current.1, destructor (same ▸ held)⟩
    · exact current
  drained := consistent.drained
  connecting s calling := by
    obtain ⟨open', bound, live, unused⟩ := consistent.connecting s calling
    refine ⟨open', bound, live, fun i earlier => ?_⟩
    rw [sessions_setSession]
    split
    · rw [socket]
      exact unused k made
    · exact unused i earlier
  starting i role calling := by
    obtain ⟨held, open', live, recv⟩ := consistent.starting i role calling
    rw [sessions_setSession]
    split
    · rename_i same
      subst same
      rw [socket]
      exact ⟨held, open', live, fun send => started _ (recv send)⟩
    · exact ⟨held, open', live, recv⟩
  leaving := consistent.leaving
  connected settled s i open' held := by
    obtain ⟨same, both⟩ := consistent.connected settled s i open' held
    rw [sessions_setSession]
    split
    · rename_i here
      subst here
      exact ⟨socket.trans same, fun role => started role (both role)⟩
    · exact ⟨same, both⟩

theorem Consistent.drop (consistent : Consistent client) (made : k < client.nextSession)
    (thread : Thread) : Consistent (client.drop thread k) := by
  rcases drop_cases client thread k with same | ⟨released, _, dropped⟩
  · rwa [same]
  · rw [dropped]
    have sound := consistent.sound k
    exact consistent.setSession made
      ⟨sound.queue, sound.sockets, sound.exits, fun _ _ _ _ => Option.some_ne_none _⟩ rfl
      (fun _ => id) (fun held => absurd held released)

theorem Consistent.setDrains (consistent : Consistent client) {drains : List Drain}
    (drained : ∀ drain ∈ drains, drain.session < client.nextSession) :
    Consistent { client with drains } :=
  { consistent with drained }

/-- The running drain moves on. -/
theorem Consistent.setHandling (consistent : Consistent client) (handling : Bool)
    (running : client.drains = drain :: outer) : drain.session < client.nextSession ∧
      Consistent { client with drains := { session := drain.session, handling } :: outer } := by
  have drained := consistent.drained
  rw [running] at drained
  obtain ⟨first, others⟩ := List.forall_mem_cons.mp drained
  exact ⟨first, consistent.setDrains (List.forall_mem_cons.mpr ⟨first, others⟩)⟩

theorem Consistent.createSocket (consistent : Consistent client) : Consistent client.createSocket where
  sound := consistent.sound
  unmade := consistent.unmade
  sockets k made := Nat.lt_succ_of_lt (consistent.sockets k made)
  current := consistent.current
  drained := consistent.drained
  connecting := by
    rintro _ ⟨rfl⟩
    refine ⟨rfl, Nat.lt_succ_self _, Function.update_self .., fun k made => ?_⟩
    exact Nat.ne_of_lt (consistent.sockets k made)
  starting _ _ calling := nomatch calling
  leaving calling := nomatch calling
  connected settled := by rcases settled with calling | calling <;> cases calling

theorem Consistent.destroySocket (consistent : Consistent client) (s : SocketId) :
    Consistent (client.destroySocket s) where
  sound := consistent.sound
  unmade := consistent.unmade
  sockets := consistent.sockets
  current := consistent.current
  drained := consistent.drained
  connecting _ calling := nomatch calling
  starting _ _ calling := nomatch calling
  leaving calling := nomatch calling
  connected _ _ _ open' := nomatch open'

theorem Consistent.dropOld (consistent : Consistent client) (old : Option SessionId)
    (made : ∀ k, old = some k → k < client.nextSession) : Consistent (client.dropOld old) := by
  cases old with
  | none => exact consistent
  | some k => exact consistent.drop (made k rfl) .game

theorem Consistent.makeSession (consistent : Consistent client)
    (calling : client.call = some (.connecting s)) : Consistent (client.makeSession s) := by
  obtain ⟨open', bound, live, _⟩ := consistent.connecting s calling
  refine Consistent.dropOld ?_ _ fun k held => Nat.lt_succ_of_lt (consistent.current k held).1
  exact {
    sound := by
      intro i
      rw [sessions_setSession]
      split
      · exact Session.sound_fresh s
      · exact consistent.sound i
    unmade := by
      intro i later
      rw [sessions_setSession, if_neg (Nat.ne_of_gt later)]
      exact consistent.unmade i (Nat.le_of_succ_le later)
    sockets := by
      intro i earlier
      rw [sessions_setSession]
      split
      · exact bound
      · rename_i other
        exact consistent.sockets i (Nat.lt_of_le_of_ne (Nat.le_of_lt_succ earlier) other)
    current := by
      rintro _ ⟨rfl⟩
      rw [sessions_setSession_self]
      exact ⟨Nat.lt_succ_self _, rfl⟩
    drained := fun drain member => Nat.lt_succ_of_lt (consistent.drained drain member)
    connecting := fun _ again => nomatch again
    starting := by
      rintro _ _ ⟨rfl, rfl⟩
      rw [sessions_setSession_self]
      exact ⟨rfl, open', live, fun send => nomatch send⟩
    leaving := fun again => nomatch again
    connected := by rintro (again | again) <;> cases again }

theorem Consistent.startWorker (consistent : Consistent client)
    (calling : client.call = some (.starting k role)) : Consistent (client.startWorker k role) := by
  obtain ⟨held, open', live, recv⟩ := consistent.starting k role calling
  have current := consistent.current k held
  let w : Worker := { socket := (client.sessions k).socket }
  have sound : ((client.sessions k).setWorker role w).Sound :=
    (consistent.sound k).setWorker role rfl (fun left => nomatch left) (fun stopped => nomatch stopped)
  have started : ∀ other, other = role ∨ ((client.sessions k).worker other).isSome = true →
      (((client.sessions k).setWorker role w).worker other).isSome = true := by
    intro other either
    rw [Session.worker_setWorker]
    split
    · rfl
    · rename_i different
      exact either.resolve_left different
  have set := consistent.setSession current.1 sound rfl (fun other was => started other (.inr was))
    (fun _ => current.2)
  exact {
    sound := set.sound
    unmade := set.unmade
    sockets := set.sockets
    current := set.current
    drained := set.drained
    connecting := by
      intro s again
      cases role <;> cases again
    starting := by
      intro i other again
      cases role with
      | send => cases again
      | recv =>
        cases again
        simp only [Client.startWorker, sessions_setSession]
        exact ⟨held, open', live, fun _ => started .recv (.inl rfl)⟩
    leaving := by
      intro again
      cases role <;> cases again
    connected := by
      intro settled s i open'' held'
      cases role with
      | recv => rcases settled with again | again <;> cases again
      | send =>
        obtain rfl : k = i := Option.some.inj (held.symm.trans held')
        simp only [Client.startWorker, sessions_setSession]
        constructor
        · exact Option.some.inj (open'.symm.trans open'')
        · intro other
          cases other with
          | send => exact started .send (.inl rfl)
          | recv => exact started .recv (.inr (recv rfl)) }

/-- A step on a session is one on a session that has been made. -/
theorem Consistent.session (consistent : Consistent client)
    (taken : Session.Step referenced (client.sessions k) act after) :
    k < client.nextSession ∧ Consistent (client.setSession k after) := by
  have made : k < client.nextSession := by
    obtain ⟨role, w, found⟩ := taken.found
    apply Nat.lt_of_not_le
    intro unmade
    rw [consistent.unmade k unmade] at found
    cases found
  have kept := taken.kept
  refine ⟨made, ?_⟩
  apply consistent.setSession made ((consistent.sound k).step taken) kept.socket
  · exact fun role was => (kept.started role).trans was
  · exact fun current => kept.destructor.trans (consistent.current k current).2

theorem Consistent.releaseSession (consistent : Consistent client) (idle : client.call = none) :
    Consistent { client with gameServerSession := none } where
  sound := consistent.sound
  unmade := consistent.unmade
  sockets := consistent.sockets
  current _ held := nomatch held
  drained := consistent.drained
  connecting := consistent.connecting
  starting _ _ calling := nomatch idle.symm.trans calling
  leaving calling := nomatch idle.symm.trans calling
  connected _ _ _ _ held := nomatch held

theorem Consistent.step (consistent : Consistent client) (taken : Step client action next) :
    Consistent next := by
  cases taken with
  | createSocket may closed => exact consistent.createSocket
  | connectFailed awake calling => exact consistent.destroySocket _
  | connectSucceeded awake calling => exact consistent.makeSession calling
  | startWorker awake calling => exact consistent.startWorker calling
  | leave may open' valid =>
    exact {
      sound := consistent.sound
      unmade := consistent.unmade
      sockets := consistent.sockets
      current := consistent.current
      drained := consistent.drained
      connecting := fun _ calling => nomatch calling
      starting := fun _ _ calling => nomatch calling
      leaving := fun _ => ⟨_, _, open', valid⟩
      connected := fun _ => consistent.connected (.inl may.2.1) }
  | destroySocket awake calling open' => exact consistent.destroySocket _
  | handleRecvPackets may open' valid =>
    refine consistent.setDrains fun drain member => ?_
    rcases List.mem_cons.mp member with rfl | older
    · exact (consistent.current _ valid).1
    · exact consistent.drained drain older
  | dispatch awake idle looping alive queued =>
    obtain ⟨made, handling⟩ := consistent.setHandling true looping
    exact handling.setSession made ((consistent.sound _).dequeue queued) rfl (fun _ => id) (fun _ => alive)
  | dispatchFreed awake idle looping freed => exact (consistent.setHandling true looping).2
  | handlerReturned awake idle handling =>
    obtain ⟨made, looping⟩ := consistent.setHandling false handling
    exact looping.drop made .game
  | drained awake idle looping empty =>
    have drained := consistent.drained
    rw [looping] at drained
    exact consistent.setDrains (List.forall_mem_cons.mp drained).2
  | releaseSession may top valid =>
    exact (consistent.releaseSession may.2.1).drop (consistent.current _ valid).1 .game
  | session taken other => exact (consistent.session taken).2
  | unpin taken =>
    obtain ⟨made, set⟩ := consistent.session taken
    exact set.drop made (.worker _)

end Client
end ArenaClient.Lifetime
