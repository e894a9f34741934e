import ArenaClient.Session.LifetimeProofs

/-! Calls that go through from beginning to end: a first `ConnectToGameServer`,
a `DisconnectFromGameServer`, and a pass of the receive worker. -/
namespace ArenaClient.Lifetime.Client
open Transition

variable {client : Client}

theorem mayCall_start : MayCall {} := by
  refine ⟨?_, rfl, by simp⟩
  rintro k ⟨ended, _⟩
  cases ended

theorem Awake.setSession (awake : client.Awake) (k : SessionId) (alive : after.destructor = none) :
    (client.setSession k after).Awake := by
  intro i
  rw [sessions_setSession]
  split
  · rintro ⟨ended, _⟩
    exact nomatch alive.symm.trans ended
  · exact awake i

theorem Awake.startWorker (awake : client.Awake) (alive : (client.sessions k).destructor = none)
    (role : Role) : (client.startWorker k role).Awake := by
  exact awake.setSession k alive

/-! ### Connecting and disconnecting -/

/-- A `ConnectToGameServer` that succeeds. -/
def connectSteps (client : Client) : List (Action × Client) :=
  let k := client.nextSession
  let made := client.createSocket.makeSession client.nextSocket
  let receiving := made.startWorker k .recv
  [(.createSocket, client.createSocket), (.connectSucceeded, made),
    (.startWorker k .recv, receiving), (.startWorker k .send, receiving.startWorker k .send)]

theorem makeSession_first (first : client.gameServerSession = none) (s : SocketId) :
    client.makeSession s =
      { client.setSession client.nextSession { socket := s } with
        nextSession := client.nextSession + 1
        gameServerSession := some client.nextSession
        call := some (.starting client.nextSession .recv) } := by
  rw [makeSession, first]
  rfl

/-- A first connection, after which the game thread may go on. -/
theorem connectSteps_run (may : client.MayCall) (closed : client.socket = none)
    (first : client.gameServerSession = none) :
    Run Step client client.connectSteps ∧ (final client client.connectSteps).MayCall := by
  have awake : client.createSocket.Awake := may.1
  have fresh : client.createSocket.gameServerSession = none := first
  have shape := makeSession_first fresh client.nextSocket
  have made : (client.createSocket.makeSession client.nextSocket).Awake := by
    rw [shape]
    exact awake.setSession client.nextSession rfl
  have calling : (client.createSocket.makeSession client.nextSocket).call =
      some (.starting client.nextSession .recv) := by
    rw [shape]
    rfl
  have alive : ((client.createSocket.makeSession client.nextSocket).sessions
      client.nextSession).destructor = none := by
    rw [shape]
    exact congrArg Session.destructor (sessions_setSession_self ..)
  have receiving := made.startWorker alive .recv
  have alive' : (((client.createSocket.makeSession client.nextSocket).startWorker
      client.nextSession .recv).sessions client.nextSession).destructor = none := by
    exact (congrArg Session.destructor (sessions_setSession_self ..)).trans alive
  have drains : (client.createSocket.makeSession client.nextSocket).drains = client.drains := by
    rw [shape]
    rfl
  refine ⟨⟨.createSocket may closed, .connectSucceeded awake rfl, .startWorker made calling,
    .startWorker receiving rfl, trivial⟩, receiving.startWorker alive' .send, rfl, ?_⟩
  exact drains ▸ may.2.2

/-- A `DisconnectFromGameServer` behind its guard. -/
def disconnectSteps (client : Client) (s : SocketId) : List (Action × Client) :=
  [(.leave, { client with call := some .leaving }), (.destroySocket, client.destroySocket s)]

theorem disconnectSteps_run (may : client.MayCall) (connected : client.socket = some s)
    (valid : client.gameServerSession = some k) : Run Step client (client.disconnectSteps s) := by
  have awake : Awake { client with call := some .leaving } := may.1
  exact ⟨.leave may connected valid, .destroySocket awake rfl connected, trivial⟩

/-! ### Receiving -/

theorem held_current (valid : client.gameServerSession = some k) : client.held k = true := by
  simp [held, valid]

theorem setSession_setSession (client : Client) (k : SessionId) (first second : Session) :
    (client.setSession k first).setSession k second = client.setSession k second := by
  simp [setSession]

/-- A step on the current session, when it is the session that was changed last. -/
theorem step_current (valid : client.gameServerSession = some k)
    (taken : Session.Step true before act after) (other : ∀ role, act ≠ .unpin role) :
    Step (client.setSession k before) (.session k act) (client.setSession k after) := by
  have here := sessions_setSession_self client k before
  have held : (client.setSession k before).held k = true := held_current valid
  rw [← setSession_setSession client k before after]
  exact .session (held.symm ▸ here.symm ▸ taken) other

theorem unpin_current (valid : client.gameServerSession = some k)
    (taken : Session.Step true before (.unpin role) after) :
    Step (client.setSession k before) (.unpin k role) (client.setSession k after) := by
  have here := sessions_setSession_self client k before
  have held : (client.setSession k before).held k = true := held_current valid
  have unpinned : Step (client.setSession k before) (.unpin k role) _ :=
    .unpin (held.symm ▸ here.symm ▸ taken)
  have kept : (client.setSession k after).drop (.worker role) k = client.setSession k after := by
    apply drop_current
    exact valid
  rwa [setSession_setSession, kept] at unpinned

/-- A pass of the receive worker that puts a packet into the queue. -/
def receiveSteps (client : Client) (k : SessionId) (w : Worker) (packet : Packet) :
    List (Action × Client) :=
  let session := client.sessions k
  let pinned := session.setWorker .recv { w with pin := .taken }
  let queued := (pinned.enqueue ⟨packet, w.socket⟩).setWorker .recv { w with pin := .used }
  [(.session k (.pin .recv), client.setSession k pinned),
    (.session k (.enqueue packet), client.setSession k queued),
    (.unpin k .recv, client.setSession k (session.enqueue ⟨packet, w.socket⟩))]

theorem receiveSteps_run (valid : client.gameServerSession = some k)
    (alive : (client.sessions k).destructor = none)
    (found : (client.sessions k).worker .recv = some w)
    (inRun : w.inRun = true) (idle : w.pin = .free) (packet : Packet) :
    Run Step client (client.receiveSteps k w packet) := by
  have awake : ¬ (client.sessions k).Destructing (.worker .recv) := fun ended =>
    nomatch alive.symm.trans ended.1
  let pinned := (client.sessions k).setWorker .recv { w with pin := .taken }
  let queued := (pinned.enqueue ⟨packet, w.socket⟩).setWorker .recv { w with pin := .used }
  have first : pinned.worker .recv = some { w with pin := .taken } := Session.worker_setWorker_self ..
  have second : queued.worker .recv = some { w with pin := .used } := Session.worker_setWorker_self ..
  have enqueued : Session.Step true pinned (.enqueue packet) _ := .enqueue first rfl
  have unpinned : Session.Step true queued (.unpin .recv) _ := .unpin second rfl
  -- The worker is as it was before the pass.
  have after : queued.setWorker .recv { w with pin := .free } =
      (client.sessions k).enqueue ⟨packet, w.socket⟩ := by
    have kept : ((client.sessions k).enqueue ⟨packet, w.socket⟩).worker .recv = some w := found
    have same : ({ w with pin := .free } : Worker) = w := idle ▸ rfl
    rw [same, ← Session.setWorker_self kept]
    simp [queued, pinned, Session.setWorker, Session.enqueue]
  exact ⟨.session (.pin found inRun idle awake (held_current valid)) (by simp),
    step_current valid enqueued (by simp), unpin_current valid (after ▸ unpinned), trivial⟩

end ArenaClient.Lifetime.Client
