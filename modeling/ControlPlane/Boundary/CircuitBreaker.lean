import ControlPlane.Boundary.Events

/-
  The watchdog circuit breaker along runs of the manager.

  A dispatch starts the server, and starting the server
  resets the watchdog: the last heartbeat is forgotten and
  the breaker closes. The breaker therefore holds from the
  liveness check that trips it to the next heartbeat exactly
  when no event since the last heartbeat restarts the
  watchdog.

  Main declarations:
    * `ExecutionBoundaryManager.restarts`
    * `ExecutionBoundaryManager.react_watchdogEffect`
    * `Boundary.Blocked` and `Boundary.blocked_iff`
    * `Boundary.breaker_holds_iff`
-/

------------------------------------------------------------
-- Effects On The Watchdog
------------------------------------------------------------

namespace ControlPlane

namespace ExecutionBoundaryManager

/- The command passes its gates and dispatches. -/
def dispatches
    (env : Env)
    (m : ExecutionBoundaryManager) : Command → Bool
| .placeBet payload _ =>
    (m.refusal env payload (m.betGate env payload)).isNone
| .cashOut payload _ =>
    (m.refusal env payload (m.cashOutGate payload)).isNone
| .captureSnapshot _ | .getFleetReadiness _ => true
| .initializeWorker _ _ | .stopCluster _ _ => true
| .reconcileOperation operationId _ =>
    (m.reconciliation.task? (some operationId)).isSome
| _ => !env.degraded

/- The native pipe lets the server start. -/
def starts
    (env : Env)
    (m : ExecutionBoundaryManager) : Bool :=
  (m.transport.startServer env.native).isSome

/- The input starts or stops the watchdog. -/
def restarts
    (env : Env)
    (m : ExecutionBoundaryManager) : Input → Bool
| .command (.stopCluster _ _) => true
| .command command =>
    m.dispatches env command && m.starts env
| .startServer => m.starts env
| .stopServer => true
| .connected _ => m.starts env
| _ => false

/- The input is a heartbeat of the Execution Plane. -/
def isHeartbeat : Input → Bool
| .data _ .legacyHeartbeat => true
| .data _ (.envelope envelope) =>
    match envelope.payload with
    | .heartbeat _ _ => true
    | _ => false
| _ => false

/- What an input does to the watchdog. -/
inductive WatchdogEffect
    (env : Env)
    (m next : ExecutionBoundaryManager)
    (input : Input) : Prop
| restarted
    (hRestarts : m.restarts env input = true)
    (hState : next.watchdog.livenessState = .OFFLINE)
    (hSeen : next.watchdog.lastHeartbeatTimestamp = 0)
| beaten
    (hBeat : isHeartbeat input = true)
    (hRestarts : m.restarts env input = false)
    (hNext :
      next.watchdog = m.watchdog.recordHeartbeat env.now)
| checked
    (hInput : input = .checkLiveness)
    (hNext :
      next.watchdog = (m.watchdog.checkLiveness env.now).1)
| kept
    (hRestarts : m.restarts env input = false)
    (hNext : next.watchdog = m.watchdog)

theorem dispatchEnvelope_watchdog
    (env : Env)
    (m : ExecutionBoundaryManager)
    (type : ExecutionMessageType)
    (payload : Payload)
    (options : DispatchOptions) :
    (m.dispatchEnvelope env type payload
        options).1.watchdog =
      if m.starts env then m.watchdog.start
      else m.watchdog := by
  unfold starts
  cases hTransport : m.transport.startServer env.native with
  | none =>
      have hStart : m.startServer env = none := by
        unfold startServer
        rw [hTransport]
      unfold dispatchEnvelope
      rw [hStart]
      rfl
  | some transport =>
      have hStart :
          m.startServer env =
            some { m with
              transport := transport
              watchdog := m.watchdog.start } := by
        unfold startServer
        rw [hTransport]
      unfold dispatchEnvelope
      rw [hStart]
      dsimp only
      split
      · split
        · rfl
        · rfl
        · rfl
      · split
        · rfl
        · rfl

/- A dispatch restarts the watchdog or leaves it alone. -/
theorem WatchdogEffect.of_dispatch
    {env : Env}
    {m base : ExecutionBoundaryManager}
    {input : Input}
    (type : ExecutionMessageType)
    (payload : Payload)
    (options : DispatchOptions)
    (hStarts : base.starts env = m.starts env)
    (hWatchdog : base.watchdog = m.watchdog)
    (hRestarts : m.restarts env input = m.starts env) :
    WatchdogEffect env m
      (base.dispatchEnvelope env type payload options).1
      input := by
  have hNext :=
    dispatchEnvelope_watchdog env base type payload options
  rw [hStarts] at hNext
  cases hStart : m.starts env with
  | true =>
      rw [hStart, if_pos rfl] at hNext
      apply WatchdogEffect.restarted
      · rw [hRestarts, hStart]
      · rw [hNext]
        rfl
      · rw [hNext]
        rfl
  | false =>
      rw [hStart, if_neg (by simp)] at hNext
      apply WatchdogEffect.kept
      · rw [hRestarts, hStart]
      · rw [hNext, hWatchdog]

theorem dispatchFinancial_watchdogEffect
    (env : Env)
    (m : ExecutionBoundaryManager)
    (input : Input)
    (type : ExecutionMessageType)
    {payload : TacticalPayload}
    (payloadWithOp : TacticalPayload)
    (accountId : Option String)
    (targetAccounts : List String)
    {gate : Option Denial}
    (options : DispatchOptions)
    (hRestarts :
      m.restarts env input =
        ((m.refusal env payload gate).isNone &&
          m.starts env)) :
    WatchdogEffect env m
      (m.dispatchFinancial env type payload payloadWithOp
        accountId targetAccounts gate options).1
      input := by
  have hWatchdog :
      (m.withChecked env payload).watchdog = m.watchdog := by
    rw [m.withChecked_eq env payload]
  unfold dispatchFinancial
  cases hRefusal : m.refusal env payload gate with
  | some reply =>
      apply WatchdogEffect.kept
      · rw [hRestarts, hRefusal]
        rfl
      · exact hWatchdog
  | none =>
      apply WatchdogEffect.of_dispatch
      · unfold starts recordDispatch
        dsimp only
        rw [m.withChecked_transport env payload]
      · exact hWatchdog
      · rw [hRestarts, hRefusal]
        rfl

theorem dispatchGated_watchdogEffect
    (env : Env)
    (m : ExecutionBoundaryManager)
    (input : Input)
    (type : ExecutionMessageType)
    (payload : Payload)
    (options : DispatchOptions)
    (hRestarts :
      m.restarts env input =
        (!env.degraded && m.starts env)) :
    WatchdogEffect env m
      (m.dispatchGated env type payload options).1
      input := by
  unfold dispatchGated
  cases hDegraded : env.degraded with
  | true =>
      apply WatchdogEffect.kept
      · rw [hRestarts, hDegraded]
        rfl
      · rfl
  | false =>
      apply WatchdogEffect.of_dispatch _ _ _ rfl rfl
      rw [hRestarts, hDegraded]
      rfl

theorem stopCluster_watchdogEffect
    (env : Env)
    (m : ExecutionBoundaryManager)
    (timeoutMs : Nat)
    (options : DispatchOptions) :
    WatchdogEffect env m
      (m.stopCluster env timeoutMs options).1
      (.command (.stopCluster timeoutMs options)) := by
  have hNext :=
    dispatchEnvelope_watchdog env
      { m with watchdog := m.watchdog.stop } .STOP_CLUSTER
      (.stopCluster timeoutMs) options
  have hReset :
      (m.stopCluster env timeoutMs
          options).1.watchdog.livenessState = .OFFLINE ∧
        (m.stopCluster env timeoutMs
          options).1.watchdog.lastHeartbeatTimestamp =
            0 := by
    unfold stopCluster dispatchCommand
    dsimp only
    rw [hNext]
    split
    · exact ⟨rfl, rfl⟩
    · exact ⟨rfl, rfl⟩
  exact .restarted rfl hReset.1 hReset.2

theorem reconcileOperation_watchdogEffect
    (env : Env)
    (m : ExecutionBoundaryManager)
    (operationId : String)
    (options : DispatchOptions) :
    WatchdogEffect env m
      (m.reconcileOperation env operationId options).1
      (.command
        (.reconcileOperation operationId options)) := by
  unfold reconcileOperation
  dsimp only
  cases hTask :
      m.reconciliation.task? (some operationId) with
  | none =>
      have hRequest :
          (m.reconciliation.createReconcileRequest
            (some operationId)).2 = none := by
        unfold ReconciliationCoordinator.task? at hTask
        unfold ReconciliationCoordinator.createReconcileRequest
        rw [hTask]
      rw [hRequest]
      apply WatchdogEffect.kept
      · simp [restarts, dispatches, hTask]
      · rfl
  | some task =>
      have hRequest :
          ∃ request,
            (m.reconciliation.createReconcileRequest
              (some operationId)).2 = some request := by
        unfold ReconciliationCoordinator.task? at hTask
        unfold ReconciliationCoordinator.createReconcileRequest
        rw [hTask]
        exact ⟨_, rfl⟩
      rcases hRequest with ⟨request, hRequest⟩
      have hRestarts :
          m.restarts env
              (.command (.reconcileOperation operationId
                options)) = m.starts env := by
        simp [restarts, dispatches, hTask]
      rw [hRequest]
      dsimp only
      exact .of_dispatch _ _ _ rfl rfl hRestarts

/- The effect of a command on the watchdog. -/
theorem execute_watchdogEffect
    (env : Env)
    (m : ExecutionBoundaryManager)
    (command : Command) :
    WatchdogEffect env m (m.execute env command).1
      (.command command) := by
  cases command with
  | placeBet payload options =>
      exact dispatchFinancial_watchdogEffect env m _ _ _ _
        _ options rfl
  | cashOut payload options =>
      exact dispatchFinancial_watchdogEffect env m _ _ _ _
        _ options rfl
  | validateTactical payload options =>
      exact dispatchGated_watchdogEffect env m _ _ _ options
        rfl
  | activateAccount payload options =>
      exact dispatchGated_watchdogEffect env m _ _ _ options
        rfl
  | deactivateAccount accountId options =>
      exact dispatchGated_watchdogEffect env m _ _ _ options
        rfl
  | setBetCycle targetBrowserId isEnabled options =>
      exact dispatchGated_watchdogEffect env m _ _ _ options
        rfl
  | updatePolicy category options =>
      exact dispatchGated_watchdogEffect env m _ _ _ options
        rfl
  | resetPolicy target options =>
      exact dispatchGated_watchdogEffect env m _ _ _ options
        rfl
  | captureSnapshot options =>
      exact .of_dispatch _ _ _ rfl rfl rfl
  | getFleetReadiness options =>
      exact .of_dispatch _ _ _ rfl rfl rfl
  | initializeWorker accounts options =>
      exact .of_dispatch _ _ _ rfl rfl rfl
  | stopCluster timeoutMs options =>
      exact stopCluster_watchdogEffect env m timeoutMs
        options
  | reconcileOperation operationId options =>
      exact reconcileOperation_watchdogEffect env m
        operationId options

theorem handlePayload_watchdogEffect
    (env : Env)
    (m : ExecutionBoundaryManager)
    (connId : Nat)
    (envelope : InboundEnvelope) :
    WatchdogEffect env m
      (m.handlePayload env envelope.payload).1
      (.data connId (.envelope envelope)) := by
  cases hPayload : envelope.payload with
  | heartbeat activeBrowsers engineStatus =>
      refine .beaten ?_ rfl rfl
      simp [isHeartbeat, hPayload]
  | stateChanged state message => exact .kept rfl rfl
  | operationResult result =>
      rcases m.forgetInFlight_eq result with
        ⟨inFlight, hForget⟩
      refine .kept rfl ?_
      unfold handlePayload handleOperationResult enqueueAll
      dsimp only
      rw [hForget, recordOutcome_eq]
  | reconciliationReport report => exact .kept rfl rfl
  | snapshotDump engineStatus activeBrowserCount runs =>
      exact .kept rfl rfl
  | telemetry type => exact .kept rfl rfl

theorem handleClientDisconnected_watchdog
    (m : ExecutionBoundaryManager)
    (connId : Nat) :
    (m.handleClientDisconnected connId).1.watchdog =
      m.watchdog := by
  unfold handleClientDisconnected
  dsimp only
  split <;> rfl

/- What one input does to the watchdog. -/
theorem react_watchdogEffect
    (env : Env)
    (m : ExecutionBoundaryManager)
    (input : Input) :
    WatchdogEffect env m (m.react env input).1 input := by
  cases input with
  | command command =>
      exact execute_watchdogEffect env m command
  | startServer =>
      cases hTransport :
          m.transport.startServer env.native with
      | none =>
          apply WatchdogEffect.kept
          · simp [restarts, starts, hTransport]
          · simp [react, startServer, hTransport]
      | some transport =>
          apply WatchdogEffect.restarted
          · simp [restarts, starts, hTransport]
          · simp [react, startServer, hTransport,
              WatchdogMonitor.start, WatchdogMonitor.reset]
          · simp [react, startServer, hTransport,
              WatchdogMonitor.start, WatchdogMonitor.reset]
  | stopServer => exact .restarted rfl rfl rfl
  | manualResolve operationId outcome note =>
      exact .kept rfl rfl
  | uncertainOperations ops => exact .kept rfl rfl
  | connected connId =>
      apply WatchdogEffect.of_dispatch
      · unfold starts
        dsimp only
        unfold PipeTransport.onConnect
        split
        · rfl
        · unfold PipeTransport.startServer
          dsimp only
          split
          · rfl
          · split <;> rfl
      · rfl
      · rfl
  | disconnected connId =>
      exact .kept rfl
        (handleClientDisconnected_watchdog m connId)
  | data connId data =>
      cases data with
      | oversized =>
          exact .kept rfl
            (handleClientDisconnected_watchdog m connId)
      | unparsable => exact .kept rfl rfl
      | invalid => exact .kept rfl rfl
      | legacyHeartbeat => exact .beaten rfl rfl rfl
      | envelope envelope =>
          rcases m.settleCorrelation_eq envelope with
            ⟨pending, hSettle⟩
          unfold react handleIncomingData
          dsimp only
          rw [hSettle]
          rcases handlePayload_watchdogEffect env
              { m with pendingCorrelations := pending }
              connId envelope with
            ⟨hRestarts, _, _⟩ | ⟨hBeat, _, hNext⟩ |
            ⟨hInput, _⟩ | ⟨_, hNext⟩
          · cases hRestarts
          · exact .beaten hBeat rfl hNext
          · cases hInput
          · exact .kept rfl hNext
  | checkLiveness => exact .checked rfl rfl
  | correlationTimeout msgId => exact .kept rfl rfl

end ExecutionBoundaryManager

------------------------------------------------------------
-- The Breaker Along A Run
------------------------------------------------------------

namespace Boundary

open ExecutionBoundaryManager

/- The watchdog of the manager. -/
def watchdog (b : Boundary) : WatchdogMonitor :=
  b.manager.watchdog

/- The event is a heartbeat of the Execution Plane. -/
def Beats (event : Event) : Prop :=
  isHeartbeat event.input = true

/- The event starts or stops the watchdog. -/
def Restarts
    (b : Boundary)
    (event : Event) : Prop :=
  b.manager.restarts (b.env event) event.input = true

instance
    (b : Boundary)
    (event : Event) : Decidable (Restarts b event) :=
  inferInstanceAs (Decidable (_ = true))

/- The call throws and hands nothing to the transport. -/
def Rejected
    (m : ExecutionBoundaryManager)
    (done : ExecutionBoundaryManager × Reply) : Prop :=
  (∃ denial, done.2 = .denied denial) ∧
    handed m done.1 = []

/-
  Whatever its surroundings, its payload and its options, a
  bet or cash-out made now is rejected.
-/
def Blocked (b : Boundary) : Prop :=
  ∀ env payload options,
    Rejected b.manager
        (b.manager.placeBet env payload options) ∧
      Rejected b.manager
        (b.manager.cashOut env payload options)

theorem rejected_of_degraded
    {m : ExecutionBoundaryManager}
    (env : Env)
    (type : ExecutionMessageType)
    (payload payloadWithOp : TacticalPayload)
    (accountId : Option String)
    (targetAccounts : List String)
    (gate : Option Denial)
    (options : DispatchOptions)
    (hOpen : m.watchdog.isDegraded = true) :
    Rejected m
      (m.dispatchFinancial env type payload payloadWithOp
        accountId targetAccounts gate options) := by
  have hRefusal :
      ∃ denial,
        m.refusal env payload gate =
          some (.denied denial) := by
    unfold refusal
    split
    · exact ⟨.systemDegraded, rfl⟩
    · exact ⟨.watchdogDegraded, rfl⟩
  rcases hRefusal with ⟨denial, hRefusal⟩
  unfold dispatchFinancial
  rw [hRefusal]
  exact ⟨⟨denial, rfl⟩,
    handed_of_sent_eq (m.withChecked_sent env payload)⟩

/- A bet without targets or amounts passes its gates. -/
theorem not_rejected_of_healthy
    {m : ExecutionBoundaryManager}
    (now : Nat)
    (hClosed : m.watchdog.isDegraded = false) :
    ¬ Rejected m
      (m.placeBet
        { toSurroundings := Surroundings.healthy
          now := now } {} {}) := by
  rintro ⟨⟨denial, hDenied⟩, _⟩
  unfold placeBet dispatchFinancial at hDenied
  cases hRefusal :
      m.refusal
        { toSurroundings := Surroundings.healthy
          now := now } {}
        (m.betGate
          { toSurroundings := Surroundings.healthy
            now := now } {}) with
  | none =>
      rw [hRefusal] at hDenied
      cases hDenied
  | some reply =>
      rw [hRefusal] at hDenied
      have hReply : reply = .denied denial := hDenied
      have hGate :
          m.betGate
            { toSurroundings := Surroundings.healthy
              now := now } {} = none := rfl
      unfold refusal at hRefusal
      rw [if_neg (by simp [Surroundings.healthy]),
        if_neg (by simp [hClosed]), hGate] at hRefusal
      split at hRefusal
      · rename_i duplicate hDuplicate
        rcases Option.bind_eq_some_iff.mp hDuplicate with
          ⟨record, _, hAnswer⟩
        have hSame : duplicate = .denied denial :=
          (Option.some.inj hRefusal).trans hReply
        rw [hSame] at hAnswer
        unfold duplicateReply at hAnswer
        split at hAnswer
        · cases hAnswer
        · cases hAnswer
        · cases hAnswer
        · cases hAnswer
      · cases hRefusal

/- Calls are blocked exactly while the breaker is open. -/
theorem blocked_iff
    (b : Boundary) :
    Blocked b ↔ b.watchdog.isDegraded = true := by
  constructor
  · intro hBlocked
    cases hOpen : b.watchdog.isDegraded with
    | true => rfl
    | false =>
        exact absurd (hBlocked _ _ _).1
          (not_rejected_of_healthy b.now hOpen)
  · intro hOpen env payload options
    exact ⟨rejected_of_degraded env _ _ _ _ _ _ _ hOpen,
      rejected_of_degraded env _ _ _ _ _ _ _ hOpen⟩

/- The watchdog has been reset and not heard of since. -/
def Forgotten (b : Boundary) : Prop :=
  b.watchdog.livenessState = .OFFLINE ∧
    b.watchdog.lastHeartbeatTimestamp = 0

theorem Forgotten.not_blocked
    {b : Boundary}
    (hForgotten : Forgotten b) :
    ¬ Blocked b := by
  intro hBlocked
  have hOpen := (blocked_iff b).mp hBlocked
  unfold WatchdogMonitor.isDegraded at hOpen
  rw [hForgotten.1] at hOpen
  cases hOpen

/- The effect of an event on the watchdog. -/
theorem step_watchdogEffect
    (b : Boundary)
    (event : Event) :
    WatchdogEffect (b.env event) b.manager
      (step b event).manager event.input :=
  react_watchdogEffect (b.env event) b.manager event.input

/- A restart forgets the last heartbeat. -/
theorem forgotten_of_restarts
    {b : Boundary}
    {event : Event}
    (hRestarts : Restarts b event) :
    Forgotten (step b event) := by
  rcases step_watchdogEffect b event with
    ⟨_, hState, hSeen⟩ | ⟨_, hKept, _⟩ | ⟨hInput, _⟩ |
    ⟨hKept, _⟩
  · exact ⟨hState, hSeen⟩
  · rw [hRestarts] at hKept
    cases hKept
  · unfold Restarts at hRestarts
    rw [hInput] at hRestarts
    cases hRestarts
  · rw [hRestarts] at hKept
    cases hKept

/- Without a heartbeat the watchdog stays forgotten. -/
theorem forgotten_step
    (b : Boundary)
    (event : Event)
    (hForgotten : Forgotten b)
    (hBeat : ¬ Beats event) :
    Forgotten (step b event) := by
  rcases step_watchdogEffect b event with
    ⟨_, hState, hSeen⟩ | ⟨hBeats, _, _⟩ | ⟨_, hNext⟩ |
    ⟨_, hNext⟩
  · exact ⟨hState, hSeen⟩
  · exact absurd hBeats hBeat
  · have hSame :
        (b.watchdog.checkLiveness (b.env event).now).1 =
          b.watchdog := by
      unfold WatchdogMonitor.checkLiveness
      rw [if_pos hForgotten.2]
    have hWatchdog :
        (step b event).watchdog = b.watchdog :=
      hNext.trans hSame
    unfold Forgotten
    rw [hWatchdog]
    exact hForgotten
  · have hWatchdog :
        (step b event).watchdog = b.watchdog := hNext
    unfold Forgotten
    rw [hWatchdog]
    exact hForgotten

/- The events of a stretch that only checks the watchdog. -/
def Quiet
    (b : Boundary)
    (event : Event) : Prop :=
  ¬ Restarts b event ∧ ¬ Beats event

/- A quiet event checks the watchdog or leaves it alone. -/
theorem quiet_step
    {b : Boundary}
    {event : Event}
    (hQuiet : Quiet b event) :
    (step b event).watchdog =
        (b.watchdog.checkLiveness (b.env event).now).1 ∨
      (step b event).watchdog = b.watchdog := by
  rcases step_watchdogEffect b event with
    ⟨hRestarts, _, _⟩ | ⟨hBeats, _, _⟩ | ⟨_, hNext⟩ |
    ⟨_, hNext⟩
  · exact absurd hRestarts hQuiet.1
  · exact absurd hBeats hQuiet.2
  · exact Or.inl hNext
  · exact Or.inr hNext

/- The last heartbeat and the degraded tier are as given. -/
def Heard
    (seen tier : Nat)
    (b : Boundary) : Prop :=
  b.watchdog.lastHeartbeatTimestamp = seen ∧
    b.watchdog.degradedTimeoutMs = tier

theorem heard_step
    {seen tier : Nat}
    (b : Boundary)
    (event : Event)
    (hHeard : Heard seen tier b)
    (hQuiet : Quiet b event) :
    Heard seen tier (step b event) := by
  unfold Heard
  rcases quiet_step hQuiet with hNext | hNext
  · rcases b.watchdog.checkLiveness_frame
        (b.env event).now with ⟨state, hFrame⟩
    rw [hNext, hFrame]
    exact hHeard
  · rw [hNext]
    exact hHeard

theorem open_step
    (b : Boundary)
    (event : Event)
    (hOpen : b.watchdog.isDegraded = true)
    (hQuiet : Quiet b event) :
    (step b event).watchdog.isDegraded = true := by
  rcases quiet_step hQuiet with hNext | hNext
  · rw [hNext]
    exact b.watchdog.checkLiveness_keeps_degraded _ hOpen
  · rw [hNext]
    exact hOpen

/- A heartbeat is recorded at its own time. -/
theorem heard_of_beats
    {b : Boundary}
    {event : Event}
    (hBeats : Beats event) :
    (step b event).watchdog.lastHeartbeatTimestamp =
      (step b event).now := by
  have hNext :
      (step b event).watchdog =
        b.watchdog.recordHeartbeat (b.env event).now := by
    unfold Beats isHeartbeat at hBeats
    split at hBeats
    · rename_i connId hData
      unfold watchdog step
      dsimp only
      rw [hData]
      rfl
    · rename_i connId envelope hData
      split at hBeats
      · rename_i activeBrowsers engineStatus hPayload
        rcases b.manager.settleCorrelation_eq envelope with
          ⟨pending, hSettle⟩
        unfold watchdog step
        dsimp only
        rw [hData]
        unfold react handleIncomingData
        dsimp only
        rw [hSettle, hPayload]
        rfl
      · cases hBeats
    · cases hBeats
  rw [hNext]
  rfl

/- A quiet stretch, event by event. -/
theorem along_quiet
    {b : Boundary}
    {events : List Event}
    (hRestarts :
      Along step (fun s e => ¬ Restarts s e) b events)
    (hBeats : ∀ event ∈ events, ¬ Beats event) :
    Along step Quiet b events := by
  rw [along_iff] at hRestarts ⊢
  intro past event future hEvents
  refine ⟨hRestarts past event future hEvents, ?_⟩
  apply hBeats
  rw [hEvents]
  simp

/- A stretch with a restart ends forgotten. -/
theorem forgotten_of_not_along
    {b : Boundary}
    {events : List Event}
    (hRestarts :
      ¬ Along step (fun s e => ¬ Restarts s e) b events)
    (hBeats : ∀ event ∈ events, ¬ Beats event) :
    Forgotten (run step b events) := by
  rw [along_iff] at hRestarts
  push Not at hRestarts
  rcases hRestarts with
    ⟨past, event, future, hEvents, hRestart⟩
  have hFuture :
      Along step (fun _ e => ¬ Beats e)
        (step (run step b past) event) future := by
    rw [along_iff]
    intro before later rest hFuture
    apply hBeats
    rw [hEvents, hFuture]
    simp
  rw [hEvents, run_append, run_cons]
  exact run_invariant forgotten_step
    (forgotten_of_restarts hRestart) hFuture

/-
  Let the last heartbeat be older than the degraded tier at
  a liveness check. From that check to the next heartbeat
  every bet and cash-out is rejected exactly when no event
  since the last heartbeat restarts the watchdog.
-/
theorem breaker_holds_iff
    (b : Boundary)
    (heartbeat tick : Event)
    (before after : List Event)
    (hBeat : Beats heartbeat)
    (hBefore : ∀ event ∈ before, ¬ Beats event)
    (hTick : tick.input = .checkLiveness)
    (hAfter : ∀ event ∈ after, ¬ Beats event)
    (hAge :
      (step b heartbeat).watchdog.degradedTimeoutMs ≤
        (step (run step (step b heartbeat) before) tick).now -
          (step b heartbeat).now) :
    Throughout step Blocked
        (step (run step (step b heartbeat) before) tick)
        after ↔
      Along step (fun s e => ¬ Restarts s e)
        (step b heartbeat) (before ++ tick :: after) := by
  have hTickBeats : ¬ Beats tick := by
    unfold Beats
    rw [hTick]
    simp [isHeartbeat]
  have hBeats :
      ∀ event ∈ before ++ tick :: after, ¬ Beats event := by
    intro event hEvent
    rcases List.mem_append.mp hEvent with hMem | hMem
    · exact hBefore event hMem
    · rcases List.mem_cons.mp hMem with rfl | hMem
      · exact hTickBeats
      · exact hAfter event hMem
  constructor
  · intro hBlocked
    by_contra hRestarts
    have hForgotten :=
      forgotten_of_not_along hRestarts hBeats
    rw [run_append, run_cons] at hForgotten
    exact hForgotten.not_blocked
      (hBlocked after [] (by simp))
  · intro hAlong past future hSplit
    have hQuiet := along_quiet hAlong hBeats
    rw [along_append] at hQuiet
    rcases hQuiet with ⟨hQuietBefore, _, hQuietAfter⟩
    have hHeard :
        Heard (step b heartbeat).now
          (step b heartbeat).watchdog.degradedTimeoutMs
          (run step (step b heartbeat) before) :=
      run_invariant heard_step
        ⟨heard_of_beats hBeat, rfl⟩ hQuietBefore
    have hOpen :
        (step (run step (step b heartbeat) before)
          tick).watchdog.isDegraded = true := by
      have hChecked :
          (step (run step (step b heartbeat) before)
              tick).watchdog =
            ((run step (step b heartbeat)
              before).watchdog.checkLiveness
                ((run step (step b heartbeat) before).env
                  tick).now).1 := by
        unfold watchdog step
        dsimp only
        rw [hTick]
        rfl
      rw [hChecked]
      apply WatchdogMonitor.checkLiveness_degrades
      · rw [hHeard.1]
        exact Nat.ne_of_gt (step b heartbeat).now_pos
      · rw [hHeard.1, hHeard.2]
        exact hAge
    rw [blocked_iff]
    rw [hSplit, along_append] at hQuietAfter
    exact run_invariant open_step hOpen hQuietAfter.1

/- The heartbeat of a client. -/
def heartbeatEvent : Event :=
  (Input.data 1 .legacyHeartbeat).next

/- A liveness check at the degraded tier. -/
def degradedTick : Event :=
  Input.checkLiveness.after 12000

/- The breaker holds while bets are refused. -/
theorem breaker_holds_over_refused_bet :
    Throughout step Blocked
      (step (run step (step (connected 10) heartbeatEvent)
        []) degradedTick)
      [(Input.bet "k1" false).next] := by
  refine (breaker_holds_iff (connected 10) heartbeatEvent
    degradedTick [] [(Input.bet "k1" false).next]
    rfl ?_ rfl ?_ (by decide)).mpr
    ⟨by decide, by decide, trivial⟩
  · intro event hEvent
    cases hEvent
  · intro event hEvent hBeats
    rw [List.mem_singleton.mp hEvent] at hBeats
    cases hBeats

/-
  A readiness query after the breaker tripped closes it, and
  the next bet is handed to the transport.
-/
theorem query_closes_breaker :
    (run step (connected 10)
        [heartbeatEvent,
          degradedTick]).watchdog.isDegraded = true ∧
      handed
        (run step (connected 10)
          [heartbeatEvent, degradedTick,
            (Input.command (.getFleetReadiness {})).next]).manager
        (run step (connected 10)
          [heartbeatEvent, degradedTick,
            (Input.command (.getFleetReadiness {})).next,
            (Input.bet "k1" false).next]).manager ≠ [] := by
  refine ⟨by decide, by decide⟩

end Boundary

end ControlPlane
