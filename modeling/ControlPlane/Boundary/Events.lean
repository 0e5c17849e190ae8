import ControlPlane.Boundary.CoordinatorRuns
import ControlPlane.Boundary.Inbound

/-
  Runs of the execution boundary manager.

  A run is a list of events, each one turn of the event
  loop: a call of the command interface, a frame or a
  connection change of the pipe, a timer. An event carries
  the time passed since the last one, so the clock of a run
  never goes back, and whatever its surroundings answer
  during the turn.

  What one event can do is said once for each part of the
  state, and the results about runs are derived from that.

  Main declarations:
    * `Command`, `Input`, `Event` and `Boundary.step`
    * `LedgerEffect` and `react_ledgerEffect`
    * `coordinatorCalls` and `react_reconciliation`
-/

------------------------------------------------------------
-- Events
------------------------------------------------------------

namespace ControlPlane

/- The calls of the command interface. -/
inductive Command where
| placeBet
    (payload : TacticalPayload) (options : DispatchOptions)
| cashOut
    (payload : TacticalPayload) (options : DispatchOptions)
| validateTactical
    (payload : TacticalPayload) (options : DispatchOptions)
| activateAccount
    (payload : Payload) (options : DispatchOptions)
| deactivateAccount
    (accountId : String) (options : DispatchOptions)
| setBetCycle
    (targetBrowserId : String) (isEnabled : Bool)
    (options : DispatchOptions)
| updatePolicy
    (category : String) (options : DispatchOptions)
| resetPolicy
    (target : Option String) (options : DispatchOptions)
| captureSnapshot (options : DispatchOptions)
| getFleetReadiness (options : DispatchOptions)
| initializeWorker
    (accounts : List CompiledAccount)
    (options : DispatchOptions)
| stopCluster
    (timeoutMs : Nat) (options : DispatchOptions)
| reconcileOperation
    (operationId : String) (options : DispatchOptions)

/- What can happen to the manager in one turn. -/
inductive Input where
| command (command : Command)
| startServer
| stopServer
| manualResolve
    (operationId : Option String)
    (forcedOutcome operatorNote : String)
| uncertainOperations
    (ops : List (UncertainOperation Details))
| connected (connId : Nat)
| disconnected (connId : Nat)
| data (connId : Nat) (data : InboundData)
| checkLiveness
| correlationTimeout (msgId : String)

/- One turn of the event loop. -/
structure Event where
  elapsed : Nat
  surroundings : Surroundings
  input : Input

/-
  Surroundings without faults: the system is operational,
  the native pipe accepts everything, no state store is
  injected.
-/
def Surroundings.healthy : Surroundings where
  degraded := false
  native := { listens := true, write := fun _ => .accepted }
  stateStore := none
  msgUlid := "01J0000000000000000000MSG0"
  traceUlid := "01J0000000000000000000TRC0"

namespace Input

/- An input that arrives some time after the last one. -/
def after
    (elapsed : Nat)
    (input : Input) : Event where
  elapsed := elapsed
  surroundings := Surroundings.healthy
  input := input

/- An input that arrives a millisecond after the last one. -/
def next (input : Input) : Event :=
  input.after 1

/- A bet on one account under a key. -/
def bet (key : String) (forceRetry : Bool) : Input :=
  .command (.placeBet
    { idempotencyKey := some key
      operationId := some ("op_" ++ key)
      targetAccounts := some ["acc_1"]
      forceRetry := forceRetry } {})

/- A result of the Execution Plane. -/
def result (result : OperationResult) : Input :=
  .data 1 (.envelope
    { msgId := "ep_1"
      traceId := "ep_trace"
      payload := .operationResult result })

end Input

/-
  The manager together with the clock, which counts the
  milliseconds of an epoch that lies in the past.
-/
structure Boundary where
  manager : ExecutionBoundaryManager
  now : Nat
  now_pos : 0 < now

namespace ExecutionBoundaryManager

/- Run a command. -/
def execute
    (env : Env)
    (m : ExecutionBoundaryManager) :
    Command → ExecutionBoundaryManager × Reply
| .placeBet payload options =>
    m.placeBet env payload options
| .cashOut payload options =>
    m.cashOut env payload options
| .validateTactical payload options =>
    m.validateTactical env payload options
| .activateAccount payload options =>
    m.activateAccount env payload options
| .deactivateAccount accountId options =>
    m.deactivateAccount env accountId options
| .setBetCycle targetBrowserId isEnabled options =>
    m.setBetCycle env targetBrowserId isEnabled options
| .updatePolicy category options =>
    m.updatePolicy env category options
| .resetPolicy target options =>
    m.resetPolicy env target options
| .captureSnapshot options => m.captureSnapshot env options
| .getFleetReadiness options =>
    m.getFleetReadiness env options
| .initializeWorker accounts options =>
    m.initializeWorker env accounts options
| .stopCluster timeoutMs options =>
    m.stopCluster env timeoutMs options
| .reconcileOperation operationId options =>
    m.reconcileOperation env operationId options

/- The manager after one input, with what it emits. -/
def react
    (env : Env)
    (m : ExecutionBoundaryManager) :
    Input → ExecutionBoundaryManager × List Emitted
| .command command => ((m.execute env command).1, [])
| .startServer => ((m.startServer env).getD m, [])
| .stopServer => (m.stopServer, [.connectionAborted])
| .manualResolve operationId outcome note =>
    ({ m with
        reconciliation :=
          (m.reconciliation.manualResolve env.now
            operationId outcome note).1 }, [])
| .uncertainOperations ops => (m.enqueueAll env ops, [])
| .connected connId => m.handleClientConnected env connId
| .disconnected connId => m.handleClientDisconnected connId
| .data connId data => m.handleIncomingData env connId data
| .checkLiveness => m.checkLiveness env
| .correlationTimeout msgId =>
    (m.correlationTimeout msgId, [])

end ExecutionBoundaryManager

namespace Boundary

/- The ledger of the manager. -/
def ledger
    (b : Boundary) :
    IdempotencyLedger TacticalPayload OperationResult :=
  b.manager.idempotency

/- The reconciliation coordinator of the manager. -/
def coordinator
    (b : Boundary) : ReconciliationCoordinator Details :=
  b.manager.reconciliation

/- What the manager reads while it handles an event. -/
def env
    (b : Boundary)
    (event : Event) : Env :=
  { toSurroundings := event.surroundings
    now := b.now + event.elapsed }

/- The boundary after one event. -/
def step
    (b : Boundary)
    (event : Event) : Boundary where
  manager :=
    (b.manager.react (b.env event) event.input).1
  now := b.now + event.elapsed
  now_pos := Nat.add_pos_left b.now_pos event.elapsed

/-
  The boundary of a new process, with the default limits of
  the source except for the capacity of the ledger.
-/
def fresh (maxEntries : Nat) : Boundary where
  manager :=
    ExecutionBoundaryManager.fresh 86400000 maxEntries
      (WatchdogMonitor.fresh 6000 12000 25000)
  now := 1
  now_pos := Nat.one_pos

/- A new process with one connected client. -/
def connected (maxEntries : Nat) : Boundary :=
  step (fresh maxEntries) (Input.connected 1).next

/- The clock never goes back along a run. -/
theorem now_le_run
    (b : Boundary)
    (events : List Event) :
    b.now ≤ (run step b events).now := by
  induction events generalizing b with
  | nil => exact Nat.le_refl _
  | cons event events ih =>
      have hStep : b.now ≤ (step b event).now :=
        Nat.le_add_right _ _
      exact Nat.le_trans hStep (ih (step b event))

end Boundary

end ControlPlane

------------------------------------------------------------
-- Dispatches
------------------------------------------------------------

namespace ControlPlane

namespace ExecutionBoundaryManager

/- What a dispatch leaves alone, and what it may hand over. -/
structure Dispatched
    (m next : ExecutionBoundaryManager)
    (type : ExecutionMessageType)
    (payload : Payload) : Prop where
  idempotency : next.idempotency = m.idempotency
  reconciliation : next.reconciliation = m.reconciliation
  inFlightOperations :
    next.inFlightOperations = m.inFlightOperations
  sent :
    next.transport.sent = m.transport.sent ∨
      ∃ frame,
        next.transport.sent =
            m.transport.sent ++ [frame] ∧
          frame.type = type ∧ frame.payload = payload

theorem startServer_eq_some
    {env : Env}
    {m started : ExecutionBoundaryManager}
    (hStart : m.startServer env = some started) :
    ∃ transport,
      m.transport.startServer env.native =
          some transport ∧
        started =
          { m with
              transport := transport
              watchdog := m.watchdog.start } := by
  unfold startServer at hStart
  cases hTransport : m.transport.startServer env.native with
  | none =>
      rw [hTransport] at hStart
      cases hStart
  | some transport =>
      rw [hTransport] at hStart
      exact ⟨transport, rfl, (Option.some.inj hStart).symm⟩

/-
  The state after a dispatch differs from the started one in
  the transport log and the pending promises only.
-/
theorem dispatchEnvelope_eq
    (env : Env)
    (m : ExecutionBoundaryManager)
    (type : ExecutionMessageType)
    (payload : Payload)
    (options : DispatchOptions) :
    (m.dispatchEnvelope env type payload options).1 = m ∨
      ∃ started pending,
        m.startServer env = some started ∧
          (m.dispatchEnvelope env type payload options).1 =
            { started with
                transport :=
                  (started.transport.broadcast env.native
                    (createExecutionEnvelope env type
                      payload options.traceId)).1
                pendingCorrelations := pending } := by
  unfold dispatchEnvelope
  cases hStart : m.startServer env with
  | none => exact Or.inl rfl
  | some started =>
      refine Or.inr ?_
      dsimp only
      split
      · split
        · exact ⟨started, _, rfl, rfl⟩
        · exact ⟨started, _, rfl, rfl⟩
        · exact ⟨started, _, rfl, rfl⟩
      · split
        · exact ⟨started, _, rfl, rfl⟩
        · exact ⟨started, _, rfl, rfl⟩

theorem dispatchEnvelope_dispatched
    (env : Env)
    (m : ExecutionBoundaryManager)
    (type : ExecutionMessageType)
    (payload : Payload)
    (options : DispatchOptions) :
    Dispatched m
      (m.dispatchEnvelope env type payload options).1
      type payload := by
  rcases dispatchEnvelope_eq env m type payload options with
    hSame | ⟨started, pending, hStart, hNext⟩
  · rw [hSame]
    exact ⟨rfl, rfl, rfl, Or.inl rfl⟩
  · rcases startServer_eq_some hStart with
      ⟨transport, hTransport, rfl⟩
    have hSent :=
      PipeTransport.startServer_sent hTransport
    rw [hNext]
    refine ⟨rfl, rfl, rfl, ?_⟩
    rcases transport.broadcast_sent env.native
        (createExecutionEnvelope env type payload
          options.traceId) with hLog | hLog
    · exact Or.inl (hLog.trans hSent)
    · refine Or.inr
        ⟨createExecutionEnvelope env type payload
          options.traceId, ?_, rfl, rfl⟩
      rw [← hSent]
      exact hLog

end ExecutionBoundaryManager

end ControlPlane

------------------------------------------------------------
-- Effects On The Ledger
------------------------------------------------------------

namespace ControlPlane

/- The payload of an envelope that bets or cashes out. -/
def Frame.financialPayload
    (frame : Frame) : Option TacticalPayload :=
  match frame.payload with
  | .tactical payload =>
      if frame.type = .PLACE_BET ∨ frame.type = .CASH_OUT then
        some payload
      else
        none
  | _ => none

/- The key of an envelope that bets or cashes out. -/
def Frame.financialKey (frame : Frame) : Option String :=
  frame.financialPayload.bind
    TacticalPayload.idempotencyKey

namespace ExecutionBoundaryManager

/- The envelopes handed to the transport between states. -/
def handed
    (m next : ExecutionBoundaryManager) : List Frame :=
  next.transport.sent.drop m.transport.sent.length

theorem handed_of_sent_eq
    {m next : ExecutionBoundaryManager}
    (hSent : next.transport.sent = m.transport.sent) :
    handed m next = [] := by
  unfold handed
  rw [hSent]
  exact List.drop_length

/- A dispatch hands nothing but its own envelope. -/
theorem Dispatched.of_mem_handed
    {m next : ExecutionBoundaryManager}
    {type : ExecutionMessageType}
    {payload : Payload}
    (hDispatched : Dispatched m next type payload)
    {frame : Frame}
    (hFrame : frame ∈ handed m next) :
    frame.type = type ∧ frame.payload = payload := by
  rcases hDispatched.sent with
    hSame | ⟨logged, hSent, hType, hPayload⟩
  · rw [handed_of_sent_eq hSame] at hFrame
    cases hFrame
  · have hHanded : handed m next = [logged] := by
      unfold handed
      rw [hSent]
      exact List.drop_left
    rw [hHanded] at hFrame
    rw [List.mem_singleton.mp hFrame]
    exact ⟨hType, hPayload⟩

/- A call of the financial interface: its payload and gate. -/
def financialCall
    (env : Env)
    (m : ExecutionBoundaryManager) :
    Input → Option (TacticalPayload × Option Denial)
| .command (.placeBet payload _) =>
    some (payload, m.betGate env payload)
| .command (.cashOut payload _) =>
    some (payload, m.cashOutGate payload)
| _ => none

/- The payload an input stores in the ledger as in flight. -/
def storedPayload
    (env : Env)
    (m : ExecutionBoundaryManager)
    (input : Input) : Option TacticalPayload :=
  (m.financialCall env input).bind
    (fun call =>
      if (m.refusal env call.1 call.2).isNone then
        some call.1
      else
        none)

/- The result an input carries, and the key it settles. -/
def settledResult
    (m : ExecutionBoundaryManager) :
    Input → Option (OperationResult × String × LedgerStatus)
| .data _ (.envelope envelope) =>
    match envelope.payload with
    | .operationResult payload =>
        (m.settles payload).map
          (fun settled => (payload, settled))
    | _ => none
| _ => none

/-
  What an input does to the ledger and hands to the
  transport: nothing financial, the answer to a duplicate
  check, a stored and dispatched operation, or the record of
  a result.
-/
inductive LedgerEffect
    (env : Env)
    (m next : ExecutionBoundaryManager)
    (input : Input) : Prop
| idle
    (hLedger : next.idempotency = m.idempotency)
    (hHanded :
      ∀ frame ∈ handed m next,
        frame.financialPayload = none)
| checked
    (key : String)
    (hLedger :
      next.idempotency =
        (m.idempotency.check env.now key).1)
    (hHanded : handed m next = [])
| stored
    (payload payloadWithOp : TacticalPayload)
    (hStored : m.storedPayload env input = some payload)
    (hKey :
      payloadWithOp.idempotencyKey =
        some (idempotencyKeyOf env payload))
    (hRetry :
      payloadWithOp.forceRetry = payload.forceRetry)
    (hLedger :
      next.idempotency =
        (m.idempotency.check env.now
            (idempotencyKeyOf env payload)).1.recordInFlight
          env.now (idempotencyKeyOf env payload)
          (operationIdOf env payload) payloadWithOp)
    (hHanded :
      ∀ frame ∈ handed m next,
        frame.financialPayload = some payloadWithOp)
| settled
    (result : OperationResult)
    (key : String)
    (status : LedgerStatus)
    (hSettled :
      m.settledResult input = some (result, key, status))
    (hLedger :
      next.idempotency =
        m.idempotency.recordTerminal env.now key status
          result result.operationId)
    (hHanded : handed m next = [])

/- What an admitted call has passed. -/
theorem refusal_eq_none
    {env : Env}
    {m : ExecutionBoundaryManager}
    {payload : TacticalPayload}
    {gate : Option Denial}
    (hNone : m.refusal env payload gate = none) :
    env.degraded = false ∧
      m.watchdog.isDegraded = false ∧
        gate = none ∧
          ∀ record,
            (m.idempotency.check env.now
                (idempotencyKeyOf env payload)).2 =
                some record →
              record.status = .FAILED ∧
                payload.forceRetry = true := by
  unfold refusal at hNone
  cases hDegraded : env.degraded with
  | true => simp [hDegraded] at hNone
  | false =>
      cases hWatchdog : m.watchdog.isDegraded with
      | true => simp [hDegraded, hWatchdog] at hNone
      | false =>
          simp only [hDegraded, hWatchdog,
            Bool.false_eq_true, if_false] at hNone
          cases hDuplicate :
              (m.idempotency.check env.now
                (idempotencyKeyOf env payload)).2.bind
                (fun record =>
                  duplicateReply record
                    payload.forceRetry) with
          | some reply => simp [hDuplicate] at hNone
          | none =>
              simp only [hDuplicate,
                Option.map_eq_none_iff] at hNone
              refine ⟨rfl, rfl, hNone, ?_⟩
              intro record hRecord
              rw [hRecord] at hDuplicate
              have hReply :
                  duplicateReply record
                    payload.forceRetry = none :=
                hDuplicate
              unfold duplicateReply at hReply
              cases hStatus : record.status with
              | IN_FLIGHT => simp [hStatus] at hReply
              | COMPLETED => simp [hStatus] at hReply
              | UNCERTAIN => simp [hStatus] at hReply
              | FAILED =>
                  refine ⟨rfl, ?_⟩
                  cases hRetry : payload.forceRetry with
                  | true => rfl
                  | false =>
                      simp [hStatus, hRetry] at hReply

/- A stored payload is that of an admitted call. -/
theorem storedPayload_eq_some
    {env : Env}
    {m : ExecutionBoundaryManager}
    {input : Input}
    {payload : TacticalPayload}
    (hStored :
      m.storedPayload env input = some payload) :
    ∃ gate,
      m.financialCall env input = some (payload, gate) ∧
        m.refusal env payload gate = none := by
  unfold storedPayload at hStored
  rcases Option.bind_eq_some_iff.mp hStored with
    ⟨⟨called, gate⟩, hCall, hAdmitted⟩
  cases hRefusal : m.refusal env called gate with
  | some reply => simp [hRefusal] at hAdmitted
  | none =>
      simp only [hRefusal, Option.isNone_none, if_true,
        Option.some.injEq] at hAdmitted
      subst hAdmitted
      exact ⟨gate, hCall, hRefusal⟩

/- The duplicate check of a call that passes its gates. -/
theorem withChecked_idempotency
    (env : Env)
    (m : ExecutionBoundaryManager)
    (payload : TacticalPayload)
    (hDegraded : env.degraded = false)
    (hWatchdog : m.watchdog.isDegraded = false) :
    m.withChecked env payload =
      { m with
          idempotency :=
            (m.idempotency.check env.now
              (idempotencyKeyOf env payload)).1 } := by
  unfold withChecked
  simp [hDegraded, hWatchdog]

/- The duplicate check changes nothing but the ledger. -/
theorem withChecked_eq
    (env : Env)
    (m : ExecutionBoundaryManager)
    (payload : TacticalPayload) :
    m.withChecked env payload =
      { m with
          idempotency :=
            (m.withChecked env payload).idempotency } := by
  unfold withChecked
  split <;> rfl

theorem withChecked_transport
    (env : Env)
    (m : ExecutionBoundaryManager)
    (payload : TacticalPayload) :
    (m.withChecked env payload).transport = m.transport := by
  rw [m.withChecked_eq env payload]

theorem withChecked_sent
    (env : Env)
    (m : ExecutionBoundaryManager)
    (payload : TacticalPayload) :
    (m.withChecked env payload).transport.sent =
      m.transport.sent := by
  rw [m.withChecked_transport env payload]

/- The effect of a bet or cash-out on the ledger. -/
theorem dispatchFinancial_ledgerEffect
    (env : Env)
    (m : ExecutionBoundaryManager)
    (input : Input)
    {type : ExecutionMessageType}
    {payload payloadWithOp : TacticalPayload}
    (accountId : Option String)
    (targetAccounts : List String)
    (gate : Option Denial)
    (options : DispatchOptions)
    (hCall :
      m.financialCall env input = some (payload, gate))
    (hType : type = .PLACE_BET ∨ type = .CASH_OUT)
    (hKey :
      payloadWithOp.idempotencyKey =
        some (idempotencyKeyOf env payload))
    (hRetry :
      payloadWithOp.forceRetry = payload.forceRetry) :
    LedgerEffect env m
      (m.dispatchFinancial env type payload payloadWithOp
        accountId targetAccounts gate options).1
      input := by
  unfold dispatchFinancial
  cases hRefusal : m.refusal env payload gate with
  | some reply =>
      have hHanded :
          handed m (m.withChecked env payload) = [] :=
        handed_of_sent_eq (m.withChecked_sent env payload)
      by_cases hOpen :
          env.degraded = true ∨
            m.watchdog.isDegraded = true
      · have hSame : m.withChecked env payload = m := by
          unfold withChecked
          simp [hOpen]
        apply LedgerEffect.idle
        · rw [hSame]
        · intro frame hFrame
          rw [hHanded] at hFrame
          cases hFrame
      · have hDegraded : env.degraded = false := by
          simpa using fun h => hOpen (Or.inl h)
        have hWatchdog : m.watchdog.isDegraded = false := by
          simpa using fun h => hOpen (Or.inr h)
        apply LedgerEffect.checked
          (idempotencyKeyOf env payload)
        · rw [withChecked_idempotency env m payload
            hDegraded hWatchdog]
        · exact hHanded
  | none =>
      rcases refusal_eq_none hRefusal with
        ⟨hDegraded, hWatchdog, _, _⟩
      have hDispatched :=
        dispatchEnvelope_dispatched env
          ((m.withChecked env payload).recordDispatch env
            payload payloadWithOp accountId targetAccounts)
          type (.tactical payloadWithOp) options
      have hChecked :=
        withChecked_idempotency env m payload hDegraded
          hWatchdog
      apply LedgerEffect.stored payload payloadWithOp
      · unfold storedPayload
        simp [hCall, hRefusal]
      · exact hKey
      · exact hRetry
      · have hLedger := hDispatched.idempotency
        rw [hChecked] at hLedger ⊢
        exact hLedger
      · intro frame hFrame
        rw [hChecked] at hDispatched hFrame
        rcases hDispatched.of_mem_handed hFrame with
          ⟨hFrameType, hPayload⟩
        unfold Frame.financialPayload
        rw [hPayload, hFrameType]
        exact if_pos hType

/- A step that keeps the ledger and hands nothing. -/
theorem LedgerEffect.of_frame
    {env : Env}
    {m next : ExecutionBoundaryManager}
    {input : Input}
    (hLedger : next.idempotency = m.idempotency)
    (hSent : next.transport.sent = m.transport.sent) :
    LedgerEffect env m next input := by
  apply LedgerEffect.idle hLedger
  intro frame hFrame
  rw [handed_of_sent_eq hSent] at hFrame
  cases hFrame

/-
  A dispatch of another type than bets and cash-outs, from a
  state that agrees on the ledger and the transport log.
-/
theorem LedgerEffect.of_dispatched
    {env : Env}
    {m base next : ExecutionBoundaryManager}
    {input : Input}
    {type : ExecutionMessageType}
    {payload : Payload}
    (hDispatched : Dispatched base next type payload)
    (hLedger : base.idempotency = m.idempotency)
    (hSent : base.transport.sent = m.transport.sent)
    (hBet : type ≠ .PLACE_BET)
    (hCash : type ≠ .CASH_OUT) :
    LedgerEffect env m next input := by
  apply LedgerEffect.idle
  · exact hDispatched.idempotency.trans hLedger
  · intro frame hFrame
    have hBase : frame ∈ handed base next := by
      unfold handed at hFrame ⊢
      rw [hSent]
      exact hFrame
    rcases hDispatched.of_mem_handed hBase with
      ⟨hType, _⟩
    unfold Frame.financialPayload
    split
    · rw [if_neg]
      rintro (hFrameType | hFrameType)
      · exact hBet (hType.symm.trans hFrameType)
      · exact hCash (hType.symm.trans hFrameType)
    · rfl

/-
  A command other than a bet and a cash-out is refused, or
  dispatches an envelope of another type from a state that
  agrees on the ledger and the transport log.
-/
inductive Sends
    (m next : ExecutionBoundaryManager)
    (command : Command) : Prop
| refused
    (hLedger : next.idempotency = m.idempotency)
    (hSent : next.transport.sent = m.transport.sent)
| dispatched
    (base : ExecutionBoundaryManager)
    (type : ExecutionMessageType)
    (payload : Payload)
    (hDispatched : Dispatched base next type payload)
    (hLedger : base.idempotency = m.idempotency)
    (hSent : base.transport.sent = m.transport.sent)
    (hBet : type ≠ .PLACE_BET)
    (hCash : type ≠ .CASH_OUT)
    (hInitialize :
      type = .INITIALIZE →
        ∃ accounts options,
          command = .initializeWorker accounts options)

theorem Sends.ledgerEffect
    {env : Env}
    {m next : ExecutionBoundaryManager}
    {command : Command}
    (hSends : Sends m next command) :
    LedgerEffect env m next (.command command) := by
  cases hSends with
  | refused hLedger hSent => exact .of_frame hLedger hSent
  | dispatched base type payload hDispatched hLedger hSent
      hBet hCash _ =>
      exact .of_dispatched hDispatched hLedger hSent hBet
        hCash

theorem dispatchGated_sends
    (env : Env)
    (m : ExecutionBoundaryManager)
    {type : ExecutionMessageType}
    (payload : Payload)
    (options : DispatchOptions)
    (command : Command)
    (hBet : type ≠ .PLACE_BET)
    (hCash : type ≠ .CASH_OUT)
    (hInitialize : type ≠ .INITIALIZE) :
    Sends m (m.dispatchGated env type payload options).1
      command := by
  unfold dispatchGated
  split
  · exact .refused rfl rfl
  · exact .dispatched m type payload
      (dispatchEnvelope_dispatched env m type payload
        options) rfl rfl hBet hCash
      (fun hType => absurd hType hInitialize)

theorem reconcileOperation_sends
    (env : Env)
    (m : ExecutionBoundaryManager)
    (operationId : String)
    (options : DispatchOptions)
    (command : Command) :
    Sends m (m.reconcileOperation env operationId options).1
      command := by
  unfold reconcileOperation
  dsimp only
  split
  · exact .refused rfl rfl
  · exact .dispatched _ .RECONCILE_ORDER _
      (dispatchEnvelope_dispatched env _ .RECONCILE_ORDER
        _ options) rfl rfl (by decide) (by decide) nofun

/- Every command but a bet and a cash-out. -/
theorem execute_sends
    (env : Env)
    (m : ExecutionBoundaryManager)
    (command : Command)
    (hOther :
      m.financialCall env (.command command) = none) :
    Sends m (m.execute env command).1 command := by
  cases command with
  | placeBet payload options => cases hOther
  | cashOut payload options => cases hOther
  | captureSnapshot options =>
      exact .dispatched m .CAPTURE_SNAPSHOT .empty
        (dispatchEnvelope_dispatched env m _ _ options) rfl
        rfl (by decide) (by decide) nofun
  | getFleetReadiness options =>
      exact .dispatched m .GET_FLEET_READINESS .empty
        (dispatchEnvelope_dispatched env m _ _ options) rfl
        rfl (by decide) (by decide) nofun
  | initializeWorker accounts options =>
      exact .dispatched _ .INITIALIZE
        (.initialization accounts)
        (dispatchEnvelope_dispatched env _ _ _ options) rfl
        rfl (by decide) (by decide)
        (fun _ => ⟨accounts, options, rfl⟩)
  | stopCluster timeoutMs options =>
      exact .dispatched _ .STOP_CLUSTER
        (.stopCluster timeoutMs)
        (dispatchEnvelope_dispatched env _ _ _ options) rfl
        rfl (by decide) (by decide) nofun
  | reconcileOperation operationId options =>
      exact reconcileOperation_sends env m operationId
        options _
  | _ =>
      exact dispatchGated_sends env m _ _ _ (by decide)
        (by decide) (by decide)

/- The effect of a command on the ledger. -/
theorem execute_ledgerEffect
    (env : Env)
    (m : ExecutionBoundaryManager)
    (command : Command) :
    LedgerEffect env m (m.execute env command).1
      (.command command) := by
  cases hCall : m.financialCall env (.command command) with
  | none =>
      exact (execute_sends env m command hCall).ledgerEffect
  | some call =>
      cases command with
      | placeBet payload options =>
          exact dispatchFinancial_ledgerEffect env m _ _ _ _
            options rfl (Or.inl rfl) rfl rfl
      | cashOut payload options =>
          exact dispatchFinancial_ledgerEffect env m _ _ _ _
            options rfl (Or.inr rfl) rfl rfl
      | _ => cases hCall

/- Settling a promise changes the pending promises only. -/
theorem settleCorrelation_eq
    (m : ExecutionBoundaryManager)
    (envelope : InboundEnvelope) :
    ∃ pending,
      m.settleCorrelation envelope =
        { m with pendingCorrelations := pending } := by
  unfold settleCorrelation
  split
  · exact ⟨_, rfl⟩
  · exact ⟨m.pendingCorrelations, rfl⟩

/- Forgetting an operation changes the in-flight map only. -/
theorem forgetInFlight_eq
    (m : ExecutionBoundaryManager)
    (payload : OperationResult) :
    ∃ inFlight,
      m.forgetInFlight payload =
        { m with inFlightOperations := inFlight } := by
  unfold forgetInFlight
  split
  · exact ⟨_, rfl⟩
  · exact ⟨m.inFlightOperations, rfl⟩

/- The ledger after an outcome is recorded. -/
theorem recordOutcome_eq
    (env : Env)
    (m : ExecutionBoundaryManager)
    (settled : Option (String × LedgerStatus))
    (payload : OperationResult) :
    m.recordOutcome env settled payload =
      { m with
          idempotency :=
            match settled with
            | some (key, status) =>
                m.idempotency.recordTerminal env.now key
                  status payload payload.operationId
            | none => m.idempotency } := by
  unfold recordOutcome
  split <;> rfl

/- The effect of an operation result on the ledger. -/
theorem handleOperationResult_ledgerEffect
    (env : Env)
    (m : ExecutionBoundaryManager)
    (connId : Nat)
    (envelope : InboundEnvelope)
    (payload : OperationResult)
    (hPayload :
      envelope.payload = .operationResult payload) :
    LedgerEffect env m
      (m.handleOperationResult env payload).1
      (.data connId (.envelope envelope)) := by
  rcases m.forgetInFlight_eq payload with
    ⟨inFlight, hForget⟩
  unfold handleOperationResult
  rw [hForget, recordOutcome_eq]
  cases hSettles : m.settles payload with
  | none => exact .of_frame rfl rfl
  | some settled =>
      rcases settled with ⟨key, status⟩
      apply LedgerEffect.settled payload key status
      · simp [settledResult, hPayload, hSettles]
      · rfl
      · exact handed_of_sent_eq rfl

/- The pending promises play no part in these effects. -/
theorem LedgerEffect.of_pending
    {env : Env}
    {m next : ExecutionBoundaryManager}
    {pending : OrderedMap String PendingCorrelation}
    {input : Input}
    (hEffect :
      LedgerEffect env
        { m with pendingCorrelations := pending } next
        input) :
    LedgerEffect env m next input := by
  rcases hEffect with
    ⟨hLedger, hHanded⟩ | ⟨key, hLedger, hHanded⟩ |
    ⟨payload, payloadWithOp, hStored, hKey, hRetry,
      hLedger, hHanded⟩ |
    ⟨result, key, status, hSettled, hLedger, hHanded⟩
  · exact .idle hLedger hHanded
  · exact .checked key hLedger hHanded
  · refine .stored payload payloadWithOp ?_ hKey hRetry
      hLedger hHanded
    rw [← hStored]
    cases input with
    | command command => cases command <;> rfl
    | _ => rfl
  · refine .settled result key status ?_ hLedger hHanded
    rw [← hSettled]
    rfl

/- The effect of a payload on the ledger. -/
theorem handlePayload_ledgerEffect
    (env : Env)
    (m : ExecutionBoundaryManager)
    (connId : Nat)
    (envelope : InboundEnvelope) :
    LedgerEffect env m
      (m.handlePayload env envelope.payload).1
      (.data connId (.envelope envelope)) := by
  cases hPayload : envelope.payload with
  | heartbeat activeBrowsers engineStatus =>
      exact .of_frame rfl rfl
  | stateChanged state message =>
      exact .of_frame rfl rfl
  | operationResult payload =>
      exact handleOperationResult_ledgerEffect env m connId
        envelope payload hPayload
  | reconciliationReport report =>
      exact .of_frame rfl rfl
  | snapshotDump engineStatus activeBrowserCount runs =>
      exact .of_frame rfl rfl
  | telemetry type => exact .of_frame rfl rfl

theorem handleClientDisconnected_ledgerEffect
    (env : Env)
    (m : ExecutionBoundaryManager)
    (connId : Nat)
    (input : Input) :
    LedgerEffect env m
      (m.handleClientDisconnected connId).1 input := by
  unfold handleClientDisconnected
  dsimp only
  split
  · exact .of_frame rfl rfl
  · exact .of_frame rfl rfl

/- The effect of a frame of the pipe on the ledger. -/
theorem handleIncomingData_ledgerEffect
    (env : Env)
    (m : ExecutionBoundaryManager)
    (connId : Nat)
    (data : InboundData) :
    LedgerEffect env m
      (m.handleIncomingData env connId data).1
      (.data connId data) := by
  cases data with
  | oversized =>
      exact handleClientDisconnected_ledgerEffect env m
        connId _
  | unparsable => exact .of_frame rfl rfl
  | invalid => exact .of_frame rfl rfl
  | legacyHeartbeat => exact .of_frame rfl rfl
  | envelope envelope =>
      rcases m.settleCorrelation_eq envelope with
        ⟨pending, hSettle⟩
      unfold handleIncomingData
      dsimp only
      rw [hSettle]
      exact .of_pending
        (handlePayload_ledgerEffect env _ connId envelope)

/- What one input does to the ledger. -/
theorem react_ledgerEffect
    (env : Env)
    (m : ExecutionBoundaryManager)
    (input : Input) :
    LedgerEffect env m (m.react env input).1 input := by
  cases input with
  | command command => exact execute_ledgerEffect env m command
  | startServer =>
      unfold react
      cases hStart : m.startServer env with
      | none => exact .of_frame rfl rfl
      | some started =>
          rcases startServer_eq_some hStart with
            ⟨transport, hTransport, rfl⟩
          exact .of_frame rfl
            (PipeTransport.startServer_sent hTransport)
  | stopServer =>
      exact .of_frame rfl (PipeTransport.stopServer_sent _)
  | manualResolve operationId outcome note =>
      exact .of_frame rfl rfl
  | uncertainOperations ops => exact .of_frame rfl rfl
  | connected connId =>
      exact .of_dispatched
        (dispatchEnvelope_dispatched env _
          .CAPTURE_SNAPSHOT .empty _) rfl
        (PipeTransport.onConnect_sent _ _) (by decide)
        (by decide)
  | disconnected connId =>
      exact handleClientDisconnected_ledgerEffect env m
        connId _
  | data connId data =>
      exact handleIncomingData_ledgerEffect env m connId data
  | checkLiveness => exact .of_frame rfl rfl
  | correlationTimeout msgId => exact .of_frame rfl rfl

/- The ledger after an admitted bet or cash-out. -/
theorem dispatchFinancial_idempotency
    (env : Env)
    (m : ExecutionBoundaryManager)
    (type : ExecutionMessageType)
    {payload payloadWithOp : TacticalPayload}
    (accountId : Option String)
    (targetAccounts : List String)
    {gate : Option Denial}
    (options : DispatchOptions)
    (hAdmitted : m.refusal env payload gate = none) :
    (m.dispatchFinancial env type payload payloadWithOp
        accountId targetAccounts gate
        options).1.idempotency =
      (m.idempotency.check env.now
          (idempotencyKeyOf env payload)).1.recordInFlight
        env.now (idempotencyKeyOf env payload)
        (operationIdOf env payload) payloadWithOp := by
  rcases refusal_eq_none hAdmitted with
    ⟨hDegraded, hWatchdog, _, _⟩
  have hDispatched :=
    dispatchEnvelope_dispatched env
      ((m.withChecked env payload).recordDispatch env
        payload payloadWithOp accountId targetAccounts)
      type (.tactical payloadWithOp) options
  unfold dispatchFinancial
  rw [hAdmitted]
  refine hDispatched.idempotency.trans ?_
  rw [withChecked_idempotency env m payload hDegraded
    hWatchdog]
  rfl

/- An input that settles a key records its outcome. -/
theorem react_of_settled
    {env : Env}
    {m : ExecutionBoundaryManager}
    {input : Input}
    {result : OperationResult}
    {key : String}
    {status : LedgerStatus}
    (hSettled :
      m.settledResult input = some (result, key, status)) :
    (m.react env input).1.idempotency =
      m.idempotency.recordTerminal env.now key status
        result result.operationId := by
  unfold settledResult at hSettled
  split at hSettled
  · rename_i connId envelope
    split at hSettled
    · rename_i payload hPayload
      rcases Option.map_eq_some_iff.mp hSettled with
        ⟨settled, hSettles, hPair⟩
      rcases Prod.mk.inj hPair with ⟨rfl, rfl⟩
      rcases m.settleCorrelation_eq envelope with
        ⟨pending, hSettle⟩
      rcases forgetInFlight_eq
          { m with pendingCorrelations := pending }
          payload with ⟨inFlight, hForget⟩
      have hSame :
          settles
              { m with pendingCorrelations := pending }
              payload = some (key, status) := hSettles
      unfold react handleIncomingData handlePayload
      dsimp only
      rw [hSettle, hPayload]
      unfold handleOperationResult
      dsimp only
      rw [hForget, recordOutcome_eq, hSame]
      rfl
    · cases hSettled
  · cases hSettled

end ExecutionBoundaryManager

------------------------------------------------------------
-- Effects On The Coordinator
------------------------------------------------------------

namespace ExecutionBoundaryManager

open Coordinator

/- Enqueueing is one coordinator call per operation. -/
def enqueueCalls
    (env : Env)
    (ops : List (UncertainOperation Details)) :
    List (Call Details) :=
  ops.map (Call.enqueueUncertainOperation env.now)

/- The coordinator calls a payload leads to. -/
def payloadCalls
    (env : Env)
    (m : ExecutionBoundaryManager) :
    InboundPayload → List (Call Details)
| .operationResult payload =>
    enqueueCalls env (m.resultOperations payload)
| .reconciliationReport report =>
    [.handleReconciliationReport report]
| .snapshotDump _ _ runs =>
    enqueueCalls env (snapshotOperations (runs.getD []))
| _ => []

/- The coordinator calls an input leads to. -/
def coordinatorCalls
    (env : Env)
    (m : ExecutionBoundaryManager) :
    Input → List (Call Details)
| .command (.reconcileOperation operationId _) =>
    [.createReconcileRequest (some operationId)]
| .manualResolve operationId outcome note =>
    [.manualResolve env.now operationId outcome note]
| .uncertainOperations ops => enqueueCalls env ops
| .data _ (.envelope envelope) =>
    m.payloadCalls env envelope.payload
| _ => []

theorem enqueueAll_reconciliation
    (env : Env)
    (m : ExecutionBoundaryManager)
    (ops : List (UncertainOperation Details)) :
    (m.enqueueAll env ops).reconciliation =
      run step m.reconciliation (enqueueCalls env ops) := by
  unfold enqueueAll enqueueCalls run
  rw [List.foldl_map]
  rfl

theorem dispatchFinancial_reconciliation
    (env : Env)
    (m : ExecutionBoundaryManager)
    (type : ExecutionMessageType)
    (payload payloadWithOp : TacticalPayload)
    (accountId : Option String)
    (targetAccounts : List String)
    (gate : Option Denial)
    (options : DispatchOptions) :
    (m.dispatchFinancial env type payload payloadWithOp
        accountId targetAccounts gate
        options).1.reconciliation =
      m.reconciliation := by
  have hChecked :
      (m.withChecked env payload).reconciliation =
        m.reconciliation := by
    rw [m.withChecked_eq env payload]
  unfold dispatchFinancial
  split
  · exact hChecked
  · exact
      (dispatchEnvelope_dispatched env _ type
        _ options).reconciliation.trans hChecked

theorem dispatchGated_reconciliation
    (env : Env)
    (m : ExecutionBoundaryManager)
    (type : ExecutionMessageType)
    (payload : Payload)
    (options : DispatchOptions) :
    (m.dispatchGated env type payload
        options).1.reconciliation =
      m.reconciliation := by
  unfold dispatchGated
  split
  · rfl
  · exact
      (dispatchEnvelope_dispatched env m type payload
        options).reconciliation

theorem reconcileOperation_reconciliation
    (env : Env)
    (m : ExecutionBoundaryManager)
    (operationId : String)
    (options : DispatchOptions) :
    (m.reconcileOperation env operationId
        options).1.reconciliation =
      (m.reconciliation.createReconcileRequest
        (some operationId)).1 := by
  unfold reconcileOperation
  dsimp only
  cases hTask :
      m.reconciliation.pendingReconciliations.get?
        (some operationId) with
  | none =>
      simp [ReconciliationCoordinator.createReconcileRequest,
        hTask]
  | some task =>
      simp only [
        ReconciliationCoordinator.createReconcileRequest,
        hTask]
      exact
        (dispatchEnvelope_dispatched env _ .RECONCILE_ORDER
          _ options).reconciliation

theorem handlePayload_reconciliation
    (env : Env)
    (m : ExecutionBoundaryManager)
    (payload : InboundPayload) :
    (m.handlePayload env payload).1.reconciliation =
      run step m.reconciliation
        (m.payloadCalls env payload) := by
  cases payload with
  | heartbeat activeBrowsers engineStatus => rfl
  | stateChanged state message => rfl
  | operationResult result =>
      rcases m.forgetInFlight_eq result with
        ⟨inFlight, hForget⟩
      unfold handlePayload handleOperationResult
      dsimp only
      rw [enqueueAll_reconciliation, hForget,
        recordOutcome_eq]
      rfl
  | reconciliationReport report => rfl
  | snapshotDump engineStatus activeBrowserCount runs =>
      exact enqueueAll_reconciliation env _ _
  | telemetry type => rfl

theorem execute_reconciliation
    (env : Env)
    (m : ExecutionBoundaryManager)
    (command : Command) :
    (m.execute env command).1.reconciliation =
      run step m.reconciliation
        (m.coordinatorCalls env (.command command)) := by
  cases command with
  | placeBet payload options =>
      exact dispatchFinancial_reconciliation env m _ _ _ _
        _ _ options
  | cashOut payload options =>
      exact dispatchFinancial_reconciliation env m _ _ _ _
        _ _ options
  | validateTactical payload options =>
      exact dispatchGated_reconciliation env m _ _ options
  | activateAccount payload options =>
      exact dispatchGated_reconciliation env m _ _ options
  | deactivateAccount accountId options =>
      exact dispatchGated_reconciliation env m _ _ options
  | setBetCycle targetBrowserId isEnabled options =>
      exact dispatchGated_reconciliation env m _ _ options
  | updatePolicy category options =>
      exact dispatchGated_reconciliation env m _ _ options
  | resetPolicy target options =>
      exact dispatchGated_reconciliation env m _ _ options
  | captureSnapshot options =>
      exact (dispatchEnvelope_dispatched env m
        .CAPTURE_SNAPSHOT .empty options).reconciliation
  | getFleetReadiness options =>
      exact (dispatchEnvelope_dispatched env m
        .GET_FLEET_READINESS .empty options).reconciliation
  | initializeWorker accounts options =>
      exact (dispatchEnvelope_dispatched env _ .INITIALIZE
        (.initialization accounts) options).reconciliation
  | stopCluster timeoutMs options =>
      exact (dispatchEnvelope_dispatched env _ .STOP_CLUSTER
        (.stopCluster timeoutMs) options).reconciliation
  | reconcileOperation operationId options =>
      exact reconcileOperation_reconciliation env m
        operationId options

theorem handleClientDisconnected_reconciliation
    (m : ExecutionBoundaryManager)
    (connId : Nat) :
    (m.handleClientDisconnected connId).1.reconciliation =
      m.reconciliation := by
  unfold handleClientDisconnected
  dsimp only
  split <;> rfl

/-
  The coordinator of a manager changes by the coordinator
  calls of its inputs only.
-/
theorem react_reconciliation
    (env : Env)
    (m : ExecutionBoundaryManager)
    (input : Input) :
    (m.react env input).1.reconciliation =
      run step m.reconciliation
        (m.coordinatorCalls env input) := by
  cases input with
  | command command => exact execute_reconciliation env m command
  | startServer =>
      unfold react
      cases hStart : m.startServer env with
      | none => rfl
      | some started =>
          rcases startServer_eq_some hStart with
            ⟨transport, _, rfl⟩
          rfl
  | stopServer => rfl
  | manualResolve operationId outcome note => rfl
  | uncertainOperations ops =>
      exact enqueueAll_reconciliation env m ops
  | connected connId =>
      exact (dispatchEnvelope_dispatched env _
        .CAPTURE_SNAPSHOT .empty _).reconciliation
  | disconnected connId =>
      exact handleClientDisconnected_reconciliation m connId
  | data connId data =>
      cases data with
      | oversized =>
          exact handleClientDisconnected_reconciliation m
            connId
      | unparsable => rfl
      | invalid => rfl
      | legacyHeartbeat => rfl
      | envelope envelope =>
          rcases m.settleCorrelation_eq envelope with
            ⟨pending, hSettle⟩
          unfold react handleIncomingData
          dsimp only
          rw [hSettle, handlePayload_reconciliation]
          cases hPayload : envelope.payload with
          | _ => simp [coordinatorCalls, hPayload]; rfl
  | checkLiveness => rfl
  | correlationTimeout msgId => rfl

end ExecutionBoundaryManager

end ControlPlane
