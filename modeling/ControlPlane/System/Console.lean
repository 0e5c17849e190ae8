import ControlPlane.Boundary.CircuitBreaker
import ControlPlane.System.Endings

/-
  The console and its pending-action lock.

  A tactical route queues its operation in the tracker, and
  so takes the lock, before the command is checked. The
  lock is one variable: every result, of whatever operation,
  clears it, and a call that is refused leaves it taken.

  The lock is exact when it is taken as long as some
  operation that was handed to the Execution Plane is queued
  or in flight.

  Main declarations:
    * `RouteCall` and `System.routeCall`
    * `Console` and `Console.step`
    * `Console.lock_exact_iff`
-/

------------------------------------------------------------
-- Tactical Routes
------------------------------------------------------------

namespace ControlPlane

/- The tactical routes, with what their body gives them. -/
inductive TacticalRoute where
| placeBet (body : TacticalPayload)
| cashOut (body : TacticalPayload)
| validate
deriving DecidableEq, Repr

/-
  One call of a route. What the capability check, the schema
  and the state permission answer is part of the call, and
  so is the new operation id.
-/
structure RouteCall where
  operationId : String
  route : TacticalRoute
  traceId : Option String := none
  authorized : Bool := true
  valid : Bool := true
  permitted : Bool := true
  elapsed : Nat
  surroundings : Surroundings

namespace RouteCall

def actionType (call : RouteCall) : ActionType :=
  match call.route with
  | .placeBet _ => .PLACING_BET
  | .cashOut _ => .CASHING_OUT
  | .validate => .VALIDATING

/- The metadata that a route keeps with its operation. -/
def metadata (call : RouteCall) : OperationMetadata :=
  match call.route with
  | .placeBet body =>
      { idempotencyKey := body.idempotencyKey
        accountId := body.accountId }
  | .cashOut body =>
      { idempotencyKey := body.idempotencyKey
        accountId := body.accountId }
  | .validate => {}

/- The command that the route's handler gives the boundary. -/
def command (call : RouteCall) : Command :=
  match call.route with
  | .placeBet body =>
      .placeBet
        { body with
            operationId := some call.operationId
            targetAccount := none }
        { traceId := call.traceId }
  | .cashOut body =>
      .cashOut
        { idempotencyKey := body.idempotencyKey
          operationId := some call.operationId
          accountId := body.accountId
          targetAccount := body.targetAccount
          forceRetry := body.forceRetry }
        { traceId := call.traceId }
  | .validate =>
      .validateTactical
        { operationId := some call.operationId }
        { traceId := call.traceId }

end RouteCall

namespace System

/- The command comes to the boundary. -/
def admits
    (s : System)
    (call : RouteCall) : Bool :=
  call.authorized && call.valid && call.permitted &&
    !s.security.isDegraded

/- What the boundary answers to the command of a route. -/
def routeReply
    (s : System)
    (call : RouteCall) : Option Reply :=
  if s.admits call then
    let event :=
      s.boundaryEvent call.surroundings call.elapsed
        (.command call.command)
    some (s.boundary.manager.execute (s.boundary.env event)
      call.command).2
  else
    none

/- A validation that returns completes its operation. -/
def validates
    (s : System)
    (call : RouteCall) : Bool :=
  match call.route, s.routeReply call with
  | .validate, some (.dispatched (.sent _)) => true
  | _, _ => false

/-
  A call of a route: the operation is queued, the checks are
  made, the command is dispatched, and a validation is
  completed.
-/
def routeCall
    (s : System)
    (call : RouteCall) : System :=
  let started :=
    { s with
        tracker :=
          s.tracker.startOperation call.operationId
            call.actionType call.metadata }
  let sent :=
    if s.admits call then
      started.feed call.surroundings call.elapsed
        (.command call.command)
    else
      started
  if s.validates call then
    { sent with
        tracker :=
          sent.tracker.completeOperation call.operationId }
  else
    sent

/- The envelope of the call reached a connection. -/
def handsOver
    (s : System)
    (call : RouteCall) : Bool :=
  decide ((s.routeCall call).boundary.manager.transport.sent ≠
    s.boundary.manager.transport.sent)

end System

/- Inputs that only a route brings about. -/
def SystemInput.byRoute : SystemInput → Bool
| .startOperation _ _ _ => true
| .boundary ⟨.command (.placeBet _ _), _⟩ => true
| .boundary ⟨.command (.cashOut _ _), _⟩ => true
| .boundary ⟨.command (.validateTactical _ _), _⟩ => true
| _ => false

inductive ConsoleInput where
| route (call : RouteCall)
| turn (event : SystemEvent)

/- The system, and the operations it has handed over. -/
structure Console where
  system : System
  handed : List String

namespace Console

/-
  One route call or one other turn of the event loop. A new
  operation has a new id.
-/
def step
    (c : Console) : ConsoleInput → Console
| .route call =>
    if (c.system.tracker.statusOf
        call.operationId).isSome then
      c
    else
      { system := c.system.routeCall call
        handed :=
          if c.system.handsOver call then
            c.handed ++ [call.operationId]
          else
            c.handed }
| .turn event =>
    if event.input.byRoute then c
    else { c with system := c.system.step event }

/- The console of a new process. -/
def fresh
    (maxEntries : Nat)
    (accounts : List WorkspaceAccount) : Console where
  system := System.fresh maxEntries accounts
  handed := []

end Console

------------------------------------------------------------
-- The Lock
------------------------------------------------------------

/- The operation waits for its outcome. -/
def TrackedStatus.pending : TrackedStatus → Bool
| .QUEUED => true
| .IN_FLIGHT => true
| _ => false

namespace OperationTracker

/- The tracked operation is queued or in flight. -/
def isPending
    (t : OperationTracker)
    (operationId : String) : Bool :=
  (t.statusOf operationId).any TrackedStatus.pending

/- An operation that was handed over is pending. -/
def HasPending
    (t : OperationTracker)
    (handed : List String) : Prop :=
  ∃ operationId ∈ handed, t.isPending operationId = true

/- The lock says whether such an operation is pending. -/
def LockExact
    (t : OperationTracker)
    (handed : List String) : Prop :=
  t.currentPendingAction ≠ none ↔ t.HasPending handed

/- No handed operation but this one is pending. -/
def OnlyPending
    (t : OperationTracker)
    (handed : List String)
    (operationId : String) : Prop :=
  ∀ other ∈ handed,
    t.isPending other = true → other = operationId

end OperationTracker

namespace ExecutionBoundaryManager

/- A dispatch comes to its end, and no write throws. -/
def writesAll
    (env : Env)
    (m : ExecutionBoundaryManager) : Bool :=
  m.starts env &&
    (PipeTransport.writeAll env.native
      m.transport.activeConnections).2

/- A connection accepts what is written. -/
def accepted
    (env : Env)
    (m : ExecutionBoundaryManager) : Bool :=
  decide (0 < (PipeTransport.writeAll env.native
    m.transport.activeConnections).1)

end ExecutionBoundaryManager

namespace System

/- What the boundary reads while it handles the command. -/
def routeEnv
    (s : System)
    (call : RouteCall) : Env :=
  s.boundary.env
    (s.boundaryEvent call.surroundings call.elapsed
      (.command call.command))

/- The boundary does not refuse the command. -/
def lets
    (s : System)
    (call : RouteCall) : Bool :=
  let env := s.routeEnv call
  match call.command with
  | .placeBet payload _ =>
      (s.boundary.manager.refusal env payload
        (s.boundary.manager.betGate env payload)).isNone
  | .cashOut payload _ =>
      (s.boundary.manager.refusal env payload
        (s.boundary.manager.cashOutGate payload)).isNone
  | _ => true

end System

namespace Console

/- The lock of the console is exact. -/
def Exact (c : Console) : Prop :=
  c.system.tracker.LockExact c.handed

/- A handed operation is pending. -/
def HasPending (c : Console) : Prop :=
  c.system.tracker.HasPending c.handed

/- The call passes every check and a connection takes it. -/
def Passes
    (c : Console)
    (call : RouteCall) : Prop :=
  c.system.admits call = true ∧
    c.system.lets call = true ∧
    c.system.boundary.manager.starts
      (c.system.routeEnv call) = true ∧
    c.system.boundary.manager.accepted
      (c.system.routeEnv call) = true

/-
  The route call keeps the lock exact. A validation that
  comes to its end finds nothing pending. Any other call
  passes, or finds something pending.
-/
def RouteKeepsLock
    (c : Console)
    (call : RouteCall) : Prop :=
  if call.route = .validate ∧
      c.system.admits call = true ∧
      c.system.boundary.manager.writesAll
        (c.system.routeEnv call) = true then
    ¬ c.HasPending
  else
    c.Passes call ∨ c.HasPending

/-
  The input keeps the lock exact. A new operation passes or
  finds another one pending; a result is of the only pending
  operation; the acknowledgement of a handed operation finds
  one pending.
-/
def KeepsLock
    (c : Console) : ConsoleInput → Prop
| .route call =>
    c.system.tracker.statusOf call.operationId = none →
      c.RouteKeepsLock call
| .turn event =>
    match event.input with
    | .runtimeAck operationId =>
        operationId ∈ c.handed → c.HasPending
    | .runtimeResult operationId _ _ =>
        c.system.tracker.OnlyPending c.handed operationId
    | .boundary ⟨.data _ data, _⟩ =>
        ∀ result operationId,
          System.HearsResult c.system.boundary.manager data
              result operationId →
            c.system.tracker.OnlyPending c.handed operationId
    | _ => True

end Console

------------------------------------------------------------
-- The Lock After A Call Of The Tracker
------------------------------------------------------------

namespace OperationTracker

@[simp] theorem isPending_eq
    (t : OperationTracker)
    (operationId : String) :
    t.isPending operationId = true ↔
      ∃ status,
        t.statusOf operationId = some status ∧
          status.pending = true := by
  simp [isPending, Option.any_eq_true]

theorem change_currentPendingAction
    (t : OperationTracker)
    (operationId : String)
    (f : TrackedOperation → TrackedOperation) :
    (t.change operationId f).currentPendingAction =
      t.currentPendingAction := by
  unfold change
  split <;> rfl

/- A sweep clears the lock, and nothing stays pending. -/
theorem lockExact_sweep
    (t : OperationTracker)
    (handed : List String)
    {call : TrackerCall}
    (hSweeps : call.sweeps = true) :
    (call.apply t).LockExact handed := by
  have hUnlocked :
      (call.apply t).currentPendingAction = none := by
    cases call with
    | quarantineAllPending reason => rfl
    | failAllPending reason => rfl
    | _ => cases hSweeps
  have hSettled :
      ∀ operationId,
        ¬ (call.apply t).isPending operationId = true := by
    intro operationId hPending
    rw [isPending_eq, statusOf_apply] at hPending
    rcases hPending with ⟨status, hStatus, hWaits⟩
    cases call with
    | quarantineAllPending reason =>
        rcases Option.map_eq_some_iff.mp hStatus with
          ⟨before, _, rfl⟩
        cases before with
        | _ => cases hWaits
    | failAllPending reason =>
        rcases Option.map_eq_some_iff.mp hStatus with
          ⟨before, _, rfl⟩
        cases before with
        | _ => cases hWaits
    | _ => cases hSweeps
  simp only [LockExact, HasPending, hUnlocked, ne_eq,
    not_true_eq_false, false_iff, not_exists, not_and]
  intro operationId _
  exact hSettled operationId

theorem lockExact_sweeps
    {t : OperationTracker}
    {handed : List String}
    (hExact : t.LockExact handed)
    {calls : List TrackerCall}
    (hSweeps : ∀ call ∈ calls, call.sweeps = true) :
    (run TrackerCall.apply t calls).LockExact handed := by
  induction calls generalizing t with
  | nil => exact hExact
  | cons call calls ih =>
      apply ih
      · exact lockExact_sweep t handed
          (hSweeps call List.mem_cons_self)
      · intro later hLater
        exact hSweeps later (List.mem_cons_of_mem call hLater)

/-
  A call that settles one operation clears the lock for all
  of them.
-/
theorem lockExact_settled_iff
    {t next : OperationTracker}
    (handed : List String)
    {named : String}
    (now : TrackedStatus)
    (hSettled : now.pending = false)
    (hUnlocked : next.currentPendingAction = none)
    (hStatus :
      ∀ operationId,
        next.statusOf operationId =
          if operationId = named then
            (t.statusOf operationId).map (fun _ => now)
          else
            t.statusOf operationId) :
    next.LockExact handed ↔ t.OnlyPending handed named := by
  have hPending :
      ∀ operationId,
        next.isPending operationId = true ↔
          operationId ≠ named ∧
            t.isPending operationId = true := by
    intro operationId
    unfold isPending
    rw [hStatus]
    by_cases hSame : operationId = named
    · cases hBefore : t.statusOf operationId with
      | none => simp [hSame]
      | some before => simp [hSame, hSettled]
    · simp [hSame]
  unfold LockExact HasPending OnlyPending
  simp only [hUnlocked, hPending, ne_eq, not_true_eq_false,
    false_iff, not_exists, not_and]
  constructor
  · intro hNone other hHanded hWaits
    by_contra hOther
    exact hNone other hHanded hOther hWaits
  · intro hOnly other hHanded hOther hWaits
    exact hOther (hOnly other hHanded hWaits)

/- An acknowledged operation is pending, if it is tracked. -/
theorem isPending_ack
    (t : OperationTracker)
    (acked operationId : String) :
    (t.updateStatus acked .IN_FLIGHT).isPending
        operationId =
      if operationId = acked then
        (t.statusOf operationId).isSome
      else
        t.isPending operationId := by
  have hStatus :
      (t.updateStatus acked .IN_FLIGHT).statusOf
          operationId = _ :=
    t.statusOf_apply (.updateStatus acked .IN_FLIGHT)
      operationId
  unfold isPending
  rw [hStatus]
  unfold TrackerCall.statusAfter
  by_cases hSame : operationId = acked
  · cases hBefore : t.statusOf operationId with
    | none => simp [hSame]
    | some before => simp [hSame, TrackedStatus.pending]
  · simp [hSame]

/-
  An acknowledgement leaves the lock as it is, and makes its
  operation pending.
-/
theorem lockExact_ack_iff
    {t : OperationTracker}
    {handed : List String}
    (hTracked :
      ∀ id ∈ handed, (t.statusOf id).isSome = true)
    (hExact : t.LockExact handed)
    (acked : String) :
    (t.updateStatus acked .IN_FLIGHT).LockExact handed ↔
      (acked ∈ handed → t.HasPending handed) := by
  have hPending :
      (t.updateStatus acked .IN_FLIGHT).HasPending handed ↔
        acked ∈ handed ∨ t.HasPending handed := by
    unfold HasPending
    simp only [isPending_ack]
    constructor
    · rintro ⟨other, hHanded, hWaits⟩
      by_cases hSame : other = acked
      · exact .inl (hSame ▸ hHanded)
      · rw [if_neg hSame] at hWaits
        exact .inr ⟨other, hHanded, hWaits⟩
    · rintro (hHanded | ⟨other, hHanded, hWaits⟩)
      · refine ⟨acked, hHanded, ?_⟩
        rw [if_pos rfl]
        exact hTracked acked hHanded
      · refine ⟨other, hHanded, ?_⟩
        split
        · exact hTracked other hHanded
        · exact hWaits
  unfold LockExact updateStatus at *
  rw [change_currentPendingAction, hExact, hPending]
  tauto

end OperationTracker

------------------------------------------------------------
-- Dispatches Of A Route
------------------------------------------------------------

namespace ExecutionBoundaryManager

theorem startServer_eq_map
    (env : Env)
    (m : ExecutionBoundaryManager) :
    m.startServer env =
      (m.transport.startServer env.native).map
        (fun transport =>
          { m with
              transport := transport
              watchdog := m.watchdog.start }) := by
  unfold startServer
  cases m.transport.startServer env.native with
  | none => rfl
  | some transport => rfl

/- What the transport has sent after a dispatch. -/
theorem dispatchEnvelope_logs
    (env : Env)
    (m : ExecutionBoundaryManager)
    (type : ExecutionMessageType)
    (payload : Payload)
    (options : DispatchOptions) :
    (m.dispatchEnvelope env type payload
        options).1.transport.sent =
      if m.starts env && m.accepted env then
        m.transport.sent ++
          [createExecutionEnvelope env type payload
            options.traceId]
      else
        m.transport.sent := by
  have hStart := m.startServer_eq_map env
  unfold starts accepted
  cases hTransport : m.transport.startServer env.native with
  | none =>
      rw [hTransport] at hStart
      simp [dispatchEnvelope, hStart]
  | some transport =>
      rw [hTransport] at hStart
      have hWritten :
          (m.dispatchEnvelope env type payload
            options).1.transport =
              (transport.broadcast env.native
                (createExecutionEnvelope env type payload
                  options.traceId)).1 := by
        unfold dispatchEnvelope
        rw [hStart]
        dsimp only [Option.map_some]
        split
        · split <;> rfl
        · split <;> rfl
      rw [hWritten]
      unfold PipeTransport.broadcast
      rw [PipeTransport.startServer_activeConnections
        hTransport]
      by_cases hCount :
          (PipeTransport.writeAll env.native
            m.transport.activeConnections).1 = 0
      · simp [hCount, PipeTransport.startServer_sent hTransport]
      · simp [hCount, Nat.pos_of_ne_zero hCount,
          PipeTransport.startServer_sent hTransport]

/- The answer of a dispatch that waits for nothing. -/
theorem dispatchEnvelope_reply
    (env : Env)
    (m : ExecutionBoundaryManager)
    (type : ExecutionMessageType)
    (payload : Payload)
    {options : DispatchOptions}
    (hWait : options.waitForAck = false) :
    (m.dispatchEnvelope env type payload options).2 =
      if m.writesAll env then .sent (m.accepted env)
      else .threw := by
  have hStart := m.startServer_eq_map env
  unfold writesAll starts accepted
  cases hTransport : m.transport.startServer env.native with
  | none =>
      rw [hTransport] at hStart
      simp [dispatchEnvelope, hStart]
  | some transport =>
      rw [hTransport] at hStart
      unfold dispatchEnvelope PipeTransport.broadcast
      rw [hStart]
      dsimp only [Option.map_some]
      rw [PipeTransport.startServer_activeConnections
        hTransport]
      cases (PipeTransport.writeAll env.native
          m.transport.activeConnections).2 with
      | false => simp [hWait]
      | true => simp [hWait]

/- A financial dispatch writes when nothing refuses it. -/
theorem dispatchFinancial_logs_iff
    (env : Env)
    (m : ExecutionBoundaryManager)
    (type : ExecutionMessageType)
    (payload payloadWithOp : TacticalPayload)
    (accountId : Option String)
    (targetAccounts : List String)
    (gate : Option Denial)
    (options : DispatchOptions) :
    (m.dispatchFinancial env type payload payloadWithOp
        accountId targetAccounts gate
        options).1.transport.sent ≠ m.transport.sent ↔
      (m.refusal env payload gate).isNone = true ∧
        m.starts env = true ∧ m.accepted env = true := by
  unfold dispatchFinancial
  cases hRefusal : m.refusal env payload gate with
  | some reply =>
      simp [withChecked_transport]
  | none =>
      have hLogs :=
        ((m.withChecked env payload).recordDispatch env
          payload payloadWithOp accountId
          targetAccounts).dispatchEnvelope_logs env type
            (.tactical payloadWithOp) options
      unfold dispatchCommand
      dsimp only
      rw [hLogs]
      have hTransport :
          ((m.withChecked env payload).recordDispatch env
            payload payloadWithOp accountId
            targetAccounts).transport = m.transport :=
        m.withChecked_transport env payload
      unfold starts accepted
      rw [hTransport]
      cases (m.transport.startServer env.native).isSome with
      | false => simp
      | true =>
          by_cases hCount :
              0 < (PipeTransport.writeAll env.native
                m.transport.activeConnections).1
          · simp [hCount]
          · simp [hCount]

end ExecutionBoundaryManager

namespace System

open ExecutionBoundaryManager

theorem routeEnv_healthy
    {s : System}
    {call : RouteCall}
    (hAdmits : s.admits call = true) :
    (s.routeEnv call).degraded = false := by
  unfold admits at hAdmits
  simp only [Bool.and_eq_true, Bool.not_eq_true'] at hAdmits
  exact hAdmits.2

/- A call that is admitted writes when the boundary lets it. -/
theorem execute_logs_iff
    (s : System)
    (call : RouteCall)
    (hAdmits : s.admits call = true) :
    (s.boundary.manager.execute (s.routeEnv call)
        call.command).1.transport.sent ≠
          s.boundary.manager.transport.sent ↔
      s.lets call = true ∧
        s.boundary.manager.starts (s.routeEnv call) = true ∧
        s.boundary.manager.accepted (s.routeEnv call) =
          true := by
  have hHealthy := routeEnv_healthy hAdmits
  unfold lets RouteCall.command execute
  cases call.route with
  | placeBet body =>
      exact dispatchFinancial_logs_iff _ _ _ _ _ _ _ _ _
  | cashOut body =>
      exact dispatchFinancial_logs_iff _ _ _ _ _ _ _ _ _
  | validate =>
      dsimp only
      unfold validateTactical dispatchGated dispatchCommand
      rw [hHealthy, if_neg Bool.false_ne_true,
        dispatchEnvelope_logs]
      simp

theorem routeCall_manager
    (s : System)
    (call : RouteCall) :
    (s.routeCall call).boundary.manager =
      if s.admits call then
        (s.boundary.manager.execute (s.routeEnv call)
          call.command).1
      else
        s.boundary.manager := by
  unfold routeCall
  cases s.validates call with
  | false =>
      cases s.admits call with
      | false => rfl
      | true => rfl
  | true =>
      cases s.admits call with
      | false => rfl
      | true => rfl

theorem handsOver_iff
    (s : System)
    (call : RouteCall) :
    s.handsOver call = true ↔
      s.admits call = true ∧
        s.lets call = true ∧
        s.boundary.manager.starts (s.routeEnv call) = true ∧
        s.boundary.manager.accepted (s.routeEnv call) =
          true := by
  unfold handsOver
  rw [decide_eq_true_iff, routeCall_manager]
  cases hAdmits : s.admits call with
  | false => simp
  | true =>
      rw [if_pos rfl, s.execute_logs_iff call hAdmits]
      simp

theorem validates_iff
    (s : System)
    (call : RouteCall) :
    s.validates call = true ↔
      call.route = .validate ∧
        s.admits call = true ∧
        s.boundary.manager.writesAll (s.routeEnv call) =
          true := by
  unfold validates
  cases hRoute : call.route with
  | placeBet body => simp
  | cashOut body => simp
  | validate =>
      unfold routeReply
      cases hAdmits : s.admits call with
      | false => simp
      | true =>
          have hHealthy := routeEnv_healthy hAdmits
          have hReply :
              (s.boundary.manager.execute (s.routeEnv call)
                call.command).2 =
                  .dispatched
                    (if s.boundary.manager.writesAll
                        (s.routeEnv call) then
                      .sent (s.boundary.manager.accepted
                        (s.routeEnv call))
                    else
                      .threw) := by
            unfold RouteCall.command
            rw [hRoute]
            unfold execute validateTactical dispatchGated
              dispatchCommand
            dsimp only
            rw [hHealthy, if_neg Bool.false_ne_true]
            dsimp only
            rw [dispatchEnvelope_reply _ _ _ _ rfl]
          unfold routeEnv at hReply
          dsimp only
          rw [if_pos rfl, hReply]
          unfold routeEnv
          cases s.boundary.manager.writesAll _ with
          | false => simp
          | true => simp

/- The tracker after a route call. -/
theorem routeCall_tracker
    (s : System)
    (call : RouteCall) :
    (s.routeCall call).tracker =
      if s.validates call then
        (s.tracker.startOperation call.operationId
          call.actionType call.metadata).completeOperation
            call.operationId
      else
        s.tracker.startOperation call.operationId
          call.actionType call.metadata := by
  unfold routeCall
  cases s.validates call with
  | false =>
      cases s.admits call with
      | false => rfl
      | true => rfl
  | true =>
      cases s.admits call with
      | false => rfl
      | true => rfl

end System

------------------------------------------------------------
-- The Lock Along A Run
------------------------------------------------------------

namespace OperationTracker

/- A tracked operation stays tracked. -/
theorem isSome_apply
    (t : OperationTracker)
    (call : TrackerCall)
    {operationId : String}
    (hTracked : (t.statusOf operationId).isSome = true) :
    ((call.apply t).statusOf operationId).isSome = true := by
  rw [statusOf_apply]
  cases call with
  | quarantineAllPending reason =>
      simpa [TrackerCall.statusAfter] using hTracked
  | failAllPending reason =>
      simpa [TrackerCall.statusAfter] using hTracked
  | startOperation started actionType metadata =>
      unfold TrackerCall.statusAfter
      dsimp only
      split
      · simp
      · exact hTracked
  | _ =>
      unfold TrackerCall.statusAfter
      dsimp only
      split
      · simpa using hTracked
      · exact hTracked

theorem isSome_run
    (t : OperationTracker)
    (calls : List TrackerCall)
    {operationId : String}
    (hTracked : (t.statusOf operationId).isSome = true) :
    ((run TrackerCall.apply t calls).statusOf
      operationId).isSome = true :=
  run_keeps (fun t call => isSome_apply t call) calls hTracked

end OperationTracker

namespace Console

open ControlPlane.System

/- What was handed over is tracked. -/
def Tracked (c : Console) : Prop :=
  ∀ operationId ∈ c.handed,
    (c.system.tracker.statusOf operationId).isSome = true

theorem isPending_routeCall
    (s : System)
    (call : RouteCall)
    (operationId : String) :
    (s.routeCall call).tracker.isPending operationId =
      if operationId = call.operationId then
        !s.validates call
      else
        s.tracker.isPending operationId := by
  have hStarted :=
    OperationTracker.statusOf_startOperation s.tracker
      call.operationId call.actionType call.metadata
      operationId
  have hCompleted :=
    OperationTracker.statusOf_apply
      (s.tracker.startOperation call.operationId
        call.actionType call.metadata)
      (.completeOperation call.operationId) operationId
  rw [hStarted] at hCompleted
  unfold OperationTracker.isPending
  rw [routeCall_tracker]
  cases s.validates call with
  | false =>
      rw [if_neg Bool.false_ne_true, hStarted]
      by_cases hSame : operationId = call.operationId
      · simp [hSame, TrackedStatus.pending]
      · simp [hSame]
  | true =>
      refine (congrArg (Option.any TrackedStatus.pending)
        hCompleted).trans ?_
      by_cases hSame : operationId = call.operationId
      · simp [hSame, TrackerCall.statusAfter,
          TrackedStatus.pending]
      · simp [hSame, TrackerCall.statusAfter]

theorem step_route
    {c : Console}
    {call : RouteCall}
    (hNew :
      c.system.tracker.statusOf call.operationId = none) :
    c.step (.route call) =
      { system := c.system.routeCall call
        handed :=
          if c.system.handsOver call then
            c.handed ++ [call.operationId]
          else
            c.handed } := by
  simp [step, hNew]

theorem step_route_known
    {c : Console}
    {call : RouteCall}
    (hKnown :
      c.system.tracker.statusOf call.operationId ≠ none) :
    c.step (.route call) = c := by
  simp [step, Option.isSome_iff_ne_none, hKnown]

theorem step_turn
    {c : Console}
    {event : SystemEvent}
    (hOther : event.input.byRoute = false) :
    c.step (.turn event) =
      { c with system := c.system.step event } := by
  simp [step, hOther]

theorem step_turn_byRoute
    {c : Console}
    {event : SystemEvent}
    (hRoute : event.input.byRoute = true) :
    c.step (.turn event) = c := by
  simp [step, hRoute]

/- The new operation is tracked, and so are the old ones. -/
theorem isSome_routeCall
    (s : System)
    (call : RouteCall)
    {operationId : String}
    (hTracked :
      operationId = call.operationId ∨
        (s.tracker.statusOf operationId).isSome = true) :
    ((s.routeCall call).tracker.statusOf
      operationId).isSome = true := by
  have hStarted :
      ((s.tracker.startOperation call.operationId
        call.actionType call.metadata).statusOf
          operationId).isSome = true := by
    rw [OperationTracker.statusOf_startOperation]
    split
    · rfl
    · rename_i hOther
      exact hTracked.resolve_left hOther
  rw [routeCall_tracker]
  split
  · exact OperationTracker.isSome_apply _
      (.completeOperation call.operationId) hStarted
  · exact hStarted

theorem tracked_step
    (c : Console)
    (input : ConsoleInput)
    (hTracked : c.Tracked) :
    (c.step input).Tracked := by
  cases input with
  | route call =>
      by_cases hNew :
          c.system.tracker.statusOf call.operationId = none
      · rw [step_route hNew]
        intro operationId hHanded
        apply isSome_routeCall
        dsimp only at hHanded
        split at hHanded
        · rcases List.mem_append.mp hHanded with hOld | hNow
          · exact .inr (hTracked operationId hOld)
          · exact .inl (List.mem_singleton.mp hNow)
        · exact .inr (hTracked operationId hHanded)
      · rw [step_route_known hNew]
        exact hTracked
  | turn event =>
      cases hRoute : event.input.byRoute with
      | true =>
          rw [step_turn_byRoute hRoute]
          exact hTracked
      | false =>
          rw [step_turn hRoute]
          intro operationId hHanded
          dsimp only
          rw [step_tracker]
          exact OperationTracker.isSome_run _ _
            (hTracked operationId hHanded)

/- What is pending after a route call. -/
theorem hasPending_route_iff
    {c : Console}
    (hTracked : c.Tracked)
    {call : RouteCall}
    (hNew :
      c.system.tracker.statusOf call.operationId = none) :
    (c.step (.route call)).HasPending ↔
      (c.system.handsOver call = true ∧
        c.system.validates call = false) ∨
          c.HasPending := by
  have hOthers :
      ∀ operationId ∈ c.handed,
        (c.system.routeCall call).tracker.isPending
            operationId =
          c.system.tracker.isPending operationId := by
    intro operationId hHanded
    rw [isPending_routeCall, if_neg]
    intro hSame
    have hSome := hTracked _ hHanded
    rw [hSame, hNew] at hSome
    cases hSome
  have hOwn :
      (c.system.routeCall call).tracker.isPending
          call.operationId =
        !c.system.validates call := by
    rw [isPending_routeCall, if_pos rfl]
  have hOld :
      (∃ operationId ∈ c.handed,
          (c.system.routeCall call).tracker.isPending
            operationId = true) ↔ c.HasPending := by
    constructor
    · rintro ⟨operationId, hHanded, hWaits⟩
      rw [hOthers operationId hHanded] at hWaits
      exact ⟨operationId, hHanded, hWaits⟩
    · rintro ⟨operationId, hHanded, hWaits⟩
      rw [← hOthers operationId hHanded] at hWaits
      exact ⟨operationId, hHanded, hWaits⟩
  rw [step_route hNew, ← hOld]
  unfold HasPending OperationTracker.HasPending
  cases c.system.handsOver call with
  | false => simp
  | true =>
      simp only [if_true, List.mem_append,
        List.mem_singleton, or_and_right, exists_or,
        exists_eq_left, hOwn, Bool.not_eq_true', true_and]
      exact or_comm

/- The lock after a call of a route with a new operation. -/
theorem exact_route_iff
    {c : Console}
    (hTracked : c.Tracked)
    {call : RouteCall}
    (hNew :
      c.system.tracker.statusOf call.operationId = none) :
    (c.step (.route call)).Exact ↔ c.RouteKeepsLock call := by
  have hLock :
      (c.step (.route
          call)).system.tracker.currentPendingAction ≠ none ↔
        c.system.validates call = false := by
    rw [step_route hNew]
    dsimp only
    rw [routeCall_tracker]
    cases c.system.validates call with
    | false => simp [OperationTracker.startOperation]
    | true =>
        simp [OperationTracker.completeOperation,
          OperationTracker.settle]
  have hExact :
      (c.step (.route call)).Exact ↔
        (c.system.validates call = false ↔
          (c.system.handsOver call = true ∧
            c.system.validates call = false) ∨
              c.HasPending) :=
    iff_congr hLock (hasPending_route_iff hTracked hNew)
  rw [hExact]
  unfold RouteKeepsLock Passes
  rw [← handsOver_iff]
  cases hValidates : c.system.validates call with
  | false =>
      rw [if_neg (fun hRule =>
        Bool.false_ne_true
          (hValidates ▸ (validates_iff _ _).mpr hRule))]
      simp
  | true =>
      rw [if_pos ((validates_iff _ _).mp hValidates)]
      simp

theorem resultCall_unlocks
    (t : OperationTracker)
    (result : OperationResult) :
    ((resultCall result).apply t).currentPendingAction =
      none := by
  unfold resultCall
  split
  · split
    · rfl
    · split
      · rfl
      · split <;> rfl
  · rfl

theorem listenerStatus_settled
    (result : OperationResult) :
    result.listenerStatus.pending = false := by
  unfold OperationResult.listenerStatus
  split
  · rfl
  · split <;> rfl

/- A turn that sweeps, or leaves the tracker alone. -/
theorem exact_sweeps
    {c : Console}
    (hExact : c.Exact)
    {event : SystemEvent}
    (hOther : event.input.byRoute = false)
    (hSweeps :
      ∀ call ∈ c.system.trackerCalls event,
        call.sweeps = true) :
    (c.step (.turn event)).Exact := by
  rw [step_turn hOther]
  unfold Exact
  dsimp only
  rw [step_tracker]
  exact OperationTracker.lockExact_sweeps hExact hSweeps

/- A frame keeps the lock exact, or does not. -/
theorem exact_data_iff
    {c : Console}
    (hExact : c.Exact)
    (surroundings : Surroundings)
    (elapsed connId : Nat)
    (data : InboundData)
    (hExternal : (Input.data connId data).external = true) :
    (c.step (.turn (dataTurn surroundings elapsed connId data
        hExternal))).Exact ↔
      c.KeepsLock (.turn (dataTurn surroundings elapsed connId
        data hExternal)) := by
  unfold KeepsLock
  dsimp only [dataTurn]
  rcases c.system.dataTurn_calls surroundings elapsed connId
      data hExternal with
    ⟨result, named, hHears, hCalls⟩ | ⟨hUnheard, hSweeps⟩
  · have hSettled :
        (c.step (.turn (dataTurn surroundings elapsed connId
          data hExternal))).Exact ↔
            c.system.tracker.OnlyPending c.handed named := by
      rw [step_turn rfl]
      unfold Exact
      dsimp only
      rw [step_tracker, hCalls]
      exact OperationTracker.lockExact_settled_iff c.handed
        result.listenerStatus (listenerStatus_settled result)
        (resultCall_unlocks _ result)
        (statusOf_resultCall c.system.tracker hHears.names
          hHears.present)
    refine hSettled.trans ?_
    constructor
    · intro hOnly same operationId hSame
      have hResult := hSame.brings
      rw [hHears.brings] at hResult
      have hNamed := hSame.names
      rw [← Option.some.inj hResult, hHears.names] at hNamed
      rw [← Option.some.inj hNamed]
      exact hOnly
    · intro hAll
      exact hAll result named hHears
  · apply iff_of_true (exact_sweeps hExact rfl hSweeps)
    intro result operationId hHears
    exact absurd hHears (hUnheard result operationId)

/- A turn of the event loop keeps the lock exact, or not. -/
theorem exact_turn_iff
    {c : Console}
    (hTracked : c.Tracked)
    (hExact : c.Exact)
    (event : SystemEvent)
    (hOther : event.input.byRoute = false) :
    (c.step (.turn event)).Exact ↔
      c.KeepsLock (.turn event) := by
  rcases event with ⟨elapsed, surroundings, input⟩
  cases input with
  | boundary input =>
      rcases input with ⟨input, hExternal⟩
      cases input with
      | data connId data =>
          exact exact_data_iff hExact surroundings elapsed
            connId data hExternal
      | _ =>
          apply iff_of_true _ trivial
          apply exact_sweeps hExact hOther
          exact c.system.trackerCalls_sweep _ _ rfl
  | startOperation operationId actionType metadata =>
      cases hOther
  | runtimeAck operationId =>
      rw [step_turn hOther]
      exact OperationTracker.lockExact_ack_iff hTracked
        hExact operationId
  | runtimeResult operationId success error =>
      rw [step_turn hOther]
      cases success with
      | true =>
          refine OperationTracker.lockExact_settled_iff
            c.handed .COMPLETED rfl rfl ?_
          exact OperationTracker.statusOf_apply
            c.system.tracker (.completeOperation operationId)
      | false =>
          refine OperationTracker.lockExact_settled_iff
            c.handed .FAILED rfl rfl ?_
          exact OperationTracker.statusOf_apply
            c.system.tracker
            (.failOperation operationId error)
  | _ =>
      apply iff_of_true _ trivial
      apply exact_sweeps hExact hOther
      exact c.system.trackerCalls_sweep _ _ rfl

theorem keepsLock_byRoute
    (c : Console)
    {event : SystemEvent}
    (hRoute : event.input.byRoute = true) :
    c.KeepsLock (.turn event) := by
  rcases event with ⟨elapsed, surroundings, input⟩
  cases input with
  | boundary input =>
      rcases input with ⟨input, hExternal⟩
      cases input with
      | command command => trivial
      | _ => cases hRoute
  | startOperation operationId actionType metadata => trivial
  | _ => cases hRoute

/- One step keeps the lock exact, or does not. -/
theorem exact_step_iff
    (c : Console)
    (input : ConsoleInput)
    (hTracked : c.Tracked)
    (hExact : c.Exact) :
    (c.step input).Exact ↔ c.KeepsLock input := by
  cases input with
  | route call =>
      by_cases hNew :
          c.system.tracker.statusOf call.operationId = none
      · rw [exact_route_iff hTracked hNew]
        simp [KeepsLock, hNew]
      · rw [step_route_known hNew]
        simp [KeepsLock, hNew, hExact]
  | turn event =>
      cases hRoute : event.input.byRoute with
      | true =>
          rw [step_turn_byRoute hRoute]
          exact iff_of_true hExact
            (c.keepsLock_byRoute hRoute)
      | false =>
          exact exact_turn_iff hTracked hExact event hRoute

/-
  The lock is exact in every state of a run exactly when
  every step of the run keeps it so.
-/
theorem lock_exact_iff
    (maxEntries : Nat)
    (accounts : List WorkspaceAccount)
    (inputs : List ConsoleInput) :
    Throughout step Exact (fresh maxEntries accounts)
        inputs ↔
      Along step KeepsLock (fresh maxEntries accounts)
        inputs := by
  apply throughout_iff_along_of_invariant tracked_step
    exact_step_iff
  · intro operationId hHanded
    cases hHanded
  · simp [Exact, OperationTracker.LockExact,
      OperationTracker.HasPending, fresh, System.fresh,
      OperationTracker.fresh]

/- A bet that an operator without permission places. -/
def deniedBet : RouteCall where
  operationId := "op_1"
  route :=
    .placeBet
      { idempotencyKey := some "k1"
        accountId := some "acc_1" }
  authorized := false
  elapsed := 1
  surroundings := Surroundings.healthy

/- The denied bet locks the console. -/
theorem denied_bet_locks :
    ¬ Throughout step Exact (fresh 10 [])
      [.route deniedBet] := by
  intro hAll
  have hExact := hAll [.route deniedBet] [] rfl
  rcases hExact.mp (by decide) with ⟨operationId, hHanded, _⟩
  have hNone :
      (run step (fresh 10 [])
        [.route deniedBet]).handed = [] := by
    decide
  rw [hNone] at hHanded
  cases hHanded

end Console

end ControlPlane
