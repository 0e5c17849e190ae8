import ControlPlane.Boundary.Ledger
import ControlPlane.Boundary.Transport
import ControlPlane.Boundary.Watchdog

/-
  The execution boundary manager: outbound dispatch.

  One call runs to its end within one turn of the event
  loop, so it reads one value of the clock, of the security
  state, of the state store and of the native pipe. These
  are the fields of its `Env`.

  Main declarations:
    * `ExecutionBoundaryManager`
    * `ExecutionBoundaryManager.dispatchEnvelope`
    * `ExecutionBoundaryManager.placeBet`
    * `ExecutionBoundaryManager.cashOut`
-/

------------------------------------------------------------
-- State
------------------------------------------------------------

namespace ControlPlane

/- The fields of an account that the boundary reads. -/
structure Account where
  id : String
  accountUsername : String
deriving DecidableEq, Repr

/-
  The state store: the accounts container, and whether the
  override of an account leaves its bet cycle enabled.
-/
structure StateStore where
  accounts : List Account
  betCycleEnabled : String → Bool

/- What surrounds the manager, the clock excepted. -/
structure Surroundings where
  degraded : Bool
  native : NativePipe
  stateStore : Option StateStore
  msgUlid : String
  traceUlid : String

/- What the manager reads during one turn. -/
structure Env extends Surroundings where
  now : Nat

/- Options of a dispatch. -/
structure DispatchOptions where
  traceId : Option String := none
  waitForAck : Bool := false
  operationId : Option String := none
  accountId : Option String := none
  target : Option String := none
  browserId : Option String := none
deriving DecidableEq, Repr

/- A promise waiting for the answer to an envelope. -/
structure PendingCorrelation where
  type : ExecutionMessageType
  msgId : String
  traceId : String
deriving DecidableEq, Repr

/- A dispatched financial operation without a result. -/
structure InFlightOperation where
  idempotencyKey : String
  accountId : Option String
  targetAccounts : List String
  dispatchedAt : Nat
  payload : TacticalPayload
deriving DecidableEq, Repr

structure ExecutionBoundaryManager where
  transport : PipeTransport
  idempotency :
    IdempotencyLedger TacticalPayload OperationResult
  reconciliation : ReconciliationCoordinator Details
  watchdog : WatchdogMonitor
  engineStatus : String
  activeBrowserCount : Nat
  pendingCorrelations :
    OrderedMap String PendingCorrelation
  inFlightOperations :
    OrderedMap String InFlightOperation

------------------------------------------------------------
-- Replies
------------------------------------------------------------

/- Why a call throws before it dispatches anything. -/
inductive Denial where
| systemDegraded
| watchdogDegraded
| accountFrozen (account : String)
| betCycleDisabled
| invalidStake
| invalidOdds
| noPendingOperation (operationId : String)
deriving DecidableEq, Repr

/- The text of the error thrown for a denial. -/
def Denial.message : Denial → String
| .systemDegraded =>
    "[LF-701] Execution Denied: " ++
      "System is in DEGRADED mode (Backend Offline)"
| .watchdogDegraded =>
    "[LF-701] Execution Denied: " ++
      "Execution Plane is DEGRADED (Watchdog Alert)"
| .accountFrozen account =>
    "[EP_STATE_002] Execution Denied: Account [" ++
      account ++ "] is frozen pending reconciliation " ++
      "of an UNKNOWN transaction"
| .betCycleDisabled =>
    "[EXEC_003] Execution Denied: " ++
      "All target accounts have Bet Cycle disabled"
| .invalidStake =>
    "[VAL_001] Invalid stake: " ++
      "Must be a finite positive number"
| .invalidOdds =>
    "[VAL_002] Invalid odds: " ++
      "Must be a finite number greater than 1.0"
| .noPendingOperation operationId =>
    "No pending uncertain operation to reconcile " ++
      "for operationId: " ++ operationId

/-
  What a dispatch returns: a boolean, a promise that waits
  for the answer to its message, a rejected promise, or an
  exception of the native pipe.
-/
inductive DispatchReply where
| sent (accepted : Bool)
| awaiting (msgId : String)
| rejected
| threw
deriving DecidableEq, Repr

/- What a call of the command interface returns. -/
inductive Reply where
| denied (denial : Denial)
| duplicate
    (status : LedgerStatus)
    (cachedResult : Option OperationResult)
    (error : Option String)
| dispatched (reply : DispatchReply)
deriving DecidableEq, Repr

namespace ExecutionBoundaryManager

/- The manager of a new process. -/
def fresh
    (maxAgeMs maxEntries : Nat)
    (watchdog : WatchdogMonitor) :
    ExecutionBoundaryManager where
  transport := PipeTransport.fresh
  idempotency := IdempotencyLedger.fresh maxAgeMs maxEntries
  reconciliation := ReconciliationCoordinator.fresh
  watchdog := watchdog
  engineStatus := "OFFLINE"
  activeBrowserCount := 0
  pendingCorrelations := OrderedMap.empty
  inFlightOperations := OrderedMap.empty

/- An account is frozen under the given identifier. -/
def isAccountFrozen
    (m : ExecutionBoundaryManager)
    (account : String) : Bool :=
  m.reconciliation.isAccountFrozen account

------------------------------------------------------------
-- Server Lifecycle
------------------------------------------------------------

/- Start the server; `none` when the native pipe throws. -/
def startServer
    (env : Env)
    (m : ExecutionBoundaryManager) :
    Option ExecutionBoundaryManager :=
  match m.transport.startServer env.native with
  | some transport =>
      some { m with
        transport := transport
        watchdog := m.watchdog.start }
  | none => none

/- Stop the server and drop the pending promises. -/
def stopServer
    (m : ExecutionBoundaryManager) :
    ExecutionBoundaryManager :=
  { m with
      watchdog := m.watchdog.stop
      transport := m.transport.stopServer
      pendingCorrelations := OrderedMap.empty
      engineStatus := "OFFLINE"
      activeBrowserCount := 0 }

------------------------------------------------------------
-- Dispatch
------------------------------------------------------------

/- The envelope a dispatch creates. -/
def createExecutionEnvelope
    (env : Env)
    (type : ExecutionMessageType)
    (payload : Payload)
    (traceId : Option String) : Frame where
  msgId := env.msgUlid
  traceId := presentOr traceId env.traceUlid
  type := type
  timestamp := env.now
  payload := payload

/-
  Send an envelope. The server is started first, whatever
  its state. A dispatch that waits for an answer registers
  its promise before it writes and drops it when no
  connection accepts the write.
-/
def dispatchEnvelope
    (env : Env)
    (m : ExecutionBoundaryManager)
    (type : ExecutionMessageType)
    (payload : Payload)
    (options : DispatchOptions) :
    ExecutionBoundaryManager × DispatchReply :=
  match m.startServer env with
  | none => (m, .threw)
  | some started =>
      let frame :=
        createExecutionEnvelope env type payload
          options.traceId
      let written :=
        started.transport.broadcast env.native frame
      let handed := { started with transport := written.1 }
      let registered :=
        { handed with
            pendingCorrelations :=
              handed.pendingCorrelations.set frame.msgId
                { type := type
                  msgId := frame.msgId
                  traceId := frame.traceId } }
      if options.waitForAck then
        match written.2 with
        | some 0 =>
            ({ registered with
                pendingCorrelations :=
                  registered.pendingCorrelations.delete
                    frame.msgId }, .rejected)
        | some _ => (registered, .awaiting frame.msgId)
        | none => (registered, .rejected)
      else
        match written.2 with
        | some count => (handed, .sent (decide (0 < count)))
        | none => (handed, .threw)

/- Dispatch on behalf of a command. -/
def dispatchCommand
    (env : Env)
    (m : ExecutionBoundaryManager)
    (type : ExecutionMessageType)
    (payload : Payload)
    (options : DispatchOptions) :
    ExecutionBoundaryManager × Reply :=
  let done := m.dispatchEnvelope env type payload options
  (done.1, .dispatched done.2)

------------------------------------------------------------
-- Financial Dispatch
------------------------------------------------------------

/- The key of a payload, with the default of the source. -/
def idempotencyKeyOf
    (env : Env)
    (payload : TacticalPayload) : String :=
  presentOr payload.idempotencyKey
    ("idem_" ++
      presentOr payload.operationId (toString env.now))

/- The operation id of a payload, with its default. -/
def operationIdOf
    (env : Env)
    (payload : TacticalPayload) : String :=
  presentOr payload.operationId
    ("op_" ++ toString env.now)

/-
  The answer to a key the ledger knows; `none` lets the call
  go on, which takes a failed record and a forced retry.
-/
def duplicateReply
    (record : LedgerRecord TacticalPayload OperationResult)
    (forceRetry : Bool) : Option Reply :=
  match record.status with
  | .IN_FLIGHT => some (.duplicate .IN_FLIGHT none none)
  | .COMPLETED =>
      some (.duplicate .COMPLETED record.cachedResult none)
  | .UNCERTAIN =>
      some (.duplicate .UNCERTAIN record.cachedResult
        (some ("Operation outcome is UNCERTAIN. " ++
          "Account is frozen pending reconciliation.")))
  | .FAILED =>
      if forceRetry then
        none
      else
        some (.duplicate .FAILED record.cachedResult
          (some ("Operation previously failed. " ++
            "Re-execution requires forceRetry: true")))

/-
  Why a bet or cash-out is answered without a dispatch: the
  degraded gates, then the duplicate check, then the gate of
  the command.
-/
def refusal
    (env : Env)
    (m : ExecutionBoundaryManager)
    (payload : TacticalPayload)
    (gate : Option Denial) : Option Reply :=
  if env.degraded then
    some (.denied .systemDegraded)
  else if m.watchdog.isDegraded then
    some (.denied .watchdogDegraded)
  else
    match (m.idempotency.check env.now
        (idempotencyKeyOf env payload)).2.bind
          (fun record =>
            duplicateReply record payload.forceRetry) with
    | some reply => some reply
    | none => gate.map Reply.denied

/-
  The duplicate check moves its key in the ledger; the
  degraded gates come before it.
-/
def withChecked
    (env : Env)
    (m : ExecutionBoundaryManager)
    (payload : TacticalPayload) :
    ExecutionBoundaryManager :=
  if env.degraded || m.watchdog.isDegraded then
    m
  else
    { m with
        idempotency :=
          (m.idempotency.check env.now
            (idempotencyKeyOf env payload)).1 }

/- Record an operation as in flight before its dispatch. -/
def recordDispatch
    (env : Env)
    (m : ExecutionBoundaryManager)
    (payload payloadWithOp : TacticalPayload)
    (accountId : Option String)
    (targetAccounts : List String) :
    ExecutionBoundaryManager :=
  let key := idempotencyKeyOf env payload
  let opId := operationIdOf env payload
  { m with
      idempotency :=
        m.idempotency.recordInFlight env.now key opId
          payloadWithOp
      inFlightOperations :=
        m.inFlightOperations.set opId
          { idempotencyKey := key
            accountId := accountId
            targetAccounts := targetAccounts
            dispatchedAt := env.now
            payload := payloadWithOp } }

/-
  The part that bets and cash-outs share. The gate of the
  command reads no part of the state that the duplicate
  check changes.
-/
def dispatchFinancial
    (env : Env)
    (m : ExecutionBoundaryManager)
    (type : ExecutionMessageType)
    (payload payloadWithOp : TacticalPayload)
    (accountId : Option String)
    (targetAccounts : List String)
    (gate : Option Denial)
    (options : DispatchOptions) :
    ExecutionBoundaryManager × Reply :=
  match m.refusal env payload gate with
  | some reply => (m.withChecked env payload, reply)
  | none =>
      ((m.withChecked env payload).recordDispatch env
        payload payloadWithOp accountId
        targetAccounts).dispatchCommand env type
          (.tactical payloadWithOp) options

/- The accounts a bet is placed on. -/
def betTargets (payload : TacticalPayload) : List String :=
  match payload.targetAccounts with
  | some targets => targets
  | none =>
      match payload.accountId with
      | some account => if account = "" then [] else [account]
      | none => []

/-
  Every account the targets select, by id or by user name,
  has its bet cycle disabled; an empty target list selects
  all accounts.
-/
def betCycleExcluded
    (store : StateStore)
    (targets : List String) : Bool :=
  let accountsToCheck :=
    if targets.isEmpty then store.accounts
    else
      store.accounts.filter
        (fun account =>
          targets.contains account.id ||
            targets.contains account.accountUsername)
  !accountsToCheck.isEmpty &&
    accountsToCheck.all
      (fun account => !store.betCycleEnabled account.id)

/- The first frozen account of a target list. -/
def frozenTarget
    (m : ExecutionBoundaryManager)
    (targets : List String) : Option String :=
  targets.find? m.isAccountFrozen

/- An amount that is given must exceed its bound. -/
def invalidAmount
    (amount : Option Amount)
    (bound : Rat) : Bool :=
  match amount with
  | some value => !value.exceeds bound
  | none => false

/- The gates of a bet, in the order of the source. -/
def betGate
    (env : Env)
    (m : ExecutionBoundaryManager)
    (payload : TacticalPayload) : Option Denial :=
  match m.frozenTarget (betTargets payload) with
  | some account => some (.accountFrozen account)
  | none =>
      if env.stateStore.any
          (fun store =>
            betCycleExcluded store (betTargets payload)) then
        some .betCycleDisabled
      else if invalidAmount payload.stake 0 then
        some .invalidStake
      else if invalidAmount payload.odds 1 then
        some .invalidOdds
      else
        none

/- The payload of a bet as it is recorded and sent. -/
def betWithOp
    (env : Env)
    (payload : TacticalPayload) : TacticalPayload :=
  { payload with
      operationId := some (operationIdOf env payload)
      idempotencyKey := some (idempotencyKeyOf env payload)
      targetAccounts := some (betTargets payload) }

/- Place a bet. -/
def placeBet
    (env : Env)
    (m : ExecutionBoundaryManager)
    (payload : TacticalPayload)
    (options : DispatchOptions) :
    ExecutionBoundaryManager × Reply :=
  m.dispatchFinancial env .PLACE_BET payload
    (betWithOp env payload) payload.accountId
    (betTargets payload) (m.betGate env payload) options

/- The account of a cash-out. -/
def cashOutTarget
    (payload : TacticalPayload) : Option String :=
  firstPresent payload.accountId payload.targetAccount

/- The target of a cash-out as a list. -/
def cashOutTargets
    (payload : TacticalPayload) : List String :=
  match cashOutTarget payload with
  | some account => if account = "" then [] else [account]
  | none => []

/- The gate of a cash-out. -/
def cashOutGate
    (m : ExecutionBoundaryManager)
    (payload : TacticalPayload) : Option Denial :=
  (m.frozenTarget (cashOutTargets payload)).map
    Denial.accountFrozen

/- The payload of a cash-out as it is recorded and sent. -/
def cashOutWithOp
    (env : Env)
    (payload : TacticalPayload) : TacticalPayload :=
  { payload with
      operationId := some (operationIdOf env payload)
      idempotencyKey := some (idempotencyKeyOf env payload)
      accountId := cashOutTarget payload }

/- Cash a bet out. -/
def cashOut
    (env : Env)
    (m : ExecutionBoundaryManager)
    (payload : TacticalPayload)
    (options : DispatchOptions) :
    ExecutionBoundaryManager × Reply :=
  m.dispatchFinancial env .CASH_OUT payload
    (cashOutWithOp env payload) (cashOutTarget payload)
    (cashOutTargets payload) (m.cashOutGate payload) options

------------------------------------------------------------
-- Other Commands
------------------------------------------------------------

/- A dispatch that only the security state gates. -/
def dispatchGated
    (env : Env)
    (m : ExecutionBoundaryManager)
    (type : ExecutionMessageType)
    (payload : Payload)
    (options : DispatchOptions) :
    ExecutionBoundaryManager × Reply :=
  if env.degraded then
    (m, .denied .systemDegraded)
  else
    m.dispatchCommand env type payload options

def validateTactical
    (env : Env)
    (m : ExecutionBoundaryManager)
    (payload : TacticalPayload)
    (options : DispatchOptions) :
    ExecutionBoundaryManager × Reply :=
  m.dispatchGated env .VALIDATE (.tactical payload) options

/- The payload is compiled by the caller. -/
def activateAccount
    (env : Env)
    (m : ExecutionBoundaryManager)
    (payload : Payload)
    (options : DispatchOptions) :
    ExecutionBoundaryManager × Reply :=
  m.dispatchGated env .ACTIVATE_ACCOUNT payload options

def deactivateAccount
    (env : Env)
    (m : ExecutionBoundaryManager)
    (accountId : String)
    (options : DispatchOptions) :
    ExecutionBoundaryManager × Reply :=
  m.dispatchGated env .DEACTIVATE_ACCOUNT
    (.account accountId) options

def setBetCycle
    (env : Env)
    (m : ExecutionBoundaryManager)
    (targetBrowserId : String)
    (isEnabled : Bool)
    (options : DispatchOptions) :
    ExecutionBoundaryManager × Reply :=
  m.dispatchGated env .SET_BET_CYCLE
    (.betCycle targetBrowserId isEnabled) options

def updatePolicy
    (env : Env)
    (m : ExecutionBoundaryManager)
    (category : String)
    (options : DispatchOptions) :
    ExecutionBoundaryManager × Reply :=
  let target :=
    presentOr
      (firstPresent options.accountId
        (firstPresent options.target options.browserId))
      "ALL"
  m.dispatchGated env .UPDATE_POLICY
    (.policy target category
      (presentOr options.operationId
        ("op_pol_" ++ toString env.now))) options

def resetPolicy
    (env : Env)
    (m : ExecutionBoundaryManager)
    (target : Option String)
    (options : DispatchOptions) :
    ExecutionBoundaryManager × Reply :=
  m.dispatchGated env .RESET_POLICY
    (.resetPolicy
      (firstPresent target
        (firstPresent options.accountId options.target))
      (presentOr options.operationId
        ("op_rst_" ++ toString env.now))) options

def captureSnapshot
    (env : Env)
    (m : ExecutionBoundaryManager)
    (options : DispatchOptions) :
    ExecutionBoundaryManager × Reply :=
  m.dispatchCommand env .CAPTURE_SNAPSHOT .empty options

def getFleetReadiness
    (env : Env)
    (m : ExecutionBoundaryManager)
    (options : DispatchOptions) :
    ExecutionBoundaryManager × Reply :=
  m.dispatchCommand env .GET_FLEET_READINESS .empty options

/- Hand the decrypted credentials of the fleet over. -/
def initializeWorker
    (env : Env)
    (m : ExecutionBoundaryManager)
    (accounts : List CompiledAccount)
    (options : DispatchOptions) :
    ExecutionBoundaryManager × Reply :=
  { m with engineStatus := "INITIALIZING" }.dispatchCommand
    env .INITIALIZE (.initialization accounts) options

/- The watchdog is disarmed before the dispatch. -/
def stopCluster
    (env : Env)
    (m : ExecutionBoundaryManager)
    (timeoutMs : Nat)
    (options : DispatchOptions) :
    ExecutionBoundaryManager × Reply :=
  { m with watchdog := m.watchdog.stop }.dispatchCommand
    env .STOP_CLUSTER (.stopCluster timeoutMs) options

/- Ask for the outcome of a pending operation. -/
def reconcileOperation
    (env : Env)
    (m : ExecutionBoundaryManager)
    (operationId : String)
    (options : DispatchOptions) :
    ExecutionBoundaryManager × Reply :=
  let request :=
    m.reconciliation.createReconcileRequest
      (some operationId)
  match request.2 with
  | none => (m, .denied (.noPendingOperation operationId))
  | some payload =>
      { m with reconciliation := request.1 }.dispatchCommand
        env .RECONCILE_ORDER (.reconcile payload) options

end ExecutionBoundaryManager

end ControlPlane
