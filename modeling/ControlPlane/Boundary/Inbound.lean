import ControlPlane.Boundary.Manager

/-
  The execution boundary manager: inbound messages.

  Data of the pipe is parsed, validated, correlated with a
  pending promise and routed by its type. An exception while
  a message is routed keeps what was done before it.

  Main declarations:
    * `InboundEnvelope` and `InboundData`
    * `ExecutionBoundaryManager.handleOperationResult`
    * `ExecutionBoundaryManager.handleSnapshotDump`
    * `ExecutionBoundaryManager.handleIncomingData`
-/

------------------------------------------------------------
-- Messages
------------------------------------------------------------

namespace ControlPlane

/- Message types that are only passed on to listeners. -/
inductive TelemetryType where
| BROWSER_STATUS | OPERATION_ACK | ODDS_TICK
| SYNC_METRICS | AUDIT_EVENT | FLEET_READINESS
| UNKNOWN_COMMAND | unhandled
deriving DecidableEq, Repr

/-
  The payload of an inbound envelope, by message type. An
  unresolved run is `none` where the array holds a value on
  which reading a field throws.
-/
inductive InboundPayload where
| heartbeat
    (activeBrowsers : Option Nat)
    (engineStatus : Option String)
| stateChanged (state message : Option String)
| operationResult (result : OperationResult)
| reconciliationReport (report : ReconciliationReport)
| snapshotDump
    (engineStatus : Option String)
    (activeBrowserCount : Option Nat)
    (unresolvedRuns :
      Option (List (Option UnresolvedRun)))
| telemetry (type : TelemetryType)
deriving DecidableEq, Repr

/- A valid envelope of the Execution Plane. -/
structure InboundEnvelope where
  msgId : String
  traceId : String
  correlationId : Option String := none
  payloadTraceId : Option String := none
  payloadMsgId : Option String := none
  payload : InboundPayload
deriving DecidableEq, Repr

/- One frame read from the pipe. -/
inductive InboundData where
| oversized
| unparsable
| invalid
| legacyHeartbeat
| envelope (envelope : InboundEnvelope)
deriving DecidableEq, Repr

/- What the manager emits to its listeners. -/
inductive Emitted where
| clientConnected (connId : Nat)
| clientDisconnected (connId : Nat)
| connectionAborted
| livenessAlert (alert : WatchdogAlert)
| heartbeat
| stateChanged (state : String) (message : Option String)
| accountFrozen (account operationId : String)
| operationResult (result : OperationResult)
| reconciliationReport
    (report : ReconciliationReport) (reply : ReportReply)
| snapshotDump
| telemetry (type : TelemetryType)
| protocolError
| error
deriving DecidableEq, Repr

namespace OperationResult

/- The ledger status a result records, if any. -/
def ledgerStatus
    (result : OperationResult) : Option LedgerStatus :=
  if result.isUncertain then some .UNCERTAIN
  else if result.isCompleted then some .COMPLETED
  else if result.isFailed then some .FAILED
  else none

/- Fill absent fields from the in-flight operation. -/
def completedFrom
    (result : OperationResult)
    (inFlight : InFlightOperation) : OperationResult :=
  { result with
      idempotencyKey :=
        firstPresent result.idempotencyKey
          (some inFlight.idempotencyKey)
      accountId :=
        firstPresent result.accountId inFlight.accountId
      targetAccounts :=
        match result.targetAccounts with
        | some targets => some targets
        | none => some inFlight.targetAccounts }

/- Add to an insertion-ordered set of accounts. -/
def addAccount
    (accounts : List String)
    (account : String) : List String :=
  if account ∈ accounts then accounts
  else accounts ++ [account]

/-
  Add the accounts of uncertain target outcomes; `none` when
  reading an outcome throws.
-/
def addOutcomes :
    List String → List (Option TargetOutcome) →
      Option (List String)
| accounts, [] => some accounts
| _, none :: _ => none
| accounts, some outcome :: rest =>
    if outcome.status = .UNCERTAIN ∧
        present outcome.targetId = true then
      addOutcomes
        (addAccount accounts
          (presentOr outcome.targetId "")) rest
    else
      addOutcomes accounts rest

/- The account of a result and its target accounts. -/
def namedAccounts (result : OperationResult) : List String :=
  (result.targetAccounts.getD []).foldl addAccount
    (match result.accountId with
      | some account =>
          if account = "" then [] else [account]
      | none => [])

/-
  The accounts an uncertain result freezes, in the order of
  the source; `none` when collecting them throws.
-/
def affectedAccounts
    (result : OperationResult) : Option (List String) :=
  (addOutcomes result.namedAccounts
      (result.targetOutcomes.getD [])).map
    (fun accounts =>
      if accounts.isEmpty then ["unknown"] else accounts)

/- The reconciliation an uncertain result asks for. -/
def uncertainOperation
    (correlated payload : OperationResult)
    (account : String) : UncertainOperation Details where
  operationId :=
    some (presentOr correlated.operationId "unknown_op")
  accountId := some account
  idempotencyKey := presentOr correlated.idempotencyKey ""
  reason :=
    presentOr correlated.error
      "Atomic bet commitment unconfirmed"
  details := some (.result payload)

end OperationResult

namespace UnresolvedRun

/- A run whose outcome has to be reconciled. -/
def needsReconciliation (run : UnresolvedRun) : Bool :=
  run.status == .UNCERTAIN || run.status == .PROCESSING ||
    run.status == .UNKNOWN

/- The reconciliation a run of the log asks for. -/
def uncertainOperation
    (run : UnresolvedRun) : UncertainOperation Details where
  operationId := firstPresent run.operationId run.runId
  accountId := run.accountId
  idempotencyKey := run.idempotencyKey.getD ""
  reason := "RECONNECT_UNRESOLVED_WAL_RUN"
  details := some (.run run)

end UnresolvedRun

------------------------------------------------------------
-- Operation Results
------------------------------------------------------------

namespace ExecutionBoundaryManager

/- The in-flight operation a result answers. -/
def inFlightOf
    (m : ExecutionBoundaryManager)
    (payload : OperationResult) : Option InFlightOperation :=
  match payload.operationId with
  | some operationId =>
      if operationId = "" then none
      else m.inFlightOperations.get? operationId
  | none => none

/- A result completed from its in-flight operation. -/
def correlated
    (m : ExecutionBoundaryManager)
    (payload : OperationResult) : OperationResult :=
  match m.inFlightOf payload with
  | some inFlight => payload.completedFrom inFlight
  | none => payload

/- Forget the in-flight operation a result answers. -/
def forgetInFlight
    (m : ExecutionBoundaryManager)
    (payload : OperationResult) : ExecutionBoundaryManager :=
  match m.inFlightOf payload with
  | some _ =>
      { m with
          inFlightOperations :=
            m.inFlightOperations.delete
              (presentOr payload.operationId "") }
  | none => m

/- The key a result settles and the status it records. -/
def settles
    (m : ExecutionBoundaryManager)
    (payload : OperationResult) :
    Option (String × LedgerStatus) :=
  match (m.correlated payload).idempotencyKey,
      payload.ledgerStatus with
  | some key, some status =>
      if key = "" then none else some (key, status)
  | _, _ => none

/- Record the outcome a result carries in the ledger. -/
def recordOutcome
    (env : Env)
    (m : ExecutionBoundaryManager)
    (settled : Option (String × LedgerStatus))
    (payload : OperationResult) : ExecutionBoundaryManager :=
  match settled with
  | some (key, status) =>
      { m with
          idempotency :=
            m.idempotency.recordTerminal env.now key status
              payload payload.operationId }
  | none => m

/- Enqueue uncertain operations one after another. -/
def enqueueAll
    (env : Env)
    (m : ExecutionBoundaryManager)
    (ops : List (UncertainOperation Details)) :
    ExecutionBoundaryManager :=
  { m with
      reconciliation :=
        ops.foldl
          (fun c op =>
            c.enqueueUncertainOperation env.now op)
          m.reconciliation }

/- The reconciliations a result asks for. -/
def resultOperations
    (m : ExecutionBoundaryManager)
    (payload : OperationResult) :
    List (UncertainOperation Details) :=
  let correlated := m.correlated payload
  if payload.isUncertain then
    (correlated.affectedAccounts.getD []).map
      (correlated.uncertainOperation payload)
  else
    []

/- What the listeners hear of a result. -/
def resultEmitted
    (m : ExecutionBoundaryManager)
    (payload : OperationResult) : List Emitted :=
  let correlated := m.correlated payload
  if payload.isUncertain then
    match correlated.affectedAccounts with
    | none => [.error]
    | some accounts =>
        accounts.map
            (fun account =>
              .accountFrozen account
                (presentOr correlated.operationId
                  "unknown_op")) ++
          [.operationResult payload]
  else
    [.operationResult payload]

/-
  Route an operation result: complete it from the in-flight
  operation, record its outcome, and freeze the accounts of
  an uncertain one.
-/
def handleOperationResult
    (env : Env)
    (m : ExecutionBoundaryManager)
    (payload : OperationResult) :
    ExecutionBoundaryManager × List Emitted :=
  (((m.forgetInFlight payload).recordOutcome env
      (m.settles payload) payload).enqueueAll env
        (m.resultOperations payload),
    m.resultEmitted payload)

------------------------------------------------------------
-- Other Messages
------------------------------------------------------------

/- The reconciliations the runs of a snapshot ask for. -/
def snapshotOperations
    (runs : List (Option UnresolvedRun)) :
    List (UncertainOperation Details) :=
  (((runs.takeWhile Option.isSome).filterMap id).filter
    UnresolvedRun.needsReconciliation).map
      UnresolvedRun.uncertainOperation

/- A status text replaces the old one when present. -/
def withEngineStatus
    (m : ExecutionBoundaryManager)
    (status : Option String) : ExecutionBoundaryManager :=
  { m with engineStatus := presentOr status m.engineStatus }

def withBrowserCount
    (m : ExecutionBoundaryManager)
    (count : Option Nat) : ExecutionBoundaryManager :=
  { m with
      activeBrowserCount :=
        count.getD m.activeBrowserCount }

/- Route a snapshot; its unresolved runs are enqueued. -/
def handleSnapshotDump
    (env : Env)
    (m : ExecutionBoundaryManager)
    (engineStatus : Option String)
    (activeBrowserCount : Option Nat)
    (unresolvedRuns : List (Option UnresolvedRun)) :
    ExecutionBoundaryManager × List Emitted :=
  (((m.withEngineStatus engineStatus).withBrowserCount
      activeBrowserCount).enqueueAll env
        (snapshotOperations unresolvedRuns),
    if unresolvedRuns.all Option.isSome then [.snapshotDump]
    else [.error])

/- Record a heartbeat in the watchdog. -/
def recordHeartbeat
    (env : Env)
    (m : ExecutionBoundaryManager) :
    ExecutionBoundaryManager :=
  { m with watchdog := m.watchdog.recordHeartbeat env.now }

/- The promise an envelope answers. -/
def answeredCorrelation
    (m : ExecutionBoundaryManager)
    (envelope : InboundEnvelope) :
    Option PendingCorrelation :=
  match m.pendingCorrelations.get? envelope.msgId with
  | some pending => some pending
  | none =>
      let candidates :=
        [some envelope.traceId, envelope.correlationId,
          envelope.payloadTraceId,
          envelope.payloadMsgId].filter present
      m.pendingCorrelations.values.find?
        (fun pending =>
          candidates.contains (some pending.traceId) ||
            candidates.contains (some pending.msgId))

/- Settle the promise an envelope answers. -/
def settleCorrelation
    (m : ExecutionBoundaryManager)
    (envelope : InboundEnvelope) :
    ExecutionBoundaryManager :=
  match m.answeredCorrelation envelope with
  | some pending =>
      { m with
          pendingCorrelations :=
            m.pendingCorrelations.delete pending.msgId }
  | none => m

/- A state change without a state is not passed on. -/
def stateChangedEmitted
    (state message : Option String) : List Emitted :=
  match state with
  | some text =>
      if text = "" then [] else [.stateChanged text message]
  | none => []

/- Route the payload of a valid envelope. -/
def handlePayload
    (env : Env)
    (m : ExecutionBoundaryManager) :
    InboundPayload →
      ExecutionBoundaryManager × List Emitted
| .heartbeat activeBrowsers engineStatus =>
    (((m.recordHeartbeat env).withBrowserCount
      activeBrowsers).withEngineStatus engineStatus,
      [.heartbeat])
| .stateChanged state message =>
    (m.withEngineStatus state,
      stateChangedEmitted state message)
| .operationResult payload =>
    m.handleOperationResult env payload
| .reconciliationReport report =>
    let handled :=
      m.reconciliation.handleReconciliationReport report
    ({ m with reconciliation := handled.1 },
      [.reconciliationReport report handled.2])
| .snapshotDump engineStatus activeBrowserCount runs =>
    m.handleSnapshotDump env engineStatus
      activeBrowserCount (runs.getD [])
| .telemetry type => (m, [.telemetry type])

/- The pipe of a client dropped. -/
def handleClientDisconnected
    (m : ExecutionBoundaryManager)
    (connId : Nat) :
    ExecutionBoundaryManager × List Emitted :=
  let transport := m.transport.onDisconnect connId
  (if transport.isConnected then
      { m with transport := transport }
    else
      { m with
          transport := transport
          engineStatus := "STOPPED"
          activeBrowserCount := 0
          pendingCorrelations := OrderedMap.empty },
    [.clientDisconnected connId])

/- A client connected; a snapshot is requested from it. -/
def handleClientConnected
    (env : Env)
    (m : ExecutionBoundaryManager)
    (connId : Nat) :
    ExecutionBoundaryManager × List Emitted :=
  let connected :=
    { m with transport := m.transport.onConnect connId }
  ((connected.captureSnapshot env
      { traceId :=
          some ("reconnect-snap-" ++ toString connId) }).1,
    [.clientConnected connId])

/- Route one frame of the pipe. -/
def handleIncomingData
    (env : Env)
    (m : ExecutionBoundaryManager)
    (connId : Nat) :
    InboundData → ExecutionBoundaryManager × List Emitted
| .oversized =>
    let dropped := m.handleClientDisconnected connId
    (dropped.1, dropped.2 ++ [.error])
| .unparsable => (m, [.error])
| .invalid => (m, [.protocolError])
| .legacyHeartbeat => (m.recordHeartbeat env, [.heartbeat])
| .envelope envelope =>
    (m.settleCorrelation envelope).handlePayload env
      envelope.payload

/- The engine status an alert of the watchdog sets. -/
def alertStatus (current : String) :
    Option WatchdogAlert → String
| some (.livenessDegraded _ _) => "DEGRADED"
| some (.quarantineRequired _ _) => "DEGRADED_HALTED"
| _ => current

/- The periodic liveness check. -/
def checkLiveness
    (env : Env)
    (m : ExecutionBoundaryManager) :
    ExecutionBoundaryManager × List Emitted :=
  let checked := m.watchdog.checkLiveness env.now
  ({ m with
      watchdog := checked.1
      engineStatus := alertStatus m.engineStatus checked.2 },
    checked.2.toList.map Emitted.livenessAlert)

/- The timer of a pending promise fires. -/
def correlationTimeout
    (m : ExecutionBoundaryManager)
    (msgId : String) : ExecutionBoundaryManager :=
  { m with
      pendingCorrelations :=
        m.pendingCorrelations.delete msgId }

end ExecutionBoundaryManager

end ControlPlane
