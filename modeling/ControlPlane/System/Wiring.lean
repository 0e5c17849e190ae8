import ControlPlane.Boundary.Events
import ControlPlane.System.Security
import ControlPlane.System.Tracker
import ControlPlane.System.Workspace

/-
  The wired Control Plane: the execution boundary, the
  operation tracker, the runtime manager, the workspace, the
  security authority and the lifecycle commands, with the
  listeners that join them.

  A run is a list of turns of the event loop. A lifecycle
  command holds the lifecycle mutex from its first turn to
  its last, and every other turn may come between two of its
  own; its stage says where it waits.

  Main declarations:
    * `System`, `SystemInput` and `System.respond`
    * `System.hear` and `System.feed`
    * `System.resume`
-/

------------------------------------------------------------
-- State
------------------------------------------------------------

namespace ControlPlane

inductive DesiredState where
| STOPPED | RUNNING
deriving DecidableEq, Repr

/-
  The observed lifecycle, with the states that only the
  workspace writes; any other text is `other`.
-/
inductive ObservedState where
| STOPPED | STARTING_HANDSHAKE | STARTING | RUNNING
| STOPPING | ABORTED | ERROR_DEGRADED | DEGRADED
| other (text : String)
deriving DecidableEq, Repr

/- The state that a text of the wire names. -/
def ObservedState.read (text : String) : ObservedState :=
  if text = "STOPPED" then .STOPPED
  else if text = "STARTING_HANDSHAKE" then
    .STARTING_HANDSHAKE
  else if text = "STARTING" then .STARTING
  else if text = "RUNNING" then .RUNNING
  else if text = "STOPPING" then .STOPPING
  else if text = "ABORTED" then .ABORTED
  else if text = "ERROR_DEGRADED" then .ERROR_DEGRADED
  else if text = "DEGRADED" then .DEGRADED
  else .other text

/- The commands that take the lifecycle mutex. -/
inductive LifecycleCommand where
| start (accountIds : List String)
| stop
| emergencyStop
deriving DecidableEq, Repr

/- What a stop does when its processes are gone. -/
inductive StopKind where
| stop | emergency
deriving DecidableEq, Repr

/-
  Where the holder of the lifecycle mutex waits. A start
  waits for the pre-start snapshot, for the pipe connection,
  for its own continuation after the connection, for the
  answer to its envelope, or for its rollback.
-/
inductive Stage where
| startSnapshot
| startConnecting (pid : Nat)
| startConnected (pid : Nat)
| startInitializing (pid : Nat) (msgId : String)
| startFailed (pid : Nat)
| stopDispatched (kind : StopKind)
| stopTerminating (kind : StopKind)
| emergencySnapshot
deriving DecidableEq, Repr

structure System where
  boundary : Boundary
  tracker : OperationTracker
  security : SecurityAuthority
  workspace : Workspace
  desired : DesiredState
  observed : ObservedState
  lifecycle : ObservedState
  activeRuntimes : List Nat
  currentStartingPid : Option Nat
  activeConnections : List Nat
  queue : List LifecycleCommand
  holder : Option Stage

------------------------------------------------------------
-- Inputs
------------------------------------------------------------

/-
  Inputs that reach the boundary from outside. The others
  are calls that only the lifecycle commands and the
  listeners make.
-/
def Input.external : Input → Bool
| .command (.initializeWorker _ _) => false
| .command (.stopCluster _ _) => false
| .startServer => false
| .stopServer => false
| .uncertainOperations _ => false
| _ => true

/- Calls of the commands and listeners without secrets. -/
def Input.housekeeping : Input → Bool
| .command (.stopCluster _ _) => true
| .command (.getFleetReadiness _) => true
| .startServer => true
| .stopServer => true
| .uncertainOperations _ => true
| _ => false

/- Changes of the workspace by routes and syncs. -/
inductive WorkspaceInput where
| accountsChanged (accounts : List WorkspaceAccount)
| stageAccount (accountId : String)
| unstageAccount (accountId : String)
| activateAccount (accountId : String)
| browserStopped (accountId : String)
| startAutomation
| stopAutomation
| getSnapshot (maxCapacity : Nat)

/-
  What the surroundings answer to a lifecycle command:
  whether credentials are pulled first, whether the session
  grants the start, the process the native core spawns, the
  compiled fleet, how the envelope was answered, and the
  capacity a snapshot reads. `none` is an exception.
-/
structure Answers where
  pulls : Bool := false
  granted : Bool := true
  spawned : Option Nat := none
  compiled : Option (List CompiledAccount) := none
  acknowledged : Bool := true
  maxCapacity : Option Nat := some 2
deriving DecidableEq, Repr

/-
  What can happen to the system in one turn. `runtimeAck`,
  `runtimeResult` and `runtimeStateChanged` are frames that
  the pipe server of the runtime manager reads, `quarantine`
  is the end of offline grace or a backend that is offline
  without one.
-/
inductive SystemInput where
| boundary (input : { input : Input // input.external = true })
| startOperation
    (operationId : String) (actionType : ActionType)
    (metadata : OperationMetadata)
| runtimeAck (operationId : String)
| runtimeResult
    (operationId : String) (success : Bool) (error : String)
| runtimeStateChanged (state : String)
| runtimeExited (pid : Nat)
| handshakeTimeout (pid : Nat)
| connectionTimeout
| quarantine (reason : String)
| security (input : SecurityInput)
| workspace (input : WorkspaceInput)
| submit (command : LifecycleCommand)
| acquire (answers : Answers)
| resume (answers : Answers)
| cancelAllBets (maxCapacity : Option Nat)
| freezeAccount (target reason : Option String)

/-
  One turn of the event loop. The boundary reads its clock
  some time after it last did. Whether the system is
  degraded is answered by the security authority.
-/
structure SystemEvent where
  elapsed : Nat
  surroundings : Surroundings
  input : SystemInput

/- What a command handler returns or throws. -/
inductive CommandReply where
| started (pid : Nat)
| stopped
| emergencyStopped
| cancelled
| frozen (account : String)
| notFrozen
| denied
| failed
deriving DecidableEq, Repr

namespace System

/- The system of a new process. -/
def fresh
    (maxEntries : Nat)
    (accounts : List WorkspaceAccount) : System where
  boundary := Boundary.fresh maxEntries
  tracker := OperationTracker.fresh
  security := SecurityAuthority.fresh
  workspace := Workspace.fresh accounts
  desired := .STOPPED
  observed := .STOPPED
  lifecycle := .STOPPED
  activeRuntimes := []
  currentStartingPid := none
  activeConnections := []
  queue := []
  holder := none

/-
  The workspace takes a lifecycle state, and the store
  observes it.
-/
def setLifecycle
    (s : System)
    (state : ObservedState) : System :=
  { s with observed := state, lifecycle := state }

/- An account is frozen in the coordinator. -/
def isAccountFrozen
    (s : System)
    (account : String) : Bool :=
  s.boundary.coordinator.isAccountFrozen account

/- The event of the boundary that an input of a turn is. -/
def boundaryEvent
    (s : System)
    (surroundings : Surroundings)
    (elapsed : Nat)
    (input : Input) : Event where
  elapsed := elapsed
  surroundings :=
    { surroundings with degraded := s.security.isDegraded }
  input := input

/- Pass an input to the boundary; listeners come later. -/
def act
    (s : System)
    (surroundings : Surroundings)
    (elapsed : Nat)
    (input : Input) : System :=
  { s with
      boundary :=
        s.boundary.step
          (s.boundaryEvent surroundings elapsed input) }

/- What the boundary emits on an input. -/
def emitted
    (s : System)
    (surroundings : Surroundings)
    (elapsed : Nat)
    (input : Input) : List Emitted :=
  let event := s.boundaryEvent surroundings elapsed input
  (s.boundary.manager.react (s.boundary.env event) input).2

------------------------------------------------------------
-- Listeners
------------------------------------------------------------

/- The pipe connection that a start waits for is there. -/
def connectionArrived (s : System) : System :=
  match s.holder with
  | some (.startConnecting pid) =>
      { s with holder := some (.startConnected pid) }
  | _ => s

/- The wait of a start for its connection is rejected. -/
def connectionAborted (s : System) : System :=
  match s.holder with
  | some (.startConnecting pid) =>
      { s with holder := some (.startFailed pid) }
  | _ => s

/- The reconciliation of a quarantined operation. -/
def quarantinedOperation
    (op : TrackedOperation) : UncertainOperation Details where
  operationId := some op.operationId
  accountId :=
    some (presentOr op.metadata.accountId
      (presentOr
        (op.metadata.targetAccounts.bind List.head?)
        "unknown"))
  idempotencyKey :=
    presentOr op.metadata.idempotencyKey
      ("idem_" ++ op.operationId)
  reason :=
    presentOr op.uncertainReason "EXECUTION_QUARANTINED"
  details := some (.tracked op.operationId)

/-
  Drop the runtimes, quarantine the pending operations and
  pass the uncertain ones to the coordinator.
-/
def quarantineExecution
    (s : System)
    (surroundings : Surroundings)
    (elapsed : Nat)
    (reason : String) : System :=
  let swept :=
    s.tracker.quarantineAllPending
      ("Execution Quarantined: " ++ reason)
  { s with activeRuntimes := [], tracker := swept.1 }.act
    surroundings elapsed
    (.uncertainOperations (swept.2.map quarantinedOperation))

/- The error of a result without one of its own. -/
def defaultError (result : OperationResult) : String :=
  "Operation " ++
    presentOr (result.status.map ResultStatus.text) "FAILED"

/- The tracker after a result of the boundary. -/
def trackResult
    (t : OperationTracker)
    (result : OperationResult) : OperationTracker :=
  match result.operationId with
  | some operationId =>
      if operationId = "" then
        t.failAllPending "OPERATION_RESULT_WITHOUT_ID"
      else if result.isCompleted then
        t.completeOperation operationId
      else if result.isUncertain then
        t.markUncertain operationId
          (presentOr result.error "UNCERTAIN_OUTCOME")
      else
        t.failOperation operationId
          (presentOr result.error (defaultError result))
  | none => t.failAllPending "OPERATION_RESULT_WITHOUT_ID"

/- The observed state an engine state stands for. -/
def observedFrom (state : String) : ObservedState :=
  if state = "READY" ∨ state = "RUNNING" then .RUNNING
  else if state = "STOPPED" ∨ state = "OFFLINE" then .STOPPED
  else if state = "ERROR" ∨ state = "DEGRADED" then
    .ERROR_DEGRADED
  else if state = "STARTING_HANDSHAKE" then
    .STARTING_HANDSHAKE
  else if state = "STARTING" then .STARTING
  else if state = "STOPPING" then .STOPPING
  else if state = "ABORTED" then .ABORTED
  else if state = "ERROR_DEGRADED" then .ERROR_DEGRADED
  else .other state

/- A running engine is asked for its fleet readiness. -/
def engineStateChanged
    (s : System)
    (surroundings : Surroundings)
    (state : String) : System :=
  if observedFrom state = .RUNNING then
    (s.setLifecycle .RUNNING).act surroundings 0
      (.command (.getFleetReadiness {}))
  else
    s.setLifecycle (observedFrom state)

/- A state that the runtime manager reads from its pipe. -/
def runtimeStateChanged
    (s : System)
    (state : String) : System :=
  if state = "" then s
  else s.setLifecycle (ObservedState.read state)

/-
  What the store observes when a pipe drops: the last one
  leaves a run aborted.
-/
def observedAfterDrop (s : System) : ObservedState :=
  if s.boundary.manager.transport.isConnected then s.observed
  else if s.desired = .RUNNING then .ABORTED
  else .STOPPED

/- The watchdog gave the Execution Plane up. -/
def quarantineRequired
    (s : System)
    (surroundings : Surroundings) : System :=
  let swept :=
    s.quarantineExecution surroundings 0
      "WATCHDOG_HEARTBEAT_DEAD"
  connectionAborted
    { swept with
        tracker :=
          swept.tracker.failAllPending
            "WATCHDOG_HEARTBEAT_DEAD"
        desired := .STOPPED
        observed := .STOPPED
        lifecycle := .STOPPED }

/- What the listeners do with one event of the boundary. -/
def hear
    (surroundings : Surroundings)
    (s : System) : Emitted → System
| .clientConnected connId =>
    connectionArrived
      { s with
          activeConnections :=
            if connId ∈ s.activeConnections then
              s.activeConnections
            else
              s.activeConnections ++ [connId]
          currentStartingPid := none }
| .clientDisconnected connId =>
    { s with
        activeConnections :=
          s.activeConnections.filter
            (fun other => other ≠ connId)
        observed := s.observedAfterDrop }
| .connectionAborted => s.connectionAborted
| .livenessAlert (.quarantineRequired _ _) =>
    s.quarantineRequired surroundings
| .livenessAlert (.livenessDegraded _ _) =>
    s.setLifecycle .DEGRADED
| .stateChanged state _ =>
    s.engineStateChanged surroundings state
| .operationResult result =>
    { s with tracker := trackResult s.tracker result }
| _ => s

/- Pass an input to the boundary and run the listeners. -/
def feed
    (s : System)
    (surroundings : Surroundings)
    (elapsed : Nat)
    (input : Input) : System :=
  (s.emitted surroundings elapsed input).foldl
    (hear surroundings)
    (s.act surroundings elapsed input)

------------------------------------------------------------
-- The Runtime Manager
------------------------------------------------------------

def terminateRuntime
    (s : System)
    (pid : Nat) : System :=
  { s with
      currentStartingPid :=
        if s.currentStartingPid = some pid then none
        else s.currentStartingPid
      activeRuntimes :=
        s.activeRuntimes.filter (fun other => other ≠ pid) }

/- Forget every runtime before their exit is awaited. -/
def forgetRuntimes (s : System) : System :=
  { s with activeRuntimes := [], currentStartingPid := none }

def terminateAll (s : System) : System :=
  { s.forgetRuntimes with activeConnections := [] }

/-
  The listener of an exited runtime. The exit of an older
  process is ignored while a newer one is wanted.
-/
def runtimeLost
    (s : System)
    (pid : Nat) : System :=
  if s.desired = .RUNNING ∧
      (s.activeRuntimes ≠ [] ∨ s.currentStartingPid ≠ none) ∧
      pid ∉ s.activeRuntimes then
    s
  else
    let target :=
      if s.desired = .RUNNING then ObservedState.ABORTED
      else .STOPPED
    { s with
        tracker :=
          s.tracker.failAllPending
            ("PROCESS_EXIT_PID_" ++ toString pid)
        observed := target
        lifecycle := target }

/- The native core reports the exit of a process. -/
def runtimeExited
    (s : System)
    (pid : Nat) : System :=
  let starting := s.currentStartingPid = some pid
  let known := pid ∈ s.activeRuntimes ∨ starting
  let left := s.terminateRuntime pid
  if known then
    if starting then (left.runtimeLost pid).connectionAborted
    else left.runtimeLost pid
  else
    left

/- A spawned process did not connect in time. -/
def handshakeTimeout
    (s : System)
    (pid : Nat) : System :=
  if s.activeConnections = [] ∧ pid ∈ s.activeRuntimes then
    (s.terminateRuntime pid).connectionAborted
  else
    s

/-
  The security authority lets automation start. The session
  grants it only in an active state, and no second time
  while a runtime is active.
-/
def canStartAutomation
    (s : System)
    (granted : Bool) : Bool :=
  granted && s.activeRuntimes.isEmpty &&
    (s.security.inMemoryState == some .OPERATIONAL ||
      s.security.inMemoryState == some .OFFLINE_GRACE)

/-
  Spawn a process, `none` when the spawn is denied or the
  native core throws.
-/
def spawnRuntime
    (s : System)
    (answers : Answers) : Option (System × Nat) :=
  if s.security.isDegraded ||
      !s.canStartAutomation answers.granted then
    none
  else
    answers.spawned.map
      (fun pid =>
        ({ s with
            activeRuntimes := s.activeRuntimes ++ [pid]
            currentStartingPid :=
              if s.activeConnections ≠ [] ∨
                  s.boundary.manager.transport.isConnected =
                    true then
                none
              else
                some pid }, pid))

------------------------------------------------------------
-- Containment
------------------------------------------------------------

/-
  The freeze of an account lease. The boundary manager has
  no such method, so the call throws.
-/
def freezeAccountLease
    (_ : System)
    (_ _ : String) : Option System :=
  none

/-
  Freeze the leases of a list of accounts. An exception
  leaves the loop, and its caller swallows it.
-/
def freezeLeases
    (reason : String) :
    System → List String → System
| s, [] => s
| s, account :: rest =>
    match s.freezeAccountLease account reason with
    | some frozen => freezeLeases reason frozen rest
    | none => s

/-
  Freeze the accounts of a snapshot; reading the snapshot
  may throw, which the caller swallows too.
-/
def freezeSnapshot
    (s : System)
    (maxCapacity : Option Nat)
    (reason : String) : System :=
  match maxCapacity with
  | some capacity =>
      let snapshot := s.workspace.getSnapshot capacity
      freezeLeases reason
        { s with workspace := snapshot.1 } snapshot.2
  | none => s

------------------------------------------------------------
-- Lifecycle Commands
------------------------------------------------------------

/- Automation already runs or is being started. -/
def alreadyRunning (s : System) : Bool :=
  decide (s.observed = .RUNNING) ||
    decide (s.observed = .STARTING_HANDSHAKE) ||
    !s.activeRuntimes.isEmpty

/- The command ends and releases the mutex. -/
def finish
    (s : System)
    (reply : CommandReply) : System × Option CommandReply :=
  ({ s with holder := none }, some reply)

/- The command goes on waiting. -/
def wait
    (s : System)
    (stage : Stage) : System × Option CommandReply :=
  ({ s with holder := some stage }, none)

/- The start waits for the pipe connection. -/
def startCluster
    (s : System)
    (pid : Nat) : System × Option CommandReply :=
  if s.security.isDegraded then
    s.wait (.startFailed pid)
  else if s.boundary.manager.transport.isConnected then
    s.wait (.startConnected pid)
  else
    s.wait (.startConnecting pid)

/- Start the server, spawn the worker and wait for it. -/
def startSpawn
    (s : System)
    (surroundings : Surroundings)
    (elapsed : Nat)
    (answers : Answers) : System × Option CommandReply :=
  let wanted := { s with desired := .RUNNING }
  if (s.boundary.manager.transport.startServer
      surroundings.native).isSome then
    let served := wanted.feed surroundings elapsed .startServer
    match served.spawnRuntime answers with
    | some (spawned, pid) =>
        (spawned.setLifecycle .STARTING).startCluster pid
    | none =>
        ({ served with desired := .STOPPED }.setLifecycle
          .STOPPED).finish .failed
  else
    wanted.finish .failed

/-
  A quarantined or aborted run is settled first, in the
  store and in the workspace.
-/
def preStartReset
    (s : System)
    (state : ObservedState) : ObservedState :=
  match s.observed with
  | .ERROR_DEGRADED => .STOPPED
  | .ABORTED => .STOPPED
  | _ => state

/- The first turn of a start under the mutex. -/
def startBegin
    (s : System)
    (surroundings : Surroundings)
    (elapsed : Nat)
    (accountIds : List String)
    (answers : Answers) : System × Option CommandReply :=
  if s.alreadyRunning then
    s.finish .denied
  else
    let staged :=
      { s with
          observed := s.preStartReset s.observed
          lifecycle := s.preStartReset s.lifecycle
          workspace := s.workspace.stageForStart accountIds }
    if answers.pulls then
      staged.wait .startSnapshot
    else
      staged.startSpawn surroundings elapsed answers

/- The answer of the boundary to the credentials. -/
def initializationReply
    (s : System)
    (surroundings : Surroundings)
    (elapsed : Nat)
    (accounts : List CompiledAccount) : Reply :=
  let input :=
    Command.initializeWorker accounts { waitForAck := true }
  let event :=
    s.boundaryEvent surroundings elapsed (.command input)
  (s.boundary.manager.execute (s.boundary.env event) input).2

/-
  The connection is there: the fleet is compiled and handed
  over. The security state is not read again.
-/
def startInitialize
    (s : System)
    (surroundings : Surroundings)
    (elapsed : Nat)
    (pid : Nat)
    (answers : Answers) : System × Option CommandReply :=
  match answers.compiled with
  | none => s.wait (.startFailed pid)
  | some accounts =>
      let handed :=
        s.feed surroundings elapsed
          (.command (.initializeWorker accounts
            { waitForAck := true }))
      match s.initializationReply surroundings elapsed
          accounts with
      | .dispatched (.awaiting msgId) =>
          handed.wait (.startInitializing pid msgId)
      | _ => handed.wait (.startFailed pid)

/- Undo a start whose cluster did not come up. -/
def startRollback
    (s : System)
    (surroundings : Surroundings)
    (elapsed : Nat)
    (pid : Nat) : System × Option CommandReply :=
  ({ (s.terminateRuntime pid).feed surroundings elapsed
      .stopServer with
    desired := .STOPPED }.setLifecycle .STOPPED).finish .failed

/- The first turn of a stop under the mutex. -/
def stopBegin
    (s : System)
    (surroundings : Surroundings)
    (elapsed : Nat)
    (kind : StopKind) : System × Option CommandReply :=
  let timeoutMs :=
    match kind with
    | .stop => 3000
    | .emergency => 0
  ({ s with
      desired := .STOPPED
      observed := .STOPPING }.feed surroundings elapsed
        (.command (.stopCluster timeoutMs {}))).wait
          (.stopDispatched kind)

/- Pending operations fail and the workspace stands by. -/
def standBy
    (s : System)
    (reason : String) : System :=
  { s with
      tracker :=
        (s.tracker.failAllPending reason).failAllPending
          "AUTOMATION_STOPPED"
      observed := .STOPPED
      lifecycle := .STOPPED
      workspace := s.workspace.stopAutomation }

/- The processes are gone: the server is stopped. -/
def stopServerAfter
    (s : System)
    (surroundings : Surroundings)
    (elapsed : Nat)
    (kind : StopKind) : System × Option CommandReply :=
  let severed :=
    s.terminateAll.feed surroundings elapsed .stopServer
  match kind with
  | .stop =>
      (severed.standBy "AUTOMATION_STOPPED").finish .stopped
  | .emergency => severed.wait .emergencySnapshot

/- The last turn of an emergency stop. -/
def emergencyEnd
    (s : System)
    (answers : Answers) : System × Option CommandReply :=
  ((s.freezeSnapshot answers.maxCapacity
    "EMERGENCY_STOP").standBy "EMERGENCY_STOP").finish
      .emergencyStopped

/- The next waiting command takes the mutex. -/
def acquire
    (s : System)
    (surroundings : Surroundings)
    (elapsed : Nat)
    (answers : Answers) : System × Option CommandReply :=
  match s.holder, s.queue with
  | none, .start accountIds :: rest =>
      { s with queue := rest }.startBegin surroundings elapsed
        accountIds answers
  | none, .stop :: rest =>
      { s with queue := rest }.stopBegin surroundings elapsed
        .stop
  | none, .emergencyStop :: rest =>
      { s with queue := rest }.stopBegin surroundings elapsed
        .emergency
  | _, _ => (s, none)

/-
  The holder of the mutex goes on. It stays where it is
  while what it waits for has not happened.
-/
def resume
    (s : System)
    (surroundings : Surroundings)
    (elapsed : Nat)
    (answers : Answers) : System × Option CommandReply :=
  match s.holder with
  | some .startSnapshot =>
      s.startSpawn surroundings elapsed answers
  | some (.startConnecting _) => (s, none)
  | some (.startConnected pid) =>
      s.startInitialize surroundings elapsed pid answers
  | some (.startInitializing pid msgId) =>
      if s.boundary.manager.pendingCorrelations.has msgId then
        (s, none)
      else if answers.acknowledged then
        s.finish (.started pid)
      else
        s.startRollback surroundings elapsed pid
  | some (.startFailed pid) =>
      s.startRollback surroundings elapsed pid
  | some (.stopDispatched kind) =>
      s.forgetRuntimes.wait (.stopTerminating kind)
  | some (.stopTerminating kind) =>
      s.stopServerAfter surroundings elapsed kind
  | some .emergencySnapshot => s.emergencyEnd answers
  | none => (s, none)

------------------------------------------------------------
-- One Turn
------------------------------------------------------------

/- Submit a command; a degraded system denies a start. -/
def submit
    (s : System)
    (command : LifecycleCommand) :
    System × Option CommandReply :=
  match command with
  | .start _ =>
      if s.security.isDegraded then (s, some .denied)
      else ({ s with queue := s.queue ++ [command] }, none)
  | _ => ({ s with queue := s.queue ++ [command] }, none)

/- A change of the workspace. -/
def changeWorkspace
    (s : System) : WorkspaceInput → System
| .accountsChanged accounts =>
    { s with
        workspace := { s.workspace with accounts := accounts } }
| .stageAccount accountId =>
    { s with workspace := s.workspace.stageAccount accountId }
| .unstageAccount accountId =>
    { s with
        workspace := s.workspace.unstageAccount accountId }
| .activateAccount accountId =>
    { s with
        workspace := s.workspace.activateAccount accountId }
| .browserStopped accountId =>
    { s with
        workspace := s.workspace.browserStopped accountId }
| .startAutomation =>
    { s with
        observed := .RUNNING
        lifecycle := .RUNNING
        workspace := s.workspace.startAutomation }
| .stopAutomation => s.standBy "AUTOMATION_STOPPED"
| .getSnapshot maxCapacity =>
    { s with workspace := s.workspace.seeded maxCapacity }

/- Freeze one account on request. -/
def freezeAccount
    (s : System)
    (target reason : Option String) :
    System × Option CommandReply :=
  match target with
  | some account =>
      if account = "" then
        (s, some .notFrozen)
      else
        match s.freezeAccountLease account
            (presentOr reason "OPERATOR_FREEZE") with
        | some frozen => (frozen, some (.frozen account))
        | none => (s, some .failed)
  | none => (s, some .notFrozen)

/- The system after one turn, with the reply of a command. -/
def respond
    (s : System)
    (event : SystemEvent) : System × Option CommandReply :=
  match event.input with
  | .boundary input =>
      (s.feed event.surroundings event.elapsed input, none)
  | .startOperation operationId actionType metadata =>
      ({ s with
          tracker :=
            s.tracker.startOperation operationId actionType
              metadata }, none)
  | .runtimeAck operationId =>
      ({ s with
          tracker :=
            s.tracker.updateStatus operationId .IN_FLIGHT },
        none)
  | .runtimeResult operationId success error =>
      ({ s with
          tracker :=
            if success then
              s.tracker.completeOperation operationId
            else
              s.tracker.failOperation operationId error },
        none)
  | .runtimeStateChanged state =>
      (s.runtimeStateChanged state, none)
  | .runtimeExited pid => (s.runtimeExited pid, none)
  | .handshakeTimeout pid => (s.handshakeTimeout pid, none)
  | .connectionTimeout => (s.connectionAborted, none)
  | .quarantine reason =>
      ((s.quarantineExecution event.surroundings
          event.elapsed reason).setLifecycle .ERROR_DEGRADED,
        none)
  | .security input =>
      ({ s with security := s.security.step input }, none)
  | .workspace input => (s.changeWorkspace input, none)
  | .submit command => s.submit command
  | .acquire answers =>
      s.acquire event.surroundings event.elapsed answers
  | .resume answers =>
      s.resume event.surroundings event.elapsed answers
  | .cancelAllBets maxCapacity =>
      (s.freezeSnapshot maxCapacity "CANCEL_ALL_BETS",
        some .cancelled)
  | .freezeAccount target reason =>
      s.freezeAccount target reason

def step
    (s : System)
    (event : SystemEvent) : System :=
  (s.respond event).1

end System

end ControlPlane
