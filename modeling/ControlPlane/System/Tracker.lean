import ControlPlane.Data.OrderedMap
import ControlPlane.Boundary.Protocol

/-
  The tracker of tactical operations.

  An operation is queued when a route accepts it, and its
  status follows the acknowledgements and results that reach
  the Control Plane. Two sweeps settle every pending
  operation at once when the Execution Plane is lost.

  Main declarations:
    * `OperationTracker` and its operations
    * `OperationTracker.statusOf_quarantineAllPending`
    * `OperationTracker.statusOf_failAllPending`
-/

------------------------------------------------------------
-- Operations
------------------------------------------------------------

namespace ControlPlane

inductive ActionType where
| STARTING | STOPPING
| PLACING_BET | CASHING_OUT | VALIDATING
deriving DecidableEq, Repr

inductive TrackedStatus where
| QUEUED | IN_FLIGHT | PROCESSING
| COMPLETED | FAILED | UNCERTAIN
deriving DecidableEq, Repr

namespace TrackedStatus

/-
  What a quarantine makes of a status: an operation in
  flight is uncertain, a queued one fails.
-/
def quarantined : TrackedStatus → TrackedStatus
| .IN_FLIGHT => .UNCERTAIN
| .PROCESSING => .UNCERTAIN
| .QUEUED => .FAILED
| status => status

/- What a stop makes of a status. -/
def swept : TrackedStatus → TrackedStatus
| .QUEUED => .FAILED
| .IN_FLIGHT => .FAILED
| status => status

theorem swept_swept
    (status : TrackedStatus) :
    status.swept.swept = status.swept := by
  cases status with
  | _ => rfl

theorem swept_quarantined
    (status : TrackedStatus) :
    status.quarantined.swept = status.quarantined := by
  cases status with
  | _ => rfl

end TrackedStatus

/- The metadata of an operation that its readers use. -/
structure OperationMetadata where
  idempotencyKey : Option String := none
  accountId : Option String := none
  targetAccounts : Option (List String) := none
deriving DecidableEq, Repr

structure TrackedOperation where
  operationId : String
  actionType : ActionType
  status : TrackedStatus
  metadata : OperationMetadata
  errorReason : Option String
  uncertainReason : Option String
deriving DecidableEq, Repr

structure OperationTracker where
  currentPendingAction : Option ActionType
  operations : OrderedMap String TrackedOperation

namespace TrackedOperation

def completed (op : TrackedOperation) : TrackedOperation :=
  { op with status := .COMPLETED }

def failed
    (reason : String)
    (op : TrackedOperation) : TrackedOperation :=
  { op with status := .FAILED, errorReason := some reason }

def uncertain
    (reason : String)
    (op : TrackedOperation) : TrackedOperation :=
  { op with
      status := .UNCERTAIN
      uncertainReason := some reason }

/- It may have reached the Execution Plane. -/
def inFlight (op : TrackedOperation) : Bool :=
  op.status == .IN_FLIGHT || op.status == .PROCESSING

/- What a quarantine does to one operation. -/
def quarantined
    (reason : String)
    (op : TrackedOperation) : TrackedOperation :=
  if op.inFlight then op.uncertain reason
  else if op.status = .QUEUED then op.failed reason
  else op

/- What the sweep of a stop does to one operation. -/
def swept
    (reason : String)
    (op : TrackedOperation) : TrackedOperation :=
  if op.status = .QUEUED ∨ op.status = .IN_FLIGHT then
    op.failed reason
  else
    op

end TrackedOperation

------------------------------------------------------------
-- The Tracker
------------------------------------------------------------

namespace OperationTracker

/- The tracker of a new process. -/
def fresh : OperationTracker where
  currentPendingAction := none
  operations := OrderedMap.empty

def getOperation
    (t : OperationTracker)
    (operationId : String) : Option TrackedOperation :=
  t.operations.get? operationId

/- The status of an operation. -/
def statusOf
    (t : OperationTracker)
    (operationId : String) : Option TrackedStatus :=
  (t.getOperation operationId).map TrackedOperation.status

/- Queue an operation under a new id. -/
def startOperation
    (t : OperationTracker)
    (operationId : String)
    (actionType : ActionType)
    (metadata : OperationMetadata) : OperationTracker where
  currentPendingAction := some actionType
  operations :=
    t.operations.set operationId
      { operationId := operationId
        actionType := actionType
        status := .QUEUED
        metadata := metadata
        errorReason := none
        uncertainReason := none }

/- Change an operation, if it is tracked. -/
def change
    (t : OperationTracker)
    (operationId : String)
    (f : TrackedOperation → TrackedOperation) :
    OperationTracker :=
  match t.getOperation operationId with
  | some op =>
      { t with
          operations := t.operations.set operationId (f op) }
  | none => t

/- Settle an operation; the pending action is cleared. -/
def settle
    (t : OperationTracker)
    (operationId : String)
    (f : TrackedOperation → TrackedOperation) :
    OperationTracker :=
  { t.change operationId f with currentPendingAction := none }

def completeOperation
    (t : OperationTracker)
    (operationId : String) : OperationTracker :=
  t.settle operationId TrackedOperation.completed

def failOperation
    (t : OperationTracker)
    (operationId errorReason : String) : OperationTracker :=
  t.settle operationId (TrackedOperation.failed errorReason)

def markUncertain
    (t : OperationTracker)
    (operationId reason : String) : OperationTracker :=
  t.settle operationId (TrackedOperation.uncertain reason)

def updateStatus
    (t : OperationTracker)
    (operationId : String)
    (status : TrackedStatus) : OperationTracker :=
  t.change operationId
    (fun op => { op with status := status })

/-
  In-flight operations become uncertain and are returned,
  queued ones fail.
-/
def quarantineAllPending
    (t : OperationTracker)
    (reason : String) :
    OperationTracker × List TrackedOperation :=
  ({ currentPendingAction := none
     operations :=
       t.operations.modify
         (TrackedOperation.quarantined reason) },
    (t.operations.values.filter
      TrackedOperation.inFlight).map
        (TrackedOperation.uncertain reason))

/- Queued and in-flight operations fail. -/
def failAllPending
    (t : OperationTracker)
    (errorReason : String) : OperationTracker where
  currentPendingAction := none
  operations :=
    t.operations.modify (TrackedOperation.swept errorReason)

------------------------------------------------------------
-- Statuses After A Sweep
------------------------------------------------------------

theorem statusOf_modify
    (t : OperationTracker)
    (f : TrackedOperation → TrackedOperation)
    (action : Option ActionType)
    (operationId : String) :
    statusOf
        { currentPendingAction := action
          operations := t.operations.modify f } operationId =
      (t.getOperation operationId).map
        (fun op => (f op).status) := by
  unfold statusOf getOperation
  rw [OrderedMap.get?_modify, Option.map_map]
  rfl

/- The statuses after a quarantine. -/
theorem statusOf_quarantineAllPending
    (t : OperationTracker)
    (reason operationId : String) :
    (t.quarantineAllPending reason).1.statusOf operationId =
      (t.statusOf operationId).map
        TrackedStatus.quarantined := by
  unfold quarantineAllPending
  rw [statusOf_modify, statusOf, Option.map_map]
  congr 1
  funext op
  unfold TrackedOperation.quarantined
    TrackedOperation.inFlight
  cases hStatus : op.status <;>
    simp [hStatus, TrackedOperation.uncertain,
      TrackedOperation.failed, TrackedStatus.quarantined]

/-
  The statuses after a sweep: everything queued or in flight
  has failed, whatever was sent.
-/
theorem statusOf_failAllPending
    (t : OperationTracker)
    (reason operationId : String) :
    (t.failAllPending reason).statusOf operationId =
      (t.statusOf operationId).map TrackedStatus.swept := by
  unfold failAllPending
  rw [statusOf_modify, statusOf, Option.map_map]
  congr 1
  funext op
  unfold TrackedOperation.swept
  cases hStatus : op.status <;>
    simp [hStatus, TrackedOperation.failed,
      TrackedStatus.swept]

end OperationTracker

end ControlPlane
