import Mathlib.Data.Rat.Defs
import Mathlib.Algebra.Order.Ring.Rat
import ControlPlane.Data.Text

/-
  The vocabulary of the Execution Plane boundary: message
  types, error codes, result states and the payload fields
  that the boundary reads.

  A payload field of the wire is an `Option`: `none` is a
  field that is absent.

  Main declarations:
    * `ExecutionMessageType` and `ExecutionErrorCode`
    * `ResultStatus` and its classification
    * `TacticalPayload`, `OperationResult`, `UnresolvedRun`
-/

------------------------------------------------------------
-- Message Types And Codes
------------------------------------------------------------

namespace ControlPlane

/- Message types of Protocol v3.0, both directions. -/
inductive ExecutionMessageType where
| INITIALIZE | START_CLUSTER | STOP_CLUSTER
| PLACE_BET | CASH_OUT | VALIDATE | RECONCILE_ORDER
| ACTIVATE_ACCOUNT | DEACTIVATE_ACCOUNT | SET_BET_CYCLE
| UPDATE_POLICY | RESET_POLICY
| CAPTURE_SNAPSHOT | GET_FLEET_READINESS
| HEARTBEAT | STATE_CHANGED | BROWSER_STATUS
| FLEET_READINESS | OPERATION_ACK | OPERATION_RESULT
| RECONCILIATION_REPORT | ODDS_TICK | SNAPSHOT_DUMP
| AUDIT_EVENT | SYNC_METRICS | UNKNOWN_COMMAND
deriving DecidableEq, Repr

/-
  Machine-readable error codes of the boundary; any other
  text is `other`.
-/
inductive ExecutionErrorCode where
| MALFORMED_COMMAND | CONTRACT_VIOLATION
| INVALID_ENGINE_STATE | ACCOUNT_BUSY
| SESSION_EXPIRED | LOGIN_FAILED
| LOCATOR_NOT_FOUND | OVERLAY_BLOCKED
| MARKET_SUSPENDED | ODDS_DRIFT_INTERRUPT
| MAX_GES_GAPS_EXCEEDED | CONVERGENCE_TIMEOUT
| HEAL_ATTEMPTS_EXHAUSTED | UNCERTAIN_OUTCOME
| other (text : String)
deriving DecidableEq, Repr

/-
  The status text of an operation, a target outcome or a
  write-ahead-log run; any other text is `other`.
-/
inductive ResultStatus where
| ACCEPTED | STARTED | PROGRESS | PROCESSING
| COMPLETED | SUCCESS | PARTIALLY_COMPLETED
| REJECTED | FAILED | ABORTED
| UNCERTAIN | UNKNOWN | TIMEOUT
| other (text : String)
deriving DecidableEq, Repr

/- The text of a status on the wire. -/
def ResultStatus.text : ResultStatus → String
| .ACCEPTED => "ACCEPTED"
| .STARTED => "STARTED"
| .PROGRESS => "PROGRESS"
| .PROCESSING => "PROCESSING"
| .COMPLETED => "COMPLETED"
| .SUCCESS => "SUCCESS"
| .PARTIALLY_COMPLETED => "PARTIALLY_COMPLETED"
| .REJECTED => "REJECTED"
| .FAILED => "FAILED"
| .ABORTED => "ABORTED"
| .UNCERTAIN => "UNCERTAIN"
| .UNKNOWN => "UNKNOWN"
| .TIMEOUT => "TIMEOUT"
| .other text => text

/- Resolution carried by a reconciliation report. -/
inductive ResolutionStatus where
| RESOLVED_COMMITTED | RESOLVED_LOST | STILL_PENDING
| other (text : String)
deriving DecidableEq, Repr

------------------------------------------------------------
-- Payloads
------------------------------------------------------------

/-
  A stake or odds value: a finite number, an infinite one,
  the not-a-number value, or a value of another type.
-/
inductive Amount where
| finite (value : Rat)
| infinite
| nan
| notNumber
deriving DecidableEq, Repr

/- A finite number strictly above a bound. -/
def Amount.exceeds
    (bound : Rat) : Amount → Bool
| .finite value => decide (bound < value)
| _ => false

/-
  The fields of a bet or cash-out payload that the boundary
  reads; the other fields travel unchanged.
-/
structure TacticalPayload where
  idempotencyKey : Option String := none
  operationId : Option String := none
  accountId : Option String := none
  targetAccounts : Option (List String) := none
  targetAccount : Option String := none
  stake : Option Amount := none
  odds : Option Amount := none
  forceRetry : Bool := false
deriving DecidableEq, Repr

/- One per-account outcome of a batch result. -/
structure TargetOutcome where
  status : ResultStatus
  targetId : Option String
deriving DecidableEq, Repr

/-
  The payload of an operation result. An element of
  `targetOutcomes` is `none` where the array holds a value
  without properties, on which reading a field throws.
-/
structure OperationResult where
  operationId : Option String := none
  status : Option ResultStatus := none
  idempotencyKey : Option String := none
  accountId : Option String := none
  targetAccounts : Option (List String) := none
  targetOutcomes :
    Option (List (Option TargetOutcome)) := none
  error : Option String := none
  code : Option ExecutionErrorCode := none
deriving DecidableEq, Repr

/- One unresolved run of a snapshot's write-ahead log. -/
structure UnresolvedRun where
  status : ResultStatus
  operationId : Option String := none
  runId : Option String := none
  accountId : Option String := none
  idempotencyKey : Option String := none
deriving DecidableEq, Repr

namespace OperationResult

/- The outcome is unknown and needs reconciliation. -/
def isUncertain (result : OperationResult) : Bool :=
  result.status == some .UNCERTAIN ||
    result.status == some .UNKNOWN ||
    result.status == some .TIMEOUT ||
    result.code == some .UNCERTAIN_OUTCOME

/- The operation was committed. -/
def isCompleted (result : OperationResult) : Bool :=
  result.status == some .COMPLETED ||
    result.status == some .SUCCESS

/- The operation failed before commitment. -/
def isFailed (result : OperationResult) : Bool :=
  result.status == some .FAILED ||
    result.status == some .ABORTED

end OperationResult

end ControlPlane
