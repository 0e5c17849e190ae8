import ControlPlane.Data.OrderedMap
import ControlPlane.Data.Run
import ControlPlane.Boundary.Protocol

/-
  The reconciliation coordinator.

  Freezes are kept by account, pending reconciliations by
  operation id. An operation id is an `Option`: a snapshot
  run may carry neither an operation id nor a run id, and is
  then stored under the absent key.

  Main declarations:
    * `ReconciliationCoordinator` and its operations
    * the lookup laws of tasks and freezes
-/

------------------------------------------------------------
-- State
------------------------------------------------------------

namespace ControlPlane

/-
  Progress of a reconciliation task. A task that is taken up
  from storage has the text that was stored.
-/
inductive TaskStatus where
| QUEUED | IN_PROGRESS | PENDING_RETRY
| other (text : String)
deriving DecidableEq, Repr

/- Outcome of a resolved reconciliation. -/
inductive ResolutionOutcome where
| COMPLETED | FAILED
deriving DecidableEq, Repr

/- Why and for which operation an account is frozen. -/
structure FrozenRecord where
  accountId : String
  operationId : Option String
  idempotencyKey : String
  frozenAt : Nat
  reason : String
deriving DecidableEq, Repr

/- An operation awaiting out-of-band reconciliation. -/
structure ReconciliationTask (δ : Type) where
  operationId : Option String
  accountId : Option String
  idempotencyKey : String
  status : TaskStatus
  enqueuedAt : Nat
  attempts : Nat
  details : Option δ
deriving DecidableEq, Repr

/- Parameters of `enqueueUncertainOperation`. -/
structure UncertainOperation (δ : Type) where
  operationId : Option String
  accountId : Option String
  idempotencyKey : String := ""
  reason : String := "TRANSACTION_UNCERTAIN"
  details : Option δ := none
deriving DecidableEq, Repr

/- Payload of a reconcile-order envelope. -/
structure ReconcileRequest (δ : Type) where
  operationId : Option String
  accountId : Option String
  idempotencyKey : String
  attempts : Nat
  details : Option δ
deriving DecidableEq, Repr

/- The fields of a reconciliation report that are read. -/
structure ReconciliationReport where
  operationId : Option String
  resolutionStatus : Option ResolutionStatus
deriving DecidableEq, Repr

/- Record of an administrative resolution. -/
structure ManualResolution where
  operationId : Option String
  outcome : String
  operatorNote : String
  resolvedAt : Nat
deriving DecidableEq, Repr

/- Answer to a reconciliation report. -/
inductive ReportReply where
| unhandled
| resolved (outcome : ResolutionOutcome)
| pendingRetry
deriving DecidableEq, Repr

structure ReconciliationCoordinator (δ : Type) where
  frozenAccounts : OrderedMap String FrozenRecord
  pendingReconciliations :
    OrderedMap (Option String) (ReconciliationTask δ)

namespace ReconciliationCoordinator

variable {δ : Type}

/- The coordinator of a new process without persistence. -/
def fresh : ReconciliationCoordinator δ where
  frozenAccounts := OrderedMap.empty
  pendingReconciliations := OrderedMap.empty

------------------------------------------------------------
-- Operations
------------------------------------------------------------

/- Freeze an account; a missing account is ignored. -/
def freezeAccount
    (c : ReconciliationCoordinator δ)
    (now : Nat)
    (accountId operationId : Option String)
    (idempotencyKey reason : String) :
    ReconciliationCoordinator δ :=
  match accountId with
  | none => c
  | some account =>
      if account = "" then
        c
      else
        { c with
            frozenAccounts :=
              c.frozenAccounts.set account
                { accountId := account
                  operationId := operationId
                  idempotencyKey := idempotencyKey
                  frozenAt := now
                  reason := reason } }

/- Unfreeze an account; a missing account is ignored. -/
def unfreezeAccount
    (c : ReconciliationCoordinator δ)
    (accountId : Option String) :
    ReconciliationCoordinator δ :=
  match accountId with
  | none => c
  | some account =>
      if account = "" then
        c
      else
        { c with
            frozenAccounts :=
              c.frozenAccounts.delete account }

def isAccountFrozen
    (c : ReconciliationCoordinator δ)
    (account : String) : Bool :=
  c.frozenAccounts.has account

/-
  Freeze the account of an uncertain operation and queue the
  operation, replacing any task queued under its id.
-/
def enqueueUncertainOperation
    (c : ReconciliationCoordinator δ)
    (now : Nat)
    (op : UncertainOperation δ) :
    ReconciliationCoordinator δ :=
  let frozen :=
    c.freezeAccount now op.accountId op.operationId
      op.idempotencyKey op.reason
  { frozen with
      pendingReconciliations :=
        frozen.pendingReconciliations.set op.operationId
          { operationId := op.operationId
            accountId := op.accountId
            idempotencyKey := op.idempotencyKey
            status := .QUEUED
            enqueuedAt := now
            attempts := 0
            details := op.details } }

/- Start one reconciliation attempt of a pending task. -/
def createReconcileRequest
    (c : ReconciliationCoordinator δ)
    (operationId : Option String) :
    ReconciliationCoordinator δ ×
      Option (ReconcileRequest δ) :=
  match c.pendingReconciliations.get? operationId with
  | none => (c, none)
  | some task =>
      ({ c with
          pendingReconciliations :=
            c.pendingReconciliations.set operationId
              { task with
                  status := .IN_PROGRESS
                  attempts := task.attempts + 1 } },
        some
          { operationId := task.operationId
            accountId := task.accountId
            idempotencyKey := task.idempotencyKey
            attempts := task.attempts + 1
            details := task.details })

/- Drop a task and unfreeze the account it names. -/
def resolveTask
    (c : ReconciliationCoordinator δ)
    (operationId : Option String)
    (task : ReconciliationTask δ) :
    ReconciliationCoordinator δ :=
  let unfrozen := c.unfreezeAccount task.accountId
  { unfrozen with
      pendingReconciliations :=
        unfrozen.pendingReconciliations.delete
          operationId }

/- The outcome a report resolves its operation to. -/
def resolutionOutcome :
    Option ResolutionStatus → Option ResolutionOutcome
| some .RESOLVED_COMMITTED => some .COMPLETED
| some .RESOLVED_LOST => some .FAILED
| _ => none

/-
  Process a report of the Execution Plane. A report without
  a final resolution leaves the task queued for a retry.
-/
def handleReconciliationReport
    (c : ReconciliationCoordinator δ)
    (report : ReconciliationReport) :
    ReconciliationCoordinator δ × ReportReply :=
  match c.pendingReconciliations.get?
      report.operationId with
  | none => (c, .unhandled)
  | some task =>
      match resolutionOutcome report.resolutionStatus with
      | some outcome =>
          (c.resolveTask report.operationId task,
            .resolved outcome)
      | none =>
          ({ c with
              pendingReconciliations :=
                c.pendingReconciliations.set
                  report.operationId
                  { task with status := .PENDING_RETRY } },
            .pendingRetry)

/- Administrative override of a stuck operation. -/
def manualResolve
    (c : ReconciliationCoordinator δ)
    (now : Nat)
    (operationId : Option String)
    (forcedOutcome operatorNote : String) :
    ReconciliationCoordinator δ × ManualResolution :=
  (match c.pendingReconciliations.get? operationId with
    | some task => c.resolveTask operationId task
    | none =>
        { c with
            pendingReconciliations :=
              c.pendingReconciliations.delete
                operationId },
    { operationId := operationId
      outcome := forcedOutcome
      operatorNote := operatorNote
      resolvedAt := now })

end ReconciliationCoordinator

------------------------------------------------------------
-- Lookup Laws
------------------------------------------------------------

namespace ReconciliationCoordinator

variable {δ : Type}

/- The task pending under an operation id. -/
def task?
    (c : ReconciliationCoordinator δ)
    (operationId : Option String) :
    Option (ReconciliationTask δ) :=
  c.pendingReconciliations.get? operationId

/- The freeze of an account. -/
def freeze?
    (c : ReconciliationCoordinator δ)
    (account : String) : Option FrozenRecord :=
  c.frozenAccounts.get? account

@[simp] theorem task?_freezeAccount
    (c : ReconciliationCoordinator δ)
    (now : Nat)
    (accountId operationId : Option String)
    (idempotencyKey reason : String)
    (other : Option String) :
    (c.freezeAccount now accountId operationId
      idempotencyKey reason).task? other =
      c.task? other := by
  unfold freezeAccount task?
  split
  · rfl
  · split <;> rfl

@[simp] theorem task?_unfreezeAccount
    (c : ReconciliationCoordinator δ)
    (accountId other : Option String) :
    (c.unfreezeAccount accountId).task? other =
      c.task? other := by
  unfold unfreezeAccount task?
  split
  · rfl
  · split <;> rfl

theorem isAccountFrozen_freezeAccount
    (c : ReconciliationCoordinator δ)
    (now : Nat)
    (accountId operationId : Option String)
    (idempotencyKey reason account : String) :
    (c.freezeAccount now accountId operationId
        idempotencyKey reason).isAccountFrozen account =
        true ↔
      (accountId = some account ∧ account ≠ "") ∨
        c.isAccountFrozen account = true := by
  unfold freezeAccount isAccountFrozen
  cases accountId with
  | none => simp
  | some frozen =>
      by_cases hEmpty : frozen = ""
      · subst hEmpty
        simp only [if_true, Option.some.injEq]
        constructor
        · exact Or.inr
        · rintro (⟨hEq, hNe⟩ | hFrozen)
          · exact absurd hEq.symm hNe
          · exact hFrozen
      · simp only [if_neg hEmpty, OrderedMap.has_set,
          Bool.or_eq_true, decide_eq_true_eq,
          Option.some.injEq]
        constructor
        · rintro (hEq | hFrozen)
          · exact Or.inl ⟨hEq.symm, hEq ▸ hEmpty⟩
          · exact Or.inr hFrozen
        · rintro (⟨hEq, _⟩ | hFrozen)
          · exact Or.inl hEq.symm
          · exact Or.inr hFrozen

theorem isAccountFrozen_unfreezeAccount
    (c : ReconciliationCoordinator δ)
    (accountId : Option String)
    (account : String) :
    (c.unfreezeAccount accountId).isAccountFrozen
        account = true ↔
      ¬ (accountId = some account ∧ account ≠ "") ∧
        c.isAccountFrozen account = true := by
  unfold unfreezeAccount isAccountFrozen
  cases accountId with
  | none => simp
  | some unfrozen =>
      by_cases hEmpty : unfrozen = ""
      · subst hEmpty
        simp only [if_true, Option.some.injEq]
        constructor
        · intro hFrozen
          exact ⟨fun h => h.2 h.1.symm, hFrozen⟩
        · exact fun h => h.2
      · simp only [if_neg hEmpty, OrderedMap.has_delete,
          Bool.and_eq_true, Bool.not_eq_true',
          decide_eq_false_iff_not, Option.some.injEq]
        constructor
        · rintro ⟨hNe, hFrozen⟩
          exact ⟨fun h => hNe h.1.symm, hFrozen⟩
        · rintro ⟨hNe, hFrozen⟩
          exact
            ⟨fun hEq => hNe ⟨hEq.symm, hEq ▸ hEmpty⟩,
              hFrozen⟩

/- The task an enqueued operation leaves in the queue. -/
def queuedTask
    (now : Nat)
    (op : UncertainOperation δ) :
    ReconciliationTask δ where
  operationId := op.operationId
  accountId := op.accountId
  idempotencyKey := op.idempotencyKey
  status := .QUEUED
  enqueuedAt := now
  attempts := 0
  details := op.details

theorem task?_enqueue
    (c : ReconciliationCoordinator δ)
    (now : Nat)
    (op : UncertainOperation δ)
    (other : Option String) :
    (c.enqueueUncertainOperation now op).task? other =
      if other = op.operationId then
        some (queuedTask now op)
      else
        c.task? other := by
  have hFrozen :=
    c.task?_freezeAccount now op.accountId op.operationId
      op.idempotencyKey op.reason other
  unfold task? at hFrozen
  unfold enqueueUncertainOperation task?
  simp only [OrderedMap.get?_set, hFrozen]
  rfl

theorem isAccountFrozen_enqueue
    (c : ReconciliationCoordinator δ)
    (now : Nat)
    (op : UncertainOperation δ)
    (account : String) :
    (c.enqueueUncertainOperation now op).isAccountFrozen
        account = true ↔
      (op.accountId = some account ∧ account ≠ "") ∨
        c.isAccountFrozen account = true :=
  c.isAccountFrozen_freezeAccount now op.accountId
    op.operationId op.idempotencyKey op.reason account

theorem task?_resolveTask
    (c : ReconciliationCoordinator δ)
    (operationId other : Option String)
    (task : ReconciliationTask δ) :
    (c.resolveTask operationId task).task? other =
      if other = operationId then none
      else c.task? other := by
  have hUnfrozen :=
    c.task?_unfreezeAccount task.accountId other
  unfold task? at hUnfrozen
  unfold resolveTask task?
  simp only [OrderedMap.get?_delete, hUnfrozen]

theorem isAccountFrozen_resolveTask
    (c : ReconciliationCoordinator δ)
    (operationId : Option String)
    (task : ReconciliationTask δ)
    (account : String) :
    (c.resolveTask operationId task).isAccountFrozen
        account = true ↔
      ¬ (task.accountId = some account ∧ account ≠ "") ∧
        c.isAccountFrozen account = true :=
  c.isAccountFrozen_unfreezeAccount task.accountId account

/- The freeze an enqueued operation leaves on accounts. -/
theorem freeze?_enqueue
    (c : ReconciliationCoordinator δ)
    (now : Nat)
    (op : UncertainOperation δ)
    (account : String) :
    (c.enqueueUncertainOperation now op).freeze? account =
      if op.accountId = some account ∧ account ≠ "" then
        some
          { accountId := account
            operationId := op.operationId
            idempotencyKey := op.idempotencyKey
            frozenAt := now
            reason := op.reason }
      else
        c.freeze? account := by
  unfold enqueueUncertainOperation freezeAccount freeze?
  dsimp only
  cases hAccount : op.accountId with
  | none => simp
  | some frozen =>
      dsimp only
      by_cases hEmpty : frozen = ""
      · subst hEmpty
        rw [if_pos rfl, if_neg]
        rintro ⟨hEq, hNonempty⟩
        exact hNonempty (Option.some.inj hEq).symm
      · rw [if_neg hEmpty]
        by_cases hSame : frozen = account
        · subst hSame
          rw [if_pos ⟨rfl, hEmpty⟩]
          exact OrderedMap.get?_set_self _ _ _
        · have hNe : account ≠ frozen := fun h => hSame h.symm
          rw [if_neg]
          · exact OrderedMap.get?_set_of_ne _ _ hNe
          · rintro ⟨hEq, _⟩
            exact hSame (Option.some.inj hEq)

/- The freezes after a task is resolved. -/
theorem freeze?_resolveTask
    (c : ReconciliationCoordinator δ)
    (operationId : Option String)
    (task : ReconciliationTask δ)
    (account : String) :
    (c.resolveTask operationId task).freeze? account =
      if task.accountId = some account ∧ account ≠ "" then
        none
      else
        c.freeze? account := by
  unfold resolveTask unfreezeAccount freeze?
  dsimp only
  cases hAccount : task.accountId with
  | none => simp
  | some unfrozen =>
      dsimp only
      by_cases hEmpty : unfrozen = ""
      · subst hEmpty
        rw [if_pos rfl, if_neg]
        rintro ⟨hEq, hNonempty⟩
        exact hNonempty (Option.some.inj hEq).symm
      · rw [if_neg hEmpty]
        dsimp only
        rw [OrderedMap.get?_delete]
        by_cases hSame : account = unfrozen
        · rw [if_pos hSame, if_pos]
          exact ⟨congrArg some hSame.symm, hSame ▸ hEmpty⟩
        · rw [if_neg hSame, if_neg]
          rintro ⟨hEq, _⟩
          exact hSame (Option.some.inj hEq).symm

end ReconciliationCoordinator

end ControlPlane
