import ControlPlane.Boundary.Coordinator

/-
  Runs of the reconciliation coordinator.

  The contract freezes an account for as long as one of its
  operations is unresolved. Freezes are kept by account and
  tasks by operation, so resolving a task lifts the freeze
  that other tasks of the same account still need. The
  invariant survives exactly the runs whose resolutions are
  each the last one of their account.

  In the other direction a freeze names the operation it
  waits for. One operation has one task, so enqueueing it
  for a second account leaves the first one without a task
  that would unfreeze it.

  Main declarations:
    * `Coordinator.Call` and `Coordinator.step`
    * `Coordinator.PendingFrozen`
    * `Coordinator.ResolvesLastOfAccount`
    * `Coordinator.pendingFrozen_throughout_iff`
    * `Coordinator.FreezesLinked`
    * `Coordinator.EnqueuesOwnAccount`
    * `Coordinator.freezesLinked_step`
-/

------------------------------------------------------------
-- Calls
------------------------------------------------------------

namespace ControlPlane

namespace Coordinator

variable {δ : Type}

open ReconciliationCoordinator

/- The mutating operations of the coordinator. -/
inductive Call (δ : Type) where
| enqueueUncertainOperation
    (now : Nat) (op : UncertainOperation δ)
| createReconcileRequest (operationId : Option String)
| handleReconciliationReport
    (report : ReconciliationReport)
| manualResolve
    (now : Nat) (operationId : Option String)
    (forcedOutcome operatorNote : String)

/- The coordinator after one call. -/
def step
    (c : ReconciliationCoordinator δ) :
    Call δ → ReconciliationCoordinator δ
| .enqueueUncertainOperation now op =>
    c.enqueueUncertainOperation now op
| .createReconcileRequest operationId =>
    (c.createReconcileRequest operationId).1
| .handleReconciliationReport report =>
    (c.handleReconciliationReport report).1
| .manualResolve now operationId outcome note =>
    (c.manualResolve now operationId outcome note).1

/- The operation a call resolves, if it is pending. -/
def Call.resolves : Call δ → Option (Option String)
| .handleReconciliationReport report =>
    (resolutionOutcome report.resolutionStatus).map
      (fun _ => report.operationId)
| .manualResolve _ operationId _ _ => some operationId
| _ => none

/- Every unresolved operation keeps its account frozen. -/
def PendingFrozen
    (c : ReconciliationCoordinator δ) : Prop :=
  ∀ operationId task account,
    c.task? operationId = some task →
      task.accountId = some account →
        account ≠ "" →
          c.isAccountFrozen account = true

/-
  When the call resolves a pending operation, no other
  pending operation names the same account.
-/
def ResolvesLastOfAccount
    (c : ReconciliationCoordinator δ)
    (call : Call δ) : Prop :=
  ∀ operationId task account,
    call.resolves = some operationId →
      c.task? operationId = some task →
        task.accountId = some account →
          account ≠ "" →
            ∀ other otherTask,
              other ≠ operationId →
                c.task? other = some otherTask →
                  otherTask.accountId ≠ some account

------------------------------------------------------------
-- One Call
------------------------------------------------------------

/-
  The effect of a call on freezes and pending accounts: it
  queues an operation, resolves one, or changes neither.
-/
inductive Effect
    (c next : ReconciliationCoordinator δ)
    (call : Call δ) : Prop
| enqueued
    (now : Nat) (op : UncertainOperation δ)
    (hCall : call = .enqueueUncertainOperation now op)
    (hNext : next = c.enqueueUncertainOperation now op)
| resolved
    (operationId : Option String)
    (task : ReconciliationTask δ)
    (hResolves : call.resolves = some operationId)
    (hTask : c.task? operationId = some task)
    (hNext : next = c.resolveTask operationId task)
| retained
    (hResolves :
      ∀ operationId, call.resolves = some operationId →
        c.task? operationId = none)
    (hFrozen : next.frozenAccounts = c.frozenAccounts)
    (hTasks :
      ∀ operationId,
        (next.task? operationId).map
            ReconciliationTask.accountId =
          (c.task? operationId).map
            ReconciliationTask.accountId)

/- Rewriting a task without its account retains accounts. -/
theorem map_accountId_set
    (c : ReconciliationCoordinator δ)
    (operationId other : Option String)
    {task changed : ReconciliationTask δ}
    (hTask : c.task? operationId = some task)
    (hAccount : changed.accountId = task.accountId) :
    (({ c with
        pendingReconciliations :=
          c.pendingReconciliations.set operationId
            changed } :
        ReconciliationCoordinator δ).task? other).map
          ReconciliationTask.accountId =
      (c.task? other).map
        ReconciliationTask.accountId := by
  unfold task? at hTask ⊢
  rw [OrderedMap.get?_set]
  by_cases hOther : other = operationId
  · rw [if_pos hOther, hOther, hTask]
    simp [hAccount]
  · rw [if_neg hOther]

theorem createReconcileRequest_effect
    (c : ReconciliationCoordinator δ)
    (operationId : Option String) :
    Effect c (c.createReconcileRequest operationId).1
      (.createReconcileRequest operationId) := by
  have hResolves :
      ∀ other : Option String,
        (Call.createReconcileRequest (δ := δ)
          operationId).resolves = some other →
            c.task? other = none := by
    intro other hSome
    cases hSome
  unfold createReconcileRequest
  cases hTask :
      c.pendingReconciliations.get? operationId with
  | none =>
      exact .retained hResolves rfl (fun _ => rfl)
  | some task =>
      exact .retained hResolves rfl
        (fun other =>
          map_accountId_set c operationId other hTask rfl)

theorem handleReconciliationReport_effect
    (c : ReconciliationCoordinator δ)
    (report : ReconciliationReport) :
    Effect c (c.handleReconciliationReport report).1
      (.handleReconciliationReport report) := by
  unfold handleReconciliationReport
  cases hTask :
      c.pendingReconciliations.get?
        report.operationId with
  | none =>
      refine .retained ?_ rfl (fun _ => rfl)
      intro operationId hSome
      have hId : report.operationId = operationId := by
        unfold Call.resolves at hSome
        rcases Option.map_eq_some_iff.mp hSome with
          ⟨_, _, hId⟩
        exact hId
      rw [← hId]
      exact hTask
  | some task =>
      cases hOutcome :
          resolutionOutcome report.resolutionStatus with
      | none =>
          refine .retained ?_ rfl
            (fun other =>
              map_accountId_set c report.operationId other
                hTask rfl)
          intro operationId hSome
          simp [Call.resolves, hOutcome] at hSome
      | some outcome =>
          apply Effect.resolved report.operationId task
          · simp [Call.resolves, hOutcome]
          · exact hTask
          · rfl

theorem manualResolve_effect
    (c : ReconciliationCoordinator δ)
    (now : Nat)
    (operationId : Option String)
    (outcome note : String) :
    Effect c (c.manualResolve now operationId outcome
        note).1
      (.manualResolve now operationId outcome note) := by
  unfold manualResolve
  cases hTask :
      c.pendingReconciliations.get? operationId with
  | none =>
      refine .retained ?_ rfl ?_
      · intro other hSome
        have hId : operationId = other :=
          Option.some.inj hSome
        rw [← hId]
        exact hTask
      · intro other
        unfold task?
        rw [OrderedMap.get?_delete]
        by_cases hOther : other = operationId
        · rw [if_pos hOther, hOther, hTask]
        · rw [if_neg hOther]
  | some task =>
      exact .resolved operationId task rfl hTask rfl

/- What one call can do. -/
theorem step_effect
    (c : ReconciliationCoordinator δ)
    (call : Call δ) :
    Effect c (step c call) call := by
  cases call with
  | enqueueUncertainOperation now op =>
      exact .enqueued now op rfl rfl
  | createReconcileRequest operationId =>
      exact createReconcileRequest_effect c operationId
  | handleReconciliationReport report =>
      exact handleReconciliationReport_effect c report
  | manualResolve now operationId outcome note =>
      exact manualResolve_effect c now operationId outcome
        note

------------------------------------------------------------
-- Unresolved Operations Keep Their Account Frozen
------------------------------------------------------------

/- Queueing an operation keeps the invariant. -/
theorem pendingFrozen_enqueue
    (c : ReconciliationCoordinator δ)
    (now : Nat)
    (op : UncertainOperation δ)
    (hInv : PendingFrozen c) :
    PendingFrozen (c.enqueueUncertainOperation now op) := by
  intro operationId task account hTask hAccount hNonempty
  rw [isAccountFrozen_enqueue]
  rw [task?_enqueue] at hTask
  by_cases hId : operationId = op.operationId
  · rw [if_pos hId] at hTask
    have hQueued : queuedTask now op = task :=
      Option.some.inj hTask
    rw [← hQueued] at hAccount
    exact Or.inl ⟨hAccount, hNonempty⟩
  · rw [if_neg hId] at hTask
    exact Or.inr
      (hInv operationId task account hTask hAccount
        hNonempty)

/-
  Resolving a task keeps the invariant exactly when no other
  task names its account.
-/
theorem pendingFrozen_resolveTask_iff
    (c : ReconciliationCoordinator δ)
    (operationId : Option String)
    (task : ReconciliationTask δ)
    (hInv : PendingFrozen c) :
    PendingFrozen (c.resolveTask operationId task) ↔
      ∀ account, task.accountId = some account →
        account ≠ "" →
          ∀ other otherTask,
            other ≠ operationId →
              c.task? other = some otherTask →
                otherTask.accountId ≠ some account := by
  constructor
  · intro hNext account hAccount hNonempty other otherTask
      hOther hTask hSame
    have hPending :
        (c.resolveTask operationId task).task? other =
          some otherTask := by
      rw [task?_resolveTask, if_neg hOther]
      exact hTask
    have hFrozen :=
      hNext other otherTask account hPending hSame
        hNonempty
    rw [isAccountFrozen_resolveTask] at hFrozen
    exact hFrozen.1 ⟨hAccount, hNonempty⟩
  · intro hLast other otherTask account hPending hAccount
      hNonempty
    rw [task?_resolveTask] at hPending
    by_cases hOther : other = operationId
    · rw [if_pos hOther] at hPending
      cases hPending
    · rw [if_neg hOther] at hPending
      rw [isAccountFrozen_resolveTask]
      refine ⟨?_, hInv other otherTask account hPending
        hAccount hNonempty⟩
      rintro ⟨hSame, _⟩
      exact hLast account hSame hNonempty other otherTask
        hOther hPending hAccount

/- Keeping freezes and pending accounts keeps both ways. -/
theorem pendingFrozen_of_retained
    {c next : ReconciliationCoordinator δ}
    (hFrozen : next.frozenAccounts = c.frozenAccounts)
    (hTasks :
      ∀ operationId,
        (next.task? operationId).map
            ReconciliationTask.accountId =
          (c.task? operationId).map
            ReconciliationTask.accountId)
    (hInv : PendingFrozen c) :
    PendingFrozen next := by
  intro operationId task account hTask hAccount hNonempty
  have hMapped :
      (c.task? operationId).map
          ReconciliationTask.accountId =
        some (some account) := by
    rw [← hTasks operationId, hTask, ← hAccount]
    rfl
  rcases Option.map_eq_some_iff.mp hMapped with
    ⟨old, hOld, hOldAccount⟩
  have hFrozenBefore :=
    hInv operationId old account hOld hOldAccount hNonempty
  unfold isAccountFrozen at hFrozenBefore ⊢
  rw [hFrozen]
  exact hFrozenBefore

/- One call keeps the invariant exactly when admissible. -/
theorem pendingFrozen_step_iff
    (c : ReconciliationCoordinator δ)
    (call : Call δ)
    (hInv : PendingFrozen c) :
    PendingFrozen (step c call) ↔
      ResolvesLastOfAccount c call := by
  rcases step_effect c call with
    ⟨now, op, hCall, hNext⟩ |
    ⟨operationId, task, hResolves, hTask, hNext⟩ |
    ⟨hResolves, hFrozen, hTasks⟩
  · rw [hNext]
    constructor
    · intro _ operationId task account hSome
      rw [hCall] at hSome
      cases hSome
    · intro _
      exact pendingFrozen_enqueue c now op hInv
  · rw [hNext, pendingFrozen_resolveTask_iff _ _ _ hInv]
    constructor
    · intro hLast other otherTask account hSome hOther
      have hId : operationId = other :=
        Option.some.inj (hResolves.symm.trans hSome)
      subst hId
      have hSame : task = otherTask :=
        Option.some.inj (hTask.symm.trans hOther)
      subst hSame
      exact hLast account
    · intro hLast account
      exact hLast operationId task account hResolves hTask
  · constructor
    · intro _ operationId task account hSome hTask
      rw [hResolves operationId hSome] at hTask
      cases hTask
    · intro _
      exact pendingFrozen_of_retained hFrozen hTasks hInv

theorem pendingFrozen_fresh :
    PendingFrozen
      (fresh : ReconciliationCoordinator δ) := by
  intro operationId task account hTask
  cases hTask

/-
  Along a run of the coordinator every unresolved operation
  keeps its account frozen exactly when each resolution is
  the last one of its account.
-/
theorem pendingFrozen_throughout_iff
    (calls : List (Call δ)) :
    Throughout step PendingFrozen fresh calls ↔
      Along step ResolvesLastOfAccount fresh calls :=
  throughout_iff_along pendingFrozen_step_iff calls
    pendingFrozen_fresh

/- Two operations on one account, the first one resolved. -/
def overlappingCalls : List (Call Unit) :=
  [ .enqueueUncertainOperation 1
      { operationId := some "op_1"
        accountId := some "acc_1" },
    .enqueueUncertainOperation 2
      { operationId := some "op_2"
        accountId := some "acc_1" },
    .handleReconciliationReport
      { operationId := some "op_1"
        resolutionStatus := some .RESOLVED_COMMITTED } ]

/- The second operation is pending, its account is not
frozen. -/
theorem overlappingCalls_not_pendingFrozen :
    ¬ PendingFrozen
      (run step fresh overlappingCalls) := by
  intro hInv
  have hFrozen :=
    hInv (some "op_2")
      (queuedTask 2
        { operationId := some "op_2"
          accountId := some "acc_1" })
      "acc_1" (by decide) rfl (by decide)
  revert hFrozen
  decide

------------------------------------------------------------
-- Freezes And The Operations They Name
------------------------------------------------------------

/-
  Resolving the operation, by a final report or by hand,
  unfreezes the account.
-/
def Unfreezes
    (c : ReconciliationCoordinator δ)
    (operationId : Option String)
    (account : String) : Prop :=
  (∀ report : ReconciliationReport,
      report.operationId = operationId →
        (resolutionOutcome
          report.resolutionStatus).isSome = true →
          (c.handleReconciliationReport
            report).1.isAccountFrozen account = false) ∧
    ∀ now outcome note,
      (c.manualResolve now operationId outcome
        note).1.isAccountFrozen account = false

/- Some pending operation unfreezes every frozen account. -/
def NoOrphanFreeze
    (c : ReconciliationCoordinator δ) : Prop :=
  ∀ account, c.isAccountFrozen account = true →
    ∃ operationId task,
      c.task? operationId = some task ∧
        Unfreezes c operationId account

/-
  Resolving a pending operation unfreezes every account
  whose freeze names it.
-/
def ResolvesItsFreezes
    (c : ReconciliationCoordinator δ) : Prop :=
  ∀ account record task,
    c.freeze? account = some record →
      c.task? record.operationId = some task →
        Unfreezes c record.operationId account

/-
  Every freeze names a pending operation whose task names
  the frozen account.
-/
def FreezesLinked
    (c : ReconciliationCoordinator δ) : Prop :=
  ∀ account record,
    c.freeze? account = some record →
      account ≠ "" ∧
        ∃ task,
          c.task? record.operationId = some task ∧
            task.accountId = some account

/-
  An operation is enqueued again only for the account that
  is frozen under its id.
-/
def EnqueuesOwnAccount
    (c : ReconciliationCoordinator δ) : Call δ → Prop
| .enqueueUncertainOperation _ op =>
    ∀ account record,
      c.freeze? account = some record →
        record.operationId = op.operationId →
          op.accountId = some account
| _ => True

theorem isAccountFrozen_iff_freeze?
    (c : ReconciliationCoordinator δ)
    (account : String) :
    c.isAccountFrozen account = true ↔
      ∃ record, c.freeze? account = some record :=
  Option.isSome_iff_exists

/- A pending task unfreezes the account it names. -/
theorem unfreezes_of_task
    {c : ReconciliationCoordinator δ}
    {operationId : Option String}
    {task : ReconciliationTask δ}
    {account : String}
    (hTask : c.task? operationId = some task)
    (hAccount : task.accountId = some account)
    (hNonempty : account ≠ "") :
    Unfreezes c operationId account := by
  have hResolved :
      (c.resolveTask operationId task).isAccountFrozen
        account = false := by
    rw [Bool.eq_false_iff, Ne,
      isAccountFrozen_resolveTask]
    rintro ⟨hOther, _⟩
    exact hOther ⟨hAccount, hNonempty⟩
  unfold task? at hTask
  constructor
  · rintro report rfl hFinal
    rcases Option.isSome_iff_exists.mp hFinal with
      ⟨outcome, hOutcome⟩
    unfold handleReconciliationReport
    rw [hTask]
    dsimp only
    rw [hOutcome]
    exact hResolved
  · intro now outcome note
    unfold manualResolve
    rw [hTask]
    exact hResolved

theorem FreezesLinked.noOrphanFreeze
    {c : ReconciliationCoordinator δ}
    (hLinked : FreezesLinked c) :
    NoOrphanFreeze c := by
  intro account hFrozen
  rcases (isAccountFrozen_iff_freeze? c account).mp
      hFrozen with ⟨record, hRecord⟩
  rcases hLinked account record hRecord with
    ⟨hNonempty, task, hTask, hAccount⟩
  exact ⟨record.operationId, task, hTask,
    unfreezes_of_task hTask hAccount hNonempty⟩

theorem FreezesLinked.resolvesItsFreezes
    {c : ReconciliationCoordinator δ}
    (hLinked : FreezesLinked c) :
    ResolvesItsFreezes c := by
  intro account record task hRecord hTask
  rcases hLinked account record hRecord with
    ⟨hNonempty, linked, hLinkedTask, hAccount⟩
  exact unfreezes_of_task hLinkedTask hAccount hNonempty

theorem freezesLinked_enqueue
    (c : ReconciliationCoordinator δ)
    (now : Nat)
    (op : UncertainOperation δ)
    (hLinked : FreezesLinked c)
    (hOwn :
      ∀ account record,
        c.freeze? account = some record →
          record.operationId = op.operationId →
            op.accountId = some account) :
    FreezesLinked (c.enqueueUncertainOperation now op) := by
  intro account record hRecord
  rw [freeze?_enqueue] at hRecord
  by_cases hSame : op.accountId = some account ∧ account ≠ ""
  · rw [if_pos hSame] at hRecord
    have hNew := Option.some.inj hRecord
    refine ⟨hSame.2, queuedTask now op, ?_, hSame.1⟩
    rw [← hNew, task?_enqueue, if_pos rfl]
  · rw [if_neg hSame] at hRecord
    rcases hLinked account record hRecord with
      ⟨hNonempty, task, hTask, hAccount⟩
    refine ⟨hNonempty, task, ?_, hAccount⟩
    rw [task?_enqueue, if_neg]
    · exact hTask
    · intro hId
      exact hSame ⟨hOwn account record hRecord hId, hNonempty⟩

theorem freezesLinked_resolveTask
    (c : ReconciliationCoordinator δ)
    (operationId : Option String)
    (task : ReconciliationTask δ)
    (hTask : c.task? operationId = some task)
    (hLinked : FreezesLinked c) :
    FreezesLinked (c.resolveTask operationId task) := by
  intro account record hRecord
  rw [freeze?_resolveTask] at hRecord
  by_cases hSame :
      task.accountId = some account ∧ account ≠ ""
  · rw [if_pos hSame] at hRecord
    cases hRecord
  · rw [if_neg hSame] at hRecord
    rcases hLinked account record hRecord with
      ⟨hNonempty, linked, hLinkedTask, hAccount⟩
    refine ⟨hNonempty, linked, ?_, hAccount⟩
    rw [task?_resolveTask, if_neg]
    · exact hLinkedTask
    · intro hId
      rw [hId, hTask] at hLinkedTask
      have hTasks := Option.some.inj hLinkedTask
      rw [← hTasks] at hAccount
      exact hSame ⟨hAccount, hNonempty⟩

theorem freezesLinked_of_retained
    {c next : ReconciliationCoordinator δ}
    (hFrozen : next.frozenAccounts = c.frozenAccounts)
    (hTasks :
      ∀ operationId,
        (next.task? operationId).map
            ReconciliationTask.accountId =
          (c.task? operationId).map
            ReconciliationTask.accountId)
    (hLinked : FreezesLinked c) :
    FreezesLinked next := by
  intro account record hRecord
  unfold freeze? at hRecord
  rw [hFrozen] at hRecord
  rcases hLinked account record hRecord with
    ⟨hNonempty, task, hTask, hAccount⟩
  have hMapped :
      (next.task? record.operationId).map
          ReconciliationTask.accountId =
        some (some account) := by
    rw [hTasks, hTask, ← hAccount]
    rfl
  rcases Option.map_eq_some_iff.mp hMapped with
    ⟨kept, hKept, hKeptAccount⟩
  exact ⟨hNonempty, kept, hKept, hKeptAccount⟩

/- One call keeps every freeze linked to its operation. -/
theorem freezesLinked_step
    (c : ReconciliationCoordinator δ)
    (call : Call δ)
    (hLinked : FreezesLinked c)
    (hOwn : EnqueuesOwnAccount c call) :
    FreezesLinked (step c call) := by
  rcases step_effect c call with
    ⟨now, op, hCall, hNext⟩ |
    ⟨operationId, task, _, hTask, hNext⟩ |
    ⟨_, hFrozen, hTasks⟩
  · rw [hCall] at hOwn
    rw [hNext]
    exact freezesLinked_enqueue c now op hLinked hOwn
  · rw [hNext]
    exact freezesLinked_resolveTask c operationId task hTask
      hLinked
  · exact freezesLinked_of_retained hFrozen hTasks hLinked

theorem freezesLinked_fresh :
    FreezesLinked
      (fresh : ReconciliationCoordinator δ) := by
  intro account record hRecord
  cases hRecord

end Coordinator

end ControlPlane
