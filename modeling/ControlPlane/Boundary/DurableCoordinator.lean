import ControlPlane.Data.Table
import ControlPlane.Boundary.CoordinatorRuns
import ControlPlane.Boundary.Inbound

/-
  The reconciliation coordinator on a storage engine.

  Freezes and tasks are also rows of two tables, and a
  coordinator that is built on the tables takes up every
  freeze and every task whose status is not final. The
  tables are stricter than the maps: a freeze needs an
  operation id and a task an account id, and a row that the
  engine refuses is lost without a word. A missing value is
  bound as null.

  Main declarations:
    * `DurableCoordinator` and `DurableCoordinator.step`
    * `DurableCoordinator.SurvivesCrash`
    * `DurableCoordinator.Stored`
    * `DurableCoordinator.survives_crash`
-/

------------------------------------------------------------
-- Rows
------------------------------------------------------------

namespace ControlPlane

namespace TaskStatus

def text : TaskStatus → String
| .QUEUED => "QUEUED"
| .IN_PROGRESS => "IN_PROGRESS"
| .PENDING_RETRY => "PENDING_RETRY"
| .other text => text

/- The status that a stored text is read as. -/
def ofText (text : String) : TaskStatus :=
  if text = "QUEUED" then .QUEUED
  else if text = "IN_PROGRESS" then .IN_PROGRESS
  else if text = "PENDING_RETRY" then .PENDING_RETRY
  else .other text

end TaskStatus

def ResolutionOutcome.text : ResolutionOutcome → String
| .COMPLETED => "COMPLETED"
| .FAILED => "FAILED"

/- A row of `frozen_accounts`. -/
structure FreezeRow where
  accountId : String
  operationId : String
  idempotencyKey : String
  frozenAt : Nat
  reason : String

/- The columns of `reconciliation_queue` that are read. -/
structure QueueRow (δ : Type) where
  operationId : Option String
  accountId : String
  idempotencyKey : String
  status : String
  enqueuedAt : Nat
  attempts : Nat
  detailsJson : Option δ

namespace FreezeRow

def key (row : FreezeRow) : Option String :=
  some row.accountId

/- The freeze that a new coordinator makes of a row. -/
def record (row : FreezeRow) : FrozenRecord where
  accountId := row.accountId
  operationId := some row.operationId
  idempotencyKey := row.idempotencyKey
  frozenAt := row.frozenAt
  reason := row.reason

end FreezeRow

namespace QueueRow

variable {δ : Type}

/- The task that a new coordinator makes of a row. -/
def task (row : QueueRow δ) : ReconciliationTask δ where
  operationId := row.operationId
  accountId := some row.accountId
  idempotencyKey := row.idempotencyKey
  status := TaskStatus.ofText row.status
  enqueuedAt := row.enqueuedAt
  attempts := row.attempts
  details := row.detailsJson

/- The operation has not been completed or failed. -/
def unresolved (row : QueueRow δ) : Bool :=
  decide (row.status ≠ "COMPLETED" ∧ row.status ≠ "FAILED")

end QueueRow

------------------------------------------------------------
-- Operations
------------------------------------------------------------

/- The coordinator in memory and its tables. -/
structure DurableCoordinator (δ : Type) where
  memory : ReconciliationCoordinator δ
  frozen : Table FreezeRow String FreezeRow.key
  queue : Table (QueueRow δ) String QueueRow.operationId

namespace DurableCoordinator

variable {δ : Type}

/- A coordinator on empty tables. -/
def fresh : DurableCoordinator δ where
  memory := ReconciliationCoordinator.fresh
  frozen := Table.empty
  queue := Table.empty

/- A freeze without an operation id is refused. -/
def insertFreeze
    (frozen : Table FreezeRow String FreezeRow.key)
    (now : Nat)
    (op : UncertainOperation δ) :
    Table FreezeRow String FreezeRow.key :=
  match op.accountId, op.operationId with
  | some account, some operationId =>
      if account = "" then
        frozen
      else
        frozen.insertOrReplace
          { accountId := account
            operationId := operationId
            idempotencyKey := op.idempotencyKey
            frozenAt := now
            reason := op.reason }
  | _, _ => frozen

/- A task without an account id is refused. -/
def insertTask
    (queue : Table (QueueRow δ) String QueueRow.operationId)
    (now : Nat)
    (op : UncertainOperation δ) :
    Table (QueueRow δ) String QueueRow.operationId :=
  match op.accountId with
  | some account =>
      queue.insertOrReplace
        { operationId := op.operationId
          accountId := account
          idempotencyKey := op.idempotencyKey
          status := TaskStatus.QUEUED.text
          enqueuedAt := now
          attempts := 0
          detailsJson := op.details }
  | none => queue

/- The rows after the account of a task is unfrozen. -/
def deleteFreeze
    (d : DurableCoordinator δ)
    (accountId : Option String) :
    Table FreezeRow String FreezeRow.key :=
  match accountId with
  | some account =>
      if account ≠ "" ∧
          d.memory.isAccountFrozen account = true then
        d.frozen.deleteWhere
          (fun row => decide (row.accountId = account))
      else
        d.frozen
  | none => d.frozen

/- Write a status to the row of an operation. -/
def writeStatus
    (d : DurableCoordinator δ)
    (operationId : Option String)
    (status : String) :
    Table (QueueRow δ) String QueueRow.operationId :=
  d.queue.updateKey operationId
    (fun row => { row with status := status })
    (fun _ => rfl)

/- Write a status and the number of attempts. -/
def writeProgress
    (d : DurableCoordinator δ)
    (operationId : Option String)
    (status : TaskStatus)
    (attempts : Nat) :
    Table (QueueRow δ) String QueueRow.operationId :=
  d.queue.updateKey operationId
    (fun row =>
      { row with status := status.text, attempts := attempts })
    (fun _ => rfl)

/- The tables after a call. -/
def persist
    (d : DurableCoordinator δ) :
    Coordinator.Call δ →
      Table FreezeRow String FreezeRow.key ×
        Table (QueueRow δ) String QueueRow.operationId
| .enqueueUncertainOperation now op =>
    (insertFreeze d.frozen now op, insertTask d.queue now op)
| .createReconcileRequest operationId =>
    match d.memory.task? operationId with
    | some task =>
        (d.frozen,
          d.writeProgress operationId .IN_PROGRESS
            (task.attempts + 1))
    | none => (d.frozen, d.queue)
| .handleReconciliationReport report =>
    match d.memory.task? report.operationId with
    | some task =>
        match ReconciliationCoordinator.resolutionOutcome
            report.resolutionStatus with
        | some outcome =>
            (d.deleteFreeze task.accountId,
              d.writeStatus report.operationId outcome.text)
        | none =>
            (d.frozen,
              d.writeProgress report.operationId
                .PENDING_RETRY task.attempts)
    | none => (d.frozen, d.queue)
| .manualResolve _ operationId forcedOutcome _ =>
    (match d.memory.task? operationId with
      | some task => d.deleteFreeze task.accountId
      | none => d.frozen,
      d.writeStatus operationId forcedOutcome)

/- A new coordinator on the same tables. -/
def reopen
    (d : DurableCoordinator δ) : DurableCoordinator δ :=
  { d with
      memory :=
        { frozenAccounts :=
            OrderedMap.load FreezeRow.accountId
              FreezeRow.record d.frozen.rows
          pendingReconciliations :=
            OrderedMap.load QueueRow.operationId
              QueueRow.task
              (d.queue.rows.filter QueueRow.unresolved) } }

inductive DurableCall (δ : Type) where
| call (call : Coordinator.Call δ)
| reopen

def step
    (d : DurableCoordinator δ) :
    DurableCall δ → DurableCoordinator δ
| .call call =>
    { memory := Coordinator.step d.memory call
      frozen := (d.persist call).1
      queue := (d.persist call).2 }
| .reopen => d.reopen

end DurableCoordinator

------------------------------------------------------------
-- What Survives
------------------------------------------------------------

/- What is compared of a task. -/
structure TaskSummary where
  operationId : Option String
  accountId : Option String
  idempotencyKey : String
  status : TaskStatus
  attempts : Nat

def ReconciliationTask.summary
    {δ : Type}
    (task : ReconciliationTask δ) : TaskSummary where
  operationId := task.operationId
  accountId := task.accountId
  idempotencyKey := task.idempotencyKey
  status := task.status
  attempts := task.attempts

namespace DurableCoordinator

variable {δ : Type}

/-
  A coordinator that is built now has the same frozen
  accounts and the same tasks.
-/
structure SurvivesCrash
    (d : DurableCoordinator δ) : Prop where
  frozenAccounts :
    ∀ account,
      d.reopen.memory.isAccountFrozen account =
        d.memory.isAccountFrozen account
  pendingReconciliations :
    ∀ operationId,
      (d.reopen.memory.task? operationId).map
          ReconciliationTask.summary =
        (d.memory.task? operationId).map
          ReconciliationTask.summary

/-
  The tables take what the call writes. An operation that is
  enqueued names itself and an account, and a forced outcome
  is a final status, unless the operation has no row.
-/
def Stored
    (d : DurableCoordinator δ) : DurableCall δ → Prop
| .call (.enqueueUncertainOperation _ op) =>
    op.operationId ≠ none ∧ op.accountId ≠ none
| .call (.manualResolve _ operationId forcedOutcome _) =>
    forcedOutcome = "COMPLETED" ∨ forcedOutcome = "FAILED" ∨
      ∀ row ∈ d.queue.rows, row.operationId ≠ operationId
| _ => True

/- Memory has the freezes and unresolved tasks of the rows. -/
structure Coupled
    (d : DurableCoordinator δ) : Prop where
  freezes :
    ∀ account,
      d.memory.isAccountFrozen account =
        (d.frozen.find? account).isSome
  tasks :
    ∀ operationId,
      (d.memory.task? (some operationId)).map
          ReconciliationTask.summary =
        ((d.queue.find? operationId).filter
          QueueRow.unresolved).map
            (fun row => row.task.summary)
  anonymous : d.memory.task? none = none
  named : d.queue.NonNull

------------------------------------------------------------
-- A New Coordinator
------------------------------------------------------------

theorem isAccountFrozen_reopen
    (d : DurableCoordinator δ)
    (account : String) :
    d.reopen.memory.isAccountFrozen account =
      (d.frozen.find? account).isSome := by
  have hDistinct :
      d.frozen.rows.Pairwise
        (fun a b =>
          a.accountId = account → b.accountId ≠ account) := by
    apply d.frozen.unique.imp
    rintro a b (hNull | hNe) hA hB
    · cases hNull
    · exact hNe (congrArg some (hA.trans hB.symm))
  rw [Bool.eq_iff_iff]
  unfold ReconciliationCoordinator.isAccountFrozen
    OrderedMap.has
  simp only [Option.isSome_iff_exists,
    Table.find?_eq_some_iff]
  constructor
  · rintro ⟨record, hRecord⟩
    rcases (OrderedMap.get?_load _ _ hDistinct
        record).mp hRecord with ⟨row, hMem, hKey, _⟩
    exact ⟨row, hMem, congrArg some hKey⟩
  · rintro ⟨row, hMem, hKey⟩
    refine ⟨row.record, ?_⟩
    exact (OrderedMap.get?_load _ _ hDistinct _).mpr
      ⟨row, hMem, Option.some.inj hKey, rfl⟩

theorem task?_reopen_some
    (d : DurableCoordinator δ)
    (operationId : String) :
    d.reopen.memory.task? (some operationId) =
      ((d.queue.find? operationId).filter
        QueueRow.unresolved).map QueueRow.task := by
  have hDistinct :
      (d.queue.rows.filter QueueRow.unresolved).Pairwise
        (fun a b =>
          a.operationId = some operationId →
            b.operationId ≠ some operationId) := by
    apply (d.queue.unique.filter _).imp
    rintro a b (hNull | hNe) hA hB
    · rw [hNull] at hA
      cases hA
    · exact hNe (hA.trans hB.symm)
  apply Option.ext
  intro task
  refine (OrderedMap.get?_load _ _ hDistinct task).trans ?_
  simp only [Option.map_eq_some_iff,
    Option.filter_eq_some_iff, Table.find?_eq_some_iff,
    List.mem_filter]
  constructor
  · rintro ⟨row, ⟨hMem, hOpen⟩, hKey, hTask⟩
    exact ⟨row, ⟨⟨hMem, hKey⟩, hOpen⟩, hTask⟩
  · rintro ⟨row, ⟨⟨hMem, hKey⟩, hOpen⟩, hTask⟩
    exact ⟨row, ⟨hMem, hOpen⟩, hKey, hTask⟩

theorem task?_reopen_none
    {d : DurableCoordinator δ}
    (hNamed : d.queue.NonNull) :
    d.reopen.memory.task? none = none := by
  have hDistinct :
      (d.queue.rows.filter QueueRow.unresolved).Pairwise
        (fun a b =>
          a.operationId = none → b.operationId ≠ none) := by
    apply List.pairwise_of_forall_mem_list
    intro a _ b hB _
    exact hNamed b (List.mem_of_mem_filter hB)
  apply Option.eq_none_iff_forall_ne_some.mpr
  intro task hTask
  rcases (OrderedMap.get?_load _ _ hDistinct task).mp hTask
    with ⟨row, hMem, hKey, _⟩
  exact hNamed row (List.mem_of_mem_filter hMem) hKey

theorem Coupled.survivesCrash
    {d : DurableCoordinator δ}
    (hCoupled : Coupled d) :
    SurvivesCrash d where
  frozenAccounts := by
    intro account
    rw [isAccountFrozen_reopen, hCoupled.freezes]
  pendingReconciliations := by
    intro operationId
    cases operationId with
    | none =>
        rw [task?_reopen_none hCoupled.named,
          hCoupled.anonymous]
    | some operationId =>
        rw [task?_reopen_some, hCoupled.tasks, Option.map_map]
        rfl

theorem Coupled.reopen
    {d : DurableCoordinator δ}
    (hCoupled : Coupled d) :
    Coupled d.reopen where
  freezes := d.isAccountFrozen_reopen
  tasks := by
    intro operationId
    rw [task?_reopen_some, Option.map_map]
    rfl
  anonymous := task?_reopen_none hCoupled.named
  named := hCoupled.named

------------------------------------------------------------
-- Calls Keep The Coupling
------------------------------------------------------------

open ReconciliationCoordinator

/- The freezes after an operation is enqueued. -/
theorem find?_insertFreeze
    (frozen : Table FreezeRow String FreezeRow.key)
    (now : Nat)
    {op : UncertainOperation δ}
    (hNamed : op.operationId ≠ none)
    (account : String) :
    ((insertFreeze frozen now op).find? account).isSome =
        true ↔
      (op.accountId = some account ∧ account ≠ "") ∨
        (frozen.find? account).isSome = true := by
  unfold insertFreeze
  rcases Option.ne_none_iff_exists'.mp hNamed with
    ⟨operationId, hId⟩
  rw [hId]
  cases op.accountId with
  | none => simp
  | some named =>
      dsimp only
      by_cases hEmpty : named = ""
      · rw [if_pos hEmpty, hEmpty, Option.some.injEq]
        constructor
        · exact Or.inr
        · rintro (⟨hSame, hNe⟩ | hFrozen)
          · exact absurd hSame.symm hNe
          · exact hFrozen
      · rw [if_neg hEmpty, Table.find?_insertOrReplace]
        simp only [FreezeRow.key, Option.some.injEq]
        by_cases hSame : named = account
        · simp [← hSame, hEmpty]
        · simp [hSame]

/- The freezes after an account is unfrozen. -/
theorem find?_deleteFreeze
    {d : DurableCoordinator δ}
    (hCoupled : Coupled d)
    (accountId : Option String)
    (account : String) :
    ((d.deleteFreeze accountId).find? account).isSome =
        true ↔
      ¬ (accountId = some account ∧ account ≠ "") ∧
        d.memory.isAccountFrozen account = true := by
  unfold deleteFreeze
  cases accountId with
  | none => simp [hCoupled.freezes]
  | some unfrozen =>
      dsimp only
      by_cases hDeletes :
          unfrozen ≠ "" ∧
            d.memory.isAccountFrozen unfrozen = true
      · rw [if_pos hDeletes, Table.find?_deleteWhere,
          hCoupled.freezes]
        cases hFind : d.frozen.find? account with
        | none => simp
        | some row =>
            have hKey : row.accountId = account :=
              Option.some.inj
                ((d.frozen.find?_eq_some_iff account
                  row).mp hFind).2
            by_cases hSame : account = unfrozen
            · simp [Option.filter, hKey, hSame, hDeletes.1]
            · have hNe : ¬ unfrozen = account :=
                fun h => hSame h.symm
              simp [Option.filter, hKey, hSame, hNe]
      · rw [if_neg hDeletes, ← hCoupled.freezes]
        constructor
        · intro hFrozen
          refine ⟨?_, hFrozen⟩
          rintro ⟨hSame, hNe⟩
          rw [← Option.some.inj hSame] at hNe hFrozen
          exact hDeletes ⟨hNe, hFrozen⟩
        · exact fun h => h.2

/- A status that the new coordinator does not take up. -/
theorem find?_writeStatus
    {d : DurableCoordinator δ}
    {operationId : Option String}
    {status : String}
    (hFinal :
      status = "COMPLETED" ∨ status = "FAILED" ∨
        ∀ row ∈ d.queue.rows, row.operationId ≠ operationId)
    (other : String) :
    ((d.writeStatus operationId status).find? other).filter
        QueueRow.unresolved =
      if operationId = some other then none
      else
        (d.queue.find? other).filter QueueRow.unresolved := by
  unfold writeStatus
  rw [Table.find?_updateKey]
  by_cases hSame : operationId = some other
  · rw [if_pos hSame, if_pos hSame]
    cases hFind : d.queue.find? other with
    | none => rfl
    | some row =>
        rcases hFinal with hCompleted | hFailed | hNone
        · simp [Option.filter, QueueRow.unresolved, hCompleted]
        · simp [Option.filter, QueueRow.unresolved, hFailed]
        · have hRow :=
            (d.queue.find?_eq_some_iff other row).mp hFind
          exact absurd (hRow.2.trans hSame.symm)
            (hNone row hRow.1)
  · rw [if_neg hSame, if_neg hSame]

/- The task of an operation is settled in both. -/
theorem Coupled.settle
    {d : DurableCoordinator δ}
    (hCoupled : Coupled d)
    {next : ReconciliationCoordinator δ}
    {frozen : Table FreezeRow String FreezeRow.key}
    {operationId : Option String}
    {status : String}
    (hFinal :
      status = "COMPLETED" ∨ status = "FAILED" ∨
        ∀ row ∈ d.queue.rows, row.operationId ≠ operationId)
    (hFreezes :
      ∀ account,
        next.isAccountFrozen account =
          (frozen.find? account).isSome)
    (hTasks :
      ∀ other,
        next.task? other =
          if other = operationId then none
          else d.memory.task? other) :
    Coupled
      { memory := next
        frozen := frozen
        queue := d.writeStatus operationId status } where
  freezes := hFreezes
  tasks := by
    intro other
    dsimp only
    rw [find?_writeStatus hFinal, hTasks]
    by_cases hSame : operationId = some other
    · rw [if_pos hSame.symm, if_pos hSame]
      rfl
    · rw [if_neg (fun h => hSame h.symm), if_neg hSame]
      exact hCoupled.tasks other
  anonymous := by
    dsimp only
    rw [hTasks, hCoupled.anonymous]
    split <;> rfl
  named := by
    apply hCoupled.named.updateKey
    intro row
    rfl

theorem Coupled.resolve
    {d : DurableCoordinator δ}
    (hCoupled : Coupled d)
    {operationId : Option String}
    {status : String}
    (hFinal :
      status = "COMPLETED" ∨ status = "FAILED" ∨
        ∀ row ∈ d.queue.rows, row.operationId ≠ operationId)
    (task : ReconciliationTask δ) :
    Coupled
      { memory := d.memory.resolveTask operationId task
        frozen := d.deleteFreeze task.accountId
        queue := d.writeStatus operationId status } := by
  apply hCoupled.settle hFinal
  · intro account
    rw [Bool.eq_iff_iff, find?_deleteFreeze hCoupled]
    exact d.memory.isAccountFrozen_resolveTask operationId
      task account
  · intro other
    exact d.memory.task?_resolveTask operationId other task

/- A pending task makes progress in both. -/
theorem Coupled.progress
    {d : DurableCoordinator δ}
    (hCoupled : Coupled d)
    {operationId : Option String}
    {task : ReconciliationTask δ}
    (hTask : d.memory.task? operationId = some task)
    (status : TaskStatus)
    (hText : TaskStatus.ofText status.text = status)
    (hOpen :
      status.text ≠ "COMPLETED" ∧ status.text ≠ "FAILED")
    (attempts : Nat) :
    Coupled
      { memory :=
          { d.memory with
              pendingReconciliations :=
                d.memory.pendingReconciliations.set
                  operationId
                  { task with
                      status := status
                      attempts := attempts } }
        frozen := d.frozen
        queue :=
          d.writeProgress operationId status attempts } where
  freezes := hCoupled.freezes
  tasks := by
    intro other
    unfold task? writeProgress
    dsimp only
    rw [OrderedMap.get?_set, Table.find?_updateKey]
    by_cases hSame : operationId = some other
    · rw [if_pos hSame.symm, if_pos hSame]
      have hBefore := hCoupled.tasks other
      rw [← hSame, hTask] at hBefore
      rcases Option.map_eq_some_iff.mp hBefore.symm with
        ⟨row, hRow, hSummary⟩
      rw [(Option.filter_eq_some_iff.mp hRow).1]
      simp only [ReconciliationTask.summary, QueueRow.task,
        TaskSummary.mk.injEq] at hSummary
      simp [Option.filter, QueueRow.unresolved, hOpen,
        QueueRow.task, ReconciliationTask.summary, hSummary,
        hText]
    · rw [if_neg (fun h => hSame h.symm), if_neg hSame]
      exact hCoupled.tasks other
  anonymous := by
    unfold task?
    dsimp only
    rw [OrderedMap.get?_set, if_neg]
    · exact hCoupled.anonymous
    · intro hNone
      rw [← hNone, hCoupled.anonymous] at hTask
      cases hTask
  named := by
    apply hCoupled.named.updateKey
    intro row
    rfl

/- An operation that names itself and its account. -/
theorem Coupled.enqueue
    {d : DurableCoordinator δ}
    (hCoupled : Coupled d)
    (now : Nat)
    {op : UncertainOperation δ}
    (hNamed : op.operationId ≠ none)
    (hAccount : op.accountId ≠ none) :
    Coupled
      { memory := d.memory.enqueueUncertainOperation now op
        frozen := insertFreeze d.frozen now op
        queue := insertTask d.queue now op } where
  freezes := by
    intro account
    rw [Bool.eq_iff_iff, find?_insertFreeze _ _ hNamed,
      ← hCoupled.freezes]
    exact d.memory.isAccountFrozen_enqueue now op account
  tasks := by
    intro other
    rcases Option.ne_none_iff_exists'.mp hAccount with
      ⟨account, hSome⟩
    unfold insertTask
    dsimp only
    rw [task?_enqueue, hSome]
    dsimp only
    rw [Table.find?_insertOrReplace]
    by_cases hSame : op.operationId = some other
    · rw [if_pos hSame.symm, if_pos hSame]
      simp [Option.filter, QueueRow.unresolved, QueueRow.task,
        ReconciliationTask.summary, queuedTask, hSome,
        TaskStatus.text, TaskStatus.ofText]
    · rw [if_neg (fun h => hSame h.symm), if_neg hSame]
      exact hCoupled.tasks other
  anonymous := by
    dsimp only
    rw [task?_enqueue, if_neg hNamed.symm]
    exact hCoupled.anonymous
  named := by
    unfold insertTask
    split
    · exact hCoupled.named.insertOrReplace hNamed
    · exact hCoupled.named

theorem Coupled.createReconcileRequest
    {d : DurableCoordinator δ}
    (hCoupled : Coupled d)
    (operationId : Option String) :
    Coupled
      (d.step (.call (.createReconcileRequest
        operationId))) := by
  unfold DurableCoordinator.step persist Coordinator.step
    ReconciliationCoordinator.createReconcileRequest task?
  dsimp only
  cases hTask :
      d.memory.pendingReconciliations.get? operationId with
  | none => exact hCoupled
  | some task =>
      exact hCoupled.progress hTask .IN_PROGRESS (by decide)
        (by decide) (task.attempts + 1)

theorem Coupled.handleReconciliationReport
    {d : DurableCoordinator δ}
    (hCoupled : Coupled d)
    (report : ReconciliationReport) :
    Coupled
      (d.step (.call (.handleReconciliationReport
        report))) := by
  unfold DurableCoordinator.step persist Coordinator.step
    ReconciliationCoordinator.handleReconciliationReport
    task?
  dsimp only
  cases hTask :
      d.memory.pendingReconciliations.get?
        report.operationId with
  | none => exact hCoupled
  | some task =>
      dsimp only
      cases resolutionOutcome report.resolutionStatus with
      | some outcome =>
          apply hCoupled.resolve
          cases outcome with
          | COMPLETED => exact .inl rfl
          | FAILED => exact .inr (.inl rfl)
      | none =>
          exact hCoupled.progress hTask .PENDING_RETRY
            (by decide) (by decide) task.attempts

theorem Coupled.manualResolve
    {d : DurableCoordinator δ}
    (hCoupled : Coupled d)
    {now : Nat}
    {operationId : Option String}
    {forcedOutcome operatorNote : String}
    (hStored :
      d.Stored (.call (.manualResolve now operationId
        forcedOutcome operatorNote))) :
    Coupled
      (d.step (.call (.manualResolve now operationId
        forcedOutcome operatorNote))) := by
  unfold DurableCoordinator.step persist Coordinator.step
    ReconciliationCoordinator.manualResolve task?
  dsimp only
  cases hTask :
      d.memory.pendingReconciliations.get? operationId with
  | none =>
      refine hCoupled.settle hStored ?_ ?_
      · exact hCoupled.freezes
      · intro other
        exact OrderedMap.get?_delete _ operationId other
  | some task => exact hCoupled.resolve hStored task

theorem Coupled.step
    (d : DurableCoordinator δ)
    (call : DurableCall δ)
    (hCoupled : Coupled d)
    (hStored : d.Stored call) :
    Coupled (d.step call) := by
  cases call with
  | reopen => exact hCoupled.reopen
  | call call =>
      cases call with
      | enqueueUncertainOperation now op =>
          exact hCoupled.enqueue now hStored.1 hStored.2
      | createReconcileRequest operationId =>
          exact hCoupled.createReconcileRequest operationId
      | handleReconciliationReport report =>
          exact hCoupled.handleReconciliationReport report
      | manualResolve now operationId outcome note =>
          exact hCoupled.manualResolve hStored

/-
  When the tables take what every call of a run writes, a
  crash at any point of the run loses nothing.
-/
theorem survives_crash
    (calls : List (DurableCall δ))
    (hStored : Along step Stored fresh calls) :
    Throughout step SurvivesCrash
      (fresh : DurableCoordinator δ) calls := by
  intro past future hCalls
  rw [hCalls, along_append] at hStored
  apply Coupled.survivesCrash
  apply run_invariant Coupled.step _ hStored.1
  refine ⟨?_, ?_, rfl, ?_⟩
  · intro account
    rfl
  · intro operationId
    rfl
  · intro row hRow
    cases hRow

/- A run of the log that names its operation and account. -/
def namedRun : UnresolvedRun where
  status := .UNCERTAIN
  operationId := some "op_1"
  accountId := some "acc_1"

/- A run of the log that does not name its account. -/
def runWithoutAccount : UnresolvedRun where
  status := .UNCERTAIN
  operationId := some "op_1"

/- The run is enqueued when the log is dumped. -/
def enqueueRun
    (unresolved : UnresolvedRun) : DurableCall Details :=
  .call (.enqueueUncertainOperation 1
    unresolved.uncertainOperation)

theorem named_run_survives :
    Throughout step SurvivesCrash
      (fresh : DurableCoordinator Details)
      [enqueueRun namedRun,
        .call (.manualResolve 2 (some "op_1")
          "COMPLETED" "")] := by
  apply survives_crash
  refine ⟨⟨?_, ?_⟩, .inl rfl, trivial⟩
  · decide
  · decide

/- The task of the run is lost. -/
theorem run_without_account_is_lost :
    ¬ Throughout step SurvivesCrash
      (fresh : DurableCoordinator Details)
      [enqueueRun runWithoutAccount] := by
  intro hAll
  have hSurvives :=
    hAll [enqueueRun runWithoutAccount] [] rfl
  have hTasks :=
    hSurvives.pendingReconciliations (some "op_1")
  revert hTasks
  exact nofun

end DurableCoordinator

end ControlPlane
