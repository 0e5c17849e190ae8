import ControlPlane.Boundary.Events

/-
  Reconciliation along runs of the manager.

  The coordinator of the manager is driven by results,
  snapshots, reports and manual resolutions, and only by
  these. A run keeps every freeze linked to its operation as
  long as no operation is enqueued for a second account.

  The outcome a reconciliation finds is never written to the
  ledger, so a key whose record is uncertain stays uncertain
  when its operation is resolved.

  Main declarations:
    * `Boundary.KeepsFreezesLinked`
    * `Boundary.freezes_resolvable_throughout`
    * `Boundary.resolution`
    * `Boundary.resolution_never_settles`
-/

------------------------------------------------------------
-- Freezes And Pending Operations
------------------------------------------------------------

namespace ControlPlane

namespace Boundary

open ExecutionBoundaryManager
open Coordinator
  (NoOrphanFreeze ResolvesItsFreezes FreezesLinked
    EnqueuesOwnAccount)

/- The coordinator calls of an event. -/
def calls
    (b : Boundary)
    (event : Event) : List (Coordinator.Call Details) :=
  b.manager.coordinatorCalls (b.env event) event.input

/-
  Each operation the event enqueues is enqueued for the
  account that is frozen under its id, if one is.
-/
def KeepsFreezesLinked
    (b : Boundary)
    (event : Event) : Prop :=
  Along Coordinator.step EnqueuesOwnAccount b.coordinator
    (b.calls event)

/- An event is a run of the coordinator. -/
theorem step_coordinator
    (b : Boundary)
    (event : Event) :
    (step b event).coordinator =
      run Coordinator.step b.coordinator (b.calls event) :=
  react_reconciliation (b.env event) b.manager event.input

theorem freezesLinked_step
    (b : Boundary)
    (event : Event)
    (hLinked : FreezesLinked b.coordinator)
    (hKeeps : KeepsFreezesLinked b event) :
    FreezesLinked (step b event).coordinator := by
  rw [step_coordinator]
  exact run_invariant Coordinator.freezesLinked_step hLinked
    hKeeps

/-
  Along a run from a new coordinator that enqueues no
  operation for a second account, every frozen account has
  a pending operation that unfreezes it, and resolving an
  operation unfreezes every account whose freeze names it.
-/
theorem freezes_resolvable_throughout
    (b : Boundary)
    (events : List Event)
    (hFresh :
      b.coordinator = ReconciliationCoordinator.fresh)
    (hKeeps : Along step KeepsFreezesLinked b events) :
    Throughout step
      (fun s =>
        NoOrphanFreeze s.coordinator ∧
          ResolvesItsFreezes s.coordinator)
      b events := by
  intro past future hEvents
  rw [hEvents, along_append] at hKeeps
  have hStart : FreezesLinked b.coordinator := by
    rw [hFresh]
    exact Coordinator.freezesLinked_fresh
  have hLinked :
      FreezesLinked (run step b past).coordinator :=
    run_invariant freezesLinked_step hStart hKeeps.1
  exact ⟨hLinked.noOrphanFreeze, hLinked.resolvesItsFreezes⟩

/- A bet whose outcome is uncertain on the given accounts. -/
def uncertainBet (targets : List String) : Event :=
  (Input.result
    { operationId := some "op_k1"
      status := some .UNCERTAIN
      idempotencyKey := some "k1"
      targetAccounts := some targets }).next

/- An uncertain bet on one account keeps freezes linked. -/
theorem uncertain_bet_on_one_account :
    Throughout step
      (fun s =>
        NoOrphanFreeze s.coordinator ∧
          ResolvesItsFreezes s.coordinator)
      (connected 10) [uncertainBet ["acc_1"]] := by
  refine freezes_resolvable_throughout (connected 10)
    [uncertainBet ["acc_1"]] rfl ⟨⟨?_, trivial⟩, trivial⟩
  intro account record hRecord
  cases hRecord

/-
  An uncertain bet on two accounts leaves the first one
  frozen with no operation that unfreezes it.
-/
theorem uncertain_bet_orphans_freeze :
    ¬ NoOrphanFreeze
      (run step (connected 10)
        [uncertainBet ["acc_1", "acc_2"]]).coordinator := by
  intro hLinked
  rcases hLinked "acc_1" (by decide) with
    ⟨operationId, task, hTask, hUnfreezes⟩
  have hPending :
      operationId ∈
        (run step (connected 10)
          [uncertainBet
            ["acc_1", "acc_2"]]).coordinator.pendingReconciliations.keys := by
    have hEntry := (OrderedMap.get?_eq_some_iff _ _ _).mp hTask
    exact List.mem_map.mpr ⟨_, hEntry, rfl⟩
  have hKeys :
      (run step (connected 10)
        [uncertainBet
          ["acc_1", "acc_2"]]).coordinator.pendingReconciliations.keys =
        [some "op_k1"] := by
    decide
  rw [hKeys, List.mem_singleton] at hPending
  subst hPending
  have hUnfrozen := hUnfreezes.2 0 "COMPLETED" ""
  revert hUnfrozen
  decide

------------------------------------------------------------
-- The Ledger And The Coordinator
------------------------------------------------------------

/- The ledger status that agrees with a resolution. -/
def agreeingStatus : ResolutionOutcome → LedgerStatus
| .COMPLETED => .COMPLETED
| .FAILED => .FAILED

/- The operation an input resolves, and how. -/
def resolution :
    Input → Option (Option String × ResolutionOutcome)
| .data _ (.envelope envelope) =>
    match envelope.payload with
    | .reconciliationReport report =>
        (ReconciliationCoordinator.resolutionOutcome
          report.resolutionStatus).map
          (fun outcome => (report.operationId, outcome))
    | _ => none
| .manualResolve operationId outcome _ =>
    if outcome = "COMPLETED" then
      some (operationId, .COMPLETED)
    else if outcome = "FAILED" then
      some (operationId, .FAILED)
    else
      none
| _ => none

/- The status of the ledger record of a key. -/
def recordStatus?
    (b : Boundary)
    (key : String) : Option LedgerStatus :=
  (b.ledger.get? key).map LedgerRecord.status

/- A resolution does not touch the ledger. -/
theorem ledger_of_resolution
    {b : Boundary}
    {event : Event}
    {operationId : Option String}
    {outcome : ResolutionOutcome}
    (hResolves :
      resolution event.input =
        some (operationId, outcome)) :
    (step b event).ledger = b.ledger := by
  unfold ledger step
  dsimp only
  unfold resolution at hResolves
  split at hResolves
  · rename_i connId envelope hInput
    split at hResolves
    · rename_i report hPayload
      rcases b.manager.settleCorrelation_eq envelope with
        ⟨pending, hSettle⟩
      rw [hInput]
      unfold react handleIncomingData
      dsimp only
      rw [hSettle, hPayload]
      rfl
    · cases hResolves
  · rename_i resolved forced note hInput
    rw [hInput]
    rfl
  · cases hResolves

/-
  Whenever a pending operation is resolved, its record was
  not uncertain while it was pending, or it does not take
  the outcome of the resolution.
-/
theorem resolution_never_settles
    (b : Boundary)
    (past : List Event)
    (event : Event)
    (operationId : Option String)
    (task : ReconciliationTask Details)
    (outcome : ResolutionOutcome)
    (hPending :
      (run step b past).coordinator.task? operationId =
        some task)
    (hResolves :
      resolution event.input =
        some (operationId, outcome)) :
    ¬ (Throughout step
          (fun s =>
            (s.coordinator.task? operationId).isSome = true →
              s.recordStatus? task.idempotencyKey =
                some .UNCERTAIN)
          b past ∧
        (step (run step b past) event).recordStatus?
            task.idempotencyKey =
          some (agreeingStatus outcome)) := by
  rintro ⟨hUncertain, hAgrees⟩
  have hBefore :
      (run step b past).recordStatus? task.idempotencyKey =
        some .UNCERTAIN := by
    apply hUncertain past [] (by simp)
    rw [hPending]
    rfl
  unfold recordStatus? at hAgrees hBefore
  rw [ledger_of_resolution hResolves, hBefore] at hAgrees
  cases outcome with
  | COMPLETED => cases hAgrees
  | FAILED => cases hAgrees

/- A bet of `k1` whose outcome is uncertain. -/
def uncertainBetOfK1 : Boundary :=
  run step (connected 10)
    [(Input.bet "k1" false).next, uncertainBet ["acc_1"]]

/- The pending reconciliation of that bet. -/
def taskOfK1 : ReconciliationTask Details where
  operationId := some "op_k1"
  accountId := some "acc_1"
  idempotencyKey := "k1"
  status := .QUEUED
  enqueuedAt := 4
  attempts := 0
  details := some (.result
    { operationId := some "op_k1"
      status := some .UNCERTAIN
      idempotencyKey := some "k1"
      targetAccounts := some ["acc_1"] })

/- The report that the bet was found committed. -/
def committedReport : Event :=
  (Input.data 1 (.envelope
    { msgId := "ep_2"
      traceId := "ep_trace"
      payload := .reconciliationReport
        { operationId := some "op_k1"
          resolutionStatus := some .RESOLVED_COMMITTED } })).next

/- The report does not settle the record of the bet. -/
theorem committed_report_never_settles :
    ¬ (Throughout step
          (fun s =>
            (s.coordinator.task?
                (some "op_k1")).isSome = true →
              s.recordStatus? "k1" = some .UNCERTAIN)
          uncertainBetOfK1 [] ∧
        (step uncertainBetOfK1 committedReport).recordStatus?
            "k1" =
          some .COMPLETED) :=
  resolution_never_settles uncertainBetOfK1 []
    committedReport (some "op_k1") taskOfK1 .COMPLETED
    (by decide) (by decide)

/-
  After the report the operation is resolved and its record
  is still uncertain.
-/
theorem committed_report_leaves_uncertain :
    uncertainBetOfK1.recordStatus? "k1" = some .UNCERTAIN ∧
      (step uncertainBetOfK1
          committedReport).coordinator.task?
          (some "op_k1") = none ∧
        (step uncertainBetOfK1
          committedReport).recordStatus? "k1" =
            some .UNCERTAIN := by
  refine ⟨by decide, by decide, by decide⟩

end Boundary

end ControlPlane
