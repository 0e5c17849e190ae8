import ControlPlane.System.TrackerCalls

/-
  Operation results, classified three times.

  A result is read by the runtime manager on its own pipe,
  or by the boundary, whose listener tells the tracker and
  whose ledger records the outcome. Each of the three lists
  the statuses it knows, and they differ in the list, in the
  default and in whether the code comes before the status.

  Main declarations:
    * `OperationResult.agreement_iff`
    * `System.results_agree_iff`
-/

------------------------------------------------------------
-- Three Classifications Of A Result
------------------------------------------------------------

namespace ControlPlane

/- The tracked status says what the ledger says. -/
def TrackedStatus.matches :
    TrackedStatus → LedgerStatus → Bool
| .COMPLETED, .COMPLETED => true
| .FAILED, .FAILED => true
| .UNCERTAIN, .UNCERTAIN => true
| .QUEUED, .IN_FLIGHT => true
| .IN_FLIGHT, .IN_FLIGHT => true
| .PROCESSING, .IN_FLIGHT => true
| _, _ => false

namespace OperationResult

/- The operation has not come to an end. -/
def isProgress (result : OperationResult) : Bool :=
  result.status == some .ACCEPTED ||
    result.status == some .STARTED ||
    result.status == some .PROGRESS

/- The status the runtime manager gives an operation. -/
def runtimeStatus (result : OperationResult) : TrackedStatus :=
  if result.status = some .SUCCESS then .COMPLETED
  else .FAILED

/- The status the listener of the boundary gives it. -/
def listenerStatus
    (result : OperationResult) : TrackedStatus :=
  if result.isCompleted then .COMPLETED
  else if result.isUncertain then .UNCERTAIN
  else .FAILED

/- No classification lists the status. -/
def isUnlisted (result : OperationResult) : Bool :=
  !result.isUncertain && !result.isCompleted &&
    !result.isFailed

/-
  The code does not make the outcome uncertain, and the
  status is one that all three classifications read alike,
  or one that none lists while the operation has failed
  before.
-/
def AllReadAlike
    (result : OperationResult)
    (tracked : TrackedStatus)
    (recorded : Option LedgerStatus) : Prop :=
  result.code ≠ some .UNCERTAIN_OUTCOME ∧
    (result.status = some .SUCCESS ∨
      result.status = some .FAILED ∨
      result.status = some .ABORTED ∨
      result.isUnlisted = true ∧
        recorded = some .FAILED ∧
        (result.isProgress = true → tracked = .FAILED))

/-
  Agreement of the three statuses after a result: `tracked`
  and `recorded` are those before it, and `throws` says that
  the boundary does not come to emit it.
-/
structure Agreement
    (result : OperationResult)
    (throws : Bool)
    (tracked : TrackedStatus)
    (recorded : Option LedgerStatus) : Prop where
  trackers :
    result.runtimeStatus =
      if throws then tracked else result.listenerStatus
  ledger :
    ∃ status,
      result.ledgerStatus.or recorded = some status ∧
        result.runtimeStatus.matches status = true
  progress :
    result.isProgress = true →
      result.runtimeStatus = tracked ∧
        result.ledgerStatus.or recorded = recorded

theorem isUncertain_iff
    (result : OperationResult) :
    result.isUncertain = true ↔
      result.status = some .UNCERTAIN ∨
        result.status = some .UNKNOWN ∨
          result.status = some .TIMEOUT ∨
            result.code = some .UNCERTAIN_OUTCOME := by
  unfold isUncertain
  simp only [Bool.or_eq_true, beq_iff_eq, or_assoc]

theorem isCompleted_iff
    (result : OperationResult) :
    result.isCompleted = true ↔
      result.status = some .COMPLETED ∨
        result.status = some .SUCCESS := by
  unfold isCompleted
  simp only [Bool.or_eq_true, beq_iff_eq]

theorem isFailed_iff
    (result : OperationResult) :
    result.isFailed = true ↔
      result.status = some .FAILED ∨
        result.status = some .ABORTED := by
  unfold isFailed
  simp only [Bool.or_eq_true, beq_iff_eq]

/- The runtime manager never says that it is uncertain. -/
theorem runtimeStatus_cases
    (result : OperationResult) :
    result.runtimeStatus = .COMPLETED ∧
        result.status = some .SUCCESS ∨
      result.runtimeStatus = .FAILED ∧
        result.status ≠ some .SUCCESS := by
  unfold runtimeStatus
  split
  · rename_i hSuccess
    exact .inl ⟨rfl, hSuccess⟩
  · rename_i hOther
    exact .inr ⟨rfl, hOther⟩

/- An uncertain result is not read alike. -/
theorem agreement_iff_of_uncertain
    {result : OperationResult}
    (hUncertain : result.isUncertain = true)
    (throws : Bool)
    (tracked : TrackedStatus)
    (recorded : Option LedgerStatus) :
    result.Agreement throws tracked recorded ↔
      result.AllReadAlike tracked recorded := by
  constructor
  · rintro ⟨_, ⟨status, hStatus, hMatches⟩, _⟩
    have hLedger : result.ledgerStatus = some .UNCERTAIN :=
      if_pos hUncertain
    rw [hLedger] at hStatus
    cases hStatus
    rcases result.runtimeStatus_cases with
      ⟨hRuntime, _⟩ | ⟨hRuntime, _⟩
    · rw [hRuntime] at hMatches
      cases hMatches
    · rw [hRuntime] at hMatches
      cases hMatches
  · rintro ⟨hCode, hStatus⟩
    have hListed := result.isUncertain_iff.mp hUncertain
    rcases hStatus with
      hSuccess | hFailed | hAborted | ⟨hUnlisted, _⟩
    · simp [hSuccess, hCode] at hListed
    · simp [hFailed, hCode] at hListed
    · simp [hAborted, hCode] at hListed
    · unfold isUnlisted at hUnlisted
      rw [hUncertain] at hUnlisted
      cases hUnlisted

/- A completed result is read alike as a success. -/
theorem agreement_iff_of_completed
    {result : OperationResult}
    (hCertain : result.isUncertain = false)
    (hCompleted : result.isCompleted = true)
    (tracked : TrackedStatus)
    (recorded : Option LedgerStatus) :
    result.Agreement false tracked recorded ↔
      result.status = some .SUCCESS := by
  have hListener : result.listenerStatus = .COMPLETED :=
    if_pos hCompleted
  have hLedger : result.ledgerStatus = some .COMPLETED := by
    unfold ledgerStatus
    rw [hCertain, hCompleted]
    rfl
  constructor
  · rintro ⟨hTrackers, _, _⟩
    rcases result.runtimeStatus_cases with
      ⟨_, hSuccess⟩ | ⟨hRuntime, _⟩
    · exact hSuccess
    · rw [hRuntime, hListener] at hTrackers
      cases hTrackers
  · intro hSuccess
    have hRuntime : result.runtimeStatus = .COMPLETED :=
      if_pos hSuccess
    refine ⟨?_, ⟨.COMPLETED, ?_, ?_⟩, ?_⟩
    · rw [hRuntime, hListener]
      rfl
    · rw [hLedger]
      rfl
    · rw [hRuntime]
      rfl
    · intro hProgress
      unfold isProgress at hProgress
      rw [hSuccess] at hProgress
      cases hProgress

/- A failed result is read alike. -/
theorem agreement_of_failed
    {result : OperationResult}
    (hCertain : result.isUncertain = false)
    (hFailed : result.isFailed = true)
    (tracked : TrackedStatus)
    (recorded : Option LedgerStatus) :
    result.Agreement false tracked recorded := by
  have hListed := result.isFailed_iff.mp hFailed
  have hOther : result.isCompleted = false := by
    unfold isCompleted
    rcases hListed with hStatus | hStatus
    · rw [hStatus]
      rfl
    · rw [hStatus]
      rfl
  have hRuntime : result.runtimeStatus = .FAILED := by
    unfold runtimeStatus
    rcases hListed with hStatus | hStatus
    · rw [hStatus]
      rfl
    · rw [hStatus]
      rfl
  have hListener : result.listenerStatus = .FAILED := by
    unfold listenerStatus
    rw [hOther, hCertain]
    rfl
  have hLedger : result.ledgerStatus = some .FAILED := by
    unfold ledgerStatus
    rw [hCertain, hOther, hFailed]
    rfl
  refine ⟨?_, ⟨.FAILED, ?_, ?_⟩, ?_⟩
  · rw [hRuntime, hListener]
    rfl
  · rw [hLedger]
    rfl
  · rw [hRuntime]
    rfl
  · intro hProgress
    unfold isProgress at hProgress
    rcases hListed with hStatus | hStatus
    · rw [hStatus] at hProgress
      cases hProgress
    · rw [hStatus] at hProgress
      cases hProgress

/- A status that nobody lists is a failure to the trackers. -/
theorem agreement_iff_of_unlisted
    {result : OperationResult}
    (hUnlisted : result.isUnlisted = true)
    (tracked : TrackedStatus)
    (recorded : Option LedgerStatus) :
    result.Agreement false tracked recorded ↔
      recorded = some .FAILED ∧
        (result.isProgress = true → tracked = .FAILED) := by
  unfold isUnlisted at hUnlisted
  simp only [Bool.and_eq_true, Bool.not_eq_true'] at hUnlisted
  rcases hUnlisted with ⟨⟨hCertain, hOpen⟩, hUnfailed⟩
  have hRuntime : result.runtimeStatus = .FAILED := by
    rcases result.runtimeStatus_cases with
      ⟨_, hSuccess⟩ | ⟨hFailed, _⟩
    · rw [result.isCompleted_iff.mpr (.inr hSuccess)] at hOpen
      cases hOpen
    · exact hFailed
  have hListener : result.listenerStatus = .FAILED := by
    unfold listenerStatus
    rw [hOpen, hCertain]
    rfl
  have hLedger : result.ledgerStatus = none := by
    unfold ledgerStatus
    rw [hCertain, hOpen, hUnfailed]
    rfl
  constructor
  · rintro ⟨_, ⟨status, hStatus, hMatches⟩, hProgress⟩
    rw [hLedger, Option.none_or] at hStatus
    rw [hRuntime] at hMatches hProgress
    refine ⟨?_, ?_⟩
    · rw [hStatus]
      cases status with
      | FAILED => rfl
      | _ => cases hMatches
    · intro hGoing
      exact (hProgress hGoing).1.symm
  · rintro ⟨hRecorded, hTracked⟩
    refine ⟨?_, ⟨.FAILED, ?_, ?_⟩, ?_⟩
    · rw [hRuntime, hListener]
      rfl
    · rw [hLedger, hRecorded]
      rfl
    · rw [hRuntime]
      rfl
    · intro hGoing
      rw [hRuntime, hTracked hGoing, hLedger]
      exact ⟨rfl, rfl⟩

/- The results that the three classifications agree on. -/
theorem agreement_iff
    (result : OperationResult)
    {throws : Bool}
    (hThrows : throws = true → result.isUncertain = true)
    (tracked : TrackedStatus)
    (recorded : Option LedgerStatus) :
    result.Agreement throws tracked recorded ↔
      result.AllReadAlike tracked recorded := by
  cases hUncertain : result.isUncertain with
  | true =>
      exact agreement_iff_of_uncertain hUncertain throws
        tracked recorded
  | false =>
      have hEmits : throws = false := by
        rw [hUncertain] at hThrows
        exact Bool.eq_false_iff.mpr
          (fun hThrown => Bool.false_ne_true (hThrows hThrown))
      have hCode :
          result.code ≠ some .UNCERTAIN_OUTCOME := by
        intro hCode
        rw [result.isUncertain_iff.mpr
          (.inr (.inr (.inr hCode)))] at hUncertain
        cases hUncertain
      rw [hEmits]
      unfold AllReadAlike
      rw [and_iff_right hCode]
      cases hCompleted : result.isCompleted with
      | true =>
          rw [agreement_iff_of_completed hUncertain hCompleted]
          constructor
          · exact .inl
          · intro hStatus
            have hListed := result.isCompleted_iff.mp hCompleted
            rcases hStatus with
              hSuccess | hFailed | hAborted | ⟨hUnlisted, _⟩
            · exact hSuccess
            · simp [hFailed] at hListed
            · simp [hAborted] at hListed
            · unfold isUnlisted at hUnlisted
              simp [hCompleted] at hUnlisted
      | false =>
          cases hFailed : result.isFailed with
          | true =>
              have hAgree :=
                agreement_of_failed hUncertain hFailed
                  tracked recorded
              rcases result.isFailed_iff.mp hFailed with
                hStatus | hStatus
              · exact iff_of_true hAgree (.inr (.inl hStatus))
              · exact iff_of_true hAgree
                  (.inr (.inr (.inl hStatus)))
          | false =>
              have hUnlisted : result.isUnlisted = true := by
                unfold isUnlisted
                rw [hUncertain, hCompleted, hFailed]
                rfl
              rw [agreement_iff_of_unlisted hUnlisted]
              constructor
              · intro hBefore
                exact .inr (.inr (.inr ⟨hUnlisted, hBefore⟩))
              · intro hStatus
                rcases hStatus with
                  hSuccess | hStatus | hStatus | ⟨_, hBefore⟩
                · rw [result.isCompleted_iff.mpr
                    (.inr hSuccess)] at hCompleted
                  cases hCompleted
                · rw [result.isFailed_iff.mpr
                    (.inl hStatus)] at hFailed
                  cases hFailed
                · rw [result.isFailed_iff.mpr
                    (.inr hStatus)] at hFailed
                  cases hFailed
                · exact hBefore

end OperationResult

------------------------------------------------------------
-- Results In The System
------------------------------------------------------------

namespace System

open ExecutionBoundaryManager

/- The runtime manager reads a result from its own pipe. -/
def runtimeReads
    (operationId : String)
    (result : OperationResult) : SystemInput :=
  .runtimeResult operationId
    (decide (result.status = some .SUCCESS))
    (presentOr result.error "Operation failed")

theorem status_runtimeReads
    (s : System)
    (surroundings : Surroundings)
    (elapsed : Nat)
    {operationId : String}
    (result : OperationResult)
    {tracked : TrackedStatus}
    (hTracked :
      s.tracker.statusOf operationId = some tracked) :
    (s.step
      { elapsed := elapsed
        surroundings := surroundings
        input :=
          runtimeReads operationId
            result }).tracker.statusOf operationId =
      some result.runtimeStatus := by
  rw [step_tracker]
  unfold trackerCalls runtimeReads
    OperationResult.runtimeStatus
  dsimp only
  split
  · rename_i hSuccess
    rw [if_pos (of_decide_eq_true hSuccess), run_cons,
      run_nil, OperationTracker.statusOf_apply, hTracked]
    exact if_pos rfl
  · rename_i hOther
    rw [if_neg (fun hSuccess =>
      hOther (decide_eq_true hSuccess)), run_cons, run_nil,
      OperationTracker.statusOf_apply, hTracked]
    exact if_pos rfl

theorem status_boundaryReads
    (s : System)
    (surroundings : Surroundings)
    (elapsed connId : Nat)
    {frame : InboundEnvelope}
    {result : OperationResult}
    (hPayload : frame.payload = .operationResult result)
    {operationId : String}
    (hId : result.operationId = some operationId)
    (hPresent : operationId ≠ "")
    {tracked : TrackedStatus}
    (hTracked :
      s.tracker.statusOf operationId = some tracked) :
    (s.step
      { elapsed := elapsed
        surroundings := surroundings
        input :=
          boundaryReads connId
            frame }).tracker.statusOf operationId =
      some (if resultThrows s.boundary.manager result then
          tracked
        else
          result.listenerStatus) := by
  rw [step_tracker,
    boundaryReads_calls s surroundings elapsed connId hPayload]
  split
  · exact hTracked
  · rw [run_cons, run_nil, OperationTracker.statusOf_apply,
      hTracked]
    unfold resultCall OperationResult.listenerStatus
    rw [hId]
    dsimp only
    rw [if_neg hPresent]
    split
    · exact if_pos rfl
    · split
      · exact if_pos rfl
      · exact if_pos rfl

/- The listener calls the boundary again. -/
def callsBack : Emitted → Bool
| .livenessAlert (.quarantineRequired _ _) => true
| .stateChanged _ _ => true
| _ => false

theorem listen_boundary
    (surroundings : Surroundings)
    (s : System)
    (emitted : List Emitted)
    (hQuiet : emitted.any callsBack = false) :
    (emitted.foldl (hear surroundings) s).boundary =
      s.boundary := by
  induction emitted generalizing s with
  | nil => rfl
  | cons first rest ih =>
      rw [List.any_cons, Bool.or_eq_false_iff] at hQuiet
      rw [List.foldl_cons, ih _ hQuiet.2]
      cases first with
      | clientConnected connId =>
          unfold hear connectionArrived
          dsimp only
          split <;> rfl
      | connectionAborted =>
          unfold hear connectionAborted
          dsimp only
          split <;> rfl
      | livenessAlert alert =>
          cases alert with
          | quarantineRequired elapsed lastSeen =>
              cases hQuiet.1
          | _ => rfl
      | stateChanged state message => cases hQuiet.1
      | _ => rfl

theorem resultEmitted_callsBack
    (m : ExecutionBoundaryManager)
    (result : OperationResult) :
    (m.resultEmitted result).any callsBack = false := by
  unfold resultEmitted
  dsimp only
  split
  · split
    · rfl
    · rw [List.any_append, List.any_map]
      simp [Function.comp_def, callsBack]
  · rfl

/- A result that settles no key leaves the ledger alone. -/
theorem ledger_of_unsettled
    (env : Env)
    (m : ExecutionBoundaryManager)
    (connId : Nat)
    {frame : InboundEnvelope}
    {result : OperationResult}
    (hPayload : frame.payload = .operationResult result)
    (hSettles : m.settles result = none) :
    (m.react env
      (.data connId (.envelope frame))).1.idempotency =
      m.idempotency := by
  rcases m.settleCorrelation_eq frame with
    ⟨pending, hSettle⟩
  rcases forgetInFlight_eq
      { m with pendingCorrelations := pending } result with
    ⟨inFlight, hForget⟩
  have hNone :
      settles { m with pendingCorrelations := pending }
        result = none := hSettles
  unfold react handleIncomingData
  dsimp only
  rw [hSettle, hPayload]
  unfold handlePayload handleOperationResult enqueueAll
  dsimp only
  rw [hForget, hNone, recordOutcome_eq]

/- The ledger of the system after a frame is read. -/
theorem ledger_boundaryReads
    (s : System)
    (surroundings : Surroundings)
    (elapsed connId : Nat)
    {frame : InboundEnvelope}
    {result : OperationResult}
    (hPayload : frame.payload = .operationResult result)
    {key : String}
    (hKey :
      (s.boundary.manager.correlated
        result).idempotencyKey = some key)
    (hPresent : key ≠ "") :
    ((s.step
        { elapsed := elapsed
          surroundings := surroundings
          input :=
            boundaryReads connId
              frame }).boundary.ledger.get? key).map
        LedgerRecord.status =
      result.ledgerStatus.or
        ((s.boundary.ledger.get? key).map
          LedgerRecord.status) := by
  have hBoundary :
      (s.step
        { elapsed := elapsed
          surroundings := surroundings
          input := boundaryReads connId frame }).boundary =
        s.boundary.step
          (s.boundaryEvent surroundings elapsed
            (.data connId (.envelope frame))) := by
    apply listen_boundary
    rcases s.boundary.manager.settleCorrelation_eq frame with
      ⟨pending, hSettle⟩
    unfold emitted react handleIncomingData
    dsimp only
    rw [hSettle, hPayload]
    exact resultEmitted_callsBack _ result
  rw [hBoundary]
  unfold Boundary.ledger Boundary.step
  dsimp only [boundaryEvent]
  cases hStatus : result.ledgerStatus with
  | none =>
      have hNone : s.boundary.manager.settles result = none := by
        unfold settles
        rw [hKey, hStatus]
      rw [ledger_of_unsettled _ _ connId hPayload hNone]
      rfl
  | some status =>
      have hSettled :
          s.boundary.manager.settledResult
              (.data connId (.envelope frame)) =
            some (result, key, status) := by
        unfold settledResult
        dsimp only
        rw [hPayload]
        dsimp only
        unfold settles
        rw [hKey, hStatus]
        dsimp only
        rw [if_neg hPresent]
        rfl
      rw [react_of_settled hSettled,
        IdempotencyLedger.get?_recordTerminal, if_pos rfl]
      exact congrArg some
        (IdempotencyLedger.terminalRecord_status _ _ _ _ _ _)

/-
  The tracker says the same after the result on both pipes,
  the ledger says it too, and a status on the way to an
  outcome leaves all three as they were.
-/
structure ResultsAgree
    (operationId key : String)
    (result : OperationResult)
    (s runtime boundary : System) : Prop where
  trackers :
    runtime.tracker.statusOf operationId =
      boundary.tracker.statusOf operationId
  ledger :
    ∃ tracked recorded,
      runtime.tracker.statusOf operationId = some tracked ∧
        (boundary.boundary.ledger.get? key).map
            LedgerRecord.status = some recorded ∧
          tracked.matches recorded = true
  progress :
    result.isProgress = true →
      runtime.tracker.statusOf operationId =
          s.tracker.statusOf operationId ∧
        (boundary.boundary.ledger.get? key).map
            LedgerRecord.status =
          (s.boundary.ledger.get? key).map
            LedgerRecord.status

/-
  A result of a tracked operation is classified alike by the
  runtime manager, by the boundary with its listener and by
  the ledger exactly when its code does not make it
  uncertain and its status is one all three read alike.
-/
theorem results_agree_iff
    (s : System)
    (surroundings : Surroundings)
    (elapsed connId : Nat)
    (frame : InboundEnvelope)
    (result : OperationResult)
    (operationId key : String)
    (tracked : TrackedStatus)
    (hPayload : frame.payload = .operationResult result)
    (hId : result.operationId = some operationId)
    (hPresent : operationId ≠ "")
    (hTracked :
      s.tracker.statusOf operationId = some tracked)
    (hKey :
      (s.boundary.manager.correlated
        result).idempotencyKey = some key)
    (hKeyPresent : key ≠ "") :
    ResultsAgree operationId key result s
        (s.step
          { elapsed := elapsed
            surroundings := surroundings
            input := runtimeReads operationId result })
        (s.step
          { elapsed := elapsed
            surroundings := surroundings
            input := boundaryReads connId frame }) ↔
      result.AllReadAlike tracked
        ((s.boundary.ledger.get? key).map
          LedgerRecord.status) := by
  have hRuntime :=
    s.status_runtimeReads surroundings elapsed result hTracked
  have hBoundary :=
    s.status_boundaryReads surroundings elapsed connId
      hPayload hId hPresent hTracked
  have hLedger :=
    s.ledger_boundaryReads surroundings elapsed connId
      hPayload hKey hKeyPresent
  have hThrows :
      resultThrows s.boundary.manager result = true →
        result.isUncertain = true := by
    intro hThrown
    exact (Bool.and_eq_true_iff.mp hThrown).1
  rw [← result.agreement_iff hThrows]
  constructor
  · rintro ⟨hTrackers, ⟨now, recorded, hNow, hRecorded,
      hMatches⟩, hProgress⟩
    rw [hRuntime] at hTrackers hNow hProgress
    rw [hBoundary] at hTrackers
    rw [hLedger] at hRecorded hProgress
    rw [hTracked] at hProgress
    refine ⟨Option.some.inj hTrackers,
      ⟨recorded, hRecorded, ?_⟩, ?_⟩
    · rw [Option.some.inj hNow]
      exact hMatches
    · intro hGoing
      exact ⟨Option.some.inj (hProgress hGoing).1,
        (hProgress hGoing).2⟩
  · rintro ⟨hTrackers, ⟨recorded, hRecorded, hMatches⟩,
      hProgress⟩
    refine ⟨?_, ⟨result.runtimeStatus, recorded, hRuntime,
      ?_, hMatches⟩, ?_⟩
    · rw [hRuntime, hBoundary, hTrackers]
    · rw [hLedger]
      exact hRecorded
    · intro hGoing
      rw [hRuntime, hTracked, hLedger]
      exact ⟨congrArg some (hProgress hGoing).1,
        (hProgress hGoing).2⟩

/- The bet of `op_1` is handed over. -/
def betPlaced : System :=
  betQueued.step placeBetOne

/- A result of `op_1` and the frame it comes in. -/
def resultOne (status : ResultStatus) : OperationResult where
  operationId := some "op_1"
  status := some status

def resultOneFrame (status : ResultStatus) : InboundEnvelope where
  msgId := "01J0000000000000000000RES0"
  traceId := "01J0000000000000000000TRC1"
  payload := .operationResult (resultOne status)

theorem success_read_alike :
    ResultsAgree "op_1" "k1" (resultOne .SUCCESS) betPlaced
      (betPlaced.step
        (turn (runtimeReads "op_1" (resultOne .SUCCESS))))
      (betPlaced.step
        (turn
          (boundaryReads 1 (resultOneFrame .SUCCESS)))) := by
  apply (results_agree_iff betPlaced Surroundings.healthy 1 1
    (resultOneFrame .SUCCESS) (resultOne .SUCCESS) "op_1" "k1"
    .QUEUED rfl rfl (by decide) (by decide) (by decide)
    (by decide)).mpr
  exact ⟨by decide, .inl rfl⟩

/-
  The result `COMPLETED` of a bet: the boundary and the
  ledger complete it, the runtime manager fails it.
-/
theorem completed_read_apart :
    ¬ ResultsAgree "op_1" "k1" (resultOne .COMPLETED)
      betPlaced
      (betPlaced.step
        (turn (runtimeReads "op_1" (resultOne .COMPLETED))))
      (betPlaced.step
        (turn
          (boundaryReads 1 (resultOneFrame .COMPLETED)))) := by
  intro hAgree
  have hTrackers := hAgree.trackers
  revert hTrackers
  decide

end System

end ControlPlane
