import ControlPlane.System.Turns

/-
  The calls that the system makes of the tracker.

  The message handlers, the listeners and the lifecycle
  commands change the tracker by a few calls. Each call
  writes a status without reading the one it replaces; the
  sweeps alone look at it first.

  Main declarations:
    * `TrackerCall` and `OperationTracker.statusOf_apply`
    * `System.trackerCalls`
    * `System.step_tracker`
-/

------------------------------------------------------------
-- Calls Of The Tracker
------------------------------------------------------------

namespace ControlPlane

inductive TrackerCall where
| startOperation
    (operationId : String) (actionType : ActionType)
    (metadata : OperationMetadata)
| updateStatus (operationId : String) (status : TrackedStatus)
| completeOperation (operationId : String)
| failOperation (operationId errorReason : String)
| markUncertain (operationId reason : String)
| quarantineAllPending (reason : String)
| failAllPending (errorReason : String)
deriving DecidableEq, Repr

namespace TrackerCall

/- The tracker after a call. -/
def apply
    (t : OperationTracker) : TrackerCall → OperationTracker
| .startOperation operationId actionType metadata =>
    t.startOperation operationId actionType metadata
| .updateStatus operationId status =>
    t.updateStatus operationId status
| .completeOperation operationId =>
    t.completeOperation operationId
| .failOperation operationId errorReason =>
    t.failOperation operationId errorReason
| .markUncertain operationId reason =>
    t.markUncertain operationId reason
| .quarantineAllPending reason =>
    (t.quarantineAllPending reason).1
| .failAllPending errorReason => t.failAllPending errorReason

/- The call settles every pending operation at once. -/
def sweeps : TrackerCall → Bool
| .quarantineAllPending _ => true
| .failAllPending _ => true
| _ => false

/- What a call makes of the status of an operation. -/
def statusAfter
    (operationId : String)
    (status : Option TrackedStatus) :
    TrackerCall → Option TrackedStatus
| .startOperation other _ _ =>
    if operationId = other then some .QUEUED else status
| .updateStatus other now =>
    if operationId = other then status.map (fun _ => now)
    else status
| .completeOperation other =>
    if operationId = other then
      status.map (fun _ => .COMPLETED)
    else
      status
| .failOperation other _ =>
    if operationId = other then status.map (fun _ => .FAILED)
    else status
| .markUncertain other _ =>
    if operationId = other then
      status.map (fun _ => .UNCERTAIN)
    else
      status
| .quarantineAllPending _ =>
    status.map TrackedStatus.quarantined
| .failAllPending _ => status.map TrackedStatus.swept

end TrackerCall

namespace OperationTracker

/- A changed operation has the status that is written. -/
theorem statusOf_change
    (t : OperationTracker)
    (changed : String)
    (f : TrackedOperation → TrackedOperation)
    {status : TrackedStatus}
    (hWrites : ∀ op, (f op).status = status)
    (operationId : String) :
    (t.change changed f).statusOf operationId =
      if operationId = changed then
        (t.statusOf operationId).map (fun _ => status)
      else
        t.statusOf operationId := by
  unfold change
  cases hOp : t.getOperation changed with
  | none =>
      dsimp only
      split
      · rename_i hSame
        rw [hSame]
        unfold statusOf
        rw [hOp]
        rfl
      · rfl
  | some op =>
      dsimp only
      unfold statusOf getOperation
      dsimp only
      by_cases hSame : operationId = changed
      · rw [hSame, if_pos rfl, OrderedMap.get?_set_self]
        unfold getOperation at hOp
        rw [hOp]
        exact congrArg some (hWrites op)
      · rw [if_neg hSame, OrderedMap.get?_set_of_ne _ _ hSame]

theorem statusOf_startOperation
    (t : OperationTracker)
    (started : String)
    (actionType : ActionType)
    (metadata : OperationMetadata)
    (operationId : String) :
    (t.startOperation started actionType
        metadata).statusOf operationId =
      if operationId = started then some .QUEUED
      else t.statusOf operationId := by
  unfold statusOf getOperation startOperation
  dsimp only
  by_cases hSame : operationId = started
  · rw [hSame, if_pos rfl, OrderedMap.get?_set_self]
    rfl
  · rw [if_neg hSame, OrderedMap.get?_set_of_ne _ _ hSame]

/- The statuses after a call. -/
theorem statusOf_apply
    (t : OperationTracker)
    (call : TrackerCall)
    (operationId : String) :
    (call.apply t).statusOf operationId =
      call.statusAfter operationId
        (t.statusOf operationId) := by
  cases call with
  | startOperation started actionType metadata =>
      exact statusOf_startOperation t started actionType
        metadata operationId
  | updateStatus changed status =>
      exact statusOf_change t changed
        (fun op => { op with status := status }) (fun _ => rfl)
        operationId
  | completeOperation changed =>
      exact statusOf_change t changed
        TrackedOperation.completed (fun _ => rfl)
        operationId
  | failOperation changed errorReason =>
      exact statusOf_change t changed
        (TrackedOperation.failed errorReason) (fun _ => rfl)
        operationId
  | markUncertain changed reason =>
      exact statusOf_change t changed
        (TrackedOperation.uncertain reason) (fun _ => rfl)
        operationId
  | quarantineAllPending reason =>
      exact statusOf_quarantineAllPending t reason operationId
  | failAllPending errorReason =>
      exact statusOf_failAllPending t errorReason operationId

end OperationTracker

------------------------------------------------------------
-- What A Turn Calls
------------------------------------------------------------

namespace System

/- The call that a result of the boundary leads to. -/
def resultCall (result : OperationResult) : TrackerCall :=
  match result.operationId with
  | some operationId =>
      if operationId = "" then
        .failAllPending "OPERATION_RESULT_WITHOUT_ID"
      else if result.isCompleted then
        .completeOperation operationId
      else if result.isUncertain then
        .markUncertain operationId
          (presentOr result.error "UNCERTAIN_OUTCOME")
      else
        .failOperation operationId
          (presentOr result.error (defaultError result))
  | none => .failAllPending "OPERATION_RESULT_WITHOUT_ID"

/- The calls of the listeners on an event. -/
def emittedTrackerCalls : Emitted → List TrackerCall
| .operationResult result => [resultCall result]
| .livenessAlert (.quarantineRequired _ _) =>
    [.quarantineAllPending
        "Execution Quarantined: WATCHDOG_HEARTBEAT_DEAD",
      .failAllPending "WATCHDOG_HEARTBEAT_DEAD"]
| _ => []

/- The calls of a workspace that stands by. -/
def standByCalls (reason : String) : List TrackerCall :=
  [.failAllPending reason,
    .failAllPending "AUTOMATION_STOPPED"]

/- A newer process is wanted, and the exit is ignored. -/
def ignoresExit
    (s : System)
    (pid : Nat) : Bool :=
  decide (s.desired = .RUNNING ∧
    (s.activeRuntimes ≠ [] ∨ s.currentStartingPid ≠ none) ∧
    pid ∉ s.activeRuntimes)

/- The exit of a process settles what is pending. -/
def exitSweeps
    (s : System)
    (pid : Nat) : Bool :=
  decide (pid ∈ s.activeRuntimes ∨
      s.currentStartingPid = some pid) &&
    !(s.terminateRuntime pid).ignoresExit pid

/- The calls that a turn makes of the tracker. -/
def trackerCalls
    (s : System)
    (event : SystemEvent) : List TrackerCall :=
  match event.input with
  | .boundary input =>
      (s.emitted event.surroundings event.elapsed
        input).flatMap emittedTrackerCalls
  | .startOperation operationId actionType metadata =>
      [.startOperation operationId actionType metadata]
  | .runtimeAck operationId =>
      [.updateStatus operationId .IN_FLIGHT]
  | .runtimeResult operationId success error =>
      if success then [.completeOperation operationId]
      else [.failOperation operationId error]
  | .runtimeExited pid =>
      if s.exitSweeps pid then
        [.failAllPending
          ("PROCESS_EXIT_PID_" ++ toString pid)]
      else
        []
  | .quarantine reason =>
      [.quarantineAllPending
        ("Execution Quarantined: " ++ reason)]
  | .workspace .stopAutomation =>
      standByCalls "AUTOMATION_STOPPED"
  | .resume _ =>
      match s.holder with
      | some (.stopTerminating .stop) =>
          standByCalls "AUTOMATION_STOPPED"
      | some .emergencySnapshot =>
          standByCalls "EMERGENCY_STOP"
      | _ => []
  | _ => []

theorem trackResult_eq
    (t : OperationTracker)
    (result : OperationResult) :
    trackResult t result = (resultCall result).apply t := by
  unfold trackResult resultCall
  cases result.operationId with
  | none => rfl
  | some operationId =>
      dsimp only
      by_cases hEmpty : operationId = ""
      · rw [if_pos hEmpty, if_pos hEmpty]
        rfl
      · rw [if_neg hEmpty, if_neg hEmpty]
        by_cases hCompleted : result.isCompleted = true
        · rw [if_pos hCompleted, if_pos hCompleted]
          rfl
        · rw [if_neg hCompleted, if_neg hCompleted]
          by_cases hUncertain : result.isUncertain = true
          · rw [if_pos hUncertain, if_pos hUncertain]
            rfl
          · rw [if_neg hUncertain, if_neg hUncertain]
            rfl

theorem hear_tracker
    (surroundings : Surroundings)
    (s : System)
    (emitted : Emitted) :
    (hear surroundings s emitted).tracker =
      run TrackerCall.apply s.tracker
        (emittedTrackerCalls emitted) := by
  cases emitted with
  | clientConnected connId =>
      unfold hear connectionArrived
      dsimp only
      split <;> rfl
  | connectionAborted =>
      exact connectionAborted_tracker s
  | livenessAlert alert =>
      cases alert with
      | quarantineRequired elapsed lastSeen =>
          exact connectionAborted_tracker _
      | _ => rfl
  | stateChanged state message =>
      unfold hear engineStateChanged
      dsimp only
      split <;> rfl
  | operationResult result =>
      exact trackResult_eq s.tracker result
  | _ => rfl

theorem listen_tracker
    (surroundings : Surroundings)
    (s : System)
    (emitted : List Emitted) :
    (emitted.foldl (hear surroundings) s).tracker =
      run TrackerCall.apply s.tracker
        (emitted.flatMap emittedTrackerCalls) := by
  induction emitted generalizing s with
  | nil => rfl
  | cons first rest ih =>
      rw [List.foldl_cons, ih, List.flatMap_cons,
        run_append, hear_tracker]

theorem feed_tracker
    (s : System)
    (surroundings : Surroundings)
    (elapsed : Nat)
    (input : Input) :
    (s.feed surroundings elapsed input).tracker =
      run TrackerCall.apply s.tracker
        ((s.emitted surroundings elapsed input).flatMap
          emittedTrackerCalls) :=
  listen_tracker surroundings
    (s.act surroundings elapsed input) _

theorem runtimeLost_tracker
    (s : System)
    (pid : Nat) :
    (s.runtimeLost pid).tracker =
      if s.ignoresExit pid then
        s.tracker
      else
        s.tracker.failAllPending
          ("PROCESS_EXIT_PID_" ++ toString pid) := by
  unfold runtimeLost ignoresExit
  split
  · rename_i hStale
    rw [decide_eq_true hStale, if_pos rfl]
  · rename_i hHeard
    rw [decide_eq_false hHeard, if_neg Bool.false_ne_true]

theorem runtimeExited_tracker
    (s : System)
    (pid : Nat) :
    (s.runtimeExited pid).tracker =
      if s.exitSweeps pid then
        s.tracker.failAllPending
          ("PROCESS_EXIT_PID_" ++ toString pid)
      else
        s.tracker := by
  have hLost := (s.terminateRuntime pid).runtimeLost_tracker pid
  unfold exitSweeps
  by_cases hKnown :
      pid ∈ s.activeRuntimes ∨
        s.currentStartingPid = some pid
  · have hExited :
        (s.runtimeExited pid).tracker =
          ((s.terminateRuntime pid).runtimeLost
            pid).tracker := by
      unfold runtimeExited
      dsimp only
      rw [if_pos hKnown]
      split
      · exact connectionAborted_tracker _
      · rfl
    rw [hExited, hLost, decide_eq_true hKnown, Bool.true_and]
    cases (s.terminateRuntime pid).ignoresExit pid with
    | true => rfl
    | false => rfl
  · rw [decide_eq_false hKnown, Bool.false_and,
      if_neg Bool.false_ne_true]
    unfold runtimeExited
    dsimp only
    rw [if_neg hKnown]
    rfl

theorem startCluster_tracker
    (s : System)
    (pid : Nat) :
    (s.startCluster pid).1.tracker = s.tracker := by
  unfold startCluster
  split
  · rfl
  · split <;> rfl

theorem startSpawn_tracker
    (s : System)
    (surroundings : Surroundings)
    (elapsed : Nat)
    (answers : Answers) :
    (s.startSpawn surroundings elapsed answers).1.tracker =
      s.tracker := by
  unfold startSpawn
  dsimp only
  split
  · split
    · rename_i result spawned pid hSpawn
      rw [startCluster_tracker]
      unfold spawnRuntime at hSpawn
      split at hSpawn
      · cases hSpawn
      · rcases Option.map_eq_some_iff.mp hSpawn with
          ⟨started, _, hPair⟩
        cases hPair
        rfl
    · rfl
  · rfl

theorem acquire_tracker
    (s : System)
    (surroundings : Surroundings)
    (elapsed : Nat)
    (answers : Answers) :
    (s.acquire surroundings elapsed answers).1.tracker =
      s.tracker := by
  unfold acquire
  split
  · unfold startBegin
    split
    · rfl
    · dsimp only
      split
      · rfl
      · exact startSpawn_tracker _ _ _ _
  · rfl
  · rfl
  · rfl

theorem resume_tracker
    (s : System)
    (event : SystemEvent)
    {answers : Answers}
    (hInput : event.input = .resume answers) :
    (s.resume event.surroundings event.elapsed
        answers).1.tracker =
      run TrackerCall.apply s.tracker
        (s.trackerCalls event) := by
  unfold trackerCalls resume
  rw [hInput]
  cases hHolder : s.holder with
  | none => rfl
  | some stage =>
      cases stage with
      | startSnapshot => exact startSpawn_tracker s _ _ _
      | startConnecting pid => rfl
      | startConnected pid =>
          dsimp only
          unfold startInitialize
          split
          · rfl
          · dsimp only
            split <;> rfl
      | startInitializing pid msgId =>
          dsimp only
          split
          · rfl
          · split
            · rfl
            · exact connectionAborted_tracker _
      | startFailed pid => exact connectionAborted_tracker _
      | stopDispatched kind => rfl
      | stopTerminating kind =>
          have hSevered :
              (s.terminateAll.feed event.surroundings
                event.elapsed .stopServer).tracker =
                  s.tracker :=
            connectionAborted_tracker _
          unfold stopServerAfter
          cases kind with
          | stop =>
              dsimp only
              unfold standBy finish
              dsimp only
              rw [hSevered]
              rfl
          | emergency => exact hSevered
      | emergencySnapshot =>
          dsimp only
          unfold emergencyEnd
          rw [freezeSnapshot_eq]
          cases answers.maxCapacity with
          | none => rfl
          | some capacity => rfl

/- The tracker after a turn, call by call. -/
theorem step_tracker
    (s : System)
    (event : SystemEvent) :
    (s.step event).tracker =
      run TrackerCall.apply s.tracker
        (s.trackerCalls event) := by
  unfold step respond
  cases hInput : event.input with
  | resume answers => exact resume_tracker s event hInput
  | boundary input =>
      unfold trackerCalls
      rw [hInput]
      exact feed_tracker s _ _ input
  | runtimeResult operationId success error =>
      unfold trackerCalls
      rw [hInput]
      cases success with
      | true => rfl
      | false => rfl
  | runtimeStateChanged state =>
      unfold trackerCalls runtimeStateChanged
      rw [hInput]
      dsimp only
      split <;> rfl
  | runtimeExited pid =>
      unfold trackerCalls
      rw [hInput]
      dsimp only
      rw [runtimeExited_tracker]
      split <;> rfl
  | handshakeTimeout pid =>
      unfold trackerCalls handshakeTimeout
      rw [hInput]
      dsimp only
      split
      · exact connectionAborted_tracker _
      · rfl
  | connectionTimeout =>
      unfold trackerCalls
      rw [hInput]
      exact connectionAborted_tracker s
  | workspace input =>
      unfold trackerCalls
      rw [hInput]
      cases input with
      | _ => rfl
  | submit command =>
      unfold trackerCalls submit
      rw [hInput]
      cases command with
      | start accountIds =>
          dsimp only
          split <;> rfl
      | _ => rfl
  | acquire answers =>
      unfold trackerCalls
      rw [hInput]
      exact acquire_tracker s _ _ answers
  | cancelAllBets maxCapacity =>
      unfold trackerCalls
      rw [hInput]
      dsimp only
      rw [freezeSnapshot_eq]
      cases maxCapacity with
      | none => rfl
      | some capacity => rfl
  | freezeAccount target reason =>
      unfold trackerCalls freezeAccount
      rw [hInput]
      dsimp only
      split
      · split <;> rfl
      · rfl
  | _ =>
      unfold trackerCalls
      rw [hInput]
      rfl

end System

------------------------------------------------------------
-- Calls On Frames And Sweeps
------------------------------------------------------------

/- The result in a frame. -/
def InboundData.result? : InboundData → Option OperationResult
| .envelope frame =>
    match frame.payload with
    | .operationResult result => some result
    | _ => none
| _ => none

namespace System

open ExecutionBoundaryManager

/- The boundary reads a frame. -/
def boundaryReads
    (connId : Nat)
    (frame : InboundEnvelope) : SystemInput :=
  .boundary ⟨.data connId (.envelope frame), rfl⟩

/- Collecting the accounts of the result throws. -/
def resultThrows
    (m : ExecutionBoundaryManager)
    (result : OperationResult) : Bool :=
  result.isUncertain &&
    (m.correlated result).affectedAccounts.isNone

/- The tracker hears of a result that is emitted. -/
theorem resultEmitted_calls
    (m : ExecutionBoundaryManager)
    (result : OperationResult) :
    (m.resultEmitted result).flatMap emittedTrackerCalls =
      if resultThrows m result then []
      else [resultCall result] := by
  unfold resultEmitted resultThrows
  dsimp only
  cases result.isUncertain with
  | false => rfl
  | true =>
      cases (m.correlated result).affectedAccounts with
      | none => rfl
      | some accounts =>
          rw [if_pos rfl]
          dsimp only
          rw [List.flatMap_append]
          have hFrozen :
              (accounts.map
                (fun account =>
                  Emitted.accountFrozen account
                    (presentOr
                      (m.correlated result).operationId
                      "unknown_op"))).flatMap
                emittedTrackerCalls = [] := by
            rw [List.flatMap_map]
            exact List.flatMap_eq_nil_iff.mpr
              (fun _ _ => rfl)
          rw [hFrozen]
          rfl

theorem boundaryReads_calls
    (s : System)
    (surroundings : Surroundings)
    (elapsed connId : Nat)
    {frame : InboundEnvelope}
    {result : OperationResult}
    (hPayload : frame.payload = .operationResult result) :
    s.trackerCalls
        { elapsed := elapsed
          surroundings := surroundings
          input := boundaryReads connId frame } =
      if resultThrows s.boundary.manager result then []
      else [resultCall result] := by
  rcases s.boundary.manager.settleCorrelation_eq frame with
    ⟨pending, hSettle⟩
  unfold trackerCalls boundaryReads emitted react
    handleIncomingData
  dsimp only
  rw [hSettle, hPayload]
  exact resultEmitted_calls _ result

/- Frames without a result do not reach the tracker. -/
theorem data_calls
    (env : Env)
    (m : ExecutionBoundaryManager)
    (connId : Nat)
    {data : InboundData}
    (hData : data.result? = none) :
    (m.handleIncomingData env connId data).2.flatMap
      emittedTrackerCalls = [] := by
  cases data with
  | envelope frame =>
      unfold InboundData.result? at hData
      unfold handleIncomingData
      dsimp only at hData ⊢
      cases hPayload : frame.payload with
      | operationResult result =>
          rw [hPayload] at hData
          cases hData
      | stateChanged state message =>
          unfold handlePayload stateChangedEmitted
          dsimp only
          split
          · split <;> rfl
          · rfl
      | snapshotDump engineStatus activeBrowserCount runs =>
          unfold handlePayload handleSnapshotDump
          dsimp only
          split <;> rfl
      | _ => rfl
  | _ => rfl

theorem checkLiveness_calls
    (env : Env)
    (m : ExecutionBoundaryManager) :
    ∀ call ∈ (m.checkLiveness env).2.flatMap
        emittedTrackerCalls, call.sweeps = true := by
  intro call hCall
  rcases List.mem_flatMap.mp hCall with
    ⟨emitted, hEmitted, hMem⟩
  rcases List.mem_map.mp hEmitted with ⟨alert, _, rfl⟩
  cases alert with
  | quarantineRequired elapsed lastSeen =>
      rcases List.mem_cons.mp hMem with rfl | hLast
      · rfl
      · rw [List.mem_singleton.mp hLast]
        rfl
  | _ => cases hMem

theorem standByCalls_sweep
    (reason : String) :
    ∀ call ∈ standByCalls reason, call.sweeps = true := by
  intro call hCall
  rcases List.mem_cons.mp hCall with rfl | hLast
  · rfl
  · rw [List.mem_singleton.mp hLast]
    rfl

theorem resultCall_sweeps
    {result : OperationResult}
    (hAnonymous :
      ∀ operationId,
        result.operationId = some operationId →
          operationId = "") :
    (resultCall result).sweeps = true := by
  unfold resultCall
  cases hId : result.operationId with
  | none => rfl
  | some operationId =>
      dsimp only
      rw [if_pos (hAnonymous operationId hId)]
      rfl

/- The frame brings a result that the tracker hears of. -/
structure HearsResult
    (m : ExecutionBoundaryManager)
    (data : InboundData)
    (result : OperationResult)
    (operationId : String) : Prop where
  brings : data.result? = some result
  names : result.operationId = some operationId
  present : operationId ≠ ""
  emits : resultThrows m result = false

/- A turn in which the boundary reads a frame or junk. -/
def dataTurn
    (surroundings : Surroundings)
    (elapsed connId : Nat)
    (data : InboundData)
    (hExternal : (Input.data connId data).external = true) :
    SystemEvent where
  elapsed := elapsed
  surroundings := surroundings
  input := .boundary ⟨.data connId data, hExternal⟩

/- A frame brings a result, sweeps, or is not heard of. -/
theorem dataTurn_calls
    (s : System)
    (surroundings : Surroundings)
    (elapsed connId : Nat)
    (data : InboundData)
    (hExternal : (Input.data connId data).external = true) :
    (∃ result operationId,
        HearsResult s.boundary.manager data result
            operationId ∧
          s.trackerCalls (dataTurn surroundings elapsed connId
            data hExternal) = [resultCall result]) ∨
      (∀ result operationId,
          ¬ HearsResult s.boundary.manager data result
            operationId) ∧
        ∀ call ∈ s.trackerCalls (dataTurn surroundings elapsed
            connId data hExternal), call.sweeps = true := by
  cases hResult : data.result? with
  | none =>
      refine .inr ⟨?_, ?_⟩
      · intro result operationId hHears
        rw [hHears.brings] at hResult
        cases hResult
      · have hNone :
            s.trackerCalls (dataTurn surroundings elapsed
              connId data hExternal) = [] :=
          data_calls _ s.boundary.manager connId hResult
        simp [hNone]
  | some result =>
      cases data with
      | envelope frame =>
          have hPayload :
              frame.payload = .operationResult result := by
            unfold InboundData.result? at hResult
            dsimp only at hResult
            split at hResult
            · rename_i found hFound
              rw [hFound, Option.some.inj hResult]
            · cases hResult
          have hCalls :
              s.trackerCalls (dataTurn surroundings elapsed
                connId (.envelope frame) hExternal) = _ :=
            s.boundaryReads_calls surroundings elapsed connId
              hPayload
          rw [hCalls]
          by_cases hHeard :
              ∃ operationId,
                HearsResult s.boundary.manager
                  (.envelope frame) result operationId
          · rcases hHeard with ⟨operationId, hHears⟩
            refine .inl ⟨result, operationId, hHears, ?_⟩
            simp [hHears.emits]
          · refine .inr ⟨?_, ?_⟩
            · intro same operationId hHears
              have hSame := hHears.brings
              rw [hResult] at hSame
              rw [← Option.some.inj hSame] at hHears
              exact hHeard ⟨operationId, hHears⟩
            · split
              · simp
              · rename_i hEmits
                simp only [List.mem_singleton, forall_eq]
                apply resultCall_sweeps
                intro operationId hId
                by_contra hPresent
                exact hHeard ⟨operationId, hResult, hId,
                  hPresent, Bool.eq_false_iff.mpr hEmits⟩
      | _ => cases hResult

/- The input may name the operation whose status it writes. -/
def writesStatus : SystemInput → Bool
| .startOperation _ _ _ => true
| .runtimeAck _ => true
| .runtimeResult _ _ _ => true
| .boundary ⟨.data _ _, _⟩ => true
| _ => false

/- Every other input sweeps, if it calls the tracker. -/
theorem trackerCalls_sweep
    (s : System)
    (elapsed : Nat)
    (surroundings : Surroundings)
    {input : SystemInput}
    (hOther : writesStatus input = false) :
    ∀ call ∈ s.trackerCalls
        { elapsed := elapsed
          surroundings := surroundings
          input := input }, call.sweeps = true := by
  cases input with
  | startOperation operationId actionType metadata =>
      cases hOther
  | runtimeAck operationId => cases hOther
  | runtimeResult operationId success error => cases hOther
  | boundary input =>
      rcases input with ⟨input, hExternal⟩
      cases input with
      | data connId data => cases hOther
      | checkLiveness => exact checkLiveness_calls _ _
      | _ =>
          intro call hCall
          cases hCall
  | runtimeExited pid =>
      unfold trackerCalls
      dsimp only
      split
      · intro call hCall
        rw [List.mem_singleton.mp hCall]
        rfl
      · intro call hCall
        cases hCall
  | quarantine reason =>
      intro call hCall
      rw [List.mem_singleton.mp hCall]
      rfl
  | workspace input =>
      cases input with
      | stopAutomation => exact standByCalls_sweep _
      | _ =>
          intro call hCall
          cases hCall
  | resume answers =>
      unfold trackerCalls
      dsimp only
      split
      · exact standByCalls_sweep _
      · exact standByCalls_sweep _
      · intro call hCall
        cases hCall
  | _ =>
      intro call hCall
      cases hCall

end System

end ControlPlane
