import ControlPlane.Boundary.Idempotency
import ControlPlane.System.Turns

/-
  Bets that are in flight when the Execution Plane is lost.

  The Execution Plane is lost when its last connection
  drops, its process exits, the watchdog gives it up or a
  stop completes. What a loss does to the operations in
  flight is spread over the tracker, the ledger and the
  coordinator. The tracker sweeps whatever is pending, most
  paths as failed; no path writes the ledger, so the record
  of a bet in flight never becomes uncertain by a loss.

  Main declarations:
    * `Boundary.unsettled_step`
    * `System.Loss` and `System.LossHandled`
    * `System.loss_never_handled`
-/

------------------------------------------------------------
-- Records Without A Result
------------------------------------------------------------

namespace ControlPlane

namespace Boundary

open ExecutionBoundaryManager

/- The record of the key, if there is one, is in flight. -/
def Unsettled
    (key : String)
    (b : Boundary) : Prop :=
  ∀ record,
    b.ledger.get? key = some record →
      record.status = .IN_FLIGHT

/- The event is a result that settles the key. -/
def SettlesKey
    (key : String)
    (b : Boundary)
    (event : Event) : Prop :=
  ∃ result status,
    b.manager.settledResult event.input =
      some (result, key, status)

/- A key handed over is in flight. -/
theorem unsettled_of_hands
    {key : String}
    {b : Boundary}
    {event : Event}
    (hHands : Hands key b event) :
    Unsettled key (step b event) := by
  rcases hHands.stored with
    ⟨payload, payloadWithOp, _, _, hStored⟩
  intro record hRecord
  rw [hStored] at hRecord
  rw [← Option.some.inj hRecord]
  rfl

/- Only a result takes a record out of flight. -/
theorem unsettled_step
    {key : String}
    (b : Boundary)
    (event : Event)
    (hUnsettled : Unsettled key b)
    (hPending : ¬ SettlesKey key b event) :
    Unsettled key (step b event) := by
  intro record hRecord
  unfold Unsettled ledger at hUnsettled
  unfold ledger at hRecord
  rcases step_ledgerEffect b event with
    ⟨hLedger, _⟩ | ⟨checked, hLedger, _⟩ |
    ⟨payload, payloadWithOp, _, _, _, hLedger, _⟩ |
    ⟨result, settled, status, hSettled, hLedger, _⟩
  · rw [hLedger] at hRecord
    exact hUnsettled record hRecord
  · rw [hLedger] at hRecord
    exact hUnsettled record
      (IdempotencyLedger.get?_of_check _ _ _ _ hRecord)
  · rw [hLedger] at hRecord
    by_cases hKey :
        key = idempotencyKeyOf (b.env event) payload
    · subst hKey
      rw [IdempotencyLedger.get?_recordInFlight_self]
        at hRecord
      rw [← Option.some.inj hRecord]
      rfl
    · have hChecked :=
        IdempotencyLedger.get?_of_recordInFlight _ _ _ _
          hKey hRecord
      exact hUnsettled record
        (IdempotencyLedger.get?_of_check _ _ _ _ hChecked)
  · by_cases hKey : key = settled
    · subst hKey
      exact absurd ⟨result, status, hSettled⟩ hPending
    · rw [hLedger, IdempotencyLedger.get?_recordTerminal,
        if_neg hKey] at hRecord
      exact hUnsettled record hRecord

end Boundary

end ControlPlane

------------------------------------------------------------
-- Losses
------------------------------------------------------------

namespace ControlPlane

/- The operation an envelope asks for. -/
def Frame.operationId (frame : Frame) : Option String :=
  frame.financialPayload.bind TacticalPayload.operationId

/- The accounts an envelope names. -/
def Frame.targets (frame : Frame) : List String :=
  match frame.financialPayload with
  | some payload =>
      if frame.type = .PLACE_BET then
        payload.targetAccounts.getD []
      else
        payload.accountId.toList
  | none => []

namespace System

open ExecutionBoundaryManager

/- The boundary is connected to the Execution Plane. -/
def isConnected (s : System) : Bool :=
  s.boundary.manager.transport.isConnected

/- The turn passes a result on that settles the key. -/
def AnswersKey
    (key : String)
    (s : System)
    (event : SystemEvent) : Prop :=
  match event.input with
  | .boundary input =>
      ∃ result status,
        s.boundary.manager.settledResult input =
          some (result, key, status)
  | _ => False

/- The turn resolves the operation in the coordinator. -/
def Reconciles
    (operationId : Option String)
    (s : System)
    (event : SystemEvent) : Prop :=
  ∃ call ∈ s.calls event, call.resolves = some operationId

/- The Execution Plane is lost in the turn. -/
inductive Loss
    (s : System)
    (event : SystemEvent) : Prop
| disconnected
    (connId : Nat)
    (hInput :
      event.input = .boundary ⟨.disconnected connId, rfl⟩ ∨
        event.input =
          .boundary ⟨.data connId .oversized, rfl⟩)
    (hBefore : s.isConnected = true)
    (hAfter : (s.step event).isConnected = false)
| exited
    (pid : Nat)
    (hInput : event.input = .runtimeExited pid)
    (hKnown :
      pid ∈ s.activeRuntimes ∨
        s.currentStartingPid = some pid)
| quarantined
    (elapsed lastSeen : Nat)
    (hInput :
      event.input = .boundary ⟨.checkLiveness, rfl⟩)
    (hAlert :
      Emitted.livenessAlert
          (.quarantineRequired elapsed lastSeen) ∈
        s.emitted event.surroundings event.elapsed
          .checkLiveness)
| stopped
    (hReply :
      (s.respond event).2 = some .stopped ∨
        (s.respond event).2 = some .emergencyStopped)

/-
  A bet in flight is uncertain in the tracker and in the
  ledger, and its accounts are frozen until the operation is
  reconciled.
-/
structure LossHandled
    (frame : Frame)
    (key : String)
    (s : System) : Prop where
  tracked :
    frame.operationId.bind s.tracker.statusOf =
      some .UNCERTAIN
  recorded :
    (s.boundary.ledger.get? key).map LedgerRecord.status =
      some .UNCERTAIN
  frozen :
    ∀ account ∈ frame.targets, ∀ later,
      Along step
          (fun state event =>
            ¬ Reconciles frame.operationId state event)
          s later →
        (run step s later).isAccountFrozen account = true

------------------------------------------------------------
-- What A Loss Does To The Tracker
------------------------------------------------------------

open OperationTracker in
theorem statusOf_standBy
    (s : System)
    (reason operationId : String) :
    (s.standBy reason).tracker.statusOf operationId =
      (s.tracker.statusOf operationId).map
        TrackedStatus.swept := by
  unfold standBy
  dsimp only
  rw [statusOf_failAllPending, statusOf_failAllPending,
    Option.map_map]
  congr 1
  funext status
  exact status.swept_swept

theorem stopServer_tracker
    (s : System)
    (surroundings : Surroundings)
    (elapsed : Nat) :
    (s.feed surroundings elapsed .stopServer).tracker =
      s.tracker :=
  connectionAborted_tracker _

/- A quarantine by the watchdog, and the sweep after it. -/
theorem statusOf_quarantineRequired
    (s : System)
    (surroundings : Surroundings)
    (operationId : String) :
    (s.quarantineRequired
        surroundings).tracker.statusOf operationId =
      (s.tracker.statusOf operationId).map
        TrackedStatus.quarantined := by
  unfold quarantineRequired
  dsimp only
  rw [connectionAborted_tracker]
  dsimp only
  rw [OperationTracker.statusOf_failAllPending]
  unfold quarantineExecution act
  dsimp only
  rw [OperationTracker.statusOf_quarantineAllPending,
    Option.map_map]
  congr 1
  funext status
  exact status.swept_quarantined

/- An exit is ignored, or sweeps what is pending. -/
theorem statusOf_runtimeLost
    (s : System)
    (pid : Nat)
    (operationId : String) :
    (s.runtimeLost pid).tracker.statusOf operationId =
        s.tracker.statusOf operationId ∨
      (s.runtimeLost pid).tracker.statusOf operationId =
        (s.tracker.statusOf operationId).map
          TrackedStatus.swept := by
  unfold runtimeLost
  split
  · exact .inl rfl
  · right
    exact OperationTracker.statusOf_failAllPending _ _ _

theorem statusOf_runtimeExited
    (s : System)
    (pid : Nat)
    (operationId : String) :
    (s.runtimeExited pid).tracker.statusOf operationId =
        s.tracker.statusOf operationId ∨
      (s.runtimeExited pid).tracker.statusOf operationId =
        (s.tracker.statusOf operationId).map
          TrackedStatus.swept := by
  have hLost :=
    statusOf_runtimeLost (s.terminateRuntime pid) pid
      operationId
  unfold runtimeExited
  dsimp only
  split
  · split
    · rw [connectionAborted_tracker]
      exact hLost
    · exact hLost
  · exact .inl rfl

/- The last turn of a stop sweeps what is pending. -/
theorem statusOf_stopServerAfter
    (s : System)
    (surroundings : Surroundings)
    (elapsed : Nat)
    (operationId : String) :
    (s.stopServerAfter surroundings elapsed
        .stop).1.tracker.statusOf operationId =
      (s.tracker.statusOf operationId).map
        TrackedStatus.swept := by
  unfold stopServerAfter finish
  dsimp only
  rw [statusOf_standBy, stopServer_tracker]
  rfl

/- So does the last turn of an emergency stop. -/
theorem statusOf_emergencyEnd
    (s : System)
    (answers : Answers)
    (operationId : String) :
    (s.emergencyEnd answers).1.tracker.statusOf
        operationId =
      (s.tracker.statusOf operationId).map
        TrackedStatus.swept := by
  unfold emergencyEnd finish
  dsimp only
  rw [statusOf_standBy, freezeSnapshot_eq]
  cases answers.maxCapacity with
  | none => rfl
  | some capacity => rfl

/- A turn in which the watchdog gives up. -/
theorem feed_checkLiveness
    {s : System}
    {surroundings : Surroundings}
    {elapsed age lastSeen : Nat}
    (hAlert :
      Emitted.livenessAlert
          (.quarantineRequired age lastSeen) ∈
        s.emitted surroundings elapsed .checkLiveness) :
    s.feed surroundings elapsed .checkLiveness =
      (s.act surroundings elapsed
        .checkLiveness).quarantineRequired surroundings := by
  have hEmitted :
      s.emitted surroundings elapsed .checkLiveness =
        [.livenessAlert
          (.quarantineRequired age lastSeen)] := by
    unfold emitted react checkLiveness at hAlert ⊢
    dsimp only at hAlert ⊢
    rcases List.mem_map.mp hAlert with ⟨alert, hMem, hEq⟩
    rw [Option.mem_toList] at hMem
    rw [Option.mem_def.mp hMem]
    exact congrArg (fun e => [e]) hEq
  unfold feed
  rw [hEmitted]
  rfl

/-
  A loss leaves a tracked operation as it is, fails it, or
  quarantines it by its status alone.
-/
theorem statusOf_of_loss
    {s : System}
    {event : SystemEvent}
    (hLoss : Loss s event)
    (operationId : String) :
    (s.step event).tracker.statusOf operationId =
        s.tracker.statusOf operationId ∨
      (s.step event).tracker.statusOf operationId =
          (s.tracker.statusOf operationId).map
            TrackedStatus.swept ∨
        (s.step event).tracker.statusOf operationId =
          (s.tracker.statusOf operationId).map
            TrackedStatus.quarantined := by
  unfold step
  rcases hLoss with
    ⟨connId, hInput | hInput, _, _⟩ | ⟨pid, hInput, _⟩ |
    ⟨elapsed, lastSeen, hInput, hAlert⟩ | ⟨hReply⟩
  · left
    unfold respond
    rw [hInput]
    rfl
  · left
    unfold respond
    rw [hInput]
    rfl
  · unfold respond
    rw [hInput]
    rcases statusOf_runtimeExited s pid operationId with
      hKept | hSwept
    · exact .inl hKept
    · exact .inr (.inl hSwept)
  · right
    right
    unfold respond
    rw [hInput]
    dsimp only
    rw [feed_checkLiveness hAlert,
      statusOf_quarantineRequired]
    rfl
  · right
    left
    rcases hReply with hStopped | hEmergency
    · rcases respond_completes hStopped with
        ⟨answers, hInput, hHolder⟩
      unfold respond
      rw [hInput]
      dsimp only
      unfold resume
      rw [hHolder]
      exact statusOf_stopServerAfter s _ _ operationId
    · cases respond_completes hEmergency with
      | emergencyStopped answers hInput hHolder =>
          unfold respond
          rw [hInput]
          dsimp only
          unfold resume
          rw [hHolder]
          exact statusOf_emergencyEnd s answers operationId

/- When the turn is a loss, it keeps the bet uncertain. -/
def HandlesLoss
    (frame : Frame)
    (key : String)
    (s : System)
    (event : SystemEvent) : Prop :=
  Loss s event → LossHandled frame key (s.step event)

/- Calls of a turn itself carry no result. -/
theorem not_settlesKey_of_internal
    {s : System}
    {event : SystemEvent}
    {call : Event}
    (hInternal : s.Internal event call)
    (key : String)
    (b : Boundary) :
    ¬ Boundary.SettlesKey key b call := by
  have hNone :
      b.manager.settledResult call.input = none := by
    rcases hInternal with hQuiet | ⟨_, hInitializes⟩
    · unfold Event.Quiet at hQuiet
      cases hInput : call.input with
      | data connId data =>
          rw [hInput] at hQuiet
          cases hQuiet
      | _ => rfl
    · cases hInput : call.input with
      | data connId data =>
          rw [hInput] at hInitializes
          cases hInitializes
      | _ => rfl
  rintro ⟨result, status, hSettled⟩
  rw [hNone] at hSettled
  cases hSettled

/- The calls of a turn itself keep a key in flight. -/
theorem unsettled_of_entered
    {key : String}
    (s : System)
    (event : SystemEvent)
    (hEntered :
      Boundary.Unsettled key (s.entered event).boundary) :
    Boundary.Unsettled key (s.step event).boundary := by
  have hKept :
      ∀ (b : Boundary) (call : Event),
        Boundary.Unsettled key b →
          s.Internal event call →
            Boundary.Unsettled key (b.step call) := by
    intro b call hUnsettled hInternal
    exact Boundary.unsettled_step b call hUnsettled
      (not_settlesKey_of_internal hInternal key b)
  exact (s.step_turn event).boundary.invariant hKept hEntered

theorem unsettled_turn
    {key : String}
    (s : System)
    (event : SystemEvent)
    (hUnsettled : Boundary.Unsettled key s.boundary)
    (hPending : ¬ AnswersKey key s event) :
    Boundary.Unsettled key (s.step event).boundary := by
  apply unsettled_of_entered
  unfold entered
  unfold AnswersKey at hPending
  cases hInput : event.input with
  | boundary input =>
      rw [hInput] at hPending
      exact Boundary.unsettled_step s.boundary _ hUnsettled
        hPending
  | _ => exact hUnsettled

/- A turn that hands a key over leaves it in flight. -/
theorem unsettled_of_handed
    {key : String}
    {s : System}
    {event : SystemEvent}
    {frame : Frame}
    (hFrame :
      frame ∈ handed s.boundary.manager
        (s.entered event).boundary.manager)
    (hKey : frame.financialKey = some key) :
    Boundary.Unsettled key (s.step event).boundary := by
  apply unsettled_of_entered
  unfold entered at hFrame ⊢
  cases hInput : event.input with
  | boundary input =>
      rw [hInput] at hFrame
      exact Boundary.unsettled_of_hands ⟨frame, hFrame, hKey⟩
  | _ =>
      rw [hInput] at hFrame
      rw [handed_of_sent_eq rfl] at hFrame
      cases hFrame

/-
  Once a bet is handed over and no result settles its key,
  no loss of the Execution Plane keeps it uncertain, however
  it happens and whatever came before it.
-/
theorem loss_never_handled
    (s : System)
    (dispatch : SystemEvent)
    (events : List SystemEvent)
    (loss : SystemEvent)
    {frame : Frame}
    {key : String}
    (hFrame :
      frame ∈ handed s.boundary.manager
        (s.entered dispatch).boundary.manager)
    (hKey : frame.financialKey = some key)
    (hPending :
      Along step
        (fun state event => ¬ AnswersKey key state event)
        (s.step dispatch) (events ++ [loss]))
    (hLoss : Loss (run step (s.step dispatch) events) loss) :
    ¬ HandlesLoss frame key
      (run step (s.step dispatch) events) loss := by
  intro hHandles
  have hUnsettled :
      Boundary.Unsettled key
        (run step (s.step dispatch)
          (events ++ [loss])).boundary :=
    run_invariant unsettled_turn
      (unsettled_of_handed hFrame hKey) hPending
  have hRecorded := (hHandles hLoss).recorded
  rcases Option.map_eq_some_iff.mp hRecorded with
    ⟨record, hRecord, hStatus⟩
  rw [run_append] at hUnsettled
  have hInFlight := hUnsettled record hRecord
  rw [hStatus] at hInFlight
  cases hInFlight

/- The envelope of the bet. -/
def betOneFrame : Frame where
  msgId := Surroundings.healthy.msgUlid
  traceId := Surroundings.healthy.traceUlid
  type := .PLACE_BET
  timestamp := 3
  payload := .tactical
    { idempotencyKey := some "k1"
      operationId := some "op_1"
      accountId := some "acc_1"
      targetAccounts := some ["acc_1"] }

/- A stop that is submitted and runs to its last turn. -/
def stopTurns : List SystemEvent :=
  [turn (.submit .stop), turn (.acquire {}),
    turn (.resume {})]

/- A stop does not keep a bet in flight uncertain. -/
theorem stop_never_handles_bet :
    ¬ HandlesLoss betOneFrame "k1"
      (run step (betQueued.step placeBetOne) stopTurns)
      (turn (.resume {})) := by
  apply loss_never_handled betQueued placeBetOne stopTurns
    (turn (.resume {}))
  · decide
  · decide
  · refine ⟨?_, ?_, ?_, ?_, trivial⟩
    all_goals
      intro hAnswers
      cases hAnswers
  · exact .stopped (.inl (by decide))

/-
  A bet is sent, the stop completes, and the bet is reported
  as failed although its record is still in flight and its
  account is not frozen.
-/
theorem stopped_bet_reported_failed :
    Loss (run step (betQueued.step placeBetOne) stopTurns)
        (turn (.resume {})) ∧
      betOneFrame ∈ handed betQueued.boundary.manager
          (betQueued.entered
            placeBetOne).boundary.manager ∧
        ¬ LossHandled betOneFrame "k1"
          (run step (betQueued.step placeBetOne)
            (stopTurns ++ [turn (.resume {})])) := by
  refine ⟨.stopped (.inl (by decide)), by decide, ?_⟩
  intro hHandled
  have hFailed :
      (run step (betQueued.step placeBetOne)
          (stopTurns ++ [turn (.resume {})])).tracker.statusOf
        "op_1" = some .FAILED := by
    decide
  have hUncertain := hHandled.tracked
  change OperationTracker.statusOf _ "op_1" = _ at hUncertain
  rw [hFailed] at hUncertain
  cases hUncertain

end System

end ControlPlane
