import ControlPlane.System.Results

/-
  Operations end once, or do not.

  Acknowledgements and results come in any order, and each
  is written to the tracker whatever its operation has come
  to. What has ended is safe from the sweeps, and from every
  turn that is orderly.

  Main declarations:
    * `System.EndsOnce` and `System.Orderly`
    * `System.endsOnce_iff`
    * `System.endsOnce_along_iff`
-/

------------------------------------------------------------
-- Finished Operations
------------------------------------------------------------

namespace ControlPlane

/- The operation has ended, as far as it is known. -/
def TrackedStatus.finished : TrackedStatus → Bool
| .COMPLETED => true
| .FAILED => true
| .UNCERTAIN => true
| _ => false

/- The operation that an input brings a result of. -/
def SystemInput.resultOf : SystemInput → Option String
| .runtimeResult operationId _ _ => some operationId
| .boundary ⟨.data _ data, _⟩ =>
    data.result?.bind OperationResult.operationId
| _ => none

namespace System

/-
  A finished operation keeps its status in the turn, unless
  a result settles an uncertain one.
-/
def EndsOnce
    (s : System)
    (event : SystemEvent) : Prop :=
  ∀ operationId before,
    s.tracker.statusOf operationId = some before →
      before.finished = true →
        (s.step event).tracker.statusOf operationId =
            some before ∨
          before = .UNCERTAIN ∧
            event.input.resultOf = some operationId ∧
            ((s.step event).tracker.statusOf operationId =
                some .COMPLETED ∨
              (s.step event).tracker.statusOf operationId =
                some .FAILED)

/- The operation is tracked and has ended. -/
def isFinished
    (s : System)
    (operationId : String) : Bool :=
  (s.tracker.statusOf operationId).any TrackedStatus.finished

/-
  The status that a result names is not the opposite of one
  that is final.
-/
def Consistent
    (s : System)
    (operationId : String)
    (named : TrackedStatus) : Prop :=
  (s.tracker.statusOf operationId = some .COMPLETED →
      named = .COMPLETED) ∧
    (s.tracker.statusOf operationId = some .FAILED →
      named = .FAILED)

/-
  New operations and acknowledgements name operations that
  have not ended, and results do not contradict one that has
  completed or failed.
-/
def Orderly
    (s : System)
    (event : SystemEvent) : Prop :=
  match event.input with
  | .startOperation operationId _ _ =>
      s.isFinished operationId = false
  | .runtimeAck operationId =>
      s.isFinished operationId = false
  | .runtimeResult operationId success _ =>
      s.Consistent operationId
        (if success then .COMPLETED else .FAILED)
  | .boundary ⟨.data _ data, _⟩ =>
      ∀ result operationId,
        data.result? = some result →
          result.operationId = some operationId →
            operationId ≠ "" →
              resultThrows s.boundary.manager result =
                  false →
                s.Consistent operationId
                  result.listenerStatus
  | _ => True

/- A sweep leaves what has ended alone. -/
theorem statusOf_sweeps
    (t : OperationTracker)
    (calls : List TrackerCall)
    (hSweeps : ∀ call ∈ calls, call.sweeps = true)
    {operationId : String}
    {before : TrackedStatus}
    (hBefore : t.statusOf operationId = some before)
    (hFinished : before.finished = true) :
    (run TrackerCall.apply t calls).statusOf operationId =
      some before := by
  induction calls generalizing t with
  | nil => exact hBefore
  | cons call calls ih =>
      rw [run_cons]
      apply ih
      · intro later hLater
        exact hSweeps later (List.mem_cons_of_mem call hLater)
      · have hSweep := hSweeps call List.mem_cons_self
        rw [OperationTracker.statusOf_apply, hBefore]
        cases call with
        | quarantineAllPending reason =>
            cases before with
            | COMPLETED => rfl
            | FAILED => rfl
            | UNCERTAIN => rfl
            | _ => cases hFinished
        | failAllPending reason =>
            cases before with
            | COMPLETED => rfl
            | FAILED => rfl
            | UNCERTAIN => rfl
            | _ => cases hFinished
        | _ => cases hSweep

theorem endsOnce_of_sweeps
    {s : System}
    {event : SystemEvent}
    (hSweeps :
      ∀ call ∈ s.trackerCalls event, call.sweeps = true) :
    EndsOnce s event := by
  intro operationId before hBefore hFinished
  left
  rw [step_tracker]
  exact statusOf_sweeps s.tracker _ hSweeps hBefore hFinished

/-
  A turn that writes one status to one operation, without
  bringing a result of it.
-/
theorem endsOnce_of_write
    {s : System}
    {event : SystemEvent}
    {written : String}
    (now : TrackedStatus)
    (hOpen : now.finished = false)
    (hQuiet : event.input.resultOf = none)
    (hStatus :
      ∀ operationId,
        s.tracker.statusOf operationId ≠ none →
          (s.step event).tracker.statusOf operationId =
            if operationId = written then some now
            else s.tracker.statusOf operationId) :
    EndsOnce s event ↔ s.isFinished written = false := by
  constructor
  · intro hEnds
    unfold isFinished
    cases hBefore : s.tracker.statusOf written with
    | none => rfl
    | some before =>
        cases hFinished : before.finished with
        | false =>
            rw [Option.any_some]
            exact hFinished
        | true =>
            have hNow :=
              hStatus written (by rw [hBefore]; exact nofun)
            rw [if_pos rfl] at hNow
            rcases hEnds written before hBefore hFinished with
              hKept | ⟨_, hResult, _⟩
            · rw [hNow] at hKept
              rw [Option.some.inj hKept, hFinished] at hOpen
              cases hOpen
            · rw [hQuiet] at hResult
              cases hResult
  · intro hUnfinished operationId before hBefore hFinished
    left
    rw [hStatus operationId (by rw [hBefore]; exact nofun)]
    by_cases hSame : operationId = written
    · rw [hSame] at hBefore
      unfold isFinished at hUnfinished
      rw [hBefore, Option.any_some, hFinished] at hUnfinished
      cases hUnfinished
    · rw [if_neg hSame]
      exact hBefore

/- A turn that brings a result of one operation. -/
theorem endsOnce_of_result
    {s : System}
    {event : SystemEvent}
    {named : String}
    {now : TrackedStatus}
    (hFinal : now.finished = true)
    (hResult : event.input.resultOf = some named)
    (hStatus :
      ∀ operationId,
        (s.step event).tracker.statusOf operationId =
          if operationId = named then
            (s.tracker.statusOf operationId).map
              (fun _ => now)
          else
            s.tracker.statusOf operationId) :
    EndsOnce s event ↔ s.Consistent named now := by
  have hNamed := hStatus named
  rw [if_pos rfl] at hNamed
  constructor
  · intro hEnds
    have hKeeps :
        ∀ before : TrackedStatus, before.finished = true →
          before ≠ .UNCERTAIN →
            s.tracker.statusOf named = some before →
              now = before := by
      intro before hFinished hCertain hBefore
      rw [hBefore] at hNamed
      rcases hEnds named before hBefore hFinished with
        hKept | ⟨hUncertain, _⟩
      · rw [hNamed] at hKept
        exact Option.some.inj hKept
      · exact absurd hUncertain hCertain
    exact ⟨hKeeps .COMPLETED rfl nofun,
      hKeeps .FAILED rfl nofun⟩
  · intro hConsistent operationId before hBefore hFinished
    by_cases hSame : operationId = named
    · subst hSame
      rw [hNamed, hBefore]
      cases before with
      | COMPLETED =>
          exact .inl (congrArg some (hConsistent.1 hBefore))
      | FAILED =>
          exact .inl (congrArg some (hConsistent.2 hBefore))
      | UNCERTAIN =>
          cases now with
          | COMPLETED =>
              exact .inr ⟨rfl, hResult, .inl rfl⟩
          | FAILED => exact .inr ⟨rfl, hResult, .inr rfl⟩
          | UNCERTAIN => exact .inl rfl
          | _ => cases hFinal
      | _ => cases hFinished
    · left
      rw [hStatus operationId, if_neg hSame]
      exact hBefore

/- The statuses after a result that the listener hears. -/
theorem statusOf_resultCall
    (t : OperationTracker)
    {result : OperationResult}
    {named : String}
    (hId : result.operationId = some named)
    (hPresent : named ≠ "")
    (operationId : String) :
    ((resultCall result).apply t).statusOf operationId =
      if operationId = named then
        (t.statusOf operationId).map
          (fun _ => result.listenerStatus)
      else
        t.statusOf operationId := by
  rw [OperationTracker.statusOf_apply]
  unfold resultCall OperationResult.listenerStatus
  rw [hId]
  dsimp only
  rw [if_neg hPresent]
  split
  · rfl
  · split <;> rfl

theorem listenerStatus_finished
    (result : OperationResult) :
    result.listenerStatus.finished = true := by
  unfold OperationResult.listenerStatus
  split
  · rfl
  · split <;> rfl

/- A frame of the pipe keeps what has ended, or does not. -/
theorem endsOnce_iff_of_data
    (s : System)
    (surroundings : Surroundings)
    (elapsed connId : Nat)
    (data : InboundData)
    (hExternal : (Input.data connId data).external = true) :
    EndsOnce s
        (dataTurn surroundings elapsed connId data
          hExternal) ↔
      Orderly s
        (dataTurn surroundings elapsed connId data
          hExternal) := by
  unfold Orderly
  dsimp only [dataTurn]
  rcases s.dataTurn_calls surroundings elapsed connId data
      hExternal with
    ⟨result, named, hHears, hCalls⟩ | ⟨hUnheard, hSweeps⟩
  · have hStatus :
        ∀ operationId,
          (s.step (dataTurn surroundings elapsed connId data
            hExternal)).tracker.statusOf operationId =
              if operationId = named then
                (s.tracker.statusOf operationId).map
                  (fun _ => result.listenerStatus)
              else
                s.tracker.statusOf operationId := by
      intro operationId
      rw [step_tracker, hCalls]
      exact statusOf_resultCall s.tracker hHears.names
        hHears.present operationId
    have hResultOf :
        (dataTurn surroundings elapsed connId data
          hExternal).input.resultOf = some named := by
      simp [dataTurn, SystemInput.resultOf, hHears.brings,
        hHears.names]
    refine (endsOnce_of_result
      (listenerStatus_finished result) hResultOf
        hStatus).trans ?_
    constructor
    · intro hConsistent same operationId hSame hId _ _
      rw [hHears.brings] at hSame
      rw [← Option.some.inj hSame] at hId ⊢
      rw [hHears.names] at hId
      rw [← Option.some.inj hId]
      exact hConsistent
    · intro hAll
      exact hAll result named hHears.brings hHears.names
        hHears.present hHears.emits
  · apply iff_of_true (endsOnce_of_sweeps hSweeps)
    intro result operationId hBrings hNames hPresent hEmits
    exact absurd ⟨hBrings, hNames, hPresent, hEmits⟩
      (hUnheard result operationId)

/- A turn keeps what has ended exactly when it is orderly. -/
theorem endsOnce_iff
    (s : System)
    (event : SystemEvent) :
    EndsOnce s event ↔ Orderly s event := by
  rcases event with ⟨elapsed, surroundings, input⟩
  cases input with
  | boundary input =>
      rcases input with ⟨input, hExternal⟩
      cases input with
      | data connId data =>
          exact endsOnce_iff_of_data s surroundings elapsed
            connId data hExternal
      | _ =>
          apply iff_of_true _ trivial
          apply endsOnce_of_sweeps
          exact s.trackerCalls_sweep _ _ rfl
  | startOperation operationId actionType metadata =>
      apply endsOnce_of_write .QUEUED rfl rfl
      intro other _
      rw [step_tracker]
      exact OperationTracker.statusOf_apply s.tracker
        (.startOperation operationId actionType metadata)
        other
  | runtimeAck operationId =>
      apply endsOnce_of_write .IN_FLIGHT rfl rfl
      intro other hTracked
      rw [step_tracker]
      refine (OperationTracker.statusOf_apply s.tracker
        (.updateStatus operationId .IN_FLIGHT) other).trans
          ?_
      unfold TrackerCall.statusAfter
      dsimp only
      cases hOther : s.tracker.statusOf other with
      | none => exact absurd hOther hTracked
      | some before => rfl
  | runtimeResult operationId success error =>
      cases success with
      | true =>
          apply endsOnce_of_result rfl rfl
          intro other
          rw [step_tracker]
          exact OperationTracker.statusOf_apply s.tracker
            (.completeOperation operationId) other
      | false =>
          apply endsOnce_of_result rfl rfl
          intro other
          rw [step_tracker]
          exact OperationTracker.statusOf_apply s.tracker
            (.failOperation operationId error) other
  | _ =>
      apply iff_of_true _ trivial
      apply endsOnce_of_sweeps
      exact s.trackerCalls_sweep _ _ rfl

/-
  The operations of a run end once exactly when every turn
  of it is orderly.
-/
theorem endsOnce_along_iff
    (s : System)
    (events : List SystemEvent) :
    Along step EndsOnce s events ↔
      Along step Orderly s events := by
  constructor
  · intro hEnds
    exact hEnds.mono
      (fun state event => (endsOnce_iff state event).mp)
  · intro hOrderly
    exact hOrderly.mono
      (fun state event => (endsOnce_iff state event).mpr)

/-
  A bet is completed by its result; its acknowledgement
  comes late and makes it in flight again.
-/
theorem late_ack_reopens :
    ¬ Along step EndsOnce betPlaced
      [turn (boundaryReads 1 (resultOneFrame .SUCCESS)),
        turn (.runtimeAck "op_1")] := by
  rintro ⟨_, hEnds, _⟩
  rcases hEnds "op_1" .COMPLETED (by decide) rfl with
    hKept | ⟨hUncertain, _⟩
  · revert hKept
    decide
  · cases hUncertain

end System

end ControlPlane
