import ControlPlane.System.Processes

/-
  The lifecycle that is shown and the processes behind it.

  The observed state and the lifecycle of the workspace are
  written by the lifecycle commands, by routes that go on
  after their command, by the exit and disconnect callbacks
  and by states that the Execution Plane reports. Nothing
  compares them with the tracked runtimes when they are
  written.

  A command that is stopping or rolling back ends with both
  stopped; until it does, they may lag behind.

  Main declarations:
    * `System.Backed` and `backed_turn`
    * `System.Supported`
    * `Supervised.no_phantom_running`
-/

------------------------------------------------------------
-- Backed Lifecycles
------------------------------------------------------------

namespace ControlPlane

/- The state says that automation runs or starts. -/
def ObservedState.live : ObservedState → Bool
| .RUNNING => true
| .STARTING => true
| .STARTING_HANDSHAKE => true
| _ => false

/- The event reports a live state. -/
def Emitted.reportsLive : Emitted → Bool
| .stateChanged state _ => (System.observedFrom state).live
| _ => false

/- The frame reports a live state. -/
def InboundData.reportsLive : InboundData → Bool
| .envelope frame =>
    match frame.payload with
    | .stateChanged (some state) _ =>
        (System.observedFrom state).live
    | _ => false
| _ => false

/-
  Inputs that raise the lifecycle: a state that the
  Execution Plane reports and the continuation of a start.
-/
def SystemInput.raises : SystemInput → Bool
| .boundary ⟨.data _ data, _⟩ => data.reportsLive
| .runtimeStateChanged state =>
    (ObservedState.read state).live
| .workspace .startAutomation => true
| _ => false

/- The command ends with the lifecycle stopped. -/
def Stage.settling : Stage → Bool
| .startFailed _ => true
| .stopDispatched _ => true
| .stopTerminating _ => true
| .emergencySnapshot => true
| _ => false

namespace System

/- A stop or a rollback holds the mutex. -/
def settling (s : System) : Bool :=
  s.holder.any Stage.settling

/-
  A live lifecycle has a tracked runtime behind it, unless
  it is being settled. A runtime that is still starting is
  the one the start waits for, or is rolled back.
-/
structure Backed (s : System) : Prop where
  observed :
    s.observed.live = true →
      s.settling = true ∨ s.activeRuntimes ≠ []
  lifecycle :
    s.lifecycle.live = true →
      s.settling = true ∨ s.activeRuntimes ≠ []
  single :
    ∀ pid ∈ s.activeRuntimes,
      s.currentStartingPid = none ∨
        s.currentStartingPid = some pid
  starting :
    ∀ pid ∈ s.activeRuntimes,
      s.currentStartingPid = some pid →
        s.holder = some (.startConnecting pid) ∨
          s.holder = some (.startFailed pid)

/- The part of the system that the invariant reads. -/
structure SameRuntimes (s next : System) : Prop where
  activeRuntimes : next.activeRuntimes = s.activeRuntimes
  currentStartingPid :
    next.currentStartingPid = s.currentStartingPid
  holder : next.holder = s.holder

theorem SameRuntimes.settling
    {s next : System}
    (hSame : SameRuntimes s next) :
    next.settling = s.settling := by
  unfold System.settling
  rw [hSame.holder]

namespace Backed

/- The lifecycle may be lowered at any time. -/
theorem lowered
    {s next : System}
    (hBacked : Backed s)
    (hSame : SameRuntimes s next)
    (hObserved :
      next.observed.live = true →
        s.observed.live = true ∨
          s.settling = true ∨ s.activeRuntimes ≠ [])
    (hLifecycle :
      next.lifecycle.live = true →
        s.lifecycle.live = true ∨
          s.settling = true ∨ s.activeRuntimes ≠ []) :
    Backed next := by
  have hSettling := hSame.settling
  rcases hSame with ⟨hActive, hCurrent, hHolder⟩
  refine ⟨?_, ?_, ?_, ?_⟩
  · intro hLive
    rw [hSettling, hActive]
    rcases hObserved hLive with hBefore | hNow
    · exact hBacked.observed hBefore
    · exact hNow
  · intro hLive
    rw [hSettling, hActive]
    rcases hLifecycle hLive with hBefore | hNow
    · exact hBacked.lifecycle hBefore
    · exact hNow
  · rw [hActive, hCurrent]
    exact hBacked.single
  · rw [hActive, hCurrent, hHolder]
    exact hBacked.starting

/- Turns that touch neither lifecycle nor runtimes. -/
theorem of_frame
    {s next : System}
    (hBacked : Backed s)
    (hSame : SameRuntimes s next)
    (hObserved : next.observed = s.observed)
    (hLifecycle : next.lifecycle = s.lifecycle) :
    Backed next := by
  apply hBacked.lowered hSame
  · intro hLive
    exact .inl (hObserved ▸ hLive)
  · intro hLive
    exact .inl (hLifecycle ▸ hLive)

/- Every runtime is given up and the lifecycle lowered. -/
theorem of_idle
    {s : System}
    (hIdle : s.activeRuntimes = [])
    (hObserved : s.observed.live = true → s.settling = true)
    (hLifecycle :
      s.lifecycle.live = true → s.settling = true) :
    Backed s := by
  refine ⟨?_, ?_, ?_, ?_⟩
  · intro hLive
    exact .inl (hObserved hLive)
  · intro hLive
    exact .inl (hLifecycle hLive)
  · intro pid hMem
    rw [hIdle] at hMem
    cases hMem
  · intro pid hMem
    rw [hIdle] at hMem
    cases hMem

/- No runtime is starting while the holder waits for none. -/
theorem not_starting
    {s : System}
    (hBacked : Backed s)
    (hHolder :
      ∀ pid, s.holder ≠ some (.startConnecting pid) ∧
        s.holder ≠ some (.startFailed pid))
    {pid : Nat}
    (hMem : pid ∈ s.activeRuntimes) :
    s.currentStartingPid ≠ some pid := by
  intro hStarting
  rcases hBacked.starting pid hMem hStarting with
    hConnecting | hFailed
  · exact (hHolder pid).1 hConnecting
  · exact (hHolder pid).2 hFailed

/-
  The holder goes on to another stage, while no runtime is
  starting. It does not leave a settling stage that way.
-/
theorem of_stage
    {s next : System}
    (hBacked : Backed s)
    (hHolder :
      ∀ pid, s.holder ≠ some (.startConnecting pid) ∧
        s.holder ≠ some (.startFailed pid))
    (hActive : next.activeRuntimes = s.activeRuntimes)
    (hCurrent :
      next.currentStartingPid = s.currentStartingPid)
    (hSettling : s.settling = true → next.settling = true)
    (hObserved :
      next.observed.live = true →
        s.observed.live = true ∨ next.settling = true)
    (hLifecycle :
      next.lifecycle.live = true →
        s.lifecycle.live = true ∨ next.settling = true) :
    Backed next := by
  refine ⟨?_, ?_, ?_, ?_⟩
  · intro hLive
    rcases hObserved hLive with hBefore | hNow
    · rcases hBacked.observed hBefore with hDone | hSome
      · exact .inl (hSettling hDone)
      · exact .inr (hActive ▸ hSome)
    · exact .inl hNow
  · intro hLive
    rcases hLifecycle hLive with hBefore | hNow
    · rcases hBacked.lifecycle hBefore with hDone | hSome
      · exact .inl (hSettling hDone)
      · exact .inr (hActive ▸ hSome)
    · exact .inl hNow
  · rw [hActive, hCurrent]
    exact hBacked.single
  · rw [hActive, hCurrent]
    intro pid hMem hStarting
    exact absurd hStarting (hBacked.not_starting hHolder hMem)

end Backed

------------------------------------------------------------
-- Listeners Keep It
------------------------------------------------------------

theorem connectionAborted_currentStartingPid
    (s : System) :
    s.connectionAborted.currentStartingPid =
      s.currentStartingPid := by
  unfold connectionAborted
  split <;> rfl

theorem connectionAborted_backed
    {s : System}
    (hBacked : Backed s) :
    Backed s.connectionAborted := by
  unfold connectionAborted
  split
  · rename_i waited hHolder
    refine ⟨?_, ?_, hBacked.single, ?_⟩
    · intro _
      exact .inl rfl
    · intro _
      exact .inl rfl
    · intro pid hMem hStarting
      right
      rcases hBacked.starting pid hMem hStarting with
        hConnecting | hFailed
      · rw [hHolder] at hConnecting
        cases hConnecting
        rfl
      · rw [hHolder] at hFailed
        cases hFailed
  · exact hBacked

theorem connectionArrived_backed
    {s : System}
    (hBacked : Backed s)
    (hNone : s.currentStartingPid = none) :
    Backed s.connectionArrived := by
  unfold connectionArrived
  split
  · rename_i waited hHolder
    have hPlain : s.settling = false := by
      unfold settling
      rw [hHolder]
      rfl
    refine ⟨?_, ?_, hBacked.single, ?_⟩
    · intro hLive
      rcases hBacked.observed hLive with hDone | hSome
      · rw [hPlain] at hDone
        cases hDone
      · exact .inr hSome
    · intro hLive
      rcases hBacked.lifecycle hLive with hDone | hSome
      · rw [hPlain] at hDone
        cases hDone
      · exact .inr hSome
    · intro pid _ hStarting
      have hStarting : s.currentStartingPid = some pid :=
        hStarting
      rw [hNone] at hStarting
      cases hStarting
  · exact hBacked

theorem Backed.forgetStarting
    {s : System}
    (hBacked : Backed s)
    (connections : List Nat) :
    Backed
      { s with
          activeConnections := connections
          currentStartingPid := none } := by
  refine ⟨hBacked.observed, hBacked.lifecycle, ?_, ?_⟩
  · intro pid _
    exact .inl rfl
  · intro pid _ hStarting
    cases hStarting

theorem observedAfterDrop_live
    {s : System}
    (hLive : s.observedAfterDrop.live = true) :
    s.observed.live = true := by
  unfold observedAfterDrop at hLive
  split at hLive
  · exact hLive
  · split at hLive
    · cases hLive
    · cases hLive

theorem setLifecycle_backed
    {s : System}
    (hBacked : Backed s)
    {state : ObservedState}
    (hSupported :
      state.live = true →
        s.settling = true ∨ s.activeRuntimes ≠ []) :
    Backed (s.setLifecycle state) := by
  refine hBacked.lowered ⟨rfl, rfl, rfl⟩ ?_ ?_
  · intro hLive
    exact .inr (hSupported hLive)
  · intro hLive
    exact .inr (hSupported hLive)

theorem engineStateChanged_backed
    {s : System}
    (hBacked : Backed s)
    (surroundings : Surroundings)
    {state : String}
    (hSupported :
      (observedFrom state).live = true →
        s.settling = true ∨ s.activeRuntimes ≠ []) :
    Backed (s.engineStateChanged surroundings state) := by
  unfold engineStateChanged
  split
  · rename_i hRunning
    rw [hRunning] at hSupported
    exact (setLifecycle_backed hBacked hSupported).of_frame
      ⟨rfl, rfl, rfl⟩ rfl rfl
  · exact setLifecycle_backed hBacked hSupported

theorem quarantineRequired_backed
    (s : System)
    (surroundings : Surroundings) :
    Backed (s.quarantineRequired surroundings) := by
  unfold quarantineRequired
  apply connectionAborted_backed
  apply Backed.of_idle rfl
  · intro hLive
    cases hLive
  · intro hLive
    cases hLive

theorem hear_backed
    {s : System}
    (hBacked : Backed s)
    (surroundings : Surroundings)
    (emitted : Emitted)
    (hSupported :
      emitted.reportsLive = true →
        s.settling = true ∨ s.activeRuntimes ≠ []) :
    Backed (hear surroundings s emitted) := by
  cases emitted with
  | clientConnected connId =>
      exact connectionArrived_backed
        (hBacked.forgetStarting _) rfl
  | clientDisconnected connId =>
      refine hBacked.lowered ⟨rfl, rfl, rfl⟩ ?_ ?_
      · intro hLive
        exact .inl (observedAfterDrop_live hLive)
      · intro hLive
        exact .inl hLive
  | connectionAborted =>
      exact connectionAborted_backed hBacked
  | livenessAlert alert =>
      cases alert with
      | quarantineRequired elapsed lastSeen =>
          exact quarantineRequired_backed s surroundings
      | livenessDegraded elapsed lastSeen =>
          apply setLifecycle_backed hBacked
          intro hLive
          cases hLive
      | livenessWarning elapsed lastSeen => exact hBacked
  | stateChanged state message =>
      exact engineStateChanged_backed hBacked surroundings
        hSupported
  | operationResult result =>
      exact hBacked.of_frame ⟨rfl, rfl, rfl⟩ rfl rfl
  | _ => exact hBacked

/- Listeners that hear of no live state keep it. -/
theorem listen_backed
    {s : System}
    (hBacked : Backed s)
    (surroundings : Surroundings)
    (emitted : List Emitted)
    (hQuiet : emitted.any Emitted.reportsLive = false) :
    Backed (emitted.foldl (hear surroundings) s) := by
  induction emitted generalizing s with
  | nil => exact hBacked
  | cons first rest ih =>
      rw [List.any_cons, Bool.or_eq_false_iff] at hQuiet
      rw [List.foldl_cons]
      apply ih _ hQuiet.2
      apply hear_backed hBacked
      rw [hQuiet.1]
      intro hLive
      cases hLive

------------------------------------------------------------
-- Reports Of The Execution Plane
------------------------------------------------------------

theorem resultEmitted_quiet
    (m : ExecutionBoundaryManager)
    (payload : OperationResult) :
    (m.resultEmitted payload).any Emitted.reportsLive =
      false := by
  unfold ExecutionBoundaryManager.resultEmitted
  dsimp only
  split
  · split
    · rfl
    · rw [List.any_append, List.any_map]
      simp [Function.comp_def, Emitted.reportsLive]
  · rfl

/- A frame that reports no live state emits none. -/
theorem handleIncomingData_quiet
    (env : Env)
    (m : ExecutionBoundaryManager)
    (connId : Nat)
    (data : InboundData)
    (hData : data.reportsLive = false) :
    (m.handleIncomingData env connId data).2.any
        Emitted.reportsLive = false := by
  cases data with
  | envelope envelope =>
      unfold InboundData.reportsLive at hData
      unfold ExecutionBoundaryManager.handleIncomingData
      dsimp only at hData ⊢
      cases hPayload : envelope.payload with
      | operationResult result =>
          exact resultEmitted_quiet _ result
      | stateChanged state message =>
          rw [hPayload] at hData
          cases state with
          | none => rfl
          | some text =>
              unfold ExecutionBoundaryManager.handlePayload
                ExecutionBoundaryManager.stateChangedEmitted
              dsimp only at hData ⊢
              split
              · rfl
              · rw [List.any_cons]
                unfold Emitted.reportsLive
                dsimp only
                rw [hData]
                rfl
      | snapshotDump engineStatus activeBrowserCount runs =>
          unfold ExecutionBoundaryManager.handlePayload
            ExecutionBoundaryManager.handleSnapshotDump
          dsimp only
          split <;> rfl
      | _ => rfl
  | _ => rfl

theorem checkLiveness_quiet
    (env : Env)
    (m : ExecutionBoundaryManager) :
    (m.checkLiveness env).2.any Emitted.reportsLive =
      false := by
  unfold ExecutionBoundaryManager.checkLiveness
  dsimp only
  rw [List.any_map]
  simp [Function.comp_def, Emitted.reportsLive]

/- A frame that reports a live state emits nothing else. -/
theorem handleIncomingData_live
    (env : Env)
    (m : ExecutionBoundaryManager)
    (connId : Nat)
    (data : InboundData)
    (hData : data.reportsLive = true) :
    (∃ state message,
        (m.handleIncomingData env connId data).2 =
          [.stateChanged state message]) ∨
      (m.handleIncomingData env connId data).2 = [] := by
  unfold InboundData.reportsLive at hData
  split at hData
  · rename_i envelope
    split at hData
    · rename_i text message hPayload
      unfold ExecutionBoundaryManager.handleIncomingData
      dsimp only
      rw [hPayload]
      unfold ExecutionBoundaryManager.handlePayload
        ExecutionBoundaryManager.stateChangedEmitted
      dsimp only
      split
      · exact .inr rfl
      · exact .inl ⟨text, message, rfl⟩
    · cases hData
  · cases hData

theorem act_backed
    {s : System}
    (hBacked : Backed s)
    (surroundings : Surroundings)
    (elapsed : Nat)
    (input : Input) :
    Backed (s.act surroundings elapsed input) :=
  hBacked.of_frame ⟨rfl, rfl, rfl⟩ rfl rfl

theorem feed_backed
    {s : System}
    (hBacked : Backed s)
    (surroundings : Surroundings)
    (elapsed : Nat)
    (input : Input)
    (hSupported :
      (∃ connId data, input = .data connId data ∧
          data.reportsLive = true) →
        s.settling = true ∨ s.activeRuntimes ≠ []) :
    Backed (s.feed surroundings elapsed input) := by
  have hActed := act_backed hBacked surroundings elapsed input
  unfold feed
  by_cases hReports :
      ∃ connId data, input = .data connId data ∧
        data.reportsLive = true
  · have hHere := hSupported hReports
    rcases hReports with ⟨connId, data, rfl, hData⟩
    rcases handleIncomingData_live
        (s.boundary.env
          (s.boundaryEvent surroundings elapsed
            (.data connId data)))
        s.boundary.manager connId data hData with
      ⟨state, message, hOne⟩ | hNone
    · have hEmitted :
          s.emitted surroundings elapsed (.data connId data) =
            [.stateChanged state message] := hOne
      rw [hEmitted]
      exact hear_backed hActed surroundings
        (.stateChanged state message) (fun _ => hHere)
    · have hEmitted :
          s.emitted surroundings elapsed (.data connId data) =
            [] := hNone
      rw [hEmitted]
      exact hActed
  · apply listen_backed hActed
    unfold emitted
    dsimp only
    cases input with
    | data connId data =>
        apply handleIncomingData_quiet
        rw [Bool.eq_false_iff]
        intro hData
        exact hReports ⟨connId, data, rfl, hData⟩
    | checkLiveness => exact checkLiveness_quiet _ _
    | _ => rfl

------------------------------------------------------------
-- Exits And Terminations
------------------------------------------------------------

/- Dropping a runtime leaves a lifecycle to be lowered. -/
theorem terminateRuntime_facts
    {s : System}
    (hBacked : Backed s)
    (pid : Nat) :
    (∀ other ∈ (s.terminateRuntime pid).activeRuntimes,
        (s.terminateRuntime pid).currentStartingPid = none ∨
          (s.terminateRuntime pid).currentStartingPid =
            some other) ∧
      ∀ other ∈ (s.terminateRuntime pid).activeRuntimes,
        (s.terminateRuntime pid).currentStartingPid =
            some other →
          other ≠ pid ∧
            (s.holder = some (.startConnecting other) ∨
              s.holder = some (.startFailed other)) := by
  have hKept :
      ∀ other ∈ (s.terminateRuntime pid).activeRuntimes,
        other ∈ s.activeRuntimes ∧ other ≠ pid := by
    intro other hMem
    have hBoth := List.mem_filter.mp hMem
    exact ⟨hBoth.1, by simpa using hBoth.2⟩
  have hCurrent :
      ∀ other,
        (s.terminateRuntime pid).currentStartingPid =
            some other →
          s.currentStartingPid = some other := by
    intro other hStarting
    unfold terminateRuntime at hStarting
    dsimp only at hStarting
    split at hStarting
    · cases hStarting
    · exact hStarting
  refine ⟨?_, ?_⟩
  · intro other hMem
    have hOther := hKept other hMem
    unfold terminateRuntime
    dsimp only
    split
    · exact .inl rfl
    · exact hBacked.single other hOther.1
  · intro other hMem hStarting
    have hOther := hKept other hMem
    exact ⟨hOther.2, hBacked.starting other hOther.1
      (hCurrent other hStarting)⟩

/- A lifecycle that is lowered as a runtime is dropped. -/
theorem terminated_backed
    {s next : System}
    (hBacked : Backed s)
    (pid : Nat)
    (hActive :
      next.activeRuntimes =
        (s.terminateRuntime pid).activeRuntimes)
    (hCurrent :
      next.currentStartingPid =
        (s.terminateRuntime pid).currentStartingPid)
    (hHolder :
      next.holder = s.holder ∨
        s.holder = some (.startFailed pid) ∨
          ∀ other,
            s.holder ≠ some (.startConnecting other) ∧
              s.holder ≠ some (.startFailed other))
    (hObserved :
      next.observed.live = true →
        next.settling = true ∨ next.activeRuntimes ≠ [])
    (hLifecycle :
      next.lifecycle.live = true →
        next.settling = true ∨ next.activeRuntimes ≠ []) :
    Backed next := by
  have hFacts := terminateRuntime_facts hBacked pid
  refine ⟨hObserved, hLifecycle, ?_, ?_⟩
  · rw [hActive, hCurrent]
    exact hFacts.1
  · rw [hActive, hCurrent]
    intro other hMem hStarting
    have hOther := hFacts.2 other hMem hStarting
    rcases hHolder with hSame | hFailed | hNeither
    · rw [hSame]
      exact hOther.2
    · rw [hFailed] at hOther
      rcases hOther.2 with hConnecting | hSame
      · cases hConnecting
      · cases hSame
        exact absurd rfl hOther.1
    · rcases hOther.2 with hConnecting | hFailed
      · exact absurd hConnecting (hNeither other).1
      · exact absurd hFailed (hNeither other).2

/-
  The exit of a process: either the lifecycle is lowered, or
  another runtime is tracked, or the process was not known
  and nothing is dropped.
-/
theorem runtimeLost_backed
    {s : System}
    (hBacked : Backed s)
    {pid : Nat}
    (hKnown :
      pid ∈ s.activeRuntimes ∨
        s.currentStartingPid = some pid) :
    Backed ((s.terminateRuntime pid).runtimeLost pid) := by
  have hGone :
      (s.terminateRuntime pid).currentStartingPid = none := by
    unfold terminateRuntime
    dsimp only
    split
    · rfl
    · rename_i hOther
      rcases hKnown with hMem | hStarting
      · rcases hBacked.single pid hMem with hNone | hSame
        · exact hNone
        · exact absurd hSame hOther
      · exact absurd hStarting hOther
  unfold runtimeLost
  split
  · rename_i hStale
    have hSome :
        (s.terminateRuntime pid).activeRuntimes ≠ [] := by
      rcases hStale.2.1 with hActive | hStarting
      · exact hActive
      · exact absurd hGone hStarting
    exact terminated_backed hBacked pid rfl rfl (.inl rfl)
      (fun _ => .inr hSome) (fun _ => .inr hSome)
  · refine terminated_backed hBacked pid rfl rfl (.inl rfl)
      ?_ ?_
    · intro hLive
      dsimp only at hLive
      split at hLive <;> cases hLive
    · intro hLive
      dsimp only at hLive
      split at hLive <;> cases hLive

theorem runtimeExited_backed
    {s : System}
    (hBacked : Backed s)
    (pid : Nat) :
    Backed (s.runtimeExited pid) := by
  unfold runtimeExited
  dsimp only
  split
  · rename_i hKnown
    have hLost := runtimeLost_backed hBacked hKnown
    split
    · exact connectionAborted_backed hLost
    · exact hLost
  · rename_i hUnknown
    rw [not_or] at hUnknown
    have hActive :
        (s.terminateRuntime pid).activeRuntimes =
          s.activeRuntimes := by
      apply List.filter_eq_self.mpr
      intro other hMem
      rw [decide_eq_true_iff]
      intro hSame
      exact hUnknown.1 (hSame ▸ hMem)
    have hCurrent :
        (s.terminateRuntime pid).currentStartingPid =
          s.currentStartingPid := if_neg hUnknown.2
    exact hBacked.of_frame ⟨hActive, hCurrent, rfl⟩ rfl rfl

/- The start that waits for the process is rolled back. -/
theorem handshakeTimeout_backed
    {s : System}
    (hBacked : Backed s)
    {pid : Nat}
    (hStarting : s.currentStartingPid = some pid) :
    Backed (s.handshakeTimeout pid) := by
  unfold handshakeTimeout
  split
  · rename_i hLate
    have hSettling :
        (s.terminateRuntime pid).connectionAborted.settling =
          true := by
      unfold connectionAborted
      rcases hBacked.starting pid hLate.2 hStarting with
        hConnecting | hFailed
      · have hHolder :
            (s.terminateRuntime pid).holder =
              some (.startConnecting pid) := hConnecting
        rw [hHolder]
        rfl
      · have hHolder :
            (s.terminateRuntime pid).holder =
              some (.startFailed pid) := hFailed
        rw [hHolder]
        unfold settling
        rw [hHolder]
        rfl
    have hCurrent :
        (s.terminateRuntime pid).currentStartingPid = none :=
      if_pos hStarting
    have hAborted :
        (s.terminateRuntime
            pid).connectionAborted.currentStartingPid =
          none := by
      rw [connectionAborted_currentStartingPid]
      exact hCurrent
    refine ⟨fun _ => .inl hSettling, fun _ => .inl hSettling,
      ?_, ?_⟩
    · intro other _
      exact .inl hAborted
    · intro other _ hOther
      rw [hAborted] at hOther
      cases hOther
  · exact hBacked

------------------------------------------------------------
-- Lifecycle Commands
------------------------------------------------------------

/- What a spawn leaves behind. -/
theorem spawnRuntime_facts
    {s spawned : System}
    {answers : Answers}
    {pid : Nat}
    (hSpawn : s.spawnRuntime answers = some (spawned, pid)) :
    spawned.activeRuntimes = [pid] ∧
      (spawned.currentStartingPid = none ∨
        spawned.currentStartingPid = some pid ∧
          spawned.boundary.manager.transport.isConnected =
            false) := by
  cases hDenied :
      (s.security.isDegraded ||
        !s.canStartAutomation answers.granted) with
  | true =>
      rw [spawnRuntime_denied s answers hDenied] at hSpawn
      cases hSpawn
  | false =>
      have hIdle : s.activeRuntimes = [] := by
        unfold canStartAutomation at hDenied
        simp only [Bool.or_eq_false_iff,
          Bool.not_eq_false', Bool.and_eq_true]
          at hDenied
        exact List.isEmpty_iff.mp hDenied.2.1.2
      unfold spawnRuntime at hSpawn
      rw [hDenied, if_neg Bool.false_ne_true,
        Option.map_eq_some_iff] at hSpawn
      rcases hSpawn with ⟨started, _, hPair⟩
      cases hPair
      refine ⟨?_, ?_⟩
      · dsimp only
        rw [hIdle]
        rfl
      · dsimp only
        split
        · exact .inl rfl
        · rename_i hAlone
          rw [not_or] at hAlone
          exact .inr ⟨rfl, Bool.eq_false_iff.mpr hAlone.2⟩

/- The start waits for the process that it spawned. -/
theorem startCluster_backed
    {s : System}
    {pid : Nat}
    (hActive : s.activeRuntimes = [pid])
    (hCurrent :
      s.currentStartingPid = none ∨
        s.currentStartingPid = some pid ∧
          s.boundary.manager.transport.isConnected = false) :
    Backed (s.startCluster pid).1 := by
  have hRuntimes :
      (s.startCluster pid).1.activeRuntimes = [pid] := by
    rw [startCluster_activeRuntimes, hActive]
  have hSome :
      (s.startCluster pid).1.activeRuntimes ≠ [] := by
    rw [hRuntimes]
    exact List.cons_ne_nil _ _
  have hStarting :
      (s.startCluster pid).1.currentStartingPid =
        s.currentStartingPid := by
    unfold startCluster
    split
    · rfl
    · split <;> rfl
  refine ⟨fun _ => .inr hSome, fun _ => .inr hSome, ?_, ?_⟩
  · intro other hMem
    rw [hRuntimes, List.mem_singleton] at hMem
    rw [hStarting, hMem]
    rcases hCurrent with hNone | hSame
    · exact .inl hNone
    · exact .inr hSame.1
  · intro other hMem hOther
    rw [hRuntimes, List.mem_singleton] at hMem
    rw [hStarting] at hOther
    rcases hCurrent with hNone | ⟨_, hAlone⟩
    · rw [hNone] at hOther
      cases hOther
    · rw [hMem]
      unfold startCluster
      split
      · exact .inr rfl
      · rw [hAlone, if_neg Bool.false_ne_true]
        exact .inl rfl

/- A start that comes to its spawn. -/
theorem startSpawn_backed
    {s : System}
    (hBacked : Backed s)
    (hHolder :
      s.holder = none ∨ s.holder = some .startSnapshot)
    (surroundings : Surroundings)
    (elapsed : Nat)
    (answers : Answers) :
    Backed
      (s.startSpawn surroundings elapsed answers).1 := by
  have hFree :
      ∀ pid, s.holder ≠ some (.startConnecting pid) ∧
        s.holder ≠ some (.startFailed pid) := by
    intro pid
    rcases hHolder with hNone | hSnapshot
    · rw [hNone]
      exact ⟨nofun, nofun⟩
    · rw [hSnapshot]
      exact ⟨nofun, nofun⟩
  have hPlain : s.settling = false := by
    unfold settling
    rcases hHolder with hNone | hSnapshot
    · rw [hNone]
      rfl
    · rw [hSnapshot]
      rfl
  unfold startSpawn
  dsimp only
  split
  · cases hSpawn :
        (feed { s with desired := .RUNNING } surroundings
          elapsed .startServer).spawnRuntime answers with
    | none =>
        dsimp only
        refine hBacked.of_stage hFree rfl rfl ?_ ?_ ?_
        · intro hDone
          rw [hPlain] at hDone
          cases hDone
        · intro hLive
          cases hLive
        · intro hLive
          cases hLive
    | some result =>
        have hFacts := spawnRuntime_facts hSpawn
        exact startCluster_backed
          (s := result.1.setLifecycle .STARTING)
          hFacts.1 hFacts.2
  · refine hBacked.of_stage hFree rfl rfl ?_ ?_ ?_
    · intro hDone
      rw [hPlain] at hDone
      cases hDone
    · intro hLive
      exact .inl hLive
    · intro hLive
      exact .inl hLive

theorem preStartReset_live
    {s : System}
    {state : ObservedState}
    (hLive : (s.preStartReset state).live = true) :
    state.live = true := by
  unfold preStartReset at hLive
  split at hLive
  · cases hLive
  · cases hLive
  · exact hLive

theorem startBegin_backed
    {s : System}
    (hBacked : Backed s)
    (hHolder : s.holder = none)
    (surroundings : Surroundings)
    (elapsed : Nat)
    (accountIds : List String)
    (answers : Answers) :
    Backed
      (s.startBegin surroundings elapsed accountIds
        answers).1 := by
  have hFree :
      ∀ pid, s.holder ≠ some (.startConnecting pid) ∧
        s.holder ≠ some (.startFailed pid) := by
    intro pid
    rw [hHolder]
    exact ⟨nofun, nofun⟩
  have hPlain : s.settling = false := by
    unfold settling
    rw [hHolder]
    rfl
  have hStaged :
      Backed
        { s with
            observed := s.preStartReset s.observed
            lifecycle := s.preStartReset s.lifecycle
            workspace :=
              s.workspace.stageForStart accountIds } := by
    refine hBacked.lowered ⟨rfl, rfl, rfl⟩ ?_ ?_
    · intro hLive
      exact .inl (preStartReset_live hLive)
    · intro hLive
      exact .inl (preStartReset_live hLive)
  unfold startBegin
  split
  · exact hBacked.of_frame ⟨rfl, rfl, hHolder.symm⟩ rfl rfl
  · dsimp only
    split
    · refine hStaged.of_stage hFree rfl rfl ?_ .inl .inl
      intro hDone
      have hDone : s.settling = true := hDone
      rw [hPlain] at hDone
      cases hDone
    · exact startSpawn_backed hStaged (.inl hHolder) _ _ _

theorem stopBegin_backed
    {s : System}
    (hBacked : Backed s)
    (hHolder : s.holder = none)
    (surroundings : Surroundings)
    (elapsed : Nat)
    (kind : StopKind) :
    Backed
      (s.stopBegin surroundings elapsed kind).1 := by
  refine hBacked.of_stage ?_ rfl rfl (fun _ => rfl)
    (fun _ => .inr rfl) (fun _ => .inr rfl)
  intro pid
  rw [hHolder]
  exact ⟨nofun, nofun⟩

theorem acquire_backed
    {s : System}
    (hBacked : Backed s)
    (surroundings : Surroundings)
    (elapsed : Nat)
    (answers : Answers) :
    Backed (s.acquire surroundings elapsed answers).1 := by
  have hDequeued :
      ∀ rest, Backed { s with queue := rest } := by
    intro rest
    exact hBacked.of_frame ⟨rfl, rfl, rfl⟩ rfl rfl
  unfold acquire
  split
  · rename_i accountIds rest hHolder hQueue
    exact startBegin_backed (hDequeued rest) hHolder
      _ _ _ _
  · rename_i rest hHolder hQueue
    exact stopBegin_backed (hDequeued rest) hHolder _ _ _
  · rename_i rest hHolder hQueue
    exact stopBegin_backed (hDequeued rest) hHolder _ _ _
  · exact hBacked

/- The envelope is handed over or the start has failed. -/
theorem startInitialize_backed
    {s : System}
    (hBacked : Backed s)
    {waited : Nat}
    (hHolder : s.holder = some (.startConnected waited))
    (surroundings : Surroundings)
    (elapsed pid : Nat)
    (answers : Answers) :
    Backed
      (s.startInitialize surroundings elapsed pid
        answers).1 := by
  have hFree :
      ∀ other, s.holder ≠ some (.startConnecting other) ∧
        s.holder ≠ some (.startFailed other) := by
    intro other
    rw [hHolder]
    exact ⟨nofun, nofun⟩
  have hPlain : s.settling ≠ true := by
    unfold settling
    rw [hHolder]
    exact Bool.false_ne_true
  unfold startInitialize
  split
  · exact hBacked.of_stage hFree rfl rfl
      (fun hDone => absurd hDone hPlain) .inl .inl
  · dsimp only
    split
    · exact hBacked.of_stage hFree rfl rfl
        (fun hDone => absurd hDone hPlain) .inl .inl
    · exact hBacked.of_stage hFree rfl rfl
        (fun hDone => absurd hDone hPlain) .inl .inl

theorem startRollback_backed
    {s : System}
    (hBacked : Backed s)
    {pid : Nat}
    (hHolder :
      s.holder = some (.startFailed pid) ∨
        ∀ other,
          s.holder ≠ some (.startConnecting other) ∧
            s.holder ≠ some (.startFailed other))
    (surroundings : Surroundings)
    (elapsed : Nat) :
    Backed
      (s.startRollback surroundings elapsed pid).1 := by
  refine terminated_backed hBacked pid ?_ ?_ (.inr hHolder)
    nofun nofun
  · exact startRollback_activeRuntimes s surroundings elapsed
      pid
  · exact connectionAborted_currentStartingPid _

theorem stopServerAfter_backed
    (s : System)
    (surroundings : Surroundings)
    (elapsed : Nat)
    (kind : StopKind) :
    Backed
      (s.stopServerAfter surroundings elapsed kind).1 := by
  apply Backed.of_idle
    (stopServerAfter_activeRuntimes s surroundings elapsed
      kind)
  · intro hLive
    unfold stopServerAfter at hLive ⊢
    cases kind with
    | stop => cases hLive
    | emergency => rfl
  · intro hLive
    unfold stopServerAfter at hLive ⊢
    cases kind with
    | stop => cases hLive
    | emergency => rfl

theorem emergencyEnd_backed
    {s : System}
    (hBacked : Backed s)
    (hHolder : s.holder = some .emergencySnapshot)
    (answers : Answers) :
    Backed (s.emergencyEnd answers).1 := by
  have hFree :
      ∀ pid, s.holder ≠ some (.startConnecting pid) ∧
        s.holder ≠ some (.startFailed pid) := by
    intro pid
    rw [hHolder]
    exact ⟨nofun, nofun⟩
  have hSnapshot :=
    s.freezeSnapshot_eq answers.maxCapacity "EMERGENCY_STOP"
  have hActive :
      (s.emergencyEnd answers).1.activeRuntimes =
        s.activeRuntimes :=
    s.freezeSnapshot_activeRuntimes _ _
  have hCurrent :
      (s.emergencyEnd answers).1.currentStartingPid =
        s.currentStartingPid := by
    unfold emergencyEnd
    rw [hSnapshot]
    cases answers.maxCapacity with
    | none => rfl
    | some capacity => rfl
  refine ⟨nofun, nofun, ?_, ?_⟩
  · rw [hActive, hCurrent]
    exact hBacked.single
  · rw [hActive, hCurrent]
    intro pid hMem hStarting
    exact absurd hStarting (hBacked.not_starting hFree hMem)

theorem resume_backed
    {s : System}
    (hBacked : Backed s)
    (surroundings : Surroundings)
    (elapsed : Nat)
    (answers : Answers) :
    Backed (s.resume surroundings elapsed answers).1 := by
  unfold resume
  cases hHolder : s.holder with
  | none => exact hBacked
  | some stage =>
      cases stage with
      | startSnapshot =>
          exact startSpawn_backed hBacked (.inr hHolder)
            _ _ _
      | startConnecting pid => exact hBacked
      | startConnected pid =>
          exact startInitialize_backed hBacked hHolder
            _ _ pid _
      | startInitializing pid msgId =>
          have hFree :
              ∀ other,
                s.holder ≠ some (.startConnecting other) ∧
                  s.holder ≠ some (.startFailed other) := by
            intro other
            rw [hHolder]
            exact ⟨nofun, nofun⟩
          have hPlain : s.settling ≠ true := by
            unfold settling
            rw [hHolder]
            exact Bool.false_ne_true
          dsimp only
          split
          · exact hBacked
          · split
            · exact hBacked.of_stage hFree rfl rfl
                (fun hDone => absurd hDone hPlain) .inl .inl
            · exact startRollback_backed hBacked
                (.inr hFree) _ _
      | startFailed pid =>
          exact startRollback_backed hBacked (.inl hHolder)
            _ _
      | stopDispatched kind =>
          exact Backed.of_idle rfl (fun _ => rfl)
            (fun _ => rfl)
      | stopTerminating kind =>
          exact stopServerAfter_backed s _ _ kind
      | emergencySnapshot =>
          exact emergencyEnd_backed hBacked hHolder answers

------------------------------------------------------------
-- One Turn
------------------------------------------------------------

/-
  The lifecycle is raised while a runtime is tracked or the
  lifecycle is being settled.
-/
def Supported
    (s : System)
    (event : SystemEvent) : Prop :=
  event.input.raises = true →
    s.settling = true ∨ s.activeRuntimes ≠ []

instance (s : System) (event : SystemEvent) :
    Decidable (Supported s event) :=
  inferInstanceAs (Decidable (_ → _))

theorem changeWorkspace_backed
    {s : System}
    (hBacked : Backed s)
    (input : WorkspaceInput)
    (hSupported :
      (SystemInput.workspace input).raises = true →
        s.settling = true ∨ s.activeRuntimes ≠ []) :
    Backed (s.changeWorkspace input) := by
  cases input with
  | startAutomation =>
      exact hBacked.lowered ⟨rfl, rfl, rfl⟩
        (fun _ => .inr (hSupported rfl))
        (fun _ => .inr (hSupported rfl))
  | stopAutomation =>
      exact hBacked.lowered ⟨rfl, rfl, rfl⟩ nofun nofun
  | _ => exact hBacked.of_frame ⟨rfl, rfl, rfl⟩ rfl rfl

theorem runtimeStateChanged_backed
    {s : System}
    (hBacked : Backed s)
    (state : String)
    (hSupported :
      (ObservedState.read state).live = true →
        s.settling = true ∨ s.activeRuntimes ≠ []) :
    Backed (s.runtimeStateChanged state) := by
  unfold runtimeStateChanged
  split
  · exact hBacked
  · exact setLifecycle_backed hBacked hSupported

theorem quarantine_backed
    (s : System)
    (surroundings : Surroundings)
    (elapsed : Nat)
    (reason : String) :
    Backed
      ((s.quarantineExecution surroundings elapsed
        reason).setLifecycle .ERROR_DEGRADED) :=
  Backed.of_idle rfl nofun nofun

/- A supported turn keeps the lifecycle backed. -/
theorem backed_turn
    {s : System}
    (hBacked : Backed s)
    (event : SystemEvent)
    (hSupported : Supported s event)
    (hTimer :
      ∀ pid, event.input = .handshakeTimeout pid →
        s.currentStartingPid = some pid) :
    Backed (s.step event) := by
  unfold Supported at hSupported
  unfold step respond
  cases hInput : event.input with
  | boundary input =>
      rw [hInput] at hSupported
      apply feed_backed hBacked
      rintro ⟨connId, data, hSame, hData⟩
      apply hSupported
      rcases input with ⟨input, hExternal⟩
      dsimp only at hSame
      subst hSame
      exact hData
  | runtimeStateChanged state =>
      rw [hInput] at hSupported
      exact runtimeStateChanged_backed hBacked state
        hSupported
  | runtimeExited pid =>
      exact runtimeExited_backed hBacked pid
  | handshakeTimeout pid =>
      exact handshakeTimeout_backed hBacked
        (hTimer pid hInput)
  | connectionTimeout =>
      exact connectionAborted_backed hBacked
  | quarantine reason =>
      exact quarantine_backed s _ _ reason
  | workspace input =>
      rw [hInput] at hSupported
      exact changeWorkspace_backed hBacked input hSupported
  | submit command =>
      dsimp only
      rcases s.submit_eq command with hDenied | hQueued
      · rw [hDenied]
        exact hBacked
      · rw [hQueued]
        exact hBacked.of_frame ⟨rfl, rfl, rfl⟩ rfl rfl
  | acquire answers => exact acquire_backed hBacked _ _ _
  | resume answers => exact resume_backed hBacked _ _ _
  | cancelAllBets maxCapacity =>
      dsimp only
      rw [freezeSnapshot_eq]
      cases maxCapacity with
      | none => exact hBacked
      | some capacity =>
          exact hBacked.of_frame ⟨rfl, rfl, rfl⟩ rfl rfl
  | freezeAccount target reason =>
      dsimp only
      rw [freezeAccount_eq]
      exact hBacked
  | _ => exact hBacked.of_frame ⟨rfl, rfl, rfl⟩ rfl rfl

end System

------------------------------------------------------------
-- Runs
------------------------------------------------------------

namespace Supervised

/- No command and no route continuation is outstanding. -/
def Quiescent (s : Supervised) : Prop :=
  s.system.holder = none ∧ s.system.queue = [] ∧
    s.continuations = []

/- Some process in the tracked runtimes is alive. -/
def HasRuntime (s : Supervised) : Prop :=
  ∃ pid ∈ s.system.activeRuntimes, pid ∈ s.alive

/-
  The lifecycle shows a run only when a tracked process is
  alive, and a start is not refused when none is.
-/
structure Truthful (s : Supervised) : Prop where
  observed :
    s.system.observed.live = true → s.HasRuntime
  lifecycle :
    s.system.lifecycle.live = true → s.HasRuntime
  startable :
    ¬ s.HasRuntime → s.system.alreadyRunning = false

/- The turn is supported, if it can be. -/
def SupportedTurn
    (s : Supervised)
    (event : SystemEvent) : Prop :=
  s.enabled event = true → s.system.Supported event

instance (s : Supervised) (event : SystemEvent) :
    Decidable (SupportedTurn s event) :=
  inferInstanceAs (Decidable (_ → _))

/- What a supported run keeps. -/
def Grounded (s : Supervised) : Prop :=
  s.Accounted ∧ s.system.Backed

theorem timer_of_enabled
    {s : Supervised}
    {event : SystemEvent}
    (hEnabled : s.enabled event = true)
    {pid : Nat}
    (hInput : event.input = .handshakeTimeout pid) :
    s.system.currentStartingPid = some pid := by
  unfold enabled at hEnabled
  rw [hInput, Bool.and_eq_true] at hEnabled
  exact of_decide_eq_true hEnabled.1

theorem grounded_step
    (s : Supervised)
    (event : SystemEvent)
    (hGrounded : s.Grounded)
    (hSupported : SupportedTurn s event) :
    (s.step event).Grounded := by
  refine ⟨accounted_step s event hGrounded.1, ?_⟩
  by_cases hEnabled : s.enabled event = true
  · rw [step_of_enabled hEnabled]
    exact System.backed_turn hGrounded.2 event
      (hSupported hEnabled)
      (fun _ hInput => timer_of_enabled hEnabled hInput)
  · rw [step_of_disabled hEnabled]
    exact hGrounded.2

theorem hasRuntime_iff
    {s : Supervised}
    (hAccounted : s.Accounted) :
    s.HasRuntime ↔ s.system.activeRuntimes ≠ [] := by
  constructor
  · rintro ⟨pid, hMem, _⟩ hNone
    rw [hNone] at hMem
    cases hMem
  · intro hSome
    rcases List.exists_mem_of_ne_nil _ hSome with
      ⟨pid, hMem⟩
    exact ⟨pid, hMem, hAccounted.tracked_alive pid hMem⟩

/- A start is refused over what the store observes. -/
theorem live_of_alreadyRunning
    {s : System}
    (hIdle : s.activeRuntimes = [])
    (hRefused : s.alreadyRunning = true) :
    s.observed.live = true := by
  unfold System.alreadyRunning at hRefused
  rw [hIdle] at hRefused
  simp only [List.isEmpty_nil, Bool.not_true, Bool.or_false,
    Bool.or_eq_true, decide_eq_true_eq] at hRefused
  rcases hRefused with hRunning | hHandshake
  · rw [hRunning]
    rfl
  · rw [hHandshake]
    rfl

/- Nothing settles a lifecycle in a quiescent state. -/
theorem truthful_of_grounded
    {s : Supervised}
    (hGrounded : s.Grounded)
    (hQuiescent : s.Quiescent) :
    s.Truthful := by
  have hPlain : s.system.settling ≠ true := by
    unfold System.settling
    rw [hQuiescent.1]
    exact Bool.false_ne_true
  have hRuntime := hasRuntime_iff hGrounded.1
  have hObserved :
      s.system.observed.live = true → s.HasRuntime := by
    intro hLive
    rcases hGrounded.2.observed hLive with hDone | hSome
    · exact absurd hDone hPlain
    · exact hRuntime.mpr hSome
  refine ⟨hObserved, ?_, ?_⟩
  · intro hLive
    rcases hGrounded.2.lifecycle hLive with hDone | hSome
    · exact absurd hDone hPlain
    · exact hRuntime.mpr hSome
  · intro hNone
    have hIdle : s.system.activeRuntimes = [] := by
      by_contra hSome
      exact hNone (hRuntime.mpr hSome)
    cases hRefused : s.system.alreadyRunning with
    | false => rfl
    | true =>
        exact absurd
          (hObserved (live_of_alreadyRunning hIdle hRefused))
          hNone

/-
  In a run that raises the lifecycle only while a runtime is
  tracked or a stop or rollback is settling it, every
  quiescent state shows a run only when a process is behind
  it.
-/
theorem no_phantom_running
    (maxEntries : Nat)
    (accounts : List WorkspaceAccount)
    (events : List SystemEvent)
    (hSupported :
      Along step SupportedTurn (fresh maxEntries accounts)
        events) :
    Throughout step (fun s => s.Quiescent → s.Truthful)
      (fresh maxEntries accounts) events := by
  have hFresh : (fresh maxEntries accounts).Grounded :=
    ⟨accounted_fresh maxEntries accounts,
      System.Backed.of_idle rfl nofun nofun⟩
  intro past future hEvents
  rw [hEvents, along_append] at hSupported
  have hReached :=
    run_invariant grounded_step hFresh hSupported.1
  exact truthful_of_grounded hReached

theorem started_run_truthful :
    Throughout step (fun s => s.Quiescent → s.Truthful)
      oneAccount
      (startedRun ++
        [System.turn (.workspace .startAutomation)]) := by
  apply no_phantom_running
  decide

/-
  The process exits after the start was answered; the route
  then shows a run that nothing is behind.
-/
theorem late_continuation_shows_phantom_run :
    ¬ Throughout step (fun s => s.Quiescent → s.Truthful)
      oneAccount
      (startedRun ++
        [System.turn (.runtimeExited 7),
          System.turn (.workspace .startAutomation)]) := by
  intro hAll
  have hEnd := hAll _ [] (List.append_nil _).symm
  have hQuiescent :
      (run step oneAccount
        (startedRun ++
          [System.turn (.runtimeExited 7),
            System.turn
              (.workspace .startAutomation)])).Quiescent := by
    unfold Quiescent
    decide
  rcases (hEnd hQuiescent).observed (by decide) with
    ⟨pid, hMem, _⟩
  have hNone :
      (run step oneAccount
        (startedRun ++
          [System.turn (.runtimeExited 7),
            System.turn
              (.workspace
                .startAutomation)])).system.activeRuntimes =
        [] := by
    decide
  rw [hNone] at hMem
  cases hMem

end Supervised

end ControlPlane
