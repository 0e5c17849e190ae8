import ControlPlane.Boundary.Reconciliation
import ControlPlane.System.Wiring

/-
  What one turn of the wired system does.

  A turn first lets its own input in: an input of the
  boundary, or a change of the security state. Everything
  after that is done by the commands and the listeners, who
  make only a few calls of the boundary and never touch the
  security state. A run of the system is therefore a run of
  the boundary, and a start comes to wait for its connection
  only in a turn whose security state is not degraded.

  Main declarations:
    * `System.Turn` and its laws
    * `System.entered`
    * `System.step_turn`
    * `System.respond_completes`
    * `System.loggedIn`
-/

------------------------------------------------------------
-- Turns
------------------------------------------------------------

namespace ControlPlane

/- The input hands decrypted credentials over. -/
def Input.initializes : Input → Bool
| .command (.initializeWorker _ _) => true
| _ => false

/- Calls of the boundary by commands and listeners. -/
def Event.Quiet (event : Event) : Prop :=
  event.input.housekeeping = true

namespace System

/- A start waits for its connection or for going on. -/
def waiting (s : System) : Bool :=
  match s.holder with
  | some (.startConnecting _) => true
  | some (.startConnected _) => true
  | _ => false

/- The parts of the system that a turn is about. -/
def frame (s : System) :
    Boundary × SecurityAuthority × Option Stage :=
  (s.boundary, s.security, s.holder)

/-
  The commands and listeners move the boundary by events of
  a kind, keep the security state, and let a start wait for
  its connection only when the system is not degraded.
-/
structure Turn
    (kind : Event → Prop)
    (s next : System) : Prop where
  boundary :
    Reaches Boundary.step kind s.boundary next.boundary
  security : next.security = s.security
  waiting :
    next.waiting = true →
      s.waiting = true ∨ s.security.isDegraded = false

namespace Turn

variable {kind : Event → Prop}

/- Nothing that a turn is about has changed. -/
theorem of_frame
    {s next : System}
    (hFrame : next.frame = s.frame) :
    Turn kind s next where
  boundary := by
    have hBoundary : next.boundary = s.boundary :=
      congrArg (fun frame => frame.1) hFrame
    rw [hBoundary]
    exact Reaches.refl s.boundary
  security := congrArg (fun frame => frame.2.1) hFrame
  waiting := by
    have hHolder : next.holder = s.holder :=
      congrArg (fun frame => frame.2.2) hFrame
    intro hWaiting
    unfold System.waiting at hWaiting ⊢
    rw [hHolder] at hWaiting
    exact Or.inl hWaiting

theorem trans
    {s mid next : System}
    (hFirst : Turn kind s mid)
    (hSecond : Turn kind mid next) :
    Turn kind s next where
  boundary := hFirst.boundary.trans hSecond.boundary
  security := hSecond.security.trans hFirst.security
  waiting := by
    intro hWaiting
    rcases hSecond.waiting hWaiting with hMid | hHealthy
    · exact hFirst.waiting hMid
    · rw [hFirst.security] at hHealthy
      exact Or.inr hHealthy

/- A change out of sight comes first. -/
theorem after_frame
    {s mid next : System}
    (hTurn : Turn kind mid next)
    (hFrame : mid.frame = s.frame) :
    Turn kind s next :=
  (of_frame hFrame).trans hTurn

theorem mono
    {wider : Event → Prop}
    (hWider : ∀ event, kind event → wider event)
    {s next : System}
    (hTurn : Turn kind s next) :
    Turn wider s next :=
  ⟨hTurn.boundary.mono hWider, hTurn.security,
    hTurn.waiting⟩

/- The holder changes to a stage that does not wait. -/
theorem wait
    {s next : System}
    (hTurn : Turn kind s next)
    {stage : Stage}
    (hStage :
      System.waiting { next with holder := some stage } =
        false) :
    Turn kind s (next.wait stage).1 where
  boundary := hTurn.boundary
  security := hTurn.security
  waiting := by
    intro hWaiting
    unfold System.wait at hWaiting
    rw [hStage] at hWaiting
    cases hWaiting

theorem finish
    {s next : System}
    (hTurn : Turn kind s next)
    (reply : CommandReply) :
    Turn kind s (next.finish reply).1 where
  boundary := hTurn.boundary
  security := hTurn.security
  waiting := by
    intro hWaiting
    cases hWaiting

end Turn

------------------------------------------------------------
-- Listeners
------------------------------------------------------------

theorem connectionArrived_turn
    (s : System) :
    Turn Event.Quiet s s.connectionArrived := by
  unfold connectionArrived
  split
  · rename_i pid hHolder
    refine ⟨Reaches.refl _, rfl, ?_⟩
    intro _
    left
    unfold waiting
    rw [hHolder]
  · exact .of_frame rfl

theorem connectionAborted_turn
    (s : System) :
    Turn Event.Quiet s s.connectionAborted := by
  unfold connectionAborted
  split
  · exact (Turn.of_frame rfl).wait rfl
  · exact .of_frame rfl

theorem connectionAborted_tracker
    (s : System) :
    s.connectionAborted.tracker = s.tracker := by
  unfold connectionAborted
  split <;> rfl

/- One call of the boundary, before the listeners. -/
theorem act_turn
    {kind : Event → Prop}
    (s : System)
    (surroundings : Surroundings)
    (elapsed : Nat)
    {input : Input}
    (hKind :
      kind (s.boundaryEvent surroundings elapsed input)) :
    Turn kind s (s.act surroundings elapsed input) where
  boundary := Reaches.single hKind
  security := rfl
  waiting := fun hWaiting => Or.inl hWaiting

theorem quarantineExecution_turn
    (s : System)
    (surroundings : Surroundings)
    (elapsed : Nat)
    (reason : String) :
    Turn Event.Quiet s
      (s.quarantineExecution surroundings elapsed reason) := by
  unfold quarantineExecution
  refine Turn.after_frame
    (act_turn _ surroundings elapsed ?_) rfl
  exact rfl

theorem quarantineRequired_turn
    (s : System)
    (surroundings : Surroundings) :
    Turn Event.Quiet s
      (s.quarantineRequired surroundings) := by
  unfold quarantineRequired
  have hSwept :=
    s.quarantineExecution_turn surroundings 0
      "WATCHDOG_HEARTBEAT_DEAD"
  refine (hSwept.trans ?_).trans (connectionAborted_turn _)
  exact .of_frame rfl

theorem engineStateChanged_turn
    (s : System)
    (surroundings : Surroundings)
    (state : String) :
    Turn Event.Quiet s
      (s.engineStateChanged surroundings state) := by
  unfold engineStateChanged
  split
  · refine Turn.after_frame
      (act_turn _ surroundings 0 ?_) rfl
    exact rfl
  · exact .of_frame rfl

theorem runtimeStateChanged_turn
    (s : System)
    (state : String) :
    Turn Event.Quiet s (s.runtimeStateChanged state) := by
  unfold runtimeStateChanged
  split
  · exact .of_frame rfl
  · exact .of_frame rfl

theorem hear_turn
    (surroundings : Surroundings)
    (s : System)
    (emitted : Emitted) :
    Turn Event.Quiet s (hear surroundings s emitted) := by
  cases emitted with
  | clientConnected connId =>
      exact (connectionArrived_turn _).after_frame rfl
  | connectionAborted => exact connectionAborted_turn s
  | livenessAlert alert =>
      cases alert with
      | quarantineRequired elapsed lastSeen =>
          exact quarantineRequired_turn s surroundings
      | _ => exact .of_frame rfl
  | stateChanged state message =>
      exact engineStateChanged_turn s surroundings state
  | _ => exact .of_frame rfl

theorem listen_turn
    (surroundings : Surroundings)
    (s : System)
    (emitted : List Emitted) :
    Turn Event.Quiet s
      (emitted.foldl (hear surroundings) s) := by
  induction emitted generalizing s with
  | nil => exact .of_frame rfl
  | cons first rest ih =>
      exact (hear_turn surroundings s first).trans (ih _)

/- After its own input the boundary is moved quietly. -/
theorem feed_turn
    (s : System)
    (surroundings : Surroundings)
    (elapsed : Nat)
    (input : Input) :
    Turn Event.Quiet (s.act surroundings elapsed input)
      (s.feed surroundings elapsed input) :=
  listen_turn surroundings _ _

theorem feed_quiet_turn
    (s : System)
    (surroundings : Surroundings)
    (elapsed : Nat)
    (input : Input)
    (hQuiet : input.housekeeping = true) :
    Turn Event.Quiet s
      (s.feed surroundings elapsed input) :=
  (act_turn s surroundings elapsed hQuiet).trans
    (s.feed_turn surroundings elapsed input)

------------------------------------------------------------
-- Commands
------------------------------------------------------------

theorem runtimeLost_turn
    (s : System)
    (pid : Nat) :
    Turn Event.Quiet s (s.runtimeLost pid) := by
  unfold runtimeLost
  split
  · exact .of_frame rfl
  · exact .of_frame rfl

theorem runtimeExited_turn
    (s : System)
    (pid : Nat) :
    Turn Event.Quiet s (s.runtimeExited pid) := by
  have hLeft : Turn Event.Quiet s (s.terminateRuntime pid) :=
    .of_frame rfl
  have hLost := hLeft.trans (runtimeLost_turn _ pid)
  unfold runtimeExited
  dsimp only
  split
  · split
    · exact hLost.trans (connectionAborted_turn _)
    · exact hLost
  · exact hLeft

theorem handshakeTimeout_turn
    (s : System)
    (pid : Nat) :
    Turn Event.Quiet s (s.handshakeTimeout pid) := by
  unfold handshakeTimeout
  split
  · exact (connectionAborted_turn _).after_frame rfl
  · exact .of_frame rfl

theorem freezeLeases_eq
    (reason : String)
    (s : System)
    (accounts : List String) :
    freezeLeases reason s accounts = s := by
  cases accounts with
  | nil => rfl
  | cons account rest => rfl

/- Freezing a snapshot only seeds the workspace. -/
theorem freezeSnapshot_eq
    (s : System)
    (maxCapacity : Option Nat)
    (reason : String) :
    s.freezeSnapshot maxCapacity reason =
      match maxCapacity with
      | some capacity =>
          { s with workspace := s.workspace.seeded capacity }
      | none => s := by
  unfold freezeSnapshot
  cases maxCapacity with
  | none => rfl
  | some capacity => exact freezeLeases_eq reason _ _

theorem freezeSnapshot_turn
    (s : System)
    (maxCapacity : Option Nat)
    (reason : String) :
    Turn Event.Quiet s
      (s.freezeSnapshot maxCapacity reason) := by
  rw [freezeSnapshot_eq]
  cases maxCapacity with
  | none => exact .of_frame rfl
  | some capacity => exact .of_frame rfl

/- The security state is read just before the wait. -/
theorem startCluster_turn
    (s : System)
    (pid : Nat) :
    Turn Event.Quiet s (s.startCluster pid).1 := by
  have hSame : Turn Event.Quiet s s := .of_frame rfl
  unfold startCluster
  cases hDegraded : s.security.isDegraded with
  | true => exact hSame.wait rfl
  | false =>
      rw [if_neg Bool.false_ne_true]
      split
      · exact ⟨Reaches.refl _, rfl, fun _ => .inr hDegraded⟩
      · exact ⟨Reaches.refl _, rfl, fun _ => .inr hDegraded⟩

theorem spawnRuntime_turn
    {s spawned : System}
    {answers : Answers}
    {pid : Nat}
    (hSpawn :
      s.spawnRuntime answers = some (spawned, pid)) :
    Turn Event.Quiet s spawned := by
  unfold spawnRuntime at hSpawn
  split at hSpawn
  · cases hSpawn
  · rw [Option.map_eq_some_iff] at hSpawn
    rcases hSpawn with ⟨_, _, hSpawned⟩
    have hNext := congrArg Prod.fst hSpawned
    dsimp only at hNext
    rw [← hNext]
    exact .of_frame rfl

theorem startSpawn_turn
    (s : System)
    (surroundings : Surroundings)
    (elapsed : Nat)
    (answers : Answers) :
    Turn Event.Quiet s
      (s.startSpawn surroundings elapsed answers).1 := by
  have hWanted :
      Turn Event.Quiet s { s with desired := .RUNNING } :=
    .of_frame rfl
  have hServed :=
    hWanted.trans
      (feed_quiet_turn { s with desired := .RUNNING }
        surroundings elapsed .startServer rfl)
  unfold startSpawn
  dsimp only
  split
  · split
    · rename_i spawned pid hSpawn
      have hSpawned := hServed.trans (spawnRuntime_turn hSpawn)
      have hStarting :
          Turn Event.Quiet s
            (spawned.setLifecycle .STARTING) :=
        hSpawned.trans (.of_frame rfl)
      exact hStarting.trans (startCluster_turn _ pid)
    · refine Turn.finish (hServed.trans ?_) .failed
      exact .of_frame rfl
  · exact hWanted.finish .failed

theorem startBegin_turn
    (s : System)
    (surroundings : Surroundings)
    (elapsed : Nat)
    (accountIds : List String)
    (answers : Answers) :
    Turn Event.Quiet s
      (s.startBegin surroundings elapsed accountIds
        answers).1 := by
  unfold startBegin
  split
  · exact (Turn.of_frame rfl).finish .denied
  · dsimp only
    split
    · refine Turn.wait ?_ rfl
      exact .of_frame rfl
    · exact (startSpawn_turn _ surroundings elapsed
        answers).after_frame rfl

theorem startRollback_turn
    (s : System)
    (surroundings : Surroundings)
    (elapsed pid : Nat) :
    Turn Event.Quiet s
      (s.startRollback surroundings elapsed pid).1 := by
  have hTerminated :
      Turn Event.Quiet s (s.terminateRuntime pid) :=
    .of_frame rfl
  have hStopped :=
    hTerminated.trans
      (feed_quiet_turn _ surroundings elapsed .stopServer
        rfl)
  unfold startRollback
  refine Turn.finish (hStopped.trans ?_) .failed
  exact .of_frame rfl

theorem stopBegin_turn
    (s : System)
    (surroundings : Surroundings)
    (elapsed : Nat)
    (kind : StopKind) :
    Turn Event.Quiet s
      (s.stopBegin surroundings elapsed kind).1 := by
  unfold stopBegin
  refine Turn.wait ?_ rfl
  exact (feed_quiet_turn _ surroundings elapsed _
    rfl).after_frame rfl

theorem stopServerAfter_turn
    (s : System)
    (surroundings : Surroundings)
    (elapsed : Nat)
    (kind : StopKind) :
    Turn Event.Quiet s
      (s.stopServerAfter surroundings elapsed kind).1 := by
  have hTerminated : Turn Event.Quiet s s.terminateAll :=
    .of_frame rfl
  have hSevered :=
    hTerminated.trans
      (feed_quiet_turn _ surroundings elapsed .stopServer
        rfl)
  unfold stopServerAfter
  cases kind with
  | stop =>
      refine Turn.finish (hSevered.trans ?_) .stopped
      exact .of_frame rfl
  | emergency => exact hSevered.wait rfl

theorem acquire_turn
    (s : System)
    (surroundings : Surroundings)
    (elapsed : Nat)
    (answers : Answers) :
    Turn Event.Quiet s
      (s.acquire surroundings elapsed answers).1 := by
  unfold acquire
  split
  · exact (startBegin_turn _ surroundings elapsed _
      answers).after_frame rfl
  · exact (stopBegin_turn _ surroundings elapsed
      .stop).after_frame rfl
  · exact (stopBegin_turn _ surroundings elapsed
      .emergency).after_frame rfl
  · exact .of_frame rfl

/- A start that goes on hands the credentials over. -/
theorem startInitialize_turn
    (s : System)
    (surroundings : Surroundings)
    (elapsed pid : Nat)
    (answers : Answers) :
    Turn
      (fun event =>
        event.Quiet ∨ event.input.initializes = true)
      s (s.startInitialize surroundings elapsed pid
        answers).1 := by
  unfold startInitialize
  cases answers.compiled with
  | none => exact (Turn.of_frame rfl).wait rfl
  | some accounts =>
      have hHanded :
          Turn
            (fun event =>
              event.Quiet ∨ event.input.initializes = true)
            s (s.feed surroundings elapsed
              (.command (.initializeWorker accounts
                { waitForAck := true }))) :=
        (act_turn s surroundings elapsed (.inr rfl)).trans
          ((s.feed_turn surroundings elapsed _).mono
            (fun _ hQuiet => .inl hQuiet))
      dsimp only
      split
      · exact hHanded.wait rfl
      · exact hHanded.wait rfl

------------------------------------------------------------
-- One Turn Of The System
------------------------------------------------------------

/- The turn lets a connected start go on. -/
def handsCredentials
    (s : System)
    (event : SystemEvent) : Bool :=
  match event.input, s.holder with
  | .resume _, some (.startConnected _) => true
  | _, _ => false

/- The calls of the boundary that a turn makes itself. -/
def Internal
    (s : System)
    (event : SystemEvent)
    (call : Event) : Prop :=
  call.Quiet ∨
    (s.handsCredentials event = true ∧
      call.input.initializes = true)

/- The system after the input of a turn, and no more. -/
def entered
    (s : System)
    (event : SystemEvent) : System :=
  match event.input with
  | .boundary input =>
      s.act event.surroundings event.elapsed input
  | .security input =>
      { s with security := s.security.step input }
  | _ => s

theorem resume_turn
    (s : System)
    (event : SystemEvent)
    {answers : Answers}
    (hInput : event.input = .resume answers) :
    Turn (s.Internal event) s
      (s.resume event.surroundings event.elapsed
        answers).1 := by
  have hSame : Turn (s.Internal event) s s :=
    .of_frame rfl
  have hQuiet :
      ∀ call, call.Quiet → s.Internal event call :=
    fun _ hCall => .inl hCall
  unfold resume
  cases hHolder : s.holder with
  | none => exact hSame
  | some stage =>
      cases stage with
      | startSnapshot =>
          exact (startSpawn_turn s _ _ answers).mono hQuiet
      | startConnecting pid => exact hSame
      | startConnected pid =>
          refine (startInitialize_turn s _ _ pid
            answers).mono ?_
          rintro call (hCall | hCall)
          · exact .inl hCall
          · refine .inr ⟨?_, hCall⟩
            unfold handsCredentials
            rw [hInput, hHolder]
      | startInitializing pid msgId =>
          dsimp only
          split
          · exact hSame
          · split
            · exact hSame.finish (.started pid)
            · exact (startRollback_turn s _ _ pid).mono
                hQuiet
      | startFailed pid =>
          exact (startRollback_turn s _ _ pid).mono hQuiet
      | stopDispatched kind =>
          refine Turn.wait ?_ rfl
          exact .of_frame rfl
      | stopTerminating kind =>
          exact (stopServerAfter_turn s _ _ kind).mono hQuiet
      | emergencySnapshot =>
          refine Turn.finish ?_ .emergencyStopped
          have hFrozen :=
            (freezeSnapshot_turn s answers.maxCapacity
              "EMERGENCY_STOP").mono hQuiet
          refine hFrozen.trans ?_
          exact .of_frame rfl

theorem submit_turn
    (s : System)
    (command : LifecycleCommand) :
    Turn Event.Quiet s (s.submit command).1 := by
  unfold submit
  split
  · split
    · exact .of_frame rfl
    · exact .of_frame rfl
  · exact .of_frame rfl

theorem changeWorkspace_turn
    (s : System)
    (input : WorkspaceInput) :
    Turn Event.Quiet s (s.changeWorkspace input) := by
  cases input with
  | _ => exact .of_frame rfl

theorem freezeAccount_turn
    (s : System)
    (target reason : Option String) :
    Turn Event.Quiet s (s.freezeAccount target reason).1 := by
  unfold freezeAccount
  split
  · split
    · exact .of_frame rfl
    · exact .of_frame rfl
  · exact .of_frame rfl

/-
  After its input, a turn moves the boundary by its own
  calls, keeps the security state, and lets a start wait
  only when the system is not degraded.
-/
theorem step_turn
    (s : System)
    (event : SystemEvent) :
    Turn (s.Internal event) (s.entered event)
      (s.step event) := by
  have hQuiet :
      ∀ call, call.Quiet → s.Internal event call :=
    fun _ hCall => .inl hCall
  unfold step respond entered
  cases hInput : event.input with
  | boundary input =>
      exact (feed_turn s _ _ input.1).mono hQuiet
  | startOperation operationId actionType metadata =>
      exact .of_frame rfl
  | runtimeAck operationId => exact .of_frame rfl
  | runtimeResult operationId success error =>
      exact .of_frame rfl
  | runtimeStateChanged state =>
      exact (runtimeStateChanged_turn s state).mono hQuiet
  | runtimeExited pid =>
      exact (runtimeExited_turn s pid).mono hQuiet
  | handshakeTimeout pid =>
      exact (handshakeTimeout_turn s pid).mono hQuiet
  | connectionTimeout =>
      exact (connectionAborted_turn s).mono hQuiet
  | quarantine reason =>
      have hSwept :=
        s.quarantineExecution_turn event.surroundings
          event.elapsed reason
      refine (hSwept.mono hQuiet).trans ?_
      exact .of_frame rfl
  | security input => exact .of_frame rfl
  | workspace input =>
      exact (changeWorkspace_turn s input).mono hQuiet
  | submit command =>
      exact (submit_turn s command).mono hQuiet
  | acquire answers =>
      exact (acquire_turn s _ _ answers).mono hQuiet
  | resume answers => exact resume_turn s event hInput
  | cancelAllBets maxCapacity =>
      exact (freezeSnapshot_turn s maxCapacity
        "CANCEL_ALL_BETS").mono hQuiet
  | freezeAccount target reason =>
      exact (freezeAccount_turn s target reason).mono hQuiet

/- The coordinator calls of the input of a turn. -/
def calls
    (s : System)
    (event : SystemEvent) : List (Coordinator.Call Details) :=
  match event.input with
  | .boundary input =>
      s.boundary.calls
        (s.boundaryEvent event.surroundings event.elapsed
          input)
  | _ => []

theorem entered_coordinator
    (s : System)
    (event : SystemEvent) :
    (s.entered event).boundary.coordinator =
      run Coordinator.step s.boundary.coordinator
        (s.calls event) := by
  unfold entered calls
  cases hInput : event.input with
  | boundary input =>
      exact Boundary.step_coordinator s.boundary _
  | _ => rfl

/- The calls of a turn itself resolve no operation. -/
theorem resolves_of_internal
    {s : System}
    {event : SystemEvent}
    {call : Event}
    (hInternal : s.Internal event call)
    {b : Boundary}
    {made : Coordinator.Call Details}
    (hMade : made ∈ b.calls call) :
    made.resolves = none := by
  unfold Boundary.calls at hMade
  cases hInput : call.input with
  | uncertainOperations ops =>
      rw [hInput] at hMade
      rcases List.mem_map.mp hMade with ⟨op, _, rfl⟩
      rfl
  | command command =>
      rw [hInput] at hMade
      cases command with
      | reconcileOperation operationId options =>
          rw [List.mem_singleton.mp hMade]
          rfl
      | _ => cases hMade
  | manualResolve operationId outcome note =>
      rcases hInternal with hQuiet | ⟨_, hInitializes⟩
      · unfold Event.Quiet at hQuiet
        rw [hInput] at hQuiet
        cases hQuiet
      · rw [hInput] at hInitializes
        cases hInitializes
  | data connId data =>
      rcases hInternal with hQuiet | ⟨_, hInitializes⟩
      · unfold Event.Quiet at hQuiet
        rw [hInput] at hQuiet
        cases hQuiet
      · rw [hInput] at hInitializes
        cases hInitializes
  | _ =>
      rw [hInput] at hMade
      cases hMade

------------------------------------------------------------
-- Replies
------------------------------------------------------------

/- Where the replies that report a stop come from. -/
inductive Completes
    (s : System)
    (event : SystemEvent) : CommandReply → Prop
| stopped
    (answers : Answers)
    (hInput : event.input = .resume answers)
    (hHolder : s.holder = some (.stopTerminating .stop)) :
    Completes s event .stopped
| emergencyStopped
    (answers : Answers)
    (hInput : event.input = .resume answers)
    (hHolder : s.holder = some .emergencySnapshot) :
    Completes s event .emergencyStopped
| cancelled
    (maxCapacity : Option Nat)
    (hInput : event.input = .cancelAllBets maxCapacity) :
    Completes s event .cancelled
| started (pid : Nat) : Completes s event (.started pid)
| notFrozen : Completes s event .notFrozen
| denied : Completes s event .denied
| failed : Completes s event .failed

theorem startSpawn_reply
    (s : System)
    (surroundings : Surroundings)
    (elapsed : Nat)
    (answers : Answers) :
    (s.startSpawn surroundings elapsed answers).2 = none ∨
      (s.startSpawn surroundings elapsed answers).2 =
        some .failed := by
  unfold startSpawn
  dsimp only
  split
  · split
    · left
      unfold startCluster
      split
      · rfl
      · split <;> rfl
    · exact .inr rfl
  · exact .inr rfl

theorem acquire_reply
    (s : System)
    (surroundings : Surroundings)
    (elapsed : Nat)
    (answers : Answers)
    {reply : CommandReply}
    (hReply :
      (s.acquire surroundings elapsed answers).2 =
        some reply) :
    reply = .denied ∨ reply = .failed := by
  unfold acquire at hReply
  split at hReply
  · unfold startBegin at hReply
    split at hReply
    · exact .inl (Option.some.inj hReply).symm
    · dsimp only at hReply
      split at hReply
      · cases hReply
      · rcases startSpawn_reply _ surroundings elapsed
            answers with hNone | hFailed
        · rw [hNone] at hReply
          cases hReply
        · rw [hFailed] at hReply
          exact .inr (Option.some.inj hReply).symm
  · cases hReply
  · cases hReply
  · cases hReply

theorem startInitialize_reply
    (s : System)
    (surroundings : Surroundings)
    (elapsed pid : Nat)
    (answers : Answers) :
    (s.startInitialize surroundings elapsed pid
      answers).2 = none := by
  unfold startInitialize
  split
  · rfl
  · dsimp only
    split <;> rfl

theorem resume_completes
    {s : System}
    {event : SystemEvent}
    {answers : Answers}
    (hInput : event.input = .resume answers)
    {reply : CommandReply}
    (hReply :
      (s.resume event.surroundings event.elapsed answers).2 =
        some reply) :
    Completes s event reply := by
  unfold resume at hReply
  cases hHolder : s.holder with
  | none =>
      rw [hHolder] at hReply
      cases hReply
  | some stage =>
      rw [hHolder] at hReply
      cases stage with
      | startSnapshot =>
          rcases startSpawn_reply s event.surroundings
              event.elapsed answers with hNone | hFailed
          · rw [hNone] at hReply
            cases hReply
          · rw [hFailed] at hReply
            cases hReply
            exact .failed
      | startConnecting pid => cases hReply
      | startConnected pid =>
          rw [startInitialize_reply] at hReply
          cases hReply
      | startInitializing pid msgId =>
          dsimp only at hReply
          split at hReply
          · cases hReply
          · split at hReply
            · cases hReply
              exact .started pid
            · cases hReply
              exact .failed
      | startFailed pid =>
          cases hReply
          exact .failed
      | stopDispatched kind => cases hReply
      | stopTerminating kind =>
          cases kind with
          | stop =>
              cases hReply
              exact .stopped answers hInput hHolder
          | emergency => cases hReply
      | emergencySnapshot =>
          cases hReply
          exact .emergencyStopped answers hInput hHolder

theorem freezeAccount_completes
    {s : System}
    {event : SystemEvent}
    {target reason : Option String}
    {reply : CommandReply}
    (hReply :
      (s.freezeAccount target reason).2 = some reply) :
    Completes s event reply := by
  unfold freezeAccount at hReply
  split at hReply
  · split at hReply
    · cases hReply
      exact .notFrozen
    · cases hReply
      exact .failed
  · cases hReply
    exact .notFrozen

/-
  Every reply of a turn is accounted for. No turn reports a
  frozen account.
-/
theorem respond_completes
    {s : System}
    {event : SystemEvent}
    {reply : CommandReply}
    (hReply : (s.respond event).2 = some reply) :
    Completes s event reply := by
  unfold respond at hReply
  cases hInput : event.input with
  | submit command =>
      rw [hInput] at hReply
      cases command with
      | start accountIds =>
          unfold submit at hReply
          dsimp only at hReply
          split at hReply
          · cases hReply
            exact .denied
          · cases hReply
      | stop => cases hReply
      | emergencyStop => cases hReply
  | acquire answers =>
      rw [hInput] at hReply
      rcases acquire_reply s _ _ answers hReply with
        rfl | rfl
      · exact .denied
      · exact .failed
  | resume answers =>
      rw [hInput] at hReply
      exact resume_completes hInput hReply
  | cancelAllBets maxCapacity =>
      rw [hInput] at hReply
      cases hReply
      exact .cancelled maxCapacity hInput
  | freezeAccount target reason =>
      rw [hInput] at hReply
      exact freezeAccount_completes hReply
  | _ =>
      rw [hInput] at hReply
      cases hReply

------------------------------------------------------------
-- A Process With An Operator
------------------------------------------------------------

/- A turn a millisecond after the last one. -/
def turn (input : SystemInput) : SystemEvent where
  elapsed := 1
  surroundings := Surroundings.healthy
  input := input

/- The Execution Plane opens its pipe connection. -/
def clientConnected : SystemEvent :=
  turn (.boundary ⟨.connected 1, rfl⟩)

/- The two turns of a transition that commits. -/
def transition
    (event : TransitionEvent)
    (facts : TransitionFacts) : List SystemEvent :=
  [turn (.security (.beginTransition event facts)),
    turn (.security (.endTransition true))]

/- An operator logs in after a cold boot. -/
def login : List SystemEvent :=
  turn (.security (.loaded .LOGGED_OUT true)) ::
    transition .LOGIN_INTENT {} ++
    transition .BACKEND_AUTH_SUCCESS
      { nonceValidated := true } ++
    transition .AUTHZ_LICENSE_RESOLVED
      { backendConfirmed := true }

/- The credentials of the account, compiled for the worker. -/
def fleet : List CompiledAccount :=
  [{ id := "acc_1"
     role := .master
     platformId := "platform"
     username := "player_one"
     password := "secret"
     proxyUrl := none }]

/- A process with one account and an operator. -/
def loggedIn : System :=
  run step
    (fresh 10
      [{ id := "acc_1"
         accountUsername := "player_one"
         suspended := false }]) login

/- A client is connected and a bet of `op_1` is queued. -/
def betQueued : System :=
  run step loggedIn
    [clientConnected,
      turn (.startOperation "op_1" .PLACING_BET
        { idempotencyKey := some "k1"
          accountId := some "acc_1" })]

/- The bet of `op_1` on one account. -/
def placeBetOne : SystemEvent :=
  turn (.boundary ⟨.command (.placeBet
    { idempotencyKey := some "k1"
      operationId := some "op_1"
      accountId := some "acc_1" } {}), rfl⟩)

end System

end ControlPlane
