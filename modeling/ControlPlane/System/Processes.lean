import ControlPlane.System.Turns

/-
  The processes of the Execution Plane.

  The runtime manager asks the native core to terminate a
  process and forgets it at once; the process exits some
  time later. A supervised system therefore keeps, beside
  the wired system, the processes that have not exited, the
  processes whose termination was requested, and the route
  continuations that are still to run.

  What a turn does to the tracked runtimes is said once, and
  the results about processes are derived from that.

  Main declarations:
    * `System.spawned` and `System.requests`
    * `System.step_runtimeEffect`
    * `Supervised` and `Supervised.step`
    * `Supervised.single_process_iff`
-/

------------------------------------------------------------
-- Spawns And Termination Requests
------------------------------------------------------------

namespace ControlPlane

/- The watchdog gives the Execution Plane up. -/
def Emitted.quarantines : Emitted → Bool
| .livenessAlert (.quarantineRequired _ _) => true
| _ => false

namespace System

/-
  The process that a start spawns when it comes to it: the
  server starts, the security authority agrees and the
  native core spawns one.
-/
def startSpawned
    (s : System)
    (surroundings : Surroundings)
    (answers : Answers) : Option Nat :=
  if (s.boundary.manager.transport.startServer
        surroundings.native).isSome &&
      !(s.security.isDegraded ||
        !s.canStartAutomation answers.granted) then
    answers.spawned
  else
    none

/- The process that a turn spawns. -/
def spawned
    (s : System)
    (event : SystemEvent) : Option Nat :=
  match event.input, s.holder, s.queue with
  | .acquire answers, none, .start _ :: _ =>
      if s.alreadyRunning || answers.pulls then none
      else s.startSpawned event.surroundings answers
  | .resume answers, some .startSnapshot, _ =>
      s.startSpawned event.surroundings answers
  | _, _, _ => none

/- The processes that a going-on command terminates. -/
def resumeRequests
    (s : System)
    (answers : Answers) : List Nat :=
  match s.holder with
  | some (.startInitializing pid msgId) =>
      if s.boundary.manager.pendingCorrelations.has msgId ||
          answers.acknowledged then
        []
      else
        [pid]
  | some (.startFailed pid) => [pid]
  | some (.stopDispatched _) =>
      s.activeRuntimes ++ s.currentStartingPid.toList
  | some (.stopTerminating _) => s.activeRuntimes
  | _ => []

/- The processes whose termination a turn requests. -/
def requests
    (s : System)
    (event : SystemEvent) : List Nat :=
  match event.input with
  | .boundary input =>
      if (s.emitted event.surroundings event.elapsed
          input).any Emitted.quarantines then
        s.activeRuntimes
      else
        []
  | .handshakeTimeout pid =>
      if s.activeConnections = [] ∧
          pid ∈ s.activeRuntimes then
        [pid]
      else
        []
  | .quarantine _ => s.activeRuntimes
  | .resume answers => s.resumeRequests answers
  | _ => []

------------------------------------------------------------
-- Tracked Runtimes After A Turn
------------------------------------------------------------

theorem connectionAborted_activeRuntimes
    (s : System) :
    s.connectionAborted.activeRuntimes =
      s.activeRuntimes := by
  unfold connectionAborted
  split <;> rfl

theorem connectionArrived_activeRuntimes
    (s : System) :
    s.connectionArrived.activeRuntimes =
      s.activeRuntimes := by
  unfold connectionArrived
  split <;> rfl

theorem engineStateChanged_activeRuntimes
    (s : System)
    (surroundings : Surroundings)
    (state : String) :
    (s.engineStateChanged surroundings
      state).activeRuntimes = s.activeRuntimes := by
  unfold engineStateChanged
  split <;> rfl

/- A listener that hears of no quarantine keeps them. -/
theorem hear_activeRuntimes
    (surroundings : Surroundings)
    (s : System)
    (emitted : Emitted)
    (hQuiet : emitted.quarantines = false) :
    (hear surroundings s emitted).activeRuntimes =
      s.activeRuntimes := by
  cases emitted with
  | clientConnected connId =>
      exact connectionArrived_activeRuntimes _
  | connectionAborted =>
      exact connectionAborted_activeRuntimes s
  | livenessAlert alert =>
      cases alert with
      | quarantineRequired elapsed lastSeen => cases hQuiet
      | _ => rfl
  | stateChanged state message =>
      exact engineStateChanged_activeRuntimes s _ state
  | _ => rfl

theorem quarantineRequired_activeRuntimes
    (s : System)
    (surroundings : Surroundings) :
    (s.quarantineRequired surroundings).activeRuntimes =
      [] := by
  unfold quarantineRequired
  dsimp only
  rw [connectionAborted_activeRuntimes]
  rfl

/- A listener adds no runtime. -/
theorem mem_of_mem_hear
    (surroundings : Surroundings)
    (s : System)
    (emitted : Emitted)
    {pid : Nat}
    (hMem :
      pid ∈ (hear surroundings s emitted).activeRuntimes) :
    pid ∈ s.activeRuntimes := by
  cases hQuiet : emitted.quarantines with
  | false =>
      rwa [hear_activeRuntimes surroundings s emitted
        hQuiet] at hMem
  | true =>
      unfold Emitted.quarantines at hQuiet
      split at hQuiet
      · unfold hear at hMem
        rw [quarantineRequired_activeRuntimes] at hMem
        cases hMem
      · cases hQuiet

theorem listen_activeRuntimes
    (surroundings : Surroundings)
    (s : System)
    (emitted : List Emitted)
    (hQuiet : emitted.any Emitted.quarantines = false) :
    (emitted.foldl (hear surroundings) s).activeRuntimes =
      s.activeRuntimes := by
  induction emitted generalizing s with
  | nil => rfl
  | cons first rest ih =>
      rw [List.any_cons, Bool.or_eq_false_iff] at hQuiet
      rw [List.foldl_cons, ih _ hQuiet.2]
      exact hear_activeRuntimes surroundings s first hQuiet.1

theorem mem_of_mem_listen
    (surroundings : Surroundings)
    (s : System)
    (emitted : List Emitted)
    {pid : Nat}
    (hMem :
      pid ∈ (emitted.foldl (hear surroundings)
        s).activeRuntimes) :
    pid ∈ s.activeRuntimes := by
  induction emitted generalizing s with
  | nil => exact hMem
  | cons first rest ih =>
      rw [List.foldl_cons] at hMem
      exact mem_of_mem_hear surroundings s first (ih _ hMem)

theorem runtimeLost_activeRuntimes
    (s : System)
    (pid : Nat) :
    (s.runtimeLost pid).activeRuntimes =
      s.activeRuntimes := by
  unfold runtimeLost
  split <;> rfl

/- An exited process is dropped, whatever it was. -/
theorem runtimeExited_activeRuntimes
    (s : System)
    (pid : Nat) :
    (s.runtimeExited pid).activeRuntimes =
      s.activeRuntimes.filter (fun other => other ≠ pid) := by
  unfold runtimeExited
  dsimp only
  split
  · split
    · rw [connectionAborted_activeRuntimes,
        runtimeLost_activeRuntimes]
      rfl
    · rw [runtimeLost_activeRuntimes]
      rfl
  · rfl

theorem handshakeTimeout_activeRuntimes
    (s : System)
    (pid : Nat) :
    (s.handshakeTimeout pid).activeRuntimes =
      if s.activeConnections = [] ∧
          pid ∈ s.activeRuntimes then
        s.activeRuntimes.filter (fun other => other ≠ pid)
      else
        s.activeRuntimes := by
  unfold handshakeTimeout
  split
  · rw [connectionAborted_activeRuntimes]
    rfl
  · rfl

theorem freezeSnapshot_activeRuntimes
    (s : System)
    (maxCapacity : Option Nat)
    (reason : String) :
    (s.freezeSnapshot maxCapacity reason).activeRuntimes =
      s.activeRuntimes := by
  rw [freezeSnapshot_eq]
  cases maxCapacity with
  | none => rfl
  | some capacity => rfl

theorem startCluster_activeRuntimes
    (s : System)
    (pid : Nat) :
    (s.startCluster pid).1.activeRuntimes =
      s.activeRuntimes := by
  unfold startCluster
  split
  · rfl
  · split <;> rfl

theorem startRollback_activeRuntimes
    (s : System)
    (surroundings : Surroundings)
    (elapsed pid : Nat) :
    (s.startRollback surroundings elapsed
        pid).1.activeRuntimes =
      s.activeRuntimes.filter (fun other => other ≠ pid) := by
  have hStopped :
      ((s.terminateRuntime pid).feed surroundings elapsed
          .stopServer).activeRuntimes =
        s.activeRuntimes.filter
          (fun other => other ≠ pid) :=
    connectionAborted_activeRuntimes _
  exact hStopped

theorem startInitialize_activeRuntimes
    (s : System)
    (surroundings : Surroundings)
    (elapsed pid : Nat)
    (answers : Answers) :
    (s.startInitialize surroundings elapsed pid
        answers).1.activeRuntimes =
      s.activeRuntimes := by
  unfold startInitialize
  split
  · rfl
  · dsimp only
    split <;> rfl

theorem stopServerAfter_activeRuntimes
    (s : System)
    (surroundings : Surroundings)
    (elapsed : Nat)
    (kind : StopKind) :
    (s.stopServerAfter surroundings elapsed
        kind).1.activeRuntimes = [] := by
  have hSevered :
      (s.terminateAll.feed surroundings elapsed
        .stopServer).activeRuntimes = [] :=
    connectionAborted_activeRuntimes _
  unfold stopServerAfter
  cases kind with
  | stop => exact hSevered
  | emergency => exact hSevered

/- A process is spawned when the authority agrees. -/
theorem spawnRuntime_denied
    (s : System)
    (answers : Answers)
    (hDenied :
      (s.security.isDegraded ||
        !s.canStartAutomation answers.granted) = true) :
    s.spawnRuntime answers = none := by
  unfold spawnRuntime
  rw [if_pos hDenied]

theorem spawnRuntime_granted
    (s : System)
    (answers : Answers)
    (hGranted :
      (s.security.isDegraded ||
        !s.canStartAutomation answers.granted) = false) :
    (s.spawnRuntime answers = none ∧
        answers.spawned = none) ∨
      ∃ spawned pid,
        s.spawnRuntime answers = some (spawned, pid) ∧
          answers.spawned = some pid ∧
            spawned.activeRuntimes =
              s.activeRuntimes ++ [pid] := by
  unfold spawnRuntime
  rw [hGranted, if_neg Bool.false_ne_true]
  cases answers.spawned with
  | none => exact .inl ⟨rfl, rfl⟩
  | some pid => exact .inr ⟨_, pid, rfl, rfl, rfl⟩

/- A start tracks the process that it spawns. -/
theorem startSpawn_activeRuntimes
    (s : System)
    (surroundings : Surroundings)
    (elapsed : Nat)
    (answers : Answers) :
    (s.startSpawn surroundings elapsed
        answers).1.activeRuntimes =
      s.activeRuntimes ++
        (s.startSpawned surroundings answers).toList := by
  unfold startSpawn startSpawned
  dsimp only
  cases hServer :
      (s.boundary.manager.transport.startServer
        surroundings.native).isSome with
  | false => exact (List.append_nil _).symm
  | true =>
      rw [if_pos rfl, Bool.true_and]
      cases hDenied :
          (s.security.isDegraded ||
            !s.canStartAutomation answers.granted) with
      | true =>
          rw [spawnRuntime_denied
            (feed { s with desired := .RUNNING }
              surroundings elapsed .startServer) answers
            hDenied]
          exact (List.append_nil _).symm
      | false =>
          rcases spawnRuntime_granted
              (feed { s with desired := .RUNNING }
                surroundings elapsed .startServer) answers
              hDenied with
            ⟨hNone, hAnswer⟩ |
            ⟨spawned, pid, hSome, hAnswer, hActive⟩
          · rw [hNone, hAnswer]
            exact (List.append_nil _).symm
          · rw [hSome, hAnswer]
            dsimp only
            rw [startCluster_activeRuntimes]
            exact hActive

/- A second process is never spawned while one is tracked. -/
theorem idle_of_startSpawned
    {s : System}
    {surroundings : Surroundings}
    {answers : Answers}
    {pid : Nat}
    (hSpawned :
      s.startSpawned surroundings answers = some pid) :
    s.activeRuntimes = [] := by
  unfold startSpawned at hSpawned
  split at hSpawned
  · rename_i hGranted
    unfold canStartAutomation at hGranted
    simp only [Bool.and_eq_true, Bool.not_eq_true',
      Bool.or_eq_false_iff, Bool.not_eq_false'] at hGranted
    exact List.isEmpty_iff.mp hGranted.2.2.1.2
  · cases hSpawned

------------------------------------------------------------
-- The Effect Of A Turn
------------------------------------------------------------

/-
  What a turn does to the tracked runtimes: it spawns one
  when none is tracked, or it drops some, each because it
  exited or because its termination is requested.
-/
inductive RuntimeEffect
    (s next : System)
    (event : SystemEvent) : Prop
| spawns
    (pid : Nat)
    (hSpawned : s.spawned event = some pid)
    (hIdle : s.activeRuntimes = [])
    (hNext : next.activeRuntimes = [pid])
| drops
    (hSpawned : s.spawned event = none)
    (hKept :
      ∀ pid ∈ next.activeRuntimes, pid ∈ s.activeRuntimes)
    (hLeft :
      ∀ pid ∈ s.activeRuntimes, pid ∉ next.activeRuntimes →
        event.input = .runtimeExited pid ∨
          pid ∈ s.requests event)

namespace RuntimeEffect

theorem of_eq
    {s next : System}
    {event : SystemEvent}
    (hSpawned : s.spawned event = none)
    (hNext : next.activeRuntimes = s.activeRuntimes) :
    RuntimeEffect s next event := by
  refine .drops hSpawned ?_ ?_
  · intro pid hMem
    exact hNext ▸ hMem
  · intro pid hMem hGone
    exact absurd (hNext ▸ hMem) hGone

/- Every runtime is given up. -/
theorem of_nil
    {s next : System}
    {event : SystemEvent}
    (hSpawned : s.spawned event = none)
    (hNext : next.activeRuntimes = [])
    (hRequested :
      ∀ pid ∈ s.activeRuntimes, pid ∈ s.requests event) :
    RuntimeEffect s next event := by
  refine .drops hSpawned ?_ ?_
  · intro pid hMem
    rw [hNext] at hMem
    cases hMem
  · intro pid hMem _
    exact .inr (hRequested pid hMem)

/- One runtime is given up or has exited. -/
theorem of_filter
    {s next : System}
    {event : SystemEvent}
    {gone : Nat}
    (hSpawned : s.spawned event = none)
    (hNext :
      next.activeRuntimes =
        s.activeRuntimes.filter (fun other => other ≠ gone))
    (hGone :
      event.input = .runtimeExited gone ∨
        gone ∈ s.requests event) :
    RuntimeEffect s next event := by
  refine .drops hSpawned ?_ ?_
  · intro pid hMem
    rw [hNext] at hMem
    exact List.mem_of_mem_filter hMem
  · intro pid hMem hLeft
    have hSame : pid = gone := by
      by_contra hNe
      apply hLeft
      rw [hNext]
      exact List.mem_filter.mpr ⟨hMem, by simpa using hNe⟩
    rw [hSame]
    exact hGone

/- A start comes to its spawn. -/
theorem of_startSpawn
    {s base : System}
    {event : SystemEvent}
    {answers : Answers}
    (hSpawned :
      s.spawned event =
        base.startSpawned event.surroundings answers)
    (hBase : base.activeRuntimes = s.activeRuntimes) :
    RuntimeEffect s
      (base.startSpawn event.surroundings event.elapsed
        answers).1 event := by
  have hNext :=
    base.startSpawn_activeRuntimes event.surroundings
      event.elapsed answers
  cases hPid :
      base.startSpawned event.surroundings answers with
  | none =>
      rw [hPid] at hSpawned hNext
      refine of_eq hSpawned ?_
      rw [hNext, hBase]
      exact List.append_nil _
  | some pid =>
      have hIdle := idle_of_startSpawned hPid
      rw [hPid] at hSpawned hNext
      refine .spawns pid hSpawned (hBase.symm.trans hIdle) ?_
      rw [hNext, hIdle]
      rfl

end RuntimeEffect

theorem feed_runtimeEffect
    (s : System)
    (event : SystemEvent)
    {input : { input : Input // input.external = true }}
    (hInput : event.input = .boundary input) :
    RuntimeEffect s
      (s.feed event.surroundings event.elapsed input)
      event := by
  have hSpawned : s.spawned event = none := by
    unfold spawned
    rw [hInput]
  have hRequests :
      s.requests event =
        if (s.emitted event.surroundings event.elapsed
            input).any Emitted.quarantines then
          s.activeRuntimes
        else
          [] := by
    unfold requests
    rw [hInput]
  cases hQuiet :
      (s.emitted event.surroundings event.elapsed
        input).any Emitted.quarantines with
  | false =>
      apply RuntimeEffect.of_eq hSpawned
      exact listen_activeRuntimes event.surroundings _ _
        hQuiet
  | true =>
      rw [hQuiet, if_pos rfl] at hRequests
      refine .drops hSpawned ?_ ?_
      · intro pid hMem
        exact mem_of_mem_listen event.surroundings
          (s.act event.surroundings event.elapsed input) _
          hMem
      · intro pid hMem _
        rw [hRequests]
        exact .inr hMem

theorem acquire_runtimeEffect
    (s : System)
    (event : SystemEvent)
    {answers : Answers}
    (hInput : event.input = .acquire answers) :
    RuntimeEffect s
      (s.acquire event.surroundings event.elapsed
        answers).1 event := by
  unfold acquire
  split
  · rename_i accountIds rest hHolder hQueue
    unfold startBegin
    cases hRunning : s.alreadyRunning with
    | true =>
        have hSpawned : s.spawned event = none := by
          unfold spawned
          rw [hInput, hHolder, hQueue]
          dsimp only
          rw [hRunning]
          rfl
        have hDenied :
            alreadyRunning { s with queue := rest } = true :=
          hRunning
        rw [if_pos hDenied]
        exact .of_eq hSpawned rfl
    | false =>
        have hIdle :
            alreadyRunning { s with queue := rest } = false :=
          hRunning
        rw [if_neg (by rw [hIdle]; exact Bool.false_ne_true)]
        dsimp only
        cases hPulls : answers.pulls with
        | true =>
            have hSpawned : s.spawned event = none := by
              unfold spawned
              rw [hInput, hHolder, hQueue]
              dsimp only
              rw [hRunning, hPulls]
              rfl
            rw [if_pos rfl]
            exact .of_eq hSpawned rfl
        | false =>
            rw [if_neg Bool.false_ne_true]
            refine .of_startSpawn ?_ rfl
            unfold spawned
            rw [hInput, hHolder, hQueue]
            dsimp only
            rw [hRunning, hPulls]
            rfl
  · rename_i rest hHolder hQueue
    refine .of_eq ?_ rfl
    unfold spawned
    rw [hInput, hHolder, hQueue]
  · rename_i rest hHolder hQueue
    refine .of_eq ?_ rfl
    unfold spawned
    rw [hInput, hHolder, hQueue]
  · rename_i hNoStart hNoStop hNoEmergency
    refine .of_eq ?_ rfl
    unfold spawned
    rw [hInput]
    split
    · rename_i _ hHolder hQueue
      exact (hNoStart _ _ hHolder hQueue).elim
    · rename_i hResume _
      cases hResume
    · rfl

/- A command that goes on spawns from its first stage only. -/
theorem spawned_of_resume
    {s : System}
    {event : SystemEvent}
    {answers : Answers}
    (hInput : event.input = .resume answers)
    (hStage : s.holder ≠ some .startSnapshot) :
    s.spawned event = none := by
  unfold spawned
  rw [hInput]
  split
  · rename_i hAcquire _ _
    cases hAcquire
  · rename_i hHolder
    exact absurd hHolder hStage
  · rfl

theorem resume_runtimeEffect
    (s : System)
    (event : SystemEvent)
    {answers : Answers}
    (hInput : event.input = .resume answers) :
    RuntimeEffect s
      (s.resume event.surroundings event.elapsed
        answers).1 event := by
  have hSpawned := spawned_of_resume (s := s) hInput
  have hRequests :
      s.requests event = s.resumeRequests answers := by
    unfold requests
    rw [hInput]
  unfold resumeRequests at hRequests
  unfold resume
  cases hHolder : s.holder with
  | none => exact .of_eq (hSpawned (by simp [hHolder])) rfl
  | some stage =>
      rw [hHolder] at hSpawned hRequests
      cases stage with
      | startSnapshot =>
          refine .of_startSpawn ?_ rfl
          unfold spawned
          rw [hInput, hHolder]
      | startConnecting pid =>
          exact .of_eq (hSpawned (by simp)) rfl
      | startConnected pid =>
          exact .of_eq (hSpawned (by simp))
            (startInitialize_activeRuntimes s _ _ pid
              answers)
      | startInitializing pid msgId =>
          dsimp only at hRequests ⊢
          split
          · exact .of_eq (hSpawned (by simp)) rfl
          · rename_i hSettled
            split
            · exact .of_eq (hSpawned (by simp)) rfl
            · rename_i hRejected
              refine .of_filter (hSpawned (by simp))
                (startRollback_activeRuntimes s _ _ pid) ?_
              right
              rw [hRequests, if_neg]
              · exact List.mem_singleton.mpr rfl
              · simp [hSettled, hRejected]
      | startFailed pid =>
          refine .of_filter (hSpawned (by simp))
            (startRollback_activeRuntimes s _ _ pid) ?_
          right
          rw [hRequests]
          exact List.mem_singleton.mpr rfl
      | stopDispatched kind =>
          refine .of_nil (hSpawned (by simp)) rfl ?_
          intro pid hMem
          rw [hRequests]
          exact List.mem_append_left _ hMem
      | stopTerminating kind =>
          refine .of_nil (hSpawned (by simp))
            (stopServerAfter_activeRuntimes s _ _ kind) ?_
          intro pid hMem
          rw [hRequests]
          exact hMem
      | emergencySnapshot =>
          exact .of_eq (hSpawned (by simp))
            (freezeSnapshot_activeRuntimes s
              answers.maxCapacity "EMERGENCY_STOP")

/- Only a lifecycle command spawns a process. -/
theorem spawned_eq_none
    {s : System}
    {event : SystemEvent}
    (hAcquire : ∀ answers, event.input ≠ .acquire answers)
    (hResume : ∀ answers, event.input ≠ .resume answers) :
    s.spawned event = none := by
  unfold spawned
  split
  · rename_i hInput _ _
    exact absurd hInput (hAcquire _)
  · rename_i hInput _
    exact absurd hInput (hResume _)
  · rfl

/- A submitted command waits in the queue, or is denied. -/
theorem submit_eq
    (s : System)
    (command : LifecycleCommand) :
    (s.submit command).1 = s ∨
      (s.submit command).1 =
        { s with queue := s.queue ++ [command] } := by
  unfold submit
  split
  · split
    · exact .inl rfl
    · exact .inr rfl
  · exact .inr rfl

theorem submit_activeRuntimes
    (s : System)
    (command : LifecycleCommand) :
    (s.submit command).1.activeRuntimes =
      s.activeRuntimes := by
  rcases s.submit_eq command with hDenied | hQueued
  · rw [hDenied]
  · rw [hQueued]

theorem changeWorkspace_activeRuntimes
    (s : System)
    (input : WorkspaceInput) :
    (s.changeWorkspace input).activeRuntimes =
      s.activeRuntimes := by
  cases input with
  | _ => rfl

/- The freeze of one account changes nothing. -/
theorem freezeAccount_eq
    (s : System)
    (target reason : Option String) :
    (s.freezeAccount target reason).1 = s := by
  unfold freezeAccount
  split
  · split
    · rfl
    · rfl
  · rfl

theorem runtimeStateChanged_activeRuntimes
    (s : System)
    (state : String) :
    (s.runtimeStateChanged state).activeRuntimes =
      s.activeRuntimes := by
  unfold runtimeStateChanged
  split <;> rfl

/- What one turn does to the tracked runtimes. -/
theorem step_runtimeEffect
    (s : System)
    (event : SystemEvent) :
    RuntimeEffect s (s.step event) event := by
  unfold step respond
  cases hInput : event.input with
  | boundary input => exact feed_runtimeEffect s event hInput
  | acquire answers =>
      exact acquire_runtimeEffect s event hInput
  | resume answers =>
      exact resume_runtimeEffect s event hInput
  | runtimeExited pid =>
      exact .of_filter (spawned_eq_none (by simp [hInput])
        (by simp [hInput]))
        (runtimeExited_activeRuntimes s pid) (.inl hInput)
  | handshakeTimeout pid =>
      have hSpawned : s.spawned event = none :=
        spawned_eq_none (by simp [hInput]) (by simp [hInput])
      have hNext := s.handshakeTimeout_activeRuntimes pid
      by_cases hLate :
          s.activeConnections = [] ∧ pid ∈ s.activeRuntimes
      · rw [if_pos hLate] at hNext
        refine .of_filter hSpawned hNext (.inr ?_)
        unfold requests
        rw [hInput]
        dsimp only
        rw [if_pos hLate]
        exact List.mem_singleton.mpr rfl
      · rw [if_neg hLate] at hNext
        exact .of_eq hSpawned hNext
  | quarantine reason =>
      refine .of_nil (spawned_eq_none (by simp [hInput])
        (by simp [hInput])) rfl ?_
      intro pid hMem
      unfold requests
      rw [hInput]
      exact hMem
  | submit command =>
      exact .of_eq (spawned_eq_none (by simp [hInput])
        (by simp [hInput])) (submit_activeRuntimes s command)
  | workspace input =>
      exact .of_eq (spawned_eq_none (by simp [hInput])
        (by simp [hInput]))
        (changeWorkspace_activeRuntimes s input)
  | cancelAllBets maxCapacity =>
      exact .of_eq (spawned_eq_none (by simp [hInput])
        (by simp [hInput]))
        (freezeSnapshot_activeRuntimes s maxCapacity _)
  | freezeAccount target reason =>
      exact .of_eq (spawned_eq_none (by simp [hInput])
        (by simp [hInput]))
        (by rw [freezeAccount_eq])
  | runtimeStateChanged state =>
      exact .of_eq (spawned_eq_none (by simp [hInput])
        (by simp [hInput]))
        (runtimeStateChanged_activeRuntimes s state)
  | connectionTimeout =>
      exact .of_eq (spawned_eq_none (by simp [hInput])
        (by simp [hInput]))
        (connectionAborted_activeRuntimes s)
  | _ =>
      exact .of_eq (spawned_eq_none (by simp [hInput])
        (by simp [hInput])) rfl

/- An exited process is not tracked any more. -/
theorem not_mem_of_exited
    (s : System)
    (event : SystemEvent)
    {pid : Nat}
    (hInput : event.input = .runtimeExited pid) :
    pid ∉ (s.step event).activeRuntimes := by
  unfold step respond
  rw [hInput]
  dsimp only
  rw [runtimeExited_activeRuntimes]
  intro hMem
  have hNe := List.of_mem_filter hMem
  simp at hNe

end System

------------------------------------------------------------
-- The Supervised System
------------------------------------------------------------

/- What a route still does after its command was answered. -/
inductive Continuation where
| start | stop
deriving DecidableEq, Repr

structure Supervised where
  system : System
  alive : List Nat
  requested : List Nat
  continuations : List Continuation

namespace Supervised

def fresh
    (maxEntries : Nat)
    (accounts : List WorkspaceAccount) : Supervised where
  system := System.fresh maxEntries accounts
  alive := []
  requested := []
  continuations := []

/-
  What can happen: a process exits once, its handshake timer
  fires while it is starting, a route goes on after its
  answer, and a new process has an id of its own.
-/
def enabled
    (s : Supervised)
    (event : SystemEvent) : Bool :=
  (match event.input with
    | .runtimeExited pid => decide (pid ∈ s.alive)
    | .handshakeTimeout pid =>
        decide (s.system.currentStartingPid = some pid)
    | .workspace .startAutomation =>
        decide (Continuation.start ∈ s.continuations)
    | .workspace .stopAutomation =>
        decide (Continuation.stop ∈ s.continuations)
    | _ => true) &&
    (s.system.spawned event).all
      (fun pid => decide (pid ∉ s.alive))

/- The processes that a turn leaves alive. -/
def left
    (s : Supervised)
    (event : SystemEvent) : List Nat :=
  match event.input with
  | .runtimeExited pid =>
      s.alive.filter (fun other => other ≠ pid)
  | _ => s.alive

/- The routes that still have to go on after a turn. -/
def outstanding
    (s : Supervised)
    (event : SystemEvent) : List Continuation :=
  let after :=
    match event.input with
    | .workspace .startAutomation =>
        s.continuations.erase .start
    | .workspace .stopAutomation =>
        s.continuations.erase .stop
    | _ => s.continuations
  match (s.system.respond event).2 with
  | some (.started _) => after ++ [.start]
  | some .stopped => after ++ [.stop]
  | _ => after

/-
  One turn of the supervised system; nothing happens in a
  turn that cannot be.
-/
def step
    (s : Supervised)
    (event : SystemEvent) : Supervised :=
  if s.enabled event then
    { system := s.system.step event
      alive :=
        s.left event ++ (s.system.spawned event).toList
      requested :=
        (s.requested ++ s.system.requests event).filter
          (fun pid => decide (pid ∈ s.left event))
      continuations := s.outstanding event }
  else
    s

------------------------------------------------------------
-- Live Processes Are Tracked Or Told To Exit
------------------------------------------------------------

structure Accounted (s : Supervised) : Prop where
  tracked_alive :
    ∀ pid ∈ s.system.activeRuntimes, pid ∈ s.alive
  alive_known :
    ∀ pid ∈ s.alive,
      pid ∈ s.system.activeRuntimes ∨ pid ∈ s.requested
  requested_alive :
    ∀ pid ∈ s.requested, pid ∈ s.alive

theorem mem_left
    {s : Supervised}
    {event : SystemEvent}
    {pid : Nat} :
    pid ∈ s.left event ↔
      pid ∈ s.alive ∧
        event.input ≠ .runtimeExited pid := by
  unfold left
  split
  · rename_i gone hInput
    rw [hInput, List.mem_filter, decide_eq_true_iff]
    simp only [ne_eq, SystemInput.runtimeExited.injEq]
    rw [eq_comm]
  · rename_i hOther
    constructor
    · intro hMem
      exact ⟨hMem, hOther pid⟩
    · intro hBoth
      exact hBoth.1

theorem step_of_enabled
    {s : Supervised}
    {event : SystemEvent}
    (hEnabled : s.enabled event = true) :
    s.step event =
      { system := s.system.step event
        alive :=
          s.left event ++ (s.system.spawned event).toList
        requested :=
          (s.requested ++ s.system.requests event).filter
            (fun pid => decide (pid ∈ s.left event))
        continuations := s.outstanding event } := by
  unfold step
  rw [if_pos hEnabled]

theorem step_of_disabled
    {s : Supervised}
    {event : SystemEvent}
    (hDisabled : ¬ s.enabled event = true) :
    s.step event = s := by
  unfold step
  rw [if_neg hDisabled]

theorem accounted_fresh
    (maxEntries : Nat)
    (accounts : List WorkspaceAccount) :
    (fresh maxEntries accounts).Accounted := by
  refine ⟨?_, ?_, ?_⟩
  · intro pid hMem
    cases hMem
  · intro pid hMem
    cases hMem
  · intro pid hMem
    cases hMem

theorem requested_step
    {s : Supervised}
    {event : SystemEvent}
    (hEnabled : s.enabled event = true)
    {pid : Nat} :
    pid ∈ (s.step event).requested ↔
      (pid ∈ s.requested ∨ pid ∈ s.system.requests event) ∧
        pid ∈ s.left event := by
  rw [step_of_enabled hEnabled]
  simp only [List.mem_filter, List.mem_append,
    decide_eq_true_eq]

theorem alive_step
    {s : Supervised}
    {event : SystemEvent}
    (hEnabled : s.enabled event = true)
    {pid : Nat} :
    pid ∈ (s.step event).alive ↔
      pid ∈ s.left event ∨
        s.system.spawned event = some pid := by
  rw [step_of_enabled hEnabled]
  simp [Option.mem_toList]

theorem not_exits_of_spawned
    {s : Supervised}
    {event : SystemEvent}
    {pid : Nat}
    (hSpawned : s.system.spawned event = some pid)
    (gone : Nat) :
    event.input ≠ .runtimeExited gone := by
  intro hInput
  rw [System.spawned_eq_none (by simp [hInput])
    (by simp [hInput])] at hSpawned
  cases hSpawned

/- A live process is tracked or was told to exit. -/
theorem accounted_step
    (s : Supervised)
    (event : SystemEvent)
    (hAccounted : s.Accounted) :
    (s.step event).Accounted := by
  by_cases hEnabled : s.enabled event = true
  · have hSystem :
        (s.step event).system = s.system.step event := by
      rw [step_of_enabled hEnabled]
    refine ⟨?_, ?_, ?_⟩
    · intro pid hMem
      rw [hSystem] at hMem
      rw [alive_step hEnabled]
      rcases s.system.step_runtimeEffect event with
        ⟨spawned, hSpawned, _, hNext⟩ | ⟨_, hKept, _⟩
      · rw [hNext] at hMem
        rw [List.mem_singleton.mp hMem]
        exact .inr hSpawned
      · left
        rw [mem_left]
        refine ⟨hAccounted.tracked_alive pid
          (hKept pid hMem), ?_⟩
        intro hInput
        exact s.system.not_mem_of_exited event hInput hMem
    · intro pid hMem
      rw [hSystem, requested_step hEnabled]
      rcases (alive_step hEnabled).mp hMem with
        hLeft | hSpawned
      · rcases hAccounted.alive_known pid
            (mem_left.mp hLeft).1 with
          hTracked | hRequested
        · by_cases hStill :
              pid ∈ (s.system.step event).activeRuntimes
          · exact .inl hStill
          · right
            rcases s.system.step_runtimeEffect event with
              ⟨_, _, hIdle, _⟩ | ⟨_, _, hGone⟩
            · rw [hIdle] at hTracked
              cases hTracked
            · rcases hGone pid hTracked hStill with
                hExited | hTold
              · exact absurd hExited (mem_left.mp hLeft).2
              · exact ⟨.inr hTold, hLeft⟩
        · exact .inr ⟨.inl hRequested, hLeft⟩
      · left
        rcases s.system.step_runtimeEffect event with
          ⟨spawned, hOther, _, hNext⟩ | ⟨hNone, _, _⟩
        · rw [hSpawned] at hOther
          rw [hNext, Option.some.inj hOther]
          exact List.mem_singleton.mpr rfl
        · rw [hSpawned] at hNone
          cases hNone
    · intro pid hMem
      rw [alive_step hEnabled]
      exact .inl ((requested_step hEnabled).mp hMem).2
  · rw [step_of_disabled hEnabled]
    exact hAccounted

------------------------------------------------------------
-- One Process At A Time
------------------------------------------------------------

/- At most one process has not exited. -/
def Single (s : Supervised) : Prop :=
  s.alive.length ≤ 1

/- A start spawns nothing while a process is alive. -/
def RejectsSecond
    (s : Supervised)
    (event : SystemEvent) : Prop :=
  s.enabled event = true → s.alive ≠ [] →
    s.system.spawned event = none

/-
  When a start comes to its spawn, every process that was
  told to exit has exited.
-/
def SpawnsSettled
    (s : Supervised)
    (event : SystemEvent) : Prop :=
  s.enabled event = true →
    (s.system.spawned event).isSome = true →
      s.requested = []

/- A start spawns when no runtime is tracked. -/
theorem idle_of_spawned
    {s : System}
    {event : SystemEvent}
    {pid : Nat}
    (hSpawned : s.spawned event = some pid) :
    s.activeRuntimes = [] := by
  rcases s.step_runtimeEffect event with
    ⟨_, _, hIdle, _⟩ | ⟨hNone, _, _⟩
  · exact hIdle
  · rw [hSpawned] at hNone
    cases hNone

/- Nothing lives when a settled start spawns. -/
theorem alive_nil_iff
    {s : Supervised}
    {event : SystemEvent}
    {pid : Nat}
    (hAccounted : s.Accounted)
    (hSpawned : s.system.spawned event = some pid) :
    s.alive = [] ↔ s.requested = [] := by
  have hIdle := idle_of_spawned hSpawned
  constructor
  · intro hNone
    apply List.eq_nil_iff_forall_not_mem.mpr
    intro other hMem
    have hAlive := hAccounted.requested_alive other hMem
    rw [hNone] at hAlive
    cases hAlive
  · intro hNone
    apply List.eq_nil_iff_forall_not_mem.mpr
    intro other hMem
    rcases hAccounted.alive_known other hMem with
      hTracked | hRequested
    · rw [hIdle] at hTracked
      cases hTracked
    · rw [hNone] at hRequested
      cases hRequested

theorem single_step_iff
    (s : Supervised)
    (event : SystemEvent)
    (hAccounted : s.Accounted)
    (hSingle : s.Single) :
    (s.step event).Single ↔ SpawnsSettled s event := by
  unfold Single at hSingle ⊢
  unfold SpawnsSettled
  by_cases hEnabled : s.enabled event = true
  · rw [step_of_enabled hEnabled]
    dsimp only
    rw [List.length_append]
    cases hSpawned : s.system.spawned event with
    | none =>
        have hLeft :
            (s.left event).length ≤ s.alive.length := by
          unfold left
          split
          · exact List.length_filter_le _ _
          · exact le_rfl
        simp only [Option.toList_none, List.length_nil,
          Option.isSome_none]
        constructor
        · intro _ _ hSome
          cases hSome
        · intro _
          omega
    | some pid =>
        have hLeft : s.left event = s.alive := by
          unfold left
          split
          · rename_i gone hInput
            exact absurd hInput
              (not_exits_of_spawned hSpawned gone)
          · rfl
        rw [hLeft, ← alive_nil_iff hAccounted hSpawned,
          ← List.length_eq_zero_iff]
        simp only [Option.toList_some, List.length_singleton]
        constructor
        · intro hLength _ _
          omega
        · intro hSettled
          have hNone := hSettled hEnabled rfl
          omega
  · rw [step_of_disabled hEnabled]
    constructor
    · intro _ hDone
      exact absurd hDone hEnabled
    · intro _
      exact hSingle

theorem rejectsSecond_of_settled
    (s : Supervised)
    (event : SystemEvent)
    (hAccounted : s.Accounted)
    (hSettled : SpawnsSettled s event) :
    RejectsSecond s event := by
  intro hEnabled hAlive
  cases hSpawned : s.system.spawned event with
  | none => rfl
  | some pid =>
      have hNone := hSettled hEnabled (by rw [hSpawned]; rfl)
      exact absurd
        ((alive_nil_iff hAccounted hSpawned).mpr hNone) hAlive

/-
  At most one process lives throughout a run, and a second
  start is rejected, exactly when no start of the run comes
  to its spawn before the processes that were told to exit
  have exited.
-/
theorem single_process_iff
    (maxEntries : Nat)
    (accounts : List WorkspaceAccount)
    (events : List SystemEvent) :
    (Throughout step Single (fresh maxEntries accounts)
          events ∧
        Along step RejectsSecond
          (fresh maxEntries accounts) events) ↔
      Along step SpawnsSettled (fresh maxEntries accounts)
        events := by
  have hFresh := accounted_fresh maxEntries accounts
  have hSingle :
      Throughout step Single (fresh maxEntries accounts)
          events ↔
        Along step SpawnsSettled
          (fresh maxEntries accounts) events :=
    throughout_iff_along_of_invariant accounted_step
      single_step_iff events hFresh (Nat.zero_le 1)
  rw [hSingle]
  constructor
  · intro hBoth
    exact hBoth.1
  · intro hSettled
    refine ⟨hSettled, ?_⟩
    apply Along.of_invariant _ _ hFresh hSettled
    · intro state event hAccounted _
      exact accounted_step state event hAccounted
    · intro state event hAccounted hOk
      exact rejectsSecond_of_settled state event hAccounted
        hOk

/- A new process with one account. -/
def oneAccount : Supervised :=
  fresh 10
    [{ id := "acc_1"
       accountUsername := "player_one"
       suspended := false }]

/- A start that waits for the answer to its envelope. -/
def initializingRun : List SystemEvent :=
  System.login ++
    [System.turn (.submit (.start [])),
      System.turn (.acquire { spawned := some 7 }),
      System.clientConnected,
      System.turn
        (.resume { compiled := some System.fleet })]

/- A start that is acknowledged and answered. -/
def startedRun : List SystemEvent :=
  initializingRun ++
    [System.turn
        (.boundary
          ⟨.data 1
            (.envelope
              { msgId := "01J0000000000000000000MSG0"
                traceId := "01J0000000000000000000TRC0"
                payload := .telemetry .OPERATION_ACK }),
            rfl⟩),
      System.turn (.resume {})]

/-
  A process that does not connect in time is told to exit
  and forgotten; the next start does not wait for its exit.
-/
theorem handshake_timeout_two_processes :
    ¬ Throughout step Single oneAccount
      (System.login ++
        [System.turn (.submit (.start [])),
          System.turn (.acquire { spawned := some 7 }),
          System.turn (.handshakeTimeout 7),
          System.turn (.resume {}),
          System.turn (.submit (.start [])),
          System.turn (.acquire { spawned := some 8 })]) := by
  intro hAll
  have hEnd := hAll _ [] (List.append_nil _).symm
  revert hEnd
  unfold Single
  decide

end Supervised

end ControlPlane
