import ControlPlane.System.Processes

/-
  Emergency stops behind the lifecycle mutex.

  An emergency stop takes the same mutex as a start, and a
  start holds it while it waits for its connection and for
  the answer to its envelope. The command handlers go on by
  themselves in every other stage, so an emergency stop that
  was invoked comes to terminate a live process exactly when
  no such wait is in front of it.

  Main declarations:
    * `Supervised.goOn`
    * `System.startWaits`
    * `Supervised.emergency_terminates_iff`
-/

------------------------------------------------------------
-- Handlers Going On
------------------------------------------------------------

namespace ControlPlane

/- What a turn of a command handler is given. -/
structure Given where
  elapsed : Nat
  surroundings : Surroundings
  answers : Answers

namespace System

/-
  The start in front of every other command waits for the
  Execution Plane, or begins to in its next turn.
-/
def startWaits
    (s : System)
    (given : Given) : Bool :=
  match s.holder with
  | some (.startConnecting _) => true
  | some (.startConnected _) =>
      match given.answers.compiled with
      | some accounts =>
          match s.initializationReply given.surroundings
              given.elapsed accounts with
          | .dispatched (.awaiting _) => true
          | _ => false
      | none => false
  | some (.startInitializing _ msgId) =>
      s.boundary.manager.pendingCorrelations.has msgId
  | _ => false

/- An emergency stop waits for the mutex or holds it. -/
def emergencyInvoked (s : System) : Bool :=
  decide (LifecycleCommand.emergencyStop ∈ s.queue) ||
    decide (s.holder = some (.stopDispatched .emergency)) ||
    decide (s.holder = some (.stopTerminating .emergency)) ||
    decide (s.holder = some .emergencySnapshot)

/- A tracked runtime refuses every start. -/
theorem alreadyRunning_of_tracked
    {s : System}
    {pid : Nat}
    (hTracked : pid ∈ s.activeRuntimes) :
    s.alreadyRunning = true := by
  have hSome : s.activeRuntimes.isEmpty = false := by
    rw [List.isEmpty_eq_false_iff]
    exact List.ne_nil_of_mem hTracked
  unfold alreadyRunning
  rw [hSome]
  exact Bool.or_true _

theorem startBegin_denied
    {s : System}
    (surroundings : Surroundings)
    (elapsed : Nat)
    (accountIds : List String)
    (answers : Answers)
    (hRunning : s.alreadyRunning = true) :
    s.startBegin surroundings elapsed accountIds answers =
      s.finish .denied :=
  if_pos hRunning

theorem acquire_start
    {s : System}
    (surroundings : Surroundings)
    (elapsed : Nat)
    (answers : Answers)
    (hHolder : s.holder = none)
    {accountIds : List String}
    {rest : List LifecycleCommand}
    (hQueue : s.queue = .start accountIds :: rest) :
    s.acquire surroundings elapsed answers =
      startBegin { s with queue := rest } surroundings
        elapsed accountIds answers := by
  unfold acquire
  rw [hHolder, hQueue]

/- A start that comes to its spawn too late is over. -/
theorem startSpawn_tracked
    {s : System}
    {pid : Nat}
    (hTracked : pid ∈ s.activeRuntimes)
    (surroundings : Surroundings)
    (elapsed : Nat)
    (answers : Answers) :
    (s.startSpawn surroundings elapsed answers).1.holder =
        none ∧
      (s.startSpawn surroundings elapsed answers).1.queue =
          s.queue ∧
        pid ∈ (s.startSpawn surroundings elapsed
          answers).1.activeRuntimes := by
  have hSome : s.activeRuntimes.isEmpty = false := by
    rw [List.isEmpty_eq_false_iff]
    exact List.ne_nil_of_mem hTracked
  have hDenied :
      spawnRuntime
          (feed { s with desired := .RUNNING } surroundings
            elapsed .startServer) answers = none := by
    apply spawnRuntime_denied
    have hRefused :
        canStartAutomation
            (feed { s with desired := .RUNNING } surroundings
              elapsed .startServer) answers.granted =
          false := by
      unfold canStartAutomation
      have hSame :
          (feed { s with desired := .RUNNING } surroundings
            elapsed .startServer).activeRuntimes.isEmpty =
              false := hSome
      rw [hSame, Bool.and_false, Bool.false_and]
    rw [hRefused]
    exact Bool.or_true _
  unfold startSpawn
  dsimp only
  split
  · rw [hDenied]
    exact ⟨rfl, rfl, hTracked⟩
  · exact ⟨rfl, rfl, hTracked⟩

/- A start that does not begin to wait has failed. -/
theorem startInitialize_failed
    {s : System}
    {given : Given}
    {pid : Nat}
    (hHolder : s.holder = some (.startConnected pid))
    (hGoesOn : s.startWaits given = false) :
    (s.startInitialize given.surroundings given.elapsed pid
        given.answers).1.holder = some (.startFailed pid) ∧
      (s.startInitialize given.surroundings given.elapsed
          pid given.answers).1.queue = s.queue := by
  unfold startWaits at hGoesOn
  rw [hHolder] at hGoesOn
  unfold startInitialize
  cases hCompiled : given.answers.compiled with
  | none => exact ⟨rfl, rfl⟩
  | some accounts =>
      rw [hCompiled] at hGoesOn
      dsimp only at hGoesOn ⊢
      split
      · rename_i msgId hReply
        rw [hReply] at hGoesOn
        cases hGoesOn
      · exact ⟨rfl, rfl⟩

/- The emergency stop has not taken the mutex yet. -/
theorem queued_of_invoked
    {s : System}
    (hInvoked : s.emergencyInvoked = true)
    (hOther :
      s.holder ≠ some (.stopDispatched .emergency) ∧
        s.holder ≠ some (.stopTerminating .emergency) ∧
          s.holder ≠ some .emergencySnapshot) :
    LifecycleCommand.emergencyStop ∈ s.queue := by
  unfold emergencyInvoked at hInvoked
  simp only [Bool.or_eq_true, decide_eq_true_eq] at hInvoked
  rcases hInvoked with ((hQueued | hFirst) | hSecond) | hThird
  · exact hQueued
  · exact absurd hFirst hOther.1
  · exact absurd hSecond hOther.2.1
  · exact absurd hThird hOther.2.2

theorem connectionAborted_queue
    (s : System) :
    s.connectionAborted.queue = s.queue := by
  unfold connectionAborted
  split <;> rfl

theorem startRollback_queue
    (s : System)
    (surroundings : Surroundings)
    (elapsed pid : Nat) :
    (s.startRollback surroundings elapsed pid).1.queue =
      s.queue :=
  connectionAborted_queue _

end System

namespace Supervised

/-
  The next turn of the command handlers: the holder of the
  mutex goes on, or the next command takes it.
-/
def handlerTurn
    (s : Supervised)
    (given : Given) : SystemEvent where
  elapsed := given.elapsed
  surroundings := given.surroundings
  input :=
    if s.system.holder = none then .acquire given.answers
    else .resume given.answers

/- A number of turns of the command handlers. -/
def goOn :
    (Nat → Given) → Nat → Supervised → Supervised
| _, 0, s => s
| given, n + 1, s =>
    goOn (fun i => given (i + 1)) n
      (s.step (s.handlerTurn (given 0)))

/- The handlers come to terminate the process. -/
def Terminates
    (given : Nat → Given)
    (s : Supervised)
    (pid : Nat) : Prop :=
  ∃ n, pid ∈ (goOn given n s).requested

theorem Terminates.of_step
    {given : Nat → Given}
    {s : Supervised}
    {pid : Nat}
    (hLater :
      Terminates (fun i => given (i + 1))
        (s.step (s.handlerTurn (given 0))) pid) :
    Terminates given s pid := by
  rcases hLater with ⟨n, hMem⟩
  exact ⟨n + 1, hMem⟩

theorem Terminates.of_requested
    {given : Nat → Given}
    {s : Supervised}
    {pid : Nat}
    (hMem : pid ∈ s.requested) :
    Terminates given s pid :=
  ⟨0, hMem⟩

theorem handlerTurn_acquire
    {s : Supervised}
    (given : Given)
    (hHolder : s.system.holder = none) :
    (s.handlerTurn given).input = .acquire given.answers :=
  if_pos hHolder

theorem handlerTurn_resume
    {s : Supervised}
    (given : Given)
    {stage : Stage}
    (hHolder : s.system.holder = some stage) :
    (s.handlerTurn given).input = .resume given.answers := by
  apply if_neg
  rw [hHolder]
  exact nofun

theorem handlerTurn_not_exit
    (s : Supervised)
    (given : Given)
    (pid : Nat) :
    (s.handlerTurn given).input ≠ .runtimeExited pid := by
  unfold handlerTurn
  dsimp only
  split
  · exact nofun
  · exact nofun

/- Nothing is spawned while a runtime is tracked. -/
theorem enabled_of_tracked
    {s : Supervised}
    {pid : Nat}
    (hMem : pid ∈ s.system.activeRuntimes)
    (given : Given) :
    s.enabled (s.handlerTurn given) = true := by
  have hNone : s.system.spawned (s.handlerTurn given) = none := by
    cases hSpawned :
        s.system.spawned (s.handlerTurn given) with
    | none => rfl
    | some spawned =>
        rw [idle_of_spawned hSpawned] at hMem
        cases hMem
  unfold enabled
  rw [hNone, Option.all_none, Bool.and_true]
  unfold handlerTurn
  dsimp only
  split
  · rename_i hInput
    split at hInput <;> cases hInput
  · rename_i hInput
    split at hInput <;> cases hInput
  · rename_i hInput
    split at hInput <;> cases hInput
  · rename_i hInput
    split at hInput <;> cases hInput
  · rfl

/- A handler asks for the exit of a live process. -/
theorem requested_of_handler
    {s : Supervised}
    {given : Given}
    {pid tracked : Nat}
    (hTracked : tracked ∈ s.system.activeRuntimes)
    (hMem : pid ∈ s.alive)
    (hRequest :
      pid ∈ s.system.requests (s.handlerTurn given)) :
    pid ∈ (s.step (s.handlerTurn given)).requested := by
  rw [requested_step (enabled_of_tracked hTracked given),
    mem_left]
  exact ⟨.inr hRequest, hMem,
    handlerTurn_not_exit s given pid⟩

theorem system_of_handler
    {s : Supervised}
    (given : Given)
    {pid : Nat}
    (hTracked : pid ∈ s.system.activeRuntimes) :
    (s.step (s.handlerTurn given)).system =
      s.system.step (s.handlerTurn given) := by
  rw [step_of_enabled (enabled_of_tracked hTracked given)]

/- The holder of the mutex goes on. -/
theorem system_of_resume
    {s : Supervised}
    (given : Given)
    {pid : Nat}
    (hTracked : pid ∈ s.system.activeRuntimes)
    {stage : Stage}
    (hHolder : s.system.holder = some stage) :
    (s.step (s.handlerTurn given)).system =
      (s.system.resume given.surroundings given.elapsed
        given.answers).1 := by
  rw [system_of_handler given hTracked]
  unfold System.step System.respond
  rw [handlerTurn_resume given hHolder]
  rfl

------------------------------------------------------------
-- Stages That Lead To A Termination
------------------------------------------------------------

/- A stop asks for the exit of every tracked runtime. -/
theorem terminates_of_stopping
    {given : Nat → Given}
    {s : Supervised}
    (hAccounted : s.Accounted)
    {pid : Nat}
    (hTracked : pid ∈ s.system.activeRuntimes)
    {kind : StopKind}
    (hHolder :
      s.system.holder = some (.stopDispatched kind) ∨
        s.system.holder = some (.stopTerminating kind)) :
    Terminates given s pid := by
  apply Terminates.of_step
  apply Terminates.of_requested
  apply requested_of_handler hTracked
    (hAccounted.tracked_alive pid hTracked)
  unfold System.requests
  rcases hHolder with hDispatched | hTerminating
  · rw [handlerTurn_resume _ hDispatched]
    unfold System.resumeRequests
    rw [hDispatched]
    exact List.mem_append_left _ hTracked
  · rw [handlerTurn_resume _ hTerminating]
    unfold System.resumeRequests
    rw [hTerminating]
    exact hTracked

/- A start behind a tracked runtime is denied at once. -/
theorem system_of_denied
    {s : Supervised}
    (given : Given)
    {pid : Nat}
    (hTracked : pid ∈ s.system.activeRuntimes)
    (hHolder : s.system.holder = none)
    {accountIds : List String}
    {rest : List LifecycleCommand}
    (hQueue : s.system.queue = .start accountIds :: rest) :
    (s.step (s.handlerTurn given)).system =
      { s.system with queue := rest, holder := none } := by
  have hRunning :
      System.alreadyRunning
        { s.system with queue := rest } = true :=
    System.alreadyRunning_of_tracked hTracked
  rw [system_of_handler given hTracked]
  unfold System.step System.respond
  rw [handlerTurn_acquire given hHolder]
  dsimp only
  rw [System.acquire_start _ _ _ hHolder hQueue,
    System.startBegin_denied _ _ _ _ hRunning]
  rfl

/- A stop that takes the mutex keeps the runtimes for now. -/
theorem system_of_stop
    {s : Supervised}
    (given : Given)
    {pid : Nat}
    (hTracked : pid ∈ s.system.activeRuntimes)
    (hHolder : s.system.holder = none)
    {command : LifecycleCommand}
    {rest : List LifecycleCommand}
    (hQueue : s.system.queue = command :: rest)
    (hStop : command = .stop ∨ command = .emergencyStop) :
    (s.step (s.handlerTurn given)).system.activeRuntimes =
        s.system.activeRuntimes ∧
      ∃ kind,
        (s.step (s.handlerTurn given)).system.holder =
          some (.stopDispatched kind) := by
  rw [system_of_handler given hTracked]
  unfold System.step System.respond
  rw [handlerTurn_acquire given hHolder]
  dsimp only
  unfold System.acquire
  rw [hHolder, hQueue]
  rcases hStop with rfl | rfl
  · exact ⟨rfl, .stop, rfl⟩
  · exact ⟨rfl, .emergency, rfl⟩

/-
  A free mutex: the commands in front of the emergency stop
  are starts, which are denied, or stops.
-/
theorem terminates_of_free
    {given : Nat → Given}
    {s : Supervised}
    (hAccounted : s.Accounted)
    {pid : Nat}
    (hTracked : pid ∈ s.system.activeRuntimes)
    (hHolder : s.system.holder = none)
    (hQueued :
      LifecycleCommand.emergencyStop ∈ s.system.queue) :
    Terminates given s pid := by
  generalize hQueue : s.system.queue = queue at hQueued
  induction queue generalizing s given with
  | nil => cases hQueued
  | cons command rest ih =>
      apply Terminates.of_step
      have hNext :=
        accounted_step s (s.handlerTurn (given 0)) hAccounted
      by_cases hStop :
          command = .stop ∨ command = .emergencyStop
      · have hAfter :=
          system_of_stop (given 0) hTracked hHolder hQueue
            hStop
        rcases hAfter with ⟨hActive, kind, hStopping⟩
        apply terminates_of_stopping hNext _ (.inl hStopping)
        rw [hActive]
        exact hTracked
      · rw [not_or] at hStop
        cases command with
        | stop => exact absurd rfl hStop.1
        | emergencyStop => exact absurd rfl hStop.2
        | start accountIds =>
            have hAfter :=
              system_of_denied (given 0) hTracked hHolder
                hQueue
            have hLater :
                LifecycleCommand.emergencyStop ∈ rest := by
              rcases List.mem_cons.mp hQueued with
                hHead | hTail
              · cases hHead
              · exact hTail
            apply ih hNext
            · rw [hAfter]
              exact hTracked
            · rw [hAfter]
            · rw [hAfter]
            · exact hLater

/- A turn that frees the mutex leaves the rest to it. -/
theorem terminates_of_freed
    {given : Nat → Given}
    {s : Supervised}
    (hAccounted : s.Accounted)
    {next : System}
    (hSystem :
      (s.step (s.handlerTurn (given 0))).system = next)
    {pid : Nat}
    (hTracked : pid ∈ next.activeRuntimes)
    (hHolder : next.holder = none)
    (hQueued : LifecycleCommand.emergencyStop ∈ next.queue) :
    Terminates given s pid := by
  subst hSystem
  apply Terminates.of_step
  exact terminates_of_free
    (accounted_step s (s.handlerTurn (given 0)) hAccounted)
    hTracked hHolder hQueued

/- A rollback terminates its process and frees the mutex. -/
theorem terminates_of_rollback
    {given : Nat → Given}
    {s : Supervised}
    (hAccounted : s.Accounted)
    {pid failed : Nat}
    (hTracked : pid ∈ s.system.activeRuntimes)
    (hQueued :
      LifecycleCommand.emergencyStop ∈ s.system.queue)
    {stage : Stage}
    (hHolder : s.system.holder = some stage)
    (hRequests :
      s.system.resumeRequests (given 0).answers = [failed])
    (hResume :
      s.system.resume (given 0).surroundings
          (given 0).elapsed (given 0).answers =
        s.system.startRollback (given 0).surroundings
          (given 0).elapsed failed) :
    Terminates given s pid := by
  have hInput := handlerTurn_resume (given 0) hHolder
  by_cases hSame : pid = failed
  · apply Terminates.of_step
    apply Terminates.of_requested
    apply requested_of_handler hTracked
      (hAccounted.tracked_alive pid hTracked)
    unfold System.requests
    rw [hInput]
    dsimp only
    rw [hRequests, hSame]
    exact List.mem_singleton.mpr rfl
  · have hSystem :=
      system_of_resume (given 0) hTracked hHolder
    rw [hResume] at hSystem
    apply terminates_of_freed hAccounted hSystem
    · rw [System.startRollback_activeRuntimes]
      exact List.mem_filter.mpr
        ⟨hTracked, by simpa using hSame⟩
    · rfl
    · rw [System.startRollback_queue]
      exact hQueued

theorem terminates_of_startFailed
    {given : Nat → Given}
    {s : Supervised}
    (hAccounted : s.Accounted)
    {pid waited : Nat}
    (hTracked : pid ∈ s.system.activeRuntimes)
    (hQueued :
      LifecycleCommand.emergencyStop ∈ s.system.queue)
    (hHolder :
      s.system.holder = some (.startFailed waited)) :
    Terminates given s pid := by
  apply terminates_of_rollback hAccounted hTracked hQueued
    hHolder
  · unfold System.resumeRequests
    rw [hHolder]
  · unfold System.resume
    rw [hHolder]

/- A start that does not wait for an answer has failed. -/
theorem terminates_of_startConnected
    {given : Nat → Given}
    {s : Supervised}
    (hAccounted : s.Accounted)
    {pid waited : Nat}
    (hTracked : pid ∈ s.system.activeRuntimes)
    (hQueued :
      LifecycleCommand.emergencyStop ∈ s.system.queue)
    (hHolder :
      s.system.holder = some (.startConnected waited))
    (hGoesOn : s.system.startWaits (given 0) = false) :
    Terminates given s pid := by
  have hSystem := system_of_resume (given 0) hTracked hHolder
  have hFailed := System.startInitialize_failed hHolder hGoesOn
  have hActive :=
    System.startInitialize_activeRuntimes s.system
      (given 0).surroundings (given 0).elapsed waited
      (given 0).answers
  unfold System.resume at hSystem
  rw [hHolder] at hSystem
  dsimp only at hSystem
  apply Terminates.of_step
  apply terminates_of_startFailed
    (accounted_step s (s.handlerTurn (given 0)) hAccounted)
  · rw [hSystem, hActive]
    exact hTracked
  · rw [hSystem, hFailed.2]
    exact hQueued
  · rw [hSystem]
    exact hFailed.1

/- The answer to its envelope ends a start either way. -/
theorem terminates_of_startInitializing
    {given : Nat → Given}
    {s : Supervised}
    (hAccounted : s.Accounted)
    {pid waited : Nat}
    {msgId : String}
    (hTracked : pid ∈ s.system.activeRuntimes)
    (hQueued :
      LifecycleCommand.emergencyStop ∈ s.system.queue)
    (hHolder :
      s.system.holder =
        some (.startInitializing waited msgId))
    (hGoesOn : s.system.startWaits (given 0) = false) :
    Terminates given s pid := by
  unfold System.startWaits at hGoesOn
  rw [hHolder] at hGoesOn
  dsimp only at hGoesOn
  cases hAnswer : (given 0).answers.acknowledged with
  | true =>
      have hSystem :=
        system_of_resume (given 0) hTracked hHolder
      unfold System.resume at hSystem
      rw [hHolder] at hSystem
      dsimp only at hSystem
      rw [hGoesOn, if_neg Bool.false_ne_true, hAnswer,
        if_pos rfl] at hSystem
      exact terminates_of_freed hAccounted hSystem hTracked
        rfl hQueued
  | false =>
      apply terminates_of_rollback hAccounted hTracked
        hQueued hHolder
      · unfold System.resumeRequests
        rw [hHolder]
        dsimp only
        rw [hGoesOn, hAnswer, Bool.or_false,
          if_neg Bool.false_ne_true]
      · unfold System.resume
        rw [hHolder]
        dsimp only
        rw [hGoesOn, if_neg Bool.false_ne_true, hAnswer,
          if_neg Bool.false_ne_true]

/- Nothing is tracked once an emergency stop has severed. -/
def Emptied (s : Supervised) : Prop :=
  s.system.holder = some .emergencySnapshot →
    s.system.activeRuntimes = []

/-
  Every stage but a wait for the Execution Plane leads to
  the termination of a tracked process.
-/
theorem terminates_of_tracked
    {given : Nat → Given}
    {s : Supervised}
    (hAccounted : s.Accounted)
    (hEmptied : s.Emptied)
    {pid : Nat}
    (hTracked : pid ∈ s.system.activeRuntimes)
    (hInvoked : s.system.emergencyInvoked = true)
    (hGoesOn : s.system.startWaits (given 0) = false) :
    Terminates given s pid := by
  have hQueued := System.queued_of_invoked hInvoked
  cases hHolder : s.system.holder with
  | none =>
      exact terminates_of_free hAccounted hTracked hHolder
        (hQueued (by simp [hHolder]))
  | some stage =>
      rw [hHolder] at hQueued
      cases stage with
      | startSnapshot =>
          have hSystem :=
            system_of_resume (given 0) hTracked hHolder
          have hOver :=
            System.startSpawn_tracked hTracked
              (given 0).surroundings (given 0).elapsed
              (given 0).answers
          unfold System.resume at hSystem
          rw [hHolder] at hSystem
          apply terminates_of_freed hAccounted hSystem
            hOver.2.2 hOver.1
          rw [hOver.2.1]
          exact hQueued (by simp)
      | startConnecting waited =>
          unfold System.startWaits at hGoesOn
          rw [hHolder] at hGoesOn
          cases hGoesOn
      | startConnected waited =>
          exact terminates_of_startConnected hAccounted
            hTracked (hQueued (by simp)) hHolder hGoesOn
      | startInitializing waited msgId =>
          exact terminates_of_startInitializing hAccounted
            hTracked (hQueued (by simp)) hHolder hGoesOn
      | startFailed waited =>
          exact terminates_of_startFailed hAccounted hTracked
            (hQueued (by simp)) hHolder
      | stopDispatched kind =>
          exact terminates_of_stopping hAccounted hTracked
            (.inl hHolder)
      | stopTerminating kind =>
          exact terminates_of_stopping hAccounted hTracked
            (.inr hHolder)
      | emergencySnapshot =>
          rw [hEmptied hHolder] at hTracked
          cases hTracked

------------------------------------------------------------
-- Waits That Nothing Of The Handlers Ends
------------------------------------------------------------

/- The start waits and its next turn changes nothing. -/
def Stuck (s : Supervised) : Prop :=
  (∃ pid, s.system.holder = some (.startConnecting pid)) ∨
    ∃ pid msgId,
      s.system.holder =
          some (.startInitializing pid msgId) ∧
        s.system.boundary.manager.pendingCorrelations.has
          msgId = true

theorem stuck_step
    {s : Supervised}
    (hStuck : s.Stuck)
    (given : Given) :
    (s.step (s.handlerTurn given)).Stuck ∧
      ∀ pid,
        pid ∈ (s.step (s.handlerTurn given)).requested →
          pid ∈ s.requested := by
  have hStays :
      s.system.resume given.surroundings given.elapsed
          given.answers = (s.system, none) ∧
        s.system.resumeRequests given.answers = [] ∧
          ∃ stage, s.system.holder = some stage := by
    unfold System.resume System.resumeRequests
    rcases hStuck with
      ⟨waited, hHolder⟩ | ⟨waited, msgId, hHolder, hPending⟩
    · rw [hHolder]
      exact ⟨rfl, rfl, _, rfl⟩
    · rw [hHolder]
      dsimp only
      rw [hPending, Bool.true_or, if_pos rfl, if_pos rfl]
      exact ⟨rfl, rfl, _, rfl⟩
  rcases hStays with ⟨hResume, hRequests, stage, hHolder⟩
  have hInput := handlerTurn_resume given hHolder
  by_cases hEnabled :
      s.enabled (s.handlerTurn given) = true
  · have hSystem :
        (s.step (s.handlerTurn given)).system =
          s.system := by
      rw [step_of_enabled hEnabled]
      dsimp only
      unfold System.step System.respond
      rw [hInput]
      exact congrArg Prod.fst hResume
    refine ⟨?_, ?_⟩
    · unfold Stuck
      rw [hSystem]
      exact hStuck
    · intro pid hMem
      rcases (requested_step hEnabled).mp hMem with
        ⟨hBefore | hNow, _⟩
      · exact hBefore
      · unfold System.requests at hNow
        rw [hInput] at hNow
        dsimp only at hNow
        rw [hRequests] at hNow
        cases hNow
  · rw [step_of_disabled hEnabled]
    exact ⟨hStuck, fun _ hMem => hMem⟩

theorem stuck_goOn
    {s : Supervised}
    (hStuck : s.Stuck)
    (given : Nat → Given)
    (n : Nat)
    {pid : Nat}
    (hMem : pid ∈ (goOn given n s).requested) :
    pid ∈ s.requested := by
  induction n generalizing s given with
  | zero => exact hMem
  | succ n ih =>
      have hNext := stuck_step hStuck (given 0)
      exact hNext.2 pid (ih hNext.1 _ hMem)

end Supervised

namespace System

open ExecutionBoundaryManager in
/- An envelope whose answer is awaited is pending. -/
theorem pending_of_awaiting
    (env : Env)
    (m : ExecutionBoundaryManager)
    (accounts : List CompiledAccount)
    {msgId : String}
    (hReply :
      (m.execute env
        (.initializeWorker accounts
          { waitForAck := true })).2 =
        .dispatched (.awaiting msgId)) :
    (m.execute env
      (.initializeWorker accounts
        { waitForAck := true })).1.pendingCorrelations.has
          msgId = true := by
  unfold execute initializeWorker dispatchCommand
    dispatchEnvelope at hReply ⊢
  dsimp only at hReply ⊢
  split at hReply
  · cases hReply
  · rename_i started hStarted
    rw [if_pos rfl] at hReply ⊢
    split at hReply
    · cases hReply
    · rename_i count hCount
      cases hReply
      rw [OrderedMap.has_set, decide_eq_true rfl]
      rfl
    · cases hReply

end System

namespace Supervised

/- A start that begins to wait is stuck after its turn. -/
theorem stuck_of_waits
    {s : Supervised}
    {given : Given}
    {pid : Nat}
    (hTracked : pid ∈ s.system.activeRuntimes)
    (hWaits : s.system.startWaits given = true) :
    s.Stuck ∨
      (s.step (s.handlerTurn given)).Stuck ∧
        s.system.requests (s.handlerTurn given) = [] := by
  unfold System.startWaits at hWaits
  split at hWaits
  · rename_i waited hHolder
    exact .inl (.inl ⟨waited, hHolder⟩)
  · rename_i waited hHolder
    right
    split at hWaits
    · rename_i accounts hCompiled
      split at hWaits
      · rename_i msgId hReply
        refine ⟨.inr ⟨waited, msgId, ?_, ?_⟩, ?_⟩
        · rw [system_of_resume given hTracked hHolder]
          unfold System.resume
          rw [hHolder]
          unfold System.startInitialize
          dsimp only
          rw [hCompiled]
          dsimp only
          rw [hReply]
          rfl
        · rw [system_of_resume given hTracked hHolder]
          unfold System.resume
          rw [hHolder]
          unfold System.startInitialize
          dsimp only
          rw [hCompiled]
          dsimp only
          rw [hReply]
          exact System.pending_of_awaiting _ _ accounts hReply
        · unfold System.requests
          rw [handlerTurn_resume given hHolder]
          unfold System.resumeRequests
          rw [hHolder]
      · cases hWaits
    · cases hWaits
  · rename_i waited msgId hHolder
    exact .inl (.inr ⟨waited, msgId, hHolder, hWaits⟩)
  · cases hWaits

theorem not_terminates_of_waits
    {given : Nat → Given}
    {s : Supervised}
    {pid : Nat}
    (hTracked : pid ∈ s.system.activeRuntimes)
    (hRequested : pid ∉ s.requested)
    (hWaits : s.system.startWaits (given 0) = true) :
    ¬ Terminates given s pid := by
  rintro ⟨n, hMem⟩
  apply hRequested
  rcases stuck_of_waits hTracked hWaits with
    hStuck | ⟨hStuck, hNone⟩
  · exact stuck_goOn hStuck given n hMem
  · cases n with
    | zero => exact hMem
    | succ n =>
        have hLater := stuck_goOn hStuck _ n hMem
        rw [requested_step
          (enabled_of_tracked hTracked (given 0)), hNone]
          at hLater
        rcases hLater.1 with hBefore | hNow
        · exact hBefore
        · cases hNow

end Supervised

------------------------------------------------------------
-- A Severed System Tracks Nothing
------------------------------------------------------------

namespace System

/- The turn does not bring the holder to its snapshot. -/
def KeepsOffSnapshot (s next : System) : Prop :=
  next.holder = some .emergencySnapshot →
    s.holder = some .emergencySnapshot

theorem connectionAborted_keepsOff
    (s : System) :
    KeepsOffSnapshot s s.connectionAborted := by
  intro hHolder
  unfold connectionAborted at hHolder
  split at hHolder
  · cases hHolder
  · exact hHolder

theorem connectionArrived_keepsOff
    (s : System) :
    KeepsOffSnapshot s s.connectionArrived := by
  intro hHolder
  unfold connectionArrived at hHolder
  split at hHolder
  · cases hHolder
  · exact hHolder

theorem hear_keepsOff
    (surroundings : Surroundings)
    (s : System)
    (emitted : Emitted) :
    KeepsOffSnapshot s (hear surroundings s emitted) := by
  cases emitted with
  | clientConnected connId =>
      exact connectionArrived_keepsOff _
  | connectionAborted => exact connectionAborted_keepsOff s
  | livenessAlert alert =>
      cases alert with
      | quarantineRequired elapsed lastSeen =>
          exact connectionAborted_keepsOff _
      | _ => exact fun hHolder => hHolder
  | stateChanged state message =>
      intro hHolder
      unfold hear engineStateChanged at hHolder
      dsimp only at hHolder
      split at hHolder
      · exact hHolder
      · exact hHolder
  | _ => exact fun hHolder => hHolder

theorem listen_keepsOff
    (surroundings : Surroundings)
    (s : System)
    (emitted : List Emitted) :
    KeepsOffSnapshot s
      (emitted.foldl (hear surroundings) s) := by
  induction emitted generalizing s with
  | nil => exact fun hHolder => hHolder
  | cons first rest ih =>
      intro hHolder
      exact hear_keepsOff surroundings s first
        (ih _ hHolder)

theorem runtimeExited_keepsOff
    (s : System)
    (pid : Nat) :
    KeepsOffSnapshot s (s.runtimeExited pid) := by
  have hLost :
      ((s.terminateRuntime pid).runtimeLost pid).holder =
        s.holder := by
    unfold runtimeLost
    split <;> rfl
  intro hHolder
  unfold runtimeExited at hHolder
  dsimp only at hHolder
  split at hHolder
  · rw [← hLost]
    split at hHolder
    · exact connectionAborted_keepsOff _ hHolder
    · exact hHolder
  · exact hHolder

theorem startCluster_holder
    (s : System)
    (pid : Nat) :
    (s.startCluster pid).1.holder ≠
      some .emergencySnapshot := by
  unfold startCluster
  split
  · exact nofun
  · split <;> exact nofun

theorem startSpawn_holder
    (s : System)
    (surroundings : Surroundings)
    (elapsed : Nat)
    (answers : Answers) :
    (s.startSpawn surroundings elapsed
      answers).1.holder ≠ some .emergencySnapshot := by
  unfold startSpawn
  dsimp only
  split
  · split
    · exact startCluster_holder _ _
    · exact nofun
  · exact nofun

theorem startBegin_holder
    (s : System)
    (surroundings : Surroundings)
    (elapsed : Nat)
    (accountIds : List String)
    (answers : Answers) :
    (s.startBegin surroundings elapsed accountIds
      answers).1.holder ≠ some .emergencySnapshot := by
  unfold startBegin
  split
  · exact nofun
  · dsimp only
    split
    · exact nofun
    · exact startSpawn_holder _ _ _ _

theorem acquire_keepsOff
    (s : System)
    (surroundings : Surroundings)
    (elapsed : Nat)
    (answers : Answers) :
    KeepsOffSnapshot s
      (s.acquire surroundings elapsed answers).1 := by
  intro hHolder
  unfold acquire at hHolder
  split at hHolder
  · exact absurd hHolder (startBegin_holder _ _ _ _ _)
  · cases hHolder
  · cases hHolder
  · exact hHolder

/- The emergency stop severs before its snapshot. -/
theorem resume_emptied
    (s : System)
    (surroundings : Surroundings)
    (elapsed : Nat)
    (answers : Answers)
    (hHolder :
      (s.resume surroundings elapsed answers).1.holder =
        some .emergencySnapshot) :
    (s.resume surroundings elapsed
      answers).1.activeRuntimes = [] := by
  unfold resume at hHolder ⊢
  cases hStage : s.holder with
  | none =>
      rw [hStage] at hHolder
      dsimp only at hHolder
      rw [hStage] at hHolder
      cases hHolder
  | some stage =>
      rw [hStage] at hHolder
      cases stage with
      | startSnapshot =>
          exact absurd hHolder (startSpawn_holder _ _ _ _)
      | startConnecting pid =>
          dsimp only at hHolder
          rw [hStage] at hHolder
          cases hHolder
      | startConnected pid =>
          unfold startInitialize at hHolder
          dsimp only at hHolder
          split at hHolder
          · cases hHolder
          · split at hHolder <;> cases hHolder
      | startInitializing pid msgId =>
          dsimp only at hHolder
          split at hHolder
          · rw [hStage] at hHolder
            cases hHolder
          · split at hHolder <;> cases hHolder
      | startFailed pid => cases hHolder
      | stopDispatched kind => cases hHolder
      | stopTerminating kind =>
          exact stopServerAfter_activeRuntimes s _ _ kind
      | emergencySnapshot => cases hHolder

/-
  A turn that ends in the snapshot stage has severed in it,
  or was there before and spawns nothing.
-/
theorem step_snapshot
    (s : System)
    (event : SystemEvent)
    (hHolder :
      (s.step event).holder = some .emergencySnapshot) :
    (s.step event).activeRuntimes = [] ∨
      s.holder = some .emergencySnapshot := by
  unfold step respond at hHolder ⊢
  cases hInput : event.input with
  | boundary input =>
      rw [hInput] at hHolder
      exact .inr (listen_keepsOff _
        (s.act event.surroundings event.elapsed input) _
        hHolder)
  | runtimeExited pid =>
      rw [hInput] at hHolder
      exact .inr (runtimeExited_keepsOff s pid hHolder)
  | handshakeTimeout pid =>
      rw [hInput] at hHolder
      dsimp only at hHolder
      unfold handshakeTimeout at hHolder
      split at hHolder
      · exact .inr (connectionAborted_keepsOff
          (s.terminateRuntime pid) hHolder)
      · exact .inr hHolder
  | connectionTimeout =>
      rw [hInput] at hHolder
      exact .inr (connectionAborted_keepsOff s hHolder)
  | runtimeStateChanged state =>
      rw [hInput] at hHolder
      dsimp only at hHolder
      unfold runtimeStateChanged at hHolder
      split at hHolder
      · exact .inr hHolder
      · exact .inr hHolder
  | submit command =>
      rw [hInput] at hHolder
      dsimp only at hHolder
      rcases s.submit_eq command with hDenied | hQueued
      · rw [hDenied] at hHolder
        exact .inr hHolder
      · rw [hQueued] at hHolder
        exact .inr hHolder
  | acquire answers =>
      rw [hInput] at hHolder
      exact .inr (acquire_keepsOff s _ _ _ hHolder)
  | resume answers =>
      rw [hInput] at hHolder
      exact .inl (resume_emptied s _ _ _ hHolder)
  | workspace input =>
      rw [hInput] at hHolder
      right
      cases input with
      | _ => exact hHolder
  | cancelAllBets maxCapacity =>
      rw [hInput] at hHolder
      dsimp only at hHolder
      rw [freezeSnapshot_eq] at hHolder
      right
      cases maxCapacity with
      | none => exact hHolder
      | some capacity => exact hHolder
  | freezeAccount target reason =>
      rw [hInput] at hHolder
      dsimp only at hHolder
      rw [freezeAccount_eq] at hHolder
      exact .inr hHolder
  | _ =>
      rw [hInput] at hHolder
      exact .inr hHolder

end System

namespace Supervised

theorem emptied_step
    (s : Supervised)
    (event : SystemEvent)
    (hEmptied : s.Emptied) :
    (s.step event).Emptied := by
  by_cases hEnabled : s.enabled event = true
  · rw [step_of_enabled hEnabled]
    intro hHolder
    rcases s.system.step_snapshot event hHolder with
      hNone | hBefore
    · exact hNone
    · have hIdle := hEmptied hBefore
      rcases s.system.step_runtimeEffect event with
        ⟨pid, hSpawned, _, _⟩ | ⟨_, hKept, _⟩
      · unfold System.spawned at hSpawned
        rw [hBefore] at hSpawned
        split at hSpawned
        · rename_i hFree _
          cases hFree
        · rename_i hOther
          cases hOther
        · cases hSpawned
      · apply List.eq_nil_iff_forall_not_mem.mpr
        intro pid hMem
        have hOld := hKept pid hMem
        rw [hIdle] at hOld
        cases hOld
  · rw [step_of_disabled hEnabled]
    exact hEmptied

------------------------------------------------------------
-- Reached States
------------------------------------------------------------

/-
  In every reached state with a live process and an invoked
  emergency stop, the handlers come to terminate the process
  by themselves exactly when its exit was requested before
  or no start in front of the stop waits for the Execution
  Plane.
-/
theorem emergency_terminates_iff
    (maxEntries : Nat)
    (accounts : List WorkspaceAccount)
    (events : List SystemEvent)
    (given : Nat → Given)
    (pid : Nat)
    (hAlive :
      pid ∈ (run step (fresh maxEntries accounts)
        events).alive)
    (hInvoked :
      (run step (fresh maxEntries accounts)
        events).system.emergencyInvoked = true) :
    Terminates given
        (run step (fresh maxEntries accounts) events) pid ↔
      pid ∈ (run step (fresh maxEntries accounts)
          events).requested ∨
        (run step (fresh maxEntries accounts)
          events).system.startWaits (given 0) = false := by
  have hAccounted :
      (run step (fresh maxEntries accounts)
        events).Accounted :=
    run_keeps accounted_step events
      (accounted_fresh maxEntries accounts)
  have hEmptied :
      (run step (fresh maxEntries accounts)
        events).Emptied :=
    run_keeps emptied_step events nofun
  rcases hAccounted.alive_known pid hAlive with
    hTracked | hRequested
  · constructor
    · intro hTerminates
      by_contra hNeither
      rw [not_or, Bool.not_eq_false] at hNeither
      exact not_terminates_of_waits hTracked hNeither.1
        hNeither.2 hTerminates
    · intro hEither
      rcases hEither with hRequested | hGoesOn
      · exact Terminates.of_requested hRequested
      · exact terminates_of_tracked hAccounted hEmptied
          hTracked hInvoked hGoesOn
  · constructor
    · intro _
      exact .inl hRequested
    · intro _
      exact Terminates.of_requested hRequested

/- Turns of the handlers in healthy surroundings. -/
def healthyTurns (_ : Nat) : Given where
  elapsed := 1
  surroundings := Surroundings.healthy
  answers := {}

/- An emergency stop of automation that runs. -/
theorem emergency_of_running_terminates :
    Terminates healthyTurns
      (run step oneAccount
        (startedRun ++
          [System.turn (.submit .emergencyStop)])) 7 := by
  apply (emergency_terminates_iff 10 _ _ healthyTurns 7
    (by decide) (by decide)).mpr
  right
  decide

/-
  An emergency stop behind a start whose envelope was not
  answered: no turn of the handlers terminates the process.
-/
theorem emergency_behind_start_never_terminates :
    7 ∈ (run step oneAccount
        (initializingRun ++
          [System.turn (.submit .emergencyStop)])).alive ∧
      (run step oneAccount
        (initializingRun ++
          [System.turn
            (.submit
              .emergencyStop)])).system.emergencyInvoked =
        true ∧
      ¬ ∃ given,
        Terminates given
          (run step oneAccount
            (initializingRun ++
              [System.turn (.submit .emergencyStop)])) 7 := by
  refine ⟨by decide, by decide, ?_⟩
  rintro ⟨given, n, hMem⟩
  have hStuck :
      (run step oneAccount
        (initializingRun ++
          [System.turn (.submit .emergencyStop)])).Stuck := by
    right
    exact ⟨7, "01J0000000000000000000MSG0", by decide,
      by decide⟩
  have hBefore := stuck_goOn hStuck given n hMem
  revert hBefore
  decide

end Supervised

end ControlPlane
