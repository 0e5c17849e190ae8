import ControlPlane.Data.Run

/-
  The native table of the execution processes.

  A call that starts a process holds the lock of the table
  from its first step to its last, and looks at the flag of
  revocation when it has the lock. A revocation sets the
  flag without the lock, and then takes the lock to kill
  what is in the table. A thread for each process waits for
  its end, and then takes the lock to remove it. Calls and
  threads interleave between their steps.

  A process is a number. The system gives out no number of a
  process that runs or is waited for, and gives it out again
  afterwards.

  Main declarations:
    * `ProcessTable`, `ProcessEvent` and `ProcessTable.step`
    * `Unrecycled`
    * `Supervised` and `Revoked`
    * `revocation_is_complete`
-/

------------------------------------------------------------
-- Processes
------------------------------------------------------------

namespace ControlPlane

namespace Native

/- What a call is asked to start. -/
structure SpawnRequest where
  scriptPath : Option String
  expectedSha256 : Option String
deriving DecidableEq, Repr

def SpawnRequest.entryScript
    (request : SpawnRequest) : String :=
  request.scriptPath.getD "path/to/runtime/entry.mjs"

/- The steps of a call that holds the lock. -/
inductive SpawnPhase where
| checked (request : SpawnRequest)
| verified (request : SpawnRequest)
| started (pid : Nat) (key : List UInt8)
deriving DecidableEq, Repr

inductive ProcessEntry where
| refused
| mismatched (script : String)
| failed
| spawned (pid : Nat)
| exited (pid : Nat)
deriving DecidableEq, Repr

/-
  The flag, the table under its lock, and the processes that
  run. The threads of processes wait in `watchers`, and are
  in `leaving` until they get the lock. `revokers` counts
  the calls that have set the flag and have not emptied the
  table yet.
-/
structure ProcessTable where
  revoked : Bool
  handles : List (Nat × List UInt8)
  spawning : Option SpawnPhase
  running : List Nat
  watchers : List Nat
  leaving : List Nat
  revokers : Nat
  log : List ProcessEntry
deriving DecidableEq, Repr

/-
  The contents of a script are `none` where it cannot be
  read. A process whose handle could not be duplicated is
  not watched.
-/
inductive ProcessEvent where
| beginSpawn (request : SpawnRequest)
| verifyScript (contents : Option (List UInt8))
| failSpawn
| startChild (pid : Nat) (key : List UInt8)
| dropChild
| trackChild (watched : Bool)
| setRevoked (revoked : Bool)
| revokeAll
| terminate (pid : Nat)
| exit (pid : Nat)
| wake (pid : Nat)
| remove (pid : Nat)
deriving DecidableEq, Repr

namespace ProcessTable

/- Nobody has called anything. -/
def fresh : ProcessTable where
  revoked := false
  handles := []
  spawning := none
  running := []
  watchers := []
  leaving := []
  revokers := 0
  log := []

/- A call ends and gives the lock back. -/
def release
    (entry : ProcessEntry)
    (s : ProcessTable) : ProcessTable :=
  { s with spawning := none, log := s.log ++ [entry] }

/- `HashMap::remove` -/
def forget
    (pid : Nat)
    (s : ProcessTable) : ProcessTable :=
  { s with
      handles :=
        s.handles.filter (fun h => decide (h.1 ≠ pid)) }

def kill
    (pid : Nat)
    (s : ProcessTable) : ProcessTable :=
  { s with
      running := s.running.filter (fun p => decide (p ≠ pid)) }

/- `get_session_key` -/
def getSessionKey
    (s : ProcessTable)
    (pid : Nat) : Option (List UInt8) :=
  s.handles.lookup pid

/- `is_valid_pid` -/
def isValidPid
    (s : ProcessTable)
    (pid : Nat) : Bool :=
  decide (pid ∈ s.handles.map Prod.fst)

/- The lock is taken, and the flag is looked at. -/
def beginSpawn
    (request : SpawnRequest)
    (s : ProcessTable) : ProcessTable :=
  match s.spawning with
  | some _ => s
  | none =>
      if s.revoked then s.release .refused
      else { s with spawning := some (.checked request) }

variable (digest : List UInt8 → String)

/- Whether the script is the one that is expected. -/
def hasDigest
    (request : SpawnRequest)
    (contents : Option (List UInt8)) : Bool :=
  match request.expectedSha256, contents with
  | none, _ => true
  | some _, none => false
  | some expected, some bytes =>
      decide ((digest bytes).toLower = expected.toLower)

def verifyScript
    (contents : Option (List UInt8))
    (s : ProcessTable) : ProcessTable :=
  match s.spawning with
  | some (.checked request) =>
      if hasDigest digest request contents then
        { s with spawning := some (.verified request) }
      else s.release (.mismatched request.entryScript)
  | _ => s

/- What fails before there is a process. -/
def failSpawn (s : ProcessTable) : ProcessTable :=
  match s.spawning with
  | some (.verified _) => s.release .failed
  | _ => s

def startChild
    (pid : Nat)
    (key : List UInt8)
    (s : ProcessTable) : ProcessTable :=
  match s.spawning with
  | some (.verified _) =>
      { s with
          spawning := some (.started pid key)
          running := s.running ++ [pid] }
  | _ => s

/- What fails afterwards kills the process. -/
def dropChild (s : ProcessTable) : ProcessTable :=
  match s.spawning with
  | some (.started pid _) => (s.kill pid).release .failed
  | _ => s

/- The process is in the table, and may be watched. -/
def trackChild
    (watched : Bool)
    (s : ProcessTable) : ProcessTable :=
  match s.spawning with
  | some (.started pid key) =>
      ({ s.forget pid with
          handles := (s.forget pid).handles ++ [(pid, key)]
          watchers :=
            if watched then s.watchers ++ [pid]
            else s.watchers }).release (.spawned pid)
  | _ => s

/- The flag is set, and the rest of the call is due. -/
def setRevoked
    (revoked : Bool)
    (s : ProcessTable) : ProcessTable :=
  { s with
      revoked := revoked
      revokers := s.revokers + if revoked then 1 else 0 }

/- The lock is taken, and what is in the table is killed. -/
def revokeAll (s : ProcessTable) : ProcessTable :=
  if s.spawning.isSome ∨ s.revokers = 0 then s
  else
    { s with
        handles := []
        running :=
          s.running.filter (fun pid => !s.isValidPid pid)
        revokers := s.revokers - 1 }

def terminate
    (pid : Nat)
    (s : ProcessTable) : ProcessTable :=
  if s.spawning.isSome then s
  else if s.isValidPid pid then (s.forget pid).kill pid
  else s

/- The process that a thread waits for has ended. -/
def wake
    (pid : Nat)
    (s : ProcessTable) : ProcessTable :=
  if pid ∈ s.watchers ∧ pid ∉ s.running then
    { s with
        watchers := s.watchers.erase pid
        leaving := s.leaving ++ [pid] }
  else s

/- The thread has the lock, and removes what is there. -/
def remove
    (pid : Nat)
    (s : ProcessTable) : ProcessTable :=
  if s.spawning.isSome ∨ pid ∉ s.leaving then s
  else
    { s.forget pid with
        leaving := s.leaving.erase pid
        log := s.log ++ [.exited pid] }

def step
    (s : ProcessTable) : ProcessEvent → ProcessTable
| .beginSpawn request => s.beginSpawn request
| .verifyScript contents => s.verifyScript digest contents
| .failSpawn => s.failSpawn
| .startChild pid key => s.startChild pid key
| .dropChild => s.dropChild
| .trackChild watched => s.trackChild watched
| .setRevoked revoked => s.setRevoked revoked
| .revokeAll => s.revokeAll
| .terminate pid => s.terminate pid
| .exit pid => s.kill pid
| .wake pid => s.wake pid
| .remove pid => s.remove pid

------------------------------------------------------------
-- Supervision
------------------------------------------------------------

/-
  A number is given out when nobody runs under it or waits
  for it, and no thread has still to remove it.
-/
def Unrecycled
    (s : ProcessTable) : ProcessEvent → Prop
| .startChild pid _ =>
    pid ∉ s.running ∧ pid ∉ s.watchers ∧ pid ∉ s.leaving
| _ => True

/- The process is being started by the call with the lock. -/
def Starting
    (s : ProcessTable)
    (pid : Nat) : Prop :=
  ∃ key, s.spawning = some (.started pid key)

/-
  What runs can be killed: it is in the table, or the call
  that starts it has not given back the lock.
-/
def Supervised (s : ProcessTable) : Prop :=
  ∀ pid ∈ s.running,
    s.isValidPid pid = true ∨ s.Starting pid

/- Nothing runs, and no call is going to start anything. -/
structure Sealed (s : ProcessTable) : Prop where
  handles : s.handles = []
  spawning : s.spawning = none
  running : s.running = []

/-
  What every step keeps. Nothing runs that a thread is going
  to remove, and a revocation that is over has emptied the
  table.
-/
structure Kept (s : ProcessTable) : Prop where
  supervised : s.Supervised
  ended : ∀ pid ∈ s.leaving, pid ∉ s.running
  revoked :
    s.revoked = true → 0 < s.revokers ∨ s.Sealed

variable {s : ProcessTable}

theorem isValidPid_forget
    (s : ProcessTable)
    (pid other : Nat) :
    (s.forget pid).isValidPid other = true ↔
      s.isValidPid other = true ∧ other ≠ pid := by
  unfold isValidPid forget
  rw [decide_eq_true_eq, decide_eq_true_eq]
  constructor
  · intro hMem
    rcases List.mem_map.mp hMem with ⟨handle, hHandle, rfl⟩
    rcases List.mem_filter.mp hHandle with ⟨hOld, hNe⟩
    exact ⟨List.mem_map_of_mem hOld, of_decide_eq_true hNe⟩
  · rintro ⟨hMem, hNe⟩
    rcases List.mem_map.mp hMem with ⟨handle, hHandle, rfl⟩
    exact List.mem_map_of_mem
      (List.mem_filter.mpr ⟨hHandle, decide_eq_true hNe⟩)

theorem mem_kill
    {pid other : Nat}
    (hRunning : other ∈ (s.kill pid).running) :
    other ∈ s.running ∧ other ≠ pid := by
  rcases List.mem_filter.mp hRunning with ⟨hOld, hNe⟩
  exact ⟨hOld, of_decide_eq_true hNe⟩

/- A step that starts nothing and sets no flag. -/
theorem Kept.change
    {s' : ProcessTable}
    (hKept : Kept s)
    (hSupervised : s'.Supervised)
    (hRunning : ∀ pid ∈ s'.running, pid ∈ s.running)
    (hLeaving : ∀ pid ∈ s'.leaving, pid ∈ s.leaving)
    (hRevoked : s'.revoked = s.revoked)
    (hRevokers : s'.revokers = s.revokers)
    (hSealed : s.Sealed → s'.Sealed) :
    Kept s' where
  supervised := hSupervised
  ended pid hPid hRuns :=
    hKept.ended pid (hLeaving pid hPid) (hRunning pid hRuns)
  revoked := by
    rw [hRevoked, hRevokers]
    exact fun hSet => (hKept.revoked hSet).imp_right hSealed

/- Without a call that has started it, it is in the table. -/
theorem Kept.valid
    (hKept : Kept s)
    (hSpawning : ∀ pid key, s.spawning ≠ some (.started pid key))
    {pid : Nat}
    (hRunning : pid ∈ s.running) :
    s.isValidPid pid = true := by
  rcases hKept.supervised pid hRunning with hValid | hStarting
  · exact hValid
  · rcases hStarting with ⟨key, hStarted⟩
    exact absurd hStarted (hSpawning pid key)

/- A call goes on, or ends, before it has started anything. -/
theorem Kept.proceed
    {s' : ProcessTable}
    (hKept : Kept s)
    (hSpawning : ∀ pid key, s.spawning ≠ some (.started pid key))
    (hHandles : s'.handles = s.handles)
    (hRunning : s'.running = s.running)
    (hLeaving : s'.leaving = s.leaving)
    (hRevoked : s'.revoked = s.revoked)
    (hRevokers : s'.revokers = s.revokers)
    (hSealed : s.Sealed → s'.spawning = none) :
    Kept s' := by
  refine hKept.change ?_ ?_ ?_ hRevoked hRevokers ?_
  · intro pid hPid
    rw [hRunning] at hPid
    have hValid := hKept.valid hSpawning hPid
    unfold isValidPid at hValid ⊢
    rw [hHandles]
    exact .inl hValid
  · rw [hRunning]
    exact fun _ hPid => hPid
  · rw [hLeaving]
    exact fun _ hPid => hPid
  · intro hOld
    exact ⟨hHandles.trans hOld.handles, hSealed hOld,
      hRunning.trans hOld.running⟩

theorem Sealed.not_some
    (hSealed : s.Sealed)
    {phase : SpawnPhase}
    (hSpawning : s.spawning = some phase) :
    False := by
  rw [hSealed.spawning] at hSpawning
  cases hSpawning

theorem Kept.beginSpawn
    (hKept : Kept s)
    (request : SpawnRequest) :
    Kept (s.beginSpawn request) := by
  unfold ProcessTable.beginSpawn
  split
  · exact hKept
  · rename_i hFree
    have hSpawning :
        ∀ pid key, s.spawning ≠ some (.started pid key) := by
      intro pid key hStarted
      rw [hFree] at hStarted
      cases hStarted
    split
    · exact hKept.proceed hSpawning rfl rfl rfl rfl rfl
        (fun _ => rfl)
    · rename_i hRevoked
      refine ⟨?_, hKept.ended, ?_⟩
      · exact fun pid hPid =>
          .inl (hKept.valid hSpawning hPid)
      · exact fun hSet => absurd hSet hRevoked

theorem Kept.verifyScript
    (hKept : Kept s)
    (contents : Option (List UInt8)) :
    Kept (s.verifyScript digest contents) := by
  unfold ProcessTable.verifyScript
  split
  · rename_i request hPhase
    have hSpawning :
        ∀ pid key, s.spawning ≠ some (.started pid key) := by
      intro pid key hStarted
      rw [hPhase] at hStarted
      cases hStarted
    split
    · exact hKept.proceed hSpawning rfl rfl rfl rfl rfl
        (fun hSealed => (hSealed.not_some hPhase).elim)
    · exact hKept.proceed hSpawning rfl rfl rfl rfl rfl
        (fun _ => rfl)
  · exact hKept

theorem Kept.failSpawn
    (hKept : Kept s) : Kept s.failSpawn := by
  unfold ProcessTable.failSpawn
  split
  · rename_i request hPhase
    have hSpawning :
        ∀ pid key, s.spawning ≠ some (.started pid key) := by
      intro pid key hStarted
      rw [hPhase] at hStarted
      cases hStarted
    exact hKept.proceed hSpawning rfl rfl rfl rfl rfl
      (fun _ => rfl)
  · exact hKept

/- A process is started under a number that nobody holds. -/
theorem Kept.startChild
    {pid : Nat}
    {key : List UInt8}
    (hKept : Kept s)
    (hFresh : s.Unrecycled (.startChild pid key)) :
    Kept (s.startChild pid key) := by
  unfold ProcessTable.startChild
  split
  · rename_i request hPhase
    refine ⟨?_, ?_, ?_⟩
    · intro other hOther
      rcases List.mem_append.mp hOther with hOld | hNew
      · refine .inl (hKept.valid ?_ hOld)
        intro started key hStarted
        rw [hPhase] at hStarted
        cases hStarted
      · rw [List.mem_singleton.mp hNew]
        exact .inr ⟨key, rfl⟩
    · intro other hLeaving hRunning
      rcases List.mem_append.mp hRunning with hOld | hNew
      · exact hKept.ended other hLeaving hOld
      · rw [List.mem_singleton.mp hNew] at hLeaving
        exact hFresh.2.2 hLeaving
    · intro hRevoked
      rcases hKept.revoked hRevoked with hDue | hSealed
      · exact .inl hDue
      · exact (hSealed.not_some hPhase).elim
  · exact hKept

/- A process that is dropped is killed before. -/
theorem Kept.dropChild
    (hKept : Kept s) : Kept s.dropChild := by
  unfold ProcessTable.dropChild
  split
  · rename_i pid key hPhase
    refine hKept.change ?_ ?_ (fun _ hPid => hPid) rfl rfl ?_
    · intro other hOther
      rcases mem_kill hOther with ⟨hOld, hNe⟩
      rcases hKept.supervised other hOld with hValid | hStart
      · exact .inl hValid
      · rcases hStart with ⟨otherKey, hStarted⟩
        rw [hPhase] at hStarted
        cases hStarted
        exact absurd rfl hNe
    · exact fun _ hOther => (mem_kill hOther).1
    · exact fun hSealed => (hSealed.not_some hPhase).elim
  · exact hKept

theorem Kept.trackChild
    (hKept : Kept s)
    (watched : Bool) : Kept (s.trackChild watched) := by
  unfold ProcessTable.trackChild
  split
  · rename_i pid key hPhase
    refine hKept.change ?_ (fun _ hPid => hPid)
      (fun _ hPid => hPid) rfl rfl ?_
    · intro other hOther
      have hTracked :
          other ∈ ((s.forget pid).handles ++
            [(pid, key)]).map Prod.fst := by
        rw [List.map_append, List.mem_append]
        by_cases hSame : other = pid
        · subst hSame
          exact .inr List.mem_cons_self
        · rcases hKept.supervised other hOther with
            hValid | hStart
          · exact .inl (of_decide_eq_true
              ((isValidPid_forget s pid other).mpr
                ⟨hValid, hSame⟩))
          · rcases hStart with ⟨otherKey, hStarted⟩
            rw [hPhase] at hStarted
            cases hStarted
            exact absurd rfl hSame
      exact .inl (decide_eq_true hTracked)
    · exact fun hSealed => (hSealed.not_some hPhase).elim
  · exact hKept

theorem Kept.setRevoked
    (hKept : Kept s)
    (revoked : Bool) : Kept (s.setRevoked revoked) where
  supervised := hKept.supervised
  ended := hKept.ended
  revoked hSet := by
    change revoked = true at hSet
    subst hSet
    exact .inl (Nat.succ_pos s.revokers)

/- What runs is in the table when the lock is free. -/
theorem Kept.revokeAll
    (hKept : Kept s) : Kept s.revokeAll := by
  unfold ProcessTable.revokeAll
  split
  · exact hKept
  · rename_i hEnabled
    rw [not_or] at hEnabled
    have hFree : s.spawning = none := by
      simpa using hEnabled.1
    have hNone :
        s.running.filter (fun pid => !s.isValidPid pid) =
          [] := by
      rw [List.filter_eq_nil_iff]
      intro pid hPid
      have hValid : s.isValidPid pid = true := by
        apply hKept.valid _ hPid
        intro other key hStarted
        rw [hFree] at hStarted
        cases hStarted
      rw [hValid]
      exact Bool.false_ne_true
    refine ⟨?_, ?_, fun _ => .inr ⟨rfl, hFree, hNone⟩⟩
    · intro pid hPid
      change pid ∈ s.running.filter _ at hPid
      rw [hNone] at hPid
      exact absurd hPid List.not_mem_nil
    · intro pid _ hPid
      change pid ∈ s.running.filter _ at hPid
      rw [hNone] at hPid
      exact List.not_mem_nil hPid

theorem Kept.kill
    (hKept : Kept s)
    (pid : Nat) : Kept (s.kill pid) := by
  refine hKept.change ?_ ?_ (fun _ hPid => hPid) rfl rfl ?_
  · exact fun other hOther =>
      hKept.supervised other (mem_kill hOther).1
  · exact fun _ hOther => (mem_kill hOther).1
  · intro hSealed
    refine ⟨hSealed.handles, hSealed.spawning, ?_⟩
    unfold ProcessTable.kill
    rw [hSealed.running]
    rfl

/- What is removed from the table does not run. -/
theorem Kept.forget
    {pid : Nat}
    (hKept : Kept s)
    (hEnded : pid ∉ s.running) : Kept (s.forget pid) := by
  refine hKept.change ?_ (fun _ hPid => hPid)
    (fun _ hPid => hPid) rfl rfl ?_
  · intro other hOther
    rcases hKept.supervised other hOther with hValid | hStart
    · refine .inl ((isValidPid_forget s pid other).mpr
        ⟨hValid, ?_⟩)
      intro hSame
      rw [hSame] at hOther
      exact hEnded hOther
    · exact .inr hStart
  · intro hSealed
    refine ⟨?_, hSealed.spawning, hSealed.running⟩
    unfold ProcessTable.forget
    rw [hSealed.handles]
    rfl

theorem Kept.terminate
    (hKept : Kept s)
    (pid : Nat) : Kept (s.terminate pid) := by
  unfold ProcessTable.terminate
  split
  · exact hKept
  · split
    · have hKilled := hKept.kill pid
      exact hKilled.forget
        (fun hPid => (mem_kill hPid).2 rfl)
    · exact hKept

theorem Kept.wake
    (hKept : Kept s)
    (pid : Nat) : Kept (s.wake pid) := by
  unfold ProcessTable.wake
  split
  · rename_i hEnabled
    refine ⟨hKept.supervised, ?_, ?_⟩
    · intro other hOther
      rcases List.mem_append.mp hOther with hOld | hNew
      · exact hKept.ended other hOld
      · rw [List.mem_singleton.mp hNew]
        exact hEnabled.2
    · intro hSet
      exact (hKept.revoked hSet).imp_right fun hSealed =>
        ⟨hSealed.handles, hSealed.spawning,
          hSealed.running⟩
  · exact hKept

theorem Kept.remove
    (hKept : Kept s)
    (pid : Nat) : Kept (s.remove pid) := by
  unfold ProcessTable.remove
  split
  · exact hKept
  · rename_i hEnabled
    have hLeaving : pid ∈ s.leaving :=
      Decidable.not_not.mp
        fun hNot => hEnabled (.inr hNot)
    have hForgot := hKept.forget (hKept.ended pid hLeaving)
    refine ⟨hForgot.supervised, ?_, ?_⟩
    · intro other hOther
      exact hKept.ended other (List.mem_of_mem_erase hOther)
    · intro hSet
      exact (hForgot.revoked hSet).imp_right fun hSealed =>
        ⟨hSealed.handles, hSealed.spawning,
          hSealed.running⟩

theorem Kept.step
    {event : ProcessEvent}
    (hKept : Kept s)
    (hEvent : s.Unrecycled event) :
    Kept (s.step digest event) := by
  cases event with
  | beginSpawn request => exact hKept.beginSpawn request
  | verifyScript contents =>
      exact hKept.verifyScript digest contents
  | failSpawn => exact hKept.failSpawn
  | startChild pid key => exact hKept.startChild hEvent
  | dropChild => exact hKept.dropChild
  | trackChild watched => exact hKept.trackChild watched
  | setRevoked revoked => exact hKept.setRevoked revoked
  | revokeAll => exact hKept.revokeAll
  | terminate pid => exact hKept.terminate pid
  | exit pid => exact hKept.kill pid
  | wake pid => exact hKept.wake pid
  | remove pid => exact hKept.remove pid

end ProcessTable

end Native

end ControlPlane
