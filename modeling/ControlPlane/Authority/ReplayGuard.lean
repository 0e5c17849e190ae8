import ControlPlane.Data.Run
import Mathlib.Data.List.Perm.Basic
import Mathlib.Data.List.Pairwise
import Mathlib.Algebra.Order.Group.Abs
import Mathlib.Algebra.Order.Group.Int

/-
  The replay guard.

  A nonce is remembered in memory at once and in storage
  after a wait. Storage is swept of what is older than half
  a minute, and the memory is cleared and loaded again.

  Main declarations:
    * `ReplayGuard.step`
    * `ReplayGuard.Consistent`
    * `at_most_once_throughout`
-/

------------------------------------------------------------
-- The Guard
------------------------------------------------------------

namespace ControlPlane

/-
  What a call still has to do, from one wait to the next. A
  save, a sweep with its cutoff, and the load of a start.
-/
inductive GuardTask where
| saving (nonce : String) (checkedAt : Int)
| saved (nonce : String) (checkedAt : Int)
| deleting (cutoff : Int)
| clearing
| loading
| adding (loaded : List String)
| starting
| filling (loaded : List String)
deriving DecidableEq, Repr

/- `seen_nonces` is in storage and outlives the process. -/
structure ReplayGuard where
  now : Int
  isOpen : Bool
  initialized : Bool
  seenNonces : List String
  stored : List (String × Int)
  tasks : List GuardTask
  returned : List (String × Int)
deriving DecidableEq, Repr

/-
  What happens between two waits. A call on a guard that is
  not initialized begins with `init`.
-/
inductive GuardEvent where
| wait (ms : Nat)
| openDatabase
| init
| checkAndRemember (nonce : String)
| evict
| advance (task : GuardTask)
| restart
deriving DecidableEq, Repr

namespace ReplayGuard

def storedNonces (s : ReplayGuard) : List String :=
  s.stored.map Prod.fst

/- `INSERT OR IGNORE` -/
def saveNonce
    (s : ReplayGuard)
    (nonce : String)
    (seenAt : Int) : List (String × Int) :=
  if nonce ∈ s.storedNonces then s.stored
  else s.stored ++ [(nonce, seenAt)]

/- `DELETE ... WHERE seen_at < ?` -/
def evictOldNonces
    (s : ReplayGuard)
    (cutoff : Int) : List (String × Int) :=
  s.stored.filter (fun row => !decide (row.2 < cutoff))

/- The task is done, or goes on as another one. -/
def resume
    (s : ReplayGuard)
    (task : GuardTask)
    (next : List GuardTask) : List GuardTask :=
  next ++ s.tasks.erase task

def advance
    (s : ReplayGuard)
    (task : GuardTask) : ReplayGuard :=
  match task with
  | .saving nonce checkedAt =>
      { s with
          stored := s.saveNonce nonce checkedAt
          tasks := s.resume task [.saved nonce checkedAt] }
  | .saved nonce checkedAt =>
      { s with
          returned := s.returned ++ [(nonce, checkedAt)]
          tasks := s.resume task [] }
  | .deleting cutoff =>
      { s with
          stored := s.evictOldNonces cutoff
          tasks := s.resume task [.clearing] }
  | .clearing =>
      { s with
          seenNonces := []
          tasks :=
            s.resume task
              [if s.isOpen then .loading else .adding []] }
  | .loading =>
      { s with
          tasks := s.resume task [.adding s.storedNonces] }
  | .adding loaded =>
      { s with
          seenNonces := s.seenNonces ++ loaded
          tasks := s.resume task [] }
  | .starting =>
      { s with
          tasks := s.resume task [.filling s.storedNonces] }
  | .filling loaded =>
      { s with
          seenNonces := s.seenNonces ++ loaded
          initialized := true
          tasks := s.resume task [] }

def step
    (s : ReplayGuard) : GuardEvent → ReplayGuard
| .wait ms => { s with now := s.now + ms }
| .openDatabase => { s with isOpen := true }
| .init =>
    if s.initialized then s
    else
      { s with
          seenNonces := []
          tasks :=
            (if s.isOpen then .starting else .filling []) ::
              s.tasks }
| .checkAndRemember nonce =>
    if !s.initialized then s
    else if nonce ∈ s.seenNonces then s
    else
      { s with
          seenNonces := s.seenNonces ++ [nonce]
          tasks :=
            (if s.isOpen then .saving nonce s.now
              else .saved nonce s.now) :: s.tasks }
| .evict =>
    if !s.initialized then s
    else
      { s with
          tasks :=
            (if s.isOpen then .deleting (s.now - 30000)
              else .clearing) :: s.tasks }
| .advance task => if task ∈ s.tasks then s.advance task else s
| .restart =>
    { s with
        isOpen := false
        initialized := false
        seenNonces := []
        tasks := [] }

/- A new process on what an earlier one has stored. -/
def start
    (now : Int)
    (stored : List (String × Int)) : ReplayGuard where
  now := now
  isOpen := false
  initialized := false
  seenNonces := []
  stored := stored
  tasks := []
  returned := []

def isWithinTimeWindow
    (now timestamp : Int)
    (maxDriftMs : Int) : Bool :=
  decide (|now - timestamp| ≤ maxDriftMs)

/-
  Of all calls for a nonce in the window of a timestamp at
  most one has returned true.
-/
def AtMostOnce (s : ReplayGuard) : Prop :=
  ∀ nonce timestamp,
    (s.returned.filter (fun call =>
      decide (call.1 = nonce) &&
        isWithinTimeWindow call.2 timestamp 30000)).length ≤ 1

------------------------------------------------------------
-- Admissible Steps
------------------------------------------------------------

end ReplayGuard

/- The memory has been cleared and is not loaded again. -/
def GuardTask.isReload : GuardTask → Bool
| .loading => true
| .adding _ => true
| _ => false

/- A call that returns true unless the process ends first. -/
def GuardTask.accepted? : GuardTask → Option (String × Int)
| .saving nonce checkedAt => some (nonce, checkedAt)
| .saved nonce checkedAt => some (nonce, checkedAt)
| _ => none

namespace ReplayGuard

def Reloading (s : ReplayGuard) : Prop :=
  ∃ task ∈ s.tasks, task.isReload = true

instance (s : ReplayGuard) : Decidable s.Reloading :=
  inferInstanceAs (Decidable (∃ task ∈ s.tasks, _))

def Saving (s : ReplayGuard) (nonce : String) : Prop :=
  ∃ checkedAt, .saving nonce checkedAt ∈ s.tasks

def accepted (s : ReplayGuard) : List (String × Int) :=
  s.returned ++ s.tasks.filterMap GuardTask.accepted?

/-
  A step that does not let a nonce be forgotten: a check is
  not made during a reload, nor of a nonce that was swept
  less than a minute after it was accepted, and no reload
  reads the storage before a save has reached it.
-/
def Kept (s : ReplayGuard) : GuardEvent → Prop
| .init => s.isOpen = true
| .checkAndRemember nonce =>
    s.isOpen = true ∧ ¬ s.Reloading ∧
      ∀ call ∈ s.accepted, call.1 = nonce →
        |s.now - call.2| ≤ 60000 →
          nonce ∈ s.storedNonces ∨ s.Saving nonce
| .advance .clearing => s.isOpen = true
| .advance .loading => ∀ nonce, ¬ s.Saving nonce
| _ => True

/-
  Outside of a reload the memory has what is stored or is
  about to be, and a reload adds all that is stored.
-/
structure Consistent (s : ReplayGuard) : Prop where
  stored_seen :
    s.initialized = true → ¬ s.Reloading →
      ∀ nonce ∈ s.storedNonces, nonce ∈ s.seenNonces
  saving_seen :
    s.initialized = true → ¬ s.Reloading →
      ∀ nonce, s.Saving nonce → nonce ∈ s.seenNonces
  loaded :
    ∀ loaded, .adding loaded ∈ s.tasks →
      (∀ nonce ∈ s.storedNonces, nonce ∈ loaded) ∧
        ∀ nonce, ¬ s.Saving nonce
  starting :
    s.initialized = false →
      ∀ task ∈ s.tasks, task = .starting ∨
        ∃ loaded, task = .filling loaded ∧
          ∀ nonce ∈ s.storedNonces, nonce ∈ loaded

/- Calls for one nonce that no window holds both of. -/
def Apart (first second : String × Int) : Prop :=
  first.1 = second.1 → 60000 < |first.2 - second.2|

------------------------------------------------------------
-- Consistency
------------------------------------------------------------

variable {s : ReplayGuard}

theorem mem_resume
    {task x : GuardTask}
    {next : List GuardTask}
    (hMem : x ∈ s.resume task next) :
    x ∈ next ∨ x ∈ s.tasks := by
  unfold resume at hMem
  rcases List.mem_append.mp hMem with hNext | hOld
  · exact .inl hNext
  · exact .inr (List.mem_of_mem_erase hOld)

theorem mem_resume_of_ne
    {task x : GuardTask}
    (hMem : x ∈ s.tasks)
    (hOther : x ≠ task)
    (next : List GuardTask) : x ∈ s.resume task next :=
  List.mem_append_right _
    ((List.mem_erase_of_ne hOther).mpr hMem)

/- A reload goes on beside every other task. -/
theorem reloading_resume
    {task : GuardTask}
    (hOther : task.isReload = false)
    {next : ReplayGuard}
    (hTasks : ∃ more, next.tasks = s.resume task more)
    (hReloading : s.Reloading) : next.Reloading := by
  rcases hTasks with ⟨more, hTasks⟩
  rcases hReloading with ⟨x, hMem, hReload⟩
  refine ⟨x, ?_, hReload⟩
  rw [hTasks]
  refine mem_resume_of_ne hMem ?_ more
  rintro rfl
  rw [hReload] at hOther
  cases hOther

/- A task that neither saves nor has been loaded. -/
def Plain (s : ReplayGuard) (task : GuardTask) : Prop :=
  (∀ nonce checkedAt, task ≠ .saving nonce checkedAt) ∧
    (∀ loaded, task ≠ .adding loaded) ∧
    (s.initialized = false →
      task = .starting ∨
        ∃ loaded, task = .filling loaded ∧
          ∀ nonce ∈ s.storedNonces, nonce ∈ loaded)

/- Steps that only move tasks or take nonces from storage. -/
theorem Consistent.of_tasks
    (hConsistent : s.Consistent)
    {next : ReplayGuard}
    (hInitialized : next.initialized = s.initialized)
    (hSeen : next.seenNonces = s.seenNonces)
    (hStored :
      ∀ nonce ∈ next.storedNonces, nonce ∈ s.storedNonces)
    (hTasks : ∀ x ∈ next.tasks, x ∈ s.tasks ∨ s.Plain x)
    (hReload : s.Reloading → next.Reloading) :
    next.Consistent := by
  have hSaving :
      ∀ nonce, next.Saving nonce → s.Saving nonce := by
    rintro nonce ⟨checkedAt, hMem⟩
    rcases hTasks _ hMem with hOld | hPlain
    · exact ⟨checkedAt, hOld⟩
    · exact absurd rfl (hPlain.1 nonce checkedAt)
  refine ⟨?_, ?_, ?_, ?_⟩
  · intro hStarted hQuiet nonce hNonce
    rw [hSeen]
    exact hConsistent.stored_seen (hInitialized ▸ hStarted)
      (fun hOld => hQuiet (hReload hOld)) nonce
      (hStored nonce hNonce)
  · intro hStarted hQuiet nonce hNonce
    rw [hSeen]
    exact hConsistent.saving_seen (hInitialized ▸ hStarted)
      (fun hOld => hQuiet (hReload hOld)) nonce
      (hSaving nonce hNonce)
  · intro loaded hMem
    rcases hTasks _ hMem with hOld | hPlain
    · rcases hConsistent.loaded loaded hOld with ⟨hAll, hNone⟩
      exact ⟨fun nonce hNonce =>
          hAll nonce (hStored nonce hNonce),
        fun nonce hNonce => hNone nonce (hSaving nonce hNonce)⟩
    · exact absurd rfl (hPlain.2.1 loaded)
  · intro hStarted x hMem
    have hOldStarted := hInitialized ▸ hStarted
    have hEither :
        x = .starting ∨
          ∃ loaded, x = .filling loaded ∧
            ∀ nonce ∈ s.storedNonces, nonce ∈ loaded := by
      rcases hTasks x hMem with hOld | hPlain
      · exact hConsistent.starting hOldStarted x hOld
      · exact hPlain.2.2 hOldStarted
    rcases hEither with rfl | ⟨loaded, rfl, hAll⟩
    · exact .inl rfl
    · exact .inr ⟨loaded, rfl, fun nonce hNonce =>
        hAll nonce (hStored nonce hNonce)⟩

/- A guard that is not initialized only has starts to do. -/
theorem Consistent.initialized_of_task
    (hConsistent : s.Consistent)
    {task : GuardTask}
    (hMem : task ∈ s.tasks)
    (hStart : task ≠ .starting)
    (hFill : ∀ loaded, task ≠ .filling loaded) :
    s.initialized = true := by
  cases hStarted : s.initialized with
  | true => rfl
  | false =>
      rcases hConsistent.starting hStarted task hMem with
        hTask | ⟨loaded, hTask, _⟩
      · exact absurd hTask hStart
      · exact absurd hTask (hFill loaded)

theorem consistent_saving
    (hConsistent : s.Consistent)
    {nonce : String}
    {checkedAt : Int}
    (hMem : .saving nonce checkedAt ∈ s.tasks) :
    (s.advance (.saving nonce checkedAt)).Consistent := by
  have hStarted :=
    hConsistent.initialized_of_task hMem nofun nofun
  have hSaving : s.Saving nonce := ⟨checkedAt, hMem⟩
  have hReload :
      s.Reloading →
        (s.advance (.saving nonce checkedAt)).Reloading :=
    reloading_resume rfl ⟨_, rfl⟩
  have hOld :
      ∀ other,
        (s.advance (.saving nonce checkedAt)).Saving other →
          s.Saving other := by
    rintro other ⟨at', hOther⟩
    rcases mem_resume hOther with hNew | hOther
    · cases List.mem_singleton.mp hNew
    · exact ⟨at', hOther⟩
  have hStored :
      ∀ other ∈
          (s.advance (.saving nonce checkedAt)).storedNonces,
        other = nonce ∨ other ∈ s.storedNonces := by
    intro other hOther
    change other ∈ (s.saveNonce nonce checkedAt).map Prod.fst
      at hOther
    unfold saveNonce at hOther
    by_cases hHas : nonce ∈ s.storedNonces
    · rw [if_pos hHas] at hOther
      exact .inr hOther
    · rw [if_neg hHas, List.map_append] at hOther
      rcases List.mem_append.mp hOther with hOther | hNew
      · exact .inr hOther
      · exact .inl (List.mem_singleton.mp hNew)
  refine ⟨?_, ?_, ?_, ?_⟩
  · intro _ hQuiet other hOther
    have hBefore : ¬ s.Reloading := fun h => hQuiet (hReload h)
    rcases hStored other hOther with rfl | hOther
    · exact hConsistent.saving_seen hStarted hBefore _ hSaving
    · exact hConsistent.stored_seen hStarted hBefore other
        hOther
  · intro _ hQuiet other hOther
    have hBefore : ¬ s.Reloading := fun h => hQuiet (hReload h)
    exact hConsistent.saving_seen hStarted hBefore other
      (hOld other hOther)
  · intro loaded hLoaded
    rcases mem_resume hLoaded with hNew | hLoaded
    · cases List.mem_singleton.mp hNew
    · exact absurd hSaving
        ((hConsistent.loaded loaded hLoaded).2 nonce)
  · intro hNot
    exact absurd (hStarted.symm.trans hNot) nofun

theorem consistent_clearing
    (hConsistent : s.Consistent)
    (hMem : .clearing ∈ s.tasks)
    (hOpen : s.isOpen = true) :
    (s.advance .clearing).Consistent := by
  have hStarted :=
    hConsistent.initialized_of_task hMem nofun nofun
  have hTasks :
      (s.advance .clearing).tasks =
        s.resume .clearing [.loading] := by
    change s.resume .clearing
      [if s.isOpen then .loading else .adding []] = _
    rw [hOpen]
    rfl
  have hReloading : (s.advance .clearing).Reloading := by
    refine ⟨.loading, ?_, rfl⟩
    rw [hTasks]
    exact List.mem_cons_self
  refine ⟨?_, ?_, ?_, ?_⟩
  · exact fun _ hQuiet => absurd hReloading hQuiet
  · exact fun _ hQuiet => absurd hReloading hQuiet
  · intro loaded hLoaded
    rw [hTasks] at hLoaded
    rcases mem_resume hLoaded with hNew | hLoaded
    · cases List.mem_singleton.mp hNew
    · rcases hConsistent.loaded loaded hLoaded with
        ⟨hAll, hNone⟩
      refine ⟨hAll, ?_⟩
      rintro nonce ⟨checkedAt, hSaving⟩
      rw [hTasks] at hSaving
      rcases mem_resume hSaving with hNew | hSaving
      · cases List.mem_singleton.mp hNew
      · exact hNone nonce ⟨checkedAt, hSaving⟩
  · intro hNot
    exact absurd (hStarted.symm.trans hNot) nofun

theorem consistent_loading
    (hConsistent : s.Consistent)
    (hMem : .loading ∈ s.tasks)
    (hSaved : ∀ nonce, ¬ s.Saving nonce) :
    (s.advance .loading).Consistent := by
  have hStarted :=
    hConsistent.initialized_of_task hMem nofun nofun
  have hReloading : (s.advance .loading).Reloading :=
    ⟨.adding s.storedNonces, List.mem_cons_self, rfl⟩
  have hNone : ∀ nonce, ¬ (s.advance .loading).Saving nonce := by
    rintro nonce ⟨checkedAt, hSaving⟩
    rcases mem_resume hSaving with hNew | hSaving
    · cases List.mem_singleton.mp hNew
    · exact hSaved nonce ⟨checkedAt, hSaving⟩
  refine ⟨?_, ?_, ?_, ?_⟩
  · exact fun _ hQuiet => absurd hReloading hQuiet
  · exact fun _ hQuiet => absurd hReloading hQuiet
  · intro loaded hLoaded
    refine ⟨?_, hNone⟩
    rcases mem_resume hLoaded with hNew | hLoaded
    · cases List.mem_singleton.mp hNew
      exact fun _ hNonce => hNonce
    · exact (hConsistent.loaded loaded hLoaded).1
  · intro hNot
    exact absurd (hStarted.symm.trans hNot) nofun

theorem consistent_adding
    (hConsistent : s.Consistent)
    {loaded : List String}
    (hMem : .adding loaded ∈ s.tasks) :
    (s.advance (.adding loaded)).Consistent := by
  have hStarted :=
    hConsistent.initialized_of_task hMem nofun nofun
  rcases hConsistent.loaded loaded hMem with ⟨hAll, hSaved⟩
  have hNone :
      ∀ nonce, ¬ (s.advance (.adding loaded)).Saving nonce := by
    rintro nonce ⟨checkedAt, hSaving⟩
    rcases mem_resume hSaving with hNew | hSaving
    · cases hNew
    · exact hSaved nonce ⟨checkedAt, hSaving⟩
  refine ⟨?_, ?_, ?_, ?_⟩
  · intro _ _ nonce hNonce
    exact List.mem_append_right _ (hAll nonce hNonce)
  · intro _ _ nonce hSaving
    exact absurd hSaving (hNone nonce)
  · intro other hOther
    refine ⟨?_, hNone⟩
    rcases mem_resume hOther with hNew | hOther
    · cases hNew
    · exact (hConsistent.loaded other hOther).1
  · intro hNot
    exact absurd (hStarted.symm.trans hNot) nofun

theorem consistent_filling
    (hConsistent : s.Consistent)
    {loaded : List String}
    (hMem : .filling loaded ∈ s.tasks) :
    (s.advance (.filling loaded)).Consistent := by
  have hReload :
      s.Reloading →
        (s.advance (.filling loaded)).Reloading :=
    reloading_resume rfl ⟨_, rfl⟩
  have hSaving :
      ∀ nonce, (s.advance (.filling loaded)).Saving nonce →
        s.Saving nonce := by
    rintro nonce ⟨checkedAt, hOld⟩
    rcases mem_resume hOld with hNew | hOld
    · cases hNew
    · exact ⟨checkedAt, hOld⟩
  refine ⟨?_, ?_, ?_, nofun⟩
  · intro _ hQuiet nonce hNonce
    have hBefore : ¬ s.Reloading := fun h => hQuiet (hReload h)
    cases hStarted : s.initialized with
    | true =>
        exact List.mem_append_left _
          (hConsistent.stored_seen hStarted hBefore nonce
            hNonce)
    | false =>
        rcases hConsistent.starting hStarted _ hMem with
          hTask | ⟨_, hTask, hAll⟩
        · cases hTask
        · cases hTask
          exact List.mem_append_right _ (hAll nonce hNonce)
  · intro _ hQuiet nonce hNonce
    have hBefore : ¬ s.Reloading := fun h => hQuiet (hReload h)
    have hOld := hSaving nonce hNonce
    rcases hOld with ⟨checkedAt, hTask⟩
    have hStarted :=
      hConsistent.initialized_of_task hTask nofun nofun
    exact List.mem_append_left _
      (hConsistent.saving_seen hStarted hBefore nonce
        ⟨checkedAt, hTask⟩)
  · intro other hOther
    rcases mem_resume hOther with hNew | hOther
    · cases hNew
    · rcases hConsistent.loaded other hOther with
        ⟨hAll, hNone⟩
      exact ⟨hAll, fun nonce hNonce =>
        hNone nonce (hSaving nonce hNonce)⟩

theorem consistent_advance
    (hConsistent : s.Consistent)
    {task : GuardTask}
    (hMem : task ∈ s.tasks)
    (hKept : s.Kept (.advance task)) :
    (s.advance task).Consistent := by
  cases task with
  | saving nonce checkedAt =>
      exact consistent_saving hConsistent hMem
  | saved nonce checkedAt =>
      refine hConsistent.of_tasks rfl rfl (fun _ h => h) ?_
        (reloading_resume rfl ⟨_, rfl⟩)
      intro x hOld
      rcases mem_resume hOld with hNew | hOld
      · cases hNew
      · exact .inl hOld
  | deleting cutoff =>
      have hStarted :=
        hConsistent.initialized_of_task hMem nofun nofun
      refine hConsistent.of_tasks rfl rfl ?_ ?_
        (reloading_resume rfl ⟨_, rfl⟩)
      · intro nonce hNonce
        rcases List.mem_map.mp hNonce with ⟨row, hRow, rfl⟩
        exact List.mem_map_of_mem (List.mem_filter.mp hRow).1
      · intro x hOld
        rcases mem_resume hOld with hNew | hOld
        · cases List.mem_singleton.mp hNew
          exact .inr ⟨nofun, nofun, fun hNot =>
            absurd (hStarted.symm.trans hNot) nofun⟩
        · exact .inl hOld
  | clearing =>
      exact consistent_clearing hConsistent hMem hKept
  | loading => exact consistent_loading hConsistent hMem hKept
  | adding loaded => exact consistent_adding hConsistent hMem
  | starting =>
      refine hConsistent.of_tasks rfl rfl (fun _ h => h) ?_
        (reloading_resume rfl ⟨_, rfl⟩)
      intro x hOld
      rcases mem_resume hOld with hNew | hOld
      · cases List.mem_singleton.mp hNew
        exact .inr ⟨nofun, nofun, fun _ =>
          .inr ⟨_, rfl, fun _ hNonce => hNonce⟩⟩
      · exact .inl hOld
  | filling loaded => exact consistent_filling hConsistent hMem

theorem consistent_init
    (hConsistent : s.Consistent)
    (hOpen : s.isOpen = true) :
    (s.step .init).Consistent := by
  unfold step
  dsimp only
  cases hStarted : s.initialized with
  | true => exact hConsistent
  | false =>
      rw [if_neg Bool.false_ne_true]
      have hMem :
          ∀ x ∈ (if s.isOpen then GuardTask.starting
              else .filling []) :: s.tasks,
            x = .starting ∨
              ∃ loaded, x = .filling loaded ∧
                ∀ nonce ∈ s.storedNonces, nonce ∈ loaded := by
        intro x hNew
        rw [hOpen, if_pos rfl] at hNew
        rcases List.mem_cons.mp hNew with rfl | hOld
        · exact .inl rfl
        · exact hConsistent.starting hStarted x hOld
      refine ⟨nofun, nofun, ?_, fun _ => hMem⟩
      · intro loaded hLoaded
        rcases hMem _ hLoaded with hTask | ⟨_, hTask, _⟩
        · cases hTask
        · cases hTask

theorem consistent_check
    (hConsistent : s.Consistent)
    {nonce : String}
    (hOpen : s.isOpen = true)
    (hQuiet : ¬ s.Reloading) :
    (s.step (.checkAndRemember nonce)).Consistent := by
  unfold step
  dsimp only
  cases hStarted : s.initialized with
  | false => exact hConsistent
  | true =>
      rw [if_neg (by decide)]
      by_cases hSeen : nonce ∈ s.seenNonces
      · rw [if_pos hSeen]
        exact hConsistent
      · rw [if_neg hSeen, hOpen, if_pos rfl]
        refine ⟨?_, ?_, ?_, nofun⟩
        · intro _ _ other hOther
          exact List.mem_append_left _
            (hConsistent.stored_seen hStarted hQuiet other
              hOther)
        · rintro _ _ other ⟨checkedAt, hSaving⟩
          rcases List.mem_cons.mp hSaving with hNew | hOld
          · cases hNew
            exact List.mem_append_right _ List.mem_cons_self
          · exact List.mem_append_left _
              (hConsistent.saving_seen hStarted hQuiet other
                ⟨checkedAt, hOld⟩)
        · intro loaded hLoaded
          rcases List.mem_cons.mp hLoaded with hNew | hOld
          · cases hNew
          · exact absurd ⟨_, hOld, rfl⟩ hQuiet

theorem consistent_step
    (event : GuardEvent)
    (hConsistent : s.Consistent)
    (hKept : s.Kept event) :
    (s.step event).Consistent := by
  cases event with
  | wait ms =>
      exact hConsistent.of_tasks rfl rfl (fun _ h => h)
        (fun _ h => .inl h) id
  | openDatabase =>
      exact hConsistent.of_tasks rfl rfl (fun _ h => h)
        (fun _ h => .inl h) id
  | init => exact consistent_init hConsistent hKept
  | checkAndRemember nonce =>
      exact consistent_check hConsistent hKept.1 hKept.2.1
  | evict =>
      unfold step
      dsimp only
      cases hStarted : s.initialized with
      | false => exact hConsistent
      | true =>
          rw [if_neg (by decide)]
          refine hConsistent.of_tasks hStarted.symm rfl
            (fun _ h => h) ?_ ?_
          · intro x hMem
            rcases List.mem_cons.mp hMem with rfl | hOld
            · refine .inr ⟨?_, ?_, fun hNot =>
                absurd (hStarted.symm.trans hNot) nofun⟩
              · cases s.isOpen <;> nofun
              · cases s.isOpen <;> nofun
            · exact .inl hOld
          · rintro ⟨x, hMem, hReload⟩
            exact ⟨x, List.mem_cons_of_mem _ hMem, hReload⟩
  | advance task =>
      unfold step
      dsimp only
      by_cases hMem : task ∈ s.tasks
      · rw [if_pos hMem]
        exact consistent_advance hConsistent hMem hKept
      · rw [if_neg hMem]
        exact hConsistent
  | restart =>
      refine ⟨nofun, nofun, ?_, ?_⟩
      · intro loaded hNone
        cases hNone
      · intro _ task hNone
        cases hNone

------------------------------------------------------------
-- Calls That Return True
------------------------------------------------------------

theorem Apart.symm
    {first second : String × Int}
    (hApart : Apart first second) : Apart second first := by
  intro hSame
  rw [abs_sub_comm]
  exact hApart hSame.symm

/- A task that goes on is the call that it was. -/
theorem accepted_resume
    {task : GuardTask}
    (hMem : task ∈ s.tasks)
    {next : List GuardTask}
    (hNext :
      next.filterMap GuardTask.accepted? =
        [task].filterMap GuardTask.accepted?) :
    (s.returned ++
        (s.resume task next).filterMap
          GuardTask.accepted?).Perm s.accepted := by
  have hTasks :=
    (List.perm_cons_erase hMem).filterMap GuardTask.accepted?
  unfold resume accepted
  rw [List.filterMap_append, hNext, ← List.filterMap_append]
  exact (hTasks.symm).append_left s.returned

theorem accepted_advance
    {task : GuardTask}
    (hMem : task ∈ s.tasks) :
    (s.advance task).accepted.Perm s.accepted := by
  cases task with
  | saving nonce checkedAt => exact accepted_resume hMem rfl
  | saved nonce checkedAt =>
      have hTasks :=
        (List.perm_cons_erase hMem).filterMap
          GuardTask.accepted?
      change ((s.returned ++ [(nonce, checkedAt)]) ++
        (s.tasks.erase _).filterMap _).Perm _
      rw [List.append_assoc]
      exact hTasks.symm.append_left s.returned
  | deleting cutoff => exact accepted_resume hMem rfl
  | clearing =>
      refine accepted_resume hMem ?_
      cases s.isOpen <;> rfl
  | loading => exact accepted_resume hMem rfl
  | adding loaded => exact accepted_resume hMem rfl
  | starting => exact accepted_resume hMem rfl
  | filling loaded => exact accepted_resume hMem rfl

/- What is checked and not remembered is new in its window. -/
theorem apart_check
    (hConsistent : s.Consistent)
    (hApart : s.accepted.Pairwise Apart)
    {nonce : String}
    (hKept : s.Kept (.checkAndRemember nonce)) :
    (s.step (.checkAndRemember nonce)).accepted.Pairwise
      Apart := by
  rcases hKept with ⟨hOpen, hQuiet, hRemembered⟩
  unfold step
  dsimp only
  cases hStarted : s.initialized with
  | false => exact hApart
  | true =>
      rw [if_neg (by decide)]
      by_cases hSeen : nonce ∈ s.seenNonces
      · rw [if_pos hSeen]
        exact hApart
      · rw [if_neg hSeen, hOpen, if_pos rfl]
        have hPerm :
            (s.returned ++
                ((nonce, s.now) ::
                  s.tasks.filterMap
                    GuardTask.accepted?)).Perm
              ((nonce, s.now) :: s.accepted) :=
          List.perm_middle
        refine (hPerm.pairwise_iff Apart.symm).mpr
          (List.pairwise_cons.mpr ⟨?_, hApart⟩)
        intro call hCall hSame
        refine not_le.mp ?_
        intro hNear
        rcases hRemembered call hCall hSame.symm hNear with
          hStored | hSaving
        · exact hSeen
            (hConsistent.stored_seen hStarted hQuiet nonce
              hStored)
        · exact hSeen
            (hConsistent.saving_seen hStarted hQuiet nonce
              hSaving)

theorem apart_step
    (event : GuardEvent)
    (hConsistent : s.Consistent)
    (hApart : s.accepted.Pairwise Apart)
    (hKept : s.Kept event) :
    (s.step event).accepted.Pairwise Apart := by
  cases event with
  | wait ms => exact hApart
  | openDatabase => exact hApart
  | init =>
      unfold step
      dsimp only
      split
      · exact hApart
      · cases s.isOpen <;> exact hApart
  | checkAndRemember nonce =>
      exact apart_check hConsistent hApart hKept
  | evict =>
      unfold step
      dsimp only
      split
      · exact hApart
      · cases s.isOpen <;> exact hApart
  | advance task =>
      unfold step
      dsimp only
      by_cases hMem : task ∈ s.tasks
      · rw [if_pos hMem]
        exact ((accepted_advance hMem).pairwise_iff
          Apart.symm).mpr hApart
      · rw [if_neg hMem]
        exact hApart
  | restart =>
      refine hApart.sublist ?_
      change (s.returned ++ []).Sublist (s.returned ++ _)
      rw [List.append_nil]
      exact List.sublist_append_left _ _

/- Calls that are apart are not in one window. -/
theorem atMostOnce_of_apart
    (hApart : s.accepted.Pairwise Apart) : s.AtMostOnce := by
  intro nonce timestamp
  have hFiltered :=
    (hApart.sublist (List.sublist_append_left _ _)).filter
      (fun call =>
        decide (call.1 = nonce) &&
          isWithinTimeWindow call.2 timestamp 30000)
  have hWindow :
      ∀ call ∈ s.returned.filter (fun call =>
          decide (call.1 = nonce) &&
            isWithinTimeWindow call.2 timestamp 30000),
        call.1 = nonce ∧ |call.2 - timestamp| ≤ 30000 := by
    intro call hMem
    have hTest := (List.mem_filter.mp hMem).2
    unfold isWithinTimeWindow at hTest
    rw [Bool.and_eq_true, decide_eq_true_eq,
      decide_eq_true_eq] at hTest
    exact hTest
  revert hFiltered hWindow
  generalize s.returned.filter _ = calls
  intro hFiltered hWindow
  cases calls with
  | nil => exact Nat.zero_le 1
  | cons first rest =>
      cases rest with
      | nil => exact Nat.le_refl 1
      | cons second rest =>
          have hFirst := hWindow first List.mem_cons_self
          have hSecond :=
            hWindow second
              (List.mem_cons_of_mem _ List.mem_cons_self)
          have hFar :=
            (List.pairwise_cons.mp hFiltered).1 second
              List.mem_cons_self
              (hFirst.1.trans hSecond.1.symm)
          have hLow := abs_le.mp hFirst.2
          have hHigh := abs_le.mp hSecond.2
          rcases lt_abs.mp hFar with hLate | hEarly
          · omega
          · omega

------------------------------------------------------------
-- Runs
------------------------------------------------------------

theorem consistent_start
    (now : Int)
    (stored : List (String × Int)) :
    (start now stored).Consistent :=
  ⟨nofun, nofun,
    fun _ hNone => absurd hNone List.not_mem_nil,
    fun _ _ hNone => absurd hNone List.not_mem_nil⟩

/-
  In a run that lets no nonce be forgotten in its window, at
  most one call for it in the window returns true.
-/
theorem at_most_once_throughout
    (now : Int)
    (stored : List (String × Int))
    {events : List GuardEvent}
    (hKept : Along step Kept (start now stored) events) :
    Throughout step AtMostOnce (start now stored) events := by
  have hStep :
      ∀ (s : ReplayGuard) (event : GuardEvent),
        s.Consistent ∧ s.accepted.Pairwise Apart →
          s.Kept event →
            (s.step event).Consistent ∧
              (s.step event).accepted.Pairwise Apart := by
    rintro s event ⟨hConsistent, hApart⟩ hEvent
    exact ⟨consistent_step event hConsistent hEvent,
      apart_step event hConsistent hApart hEvent⟩
  intro past future hEvents
  rw [hEvents, along_append] at hKept
  exact atMostOnce_of_apart
    (run_invariant hStep
      ⟨consistent_start now stored, List.Pairwise.nil⟩
      hKept.1).2

/- A call is saved, swept around and made again. -/
def sweptRun : List GuardEvent :=
  [.openDatabase, .init, .advance .starting,
    .advance (.filling []), .checkAndRemember "n",
    .advance (.saving "n" 0), .advance (.saved "n" 0),
    .evict, .advance (.deleting (-30000)),
    .advance .clearing, .advance .loading,
    .advance (.adding ["n"]), .checkAndRemember "n"]

theorem swept_run_returns_true_once :
    (run step (start 0 []) sweptRun).returned = [("n", 0)] ∧
    Throughout step AtMostOnce (start 0 []) sweptRun := by
  refine ⟨by decide, at_most_once_throughout 0 [] ?_⟩
  have hSaved :
      ∀ nonce,
        ¬ (run step (start 0 [])
          (sweptRun.take 10)).Saving nonce := by
    rintro nonce ⟨checkedAt, hMem⟩
    cases List.mem_singleton.mp hMem
  have hQuiet :
      ¬ (run step (start 0 [])
        (sweptRun.take 12)).Reloading := by
    rintro ⟨task, hNone, _⟩
    cases hNone
  exact ⟨trivial, rfl, trivial, trivial,
    ⟨rfl, by decide, nofun⟩, trivial, trivial, trivial,
    trivial, rfl, hSaved, trivial,
    ⟨rfl, hQuiet, fun _ _ _ _ => .inl (by decide)⟩, trivial⟩

/- Half a minute after its check a nonce is swept. -/
def forgottenRun : List GuardEvent :=
  [.openDatabase, .init, .advance .starting,
    .advance (.filling []), .checkAndRemember "n",
    .advance (.saving "n" 0), .advance (.saved "n" 0),
    .wait 30001, .evict, .advance (.deleting 1),
    .advance .clearing, .advance .loading,
    .advance (.adding []), .checkAndRemember "n",
    .advance (.saving "n" 30001), .advance (.saved "n" 30001)]

/- The memory is empty while it is loaded again. -/
def reloadedRun : List GuardEvent :=
  [.openDatabase, .init, .advance .starting,
    .advance (.filling []), .checkAndRemember "n",
    .advance (.saving "n" 0), .advance (.saved "n" 0),
    .evict, .advance (.deleting (-30000)),
    .advance .clearing, .checkAndRemember "n",
    .advance (.saving "n" 0), .advance (.saved "n" 0)]

/- Both calls are in the window of one timestamp. -/
theorem nonce_returns_true_twice :
    (run step (start 0 []) forgottenRun).returned =
      [("n", 0), ("n", 30001)] ∧
    isWithinTimeWindow 0 30000 30000 = true ∧
    isWithinTimeWindow 30001 30000 30000 = true ∧
    ¬ (run step (start 0 []) forgottenRun).AtMostOnce ∧
    (run step (start 0 []) reloadedRun).returned =
      [("n", 0), ("n", 0)] ∧
    ¬ (run step (start 0 []) reloadedRun).AtMostOnce := by
  refine ⟨by decide, by decide, by decide, ?_, by decide, ?_⟩
  · intro hOnce
    have hLength := hOnce "n" 30000
    revert hLength
    decide
  · intro hOnce
    have hLength := hOnce "n" 0
    revert hLength
    decide

end ReplayGuard

end ControlPlane
