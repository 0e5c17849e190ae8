import ControlPlane.Shared.AsyncMutex

/-
  The mutex with a queue, which hands over in a timer.

  A release with somebody in the queue sets a timer for the
  first of them and leaves the mutex locked, so a call that
  comes in between has to wait as well. Timers and jobs run
  in any order.

  Main declarations:
    * `Mutex.acquire`, `Mutex.release` and `Mutex.perform`
    * `Mutex.step`
    * `Mutex.Accounted` and `accounted_step`
    * `Mutex.Exclusive` and `exclusive_of_accounted`
    * `mutexes_are_exclusive`
-/

------------------------------------------------------------
-- The Mutex
------------------------------------------------------------

namespace ControlPlane

namespace Shared

namespace Mutex

/-
  The promise that a call makes, and the promise of the
  asynchronous function that returns it.
-/
inductive Promise where
| granted (call : Nat)
| acquired (call : Nat)
deriving DecidableEq, Repr

/-
  What is left to do of a call: the two steps by which the
  one promise follows the other, and what the caller does
  with the lock.
-/
inductive Job where
| adopt (call : Nat)
| passOn (call : Nat)
| start (call : Nat)
deriving DecidableEq, Repr

end Mutex

/-
  The mutex, the timers that are set, and the calls that have
  been made, that have started and that have released. The
  entries of the queue and of the timers are the calls whose
  `lockAcquired` they hold.
-/
structure Mutex where
  queue : List Nat
  locked : Bool
  timers : List Nat
  loop : EventLoop Mutex.Promise Mutex.Job
  calls : Nat
  starts : List Nat
  ends : List Nat

namespace Mutex

def fresh : Mutex where
  queue := []
  locked := false
  timers := []
  loop :=
    { state := fun _ => none
      reactions := []
      jobs := [] }
  calls := 0
  starts := []
  ends := []

def withLoop
    (m : Mutex)
    (loop : EventLoop Promise Job) : Mutex :=
  { m with loop := loop }

def lockAcquired
    (m : Mutex)
    (call : Nat) : Mutex :=
  { m with
      locked := true
      loop := m.loop.settle (.granted call) .fulfilled }

/- The function that is given to the new promise. -/
def request
    (m : Mutex)
    (call : Nat) : Mutex :=
  if m.locked then { m with queue := m.queue ++ [call] }
  else m.lockAcquired call

/- The call, and the caller who awaits it. -/
def acquire (m : Mutex) : Mutex :=
  let requested := m.request m.calls
  { requested with
      calls := m.calls + 1
      loop :=
        (requested.loop.enqueue (.adopt m.calls)).react
          (.acquired m.calls) (.start m.calls) }

def release (m : Mutex) : Mutex :=
  match m.queue with
  | next :: rest =>
      { m with queue := rest, timers := m.timers ++ [next] }
  | [] => { m with locked := false }

/- A job runs with the outcome of what it has waited for. -/
def perform (m : Mutex) : Job → Settlement → Mutex
| .adopt call, _ =>
    m.withLoop (m.loop.react (.granted call) (.passOn call))
| .passOn call, outcome =>
    m.withLoop (m.loop.settle (.acquired call) outcome)
| .start call, .fulfilled =>
    { m with starts := m.starts ++ [call] }
| .start _, .rejected => m

/- The call holds the lock: it has not released it yet. -/
def Running (m : Mutex) (call : Nat) : Prop :=
  call ∈ m.starts ∧ call ∉ m.ends

instance (m : Mutex) (call : Nat) : Decidable (m.Running call) :=
  inferInstanceAs (Decidable (_ ∧ _))

/- What runs without anybody calling. -/
inductive Turn where
| job (i : Nat)
| timer (i : Nat)
deriving DecidableEq, Repr

inductive Event where
| acquire
| release (call : Nat)
| turn (turn : Turn)
deriving DecidableEq, Repr

/- One of the jobs is taken and runs. -/
def runJob (m : Mutex) (i : Nat) : Mutex :=
  match m.loop.jobs[i]? with
  | none => m
  | some (job, outcome) =>
      (m.withLoop (m.loop.without i)).perform job outcome

/- One of the timers is over. -/
def runTimer (m : Mutex) (i : Nat) : Mutex :=
  match m.timers[i]? with
  | none => m
  | some call =>
      ({ m with timers := m.timers.eraseIdx i }).lockAcquired
        call

def runTurn (m : Mutex) : Turn → Mutex
| .job i => m.runJob i
| .timer i => m.runTimer i

/- Only who holds the lock releases it, and only once. -/
def step (m : Mutex) : Event → Mutex
| .acquire => m.acquire
| .release call =>
    if m.Running call then
      { m.release with ends := m.ends ++ [call] }
    else m
| .turn turn => m.runTurn turn

------------------------------------------------------------
-- How Far The Calls Have Come
------------------------------------------------------------

/-
  The lock with two more counts: of the calls that the mutex
  has been granted to, and of those whose caller has been
  told. It is granted again when it has been released.
-/
structure Progress extends FifoLock where
  granted : Nat
  told : Nat
  started_le_told : started ≤ told
  told_le : told ≤ granted
  granted_le : granted ≤ ended + 1
  granted_le_called : granted ≤ called

inductive Duty where
| tell
| start
deriving DecidableEq, Repr

/- The promise that a job has waited for, if there is one. -/
def home : Job → Option Promise
| .adopt _ => none
| .passOn call => some (.granted call)
| .start call => some (.acquired call)

def duty : Job → Duty × Nat
| .adopt call => (.tell, call)
| .passOn call => (.tell, call)
| .start call => (.start, call)

namespace Progress

def next (p : Progress) : Duty → Nat
| .tell => p.told
| .start => p.started

/- The call has the duty and has not done it yet. -/
def Open (p : Progress) (t : Duty × Nat) : Prop :=
  p.next t.1 ≤ t.2 ∧ t.2 < p.called

/- The calls that a timer is set for. -/
def handed (p : Progress) : List Nat :=
  if p.granted = p.ended ∧ p.granted < p.called then
    [p.granted]
  else []

end Progress

/-
  The mutex is as far as its calls. It is locked as long as a
  call has not released it, and those that it has not been
  granted to are in a timer or in the queue, in order.
-/
structure Accounted
    (m : Mutex)
    (p : Progress) : Prop where
  serves : p.toFifoLock.Serves m.calls m.starts m.ends
  locked : m.locked = decide (p.ended < p.called)
  timers : m.timers = p.handed
  waiting :
    m.timers ++ m.queue =
      List.range' p.granted (p.called - p.granted)
  placed : m.loop.Placed home
  owes : m.loop.Owes duty p.Open
  granted : m.loop.FulfilledTo .granted p.granted
  acquired : m.loop.FulfilledTo .acquired p.told

theorem accounted_fresh :
    ∃ p : Progress,
      p.toFifoLock = .fresh ∧ Accounted fresh p :=
  let p : Progress :=
    { called := 0
      started := 0
      ended := 0
      granted := 0
      told := 0
      ended_le := Nat.le_refl 0
      started_le := Nat.zero_le 1
      started_le_called := Nat.le_refl 0
      started_le_told := Nat.le_refl 0
      told_le := Nat.le_refl 0
      granted_le := Nat.zero_le 1
      granted_le_called := Nat.le_refl 0 }
  have hAccounted : Accounted fresh p :=
    { serves := ⟨rfl, rfl, rfl⟩
      locked := rfl
      timers := rfl
      waiting := rfl
      placed :=
        { waiting := fun _ hEntry => absurd hEntry List.not_mem_nil
          ready := fun _ hJob => absurd hJob List.not_mem_nil }
      owes := by
        intro t
        refine ⟨?_, fun _ => rfl⟩
        rintro ⟨-, hLt⟩
        exact absurd hLt (Nat.not_lt_zero t.2)
      granted := fun _ => rfl
      acquired := fun _ => rfl }
  ⟨p, rfl, hAccounted⟩

namespace Progress

def call (p : Progress) : Progress :=
  { p with
      toFifoLock := p.toFifoLock.call
      granted_le_called :=
        Nat.le_succ_of_le p.granted_le_called }

def grant
    (p : Progress)
    (hFree : p.granted = p.ended)
    (hWaits : p.granted < p.called) : Progress :=
  { p with
      granted := p.granted + 1
      told_le := Nat.le_succ_of_le p.told_le
      granted_le := Nat.succ_le_succ (Nat.le_of_eq hFree)
      granted_le_called := hWaits }

def tell
    (p : Progress)
    (hGranted : p.told < p.granted) : Progress :=
  { p with
      told := p.told + 1
      started_le_told := Nat.le_succ_of_le p.started_le_told
      told_le := hGranted }

theorem free_of_told
    (p : Progress)
    (hTold : p.started < p.told) : p.started = p.ended := by
  have hEnded := p.ended_le
  have hGranted := p.told_le
  have hLast := p.granted_le
  omega

theorem lt_called_of_told
    (p : Progress)
    (hTold : p.started < p.told) : p.started < p.called :=
  Nat.lt_of_lt_of_le hTold
    (Nat.le_trans p.told_le p.granted_le_called)

def start
    (p : Progress)
    (hTold : p.started < p.told) : Progress :=
  { p with
      toFifoLock :=
        p.toFifoLock.start (p.free_of_told hTold)
          (p.lt_called_of_told hTold)
      started_le_told := hTold }

def finish
    (p : Progress)
    (hServing : p.ended < p.started) : Progress :=
  { p with
      toFifoLock := p.toFifoLock.finish hServing
      granted_le := Nat.le_succ_of_le p.granted_le }

/- No duty of a call that has not been made is open. -/
theorem not_open_called
    (p : Progress)
    (d : Duty) : ¬p.Open (d, p.called) :=
  fun hOpen => Nat.lt_irrefl _ hOpen.2

theorem open_call
    (p : Progress)
    (t : Duty × Nat) :
    p.call.Open t ↔
      (p.Open t ∨ t = (.tell, p.called)) ∨
        t = (.start, p.called) := by
  have hStarted := p.started_le_called
  have hTold := p.told_le
  have hGranted := p.granted_le_called
  rcases t with ⟨d, call⟩
  cases d with
  | _ =>
      simp [Open, next, Progress.call, FifoLock.call]
      omega

end Progress

------------------------------------------------------------
-- Steps
------------------------------------------------------------

section Calls

variable {m : Mutex} {p : Progress}

theorem owes_acquire
    (hCalls : m.calls = p.called)
    {loop : EventLoop Promise Job}
    (hOwes : loop.Owes duty p.Open) :
    ((loop.enqueue (.adopt m.calls)).react
        (.acquired m.calls) (.start m.calls)).Owes duty
      p.call.Open := by
  rw [hCalls]
  have hTell := hOwes.enqueue (r := .adopt p.called)
    (p.not_open_called .tell)
  have hStart := hTell.react (.acquired p.called)
    (r := .start p.called)
    (by simp [duty, p.not_open_called .start])
  exact hStart.congr p.open_call

/- A call waits in the queue while the lock is taken. -/
theorem accounted_acquire_taken
    (hAccounted : Accounted m p)
    (hLocked : p.ended < p.called) :
    Accounted m.acquire p.call := by
  have hCalls := hAccounted.serves.calls
  have hGranted := p.granted_le_called
  have hTaken : m.locked = true := by
    rw [hAccounted.locked]
    exact decide_eq_true hLocked
  have hState :
      ((m.loop.enqueue (.adopt m.calls)).react
          (.acquired m.calls) (.start m.calls)).state =
        m.loop.state :=
    EventLoop.state_react _ _ _
  unfold acquire request
  rw [if_pos hTaken]
  refine
    { serves := hAccounted.serves.call
      locked := ?_
      timers := ?_
      waiting := ?_
      placed := (hAccounted.placed.enqueue rfl).react rfl
      owes := owes_acquire hCalls hAccounted.owes
      granted := hAccounted.granted.of_state_eq hState
      acquired := hAccounted.acquired.of_state_eq hState }
  · refine hTaken.trans (decide_eq_true ?_).symm
    exact Nat.lt_succ_of_lt hLocked
  · have hEnded := p.ended_le
    have hStarted := p.started_le_told
    have hTold := p.told_le
    have hSame :
        (p.granted = p.ended ∧ p.granted < p.called + 1) ↔
          (p.granted = p.ended ∧ p.granted < p.called) := by
      omega
    refine hAccounted.timers.trans ?_
    unfold Progress.handed
    simp only [Progress.call, FifoLock.call, hSame]
  · have hLength :
        p.called + 1 - p.granted = p.called - p.granted + 1 := by
      omega
    change m.timers ++ (m.queue ++ [m.calls]) =
      List.range' p.granted (p.called + 1 - p.granted)
    rw [← List.append_assoc, hAccounted.waiting, hCalls,
      hLength, List.range'_concat]
    congr 2
    omega

/- A call is granted the lock at once when nobody has it. -/
theorem accounted_acquire_free
    (hAccounted : Accounted m p)
    (hSame : p.granted = p.ended)
    (hAll : p.granted = p.called) :
    Accounted m.acquire
      (p.call.grant hSame
        (Nat.lt_succ_of_le p.granted_le_called)) := by
  have hCalls := hAccounted.serves.calls
  have hFree : m.locked = false := by
    rw [hAccounted.locked]
    exact decide_eq_false (by omega)
  have hState :=
    EventLoop.state_react
      ((m.lockAcquired m.calls).loop.enqueue
        (.adopt m.calls)) (.acquired m.calls)
      (.start m.calls)
  unfold acquire request
  rw [if_neg (by rw [hFree]; exact Bool.false_ne_true)]
  refine
    { serves := hAccounted.serves.call
      locked := ?_
      timers := ?_
      waiting := ?_
      placed :=
        ((hAccounted.placed.settle _ _).enqueue rfl).react rfl
      owes := owes_acquire hCalls (hAccounted.owes.settle _ _)
      granted := ?_
      acquired := ?_ }
  · refine (decide_eq_true ?_).symm
    change p.ended < p.called + 1
    omega
  · refine hAccounted.timers.trans ?_
    unfold Progress.handed
    rw [if_neg (by omega), if_neg]
    rintro ⟨hAgain, -⟩
    change p.granted + 1 = p.ended at hAgain
    omega
  · refine hAccounted.waiting.trans ?_
    change List.range' p.granted (p.called - p.granted) =
      List.range' (p.granted + 1)
        (p.called + 1 - (p.granted + 1))
    rw [hAll, Nat.sub_self, Nat.sub_self]
    rfl
  · have hNext := hAccounted.granted.settle_next
      (fun _ _ => Promise.granted.inj)
    refine EventLoop.FulfilledTo.of_state_eq hNext ?_
    refine hState.trans ?_
    change
      (m.loop.settle (.granted m.calls) .fulfilled).state = _
    rw [hCalls, hAll]
  · exact (hAccounted.acquired.settle_other _
      (fun _ => by simp)).of_state_eq hState

/- A call that has been made, once it is in the queue or not. -/
theorem accounted_acquire
    (hAccounted : Accounted m p) :
    ∃ q : Progress,
      FifoLock.Steps p.toFifoLock q.toFifoLock ∧
        Accounted m.acquire q := by
  have hEnded := p.ended_le
  have hStarted := p.started_le_told
  have hTold := p.told_le
  have hGranted := p.granted_le_called
  by_cases hLocked : p.ended < p.called
  · exact ⟨p.call, .single (.call _),
      accounted_acquire_taken hAccounted hLocked⟩
  · have hSame : p.granted = p.ended := by omega
    have hAll : p.granted = p.called := by omega
    exact ⟨p.call.grant hSame (Nat.lt_succ_of_le hGranted),
      .single (.call _),
      accounted_acquire_free hAccounted hSame hAll⟩

theorem release_nil
    (hQueue : m.queue = []) :
    m.release = { m with locked := false } := by
  unfold release
  rw [hQueue]

theorem release_cons
    {next : Nat}
    {rest : List Nat}
    (hQueue : m.queue = next :: rest) :
    m.release =
      { m with
          queue := rest
          timers := m.timers ++ [next] } := by
  unfold release
  rw [hQueue]

/- The task that runs is the last one that has the lock. -/
theorem serving_of_running
    (hAccounted : Accounted m p)
    {call : Nat}
    (hRunning : m.Running call) :
    call = p.ended ∧ p.ended < p.started ∧
      p.granted = p.ended + 1 ∧ m.timers = [] := by
  have hServes := hAccounted.serves
  have hHigh := (hServes.mem_starts_iff call).mp hRunning.1
  have hLow : p.ended ≤ call :=
    Nat.le_of_not_lt
      (fun hLt =>
        hRunning.2 ((hServes.mem_ends_iff call).mpr hLt))
  have hStarted := p.started_le
  have hStartedTold := p.started_le_told
  have hTold := p.told_le
  have hGranted := p.granted_le
  refine ⟨by omega, by omega, by omega, ?_⟩
  rw [hAccounted.timers]
  unfold Progress.handed
  rw [if_neg (by omega)]

theorem accounted_release_nil
    (hAccounted : Accounted m p)
    (hServing : p.ended < p.started)
    (hLast : p.granted = p.ended + 1)
    (hTimers : m.timers = [])
    (hNext : m.queue = []) :
    Accounted
      { m.release with ends := m.ends ++ [p.ended] }
      (p.finish hServing) := by
  have hQueue := hAccounted.waiting
  rw [hTimers, List.nil_append, hNext] at hQueue
  have hCalled := p.granted_le_called
  have hNone : p.called = p.granted := by
    have hLength := congrArg List.length hQueue
    rw [List.length_range'] at hLength
    change 0 = p.called - p.granted at hLength
    omega
  rw [release_nil hNext]
  refine
    { serves := hAccounted.serves.finish hServing
      locked := ?_
      timers := ?_
      waiting := hAccounted.waiting
      placed := hAccounted.placed
      owes := hAccounted.owes
      granted := hAccounted.granted
      acquired := hAccounted.acquired }
  · refine (decide_eq_false ?_).symm
    change ¬p.ended + 1 < p.called
    omega
  · refine hTimers.trans ?_
    unfold Progress.handed
    rw [if_neg]
    rintro ⟨-, hMore⟩
    change p.granted < p.called at hMore
    omega

/- The next of the queue is handed the lock in a timer. -/
theorem accounted_release_cons
    (hAccounted : Accounted m p)
    (hServing : p.ended < p.started)
    (hLast : p.granted = p.ended + 1)
    (hTimers : m.timers = [])
    {next : Nat}
    {rest : List Nat}
    (hNext : m.queue = next :: rest) :
    Accounted
      { m.release with ends := m.ends ++ [p.ended] }
      (p.finish hServing) := by
  have hQueue := hAccounted.waiting
  rw [hTimers, List.nil_append, hNext] at hQueue
  have hMore : p.granted < p.called := by
    have hLength := congrArg List.length hQueue
    rw [List.length_range'] at hLength
    change rest.length + 1 = p.called - p.granted at hLength
    omega
  have hSplit :
      p.called - p.granted =
        (p.called - (p.granted + 1)) + 1 := by
    omega
  rw [hSplit, List.range'_succ] at hQueue
  rcases List.cons.inj hQueue with ⟨hFirst, hRest⟩
  rw [release_cons hNext]
  refine
    { serves := hAccounted.serves.finish hServing
      locked := ?_
      timers := ?_
      waiting := ?_
      placed := hAccounted.placed
      owes := hAccounted.owes
      granted := hAccounted.granted
      acquired := hAccounted.acquired }
  · refine hAccounted.locked.trans ?_
    rw [decide_eq_true (by omega), decide_eq_true]
    change p.ended + 1 < p.called
    omega
  · change m.timers ++ [next] = _
    rw [hTimers, hFirst]
    unfold Progress.handed
    rw [if_pos]
    · rfl
    · exact ⟨hLast, hMore⟩
  · change m.timers ++ [next] ++ rest =
      List.range' p.granted (p.called - p.granted)
    rw [hTimers, hSplit, List.range'_succ, hFirst, hRest]
    rfl

/- Who holds the lock releases it, to the first of the queue. -/
theorem accounted_release
    (hAccounted : Accounted m p)
    {call : Nat}
    (hRunning : m.Running call) :
    ∃ q : Progress,
      FifoLock.Steps p.toFifoLock q.toFifoLock ∧
        Accounted { m.release with ends := m.ends ++ [call] }
          q := by
  rcases serving_of_running hAccounted hRunning with
    ⟨rfl, hServing, hLast, hTimers⟩
  refine ⟨p.finish hServing, .single (.finish _ hServing), ?_⟩
  cases hNext : m.queue with
  | nil =>
      exact accounted_release_nil hAccounted hServing hLast
        hTimers hNext
  | cons next rest =>
      exact accounted_release_cons hAccounted hServing hLast
        hTimers hNext

/- The first of the queue is granted the lock in its timer. -/
theorem accounted_timer
    (hAccounted : Accounted m p)
    (i : Nat) :
    ∃ q : Progress,
      q.toFifoLock = p.toFifoLock ∧
        Accounted (m.runTimer i) q := by
  unfold runTimer
  split
  · exact ⟨p, rfl, hAccounted⟩
  · rename_i call hTimer
    have hTimers := hAccounted.timers
    unfold Progress.handed at hTimers
    split at hTimers
    · rename_i hHanded
      have hCall : call = p.granted ∧ i = 0 := by
        rw [hTimers] at hTimer
        cases i with
        | zero => exact ⟨(Option.some.inj hTimer).symm, rfl⟩
        | succ i => cases hTimer
      rcases hCall with ⟨rfl, rfl⟩
      have hWaiting := hAccounted.waiting
      have hSplit :
          p.called - p.granted =
            (p.called - (p.granted + 1)) + 1 := by
        omega
      rw [hTimers, hSplit, List.range'_succ] at hWaiting
      refine ⟨p.grant hHanded.1 hHanded.2, rfl, ?_⟩
      refine
        { serves := hAccounted.serves
          locked := ?_
          timers := ?_
          waiting := ?_
          placed := hAccounted.placed.settle _ _
          owes := hAccounted.owes.settle _ _
          granted :=
            hAccounted.granted.settle_next
              (fun _ _ => Promise.granted.inj)
          acquired :=
            hAccounted.acquired.settle_other _
              (fun _ => by simp) }
      · refine (decide_eq_true ?_).symm
        change p.ended < p.called
        omega
      · change m.timers.eraseIdx 0 = _
        unfold Progress.handed
        rw [hTimers, if_neg]
        · rfl
        · rintro ⟨hAgain, -⟩
          change p.granted + 1 = p.ended at hAgain
          omega
      · change m.timers.eraseIdx 0 ++ m.queue = _
        rw [hTimers]
        exact (List.cons.inj hWaiting).2
    · rw [hTimers] at hTimer
      cases hTimer

theorem accounted_job
    (hAccounted : Accounted m p)
    (i : Nat) :
    ∃ q : Progress,
      FifoLock.Steps p.toFifoLock q.toFifoLock ∧
        Accounted (m.runJob i) q := by
  have hEnded := p.ended_le
  have hStarted := p.started_le_told
  have hTold := p.told_le
  have hGranted := p.granted_le
  unfold runJob
  split
  · exact ⟨p, .refl, hAccounted⟩
  · rename_i job outcome hJob
    have hWithout := hAccounted.placed.without i
    cases job with
    | adopt call =>
        have hState :=
          EventLoop.state_react (m.loop.without i)
            (.granted call) (.passOn call)
        exact ⟨p, .refl,
          { hAccounted with
            placed := hWithout.react rfl
            owes :=
              hAccounted.owes.handOver (r := .passOn call) hJob
                rfl (fun w => EventLoop.load_react w _ _ _)
            granted := hAccounted.granted.of_state_eq hState
            acquired :=
              hAccounted.acquired.of_state_eq hState }⟩
    | passOn call =>
        have hReady := hAccounted.granted.of_settled
          (hAccounted.placed.outcome hJob rfl)
        have hOpen : p.told ≤ call ∧ call < p.called :=
          hAccounted.owes.of_job hJob
        have hCall : call = p.told := by omega
        subst hCall
        rw [hReady.2]
        refine ⟨p.tell hReady.1, .refl, ?_⟩
        refine
          { hAccounted with
            placed := hWithout.settle _ _
            owes := ?_
            granted :=
              (hAccounted.granted.without i).settle_other _
                (fun _ => by simp)
            acquired :=
              (hAccounted.acquired.without i).settle_next
                (fun _ _ => Promise.acquired.inj) }
        refine ((hAccounted.owes.without hJob).settle _ _).congr
          ?_
        rintro ⟨d, other⟩
        cases d with
        | _ =>
            simp [Progress.Open, Progress.next, Progress.tell,
              duty]
            try omega
    | start call =>
        have hReady := hAccounted.acquired.of_settled
          (hAccounted.placed.outcome hJob rfl)
        have hOpen : p.started ≤ call ∧ call < p.called :=
          hAccounted.owes.of_job hJob
        have hCall : call = p.started := by omega
        subst hCall
        rw [hReady.2]
        refine ⟨p.start hReady.1,
          .single (.start _ (p.free_of_told hReady.1)
            (p.lt_called_of_told hReady.1)), ?_⟩
        refine
          { hAccounted with
            serves :=
              hAccounted.serves.start
                (p.free_of_told hReady.1)
                (p.lt_called_of_told hReady.1)
            placed := hWithout
            owes := ?_ }
        · refine (hAccounted.owes.without hJob).congr ?_
          rintro ⟨d, other⟩
          cases d with
          | _ =>
              simp [Progress.Open, Progress.next,
                Progress.start, FifoLock.start, duty]
              try omega

theorem accounted_turn
    (hAccounted : Accounted m p)
    (turn : Turn) :
    ∃ q : Progress,
      FifoLock.Steps p.toFifoLock q.toFifoLock ∧
        Accounted (m.runTurn turn) q := by
  cases turn with
  | job i => exact accounted_job hAccounted i
  | timer i =>
      rcases accounted_timer hAccounted i with ⟨q, hSame, hNext⟩
      exact ⟨q, hSame ▸ .refl, hNext⟩

/- What a step does is done by the lock in some steps. -/
theorem accounted_step
    (hAccounted : Accounted m p)
    (event : Event) :
    ∃ q : Progress,
      FifoLock.Steps p.toFifoLock q.toFifoLock ∧
        Accounted (m.step event) q := by
  cases event with
  | acquire => exact accounted_acquire hAccounted
  | release call =>
      by_cases hRunning : m.Running call
      · have hReleased :
            m.step (.release call) =
              { m.release with ends := m.ends ++ [call] } :=
          if_pos hRunning
        rw [hReleased]
        exact accounted_release hAccounted hRunning
      · have hSame : m.step (.release call) = m :=
          if_neg hRunning
        rw [hSame]
        exact ⟨p, .refl, hAccounted⟩
  | turn turn => exact accounted_turn hAccounted turn

end Calls

------------------------------------------------------------
-- Running Out Of Turns
------------------------------------------------------------

/- The job or the timer is there. -/
def Turn.IsThere (m : Mutex) : Turn → Prop
| .job i => i < m.loop.jobs.length
| .timer i => i < m.timers.length

/- Nothing runs until somebody calls. -/
def Idle (m : Mutex) : Prop :=
  m.loop.jobs = [] ∧ m.timers = []

/- How many jobs can follow from what is left to do. -/
def weight : Job → Nat
| .adopt _ => 2
| .passOn _ => 1
| .start _ => 1

/- How many jobs and timers can follow. -/
def remaining (m : Mutex) : Nat :=
  m.loop.load weight + m.timers.length

theorem remaining_perform_lt
    (m : Mutex)
    (job : Job)
    (outcome : Settlement) :
    (m.perform job outcome).remaining <
      m.remaining + weight job := by
  cases job with
  | start call =>
      cases outcome with
      | _ => simp [perform, remaining, weight]
  | _ =>
      simp [perform, remaining, withLoop, weight]
      try omega

theorem remaining_runTurn_lt
    (m : Mutex)
    (turn : Turn)
    (hThere : turn.IsThere m) :
    (m.runTurn turn).remaining < m.remaining := by
  cases turn with
  | job i =>
      have hJob := List.getElem?_eq_getElem hThere
      have hLoad := EventLoop.load_without weight hJob
      have hLess := remaining_perform_lt
        (m.withLoop (m.loop.without i)) m.loop.jobs[i].1
        m.loop.jobs[i].2
      change (m.runJob i).remaining < m.remaining
      unfold runJob
      rw [hJob]
      refine Nat.lt_of_lt_of_eq hLess ?_
      unfold remaining
      rw [hLoad]
      exact Nat.add_right_comm _ _ _
  | timer i =>
      have hTimer := List.getElem?_eq_getElem hThere
      change (m.runTimer i).remaining < m.remaining
      unfold runTimer
      rw [hTimer]
      have hLength := List.length_eraseIdx_add_one hThere
      simp only [remaining, lockAcquired, EventLoop.load_settle]
      omega

------------------------------------------------------------
-- Exclusion
------------------------------------------------------------

/- The promise that a duty can wait for. -/
def waitsFor : Duty → Nat → Promise
| .tell, call => .granted call
| .start, call => .acquired call

theorem eq_waitsFor
    {job : Job}
    {promise : Promise}
    (hHome : home job = some promise) :
    promise = waitsFor (duty job).1 (duty job).2 := by
  cases job with
  | adopt call => cases hHome
  | _ => exact (Option.some.inj hHome).symm

/- When no job is left, what is open waits for its promise. -/
theorem pending_of_open
    {m : Mutex}
    {p : Progress}
    (hAccounted : Accounted m p)
    (hIdle : m.loop.jobs = [])
    (d : Duty)
    (call : Nat)
    (hOpen : p.Open (d, call)) :
    m.loop.state (waitsFor d call) = none := by
  rcases hAccounted.placed.exists_pending hIdle
      hAccounted.owes hOpen with
    ⟨job, promise, hDuty, hHome, hNone⟩
  rw [eq_waitsFor hHome, hDuty] at hNone
  exact hNone

/-
  Nothing is left to be done before the next call starts, if
  the calls before it have released the mutex.
-/
theorem started_of_idle
    {m : Mutex}
    {p : Progress}
    (hAccounted : Accounted m p)
    (hIdle : m.Idle)
    {call : Nat}
    (hCalled : call < m.calls)
    (hReleased : ∀ before, before < call → before ∈ m.ends) :
    call ∈ m.starts := by
  rw [hAccounted.serves.calls] at hCalled
  rw [hAccounted.serves.mem_starts_iff]
  by_contra hNot
  have hLe : p.started ≤ call := Nat.le_of_not_lt hNot
  have hAll : call ≤ p.ended := by
    by_contra hLess
    have hOwn := hReleased p.ended (Nat.lt_of_not_le hLess)
    rw [hAccounted.serves.mem_ends_iff] at hOwn
    exact Nat.lt_irrefl _ hOwn
  have hEnded := p.ended_le
  have hStarted := p.started_le_told
  have hTold := p.told_le
  have hUntold : p.told ≤ p.started :=
    hAccounted.acquired.of_pending
      (pending_of_open hAccounted hIdle.1 .start p.started
        ⟨Nat.le_refl _, Nat.lt_of_le_of_lt hLe hCalled⟩)
  have hWaits : p.told < p.called := by omega
  have hUngranted : p.granted ≤ p.told :=
    hAccounted.granted.of_pending
      (pending_of_open hAccounted hIdle.1 .tell p.told
        ⟨Nat.le_refl _, hWaits⟩)
  have hHanded := hAccounted.timers
  unfold Progress.handed at hHanded
  rw [hIdle.2, if_pos (by omega)] at hHanded
  cases hHanded

/-
  At most one call is between its start and its release, and
  the calls start in their order. However the jobs and timers
  that are left are ordered, they run out, and by then every
  call has been started if those before it have released.
-/
structure Exclusive (m : Mutex) : Prop where
  alone : ∀ j k, m.Running j → m.Running k → j = k
  inOrder : m.starts <+: List.range m.calls
  succeeded :
    ∃ bound, ∀ order,
      Along runTurn (fun m turn => turn.IsThere m) m order →
        order.length ≤ bound ∧
          ((run runTurn m order).Idle →
            ∀ call, call < m.calls →
              (∀ before, before < call → before ∈ m.ends) →
              call ∈ (run runTurn m order).starts)

theorem accounted_turns
    {m : Mutex}
    {p : Progress}
    (hAccounted : Accounted m p)
    (order : List Turn) :
    ∃ q, Accounted (run runTurn m order) q := by
  have hStep :
      ∀ (m : Mutex) (turn : Turn),
        (∃ q, Accounted m q) →
          ∃ q, Accounted (m.runTurn turn) q := by
    rintro m turn ⟨q, hq⟩
    exact (accounted_turn hq turn).imp fun _ h => h.2
  exact run_keeps hStep order ⟨p, hAccounted⟩

/- What runs by itself makes no call and releases nothing. -/
theorem runTurn_frame
    (m : Mutex)
    (turn : Turn) :
    (m.runTurn turn).calls = m.calls ∧
      (m.runTurn turn).ends = m.ends := by
  cases turn with
  | job i =>
      change (m.runJob i).calls = _ ∧ (m.runJob i).ends = _
      unfold runJob
      split
      · exact ⟨rfl, rfl⟩
      · rename_i job outcome _
        cases job with
        | _ => cases outcome <;> exact ⟨rfl, rfl⟩
  | timer i =>
      change (m.runTimer i).calls = _ ∧ (m.runTimer i).ends = _
      unfold runTimer
      split <;> exact ⟨rfl, rfl⟩

theorem exclusive_of_accounted
    {m : Mutex}
    {p : Progress}
    (hAccounted : Accounted m p) : Exclusive m where
  alone := fun _ _ => hAccounted.serves.alone
  inOrder := hAccounted.serves.inOrder
  succeeded := by
    refine ⟨m.remaining, fun order hOrder => ⟨?_, ?_⟩⟩
    · exact Along.length_le remaining
        (fun t turn hThere => remaining_runTurn_lt t turn hThere)
        hOrder
    · intro hIdle call hCalled hReleased
      rcases accounted_turns hAccounted order with ⟨q, hq⟩
      have hStep :
          ∀ (t : Mutex) (turn : Turn),
            t.calls = m.calls ∧ t.ends = m.ends →
              (t.runTurn turn).calls = m.calls ∧
                (t.runTurn turn).ends = m.ends := by
        intro t turn hSame
        have hFrame := runTurn_frame t turn
        exact ⟨hFrame.1.trans hSame.1, hFrame.2.trans hSame.2⟩
      have hFrame : (run runTurn m order).calls = m.calls ∧
          (run runTurn m order).ends = m.ends :=
        run_keeps hStep order ⟨rfl, rfl⟩
      refine started_of_idle hq hIdle ?_ ?_
      · rw [hFrame.1]
        exact hCalled
      · rw [hFrame.2]
        exact hReleased

/- The lock goes along with every run of the mutex. -/
theorem run_refines
    (events : List Event) :
    ∃ p : Progress,
      FifoLock.Steps .fresh p.toFifoLock ∧
        Accounted (run step fresh events) p := by
  have hStep :
      ∀ (m : Mutex) (event : Event),
        (∃ p : Progress,
          FifoLock.Steps .fresh p.toFifoLock ∧ Accounted m p) →
          ∃ p : Progress,
            FifoLock.Steps .fresh p.toFifoLock ∧
              Accounted (m.step event) p := by
    rintro m event ⟨p, hSteps, hAccounted⟩
    rcases accounted_step hAccounted event with ⟨q, hq, hNext⟩
    exact ⟨q, hSteps.trans hq, hNext⟩
  rcases accounted_fresh with ⟨p, hFresh, hAccounted⟩
  have hStart : FifoLock.Steps .fresh p.toFifoLock := by
    rw [hFresh]
  exact run_keeps hStep events ⟨p, hStart, hAccounted⟩

/- The mutex is locked until every call has released it. -/
theorem locked_iff
    (events : List Event) :
    (run step fresh events).locked = true ↔
      (run step fresh events).ends.length <
        (run step fresh events).calls := by
  rcases run_refines events with ⟨p, -, hAccounted⟩
  rw [hAccounted.locked, hAccounted.serves.ends,
    hAccounted.serves.calls, List.length_range,
    decide_eq_true_iff]

end Mutex

------------------------------------------------------------
-- The Two Mutexes
------------------------------------------------------------

/-
  In whatever order calls are made, tasks come to an end and
  jobs and timers run, a mutex lets one task in at a time, in
  the order of the calls, and a task that ends with an
  exception lets its successor in like any other.
-/
theorem mutexes_are_exclusive :
    (∀ events,
      Throughout AsyncMutex.step AsyncMutex.Exclusive .fresh
        events) ∧
      (∀ events,
        Throughout Mutex.step Mutex.Exclusive .fresh events) := by
  refine ⟨?_, ?_⟩
  · intro events past future _
    rcases AsyncMutex.run_refines past with ⟨p, -, hAccounted⟩
    exact AsyncMutex.exclusive_of_accounted hAccounted
  · intro events past future _
    rcases Mutex.run_refines past with ⟨p, -, hAccounted⟩
    exact Mutex.exclusive_of_accounted hAccounted

end Shared

end ControlPlane
