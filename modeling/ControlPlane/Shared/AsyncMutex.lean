import ControlPlane.Data.EventLoop
import ControlPlane.Data.FifoLock
import ControlPlane.Data.Run

/-
  The mutex that is a chain of promises.

  Every call leaves a promise behind that is settled after
  its own ticket, and waits for the promise that the call
  before it has left. What follows an `await` is a job of the
  event loop, and the jobs run in any order.

  Main declarations:
    * `AsyncMutex.runExclusive` and `AsyncMutex.perform`
    * `AsyncMutex.step`
    * `AsyncMutex.Accounted` and `accounted_step`
    * `AsyncMutex.Exclusive` and `exclusive_of_accounted`
-/

------------------------------------------------------------
-- The Mutex
------------------------------------------------------------

namespace ControlPlane

namespace Shared

namespace AsyncMutex

/-
  What a task does when it is called: it throws, it returns a
  value, or it returns a promise that is settled by then or
  later.
-/
inductive Task where
| throws
| returns
| promises
deriving DecidableEq, Repr

/- The promises of the calls, by the number of the call. -/
inductive Promise where
| initial
| ticket (call : Nat)
| queued (call : Nat)
| acquired (call : Nat)
| task (call : Nat)
| result (call : Nat)
deriving DecidableEq, Repr

/-
  What is left to do of a call: the callback of `then`, the
  two steps by which a promise follows the one that was
  returned, and what follows the three `await`s.
-/
inductive Job where
| giveTicket (call : Nat)
| adopt (call : Nat)
| passOn (call : Nat)
| lock (call : Nat)
| start (call : Nat)
| finish (call : Nat)
deriving DecidableEq, Repr

end AsyncMutex

/-
  The mutex, the tasks it was called with in their order, and
  the calls whose tasks have started and have ended.
-/
structure AsyncMutex where
  queue : AsyncMutex.Promise
  isLocked : Bool
  loop : EventLoop AsyncMutex.Promise AsyncMutex.Job
  tasks : List AsyncMutex.Task
  starts : List Nat
  ends : List Nat

namespace AsyncMutex

def fresh : AsyncMutex where
  queue := .initial
  isLocked := false
  loop :=
    { state :=
        fun promise =>
          if promise = .initial then some .fulfilled else none
      reactions := []
      jobs := [] }
  tasks := []
  starts := []
  ends := []

def withLoop
    (m : AsyncMutex)
    (loop : EventLoop Promise Job) : AsyncMutex :=
  { m with loop := loop }

/- The part of `acquire` up to its `await`. -/
def acquire
    (m : AsyncMutex)
    (call : Nat) : AsyncMutex :=
  { m with
      queue := .queued call
      loop :=
        (m.loop.react m.queue (.giveTicket call)).react
          m.queue (.lock call) }

def runExclusive
    (m : AsyncMutex)
    (task : Task) : AsyncMutex :=
  let call := m.tasks.length
  let waiting := m.acquire call
  { waiting with
      tasks := m.tasks ++ [task]
      loop := waiting.loop.react (.acquired call) (.start call) }

/- What `acquire` returns. -/
def release
    (m : AsyncMutex)
    (call : Nat) : AsyncMutex :=
  { m with
      isLocked := false
      loop := m.loop.settle (.ticket call) .fulfilled }

/- The task has come to an end, one way or the other. -/
def finish
    (m : AsyncMutex)
    (call : Nat)
    (outcome : Settlement) : AsyncMutex :=
  let released := m.release call
  { released with
      ends := m.ends ++ [call]
      loop := released.loop.settle (.result call) outcome }

/- A value is awaited like a promise that is settled. -/
def start
    (m : AsyncMutex)
    (call : Nat) : AsyncMutex :=
  let started := { m with starts := m.starts ++ [call] }
  match m.tasks[call]? with
  | some .throws => started.finish call .rejected
  | some .returns =>
      started.withLoop
        ((m.loop.settle (.task call) .fulfilled).react
          (.task call) (.finish call))
  | _ =>
      started.withLoop
        (m.loop.react (.task call) (.finish call))

/- A job runs with the outcome of what it has waited for. -/
def perform
    (m : AsyncMutex) : Job → Settlement → AsyncMutex
| .giveTicket call, .fulfilled =>
    m.withLoop (m.loop.enqueue (.adopt call))
| .giveTicket call, .rejected =>
    m.withLoop (m.loop.settle (.queued call) .rejected)
| .adopt call, _ =>
    m.withLoop (m.loop.react (.ticket call) (.passOn call))
| .passOn call, outcome =>
    m.withLoop (m.loop.settle (.queued call) outcome)
| .lock call, .fulfilled =>
    { m with
        isLocked := true
        loop := m.loop.settle (.acquired call) .fulfilled }
| .lock call, .rejected =>
    m.withLoop (m.loop.settle (.acquired call) .rejected)
| .start call, .fulfilled => m.start call
| .start call, .rejected =>
    m.withLoop (m.loop.settle (.result call) .rejected)
| .finish call, outcome => m.finish call outcome

/-
  A call is made, the promise of a task is settled, or one of
  the jobs runs.
-/
inductive Event where
| runExclusive (task : Task)
| settle (call : Nat) (outcome : Settlement)
| job (i : Nat)
deriving DecidableEq, Repr

/- One of the jobs is taken and runs. -/
def runJob (m : AsyncMutex) (i : Nat) : AsyncMutex :=
  match m.loop.jobs[i]? with
  | none => m
  | some (job, outcome) =>
      (m.withLoop (m.loop.without i)).perform job outcome

def step (m : AsyncMutex) : Event → AsyncMutex
| .runExclusive task => m.runExclusive task
| .settle call outcome =>
    if m.tasks[call]? = some .promises then
      m.withLoop (m.loop.settle (.task call) outcome)
    else m
| .job i => m.runJob i

/- What becomes of the task of a call, as soon as it does. -/
def outcome
    (m : AsyncMutex)
    (call : Nat) : Option Settlement :=
  match m.tasks[call]? with
  | some .throws => some .rejected
  | some .returns => some .fulfilled
  | some .promises => m.loop.state (.task call)
  | none => none

/- The task is between its start and its end. -/
def Running (m : AsyncMutex) (call : Nat) : Prop :=
  call ∈ m.starts ∧ call ∉ m.ends

------------------------------------------------------------
-- How Far The Calls Have Come
------------------------------------------------------------

/-
  The lock with two more counts: of the calls whose turn has
  come, and of those whose promise in the chain is settled. A
  turn comes when the promise before it is settled.
-/
structure Progress extends FifoLock where
  locked : Nat
  passed : Nat
  passed_le : passed ≤ ended
  started_le_locked : started ≤ locked
  locked_le : locked ≤ passed + 1
  locked_le_called : locked ≤ called

/- What a call has to do, apart from following its ticket. -/
inductive Duty where
| pass
| lock
| start
| finish
deriving DecidableEq, Repr

/- The promise that a call waits for. -/
def previous : Nat → Promise
| 0 => .initial
| call + 1 => .queued call

/- The promise that a job has waited for, if there is one. -/
def home : Job → Option Promise
| .giveTicket call => some (previous call)
| .adopt _ => none
| .passOn call => some (.ticket call)
| .lock call => some (previous call)
| .start call => some (.acquired call)
| .finish call => some (.task call)

def duty : Job → Duty × Nat
| .giveTicket call => (.pass, call)
| .adopt call => (.pass, call)
| .passOn call => (.pass, call)
| .lock call => (.lock, call)
| .start call => (.start, call)
| .finish call => (.finish, call)

namespace Progress

/- The first call that has the duty still before it. -/
def next (p : Progress) : Duty → Nat
| .pass => p.passed
| .lock => p.locked
| .start => p.started
| .finish => p.ended

/- The calls that have come to have the duty. -/
def due (p : Progress) : Duty → Nat
| .finish => p.started
| _ => p.called

/- The call has the duty and has not done it yet. -/
def Open (p : Progress) (t : Duty × Nat) : Prop :=
  p.next t.1 ≤ t.2 ∧ t.2 < p.due t.1

end Progress

/-
  The mutex is as far as its calls. The promises are settled
  up to where the calls have come, and those of the callers
  like the tasks.
-/
structure Account
    (m : AsyncMutex)
    (p : Progress) : Prop where
  serves :
    p.toFifoLock.Serves m.tasks.length m.starts m.ends
  queue : m.queue = previous p.called
  placed : m.loop.Placed home
  initial : m.loop.state .initial = some .fulfilled
  ticket : m.loop.FulfilledTo .ticket p.ended
  queued : m.loop.FulfilledTo .queued p.passed
  acquired : m.loop.FulfilledTo .acquired p.locked
  task :
    ∀ call,
      m.tasks[call]? ≠ some .promises →
        m.loop.state (.task call) =
          if m.tasks[call]? = some .returns ∧
              call < p.started then
            some .fulfilled
          else none
  answered :
    ∀ call, call < p.ended →
      m.outcome call ≠ none ∧
        m.loop.state (.result call) = m.outcome call
  unanswered :
    ∀ call, p.ended ≤ call →
      m.loop.state (.result call) = none

/-
  Between two jobs every duty that has come up and has not
  been done is owed once, and no task has just thrown.
-/
structure Accounted
    (m : AsyncMutex)
    (p : Progress) : Prop extends Account m p where
  isLocked : m.isLocked = decide (p.ended < p.locked)
  owes : m.loop.Owes duty p.Open
  running :
    ∀ call,
      p.ended ≤ call → call < p.started →
        m.tasks[call]? ≠ some .throws

------------------------------------------------------------
-- Reading The Account
------------------------------------------------------------

namespace Accounted

variable {m : AsyncMutex} {p : Progress}

/- The turn of a call is there when the one before is over. -/
theorem of_previous
    (hAccounted : Accounted m p)
    {call : Nat}
    {outcome : Settlement}
    (hState : m.loop.state (previous call) = some outcome) :
    call ≤ p.passed ∧ outcome = .fulfilled := by
  cases call with
  | zero =>
      have hInitial := hState.symm.trans hAccounted.initial
      exact ⟨Nat.zero_le _, Option.some.inj hInitial⟩
  | succ call => exact hAccounted.queued.of_settled hState

theorem of_previous_pending
    (hAccounted : Accounted m p)
    {call : Nat}
    (hState : m.loop.state (previous call) = none) :
    p.passed < call := by
  cases call with
  | zero =>
      have hInitial := hState.symm.trans hAccounted.initial
      cases hInitial
  | succ call =>
      exact Nat.lt_succ_of_le
        (hAccounted.queued.of_pending hState)

theorem outcome_eq
    (hAccounted : Accounted m p)
    {call : Nat}
    (hLow : p.ended ≤ call)
    (hHigh : call < p.started) :
    m.outcome call = m.loop.state (.task call) := by
  have hCalled : call < m.tasks.length := by
    rw [hAccounted.serves.calls]
    exact Nat.lt_of_lt_of_le hHigh p.started_le_called
  have hThrows := hAccounted.running call hLow hHigh
  have hTask := hAccounted.task call
  unfold outcome
  rw [List.getElem?_eq_getElem hCalled] at hThrows hTask ⊢
  cases hKind : m.tasks[call] with
  | throws => exact absurd (congrArg some hKind) hThrows
  | returns =>
      rw [hKind] at hTask
      rw [hTask (by simp), if_pos ⟨rfl, hHigh⟩]
  | promises => rfl

end Accounted

theorem outcome_congr
    {m next : AsyncMutex}
    {call : Nat}
    (hTask : next.tasks[call]? = m.tasks[call]?)
    (hState :
      next.loop.state (.task call) =
        m.loop.state (.task call)) :
    next.outcome call = m.outcome call := by
  unfold outcome
  rw [hTask, hState]

------------------------------------------------------------
-- Steps
------------------------------------------------------------

theorem accounted_fresh :
    ∃ p : Progress,
      p.toFifoLock = .fresh ∧ Accounted fresh p :=
  let p : Progress :=
    { called := 0
      started := 0
      ended := 0
      locked := 0
      passed := 0
      ended_le := Nat.le_refl 0
      started_le := Nat.zero_le 1
      started_le_called := Nat.le_refl 0
      passed_le := Nat.le_refl 0
      started_le_locked := Nat.le_refl 0
      locked_le := Nat.zero_le 1
      locked_le_called := Nat.le_refl 0 }
  have hAccounted : Accounted fresh p :=
    { serves := ⟨rfl, rfl, rfl⟩
      queue := rfl
      isLocked := rfl
      placed :=
        { waiting := fun _ hEntry => absurd hEntry List.not_mem_nil
          ready := fun _ hJob => absurd hJob List.not_mem_nil }
      owes := by
        intro t
        refine ⟨?_, fun _ => rfl⟩
        rintro ⟨-, hLt⟩
        cases t with
        | mk d call =>
            cases d <;> exact absurd hLt (Nat.not_lt_zero call)
      initial := rfl
      ticket := fun _ => rfl
      queued := fun _ => rfl
      acquired := fun _ => rfl
      task := by
        intro call _
        rfl
      running := fun call _ hLt => absurd hLt (Nat.not_lt_zero call)
      answered := fun call hLt => absurd hLt (Nat.not_lt_zero call)
      unanswered := fun _ _ => rfl }
  ⟨p, rfl, hAccounted⟩

namespace Progress

def call (p : Progress) : Progress :=
  { p with
      toFifoLock := p.toFifoLock.call
      locked_le_called := Nat.le_succ_of_le p.locked_le_called }

def lock
    (p : Progress)
    (hTurn : p.locked = p.passed)
    (hWaits : p.locked < p.called) : Progress :=
  { p with
      locked := p.locked + 1
      started_le_locked := Nat.le_succ_of_le p.started_le_locked
      locked_le := Nat.succ_le_succ (Nat.le_of_eq hTurn)
      locked_le_called := hWaits }

def start
    (p : Progress)
    (hTurn : p.started < p.locked) : Progress :=
  have hFree : p.started = p.ended := by
    have := p.ended_le
    have := p.locked_le
    have := p.passed_le
    omega
  { p with
      toFifoLock :=
        p.toFifoLock.start hFree
          (Nat.lt_of_lt_of_le hTurn p.locked_le_called)
      started_le_locked := hTurn }

def finish
    (p : Progress)
    (hServing : p.ended < p.started) : Progress :=
  { p with
      toFifoLock := p.toFifoLock.finish hServing
      passed_le := Nat.le_succ_of_le p.passed_le }

def pass
    (p : Progress)
    (hEnded : p.passed < p.ended) : Progress :=
  { p with
      passed := p.passed + 1
      passed_le := hEnded
      locked_le := Nat.le_succ_of_le p.locked_le }

end Progress

section Calls

variable {m : AsyncMutex} {p : Progress}

/- No duty of a call that has not been made is open. -/
theorem not_open_of_called_le
    {call : Nat}
    (hNew : p.called ≤ call)
    (d : Duty) : ¬p.Open (d, call) := by
  rintro ⟨-, hLt⟩
  cases d with
  | finish =>
      exact absurd (Nat.lt_of_lt_of_le hLt p.started_le_called)
        (Nat.not_lt_of_le hNew)
  | _ => exact absurd hLt (Nat.not_lt_of_le hNew)

theorem open_call
    (t : Duty × Nat) :
    p.call.Open t ↔
      ((p.Open t ∨ t = (.pass, p.called)) ∨
          t = (.lock, p.called)) ∨
        t = (.start, p.called) := by
  have hPassed := p.passed_le
  have hEnded := p.ended_le
  have hStarted := p.started_le_called
  have hLocked := p.locked_le_called
  rcases t with ⟨d, call⟩
  cases d with
  | _ =>
      simp [Progress.Open, Progress.next, Progress.due,
        Progress.call, FifoLock.call]
      try omega

/- Only the new call and what it waits for are different. -/
theorem state_runExclusive
    (task : Task) :
    (m.runExclusive task).loop.state = m.loop.state := by
  unfold runExclusive acquire
  simp only [EventLoop.state_react]

theorem task_runExclusive
    (task : Task)
    {call : Nat}
    (hLt : call < m.tasks.length) :
    (m.runExclusive task).tasks[call]? = m.tasks[call]? :=
  List.getElem?_append_left hLt

theorem accounted_runExclusive
    (hAccounted : Accounted m p)
    (task : Task) :
    Accounted (m.runExclusive task) p.call := by
  have hCalls := hAccounted.serves.calls
  have hQueue : m.queue = previous m.tasks.length := by
    rw [hAccounted.queue, hCalls]
  have hState := m.state_runExclusive task
  have hTasks :
      ∀ call, call < p.started →
        (m.runExclusive task).tasks[call]? =
          m.tasks[call]? := by
    intro call hLt
    refine task_runExclusive task ?_
    rw [hCalls]
    exact Nat.lt_of_lt_of_le hLt p.started_le_called
  refine
    { serves := { hAccounted.serves with calls := ?_ }
      queue := ?_
      placed := ?_
      initial := hState ▸ hAccounted.initial
      ticket := hAccounted.ticket.of_state_eq hState
      queued := hAccounted.queued.of_state_eq hState
      acquired := hAccounted.acquired.of_state_eq hState
      task := ?_
      answered := ?_
      unanswered := ?_
      isLocked := hAccounted.isLocked
      owes := ?_
      running := ?_ }
  · change (m.tasks ++ [task]).length = p.called + 1
    rw [List.length_append, hCalls]
    rfl
  · change Promise.queued m.tasks.length = previous (p.called + 1)
    rw [hCalls]
    rfl
  · refine ((hAccounted.placed.react ?_).react ?_).react rfl
    · rw [hQueue]
      rfl
    · rw [hQueue]
      rfl
  · intro call hKind
    have hOld : m.tasks[call]? ≠ some .promises := by
      by_cases hLt : call < m.tasks.length
      · rw [← task_runExclusive task hLt]
        exact hKind
      · rw [List.getElem?_eq_none (Nat.le_of_not_lt hLt)]
        intro hSome
        cases hSome
    rw [hState, hAccounted.task call hOld]
    by_cases hLt : call < p.started
    · rw [hTasks call hLt]
      rfl
    · rw [if_neg (fun h => hLt h.2), if_neg (fun h => hLt h.2)]
  · intro call hLt
    have hSame : (m.runExclusive task).outcome call = m.outcome call :=
      outcome_congr
        (hTasks call (Nat.lt_of_lt_of_le hLt p.ended_le))
        (congrFun hState _)
    rw [hSame, hState]
    exact hAccounted.answered call hLt
  · intro call hEnded
    rw [hState]
    exact hAccounted.unanswered call hEnded
  · have hNew := fun d =>
      not_open_of_called_le (Nat.le_of_eq hCalls.symm) d
    have hPass := hAccounted.owes.react m.queue
      (r := .giveTicket m.tasks.length) (hNew .pass)
    have hLock := hPass.react m.queue
      (r := .lock m.tasks.length)
      (by simp [duty, hNew .lock])
    have hStart := hLock.react (.acquired m.tasks.length)
      (r := .start m.tasks.length)
      (by simp [duty, hNew .start])
    refine hStart.congr (fun t => ?_)
    rw [open_call, ← hCalls]
    rfl
  · intro call hLow hHigh
    rw [hTasks call hHigh]
    exact hAccounted.running call hLow hHigh

/-
  A step that neither starts nor ends a task, and leaves the
  promises of the tasks and of their callers as they are.
-/
theorem Accounted.advance
    (hAccounted : Accounted m p)
    {q : Progress}
    {isLocked : Bool}
    {loop : EventLoop Promise Job}
    (hLock : q.toFifoLock = p.toFifoLock)
    (hInitial : loop.state .initial = m.loop.state .initial)
    (hTask :
      ∀ call,
        loop.state (.task call) = m.loop.state (.task call))
    (hResult :
      ∀ call,
        loop.state (.result call) =
          m.loop.state (.result call))
    (hLocked : isLocked = decide (q.ended < q.locked))
    (hPlaced : loop.Placed home)
    (hOwes : loop.Owes duty q.Open)
    (hTicket : loop.FulfilledTo .ticket q.ended)
    (hQueued : loop.FulfilledTo .queued q.passed)
    (hAcquired : loop.FulfilledTo .acquired q.locked) :
    Accounted { m with isLocked := isLocked, loop := loop } q := by
  have hOutcome :
      ∀ call,
        AsyncMutex.outcome
            { m with isLocked := isLocked, loop := loop } call =
          m.outcome call :=
    fun call => outcome_congr rfl (hTask call)
  exact
    { serves := hLock ▸ hAccounted.serves
      queue := hLock ▸ hAccounted.queue
      isLocked := hLocked
      placed := hPlaced
      owes := hOwes
      initial := hInitial.trans hAccounted.initial
      ticket := hTicket
      queued := hQueued
      acquired := hAcquired
      task := fun call hKind => by
        rw [hTask, hLock]
        exact hAccounted.task call hKind
      running := hLock ▸ hAccounted.running
      answered := fun call hEnded => by
        rw [hLock] at hEnded
        rw [hOutcome, hResult]
        exact hAccounted.answered call hEnded
      unanswered := fun call hEnded => by
        rw [hLock] at hEnded
        rw [hResult]
        exact hAccounted.unanswered call hEnded }

------------------------------------------------------------
-- Jobs
------------------------------------------------------------

variable {i k : Nat} {outcome : Settlement}

theorem accounted_giveTicket
    (hAccounted : Accounted m p)
    (hJob :
      m.loop.jobs[i]? = some (.giveTicket k, outcome)) :
    Accounted
      ((m.withLoop (m.loop.without i)).perform
        (.giveTicket k) outcome) p := by
  have hTurn := hAccounted.of_previous
    (hAccounted.placed.outcome hJob rfl)
  rw [hTurn.2]
  exact hAccounted.advance rfl rfl (fun _ => rfl)
    (fun _ => rfl) hAccounted.isLocked
    ((hAccounted.placed.without i).enqueue rfl)
    (hAccounted.owes.handOver (r := .adopt k) hJob rfl
      (fun weight => EventLoop.load_enqueue weight _ _))
    hAccounted.ticket hAccounted.queued hAccounted.acquired

theorem accounted_adopt
    (hAccounted : Accounted m p)
    (hJob : m.loop.jobs[i]? = some (.adopt k, outcome)) :
    Accounted
      ((m.withLoop (m.loop.without i)).perform
        (.adopt k) outcome) p := by
  have hState :
      ((m.loop.without i).react (.ticket k)
        (.passOn k)).state = m.loop.state := by
    rw [EventLoop.state_react]
    rfl
  exact hAccounted.advance rfl (congrFun hState _)
    (fun _ => congrFun hState _) (fun _ => congrFun hState _)
    hAccounted.isLocked
    ((hAccounted.placed.without i).react rfl)
    (hAccounted.owes.handOver (r := .passOn k) hJob rfl
      (fun weight => EventLoop.load_react weight _ _ _))
    (hAccounted.ticket.of_state_eq hState)
    (hAccounted.queued.of_state_eq hState)
    (hAccounted.acquired.of_state_eq hState)

/- A call passes its turn on when its own ticket is settled. -/
theorem accounted_passOn
    (hAccounted : Accounted m p)
    (hJob : m.loop.jobs[i]? = some (.passOn k, outcome)) :
    ∃ q : Progress,
      q.toFifoLock = p.toFifoLock ∧
        Accounted
          ((m.withLoop (m.loop.without i)).perform
            (.passOn k) outcome) q := by
  have hEnded := hAccounted.ticket.of_settled
    (hAccounted.placed.outcome hJob rfl)
  have hOpen : p.passed ≤ k ∧ k < p.called :=
    hAccounted.owes.of_job hJob
  have hLast : k = p.passed := by
    have hStarted := p.ended_le
    have hLocked := p.started_le_locked
    have hTurn := p.locked_le
    omega
  rw [hEnded.2, hLast]
  rw [hLast] at hEnded hJob
  refine ⟨p.pass hEnded.1, rfl, ?_⟩
  refine hAccounted.advance rfl ?_ ?_ ?_ hAccounted.isLocked
    ((hAccounted.placed.without i).settle _ _) ?_ ?_ ?_ ?_
  · exact EventLoop.state_settle_of_ne _ _ (by simp)
  · exact fun call =>
      EventLoop.state_settle_of_ne _ _ (by simp)
  · exact fun call =>
      EventLoop.state_settle_of_ne _ _ (by simp)
  · refine ((hAccounted.owes.without hJob).settle _ _).congr ?_
    rintro ⟨d, call⟩
    cases d with
    | _ =>
        simp [Progress.Open, Progress.next, Progress.due,
          Progress.pass, duty]
        try omega
  · exact (hAccounted.ticket.without i).settle_other _
      (fun _ => by simp)
  · exact (hAccounted.queued.without i).settle_next
      (fun _ _ => Promise.queued.inj)
  · exact (hAccounted.acquired.without i).settle_other _
      (fun _ => by simp)

/- The turn of a call comes. -/
theorem accounted_lock
    (hAccounted : Accounted m p)
    (hJob : m.loop.jobs[i]? = some (.lock k, outcome)) :
    ∃ q : Progress,
      q.toFifoLock = p.toFifoLock ∧
        Accounted
          ((m.withLoop (m.loop.without i)).perform
            (.lock k) outcome) q := by
  have hTurn := hAccounted.of_previous
    (hAccounted.placed.outcome hJob rfl)
  have hOpen : p.locked ≤ k ∧ k < p.called :=
    hAccounted.owes.of_job hJob
  have hEnded := p.ended_le
  have hStarted := p.started_le_locked
  have hPassed := p.passed_le
  have hLast : k = p.locked := by omega
  rw [hTurn.2, hLast]
  rw [hLast] at hTurn hJob hOpen
  have hSame : p.locked = p.passed := by omega
  refine ⟨p.lock hSame hOpen.2, rfl, ?_⟩
  refine hAccounted.advance rfl ?_ ?_ ?_ ?_
    ((hAccounted.placed.without i).settle _ _) ?_ ?_ ?_ ?_
  · exact EventLoop.state_settle_of_ne _ _ (by simp)
  · exact fun call =>
      EventLoop.state_settle_of_ne _ _ (by simp)
  · exact fun call =>
      EventLoop.state_settle_of_ne _ _ (by simp)
  · refine (decide_eq_true ?_).symm
    change p.ended < p.locked + 1
    omega
  · refine ((hAccounted.owes.without hJob).settle _ _).congr ?_
    rintro ⟨d, call⟩
    cases d with
    | _ =>
        simp [Progress.Open, Progress.next, Progress.due,
          Progress.lock, duty]
        try omega
  · exact (hAccounted.ticket.without i).settle_other _
      (fun _ => by simp)
  · exact (hAccounted.queued.without i).settle_other _
      (fun _ => by simp)
  · exact (hAccounted.acquired.without i).settle_next
      (fun _ _ => Promise.acquired.inj)

/- The task of a call ends, and its caller is answered. -/
theorem accounted_finish
    (hAccount : Account m p)
    (hCall : k = p.ended)
    (hServing : p.ended < p.started)
    (hOutcome : m.outcome k = some outcome)
    (hOwes :
      m.loop.Owes duty
        (fun t => p.Open t ∧ t ≠ (.finish, k))) :
    Accounted (m.finish k outcome) (p.finish hServing) := by
  subst hCall
  have hStarted := p.started_le
  have hLocked := p.locked_le
  have hPassed := p.passed_le
  have hOther :
      ∀ promise, promise ≠ .ticket p.ended →
        promise ≠ .result p.ended →
          (m.finish p.ended outcome).loop.state promise =
            m.loop.state promise := by
    intro promise hTicket hResult
    unfold finish release
    simp only
    rw [EventLoop.state_settle_of_ne _ _ hResult,
      EventLoop.state_settle_of_ne _ _ hTicket]
  have hSame :
      ∀ call,
        (m.finish p.ended outcome).outcome call =
          m.outcome call :=
    fun call =>
      outcome_congr rfl (hOther _ (by simp) (by simp))
  have hResult :
      (m.finish p.ended outcome).loop.state
          (.result p.ended) = some outcome := by
    unfold finish release
    simp only
    rw [EventLoop.state_settle, if_pos]
    refine ⟨rfl, ?_⟩
    rw [EventLoop.state_settle_of_ne _ _ (by simp)]
    exact hAccount.unanswered _ (Nat.le_refl _)
  refine
    { serves := hAccount.serves.finish _
      queue := hAccount.queue
      placed := (hAccount.placed.settle _ _).settle _ _
      initial :=
        (hOther _ (by simp) (by simp)).trans hAccount.initial
      ticket :=
        (hAccount.ticket.settle_next
          (fun _ _ => Promise.ticket.inj)).settle_other _
            (fun _ => by simp)
      queued :=
        (hAccount.queued.settle_other _
          (fun _ => by simp)).settle_other _ (fun _ => by simp)
      acquired :=
        (hAccount.acquired.settle_other _
          (fun _ => by simp)).settle_other _ (fun _ => by simp)
      task := ?_
      answered := ?_
      unanswered := ?_
      isLocked := ?_
      owes := ?_
      running := ?_ }
  · intro call hKind
    rw [hOther _ (by simp) (by simp)]
    exact hAccount.task call hKind
  · intro call hLt
    rw [hSame]
    rcases Nat.lt_succ_iff_lt_or_eq.mp hLt with hBefore | rfl
    · rw [hOther _ (by simp)
        (by simpa using Nat.ne_of_lt hBefore)]
      exact hAccount.answered call hBefore
    · rw [hResult, hOutcome]
      exact ⟨Option.some_ne_none _, rfl⟩
  · intro call hEnded
    have hNe : call ≠ p.ended := Nat.ne_of_gt hEnded
    rw [hOther _ (by simp) (by simpa using hNe)]
    exact hAccount.unanswered call (Nat.le_of_lt hEnded)
  · refine (decide_eq_false ?_).symm
    change ¬p.ended + 1 < p.locked
    omega
  · refine ((hOwes.settle _ _).settle _ _).congr ?_
    rintro ⟨d, call⟩
    cases d with
    | _ =>
        simp [Progress.Open, Progress.next, Progress.due,
          Progress.finish, FifoLock.finish]
        try omega
  · intro call hLow hHigh
    change p.ended + 1 ≤ call at hLow
    change call < p.started at hHigh
    omega

/- The task of a call is called. -/
theorem account_start
    (hAccount : Account m p)
    (hCall : k = p.started)
    (hTurn : p.started < p.locked)
    {loop : EventLoop Promise Job}
    (hPlaced : loop.Placed home)
    (hOther :
      ∀ promise, promise ≠ .task k →
        loop.state promise = m.loop.state promise)
    (hTask :
      m.tasks[k]? ≠ some .promises →
        loop.state (.task k) =
          if m.tasks[k]? = some .returns then
            some .fulfilled
          else none) :
    Account
      { m with
          starts := m.starts ++ [k]
          loop := loop } (p.start hTurn) := by
  subst hCall
  have hEnded := p.ended_le
  have hLocked := p.locked_le
  have hPassed := p.passed_le
  have hFree : p.started = p.ended := by omega
  refine
    { serves :=
        hAccount.serves.start hFree
          (Nat.lt_of_lt_of_le hTurn p.locked_le_called)
      queue := hAccount.queue
      placed := hPlaced
      initial :=
        (hOther _ (by simp)).trans hAccount.initial
      ticket := ?_
      queued := ?_
      acquired := ?_
      task := ?_
      answered := ?_
      unanswered := ?_ }
  · exact fun call =>
      (hOther _ (by simp)).trans (hAccount.ticket call)
  · exact fun call =>
      (hOther _ (by simp)).trans (hAccount.queued call)
  · exact fun call =>
      (hOther _ (by simp)).trans (hAccount.acquired call)
  · intro call hKind
    change loop.state (.task call) =
      if m.tasks[call]? = some .returns ∧
          call < p.started + 1 then
        some .fulfilled
      else none
    by_cases hSame : call = p.started
    · subst hSame
      rw [hTask hKind]
      simp
    · rw [hOther _ (by simpa using hSame),
        hAccount.task call hKind]
      have hLt : call < p.started + 1 ↔ call < p.started := by
        omega
      simp only [hLt]
  · intro call hLt
    have hLess : call < p.started := Nat.lt_of_lt_of_le hLt hEnded
    have hTaskOf : loop.state (.task call) =
        m.loop.state (.task call) :=
      hOther _ (by simpa using Nat.ne_of_lt hLess)
    have hSame :
        AsyncMutex.outcome
            { m with
                starts := m.starts ++ [p.started]
                loop := loop } call =
          m.outcome call :=
      outcome_congr rfl hTaskOf
    rw [hSame]
    refine (hAccount.answered call hLt).imp_right ?_
    intro hAnswer
    exact (hOther _ (by simp)).trans hAnswer
  · intro call hLe
    exact (hOther _ (by simp)).trans
      (hAccount.unanswered call hLe)

theorem Account.without
    (hAccount : Account m p)
    (i : Nat) : Account (m.withLoop (m.loop.without i)) p :=
  { hAccount with placed := hAccount.placed.without i }

/- The duties after a task has been called. -/
theorem open_start
    (hTurn : p.started < p.locked)
    (t : Duty × Nat) :
    (p.start hTurn).Open t ↔
      (p.Open t ∧ t ≠ (.start, p.started)) ∨
        t = (.finish, p.started) := by
  have hEnded := p.ended_le
  have hLocked := p.locked_le_called
  rcases t with ⟨d, call⟩
  cases d with
  | _ =>
      simp [Progress.Open, Progress.next, Progress.due,
        Progress.start, FifoLock.start]
      try omega

theorem start_throws
    (hKind : m.tasks[k]? = some .throws) :
    m.start k =
      ({ m with starts := m.starts ++ [k] }).finish k
        .rejected := by
  unfold start
  simp only [hKind]

theorem start_returns
    (hKind : m.tasks[k]? = some .returns) :
    m.start k =
      { m with
          starts := m.starts ++ [k]
          loop :=
            (m.loop.settle (.task k) .fulfilled).react (.task k)
              (.finish k) } := by
  unfold start
  simp only [hKind]
  rfl

theorem start_promises
    (hKind : m.tasks[k]? = some .promises) :
    m.start k =
      { m with
          starts := m.starts ++ [k]
          loop := m.loop.react (.task k) (.finish k) } := by
  unfold start
  simp only [hKind]
  rfl

/-
  A task that is called ends at once if it throws. If not,
  its end is owed from then on.
-/
theorem accounted_call
    (hAccount : Account m p)
    (hOwes :
      m.loop.Owes duty
        (fun t => p.Open t ∧ t ≠ (.start, p.started)))
    (hLocked : m.isLocked = decide (p.ended < p.locked))
    (hTurn : p.started < p.locked)
    (hFree : p.started = p.ended) :
    ∃ q : Progress,
      FifoLock.Steps p.toFifoLock q.toFifoLock ∧
        Accounted (m.start p.started) q := by
  have hWaits : p.started < p.called :=
    Nat.lt_of_lt_of_le hTurn p.locked_le_called
  have hStep :
      FifoLock.Step p.toFifoLock (p.start hTurn).toFifoLock :=
    .start _ hFree hWaits
  have hServing :
      (p.start hTurn).ended < (p.start hTurn).started :=
    Nat.lt_succ_of_le p.ended_le
  have hTask := hAccount.task p.started
  have hAlone :
      ∀ call, (p.start hTurn).ended ≤ call →
        call < (p.start hTurn).started → call = p.started := by
    intro call hLow hHigh
    change p.ended ≤ call at hLow
    change call < p.started + 1 at hHigh
    omega
  have hLt : p.started < m.tasks.length := by
    rw [hAccount.serves.calls]
    exact hWaits
  have hNew : ¬p.Open (.finish, p.started) :=
    fun hOpen => Nat.lt_irrefl _ hOpen.2
  cases hKind : m.tasks[p.started]? with
  | none =>
      rw [List.getElem?_eq_getElem hLt] at hKind
      cases hKind
  | some kind =>
      rw [hKind] at hTask
      cases kind with
      | throws =>
          rw [start_throws hKind]
          refine ⟨(p.start hTurn).finish hServing,
            (Relation.ReflTransGen.single hStep).tail
              (.finish _ hServing), ?_⟩
          refine accounted_finish
            (account_start hAccount rfl hTurn hAccount.placed
              (fun _ _ => rfl) ?_) hFree hServing ?_ ?_
          · rw [hKind]
            simpa using hTask
          · unfold outcome
            simp only [hKind]
          · refine hOwes.congr (fun t => ?_)
            rw [open_start]
            refine ⟨fun h => h.1.resolve_right h.2, ?_⟩
            refine fun h => ⟨.inl h, ?_⟩
            rintro rfl
            exact hNew h.1
      | returns =>
          rw [start_returns hKind]
          refine ⟨p.start hTurn, .single hStep, ?_⟩
          have hSettled :
              (m.loop.settle (.task p.started)
                  .fulfilled).state (.task p.started) =
                some .fulfilled := by
            rw [EventLoop.state_settle,
              if_pos ⟨rfl, by simpa using hTask⟩]
          refine
            { account_start hAccount rfl hTurn
                ((hAccount.placed.settle _ _).react rfl) ?_
                ?_ with
              isLocked := hLocked
              owes := ?_
              running := ?_ }
          · intro promise hNe
            rw [EventLoop.state_react]
            exact EventLoop.state_settle_of_ne _ _ hNe
          · intro _
            rw [EventLoop.state_react, hSettled, hKind]
            rfl
          · refine ((hOwes.settle _ _).react _ ?_).congr
              (open_start hTurn)
            exact fun hOpen => hNew hOpen.1
          · intro call hLow hHigh
            rw [hAlone call hLow hHigh, hKind]
            simp
      | promises =>
          rw [start_promises hKind]
          refine ⟨p.start hTurn, .single hStep, ?_⟩
          refine
            { account_start hAccount rfl hTurn
                (hAccount.placed.react rfl) ?_ ?_ with
              isLocked := hLocked
              owes := ?_
              running := ?_ }
          · exact fun promise _ => by rw [EventLoop.state_react]
          · exact fun hNot => absurd hKind hNot
          · refine (hOwes.react _ ?_).congr (open_start hTurn)
            exact fun hOpen => hNew hOpen.1
          · intro call hLow hHigh
            rw [hAlone call hLow hHigh, hKind]
            simp

/- The turn of a call has come, and its task is called. -/
theorem accounted_start
    (hAccounted : Accounted m p)
    (hJob : m.loop.jobs[i]? = some (.start k, outcome)) :
    ∃ q : Progress,
      FifoLock.Steps p.toFifoLock q.toFifoLock ∧
        Accounted
          ((m.withLoop (m.loop.without i)).perform
            (.start k) outcome) q := by
  have hReady := hAccounted.acquired.of_settled
    (hAccounted.placed.outcome hJob rfl)
  have hOpen : p.started ≤ k ∧ k < p.called :=
    hAccounted.owes.of_job hJob
  have hLocked := p.locked_le
  have hPassed := p.passed_le
  have hEnded := p.ended_le
  have hCall : k = p.started := by omega
  subst hCall
  rw [hReady.2]
  exact accounted_call (hAccounted.toAccount.without i)
    (hAccounted.owes.without hJob) hAccounted.isLocked
    hReady.1 (by omega)

/- The task of a call has come to its end. -/
theorem accounted_end
    (hAccounted : Accounted m p)
    (hJob : m.loop.jobs[i]? = some (.finish k, outcome)) :
    ∃ q : Progress,
      FifoLock.Steps p.toFifoLock q.toFifoLock ∧
        Accounted
          ((m.withLoop (m.loop.without i)).perform
            (.finish k) outcome) q := by
  have hOpen : p.ended ≤ k ∧ k < p.started :=
    hAccounted.owes.of_job hJob
  have hStarted := p.started_le
  have hCall : k = p.ended := by omega
  have hServing : p.ended < p.started := by omega
  have hOutcome : m.outcome k = some outcome := by
    rw [hAccounted.outcome_eq hOpen.1 hOpen.2]
    exact hAccounted.placed.outcome hJob rfl
  exact ⟨p.finish hServing, .single (.finish _ hServing),
    accounted_finish (hAccounted.toAccount.without i) hCall
      hServing hOutcome (hAccounted.owes.without hJob)⟩

theorem accounted_runJob
    (hAccounted : Accounted m p)
    (i : Nat) :
    ∃ q : Progress,
      FifoLock.Steps p.toFifoLock q.toFifoLock ∧
        Accounted (m.runJob i) q := by
  unfold runJob
  split
  · exact ⟨p, .refl, hAccounted⟩
  · rename_i job outcome hJob
    cases job with
    | giveTicket k =>
        exact ⟨p, .refl, accounted_giveTicket hAccounted hJob⟩
    | adopt k =>
        exact ⟨p, .refl, accounted_adopt hAccounted hJob⟩
    | passOn k =>
        rcases accounted_passOn hAccounted hJob with
          ⟨q, hSame, hNext⟩
        exact ⟨q, hSame ▸ .refl, hNext⟩
    | lock k =>
        rcases accounted_lock hAccounted hJob with
          ⟨q, hSame, hNext⟩
        exact ⟨q, hSame ▸ .refl, hNext⟩
    | start k => exact accounted_start hAccounted hJob
    | finish k => exact accounted_end hAccounted hJob

/- The promise of a task is settled, before or after it starts. -/
theorem accounted_settle
    (hAccounted : Accounted m p)
    (hKind : m.tasks[k]? = some .promises) :
    Accounted
      (m.withLoop (m.loop.settle (.task k) outcome)) p := by
  have hOther :
      ∀ promise, promise ≠ .task k →
        (m.loop.settle (.task k) outcome).state promise =
          m.loop.state promise :=
    fun promise hNe => EventLoop.state_settle_of_ne _ _ hNe
  have hSame :
      ∀ call, m.outcome call ≠ none →
        (m.withLoop
            (m.loop.settle (.task k) outcome)).outcome call =
          m.outcome call := by
    intro call hSome
    refine outcome_congr rfl ?_
    change (m.loop.settle (.task k) outcome).state
      (.task call) = _
    rw [EventLoop.state_settle, if_neg]
    rintro ⟨hCall, hNone⟩
    rw [Promise.task.inj hCall] at hSome
    unfold AsyncMutex.outcome at hSome
    rw [hKind] at hSome
    exact hSome hNone
  exact
    { serves := hAccounted.serves
      queue := hAccounted.queue
      placed := hAccounted.placed.settle _ _
      initial :=
        (hOther _ (by simp)).trans hAccounted.initial
      ticket :=
        hAccounted.ticket.settle_other _ (fun _ => by simp)
      queued :=
        hAccounted.queued.settle_other _ (fun _ => by simp)
      acquired :=
        hAccounted.acquired.settle_other _ (fun _ => by simp)
      task := by
        intro call hOtherKind
        have hNe : Promise.task call ≠ .task k := by
          intro hCall
          rw [Promise.task.inj hCall] at hOtherKind
          exact hOtherKind hKind
        exact (hOther _ hNe).trans
          (hAccounted.task call hOtherKind)
      answered := by
        intro call hEnded
        rcases hAccounted.answered call hEnded with
          ⟨hSome, hResult⟩
        rw [hSame call hSome]
        exact ⟨hSome, (hOther _ (by simp)).trans hResult⟩
      unanswered := fun call hEnded =>
        (hOther _ (by simp)).trans
          (hAccounted.unanswered call hEnded)
      isLocked := hAccounted.isLocked
      owes := hAccounted.owes.settle _ _
      running := hAccounted.running }

/- What a step does is done by the lock in some steps. -/
theorem accounted_step
    (hAccounted : Accounted m p)
    (event : Event) :
    ∃ q : Progress,
      FifoLock.Steps p.toFifoLock q.toFifoLock ∧
        Accounted (m.step event) q := by
  cases event with
  | runExclusive task =>
      exact ⟨p.call, .single (.call _),
        accounted_runExclusive hAccounted task⟩
  | settle k outcome =>
      by_cases hKind : m.tasks[k]? = some .promises
      · have hSettled :
            m.step (.settle k outcome) =
              m.withLoop (m.loop.settle (.task k) outcome) :=
          if_pos hKind
        rw [hSettled]
        exact ⟨p, .refl, accounted_settle hAccounted hKind⟩
      · have hSame : m.step (.settle k outcome) = m :=
          if_neg hKind
        rw [hSame]
        exact ⟨p, .refl, hAccounted⟩
  | job i => exact accounted_runJob hAccounted i

end Calls

------------------------------------------------------------
-- Running Out Of Jobs
------------------------------------------------------------

/- How many jobs can follow from what is left to do. -/
def weight : Job → Nat
| .giveTicket _ => 3
| .adopt _ => 2
| .passOn _ => 1
| .lock _ => 1
| .start _ => 2
| .finish _ => 1

theorem load_finish
    (m : AsyncMutex)
    (call : Nat)
    (outcome : Settlement) :
    (m.finish call outcome).loop.load weight =
      m.loop.load weight := by
  unfold finish release
  simp only [EventLoop.load_settle]

theorem load_start_le
    (m : AsyncMutex)
    (call : Nat) :
    (m.start call).loop.load weight ≤
      m.loop.load weight + 1 := by
  unfold start
  split
  · rw [load_finish]
    exact Nat.le_succ _
  · simp [withLoop, weight]
  · simp [withLoop, weight]

/- What a job leaves behind is less than the job. -/
theorem load_perform_lt
    (m : AsyncMutex)
    (job : Job)
    (outcome : Settlement) :
    (m.perform job outcome).loop.load weight <
      m.loop.load weight + weight job := by
  cases job with
  | start call =>
      cases outcome with
      | fulfilled =>
          exact Nat.lt_succ_of_le (load_start_le m call)
      | rejected => simp [perform, withLoop, weight]
  | finish call =>
      have hSame := load_finish m call outcome
      simp only [perform, hSame, weight]
      exact Nat.lt_succ_self _
  | _ => cases outcome <;> simp [perform, withLoop, weight]

theorem load_runJob_lt
    {m : AsyncMutex}
    {i : Nat}
    (hLt : i < m.loop.jobs.length) :
    (m.runJob i).loop.load weight < m.loop.load weight := by
  have hJob := List.getElem?_eq_getElem hLt
  unfold runJob
  rw [hJob, EventLoop.load_without weight hJob]
  exact load_perform_lt _ _ _

------------------------------------------------------------
-- Exclusion
------------------------------------------------------------

/- The promises that a duty can wait for. -/
def waitsFor : Duty → Nat → List Promise
| .pass, call => [previous call, .ticket call]
| .lock, call => [previous call]
| .start, call => [.acquired call]
| .finish, call => [.task call]

theorem mem_waitsFor
    {job : Job}
    {promise : Promise}
    (hHome : home job = some promise) :
    promise ∈ waitsFor (duty job).1 (duty job).2 := by
  cases job with
  | adopt call => cases hHome
  | _ =>
      rw [← Option.some.inj hHome]
      simp [waitsFor, duty]

/- When no job is left, what is open waits for a promise. -/
theorem exists_waits
    {m : AsyncMutex}
    {p : Progress}
    (hAccounted : Accounted m p)
    (hIdle : m.loop.jobs = [])
    (d : Duty)
    (call : Nat)
    (hOpen : p.Open (d, call)) :
    ∃ promise ∈ waitsFor d call,
      m.loop.state promise = none := by
  rcases hAccounted.placed.exists_pending hIdle
      hAccounted.owes hOpen with
    ⟨job, promise, hDuty, hHome, hNone⟩
  have hMem := mem_waitsFor hHome
  rw [hDuty] at hMem
  exact ⟨promise, hMem, hNone⟩

/-
  Nothing is left to be done before the next call starts, if
  no task is being waited for.
-/
theorem started_of_idle
    {m : AsyncMutex}
    {p : Progress}
    (hAccounted : Accounted m p)
    (hIdle : m.loop.jobs = [])
    {call : Nat}
    (hCalled : call < m.tasks.length)
    (hEnded : ∀ before, before < call → m.outcome before ≠ none) :
    call ∈ m.starts := by
  rw [hAccounted.serves.calls] at hCalled
  rw [hAccounted.serves.mem_starts_iff]
  by_contra hNot
  have hLe : p.started ≤ call := Nat.le_of_not_lt hNot
  have hStarted := p.started_le
  have hTurn := p.locked_le
  have hLocked := p.started_le_locked
  by_cases hServing : p.ended < p.started
  · rcases exists_waits hAccounted hIdle .finish p.ended
      ⟨Nat.le_refl _, hServing⟩ with ⟨promise, hMem, hNone⟩
    have hBefore :=
      hEnded p.ended (Nat.lt_of_lt_of_le hServing hLe)
    rw [List.mem_singleton.mp hMem] at hNone
    rw [hAccounted.outcome_eq (Nat.le_refl _) hServing]
      at hBefore
    exact hBefore hNone
  · have hWaits : p.started < p.called :=
      Nat.lt_of_le_of_lt hLe hCalled
    rcases exists_waits hAccounted hIdle .start p.started
        ⟨Nat.le_refl _, hWaits⟩ with ⟨promise, hMem, hNone⟩
    rw [List.mem_singleton.mp hMem] at hNone
    have hNoTurn := hAccounted.acquired.of_pending hNone
    have hSame : p.locked = p.started := by omega
    rcases exists_waits hAccounted hIdle .lock p.started
        ⟨Nat.le_of_eq hSame, hWaits⟩ with
      ⟨promise, hMem, hNone⟩
    rw [List.mem_singleton.mp hMem] at hNone
    have hBehind := hAccounted.of_previous_pending hNone
    rcases exists_waits hAccounted hIdle .pass p.passed
        ⟨Nat.le_refl _, Nat.lt_trans hBehind hWaits⟩ with
      ⟨promise, hMem, hNone⟩
    rcases List.mem_pair.mp hMem with rfl | rfl
    · exact Nat.lt_irrefl _
        (hAccounted.of_previous_pending hNone)
    · have hUnended := hAccounted.ticket.of_pending hNone
      omega

/-
  At most one task is between its start and its end, and the
  tasks start in the order of the calls. However the jobs
  that are left are ordered, they run out, and by then every
  call has been started if the tasks before its own have come
  to an end.
-/
structure Exclusive (m : AsyncMutex) : Prop where
  alone : ∀ j k, m.Running j → m.Running k → j = k
  inOrder : m.starts <+: List.range m.tasks.length
  succeeded :
    ∃ bound, ∀ order,
      Along runJob (fun m i => i < m.loop.jobs.length) m
          order →
        order.length ≤ bound ∧
          ((run runJob m order).loop.jobs = [] →
            ∀ call, call < m.tasks.length →
              (∀ before, before < call →
                (run runJob m order).outcome before ≠ none) →
              call ∈ (run runJob m order).starts)

theorem accounted_jobs
    {m : AsyncMutex}
    {p : Progress}
    (hAccounted : Accounted m p)
    (order : List Nat) :
    ∃ q, Accounted (run runJob m order) q := by
  have hStep :
      ∀ (m : AsyncMutex) (i : Nat),
        (∃ q, Accounted m q) →
          ∃ q, Accounted (m.runJob i) q := by
    rintro m i ⟨q, hq⟩
    exact (accounted_runJob hq i).imp fun _ h => h.2
  exact run_keeps hStep order ⟨p, hAccounted⟩

theorem tasks_start
    (m : AsyncMutex)
    (call : Nat) : (m.start call).tasks = m.tasks := by
  unfold start
  split <;> rfl

theorem tasks_runJob
    (m : AsyncMutex)
    (i : Nat) : (m.runJob i).tasks = m.tasks := by
  unfold runJob
  split
  · rfl
  · rename_i job outcome _
    cases job with
    | start call =>
        cases outcome with
        | fulfilled => exact tasks_start _ call
        | rejected => rfl
    | _ => cases outcome <;> rfl

theorem exclusive_of_accounted
    {m : AsyncMutex}
    {p : Progress}
    (hAccounted : Accounted m p) : Exclusive m where
  alone := fun _ _ => hAccounted.serves.alone
  inOrder := hAccounted.serves.inOrder
  succeeded := by
    refine ⟨m.loop.load weight, fun order hOrder => ⟨?_, ?_⟩⟩
    · have hLess :
          ∀ (t : AsyncMutex) (i : Nat),
            i < t.loop.jobs.length →
              (t.runJob i).loop.load weight <
                t.loop.load weight :=
        fun _ _ hLt => load_runJob_lt hLt
      exact Along.length_le
        (fun t : AsyncMutex => t.loop.load weight) hLess hOrder
    · intro hIdle call hCalled hEnded
      rcases accounted_jobs hAccounted order with ⟨q, hq⟩
      have hTasks : (run runJob m order).tasks = m.tasks := by
        have hStep :
            ∀ (t : AsyncMutex) (i : Nat),
              t.tasks = m.tasks →
                (t.runJob i).tasks = m.tasks :=
          fun t i hSame => (tasks_runJob t i).trans hSame
        exact run_keeps hStep order rfl
      refine started_of_idle hq hIdle ?_ hEnded
      rw [hTasks]
      exact hCalled

/- The lock goes along with every run of the mutex. -/
theorem run_refines
    (events : List Event) :
    ∃ p : Progress,
      FifoLock.Steps .fresh p.toFifoLock ∧
        Accounted (run step fresh events) p := by
  have hStep :
      ∀ (m : AsyncMutex) (event : Event),
        (∃ p : Progress,
          FifoLock.Steps .fresh p.toFifoLock ∧ Accounted m p) →
          ∃ p : Progress,
            FifoLock.Steps .fresh p.toFifoLock ∧
              Accounted (m.step event) p := by
    rintro m event ⟨p, hSteps, hAccounted⟩
    rcases accounted_step hAccounted event with ⟨q, hq, hNext⟩
    exact ⟨q, hSteps.trans hq, hNext⟩
  rcases accounted_fresh with ⟨p, hFresh, hAccounted⟩
  have hStart : FifoLock.Steps .fresh p.toFifoLock := by
    rw [hFresh]
  exact run_keeps hStep events ⟨p, hStart, hAccounted⟩

/- Every caller is given what has become of its own task. -/
theorem answer_is_outcome
    (events : List Event)
    {call : Nat}
    (hEnded : call ∈ (run step fresh events).ends) :
    (run step fresh events).outcome call ≠ none ∧
      (run step fresh events).loop.state (.result call) =
        (run step fresh events).outcome call := by
  rcases run_refines events with ⟨p, -, hAccounted⟩
  exact hAccounted.answered call
    ((hAccounted.serves.mem_ends_iff call).mp hEnded)

example :
    (run step fresh
      ([.runExclusive .promises, .runExclusive .returns] ++
        List.replicate 5 (.job 0) ++ [.settle 0 .rejected] ++
        List.replicate 9 (.job 0))).ends = [0, 1] := by
  decide +kernel

end AsyncMutex

end Shared

end ControlPlane
