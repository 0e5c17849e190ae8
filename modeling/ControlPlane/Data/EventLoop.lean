import Mathlib.Data.List.Perm.Basic
import Mathlib.Logic.Function.Basic

/-
  Promises, their reactions and the jobs of an event loop.

  A promise is settled once. A reaction to it waits as long
  as it is pending and is a job from then on, and a reaction
  to a settled promise is a job at once. Which job runs next
  is left open.

  No reaction is lost and none is doubled, so a weight of the
  reactions that are owed changes only where one of them is
  added and where a job is taken.

  Main declarations:
    * `EventLoop.settle`, `react`, `enqueue` and `without`
    * `EventLoop.load`, `EventLoop.owed` and `EventLoop.Owes`
    * `EventLoop.Placed`
    * `EventLoop.Placed.exists_pending`
    * `EventLoop.FulfilledTo`
-/

------------------------------------------------------------
-- Promises
------------------------------------------------------------

namespace ControlPlane

inductive Settlement where
| fulfilled
| rejected
deriving DecidableEq, Repr

/-
  What has become of the promises, the reactions that wait
  for one, and the jobs with the outcome that they are given.
-/
structure EventLoop (π ρ : Type) where
  state : π → Option Settlement
  reactions : List (π × ρ)
  jobs : List (ρ × Settlement)

namespace EventLoop

variable {π ρ : Type}

/- A promise that is settled stays as it is. -/
def settle
    [DecidableEq π]
    (loop : EventLoop π ρ)
    (promise : π)
    (outcome : Settlement) : EventLoop π ρ :=
  match loop.state promise with
  | some _ => loop
  | none =>
      { state :=
          Function.update loop.state promise (some outcome)
        reactions :=
          loop.reactions.filter
            (fun entry => !decide (entry.1 = promise))
        jobs :=
          loop.jobs ++
            (loop.reactions.filter
              (fun entry => decide (entry.1 = promise))).map
              (fun entry => (entry.2, outcome)) }

/- What comes after a promise, by `then` or by `await`. -/
def react
    (loop : EventLoop π ρ)
    (promise : π)
    (reaction : ρ) : EventLoop π ρ :=
  match loop.state promise with
  | some outcome =>
      { loop with jobs := loop.jobs ++ [(reaction, outcome)] }
  | none =>
      { loop with
          reactions :=
            loop.reactions ++ [(promise, reaction)] }

/- A job that waits for no promise. -/
def enqueue
    (loop : EventLoop π ρ)
    (job : ρ) : EventLoop π ρ :=
  { loop with jobs := loop.jobs ++ [(job, .fulfilled)] }

/- The loop after a job has been taken. -/
def without
    (loop : EventLoop π ρ)
    (i : Nat) : EventLoop π ρ :=
  { loop with jobs := loop.jobs.eraseIdx i }

------------------------------------------------------------
-- States
------------------------------------------------------------

theorem state_settle
    [DecidableEq π]
    (loop : EventLoop π ρ)
    (promise other : π)
    (outcome : Settlement) :
    (loop.settle promise outcome).state other =
      if other = promise ∧ loop.state promise = none then
        some outcome
      else loop.state other := by
  unfold settle
  split
  · rename_i hSettled
    rw [if_neg (by simp [hSettled])]
  · rename_i hPending
    by_cases hSame : other = promise
    · subst hSame
      simp [hPending]
    · rw [if_neg (fun h => hSame h.1)]
      exact Function.update_of_ne hSame _ _

@[simp] theorem state_settle_of_ne
    [DecidableEq π]
    (loop : EventLoop π ρ)
    {promise other : π}
    (outcome : Settlement)
    (hNe : other ≠ promise) :
    (loop.settle promise outcome).state other =
      loop.state other := by
  rw [state_settle, if_neg (fun h => hNe h.1)]

@[simp] theorem state_react
    (loop : EventLoop π ρ)
    (promise : π)
    (reaction : ρ) :
    (loop.react promise reaction).state = loop.state := by
  unfold react
  split <;> rfl

@[simp] theorem state_enqueue
    (loop : EventLoop π ρ)
    (job : ρ) :
    (loop.enqueue job).state = loop.state := rfl

@[simp] theorem state_without
    (loop : EventLoop π ρ)
    (i : Nat) :
    (loop.without i).state = loop.state := rfl

------------------------------------------------------------
-- What Is Owed
------------------------------------------------------------

/- The reactions that have not run yet. -/
def pending (loop : EventLoop π ρ) : List ρ :=
  loop.reactions.map Prod.snd ++ loop.jobs.map Prod.fst

def total
    (weight : ρ → Nat) : List ρ → Nat
| [] => 0
| r :: rest => weight r + total weight rest

/- The weight of all of them together. -/
def load
    (weight : ρ → Nat)
    (loop : EventLoop π ρ) : Nat :=
  total weight loop.pending

theorem total_append
    (weight : ρ → Nat)
    (first second : List ρ) :
    total weight (first ++ second) =
      total weight first + total weight second := by
  induction first with
  | nil => exact (Nat.zero_add _).symm
  | cons r rest ih =>
      rw [List.cons_append, total, total, ih, Nat.add_assoc]

theorem total_perm
    (weight : ρ → Nat)
    {first second : List ρ}
    (hPerm : first.Perm second) :
    total weight first = total weight second := by
  induction hPerm with
  | nil => rfl
  | cons r _ ih => rw [total, total, ih]
  | swap a b rest =>
      rw [total, total, total, total, Nat.add_left_comm]
  | trans _ _ ihFirst ihSecond => exact ihFirst.trans ihSecond

theorem pending_settle
    [DecidableEq π]
    (loop : EventLoop π ρ)
    (promise : π)
    (outcome : Settlement) :
    (loop.settle promise outcome).pending.Perm
      loop.pending := by
  unfold settle pending
  split
  · exact .refl _
  · have hSplit :=
      (List.filter_append_perm
        (fun entry : π × ρ => decide (entry.1 = promise))
        loop.reactions).map Prod.snd
    rw [List.map_append] at hSplit
    simp only [List.map_append, List.map_map]
    refine .trans ?_ (hSplit.append_right _)
    refine .trans (List.perm_append_comm.append_left _) ?_
    rw [← List.append_assoc]
    exact List.perm_append_comm.append_right _

@[simp] theorem load_settle
    [DecidableEq π]
    (weight : ρ → Nat)
    (loop : EventLoop π ρ)
    (promise : π)
    (outcome : Settlement) :
    (loop.settle promise outcome).load weight =
      loop.load weight :=
  total_perm weight (pending_settle loop promise outcome)

/- The load after one more reaction, wherever it is put. -/
theorem load_of_perm
    (weight : ρ → Nat)
    {loop next : EventLoop π ρ}
    {r : ρ}
    (hPerm : next.pending.Perm (r :: loop.pending)) :
    next.load weight = loop.load weight + weight r := by
  unfold load
  rw [total_perm weight hPerm, total, Nat.add_comm]

@[simp] theorem load_react
    (weight : ρ → Nat)
    (loop : EventLoop π ρ)
    (promise : π)
    (reaction : ρ) :
    (loop.react promise reaction).load weight =
      loop.load weight + weight reaction := by
  apply load_of_perm
  unfold react pending
  split
  · rw [List.map_append, ← List.append_assoc]
    exact List.perm_append_singleton _ _
  · rw [List.map_append, List.append_assoc]
    exact List.perm_middle

@[simp] theorem load_enqueue
    (weight : ρ → Nat)
    (loop : EventLoop π ρ)
    (job : ρ) :
    (loop.enqueue job).load weight =
      loop.load weight + weight job := by
  apply load_of_perm
  unfold enqueue pending
  rw [List.map_append, ← List.append_assoc]
  exact List.perm_append_singleton _ _

theorem load_without
    {loop : EventLoop π ρ}
    {i : Nat}
    {job : ρ}
    {outcome : Settlement}
    (weight : ρ → Nat)
    (hJob : loop.jobs[i]? = some (job, outcome)) :
    loop.load weight =
      (loop.without i).load weight + weight job := by
  rcases List.getElem?_eq_some_iff.mp hJob with ⟨hLt, hGet⟩
  apply load_of_perm
  have hPerm :=
    ((List.getElem_cons_eraseIdx_perm hLt).map
      Prod.fst).symm
  rw [List.map_cons, hGet] at hPerm
  exact (hPerm.append_left _).trans List.perm_middle

theorem exists_of_load_pos
    {loop : EventLoop π ρ}
    {weight : ρ → Nat}
    (hPos : 0 < loop.load weight) :
    ∃ r ∈ loop.pending, 0 < weight r := by
  unfold load at hPos
  generalize loop.pending = pending at hPos
  induction pending with
  | nil => exact absurd hPos (Nat.lt_irrefl 0)
  | cons r rest ih =>
      rw [total] at hPos
      by_cases hOwn : 0 < weight r
      · exact ⟨r, List.mem_cons_self, hOwn⟩
      · rcases ih (by omega) with ⟨other, hMem, hWeight⟩
        exact ⟨other, List.mem_cons_of_mem _ hMem, hWeight⟩

------------------------------------------------------------
-- Duties
------------------------------------------------------------

section Duties

variable {τ : Type} [DecidableEq τ]

/- How many of the reactions have a duty. -/
def owed
    (loop : EventLoop π ρ)
    (duty : ρ → τ)
    (t : τ) : Nat :=
  loop.load (fun r => if duty r = t then 1 else 0)

/- The duties of a kind are owed once each, and no others. -/
def Owes
    (loop : EventLoop π ρ)
    (duty : ρ → τ)
    (kind : τ → Prop) : Prop :=
  ∀ t,
    (kind t → loop.owed duty t = 1) ∧
      (¬kind t → loop.owed duty t = 0)

namespace Owes

variable
  {loop : EventLoop π ρ}
  {duty : ρ → τ}
  {kind : τ → Prop}

theorem congr
    {other : τ → Prop}
    (hOwes : loop.Owes duty kind)
    (hSame : ∀ t, other t ↔ kind t) :
    loop.Owes duty other := by
  intro t
  rw [hSame t]
  exact hOwes t

theorem settle
    [DecidableEq π]
    (hOwes : loop.Owes duty kind)
    (promise : π)
    (outcome : Settlement) :
    (loop.settle promise outcome).Owes duty kind := by
  intro t
  have hSame := load_settle
    (fun r => if duty r = t then 1 else 0) loop promise outcome
  unfold owed
  rw [hSame]
  exact hOwes t

/- A reaction that is added brings a duty up. -/
theorem add
    {next : EventLoop π ρ}
    {r : ρ}
    (hOwes : loop.Owes duty kind)
    (hNew : ¬kind (duty r))
    (hLoad :
      ∀ weight, next.load weight = loop.load weight + weight r) :
    next.Owes duty (fun t => kind t ∨ t = duty r) := by
  intro t
  have hOwed : next.owed duty t =
      loop.owed duty t + if duty r = t then 1 else 0 :=
    hLoad _
  rcases hOwes t with ⟨hOne, hZero⟩
  by_cases hSame : duty r = t
  · rw [hOwed, if_pos hSame, hZero (hSame ▸ hNew)]
    exact ⟨fun _ => rfl, fun hNot => absurd (.inr hSame.symm) hNot⟩
  · rw [hOwed, if_neg hSame, Nat.add_zero]
    refine ⟨?_, fun hNot => hZero (fun h => hNot (.inl h))⟩
    rintro (hKind | hEq)
    · exact hOne hKind
    · exact absurd hEq.symm hSame

theorem react
    (hOwes : loop.Owes duty kind)
    (promise : π)
    {r : ρ}
    (hNew : ¬kind (duty r)) :
    (loop.react promise r).Owes duty
      (fun t => kind t ∨ t = duty r) :=
  hOwes.add hNew (fun weight => load_react weight loop promise r)

theorem enqueue
    (hOwes : loop.Owes duty kind)
    {r : ρ}
    (hNew : ¬kind (duty r)) :
    (loop.enqueue r).Owes duty
      (fun t => kind t ∨ t = duty r) :=
  hOwes.add hNew (fun weight => load_enqueue weight loop r)

section Jobs

variable {i : Nat} {job : ρ} {outcome : Settlement}

theorem owed_of_job
    (duty : ρ → τ)
    (hJob : loop.jobs[i]? = some (job, outcome))
    (t : τ) :
    loop.owed duty t =
      (loop.without i).owed duty t +
        if duty job = t then 1 else 0 :=
  load_without _ hJob

/- The duty of a job is one that is owed. -/
theorem of_job
    (hOwes : loop.Owes duty kind)
    (hJob : loop.jobs[i]? = some (job, outcome)) :
    kind (duty job) := by
  have hOwed := owed_of_job duty hJob (duty job)
  rw [if_pos rfl] at hOwed
  by_contra hNot
  rw [(hOwes (duty job)).2 hNot] at hOwed
  exact Nat.succ_ne_zero _ hOwed.symm

theorem without
    (hOwes : loop.Owes duty kind)
    (hJob : loop.jobs[i]? = some (job, outcome)) :
    (loop.without i).Owes duty
      (fun t => kind t ∧ t ≠ duty job) := by
  intro t
  have hOwed := owed_of_job duty hJob t
  rcases hOwes t with ⟨hOne, hZero⟩
  by_cases hSame : duty job = t
  · have hKind := hOne (hSame ▸ hOwes.of_job hJob)
    rw [if_pos hSame, hKind] at hOwed
    refine ⟨fun h => absurd hSame.symm h.2, fun _ => ?_⟩
    exact (Nat.succ.inj hOwed).symm
  · rw [if_neg hSame, Nat.add_zero] at hOwed
    rw [← hOwed]
    refine ⟨fun h => hOne h.1, fun hNot => hZero ?_⟩
    exact fun hKind => hNot ⟨hKind, fun h => hSame h.symm⟩

/- A job can leave its duty to a reaction that it adds. -/
theorem handOver
    {next : EventLoop π ρ}
    {r : ρ}
    (hOwes : loop.Owes duty kind)
    (hJob : loop.jobs[i]? = some (job, outcome))
    (hSame : duty r = duty job)
    (hLoad :
      ∀ weight,
        next.load weight =
          (loop.without i).load weight + weight r) :
    next.Owes duty kind := by
  have hAdded := (hOwes.without hJob).add
    (fun hNot => hNot.2 hSame) hLoad
  refine hAdded.congr ?_
  intro t
  rw [hSame]
  constructor
  · intro hKind
    by_cases hDuty : t = duty job
    · exact .inr hDuty
    · exact .inl ⟨hKind, hDuty⟩
  · rintro (⟨hKind, -⟩ | hDuty)
    · exact hKind
    · rw [hDuty]
      exact hOwes.of_job hJob

end Jobs

end Owes

end Duties

------------------------------------------------------------
-- Where A Reaction Is
------------------------------------------------------------

/-
  A reaction waits for the promise that it belongs to, and a
  job was given the outcome of that promise.
-/
structure Placed
    (home : ρ → Option π)
    (loop : EventLoop π ρ) : Prop where
  waiting :
    ∀ entry ∈ loop.reactions,
      home entry.2 = some entry.1 ∧ loop.state entry.1 = none
  ready :
    ∀ job ∈ loop.jobs, ∀ promise,
      home job.1 = some promise →
        loop.state promise = some job.2

namespace Placed

variable {home : ρ → Option π} {loop : EventLoop π ρ}

theorem settle
    [DecidableEq π]
    (hPlaced : loop.Placed home)
    (promise : π)
    (outcome : Settlement) :
    (loop.settle promise outcome).Placed home := by
  cases hState : loop.state promise with
  | some before =>
      have hSame : loop.settle promise outcome = loop := by
        simp only [EventLoop.settle, hState]
      rw [hSame]
      exact hPlaced
  | none =>
      constructor
      · intro entry hEntry
        simp only [EventLoop.settle, hState] at hEntry
        rcases List.mem_filter.mp hEntry with ⟨hOld, hNe⟩
        rcases hPlaced.waiting entry hOld with ⟨hHome, hNone⟩
        have hOther : entry.1 ≠ promise := by simpa using hNe
        refine ⟨hHome, ?_⟩
        rw [state_settle_of_ne loop outcome hOther]
        exact hNone
      · intro job hJob other hHome
        simp only [EventLoop.settle, hState] at hJob
        rw [state_settle]
        rcases List.mem_append.mp hJob with hOld | hNew
        · have hDone := hPlaced.ready job hOld other hHome
          have hOther : other ≠ promise := by
            intro hSame
            rw [hSame, hState] at hDone
            cases hDone
          rw [if_neg (fun h => hOther h.1)]
          exact hDone
        · rcases List.mem_map.mp hNew with ⟨entry, hEntry, rfl⟩
          rcases List.mem_filter.mp hEntry with ⟨hOld, hSame⟩
          have hThere : entry.1 = promise := by
            simpa using hSame
          have hOwn := (hPlaced.waiting entry hOld).1
          rw [hHome, hThere] at hOwn
          rw [if_pos ⟨Option.some.inj hOwn, hState⟩]

theorem react
    (hPlaced : loop.Placed home)
    {promise : π}
    {reaction : ρ}
    (hHome : home reaction = some promise) :
    (loop.react promise reaction).Placed home := by
  cases hState : loop.state promise with
  | some outcome =>
      constructor
      · intro entry hEntry
        rw [state_react]
        simp only [EventLoop.react, hState] at hEntry
        exact hPlaced.waiting entry hEntry
      · intro job hJob other hOther
        rw [state_react]
        simp only [EventLoop.react, hState] at hJob
        rcases List.mem_append.mp hJob with hOld | hNew
        · exact hPlaced.ready job hOld other hOther
        · rw [List.mem_singleton] at hNew
          rw [hNew, hHome] at hOther
          rw [← Option.some.inj hOther, hNew]
          exact hState
  | none =>
      constructor
      · intro entry hEntry
        rw [state_react]
        simp only [EventLoop.react, hState] at hEntry
        rcases List.mem_append.mp hEntry with hOld | hNew
        · exact hPlaced.waiting entry hOld
        · rw [List.mem_singleton] at hNew
          rw [hNew]
          exact ⟨hHome, hState⟩
      · intro job hJob other hOther
        rw [state_react]
        simp only [EventLoop.react, hState] at hJob
        exact hPlaced.ready job hJob other hOther

theorem enqueue
    (hPlaced : loop.Placed home)
    {job : ρ}
    (hHome : home job = none) :
    (loop.enqueue job).Placed home := by
  constructor
  · exact hPlaced.waiting
  · intro other hOther promise hPromise
    rcases List.mem_append.mp hOther with hOld | hNew
    · exact hPlaced.ready other hOld promise hPromise
    · rw [List.mem_singleton] at hNew
      rw [hNew, hHome] at hPromise
      cases hPromise

theorem without
    (hPlaced : loop.Placed home)
    (i : Nat) : (loop.without i).Placed home where
  waiting := hPlaced.waiting
  ready := fun job hJob =>
    hPlaced.ready job (List.mem_of_mem_eraseIdx hJob)

theorem outcome
    (hPlaced : loop.Placed home)
    {i : Nat}
    {job : ρ}
    {outcome : Settlement}
    {promise : π}
    (hJob : loop.jobs[i]? = some (job, outcome))
    (hHome : home job = some promise) :
    loop.state promise = some outcome :=
  hPlaced.ready (job, outcome) (List.mem_of_getElem? hJob)
    promise hHome

/- When no job is left, a duty that is owed still waits. -/
theorem exists_pending
    {τ : Type}
    [DecidableEq τ]
    {duty : ρ → τ}
    {t : τ}
    (hPlaced : loop.Placed home)
    (hIdle : loop.jobs = [])
    {kind : τ → Prop}
    (hOwes : loop.Owes duty kind)
    (hKind : kind t) :
    ∃ r promise,
      duty r = t ∧ home r = some promise ∧
        loop.state promise = none := by
  have hOwed : 0 < loop.owed duty t :=
    Nat.lt_of_lt_of_eq Nat.zero_lt_one ((hOwes t).1 hKind).symm
  rcases exists_of_load_pos hOwed with ⟨r, hr, hWeight⟩
  have hDuty : duty r = t := by
    by_contra hNe
    rw [if_neg hNe] at hWeight
    exact absurd hWeight (Nat.lt_irrefl 0)
  unfold pending at hr
  rw [hIdle, List.map_nil, List.append_nil] at hr
  rcases List.mem_map.mp hr with ⟨entry, hEntry, rfl⟩
  exact ⟨entry.2, entry.1, hDuty, hPlaced.waiting entry hEntry⟩

end Placed

------------------------------------------------------------
-- Promises That Are Settled In Turn
------------------------------------------------------------

/- The promises of a family are fulfilled up to a number. -/
def FulfilledTo
    (loop : EventLoop π ρ)
    (promise : Nat → π)
    (n : Nat) : Prop :=
  ∀ k,
    loop.state (promise k) =
      if k < n then some .fulfilled else none

namespace FulfilledTo

variable
  {loop next : EventLoop π ρ}
  {promise : Nat → π}
  {n k : Nat}

theorem of_state_eq
    (hFulfilled : loop.FulfilledTo promise n)
    (hState : next.state = loop.state) :
    next.FulfilledTo promise n := by
  intro k
  rw [hState]
  exact hFulfilled k

theorem without
    (hFulfilled : loop.FulfilledTo promise n)
    (i : Nat) : (loop.without i).FulfilledTo promise n :=
  hFulfilled

theorem settle_other
    [DecidableEq π]
    (hFulfilled : loop.FulfilledTo promise n)
    {other : π}
    (outcome : Settlement)
    (hOther : ∀ k, promise k ≠ other) :
    (loop.settle other outcome).FulfilledTo promise n := by
  intro k
  rw [state_settle_of_ne loop outcome (hOther k)]
  exact hFulfilled k

theorem settle_next
    [DecidableEq π]
    (hFulfilled : loop.FulfilledTo promise n)
    (hInjective : ∀ j k, promise j = promise k → j = k) :
    (loop.settle (promise n) .fulfilled).FulfilledTo
      promise (n + 1) := by
  intro k
  rw [state_settle, hFulfilled n, hFulfilled k]
  by_cases hSame : k = n
  · subst hSame
    simp
  · rw [if_neg (fun h => hSame (hInjective k n h.1))]
    have hLt : k < n + 1 ↔ k < n := by omega
    simp only [hLt]

theorem of_settled
    (hFulfilled : loop.FulfilledTo promise n)
    {outcome : Settlement}
    (hState : loop.state (promise k) = some outcome) :
    k < n ∧ outcome = .fulfilled := by
  rw [hFulfilled k] at hState
  split at hState
  · rename_i hLt
    exact ⟨hLt, (Option.some.inj hState).symm⟩
  · cases hState

theorem of_pending
    (hFulfilled : loop.FulfilledTo promise n)
    (hState : loop.state (promise k) = none) : n ≤ k := by
  rw [hFulfilled k] at hState
  split at hState
  · cases hState
  · rename_i hNot
    exact Nat.le_of_not_lt hNot

end FulfilledTo

end EventLoop

end ControlPlane
