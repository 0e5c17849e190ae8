import Mathlib.Data.List.Infix
import Mathlib.Logic.Relation

/-
  A lock that serves its calls one at a time and in order.

  The calls are numbered as they are made. A lock is three
  counts: of the calls, of those that have started and of
  those that have ended. That no two are being served at once
  is part of what a lock is.

  Main declarations:
    * `FifoLock` and `FifoLock.Step`
    * `FifoLock.Serves`
    * `FifoLock.Serves.alone` and `FifoLock.Serves.inOrder`
-/

------------------------------------------------------------
-- The Lock
------------------------------------------------------------

namespace ControlPlane

structure FifoLock where
  called : Nat
  started : Nat
  ended : Nat
  ended_le : ended ≤ started
  started_le : started ≤ ended + 1
  started_le_called : started ≤ called

namespace FifoLock

def fresh : FifoLock where
  called := 0
  started := 0
  ended := 0
  ended_le := Nat.le_refl 0
  started_le := Nat.zero_le 1
  started_le_called := Nat.le_refl 0

def call (l : FifoLock) : FifoLock :=
  { l with
      called := l.called + 1
      started_le_called := Nat.le_succ_of_le l.started_le_called }

/- The first call that waits is served if none is. -/
def start
    (l : FifoLock)
    (hFree : l.started = l.ended)
    (hWaits : l.started < l.called) : FifoLock :=
  { l with
      started := l.started + 1
      ended_le := Nat.le_succ_of_le l.ended_le
      started_le := Nat.succ_le_succ (Nat.le_of_eq hFree)
      started_le_called := hWaits }

def finish
    (l : FifoLock)
    (hServing : l.ended < l.started) : FifoLock :=
  { l with
      ended := l.ended + 1
      ended_le := hServing
      started_le := Nat.le_succ_of_le l.started_le }

inductive Step : FifoLock → FifoLock → Prop
| call (l : FifoLock) : Step l l.call
| start
    (l : FifoLock)
    (hFree : l.started = l.ended)
    (hWaits : l.started < l.called) :
    Step l (l.start hFree hWaits)
| finish
    (l : FifoLock)
    (hServing : l.ended < l.started) :
    Step l (l.finish hServing)

/- Any number of steps, or none. -/
abbrev Steps : FifoLock → FifoLock → Prop :=
  Relation.ReflTransGen Step

------------------------------------------------------------
-- Service
------------------------------------------------------------

/- The calls that a system lets start and end are the lock's. -/
structure Serves
    (l : FifoLock)
    (calls : Nat)
    (starts ends : List Nat) : Prop where
  calls : calls = l.called
  starts : starts = List.range l.started
  ends : ends = List.range l.ended

namespace Serves

variable
  {l : FifoLock}
  {calls : Nat}
  {starts ends : List Nat}

theorem mem_starts_iff
    (hServes : l.Serves calls starts ends)
    (k : Nat) : k ∈ starts ↔ k < l.started := by
  rw [hServes.starts, List.mem_range]

theorem mem_ends_iff
    (hServes : l.Serves calls starts ends)
    (k : Nat) : k ∈ ends ↔ k < l.ended := by
  rw [hServes.ends, List.mem_range]

theorem call
    (hServes : l.Serves calls starts ends) :
    l.call.Serves (calls + 1) starts ends :=
  ⟨congrArg Nat.succ hServes.calls, hServes.starts,
    hServes.ends⟩

theorem start
    (hServes : l.Serves calls starts ends)
    (hFree : l.started = l.ended)
    (hWaits : l.started < l.called) :
    (l.start hFree hWaits).Serves calls (starts ++ [l.started])
      ends := by
  refine ⟨hServes.calls, ?_, hServes.ends⟩
  rw [hServes.starts]
  exact List.range_succ.symm

theorem finish
    (hServes : l.Serves calls starts ends)
    (hServing : l.ended < l.started) :
    (l.finish hServing).Serves calls starts
      (ends ++ [l.ended]) := by
  refine ⟨hServes.calls, hServes.starts, ?_⟩
  rw [hServes.ends]
  exact List.range_succ.symm

/- Two calls that have started and not ended are the same. -/
theorem alone
    (hServes : l.Serves calls starts ends)
    {j k : Nat}
    (hFirst : j ∈ starts ∧ j ∉ ends)
    (hSecond : k ∈ starts ∧ k ∉ ends) : j = k := by
  rw [hServes.mem_starts_iff, hServes.mem_ends_iff]
    at hFirst hSecond
  have hAtMostOne := l.started_le
  omega

theorem inOrder
    (hServes : l.Serves calls starts ends) :
    starts <+: List.range calls := by
  have hTake := List.take_prefix l.started (List.range calls)
  rw [List.take_range, hServes.calls,
    Nat.min_eq_left l.started_le_called] at hTake
  rw [hServes.starts, hServes.calls]
  exact hTake

end Serves

end FifoLock

end ControlPlane
