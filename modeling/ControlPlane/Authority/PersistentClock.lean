import Mathlib.Order.Basic

/-
  The persistent clock.

  The clock runs with the timer of the process from the wall
  clock at its anchor. A new process takes its wall clock for
  the anchor, and only finds it out of order if it is below
  the anchor that is stored. What the clock has shown since
  that anchor is not stored.

  Main declarations:
    * `PersistentClock.reading` and `PersistentClock.now`
    * `PersistentClock.updateAnchor`
    * `PersistentClock.initializeFrom`
-/

------------------------------------------------------------
-- The Clock
------------------------------------------------------------

namespace ControlPlane

/- Nanoseconds of the timer in full milliseconds. -/
def elapsedMs
    (start hrtime : Int) : Int :=
  (hrtime - start).tdiv 1000000

theorem elapsedMs_self
    (hrtime : Int) :
    elapsedMs hrtime hrtime = 0 := by
  unfold elapsedMs
  rw [Int.sub_self, Int.zero_tdiv]

theorem elapsedMs_mono
    (start hrtime : Int)
    (elapsed : Nat) :
    elapsedMs start hrtime ≤
      elapsedMs start (hrtime + elapsed) := by
  apply Int.tdiv_le_tdiv (by omega)
  omega

/-
  Wall clocks are in milliseconds. `storedAnchor` is the row
  of the anchor, which outlives the process.
-/
structure PersistentClock where
  bootWallclock : Int
  bootHrtime : Int
  lastKnownTime : Int
  isUncertain : Bool
  storedAnchor : Option Int
deriving DecidableEq, Repr

namespace PersistentClock

def reading
    (c : PersistentClock)
    (hrtime : Int) : Int :=
  c.bootWallclock + elapsedMs c.bootHrtime hrtime

/- An uncertain clock throws. -/
def now
    (c : PersistentClock)
    (hrtime : Int) : Option Int :=
  if c.isUncertain then none else some (c.reading hrtime)

/- The time is only moved forward. -/
def accepts
    (c : PersistentClock)
    (backendTimestamp : Int) : Bool :=
  decide
    (0 < backendTimestamp ∧
      c.lastKnownTime ≤ backendTimestamp)

def updateAnchor
    (c : PersistentClock)
    (backendTimestamp hrtime : Int) : PersistentClock :=
  if c.accepts backendTimestamp then
    { bootWallclock := backendTimestamp
      bootHrtime := hrtime
      lastKnownTime := backendTimestamp
      isUncertain := false
      storedAnchor := some backendTimestamp }
  else c

/- The clock of a new process. -/
def initializeFrom
    (storedAnchor : Option Int)
    (wall hrtime : Int) : PersistentClock :=
  match storedAnchor with
  | some lastKnownTime =>
      { bootWallclock := wall
        bootHrtime := hrtime
        lastKnownTime := lastKnownTime
        isUncertain := decide (wall < lastKnownTime)
        storedAnchor := storedAnchor }
  | none =>
      updateAnchor
        { bootWallclock := wall
          bootHrtime := hrtime
          lastKnownTime := 0
          isUncertain := false
          storedAnchor := none }
        wall hrtime

theorem reading_mono
    (c : PersistentClock)
    (hrtime : Int)
    (elapsed : Nat) :
    c.reading hrtime ≤ c.reading (hrtime + elapsed) := by
  have hElapsed :=
    elapsedMs_mono c.bootHrtime hrtime elapsed
  unfold reading
  omega

theorem now_eq_some_iff
    (c : PersistentClock)
    (hrtime time : Int) :
    c.now hrtime = some time ↔
      c.isUncertain = false ∧ c.reading hrtime = time := by
  unfold now
  cases c.isUncertain <;> simp

/- An anchor is refused, or it is the time that is shown. -/
theorem now_updateAnchor
    (c : PersistentClock)
    (backendTimestamp hrtime : Int) :
    (c.updateAnchor backendTimestamp hrtime).now hrtime =
      if c.accepts backendTimestamp then
        some backendTimestamp
      else c.now hrtime := by
  unfold updateAnchor
  split
  · unfold now reading
    dsimp only
    rw [elapsedMs_self, Int.add_zero]
    rfl
  · rfl

/- A new process shows its wall clock, or a rollback. -/
theorem now_initializeFrom
    (storedAnchor : Option Int)
    (wall hrtime : Int) :
    (initializeFrom storedAnchor wall hrtime).now hrtime =
      if ∃ anchor ∈ storedAnchor, wall < anchor then none
      else some wall := by
  have hReading :
      wall + elapsedMs hrtime hrtime = wall := by
    rw [elapsedMs_self, Int.add_zero]
  cases storedAnchor with
  | none =>
      change (updateAnchor _ wall hrtime).now hrtime = _
      rw [now_updateAnchor]
      simp [now, reading, hReading]
  | some anchor =>
      simp [initializeFrom, now, reading, hReading]

end PersistentClock

end ControlPlane
