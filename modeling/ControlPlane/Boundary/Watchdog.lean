/-
  The liveness watchdog of the Execution Plane.

  A heartbeat timestamp of zero means that no heartbeat has
  been received since the last reset. `start` resets the
  tracking state before it looks at its timer, so starting a
  running watchdog forgets the last heartbeat.

  Main declarations:
    * `WatchdogMonitor` and its operations
    * `WatchdogMonitor.checkLiveness_degrades`
    * `WatchdogMonitor.checkLiveness_keeps_degraded`
-/

------------------------------------------------------------
-- State And Operations
------------------------------------------------------------

namespace ControlPlane

inductive LivenessState where
| OFFLINE | HEALTHY | UNRESPONSIVE | DEGRADED
| QUARANTINE_REQUIRED
deriving DecidableEq, Repr

/- What a liveness check reports. -/
inductive WatchdogAlert where
| livenessWarning (elapsed lastSeen : Nat)
| livenessDegraded (elapsed lastSeen : Nat)
| quarantineRequired (elapsed lastSeen : Nat)
deriving DecidableEq, Repr

structure WatchdogMonitor where
  warningTimeoutMs : Nat
  degradedTimeoutMs : Nat
  quarantineTimeoutMs : Nat
  livenessState : LivenessState
  lastHeartbeatTimestamp : Nat
  timerActive : Bool
deriving DecidableEq, Repr

namespace WatchdogMonitor

/- A stopped watchdog with the given thresholds. -/
def fresh (warning degraded quarantine : Nat) :
    WatchdogMonitor where
  warningTimeoutMs := warning
  degradedTimeoutMs := degraded
  quarantineTimeoutMs := quarantine
  livenessState := .OFFLINE
  lastHeartbeatTimestamp := 0
  timerActive := false

def reset (w : WatchdogMonitor) : WatchdogMonitor :=
  { w with
      livenessState := .OFFLINE
      lastHeartbeatTimestamp := 0 }

def start (w : WatchdogMonitor) : WatchdogMonitor :=
  { w.reset with timerActive := true }

def stop (w : WatchdogMonitor) : WatchdogMonitor :=
  { w with timerActive := false }.reset

def recordHeartbeat
    (w : WatchdogMonitor)
    (now : Nat) : WatchdogMonitor :=
  { w with
      lastHeartbeatTimestamp := now
      livenessState := .HEALTHY }

/- The circuit breaker is open. -/
def isDegraded (w : WatchdogMonitor) : Bool :=
  w.livenessState == .DEGRADED ||
    w.livenessState == .QUARANTINE_REQUIRED

/- Compare the age of the last heartbeat to the tiers. -/
def checkLiveness
    (w : WatchdogMonitor)
    (now : Nat) :
    WatchdogMonitor × Option WatchdogAlert :=
  if w.lastHeartbeatTimestamp = 0 then
    (w, none)
  else
    let elapsed := now - w.lastHeartbeatTimestamp
    if w.quarantineTimeoutMs ≤ elapsed then
      if w.livenessState = .QUARANTINE_REQUIRED then
        (w, none)
      else
        ({ w with livenessState := .QUARANTINE_REQUIRED },
          some (.quarantineRequired elapsed
            w.lastHeartbeatTimestamp))
    else if w.degradedTimeoutMs ≤ elapsed then
      if w.livenessState = .DEGRADED ∨
          w.livenessState = .QUARANTINE_REQUIRED then
        (w, none)
      else
        ({ w with livenessState := .DEGRADED },
          some (.livenessDegraded elapsed
            w.lastHeartbeatTimestamp))
    else if w.warningTimeoutMs ≤ elapsed then
      if w.livenessState = .HEALTHY then
        ({ w with livenessState := .UNRESPONSIVE },
          some (.livenessWarning elapsed
            w.lastHeartbeatTimestamp))
      else
        (w, none)
    else
      (w, none)

------------------------------------------------------------
-- Liveness Checks
------------------------------------------------------------

/- A check never changes the last heartbeat or the tiers. -/
theorem checkLiveness_frame
    (w : WatchdogMonitor)
    (now : Nat) :
    ∃ state,
      (w.checkLiveness now).1 =
        { w with livenessState := state } := by
  unfold checkLiveness
  by_cases hSeen : w.lastHeartbeatTimestamp = 0
  · exact ⟨w.livenessState, by rw [if_pos hSeen]⟩
  · rw [if_neg hSeen]
    dsimp only
    split
    · split
      · exact ⟨w.livenessState, rfl⟩
      · exact ⟨_, rfl⟩
    · split
      · split
        · exact ⟨w.livenessState, rfl⟩
        · exact ⟨_, rfl⟩
      · split
        · split
          · exact ⟨_, rfl⟩
          · exact ⟨w.livenessState, rfl⟩
        · exact ⟨w.livenessState, rfl⟩

/- A check after the degraded tier opens the breaker. -/
theorem checkLiveness_degrades
    (w : WatchdogMonitor)
    (now : Nat)
    (hSeen : w.lastHeartbeatTimestamp ≠ 0)
    (hAge :
      w.degradedTimeoutMs ≤
        now - w.lastHeartbeatTimestamp) :
    (w.checkLiveness now).1.isDegraded = true := by
  unfold checkLiveness
  rw [if_neg hSeen]
  dsimp only
  by_cases hQuarantine :
      w.quarantineTimeoutMs ≤
        now - w.lastHeartbeatTimestamp
  · rw [if_pos hQuarantine]
    by_cases hState : w.livenessState = .QUARANTINE_REQUIRED
    · rw [if_pos hState]
      simp [isDegraded, hState]
    · rw [if_neg hState]
      simp [isDegraded]
  · rw [if_neg hQuarantine, if_pos hAge]
    by_cases hState :
        w.livenessState = .DEGRADED ∨
          w.livenessState = .QUARANTINE_REQUIRED
    · rw [if_pos hState]
      rcases hState with hState | hState
      · simp [isDegraded, hState]
      · simp [isDegraded, hState]
    · rw [if_neg hState]
      simp [isDegraded]

/- No check closes an open breaker. -/
theorem checkLiveness_keeps_degraded
    (w : WatchdogMonitor)
    (now : Nat)
    (hOpen : w.isDegraded = true) :
    (w.checkLiveness now).1.isDegraded = true := by
  unfold checkLiveness
  by_cases hSeen : w.lastHeartbeatTimestamp = 0
  · rw [if_pos hSeen]
    exact hOpen
  · rw [if_neg hSeen]
    dsimp only
    split
    · split
      · exact hOpen
      · simp [isDegraded]
    · split
      · split
        · exact hOpen
        · simp [isDegraded]
      · split
        · split
          · rename_i hHealthy
            simp [isDegraded, hHealthy] at hOpen
          · exact hOpen
        · exact hOpen

end WatchdogMonitor

end ControlPlane
