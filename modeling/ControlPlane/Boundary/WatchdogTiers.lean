import ControlPlane.Boundary.Watchdog
import ControlPlane.Data.Run

/-
  The tiers of the liveness watchdog.

  A watchdog that has seen a heartbeat is at the tier of the
  time of its last look at the clock. A check moves it to
  the tier of the time elapsed at the check and reports the
  tier it moved to, so what it reports between two
  heartbeats only gets worse.

  Main declarations:
    * `WatchdogCall`, `WatchdogEvent` and `trace`
    * `tier` and `Current`
    * `checkLiveness_of_current`
    * `livenessState_tracks_heartbeats`
-/

------------------------------------------------------------
-- Calls And Emitted Events
------------------------------------------------------------

namespace ControlPlane

/- A call of the watchdog and the clock it reads. -/
inductive WatchdogCall where
| recordHeartbeat (now : Nat)
| checkLiveness (now : Nat)
deriving DecidableEq, Repr

def WatchdogCall.now : WatchdogCall → Nat
| .recordHeartbeat now => now
| .checkLiveness now => now

inductive WatchdogEvent where
| alert (report : WatchdogAlert)
| livenessRecovered
    (previousState : LivenessState)
    (timestamp : Nat)
| heartbeat
deriving DecidableEq, Repr

namespace WatchdogMonitor

/- The states that a heartbeat recovers from. -/
def alarmed (w : WatchdogMonitor) : Bool :=
  w.livenessState == .UNRESPONSIVE ||
    w.livenessState == .DEGRADED ||
    w.livenessState == .QUARANTINE_REQUIRED

def call
    (w : WatchdogMonitor) : WatchdogCall → WatchdogMonitor
| .recordHeartbeat now => w.recordHeartbeat now
| .checkLiveness now => (w.checkLiveness now).1

/- The events that a call emits, in order. -/
def emitted
    (w : WatchdogMonitor) :
    WatchdogCall → List WatchdogEvent
| .recordHeartbeat now =>
    (if w.alarmed then
      [.livenessRecovered w.livenessState now]
    else []) ++ [.heartbeat]
| .checkLiveness now =>
    (w.checkLiveness now).2.toList.map .alert

@[simp] theorem call_recordHeartbeat
    (w : WatchdogMonitor)
    (now : Nat) :
    w.call (.recordHeartbeat now) =
      w.recordHeartbeat now := rfl

@[simp] theorem call_checkLiveness
    (w : WatchdogMonitor)
    (now : Nat) :
    w.call (.checkLiveness now) =
      (w.checkLiveness now).1 := rfl

theorem emitted_check
    (w : WatchdogMonitor)
    (now : Nat) :
    w.emitted (.checkLiveness now) =
      (w.checkLiveness now).2.toList.map .alert := rfl

/- The events that a run of calls emits, in order. -/
def trace
    (w : WatchdogMonitor) :
    List WatchdogCall → List WatchdogEvent
| [] => []
| c :: calls => w.emitted c ++ (w.call c).trace calls

end WatchdogMonitor

------------------------------------------------------------
-- Tiers
------------------------------------------------------------

/- How bad a state is. -/
def LivenessState.rank : LivenessState → Nat
| .OFFLINE => 0
| .HEALTHY => 0
| .UNRESPONSIVE => 1
| .DEGRADED => 2
| .QUARANTINE_REQUIRED => 3

theorem LivenessState.eq_of_rank_three
    {state : LivenessState}
    (hRank : state.rank = 3) :
    state = .QUARANTINE_REQUIRED := by
  cases state with
  | OFFLINE => cases hRank
  | HEALTHY => cases hRank
  | UNRESPONSIVE => cases hRank
  | DEGRADED => cases hRank
  | QUARANTINE_REQUIRED => rfl

def WatchdogAlert.rank : WatchdogAlert → Nat
| .livenessWarning _ _ => 1
| .livenessDegraded _ _ => 2
| .quarantineRequired _ _ => 3

/- Events that are not alerts rank below all alerts. -/
def WatchdogEvent.rank : WatchdogEvent → Nat
| .alert report => report.rank
| .livenessRecovered _ _ => 0
| .heartbeat => 0

namespace WatchdogMonitor

/- The tier of a time elapsed since a heartbeat. -/
def tier
    (w : WatchdogMonitor)
    (elapsed : Nat) : LivenessState :=
  if w.quarantineTimeoutMs ≤ elapsed then
    .QUARANTINE_REQUIRED
  else if w.degradedTimeoutMs ≤ elapsed then
    .DEGRADED
  else if w.warningTimeoutMs ≤ elapsed then
    .UNRESPONSIVE
  else
    .HEALTHY

/- The tiers are positive and come in order. -/
structure Tiered (w : WatchdogMonitor) : Prop where
  warning_pos : 0 < w.warningTimeoutMs
  warning_le : w.warningTimeoutMs ≤ w.degradedTimeoutMs
  degraded_le :
    w.degradedTimeoutMs ≤ w.quarantineTimeoutMs

/- The watchdog is at the tier of a clock reading. -/
structure Current
    (w : WatchdogMonitor)
    (now : Nat) : Prop where
  seen : w.lastHeartbeatTimestamp ≠ 0
  state :
    w.livenessState =
      w.tier (now - w.lastHeartbeatTimestamp)

theorem tier_quarantine_iff
    (w : WatchdogMonitor)
    (elapsed : Nat) :
    w.tier elapsed = .QUARANTINE_REQUIRED ↔
      w.quarantineTimeoutMs ≤ elapsed := by
  unfold tier
  grind

theorem tier_zero
    {w : WatchdogMonitor}
    (hTiered : w.Tiered) :
    w.tier 0 = .HEALTHY := by
  have hWarning := hTiered.warning_pos
  have hDegraded := hTiered.warning_le
  have hQuarantine := hTiered.degraded_le
  unfold tier
  rw [if_neg (by omega), if_neg (by omega),
    if_neg (by omega)]

theorem tier_ne_offline
    (w : WatchdogMonitor)
    (elapsed : Nat) :
    w.tier elapsed ≠ .OFFLINE := by
  unfold tier
  grind

/- More time elapsed is never a better tier. -/
theorem rank_tier_mono
    {w : WatchdogMonitor}
    (hTiered : w.Tiered)
    {first second : Nat}
    (hLe : first ≤ second) :
    (w.tier first).rank ≤ (w.tier second).rank := by
  have hDegraded := hTiered.warning_le
  have hQuarantine := hTiered.degraded_le
  unfold tier LivenessState.rank
  grind

/- Tiers of the same rank are the same tier. -/
theorem tier_eq_of_rank_eq
    (w : WatchdogMonitor)
    {first second : Nat}
    (hRank :
      (w.tier first).rank = (w.tier second).rank) :
    w.tier first = w.tier second := by
  unfold tier LivenessState.rank at *
  grind

------------------------------------------------------------
-- One Call
------------------------------------------------------------

/- The alert that goes with entering a tier. -/
def alertFor
    (elapsed lastSeen : Nat) :
    LivenessState → Option WatchdogAlert
| .OFFLINE => none
| .HEALTHY => none
| .UNRESPONSIVE => some (.livenessWarning elapsed lastSeen)
| .DEGRADED => some (.livenessDegraded elapsed lastSeen)
| .QUARANTINE_REQUIRED =>
    some (.quarantineRequired elapsed lastSeen)

theorem rank_alertFor
    {elapsed lastSeen : Nat}
    {state : LivenessState}
    {report : WatchdogAlert}
    (hReport :
      alertFor elapsed lastSeen state = some report) :
    report.rank = state.rank := by
  cases state with
  | OFFLINE => cases hReport
  | HEALTHY => cases hReport
  | UNRESPONSIVE =>
      cases hReport
      rfl
  | DEGRADED =>
      cases hReport
      rfl
  | QUARANTINE_REQUIRED =>
      cases hReport
      rfl

theorem exists_alertFor
    (elapsed lastSeen : Nat)
    {state : LivenessState}
    (hAlarm : 0 < state.rank) :
    ∃ report,
      alertFor elapsed lastSeen state = some report := by
  cases state with
  | OFFLINE => exact absurd hAlarm (Nat.lt_irrefl 0)
  | HEALTHY => exact absurd hAlarm (Nat.lt_irrefl 0)
  | UNRESPONSIVE => exact ⟨_, rfl⟩
  | DEGRADED => exact ⟨_, rfl⟩
  | QUARANTINE_REQUIRED => exact ⟨_, rfl⟩

/- A later reading is never in a better tier. -/
theorem Current.rank_le_tier
    {w : WatchdogMonitor}
    {before now : Nat}
    (hCurrent : w.Current before)
    (hTiered : w.Tiered)
    (hLe : before ≤ now) :
    w.livenessState.rank ≤
      (w.tier (now - w.lastHeartbeatTimestamp)).rank := by
  rw [hCurrent.state]
  exact rank_tier_mono hTiered (Nat.sub_le_sub_right hLe _)

/- A later reading in another tier is in a worse one. -/
theorem Current.rank_lt_tier
    {w : WatchdogMonitor}
    {before now : Nat}
    (hCurrent : w.Current before)
    (hTiered : w.Tiered)
    (hLe : before ≤ now)
    (hOther :
      w.livenessState ≠
        w.tier (now - w.lastHeartbeatTimestamp)) :
    w.livenessState.rank <
      (w.tier (now - w.lastHeartbeatTimestamp)).rank := by
  refine Nat.lt_of_le_of_ne
    (hCurrent.rank_le_tier hTiered hLe) ?_
  intro hEq
  rw [hCurrent.state] at hEq hOther
  exact hOther (w.tier_eq_of_rank_eq hEq)

/-
  A check at a later reading moves to the tier of that
  reading, and reports it exactly when it is another one.
-/
theorem checkLiveness_of_current
    {w : WatchdogMonitor}
    (hTiered : w.Tiered)
    {before now : Nat}
    (hCurrent : w.Current before)
    (hLe : before ≤ now) :
    w.checkLiveness now =
      ({ w with
          livenessState :=
            w.tier (now - w.lastHeartbeatTimestamp) },
        if w.livenessState =
            w.tier (now - w.lastHeartbeatTimestamp) then
          none
        else
          alertFor (now - w.lastHeartbeatTimestamp)
            w.lastHeartbeatTimestamp
            (w.tier (now - w.lastHeartbeatTimestamp))) := by
  have hRank := hCurrent.rank_le_tier hTiered hLe
  have hSeen := hCurrent.seen
  have hOnline : w.livenessState ≠ .OFFLINE := by
    rw [hCurrent.state]
    exact w.tier_ne_offline _
  rcases w with
    ⟨warning, degraded, quarantine, state, last, timer⟩
  unfold checkLiveness tier alertFor
  unfold tier LivenessState.rank at hRank
  dsimp only at hRank hSeen hOnline ⊢
  rw [if_neg hSeen]
  cases state with
  | OFFLINE => exact absurd rfl hOnline
  | HEALTHY => grind
  | UNRESPONSIVE => grind
  | DEGRADED => grind
  | QUARANTINE_REQUIRED => grind

theorem tiered_call
    {w : WatchdogMonitor}
    (hTiered : w.Tiered)
    (c : WatchdogCall) :
    (w.call c).Tiered := by
  cases c with
  | recordHeartbeat now =>
      exact ⟨hTiered.warning_pos, hTiered.warning_le,
        hTiered.degraded_le⟩
  | checkLiveness now =>
      rcases w.checkLiveness_frame now with ⟨state, hState⟩
      rw [call_checkLiveness, hState]
      exact ⟨hTiered.warning_pos, hTiered.warning_le,
        hTiered.degraded_le⟩

theorem tier_call
    (w : WatchdogMonitor)
    (c : WatchdogCall) :
    (w.call c).tier = w.tier := by
  cases c with
  | recordHeartbeat now => rfl
  | checkLiveness now =>
      rcases w.checkLiveness_frame now with ⟨state, hState⟩
      rw [call_checkLiveness, hState]
      rfl

/- A heartbeat is current at its own time. -/
theorem current_recordHeartbeat
    {w : WatchdogMonitor}
    (hTiered : w.Tiered)
    {now : Nat}
    (hPos : 0 < now) :
    (w.call (.recordHeartbeat now)).Current now := by
  constructor
  · exact Nat.pos_iff_ne_zero.mp hPos
  · change LivenessState.HEALTHY = w.tier (now - now)
    rw [Nat.sub_self, tier_zero hTiered]

theorem current_checkLiveness
    {w : WatchdogMonitor}
    (hTiered : w.Tiered)
    {before now : Nat}
    (hCurrent : w.Current before)
    (hLe : before ≤ now) :
    (w.call (.checkLiveness now)).Current now := by
  rw [call_checkLiveness,
    checkLiveness_of_current hTiered hCurrent hLe]
  exact ⟨hCurrent.seen, rfl⟩

/- A check at a later reading is in the tier of the reading. -/
theorem state_checkLiveness
    {w : WatchdogMonitor}
    (hTiered : w.Tiered)
    {before now : Nat}
    (hCurrent : w.Current before)
    (hLe : before ≤ now) :
    (w.call (.checkLiveness now)).livenessState =
      w.tier (now - w.lastHeartbeatTimestamp) := by
  rw [call_checkLiveness,
    checkLiveness_of_current hTiered hCurrent hLe]

/- A check that stays in its tier is quiet. -/
theorem emitted_of_same
    {w : WatchdogMonitor}
    (hTiered : w.Tiered)
    {before now : Nat}
    (hCurrent : w.Current before)
    (hLe : before ≤ now)
    (hSame :
      w.livenessState =
        w.tier (now - w.lastHeartbeatTimestamp)) :
    w.emitted (.checkLiveness now) = [] := by
  rw [emitted_check,
    checkLiveness_of_current hTiered hCurrent hLe]
  dsimp only
  rw [if_pos hSame]
  rfl

/- The events of a check are alerts of the tier entered. -/
theorem emitted_of_current
    {w : WatchdogMonitor}
    (hTiered : w.Tiered)
    {before now : Nat}
    (hCurrent : w.Current before)
    (hLe : before ≤ now)
    {event : WatchdogEvent}
    (hEvent : event ∈ w.emitted (.checkLiveness now)) :
    (∃ report, event = .alert report) ∧
      event.rank =
        (w.tier (now - w.lastHeartbeatTimestamp)).rank ∧
      w.livenessState.rank < event.rank := by
  by_cases hSame :
      w.livenessState =
        w.tier (now - w.lastHeartbeatTimestamp)
  · rw [emitted_of_same hTiered hCurrent hLe hSame] at hEvent
    cases hEvent
  · rw [emitted_check,
      checkLiveness_of_current hTiered hCurrent hLe] at hEvent
    rcases List.mem_map.mp hEvent with
      ⟨report, hReport, rfl⟩
    dsimp only at hReport
    rw [if_neg hSame] at hReport
    have hRank :=
      rank_alertFor (Option.mem_toList.mp hReport)
    refine ⟨⟨report, rfl⟩, hRank, ?_⟩
    change w.livenessState.rank < report.rank
    rw [hRank]
    exact hCurrent.rank_lt_tier hTiered hLe hSame

/- A check that enters another tier reports it. -/
theorem emitted_ne_nil
    {w : WatchdogMonitor}
    (hTiered : w.Tiered)
    {before now : Nat}
    (hCurrent : w.Current before)
    (hLe : before ≤ now)
    (hOther :
      w.livenessState ≠
        w.tier (now - w.lastHeartbeatTimestamp))
    (hAlarm :
      0 <
        (w.tier (now - w.lastHeartbeatTimestamp)).rank) :
    ∃ report,
      w.emitted (.checkLiveness now) = [.alert report] ∧
        alertFor (now - w.lastHeartbeatTimestamp)
          w.lastHeartbeatTimestamp
          (w.tier (now - w.lastHeartbeatTimestamp)) =
            some report := by
  rcases exists_alertFor
      (now - w.lastHeartbeatTimestamp)
      w.lastHeartbeatTimestamp hAlarm with
    ⟨report, hReport⟩
  refine ⟨report, ?_, hReport⟩
  rw [emitted_check,
    checkLiveness_of_current hTiered hCurrent hLe]
  dsimp only
  rw [if_neg hOther, hReport]
  rfl

------------------------------------------------------------
-- Runs Of Checks
------------------------------------------------------------

/- The calls of a run of checks at the given readings. -/
def checks
    (readings : List Nat) : List WatchdogCall :=
  readings.map .checkLiveness

theorem tiered_run
    {w : WatchdogMonitor}
    (hTiered : w.Tiered)
    (calls : List WatchdogCall) :
    (run call w calls).Tiered := by
  have hStep :
      ∀ (v : WatchdogMonitor) (c : WatchdogCall),
        v.Tiered → (v.call c).Tiered :=
    fun _ c hKept => tiered_call hKept c
  exact run_keeps hStep calls hTiered

theorem tier_run
    (w : WatchdogMonitor)
    (calls : List WatchdogCall) :
    (run call w calls).tier = w.tier := by
  induction calls generalizing w with
  | nil => rfl
  | cons c calls ih =>
      rw [run_cons, ih, tier_call]

theorem lastHeartbeatTimestamp_checkLiveness
    (w : WatchdogMonitor)
    (now : Nat) :
    (w.checkLiveness now).1.lastHeartbeatTimestamp =
      w.lastHeartbeatTimestamp := by
  rcases w.checkLiveness_frame now with ⟨state, hState⟩
  rw [hState]

theorem lastHeartbeatTimestamp_run_checks
    (w : WatchdogMonitor)
    (readings : List Nat) :
    (run call w (checks readings)).lastHeartbeatTimestamp =
      w.lastHeartbeatTimestamp := by
  induction readings generalizing w with
  | nil => rfl
  | cons now readings ih =>
      exact (ih (w.checkLiveness now).1).trans
        (w.lastHeartbeatTimestamp_checkLiveness now)

/-
  After checks at later and later readings the watchdog is
  current at the latest of them.
-/
theorem current_run_checks
    {w : WatchdogMonitor}
    (hTiered : w.Tiered)
    {before : Nat}
    (hCurrent : w.Current before)
    {readings : List Nat}
    (hClock : (before :: readings).Pairwise (· ≤ ·)) :
    ∃ latest ∈ before :: readings,
      (run call w (checks readings)).Current latest ∧
        ∀ now ∈ before :: readings, now ≤ latest := by
  induction readings generalizing w before with
  | nil =>
      refine ⟨before, List.mem_singleton.mpr rfl,
        hCurrent, ?_⟩
      intro now hNow
      exact Nat.le_of_eq (List.mem_singleton.mp hNow)
  | cons now readings ih =>
      rw [List.pairwise_cons] at hClock
      have hLe : before ≤ now :=
        hClock.1 now List.mem_cons_self
      rcases ih (tiered_call hTiered _)
          (current_checkLiveness hTiered hCurrent hLe)
          hClock.2 with
        ⟨latest, hLatest, hNext, hAll⟩
      refine ⟨latest, List.mem_cons_of_mem _ hLatest,
        hNext, ?_⟩
      intro reading hReading
      rcases List.mem_cons.mp hReading with rfl | hRest
      · exact Nat.le_trans hLe
          (hAll now List.mem_cons_self)
      · exact hAll reading hRest

/- A check emits at most one event. -/
theorem emitted_check_sorted
    (w : WatchdogMonitor)
    (now : Nat) :
    ((w.emitted (.checkLiveness now)).map
      WatchdogEvent.rank).Pairwise (· < ·) := by
  rw [emitted_check]
  cases (w.checkLiveness now).2 with
  | none => exact List.Pairwise.nil
  | some report => exact List.pairwise_singleton _ _

/-
  The events of checks at later and later readings are
  alerts above the tier at the start, each above the last.
-/
theorem trace_checks
    {w : WatchdogMonitor}
    (hTiered : w.Tiered)
    {before : Nat}
    (hCurrent : w.Current before)
    {readings : List Nat}
    (hClock : (before :: readings).Pairwise (· ≤ ·)) :
    (∀ event ∈ w.trace (checks readings),
      (∃ report, event = .alert report) ∧
        w.livenessState.rank < event.rank) ∧
      ((w.trace (checks readings)).map
        WatchdogEvent.rank).Pairwise (· < ·) := by
  induction readings generalizing w before with
  | nil => exact ⟨by simp [checks, trace], List.Pairwise.nil⟩
  | cons now readings ih =>
      rw [List.pairwise_cons] at hClock
      have hLe : before ≤ now :=
        hClock.1 now List.mem_cons_self
      rcases ih (tiered_call hTiered _)
          (current_checkLiveness hTiered hCurrent hLe)
          hClock.2 with
        ⟨hLater, hSorted⟩
      have hFirst :
          ∀ event ∈ w.emitted (.checkLiveness now),
            (∃ report, event = .alert report) ∧
              event.rank =
                (w.tier
                  (now - w.lastHeartbeatTimestamp)).rank ∧
              w.livenessState.rank < event.rank :=
        fun _ hEvent =>
          emitted_of_current hTiered hCurrent hLe hEvent
      have hMono := hCurrent.rank_le_tier hTiered hLe
      rw [state_checkLiveness hTiered hCurrent hLe] at hLater
      change
        (∀ event ∈ w.emitted (.checkLiveness now) ++
            (w.call (.checkLiveness now)).trace
              (checks readings), _) ∧
          ((w.emitted (.checkLiveness now) ++
            (w.call (.checkLiveness now)).trace
              (checks readings)).map _).Pairwise _
      constructor
      · intro event hEvent
        rcases List.mem_append.mp hEvent with hNow | hRest
        · have hAlert := hFirst event hNow
          exact ⟨hAlert.1, hAlert.2.2⟩
        · have hAlert := hLater event hRest
          exact ⟨hAlert.1,
            Nat.lt_of_le_of_lt hMono hAlert.2⟩
      · rw [List.map_append, List.pairwise_append]
        refine ⟨emitted_check_sorted w now, hSorted, ?_⟩
        intro first hFirstRank second hSecondRank
        rcases List.mem_map.mp hFirstRank with
          ⟨event, hEvent, rfl⟩
        rcases List.mem_map.mp hSecondRank with
          ⟨later, hRest, rfl⟩
        rw [(hFirst event hEvent).2.1]
        exact (hLater later hRest).2

/- Checks at later and later readings only get worse. -/
theorem rank_run_checks
    {w : WatchdogMonitor}
    (hTiered : w.Tiered)
    {before : Nat}
    (hCurrent : w.Current before)
    {readings : List Nat}
    (hClock : (before :: readings).Pairwise (· ≤ ·)) :
    w.livenessState.rank ≤
      (run call w (checks readings)).livenessState.rank := by
  rcases current_run_checks hTiered hCurrent hClock with
    ⟨latest, -, hLatest, hAll⟩
  rw [hLatest.state, hCurrent.state, tier_run,
    lastHeartbeatTimestamp_run_checks]
  exact rank_tier_mono hTiered
    (Nat.sub_le_sub_right
      (hAll before List.mem_cons_self) _)

/- Checks report something exactly when they get worse. -/
theorem exists_alert_iff
    {w : WatchdogMonitor}
    (hTiered : w.Tiered)
    {before : Nat}
    (hCurrent : w.Current before)
    {readings : List Nat}
    (hClock : (before :: readings).Pairwise (· ≤ ·)) :
    (∃ report,
      WatchdogEvent.alert report ∈
        w.trace (checks readings)) ↔
      w.livenessState.rank <
        (run call w
          (checks readings)).livenessState.rank := by
  induction readings generalizing w before with
  | nil => simp [checks, trace]
  | cons now readings ih =>
      rw [List.pairwise_cons] at hClock
      have hLe : before ≤ now :=
        hClock.1 now List.mem_cons_self
      have hNext :=
        current_checkLiveness hTiered hCurrent hLe
      have hMove := state_checkLiveness hTiered hCurrent hLe
      have hRest :=
        ih (tiered_call hTiered _) hNext hClock.2
      have hWorse :=
        rank_run_checks (tiered_call hTiered _) hNext
          hClock.2
      change
        (∃ report,
          WatchdogEvent.alert report ∈
            w.emitted (.checkLiveness now) ++
              (w.call (.checkLiveness now)).trace
                (checks readings)) ↔
          w.livenessState.rank <
            (run call (w.call (.checkLiveness now))
              (checks readings)).livenessState.rank
      by_cases hSame :
          w.livenessState =
            w.tier (now - w.lastHeartbeatTimestamp)
      · have hQuiet :=
          emitted_of_same hTiered hCurrent hLe hSame
        rw [hQuiet, List.nil_append, hRest, hMove, ← hSame]
      · have hRank :=
          hCurrent.rank_lt_tier hTiered hLe hSame
        rcases emitted_ne_nil hTiered hCurrent hLe hSame
            (Nat.lt_of_le_of_lt (Nat.zero_le _) hRank) with
          ⟨report, hEmitted, -⟩
        rw [hMove] at hWorse
        constructor
        · intro _
          exact Nat.lt_of_lt_of_le hRank hWorse
        · intro _
          refine ⟨report, ?_⟩
          rw [hEmitted]
          exact List.mem_append_left _
            (List.mem_singleton.mpr rfl)

------------------------------------------------------------
-- The Liveness Law
------------------------------------------------------------

/-
  What a watchdog that starts without a heartbeat does over
  a run of calls. The readings of the checks between two
  heartbeats are given in order.
-/
structure LivenessLaw
    (w : WatchdogMonitor)
    (calls : List WatchdogCall) : Prop where
  exact_tier :
    ∀ past seen readings now future,
      calls =
          past ++ .recordHeartbeat seen ::
            (checks readings ++
              .checkLiveness now :: future) →
        (run call w.reset
          (past ++ .recordHeartbeat seen ::
            (checks readings ++
              [.checkLiveness now]))).livenessState =
          w.tier (now - seen)
  alerts_in_order :
    ∀ past seen readings future,
      calls =
          past ++ .recordHeartbeat seen ::
            (checks readings ++ future) →
        (∀ event ∈
            (run call w.reset
              (past ++ [.recordHeartbeat seen])).trace
                (checks readings),
          ∃ report, event = .alert report) ∧
        (((run call w.reset
          (past ++ [.recordHeartbeat seen])).trace
            (checks readings)).map
              WatchdogEvent.rank).Pairwise (· < ·)
  quarantine_at_first :
    ∀ past seen readings now future,
      calls =
          past ++ .recordHeartbeat seen ::
            (checks readings ++
              .checkLiveness now :: future) →
        ((∃ elapsed lastSeen,
          WatchdogEvent.alert
              (.quarantineRequired elapsed lastSeen) ∈
            (run call w.reset
              (past ++ .recordHeartbeat seen ::
                checks readings)).emitted
                  (.checkLiveness now)) ↔
          w.quarantineTimeoutMs ≤ now - seen ∧
            ∀ reading ∈ readings,
              reading - seen < w.quarantineTimeoutMs)
  recovered_iff :
    ∀ past seen readings now future,
      calls =
          past ++ .recordHeartbeat seen ::
            (checks readings ++
              .recordHeartbeat now :: future) →
        ((∃ previousState timestamp,
          WatchdogEvent.livenessRecovered
              previousState timestamp ∈
            (run call w.reset
              (past ++ .recordHeartbeat seen ::
                checks readings)).emitted
                  (.recordHeartbeat now)) ↔
          ∃ report,
            WatchdogEvent.alert report ∈
              (run call w.reset
                (past ++ [.recordHeartbeat seen])).trace
                  (checks readings))
  quiet_at_start :
    ∀ readings now future,
      calls =
          checks readings ++
            .recordHeartbeat now :: future →
        w.reset.trace
            (checks readings ++ [.recordHeartbeat now]) =
          [.heartbeat]

/- The state after a heartbeat and checks that follow it. -/
theorem after_heartbeat
    {w : WatchdogMonitor}
    (hTiered : w.Tiered)
    {calls past future : List WatchdogCall}
    {seen : Nat}
    (hPos : ∀ c ∈ calls, 0 < c.now)
    (hClock :
      (calls.map WatchdogCall.now).Pairwise (· ≤ ·))
    {readings : List Nat}
    (hCalls :
      calls =
        past ++ .recordHeartbeat seen ::
          (checks readings ++ future)) :
    (run call w.reset
        (past ++ [.recordHeartbeat seen])).Tiered ∧
      (run call w.reset
        (past ++ [.recordHeartbeat seen])).Current seen ∧
      (seen :: readings).Pairwise (· ≤ ·) := by
  have hAll : (run call w.reset past).Tiered :=
    tiered_run (w := w.reset)
      ⟨hTiered.warning_pos, hTiered.warning_le,
        hTiered.degraded_le⟩ past
  have hSeen : 0 < seen := by
    apply hPos (.recordHeartbeat seen)
    rw [hCalls]
    simp
  rw [run_append]
  refine ⟨tiered_call hAll (.recordHeartbeat seen),
    current_recordHeartbeat hAll hSeen, ?_⟩
  rw [hCalls, List.map_append, List.pairwise_append]
    at hClock
  have hRest := hClock.2.1
  rw [List.map_cons, List.map_append,
    ← List.cons_append, List.pairwise_append] at hRest
  have hReadings :
      (checks readings).map WatchdogCall.now = readings := by
    rw [checks, List.map_map]
    exact List.map_id readings
  rw [hReadings] at hRest
  exact hRest.1

theorem run_after_heartbeat
    (w : WatchdogMonitor)
    (past calls : List WatchdogCall)
    (seen : Nat) :
    run call w
        (past ++ .recordHeartbeat seen :: calls) =
      run call
        (run call w (past ++ [.recordHeartbeat seen]))
        calls := by
  rw [← run_append, List.append_assoc,
    List.singleton_append]

theorem heartbeat_recorded
    (w : WatchdogMonitor)
    (past : List WatchdogCall)
    (seen : Nat) :
    (run call w.reset (past ++ [.recordHeartbeat seen])
        ).lastHeartbeatTimestamp = seen ∧
      (run call w.reset (past ++ [.recordHeartbeat seen])
        ).livenessState = .HEALTHY ∧
      (run call w.reset (past ++ [.recordHeartbeat seen])
        ).tier = w.tier := by
  refine ⟨?_, ?_, ?_⟩
  · rw [run_append]
    rfl
  · rw [run_append]
    rfl
  · rw [tier_run]
    rfl

/- A check after a heartbeat, and the one before it. -/
theorem before_check
    {v : WatchdogMonitor}
    (hTiered : v.Tiered)
    {seen : Nat}
    (hCurrent : v.Current seen)
    {readings : List Nat}
    {now : Nat}
    (hClock :
      (seen :: (readings ++ [now])).Pairwise (· ≤ ·)) :
    ∃ latest ∈ seen :: readings,
      (run call v (checks readings)).Current latest ∧
        latest ≤ now ∧
        ∀ reading ∈ seen :: readings,
          reading ≤ latest := by
  rw [← List.cons_append, List.pairwise_append] at hClock
  rcases current_run_checks hTiered hCurrent hClock.1 with
    ⟨latest, hMem, hLatest, hAll⟩
  exact ⟨latest, hMem, hLatest,
    hClock.2.2 latest hMem now
      (List.mem_singleton.mpr rfl), hAll⟩

/- A check reports the quarantine when it enters it. -/
theorem quarantine_emitted_iff
    {w : WatchdogMonitor}
    (hTiered : w.Tiered)
    {before now : Nat}
    (hCurrent : w.Current before)
    (hLe : before ≤ now) :
    (∃ elapsed lastSeen,
      WatchdogEvent.alert
          (.quarantineRequired elapsed lastSeen) ∈
        w.emitted (.checkLiveness now)) ↔
      w.tier (now - w.lastHeartbeatTimestamp) =
          .QUARANTINE_REQUIRED ∧
        w.tier (before - w.lastHeartbeatTimestamp) ≠
          .QUARANTINE_REQUIRED := by
  constructor
  · intro hEmitted
    rcases hEmitted with ⟨elapsed, lastSeen, hEvent⟩
    have hAlert :=
      emitted_of_current hTiered hCurrent hLe hEvent
    rw [hCurrent.state] at hAlert
    have hRank :
        (w.tier (now - w.lastHeartbeatTimestamp)).rank =
          3 := hAlert.2.1.symm
    refine ⟨LivenessState.eq_of_rank_three hRank, ?_⟩
    intro hBefore
    rw [hBefore] at hAlert
    exact Nat.lt_irrefl 3 hAlert.2.2
  · intro hEnters
    have hOther :
        w.livenessState ≠
          w.tier (now - w.lastHeartbeatTimestamp) := by
      rw [hCurrent.state, hEnters.1]
      exact hEnters.2
    rcases emitted_ne_nil hTiered hCurrent hLe hOther
        (by rw [hEnters.1]; decide) with
      ⟨report, hEmitted, hReport⟩
    rw [hEnters.1] at hReport
    refine ⟨now - w.lastHeartbeatTimestamp,
      w.lastHeartbeatTimestamp, ?_⟩
    rw [hEmitted, ← Option.some.inj hReport]
    exact List.mem_singleton.mpr rfl

/- A heartbeat recovers from exactly the alerted tiers. -/
theorem recovered_emitted_iff
    (w : WatchdogMonitor)
    (now : Nat) :
    (∃ previousState timestamp,
      WatchdogEvent.livenessRecovered
          previousState timestamp ∈
        w.emitted (.recordHeartbeat now)) ↔
      0 < w.livenessState.rank := by
  unfold emitted alarmed
  cases w.livenessState with
  | OFFLINE => simp [LivenessState.rank]
  | HEALTHY => simp [LivenessState.rank]
  | UNRESPONSIVE => simp [LivenessState.rank]
  | DEGRADED => simp [LivenessState.rank]
  | QUARANTINE_REQUIRED => simp [LivenessState.rank]

/- Checks before the first heartbeat do nothing. -/
theorem trace_checks_unseen
    (w : WatchdogMonitor)
    (hUnseen : w.lastHeartbeatTimestamp = 0)
    (readings : List Nat)
    (calls : List WatchdogCall) :
    w.trace (checks readings ++ calls) = w.trace calls := by
  induction readings with
  | nil => rfl
  | cons now readings ih =>
      have hCheck : w.checkLiveness now = (w, none) := by
        unfold checkLiveness
        rw [if_pos hUnseen]
      change
        w.emitted (.checkLiveness now) ++
            (w.call (.checkLiveness now)).trace
              (checks readings ++ calls) =
          w.trace calls
      rw [emitted_check, call_checkLiveness, hCheck]
      exact ih

theorem livenessState_tracks_heartbeats
    (w : WatchdogMonitor)
    (hTiered : w.Tiered)
    (calls : List WatchdogCall)
    (hPos : ∀ c ∈ calls, 0 < c.now)
    (hClock :
      (calls.map WatchdogCall.now).Pairwise (· ≤ ·)) :
    LivenessLaw w calls := by
  constructor
  case exact_tier =>
    intro past seen readings now future hCalls
    have hSplit :
        calls =
          past ++ .recordHeartbeat seen ::
            (checks (readings ++ [now]) ++ future) := by
      rw [hCalls]
      simp [checks]
    rcases after_heartbeat hTiered hPos hClock hSplit with
      ⟨hKept, hCurrent, hSorted⟩
    rcases before_check hKept hCurrent hSorted with
      ⟨latest, -, hLatest, hLe, -⟩
    have hNow :=
      current_checkLiveness
        (tiered_run hKept _) hLatest hLe
    rw [run_after_heartbeat, run_append]
    change
      ((run call _ (checks readings)).call
        (.checkLiveness now)).livenessState = _
    rw [hNow.state, tier_call, tier_run,
      (heartbeat_recorded w past seen).2.2,
      call_checkLiveness,
      lastHeartbeatTimestamp_checkLiveness,
      lastHeartbeatTimestamp_run_checks,
      (heartbeat_recorded w past seen).1]
  case alerts_in_order =>
    intro past seen readings future hCalls
    rcases after_heartbeat hTiered hPos hClock hCalls with
      ⟨hKept, hCurrent, hSorted⟩
    rcases trace_checks hKept hCurrent hSorted with
      ⟨hAlerts, hOrder⟩
    exact ⟨fun event hEvent => (hAlerts event hEvent).1,
      hOrder⟩
  case quarantine_at_first =>
    intro past seen readings now future hCalls
    have hSplit :
        calls =
          past ++ .recordHeartbeat seen ::
            (checks (readings ++ [now]) ++ future) := by
      rw [hCalls]
      simp [checks]
    rcases after_heartbeat hTiered hPos hClock hSplit with
      ⟨hKept, hCurrent, hSorted⟩
    rcases before_check hKept hCurrent hSorted with
      ⟨latest, hMem, hLatest, hLe, hAll⟩
    rw [run_after_heartbeat,
      quarantine_emitted_iff (tiered_run hKept _)
        hLatest hLe,
      tier_run, (heartbeat_recorded w past seen).2.2,
      lastHeartbeatTimestamp_run_checks,
      (heartbeat_recorded w past seen).1,
      tier_quarantine_iff, Ne, tier_quarantine_iff,
      Nat.not_le]
    apply and_congr_right
    intro _
    constructor
    · intro hBefore reading hReading
      have hReadingLe :=
        hAll reading (List.mem_cons_of_mem _ hReading)
      omega
    · intro hBefore
      rcases List.mem_cons.mp hMem with hEq | hReading
      · have hWarning := hTiered.warning_pos
        have hDegraded := hTiered.warning_le
        have hQuarantine := hTiered.degraded_le
        omega
      · exact hBefore latest hReading
  case recovered_iff =>
    intro past seen readings now future hCalls
    rcases after_heartbeat hTiered hPos hClock hCalls with
      ⟨hKept, hCurrent, hSorted⟩
    rw [run_after_heartbeat, recovered_emitted_iff,
      exists_alert_iff hKept hCurrent hSorted,
      (heartbeat_recorded w past seen).2.1]
    exact Iff.rfl
  case quiet_at_start =>
    intro readings now future _
    rw [trace_checks_unseen w.reset rfl]
    rfl

/- Two checks that skip to the quarantine, and a recovery. -/
theorem liveness_law_of_skipped_tiers :
    (WatchdogMonitor.fresh 6000 12000 25000).Tiered ∧
      LivenessLaw (.fresh 6000 12000 25000)
        [.checkLiveness 1, .recordHeartbeat 10,
          .checkLiveness 6010, .checkLiveness 25010,
          .recordHeartbeat 25011] := by
  have hTiered :
      (WatchdogMonitor.fresh 6000 12000 25000).Tiered :=
    ⟨by decide, by decide, by decide⟩
  exact ⟨hTiered,
    livenessState_tracks_heartbeats _ hTiered _
      (by decide) (by decide)⟩

end WatchdogMonitor

end ControlPlane
