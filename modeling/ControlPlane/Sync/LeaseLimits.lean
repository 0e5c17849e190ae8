import ControlPlane.Sync.GraceLease

/-
  Limits of the offline grace lease.

  Without a pull from the backend the lease is not extended
  as long as the row of the billing group is not behind the
  time stamp that it will replace, and no clock is set to
  before what has been shown already.

  Main declarations:
    * `SyncService.NotExtended`
    * `SyncService.KeepsLease`
    * `SyncService.Kept` and `SyncService.kept_step`
    * `SyncService.lease_not_extended`
-/

------------------------------------------------------------
-- Leases That Are Not Extended
------------------------------------------------------------

namespace ControlPlane

namespace SyncService

/-
  The lease of the later state does not expire later, and
  there is none if the time was over in the earlier one.
-/
def NotExtended (s next : SyncService) : Prop :=
  (∀ lease later,
    s.getOfflineGraceLease = .ok lease →
      next.getOfflineGraceLease = .ok later →
        later.expiresAt ≤ lease.expiresAt) ∧
    ∀ denial later,
      s.getOfflineGraceLease = .error denial →
        denial.isElapsed = true →
          next.getOfflineGraceLease ≠ .ok later

/- The lease is not extended between any two states. -/
def LeaseNotExtended
    (s : SyncService)
    (events : List SyncEvent) : Prop :=
  ∀ before middle after,
    events = before ++ middle ++ after →
      NotExtended (run step s before)
        (run step s (before ++ middle))

theorem of_granted
    {s : SyncService}
    {lease : OfflineGraceLease}
    (hLease : s.getOfflineGraceLease = .ok lease) :
    s.timerElapsed = false ∧
      ∃ timestamp ∈ s.syncTimestamp,
        lease.expiresAt = timestamp + maxGraceMs ∧
          ∃ time ∈ s.clock.now s.hrtime,
            time < timestamp + maxGraceMs := by
  rcases granted_iff.mp hLease with
    ⟨hCertain, _, timestamp, hTimestamp, hTimer, _, hLeft, rfl⟩
  exact ⟨hTimer, timestamp, hTimestamp, rfl, _,
    (s.clock.now_eq_some_iff _ _).mpr ⟨hCertain, rfl⟩, hLeft⟩

theorem of_elapsed
    {s : SyncService}
    {denial : LeaseDenial}
    (hLease : s.getOfflineGraceLease = .error denial)
    (hElapsed : denial.isElapsed = true) :
    s.timerElapsed = true ∨
      ∃ timestamp ∈ s.syncTimestamp,
        ∃ time ∈ s.clock.now s.hrtime,
          timestamp + maxGraceMs ≤ time := by
  unfold getOfflineGraceLease at hLease
  split at hLease
  · cases hLease
    cases hElapsed
  · rename_i hCertain
    split at hLease
    · rename_i other hToken
      cases hLease
      unfold tokenDenial at hToken
      split at hToken <;> split at hToken <;> cases hToken <;>
        cases hElapsed
    · split at hLease
      · cases hLease
        cases hElapsed
      · rename_i timestamp hTimestamp
        unfold leaseFrom at hLease
        dsimp only at hLease
        split at hLease
        · cases hLease
          cases hElapsed
        · split at hLease
          · rename_i hTimer
            exact .inl hTimer
          · split at hLease
            · rename_i hLeft
              refine .inr ⟨timestamp, hTimestamp, _,
                (s.clock.now_eq_some_iff _ _).mpr
                  ⟨by simpa using hCertain, rfl⟩, ?_⟩
              omega
            · cases hLease

------------------------------------------------------------
-- Conditions
------------------------------------------------------------

/- A mutation of the billing group that is accepted. -/
def MarksBilling
    (s : SyncService) : Store.StoreEvent → Prop
| .mutate mutation =>
    mutation.group = .billing ∧
      (s.store.mutate mutation s.wall).1 = none
| _ => False

instance MarksBilling.decidable
    (s : SyncService)
    (event : Store.StoreEvent) :
    Decidable (s.MarksBilling event) := by
  cases event <;> unfold MarksBilling <;> infer_instance

/- The row is not later than the time stamp in memory. -/
def RowNotLater (s : SyncService) : Prop :=
  ∀ row ∈ s.billingValidatedAt,
    ∀ timestamp ∈ s.lastSyncTimestamp, row ≤ timestamp

/-
  If two hours have elapsed by the timer, then they have by
  the clock, counted from the row.
-/
def TimerNotAhead (s : SyncService) : Prop :=
  s.timerElapsed = true →
    ∀ row ∈ s.billingValidatedAt, row + maxGraceMs ≤ s.shown

/-
  The clock of a new process finds a rollback, or it is not
  behind what was shown before.
-/
def StartsInTime
    (s : SyncService)
    (wall : Int) : Prop :=
  (∃ anchor ∈ s.clock.storedAnchor, wall < anchor) ∨
    s.shown ≤ wall

/- An event that does not extend the lease. -/
def KeepsLease
    (s : SyncService) : SyncEvent → Prop
| .store event =>
    s.MarksBilling event → s.lastSyncTimestamp = none →
      ∃ row ∈ s.billingValidatedAt, s.wall ≤ row
| .login _ =>
    s.clock.accepts s.wall = true → s.shown ≤ s.wall
| .initializeOffline => s.RowNotLater
| .logout => s.RowNotLater ∧ s.TimerNotAhead
| .restart wall _ =>
    s.RowNotLater ∧ s.TimerNotAhead ∧ s.StartsInTime wall
| _ => True

instance RowNotLater.decidable
    (s : SyncService) : Decidable s.RowNotLater := by
  unfold RowNotLater
  infer_instance

instance TimerNotAhead.decidable
    (s : SyncService) : Decidable s.TimerNotAhead := by
  unfold TimerNotAhead
  infer_instance

instance StartsInTime.decidable
    (s : SyncService)
    (wall : Int) : Decidable (s.StartsInTime wall) := by
  unfold StartsInTime
  infer_instance

instance KeepsLease.decidable
    (s : SyncService)
    (event : SyncEvent) : Decidable (s.KeepsLease event) := by
  cases event <;> unfold KeepsLease <;> infer_instance

end SyncService

------------------------------------------------------------
-- The Billing Row
------------------------------------------------------------

/- Only an accepted mutation of the group writes the row. -/
theorem Store.StateStore.lastValidatedAt_mutate
    (s : StateStore)
    (mutation : StoreMutation)
    (now : Int)
    (group : ConsistencyGroup) :
    (s.mutate mutation now).2.db.metadata.lastValidatedAt
        group =
      if mutation.group = group ∧
          (s.mutate mutation now).1 = none then some now
      else s.db.metadata.lastValidatedAt group := by
  rcases mutate_cases s mutation now with
    ⟨_, hEq⟩ | ⟨_, _, _, hEq⟩ | ⟨t, _, hEq⟩
  · rw [hEq]
    simp
  · rw [hEq]
    simp
  · rw [hEq]
    by_cases hGroup : mutation.group = group
    · rw [if_pos ⟨hGroup, rfl⟩, ← hGroup]
      exact Metadata.lastValidatedAt_set _ _ _ _ _
    · rw [if_neg (fun hBoth => hGroup hBoth.1)]
      exact Metadata.lastValidatedAt_set_of_ne
        (fun hSame => hGroup hSame.symm) _ _ _ _

namespace SyncService

/- A step of the store leaves the row, or marks it. -/
theorem billingValidatedAt_stepStore
    (s : SyncService)
    {event : Store.StoreEvent}
    (hLocal : (SyncEvent.store event).isFetch = false) :
    (s.stepStore event).billingValidatedAt =
        s.billingValidatedAt ∨
      s.MarksBilling event ∧
        (s.stepStore event).billingValidatedAt =
          some s.wall := by
  cases event with
  | mutate mutation =>
      have hRow :=
        s.store.lastValidatedAt_mutate mutation s.wall .billing
      by_cases hMarks : s.MarksBilling (.mutate mutation)
      · exact .inr ⟨hMarks, hRow.trans (if_pos hMarks)⟩
      · exact .inl (hRow.trans (if_neg hMarks))
  | updateBalance id balance currencySymbol => exact .inl rfl
  | hydrateConfig => exact .inl rfl
  | hydrateBilling valid stored => cases hLocal
  | hydrate => exact .inl rfl
  | logout => exact .inl rfl
  | restart => exact .inl rfl

theorem billingValidatedAt_replaceAll
    (s : SyncService)
    (accounts : List AccountRecord) :
    (s.stepStore
        (.mutate (.replaceAll accounts))).billingValidatedAt =
      s.billingValidatedAt := by
  have hRow :=
    s.store.lastValidatedAt_mutate (.replaceAll accounts)
      s.wall .billing
  exact hRow.trans (if_neg (fun hBoth => by cases hBoth.1))

theorem billingValidatedAt_loadLocalCache
    (s : SyncService) :
    s.loadLocalCache.billingValidatedAt =
      s.billingValidatedAt := by
  unfold loadLocalCache
  split
  · rfl
  · exact billingValidatedAt_replaceAll _ _

------------------------------------------------------------
-- Steps Without A Pull
------------------------------------------------------------

/- The clock shows what was noted, if it shows anything. -/
def Shows (s : SyncService) : Prop :=
  ∀ time ∈ s.clock.now s.hrtime, s.shown = time

theorem shows_observed
    (s : SyncService) :
    s.observed.Shows := by
  intro time hTime
  have hNow : s.clock.now s.hrtime = some time := hTime
  change (s.clock.now s.hrtime).getD s.shown = time
  rw [hNow]
  rfl

/- The time stamp is none, or not later than it was. -/
def NotLater (s next : SyncService) : Prop :=
  ∀ timestamp ∈ next.syncTimestamp,
    ∃ old ∈ s.syncTimestamp, timestamp ≤ old

/- What is kept from state to state without a pull. -/
structure Kept (s next : SyncService) : Prop where
  timestamp : NotLater s next
  shown : s.shown ≤ next.shown
  timer :
    s.timerElapsed = true →
      next.timerElapsed = true ∨
        ∀ timestamp ∈ next.syncTimestamp,
          timestamp + maxGraceMs ≤ next.shown

/- The clock and the timer are not touched. -/
structure SameClock (s next : SyncService) : Prop where
  clock : next.clock = s.clock
  hrtime : next.hrtime = s.hrtime
  shown : next.shown = s.shown
  start : next.lastSyncHrtime = s.lastSyncHrtime

theorem SameClock.refl
    (s : SyncService) :
    SameClock s s :=
  ⟨rfl, rfl, rfl, rfl⟩

theorem sameClock_cacheTimestamp
    (s : SyncService) :
    SameClock s s.cacheTimestamp := by
  unfold cacheTimestamp
  split
  · exact SameClock.refl s
  · exact ⟨rfl, rfl, rfl, rfl⟩

theorem sameClock_loadLocalCache
    (s : SyncService) :
    SameClock s s.loadLocalCache := by
  unfold loadLocalCache
  split
  · exact SameClock.refl s
  · exact ⟨rfl, rfl, rfl, rfl⟩

theorem NotLater.refl
    (s : SyncService) :
    NotLater s s :=
  fun timestamp hTimestamp =>
    ⟨timestamp, hTimestamp, Int.le_refl _⟩

theorem NotLater.of_eq
    {s next : SyncService}
    (hSame : next.syncTimestamp = s.syncTimestamp) :
    NotLater s next := by
  intro timestamp hTimestamp
  rw [hSame] at hTimestamp
  exact ⟨timestamp, hTimestamp, Int.le_refl _⟩

theorem NotLater.trans
    {s middle next : SyncService}
    (hFirst : NotLater s middle)
    (hSecond : NotLater middle next) :
    NotLater s next := by
  intro timestamp hTimestamp
  rcases hSecond timestamp hTimestamp with
    ⟨between, hBetween, hLe⟩
  rcases hFirst between hBetween with ⟨old, hOld, hOldLe⟩
  exact ⟨old, hOld, Int.le_trans hLe hOldLe⟩

namespace Kept

theorem refl
    (s : SyncService) :
    Kept s s where
  timestamp := NotLater.refl s
  shown := Int.le_refl _
  timer := fun hTimer => .inl hTimer

theorem trans
    {s middle next : SyncService}
    (hFirst : Kept s middle)
    (hSecond : Kept middle next) :
    Kept s next where
  timestamp := hFirst.timestamp.trans hSecond.timestamp
  shown := Int.le_trans hFirst.shown hSecond.shown
  timer := by
    intro hTimer
    rcases hFirst.timer hTimer with hStill | hOver
    · exact hSecond.timer hStill
    · right
      intro timestamp hTimestamp
      rcases hSecond.timestamp timestamp hTimestamp with
        ⟨between, hBetween, hLe⟩
      have hOld := hOver between hBetween
      have hShown := hSecond.shown
      omega

/- What is kept does not let the lease be extended. -/
theorem notExtended
    {s next : SyncService}
    (hKept : Kept s next)
    (hShows : s.Shows)
    (hNextShows : next.Shows) :
    NotExtended s next := by
  constructor
  · intro lease later hLease hLater
    rcases of_granted hLease with ⟨_, old, hOld, hExpires, _⟩
    rcases of_granted hLater with
      ⟨_, timestamp, hTimestamp, hLaterExpires, _⟩
    rcases hKept.timestamp timestamp hTimestamp with
      ⟨other, hOther, hLe⟩
    rw [Option.mem_def] at hOld hOther
    have hSame : other = old :=
      Option.some.inj (hOther.symm.trans hOld)
    omega
  · intro denial later hDenied hElapsed hLater
    rcases of_granted hLater with
      ⟨hRunning, timestamp, hTimestamp, _, time, hTime, hLeft⟩
    have hNow := hNextShows time hTime
    rcases of_elapsed hDenied hElapsed with
      hTimer | ⟨old, hOld, earlier, hEarlier, hOver⟩
    · rcases hKept.timer hTimer with hStill | hAll
      · rw [hStill] at hRunning
        cases hRunning
      · have hPast := hAll timestamp hTimestamp
        omega
    · have hThen := hShows earlier hEarlier
      rcases hKept.timestamp timestamp hTimestamp with
        ⟨other, hOther, hLe⟩
      rw [Option.mem_def] at hOld hOther
      have hSame : other = old :=
        Option.some.inj (hOther.symm.trans hOld)
      have hShown := hKept.shown
      omega

theorem of_perform
    {s next : SyncService}
    (hTimestamp : NotLater s next)
    (hNow :
      ∀ time ∈ next.clock.now next.hrtime, s.shown ≤ time)
    (hShown : next.shown = s.shown)
    (hTimer :
      s.timerElapsed = true →
        next.timerElapsed = true ∨
          ∀ timestamp ∈ next.syncTimestamp,
            timestamp + maxGraceMs ≤ s.shown) :
    Kept s next.observed := by
  have hLater : s.shown ≤ next.observed.shown := by
    change s.shown ≤
      (next.clock.now next.hrtime).getD next.shown
    cases hReading : next.clock.now next.hrtime with
    | none => exact Int.le_of_eq hShown.symm
    | some time => exact hNow time hReading
  exact
    { timestamp := hTimestamp
      shown := hLater
      timer := by
        intro hElapsed
        rcases hTimer hElapsed with hStill | hOver
        · exact .inl hStill
        · right
          intro timestamp hMem
          exact Int.le_trans (hOver timestamp hMem) hLater }

/- The clock and the timer run on. -/
theorem of_sameClock
    {s next : SyncService}
    (hShows : s.Shows)
    (hSame : SameClock s next)
    (hTimestamp : NotLater s next) :
    Kept s next.observed := by
  apply of_perform hTimestamp _ hSame.shown
  · intro hTimer
    left
    unfold timerElapsed at hTimer ⊢
    rw [hSame.start, hSame.hrtime]
    exact hTimer
  · intro time hTime
    rw [hSame.clock, hSame.hrtime] at hTime
    exact Int.le_of_eq (hShows time hTime)

end Kept

theorem notLater_stepStore
    {s : SyncService}
    {event : Store.StoreEvent}
    (hLocal : (SyncEvent.store event).isFetch = false)
    (hKeeps : s.KeepsLease (.store event)) :
    NotLater s (s.stepStore event) := by
  intro timestamp hTimestamp
  change
    timestamp ∈ s.lastSyncTimestamp.or
      (s.stepStore event).billingValidatedAt at hTimestamp
  unfold syncTimestamp
  cases hMemory : s.lastSyncTimestamp with
  | some kept =>
      rw [hMemory] at hTimestamp
      exact ⟨timestamp, hTimestamp, Int.le_refl _⟩
  | none =>
      rw [hMemory, Option.none_or] at hTimestamp
      rcases s.billingValidatedAt_stepStore hLocal with
        hSame | ⟨hMarks, hRow⟩
      · rw [hSame] at hTimestamp
        exact ⟨timestamp, hTimestamp, Int.le_refl _⟩
      · rcases hKeeps hMarks hMemory with ⟨row, hOld, hLe⟩
        rw [hRow] at hTimestamp
        cases hTimestamp
        exact ⟨row, hOld, hLe⟩

theorem syncTimestamp_cacheTimestamp
    (s : SyncService) :
    s.cacheTimestamp.syncTimestamp = s.syncTimestamp := by
  unfold cacheTimestamp
  split
  · rfl
  · change
      s.syncTimestamp.or s.billingValidatedAt = s.syncTimestamp
    unfold syncTimestamp
    cases s.lastSyncTimestamp with
    | some kept => rfl
    | none => cases s.billingValidatedAt <;> rfl

/- The row takes the place of a time stamp in memory. -/
theorem notLater_of_row
    {s next : SyncService}
    (hRow : s.RowNotLater)
    (hNext :
      ∀ timestamp ∈ next.syncTimestamp,
        timestamp ∈ s.billingValidatedAt) :
    NotLater s next := by
  intro timestamp hTimestamp
  have hMem := hNext timestamp hTimestamp
  unfold syncTimestamp
  cases hMemory : s.lastSyncTimestamp with
  | none => exact ⟨timestamp, hMem, Int.le_refl _⟩
  | some kept =>
      exact ⟨kept, rfl, hRow timestamp hMem kept hMemory⟩

theorem lastSyncTimestamp_loadLocalCache
    (s : SyncService) :
    s.loadLocalCache.lastSyncTimestamp =
      s.lastSyncTimestamp := by
  unfold loadLocalCache
  split <;> rfl

theorem syncTimestamp_loadLocalCache
    (s : SyncService) :
    s.loadLocalCache.syncTimestamp = s.syncTimestamp := by
  unfold syncTimestamp
  rw [lastSyncTimestamp_loadLocalCache,
    billingValidatedAt_loadLocalCache]

theorem notLater_initializeOffline
    {s : SyncService}
    (hRow : s.RowNotLater) :
    NotLater s s.initializeOffline := by
  have hLoaded := s.billingValidatedAt_loadLocalCache
  have hMemory := s.lastSyncTimestamp_loadLocalCache
  have hTimestamp :
      s.initializeOffline.syncTimestamp =
        s.billingValidatedAt.or s.lastSyncTimestamp := by
    change
      (s.loadLocalCache.billingValidatedAt.or
          s.loadLocalCache.lastSyncTimestamp).or
        s.loadLocalCache.billingValidatedAt = _
    rw [hLoaded, hMemory]
    cases s.billingValidatedAt with
    | some row => rfl
    | none => rw [Option.none_or, Option.or_none]
  cases hBilling : s.billingValidatedAt with
  | none =>
      apply NotLater.of_eq
      rw [hTimestamp, hBilling]
      unfold syncTimestamp
      rw [hBilling, Option.none_or, Option.or_none]
  | some row =>
      apply notLater_of_row hRow
      intro timestamp hMem
      rw [hTimestamp, hBilling] at hMem
      rw [hBilling]
      exact hMem

/- Nothing is left in memory that the timer is needed for. -/
theorem timer_of_row
    {s next : SyncService}
    (hTimer : s.TimerNotAhead)
    (hNext :
      ∀ timestamp ∈ next.syncTimestamp,
        timestamp ∈ s.billingValidatedAt) :
    s.timerElapsed = true →
      next.timerElapsed = true ∨
        ∀ timestamp ∈ next.syncTimestamp,
          timestamp + maxGraceMs ≤ s.shown :=
  fun hElapsed =>
    .inr (fun timestamp hMem =>
      hTimer hElapsed timestamp (hNext timestamp hMem))

theorem kept_pass
    {s : SyncService}
    (hShows : s.Shows)
    (elapsed : Nat)
    (wall : Int) :
    Kept s (s.step (.pass elapsed wall)) := by
  apply Kept.of_perform
  · exact NotLater.refl s
  · intro time hTime
    change
      time ∈ s.clock.now (s.hrtime + elapsed) at hTime
    rcases (s.clock.now_eq_some_iff _ _).mp hTime with
      ⟨hCertain, hReading⟩
    have hNow :=
      hShows _ ((s.clock.now_eq_some_iff _ _).mpr
        ⟨hCertain, rfl⟩)
    have hMono := s.clock.reading_mono s.hrtime elapsed
    omega
  · rfl
  · intro hTimer
    left
    rcases s.timerElapsed_iff.mp hTimer with
      ⟨start, hStart, hSet, hOver⟩
    have hMono := elapsedMs_mono start s.hrtime elapsed
    exact
      (timerElapsed_iff _).mpr
        ⟨start, hStart, hSet, Int.le_trans hOver hMono⟩

theorem kept_login
    {s : SyncService}
    (hShows : s.Shows)
    {graceToken : Option SignedGraceToken}
    (hKeeps : s.KeepsLease (.login graceToken)) :
    Kept s (s.step (.login graceToken)) := by
  apply Kept.of_perform
  · exact NotLater.refl s
  · intro time hTime
    change
      (s.clock.updateAnchor s.wall s.hrtime).now s.hrtime =
        some time at hTime
    rw [s.clock.now_updateAnchor] at hTime
    split at hTime
    · rename_i hAccepts
      cases hTime
      exact hKeeps hAccepts
    · exact Int.le_of_eq (hShows time hTime)
  · rfl
  · intro hTimer
    exact .inl hTimer

theorem kept_logout
    {s : SyncService}
    (hShows : s.Shows)
    (hKeeps : s.KeepsLease .logout) :
    Kept s (s.step .logout) := by
  apply Kept.of_perform
  · exact notLater_of_row hKeeps.1 (fun _ hMem => hMem)
  · intro time hTime
    exact Int.le_of_eq (hShows time hTime)
  · rfl
  · exact timer_of_row hKeeps.2 (fun _ hMem => hMem)

theorem kept_restart
    {s : SyncService}
    {wall hrtime : Int}
    (hKeeps : s.KeepsLease (.restart wall hrtime)) :
    Kept s (s.step (.restart wall hrtime)) := by
  apply Kept.of_perform
  · exact notLater_of_row hKeeps.1 (fun _ hMem => hMem)
  · intro time hTime
    change
      (PersistentClock.initializeFrom s.clock.storedAnchor
        wall hrtime).now hrtime = some time at hTime
    rw [PersistentClock.now_initializeFrom] at hTime
    split at hTime
    · cases hTime
    · rename_i hFound
      cases hTime
      rcases hKeeps.2.2 with hRollback | hLater
      · exact absurd hRollback hFound
      · exact hLater
  · rfl
  · exact timer_of_row hKeeps.2.1 (fun _ hMem => hMem)

/- What one step without a pull preserves. -/
theorem kept_step
    {s : SyncService}
    {event : SyncEvent}
    (hShows : s.Shows)
    (hLocal : event.isFetch = false)
    (hKeeps : s.KeepsLease event) :
    Kept s (s.step event) := by
  cases event with
  | pass elapsed wall => exact kept_pass hShows elapsed wall
  | getLease =>
      exact
        Kept.of_sameClock hShows s.sameClock_cacheTimestamp
          (NotLater.of_eq s.syncTimestamp_cacheTimestamp)
  | store event =>
      exact
        Kept.of_sameClock hShows ⟨rfl, rfl, rfl, rfl⟩
          (notLater_stepStore hLocal hKeeps)
  | loginFailed =>
      exact
        Kept.of_sameClock hShows (SameClock.refl s)
          (NotLater.refl s)
  | login graceToken => exact kept_login hShows hKeeps
  | reauthenticate graceToken =>
      exact
        Kept.of_sameClock hShows ⟨rfl, rfl, rfl, rfl⟩
          (NotLater.refl s)
  | pull snapshot =>
      change Kept s (s.pullAuthoritativeSnapshot snapshot).observed
      rw [s.pull_nothing hLocal]
      exact
        Kept.of_sameClock hShows (SameClock.refl s)
          (NotLater.refl s)
  | saveLocalCache =>
      exact
        Kept.of_sameClock hShows ⟨rfl, rfl, rfl, rfl⟩
          (NotLater.refl s)
  | loadLocalCache =>
      exact
        Kept.of_sameClock hShows s.sameClock_loadLocalCache
          (NotLater.of_eq s.syncTimestamp_loadLocalCache)
  | initializeOffline =>
      have hLoaded := s.sameClock_loadLocalCache
      exact
        Kept.of_sameClock hShows
          ⟨hLoaded.clock, hLoaded.hrtime, hLoaded.shown,
            hLoaded.start⟩
          (notLater_initializeOffline hKeeps)
  | logout => exact kept_logout hShows hKeeps
  | restart wall hrtime => exact kept_restart hKeeps

------------------------------------------------------------
-- Runs Without A Pull
------------------------------------------------------------

theorem shows_reached
    (production : Bool)
    (wall hrtime : Int)
    (events : List SyncEvent) :
    (reached production wall hrtime events).Shows := by
  have hStep :
      ∀ (s : SyncService) event, s.Shows → (s.step event).Shows :=
    fun s event _ => (s.perform event).shows_observed
  have hInstalled : (installed production wall hrtime).Shows := by
    intro time hTime
    change
      (PersistentClock.initializeFrom none wall hrtime).now
        hrtime = some time at hTime
    rw [PersistentClock.now_initializeFrom] at hTime
    change wall = time
    simpa using hTime
  exact run_keeps hStep events hInstalled

theorem kept_run
    {s : SyncService}
    {events : List SyncEvent}
    (hShows : s.Shows)
    (hLocal : ∀ event ∈ events, event.isFetch = false)
    (hKeeps : Along step KeepsLease s events) :
    (run step s events).Shows ∧ Kept s (run step s events) := by
  induction events generalizing s with
  | nil => exact ⟨hShows, Kept.refl s⟩
  | cons event events ih =>
      have hStep :=
        kept_step hShows (hLocal event List.mem_cons_self)
          hKeeps.1
      have hNext :=
        ih (s.perform event).shows_observed
          (fun other hOther =>
            hLocal other (List.mem_cons_of_mem event hOther))
          hKeeps.2
      exact ⟨hNext.1, hStep.trans hNext.2⟩

/-
  After any run, no run without a pull extends the lease, if
  all of its steps keep the time stamp and the clock.
-/
theorem lease_not_extended
    (production : Bool)
    (wall hrtime : Int)
    (past events : List SyncEvent)
    (hLocal : ∀ event ∈ events, event.isFetch = false)
    (hKeeps :
      Along step KeepsLease
        (reached production wall hrtime past) events) :
    LeaseNotExtended (reached production wall hrtime past)
      events := by
  intro before middle after hEvents
  rw [hEvents, along_append, along_append] at hKeeps
  have hFirst :=
    kept_run (shows_reached production wall hrtime past)
      (fun event hMem => hLocal event (by simp [hEvents, hMem]))
      hKeeps.1.1
  have hSecond :=
    kept_run hFirst.1
      (fun event hMem => hLocal event (by simp [hEvents, hMem]))
      hKeeps.1.2
  rw [run_append]
  exact hSecond.2.notExtended hFirst.1 hSecond.1

/- A login and a pull, at the time 1000. -/
def pulled : List SyncEvent :=
  [.login
      (some
        { not_before := none
          not_after := some 100000000
          signatureValid := true }),
   .pull
      { automation := some ⟨true, []⟩
        billing := some (true, true) }]

/- An hour, in nanoseconds. -/
def hourNs : Nat := 3600 * 1000000000

/- A restart, and then an invoice, on one pull. -/
def restarted : List SyncEvent :=
  [.saveLocalCache, .pass hourNs 3601000, .loginFailed,
    .restart 3601000 1, .initializeOffline, .getLease,
    .store (.mutate (.addInvoice false)),
    .pass hourNs 7201000, .getLease]

theorem restart_not_extended :
    LeaseNotExtended (reached true 1000 1 pulled)
      restarted := by
  apply lease_not_extended
  · decide +kernel
  · decide +kernel

/- The subscription is changed after an hour. -/
def subscriptionChanged : List SyncEvent :=
  [.pass hourNs 3601000,
    .store (.mutate (.updateSubscription false none))]

/- The process is started again after another hour. -/
def startedAgain : List SyncEvent :=
  [.pass hourNs 7201000, .restart 7201000 1]

/-
  The lease that had ended after two hours is granted for
  another one, counted from the change of the subscription.
-/
theorem restart_extends :
    (∀ event ∈ subscriptionChanged ++ startedAgain,
      event.isFetch = false) ∧
    ¬ LeaseNotExtended (reached false 1000 1 pulled)
        (subscriptionChanged ++ startedAgain) := by
  have hLease :
      (run step (reached false 1000 1 pulled)
          subscriptionChanged).getOfflineGraceLease =
        .ok ⟨1000, 1000, 7201000, 3600000⟩ := by
    decide +kernel
  have hExtended :
      (run step (reached false 1000 1 pulled)
          (subscriptionChanged ++
            startedAgain)).getOfflineGraceLease =
        .ok ⟨3601000, 3601000, 10801000, 3600000⟩ := by
    decide +kernel
  refine ⟨by decide, ?_⟩
  intro hNever
  have hKept :=
    (hNever subscriptionChanged startedAgain [] rfl).1 _ _
      hLease hExtended
  exact absurd hKept (by decide)

/- It had ended by then. -/
example :
    (run step (reached false 1000 1 pulled)
        (subscriptionChanged ++
          [.pass hourNs 7201000])).getOfflineGraceLease =
      .error .timerExceeded := by
  decide +kernel

end SyncService

end ControlPlane
