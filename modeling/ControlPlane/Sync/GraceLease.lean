import ControlPlane.Authority.PersistentClock
import ControlPlane.Store.StateStore

/-
  The offline grace lease.

  The lease of two hours is counted from a time stamp: the
  one in memory, or else the one in the row of the billing
  group. A pull from the backend sets the first, and every
  mutation of the group writes the second. The lease is over
  by the clock or by the timer, and a new process has neither
  the timer nor what the clock had shown.

  Main declarations:
    * `SyncService` and `SyncService.getOfflineGraceLease`
    * `SyncEvent` and `SyncService.step`
    * `SyncService.KeepsLease` and `SyncService.Kept`
    * `SyncService.lease_not_extended`
-/

------------------------------------------------------------
-- Leases
------------------------------------------------------------

namespace ControlPlane

/- `subscription_grace`, in milliseconds. -/
def maxGraceMs : Int := 7200 * 1000

/- A time of 0 counts as absent, as it does in the source. -/
structure SignedGraceToken where
  not_before : Option Int
  not_after : Option Int
  signatureValid : Bool
deriving DecidableEq, Repr

def verifyGraceToken
    (token : SignedGraceToken)
    (wall : Int) : Bool :=
  (token.not_before.filter (fun t => t ≠ 0)).all
      (fun t => decide (t ≤ wall)) &&
    (token.not_after.filter (fun t => t ≠ 0)).all
      (fun t => decide (wall ≤ t)) &&
    token.signatureValid

structure OfflineGraceLease where
  lastValidatedAt : Int
  cachedTime : Int
  expiresAt : Int
  remainingMs : Int
deriving DecidableEq, Repr

/- Why there is no lease. -/
inductive LeaseDenial where
| uncertainClock
| invalidToken
| missingToken
| noTimestamp
| clockBehind
| timerExceeded
| expired
deriving DecidableEq, Repr

/- Two hours have elapsed. -/
def LeaseDenial.isElapsed : LeaseDenial → Bool
| .timerExceeded => true
| .expired => true
| _ => false

------------------------------------------------------------
-- The Service
------------------------------------------------------------

structure CachePayload where
  graceToken : Option SignedGraceToken
  accounts : List AccountRecord

/-
  `shown` is the time that the clock has shown last, which is
  kept to speak of it and read by nothing.
-/
structure SyncService where
  production : Bool
  wall : Int
  hrtime : Int
  clock : PersistentClock
  lastSyncTimestamp : Option Int
  lastSyncHrtime : Option Int
  lastGraceToken : Option SignedGraceToken
  cacheFile : Option CachePayload
  store : Store.StateStore
  shown : Int

namespace SyncService

/- The time in the row of the billing group. -/
def billingValidatedAt (s : SyncService) : Option Int :=
  s.store.db.metadata.lastValidatedAt .billing

/- The time stamp that the lease is counted from. -/
def syncTimestamp (s : SyncService) : Option Int :=
  s.lastSyncTimestamp.or s.billingValidatedAt

/- The timer of the process exceeds the two hours. -/
def timerElapsed (s : SyncService) : Bool :=
  (s.lastSyncHrtime.filter (fun start => start ≠ 0)).any
    (fun start =>
      decide (maxGraceMs ≤ elapsedMs start s.hrtime))

def tokenDenial (s : SyncService) : Option LeaseDenial :=
  match s.lastGraceToken with
  | some token =>
      if verifyGraceToken token s.wall then none
      else some .invalidToken
  | none => if s.production then some .missingToken else none

/- The lease that is counted from a time stamp. -/
def leaseFrom
    (s : SyncService)
    (cachedTime : Int) :
    Except LeaseDenial OfflineGraceLease :=
  let absoluteExpiresAt := cachedTime + maxGraceMs
  let currentClockTime := s.clock.reading s.hrtime
  if currentClockTime < cachedTime then .error .clockBehind
  else if s.timerElapsed then .error .timerExceeded
  else if absoluteExpiresAt - currentClockTime ≤ 0 then
    .error .expired
  else
    .ok
      { lastValidatedAt := cachedTime
        cachedTime := cachedTime
        expiresAt := absoluteExpiresAt
        remainingMs := absoluteExpiresAt - currentClockTime }

def getOfflineGraceLease
    (s : SyncService) :
    Except LeaseDenial OfflineGraceLease :=
  if s.clock.isUncertain then .error .uncertainClock
  else
    match s.tokenDenial with
    | some denial => .error denial
    | none =>
        match s.syncTimestamp with
        | none => .error .noTimestamp
        | some timestamp => s.leaseFrom timestamp

/-
  The time stamp of the row is kept in memory, once the clock
  and the token have not been refused.
-/
def cacheTimestamp (s : SyncService) : SyncService :=
  if s.clock.isUncertain || s.tokenDenial.isSome then s
  else { s with lastSyncTimestamp := s.syncTimestamp }

------------------------------------------------------------
-- Events
------------------------------------------------------------

end SyncService

structure AutomationSnapshot where
  globalConfig : Bool
  accounts : List AccountRecord

/-
  What the backend answers to a pull. Of the subscription it
  says whether it is valid and gets stored.
-/
structure Snapshot where
  automation : Option AutomationSnapshot := none
  accounts : Option (List AccountRecord) := none
  billing : Option (Bool × Bool) := none

namespace Snapshot

def anyAuthDomainSucceeded (snapshot : Snapshot) : Bool :=
  snapshot.automation.isSome || snapshot.accounts.isSome ||
    snapshot.billing.isSome

def automationEvents
    (automation : AutomationSnapshot) :
    List Store.StoreEvent :=
  (if automation.globalConfig then [.hydrateConfig] else []) ++
    (if automation.accounts.isEmpty then []
      else [.mutate (.replaceAll automation.accounts)])

/- The hydrations of the repositories, in their order. -/
def storeEvents
    (snapshot : Snapshot) : List Store.StoreEvent :=
  (snapshot.automation.map automationEvents).getD [] ++
    (snapshot.accounts.map
      (fun accounts =>
        [.mutate (.replaceAll accounts)])).getD [] ++
    (snapshot.billing.map
      (fun billing =>
        [.hydrateBilling billing.1 billing.2])).getD []

end Snapshot

/-
  What happens to the service. A login that succeeds, here or
  before a mutation that is dispatched again, may bring a
  token. The pull that follows it is another event.
-/
inductive SyncEvent where
| pass (elapsed : Nat) (wall : Int)
| getLease
| store (event : Store.StoreEvent)
| loginFailed
| login (graceToken : Option SignedGraceToken)
| reauthenticate (graceToken : Option SignedGraceToken)
| pull (snapshot : Snapshot)
| saveLocalCache
| loadLocalCache
| initializeOffline
| logout
| restart (wall hrtime : Int)

/-
  State of the backend has arrived: a pull that has fetched
  any of it, or a checkout that was verified.
-/
def SyncEvent.isFetch : SyncEvent → Bool
| .pull snapshot => snapshot.anyAuthDomainSucceeded
| .store (.hydrateBilling _ _) => true
| _ => false

namespace SyncService

def stepStore
    (s : SyncService)
    (event : Store.StoreEvent) : SyncService :=
  { s with store := s.store.step (s.wall, event) }

def setGraceToken
    (s : SyncService)
    (graceToken : Option SignedGraceToken) : SyncService :=
  { s with
      lastGraceToken := graceToken.or s.lastGraceToken }

def updateAnchor (s : SyncService) : SyncService :=
  { s with clock := s.clock.updateAnchor s.wall s.hrtime }

def pullAuthoritativeSnapshot
    (s : SyncService)
    (snapshot : Snapshot) : SyncService :=
  let hydrated := snapshot.storeEvents.foldl stepStore s
  if snapshot.anyAuthDomainSucceeded then
    { hydrated with
        lastSyncTimestamp := some s.wall
        lastSyncHrtime := some s.hrtime }.updateAnchor
  else hydrated

def saveLocalCache (s : SyncService) : SyncService :=
  { s with
      cacheFile :=
        some
          { graceToken := s.lastGraceToken
            accounts := s.store.accounts.accounts.values } }

def loadLocalCache (s : SyncService) : SyncService :=
  match s.cacheFile with
  | none => s
  | some payload =>
      (s.setGraceToken payload.graceToken).stepStore
        (.mutate (.replaceAll payload.accounts))

/- The backend is not reachable. -/
def initializeOffline (s : SyncService) : SyncService :=
  let loaded := s.loadLocalCache
  { loaded with
      lastSyncTimestamp :=
        loaded.billingValidatedAt.or loaded.lastSyncTimestamp }

def logoutOperator (s : SyncService) : SyncService :=
  { s with
      lastGraceToken := none
      lastSyncTimestamp := none
      lastSyncHrtime := none
      cacheFile := none }.stepStore .logout

/- A new process over the files of the last one. -/
def restart
    (s : SyncService)
    (wall hrtime : Int) : SyncService :=
  { s with
      wall := wall
      hrtime := hrtime
      clock :=
        .initializeFrom s.clock.storedAnchor wall hrtime
      lastSyncTimestamp := none
      lastSyncHrtime := none
      lastGraceToken := none }.stepStore .restart

def perform
    (s : SyncService) : SyncEvent → SyncService
| .pass elapsed wall =>
    { s with
        wall := wall
        hrtime := s.hrtime + elapsed }
| .getLease => s.cacheTimestamp
| .store event => s.stepStore event
| .loginFailed => s
| .login graceToken => (s.setGraceToken graceToken).updateAnchor
| .reauthenticate graceToken => s.setGraceToken graceToken
| .pull snapshot => s.pullAuthoritativeSnapshot snapshot
| .saveLocalCache => s.saveLocalCache
| .loadLocalCache => s.loadLocalCache
| .initializeOffline => s.initializeOffline
| .logout => s.logoutOperator
| .restart wall hrtime => s.restart wall hrtime

/- Note what the clock shows, if it shows anything. -/
def observed (s : SyncService) : SyncService :=
  { s with
      shown := (s.clock.now s.hrtime).getD s.shown }

def step
    (s : SyncService)
    (event : SyncEvent) : SyncService :=
  (s.perform event).observed

/- The first process of an installation. -/
def installed
    (production : Bool)
    (wall hrtime : Int) : SyncService :=
  { production := production
    wall := wall
    hrtime := hrtime
    clock := .initializeFrom none wall hrtime
    lastSyncTimestamp := none
    lastSyncHrtime := none
    lastGraceToken := none
    cacheFile := none
    store := Store.StateStore.boot ⟨.empty, .empty⟩ wall
    shown := wall }

def reached
    (production : Bool)
    (wall hrtime : Int)
    (events : List SyncEvent) : SyncService :=
  run step (installed production wall hrtime) events

theorem timerElapsed_iff
    (s : SyncService) :
    s.timerElapsed = true ↔
      ∃ start ∈ s.lastSyncHrtime,
        start ≠ 0 ∧ maxGraceMs ≤ elapsedMs start s.hrtime := by
  unfold timerElapsed
  rw [Option.any_eq_true]
  constructor
  · rintro ⟨start, hStart, hOver⟩
    rcases Option.filter_eq_some_iff.mp hStart with
      ⟨hSet, hNe⟩
    exact ⟨start, hSet, of_decide_eq_true hNe,
      of_decide_eq_true hOver⟩
  · rintro ⟨start, hSet, hNe, hOver⟩
    exact ⟨start,
      Option.filter_eq_some_iff.mpr
        ⟨hSet, decide_eq_true hNe⟩,
      decide_eq_true hOver⟩

/- When a lease is granted, and which one. -/
theorem granted_iff
    {s : SyncService}
    {lease : OfflineGraceLease} :
    s.getOfflineGraceLease = .ok lease ↔
      s.clock.isUncertain = false ∧ s.tokenDenial = none ∧
        ∃ timestamp ∈ s.syncTimestamp,
          s.timerElapsed = false ∧
          timestamp ≤ s.clock.reading s.hrtime ∧
          s.clock.reading s.hrtime < timestamp + maxGraceMs ∧
          lease =
            { lastValidatedAt := timestamp
              cachedTime := timestamp
              expiresAt := timestamp + maxGraceMs
              remainingMs :=
                timestamp + maxGraceMs -
                  s.clock.reading s.hrtime } := by
  constructor
  · intro hLease
    unfold getOfflineGraceLease at hLease
    split at hLease
    · cases hLease
    · rename_i hCertain
      split at hLease
      · cases hLease
      · rename_i hToken
        split at hLease
        · cases hLease
        · rename_i timestamp hTimestamp
          unfold leaseFrom at hLease
          dsimp only at hLease
          split at hLease
          · cases hLease
          · rename_i hStarted
            split at hLease
            · cases hLease
            · rename_i hTimer
              split at hLease
              · cases hLease
              · rename_i hLeft
                cases hLease
                exact ⟨eq_false_of_ne_true hCertain, hToken,
                  timestamp, hTimestamp,
                  eq_false_of_ne_true hTimer, by omega,
                  by omega, rfl⟩
  · rintro ⟨hCertain, hToken, timestamp, hTimestamp, hTimer,
      hStarted, hLeft, rfl⟩
    rw [Option.mem_def] at hTimestamp
    unfold getOfflineGraceLease leaseFrom
    rw [hCertain, if_neg Bool.false_ne_true, hToken]
    dsimp only
    rw [hTimestamp]
    dsimp only
    rw [if_neg (Int.not_lt.mpr hStarted), hTimer,
      if_neg Bool.false_ne_true, if_neg (by omega)]

/- A pull that fetches nothing changes nothing. -/
theorem pull_nothing
    (s : SyncService)
    {snapshot : Snapshot}
    (hNothing : snapshot.anyAuthDomainSucceeded = false) :
    s.pullAuthoritativeSnapshot snapshot = s := by
  rcases snapshot with ⟨automation, accounts, billing⟩
  have hNone := hNothing
  simp only [Snapshot.anyAuthDomainSucceeded,
    Bool.or_eq_false_iff, Option.isSome_eq_false_iff,
    Option.isNone_iff_eq_none] at hNone
  rcases hNone with ⟨⟨rfl, rfl⟩, rfl⟩
  rfl

end SyncService

end ControlPlane
