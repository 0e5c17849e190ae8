import ControlPlane.Authority.ClockRuns
import ControlPlane.Authority.Envelope
import ControlPlane.Sync.GraceLease

/-
  The two verdicts on the offline grace period.

  The monitor that stops the betting asks for the grace
  period, and a start asks for the lease. Both count two
  hours from one time stamp. The first compares it with the
  wall clock of the system and the second with the persistent
  clock.

  Main declarations:
    * `verifyGraceToken`
    * `checkGracePeriod` and `getOfflineGraceLease`
    * `verdicts_agree_iff`
    * `remaining_of_lease`
-/

------------------------------------------------------------
-- Grace Tokens
------------------------------------------------------------

namespace ControlPlane

namespace GraceVerdicts

open JsonTree
open CanonicalSerializer
open EnvelopeValidator (Host PinnedKeys isVersionTwo)

variable {ν : Type}

/- What `Number` makes of a text, unless it is not a number. -/
abbrev Amount := WithBot (WithTop Rat)

structure GraceHost extends Host where
  amountOf : Units → Option Amount

/- `Number(value)`, or nothing when it throws. -/
def toAmount
    (N : Numbers ν)
    (host : GraceHost)
    (value : JsonTree ν) : Option (Option Amount) :=
  match value with
  | .null => some (some ((0 : Rat) : WithTop Rat))
  | .boolean true => some (some ((1 : Rat) : WithTop Rat))
  | .boolean false => some (some ((0 : Rat) : WithTop Rat))
  | .number value => some (some (N.value value : WithTop Rat))
  | .text value => some (host.amountOf value)
  | value => (N.toText value).map host.amountOf

/- A bound that is set excludes a time, or throws. -/
def excludedBy
    (N : Numbers ν)
    (host : GraceHost)
    (excludes : Amount → Bool)
    (bound : Option (JsonTree ν)) : Option Bool :=
  match bound with
  | none => some false
  | some bound =>
      if N.truthy bound then
        (toAmount N host bound).map (fun amount =>
          amount.any excludes)
      else some false

def keyVersionIsTwo
    (N : Numbers ν)
    (token : JsonTree ν) : Bool :=
  match token.field? (ascii "key_version") with
  | some (.number version) => decide (N.value version = 2)
  | _ => false

def pubKeyHex
    (N : Numbers ν)
    (pinned : PinnedKeys)
    (token : JsonTree ν) : Units :=
  if keyVersionIsTwo N token && !pinned.v2.isEmpty then
    pinned.v2
  else if !pinned.v1.isEmpty then pinned.v1
  else pinned.v2

/- `{ signature, key_version, ...tokenPayload }` -/
def tokenPayload (members : Members ν) : JsonTree ν :=
  .object
    (members.filter (fun m =>
      decide (m.1 ≠ ascii "signature" ∧
        m.1 ≠ ascii "key_version")))

/- The result, or nothing when the call throws. -/
def verifyGraceToken
    (N : Numbers ν)
    (host : GraceHost)
    (pinned : PinnedKeys)
    (now : Int)
    (token : JsonTree ν) : Option Bool :=
  match token with
  | .object members =>
      match token.field? (ascii "signature") with
      | some (.text signature) =>
          if signature.isEmpty then some false
          else
            let time : Amount := ((now : Rat) : WithTop Rat)
            (excludedBy N host (fun bound => decide (time < bound))
                (token.field? (ascii "not_before"))).bind
              (fun early =>
                if early then some false
                else
                  (excludedBy N host
                      (fun bound => decide (bound < time))
                      (token.field? (ascii "not_after"))).map
                    (fun late =>
                      !late &&
                        !(pubKeyHex N pinned token).isEmpty &&
                        host.verifyEd25519
                          (pubKeyHex N pinned token)
                          (utf8
                            (canonicalStringify N.toNumerals
                              (tokenPayload members)))
                          signature))
      | _ => some false
  | _ => some false

------------------------------------------------------------
-- The Service
------------------------------------------------------------

/- What the query for the row of the billing group brings. -/
inductive MetadataAnswer where
| noEngine
| failed
| rows (lastValidatedAt : List Units)
deriving DecidableEq, Repr

/-
  What the two verdicts read. The timer of the process is the
  one of the clock, and `requested` has the reasons for which
  the degraded mode was requested.
-/
structure GraceService (ν : Type) where
  production : Bool
  pinned : PinnedKeys
  wall : Int
  clock : ClockRun
  lastSyncTimestamp : Option Units
  lastSyncHrtime : Option Int
  lastGraceToken : Option (JsonTree ν)
  metadata : MetadataAnswer
  isDegraded : Bool
  requested : List String

structure OfflineLease where
  lastValidatedAt : Units
  cachedTime : Int
  expiresAt : Int
  remainingMs : Rat
deriving DecidableEq, Repr

inductive TokenVerdict where
| accepted
| missing
| invalid
| thrown
deriving DecidableEq, Repr

namespace GraceService

/- A token that is empty counts as absent. -/
def tokenVerdict
    (N : Numbers ν)
    (host : GraceHost)
    (s : GraceService ν) : TokenVerdict :=
  match s.lastGraceToken.filter N.truthy with
  | some token =>
      match verifyGraceToken N host s.pinned s.wall token with
      | some true => .accepted
      | some false => .invalid
      | none => .thrown
  | none => if s.production then .missing else .accepted

def validatedAt (s : GraceService ν) : Option Units :=
  match s.metadata with
  | .rows (lastValidatedAt :: _) =>
      if lastValidatedAt.isEmpty then none
      else some lastValidatedAt
  | _ => none

/- The time stamp in memory, or else the one in the row. -/
def timestamp? (s : GraceService ν) : Option Units :=
  (s.lastSyncTimestamp.filter (fun t => !t.isEmpty)).or
    s.validatedAt

def elapsedMonotonicMs (s : GraceService ν) : Option Int :=
  (s.lastSyncHrtime.filter (fun start => decide (start ≠ 0))).map
    (fun start => elapsedMs start s.clock.hrtime)

def transitionToDegraded
    (s : GraceService ν)
    (reason : String) : GraceService ν :=
  if s.isDegraded then s
  else { s with requested := s.requested ++ [reason] }

end GraceService

def isFresh
    (host : GraceHost)
    (now : Int)
    (cachedAt : Units)
    (ttlSeconds : Int) : Bool :=
  if cachedAt.isEmpty then false
  else
    match host.parseDate cachedAt with
    | none => false
    | some cachedTime =>
        if now < cachedTime then false
        else decide (now - cachedTime < ttlSeconds * 1000)

def isSubscriptionWithinGracePeriod
    (host : GraceHost)
    (now : Int)
    (lastValidatedAt : Units)
    (elapsedMonotonicMs : Option Int) : Bool :=
  if lastValidatedAt.isEmpty then false
  else if elapsedMonotonicMs.any
      (fun elapsed => decide (elapsed ≥ 7200 * 1000)) then false
  else isFresh host now lastValidatedAt 7200

namespace GraceService

/- The verdict, or nothing when the call throws. -/
def checkGracePeriod
    (N : Numbers ν)
    (host : GraceHost)
    (s : GraceService ν) : Option Bool × GraceService ν :=
  if s.clock.isUncertain then (some false, s)
  else
    match s.tokenVerdict N host with
    | .thrown => (none, s)
    | .missing => (some false, s)
    | .invalid =>
        (some false, s.transitionToDegraded "INVALID_GRACE_TOKEN")
    | .accepted =>
        match s.timestamp? with
        | none => (some false, s)
        | some timestamp =>
            let s := { s with lastSyncTimestamp := some timestamp }
            if isSubscriptionWithinGracePeriod host s.wall
                timestamp s.elapsedMonotonicMs then
              (some true, s)
            else
              (some false,
                s.transitionToDegraded "GRACE_PERIOD_EXPIRED")

/- The lease that is counted from a time stamp. -/
def leaseFrom
    (host : GraceHost)
    (s : GraceService ν)
    (timestamp : Units) : Option OfflineLease :=
  match host.parseDate timestamp with
  | none => none
  | some cachedTime =>
      let absoluteExpiresAt := cachedTime + maxGraceMs
      let currentClockTime := s.clock.reading
      if currentClockTime < cachedTime then none
      else if s.elapsedMonotonicMs.any
          (fun elapsed => decide (elapsed ≥ maxGraceMs)) then none
      else if absoluteExpiresAt - currentClockTime ≤ 0 then none
      else
        some
          { lastValidatedAt := timestamp
            cachedTime := cachedTime
            expiresAt := absoluteExpiresAt
            remainingMs := absoluteExpiresAt - currentClockTime }

def getOfflineGraceLease
    (N : Numbers ν)
    (host : GraceHost)
    (s : GraceService ν) :
    Option (Option OfflineLease) × GraceService ν :=
  if s.clock.isUncertain then (some none, s)
  else
    match s.tokenVerdict N host with
    | .thrown => (none, s)
    | .missing => (some none, s)
    | .invalid => (some none, s)
    | .accepted =>
        match s.timestamp? with
        | none => (some none, s)
        | some timestamp =>
            let s := { s with lastSyncTimestamp := some timestamp }
            (some (s.leaseFrom host timestamp), s)

------------------------------------------------------------
-- What They Count From
------------------------------------------------------------

/- Neither has been refused before the time stamp is read. -/
structure Admits
    (N : Numbers ν)
    (host : GraceHost)
    (s : GraceService ν)
    (timestamp : Units) : Prop where
  certain : s.clock.isUncertain = false
  token : s.tokenVerdict N host = .accepted
  stamp : s.timestamp? = some timestamp

/- Both count the two hours from this time. -/
structure CountsFrom
    (N : Numbers ν)
    (host : GraceHost)
    (s : GraceService ν)
    (timestamp : Units)
    (cachedTime : Int) : Prop extends
    Admits N host s timestamp where
  time : host.parseDate timestamp = some cachedTime
  timer : ∀ elapsed ∈ s.elapsedMonotonicMs, elapsed < maxGraceMs

/- The two hours from a time. -/
def Within
    (cachedTime : Int)
    (now : Rat) : Prop :=
  cachedTime ≤ now ∧ now < cachedTime + maxGraceMs

instance (cachedTime : Int) (now : Rat) :
    Decidable (Within cachedTime now) :=
  inferInstanceAs (Decidable (_ ∧ _))

variable {N : Numbers ν}
variable {host : GraceHost}
variable {s : GraceService ν}

theorem CountsFrom.unique
    {timestamp other : Units}
    {cachedTime otherTime : Int}
    (hFrom : CountsFrom N host s timestamp cachedTime)
    (hOther : CountsFrom N host s other otherTime) :
    timestamp = other ∧ cachedTime = otherTime := by
  have hStamp :=
    Option.some.inj (hFrom.stamp.symm.trans hOther.stamp)
  subst hStamp
  exact ⟨rfl, Option.some.inj (hFrom.time.symm.trans hOther.time)⟩

theorem timestamp?_nonempty
    {timestamp : Units}
    (hStamp : s.timestamp? = some timestamp) :
    timestamp.isEmpty = false := by
  unfold timestamp? at hStamp
  rcases Option.or_eq_some_iff.mp hStamp with
    hMemory | ⟨_, hRow⟩
  · have hNonempty := (Option.filter_eq_some_iff.mp hMemory).2
    exact (Bool.not_eq_true' _).mp hNonempty
  · unfold validatedAt at hRow
    split at hRow
    · split at hRow
      · cases hRow
      · rename_i hNonempty
        cases hRow
        exact eq_false_of_ne_true hNonempty
    · cases hRow

theorem any_elapsed_eq_false
    (elapsed : Option Int) :
    elapsed.any (fun ms => decide (ms ≥ maxGraceMs)) = false ↔
      ∀ ms ∈ elapsed, ms < maxGraceMs := by
  cases elapsed with
  | none => exact ⟨fun _ => nofun, fun _ => rfl⟩
  | some ms =>
      change decide (maxGraceMs ≤ ms) = false ↔ _
      rw [decide_eq_false_iff_not, not_le]
      constructor
      · intro hBelow _ hSame
        cases hSame
        exact hBelow
      · intro hAll
        exact hAll ms rfl

theorem isFresh_iff
    {now : Int}
    {cachedAt : Units}
    (hNonempty : cachedAt.isEmpty = false) :
    isFresh host now cachedAt 7200 = true ↔
      ∃ cachedTime, host.parseDate cachedAt = some cachedTime ∧
        Within cachedTime now := by
  unfold isFresh
  rw [hNonempty, if_neg Bool.false_ne_true]
  cases hTime : host.parseDate cachedAt with
  | none =>
      refine iff_of_false nofun ?_
      rintro ⟨cachedTime, hNone, _⟩
      cases hNone
  | some cachedTime =>
      have hWithin :
          Within cachedTime now ↔
            cachedTime ≤ now ∧ now < cachedTime + maxGraceMs := by
        unfold Within
        rw [Int.cast_le, ← Int.cast_add, Int.cast_lt]
      have hSome :
          (∃ time, some cachedTime = some time ∧
              Within time now) ↔ Within cachedTime now := by
        constructor
        · rintro ⟨time, hSame, hTime⟩
          cases hSame
          exact hTime
        · intro hTime
          exact ⟨cachedTime, rfl, hTime⟩
      rw [hSome, hWithin]
      dsimp only
      by_cases hBehind : now < cachedTime
      · rw [if_pos hBehind]
        refine iff_of_false Bool.false_ne_true ?_
        rintro ⟨hLe, _⟩
        exact absurd hBehind (not_lt.mpr hLe)
      · rw [if_neg hBehind, decide_eq_true_eq]
        unfold maxGraceMs
        omega

theorem isSubscriptionWithinGracePeriod_iff
    {now : Int}
    {timestamp : Units}
    {elapsed : Option Int}
    (hNonempty : timestamp.isEmpty = false) :
    isSubscriptionWithinGracePeriod host now timestamp
        elapsed = true ↔
      (∀ ms ∈ elapsed, ms < maxGraceMs) ∧
        ∃ cachedTime,
          host.parseDate timestamp = some cachedTime ∧
            Within cachedTime now := by
  unfold isSubscriptionWithinGracePeriod
  rw [hNonempty, if_neg Bool.false_ne_true,
    ← any_elapsed_eq_false, ← isFresh_iff hNonempty]
  change (if elapsed.any
    (fun ms => decide (ms ≥ maxGraceMs)) = true
      then _ else _) = true ↔ _
  cases elapsed.any (fun ms => decide (ms ≥ maxGraceMs)) with
  | true => exact iff_of_false nofun (fun h => nomatch h.1)
  | false => exact (and_iff_right rfl).symm

/- The lease that starts at a time. -/
def leaseOf
    (timestamp : Units)
    (cachedTime : Int)
    (now : Rat) : OfflineLease where
  lastValidatedAt := timestamp
  cachedTime := cachedTime
  expiresAt := cachedTime + maxGraceMs
  remainingMs := ((cachedTime + maxGraceMs : Int) : Rat) - now

theorem leaseFrom_eq_some_iff
    {timestamp : Units}
    {lease : OfflineLease} :
    s.leaseFrom host timestamp = some lease ↔
      ∃ cachedTime,
        host.parseDate timestamp = some cachedTime ∧
          (∀ elapsed ∈ s.elapsedMonotonicMs,
            elapsed < maxGraceMs) ∧
          Within cachedTime s.clock.reading ∧
          leaseOf timestamp cachedTime s.clock.reading =
            lease := by
  unfold leaseFrom
  rw [← any_elapsed_eq_false]
  cases hTime : host.parseDate timestamp with
  | none =>
      refine iff_of_false nofun ?_
      rintro ⟨cachedTime, hNone, _⟩
      cases hNone
  | some cachedTime =>
      have hSome :
          ∀ P : Int → Prop,
            (∃ time, some cachedTime = some time ∧ P time) ↔
              P cachedTime := by
        intro P
        constructor
        · rintro ⟨time, hSame, hTime⟩
          cases hSame
          exact hTime
        · intro hP
          exact ⟨cachedTime, rfl, hP⟩
      rw [hSome]
      dsimp only
      by_cases hBehind : s.clock.reading < cachedTime
      · rw [if_pos hBehind]
        refine iff_of_false nofun ?_
        rintro ⟨_, ⟨hLe, _⟩, _⟩
        exact absurd hBehind (not_lt.mpr hLe)
      · rw [if_neg hBehind]
        cases s.elapsedMonotonicMs.any
            (fun elapsed => decide (elapsed ≥ maxGraceMs)) with
        | true => exact iff_of_false nofun (fun h => nomatch h.1)
        | false =>
            rw [if_neg Bool.false_ne_true]
            by_cases hOver :
                ((cachedTime + maxGraceMs : Int) : Rat) -
                  s.clock.reading ≤ 0
            · rw [if_pos hOver]
              refine iff_of_false nofun ?_
              rintro ⟨_, ⟨_, hLeft⟩, _⟩
              rw [sub_nonpos, Int.cast_add] at hOver
              exact absurd hLeft (not_lt.mpr hOver)
            · rw [if_neg hOver, Option.some.injEq]
              rw [sub_nonpos, not_le, Int.cast_add] at hOver
              exact (and_iff_right rfl).symm.trans
                (and_congr_right' (and_iff_right
                  ⟨not_lt.mp hBehind, hOver⟩).symm)

theorem check_of_admits
    {timestamp : Units}
    (hAdmits : Admits N host s timestamp) :
    (s.checkGracePeriod N host).1 =
      some
        (isSubscriptionWithinGracePeriod host s.wall timestamp
          s.elapsedMonotonicMs) := by
  unfold checkGracePeriod
  rw [hAdmits.certain, if_neg Bool.false_ne_true,
    hAdmits.token]
  dsimp only
  rw [hAdmits.stamp]
  dsimp only
  split
  · rename_i hWithin
    exact congrArg some hWithin.symm
  · rename_i hOver
    exact congrArg some (eq_false_of_ne_true hOver).symm

theorem lease_of_admits
    {timestamp : Units}
    (hAdmits : Admits N host s timestamp) :
    (s.getOfflineGraceLease N host).1 =
      some (s.leaseFrom host timestamp) := by
  unfold getOfflineGraceLease
  rw [hAdmits.certain, if_neg Bool.false_ne_true,
    hAdmits.token]
  dsimp only
  rw [hAdmits.stamp]
  rfl

/- A time stamp is read, or there is neither verdict. -/
theorem admits_or_refused
    (N : Numbers ν)
    (host : GraceHost)
    (s : GraceService ν) :
    (∃ timestamp, Admits N host s timestamp) ∨
      ((s.checkGracePeriod N host).1 ≠ some true ∧
        ∀ lease,
          (s.getOfflineGraceLease N host).1 ≠
            some (some lease)) := by
  unfold checkGracePeriod getOfflineGraceLease
  cases hClock : s.clock.isUncertain with
  | true => exact .inr ⟨nofun, fun _ => nofun⟩
  | false =>
      cases hToken : s.tokenVerdict N host with
      | accepted =>
          cases hStamp : s.timestamp? with
          | none => exact .inr ⟨nofun, fun _ => nofun⟩
          | some timestamp =>
              exact .inl ⟨timestamp, hClock, hToken, hStamp⟩
      | missing => exact .inr ⟨nofun, fun _ => nofun⟩
      | invalid => exact .inr ⟨nofun, fun _ => nofun⟩
      | thrown => exact .inr ⟨nofun, fun _ => nofun⟩

/- The monitor: the wall clock is within the two hours. -/
theorem checkGracePeriod_iff :
    (s.checkGracePeriod N host).1 = some true ↔
      ∃ timestamp cachedTime,
        CountsFrom N host s timestamp cachedTime ∧
          Within cachedTime s.wall := by
  constructor
  · intro hCheck
    rcases admits_or_refused N host s with
      ⟨timestamp, hAdmits⟩ | ⟨hNever, _⟩
    · rw [check_of_admits hAdmits, Option.some.injEq,
        isSubscriptionWithinGracePeriod_iff
          (timestamp?_nonempty hAdmits.stamp)] at hCheck
      rcases hCheck with ⟨hTimer, cachedTime, hTime, hWithin⟩
      exact ⟨timestamp, cachedTime,
        ⟨hAdmits, hTime, hTimer⟩, hWithin⟩
    · exact absurd hCheck hNever
  · rintro ⟨timestamp, cachedTime, hFrom, hWithin⟩
    rw [check_of_admits hFrom.toAdmits, Option.some.injEq,
      isSubscriptionWithinGracePeriod_iff
        (timestamp?_nonempty hFrom.stamp)]
    exact ⟨hFrom.timer, cachedTime, hFrom.time, hWithin⟩

/- The lease: the persistent clock is within them. -/
theorem getOfflineGraceLease_iff
    {lease : OfflineLease} :
    (s.getOfflineGraceLease N host).1 = some (some lease) ↔
      ∃ timestamp cachedTime,
        CountsFrom N host s timestamp cachedTime ∧
          Within cachedTime s.clock.reading ∧
          leaseOf timestamp cachedTime s.clock.reading =
            lease := by
  constructor
  · intro hLease
    rcases admits_or_refused N host s with
      ⟨timestamp, hAdmits⟩ | ⟨_, hNever⟩
    · rw [lease_of_admits hAdmits, Option.some.injEq,
        leaseFrom_eq_some_iff] at hLease
      rcases hLease with
        ⟨cachedTime, hTime, hTimer, hWithin, hSame⟩
      exact ⟨timestamp, cachedTime,
        ⟨hAdmits, hTime, hTimer⟩, hWithin, hSame⟩
    · exact absurd hLease (hNever lease)
  · rintro ⟨timestamp, cachedTime, hFrom, hWithin, hSame⟩
    rw [lease_of_admits hFrom.toAdmits, Option.some.injEq,
      leaseFrom_eq_some_iff]
    exact ⟨cachedTime, hFrom.time, hFrom.timer, hWithin, hSame⟩

------------------------------------------------------------
-- Agreement
------------------------------------------------------------

/- What is left of a lease leads from now to its expiry. -/
theorem remaining_of_lease
    {lease : OfflineLease}
    (hLease :
      (s.getOfflineGraceLease N host).1 = some (some lease)) :
    0 < lease.remainingMs ∧ lease.remainingMs ≤ 7200000 ∧
      s.clock.now? =
        some (lease.expiresAt - lease.remainingMs) := by
  rcases getOfflineGraceLease_iff.mp hLease with
    ⟨timestamp, cachedTime, hFrom, ⟨hStarted, hLeft⟩, rfl⟩
  unfold leaseOf
  dsimp only
  refine ⟨?_, ?_, ?_⟩
  · rw [Int.cast_add]
    exact sub_pos.mpr hLeft
  · have hGrace : ((maxGraceMs : Int) : Rat) = 7200000 := by
      decide
    rw [Int.cast_add, hGrace, sub_le_iff_le_add, add_comm]
    exact (add_le_add_iff_left _).mpr hStarted
  · rw [ClockRun.now?_eq_some_iff]
    exact ⟨hFrom.certain, (sub_sub_cancel _ _).symm⟩

/-
  The verdicts on one state: there is a lease exactly when
  the monitor is content, and it lasts two hours at most from
  what the clock shows.
-/
def VerdictsAgree
    (N : Numbers ν)
    (host : GraceHost)
    (s : GraceService ν) : Prop :=
  ((s.checkGracePeriod N host).1 = some true ↔
    ∃ lease,
      (s.getOfflineGraceLease N host).1 = some (some lease)) ∧
  ∀ lease,
    (s.getOfflineGraceLease N host).1 = some (some lease) →
      0 < lease.remainingMs ∧ lease.remainingMs ≤ 7200000 ∧
        s.clock.now? =
          some (lease.expiresAt - lease.remainingMs)

/-
  The wall clock and the persistent clock are both within the
  two hours, or neither is.
-/
def ClocksConcur
    (N : Numbers ν)
    (host : GraceHost)
    (s : GraceService ν) : Prop :=
  ∀ timestamp cachedTime,
    CountsFrom N host s timestamp cachedTime →
      (Within cachedTime s.wall ↔
        Within cachedTime s.clock.reading)

theorem verdicts_agree_iff
    (N : Numbers ν)
    (host : GraceHost)
    (s : GraceService ν) :
    VerdictsAgree N host s ↔ ClocksConcur N host s := by
  constructor
  · rintro ⟨hAgree, _⟩ timestamp cachedTime hFrom
    constructor
    · intro hWall
      have hCheck :=
        checkGracePeriod_iff.mpr
          ⟨timestamp, cachedTime, hFrom, hWall⟩
      rcases hAgree.mp hCheck with ⟨lease, hLease⟩
      rcases getOfflineGraceLease_iff.mp hLease with
        ⟨other, otherTime, hOther, hWithin, _⟩
      rcases hFrom.unique hOther with ⟨rfl, rfl⟩
      exact hWithin
    · intro hReading
      have hLease :=
        getOfflineGraceLease_iff.mpr
          ⟨timestamp, cachedTime, hFrom, hReading, rfl⟩
      rcases checkGracePeriod_iff.mp (hAgree.mpr ⟨_, hLease⟩)
        with ⟨other, otherTime, hOther, hWithin⟩
      rcases hFrom.unique hOther with ⟨rfl, rfl⟩
      exact hWithin
  · intro hConcur
    refine ⟨?_, fun lease hLease => remaining_of_lease hLease⟩
    constructor
    · intro hCheck
      rcases checkGracePeriod_iff.mp hCheck with
        ⟨timestamp, cachedTime, hFrom, hWall⟩
      have hReading :=
        (hConcur timestamp cachedTime hFrom).mp hWall
      exact ⟨_, getOfflineGraceLease_iff.mpr
        ⟨timestamp, cachedTime, hFrom, hReading, rfl⟩⟩
    · rintro ⟨lease, hLease⟩
      rcases getOfflineGraceLease_iff.mp hLease with
        ⟨timestamp, cachedTime, hFrom, hReading, _⟩
      have hWall :=
        (hConcur timestamp cachedTime hFrom).mpr hReading
      exact checkGracePeriod_iff.mpr
        ⟨timestamp, cachedTime, hFrom, hWall⟩

/- What a lease depends on. -/
structure SameLease
    (N : Numbers ν)
    (host : GraceHost)
    (s next : GraceService ν) : Prop where
  clock : next.clock = s.clock
  token : next.tokenVerdict N host = s.tokenVerdict N host
  stamp : next.timestamp? = s.timestamp?
  start : next.lastSyncHrtime = s.lastSyncHrtime

theorem SameLease.lease_eq
    {next : GraceService ν}
    (hSame : SameLease N host s next) :
    (next.getOfflineGraceLease N host).1 =
      (s.getOfflineGraceLease N host).1 := by
  have hElapsed :
      next.elapsedMonotonicMs = s.elapsedMonotonicMs := by
    unfold elapsedMonotonicMs
    rw [hSame.clock, hSame.start]
  have hCertain :
      next.clock.isUncertain = s.clock.isUncertain :=
    congrArg ClockRun.isUncertain hSame.clock
  unfold getOfflineGraceLease
  rw [hCertain, hSame.token, hSame.stamp]
  cases s.clock.isUncertain with
  | true => rfl
  | false =>
      cases s.tokenVerdict N host with
      | accepted =>
          cases s.timestamp? with
          | none => rfl
          | some timestamp =>
              change some (next.leaseFrom host timestamp) =
                some (s.leaseFrom host timestamp)
              unfold leaseFrom
              rw [hSame.clock, hElapsed]
      | missing => rfl
      | invalid => rfl
      | thrown => rfl

theorem SameLease.degraded
    {next : GraceService ν}
    (hSame : SameLease N host s next)
    (reason : String) :
    SameLease N host s (next.transitionToDegraded reason) := by
  unfold transitionToDegraded
  split
  · exact hSame
  · exact ⟨hSame.clock, hSame.token, hSame.stamp, hSame.start⟩

/- The first verdict does not change the second one. -/
theorem sameLease_check :
    SameLease N host s (s.checkGracePeriod N host).2 := by
  have hRefl : SameLease N host s s := ⟨rfl, rfl, rfl, rfl⟩
  unfold checkGracePeriod
  cases s.clock.isUncertain with
  | true => exact hRefl
  | false =>
      cases s.tokenVerdict N host with
      | accepted =>
          cases hStamp : s.timestamp? with
          | none => exact hRefl
          | some timestamp =>
              have hKept :
                  SameLease N host s
                    { s with
                        lastSyncTimestamp :=
                          some timestamp } := by
                refine ⟨rfl, rfl, ?_, rfl⟩
                unfold timestamp?
                dsimp only
                rw [Option.filter_some_pos
                  (by rw [timestamp?_nonempty hStamp]; rfl)]
                exact hStamp.symm
              rw [if_neg Bool.false_ne_true]
              dsimp only
              split
              · exact hKept
              · exact hKept.degraded _
      | missing => exact hRefl
      | invalid => exact hRefl.degraded _
      | thrown => exact hRefl

------------------------------------------------------------
-- The Service Of Full Milliseconds
------------------------------------------------------------

/- The two services count from one time, by one clock. -/
structure Reads
    (N : Numbers ν)
    (host : GraceHost)
    (s : GraceService ν)
    (service : SyncService) : Prop where
  clock : s.clock = .ofClock service.clock service.hrtime
  token :
    s.tokenVerdict N host = .accepted ↔
      service.tokenDenial = none
  stamp :
    s.timestamp?.bind host.parseDate = service.syncTimestamp
  start : s.lastSyncHrtime = service.lastSyncHrtime

theorem Reads.timer
    {service : SyncService}
    (hReads : Reads N host s service) :
    (∀ elapsed ∈ s.elapsedMonotonicMs, elapsed < maxGraceMs) ↔
      service.timerElapsed = false := by
  rw [← any_elapsed_eq_false]
  unfold elapsedMonotonicMs SyncService.timerElapsed
  rw [hReads.start, hReads.clock]
  cases service.lastSyncHrtime with
  | none => rfl
  | some start =>
      by_cases hStart : start = 0
      · subst hStart
        rfl
      · have hKept :
            (some start).filter
                (fun start => decide (start ≠ 0)) =
              some start :=
          Option.filter_some_pos (decide_eq_true hStart)
        rw [hKept]
        rfl

/- Both grant a lease to the same time, or neither does. -/
theorem Reads.lease_iff
    {service : SyncService}
    (hReads : Reads N host s service)
    (expiresAt : Int) :
    (∃ lease,
        (s.getOfflineGraceLease N host).1 = some (some lease) ∧
          lease.expiresAt = expiresAt) ↔
      ∃ lease,
        service.getOfflineGraceLease = .ok lease ∧
          lease.expiresAt = expiresAt := by
  have hReading :
      s.clock.reading =
        (service.clock.reading service.hrtime : Rat) := by
    rw [hReads.clock, ClockRun.reading_ofClock]
  have hCertain :
      s.clock.isUncertain = service.clock.isUncertain :=
    congrArg ClockRun.isUncertain hReads.clock
  constructor
  · rintro ⟨_, hLease, rfl⟩
    rcases getOfflineGraceLease_iff.mp hLease with
      ⟨timestamp, cachedTime, hFrom, ⟨hStarted, hLeft⟩, rfl⟩
    have hStamp : service.syncTimestamp = some cachedTime := by
      rw [← hReads.stamp, hFrom.stamp]
      exact hFrom.time
    rw [hReading, Int.cast_le] at hStarted
    rw [hReading, ← Int.cast_add, Int.cast_lt] at hLeft
    exact ⟨_, SyncService.granted_iff.mpr
      ⟨hCertain.symm.trans hFrom.certain,
        hReads.token.mp hFrom.token, cachedTime, hStamp,
        hReads.timer.mp hFrom.timer, hStarted, hLeft, rfl⟩,
      rfl⟩
  · rintro ⟨_, hLease, rfl⟩
    rcases SyncService.granted_iff.mp hLease with
      ⟨hClock, hToken, cachedTime, hStamp, hTimer, hStarted,
        hLeft, rfl⟩
    rcases Option.bind_eq_some_iff.mp
      (hReads.stamp.trans hStamp) with
      ⟨timestamp, hMem, hTime⟩
    have hFrom : CountsFrom N host s timestamp cachedTime :=
      { certain := hCertain.trans hClock
        token := hReads.token.mpr hToken
        stamp := hMem
        time := hTime
        timer := hReads.timer.mpr hTimer }
    have hWithin : Within cachedTime s.clock.reading := by
      unfold Within
      rw [hReading, ← Int.cast_add, Int.cast_le, Int.cast_lt]
      exact ⟨hStarted, hLeft⟩
    exact ⟨_, getOfflineGraceLease_iff.mpr
      ⟨timestamp, cachedTime, hFrom, hWithin, rfl⟩, rfl⟩

/- A time stamp that both parse, and no signatures. -/
def stampHost : GraceHost where
  parseDate text :=
    if text = ascii "1970-01-01T00:00:01.000Z" then some 1000
    else none
  verifyEd25519 _ _ _ := false
  amountOf _ := none

/-
  Two hours after a time stamp, in a process that was started
  a second before, and with the wall clock set back since.
-/
def setBack : GraceService (Fin 10) where
  production := false
  pinned := ⟨[], []⟩
  wall := 3600000
  clock :=
    run ClockRun.step (ClockRun.start (some 1000) 7200000 0)
      [.initializeClock 7200000 true true, .elapse 1000000000]
  lastSyncTimestamp := none
  lastSyncHrtime := none
  lastGraceToken := none
  metadata := .rows [ascii "1970-01-01T00:00:01.000Z"]
  isDegraded := false
  requested := []

theorem monitor_content_without_lease :
    (setBack.checkGracePeriod Numbers.digits stampHost).1 =
      some true ∧
    (setBack.getOfflineGraceLease Numbers.digits stampHost).1 =
      some none ∧
    ¬ VerdictsAgree Numbers.digits stampHost setBack := by
  have hCheck :
      (setBack.checkGracePeriod Numbers.digits stampHost).1 =
        some true := by
    decide +kernel
  have hLease :
      (setBack.getOfflineGraceLease Numbers.digits
          stampHost).1 = some none := by
    decide +kernel
  refine ⟨hCheck, hLease, ?_⟩
  rintro ⟨hAgree, _⟩
  rcases hAgree.mp hCheck with ⟨lease, hSome⟩
  rw [hLease] at hSome
  cases hSome

end GraceService

end GraceVerdicts

end ControlPlane
