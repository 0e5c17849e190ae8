import ControlPlane.Authority.PersistentClock
import ControlPlane.Data.Run
import Mathlib.Algebra.Order.Ring.Rat
import Mathlib.Algebra.Order.Ring.Cast

/-
  The persistent clock over a whole run.

  A timestamp of the backend may have a fraction, the anchor
  may not reach storage and may not be readable there, and a
  process starts again on what is stored. An anchor is only
  compared with the anchor before it, and not with what the
  clock has shown since.

  Main declarations:
    * `ClockRun.step`
    * `ClockRun.NeverBack`
    * `never_back_throughout_iff`
-/

------------------------------------------------------------
-- The Clock Of A Process
------------------------------------------------------------

namespace ControlPlane

/-
  The clock, its storage and the timer. `shown` is the last
  value that `now` returned in the process, and `persisted`
  has every anchor that was ever stored.
-/
structure ClockRun where
  bootWallclock : Rat
  bootHrtime : Int
  lastKnownTime : Rat
  isUncertain : Bool
  stored : Option Rat
  hrtime : Int
  shown : Option Rat
  persisted : List Rat
deriving DecidableEq, Repr

/-
  `persists` says whether the anchor reaches storage, and
  `readable` whether the stored one is decrypted. A restart
  begins with a timer of its own.
-/
inductive ClockEvent where
| elapse (ns : Nat)
| initializeClock (wallclock : Int) (readable persists : Bool)
| updateAnchor (backendTimestamp : Rat) (persists : Bool)
| now
| restart (wallclock hrtime : Int)
deriving DecidableEq, Repr

namespace ClockRun

def reading (c : ClockRun) : Rat :=
  c.bootWallclock + elapsedMs c.bootHrtime c.hrtime

/- An uncertain clock throws. -/
def now? (c : ClockRun) : Option Rat :=
  if c.isUncertain then none else some c.reading

def accepts
    (c : ClockRun)
    (backendTimestamp : Rat) : Bool :=
  !decide (backendTimestamp ≤ 0) &&
    decide (c.lastKnownTime ≤ backendTimestamp)

def updateAnchor
    (c : ClockRun)
    (backendTimestamp : Rat)
    (persists : Bool) : ClockRun :=
  if c.accepts backendTimestamp then
    { c with
        bootWallclock := backendTimestamp
        bootHrtime := c.hrtime
        lastKnownTime := backendTimestamp
        isUncertain := false
        stored :=
          if persists then some backendTimestamp else c.stored
        persisted :=
          if persists then c.persisted ++ [backendTimestamp]
          else c.persisted }
  else c

def initializeClock
    (c : ClockRun)
    (wallclock : Int)
    (readable persists : Bool) : ClockRun :=
  let c :=
    { c with bootWallclock := wallclock, bootHrtime := c.hrtime }
  match c.stored with
  | some lastKnownTime =>
      if readable then
        { c with
            lastKnownTime := lastKnownTime
            isUncertain :=
              decide ((wallclock : Rat) < lastKnownTime) }
      else { c with isUncertain := true }
  | none =>
      updateAnchor { c with isUncertain := false } wallclock
        persists

def step (c : ClockRun) : ClockEvent → ClockRun
| .elapse ns => { c with hrtime := c.hrtime + ns }
| .initializeClock wallclock readable persists =>
    c.initializeClock wallclock readable persists
| .updateAnchor backendTimestamp persists =>
    c.updateAnchor backendTimestamp persists
| .now =>
    { c with
        shown :=
          match c.now? with
          | some time => some time
          | none => c.shown }
| .restart wallclock hrtime =>
    { c with
        bootWallclock := wallclock
        bootHrtime := hrtime
        lastKnownTime := 0
        isUncertain := true
        hrtime := hrtime
        shown := none }

/- A new process on a storage. -/
def start
    (stored : Option Rat)
    (wallclock hrtime : Int) : ClockRun where
  bootWallclock := wallclock
  bootHrtime := hrtime
  lastKnownTime := 0
  isUncertain := true
  stored := stored
  hrtime := hrtime
  shown := none
  persisted := stored.toList

/-
  What `now` would return is no less than what it returned
  before and than every anchor that was stored.
-/
def NeverBack (c : ClockRun) : Prop :=
  ∀ time ∈ c.now?,
    (∀ shown ∈ c.shown, shown ≤ time) ∧
      ∀ known ∈ c.persisted, known ≤ time

/-
  A step that does not take the clock back: an anchor that
  is taken over is no less than what was shown and stored,
  and neither is the wall clock of an initialization that
  leaves the clock certain.
-/
def Kept (c : ClockRun) : ClockEvent → Prop
| .initializeClock wallclock readable _ =>
    (c.stored = none ∨ readable = true ∧
        ∀ known ∈ c.stored, known ≤ wallclock) →
      ∀ shown ∈ c.shown, shown ≤ wallclock
| .updateAnchor backendTimestamp _ =>
    c.accepts backendTimestamp = true →
      (∀ shown ∈ c.shown, shown ≤ backendTimestamp) ∧
        ∀ known ∈ c.stored, known ≤ backendTimestamp
| _ => True

------------------------------------------------------------
-- Readings
------------------------------------------------------------

variable {c : ClockRun}

theorem now?_eq_some_iff
    {time : Rat} :
    c.now? = some time ↔
      c.isUncertain = false ∧ c.reading = time := by
  unfold now?
  cases c.isUncertain with
  | true => exact iff_of_false nofun (fun h => nomatch h.1)
  | false =>
      rw [if_neg Bool.false_ne_true, Option.some.injEq]
      exact (and_iff_right rfl).symm

theorem reading_at_base
    (hBase : c.bootHrtime = c.hrtime) :
    c.reading = c.bootWallclock := by
  unfold reading
  rw [hBase, elapsedMs_self, Int.cast_zero, add_zero]

theorem reading_elapse
    (ns : Nat) :
    c.reading ≤ (c.step (.elapse ns)).reading := by
  have hElapsed := elapsedMs_mono c.bootHrtime c.hrtime ns
  exact (add_le_add_iff_left c.bootWallclock).mpr
    (Int.cast_le.mpr hElapsed)

/- A clock of full milliseconds as one of this kind. -/
def ofClock
    (c : PersistentClock)
    (hrtime : Int) : ClockRun where
  bootWallclock := c.bootWallclock
  bootHrtime := c.bootHrtime
  lastKnownTime := c.lastKnownTime
  isUncertain := c.isUncertain
  stored := c.storedAnchor.map (fun time => (time : Rat))
  hrtime := hrtime
  shown := none
  persisted :=
    (c.storedAnchor.map (fun time => (time : Rat))).toList

theorem reading_ofClock
    (c : PersistentClock)
    (hrtime : Int) :
    (ofClock c hrtime).reading = c.reading hrtime :=
  (Int.cast_add _ _).symm

theorem accepts_ofClock
    (c : PersistentClock)
    (backendTimestamp hrtime : Int) :
    (ofClock c hrtime).accepts backendTimestamp =
      c.accepts backendTimestamp := by
  rw [Bool.eq_iff_iff]
  unfold accepts PersistentClock.accepts
  rw [Bool.and_eq_true, Bool.not_eq_true', decide_eq_false_iff_not,
    decide_eq_true_eq, decide_eq_true_eq, not_le]
  exact and_congr Int.cast_pos Int.cast_le

theorem reading_updateAnchor_ofClock
    (c : PersistentClock)
    (backendTimestamp hrtime : Int)
    (persists : Bool) :
    ((ofClock c hrtime).updateAnchor backendTimestamp
        persists).reading =
      (c.updateAnchor backendTimestamp hrtime).reading
        hrtime := by
  unfold updateAnchor PersistentClock.updateAnchor
  rw [accepts_ofClock]
  split
  · exact (Int.cast_add _ _).symm
  · exact reading_ofClock c hrtime

/- A value that `now` returns, and what it may not be below. -/
theorem neverBack_iff_of_certain
    (hCertain : c.isUncertain = false) :
    c.NeverBack ↔
      (∀ shown ∈ c.shown, shown ≤ c.reading) ∧
        ∀ known ∈ c.persisted, known ≤ c.reading := by
  have hNow : c.now? = some c.reading :=
    now?_eq_some_iff.mpr ⟨hCertain, rfl⟩
  constructor
  · intro hBack
    exact hBack _ hNow
  · rintro hBoth time hTime
    cases hNow.symm.trans hTime
    exact hBoth

theorem neverBack_of_uncertain
    (hUncertain : c.isUncertain = true) : c.NeverBack := by
  intro time hTime
  have hCertain := (now?_eq_some_iff.mp hTime).1
  exact absurd (hUncertain.symm.trans hCertain) nofun

/- The stored anchor is the last one and the largest. -/
structure Bound (c : ClockRun) : Prop where
  largest :
    ∀ known ∈ c.persisted, ∃ last ∈ c.stored, known ≤ last
  last : ∀ known ∈ c.stored, known ∈ c.persisted

theorem Bound.persisted_le_iff
    (hBound : c.Bound)
    {time : Rat} :
    (∀ known ∈ c.persisted, known ≤ time) ↔
      ∀ known ∈ c.stored, known ≤ time := by
  constructor
  · intro hAll known hStored
    exact hAll known (hBound.last known hStored)
  · intro hAll known hKnown
    rcases hBound.largest known hKnown with
      ⟨last, hLast, hLe⟩
    exact le_trans hLe (hAll last hLast)

/- Storage after an anchor no less than the one it has. -/
theorem Bound.persist
    (hBound : c.Bound)
    {time : Rat}
    (hTime : ∀ known ∈ c.stored, known ≤ time)
    {next : ClockRun}
    (persists : Bool)
    (hStored :
      next.stored = if persists then some time else c.stored)
    (hPersisted :
      next.persisted =
        if persists then c.persisted ++ [time]
        else c.persisted) :
    next.Bound := by
  cases persists with
  | false => exact ⟨hPersisted ▸ hStored ▸ hBound.largest,
      hPersisted ▸ hStored ▸ hBound.last⟩
  | true =>
      rw [if_pos rfl] at hStored hPersisted
      refine ⟨?_, ?_⟩
      · intro known hKnown
        rw [hPersisted] at hKnown
        refine ⟨time, hStored, ?_⟩
        rcases List.mem_append.mp hKnown with hOld | hNew
        · exact hBound.persisted_le_iff.mpr hTime known hOld
        · exact le_of_eq (List.mem_singleton.mp hNew)
      · intro known hKnown
        rw [hStored] at hKnown
        cases hKnown
        rw [hPersisted]
        exact List.mem_append_right _ List.mem_cons_self

------------------------------------------------------------
-- Steps
------------------------------------------------------------

def Sound (c : ClockRun) : Prop :=
  c.NeverBack ∧ c.Bound

/- A condition that decides whether the clock goes back. -/
def Decides (next : ClockRun) (condition : Prop) : Prop :=
  (next.NeverBack → condition) ∧ (condition → next.Sound)

theorem decides_updateAnchor
    (hSound : c.Sound)
    (backendTimestamp : Rat)
    (persists : Bool) :
    (c.updateAnchor backendTimestamp persists).Decides
      (c.Kept (.updateAnchor backendTimestamp persists)) := by
  unfold updateAnchor
  cases hAccepts : c.accepts backendTimestamp with
  | false =>
      refine ⟨?_, fun _ => hSound⟩
      intro _ hTrue
      exact absurd (hAccepts.symm.trans hTrue) nofun
  | true =>
      rw [if_pos rfl]
      have hReading :
          ∀ next : ClockRun,
            next.bootHrtime = next.hrtime →
              next.bootWallclock = backendTimestamp →
                next.reading = backendTimestamp := by
        intro next hBase hWall
        rw [reading_at_base hBase, hWall]
      have hKept :
          c.Kept (.updateAnchor backendTimestamp persists) ↔
            (∀ shown ∈ c.shown, shown ≤ backendTimestamp) ∧
              ∀ known ∈ c.stored,
                known ≤ backendTimestamp :=
        ⟨fun h => h hAccepts, fun h _ => h⟩
      rw [hKept]
      refine ⟨?_, ?_⟩
      · intro hBack
        rw [neverBack_iff_of_certain rfl, hReading _ rfl rfl]
          at hBack
        refine ⟨hBack.1, hSound.2.persisted_le_iff.mp ?_⟩
        intro known hKnown
        refine hBack.2 known ?_
        cases persists with
        | false => exact hKnown
        | true => exact List.mem_append_left _ hKnown
      · rintro ⟨hShown, hStored⟩
        refine ⟨?_,
          hSound.2.persist hStored persists rfl rfl⟩
        rw [neverBack_iff_of_certain rfl, hReading _ rfl rfl]
        refine ⟨hShown, ?_⟩
        intro known hKnown
        have hOld :=
          hSound.2.persisted_le_iff.mpr hStored known
        cases persists with
        | false => exact hOld hKnown
        | true =>
            rcases List.mem_append.mp hKnown with hMem | hNew
            · exact hOld hMem
            · exact le_of_eq (List.mem_singleton.mp hNew)

/- The first start of a storage anchors its wall clock. -/
theorem decides_firstStart
    (hSound : c.Sound)
    (hStored : c.stored = none)
    (wallclock : Int)
    (readable persists : Bool) :
    (c.initializeClock wallclock readable persists).Decides
      (∀ shown ∈ c.shown, shown ≤ wallclock) := by
  have hInitialize :
      c.initializeClock wallclock readable persists =
        updateAnchor
          { c with
              bootWallclock := wallclock
              bootHrtime := c.hrtime
              isUncertain := false } wallclock persists := by
    rcases c with ⟨_, _, _, _, stored, _, _, _⟩
    dsimp only at hStored
    subst hStored
    rfl
  have hPersisted : c.persisted = [] := by
    refine List.eq_nil_iff_forall_not_mem.mpr ?_
    intro known hKnown
    rcases hSound.2.largest known hKnown with ⟨last, hLast, _⟩
    rw [hStored] at hLast
    cases hLast
  rw [hInitialize]
  refine ⟨?_, ?_⟩
  · intro hBack
    unfold updateAnchor at hBack
    split at hBack
    · rw [neverBack_iff_of_certain rfl, reading_at_base rfl]
        at hBack
      exact hBack.1
    · rw [neverBack_iff_of_certain rfl, reading_at_base rfl]
        at hBack
      exact hBack.1
  · intro hShown
    refine (decides_updateAnchor ?_ wallclock persists).2 ?_
    · refine ⟨?_, hSound.2.1, hSound.2.2⟩
      rw [neverBack_iff_of_certain rfl, reading_at_base rfl]
      refine ⟨hShown, ?_⟩
      intro known hKnown
      have hNone : known ∈ c.persisted := hKnown
      rw [hPersisted] at hNone
      cases hNone
    · intro _
      refine ⟨hShown, ?_⟩
      intro known hKnown
      have hNone : known ∈ c.stored := hKnown
      rw [hStored] at hNone
      cases hNone

/- A later start compares its wall clock with the anchor. -/
theorem decides_laterStart
    (hSound : c.Sound)
    {known : Rat}
    (hStored : c.stored = some known)
    (wallclock : Int)
    (readable persists : Bool) :
    (c.initializeClock wallclock readable persists).Decides
      (readable = true ∧ known ≤ wallclock →
        ∀ shown ∈ c.shown, shown ≤ wallclock) := by
  have hBound :
      ∀ next : ClockRun, next.stored = c.stored →
        next.persisted = c.persisted → next.Bound := by
    intro next hNext hPersisted
    exact ⟨hPersisted ▸ hNext ▸ hSound.2.largest,
      hPersisted ▸ hNext ▸ hSound.2.last⟩
  unfold initializeClock
  dsimp only
  rw [hStored]
  dsimp only
  cases readable with
  | false =>
      refine ⟨?_, fun _ =>
        ⟨neverBack_of_uncertain rfl, hBound _ hStored.symm rfl⟩⟩
      rintro _ ⟨hNone, _⟩
      cases hNone
  | true =>
      rw [if_pos rfl]
      by_cases hRollback : (wallclock : Rat) < known
      · refine ⟨?_, fun _ =>
          ⟨neverBack_of_uncertain (decide_eq_true hRollback),
            hBound _ hStored.symm rfl⟩⟩
        rintro _ ⟨_, hLe⟩
        exact absurd hLe (not_le.mpr hRollback)
      · have hLe := not_lt.mp hRollback
        unfold Decides Sound
        rw [neverBack_iff_of_certain
          (decide_eq_false hRollback), reading_at_base rfl]
        refine ⟨fun hBoth _ => hBoth.1, ?_⟩
        intro hShown
        refine ⟨⟨hShown ⟨rfl, hLe⟩, ?_⟩,
          hBound _ hStored.symm rfl⟩
        refine hSound.2.persisted_le_iff.mpr ?_
        intro last hLast
        rw [hStored] at hLast
        cases hLast
        exact hLe

theorem Decides.of_iff
    {next : ClockRun}
    {condition other : Prop}
    (hDecides : next.Decides condition)
    (hIff : condition ↔ other) : next.Decides other :=
  ⟨fun hBack => hIff.mp (hDecides.1 hBack),
    fun hOther => hDecides.2 (hIff.mpr hOther)⟩

theorem decides_step
    (event : ClockEvent)
    (hSound : c.Sound) :
    (c.step event).Decides (c.Kept event) := by
  cases event with
  | elapse ns =>
      refine ⟨fun _ => trivial, fun _ =>
        ⟨?_, hSound.2.1, hSound.2.2⟩⟩
      have hLater := reading_elapse (c := c) ns
      intro time hTime
      rcases now?_eq_some_iff.mp hTime with ⟨hCertain, rfl⟩
      have hBefore : c.isUncertain = false := hCertain
      rcases (neverBack_iff_of_certain hBefore).mp hSound.1
        with ⟨hShown, hKnown⟩
      exact ⟨fun shown hMem => le_trans (hShown shown hMem)
          hLater,
        fun known hMem => le_trans (hKnown known hMem) hLater⟩
  | initializeClock wallclock readable persists =>
      cases hStored : c.stored with
      | none =>
          refine (decides_firstStart hSound hStored wallclock
            readable persists).of_iff ?_
          exact ⟨fun h _ => h, fun h => h (.inl hStored)⟩
      | some known =>
          refine (decides_laterStart hSound hStored wallclock
            readable persists).of_iff (imp_congr_left ?_)
          rw [hStored]
          constructor
          · rintro ⟨hReadable, hLe⟩
            refine .inr ⟨hReadable, ?_⟩
            rintro _ hSame
            cases hSame
            exact hLe
          · rintro (hNone | ⟨hReadable, hLe⟩)
            · cases hNone
            · exact ⟨hReadable, hLe known rfl⟩
  | updateAnchor backendTimestamp persists =>
      exact decides_updateAnchor hSound backendTimestamp
        persists
  | now =>
      refine ⟨fun _ => trivial, fun _ =>
        ⟨?_, hSound.2.1, hSound.2.2⟩⟩
      intro time hTime
      rcases now?_eq_some_iff.mp hTime with ⟨hCertain, rfl⟩
      have hBefore : c.isUncertain = false := hCertain
      have hNow : c.now? = some c.reading :=
        now?_eq_some_iff.mpr ⟨hBefore, rfl⟩
      refine ⟨?_,
        ((neverBack_iff_of_certain hBefore).mp hSound.1).2⟩
      intro shown hShown
      change (match c.now? with
        | some time => some time
        | none => c.shown) = some shown at hShown
      rw [hNow] at hShown
      cases hShown
      exact le_refl c.reading
  | restart wallclock hrtime =>
      exact ⟨fun _ => trivial, fun _ =>
        ⟨neverBack_of_uncertain rfl, hSound.2.1, hSound.2.2⟩⟩

------------------------------------------------------------
-- Runs
------------------------------------------------------------

theorem sound_start
    (stored : Option Rat)
    (wallclock hrtime : Int) :
    (start stored wallclock hrtime).Sound := by
  refine ⟨neverBack_of_uncertain rfl, ?_, ?_⟩
  · intro known hKnown
    exact ⟨known, Option.mem_toList.mp hKnown, le_refl _⟩
  · intro known hKnown
    exact Option.mem_toList.mpr hKnown

/-
  Throughout a run the clock does not go back exactly when no
  anchor and no wall clock takes it back.
-/
theorem never_back_throughout_iff
    (stored : Option Rat)
    (wallclock hrtime : Int)
    (events : List ClockEvent) :
    Throughout step NeverBack (start stored wallclock hrtime)
        events ↔
      Along step Kept (start stored wallclock hrtime)
        events :=
  throughout_iff_along_of_kept
    (fun _ hSound => hSound.1)
    (fun _ event hSound hBack =>
      (decides_step event hSound).1 hBack)
    (fun _ event hSound hKept =>
      (decides_step event hSound).2 hKept)
    events (sound_start stored wallclock hrtime)

/- An anchor between the one before and what was shown. -/
def anchoredRun : List ClockEvent :=
  [.initializeClock 1000 true true, .elapse 500000000, .now,
    .updateAnchor 1200 true, .now]

theorem anchor_takes_clock_back :
    (run step (start none 1000 0)
        (anchoredRun.take 3)).now? = some 1500 ∧
    (run step (start none 1000 0) anchoredRun).now? =
      some 1200 ∧
    ¬ Throughout step NeverBack (start none 1000 0)
        anchoredRun := by
  refine ⟨by decide +kernel, by decide +kernel, ?_⟩
  intro hAll
  have hBack :=
    hAll (anchoredRun.take 4) [.now] rfl 1200
      (by decide +kernel)
  have hLe := hBack.1 1500 (by decide +kernel)
  revert hLe
  decide +kernel

end ClockRun

end ControlPlane
