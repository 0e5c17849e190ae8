/-
  Runs of deterministic transition systems.

  A system is a step function from a state and an event to
  the next state. `Along step ok state events` says that
  every event of a run meets `ok` in the state it is taken
  from, so a property of a whole run follows from what one
  admissible step preserves.

  Main declarations:
    * `run` and `Along`
    * `run_invariant` and `Along.of_invariant`
    * `along_iff` and `Along.length_le`
    * `Throughout` and `throughout_iff_along`
    * `throughout_iff_along_of_invariant` and
      `throughout_iff_along_of_kept`
    * `along_congr_of_invariant` and `along_congr_of_kept`
    * `Reaches` and `Reaches.invariant`
-/

------------------------------------------------------------
-- Runs
------------------------------------------------------------

namespace ControlPlane

variable {σ ε : Type}

/- The state after a list of events. -/
def run
    (step : σ → ε → σ)
    (state : σ)
    (events : List ε) : σ :=
  events.foldl step state

/- Every event of the run is admissible where it is taken. -/
def Along
    (step : σ → ε → σ)
    (ok : σ → ε → Prop) :
    σ → List ε → Prop
| _, [] => True
| state, event :: events =>
    ok state event ∧
      Along step ok (step state event) events

instance Along.decidable
    (step : σ → ε → σ)
    (ok : σ → ε → Prop)
    [∀ state event, Decidable (ok state event)] :
    ∀ state events, Decidable (Along step ok state events)
| _, [] => inferInstanceAs (Decidable True)
| state, event :: events =>
    have : Decidable
        (Along step ok (step state event) events) :=
      Along.decidable step ok (step state event) events
    inferInstanceAs (Decidable (_ ∧ _))

@[simp] theorem run_nil
    (step : σ → ε → σ)
    (state : σ) :
    run step state [] = state := rfl

@[simp] theorem run_cons
    (step : σ → ε → σ)
    (state : σ)
    (event : ε)
    (events : List ε) :
    run step state (event :: events) =
      run step (step state event) events := rfl

theorem run_append
    (step : σ → ε → σ)
    (state : σ)
    (first second : List ε) :
    run step state (first ++ second) =
      run step (run step state first) second :=
  List.foldl_append

------------------------------------------------------------
-- Admissible Runs
------------------------------------------------------------

/-
  What every admissible step preserves holds at the end of
  every admissible run.
-/
theorem run_invariant
    {step : σ → ε → σ}
    {ok : σ → ε → Prop}
    {Inv : σ → Prop}
    (hStep :
      ∀ state event,
        Inv state → ok state event →
          Inv (step state event))
    {state : σ}
    {events : List ε}
    (hInv : Inv state)
    (hAlong : Along step ok state events) :
    Inv (run step state events) := by
  induction events generalizing state with
  | nil => exact hInv
  | cons event events ih =>
      exact ih (hStep state event hInv hAlong.1) hAlong.2

/- What every step preserves holds at the end of a run. -/
theorem run_keeps
    {step : σ → ε → σ}
    {Inv : σ → Prop}
    (hStep :
      ∀ state event, Inv state → Inv (step state event))
    {state : σ}
    (events : List ε)
    (hInv : Inv state) :
    Inv (run step state events) := by
  induction events generalizing state with
  | nil => exact hInv
  | cons event events ih =>
      exact ih (hStep state event hInv)

theorem along_append
    (step : σ → ε → σ)
    (ok : σ → ε → Prop)
    (state : σ)
    (first second : List ε) :
    Along step ok state (first ++ second) ↔
      Along step ok state first ∧
        Along step ok (run step state first) second := by
  induction first generalizing state with
  | nil => simp [Along]
  | cons event first ih =>
      simp [Along, ih, and_assoc]

/- Admissibility of a run, event by event. -/
theorem along_iff
    (step : σ → ε → σ)
    (ok : σ → ε → Prop)
    (state : σ)
    (events : List ε) :
    Along step ok state events ↔
      ∀ past event future,
        events = past ++ event :: future →
          ok (run step state past) event := by
  constructor
  · intro hAlong past event future hEvents
    rw [hEvents, along_append] at hAlong
    exact hAlong.2.1
  · intro hAll
    induction events generalizing state with
    | nil => trivial
    | cons event events ih =>
        refine ⟨hAll [] event events rfl, ?_⟩
        apply ih
        intro past later future hEvents
        exact hAll (event :: past) later future
          (by rw [hEvents, List.cons_append])

/- A property holds in every state a run passes through. -/
def Throughout
    (step : σ → ε → σ)
    (P : σ → Prop)
    (state : σ)
    (events : List ε) : Prop :=
  ∀ past future, events = past ++ future →
    P (run step state past)

/-
  When admissible steps are exactly those that keep a
  property, it holds throughout a run exactly when the run
  is admissible.
-/
theorem throughout_iff_along
    {step : σ → ε → σ}
    {ok : σ → ε → Prop}
    {Inv : σ → Prop}
    (hStep :
      ∀ state event, Inv state →
        (Inv (step state event) ↔ ok state event))
    {state : σ}
    (events : List ε)
    (hInv : Inv state) :
    Throughout step Inv state events ↔
      Along step ok state events := by
  constructor
  · intro hAll
    induction events generalizing state with
    | nil => trivial
    | cons event events ih =>
        have hNext : Inv (step state event) :=
          hAll [event] events rfl
        refine ⟨(hStep state event hInv).mp hNext, ?_⟩
        apply ih hNext
        intro past future hEvents
        exact hAll (event :: past) future
          (by rw [hEvents, List.cons_append])
  · intro hAlong past future hEvents
    rw [hEvents, along_append] at hAlong
    exact run_invariant
      (fun s e hs hOk => (hStep s e hs).mpr hOk)
      hInv hAlong.1

/-
  The same where an invariant that every step keeps helps
  to decide which steps are admissible.
-/
theorem throughout_iff_along_of_invariant
    {step : σ → ε → σ}
    {ok : σ → ε → Prop}
    {Inv P : σ → Prop}
    (hInvStep :
      ∀ state event, Inv state → Inv (step state event))
    (hStep :
      ∀ state event, Inv state → P state →
        (P (step state event) ↔ ok state event))
    {state : σ}
    (events : List ε)
    (hInv : Inv state)
    (hState : P state) :
    Throughout step P state events ↔
      Along step ok state events := by
  have hBoth :
      Throughout step (fun s => Inv s ∧ P s) state events ↔
        Along step ok state events := by
    apply throughout_iff_along
    · intro s event hs
      rw [← hStep s event hs.1 hs.2]
      exact and_iff_right (hInvStep s event hs.1)
    · exact ⟨hInv, hState⟩
  rw [← hBoth]
  constructor
  · intro hAll past future hEvents
    exact ⟨run_keeps hInvStep past hInv,
      hAll past future hEvents⟩
  · intro hAll past future hEvents
    exact (hAll past future hEvents).2

/-
  The same where the invariant is kept by admissible steps
  only, and says more than the property.
-/
theorem throughout_iff_along_of_kept
    {step : σ → ε → σ}
    {ok : σ → ε → Prop}
    {Inv P : σ → Prop}
    (hHolds : ∀ state, Inv state → P state)
    (hOk :
      ∀ state event, Inv state →
        P (step state event) → ok state event)
    (hKept :
      ∀ state event, Inv state →
        ok state event → Inv (step state event))
    {state : σ}
    (events : List ε)
    (hInv : Inv state) :
    Throughout step P state events ↔
      Along step ok state events := by
  constructor
  · intro hAll
    induction events generalizing state with
    | nil => trivial
    | cons event events ih =>
        have hEvent :=
          hOk state event hInv (hAll [event] events rfl)
        refine ⟨hEvent, ih (hKept state event hInv hEvent) ?_⟩
        intro past future hEvents
        exact hAll (event :: past) future
          (by rw [hEvents, List.cons_append])
  · intro hAlong past future hEvents
    rw [hEvents, along_append] at hAlong
    exact hHolds _ (run_invariant hKept hInv hAlong.1)

/- A weaker admissibility holds of the same run. -/
theorem Along.mono
    {step : σ → ε → σ}
    {ok weaker : σ → ε → Prop}
    (hWeaker :
      ∀ state event, ok state event →
        weaker state event)
    {state : σ}
    {events : List ε}
    (hAlong : Along step ok state events) :
    Along step weaker state events := by
  induction events generalizing state with
  | nil => trivial
  | cons event events ih =>
      exact ⟨hWeaker _ _ hAlong.1, ih hAlong.2⟩

theorem Along.of_forall
    {step : σ → ε → σ}
    {kind : ε → Prop}
    (state : σ)
    {events : List ε}
    (hAll : ∀ event ∈ events, kind event) :
    Along step (fun _ event => kind event) state events := by
  rw [along_iff]
  intro past event future hEvents
  apply hAll
  rw [hEvents]
  exact List.mem_append_right past List.mem_cons_self

theorem Along.and
    {step : σ → ε → σ}
    {ok other : σ → ε → Prop}
    {state : σ}
    {events : List ε}
    (hOk : Along step ok state events)
    (hOther : Along step other state events) :
    Along step
      (fun s event => ok s event ∧ other s event)
      state events := by
  induction events generalizing state with
  | nil => trivial
  | cons event events ih =>
      exact ⟨⟨hOk.1, hOther.1⟩, ih hOk.2 hOther.2⟩

/-
  Under an invariant that every step keeps, two notions of
  admissibility that agree admit the same runs.
-/
theorem along_congr_of_invariant
    {step : σ → ε → σ}
    {ok other : σ → ε → Prop}
    {Inv : σ → Prop}
    (hInvStep :
      ∀ state event, Inv state → Inv (step state event))
    (hAgree :
      ∀ state event, Inv state →
        (ok state event ↔ other state event))
    {state : σ}
    (events : List ε)
    (hInv : Inv state) :
    Along step ok state events ↔
      Along step other state events := by
  induction events generalizing state with
  | nil => exact Iff.rfl
  | cons event events ih =>
      exact and_congr (hAgree state event hInv)
        (ih (hInvStep state event hInv))

/-
  The same where only the good steps of an admissible run
  keep the invariant.
-/
theorem along_congr_of_kept
    {step : σ → ε → σ}
    {ok good other : σ → ε → Prop}
    {Inv : σ → Prop}
    (hAgree :
      ∀ state event, Inv state → ok state event →
        (good state event ↔ other state event))
    (hKept :
      ∀ state event, Inv state → ok state event →
        good state event → Inv (step state event))
    {state : σ}
    {events : List ε}
    (hInv : Inv state)
    (hAlong : Along step ok state events) :
    Along step good state events ↔
      Along step other state events := by
  induction events generalizing state with
  | nil => exact Iff.rfl
  | cons event events ih =>
      have hHead := hAgree state event hInv hAlong.1
      constructor
      · rintro ⟨hGood, hRest⟩
        have hNext :=
          hKept state event hInv hAlong.1 hGood
        exact ⟨hHead.mp hGood,
          (ih hNext hAlong.2).mp hRest⟩
      · rintro ⟨hOther, hRest⟩
        have hGood := hHead.mpr hOther
        have hNext :=
          hKept state event hInv hAlong.1 hGood
        exact ⟨hGood, (ih hNext hAlong.2).mpr hRest⟩

/-
  An invariant that admissible steps keep, and that makes
  each of them good, makes a whole admissible run good.
-/
theorem Along.of_invariant
    {step : σ → ε → σ}
    {ok good : σ → ε → Prop}
    {Inv : σ → Prop}
    (hStep :
      ∀ state event,
        Inv state → ok state event →
          Inv (step state event))
    (hGood :
      ∀ state event,
        Inv state → ok state event → good state event)
    {state : σ}
    {events : List ε}
    (hInv : Inv state)
    (hAlong : Along step ok state events) :
    Along step good state events := by
  induction events generalizing state with
  | nil => trivial
  | cons event events ih =>
      refine ⟨hGood state event hInv hAlong.1, ?_⟩
      exact ih (hStep state event hInv hAlong.1) hAlong.2

/-
  What is good of the states in a run with a record beside
  them is good of the run of the states alone.
-/
theorem Along.of_map
    {τ : Type}
    {step : σ → ε → σ}
    {inner : τ → ε → τ}
    {f : σ → τ}
    {good : τ → ε → Prop}
    (hStep :
      ∀ state event, f (step state event) =
        inner (f state) event)
    {state : σ}
    {events : List ε}
    (hAlong :
      Along step (fun s event => good (f s) event) state
        events) :
    Along inner good (f state) events := by
  induction events generalizing state with
  | nil => trivial
  | cons event events ih =>
      refine ⟨hAlong.1, ?_⟩
      rw [← hStep]
      exact ih hAlong.2

/- A run whose steps lower a measure is no longer than it. -/
theorem Along.length_le
    {step : σ → ε → σ}
    {ok : σ → ε → Prop}
    (measure : σ → Nat)
    (hStep :
      ∀ state event, ok state event →
        measure (step state event) < measure state)
    {state : σ}
    {events : List ε}
    (hAlong : Along step ok state events) :
    events.length ≤ measure state := by
  induction events generalizing state with
  | nil => exact Nat.zero_le _
  | cons event events ih =>
      have hRest := ih hAlong.2
      have hLess := hStep state event hAlong.1
      exact Nat.succ_le_of_lt (Nat.lt_of_le_of_lt hRest hLess)

------------------------------------------------------------
-- Reached States
------------------------------------------------------------

/-
  A state is reached by events of a kind. A system that is
  part of a larger one moves this way in each of its steps.
-/
def Reaches
    (step : σ → ε → σ)
    (kind : ε → Prop)
    (state next : σ) : Prop :=
  ∃ events,
    (∀ event ∈ events, kind event) ∧
      next = run step state events

namespace Reaches

variable {step : σ → ε → σ} {kind : ε → Prop}

theorem refl
    (state : σ) :
    Reaches step kind state state :=
  ⟨[], by simp, rfl⟩

theorem single
    {state : σ}
    {event : ε}
    (hKind : kind event) :
    Reaches step kind state (step state event) :=
  ⟨[event], by simpa using hKind, rfl⟩

theorem trans
    {state mid next : σ}
    (hFirst : Reaches step kind state mid)
    (hSecond : Reaches step kind mid next) :
    Reaches step kind state next := by
  rcases hFirst with ⟨first, hFirstKind, rfl⟩
  rcases hSecond with ⟨second, hSecondKind, rfl⟩
  refine ⟨first ++ second, ?_, ?_⟩
  · intro event hEvent
    rcases List.mem_append.mp hEvent with hLeft | hRight
    · exact hFirstKind event hLeft
    · exact hSecondKind event hRight
  · rw [run_append]

theorem mono
    {wider : ε → Prop}
    (hWider : ∀ event, kind event → wider event)
    {state next : σ}
    (hReaches : Reaches step kind state next) :
    Reaches step wider state next := by
  rcases hReaches with ⟨events, hKind, hNext⟩
  exact ⟨events, fun event hEvent =>
    hWider event (hKind event hEvent), hNext⟩

/- What every event of the kind preserves is preserved. -/
theorem invariant
    {Inv : σ → Prop}
    (hStep :
      ∀ state event,
        Inv state → kind event → Inv (step state event))
    {state next : σ}
    (hInv : Inv state)
    (hReaches : Reaches step kind state next) :
    Inv next := by
  rcases hReaches with ⟨events, hKind, rfl⟩
  induction events generalizing state with
  | nil => exact hInv
  | cons event events ih =>
      apply ih
      · exact hStep state event hInv
          (hKind event List.mem_cons_self)
      · intro later hLater
        exact hKind later (List.mem_cons_of_mem event hLater)

end Reaches

end ControlPlane
