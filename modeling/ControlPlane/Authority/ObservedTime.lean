import ControlPlane.Authority.Steps

/-
  The highest observed time of the row.

  A tick and a reconciliation carry the time of the row into
  their commits. The state in memory does not have it, so a
  commit from memory writes the wall clock instead. The time
  grows with every write of a run exactly when no such
  reading of the clock is below it.

  Main declarations:
    * `Authority.observedTime`
    * `TimeGrows` and `ClockKeepsUp`
    * `timeExact_commit` and `flow_timeExact`
    * `timeGrows_iff_clockKeepsUp`
-/

------------------------------------------------------------
-- Two Kinds Of Writes
------------------------------------------------------------

namespace ControlPlane

/- The time that is persisted, zero before the first row. -/
def Authority.observedTime
    (s : Authority) : Nat :=
  match s.row with
  | some row => row.highest_observed_time
  | none => 0

/- A write that does not take the time back. -/
def TimeGrows
    (a b : Authority) : Prop :=
  a.observedTime ≤ b.observedTime

theorem TimeGrows.refl
    (a : Authority) :
    TimeGrows a a :=
  Nat.le_refl _

theorem TimeGrows.trans
    (a b c : Authority)
    (hFirst : TimeGrows a b)
    (hSecond : TimeGrows b c) :
    TimeGrows a c :=
  Nat.le_trans hFirst hSecond

/- A write that reads no clock below the persisted time. -/
def ClockKeepsUp
    (a b : Authority) : Prop :=
  a.readings < b.readings → a.observedTime ≤ a.now

/- The call is as good for the one as for the other. -/
def TimeExact
    {α : Type}
    (t : Flow Authority α)
    (s : Authority) : Prop :=
  t.SameWrites TimeGrows ClockKeepsUp s

/- Writes that touch neither the row nor the clock. -/
def Silent
    (write : Authority → Authority) : Prop :=
  ∀ s, (write s).row = s.row ∧
    (write s).readings = s.readings

section Silent

variable {α β : Type} {s : Authority}

theorem Silent.both
    {write : Authority → Authority}
    (hSilent : Silent write)
    (s : Authority) :
    TimeGrows s (write s) ∧ ClockKeepsUp s (write s) := by
  constructor
  · simp [TimeGrows, Authority.observedTime, (hSilent s).1]
  · intro hRead
    rw [(hSilent s).2] at hRead
    omega

theorem timeExact_done
    (a : α) :
    TimeExact (pure a) s :=
  Iff.rfl

theorem timeExact_fail
    (message : String) :
    TimeExact (.fail message : Flow Authority α) s :=
  Iff.rfl

theorem timeExact_update
    {write : Authority → Authority}
    (hSilent : Silent write)
    (answer : Authority → α) :
    TimeExact (Flow.update write answer) s := by
  have hBoth := hSilent.both s
  exact Flow.sameWrites_of_both ⟨hBoth.1, trivial⟩
    ⟨hBoth.2, trivial⟩

theorem timeExact_modify
    {write : Authority → Authority}
    (hSilent : Silent write) :
    TimeExact (Flow.modify write) s :=
  timeExact_update hSilent _

theorem timeExact_read
    (f : Authority → α) :
    TimeExact (Flow.read f) s :=
  timeExact_update (fun _ => ⟨rfl, rfl⟩) f

theorem timeExact_turn :
    TimeExact (Flow.turn : Flow Authority Unit) s :=
  Iff.rfl

theorem timeExact_bind
    {t : Flow Authority α}
    {f : α → Flow Authority β}
    (hFirst : TimeExact t s)
    (hRest : ∀ a s', t.exec s = (.resolved a, s') →
      TimeExact (f a) s') :
    TimeExact (t >>= f) s :=
  Flow.sameWrites_bind hFirst hRest

/- Where the rest of a call does not depend on the state. -/
theorem timeExact_then
    {t : Flow Authority α}
    {f : α → Flow Authority β}
    (hFirst : TimeExact t s)
    (hRest : ∀ a s', TimeExact (f a) s') :
    TimeExact (t >>= f) s :=
  timeExact_bind hFirst (fun a s' _ => hRest a s')

/- What was read is that of the state. -/
theorem timeExact_reading
    {g : Authority → α}
    {f : α → Flow Authority β}
    (hRest : TimeExact (f (g s)) s) :
    TimeExact (Flow.read g >>= f) s := by
  apply timeExact_bind (timeExact_read g)
  intro a s' hExec
  cases hExec
  exact hRest

theorem timeExact_ite
    {p : Prop}
    [Decidable p]
    {t u : Flow Authority α}
    (hThen : p → TimeExact t s)
    (hElse : ¬p → TimeExact u s) :
    TimeExact (if p then t else u) s := by
  by_cases hTest : p
  · rw [if_pos hTest]
    exact hThen hTest
  · rw [if_neg hTest]
    exact hElse hTest

theorem timeExact_getSecurityStateRow :
    TimeExact getSecurityStateRow s :=
  timeExact_then timeExact_turn (fun _ _ =>
    timeExact_then (timeExact_read _) (fun _ _ =>
      timeExact_then timeExact_turn (fun _ _ =>
        timeExact_done _)))

/- The row that was read is that of the state. -/
theorem timeExact_stored
    {f : Option SecurityStateRow → Flow Authority β}
    (hRest : TimeExact (f s.row) s) :
    TimeExact (getSecurityStateRow >>= f) s := by
  apply timeExact_bind timeExact_getSecurityStateRow
  intro found s' hExec
  cases hExec
  exact hRest

theorem timeExact_writeEvent :
    TimeExact writeEvent s :=
  timeExact_then timeExact_turn (fun _ _ =>
    timeExact_then (timeExact_read _) (fun _ _ =>
      timeExact_then timeExact_turn (fun _ _ =>
        timeExact_done _)))

theorem timeExact_setRevokedSync
    (flag : Bool) :
    TimeExact (setRevokedSync flag) s :=
  timeExact_modify (fun _ => ⟨rfl, rfl⟩)

theorem timeExact_assign
    (f : StateData → StateData) :
    TimeExact (Flow.modify (Authority.assign f)) s :=
  timeExact_modify (fun _ => ⟨rfl, rfl⟩)

theorem timeExact_install
    (d : StateData) :
    TimeExact (Flow.modify (Authority.install d)) s :=
  timeExact_modify (fun _ => ⟨rfl, rfl⟩)

/- Taking a mutex is silent. -/
theorem timeExact_acquire
    {get : Authority → Mutex}
    {change : (Mutex → Mutex) → Authority → Authority}
    (hSilent : ∀ f, Silent (change f)) :
    TimeExact (Mutex.acquire get change) s := by
  refine timeExact_then
    (timeExact_update (hSilent Mutex.enter) get) ?_
  intro m s'
  refine timeExact_ite (fun _ => ?_)
    (fun _ => timeExact_done _)
  refine Flow.sameWrites_bind ?_ (fun _ s' _ =>
    timeExact_modify (hSilent Mutex.take))
  exact Flow.sameWrites_of_both (fun _ => trivial)
    (fun _ => trivial)

/- So is releasing it. -/
theorem released_both
    (change : (Mutex → Mutex) → Authority → Authority)
    (hSilent : ∀ f, Silent (change f))
    (s : Authority) :
    TimeGrows s (change Mutex.release s) ∧
      ClockKeepsUp s (change Mutex.release s) :=
  (hSilent Mutex.release).both s

end Silent

------------------------------------------------------------
-- Commits
------------------------------------------------------------

/- A time that a commit carries is not below the row's. -/
def Carries
    (next : NextStateData)
    (s : Authority) : Prop :=
  ∀ t, next.highest_observed_time = some t →
    s.observedTime ≤ t

section Commits

variable {s : Authority}

theorem everyWrite_highestTimeOf
    (R : Authority → Authority → Prop)
    (next : NextStateData) :
    (highestTimeOf next).EveryWrite R s ↔
      ((∀ t, next.highest_observed_time ≠ some (t + 1)) →
        R s s.tickClock) := by
  rcases next with ⟨_, _, _, _, _, time⟩
  cases time with
  | none =>
      simp [highestTimeOf, dateNow, Flow.update,
        Flow.EveryWrite]
  | some t =>
      cases t with
      | zero =>
          simp [highestTimeOf, dateNow, Flow.update,
            Flow.EveryWrite]
      | succ t => simp [highestTimeOf, Flow.EveryWrite]

theorem everyWrite_request
    {α : Type}
    (R : Authority → Authority → Prop)
    (write : Authority → Authority)
    (answer : Authority → α) :
    (Flow.request write answer).EveryWrite R s ↔
      R s (write s) := by
  simp [Flow.request, Flow.turn, Flow.waitFor, Flow.update,
    Flow.EveryWrite]

/- The writes of a commit, one after the other. -/
theorem everyWrite_commit
    (R : Authority → Authority → Prop)
    (version : Nat)
    (next : NextStateData) :
    (commitTransitionWithOCC version next).EveryWrite R s ↔
      ((∀ t, next.highest_observed_time ≠ some (t + 1)) →
        R s s.tickClock) ∧
      R (s.clockedFor next)
        ((s.clockedFor next).updateRow version
          (next.toRow (version + 1) (s.observedBy next))) ∧
      (s.atVersion version = false → version = 0 →
        R (s.clockedFor next)
          ((s.clockedFor next).insertRow
            (next.toRow (version + 1)
              (s.observedBy next)))) := by
  have hFound :
      (s.clockedFor next).atVersion version =
        s.atVersion version := rfl
  have hUnchanged :
      s.atVersion version = false →
        ∀ row, (s.clockedFor next).updateRow version row =
          s.clockedFor next := by
    intro hNot row
    rw [Authority.updateRow, hFound, hNot]
    rfl
  rw [commitTransitionWithOCC, Flow.everyWrite_bind,
    everyWrite_highestTimeOf, exec_highestTimeOf]
  refine and_congr_right (fun _ => ?_)
  constructor
  · intro hAll
    have hRest := hAll _ _ rfl
    rw [Flow.everyWrite_bind, everyWrite_request,
      Flow.exec_request] at hRest
    refine ⟨hRest.1, ?_⟩
    intro hNot hZero
    have hInsert := hRest.2 _ _ rfl
    rw [hFound, hNot, hUnchanged hNot] at hInsert
    simpa [hZero, everyWrite_request] using hInsert
  · rintro ⟨hUpdate, hInsert⟩ a s' hExec
    cases hExec
    rw [Flow.everyWrite_bind, everyWrite_request,
      Flow.exec_request]
    refine ⟨hUpdate, ?_⟩
    intro changed s' hExec
    cases hExec
    rw [hFound]
    cases hVersion : s.atVersion version with
    | true => trivial
    | false =>
        rw [hUnchanged hVersion]
        by_cases hZero : version = 0
        · simpa [hZero, everyWrite_request] using
            hInsert hVersion hZero
        · simp [hZero, Flow.EveryWrite]

/- A commit at the version of the row, or the first one. -/
theorem timeExact_commit
    {version : Nat}
    {next : NextStateData}
    (hFound :
      s.atVersion version = true ∨ s.row = none)
    (hCarries : Carries next s) :
    TimeExact (commitTransitionWithOCC version next) s := by
  have hTick : TimeGrows s s.tickClock := Nat.le_refl _
  have hClock :
      ClockKeepsUp s s.tickClock ↔ s.observedTime ≤ s.now := by
    simp [ClockKeepsUp, Authority.tickClock]
  have hKeepsUpdate :
      ∀ row, ClockKeepsUp (s.clockedFor next)
        ((s.clockedFor next).updateRow version row) := by
    intro row hRead
    unfold Authority.updateRow at hRead
    split at hRead <;> exact absurd hRead (Nat.lt_irrefl _)
  have hKeepsInsert :
      ∀ row, ClockKeepsUp (s.clockedFor next)
        ((s.clockedFor next).insertRow row) := by
    intro row hRead
    unfold Authority.insertRow at hRead
    split at hRead <;> exact absurd hRead (Nat.lt_irrefl _)
  rw [TimeExact, Flow.SameWrites, everyWrite_commit,
    everyWrite_commit]
  simp only [hTick, hClock, hKeepsUpdate, hKeepsInsert,
    implies_true, true_and, and_true]
  rcases hFound with hVersion | hNone
  · have hUpdated :
        TimeGrows (s.clockedFor next)
            ((s.clockedFor next).updateRow version
              (next.toRow (version + 1)
                (s.observedBy next))) ↔
          s.observedTime ≤ s.observedBy next := by
      have hSame :
          (s.clockedFor next).atVersion version = true :=
        hVersion
      rw [Authority.updateRow, hSame]
      exact Iff.rfl
    simp only [hUpdated, hVersion, Bool.true_eq_false,
      false_implies, and_true]
    rcases next with ⟨_, _, _, _, _, time⟩
    cases time with
    | none => simp [Authority.observedBy]
    | some t =>
        cases t with
        | zero => simp [Authority.observedBy]
        | succ t =>
            simp only [Authority.observedBy]
            simpa using hCarries (t + 1) rfl
  · have hZero : s.observedTime = 0 := by
      simp [Authority.observedTime, hNone]
    have hGrows :
        ∀ b, TimeGrows (s.clockedFor next) b := by
      intro b
      have hSame :
          (s.clockedFor next).observedTime = 0 := hZero
      rw [TimeGrows, hSame]
      exact Nat.zero_le _
    simp [hGrows, hZero]

end Commits

------------------------------------------------------------
-- Every Call
------------------------------------------------------------

section Calls

variable {s : Authority} {row : SecurityStateRow}

/- A commit that carries no time. -/
theorem timeExact_commit_memory
    {next : NextStateData}
    (hRow : s.row = some row)
    (hNext : next.highest_observed_time = none) :
    TimeExact
      (commitTransitionWithOCC row.state_version next) s := by
  apply timeExact_commit (Or.inl (atVersion_of_row hRow))
  intro t hSome
  rw [hNext] at hSome
  cases hSome

/- A commit that carries a time the row does not exceed. -/
theorem timeExact_commit_row
    {next : NextStateData}
    {time : Nat}
    (hRow : s.row = some row)
    (hNext : next.highest_observed_time = some time)
    (hTime : row.highest_observed_time ≤ time) :
    TimeExact
      (commitTransitionWithOCC row.state_version next) s := by
  apply timeExact_commit (Or.inl (atVersion_of_row hRow))
  intro t hSome
  rw [hNext] at hSome
  cases hSome
  simpa [Authority.observedTime, hRow] using hTime

theorem timeExact_transitionBody
    (ref : Nat)
    (event : TransitionEvent)
    (payload : TransitionPayload) :
    TimeExact (transitionBody ref event payload) s := by
  apply timeExact_stored
  apply timeExact_reading
  cases hRow : s.row with
  | none => exact timeExact_fail _
  | some row =>
      cases s.deref ref with
      | none => exact timeExact_fail _
      | some d =>
          refine timeExact_ite (fun _ => timeExact_done _) ?_
          intro hSame
          have hVersion :
              d.state_version = row.state_version := by
            simpa using hSame
          cases getTransition d.state event with
          | none =>
              exact timeExact_then timeExact_writeEvent
                (fun _ _ => timeExact_done _)
          | some transitionDef =>
              refine timeExact_ite (fun _ => ?_) (fun _ => ?_)
              · exact timeExact_then timeExact_writeEvent
                  (fun _ _ => timeExact_done _)
              · refine timeExact_then ?_ ?_
                · rw [hVersion]
                  exact timeExact_commit_memory hRow rfl
                · intro committed s₁
                  refine timeExact_ite
                    (fun _ => timeExact_done _) (fun _ => ?_)
                  refine timeExact_then timeExact_writeEvent
                    (fun _ s₂ => ?_)
                  split
                  · exact timeExact_fail _
                  · exact timeExact_then
                      (timeExact_setRevokedSync _)
                      (fun _ _ => timeExact_done _)

theorem timeExact_dispatch
    (event : TransitionEvent)
    (payload : TransitionPayload) :
    TimeExact (dispatch event payload) s := by
  refine timeExact_then (timeExact_read _) ?_
  intro current s₁
  cases current with
  | none => exact timeExact_fail _
  | some ref =>
      refine timeExact_then ?_ ?_
      · refine timeExact_then
          (timeExact_acquire (fun _ _ => ⟨rfl, rfl⟩)) ?_
        intro _ s₂
        apply Flow.sameWrites_ensuring
          (timeExact_transitionBody ref event payload)
        exact released_both Authority.withStateMachineMutex
          (fun _ _ => ⟨rfl, rfl⟩)
      · intro result s₂
        cases result with
        | success next =>
            exact timeExact_then (timeExact_install next)
              (fun _ _ => timeExact_done _)
        | failure error => exact timeExact_done _

theorem timeExact_syncRevokedFlag :
    TimeExact syncRevokedFlag s :=
  timeExact_modify (fun _ => ⟨rfl, rfl⟩)

theorem timeExact_coldBoot
    (hRow : s.row = some row) :
    TimeExact (coldBoot row) s := by
  apply timeExact_reading
  refine timeExact_ite (fun _ => ?_) (fun _ => ?_)
  · exact timeExact_then (timeExact_install _)
      (fun _ _ => timeExact_syncRevokedFlag)
  · apply timeExact_bind (timeExact_install _)
    intro _ s₁ hInstall
    cases hInstall
    refine timeExact_then
      (timeExact_commit_memory hRow rfl) (fun _ _ => ?_)
    exact timeExact_then (timeExact_assign _)
      (fun _ _ => timeExact_setRevokedSync true)

theorem timeExact_bootFrom
    (hRow : s.row = some row) :
    TimeExact (bootFrom row) s := by
  unfold bootFrom
  split
  · exact timeExact_then (timeExact_install _)
      (fun _ _ => timeExact_setRevokedSync true)
  · exact timeExact_then (timeExact_install _)
      (fun _ _ => timeExact_setRevokedSync true)
  · exact timeExact_then (timeExact_install _)
      (fun _ _ => timeExact_setRevokedSync true)
  · refine timeExact_then (timeExact_install _)
      (fun _ _ => ?_)
    refine timeExact_then (timeExact_dispatch _ _)
      (fun _ _ => ?_)
    refine timeExact_then (timeExact_read _) (fun _ _ => ?_)
    exact timeExact_then (timeExact_dispatch _ _)
      (fun _ _ => timeExact_syncRevokedFlag)
  · exact timeExact_coldBoot hRow

theorem timeExact_initializeFacade :
    TimeExact initializeFacade s := by
  refine timeExact_then timeExact_turn (fun _ s => ?_)
  have hEstablish : TimeExact establishRow s := by
    apply timeExact_stored
    cases hRow : s.row with
    | some row => exact timeExact_done _
    | none =>
        refine timeExact_then ?_
          (fun _ _ => timeExact_getSecurityStateRow)
        apply timeExact_commit (Or.inr hRow)
        intro t hSome
        cases hSome
  have hRead :
      ∀ a s', establishRow.exec s = (.resolved a, s') →
        s'.row = a := by
    intro a s' hExec
    cases hRow : s.row with
    | some row =>
        simp only [establishRow, Flow.exec_bind,
          exec_getSecurityStateRow, hRow] at hExec
        cases hExec
        exact hRow
    | none =>
        simp only [establishRow, Flow.exec_bind,
          exec_getSecurityStateRow, hRow,
          exec_commit_first hRow] at hExec
        cases hExec
        rfl
  apply timeExact_bind hEstablish
  intro rawState s₁ hExec
  cases rawState with
  | none => exact timeExact_fail _
  | some row => exact timeExact_bootFrom (hRead _ _ hExec)

theorem timeExact_ensureInitialized :
    TimeExact ensureInitialized s := by
  refine timeExact_then (timeExact_read _) (fun _ _ => ?_)
  exact timeExact_ite (fun _ => timeExact_initializeFacade)
    (fun _ => timeExact_done _)

theorem timeExact_revokeLicense :
    TimeExact revokeLicense s := by
  refine timeExact_then (timeExact_setRevokedSync true)
    (fun _ _ => ?_)
  refine timeExact_then
    (Flow.sameWrites_catching (timeExact_dispatch _ _)
      (fun _ _ _ => timeExact_done _)) (fun _ _ => ?_)
  refine timeExact_then ?_ (fun _ _ => timeExact_done _)
  refine timeExact_then (timeExact_read _) (fun _ _ => ?_)
  refine timeExact_ite (fun _ => ?_)
    (fun _ => timeExact_done _)
  refine timeExact_then (timeExact_assign _) (fun _ s₁ => ?_)
  apply timeExact_stored
  cases hRow : s₁.row with
  | none => exact timeExact_done _
  | some row =>
      refine timeExact_ite (fun _ => ?_)
        (fun _ => timeExact_done _)
      apply timeExact_reading
      cases s₁.inMemoryState with
      | none => exact timeExact_done _
      | some d =>
          exact timeExact_then
            (timeExact_commit_memory hRow rfl)
            (fun _ _ => timeExact_done _)

theorem timeExact_login
    (payload : AuthPayload)
    (production : Bool)
    (currentState : SecurityState) :
    TimeExact (login payload production currentState) s := by
  refine timeExact_ite (fun _ => ?_) (fun _ => ?_)
  · refine timeExact_then (timeExact_dispatch _ _)
      (fun _ _ => ?_)
    refine timeExact_ite (fun _ => timeExact_done _)
      (fun _ => ?_)
    refine timeExact_then (timeExact_dispatch _ _)
      (fun _ _ => ?_)
    refine timeExact_ite (fun _ => timeExact_done _)
      (fun _ => ?_)
    refine timeExact_ite (fun _ => ?_) (fun _ => ?_)
    · exact timeExact_then (timeExact_setRevokedSync false)
        (fun _ _ => timeExact_done _)
    · refine timeExact_then (timeExact_dispatch _ _)
        (fun _ _ => ?_)
      refine timeExact_ite (fun _ => ?_)
        (fun _ => timeExact_done _)
      exact timeExact_then (timeExact_setRevokedSync false)
        (fun _ _ => timeExact_done _)
  · exact timeExact_then (timeExact_read _)
      (fun _ _ => timeExact_done _)

theorem timeExact_establishSession
    (payload : AuthPayload) :
    TimeExact (establishSession payload) s := by
  refine timeExact_then timeExact_ensureInitialized
    (fun _ _ => ?_)
  refine timeExact_ite (fun _ => timeExact_done _)
    (fun _ => ?_)
  refine timeExact_ite (fun _ => ?_) (fun _ => ?_)
  · exact timeExact_then timeExact_revokeLicense
      (fun _ _ => timeExact_done _)
  · refine timeExact_then (timeExact_read _) (fun _ _ => ?_)
    refine timeExact_then (timeExact_read _) (fun _ _ => ?_)
    refine timeExact_ite (fun _ => ?_)
      (fun _ => timeExact_login _ _ _)
    refine timeExact_then (timeExact_dispatch _ _)
      (fun _ _ => ?_)
    refine timeExact_ite (fun _ => ?_)
      (fun _ => timeExact_login _ _ _)
    exact timeExact_then (timeExact_setRevokedSync false)
      (fun _ _ => timeExact_done _)

theorem timeExact_followCommit
    (version : Nat)
    (committed : Bool) :
    TimeExact (followCommit version committed) s :=
  timeExact_ite (fun _ => timeExact_assign _)
    (fun _ => timeExact_done _)

theorem timeExact_logout :
    TimeExact logout s := by
  refine timeExact_then (timeExact_dispatch _ _)
    (fun _ _ => ?_)
  refine timeExact_then (timeExact_dispatch _ _)
    (fun _ _ => ?_)
  refine timeExact_then (timeExact_assign _) (fun _ s₁ => ?_)
  apply timeExact_stored
  apply timeExact_reading
  cases hRow : s₁.row with
  | none => exact timeExact_done _
  | some row =>
      cases s₁.inMemoryState with
      | none => exact timeExact_done _
      | some d =>
          exact timeExact_then
            (timeExact_commit_memory hRow rfl)
            (fun _ _ => timeExact_followCommit _ _)

theorem timeExact_transitionToUnauthenticated :
    TimeExact transitionToUnauthenticated s := by
  refine timeExact_then timeExact_ensureInitialized
    (fun _ _ => ?_)
  refine timeExact_then (timeExact_read _) (fun _ _ => ?_)
  refine timeExact_ite (fun _ => ?_)
    (fun _ => timeExact_done _)
  refine timeExact_then (timeExact_assign _) (fun _ s₁ => ?_)
  apply timeExact_stored
  apply timeExact_reading
  cases hRow : s₁.row with
  | none => exact timeExact_done _
  | some row =>
      cases s₁.inMemoryState with
      | none => exact timeExact_done _
      | some d =>
          refine timeExact_ite (fun _ => ?_)
            (fun _ => timeExact_done _)
          exact timeExact_then
            (timeExact_commit_memory hRow rfl)
            (fun _ _ => timeExact_followCommit _ _)

theorem timeExact_authenticate
    (credentials : AuthPayload) :
    TimeExact (authenticate credentials) s := by
  refine timeExact_ite
    (fun _ => timeExact_establishSession _) (fun _ => ?_)
  refine timeExact_then (timeExact_read _) (fun _ _ => ?_)
  exact timeExact_ite (fun _ => timeExact_done _)
    (fun _ => timeExact_establishSession _)

theorem timeExact_enterOfflineGrace
    (lease : Lease) :
    TimeExact (enterOfflineGrace lease) s := by
  refine timeExact_then (timeExact_read _) (fun _ _ => ?_)
  refine timeExact_ite (fun _ => ?_)
    (fun _ => timeExact_done _)
  refine timeExact_then (timeExact_dispatch _ _)
    (fun _ _ => ?_)
  refine timeExact_ite (fun _ => ?_)
    (fun _ => timeExact_done _)
  exact timeExact_then (timeExact_setRevokedSync false)
    (fun _ _ => timeExact_done _)

theorem timeExact_loseBackend :
    TimeExact loseBackend s := by
  refine timeExact_then (timeExact_read _) (fun _ _ => ?_)
  refine timeExact_then (timeExact_dispatch _ _)
    (fun _ _ => ?_)
  exact timeExact_then (timeExact_dispatch _ _)
    (fun _ _ => timeExact_done _)

/- The flag is the last thing that a degradation sets. -/
theorem timeExact_flagged
    (flag : Bool) :
    TimeExact
      (setRevokedSync flag >>= fun _ => pure true) s :=
  timeExact_then (timeExact_setRevokedSync flag)
    (fun _ _ => timeExact_done _)

theorem timeExact_transitionToDegraded
    (reason : String) :
    TimeExact (transitionToDegraded reason) s := by
  refine timeExact_then (timeExact_read _) (fun _ _ => ?_)
  refine timeExact_ite (fun _ => ?_) (fun _ => ?_)
  · refine timeExact_ite (fun _ => ?_) (fun _ => ?_)
    · exact timeExact_then timeExact_loseBackend
        (fun _ _ => timeExact_flagged false)
    · exact timeExact_ite (fun _ => timeExact_flagged false)
        (fun _ => timeExact_enterOfflineGrace _)
  · refine timeExact_ite (fun _ => ?_) (fun _ => ?_)
    · refine timeExact_then timeExact_loseBackend
        (fun _ _ => ?_)
      exact timeExact_then (timeExact_dispatch _ _)
        (fun _ _ => timeExact_flagged true)
    · refine timeExact_ite (fun _ => ?_)
        (fun _ => timeExact_flagged true)
      exact timeExact_then (timeExact_dispatch _ _)
        (fun _ _ => timeExact_flagged true)

/- The time that a tick leaves behind. -/
theorem observeTime_observes
    (hRow : s.row = some row)
    {now version : Nat}
    {s' : Authority}
    (hNow : row.highest_observed_time ≤ now)
    (hExec :
      (observeTime row now).exec s =
        (.resolved version, s')) :
    s'.atVersion version = true ∧ s'.observedTime = now := by
  unfold observeTime at hExec
  split at hExec
  · rename_i hLater
    rw [Flow.exec_bind_of
      (exec_commit (atVersion_of_row hRow))] at hExec
    cases hExec
    refine ⟨decide_eq_true rfl, ?_⟩
    rcases Nat.exists_eq_succ_of_ne_zero
      (Nat.ne_zero_of_lt hLater) with ⟨t, rfl⟩
    rfl
  · cases hExec
    refine ⟨atVersion_of_row hRow, ?_⟩
    simp only [Authority.observedTime, hRow]
    omega

theorem timeExact_observeTime
    (hRow : s.row = some row)
    (now : Nat) :
    TimeExact (observeTime row now) s := by
  refine timeExact_ite (fun hLater => ?_)
    (fun _ => timeExact_done _)
  exact timeExact_then
    (timeExact_commit_row hRow rfl (Nat.le_of_lt hLater))
    (fun _ _ => timeExact_done _)

theorem timeExact_expireGrace
    {now version : Nat}
    (hVersion : s.atVersion version = true)
    (hTime : s.observedTime = now) :
    TimeExact (expireGrace row now version) s := by
  apply timeExact_bind (timeExact_setRevokedSync true)
  intro _ s₁ hSet
  cases hSet
  have hRevoked :
      (s.setRevoked true).atVersion version = true := hVersion
  refine timeExact_then ?_ (fun _ _ => ?_)
  · apply timeExact_commit (Or.inl hRevoked)
    intro t hSome
    cases hSome
    exact Nat.le_of_eq hTime
  · exact timeExact_then timeExact_turn
      (fun _ _ => timeExact_assign _)

theorem timeExact_checkTimeBounds
    (clock : Option Nat) :
    TimeExact (checkTimeBounds clock) s := by
  apply timeExact_stored
  cases hRow : s.row with
  | none => exact timeExact_done _
  | some row =>
      cases clock with
      | none => exact timeExact_fail _
      | some now =>
          refine timeExact_ite (fun _ => ?_)
            (fun hNow => ?_)
          · exact timeExact_then
              (timeExact_setRevokedSync true)
              (fun _ _ => timeExact_fail _)
          · apply timeExact_bind
              (timeExact_observeTime hRow now)
            intro version s₁ hExec
            have hLeft :=
              observeTime_observes hRow (Nat.not_lt.mp hNow)
                hExec
            exact timeExact_ite
              (fun _ => timeExact_expireGrace hLeft.1 hLeft.2)
              (fun _ => timeExact_done _)

theorem timeExact_applyWipe :
    TimeExact applyWipe s := by
  apply timeExact_stored
  cases hRow : s.row with
  | none => exact timeExact_done _
  | some row =>
      refine timeExact_then
        (timeExact_commit_row hRow rfl (Nat.le_refl _))
        (fun _ _ => ?_)
      exact timeExact_then (timeExact_assign _)
        (fun _ _ => timeExact_setRevokedSync true)

theorem timeExact_applySync
    (authoritativeState : Option AuthoritativeState)
    (retries : Nat) :
    TimeExact (applySync authoritativeState retries) s := by
  induction retries generalizing s with
  | zero => exact timeExact_fail _
  | succ retries ih =>
      apply timeExact_stored
      cases hRow : s.row with
      | none => exact timeExact_done _
      | some row =>
          cases authoritativeState with
          | none => exact timeExact_fail _
          | some backend =>
              refine timeExact_then
                (timeExact_commit_row hRow rfl
                  (Nat.le_refl _)) (fun _ _ => ?_)
              refine timeExact_ite (fun _ => ?_)
                (fun _ => ih)
              refine timeExact_then (timeExact_assign _)
                (fun _ _ => ?_)
              exact timeExact_then timeExact_writeEvent
                (fun _ _ => timeExact_setRevokedSync false)

theorem timeExact_applyAnswer
    (answer : ReconcileAnswer) :
    TimeExact (applyAnswer answer) s := by
  cases answer with
  | failed message => exact timeExact_fail _
  | WIPE =>
      exact timeExact_then timeExact_applyWipe
        (fun _ _ => timeExact_done _)
  | SYNC authoritativeState =>
      exact timeExact_then (timeExact_applySync _ 3)
        (fun _ _ => timeExact_done _)
  | other => exact timeExact_done _

theorem timeExact_reconcileBody
    (answer : ReconcileAnswer) :
    TimeExact (reconcileBody answer) s := by
  apply timeExact_stored
  cases hRow : s.row with
  | none => exact timeExact_done _
  | some row =>
      refine timeExact_ite (fun _ => timeExact_done _)
        (fun _ => ?_)
      refine timeExact_then
        (timeExact_commit_row hRow rfl (Nat.le_refl _))
        (fun _ _ => ?_)
      exact timeExact_then timeExact_turn
        (fun _ _ => timeExact_applyAnswer answer)

theorem timeExact_triggerReconciliation
    (answer : ReconcileAnswer) :
    TimeExact (triggerReconciliation answer) s := by
  refine timeExact_then
    (timeExact_acquire (fun _ _ => ⟨rfl, rfl⟩))
    (fun _ _ => ?_)
  refine Flow.sameWrites_ensuring
    (Flow.sameWrites_catching (timeExact_reconcileBody answer)
      (fun _ _ _ => timeExact_done _)) ?_
  exact released_both Authority.withReconcileMutex
    (fun _ _ => ⟨rfl, rfl⟩)

/- Every call of a run writes the two alike. -/
theorem flow_timeExact
    (op : SecurityOp)
    (s : Authority) :
    TimeExact op.flow s := by
  cases op with
  | restart machineIdentityValid =>
      exact timeExact_then
        (timeExact_modify (fun _ => ⟨rfl, rfl⟩))
        (fun _ _ => timeExact_initializeFacade)
  | establishSession payload =>
      exact timeExact_then (timeExact_establishSession _)
        (fun _ _ => timeExact_done _)
  | authenticate credentials =>
      exact timeExact_then (timeExact_authenticate _)
        (fun _ _ => timeExact_done _)
  | logout => exact timeExact_logout
  | transitionToUnauthenticated =>
      exact timeExact_transitionToUnauthenticated
  | enterOfflineGrace lease =>
      exact timeExact_then (timeExact_enterOfflineGrace _)
        (fun _ _ => timeExact_done _)
  | transitionToDegraded reason =>
      exact timeExact_then (timeExact_transitionToDegraded _)
        (fun _ _ => timeExact_done _)
  | revokeLicense =>
      exact timeExact_then timeExact_revokeLicense
        (fun _ _ => timeExact_done _)
  | checkTimeBounds clock =>
      exact timeExact_checkTimeBounds clock
  | triggerReconciliation answer =>
      exact timeExact_then (timeExact_triggerReconciliation _)
        (fun _ _ => timeExact_done _)

end Calls

------------------------------------------------------------
-- Every Run
------------------------------------------------------------

/- The writes of an operation where it is taken. -/
def OpWrites
    (R : Authority → Authority → Prop)
    (s : Authority)
    (op : SecurityOp) : Prop :=
  op.flow.EveryWrite R s

theorem step_timeGrows
    {s : Authority}
    {op : SecurityOp}
    (hWrites : OpWrites TimeGrows s op) :
    s.observedTime ≤ (s.step op).observedTime :=
  Flow.EveryWrite.exec TimeGrows.refl TimeGrows.trans hWrites

theorem run_timeGrows
    {s : Authority}
    {ops : List SecurityOp}
    (hWrites :
      Along Authority.step (OpWrites TimeGrows) s ops) :
    s.observedTime ≤
      (run Authority.step s ops).observedTime := by
  induction ops generalizing s with
  | nil => exact Nat.le_refl _
  | cons op ops ih =>
      exact Nat.le_trans (step_timeGrows hWrites.1)
        (ih hWrites.2)

/- A tick that is not rejected leaves its time behind. -/
theorem tick_observes
    {s : Authority}
    {t : Nat}
    (hFound : s.row.isSome = true)
    (hTime : s.observedTime ≤ t) :
    t ≤ (s.step (.checkTimeBounds (some t))).observedTime := by
  rcases Option.isSome_iff_exists.mp hFound with ⟨row, hRow⟩
  have hNow : row.highest_observed_time ≤ t := by
    simpa [Authority.observedTime, hRow] using hTime
  rcases observeTime_spec hRow t with ⟨s₁, row₁, hExec, _⟩
  have hLeft := observeTime_observes hRow hNow hExec
  rw [Authority.step, SecurityOp.flow, checkTimeBounds,
    Flow.exec_bind_of (exec_getSecurityStateRow s), hRow]
  dsimp only
  rw [if_neg (by omega), Flow.exec_bind_of hExec]
  cases hOver : row.graceOver t with
  | false =>
      rw [if_neg (by simp)]
      exact Nat.le_of_eq hLeft.2.symm
  | true =>
      have hVersion :
          (s₁.setRevoked true).atVersion
            row₁.state_version = true := hLeft.1
      rw [if_pos rfl, expireGrace,
        Flow.exec_bind_of (exec_setRevokedSync true s₁),
        Flow.exec_bind_of (exec_commit hVersion),
        Flow.exec_bind_of (Flow.exec_turn _)]
      cases t with
      | zero => exact Nat.zero_le _
      | succ t => exact Nat.le_refl _

/- A clock below the persisted time is a rollback. -/
theorem rollback_of_lt
    {s : Authority}
    {now : Nat}
    (hNow : now < s.observedTime) :
    ((checkTimeBounds (some now)).exec s).1 =
      .rejected "SECURITY_STATE_UNCERTAIN: System clock was rolled back. Terminating offline grace." := by
  cases hRow : s.row with
  | none => simp [Authority.observedTime, hRow] at hNow
  | some row =>
      simp only [Authority.observedTime, hRow] at hNow
      rw [exec_checkTimeBounds_rollback hRow hNow]

/-
  The persisted time grows with every write of a run exactly
  when no commit reads a wall clock below it. Then a clock
  below the time of an accepted tick is reported whatever
  happened in between.
-/
theorem timeGrows_iff_clockKeepsUp
    (production : Bool)
    (wallClock : Nat → Nat)
    (ops : List SecurityOp) :
    (Along Authority.step (OpWrites TimeGrows)
        (Authority.fresh production wallClock) ops ↔
      Along Authority.step (OpWrites ClockKeepsUp)
        (Authority.fresh production wallClock) ops) ∧
    (Along Authority.step (OpWrites ClockKeepsUp)
        (Authority.fresh production wallClock) ops →
      ∀ before t later s now,
        ops = before ++ .checkTimeBounds (some t) :: later →
        s = run Authority.step
          (Authority.fresh production wallClock) before →
        s.row.isSome = true → s.observedTime ≤ t →
        now < t →
        ((checkTimeBounds (some now)).exec
          (run Authority.step
            (Authority.fresh production wallClock) ops)).1 =
          .rejected "SECURITY_STATE_UNCERTAIN: System clock was rolled back. Terminating offline grace.") := by
  have hSame :
      Along Authority.step (OpWrites TimeGrows)
          (Authority.fresh production wallClock) ops ↔
        Along Authority.step (OpWrites ClockKeepsUp)
          (Authority.fresh production wallClock) ops := by
    constructor
    · exact Along.mono
        (fun s op => (flow_timeExact op s).mp)
    · exact Along.mono
        (fun s op => (flow_timeExact op s).mpr)
  refine ⟨hSame, ?_⟩
  rintro hClock before t later s now rfl rfl hRow hTime hNow
  have hGrows := hSame.mpr hClock
  rw [along_append] at hGrows
  apply rollback_of_lt
  rw [run_append, run_cons]
  have hTick := tick_observes hRow hTime
  have hLater := run_timeGrows hGrows.2.2
  omega

/- Leaving a session takes the time back to the clock. -/
theorem unauthenticated_takes_time_back :
    let s := run Authority.step
      (Authority.fresh false (fun _ => 1))
      [.restart true, .checkTimeBounds (some 10)]
    s.observedTime = 10 ∧
    (s.step .transitionToUnauthenticated).observedTime = 1 ∧
    ((checkTimeBounds (some 5)).exec
      (s.step .transitionToUnauthenticated)).1 =
        .resolved () := by
  decide

end ControlPlane
