import ControlPlane.Authority.Sessions

/-
  Where the other operations end when they run alone.

  Main declarations:
    * `logout_spec`, `transitionToUnauthenticated_spec`
    * `enterOfflineGrace_spec`, `transitionToDegraded_spec`
    * `checkTimeBounds_spec`
    * `triggerReconciliation_spec`
-/

------------------------------------------------------------
-- Leaving A Session
------------------------------------------------------------

namespace ControlPlane

section Leaving

variable
  {s : Authority}
  {d : StateData}
  {row : SecurityStateRow}

/- A dispatch that finds no violation. -/
theorem dispatch_spec
    (h : s.Rests d row)
    (event : TransitionEvent)
    (payload : TransitionPayload)
    (hAssert :
      ∀ st, nextState d.state event payload.facts = some st →
        assertStateMachineInvariants (d.moved st payload) =
          none) :
    ∃ accepted s' d' row',
      (dispatch event payload).exec s =
        (.resolved accepted, s') ∧
      s'.Rests d' row' ∧
      ((accepted = false ∧ s' = s ∧ d' = d ∧ row' = row ∧
          (d.state_version ≠ row.state_version ∨
            nextState d.state event payload.facts = none)) ∨
        (accepted = true ∧
          d.state_version = row.state_version ∧
          nextState d.state event payload.facts =
            some d'.state ∧
          d'.session = (payload.sessionData <|> d.session) ∧
          Mirrors row' d')) := by
  by_cases hVersion : d.state_version = row.state_version
  · cases hNext : nextState d.state event payload.facts with
    | none =>
        exact ⟨false, s, d, row,
          dispatch_refused h.idle h.memory h.row hNext, h,
          Or.inl ⟨rfl, rfl, rfl, rfl, Or.inr rfl⟩⟩
    | some st =>
        exact ⟨true, _, _, _,
          dispatch_accepted h.idle h.memory h.row hVersion
            hNext (hAssert st hNext),
          h.advanced st payload,
          Or.inr ⟨rfl, hVersion, rfl, rfl,
            mirrors_advanced _ _ _ _⟩⟩
  · exact ⟨false, s, d, row,
      dispatch_conflict h.idle h.memory h.row hVersion, h,
      Or.inl ⟨rfl, rfl, rfl, rfl, Or.inl hVersion⟩⟩

/- Memory and row are cleared, and the versions agree. -/
theorem clearSession_spec
    (h : s.Rests d row) :
    ∃ s' d' row', clearSession.exec s = (.resolved (), s') ∧
      s'.Rests d' row' ∧ d'.state = d.state ∧
      d'.state_version = row'.state_version ∧
      d'.session = none ∧ d'.authorization = none ∧
      row'.state = .known .LOGGED_OUT := by
  have hCleared := h.assign StateData.clear
  rw [clearSession, Flow.exec_bind_of (Flow.exec_modify _ _),
    Flow.exec_bind_of (exec_getSecurityStateRow _),
    Flow.exec_bind_of (Flow.exec_read _ _), hCleared.row,
    hCleared.memory]
  dsimp only
  rw [Flow.exec_bind_of (hCleared.exec_commit _)]
  exact ⟨_, _, _, rfl,
    (hCleared.committed _ _).assign _, rfl, rfl, rfl, rfl,
    rfl⟩

/- The states that a logout leaves through the table. -/
theorem nextState_logout
    (st : SecurityState)
    (facts : TransitionFacts) :
    nextState st .LOGOUT_INTENT facts = none ∨
      nextState st .LOGOUT_INTENT facts =
        some .LOGGING_OUT := by
  cases st <;> first | exact Or.inl rfl | exact Or.inr rfl

theorem nextState_logout_complete
    (st : SecurityState) :
    nextState st .LOGOUT_SEQUENCE_COMPLETE
        { allStepsCompleted := true } =
      if st = .LOGGING_OUT then some .LOGGED_OUT
      else none := by
  cases st <;> rfl

/- The row is logged out, whatever is left in memory. -/
theorem logout_spec
    (h : s.Rests d row) :
    ∃ s' d' row', logout.exec s = (.resolved (), s') ∧
      s'.Rests d' row' ∧
      d'.state_version = row'.state_version ∧
      d'.session = none ∧ d'.authorization = none ∧
      row'.state = .known .LOGGED_OUT ∧
      (d'.state = .OPERATIONAL ↔
        d.state = .OPERATIONAL ∧
          d.state_version ≠ row.state_version) := by
  rcases dispatch_spec h .LOGOUT_INTENT {} (by
      intro st hNext
      rcases nextState_logout d.state {} with hNone | hSome
      · rw [hNone] at hNext
        cases hNext
      · rw [hSome] at hNext
        cases hNext
        apply assert_eq_none <;> simp) with
    ⟨a₁, s₁, d₁, row₁, hIntent, hRests₁, hCase₁⟩
  rcases dispatch_spec hRests₁ .LOGOUT_SEQUENCE_COMPLETE
      { facts := { allStepsCompleted := true } } (by
        intro st hNext
        rw [nextState_logout_complete] at hNext
        split at hNext
        · cases hNext
          apply assert_eq_none <;> simp
        · cases hNext) with
    ⟨a₂, s₂, d₂, row₂, hComplete, hRests₂, hCase₂⟩
  rcases clearSession_spec hRests₂ with
    ⟨s', d', row', hClear, hRests', hState, hRest⟩
  refine ⟨s', d', row', ?_, hRests', hRest.1, hRest.2.1,
    hRest.2.2.1, hRest.2.2.2, ?_⟩
  · rw [logout, Flow.exec_bind_of hIntent,
      Flow.exec_bind_of hComplete, hClear]
  · rw [hState]
    have hSecond :
        d₂.state = .OPERATIONAL ↔ d₁.state = .OPERATIONAL := by
      rcases hCase₂ with
        ⟨-, -, rfl, -, -⟩ | ⟨-, -, hNext, -, -⟩
      · exact Iff.rfl
      · rw [nextState_logout_complete] at hNext
        split at hNext
        · rename_i hLogging
          rw [hLogging, ← Option.some.inj hNext]
          simp
        · cases hNext
    rw [hSecond]
    rcases hCase₁ with
      ⟨-, -, rfl, -, hWhy⟩ | ⟨-, hVersion, hNext, -, -⟩
    · constructor
      · intro hOperational
        refine ⟨hOperational, ?_⟩
        rcases hWhy with hVersion | hNone
        · exact hVersion
        · rw [hOperational] at hNone
          cases hNone
      · exact fun hBoth => hBoth.1
    · have hLogging : d₁.state = .LOGGING_OUT := by
        rcases nextState_logout d.state {} with hNone | hSome
        · rw [hNone] at hNext
          cases hNext
        · rw [hSome] at hNext
          exact (Option.some.inj hNext).symm
      simp [hLogging, hVersion]

/- Without a state in memory a logout throws. -/
theorem exec_logout_uninitialized
    (hMemory : s.inMemoryState = none) :
    logout.exec s =
      (.rejected "DecisionEngine not initialized", s) := by
  rw [logout, Flow.exec_bind, dispatch_uninitialized hMemory]

/- The transition to unauthenticated. -/
theorem persistUnauthenticated_spec
    (h : s.Rests d row) :
    ∃ s' d' row',
      persistUnauthenticated.exec s = (.resolved (), s') ∧
      s'.Rests d' row' ∧ d'.state = .UNAUTHENTICATED ∧
      (row' = row ∨ row'.state = .known .UNAUTHENTICATED) ∧
      (d.state_version = row.state_version →
        d'.state_version = row'.state_version) := by
  have hWritten := h.assign StateData.unauthenticate
  rw [persistUnauthenticated,
    Flow.exec_bind_of (Flow.exec_modify _ _),
    Flow.exec_bind_of (exec_getSecurityStateRow _),
    Flow.exec_bind_of (Flow.exec_read _ _), hWritten.row,
    hWritten.memory]
  dsimp only
  by_cases hState : row.state = .known .UNAUTHENTICATED
  · rw [if_neg (fun hNe => hNe hState)]
    exact ⟨_, _, _, rfl, hWritten, rfl, Or.inl rfl, id⟩
  · rw [if_pos hState,
      Flow.exec_bind_of (hWritten.exec_commit _)]
    exact ⟨_, _, _, rfl, (hWritten.committed _ _).assign _,
      rfl, Or.inr rfl, fun _ => rfl⟩

theorem transitionToUnauthenticated_spec
    (h : s.Rests d row) :
    ∃ s' d' row',
      transitionToUnauthenticated.exec s =
        (.resolved (), s') ∧
      s'.Rests d' row' ∧
      (unauthenticable d.state = false →
        s' = s ∧ d' = d ∧ row' = row) ∧
      (unauthenticable d.state = true →
        d'.state = .UNAUTHENTICATED ∧
        (row' = row ∨
          row'.state = .known .UNAUTHENTICATED)) ∧
      (d.state_version = row.state_version →
        d'.state_version = row'.state_version) := by
  rw [transitionToUnauthenticated,
    Flow.exec_bind_of (exec_ensureInitialized h.memory),
    Flow.exec_bind_of (Flow.exec_read _ _),
    h.getSystemState]
  cases hState : unauthenticable d.state with
  | false =>
      rw [if_neg (by simp)]
      exact ⟨s, d, row, rfl, h, fun _ => ⟨rfl, rfl, rfl⟩,
        (by simp), id⟩
  | true =>
      rcases persistUnauthenticated_spec h with
        ⟨s', d', row', hExec, hRests, hNew, hStored,
          hVersion⟩
      rw [if_pos rfl]
      exact ⟨s', d', row', hExec, hRests, (by simp),
        fun _ => ⟨hNew, hStored⟩, hVersion⟩

end Leaving

------------------------------------------------------------
-- Offline And Degraded
------------------------------------------------------------

/-
  A step by accepted transitions: the versions stay equal,
  and neither memory nor row becomes operational.
-/
structure Descends
    (d : StateData)
    (row : SecurityStateRow)
    (d' : StateData)
    (row' : SecurityStateRow) : Prop where
  state : d' = d ∨ d'.state ≠ .OPERATIONAL
  stored : row' = row ∨ row'.state ≠ .known .OPERATIONAL
  version :
    d.state_version = row.state_version →
      d'.state_version = row'.state_version
  revoked : d.state = .REVOKED → d' = d ∧ row' = row

theorem Descends.refl
    (d : StateData)
    (row : SecurityStateRow) :
    Descends d row d row :=
  ⟨Or.inl rfl, Or.inl rfl, id, fun _ => ⟨rfl, rfl⟩⟩

theorem Descends.trans
    {d₁ d₂ d₃ : StateData}
    {row₁ row₂ row₃ : SecurityStateRow}
    (h₁ : Descends d₁ row₁ d₂ row₂)
    (h₂ : Descends d₂ row₂ d₃ row₃) :
    Descends d₁ row₁ d₃ row₃ := by
  refine ⟨?_, ?_, fun hVersion =>
    h₂.version (h₁.version hVersion), ?_⟩
  · rcases h₂.state with rfl | hState
    · exact h₁.state
    · exact Or.inr hState
  · rcases h₂.stored with rfl | hStored
    · exact h₁.stored
    · exact Or.inr hStored
  · intro hRevoked
    rcases h₁.revoked hRevoked with ⟨rfl, rfl⟩
    exact h₂.revoked hRevoked

section Degraded

variable
  {s : Authority}
  {d : StateData}
  {row : SecurityStateRow}

/- The next states of events that degrade the system. -/
def degradedTarget : SecurityState → Bool
| .OFFLINE_GRACE | .RENEWING
| .REAUTHENTICATION_REQUIRED => true
| _ => false

/- A dispatch into one of those states. -/
theorem dispatch_descends
    (h : s.Rests d row)
    (event : TransitionEvent)
    (payload : TransitionPayload)
    (hTarget :
      ∀ st, nextState d.state event payload.facts = some st →
        degradedTarget st = true) :
    ∃ accepted s' d' row',
      (dispatch event payload).exec s =
        (.resolved accepted, s') ∧
      s'.Rests d' row' ∧ Descends d row d' row' ∧
      (accepted = false → s' = s) := by
  rcases dispatch_spec h event payload (by
      intro st hNext
      have hDegraded := hTarget st hNext
      apply assert_eq_none <;>
        (intro hEq
         rw [StateData.moved_state] at hEq
         rw [hEq] at hDegraded
         cases hDegraded)) with
    ⟨accepted, s', d', row', hExec, hRests, hCase⟩
  refine ⟨accepted, s', d', row', hExec, hRests, ?_⟩
  rcases hCase with
    ⟨rfl, rfl, rfl, rfl, -⟩ |
      ⟨rfl, -, hNext, -, hMirrors⟩
  · exact ⟨Descends.refl _ _, fun _ => rfl⟩
  · have hDegraded := hTarget _ hNext
    have hState : d'.state ≠ .OPERATIONAL := by
      intro hEq
      rw [hEq] at hDegraded
      cases hDegraded
    refine ⟨⟨Or.inr hState, Or.inr ?_, fun _ =>
      hMirrors.state_version.symm, ?_⟩, by simp⟩
    · rw [hMirrors.state]
      simpa using hState
    · intro hRevoked
      rw [hRevoked, nextState_revoked] at hNext
      cases hNext

/- Events that only degrade. -/
def degradingEvent : TransitionEvent → Bool
| .ENTER_OFFLINE_GRACE | .RENEW_THRESHOLD_REACHED
| .RENEW_BACKEND_UNREACHABLE
| .OFFLINE_GRACE_EXHAUSTED => true
| _ => false

theorem degradingEvent_target
    {st next : SecurityState}
    {event : TransitionEvent}
    {facts : TransitionFacts}
    (hEvent : degradingEvent event = true)
    (hNext : nextState st event facts = some next) :
    degradedTarget next = true := by
  have hTable :
      ∀ entry ∈ transitions,
        degradingEvent entry.event = true →
          degradedTarget entry.nextState = true := by
    decide
  unfold nextState at hNext
  split at hNext
  · rename_i entry hEntry
    split at hNext
    · have hMem := List.mem_of_find?_eq_some hEntry
      have hSame := List.find?_some hEntry
      simp only [decide_eq_true_eq] at hSame
      rw [← Option.some.inj hNext]
      exact hTable entry hMem (hSame.2 ▸ hEvent)
    · cases hNext
  · cases hNext

theorem dispatch_degrading
    (h : s.Rests d row)
    (event : TransitionEvent)
    (payload : TransitionPayload)
    (hEvent : degradingEvent event = true) :
    ∃ accepted s' d' row',
      (dispatch event payload).exec s =
        (.resolved accepted, s') ∧
      s'.Rests d' row' ∧ Descends d row d' row' ∧
      (accepted = false → s' = s) :=
  dispatch_descends h event payload
    (fun _ hNext => degradingEvent_target hEvent hNext)

theorem enterOfflineGrace_spec
    (h : s.Rests d row)
    (lease : Lease) :
    ∃ answer s' d' row',
      (enterOfflineGrace lease).exec s =
        (.resolved answer, s') ∧
      s'.Rests d' row' ∧ Descends d row d' row' ∧
      (d.state = .REVOKED → s' = s) := by
  rw [enterOfflineGrace,
    Flow.exec_bind_of (Flow.exec_read _ _),
    h.getSystemState]
  split
  · rename_i hState
    rcases dispatch_degrading h .ENTER_OFFLINE_GRACE
        lease.payload rfl with
      ⟨accepted, s', d', row', hExec, hRests, hDescends,
        hSame⟩
    have hNotRevoked : d.state ≠ .REVOKED := by
      rcases hState with hState | hState <;>
        rw [hState] <;> simp
    rw [Flow.exec_bind_of hExec]
    cases accepted with
    | true =>
        exact ⟨_, _, d', row', rfl, hRests.setRevoked false,
          hDescends, fun hEq => absurd hEq hNotRevoked⟩
    | false =>
        exact ⟨_, _, d', row', rfl, hRests, hDescends,
          fun hEq => absurd hEq hNotRevoked⟩
  · exact ⟨_, s, d, row, rfl, h, Descends.refl d row,
      fun _ => rfl⟩

theorem loseBackend_spec
    (h : s.Rests d row) :
    ∃ s' d' row',
      loseBackend.exec s = (.resolved (), s') ∧
      s'.Rests d' row' ∧ Descends d row d' row' := by
  rcases dispatch_degrading h .RENEW_THRESHOLD_REACHED
      (renewThreshold s.now) rfl with
    ⟨_, s₁, d₁, row₁, hFirst, hRests₁, hDescends₁, -⟩
  rcases dispatch_degrading hRests₁
      .RENEW_BACKEND_UNREACHABLE {} rfl with
    ⟨_, s₂, d₂, row₂, hSecond, hRests₂, hDescends₂, -⟩
  refine ⟨s₂, d₂, row₂, ?_, hRests₂,
    hDescends₁.trans hDescends₂⟩
  rw [loseBackend, Flow.exec_bind_of (Flow.exec_read _ _),
    Flow.exec_bind_of hFirst, Flow.exec_bind_of hSecond]
  rfl

/- A loss of the backend, and then what the reason asks. -/
theorem transitionToDegraded_spec
    (h : s.Rests d row)
    (reason : String) :
    ∃ answer s' d' row',
      (transitionToDegraded reason).exec s =
        (.resolved answer, s') ∧
      s'.Rests d' row' ∧ Descends d row d' row' ∧
      (d.state = .REVOKED →
        s'.revoked = s.revoked ∨ s'.revoked = true) := by
  have hExhaust :
      ∀ {s₁ d₁ row₁}, Authority.Rests s₁ d₁ row₁ →
        ∃ a s₂ d₂ row₂,
          (dispatch .OFFLINE_GRACE_EXHAUSTED
            graceExhausted).exec s₁ = (.resolved a, s₂) ∧
          s₂.Rests d₂ row₂ ∧ Descends d₁ row₁ d₂ row₂ := by
    intro s₁ d₁ row₁ hRests
    rcases dispatch_degrading hRests
        .OFFLINE_GRACE_EXHAUSTED
        graceExhausted rfl with
      ⟨a, s₂, d₂, row₂, hExec, hRests₂, hDescends, -⟩
    exact ⟨a, s₂, d₂, row₂, hExec, hRests₂, hDescends⟩
  rw [transitionToDegraded,
    Flow.exec_bind_of (Flow.exec_read _ _),
    h.getSystemState]
  by_cases hReason : reason = "OFFLINE_GRACE"
  · rw [if_pos hReason]
    by_cases hOperational : d.state = .OPERATIONAL
    · rcases loseBackend_spec h with
        ⟨s₁, d₁, row₁, hExec, hRests, hDescends⟩
      rw [if_pos hOperational, Flow.exec_bind_of hExec]
      exact ⟨_, _, d₁, row₁, rfl, hRests.setRevoked false,
        hDescends, fun hEq => by
          rw [hOperational] at hEq
          cases hEq⟩
    · rw [if_neg hOperational]
      by_cases hGrace : d.state = .OFFLINE_GRACE
      · rw [if_pos hGrace]
        exact ⟨_, _, d, row, rfl, h.setRevoked false,
          Descends.refl d row, fun hEq => by
            rw [hGrace] at hEq
            cases hEq⟩
      · rw [if_neg hGrace]
        rcases enterOfflineGrace_spec h {} with
          ⟨a, s', d', row', hExec, hRests, hDescends,
            hSame⟩
        exact ⟨a, s', d', row', hExec, hRests, hDescends,
          fun hEq => Or.inl (by rw [hSame hEq])⟩
  · rw [if_neg hReason]
    by_cases hOperational : d.state = .OPERATIONAL
    · rcases loseBackend_spec h with
        ⟨s₁, d₁, row₁, hExec₁, hRests₁, hDescends₁⟩
      rcases hExhaust hRests₁ with
        ⟨a, s₂, d₂, row₂, hExec₂, hRests₂, hDescends₂⟩
      rw [if_pos hOperational, Flow.exec_bind_of hExec₁,
        Flow.exec_bind_of hExec₂]
      exact ⟨_, _, d₂, row₂, rfl, hRests₂.setRevoked true,
        hDescends₁.trans hDescends₂, fun _ => Or.inr rfl⟩
    · rw [if_neg hOperational]
      by_cases hGrace : d.state = .OFFLINE_GRACE
      · rcases hExhaust h with
          ⟨a, s₂, d₂, row₂, hExec₂, hRests₂,
            hDescends₂⟩
        rw [if_pos hGrace, Flow.exec_bind_of hExec₂]
        exact ⟨_, _, d₂, row₂, rfl, hRests₂.setRevoked true,
          hDescends₂, fun _ => Or.inr rfl⟩
      · rw [if_neg hGrace]
        exact ⟨_, _, d, row, rfl, h.setRevoked true,
          Descends.refl d row, fun _ => Or.inr rfl⟩

/- Without a state in memory nothing is dispatched. -/
theorem exec_enterOfflineGrace_uninitialized
    (hMemory : s.inMemoryState = none)
    (lease : Lease) :
    (enterOfflineGrace lease).exec s =
      (.resolved true, s) := by
  simp [enterOfflineGrace, Flow.exec_bind,
    Authority.getSystemState, hMemory]

theorem transitionToDegraded_uninitialized
    (hMemory : s.inMemoryState = none)
    (reason : String) :
    ∃ flag, (transitionToDegraded reason).exec s =
      (.resolved true, s.setRevoked flag) := by
  by_cases hReason : reason = "OFFLINE_GRACE"
  · refine ⟨s.revoked, ?_⟩
    rw [transitionToDegraded,
      Flow.exec_bind_of (Flow.exec_read _ _), if_pos hReason]
    simp only [Authority.getSystemState, hMemory,
      reduceCtorEq, if_false]
    exact exec_enterOfflineGrace_uninitialized hMemory {}
  · refine ⟨true, ?_⟩
    simp [transitionToDegraded, Flow.exec_bind, hReason,
      Authority.getSystemState, hMemory]

end Degraded

------------------------------------------------------------
-- Time
------------------------------------------------------------

section Time

variable
  {s : Authority}
  {row : SecurityStateRow}

/- A tick that finds the clock before the observed time. -/
theorem exec_checkTimeBounds_rollback
    (hRow : s.row = some row)
    {now : Nat}
    (hNow : now < row.highest_observed_time) :
    (checkTimeBounds (some now)).exec s =
      (.rejected
        "SECURITY_STATE_UNCERTAIN: System clock was rolled back. Terminating offline grace.",
        s.setRevoked true) := by
  rw [checkTimeBounds,
    Flow.exec_bind_of (exec_getSecurityStateRow s), hRow]
  dsimp only
  rw [if_pos hNow,
    Flow.exec_bind_of (exec_setRevokedSync true s)]
  rfl

/- A tick of a clock that throws, or before the first row. -/
theorem checkTimeBounds_idle
    {clock : Option Nat}
    (hNone : s.row = none ∨ clock = none) :
    ((checkTimeBounds clock).exec s).2 = s := by
  rw [checkTimeBounds,
    Flow.exec_bind_of (exec_getSecurityStateRow s)]
  cases hRow : s.row with
  | none => rfl
  | some row =>
      have hClock : clock = none := by
        simpa [hRow] using hNone
      rw [hClock]
      rfl

/- The row of a tick that commits the time. -/
theorem observeTime_spec
    (hRow : s.row = some row)
    (now : Nat) :
    ∃ s' row',
      (observeTime row now).exec s =
        (.resolved row'.state_version, s') ∧
      s'.row = some row' ∧
      s'.inMemoryState = s.inMemoryState ∧
      s'.revoked = s.revoked ∧ (s'.Idle ↔ s.Idle) ∧
      row'.state = row.state ∧
      row'.session = row.session ∧
      row'.authorization = row.authorization ∧
      (row'.state_version = row.state_version ↔
        now ≤ row.highest_observed_time) := by
  unfold observeTime
  split
  · rename_i hLater
    rw [Flow.exec_bind_of
      (exec_commit (atVersion_of_row hRow))]
    refine ⟨s.committed row.state_version
      { row.toNext with highest_observed_time := some now },
      _, rfl, rfl, rfl, rfl, Iff.rfl, rfl, rfl, rfl, ?_⟩
    simp only [NextStateData.toRow]
    omega
  · refine ⟨s, row, rfl, hRow, rfl, rfl, Iff.rfl, rfl, rfl,
      rfl, ?_⟩
    simp only [true_iff]
    omega

/- A tick that is not rejected. -/
theorem checkTimeBounds_spec
    (hRow : s.row = some row)
    {now : Nat}
    (hNow : row.highest_observed_time ≤ now) :
    ∃ s' row',
      (checkTimeBounds (some now)).exec s =
        (.resolved (), s') ∧
      s'.row = some row' ∧ (s'.Idle ↔ s.Idle) ∧
      (row.graceOver now = false →
        s'.inMemoryState = s.inMemoryState ∧
        s'.revoked = s.revoked ∧
        row'.state = row.state ∧
        row'.session = row.session ∧
        row'.authorization = row.authorization ∧
        (row'.state_version = row.state_version ↔
          now ≤ row.highest_observed_time)) ∧
      (row.graceOver now = true →
        s'.inMemoryState =
          s.inMemoryState.map (fun d =>
            { d with
                state := .EXPIRED
                state_version := row'.state_version }) ∧
        s'.revoked = true ∧
        row'.state = .known .EXPIRED) := by
  rcases observeTime_spec hRow now with
    ⟨s₁, row₁, hObserve, hRow₁, hMemory, hFlag, hIdle,
      hRest⟩
  rw [checkTimeBounds,
    Flow.exec_bind_of (exec_getSecurityStateRow s), hRow]
  dsimp only
  rw [if_neg (by omega), Flow.exec_bind_of hObserve]
  cases hOver : row.graceOver now with
  | false =>
      rw [if_neg (by simp)]
      exact ⟨s₁, row₁, rfl, hRow₁, hIdle,
        fun _ => ⟨hMemory, hFlag, hRest⟩, by simp⟩
  | true =>
      have hFound :
          (s₁.setRevoked true).atVersion
            row₁.state_version = true :=
        atVersion_of_row hRow₁
      rw [if_pos rfl, expireGrace,
        Flow.exec_bind_of (exec_setRevokedSync true s₁),
        Flow.exec_bind_of (exec_commit hFound),
        Flow.exec_bind_of (Flow.exec_turn _)]
      refine ⟨_, _, rfl, rfl, hIdle, by simp, fun _ =>
        ⟨?_, rfl, rfl⟩⟩
      simp [hMemory, NextStateData.toRow]

end Time

------------------------------------------------------------
-- Reconciliation
------------------------------------------------------------

/- What the answer of the backend makes of a state. -/
def ReconcileAnswer.target :
    ReconcileAnswer → Option SecurityState
| .WIPE => some .COMPROMISED
| .SYNC (some _) => some .OPERATIONAL
| _ => none

/- What a state in memory becomes. -/
def ReconcileAnswer.applyTo
    (answer : ReconcileAnswer)
    (d : StateData) : StateData :=
  match answer with
  | .WIPE => { d.clear with state := .COMPROMISED }
  | .SYNC (some _) => { d with state := .OPERATIONAL }
  | _ => d

/- Where the reconciliation of a row ends. -/
structure Reconciled
    (s : Authority)
    (row : SecurityStateRow)
    (answer : ReconcileAnswer)
    (s' : Authority)
    (row' : SecurityStateRow) : Prop where
  stored : s'.row = some row'
  version : row.state_version ≤ row'.state_version
  stateMachineMutex :
    s'.stateMachineMutex = s.stateMachineMutex
  reconcileMutex : s'.reconcileMutex = s.reconcileMutex
  state :
    row'.state =
      match answer.target with
      | some st => .known st
      | none => .RECONCILING
  kept :
    answer ≠ .WIPE →
      row'.session = row.session ∧
        row'.authorization = row.authorization
  memory :
    s'.inMemoryState = s.inMemoryState.map answer.applyTo

section Reconciliation

variable
  {s : Authority}
  {row : SecurityStateRow}

/- An answer that changes nothing but the row. -/
theorem Reconciled.of_none
    {answer : ReconcileAnswer}
    (hRow : s.row = some row)
    (hState : row.state = .RECONCILING)
    (hTarget : answer.target = none)
    (hApply : ∀ d, answer.applyTo d = d) :
    Reconciled s row answer s row where
  stored := hRow
  version := Nat.le_refl _
  stateMachineMutex := rfl
  reconcileMutex := rfl
  state := by rw [hState, hTarget]
  kept := fun _ => ⟨rfl, rfl⟩
  memory := by
    have hId : answer.applyTo = id := funext hApply
    rw [hId, Option.map_id]
    rfl

/- The answer is applied to the row that awaits it. -/
theorem applyAnswer_spec
    (hRow : s.row = some row)
    (hState : row.state = .RECONCILING)
    (answer : ReconcileAnswer) :
    ∃ outcome s' row',
      (applyAnswer answer).exec s = (outcome, s') ∧
      outcome ≠ .pending ∧
      Reconciled s row answer s' row' := by
  have hFound := atVersion_of_row hRow
  cases answer with
  | failed message =>
      exact ⟨_, s, row, rfl, by simp,
        Reconciled.of_none hRow hState rfl (fun _ => rfl)⟩
  | other =>
      exact ⟨_, s, row, rfl, by simp,
        Reconciled.of_none hRow hState rfl (fun _ => rfl)⟩
  | WIPE =>
      have hWipe :
          ∃ s' row',
            applyWipe.exec s = (.resolved (), s') ∧
              Reconciled s row .WIPE s' row' := by
        rw [applyWipe,
          Flow.exec_bind_of (exec_getSecurityStateRow s),
          hRow]
        dsimp only
        rw [Flow.exec_bind_of (exec_commit hFound),
          Flow.exec_bind_of (Flow.exec_modify _ _)]
        exact ⟨_, _, rfl, rfl, Nat.le_succ _, rfl, rfl, rfl,
          fun hNe => absurd rfl hNe, rfl⟩
      rcases hWipe with ⟨s', row', hExec, hReconciled⟩
      exact ⟨_, s', row', Flow.exec_bind_of hExec _,
        by simp, hReconciled⟩
  | SYNC authoritativeState =>
      cases authoritativeState with
      | none =>
          have hSync :
              ∃ message, (applySync none 3).exec s =
                (.rejected message, s) := by
            rw [applySync,
              Flow.exec_bind_of
                (exec_getSecurityStateRow s), hRow]
            exact ⟨_, rfl⟩
          rcases hSync with ⟨message, hExec⟩
          refine ⟨.rejected message, s, row, ?_, by simp,
            Reconciled.of_none hRow hState rfl
              (fun _ => rfl)⟩
          rw [applyAnswer, Flow.exec_bind, hExec]
      | some backend =>
          have hSync :
              ∃ s' row',
                (applySync (some backend) 3).exec s =
                    (.resolved (), s') ∧
                  Reconciled s row (.SYNC (some backend))
                    s' row' := by
            rw [applySync,
              Flow.exec_bind_of
                (exec_getSecurityStateRow s), hRow]
            dsimp only
            rw [Flow.exec_bind_of (exec_commit hFound),
              if_pos rfl,
              Flow.exec_bind_of (Flow.exec_modify _ _),
              Flow.exec_bind_of (exec_writeEvent _)]
            exact ⟨_, _, rfl, rfl, Nat.le_succ _, rfl, rfl,
              rfl, fun _ => ⟨rfl, rfl⟩, rfl⟩
          rcases hSync with ⟨s', row', hExec, hReconciled⟩
          exact ⟨_, s', row', Flow.exec_bind_of hExec _,
            by simp, hReconciled⟩

/- A row that is not terminal is always committed. -/
theorem reconcileBody_spec
    (hRow : s.row = some row)
    (hAllowed : reconcileRefused row.state = false)
    (answer : ReconcileAnswer) :
    ∃ outcome s' row',
      (reconcileBody answer).exec s = (outcome, s') ∧
      outcome ≠ .pending ∧
      Reconciled s row answer s' row' ∧
      row.state_version < row'.state_version := by
  have hFound := atVersion_of_row hRow
  rw [reconcileBody,
    Flow.exec_bind_of (exec_getSecurityStateRow s), hRow]
  dsimp only
  rw [if_neg (by simp [hAllowed]),
    Flow.exec_bind_of (exec_commit hFound),
    Flow.exec_bind_of (Flow.exec_turn _)]
  rcases applyAnswer_spec
      (s := s.committed row.state_version
        { row.toNext with state := .RECONCILING })
      rfl rfl answer with
    ⟨outcome, s', row', hExec, hOutcome, hDone⟩
  have hLater : row.state_version < row'.state_version :=
    hDone.version
  exact ⟨outcome, s', row', hExec, hOutcome,
    ⟨hDone.stored, Nat.le_of_lt hLater,
      hDone.stateMachineMutex, hDone.reconcileMutex,
      hDone.state, hDone.kept, hDone.memory⟩, hLater⟩

/- A reconciliation that runs alone. -/
theorem exec_triggerReconciliation
    (hIdle : s.Idle)
    {answer : ReconcileAnswer}
    {outcome : Outcome Bool}
    {s' : Authority}
    (hBody :
      (reconcileBody answer).exec
        (s.withReconcileMutex Mutex.enter) = (outcome, s'))
    (hOutcome : outcome ≠ .pending) :
    ∃ a, (triggerReconciliation answer).exec s =
      (.resolved a,
        s'.withReconcileMutex Mutex.release) := by
  have hEnter :
      (Mutex.acquire Authority.reconcileMutex
        Authority.withReconcileMutex).exec s =
        (.resolved (),
          s.withReconcileMutex Mutex.enter) := by
    simp [Mutex.acquire, Flow.exec_bind, hIdle.2, Mutex.free]
  rw [triggerReconciliation, Flow.exec_bind_of hEnter,
    Flow.exec_ensuring, Flow.exec_catching, hBody]
  cases outcome with
  | resolved a => exact ⟨a, rfl⟩
  | rejected message => exact ⟨false, rfl⟩
  | pending => exact absurd rfl hOutcome

/- A reconciliation and the row that it finds. -/
theorem triggerReconciliation_spec
    (hIdle : s.Idle)
    (hRow : s.row = some row)
    (hAllowed : reconcileRefused row.state = false)
    (answer : ReconcileAnswer) :
    ∃ a s' row',
      (triggerReconciliation answer).exec s =
        (.resolved a, s') ∧
      Reconciled s row answer s' row' ∧
      row.state_version < row'.state_version := by
  rcases reconcileBody_spec
      (s := s.withReconcileMutex Mutex.enter) hRow hAllowed
      answer with
    ⟨outcome, s₁, row', hBody, hOutcome, hDone, hLater⟩
  rcases exec_triggerReconciliation hIdle hBody hOutcome with
    ⟨a, hExec⟩
  refine ⟨a, _, row', hExec, ⟨hDone.stored, hDone.version,
    hDone.stateMachineMutex, ?_, hDone.state, hDone.kept,
    hDone.memory⟩, hLater⟩
  have hFree :
      (s₁.withReconcileMutex Mutex.release).reconcileMutex =
        Mutex.release (Mutex.enter s.reconcileMutex) :=
    congrArg Mutex.release hDone.reconcileMutex
  rw [hFree, hIdle.2]
  rfl

/- A terminal or missing row is left alone. -/
theorem triggerReconciliation_refused
    (hIdle : s.Idle)
    (hRefused :
      ∀ row, s.row = some row →
        reconcileRefused row.state = true)
    (answer : ReconcileAnswer) :
    ∃ a, (triggerReconciliation answer).exec s =
      (.resolved a, s) := by
  have hBody :
      (reconcileBody answer).exec
          (s.withReconcileMutex Mutex.enter) =
        (.resolved false,
          s.withReconcileMutex Mutex.enter) := by
    have hSame :
        (s.withReconcileMutex Mutex.enter).row = s.row := rfl
    rw [reconcileBody,
      Flow.exec_bind_of (exec_getSecurityStateRow _), hSame]
    cases hRow : s.row with
    | none => rfl
    | some row =>
        dsimp only
        rw [if_pos (hRefused row hRow)]
        rfl
  rcases exec_triggerReconciliation hIdle hBody (by simp) with
    ⟨a, hExec⟩
  refine ⟨a, ?_⟩
  have hFree :
      Mutex.release (Mutex.enter s.reconcileMutex) =
        s.reconcileMutex := by
    rw [hIdle.2]
    rfl
  rw [hExec]
  simp only [Authority.withReconcileMutex, hFree]

end Reconciliation

end ControlPlane
