import ControlPlane.Authority.Sequential

/-
  Boots, revocations and sessions that run alone.

  The authority rests in a state when both locks are free
  and memory and row are known. One result for each call
  says in which state it rests afterwards.

  Main declarations:
    * `Authority.Rests` and `Mirrors`
    * `initializeFacade_spec`
    * `revokeLicense_spec` and `RevokesInStep`
    * `admitSession_spec` and `Admits`
    * `SessionEffect` and `establishSession_spec`
-/

------------------------------------------------------------
-- Resting States
------------------------------------------------------------

namespace ControlPlane

/- Nothing is in flight, and memory and row are these. -/
structure Authority.Rests
    (s : Authority)
    (d : StateData)
    (row : SecurityStateRow) : Prop where
  idle : s.Idle
  memory : s.inMemoryState = some d
  row : s.row = some row

/- The row holds what is in memory. -/
structure Mirrors
    (row : SecurityStateRow)
    (d : StateData) : Prop where
  state : row.state = .known d.state
  state_version : row.state_version = d.state_version
  session : row.session = d.session
  authorization : row.authorization = d.authorization

namespace Authority

variable
  {s : Authority}
  {d : StateData}
  {row : SecurityStateRow}

theorem Rests.setRevoked
    (h : s.Rests d row)
    (flag : Bool) :
    (s.setRevoked flag).Rests d row :=
  ⟨h.idle, h.memory, h.row⟩

theorem Rests.assign
    (h : s.Rests d row)
    (f : StateData → StateData) :
    (s.assign f).Rests (f d) row :=
  ⟨h.idle, by simp [h.memory], h.row⟩

theorem Rests.committed
    (h : s.Rests d row)
    (version : Nat)
    (next : NextStateData) :
    (s.committed version next).Rests d
      (next.toRow (version + 1) (s.observedBy next)) :=
  ⟨h.idle, h.memory, rfl⟩

theorem Rests.advanced
    (h : s.Rests d row)
    (st : SecurityState)
    (payload : TransitionPayload) :
    (s.advanced d st payload).Rests (d.moved st payload)
      (s.advancedRow d st payload) :=
  ⟨h.idle, rfl, rfl⟩

theorem Rests.getSystemState
    (h : s.Rests d row) :
    s.getSystemState = d.state := by
  simp [Authority.getSystemState, h.memory]

/- A commit at the version that was just read succeeds. -/
theorem Rests.exec_commit
    (h : s.Rests d row)
    (next : NextStateData) :
    (commitTransitionWithOCC row.state_version next).exec s =
      (.resolved true,
        s.committed row.state_version next) :=
  ControlPlane.exec_commit (atVersion_of_row h.row)

end Authority

/- An accepted transition leaves memory in its row. -/
theorem mirrors_advanced
    (s : Authority)
    (d : StateData)
    (st : SecurityState)
    (payload : TransitionPayload) :
    Mirrors (s.advancedRow d st payload)
      (d.moved st payload) :=
  ⟨rfl, rfl, rfl, rfl⟩

------------------------------------------------------------
-- Boot
------------------------------------------------------------

/- The states in memory after a boot. -/
def bootedState : SecurityState → Bool
| .REVOKED | .COMPROMISED | .TAMPER_SUSPECTED
| .SECURITY_STATE_READY | .INITIALIZING => true
| _ => false

/- The states that a boot persists. -/
def bootWrites : PersistedState → Bool
| .known .UNINITIALIZED | .known .INITIALIZING
| .known .SECURITY_STATE_READY
| .known .COMPROMISED => true
| _ => false

/- Where a boot ends. -/
structure Booted
    (s s' : Authority)
    (d : StateData)
    (row : SecurityStateRow) : Prop where
  rests : s'.Rests d row
  version : d.state_version = row.state_version
  production : s'.production = s.production
  booted : bootedState d.state = true
  stored : s.row = some row ∨ bootWrites row.state = true
  revoked :
    ∀ old, s.row = some old → old.state = .known .REVOKED →
      d.state = .REVOKED ∧ row = old ∧ s'.revoked = true

theorem exec_syncRevokedFlag
    (s : Authority) :
    ∃ flag, syncRevokedFlag.exec s =
      (.resolved (), s.setRevoked flag) :=
  ⟨_, rfl⟩

section Boot

variable
  {s : Authority}
  {d : StateData}
  {row : SecurityStateRow}

/- Bootstrap from the baseline row. -/
theorem bootstrap_spec
    (h : s.Rests d row)
    (hVersion : d.state_version = row.state_version)
    (hState : d.state = .UNINITIALIZED) :
    ∃ s' d' row', bootstrap.exec s = (.resolved (), s') ∧
      s'.Rests d' row' ∧ Mirrors row' d' ∧
      (d'.state = .SECURITY_STATE_READY ∨
        d'.state = .INITIALIZING) ∧
      s'.production = s.production := by
  let first : TransitionPayload :=
    { facts := { singleInstanceLockHeld := true } }
  let second : TransitionPayload :=
    { facts :=
        { integrityVerified := true
          storageVerified := true
          machineIdentityVerified :=
            s.machineIdentityValid } }
  let middle := s.advanced d .INITIALIZING first
  have hFirst :
      (dispatch .INITIALIZE first).exec s =
        (.resolved true, middle) := by
    apply dispatch_accepted h.idle h.memory h.row hVersion
    · rw [hState]
      rfl
    · apply assert_eq_none <;> simp
  have hNext := h.advanced .INITIALIZING first
  have hBootstrap :
      ∀ a s', (dispatch .BOOTSTRAP_COMPLETE second).exec
          middle = (.resolved a, s') →
        ∃ flag, bootstrap.exec s =
          (.resolved (), s'.setRevoked flag) := by
    intro a s' hSecond
    rcases exec_syncRevokedFlag s' with ⟨flag, hFlag⟩
    refine ⟨flag, ?_⟩
    rw [bootstrap, Flow.exec_bind_of hFirst,
      Flow.exec_bind_of (Flow.exec_read _ _)]
    exact (Flow.exec_bind_of hSecond _).trans hFlag
  cases hMachine : s.machineIdentityValid with
  | true =>
      have hSecond :
          (dispatch .BOOTSTRAP_COMPLETE second).exec middle =
            (.resolved true,
              middle.advanced (d.moved .INITIALIZING first)
                .SECURITY_STATE_READY second) := by
        apply dispatch_accepted hNext.idle hNext.memory
          hNext.row rfl
        · simp only [StateData.moved_state, second, hMachine]
          rfl
        · apply assert_eq_none <;> simp
      rcases hBootstrap _ _ hSecond with ⟨flag, hExec⟩
      have hLast := hNext.advanced .SECURITY_STATE_READY second
      exact ⟨_, _, _, hExec, hLast.setRevoked flag,
        mirrors_advanced _ _ _ _, Or.inl rfl, rfl⟩
  | false =>
      have hSecond :
          (dispatch .BOOTSTRAP_COMPLETE second).exec middle =
            (.resolved false, middle) := by
        apply dispatch_refused hNext.idle hNext.memory
          hNext.row
        simp only [StateData.moved_state, second, hMachine]
        rfl
      rcases hBootstrap _ _ hSecond with ⟨flag, hExec⟩
      exact ⟨_, _, _, hExec, hNext.setRevoked flag,
        mirrors_advanced _ _ _ _, Or.inr rfl, rfl⟩

/- A cold boot of a row that is not terminal. -/
theorem coldBoot_spec
    (hIdle : s.Idle)
    (hRow : s.row = some row) :
    ∃ s' d' row', (coldBoot row).exec s =
        (.resolved (), s') ∧
      s'.Rests d' row' ∧
      d'.state_version = row'.state_version ∧
      bootedState d'.state = true ∧
      (row' = row ∨ row'.state = .known .COMPROMISED) ∧
      s'.production = s.production := by
  rw [coldBoot, Flow.exec_bind_of (Flow.exec_read _ _)]
  cases hMachine : s.machineIdentityValid with
  | true =>
      rw [if_pos rfl,
        Flow.exec_bind_of (Flow.exec_modify _ _)]
      rcases exec_syncRevokedFlag
        (s.install (row.project .SECURITY_STATE_READY)) with
        ⟨flag, hFlag⟩
      exact ⟨_, _, _, hFlag, ⟨hIdle, rfl, hRow⟩, rfl, rfl,
        Or.inl rfl, rfl⟩
  | false =>
      rw [if_neg (by simp)]
      dsimp only
      rw [Flow.exec_bind_of (Flow.exec_modify _ _)]
      have hRests :
          (s.install (row.project .COMPROMISED)).Rests
            (row.project .COMPROMISED) row :=
        ⟨hIdle, rfl, hRow⟩
      have hCommit := hRests.exec_commit
        (row.project .COMPROMISED).toNext
      refine ⟨_, _, _,
        (Flow.exec_bind_of hCommit _).trans rfl,
        ⟨hIdle, rfl, rfl⟩, rfl, rfl, Or.inr rfl, rfl⟩

/- Where the engine is after a boot from a row. -/
theorem bootFrom_spec
    (hIdle : s.Idle)
    (hRow : s.row = some row) :
    ∃ s' d' row', (bootFrom row).exec s =
      (.resolved (), s') ∧ Booted s s' d' row' := by
  have hTerminal :
      ∀ st, row.state = .known st → bootedState st = true →
        Booted s
          ((s.install (row.project st)).setRevoked true)
          (row.project st) row := by
    intro st hState hBooted
    refine ⟨⟨hIdle, rfl, hRow⟩, rfl, rfl, hBooted,
      Or.inl hRow, ?_⟩
    intro old hOld hRevoked
    have hSame : row = old :=
      Option.some.inj (hRow.symm.trans hOld)
    subst hSame
    rw [hState] at hRevoked
    exact ⟨PersistedState.known.inj hRevoked, rfl, rfl⟩
  unfold bootFrom
  split
  case h_1 hState =>
      exact ⟨_, _, _, rfl, hTerminal .REVOKED hState rfl⟩
  case h_2 hState =>
      exact ⟨_, _, _, rfl, hTerminal .COMPROMISED hState rfl⟩
  case h_3 hState =>
      exact ⟨_, _, _, rfl,
        hTerminal .TAMPER_SUSPECTED hState rfl⟩
  case h_4 hState =>
      rw [Flow.exec_bind_of (Flow.exec_modify _ _)]
      have hInstalled :
          (s.install (row.project .UNINITIALIZED)).Rests
            (row.project .UNINITIALIZED) row :=
        ⟨hIdle, rfl, hRow⟩
      rcases bootstrap_spec hInstalled rfl rfl with
        ⟨s', d', row', hExec, hRests, hMirrors, hReady,
          hProduction⟩
      refine ⟨s', d', row', hExec, hRests,
        hMirrors.state_version.symm, hProduction, ?_, ?_, ?_⟩
      · rcases hReady with hReady | hReady <;>
          rw [hReady] <;> rfl
      · right
        rw [hMirrors.state]
        rcases hReady with hReady | hReady <;>
          rw [hReady] <;> rfl
      · intro old hOld hRevoked
        have hSame : row = old :=
          Option.some.inj (hRow.symm.trans hOld)
        rw [← hSame, hState] at hRevoked
        simp at hRevoked
  case h_5 hNotRevoked _ _ _ =>
      rcases coldBoot_spec hIdle hRow with
        ⟨s', d', row', hExec, hRests, hVersion,
          hBooted, hStored, hProduction⟩
      refine ⟨s', d', row', hExec, hRests, hVersion,
        hProduction, hBooted, ?_, ?_⟩
      · rcases hStored with hStored | hStored
        · exact Or.inl (hStored ▸ hRow)
        · right
          rw [hStored]
          rfl
      · intro old hOld hRevoked
        have hSame : row = old :=
          Option.some.inj (hRow.symm.trans hOld)
        subst hSame
        exact absurd hRevoked hNotRevoked

/- A boot, on a fresh database too. -/
theorem initializeFacade_spec
    (hIdle : s.Idle) :
    ∃ s' d' row', initializeFacade.exec s =
      (.resolved (), s') ∧ Booted s s' d' row' := by
  rw [initializeFacade, Flow.exec_bind_of (Flow.exec_turn s),
    initializeEngine]
  cases hRow : s.row with
  | some row =>
      have hEstablish :
          establishRow.exec s = (.resolved (some row), s) := by
        simp [establishRow, Flow.exec_bind, hRow]
      rw [Flow.exec_bind_of hEstablish]
      exact bootFrom_spec hIdle hRow
  | none =>
      let base := s.committed 0 baselineState
      have hEstablish :
          establishRow.exec s =
            (.resolved base.row, base) := by
        simp [establishRow, Flow.exec_bind, hRow,
          exec_commit_first, base]
      rw [Flow.exec_bind_of hEstablish]
      rcases bootFrom_spec (s := base) hIdle rfl with
        ⟨s', d', row', hExec, hBooted⟩
      refine ⟨s', d', row', hExec, hBooted.rests,
        hBooted.version, hBooted.production,
        hBooted.booted, ?_, ?_⟩
      · right
        rcases hBooted.stored with hStored | hStored
        · have hSame := Option.some.inj hStored
          rw [← hSame]
          rfl
        · exact hStored
      · intro old hOld
        rw [hRow] at hOld
        cases hOld

/- Calls start from a state in memory. -/
theorem ensureInitialized_spec
    (hIdle : s.Idle)
    (hMemory : s.inMemoryState = none) :
    ∃ s' d' row', ensureInitialized.exec s =
      (.resolved (), s') ∧ Booted s s' d' row' := by
  rw [ensureInitialized,
    Flow.exec_bind_of (Flow.exec_read _ _), hMemory]
  exact initializeFacade_spec hIdle

theorem exec_ensureInitialized
    (hMemory : s.inMemoryState = some d) :
    ensureInitialized.exec s = (.resolved (), s) := by
  simp [ensureInitialized, Flow.exec_bind, hMemory]

end Boot

------------------------------------------------------------
-- Revocation
------------------------------------------------------------

/- The states from which the table has a revocation. -/
def revocable : SecurityState → Bool
| .OPERATIONAL | .OFFLINE_GRACE | .RENEWING
| .AUTHENTICATED => true
| _ => false

theorem nextState_revocation
    (st : SecurityState) :
    nextState st .BACKEND_REVOCATION revocation.facts =
      if revocable st then some .REVOKED else none := by
  cases st <;> rfl

/- No event leaves the revoked state. -/
theorem nextState_revoked
    (event : TransitionEvent)
    (facts : TransitionFacts) :
    nextState .REVOKED event facts = none := by
  cases event <;> rfl

/-
  Exactly then a revocation moves the version in memory with
  the one of the row.
-/
def RevokesInStep
    (d : StateData)
    (row : SecurityStateRow) : Prop :=
  if revocable d.state then d.capabilities = []
  else row.state = .known .REVOKED

instance
    (d : StateData)
    (row : SecurityStateRow) :
    Decidable (RevokesInStep d row) :=
  inferInstanceAs
    (Decidable
      (if revocable d.state then d.capabilities = []
      else row.state = .known .REVOKED))

section Revocation

variable
  {s : Authority}
  {d : StateData}
  {row : SecurityStateRow}

/- Memory and row end up revoked. -/
theorem ensureRevoked_spec
    (h : s.Rests d row) :
    ∃ s' row', ensureRevoked.exec s = (.resolved (), s') ∧
      s'.revoked = s.revoked ∧ s'.Rests d.revoke row' ∧
      (row.state = .known .REVOKED → row' = row) ∧
      (row.state ≠ .known .REVOKED →
        row'.state = .known .REVOKED ∧
          row'.state_version = row.state_version + 1) := by
  have hWritten := h.assign StateData.revoke
  have hSome : s.inMemoryState.isSome = true := by
    simp [h.memory]
  rw [ensureRevoked, Flow.exec_bind_of (Flow.exec_read _ _),
    if_pos hSome, Flow.exec_bind_of (Flow.exec_modify _ _),
    Flow.exec_bind_of (exec_getSecurityStateRow _),
    hWritten.row]
  dsimp only
  by_cases hState : row.state = .known .REVOKED
  · rw [if_neg (fun hNe => hNe hState)]
    exact ⟨_, row, rfl, rfl, hWritten, fun _ => rfl,
      fun hNe => absurd hState hNe⟩
  · rw [if_pos hState, commitRevocation,
      Flow.exec_bind_of (Flow.exec_read _ _), hWritten.memory]
    dsimp only
    rw [Flow.exec_bind_of (hWritten.exec_commit _)]
    exact ⟨_, _, rfl, rfl, hWritten.committed _ _,
      fun hEq => absurd hEq hState, fun _ => ⟨rfl, rfl⟩⟩

/- A revocation whose dispatch came to an end. -/
theorem revokeLicense_of_dispatch
    {s₁ : Authority}
    {outcome : Outcome Bool}
    (hExec :
      (dispatch .BACKEND_REVOCATION revocation).exec
        (s.setRevoked true) = (outcome, s₁))
    (hOutcome : outcome ≠ .pending)
    (hRests : s₁.Rests d row) :
    ∃ s' row', revokeLicense.exec s = (.resolved true, s') ∧
      s'.revoked = s₁.revoked ∧ s'.Rests d.revoke row' ∧
      (row.state = .known .REVOKED → row' = row) ∧
      (row.state ≠ .known .REVOKED →
        row'.state = .known .REVOKED ∧
          row'.state_version = row.state_version + 1) := by
  have hCaught :
      ∃ a, ((dispatch .BACKEND_REVOCATION
          revocation).catching (fun _ => pure false)).exec
          (s.setRevoked true) = (.resolved a, s₁) := by
    rw [Flow.exec_catching, hExec]
    cases outcome with
    | resolved a => exact ⟨a, rfl⟩
    | rejected message => exact ⟨false, rfl⟩
    | pending => exact absurd rfl hOutcome
  rcases hCaught with ⟨a, hCaught⟩
  rcases ensureRevoked_spec hRests with
    ⟨s', row', hEnsure, hRest⟩
  refine ⟨s', row', ?_, hRest⟩
  rw [revokeLicense,
    Flow.exec_bind_of (exec_setRevokedSync true s),
    Flow.exec_bind_of hCaught, Flow.exec_bind_of hEnsure]
  rfl

/- The invariant of the revoked state. -/
theorem assert_revocation :
    assertStateMachineInvariants
        (d.moved .REVOKED revocation) =
      if d.capabilities = [] then none
      else
        some "Invariant Violation: COMPROMISED/REVOKED implies no execution capability" := by
  have hCaps :
      (d.moved .REVOKED revocation).capabilities =
        d.capabilities := rfl
  simp only [assertStateMachineInvariants,
    StateData.moved_state, hCaps]
  by_cases hEmpty : d.capabilities = [] <;> simp [hEmpty]

/- A revocation of an initialized engine. -/
theorem revokeLicense_spec
    (h : s.Rests d row) :
    ∃ s' d' row',
      revokeLicense.exec s = (.resolved true, s') ∧
      s'.Rests d' row' ∧ d'.state = .REVOKED ∧
      row'.state = .known .REVOKED ∧ s'.revoked = true ∧
      (d.state_version = row.state_version →
        (d'.state_version = row'.state_version ↔
          RevokesInStep d row)) := by
  have hSet := h.setRevoked true
  by_cases hVersion : d.state_version = row.state_version
  · cases hRevocable : revocable d.state with
    | true =>
        have hNext := nextState_revocation d.state
        rw [hRevocable, if_pos rfl] at hNext
        by_cases hCaps : d.capabilities = []
        · have hAssert := assert_revocation (d := d)
          rw [if_pos hCaps] at hAssert
          rcases revokeLicense_of_dispatch
              (dispatch_accepted hSet.idle hSet.memory
                hSet.row hVersion hNext hAssert) (by simp)
              (hSet.advanced .REVOKED revocation) with
            ⟨s', row', hExec, hFlag, hRests, hKept, -⟩
          rcases hKept rfl with rfl
          refine ⟨s', _, _, hExec, hRests, rfl, rfl, hFlag,
            fun _ => ?_⟩
          simp [RevokesInStep, hRevocable, hCaps,
            StateData.revoke]
        · have hAssert := assert_revocation (d := d)
          rw [if_neg hCaps] at hAssert
          rcases revokeLicense_of_dispatch
              (dispatch_violation hSet.idle hSet.memory
                hSet.row hVersion hNext hAssert) (by simp)
              (hSet.committed _ _) with
            ⟨s', row', hExec, hFlag, hRests, hKept, -⟩
          rcases hKept rfl with rfl
          refine ⟨s', _, _, hExec, hRests, rfl, rfl, hFlag,
            fun _ => ?_⟩
          simp [RevokesInStep, hRevocable, hCaps,
            StateData.revoke, NextStateData.toRow]
    | false =>
        have hNext := nextState_revocation d.state
        rw [hRevocable] at hNext
        rcases revokeLicense_of_dispatch
            (dispatch_refused hSet.idle hSet.memory
              hSet.row hNext) (by simp) hSet with
          ⟨s', row', hExec, hFlag, hRests, hKept,
            hCommitted⟩
        by_cases hState : row.state = .known .REVOKED
        · rcases hKept hState with rfl
          refine ⟨s', _, _, hExec, hRests, rfl, hState,
            hFlag, fun _ => ?_⟩
          simp [RevokesInStep, hRevocable, hState,
            StateData.revoke, hVersion]
        · rcases hCommitted hState with ⟨hRevoked, hBumped⟩
          refine ⟨s', _, _, hExec, hRests, rfl, hRevoked,
            hFlag, fun _ => ?_⟩
          simp [RevokesInStep, hRevocable, hState,
            StateData.revoke, hVersion, hBumped]
  · rcases revokeLicense_of_dispatch
        (dispatch_conflict hSet.idle hSet.memory hSet.row
          hVersion) (by simp) hSet with
      ⟨s', row', hExec, hFlag, hRests, hKept,
        hCommitted⟩
    refine ⟨s', _, row', hExec, hRests, rfl, ?_, hFlag,
      fun hEq => absurd hEq hVersion⟩
    by_cases hState : row.state = .known .REVOKED
    · exact hKept hState ▸ hState
    · exact (hCommitted hState).1

/- Without a state in memory only the flag is set. -/
theorem exec_revokeLicense_uninitialized
    (hMemory : s.inMemoryState = none) :
    revokeLicense.exec s =
      (.resolved true, s.setRevoked true) := by
  have hDispatch :
      (dispatch .BACKEND_REVOCATION revocation).exec
        (s.setRevoked true) =
        (.rejected "DecisionEngine not initialized",
          s.setRevoked true) :=
    dispatch_uninitialized hMemory
  simp [revokeLicense, ensureRevoked, Flow.exec_bind,
    Flow.exec_catching, hDispatch, hMemory]

end Revocation

------------------------------------------------------------
-- Sessions
------------------------------------------------------------

/- A session is established exactly then. -/
def Admits
    (d : StateData)
    (row : SecurityStateRow)
    (valid : Bool) : Prop :=
  d.state_version = row.state_version ∧
    (loginEligible d.state = true ∨
      d.state = .OFFLINE_GRACE ∧ valid = true)

instance
    (d : StateData)
    (row : SecurityStateRow)
    (valid : Bool) : Decidable (Admits d row valid) :=
  inferInstanceAs (Decidable (_ ∧ _))

/- The session that a login leaves. -/
structure SessionHeld
    (payload : AuthPayload)
    (production : Bool)
    (s' : Authority)
    (d : StateData)
    (row : SecurityStateRow) : Prop where
  rests : s'.Rests d row
  mirrors : Mirrors row d
  state :
    d.state =
      if payload.isLicenseValid production then .OPERATIONAL
      else .AUTHENTICATED
  authorization :
    d.authorization =
      some (payload.authorizationData production)
  session : d.session = some newSession
  revoked : s'.revoked = false
  sameProduction : s'.production = production

section Sessions

variable
  {s : Authority}
  {d : StateData}
  {row : SecurityStateRow}
  {payload : AuthPayload}

/- What a valid license grants is an authorized session. -/
theorem authorized_of_valid
    (hValid : payload.isLicenseValid production = true) :
    authorizedBy
      (some (payload.authorizationData production))
      (some newSession) := by
  refine ⟨⟨_, rfl, ?_⟩, _, rfl, Or.inl rfl⟩
  simp [AuthPayload.authorizationData, hValid]

/- The event with which a login begins. -/
def loginEvent
    (st : SecurityState) : TransitionEvent :=
  if st = .REAUTHENTICATION_REQUIRED then .USER_REINITIATES
  else .LOGIN_INTENT

theorem nextState_login
    {st : SecurityState}
    (facts : TransitionFacts)
    (hEligible : loginEligible st = true) :
    nextState st (loginEvent st) facts =
      some .AUTHENTICATING := by
  cases st <;> first | rfl | cases hEligible

/- A login that was admitted runs to its end. -/
theorem completeLogin_spec
    (payload : AuthPayload)
    (h : s.Rests d row)
    (hVersion : d.state_version = row.state_version)
    (hState : d.state = .AUTHENTICATING) :
    ∃ answer s' d' row',
      (completeLogin payload s.production).exec s =
        (.resolved answer, s') ∧
      SessionHeld payload s.production s' d' row' := by
  let auth : TransitionPayload :=
    { facts := { nonceValidated := true }
      sessionData := some newSession
      authorizationData :=
        some (payload.authorizationData s.production)
      licenseData := some payload.licenseData.record }
  have hAuth :
      (dispatch .BACKEND_AUTH_SUCCESS auth).exec s =
        (.resolved true, s.advanced d .AUTHENTICATED auth) := by
    apply dispatch_accepted h.idle h.memory h.row hVersion
    · rw [hState]
      rfl
    · apply assert_eq_none <;> simp
  have hNext := h.advanced .AUTHENTICATED auth
  rw [completeLogin, Flow.exec_bind_of hAuth,
    if_neg (by simp)]
  cases hValid : payload.isLicenseValid s.production with
  | false =>
      rw [if_pos (show (!false) = true from rfl)]
      refine ⟨_, _, _, _, rfl, hNext.setRevoked false,
        mirrors_advanced _ _ _ _, ?_, rfl, rfl, rfl, rfl⟩
      rw [hValid]
      rfl
  | true =>
      let authz : TransitionPayload :=
        { facts := { backendConfirmed := true }
          authorizationData :=
            some (payload.authorizationData s.production)
          licenseData := some payload.licenseData.record }
      have hAuthz :
          (dispatch .AUTHZ_LICENSE_RESOLVED authz).exec
              (s.advanced d .AUTHENTICATED auth) =
            (.resolved true,
              (s.advanced d .AUTHENTICATED auth).advanced
                (d.moved .AUTHENTICATED auth)
                .OPERATIONAL authz) := by
        apply dispatch_accepted hNext.idle hNext.memory
          hNext.row rfl rfl
        apply assert_operational rfl
        exact authorized_of_valid hValid
      have hLast := hNext.advanced .OPERATIONAL authz
      rw [if_neg (by simp), Flow.exec_bind_of hAuthz,
        if_pos rfl]
      refine ⟨_, _, _, _, rfl, hLast.setRevoked false,
        mirrors_advanced _ _ _ _, ?_, rfl, rfl, rfl, rfl⟩
      rw [hValid]
      rfl

/- A login that is not admitted changes nothing. -/
theorem login_refused
    (payload : AuthPayload)
    (h : s.Rests d row)
    (hRefused :
      d.state_version ≠ row.state_version ∨
        loginEligible d.state = false)
    (production : Bool) :
    ∃ answer, (login payload production d.state).exec s =
      (.resolved answer, s) := by
  cases hEligible : loginEligible d.state with
  | false =>
      rw [login, if_neg (by simp [hEligible])]
      exact ⟨_, rfl⟩
  | true =>
      have hVersion :
          d.state_version ≠ row.state_version := by
        simpa [hEligible] using hRefused
      have hIntent :
          (dispatch (loginEvent d.state)
            { sessionData := some newSession }).exec s =
            (.resolved false, s) :=
        dispatch_conflict h.idle h.memory h.row hVersion
      rw [login, if_pos hEligible]
      exact ⟨_, (Flow.exec_bind_of hIntent _).trans rfl⟩

theorem login_spec
    (payload : AuthPayload)
    (h : s.Rests d row)
    (hVersion : d.state_version = row.state_version)
    (hEligible : loginEligible d.state = true) :
    ∃ answer s' d' row',
      (login payload s.production d.state).exec s =
        (.resolved answer, s') ∧
      SessionHeld payload s.production s' d' row' := by
  let intent : TransitionPayload :=
    { sessionData := some newSession }
  have hIntent :
      (dispatch (loginEvent d.state) intent).exec s =
        (.resolved true,
          s.advanced d .AUTHENTICATING intent) := by
    apply dispatch_accepted h.idle h.memory h.row hVersion
    · exact nextState_login _ hEligible
    · apply assert_eq_none <;> simp
  have hNext := h.advanced .AUTHENTICATING intent
  rcases completeLogin_spec payload hNext rfl rfl with
    ⟨answer, s', d', row', hExec, hHeld⟩
  rw [login, if_pos hEligible]
  exact ⟨answer, s', d', row',
    (Flow.exec_bind_of hIntent _).trans hExec, hHeld⟩

/- A session on a license that is not revoked. -/
theorem admitSession_spec
    (payload : AuthPayload)
    (h : s.Rests d row) :
    ∃ answer s',
      (admitSession payload).exec s =
        (.resolved answer, s') ∧
      ((Admits d row (payload.isLicenseValid s.production) ∧
        ∃ d' row',
          SessionHeld payload s.production s' d' row') ∨
      (¬Admits d row (payload.isLicenseValid s.production) ∧
        s' = s)) := by
  rw [admitSession, Flow.exec_bind_of (Flow.exec_read _ _),
    Flow.exec_bind_of (Flow.exec_read _ _),
    h.getSystemState]
  by_cases hGrace :
      d.state = .OFFLINE_GRACE ∧
        payload.isLicenseValid s.production = true
  · have hIneligible : loginEligible d.state = false := by
      rw [hGrace.1]
      rfl
    let reconnect : TransitionPayload :=
      { facts := { handshakePassed := true }
        authorizationData :=
          some (payload.authorizationData s.production)
        licenseData := some payload.licenseData.record
        sessionData := some newSession }
    rw [if_pos hGrace]
    by_cases hVersion : d.state_version = row.state_version
    · have hReconnected :
          (dispatch .BACKEND_RECONNECTED reconnect).exec s =
            (.resolved true,
              s.advanced d .OPERATIONAL reconnect) := by
        apply dispatch_accepted h.idle h.memory h.row hVersion
        · rw [hGrace.1]
          rfl
        · apply assert_operational rfl
          exact authorized_of_valid hGrace.2
      have hNext := h.advanced .OPERATIONAL reconnect
      rw [Flow.exec_bind_of hReconnected, if_pos rfl]
      refine ⟨_, _, rfl, Or.inl ⟨⟨hVersion, Or.inr hGrace⟩,
        _, _, hNext.setRevoked false,
        mirrors_advanced _ _ _ _, ?_, rfl, rfl, rfl, rfl⟩⟩
      rw [hGrace.2]
      rfl
    · have hReconnected :
          (dispatch .BACKEND_RECONNECTED reconnect).exec s =
            (.resolved false, s) :=
        dispatch_conflict h.idle h.memory h.row hVersion
      rcases login_refused payload h
          (Or.inl hVersion) s.production with
        ⟨answer, hLogin⟩
      rw [Flow.exec_bind_of hReconnected, if_neg (by simp)]
      exact ⟨answer, s, hLogin,
        Or.inr ⟨fun hAdmits => hVersion hAdmits.1, rfl⟩⟩
  · rw [if_neg hGrace]
    by_cases hAdmits :
        Admits d row (payload.isLicenseValid s.production)
    · have hEligible : loginEligible d.state = true := by
        simpa [hGrace] using hAdmits.2
      rcases login_spec payload h hAdmits.1 hEligible with
        ⟨answer, s', d', row', hExec, hHeld⟩
      exact ⟨answer, s', hExec,
        Or.inl ⟨hAdmits, d', row', hHeld⟩⟩
    · have hRefused :
          d.state_version ≠ row.state_version ∨
            loginEligible d.state = false := by
        by_cases hVersion :
            d.state_version = row.state_version
        · right
          rw [Bool.eq_false_iff]
          intro hEligible
          exact hAdmits ⟨hVersion, Or.inl hEligible⟩
        · exact Or.inl hVersion
      rcases login_refused payload h hRefused
          s.production with
        ⟨answer, hLogin⟩
      exact ⟨answer, s, hLogin, Or.inr ⟨hAdmits, rfl⟩⟩

/- The license of the payload is revoked. -/
def AuthPayload.revoked
    (payload : AuthPayload) : Prop :=
  payload.licenseData.status = some "REVOKED"

instance
    (payload : AuthPayload) : Decidable payload.revoked :=
  inferInstanceAs (Decidable (_ = _))

/- What a session call can do to a resting authority. -/
inductive SessionEffect
    (payload : AuthPayload)
    (s : Authority)
    (d : StateData)
    (row : SecurityStateRow) :
    Authority → StateData → SecurityStateRow → Prop where
| denied
    (hMissing : payload.sessionId = none) :
    SessionEffect payload s d row s d row
| refused
    (hLicense : ¬payload.revoked)
    (hRefused :
      ¬Admits d row (payload.isLicenseValid s.production)) :
    SessionEffect payload s d row s d row
| revoked
    {s' : Authority}
    {d' : StateData}
    {row' : SecurityStateRow}
    (hPresent : payload.sessionId ≠ none)
    (hLicense : payload.revoked)
    (hState : d'.state = .REVOKED)
    (hStored : row'.state = .known .REVOKED)
    (hFlag : s'.revoked = true)
    (hVersion :
      d.state_version = row.state_version →
        (d'.state_version = row'.state_version ↔
          RevokesInStep d row)) :
    SessionEffect payload s d row s' d' row'
| held
    {s' : Authority}
    {d' : StateData}
    {row' : SecurityStateRow}
    (hPresent : payload.sessionId ≠ none)
    (hLicense : ¬payload.revoked)
    (hAdmits :
      Admits d row (payload.isLicenseValid s.production))
    (hHeld :
      SessionHeld payload s.production s' d' row') :
    SessionEffect payload s d row s' d' row'

theorem sessionCall_spec
    (payload : AuthPayload)
    (h : s.Rests d row) :
    ∃ answer s' d' row',
      (sessionCall payload).exec s = (.resolved answer, s') ∧
      s'.Rests d' row' ∧
      SessionEffect payload s d row s' d' row' := by
  unfold sessionCall
  by_cases hMissing : payload.sessionId = none
  · rw [if_pos (by simp [hMissing])]
    exact ⟨_, s, d, row, rfl, h, .denied hMissing⟩
  · rw [if_neg (by simpa using hMissing)]
    by_cases hLicense : payload.revoked
    · rcases revokeLicense_spec h with
        ⟨s', d', row', hExec, hRests, hState, hStored,
          hFlag, hVersion⟩
      have hStatus :
          payload.licenseData.status = some "REVOKED" :=
        hLicense
      rw [if_pos hStatus, Flow.exec_bind_of hExec]
      exact ⟨_, s', d', row', rfl, hRests,
        .revoked hMissing hLicense hState hStored hFlag
          hVersion⟩
    · rcases admitSession_spec payload h with
        ⟨answer, s', hExec, hCase⟩
      have hStatus :
          payload.licenseData.status ≠ some "REVOKED" :=
        hLicense
      rw [if_neg hStatus]
      rcases hCase with
        ⟨hAdmits, d', row', hHeld⟩ | ⟨hRefused, rfl⟩
      · exact ⟨answer, s', d', row', hExec, hHeld.rests,
          .held hMissing hLicense hAdmits hHeld⟩
      · exact ⟨answer, _, d, row, hExec, h,
          .refused hLicense hRefused⟩

/-
  The state from which a call proceeds: the one it found, or
  the one that a boot reached.
-/
def Starts
    (s s₁ : Authority)
    (d : StateData)
    (row : SecurityStateRow) : Prop :=
  (s₁ = s ∧ s.Rests d row) ∨
    (s.inMemoryState = none ∧ Booted s s₁ d row)

theorem Starts.rests
    {s₁ : Authority}
    (hStarts : Starts s s₁ d row) :
    s₁.Rests d row := by
  rcases hStarts with ⟨rfl, hRests⟩ | ⟨-, hBooted⟩
  · exact hRests
  · exact hBooted.rests

theorem Starts.production
    {s₁ : Authority}
    (hStarts : Starts s s₁ d row) :
    s₁.production = s.production := by
  rcases hStarts with ⟨rfl, -⟩ | ⟨-, hBooted⟩
  · rfl
  · exact hBooted.production

/- Every call that needs the engine finds one. -/
theorem ensureInitialized_starts
    (hIdle : s.Idle)
    (hGrounded : s.Grounded) :
    ∃ s₁ d row, ensureInitialized.exec s =
      (.resolved (), s₁) ∧ Starts s s₁ d row := by
  cases hMemory : s.inMemoryState with
  | none =>
      rcases ensureInitialized_spec hIdle hMemory with
        ⟨s₁, d, row, hExec, hBooted⟩
      exact ⟨s₁, d, row, hExec, Or.inr ⟨hMemory, hBooted⟩⟩
  | some d =>
      have hSome : s.row.isSome = true :=
        hGrounded (by simp [hMemory])
      rcases Option.isSome_iff_exists.mp hSome with
        ⟨row, hRow⟩
      exact ⟨s, d, row, exec_ensureInitialized hMemory,
        Or.inl ⟨rfl, hIdle, hMemory, hRow⟩⟩

theorem establishSession_spec
    (hIdle : s.Idle)
    (hGrounded : s.Grounded)
    (payload : AuthPayload) :
    ∃ s₁ d row answer s' d' row',
      Starts s s₁ d row ∧
      (establishSession payload).exec s =
        (.resolved answer, s') ∧
      s'.Rests d' row' ∧
      SessionEffect payload s₁ d row s' d' row' := by
  rcases ensureInitialized_starts hIdle hGrounded with
    ⟨s₁, d, row, hInit, hStarts⟩
  rcases sessionCall_spec payload hStarts.rests with
    ⟨answer, s', d', row', hExec, hRests, hEffect⟩
  refine ⟨s₁, d, row, answer, s', d', row', hStarts, ?_,
    hRests, hEffect⟩
  rw [establishSession, Flow.exec_bind_of hInit]
  exact hExec

end Sessions

end ControlPlane
