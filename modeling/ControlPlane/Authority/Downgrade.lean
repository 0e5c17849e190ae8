import ControlPlane.Authority.Revocation

/-
  A license that is no longer valid.

  A session call that brings such a license ends in a state
  without capabilities when it is made from an operational
  state whose version is the one of the row, or when the
  license is revoked. From offline grace it changes nothing.

  Main declarations:
    * `AuthPayload.Downgrades`
    * `Authority.StopOnly`
    * `downgrade_stopOnly_iff`
-/

------------------------------------------------------------
-- Downgrades
------------------------------------------------------------

namespace ControlPlane

/- The license is not valid, not signed or grants nothing. -/
def AuthPayload.Downgrades
    (payload : AuthPayload)
    (production : Bool) : Prop :=
  payload.licenseData.status ≠ some "VALID" ∨
    payload.hasValidSignature production = false ∨
    payload.capabilities = some []

theorem AuthPayload.Downgrades.invalid
    {payload : AuthPayload}
    {production : Bool}
    (hDowngrades : payload.Downgrades production) :
    payload.isLicenseValid production = false := by
  rcases hDowngrades with hStatus | hSignature | hEmpty
  · simp [AuthPayload.isLicenseValid, hStatus]
  · simp [AuthPayload.isLicenseValid, hSignature]
  · have hCaps : expandedCaps payload = [] := by
      simp [expandedCaps, hEmpty, implies]
    simp [AuthPayload.isLicenseValid, hCaps]

/-
  Only the emergency stop is left: neither a bet nor a start
  of the automation is authorized.
-/
def Authority.StopOnly
    (s : Authority) : Prop :=
  ∀ activeExecution,
    s.getCurrentCapabilities activeExecution =
      ["CAP_AUTOMATION_STOP"] ∧
    (s.authorize activeExecution
      "CAP_TACTICAL_BET").status = .DENIED ∧
    (s.authorize activeExecution
      "CAP_AUTOMATION_START").status = .DENIED

section Downgrade

variable
  {s : Authority}
  {d : StateData}
  {row : SecurityStateRow}

/- What is authorized follows from the capabilities. -/
theorem stopOnly_iff :
    s.StopOnly ↔
      ∀ activeExecution,
        s.getCurrentCapabilities activeExecution =
          ["CAP_AUTOMATION_STOP"] := by
  constructor
  · intro hStop activeExecution
    exact (hStop activeExecution).1
  · intro hCaps activeExecution
    have hOnly := hCaps activeExecution
    refine ⟨hOnly, ?_, ?_⟩
    · simp [Authority.authorize, hOnly, aliasMap]
    · simp [Authority.authorize, hOnly, aliasMap]

theorem stopOnly_of_uninitialized
    (hMemory : s.inMemoryState = none) :
    s.StopOnly := by
  rw [stopOnly_iff]
  intro activeExecution
  simp [Authority.getCurrentCapabilities, hMemory]

theorem Authority.Rests.stopOnly_of_dormant
    (h : s.Rests d row)
    (hDormant : dormant d.state = true) :
    s.StopOnly := by
  rw [stopOnly_iff]
  exact getCurrentCapabilities_dormant h.memory hDormant

/- A booted engine grants nothing. -/
theorem dormant_of_booted
    {st : SecurityState}
    (hBooted : bootedState st = true) :
    dormant st = true := by
  cases st <;> first | rfl | cases hBooted

/- Of the states that admit a login, one grants anything. -/
theorem dormant_of_eligible
    {st : SecurityState}
    (hEligible : loginEligible st = true)
    (hState : st ≠ .OPERATIONAL) :
    dormant st = true := by
  cases st <;>
    first | rfl | exact absurd rfl hState | cases hEligible

/- The operational state is left when the versions agree. -/
def Authority.OperationalInStep
    (s : Authority) : Prop :=
  ∃ d row, s.inMemoryState = some d ∧ s.row = some row ∧
    d.state = .OPERATIONAL ∧
    d.state_version = row.state_version

/- What a downgrade leaves of an initialized engine. -/
theorem SessionEffect.stopOnly_iff
    {payload : AuthPayload}
    {s' : Authority}
    {d' : StateData}
    {row' : SecurityStateRow}
    (h : s.Rests d row)
    (hRests : s'.Rests d' row')
    (hEffect : SessionEffect payload s d row s' d' row')
    (hInvalid :
      payload.isLicenseValid s.production = false) :
    s'.StopOnly ↔
      s.StopOnly ∨
        (payload.sessionId ≠ none ∧
          (payload.revoked ∨
            (d.state = .OPERATIONAL ∧
              d.state_version = row.state_version))) := by
  cases hEffect with
  | denied hMissing => simp [hMissing]
  | refused hLicense hRefused =>
      have hNot :
          ¬(d.state = .OPERATIONAL ∧
            d.state_version = row.state_version) := by
        rintro ⟨hState, hVersion⟩
        apply hRefused
        exact ⟨hVersion, Or.inl (by rw [hState]; rfl)⟩
      simp [hLicense, hNot]
  | revoked hPresent hLicense hState _ _ _ =>
      have hStop : s'.StopOnly := by
        apply hRests.stopOnly_of_dormant
        rw [hState]
        rfl
      simp [hStop, hPresent, hLicense]
  | held hPresent hLicense hAdmits hHeld =>
      have hStop : s'.StopOnly := by
        apply hHeld.rests.stopOnly_of_dormant
        rw [hHeld.state, hInvalid]
        rfl
      refine iff_of_true hStop ?_
      by_cases hState : d.state = .OPERATIONAL
      · exact Or.inr ⟨hPresent,
          Or.inr ⟨hState, hAdmits.1⟩⟩
      · left
        apply h.stopOnly_of_dormant
        rcases hAdmits.2 with hEligible | ⟨-, hValid⟩
        · exact dormant_of_eligible hEligible hState
        · rw [hInvalid] at hValid
          cases hValid

/- A downgrade of an engine that has not been started. -/
theorem SessionEffect.stopOnly_of_booted
    {payload : AuthPayload}
    {s₁ s' : Authority}
    {d' : StateData}
    {row' : SecurityStateRow}
    (hBooted : Booted s s₁ d row)
    (hRests : s'.Rests d' row')
    (hEffect : SessionEffect payload s₁ d row s' d' row')
    (hInvalid :
      payload.isLicenseValid s₁.production = false) :
    s'.StopOnly := by
  have hDormant := dormant_of_booted hBooted.booted
  rw [hEffect.stopOnly_iff hBooted.rests hRests hInvalid]
  exact Or.inl (hBooted.rests.stopOnly_of_dormant hDormant)

end Downgrade

------------------------------------------------------------
-- From Every State
------------------------------------------------------------

/-
  After a downgrade only the emergency stop is left exactly
  when this was so before, or when the call brings a session
  and the license is revoked or the engine is operational
  with the version of the row.
-/
theorem downgrade_stopOnly_iff
    (production : Bool)
    (wallClock : Nat → Nat)
    (before : List SecurityOp)
    (payload : AuthPayload)
    (s : Authority)
    (hReached :
      s = run Authority.step
        (Authority.fresh production wallClock) before)
    (hDowngrades : payload.Downgrades s.production) :
    (∃ answer,
      (establishSession payload).exec s =
        (.resolved answer,
          s.step (.establishSession payload))) ∧
    ((s.step (.establishSession payload)).StopOnly ↔
      s.StopOnly ∨
        (payload.sessionId ≠ none ∧
          (payload.revoked ∨ s.OperationalInStep))) := by
  have hWellFormed :=
    run_wellFormed production wallClock before
  rw [← hReached] at hWellFormed
  have hInvalid := hDowngrades.invalid
  rcases establishSession_spec hWellFormed.idle
      hWellFormed.grounded payload with
    ⟨s₁, d, row, answer, s', d', row', hStarts, hExec,
      hRests, hEffect⟩
  have hStep : s.step (.establishSession payload) = s' :=
    step_eq_of_exec (.establishSession payload)
      (exec_discard hExec)
  rw [hStep]
  refine ⟨⟨answer, hExec⟩, ?_⟩
  rcases hStarts with ⟨rfl, hFrom⟩ | ⟨hMemory, hBooted⟩
  · rw [hEffect.stopOnly_iff hFrom hRests hInvalid]
    simp [Authority.OperationalInStep, hFrom.memory,
      hFrom.row]
  · rw [← hBooted.production] at hInvalid
    exact iff_of_true
      (hEffect.stopOnly_of_booted hBooted hRests hInvalid)
      (Or.inl (stopOnly_of_uninitialized hMemory))

/- A license that the backend reports as expired. -/
def expiredLogin : AuthPayload where
  sessionId := some "s"
  capabilities := none
  license :=
    some
      { status := some "EXPIRED"
        strictCapabilities := false
        signature := false
        integrity := false }

/- The downgrade of an operational session takes effect. -/
theorem downgrade_of_operational :
    (run Authority.step (Authority.fresh false (fun _ => 1))
      [.restart true, .establishSession plainLogin,
        .establishSession expiredLogin]).StopOnly := by
  have hDowngrades :
      expiredLogin.Downgrades false := Or.inl (by decide)
  refine ((downgrade_stopOnly_iff false (fun _ => 1)
    [.restart true, .establishSession plainLogin]
    expiredLogin _ rfl hDowngrades).2.mpr ?_)
  exact Or.inr ⟨by decide, Or.inr ⟨_, _, rfl, rfl, by decide,
    by decide⟩⟩

/-
  In offline grace a downgrade leaves every capability of
  the old license.
-/
theorem downgrade_ignored_in_offline_grace :
    ((run Authority.step (Authority.fresh false (fun _ => 1))
      [.restart true, .establishSession plainLogin,
        .transitionToDegraded "OFFLINE_GRACE",
        .establishSession expiredLogin]).authorize false
      "CAP_TACTICAL_BET").status = .state .OPERATIONAL := by
  decide

end ControlPlane
