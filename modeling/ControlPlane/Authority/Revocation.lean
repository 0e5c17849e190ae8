import ControlPlane.Authority.Steps

/-
  Revocation over runs.

  A revoked license is in memory, in the row and in the flag
  of the native core. Every operation but a logout keeps it
  there, across restarts too. A logout persists its own
  state over the revoked row.

  Main declarations:
    * `Authority.LicenseRevoked`
    * `step_licenseRevoked_iff`
    * `licenseRevoked_throughout_iff`
-/

------------------------------------------------------------
-- The Revoked State
------------------------------------------------------------

namespace ControlPlane

/- Revoked in memory and on disk, with no capability left. -/
def Authority.LicenseRevoked
    (s : Authority) : Prop :=
  s.getSystemState = .REVOKED ∧
    s.row.map (fun row => row.state) =
      some (.known .REVOKED) ∧
    s.revoked = true ∧
    ∀ activeExecution,
      s.getCurrentCapabilities activeExecution =
        ["CAP_AUTOMATION_STOP"]

section Revocation

variable
  {s : Authority}
  {d : StateData}
  {row : SecurityStateRow}

/- States that grant nothing leave only the stop. -/
theorem getCurrentCapabilities_dormant
    (hMemory : s.inMemoryState = some d)
    (hDormant : dormant d.state = true)
    (activeExecution : Bool) :
    s.getCurrentCapabilities activeExecution =
      ["CAP_AUTOMATION_STOP"] := by
  rw [Authority.getCurrentCapabilities, hMemory]
  dsimp only
  rw [if_pos hDormant]

theorem Authority.Rests.licenseRevoked_iff
    (h : s.Rests d row) :
    s.LicenseRevoked ↔
      d.state = .REVOKED ∧ row.state = .known .REVOKED ∧
        s.revoked = true := by
  rw [Authority.LicenseRevoked, h.getSystemState, h.row]
  constructor
  · rintro ⟨hState, hStored, hFlag, -⟩
    exact ⟨hState, Option.some.inj hStored, hFlag⟩
  · rintro ⟨hState, hStored, hFlag⟩
    refine ⟨hState, congrArg some hStored, hFlag, ?_⟩
    apply getCurrentCapabilities_dormant h.memory
    rw [hState]
    rfl

/- A revoked authority is initialized. -/
theorem Authority.LicenseRevoked.rests
    (hRevoked : s.LicenseRevoked)
    (h : s.WellFormed) :
    ∃ d row, s.Rests d row ∧ d.state = .REVOKED ∧
      row.state = .known .REVOKED := by
  cases hMemory : s.inMemoryState with
  | none =>
      have hState := hRevoked.1
      simp [Authority.getSystemState, hMemory] at hState
  | some d =>
      rcases h.rests hMemory with ⟨row, hRests⟩
      rcases hRests.licenseRevoked_iff.mp hRevoked with
        ⟨hState, hStored, -⟩
      exact ⟨d, row, hRests, hState, hStored⟩

/- An authority rests on one state and one row. -/
theorem Authority.Rests.unique
    {d₁ : StateData}
    {row₁ : SecurityStateRow}
    (hRests : s.Rests d row)
    (hOther : s.Rests d₁ row₁) :
    d₁ = d ∧ row₁ = row :=
  ⟨Option.some.inj (hOther.memory.symm.trans hRests.memory),
    Option.some.inj (hOther.row.symm.trans hRests.row)⟩

/- An authority that is initialized starts where it rests. -/
theorem Starts.of_rests
    {s₁ : Authority}
    {d₁ : StateData}
    {row₁ : SecurityStateRow}
    (hStarts : Starts s s₁ d₁ row₁)
    (hRests : s.Rests d row) :
    s₁ = s ∧ d₁ = d ∧ row₁ = row := by
  rcases hStarts with ⟨rfl, hOther⟩ | ⟨hNone, -⟩
  · exact ⟨rfl, hRests.unique hOther⟩
  · rw [hRests.memory] at hNone
    cases hNone

/- A session call finds no way out of the revoked state. -/
theorem SessionEffect.keeps_revoked
    {payload : AuthPayload}
    {s' : Authority}
    {d' : StateData}
    {row' : SecurityStateRow}
    (hEffect : SessionEffect payload s d row s' d' row')
    (hState : d.state = .REVOKED)
    (hStored : row.state = .known .REVOKED)
    (hFlag : s.revoked = true) :
    d'.state = .REVOKED ∧ row'.state = .known .REVOKED ∧
      s'.revoked = true := by
  cases hEffect with
  | denied _ => exact ⟨hState, hStored, hFlag⟩
  | refused _ _ => exact ⟨hState, hStored, hFlag⟩
  | revoked _ _ hState' hStored' hFlag' _ =>
      exact ⟨hState', hStored', hFlag'⟩
  | held _ _ hAdmits _ =>
      have hFrom := hAdmits.2
      rw [hState] at hFrom
      simp [loginEligible] at hFrom

end Revocation

------------------------------------------------------------
-- Runs
------------------------------------------------------------

/- Exactly a logout takes the revocation back. -/
theorem step_licenseRevoked_iff
    {s : Authority}
    (h : s.WellFormed)
    (hRevoked : s.LicenseRevoked)
    (op : SecurityOp) :
    (s.step op).LicenseRevoked ↔ op ≠ .logout := by
  rcases hRevoked.rests h with
    ⟨d, row, hRests, hState, hStored⟩
  have hFlag := hRevoked.2.2.1
  have hEffect := step_effect h op
  generalize s.step op = s' at hEffect
  cases hEffect with
  | restart hBooted =>
      rcases hBooted.revoked row hRests.row hStored with
        ⟨hState', rfl, hFlag'⟩
      simp only [ne_eq, reduceCtorEq, not_false_eq_true,
        iff_true]
      exact hBooted.rests.licenseRevoked_iff.mpr
        ⟨hState', hStored, hFlag'⟩
  | session hPayload hFrom hRests' hCall =>
      rcases hFrom.of_rests hRests with ⟨rfl, rfl, rfl⟩
      have hOp : op ≠ .logout := by
        rintro rfl
        cases hPayload
      simp only [hOp, ne_eq, not_false_eq_true, iff_true]
      exact hRests'.licenseRevoked_iff.mpr
        (hCall.keeps_revoked hState hStored hFlag)
  | forbidden _ => simpa using hRevoked
  | uninitialized flag _ hMemory =>
      rw [hRests.memory] at hMemory
      cases hMemory
  | logout _ hRests' _ hStored' =>
      simp only [ne_eq, not_true_eq_false, iff_false]
      intro hAgain
      have hWrong :=
        (hRests'.licenseRevoked_iff.mp hAgain).2.1
      rw [hStored'] at hWrong
      cases hWrong
  | unauthenticated hFrom hRests' hKept _ _ =>
      rcases hFrom.of_rests hRests with ⟨rfl, hData, -⟩
      rcases hKept (by rw [hData, hState]; rfl) with
        ⟨rfl, -, -⟩
      simpa using hRevoked
  | degraded hDegrades hFrom hRests' hDescends hFlag' =>
      rcases hRests.unique hFrom with ⟨rfl, rfl⟩
      rcases hDescends.revoked hState with ⟨rfl, rfl⟩
      have hOp : op ≠ .logout := by
        rintro rfl
        cases hDegrades
      simp only [hOp, ne_eq, not_false_eq_true, iff_true]
      refine hRests'.licenseRevoked_iff.mpr
        ⟨hState, hStored, ?_⟩
      rcases hFlag' hState with hEq | hEq
      · rw [hEq, hFlag]
      · exact hEq
  | revoked _ hRests' hState' hStored' hFlag' _ =>
      simp only [ne_eq, reduceCtorEq, not_false_eq_true,
        iff_true]
      exact hRests'.licenseRevoked_iff.mpr
        ⟨hState', hStored', hFlag'⟩
  | missed _ => simpa using hRevoked
  | rolledBack _ _ =>
      simp only [ne_eq, reduceCtorEq, not_false_eq_true,
        iff_true]
      exact (hRests.setRevoked true).licenseRevoked_iff.mpr
        ⟨hState, hStored, rfl⟩
  | ticked hRow _ hStored' hIdle hKept _ =>
      have hFound := hRests.row.symm.trans hRow
      rcases Option.some.inj hFound with rfl
      have hOver : ∀ now, row.graceOver now = false := by
        intro now
        simp [SecurityStateRow.graceOver, hStored]
      rcases hKept (hOver _) with
        ⟨hMemory, hFlag', hState', -⟩
      have hRests' : Authority.Rests s' d _ :=
        ⟨hIdle, hMemory.trans hRests.memory, hStored'⟩
      simp only [ne_eq, reduceCtorEq, not_false_eq_true,
        iff_true]
      exact hRests'.licenseRevoked_iff.mpr
        ⟨hState, hState'.trans hStored, hFlag'.trans hFlag⟩
  | unreconciled _ => simpa using hRevoked
  | reconciled hRow hAllowed _ _ _ =>
      have hFound := hRests.row.symm.trans hRow
      rcases Option.some.inj hFound with rfl
      rw [hStored] at hAllowed
      cases hAllowed

/-
  After a revocation every later state of a run is revoked
  exactly when the engine was initialized at the time and no
  logout follows.
-/
theorem licenseRevoked_throughout_iff
    (production : Bool)
    (wallClock : Nat → Nat)
    (before later : List SecurityOp) :
    Throughout Authority.step Authority.LicenseRevoked
        (run Authority.step
          (Authority.fresh production wallClock)
          (before ++ [.revokeLicense])) later ↔
      (run Authority.step
          (Authority.fresh production wallClock)
          before).inMemoryState.isSome ∧
        .logout ∉ later := by
  have hWellFormed :=
    run_wellFormed production wallClock before
  rw [run_append]
  generalize run Authority.step
    (Authority.fresh production wallClock) before = s
    at hWellFormed ⊢
  have hNext := step_wellFormed .revokeLicense hWellFormed
  have hFirst :
      (s.step .revokeLicense).LicenseRevoked ↔
        s.inMemoryState.isSome := by
    have hEffect := step_effect hWellFormed .revokeLicense
    generalize s.step .revokeLicense = s' at hEffect
    cases hEffect with
    | uninitialized flag _ hMemory =>
        simp [Authority.LicenseRevoked,
          Authority.getSystemState, hMemory]
    | revoked hRests hRests' hState hStored hFlag _ =>
        simp only [hRests.memory, Option.isSome_some, iff_true]
        exact hRests'.licenseRevoked_iff.mpr
          ⟨hState, hStored, hFlag⟩
    | session hPayload => cases hPayload
    | degraded hDegrades => cases hDegrades
  have hAlong :
      ∀ ops : List SecurityOp,
        Along Authority.step (fun _ op => op ≠ .logout)
          (s.step .revokeLicense) ops ↔ .logout ∉ ops := by
    intro ops
    rw [along_iff]
    constructor
    · intro hAll hMem
      rcases List.append_of_mem hMem with
        ⟨past, future, hSplit⟩
      exact hAll past .logout future hSplit rfl
    · rintro hNot past op future rfl rfl
      simp at hNot
  constructor
  · intro hAll
    have hStart := hAll [] later rfl
    refine ⟨hFirst.mp hStart, (hAlong later).mp ?_⟩
    exact (throughout_iff_along_of_invariant
      (fun _ op hs => step_wellFormed op hs)
      (fun _ op hs hRevoked =>
        step_licenseRevoked_iff hs hRevoked op)
      later hNext hStart).mp hAll
  · rintro ⟨hInit, hNot⟩
    exact (throughout_iff_along_of_invariant
      (fun _ op hs => step_wellFormed op hs)
      (fun _ op hs hRevoked =>
        step_licenseRevoked_iff hs hRevoked op)
      later hNext (hFirst.mpr hInit)).mpr
        ((hAlong later).mpr hNot)

/-
  A logout and a restart give the operator a way back: the
  next login of the revoked license is operational again.
-/
theorem logout_undoes_revocation :
    (run Authority.step (Authority.fresh false (fun _ => 1))
      [.restart true, .revokeLicense]).LicenseRevoked ∧
    (run Authority.step (Authority.fresh false (fun _ => 1))
      [.restart true, .revokeLicense, .logout, .restart true,
        .establishSession plainLogin]).getSystemState =
      .OPERATIONAL ∧
    (run Authority.step (Authority.fresh false (fun _ => 1))
      [.restart true, .revokeLicense, .logout, .restart true,
        .establishSession plainLogin]).revoked = false := by
  refine ⟨⟨by decide, by decide, by decide, by decide⟩, ?_, ?_⟩
  · decide
  · decide

end ControlPlane
