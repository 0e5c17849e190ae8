import ControlPlane.Authority.Steps

/-
  An operational state is an authorized one.

  The engine asserts this of the states it computes. Here it
  is asked of every writer of memory and row. Two of them
  break it: a synchronization makes any state operational,
  and a logout that the engine refuses takes the session
  away from a state that stays operational.

  Main declarations:
    * `Authority.OperationalAuthorized`
    * `Authority.KeepsAuthorized`
    * `step_operationalAuthorized_iff`
    * `operationalAuthorized_throughout_iff`
-/

------------------------------------------------------------
-- The Invariant
------------------------------------------------------------

namespace ControlPlane

/- The invariant that the engine asserts, of a state. -/
def StateData.Sound
    (d : StateData) : Prop :=
  d.state = .OPERATIONAL →
    authorizedBy d.authorization d.session

def SecurityStateRow.Sound
    (row : SecurityStateRow) : Prop :=
  row.state = .known .OPERATIONAL →
    authorizedBy row.authorization row.session

namespace Authority

/- It holds in memory and of the row. -/
def OperationalAuthorized
    (s : Authority) : Prop :=
  (∀ d, s.inMemoryState = some d → d.Sound) ∧
    ∀ row, s.row = some row → row.Sound

/-
  A logout that the engine accepts, and a synchronization of
  what is authorized already.
-/
def KeepsAuthorized
    (s : Authority) : SecurityOp → Prop
| .logout =>
    ∀ d row, s.inMemoryState = some d → s.row = some row →
      d.state = .OPERATIONAL →
        d.state_version = row.state_version
| .triggerReconciliation (.SYNC (some _)) =>
    ∀ row, s.row = some row →
      reconcileRefused row.state = false →
        authorizedBy row.authorization row.session ∧
          ∀ d, s.inMemoryState = some d →
            authorizedBy d.authorization d.session
| _ => True

end Authority

theorem Authority.Rests.operationalAuthorized_iff
    {s : Authority}
    {d : StateData}
    {row : SecurityStateRow}
    (h : s.Rests d row) :
    s.OperationalAuthorized ↔ d.Sound ∧ row.Sound := by
  simp [Authority.OperationalAuthorized, h.memory, h.row]

/- The invariant that the engine asserts is this one. -/
theorem assert_iff_sound
    {d : StateData}
    (hState : d.state = .OPERATIONAL) :
    assertStateMachineInvariants d = none ↔ d.Sound := by
  constructor
  · intro hAssert _
    simp only [assertStateMachineInvariants, hState]
      at hAssert
    cases hAuthorization : d.authorization with
    | none => simp [hAuthorization] at hAssert
    | some a =>
        by_cases hValid : a.status = "VALID"
        · cases hSession : d.session with
          | none =>
              simp [hAuthorization, hSession, hValid]
                at hAssert
          | some x =>
              refine ⟨⟨a, rfl, hValid⟩, x, rfl, ?_⟩
              simp only [hAuthorization, hSession, hValid]
                at hAssert
              by_cases hFirst : x.status = "AUTHENTICATED"
              · exact Or.inl hFirst
              · simp [hFirst] at hAssert
                exact Or.inr hAssert
        · simp [hAuthorization, hValid] at hAssert
  · intro hSound
    exact assert_operational hState (hSound hState)

theorem StateData.sound_of_ne
    {d : StateData}
    (hState : d.state ≠ .OPERATIONAL) :
    d.Sound :=
  fun hEq => absurd hEq hState

theorem SecurityStateRow.sound_of_ne
    {row : SecurityStateRow}
    (hState : row.state ≠ .known .OPERATIONAL) :
    row.Sound :=
  fun hEq => absurd hEq hState

/- A row that holds what is in memory is as sound. -/
theorem Mirrors.sound
    {d : StateData}
    {row : SecurityStateRow}
    (hMirrors : Mirrors row d)
    (hSound : d.Sound) :
    row.Sound := by
  intro hState
  rw [hMirrors.state] at hState
  rw [hMirrors.authorization, hMirrors.session]
  exact hSound (PersistedState.known.inj hState)

section Steps

variable
  {s s' s₁ : Authority}
  {d d' : StateData}
  {row row' : SecurityStateRow}

/- A boot revives no operational state in memory. -/
theorem Booted.sound
    (hBooted : Booted s s' d row)
    (hRow : ∀ old, s.row = some old → old.Sound) :
    d.Sound ∧ row.Sound := by
  have hState := hBooted.booted
  constructor
  · apply StateData.sound_of_ne
    intro hEq
    rw [hEq] at hState
    cases hState
  · rcases hBooted.stored with hStored | hWritten
    · exact hRow row hStored
    · apply SecurityStateRow.sound_of_ne
      intro hEq
      rw [hEq] at hWritten
      cases hWritten

theorem Starts.sound
    (hStarts : Starts s s₁ d row)
    (hAuthorized : s.OperationalAuthorized) :
    d.Sound ∧ row.Sound := by
  rcases hStarts with ⟨-, hRests⟩ | ⟨-, hBooted⟩
  · exact hRests.operationalAuthorized_iff.mp hAuthorized
  · exact hBooted.sound hAuthorized.2

/- A session is operational on a valid license only. -/
theorem SessionHeld.sound
    {payload : AuthPayload}
    {production : Bool}
    (hHeld : SessionHeld payload production s' d row) :
    d.Sound := by
  intro hState
  have hLicense := hHeld.state
  cases hValid : payload.isLicenseValid production with
  | false =>
      rw [hValid, hState] at hLicense
      cases hLicense
  | true =>
      rw [hHeld.authorization, hHeld.session]
      exact authorized_of_valid hValid

theorem SessionEffect.sound
    {payload : AuthPayload}
    (hEffect : SessionEffect payload s₁ d row s' d' row')
    (hSound : d.Sound ∧ row.Sound) :
    d'.Sound ∧ row'.Sound := by
  cases hEffect with
  | denied _ => exact hSound
  | refused _ _ => exact hSound
  | revoked _ _ hState hStored _ _ =>
      exact ⟨StateData.sound_of_ne (by simp [hState]),
        SecurityStateRow.sound_of_ne (by simp [hStored])⟩
  | held _ _ _ hHeld =>
      exact ⟨hHeld.sound, hHeld.mirrors.sound hHeld.sound⟩

theorem Descends.sound
    (hDescends : Descends d row d' row')
    (hSound : d.Sound ∧ row.Sound) :
    d'.Sound ∧ row'.Sound := by
  constructor
  · rcases hDescends.state with rfl | hState
    · exact hSound.1
    · exact StateData.sound_of_ne hState
  · rcases hDescends.stored with rfl | hStored
    · exact hSound.2
    · exact SecurityStateRow.sound_of_ne hStored

/- A logout and the state it leaves in memory. -/
theorem logout_sound_iff
    (hAuthorization : d'.authorization = none)
    (hStored : row'.state = .known .LOGGED_OUT)
    (hState :
      d'.state = .OPERATIONAL ↔
        d.state = .OPERATIONAL ∧
          d.state_version ≠ row.state_version) :
    d'.Sound ∧ row'.Sound ↔
      (d.state = .OPERATIONAL →
        d.state_version = row.state_version) := by
  have hNone : ¬authorizedBy d'.authorization d'.session := by
    rw [hAuthorization]
    simp [authorizedBy]
  have hRow : row'.Sound :=
    SecurityStateRow.sound_of_ne (by simp [hStored])
  simp only [hRow, and_true, StateData.Sound, hNone, hState]
  constructor
  · intro hNot hOperational
    by_cases hVersion : d.state_version = row.state_version
    · exact hVersion
    · exact absurd ⟨hOperational, hVersion⟩ hNot
  · rintro hVersion ⟨hOperational, hNe⟩
    exact hNe (hVersion hOperational)

/- What becomes unauthenticated is not operational. -/
theorem unauthenticated_sound
    (hSound : d.Sound ∧ row.Sound)
    (hSame :
      unauthenticable d.state = false → d' = d ∧ row' = row)
    (hMoved :
      unauthenticable d.state = true →
        d'.state = .UNAUTHENTICATED ∧
        (row' = row ∨
          row'.state = .known .UNAUTHENTICATED)) :
    d'.Sound ∧ row'.Sound := by
  cases hState : unauthenticable d.state with
  | false =>
      rcases hSame hState with ⟨rfl, rfl⟩
      exact hSound
  | true =>
      rcases hMoved hState with ⟨hNew, hRow⟩
      refine ⟨StateData.sound_of_ne (by simp [hNew]), ?_⟩
      rcases hRow with rfl | hRow
      · exact hSound.2
      · exact SecurityStateRow.sound_of_ne (by simp [hRow])

/- A tick keeps the states, or expires both. -/
theorem ticked_sound
    {now : Nat}
    (hAuthorized : s.OperationalAuthorized)
    (hRow : s.row = some row)
    (hStored : s'.row = some row')
    (hKept :
      row.graceOver now = false →
        s'.inMemoryState = s.inMemoryState ∧
        s'.revoked = s.revoked ∧
        row'.state = row.state ∧
        row'.session = row.session ∧
        row'.authorization = row.authorization ∧
        (row'.state_version = row.state_version ↔
          now ≤ row.highest_observed_time))
    (hOver :
      row.graceOver now = true →
        s'.inMemoryState =
          s.inMemoryState.map (fun d =>
            { d with
                state := .EXPIRED
                state_version := row'.state_version }) ∧
        s'.revoked = true ∧
        row'.state = .known .EXPIRED) :
    s'.OperationalAuthorized := by
  have hOnly : ∀ other, s'.row = some other → other = row' := by
    intro other hOther
    exact Option.some.inj (hOther.symm.trans hStored)
  cases hGrace : row.graceOver now with
  | false =>
      rcases hKept hGrace with
        ⟨hMemory, -, hState, hSession, hAuth, -⟩
      constructor
      · rw [hMemory]
        exact hAuthorized.1
      · intro other hOther hOperational
        rw [hOnly other hOther] at hOperational ⊢
        rw [hSession, hAuth]
        exact hAuthorized.2 row hRow (hState ▸ hOperational)
  | true =>
      rcases hOver hGrace with ⟨hMemory, -, hState⟩
      constructor
      · intro d hSome
        rw [hMemory] at hSome
        rcases Option.map_eq_some_iff.mp hSome with
          ⟨old, -, rfl⟩
        exact StateData.sound_of_ne (by simp)
      · intro other hOther
        rw [hOnly other hOther]
        exact SecurityStateRow.sound_of_ne (by simp [hState])

/- An answer that leaves the state in memory as it is. -/
theorem reconciled_sound_of_none
    {answer : ReconcileAnswer}
    (hAuthorized : s.OperationalAuthorized)
    (hDone : Reconciled s row answer s' row')
    (hTarget : answer.target = none)
    (hApply : ∀ d, answer.applyTo d = d) :
    s'.OperationalAuthorized := by
  have hId : answer.applyTo = id := funext hApply
  have hMemory : s'.inMemoryState = s.inMemoryState := by
    rw [hDone.memory, hId, Option.map_id]
    rfl
  constructor
  · rw [hMemory]
    exact hAuthorized.1
  · intro other hOther
    rw [hDone.stored] at hOther
    rw [← Option.some.inj hOther]
    apply SecurityStateRow.sound_of_ne
    rw [hDone.state, hTarget]
    simp

/- A synchronization makes both states operational. -/
theorem reconciled_sound_iff
    {answer : ReconcileAnswer}
    (hAuthorized : s.OperationalAuthorized)
    (hRow : s.row = some row)
    (hAllowed : reconcileRefused row.state = false)
    (hDone : Reconciled s row answer s' row') :
    s'.OperationalAuthorized ↔
      s.KeepsAuthorized (.triggerReconciliation answer) := by
  cases answer with
  | WIPE =>
      have hRow' : row'.Sound :=
        SecurityStateRow.sound_of_ne (by
          rw [hDone.state]
          simp [ReconcileAnswer.target])
      simp [Authority.OperationalAuthorized, hDone.stored,
        hRow', Authority.KeepsAuthorized, hDone.memory,
        ReconcileAnswer.applyTo, StateData.Sound]
  | other =>
      exact iff_of_true
        (reconciled_sound_of_none hAuthorized hDone rfl
          (fun _ => rfl)) trivial
  | failed message =>
      exact iff_of_true
        (reconciled_sound_of_none hAuthorized hDone rfl
          (fun _ => rfl)) trivial
  | SYNC authoritativeState =>
      cases authoritativeState with
      | none =>
          exact iff_of_true
            (reconciled_sound_of_none hAuthorized hDone rfl
              (fun _ => rfl)) trivial
      | some backend =>
          have hKept := hDone.kept (by simp)
          have hState : row'.state = .known .OPERATIONAL :=
            hDone.state
          have hStored :
              row'.Sound ↔
                authorizedBy row.authorization
                  row.session := by
            simp [SecurityStateRow.Sound, hState, hKept.1,
              hKept.2]
          simp only [Authority.OperationalAuthorized,
            hDone.stored, hDone.memory, hRow, hAllowed,
            Authority.KeepsAuthorized, Option.some.injEq,
            forall_eq', hStored, true_implies]
          rw [and_comm]
          simp [ReconcileAnswer.applyTo, StateData.Sound]

/- Exactly these operations keep the invariant. -/
theorem step_operationalAuthorized_iff
    (h : s.WellFormed)
    (hAuthorized : s.OperationalAuthorized)
    (op : SecurityOp) :
    (s.step op).OperationalAuthorized ↔
      s.KeepsAuthorized op := by
  have hEffect := step_effect h op
  generalize s.step op = next at hEffect
  cases hEffect with
  | restart hBooted =>
      exact iff_of_true
        (hBooted.rests.operationalAuthorized_iff.mpr
          (hBooted.sound hAuthorized.2)) trivial
  | session hPayload hStarts hRests hCall =>
      have hKeeps : s.KeepsAuthorized op := by
        cases op with
        | establishSession payload => trivial
        | authenticate credentials => trivial
        | _ => cases hPayload
      exact iff_of_true
        (hRests.operationalAuthorized_iff.mpr
          (hCall.sound (hStarts.sound hAuthorized))) hKeeps
  | forbidden _ => exact iff_of_true hAuthorized trivial
  | uninitialized flag hNeeds hMemory =>
      have hKeeps : s.KeepsAuthorized op := by
        cases op with
        | logout =>
            intro d row hSome
            rw [hMemory] at hSome
            cases hSome
        | enterOfflineGrace lease => trivial
        | transitionToDegraded reason => trivial
        | revokeLicense => trivial
        | _ => cases hNeeds
      exact iff_of_true hAuthorized hKeeps
  | logout hRests hRests' _ hStored hAuthorization hState =>
      rw [hRests'.operationalAuthorized_iff,
        logout_sound_iff hAuthorization hStored hState]
      simp [Authority.KeepsAuthorized, hRests.memory,
        hRests.row]
  | unauthenticated hStarts hRests hSame hMoved _ =>
      exact iff_of_true
        (hRests.operationalAuthorized_iff.mpr
          (unauthenticated_sound (hStarts.sound hAuthorized)
            (fun hState => (hSame hState).2) hMoved)) trivial
  | degraded hDegrades hRests hRests' hDescends _ =>
      have hKeeps : s.KeepsAuthorized op := by
        cases op with
        | enterOfflineGrace lease => trivial
        | transitionToDegraded reason => trivial
        | _ => cases hDegrades
      have hBefore :=
        hRests.operationalAuthorized_iff.mp hAuthorized
      exact iff_of_true
        (hRests'.operationalAuthorized_iff.mpr
          (hDescends.sound hBefore)) hKeeps
  | revoked _ hRests' hState hStored _ _ =>
      exact iff_of_true
        (hRests'.operationalAuthorized_iff.mpr
          ⟨StateData.sound_of_ne (by simp [hState]),
            SecurityStateRow.sound_of_ne (by simp [hStored])⟩)
        trivial
  | missed _ => exact iff_of_true hAuthorized trivial
  | rolledBack _ _ => exact iff_of_true hAuthorized trivial
  | ticked hRow _ hStored _ hKept hOver =>
      exact iff_of_true
        (ticked_sound hAuthorized hRow hStored hKept hOver)
        trivial
  | unreconciled hRefused =>
      refine iff_of_true hAuthorized ?_
      rename_i answer
      unfold Authority.KeepsAuthorized
      split
      · rename_i hOp
        cases hOp
      · intro row hRow hAllowed
        rw [hRefused row hRow] at hAllowed
        cases hAllowed
      · trivial
  | reconciled hRow hAllowed _ hDone _ =>
      exact reconciled_sound_iff hAuthorized hRow hAllowed
        hDone

end Steps

------------------------------------------------------------
-- Runs
------------------------------------------------------------

/-
  Every operational state of a run is authorized, in memory
  and on disk, exactly when each logout of it is accepted
  and each synchronization finds authorized states.
-/
theorem operationalAuthorized_throughout_iff
    (production : Bool)
    (wallClock : Nat → Nat)
    (ops : List SecurityOp) :
    Throughout Authority.step Authority.OperationalAuthorized
        (Authority.fresh production wallClock) ops ↔
      Along Authority.step Authority.KeepsAuthorized
        (Authority.fresh production wallClock) ops := by
  apply throughout_iff_along_of_invariant
    (fun _ op hs => step_wellFormed op hs)
    (fun _ op hs hAuthorized =>
      step_operationalAuthorized_iff hs hAuthorized op)
    ops (Authority.fresh_wellFormed production wallClock)
  constructor
  · intro d hSome
    cases hSome
  · intro row hSome
    cases hSome

/-
  A backend that synchronizes a control plane on which no
  one has logged in makes it operational.
-/
theorem sync_unauthorized :
    ¬(run Authority.step (Authority.fresh false (fun _ => 1))
      [.restart true,
        .triggerReconciliation
          (.SYNC (some { graceToken := none }))]
      ).OperationalAuthorized := by
  intro hAuthorized
  have hSound := hAuthorized.1 _ rfl rfl
  revert hSound
  decide

end ControlPlane
