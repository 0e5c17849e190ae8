import ControlPlane.Authority.Steps

/-
  The version in memory and the version of the row.

  A dispatch is refused when the two differ. Transitions,
  logouts and boots leave them equal. A revocation, a tick
  and a reconciliation commit rows of their own and mostly
  leave the version in memory behind.

  Main declarations:
    * `Authority.InStep` and `Authority.KeepsStep`
    * `step_inStep_iff`
    * `inStep_throughout_iff`
-/

------------------------------------------------------------
-- Versions In Step
------------------------------------------------------------

namespace ControlPlane

namespace Authority

/- The version in memory is the one of the row. -/
def InStep
    (s : Authority) : Prop :=
  ∀ d row, s.inMemoryState = some d → s.row = some row →
    d.state_version = row.state_version

/-
  A revocation that leaves the versions equal. Without a
  state in memory it starts with a boot.
-/
def RevokedInStep
    (s : Authority) : Prop :=
  ∀ row, s.row = some row →
    match s.inMemoryState with
    | some d => RevokesInStep d row
    | none => row.state = .known .REVOKED

/- A tick that commits nothing, or expires the grace. -/
def TickedInStep
    (s : Authority)
    (now : Nat) : Prop :=
  s.inMemoryState.isSome → ∀ row, s.row = some row →
    now ≤ row.highest_observed_time ∨
      row.graceOver now = true

/- Operations that leave the two versions equal. -/
def KeepsStep
    (s : Authority) : SecurityOp → Prop
| .revokeLicense => s.inMemoryState.isSome → s.RevokedInStep
| .checkTimeBounds (some now) => s.TickedInStep now
| .triggerReconciliation _ =>
    s.inMemoryState.isSome → ∀ row, s.row = some row →
      reconcileRefused row.state = true
| op =>
    ∀ payload, op.payload s = some payload →
      payload.sessionId ≠ none → payload.revoked →
        s.row.isSome ∧ s.RevokedInStep

end Authority

theorem Authority.Rests.inStep_iff
    {s : Authority}
    {d : StateData}
    {row : SecurityStateRow}
    (h : s.Rests d row) :
    s.InStep ↔ d.state_version = row.state_version := by
  constructor
  · intro hStep
    exact hStep d row h.memory h.row
  · intro hVersion d' row' hMemory hRow
    cases h.memory.symm.trans hMemory
    cases h.row.symm.trans hRow
    exact hVersion

theorem inStep_of_uninitialized
    {s : Authority}
    (hMemory : s.inMemoryState = none) :
    s.InStep := by
  intro d row hSome
  rw [hMemory] at hSome
  cases hSome

/- No booted state has a revocation in the table. -/
theorem not_revocable_of_booted
    {st : SecurityState}
    (hBooted : bootedState st = true) :
    revocable st = false := by
  cases st <;> first | rfl | cases hBooted

section Steps

variable
  {s s₁ : Authority}
  {d : StateData}
  {row : SecurityStateRow}

/- Calls start with equal versions. -/
theorem Starts.version
    (hStarts : Starts s s₁ d row)
    (hStep : s.InStep) :
    d.state_version = row.state_version := by
  rcases hStarts with ⟨-, hRests⟩ | ⟨-, hBooted⟩
  · exact hRests.inStep_iff.mp hStep
  · exact hBooted.version

/- A revocation after the start of a call. -/
theorem Starts.revokesInStep_iff
    (hStarts : Starts s s₁ d row) :
    RevokesInStep d row ↔
      s.row.isSome ∧ s.RevokedInStep := by
  rcases hStarts with ⟨-, hRests⟩ | ⟨hMemory, hBooted⟩
  · simp [Authority.RevokedInStep, hRests.memory, hRests.row]
  · have hNot := not_revocable_of_booted hBooted.booted
    simp only [RevokesInStep, hNot, Authority.RevokedInStep,
      hMemory, Bool.false_eq_true, if_false]
    constructor
    · intro hState
      rcases hBooted.stored with hStored | hWritten
      · simp [hStored, hState]
      · rw [hState] at hWritten
        cases hWritten
    · rintro ⟨hSome, hAll⟩
      rcases Option.isSome_iff_exists.mp hSome with
        ⟨old, hOld⟩
      rcases hBooted.revoked old hOld (hAll old hOld) with
        ⟨-, hSame, -⟩
      rw [hSame]
      exact hAll old hOld

/- The versions after a session call. -/
theorem SessionEffect.version_iff
    {payload : AuthPayload}
    {s' : Authority}
    {d' : StateData}
    {row' : SecurityStateRow}
    (hEffect : SessionEffect payload s₁ d row s' d' row')
    (hVersion : d.state_version = row.state_version) :
    d'.state_version = row'.state_version ↔
      (payload.sessionId ≠ none → payload.revoked →
        RevokesInStep d row) := by
  cases hEffect with
  | denied hMissing => simp [hVersion, hMissing]
  | refused hLicense _ => simp [hVersion, hLicense]
  | revoked hPresent hLicense _ _ _ hSame =>
      simpa [hPresent, hLicense] using hSame hVersion
  | held _ hLicense _ hHeld =>
      simp [hLicense, hHeld.mirrors.state_version.symm]

/- Sessions are the only other operations that revoke. -/
theorem keepsStep_of_payload
    {op : SecurityOp}
    {payload : AuthPayload}
    (hPayload : op.payload s = some payload) :
    s.KeepsStep op ↔
      (payload.sessionId ≠ none → payload.revoked →
        s.row.isSome ∧ s.RevokedInStep) := by
  have hOnly :
      (∀ other, op.payload s = some other →
        other.sessionId ≠ none → other.revoked →
          s.row.isSome ∧ s.RevokedInStep) ↔
        (payload.sessionId ≠ none → payload.revoked →
          s.row.isSome ∧ s.RevokedInStep) := by
    rw [hPayload]
    constructor
    · intro hAll
      exact hAll payload rfl
    · rintro hOne other hOther
      cases hOther
      exact hOne
  cases op with
  | establishSession payload => exact hOnly
  | authenticate credentials => exact hOnly
  | _ => cases hPayload

theorem keepsStep_of_no_payload
    {op : SecurityOp}
    (hPayload : op.payload s = none)
    (hOp :
      s.KeepsStep op =
        ∀ payload, op.payload s = some payload →
          payload.sessionId ≠ none → payload.revoked →
            s.row.isSome ∧ s.RevokedInStep) :
    s.KeepsStep op := by
  rw [hOp, hPayload]
  intro payload hSome
  cases hSome

/- A tick that was not rejected. -/
theorem ticked_inStep_iff
    {s' : Authority}
    {row' : SecurityStateRow}
    {now : Nat}
    (hStep : s.InStep)
    (hRow : s.row = some row)
    (hStored : s'.row = some row')
    (hKept :
      row.graceOver now = false →
        s'.inMemoryState = s.inMemoryState ∧
        (row'.state_version = row.state_version ↔
          now ≤ row.highest_observed_time))
    (hOver :
      row.graceOver now = true →
        s'.inMemoryState =
          s.inMemoryState.map (fun d =>
            { d with
                state := .EXPIRED
                state_version := row'.state_version })) :
    s'.InStep ↔ s.TickedInStep now := by
  have hTicked :
      s.TickedInStep now ↔
        (s.inMemoryState.isSome →
          now ≤ row.highest_observed_time ∨
            row.graceOver now = true) := by
    simp [Authority.TickedInStep, hRow]
  rw [hTicked]
  cases hMemory : s.inMemoryState with
  | none =>
      have hNone : s'.inMemoryState = none := by
        cases hGrace : row.graceOver now with
        | false => rw [(hKept hGrace).1, hMemory]
        | true => rw [hOver hGrace, hMemory]; rfl
      simp [inStep_of_uninitialized hNone]
  | some d =>
      have hVersion := hStep d row hMemory hRow
      cases hGrace : row.graceOver now with
      | false =>
          rcases hKept hGrace with ⟨hSame, hCommitted⟩
          simp only [Authority.InStep, hSame, hMemory,
            hStored, Option.some.injEq, Option.isSome_some,
            Bool.false_eq_true, or_false, true_implies,
            ← hCommitted]
          constructor
          · intro hAll
            rw [← hAll d row' rfl rfl, hVersion]
          · rintro hEq _ _ rfl rfl
            rw [hEq, hVersion]
      | true =>
          have hExpired := hOver hGrace
          rw [hMemory, Option.map_some] at hExpired
          have hAfter : s'.InStep := by
            intro d' other hMemory' hRow'
            rw [hExpired] at hMemory'
            rw [hStored] at hRow'
            cases hMemory'
            cases hRow'
            rfl
          simp [hAfter]

/- A reconciliation leaves every version behind. -/
theorem reconciled_inStep_iff
    {s' : Authority}
    {row' : SecurityStateRow}
    {answer : ReconcileAnswer}
    (hStep : s.InStep)
    (hRow : s.row = some row)
    (hDone : Reconciled s row answer s' row')
    (hLater : row.state_version < row'.state_version) :
    s'.InStep ↔ s.inMemoryState = none := by
  have hApplied :
      ∀ d : StateData,
        (answer.applyTo d).state_version =
          d.state_version := by
    intro d
    unfold ReconcileAnswer.applyTo
    split <;> rfl
  constructor
  · intro hAfter
    cases hMemory : s.inMemoryState with
    | none => rfl
    | some d =>
        have hMemory' := hDone.memory
        rw [hMemory, Option.map_some] at hMemory'
        have hEq := hAfter _ row' hMemory' hDone.stored
        have hBefore := hStep d row hMemory hRow
        rw [hApplied, hBefore] at hEq
        omega
  · intro hMemory
    apply inStep_of_uninitialized
    rw [hDone.memory, hMemory]
    rfl

/- Exactly these operations keep the versions equal. -/
theorem step_inStep_iff
    (h : s.WellFormed)
    (hStep : s.InStep)
    (op : SecurityOp) :
    (s.step op).InStep ↔ s.KeepsStep op := by
  have hEffect := step_effect h op
  generalize s.step op = s' at hEffect
  cases hEffect with
  | restart hBooted =>
      simp only [hBooted.rests.inStep_iff, hBooted.version,
        true_iff]
      exact keepsStep_of_no_payload rfl rfl
  | session hPayload hStarts hRests hCall =>
      rw [hRests.inStep_iff, keepsStep_of_payload hPayload,
        hCall.version_iff (hStarts.version hStep),
        hStarts.revokesInStep_iff]
  | forbidden hPayload =>
      simp only [hStep, true_iff]
      exact keepsStep_of_no_payload hPayload rfl
  | uninitialized flag hNeeds hMemory =>
      have hAfter : (s.setRevoked flag).InStep :=
        inStep_of_uninitialized hMemory
      simp only [hAfter, true_iff]
      cases op with
      | revokeLicense =>
          intro hSome
          rw [hMemory] at hSome
          cases hSome
      | logout => exact keepsStep_of_no_payload rfl rfl
      | enterOfflineGrace lease =>
          exact keepsStep_of_no_payload rfl rfl
      | transitionToDegraded reason =>
          exact keepsStep_of_no_payload rfl rfl
      | _ => cases hNeeds
  | logout _ hRests hVersion _ _ _ =>
      simp only [hRests.inStep_iff, hVersion, true_iff]
      exact keepsStep_of_no_payload rfl rfl
  | unauthenticated hStarts hRests _ _ hVersion =>
      simp only [hRests.inStep_iff,
        hVersion (hStarts.version hStep), true_iff]
      exact keepsStep_of_no_payload rfl rfl
  | degraded hDegrades hRests hRests' hDescends _ =>
      have hVersion := hRests.inStep_iff.mp hStep
      simp only [hRests'.inStep_iff,
        hDescends.version hVersion, true_iff]
      cases op with
      | enterOfflineGrace lease =>
          exact keepsStep_of_no_payload rfl rfl
      | transitionToDegraded reason =>
          exact keepsStep_of_no_payload rfl rfl
      | _ => cases hDegrades
  | revoked hRests hRests' _ _ _ hVersion =>
      rw [hRests'.inStep_iff,
        hVersion (hRests.inStep_iff.mp hStep)]
      simp [Authority.KeepsStep, Authority.RevokedInStep,
        hRests.memory, hRests.row]
  | missed hNone =>
      simp only [hStep, true_iff]
      rename_i clock
      cases clock with
      | none => exact keepsStep_of_no_payload rfl rfl
      | some now =>
          intro hSome row hRow
          simp [hRow] at hNone
  | rolledBack hRow hNow =>
      have hAfter : (s.setRevoked true).InStep := hStep
      simp only [hAfter, true_iff]
      intro hSome other hOther
      cases hRow.symm.trans hOther
      exact Or.inl (Nat.le_of_lt hNow)
  | ticked hRow hNow hStored _ hKept hOver =>
      exact ticked_inStep_iff hStep hRow hStored
        (fun hGrace => ⟨(hKept hGrace).1,
          (hKept hGrace).2.2.2.2.2⟩)
        (fun hGrace => (hOver hGrace).1)
  | unreconciled hRefused =>
      simp only [hStep, true_iff]
      exact fun _ => hRefused
  | reconciled hRow hAllowed _ hDone hLater =>
      rw [reconciled_inStep_iff hStep hRow hDone hLater]
      cases hMemory : s.inMemoryState with
      | none => simp [Authority.KeepsStep, hMemory]
      | some d =>
          simp [Authority.KeepsStep, hMemory, hRow, hAllowed]

end Steps

------------------------------------------------------------
-- Runs
------------------------------------------------------------

/-
  The engine accepts an event: it commits a transition of
  the table whose guard holds. Only the invariants of the
  next state may still throw.
-/
def Authority.Accepts
    (s : Authority)
    (d : StateData)
    (event : TransitionEvent)
    (payload : TransitionPayload) : Prop :=
  ∀ st, nextState d.state event payload.facts = some st →
    ((dispatch event payload).exec s).1 =
      match assertStateMachineInvariants
          (d.moved st payload) with
      | some message => .rejected message
      | none => .resolved true

/- Equal versions accept every event of the table. -/
theorem accepts_of_inStep
    {s : Authority}
    {d : StateData}
    (h : s.WellFormed)
    (hStep : s.InStep)
    (hMemory : s.inMemoryState = some d)
    (event : TransitionEvent)
    (payload : TransitionPayload) :
    s.Accepts d event payload := by
  rcases h.rests hMemory with ⟨row, hRests⟩
  have hVersion := hRests.inStep_iff.mp hStep
  intro st hNext
  cases hAssert : assertStateMachineInvariants
      (d.moved st payload) with
  | none =>
      rw [dispatch_accepted hRests.idle hRests.memory
        hRests.row hVersion hNext hAssert]
  | some message =>
      rw [dispatch_violation hRests.idle hRests.memory
        hRests.row hVersion hNext hAssert]

/- Versions that differ refuse every event. -/
theorem refuses_of_not_inStep
    {s : Authority}
    (h : s.WellFormed)
    (hStep : ¬s.InStep)
    (event : TransitionEvent)
    (payload : TransitionPayload) :
    (dispatch event payload).exec s =
      (.resolved false, s) := by
  cases hMemory : s.inMemoryState with
  | none => exact absurd (inStep_of_uninitialized hMemory) hStep
  | some d =>
      rcases h.rests hMemory with ⟨row, hRests⟩
      rw [hRests.inStep_iff] at hStep
      exact dispatch_conflict hRests.idle hRests.memory
        hRests.row hStep

/-
  The versions are equal in every state of a run exactly
  when every operation of it keeps them so, and a state with
  equal versions accepts every event of the table, where
  one with different versions refuses all.
-/
theorem inStep_throughout_iff
    (production : Bool)
    (wallClock : Nat → Nat)
    (ops : List SecurityOp) :
    (Throughout Authority.step Authority.InStep
        (Authority.fresh production wallClock) ops ↔
      Along Authority.step Authority.KeepsStep
        (Authority.fresh production wallClock) ops) ∧
    (∀ s event payload,
      s = run Authority.step
        (Authority.fresh production wallClock) ops →
      (s.InStep → ∀ d, s.inMemoryState = some d →
        s.Accepts d event payload) ∧
      (¬s.InStep → (dispatch event payload).exec s =
        (.resolved false, s))) := by
  have hWellFormed :=
    run_wellFormed production wallClock ops
  constructor
  · exact throughout_iff_along_of_invariant
      (fun _ op hs => step_wellFormed op hs)
      (fun _ op hs hStep => step_inStep_iff hs hStep op)
      ops (Authority.fresh_wellFormed production wallClock)
      (inStep_of_uninitialized rfl)
  · rintro s event payload rfl
    exact ⟨fun hStep d hMemory =>
      accepts_of_inStep hWellFormed hStep hMemory event
        payload, fun hStep =>
      refuses_of_not_inStep hWellFormed hStep event payload⟩

/- One tick of the monitor locks the operator out. -/
theorem tick_locks_out :
    ¬(run Authority.step (Authority.fresh false (fun _ => 1))
      [.restart true,
        .checkTimeBounds (some 2)]).InStep ∧
    ((establishSession plainLogin).exec
      (run Authority.step
        (Authority.fresh false (fun _ => 1))
        [.restart true, .checkTimeBounds (some 2)])).1 =
      .resolved
        { status := .DENIED
          message :=
            some "Login intent rejected by state machine" } := by
  constructor
  · intro hStep
    have hEq := hStep _ _ rfl rfl
    revert hEq
    decide
  · decide

end ControlPlane
