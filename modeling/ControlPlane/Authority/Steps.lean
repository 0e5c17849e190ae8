import ControlPlane.Authority.Operations

/-
  What one operation of a run can do.

  The effects of the operations are the constructors of one
  relation, so that an invariant of runs is proved by cases
  on it.

  Main declarations:
    * `Authority.WellFormed`
    * `StepEffect` and `step_effect`
    * `step_wellFormed` and `run_wellFormed`
-/

------------------------------------------------------------
-- One Step
------------------------------------------------------------

namespace ControlPlane

/- What holds between any two operations. -/
structure Authority.WellFormed
    (s : Authority) : Prop where
  idle : s.Idle
  grounded : s.Grounded

theorem Authority.Rests.wellFormed
    {s : Authority}
    {d : StateData}
    {row : SecurityStateRow}
    (h : s.Rests d row) :
    s.WellFormed :=
  ⟨h.idle, fun _ => by simp [h.row]⟩

theorem Authority.WellFormed.rests
    {s : Authority}
    {d : StateData}
    (h : s.WellFormed)
    (hMemory : s.inMemoryState = some d) :
    ∃ row, s.Rests d row := by
  have hSome : s.row.isSome = true :=
    h.grounded (by simp [hMemory])
  rcases Option.isSome_iff_exists.mp hSome with ⟨row, hRow⟩
  exact ⟨row, h.idle, hMemory, hRow⟩

theorem Authority.fresh_wellFormed
    (production : Bool)
    (wallClock : Nat → Nat) :
    (Authority.fresh production wallClock).WellFormed :=
  ⟨⟨rfl, rfl⟩, by simp [Authority.Grounded, Authority.fresh]⟩

/- The payload that an operation establishes a session on. -/
def SecurityOp.payload
    (s : Authority) : SecurityOp → Option AuthPayload
| .establishSession payload => some payload
| .authenticate credentials =>
    if credentials.sessionId.isSome then some credentials
    else if s.production then none
    else some localPayload
| _ => none

/- Operations that do nothing without a state in memory. -/
def SecurityOp.needsEngine : SecurityOp → Bool
| .logout | .enterOfflineGrace _ | .transitionToDegraded _
| .revokeLicense => true
| _ => false

/- Operations that only degrade. -/
def SecurityOp.degrades : SecurityOp → Bool
| .enterOfflineGrace _ | .transitionToDegraded _ => true
| _ => false

/- What one operation can do. -/
inductive StepEffect
    (s : Authority) : SecurityOp → Authority → Prop where
| restart
    {machineValid : Bool}
    {s' : Authority}
    {d : StateData}
    {row : SecurityStateRow}
    (hBooted : Booted (s.reboot machineValid) s' d row) :
    StepEffect s (.restart machineValid) s'
| session
    {op : SecurityOp}
    {payload : AuthPayload}
    {s₁ s' : Authority}
    {d d' : StateData}
    {row row' : SecurityStateRow}
    (hPayload : op.payload s = some payload)
    (hStarts : Starts s s₁ d row)
    (hRests : s'.Rests d' row')
    (hEffect : SessionEffect payload s₁ d row s' d' row') :
    StepEffect s op s'
| forbidden
    {credentials : AuthPayload}
    (hPayload :
      (SecurityOp.authenticate credentials).payload s =
        none) :
    StepEffect s (.authenticate credentials) s
| uninitialized
    {op : SecurityOp}
    (flag : Bool)
    (hNeeds : op.needsEngine = true)
    (hMemory : s.inMemoryState = none) :
    StepEffect s op (s.setRevoked flag)
| logout
    {s' : Authority}
    {d d' : StateData}
    {row row' : SecurityStateRow}
    (h : s.Rests d row)
    (hRests : s'.Rests d' row')
    (hVersion : d'.state_version = row'.state_version)
    (hStored : row'.state = .known .LOGGED_OUT)
    (hAuthorization : d'.authorization = none)
    (hState :
      d'.state = .OPERATIONAL ↔
        d.state = .OPERATIONAL ∧
          d.state_version ≠ row.state_version) :
    StepEffect s .logout s'
| unauthenticated
    {s₁ s' : Authority}
    {d d' : StateData}
    {row row' : SecurityStateRow}
    (hStarts : Starts s s₁ d row)
    (hRests : s'.Rests d' row')
    (hSame :
      unauthenticable d.state = false →
        s' = s₁ ∧ d' = d ∧ row' = row)
    (hMoved :
      unauthenticable d.state = true →
        d'.state = .UNAUTHENTICATED ∧
        (row' = row ∨
          row'.state = .known .UNAUTHENTICATED))
    (hVersion :
      d.state_version = row.state_version →
        d'.state_version = row'.state_version) :
    StepEffect s .transitionToUnauthenticated s'
| degraded
    {op : SecurityOp}
    {s' : Authority}
    {d d' : StateData}
    {row row' : SecurityStateRow}
    (hDegrades : op.degrades = true)
    (h : s.Rests d row)
    (hRests : s'.Rests d' row')
    (hDescends : Descends d row d' row')
    (hFlag :
      d.state = .REVOKED →
        s'.revoked = s.revoked ∨ s'.revoked = true) :
    StepEffect s op s'
| revoked
    {s' : Authority}
    {d d' : StateData}
    {row row' : SecurityStateRow}
    (h : s.Rests d row)
    (hRests : s'.Rests d' row')
    (hState : d'.state = .REVOKED)
    (hStored : row'.state = .known .REVOKED)
    (hFlag : s'.revoked = true)
    (hVersion :
      d.state_version = row.state_version →
        (d'.state_version = row'.state_version ↔
          RevokesInStep d row)) :
    StepEffect s .revokeLicense s'
| missed
    {clock : Option Nat}
    (hNone : s.row = none ∨ clock = none) :
    StepEffect s (.checkTimeBounds clock) s
| rolledBack
    {now : Nat}
    {row : SecurityStateRow}
    (hRow : s.row = some row)
    (hNow : now < row.highest_observed_time) :
    StepEffect s (.checkTimeBounds (some now))
      (s.setRevoked true)
| ticked
    {now : Nat}
    {s' : Authority}
    {row row' : SecurityStateRow}
    (hRow : s.row = some row)
    (hNow : row.highest_observed_time ≤ now)
    (hStored : s'.row = some row')
    (hIdle : s'.Idle)
    (hKept :
      row.graceOver now = false →
        s'.inMemoryState = s.inMemoryState ∧
        s'.revoked = s.revoked ∧
        row'.state = row.state ∧
        row'.session = row.session ∧
        row'.authorization = row.authorization ∧
        (row'.state_version = row.state_version ↔
          now ≤ row.highest_observed_time))
    (hOver :
      row.graceOver now = true →
        s'.inMemoryState =
          s.inMemoryState.map (fun d =>
            { d with
                state := .EXPIRED
                state_version := row'.state_version }) ∧
        s'.revoked = true ∧
        row'.state = .known .EXPIRED) :
    StepEffect s (.checkTimeBounds (some now)) s'
| unreconciled
    {answer : ReconcileAnswer}
    (hRefused :
      ∀ row, s.row = some row →
        reconcileRefused row.state = true) :
    StepEffect s (.triggerReconciliation answer) s
| reconciled
    {answer : ReconcileAnswer}
    {s' : Authority}
    {row row' : SecurityStateRow}
    (hRow : s.row = some row)
    (hAllowed : reconcileRefused row.state = false)
    (hIdle : s'.Idle)
    (hDone : Reconciled s row answer s' row')
    (hLater : row.state_version < row'.state_version) :
    StepEffect s (.triggerReconciliation answer) s'

/- A call that resolves ends where its flow does. -/
theorem exec_discard
    {α : Type}
    {t : Flow Authority α}
    {a : α}
    {s s' : Authority}
    (hExec : t.exec s = (.resolved a, s')) :
    ((do let _ ← t; pure ()) : Flow Authority Unit).exec s =
      (.resolved (), s') :=
  Flow.exec_bind_of hExec _

section Steps

variable {s : Authority}

theorem step_eq_of_exec
    (op : SecurityOp)
    {outcome : Outcome Unit}
    {s' : Authority}
    (hExec : op.flow.exec s = (outcome, s')) :
    s.step op = s' := by
  rw [Authority.step, hExec]

/- A session call, under the payload it is made with. -/
theorem step_establish
    (h : s.WellFormed)
    {op : SecurityOp}
    (payload : AuthPayload)
    (hPayload : op.payload s = some payload)
    (hFlow :
      op.flow.exec s =
        ((do
          let _ ← establishSession payload
          pure ()) : Flow Authority Unit).exec s) :
    StepEffect s op (s.step op) := by
  rcases establishSession_spec h.idle h.grounded payload with
    ⟨s₁, d, row, answer, s', d', row', hStarts, hExec,
      hRests, hEffect⟩
  have hStep : s.step op = s' :=
    step_eq_of_exec op (hFlow.trans (exec_discard hExec))
  rw [hStep]
  exact .session hPayload hStarts hRests hEffect

theorem step_authenticate
    (h : s.WellFormed)
    (credentials : AuthPayload) :
    StepEffect s (.authenticate credentials)
      (s.step (.authenticate credentials)) := by
  by_cases hPresent : credentials.sessionId.isSome = true
  · apply step_establish h credentials
    · simp [SecurityOp.payload, hPresent]
    · simp only [SecurityOp.flow, authenticate, hPresent,
        if_true]
  · cases hProduction : s.production with
    | true =>
        have hStep :
            s.step (.authenticate credentials) = s := by
          rw [Authority.step, SecurityOp.flow, authenticate,
            if_neg hPresent, Flow.exec_bind,
            Flow.exec_bind_of (Flow.exec_read _ _),
            hProduction]
          rfl
        rw [hStep]
        apply StepEffect.forbidden
        simp [SecurityOp.payload, hPresent, hProduction]
    | false =>
        apply step_establish h localPayload
        · simp [SecurityOp.payload, hPresent, hProduction]
        · simp only [SecurityOp.flow, authenticate]
          rw [if_neg hPresent, Flow.exec_bind,
            Flow.exec_bind_of (Flow.exec_read _ _),
            hProduction, Flow.exec_bind]
          rfl

theorem step_logout
    (h : s.WellFormed) :
    StepEffect s .logout (s.step .logout) := by
  cases hMemory : s.inMemoryState with
  | none =>
      have hStep : s.step .logout = s.setRevoked s.revoked :=
        step_eq_of_exec .logout
          (exec_logout_uninitialized hMemory)
      rw [hStep]
      exact .uninitialized s.revoked rfl hMemory
  | some d =>
      rcases h.rests hMemory with ⟨row, hRests⟩
      rcases logout_spec hRests with
        ⟨s', d', row', hExec, hRests', hVersion,
          -, hAuthorization, hStored, hState⟩
      rw [step_eq_of_exec .logout hExec]
      exact .logout hRests hRests' hVersion hStored
        hAuthorization hState

theorem step_degraded
    (h : s.WellFormed)
    {op : SecurityOp}
    (hDegrades : op.degrades = true) :
    StepEffect s op (s.step op) := by
  cases hMemory : s.inMemoryState with
  | none =>
      cases op with
      | enterOfflineGrace lease =>
          have hStep :
              s.step (.enterOfflineGrace lease) =
                s.setRevoked s.revoked :=
            step_eq_of_exec (.enterOfflineGrace lease)
              (exec_discard
                (exec_enterOfflineGrace_uninitialized hMemory
                  lease))
          rw [hStep]
          exact .uninitialized _ rfl hMemory
      | transitionToDegraded reason =>
          rcases
              transitionToDegraded_uninitialized hMemory reason with
            ⟨flag, hExec⟩
          rw [step_eq_of_exec (.transitionToDegraded reason)
            (exec_discard hExec)]
          exact .uninitialized flag rfl hMemory
      | _ => cases hDegrades
  | some d =>
      rcases h.rests hMemory with ⟨row, hRests⟩
      cases op with
      | enterOfflineGrace lease =>
          rcases enterOfflineGrace_spec hRests lease with
            ⟨a, s', d', row', hExec, hRests', hDescends,
              hSame⟩
          rw [step_eq_of_exec (.enterOfflineGrace lease)
            (exec_discard hExec)]
          exact .degraded rfl hRests hRests' hDescends
            (fun hEq => Or.inl (by rw [hSame hEq]))
      | transitionToDegraded reason =>
          rcases transitionToDegraded_spec hRests reason with
            ⟨a, s', d', row', hExec, hRests', hDescends,
              hFlag⟩
          rw [step_eq_of_exec (.transitionToDegraded reason)
            (exec_discard hExec)]
          exact .degraded rfl hRests hRests' hDescends hFlag
      | _ => cases hDegrades

theorem step_revokeLicense
    (h : s.WellFormed) :
    StepEffect s .revokeLicense (s.step .revokeLicense) := by
  cases hMemory : s.inMemoryState with
  | none =>
      rw [step_eq_of_exec .revokeLicense (exec_discard
        (exec_revokeLicense_uninitialized hMemory))]
      exact .uninitialized true rfl hMemory
  | some d =>
      rcases h.rests hMemory with ⟨row, hRests⟩
      rcases revokeLicense_spec hRests with
        ⟨s', d', row', hExec, hRests', hState, hStored,
          hFlag, hVersion⟩
      rw [step_eq_of_exec .revokeLicense
        (exec_discard hExec)]
      exact .revoked hRests hRests' hState hStored hFlag
        hVersion

theorem step_checkTimeBounds
    (h : s.WellFormed)
    (clock : Option Nat) :
    StepEffect s (.checkTimeBounds clock)
      (s.step (.checkTimeBounds clock)) := by
  cases hRow : s.row with
  | none =>
      have hStep : s.step (.checkTimeBounds clock) = s :=
        checkTimeBounds_idle (Or.inl hRow)
      rw [hStep]
      exact .missed (Or.inl hRow)
  | some row =>
      cases clock with
      | none =>
          have hStep : s.step (.checkTimeBounds none) = s :=
            checkTimeBounds_idle (Or.inr rfl)
          rw [hStep]
          exact .missed (Or.inr rfl)
      | some now =>
          by_cases hNow : now < row.highest_observed_time
          · rw [step_eq_of_exec (.checkTimeBounds (some now))
              (exec_checkTimeBounds_rollback hRow hNow)]
            exact .rolledBack hRow hNow
          · have hLater : row.highest_observed_time ≤ now := by
              omega
            rcases checkTimeBounds_spec hRow hLater with
              ⟨s', row', hExec, hStored, hIdle, hKept,
                hOver⟩
            rw [step_eq_of_exec (.checkTimeBounds (some now))
              hExec]
            exact .ticked hRow hLater hStored
              (hIdle.mpr h.idle) hKept hOver

theorem step_triggerReconciliation
    (h : s.WellFormed)
    (answer : ReconcileAnswer) :
    StepEffect s (.triggerReconciliation answer)
      (s.step (.triggerReconciliation answer)) := by
  by_cases hRefused :
      ∀ row, s.row = some row →
        reconcileRefused row.state = true
  · rcases
        triggerReconciliation_refused h.idle hRefused answer with
      ⟨a, hExec⟩
    rw [step_eq_of_exec (.triggerReconciliation answer)
      (exec_discard hExec)]
    exact .unreconciled hRefused
  · rcases by
      cases hRow : s.row with
      | none => exact absurd (by simp [hRow]) hRefused
      | some row => exact ⟨row, rfl⟩ with
      ⟨row, hRow⟩ :
        ∃ row, s.row = some row
    have hAllowed : reconcileRefused row.state = false := by
      simpa [hRow] using hRefused
    rcases
        triggerReconciliation_spec h.idle hRow hAllowed answer with
      ⟨a, s', row', hExec, hDone, hLater⟩
    rw [step_eq_of_exec (.triggerReconciliation answer)
      (exec_discard hExec)]
    exact .reconciled hRow hAllowed
      ⟨hDone.stateMachineMutex.trans h.idle.1,
        hDone.reconcileMutex.trans h.idle.2⟩ hDone hLater

/- Every operation does one of these. -/
theorem step_effect
    (h : s.WellFormed)
    (op : SecurityOp) :
    StepEffect s op (s.step op) := by
  cases op with
  | restart machineValid =>
      rcases initializeFacade_spec
          (s := s.reboot machineValid) ⟨rfl, rfl⟩ with
        ⟨s', d, row, hExec, hBooted⟩
      have hStep : s.step (.restart machineValid) = s' :=
        step_eq_of_exec (.restart machineValid)
          ((Flow.exec_bind_of (Flow.exec_modify _ _) _).trans
            hExec)
      rw [hStep]
      exact .restart hBooted
  | establishSession payload =>
      exact step_establish h _ rfl rfl
  | authenticate credentials =>
      exact step_authenticate h credentials
  | logout => exact step_logout h
  | transitionToUnauthenticated =>
      rcases ensureInitialized_starts h.idle h.grounded with
        ⟨s₁, d, row, hInit, hStarts⟩
      rcases
          transitionToUnauthenticated_spec hStarts.rests with
        ⟨s', d', row', hExec, hRests, hSame, hMoved,
          hVersion⟩
      have hBoth :
          transitionToUnauthenticated.exec s =
            transitionToUnauthenticated.exec s₁ := by
        rw [transitionToUnauthenticated,
          Flow.exec_bind_of hInit,
          Flow.exec_bind_of
            (exec_ensureInitialized hStarts.rests.memory)]
      rw [step_eq_of_exec .transitionToUnauthenticated
        (hBoth.trans hExec)]
      exact .unauthenticated hStarts hRests hSame hMoved
        hVersion
  | enterOfflineGrace lease => exact step_degraded h rfl
  | transitionToDegraded reason => exact step_degraded h rfl
  | revokeLicense => exact step_revokeLicense h
  | checkTimeBounds clock => exact step_checkTimeBounds h clock
  | triggerReconciliation answer =>
      exact step_triggerReconciliation h answer

/- What holds between two operations holds after them. -/
theorem step_wellFormed
    (op : SecurityOp)
    (h : s.WellFormed) :
    (s.step op).WellFormed := by
  have hEffect := step_effect h op
  generalize s.step op = s' at hEffect
  cases hEffect with
  | restart hBooted => exact hBooted.rests.wellFormed
  | session _ _ hRests _ => exact hRests.wellFormed
  | forbidden _ => exact h
  | uninitialized flag _ _ => exact ⟨h.idle, h.grounded⟩
  | logout _ hRests => exact hRests.wellFormed
  | unauthenticated _ hRests => exact hRests.wellFormed
  | degraded _ _ hRests => exact hRests.wellFormed
  | revoked _ hRests => exact hRests.wellFormed
  | missed _ => exact h
  | rolledBack _ _ => exact ⟨h.idle, h.grounded⟩
  | ticked _ _ hStored hIdle =>
      exact ⟨hIdle, fun _ => by simp [hStored]⟩
  | unreconciled _ => exact h
  | reconciled _ _ hIdle hDone =>
      exact ⟨hIdle, fun _ => by simp [hDone.stored]⟩

end Steps

/- Every state of a run is well formed. -/
theorem run_wellFormed
    (production : Bool)
    (wallClock : Nat → Nat)
    (ops : List SecurityOp) :
    (run Authority.step
      (Authority.fresh production wallClock)
      ops).WellFormed :=
  run_keeps (fun _ op h => step_wellFormed op h) ops
    (Authority.fresh_wellFormed production wallClock)

/- A login that brings every capability and no license. -/
def plainLogin : AuthPayload where
  sessionId := some "s"
  capabilities := none
  license := none

end ControlPlane
