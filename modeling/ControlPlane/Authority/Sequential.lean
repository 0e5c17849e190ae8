import ControlPlane.Authority.Facade

/-
  Operations that run one after another.

  With both locks free a commit at the version of the row
  succeeds, and a dispatch does what the table says when the
  version in memory is the one of the row. One result for
  each flow says where it ends, so that later proofs do not
  unfold it.

  Main declarations:
    * `Authority.Idle` and `Authority.Grounded`
    * `Authority.committed` and `exec_commit`
    * `Authority.advanced` and `dispatch_accepted`
    * `dispatch_uninitialized`
-/

------------------------------------------------------------
-- Commits
------------------------------------------------------------

namespace ControlPlane

namespace Authority

/- No transition and no reconciliation is in flight. -/
def Idle
    (s : Authority) : Prop :=
  s.stateMachineMutex = Mutex.free ∧
    s.reconcileMutex = Mutex.free

/- What is in memory was projected from a row. -/
def Grounded
    (s : Authority) : Prop :=
  s.inMemoryState.isSome → s.row.isSome

/- The time that a commit writes. -/
def observedBy
    (next : NextStateData)
    (s : Authority) : Nat :=
  match next.highest_observed_time with
  | some (t + 1) => t + 1
  | _ => s.now

/- The clock is read where the commit carries no time. -/
def clockedFor
    (next : NextStateData)
    (s : Authority) : Authority :=
  { s with
      readings :=
        match next.highest_observed_time with
        | some (_ + 1) => s.readings
        | _ => s.readings + 1 }

/- A commit that succeeds. -/
def committed
    (version : Nat)
    (next : NextStateData)
    (s : Authority) : Authority :=
  { s.clockedFor next with
      row :=
        some (next.toRow (version + 1) (s.observedBy next)) }

variable
  (version : Nat)
  (next : NextStateData)
  (s : Authority)

@[simp] theorem committed_inMemoryState :
    (s.committed version next).inMemoryState =
      s.inMemoryState := rfl

@[simp] theorem committed_idle :
    (s.committed version next).Idle ↔ s.Idle := Iff.rfl

end Authority

theorem exec_highestTimeOf
    (next : NextStateData)
    (s : Authority) :
    (highestTimeOf next).exec s =
      (.resolved (s.observedBy next), s.clockedFor next) := by
  rcases next with ⟨_, _, _, _, _, time⟩
  cases time with
  | none => rfl
  | some t =>
      cases t with
      | zero => rfl
      | succ t => rfl

/- The two statements of a commit. -/
theorem exec_commit_eq
    (version : Nat)
    (next : NextStateData)
    (s : Authority) :
    (commitTransitionWithOCC version next).exec s =
      if s.atVersion version then
        (.resolved true, s.committed version next)
      else if version = 0 ∧ s.row.isNone then
        (.resolved true, s.committed version next)
      else (.resolved false, s.clockedFor next) := by
  have hFound :
      (s.clockedFor next).atVersion version =
        s.atVersion version := rfl
  have hRow : (s.clockedFor next).row = s.row := rfl
  have hUpdate :
      ∀ row, (s.clockedFor next).updateRow version row =
        if s.atVersion version then
          { s.clockedFor next with row := some row }
        else s.clockedFor next := fun _ => rfl
  have hInsert :
      ∀ row, (s.clockedFor next).insertRow row =
        if s.row.isNone then
          { s.clockedFor next with row := some row }
        else s.clockedFor next := fun _ => rfl
  simp only [commitTransitionWithOCC, Flow.exec_bind,
    exec_highestTimeOf, Flow.exec_request, hFound, hUpdate]
  cases hVersion : s.atVersion version with
  | true => simp [Authority.committed]
  | false =>
      by_cases hZero : version = 0
      · cases hNone : s.row.isNone with
        | true =>
            simp [hZero, hInsert, hRow, hNone,
              Authority.committed]
        | false => simp [hZero, hInsert, hRow, hNone]
      · simp [hZero]

/- A commit at the version of the row succeeds. -/
theorem exec_commit
    {version : Nat}
    {next : NextStateData}
    {s : Authority}
    (hVersion : s.atVersion version = true) :
    (commitTransitionWithOCC version next).exec s =
      (.resolved true, s.committed version next) := by
  rw [exec_commit_eq, if_pos hVersion]

theorem atVersion_of_row
    {s : Authority}
    {row : SecurityStateRow}
    (hRow : s.row = some row) :
    s.atVersion row.state_version = true := by
  simp [Authority.atVersion, hRow]

/- The first commit inserts the row. -/
theorem exec_commit_first
    {next : NextStateData}
    {s : Authority}
    (hRow : s.row = none) :
    (commitTransitionWithOCC 0 next).exec s =
      (.resolved true, s.committed 0 next) := by
  simp [exec_commit_eq, hRow]

@[simp] theorem exec_getSecurityStateRow
    (s : Authority) :
    getSecurityStateRow.exec s = (.resolved s.row, s) := rfl

@[simp] theorem exec_writeEvent
    (s : Authority) :
    writeEvent.exec s = (.resolved (), s) := rfl

@[simp] theorem exec_setRevokedSync
    (flag : Bool)
    (s : Authority) :
    (setRevokedSync flag).exec s =
      (.resolved (), s.setRevoked flag) := rfl

------------------------------------------------------------
-- Small Writes
------------------------------------------------------------

namespace Authority

variable
  (flag : Bool)
  (f : StateData → StateData)
  (d : StateData)
  (s : Authority)

@[simp] theorem setRevoked_inMemoryState :
    (s.setRevoked flag).inMemoryState =
      s.inMemoryState := rfl

@[simp] theorem setRevoked_idle :
    (s.setRevoked flag).Idle ↔ s.Idle := Iff.rfl

@[simp] theorem assign_inMemoryState :
    (s.assign f).inMemoryState =
      s.inMemoryState.map f := rfl

@[simp] theorem assign_idle :
    (s.assign f).Idle ↔ s.Idle := Iff.rfl

@[simp] theorem install_idle :
    (s.install d).Idle ↔ s.Idle := Iff.rfl

end Authority

------------------------------------------------------------
-- Dispatch
------------------------------------------------------------

/- The state object after a transition. -/
def StateData.moved
    (d : StateData)
    (st : SecurityState)
    (payload : TransitionPayload) : StateData :=
  { d.advance st payload with
      state_version := d.state_version + 1 }

/- A transition that was accepted. -/
def Authority.advanced
    (d : StateData)
    (st : SecurityState)
    (payload : TransitionPayload)
    (s : Authority) : Authority :=
  ((s.committed d.state_version
    (d.advance st payload).toNext).setRevoked
      (!nonRevoked st)).install (d.moved st payload)

section Dispatch

variable
  {s : Authority}
  {d : StateData}
  {row : SecurityStateRow}
  {event : TransitionEvent}
  {payload : TransitionPayload}

theorem deref_current
    (hMemory : s.inMemoryState = some d) :
    s.deref s.superseded.length = some d := by
  simp [Authority.deref, hMemory]

/- A transition runs while it holds the mutex. -/
theorem exec_executeTransition
    (hIdle : s.Idle)
    (ref : Nat) :
    (executeTransition ref event payload).exec s =
      ((transitionBody ref event payload).ensuring
        (Authority.withStateMachineMutex Mutex.release)).exec
          (s.withStateMachineMutex Mutex.enter) := by
  have hEnter :
      (Mutex.acquire Authority.stateMachineMutex
        Authority.withStateMachineMutex).exec s =
        (.resolved (),
          s.withStateMachineMutex Mutex.enter) := by
    simp [Mutex.acquire, Flow.exec_bind, hIdle.1, Mutex.free]
  rw [executeTransition, Flow.exec_bind, hEnter]

/- A transition that passed its guard, on the row it read. -/
theorem exec_commitNext
    (st : SecurityState)
    (hVersion : s.atVersion d.state_version = true) :
    (commitNext d (d.advance st payload)).exec s =
      match assertStateMachineInvariants
          (d.moved st payload) with
      | some message =>
          (.rejected message,
            s.committed d.state_version
              (d.advance st payload).toNext)
      | none =>
          (.resolved (.success (d.moved st payload)),
            (s.committed d.state_version
              (d.advance st payload).toNext).setRevoked
                (!nonRevoked st)) := by
  have hNext :
      { d.advance st payload with
          state_version := d.state_version + 1 } =
        d.moved st payload := rfl
  have hState : (d.advance st payload).state = st := rfl
  simp only [commitNext, Flow.exec_bind,
    exec_commit hVersion, hNext]
  cases hAssert : assertStateMachineInvariants
      (d.moved st payload) with
  | none => simp [Flow.exec_bind, hState]
  | some message => simp [Flow.exec_bind]

/- Taking and releasing a free mutex changes nothing. -/
theorem release_enter
    (hIdle : s.Idle) :
    (s.withStateMachineMutex Mutex.enter).withStateMachineMutex
      Mutex.release = s := by
  have hRelease :
      Mutex.release (Mutex.enter s.stateMachineMutex) =
        s.stateMachineMutex := by
    rw [hIdle.1]
    rfl
  simp only [Authority.withStateMachineMutex, hRelease]

/- What a transition does to the state in memory. -/
theorem exec_dispatch
    (hIdle : s.Idle)
    (hMemory : s.inMemoryState = some d)
    (hRow : s.row = some row) :
    (dispatch event payload).exec s =
      if d.state_version ≠ row.state_version then
        (.resolved false, s)
      else
        match nextState d.state event payload.facts with
        | none => (.resolved false, s)
        | some st =>
            match assertStateMachineInvariants
                (d.moved st payload) with
            | some message =>
                (.rejected message,
                  s.committed d.state_version
                    (d.advance st payload).toNext)
            | none =>
                (.resolved true, s.advanced d st payload) := by
  have hRef : s.currentRef = some s.superseded.length := by
    simp [Authority.currentRef, hMemory]
  have hDeref :
      (s.withStateMachineMutex Mutex.enter).deref
        s.superseded.length = some d := deref_current hMemory
  have hRowTaken :
      (s.withStateMachineMutex Mutex.enter).row =
        some row := hRow
  have hReleased := release_enter hIdle
  have hCommitted :
      ∀ version next,
        Authority.withStateMachineMutex Mutex.release
          (Authority.committed version next
            (s.withStateMachineMutex Mutex.enter)) =
          s.committed version next := by
    intro version next
    change Authority.committed version next
      (Authority.withStateMachineMutex Mutex.release
        (s.withStateMachineMutex Mutex.enter)) = _
    rw [hReleased]
  have hRevoked :
      ∀ version next flag,
        Authority.withStateMachineMutex Mutex.release
          ((Authority.committed version next
            (s.withStateMachineMutex
              Mutex.enter)).setRevoked flag) =
          (s.committed version next).setRevoked flag := by
    intro version next flag
    change Authority.setRevoked flag
      (Authority.withStateMachineMutex Mutex.release
        (Authority.committed version next
          (s.withStateMachineMutex Mutex.enter))) = _
    rw [hCommitted]
  simp only [dispatch, Flow.exec_bind, Flow.exec_read, hRef,
    exec_executeTransition hIdle, Flow.exec_ensuring,
    transitionBody, exec_getSecurityStateRow, hRowTaken,
    hDeref]
  by_cases hVersion : d.state_version = row.state_version
  · have hFound :
        (s.withStateMachineMutex Mutex.enter).atVersion
          d.state_version = true := by
      rw [hVersion]
      exact atVersion_of_row hRowTaken
    have hSame :
        ¬d.state_version ≠ row.state_version :=
      fun hNe => hNe hVersion
    rw [if_neg hSame, if_neg hSame, nextState]
    cases hTransition : getTransition d.state event with
    | none => simp [Flow.exec_bind, hReleased]
    | some transitionDef =>
        cases hGuard : transitionDef.guard payload.facts with
        | false => simp [hGuard, Flow.exec_bind, hReleased]
        | true =>
            simp only [hGuard, Bool.not_true,
              Bool.false_eq_true, if_false, if_true,
              exec_commitNext _ hFound]
            cases hAssert : assertStateMachineInvariants
                (d.moved transitionDef.nextState payload) with
            | none =>
                simp [hRevoked, Flow.exec_bind,
                  Authority.advanced]
            | some message => simp [hCommitted]
  · simp [hVersion, hReleased]

/- A version that is not the one of the row is refused. -/
theorem dispatch_conflict
    (hIdle : s.Idle)
    (hMemory : s.inMemoryState = some d)
    (hRow : s.row = some row)
    (hVersion : d.state_version ≠ row.state_version) :
    (dispatch event payload).exec s =
      (.resolved false, s) := by
  rw [exec_dispatch hIdle hMemory hRow, if_pos hVersion]

/- So is an event without a transition. -/
theorem dispatch_refused
    (hIdle : s.Idle)
    (hMemory : s.inMemoryState = some d)
    (hRow : s.row = some row)
    (hNext : nextState d.state event payload.facts = none) :
    (dispatch event payload).exec s =
      (.resolved false, s) := by
  rw [exec_dispatch hIdle hMemory hRow, hNext]
  split <;> rfl

theorem dispatch_accepted
    {st : SecurityState}
    (hIdle : s.Idle)
    (hMemory : s.inMemoryState = some d)
    (hRow : s.row = some row)
    (hVersion : d.state_version = row.state_version)
    (hNext : nextState d.state event payload.facts = some st)
    (hAssert :
      assertStateMachineInvariants (d.moved st payload) =
        none) :
    (dispatch event payload).exec s =
      (.resolved true, s.advanced d st payload) := by
  rw [exec_dispatch hIdle hMemory hRow, hNext,
    if_neg (fun hNe => hNe hVersion)]
  dsimp only
  rw [hAssert]

/- A violated invariant is found after the commit. -/
theorem dispatch_violation
    {st : SecurityState}
    {message : String}
    (hIdle : s.Idle)
    (hMemory : s.inMemoryState = some d)
    (hRow : s.row = some row)
    (hVersion : d.state_version = row.state_version)
    (hNext : nextState d.state event payload.facts = some st)
    (hAssert :
      assertStateMachineInvariants (d.moved st payload) =
        some message) :
    (dispatch event payload).exec s =
      (.rejected message,
        s.committed d.state_version
          (d.advance st payload).toNext) := by
  rw [exec_dispatch hIdle hMemory hRow, hNext,
    if_neg (fun hNe => hNe hVersion)]
  dsimp only
  rw [hAssert]

theorem dispatch_uninitialized
    (hMemory : s.inMemoryState = none) :
    (dispatch event payload).exec s =
      (.rejected "DecisionEngine not initialized", s) := by
  simp [dispatch, Flow.exec_bind, Authority.currentRef,
    hMemory]

end Dispatch

namespace Authority

variable
  (d : StateData)
  (st : SecurityState)
  (payload : TransitionPayload)
  (s : Authority)

@[simp] theorem advanced_idle :
    (s.advanced d st payload).Idle ↔ s.Idle := Iff.rfl

/- The row that an accepted transition leaves. -/
def advancedRow : SecurityStateRow :=
  (d.advance st payload).toNext.toRow (d.state_version + 1)
    (s.observedBy (d.advance st payload).toNext)

@[simp] theorem advancedRow_state_version :
    (s.advancedRow d st payload).state_version =
      d.state_version + 1 := rfl

end Authority

namespace StateData

variable
  (d : StateData)
  (st : SecurityState)
  (payload : TransitionPayload)

@[simp] theorem moved_state :
    (d.moved st payload).state = st := rfl

@[simp] theorem moved_state_version :
    (d.moved st payload).state_version =
      d.state_version + 1 := rfl

end StateData

/- Most states carry no invariant of their own. -/
theorem assert_eq_none
    {d : StateData}
    (hOperational : d.state ≠ .OPERATIONAL)
    (hCompromised : d.state ≠ .COMPROMISED)
    (hRevoked : d.state ≠ .REVOKED) :
    assertStateMachineInvariants d = none := by
  unfold assertStateMachineInvariants
  split
  · contradiction
  · contradiction
  · contradiction
  · rfl

/- An operational state must be authorized. -/
theorem assert_operational
    {d : StateData}
    (hState : d.state = .OPERATIONAL)
    (hAuthorized : authorizedBy d.authorization d.session) :
    assertStateMachineInvariants d = none := by
  rcases hAuthorized with
    ⟨⟨a, hAuthorization, hValid⟩, x, hSession, hStatus⟩
  simp only [assertStateMachineInvariants, hState,
    hAuthorization, hSession, hValid]
  rcases hStatus with hStatus | hStatus <;> simp [hStatus]

end ControlPlane
