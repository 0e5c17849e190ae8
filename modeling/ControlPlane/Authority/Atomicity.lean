import ControlPlane.Authority.Sequential

/-
  Transitions whose storage calls may fail.

  A transition reads the row, commits the next state and
  then writes the audit log, checks the invariants and sets
  the native flag. What fails before the commit leaves row
  and memory as they were. What fails after it leaves the
  next state in the row and the former one in memory.

  Main declarations:
    * `CallOutcomes` and `CallOutcomes.dispatch`
    * `CallOutcomes.answered_dispatch`
    * `Atomic`
    * `CallOutcomes.Commits` and `CallOutcomes.Finishes`
    * `transitions_atomic_iff`
-/

------------------------------------------------------------
-- Calls That May Fail
------------------------------------------------------------

namespace ControlPlane

/- A statement may match no row, as after another writer. -/
inductive StatementOutcome where
| runs
| matchesNothing
| throws (message : String)
deriving DecidableEq, Repr

/-
  How each call of a transition ends, with the message of
  one that throws. The audit log is written after a refusal
  or after the commit.
-/
structure CallOutcomes where
  read : Option String := none
  refusalAudit : Option String := none
  encryption : Option String := none
  update : StatementOutcome := .runs
  insert : StatementOutcome := .runs
  audit : Option String := none
  native : Option String := none
deriving DecidableEq, Repr

/- A call that returns at once, or throws. -/
def throwing :
    Option String → Flow Authority Unit
| none => pure ()
| some message => .fail message

/- A call that is awaited, or throws. -/
def answered
    {α : Type}
    (failure : Option String)
    (t : Flow Authority α) : Flow Authority α :=
  match failure with
  | none => t
  | some message => do
      Flow.turn
      .fail message

/- Whether a statement has changed a row. -/
def statement
    (outcome : StatementOutcome)
    (write : Authority → Authority)
    (changes : Authority → Bool) : Flow Authority Bool :=
  match outcome with
  | .runs => Flow.request write changes
  | .matchesNothing => do
      Flow.turn
      pure false
  | .throws message => do
      Flow.turn
      .fail message

/-
  What the guards of an event say without a payload, `none`
  where they read a field of it.
-/
def TransitionEvent.guardOfNothing :
    TransitionEvent → Option Bool
| .ENTER_OFFLINE_GRACE => some false
| .LOGIN_INTENT | .BACKEND_AUTH_FAILURE
| .AUTHZ_LICENSE_FAILED | .RENEW_BACKEND_UNREACHABLE
| .USER_REINITIATES | .LOGOUT_INTENT => some true
| _ => none

/- The answer of a guard, `none` when it throws. -/
def TransitionDefinition.evaluate
    (transitionDef : TransitionDefinition) :
    Option TransitionPayload → Option Bool
| some payload => some (transitionDef.guard payload.facts)
| none => transitionDef.event.guardOfNothing

namespace CallOutcomes

variable (calls : CallOutcomes)

def commitTransitionWithOCC
    (expectedStateVersion : Nat)
    (next : NextStateData) : Flow Authority Bool := do
  let highestTime ← highestTimeOf next
  let row := next.toRow (expectedStateVersion + 1) highestTime
  throwing calls.encryption
  let changed ←
    statement calls.update
      (Authority.updateRow expectedStateVersion row)
      (Authority.atVersion expectedStateVersion)
  if changed then pure true
  else if expectedStateVersion = 0 then
    statement calls.insert (Authority.insertRow row)
      (fun s => s.row.isNone)
  else pure false

/- What a transition does after its commit. -/
def finish
    (next : StateData) : Flow Authority TransitionResult := do
  answered calls.audit writeEvent
  match assertStateMachineInvariants next with
  | some message => .fail message
  | none => do
      throwing calls.native
      setRevokedSync (!nonRevoked next.state)
      pure (.success next)

/- A transition that passed its guard. -/
def commitNext
    (current next : StateData) :
    Flow Authority TransitionResult := do
  let committed ←
    calls.commitTransitionWithOCC current.state_version
      next.toNext
  if !committed then pure (.failure "OCC Conflict")
  else
    calls.finish
      { next with state_version := current.state_version + 1 }

/- A refusal is written to the audit log. -/
def refuse
    (error : String) : Flow Authority TransitionResult := do
  answered calls.refusalAudit writeEvent
  pure (.failure error)

/- The part of a transition that runs under the mutex. -/
def transitionBody
    (ref : Nat)
    (event : TransitionEvent)
    (payload : Option TransitionPayload) :
    Flow Authority TransitionResult := do
  let found ← answered calls.read getSecurityStateRow
  let current ← Flow.read (fun s => s.deref ref)
  match found, current with
  | some row, some current =>
      if current.state_version ≠ row.state_version then
        pure (.failure
          "OCC Conflict: state was modified concurrently")
      else
        match getTransition current.state event with
        | none => calls.refuse "Invalid transition"
        | some transitionDef =>
            match transitionDef.evaluate payload with
            | none =>
                .fail "Cannot read properties of undefined"
            | some false => calls.refuse "Guard failed"
            | some true =>
                calls.commitNext current
                  (current.advance transitionDef.nextState
                    (payload.getD {}))
  | _, _ =>
      .fail "FATAL: Security state row missing from persistence layer."

def executeTransition
    (ref : Nat)
    (event : TransitionEvent)
    (payload : Option TransitionPayload) :
    Flow Authority TransitionResult := do
  Mutex.acquire Authority.stateMachineMutex
    Authority.withStateMachineMutex
  (calls.transitionBody ref event payload).ensuring
    (Authority.withStateMachineMutex Mutex.release)

def dispatch
    (event : TransitionEvent)
    (payload : Option TransitionPayload) :
    Flow Authority Bool := do
  let current ← Flow.read Authority.currentRef
  match current with
  | none => .fail "DecisionEngine not initialized"
  | some ref => do
      let result ← calls.executeTransition ref event payload
      match result with
      | .success next => do
          Flow.modify (Authority.install next)
          pure true
      | .failure _ => pure false

theorem answered_commit
    (version : Nat)
    (next : NextStateData) :
    CallOutcomes.commitTransitionWithOCC {} version next =
      ControlPlane.commitTransitionWithOCC version next :=
  rfl

theorem answered_commitNext
    (current next : StateData) :
    CallOutcomes.commitNext {} current next =
      ControlPlane.commitNext current next := by
  unfold commitNext ControlPlane.commitNext
  rw [answered_commit]
  rfl

theorem answered_transitionBody
    (ref : Nat)
    (event : TransitionEvent)
    (payload : TransitionPayload) :
    CallOutcomes.transitionBody {} ref event
        (some payload) =
      ControlPlane.transitionBody ref event payload := by
  unfold transitionBody ControlPlane.transitionBody
  change (getSecurityStateRow >>= _) = _
  congr 1
  funext found
  congr 1
  funext current
  cases found with
  | none => rfl
  | some row =>
      cases current with
      | none => rfl
      | some current =>
          dsimp only
          congr 1
          cases getTransition current.state event with
          | none => rfl
          | some transitionDef =>
              dsimp only [TransitionDefinition.evaluate]
              cases transitionDef.guard payload.facts with
              | false => rfl
              | true => exact answered_commitNext _ _

theorem answered_executeTransition
    (ref : Nat)
    (event : TransitionEvent)
    (payload : TransitionPayload) :
    CallOutcomes.executeTransition {} ref event
        (some payload) =
      ControlPlane.executeTransition ref event payload := by
  unfold executeTransition ControlPlane.executeTransition
  rw [answered_transitionBody]

/- With all calls answered it is the dispatch of the engine. -/
theorem answered_dispatch
    (event : TransitionEvent)
    (payload : TransitionPayload) :
    CallOutcomes.dispatch {} event (some payload) =
      ControlPlane.dispatch event payload := by
  unfold dispatch ControlPlane.dispatch
  congr 1
  funext current
  cases current with
  | none => rfl
  | some ref =>
      have hCall :=
        congrArg
          (fun (call : Flow Authority TransitionResult)
            (next : TransitionResult → Flow Authority Bool) =>
            call >>= next)
          (answered_executeTransition ref event payload)
      exact congrFun hCall _

end CallOutcomes

------------------------------------------------------------
-- Calls That Leave No Trace
------------------------------------------------------------

/- Row, memory and mutex are as before. -/
structure Undisturbed
    (before after : Authority) : Prop where
  row : after.row = before.row
  memory : after.inMemoryState = before.inMemoryState
  mutex :
    after.stateMachineMutex = before.stateMachineMutex

theorem Undisturbed.refl
    (s : Authority) : Undisturbed s s :=
  ⟨rfl, rfl, rfl⟩

/- A transition that throws or that is refused. -/
def Fails (outcome : Outcome TransitionResult) : Prop :=
  (∃ error, outcome = .resolved (.failure error)) ∨
    ∃ message, outcome = .rejected message

namespace CallOutcomes

variable (calls : CallOutcomes)

theorem exec_answered_writeEvent
    (failure : Option String)
    (s : Authority) :
    (answered failure writeEvent).exec s =
      (match failure with
        | none => .resolved ()
        | some message => .rejected message, s) := by
  cases failure with
  | none => rfl
  | some message => rfl

/- A refusal is reported, or its audit record throws. -/
theorem exec_refuse
    (error : String)
    (s : Authority) :
    ∃ outcome,
      (calls.refuse error).exec s = (outcome, s) ∧
        Fails outcome := by
  unfold refuse
  rw [Flow.exec_bind, exec_answered_writeEvent]
  cases calls.refusalAudit with
  | none => exact ⟨_, rfl, Or.inl ⟨error, rfl⟩⟩
  | some message => exact ⟨_, rfl, Or.inr ⟨message, rfl⟩⟩

/- A refusal leaves no trace. -/
theorem undisturbed_refuse
    (error : String)
    (s : Authority) :
    ∃ outcome after,
      (calls.refuse error).exec s = (outcome, after) ∧
        Undisturbed s after ∧ Fails outcome := by
  rcases calls.exec_refuse error s with
    ⟨outcome, hExec, hFails⟩
  exact ⟨outcome, s, hExec, Undisturbed.refl s, hFails⟩

/- The row at the version of the commit is replaced. -/
theorem exec_commit_of
    {version : Nat}
    {s : Authority}
    (next : NextStateData)
    (hVersion : s.atVersion version = true)
    (hEncryption : calls.encryption = none)
    (hUpdate : calls.update = .runs) :
    (calls.commitTransitionWithOCC version next).exec s =
      (.resolved true, s.committed version next) := by
  have hFound :
      (s.clockedFor next).atVersion version = true :=
    hVersion
  unfold commitTransitionWithOCC
  rw [hEncryption, hUpdate,
    Flow.exec_bind_of (exec_highestTimeOf next s)]
  change
    (Flow.request
        (Authority.updateRow version
          (next.toRow (version + 1) (s.observedBy next)))
        (Authority.atVersion version) >>= _).exec _ = _
  rw [Flow.exec_bind_of (Flow.exec_request _ _ _), hFound,
    if_pos rfl]
  unfold Authority.updateRow
  rw [if_pos hFound]
  rfl

/- An insert does not touch a row that is there. -/
theorem exec_insert
    (outcome : StatementOutcome)
    (row : SecurityStateRow)
    {s : Authority}
    (hRow : s.row.isSome) :
    ∃ answer,
      (statement outcome (Authority.insertRow row)
          (fun s => s.row.isNone)).exec s = (answer, s) ∧
        (answer = .resolved false ∨
          ∃ message, answer = .rejected message) := by
  cases outcome with
  | runs =>
      have hSome : s.row.isNone = false := by
        rw [Option.isSome_iff_exists] at hRow
        rcases hRow with ⟨row, hRow⟩
        rw [hRow]
        rfl
      refine ⟨.resolved false, ?_, Or.inl rfl⟩
      change (Flow.request _ _).exec s = _
      rw [Flow.exec_request, hSome]
      unfold Authority.insertRow
      rw [hSome]
      rfl
  | matchesNothing => exact ⟨_, rfl, Or.inl rfl⟩
  | throws message => exact ⟨_, rfl, Or.inr ⟨message, rfl⟩⟩

/- Without its statement a commit leaves the row. -/
theorem exec_commit_not
    {s : Authority}
    (version : Nat)
    (next : NextStateData)
    (hRow : s.row.isSome)
    (hNot :
      ¬(calls.encryption = none ∧ calls.update = .runs)) :
    ∃ answer,
      (calls.commitTransitionWithOCC version next).exec s =
          (answer, s.clockedFor next) ∧
        (answer = .resolved false ∨
          ∃ message, answer = .rejected message) := by
  unfold commitTransitionWithOCC
  rw [Flow.exec_bind_of (exec_highestTimeOf next s)]
  cases hEncryption : calls.encryption with
  | some message => exact ⟨_, rfl, Or.inr ⟨message, rfl⟩⟩
  | none =>
      cases hUpdate : calls.update with
      | runs => exact absurd ⟨hEncryption, hUpdate⟩ hNot
      | throws message =>
          exact ⟨_, rfl, Or.inr ⟨message, rfl⟩⟩
      | matchesNothing =>
          change ∃ answer,
            (if version = 0 then
              statement calls.insert
                (Authority.insertRow
                  (next.toRow (version + 1)
                    (s.observedBy next)))
                (fun s => s.row.isNone)
            else pure false : Flow Authority Bool).exec
              (s.clockedFor next) = (answer, _) ∧ _
          by_cases hZero : version = 0
          · rw [if_pos hZero]
            exact exec_insert calls.insert _ hRow
          · rw [if_neg hZero]
            exact ⟨_, rfl, Or.inl rfl⟩

theorem undisturbed_clockedFor
    (next : NextStateData)
    (s : Authority) : Undisturbed s (s.clockedFor next) :=
  ⟨rfl, rfl, rfl⟩

theorem exec_commitNext_not
    {current next : StateData}
    {s : Authority}
    (hRow : s.row.isSome)
    (hNot :
      ¬(calls.encryption = none ∧ calls.update = .runs)) :
    ∃ outcome after,
      (calls.commitNext current next).exec s =
          (outcome, after) ∧
        Undisturbed s after ∧ Fails outcome := by
  rcases calls.exec_commit_not current.state_version
      next.toNext hRow hNot with
    ⟨answer, hExec, hAnswer⟩
  unfold commitNext
  rw [Flow.exec_bind, hExec]
  rcases hAnswer with rfl | ⟨message, rfl⟩
  · exact ⟨_, _, rfl, undisturbed_clockedFor _ s,
      Or.inl ⟨_, rfl⟩⟩
  · exact ⟨_, _, rfl, undisturbed_clockedFor _ s,
      Or.inr ⟨_, rfl⟩⟩

/- Nothing throws between the commit and the return. -/
structure Finishes (next : StateData) : Prop where
  audit : calls.audit = none
  invariants : assertStateMachineInvariants next = none
  native : calls.native = none

theorem exec_finish
    {next : StateData}
    (hFinishes : calls.Finishes next)
    (s : Authority) :
    (calls.finish next).exec s =
      (.resolved (.success next),
        s.setRevoked (!nonRevoked next.state)) := by
  unfold finish
  rw [hFinishes.audit, hFinishes.invariants,
    hFinishes.native]
  rfl

theorem exec_finish_not
    {next : StateData}
    (hNot : ¬calls.Finishes next)
    (s : Authority) :
    ∃ message,
      (calls.finish next).exec s = (.rejected message, s) := by
  unfold finish
  cases hAudit : calls.audit with
  | some message => exact ⟨message, rfl⟩
  | none =>
      cases hInvariants : assertStateMachineInvariants next with
      | some message => exact ⟨message, rfl⟩
      | none =>
          cases hNative : calls.native with
          | some message => exact ⟨message, rfl⟩
          | none =>
              exact absurd ⟨hAudit, hInvariants, hNative⟩
                hNot

/- The statement is followed by the rest of the call. -/
theorem exec_commitNext_of
    {current : StateData}
    {state : SecurityState}
    {payload : TransitionPayload}
    {s : Authority}
    (hVersion : s.atVersion current.state_version = true)
    (hEncryption : calls.encryption = none)
    (hUpdate : calls.update = .runs) :
    (calls.commitNext current
        (current.advance state payload)).exec s =
      (calls.finish (current.moved state payload)).exec
        (s.committed current.state_version
          (current.advance state payload).toNext) := by
  have hCommit :=
    calls.exec_commit_of
      (current.advance state payload).toNext
      hVersion hEncryption hUpdate
  unfold commitNext
  rw [Flow.exec_bind_of hCommit]
  rfl

------------------------------------------------------------
-- A Transition As A Whole
------------------------------------------------------------

/- A transition commits the state of a row of the table. -/
structure Commits
    (event : TransitionEvent)
    (payload : Option TransitionPayload)
    (s : Authority)
    (current : StateData)
    (transitionDef : TransitionDefinition) : Prop where
  read : calls.read = none
  version : s.atVersion current.state_version = true
  table :
    getTransition current.state event = some transitionDef
  guard : transitionDef.evaluate payload = some true
  encryption : calls.encryption = none
  update : calls.update = .runs

theorem exec_body_of_commits
    {event : TransitionEvent}
    {payload : Option TransitionPayload}
    {s : Authority}
    {ref : Nat}
    {current : StateData}
    {transitionDef : TransitionDefinition}
    (hCurrent : s.deref ref = some current)
    (hCommits :
      calls.Commits event payload s current transitionDef) :
    (calls.transitionBody ref event payload).exec s =
      (calls.commitNext current
        (current.advance transitionDef.nextState
          (payload.getD {}))).exec s := by
  have hVersion := hCommits.version
  unfold Authority.atVersion at hVersion
  unfold transitionBody
  rw [hCommits.read]
  change (getSecurityStateRow >>= _).exec s = _
  rw [Flow.exec_bind_of (exec_getSecurityStateRow s),
    Flow.exec_bind_of (Flow.exec_read _ s), hCurrent]
  cases hRow : s.row with
  | none =>
      rw [hRow] at hVersion
      cases hVersion
  | some row =>
      rw [hRow] at hVersion
      have hSame := of_decide_eq_true hVersion
      dsimp only
      rw [if_neg (fun hNe => hNe hSame.symm),
        hCommits.table]
      dsimp only
      rw [hCommits.guard]

/- A transition that is not committed leaves no trace. -/
theorem exec_body_of_not
    {event : TransitionEvent}
    {payload : Option TransitionPayload}
    {s : Authority}
    {ref : Nat}
    {current : StateData}
    (hCurrent : s.deref ref = some current)
    (hNot :
      ∀ transitionDef,
        ¬calls.Commits event payload s current
          transitionDef) :
    ∃ outcome after,
      (calls.transitionBody ref event payload).exec s =
          (outcome, after) ∧
        Undisturbed s after ∧ Fails outcome := by
  unfold transitionBody
  cases hRead : calls.read with
  | some message =>
      exact ⟨_, _, rfl, Undisturbed.refl s,
        Or.inr ⟨message, rfl⟩⟩
  | none =>
      change ∃ outcome after,
        (getSecurityStateRow >>= _).exec s = (outcome, after) ∧
          _
      rw [Flow.exec_bind_of (exec_getSecurityStateRow s),
        Flow.exec_bind_of (Flow.exec_read _ s), hCurrent]
      cases hRow : s.row with
      | none =>
          exact ⟨_, _, rfl, Undisturbed.refl s,
            Or.inr ⟨_, rfl⟩⟩
      | some row =>
          dsimp only
          by_cases hVersion :
              current.state_version = row.state_version
          · rw [if_neg (fun hNe => hNe hVersion)]
            cases hTable :
                getTransition current.state event with
            | none =>
                exact calls.undisturbed_refuse
                  "Invalid transition" s
            | some transitionDef =>
                dsimp only
                cases hGuard :
                    transitionDef.evaluate payload with
                | none =>
                    exact ⟨_, _, rfl, Undisturbed.refl s,
                      Or.inr ⟨_, rfl⟩⟩
                | some allowed =>
                    cases allowed with
                    | false =>
                        exact calls.undisturbed_refuse
                          "Guard failed" s
                    | true =>
                        apply calls.exec_commitNext_not
                        · rw [hRow]
                          rfl
                        · rintro ⟨hEncryption, hUpdate⟩
                          apply hNot transitionDef
                          refine ⟨hRead, ?_, hTable, hGuard,
                            hEncryption, hUpdate⟩
                          rw [hVersion]
                          exact atVersion_of_row hRow
          · rw [if_pos hVersion]
            exact ⟨_, _, rfl, Undisturbed.refl s,
              Or.inl ⟨_, rfl⟩⟩

end CallOutcomes

------------------------------------------------------------
-- The Mutex Of A Transition
------------------------------------------------------------

namespace Mutex

/- A call gets the lock, at once or after a grant. -/
def Obtained (m : Mutex) : Prop :=
  m.locked = false ∨ m.granted = some m.tickets

/- The mutex while the call holds it. -/
def acquired (m : Mutex) : Mutex :=
  if m.locked then m.enter.take else m.enter

end Mutex

theorem exec_acquire
    {s : Authority}
    (hObtained : s.stateMachineMutex.Obtained) :
    (Mutex.acquire Authority.stateMachineMutex
        Authority.withStateMachineMutex).exec s =
      (.resolved (),
        s.withStateMachineMutex Mutex.acquired) := by
  unfold Mutex.acquire
  rw [Flow.exec_bind_of (Flow.exec_update _ _ _)]
  cases hLocked : s.stateMachineMutex.locked with
  | false =>
      have hAcquired :
          s.stateMachineMutex.acquired =
            s.stateMachineMutex.enter := by
        unfold Mutex.acquired
        rw [hLocked]
        rfl
      unfold Authority.withStateMachineMutex
      rw [hAcquired]
      rfl
  | true =>
      have hGranted :
          s.stateMachineMutex.granted =
            some s.stateMachineMutex.tickets := by
        rcases hObtained with hFree | hGranted
        · rw [hLocked] at hFree
          cases hFree
        · exact hGranted
      have hAcquired :
          s.stateMachineMutex.acquired =
            s.stateMachineMutex.enter.take := by
        unfold Mutex.acquired
        rw [hLocked]
        rfl
      have hEntered :
          s.stateMachineMutex.enter.granted =
            some s.stateMachineMutex.tickets := by
        unfold Mutex.enter
        rw [hLocked]
        exact hGranted
      unfold Authority.withStateMachineMutex
      rw [hAcquired]
      rw [if_pos rfl]
      unfold Flow.waitFor
      rw [Flow.await_bind, Flow.exec_await, if_pos]
      · rfl
      · exact decide_eq_true hEntered

/- A call that does not get the lock waits. -/
theorem exec_acquire_not
    {s : Authority}
    (hNot : ¬s.stateMachineMutex.Obtained) :
    ∃ after,
      (Mutex.acquire Authority.stateMachineMutex
          Authority.withStateMachineMutex).exec s =
        (.pending, after) := by
  have hLocked : s.stateMachineMutex.locked = true := by
    rw [← Bool.not_eq_false]
    exact fun hFree => hNot (Or.inl hFree)
  have hGranted :
      ¬s.stateMachineMutex.enter.granted =
        some s.stateMachineMutex.tickets := by
    unfold Mutex.enter
    rw [hLocked]
    exact fun hGranted => hNot (Or.inr hGranted)
  unfold Mutex.acquire
  rw [Flow.exec_bind_of (Flow.exec_update _ _ _), hLocked,
    if_pos rfl]
  unfold Flow.waitFor
  rw [Flow.await_bind, Flow.exec_await, if_neg]
  · exact ⟨_, rfl⟩
  · intro hReady
    exact hGranted (of_decide_eq_true hReady)

------------------------------------------------------------
-- Atomic Transitions
------------------------------------------------------------

/-
  A transition that fails leaves row and memory as they
  were. One that succeeds leaves the same next state in
  both. The lock is not kept.
-/
structure Atomic
    (before : Authority)
    (outcome : Outcome Bool)
    (after : Authority) : Prop where
  failed :
    (outcome = .resolved false ∨
        ∃ message, outcome = .rejected message) →
      after.row = before.row ∧
        after.inMemoryState = before.inMemoryState
  succeeded :
    outcome = .resolved true →
      ∃ current next time,
        before.inMemoryState = some current ∧
          next.state_version = current.state_version + 1 ∧
          after.inMemoryState = some next ∧
          after.row =
            some (next.toNext.toRow next.state_version time)
  released :
    outcome ≠ .pending →
      after.stateMachineMutex = before.stateMachineMutex ∨
        after.stateMachineMutex =
          before.stateMachineMutex.acquired.release

namespace CallOutcomes

variable
  (calls : CallOutcomes)
  (event : TransitionEvent)
  (payload : Option TransitionPayload)

/- A dispatch that holds the lock runs the transition. -/
theorem exec_dispatch
    {s : Authority}
    {current : StateData}
    (hMemory : s.inMemoryState = some current)
    (hObtained : s.stateMachineMutex.Obtained) :
    (calls.dispatch event payload).exec s =
      (((calls.transitionBody s.superseded.length event
          payload).ensuring
            (Authority.withStateMachineMutex
              Mutex.release)) >>= fun result =>
        match result with
        | .success next => do
            Flow.modify (Authority.install next)
            pure true
        | .failure _ => pure false).exec
          (s.withStateMachineMutex Mutex.acquired) := by
  have hRef : s.currentRef = some s.superseded.length := by
    unfold Authority.currentRef
    rw [hMemory]
    rfl
  unfold dispatch
  rw [Flow.exec_bind_of (Flow.exec_read _ s), hRef]
  dsimp only
  unfold executeTransition
  rw [Flow.exec_bind, Flow.exec_bind_of (exec_acquire hObtained),
    Flow.exec_bind]

/- A dispatch that does not get the lock waits. -/
theorem exec_dispatch_pending
    {s : Authority}
    {current : StateData}
    (hMemory : s.inMemoryState = some current)
    (hNot : ¬s.stateMachineMutex.Obtained) :
    ∃ after,
      (calls.dispatch event payload).exec s =
        (.pending, after) := by
  have hRef : s.currentRef = some s.superseded.length := by
    unfold Authority.currentRef
    rw [hMemory]
    rfl
  rcases exec_acquire_not hNot with ⟨after, hExec⟩
  unfold dispatch
  rw [Flow.exec_bind_of (Flow.exec_read _ s), hRef]
  dsimp only
  unfold executeTransition
  rw [Flow.exec_bind, Flow.exec_bind, hExec]
  exact ⟨after, rfl⟩

theorem exec_dispatch_none
    {s : Authority}
    (hMemory : s.inMemoryState = none) :
    (calls.dispatch event payload).exec s =
      (.rejected "DecisionEngine not initialized", s) := by
  unfold dispatch
  rw [Flow.exec_bind_of (Flow.exec_read _ s)]
  unfold Authority.currentRef
  rw [hMemory]
  rfl

/- A dispatch whose transition is not committed. -/
theorem atomic_of_not_commits
    {s : Authority}
    {current : StateData}
    (hMemory : s.inMemoryState = some current)
    (hObtained : s.stateMachineMutex.Obtained)
    (hNot :
      ∀ transitionDef,
        ¬calls.Commits event payload s current
          transitionDef) :
    Atomic s ((calls.dispatch event payload).exec s).1
      ((calls.dispatch event payload).exec s).2 := by
  have hCurrent :
      (s.withStateMachineMutex Mutex.acquired).deref
        s.superseded.length = some current :=
    deref_current hMemory
  have hNone :
      ∀ transitionDef,
        ¬calls.Commits event payload
          (s.withStateMachineMutex Mutex.acquired) current
          transitionDef :=
    fun transitionDef hCommits =>
      hNot transitionDef
        ⟨hCommits.read, hCommits.version, hCommits.table,
          hCommits.guard, hCommits.encryption,
          hCommits.update⟩
  rcases calls.exec_body_of_not hCurrent hNone with
    ⟨outcome, after, hExec, hUndisturbed, hFails⟩
  have hReleased :
      (after.withStateMachineMutex
          Mutex.release).stateMachineMutex =
        s.stateMachineMutex.acquired.release :=
    congrArg Mutex.release hUndisturbed.mutex
  rw [calls.exec_dispatch event payload hMemory hObtained,
    Flow.exec_bind, Flow.exec_ensuring, hExec]
  rcases hFails with ⟨error, rfl⟩ | ⟨message, rfl⟩
  · refine ⟨?_, ?_, fun _ => Or.inr hReleased⟩
    · exact fun _ => ⟨hUndisturbed.row, hUndisturbed.memory⟩
    · intro hSuccess
      cases hSuccess
  · refine ⟨?_, ?_, fun _ => Or.inr hReleased⟩
    · exact fun _ => ⟨hUndisturbed.row, hUndisturbed.memory⟩
    · intro hSuccess
      cases hSuccess

/- A committed transition is atomic when nothing throws. -/
theorem atomic_iff_finishes
    {s : Authority}
    {current : StateData}
    {transitionDef : TransitionDefinition}
    (hMemory : s.inMemoryState = some current)
    (hObtained : s.stateMachineMutex.Obtained)
    (hCommits :
      calls.Commits event payload s current
        transitionDef) :
    Atomic s ((calls.dispatch event payload).exec s).1
        ((calls.dispatch event payload).exec s).2 ↔
      calls.Finishes
        (current.moved transitionDef.nextState
          (payload.getD {})) := by
  have hCurrent :
      (s.withStateMachineMutex Mutex.acquired).deref
        s.superseded.length = some current :=
    deref_current hMemory
  have hHolding :
      calls.Commits event payload
        (s.withStateMachineMutex Mutex.acquired) current
        transitionDef :=
    ⟨hCommits.read, hCommits.version, hCommits.table,
      hCommits.guard, hCommits.encryption, hCommits.update⟩
  rw [calls.exec_dispatch event payload hMemory hObtained,
    Flow.exec_bind, Flow.exec_ensuring,
    calls.exec_body_of_commits hCurrent hHolding,
    calls.exec_commitNext_of hHolding.version
      hCommits.encryption hCommits.update]
  by_cases hFinishes :
      calls.Finishes
        (current.moved transitionDef.nextState
          (payload.getD {}))
  · rw [calls.exec_finish hFinishes]
    refine iff_of_true ⟨?_, ?_, ?_⟩ hFinishes
    · rintro (hFailed | ⟨message, hFailed⟩)
      · cases hFailed
      · cases hFailed
    · intro _
      exact ⟨current, _, _, hMemory, rfl, rfl, rfl⟩
    · exact fun _ => Or.inr rfl
  · rcases calls.exec_finish_not hFinishes
        ((s.withStateMachineMutex Mutex.acquired).committed
          current.state_version
          (current.advance transitionDef.nextState
            (payload.getD {})).toNext) with
      ⟨message, hExec⟩
    rw [hExec]
    refine iff_of_false ?_ hFinishes
    intro hAtomic
    have hRow :
        some ((current.advance transitionDef.nextState
          (payload.getD {})).toNext.toRow
            (current.state_version + 1) _) = s.row :=
      (hAtomic.failed (Or.inr ⟨message, rfl⟩)).1
    have hVersion := hCommits.version
    unfold Authority.atVersion at hVersion
    rw [← hRow] at hVersion
    have hSame :
        current.state_version + 1 = current.state_version :=
      of_decide_eq_true hVersion
    omega

/-
  A transition is atomic unless something throws after its
  commit: the audit log, an invariant of the next state or
  the native core.
-/
theorem transitions_atomic_iff
    (s : Authority) :
    Atomic s ((calls.dispatch event payload).exec s).1
        ((calls.dispatch event payload).exec s).2 ↔
      ∀ current transitionDef,
        s.stateMachineMutex.Obtained →
          s.inMemoryState = some current →
            calls.Commits event payload s current
                transitionDef →
              calls.Finishes
                (current.moved transitionDef.nextState
                  (payload.getD {})) := by
  cases hMemory : s.inMemoryState with
  | none =>
      rw [calls.exec_dispatch_none event payload hMemory]
      refine iff_of_true ⟨?_, ?_, ?_⟩ ?_
      · exact fun _ => ⟨rfl, rfl⟩
      · intro hSuccess
        cases hSuccess
      · exact fun _ => Or.inl rfl
      · intro current transitionDef _ hSome
        cases hSome
  | some current =>
      by_cases hObtained : s.stateMachineMutex.Obtained
      · by_cases hCommits :
            ∃ transitionDef,
              calls.Commits event payload s current
                transitionDef
        · rcases hCommits with ⟨transitionDef, hCommits⟩
          rw [calls.atomic_iff_finishes event payload hMemory
            hObtained hCommits]
          constructor
          · intro hFinishes other row _ hSame hOther
            rw [← Option.some.inj hSame] at hOther ⊢
            have hRow :=
              hCommits.table.symm.trans hOther.table
            rw [← Option.some.inj hRow]
            exact hFinishes
          · intro hAll
            exact hAll current transitionDef hObtained rfl
              hCommits
        · have hNot :
              ∀ transitionDef,
                ¬calls.Commits event payload s current
                  transitionDef :=
            fun transitionDef hRow =>
              hCommits ⟨transitionDef, hRow⟩
          refine iff_of_true
            (calls.atomic_of_not_commits event payload
              hMemory hObtained hNot) ?_
          intro other transitionDef _ hSame hOther
          rw [← Option.some.inj hSame] at hOther
          exact absurd hOther (hNot transitionDef)
      · rcases calls.exec_dispatch_pending event payload
            hMemory hObtained with
          ⟨after, hExec⟩
        rw [hExec]
        refine iff_of_true ⟨?_, ?_, ?_⟩ ?_
        · rintro (hFailed | ⟨message, hFailed⟩)
          · cases hFailed
          · cases hFailed
        · intro hSuccess
          cases hSuccess
        · exact fun hEnded => absurd rfl hEnded
        · exact fun _ _ hLock => absurd hLock hObtained

end CallOutcomes

/- An operator with a capability, at version five. -/
def operationalState : StateData where
  state := .OPERATIONAL
  state_version := 5
  session := some { status := "AUTHENTICATED" }
  authorization :=
    some
      { status := "VALID"
        capability_set := some ["CAP_AUTOMATION_START"] }
  license := none
  graceTokenData := none

def operationalAuthority : Authority where
  inMemoryState := some operationalState
  superseded := []
  row := some (operationalState.toNext.toRow 5 0)
  revoked := false
  stateMachineMutex := Mutex.free
  reconcileMutex := Mutex.free
  machineIdentityValid := true
  production := true
  wallClock := fun _ => 1
  readings := 0

/-
  A revocation persists the state that violates an invariant
  and leaves the engine operational.
-/
theorem revocation_is_not_atomic :
    ¬Atomic operationalAuthority
      ((CallOutcomes.dispatch {} .BACKEND_REVOCATION
        (some { facts := { nonceChecked := true } })).exec
          operationalAuthority).1
      ((CallOutcomes.dispatch {} .BACKEND_REVOCATION
        (some { facts := { nonceChecked := true } })).exec
          operationalAuthority).2 := by
  intro hAtomic
  have hFailed := hAtomic.failed (Or.inr ⟨_, rfl⟩)
  have hRow :
      ((CallOutcomes.dispatch {} .BACKEND_REVOCATION
        (some { facts := { nonceChecked := true } })).exec
          operationalAuthority).2.row ≠
        operationalAuthority.row := by
    decide +kernel
  exact hRow hFailed.1

end ControlPlane
