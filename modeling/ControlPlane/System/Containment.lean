import ControlPlane.Boundary.FrozenTargets
import ControlPlane.Boundary.Reconciliation
import ControlPlane.System.Turns

/-
  Emergency containment.

  An emergency stop and a cancellation of all bets are meant
  to freeze every staged account, and the freeze of one
  account to freeze it. The method they call does not exist,
  so their turns freeze nothing and the first two report
  success all the same. What they report holds exactly when
  it held before; from then on a frozen account stays frozen
  until an operation that names it is resolved.

  Main declarations:
    * `System.reportedFrozen` and `System.StaysContained`
    * `System.isAccountFrozen_turn_iff`
    * `System.contained_iff`
-/

------------------------------------------------------------
-- Frozen Accounts Along A Run
------------------------------------------------------------

namespace ControlPlane

namespace Coordinator

variable {δ : Type}

open ReconciliationCoordinator

/- The call resolves no operation of the account. -/
def SparesAccount
    (account : String)
    (c : ReconciliationCoordinator δ)
    (call : Call δ) : Prop :=
  ∀ operationId task,
    call.resolves = some operationId →
      c.task? operationId = some task →
        ¬ (task.accountId = some account ∧ account ≠ "")

/- Calls that resolve nothing spare every account. -/
theorem spares_of_resolves_none
    {calls : List (Call δ)}
    (hNone : ∀ call ∈ calls, call.resolves = none)
    (account : String)
    (c : ReconciliationCoordinator δ) :
    Along step (SparesAccount account) c calls := by
  rw [along_iff]
  intro past made future hCalls operationId task hResolves
  have hMade : made ∈ calls := by
    rw [hCalls]
    exact List.mem_append_right past List.mem_cons_self
  rw [hNone made hMade] at hResolves
  cases hResolves

/- A call keeps a freeze exactly when it spares it. -/
theorem isAccountFrozen_step_iff
    {account : String}
    (c : ReconciliationCoordinator δ)
    (call : Call δ)
    (hFrozen : c.isAccountFrozen account = true) :
    (step c call).isAccountFrozen account = true ↔
      SparesAccount account c call := by
  rcases step_effect c call with
    ⟨now, op, hCall, hNext⟩ |
    ⟨operationId, task, hResolves, hTask, hNext⟩ |
    ⟨hNone, hKept, _⟩
  · rw [hNext, isAccountFrozen_enqueue]
    refine ⟨fun _ other otherTask hOther => ?_,
      fun _ => .inr hFrozen⟩
    rw [hCall] at hOther
    cases hOther
  · rw [hNext, isAccountFrozen_resolveTask]
    constructor
    · rintro ⟨hSpared, _⟩ other otherTask hOther hOtherTask
      rw [hResolves] at hOther
      cases hOther
      rw [hTask] at hOtherTask
      cases hOtherTask
      exact hSpared
    · intro hSpares
      exact ⟨hSpares operationId task hResolves hTask,
        hFrozen⟩
  · refine ⟨fun _ other otherTask hOther hOtherTask => ?_,
      fun _ => ?_⟩
    · rw [hNone other hOther] at hOtherTask
      cases hOtherTask
    · unfold isAccountFrozen at hFrozen ⊢
      rw [hKept]
      exact hFrozen

theorem isAccountFrozen_step
    {account : String}
    (c : ReconciliationCoordinator δ)
    (call : Call δ)
    (hFrozen : c.isAccountFrozen account = true)
    (hSpares : SparesAccount account c call) :
    (step c call).isAccountFrozen account = true :=
  (isAccountFrozen_step_iff c call hFrozen).mpr hSpares

end Coordinator

namespace System

open ExecutionBoundaryManager

/- The turn resolves no operation that names the account. -/
def SparesAccount
    (account : String)
    (s : System)
    (event : SystemEvent) : Prop :=
  Along Coordinator.step (Coordinator.SparesAccount account)
    s.boundary.coordinator (s.calls event)

/- The calls of a turn itself keep an account frozen. -/
theorem isAccountFrozen_internal
    {s : System}
    {event : SystemEvent}
    {account : String}
    (b : Boundary)
    (call : Event)
    (hFrozen :
      b.coordinator.isAccountFrozen account = true)
    (hInternal : s.Internal event call) :
    (b.step call).coordinator.isAccountFrozen account =
      true := by
  rw [Boundary.step_coordinator]
  exact run_invariant Coordinator.isAccountFrozen_step
    hFrozen
    (Coordinator.spares_of_resolves_none
      (fun _ hMade => resolves_of_internal hInternal hMade)
      account b.coordinator)

theorem resolves_of_mem_enqueueCalls
    {env : Env}
    {ops : List (UncertainOperation Details)}
    {call : Coordinator.Call Details}
    (hCall : call ∈ enqueueCalls env ops) :
    call.resolves = none := by
  rcases List.mem_map.mp hCall with ⟨op, _, rfl⟩
  rfl

/- The calls of an envelope, or the report it is. -/
theorem payloadCalls_cases
    (env : Env)
    (m : ExecutionBoundaryManager)
    (payload : InboundPayload) :
    (∀ call ∈ m.payloadCalls env payload,
        call.resolves = none) ∨
      ∃ report, payload = .reconciliationReport report := by
  cases payload with
  | operationResult result =>
      exact .inl fun _ hCall =>
        resolves_of_mem_enqueueCalls hCall
  | snapshotDump engineStatus browsers runs =>
      exact .inl fun _ hCall =>
        resolves_of_mem_enqueueCalls hCall
  | reconciliationReport report => exact .inr ⟨report, rfl⟩
  | _ =>
      left
      intro call hCall
      cases hCall

/-
  A turn resolves nothing, or it is one report or manual
  resolution that no listener acts on.
-/
theorem calls_cases
    (s : System)
    (event : SystemEvent) :
    (∀ call ∈ s.calls event, call.resolves = none) ∨
      ∃ call,
        s.calls event = [call] ∧
          s.step event = s.entered event := by
  unfold calls step respond entered
  cases hInput : event.input with
  | boundary external =>
      rcases external with ⟨input, hExternal⟩
      cases input with
      | command command =>
          left
          intro call hCall
          cases command with
          | reconcileOperation operationId options =>
              rw [List.mem_singleton.mp hCall]
              rfl
          | _ => cases hCall
      | manualResolve operationId outcome note =>
          exact .inr ⟨_, rfl, rfl⟩
      | uncertainOperations ops =>
          exact .inl fun _ hCall =>
            resolves_of_mem_enqueueCalls hCall
      | data connId data =>
          cases data with
          | envelope envelope =>
              rcases payloadCalls_cases
                  (s.boundary.env
                    (s.boundaryEvent event.surroundings
                      event.elapsed
                      (.data connId (.envelope envelope))))
                  s.boundary.manager envelope.payload with
                hNone | ⟨report, hReport⟩
              · exact .inl hNone
              · refine .inr
                  ⟨.handleReconciliationReport report, ?_, ?_⟩
                · unfold Boundary.calls boundaryEvent
                  dsimp only [coordinatorCalls]
                  rw [hReport]
                  rfl
                · unfold feed emitted react boundaryEvent
                  dsimp only [handleIncomingData]
                  rw [hReport]
                  rfl
          | _ =>
              left
              intro call hCall
              cases hCall
      | _ =>
          left
          intro call hCall
          cases hCall
  | _ =>
      left
      intro call hCall
      cases hCall

/- A turn keeps a freeze exactly when it spares it. -/
theorem isAccountFrozen_turn_iff
    {account : String}
    (s : System)
    (event : SystemEvent)
    (hFrozen : s.isAccountFrozen account = true) :
    (s.step event).isAccountFrozen account = true ↔
      SparesAccount account s event := by
  constructor
  · intro hAfter
    rcases s.calls_cases event with
      hNone | ⟨call, hCall, hEntered⟩
    · exact Coordinator.spares_of_resolves_none hNone
        account s.boundary.coordinator
    · unfold SparesAccount
      rw [hEntered] at hAfter
      unfold isAccountFrozen at hAfter
      rw [entered_coordinator, hCall] at hAfter
      rw [hCall]
      exact ⟨(Coordinator.isAccountFrozen_step_iff _ call
        hFrozen).mp hAfter, trivial⟩
  · intro hSpares
    have hEntered :
        (s.entered event).isAccountFrozen account = true := by
      unfold isAccountFrozen
      rw [entered_coordinator]
      exact run_invariant Coordinator.isAccountFrozen_step
        hFrozen hSpares
    exact (s.step_turn event).boundary.invariant
      isAccountFrozen_internal hEntered

------------------------------------------------------------
-- Bets On A Frozen Account
------------------------------------------------------------

/- The reply of a call that dispatched nothing. -/
def refused : Reply → Bool
| .denied _ => true
| .duplicate _ _ _ => true
| .dispatched _ => false

/-
  When the turn is a bet or cash-out that names the account,
  it is refused and hands nothing over.
-/
def DeniesNamed
    (account : String)
    (s : System)
    (event : SystemEvent) : Prop :=
  ∀ command hExternal,
    event.input = .boundary ⟨.command command, hExternal⟩ →
      account ∈ effectiveTargets (.command command) →
        refused
            (s.boundary.manager.execute
              (s.boundary.env
                (s.boundaryEvent event.surroundings
                  event.elapsed (.command command)))
              command).2 = true ∧
          handed s.boundary.manager
            (s.entered event).boundary.manager = []

theorem refused_of_duplicateReply
    {record : LedgerRecord TacticalPayload OperationResult}
    {forceRetry : Bool}
    {reply : Reply}
    (hReply : duplicateReply record forceRetry = some reply) :
    refused reply = true := by
  unfold duplicateReply at hReply
  split at hReply
  · rw [← Option.some.inj hReply]
    rfl
  · rw [← Option.some.inj hReply]
    rfl
  · rw [← Option.some.inj hReply]
    rfl
  · split at hReply
    · cases hReply
    · rw [← Option.some.inj hReply]
      rfl

/- A refusal is a denial or the answer to a duplicate. -/
theorem refused_of_refusal
    {env : Env}
    {m : ExecutionBoundaryManager}
    {payload : TacticalPayload}
    {gate : Option Denial}
    {reply : Reply}
    (hReply : m.refusal env payload gate = some reply) :
    refused reply = true := by
  unfold refusal at hReply
  split at hReply
  · rw [← Option.some.inj hReply]
    rfl
  · split at hReply
    · rw [← Option.some.inj hReply]
      rfl
    · split at hReply
      · rename_i duplicate hDuplicate
        rcases Option.bind_eq_some_iff.mp hDuplicate with
          ⟨record, _, hRecord⟩
        rw [← Option.some.inj hReply]
        exact refused_of_duplicateReply hRecord
      · rcases Option.map_eq_some_iff.mp hReply with
          ⟨denial, _, hDenial⟩
        rw [← hDenial]
        rfl

/- A gate that denies keeps everything from the transport. -/
theorem dispatchFinancial_refused
    {env : Env}
    {m : ExecutionBoundaryManager}
    {type : ExecutionMessageType}
    {payload payloadWithOp : TacticalPayload}
    {accountId : Option String}
    {targetAccounts : List String}
    {gate : Option Denial}
    {options : DispatchOptions}
    (hGate : gate ≠ none) :
    refused
        (m.dispatchFinancial env type payload payloadWithOp
          accountId targetAccounts gate options).2 = true ∧
      handed m
        (m.dispatchFinancial env type payload payloadWithOp
          accountId targetAccounts gate options).1 = [] := by
  unfold dispatchFinancial
  cases hRefusal : m.refusal env payload gate with
  | none =>
      rcases refusal_eq_none hRefusal with ⟨_, _, hNone, _⟩
      exact absurd hNone hGate
  | some reply =>
      exact ⟨refused_of_refusal hRefusal,
        handed_of_sent_eq (m.withChecked_sent env payload)⟩

/- A bet or cash-out that names a frozen account. -/
theorem execute_refused
    {env : Env}
    {m : ExecutionBoundaryManager}
    {account : String}
    {command : Command}
    (hFrozen : m.isAccountFrozen account = true)
    (hNamed : account ∈ effectiveTargets (.command command)) :
    refused (m.execute env command).2 = true ∧
      handed m (m.execute env command).1 = [] := by
  cases command with
  | placeBet payload options =>
      apply dispatchFinancial_refused
      intro hGate
      have hOpen := betGate_of_frozen hGate
      rw [List.any_eq_false] at hOpen
      exact hOpen account hNamed hFrozen
  | cashOut payload options =>
      apply dispatchFinancial_refused
      intro hGate
      have hOpen := cashOutGate_of_frozen hGate
      rw [List.any_eq_false] at hOpen
      exact hOpen account hNamed hFrozen
  | _ => cases hNamed

theorem deniesNamed_of_frozen
    {account : String}
    (s : System)
    (event : SystemEvent)
    (hFrozen : s.isAccountFrozen account = true) :
    DeniesNamed account s event := by
  intro command hExternal hInput hNamed
  unfold entered
  rw [hInput]
  exact execute_refused hFrozen hNamed

------------------------------------------------------------
-- Containment
------------------------------------------------------------

/- The accounts that a reply reports as frozen. -/
def reportedFrozen
    (s : System)
    (event : SystemEvent) : List String :=
  match (s.respond event).2 with
  | some .emergencyStopped | some .cancelled =>
      (s.step event).workspace.protectedAccounts.map
        WorkspaceAccount.id
  | some (.frozen account) => [account]
  | _ => []

/-
  What a reply reports: from its turn on, the account is
  frozen, and bets and cash-outs that name it are denied.
-/
def StaysContained
    (account : String)
    (s : System)
    (later : List SystemEvent) : Prop :=
  Throughout step
      (fun state => state.isAccountFrozen account = true)
      s later ∧
    Along step (DeniesNamed account) s later

/- A turn that reports frozen accounts freezes nothing. -/
theorem boundary_of_reportedFrozen
    {s : System}
    {event : SystemEvent}
    {account : String}
    (hReported : account ∈ s.reportedFrozen event) :
    (s.step event).boundary = s.boundary := by
  unfold reportedFrozen at hReported
  cases hReply : (s.respond event).2 with
  | none =>
      rw [hReply] at hReported
      cases hReported
  | some reply =>
      rw [hReply] at hReported
      unfold step
      cases respond_completes hReply with
      | emergencyStopped answers hInput hHolder =>
          unfold respond
          rw [hInput]
          dsimp only
          unfold resume
          rw [hHolder]
          dsimp only
          unfold emergencyEnd finish standBy
          dsimp only
          rw [freezeSnapshot_eq]
          cases answers.maxCapacity with
          | none => rfl
          | some capacity => rfl
      | cancelled maxCapacity hInput =>
          unfold respond
          rw [hInput]
          dsimp only
          rw [freezeSnapshot_eq]
          cases maxCapacity with
          | none => rfl
          | some capacity => rfl
      | _ => cases hReported

/-
  An account that a command reports as frozen is contained
  along a run exactly when it was frozen before the command
  reported and no turn of the run resolves an operation that
  names it.
-/
theorem contained_iff
    (s : System)
    (event : SystemEvent)
    {account : String}
    (hReported : account ∈ s.reportedFrozen event)
    (later : List SystemEvent) :
    StaysContained account (s.step event) later ↔
      s.isAccountFrozen account = true ∧
        Along step (SparesAccount account) (s.step event)
          later := by
  have hSame :
      (s.step event).isAccountFrozen account =
        s.isAccountFrozen account := by
    unfold isAccountFrozen
    rw [boundary_of_reportedFrozen hReported]
  constructor
  · rintro ⟨hThroughout, _⟩
    have hAfter :
        (s.step event).isAccountFrozen account = true :=
      hThroughout [] later rfl
    refine ⟨hSame.symm.trans hAfter, ?_⟩
    exact (throughout_iff_along isAccountFrozen_turn_iff
      later hAfter).mp hThroughout
  · rintro ⟨hBefore, hSpares⟩
    have hAfter :
        (s.step event).isAccountFrozen account = true :=
      hSame.trans hBefore
    have hKept :
        ∀ (state : System) (turn : SystemEvent),
          state.isAccountFrozen account = true →
            SparesAccount account state turn →
              (state.step turn).isAccountFrozen account =
                true :=
      fun state turn hState =>
        (isAccountFrozen_turn_iff state turn hState).mpr
    constructor
    · exact (throughout_iff_along isAccountFrozen_turn_iff
        later hAfter).mpr hSpares
    · exact Along.of_invariant hKept
        (fun state turn hState _ =>
          deniesNamed_of_frozen state turn hState)
        hAfter hSpares

/- One staged account, whose bet is uncertain or not. -/
def staged (results : List SystemEvent) : System :=
  run step loggedIn
    (clientConnected ::
      turn (.workspace (.stageAccount "acc_1")) :: results)

/- An uncertain result that freezes `acc_1`. -/
def uncertainResult : SystemEvent :=
  turn (.boundary ⟨Input.result
    { operationId := some "op_0"
      status := some .UNCERTAIN
      accountId := some "acc_1" }, rfl⟩)

/- A bet on `acc_1`. -/
def betOnStaged : SystemEvent :=
  turn (.boundary ⟨Input.bet "k1" false, rfl⟩)

/- The cancellation of all bets. -/
def cancellation : SystemEvent :=
  turn (.cancelAllBets (some 2))

/- An account that was frozen before stays contained. -/
theorem frozen_account_contained :
    StaysContained "acc_1"
      ((staged [uncertainResult]).step cancellation)
      [betOnStaged] := by
  apply (contained_iff (staged [uncertainResult])
    cancellation (by decide) [betOnStaged]).mpr
  exact ⟨by decide, trivial, trivial⟩

/-
  All bets are reported as cancelled and the staged account
  as frozen, but it is not, and a later bet on it is handed
  to the transport.
-/
theorem cancelled_account_not_contained :
    ((staged []).respond cancellation).2 =
        some .cancelled ∧
      "acc_1" ∈ (staged []).reportedFrozen cancellation ∧
        ¬ StaysContained "acc_1"
          ((staged []).step cancellation) [betOnStaged] := by
  refine ⟨by decide, by decide, ?_⟩
  rintro ⟨_, hDenies, _⟩
  have hRefused := hDenies _ rfl rfl (by decide)
  revert hRefused
  decide

end System

end ControlPlane
