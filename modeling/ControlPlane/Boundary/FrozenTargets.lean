import ControlPlane.Boundary.Events

/-
  Bets and cash-outs on frozen accounts.

  An account has an id and a user name, a freeze may be kept
  under either, and a command may address an account by its
  target list, by its account field, or by an empty target
  list that addresses the whole fleet. The gate looks each
  entry of the effective target list up among the freezes as
  it stands, so it sees a frozen account exactly when the
  list holds an identifier that is itself frozen.

  Main declarations:
    * `Account.frozenIn` and `Frame.addresses`
    * `ExecutionBoundaryManager.gateSees`
    * `Boundary.frozen_account_not_addressed`
-/

------------------------------------------------------------
-- Addressed Accounts
------------------------------------------------------------

namespace ControlPlane

namespace Account

/- The text is the id or the user name of the account. -/
def named
    (account : Account)
    (text : String) : Bool :=
  text == account.id || text == account.accountUsername

/- The account is frozen under its id or its user name. -/
def frozenIn
    (account : Account)
    (m : ExecutionBoundaryManager) : Bool :=
  m.isAccountFrozen account.id ||
    m.isAccountFrozen account.accountUsername

end Account

namespace TacticalPayload

/-
  A bet addresses an account that its targets or its account
  field name; an empty target list addresses every account.
-/
def betAddresses
    (payload : TacticalPayload)
    (targets : List String)
    (account : Account) : Bool :=
  targets.isEmpty || targets.any account.named ||
    payload.accountId.any account.named

/- A cash-out addresses the account one of its fields names. -/
def cashOutAddresses
    (payload : TacticalPayload)
    (target : Option String)
    (account : Account) : Bool :=
  target.any account.named ||
    payload.targetAccount.any account.named

end TacticalPayload

/- The Execution Plane would execute the envelope on it. -/
def Frame.addresses
    (frame : Frame)
    (account : Account) : Bool :=
  frame.financialPayload.any
    (fun payload =>
      if frame.type = .PLACE_BET then
        payload.betAddresses
          (payload.targetAccounts.getD []) account
      else
        payload.cashOutAddresses payload.accountId account)

namespace ExecutionBoundaryManager

/- The input addresses the account. -/
def addresses
    (account : Account) : Input → Bool
| .command (.placeBet payload _) =>
    payload.betAddresses (betTargets payload) account
| .command (.cashOut payload _) =>
    payload.cashOutAddresses (cashOutTarget payload) account
| _ => false

/- The effective targets of an input. -/
def effectiveTargets : Input → List String
| .command (.placeBet payload _) => betTargets payload
| .command (.cashOut payload _) => cashOutTargets payload
| _ => []

/- An effective target of the input is itself frozen. -/
def gateSees
    (m : ExecutionBoundaryManager)
    (input : Input) : Bool :=
  (effectiveTargets input).any m.isAccountFrozen

------------------------------------------------------------
-- The Gate
------------------------------------------------------------

/- What an admitted bet or cash-out hands over. -/
theorem dispatchFinancial_handed
    {env : Env}
    {m : ExecutionBoundaryManager}
    {type : ExecutionMessageType}
    {payload payloadWithOp : TacticalPayload}
    {accountId : Option String}
    {targetAccounts : List String}
    {gate : Option Denial}
    {options : DispatchOptions}
    {frame : Frame}
    (hFrame :
      frame ∈ handed m
        (m.dispatchFinancial env type payload payloadWithOp
          accountId targetAccounts gate options).1) :
    m.refusal env payload gate = none ∧
      frame.type = type ∧
        frame.payload = .tactical payloadWithOp := by
  unfold dispatchFinancial at hFrame
  cases hRefusal : m.refusal env payload gate with
  | some reply =>
      rw [hRefusal] at hFrame
      rw [handed_of_sent_eq
        (m.withChecked_sent env payload)] at hFrame
      cases hFrame
  | none =>
      rw [hRefusal] at hFrame
      have hDispatched :=
        dispatchEnvelope_dispatched env
          ((m.withChecked env payload).recordDispatch env
            payload payloadWithOp accountId targetAccounts)
          type (.tactical payloadWithOp) options
      have hBase :
          frame ∈ handed
            ((m.withChecked env payload).recordDispatch env
              payload payloadWithOp accountId targetAccounts)
            (dispatchEnvelope env
              ((m.withChecked env payload).recordDispatch env
                payload payloadWithOp accountId
                targetAccounts)
              type (.tactical payloadWithOp) options).1 := by
        unfold handed at hFrame ⊢
        have hSent :=
          m.withChecked_sent env payload
        unfold recordDispatch at hFrame ⊢
        dsimp only at hFrame ⊢
        rw [hSent]
        exact hFrame
      exact ⟨rfl, hDispatched.of_mem_handed hBase⟩

/- The gate of a bet denies a frozen target. -/
theorem betGate_of_frozen
    {env : Env}
    {m : ExecutionBoundaryManager}
    {payload : TacticalPayload}
    (hGate : m.betGate env payload = none) :
    (betTargets payload).any m.isAccountFrozen = false := by
  unfold betGate frozenTarget at hGate
  cases hFound :
      (betTargets payload).find? m.isAccountFrozen with
  | some account => simp [hFound] at hGate
  | none =>
      rw [List.find?_eq_none] at hFound
      rw [List.any_eq_false]
      exact hFound

/- The gate of a cash-out denies a frozen target. -/
theorem cashOutGate_of_frozen
    {m : ExecutionBoundaryManager}
    {payload : TacticalPayload}
    (hGate : m.cashOutGate payload = none) :
    (cashOutTargets payload).any m.isAccountFrozen =
      false := by
  unfold cashOutGate frozenTarget at hGate
  rw [Option.map_eq_none_iff, List.find?_eq_none] at hGate
  rw [List.any_eq_false]
  exact hGate

end ExecutionBoundaryManager

namespace Boundary

open ExecutionBoundaryManager

/-
  When the event addresses the account while it is frozen,
  one of its effective targets is itself frozen.
-/
def GateSeesFrozen
    (account : Account)
    (b : Boundary)
    (event : Event) : Prop :=
  account.frozenIn b.manager = true →
    addresses account event.input = true →
      b.manager.gateSees event.input = true

/-
  While the account is frozen the event hands no envelope
  over that addresses it.
-/
def SparesFrozen
    (account : Account)
    (b : Boundary)
    (event : Event) : Prop :=
  account.frozenIn b.manager = true →
    ∀ frame ∈ handed b.manager (step b event).manager,
      frame.addresses account = false

/- An event that stores no bet addresses no account. -/
theorem addresses_of_not_stored
    {account : Account}
    {b : Boundary}
    {event : Event}
    {frame : Frame}
    (hStored :
      b.manager.storedPayload (b.env event) event.input =
        none)
    (hFrame :
      frame ∈ handed b.manager (step b event).manager) :
    frame.addresses account = false := by
  unfold Frame.addresses
  rcases react_ledgerEffect (b.env event) b.manager
      event.input with
    ⟨_, hHanded⟩ | ⟨_, _, hHanded⟩ |
    ⟨payload, _, hSome, _, _, _, _⟩ |
    ⟨_, _, _, _, _, hHanded⟩
  · rw [hHanded frame hFrame]
    rfl
  · unfold step at hFrame
    rw [hHanded] at hFrame
    cases hFrame
  · rw [hStored] at hSome
    cases hSome
  · unfold step at hFrame
    rw [hHanded] at hFrame
    cases hFrame

theorem placeBet_spares
    {account : Account}
    {env : Env}
    {m : ExecutionBoundaryManager}
    {payload : TacticalPayload}
    {options : DispatchOptions}
    {frame : Frame}
    (hSees :
      payload.betAddresses (betTargets payload) account =
          true →
        (betTargets payload).any m.isAccountFrozen = true)
    (hFrame :
      frame ∈ handed m
        (m.placeBet env payload options).1) :
    frame.addresses account = false := by
  rcases dispatchFinancial_handed hFrame with
    ⟨hAdmitted, hType, hPayload⟩
  rcases refusal_eq_none hAdmitted with ⟨_, _, hGate, _⟩
  have hUnseen := betGate_of_frozen hGate
  have hAddresses :
      frame.addresses account =
        payload.betAddresses (betTargets payload)
          account := by
    unfold Frame.addresses Frame.financialPayload
    rw [hPayload, hType]
    rfl
  rw [hAddresses, Bool.eq_false_iff]
  intro hAddressed
  have hSeen := hSees hAddressed
  rw [hUnseen] at hSeen
  cases hSeen

theorem cashOut_spares
    {account : Account}
    {env : Env}
    {m : ExecutionBoundaryManager}
    {payload : TacticalPayload}
    {options : DispatchOptions}
    {frame : Frame}
    (hSees :
      payload.cashOutAddresses (cashOutTarget payload)
          account = true →
        (cashOutTargets payload).any m.isAccountFrozen =
          true)
    (hFrame :
      frame ∈ handed m
        (m.cashOut env payload options).1) :
    frame.addresses account = false := by
  rcases dispatchFinancial_handed hFrame with
    ⟨hAdmitted, hType, hPayload⟩
  rcases refusal_eq_none hAdmitted with ⟨_, _, hGate, _⟩
  have hUnseen := cashOutGate_of_frozen hGate
  have hAddresses :
      frame.addresses account =
        payload.cashOutAddresses (cashOutTarget payload)
          account := by
    unfold Frame.addresses Frame.financialPayload
    rw [hPayload, hType]
    rfl
  rw [hAddresses, Bool.eq_false_iff]
  intro hAddressed
  have hSeen := hSees hAddressed
  rw [hUnseen] at hSeen
  cases hSeen

/- What one event hands over of a frozen account. -/
theorem sparesFrozen_step
    (account : Account)
    (b : Boundary)
    (event : Event)
    (hSees : GateSeesFrozen account b event) :
    SparesFrozen account b event := by
  intro hFrozen frame hFrame
  have hGate := hSees hFrozen
  have hReact := hFrame
  unfold step at hReact
  cases hInput : event.input with
  | command command =>
      rw [hInput] at hGate hReact
      cases command with
      | placeBet payload options =>
          exact placeBet_spares hGate hReact
      | cashOut payload options =>
          exact cashOut_spares hGate hReact
      | _ =>
          apply addresses_of_not_stored _ hFrame
          rw [hInput]
          rfl
  | _ =>
      apply addresses_of_not_stored _ hFrame
      rw [hInput]
      rfl

/-
  Along a run whose gates see the account whenever it is
  addressed while frozen, nothing that addresses the account
  is handed over while it is frozen.
-/
theorem frozen_account_not_addressed
    (account : Account)
    (b : Boundary)
    (events : List Event)
    (hSees :
      Along step (GateSeesFrozen account) b events) :
    Along step (SparesFrozen account) b events :=
  hSees.mono (sparesFrozen_step account)

/- An account whose bet of `k1` is uncertain. -/
def accountOne : Account where
  id := "acc_1"
  accountUsername := "player_one"

/- `acc_1` is frozen by an uncertain result. -/
def frozenAccountOne : Boundary :=
  step (connected 10)
    (Input.result
      { operationId := some "op_k1"
        status := some .UNCERTAIN
        idempotencyKey := some "k1"
        accountId := some "acc_1" }).next

/- A bet on the frozen id is not handed over. -/
theorem bet_on_frozen_id_spared :
    Along step (SparesFrozen accountOne) frozenAccountOne
      [(Input.bet "k2" false).next] := by
  apply frozen_account_not_addressed accountOne
    frozenAccountOne [(Input.bet "k2" false).next]
  refine ⟨?_, trivial⟩
  intro _ _
  decide

/- A bet on the whole fleet. -/
def fleetBet : Event :=
  (Input.command (.placeBet
    { idempotencyKey := some "k2"
      operationId := some "op_k2" } {})).next

/-
  While `acc_1` is frozen a bet without targets is handed
  over, although it addresses the whole fleet.
-/
theorem fleet_bet_reaches_frozen_account :
    accountOne.frozenIn frozenAccountOne.manager = true ∧
      ∃ frame ∈ handed frozenAccountOne.manager
          (step frozenAccountOne fleetBet).manager,
        frame.addresses accountOne = true := by
  refine ⟨by decide, by decide⟩

end Boundary

end ControlPlane
