import ControlPlane.Boundary.Idempotency

/-
  Dispatches that reach nobody.

  A bet or cash-out is recorded in the ledger and among the
  operations in flight before it is sent. A call that is
  refused records nothing, so it leaves no trace; a send
  that finds no connection leaves the operation in flight.

  Main declarations:
    * `Unsent`, `Delivers` and `NoTrace`
    * `dispatchFinancial_noTrace_iff`
    * `unsent_leaves_no_trace_iff`
-/

------------------------------------------------------------
-- Answers Of The Ledger
------------------------------------------------------------

namespace ControlPlane

namespace IdempotencyLedger

variable {μ ρ : Type}

/- An expired record stays expired. -/
theorem expired_mono
    (ledger : IdempotencyLedger μ ρ)
    {now later : Nat}
    (hLe : now ≤ later)
    (record : LedgerRecord μ ρ)
    (hExpired : ledger.expired now record = true) :
    ledger.expired later record = true := by
  unfold expired at *
  rw [decide_eq_true_eq] at *
  omega

theorem expired_check
    (ledger : IdempotencyLedger μ ρ)
    (now later : Nat)
    (key : String) :
    (ledger.check now key).1.expired later =
      ledger.expired later := by
  unfold expired
  rw [check_maxAgeMs]

/- A checked key keeps its record while it is live. -/
theorem get?_check_self
    (ledger : IdempotencyLedger μ ρ)
    (now : Nat)
    {key : String}
    (hKey : key ≠ "") :
    (ledger.check now key).1.get? key =
      (ledger.get? key).filter
        (fun record => !ledger.expired now record) := by
  unfold check get?
  rw [if_neg hKey]
  cases hRecord : ledger.records.get? key with
  | none =>
      simp only [Option.filter]
      exact hRecord
  | some record =>
      cases hExpired : ledger.expired now record with
      | true => simp [hExpired, Option.filter]
      | false => simp [hExpired, Option.filter]

/- A check does not change what a later one answers. -/
theorem check_check
    (ledger : IdempotencyLedger μ ρ)
    {now later : Nat}
    (hLe : now ≤ later)
    {key : String}
    (hKey : key ≠ "") :
    ((ledger.check now key).1.check later key).2 =
      (ledger.check later key).2 := by
  rw [check_answer _ _ hKey, check_answer _ _ hKey,
    get?_check_self _ _ hKey, expired_check]
  cases ledger.get? key with
  | none => rfl
  | some record =>
      have hMono := ledger.expired_mono hLe record
      cases hExpired : ledger.expired now record with
      | true =>
          simp [Option.filter, hExpired, hMono hExpired]
      | false => simp [Option.filter, hExpired]

/- A key that was just recorded is answered in flight. -/
theorem check_recordInFlight
    (ledger : IdempotencyLedger μ ρ)
    (now : Nat)
    {key : String}
    (hKey : key ≠ "")
    (operationId : String)
    (metadata : μ) :
    ((ledger.recordInFlight now key operationId
        metadata).check now key).2 =
      some (inFlightRecord now key operationId
        metadata) := by
  rw [check_answer _ _ hKey, get?_recordInFlight_self]
  simp [Option.filter, expired, inFlightRecord]

end IdempotencyLedger

------------------------------------------------------------
-- Calls That Reach Nobody
------------------------------------------------------------

namespace ExecutionBoundaryManager

/- Every connection was tried and none took the write. -/
def wroteToNone
    (env : Env)
    (transport : PipeTransport) : Prop :=
  PipeTransport.writeAll env.native
    transport.activeConnections = (0, true)

/-
  The call threw, returned false, or its promise was
  rejected for want of a connection.
-/
def Unsent
    (env : Env)
    (transport : PipeTransport) : Reply → Prop
| .denied _ => True
| .duplicate _ _ _ => False
| .dispatched (.sent accepted) => accepted = false
| .dispatched (.awaiting _) => False
| .dispatched .rejected => wroteToNone env transport
| .dispatched .threw => True

/-
  The server runs or can be started, and the send finds a
  connection. A send that waits for an answer turns a write
  that throws into another rejection.
-/
def Delivers
    (env : Env)
    (transport : PipeTransport)
    (options : DispatchOptions) : Prop :=
  (transport.isListening = true ∨
      env.native.listens = true) ∧
    (if options.waitForAck then
      ¬ wroteToNone env transport
    else
      (PipeTransport.writeAll env.native
          transport.activeConnections).2 = true ∧
        0 < (PipeTransport.writeAll env.native
          transport.activeConnections).1)

/-
  A call that reached nobody leaves the answer for its key,
  now and later, and the operations in flight as they were.
-/
def NoTrace
    (env : Env)
    (m : ExecutionBoundaryManager)
    (key : String)
    (done : ExecutionBoundaryManager × Reply) : Prop :=
  Unsent env m.transport done.2 →
    (∀ later, env.now ≤ later →
      (done.1.idempotency.check later key).2 =
        (m.idempotency.check later key).2) ∧
      done.1.inFlightOperations = m.inFlightOperations

theorem startServer_eq_none_iff
    (env : Env)
    (m : ExecutionBoundaryManager) :
    m.startServer env = none ↔
      m.transport.isListening = false ∧
        env.native.listens = false := by
  unfold startServer PipeTransport.startServer
  cases m.transport.isListening with
  | true => simp
  | false =>
      cases env.native.listens with
      | true => simp
      | false => simp

/- A dispatch reaches nobody unless it delivers. -/
theorem dispatchEnvelope_unsent_iff
    (env : Env)
    (m : ExecutionBoundaryManager)
    (type : ExecutionMessageType)
    (payload : Payload)
    (options : DispatchOptions) :
    Unsent env m.transport
        (.dispatched
          (m.dispatchEnvelope env type payload options).2) ↔
      ¬ Delivers env m.transport options := by
  have hNone := startServer_eq_none_iff env m
  unfold dispatchEnvelope Delivers
  cases hStart : m.startServer env with
  | none =>
      rcases hNone.mp hStart with ⟨hListening, hListens⟩
      simp [Unsent, hListening, hListens]
  | some started =>
      have hServes :
          m.transport.isListening = true ∨
            env.native.listens = true := by
        by_contra hNot
        simp only [not_or, Bool.not_eq_true] at hNot
        rw [hNone.mpr hNot] at hStart
        cases hStart
      rcases startServer_eq_some hStart with
        ⟨transport, hTransport, rfl⟩
      have hConnections :=
        PipeTransport.startServer_activeConnections
          hTransport
      simp only [hServes, true_and]
      unfold PipeTransport.broadcast wroteToNone
      rw [hConnections]
      rcases hWritten :
        PipeTransport.writeAll env.native
          m.transport.activeConnections with
        ⟨count, complete⟩
      cases options.waitForAck with
      | true =>
          cases complete with
          | false => simp [Unsent, wroteToNone, hWritten]
          | true =>
              cases count with
              | zero => simp [Unsent, wroteToNone, hWritten]
              | succ count => simp [Unsent]
      | false =>
          cases complete with
          | false => simp [Unsent]
          | true => simp [Unsent]

------------------------------------------------------------
-- Traces Of A Call
------------------------------------------------------------

/- The duplicate check leaves no trace. -/
theorem withChecked_noTrace
    (env : Env)
    (m : ExecutionBoundaryManager)
    (payload : TacticalPayload)
    (reply : Reply) :
    NoTrace env m (idempotencyKeyOf env payload)
      (m.withChecked env payload, reply) := by
  intro _
  unfold withChecked
  split
  · exact ⟨fun _ _ => rfl, rfl⟩
  · refine ⟨?_, rfl⟩
    intro later hLe
    exact m.idempotency.check_check hLe
      (Boundary.idempotencyKeyOf_ne_empty env payload)

/- A bet or cash-out that is refused records nothing. -/
def Refused
    (env : Env)
    (m : ExecutionBoundaryManager)
    (payload : TacticalPayload)
    (gate : Option Denial) : Prop :=
  (m.refusal env payload gate).isSome = true

/-
  A call leaves no trace of reaching nobody exactly when it
  is refused or delivers: what it records before the send
  stays when the send fails.
-/
theorem dispatchFinancial_noTrace_iff
    (env : Env)
    (m : ExecutionBoundaryManager)
    (type : ExecutionMessageType)
    (payload payloadWithOp : TacticalPayload)
    (accountId : Option String)
    (targetAccounts : List String)
    (gate : Option Denial)
    (options : DispatchOptions) :
    NoTrace env m (idempotencyKeyOf env payload)
        (m.dispatchFinancial env type payload payloadWithOp
          accountId targetAccounts gate options) ↔
      Refused env m payload gate ∨
        Delivers env m.transport options := by
  have hKey := Boundary.idempotencyKeyOf_ne_empty env payload
  unfold Refused
  cases hRefusal : m.refusal env payload gate with
  | some reply =>
      have hDone :
          m.dispatchFinancial env type payload
              payloadWithOp accountId targetAccounts gate
              options =
            (m.withChecked env payload, reply) := by
        unfold dispatchFinancial
        rw [hRefusal]
      rw [hDone]
      simp only [Option.isSome_some, true_or, iff_true]
      exact withChecked_noTrace env m payload reply
  | none =>
      have hReply :
          Unsent env m.transport
              (m.dispatchFinancial env type payload
                payloadWithOp accountId targetAccounts gate
                options).2 ↔
            ¬ Delivers env m.transport options := by
        have hTransport :
            ((m.withChecked env payload).recordDispatch env
              payload payloadWithOp accountId
              targetAccounts).transport = m.transport := by
          unfold recordDispatch withChecked
          dsimp only
          split <;> rfl
        unfold dispatchFinancial
        rw [hRefusal, ← hTransport]
        exact dispatchEnvelope_unsent_iff env _ type
          (.tactical payloadWithOp) options
      have hLedger :
          (m.dispatchFinancial env type payload
              payloadWithOp accountId targetAccounts gate
              options).1.idempotency =
            (m.idempotency.check env.now
              (idempotencyKeyOf env payload)
              ).1.recordInFlight env.now
                (idempotencyKeyOf env payload)
                (operationIdOf env payload)
                payloadWithOp :=
        dispatchFinancial_idempotency env m type accountId
          targetAccounts options hRefusal
      simp only [Option.isSome_none, Bool.false_eq_true,
        false_or]
      constructor
      · intro hNoTrace
        by_contra hNot
        have hSame :=
          (hNoTrace (hReply.mpr hNot)).1 env.now
            (Nat.le_refl _)
        rw [hLedger,
          IdempotencyLedger.check_recordInFlight _ _ hKey]
          at hSame
        have hFailed :=
          (refusal_eq_none hRefusal).2.2.2 _ hSame.symm
        cases hFailed.1
      · intro hDelivers hUnsent
        exact absurd hDelivers (hReply.mp hUnsent)

/-
  Bets and cash-outs leave no trace of reaching nobody
  exactly when they are refused or deliver.
-/
theorem unsent_leaves_no_trace_iff
    (env : Env)
    (m : ExecutionBoundaryManager)
    (payload : TacticalPayload)
    (options : DispatchOptions) :
    (NoTrace env m (idempotencyKeyOf env payload)
        (m.placeBet env payload options) ↔
      Refused env m payload (m.betGate env payload) ∨
        Delivers env m.transport options) ∧
    (NoTrace env m (idempotencyKeyOf env payload)
        (m.cashOut env payload options) ↔
      Refused env m payload (m.cashOutGate payload) ∨
        Delivers env m.transport options) :=
  ⟨dispatchFinancial_noTrace_iff env m .PLACE_BET payload
      _ _ _ _ options,
    dispatchFinancial_noTrace_iff env m .CASH_OUT payload
      _ _ _ _ options⟩

/- A turn of a healthy system. -/
def healthyEnv : Env where
  toSurroundings := Surroundings.healthy
  now := 2

/- A bet on one account. -/
def loneBet : TacticalPayload :=
  { idempotencyKey := some "k1"
    operationId := some "op_k1"
    targetAccounts := some ["acc_1"] }

/- The bet placed while no client is connected. -/
def betUnsent : ExecutionBoundaryManager × Reply :=
  (Boundary.fresh 10).manager.placeBet healthyEnv loneBet {}

/-
  A bet without a connection returns false and stays in
  flight: repeated with a connection it is a duplicate.
-/
theorem unsent_bet_blocks_retry :
    betUnsent.2 = .dispatched (.sent false) ∧
      ((betUnsent.1.handleClientConnected healthyEnv
        1).1.placeBet healthyEnv loneBet {}).2 =
        .duplicate .IN_FLIGHT none none ∧
      ¬ NoTrace healthyEnv (Boundary.fresh 10).manager
        (idempotencyKeyOf healthyEnv loneBet) betUnsent := by
  refine ⟨by decide +kernel, by decide +kernel, ?_⟩
  intro hNoTrace
  have hUnsent :
      Unsent healthyEnv (Boundary.fresh 10).manager.transport
        betUnsent.2 := by
    have hReply :
        betUnsent.2 = .dispatched (.sent false) := by
      decide +kernel
    rw [hReply]
    exact rfl
  have hFlights := (hNoTrace hUnsent).2
  have hBefore :
      (Boundary.fresh 10).manager.inFlightOperations.size =
        0 := by
    decide +kernel
  rw [← hFlights] at hBefore
  exact absurd hBefore (by decide +kernel)

end ExecutionBoundaryManager

end ControlPlane
