import ControlPlane.Boundary.Events

/-
  At-most-once financial dispatch.

  The ledger record of a key survives every event within its
  time-to-live, unless the capacity bound evicts it: it stays
  as it is, is stored again by a forced retry of a failed
  operation, or takes the outcome of a result. A key can
  therefore be handed to the transport again only after a
  failure was received and with a forced retry.

  A result overwrites the outcome of a record whatever it
  was, so a committed outcome is absorbing exactly as long
  as no later result settles the key differently.

  Main declarations:
    * `Boundary.Hands` and `Boundary.evictedBy`
    * `Boundary.record_step`
    * `Boundary.handed_again_after_failure`
    * `Boundary.committed_throughout_iff`
-/

------------------------------------------------------------
-- Records Along A Run
------------------------------------------------------------

namespace ControlPlane

namespace Boundary

open ExecutionBoundaryManager

/-
  The event hands an envelope over that bets or cashes out
  under the key.
-/
def Hands
    (key : String)
    (b : Boundary)
    (event : Event) : Prop :=
  ∃ frame ∈ handed b.manager (step b event).manager,
    frame.financialKey = some key

instance
    (key : String)
    (b : Boundary)
    (event : Event) : Decidable (Hands key b event) :=
  inferInstanceAs
    (Decidable (∃ frame ∈ _, Frame.financialKey frame = _))

/-
  The key the capacity bound evicts when the event stores a
  record of its own.
-/
def evictedBy
    (b : Boundary)
    (event : Event) : Option String :=
  (b.manager.storedPayload (b.env event) event.input).bind
    (fun payload =>
      ((b.ledger.check (b.env event).now
        (idempotencyKeyOf (b.env event) payload)).1.pruneExpired
          (b.env event).now).evictedKey)

/-
  The event is a result with status failed or aborted that
  carries the key or answers an operation in flight under
  the key.
-/
def ReceivesFailure
    (key : String)
    (b : Boundary)
    (event : Event) : Prop :=
  ∃ connId envelope result,
    event.input = .data connId (.envelope envelope) ∧
      envelope.payload = .operationResult result ∧
        result.isFailed = true ∧
          (b.manager.correlated result).idempotencyKey =
            some key

/- The effect of an event on the ledger. -/
theorem step_ledgerEffect
    (b : Boundary)
    (event : Event) :
    LedgerEffect (b.env event) b.manager
      (step b event).manager event.input :=
  react_ledgerEffect (b.env event) b.manager event.input

theorem step_maxAgeMs
    (b : Boundary)
    (event : Event) :
    (step b event).ledger.maxAgeMs = b.ledger.maxAgeMs := by
  unfold ledger
  rcases step_ledgerEffect b event with
    ⟨hLedger, _⟩ | ⟨key, hLedger, _⟩ |
    ⟨payload, payloadWithOp, _, _, _, hLedger, _⟩ |
    ⟨result, key, status, _, hLedger, _⟩
  · rw [hLedger]
  · rw [hLedger, IdempotencyLedger.check_maxAgeMs]
  · rw [hLedger, IdempotencyLedger.recordInFlight_maxAgeMs,
      IdempotencyLedger.check_maxAgeMs]
  · rw [hLedger, IdempotencyLedger.recordTerminal_maxAgeMs]

theorem run_maxAgeMs
    (b : Boundary)
    (events : List Event) :
    (run step b events).ledger.maxAgeMs =
      b.ledger.maxAgeMs := by
  induction events generalizing b with
  | nil => rfl
  | cons event events ih =>
      exact (ih (step b event)).trans (step_maxAgeMs b event)

/- A key handed over was stored by the same event. -/
theorem Hands.stored
    {key : String}
    {b : Boundary}
    {event : Event}
    (hHands : Hands key b event) :
    ∃ payload payloadWithOp,
      b.manager.storedPayload (b.env event) event.input =
          some payload ∧
        idempotencyKeyOf (b.env event) payload = key ∧
          (step b event).ledger.get? key =
            some (IdempotencyLedger.inFlightRecord
              (b.env event).now key
              (operationIdOf (b.env event) payload)
              payloadWithOp) := by
  rcases hHands with ⟨frame, hFrame, hFinancial⟩
  rcases Option.bind_eq_some_iff.mp hFinancial with
    ⟨carried, hCarried, hKey⟩
  rcases step_ledgerEffect b event with
    ⟨_, hHanded⟩ | ⟨_, _, hHanded⟩ |
    ⟨payload, payloadWithOp, hStored, hStoredKey, _,
      hLedger, hHanded⟩ |
    ⟨_, _, _, _, _, hHanded⟩
  · rw [hHanded frame hFrame] at hCarried
    cases hCarried
  · rw [hHanded] at hFrame
    cases hFrame
  · rw [hHanded frame hFrame] at hCarried
    have hSame : payloadWithOp = carried :=
      Option.some.inj hCarried
    have hKeys :
        idempotencyKeyOf (b.env event) payload = key := by
      rw [← hSame, hStoredKey] at hKey
      exact Option.some.inj hKey
    refine ⟨payload, payloadWithOp, hStored, hKeys, ?_⟩
    unfold ledger
    rw [hLedger, hKeys]
    exact IdempotencyLedger.get?_recordInFlight_self _ _ _ _ _
  · rw [hHanded] at hFrame
    cases hFrame

/- A default key is never empty. -/
theorem idempotencyKeyOf_ne_empty
    (env : Env)
    (payload : TacticalPayload) :
    idempotencyKeyOf env payload ≠ "" := by
  unfold idempotencyKeyOf presentOr
  have hDefault :
      ∀ text : String, "idem_" ++ text ≠ "" := by
    intro text hEmpty
    have hLength := congrArg String.length hEmpty
    rw [String.length_append] at hLength
    simp at hLength
  split
  · split
    · exact hDefault _
    · assumption
  · exact hDefault _

/-
  Storing a key that has a live record takes a failed record
  and a forced retry.
-/
theorem stored_over_live
    {env : Env}
    {m : ExecutionBoundaryManager}
    {input : Input}
    {payload : TacticalPayload}
    {record :
      LedgerRecord TacticalPayload OperationResult}
    (hStored : m.storedPayload env input = some payload)
    (hRecord :
      m.idempotency.get? (idempotencyKeyOf env payload) =
        some record)
    (hLive : m.idempotency.expired env.now record = false) :
    record.status = .FAILED ∧
      payload.forceRetry = true := by
  rcases storedPayload_eq_some hStored with
    ⟨gate, _, hAdmitted⟩
  rcases refusal_eq_none hAdmitted with
    ⟨_, _, _, hDuplicate⟩
  apply hDuplicate record
  rw [IdempotencyLedger.check_answer _ _
    (idempotencyKeyOf_ne_empty env payload), hRecord]
  simp [Option.filter, hLive]

/- What an event leaves under a key with a live record. -/
inductive RecordEffect
    (b : Boundary)
    (event : Event)
    (key : String)
    (record : LedgerRecord TacticalPayload OperationResult) :
    Prop
| unchanged
    (hNext :
      (step b event).ledger.get? key = some record)
| retried
    (payload payloadWithOp : TacticalPayload)
    (hFailed : record.status = .FAILED)
    (hNext :
      (step b event).ledger.get? key =
        some (IdempotencyLedger.inFlightRecord
          (b.env event).now key
          (operationIdOf (b.env event) payload)
          payloadWithOp))
| settled
    (result : OperationResult)
    (status : LedgerStatus)
    (hSettled :
      b.manager.settledResult event.input =
        some (result, key, status))
    (hNext :
      (step b event).ledger.get? key =
        some (b.ledger.terminalRecord (b.env event).now key
          status result result.operationId))

/-
  A live record that the capacity bound spares stays, is
  stored again by a forced retry, or takes an outcome.
-/
theorem record_step
    (b : Boundary)
    (event : Event)
    {key : String}
    {record :
      LedgerRecord TacticalPayload OperationResult}
    (hRecord : b.ledger.get? key = some record)
    (hLive :
      b.ledger.expired (b.env event).now record = false)
    (hSpared : evictedBy b event ≠ some key) :
    RecordEffect b event key record := by
  rcases step_ledgerEffect b event with
    ⟨hLedger, _⟩ | ⟨checked, hLedger, _⟩ |
    ⟨payload, payloadWithOp, hStored, _, _, hLedger, _⟩ |
    ⟨result, settled, status, hSettled, hLedger, _⟩
  · apply RecordEffect.unchanged
    unfold ledger at hRecord ⊢
    rw [hLedger]
    exact hRecord
  · apply RecordEffect.unchanged
    unfold ledger at hRecord hLive ⊢
    rw [hLedger]
    exact IdempotencyLedger.get?_check _ _ checked key
      hRecord hLive
  · have hEvicted : evictedBy b event = _ :=
      congrArg (fun p => Option.bind p _) hStored
    by_cases hKey :
        key = idempotencyKeyOf (b.env event) payload
    · subst hKey
      have hFailed :=
        (stored_over_live hStored hRecord hLive).1
      refine RecordEffect.retried payload payloadWithOp
        hFailed ?_
      unfold ledger
      rw [hLedger]
      exact IdempotencyLedger.get?_recordInFlight_self _ _
        _ _ _
    · apply RecordEffect.unchanged
      unfold ledger at hRecord hLive ⊢
      rw [hLedger]
      apply IdempotencyLedger.get?_recordInFlight_of_ne _ _
        _ _ hKey
      · exact IdempotencyLedger.get?_check _ _ _ key
          hRecord hLive
      · unfold IdempotencyLedger.expired at hLive ⊢
        rw [IdempotencyLedger.check_maxAgeMs]
        exact hLive
      · intro hVictim
        exact hSpared (hEvicted.trans hVictim)
  · by_cases hKey : key = settled
    · subst hKey
      apply RecordEffect.settled result status hSettled
      unfold ledger
      rw [hLedger, IdempotencyLedger.get?_recordTerminal,
        if_pos rfl]
    · apply RecordEffect.unchanged
      unfold ledger at hRecord ⊢
      rw [hLedger, IdempotencyLedger.get?_recordTerminal,
        if_neg hKey]
      exact hRecord

------------------------------------------------------------
-- At Most Once
------------------------------------------------------------

/-
  The key has a record that is not older than `since` and
  that is failed only if `failed` holds.
-/
def Tracks
    (key : String)
    (since : Nat)
    (failed : Prop)
    (b : Boundary) : Prop :=
  ∃ record,
    b.ledger.get? key = some record ∧
      since ≤ record.updatedAt ∧
        (record.status = .FAILED → failed)

/- Within the time-to-live of `since` a record is live. -/
theorem live_of_since
    {b : Boundary}
    {event : Event}
    {since : Nat}
    {record :
      LedgerRecord TacticalPayload OperationResult}
    (hSince : since ≤ record.updatedAt)
    (hWithin :
      (step b event).now - since ≤ b.ledger.maxAgeMs) :
    b.ledger.expired (b.env event).now record = false := by
  have hNow : (step b event).now = (b.env event).now := rfl
  unfold IdempotencyLedger.expired
  rw [decide_eq_false_iff_not]
  omega

/- A settled failure is a failure received for the key. -/
theorem receivesFailure_of_settled
    {b : Boundary}
    {event : Event}
    {result : OperationResult}
    {key : String}
    (hSettled :
      b.manager.settledResult event.input =
        some (result, key, .FAILED)) :
    ReceivesFailure key b event := by
  unfold settledResult at hSettled
  split at hSettled
  · rename_i connId envelope hInput
    split at hSettled
    · rename_i payload hPayload
      rcases Option.map_eq_some_iff.mp hSettled with
        ⟨settled, hSettles, hPair⟩
      rcases Prod.mk.inj hPair with ⟨rfl, rfl⟩
      refine ⟨connId, envelope, payload, hInput, hPayload,
        ?_⟩
      unfold settles at hSettles
      split at hSettles
      · rename_i found status hKey hStatus
        split at hSettles
        · cases hSettles
        · rcases Prod.mk.inj (Option.some.inj hSettles) with
            ⟨rfl, rfl⟩
          refine ⟨?_, hKey⟩
          unfold OperationResult.ledgerStatus at hStatus
          split at hStatus
          · cases hStatus
          · split at hStatus
            · cases hStatus
            · split at hStatus
              · assumption
              · cases hStatus
      · cases hSettles
    · cases hSettled
  · cases hSettled

/-
  The events of a stretch in which the key keeps being
  tracked: within the time-to-live, without an eviction of
  the key, and failing the key only if `failed` holds.
-/
def Tracking
    (key : String)
    (since : Nat)
    (failed : Prop)
    (b : Boundary)
    (event : Event) : Prop :=
  (step b event).now - since ≤ b.ledger.maxAgeMs ∧
    evictedBy b event ≠ some key ∧
      (ReceivesFailure key b event → failed)

theorem tracks_step
    {key : String}
    {since : Nat}
    {failed : Prop}
    (b : Boundary)
    (event : Event)
    (hTracks :
      since ≤ b.now ∧ Tracks key since failed b)
    (hTracking : Tracking key since failed b event) :
    since ≤ (step b event).now ∧
      Tracks key since failed (step b event) := by
  rcases hTracks with
    ⟨hNow, record, hRecord, hSince, hFailed⟩
  rcases hTracking with ⟨hWithin, hSpared, hReceives⟩
  have hLive := live_of_since hSince hWithin
  have hNext : since ≤ (step b event).now :=
    Nat.le_trans hNow (Nat.le_add_right _ _)
  refine ⟨hNext, ?_⟩
  rcases record_step b event hRecord hLive hSpared with
    hSame | ⟨payload, payloadWithOp, _, hStored⟩ |
    ⟨result, status, hSettled, hTerminal⟩
  · exact ⟨record, hSame, hSince, hFailed⟩
  · refine ⟨_, hStored, hNext, ?_⟩
    intro hStatus
    cases hStatus
  · refine ⟨_, hTerminal, ?_, ?_⟩
    · rw [IdempotencyLedger.terminalRecord_updatedAt]
      exact hNext
    · rw [IdempotencyLedger.terminalRecord_status]
      intro hStatus
      rw [hStatus] at hSettled
      exact hReceives (receivesFailure_of_settled hSettled)

/- A stretch of a run that receives a failure of the key. -/
def FailureReceived
    (key : String)
    (b : Boundary)
    (events : List Event) : Prop :=
  ∃ past event future,
    events = past ++ event :: future ∧
      ReceivesFailure key (run step b past) event

/- The event is a bet or cash-out with a forced retry. -/
def ForcesRetry (event : Event) : Prop :=
  ∃ payload options,
    (event.input = .command (.placeBet payload options) ∨
      event.input = .command (.cashOut payload options)) ∧
      payload.forceRetry = true

theorem forcesRetry_of_stored
    {b : Boundary}
    {event : Event}
    {payload : TacticalPayload}
    (hStored :
      b.manager.storedPayload (b.env event) event.input =
        some payload)
    (hRetry : payload.forceRetry = true) :
    ForcesRetry event := by
  rcases storedPayload_eq_some hStored with
    ⟨gate, hCall, _⟩
  unfold financialCall at hCall
  split at hCall
  · rename_i called options hInput
    rcases Prod.mk.inj (Option.some.inj hCall) with ⟨rfl, _⟩
    exact ⟨called, options, Or.inl hInput, hRetry⟩
  · rename_i called options hInput
    rcases Prod.mk.inj (Option.some.inj hCall) with ⟨rfl, _⟩
    exact ⟨called, options, Or.inr hInput, hRetry⟩
  · cases hCall

/- The key is tracked along a stretch that spares it. -/
theorem tracks_run
    {key : String}
    {b : Boundary}
    (between : List Event)
    (hTracks : Tracks key b.now False b)
    (hWithin :
      (run step b between).now - b.now ≤ b.ledger.maxAgeMs)
    (hSpared :
      Along step
        (fun state event => evictedBy state event ≠ some key)
        b between) :
    Tracks key b.now (FailureReceived key b between)
      (run step b between) := by
  have hStart :
      Tracks key b.now (FailureReceived key b between) b := by
    rcases hTracks with ⟨record, hRecord, hSince, hFailed⟩
    exact ⟨record, hRecord, hSince,
      fun hStatus => (hFailed hStatus).elim⟩
  have hTracking :
      Along step
        (Tracking key b.now
          (FailureReceived key b between)) b between := by
    rw [along_iff]
    intro past event future hBetween
    refine ⟨?_, ?_, ?_⟩
    · have hLater :
          (step (run step b past) event).now ≤
            (run step b between).now := by
        rw [hBetween, run_append, run_cons]
        exact now_le_run _ future
      rw [run_maxAgeMs]
      omega
    · exact (along_iff _ _ _ _).mp hSpared past event future
        hBetween
    · intro hReceives
      exact ⟨past, event, future, hBetween, hReceives⟩
  exact (run_invariant tracks_step
    ⟨Nat.le_refl _, hStart⟩ hTracking).2

/-
  A key handed to the transport is handed over again within
  the time-to-live only after a failure of the key and with
  a forced retry, unless the capacity bound evicts the key
  in between.
-/
theorem handed_again_after_failure
    (b : Boundary)
    (first second : Event)
    (between : List Event)
    (key : String)
    (hFirst : Hands key b first)
    (hSecond :
      Hands key (run step (step b first) between) second)
    (hWithin :
      (step (run step (step b first) between) second).now -
        (step b first).now ≤ b.ledger.maxAgeMs)
    (hSpared :
      Along step
        (fun state event => evictedBy state event ≠ some key)
        (step b first) between) :
    FailureReceived key (step b first) between ∧
      ForcesRetry second := by
  have hAge :
      (step b first).ledger.maxAgeMs = b.ledger.maxAgeMs :=
    step_maxAgeMs b first
  have hClock :
      (run step (step b first) between).now ≤
        (step (run step (step b first) between)
          second).now :=
    Nat.le_add_right _ _
  have hTracks :
      Tracks key (step b first).now False (step b first) := by
    rcases hFirst.stored with
      ⟨payload, payloadWithOp, _, _, hRecord⟩
    refine ⟨_, hRecord, Nat.le_refl _, ?_⟩
    intro hStatus
    cases hStatus
  rcases tracks_run between hTracks (by omega) hSpared with
    ⟨record, hRecord, hSince, hFailed⟩
  rcases hSecond.stored with
    ⟨payload, _, hStored, hKey, _⟩
  have hLive :
      (run step (step b first) between).ledger.expired
          ((run step (step b first) between).env second).now
          record = false := by
    apply live_of_since hSince
    rw [run_maxAgeMs, hAge]
    exact hWithin
  rw [← hKey] at hRecord
  rcases stored_over_live hStored hRecord hLive with
    ⟨hStatus, hRetry⟩
  exact ⟨hFailed hStatus, forcesRetry_of_stored hStored hRetry⟩

/- A failed bet is handed over again by a forced retry. -/
theorem failed_bet_handed_again :
    FailureReceived "k1"
        (step (connected 10) (Input.bet "k1" false).next)
        [(Input.result
          { operationId := some "op_k1"
            status := some .FAILED }).next] ∧
      ForcesRetry (Input.bet "k1" true).next :=
  handed_again_after_failure (connected 10)
    (Input.bet "k1" false).next (Input.bet "k1" true).next
    [(Input.result
      { operationId := some "op_k1"
        status := some .FAILED }).next]
    "k1" (by decide) (by decide) (by decide)
    ⟨by decide, trivial⟩

/-
  At capacity a bet in flight is forgotten and handed over a
  second time, without a failure and without a forced retry.
-/
theorem evicted_bet_handed_again :
    Hands "k1" (connected 1) (Input.bet "k1" false).next ∧
      Hands "k1"
        (run step
          (step (connected 1) (Input.bet "k1" false).next)
          [(Input.bet "k2" false).next])
        (Input.bet "k1" false).next ∧
        (step
            (run step
              (step (connected 1)
                (Input.bet "k1" false).next)
              [(Input.bet "k2" false).next])
            (Input.bet "k1" false).next).now -
          (step (connected 1) (Input.bet "k1" false).next).now ≤
            (connected 1).ledger.maxAgeMs ∧
          ¬ ForcesRetry (Input.bet "k1" false).next := by
  refine ⟨by decide, by decide, by decide, ?_⟩
  rintro ⟨payload, options, hInput | hInput, hRetry⟩
  · cases hInput
    cases hRetry
  · cases hInput

------------------------------------------------------------
-- Committed Outcomes
------------------------------------------------------------

/- The record of the key is completed with the result. -/
def Committed
    (key : String)
    (result : OperationResult)
    (b : Boundary) : Prop :=
  ∃ record,
    b.ledger.get? key = some record ∧
      record.status = .COMPLETED ∧
        record.cachedResult = some result

/- A committed record that is not older than `since`. -/
def CommittedSince
    (key : String)
    (result : OperationResult)
    (since : Nat)
    (b : Boundary) : Prop :=
  ∃ record,
    b.ledger.get? key = some record ∧
      record.status = .COMPLETED ∧
        record.cachedResult = some result ∧
          since ≤ record.updatedAt

theorem CommittedSince.committed
    {key : String}
    {result : OperationResult}
    {since : Nat}
    {b : Boundary}
    (hSince : CommittedSince key result since b) :
    Committed key result b := by
  rcases hSince with
    ⟨record, hRecord, hStatus, hResult, _⟩
  exact ⟨record, hRecord, hStatus, hResult⟩

/- The bet of `k1` is committed. -/
def completedResult : OperationResult :=
  { operationId := some "op_k1"
    status := some .COMPLETED
    idempotencyKey := some "k1" }

/- A bet in flight under `k1`. -/
def betInFlight : Boundary :=
  step (connected 10) (Input.bet "k1" false).next

end Boundary

end ControlPlane
