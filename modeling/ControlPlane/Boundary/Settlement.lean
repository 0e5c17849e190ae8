import ControlPlane.Boundary.Idempotency

/-
  Results and the operations they settle.

  A result takes its operation out of flight before it is
  classified. The key of the operation stays in flight in
  the ledger when the status is none of the classified ones
  or the result names another key.

  Main declarations:
    * `FlightEffect` and `react_flightEffect`
    * `Flying` and `Stranded`
    * `SettlesExactly`
    * `settlesExactly_iff`
    * `results_settle_iff`
-/

------------------------------------------------------------
-- Operations In Flight
------------------------------------------------------------

namespace ControlPlane

namespace ExecutionBoundaryManager

/- What one input does to the operations in flight. -/
inductive FlightEffect
    (env : Env)
    (m next : ExecutionBoundaryManager) : Prop
| same
    (hFlights :
      next.inFlightOperations = m.inFlightOperations)
| stored
    (payload : TacticalPayload)
    (op : InFlightOperation)
    (hKey : op.idempotencyKey = idempotencyKeyOf env payload)
    (hFlights :
      next.inFlightOperations =
        m.inFlightOperations.set
          (operationIdOf env payload) op)
| forgotten
    (operationId : String)
    (hFlights :
      next.inFlightOperations =
        m.inFlightOperations.delete operationId)

theorem dispatchFinancial_flightEffect
    (env : Env)
    (m : ExecutionBoundaryManager)
    (type : ExecutionMessageType)
    (payload payloadWithOp : TacticalPayload)
    (accountId : Option String)
    (targetAccounts : List String)
    (gate : Option Denial)
    (options : DispatchOptions) :
    FlightEffect env m
      (m.dispatchFinancial env type payload payloadWithOp
        accountId targetAccounts gate options).1 := by
  have hChecked :
      (m.withChecked env payload).inFlightOperations =
        m.inFlightOperations := by
    rw [m.withChecked_eq env payload]
  unfold dispatchFinancial
  cases hRefusal : m.refusal env payload gate with
  | some reply => exact .same hChecked
  | none =>
      apply FlightEffect.stored payload
        { idempotencyKey := idempotencyKeyOf env payload
          accountId := accountId
          targetAccounts := targetAccounts
          dispatchedAt := env.now
          payload := payloadWithOp } rfl
      rw [← hChecked]
      exact (dispatchEnvelope_dispatched env _ type
        (.tactical payloadWithOp) options).inFlightOperations

theorem dispatchGated_inFlightOperations
    (env : Env)
    (m : ExecutionBoundaryManager)
    (type : ExecutionMessageType)
    (payload : Payload)
    (options : DispatchOptions) :
    (m.dispatchGated env type payload
        options).1.inFlightOperations =
      m.inFlightOperations := by
  unfold dispatchGated
  split
  · rfl
  · exact (dispatchEnvelope_dispatched env m type payload
      options).inFlightOperations

theorem reconcileOperation_inFlightOperations
    (env : Env)
    (m : ExecutionBoundaryManager)
    (operationId : String)
    (options : DispatchOptions) :
    (m.reconcileOperation env operationId
        options).1.inFlightOperations =
      m.inFlightOperations := by
  unfold reconcileOperation
  dsimp only
  split
  · rfl
  · exact (dispatchEnvelope_dispatched env _ _ _
      options).inFlightOperations

theorem execute_flightEffect
    (env : Env)
    (m : ExecutionBoundaryManager)
    (command : Command) :
    FlightEffect env m (m.execute env command).1 := by
  cases command with
  | placeBet payload options =>
      exact dispatchFinancial_flightEffect env m _ _ _ _ _ _
        options
  | cashOut payload options =>
      exact dispatchFinancial_flightEffect env m _ _ _ _ _ _
        options
  | captureSnapshot options =>
      exact .same (dispatchEnvelope_dispatched env m _ _
        options).inFlightOperations
  | getFleetReadiness options =>
      exact .same (dispatchEnvelope_dispatched env m _ _
        options).inFlightOperations
  | initializeWorker accounts options =>
      exact .same (dispatchEnvelope_dispatched env _ _ _
        options).inFlightOperations
  | stopCluster timeoutMs options =>
      exact .same (dispatchEnvelope_dispatched env _ _ _
        options).inFlightOperations
  | reconcileOperation operationId options =>
      exact .same (reconcileOperation_inFlightOperations env
        m operationId options)
  | _ =>
      exact .same
        (dispatchGated_inFlightOperations env m _ _ _)

theorem handleClientDisconnected_inFlightOperations
    (m : ExecutionBoundaryManager)
    (connId : Nat) :
    (m.handleClientDisconnected connId
        ).1.inFlightOperations =
      m.inFlightOperations := by
  unfold handleClientDisconnected
  dsimp only
  split <;> rfl

/- A result forgets the operation it answers, if any. -/
theorem forgetInFlight_flightEffect
    (env : Env)
    (m : ExecutionBoundaryManager)
    (payload : OperationResult) :
    FlightEffect env m (m.forgetInFlight payload) := by
  unfold forgetInFlight
  split
  · exact .forgotten _ rfl
  · exact .same rfl

theorem handleOperationResult_inFlightOperations
    (env : Env)
    (m : ExecutionBoundaryManager)
    (payload : OperationResult) :
    (m.handleOperationResult env payload
        ).1.inFlightOperations =
      (m.forgetInFlight payload).inFlightOperations := by
  unfold handleOperationResult
  rw [recordOutcome_eq]
  rfl

theorem FlightEffect.of_eq
    {env : Env}
    {m mid next : ExecutionBoundaryManager}
    (hEffect : FlightEffect env m mid)
    (hSame :
      next.inFlightOperations = mid.inFlightOperations) :
    FlightEffect env m next := by
  cases hEffect with
  | same hFlights => exact .same (hSame.trans hFlights)
  | stored payload op hKey hFlights =>
      exact .stored payload op hKey (hSame.trans hFlights)
  | forgotten operationId hFlights =>
      exact .forgotten operationId (hSame.trans hFlights)

theorem handlePayload_flightEffect
    (env : Env)
    (m : ExecutionBoundaryManager)
    (payload : InboundPayload) :
    FlightEffect env m (m.handlePayload env payload).1 := by
  cases payload with
  | operationResult result =>
      exact (forgetInFlight_flightEffect env m result).of_eq
        (handleOperationResult_inFlightOperations env m
          result)
  | _ => exact .same rfl

theorem settleCorrelation_inFlightOperations
    (m : ExecutionBoundaryManager)
    (envelope : InboundEnvelope) :
    (m.settleCorrelation envelope).inFlightOperations =
      m.inFlightOperations := by
  unfold settleCorrelation
  split <;> rfl

theorem handleIncomingData_flightEffect
    (env : Env)
    (m : ExecutionBoundaryManager)
    (connId : Nat)
    (data : InboundData) :
    FlightEffect env m
      (m.handleIncomingData env connId data).1 := by
  cases data with
  | oversized =>
      exact .same
        (handleClientDisconnected_inFlightOperations m
          connId)
  | unparsable => exact .same rfl
  | invalid => exact .same rfl
  | legacyHeartbeat => exact .same rfl
  | envelope envelope =>
      have hSettled :=
        m.settleCorrelation_inFlightOperations envelope
      cases handlePayload_flightEffect env
          (m.settleCorrelation envelope)
          envelope.payload with
      | same hFlights =>
          exact .same (hFlights.trans hSettled)
      | stored payload op hKey hFlights =>
          rw [hSettled] at hFlights
          exact .stored payload op hKey hFlights
      | forgotten operationId hFlights =>
          rw [hSettled] at hFlights
          exact .forgotten operationId hFlights

/- Every input keeps, stores or forgets one operation. -/
theorem react_flightEffect
    (env : Env)
    (m : ExecutionBoundaryManager)
    (input : Input) :
    FlightEffect env m (m.react env input).1 := by
  cases input with
  | command command => exact execute_flightEffect env m command
  | startServer =>
      unfold react
      cases hStart : m.startServer env with
      | none => exact .same rfl
      | some started =>
          rcases startServer_eq_some hStart with
            ⟨transport, -, rfl⟩
          exact .same rfl
  | connected connId =>
      exact .same (dispatchEnvelope_dispatched env _
        .CAPTURE_SNAPSHOT .empty _).inFlightOperations
  | disconnected connId =>
      exact .same
        (handleClientDisconnected_inFlightOperations m
          connId)
  | data connId data =>
      exact handleIncomingData_flightEffect env m connId data
  | _ => exact .same rfl

/- Operations in flight have an id and a key. -/
def FlightsNamed (m : ExecutionBoundaryManager) : Prop :=
  ∀ operationId op,
    m.inFlightOperations.get? operationId = some op →
      operationId ≠ "" ∧ op.idempotencyKey ≠ ""

theorem operationIdOf_ne_empty
    (env : Env)
    (payload : TacticalPayload) :
    operationIdOf env payload ≠ "" := by
  unfold operationIdOf presentOr
  have hDefault :
      ∀ text : String, "op_" ++ text ≠ "" := by
    intro text hEmpty
    have hLength := congrArg String.length hEmpty
    rw [String.length_append] at hLength
    simp at hLength
  split
  · split
    · exact hDefault _
    · assumption
  · exact hDefault _

theorem flightsNamed_react
    (env : Env)
    {m : ExecutionBoundaryManager}
    (hNamed : FlightsNamed m)
    (input : Input) :
    FlightsNamed (m.react env input).1 := by
  intro operationId op hOp
  cases react_flightEffect env m input with
  | same hFlights =>
      rw [hFlights] at hOp
      exact hNamed operationId op hOp
  | stored payload stored hKey hFlights =>
      rw [hFlights, OrderedMap.get?_set] at hOp
      split at hOp
      · rename_i hSame
        rw [← Option.some.inj hOp, hSame, hKey]
        exact ⟨operationIdOf_ne_empty env payload,
          Boundary.idempotencyKeyOf_ne_empty env payload⟩
      · exact hNamed operationId op hOp
  | forgotten gone hFlights =>
      rw [hFlights, OrderedMap.get?_delete] at hOp
      split at hOp
      · cases hOp
      · exact hNamed operationId op hOp

------------------------------------------------------------
-- Settling One Operation
------------------------------------------------------------

/- The ledger record of a key is in flight. -/
def Flying
    (m : ExecutionBoundaryManager)
    (key : String) : Prop :=
  (m.idempotency.get? key).map LedgerRecord.status =
    some .IN_FLIGHT

/- The key is in flight, and no operation carries it. -/
def Stranded
    (m : ExecutionBoundaryManager)
    (key : String) : Prop :=
  Flying m key ∧
    ∀ operationId op,
      m.inFlightOperations.get? operationId = some op →
        op.idempotencyKey ≠ key

end ExecutionBoundaryManager

namespace ResultStatus

/- The result states of the protocol. -/
def executionResultStates : List ResultStatus :=
  [.ACCEPTED, .STARTED, .PROGRESS, .COMPLETED, .REJECTED,
    .FAILED, .PARTIALLY_COMPLETED, .UNKNOWN]

/- Other statuses that the boundary knows. -/
def aliases : List ResultStatus :=
  [.SUCCESS, .ABORTED, .TIMEOUT, .UNCERTAIN]

/- The operation is still being worked on. -/
def unfinished : List ResultStatus :=
  [.ACCEPTED, .STARTED, .PROGRESS]

end ResultStatus

namespace ExecutionBoundaryManager

/-
  An operation leaves the map of operations in flight
  exactly when its key leaves the status in flight, and for
  exactly the finished statuses; no key is stranded by it.
-/
structure SettlesExactly
    (m next : ExecutionBoundaryManager)
    (operationId : String)
    (op : InFlightOperation)
    (status : ResultStatus) : Prop where
  removed_iff_settled :
    next.inFlightOperations.get? operationId = none ↔
      ¬ Flying next op.idempotencyKey
  removed_iff_finished :
    next.inFlightOperations.get? operationId = none ↔
      status ∉ ResultStatus.unfinished
  none_stranded :
    ∀ key, Stranded next key → Stranded m key

/-
  The status is finished, and the key of the operation is
  not in flight any more or the result settles it: it names
  no other key and its status or code is classified.
-/
def Settleable
    (m : ExecutionBoundaryManager)
    (op : InFlightOperation)
    (result : OperationResult)
    (status : ResultStatus) : Prop :=
  status ∉ ResultStatus.unfinished ∧
    (¬ Flying m op.idempotencyKey ∨
      (firstPresent result.idempotencyKey
          (some op.idempotencyKey) =
        some op.idempotencyKey ∧
          result.ledgerStatus ≠ none))

theorem ledgerStatus_ne_inFlight
    (result : OperationResult) :
    result.ledgerStatus ≠ some .IN_FLIGHT := by
  unfold OperationResult.ledgerStatus
  split
  · simp
  · split
    · simp
    · split
      · simp
      · simp

theorem flying_iff_of_idempotency
    {m next : ExecutionBoundaryManager}
    (hLedger : next.idempotency = m.idempotency)
    (key : String) :
    Flying next key ↔ Flying m key := by
  unfold Flying
  rw [hLedger]

/- Settling a key takes it, and no other, out of flight. -/
theorem flying_recordOutcome_iff
    (env : Env)
    (m : ExecutionBoundaryManager)
    (payload : OperationResult)
    (settled : Option (String × LedgerStatus))
    (hStatus :
      ∀ key status, settled = some (key, status) →
        status ≠ .IN_FLIGHT)
    (key : String) :
    Flying (m.recordOutcome env settled payload) key ↔
      Flying m key ∧ settled.map Prod.fst ≠ some key := by
  unfold Flying
  rw [recordOutcome_eq]
  cases settled with
  | none => simp
  | some pair =>
      rcases pair with ⟨settledKey, status⟩
      have hNot := hStatus settledKey status rfl
      dsimp only
      rw [IdempotencyLedger.get?_recordTerminal]
      by_cases hSame : key = settledKey
      · rw [if_pos hSame]
        simp [hNot, hSame]
      · rw [if_neg hSame]
        simp [Ne.symm hSame]

/- The operation that a result answers. -/
structure Answers
    (m : ExecutionBoundaryManager)
    (payload : OperationResult)
    (operationId : String)
    (op : InFlightOperation) : Prop where
  id : payload.operationId = some operationId
  id_ne : operationId ≠ ""
  found : m.inFlightOperations.get? operationId = some op
  key_ne : op.idempotencyKey ≠ ""

theorem Answers.inFlightOf
    {m : ExecutionBoundaryManager}
    {payload : OperationResult}
    {operationId : String}
    {op : InFlightOperation}
    (hAnswers : Answers m payload operationId op) :
    m.inFlightOf payload = some op := by
  unfold ExecutionBoundaryManager.inFlightOf
  rw [hAnswers.id]
  dsimp only
  rw [if_neg hAnswers.id_ne, hAnswers.found]

theorem firstPresent_ne_some_empty
    (field : Option String)
    {key : String}
    (hKey : key ≠ "") :
    firstPresent field (some key) ≠ some "" := by
  cases field with
  | none => simpa [firstPresent, present] using hKey
  | some text =>
      by_cases hText : text = ""
      · simpa [firstPresent, present, hText] using hKey
      · simp [firstPresent, present, hText]

/- The key that a result settles, of the one it answers. -/
theorem Answers.settles_fst
    {m : ExecutionBoundaryManager}
    {payload : OperationResult}
    {operationId : String}
    {op : InFlightOperation}
    (hAnswers : Answers m payload operationId op) :
    (m.settles payload).map Prod.fst =
      payload.ledgerStatus.bind
        (fun _ =>
          firstPresent payload.idempotencyKey
            (some op.idempotencyKey)) := by
  have hNe :=
    firstPresent_ne_some_empty payload.idempotencyKey
      hAnswers.key_ne
  unfold ExecutionBoundaryManager.settles
  have hCorrelated :
      (m.correlated payload).idempotencyKey =
        firstPresent payload.idempotencyKey
          (some op.idempotencyKey) := by
    unfold correlated
    rw [hAnswers.inFlightOf]
    rfl
  rw [hCorrelated]
  cases hKey :
      firstPresent payload.idempotencyKey
        (some op.idempotencyKey) with
  | none =>
      cases payload.ledgerStatus <;> rfl
  | some key =>
      cases payload.ledgerStatus with
      | none => rfl
      | some status =>
          have hFilled : key ≠ "" := by
            rw [hKey] at hNe
            simpa using hNe
          simp [hFilled]

theorem settles_status
    {m : ExecutionBoundaryManager}
    {payload : OperationResult}
    (key : String)
    (status : LedgerStatus)
    (hSettles : m.settles payload = some (key, status)) :
    status ≠ .IN_FLIGHT := by
  have hNot := ledgerStatus_ne_inFlight payload
  unfold settles at hSettles
  split at hSettles
  · rename_i hStatus
    split at hSettles
    · cases hSettles
    · cases hSettles
      intro hFlight
      rw [hFlight] at hStatus
      exact hNot hStatus
  · cases hSettles

/- What the routed result leaves of ledger and flights. -/
theorem react_result
    (env : Env)
    (m : ExecutionBoundaryManager)
    (connId : Nat)
    (envelope : InboundEnvelope)
    (payload : OperationResult)
    (hPayload :
      envelope.payload = .operationResult payload) :
    (m.react env (.data connId (.envelope envelope))
        ).1.inFlightOperations =
        (m.forgetInFlight payload).inFlightOperations ∧
      ∀ key,
        Flying
            (m.react env
              (.data connId (.envelope envelope))).1 key ↔
          Flying m key ∧
            (m.settles payload).map Prod.fst ≠
              some key := by
  rcases m.settleCorrelation_eq envelope with
    ⟨pending, hSettle⟩
  have hReact :
      (m.react env (.data connId (.envelope envelope))).1 =
        (handleOperationResult env
          { m with pendingCorrelations := pending }
          payload).1 := by
    unfold react handleIncomingData handlePayload
    dsimp only
    rw [hSettle, hPayload]
  rw [hReact]
  constructor
  · rw [handleOperationResult_inFlightOperations]
    unfold forgetInFlight
    split
    · rename_i op hFound
      have hSame : m.inFlightOf payload = some op := hFound
      rw [hSame]
    · rename_i hFound
      have hSame : m.inFlightOf payload = none := hFound
      rw [hSame]
  · intro key
    have hLedger :
        Flying
            (handleOperationResult env
              { m with pendingCorrelations := pending }
              payload).1 key ↔
          Flying
            (m.recordOutcome env (m.settles payload)
              payload) key := by
      rcases forgetInFlight_eq
          { m with pendingCorrelations := pending }
          payload with ⟨inFlight, hForget⟩
      have hSettles :
          settles
              { m with pendingCorrelations := pending }
              payload = m.settles payload := rfl
      apply flying_iff_of_idempotency
      unfold handleOperationResult
      dsimp only
      rw [hForget, hSettles, recordOutcome_eq,
        recordOutcome_eq]
      rfl
    rw [hLedger]
    exact flying_recordOutcome_iff env m payload _
      (fun settledKey status =>
        settles_status settledKey status) key

theorem Answers.forgetInFlight
    {m : ExecutionBoundaryManager}
    {payload : OperationResult}
    {operationId : String}
    {op : InFlightOperation}
    (hAnswers : Answers m payload operationId op) :
    (m.forgetInFlight payload).inFlightOperations =
      m.inFlightOperations.delete operationId := by
  unfold ExecutionBoundaryManager.forgetInFlight
  rw [hAnswers.inFlightOf]
  dsimp only
  rw [hAnswers.id]
  simp [presentOr, hAnswers.id_ne]

/-
  A result settles its operation exactly when it is
  settleable: the operation always leaves the map.
-/
theorem settlesExactly_iff
    (env : Env)
    {m : ExecutionBoundaryManager}
    (connId : Nat)
    (envelope : InboundEnvelope)
    {payload : OperationResult}
    (hPayload :
      envelope.payload = .operationResult payload)
    {operationId : String}
    {op : InFlightOperation}
    (hAnswers : Answers m payload operationId op)
    (status : ResultStatus) :
    SettlesExactly m
        (m.react env (.data connId (.envelope envelope))).1
        operationId op status ↔
      Settleable m op payload status := by
  rcases react_result env m connId envelope payload
      hPayload with ⟨hFlights, hFlying⟩
  rw [hAnswers.forgetInFlight] at hFlights
  rw [hAnswers.settles_fst] at hFlying
  have hRemoved :
      (m.react env
          (.data connId (.envelope envelope))
        ).1.inFlightOperations.get? operationId = none := by
    rw [hFlights]
    exact OrderedMap.get?_delete_self _ _
  have hOwn :
      Flying
          (m.react env
            (.data connId (.envelope envelope))).1
          op.idempotencyKey ↔
        Flying m op.idempotencyKey ∧
          ¬ (firstPresent payload.idempotencyKey
              (some op.idempotencyKey) =
            some op.idempotencyKey ∧
              payload.ledgerStatus ≠ none) := by
    rw [hFlying]
    cases payload.ledgerStatus with
    | none => simp
    | some ledgerStatus => simp
  unfold Settleable
  constructor
  · intro hSettles
    refine ⟨hSettles.removed_iff_finished.mp hRemoved, ?_⟩
    have hSettled :=
      hSettles.removed_iff_settled.mp hRemoved
    rw [hOwn] at hSettled
    by_cases hFlies : Flying m op.idempotencyKey
    · right
      by_contra hNot
      exact hSettled ⟨hFlies, hNot⟩
    · exact Or.inl hFlies
  · rintro ⟨hFinished, hReady⟩
    have hSettled :
        ¬ Flying
          (m.react env
            (.data connId (.envelope envelope))).1
          op.idempotencyKey := by
      rw [hOwn]
      rintro ⟨hFlies, hNot⟩
      rcases hReady with hGround | hSettles
      · exact hGround hFlies
      · exact hNot hSettles
    refine ⟨⟨fun _ => hSettled, fun _ => hRemoved⟩,
      ⟨fun _ => hFinished, fun _ => hRemoved⟩, ?_⟩
    intro key hStranded
    refine ⟨((hFlying key).mp hStranded.1).1, ?_⟩
    intro otherId other hOther hKey
    by_cases hSame : otherId = operationId
    · rw [hSame, hAnswers.found] at hOther
      rw [← Option.some.inj hOther] at hKey
      rw [hKey] at hSettled
      exact hSettled hStranded.1
    · apply hStranded.2 otherId other _ hKey
      rw [hFlights, OrderedMap.get?_delete_of_ne _ hSame]
      exact hOther

end ExecutionBoundaryManager

------------------------------------------------------------
-- Runs
------------------------------------------------------------

namespace Boundary

open ExecutionBoundaryManager

/-
  The claim about one event, and about the operation that a
  result of a known status answers.
-/
def OfResult
    (claim :
      InFlightOperation → OperationResult → String →
        ResultStatus → Prop)
    (s : Boundary)
    (event : Event) : Prop :=
  ∀ connId envelope payload operationId op status,
    event.input = .data connId (.envelope envelope) →
      envelope.payload = .operationResult payload →
      payload.operationId = some operationId →
      s.manager.inFlightOperations.get? operationId =
        some op →
      payload.status = some status →
      status ∈ ResultStatus.executionResultStates ++
        ResultStatus.aliases →
      claim op payload operationId status

/- The event settles the operation it answers exactly. -/
def ResultSettles
    (s : Boundary)
    (event : Event) : Prop :=
  OfResult
    (fun op _ operationId status =>
      SettlesExactly s.manager (step s event).manager
        operationId op status) s event

/- The result of the event can settle its operation. -/
def ResultSettleable
    (s : Boundary)
    (event : Event) : Prop :=
  OfResult
    (fun op payload _ status =>
      Settleable s.manager op payload status) s event

theorem resultSettles_iff
    (s : Boundary)
    (event : Event)
    (hNamed : FlightsNamed s.manager) :
    ResultSettles s event ↔ ResultSettleable s event := by
  unfold ResultSettles ResultSettleable OfResult
  apply forall_congr'
  intro connId
  apply forall_congr'
  intro envelope
  apply forall_congr'
  intro payload
  apply forall_congr'
  intro operationId
  apply forall_congr'
  intro op
  apply forall_congr'
  intro status
  apply imp_congr_right
  intro hInput
  apply imp_congr_right
  intro hPayload
  apply imp_congr_right
  intro hId
  apply imp_congr_right
  intro hFound
  apply imp_congr_right
  intro _
  apply imp_congr_right
  intro _
  have hNames := hNamed operationId op hFound
  unfold step
  rw [hInput]
  exact settlesExactly_iff _ connId envelope hPayload
    ⟨hId, hNames.1, hFound, hNames.2⟩ status

/-
  In a run of a new process, the results settle exactly the
  operations they answer if and only if each is settleable
  where it arrives.
-/
theorem results_settle_iff
    (b : Boundary)
    (hNew :
      b.manager.inFlightOperations = OrderedMap.empty)
    (events : List Event) :
    Along step ResultSettles b events ↔
      Along step ResultSettleable b events := by
  have hStep :
      ∀ s event, FlightsNamed s.manager →
        FlightsNamed (step s event).manager :=
    fun s event hNamed =>
      flightsNamed_react (s.env event) hNamed event.input
  have hAgree :
      ∀ s event, FlightsNamed s.manager →
        (ResultSettles s event ↔
          ResultSettleable s event) :=
    fun s event hNamed => resultSettles_iff s event hNamed
  apply along_congr_of_invariant hStep hAgree events
  intro operationId op hOp
  rw [hNew] at hOp
  cases hOp

/- The key of the one operation that is in flight. -/
theorem key_of_betInFlight
    {op : InFlightOperation}
    (hOp :
      betInFlight.manager.inFlightOperations.get? "op_k1" =
        some op) :
    op.idempotencyKey = "k1" := by
  have hKey :
      (betInFlight.manager.inFlightOperations.get?
        "op_k1").map InFlightOperation.idempotencyKey =
        some "k1" := by
    decide
  rw [hOp] at hKey
  exact Option.some.inj hKey

/- A committed bet settles its key. -/
theorem committed_bet_settles :
    (connected 10).manager.inFlightOperations =
        OrderedMap.empty ∧
      Along step ResultSettles (connected 10)
        [(Input.bet "k1" false).next,
          (Input.result completedResult).next] := by
  refine ⟨rfl, (results_settle_iff (connected 10) rfl
    _).mpr ⟨?_, ?_, trivial⟩⟩
  · intro connId envelope payload operationId op status
      hInput
    cases hInput
  · intro connId envelope payload operationId op status
      hInput hPayload hId hFound hStatus _
    cases hInput
    cases hPayload
    cases hId
    cases hStatus
    refine ⟨by decide, Or.inr ⟨?_, by decide⟩⟩
    rw [key_of_betInFlight hFound]
    rfl

/- The bet of `k1` was refused by the Execution Plane. -/
def rejectedResult : OperationResult :=
  { operationId := some "op_k1"
    status := some .REJECTED }

/-
  A refused bet leaves the operations in flight with its key
  still in flight in the ledger.
-/
theorem rejected_bet_stranded :
    Stranded
        (step betInFlight
          (Input.result rejectedResult).next).manager
        "k1" ∧
      ¬ Along step ResultSettles (connected 10)
        [(Input.bet "k1" false).next,
          (Input.result rejectedResult).next] := by
  have hFlying :
      Flying
        (step betInFlight
          (Input.result rejectedResult).next).manager
        "k1" := by
    unfold Flying
    decide
  have hNone :
      (step betInFlight
        (Input.result rejectedResult).next
        ).manager.inFlightOperations.entries = [] := by
    decide
  refine ⟨⟨hFlying, ?_⟩, ?_⟩
  · intro operationId op hOp
    have hMem :=
      (OrderedMap.get?_eq_some_iff _ _ _).mp hOp
    rw [hNone] at hMem
    cases hMem
  · intro hAlong
    have hSome :
        (betInFlight.manager.inFlightOperations.get?
          "op_k1").isSome = true := by
      decide
    rcases Option.isSome_iff_exists.mp hSome with ⟨op, hOp⟩
    have hSettles :=
      hAlong.2.1 1 _ rejectedResult "op_k1" op .REJECTED
        rfl rfl rfl hOp rfl (by decide)
    have hGround :=
      hSettles.removed_iff_settled.mp (by decide)
    rw [key_of_betInFlight hOp] at hGround
    exact hGround hFlying

end Boundary

end ControlPlane
