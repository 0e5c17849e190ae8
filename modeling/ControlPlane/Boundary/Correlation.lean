import ControlPlane.Boundary.CircuitBreaker

/-
  Replies and the commands that wait for them.

  A command that waits for its answer leaves a promise under
  the id of its message. A reply settles the promise it
  names by that id, or else the first promise, in the order
  of the dispatches, whose trace or message id is among the
  ids of the reply.

  Main declarations:
    * `settlements` and `PendingEffect`
    * `Names`, `Matches` and `NamedFirst`
    * `WriteThrows`
    * `Conversation` and `SettledOnce`
    * `replies_reach_iff`
-/

------------------------------------------------------------
-- Settled Promises
------------------------------------------------------------

namespace ControlPlane

/- The options of a command. -/
def Command.options : Command → DispatchOptions
| .placeBet _ options => options
| .cashOut _ options => options
| .validateTactical _ options => options
| .activateAccount _ options => options
| .deactivateAccount _ options => options
| .setBetCycle _ _ options => options
| .updatePolicy _ options => options
| .resetPolicy _ options => options
| .captureSnapshot options => options
| .getFleetReadiness options => options
| .initializeWorker _ options => options
| .stopCluster _ options => options
| .reconcileOperation _ options => options

/- How a promise is settled. -/
inductive CallOutcome where
| resolved | rejected
deriving DecidableEq, Repr

namespace ExecutionBoundaryManager

/- All pending promises are rejected. -/
def rejectAll
    (m : ExecutionBoundaryManager) :
    List (String × CallOutcome) :=
  m.pendingCorrelations.keys.map (fun id => (id, .rejected))

/- The promises that a dropped connection rejects. -/
def rejectedByDrop
    (m : ExecutionBoundaryManager)
    (connId : Nat) : List (String × CallOutcome) :=
  if (m.transport.onDisconnect connId).isConnected then []
  else m.rejectAll

/- The promise that a reply of a command settles. -/
def settledByReply
    (env : Env) : Reply → List (String × CallOutcome)
| .dispatched .rejected => [(env.msgUlid, .rejected)]
| _ => []

/- The promises that an input settles, in order. -/
def settlements
    (env : Env)
    (m : ExecutionBoundaryManager) :
    Input → List (String × CallOutcome)
| .command command =>
    settledByReply env (m.execute env command).2
| .stopServer => m.rejectAll
| .disconnected connId => m.rejectedByDrop connId
| .data connId .oversized => m.rejectedByDrop connId
| .data _ (.envelope envelope) =>
    (m.answeredCorrelation envelope).toList.map
      (fun pending => (pending.msgId, .resolved))
| .correlationTimeout msgId =>
    if m.pendingCorrelations.has msgId then
      [(msgId, .rejected)]
    else
      []
| _ => []

/- Promises are kept under the ids of their messages. -/
def Keyed (m : ExecutionBoundaryManager) : Prop :=
  ∀ id pending,
    m.pendingCorrelations.get? id = some pending →
      pending.msgId = id

/- A dispatch waits for its answer, and a write throws. -/
def DispatchThrows
    (env : Env)
    (m : ExecutionBoundaryManager)
    (options : DispatchOptions) : Prop :=
  options.waitForAck = true ∧
    m.starts env = true ∧
    (PipeTransport.writeAll env.native
      m.transport.activeConnections).2 = false

/- A command passes its gates, and a write throws. -/
def WriteThrows
    (env : Env)
    (m : ExecutionBoundaryManager) : Input → Prop
| .command command =>
    m.dispatches env command = true ∧
      DispatchThrows env m command.options
| _ => False

------------------------------------------------------------
-- Effects On The Pending Promises
------------------------------------------------------------

/-
  What one turn does to the pending promises: the new one is
  that of the turn's own message, what is settled was
  pending or is the new one, and it is gone afterwards
  unless a write threw.
-/
structure PendingEffect
    (env : Env)
    (m next : ExecutionBoundaryManager)
    (settled : List (String × CallOutcome))
    (throws : Prop) : Prop where
  kept :
    ∀ id pending,
      next.pendingCorrelations.get? id = some pending →
        m.pendingCorrelations.get? id = some pending ∨
          id = env.msgUlid ∧ pending.msgId = id
  settled_from :
    ∀ entry ∈ settled,
      m.pendingCorrelations.has entry.1 = true ∨
        entry.1 = env.msgUlid
  nodup : (settled.map Prod.fst).Nodup
  gone_iff :
    (∀ entry ∈ settled,
      next.pendingCorrelations.has entry.1 = false) ↔
      ¬ throws

/- A turn that leaves the promises alone. -/
theorem PendingEffect.of_same
    {env : Env}
    {m next : ExecutionBoundaryManager}
    {throws : Prop}
    (hSame :
      next.pendingCorrelations = m.pendingCorrelations)
    (hThrows : ¬ throws) :
    PendingEffect env m next [] throws where
  kept := by
    intro id pending hPending
    rw [hSame] at hPending
    exact Or.inl hPending
  settled_from := by
    intro entry hEntry
    cases hEntry
  nodup := List.nodup_nil
  gone_iff := by
    constructor
    · intro _
      exact hThrows
    · intro _ entry hEntry
      cases hEntry

/- A turn that settles nothing and drops some promises. -/
theorem PendingEffect.of_fewer
    {env : Env}
    {m next : ExecutionBoundaryManager}
    (hFewer :
      ∀ id pending,
        next.pendingCorrelations.get? id = some pending →
          m.pendingCorrelations.get? id = some pending) :
    PendingEffect env m next [] False where
  kept := by
    intro id pending hPending
    exact Or.inl (hFewer id pending hPending)
  settled_from := by
    intro entry hEntry
    cases hEntry
  nodup := List.nodup_nil
  gone_iff := by
    constructor
    · intro _ hFalse
      exact hFalse
    · intro _ entry hEntry
      cases hEntry

/- A turn that rejects all promises. -/
theorem PendingEffect.of_cleared
    {env : Env}
    {m next : ExecutionBoundaryManager}
    (hCleared :
      next.pendingCorrelations = OrderedMap.empty) :
    PendingEffect env m next m.rejectAll False where
  kept := by
    intro id pending hPending
    rw [hCleared] at hPending
    cases hPending
  settled_from := by
    intro entry hEntry
    rcases List.mem_map.mp hEntry with ⟨id, hId, rfl⟩
    exact Or.inl (OrderedMap.lookup_isSome_of_mem_keys hId)
  nodup := by
    unfold rejectAll
    rw [List.map_map]
    exact (List.map_id _).symm ▸ m.pendingCorrelations.nodup
  gone_iff := by
    constructor
    · intro _ hFalse
      exact hFalse
    · intro _ entry _
      rw [hCleared]
      rfl

/- A turn that settles one pending promise. -/
theorem PendingEffect.of_deleted
    {env : Env}
    {m next : ExecutionBoundaryManager}
    {id : String}
    (hPending : m.pendingCorrelations.has id = true)
    (outcome : CallOutcome)
    (hNext :
      next.pendingCorrelations =
        m.pendingCorrelations.delete id) :
    PendingEffect env m next [(id, outcome)] False where
  kept := by
    intro other pending hOther
    rw [hNext, OrderedMap.get?_delete] at hOther
    split at hOther
    · cases hOther
    · exact Or.inl hOther
  settled_from := by
    intro entry hEntry
    rw [List.mem_singleton.mp hEntry]
    exact Or.inl hPending
  nodup := List.nodup_singleton _
  gone_iff := by
    constructor
    · intro _ hFalse
      exact hFalse
    · intro _ entry hEntry
      rw [List.mem_singleton.mp hEntry, hNext,
        OrderedMap.has_delete]
      simp

theorem starts_of_startServer
    {env : Env}
    {m started : ExecutionBoundaryManager}
    (hStart : m.startServer env = some started) :
    m.starts env = true := by
  rcases startServer_eq_some hStart with
    ⟨transport, hTransport, -⟩
  unfold starts
  rw [hTransport]
  rfl

theorem starts_of_startServer_none
    {env : Env}
    {m : ExecutionBoundaryManager}
    (hStart : m.startServer env = none) :
    m.starts env = false := by
  unfold startServer at hStart
  unfold starts
  cases hTransport : m.transport.startServer env.native with
  | none => rfl
  | some transport =>
      rw [hTransport] at hStart
      cases hStart

/- The pending promise of a registered dispatch. -/
theorem registered_get?
    {promises : OrderedMap String PendingCorrelation}
    {newId : String}
    {stored : PendingCorrelation}
    (hStored : stored.msgId = newId)
    (id : String)
    (pending : PendingCorrelation)
    (hPending :
      (promises.set newId stored).get? id =
        some pending) :
    promises.get? id = some pending ∨
      id = newId ∧ pending.msgId = id := by
  rw [OrderedMap.get?_set] at hPending
  split at hPending
  · rename_i hSame
    rw [← Option.some.inj hPending, hStored]
    exact Or.inr ⟨hSame, hSame.symm⟩
  · exact Or.inl hPending

/- A dispatch registers its promise and waits. -/
theorem PendingEffect.of_registered
    {env : Env}
    {m next : ExecutionBoundaryManager}
    {stored : PendingCorrelation}
    {throws : Prop}
    (hStored : stored.msgId = env.msgUlid)
    (hNext :
      next.pendingCorrelations =
        m.pendingCorrelations.set env.msgUlid stored)
    (hThrows : ¬ throws) :
    PendingEffect env m next [] throws where
  kept := by
    rw [hNext]
    exact registered_get? hStored
  settled_from := by
    intro entry hEntry
    cases hEntry
  nodup := List.nodup_nil
  gone_iff := by
    constructor
    · intro _
      exact hThrows
    · intro _ entry hEntry
      cases hEntry

/- A promise rejected by a throwing write stays behind. -/
theorem PendingEffect.of_stuck
    {env : Env}
    {m next : ExecutionBoundaryManager}
    {stored : PendingCorrelation}
    {throws : Prop}
    (hStored : stored.msgId = env.msgUlid)
    (hNext :
      next.pendingCorrelations =
        m.pendingCorrelations.set env.msgUlid stored)
    (hThrows : throws) :
    PendingEffect env m next [(env.msgUlid, .rejected)]
      throws where
  kept := by
    rw [hNext]
    exact registered_get? hStored
  settled_from := by
    intro entry hEntry
    rw [List.mem_singleton.mp hEntry]
    exact Or.inr rfl
  nodup := List.nodup_singleton _
  gone_iff := by
    constructor
    · intro hGone
      have hHas :=
        hGone (env.msgUlid, .rejected)
          (List.mem_singleton.mpr rfl)
      rw [hNext, OrderedMap.has_set] at hHas
      simp at hHas
    · intro hNot
      exact absurd hThrows hNot

/- A promise without a connection is withdrawn. -/
theorem PendingEffect.of_withdrawn
    {env : Env}
    {m next : ExecutionBoundaryManager}
    {stored : PendingCorrelation}
    {throws : Prop}
    (hStored : stored.msgId = env.msgUlid)
    (hNext :
      next.pendingCorrelations =
        (m.pendingCorrelations.set env.msgUlid
          stored).delete env.msgUlid)
    (hThrows : ¬ throws) :
    PendingEffect env m next [(env.msgUlid, .rejected)]
      throws where
  kept := by
    intro id pending hPending
    rw [hNext, OrderedMap.get?_delete] at hPending
    split at hPending
    · cases hPending
    · exact registered_get? hStored id pending hPending
  settled_from := by
    intro entry hEntry
    rw [List.mem_singleton.mp hEntry]
    exact Or.inr rfl
  nodup := List.nodup_singleton _
  gone_iff := by
    constructor
    · intro _
      exact hThrows
    · intro _ entry hEntry
      rw [List.mem_singleton.mp hEntry, hNext,
        OrderedMap.has_delete]
      simp

/- The effect of a dispatch on the pending promises. -/
theorem dispatchEnvelope_pendingEffect
    (env : Env)
    (m : ExecutionBoundaryManager)
    (type : ExecutionMessageType)
    (payload : Payload)
    (options : DispatchOptions) :
    PendingEffect env m
      (m.dispatchEnvelope env type payload options).1
      (settledByReply env
        (.dispatched
          (m.dispatchEnvelope env type payload options).2))
      (DispatchThrows env m options) := by
  unfold dispatchEnvelope DispatchThrows
  cases hStart : m.startServer env with
  | none =>
      have hStarts := starts_of_startServer_none hStart
      apply PendingEffect.of_same rfl
      rw [hStarts]
      simp
  | some started =>
      have hStarts := starts_of_startServer hStart
      rcases startServer_eq_some hStart with
        ⟨transport, hTransport, rfl⟩
      have hConnections :=
        PipeTransport.startServer_activeConnections
          hTransport
      unfold PipeTransport.broadcast
      dsimp only
      rw [hConnections, hStarts]
      rcases hWritten :
        PipeTransport.writeAll env.native
          m.transport.activeConnections with
        ⟨count, complete⟩
      cases options.waitForAck with
      | false =>
          cases complete with
          | false => exact .of_same rfl (by simp)
          | true => exact .of_same rfl (by simp)
      | true =>
          cases complete with
          | false => exact .of_stuck rfl rfl (by simp)
          | true =>
              cases count with
              | zero => exact .of_withdrawn rfl rfl (by simp)
              | succ count =>
                  exact .of_registered rfl rfl (by simp)

/- A dispatch from a state that agrees on the promises. -/
theorem dispatchCommand_pendingEffect
    (env : Env)
    {m base : ExecutionBoundaryManager}
    (type : ExecutionMessageType)
    (payload : Payload)
    (options : DispatchOptions)
    (hPending :
      base.pendingCorrelations = m.pendingCorrelations)
    (hTransport : base.transport = m.transport)
    {dispatches : Bool}
    (hDispatches : dispatches = true) :
    PendingEffect env m
      (base.dispatchCommand env type payload options).1
      (settledByReply env
        (base.dispatchCommand env type payload options).2)
      (dispatches = true ∧ DispatchThrows env m options) := by
  have hEffect :=
    dispatchEnvelope_pendingEffect env base type payload
      options
  have hThrows :
      (dispatches = true ∧ DispatchThrows env m options) ↔
        DispatchThrows env base options := by
    unfold DispatchThrows starts
    rw [hTransport]
    simp [hDispatches]
  refine ⟨?_, ?_, hEffect.nodup, ?_⟩
  · rw [← hPending]
    exact hEffect.kept
  · rw [← hPending]
    exact hEffect.settled_from
  · rw [hThrows]
    exact hEffect.gone_iff

/- A refusal settles no promise. -/
theorem settledByReply_refusal
    {env : Env}
    {m : ExecutionBoundaryManager}
    {payload : TacticalPayload}
    {gate : Option Denial}
    {reply : Reply}
    (hRefusal : m.refusal env payload gate = some reply) :
    settledByReply env reply = [] := by
  unfold refusal at hRefusal
  split at hRefusal
  · cases hRefusal
    rfl
  · split at hRefusal
    · cases hRefusal
      rfl
    · split at hRefusal
      · rename_i duplicate hDuplicate
        cases hRefusal
        rcases Option.bind_eq_some_iff.mp hDuplicate with
          ⟨record, -, hReply⟩
        unfold duplicateReply at hReply
        split at hReply
        · cases hReply
          rfl
        · cases hReply
          rfl
        · cases hReply
          rfl
        · split at hReply
          · cases hReply
          · cases hReply
            rfl
      · rcases Option.map_eq_some_iff.mp hRefusal with
          ⟨denial, -, rfl⟩
        rfl

theorem dispatchFinancial_pendingEffect
    (env : Env)
    (m : ExecutionBoundaryManager)
    (type : ExecutionMessageType)
    (payload payloadWithOp : TacticalPayload)
    (accountId : Option String)
    (targetAccounts : List String)
    (gate : Option Denial)
    (options : DispatchOptions) :
    PendingEffect env m
      (m.dispatchFinancial env type payload payloadWithOp
        accountId targetAccounts gate options).1
      (settledByReply env
        (m.dispatchFinancial env type payload payloadWithOp
          accountId targetAccounts gate options).2)
      ((m.refusal env payload gate).isNone = true ∧
        DispatchThrows env m options) := by
  have hChecked :
      (m.withChecked env payload).pendingCorrelations =
        m.pendingCorrelations := by
    rw [m.withChecked_eq env payload]
  unfold dispatchFinancial
  cases hRefusal : m.refusal env payload gate with
  | some reply =>
      dsimp only
      rw [settledByReply_refusal hRefusal]
      exact .of_same hChecked (by simp)
  | none =>
      have hPending :
          ((m.withChecked env payload).recordDispatch env
            payload payloadWithOp accountId
            targetAccounts).pendingCorrelations =
              m.pendingCorrelations := hChecked
      exact dispatchCommand_pendingEffect env type
        (.tactical payloadWithOp) options hPending
        (m.withChecked_transport env payload) rfl

theorem dispatchGated_pendingEffect
    (env : Env)
    (m : ExecutionBoundaryManager)
    (type : ExecutionMessageType)
    (payload : Payload)
    (options : DispatchOptions) :
    PendingEffect env m
      (m.dispatchGated env type payload options).1
      (settledByReply env
        (m.dispatchGated env type payload options).2)
      ((!env.degraded) = true ∧
        DispatchThrows env m options) := by
  unfold dispatchGated
  cases hDegraded : env.degraded with
  | true => exact .of_same rfl (by simp)
  | false =>
      exact dispatchCommand_pendingEffect env type payload
        options rfl rfl rfl

theorem reconcileOperation_pendingEffect
    (env : Env)
    (m : ExecutionBoundaryManager)
    (operationId : String)
    (options : DispatchOptions) :
    PendingEffect env m
      (m.reconcileOperation env operationId options).1
      (settledByReply env
        (m.reconcileOperation env operationId options).2)
      ((m.reconciliation.task? (some operationId)
          ).isSome = true ∧
        DispatchThrows env m options) := by
  unfold reconcileOperation
    ReconciliationCoordinator.createReconcileRequest
    ReconciliationCoordinator.task?
  dsimp only
  split
  · rename_i hRequest
    split at hRequest
    · rename_i hTask
      rw [hTask]
      exact .of_same rfl (by simp)
    · cases hRequest
  · rename_i request hRequest
    split at hRequest
    · cases hRequest
    · rename_i hTask
      rw [hTask]
      apply dispatchCommand_pendingEffect env
      · rfl
      · rfl
      · rfl

/- The effect of a command on the pending promises. -/
theorem execute_pendingEffect
    (env : Env)
    (m : ExecutionBoundaryManager)
    (command : Command) :
    PendingEffect env m (m.execute env command).1
      (settledByReply env (m.execute env command).2)
      (m.dispatches env command = true ∧
        DispatchThrows env m command.options) := by
  cases command with
  | placeBet payload options =>
      exact dispatchFinancial_pendingEffect env m _ _ _ _ _
        _ options
  | cashOut payload options =>
      exact dispatchFinancial_pendingEffect env m _ _ _ _ _
        _ options
  | captureSnapshot options =>
      exact dispatchCommand_pendingEffect env _ _ options
        rfl rfl rfl
  | getFleetReadiness options =>
      exact dispatchCommand_pendingEffect env _ _ options
        rfl rfl rfl
  | initializeWorker accounts options =>
      apply dispatchCommand_pendingEffect env
      · rfl
      · rfl
      · rfl
  | stopCluster timeoutMs options =>
      apply dispatchCommand_pendingEffect env
      · rfl
      · rfl
      · rfl
  | reconcileOperation operationId options =>
      exact reconcileOperation_pendingEffect env m
        operationId options
  | _ => exact dispatchGated_pendingEffect env m _ _ _

/- A dispatch that does not wait registers nothing. -/
theorem dispatchEnvelope_pending_of_not_wait
    (env : Env)
    (m : ExecutionBoundaryManager)
    (type : ExecutionMessageType)
    (payload : Payload)
    {options : DispatchOptions}
    (hWait : options.waitForAck = false) :
    (m.dispatchEnvelope env type payload
        options).1.pendingCorrelations =
      m.pendingCorrelations := by
  unfold dispatchEnvelope
  cases hStart : m.startServer env with
  | none => rfl
  | some started =>
      rcases startServer_eq_some hStart with
        ⟨transport, -, rfl⟩
      dsimp only
      rw [hWait]
      simp only [Bool.false_eq_true, if_false]
      split
      · rfl
      · rfl

theorem handlePayload_pendingCorrelations
    (env : Env)
    (m : ExecutionBoundaryManager)
    (payload : InboundPayload) :
    (m.handlePayload env payload).1.pendingCorrelations =
      m.pendingCorrelations := by
  cases payload with
  | operationResult result =>
      rcases m.forgetInFlight_eq result with
        ⟨inFlight, hForget⟩
      unfold handlePayload handleOperationResult
      dsimp only
      rw [hForget, recordOutcome_eq]
      rfl
  | _ => rfl

theorem handleClientDisconnected_pendingEffect
    (env : Env)
    (m : ExecutionBoundaryManager)
    (connId : Nat) :
    PendingEffect env m
      (m.handleClientDisconnected connId).1
      (m.rejectedByDrop connId) False := by
  unfold handleClientDisconnected rejectedByDrop
  dsimp only
  split
  · exact .of_same rfl (fun hFalse => hFalse)
  · exact .of_cleared rfl

/- An answered promise is one of the pending ones. -/
theorem answered_pending
    {m : ExecutionBoundaryManager}
    (hKeyed : Keyed m)
    {envelope : InboundEnvelope}
    {pending : PendingCorrelation}
    (hAnswered :
      m.answeredCorrelation envelope = some pending) :
    m.pendingCorrelations.get? pending.msgId =
      some pending := by
  unfold answeredCorrelation at hAnswered
  split at hAnswered
  · rename_i found hFound
    cases hAnswered
    rw [hKeyed _ _ hFound]
    exact hFound
  · have hMem := List.mem_of_find?_eq_some hAnswered
    rcases List.mem_map.mp hMem with
      ⟨⟨id, stored⟩, hEntry, hStored⟩
    cases hStored
    have hFound :=
      (OrderedMap.get?_eq_some_iff _ _ _).mpr hEntry
    rw [hKeyed _ _ hFound]
    exact hFound

theorem envelope_pendingEffect
    (env : Env)
    {m : ExecutionBoundaryManager}
    (hKeyed : Keyed m)
    (connId : Nat)
    (envelope : InboundEnvelope) :
    PendingEffect env m
      (m.react env (.data connId (.envelope envelope))).1
      (m.settlements env
        (.data connId (.envelope envelope))) False := by
  have hNext :
      (m.react env
          (.data connId (.envelope envelope))
        ).1.pendingCorrelations =
        (m.settleCorrelation envelope
          ).pendingCorrelations :=
    handlePayload_pendingCorrelations env _ _
  have hSettled :
      m.settlements env
          (.data connId (.envelope envelope)) =
        (m.answeredCorrelation envelope).toList.map
          (fun pending => (pending.msgId, .resolved)) := rfl
  rw [hSettled]
  unfold settleCorrelation at hNext
  cases hAnswered : m.answeredCorrelation envelope with
  | none =>
      rw [hAnswered] at hNext
      have hSame :
          (m.react env
              (.data connId (.envelope envelope))
            ).1.pendingCorrelations =
            m.pendingCorrelations := hNext
      exact .of_same hSame (fun hFalse => hFalse)
  | some pending =>
      rw [hAnswered] at hNext
      exact .of_deleted
        (OrderedMap.has_of_get?
          (answered_pending hKeyed hAnswered))
        .resolved hNext

/- What one turn does to the pending promises. -/
theorem react_pendingEffect
    (env : Env)
    {m : ExecutionBoundaryManager}
    (hKeyed : Keyed m)
    (input : Input) :
    PendingEffect env m (m.react env input).1
      (m.settlements env input)
      (WriteThrows env m input) := by
  have hFalse : ¬ False := fun hFalse => hFalse
  cases input with
  | command command => exact execute_pendingEffect env m command
  | startServer =>
      unfold react
      cases hStart : m.startServer env with
      | none => exact .of_same rfl hFalse
      | some started =>
          rcases startServer_eq_some hStart with
            ⟨transport, -, rfl⟩
          exact .of_same rfl hFalse
  | stopServer => exact .of_cleared rfl
  | manualResolve operationId outcome note =>
      exact .of_same rfl hFalse
  | uncertainOperations ops => exact .of_same rfl hFalse
  | connected connId =>
      exact .of_same
        (dispatchEnvelope_pending_of_not_wait env _
          .CAPTURE_SNAPSHOT .empty rfl) hFalse
  | disconnected connId =>
      exact handleClientDisconnected_pendingEffect env m
        connId
  | data connId data =>
      cases data with
      | oversized =>
          exact handleClientDisconnected_pendingEffect env m
            connId
      | unparsable => exact .of_same rfl hFalse
      | invalid => exact .of_same rfl hFalse
      | legacyHeartbeat => exact .of_same rfl hFalse
      | envelope envelope =>
          exact envelope_pendingEffect env hKeyed connId
            envelope
  | checkLiveness => exact .of_same rfl hFalse
  | correlationTimeout msgId =>
      unfold settlements
      dsimp only
      split
      · rename_i hPending
        exact .of_deleted hPending .rejected rfl
      · apply PendingEffect.of_fewer
        intro id pending hPending
        have hGet :
            (m.pendingCorrelations.delete msgId).get? id =
              some pending := hPending
        rw [OrderedMap.get?_delete] at hGet
        split at hGet
        · cases hGet
        · exact hGet

------------------------------------------------------------
-- Named Commands
------------------------------------------------------------

/- The reply names a message by its id. -/
def Names
    (envelope : InboundEnvelope)
    (msgId : String) : Prop :=
  envelope.msgId = msgId ∨
    msgId ≠ "" ∧
      (envelope.correlationId = some msgId ∨
        envelope.payloadMsgId = some msgId)

/- The ids by which a reply is matched in the second place. -/
def candidateKeys
    (envelope : InboundEnvelope) : List (Option String) :=
  [some envelope.traceId, envelope.correlationId,
    envelope.payloadTraceId,
    envelope.payloadMsgId].filter present

/- The trace or message id of a promise is a candidate. -/
def Matches
    (envelope : InboundEnvelope)
    (pending : PendingCorrelation) : Bool :=
  (candidateKeys envelope).contains
      (some pending.traceId) ||
    (candidateKeys envelope).contains (some pending.msgId)

/-
  Every promise that the reply names is the one of its own
  message id, or that id is not pending and no promise
  before it in the order of the dispatches matches.
-/
def NamedFirst
    (m : ExecutionBoundaryManager)
    (envelope : InboundEnvelope) : Prop :=
  ∀ id pending,
    m.pendingCorrelations.get? id = some pending →
      Names envelope id →
      envelope.msgId = id ∨
        m.pendingCorrelations.has envelope.msgId = false ∧
          ∃ before after,
            m.pendingCorrelations.values =
                before ++ pending :: after ∧
              ∀ other ∈ before,
                Matches envelope other = false

/- A promise that a reply names is a candidate. -/
theorem matches_of_names
    {envelope : InboundEnvelope}
    {pending : PendingCorrelation}
    (hNames : Names envelope pending.msgId)
    (hOther : envelope.msgId ≠ pending.msgId) :
    Matches envelope pending = true := by
  rcases hNames with hOwn | ⟨hFilled, hNamed⟩
  · exact absurd hOwn hOther
  · have hPresent : present (some pending.msgId) = true := by
      simpa [present] using hFilled
    have hCandidate :
        some pending.msgId ∈ candidateKeys envelope := by
      refine List.mem_filter.mpr ⟨?_, hPresent⟩
      rcases hNamed with hNamed | hNamed
      · simp [hNamed]
      · simp [hNamed]
    unfold Matches
    rw [Bool.or_eq_true]
    exact Or.inr (List.contains_iff_mem.mpr hCandidate)

/- The named promise is the one that the reply answers. -/
theorem answered_iff_namedFirst
    {m : ExecutionBoundaryManager}
    (hKeyed : Keyed m)
    {envelope : InboundEnvelope}
    {id : String}
    {pending : PendingCorrelation}
    (hPending :
      m.pendingCorrelations.get? id = some pending)
    (hNames : Names envelope id) :
    m.answeredCorrelation envelope = some pending ↔
      envelope.msgId = id ∨
        m.pendingCorrelations.has envelope.msgId = false ∧
          ∃ before after,
            m.pendingCorrelations.values =
                before ++ pending :: after ∧
              ∀ other ∈ before,
                Matches envelope other = false := by
  have hId := hKeyed id pending hPending
  unfold answeredCorrelation OrderedMap.has
  cases hOwn :
      m.pendingCorrelations.get? envelope.msgId with
  | some own =>
      have hOwnId := hKeyed _ own hOwn
      simp only [Option.isSome_some, Bool.true_eq_false,
        false_and, or_false, Option.some.injEq]
      constructor
      · intro hSame
        rw [← hOwnId, hSame, hId]
      · intro hSame
        rw [hSame, hPending] at hOwn
        exact (Option.some.inj hOwn).symm
  | none =>
      have hOther : envelope.msgId ≠ id := by
        intro hSame
        rw [hSame, hPending] at hOwn
        cases hOwn
      have hMatches : Matches envelope pending = true := by
        apply matches_of_names
        · rw [hId]
          exact hNames
        · rw [hId]
          exact hOther
      simp only [hOther, false_or, Option.isSome_none,
        true_and]
      change
        m.pendingCorrelations.values.find?
            (Matches envelope) = some pending ↔ _
      rw [List.find?_eq_some_iff_append]
      simp [hMatches]

end ExecutionBoundaryManager

end ControlPlane

------------------------------------------------------------
-- Conversations
------------------------------------------------------------

namespace ControlPlane

/-
  The boundary with the message ids handed out so far and
  the promises settled so far.
-/
structure Conversation where
  boundary : Boundary
  issued : List String
  settled : List (String × CallOutcome)

namespace Conversation

open ExecutionBoundaryManager

/- A conversation that starts with what is pending. -/
def start (b : Boundary) : Conversation where
  boundary := b
  issued := b.manager.pendingCorrelations.keys
  settled := []

/- The promises that the next event settles. -/
def settling
    (c : Conversation)
    (event : Event) : List (String × CallOutcome) :=
  c.boundary.manager.settlements (c.boundary.env event)
    event.input

def step
    (c : Conversation)
    (event : Event) : Conversation where
  boundary := c.boundary.step event
  issued := event.surroundings.msgUlid :: c.issued
  settled := c.settled ++ c.settling event

/- The message id of a turn has not been used before. -/
def FreshId
    (c : Conversation)
    (event : Event) : Prop :=
  event.surroundings.msgUlid ∉ c.issued

instance FreshId.decidable
    (c : Conversation)
    (event : Event) :
    Decidable (FreshId c event) :=
  inferInstanceAs
    (Decidable (event.surroundings.msgUlid ∉ c.issued))

/- No promise is settled twice, and none stays pending. -/
structure SettledOnce (c : Conversation) : Prop where
  nodup : (c.settled.map Prod.fst).Nodup
  absent :
    ∀ entry ∈ c.settled,
      c.boundary.manager.pendingCorrelations.has entry.1 =
        false

/-
  A reply settles at most one promise, and if it names a
  pending command it resolves that one and no other.
-/
def RepliesReach
    (c : Conversation)
    (event : Event) : Prop :=
  ∀ connId envelope,
    event.input = .data connId (.envelope envelope) →
      (c.settling event).length ≤ 1 ∧
        ∀ id pending,
          c.boundary.manager.pendingCorrelations.get? id =
              some pending →
            Names envelope id →
            c.settling event = [(id, .resolved)]

/- The event keeps to the claim. -/
def Good
    (c : Conversation)
    (event : Event) : Prop :=
  RepliesReach c event ∧ SettledOnce (c.step event)

/-
  A reply finds the command it names first, and no write of
  a command that waits for its answer throws.
-/
def Sound
    (c : Conversation)
    (event : Event) : Prop :=
  (∀ connId envelope,
    event.input = .data connId (.envelope envelope) →
      NamedFirst c.boundary.manager envelope) ∧
    ¬ WriteThrows (c.boundary.env event)
      c.boundary.manager event.input

/- All ids of the conversation were handed out. -/
structure Orderly (c : Conversation) : Prop where
  keyed : Keyed c.boundary.manager
  pending_issued :
    ∀ id,
      c.boundary.manager.pendingCorrelations.has id = true →
        id ∈ c.issued
  settled_issued :
    ∀ entry ∈ c.settled, entry.1 ∈ c.issued
  once : SettledOnce c

/- The effect of an event on the pending promises. -/
theorem step_pendingEffect
    {c : Conversation}
    (hKeyed : Keyed c.boundary.manager)
    (event : Event) :
    PendingEffect (c.boundary.env event) c.boundary.manager
      (c.step event).boundary.manager (c.settling event)
      (WriteThrows (c.boundary.env event)
        c.boundary.manager event.input) :=
  react_pendingEffect (c.boundary.env event) hKeyed
    event.input

/- A promise that was not pending is not pending later. -/
theorem stays_absent
    {c : Conversation}
    (hKeyed : Keyed c.boundary.manager)
    {event : Event}
    {id : String}
    (hAbsent :
      c.boundary.manager.pendingCorrelations.has id = false)
    (hOld : id ≠ event.surroundings.msgUlid) :
    (c.step event).boundary.manager.pendingCorrelations.has
      id = false := by
  cases hGet :
      (c.step event
        ).boundary.manager.pendingCorrelations.get? id with
  | none => exact OrderedMap.has_of_get?_none hGet
  | some pending =>
      rcases (step_pendingEffect hKeyed event).kept id
          pending hGet with hBefore | ⟨hNew, -⟩
      · rw [OrderedMap.has_of_get? hBefore] at hAbsent
        cases hAbsent
      · exact absurd hNew hOld

/-
  What an event settles was not settled before, and is gone
  afterwards unless a write throws.
-/
theorem settledOnce_step_iff
    {c : Conversation}
    (hOrderly : Orderly c)
    {event : Event}
    (hFresh : FreshId c event) :
    SettledOnce (c.step event) ↔
      ¬ WriteThrows (c.boundary.env event)
        c.boundary.manager event.input := by
  have hEffect := step_pendingEffect hOrderly.keyed event
  rw [← hEffect.gone_iff]
  constructor
  · intro hOnce entry hEntry
    exact hOnce.absent entry
      (List.mem_append_right _ hEntry)
  · intro hGone
    refine ⟨?_, ?_⟩
    · change
        ((c.settled ++ c.settling event).map Prod.fst).Nodup
      rw [List.map_append, List.nodup_append]
      refine ⟨hOrderly.once.nodup, hEffect.nodup, ?_⟩
      intro old hOld new hNew hSame
      rcases List.mem_map.mp hOld with ⟨past, hPast, rfl⟩
      rcases List.mem_map.mp hNew with ⟨entry, hEntry, rfl⟩
      rcases hEffect.settled_from entry hEntry with
        hPending | hIssued
      · rw [← hSame, hOrderly.once.absent past hPast]
          at hPending
        cases hPending
      · apply hFresh
        rw [hIssued] at hSame
        exact hSame ▸ hOrderly.settled_issued past hPast
    · intro entry hEntry
      rcases List.mem_append.mp hEntry with hPast | hNew
      · apply stays_absent hOrderly.keyed
        · exact hOrderly.once.absent entry hPast
        · intro hSame
          apply hFresh
          rw [← hSame]
          exact hOrderly.settled_issued entry hPast
      · exact hGone entry hNew

theorem orderly_step
    {c : Conversation}
    (hOrderly : Orderly c)
    {event : Event}
    (hOnce : SettledOnce (c.step event)) :
    Orderly (c.step event) := by
  have hEffect := step_pendingEffect hOrderly.keyed event
  refine ⟨?_, ?_, ?_, hOnce⟩
  · intro id pending hPending
    rcases hEffect.kept id pending hPending with
      hBefore | ⟨-, hNew⟩
    · exact hOrderly.keyed id pending hBefore
    · exact hNew
  · intro id hHas
    rcases Option.isSome_iff_exists.mp hHas with
      ⟨pending, hPending⟩
    rcases hEffect.kept id pending hPending with
      hBefore | ⟨hNew, -⟩
    · exact List.mem_cons_of_mem _
        (hOrderly.pending_issued id
          (OrderedMap.has_of_get? hBefore))
    · rw [hNew]
      exact List.mem_cons_self
  · intro entry hEntry
    rcases List.mem_append.mp hEntry with hPast | hNew
    · exact List.mem_cons_of_mem _
        (hOrderly.settled_issued entry hPast)
    · rcases hEffect.settled_from entry hNew with
        hPending | hIssued
      · exact List.mem_cons_of_mem _
          (hOrderly.pending_issued _ hPending)
      · rw [hIssued]
        exact List.mem_cons_self

theorem repliesReach_iff
    {c : Conversation}
    (hKeyed : Keyed c.boundary.manager)
    (event : Event) :
    RepliesReach c event ↔
      ∀ connId envelope,
        event.input = .data connId (.envelope envelope) →
          NamedFirst c.boundary.manager envelope := by
  unfold RepliesReach NamedFirst
  apply forall_congr'
  intro connId
  apply forall_congr'
  intro envelope
  apply imp_congr_right
  intro hInput
  have hSettling :
      c.settling event =
        (c.boundary.manager.answeredCorrelation
          envelope).toList.map
            (fun pending => (pending.msgId, .resolved)) := by
    unfold settling
    rw [hInput]
    rfl
  have hLength : (c.settling event).length ≤ 1 := by
    rw [hSettling, List.length_map]
    cases c.boundary.manager.answeredCorrelation
      envelope <;> simp
  rw [and_iff_right hLength]
  apply forall_congr'
  intro id
  apply forall_congr'
  intro pending
  apply imp_congr_right
  intro hPending
  apply imp_congr_right
  intro hNames
  rw [← answered_iff_namedFirst hKeyed hPending hNames,
    hSettling]
  cases hAnswered :
      c.boundary.manager.answeredCorrelation envelope with
  | none => simp
  | some found =>
      have hFound := answered_pending hKeyed hAnswered
      have hId := hKeyed id pending hPending
      constructor
      · intro hSettles
        have hSame : found.msgId = id := by
          simpa using hSettles
        rw [hSame, hPending] at hFound
        rw [Option.some.inj hFound]
      · intro hSame
        rw [Option.some.inj hSame, Option.toList_some,
          List.map_singleton, hId]

/-
  In every conversation with fresh message ids, the events
  keep to the claim exactly when they are sound.
-/
theorem replies_reach_iff
    (b : Boundary)
    (hKeyed : Keyed b.manager)
    (events : List Event)
    (hFresh : Along step FreshId (start b) events) :
    Along step Good (start b) events ↔
      Along step Sound (start b) events := by
  have hAgree :
      ∀ c event, Orderly c → FreshId c event →
        (Good c event ↔ Sound c event) :=
    fun c event hOrderly hNew =>
      and_congr (repliesReach_iff hOrderly.keyed event)
        (settledOnce_step_iff hOrderly hNew)
  have hKept :
      ∀ c event, Orderly c → FreshId c event →
        Good c event → Orderly (c.step event) :=
    fun c event hOrderly _ hGood =>
      orderly_step hOrderly hGood.2
  apply along_congr_of_kept hAgree hKept _ hFresh
  refine ⟨hKeyed, ?_, ?_, ⟨List.nodup_nil, ?_⟩⟩
  · intro id hHas
    rcases Option.isSome_iff_exists.mp hHas with
      ⟨pending, hPending⟩
    exact List.mem_map.mpr ⟨(id, pending),
      (OrderedMap.get?_eq_some_iff _ _ _).mp hPending, rfl⟩
  · intro entry hEntry
    cases hEntry
  · intro entry hEntry
    cases hEntry

/- A query that waits for its answer, with its ids. -/
def query (msgUlid traceId : String) : Event where
  elapsed := 1
  surroundings :=
    { Surroundings.healthy with msgUlid := msgUlid }
  input :=
    .command (.getFleetReadiness
      { traceId := some traceId
        waitForAck := true })

/- A reply that names a message by its correlation id. -/
def replyTo
    (msgUlid traceId correlationId : String) : Event where
  elapsed := 1
  surroundings :=
    { Surroundings.healthy with msgUlid := msgUlid }
  input :=
    .data 1 (.envelope
      { msgId := "ep_1"
        traceId := traceId
        correlationId := some correlationId
        payload := .telemetry .FLEET_READINESS })

/- The promise of a query. -/
def waitingOn
    (msgId traceId : String) : PendingCorrelation where
  type := .GET_FLEET_READINESS
  msgId := msgId
  traceId := traceId

/- Two queries on traces of their own, and a reply. -/
def separateTraces : List Event :=
  [query "m1" "t1", query "m2" "t2", replyTo "m3" "t2" "m2"]

/- Two queries on one trace, and a reply to the second. -/
def sharedTrace : List Event :=
  [query "m1" "t", query "m2" "t", replyTo "m3" "t" "m2"]

/- An idle manager with one connection keeps no promises. -/
theorem keyed_connected :
    Keyed (Boundary.connected 10).manager := by
  intro id pending hPending
  have hNone :
      (Boundary.connected 10
        ).manager.pendingCorrelations.entries = [] := by
    decide +kernel
  have hMem :=
    (OrderedMap.get?_eq_some_iff _ _ _).mp hPending
  rw [hNone] at hMem
  cases hMem

/-
  On one trace the reply to the second query resolves the
  first one.
-/
theorem shared_trace_misroutes :
    Along step FreshId (start (Boundary.connected 10))
        sharedTrace ∧
      (run step (start (Boundary.connected 10))
        sharedTrace).settled = [("m1", .resolved)] ∧
      ¬ Along step Good (start (Boundary.connected 10))
        sharedTrace := by
  have hSettled :
      (run step (start (Boundary.connected 10))
        sharedTrace).settled = [("m1", .resolved)] := by
    decide +kernel
  refine ⟨?_, hSettled, ?_⟩
  · exact ⟨by decide +kernel, by decide +kernel,
      by decide +kernel, trivial⟩
  · intro hAlong
    have hPending :
        ((run step (start (Boundary.connected 10))
          [query "m1" "t", query "m2" "t"]
          ).boundary.manager.pendingCorrelations.get?
            "m2").isSome = true := by
      decide +kernel
    rcases Option.isSome_iff_exists.mp hPending with
      ⟨pending, hFound⟩
    have hReached :=
      (hAlong.2.2.1.1 1 _ rfl).2 "m2" pending hFound
        (Or.inr ⟨by decide, Or.inl rfl⟩)
    have hWrong :
        (run step (start (Boundary.connected 10))
          [query "m1" "t", query "m2" "t"]).settling
            (replyTo "m3" "t" "m2") =
          [("m1", .resolved)] := by
      decide +kernel
    have hBoth := hWrong.symm.trans hReached
    exact absurd hBoth (by decide)

/- On traces of their own the reply finds its query. -/
theorem separate_traces_reach :
    Keyed (Boundary.connected 10).manager ∧
      Along step FreshId (start (Boundary.connected 10))
        separateTraces ∧
      Along step Good (start (Boundary.connected 10))
        separateTraces := by
  have hFresh :
      Along step FreshId (start (Boundary.connected 10))
        separateTraces :=
    ⟨by decide +kernel, by decide +kernel,
      by decide +kernel, trivial⟩
  refine ⟨keyed_connected, hFresh,
    (replies_reach_iff _ keyed_connected _ hFresh).mpr
      ⟨⟨?_, ?_⟩, ⟨?_, ?_⟩, ⟨?_, ?_⟩, trivial⟩⟩
  · intro connId envelope hInput
    cases hInput
  · rintro ⟨-, -, -, hThrown⟩
    exact absurd hThrown (by decide +kernel)
  · intro connId envelope hInput
    cases hInput
  · rintro ⟨-, -, -, hThrown⟩
    exact absurd hThrown (by decide +kernel)
  · intro connId envelope hInput
    cases hInput
    intro id pending hPending hNames
    rcases hNames with hOwn | ⟨-, hNamed | hNamed⟩
    · exact Or.inl hOwn
    · cases hNamed
      have hSecond :
          (run step (start (Boundary.connected 10))
            [query "m1" "t1", query "m2" "t2"]
            ).boundary.manager.pendingCorrelations.get?
              "m2" = some (waitingOn "m2" "t2") := by
        decide +kernel
      cases Option.some.inj (hPending.symm.trans hSecond)
      exact Or.inr ⟨by decide +kernel,
        [waitingOn "m1" "t1"], [], by decide +kernel,
        by decide +kernel⟩
    · cases hNamed
  · intro hThrows
    cases hThrows

end Conversation

end ControlPlane
