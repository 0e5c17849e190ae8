import ControlPlane.Boundary.DurableCoordinator
import ControlPlane.Boundary.DurableLedger
import ControlPlane.Boundary.Idempotency

/-
  Restarts of the control plane.

  The ledger and the coordinator take up the tables of a
  storage engine when they are constructed with one. The
  exported manager is constructed without options, and the
  bootstrap hands the engine of the shared state store to
  the backend sync service only, so a new process starts
  with an empty ledger and without a freeze, whatever the
  database file holds.

  A restart is therefore harmless exactly when it has
  nothing to lose: no account is frozen and every dispatched
  key is older than the limit of the ledger.

  Main declarations:
    * `executionBoundaryManager`
    * `Process` and `Process.step`
    * `Process.Survives` and `Process.QuietRestart`
    * `Process.survives_iff_quietRestart`
-/

------------------------------------------------------------
-- Construction
------------------------------------------------------------

namespace ControlPlane

/- The tables of the boundary in the database file. -/
structure StoreFile where
  ledger :
    Table (LedgerRow TacticalPayload OperationResult) String
      LedgerRow.key
  frozen : Table FreezeRow String FreezeRow.key
  queue :
    Table (QueueRow Details) String QueueRow.operationId

/- A database file before its first use. -/
def StoreFile.empty : StoreFile where
  ledger := Table.empty
  frozen := Table.empty
  queue := Table.empty

/- A ledger with an engine takes up the rows of its table. -/
def IdempotencyLedger.construct
    (now maxAgeMs maxEntries : Nat)
    (engine : Option StoreFile) :
    IdempotencyLedger TacticalPayload OperationResult :=
  match engine with
  | some file =>
      (DurableLedger.reopen
        { memory := fresh maxAgeMs maxEntries
          table := file.ledger } now).memory
  | none => fresh maxAgeMs maxEntries

/- A coordinator with an engine takes up its tables. -/
def ReconciliationCoordinator.construct
    (engine : Option StoreFile) :
    ReconciliationCoordinator Details :=
  match engine with
  | some file =>
      (DurableCoordinator.reopen
        { memory := fresh
          frozen := file.frozen
          queue := file.queue }).memory
  | none => fresh

/- The options of the manager that keep financial state. -/
structure BoundaryOptions where
  idempotencyLedger :
    Option (IdempotencyLedger TacticalPayload
      OperationResult) := none
  reconciliationCoordinator :
    Option (ReconciliationCoordinator Details) := none

/-
  The manager makes a ledger and a coordinator of its own,
  with the default limits and without an engine, when the
  options have none.
-/
def ExecutionBoundaryManager.construct
    (now : Nat)
    (options : BoundaryOptions) :
    ExecutionBoundaryManager :=
  { fresh 86400000 10000
      (WatchdogMonitor.fresh 6000 12000 25000) with
    idempotency :=
      options.idempotencyLedger.getD
        (IdempotencyLedger.construct now 86400000 10000 none)
    reconciliation :=
      options.reconciliationCoordinator.getD
        (ReconciliationCoordinator.construct none) }

/- The exported instance of a process. -/
def executionBoundaryManager
    (now : Nat) : ExecutionBoundaryManager :=
  ExecutionBoundaryManager.construct now {}

------------------------------------------------------------
-- Delivered Dispatches
------------------------------------------------------------

namespace ExecutionBoundaryManager

/- A dispatch that a client accepts is logged. -/
theorem dispatchEnvelope_sent
    {env : Env}
    {m : ExecutionBoundaryManager}
    (type : ExecutionMessageType)
    (payload : Payload)
    (options : DispatchOptions)
    (hListening : m.transport.isListening = true)
    (hWritten :
      (PipeTransport.writeAll env.native
        m.transport.activeConnections).1 ≠ 0) :
    (m.dispatchEnvelope env type payload
        options).1.transport.sent =
      m.transport.sent ++
        [createExecutionEnvelope env type payload
          options.traceId] := by
  have hStart :
      m.startServer env =
        some { m with watchdog := m.watchdog.start } := by
    unfold startServer PipeTransport.startServer
    rw [if_pos hListening]
  have hSent :
      (m.transport.broadcast env.native
          (createExecutionEnvelope env type payload
            options.traceId)).1.sent =
        m.transport.sent ++
          [createExecutionEnvelope env type payload
            options.traceId] := by
    unfold PipeTransport.broadcast
    dsimp only
    rw [if_neg hWritten]
  unfold dispatchEnvelope
  rw [hStart]
  dsimp only
  split
  · split
    · exact hSent
    · exact hSent
    · exact hSent
  · split
    · exact hSent
    · exact hSent

/- An admitted bet or cash-out is handed over. -/
theorem handed_of_admitted
    {env : Env}
    {m : ExecutionBoundaryManager}
    (type : ExecutionMessageType)
    {payload : TacticalPayload}
    (payloadWithOp : TacticalPayload)
    (accountId : Option String)
    (targetAccounts : List String)
    {gate : Option Denial}
    (options : DispatchOptions)
    (hAdmitted : m.refusal env payload gate = none)
    (hListening : m.transport.isListening = true)
    (hWritten :
      (PipeTransport.writeAll env.native
        m.transport.activeConnections).1 ≠ 0) :
    handed m
        (m.dispatchFinancial env type payload payloadWithOp
          accountId targetAccounts gate options).1 =
      [createExecutionEnvelope env type
        (.tactical payloadWithOp) options.traceId] := by
  have hTransport := m.withChecked_transport env payload
  have hSent :
      (m.dispatchFinancial env type payload payloadWithOp
          accountId targetAccounts gate
          options).1.transport.sent =
        m.transport.sent ++
          [createExecutionEnvelope env type
            (.tactical payloadWithOp) options.traceId] := by
    unfold dispatchFinancial dispatchCommand
    rw [hAdmitted]
    dsimp only
    rw [dispatchEnvelope_sent]
    · exact congrArg (fun t => t.sent ++ _) hTransport
    · exact (congrArg (·.isListening) hTransport).trans
        hListening
    · intro hNone
      apply hWritten
      rw [← hTransport]
      exact hNone
  unfold handed
  rw [hSent]
  exact List.drop_left

end ExecutionBoundaryManager

/- A payload keeps a key that is not empty. -/
theorem ExecutionBoundaryManager.idempotencyKeyOf_of_present
    (env : Env)
    {payload : TacticalPayload}
    {key : String}
    (hField : payload.idempotencyKey = some key)
    (hKey : key ≠ "") :
    idempotencyKeyOf env payload = key := by
  unfold idempotencyKeyOf
  rw [hField]
  exact if_neg hKey

/- An admitted bet hands its key to the clients. -/
theorem Boundary.hands_placeBet
    {b : Boundary}
    {event : Event}
    {payload : TacticalPayload}
    {options : DispatchOptions}
    (hInput :
      event.input = .command (.placeBet payload options))
    (hAdmitted :
      b.manager.refusal (b.env event) payload
        (b.manager.betGate (b.env event) payload) = none)
    (hListening : b.manager.transport.isListening = true)
    (hWritten :
      (PipeTransport.writeAll event.surroundings.native
        b.manager.transport.activeConnections).1 ≠ 0) :
    Hands
      (ExecutionBoundaryManager.idempotencyKeyOf (b.env event)
        payload) b event := by
  have hHanded :=
    ExecutionBoundaryManager.handed_of_admitted
      .PLACE_BET
      (ExecutionBoundaryManager.betWithOp (b.env event)
        payload)
      payload.accountId
      (ExecutionBoundaryManager.betTargets payload) options
      hAdmitted hListening hWritten
  unfold Hands step
  rw [hInput]
  refine ⟨ExecutionBoundaryManager.createExecutionEnvelope
    (b.env event) .PLACE_BET
    (.tactical
      (ExecutionBoundaryManager.betWithOp (b.env event)
        payload)) options.traceId, ?_, rfl⟩
  exact (congrArg (fun frames => _ ∈ frames) hHanded).mpr
    (List.mem_singleton_self _)

/- A new key passes the duplicate check and the gates. -/
theorem ExecutionBoundaryManager.refusal_of_new
    {env : Env}
    {m : ExecutionBoundaryManager}
    {payload : TacticalPayload}
    {gate : Option Denial}
    (hSystem : env.degraded = false)
    (hWatchdog : m.watchdog.isDegraded = false)
    (hNew :
      m.idempotency.get? (idempotencyKeyOf env payload) =
        none)
    (hGate : gate = none) :
    m.refusal env payload gate = none := by
  have hChecked :
      (m.idempotency.check env.now
        (idempotencyKeyOf env payload)).2 = none := by
    rw [IdempotencyLedger.check_answer _ _
      (Boundary.idempotencyKeyOf_ne_empty env payload), hNew]
    rfl
  unfold refusal
  rw [hSystem, hWatchdog, hChecked, hGate]
  rfl

------------------------------------------------------------
-- Processes
------------------------------------------------------------

/- A control plane process on its database file. -/
structure Process where
  boundary : Boundary
  file : StoreFile

namespace Process

/-
  A turn of a process, or its end, followed by a new process
  some time later. A graceful shutdown is a restart after
  the turns that stop the server and report the operations
  in quarantine.
-/
inductive Turn where
| event (event : Event)
| restart (downMs : Nat)

/-
  A new process. The bootstrap leaves the exported instance
  as it was constructed.
-/
def launch
    (file : StoreFile)
    (now : Nat)
    (hNow : 0 < now) : Process where
  boundary :=
    { manager := executionBoundaryManager now
      now := now
      now_pos := hNow }
  file := file

/- The first process on a file, some time after the epoch. -/
def boot
    (file : StoreFile)
    (sinceEpoch : Nat) : Process :=
  launch file (sinceEpoch + 1) (Nat.succ_pos sinceEpoch)

/- Without an engine no turn touches the file. -/
def step (p : Process) : Turn → Process
| .event event =>
    { p with boundary := Boundary.step p.boundary event }
| .restart downMs =>
    launch p.file (p.boundary.now + downMs)
      (Nat.add_pos_left p.boundary.now_pos downMs)

def now (p : Process) : Nat :=
  p.boundary.now

def isAccountFrozen
    (p : Process)
    (account : String) : Bool :=
  p.boundary.manager.isAccountFrozen account

theorem now_le_step
    (p : Process)
    (turn : Turn) :
    p.now ≤ (step p turn).now := by
  cases turn with
  | event event => exact Nat.le_add_right _ _
  | restart downMs => exact Nat.le_add_right _ _

/- The clock never goes back, restarts included. -/
theorem now_le_run
    (p : Process)
    (turns : List Turn) :
    p.now ≤ (run step p turns).now := by
  induction turns generalizing p with
  | nil => exact Nat.le_refl _
  | cons turn turns ih =>
      exact Nat.le_trans (now_le_step p turn)
        (ih (step p turn))

/- A new process has no frozen account. -/
theorem isAccountFrozen_restart
    (p : Process)
    (downMs : Nat)
    (account : String) :
    (step p (.restart downMs)).isAccountFrozen account =
      false := rfl

end Process

------------------------------------------------------------
-- What A Restart Should Keep
------------------------------------------------------------

namespace Process

/- The turn hands a bet or cash-out under the key over. -/
def Dispatches
    (key : String)
    (p : Process) : Turn → Prop
| .event event => Boundary.Hands key p.boundary event
| .restart _ => False

instance
    (key : String)
    (p : Process) :
    ∀ turn, Decidable (Dispatches key p turn)
| .event event =>
    inferInstanceAs
      (Decidable (Boundary.Hands key p.boundary event))
| .restart _ => inferInstanceAs (Decidable False)

/- The turn receives a failure of the key. -/
def ReceivesFailure
    (key : String)
    (p : Process) : Turn → Prop
| .event event =>
    Boundary.ReceivesFailure key p.boundary event
| .restart _ => False

/- The turn is a bet or cash-out with a forced retry. -/
def ForcesRetry : Turn → Prop
| .event event => Boundary.ForcesRetry event
| .restart _ => False

/- A stretch of turns that receives a failure of the key. -/
def FailureReceived
    (key : String)
    (p : Process)
    (turns : List Turn) : Prop :=
  ∃ past turn future,
    turns = past ++ turn :: future ∧
      ReceivesFailure key (run step p past) turn

/-
  A key that was dispatched before a restart is dispatched
  again after it, within the limit of the ledger, only after
  a failure and with a forced retry.
-/
def AtMostOnce
    (start : Process)
    (turns : List Turn) : Prop :=
  ∀ past first between second future key downMs,
    turns = past ++ first :: (between ++ second :: future) →
      Turn.restart downMs ∈ between →
        Dispatches key (run step start past) first →
          Dispatches key
              (run step (run step start (past ++ [first]))
                between) second →
            (step
                (run step (run step start (past ++ [first]))
                  between) second).now -
              (run step start (past ++ [first])).now ≤
                (run step start past).boundary.ledger.maxAgeMs →
              FailureReceived key
                  (run step start (past ++ [first])) between ∧
                ForcesRetry second

/- An account frozen before a restart is frozen after it. -/
def FreezesKept
    (start : Process)
    (turns : List Turn) : Prop :=
  ∀ past downMs future account,
    turns = past ++ Turn.restart downMs :: future →
      (run step start past).isAccountFrozen account = true →
        (run step start
          (past ++ [Turn.restart downMs])).isAccountFrozen
            account = true

/- The financial safety of a run with restarts. -/
def Survives
    (start : Process)
    (turns : List Turn) : Prop :=
  AtMostOnce start turns ∧ FreezesKept start turns

/-
  A restart that has nothing to lose: no account is frozen,
  and when the new process starts, every key dispatched in
  the past is older than the limit of the ledger.
-/
structure QuietRestart
    (start : Process)
    (past : List Turn)
    (downMs : Nat) : Prop where
  thawed :
    ∀ account,
      (run step start past).isAccountFrozen account = false
  expired :
    ∀ earlier first later key,
      past = earlier ++ first :: later →
        Dispatches key (run step start earlier) first →
          (run step start earlier).boundary.ledger.maxAgeMs <
            (run step start past).now + downMs -
              (run step start (earlier ++ [first])).now

------------------------------------------------------------
-- Quiet Restarts
------------------------------------------------------------

/- A key is dispatched under a name that is not empty. -/
theorem Dispatches.key_ne_empty
    {key : String}
    {p : Process}
    {turn : Turn}
    (hDispatches : Dispatches key p turn) :
    key ≠ "" := by
  cases turn with
  | event event =>
      rcases Boundary.Hands.stored hDispatches with
        ⟨payload, _, _, hKey, _⟩
      rw [← hKey]
      exact Boundary.idempotencyKeyOf_ne_empty _ payload
  | restart downMs => exact hDispatches.elim

/- A new process dispatches every key to its first client. -/
theorem dispatches_of_restart
    {key : String}
    (hKey : key ≠ "")
    (p : Process)
    (downMs : Nat) :
    Dispatches key
      (run step p
        [.restart downMs, .event ((Input.connected 1).after 0)])
      (.event ((Input.bet key false).after 0)) := by
  have hHands :
      Boundary.Hands _
        (run step p
          [.restart downMs,
            .event ((Input.connected 1).after 0)]).boundary
        ((Input.bet key false).after 0) :=
    Boundary.hands_placeBet rfl
      (ExecutionBoundaryManager.refusal_of_new rfl rfl rfl rfl)
      rfl Nat.one_ne_zero
  rw [ExecutionBoundaryManager.idempotencyKeyOf_of_present _
    rfl hKey] at hHands
  exact hHands

/- A plain bet forces no retry. -/
theorem not_forcesRetry_bet
    (key : String)
    (elapsed : Nat) :
    ¬ ForcesRetry
        (.event ((Input.bet key false).after elapsed)) := by
  rintro ⟨payload, options, hInput | hInput, hForced⟩
  · cases hInput
    cases hForced
  · cases hInput

/- The new process starts after the end of the old one. -/
theorem restart_le_run
    (p : Process)
    (early late : List Turn)
    (downMs : Nat) :
    (run step p early).now + downMs ≤
      (run step p
        (early ++ Turn.restart downMs :: late)).now := by
  rw [run_append, run_cons]
  exact now_le_run
    (step (run step p early) (.restart downMs)) late

/- A run is safe when all its restarts are quiet. -/
theorem survives_of_quietRestart
    {start : Process}
    {turns : List Turn}
    (hQuiet :
      ∀ past downMs future,
        turns = past ++ Turn.restart downMs :: future →
          QuietRestart start past downMs) :
    Survives start turns := by
  constructor
  · intro past first between second future key downMs hTurns
      hRestart hFirst _ hWithin
    rcases List.append_of_mem hRestart with
      ⟨early, late, rfl⟩
    have hSplit :
        turns =
          (past ++ first :: early) ++
            Turn.restart downMs ::
              (late ++ second :: future) := by
      rw [hTurns]
      simp
    have hExpired :=
      (hQuiet _ _ _ hSplit).expired past first early key rfl
        hFirst
    have hRun :
        run step start (past ++ first :: early) =
          run step (run step start (past ++ [first]))
            early := by
      rw [← run_append]
      simp
    rw [hRun] at hExpired
    have hLater :=
      restart_le_run (run step start (past ++ [first])) early
        late downMs
    have hLast :=
      now_le_step
        (run step (run step start (past ++ [first]))
          (early ++ Turn.restart downMs :: late)) second
    omega
  · intro past downMs future account hTurns hFrozen
    have hThawed := (hQuiet _ _ _ hTurns).thawed account
    rw [hThawed] at hFrozen
    cases hFrozen

/- A run that goes on without restarts gains none. -/
theorem restart_of_append_events
    {past before after : List Turn}
    {events : List Event}
    {downMs : Nat}
    (hSplit :
      past ++ events.map Turn.event =
        before ++ Turn.restart downMs :: after) :
    ∃ rest, past = before ++ Turn.restart downMs :: rest := by
  have hEvents :
      Turn.restart downMs ∉ events.map Turn.event := by
    intro hMember
    rcases List.mem_map.mp hMember with ⟨event, _, hEvent⟩
    cases hEvent
  rcases List.append_eq_append_iff.mp hSplit with
    ⟨middle, _, hRest⟩ | ⟨middle, hPast, hRest⟩
  · apply (hEvents _).elim
    rw [hRest]
    exact List.mem_append_right middle List.mem_cons_self
  · cases middle with
    | nil =>
        apply (hEvents _).elim
        rw [List.nil_append] at hRest
        rw [← hRest]
        exact List.mem_cons_self
    | cons turn middle =>
        rw [List.cons_append] at hRest
        rcases List.cons.inj hRest with ⟨rfl, _⟩
        exact ⟨middle, hPast⟩

/-
  After a restart, a client and a bet are all it takes to
  dispatch a key again, so at most once means that the key
  is too old to matter.
-/
theorem expired_of_atMostOnce
    {start : Process}
    {earlier later : List Turn}
    {first : Turn}
    {key : String}
    {downMs : Nat}
    (hFirst : Dispatches key (run step start earlier) first)
    (hOnce :
      ∀ events : List Event,
        AtMostOnce start
          (earlier ++ first :: later ++
            [Turn.restart downMs] ++
              events.map Turn.event)) :
    (run step start earlier).boundary.ledger.maxAgeMs <
      (run step start (earlier ++ first :: later)).now +
          downMs -
        (run step start (earlier ++ [first])).now := by
  have hRun :
      run step (run step start (earlier ++ [first]))
          (later ++
            [.restart downMs,
              .event ((Input.connected 1).after 0)]) =
        run step
          (run step start (earlier ++ first :: later))
          [.restart downMs,
            .event ((Input.connected 1).after 0)] := by
    rw [← run_append, ← run_append]
    simp
  rw [← Nat.not_le]
  intro hYoung
  apply not_forcesRetry_bet key 0
  refine (hOnce
    [(Input.connected 1).after 0,
      (Input.bet key false).after 0] earlier first
    (later ++
      [.restart downMs, .event ((Input.connected 1).after 0)])
    (.event ((Input.bet key false).after 0)) [] key downMs
    ?_ ?_ hFirst ?_ ?_).2
  · simp
  · simp
  · rw [hRun]
    exact dispatches_of_restart hFirst.key_ne_empty
      (run step start (earlier ++ first :: later)) downMs
  · rw [hRun]
    exact hYoung

/-
  A run, and every run that leaves it at some point and goes
  on without a restart, is safe exactly when all restarts of
  the run are quiet.
-/
theorem survives_iff_quietRestart
    (file : StoreFile)
    (sinceEpoch : Nat)
    (turns : List Turn) :
    (∀ past future, turns = past ++ future →
        ∀ events : List Event,
          Survives (boot file sinceEpoch)
            (past ++ events.map Turn.event)) ↔
      ∀ past downMs future,
        turns = past ++ Turn.restart downMs :: future →
          QuietRestart (boot file sinceEpoch) past downMs := by
  constructor
  · intro hSafe past downMs future hTurns
    have hSplit :
        turns = (past ++ [Turn.restart downMs]) ++ future := by
      rw [hTurns]
      simp
    constructor
    · intro account
      have hKept :=
        (hSafe _ _ hSplit []).2 past downMs [] account
          (by simp)
      rw [run_append, run_cons, run_nil,
        isAccountFrozen_restart] at hKept
      cases hFrozen :
          (run step (boot file sinceEpoch)
            past).isAccountFrozen account with
      | false => rfl
      | true => cases hKept hFrozen
    · intro earlier first later key hPast hFirst
      subst hPast
      apply expired_of_atMostOnce hFirst
      intro events
      exact (hSafe _ _ hSplit events).1
  · intro hQuiet past future hTurns events
    apply survives_of_quietRestart
    intro before downMs after hSplit
    rcases restart_of_append_events hSplit with
      ⟨rest, rfl⟩
    apply hQuiet before downMs (rest ++ future)
    rw [hTurns, List.append_assoc, List.cons_append]

/-
  A client connects, a bet is dispatched and its outcome on
  `acc_1` is reported as unknown.
-/
def uncertainBet : List Turn :=
  [.event (Input.connected 1).next,
    .event (Input.bet "k1" false).next,
    .event (Input.result
      { operationId := some "op_k1"
        status := some .UNCERTAIN
        idempotencyKey := some "k1"
        accountId := some "acc_1" }).next]

/-
  A restart a second later: the same bet is dispatched a
  second time, on an account that is no longer frozen.
-/
def betRepeated : List Turn :=
  uncertainBet ++
    [.restart 1000,
      .event (Input.connected 1).next,
      .event (Input.bet "k1" false).next]

theorem restart_repeats_bet :
    ¬ AtMostOnce (boot StoreFile.empty 0) betRepeated ∧
      ¬ FreezesKept (boot StoreFile.empty 0) betRepeated := by
  constructor
  · intro hOnce
    have hRetry :=
      (hOnce [.event (Input.connected 1).next]
        (.event (Input.bet "k1" false).next)
        (uncertainBet.drop 2 ++
          [.restart 1000, .event (Input.connected 1).next])
        (.event (Input.bet "k1" false).next) [] "k1" 1000
        rfl (by simp) (by decide) (by decide)
        (by decide)).2
    exact not_forcesRetry_bet "k1" 1 hRetry
  · intro hKept
    have hFrozen :=
      hKept uncertainBet 1000 _ "acc_1" rfl (by decide)
    rw [run_append, run_cons, run_nil,
      isAccountFrozen_restart] at hFrozen
    cases hFrozen

end Process

end ControlPlane
