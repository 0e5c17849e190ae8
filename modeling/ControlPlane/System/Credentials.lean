import ControlPlane.System.Turns

/-
  When decrypted credentials are handed over.

  A start reads the security state before it waits for the
  pipe connection, and hands the credentials over after the
  wait without reading it again. The credentials are safe
  along a run exactly as long as no turn degrades the
  security state during such a wait.

  Main declarations:
    * `ExecutionBoundaryManager.react_logs`
    * `System.CredentialsCleared`
    * `System.credentials_cleared_along`
-/

------------------------------------------------------------
-- The Log Of The Transport
------------------------------------------------------------

namespace ControlPlane

namespace ExecutionBoundaryManager

/- The log grows by envelopes without credentials. -/
def LogsPlain
    (m next : ExecutionBoundaryManager) : Prop :=
  ∃ added,
    next.transport.sent = m.transport.sent ++ added ∧
      ∀ frame ∈ added, frame.type ≠ .INITIALIZE

theorem LogsPlain.of_sent_eq
    {m next : ExecutionBoundaryManager}
    (hSent : next.transport.sent = m.transport.sent) :
    LogsPlain m next :=
  ⟨[], by rw [hSent, List.append_nil], by simp⟩

theorem LogsPlain.trans
    {m mid next : ExecutionBoundaryManager}
    (hFirst : LogsPlain m mid)
    (hSecond : LogsPlain mid next) :
    LogsPlain m next := by
  rcases hFirst with ⟨first, hMid, hFirstPlain⟩
  rcases hSecond with ⟨second, hNext, hSecondPlain⟩
  refine ⟨first ++ second, ?_, ?_⟩
  · rw [hNext, hMid, List.append_assoc]
  · intro frame hFrame
    rcases List.mem_append.mp hFrame with hLeft | hRight
    · exact hFirstPlain frame hLeft
    · exact hSecondPlain frame hRight

/- No credentials are among what is handed over. -/
theorem LogsPlain.type_of_mem_handed
    {m next : ExecutionBoundaryManager}
    (hLogs : LogsPlain m next)
    {frame : Frame}
    (hFrame : frame ∈ handed m next) :
    frame.type ≠ .INITIALIZE := by
  rcases hLogs with ⟨added, hSent, hPlain⟩
  unfold handed at hFrame
  rw [hSent, List.drop_left] at hFrame
  exact hPlain frame hFrame

/- A dispatch of another type, over the same log. -/
theorem LogsPlain.of_dispatched
    {m mid next : ExecutionBoundaryManager}
    {type : ExecutionMessageType}
    {payload : Payload}
    (hDispatched : Dispatched mid next type payload)
    (hSent : mid.transport.sent = m.transport.sent)
    (hType : type ≠ .INITIALIZE) :
    LogsPlain m next := by
  apply (LogsPlain.of_sent_eq hSent).trans
  rcases hDispatched.sent with
    hSame | ⟨frame, hLog, hFrame, _⟩
  · exact .of_sent_eq hSame
  · refine ⟨[frame], hLog, ?_⟩
    intro logged hLogged
    rw [List.mem_singleton.mp hLogged, hFrame]
    exact hType

theorem dispatchFinancial_logs
    (env : Env)
    (m : ExecutionBoundaryManager)
    {type : ExecutionMessageType}
    (payload payloadWithOp : TacticalPayload)
    (accountId : Option String)
    (targetAccounts : List String)
    (gate : Option Denial)
    (options : DispatchOptions)
    (hType : type ≠ .INITIALIZE) :
    LogsPlain m
      (m.dispatchFinancial env type payload payloadWithOp
        accountId targetAccounts gate options).1 := by
  unfold dispatchFinancial
  split
  · exact .of_sent_eq (m.withChecked_sent env payload)
  · exact .of_dispatched
      (dispatchEnvelope_dispatched env _ type
        (.tactical payloadWithOp) options)
      (m.withChecked_sent env payload) hType

theorem execute_logs
    (env : Env)
    (m : ExecutionBoundaryManager)
    (command : Command)
    (hPlain :
      (Input.command command).initializes = false) :
    LogsPlain m (m.execute env command).1 := by
  cases hCall : m.financialCall env (.command command) with
  | none =>
      cases execute_sends env m command hCall with
      | refused _ hSent => exact .of_sent_eq hSent
      | dispatched base type payload hDispatched _ hSent _ _
          hInitialize =>
          apply LogsPlain.of_dispatched hDispatched hSent
          intro hType
          rcases hInitialize hType with ⟨_, _, rfl⟩
          cases hPlain
  | some call =>
      cases command with
      | placeBet payload options =>
          exact dispatchFinancial_logs env m _ _ _ _ _
            options (by decide)
      | cashOut payload options =>
          exact dispatchFinancial_logs env m _ _ _ _ _
            options (by decide)
      | _ => cases hCall

theorem handlePayload_sent
    (env : Env)
    (m : ExecutionBoundaryManager)
    (payload : InboundPayload) :
    (m.handlePayload env payload).1.transport =
      m.transport := by
  cases payload with
  | operationResult result =>
      rcases m.forgetInFlight_eq result with
        ⟨inFlight, hForget⟩
      unfold handlePayload handleOperationResult
      dsimp only
      rw [hForget, recordOutcome_eq]
      rfl
  | _ => rfl

theorem handleClientDisconnected_sent
    (m : ExecutionBoundaryManager)
    (connId : Nat) :
    (m.handleClientDisconnected connId).1.transport.sent =
      m.transport.sent := by
  unfold handleClientDisconnected
  dsimp only
  split <;> rfl

theorem handleIncomingData_sent
    (env : Env)
    (m : ExecutionBoundaryManager)
    (connId : Nat)
    (data : InboundData) :
    (m.handleIncomingData env connId
        data).1.transport.sent =
      m.transport.sent := by
  cases data with
  | oversized => exact handleClientDisconnected_sent m connId
  | envelope envelope =>
      rcases m.settleCorrelation_eq envelope with
        ⟨pending, hSettle⟩
      unfold handleIncomingData
      dsimp only
      rw [hSettle, handlePayload_sent]
  | _ => rfl

/- Only one input logs credentials. -/
theorem react_logs
    (env : Env)
    (m : ExecutionBoundaryManager)
    (input : Input)
    (hPlain : input.initializes = false) :
    LogsPlain m (m.react env input).1 := by
  cases input with
  | command command => exact execute_logs env m command hPlain
  | startServer =>
      unfold react
      cases hStart : m.startServer env with
      | none => exact .of_sent_eq rfl
      | some started =>
          rcases startServer_eq_some hStart with
            ⟨transport, hTransport, rfl⟩
          exact .of_sent_eq
            (PipeTransport.startServer_sent hTransport)
  | stopServer =>
      exact .of_sent_eq (PipeTransport.stopServer_sent _)
  | connected connId =>
      exact .of_dispatched
        (dispatchEnvelope_dispatched env _ .CAPTURE_SNAPSHOT
          .empty _)
        (PipeTransport.onConnect_sent _ _) (by decide)
  | disconnected connId =>
      exact .of_sent_eq
        (handleClientDisconnected_sent m connId)
  | data connId data =>
      exact .of_sent_eq
        (handleIncomingData_sent env m connId data)
  | _ => exact .of_sent_eq rfl

end ExecutionBoundaryManager

end ControlPlane

------------------------------------------------------------
-- Credentials Along A Run
------------------------------------------------------------

namespace ControlPlane

namespace System

open ExecutionBoundaryManager

/- The envelopes handed to the transport in a turn. -/
def handedBy
    (s : System)
    (event : SystemEvent) : List Frame :=
  handed s.boundary.manager (s.step event).boundary.manager

/-
  Whenever the turn hands credentials over, the security
  state is not degraded.
-/
def CredentialsCleared
    (s : System)
    (event : SystemEvent) : Prop :=
  ∀ frame ∈ s.handedBy event,
    frame.type = .INITIALIZE →
      s.security.isDegraded = false

/-
  The turn does not degrade the security state while a start
  waits for its connection.
-/
def ClearedWhileWaiting
    (s : System)
    (event : SystemEvent) : Prop :=
  s.waiting = true →
    (s.entered event).security.isDegraded = false

/- A waiting start has a security state that permits it. -/
def WaitsCleared (s : System) : Prop :=
  s.waiting = true → s.security.isDegraded = false

theorem entered_waiting
    (s : System)
    (event : SystemEvent) :
    (s.entered event).waiting = s.waiting := by
  unfold entered
  split <;> rfl

theorem waitsCleared_step
    (s : System)
    (event : SystemEvent)
    (hCleared : ClearedWhileWaiting s event) :
    WaitsCleared (s.step event) := by
  intro hWaiting
  have hTurn := s.step_turn event
  rw [hTurn.security]
  rcases hTurn.waiting hWaiting with hEntered | hHealthy
  · rw [entered_waiting] at hEntered
    exact hCleared hEntered
  · exact hHealthy

/- The input of a turn logs no credentials. -/
theorem entered_logs
    (s : System)
    (event : SystemEvent) :
    LogsPlain s.boundary.manager
      (s.entered event).boundary.manager := by
  unfold entered
  split
  · rename_i input _
    apply react_logs
    have hExternal := input.2
    revert hExternal
    cases input.1 with
    | command command =>
        cases command with
        | initializeWorker accounts options =>
            intro hExternal
            cases hExternal
        | _ => exact fun _ => rfl
    | _ => exact fun _ => rfl
  · exact .of_sent_eq rfl
  · exact .of_sent_eq rfl

theorem initializes_of_housekeeping
    {input : Input}
    (hQuiet : input.housekeeping = true) :
    input.initializes = false := by
  cases input with
  | command command =>
      cases command with
      | initializeWorker accounts options => cases hQuiet
      | _ => rfl
  | _ => rfl

/- Only a start that goes on logs credentials. -/
theorem step_logs
    (s : System)
    (event : SystemEvent)
    (hHands : s.handsCredentials event = false) :
    LogsPlain s.boundary.manager
      (s.step event).boundary.manager := by
  have hKept :
      ∀ (b : Boundary) (call : Event),
        LogsPlain s.boundary.manager b.manager →
          s.Internal event call →
            LogsPlain s.boundary.manager
              (b.step call).manager := by
    rintro b call hLogs (hQuiet | ⟨hInitializes, _⟩)
    · exact hLogs.trans
        (react_logs (b.env call) b.manager call.input
          (initializes_of_housekeeping hQuiet))
    · rw [hHands] at hInitializes
      cases hInitializes
  exact (s.step_turn event).boundary.invariant hKept
    (s.entered_logs event)

/- A start that goes on was waiting. -/
theorem waiting_of_handsCredentials
    {s : System}
    {event : SystemEvent}
    (hHands : s.handsCredentials event = true) :
    s.waiting = true := by
  unfold handsCredentials at hHands
  split at hHands
  · rename_i hHolder
    unfold waiting
    rw [hHolder]
  · cases hHands

theorem credentialsCleared_of_waitsCleared
    (s : System)
    (event : SystemEvent)
    (hWaits : WaitsCleared s) :
    CredentialsCleared s event := by
  intro frame hFrame hType
  cases hHands : s.handsCredentials event with
  | true => exact hWaits (waiting_of_handsCredentials hHands)
  | false =>
      have hPlain :=
        (s.step_logs event hHands).type_of_mem_handed hFrame
      exact absurd hType hPlain

/-
  Along a run in which no turn degrades the security state
  while a start waits for its connection, credentials are
  handed over only in turns whose security state is not
  degraded.
-/
theorem credentials_cleared_along
    (s : System)
    (events : List SystemEvent)
    (hIdle : s.holder = none)
    (hCleared :
      Along step ClearedWhileWaiting s events) :
    Along step CredentialsCleared s events := by
  have hStart : WaitsCleared s := by
    intro hWaiting
    unfold waiting at hWaiting
    rw [hIdle] at hWaiting
    cases hWaiting
  apply Along.of_invariant _ _ hStart hCleared
  · intro state event _ hOk
    exact waitsCleared_step state event hOk
  · intro state event hInv _
    exact credentialsCleared_of_waitsCleared state event hInv

/- The first transition of a logout. -/
def logout : List SystemEvent :=
  transition .LOGOUT_INTENT {}

/-
  A start that pulls its credentials first, and the logout
  that comes meanwhile: the spawn is denied.
-/
theorem logout_before_spawn_cleared :
    Along step CredentialsCleared loggedIn
      ([turn (.submit (.start [])),
        turn (.acquire { pulls := true })] ++ logout ++
        [turn (.resume { spawned := some 7 })]) := by
  apply credentials_cleared_along loggedIn _ (by decide)
  refine ⟨?_, ?_, ?_, ?_, ?_, trivial⟩
  all_goals
    unfold ClearedWhileWaiting
    decide

/-
  A logout while the start waits for its connection: the
  credentials are handed over in a degraded state.
-/
theorem logout_during_handshake_not_cleared :
    ¬ Along step CredentialsCleared loggedIn
      ([turn (.submit (.start [])),
        turn (.acquire { spawned := some 7 })] ++ logout ++
        [clientConnected,
          turn (.resume { compiled := some fleet })]) := by
  rintro ⟨_, _, _, _, _, hCleared, _⟩
  unfold CredentialsCleared at hCleared
  revert hCleared
  decide

end System

end ControlPlane
