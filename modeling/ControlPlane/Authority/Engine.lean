import ControlPlane.Data.Flow
import ControlPlane.System.Security

/-
  The decision engine and the row it persists.

  The engine keeps its state in memory and in one row of the
  storage. A transition reads the row, looks the event up in
  the table and commits the next state when the version of
  the row has not changed. Other writers change memory and
  row directly.

  Main declarations:
    * `StateData`, `SecurityStateRow` and `Authority`
    * `Mutex` and `acquire`
    * `commitTransitionWithOCC`
    * `executeTransition` and `dispatch`
    * `initializeEngine`
    * `Authority.getCurrentCapabilities`
-/

------------------------------------------------------------
-- Records
------------------------------------------------------------

namespace ControlPlane

structure Session where
  status : String
deriving DecidableEq, Repr

structure Authorization where
  status : String
  capability_set : Option (List String)
deriving DecidableEq, Repr

structure License where
  status : Option String
  strictCapabilities : Bool
deriving DecidableEq, Repr

structure GraceToken where
  not_after : Option Nat
deriving DecidableEq, Repr

/- The state that the engine keeps in memory. -/
structure StateData where
  state : SecurityState
  state_version : Nat
  session : Option Session
  authorization : Option Authorization
  license : Option License
  graceTokenData : Option GraceToken
deriving DecidableEq, Repr

/- Reconciliation persists a state that is in no table. -/
inductive PersistedState where
| known (state : SecurityState)
| RECONCILING
deriving DecidableEq, Repr

/- The row of the storage, as it is read back. -/
structure SecurityStateRow where
  state : PersistedState
  state_version : Nat
  session : Option Session
  authorization : Option Authorization
  license : Option License
  graceTokenData : Option GraceToken
  highest_observed_time : Nat
deriving DecidableEq, Repr

/-
  What a caller hands to a commit. The observed time is
  carried by those that started from a row.
-/
structure NextStateData where
  state : PersistedState
  session : Option Session
  authorization : Option Authorization
  license : Option License
  graceTokenData : Option GraceToken
  highest_observed_time : Option Nat
deriving DecidableEq, Repr

def StateData.toNext
    (d : StateData) : NextStateData where
  state := .known d.state
  session := d.session
  authorization := d.authorization
  license := d.license
  graceTokenData := d.graceTokenData
  highest_observed_time := none

def SecurityStateRow.toNext
    (row : SecurityStateRow) : NextStateData where
  state := row.state
  session := row.session
  authorization := row.authorization
  license := row.license
  graceTokenData := row.graceTokenData
  highest_observed_time := some row.highest_observed_time

/- The row that a commit at a version writes. -/
def NextStateData.toRow
    (next : NextStateData)
    (version highestTime : Nat) : SecurityStateRow where
  state := next.state
  state_version := version
  session := next.session
  authorization := next.authorization
  license := next.license
  graceTokenData := next.graceTokenData
  highest_observed_time := highestTime

/- The projection of a row into memory. -/
def SecurityStateRow.project
    (row : SecurityStateRow)
    (state : SecurityState) : StateData where
  state := state
  state_version := row.state_version
  session := row.session
  authorization := row.authorization
  license := row.license
  graceTokenData := none

------------------------------------------------------------
-- The Mutex
------------------------------------------------------------

/-
  A release hands the lock to the first waiter, which runs
  in a later turn. Until then the lock stays taken.
-/
structure Mutex where
  locked : Bool
  queue : List Nat
  granted : Option Nat
  tickets : Nat
deriving DecidableEq, Repr

namespace Mutex

def free : Mutex where
  locked := false
  queue := []
  granted := none
  tickets := 0

/- Take the lock, or a place in the queue. -/
def enter
    (m : Mutex) : Mutex :=
  if m.locked then
    { m with
        queue := m.queue ++ [m.tickets]
        tickets := m.tickets + 1 }
  else { m with locked := true }

/- The waiter that was granted the lock runs. -/
def take
    (m : Mutex) : Mutex :=
  { m with locked := true, granted := none }

def release
    (m : Mutex) : Mutex :=
  match m.queue with
  | next :: rest =>
      { m with queue := rest, granted := some next }
  | [] => { m with locked := false }

/- Acquire a mutex that is part of a larger state. -/
def acquire
    {σ : Type}
    (get : σ → Mutex)
    (change : (Mutex → Mutex) → σ → σ) : Flow σ Unit := do
  let m ← Flow.update (change enter) get
  if m.locked then
    Flow.waitFor
      (fun s => decide ((get s).granted = some m.tickets))
    Flow.modify (change take)
  else pure ()

end Mutex

------------------------------------------------------------
-- The Authority
------------------------------------------------------------

/-
  The process and its storage. A state object that was
  replaced stays in `superseded`, since a transition in
  flight may still refer to it. `wallClock` gives the answers
  of `Date.now()` in the order of the calls.
-/
structure Authority where
  inMemoryState : Option StateData
  superseded : List StateData
  row : Option SecurityStateRow
  revoked : Bool
  stateMachineMutex : Mutex
  reconcileMutex : Mutex
  machineIdentityValid : Bool
  production : Bool
  wallClock : Nat → Nat
  readings : Nat

namespace Authority

/- A reference to the current state object. -/
def currentRef
    (s : Authority) : Option Nat :=
  s.inMemoryState.map (fun _ => s.superseded.length)

/- The object of a reference as it is now. -/
def deref
    (s : Authority)
    (ref : Nat) : Option StateData :=
  (s.superseded ++ s.inMemoryState.toList)[ref]?

/- Replace the state object. -/
def install
    (d : StateData)
    (s : Authority) : Authority :=
  { s with
      superseded := s.superseded ++ s.inMemoryState.toList
      inMemoryState := some d }

/- Change the state object in place, if there is one. -/
def assign
    (f : StateData → StateData)
    (s : Authority) : Authority :=
  { s with inMemoryState := s.inMemoryState.map f }

def setRevoked
    (flag : Bool)
    (s : Authority) : Authority :=
  { s with revoked := flag }

/- What `Date.now()` answers next. -/
def now
    (s : Authority) : Nat :=
  s.wallClock s.readings

def tickClock
    (s : Authority) : Authority :=
  { s with readings := s.readings + 1 }

def withStateMachineMutex
    (f : Mutex → Mutex)
    (s : Authority) : Authority :=
  { s with stateMachineMutex := f s.stateMachineMutex }

def withReconcileMutex
    (f : Mutex → Mutex)
    (s : Authority) : Authority :=
  { s with reconcileMutex := f s.reconcileMutex }

/- `UPDATE ... WHERE state_version = ?` finds the row. -/
def atVersion
    (expected : Nat)
    (s : Authority) : Bool :=
  match s.row with
  | some row => decide (row.state_version = expected)
  | none => false

def updateRow
    (expected : Nat)
    (row : SecurityStateRow)
    (s : Authority) : Authority :=
  if s.atVersion expected then { s with row := some row }
  else s

/- `INSERT OR IGNORE`. -/
def insertRow
    (row : SecurityStateRow)
    (s : Authority) : Authority :=
  if s.row.isNone then { s with row := some row } else s

end Authority

------------------------------------------------------------
-- Storage
------------------------------------------------------------

def dateNow : Flow Authority Nat :=
  Flow.update Authority.tickClock Authority.now

def setRevokedSync
    (flag : Bool) : Flow Authority Unit :=
  Flow.modify (Authority.setRevoked flag)

def getSecurityStateRow :
    Flow Authority (Option SecurityStateRow) :=
  Flow.request id (fun s => s.row)

/- The audit log is not read by the engine. -/
def writeEvent : Flow Authority Unit :=
  Flow.request id (fun _ => ())

/- `nextStateData.highest_observed_time || Date.now()` -/
def highestTimeOf
    (next : NextStateData) : Flow Authority Nat :=
  match next.highest_observed_time with
  | some (t + 1) => pure (t + 1)
  | _ => dateNow

def commitTransitionWithOCC
    (expectedStateVersion : Nat)
    (next : NextStateData) : Flow Authority Bool := do
  let highestTime ← highestTimeOf next
  let row := next.toRow (expectedStateVersion + 1) highestTime
  let changed ←
    Flow.request
      (Authority.updateRow expectedStateVersion row)
      (Authority.atVersion expectedStateVersion)
  if changed then pure true
  else if expectedStateVersion = 0 then
    Flow.request (Authority.insertRow row)
      (fun s => s.row.isNone)
  else pure false

------------------------------------------------------------
-- Transitions
------------------------------------------------------------

/- The payload of an event. -/
structure TransitionPayload where
  facts : TransitionFacts := {}
  sessionData : Option Session := none
  authorizationData : Option Authorization := none
  licenseData : Option License := none
  graceTokenData : Option GraceToken := none
deriving DecidableEq, Repr

/- The next state takes what the payload brings. -/
def StateData.advance
    (d : StateData)
    (next : SecurityState)
    (payload : TransitionPayload) : StateData where
  state := next
  state_version := d.state_version
  session := payload.sessionData <|> d.session
  authorization :=
    payload.authorizationData <|> d.authorization
  license := payload.licenseData <|> d.license
  graceTokenData :=
    payload.graceTokenData <|> d.graceTokenData

/- States in which the execution plane may run. -/
def nonRevoked : SecurityState → Bool
| .OPERATIONAL | .AUTHENTICATED | .AUTHENTICATING
| .RENEWING | .OFFLINE_GRACE => true
| _ => false

/- `getCapabilities` of the engine. -/
def StateData.capabilities
    (d : StateData) : List String :=
  match d.authorization with
  | some authorization =>
      authorization.capability_set.getD []
  | none => []

/- Valid authorization and a live session. -/
def authorizedBy
    (authorization : Option Authorization)
    (session : Option Session) : Prop :=
  (∃ a, authorization = some a ∧ a.status = "VALID") ∧
    ∃ x, session = some x ∧
      (x.status = "AUTHENTICATED" ∨ x.status = "RENEWING")

instance authorizedBy.decidable
    (authorization : Option Authorization)
    (session : Option Session) :
    Decidable (authorizedBy authorization session) :=
  match authorization, session with
  | some a, some x =>
      decidable_of_iff
        (a.status = "VALID" ∧
          (x.status = "AUTHENTICATED" ∨
            x.status = "RENEWING"))
        (by simp [authorizedBy])
  | none, _ => isFalse (by simp [authorizedBy])
  | some _, none => isFalse (by simp [authorizedBy])

/- The message of the invariant that a state violates. -/
def assertStateMachineInvariants
    (d : StateData) : Option String :=
  match d.state with
  | .OPERATIONAL =>
      match d.authorization, d.session with
      | some a, session =>
          if a.status ≠ "VALID" then
            some
              "Invariant Violation: OPERATIONAL implies valid authorization"
          else
            match session with
            | some x =>
                if x.status ≠ "AUTHENTICATED" ∧
                    x.status ≠ "RENEWING" then
                  some
                    "Invariant Violation: OPERATIONAL implies valid session"
                else none
            | none =>
                some "Cannot read properties of null (reading 'status')"
      | none, _ =>
          some "Cannot read properties of null (reading 'status')"
  | .COMPROMISED | .REVOKED =>
      if d.capabilities ≠ [] then
        some
          "Invariant Violation: COMPROMISED/REVOKED implies no execution capability"
      else none
  | _ => none

/- Of `executeTransition`: the next state, or why not. -/
inductive TransitionResult where
| success (nextState : StateData)
| failure (error : String)
deriving DecidableEq, Repr

/- A transition that passed its guard. -/
def commitNext
    (current next : StateData) :
    Flow Authority TransitionResult := do
  let committed ←
    commitTransitionWithOCC current.state_version next.toNext
  if !committed then pure (.failure "OCC Conflict")
  else
    let next :=
      { next with state_version := current.state_version + 1 }
    writeEvent
    match assertStateMachineInvariants next with
    | some message => .fail message
    | none =>
        setRevokedSync (!nonRevoked next.state)
        pure (.success next)

/- The part of a transition that runs under the mutex. -/
def transitionBody
    (ref : Nat)
    (event : TransitionEvent)
    (payload : TransitionPayload) :
    Flow Authority TransitionResult := do
  let found ← getSecurityStateRow
  let current ← Flow.read (fun s => s.deref ref)
  match found, current with
  | some row, some current =>
      if current.state_version ≠ row.state_version then
        pure (.failure
          "OCC Conflict: state was modified concurrently")
      else
        match getTransition current.state event with
        | none => do
            writeEvent
            pure (.failure "Invalid transition")
        | some transitionDef =>
            if !transitionDef.guard payload.facts then do
              writeEvent
              pure (.failure "Guard failed")
            else
              commitNext current
                (current.advance transitionDef.nextState
                  payload)
  | _, _ =>
      .fail "FATAL: Security state row missing from persistence layer."

def executeTransition
    (ref : Nat)
    (event : TransitionEvent)
    (payload : TransitionPayload) :
    Flow Authority TransitionResult := do
  Mutex.acquire Authority.stateMachineMutex
    Authority.withStateMachineMutex
  (transitionBody ref event payload).ensuring
    (Authority.withStateMachineMutex Mutex.release)

def dispatch
    (event : TransitionEvent)
    (payload : TransitionPayload) :
    Flow Authority Bool := do
  let current ← Flow.read Authority.currentRef
  match current with
  | none => .fail "DecisionEngine not initialized"
  | some ref => do
      let result ← executeTransition ref event payload
      match result with
      | .success next => do
          Flow.modify (Authority.install next)
          pure true
      | .failure _ => pure false

------------------------------------------------------------
-- Boot
------------------------------------------------------------

/- The flag follows the state that a boot has reached. -/
def syncRevokedFlag : Flow Authority Unit :=
  Flow.modify (fun s =>
    s.setRevoked
      (match s.inMemoryState with
      | some d =>
          !(nonRevoked d.state ||
            d.state == .SECURITY_STATE_READY)
      | none => true))

/- The baseline row of a fresh database. -/
def baselineState : NextStateData where
  state := .known .UNINITIALIZED
  session := none
  authorization := none
  license := none
  graceTokenData := none
  highest_observed_time := none

/- Bootstrap from a row that was never initialized. -/
def bootstrap : Flow Authority Unit := do
  let _ ← dispatch .INITIALIZE
    { facts := { singleInstanceLockHeld := true } }
  let isMachineValid ←
    Flow.read (fun s => s.machineIdentityValid)
  let _ ← dispatch .BOOTSTRAP_COMPLETE
    { facts :=
        { integrityVerified := true
          storageVerified := true
          machineIdentityVerified := isMachineValid } }
  syncRevokedFlag

/-
  A cold boot never revives an operational state. A machine
  that does not match is compromised.
-/
def coldBoot
    (row : SecurityStateRow) : Flow Authority Unit := do
  let isMachineValid ←
    Flow.read (fun s => s.machineIdentityValid)
  if isMachineValid then
    Flow.modify
      (Authority.install
        (row.project .SECURITY_STATE_READY))
    syncRevokedFlag
  else
    let d := row.project .COMPROMISED
    Flow.modify (Authority.install d)
    let _ ← commitTransitionWithOCC d.state_version d.toNext
    Flow.modify
      (Authority.assign (fun d =>
        { d with state_version := d.state_version + 1 }))
    setRevokedSync true

/- Project the row into memory. -/
def bootFrom
    (row : SecurityStateRow) : Flow Authority Unit :=
  match row.state with
  | .known .REVOKED => do
      Flow.modify (Authority.install (row.project .REVOKED))
      setRevokedSync true
  | .known .COMPROMISED => do
      Flow.modify
        (Authority.install (row.project .COMPROMISED))
      setRevokedSync true
  | .known .TAMPER_SUSPECTED => do
      Flow.modify
        (Authority.install (row.project .TAMPER_SUSPECTED))
      setRevokedSync true
  | .known .UNINITIALIZED => do
      Flow.modify
        (Authority.install (row.project .UNINITIALIZED))
      bootstrap
  | _ => coldBoot row

/- The row, written first on a fresh database. -/
def establishRow :
    Flow Authority (Option SecurityStateRow) := do
  let found ← getSecurityStateRow
  match found with
  | some row => pure (some row)
  | none => do
      let _ ← commitTransitionWithOCC 0 baselineState
      getSecurityStateRow

def initializeEngine : Flow Authority Unit := do
  let rawState ← establishRow
  match rawState with
  | none =>
      .fail
        "Cannot initialize DecisionEngine: Failed to establish security state in persistence."
  | some row => bootFrom row

------------------------------------------------------------
-- Capabilities
------------------------------------------------------------

/- States that grant no capability. -/
def dormant : SecurityState → Bool
| .OPERATIONAL | .OFFLINE_GRACE => false
| _ => true

namespace Authority

/-
  The validated capabilities. `activeExecution` is what the
  registered checker answers.
-/
def getCurrentCapabilities
    (s : Authority)
    (activeExecution : Bool) : List String :=
  match s.inMemoryState with
  | none => ["CAP_AUTOMATION_STOP"]
  | some d =>
      if dormant d.state then ["CAP_AUTOMATION_STOP"]
      else
        match d.authorization with
        | none => ["CAP_AUTOMATION_STOP"]
        | some authorization =>
            if authorization.status ≠ "VALID" then
              ["CAP_AUTOMATION_STOP"]
            else
              let strictCaps :=
                d.license.any (fun l => l.strictCapabilities)
              let baseCaps :=
                if strictCaps then ["CAP_AUTOMATION_STOP"]
                else
                  ["CAP_CONFIG_MODIFY", "CAP_AUTOMATION_STOP",
                    "CAP_ACCOUNT_MANAGE"]
              let caps :=
                (authorization.capability_set.getD []).foldl
                  addCapability baseCaps
              if activeExecution then
                caps.filter
                  (fun c => c ≠ "CAP_AUTOMATION_START")
              else caps
where
  /- `Set.prototype.add` -/
  addCapability
      (caps : List String)
      (cap : String) : List String :=
    if cap ∈ caps then caps else caps ++ [cap]

end Authority

end ControlPlane
