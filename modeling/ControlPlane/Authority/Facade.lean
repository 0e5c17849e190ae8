import ControlPlane.Authority.Engine

/-
  The operations of the security facade, the time monitor
  and the reconciliation with the backend.

  Each is an asynchronous call over the authority. An
  operation of a run is such a call or a restart of the
  process.

  Main declarations:
    * `establishSession`, `authenticate`, `logout`
    * `Authority.authorize`
    * `enterOfflineGrace`, `transitionToDegraded`
    * `revokeLicense`
    * `checkTimeBounds`
    * `triggerReconciliation`
    * `SecurityOp` and `Authority.step`
-/

------------------------------------------------------------
-- Sessions
------------------------------------------------------------

namespace ControlPlane

inductive SecurityStatus where
| DENIED
| PARTIAL
| state (s : SecurityState)
deriving DecidableEq, Repr

structure SecurityResult where
  status : SecurityStatus
  message : Option String := none
deriving DecidableEq, Repr

/-
  The license of a login. `integrity` is the answer of
  `validateLicenseIntegrity` for it.
-/
structure LicenseData where
  status : Option String
  strictCapabilities : Bool
  signature : Bool
  integrity : Bool
deriving DecidableEq, Repr

/- A missing session id, or an empty one, is `none`. -/
structure AuthPayload where
  sessionId : Option String
  capabilities : Option (List String)
  license : Option LicenseData
deriving DecidableEq, Repr

/- The license of a login that brings none. -/
def defaultLicense : LicenseData where
  status := some "VALID"
  strictCapabilities := false
  signature := false
  integrity := false

def LicenseData.record
    (data : LicenseData) : License where
  status := data.status
  strictCapabilities := data.strictCapabilities

/- `Object.values(CAPABILITY)` as a set. -/
def allCapabilities : List String :=
  ["CAP_AUTOMATION_START", "CAP_AUTOMATION_STOP",
    "CAP_BROWSER_ALLOCATE", "CAP_FILE_UPLOAD",
    "CAP_FILE_DOWNLOAD", "CAP_CONFIG_MODIFY",
    "CAP_UPDATE_INSTALL", "CAP_TACTICAL_BET",
    "CAP_CASH_OUT"]

/- Add a capability when another one is there. -/
def implies
    (given added : String)
    (caps : List String) : List String :=
  if given ∈ caps then
    Authority.getCurrentCapabilities.addCapability caps added
  else caps

/- The capabilities of a payload with their aliases. -/
def expandedCaps
    (payload : AuthPayload) : List String :=
  let rawCaps :=
    (payload.capabilities.getD allCapabilities).foldl
      Authority.getCurrentCapabilities.addCapability []
  implies "CAP_CONFIG_MODIFY" "CAP_ACCOUNT_MANAGE"
    (implies "CAP_BET_PLACE" "CAP_TACTICAL_BET"
      (implies "CAP_TACTICAL_BET" "CAP_BET_VALIDATE"
        (implies "CAP_TACTICAL_BET" "CAP_BET_PLACE"
          (implies "CAP_BET_CASHOUT" "CAP_CASH_OUT"
            (implies "CAP_CASH_OUT" "CAP_BET_CASHOUT"
              rawCaps)))))

namespace AuthPayload

def licenseData
    (payload : AuthPayload) : LicenseData :=
  payload.license.getD defaultLicense

def hasValidSignature
    (payload : AuthPayload)
    (production : Bool) : Bool :=
  if payload.licenseData.signature || production then
    payload.licenseData.integrity
  else true

def isLicenseValid
    (payload : AuthPayload)
    (production : Bool) : Bool :=
  decide (payload.licenseData.status = some "VALID") &&
    payload.hasValidSignature production &&
    !(expandedCaps payload).isEmpty

/- `licenseData.status || 'PAYMENT_REQUIRED'` -/
def licenseStatus
    (payload : AuthPayload) : String :=
  match payload.licenseData.status with
  | some "" => "PAYMENT_REQUIRED"
  | some status => status
  | none => "PAYMENT_REQUIRED"

def authorizationData
    (payload : AuthPayload)
    (production : Bool) : Authorization where
  status :=
    if payload.isLicenseValid production then "VALID"
    else if !payload.hasValidSignature production then
      "LICENSE_SIGNATURE_INVALID"
    else payload.licenseStatus
  capability_set :=
    some
      (if payload.isLicenseValid production then
        expandedCaps payload
      else [])

end AuthPayload

def newSession : Session where
  status := "AUTHENTICATED"

/- The state from which a session may be established. -/
def loginEligible : SecurityState → Bool
| .SECURITY_STATE_READY | .UNAUTHENTICATED
| .REAUTHENTICATION_REQUIRED | .LOGGED_OUT | .AUTH_FAILED
| .AUTHZ_FAILURE | .EXPIRED | .AUTHENTICATED
| .OPERATIONAL => true
| _ => false

/- The facade reports a missing engine as uninitialized. -/
def Authority.getSystemState
    (s : Authority) : SecurityState :=
  match s.inMemoryState with
  | some d => d.state
  | none => .UNINITIALIZED

/- Opening the database and the clock comes first. -/
def initializeFacade : Flow Authority Unit := do
  Flow.turn
  initializeEngine

/- Calls initialize the engine where it has no state. -/
def ensureInitialized : Flow Authority Unit := do
  let found ← Flow.read (fun s => s.inMemoryState)
  if found.isNone then initializeFacade else pure ()

def revocation : TransitionPayload where
  facts := { nonceChecked := true }

/- What a revocation writes over the state in memory. -/
def StateData.revoke
    (d : StateData) : StateData :=
  { d with
      state := .REVOKED
      license :=
        some
          { status := some "REVOKED"
            strictCapabilities := false } }

/- Commit the state in memory over a row that was read. -/
def commitRevocation
    (row : SecurityStateRow) : Flow Authority Unit := do
  let found ← Flow.read (fun s => s.inMemoryState)
  match found with
  | some d => do
      let _ ←
        commitTransitionWithOCC row.state_version d.toNext
      pure ()
  | none => pure ()

/-
  Memory and row are revoked whatever the dispatch did. The
  version in memory stays as it is.
-/
def ensureRevoked : Flow Authority Unit := do
  let found ← Flow.read (fun s => s.inMemoryState)
  if found.isSome then
    Flow.modify (Authority.assign StateData.revoke)
    let stored ← getSecurityStateRow
    match stored with
    | some row =>
        if row.state ≠ .known .REVOKED then
          commitRevocation row
        else pure ()
    | none => pure ()
  else pure ()

/- Set the flag, dispatch the revocation and enforce it. -/
def revokeLicense : Flow Authority Bool := do
  setRevokedSync true
  let _ ←
    (dispatch .BACKEND_REVOCATION revocation).catching
      (fun _ => pure false)
  ensureRevoked
  pure true

/- The rest of a login, once the intent was accepted. -/
def completeLogin
    (payload : AuthPayload)
    (production : Bool) :
    Flow Authority SecurityResult := do
  let authorizationData := payload.authorizationData production
  let licenseData := payload.licenseData.record
  let authSuccess ← dispatch .BACKEND_AUTH_SUCCESS
    { facts := { nonceValidated := true }
      sessionData := some newSession
      authorizationData := some authorizationData
      licenseData := some licenseData }
  if !authSuccess then
    pure
      { status := .DENIED
        message :=
          some "Backend authentication transition rejected" }
  else if !payload.isLicenseValid production then do
    setRevokedSync false
    pure
      { status := .state .AUTHENTICATED
        message :=
          some
            (if !payload.hasValidSignature production then
              "License cryptographic signature verification failed"
            else
              "Active subscription/license required (" ++
                payload.licenseStatus ++ ")") }
  else do
    let authzSuccess ← dispatch .AUTHZ_LICENSE_RESOLVED
      { facts := { backendConfirmed := true }
        authorizationData := some authorizationData
        licenseData := some licenseData }
    if authzSuccess then do
      setRevokedSync false
      pure { status := .state .OPERATIONAL }
    else
      pure
        { status := .PARTIAL
          message :=
            some "Authenticated but Authorization failed" }

/- Login from a state that admits it. -/
def login
    (payload : AuthPayload)
    (production : Bool)
    (currentState : SecurityState) :
    Flow Authority SecurityResult := do
  if loginEligible currentState then
    let initEvent :=
      if currentState = .REAUTHENTICATION_REQUIRED then
        TransitionEvent.USER_REINITIATES
      else .LOGIN_INTENT
    let loginIntentSuccess ← dispatch initEvent
      { sessionData := some newSession }
    if !loginIntentSuccess then
      pure
        { status := .DENIED
          message :=
            some "Login intent rejected by state machine" }
    else completeLogin payload production
  else
    let s ← Flow.read Authority.getSystemState
    pure { status := .state s }

/- A session on a license that is not revoked. -/
def admitSession
    (payload : AuthPayload) :
    Flow Authority SecurityResult := do
  let production ← Flow.read (fun s => s.production)
  let currentState ← Flow.read Authority.getSystemState
  if currentState = .OFFLINE_GRACE ∧
      payload.isLicenseValid production then
    let reconnected ← dispatch .BACKEND_RECONNECTED
      { facts := { handshakePassed := true }
        authorizationData :=
          some (payload.authorizationData production)
        licenseData := some payload.licenseData.record
        sessionData := some newSession }
    if reconnected then do
      setRevokedSync false
      pure { status := .state .OPERATIONAL }
    else login payload production currentState
  else login payload production currentState

/- What a call does once the engine is initialized. -/
def sessionCall
    (payload : AuthPayload) :
    Flow Authority SecurityResult :=
  if payload.sessionId.isNone then
    pure
      { status := .DENIED
        message := some "Invalid session payload" }
  else if payload.licenseData.status = some "REVOKED" then do
    let _ ← revokeLicense
    pure
      { status := .DENIED
        message := some "License is revoked" }
  else admitSession payload

def establishSession
    (payload : AuthPayload) :
    Flow Authority SecurityResult := do
  ensureInitialized
  sessionCall payload

/- The payload of a local login. -/
def localPayload : AuthPayload where
  sessionId := some "sess_"
  capabilities := some allCapabilities
  license := none

/- Credentials without a session are local ones. -/
def authenticate
    (credentials : AuthPayload) :
    Flow Authority SecurityResult := do
  if credentials.sessionId.isSome then
    establishSession credentials
  else
    let production ← Flow.read (fun s => s.production)
    if production then
      pure
        { status := .DENIED
          message :=
            some "Unverified local session fabrication is forbidden in production" }
    else establishSession localPayload

/- Names of one capability in backend and control plane. -/
def aliasMap : String → Option String
| "CAP_BET_CASHOUT" => some "CAP_CASH_OUT"
| "CAP_CASH_OUT" => some "CAP_BET_CASHOUT"
| "CAP_BET_PLACE" => some "CAP_TACTICAL_BET"
| "CAP_TACTICAL_BET" => some "CAP_BET_PLACE"
| "CAP_BET_VALIDATE" => some "CAP_TACTICAL_BET"
| _ => none

/- An emergency stop is always authorized. -/
def Authority.authorize
    (s : Authority)
    (activeExecution : Bool)
    (capability : String) : SecurityResult :=
  let capabilities := s.getCurrentCapabilities activeExecution
  if capability = "CAP_AUTOMATION_STOP" then
    { status := .state .OPERATIONAL }
  else if capability ∈ capabilities then
    { status := .state .OPERATIONAL }
  else if (aliasMap capability).any
      (fun target => decide (target ∈ capabilities)) then
    { status := .state .OPERATIONAL }
  else
    { status := .DENIED
      message := some ("Missing capability: " ++ capability) }

------------------------------------------------------------
-- Leaving A Session
------------------------------------------------------------

/- What a logout writes over the state in memory. -/
def StateData.clear
    (d : StateData) : StateData :=
  { d with
      session := none
      authorization := none
      license := none }

/- The version in memory follows a commit at this one. -/
def followCommit
    (version : Nat)
    (committed : Bool) : Flow Authority Unit :=
  if committed then
    Flow.modify
      (Authority.assign (fun d =>
        { d with state_version := version + 1 }))
  else pure ()

/-
  The state that is persisted after the dispatches is logged
  out, also where they were refused.
-/
def clearSession : Flow Authority Unit := do
  Flow.modify (Authority.assign StateData.clear)
  let stored ← getSecurityStateRow
  let current ← Flow.read (fun s => s.inMemoryState)
  match stored, current with
  | some row, some d => do
      let committed ←
        commitTransitionWithOCC row.state_version
          { d.clear.toNext with state := .known .LOGGED_OUT }
      followCommit row.state_version committed
  | _, _ => pure ()

def logout : Flow Authority Unit := do
  let _ ← dispatch .LOGOUT_INTENT {}
  let _ ← dispatch .LOGOUT_SEQUENCE_COMPLETE
    { facts := { allStepsCompleted := true } }
  clearSession

/- What the transition writes over the state in memory. -/
def StateData.unauthenticate
    (d : StateData) : StateData :=
  { d with
      state := .UNAUTHENTICATED
      session := none
      authorization := none }

/- States that become unauthenticated. -/
def unauthenticable : SecurityState → Bool
| .SECURITY_STATE_READY | .AUTH_FAILED | .LOGGED_OUT => true
| _ => false

def persistUnauthenticated : Flow Authority Unit := do
  Flow.modify (Authority.assign StateData.unauthenticate)
  let stored ← getSecurityStateRow
  let current ← Flow.read (fun s => s.inMemoryState)
  match stored, current with
  | some row, some d =>
      if row.state ≠ .known .UNAUTHENTICATED then do
        let committed ←
          commitTransitionWithOCC row.state_version
            d.unauthenticate.toNext
        followCommit row.state_version committed
      else pure ()
  | _, _ => pure ()

def transitionToUnauthenticated : Flow Authority Unit := do
  ensureInitialized
  let s ← Flow.read Authority.getSystemState
  if unauthenticable s then persistUnauthenticated
  else pure ()

------------------------------------------------------------
-- Offline And Degraded
------------------------------------------------------------

/- A lease may bring any field of the payload. -/
structure Lease where
  isWithinGrace : Option Bool := none
  sessionData : Option Session := none
  authorizationData : Option Authorization := none
  licenseData : Option License := none
  graceTokenData : Option GraceToken := none
deriving DecidableEq, Repr

def Lease.payload
    (lease : Lease) : TransitionPayload where
  facts := { isWithinGrace := lease.isWithinGrace.getD true }
  sessionData := lease.sessionData
  authorizationData := lease.authorizationData
  licenseData := lease.licenseData
  graceTokenData := lease.graceTokenData

def enterOfflineGrace
    (lease : Lease) : Flow Authority Bool := do
  let currentState ← Flow.read Authority.getSystemState
  if currentState = .SECURITY_STATE_READY ∨
      currentState = .UNAUTHENTICATED then
    let success ← dispatch .ENTER_OFFLINE_GRACE lease.payload
    if success then do
      setRevokedSync false
      pure true
    else pure false
  else pure true

def renewThreshold
    (now : Nat) : TransitionPayload where
  facts := { now := now + 10000, renewAfter := 0 }

def graceExhausted : TransitionPayload where
  facts :=
    { accumulatedMs := 7200001, offlineGraceMax := 7200000 }

/- From operational through renewal into offline grace. -/
def loseBackend : Flow Authority Unit := do
  let now ← Flow.read Authority.now
  let _ ← dispatch .RENEW_THRESHOLD_REACHED
    (renewThreshold now)
  let _ ← dispatch .RENEW_BACKEND_UNREACHABLE {}
  pure ()

def transitionToDegraded
    (reason : String) : Flow Authority Bool := do
  let currentState ← Flow.read Authority.getSystemState
  if reason = "OFFLINE_GRACE" then
    if currentState = .OPERATIONAL then
      loseBackend
      setRevokedSync false
      pure true
    else if currentState = .OFFLINE_GRACE then
      setRevokedSync false
      pure true
    else enterOfflineGrace {}
  else if currentState = .OPERATIONAL then
    loseBackend
    let _ ← dispatch .OFFLINE_GRACE_EXHAUSTED graceExhausted
    setRevokedSync true
    pure true
  else if currentState = .OFFLINE_GRACE then
    let _ ← dispatch .OFFLINE_GRACE_EXHAUSTED graceExhausted
    setRevokedSync true
    pure true
  else
    setRevokedSync true
    pure true

------------------------------------------------------------
-- Time
------------------------------------------------------------

/- `now > token.not_after` -/
def GraceToken.exceeded
    (token : GraceToken)
    (now : Nat) : Bool :=
  match token.not_after with
  | some notAfter => decide (notAfter < now)
  | none => false

/- The row is in a grace period that has run out. -/
def SecurityStateRow.graceOver
    (row : SecurityStateRow)
    (now : Nat) : Bool :=
  decide (row.state = .known .OFFLINE_GRACE) &&
    row.graceTokenData.any (fun token => token.exceeded now)

/- Persist the time and answer the version it left. -/
def observeTime
    (row : SecurityStateRow)
    (now : Nat) : Flow Authority Nat := do
  if row.highest_observed_time < now then
    let committed ←
      commitTransitionWithOCC row.state_version
        { row.toNext with highest_observed_time := some now }
    pure
      (if committed then row.state_version + 1
      else row.state_version)
  else pure row.state_version

/- Expire the row and the state in memory. -/
def expireGrace
    (row : SecurityStateRow)
    (now currentVersion : Nat) : Flow Authority Unit := do
  setRevokedSync true
  let committed ←
    commitTransitionWithOCC currentVersion
      { row.toNext with
          state := .known .EXPIRED
          highest_observed_time := some now }
  Flow.turn
  Flow.modify
    (Authority.assign (fun d =>
      { d with
          state := .EXPIRED
          state_version :=
            if committed then currentVersion + 1
            else d.state_version }))

/- A tick. The clock throws when it is uncertain. -/
def checkTimeBounds
    (clock : Option Nat) : Flow Authority Unit := do
  let found ← getSecurityStateRow
  match found with
  | none => pure ()
  | some row =>
      match clock with
      | none =>
          .fail
            "SECURITY_STATE_UNCERTAIN: Clock rollback detected or time anchor corrupted."
      | some now =>
          if now < row.highest_observed_time then do
            setRevokedSync true
            .fail
              "SECURITY_STATE_UNCERTAIN: System clock was rolled back. Terminating offline grace."
          else do
            let currentVersion ← observeTime row now
            if row.graceOver now then
              expireGrace row now currentVersion
            else pure ()

------------------------------------------------------------
-- Reconciliation
------------------------------------------------------------

/- What a synchronization takes from the backend. -/
structure AuthoritativeState where
  graceToken : Option GraceToken
deriving DecidableEq, Repr

/- The answer of the backend. -/
inductive ReconcileAnswer where
| WIPE
| SYNC (authoritativeState : Option AuthoritativeState)
| other
| failed (message : String)
deriving DecidableEq, Repr

def applyWipe : Flow Authority Unit := do
  let found ← getSecurityStateRow
  match found with
  | none => pure ()
  | some row => do
      let _ ←
        commitTransitionWithOCC row.state_version
          { row.toNext with
              state := .known .COMPROMISED
              session := none
              authorization := none
              license := none }
      Flow.modify
        (Authority.assign (fun d =>
          { d with
              state := .COMPROMISED
              session := none
              authorization := none
              license := none }))
      setRevokedSync true

def applySync
    (authoritativeState : Option AuthoritativeState) :
    Nat → Flow Authority Unit
| 0 =>
    .fail
      "Failed to commit synchronized state due to persistent OCC conflicts."
| retries + 1 => do
    let found ← getSecurityStateRow
    match found, authoritativeState with
    | none, _ => pure ()
    | some _, none =>
        .fail
          "Cannot read properties of undefined (reading 'serverEpoch')"
    | some row, some backend => do
        let success ←
          commitTransitionWithOCC row.state_version
            { row.toNext with
                state := .known .OPERATIONAL
                graceTokenData :=
                  backend.graceToken <|> row.graceTokenData }
        if success then do
          Flow.modify
            (Authority.assign (fun d =>
              { d with state := .OPERATIONAL }))
          writeEvent
          setRevokedSync false
        else applySync authoritativeState retries

/- What the backend answered is applied. -/
def applyAnswer
    (answer : ReconcileAnswer) : Flow Authority Bool :=
  match answer with
  | .failed message => .fail message
  | .WIPE => do
      applyWipe
      pure false
  | .SYNC authoritativeState => do
      applySync authoritativeState 3
      pure true
  | .other => pure false

/- A row in one of these states is not reconciled. -/
def reconcileRefused : PersistedState → Bool
| .known .REVOKED | .known .COMPROMISED => true
| _ => false

def reconcileBody
    (answer : ReconcileAnswer) : Flow Authority Bool := do
  let found ← getSecurityStateRow
  match found with
  | none => pure false
  | some row =>
      if reconcileRefused row.state then pure false
      else do
        let _ ←
          commitTransitionWithOCC row.state_version
            { row.toNext with state := .RECONCILING }
        Flow.turn
        applyAnswer answer

def triggerReconciliation
    (answer : ReconcileAnswer) : Flow Authority Bool := do
  Mutex.acquire Authority.reconcileMutex
    Authority.withReconcileMutex
  ((reconcileBody answer).catching
    (fun _ => pure false)).ensuring
      (Authority.withReconcileMutex Mutex.release)

------------------------------------------------------------
-- Runs Of Operations
------------------------------------------------------------

/-
  A restart keeps the storage and nothing else. The flag of
  a new process is clear until the engine is initialized.
-/
def Authority.reboot
    (machineIdentityValid : Bool)
    (s : Authority) : Authority :=
  { s with
      inMemoryState := none
      superseded := []
      revoked := false
      stateMachineMutex := Mutex.free
      reconcileMutex := Mutex.free
      machineIdentityValid := machineIdentityValid }

inductive SecurityOp where
| restart (machineIdentityValid : Bool)
| establishSession (payload : AuthPayload)
| authenticate (credentials : AuthPayload)
| logout
| transitionToUnauthenticated
| enterOfflineGrace (lease : Lease)
| transitionToDegraded (reason : String)
| revokeLicense
| checkTimeBounds (clock : Option Nat)
| triggerReconciliation (answer : ReconcileAnswer)
deriving DecidableEq, Repr

def SecurityOp.flow : SecurityOp → Flow Authority Unit
| .restart machineIdentityValid => do
    Flow.modify (Authority.reboot machineIdentityValid)
    initializeFacade
| .establishSession payload => do
    let _ ← ControlPlane.establishSession payload
    pure ()
| .authenticate credentials => do
    let _ ← ControlPlane.authenticate credentials
    pure ()
| .logout => ControlPlane.logout
| .transitionToUnauthenticated =>
    ControlPlane.transitionToUnauthenticated
| .enterOfflineGrace lease => do
    let _ ← ControlPlane.enterOfflineGrace lease
    pure ()
| .transitionToDegraded reason => do
    let _ ← ControlPlane.transitionToDegraded reason
    pure ()
| .revokeLicense => do
    let _ ← ControlPlane.revokeLicense
    pure ()
| .checkTimeBounds clock =>
    ControlPlane.checkTimeBounds clock
| .triggerReconciliation answer => do
    let _ ← ControlPlane.triggerReconciliation answer
    pure ()

/- One operation, completed before the next one starts. -/
def Authority.step
    (s : Authority)
    (op : SecurityOp) : Authority :=
  (op.flow.exec s).2

/- A process that has not started on a fresh database. -/
def Authority.fresh
    (production : Bool)
    (wallClock : Nat → Nat) : Authority where
  inMemoryState := none
  superseded := []
  row := none
  revoked := false
  stateMachineMutex := Mutex.free
  reconcileMutex := Mutex.free
  machineIdentityValid := true
  production := production
  wallClock := wallClock
  readings := 0

end ControlPlane
