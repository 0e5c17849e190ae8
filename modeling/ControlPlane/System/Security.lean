/-
  The state machine of the Security Authority.

  A transition is looked up by state and event in a table,
  its guard reads the facts the caller presents, and the
  in-memory state changes when the storage has committed it.
  Some operations write the in-memory state directly.

  Main declarations:
    * `SecurityState` and `TransitionEvent`
    * `transitions` and `nextState`
    * `SecurityInput` and `SecurityAuthority.step`
    * `SecurityAuthority.isDegraded`
-/

------------------------------------------------------------
-- States And Events
------------------------------------------------------------

namespace ControlPlane

inductive SecurityState where
| UNINITIALIZED | INITIALIZING
| SECURITY_STATE_UNCERTAIN | SECURITY_STATE_READY
| UNAUTHENTICATED | AUTHENTICATING | AUTH_FAILED
| AUTHENTICATED | AUTHORIZING | AUTHZ_FAILURE
| OPERATIONAL | RENEWING | OFFLINE_GRACE
| EXPIRED | REVOKED
| INTEGRITY_DEGRADED | TAMPER_SUSPECTED | COMPROMISED
| REAUTHENTICATION_REQUIRED | LOGGING_OUT | LOGGED_OUT
deriving DecidableEq, Repr

inductive TransitionEvent where
| INITIALIZE | BOOTSTRAP_COMPLETE
| INTERRUPTED_TRANSACTION_FOUND | RECONCILIATION_RESOLVED
| LOGIN_INTENT | BACKEND_AUTH_SUCCESS
| BACKEND_AUTH_FAILURE
| AUTHZ_LICENSE_RESOLVED | AUTHZ_LICENSE_FAILED
| RENEW_THRESHOLD_REACHED | RENEW_SUCCESS
| RENEW_BACKEND_UNREACHABLE | ENTER_OFFLINE_GRACE
| BACKEND_RECONNECTED | OFFLINE_GRACE_EXHAUSTED
| SESSION_OR_LICENSE_EXPIRED | BACKEND_REVOCATION
| SIGNIFICANT_TAMPER_SIGNAL
| CRITICAL_OR_CORRELATED_TAMPER_SIGNAL
| USER_REINITIATES
| LOGOUT_INTENT | LOGOUT_SEQUENCE_COMPLETE
deriving DecidableEq, Repr

/- Classification of a tamper signal. -/
inductive TamperClass where
| MINOR | SIGNIFICANT | CRITICAL
deriving DecidableEq, Repr

/- The facts of a transition payload that guards read. -/
structure TransitionFacts where
  singleInstanceLockHeld : Bool := false
  integrityVerified : Bool := false
  storageVerified : Bool := false
  machineIdentityVerified : Bool := false
  pendingTransactionExists : Bool := false
  causalViolation : Bool := false
  authoritativeOutcomeConfirmed : Bool := false
  isWithinGrace : Bool := false
  nonceValidated : Bool := false
  backendConfirmed : Bool := false
  now : Nat := 0
  renewAfter : Nat := 0
  renewalMutexHeld : Bool := false
  responseValidated : Bool := false
  handshakePassed : Bool := false
  accumulatedMs : Nat := 0
  offlineGraceMax : Nat := 0
  expiresAt : Nat := 0
  nonceChecked : Bool := false
  classification : TamperClass := .MINOR
  correlatedCount : Nat := 0
  threshold : Nat := 1
  allStepsCompleted : Bool := false
deriving DecidableEq, Repr

/- One row of the transition table. -/
structure TransitionDefinition where
  currentState : SecurityState
  event : TransitionEvent
  guard : TransitionFacts → Bool
  nextState : SecurityState

------------------------------------------------------------
-- The Transition Table
------------------------------------------------------------

/- Guards that several rows share. -/
def always (_ : TransitionFacts) : Bool := true

def withinGrace (facts : TransitionFacts) : Bool :=
  facts.isWithinGrace

def expiredNow (facts : TransitionFacts) : Bool :=
  decide (facts.expiresAt ≤ facts.now)

def revocationChecked (facts : TransitionFacts) : Bool :=
  facts.nonceChecked

def transitions : List TransitionDefinition :=
  [ ⟨.UNINITIALIZED, .INITIALIZE,
      fun f => f.singleInstanceLockHeld, .INITIALIZING⟩,
    ⟨.INITIALIZING, .BOOTSTRAP_COMPLETE,
      fun f => f.integrityVerified && f.storageVerified &&
        f.machineIdentityVerified,
      .SECURITY_STATE_READY⟩,
    ⟨.INITIALIZING, .INTERRUPTED_TRANSACTION_FOUND,
      fun f => f.pendingTransactionExists ||
        f.causalViolation,
      .SECURITY_STATE_UNCERTAIN⟩,
    ⟨.SECURITY_STATE_UNCERTAIN, .RECONCILIATION_RESOLVED,
      fun f => f.authoritativeOutcomeConfirmed,
      .SECURITY_STATE_READY⟩,
    ⟨.SECURITY_STATE_READY, .ENTER_OFFLINE_GRACE,
      withinGrace, .OFFLINE_GRACE⟩,
    ⟨.SECURITY_STATE_READY, .LOGIN_INTENT,
      always, .AUTHENTICATING⟩,
    ⟨.UNAUTHENTICATED, .ENTER_OFFLINE_GRACE,
      withinGrace, .OFFLINE_GRACE⟩,
    ⟨.UNAUTHENTICATED, .LOGIN_INTENT,
      always, .AUTHENTICATING⟩,
    ⟨.AUTHENTICATING, .BACKEND_AUTH_SUCCESS,
      fun f => f.nonceValidated, .AUTHENTICATED⟩,
    ⟨.AUTHENTICATING, .BACKEND_AUTH_FAILURE,
      always, .AUTH_FAILED⟩,
    ⟨.AUTHENTICATED, .AUTHZ_LICENSE_RESOLVED,
      fun f => f.backendConfirmed, .OPERATIONAL⟩,
    ⟨.AUTHENTICATED, .AUTHZ_LICENSE_FAILED,
      always, .AUTHZ_FAILURE⟩,
    ⟨.OPERATIONAL, .RENEW_THRESHOLD_REACHED,
      fun f => decide (f.renewAfter ≤ f.now) &&
        !f.renewalMutexHeld,
      .RENEWING⟩,
    ⟨.RENEWING, .RENEW_SUCCESS,
      fun f => f.responseValidated, .OPERATIONAL⟩,
    ⟨.RENEWING, .RENEW_BACKEND_UNREACHABLE,
      always, .OFFLINE_GRACE⟩,
    ⟨.OFFLINE_GRACE, .BACKEND_RECONNECTED,
      fun f => f.handshakePassed, .OPERATIONAL⟩,
    ⟨.OFFLINE_GRACE, .OFFLINE_GRACE_EXHAUSTED,
      fun f => decide (f.offlineGraceMax < f.accumulatedMs),
      .REAUTHENTICATION_REQUIRED⟩,
    ⟨.OPERATIONAL, .SESSION_OR_LICENSE_EXPIRED,
      expiredNow, .EXPIRED⟩,
    ⟨.OFFLINE_GRACE, .SESSION_OR_LICENSE_EXPIRED,
      expiredNow, .EXPIRED⟩,
    ⟨.RENEWING, .SESSION_OR_LICENSE_EXPIRED,
      expiredNow, .EXPIRED⟩,
    ⟨.OPERATIONAL, .BACKEND_REVOCATION,
      revocationChecked, .REVOKED⟩,
    ⟨.OFFLINE_GRACE, .BACKEND_REVOCATION,
      revocationChecked, .REVOKED⟩,
    ⟨.RENEWING, .BACKEND_REVOCATION,
      revocationChecked, .REVOKED⟩,
    ⟨.AUTHENTICATED, .BACKEND_REVOCATION,
      revocationChecked, .REVOKED⟩,
    ⟨.OPERATIONAL, .SIGNIFICANT_TAMPER_SIGNAL,
      fun f => decide (f.classification = .SIGNIFICANT),
      .INTEGRITY_DEGRADED⟩,
    ⟨.INTEGRITY_DEGRADED,
      .CRITICAL_OR_CORRELATED_TAMPER_SIGNAL,
      fun f => decide (f.classification = .CRITICAL) ||
        decide (f.threshold ≤ f.correlatedCount),
      .TAMPER_SUSPECTED⟩,
    ⟨.REAUTHENTICATION_REQUIRED, .USER_REINITIATES,
      always, .AUTHENTICATING⟩,
    ⟨.LOGGED_OUT, .LOGIN_INTENT, always, .AUTHENTICATING⟩,
    ⟨.AUTH_FAILED, .LOGIN_INTENT, always, .AUTHENTICATING⟩,
    ⟨.AUTHZ_FAILURE, .LOGIN_INTENT,
      always, .AUTHENTICATING⟩,
    ⟨.EXPIRED, .LOGIN_INTENT, always, .AUTHENTICATING⟩,
    ⟨.AUTHENTICATED, .LOGIN_INTENT,
      always, .AUTHENTICATING⟩,
    ⟨.OPERATIONAL, .LOGIN_INTENT, always, .AUTHENTICATING⟩,
    ⟨.AUTHENTICATED, .LOGOUT_INTENT, always, .LOGGING_OUT⟩,
    ⟨.OPERATIONAL, .LOGOUT_INTENT, always, .LOGGING_OUT⟩,
    ⟨.OFFLINE_GRACE, .LOGOUT_INTENT, always, .LOGGING_OUT⟩,
    ⟨.EXPIRED, .LOGOUT_INTENT, always, .LOGGING_OUT⟩,
    ⟨.AUTHZ_FAILURE, .LOGOUT_INTENT, always, .LOGGING_OUT⟩,
    ⟨.REAUTHENTICATION_REQUIRED, .LOGOUT_INTENT,
      always, .LOGGING_OUT⟩,
    ⟨.LOGGING_OUT, .LOGOUT_SEQUENCE_COMPLETE,
      fun f => f.allStepsCompleted, .LOGGED_OUT⟩ ]

def getTransition
    (currentState : SecurityState)
    (event : TransitionEvent) :
    Option TransitionDefinition :=
  transitions.find?
    (fun row =>
      row.currentState = currentState ∧ row.event = event)

/-
  The next state of a transition, `none` when the table has
  no row for it or the guard of the row fails.
-/
def nextState
    (currentState : SecurityState)
    (event : TransitionEvent)
    (facts : TransitionFacts) : Option SecurityState :=
  match getTransition currentState event with
  | some row =>
      if row.guard facts then some row.nextState else none
  | none => none

------------------------------------------------------------
-- The Authority
------------------------------------------------------------

/-
  The in-memory state, `none` before initialization, and the
  next state of a transition that waits for its commit. The
  mutex of the state machine admits one such transition.
-/
structure SecurityAuthority where
  inMemoryState : Option SecurityState
  committing : Option SecurityState
deriving DecidableEq, Repr

/-
  A turn in which the authority may change. A transition
  takes two, its guard and the end of its commit, and other
  turns may come between them.
-/
inductive SecurityInput where
| loaded (persisted : SecurityState) (machineValid : Bool)
| beginTransition
    (event : TransitionEvent) (facts : TransitionFacts)
| endTransition (committed : Bool)
| revokeLicense
| transitionToUnauthenticated
| graceExhausted
| applyWipe
| applySync
deriving DecidableEq, Repr

namespace SecurityAuthority

/- The authority of a new process. -/
def fresh : SecurityAuthority where
  inMemoryState := none
  committing := none

def getSystemState (a : SecurityAuthority) : SecurityState :=
  a.inMemoryState.getD .UNINITIALIZED

/-
  Degraded, offline or revoked. A system that was never
  initialized does not count as degraded.
-/
def isDegraded (a : SecurityAuthority) : Bool :=
  match a.getSystemState with
  | .UNINITIALIZED | .OPERATIONAL | .OFFLINE_GRACE => false
  | _ => true

/-
  The state that a cold boot projects from the persisted
  one. Active states are never revived from disk.
-/
def bootState
    (persisted : SecurityState)
    (machineValid : Bool) : SecurityState :=
  match persisted with
  | .REVOKED | .COMPROMISED | .TAMPER_SUSPECTED
  | .UNINITIALIZED => persisted
  | _ =>
      if machineValid then .SECURITY_STATE_READY
      else .COMPROMISED

/-
  Overwrite the state of an initialized authority, whether
  or not the table has the transition.
-/
def overwrite
    (a : SecurityAuthority)
    (state : SecurityState) : SecurityAuthority :=
  { a with
      inMemoryState := a.inMemoryState.map (fun _ => state) }

/- Look a transition up and check its guard. -/
def beginTransition
    (a : SecurityAuthority)
    (event : TransitionEvent)
    (facts : TransitionFacts) : SecurityAuthority :=
  match a.inMemoryState, a.committing with
  | some state, none =>
      { a with committing := nextState state event facts }
  | _, _ => a

/- The state changes when the storage commits. -/
def endTransition
    (a : SecurityAuthority)
    (committed : Bool) : SecurityAuthority :=
  match a.committing with
  | some next =>
      { inMemoryState :=
          if committed then some next else a.inMemoryState
        committing := none }
  | none => a

/- Written directly from three states only. -/
def transitionToUnauthenticated
    (a : SecurityAuthority) : SecurityAuthority :=
  match a.getSystemState with
  | .SECURITY_STATE_READY | .AUTH_FAILED | .LOGGED_OUT =>
      a.overwrite .UNAUTHENTICATED
  | _ => a

def step
    (a : SecurityAuthority) :
    SecurityInput → SecurityAuthority
| .loaded persisted machineValid =>
    { a with
        inMemoryState :=
          some (bootState persisted machineValid) }
| .beginTransition event facts =>
    a.beginTransition event facts
| .endTransition committed => a.endTransition committed
| .revokeLicense => a.overwrite .REVOKED
| .transitionToUnauthenticated =>
    a.transitionToUnauthenticated
| .graceExhausted => a.overwrite .EXPIRED
| .applyWipe => a.overwrite .COMPROMISED
| .applySync => a.overwrite .OPERATIONAL

end SecurityAuthority

end ControlPlane
