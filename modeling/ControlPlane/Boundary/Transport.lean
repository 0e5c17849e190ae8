import ControlPlane.Boundary.Coordinator

/-
  The named-pipe transport of the Execution Plane boundary.

  The native pipe is outside the program: a `NativePipe`
  gives its answers during one turn, whether the server can
  listen and what each connection does with a write. A write
  that throws reaches the caller, since nothing listens to
  the error event the transport emits. `sent` is the log of
  the envelopes that at least one connection accepted.

  Main declarations:
    * `Payload` and `Frame`
    * `PipeTransport` and its operations
-/

------------------------------------------------------------
-- Frames
------------------------------------------------------------

namespace ControlPlane

/- What a reconciliation task remembers of its origin. -/
inductive Details where
| result (result : OperationResult)
| run (run : UnresolvedRun)
| tracked (operationId : String)
deriving DecidableEq, Repr

/- Role of an account in the browser fleet. -/
inductive FleetRole where
| master | slave
deriving DecidableEq, Repr

/- An account compiled with its decrypted credentials. -/
structure CompiledAccount where
  id : String
  role : FleetRole
  platformId : String
  username : String
  password : String
  proxyUrl : Option String
deriving DecidableEq, Repr

/- Payloads of the envelopes the Control Plane sends. -/
inductive Payload where
| empty
| tactical (payload : TacticalPayload)
| initialization (accounts : List CompiledAccount)
| stopCluster (timeoutMs : Nat)
| reconcile (request : ReconcileRequest Details)
| account (accountId : String)
| betCycle (targetBrowserId : String) (isEnabled : Bool)
| policy (target category operationId : String)
| resetPolicy
    (target : Option String) (operationId : String)
deriving DecidableEq, Repr

/- A canonical execution envelope. -/
structure Frame where
  msgId : String
  traceId : String
  type : ExecutionMessageType
  timestamp : Nat
  payload : Payload
deriving DecidableEq, Repr

------------------------------------------------------------
-- Transport
------------------------------------------------------------

/- What the native pipe does with one write. -/
inductive WriteAnswer where
| accepted | refused | threw
deriving DecidableEq, Repr

/- The answers of the native pipe during one turn. -/
structure NativePipe where
  listens : Bool
  write : Nat → WriteAnswer

structure PipeTransport where
  activeConnections : List Nat
  isListening : Bool
  sent : List Frame
deriving DecidableEq, Repr

namespace PipeTransport

/- A transport that has not been started. -/
def fresh : PipeTransport where
  activeConnections := []
  isListening := false
  sent := []

/- Start listening; `none` when the native server throws. -/
def startServer
    (t : PipeTransport)
    (native : NativePipe) : Option PipeTransport :=
  if t.isListening then
    some t
  else if native.listens then
    some { t with isListening := true }
  else
    none

/- Stop listening and drop the connections. -/
def stopServer (t : PipeTransport) : PipeTransport :=
  if t.isListening then
    { t with activeConnections := [], isListening := false }
  else
    t

/-
  Write to the connections in turn, up to one that throws:
  the accepted writes, and whether every one was tried.
-/
def writeAll
    (native : NativePipe) : List Nat → Nat × Bool
| [] => (0, true)
| connId :: rest =>
    match native.write connId with
    | .accepted =>
        ((writeAll native rest).1 + 1,
          (writeAll native rest).2)
    | .refused => writeAll native rest
    | .threw => (0, false)

/-
  Write to every connection. The answer is the number of
  accepted writes, `none` when a write throws.
-/
def broadcast
    (t : PipeTransport)
    (native : NativePipe)
    (frame : Frame) : PipeTransport × Option Nat :=
  let written := writeAll native t.activeConnections
  (if written.1 = 0 then t
    else { t with sent := t.sent ++ [frame] },
    if written.2 then some written.1 else none)

def isConnected (t : PipeTransport) : Bool :=
  !t.activeConnections.isEmpty

def onConnect
    (t : PipeTransport)
    (connId : Nat) : PipeTransport :=
  if connId ∈ t.activeConnections then
    t
  else
    { t with
        activeConnections :=
          t.activeConnections ++ [connId] }

def onDisconnect
    (t : PipeTransport)
    (connId : Nat) : PipeTransport :=
  { t with
      activeConnections :=
        t.activeConnections.filter (fun c => c ≠ connId) }

@[simp] theorem onConnect_sent
    (t : PipeTransport)
    (connId : Nat) :
    (t.onConnect connId).sent = t.sent := by
  unfold onConnect
  split <;> rfl

@[simp] theorem stopServer_sent
    (t : PipeTransport) :
    t.stopServer.sent = t.sent := by
  unfold stopServer
  split <;> rfl

theorem startServer_sent
    {t started : PipeTransport}
    {native : NativePipe}
    (hStart : t.startServer native = some started) :
    started.sent = t.sent := by
  unfold startServer at hStart
  split at hStart
  · rw [← Option.some.inj hStart]
  · split at hStart
    · rw [← Option.some.inj hStart]
    · cases hStart

theorem startServer_activeConnections
    {t started : PipeTransport}
    {native : NativePipe}
    (hStart : t.startServer native = some started) :
    started.activeConnections = t.activeConnections := by
  unfold startServer at hStart
  split at hStart
  · rw [← Option.some.inj hStart]
  · split at hStart
    · rw [← Option.some.inj hStart]
    · cases hStart

/- A broadcast logs its frame or nothing. -/
theorem broadcast_sent
    (t : PipeTransport)
    (native : NativePipe)
    (frame : Frame) :
    (t.broadcast native frame).1.sent = t.sent ∨
      (t.broadcast native frame).1.sent =
        t.sent ++ [frame] := by
  unfold broadcast
  dsimp only
  split
  · exact Or.inl rfl
  · exact Or.inr rfl

end PipeTransport

end ControlPlane
