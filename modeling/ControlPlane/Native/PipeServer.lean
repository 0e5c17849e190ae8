import ControlPlane.Boundary.Ipc
import ControlPlane.Data.Stories
import ControlPlane.Native.ExecutionProcesses

/-
  The native server of the named pipe.

  An acceptor lets clients in while the server runs, asks
  the table of processes for the key of each, and gives a
  connection a thread of its own. The thread waits for the
  proof that its client has the key, registers the
  connection, and hands on what it reads until the pipe
  breaks or the server is stopped. Threads, calls that stop
  the server and calls that close a connection interleave
  between their steps.

  A thread reads the pipe of its own client. That the system
  gives out a handle again that is closed twice is left out.

  Main declarations:
    * `PipeThread` and `PipeEntry`
    * `PipeServer` and its steps
    * `NativeHost`, `HostEvent` and `NativeHost.step`
-/

------------------------------------------------------------
-- Threads
------------------------------------------------------------

namespace ControlPlane

namespace Native

/-
  What a thread has done last. It is idle at the head of its
  loop, and engaged from where it has seen the server run.
-/
inductive ThreadPhase where
| authenticating
| authenticated
| registered
| idle
| engaged
| leaving
| removed
deriving DecidableEq, Repr

structure PipeThread where
  id : Nat
  pid : Nat
  key : List UInt8
  phase : ThreadPhase
  reader : PipeReader
deriving DecidableEq, Repr

/-
  What has happened: a client was accepted, with the table
  of that moment, bytes of it arrived, it was dropped or has
  proved that it has the key, or a callback was called.
-/
inductive PipeEntry where
| accepted
    (id pid : Nat)
    (key : List UInt8)
    (handles : List (Nat × List UInt8))
| arrived (id : Nat) (chunk : List UInt8)
| dropped (id : Nat)
| proved (id : Nat) (proof : List UInt8)
| connected (id : Nat)
| data (id : Nat) (text : String)
| disconnected (id : Nat)
deriving DecidableEq, Repr

def PipeEntry.id : PipeEntry → Nat
| .accepted id _ _ _ => id
| .arrived id _ => id
| .dropped id => id
| .proved id _ => id
| .connected id => id
| .data id _ => id
| .disconnected id => id

def pipeNaming : Naming PipeThread PipeEntry where
  idOf := PipeThread.id
  about := PipeEntry.id

------------------------------------------------------------
-- The Server
------------------------------------------------------------

/-
  Clients that were let in are counted, and are known by
  their process once that is in the table. `stopping` counts
  the calls that have stopped the server and have not closed
  its connections yet.
-/
structure PipeServer where
  serverRunning : Bool
  stopping : Nat
  connections : List Nat
  connected : Nat
  identified : List Nat
  book : Book PipeThread PipeEntry
deriving DecidableEq, Repr

namespace PipeServer

def fresh : PipeServer where
  serverRunning := false
  stopping := 0
  connections := []
  connected := 0
  identified := []
  book := Book.blank 1

def withBook
    (book : Book PipeThread PipeEntry)
    (s : PipeServer) : PipeServer :=
  { s with book := book }

def find
    (id : Nat)
    (s : PipeServer) : Option PipeThread :=
  pipeNaming.find s.book id

/- `start_secure_pipe_server` -/
def start (s : PipeServer) : PipeServer :=
  { s with serverRunning := true }

/- `stop_secure_pipe_server` up to its lock. -/
def stop (s : PipeServer) : PipeServer :=
  if s.serverRunning then
    { s with
        serverRunning := false
        stopping := s.stopping + 1 }
  else s

/- Every connection is taken out and closed. -/
def drain (s : PipeServer) : PipeServer :=
  if s.stopping = 0 then s
  else
    { s with
        connections := []
        stopping := s.stopping - 1 }

/- A client has connected, and the server runs. -/
def connect (s : PipeServer) : PipeServer :=
  if s.serverRunning then
    { s with connected := s.connected + 1 }
  else s

/- Clients of no process in the table are dropped. -/
def identify
    (table : ProcessTable)
    (pid : Nat)
    (s : PipeServer) : PipeServer :=
  if s.connected = 0 then s
  else
    { s with
        connected := s.connected - 1
        identified :=
          if table.isValidPid pid then s.identified ++ [pid]
          else s.identified }

/- The thread of a connection, before its first step. -/
def newThread
    (id pid : Nat)
    (key : List UInt8) : PipeThread where
  id := id
  pid := pid
  key := key
  phase := .authenticating
  reader := PipeReader.accepted

/- The counter of the connections is a `u32`. -/
def enter
    (pid : Nat)
    (key : List UInt8)
    (handles : List (Nat × List UInt8))
    (s : PipeServer) : PipeServer :=
  let book :=
    (s.book.number.add
      (newThread s.book.nextId pid key)).record
        [.accepted s.book.nextId pid key handles]
  s.withBook
    { book with nextId := book.nextId % uint32Limit }

/- The client gets a thread if its process has a key. -/
def accept
    (table : ProcessTable)
    (pid : Nat)
    (s : PipeServer) : PipeServer :=
  if pid ∈ s.identified then
    match table.getSessionKey pid with
    | none => { s with identified := s.identified.erase pid }
    | some key =>
        { s with
            identified := s.identified.erase pid }.enter pid
              key table.handles
  else s

/- `close_pipe` -/
def close
    (id : Nat)
    (s : PipeServer) : PipeServer :=
  { s with
      connections :=
        s.connections.filter (fun c => decide (c ≠ id)) }

------------------------------------------------------------
-- Steps Of A Thread
------------------------------------------------------------

/- The message whose code a client presents. -/
def authText (pid : Nat) : List UInt8 :=
  utf8Bytes ("IPC_AUTH" ++ toString pid)

def proceed
    (next : PipeThread)
    (entries : List PipeEntry)
    (s : PipeServer) : PipeServer :=
  s.withBook ((pipeNaming.replace next s.book).record entries)

def finish
    (id : Nat)
    (entries : List PipeEntry)
    (s : PipeServer) : PipeServer :=
  s.withBook ((pipeNaming.drop id s.book).record entries)

/- Bytes of the client are in the pipe. -/
def arrive
    (chunk : List UInt8)
    (t : PipeThread)
    (s : PipeServer) : PipeServer :=
  s.proceed
    { t with reader := t.reader.step (.arrive chunk) }
    [.arrived t.id chunk]

variable (mac : List UInt8 → List UInt8 → List UInt8)

/- The first bytes are the code of the message. -/
def authenticate
    (t : PipeThread)
    (s : PipeServer) : PipeServer :=
  if t.reader.pipe.length < 32 then s
  else
    let proof := t.reader.pipe.take 32
    if mac t.key (authText t.pid) = proof then
      s.proceed
        { t with
            phase := .authenticated
            reader :=
              { t.reader with
                  pipe := t.reader.pipe.drop 32 } }
        [.proved t.id proof]
    else s.finish t.id [.dropped t.id]

def register
    (t : PipeThread)
    (s : PipeServer) : PipeServer :=
  { s.close t.id with
      connections := (s.close t.id).connections ++ [t.id]
    }.proceed { t with phase := .registered } []

/- The loop goes on while the server runs. -/
def check
    (t : PipeThread)
    (s : PipeServer) : PipeServer :=
  s.proceed
    { t with
        phase :=
          if s.serverRunning then .engaged else .leaving }
    []

/- Where the thread is after a turn of its reader. -/
def phaseAfter (reader : PipeReader) : ThreadPhase :=
  if reader.isOpen = false then .leaving
  else if reader.phase = .waiting then .idle
  else .engaged

/- One turn, and the callback for what it completes. -/
def turn
    (count : Nat)
    (t : PipeThread)
    (s : PipeServer) : PipeServer :=
  let reader := t.reader.takeTurn count
  s.proceed
    { t with
        phase := phaseAfter reader
        reader := reader }
    ((reader.extracted.drop t.reader.extracted.length).map
      (.data t.id))

inductive ThreadAction where
| arrive (chunk : List UInt8)
| authenticate
| expire
| register
| announce
| check
| turn (count : Nat)
| fail
| remove
| hangUp
deriving DecidableEq, Repr

/- An action that is not the thread's next does nothing. -/
def act
    (t : PipeThread)
    (action : ThreadAction)
    (s : PipeServer) : PipeServer :=
  match action, t.phase with
  | .arrive chunk, _ => s.arrive chunk t
  | .authenticate, .authenticating => s.authenticate mac t
  | .expire, .authenticating =>
      s.finish t.id [.dropped t.id]
  | .register, .authenticated => s.register t
  | .announce, .registered =>
      s.proceed { t with phase := .idle } [.connected t.id]
  | .check, .idle => s.check t
  | .turn count, .engaged => s.turn count t
  | .fail, .engaged =>
      s.proceed { t with phase := .leaving } []
  | .remove, .leaving =>
      (s.close t.id).proceed { t with phase := .removed } []
  | .hangUp, .removed =>
      s.finish t.id [.disconnected t.id]
  | _, _ => s

end PipeServer

------------------------------------------------------------
-- The Host
------------------------------------------------------------

structure NativeHost where
  table : ProcessTable
  server : PipeServer
deriving DecidableEq, Repr

inductive HostEvent where
| process (event : ProcessEvent)
| start
| stop
| drain
| connect
| identify (pid : Nat)
| accept (pid : Nat)
| close (id : Nat)
| act (id : Nat) (action : PipeServer.ThreadAction)
deriving DecidableEq, Repr

namespace NativeHost

def fresh : NativeHost where
  table := ProcessTable.fresh
  server := PipeServer.fresh

variable
  (digest : List UInt8 → String)
  (mac : List UInt8 → List UInt8 → List UInt8)

def onServer
    (f : PipeServer → PipeServer)
    (h : NativeHost) : NativeHost :=
  { h with server := f h.server }

def step
    (h : NativeHost) : HostEvent → NativeHost
| .process event =>
    { h with table := h.table.step digest event }
| .start => h.onServer PipeServer.start
| .stop => h.onServer PipeServer.stop
| .drain => h.onServer PipeServer.drain
| .connect => h.onServer PipeServer.connect
| .identify pid =>
    h.onServer (PipeServer.identify h.table pid)
| .accept pid => h.onServer (PipeServer.accept h.table pid)
| .close id => h.onServer (PipeServer.close id)
| .act id action =>
    match h.server.find id with
    | some t => h.onServer (PipeServer.act mac t action)
    | none => h

end NativeHost

end Native

end ControlPlane
