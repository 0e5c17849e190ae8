import ControlPlane.Authority.Facade
import ControlPlane.Command.Schema
import ControlPlane.Data.Run
import ControlPlane.Data.Stories
import ControlPlane.Store.Adapters

/-
  The router of commands.

  A command is parsed, is given the identifiers that it
  lacks, and is checked against its contract, against the
  capabilities of the session and against the state of the
  security authority. Its handlers are those of its type and
  then those of every type. Each is called when the one
  before it has returned, while other commands are routed.
  A value that cannot be written in a text, or that has no
  clean copy, makes the call throw on its way.

  Main declarations:
    * `commandCapability` and `Authority.isCommandPermitted`
    * `ingressRefusal` and `ingest`
    * `CommandRouter` and `RouterEvent`
    * `CommandRouter.step`
-/

------------------------------------------------------------
-- The Security Authority
------------------------------------------------------------

namespace ControlPlane

/- Full operation and grace are not degraded. -/
def Authority.isDegraded (s : Authority) : Bool :=
  match s.getSystemState with
  | .UNINITIALIZED | .OPERATIONAL | .OFFLINE_GRACE => false
  | _ => true

/- The native flag, or a state of its own. -/
def Authority.isLockedDown (s : Authority) : Bool :=
  match s.getSystemState with
  | .REVOKED | .COMPROMISED | .TAMPER_SUSPECTED => true
  | _ => s.revoked

/- What stops the automation, and what only looks. -/
def containmentCommands : List String :=
  ["EMERGENCY_STOP", "STOP_AUTOMATION", "VIEW_STATUS",
    "GET_HEALTH"]

def automatedExecutionCommands : List String :=
  ["PLACE_BET", "CASH_OUT", "START_AUTOMATION", "VALIDATE",
    "ACTIVATE_ACCOUNT", "DEACTIVATE_ACCOUNT",
    "TEST_DEGRADED_BET"]

def Authority.isCommandPermitted
    (s : Authority)
    (commandType : String) : Bool :=
  if s.isLockedDown then
    decide (commandType ∈ containmentCommands)
  else if s.isDegraded then
    decide (commandType ∉ automatedExecutionCommands)
  else true

namespace Command

/- `COMMAND_CAPABILITY_MAP` -/
def commandCapabilities : List (String × String) :=
  [("START_AUTOMATION", "CAP_AUTOMATION_START"),
    ("STOP_AUTOMATION", "CAP_AUTOMATION_STOP"),
    ("EMERGENCY_STOP", "CAP_AUTOMATION_STOP"),
    ("FREEZE_ACCOUNT", "CAP_AUTOMATION_STOP"),
    ("CANCEL_ALL_BETS", "CAP_AUTOMATION_STOP"),
    ("UPDATE_GLOBAL_CONFIG", "CAP_CONFIG_MODIFY"),
    ("UPDATE_ACCOUNT_CONFIG", "CAP_CONFIG_MODIFY"),
    ("RESET_ACCOUNT_CONFIG", "CAP_CONFIG_MODIFY"),
    ("TOGGLE_BET_CYCLE", "CAP_CONFIG_MODIFY"),
    ("PLACE_BET", "CAP_TACTICAL_BET"),
    ("CASH_OUT", "CAP_CASH_OUT"),
    ("VALIDATE", "CAP_TACTICAL_BET"),
    ("REGISTER_ACCOUNT", "CAP_CONFIG_MODIFY"),
    ("ACCOUNT_ACTION", "CAP_CONFIG_MODIFY"),
    ("BULK_ACTION", "CAP_CONFIG_MODIFY"),
    ("ACTIVATE_ACCOUNT", "CAP_CONFIG_MODIFY"),
    ("DEACTIVATE_ACCOUNT", "CAP_CONFIG_MODIFY"),
    ("SYNC_ACCOUNTS", "CAP_CONFIG_MODIFY"),
    ("UPDATE_PASSWORD", "CAP_CONFIG_MODIFY")]

/- The names that every object of the language has. -/
def inheritedNames : List String :=
  ["constructor", "__defineGetter__", "__defineSetter__",
    "hasOwnProperty", "__lookupGetter__", "__lookupSetter__",
    "isPrototypeOf", "propertyIsEnumerable", "toString",
    "valueOf", "toLocaleString", "__proto__"]

/-
  What the map of capabilities says of a type. What a type
  inherits from the map is no capability that anyone has.
-/
def commandCapability (type : String) : JsValue :=
  match commandCapabilities.lookup type with
  | some capability => .text capability
  | none =>
      if type = "__proto__" then .object []
      else if type ∈ inheritedNames then .function type
      else .undefined

/- The authority, and whether an execution is active. -/
structure Security where
  authority : Authority
  activeExecution : Bool

/- `sec.authorize(requiredCap)` is not operational. -/
def Security.denies
    (security : Security)
    (requiredCap : JsValue) : Bool :=
  match requiredCap with
  | .undefined => false
  | .text capability =>
      decide
        ((security.authority.authorize
          security.activeExecution capability).status ≠
            .state .OPERATIONAL)
  | _ => true

------------------------------------------------------------
-- Ingress
------------------------------------------------------------

variable (w : Writing)

/- A text is parsed, and an object is taken as it is. -/
def parsePayload : JsValue → JsValue
| .text raw =>
    if raw = "" then .null else (w.jsonParse raw).getD .null
| .array items => .array items
| .object members => .object members
| .circular => .circular
| _ => .null

def isObject : JsValue → Bool
| .array _ => true
| .object _ => true
| .circular => true
| _ => false

/- The identifiers that are drawn for a command. -/
structure Drawn where
  id : String
  traceId : String
deriving DecidableEq, Repr

/- A member that is missing is filled in. -/
def fillIn
    (name : String)
    (value : JsValue)
    (command : JsValue) : JsValue :=
  if (command.field name).truthy then command
  else command.withMembers [(name, value)]

def withIdentifiers
    (drawn : Drawn)
    (command : JsValue) : JsValue :=
  let identified :=
    if (command.field "commandId").truthy then command
    else fillIn "id" (.text drawn.id) command
  fillIn "traceId" (.text drawn.traceId)
    (fillIn "commandId" (identified.field "id") identified)

/- The version that a value names first. -/
def versionOf (headersOrPayload : JsValue) : JsValue :=
  (headersOrPayload.field "X-AGY-Protocol-Version").orElse
    ((headersOrPayload.field "_protocolVersion").orElse
      ((headersOrPayload.field "version").orElse
        (headersOrPayload.field "protocolVersion")))

def negotiateVersion
    (headersOrPayload : JsValue) : Except JsError String :=
  if !isObject headersOrPayload then .ok "2.0"
  else if !(versionOf headersOrPayload).truthy then .ok "2.0"
  else do
    let version ← w.stringOf (versionOf headersOrPayload)
    return if "3.".isPrefixOf version then "3.0" else "2.0"

/- `command.id || command.commandId` -/
def identifierOf (command : JsValue) : JsValue :=
  (command.field "id").orElse (command.field "commandId")

/-
  Why a command does not get to its handlers: it is refused,
  or something is thrown on the way to them.
-/
inductive Refusal where
| malformed
| unnamed
| violation (errors : List String)
| denied (requiredCap : JsValue)
| prohibited (type : String) (state : SecurityState)
| thrown (error : JsError)
deriving DecidableEq

/- What is thrown is not counted as a rejection. -/
def Refusal.counted : Refusal → Bool
| .thrown _ => false
| _ => true

/- What is thrown refuses the command. -/
def orThrow {α : Type} : Except JsError α → Except Refusal α
| .ok value => .ok value
| .error error => .error (.thrown error)

/- The identifier is written in the text of a violation. -/
def violation
    (command : JsValue)
    (errors : List String) : Refusal :=
  match w.textOf ((identifierOf command).orElse (.text "unknown"))
    with
  | .ok _ => .violation errors
  | .error error => .thrown error

/- A router of its own may have no authority to ask. -/
def ingressRefusal
    (security : Option Security)
    (type : String) : Option Refusal :=
  match security with
  | none => none
  | some security =>
      if security.denies (commandCapability type) then
        some (.denied (commandCapability type))
      else if !security.authority.isCommandPermitted type then
        some (.prohibited type
          security.authority.getSystemState)
      else none

/- The checks of a command that was parsed. -/
def check
    (security : Option Security)
    (command : JsValue) : Except Refusal JsValue := do
  let errors ← orThrow (validate w command)
  match errors with
  | error :: errors =>
      throw (violation w command (error :: errors))
  | [] =>
      match ingressRefusal security (switchType command) with
      | some refusal => throw refusal
      | none => return command

/- The checks at the ingress, in their order. -/
def ingest
    (security : Option Security)
    (headers : JsValue)
    (drawn : Drawn)
    (raw : JsValue) : Except Refusal JsValue := do
  let parsed := parsePayload w raw
  if !isObject parsed then throw .malformed
  else do
    let _ ← orThrow
      (negotiateVersion w (headers.orElse parsed))
    if !(parsed.field "category").truthy &&
        !(parsed.field "type").truthy then
      throw .unnamed
    else check w security (withIdentifiers drawn parsed)

------------------------------------------------------------
-- Routing
------------------------------------------------------------

structure Registration where
  category : String
  type : String
  handler : Nat
deriving DecidableEq, Repr

/- The handlers of a category and a type, in their order. -/
def handlersOf
    (registrations : List Registration)
    (category type : String) : List Nat :=
  (registrations.filter
    (fun r =>
      decide (r.category = category ∧ r.type = type))).map
        Registration.handler

/- The category of a command that names none. -/
def defaultCategory (command : JsValue) : String :=
  if switchType command ∈ ["NAVIGATE", "navigate"] then
    "Navigation"
  else "Execution"

def categoryOf (command : JsValue) : String :=
  match command.field "category" with
  | .text category =>
      if category = "" then defaultCategory command
      else category
  | _ => defaultCategory command

/- Those of the type, and then those of every type. -/
def allHandlers
    (registrations : List Registration)
    (command : JsValue) : List Nat :=
  handlersOf registrations (categoryOf command)
      (switchType command) ++
    handlersOf registrations (categoryOf command) "*"

/-
  The handlers of a command. Its payload is cleaned and its
  identifier is written in the log before they are called.
-/
def dispatch
    (registrations : List Registration)
    (command : JsValue) : Except JsError (List Nat) :=
  if categoryOf command ∉
      registrations.map Registration.category then .ok []
  else
    match allHandlers registrations command with
    | [] => do
        let _ ← w.textOf (command.field "id")
        return []
    | handler :: waiting => do
        let _ ← Mutators.sanitize false
          (command.field "payload")
        let _ ← w.textOf (identifierOf command)
        return handler :: waiting

structure Metrics where
  received : Nat
  rejected : Nat
  routed : Nat
deriving DecidableEq, Repr

/- How a call of `route` ends. -/
inductive Outcome where
| refused (refusal : Refusal)
| unhandled
| routed (results : List JsValue)
| failed (error : JsValue)
deriving DecidableEq

/- A call that waits for the first of its handlers. -/
structure RouteCall where
  id : Nat
  command : JsValue
  current : Nat
  waiting : List Nat
  results : List JsValue
deriving DecidableEq

/- The call after a handler has returned. -/
def RouteCall.next
    (call : RouteCall)
    (handler : Nat)
    (waiting : List Nat)
    (value : JsValue) : RouteCall :=
  { call with
      current := handler
      waiting := waiting
      results := call.results ++ [value] }

/-
  What has happened: a command got past the ingress, with
  what was there, a handler was called or has returned, or a
  call has ended.
-/
inductive Entry where
| accepted
    (id : Nat)
    (command : JsValue)
    (security : Option Security)
    (registrations : List Registration)
| called (id : Nat) (handler : Nat) (command : JsValue)
| returned (id : Nat) (value : JsValue)
| ended (id : Nat) (outcome : Outcome)

/- The call of `route` that an entry is about. -/
def Entry.id : Entry → Nat
| .accepted id _ _ _ => id
| .called id _ _ => id
| .returned id _ => id
| .ended id _ => id

/- Calls and what is logged of them have the call's number. -/
def naming : Naming RouteCall Entry where
  idOf := RouteCall.id
  about := Entry.id

structure CommandRouter where
  registrations : List Registration
  security : Option Security
  metrics : Metrics
  book : Book RouteCall Entry

inductive RouterEvent where
| register (registration : Registration)
| secure (security : Option Security)
| route (raw headers : JsValue) (drawn : Drawn)
| resolve (id : Nat) (value : JsValue)
| reject (id : Nat) (error : JsValue)

namespace CommandRouter

def withBook
    (book : Book RouteCall Entry)
    (s : CommandRouter) : CommandRouter :=
  { s with book := book }

def receive (s : CommandRouter) : CommandRouter :=
  { s with
      metrics :=
        { s.metrics with received := s.metrics.received + 1 } }

/- A refusal is counted, unless something was thrown. -/
def countRefusal
    (refusal : Refusal)
    (s : CommandRouter) : CommandRouter :=
  { s with
      metrics :=
        { s.metrics with
            rejected :=
              s.metrics.rejected +
                if refusal.counted then 1 else 0 } }

def countRouted (s : CommandRouter) : CommandRouter :=
  { s with
      metrics :=
        { s.metrics with routed := s.metrics.routed + 1 } }

def refuse
    (refusal : Refusal)
    (s : CommandRouter) : CommandRouter :=
  (s.receive.countRefusal refusal).withBook
    (s.book.number.record
      [.ended s.book.nextId (.refused refusal)])

/- The call up to its first wait. -/
def start
    (raw headers : JsValue)
    (drawn : Drawn)
    (s : CommandRouter) : CommandRouter :=
  match ingest w s.security headers drawn raw with
  | .error refusal => s.refuse refusal
  | .ok command =>
      match dispatch w s.registrations command with
      | .error error => s.refuse (.thrown error)
      | .ok [] =>
          s.receive.withBook
            (s.book.number.record
              [.ended s.book.nextId .unhandled])
      | .ok (handler :: waiting) =>
          s.receive.withBook
            ((s.book.number.add
              { id := s.book.nextId
                command := command
                current := handler
                waiting := waiting
                results := [] }).record
              [.accepted s.book.nextId command s.security
                  s.registrations,
                .called s.book.nextId handler command])

def find
    (id : Nat)
    (s : CommandRouter) : Option RouteCall :=
  naming.find s.book id

/- The handler that is waited for has returned. -/
def resume
    (call : RouteCall)
    (value : JsValue)
    (s : CommandRouter) : CommandRouter :=
  match call.waiting with
  | handler :: waiting =>
      s.withBook
        ((naming.replace (call.next handler waiting value)
          s.book).record
          [.returned call.id value,
            .called call.id handler call.command])
  | [] =>
      s.countRouted.withBook
        ((naming.drop call.id s.book).record
          [.returned call.id value,
            .ended call.id
              (.routed (call.results ++ [value]))])

/- The handler that is waited for has thrown. -/
def fail
    (call : RouteCall)
    (error : JsValue)
    (s : CommandRouter) : CommandRouter :=
  s.withBook
    ((naming.drop call.id s.book).record
      [.ended call.id (.failed error)])

def step
    (s : CommandRouter) : RouterEvent → CommandRouter
| .register registration =>
    { s with registrations := s.registrations ++ [registration] }
| .secure security => { s with security := security }
| .route raw headers drawn => s.start w raw headers drawn
| .resolve id value =>
    match s.find id with
    | some call => s.resume call value
    | none => s
| .reject id error =>
    match s.find id with
    | some call => s.fail call error
    | none => s

def new (security : Option Security) : CommandRouter where
  registrations := []
  security := security
  metrics := ⟨0, 0, 0⟩
  book := Book.blank 0

end CommandRouter

end Command

end ControlPlane
