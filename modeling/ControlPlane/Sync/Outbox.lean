import Mathlib.Algebra.Group.Nat.Defs
import Mathlib.Data.List.Sort
import ControlPlane.Data.Run

/-
  The retry outbox of the backend synchronization.

  A flush reads an item of the outbox, waits for its dispatch
  and goes on with the outbox as it is by then: it removes by
  the index under which it read the item. Any number of
  flushes and direct mutations can wait at the same time.

  The fields of an item that a failed dispatch changes are
  kept apart from it, since the flushes that hold the item
  share them with the outbox. An item is named by the order
  in which the items were enqueued.

  Main declarations:
    * `Mutation`, `Intent` and `OutboxItem`
    * `Move` and `move`
    * `Outbox` and `Outbox.step`
-/

------------------------------------------------------------
-- Mutations
------------------------------------------------------------

namespace ControlPlane

inductive MutationType where
| registerAccount
| updateAccountCredentials
| updateGlobalConfig
| updateAccountConfig
| toggleBetCycle
| accountAction
| cancelSubscription
| resumeSubscription
| submitSettings
| telemetry
| telemetryLog
| metricEvent
| ping
| unknown (type : String)
deriving DecidableEq, Repr

namespace MutationType

/- The mutations that the backend client has a call for. -/
def isKnown : MutationType → Bool
| .telemetry => false
| .telemetryLog => false
| .metricEvent => false
| .ping => false
| .unknown _ => false
| _ => true

/- The mutations that are evicted first. -/
def isTelemetry : MutationType → Bool
| .telemetry => true
| .telemetryLog => true
| .metricEvent => true
| .ping => true
| _ => false

end MutationType

/- A mutation with the fields that name what it changes. -/
structure Mutation where
  mutationType : MutationType
  accountId : Option String := none
  category : Option String := none
  payload : String := ""
deriving DecidableEq, Repr

/- A mutation with its place in the order of submission. -/
structure Intent where
  ticket : Nat
  mutation : Mutation
deriving DecidableEq, Repr

structure OutboxItem where
  id : Nat
  intent : Intent
  createdAt : Nat
deriving DecidableEq, Repr

/- A row of `sync_outbox` whose status is `PENDING`. -/
structure OutboxRow where
  item : OutboxItem
  attempts : Nat
  nextRetryAt : Nat
deriving DecidableEq, Repr

------------------------------------------------------------
-- Answers
------------------------------------------------------------

/- What the service reads of an error. -/
structure SyncError where
  generationMismatch : Bool := false
  alreadyExists : Bool := false
  notRetryable : Bool := false
  policyRejection : Bool := false
deriving DecidableEq, Repr

/- A call of the client succeeds, or throws. -/
inductive Answer where
| ok
| error (err : SyncError)
deriving DecidableEq, Repr

/-
  What a mutation waits for: its dispatch, a new session, its
  second dispatch, or the degraded state. The later stages
  keep the error of the first dispatch.
-/
inductive SyncStage where
| dispatch
| auth (err : SyncError)
| redispatch (err : SyncError)
| degrade (err : SyncError)
deriving DecidableEq, Repr

/- How a mutation goes on. -/
inductive Move where
| wait (stage : SyncStage)
| succeed
| fail (err : SyncError)
| degraded (err : SyncError)
deriving DecidableEq, Repr

/- A mutation without a call of the client is no request. -/
def dispatchMutation
    (mutation : Mutation)
    (answer : Answer) : Answer :=
  if mutation.mutationType.isKnown then answer else .ok

/-
  The handling of a generation mismatch, which a flush and a
  direct mutation share. `credentials` says that the operator
  has configured some.
-/
def move
    (credentials : Bool)
    (mutation : Mutation)
    (stage : SyncStage)
    (answer : Answer) : Move :=
  match stage with
  | .dispatch =>
      match dispatchMutation mutation answer with
      | .ok => .succeed
      | .error err =>
          if err.generationMismatch then
            if credentials then .wait (.auth err)
            else .wait (.degrade err)
          else
            .fail err
  | .auth err =>
      match answer with
      | .ok => .wait (.redispatch err)
      | .error _ => .fail err
  | .redispatch err =>
      match dispatchMutation mutation answer with
      | .ok => .succeed
      | .error _ => .fail err
  | .degrade err => .degraded err

------------------------------------------------------------
-- The Outbox
------------------------------------------------------------

/- A flush that waits with the item it read at an index. -/
structure FlushCall where
  now : Nat
  index : Nat
  item : OutboxItem
  stage : SyncStage
deriving DecidableEq, Repr

/- A mutation that is sent without the outbox. -/
structure DirectCall where
  intent : Intent
  stage : SyncStage
deriving DecidableEq, Repr

/-
  The service with its table. `delivered` and `accepted` are
  the items and the mutations whose dispatch has succeeded.
-/
structure Outbox where
  credentials : Bool
  isConnected : Bool
  outbox : List OutboxItem
  attempts : Nat → Nat
  nextRetryAt : Nat → Nat
  rows : List OutboxRow
  flushes : List FlushCall
  sends : List DirectCall
  submitted : Nat
  enqueued : Nat
  delivered : List Nat
  accepted : List Intent

namespace Outbox

def fresh (credentials : Bool) : Outbox where
  credentials := credentials
  isConnected := false
  outbox := []
  attempts := fun _ => 0
  nextRetryAt := fun _ => 0
  rows := []
  flushes := []
  sends := []
  submitted := 0
  enqueued := 0
  delivered := []
  accepted := []

def maxOutboxCapacity : Nat := 5000

/- The ids in memory and the ids of the rows. -/
def ids (s : Outbox) : List Nat :=
  s.outbox.map OutboxItem.id

def rowIds (s : Outbox) : List Nat :=
  s.rows.map (fun row => row.item.id)

/- Telemetry goes first, and then the oldest item. -/
def evictionIndex (s : Outbox) : Nat :=
  (s.outbox.findIdx?
    (fun item =>
      item.intent.mutation.mutationType.isTelemetry)).getD 0

def evicted (s : Outbox) : Option OutboxItem :=
  if maxOutboxCapacity ≤ s.outbox.length then
    s.outbox[s.evictionIndex]?
  else
    none

def deleteRow
    (id : Nat)
    (s : Outbox) : Outbox :=
  { s with rows := s.rows.filter (fun row => row.item.id ≠ id) }

def splice
    (index : Nat)
    (s : Outbox) : Outbox :=
  { s with outbox := s.outbox.eraseIdx index }

/- A full outbox makes room. -/
def evict (s : Outbox) : Outbox :=
  match s.evicted with
  | some item => (s.splice s.evictionIndex).deleteRow item.id
  | none => s

def push
    (intent : Intent)
    (now : Nat)
    (s : Outbox) : Outbox :=
  let item : OutboxItem :=
    { id := s.enqueued, intent := intent, createdAt := now }
  { s with
      outbox := s.outbox ++ [item]
      rows := s.rows ++ [⟨item, 0, now⟩]
      attempts := Function.update s.attempts s.enqueued 0
      nextRetryAt := Function.update s.nextRetryAt s.enqueued now
      enqueued := s.enqueued + 1 }

def enqueueOutbox
    (intent : Intent)
    (now : Nat)
    (s : Outbox) : Outbox :=
  s.evict.push intent now

------------------------------------------------------------
-- The Flush
------------------------------------------------------------

/- The first due item from an index on, with its index. -/
def firstDue
    (due : OutboxItem → Bool) :
    List OutboxItem → Nat → Option (Nat × OutboxItem)
| [], _ => none
| item :: rest, index =>
    if due item then some (index, item)
    else firstDue due rest (index + 1)

/- The item that the loop of a flush comes to next. -/
def nextDue
    (now index : Nat)
    (s : Outbox) : Option (Nat × OutboxItem) :=
  firstDue (fun item => s.nextRetryAt item.id ≤ now)
    (s.outbox.drop index) index

/- The loop goes on from an index and dispatches. -/
def scan
    (now index : Nat)
    (s : Outbox) : Outbox :=
  match s.nextDue now index with
  | none => s
  | some (found, item) =>
      { s with
          flushes :=
            s.flushes ++ [⟨now, found, item, .dispatch⟩] }

def flushOutbox
    (now : Nat)
    (s : Outbox) : Outbox :=
  if s.isConnected then s.scan now 0 else s

/- What the answer to a flush makes of its item. -/
inductive Outcome where
| waits (stage : SyncStage)
| delivered
| fulfilled
| dropped
| retried
| stopped
deriving DecidableEq, Repr

def outcome
    (s : Outbox)
    (call : FlushCall)
    (answer : Answer) : Outcome :=
  match
    move s.credentials call.item.intent.mutation call.stage
      answer with
  | .wait stage => .waits stage
  | .succeed => .delivered
  | .degraded _ => .stopped
  | .fail err =>
      if err.alreadyExists then .fulfilled
      else if err.notRetryable ∧ 3 ≤ s.attempts call.item.id then
        .dropped
      else
        .retried

def retryDelay (attempts : Nat) : Nat :=
  min 300000 (1000 * 2 ^ attempts)

/- The row is deleted, and the index is removed. -/
def settle
    (call : FlushCall)
    (s : Outbox) : Outbox :=
  (s.deleteRow call.item.id).splice call.index

/- The backoff of an item. -/
def retry
    (call : FlushCall)
    (now : Nat)
    (s : Outbox) : Outbox :=
  let attempts := s.attempts call.item.id + 1
  let nextRetryAt := now + retryDelay attempts
  { s with
      attempts :=
        Function.update s.attempts call.item.id attempts
      nextRetryAt :=
        Function.update s.nextRetryAt call.item.id nextRetryAt
      rows := s.rows.map (fun row =>
        if row.item.id = call.item.id then
          { row with
              attempts := attempts
              nextRetryAt := nextRetryAt }
        else
          row) }

def deliver
    (call : FlushCall)
    (s : Outbox) : Outbox :=
  { s with
      delivered := s.delivered ++ [call.item.id]
      accepted := s.accepted ++ [call.item.intent] }

/- The flush goes on after the answer to its call. -/
def continueFlush
    (call : FlushCall)
    (answer : Answer)
    (now : Nat)
    (s : Outbox) : Outbox :=
  match s.outcome call answer with
  | .waits stage =>
      { s with
          flushes := s.flushes ++ [{ call with stage := stage }] }
  | .delivered =>
      ((s.deliver call).settle call).scan call.now call.index
  | .fulfilled => (s.settle call).scan call.now call.index
  | .dropped => (s.settle call).scan call.now call.index
  | .retried =>
      (s.retry call now).scan call.now (call.index + 1)
  | .stopped => s

------------------------------------------------------------
-- Direct Mutations
------------------------------------------------------------

/- A mutation that failed is enqueued, unless it is final. -/
def rejectDirect
    (intent : Intent)
    (err : SyncError)
    (now : Nat)
    (s : Outbox) : Outbox :=
  if err.alreadyExists then s
  else if err.policyRejection then s
  else s.enqueueOutbox intent now

def accept
    (intent : Intent)
    (s : Outbox) : Outbox :=
  { s with accepted := s.accepted ++ [intent] }

def continueDirect
    (call : DirectCall)
    (answer : Answer)
    (now : Nat)
    (s : Outbox) : Outbox :=
  match
    move s.credentials call.intent.mutation call.stage
      answer with
  | .wait stage =>
      { s with sends := s.sends ++ [⟨call.intent, stage⟩] }
  | .succeed => s.accept call.intent
  | .fail err => s.rejectDirect call.intent err now
  | .degraded err => s.rejectDirect call.intent err now

def syncMutation
    (mutation : Mutation)
    (now : Nat)
    (s : Outbox) : Outbox :=
  let intent : Intent := ⟨s.submitted, mutation⟩
  let next := { s with submitted := s.submitted + 1 }
  if s.isConnected then
    { next with sends := next.sends ++ [⟨intent, .dispatch⟩] }
  else
    next.enqueueOutbox intent now

------------------------------------------------------------
-- Runs
------------------------------------------------------------

/- A logout takes a new array and empties the table. -/
def logoutOperator (s : Outbox) : Outbox :=
  { s with outbox := [], rows := [] }

/- The pending rows by their age. -/
def hydrateOutbox (rows : List OutboxRow) : List OutboxItem :=
  (rows.insertionSort
    (fun first second =>
      first.item.createdAt ≤ second.item.createdAt)).map
        OutboxRow.item

/- The field of the row of an item. -/
def rowField
    (rows : List OutboxRow)
    (field : OutboxRow → Nat)
    (id : Nat) : Nat :=
  ((rows.find? (fun row => row.item.id = id)).map field).getD 0

/- A new process reads the table; nothing waits in it. -/
def restart (s : Outbox) : Outbox :=
  { s with
      isConnected := false
      outbox := hydrateOutbox s.rows
      attempts := rowField s.rows OutboxRow.attempts
      nextRetryAt := rowField s.rows OutboxRow.nextRetryAt
      flushes := []
      sends := [] }

/-
  What can happen: the connection changes, a mutation is
  submitted or enqueued, a flush begins, a call is answered,
  the operator logs out, the process restarts.
-/
inductive Event where
| connect (isConnected : Bool)
| submit (mutation : Mutation) (now : Nat)
| enqueue (mutation : Mutation) (now : Nat)
| flush (now : Nat)
| answerFlush (index : Nat) (answer : Answer) (now : Nat)
| answerDirect (index : Nat) (answer : Answer) (now : Nat)
| logout
| restart
deriving DecidableEq, Repr

def dropFlush
    (index : Nat)
    (s : Outbox) : Outbox :=
  { s with flushes := s.flushes.eraseIdx index }

def dropDirect
    (index : Nat)
    (s : Outbox) : Outbox :=
  { s with sends := s.sends.eraseIdx index }

def step
    (s : Outbox)
    (event : Event) : Outbox :=
  match event with
  | .connect isConnected => { s with isConnected := isConnected }
  | .submit mutation now => s.syncMutation mutation now
  | .enqueue mutation now =>
      { s with submitted := s.submitted + 1 }.enqueueOutbox
        ⟨s.submitted, mutation⟩ now
  | .flush now => s.flushOutbox now
  | .answerFlush index answer now =>
      match s.flushes[index]? with
      | some call =>
          (s.dropFlush index).continueFlush call answer now
      | none => s
  | .answerDirect index answer now =>
      match s.sends[index]? with
      | some call =>
          (s.dropDirect index).continueDirect call answer now
      | none => s
  | .logout => s.logoutOperator
  | .restart => s.restart

/- The item that a scan finds stands at its index. -/
theorem firstDue_eq_some
    {due : OutboxItem → Bool}
    {items : List OutboxItem}
    {index found : Nat}
    {item : OutboxItem}
    (hFound : firstDue due items index = some (found, item)) :
    index ≤ found ∧ items[found - index]? = some item := by
  induction items generalizing index with
  | nil => cases hFound
  | cons head rest ih =>
      unfold firstDue at hFound
      split at hFound
      · cases hFound
        simp
      · have hRest := ih hFound
        have hLater : found - index = found - (index + 1) + 1 := by
          omega
        refine ⟨by omega, ?_⟩
        rw [hLater, List.getElem?_cons_succ]
        exact hRest.2

theorem nextDue_eq_some
    {s : Outbox}
    {now index found : Nat}
    {item : OutboxItem}
    (hNext : s.nextDue now index = some (found, item)) :
    s.outbox[found]? = some item := by
  have hFound := firstDue_eq_some hNext
  rw [List.getElem?_drop,
    Nat.add_sub_cancel' hFound.1] at hFound
  exact hFound.2

end Outbox

end ControlPlane
