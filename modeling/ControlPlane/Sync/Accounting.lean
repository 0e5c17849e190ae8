import ControlPlane.Sync.Delivery

/-
  What becomes of a mutation.

  A call for a mutation returns what its dispatch returned, or
  that it was queued or exists already, or it throws the
  rejection of the backend. A dispatch of a type that the
  client has no call for returns as one that succeeded, and a
  flush takes it for one.

  Main declarations:
    * `MutationType.ofName` and `MutationType.submitted`
    * `Outbox.ends` and `Ledger`
    * `Ledger.Accounted` and `Ledger.Served`
    * `Ledger.accounted_iff`
    * `Ledger.accounted_along_iff`
-/

------------------------------------------------------------
-- Types Of Mutations
------------------------------------------------------------

namespace ControlPlane

namespace MutationType

/- The name of a type, as a handler submits it. -/
def ofName (name : String) : MutationType :=
  if name = "REGISTER_ACCOUNT" then .registerAccount
  else if name = "UPDATE_ACCOUNT_CREDENTIALS" then
    .updateAccountCredentials
  else if name = "UPDATE_GLOBAL_CONFIG" then .updateGlobalConfig
  else if name = "UPDATE_ACCOUNT_CONFIG" then
    .updateAccountConfig
  else if name = "TOGGLE_BET_CYCLE" then .toggleBetCycle
  else if name = "ACCOUNT_ACTION" then .accountAction
  else if name = "CANCEL_SUBSCRIPTION" then .cancelSubscription
  else if name = "RESUME_SUBSCRIPTION" then .resumeSubscription
  else if name = "SUBMIT_SETTINGS" then .submitSettings
  else if name = "TELEMETRY" then .telemetry
  else if name = "TELEMETRY_LOG" then .telemetryLog
  else if name = "METRIC_EVENT" then .metricEvent
  else if name = "PING" then .ping
  else .unknown name

/- The types that command handlers and routes submit. -/
def submitted : List String :=
  ["REGISTER_ACCOUNT", "ACCOUNT_ACTION", "TOGGLE_BET_CYCLE",
    "UPDATE_ACCOUNT_CONFIG", "RESET_ACCOUNT_CONFIG",
    "UPDATE_GLOBAL_CONFIG", "UPDATE_ACCOUNT_CREDENTIALS"]

/- All of them but one have a call of the client. -/
theorem isKnown_ofName_iff
    {name : String}
    (hSubmitted : name ∈ submitted) :
    (ofName name).isKnown = true ↔
      name ≠ "RESET_ACCOUNT_CONFIG" := by
  revert name
  decide

end MutationType

------------------------------------------------------------
-- Answers Of The Client
------------------------------------------------------------

namespace SyncStage

/- The stage waits for a call of the dispatcher. -/
def dispatches : SyncStage → Bool
| .dispatch => true
| .redispatch _ => true
| _ => false

/- The error of the first dispatch. -/
def kept : SyncStage → Option SyncError
| .dispatch => none
| .auth err => some err
| .redispatch err => some err
| .degrade err => some err

end SyncStage

/- What the client answers to the call for a mutation. -/
def clientAnswer
    (stage : SyncStage)
    (mutation : Mutation)
    (answer : Answer) : Option Answer :=
  if stage.dispatches && mutation.mutationType.isKnown then
    some answer
  else none

/- It succeeds, or reports that the resource exists. -/
def Answer.fulfills : Answer → Bool
| .ok => true
| .error err => err.alreadyExists

/- The outbox counts its item as flushed. -/
def Outbox.Outcome.flushed : Outbox.Outcome → Bool
| .delivered => true
| .fulfilled => true
| _ => false

/- What a call for a mutation returns, or throws. -/
inductive SyncResult where
| result
| queuedForRetry (outboxId : Nat)
| duplicated
| policyRejection
deriving DecidableEq, Repr

namespace Outbox

/- The end of a call that has failed. -/
def failed
    (s : Outbox)
    (err : SyncError) : SyncResult :=
  if err.alreadyExists then .duplicated
  else if err.policyRejection then .policyRejection
  else .queuedForRetry s.enqueued

/- The mutation whose call ends at an event, and how. -/
def ends
    (s : Outbox) : Outbox.Event → Option (Intent × SyncResult)
| .submit mutation _ =>
    if s.isConnected then none
    else
      some (⟨s.submitted, mutation⟩, .queuedForRetry s.enqueued)
| .answerDirect index answer _ =>
    (s.sends[index]?).bind (fun call =>
      match move s.credentials call.intent.mutation call.stage
          answer with
      | .wait _ => none
      | .succeed => some (call.intent, .result)
      | .fail err => some (call.intent, s.failed err)
      | .degraded err => some (call.intent, s.failed err))
| _ => none

/- The mutation that the client has sent with success. -/
def clientSucceeds
    (s : Outbox) : Outbox.Event → Option Intent
| .answerDirect index answer _ =>
    (s.sends[index]?).bind (fun call =>
      if clientAnswer call.stage call.intent.mutation answer =
          some .ok then
        some call.intent
      else none)
| _ => none

end Outbox

------------------------------------------------------------
-- The Ledger
------------------------------------------------------------

/-
  The service, with what the backend has answered: the items
  of the outbox that it has accepted or knows, and the
  mutations that it knows or rejects.
-/
structure Ledger where
  service : Outbox
  answered : List Nat
  existing : List Nat
  rejected : List Nat

namespace Ledger

def start (credentials : Bool) : Ledger where
  service := .fresh credentials
  answered := []
  existing := []
  rejected := []

def noteItem
    (l : Ledger)
    (call : FlushCall)
    (answer : Answer) : Ledger :=
  if (clientAnswer call.stage call.item.intent.mutation
      answer).any Answer.fulfills then
    { l with answered := l.answered ++ [call.item.id] }
  else l

def noteMutation
    (l : Ledger)
    (call : DirectCall)
    (answer : Answer) : Ledger :=
  match clientAnswer call.stage call.intent.mutation answer with
  | some (.error err) =>
      { l with
          existing :=
            if err.alreadyExists then
              l.existing ++ [call.intent.ticket]
            else l.existing
          rejected :=
            if err.policyRejection then
              l.rejected ++ [call.intent.ticket]
            else l.rejected }
  | _ => l

def note
    (l : Ledger) : Outbox.Event → Ledger
| .answerFlush index answer _ =>
    match l.service.flushes[index]? with
    | some call => l.noteItem call answer
    | none => l
| .answerDirect index answer _ =>
    match l.service.sends[index]? with
    | some call => l.noteMutation call answer
    | none => l
| _ => l

def step
    (l : Ledger)
    (event : Outbox.Event) : Ledger :=
  { l.note event with service := l.service.step event }

/- What the end of a call says of the mutation. -/
def EndsAs
    (l : Ledger)
    (event : Outbox.Event)
    (intent : Intent) : SyncResult → Prop
| .result =>
    l.service.clientSucceeds event = some intent ∧
      (l.step event).service.outbox = l.service.outbox
| .queuedForRetry outboxId =>
    l.service.clientSucceeds event = none ∧
      ∃ now,
        (l.step event).service.outbox =
          l.service.evict.outbox ++ [⟨outboxId, intent, now⟩]
| .duplicated =>
    l.service.clientSucceeds event = none ∧
      intent.ticket ∈ (l.step event).existing ∧
      (l.step event).service.outbox = l.service.outbox
| .policyRejection =>
    l.service.clientSucceeds event = none ∧
      intent.ticket ∈ (l.step event).rejected ∧
      (l.step event).service.outbox = l.service.outbox

/- The event takes the item out of the outbox as flushed. -/
def Flushes
    (l : Ledger)
    (event : Outbox.Event)
    (id : Nat) : Prop :=
  (∃ call answer,
    l.service.answered event = some (call, answer) ∧
      (l.service.outcome call answer).flushed = true) ∧
  ((id ∈ l.service.ids ∧ id ∉ (l.step event).service.ids) ∨
    (id ∈ l.service.rowIds ∧
      id ∉ (l.step event).service.rowIds))

/-
  A call ends as it says, one that the client has sent with
  success ends with its result, and only items that the
  backend has answered for are flushed.
-/
structure Accounted
    (l : Ledger)
    (event : Outbox.Event) : Prop where
  ends :
    ∀ intent ending,
      l.service.ends event = some (intent, ending) →
        l.EndsAs event intent ending
  succeeds :
    ∀ intent,
      l.service.clientSucceeds event = some intent →
        l.service.ends event = some (intent, .result)
  flushed :
    ∀ id, l.Flushes event id → id ∈ (l.step event).answered

/-
  The client has a call for every mutation that is dispatched
  outside of the outbox. A flush that counts its item has a
  call for it too, and finds no other item at its index,
  unless the backend has answered for that one.
-/
structure Served
    (l : Ledger)
    (event : Outbox.Event) : Prop where
  direct :
    ∀ index answer now call,
      event = .answerDirect index answer now →
        l.service.sends[index]? = some call →
          call.stage.dispatches = true →
            call.intent.mutation.mutationType.isKnown = true
  flush :
    ∀ call answer,
      l.service.answered event = some (call, answer) →
        (l.service.outcome call answer).flushed = true →
          ∀ id,
            (l.service.ids[call.index]? = some id ∨
              (id = call.item.id ∧ id ∈ l.service.rowIds)) →
            (id = call.item.id ∧
              call.item.intent.mutation.mutationType.isKnown =
                true) ∨
              id ∈ l.answered

------------------------------------------------------------
-- Moves
------------------------------------------------------------

theorem dispatchMutation_eq_ok_iff
    (mutation : Mutation)
    (answer : Answer) :
    dispatchMutation mutation answer = .ok ↔
      mutation.mutationType.isKnown = false ∨ answer = .ok := by
  unfold dispatchMutation
  cases mutation.mutationType.isKnown with
  | true => exact (or_iff_right nofun).symm
  | false => exact iff_of_true rfl (Or.inl rfl)

theorem dispatchMutation_eq_error
    {mutation : Mutation}
    {answer : Answer}
    {err : SyncError}
    (hError : dispatchMutation mutation answer = .error err) :
    mutation.mutationType.isKnown = true ∧
      answer = .error err := by
  unfold dispatchMutation at hError
  split at hError
  · rename_i hKnown
    exact ⟨hKnown, hError⟩
  · cases hError

theorem clientAnswer_eq_some_iff
    {stage : SyncStage}
    {mutation : Mutation}
    {answer given : Answer} :
    clientAnswer stage mutation answer = some given ↔
      stage.dispatches = true ∧
        mutation.mutationType.isKnown = true ∧
          answer = given := by
  unfold clientAnswer
  split
  · rename_i hBoth
    rw [Bool.and_eq_true] at hBoth
    rw [Option.some.injEq]
    exact (and_iff_right hBoth.1).symm.trans
      (and_congr_right' (and_iff_right hBoth.2).symm)
  · rename_i hNot
    rw [Bool.and_eq_true] at hNot
    exact iff_of_false nofun (fun h => hNot ⟨h.1, h.2.1⟩)

theorem move_eq_succeed_iff
    {credentials : Bool}
    {mutation : Mutation}
    {stage : SyncStage}
    {answer : Answer} :
    move credentials mutation stage answer = .succeed ↔
      stage.dispatches = true ∧
        (mutation.mutationType.isKnown = false ∨
          answer = .ok) := by
  rw [← dispatchMutation_eq_ok_iff]
  cases stage with
  | dispatch =>
      unfold move
      cases dispatchMutation mutation answer with
      | ok => exact iff_of_true rfl ⟨rfl, rfl⟩
      | error err =>
          refine iff_of_false ?_ (fun h => nomatch h.2)
          dsimp only
          split
          · split <;> nofun
          · nofun
  | auth err =>
      refine iff_of_false ?_ (fun h => nomatch h.1)
      unfold move
      dsimp only
      split <;> nofun
  | redispatch err =>
      unfold move
      cases dispatchMutation mutation answer with
      | ok => exact iff_of_true rfl ⟨rfl, rfl⟩
      | error other =>
          exact iff_of_false nofun (fun h => nomatch h.2)
  | degrade err => exact iff_of_false nofun (fun h => nomatch h.1)

/- The error that a stage keeps, or that it has just got. -/
def Holds
    (mutation : Mutation)
    (stage : SyncStage)
    (answer : Answer)
    (err : SyncError) : Prop :=
  (stage = .dispatch ∧
    mutation.mutationType.isKnown = true ∧
      answer = .error err) ∨
    stage.kept = some err

theorem holds_of_wait
    {credentials : Bool}
    {mutation : Mutation}
    {stage next : SyncStage}
    {answer : Answer}
    {err : SyncError}
    (hMove :
      move credentials mutation stage answer = .wait next)
    (hKept : next.kept = some err) :
    Holds mutation stage answer err := by
  cases stage with
  | dispatch =>
      unfold move at hMove
      cases hDispatch : dispatchMutation mutation answer with
      | ok =>
          rw [hDispatch] at hMove
          cases hMove
      | error got =>
          rw [hDispatch] at hMove
          have hGot := dispatchMutation_eq_error hDispatch
          have hSame : next.kept = some got := by
            dsimp only at hMove
            split at hMove
            · split at hMove
              · cases hMove
                rfl
              · cases hMove
                rfl
            · cases hMove
          rw [hKept] at hSame
          cases hSame
          exact .inl ⟨rfl, hGot⟩
  | auth got =>
      right
      unfold move at hMove
      dsimp only at hMove
      split at hMove
      · cases hMove
        exact hKept
      · cases hMove
  | redispatch got =>
      unfold move at hMove
      dsimp only at hMove
      split at hMove <;> cases hMove
  | degrade got => cases hMove

theorem holds_of_fail
    {credentials : Bool}
    {mutation : Mutation}
    {stage : SyncStage}
    {answer : Answer}
    {err : SyncError}
    (hMove :
      move credentials mutation stage answer = .fail err ∨
        move credentials mutation stage answer =
          .degraded err) :
    Holds mutation stage answer err := by
  cases stage with
  | dispatch =>
      unfold move at hMove
      cases hDispatch : dispatchMutation mutation answer with
      | ok =>
          rw [hDispatch] at hMove
          rcases hMove with hMove | hMove <;> cases hMove
      | error got =>
          rw [hDispatch] at hMove
          have hGot := dispatchMutation_eq_error hDispatch
          dsimp only at hMove
          split at hMove
          · split at hMove <;>
              rcases hMove with hMove | hMove <;> cases hMove
          · rcases hMove with hMove | hMove <;> cases hMove
            exact .inl ⟨rfl, hGot⟩
  | auth got =>
      right
      unfold move at hMove
      dsimp only at hMove
      split at hMove <;>
        rcases hMove with hMove | hMove <;> cases hMove
      rfl
  | redispatch got =>
      right
      unfold move at hMove
      dsimp only at hMove
      split at hMove <;>
        rcases hMove with hMove | hMove <;> cases hMove
      rfl
  | degrade got =>
      right
      rcases hMove with hMove | hMove <;> cases hMove
      rfl

end Ledger

------------------------------------------------------------
-- Numbered Items
------------------------------------------------------------

namespace Outbox

/- No two items have one number, and new ones are larger. -/
structure Numbered (s : Outbox) : Prop where
  nodup : s.ids.Nodup
  rowsNodup : s.rowIds.Nodup
  below : ∀ id ∈ s.ids, id < s.enqueued
  rowsBelow : ∀ id ∈ s.rowIds, id < s.enqueued

namespace Numbered

variable {s next : Outbox}

theorem of_sublist
    (hNumbered : Numbered s)
    (hIds : next.ids.Sublist s.ids)
    (hRowIds : next.rowIds.Sublist s.rowIds)
    (hEnqueued : next.enqueued = s.enqueued) :
    Numbered next where
  nodup := hNumbered.nodup.sublist hIds
  rowsNodup := hNumbered.rowsNodup.sublist hRowIds
  below := fun id hId =>
    hEnqueued ▸ hNumbered.below id (hIds.subset hId)
  rowsBelow := fun id hId =>
    hEnqueued ▸ hNumbered.rowsBelow id (hRowIds.subset hId)

theorem of_sameStore
    (hNumbered : Numbered s)
    (hSame : SameStore s next) : Numbered next :=
  hNumbered.of_sublist (hSame.ids ▸ List.Sublist.refl _)
    (hSame.rowIds ▸ List.Sublist.refl _) hSame.enqueued

theorem splice_sublist
    (index : Nat)
    (s : Outbox) :
    ((s.splice index).ids).Sublist s.ids := by
  rw [ids_splice]
  exact List.eraseIdx_sublist _ _

theorem deleteRow_sublist
    (id : Nat)
    (s : Outbox) :
    ((s.deleteRow id).rowIds).Sublist s.rowIds :=
  List.filter_sublist.map _

theorem evict
    (hNumbered : Numbered s) : Numbered s.evict := by
  unfold Outbox.evict
  cases s.evicted with
  | none => exact hNumbered
  | some item =>
      exact hNumbered.of_sublist (splice_sublist _ s)
        (deleteRow_sublist item.id s) rfl

theorem push
    (hNumbered : Numbered s)
    (intent : Intent)
    (now : Nat) : Numbered (s.push intent now) := by
  have hAppend :
      ∀ ids : List Nat, ids.Nodup →
        (∀ id ∈ ids, id < s.enqueued) →
          (ids ++ [s.enqueued]).Nodup ∧
            ∀ id ∈ ids ++ [s.enqueued],
              id < s.enqueued + 1 := by
    intro ids hNodup hBelow
    constructor
    · rw [← List.concat_eq_append]
      refine hNodup.concat ?_
      intro hMember
      exact Nat.lt_irrefl _ (hBelow _ hMember)
    · intro id hId
      rcases List.mem_append.mp hId with hOld | hNew
      · exact Nat.lt_succ_of_lt (hBelow id hOld)
      · rw [List.mem_singleton.mp hNew]
        exact Nat.lt_succ_self _
  have hIds := hAppend _ hNumbered.nodup hNumbered.below
  have hRows :=
    hAppend _ hNumbered.rowsNodup hNumbered.rowsBelow
  rw [← ids_push intent now s] at hIds
  rw [← rowIds_push intent now s] at hRows
  exact ⟨hIds.1, hRows.1, hIds.2, hRows.2⟩

theorem restart
    (hNumbered : Numbered s) : Numbered s.restart := by
  have hPerm : s.restart.ids.Perm s.rowIds :=
    hydrateOutbox_perm s.rows
  exact
    { nodup := hPerm.nodup_iff.mpr hNumbered.rowsNodup
      rowsNodup := hNumbered.rowsNodup
      below := fun id hId =>
        hNumbered.rowsBelow id (hPerm.subset hId)
      rowsBelow := hNumbered.rowsBelow }

theorem step
    (hNumbered : Numbered s)
    (event : Outbox.Event) : Numbered (s.step event) := by
  cases step_effect s event with
  | kept _ hStore _ => exact hNumbered.of_sameStore hStore
  | waits _ _ _ _ _ hStore _ =>
      exact hNumbered.of_sameStore hStore
  | finished call answer _ _ hStore _ =>
      have hFinish :=
        finish_store call (s.outcome call answer) s
      refine Numbered.of_sameStore ?_ hStore
      refine hNumbered.of_sublist ?_ ?_ hFinish.2.2.1
      · rw [hFinish.1]
        exact splice_sublist _ s
      · rw [hFinish.2.1]
        exact deleteRow_sublist _ s
  | enqueued intent now _ hStore _ =>
      exact (hNumbered.evict.push intent now).of_sameStore
        hStore
  | logout _ hStore _ =>
      refine Numbered.of_sameStore ?_ hStore
      exact hNumbered.of_sublist (List.nil_sublist _)
        (List.nil_sublist _) rfl
  | restart _ hStore _ =>
      exact hNumbered.restart.of_sameStore hStore

end Numbered

------------------------------------------------------------
-- Calls That Wait
------------------------------------------------------------

variable {s : Outbox}
variable {event : Outbox.Event}

theorem outcome_eq_waits
    {call : FlushCall}
    {answer : Answer}
    {stage : SyncStage}
    (hOutcome : s.outcome call answer = .waits stage) :
    move s.credentials call.item.intent.mutation call.stage
      answer = .wait stage := by
  unfold outcome at hOutcome
  split at hOutcome
  · rename_i hMove
    cases hOutcome
    exact hMove
  · cases hOutcome
  · cases hOutcome
  · split at hOutcome
    · cases hOutcome
    · split at hOutcome <;> cases hOutcome

/- What a flush counts: a success, or what exists already. -/
theorem of_flushed
    {call : FlushCall}
    {answer : Answer}
    (hFlushed : (s.outcome call answer).flushed = true) :
    move s.credentials call.item.intent.mutation call.stage
        answer = .succeed ∨
      ∃ err,
        move s.credentials call.item.intent.mutation
            call.stage answer = .fail err ∧
          err.alreadyExists = true := by
  unfold outcome at hFlushed
  split at hFlushed
  · cases hFlushed
  · rename_i hMove
    exact .inl hMove
  · cases hFlushed
  · rename_i err hMove
    split at hFlushed
    · rename_i hExists
      exact .inr ⟨err, hMove, hExists⟩
    · split at hFlushed <;> cases hFlushed

theorem mem_remaining
    {call : FlushCall}
    (hCall : call ∈ s.remaining event) : call ∈ s.flushes := by
  unfold remaining at hCall
  split at hCall
  · exact List.mem_of_mem_eraseIdx hCall
  · exact hCall

/- A flush that waits is old, begins, or goes on. -/
theorem mem_flushes_step
    {call : FlushCall}
    (hCall : call ∈ (s.step event).flushes) :
    call ∈ s.flushes ∨ call.stage = .dispatch ∨
      ∃ other answer stage,
        s.answered event = some (other, answer) ∧
          s.outcome other answer = .waits stage ∧
          call = { other with stage := stage } := by
  have hScanned :
      Scanned (s.remaining event) (s.step event) →
        call ∈ s.flushes ∨ call.stage = .dispatch := by
    rintro (hSame | ⟨added, hAdded, hStage, _⟩)
    · rw [hSame] at hCall
      exact .inl (mem_remaining hCall)
    · rw [hAdded] at hCall
      rcases List.mem_append.mp hCall with hOld | hNew
      · exact .inl (mem_remaining hOld)
      · rw [List.mem_singleton.mp hNew]
        exact .inr hStage
  cases step_effect s event with
  | kept _ _ hScan => exact (hScanned hScan).imp_right .inl
  | finished _ _ _ _ _ hScan =>
      exact (hScanned hScan).imp_right .inl
  | waits other answer stage hAnswered hOutcome _ hFlushes =>
      rw [hFlushes] at hCall
      rcases List.mem_append.mp hCall with hOld | hNew
      · exact .inl (mem_remaining hOld)
      · exact .inr (.inr ⟨other, answer, stage, hAnswered,
          hOutcome, List.mem_singleton.mp hNew⟩)
  | enqueued _ _ _ _ hFlushes =>
      rw [hFlushes] at hCall
      exact .inl (mem_remaining hCall)
  | logout _ _ hFlushes =>
      rw [hFlushes] at hCall
      exact .inl (mem_remaining hCall)
  | restart _ _ hFlushes =>
      rw [hFlushes] at hCall
      cases hCall

theorem sends_enqueueOutbox
    (intent : Intent)
    (now : Nat)
    (s : Outbox) :
    (s.enqueueOutbox intent now).sends = s.sends := by
  unfold enqueueOutbox Outbox.evict
  split <;> rfl

theorem sends_scan
    (now index : Nat)
    (s : Outbox) : (s.scan now index).sends = s.sends := by
  unfold scan
  split <;> rfl

theorem sends_continueFlush
    (call : FlushCall)
    (answer : Answer)
    (now : Nat)
    (s : Outbox) :
    (s.continueFlush call answer now).sends = s.sends := by
  unfold continueFlush
  cases s.outcome call answer with
  | waits stage => rfl
  | delivered => exact sends_scan _ _ _
  | fulfilled => exact sends_scan _ _ _
  | dropped => exact sends_scan _ _ _
  | retried => exact sends_scan _ _ _
  | stopped => rfl

theorem sends_rejectDirect
    (intent : Intent)
    (err : SyncError)
    (now : Nat)
    (s : Outbox) :
    (s.rejectDirect intent err now).sends = s.sends := by
  unfold rejectDirect
  split
  · rfl
  · split
    · rfl
    · exact sends_enqueueOutbox intent now s

theorem mem_sends_continueDirect
    {call : DirectCall}
    {answer : Answer}
    {now : Nat}
    {other : DirectCall}
    (hCall :
      call ∈ (s.continueDirect other answer now).sends) :
    call ∈ s.sends ∨
      call.intent = other.intent ∧
        move s.credentials other.intent.mutation other.stage
          answer = .wait call.stage := by
  unfold continueDirect at hCall
  split at hCall
  · rename_i stage hMove
    rcases List.mem_append.mp hCall with hOld | hNew
    · exact .inl hOld
    · rw [List.mem_singleton.mp hNew]
      exact .inr ⟨rfl, hMove⟩
  · exact .inl hCall
  · rw [sends_rejectDirect] at hCall
    exact .inl hCall
  · rw [sends_rejectDirect] at hCall
    exact .inl hCall

/- The same of the calls outside of the outbox. -/
theorem mem_sends_step
    {call : DirectCall}
    (hCall : call ∈ (s.step event).sends) :
    call ∈ s.sends ∨ call.stage = .dispatch ∨
      ∃ index answer now other,
        event = .answerDirect index answer now ∧
          s.sends[index]? = some other ∧
          call.intent = other.intent ∧
          move s.credentials other.intent.mutation
            other.stage answer = .wait call.stage := by
  cases event with
  | connect isConnected => exact .inl hCall
  | submit mutation now =>
      unfold Outbox.step syncMutation at hCall
      dsimp only at hCall
      split at hCall
      · rcases List.mem_append.mp hCall with hOld | hNew
        · exact .inl hOld
        · rw [List.mem_singleton.mp hNew]
          exact .inr (.inl rfl)
      · rw [sends_enqueueOutbox] at hCall
        exact .inl hCall
  | enqueue mutation now =>
      unfold Outbox.step at hCall
      dsimp only at hCall
      rw [sends_enqueueOutbox] at hCall
      exact .inl hCall
  | flush now =>
      unfold Outbox.step flushOutbox at hCall
      dsimp only at hCall
      split at hCall
      · rw [sends_scan] at hCall
        exact .inl hCall
      · exact .inl hCall
  | answerFlush index answer now =>
      unfold Outbox.step at hCall
      dsimp only at hCall
      split at hCall
      · rw [sends_continueFlush] at hCall
        exact .inl hCall
      · exact .inl hCall
  | answerDirect index answer now =>
      unfold Outbox.step at hCall
      dsimp only at hCall
      split at hCall
      · rename_i other hOther
        rcases mem_sends_continueDirect hCall with
          hOld | ⟨hIntent, hMove⟩
        · exact .inl (List.mem_of_mem_eraseIdx hOld)
        · exact .inr (.inr ⟨index, answer, now, other, rfl,
            hOther, hIntent, hMove⟩)
      · exact .inl hCall
  | logout => exact .inl hCall
  | restart => exact nomatch hCall

end Outbox

------------------------------------------------------------
-- What The Ledger Notes
------------------------------------------------------------

namespace Ledger

variable {l : Ledger}
variable {event : Outbox.Event}

theorem mem_answered_noteItem
    {call : FlushCall}
    {answer : Answer}
    {id : Nat} :
    id ∈ (l.noteItem call answer).answered ↔
      id ∈ l.answered ∨
        (id = call.item.id ∧
          (clientAnswer call.stage call.item.intent.mutation
            answer).any Answer.fulfills = true) := by
  unfold noteItem
  split
  · rename_i hFulfills
    rw [and_iff_left hFulfills]
    exact List.mem_append.trans
      (or_congr_right List.mem_singleton)
  · rename_i hNot
    exact (or_iff_left (fun h => hNot h.2)).symm

theorem answered_eq_some
    {s : Outbox}
    {call : FlushCall}
    {answer : Answer}
    (hAnswered : s.answered event = some (call, answer)) :
    ∃ index now, event = .answerFlush index answer now ∧
      s.flushes[index]? = some call := by
  unfold Outbox.answered at hAnswered
  split at hAnswered
  · rename_i index given now
    rcases Option.map_eq_some_iff.mp hAnswered with
      ⟨other, hOther, hSame⟩
    cases hSame
    exact ⟨index, now, rfl, hOther⟩
  · cases hAnswered

theorem note_of_answered
    {call : FlushCall}
    {answer : Answer}
    (hAnswered :
      l.service.answered event = some (call, answer)) :
    l.note event = l.noteItem call answer := by
  rcases answered_eq_some hAnswered with
    ⟨index, now, rfl, hCall⟩
  unfold note
  dsimp only
  rw [hCall]

theorem note_answerDirect
    {index : Nat}
    {call : DirectCall}
    (hCall : l.service.sends[index]? = some call)
    (answer : Answer)
    (now : Nat) :
    l.note (.answerDirect index answer now) =
      l.noteMutation call answer := by
  unfold note
  dsimp only
  rw [hCall]

/- Nothing that is noted gets lost. -/
structure NotedIn (l next : Ledger) : Prop where
  answered : ∀ id ∈ l.answered, id ∈ next.answered
  existing : ∀ ticket ∈ l.existing, ticket ∈ next.existing
  rejected : ∀ ticket ∈ l.rejected, ticket ∈ next.rejected

theorem mem_noted
    {condition : Prop}
    [Decidable condition]
    {noted : List Nat}
    {added ticket : Nat}
    (hMem : ticket ∈ noted) :
    ticket ∈ if condition then noted ++ [added] else noted := by
  split
  · exact List.mem_append_left _ hMem
  · exact hMem

theorem notedIn_step
    (l : Ledger)
    (event : Outbox.Event) : NotedIn l (l.step event) := by
  change NotedIn l { l.note event with service := _ }
  unfold note
  split
  · split
    · rename_i call _
      refine ⟨fun id hId => ?_, ?_, ?_⟩
      · exact mem_answered_noteItem.mpr (.inl hId)
      · unfold noteItem
        split <;> exact fun _ h => h
      · unfold noteItem
        split <;> exact fun _ h => h
    · exact ⟨fun _ h => h, fun _ h => h, fun _ h => h⟩
  · split
    · unfold noteMutation
      split
      · exact ⟨fun _ h => h, fun _ h => mem_noted h,
          fun _ h => mem_noted h⟩
      · exact ⟨fun _ h => h, fun _ h => h, fun _ h => h⟩
    · exact ⟨fun _ h => h, fun _ h => h, fun _ h => h⟩
  · exact ⟨fun _ h => h, fun _ h => h, fun _ h => h⟩

/-
  The items are numbered, and what a call keeps of its first
  dispatch has been noted.
-/
structure Recorded (l : Ledger) : Prop where
  numbered : l.service.Numbered
  flushes :
    ∀ call ∈ l.service.flushes,
      ∀ err, call.stage.kept = some err →
        err.alreadyExists = true →
          call.item.id ∈ l.answered
  sends :
    ∀ call ∈ l.service.sends,
      ∀ err, call.stage.kept = some err →
        (err.alreadyExists = true →
          call.intent.ticket ∈ l.existing) ∧
        (err.policyRejection = true →
          call.intent.ticket ∈ l.rejected)

theorem Recorded.item_noted
    {call : FlushCall}
    {answer : Answer}
    {err : SyncError}
    (hRecorded : Recorded l)
    (hAnswered :
      l.service.answered event = some (call, answer))
    (hHolds :
      Holds call.item.intent.mutation call.stage answer err)
    (hExists : err.alreadyExists = true) :
    call.item.id ∈ (l.step event).answered := by
  change _ ∈ (l.note event).answered
  rw [note_of_answered hAnswered, mem_answered_noteItem]
  rcases hHolds with ⟨hStage, hKnown, rfl⟩ | hKept
  · right
    have hAnswer :
        clientAnswer call.stage call.item.intent.mutation
          (.error err) = some (.error err) :=
      clientAnswer_eq_some_iff.mpr
        ⟨by rw [hStage]; rfl, hKnown, rfl⟩
    rw [hAnswer]
    exact ⟨rfl, hExists⟩
  · left
    rcases answered_eq_some hAnswered with ⟨_, _, _, hCall⟩
    exact hRecorded.flushes call (List.mem_of_getElem? hCall)
      err hKept hExists

theorem Recorded.mutation_noted
    {index : Nat}
    {call : DirectCall}
    {answer : Answer}
    {err : SyncError}
    (hRecorded : Recorded l)
    (now : Nat)
    (hCall : l.service.sends[index]? = some call)
    (hHolds :
      Holds call.intent.mutation call.stage answer err) :
    (err.alreadyExists = true →
      call.intent.ticket ∈
        (l.step (.answerDirect index answer now)).existing) ∧
    (err.policyRejection = true →
      call.intent.ticket ∈
        (l.step (.answerDirect index answer now)).rejected) := by
  rcases hHolds with ⟨hStage, hKnown, rfl⟩ | hKept
  · have hAnswer :
        clientAnswer call.stage call.intent.mutation
          (.error err) = some (.error err) :=
      clientAnswer_eq_some_iff.mpr
        ⟨by rw [hStage]; rfl, hKnown, rfl⟩
    change
      (_ → _ ∈ (l.note (.answerDirect index _ now)).existing) ∧
        (_ → _ ∈ (l.note (.answerDirect index _ now)).rejected)
    rw [note_answerDirect hCall]
    unfold noteMutation
    rw [hAnswer]
    constructor
    · intro hExists
      dsimp only
      rw [if_pos hExists]
      exact List.mem_append_right _ List.mem_cons_self
    · intro hRejected
      dsimp only
      rw [if_pos hRejected]
      exact List.mem_append_right _ List.mem_cons_self
  · have hNoted :=
      notedIn_step l (.answerDirect index answer now)
    have hBoth :=
      hRecorded.sends call (List.mem_of_getElem? hCall) err
        hKept
    exact ⟨fun hExists => hNoted.existing _ (hBoth.1 hExists),
      fun hRejected => hNoted.rejected _ (hBoth.2 hRejected)⟩

theorem recorded_step
    (event : Outbox.Event)
    (hRecorded : Recorded l) : Recorded (l.step event) := by
  have hNoted := notedIn_step l event
  refine ⟨hRecorded.numbered.step event, ?_, ?_⟩
  · intro call hCall err hKept hExists
    rcases Outbox.mem_flushes_step hCall with
      hOld | hFirst | ⟨other, answer, stage, hAnswered,
        hOutcome, rfl⟩
    · exact hNoted.answered _
        (hRecorded.flushes call hOld err hKept hExists)
    · rw [hFirst] at hKept
      cases hKept
    · have hItem :=
        hRecorded.item_noted hAnswered
          (holds_of_wait (Outbox.outcome_eq_waits hOutcome)
            hKept) hExists
      exact hItem
  · intro call hCall err hKept
    rcases Outbox.mem_sends_step hCall with
      hOld | hFirst | ⟨index, answer, now, other, rfl, hOther,
        hIntent, hMove⟩
    · have hBoth := hRecorded.sends call hOld err hKept
      exact ⟨fun hExists => hNoted.existing _ (hBoth.1 hExists),
        fun hRejected => hNoted.rejected _ (hBoth.2 hRejected)⟩
    · rw [hFirst] at hKept
      cases hKept
    · rw [hIntent]
      exact hRecorded.mutation_noted now hOther
        (holds_of_wait hMove hKept)

------------------------------------------------------------
-- Items That Are Flushed
------------------------------------------------------------

theorem settles_of_flushed
    {outcome : Outbox.Outcome}
    (hFlushed : outcome.flushed = true) :
    outcome.settles = true := by
  cases outcome with
  | delivered => rfl
  | fulfilled => rfl
  | _ => cases hFlushed

/- A flush that counts its item has finished it. -/
theorem store_of_flushed
    {s : Outbox}
    {call : FlushCall}
    {answer : Answer}
    (hAnswered : s.answered event = some (call, answer))
    (hFlushed : (s.outcome call answer).flushed = true) :
    (s.step event).ids = s.ids.eraseIdx call.index ∧
      (s.step event).rowIds =
        (s.deleteRow call.item.id).rowIds := by
  cases Outbox.step_effect s event with
  | kept hQuiet _ _ =>
      have hNot := (hQuiet call answer hAnswered).1
      rw [settles_of_flushed hFlushed] at hNot
      cases hNot
  | waits other given stage hOther hOutcome _ _ =>
      rw [hAnswered] at hOther
      cases hOther
      rw [hOutcome] at hFlushed
      cases hFlushed
  | finished other given hOther _ hStore _ =>
      rw [hAnswered] at hOther
      cases hOther
      have hFinish :=
        Outbox.finish_store call (s.outcome call answer) s
      exact ⟨hStore.ids.trans
          (hFinish.1.trans (Outbox.ids_splice _ s)),
        hStore.rowIds.trans hFinish.2.1⟩
  | enqueued _ _ hNone _ _ =>
      rw [hNone] at hAnswered
      cases hAnswered
  | logout hEvent _ _ =>
      rw [hEvent] at hAnswered
      cases hAnswered
  | restart hEvent _ _ =>
      rw [hEvent] at hAnswered
      cases hAnswered

/- What a flush that counts its item takes out. -/
theorem flushes_iff
    (hRecorded : Recorded l)
    {call : FlushCall}
    {answer : Answer}
    (hAnswered :
      l.service.answered event = some (call, answer))
    (hFlushed : (l.service.outcome call answer).flushed = true)
    (id : Nat) :
    l.Flushes event id ↔
      l.service.ids[call.index]? = some id ∨
        (id = call.item.id ∧ id ∈ l.service.rowIds) := by
  have hStore := store_of_flushed hAnswered hFlushed
  unfold Flushes
  rw [and_iff_right ⟨call, answer, hAnswered, hFlushed⟩]
  change
    (id ∈ l.service.ids ∧ id ∉ (l.service.step event).ids ∨
      id ∈ l.service.rowIds ∧
        id ∉ (l.service.step event).rowIds) ↔ _
  rw [hStore.1, hStore.2]
  refine or_congr ?_ ?_
  · constructor
    · rintro ⟨hId, hGone⟩
      rcases List.mem_iff_getElem?.mp hId with ⟨index, hThere⟩
      have hIndex : index = call.index := by
        by_contra hOther
        exact hGone (List.mem_eraseIdx_iff_getElem?.mpr
          ⟨index, hOther, hThere⟩)
      exact hIndex ▸ hThere
    · intro hThere
      refine ⟨List.mem_of_getElem? hThere, ?_⟩
      rw [Outbox.mem_eraseIdx_of_nodup hRecorded.numbered.nodup
        hThere]
      exact fun h => h.2 rfl
  · rw [Outbox.mem_rowIds_deleteRow]
    constructor
    · rintro ⟨hRow, hGone⟩
      refine ⟨?_, hRow⟩
      by_contra hOther
      exact hGone ⟨hRow, hOther⟩
    · rintro ⟨rfl, hRow⟩
      exact ⟨hRow, fun h => h.2 rfl⟩

theorem mem_answered_of_flushed
    (hRecorded : Recorded l)
    {call : FlushCall}
    {answer : Answer}
    (hAnswered :
      l.service.answered event = some (call, answer))
    (hFlushed : (l.service.outcome call answer).flushed = true)
    (id : Nat) :
    id ∈ (l.step event).answered ↔
      (id = call.item.id ∧
        call.item.intent.mutation.mutationType.isKnown =
          true) ∨ id ∈ l.answered := by
  constructor
  · intro hId
    change id ∈ (l.note event).answered at hId
    rw [note_of_answered hAnswered, mem_answered_noteItem] at hId
    rcases hId with hOld | ⟨hOwn, hFulfills⟩
    · exact .inr hOld
    · rw [Option.any_eq_true] at hFulfills
      rcases hFulfills with ⟨given, hGiven, _⟩
      exact .inl
        ⟨hOwn, (clientAnswer_eq_some_iff.mp hGiven).2.1⟩
  · rintro (⟨rfl, hKnown⟩ | hOld)
    · rcases Outbox.of_flushed hFlushed with
        hMove | ⟨err, hMove, hExists⟩
      · rcases move_eq_succeed_iff.mp hMove with
          ⟨hStage, hUnknown | rfl⟩
        · exact absurd (hKnown.symm.trans hUnknown) nofun
        · have hAnswer :
              clientAnswer call.stage
                call.item.intent.mutation .ok = some .ok :=
            clientAnswer_eq_some_iff.mpr ⟨hStage, hKnown, rfl⟩
          change _ ∈ (l.note event).answered
          rw [note_of_answered hAnswered,
            mem_answered_noteItem, hAnswer]
          exact .inr ⟨rfl, rfl⟩
      · exact hRecorded.item_noted hAnswered
          (holds_of_fail (.inl hMove)) hExists
    · exact (notedIn_step l event).answered id hOld

theorem flushed_iff
    (hRecorded : Recorded l) :
    (∀ id, l.Flushes event id → id ∈ (l.step event).answered) ↔
      ∀ call answer,
        l.service.answered event = some (call, answer) →
          (l.service.outcome call answer).flushed = true →
            ∀ id,
              (l.service.ids[call.index]? = some id ∨
                (id = call.item.id ∧ id ∈ l.service.rowIds)) →
              (id = call.item.id ∧
                call.item.intent.mutation.mutationType.isKnown =
                  true) ∨
                id ∈ l.answered := by
  constructor
  · intro hAll call answer hAnswered hFlushed id hRemoved
    exact (mem_answered_of_flushed hRecorded hAnswered hFlushed
      id).mp (hAll id ((flushes_iff hRecorded hAnswered
        hFlushed id).mpr hRemoved))
  · intro hAll id hFlushes
    rcases hFlushes.1 with ⟨call, answer, hAnswered, hFlushed⟩
    have hRemoved :=
      (flushes_iff hRecorded hAnswered hFlushed id).mp hFlushes
    exact (mem_answered_of_flushed hRecorded hAnswered hFlushed
      id).mpr (hAll call answer hAnswered hFlushed id hRemoved)

------------------------------------------------------------
-- Calls That End
------------------------------------------------------------

theorem clientSucceeds_eq_some_iff
    {index : Nat}
    {call : DirectCall}
    (hCall : l.service.sends[index]? = some call)
    (answer : Answer)
    (now : Nat)
    (intent : Intent) :
    l.service.clientSucceeds (.answerDirect index answer now) =
        some intent ↔
      call.intent = intent ∧ call.stage.dispatches = true ∧
        call.intent.mutation.mutationType.isKnown = true ∧
          answer = .ok := by
  unfold Outbox.clientSucceeds
  dsimp only
  rw [hCall, Option.bind_some, ← clientAnswer_eq_some_iff]
  split
  · rename_i hAnswer
    rw [Option.some.injEq, and_iff_left hAnswer]
  · rename_i hNot
    exact iff_of_false nofun (fun h => hNot h.2)

theorem ends_of_move
    {s : Outbox}
    {index : Nat}
    {call : DirectCall}
    {answer : Answer}
    {now : Nat}
    (hCall : s.sends[index]? = some call)
    (hMove :
      move s.credentials call.intent.mutation call.stage answer =
        .succeed) :
    s.ends (.answerDirect index answer now) =
      some (call.intent, .result) := by
  unfold Outbox.ends
  dsimp only
  rw [hCall, Option.bind_some, hMove]

theorem step_of_failed
    {s : Outbox}
    {index : Nat}
    {call : DirectCall}
    {answer : Answer}
    {err : SyncError}
    (now : Nat)
    (hCall : s.sends[index]? = some call)
    (hMove :
      move s.credentials call.intent.mutation call.stage
          answer = .fail err ∨
        move s.credentials call.intent.mutation call.stage
          answer = .degraded err) :
    s.step (.answerDirect index answer now) =
      (s.dropDirect index).rejectDirect call.intent err now := by
  have hSame :
      (s.dropDirect index).credentials = s.credentials := rfl
  unfold Outbox.step Outbox.continueDirect
  dsimp only
  rw [hCall]
  dsimp only
  rw [hSame]
  rcases hMove with hMove | hMove
  · rw [hMove]
  · rw [hMove]

/- What an enqueueing adds does not depend on the calls. -/
theorem outbox_enqueue
    {s other : Outbox}
    (hOutbox : other.outbox = s.outbox)
    (hEnqueued : other.enqueued = s.enqueued)
    (intent : Intent)
    (now : Nat) :
    (other.enqueueOutbox intent now).outbox =
      s.evict.outbox ++ [⟨s.enqueued, intent, now⟩] := by
  rcases Outbox.evicted_congr hOutbox with ⟨hIndex, hEvicted⟩
  unfold Outbox.enqueueOutbox Outbox.push Outbox.evict
  rw [hEvicted, hIndex]
  cases s.evicted with
  | none =>
      dsimp only
      rw [hOutbox, hEnqueued]
  | some item =>
      unfold Outbox.deleteRow Outbox.splice
      dsimp only
      rw [hOutbox, hEnqueued]

/- A client that succeeds ends the call with its result. -/
theorem ends_of_succeeds
    {intent : Intent}
    (hSucceeds :
      l.service.clientSucceeds event = some intent) :
    l.service.ends event = some (intent, .result) := by
  cases event with
  | answerDirect index answer now =>
      cases hCall : l.service.sends[index]? with
      | none =>
          unfold Outbox.clientSucceeds at hSucceeds
          dsimp only at hSucceeds
          rw [hCall] at hSucceeds
          cases hSucceeds
      | some call =>
          rcases (clientSucceeds_eq_some_iff hCall answer now
            intent).mp hSucceeds with ⟨rfl, hStage, _, hOk⟩
          have hMove :
              move l.service.credentials call.intent.mutation
                call.stage answer = .succeed :=
            move_eq_succeed_iff.mpr ⟨hStage, .inr hOk⟩
          exact ends_of_move hCall hMove
  | _ => cases hSucceeds

/- A call of the client that succeeds is the result. -/
theorem endsAs_result
    {index : Nat}
    {call : DirectCall}
    {answer : Answer}
    {now : Nat}
    (hCall : l.service.sends[index]? = some call)
    (hMove :
      move l.service.credentials call.intent.mutation call.stage
        answer = .succeed)
    (hKnown :
      call.stage.dispatches = true →
        call.intent.mutation.mutationType.isKnown = true) :
    l.EndsAs (.answerDirect index answer now) call.intent
      .result := by
  rcases move_eq_succeed_iff.mp hMove with
    ⟨hStage, hUnknown | hOk⟩
  · exact absurd ((hKnown hStage).symm.trans hUnknown) nofun
  · refine ⟨(clientSucceeds_eq_some_iff hCall answer now
      call.intent).mpr ⟨rfl, hStage, hKnown hStage, hOk⟩, ?_⟩
    have hSame :
        (l.service.dropDirect index).credentials =
          l.service.credentials := rfl
    change
      (l.service.step (.answerDirect index answer now)).outbox =
        _
    unfold Outbox.step Outbox.continueDirect
    dsimp only
    rw [hCall]
    dsimp only
    rw [hSame, hMove]
    rfl

/- A call that fails says what the backend has said. -/
theorem endsAs_failed
    (hRecorded : Recorded l)
    {index : Nat}
    {call : DirectCall}
    {answer : Answer}
    {now : Nat}
    {err : SyncError}
    (hCall : l.service.sends[index]? = some call)
    (hMove :
      move l.service.credentials call.intent.mutation call.stage
          answer = .fail err ∨
        move l.service.credentials call.intent.mutation
          call.stage answer = .degraded err) :
    l.EndsAs (.answerDirect index answer now) call.intent
      (l.service.failed err) := by
  have hStep := step_of_failed now hCall hMove
  have hNone :
      l.service.clientSucceeds
        (.answerDirect index answer now) = none := by
    rw [Option.eq_none_iff_forall_ne_some]
    intro intent hSucceeds
    rcases (clientSucceeds_eq_some_iff hCall answer now
      intent).mp hSucceeds with ⟨_, hStage, _, hOk⟩
    have hDone :
        move l.service.credentials call.intent.mutation
          call.stage answer = .succeed :=
      move_eq_succeed_iff.mpr ⟨hStage, .inr hOk⟩
    rcases hMove with hMove | hMove
    · exact nomatch hMove.symm.trans hDone
    · exact nomatch hMove.symm.trans hDone
  have hNoted :=
    hRecorded.mutation_noted now hCall
      (holds_of_fail hMove)
  unfold Outbox.failed
  unfold Outbox.rejectDirect at hStep
  split
  · rename_i hExists
    rw [if_pos hExists] at hStep
    have hOutbox := congrArg Outbox.outbox hStep
    exact ⟨hNone, hNoted.1 hExists, hOutbox⟩
  · rename_i hNew
    rw [if_neg hNew] at hStep
    split
    · rename_i hRejected
      rw [if_pos hRejected] at hStep
      have hOutbox := congrArg Outbox.outbox hStep
      exact ⟨hNone, hNoted.2 hRejected, hOutbox⟩
    · rename_i hRetried
      rw [if_neg hRetried] at hStep
      have hOutbox := congrArg Outbox.outbox hStep
      refine ⟨hNone, now, hOutbox.trans ?_⟩
      apply outbox_enqueue <;> rfl

theorem ends_iff
    (hRecorded : Recorded l) :
    (∀ intent ending,
        l.service.ends event = some (intent, ending) →
          l.EndsAs event intent ending) ↔
      ∀ index answer now call,
        event = .answerDirect index answer now →
          l.service.sends[index]? = some call →
            call.stage.dispatches = true →
              call.intent.mutation.mutationType.isKnown =
                true := by
  constructor
  · rintro hAll index answer now call rfl hCall hStage
    by_contra hUnknown
    have hMove :
        move l.service.credentials call.intent.mutation
          call.stage answer = .succeed :=
      move_eq_succeed_iff.mpr
        ⟨hStage, .inl (eq_false_of_ne_true hUnknown)⟩
    have hEnds := hAll _ _ (ends_of_move hCall hMove)
    exact hUnknown ((clientSucceeds_eq_some_iff hCall answer now
      call.intent).mp hEnds.1).2.2.1
  · intro hKnown intent ending hEnds
    cases event with
    | submit mutation now =>
        unfold Outbox.ends at hEnds
        dsimp only at hEnds
        split at hEnds
        · cases hEnds
        · rename_i hOffline
          cases hEnds
          refine ⟨rfl, now, ?_⟩
          change (l.service.syncMutation mutation now).outbox = _
          unfold Outbox.syncMutation
          dsimp only
          rw [if_neg hOffline]
          apply outbox_enqueue <;> rfl
    | answerDirect index answer now =>
        unfold Outbox.ends at hEnds
        dsimp only at hEnds
        cases hCall : l.service.sends[index]? with
        | none =>
            rw [hCall] at hEnds
            cases hEnds
        | some call =>
            rw [hCall, Option.bind_some] at hEnds
            split at hEnds
            · cases hEnds
            · rename_i hMove
              cases hEnds
              exact endsAs_result hCall hMove
                (hKnown index answer now call rfl hCall)
            · rename_i err hMove
              cases hEnds
              exact endsAs_failed hRecorded hCall (.inl hMove)
            · rename_i err hMove
              cases hEnds
              exact endsAs_failed hRecorded hCall (.inr hMove)
    | _ => cases hEnds

theorem accounted_iff
    (hRecorded : Recorded l) :
    l.Accounted event ↔ l.Served event := by
  constructor
  · intro hAccounted
    exact ⟨(ends_iff hRecorded).mp hAccounted.ends,
      (flushed_iff hRecorded).mp hAccounted.flushed⟩
  · intro hServed
    exact ⟨(ends_iff hRecorded).mpr hServed.direct,
      fun _ hSucceeds => ends_of_succeeds hSucceeds,
      (flushed_iff hRecorded).mpr hServed.flush⟩

------------------------------------------------------------
-- Runs
------------------------------------------------------------

theorem recorded_start
    (credentials : Bool) : Recorded (start credentials) where
  numbered :=
    { nodup := List.nodup_nil
      rowsNodup := List.nodup_nil
      below := fun _ h => nomatch h
      rowsBelow := fun _ h => nomatch h }
  flushes := fun _ h => nomatch h
  sends := fun _ h => nomatch h

/-
  Along a run every mutation is accounted for exactly when
  the client has a call for each that is dispatched, and no
  flush meets another item at its index.
-/
theorem accounted_along_iff
    (credentials : Bool)
    (events : List Outbox.Event) :
    Along step Accounted (start credentials) events ↔
      Along step Served (start credentials) events := by
  have hStep :
      ∀ (l : Ledger) (event : Outbox.Event), Recorded l →
        Recorded (l.step event) :=
    fun _ event hRecorded => recorded_step event hRecorded
  exact along_congr_of_invariant hStep
    (fun _ _ hRecorded => accounted_iff hRecorded) events
    (recorded_start credentials)

/- The reset of the configuration of an account. -/
def resetSubmitted : List Outbox.Event :=
  [.connect true,
   .submit
     { mutationType := .ofName "RESET_ACCOUNT_CONFIG"
       accountId := some "acc_1" } 0]

/-
  The call returns normally. The client has no call for the
  mutation, and the outbox is empty.
-/
theorem reset_unaccounted :
    "RESET_ACCOUNT_CONFIG" ∈ MutationType.submitted ∧
    ((run step (start true) resetSubmitted).service.ends
        (.answerDirect 0 .ok 1)).map Prod.snd =
      some .result ∧
    (run step (start true)
        (resetSubmitted ++ [.answerDirect 0 .ok 1])).service.ids =
      [] ∧
    ¬ Along step Accounted (start true)
        (resetSubmitted ++ [.answerDirect 0 .ok 1]) := by
  refine ⟨by decide, by decide +kernel, by decide +kernel, ?_⟩
  intro hAll
  rw [along_append] at hAll
  have hEnds :
      (run step (start true) resetSubmitted).service.ends
          (.answerDirect 0 .ok 1) =
        some
          (⟨0,
            { mutationType := .ofName "RESET_ACCOUNT_CONFIG"
              accountId := some "acc_1" }⟩, .result) := by
    decide +kernel
  have hSucceeds := (hAll.2.1.ends _ _ hEnds).1
  revert hSucceeds
  decide +kernel

end Ledger

end ControlPlane
