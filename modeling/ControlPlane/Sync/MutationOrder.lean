import ControlPlane.Sync.Outbox

/-
  The order in which mutations reach the backend.

  A connected mutation is sent past the outbox, and a flush
  passes over the items that wait for their next attempt. An
  older mutation of the same field may still be waiting when
  a younger one succeeds, and may succeed after it.

  Main declarations:
    * `Mutation.fieldGroup` and `SameField`
    * `Outbox.Within` and `Outbox.within_step`
    * `Outbox.InTurn`
    * `Outbox.accepted_in_order`
-/

------------------------------------------------------------
-- Fields
------------------------------------------------------------

namespace ControlPlane

/-
  The field group that a mutation changes, by its type and
  the account or category that it names.
-/
def Mutation.fieldGroup
    (mutation : Mutation) :
    Option (MutationType × Option String × Option String) :=
  match mutation.mutationType with
  | .toggleBetCycle =>
      some (.toggleBetCycle, mutation.accountId, none)
  | .accountAction =>
      some (.accountAction, mutation.accountId, none)
  | .updateAccountConfig =>
      some (.updateAccountConfig, mutation.accountId,
        mutation.category)
  | .updateGlobalConfig =>
      some (.updateGlobalConfig, none, mutation.category)
  | _ => none

def SameField (first second : Mutation) : Prop :=
  first.fieldGroup.isSome = true ∧
    first.fieldGroup = second.fieldGroup

instance
    (first second : Mutation) :
    Decidable (SameField first second) :=
  inferInstanceAs (Decidable (_ ∧ _))

namespace Outbox

------------------------------------------------------------
-- Unfinished Mutations
------------------------------------------------------------

/- A property of every mutation that is not finished. -/
structure Within
    (P : Intent → Prop)
    (s : Outbox) : Prop where
  outbox : ∀ item ∈ s.outbox, P item.intent
  rows : ∀ row ∈ s.rows, P row.item.intent
  flushes : ∀ call ∈ s.flushes, P call.item.intent
  sends : ∀ call ∈ s.sends, P call.intent

instance
    (P : Intent → Prop)
    [DecidablePred P]
    (s : Outbox) :
    Decidable (Within P s) :=
  decidable_of_iff
    ((∀ item ∈ s.outbox, P item.intent) ∧
      (∀ row ∈ s.rows, P row.item.intent) ∧
      (∀ call ∈ s.flushes, P call.item.intent) ∧
      ∀ call ∈ s.sends, P call.intent)
    ⟨fun h => ⟨h.1, h.2.1, h.2.2.1, h.2.2.2⟩,
      fun h => ⟨h.outbox, h.rows, h.flushes, h.sends⟩⟩

namespace Within

variable {P : Intent → Prop} {s : Outbox}

theorem mono
    {Q : Intent → Prop}
    (hWithin : Within P s)
    (hWeaker : ∀ intent, P intent → Q intent) :
    Within Q s where
  outbox := fun item hItem =>
    hWeaker _ (hWithin.outbox item hItem)
  rows := fun row hRow => hWeaker _ (hWithin.rows row hRow)
  flushes := fun call hCall =>
    hWeaker _ (hWithin.flushes call hCall)
  sends := fun call hCall =>
    hWeaker _ (hWithin.sends call hCall)

theorem scan
    (hWithin : Within P s)
    (now index : Nat) :
    Within P (s.scan now index) := by
  unfold Outbox.scan
  cases hNext : s.nextDue now index with
  | none => exact hWithin
  | some next =>
      rcases next with ⟨found, item⟩
      have hItem : item ∈ s.outbox :=
        List.mem_of_getElem? (nextDue_eq_some hNext)
      refine ⟨hWithin.outbox, hWithin.rows, ?_,
        hWithin.sends⟩
      intro call hCall
      rcases List.mem_append.mp hCall with hOld | hNew
      · exact hWithin.flushes call hOld
      · rw [List.mem_singleton.mp hNew]
        exact hWithin.outbox item hItem

theorem splice
    (hWithin : Within P s)
    (index : Nat) :
    Within P (s.splice index) where
  outbox := by
    intro item hItem
    exact hWithin.outbox item (List.mem_of_mem_eraseIdx hItem)
  rows := hWithin.rows
  flushes := hWithin.flushes
  sends := hWithin.sends

theorem deleteRow
    (hWithin : Within P s)
    (id : Nat) :
    Within P (s.deleteRow id) where
  outbox := hWithin.outbox
  rows := by
    intro row hRow
    exact hWithin.rows row (List.mem_of_mem_filter hRow)
  flushes := hWithin.flushes
  sends := hWithin.sends

theorem evict
    (hWithin : Within P s) :
    Within P s.evict := by
  unfold Outbox.evict
  cases s.evicted with
  | none => exact hWithin
  | some item => exact (hWithin.splice _).deleteRow _

theorem push
    (hWithin : Within P s)
    {intent : Intent}
    (hIntent : P intent)
    (now : Nat) :
    Within P (s.push intent now) where
  outbox := by
    intro item hItem
    rcases List.mem_append.mp hItem with hOld | hNew
    · exact hWithin.outbox item hOld
    · rw [List.mem_singleton.mp hNew]
      exact hIntent
  rows := by
    intro row hRow
    rcases List.mem_append.mp hRow with hOld | hNew
    · exact hWithin.rows row hOld
    · rw [List.mem_singleton.mp hNew]
      exact hIntent
  flushes := hWithin.flushes
  sends := hWithin.sends

theorem retry
    (hWithin : Within P s)
    (call : FlushCall)
    (now : Nat) :
    Within P (s.retry call now) where
  outbox := hWithin.outbox
  rows := by
    intro row hRow
    rcases List.mem_map.mp hRow with ⟨before, hBefore, rfl⟩
    have hOld := hWithin.rows before hBefore
    split
    · exact hOld
    · exact hOld
  flushes := hWithin.flushes
  sends := hWithin.sends

theorem restart
    (hWithin : Within P s) :
    Within P s.restart where
  outbox := by
    intro item hItem
    rcases List.mem_map.mp hItem with ⟨row, hRow, rfl⟩
    apply hWithin.rows row
    exact (List.perm_insertionSort _ s.rows).mem_iff.mp hRow
  rows := hWithin.rows
  flushes := by
    intro call hCall
    cases hCall
  sends := by
    intro call hCall
    cases hCall

theorem logoutOperator
    (hWithin : Within P s) :
    Within P s.logoutOperator where
  outbox := by
    intro item hItem
    cases hItem
  rows := by
    intro row hRow
    cases hRow
  flushes := hWithin.flushes
  sends := hWithin.sends

theorem continueFlush
    {call : FlushCall}
    (hWithin : Within P s)
    (hCall : P call.item.intent)
    (answer : Answer)
    (now : Nat) :
    Within P (s.continueFlush call answer now) := by
  have hSettled : Within P (s.settle call) :=
    (hWithin.deleteRow _).splice _
  unfold Outbox.continueFlush
  cases s.outcome call answer with
  | waits stage =>
      refine ⟨hWithin.outbox, hWithin.rows, ?_,
        hWithin.sends⟩
      intro other hOther
      rcases List.mem_append.mp hOther with hOld | hNew
      · exact hWithin.flushes other hOld
      · rw [List.mem_singleton.mp hNew]
        exact hCall
  | delivered =>
      have hDelivered :
          Within P ((s.deliver call).settle call) :=
        ⟨hSettled.outbox, hSettled.rows, hSettled.flushes,
          hSettled.sends⟩
      exact hDelivered.scan call.now call.index
  | fulfilled => exact hSettled.scan call.now call.index
  | dropped => exact hSettled.scan call.now call.index
  | retried =>
      exact (hWithin.retry call now).scan call.now
        (call.index + 1)
  | stopped => exact hWithin

theorem rejectDirect
    {intent : Intent}
    (hWithin : Within P s)
    (hIntent : P intent)
    (err : SyncError)
    (now : Nat) :
    Within P (s.rejectDirect intent err now) := by
  unfold Outbox.rejectDirect
  split
  · exact hWithin
  · split
    · exact hWithin
    · exact hWithin.evict.push hIntent now

theorem send
    {intent : Intent}
    (hWithin : Within P s)
    (hIntent : P intent)
    (stage : SyncStage) :
    ∀ call ∈ s.sends ++ [⟨intent, stage⟩], P call.intent := by
  intro call hCall
  rcases List.mem_append.mp hCall with hOld | hNew
  · exact hWithin.sends call hOld
  · rw [List.mem_singleton.mp hNew]
    exact hIntent

theorem continueDirect
    {call : DirectCall}
    (hWithin : Within P s)
    (hCall : P call.intent)
    (answer : Answer)
    (now : Nat) :
    Within P (s.continueDirect call answer now) := by
  unfold Outbox.continueDirect
  split
  · exact ⟨hWithin.outbox, hWithin.rows, hWithin.flushes,
      hWithin.send hCall _⟩
  · exact ⟨hWithin.outbox, hWithin.rows, hWithin.flushes,
      hWithin.sends⟩
  · exact hWithin.rejectDirect hCall _ now
  · exact hWithin.rejectDirect hCall _ now

end Within

/- The event submits the mutation. -/
def Submits
    (event : Event)
    (mutation : Mutation) : Prop :=
  (∃ now, event = .submit mutation now) ∨
    ∃ now, event = .enqueue mutation now

/-
  What holds of every unfinished mutation, and of the one
  that is submitted, holds after every event.
-/
theorem within_step
    {P : Intent → Prop}
    {s : Outbox}
    (hWithin : Within P s)
    {event : Event}
    (hNew :
      ∀ mutation, Submits event mutation →
        P ⟨s.submitted, mutation⟩) :
    Within P (s.step event) := by
  have hSubmitted :
      Within P { s with submitted := s.submitted + 1 } :=
    ⟨hWithin.outbox, hWithin.rows, hWithin.flushes,
      hWithin.sends⟩
  unfold step
  cases event with
  | connect isConnected =>
      exact ⟨hWithin.outbox, hWithin.rows, hWithin.flushes,
        hWithin.sends⟩
  | submit mutation now =>
      dsimp only
      unfold syncMutation
      split
      · exact ⟨hWithin.outbox, hWithin.rows, hWithin.flushes,
          hWithin.send (hNew mutation (Or.inl ⟨now, rfl⟩)) _⟩
      · exact hSubmitted.evict.push
          (hNew mutation (Or.inl ⟨now, rfl⟩)) now
  | enqueue mutation now =>
      exact hSubmitted.evict.push
        (hNew mutation (Or.inr ⟨now, rfl⟩)) now
  | flush now =>
      dsimp only
      unfold flushOutbox
      split
      · exact hWithin.scan now 0
      · exact hWithin
  | answerFlush index answer now =>
      dsimp only
      cases hCall : s.flushes[index]? with
      | none => exact hWithin
      | some call =>
          have hDropped : Within P (s.dropFlush index) := by
            refine ⟨hWithin.outbox, hWithin.rows, ?_,
              hWithin.sends⟩
            intro other hOther
            exact hWithin.flushes other
              (List.mem_of_mem_eraseIdx hOther)
          exact hDropped.continueFlush
            (hWithin.flushes call (List.mem_of_getElem? hCall))
            answer now
  | answerDirect index answer now =>
      dsimp only
      cases hCall : s.sends[index]? with
      | none => exact hWithin
      | some call =>
          have hDropped : Within P (s.dropDirect index) := by
            refine ⟨hWithin.outbox, hWithin.rows,
              hWithin.flushes, ?_⟩
            intro other hOther
            exact hWithin.sends other
              (List.mem_of_mem_eraseIdx hOther)
          exact hDropped.continueDirect
            (hWithin.sends call (List.mem_of_getElem? hCall))
            answer now
  | logout => exact hWithin.logoutOperator
  | restart => exact hWithin.restart

------------------------------------------------------------
-- Accepted Mutations
------------------------------------------------------------

/- The mutation whose dispatch an event reports as done. -/
def succeeds
    (s : Outbox) : Event → Option Intent
| .answerFlush index answer _ =>
    (s.flushes[index]?).bind (fun call =>
      if s.outcome call answer = .delivered then
        some call.item.intent
      else
        none)
| .answerDirect index answer _ =>
    (s.sends[index]?).bind (fun call =>
      if move s.credentials call.intent.mutation call.stage
          answer = .succeed then
        some call.intent
      else
        none)
| _ => none

theorem accepted_scan
    (now index : Nat)
    (s : Outbox) :
    (s.scan now index).accepted = s.accepted ∧
      (s.scan now index).submitted = s.submitted := by
  unfold scan
  split
  · exact ⟨rfl, rfl⟩
  · exact ⟨rfl, rfl⟩

theorem accepted_enqueueOutbox
    (intent : Intent)
    (now : Nat)
    (s : Outbox) :
    (s.enqueueOutbox intent now).accepted = s.accepted ∧
      (s.enqueueOutbox intent now).submitted =
        s.submitted := by
  unfold enqueueOutbox evict
  split
  · exact ⟨rfl, rfl⟩
  · exact ⟨rfl, rfl⟩

theorem accepted_rejectDirect
    (intent : Intent)
    (err : SyncError)
    (now : Nat)
    (s : Outbox) :
    (s.rejectDirect intent err now).accepted = s.accepted ∧
      (s.rejectDirect intent err now).submitted =
        s.submitted := by
  unfold rejectDirect
  split
  · exact ⟨rfl, rfl⟩
  · split
    · exact ⟨rfl, rfl⟩
    · exact accepted_enqueueOutbox intent now s

theorem accepted_continueFlush
    (call : FlushCall)
    (answer : Answer)
    (now : Nat)
    (s : Outbox) :
    (s.continueFlush call answer now).accepted =
        s.accepted ++
          (if s.outcome call answer = .delivered then
            some call.item.intent
          else
            none).toList ∧
      (s.continueFlush call answer now).submitted =
        s.submitted := by
  unfold continueFlush
  cases s.outcome call answer with
  | waits stage => exact ⟨(List.append_nil _).symm, rfl⟩
  | delivered => exact accepted_scan call.now call.index _
  | fulfilled =>
      have hScan :=
        accepted_scan call.now call.index (s.settle call)
      exact ⟨hScan.1.trans (List.append_nil _).symm, hScan.2⟩
  | dropped =>
      have hScan :=
        accepted_scan call.now call.index (s.settle call)
      exact ⟨hScan.1.trans (List.append_nil _).symm, hScan.2⟩
  | retried =>
      have hScan :=
        accepted_scan call.now (call.index + 1)
          (s.retry call now)
      exact ⟨hScan.1.trans (List.append_nil _).symm, hScan.2⟩
  | stopped => exact ⟨(List.append_nil _).symm, rfl⟩

theorem accepted_continueDirect
    (call : DirectCall)
    (answer : Answer)
    (now : Nat)
    (s : Outbox) :
    (s.continueDirect call answer now).accepted =
        s.accepted ++
          (if move s.credentials call.intent.mutation
              call.stage answer = .succeed then
            some call.intent
          else
            none).toList ∧
      (s.continueDirect call answer now).submitted =
        s.submitted := by
  unfold continueDirect
  cases move s.credentials call.intent.mutation call.stage
      answer with
  | wait stage => exact ⟨(List.append_nil _).symm, rfl⟩
  | succeed => exact ⟨rfl, rfl⟩
  | fail err =>
      have hRejected :=
        accepted_rejectDirect call.intent err now s
      exact ⟨hRejected.1.trans (List.append_nil _).symm,
        hRejected.2⟩
  | degraded err =>
      have hRejected :=
        accepted_rejectDirect call.intent err now s
      exact ⟨hRejected.1.trans (List.append_nil _).symm,
        hRejected.2⟩

theorem accepted_step
    (s : Outbox)
    (event : Event) :
    (s.step event).accepted =
        s.accepted ++ (s.succeeds event).toList ∧
      s.submitted ≤ (s.step event).submitted := by
  unfold step succeeds
  cases event with
  | connect isConnected =>
      exact ⟨(List.append_nil _).symm, Nat.le_refl _⟩
  | submit mutation now =>
      dsimp only
      unfold syncMutation
      split
      · exact ⟨(List.append_nil _).symm, Nat.le_succ _⟩
      · have hLog :=
          accepted_enqueueOutbox ⟨s.submitted, mutation⟩ now
            { s with submitted := s.submitted + 1 }
        refine ⟨hLog.1.trans (List.append_nil _).symm, ?_⟩
        exact Nat.le_trans (Nat.le_succ _)
          (Nat.le_of_eq hLog.2.symm)
  | enqueue mutation now =>
      have hLog :=
        accepted_enqueueOutbox ⟨s.submitted, mutation⟩ now
          { s with submitted := s.submitted + 1 }
      refine ⟨hLog.1.trans (List.append_nil _).symm, ?_⟩
      exact Nat.le_trans (Nat.le_succ _)
        (Nat.le_of_eq hLog.2.symm)
  | flush now =>
      dsimp only
      unfold flushOutbox
      split
      · have hScan := accepted_scan now 0 s
        exact ⟨hScan.1.trans (List.append_nil _).symm,
          Nat.le_of_eq hScan.2.symm⟩
      · exact ⟨(List.append_nil _).symm, Nat.le_refl _⟩
  | answerFlush index answer now =>
      dsimp only
      cases hCall : s.flushes[index]? with
      | none => exact ⟨(List.append_nil _).symm, Nat.le_refl _⟩
      | some call =>
          have hLog :=
            accepted_continueFlush call answer now
              (s.dropFlush index)
          exact ⟨hLog.1, Nat.le_of_eq hLog.2.symm⟩
  | answerDirect index answer now =>
      dsimp only
      cases hCall : s.sends[index]? with
      | none => exact ⟨(List.append_nil _).symm, Nat.le_refl _⟩
      | some call =>
          have hLog :=
            accepted_continueDirect call answer now
              (s.dropDirect index)
          exact ⟨hLog.1, Nat.le_of_eq hLog.2.symm⟩
  | logout => exact ⟨(List.append_nil _).symm, Nat.le_refl _⟩
  | restart => exact ⟨(List.append_nil _).symm, Nat.le_refl _⟩

theorem submitted_step
    {s : Outbox}
    {event : Event}
    {mutation : Mutation}
    (hSubmits : Submits event mutation) :
    (s.step event).submitted = s.submitted + 1 := by
  rcases hSubmits with ⟨now, rfl⟩ | ⟨now, rfl⟩
  · unfold step syncMutation
    dsimp only
    split
    · rfl
    · exact (accepted_enqueueOutbox _ _ _).2
  · exact (accepted_enqueueOutbox _ _ _).2

/- A mutation that succeeds was waiting in a call. -/
theorem of_succeeds
    {P : Intent → Prop}
    {s : Outbox}
    {event : Event}
    {intent : Intent}
    (hWithin : Within P s)
    (hSucceeds : s.succeeds event = some intent) :
    P intent := by
  cases event with
  | answerFlush index answer now =>
      rcases Option.bind_eq_some_iff.mp hSucceeds with
        ⟨call, hCall, hIntent⟩
      split at hIntent
      · rw [← Option.some.inj hIntent]
        exact hWithin.flushes call (List.mem_of_getElem? hCall)
      · cases hIntent
  | answerDirect index answer now =>
      rcases Option.bind_eq_some_iff.mp hSucceeds with
        ⟨call, hCall, hIntent⟩
      split at hIntent
      · rw [← Option.some.inj hIntent]
        exact hWithin.sends call (List.mem_of_getElem? hCall)
      · cases hIntent
  | _ => cases hSucceeds

------------------------------------------------------------
-- Order
------------------------------------------------------------

/- The first is an older mutation of the same field. -/
def Older (first second : Intent) : Prop :=
  first.ticket < second.ticket ∧
    SameField first.mutation second.mutation

instance
    (first second : Intent) :
    Decidable (Older first second) :=
  inferInstanceAs (Decidable (_ ∧ _))

/- No accepted mutation follows a younger one of its field. -/
def InOrder (accepted : List Intent) : Prop :=
  accepted.Pairwise (fun earlier later => ¬ Older later earlier)

/-
  When a mutation succeeds, no older one of its field waits
  in memory, in the table or in a call.
-/
def InTurn
    (s : Outbox)
    (event : Event) : Prop :=
  ∀ intent ∈ s.succeeds event,
    Within (fun waiting => ¬ Older waiting intent) s

instance
    (s : Outbox)
    (event : Event) :
    Decidable (s.InTurn event) :=
  inferInstanceAs (Decidable (∀ intent ∈ _, Within _ s))

/-
  What is accepted is in order, and nothing older of a field
  is left to come.
-/
structure Orderly (s : Outbox) : Prop where
  inOrder : InOrder s.accepted
  none_older :
    ∀ done ∈ s.accepted,
      Within (fun waiting => ¬ Older waiting done) s
  waiting : Within (fun intent => intent.ticket < s.submitted) s
  accepted : ∀ done ∈ s.accepted, done.ticket < s.submitted

theorem orderly_step
    {s : Outbox}
    {event : Event}
    (hOrderly : Orderly s)
    (hTurn : s.InTurn event) :
    Orderly (s.step event) := by
  have hLog := accepted_step s event
  have hSucceeds :
      ∀ done ∈ (s.succeeds event).toList,
        s.succeeds event = some done := by
    intro done hDone
    exact Option.mem_toList.mp hDone
  have hAccepted :
      ∀ done ∈ (s.step event).accepted,
        done.ticket < s.submitted := by
    intro done hDone
    rw [hLog.1] at hDone
    rcases List.mem_append.mp hDone with hOld | hNew
    · exact hOrderly.accepted done hOld
    · exact of_succeeds hOrderly.waiting (hSucceeds done hNew)
  constructor
  · unfold InOrder
    rw [hLog.1, List.pairwise_append]
    refine ⟨hOrderly.inOrder, ?_, ?_⟩
    · cases s.succeeds event with
      | none => exact List.Pairwise.nil
      | some done => exact List.pairwise_singleton _ _
    · intro earlier hEarlier later hLater
      exact of_succeeds (hOrderly.none_older earlier hEarlier)
        (hSucceeds later hLater)
  · intro done hDone
    apply within_step
    · rw [hLog.1] at hDone
      rcases List.mem_append.mp hDone with hOld | hNew
      · exact hOrderly.none_older done hOld
      · exact hTurn done (hSucceeds done hNew)
    · rintro mutation _ ⟨hLess, _⟩
      exact Nat.lt_asymm hLess (hAccepted done hDone)
  · apply within_step
    · exact hOrderly.waiting.mono
        (fun _ hLess => Nat.lt_of_lt_of_le hLess hLog.2)
    · intro mutation hSubmits
      rw [submitted_step hSubmits]
      exact Nat.lt_succ_self _
  · intro done hDone
    exact Nat.lt_of_lt_of_le (hAccepted done hDone) hLog.2

theorem orderly_fresh (credentials : Bool) :
    Orderly (fresh credentials) where
  inOrder := List.Pairwise.nil
  none_older := by
    intro done hDone
    cases hDone
  waiting := by
    constructor
    · intro item hItem
      cases hItem
    · intro row hRow
      cases hRow
    · intro call hCall
      cases hCall
    · intro call hCall
      cases hCall
  accepted := by
    intro done hDone
    cases hDone

/-
  Mutations of one field are accepted in the order of their
  submission in every run in which a mutation succeeds only
  when no older one of its field is waiting.
-/
theorem accepted_in_order
    (credentials : Bool)
    (events : List Event)
    (hTurn :
      Along step InTurn (fresh credentials) events) :
    Throughout step (fun s => InOrder s.accepted)
      (fresh credentials) events := by
  intro past future hEvents
  rw [hEvents, along_append] at hTurn
  exact (run_invariant (fun s event => orderly_step)
    (orderly_fresh credentials) hTurn.1).inOrder

/- The bet cycle of an account is switched. -/
def toggle (accountId payload : String) : Mutation where
  mutationType := .toggleBetCycle
  accountId := some accountId
  payload := payload

/- The first switch is flushed before the second one. -/
def toggledInTurn : List Event :=
  [.submit (toggle "a" "ACTIVATE") 0, .connect true, .flush 1,
   .answerFlush 0 .ok 2,
   .submit (toggle "a" "DEACTIVATE") 3, .answerDirect 0 .ok 4]

theorem toggles_in_turn :
    (run step (fresh false) toggledInTurn).accepted.map
      Intent.ticket = [0, 1] ∧
    Throughout step (fun s => InOrder s.accepted)
      (fresh false) toggledInTurn := by
  refine ⟨by decide +kernel, ?_⟩
  apply accepted_in_order
  decide +kernel

/-
  The first switch waits in the outbox while the second one
  is sent directly, and is flushed after it.
-/
def toggledOutOfTurn : List Event :=
  [.submit (toggle "a" "ACTIVATE") 0, .connect true,
   .submit (toggle "a" "DEACTIVATE") 1,
   .answerDirect 0 .ok 2, .flush 3, .answerFlush 0 .ok 4]

/- The backend is left with the older switch. -/
theorem toggles_out_of_turn :
    (run step (fresh false)
      toggledOutOfTurn).accepted.map Intent.ticket = [1, 0] ∧
    ¬ Throughout step (fun s => InOrder s.accepted)
      (fresh false) toggledOutOfTurn := by
  refine ⟨by decide +kernel, ?_⟩
  intro hOrder
  have hEnd :
      InOrder (run step (fresh false)
        toggledOutOfTurn).accepted :=
    hOrder toggledOutOfTurn [] (List.append_nil _).symm
  revert hEnd
  unfold InOrder
  decide +kernel

end Outbox

end ControlPlane
