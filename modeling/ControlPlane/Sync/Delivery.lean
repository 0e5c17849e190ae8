import ControlPlane.Sync.Outbox

/-
  Delivery by the outbox.

  A flush that finishes an item deletes its row by the id and
  removes it from memory by the index. Where the item still
  stands at the index, both take the same item; otherwise
  another item is lost or the item is dispatched again.

  Main declarations:
    * `Outbox.Sound` and `Outbox.InPlace`
    * `Outbox.Tidy` and `Outbox.tidy_step`
    * `Outbox.sound_iff_inPlace`
    * `Outbox.Alone` and `Outbox.delivery_sound_iff`
-/

------------------------------------------------------------
-- Sound Steps
------------------------------------------------------------

namespace ControlPlane

namespace Outbox

namespace Outcome

/- The item is finished. -/
def settles : Outcome → Bool
| .delivered => true
| .fulfilled => true
| .dropped => true
| _ => false

/- The dispatch has succeeded, or the second one begins. -/
def sends : Outcome → Bool
| .delivered => true
| .waits (.redispatch _) => true
| _ => false

end Outcome

/- The call that an event answers. -/
def answered
    (s : Outbox)
    (event : Event) : Option (FlushCall × Answer) :=
  match event with
  | .answerFlush index answer _ =>
      (s.flushes[index]?).map (fun call => (call, answer))
  | _ => none

/- The flushes that an event leaves waiting as they were. -/
def remaining
    (s : Outbox)
    (event : Event) : List FlushCall :=
  match event with
  | .answerFlush index _ _ => s.flushes.eraseIdx index
  | _ => s.flushes

/- The event begins a dispatch of the item. -/
def Begins
    (s : Outbox)
    (event : Event)
    (id : Nat) : Prop :=
  ∃ call : FlushCall,
    (s.step event).flushes = s.remaining event ++ [call] ∧
      (call.stage = .dispatch ∨
        ∃ err, call.stage = .redispatch err) ∧
      call.item.id = id

/- The dispatch of the item succeeds. -/
def Delivers
    (s : Outbox)
    (event : Event)
    (id : Nat) : Prop :=
  (s.step event).delivered = s.delivered ++ [id]

/-
  The item may leave: its own dispatch is finished, it is
  evicted by the item that is enqueued, or the operator logs
  out.
-/
def Releases
    (s : Outbox)
    (event : Event)
    (id : Nat) : Prop :=
  event = .logout ∨
    (∃ call answer,
      s.answered event = some (call, answer) ∧
        (s.outcome call answer).settles = true ∧
          call.item.id = id) ∨
    (s.enqueued < (s.step event).enqueued ∧
      s.evicted.map OutboxItem.id = some id)

/-
  No item leaves for another reason, none is dispatched or
  delivered after its delivery, and the items in memory are
  those of the table.
-/
structure Sound
    (s : Outbox)
    (event : Event) : Prop where
  leaves :
    ∀ id ∈ s.ids, id ∉ (s.step event).ids →
      s.Releases event id
  dispatches :
    ∀ id, s.Begins event id → id ∉ (s.step event).delivered
  delivers :
    ∀ id, s.Delivers event id → id ∉ s.delivered
  rows :
    ∀ id, id ∈ (s.step event).ids ↔
      id ∈ (s.step event).rowIds

/-
  The item stands at the index under which it was read, or
  there is neither the item nor the index.
-/
def Placed
    (s : Outbox)
    (call : FlushCall) : Prop :=
  s.ids[call.index]? = some call.item.id ∨
    (s.ids[call.index]? = none ∧ call.item.id ∉ s.ids)

/-
  A flush finishes an item in its place, and takes none up
  that another flush has delivered meanwhile.
-/
def InPlace
    (s : Outbox)
    (event : Event) : Prop :=
  ∀ call answer,
    s.answered event = some (call, answer) →
      ((s.outcome call answer).settles = true →
        s.Placed call) ∧
      ((s.outcome call answer).sends = true →
        call.item.id ∉ s.delivered)

------------------------------------------------------------
-- What The Operations Change
------------------------------------------------------------

theorem getElem?_ids
    {s : Outbox}
    {index : Nat}
    {item : OutboxItem}
    (hItem : s.outbox[index]? = some item) :
    s.ids[index]? = some item.id := by
  unfold ids
  rw [List.getElem?_map, hItem]
  rfl

/-
  At most one call is added, for an item that stands at its
  index.
-/
def Scanned
    (flushes : List FlushCall)
    (next : Outbox) : Prop :=
  next.flushes = flushes ∨
    ∃ call : FlushCall,
      next.flushes = flushes ++ [call] ∧
        call.stage = .dispatch ∧
          next.ids[call.index]? = some call.item.id

theorem scan_scanned
    (now index : Nat)
    (s : Outbox) :
    Scanned s.flushes (s.scan now index) := by
  unfold scan
  cases hNext : s.nextDue now index with
  | none => exact Or.inl rfl
  | some next =>
      rcases next with ⟨found, item⟩
      refine Or.inr
        ⟨⟨now, found, item, .dispatch⟩, rfl, rfl, ?_⟩
      exact getElem?_ids (nextDue_eq_some hNext)

/- What is in memory, in the table and in the logs. -/
structure SameStore (s next : Outbox) : Prop where
  ids : next.ids = s.ids
  rowIds : next.rowIds = s.rowIds
  enqueued : next.enqueued = s.enqueued
  delivered : next.delivered = s.delivered

theorem scan_sameStore
    (now index : Nat)
    (s : Outbox) :
    SameStore s (s.scan now index) := by
  unfold scan
  split
  · exact ⟨rfl, rfl, rfl, rfl⟩
  · exact ⟨rfl, rfl, rfl, rfl⟩

theorem retry_sameStore
    (call : FlushCall)
    (now : Nat)
    (s : Outbox) :
    SameStore s (s.retry call now) := by
  refine ⟨rfl, ?_, rfl, rfl⟩
  unfold retry rowIds
  rw [List.map_map]
  apply List.map_congr_left
  intro row _
  by_cases hRow : row.item.id = call.item.id
  · simp [hRow]
  · simp [hRow]

theorem mem_rowIds_deleteRow
    (id other : Nat)
    (s : Outbox) :
    other ∈ (s.deleteRow id).rowIds ↔
      other ∈ s.rowIds ∧ other ≠ id := by
  unfold deleteRow rowIds
  constructor
  · intro hOther
    rcases List.mem_map.mp hOther with ⟨row, hRow, rfl⟩
    rcases List.mem_filter.mp hRow with ⟨hMember, hKept⟩
    exact ⟨List.mem_map_of_mem hMember, by simpa using hKept⟩
  · rintro ⟨hOther, hNe⟩
    rcases List.mem_map.mp hOther with ⟨row, hRow, rfl⟩
    apply List.mem_map_of_mem
    exact List.mem_filter.mpr ⟨hRow, by simpa using hNe⟩

theorem ids_splice
    (index : Nat)
    (s : Outbox) :
    (s.splice index).ids = s.ids.eraseIdx index := by
  unfold splice ids
  rw [List.eraseIdx_eq_take_drop_succ,
    List.eraseIdx_eq_take_drop_succ, List.map_append,
    List.map_take, List.map_drop]

/- The entry at an index is the one that is removed. -/
theorem mem_eraseIdx_of_nodup
    {ids : List Nat}
    {index id other : Nat}
    (hNodup : ids.Nodup)
    (hId : ids[index]? = some id) :
    other ∈ ids.eraseIdx index ↔ other ∈ ids ∧ other ≠ id := by
  rcases List.getElem?_eq_some_iff.mp hId with ⟨hIndex, rfl⟩
  rw [← hNodup.erase_getElem index hIndex, hNodup.mem_erase_iff]
  exact and_comm

------------------------------------------------------------
-- The Invariant
------------------------------------------------------------

/-
  The items in memory are those of the table, each once, and
  none of them has been delivered.
-/
structure Tidy (s : Outbox) : Prop where
  nodup : s.ids.Nodup
  rowsNodup : s.rowIds.Nodup
  rows : ∀ id, id ∈ s.ids ↔ id ∈ s.rowIds
  below : ∀ id ∈ s.ids, id < s.enqueued
  undelivered : ∀ id ∈ s.ids, id ∉ s.delivered
  deliveredBelow : ∀ id ∈ s.delivered, id < s.enqueued

/- The flushes hold items that have been enqueued. -/
def Called (s : Outbox) : Prop :=
  ∀ call ∈ s.flushes, call.item.id < s.enqueued

theorem Tidy.of_sameStore
    {s next : Outbox}
    (hTidy : Tidy s)
    (hSame : SameStore s next) :
    Tidy next := by
  constructor
  · rw [hSame.ids]
    exact hTidy.nodup
  · rw [hSame.rowIds]
    exact hTidy.rowsNodup
  · rw [hSame.ids, hSame.rowIds]
    exact hTidy.rows
  · rw [hSame.ids, hSame.enqueued]
    exact hTidy.below
  · rw [hSame.ids, hSame.delivered]
    exact hTidy.undelivered
  · rw [hSame.delivered, hSame.enqueued]
    exact hTidy.deliveredBelow

/- An item that is removed in its place is gone. -/
theorem Tidy.mem_ids_splice
    {s : Outbox}
    {index id : Nat}
    (hTidy : Tidy s)
    (hPlaced :
      s.ids[index]? = some id ∨
        (s.ids[index]? = none ∧ id ∉ s.ids))
    (other : Nat) :
    other ∈ (s.splice index).ids ↔
      other ∈ s.ids ∧ other ≠ id := by
  rw [ids_splice]
  rcases hPlaced with hThere | ⟨hNone, hGone⟩
  · exact mem_eraseIdx_of_nodup hTidy.nodup hThere
  · rw [List.eraseIdx_of_length_le
      (List.getElem?_eq_none_iff.mp hNone)]
    constructor
    · intro hOther
      refine ⟨hOther, ?_⟩
      rintro rfl
      exact hGone hOther
    · exact And.left

theorem Tidy.remove
    {s : Outbox}
    {index id : Nat}
    (hTidy : Tidy s)
    (hPlaced :
      s.ids[index]? = some id ∨
        (s.ids[index]? = none ∧ id ∉ s.ids)) :
    Tidy ((s.deleteRow id).splice index) := by
  have hIds := hTidy.mem_ids_splice hPlaced
  have hRows := fun other => mem_rowIds_deleteRow id other s
  have hSublist :
      ((s.splice index).ids).Sublist s.ids := by
    rw [ids_splice]
    exact List.eraseIdx_sublist _ _
  constructor
  · exact List.Nodup.sublist hSublist hTidy.nodup
  · refine List.Nodup.sublist ?_ hTidy.rowsNodup
    exact List.Sublist.map _ List.filter_sublist
  · intro other
    exact (hIds other).trans
      ((and_congr_left' (hTidy.rows other)).trans
        (hRows other).symm)
  · intro other hOther
    exact hTidy.below other (hSublist.subset hOther)
  · intro other hOther
    exact hTidy.undelivered other (hSublist.subset hOther)
  · exact hTidy.deliveredBelow

theorem Tidy.deliver
    {s : Outbox}
    {call : FlushCall}
    (hTidy : Tidy s)
    (hGone : call.item.id ∉ s.ids)
    (hBelow : call.item.id < s.enqueued) :
    Tidy (s.deliver call) := by
  refine ⟨hTidy.nodup, hTidy.rowsNodup, hTidy.rows,
    hTidy.below, ?_, ?_⟩
  · intro id hId hDelivered
    rcases List.mem_append.mp hDelivered with hOld | hNew
    · exact hTidy.undelivered id hId hOld
    · rw [List.mem_singleton.mp hNew] at hId
      exact hGone hId
  · intro id hDelivered
    rcases List.mem_append.mp hDelivered with hOld | hNew
    · exact hTidy.deliveredBelow id hOld
    · rw [List.mem_singleton.mp hNew]
      exact hBelow

/- The item that is evicted stands at its index. -/
theorem evicted_placed
    {s : Outbox}
    {item : OutboxItem}
    (hEvicted : s.evicted = some item) :
    s.ids[s.evictionIndex]? = some item.id := by
  unfold evicted at hEvicted
  split at hEvicted
  · exact getElem?_ids hEvicted
  · cases hEvicted

theorem Tidy.evict
    {s : Outbox}
    (hTidy : Tidy s) :
    Tidy s.evict := by
  unfold Outbox.evict
  cases hEvicted : s.evicted with
  | none => exact hTidy
  | some item =>
      exact hTidy.remove (Or.inl (evicted_placed hEvicted))

theorem ids_push
    (intent : Intent)
    (now : Nat)
    (s : Outbox) :
    (s.push intent now).ids = s.ids ++ [s.enqueued] := by
  unfold push ids
  rw [List.map_append]
  rfl

theorem rowIds_push
    (intent : Intent)
    (now : Nat)
    (s : Outbox) :
    (s.push intent now).rowIds = s.rowIds ++ [s.enqueued] := by
  unfold push rowIds
  rw [List.map_append]
  rfl

theorem Tidy.push
    {s : Outbox}
    (hTidy : Tidy s)
    (intent : Intent)
    (now : Nat) :
    Tidy (s.push intent now) := by
  have hFresh : s.enqueued ∉ s.ids := by
    intro hMember
    exact Nat.lt_irrefl _ (hTidy.below _ hMember)
  constructor
  · rw [ids_push, ← List.concat_eq_append]
    exact hTidy.nodup.concat hFresh
  · rw [rowIds_push, ← List.concat_eq_append]
    refine hTidy.rowsNodup.concat ?_
    rwa [← hTidy.rows]
  · intro id
    rw [ids_push, rowIds_push, List.mem_append,
      List.mem_append, hTidy.rows]
  · intro id hId
    change id < s.enqueued + 1
    rw [ids_push, List.mem_append, List.mem_singleton] at hId
    rcases hId with hOld | rfl
    · exact Nat.lt_succ_of_lt (hTidy.below id hOld)
    · exact Nat.lt_succ_self _
  · intro id hId hDelivered
    rw [ids_push, List.mem_append, List.mem_singleton] at hId
    rcases hId with hOld | rfl
    · exact hTidy.undelivered id hOld hDelivered
    · exact Nat.lt_irrefl _
        (hTidy.deliveredBelow _ hDelivered)
  · intro id hDelivered
    exact Nat.lt_succ_of_lt
      (hTidy.deliveredBelow id hDelivered)

theorem Tidy.logoutOperator
    {s : Outbox}
    (hTidy : Tidy s) :
    Tidy s.logoutOperator where
  nodup := List.nodup_nil
  rowsNodup := List.nodup_nil
  rows := fun _ => Iff.rfl
  below := by
    intro id hId
    cases hId
  undelivered := by
    intro id hId
    cases hId
  deliveredBelow := hTidy.deliveredBelow

/- The pending rows, in another order. -/
theorem hydrateOutbox_perm (rows : List OutboxRow) :
    ((hydrateOutbox rows).map OutboxItem.id).Perm
      (rows.map (fun row => row.item.id)) := by
  unfold hydrateOutbox
  rw [List.map_map]
  exact (List.perm_insertionSort _ rows).map _

theorem Tidy.restart
    {s : Outbox}
    (hTidy : Tidy s) :
    Tidy s.restart := by
  have hPerm : s.restart.ids.Perm s.rowIds :=
    hydrateOutbox_perm s.rows
  have hMem : ∀ id, id ∈ s.restart.ids ↔ id ∈ s.ids := by
    intro id
    rw [hPerm.mem_iff, hTidy.rows]
  constructor
  · exact hPerm.nodup_iff.mpr hTidy.rowsNodup
  · exact hTidy.rowsNodup
  · exact fun id => hPerm.mem_iff
  · intro id hId
    exact hTidy.below id ((hMem id).mp hId)
  · intro id hId
    exact hTidy.undelivered id ((hMem id).mp hId)
  · exact hTidy.deliveredBelow

------------------------------------------------------------
-- What A Step Does
------------------------------------------------------------

/- The outbox after a flush has finished its item. -/
def finish
    (call : FlushCall)
    (outcome : Outcome)
    (s : Outbox) : Outbox :=
  if outcome = .delivered then (s.settle call).deliver call
  else s.settle call

/- What an event does to the items and to the flushes. -/
inductive Effect
    (s : Outbox)
    (event : Event)
    (next : Outbox) : Prop
| kept
    (hAnswered :
      ∀ call answer,
        s.answered event = some (call, answer) →
          (s.outcome call answer).settles = false ∧
            (s.outcome call answer).sends = false)
    (hStore : SameStore s next)
    (hScanned : Scanned (s.remaining event) next)
| waits
    (call : FlushCall)
    (answer : Answer)
    (stage : SyncStage)
    (hAnswered : s.answered event = some (call, answer))
    (hOutcome : s.outcome call answer = .waits stage)
    (hStore : SameStore s next)
    (hFlushes :
      next.flushes =
        s.remaining event ++ [{ call with stage := stage }])
| finished
    (call : FlushCall)
    (answer : Answer)
    (hAnswered : s.answered event = some (call, answer))
    (hSettles : (s.outcome call answer).settles = true)
    (hStore :
      SameStore (s.finish call (s.outcome call answer)) next)
    (hScanned : Scanned (s.remaining event) next)
| enqueued
    (intent : Intent)
    (now : Nat)
    (hAnswered : s.answered event = none)
    (hStore : SameStore (s.enqueueOutbox intent now) next)
    (hFlushes : next.flushes = s.remaining event)
| logout
    (hEvent : event = .logout)
    (hStore : SameStore s.logoutOperator next)
    (hFlushes : next.flushes = s.remaining event)
| restart
    (hEvent : event = .restart)
    (hStore : SameStore s.restart next)
    (hFlushes : next.flushes = [])

theorem SameStore.refl (s : Outbox) : SameStore s s :=
  ⟨rfl, rfl, rfl, rfl⟩

theorem SameStore.trans
    {s mid next : Outbox}
    (hFirst : SameStore s mid)
    (hSecond : SameStore mid next) :
    SameStore s next :=
  ⟨hSecond.ids.trans hFirst.ids,
    hSecond.rowIds.trans hFirst.rowIds,
    hSecond.enqueued.trans hFirst.enqueued,
    hSecond.delivered.trans hFirst.delivered⟩

theorem continueFlush_effect
    {s : Outbox}
    {index : Nat}
    {call : FlushCall}
    (hCall : s.flushes[index]? = some call)
    (answer : Answer)
    (now : Nat) :
    Effect s (.answerFlush index answer now)
      ((s.dropFlush index).continueFlush call answer now) := by
  have hAnswered :
      s.answered (.answerFlush index answer now) =
        some (call, answer) := by
    unfold answered
    dsimp only
    rw [hCall, Option.map_some]
  have hSame :
      (s.dropFlush index).outcome call answer =
        s.outcome call answer := rfl
  have hDropped : SameStore s (s.dropFlush index) :=
    ⟨rfl, rfl, rfl, rfl⟩
  have hKept :
      s.outcome call answer = .retried ∨
        s.outcome call answer = .stopped →
      ∀ other given,
        s.answered (.answerFlush index answer now) =
          some (other, given) →
            (s.outcome other given).settles = false ∧
              (s.outcome other given).sends = false := by
    intro hOutcome other given hOther
    rw [hAnswered] at hOther
    cases hOther
    rcases hOutcome with hEnd | hEnd
    · rw [hEnd]
      exact ⟨rfl, rfl⟩
    · rw [hEnd]
      exact ⟨rfl, rfl⟩
  have hFinished :
      (s.outcome call answer).settles = true →
      ∀ base : Outbox,
        SameStore (s.finish call (s.outcome call answer)) base →
          base.flushes = s.flushes.eraseIdx index →
            Effect s (.answerFlush index answer now)
              (base.scan call.now call.index) := by
    intro hSettles base hStore hFlushes
    have hScan := scan_scanned call.now call.index base
    rw [hFlushes] at hScan
    exact .finished call answer hAnswered hSettles
      (hStore.trans (scan_sameStore _ _ base)) hScan
  unfold continueFlush
  rw [hSame]
  cases hOutcome : s.outcome call answer with
  | waits stage =>
      exact .waits call answer stage hAnswered hOutcome
        ⟨rfl, rfl, rfl, rfl⟩ rfl
  | delivered =>
      rw [hOutcome] at hFinished
      exact hFinished rfl _ ⟨rfl, rfl, rfl, rfl⟩ rfl
  | fulfilled =>
      rw [hOutcome] at hFinished
      exact hFinished rfl _ ⟨rfl, rfl, rfl, rfl⟩ rfl
  | dropped =>
      rw [hOutcome] at hFinished
      exact hFinished rfl _ ⟨rfl, rfl, rfl, rfl⟩ rfl
  | retried =>
      have hScan :=
        scan_scanned call.now (call.index + 1)
          ((s.dropFlush index).retry call now)
      exact .kept (hKept (Or.inl hOutcome))
        ((hDropped.trans (retry_sameStore call now _)).trans
          (scan_sameStore _ _ _)) hScan
  | stopped =>
      exact .kept (hKept (Or.inr hOutcome)) hDropped
        (Or.inl rfl)

/- What is evicted depends on the items in memory. -/
theorem evicted_congr
    {s other : Outbox}
    (hOutbox : other.outbox = s.outbox) :
    other.evictionIndex = s.evictionIndex ∧
      other.evicted = s.evicted := by
  have hIndex : other.evictionIndex = s.evictionIndex := by
    unfold evictionIndex
    rw [hOutbox]
  refine ⟨hIndex, ?_⟩
  unfold evicted
  rw [hOutbox, hIndex]

/- The rest of the state has no part in an enqueueing. -/
theorem enqueueOutbox_sameStore
    {s other : Outbox}
    (hOutbox : other.outbox = s.outbox)
    (hRows : other.rows = s.rows)
    (hEnqueued : other.enqueued = s.enqueued)
    (hDelivered : other.delivered = s.delivered)
    (intent : Intent)
    (now : Nat) :
    SameStore (s.enqueueOutbox intent now)
      (other.enqueueOutbox intent now) := by
  rcases evicted_congr hOutbox with ⟨hIndex, hEvicted⟩
  unfold enqueueOutbox evict
  rw [hEvicted, hIndex]
  cases s.evicted with
  | none =>
      constructor
      · rw [ids_push, ids_push, ids, ids, hOutbox, hEnqueued]
      · rw [rowIds_push, rowIds_push, rowIds, rowIds, hRows,
          hEnqueued]
      · exact congrArg Nat.succ hEnqueued
      · exact hDelivered
  | some item =>
      have hIds :
          ((other.splice s.evictionIndex).deleteRow
            item.id).ids =
          ((s.splice s.evictionIndex).deleteRow
            item.id).ids := by
        unfold ids deleteRow splice
        rw [hOutbox]
      have hRowIds :
          ((other.splice s.evictionIndex).deleteRow
            item.id).rowIds =
          ((s.splice s.evictionIndex).deleteRow
            item.id).rowIds := by
        unfold rowIds deleteRow splice
        rw [hRows]
      constructor
      · rw [ids_push, ids_push, hIds]
        exact congrArg (fun id => _ ++ [id]) hEnqueued
      · rw [rowIds_push, rowIds_push, hRowIds]
        exact congrArg (fun id => _ ++ [id]) hEnqueued
      · exact congrArg Nat.succ hEnqueued
      · exact hDelivered

theorem flushes_enqueueOutbox
    (intent : Intent)
    (now : Nat)
    (s : Outbox) :
    (s.enqueueOutbox intent now).flushes = s.flushes := by
  unfold enqueueOutbox evict
  split <;> rfl

theorem continueDirect_effect
    {s : Outbox}
    {index : Nat}
    (call : DirectCall)
    (answer : Answer)
    (now : Nat)
    {event : Event}
    (hAnswered : s.answered event = none)
    (hRemaining : s.remaining event = s.flushes) :
    Effect s event
      ((s.dropDirect index).continueDirect call answer now) := by
  have hQuiet :
      ∀ next : Outbox, SameStore s next →
        next.flushes = s.flushes → Effect s event next := by
    intro next hStore hFlushes
    refine .kept ?_ hStore (Or.inl ?_)
    · intro other given hSome
      rw [hAnswered] at hSome
      cases hSome
    · rw [hRemaining]
      exact hFlushes
  have hRejected :
      ∀ err,
        Effect s event
          ((s.dropDirect index).rejectDirect call.intent err
            now) := by
    intro err
    unfold rejectDirect
    split
    · exact hQuiet _ ⟨rfl, rfl, rfl, rfl⟩ rfl
    · split
      · exact hQuiet _ ⟨rfl, rfl, rfl, rfl⟩ rfl
      · refine .enqueued call.intent now hAnswered ?_ ?_
        · apply enqueueOutbox_sameStore <;> rfl
        · rw [flushes_enqueueOutbox, hRemaining]
          rfl
  unfold continueDirect
  split
  · exact hQuiet _ ⟨rfl, rfl, rfl, rfl⟩ rfl
  · exact hQuiet _ ⟨rfl, rfl, rfl, rfl⟩ rfl
  · exact hRejected _
  · exact hRejected _

theorem step_effect
    (s : Outbox)
    (event : Event) :
    Effect s event (s.step event) := by
  have hQuiet :
      s.answered event = none →
        ∀ call answer,
          s.answered event = some (call, answer) →
            (s.outcome call answer).settles = false ∧
              (s.outcome call answer).sends = false := by
    intro hNone call answer hSome
    rw [hNone] at hSome
    cases hSome
  cases event with
  | connect isConnected =>
      exact .kept (hQuiet rfl) ⟨rfl, rfl, rfl, rfl⟩
        (Or.inl rfl)
  | submit mutation now =>
      unfold step syncMutation
      dsimp only
      split
      · exact .kept (hQuiet rfl) ⟨rfl, rfl, rfl, rfl⟩
          (Or.inl rfl)
      · refine .enqueued ⟨s.submitted, mutation⟩ now rfl ?_
          (flushes_enqueueOutbox _ _ _)
        apply enqueueOutbox_sameStore <;> rfl
  | enqueue mutation now =>
      unfold step
      dsimp only
      refine .enqueued ⟨s.submitted, mutation⟩ now rfl ?_
        (flushes_enqueueOutbox _ _ _)
      apply enqueueOutbox_sameStore <;> rfl
  | flush now =>
      unfold step flushOutbox
      dsimp only
      split
      · exact .kept (hQuiet rfl) (scan_sameStore _ _ _)
          (scan_scanned _ _ _)
      · exact .kept (hQuiet rfl) (SameStore.refl s)
          (Or.inl rfl)
  | answerFlush index answer now =>
      unfold step
      dsimp only
      cases hCall : s.flushes[index]? with
      | none =>
          have hNone :
              s.answered (.answerFlush index answer now) =
                none := by
            unfold answered
            dsimp only
            rw [hCall, Option.map_none]
          refine .kept (hQuiet hNone) (SameStore.refl s)
            (Or.inl ?_)
          exact (List.eraseIdx_of_length_le
            (List.getElem?_eq_none_iff.mp hCall)).symm
      | some call => exact continueFlush_effect hCall answer now
  | answerDirect index answer now =>
      unfold step
      dsimp only
      split
      · exact continueDirect_effect _ _ _ rfl rfl
      · exact .kept (hQuiet rfl) (SameStore.refl s)
          (Or.inl rfl)
  | logout => exact .logout rfl (SameStore.refl _) rfl
  | restart => exact .restart rfl (SameStore.refl _) rfl

------------------------------------------------------------
-- The Invariant Along A Run
------------------------------------------------------------

theorem mem_flushes_of_answered
    {s : Outbox}
    {event : Event}
    {call : FlushCall}
    {answer : Answer}
    (hAnswered : s.answered event = some (call, answer)) :
    call ∈ s.flushes := by
  cases event with
  | answerFlush index given now =>
      rcases Option.map_eq_some_iff.mp hAnswered with
        ⟨found, hFound, hPair⟩
      cases hPair
      exact List.mem_of_getElem? hFound
  | _ => cases hAnswered

theorem mem_flushes_of_remaining
    {s : Outbox}
    {event : Event}
    {call : FlushCall}
    (hRemaining : call ∈ s.remaining event) :
    call ∈ s.flushes := by
  cases event with
  | answerFlush index answer now =>
      exact List.mem_of_mem_eraseIdx hRemaining
  | _ => exact hRemaining

/- The parts of an outbox whose flush finished an item. -/
theorem finish_store
    (call : FlushCall)
    (outcome : Outcome)
    (s : Outbox) :
    (s.finish call outcome).ids = (s.splice call.index).ids ∧
      (s.finish call outcome).rowIds =
        (s.deleteRow call.item.id).rowIds ∧
      (s.finish call outcome).enqueued = s.enqueued ∧
      (s.finish call outcome).delivered =
        if outcome = .delivered then
          s.delivered ++ [call.item.id]
        else
          s.delivered := by
  unfold finish
  by_cases hDelivered : outcome = .delivered
  · rw [if_pos hDelivered, if_pos hDelivered]
    exact ⟨rfl, rfl, rfl, rfl⟩
  · rw [if_neg hDelivered, if_neg hDelivered]
    exact ⟨rfl, rfl, rfl, rfl⟩

theorem enqueued_enqueueOutbox
    (intent : Intent)
    (now : Nat)
    (s : Outbox) :
    (s.enqueueOutbox intent now).enqueued = s.enqueued + 1 ∧
      (s.enqueueOutbox intent now).delivered =
        s.delivered := by
  unfold enqueueOutbox evict
  split
  · exact ⟨rfl, rfl⟩
  · exact ⟨rfl, rfl⟩

theorem Tidy.finish
    {s : Outbox}
    {call : FlushCall}
    {outcome : Outcome}
    (hTidy : Tidy s)
    (hPlaced : s.Placed call)
    (hBelow : call.item.id < s.enqueued) :
    Tidy (s.finish call outcome) := by
  have hSettled : Tidy (s.settle call) :=
    hTidy.remove hPlaced
  unfold Outbox.finish
  split
  · apply hSettled.deliver
    · intro hMember
      exact ((hTidy.mem_ids_splice hPlaced _).mp hMember).2 rfl
    · exact hBelow
  · exact hSettled

theorem enqueued_le_step
    (s : Outbox)
    (event : Event) :
    s.enqueued ≤ (s.step event).enqueued := by
  cases step_effect s event with
  | kept _ hStore _ => exact Nat.le_of_eq hStore.enqueued.symm
  | waits _ _ _ _ _ hStore _ =>
      exact Nat.le_of_eq hStore.enqueued.symm
  | finished call answer _ _ hStore _ =>
      rw [hStore.enqueued, (finish_store _ _ _).2.2.1]
  | enqueued intent now _ hStore _ =>
      rw [hStore.enqueued, (enqueued_enqueueOutbox _ _ _).1]
      exact Nat.le_succ _
  | logout _ hStore _ => exact Nat.le_of_eq hStore.enqueued.symm
  | restart _ hStore _ => exact Nat.le_of_eq hStore.enqueued.symm

theorem tidy_step
    {s : Outbox}
    {event : Event}
    (hTidy : Tidy s)
    (hCalled : Called s)
    (hPlace : s.InPlace event) :
    Tidy (s.step event) := by
  cases step_effect s event with
  | kept _ hStore _ => exact hTidy.of_sameStore hStore
  | waits _ _ _ _ _ hStore _ =>
      exact hTidy.of_sameStore hStore
  | finished call answer hAnswered hSettles hStore _ =>
      have hPlaced :=
        (hPlace call answer hAnswered).1 hSettles
      have hBelow :=
        hCalled call (mem_flushes_of_answered hAnswered)
      exact (hTidy.finish hPlaced hBelow).of_sameStore hStore
  | enqueued intent now _ hStore _ =>
      exact (hTidy.evict.push intent now).of_sameStore hStore
  | logout _ hStore _ =>
      exact hTidy.logoutOperator.of_sameStore hStore
  | restart _ hStore _ =>
      exact hTidy.restart.of_sameStore hStore

/- An added call is for an item that has been enqueued. -/
theorem Called.append
    {flushes : List FlushCall}
    {next : Outbox}
    {call : FlushCall}
    (hOld :
      ∀ other ∈ flushes, other.item.id < next.enqueued)
    (hFlushes : next.flushes = flushes ++ [call])
    (hBelow : call.item.id < next.enqueued) :
    Called next := by
  intro other hOther
  rw [hFlushes] at hOther
  rcases List.mem_append.mp hOther with hLeft | hRight
  · exact hOld other hLeft
  · rw [List.mem_singleton.mp hRight]
    exact hBelow

theorem called_step
    {s : Outbox}
    {event : Event}
    (hCalled : Called s)
    (hNext : Tidy (s.step event)) :
    Called (s.step event) := by
  have hLe := enqueued_le_step s event
  have hOld :
      ∀ call ∈ s.remaining event,
        call.item.id < (s.step event).enqueued := by
    intro call hCall
    exact Nat.lt_of_lt_of_le
      (hCalled call (mem_flushes_of_remaining hCall)) hLe
  have hScan :
      Scanned (s.remaining event) (s.step event) →
        Called (s.step event) := by
    rintro (hSame | ⟨call, hFlushes, _, hThere⟩)
    · intro call hCall
      rw [hSame] at hCall
      exact hOld call hCall
    · exact Called.append hOld hFlushes
        (hNext.below _ (List.mem_of_getElem? hThere))
  cases step_effect s event with
  | kept _ _ hScanned => exact hScan hScanned
  | waits call answer stage hAnswered _ _ hFlushes =>
      refine Called.append hOld hFlushes ?_
      exact Nat.lt_of_lt_of_le
        (hCalled call (mem_flushes_of_answered hAnswered)) hLe
  | finished _ _ _ _ _ hScanned => exact hScan hScanned
  | enqueued _ _ _ _ hFlushes => exact hScan (Or.inl hFlushes)
  | logout _ _ hFlushes => exact hScan (Or.inl hFlushes)
  | restart _ _ hFlushes =>
      intro call hCall
      rw [hFlushes] at hCall
      cases hCall

------------------------------------------------------------
-- Soundness
------------------------------------------------------------

theorem not_begins_of_flushes
    {s : Outbox}
    {event : Event}
    {id : Nat}
    (hFlushes :
      (s.step event).flushes.length ≤
        (s.remaining event).length) :
    ¬ s.Begins event id := by
  rintro ⟨call, hBegun, _, _⟩
  rw [hBegun, List.length_append,
    List.length_singleton] at hFlushes
  omega

/- A scan takes up an item that is in memory. -/
theorem Scanned.mem_ids
    {s : Outbox}
    {event : Event}
    {id : Nat}
    (hScanned : Scanned (s.remaining event) (s.step event))
    (hBegins : s.Begins event id) :
    id ∈ (s.step event).ids := by
  rcases hScanned with hSame | ⟨call, hFlushes, _, hThere⟩
  · exact absurd hBegins
      (not_begins_of_flushes
        (Nat.le_of_eq (congrArg List.length hSame)))
  · rcases hBegins with ⟨begun, hBegun, _, rfl⟩
    rw [hFlushes, List.append_cancel_left_eq,
      List.cons.injEq] at hBegun
    rw [← hBegun.1]
    exact List.mem_of_getElem? hThere

/- No mutation goes back to its first dispatch. -/
theorem outcome_ne_dispatch
    (s : Outbox)
    (call : FlushCall)
    (answer : Answer) :
    s.outcome call answer ≠ .waits .dispatch := by
  unfold outcome move
  intro hOutcome
  grind

theorem not_delivers_of_delivered
    {s : Outbox}
    {event : Event}
    {id : Nat}
    (hSame : (s.step event).delivered = s.delivered) :
    ¬ s.Delivers event id := by
  intro hDelivers
  have hLength := congrArg List.length hDelivers
  rw [hSame, List.length_append,
    List.length_singleton] at hLength
  omega

/- A dispatch that waits for its second answer sends again. -/
theorem sends_of_begins
    {s : Outbox}
    {event : Event}
    {call : FlushCall}
    {answer : Answer}
    {stage : SyncStage}
    {id : Nat}
    (hOutcome : s.outcome call answer = .waits stage)
    (hFlushes :
      (s.step event).flushes =
        s.remaining event ++ [{ call with stage := stage }])
    (hBegins : s.Begins event id) :
    (s.outcome call answer).sends = true ∧
      call.item.id = id := by
  rcases hBegins with ⟨begun, hBegun, hStage, rfl⟩
  rw [hFlushes, List.append_cancel_left_eq,
    List.cons.injEq] at hBegun
  rw [← hBegun.1] at hStage ⊢
  refine ⟨?_, rfl⟩
  rcases hStage with hFirst | ⟨err, hSecond⟩
  · dsimp only at hFirst
    rw [hFirst] at hOutcome
    exact absurd hOutcome (outcome_ne_dispatch s call answer)
  · dsimp only at hSecond
    rw [hOutcome, hSecond]
    rfl

/- What a flush delivers is its item. -/
theorem sends_of_delivers
    {s : Outbox}
    {event : Event}
    {call : FlushCall}
    {outcome : Outcome}
    {id : Nat}
    (hStore :
      SameStore (s.finish call outcome) (s.step event))
    (hDelivers : s.Delivers event id) :
    outcome.sends = true ∧ call.item.id = id := by
  unfold Delivers at hDelivers
  rw [hStore.delivered,
    (finish_store call outcome s).2.2.2] at hDelivers
  split at hDelivers
  · rename_i hDelivered
    rw [List.append_cancel_left_eq,
      List.cons.injEq] at hDelivers
    rw [hDelivered]
    exact ⟨rfl, hDelivers.1⟩
  · simp at hDelivers

/- An item that is sent and leaves is delivered. -/
theorem eq_delivered_of_settles
    {outcome : Outcome}
    (hSettles : outcome.settles = true)
    (hSends : outcome.sends = true) :
    outcome = .delivered := by
  cases outcome with
  | delivered => rfl
  | waits stage => cases hSettles
  | fulfilled => cases hSends
  | dropped => cases hSends
  | retried => cases hSends
  | stopped => cases hSends

/- Only the first item of a full outbox makes room. -/
theorem Tidy.evicted_of_gone
    {s : Outbox}
    (hTidy : Tidy s)
    {intent : Intent}
    {now id : Nat}
    (hId : id ∈ s.ids)
    (hGone : id ∉ (s.enqueueOutbox intent now).ids) :
    s.evicted.map OutboxItem.id = some id := by
  unfold enqueueOutbox Outbox.evict at hGone
  rw [ids_push, List.mem_append, not_or] at hGone
  cases hEvicted : s.evicted with
  | none =>
      rw [hEvicted] at hGone
      exact absurd hId hGone.1
  | some item =>
      rw [hEvicted] at hGone
      have hThere := evicted_placed hEvicted
      have hMember :=
        hTidy.mem_ids_splice (Or.inl hThere) id
      by_contra hOther
      apply hGone.1
      apply hMember.mpr
      refine ⟨hId, ?_⟩
      rintro rfl
      exact hOther rfl

/- A step that finishes items in their place is sound. -/
theorem Tidy.sound
    {s : Outbox}
    {event : Event}
    (hTidy : Tidy s)
    (hPlace : s.InPlace event)
    (hNext : Tidy (s.step event)) :
    s.Sound event := by
  have hScan :
      Scanned (s.remaining event) (s.step event) →
        ∀ id, s.Begins event id →
          id ∉ (s.step event).delivered :=
    fun hScanned id hBegins =>
      hNext.undelivered id (hScanned.mem_ids hBegins)
  have hNone :
      (s.step event).flushes.length ≤
          (s.remaining event).length →
        ∀ id, s.Begins event id →
          id ∉ (s.step event).delivered :=
    fun hFlushes _ hBegins =>
      absurd hBegins (not_begins_of_flushes hFlushes)
  cases step_effect s event with
  | kept _ hStore hScanned =>
      refine ⟨?_, hScan hScanned, ?_, hNext.rows⟩
      · intro id hId hGone
        rw [hStore.ids] at hGone
        exact absurd hId hGone
      · intro id hDelivers
        exact absurd hDelivers
          (not_delivers_of_delivered hStore.delivered)
  | waits call answer stage hAnswered hOutcome hStore
      hFlushes =>
      refine ⟨?_, ?_, ?_, hNext.rows⟩
      · intro id hId hGone
        rw [hStore.ids] at hGone
        exact absurd hId hGone
      · intro id hBegins
        rcases sends_of_begins hOutcome hFlushes hBegins with
          ⟨hSends, rfl⟩
        rw [hStore.delivered]
        exact (hPlace call answer hAnswered).2 hSends
      · intro id hDelivers
        exact absurd hDelivers
          (not_delivers_of_delivered hStore.delivered)
  | finished call answer hAnswered hSettles hStore hScanned =>
      have hFinish :=
        finish_store call (s.outcome call answer) s
      have hPlaced := (hPlace call answer hAnswered).1 hSettles
      refine ⟨?_, hScan hScanned, ?_, hNext.rows⟩
      · intro id hId hGone
        rw [hStore.ids, hFinish.1,
          hTidy.mem_ids_splice hPlaced] at hGone
        refine Or.inr (Or.inl
          ⟨call, answer, hAnswered, hSettles, ?_⟩)
        by_contra hOther
        exact hGone ⟨hId, Ne.symm hOther⟩
      · intro id hDelivers
        rcases sends_of_delivers hStore hDelivers with
          ⟨hSends, rfl⟩
        exact (hPlace call answer hAnswered).2 hSends
  | enqueued intent now hAnswered hStore hFlushes =>
      have hLog := enqueued_enqueueOutbox intent now s
      refine ⟨?_,
        hNone (Nat.le_of_eq (congrArg List.length hFlushes)),
        ?_, hNext.rows⟩
      · intro id hId hGone
        refine Or.inr (Or.inr ⟨?_, ?_⟩)
        · rw [hStore.enqueued, hLog.1]
          exact Nat.lt_succ_self _
        · rw [hStore.ids] at hGone
          exact hTidy.evicted_of_gone hId hGone
      · intro id hDelivers
        exact absurd hDelivers (not_delivers_of_delivered
          (hStore.delivered.trans hLog.2))
  | logout hEvent hStore hFlushes =>
      refine ⟨fun _ _ _ => Or.inl hEvent,
        hNone (Nat.le_of_eq (congrArg List.length hFlushes)),
        ?_, hNext.rows⟩
      intro id hDelivers
      exact absurd hDelivers
        (not_delivers_of_delivered hStore.delivered)
  | restart hEvent hStore hFlushes =>
      refine ⟨?_, hNone ?_, ?_, hNext.rows⟩
      · intro id hId hGone
        rw [hStore.ids] at hGone
        have hPerm := hydrateOutbox_perm s.rows
        rw [hTidy.rows] at hId
        exact absurd (hPerm.mem_iff.mpr hId) hGone
      · rw [hFlushes]
        exact Nat.zero_le _
      · intro id hDelivers
        exact absurd hDelivers
          (not_delivers_of_delivered hStore.delivered)

/- An item leaves a sound step from its place. -/
theorem Tidy.placed_of_sound
    {s : Outbox}
    {event : Event}
    {call : FlushCall}
    {answer : Answer}
    {outcome : Outcome}
    (hTidy : Tidy s)
    (hSound : s.Sound event)
    (hAnswered : s.answered event = some (call, answer))
    (hStore :
      SameStore (s.finish call outcome) (s.step event)) :
    s.Placed call := by
  rcases finish_store call outcome s with
    ⟨hIds, hRows, hEnqueued, _⟩
  cases hThere : s.ids[call.index]? with
  | none =>
      refine Or.inr ⟨hThere, ?_⟩
      intro hId
      have hSame : (s.step event).ids = s.ids := by
        rw [hStore.ids, hIds, ids_splice,
          List.eraseIdx_of_length_le
            (List.getElem?_eq_none_iff.mp hThere)]
      rw [← hSame, hSound.rows, hStore.rowIds, hRows,
        mem_rowIds_deleteRow] at hId
      exact hId.2 rfl
  | some id =>
      left
      rw [hThere]
      have hGone : id ∉ (s.step event).ids := by
        rw [hStore.ids, hIds, ids_splice,
          mem_eraseIdx_of_nodup hTidy.nodup hThere]
        exact fun hKept => hKept.2 rfl
      rcases hSound.leaves id
          (List.mem_of_getElem? hThere) hGone with
        rfl | ⟨own, reply, hOwn, _, rfl⟩ | ⟨hMore, _⟩
      · cases hAnswered
      · rw [hAnswered] at hOwn
        cases hOwn
        rfl
      · rw [hStore.enqueued, hEnqueued] at hMore
        exact absurd hMore (Nat.lt_irrefl _)

/- A sound step finishes items in their place. -/
theorem Tidy.inPlace
    {s : Outbox}
    {event : Event}
    (hTidy : Tidy s)
    (hSound : s.Sound event) :
    s.InPlace event := by
  intro call answer hAnswered
  cases step_effect s event with
  | kept hQuiet _ _ =>
      rw [(hQuiet call answer hAnswered).1,
        (hQuiet call answer hAnswered).2]
      exact ⟨fun hFalse => absurd hFalse Bool.false_ne_true,
        fun hFalse => absurd hFalse Bool.false_ne_true⟩
  | waits other given stage hOther hOutcome hStore hFlushes =>
      rw [hAnswered] at hOther
      cases hOther
      rw [hOutcome]
      refine
        ⟨fun hFalse => absurd hFalse Bool.false_ne_true, ?_⟩
      intro hSends
      have hStage : ∃ err, stage = .redispatch err := by
        cases stage with
        | redispatch err => exact ⟨err, rfl⟩
        | _ => cases hSends
      rw [← hStore.delivered]
      exact hSound.dispatches _
        ⟨_, hFlushes, Or.inr hStage, rfl⟩
  | finished other given hOther hSettles hStore _ =>
      rw [hAnswered] at hOther
      cases hOther
      refine ⟨fun _ =>
        hTidy.placed_of_sound hSound hAnswered hStore, ?_⟩
      intro hSends
      apply hSound.delivers
      unfold Delivers
      rw [hStore.delivered, (finish_store call _ s).2.2.2,
        if_pos (eq_delivered_of_settles hSettles hSends)]
  | enqueued _ _ hNone _ _ =>
      rw [hNone] at hAnswered
      cases hAnswered
  | logout hEvent _ _ =>
      rw [hEvent] at hAnswered
      cases hAnswered
  | restart hEvent _ _ =>
      rw [hEvent] at hAnswered
      cases hAnswered

theorem sound_iff_inPlace
    {s : Outbox}
    {event : Event}
    (hTidy : Tidy s)
    (hCalled : Called s) :
    s.Sound event ↔ s.InPlace event := by
  constructor
  · exact hTidy.inPlace
  · intro hPlace
    exact hTidy.sound hPlace (tidy_step hTidy hCalled hPlace)

------------------------------------------------------------
-- One Flush At A Time
------------------------------------------------------------

/-
  A flush begins when none waits. While one waits, nothing is
  evicted and nobody logs out.
-/
def Alone
    (s : Outbox)
    (event : Event) : Prop :=
  match event with
  | .flush _ => s.flushes = []
  | .logout => s.flushes = []
  | .submit _ _ => s.flushes = [] ∨ s.evicted = none
  | .enqueue _ _ => s.flushes = [] ∨ s.evicted = none
  | .answerDirect _ _ _ => s.flushes = [] ∨ s.evicted = none
  | _ => True

/- The only flush that waits holds its item in its place. -/
structure Seated (s : Outbox) : Prop where
  single : s.flushes.length ≤ 1
  placed :
    ∀ call ∈ s.flushes,
      s.ids[call.index]? = some call.item.id

theorem Seated.of_nil
    {s : Outbox}
    (hNone : s.flushes = []) :
    Seated s := by
  constructor
  · rw [hNone]
    exact Nat.zero_le _
  · intro call hCall
    rw [hNone] at hCall
    cases hCall

theorem Scanned.seated
    {next : Outbox}
    (hScanned : Scanned [] next) :
    Seated next := by
  rcases hScanned with hNone | ⟨call, hFlushes, _, hThere⟩
  · exact Seated.of_nil hNone
  · constructor
    · rw [hFlushes]
      exact Nat.le_refl _
    · intro other hOther
      rw [hFlushes, List.nil_append,
        List.mem_singleton] at hOther
      rw [hOther]
      exact hThere

/- A place is kept by items that are added at the end. -/
theorem Seated.of_prefix
    {s next : Outbox}
    {added : List Nat}
    (hSeated : Seated s)
    (hFlushes : next.flushes = s.flushes)
    (hIds : next.ids = s.ids ++ added) :
    Seated next := by
  constructor
  · rw [hFlushes]
    exact hSeated.single
  · intro call hCall
    rw [hFlushes] at hCall
    have hThere := hSeated.placed call hCall
    rw [hIds, List.getElem?_append_left]
    · exact hThere
    · exact (List.getElem?_eq_some_iff.mp hThere).1

theorem ids_enqueueOutbox
    {s : Outbox}
    (hRoom : s.evicted = none)
    (intent : Intent)
    (now : Nat) :
    (s.enqueueOutbox intent now).ids =
      s.ids ++ [s.enqueued] := by
  unfold enqueueOutbox evict
  rw [hRoom]
  exact ids_push intent now s

/- What no flush takes part in keeps the flush seated. -/
theorem Seated.aside
    {s : Outbox}
    {event : Event}
    (hSeated : Seated s)
    (hAnswered : s.answered event = none)
    (hRestart : event ≠ .restart)
    (hLogout : event ≠ .logout)
    (hFlushes : (s.step event).flushes = s.flushes)
    (hRoom : s.flushes = [] ∨ s.evicted = none) :
    Seated (s.step event) := by
  rcases hRoom with hNone | hRoom
  · exact Seated.of_nil (hFlushes.trans hNone)
  · cases step_effect s event with
    | kept _ hStore _ =>
        exact hSeated.of_prefix hFlushes
          (hStore.ids.trans (List.append_nil _).symm)
    | waits _ _ _ hOther _ _ _ =>
        rw [hAnswered] at hOther
        cases hOther
    | finished _ _ hOther _ _ _ =>
        rw [hAnswered] at hOther
        cases hOther
    | enqueued intent now _ hStore _ =>
        exact hSeated.of_prefix hFlushes
          (hStore.ids.trans (ids_enqueueOutbox hRoom _ _))
    | logout hEvent _ _ => exact absurd hEvent hLogout
    | restart hEvent _ _ => exact absurd hEvent hRestart

theorem Seated.answerFlush
    {s : Outbox}
    {index : Nat}
    {answer : Answer}
    {now : Nat}
    (hSeated : Seated s) :
    Seated (s.step (.answerFlush index answer now)) := by
  cases hCall : s.flushes[index]? with
  | none =>
      have hStep : s.step (.answerFlush index answer now) = s := by
        unfold step
        dsimp only
        rw [hCall]
      rw [hStep]
      exact hSeated
  | some call =>
      have hBound := (List.getElem?_eq_some_iff.mp hCall).1
      have hNone :
          s.remaining (.answerFlush index answer now) = [] := by
        have hSingle := hSeated.single
        apply List.eq_nil_of_length_eq_zero
        change (s.flushes.eraseIdx index).length = 0
        rw [List.length_eraseIdx_of_lt hBound]
        omega
      have hAnswered :
          s.answered (.answerFlush index answer now) =
            some (call, answer) := by
        unfold answered
        dsimp only
        rw [hCall, Option.map_some]
      have hEffect := step_effect s (.answerFlush index answer now)
      cases hEffect with
      | kept _ _ hScanned =>
          rw [hNone] at hScanned
          exact hScanned.seated
      | waits other given stage hOther _ hStore hFlushes =>
          rw [hAnswered] at hOther
          cases hOther
          rw [hNone] at hFlushes
          refine ⟨Nat.le_of_eq (congrArg List.length hFlushes),
            ?_⟩
          intro again hAgain
          rw [hFlushes, List.nil_append,
            List.mem_singleton] at hAgain
          rw [hAgain, hStore.ids]
          exact hSeated.placed call (List.mem_of_getElem? hCall)
      | finished _ _ _ _ _ hScanned =>
          rw [hNone] at hScanned
          exact hScanned.seated
      | enqueued _ _ hOther _ _ =>
          rw [hAnswered] at hOther
          cases hOther
      | logout hEvent _ _ => cases hEvent
      | restart hEvent _ _ => cases hEvent

theorem flushes_answerDirect
    (s : Outbox)
    (index : Nat)
    (answer : Answer)
    (now : Nat) :
    (s.step (.answerDirect index answer now)).flushes =
      s.flushes := by
  unfold step continueDirect rejectDirect
  dsimp only
  grind [flushes_enqueueOutbox, dropDirect, accept]

theorem flushes_submit
    (s : Outbox)
    (mutation : Mutation)
    (now : Nat) :
    (s.step (.submit mutation now)).flushes = s.flushes := by
  unfold step syncMutation
  dsimp only
  split
  · rfl
  · exact flushes_enqueueOutbox _ _ _

theorem seated_step
    {s : Outbox}
    {event : Event}
    (hSeated : Seated s)
    (hAlone : s.Alone event) :
    Seated (s.step event) := by
  cases event with
  | connect isConnected =>
      exact hSeated.of_prefix rfl (List.append_nil _).symm
  | submit mutation now =>
      exact hSeated.aside rfl (by simp) (by simp)
        (flushes_submit s mutation now) hAlone
  | enqueue mutation now =>
      exact hSeated.aside rfl (by simp) (by simp)
        (flushes_enqueueOutbox _ _ _) hAlone
  | flush now =>
      have hNone : s.flushes = [] := hAlone
      unfold step flushOutbox
      dsimp only
      split
      · have hScan := scan_scanned now 0 s
        rw [hNone] at hScan
        exact hScan.seated
      · exact hSeated
  | answerFlush index answer now => exact hSeated.answerFlush
  | answerDirect index answer now =>
      exact hSeated.aside rfl (by simp) (by simp)
        (flushes_answerDirect s index answer now) hAlone
  | logout => exact Seated.of_nil hAlone
  | restart => exact Seated.of_nil rfl

theorem Seated.inPlace
    {s : Outbox}
    {event : Event}
    (hSeated : Seated s)
    (hTidy : Tidy s) :
    s.InPlace event := by
  intro call answer hAnswered
  have hThere :=
    hSeated.placed call (mem_flushes_of_answered hAnswered)
  exact ⟨fun _ => Or.inl hThere, fun _ =>
    hTidy.undelivered _ (List.mem_of_getElem? hThere)⟩

------------------------------------------------------------
-- Runs
------------------------------------------------------------

theorem tidy_fresh (credentials : Bool) :
    Tidy (fresh credentials) where
  nodup := List.nodup_nil
  rowsNodup := List.nodup_nil
  rows := fun _ => Iff.rfl
  below := by
    intro id hId
    cases hId
  undelivered := by
    intro id hId
    cases hId
  deliveredBelow := by
    intro id hId
    cases hId

theorem called_fresh (credentials : Bool) :
    Called (fresh credentials) := by
  intro call hCall
  cases hCall

/-
  The outbox delivers soundly in exactly the runs in which
  every flush finishes its items in their place, as it does
  in those in which a flush is never disturbed.
-/
theorem delivery_sound_iff
    (credentials : Bool)
    (events : List Event) :
    (Along step Sound (fresh credentials) events ↔
      Along step InPlace (fresh credentials) events) ∧
    (Along step Alone (fresh credentials) events →
      Along step Sound (fresh credentials) events) := by
  have hStart :
      Tidy (fresh credentials) ∧ Called (fresh credentials) :=
    ⟨tidy_fresh credentials, called_fresh credentials⟩
  have hKeeps :
      ∀ s event, Tidy s ∧ Called s → s.InPlace event →
        Tidy (s.step event) ∧ Called (s.step event) := by
    rintro s event ⟨hTidy, hCalled⟩ hPlace
    have hNext := tidy_step hTidy hCalled hPlace
    exact ⟨hNext, called_step hCalled hNext⟩
  have hSoundKeeps :
      ∀ s event, Tidy s ∧ Called s → s.Sound event →
        Tidy (s.step event) ∧ Called (s.step event) :=
    fun s event hInv hSound =>
      hKeeps s event hInv (hInv.1.inPlace hSound)
  have hAloneKeeps :
      ∀ s event,
        (Tidy s ∧ Called s) ∧ Seated s → s.Alone event →
          (Tidy (s.step event) ∧ Called (s.step event)) ∧
            Seated (s.step event) :=
    fun s event hInv hAlone =>
      ⟨hKeeps s event hInv.1 (hInv.2.inPlace hInv.1.1),
        seated_step hInv.2 hAlone⟩
  refine ⟨⟨?_, ?_⟩, ?_⟩
  · refine Along.of_invariant hSoundKeeps ?_ hStart
    intro s event hInv hSound
    exact hInv.1.inPlace hSound
  · refine Along.of_invariant hKeeps ?_ hStart
    intro s event hInv hPlace
    exact (sound_iff_inPlace hInv.1 hInv.2).mpr hPlace
  · refine Along.of_invariant hAloneKeeps ?_
      ⟨hStart, Seated.of_nil rfl⟩
    intro s event hInv _
    exact (sound_iff_inPlace hInv.1.1 hInv.1.2).mpr
      (hInv.2.inPlace hInv.1.1)

/- Two mutations that a flush finds in the outbox. -/
def twoQueued : List Event :=
  [.enqueue { mutationType := .cancelSubscription } 0,
   .enqueue { mutationType := .resumeSubscription } 0,
   .connect true]

/-
  A second flush begins while the first one waits. Both have
  dispatched the first item, and the answers to both are
  success.
-/
def overlappingFlushes : List Event :=
  twoQueued ++
    [.flush 1, .flush 1, .answerFlush 0 .ok 2]

/-
  The second flush has delivered the first item again, and
  removes the second one, whose dispatch is not finished.
-/
theorem overlapping_flushes_lose_item :
    (run step (fresh false)
      (overlappingFlushes ++ [.answerFlush 0 .ok 3])).ids =
        [] ∧
    (run step (fresh false)
      (overlappingFlushes ++ [.answerFlush 0 .ok 3])).rowIds =
        [1] ∧
    ¬ Along step Sound (fresh false)
      (overlappingFlushes ++ [.answerFlush 0 .ok 3]) := by
  refine ⟨by decide +kernel, by decide +kernel, ?_⟩
  rw [along_append]
  rintro ⟨_, hSound, _⟩
  have hDelivers :
      (run step (fresh false) overlappingFlushes).Delivers
        (.answerFlush 0 .ok 3) 0 := by
    unfold Delivers
    decide +kernel
  exact hSound.delivers 0 hDelivers (by decide +kernel)

end Outbox

end ControlPlane
