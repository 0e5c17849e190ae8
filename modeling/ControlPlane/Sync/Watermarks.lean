import ControlPlane.Sync.ServerEvents

/-
  The watermarks of the event stream.

  A frame that is routed under a number takes it in the same
  turn in which the number was compared, so within an epoch
  the numbers of an account that are routed grow.

  Main declarations:
    * `EventStream.routedSince`
    * `EventStream.Grows` and `EventStream.Dominated`
    * `EventStream.routed_in_order`
-/

------------------------------------------------------------
-- Suspended Frames
------------------------------------------------------------

namespace ControlPlane

namespace EventStream

open ServerFrame (accountFrame)

/- A handler that begins to wait is the last one. -/
theorem suspended_wait
    (frame : ServerFrame)
    (reason : Reconciling)
    (s : EventStream) :
    ∃ call : Suspended,
      call.frame = frame ∧
        (s.wait frame reason).suspended =
          s.suspended ++ [call] := by
  unfold wait
  exact ⟨_, rfl, rfl⟩

theorem suspended_detectGap
    (frame : ServerFrame)
    (s : EventStream)
    {call : Suspended}
    (hCall : call ∈ (s.detectGap frame).suspended) :
    call ∈ s.suspended ∨ call.frame = frame := by
  unfold detectGap at hCall
  cases hNumber : frame.sequenceNumber with
  | none =>
      rw [hNumber] at hCall
      exact Or.inl hCall
  | some seq =>
      rw [hNumber] at hCall
      dsimp only at hCall
      split at hCall
      · exact Or.inl hCall
      · split at hCall
        · exact Or.inl hCall
        · split at hCall
          · rcases suspended_wait frame .gap s with
              ⟨last, hFrame, hSuspended⟩
            rw [hSuspended] at hCall
            rcases List.mem_append.mp hCall with hOld | hNew
            · exact Or.inl hOld
            · rw [List.mem_singleton.mp hNew]
              exact Or.inr hFrame
          · exact Or.inl hCall

theorem suspended_leaveGap
    (frame : ServerFrame)
    (s : EventStream) :
    (s.leaveGap frame).suspended = s.suspended := by
  unfold leaveGap
  split
  · rfl
  · split <;> rfl

/- A resumed handler had been waiting. -/
theorem mem_of_resumed
    {s : EventStream}
    {event : Event}
    {call : Suspended}
    (hResumed : s.resumed event = some call) :
    call ∈ s.suspended := by
  cases event with
  | resume index =>
      exact List.mem_of_getElem?
        (Option.eq_some_of_filter_eq_some hResumed)
  | _ => cases hResumed

theorem suspended_goOn
    (call : Suspended)
    (s : EventStream)
    {other : Suspended}
    (hOther : other ∈ (s.goOn call).suspended) :
    other ∈ s.suspended ∨ other.frame = call.frame := by
  unfold goOn at hOther
  split at hOther
  · exact suspended_detectGap call.frame s.dropPromise hOther
  · rw [suspended_leaveGap] at hOther
    exact Or.inl hOther

theorem suspended_handleServerEvent
    (frame : ServerFrame)
    (s : EventStream)
    {call : Suspended}
    (hCall : call ∈ (s.handleServerEvent frame).suspended) :
    call ∈ s.suspended ∨ call.frame = frame := by
  unfold handleServerEvent at hCall
  split at hCall
  · split at hCall
    · exact suspended_detectGap frame
        (s.firstEpoch frame.incomingEpoch) hCall
    · split at hCall
      · rcases suspended_wait frame .epochChange
            (s.adoptEpoch frame.incomingEpoch) with
          ⟨last, hFrame, hSuspended⟩
        rw [hSuspended] at hCall
        rcases List.mem_append.mp hCall with hOld | hNew
        · exact Or.inl hOld
        · rw [List.mem_singleton.mp hNew]
          exact Or.inr hFrame
      · split at hCall
        · exact Or.inl hCall
        · exact suspended_detectGap frame s hCall
  · exact suspended_detectGap frame s hCall

/- Every frame that waits has arrived. -/
theorem suspended_step
    {P : ServerFrame → Prop}
    {s : EventStream}
    {event : Event}
    (hFrame : ∀ frame, event = .frame frame → P frame)
    (hSuspended : ∀ call ∈ s.suspended, P call.frame) :
    ∀ call ∈ (s.step event).suspended, P call.frame := by
  intro call hCall
  cases event with
  | frame frame =>
      rcases suspended_handleServerEvent frame s hCall with
        hOld | hNew
      · exact hSuspended call hOld
      · rw [hNew]
        exact hFrame frame rfl
  | pull => exact hSuspended call hCall
  | answer index answer =>
      unfold step answerFetch at hCall
      dsimp only at hCall
      split at hCall
      · exact hSuspended call hCall
      · exact hSuspended call hCall
  | resume index =>
      unfold step at hCall
      dsimp only at hCall
      cases hResumed : s.resumed (.resume index) with
      | none =>
          rw [hResumed] at hCall
          exact hSuspended call hCall
      | some woken =>
          rw [hResumed] at hCall
          rcases suspended_goOn woken (s.wake index) hCall
            with hOld | hNew
          · exact hSuspended call
              (List.mem_of_mem_eraseIdx hOld)
          · rw [hNew]
            exact hSuspended woken (mem_of_resumed hResumed)

------------------------------------------------------------
-- Marks Of One Epoch
------------------------------------------------------------

/- No watermark decreases and none is lost. -/
structure Grows (s next : EventStream) : Prop where
  highest :
    s.lastObservedSequence ≤ next.lastObservedSequence
  accounts :
    ∀ key mark,
      s.accountSequences.get? key = some mark →
        ∃ later,
          next.accountSequences.get? key = some later ∧
            mark ≤ later

namespace Grows

theorem of_sameMarks
    {s next : EventStream}
    (hSame : SameMarks s next) :
    Grows s next where
  highest := le_of_eq hSame.lastObservedSequence.symm
  accounts := by
    intro key mark hMark
    rw [← hSame.accountSequences] at hMark
    exact ⟨mark, hMark, le_refl mark⟩

theorem trans
    {s mid next : EventStream}
    (hFirst : Grows s mid)
    (hSecond : Grows mid next) :
    Grows s next where
  highest := le_trans hFirst.highest hSecond.highest
  accounts := by
    intro key mark hMark
    rcases hFirst.accounts key mark hMark with
      ⟨between, hBetween, hLe⟩
    rcases hSecond.accounts key between hBetween with
      ⟨later, hLater, hLater'⟩
    exact ⟨later, hLater, le_trans hLe hLater'⟩

end Grows

/- The watermark of an account that has one. -/
theorem watermark_of_get?
    {s : EventStream}
    {key : String}
    {mark : Rat}
    (hMark : s.accountSequences.get? key = some mark) :
    s.watermark key = mark := by
  unfold watermark
  rw [hMark]
  rfl

theorem get?_advance
    (s : EventStream)
    (key other : String)
    (seq : Rat) :
    (s.advance key seq).accountSequences.get? other =
      if other = key then some seq
      else s.accountSequences.get? other :=
  OrderedMap.get?_set _ _ _ _

/- A number above the watermark is an advance. -/
theorem grows_advance
    {s : EventStream}
    {key : String}
    {seq : Rat}
    (hAbove :
      ∀ mark, s.accountSequences.get? key = some mark →
        mark ≤ seq) :
    Grows s (s.advance key seq) where
  highest := le_max_left _ _
  accounts := by
    intro other mark hMark
    rw [get?_advance]
    by_cases hKey : other = key
    · subst hKey
      rw [if_pos rfl]
      exact ⟨seq, rfl, hAbove mark hMark⟩
    · rw [if_neg hKey]
      exact ⟨mark, hMark, le_refl mark⟩

/- The number under which a frame of the account is routed. -/
def routedNumber
    (key : String) : FrameLog → Option Rat
| .routed frame =>
    if frame.accountKey = key then frame.sequenceNumber
    else none
| _ => none

/- The numbers of an account that are routed after a point. -/
def routedSince
    (key : String)
    (start : Nat)
    (s : EventStream) : List Rat :=
  (s.log.drop start).filterMap (routedNumber key)

/- The numbers begin with one. -/
def Numbered (frame : ServerFrame) : Prop :=
  ∀ seq, frame.sequenceNumber = some seq → 1 ≤ seq

/- The number of the frame, if the event is one. -/
def NumberedEvent (event : Event) : Prop :=
  ∀ frame, event = .frame frame → Numbered frame

/- The numbers that wait and the watermarks begin with one. -/
structure Counted (s : EventStream) : Prop where
  suspended : ∀ call ∈ s.suspended, Numbered call.frame
  marks :
    ∀ key mark,
      s.accountSequences.get? key = some mark → 1 ≤ mark

/-
  Since a point, the routed numbers of an account grow, and
  the last one is at most its watermark.
-/
structure InOrder
    (start : Nat)
    (s : EventStream) : Prop where
  point : start ≤ s.log.length
  sorted : ∀ key, (s.routedSince key start).Pairwise (· < ·)
  reached :
    ∀ key, ∀ seq ∈ s.routedSince key start,
      ∃ mark,
        s.accountSequences.get? key = some mark ∧ seq ≤ mark

theorem routedSince_append
    {s next : EventStream}
    {entry : FrameLog}
    {start : Nat}
    (hPoint : start ≤ s.log.length)
    (hLog : next.log = s.log ++ [entry])
    (key : String) :
    next.routedSince key start =
      s.routedSince key start ++
        (routedNumber key entry).toList := by
  unfold routedSince
  rw [hLog, List.drop_append_of_le_length hPoint,
    List.filterMap_append]
  cases hNumber : routedNumber key entry <;>
    simp [hNumber]

/- An entry that routes no number keeps the order. -/
theorem InOrder.of_sameMarks
    {s next : EventStream}
    {start : Nat}
    (hOrder : InOrder start s)
    (hMarks : SameMarks s next)
    (hPoint : start ≤ next.log.length)
    (hRouted :
      ∀ key,
        next.routedSince key start =
          s.routedSince key start) :
    InOrder start next where
  point := hPoint
  sorted := by
    intro key
    rw [hRouted]
    exact hOrder.sorted key
  reached := by
    intro key seq hSeq
    rw [hRouted] at hSeq
    rw [hMarks.accountSequences]
    exact hOrder.reached key seq hSeq

theorem InOrder.of_log
    {s next : EventStream}
    {start : Nat}
    (hOrder : InOrder start s)
    (hMarks : SameMarks s next)
    (hLog : next.log = s.log) :
    InOrder start next := by
  apply hOrder.of_sameMarks hMarks
  · rw [hLog]
    exact hOrder.point
  · intro key
    unfold routedSince
    rw [hLog]

theorem InOrder.of_entry
    {s next : EventStream}
    {start : Nat}
    {entry : FrameLog}
    (hOrder : InOrder start s)
    (hMarks : SameMarks s next)
    (hEntry : ∀ key, routedNumber key entry = none)
    (hLog : next.log = s.log ++ [entry]) :
    InOrder start next := by
  apply hOrder.of_sameMarks hMarks
  · rw [hLog, List.length_append]
    exact Nat.le_add_right_of_le hOrder.point
  · intro key
    rw [routedSince_append hOrder.point hLog, hEntry,
      Option.toList_none, List.append_nil]

/- A number above the watermark of its account is routed. -/
theorem InOrder.accept
    {s next : EventStream}
    {start : Nat}
    {frame : ServerFrame}
    {seq : Rat}
    (hOrder : InOrder start s)
    (hNumber : frame.sequenceNumber = some seq)
    (hAbove :
      ∀ mark,
        s.accountSequences.get? frame.accountKey = some mark →
          mark < seq)
    (hMarks :
      SameMarks (s.advance frame.accountKey seq) next)
    (hLog : next.log = s.log ++ [.routed frame]) :
    InOrder start next := by
  have hRouted := routedSince_append hOrder.point hLog
  have hNext :
      ∀ key,
        next.accountSequences.get? key =
          if key = frame.accountKey then some seq
          else s.accountSequences.get? key := by
    intro key
    rw [hMarks.accountSequences, get?_advance]
  have hOwn :
      routedNumber frame.accountKey (.routed frame) =
        some seq := by
    simp [routedNumber, hNumber]
  have hOther :
      ∀ key, key ≠ frame.accountKey →
        routedNumber key (.routed frame) = none := by
    intro key hKey
    exact if_neg (Ne.symm hKey)
  refine ⟨?_, ?_, ?_⟩
  · rw [hLog, List.length_append]
    exact Nat.le_add_right_of_le hOrder.point
  · intro key
    rw [hRouted]
    by_cases hKey : key = frame.accountKey
    · subst hKey
      rw [hOwn, Option.toList_some, List.pairwise_append]
      refine ⟨hOrder.sorted _, List.pairwise_singleton _ _,
        ?_⟩
      intro earlier hEarlier later hLater
      rw [List.mem_singleton.mp hLater]
      rcases hOrder.reached _ earlier hEarlier with
        ⟨mark, hMark, hLe⟩
      exact lt_of_le_of_lt hLe (hAbove mark hMark)
    · rw [hOther key hKey, Option.toList_none,
        List.append_nil]
      exact hOrder.sorted key
  · intro key number hMember
    rw [hRouted] at hMember
    rw [hNext]
    by_cases hKey : key = frame.accountKey
    · subst hKey
      rw [if_pos rfl]
      refine ⟨seq, rfl, ?_⟩
      rw [hOwn, Option.toList_some] at hMember
      rcases List.mem_append.mp hMember with hOld | hNew
      · rcases hOrder.reached _ number hOld with
          ⟨mark, hMark, hLe⟩
        exact le_trans hLe (le_of_lt (hAbove mark hMark))
      · rw [List.mem_singleton.mp hNew]
    · rw [if_neg hKey]
      rw [hOther key hKey, Option.toList_none,
        List.append_nil] at hMember
      exact hOrder.reached key number hMember

/- An accepted number is above the watermark it replaces. -/
theorem Counted.above
    {s : EventStream}
    {key : String}
    {seq : Rat}
    (hCounted : Counted s)
    (hAbove : s.watermark key = 0 ∨ s.watermark key < seq)
    (mark : Rat)
    (hMark : s.accountSequences.get? key = some mark) :
    mark < seq := by
  have hOne := hCounted.marks key mark hMark
  rw [watermark_of_get? hMark] at hAbove
  grind

theorem Counted.verdict
    {s next : EventStream}
    {frame : ServerFrame}
    (hCounted : Counted s)
    (hFrame : Numbered frame)
    (hSuspended : ∀ call ∈ next.suspended, Numbered call.frame)
    (hVerdict : Verdict s frame next) :
    Counted next := by
  refine ⟨hSuspended, ?_⟩
  intro key mark hMark
  cases hVerdict with
  | waits hMarks _ =>
      rw [hMarks.accountSequences] at hMark
      exact hCounted.marks key mark hMark
  | unnumbered _ hMarks _ =>
      rw [hMarks.accountSequences] at hMark
      exact hCounted.marks key mark hMark
  | dropped _ _ _ _ _ hMarks _ =>
      rw [hMarks.accountSequences] at hMark
      exact hCounted.marks key mark hMark
  | accepted seq hNumber _ hMarks _ =>
      rw [hMarks.accountSequences, get?_advance] at hMark
      by_cases hKey : key = frame.accountKey
      · rw [if_pos hKey] at hMark
        rw [← Option.some.inj hMark]
        exact hFrame seq hNumber
      · rw [if_neg hKey] at hMark
        exact hCounted.marks key mark hMark

theorem counted_step
    (s : EventStream)
    (event : Event)
    (hCounted : Counted s)
    (hNumbered : NumberedEvent event) :
    Counted (s.step event) := by
  have hSuspended :=
    suspended_step hNumbered hCounted.suspended
  cases step_effect s event with
  | quiet hMarks _ =>
      refine ⟨hSuspended, ?_⟩
      rw [hMarks.accountSequences]
      exact hCounted.marks
  | prior _ _ _ _ hMarks _ =>
      refine ⟨hSuspended, ?_⟩
      rw [hMarks.accountSequences]
      exact hCounted.marks
  | adopted _ _ _ _ _ hMarks _ =>
      refine ⟨hSuspended, ?_⟩
      rw [hMarks.accountSequences]
      intro key mark hMark
      cases hMark
  | first frame hEvent _ _ hVerdict =>
      have hFirst :
          Counted (s.firstEpoch frame.incomingEpoch) :=
        ⟨hCounted.suspended, hCounted.marks⟩
      exact hFirst.verdict (hNumbered frame hEvent)
        hSuspended hVerdict
  | current frame hEvent _ hVerdict =>
      exact hCounted.verdict (hNumbered frame hEvent)
        hSuspended hVerdict
  | resumed call hResumed hVerdict =>
      exact hCounted.verdict
        (hCounted.suspended call (mem_of_resumed hResumed))
        hSuspended hVerdict

/- The checks of a frame keep the order and the growth. -/
theorem Verdict.inOrder
    {s next : EventStream}
    {frame : ServerFrame}
    {start : Nat}
    (hVerdict : Verdict s frame next)
    (hCounted : Counted s)
    (hOrder : InOrder start s) :
    InOrder start next ∧ Grows s next := by
  cases hVerdict with
  | waits hMarks hLog =>
      exact ⟨hOrder.of_log hMarks hLog,
        .of_sameMarks hMarks⟩
  | unnumbered hNumber hMarks hLog =>
      refine ⟨hOrder.of_entry hMarks ?_ hLog,
        .of_sameMarks hMarks⟩
      intro key
      simp [routedNumber, hNumber]
  | dropped _ entry _ hEntry _ hMarks hLog =>
      refine ⟨hOrder.of_entry hMarks ?_ hLog,
        .of_sameMarks hMarks⟩
      intro key
      rcases hEntry with rfl | rfl
      · rfl
      · rfl
  | accepted seq hNumber hAbove hMarks hLog =>
      have hBelow := hCounted.above hAbove
      refine ⟨hOrder.accept hNumber hBelow hMarks hLog, ?_⟩
      refine Grows.trans (grows_advance ?_)
        (.of_sameMarks hMarks)
      intro mark hMark
      exact le_of_lt (hBelow mark hMark)

/-
  An event that replaces no epoch by another keeps order and
  growth.
-/
theorem inOrder_step
    {s : EventStream}
    {event : Event}
    {start : Nat}
    (hEpoch :
      s.lastObservedEpoch ≠ 0 →
        (s.step event).lastObservedEpoch =
          s.lastObservedEpoch)
    (hCounted : Counted s)
    (hOrder : InOrder start s) :
    InOrder start (s.step event) ∧ Grows s (s.step event) := by
  cases step_effect s event with
  | quiet hMarks hLog =>
      exact ⟨hOrder.of_log hMarks hLog,
        .of_sameMarks hMarks⟩
  | prior frame _ _ _ hMarks hLog =>
      exact ⟨hOrder.of_entry hMarks (fun _ => rfl) hLog,
        .of_sameMarks hMarks⟩
  | adopted frame _ _ hKnown hNewer hMarks _ =>
      have hSame := hEpoch hKnown
      rw [hMarks.lastObservedEpoch] at hSame
      exact absurd hSame (ne_of_gt hNewer)
  | first frame _ _ _ hVerdict =>
      have hFirst :
          Counted (s.firstEpoch frame.incomingEpoch) :=
        ⟨hCounted.suspended, hCounted.marks⟩
      have hKept :
          InOrder start (s.firstEpoch frame.incomingEpoch) :=
        ⟨hOrder.point, hOrder.sorted, hOrder.reached⟩
      have hBoth := hVerdict.inOrder hFirst hKept
      exact ⟨hBoth.1, hBoth.2.highest, hBoth.2.accounts⟩
  | current frame _ _ hVerdict =>
      exact hVerdict.inOrder hCounted hOrder
  | resumed call _ hVerdict =>
      exact hVerdict.inOrder hCounted hOrder

theorem counted_fresh : Counted fresh := by
  refine ⟨?_, ?_⟩
  · intro call hCall
    cases hCall
  · intro key mark hMark
    cases hMark

/- Nothing has been routed since the present. -/
theorem inOrder_now (s : EventStream) :
    InOrder s.log.length s := by
  have hNone : ∀ key, s.routedSince key s.log.length = [] := by
    intro key
    simp [routedSince]
  refine ⟨Nat.le_refl _, ?_, ?_⟩
  · intro key
    rw [hNone]
    exact List.Pairwise.nil
  · intro key seq hSeq
    rw [hNone] at hSeq
    cases hSeq

end EventStream

end ControlPlane
