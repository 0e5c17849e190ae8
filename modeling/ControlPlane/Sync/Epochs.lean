import ControlPlane.Sync.ServerEvents

/-
  Frames of earlier epochs.

  The epoch of a frame is compared when it arrives. A frame
  that waits while a newer epoch is adopted is compared by
  its number alone when it goes on, and the numbers of its
  epoch are forgotten by then.

  Main declarations:
    * `EventStream.Untouched` and `EventStream.Withholds`
    * `EventStream.untouched_goOn_iff`
    * `EventStream.Isolated`
    * `EventStream.epochs_isolated_iff`
-/

------------------------------------------------------------
-- Frames Without A Trace
------------------------------------------------------------

namespace ControlPlane

namespace EventStream

open ServerFrame (accountFrame)

/- The frame is not routed and the marks stay. -/
structure Untouched
    (s : EventStream)
    (frame : ServerFrame)
    (next : EventStream) : Prop where
  marks : SameMarks s next
  unrouted : .routed frame ∉ next.log.drop s.log.length

/- The handler goes on to no routing. -/
def Withholds
    (s : EventStream)
    (frame : ServerFrame) : Reconciling → Prop
| .epochChange =>
    ∃ seq, frame.sequenceNumber = some seq ∧
      s.watermark frame.accountKey ≠ 0 ∧
        seq ≠ s.watermark frame.accountKey + 1
| .gap =>
    ∃ seq, frame.sequenceNumber = some seq ∧
      seq ≤ s.watermark frame.accountKey

theorem not_untouched_of_routed
    {s next : EventStream}
    {frame : ServerFrame}
    (hLog : next.log = s.log ++ [.routed frame]) :
    ¬ Untouched s frame next := by
  intro hUntouched
  apply hUntouched.unrouted
  rw [hLog]
  simp

/- A dropped frame leaves another entry. -/
theorem untouched_of_note
    {s next : EventStream}
    {frame : ServerFrame}
    {entry : FrameLog}
    (hMarks : SameMarks s next)
    (hEntry : entry ≠ .routed frame)
    (hLog : next.log = s.log ++ [entry]) :
    Untouched s frame next where
  marks := hMarks
  unrouted := by
    rw [hLog]
    simp [Ne.symm hEntry]

theorem untouched_of_log
    {s next : EventStream}
    {frame : ServerFrame}
    (hMarks : SameMarks s next)
    (hLog : next.log = s.log) :
    Untouched s frame next where
  marks := hMarks
  unrouted := by
    rw [hLog]
    simp

/- A frame without a number is withheld nowhere. -/
theorem not_withholds_of_unnumbered
    {s : EventStream}
    {frame : ServerFrame}
    (hNumber : frame.sequenceNumber = none)
    (stage : Reconciling) : ¬ s.Withholds frame stage := by
  cases stage with
  | epochChange =>
      rintro ⟨seq, hSeq, _⟩
      exact nomatch hNumber.symm.trans hSeq
  | gap =>
      rintro ⟨seq, hSeq, _⟩
      exact nomatch hNumber.symm.trans hSeq

theorem withholds_epochChange_iff
    {s : EventStream}
    {frame : ServerFrame}
    {seq : Rat}
    (hNumber : frame.sequenceNumber = some seq) :
    s.Withholds frame .epochChange ↔
      s.watermark frame.accountKey ≠ 0 ∧
        seq ≠ s.watermark frame.accountKey + 1 := by
  unfold Withholds
  simp only [hNumber, Option.some.injEq, exists_eq_left']

theorem withholds_gap_iff
    {s : EventStream}
    {frame : ServerFrame}
    {seq : Rat}
    (hNumber : frame.sequenceNumber = some seq) :
    s.Withholds frame .gap ↔
      seq ≤ s.watermark frame.accountKey := by
  unfold Withholds
  simp only [hNumber, Option.some.injEq, exists_eq_left']

theorem untouched_detectGap_iff
    (frame : ServerFrame)
    (s : EventStream) :
    Untouched s frame (s.detectGap frame) ↔
      s.Withholds frame .epochChange := by
  unfold detectGap
  cases hNumber : frame.sequenceNumber with
  | none =>
      exact iff_of_false (not_untouched_of_routed rfl)
        (not_withholds_of_unnumbered hNumber _)
  | some seq =>
      rw [withholds_epochChange_iff hNumber]
      dsimp only
      split
      · rename_i hZero
        exact iff_of_false (not_untouched_of_routed rfl)
          (fun hBoth => hBoth.1 hZero)
      · rename_i hKnown
        split
        · rename_i hNext
          exact iff_of_false (not_untouched_of_routed rfl)
            (fun hBoth => hBoth.2 hNext)
        · rename_i hNotNext
          refine iff_of_true ?_ ⟨hKnown, hNotNext⟩
          split
          · exact untouched_of_log
              (sameMarks_wait frame .gap s)
              (log_wait frame .gap s)
          · exact untouched_of_note ⟨rfl, rfl, rfl⟩
              (by simp) rfl

theorem untouched_leaveGap_iff
    (frame : ServerFrame)
    (s : EventStream) :
    Untouched s frame (s.leaveGap frame) ↔
      s.Withholds frame .gap := by
  unfold leaveGap
  cases hNumber : frame.sequenceNumber with
  | none =>
      exact iff_of_false (not_untouched_of_routed rfl)
        (not_withholds_of_unnumbered hNumber _)
  | some seq =>
      rw [withholds_gap_iff hNumber]
      dsimp only
      split
      · rename_i hReached
        refine iff_of_true ?_ hReached
        exact untouched_of_note ⟨rfl, rfl, rfl⟩
          (by simp) rfl
      · rename_i hAbove
        exact iff_of_false (not_untouched_of_routed rfl)
          hAbove

/- The marks and the log decide which trace is left. -/
theorem untouched_congr
    {s other next : EventStream}
    {frame : ServerFrame}
    (hSame : SameMarks s other)
    (hLog : other.log = s.log) :
    Untouched other frame next ↔ Untouched s frame next := by
  constructor
  · intro hUntouched
    refine ⟨hSame.trans hUntouched.marks, ?_⟩
    rw [← hLog]
    exact hUntouched.unrouted
  · intro hUntouched
    refine ⟨hSame.symm.trans hUntouched.marks, ?_⟩
    rw [hLog]
    exact hUntouched.unrouted

/- When a handler that goes on leaves no trace. -/
theorem untouched_goOn_iff
    (call : Suspended)
    (s : EventStream) :
    Untouched s call.frame (s.goOn call) ↔
      s.Withholds call.frame call.reason := by
  have hSame : SameMarks s s.dropPromise := ⟨rfl, rfl, rfl⟩
  rw [← untouched_congr hSame rfl]
  unfold goOn
  cases hReason : call.reason with
  | epochChange =>
      exact untouched_detectGap_iff call.frame s.dropPromise
  | gap =>
      exact untouched_leaveGap_iff call.frame s.dropPromise

/- When a resumed handler leaves no trace. -/
theorem untouched_resume_iff
    {s : EventStream}
    {event : Event}
    {call : Suspended}
    (hResumed : s.resumed event = some call) :
    Untouched s call.frame (s.step event) ↔
      s.Withholds call.frame call.reason := by
  cases event with
  | resume index =>
      have hSame : SameMarks s (s.wake index) :=
        ⟨rfl, rfl, rfl⟩
      have hStep :
          s.step (.resume index) =
            (s.wake index).goOn call := by
        unfold step
        dsimp only
        rw [hResumed]
      rw [hStep, ← untouched_congr hSame rfl]
      exact untouched_goOn_iff call (s.wake index)
  | frame frame => cases hResumed
  | pull => cases hResumed
  | answer index answer => cases hResumed

------------------------------------------------------------
-- Isolated Epochs
------------------------------------------------------------

/- The frame that an event takes through the checks. -/
def handled
    (s : EventStream)
    (event : Event) : Option ServerFrame :=
  match event with
  | .frame frame => some frame
  | _ => (s.resumed event).map Suspended.frame

/- The frame is of an epoch before the current one. -/
def Outdated
    (s : EventStream)
    (frame : ServerFrame) : Prop :=
  0 < frame.incomingEpoch ∧
    frame.incomingEpoch < s.lastObservedEpoch

/-
  A frame of an earlier epoch leaves no trace, and the epoch
  never decreases.
-/
def Isolated
    (s : EventStream)
    (event : Event) : Prop :=
  (∀ frame, s.handled event = some frame →
    s.Outdated frame →
      Untouched s frame (s.step event)) ∧
  s.lastObservedEpoch ≤ (s.step event).lastObservedEpoch

/-
  A frame of an earlier epoch that goes on does not pass the
  comparison with the numbers of the current one.
-/
def OutdatedWithheld
    (s : EventStream)
    (event : Event) : Prop :=
  ∀ call, s.resumed event = some call →
    s.Outdated call.frame →
      s.Withholds call.frame call.reason

/- No event takes the epoch back. -/
theorem lastObservedEpoch_le_step
    (s : EventStream)
    (event : Event) :
    s.lastObservedEpoch ≤ (s.step event).lastObservedEpoch := by
  cases step_effect s event with
  | quiet hMarks _ => rw [hMarks.lastObservedEpoch]
  | prior _ _ _ _ hMarks _ => rw [hMarks.lastObservedEpoch]
  | adopted frame _ _ _ hNewer hMarks _ =>
      rw [hMarks.lastObservedEpoch]
      exact le_of_lt hNewer
  | first frame _ hUnknown hPositive hVerdict =>
      rw [hVerdict.lastObservedEpoch, hUnknown]
      exact le_of_lt hPositive
  | current _ _ _ hVerdict => rw [hVerdict.lastObservedEpoch]
  | resumed _ _ hVerdict => rw [hVerdict.lastObservedEpoch]

/- A frame that arrives is compared with the epoch. -/
theorem untouched_of_outdated
    {s : EventStream}
    {frame : ServerFrame}
    (hOutdated : s.Outdated frame) :
    Untouched s frame (s.step (.frame frame)) := by
  rcases hOutdated with ⟨hPositive, hOlder⟩
  have hKnown : s.lastObservedEpoch ≠ 0 :=
    ne_of_gt (lt_trans hPositive hOlder)
  have hStep :
      s.step (.frame frame) = s.note (.priorEpoch frame) := by
    change s.handleServerEvent frame = _
    unfold handleServerEvent
    rw [if_pos hPositive, if_neg hKnown,
      if_neg (lt_asymm hOlder), if_pos hOlder]
  rw [hStep]
  exact untouched_of_note ⟨rfl, rfl, rfl⟩ (by simp) rfl

theorem isolated_iff
    (s : EventStream)
    (event : Event) :
    s.Isolated event ↔ s.OutdatedWithheld event := by
  constructor
  · intro hIsolated call hResumed hOutdated
    rw [← untouched_resume_iff hResumed]
    apply hIsolated.1 call.frame _ hOutdated
    cases event with
    | resume index =>
        unfold handled
        dsimp only
        rw [hResumed, Option.map_some]
    | frame frame => cases hResumed
    | pull => cases hResumed
    | answer index answer => cases hResumed
  · intro hWithheld
    refine ⟨?_, lastObservedEpoch_le_step s event⟩
    intro frame hHandled hOutdated
    cases event with
    | frame arrived =>
        cases hHandled
        exact untouched_of_outdated hOutdated
    | pull => cases hHandled
    | answer index answer => cases hHandled
    | resume index =>
        rcases Option.map_eq_some_iff.mp hHandled with
          ⟨call, hResumed, rfl⟩
        rw [untouched_resume_iff hResumed]
        exact hWithheld call hResumed hOutdated

/-
  Epochs are isolated in exactly the runs in which every
  frame of an earlier epoch that goes on after waiting fails
  the comparison of the numbers.
-/
theorem epochs_isolated_iff
    (events : List Event) :
    Along step Isolated fresh events ↔
      Along step OutdatedWithheld fresh events := by
  constructor
  · exact Along.mono (fun s event => (isolated_iff s event).mp)
  · exact Along.mono (fun s event => (isolated_iff s event).mpr)

/- A frame that waits while a newer epoch is adopted. -/
def gapThenEpoch : List Event :=
  [.frame (accountFrame 1 "a" 1),
   .frame (accountFrame 1 "a" 5),
   .frame (accountFrame 2 "b" 1),
   .answer 0 .applied, .answer 0 .applied,
   .answer 0 .applied, .answer 0 .applied]

/-
  The numbers of the old epoch are forgotten when the frame
  goes on, so it is routed in the new one.
-/
theorem earlier_epoch_routed :
    ¬ Along step Isolated fresh
      (gapThenEpoch ++ [.resume 0]) := by
  rw [along_append]
  rintro ⟨_, ⟨hIsolated, _⟩, _⟩
  have hUntouched :=
    hIsolated (accountFrame 1 "a" 5) (by decide +kernel)
      ⟨by decide +kernel, by decide +kernel⟩
  exact hUntouched.unrouted (by decide +kernel)

end EventStream

end ControlPlane
