import ControlPlane.Sync.Watermarks

/-
  Frames that are dropped as stale.

  A frame of an account that has a watermark is dropped only
  when a number that is at least as high has been routed for
  that account. A frame of an account without one is
  compared with the highest number of all accounts, and the
  progress of others drops it.

  Main declarations:
    * `EventStream.examined` and `EventStream.Refuses`
    * `EventStream.drops_iff`
    * `EventStream.DropsJustified`
    * `EventStream.dropsJustified_iff_ownWatermark`
-/

------------------------------------------------------------
-- What Is Dropped
------------------------------------------------------------

namespace ControlPlane

namespace EventStream

open ServerFrame (accountFrame)

/-
  The frame whose number an event compares, with the stage
  of the handler. A frame of the current epoch is compared
  like one that waited for a new epoch.
-/
def examined
    (s : EventStream)
    (event : Event) : Option (ServerFrame × Reconciling) :=
  match event with
  | .frame frame =>
      if 0 < frame.incomingEpoch ∧ s.lastObservedEpoch ≠ 0 ∧
          frame.incomingEpoch ≠ s.lastObservedEpoch then
        none
      else
        some (frame, .epochChange)
  | _ =>
      (s.resumed event).map
        (fun call => (call.frame, call.reason))

/- The number of the frame does not pass the comparison. -/
def Refuses
    (s : EventStream)
    (frame : ServerFrame) : Reconciling → Prop
| .epochChange =>
    ∃ seq, frame.sequenceNumber = some seq ∧
      s.watermark frame.accountKey ≠ 0 ∧
        seq < s.watermark frame.accountKey + 1
| .gap =>
    ∃ seq, frame.sequenceNumber = some seq ∧
      seq ≤ s.watermark frame.accountKey

/- The log entry of a frame that is dropped for its number. -/
def Dropping
    (frame : ServerFrame)
    (entry : FrameLog) : Prop :=
  entry = .stale frame ∨ entry = .superseded frame

/- The event drops the frame for its number. -/
def Drops
    (s : EventStream)
    (event : Event)
    (frame : ServerFrame) : Prop :=
  ∃ entry, Dropping frame entry ∧
    (s.step event).log = s.log ++ [entry]

theorem not_dropping_routed
    {frame other : ServerFrame} :
    ¬ Dropping frame (.routed other) := by
  rintro (hStale | hSuperseded)
  · cases hStale
  · cases hSuperseded

theorem not_dropping_priorEpoch
    {frame other : ServerFrame} :
    ¬ Dropping frame (.priorEpoch other) := by
  rintro (hStale | hSuperseded)
  · cases hStale
  · cases hSuperseded

/- A log that is not extended names no dropped frame. -/
theorem not_drops_of_log
    {log : List FrameLog}
    {frame : ServerFrame} :
    ¬ ∃ entry, Dropping frame entry ∧ log = log ++ [entry] := by
  rintro ⟨entry, _, hLog⟩
  have hLength := congrArg List.length hLog
  rw [List.length_append, List.length_singleton] at hLength
  omega

/- The entry of a log that is extended by one. -/
theorem drops_of_entry
    {log : List FrameLog}
    {last : FrameLog}
    {frame : ServerFrame} :
    (∃ entry, Dropping frame entry ∧
      log ++ [last] = log ++ [entry]) ↔
        Dropping frame last := by
  constructor
  · rintro ⟨entry, hEntry, hLog⟩
    rw [List.append_cancel_left_eq, List.cons.injEq] at hLog
    rw [hLog.1]
    exact hEntry
  · intro hLast
    exact ⟨last, hLast, rfl⟩

/- A frame without a number is refused nowhere. -/
theorem not_refuses_of_unnumbered
    {s : EventStream}
    {frame : ServerFrame}
    (hNumber : frame.sequenceNumber = none)
    (stage : Reconciling) : ¬ s.Refuses frame stage := by
  cases stage with
  | epochChange =>
      rintro ⟨seq, hSeq, _⟩
      exact nomatch hNumber.symm.trans hSeq
  | gap =>
      rintro ⟨seq, hSeq, _⟩
      exact nomatch hNumber.symm.trans hSeq

theorem refuses_epochChange_iff
    {s : EventStream}
    {frame : ServerFrame}
    {seq : Rat}
    (hNumber : frame.sequenceNumber = some seq) :
    s.Refuses frame .epochChange ↔
      s.watermark frame.accountKey ≠ 0 ∧
        seq < s.watermark frame.accountKey + 1 := by
  unfold Refuses
  simp only [hNumber, Option.some.injEq, exists_eq_left']

theorem refuses_gap_iff
    {s : EventStream}
    {frame : ServerFrame}
    {seq : Rat}
    (hNumber : frame.sequenceNumber = some seq) :
    s.Refuses frame .gap ↔
      seq ≤ s.watermark frame.accountKey := by
  unfold Refuses
  simp only [hNumber, Option.some.injEq, exists_eq_left']

theorem drops_detectGap
    (frame dropped : ServerFrame)
    (s : EventStream) :
    (∃ entry, Dropping dropped entry ∧
      (s.detectGap frame).log = s.log ++ [entry]) ↔
        frame = dropped ∧ s.Refuses dropped .epochChange := by
  unfold detectGap
  cases hNumber : frame.sequenceNumber with
  | none =>
      simp only [note, drops_of_entry, not_dropping_routed,
        false_iff]
      rintro ⟨rfl, hRefuses⟩
      exact not_refuses_of_unnumbered hNumber _ hRefuses
  | some seq =>
      dsimp only
      split
      · rename_i hZero
        simp only [note, advance, drops_of_entry,
          not_dropping_routed, false_iff]
        rintro ⟨rfl, hRefuses⟩
        exact ((refuses_epochChange_iff hNumber).mp
          hRefuses).1 hZero
      · rename_i hKnown
        split
        · rename_i hNext
          simp only [note, advance, drops_of_entry,
            not_dropping_routed, false_iff]
          rintro ⟨rfl, hRefuses⟩
          rw [refuses_epochChange_iff hNumber, hNext]
            at hRefuses
          exact lt_irrefl _ hRefuses.2
        · rename_i hNotNext
          split
          · rename_i hGap
            rw [log_wait]
            simp only [not_drops_of_log, false_iff]
            rintro ⟨rfl, hRefuses⟩
            exact lt_asymm hGap
              ((refuses_epochChange_iff hNumber).mp hRefuses).2
          · rename_i hNoGap
            simp only [note, drops_of_entry]
            constructor
            · rintro (hStale | hSuperseded)
              · cases hStale
                refine ⟨rfl, (refuses_epochChange_iff
                  hNumber).mpr ⟨hKnown, ?_⟩⟩
                exact lt_of_le_of_ne (le_of_not_gt hNoGap)
                  hNotNext
              · cases hSuperseded
            · rintro ⟨rfl, _⟩
              exact Or.inl rfl

theorem drops_leaveGap
    (frame dropped : ServerFrame)
    (s : EventStream) :
    (∃ entry, Dropping dropped entry ∧
      (s.leaveGap frame).log = s.log ++ [entry]) ↔
        frame = dropped ∧ s.Refuses dropped .gap := by
  unfold leaveGap
  cases hNumber : frame.sequenceNumber with
  | none =>
      simp only [note, drops_of_entry, not_dropping_routed,
        false_iff]
      rintro ⟨rfl, hRefuses⟩
      exact not_refuses_of_unnumbered hNumber _ hRefuses
  | some seq =>
      dsimp only
      split
      · rename_i hReached
        simp only [note, drops_of_entry]
        constructor
        · rintro (hStale | hSuperseded)
          · cases hStale
          · cases hSuperseded
            exact ⟨rfl, (refuses_gap_iff hNumber).mpr hReached⟩
        · rintro ⟨rfl, _⟩
          exact Or.inr rfl
      · rename_i hAbove
        simp only [note, advance, drops_of_entry,
          not_dropping_routed, false_iff]
        rintro ⟨rfl, hRefuses⟩
        exact hAbove ((refuses_gap_iff hNumber).mp hRefuses)

theorem drops_handleServerEvent
    (frame dropped : ServerFrame)
    (s : EventStream) :
    (∃ entry, Dropping dropped entry ∧
      (s.handleServerEvent frame).log = s.log ++ [entry]) ↔
        ∃ stage,
          s.examined (.frame frame) = some (dropped, stage) ∧
            s.Refuses dropped stage := by
  have hExamined :
      s.examined (.frame frame) = some (frame, .epochChange) →
        ((frame = dropped ∧ s.Refuses dropped .epochChange) ↔
          ∃ stage,
            s.examined (.frame frame) = some (dropped, stage) ∧
              s.Refuses dropped stage) := by
    intro hSome
    rw [hSome]
    constructor
    · rintro ⟨rfl, hRefuses⟩
      exact ⟨.epochChange, rfl, hRefuses⟩
    · rintro ⟨stage, hStage, hRefuses⟩
      cases hStage
      exact ⟨rfl, hRefuses⟩
  unfold handleServerEvent
  split
  · rename_i hPositive
    split
    · rename_i hUnknown
      rw [← hExamined (if_neg (fun hOther =>
        hOther.2.1 hUnknown))]
      exact drops_detectGap frame dropped
        (s.firstEpoch frame.incomingEpoch)
    · rename_i hKnown
      have hNone :
          frame.incomingEpoch ≠ s.lastObservedEpoch →
            s.examined (.frame frame) = none :=
        fun hOther => if_pos ⟨hPositive, hKnown, hOther⟩
      split
      · rename_i hNewer
        rw [log_wait, hNone (ne_of_gt hNewer)]
        simp [adoptEpoch]
      · rename_i hNotNewer
        split
        · rename_i hOlder
          rw [hNone (ne_of_lt hOlder)]
          simp [note, not_dropping_priorEpoch]
        · rename_i hNotOlder
          have hCurrent :
              frame.incomingEpoch = s.lastObservedEpoch :=
            le_antisymm (le_of_not_gt hNotNewer)
              (le_of_not_gt hNotOlder)
          rw [← hExamined (if_neg (fun hOther =>
            hOther.2.2 hCurrent))]
          exact drops_detectGap frame dropped s
  · rename_i hNone
    rw [← hExamined (if_neg (fun hOther => hNone hOther.1))]
    exact drops_detectGap frame dropped s

theorem drops_goOn
    (call : Suspended)
    (dropped : ServerFrame)
    (s : EventStream) :
    (∃ entry, Dropping dropped entry ∧
      (s.goOn call).log = s.log ++ [entry]) ↔
        call.frame = dropped ∧
          s.Refuses dropped call.reason := by
  unfold goOn
  cases hReason : call.reason with
  | epochChange =>
      exact drops_detectGap call.frame dropped s.dropPromise
  | gap =>
      exact drops_leaveGap call.frame dropped s.dropPromise

/- Which frame an event drops for its number. -/
theorem drops_iff
    (s : EventStream)
    (event : Event)
    (dropped : ServerFrame) :
    s.Drops event dropped ↔
      ∃ stage,
        s.examined event = some (dropped, stage) ∧
          s.Refuses dropped stage := by
  cases event with
  | frame frame => exact drops_handleServerEvent frame dropped s
  | pull => simp [Drops, step, examined, resumed]
  | answer index answer =>
      have hLog :
          (s.step (.answer index answer)).log = s.log := by
        unfold step answerFetch
        dsimp only
        split <;> rfl
      simp [Drops, hLog, examined, resumed]
  | resume index =>
      unfold Drops step examined
      dsimp only
      cases hResumed : s.resumed (.resume index) with
      | none => simp
      | some call =>
          rw [show s.log = (s.wake index).log from rfl]
          rw [drops_goOn]
          constructor
          · rintro ⟨rfl, hRefuses⟩
            exact ⟨call.reason, rfl, hRefuses⟩
          · rintro ⟨stage, hStage, hRefuses⟩
            cases hStage
            exact ⟨rfl, hRefuses⟩

------------------------------------------------------------
-- Justified Drops
------------------------------------------------------------

/-
  A frame that is dropped for its number comes after one of
  its account whose number is at least as high.
-/
def DropsJustified
    (s : EventStream)
    (event : Event) : Prop :=
  ∀ frame, s.Drops event frame →
    ∃ seq, frame.sequenceNumber = some seq ∧
      ∃ earlier ∈ s.routedSince frame.accountKey 0,
        seq ≤ earlier

/-
  A number that does not pass the comparison is not above
  the watermark of its own account.
-/
def OwnWatermark
    (s : EventStream)
    (event : Event) : Prop :=
  ∀ frame stage,
    s.examined event = some (frame, stage) →
      s.Refuses frame stage →
        ∃ seq own,
          frame.sequenceNumber = some seq ∧
            s.accountSequences.get? frame.accountKey =
              some own ∧
            seq ≤ own

/- The frames are of one epoch, or of none. -/
def OfEpoch
    (epoch : Rat)
    (event : Event) : Prop :=
  ∀ frame, event = .frame frame →
    0 < frame.incomingEpoch → frame.incomingEpoch = epoch

/- Every watermark has been routed, in the only epoch. -/
structure OneEpoch
    (epoch : Rat)
    (s : EventStream) : Prop where
  current :
    s.lastObservedEpoch = 0 ∨ s.lastObservedEpoch = epoch
  routed :
    ∀ key mark,
      s.accountSequences.get? key = some mark →
        mark ∈ s.routedSince key 0

theorem routedSince_prefix
    {s next : EventStream}
    {entries : List FrameLog}
    (hLog : next.log = s.log ++ entries)
    {key : String}
    {seq : Rat}
    (hSeq : seq ∈ s.routedSince key 0) :
    seq ∈ next.routedSince key 0 := by
  unfold routedSince at *
  rw [hLog, List.drop_zero, List.filterMap_append]
  exact List.mem_append_left _ hSeq

theorem OneEpoch.of_sameMarks
    {epoch : Rat}
    {s next : EventStream}
    {entries : List FrameLog}
    (hOne : OneEpoch epoch s)
    (hMarks : SameMarks s next)
    (hLog : next.log = s.log ++ entries) :
    OneEpoch epoch next where
  current := by
    rw [hMarks.lastObservedEpoch]
    exact hOne.current
  routed := by
    intro key mark hMark
    rw [hMarks.accountSequences] at hMark
    exact routedSince_prefix hLog (hOne.routed key mark hMark)

theorem OneEpoch.verdict
    {epoch : Rat}
    {s next : EventStream}
    {frame : ServerFrame}
    (hOne : OneEpoch epoch s)
    (hVerdict : Verdict s frame next) :
    OneEpoch epoch next := by
  cases hVerdict with
  | waits hMarks hLog =>
      exact hOne.of_sameMarks hMarks
        (hLog.trans (List.append_nil _).symm)
  | unnumbered _ hMarks hLog =>
      exact hOne.of_sameMarks hMarks hLog
  | dropped _ _ _ _ _ hMarks hLog =>
      exact hOne.of_sameMarks hMarks hLog
  | accepted seq hNumber _ hMarks hLog =>
      refine ⟨?_, ?_⟩
      · rw [hMarks.lastObservedEpoch]
        exact hOne.current
      · intro key mark hMark
        rw [hMarks.accountSequences, get?_advance] at hMark
        by_cases hKey : key = frame.accountKey
        · rw [if_pos hKey] at hMark
          rw [routedSince_append (Nat.zero_le _) hLog]
          apply List.mem_append_right
          simp [routedNumber, hKey, hNumber,
            Option.some.inj hMark]
        · rw [if_neg hKey] at hMark
          exact routedSince_prefix hLog
            (hOne.routed key mark hMark)

theorem oneEpoch_step
    {epoch : Rat}
    {s : EventStream}
    {event : Event}
    (hOne : OneEpoch epoch s)
    (hEvent : OfEpoch epoch event) :
    OneEpoch epoch (s.step event) := by
  cases step_effect s event with
  | quiet hMarks hLog =>
      exact hOne.of_sameMarks hMarks
        (hLog.trans (List.append_nil _).symm)
  | prior _ _ _ _ hMarks hLog =>
      exact hOne.of_sameMarks hMarks hLog
  | adopted frame hFrame hPositive hKnown hNewer _ _ =>
      have hCurrent := hOne.current.resolve_left hKnown
      rw [hCurrent, hEvent frame hFrame hPositive] at hNewer
      exact absurd hNewer (lt_irrefl epoch)
  | first frame hFrame _ hPositive hVerdict =>
      have hFirst :
          OneEpoch epoch (s.firstEpoch frame.incomingEpoch) :=
        ⟨Or.inr (hEvent frame hFrame hPositive), hOne.routed⟩
      exact hFirst.verdict hVerdict
  | current _ _ _ hVerdict => exact hOne.verdict hVerdict
  | resumed _ _ hVerdict => exact hOne.verdict hVerdict

theorem oneEpoch_fresh (epoch : Rat) :
    OneEpoch epoch fresh where
  current := Or.inl rfl
  routed := by
    intro key mark hMark
    cases hMark

/- A number at most the own watermark has been reached. -/
theorem OneEpoch.dropsJustified
    {epoch : Rat}
    {s : EventStream}
    {event : Event}
    (hOne : OneEpoch epoch s)
    (hOwn : OwnWatermark s event) :
    DropsJustified s event := by
  intro frame hDrops
  rcases (drops_iff s event frame).mp hDrops with
    ⟨stage, hExamined, hRefuses⟩
  rcases hOwn frame stage hExamined hRefuses with
    ⟨seq, own, hNumber, hMark, hLe⟩
  exact ⟨seq, hNumber, own, hOne.routed _ own hMark, hLe⟩

/- A routed number is at most the own watermark. -/
theorem InOrder.ownWatermark
    {s : EventStream}
    {event : Event}
    (hOrder : InOrder 0 s)
    (hJustified : DropsJustified s event) :
    OwnWatermark s event := by
  intro frame stage hExamined hRefuses
  rcases hJustified frame
      ((drops_iff s event frame).mpr
        ⟨stage, hExamined, hRefuses⟩) with
    ⟨seq, hNumber, earlier, hEarlier, hLe⟩
  rcases hOrder.reached _ earlier hEarlier with
    ⟨own, hMark, hReached⟩
  exact ⟨seq, own, hNumber, hMark, le_trans hLe hReached⟩

/- The only epoch is never replaced by another. -/
theorem OneEpoch.lastObservedEpoch_step
    {epoch : Rat}
    {s : EventStream}
    {event : Event}
    (hOne : OneEpoch epoch s)
    (hEvent : OfEpoch epoch event)
    (hKnown : s.lastObservedEpoch ≠ 0) :
    (s.step event).lastObservedEpoch =
      s.lastObservedEpoch := by
  cases step_effect s event with
  | quiet hMarks _ => exact hMarks.lastObservedEpoch
  | prior _ _ _ _ hMarks _ => exact hMarks.lastObservedEpoch
  | adopted frame hFrame hPositive _ hNewer _ _ =>
      have hCurrent := hOne.current.resolve_left hKnown
      rw [hCurrent, hEvent frame hFrame hPositive] at hNewer
      exact absurd hNewer (lt_irrefl epoch)
  | first _ _ hUnknown _ _ => exact absurd hUnknown hKnown
  | current _ _ _ hVerdict => exact hVerdict.lastObservedEpoch
  | resumed _ _ hVerdict => exact hVerdict.lastObservedEpoch

/-
  Within an epoch no fresh frame is dropped in a run in which
  every number that fails the comparison is at most the
  watermark of its own account. Where the numbers begin with
  one, no other run will do.
-/
theorem dropsJustified_iff_ownWatermark
    (epoch : Rat)
    (events : List Event)
    (hEpoch : ∀ event ∈ events, OfEpoch epoch event) :
    (Along step OwnWatermark fresh events →
      Along step DropsJustified fresh events) ∧
    ((∀ event ∈ events, NumberedEvent event) →
      Along step DropsJustified fresh events →
        Along step OwnWatermark fresh events) := by
  have hOneStep :
      ∀ s event, OneEpoch epoch s → OfEpoch epoch event →
        OneEpoch epoch (s.step event) :=
    fun _ _ => oneEpoch_step
  constructor
  · intro hOwn
    refine Along.of_invariant
      (fun s event hOne hOk => hOneStep s event hOne hOk.1)
      ?_ (oneEpoch_fresh epoch)
      ((Along.of_forall fresh hEpoch).and hOwn)
    intro s event hOne hOk
    exact hOne.dropsJustified hOk.2
  · intro hNumbered hJustified
    have hStep :
        ∀ s event,
          (OneEpoch epoch s ∧ Counted s ∧ InOrder 0 s) →
            ((OfEpoch epoch event ∧ NumberedEvent event) ∧
              DropsJustified s event) →
              (OneEpoch epoch (s.step event) ∧
                Counted (s.step event) ∧
                InOrder 0 (s.step event)) := by
      rintro s event ⟨hOne, hCounted, hOrder⟩
        ⟨⟨hOf, hNumber⟩, _⟩
      refine ⟨oneEpoch_step hOne hOf,
        counted_step s event hCounted hNumber, ?_⟩
      exact (inOrder_step (hOne.lastObservedEpoch_step hOf)
        hCounted hOrder).1
    refine Along.of_invariant hStep ?_
      ⟨oneEpoch_fresh epoch, counted_fresh,
        inOrder_now fresh⟩
      (((Along.of_forall fresh hEpoch).and
        (Along.of_forall fresh hNumbered)).and hJustified)
    intro s event hInv hOk
    exact hInv.2.2.ownWatermark hOk.2

theorem ofEpoch_accountFrame
    (epoch : Rat)
    (key : String)
    (seq : Rat) :
    OfEpoch epoch (.frame (accountFrame epoch key seq)) := by
  intro frame hFrame _
  cases hFrame
  rfl

/- The same frame, twice. -/
def repeatedFrame : List Event :=
  [.frame (accountFrame 1 "a" 1),
   .frame (accountFrame 1 "a" 1)]

theorem repeated_frame_justified :
    Drops (fresh.step (.frame (accountFrame 1 "a" 1)))
      (.frame (accountFrame 1 "a" 1))
      (accountFrame 1 "a" 1) ∧
    Along step DropsJustified fresh repeatedFrame := by
  refine ⟨⟨.stale (accountFrame 1 "a" 1), Or.inl rfl,
    by decide +kernel⟩, ?_⟩
  apply (dropsJustified_iff_ownWatermark 1 repeatedFrame ?_).1
  · refine ⟨?_, ?_, trivial⟩
    · intro frame stage hExamined hRefuses
      cases hExamined
      rcases hRefuses with ⟨_, _, hKnown, _⟩
      exact absurd rfl hKnown
    · intro frame stage hExamined _
      have hSecond :
          (fresh.step
            (.frame (accountFrame 1 "a" 1))).examined
              (.frame (accountFrame 1 "a" 1)) =
            some (accountFrame 1 "a" 1, .epochChange) := by
        decide +kernel
      rw [hSecond] at hExamined
      cases hExamined
      exact ⟨1, 1, rfl, by decide +kernel, le_refl 1⟩
  · intro event hEvent
    simp only [repeatedFrame, List.mem_cons,
      List.not_mem_nil, or_false, or_self] at hEvent
    rw [hEvent]
    exact ofEpoch_accountFrame 1 "a" 1

/- The first frame of one account after some of another. -/
def secondAccount : List Event :=
  [.frame (accountFrame 1 "a" 5),
   .frame (accountFrame 1 "b" 3)]

/-
  The account that is behind has no watermark, so its first
  frame is dropped.
-/
theorem first_frame_dropped :
    (∀ event ∈ secondAccount, OfEpoch 1 event) ∧
    ¬ Along step DropsJustified fresh secondAccount := by
  constructor
  · intro event hEvent
    simp only [secondAccount, List.mem_cons,
      List.not_mem_nil, or_false] at hEvent
    rcases hEvent with rfl | rfl
    · exact ofEpoch_accountFrame 1 "a" 5
    · exact ofEpoch_accountFrame 1 "b" 3
  · rintro ⟨_, hSecond, _⟩
    rcases hSecond (accountFrame 1 "b" 3)
        ⟨.stale (accountFrame 1 "b" 3), Or.inl rfl,
          by decide +kernel⟩ with
      ⟨_, _, earlier, hEarlier, _⟩
    have hNone :
        (fresh.step (.frame (accountFrame 1 "a" 5))).routedSince
          "b" 0 = [] := by
      decide +kernel
    rw [show (accountFrame 1 "b" 3).accountKey = "b" from rfl,
      hNone] at hEarlier
    cases hEarlier

end EventStream

end ControlPlane
