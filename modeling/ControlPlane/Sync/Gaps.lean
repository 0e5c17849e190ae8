import ControlPlane.Sync.Drops
import ControlPlane.Sync.Epochs

/-
  Gaps in the sequence numbers.

  A handler that finds a gap waits for a snapshot. The
  snapshot reports no failure, and it may be one that had
  been asked for earlier, so a handler may go on although
  nothing has been applied since it found the gap.

  Main declarations:
    * `EventStream.Reconciled` and `EventStream.GapCovered`
    * `EventStream.SnapshotHeld` and `EventStream.Served`
    * `EventStream.gaps_covered_iff`
-/

------------------------------------------------------------
-- Answered Fetches
------------------------------------------------------------

namespace ControlPlane

namespace PullStage

/- The fetch of the accounts has been answered. -/
def pastAccounts : PullStage → Bool
| .automation => false
| .accounts => false
| .billing => true
| .catalogs => true
| .settled => true

/- The fetch of the billing state has been answered. -/
def pastBilling : PullStage → Bool
| .automation => false
| .accounts => false
| .billing => false
| .catalogs => true
| .settled => true

theorem pastAccounts_of_pastBilling
    {stage : PullStage}
    (hPast : stage.pastBilling = true) :
    stage.pastAccounts = true := by
  cases stage with
  | automation => cases hPast
  | accounts => cases hPast
  | billing => cases hPast
  | catalogs => rfl
  | settled => rfl

end PullStage

------------------------------------------------------------
-- Covered Gaps
------------------------------------------------------------

namespace EventStream

open ServerFrame (accountFrame)

/-
  Accounts and billing state have been applied since the
  handler began to wait.
-/
def Reconciled
    (s : EventStream)
    (call : Suspended) : Prop :=
  call.accountsSeen < s.accountsApplied ∧
    call.billingSeen < s.billingApplied

instance
    (s : EventStream)
    (call : Suspended) :
    Decidable (s.Reconciled call) :=
  inferInstanceAs (Decidable (_ ∧ _))

/-
  A watermark passes over numbers only by a handler that has
  waited for a snapshot, and one that has waited for none
  leaves no trace.
-/
def GapCovered
    (s : EventStream)
    (event : Event) : Prop :=
  (∀ key mark seq,
    s.accountSequences.get? key = some mark →
      (s.step event).accountSequences.get? key = some seq →
        mark + 1 < seq →
          ∃ call, s.resumed event = some call ∧
            call.frame.accountKey = key ∧
              s.Reconciled call) ∧
  ∀ call, s.resumed event = some call →
    ¬ s.Reconciled call →
      Untouched s call.frame (s.step event)

/-
  A handler goes on after a snapshot, or its number does not
  pass the comparison. The number zero, which stands for no
  watermark, is not one.
-/
def SnapshotHeld
    (s : EventStream)
    (event : Event) : Prop :=
  (∀ call, s.resumed event = some call →
    ¬ s.Reconciled call →
      s.Withholds call.frame call.reason) ∧
  ∀ frame seq,
    event = .frame frame →
      s.examined event = some (frame, .epochChange) →
        frame.sequenceNumber = some seq →
          s.accountSequences.get? frame.accountKey = some 0 →
            seq ≤ 1

/- How the checks of a frame move a watermark. -/
theorem get?_detectGap
    {frame : ServerFrame}
    {s : EventStream}
    {key : String}
    {mark seq : Rat}
    (hMark : s.accountSequences.get? key = some mark)
    (hNext :
      (s.detectGap frame).accountSequences.get? key =
        some seq)
    (hMoved : seq ≠ mark) :
    key = frame.accountKey ∧
      frame.sequenceNumber = some seq ∧
        (mark = 0 ∨ seq = mark + 1) := by
  have hStays :
      (s.detectGap frame).accountSequences =
          s.accountSequences → False := by
    intro hSame
    rw [hSame, hMark] at hNext
    exact hMoved (Option.some.inj hNext).symm
  have hAdvance :
      ∀ number,
        (s.detectGap frame).accountSequences =
          s.accountSequences.set frame.accountKey number →
            key = frame.accountKey ∧ number = seq := by
    intro number hSet
    rw [hSet, OrderedMap.get?_set] at hNext
    by_cases hKey : key = frame.accountKey
    · rw [if_pos hKey] at hNext
      exact ⟨hKey, Option.some.inj hNext⟩
    · rw [if_neg hKey, hMark] at hNext
      exact absurd (Option.some.inj hNext).symm hMoved
  unfold detectGap at hStays hAdvance
  cases hNumber : frame.sequenceNumber with
  | none =>
      rw [hNumber] at hStays
      exact (hStays rfl).elim
  | some number =>
      rw [hNumber] at hStays hAdvance
      dsimp only at hStays hAdvance
      split at hStays
      · rename_i hZero
        rw [if_pos hZero] at hAdvance
        rcases hAdvance number rfl with ⟨hKey, rfl⟩
        rw [← hKey, watermark_of_get? hMark] at hZero
        exact ⟨hKey, rfl, Or.inl hZero⟩
      · rename_i hKnown
        rw [if_neg hKnown] at hAdvance
        split at hStays
        · rename_i hOrder
          rw [if_pos hOrder] at hAdvance
          rcases hAdvance number rfl with ⟨hKey, rfl⟩
          rw [← hKey, watermark_of_get? hMark] at hOrder
          exact ⟨hKey, rfl, Or.inr hOrder⟩
        · split at hStays
          · exact (hStays
              (sameMarks_wait frame .gap s).accountSequences
              ).elim
          · exact (hStays rfl).elim

/- A frame that is compared runs through the gap detection. -/
theorem step_of_examined
    {s : EventStream}
    {frame : ServerFrame}
    {compared : ServerFrame × Reconciling}
    (hExamined : s.examined (.frame frame) = some compared) :
    s.step (.frame frame) = s.detectGap frame ∨
      s.step (.frame frame) =
        (s.firstEpoch frame.incomingEpoch).detectGap frame := by
  change s.handleServerEvent frame = _ ∨
    s.handleServerEvent frame = _
  unfold handleServerEvent
  unfold examined at hExamined
  dsimp only at hExamined
  split at hExamined
  · cases hExamined
  · rename_i hCurrent
    by_cases hPositive : 0 < frame.incomingEpoch
    · rw [if_pos hPositive]
      by_cases hUnknown : s.lastObservedEpoch = 0
      · rw [if_pos hUnknown]
        exact Or.inr rfl
      · have hSame :
            frame.incomingEpoch = s.lastObservedEpoch := by
          by_contra hOther
          exact hCurrent ⟨hPositive, hUnknown, hOther⟩
        rw [if_neg hUnknown, if_neg (by simp [hSame]),
          if_neg (by simp [hSame])]
        exact Or.inl rfl
    · rw [if_neg hPositive]
      exact Or.inl rfl

/- Another one moves no watermark. -/
theorem get?_of_unexamined
    {s : EventStream}
    {frame : ServerFrame}
    {key : String}
    {seq : Rat}
    (hExamined : s.examined (.frame frame) = none)
    (hNext :
      (s.step (.frame frame)).accountSequences.get? key =
        some seq) :
    s.accountSequences.get? key = some seq := by
  unfold examined at hExamined
  dsimp only at hExamined
  split at hExamined
  · rename_i hOther
    cases step_effect s (.frame frame) with
    | quiet hMarks _ =>
        rw [hMarks.accountSequences] at hNext
        exact hNext
    | prior _ _ _ _ hMarks _ =>
        rw [hMarks.accountSequences] at hNext
        exact hNext
    | adopted _ _ _ _ _ hMarks _ =>
        rw [hMarks.accountSequences] at hNext
        cases hNext
    | first _ _ hUnknown _ _ =>
        exact absurd hUnknown hOther.2.1
    | current arrived hEvent hCurrent _ =>
        cases hEvent
        exact absurd (hCurrent hOther.1) hOther.2.2
    | resumed _ hResumed _ => cases hResumed
  · cases hExamined

/- How a frame that arrives moves a watermark. -/
theorem get?_frame
    {s : EventStream}
    {frame : ServerFrame}
    {key : String}
    {mark seq : Rat}
    (hMark : s.accountSequences.get? key = some mark)
    (hNext :
      (s.step (.frame frame)).accountSequences.get? key =
        some seq)
    (hMoved : seq ≠ mark) :
    s.examined (.frame frame) = some (frame, .epochChange) ∧
      key = frame.accountKey ∧
        frame.sequenceNumber = some seq ∧
          (mark = 0 ∨ seq = mark + 1) := by
  cases hExamined : s.examined (.frame frame) with
  | none =>
      rw [get?_of_unexamined hExamined hNext] at hMark
      exact absurd (Option.some.inj hMark) hMoved
  | some compared =>
      have hCompared : compared = (frame, .epochChange) := by
        unfold examined at hExamined
        dsimp only at hExamined
        split at hExamined
        · cases hExamined
        · exact (Option.some.inj hExamined).symm
      rw [hCompared]
      refine ⟨rfl, ?_⟩
      rcases step_of_examined hExamined with hStep | hStep
      · rw [hStep] at hNext
        exact get?_detectGap hMark hNext hMoved
      · have hFirst :
            (s.firstEpoch
              frame.incomingEpoch).accountSequences.get? key =
                some mark := hMark
        rw [hStep] at hNext
        exact get?_detectGap hFirst hNext hMoved

/- How a handler that goes on moves a watermark. -/
theorem key_of_resumed
    {s : EventStream}
    {event : Event}
    {call : Suspended}
    {key : String}
    {mark seq : Rat}
    (hResumed : s.resumed event = some call)
    (hMark : s.accountSequences.get? key = some mark)
    (hNext :
      (s.step event).accountSequences.get? key = some seq)
    (hMoved : seq ≠ mark) :
    call.frame.accountKey = key := by
  have hStays :
      ¬ SameMarks s (s.step event) := by
    intro hSame
    rw [hSame.accountSequences, hMark] at hNext
    exact hMoved (Option.some.inj hNext).symm
  cases step_effect s event with
  | resumed other hOther hVerdict =>
      rw [hResumed] at hOther
      cases hOther
      cases hVerdict with
      | waits hMarks _ => exact absurd hMarks hStays
      | unnumbered _ hMarks _ => exact absurd hMarks hStays
      | dropped _ _ _ _ _ hMarks _ =>
          exact absurd hMarks hStays
      | accepted number _ _ hMarks _ =>
          rw [hMarks.accountSequences, get?_advance] at hNext
          by_contra hKey
          rw [if_neg (Ne.symm hKey), hMark] at hNext
          exact hMoved (Option.some.inj hNext).symm
  | quiet hMarks _ => exact absurd hMarks hStays
  | prior _ _ _ _ hMarks _ => exact absurd hMarks hStays
  | adopted _ hEvent _ _ _ _ _ =>
      rw [hEvent] at hResumed
      cases hResumed
  | first _ hEvent _ _ _ =>
      rw [hEvent] at hResumed
      cases hResumed
  | current _ hEvent _ _ =>
      rw [hEvent] at hResumed
      cases hResumed

/- The number zero is taken for no watermark. -/
theorem get?_of_zero
    {s : EventStream}
    {frame : ServerFrame}
    {compared : ServerFrame × Reconciling}
    {seq : Rat}
    (hExamined : s.examined (.frame frame) = some compared)
    (hNumber : frame.sequenceNumber = some seq)
    (hZero :
      s.accountSequences.get? frame.accountKey = some 0) :
    (s.step (.frame frame)).accountSequences.get?
      frame.accountKey = some seq := by
  have hDetect :
      ∀ t : EventStream,
        t.accountSequences.get? frame.accountKey = some 0 →
          (t.detectGap frame).accountSequences.get?
            frame.accountKey = some seq := by
    intro t hMark
    unfold detectGap
    rw [hNumber]
    dsimp only
    rw [if_pos (watermark_of_get? hMark)]
    exact OrderedMap.get?_set_self _ _ _
  rcases step_of_examined hExamined with hStep | hStep
  · rw [hStep]
    exact hDetect s hZero
  · rw [hStep]
    exact hDetect (s.firstEpoch frame.incomingEpoch) hZero

/- Only frames and handlers that go on move the marks. -/
theorem sameMarks_of_idle
    {s : EventStream}
    {event : Event}
    (hFrame : ∀ frame, event ≠ .frame frame)
    (hResumed : s.resumed event = none) :
    SameMarks s (s.step event) := by
  cases step_effect s event with
  | quiet hMarks _ => exact hMarks
  | prior frame hEvent _ _ _ _ =>
      exact absurd hEvent (hFrame frame)
  | adopted frame hEvent _ _ _ _ _ =>
      exact absurd hEvent (hFrame frame)
  | first frame hEvent _ _ _ =>
      exact absurd hEvent (hFrame frame)
  | current frame hEvent _ _ =>
      exact absurd hEvent (hFrame frame)
  | resumed call hOther _ =>
      rw [hResumed] at hOther
      cases hOther

theorem gapCovered_iff
    (s : EventStream)
    (event : Event) :
    s.GapCovered event ↔ s.SnapshotHeld event := by
  constructor
  · rintro ⟨hMoves, hUnserved⟩
    refine ⟨?_, ?_⟩
    · intro call hResumed hNot
      rw [← untouched_resume_iff hResumed]
      exact hUnserved call hResumed hNot
    · intro frame seq hEvent hExamined hNumber hZero
      by_contra hAbove
      subst hEvent
      rcases hMoves frame.accountKey 0 seq hZero
          (get?_of_zero hExamined hNumber hZero)
          (by simpa using hAbove) with
        ⟨call, hResumed, _⟩
      cases hResumed
  · rintro ⟨hUnserved, hZero⟩
    have hUntouched :
        ∀ call, s.resumed event = some call →
          ¬ s.Reconciled call →
            Untouched s call.frame (s.step event) := by
      intro call hResumed hNot
      rw [untouched_resume_iff hResumed]
      exact hUnserved call hResumed hNot
    refine ⟨?_, hUntouched⟩
    intro key mark seq hMark hNext hGap
    have hMoved : seq ≠ mark := by
      rintro rfl
      exact absurd hGap (by simp)
    cases hResumed : s.resumed event with
    | some call =>
        refine ⟨call, rfl,
          key_of_resumed hResumed hMark hNext hMoved, ?_⟩
        by_contra hNot
        have hSame := (hUntouched call hResumed hNot).marks
        rw [hSame.accountSequences, hMark] at hNext
        exact hMoved (Option.some.inj hNext).symm
    | none =>
        by_cases hFrame : ∃ frame, event = .frame frame
        · rcases hFrame with ⟨frame, rfl⟩
          rcases get?_frame hMark hNext hMoved with
            ⟨hExamined, rfl, hNumber, rfl | rfl⟩
          · have hOne :=
              hZero frame seq rfl hExamined hNumber hMark
            rw [zero_add] at hGap
            exact absurd hGap (not_lt_of_ge hOne)
          · exact absurd hGap (lt_irrefl _)
        · have hSame :=
            sameMarks_of_idle (not_exists.mp hFrame) hResumed
          rw [hSame.accountSequences, hMark] at hNext
          exact absurd (Option.some.inj hNext).symm hMoved

------------------------------------------------------------
-- Served Runs
------------------------------------------------------------

/- A frame that arrives has to wait. -/
def Waits
    (s : EventStream)
    (frame : ServerFrame) : Prop :=
  (0 < frame.incomingEpoch ∧ s.lastObservedEpoch ≠ 0 ∧
    s.lastObservedEpoch < frame.incomingEpoch) ∨
  (s.examined (.frame frame) = some (frame, .epochChange) ∧
    ∃ seq, frame.sequenceNumber = some seq ∧
      s.watermark frame.accountKey ≠ 0 ∧
        s.watermark frame.accountKey + 1 < seq)

/- The snapshot that a frame would join is early enough. -/
def JoinsEarly (s : EventStream) : Prop :=
  ∀ index pull,
    s.reconcilingPromise = some index →
      s.pulls[index]? = some pull →
        pull.stage.pastAccounts = false

/-
  The backend serves the handlers that wait: the snapshot
  that a frame joins has still to fetch the accounts, and
  the fetches that a handler needs are applied.
-/
def Served
    (s : EventStream) : Event → Prop
| .frame frame =>
    (s.Waits frame → s.JoinsEarly) ∧
    ∀ seq,
      s.examined (.frame frame) = some (frame, .epochChange) →
        frame.sequenceNumber = some seq →
          s.accountSequences.get? frame.accountKey = some 0 →
            seq ≤ 1
| .answer index answer =>
    ∀ call ∈ s.suspended, call.pull = index →
      ∀ pull, s.pulls[index]? = some pull →
        (pull.stage = .accounts →
          s.accountsApplied = call.accountsSeen →
            answer = .applied) ∧
        (pull.stage = .billing →
          s.billingApplied = call.billingSeen →
            answer = .applied)
| _ => True

/- How far the snapshot of a handler has come. -/
structure Underway
    (s : EventStream)
    (call : Suspended)
    (pull : Pull) : Prop where
  accountsSeen : call.accountsSeen ≤ s.accountsApplied
  billingSeen : call.billingSeen ≤ s.billingApplied
  accounts :
    pull.stage.pastAccounts = true →
      call.accountsSeen < s.accountsApplied
  billing :
    pull.stage.pastBilling = true →
      call.billingSeen < s.billingApplied

/- The snapshot of a handler, with how far it has come. -/
def Attends
    (s : EventStream)
    (call : Suspended) : Prop :=
  ∃ pull, s.pulls[call.pull]? = some pull ∧
    s.Underway call pull

/- Every handler that waits has its snapshot. -/
structure Attended (s : EventStream) : Prop where
  suspended : ∀ call ∈ s.suspended, s.Attends call
  promise :
    ∀ index, s.reconcilingPromise = some index →
      index < s.pulls.length

theorem Attends.of_pulls
    {s next : EventStream}
    {call : Suspended}
    (hAttends : s.Attends call)
    (hPulls :
      ∀ (index : Nat) (pull : Pull),
        s.pulls[index]? = some pull →
          next.pulls[index]? = some pull)
    (hAccounts : next.accountsApplied = s.accountsApplied)
    (hBilling : next.billingApplied = s.billingApplied) :
    next.Attends call := by
  rcases hAttends with ⟨pull, hPull, hUnderway⟩
  refine ⟨pull, hPulls call.pull pull hPull, ?_⟩
  constructor
  · rw [hAccounts]
    exact hUnderway.accountsSeen
  · rw [hBilling]
    exact hUnderway.billingSeen
  · rw [hAccounts]
    exact hUnderway.accounts
  · rw [hBilling]
    exact hUnderway.billing

/- The handlers that wait and their snapshots stay. -/
structure SameQueue (s next : EventStream) : Prop where
  suspended : next.suspended = s.suspended
  pulls : next.pulls = s.pulls
  promise : next.reconcilingPromise = s.reconcilingPromise
  accountsApplied : next.accountsApplied = s.accountsApplied
  billingApplied : next.billingApplied = s.billingApplied

theorem Attended.of_sameQueue
    {s next : EventStream}
    (hAttended : Attended s)
    (hSame : SameQueue s next) :
    Attended next where
  suspended := by
    intro call hCall
    rw [hSame.suspended] at hCall
    apply (hAttended.suspended call hCall).of_pulls
    · rw [hSame.pulls]
      exact fun _ _ hPull => hPull
    · exact hSame.accountsApplied
    · exact hSame.billingApplied
  promise := by
    rw [hSame.promise, hSame.pulls]
    exact hAttended.promise

theorem getElem?_append_of_some
    {pulls : List Pull}
    {index : Nat}
    {pull : Pull}
    (hPull : pulls[index]? = some pull) :
    (pulls ++ [Pull.start])[index]? = some pull := by
  rw [List.getElem?_append_left]
  · exact hPull
  · exact (List.getElem?_eq_some_iff.mp hPull).1

/- A handler joins a snapshot that has yet to bring all. -/
theorem Attended.wait
    {s : EventStream}
    (hAttended : Attended s)
    (hJoins : s.JoinsEarly)
    (frame : ServerFrame)
    (reason : Reconciling) :
    Attended (s.wait frame reason) := by
  unfold EventStream.wait reconcilingPull
  cases hPromise : s.reconcilingPromise with
  | some index =>
      have hBound := hAttended.promise index hPromise
      have hPull :
          s.pulls[index]? = some s.pulls[index] :=
        List.getElem?_eq_getElem hBound
      have hEarly := hJoins index _ hPromise hPull
      refine ⟨?_, ?_⟩
      · intro call hCall
        rcases List.mem_append.mp hCall with hOld | hNew
        · exact (hAttended.suspended call hOld).of_pulls
            (fun _ _ hKept => hKept) rfl rfl
        · rw [List.mem_singleton.mp hNew]
          refine ⟨s.pulls[index], hPull, Nat.le_refl _,
            Nat.le_refl _, ?_, ?_⟩
          · intro hPast
            rw [hEarly] at hPast
            cases hPast
          · intro hPast
            rw [PullStage.pastAccounts_of_pastBilling hPast]
              at hEarly
            cases hEarly
      · exact hAttended.promise
  | none =>
      refine ⟨?_, ?_⟩
      · intro call hCall
        rcases List.mem_append.mp hCall with hOld | hNew
        · exact (hAttended.suspended call hOld).of_pulls
            (fun _ _ => getElem?_append_of_some) rfl rfl
        · rw [List.mem_singleton.mp hNew]
          refine ⟨Pull.start, ?_, Nat.le_refl _,
            Nat.le_refl _, ?_, ?_⟩
          · simp
          · intro hPast
            cases hPast
          · intro hPast
            cases hPast
      · intro index hIndex
        cases hIndex
        simp

theorem detectGap_queue
    (frame : ServerFrame)
    (s : EventStream) :
    SameQueue s (s.detectGap frame) ∨
      ((∃ seq, frame.sequenceNumber = some seq ∧
        s.watermark frame.accountKey ≠ 0 ∧
          s.watermark frame.accountKey + 1 < seq) ∧
        s.detectGap frame = s.wait frame .gap) := by
  unfold detectGap
  cases hNumber : frame.sequenceNumber with
  | none => exact Or.inl ⟨rfl, rfl, rfl, rfl, rfl⟩
  | some seq =>
      dsimp only
      split
      · exact Or.inl ⟨rfl, rfl, rfl, rfl, rfl⟩
      · rename_i hKnown
        split
        · exact Or.inl ⟨rfl, rfl, rfl, rfl, rfl⟩
        · split
          · rename_i hGap
            exact Or.inr ⟨⟨seq, rfl, hKnown, hGap⟩, rfl⟩
          · exact Or.inl ⟨rfl, rfl, rfl, rfl, rfl⟩

theorem leaveGap_queue
    (frame : ServerFrame)
    (s : EventStream) :
    SameQueue s (s.leaveGap frame) := by
  unfold leaveGap
  split
  · exact ⟨rfl, rfl, rfl, rfl, rfl⟩
  · split
    · exact ⟨rfl, rfl, rfl, rfl, rfl⟩
    · exact ⟨rfl, rfl, rfl, rfl, rfl⟩

theorem Attended.detectGap
    {s : EventStream}
    {frame : ServerFrame}
    (hAttended : Attended s)
    (hJoins :
      (∃ seq, frame.sequenceNumber = some seq ∧
        s.watermark frame.accountKey ≠ 0 ∧
          s.watermark frame.accountKey + 1 < seq) →
        s.JoinsEarly) :
    Attended (s.detectGap frame) := by
  rcases detectGap_queue frame s with hSame | ⟨hGap, hWait⟩
  · exact hAttended.of_sameQueue hSame
  · rw [hWait]
    exact hAttended.wait (hJoins hGap) frame .gap

theorem Attended.frame
    {s : EventStream}
    {frame : ServerFrame}
    (hAttended : Attended s)
    (hServed : s.Served (.frame frame)) :
    Attended (s.step (.frame frame)) := by
  change Attended (s.handleServerEvent frame)
  unfold handleServerEvent
  split
  · rename_i hPositive
    split
    · rename_i hUnknown
      have hFirst :
          Attended (s.firstEpoch frame.incomingEpoch) :=
        hAttended.of_sameQueue ⟨rfl, rfl, rfl, rfl, rfl⟩
      apply hFirst.detectGap
      intro hGap
      refine hServed.1 (Or.inr ⟨if_neg ?_, hGap⟩)
      exact fun hOther => hOther.2.1 hUnknown
    · rename_i hKnown
      split
      · rename_i hNewer
        have hAdopted :
            Attended (s.adoptEpoch frame.incomingEpoch) :=
          hAttended.of_sameQueue ⟨rfl, rfl, rfl, rfl, rfl⟩
        exact hAdopted.wait
          (hServed.1 (Or.inl ⟨hPositive, hKnown, hNewer⟩))
          frame .epochChange
      · rename_i hNotNewer
        split
        · exact hAttended.of_sameQueue
            ⟨rfl, rfl, rfl, rfl, rfl⟩
        · rename_i hNotOlder
          apply hAttended.detectGap
          intro hGap
          refine hServed.1 (Or.inr ⟨if_neg ?_, hGap⟩)
          exact fun hOther => hOther.2.2
            (le_antisymm (le_of_not_gt hNotNewer)
              (le_of_not_gt hNotOlder))
  · rename_i hNone
    apply hAttended.detectGap
    intro hGap
    refine hServed.1 (Or.inr ⟨if_neg ?_, hGap⟩)
    exact fun hOther => hNone hOther.1

/- A handler that goes on shares no snapshot. -/
theorem Attended.resume
    {s : EventStream}
    {index : Nat}
    (hAttended : Attended s) :
    Attended (s.step (.resume index)) := by
  unfold step
  dsimp only
  cases hResumed : s.resumed (.resume index) with
  | none => exact hAttended
  | some call =>
      have hWoken : Attended (s.wake index).dropPromise := by
        refine ⟨?_, ?_⟩
        · intro other hOther
          have hBefore : other ∈ s.suspended :=
            List.mem_of_mem_eraseIdx hOther
          exact (hAttended.suspended other hBefore).of_pulls
            (fun _ _ hPull => hPull) rfl rfl
        · intro promise hPromise
          cases hPromise
      unfold goOn
      dsimp only
      cases call.reason with
      | epochChange =>
          apply hWoken.detectGap
          intro _ promise pull hPromise
          cases hPromise
      | gap =>
          exact hWoken.of_sameQueue
            (leaveGap_queue call.frame _)

/- More has been applied for every handler. -/
theorem Underway.of_le
    {s next : EventStream}
    {call : Suspended}
    {pull : Pull}
    (hUnderway : s.Underway call pull)
    (hAccounts : s.accountsApplied ≤ next.accountsApplied)
    (hBilling : s.billingApplied ≤ next.billingApplied) :
    next.Underway call pull where
  accountsSeen := Nat.le_trans hUnderway.accountsSeen hAccounts
  billingSeen := Nat.le_trans hUnderway.billingSeen hBilling
  accounts := by
    intro hPast
    exact Nat.lt_of_lt_of_le (hUnderway.accounts hPast)
      hAccounts
  billing := by
    intro hPast
    exact Nat.lt_of_lt_of_le (hUnderway.billing hPast)
      hBilling

theorem applied_le_answerFetch
    (s : EventStream)
    (index : Nat)
    (answer : FetchAnswer) :
    s.accountsApplied ≤
        (s.answerFetch index answer).accountsApplied ∧
      s.billingApplied ≤
        (s.answerFetch index answer).billingApplied := by
  unfold answerFetch
  split
  · exact ⟨Nat.le_refl _, Nat.le_refl _⟩
  · dsimp only
    constructor
    · split <;> omega
    · split <;> omega

/- The answer that a handler waits for. -/
theorem Underway.answer
    {s : EventStream}
    {index : Nat}
    {call : Suspended}
    {pull : Pull}
    {answer : FetchAnswer}
    (hUnderway : s.Underway call pull)
    (hPull : s.pulls[index]? = some pull)
    (hAccounts :
      pull.stage = .accounts →
        s.accountsApplied = call.accountsSeen →
          answer = .applied)
    (hBilling :
      pull.stage = .billing →
        s.billingApplied = call.billingSeen →
          answer = .applied) :
    (s.answerFetch index answer).Underway call
      (pull.answer answer) := by
  have hLe := applied_le_answerFetch s index answer
  have hGrown := hUnderway.of_le hLe.1 hLe.2
  refine ⟨hGrown.accountsSeen, hGrown.billingSeen, ?_, ?_⟩
  · intro hPast
    cases hStage : pull.stage with
    | automation =>
        simp [Pull.answer, hStage,
          PullStage.pastAccounts] at hPast
    | accounts =>
        by_cases hApplied : answer = .applied
        · have hSeen := hUnderway.accountsSeen
          simp only [answerFetch, hPull, hApplied, hStage,
            true_and, or_true, if_true]
          omega
        · have hSeen := hUnderway.accountsSeen
          have hMore : s.accountsApplied ≠ call.accountsSeen :=
            fun hSame => hApplied (hAccounts hStage hSame)
          omega
    | billing =>
        exact hGrown.accounts (by rw [hStage]; rfl)
    | catalogs =>
        exact hGrown.accounts (by rw [hStage]; rfl)
    | settled =>
        exact hGrown.accounts (by rw [hStage]; rfl)
  · intro hPast
    cases hStage : pull.stage with
    | automation =>
        simp [Pull.answer, hStage,
          PullStage.pastBilling] at hPast
    | accounts =>
        simp [Pull.answer, hStage,
          PullStage.pastBilling] at hPast
    | billing =>
        by_cases hApplied : answer = .applied
        · have hSeen := hUnderway.billingSeen
          simp only [answerFetch, hPull, hApplied, hStage,
            true_and, if_true]
          omega
        · have hSeen := hUnderway.billingSeen
          have hMore : s.billingApplied ≠ call.billingSeen :=
            fun hSame => hApplied (hBilling hStage hSame)
          omega
    | catalogs =>
        exact hGrown.billing (by rw [hStage]; rfl)
    | settled =>
        exact hGrown.billing (by rw [hStage]; rfl)

theorem pulls_answerFetch
    {s : EventStream}
    {index : Nat}
    {pull : Pull}
    (hPull : s.pulls[index]? = some pull)
    (answer : FetchAnswer) :
    (s.answerFetch index answer).pulls =
      s.pulls.set index (pull.answer answer) := by
  unfold answerFetch
  rw [hPull]

theorem suspended_answerFetch
    (s : EventStream)
    (index : Nat)
    (answer : FetchAnswer) :
    (s.answerFetch index answer).suspended = s.suspended ∧
      (s.answerFetch index answer).reconcilingPromise =
        s.reconcilingPromise := by
  unfold answerFetch
  split
  · exact ⟨rfl, rfl⟩
  · exact ⟨rfl, rfl⟩

theorem Attended.answer
    {s : EventStream}
    {index : Nat}
    {answer : FetchAnswer}
    (hAttended : Attended s)
    (hServed : s.Served (.answer index answer)) :
    Attended (s.step (.answer index answer)) := by
  change Attended (s.answerFetch index answer)
  have hKept := suspended_answerFetch s index answer
  have hLe := applied_le_answerFetch s index answer
  cases hPull : s.pulls[index]? with
  | none =>
      have hSame : s.answerFetch index answer = s := by
        unfold answerFetch
        rw [hPull]
      rw [hSame]
      exact hAttended
  | some pull =>
      have hPulls := pulls_answerFetch hPull answer
      refine ⟨?_, ?_⟩
      · intro call hCall
        rw [hKept.1] at hCall
        rcases hAttended.suspended call hCall with
          ⟨own, hOwn, hUnderway⟩
        unfold Attends
        rw [hPulls]
        by_cases hIndex : call.pull = index
        · rw [hIndex, hPull] at hOwn
          cases hOwn
          have hNeeds := hServed call hCall hIndex pull hPull
          refine ⟨pull.answer answer, ?_,
            hUnderway.answer hPull hNeeds.1 hNeeds.2⟩
          rw [hIndex, List.getElem?_set_self]
          exact (List.getElem?_eq_some_iff.mp hPull).1
        · refine ⟨own, ?_, hUnderway.of_le hLe.1 hLe.2⟩
          rw [List.getElem?_set_ne (Ne.symm hIndex)]
          exact hOwn
      · rw [hKept.2, hPulls, List.length_set]
        exact hAttended.promise

theorem attended_step
    (s : EventStream)
    (event : Event)
    (hAttended : Attended s)
    (hServed : s.Served event) :
    Attended (s.step event) := by
  cases event with
  | frame frame => exact hAttended.frame hServed
  | pull =>
      refine ⟨?_, ?_⟩
      · intro call hCall
        exact (hAttended.suspended call hCall).of_pulls
          (fun _ _ => getElem?_append_of_some) rfl rfl
      · intro index hPromise
        have hBound := hAttended.promise index hPromise
        change index < (s.pulls ++ [Pull.start]).length
        rw [List.length_append]
        omega
  | answer index answer => exact hAttended.answer hServed
  | resume index => exact hAttended.resume

theorem attended_fresh : Attended fresh := by
  refine ⟨?_, ?_⟩
  · intro call hCall
    cases hCall
  · intro index hPromise
    cases hPromise

theorem ready_of_resumed
    {s : EventStream}
    {event : Event}
    {call : Suspended}
    (hResumed : s.resumed event = some call) :
    s.ready call = true := by
  cases event with
  | resume index =>
      exact (Option.filter_eq_some_iff.mp hResumed).2
  | _ => cases hResumed

/- A handler that goes on has been served. -/
theorem Attended.snapshotHeld
    {s : EventStream}
    {event : Event}
    (hAttended : Attended s)
    (hServed : s.Served event) :
    s.SnapshotHeld event := by
  refine ⟨?_, ?_⟩
  · intro call hResumed hNot
    exfalso
    apply hNot
    rcases hAttended.suspended call
        (mem_of_resumed hResumed) with
      ⟨pull, hPull, hUnderway⟩
    have hReady := ready_of_resumed hResumed
    have hSettled : pull.stage = .settled := by
      simpa [ready, hPull] using hReady
    refine ⟨hUnderway.accounts ?_, hUnderway.billing ?_⟩
    · rw [hSettled]
      rfl
    · rw [hSettled]
      rfl
  · intro frame seq hEvent hExamined hNumber hZero
    subst hEvent
    exact hServed.2 seq hExamined hNumber hZero

/-
  No gap is skipped in exactly the runs in which a handler
  goes on only after accounts and billing state have been
  applied, or fails the comparison of the numbers. A backend
  that serves the handlers that wait brings this about.
-/
theorem gaps_covered_iff
    (events : List Event) :
    (Along step GapCovered fresh events ↔
      Along step SnapshotHeld fresh events) ∧
    (Along step Served fresh events →
      Along step GapCovered fresh events) := by
  refine ⟨⟨?_, ?_⟩, ?_⟩
  · exact Along.mono
      (fun s event => (gapCovered_iff s event).mp)
  · exact Along.mono
      (fun s event => (gapCovered_iff s event).mpr)
  · intro hServed
    refine Along.of_invariant attended_step ?_
      attended_fresh hServed
    intro s event hAttended hOk
    rw [gapCovered_iff]
    exact hAttended.snapshotHeld hOk

/- A gap whose snapshot is answered in one way. -/
def gapThenAnswers (answer : FetchAnswer) : List Event :=
  [.frame (accountFrame 1 "a" 1),
   .frame (accountFrame 1 "a" 5),
   .answer 0 answer, .answer 0 answer,
   .answer 0 answer, .answer 0 answer]

theorem served_gap_covered :
    (run step fresh
      (gapThenAnswers .applied ++
        [.resume 0])).accountSequences.get? "a" = some 5 ∧
    Along step GapCovered fresh
      (gapThenAnswers .applied ++ [.resume 0]) := by
  refine ⟨by decide +kernel, ?_⟩
  apply (gaps_covered_iff _).2
  refine ⟨⟨?_, ?_⟩, ⟨?_, ?_⟩, ?_, ?_, ?_, ?_, trivial,
    trivial⟩
  · intro _ index pull hPromise
    cases hPromise
  · intro seq _ _ hZero
    cases hZero
  · intro _ index pull hPromise
    cases hPromise
  · intro seq _ _ hZero
    have hOne :
        (fresh.step (.frame (accountFrame 1 "a" 1))
          ).accountSequences.get? "a" = some 1 := by
      decide +kernel
    rw [show (accountFrame 1 "a" 5).accountKey = "a" from rfl,
      hOne] at hZero
    cases hZero
  · intro _ _ _ _ _
    exact ⟨fun _ _ => rfl, fun _ _ => rfl⟩
  · intro _ _ _ _ _
    exact ⟨fun _ _ => rfl, fun _ _ => rfl⟩
  · intro _ _ _ _ _
    exact ⟨fun _ _ => rfl, fun _ _ => rfl⟩
  · intro _ _ _ _ _
    exact ⟨fun _ _ => rfl, fun _ _ => rfl⟩

/-
  All fetches fail, and the handler takes the number that
  follows the gap all the same.
-/
theorem failed_snapshot_skips_gap :
    (run step fresh
      (gapThenAnswers .failed ++
        [.resume 0])).accountSequences.get? "a" = some 5 ∧
    ¬ Along step GapCovered fresh
      (gapThenAnswers .failed ++ [.resume 0]) := by
  refine ⟨by decide +kernel, ?_⟩
  rw [along_append]
  rintro ⟨_, ⟨hMoves, _⟩, _⟩
  rcases hMoves "a" 1 5 (by decide +kernel)
      (by decide +kernel) (by decide +kernel) with
    ⟨call, hResumed, _, hReconciled, _⟩
  have hSeen :
      (run step fresh
        (gapThenAnswers .failed)).accountsApplied = 0 := by
    decide +kernel
  rw [hSeen] at hReconciled
  exact absurd hReconciled (Nat.not_lt_zero _)

end EventStream

end ControlPlane
