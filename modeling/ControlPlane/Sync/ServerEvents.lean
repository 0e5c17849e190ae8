import Mathlib.Algebra.Order.Ring.Rat
import ControlPlane.Data.OrderedMap
import ControlPlane.Data.Run
import ControlPlane.Boundary.Protocol

/-
  The event stream of the backend.

  A frame runs through its handler up to a point at which
  the handler waits for a snapshot, and goes on from there
  when the promise of the snapshot has settled. Frames that
  wait share one promise. The snapshot handles the errors of
  its fetches, so its promise never rejects.

  A number is a rational one. What the handler tells its log
  about a frame is kept, and so is the number of snapshots
  that have been applied.

  Main declarations:
    * `ServerFrame` and `Pull`
    * `EventStream` and `EventStream.step`
    * `EventStream.Effect` and `EventStream.step_effect`
-/

------------------------------------------------------------
-- Frames
------------------------------------------------------------

namespace ControlPlane

/-
  The fields of a frame that the handler reads. An epoch or
  sequence number of another type than a number is missing.
-/
structure ServerFrame where
  server_epoch : Option Rat := none
  epoch : Option Rat := none
  sequenceNumber : Option Rat := none
  accountId : Option String := none
  id : Option String := none
deriving DecidableEq

namespace ServerFrame

/- `Number(event.server_epoch ?? event.epoch ?? 0)` -/
def incomingEpoch (frame : ServerFrame) : Rat :=
  (frame.server_epoch.or frame.epoch).getD 0

/- `payload.accountId || payload.id || 'global'` -/
def accountKey (frame : ServerFrame) : String :=
  presentOr frame.accountId (presentOr frame.id "global")

/- A frame of an account in an epoch. -/
def accountFrame
    (epoch : Rat)
    (key : String)
    (seq : Rat) : ServerFrame where
  server_epoch := some epoch
  sequenceNumber := some seq
  accountId := some key

end ServerFrame

------------------------------------------------------------
-- Snapshots
------------------------------------------------------------

/-
  A fetch is applied, or it fails: it is rejected, empty, or
  throws while it is applied.
-/
inductive FetchAnswer where
| applied | failed
deriving DecidableEq, Repr

/- The fetch that a snapshot waits for. -/
inductive PullStage where
| automation | accounts | billing | catalogs | settled
deriving DecidableEq, Repr

/- A snapshot that is being pulled. -/
structure Pull where
  stage : PullStage
  automationApplied : Bool
deriving DecidableEq, Repr

namespace Pull

/- The first fetch is sent when the snapshot is asked for. -/
def start : Pull where
  stage := .automation
  automationApplied := false

/- A failed fetch is logged and the next one is sent. -/
def answer
    (pull : Pull)
    (answer : FetchAnswer) : Pull :=
  match pull.stage with
  | .automation =>
      { stage := .accounts
        automationApplied := decide (answer = .applied) }
  | .accounts => { pull with stage := .billing }
  | .billing => { pull with stage := .catalogs }
  | .catalogs => { pull with stage := .settled }
  | .settled => pull

end Pull

------------------------------------------------------------
-- The Handler
------------------------------------------------------------

/- What the handler waits for. -/
inductive Reconciling where
| epochChange | gap
deriving DecidableEq, Repr

/-
  A frame whose handler waits for a snapshot, with what had
  been applied when it began to wait.
-/
structure Suspended where
  frame : ServerFrame
  reason : Reconciling
  pull : Nat
  accountsSeen : Nat
  billingSeen : Nat

/- What the handler did with a frame. -/
inductive FrameLog where
| priorEpoch (frame : ServerFrame)
| stale (frame : ServerFrame)
| superseded (frame : ServerFrame)
| routed (frame : ServerFrame)
deriving DecidableEq

structure EventStream where
  lastObservedEpoch : Rat
  lastObservedSequence : Rat
  accountSequences : OrderedMap String Rat
  reconcilingPromise : Option Nat
  pulls : List Pull
  suspended : List Suspended
  log : List FrameLog
  accountsApplied : Nat
  billingApplied : Nat

namespace EventStream

def fresh : EventStream where
  lastObservedEpoch := 0
  lastObservedSequence := 0
  accountSequences := OrderedMap.empty
  reconcilingPromise := none
  pulls := []
  suspended := []
  log := []
  accountsApplied := 0
  billingApplied := 0

/- `accountSequences.get(key) ?? lastObservedSequence` -/
def watermark
    (key : String)
    (s : EventStream) : Rat :=
  (s.accountSequences.get? key).getD s.lastObservedSequence

def note
    (entry : FrameLog)
    (s : EventStream) : EventStream :=
  { s with log := s.log ++ [entry] }

/- Take the sequence number of an account. -/
def advance
    (key : String)
    (seq : Rat)
    (s : EventStream) : EventStream :=
  { s with
      accountSequences := s.accountSequences.set key seq
      lastObservedSequence := max s.lastObservedSequence seq }

/- Ask for a snapshot, unless one is being waited for. -/
def reconcilingPull (s : EventStream) : EventStream :=
  match s.reconcilingPromise with
  | some _ => s
  | none =>
      { s with
          reconcilingPromise := some s.pulls.length
          pulls := s.pulls ++ [Pull.start] }

/- Wait for the snapshot. -/
def wait
    (frame : ServerFrame)
    (reason : Reconciling)
    (s : EventStream) : EventStream :=
  { s.reconcilingPull with
      suspended :=
        s.suspended ++
          [{ frame := frame
             reason := reason
             pull :=
               s.reconcilingPromise.getD s.pulls.length
             accountsSeen := s.accountsApplied
             billingSeen := s.billingApplied }] }

/- The gap detection. -/
def detectGap
    (frame : ServerFrame)
    (s : EventStream) : EventStream :=
  match frame.sequenceNumber with
  | none => s.note (.routed frame)
  | some seq =>
      let lastSeq := s.watermark frame.accountKey
      if lastSeq = 0 then
        (s.advance frame.accountKey seq).note (.routed frame)
      else if seq = lastSeq + 1 then
        (s.advance frame.accountKey seq).note (.routed frame)
      else if lastSeq + 1 < seq then
        s.wait frame .gap
      else
        s.note (.stale frame)

/- The rest of the gap detection, after the snapshot. -/
def leaveGap
    (frame : ServerFrame)
    (s : EventStream) : EventStream :=
  match frame.sequenceNumber with
  | none => s.note (.routed frame)
  | some seq =>
      if seq ≤ s.watermark frame.accountKey then
        s.note (.superseded frame)
      else
        (s.advance frame.accountKey seq).note (.routed frame)

/- A new epoch forgets the sequence numbers of the old one. -/
def adoptEpoch
    (epoch : Rat)
    (s : EventStream) : EventStream :=
  { s with
      accountSequences := OrderedMap.empty
      lastObservedSequence := 0
      lastObservedEpoch := epoch }

def handleServerEvent
    (frame : ServerFrame)
    (s : EventStream) : EventStream :=
  if 0 < frame.incomingEpoch then
    if s.lastObservedEpoch = 0 then
      detectGap frame
        { s with lastObservedEpoch := frame.incomingEpoch }
    else if s.lastObservedEpoch < frame.incomingEpoch then
      (s.adoptEpoch frame.incomingEpoch).wait frame
        .epochChange
    else if frame.incomingEpoch < s.lastObservedEpoch then
      s.note (.priorEpoch frame)
    else
      detectGap frame s
  else
    detectGap frame s

/- The promise is dropped, whichever it is. -/
def dropPromise (s : EventStream) : EventStream :=
  { s with reconcilingPromise := none }

/- A handler goes on with the rest of the checks. -/
def goOn
    (call : Suspended)
    (s : EventStream) : EventStream :=
  match call.reason with
  | .epochChange => s.dropPromise.detectGap call.frame
  | .gap => s.dropPromise.leaveGap call.frame

/- A handler no longer waits. -/
def wake
    (index : Nat)
    (s : EventStream) : EventStream :=
  { s with suspended := s.suspended.eraseIdx index }

/- The promise that a handler waits for has settled. -/
def ready
    (call : Suspended)
    (s : EventStream) : Bool :=
  (s.pulls[call.pull]?.map Pull.stage) = some .settled

/- A fetch of a snapshot is answered. -/
def answerFetch
    (index : Nat)
    (answer : FetchAnswer)
    (s : EventStream) : EventStream :=
  match s.pulls[index]? with
  | none => s
  | some pull =>
      { s with
          pulls := s.pulls.set index (pull.answer answer)
          accountsApplied :=
            if answer = .applied ∧
                (pull.stage = .automation ∨
                  pull.stage = .accounts) then
              s.accountsApplied + 1
            else
              s.accountsApplied
          billingApplied :=
            if answer = .applied ∧ pull.stage = .billing then
              s.billingApplied + 1
            else
              s.billingApplied }

/-
  What can happen: a frame arrives, a login or a command
  pulls a snapshot, a fetch is answered, a handler whose
  promise has settled goes on.
-/
inductive Event where
| frame (frame : ServerFrame)
| pull
| answer (index : Nat) (answer : FetchAnswer)
| resume (index : Nat)

/- The handler that an event lets go on. -/
def resumed
    (s : EventStream) : Event → Option Suspended
| .resume index =>
    (s.suspended[index]?).filter (fun call => s.ready call)
| _ => none

def step
    (s : EventStream)
    (event : Event) : EventStream :=
  match event with
  | .frame frame => s.handleServerEvent frame
  | .pull => { s with pulls := s.pulls ++ [Pull.start] }
  | .answer index answer => s.answerFetch index answer
  | .resume index =>
      match s.resumed event with
      | some call => (s.wake index).goOn call
      | none => s

end EventStream

------------------------------------------------------------
-- What A Frame Does
------------------------------------------------------------

namespace EventStream

/-
  The epoch, the sequence numbers and the log, which is what
  the checks of a frame read and write.
-/
structure SameMarks (s next : EventStream) : Prop where
  lastObservedEpoch :
    next.lastObservedEpoch = s.lastObservedEpoch
  lastObservedSequence :
    next.lastObservedSequence = s.lastObservedSequence
  accountSequences :
    next.accountSequences = s.accountSequences

namespace SameMarks

theorem refl (s : EventStream) : SameMarks s s :=
  ⟨rfl, rfl, rfl⟩

theorem symm
    {s next : EventStream}
    (hSame : SameMarks s next) :
    SameMarks next s :=
  ⟨hSame.lastObservedEpoch.symm,
    hSame.lastObservedSequence.symm,
    hSame.accountSequences.symm⟩

theorem trans
    {s mid next : EventStream}
    (hFirst : SameMarks s mid)
    (hSecond : SameMarks mid next) :
    SameMarks s next where
  lastObservedEpoch :=
    hSecond.lastObservedEpoch.trans hFirst.lastObservedEpoch
  lastObservedSequence :=
    hSecond.lastObservedSequence.trans
      hFirst.lastObservedSequence
  accountSequences :=
    hSecond.accountSequences.trans hFirst.accountSequences

theorem watermark
    {s next : EventStream}
    (hSame : SameMarks s next)
    (key : String) :
    next.watermark key = s.watermark key := by
  unfold EventStream.watermark
  rw [hSame.accountSequences, hSame.lastObservedSequence]

end SameMarks

/-
  The outcome of the checks of a frame: it waits, is routed
  without a number, is dropped, or takes its number.
-/
inductive Verdict
    (s : EventStream)
    (frame : ServerFrame)
    (next : EventStream) : Prop
| waits
    (hMarks : SameMarks s next)
    (hLog : next.log = s.log)
| unnumbered
    (hNumber : frame.sequenceNumber = none)
    (hMarks : SameMarks s next)
    (hLog : next.log = s.log ++ [.routed frame])
| dropped
    (seq : Rat)
    (entry : FrameLog)
    (hNumber : frame.sequenceNumber = some seq)
    (hEntry : entry = .stale frame ∨ entry = .superseded frame)
    (hBelow : seq < s.watermark frame.accountKey + 1)
    (hMarks : SameMarks s next)
    (hLog : next.log = s.log ++ [entry])
| accepted
    (seq : Rat)
    (hNumber : frame.sequenceNumber = some seq)
    (hAbove :
      s.watermark frame.accountKey = 0 ∨
        s.watermark frame.accountKey < seq)
    (hMarks :
      SameMarks (s.advance frame.accountKey seq) next)
    (hLog : next.log = s.log ++ [.routed frame])

/- A handler that waits changes none of the marks. -/
theorem sameMarks_wait
    (frame : ServerFrame)
    (reason : Reconciling)
    (s : EventStream) :
    SameMarks s (s.wait frame reason) := by
  unfold wait reconcilingPull
  split <;> exact ⟨rfl, rfl, rfl⟩

theorem log_wait
    (frame : ServerFrame)
    (reason : Reconciling)
    (s : EventStream) :
    (s.wait frame reason).log = s.log := by
  unfold wait reconcilingPull
  split <;> rfl

theorem detectGap_verdict
    (frame : ServerFrame)
    (s : EventStream) :
    Verdict s frame (s.detectGap frame) := by
  unfold detectGap
  cases hNumber : frame.sequenceNumber with
  | none => exact .unnumbered hNumber ⟨rfl, rfl, rfl⟩ rfl
  | some seq =>
      dsimp only
      split
      · rename_i hZero
        exact .accepted seq hNumber (Or.inl hZero)
          ⟨rfl, rfl, rfl⟩ rfl
      · split
        · rename_i hNext
          refine .accepted seq hNumber (Or.inr ?_)
            ⟨rfl, rfl, rfl⟩ rfl
          grind
        · split
          · exact .waits (sameMarks_wait frame .gap s)
              (log_wait frame .gap s)
          · refine .dropped seq (.stale frame) hNumber
              (Or.inl rfl) ?_ ⟨rfl, rfl, rfl⟩ rfl
            grind

theorem leaveGap_verdict
    (frame : ServerFrame)
    (s : EventStream) :
    Verdict s frame (s.leaveGap frame) := by
  unfold leaveGap
  cases hNumber : frame.sequenceNumber with
  | none => exact .unnumbered hNumber ⟨rfl, rfl, rfl⟩ rfl
  | some seq =>
      dsimp only
      split
      · refine .dropped seq (.superseded frame) hNumber
          (Or.inr rfl) ?_ ⟨rfl, rfl, rfl⟩ rfl
        grind
      · rename_i hAbove
        exact .accepted seq hNumber
          (Or.inr (lt_of_not_ge hAbove)) ⟨rfl, rfl, rfl⟩ rfl

theorem SameMarks.advance
    {s other : EventStream}
    (hSame : SameMarks s other)
    (key : String)
    (seq : Rat) :
    SameMarks (s.advance key seq) (other.advance key seq) where
  lastObservedEpoch := hSame.lastObservedEpoch
  lastObservedSequence :=
    congrArg (fun last => max last seq)
      hSame.lastObservedSequence
  accountSequences :=
    congrArg (fun marks => marks.set key seq)
      hSame.accountSequences

/- The checks read the marks and the log only. -/
theorem Verdict.of_sameMarks
    {s other next : EventStream}
    {frame : ServerFrame}
    (hSame : SameMarks s other)
    (hSameLog : other.log = s.log)
    (hVerdict : Verdict other frame next) :
    Verdict s frame next := by
  cases hVerdict with
  | waits hMarks hLog =>
      exact .waits (hSame.trans hMarks)
        (hLog.trans hSameLog)
  | unnumbered hNumber hMarks hLog =>
      rw [hSameLog] at hLog
      exact .unnumbered hNumber (hSame.trans hMarks) hLog
  | dropped seq entry hNumber hEntry hBelow hMarks hLog =>
      rw [hSame.watermark] at hBelow
      rw [hSameLog] at hLog
      exact .dropped seq entry hNumber hEntry hBelow
        (hSame.trans hMarks) hLog
  | accepted seq hNumber hAbove hMarks hLog =>
      rw [hSame.watermark] at hAbove
      rw [hSameLog] at hLog
      exact .accepted seq hNumber hAbove
        ((hSame.advance _ seq).trans hMarks) hLog

/- The checks of the number leave the epoch alone. -/
theorem Verdict.lastObservedEpoch
    {s next : EventStream}
    {frame : ServerFrame}
    (hVerdict : Verdict s frame next) :
    next.lastObservedEpoch = s.lastObservedEpoch := by
  cases hVerdict with
  | waits hMarks _ => exact hMarks.lastObservedEpoch
  | unnumbered _ hMarks _ => exact hMarks.lastObservedEpoch
  | dropped _ _ _ _ _ hMarks _ =>
      exact hMarks.lastObservedEpoch
  | accepted _ _ _ hMarks _ => exact hMarks.lastObservedEpoch

theorem goOn_verdict
    (call : Suspended)
    (s : EventStream) :
    Verdict s call.frame (s.goOn call) := by
  have hSame : SameMarks s s.dropPromise := ⟨rfl, rfl, rfl⟩
  unfold goOn
  split
  · exact .of_sameMarks hSame rfl
      (detectGap_verdict call.frame s.dropPromise)
  · exact .of_sameMarks hSame rfl
      (leaveGap_verdict call.frame s.dropPromise)

------------------------------------------------------------
-- What A Step Does
------------------------------------------------------------

/- The stream after the first epoch that it observes. -/
def firstEpoch
    (epoch : Rat)
    (s : EventStream) : EventStream :=
  { s with lastObservedEpoch := epoch }

/- What an event does to the marks and the log. -/
inductive Effect
    (s : EventStream)
    (event : Event)
    (next : EventStream) : Prop
| quiet
    (hMarks : SameMarks s next)
    (hLog : next.log = s.log)
| prior
    (frame : ServerFrame)
    (hEvent : event = .frame frame)
    (hPositive : 0 < frame.incomingEpoch)
    (hOlder : frame.incomingEpoch < s.lastObservedEpoch)
    (hMarks : SameMarks s next)
    (hLog : next.log = s.log ++ [.priorEpoch frame])
| adopted
    (frame : ServerFrame)
    (hEvent : event = .frame frame)
    (hPositive : 0 < frame.incomingEpoch)
    (hKnown : s.lastObservedEpoch ≠ 0)
    (hNewer : s.lastObservedEpoch < frame.incomingEpoch)
    (hMarks :
      SameMarks (s.adoptEpoch frame.incomingEpoch) next)
    (hLog : next.log = s.log)
| first
    (frame : ServerFrame)
    (hEvent : event = .frame frame)
    (hUnknown : s.lastObservedEpoch = 0)
    (hPositive : 0 < frame.incomingEpoch)
    (hVerdict :
      Verdict (s.firstEpoch frame.incomingEpoch) frame next)
| current
    (frame : ServerFrame)
    (hEvent : event = .frame frame)
    (hCurrent :
      0 < frame.incomingEpoch →
        frame.incomingEpoch = s.lastObservedEpoch)
    (hVerdict : Verdict s frame next)
| resumed
    (call : Suspended)
    (hResumed : s.resumed event = some call)
    (hVerdict : Verdict s call.frame next)

theorem handleServerEvent_effect
    (frame : ServerFrame)
    (s : EventStream) :
    Effect s (.frame frame) (s.handleServerEvent frame) := by
  unfold handleServerEvent
  split
  · rename_i hPositive
    split
    · rename_i hUnknown
      exact .first frame rfl hUnknown hPositive
        (detectGap_verdict frame _)
    · rename_i hKnown
      split
      · rename_i hNewer
        exact .adopted frame rfl hPositive hKnown hNewer
          (sameMarks_wait frame .epochChange _)
          (log_wait frame .epochChange _)
      · rename_i hNotNewer
        split
        · rename_i hOlder
          exact .prior frame rfl hPositive hOlder
            ⟨rfl, rfl, rfl⟩ rfl
        · rename_i hNotOlder
          refine .current frame rfl ?_
            (detectGap_verdict frame s)
          intro _
          exact le_antisymm (le_of_not_gt hNotNewer)
            (le_of_not_gt hNotOlder)
  · rename_i hNone
    exact .current frame rfl (fun hPositive =>
      absurd hPositive hNone) (detectGap_verdict frame s)

theorem step_effect
    (s : EventStream)
    (event : Event) :
    Effect s event (s.step event) := by
  cases event with
  | frame frame => exact handleServerEvent_effect frame s
  | pull => exact .quiet ⟨rfl, rfl, rfl⟩ rfl
  | answer index answer =>
      unfold step answerFetch
      dsimp only
      split
      · exact .quiet (SameMarks.refl s) rfl
      · exact .quiet ⟨rfl, rfl, rfl⟩ rfl
  | resume index =>
      unfold step
      dsimp only
      cases hResumed : s.resumed (.resume index) with
      | none => exact .quiet (SameMarks.refl s) rfl
      | some call =>
          have hSame : SameMarks s (s.wake index) :=
            ⟨rfl, rfl, rfl⟩
          exact .resumed call hResumed
            (.of_sameMarks hSame rfl
              (goOn_verdict call (s.wake index)))

end EventStream

end ControlPlane
