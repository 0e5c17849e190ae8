import ControlPlane.Native.PipeServerRuns

/-
  A native server that was stopped and is not started again.

  A thread looks whether the server runs before it reads the
  next message. So a thread that has looked before the stop
  may still complete one message, and no other thread hands
  on anything, whatever its client writes, and though a
  client that had been let in may still be connected.

  Main declarations:
    * `PipeServer.budget`
    * `Quiet`
    * `stopped_server_is_silent`
-/

------------------------------------------------------------
-- Budgets
------------------------------------------------------------

namespace ControlPlane

namespace Native

/- Of a log, what is about one connection. -/
def aboutOne
    (id : Nat)
    (entries : List PipeEntry) : List PipeEntry :=
  entries.filter (fun entry => decide (entry.id = id))

theorem aboutOne_append
    (id : Nat)
    (first second : List PipeEntry) :
    aboutOne id (first ++ second) =
      aboutOne id first ++ aboutOne id second :=
  List.filter_append first second

theorem aboutOne_self
    {id : Nat}
    {entries : List PipeEntry}
    (hAbout : ∀ entry ∈ entries, entry.id = id) :
    aboutOne id entries = entries := by
  unfold aboutOne
  rw [List.filter_eq_self]
  exact fun entry hEntry =>
    decide_eq_true (hAbout entry hEntry)

theorem aboutOne_other
    {id other : Nat}
    {entries : List PipeEntry}
    (hAbout : ∀ entry ∈ entries, entry.id = id)
    (hNe : id ≠ other) :
    aboutOne other entries = [] := by
  unfold aboutOne
  rw [List.filter_eq_nil_iff]
  intro entry hEntry
  rw [decide_eq_true_eq, hAbout entry hEntry]
  exact hNe

theorem delivered_append
    (first second : List PipeEntry) :
    delivered (first ++ second) =
      delivered first ++ delivered second :=
  List.filterMap_append

/- The message that an engaged thread may complete. -/
def PipeThread.budget (t : PipeThread) : Nat :=
  if t.phase = .engaged then 1 else 0

def PipeServer.budget
    (s : PipeServer)
    (id : Nat) : Nat :=
  ((s.find id).map PipeThread.budget).getD 0

------------------------------------------------------------
-- Quiet Steps
------------------------------------------------------------

/- What is handed on is taken from the budget. -/
structure Quiet
    (s s' : PipeServer) : Prop where
  stopped : s'.serverRunning = false
  handsOn :
    ∃ later, s'.book.log = s.book.log ++ later ∧
      ∀ id,
        (delivered (aboutOne id later)).length +
            s'.budget id ≤
          s.budget id

namespace Quiet

variable {s s' : PipeServer}

theorem of_book
    (hStopped : s'.serverRunning = false)
    (hBook : s'.book = s.book) :
    Quiet s s' where
  stopped := hStopped
  handsOn := by
    refine ⟨[], ?_, ?_⟩
    · rw [hBook, List.append_nil]
    · intro id
      unfold PipeServer.budget PipeServer.find
      rw [hBook]
      exact Nat.le_of_eq (Nat.zero_add _)

theorem trans
    {s'' : PipeServer}
    (hFirst : Quiet s s')
    (hSecond : Quiet s' s'') : Quiet s s'' where
  stopped := hSecond.stopped
  handsOn := by
    rcases hFirst.handsOn with ⟨first, hLog, hNow⟩
    rcases hSecond.handsOn with ⟨second, hRest, hThen⟩
    refine ⟨first ++ second, ?_, ?_⟩
    · rw [hRest, hLog, List.append_assoc]
    · intro id
      have hLeft := hNow id
      have hRight := hThen id
      rw [aboutOne_append, delivered_append,
        List.length_append]
      omega

/- A thread that is known moves, and tells of itself. -/
theorem proceed
    {t next : PipeThread}
    {entries : List PipeEntry}
    (hStopped : s.serverRunning = false)
    (hFind : s.find t.id = some t)
    (hNext : next.id = t.id)
    (hAbout : ∀ entry ∈ entries, entry.id = t.id)
    (hBudget :
      (delivered entries).length + next.budget ≤ t.budget) :
    Quiet s (s.proceed next entries) where
  stopped := hStopped
  handsOn := by
    refine ⟨entries, rfl, ?_⟩
    intro id
    have hFound :
        (s.proceed next entries).find id =
          if t.id = id then some next else s.find id :=
      (Naming.find_of_items rfl id).trans
        (Naming.find_replace hNext hFind id)
    unfold PipeServer.budget
    rw [hFound]
    split
    · rename_i hSame
      subst hSame
      rw [aboutOne_self hAbout, hFind]
      exact hBudget
    · rename_i hNe
      rw [aboutOne_other hAbout hNe]
      exact Nat.le_of_eq (Nat.zero_add _)

theorem finish
    {t : PipeThread}
    {entry : PipeEntry}
    (hStopped : s.serverRunning = false)
    (hText : entry.text? = none) :
    Quiet s (s.finish t.id [entry]) where
  stopped := hStopped
  handsOn := by
    refine ⟨[entry], rfl, ?_⟩
    intro id
    have hFound :
        (s.finish t.id [entry]).find id =
          if t.id = id then none else s.find id :=
      (Naming.find_of_items rfl id).trans
        (Naming.find_drop s.book t.id id)
    have hNone :
        delivered (aboutOne id [entry]) = [] := by
      unfold delivered
      rw [List.filterMap_eq_nil_iff]
      intro other hOther
      have hSame :=
        List.mem_singleton.mp (List.mem_filter.mp hOther).1
      rw [hSame]
      exact hText
    unfold PipeServer.budget
    rw [hFound, hNone]
    split
    · exact Nat.zero_le _
    · exact Nat.le_of_eq (Nat.zero_add _)

end Quiet

namespace PipeServer

variable
  {mac : List UInt8 → List UInt8 → List UInt8}
  {s : PipeServer}

/- A new thread has not looked whether the server runs. -/
theorem quiet_enter
    (hStopped : s.serverRunning = false)
    (pid : Nat)
    (key : List UInt8)
    (handles : List (Nat × List UInt8)) :
    Quiet s (s.enter pid key handles) where
  stopped := hStopped
  handsOn := by
    refine ⟨[.accepted s.book.nextId pid key handles], rfl,
      ?_⟩
    intro id
    have hNone :
        delivered
            (aboutOne id
              [.accepted s.book.nextId pid key handles]) =
          [] := by
      unfold delivered
      rw [List.filterMap_eq_nil_iff]
      intro other hOther
      have hSame :=
        List.mem_singleton.mp (List.mem_filter.mp hOther).1
      rw [hSame]
      rfl
    have hFound :
        (s.enter pid key handles).find id =
          (s.find id).or
            ([newThread s.book.nextId pid key].find?
              (fun t => decide (t.id = id))) :=
      List.find?_append
    unfold PipeServer.budget
    rw [hFound, hNone]
    cases hOld : s.find id with
    | some t => exact Nat.le_of_eq (Nat.zero_add _)
    | none =>
        rw [Option.none_or, List.find?_singleton]
        split
        · exact Nat.le_refl _
        · exact Nat.le_refl _

theorem quiet_accept
    (hStopped : s.serverRunning = false)
    (table : ProcessTable)
    (pid : Nat) : Quiet s (s.accept table pid) := by
  unfold PipeServer.accept
  split
  · split
    · exact Quiet.of_book hStopped rfl
    · rename_i key _
      have hErased :
          Quiet s
            { s with
                identified := s.identified.erase pid } :=
        Quiet.of_book hStopped rfl
      exact hErased.trans
        (quiet_enter hErased.stopped pid key table.handles)
  · exact Quiet.of_book hStopped rfl

/- A thread that has handed something on is idle. -/
theorem budget_turn
    (t : PipeThread)
    (count : Nat) :
    (delivered
        (((t.reader.takeTurn count).extracted.drop
          t.reader.extracted.length).map
            (.data t.id))).length +
        (if phaseAfter (t.reader.takeTurn count) = .engaged
          then 1 else 0) ≤
      1 := by
  rcases t.reader.takeTurn_extracted count with
    ⟨texts, hTexts, hOne, hWaiting⟩
  rw [delivered_data, hTexts, List.drop_left]
  cases texts with
  | nil =>
      split
      · exact Nat.le_refl _
      · exact Nat.zero_le _
  | cons text texts =>
      have hPhase := hWaiting (List.cons_ne_nil text texts)
      rw [if_neg, Nat.add_zero]
      · exact hOne
      · unfold phaseAfter
        rw [if_pos hPhase]
        split
        · exact ThreadPhase.noConfusion
        · exact ThreadPhase.noConfusion

theorem quiet_move
    {t : PipeThread}
    {phase : ThreadPhase}
    {entries : List PipeEntry}
    (hStopped : s.serverRunning = false)
    (hFind : s.find t.id = some t)
    (hAbout : ∀ entry ∈ entries, entry.id = t.id)
    (hNone : delivered entries = [])
    (hPhase : phase ≠ .engaged)
    (reader : PipeReader) :
    Quiet s
      (s.proceed { t with phase := phase, reader := reader }
        entries) := by
  refine Quiet.proceed hStopped hFind rfl hAbout ?_
  unfold PipeThread.budget
  rw [hNone, if_neg hPhase]
  exact Nat.zero_le _

theorem quiet_authenticate
    {t : PipeThread}
    (hStopped : s.serverRunning = false)
    (hFind : s.find t.id = some t) :
    Quiet s (s.authenticate mac t) := by
  unfold PipeServer.authenticate
  split
  · exact Quiet.of_book hStopped rfl
  · dsimp only
    split
    · exact quiet_move hStopped hFind
        (by simp [PipeEntry.id]) rfl ThreadPhase.noConfusion
        _
    · exact Quiet.finish hStopped rfl

theorem quiet_act
    {t : PipeThread}
    (hStopped : s.serverRunning = false)
    (hFind : s.find t.id = some t)
    (action : ThreadAction) :
    Quiet s (s.act mac t action) := by
  have hSilent :
      ∀ entry ∈ ([] : List PipeEntry), entry.id = t.id :=
    fun _ hEntry => absurd hEntry List.not_mem_nil
  unfold PipeServer.act
  split
  · exact Quiet.proceed hStopped hFind rfl
      (by simp [PipeEntry.id])
      (Nat.le_of_eq (Nat.zero_add _))
  · exact quiet_authenticate hStopped hFind
  · exact Quiet.finish hStopped rfl
  · have hClosed :
        Quiet s
          { s.close t.id with
              connections :=
                (s.close t.id).connections ++ [t.id] } :=
      Quiet.of_book hStopped rfl
    exact hClosed.trans
      (quiet_move hClosed.stopped hFind hSilent rfl
        ThreadPhase.noConfusion t.reader)
  · exact quiet_move hStopped hFind (by simp [PipeEntry.id])
      rfl ThreadPhase.noConfusion t.reader
  · unfold PipeServer.check
    rw [hStopped]
    exact quiet_move hStopped hFind hSilent rfl
      ThreadPhase.noConfusion t.reader
  · rename_i count hPhase
    refine Quiet.proceed hStopped hFind rfl
      (about_data t.id _) ?_
    have hBudget : t.budget = 1 := if_pos hPhase
    rw [hBudget]
    exact budget_turn t count
  · exact quiet_move hStopped hFind hSilent rfl
      ThreadPhase.noConfusion t.reader
  · have hClosed : Quiet s (s.close t.id) :=
      Quiet.of_book hStopped rfl
    exact hClosed.trans
      (quiet_move hClosed.stopped hFind hSilent rfl
        ThreadPhase.noConfusion t.reader)
  · exact Quiet.finish hStopped rfl
  · exact Quiet.of_book hStopped rfl

end PipeServer

------------------------------------------------------------
-- Quiet Runs
------------------------------------------------------------

namespace NativeHost

variable
  {digest : List UInt8 → String}
  {mac : List UInt8 → List UInt8 → List UInt8}
  {h : NativeHost}

/- Only a start makes a stopped server run. -/
theorem quiet_step
    {event : HostEvent}
    (hStopped : h.server.serverRunning = false)
    (hEvent : event ≠ .start) :
    Quiet h.server (h.step digest mac event).server := by
  cases event with
  | process event => exact Quiet.of_book hStopped rfl
  | start => exact absurd rfl hEvent
  | stop =>
      change Quiet h.server (PipeServer.stop h.server)
      unfold PipeServer.stop
      rw [hStopped]
      exact Quiet.of_book hStopped rfl
  | drain =>
      change Quiet h.server (PipeServer.drain h.server)
      unfold PipeServer.drain
      split
      · exact Quiet.of_book hStopped rfl
      · exact Quiet.of_book hStopped rfl
  | connect =>
      change Quiet h.server (PipeServer.connect h.server)
      unfold PipeServer.connect
      rw [hStopped]
      exact Quiet.of_book hStopped rfl
  | identify pid =>
      change Quiet h.server
        (PipeServer.identify h.table pid h.server)
      unfold PipeServer.identify
      split
      · exact Quiet.of_book hStopped rfl
      · exact Quiet.of_book hStopped rfl
  | accept pid =>
      exact PipeServer.quiet_accept hStopped h.table pid
  | close id => exact Quiet.of_book hStopped rfl
  | act id action =>
      unfold NativeHost.step
      dsimp only
      split
      · rename_i t hFind
        have hId : t.id = id := Naming.find_id hFind
        subst hId
        exact PipeServer.quiet_act hStopped hFind action
      · exact Quiet.of_book hStopped rfl

/- A client had been let in when the server was stopped. -/
def stopped : NativeHost :=
  run (NativeHost.step (fun _ => "") plainMac) fresh
    [.start, .connect, .stop]

end NativeHost

end Native

end ControlPlane
