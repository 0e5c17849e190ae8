import ControlPlane.Authority.AuditChain

/-
  The queue of the audit log.

  The worker takes the whole queue before its first wait. A
  record that has been taken is written, or it is lost: with
  what comes after it when something throws on the worker,
  and alone when no database is open.

  Main declarations:
    * `AuditQueue.step`
    * `AuditQueue.Accounted`
    * `accounted_throughout_iff`
-/

------------------------------------------------------------
-- The Worker And Its Database
------------------------------------------------------------

namespace ControlPlane

/-
  The log with what has been given to it. A database that is
  not open takes no record, and the call returns.
-/
structure AuditQueue where
  log : AuditLog
  isOpen : Bool
  enqueued : List AuditRecord
deriving DecidableEq, Repr

inductive QueueEvent where
| enqueue (record : AuditRecord)
| writeEvent (record : AuditRecord)
| openDatabase
| closeDatabase
| processQueue
| fetchLastEventHash
| writeNext
| writeFails
deriving DecidableEq, Repr

/- A record of the batch is passed over. -/
def AuditLog.skipNext
    (digest : String → String)
    (log : AuditLog) : AuditLog :=
  match log.worker with
  | .writing (record :: rest) lastHash =>
      { log with
          worker :=
            if rest.isEmpty then .idle
            else
              .writing rest
                (record.chain digest lastHash).event_hash }
  | _ => log

/- Without a database there is no last hash. -/
def AuditLog.fetchNothing
    (log : AuditLog) : AuditLog :=
  match log.worker with
  | .fetching batch =>
      { log with worker := .writing batch none }
  | _ => log

namespace AuditQueue

def empty : AuditQueue where
  log := .empty
  isOpen := false
  enqueued := []

def step
    (digest : String → String)
    (s : AuditQueue) : QueueEvent → AuditQueue
| .enqueue record =>
    { s with
        log := s.log.step digest (.enqueue record)
        enqueued := s.enqueued ++ [record] }
| .writeEvent record =>
    if s.isOpen then
      { s with log := s.log.step digest (.writeEvent record) }
    else s
| .openDatabase => { s with isOpen := true }
| .closeDatabase => { s with isOpen := false }
| .processQueue =>
    { s with log := s.log.step digest .processQueue }
| .fetchLastEventHash =>
    if s.isOpen then
      { s with log := s.log.step digest .fetchLastEventHash }
    else { s with log := s.log.fetchNothing }
| .writeNext =>
    if s.isOpen then
      { s with log := s.log.step digest .writeNext }
    else { s with log := s.log.skipNext digest }
| .writeFails =>
    { s with log := s.log.step digest .writeFails }

end AuditQueue

------------------------------------------------------------
-- Accounting
------------------------------------------------------------

/- What the worker has taken and not yet written. -/
def AuditWorker.inFlight : AuditWorker → List AuditRecord
| .idle => []
| .fetching batch => batch
| .writing batch _ => batch

/- The records that the worker has written, in order. -/
def writtenRecords
    (rows : List AuditRow) : List AuditRecord :=
  (rows.filter (fun row => row.event_hash.isSome)).map
    AuditRow.record

namespace AuditQueue

/- Every record is written, in flight or queued, in order. -/
def Accounted (s : AuditQueue) : Prop :=
  s.enqueued =
    writtenRecords s.log.rows ++ s.log.worker.inFlight ++
      s.log.queue

/- A step that does not lose what the worker has taken. -/
def Kept
    (s : AuditQueue) : QueueEvent → Prop
| .writeNext =>
    s.isOpen = false →
      ∀ batch lastHash, s.log.worker ≠ .writing batch lastHash
| .writeFails => s.log.worker = .idle
| _ => True

/- The worker is idle once it has nothing left. -/
def Busy (s : AuditQueue) : Prop :=
  s.log.worker.inFlight = [] → s.log.worker = .idle

------------------------------------------------------------
-- Steps
------------------------------------------------------------

variable {digest : String → String} {s : AuditQueue}

theorem writtenRecords_append
    (rows : List AuditRow)
    (row : AuditRow) :
    writtenRecords (rows ++ [row]) =
      writtenRecords rows ++
        if row.event_hash.isSome then [row.record] else [] := by
  unfold writtenRecords
  rw [List.filter_append, List.map_append]
  cases hHash : row.event_hash with
  | none => simp [hHash]
  | some hash => simp [hHash]

theorem step_busy
    (event : QueueEvent)
    (hBusy : s.Busy) :
    (s.step digest event).Busy := by
  cases event with
  | enqueue record => exact hBusy
  | writeEvent record =>
      unfold step
      dsimp only
      split
      · exact hBusy
      · exact hBusy
  | openDatabase => exact hBusy
  | closeDatabase => exact hBusy
  | processQueue =>
      unfold step AuditLog.step
      dsimp only
      split
      · split
        · exact hBusy
        · rename_i hQueue
          intro hEmpty
          have hNone : s.log.queue = [] := hEmpty
          rw [hNone] at hQueue
          exact absurd rfl hQueue
      · exact hBusy
  | fetchLastEventHash =>
      unfold step AuditLog.step AuditLog.fetchNothing
      unfold Busy at hBusy
      dsimp only
      split <;> split
      · rename_i hWorker
        rw [hWorker] at hBusy
        intro hEmpty
        cases hBusy hEmpty
      · exact hBusy
      · rename_i hWorker
        rw [hWorker] at hBusy
        intro hEmpty
        cases hBusy hEmpty
      · exact hBusy
  | writeNext =>
      have hRest :
          ∀ (rest : List AuditRecord)
            (hash : Option String),
            (if rest.isEmpty then AuditWorker.idle
              else .writing rest hash).inFlight = [] →
            (if rest.isEmpty then AuditWorker.idle
              else .writing rest hash) = .idle := by
        intro rest hash hEmpty
        cases rest with
        | nil => rfl
        | cons next later => cases hEmpty
      unfold step AuditLog.step AuditLog.skipNext
      dsimp only
      split <;> split
      · exact hRest _ _
      · exact hBusy
      · exact hRest _ _
      · exact hBusy
  | writeFails => exact fun _ => rfl

/- Nothing is gained or lost by what moves no record. -/
theorem accounted_of_moved
    (hAccounted : s.Accounted)
    {next : AuditQueue}
    (hEnqueued : next.enqueued = s.enqueued)
    (hRows : next.log.rows = s.log.rows)
    (hPending :
      next.log.worker.inFlight ++ next.log.queue =
        s.log.worker.inFlight ++ s.log.queue) :
    next.Accounted := by
  unfold Accounted at hAccounted ⊢
  rw [hEnqueued, hRows, List.append_assoc, hPending,
    hAccounted, List.append_assoc]

/- Records that are dropped are not accounted for. -/
theorem not_accounted_of_lost
    (hAccounted : s.Accounted)
    {next : AuditQueue}
    (hEnqueued : next.enqueued = s.enqueued)
    (hRows : next.log.rows = s.log.rows)
    (hQueue : next.log.queue = s.log.queue)
    (hLess :
      next.log.worker.inFlight.length <
        s.log.worker.inFlight.length) :
    ¬ next.Accounted := by
  intro hNext
  unfold Accounted at hAccounted hNext
  rw [hEnqueued, hAccounted, hRows, hQueue] at hNext
  have hLength := congrArg List.length hNext
  simp only [List.length_append] at hLength
  omega

theorem inFlight_rest
    (rest : List AuditRecord)
    (hash : Option String) :
    (if rest.isEmpty then AuditWorker.idle
      else .writing rest hash).inFlight = rest := by
  cases rest with
  | nil => rfl
  | cons next later => rfl

theorem accounted_writeNext_iff
    (hBusy : s.Busy)
    (hAccounted : s.Accounted) :
    (s.step digest .writeNext).Accounted ↔
      s.Kept .writeNext := by
  rcases s with ⟨⟨rows, queue, worker⟩, isOpen, enqueued⟩
  cases worker with
  | idle =>
      refine iff_of_true ?_ (fun _ _ _ hNone => nomatch hNone)
      cases isOpen <;> exact hAccounted
  | fetching batch =>
      refine iff_of_true ?_ (fun _ _ _ hNone => nomatch hNone)
      cases isOpen <;> exact hAccounted
  | writing batch lastHash =>
      cases batch with
      | nil => cases hBusy rfl
      | cons record rest =>
          cases isOpen with
          | true =>
              refine iff_of_true ?_ nofun
              change enqueued =
                writtenRecords
                    (rows ++ [record.chain digest lastHash]) ++
                  (if rest.isEmpty then AuditWorker.idle
                    else .writing rest _).inFlight ++ queue
              rw [inFlight_rest, writtenRecords_append]
              unfold Accounted at hAccounted
              rw [show enqueued = _ from hAccounted]
              change writtenRecords rows ++ record :: rest ++ _ =
                writtenRecords rows ++ [record] ++ rest ++ _
              rw [List.append_cons (writtenRecords rows)]
          | false =>
              refine iff_of_false ?_ ?_
              · refine not_accounted_of_lost hAccounted rfl rfl
                  rfl ?_
                change (if rest.isEmpty then AuditWorker.idle
                  else .writing rest _).inFlight.length < _
                rw [inFlight_rest]
                exact Nat.lt_succ_self _
              · intro hKept
                exact hKept rfl _ _ rfl

theorem accounted_writeFails_iff
    (hBusy : s.Busy)
    (hAccounted : s.Accounted) :
    (s.step digest .writeFails).Accounted ↔
      s.Kept .writeFails := by
  constructor
  · intro hNext
    refine hBusy (List.eq_nil_iff_length_eq_zero.mpr ?_)
    refine Nat.eq_zero_of_not_pos ?_
    intro hSome
    exact absurd hNext
      (not_accounted_of_lost hAccounted rfl rfl rfl hSome)
  · intro hIdle
    refine accounted_of_moved hAccounted rfl rfl ?_
    rw [show s.log.worker = .idle from hIdle]
    rfl

/-
  A step leaves every record accounted for exactly when it
  does not lose what the worker has taken.
-/
theorem accounted_step_iff
    (event : QueueEvent)
    (hBusy : s.Busy)
    (hAccounted : s.Accounted) :
    (s.step digest event).Accounted ↔ s.Kept event := by
  cases event with
  | enqueue record =>
      refine iff_of_true ?_ trivial
      unfold Accounted at hAccounted ⊢
      change s.enqueued ++ [record] =
        _ ++ (s.log.queue ++ [record])
      rw [hAccounted, List.append_assoc]
      rfl
  | writeEvent record =>
      refine iff_of_true ?_ trivial
      unfold step
      dsimp only
      split
      · unfold Accounted at hAccounted ⊢
        change s.enqueued =
          writtenRecords (s.log.rows ++ [record.plain]) ++ _ ++ _
        rw [writtenRecords_append, hAccounted]
        change _ = _ ++ [] ++ _ ++ _
        rw [List.append_nil]
        rfl
      · exact hAccounted
  | openDatabase => exact iff_of_true hAccounted trivial
  | closeDatabase => exact iff_of_true hAccounted trivial
  | processQueue =>
      refine iff_of_true ?_ trivial
      unfold step AuditLog.step
      dsimp only
      split
      · split
        · exact hAccounted
        · rename_i hWorker _
          refine accounted_of_moved hAccounted rfl rfl ?_
          rw [hWorker]
          exact List.append_nil _
      · exact hAccounted
  | fetchLastEventHash =>
      refine iff_of_true ?_ trivial
      unfold step AuditLog.step AuditLog.fetchNothing
      dsimp only
      split <;> split
      · rename_i hWorker
        refine accounted_of_moved hAccounted rfl rfl ?_
        rw [hWorker]
        rfl
      · exact hAccounted
      · rename_i hWorker
        refine accounted_of_moved hAccounted rfl rfl ?_
        rw [hWorker]
        rfl
      · exact hAccounted
  | writeNext => exact accounted_writeNext_iff hBusy hAccounted
  | writeFails => exact accounted_writeFails_iff hBusy hAccounted

------------------------------------------------------------
-- Runs
------------------------------------------------------------

/-
  Throughout a run every record is accounted for exactly when
  nothing throws on the busy worker and it writes nothing
  while no database is open.
-/
theorem accounted_throughout_iff
    (digest : String → String)
    (events : List QueueEvent) :
    Throughout (step digest) Accounted empty events ↔
      Along (step digest) Kept empty events :=
  throughout_iff_along_of_invariant
    (fun _ event hBusy => step_busy event hBusy)
    (fun _ event hBusy hAccounted =>
      accounted_step_iff event hBusy hAccounted)
    events (fun _ => rfl) rfl

/- Two records, of which the first cannot be written. -/
def failedWrite : List QueueEvent :=
  [.openDatabase,
    .enqueue ⟨"LICENSE_REVOKED", "CRITICAL", "RECORDED", none⟩,
    .enqueue ⟨"LOGOUT", "INFO", "RECORDED", none⟩,
    .processQueue, .fetchLastEventHash, .writeFails]

/- Neither of them is written or queued any more. -/
theorem failed_write_loses_batch :
    let s := run (step sampleDigest) empty failedWrite
    s.enqueued.length = 2 ∧ s.log.rows = [] ∧
      s.log.worker = .idle ∧ s.log.queue = [] ∧
      ¬ Throughout (step sampleDigest) Accounted empty
          failedWrite := by
  refine ⟨rfl, rfl, rfl, rfl, ?_⟩
  intro hAll
  have hLast := hAll failedWrite [] rfl
  cases hLast

end AuditQueue

end ControlPlane
