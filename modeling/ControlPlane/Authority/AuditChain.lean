import ControlPlane.Data.Run

/-
  The audit log and its hash chain.

  Two writers share the log. The background worker drains
  its queue and chains each record to the one before, from a
  last hash that it reads once for a batch. Transitions and
  reconciliations write their records directly and without a
  hash. A hash covers the metadata of its record and nothing
  else of it.

  Main declarations:
    * `AuditRecord`, `AuditRow` and `AuditLog`
    * `AuditLog.step`
    * `Linked` and `AuditLog.Sound.linked_iff`
    * `AuditChain`
    * `auditChain_iff_empty`
-/

------------------------------------------------------------
-- Records
------------------------------------------------------------

namespace ControlPlane

/-
  What a caller logs. The metadata is the text that
  `JSON.stringify` gives for it.
-/
structure AuditRecord where
  event_type : String
  severity : String
  result : String
  metadata : Option String
deriving DecidableEq, Repr

/- A row of `security_audit_log`, in order of `sequence`. -/
structure AuditRow where
  record : AuditRecord
  prev_event_hash : Option String
  event_hash : Option String
deriving DecidableEq, Repr

/- `JSON.stringify(event.metadata || {})` -/
def AuditRecord.eventStr
    (record : AuditRecord) : String :=
  record.metadata.getD "\x7b\x7d"

/- The hash of a string that is empty counts as missing. -/
def orNull : Option String → Option String
| some "" => none
| hash => hash

/- The row that the worker writes. -/
def AuditRecord.chain
    (digest : String → String)
    (record : AuditRecord)
    (lastHash : Option String) : AuditRow :=
  let prevHashStr := (orNull lastHash).getD "GENESIS_BLOCK"
  { record := record
    prev_event_hash := some prevHashStr
    event_hash := some (digest (prevHashStr ++ record.eventStr)) }

/- A record that is written directly. -/
def AuditRecord.plain
    (record : AuditRecord) : AuditRow where
  record := record
  prev_event_hash := none
  event_hash := none

------------------------------------------------------------
-- The Log
------------------------------------------------------------

/- Where the worker stands in its batch. -/
inductive AuditWorker where
| idle
| fetching (batch : List AuditRecord)
| writing (batch : List AuditRecord)
    (lastHash : Option String)
deriving DecidableEq, Repr

structure AuditLog where
  rows : List AuditRow
  queue : List AuditRecord
  worker : AuditWorker
deriving DecidableEq, Repr

/-
  What happens between two waits. `writeFails` is a storage
  that throws on the worker, and a restart loses what is in
  memory.
-/
inductive AuditEvent where
| enqueue (record : AuditRecord)
| writeEvent (record : AuditRecord)
| processQueue
| fetchLastEventHash
| writeNext
| writeFails
| restart
deriving DecidableEq, Repr

namespace AuditLog

def empty : AuditLog where
  rows := []
  queue := []
  worker := .idle

/- The hash of the last row, if it has one. -/
def lastEventHash
    (log : AuditLog) : Option String :=
  match log.rows.getLast? with
  | some row => orNull row.event_hash
  | none => none

def step
    (digest : String → String)
    (log : AuditLog) : AuditEvent → AuditLog
| .enqueue record =>
    { log with queue := log.queue ++ [record] }
| .writeEvent record =>
    { log with rows := log.rows ++ [record.plain] }
| .processQueue =>
    match log.worker with
    | .idle =>
        if log.queue.isEmpty then log
        else
          { log with
              queue := []
              worker := .fetching log.queue }
    | _ => log
| .fetchLastEventHash =>
    match log.worker with
    | .fetching batch =>
        { log with
            worker := .writing batch log.lastEventHash }
    | _ => log
| .writeNext =>
    match log.worker with
    | .writing (record :: rest) lastHash =>
        let row := record.chain digest lastHash
        { log with
            rows := log.rows ++ [row]
            worker :=
              if rest.isEmpty then .idle
              else .writing rest row.event_hash }
    | _ => log
| .writeFails => { log with worker := .idle }
| .restart => { log with queue := [], worker := .idle }

end AuditLog

------------------------------------------------------------
-- The Chain
------------------------------------------------------------

/- Each row names the hash of the row before. -/
def LinkedFrom : Option String → List AuditRow → Prop
| _, [] => True
| prev, row :: rest =>
    row.prev_event_hash = prev ∧
      LinkedFrom row.event_hash rest

def Linked
    (rows : List AuditRow) : Prop :=
  LinkedFrom (some "GENESIS_BLOCK") rows

/- Each hash is that of the row before and of its record. -/
def HashesFit
    (digest : String → String)
    (rows : List AuditRow) : Prop :=
  ∀ row ∈ rows, ∃ prev, row.prev_event_hash = some prev ∧
    row.event_hash =
      some (digest (prev ++ row.record.eventStr))

def Verifies
    (digest : String → String)
    (rows : List AuditRow) : Prop :=
  Linked rows ∧ HashesFit digest rows

/-
  Manipulations of a log: a row with a successor is deleted,
  two neighbours change places, or the record of a row is
  replaced and its hashes are left as they are.
-/
inductive Manipulates :
    List AuditRow → List AuditRow → Prop where
| delete (before : List AuditRow) (row next : AuditRow)
    (later : List AuditRow) :
    Manipulates (before ++ row :: next :: later)
      (before ++ next :: later)
| swap (before : List AuditRow) (row next : AuditRow)
    (later : List AuditRow) (hOther : row ≠ next) :
    Manipulates (before ++ row :: next :: later)
      (before ++ next :: row :: later)
| edit (before : List AuditRow) (row : AuditRow)
    (record : AuditRecord) (later : List AuditRow)
    (hOther : record ≠ row.record) :
    Manipulates (before ++ row :: later)
      (before ++ { row with record := record } :: later)

/- One hash chain that no manipulation leaves intact. -/
def AuditChain
    (digest : String → String)
    (rows : List AuditRow) : Prop :=
  Verifies digest rows ∧
    ∀ altered, Manipulates rows altered →
      ¬Verifies digest altered

------------------------------------------------------------
-- Linkage
------------------------------------------------------------

/- The hash that the next row has to name. -/
def tipFrom : Option String → List AuditRow → Option String
| prev, [] => prev
| _, row :: rest => tipFrom row.event_hash rest

def tip
    (rows : List AuditRow) : Option String :=
  tipFrom (some "GENESIS_BLOCK") rows

/- Every row was written by the worker. -/
def AllChained
    (rows : List AuditRow) : Prop :=
  ∀ row ∈ rows, row.event_hash.isSome = true

theorem linkedFrom_append
    (prev : Option String)
    (rows : List AuditRow)
    (row : AuditRow) :
    LinkedFrom prev (rows ++ [row]) ↔
      LinkedFrom prev rows ∧
        row.prev_event_hash = tipFrom prev rows := by
  induction rows generalizing prev with
  | nil => simp [LinkedFrom, tipFrom]
  | cons first rest ih =>
      simp only [List.cons_append, LinkedFrom, tipFrom, ih,
        and_assoc]

theorem tipFrom_append
    (prev : Option String)
    (rows : List AuditRow)
    (row : AuditRow) :
    tipFrom prev (rows ++ [row]) = row.event_hash := by
  induction rows generalizing prev with
  | nil => rfl
  | cons first rest ih => exact ih first.event_hash

theorem allChained_append
    {rows : List AuditRow}
    {row : AuditRow} :
    AllChained (rows ++ [row]) ↔
      AllChained rows ∧ row.event_hash.isSome = true := by
  simp [AllChained, or_imp, forall_and]

theorem tipFrom_getLast
    (prev : Option String)
    (rows : List AuditRow) :
    tipFrom prev rows =
      match rows.getLast? with
      | some row => row.event_hash
      | none => prev := by
  induction rows generalizing prev with
  | nil => rfl
  | cons row rest ih =>
      rw [tipFrom, ih]
      cases rest with
      | nil => rfl
      | cons next later =>
          rw [List.getLast?_cons_cons]
          cases hLast : (next :: later).getLast? with
          | none => simp at hLast
          | some last => rfl

/- A row is direct, or its hash fits. -/
def RowFits
    (digest : String → String)
    (row : AuditRow) : Prop :=
  (row.prev_event_hash = none ∧ row.event_hash = none) ∨
  ∃ prev, row.prev_event_hash = some prev ∧
    row.event_hash =
      some (digest (prev ++ row.record.eventStr))

/-
  What every run keeps. As long as there is no direct row
  the chain is linked, and the worker goes on from its end.
-/
structure AuditLog.Sound
    (digest : String → String)
    (log : AuditLog) : Prop where
  fits : ∀ row ∈ log.rows, RowFits digest row
  linked : AllChained log.rows → Linked log.rows
  worker : AllChained log.rows → ∀ batch lastHash,
    log.worker = .writing batch lastHash →
      tip log.rows =
        some ((orNull lastHash).getD "GENESIS_BLOCK")

section Linkage

variable {digest : String → String} {log : AuditLog}

theorem orNull_of_ne
    {hash : String}
    (hHash : hash ≠ "") :
    orNull (some hash) = some hash := by
  unfold orNull
  split
  · rename_i hEmpty
    cases hEmpty
    exact absurd rfl hHash
  · rfl

theorem empty_sound :
    AuditLog.empty.Sound digest := by
  refine ⟨?_, fun _ => trivial, ?_⟩
  · intro row hMem
    cases hMem
  · intro _ batch lastHash hWorker
    cases hWorker

/- Steps that write no row and leave the worker idle. -/
theorem AuditLog.Sound.idle
    {log' : AuditLog}
    (hSound : log.Sound digest)
    (hRows : log'.rows = log.rows)
    (hWorker : ∀ batch lastHash,
      log'.worker = .writing batch lastHash →
        log.worker = .writing batch lastHash) :
    log'.Sound digest := by
  refine ⟨?_, ?_, ?_⟩
  · rw [hRows]
    exact hSound.fits
  · rw [hRows]
    exact hSound.linked
  · rw [hRows]
    intro hChained batch lastHash hWriting
    exact hSound.worker hChained batch lastHash
      (hWorker batch lastHash hWriting)

/- What the worker reads is the end of the chain. -/
theorem tip_eq_lastEventHash
    (hDigest : ∀ text, digest text ≠ "")
    (hSound : log.Sound digest)
    (hChained : AllChained log.rows) :
    tip log.rows =
      some ((orNull log.lastEventHash).getD
        "GENESIS_BLOCK") := by
  rw [tip, tipFrom_getLast, AuditLog.lastEventHash]
  cases hLast : log.rows.getLast? with
  | none => rfl
  | some row =>
      have hMem := List.mem_of_getLast? hLast
      rcases hSound.fits row hMem with
        ⟨_, hNone⟩ | ⟨prev, _, hHash⟩
      · have hSome := hChained row hMem
        rw [hNone] at hSome
        cases hSome
      · have hFull := orNull_of_ne
          (hDigest (prev ++ row.record.eventStr))
        simp only [hHash, hFull, Option.getD_some]

/- A row of the worker continues the chain. -/
theorem AuditLog.Sound.writeNext
    (hDigest : ∀ text, digest text ≠ "")
    (hSound : log.Sound digest)
    {record : AuditRecord}
    {rest : List AuditRecord}
    {lastHash : Option String}
    (hWorker :
      log.worker = .writing (record :: rest) lastHash)
    (later : AuditWorker)
    (hLater :
      later = .idle ∨
      later = .writing rest
        (record.chain digest lastHash).event_hash)
    (queue : List AuditRecord) :
    AuditLog.Sound digest
      { rows := log.rows ++ [record.chain digest lastHash]
        queue := queue
        worker := later } := by
  refine ⟨?_, ?_, ?_⟩
  · intro row hMem
    rcases List.mem_append.mp hMem with hOld | hNew
    · exact hSound.fits row hOld
    · rw [List.mem_singleton] at hNew
      subst hNew
      exact Or.inr ⟨_, rfl, rfl⟩
  · intro hChained
    have hOld := (allChained_append.mp hChained).1
    have hTip := hSound.worker hOld _ _ hWorker
    rw [Linked, linkedFrom_append]
    exact ⟨hSound.linked hOld, hTip.symm⟩
  · intro _ batch hash hWriting
    rw [tip, tipFrom_append]
    rcases hLater with rfl | rfl
    · cases hWriting
    · cases hWriting
      have hFull := orNull_of_ne
        (hDigest ((orNull lastHash).getD "GENESIS_BLOCK" ++
          record.eventStr))
      simp only [AuditRecord.chain, hFull, Option.getD_some]

theorem step_sound
    (hDigest : ∀ text, digest text ≠ "")
    (event : AuditEvent)
    (hSound : log.Sound digest) :
    (log.step digest event).Sound digest := by
  cases event with
  | enqueue record =>
      exact hSound.idle rfl (fun _ _ => id)
  | writeEvent record =>
      have hNot :
          ¬AllChained (log.rows ++ [record.plain]) := by
        rw [allChained_append]
        rintro ⟨_, hSome⟩
        cases hSome
      refine ⟨?_, fun h => absurd h hNot,
        fun h => absurd h hNot⟩
      intro row hMem
      rcases List.mem_append.mp hMem with hOld | hNew
      · exact hSound.fits row hOld
      · rw [List.mem_singleton] at hNew
        subst hNew
        exact Or.inl ⟨rfl, rfl⟩
  | processQueue =>
      unfold AuditLog.step
      dsimp only
      split
      · split
        · exact hSound
        · exact hSound.idle rfl (fun _ _ hEq => by cases hEq)
      · exact hSound
  | fetchLastEventHash =>
      unfold AuditLog.step
      dsimp only
      split
      · refine ⟨hSound.fits, hSound.linked, ?_⟩
        intro hChained batch lastHash hWriting
        have hTip :=
          tip_eq_lastEventHash hDigest hSound hChained
        cases hWriting
        exact hTip
      · exact hSound
  | writeNext =>
      unfold AuditLog.step
      dsimp only
      split
      · rename_i record rest lastHash hWorker
        apply hSound.writeNext hDigest hWorker
        split
        · exact Or.inl rfl
        · exact Or.inr rfl
      · exact hSound
  | writeFails =>
      exact hSound.idle rfl (fun _ _ hEq => by cases hEq)
  | restart =>
      exact hSound.idle rfl (fun _ _ hEq => by cases hEq)

theorem run_sound
    (hDigest : ∀ text, digest text ≠ "")
    (events : List AuditEvent) :
    (run (AuditLog.step digest) AuditLog.empty
      events).Sound digest :=
  run_keeps (fun _ event h => step_sound hDigest event h)
    events empty_sound

/- A direct row has no place in the chain. -/
theorem allChained_of_linkedFrom
    {rows : List AuditRow}
    (hFits : ∀ row ∈ rows, RowFits digest row)
    {prev : String}
    (hLinked : LinkedFrom (some prev) rows) :
    AllChained rows := by
  induction rows generalizing prev with
  | nil => exact fun _ hMem => by cases hMem
  | cons row rest ih =>
      rcases hFits row (by simp) with
        ⟨hNone, _⟩ | ⟨_, _, hHash⟩
      · rw [hLinked.1] at hNone
        cases hNone
      · have hRest := hLinked.2
        rw [hHash] at hRest
        have hLater := ih
          (fun other hMem => hFits other (by simp [hMem]))
          hRest
        intro other hMem
        rcases List.mem_cons.mp hMem with rfl | hMem
        · rw [hHash]
          rfl
        · exact hLater other hMem

theorem AuditLog.Sound.linked_iff
    (hSound : log.Sound digest) :
    Linked log.rows ↔ AllChained log.rows :=
  ⟨allChained_of_linkedFrom hSound.fits, hSound.linked⟩

end Linkage

------------------------------------------------------------
-- Evidence
------------------------------------------------------------

section Evidence

variable {digest : String → String}

/- Links do not look at the records. -/
theorem linkedFrom_edit
    (prev : Option String)
    (before later : List AuditRow)
    (row : AuditRow)
    (record : AuditRecord) :
    LinkedFrom prev
        (before ++ { row with record := record } :: later) ↔
      LinkedFrom prev (before ++ row :: later) := by
  induction before generalizing prev with
  | nil => exact Iff.rfl
  | cons first rest ih =>
      simp only [List.cons_append, LinkedFrom, ih]

/- A record with the same metadata takes over the hash. -/
theorem verifies_edit
    (before later : List AuditRow)
    (row : AuditRow)
    (record : AuditRecord)
    (hMetadata : record.metadata = row.record.metadata)
    (hVerifies : Verifies digest (before ++ row :: later)) :
    Verifies digest
      (before ++ { row with record := record } :: later) := by
  refine ⟨(linkedFrom_edit _ before later row record).mpr
    hVerifies.1, ?_⟩
  intro other hMem
  rcases List.mem_append.mp hMem with hBefore | hMem
  · exact hVerifies.2 other (by simp [hBefore])
  · rcases List.mem_cons.mp hMem with rfl | hLater
    · rcases hVerifies.2 row (by simp) with
        ⟨prev, hPrev, hHash⟩
      refine ⟨prev, hPrev, ?_⟩
      have hSame : record.eventStr = row.record.eventStr := by
        rw [AuditRecord.eventStr, hMetadata]
        rfl
      dsimp only
      rw [hSame]
      exact hHash
    · exact hVerifies.2 other (by simp [hLater])

theorem not_manipulates_nil
    {altered : List AuditRow} :
    ¬Manipulates [] altered := by
  intro hManipulates
  generalize hEmpty : ([] : List AuditRow) = rows
    at hManipulates
  cases hManipulates with
  | delete before row next later => simp at hEmpty
  | swap before row next later hOther => simp at hEmpty
  | edit before row record later hOther => simp at hEmpty

/- Another type, with everything else as it was. -/
def AuditRecord.retype
    (record : AuditRecord) : AuditRecord :=
  { record with event_type := record.event_type ++ "*" }

theorem retype_ne
    (record : AuditRecord) :
    record.retype ≠ record := by
  intro hSame
  have hType := congrArg AuditRecord.event_type hSame
  have hLength := congrArg String.length hType
  simp [AuditRecord.retype] at hLength

theorem auditChain_iff_nil
    (rows : List AuditRow) :
    AuditChain digest rows ↔ rows = [] := by
  constructor
  · rintro ⟨hVerifies, hEvident⟩
    cases rows with
    | nil => rfl
    | cons row rest =>
        have hEdit := Manipulates.edit [] row
          row.record.retype rest (retype_ne row.record)
        have hStill := verifies_edit [] rest row
          row.record.retype rfl hVerifies
        exact absurd hStill (hEvident _ hEdit)
  · rintro rfl
    refine ⟨⟨trivial, fun _ hMem => by cases hMem⟩, ?_⟩
    exact fun altered hManipulates _ =>
      not_manipulates_nil hManipulates

end Evidence

/-
  After every run the log is the hash chain of the contract
  exactly when it is empty. Its rows are linked exactly when
  all of them were written by the worker.
-/
theorem auditChain_iff_empty
    (digest : String → String)
    (hDigest : ∀ text, digest text ≠ "")
    (events : List AuditEvent)
    (log : AuditLog)
    (hRun :
      log = run (AuditLog.step digest) AuditLog.empty
        events) :
    (AuditChain digest log.rows ↔ log.rows = []) ∧
    (Linked log.rows ↔ AllChained log.rows) := by
  subst hRun
  exact ⟨auditChain_iff_nil _,
    (run_sound hDigest events).linked_iff⟩

/- The digest of the record below, as SHA-256 gives it. -/
def sampleDigest
    (text : String) : String :=
  if text =
      "GENESIS_BLOCK\x7b\"reason\":\"BACKEND_REVOCATION\"\x7d" then
    "06b0aa03b735be2145f7438f78924868a2bcd209f971504634e6d6e69c8214f5"
  else
    "e3b0c44298fc1c149afbf4c8996fb92427ae41e4649b934ca495991b7852b855"

theorem sampleDigest_ne
    (text : String) :
    sampleDigest text ≠ "" := by
  unfold sampleDigest
  split <;> decide

/- The worker logs a revocation. -/
def revocationLogged : List AuditEvent :=
  [.enqueue
    { event_type := "LICENSE_REVOKED"
      severity := "CRITICAL"
      result := "RECORDED"
      metadata :=
        some "\x7b\"reason\":\"BACKEND_REVOCATION\"\x7d" },
    .processQueue, .fetchLastEventHash, .writeNext]

/- A row of the worker alone is linked. -/
theorem revocation_linked :
    Linked
      (run (AuditLog.step sampleDigest) AuditLog.empty
        revocationLogged).rows := by
  apply (auditChain_iff_empty sampleDigest sampleDigest_ne
    revocationLogged _ rfl).2.mpr
  unfold AllChained
  decide

/-
  A transition that is logged directly after it is not, and
  the type of the first row is not covered by its hash.
-/
theorem direct_row_breaks_chain :
    let log := run (AuditLog.step sampleDigest)
      AuditLog.empty
      (revocationLogged ++
        [.writeEvent
          { event_type := "STATE_TRANSITION"
            severity := "INFO"
            result := "SUCCESS"
            metadata := none }])
    log.rows.length = 2 ∧ ¬Linked log.rows ∧
    ¬AuditChain sampleDigest
      (run (AuditLog.step sampleDigest) AuditLog.empty
        revocationLogged).rows := by
  refine ⟨rfl, ?_, ?_⟩
  · rintro ⟨_, hSecond, _⟩
    cases hSecond
  · rw [auditChain_iff_nil]
    decide

end ControlPlane
