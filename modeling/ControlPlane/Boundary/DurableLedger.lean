import Mathlib.Data.List.Sort
import ControlPlane.Data.Run
import ControlPlane.Data.Table
import ControlPlane.Boundary.Ledger

/-
  The idempotency ledger on a storage engine.

  Every record of the ledger is also a row of a table, and a
  ledger that is built on the table takes up the rows that
  have not expired. Memory forgets more than the table: the
  capacity bound and the lazy expiry of `check` leave the
  rows alone, and a prune deletes the expired rows only when
  it found an expired record in memory.

  The journal is what the calls have recorded last, key by
  key. A text that holds JSON is kept as the value it stands
  for.

  Main declarations:
    * `DurableLedger` and its operations
    * `LedgerLife` and `LedgerLife.step`
    * `LedgerLife.Coupled`
    * `LedgerLife.check_after_crash`
-/

------------------------------------------------------------
-- Rows
------------------------------------------------------------

namespace ControlPlane

/- Values that are stored as JSON, with their truth. -/
class JsonValue (α : Type) where
  truthy : α → Bool

/- The column of a value; a falsy one is stored as null. -/
def JsonValue.column
    {α : Type}
    [JsonValue α]
    (value : α) : Option α :=
  if truthy value then some value else none

/- A row of `idempotency_ledger`. -/
structure LedgerRow (μ ρ : Type) where
  idempotencyKey : String
  operationId : String
  status : LedgerStatus
  createdAt : Nat
  updatedAt : Nat
  cachedResultJson : Option ρ
  metadataJson : Option μ

/- The record that a new ledger makes of a row. -/
def LedgerRow.record
    {μ ρ : Type}
    (row : LedgerRow μ ρ) : LedgerRecord μ ρ where
  idempotencyKey := row.idempotencyKey
  operationId := row.operationId
  status := row.status
  createdAt := row.createdAt
  updatedAt := row.updatedAt
  cachedResult := row.cachedResultJson
  metadata := row.metadataJson

/- The primary key of the table is the idempotency key. -/
def LedgerRow.key
    {μ ρ : Type}
    (row : LedgerRow μ ρ) : Option String :=
  some row.idempotencyKey

/- The ledger in memory and its table. -/
structure DurableLedger (μ ρ : Type) where
  memory : IdempotencyLedger μ ρ
  table : Table (LedgerRow μ ρ) String LedgerRow.key

------------------------------------------------------------
-- Operations
------------------------------------------------------------

namespace DurableLedger

variable {μ ρ : Type}

/- A ledger on an empty table. -/
def fresh
    (maxAgeMs maxEntries : Nat) : DurableLedger μ ρ where
  memory := IdempotencyLedger.fresh maxAgeMs maxEntries
  table := Table.empty

def check
    (d : DurableLedger μ ρ)
    (now : Nat)
    (key : String) : DurableLedger μ ρ :=
  { d with memory := (d.memory.check now key).1 }

/- The prune finds an expired record in memory. -/
def prunes
    (d : DurableLedger μ ρ)
    (now : Nat) : Bool :=
  d.memory.records.values.any (d.memory.expired now)

/- The row is older than the limit. -/
def outdated
    (d : DurableLedger μ ρ)
    (now : Nat)
    (row : LedgerRow μ ρ) : Bool :=
  decide (row.updatedAt + d.memory.maxAgeMs < now)

/- Drop the expired records and, if there were any, rows. -/
def pruneExpired
    (d : DurableLedger μ ρ)
    (now : Nat) : DurableLedger μ ρ where
  memory := d.memory.pruneExpired now
  table :=
    if d.prunes now then d.table.deleteWhere (d.outdated now)
    else d.table

/- Forget every record. -/
def clear
    (d : DurableLedger μ ρ) : DurableLedger μ ρ where
  memory := { d.memory with records := OrderedMap.empty }
  table := d.table.deleteWhere (fun _ => true)

/-
  A new ledger on the same table: the rows that are not
  older than the limit, in the order of their last update.
-/
def reopen
    (d : DurableLedger μ ρ)
    (now : Nat) : DurableLedger μ ρ where
  memory :=
    { d.memory with
        records :=
          OrderedMap.load LedgerRow.idempotencyKey
            LedgerRow.record
            ((d.table.rows.filter
              (fun row => !d.outdated now row)).insertionSort
                (fun a b => a.updatedAt ≤ b.updatedAt)) }
  table := d.table

def recordInFlight
    [JsonValue μ]
    (d : DurableLedger μ ρ)
    (now : Nat)
    (key operationId : String)
    (metadata : μ) : DurableLedger μ ρ where
  memory := d.memory.recordInFlight now key operationId metadata
  table :=
    (d.pruneExpired now).table.insertOrReplace
      { idempotencyKey := key
        operationId := operationId
        status := .IN_FLIGHT
        createdAt := now
        updatedAt := now
        cachedResultJson := none
        metadataJson := JsonValue.column metadata }

/-
  A record in memory has its row updated in place; without
  one a fresh row replaces whatever the table has.
-/
def recordTerminal
    [JsonValue ρ]
    (d : DurableLedger μ ρ)
    (now : Nat)
    (key : String)
    (status : LedgerStatus)
    (cachedResult : ρ)
    (operationId : Option String) : DurableLedger μ ρ where
  memory :=
    d.memory.recordTerminal now key status cachedResult
      operationId
  table :=
    match d.memory.get? key with
    | some _ =>
        d.table.updateKey (some key)
          (fun row =>
            { row with
                status := status
                cachedResultJson :=
                  JsonValue.column cachedResult
                updatedAt := now })
          (fun _ => rfl)
    | none =>
        d.table.insertOrReplace
          { idempotencyKey := key
            operationId := presentOr operationId "unknown"
            status := status
            createdAt := now
            updatedAt := now
            cachedResultJson := JsonValue.column cachedResult
            metadataJson := none }

end DurableLedger

------------------------------------------------------------
-- Calls And The Journal
------------------------------------------------------------

inductive LedgerCall (μ ρ : Type) where
| recordInFlight (key operationId : String) (metadata : μ)
| recordTerminal
    (key : String) (status : LedgerStatus)
    (cachedResult : ρ) (operationId : Option String)
| check (key : String)
| pruneExpired
| clear
| reopen

structure LedgerEvent (μ ρ : Type) where
  elapsed : Nat
  call : LedgerCall μ ρ

/- What a call has recorded for a key, and when. -/
structure LastRecord where
  status : LedgerStatus
  operationId : String
  recordedAt : Nat

/-
  A ledger in the course of time, with the journal of what
  has been recorded last since it was cleared.
-/
structure LedgerLife (μ ρ : Type) where
  ledger : DurableLedger μ ρ
  now : Nat
  journal : String → Option LastRecord

namespace LedgerLife

variable {μ ρ : Type}

def fresh
    (maxAgeMs maxEntries now : Nat) : LedgerLife μ ρ where
  ledger := DurableLedger.fresh maxAgeMs maxEntries
  now := now
  journal := fun _ => none

/- The journal with a new last record of a key. -/
def noted
    (journal : String → Option LastRecord)
    (key : String)
    (last : LastRecord) : String → Option LastRecord :=
  fun other =>
    if other = key then some last else journal other

/-
  What the journal has for a key, unless it was recorded
  longer ago than the limit.
-/
def answer
    (s : LedgerLife μ ρ)
    (now : Nat)
    (key : String) : Option (LedgerStatus × String) :=
  ((s.journal key).filter
    (fun last =>
      decide (now - last.recordedAt ≤
        s.ledger.memory.maxAgeMs))).map
    (fun last => (last.status, last.operationId))

variable [JsonValue μ] [JsonValue ρ]

def step
    (s : LedgerLife μ ρ)
    (event : LedgerEvent μ ρ) : LedgerLife μ ρ :=
  let now := s.now + event.elapsed
  match event.call with
  | .recordInFlight key operationId metadata =>
      { ledger :=
          s.ledger.recordInFlight now key operationId metadata
        now := now
        journal :=
          noted s.journal key
            { status := .IN_FLIGHT
              operationId := operationId
              recordedAt := now } }
  | .recordTerminal key status cachedResult operationId =>
      { ledger :=
          s.ledger.recordTerminal now key status cachedResult
            operationId
        now := now
        journal :=
          noted s.journal key
            { status := status
              operationId :=
                (s.ledger.memory.terminalRecord now key status
                  cachedResult operationId).operationId
              recordedAt := now } }
  | .check key =>
      { s with
          ledger := s.ledger.check now key
          now := now }
  | .pruneExpired =>
      { s with
          ledger := s.ledger.pruneExpired now
          now := now }
  | .clear =>
      { ledger := s.ledger.clear
        now := now
        journal := fun _ => none }
  | .reopen =>
      { s with
          ledger := s.ledger.reopen now
          now := now }

end LedgerLife

------------------------------------------------------------
-- The Coupling Of Memory, Table And Journal
------------------------------------------------------------

/- The two expiry comparisons agree. -/
theorem IdempotencyLedger.live_iff
    {μ ρ : Type}
    (ledger : IdempotencyLedger μ ρ)
    (now : Nat)
    (record : LedgerRecord μ ρ) :
    (!ledger.expired now record) = true ↔
      now ≤ record.updatedAt + ledger.maxAgeMs := by
  simp only [expired, Bool.not_eq_true',
    decide_eq_false_iff_not]
  omega

/-
  Every record in memory has its row, every row is what the
  journal has, and every entry of the journal that has not
  expired has a row.
-/
structure Coupled
    {μ ρ : Type}
    (d : DurableLedger μ ρ)
    (now : Nat)
    (journal : String → Option LastRecord) : Prop where
  memory_row :
    ∀ key record,
      d.memory.get? key = some record →
        ∃ row,
          d.table.find? key = some row ∧
            record.operationId = row.operationId ∧
            record.updatedAt = row.updatedAt
  row_journal :
    ∀ key row,
      d.table.find? key = some row →
        journal key =
          some
            { status := row.status
              operationId := row.operationId
              recordedAt := row.updatedAt }
  journal_row :
    ∀ key last,
      journal key = some last →
        now ≤ last.recordedAt + d.memory.maxAgeMs →
          ∃ row, d.table.find? key = some row

namespace Coupled

variable {μ ρ : Type} {d next : DurableLedger μ ρ}
variable {now : Nat} {journal : String → Option LastRecord}

/- Time passes. -/
theorem later
    (hCoupled : Coupled d now journal)
    (elapsed : Nat) :
    Coupled d (now + elapsed) journal where
  memory_row := hCoupled.memory_row
  row_journal := hCoupled.row_journal
  journal_row := by
    intro key last hLast hLive
    exact hCoupled.journal_row key last hLast (by omega)

/- Memory forgets, and the table does not. -/
theorem forget
    (hCoupled : Coupled d now journal)
    (hTable : next.table = d.table)
    (hMaxAge : next.memory.maxAgeMs = d.memory.maxAgeMs)
    (hMemory :
      ∀ key record,
        next.memory.get? key = some record →
          d.memory.get? key = some record) :
    Coupled next now journal where
  memory_row := by
    intro key record hRecord
    rw [hTable]
    exact hCoupled.memory_row key record
      (hMemory key record hRecord)
  row_journal := by
    rw [hTable]
    exact hCoupled.row_journal
  journal_row := by
    rw [hTable, hMaxAge]
    exact hCoupled.journal_row

/- A prune deletes the rows that have expired. -/
theorem pruneExpired
    (hCoupled : Coupled d now journal) :
    Coupled (d.pruneExpired now) now journal := by
  have hFind :
      ∀ key row,
        (d.pruneExpired now).table.find? key = some row →
          d.table.find? key = some row := by
    intro key row hRow
    unfold DurableLedger.pruneExpired at hRow
    dsimp only at hRow
    split at hRow
    · rw [Table.find?_deleteWhere] at hRow
      exact (Option.filter_eq_some_iff.mp hRow).1
    · exact hRow
  have hKept :
      ∀ key row,
        d.table.find? key = some row →
          now ≤ row.updatedAt + d.memory.maxAgeMs →
            (d.pruneExpired now).table.find? key =
              some row := by
    intro key row hRow hLive
    unfold DurableLedger.pruneExpired
    dsimp only
    split
    · rw [Table.find?_deleteWhere, hRow]
      simp [DurableLedger.outdated, hLive]
    · exact hRow
  refine ⟨?_, ?_, ?_⟩
  · intro key record hRecord
    have hPruned :
        (d.memory.pruneExpired now).get? key =
          some record := hRecord
    rw [IdempotencyLedger.get?_pruneExpired,
      Option.filter_eq_some_iff] at hPruned
    rcases hPruned with ⟨hOld, hLive⟩
    rcases hCoupled.memory_row key record hOld with
      ⟨row, hRow, hOperation, hUpdated⟩
    refine ⟨row, hKept key row hRow ?_, hOperation, hUpdated⟩
    rw [IdempotencyLedger.live_iff, hUpdated] at hLive
    exact hLive
  · intro key row hRow
    exact hCoupled.row_journal key row (hFind key row hRow)
  · intro key last hLast hLive
    rcases hCoupled.journal_row key last hLast hLive with
      ⟨row, hRow⟩
    have hSame := hCoupled.row_journal key row hRow
    rw [hLast] at hSame
    refine ⟨row, hKept key row hRow ?_⟩
    have hAt : last.recordedAt = row.updatedAt := by
      rw [Option.some.inj hSame]
    rw [← hAt]
    exact hLive

/- A call writes the record and the row of one key. -/
theorem write
    (hCoupled : Coupled d now journal)
    {key : String}
    {record : LedgerRecord μ ρ}
    (row : LedgerRow μ ρ)
    (hMaxAge : next.memory.maxAgeMs = d.memory.maxAgeMs)
    (hTable :
      ∀ other,
        next.table.find? other =
          if other = key then some row
          else d.table.find? other)
    (hRecord : next.memory.get? key = some record)
    (hMemory :
      ∀ other found,
        other ≠ key →
          next.memory.get? other = some found →
            d.memory.get? other = some found)
    (hOperation : record.operationId = row.operationId)
    (hUpdated : record.updatedAt = row.updatedAt) :
    Coupled next now
      (LedgerLife.noted journal key
        { status := row.status
          operationId := row.operationId
          recordedAt := row.updatedAt }) where
  memory_row := by
    intro other found hFound
    rw [hTable]
    by_cases hOther : other = key
    · rw [if_pos hOther]
      rw [hOther, hRecord] at hFound
      rw [← Option.some.inj hFound]
      exact ⟨row, rfl, hOperation, hUpdated⟩
    · rw [if_neg hOther]
      exact hCoupled.memory_row other found
        (hMemory other found hOther hFound)
  row_journal := by
    intro other found hFound
    rw [hTable] at hFound
    unfold LedgerLife.noted
    by_cases hOther : other = key
    · rw [if_pos hOther] at hFound ⊢
      rw [Option.some.inj hFound]
    · rw [if_neg hOther] at hFound ⊢
      exact hCoupled.row_journal other found hFound
  journal_row := by
    intro other last hLast hLive
    rw [hTable]
    unfold LedgerLife.noted at hLast
    by_cases hOther : other = key
    · rw [if_pos hOther]
      exact ⟨row, rfl⟩
    · rw [if_neg hOther] at hLast ⊢
      rw [hMaxAge] at hLive
      exact hCoupled.journal_row other last hLast hLive

end Coupled

------------------------------------------------------------
-- Calls Keep The Coupling
------------------------------------------------------------

namespace DurableLedger

variable {μ ρ : Type}

/- A new ledger has the rows that have not expired. -/
theorem get?_reopen
    (d : DurableLedger μ ρ)
    (now : Nat)
    (key : String)
    (record : LedgerRecord μ ρ) :
    (d.reopen now).memory.get? key = some record ↔
      ∃ row,
        d.table.find? key = some row ∧
          now ≤ row.updatedAt + d.memory.maxAgeMs ∧
          row.record = record := by
  have hDistinct :
      ((d.table.rows.filter
        (fun row => !d.outdated now row)).insertionSort
          (fun a b => a.updatedAt ≤ b.updatedAt)).Pairwise
            (fun a b =>
              a.idempotencyKey = key →
                b.idempotencyKey ≠ key) := by
    apply List.Pairwise.perm
      (l := d.table.rows.filter
        (fun row => !d.outdated now row))
    · apply (d.table.unique.filter _).imp
      rintro a b (hNull | hNe) hA hB
      · cases hNull
      · exact hNe (congrArg some (hA.trans hB.symm))
    · exact (List.perm_insertionSort _ _).symm
    · intro a b hSymm hB hA
      exact hSymm hA hB
  unfold reopen IdempotencyLedger.get?
  dsimp only
  rw [OrderedMap.get?_load _ _ hDistinct]
  constructor
  · rintro ⟨row, hMem, hKey, hRecord⟩
    rw [List.mem_insertionSort, List.mem_filter] at hMem
    refine ⟨row, ?_, ?_, hRecord⟩
    · rw [Table.find?_eq_some_iff]
      exact ⟨hMem.1, congrArg some hKey⟩
    · simpa [outdated] using hMem.2
  · rintro ⟨row, hRow, hLive, hRecord⟩
    rw [Table.find?_eq_some_iff] at hRow
    refine ⟨row, ?_, Option.some.inj hRow.2, hRecord⟩
    rw [List.mem_insertionSort, List.mem_filter]
    exact ⟨hRow.1, by simpa [outdated] using hLive⟩

end DurableLedger

namespace Coupled

variable {μ ρ : Type} {d : DurableLedger μ ρ}
variable {now : Nat} {journal : String → Option LastRecord}

theorem clear
    (d : DurableLedger μ ρ)
    (now : Nat) :
    Coupled d.clear now (fun _ => none) where
  memory_row := by
    intro key record hRecord
    cases hRecord
  row_journal := by
    intro key row hRow
    have hNone : d.clear.table.find? key = none := by
      unfold DurableLedger.clear
      rw [Table.find?_deleteWhere]
      simp
    rw [hNone] at hRow
    cases hRow
  journal_row := by
    intro key last hLast
    cases hLast

theorem reopen
    (hCoupled : Coupled d now journal) :
    Coupled (d.reopen now) now journal where
  memory_row := by
    intro key record hRecord
    rcases (d.get?_reopen now key record).mp hRecord with
      ⟨row, hRow, _, rfl⟩
    exact ⟨row, hRow, rfl, rfl⟩
  row_journal := hCoupled.row_journal
  journal_row := hCoupled.journal_row

theorem recordInFlight
    [JsonValue μ]
    (hCoupled : Coupled d now journal)
    (key operationId : String)
    (metadata : μ) :
    Coupled (d.recordInFlight now key operationId metadata)
      now
      (LedgerLife.noted journal key
        { status := .IN_FLIGHT
          operationId := operationId
          recordedAt := now }) := by
  refine hCoupled.pruneExpired.write
    { idempotencyKey := key
      operationId := operationId
      status := .IN_FLIGHT
      createdAt := now
      updatedAt := now
      cachedResultJson := none
      metadataJson := JsonValue.column metadata } ?_ ?_
    (IdempotencyLedger.get?_recordInFlight_self _ _ _ _ _)
    ?_ rfl rfl
  · exact IdempotencyLedger.recordInFlight_maxAgeMs _ _ _ _ _
  · intro other
    unfold DurableLedger.recordInFlight
    rw [Table.find?_insertOrReplace]
    simp [LedgerRow.key, eq_comm]
  · intro other found hOther hFound
    exact d.memory.get?_pruned_of_recordInFlight now
      operationId metadata hOther hFound

/- A result writes its record, whatever row it writes. -/
theorem writeTerminal
    [JsonValue ρ]
    (hCoupled : Coupled d now journal)
    (key : String)
    (status : LedgerStatus)
    (cachedResult : ρ)
    (operationId : Option String)
    (row : LedgerRow μ ρ)
    (hTable :
      ∀ other,
        (d.recordTerminal now key status cachedResult
            operationId).table.find? other =
          if other = key then some row
          else d.table.find? other)
    (hOperation :
      (d.memory.terminalRecord now key status cachedResult
        operationId).operationId = row.operationId)
    (hUpdated :
      (d.memory.terminalRecord now key status cachedResult
        operationId).updatedAt = row.updatedAt) :
    Coupled
      (d.recordTerminal now key status cachedResult
        operationId)
      now
      (LedgerLife.noted journal key
        { status := row.status
          operationId := row.operationId
          recordedAt := row.updatedAt }) := by
  have hGet :=
    fun other =>
      d.memory.get?_recordTerminal now key other status
        cachedResult operationId
  have hRecord := hGet key
  rw [if_pos rfl] at hRecord
  refine hCoupled.write row ?_ hTable hRecord ?_ hOperation
    hUpdated
  · exact d.memory.recordTerminal_maxAgeMs now key status
      cachedResult operationId
  · intro other found hOther hFound
    have hSame := hGet other
    rw [if_neg hOther] at hSame
    exact hSame.symm.trans hFound

theorem recordTerminal
    [JsonValue ρ]
    (hCoupled : Coupled d now journal)
    (key : String)
    (status : LedgerStatus)
    (cachedResult : ρ)
    (operationId : Option String) :
    Coupled
      (d.recordTerminal now key status cachedResult
        operationId)
      now
      (LedgerLife.noted journal key
        { status := status
          operationId :=
            (d.memory.terminalRecord now key status
              cachedResult operationId).operationId
          recordedAt := now }) := by
  cases hExisting : d.memory.get? key with
  | some existing =>
      rcases hCoupled.memory_row key existing hExisting with
        ⟨row, hRow, hOperation, _⟩
      have hTerminal :
          (d.memory.terminalRecord now key status cachedResult
            operationId).operationId = row.operationId := by
        unfold IdempotencyLedger.terminalRecord
        rw [hExisting]
        exact hOperation
      rw [hTerminal]
      refine hCoupled.writeTerminal key status cachedResult
        operationId
        { row with
            status := status
            cachedResultJson := JsonValue.column cachedResult
            updatedAt := now } ?_ hTerminal ?_
      · intro other
        unfold DurableLedger.recordTerminal
        rw [hExisting]
        dsimp only
        refine (Table.find?_updateKey _ _ _ _ _).trans ?_
        by_cases hOther : other = key
        · simp [hOther, hRow]
        · have hNe : ¬ key = other := fun h => hOther h.symm
          simp [hOther, hNe]
      · simp
  | none =>
      have hTerminal :
          (d.memory.terminalRecord now key status cachedResult
            operationId).operationId =
              presentOr operationId "unknown" := by
        unfold IdempotencyLedger.terminalRecord
        rw [hExisting]
      rw [hTerminal]
      refine hCoupled.writeTerminal key status cachedResult
        operationId
        { idempotencyKey := key
          operationId := presentOr operationId "unknown"
          status := status
          createdAt := now
          updatedAt := now
          cachedResultJson := JsonValue.column cachedResult
          metadataJson := none } ?_ hTerminal ?_
      · intro other
        unfold DurableLedger.recordTerminal
        rw [hExisting]
        dsimp only
        rw [Table.find?_insertOrReplace]
        simp [LedgerRow.key, eq_comm]
      · simp

end Coupled

------------------------------------------------------------
-- After A Crash
------------------------------------------------------------

namespace LedgerLife

variable {μ ρ : Type}

/- What a coupled ledger answers when it is built anew. -/
theorem check_reopen
    {s : LedgerLife μ ρ}
    (hCoupled : Coupled s.ledger s.now s.journal)
    (built checked : Nat)
    {key : String}
    (hKey : key ≠ "") :
    (((s.ledger.reopen (s.now + built)).memory.check
        (s.now + built + checked) key).2.map
          (fun record => (record.status, record.operationId))) =
      s.answer (s.now + built + checked) key := by
  rw [IdempotencyLedger.check_answer _ _ hKey]
  unfold answer
  apply Option.ext
  rintro ⟨status, operationId⟩
  simp only [Option.map_eq_some_iff,
    Option.filter_eq_some_iff, Prod.mk.injEq,
    DurableLedger.get?_reopen]
  constructor
  · rintro ⟨record, ⟨⟨row, hRow, _, rfl⟩, hLive⟩, rfl, rfl⟩
    refine ⟨_, ⟨hCoupled.row_journal key row hRow, ?_⟩, rfl,
      rfl⟩
    have hFresh :
        s.now + built + checked ≤
          row.updatedAt + s.ledger.memory.maxAgeMs :=
      (IdempotencyLedger.live_iff _ _ _).mp hLive
    apply decide_eq_true
    dsimp only
    omega
  · rintro ⟨last, ⟨hLast, hLive⟩, rfl, rfl⟩
    have hFresh :
        s.now + built + checked ≤
          last.recordedAt + s.ledger.memory.maxAgeMs := by
      have hAge := of_decide_eq_true hLive
      omega
    rcases hCoupled.journal_row key last hLast (by omega) with
      ⟨row, hRow⟩
    have hSame := hCoupled.row_journal key row hRow
    rw [hLast] at hSame
    rw [Option.some.inj hSame] at hFresh ⊢
    refine ⟨row.record, ⟨⟨row, hRow, ?_, rfl⟩, ?_⟩, rfl, rfl⟩
    · dsimp only at hFresh
      omega
    · exact (IdempotencyLedger.live_iff _ _ _).mpr hFresh

variable [JsonValue μ] [JsonValue ρ]

theorem coupled_step
    (s : LedgerLife μ ρ)
    (event : LedgerEvent μ ρ)
    (hCoupled : Coupled s.ledger s.now s.journal) :
    Coupled (s.step event).ledger (s.step event).now
      (s.step event).journal := by
  have hLater := hCoupled.later event.elapsed
  unfold step
  cases event.call with
  | recordInFlight key operationId metadata =>
      exact hLater.recordInFlight key operationId metadata
  | recordTerminal key status cachedResult operationId =>
      exact hLater.recordTerminal key status cachedResult
        operationId
  | check key =>
      apply hLater.forget
      · rfl
      · exact s.ledger.memory.check_maxAgeMs _ key
      · intro other record hRecord
        exact s.ledger.memory.get?_of_check _ key other
          hRecord
  | pruneExpired => exact hLater.pruneExpired
  | clear => exact Coupled.clear s.ledger _
  | reopen => exact hLater.reopen

theorem coupled_run
    (maxAgeMs maxEntries now : Nat)
    (events : List (LedgerEvent μ ρ)) :
    let s := run step (fresh maxAgeMs maxEntries now) events
    Coupled s.ledger s.now s.journal := by
  apply run_keeps coupled_step
  refine ⟨?_, ?_, ?_⟩
  · intro key record hRecord
    cases hRecord
  · intro key row hRow
    cases hRow
  · intro key last hLast
    cases hLast

/-
  A ledger that is built after a crash answers what was last
  recorded for a key, if it has not expired. The empty key is
  no key.
-/
theorem check_after_crash
    (maxAgeMs maxEntries now : Nat)
    (events : List (LedgerEvent μ ρ))
    (built checked : Nat)
    (key : String) :
    let s := run step (fresh maxAgeMs maxEntries now) events
    (((s.ledger.reopen (s.now + built)).memory.check
        (s.now + built + checked) key).2.map
          (fun record => (record.status, record.operationId))) =
      if key = "" then none
      else s.answer (s.now + built + checked) key := by
  intro s
  by_cases hKey : key = ""
  · rw [if_pos hKey, hKey]
    rfl
  · rw [if_neg hKey]
    exact check_reopen
      (coupled_run maxAgeMs maxEntries now events) built
      checked hKey

end LedgerLife

instance : JsonValue TacticalPayload where
  truthy := fun _ => true

instance : JsonValue OperationResult where
  truthy := fun _ => true

/- The dispatch of a bet under the empty key. -/
def emptyKeyDispatch :
    LedgerEvent TacticalPayload OperationResult where
  elapsed := 1
  call := .recordInFlight "" "op_1" {}

/- A record under the empty key is not answered. -/
theorem LedgerLife.empty_key_is_new :
    ¬ ∀ (built checked : Nat) (key : String),
      let s :=
        run step (fresh 86400000 10 1) [emptyKeyDispatch]
      (((s.ledger.reopen (s.now + built)).memory.check
          (s.now + built + checked) key).2.map
            (fun record =>
              (record.status, record.operationId))) =
        s.answer (s.now + built + checked) key := by
  intro hAll
  have hEmpty := hAll 0 0 ""
  revert hEmpty
  decide

end ControlPlane
