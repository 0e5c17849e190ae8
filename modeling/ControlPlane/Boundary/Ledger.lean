import ControlPlane.Data.OrderedMap
import ControlPlane.Boundary.Protocol

/-
  The financial idempotency ledger.

  Records are kept in an insertion-ordered map whose first
  key is the least recently used one. `check` answers for a
  key and refreshes its position, `recordInFlight` prunes
  expired records, evicts the oldest one at capacity and
  stores a new record, `recordTerminal` overwrites the
  outcome of a record or stores a fresh one.

  Main declarations:
    * `IdempotencyLedger.check`
    * `IdempotencyLedger.recordInFlight`
    * `IdempotencyLedger.recordTerminal`
    * the lookup law `get?_` of each operation
-/

------------------------------------------------------------
-- Records
------------------------------------------------------------

namespace ControlPlane

/- Life of an idempotency key. -/
inductive LedgerStatus where
| IN_FLIGHT | COMPLETED | FAILED | UNCERTAIN
deriving DecidableEq, Repr

/- One ledger record, over metadata and result types. -/
structure LedgerRecord (μ ρ : Type) where
  idempotencyKey : String
  operationId : String
  status : LedgerStatus
  createdAt : Nat
  updatedAt : Nat
  cachedResult : Option ρ
  metadata : Option μ
deriving DecidableEq, Repr

/- The ledger with its time-to-live and capacity. -/
structure IdempotencyLedger (μ ρ : Type) where
  maxAgeMs : Nat
  maxEntries : Nat
  records : OrderedMap String (LedgerRecord μ ρ)

namespace IdempotencyLedger

variable {μ ρ : Type}

/- The ledger of a new process without persistence. -/
def fresh (maxAgeMs maxEntries : Nat) :
    IdempotencyLedger μ ρ where
  maxAgeMs := maxAgeMs
  maxEntries := maxEntries
  records := OrderedMap.empty

/- A record is expired when it is older than the limit. -/
def expired
    (ledger : IdempotencyLedger μ ρ)
    (now : Nat)
    (record : LedgerRecord μ ρ) : Bool :=
  decide (ledger.maxAgeMs < now - record.updatedAt)

------------------------------------------------------------
-- Operations
------------------------------------------------------------

/-
  Look up a key: an expired record is dropped, a live one is
  moved to the most recently used position. The answer is
  the live record, or `none` for a new key.
-/
def check
    (ledger : IdempotencyLedger μ ρ)
    (now : Nat)
    (key : String) :
    IdempotencyLedger μ ρ × Option (LedgerRecord μ ρ) :=
  if key = "" then
    (ledger, none)
  else
    match ledger.records.get? key with
    | none => (ledger, none)
    | some record =>
        if ledger.expired now record then
          ({ ledger with
              records := ledger.records.delete key }, none)
        else
          ({ ledger with
              records :=
                (ledger.records.delete key).set key
                  record }, some record)

/- Drop the expired records. -/
def pruneExpired
    (ledger : IdempotencyLedger μ ρ)
    (now : Nat) : IdempotencyLedger μ ρ :=
  { ledger with
      records :=
        ledger.records.filter
          (fun _ record => !ledger.expired now record) }

/-
  The key the capacity bound removes: the oldest one, when
  the ledger is full and that key is not empty.
-/
def evictedKey
    (ledger : IdempotencyLedger μ ρ) : Option String :=
  if ledger.maxEntries ≤ ledger.records.size then
    ledger.records.firstKey?.filter (fun key => key ≠ "")
  else
    none

/- Enforce the capacity bound before an insertion. -/
def enforceCapacity
    (ledger : IdempotencyLedger μ ρ) :
    IdempotencyLedger μ ρ :=
  match ledger.evictedKey with
  | some oldestKey =>
      { ledger with
          records := ledger.records.delete oldestKey }
  | none => ledger

/- The record of an operation that is being dispatched. -/
def inFlightRecord
    (now : Nat)
    (key operationId : String)
    (metadata : μ) : LedgerRecord μ ρ where
  idempotencyKey := key
  operationId := operationId
  status := .IN_FLIGHT
  createdAt := now
  updatedAt := now
  cachedResult := none
  metadata := some metadata

/- Mark a key as in flight. -/
def recordInFlight
    (ledger : IdempotencyLedger μ ρ)
    (now : Nat)
    (key operationId : String)
    (metadata : μ) : IdempotencyLedger μ ρ :=
  let pruned := (ledger.pruneExpired now).enforceCapacity
  { pruned with
      records :=
        pruned.records.set key
          (inFlightRecord now key operationId metadata) }

/-
  Record an outcome. An existing record takes the status,
  the result and the time whatever its status was; without
  one a fresh record is stored under the operation id of the
  result.
-/
def recordTerminal
    (ledger : IdempotencyLedger μ ρ)
    (now : Nat)
    (key : String)
    (status : LedgerStatus)
    (cachedResult : ρ)
    (operationId : Option String) :
    IdempotencyLedger μ ρ :=
  match ledger.records.get? key with
  | some existing =>
      { ledger with
          records :=
            (ledger.records.delete key).set key
              { existing with
                  status := status
                  cachedResult := some cachedResult
                  updatedAt := now } }
  | none =>
      { ledger with
          records :=
            ledger.records.set key
              { idempotencyKey := key
                operationId :=
                  presentOr operationId "unknown"
                status := status
                createdAt := now
                updatedAt := now
                cachedResult := some cachedResult
                metadata := none } }

end IdempotencyLedger

------------------------------------------------------------
-- Lookup Laws
------------------------------------------------------------

namespace IdempotencyLedger

variable {μ ρ : Type}

/- The record stored under a key. -/
def get?
    (ledger : IdempotencyLedger μ ρ)
    (key : String) : Option (LedgerRecord μ ρ) :=
  ledger.records.get? key

@[simp] theorem check_maxAgeMs
    (ledger : IdempotencyLedger μ ρ)
    (now : Nat)
    (key : String) :
    (ledger.check now key).1.maxAgeMs =
      ledger.maxAgeMs := by
  unfold check
  split
  · rfl
  · split
    · rfl
    · split <;> rfl

@[simp] theorem enforceCapacity_maxAgeMs
    (ledger : IdempotencyLedger μ ρ) :
    ledger.enforceCapacity.maxAgeMs =
      ledger.maxAgeMs := by
  unfold enforceCapacity
  split <;> rfl

@[simp] theorem recordInFlight_maxAgeMs
    (ledger : IdempotencyLedger μ ρ)
    (now : Nat)
    (key operationId : String)
    (metadata : μ) :
    (ledger.recordInFlight now key operationId
      metadata).maxAgeMs = ledger.maxAgeMs := by
  simp [recordInFlight, pruneExpired]

@[simp] theorem recordTerminal_maxAgeMs
    (ledger : IdempotencyLedger μ ρ)
    (now : Nat)
    (key : String)
    (status : LedgerStatus)
    (cachedResult : ρ)
    (operationId : Option String) :
    (ledger.recordTerminal now key status cachedResult
      operationId).maxAgeMs = ledger.maxAgeMs := by
  unfold recordTerminal
  split <;> rfl

/- The answer of `check` is the live record of the key. -/
theorem check_answer
    (ledger : IdempotencyLedger μ ρ)
    (now : Nat)
    {key : String}
    (hKey : key ≠ "") :
    (ledger.check now key).2 =
      (ledger.get? key).filter
        (fun record => !ledger.expired now record) := by
  unfold check get?
  rw [if_neg hKey]
  cases hRecord : ledger.records.get? key with
  | none => rfl
  | some record =>
      cases hExpired : ledger.expired now record with
      | true => simp [hExpired, Option.filter]
      | false => simp [hExpired, Option.filter]

/-
  `check` keeps every record, the expired one of the checked
  key excepted.
-/
theorem get?_check
    (ledger : IdempotencyLedger μ ρ)
    (now : Nat)
    (key other : String)
    {record : LedgerRecord μ ρ}
    (hRecord : ledger.get? other = some record)
    (hLive : ledger.expired now record = false) :
    (ledger.check now key).1.get? other = some record := by
  unfold get? at hRecord
  unfold check get?
  by_cases hKey : key = ""
  · rw [if_pos hKey]
    exact hRecord
  · rw [if_neg hKey]
    by_cases hOther : other = key
    · subst hOther
      simp [hRecord, hLive]
    · cases hChecked : ledger.records.get? key with
      | none => exact hRecord
      | some checked =>
          cases hExpired : ledger.expired now checked with
          | true =>
              simp only [hExpired, if_true]
              rw [OrderedMap.get?_delete_of_ne _ hOther]
              exact hRecord
          | false =>
              simp only [hExpired]
              rw [if_neg (by simp),
                OrderedMap.get?_set_of_ne _ _ hOther,
                OrderedMap.get?_delete_of_ne _ hOther]
              exact hRecord

/- `check` adds no record. -/
theorem get?_of_check
    (ledger : IdempotencyLedger μ ρ)
    (now : Nat)
    (key other : String)
    {record : LedgerRecord μ ρ}
    (hRecord :
      (ledger.check now key).1.get? other = some record) :
    ledger.get? other = some record := by
  unfold check get? at hRecord
  unfold get?
  by_cases hKey : key = ""
  · rw [if_pos hKey] at hRecord
    exact hRecord
  · rw [if_neg hKey] at hRecord
    cases hChecked : ledger.records.get? key with
    | none =>
        rw [hChecked] at hRecord
        exact hRecord
    | some checked =>
        rw [hChecked] at hRecord
        dsimp only at hRecord
        by_cases hOther : other = key
        · subst hOther
          split at hRecord
          · simp at hRecord
          · rw [OrderedMap.get?_set_self] at hRecord
            exact hChecked.trans hRecord
        · split at hRecord
          · rw [OrderedMap.get?_delete_of_ne _ hOther]
              at hRecord
            exact hRecord
          · rw [OrderedMap.get?_set_of_ne _ _ hOther,
              OrderedMap.get?_delete_of_ne _ hOther]
              at hRecord
            exact hRecord

/- Pruning keeps the live records. -/
theorem get?_pruneExpired
    (ledger : IdempotencyLedger μ ρ)
    (now : Nat)
    (key : String) :
    (ledger.pruneExpired now).get? key =
      (ledger.get? key).filter
        (fun record => !ledger.expired now record) := by
  unfold pruneExpired get?
  rw [OrderedMap.get?_filter]

/- The capacity bound removes the evicted key only. -/
theorem get?_enforceCapacity
    (ledger : IdempotencyLedger μ ρ)
    (key : String) :
    ledger.enforceCapacity.get? key =
      if ledger.evictedKey = some key then none
      else ledger.get? key := by
  unfold enforceCapacity get?
  cases hEvicted : ledger.evictedKey with
  | none => simp
  | some oldestKey =>
      simp only [OrderedMap.get?_delete,
        Option.some.injEq, eq_comm]

theorem get?_recordInFlight_self
    (ledger : IdempotencyLedger μ ρ)
    (now : Nat)
    (key operationId : String)
    (metadata : μ) :
    (ledger.recordInFlight now key operationId
      metadata).get? key =
      some (inFlightRecord now key operationId
        metadata) := by
  simp [recordInFlight, get?]

/-
  Storing one key keeps a live record of another, unless the
  capacity bound evicts it.
-/
theorem get?_recordInFlight_of_ne
    (ledger : IdempotencyLedger μ ρ)
    (now : Nat)
    {key other : String}
    (operationId : String)
    (metadata : μ)
    {record : LedgerRecord μ ρ}
    (hNe : other ≠ key)
    (hRecord : ledger.get? other = some record)
    (hLive : ledger.expired now record = false)
    (hKept :
      (ledger.pruneExpired now).evictedKey ≠
        some other) :
    (ledger.recordInFlight now key operationId
      metadata).get? other = some record := by
  have hEnforced :
      (ledger.pruneExpired now).enforceCapacity.get?
        other = some record := by
    rw [get?_enforceCapacity, if_neg hKept,
      get?_pruneExpired, hRecord]
    simp [hLive, Option.filter]
  unfold recordInFlight get?
  rw [OrderedMap.get?_set_of_ne _ _ hNe]
  exact hEnforced

/- Storing one key adds no record of another to the live. -/
theorem get?_pruned_of_recordInFlight
    (ledger : IdempotencyLedger μ ρ)
    (now : Nat)
    {key other : String}
    (operationId : String)
    (metadata : μ)
    {record : LedgerRecord μ ρ}
    (hNe : other ≠ key)
    (hRecord :
      (ledger.recordInFlight now key operationId
        metadata).get? other = some record) :
    (ledger.pruneExpired now).get? other = some record := by
  have hEnforced :
      (ledger.pruneExpired now).enforceCapacity.get?
        other = some record := by
    unfold recordInFlight get? at hRecord
    rw [OrderedMap.get?_set_of_ne _ _ hNe] at hRecord
    exact hRecord
  rw [get?_enforceCapacity] at hEnforced
  split at hEnforced
  · cases hEnforced
  · exact hEnforced

/- Storing one key adds no record of another. -/
theorem get?_of_recordInFlight
    (ledger : IdempotencyLedger μ ρ)
    (now : Nat)
    {key other : String}
    (operationId : String)
    (metadata : μ)
    {record : LedgerRecord μ ρ}
    (hNe : other ≠ key)
    (hRecord :
      (ledger.recordInFlight now key operationId
        metadata).get? other = some record) :
    ledger.get? other = some record := by
  have hPruned :=
    ledger.get?_pruned_of_recordInFlight now operationId
      metadata hNe hRecord
  rw [get?_pruneExpired,
    Option.filter_eq_some_iff] at hPruned
  exact hPruned.1

/- The record that `recordTerminal` leaves under its key. -/
def terminalRecord
    (ledger : IdempotencyLedger μ ρ)
    (now : Nat)
    (key : String)
    (status : LedgerStatus)
    (cachedResult : ρ)
    (operationId : Option String) :
    LedgerRecord μ ρ :=
  match ledger.get? key with
  | some existing =>
      { existing with
          status := status
          cachedResult := some cachedResult
          updatedAt := now }
  | none =>
      { idempotencyKey := key
        operationId := presentOr operationId "unknown"
        status := status
        createdAt := now
        updatedAt := now
        cachedResult := some cachedResult
        metadata := none }

theorem get?_recordTerminal
    (ledger : IdempotencyLedger μ ρ)
    (now : Nat)
    (key other : String)
    (status : LedgerStatus)
    (cachedResult : ρ)
    (operationId : Option String) :
    (ledger.recordTerminal now key status cachedResult
      operationId).get? other =
      if other = key then
        some (ledger.terminalRecord now key status
          cachedResult operationId)
      else
        ledger.get? other := by
  unfold recordTerminal terminalRecord get?
  cases hExisting : ledger.records.get? key with
  | none => simp only [OrderedMap.get?_set]
  | some existing =>
      simp only [OrderedMap.get?_set,
        OrderedMap.get?_delete]
      by_cases hOther : other = key
      · simp [hOther]
      · simp [hOther]

@[simp] theorem terminalRecord_status
    (ledger : IdempotencyLedger μ ρ)
    (now : Nat)
    (key : String)
    (status : LedgerStatus)
    (cachedResult : ρ)
    (operationId : Option String) :
    (ledger.terminalRecord now key status cachedResult
      operationId).status = status := by
  unfold terminalRecord
  split <;> rfl

@[simp] theorem terminalRecord_updatedAt
    (ledger : IdempotencyLedger μ ρ)
    (now : Nat)
    (key : String)
    (status : LedgerStatus)
    (cachedResult : ρ)
    (operationId : Option String) :
    (ledger.terminalRecord now key status cachedResult
      operationId).updatedAt = now := by
  unfold terminalRecord
  split <;> rfl

end IdempotencyLedger

end ControlPlane
