import Mathlib.Data.Rat.Defs
import ControlPlane.Data.OrderedMap
import ControlPlane.Data.Text
import ControlPlane.Store.Metadata
import ControlPlane.Store.Sanitizer

/-
  Connected accounts, in memory and on disk.

  A record is what a caller passes and what memory keeps, so
  any field but the id and the username can be absent. A row
  has a value in every column. The container compares
  platforms by their display names and in whatever case, the
  table by the id of the platform and as it is written.

  Main declarations:
    * `AccountOverride` and `AccountRecord`
    * `AccountsContainer.upsert` and `hydrate`
    * `AccountRow` and `AccountsTable`
    * `AccountsTable.upsert` and `replaceAll`
-/

------------------------------------------------------------
-- Records
------------------------------------------------------------

namespace ControlPlane

/- The configuration of one account, as an object. -/
structure AccountOverride where
  members : List (String × Json)
deriving DecidableEq

namespace AccountOverride

/- The members of both, with the later ones preferred. -/
def spread
    (base updates : AccountOverride) : AccountOverride where
  members := updates.members ++ base.members

def sanitize
    (override : AccountOverride) : AccountOverride where
  members := sanitizeMembers override.members

/- The bet cycle of the account runs unless it is off. -/
def betCycleEnabled (override : AccountOverride) : Bool :=
  Json.isNotFalse (override.members.lookup "betCycleEnabled")

/- What holds for an account without an override. -/
def default : AccountOverride where
  members :=
    [("betCycleEnabled", .boolean true),
      ("pricingSource", .text "GLOBAL"),
      ("riskSource", .text "GLOBAL"),
      ("rebetSource", .text "GLOBAL")]

end AccountOverride

structure AccountRecord where
  id : String
  accountUsername : String
  name : Option String := none
  platformId : Option String := none
  platformDisplayName : Option String := none
  accountPassword : Option String := none
  account_password : Option String := none
  backendState : Option String := none
  desiredState : Option String := none
  observedState : Option String := none
  executionStatusReason : Option String := none
  tags : Option (List String) := none
  effectiveConfig : Option AccountOverride := none
  lastKnownBalance : Option Rat := none
  currentBalance : Option Rat := none
  currencySymbol : Option String := none
  lastUpdated : Option Int := none
deriving DecidableEq

/- What an update of the execution state names. -/
structure ExecutionStateUpdate where
  desiredState : Option String := none
  observedState : Option String := none
  executionStatusReason : Option String := none
deriving DecidableEq, Repr

namespace AccountRecord

/- A clean copy of the record, with its password masked. -/
def sanitize (account : AccountRecord) : AccountRecord :=
  { account with
      accountPassword :=
        account.accountPassword.map (fun _ => protectedPassword)
      effectiveConfig :=
        account.effectiveConfig.map AccountOverride.sanitize }

/- The platform of a stored account, in lower case. -/
def platformKey (account : AccountRecord) : String :=
  ((firstPresent account.platformDisplayName
    account.platformId).getD "").toLower

def hasPlatformAndUsername
    (account : AccountRecord)
    (platform username : String) : Bool :=
  decide
    (account.platformKey = platform.toLower ∧
      account.accountUsername.toLower = username.toLower)

def withExecutionState
    (account : AccountRecord)
    (update : ExecutionStateUpdate)
    (now : Int) : AccountRecord :=
  { account with
      desiredState :=
        update.desiredState.or account.desiredState
      observedState :=
        update.observedState.or account.observedState
      executionStatusReason :=
        update.executionStatusReason.or
          account.executionStatusReason
      lastUpdated := some now }

end AccountRecord

------------------------------------------------------------
-- Masked Passwords
------------------------------------------------------------

/- What the container takes for a mask. -/
def isMaskedPassword : Option String → Bool
| none => true
| some password =>
    decide (password = "") ||
      decide (password = protectedPassword) ||
      includesText password "***" ||
      includesText password "???" ||
      includesText password "•••"

/- What the table takes for a mask. -/
def isStoredMask : Option String → Bool
| none => true
| some password =>
    decide (password = "") ||
      decide (password = protectedPassword) ||
      includesText password "***" ||
      includesText password "•••"

/-
  A column of passwords: empty, sealed with the key of the
  machine, or a text that was taken for a sealed one.
-/
inductive StoredPassword where
| empty
| sealed (plain : String)
| verbatim (text : String)
deriving DecidableEq, Repr

def encryptLocalPassword (plain : String) : StoredPassword :=
  if isStoredMask (some plain) then .empty
  else if plain.startsWith "enc:v1:" then .verbatim plain
  else .sealed plain

def decryptLocalPassword : StoredPassword → String
| .empty => ""
| .sealed plain => plain
| .verbatim _ => ""

/- The first password that is not a mask. -/
def firstPassword : List (Option String) → String
| [] => protectedPassword
| password :: rest =>
    if isMaskedPassword password then firstPassword rest
    else password.getD protectedPassword

------------------------------------------------------------
-- The Container
------------------------------------------------------------

structure AccountBalance where
  balance : Rat
  currencySymbol : String
deriving DecidableEq, Repr

structure AccountsContainer where
  accounts : OrderedMap String AccountRecord
  balances : OrderedMap String AccountBalance
  revision : Nat

namespace AccountRecord

/-
  What memory keeps of an account that was passed with some
  fields absent. `existing` is the account with its platform
  and username, `existingById` the one with its id.
-/
def completed
    (account : AccountRecord)
    (platform : String)
    (existing existingById : Option AccountRecord)
    (now : Int) : AccountRecord where
  id := account.id
  accountUsername := account.accountUsername
  name := some (presentOr account.name account.accountUsername)
  platformId :=
    some (presentOr account.platformId platform.toLower)
  platformDisplayName :=
    some (presentOr account.platformDisplayName platform)
  accountPassword :=
    some (firstPassword
      [account.accountPassword,
        (existing.or existingById).bind accountPassword])
  backendState := some (presentOr account.backendState "ACTIVE")
  desiredState :=
    some (presentOr account.desiredState "STOPPED")
  observedState :=
    some (presentOr account.observedState "STOPPED")
  executionStatusReason :=
    account.executionStatusReason.filter (fun r => r ≠ "")
  tags := some (account.tags.getD [])
  effectiveConfig :=
    (account.effectiveConfig.map AccountOverride.sanitize).or
      (existing.bind effectiveConfig)
  lastKnownBalance :=
    account.lastKnownBalance.or
      (existing.bind lastKnownBalance)
  currencySymbol :=
    some (presentOr account.currencySymbol
      (presentOr (existing.bind currencySymbol) "₦"))
  lastUpdated := some now

/- What memory keeps of an account that it is filled with. -/
def imported
    (raw : AccountRecord)
    (existing : Option AccountRecord) : AccountRecord :=
  { raw.sanitize with
      accountPassword :=
        some (firstPassword
          [raw.accountPassword, raw.account_password,
            existing.bind accountPassword]) }

/- The balance that an account was stored with. -/
def knownBalance
    (account : AccountRecord) : Option AccountBalance :=
  account.lastKnownBalance.map
    (fun balance =>
      { balance := balance
        currencySymbol := presentOr account.currencySymbol "₦" })

end AccountRecord

namespace AccountsContainer

def fresh : AccountsContainer where
  accounts := .empty
  balances := .empty
  revision := 1

def getBalance
    (c : AccountsContainer)
    (id : String) : AccountBalance :=
  (c.balances.get? id).getD ⟨0, "₦"⟩

def findByPlatformAndUsername
    (c : AccountsContainer)
    (platform username : String) : Option AccountRecord :=
  c.accounts.values.find?
    (fun account =>
      account.hasPlatformAndUsername platform username)

/- Keep a record, with its balance where it has one. -/
def put
    (c : AccountsContainer)
    (account : AccountRecord) : AccountsContainer :=
  { c with
      accounts := c.accounts.set account.id account
      balances :=
        match account.knownBalance with
        | some balance => c.balances.set account.id balance
        | none => c.balances }

def bumped (c : AccountsContainer) : AccountsContainer :=
  { c with revision := c.revision + 1 }

/- The account that a record takes its password from. -/
def findExisting
    (c : AccountsContainer)
    (raw : AccountRecord) : Option AccountRecord :=
  (c.accounts.get? raw.id).or
    (if raw.accountUsername = "" then none
      else
        c.findByPlatformAndUsername raw.platformKey
          raw.accountUsername)

/-
  Fill the container anew. The balances of accounts that it
  does not have any more stay.
-/
def hydrate
    (c : AccountsContainer)
    (accountsList : List AccountRecord)
    (revision : Option Nat) : AccountsContainer :=
  { accountsList.foldl
      (fun filled raw =>
        filled.put (raw.imported (c.findExisting raw)))
      { c with accounts := .empty } with
    revision := revision.getD (c.revision + 1) }

def upsert
    (c : AccountsContainer)
    (account : AccountRecord)
    (now : Int) :
    Except StoreError AccountsContainer :=
  match
    firstPresent account.platformDisplayName
      account.platformId with
  | none => .error .noPlatform
  | some platform =>
      let existing :=
        c.findByPlatformAndUsername platform
          account.accountUsername
      if existing.any (fun other => other.id ≠ account.id) then
        .error (.alreadyExists platform
          account.accountUsername)
      else
        .ok (c.put
          (account.completed platform existing
            (c.accounts.get? account.id) now)).bumped

def updateExecutionState
    (c : AccountsContainer)
    (id : String)
    (update : ExecutionStateUpdate)
    (now : Int) : AccountsContainer :=
  match c.accounts.get? id with
  | none => c
  | some current =>
      { c with
          accounts :=
            c.accounts.set id
              (current.withExecutionState update now)
          revision := c.revision + 1 }

def resetObservedStatesOnBoot
    (c : AccountsContainer)
    (reason : String)
    (now : Int) : AccountsContainer :=
  { c with
      accounts :=
        c.accounts.modify
          (fun account =>
            { account with
                observedState := some "STOPPED"
                executionStatusReason := some reason
                lastUpdated := some now })
      revision := c.revision + 1 }

def delete
    (c : AccountsContainer)
    (id : String) : AccountsContainer :=
  if c.accounts.has id then
    { accounts := c.accounts.delete id
      balances := c.balances.delete id
      revision := c.revision + 1 }
  else c

def updateBalance
    (c : AccountsContainer)
    (id : String)
    (balance : Rat)
    (currencySymbol : String) : AccountsContainer :=
  if c.accounts.has id then
    { c with
        balances :=
          c.balances.set id ⟨balance, currencySymbol⟩ }
  else c

end AccountsContainer

------------------------------------------------------------
-- Rows
------------------------------------------------------------

/- A row of `accounts_metadata_cache` of the user. -/
structure AccountRow where
  accountId : String
  name : String
  platformId : String
  platformDisplayName : String
  accountUsername : String
  accountPassword : StoredPassword
  lastKnownBalance : Rat
  currencySymbol : String
  backendState : String
  tags : List String
  effectiveConfig : Option AccountOverride
  desiredState : String
  observedState : String
  executionStatusReason : Option String
  lastUpdated : Int
deriving DecidableEq

/- The names that are written in another way. -/
def canonicalPlatformNames : List (String × String) :=
  [("sportybet", "SportyBet"), ("bet9ja", "Bet9ja"),
    ("betking", "BetKing"), ("1xbet", "1xBet"),
    ("betway", "Betway"), ("bet365", "Bet365"),
    ("pinnacle", "Pinnacle")]

def formatPlatformDisplayName
    (rawPlatform fallback : String) : String :=
  if rawPlatform = "" then
    presentOr (some fallback) "Unknown"
  else
    (canonicalPlatformNames.lookup
      (withoutSpaces (trimText rawPlatform).toLower)).getD
      (trimText rawPlatform)

namespace AccountRow

/- The columns that are unique among the accounts of a user. -/
def key (row : AccountRow) : String × String :=
  (row.platformId, row.accountUsername)

/- The display name that is listed for a row. -/
def shownName (row : AccountRow) : String :=
  formatPlatformDisplayName
    (presentOr (some row.platformDisplayName) row.platformId)
    row.name

/- A row as it is listed. -/
def toRecord (row : AccountRow) : AccountRecord where
  id := row.accountId
  accountUsername := row.accountUsername
  name := some row.name
  platformId := some row.platformId
  platformDisplayName := some row.shownName
  accountPassword :=
    some (presentOr
      (some (decryptLocalPassword row.accountPassword))
      protectedPassword)
  backendState := some row.backendState
  desiredState :=
    some (presentOr (some row.desiredState) "STOPPED")
  observedState :=
    some (presentOr (some row.observedState) "STOPPED")
  executionStatusReason :=
    row.executionStatusReason.filter (fun r => r ≠ "")
  tags := some row.tags
  effectiveConfig := row.effectiveConfig
  lastKnownBalance := some row.lastKnownBalance
  currencySymbol := some row.currencySymbol
  lastUpdated := some row.lastUpdated

end AccountRow

/- The platform id that is stored for a record. -/
def AccountRecord.storedPlatformId
    (account : AccountRecord) : String :=
  (presentOr
    (firstPresent account.platformId
      account.platformDisplayName) "unknown").toLower

/- The columns that a record claims for its account. -/
def AccountRecord.rowKey
    (account : AccountRecord) : String × String :=
  (account.storedPlatformId, account.accountUsername)

/- The row that is written for a record. -/
def AccountRecord.toRow
    (account : AccountRecord)
    (now : Int) : AccountRow where
  accountId := account.id
  name := presentOr account.name account.accountUsername
  platformId := account.storedPlatformId
  platformDisplayName :=
    presentOr
      (firstPresent account.platformDisplayName account.name)
      account.storedPlatformId
  accountUsername := account.accountUsername
  accountPassword :=
    if isStoredMask account.accountPassword then .empty
    else
      encryptLocalPassword (account.accountPassword.getD "")
  lastKnownBalance :=
    (account.lastKnownBalance.or account.currentBalance).getD 0
  currencySymbol := presentOr account.currencySymbol "₦"
  backendState := presentOr account.backendState "READY"
  tags := account.tags.getD []
  effectiveConfig := account.effectiveConfig
  desiredState := presentOr account.desiredState "STOPPED"
  observedState := presentOr account.observedState "STOPPED"
  executionStatusReason :=
    account.executionStatusReason.filter (fun r => r ≠ "")
  lastUpdated := account.lastUpdated.getD now

------------------------------------------------------------
-- The Table
------------------------------------------------------------

/-
  The rows of the user. Neither two ids nor two pairs of a
  platform and a username are the same.
-/
structure AccountsTable where
  rows : List AccountRow
  ids : (rows.map AccountRow.accountId).Nodup
  keys : (rows.map AccountRow.key).Nodup

/- The first password that is not empty. -/
def StoredPassword.orElse :
    StoredPassword → StoredPassword → StoredPassword
| .empty, other => other
| password, _ => password

namespace AccountsTable

def empty : AccountsTable where
  rows := []
  ids := List.nodup_nil
  keys := List.nodup_nil

def find?
    (t : AccountsTable)
    (accountId : String) : Option AccountRow :=
  t.rows.find? (fun row => decide (row.accountId = accountId))

def findByKey
    (t : AccountsTable)
    (key : String × String) : Option AccountRow :=
  t.rows.find? (fun row => decide (row.key = key))

/- The rows in the order of their updates, latest first. -/
def listByUser (t : AccountsTable) : List AccountRecord :=
  (t.rows.mergeSort
    (fun a b => decide (b.lastUpdated ≤ a.lastUpdated))).map
      AccountRow.toRecord

/- The password that is stored with a row. -/
def passwordFor
    (t : AccountsTable)
    (row : AccountRow) : StoredPassword :=
  (row.accountPassword.orElse
    (((t.findByKey row.key).map
      AccountRow.accountPassword).getD .empty)).orElse
    (((t.find? row.accountId).map
      AccountRow.accountPassword).getD .empty)

/- Another account and another platform and username. -/
def unlike (row old : AccountRow) : Bool :=
  decide (old.accountId ≠ row.accountId ∧ old.key ≠ row.key)

/- The row takes the place of the rows that are like it. -/
def replace
    (t : AccountsTable)
    (row : AccountRow) : AccountsTable where
  rows := t.rows.filter (unlike row) ++ [row]
  ids := by
    rw [List.map_append]
    refine List.nodup_append.mpr
      ⟨(List.filter_sublist.map _).nodup t.ids,
        List.nodup_singleton _, ?_⟩
    intro id hId other hOther hSame
    rcases List.mem_map.mp hId with ⟨old, hOld, rfl⟩
    rw [List.mem_singleton.mp hOther] at hSame
    have hUnlike := (List.mem_filter.mp hOld).2
    simp only [unlike, decide_eq_true_eq] at hUnlike
    exact hUnlike.1 hSame
  keys := by
    rw [List.map_append]
    refine List.nodup_append.mpr
      ⟨(List.filter_sublist.map _).nodup t.keys,
        List.nodup_singleton _, ?_⟩
    intro key hKey other hOther hSame
    rcases List.mem_map.mp hKey with ⟨old, hOld, rfl⟩
    rw [List.mem_singleton.mp hOther] at hSame
    have hUnlike := (List.mem_filter.mp hOld).2
    simp only [unlike, decide_eq_true_eq] at hUnlike
    exact hUnlike.2 hSame

/-
  Write a record. A row of another account with the platform
  and the username of the record is deleted first.
-/
def upsert
    (t : AccountsTable)
    (account : AccountRecord)
    (now : Int) : AccountsTable :=
  t.replace
    { account.toRow now with
        accountPassword := t.passwordFor (account.toRow now) }

def deleteWhere
    (t : AccountsTable)
    (p : AccountRow → Bool) : AccountsTable where
  rows := t.rows.filter (fun row => !p row)
  ids := (List.filter_sublist.map _).nodup t.ids
  keys := (List.filter_sublist.map _).nodup t.keys

def delete
    (t : AccountsTable)
    (accountId : String) : AccountsTable :=
  t.deleteWhere (fun row => decide (row.accountId = accountId))

def incomingIds
    (accountList : List AccountRecord) : List String :=
  (accountList.map AccountRecord.id).filter (fun id => id ≠ "")

/-
  Write every record, and delete the other rows unless there
  was no record.
-/
def replaceAll
    (t : AccountsTable)
    (accountList : List AccountRecord)
    (now : Int) : AccountsTable :=
  let written :=
    accountList.foldl (fun t account => t.upsert account now) t
  if incomingIds accountList = [] then written
  else
    written.deleteWhere
      (fun row =>
        decide (row.accountId ∉ incomingIds accountList))

def resetObservedStatesOnBoot
    (t : AccountsTable)
    (reason : String) : AccountsTable where
  rows :=
    t.rows.map
      (fun row =>
        { row with
            observedState := "STOPPED"
            executionStatusReason := some reason })
  ids := by
    rw [List.map_map]
    exact t.ids
  keys := by
    rw [List.map_map]
    exact t.keys

end AccountsTable

------------------------------------------------------------
-- Revisions Of The Container
------------------------------------------------------------

namespace AccountsContainer

@[simp] theorem revision_hydrate
    (c : AccountsContainer)
    (accountsList : List AccountRecord)
    (revision : Option Nat) :
    (c.hydrate accountsList revision).revision =
      revision.getD (c.revision + 1) := rfl

@[simp] theorem revision_resetObservedStatesOnBoot
    (c : AccountsContainer)
    (reason : String)
    (now : Int) :
    (c.resetObservedStatesOnBoot reason now).revision =
      c.revision + 1 := rfl

theorem revision_upsert
    {c next : AccountsContainer}
    {account : AccountRecord}
    {now : Int}
    (hUpsert : c.upsert account now = .ok next) :
    next.revision = c.revision + 1 := by
  unfold upsert at hUpsert
  split at hUpsert
  · cases hUpsert
  · dsimp only at hUpsert
    split at hUpsert
    · cases hUpsert
    · cases hUpsert
      rfl

theorem revision_delete
    (c : AccountsContainer)
    (id : String) :
    (c.delete id).revision =
      c.revision + if c.accounts.has id then 1 else 0 := by
  unfold delete
  split <;> rfl

theorem revision_updateBalance
    (c : AccountsContainer)
    (id : String)
    (balance : Rat)
    (currencySymbol : String) :
    (c.updateBalance id balance currencySymbol).revision =
      c.revision := by
  unfold updateBalance
  split <;> rfl

end AccountsContainer

end ControlPlane
