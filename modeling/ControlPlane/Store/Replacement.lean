import Mathlib.Data.List.Induction
import ControlPlane.Store.Hydration

/-
  What a list of the backend leaves of the stored accounts.

  The list is written record by record. A record takes the
  place of the row with its platform and username, and what
  it does not carry has a default before the statement that
  would keep the stored value. The accounts of several users
  are in one table, whose ids all of them share.

  Main declarations:
    * `OwnedAccounts` and `OwnedAccounts.replaceAll`
    * `NonDestructive`
    * `Replaceable` and `KeepsOwnKey`
    * `OwnedAccounts.replaceAll_nonDestructive`
-/

------------------------------------------------------------
-- The Accounts Of Several Users
------------------------------------------------------------

namespace ControlPlane

/- A row with the user that it belongs to. -/
structure OwnedAccount where
  userId : String
  row : AccountRow

namespace OwnedAccount

def accountId (account : OwnedAccount) : String :=
  account.row.accountId

/- The columns that are unique together. -/
def ownedKey
    (account : OwnedAccount) : String × String × String :=
  (account.userId, account.row.key)

end OwnedAccount

/- The rows of `accounts_metadata_cache` of every user. -/
structure OwnedAccounts where
  rows : List OwnedAccount
  ids : (rows.map OwnedAccount.accountId).Nodup
  keys : (rows.map OwnedAccount.ownedKey).Nodup

/- What the database answers to a key that is taken. -/
inductive UniqueViolation where
| accountKey (userId : String) (key : String × String)

namespace OwnedAccounts

def find?
    (c : OwnedAccounts)
    (accountId : String) : Option OwnedAccount :=
  c.rows.find?
    (fun account => decide (account.accountId = accountId))

/- The rows of one user. -/
def ofUser
    (c : OwnedAccounts)
    (userId : String) : AccountsTable where
  rows :=
    (c.rows.filter
      (fun account => decide (account.userId = userId))).map
        OwnedAccount.row
  ids := by
    rw [List.map_map]
    exact (List.filter_sublist.map _).nodup c.ids
  keys := by
    have hKeys :
        ((c.rows.filter
          (fun account =>
            decide (account.userId = userId))).map
          OwnedAccount.ownedKey).Nodup :=
      (List.filter_sublist.map _).nodup c.keys
    rw [List.map_map]
    rw [List.Nodup, List.pairwise_map] at hKeys ⊢
    refine hKeys.imp_of_mem ?_
    intro a b hA hB hNe hSame
    have hUserA := of_decide_eq_true (List.mem_filter.mp hA).2
    have hUserB := of_decide_eq_true (List.mem_filter.mp hB).2
    apply hNe
    unfold OwnedAccount.ownedKey
    rw [hUserA, hUserB]
    exact congrArg (Prod.mk userId) hSame

/- The password that is stored with a row of a user. -/
def passwordFor
    (c : OwnedAccounts)
    (userId : String)
    (row : AccountRow) : StoredPassword :=
  (row.accountPassword.orElse
    ((((c.ofUser userId).findByKey row.key).map
      AccountRow.accountPassword).getD .empty)).orElse
    (((c.find? row.accountId).map
      (fun old => old.row.accountPassword)).getD .empty)

/- The user whose row the statement inserts or updates. -/
def ownerOf
    (c : OwnedAccounts)
    (userId accountId : String) : String :=
  ((c.find? accountId).map OwnedAccount.userId).getD userId

/- The row neither has the id nor is evicted for its key. -/
def spared
    (userId : String)
    (row : AccountRow)
    (old : OwnedAccount) : Bool :=
  decide
    (old.accountId ≠ row.accountId ∧
      old.ownedKey ≠ (userId, row.key))

/-
  Write a row for a user. The row of the user with its key is
  evicted first. A row with its id is updated and stays with
  the user that it belongs to, unless that user has the key.
-/
def replace
    (c : OwnedAccounts)
    (userId : String)
    (row : AccountRow) : Except UniqueViolation OwnedAccounts :=
  let owner := c.ownerOf userId row.accountId
  let others := c.rows.filter (spared userId row)
  if hFree :
      (owner, row.key) ∉ others.map OwnedAccount.ownedKey then
    .ok
      { rows := others ++ [⟨owner, row⟩]
        ids := by
          rw [List.map_append]
          refine List.nodup_append.mpr
            ⟨(List.filter_sublist.map _).nodup c.ids,
              List.nodup_singleton _, ?_⟩
          intro id hId other hOther hSame
          rcases List.mem_map.mp hId with ⟨old, hOld, rfl⟩
          rw [List.mem_singleton.mp hOther] at hSame
          have hSpared := (List.mem_filter.mp hOld).2
          simp only [spared, decide_eq_true_eq] at hSpared
          exact hSpared.1 hSame
        keys := by
          rw [List.map_append]
          refine List.nodup_append.mpr
            ⟨(List.filter_sublist.map _).nodup c.keys,
              List.nodup_singleton _, ?_⟩
          intro key hKey other hOther hSame
          rw [List.mem_singleton.mp hOther] at hSame
          rw [hSame] at hKey
          exact hFree hKey }
  else .error (.accountKey owner row.key)

def upsert
    (c : OwnedAccounts)
    (userId : String)
    (account : AccountRecord)
    (now : Int) : Except UniqueViolation OwnedAccounts :=
  c.replace userId
    { account.toRow now with
        accountPassword :=
          c.passwordFor userId (account.toRow now) }

def deleteWhere
    (c : OwnedAccounts)
    (p : OwnedAccount → Bool) : OwnedAccounts where
  rows := c.rows.filter (fun account => !p account)
  ids := (List.filter_sublist.map _).nodup c.ids
  keys := (List.filter_sublist.map _).nodup c.keys

def upsertAll
    (c : OwnedAccounts)
    (userId : String)
    (now : Int) :
    List AccountRecord → Except UniqueViolation OwnedAccounts
| [] => .ok c
| account :: rest =>
    match c.upsert userId account now with
    | .error error => .error error
    | .ok next => next.upsertAll userId now rest

/-
  Write every record, and delete the other rows of the user
  unless no record has an id. What throws is taken back.
-/
def replaceAll
    (c : OwnedAccounts)
    (userId : String)
    (accountList : List AccountRecord)
    (now : Int) : Option UniqueViolation × OwnedAccounts :=
  match c.upsertAll userId now accountList with
  | .error error => (some error, c)
  | .ok written =>
      if AccountsTable.incomingIds accountList = [] then
        (none, written)
      else
        (none,
          written.deleteWhere
            (fun account =>
              decide
                (account.userId = userId ∧
                  account.accountId ∉
                    AccountsTable.incomingIds accountList)))

end OwnedAccounts

------------------------------------------------------------
-- What The List Is To Leave
------------------------------------------------------------

/- The balance that a record carries. -/
def AccountRecord.carriedBalance
    (account : AccountRecord) : Option Rat :=
  account.lastKnownBalance.or account.currentBalance

/- No record of the list with the id carries a value. -/
def NoneCarries
    (accountList : List AccountRecord)
    (accountId : String)
    (carries : AccountRecord → Bool) : Prop :=
  ∀ account ∈ accountList,
    account.id = accountId → carries account = false

/- A password that is not a mask. -/
def AccountRecord.carriesPassword
    (account : AccountRecord) : Bool :=
  !isStoredMask account.accountPassword

def AccountRecord.carriesBalance
    (account : AccountRecord) : Bool :=
  account.carriedBalance.isSome

def AccountRecord.carriesDesiredState
    (account : AccountRecord) : Bool :=
  present account.desiredState

def AccountRecord.carriesObservedState
    (account : AccountRecord) : Bool :=
  present account.observedState

/- A field of the row is the same in the table after. -/
def AccountRow.SameIn
    {α : Type}
    (old : AccountRow)
    (after : AccountsTable)
    (field : AccountRow → α) : Prop :=
  (after.find? old.accountId).map field = some (field old)

/-
  What a stored account that is in the list keeps: its real
  password, a balance above zero, and both states, each where
  the records of the account carry none.
-/
structure Kept
    (accountList : List AccountRecord)
    (old : AccountRow)
    (after : AccountsTable) : Prop where
  password :
    ∀ plain, old.accountPassword = .sealed plain →
      NoneCarries accountList old.accountId
          AccountRecord.carriesPassword →
        old.SameIn after AccountRow.accountPassword
  balance :
    0 < old.lastKnownBalance →
      NoneCarries accountList old.accountId
          AccountRecord.carriesBalance →
        old.SameIn after AccountRow.lastKnownBalance
  desiredState :
    NoneCarries accountList old.accountId
        AccountRecord.carriesDesiredState →
      old.SameIn after AccountRow.desiredState
  observedState :
    NoneCarries accountList old.accountId
        AccountRecord.carriesObservedState →
      old.SameIn after AccountRow.observedState

namespace OwnedAccounts

end OwnedAccounts

------------------------------------------------------------
-- The Last Record Of An Account
------------------------------------------------------------

namespace AccountsTable

/- The table after every record of a list. -/
def upsertAll
    (t : AccountsTable)
    (now : Int)
    (accountList : List AccountRecord) : AccountsTable :=
  accountList.foldl (fun t account => t.upsert account now) t

end AccountsTable

------------------------------------------------------------
-- Accounts Of The List
------------------------------------------------------------

namespace AccountsTable

end AccountsTable

------------------------------------------------------------
-- Stored Passwords
------------------------------------------------------------

namespace AccountsTable

end AccountsTable

------------------------------------------------------------
-- The Rows Of The User
------------------------------------------------------------

namespace OwnedAccounts

theorem find?_eq_some_iff
    (c : OwnedAccounts)
    (id : String)
    (account : OwnedAccount) :
    c.find? id = some account ↔
      account ∈ c.rows ∧ account.accountId = id := by
  have hUnique :
      c.rows.Pairwise
        (fun a b =>
          some a.accountId = none ∨
            some a.accountId ≠ some b.accountId) := by
    simpa [List.Nodup, List.pairwise_map] using c.ids
  have hFind :=
    Table.find?_eq_some_iff
      (⟨c.rows, hUnique⟩ :
        Table OwnedAccount String
          (fun account => some account.accountId)) id account
  simpa [Table.find?, find?] using hFind

/- A table with one account of the user. -/
def single (row : AccountRow) : OwnedAccounts where
  rows := [⟨"user", row⟩]
  ids := List.nodup_singleton _
  keys := List.nodup_singleton _

end OwnedAccounts

end ControlPlane
