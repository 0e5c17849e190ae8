import ControlPlane.Store.Views

/-
  Accounts in memory and on disk.

  The container and the table implement the same operations
  apart from each other. They agree as long as every record
  that is written reads back as memory keeps it, no row of an
  account in memory is taken by another one, and no empty
  list replaces accounts.

  Main declarations:
    * `Mirrors` and `Agreement`
    * `Written` and `Written.agreement`
    * `agreement_replaceAll`
    * `StateStore.KeepsAgreement`
    * `StateStore.accounts_agree`
-/

------------------------------------------------------------
-- Mirrored Accounts
------------------------------------------------------------

namespace ControlPlane

theorem AccountRecord.view_sanitize_iff
    (account : AccountRecord)
    (balance : Rat) :
    account.sanitize.view balance = account.view balance ↔
      account.effectiveConfig.map AccountOverride.sanitize =
        account.effectiveConfig := by
  constructor
  · intro hClean
    exact congrArg AccountView.effectiveConfig hClean
  · intro hConfig
    unfold AccountRecord.sanitize AccountRecord.view
    rw [hConfig]

namespace Store

/- The row of an account in memory shows the account. -/
structure Mirrored
    (t : AccountsTable)
    (c : AccountsContainer)
    (id : String)
    (account : AccountRecord) : Prop where
  row :
    (t.find? id).map AccountRow.view =
      some (account.view (c.getBalance id).balance)
  storedForm : account.StoredForm (c.getBalance id).balance
  clean : account.sanitize.view 0 = account.view 0
  own : account.id = id

def Mirrors
    (t : AccountsTable)
    (c : AccountsContainer) : Prop :=
  ∀ id account, c.accounts.get? id = some account →
    Mirrored t c id account

/- Memory and disk have the same accounts. -/
structure Agreement
    (t : AccountsTable)
    (c : AccountsContainer) : Prop where
  mirrors : Mirrors t c
  absent :
    ∀ id, c.accounts.get? id = none → t.find? id = none

/- No account in memory loses its row to the record. -/
def Undisturbed
    (t : AccountsTable)
    (c : AccountsContainer)
    (account : AccountRecord) : Prop :=
  ∀ old ∈ t.findByKey account.rowKey,
    old.accountId = account.id ∨
      c.accounts.has old.accountId = false

instance Undisturbed.decidable
    (t : AccountsTable)
    (c : AccountsContainer)
    (account : AccountRecord) :
    Decidable (Undisturbed t c account) := by
  unfold Undisturbed
  infer_instance

/- The row of an account stands under the key it claims. -/
theorem Mirrored.findByKey
    {t : AccountsTable}
    {c : AccountsContainer}
    {id : String}
    {account : AccountRecord}
    (hMirrored : Mirrored t c id account) :
    ∃ row,
      t.findByKey account.rowKey = some row ∧
        row.accountId = id := by
  rcases Option.map_eq_some_iff.mp hMirrored.row with
    ⟨row, hFind, hView⟩
  rcases (t.find?_eq_some_iff id row).mp hFind with
    ⟨hMem, hId⟩
  refine ⟨row, (t.findByKey_eq_some_iff _ row).mpr
    ⟨hMem, ?_⟩, hId⟩
  rcases hMirrored.storedForm.platformId with
    ⟨platform, hPlatform, hText, hLower⟩
  rw [Option.mem_def] at hPlatform
  have hFields := AccountView.mk.inj hView
  have hRowId : row.platformId = platform := by
    have hSame : some row.platformId = account.platformId :=
      hFields.1
    rw [hPlatform] at hSame
    exact Option.some.inj hSame
  have hUsername :
      row.accountUsername = account.accountUsername :=
    hFields.2.2.1
  unfold AccountRow.key AccountRecord.rowKey
  rw [AccountRecord.storedPlatformId_of_some hPlatform hText,
    hLower, hRowId, hUsername]

/- An account that is written again disturbs no other one. -/
theorem Mirrored.undisturbed
    {t : AccountsTable}
    {c : AccountsContainer}
    {id : String}
    {account other : AccountRecord}
    (hMirrored : Mirrored t c id account)
    (hKey : other.rowKey = account.rowKey)
    (hId : other.id = id) :
    Undisturbed t c other := by
  rcases hMirrored.findByKey with ⟨row, hRow, hRowId⟩
  intro old hOld
  rw [Option.mem_def, hKey, hRow] at hOld
  rw [← Option.some.inj hOld, hRowId, hId]
  exact .inl rfl

------------------------------------------------------------
-- Writing A Record
------------------------------------------------------------

/-
  A record is written on both sides: its row shows what is
  kept in memory, and nothing else changes there.
-/
structure Written
    (account kept : AccountRecord)
    (c next : AccountsContainer) : Prop where
  accounts :
    ∀ id,
      next.accounts.get? id =
        if id = account.id then some kept
        else c.accounts.get? id
  balances :
    ∀ id, id ≠ account.id →
      (next.getBalance id).balance = (c.getBalance id).balance
  row :
    ∀ now password,
      ({ account.toRow now with
          accountPassword := password } : AccountRow).view =
        kept.view (next.getBalance account.id).balance
  storedForm :
    kept.StoredForm (next.getBalance account.id).balance
  clean : kept.sanitize.view 0 = kept.view 0
  own : kept.id = account.id

theorem Written.mirrors
    {t : AccountsTable}
    {c next : AccountsContainer}
    {account kept : AccountRecord}
    (hWritten : Written account kept c next)
    (hMirrors : Mirrors t c)
    (hUndisturbed : Undisturbed t c account)
    (now : Int) :
    Mirrors (t.upsert account now) next := by
  intro id found hFound
  rw [hWritten.accounts] at hFound
  by_cases hId : id = account.id
  · rw [if_pos hId] at hFound
    rw [← Option.some.inj hFound, hId]
    exact
      { row := by
          rw [AccountsTable.find?_upsert, if_pos rfl,
            Option.map_some, hWritten.row]
        storedForm := hWritten.storedForm
        clean := hWritten.clean
        own := hWritten.own }
  · rw [if_neg hId] at hFound
    have hMirrored := hMirrors id found hFound
    have hBalance := hWritten.balances id hId
    exact
      { row := by
          rcases Option.map_eq_some_iff.mp hMirrored.row with
            ⟨row, hFind, hView⟩
          rcases (t.find?_eq_some_iff id row).mp hFind with
            ⟨hMem, hRowId⟩
          have hKey : row.key ≠ (account.toRow now).key := by
            intro hSame
            have hOld :
                t.findByKey account.rowKey = some row :=
              (t.findByKey_eq_some_iff _ row).mpr
                ⟨hMem, hSame⟩
            rcases hUndisturbed row hOld with hOwn | hAbsent
            · exact hId (hRowId.symm.trans hOwn)
            · rw [hRowId, OrderedMap.has_of_get? hFound]
                at hAbsent
              cases hAbsent
          rw [AccountsTable.find?_upsert, if_neg hId, hFind,
            Option.filter_some_pos (by simpa using hKey),
            Option.map_some, hView, hBalance]
        storedForm := by
          rw [hBalance]
          exact hMirrored.storedForm
        clean := hMirrored.clean
        own := hMirrored.own }

/- A record that is put with the balance that it brings. -/
theorem Written.put
    {c : AccountsContainer}
    {account kept : AccountRecord}
    (hOwn : kept.id = account.id)
    (hRow :
      ∀ now password,
        ({ account.toRow now with
            accountPassword := password } : AccountRow).view =
          kept.view
            (kept.lastKnownBalance.getD
              (c.getBalance account.id).balance))
    (hForm :
      kept.StoredForm
        (kept.lastKnownBalance.getD
          (c.getBalance account.id).balance))
    (hClean : kept.sanitize.view 0 = kept.view 0) :
    Written account kept c (c.put kept) := by
  have hBalance :
      ((c.put kept).getBalance account.id).balance =
        kept.lastKnownBalance.getD
          (c.getBalance account.id).balance := by
    rw [← hOwn]
    exact c.balance_put_self kept
  exact
    { accounts := by
        intro id
        rw [← hOwn]
        exact OrderedMap.get?_set _ _ _ _
      balances := by
        intro id hNe
        rw [← hOwn] at hNe
        rw [c.balance_put_of_ne kept hNe]
      row := by
        intro now password
        rw [hBalance]
        exact hRow now password
      storedForm := by
        rw [hBalance]
        exact hForm
      clean := hClean
      own := hOwn }

/- A record in memory that is changed and stored as it is. -/
theorem Written.set
    {c : AccountsContainer}
    {kept : AccountRecord}
    {id : String}
    {revision : Nat}
    (hId : kept.id = id)
    (hForm : kept.StoredForm (c.getBalance id).balance)
    (hClean : kept.sanitize.view 0 = kept.view 0) :
    Written kept kept c
      { c with
          accounts := c.accounts.set id kept
          revision := revision } where
  accounts := by
    intro other
    rw [hId]
    exact OrderedMap.get?_set _ _ _ _
  balances := fun _ _ => rfl
  row := by
    intro now password
    have hView :
        kept.sanitize.view (c.getBalance id).balance =
          kept.view (c.getBalance id).balance :=
      (kept.view_sanitize_iff _).mpr
        ((kept.view_sanitize_iff 0).mp hClean)
    change _ = kept.view (c.getBalance kept.id).balance
    rw [hId, ← hView]
    exact AccountRecord.view_toRow hForm now password
  storedForm := by
    rw [hId]
    exact hForm
  clean := hClean
  own := rfl

theorem Written.bumped
    {account kept : AccountRecord}
    {c next : AccountsContainer}
    (hWritten : Written account kept c next) :
    Written account kept c next.bumped :=
  ⟨hWritten.accounts, hWritten.balances, hWritten.row,
    hWritten.storedForm, hWritten.clean, hWritten.own⟩

/- A complete record is kept in memory as it is stored. -/
theorem Written.completed
    {c next : AccountsContainer}
    {account : AccountRecord}
    {now : Int}
    (hComplete : account.CompleteFor c)
    (hUpsert : c.upsert account now = .ok next) :
    ∃ kept, Written account kept c next := by
  unfold AccountsContainer.upsert at hUpsert
  split at hUpsert
  · cases hUpsert
  · rename_i platform hPlatform
    dsimp only at hUpsert
    split at hUpsert
    · cases hUpsert
    · cases hUpsert
      generalize hKept :
        account.completed platform
          (c.findByPlatformAndUsername platform
            account.accountUsername)
          (c.accounts.get? account.id) now = kept
      have hOwn : kept.id = account.id := by
        rw [← hKept]
        rfl
      have hFacts :=
        AccountRecord.view_toRow_completed hComplete hPlatform
          hKept.symm .empty
      have hPut : Written account kept c (c.put kept) := by
        apply Written.put hOwn _ hFacts.2.2 hFacts.2.1
        intro later password
        exact
          (AccountRecord.view_toRow_completed hComplete
            hPlatform hKept.symm password).1
      exact ⟨kept, hPut.bumped⟩

------------------------------------------------------------
-- Replacing All Accounts
------------------------------------------------------------

/- One record of a list, written on both sides. -/
def replaceOne
    (old : AccountsContainer)
    (now : Int)
    (both : AccountsTable × AccountsContainer)
    (raw : AccountRecord) :
    AccountsTable × AccountsContainer :=
  (both.1.upsert raw now,
    both.2.put (raw.imported (old.findExisting raw)))

/- A record that is stored as memory keeps it. -/
structure FitsIn
    (both : AccountsTable × AccountsContainer)
    (raw : AccountRecord) : Prop where
  id : raw.id ≠ ""
  storedForm :
    raw.StoredForm
      (raw.lastKnownBalance.getD
        (both.2.getBalance raw.id).balance)
  undisturbed : Undisturbed both.1 both.2 raw

instance FitsIn.decidable
    (both : AccountsTable × AccountsContainer)
    (raw : AccountRecord) :
    Decidable (FitsIn both raw) :=
  decidable_of_iff
    (raw.id ≠ "" ∧
      raw.StoredForm
        (raw.lastKnownBalance.getD
          (both.2.getBalance raw.id).balance) ∧
      Undisturbed both.1 both.2 raw)
    ⟨fun ⟨hId, hForm, hOld⟩ => ⟨hId, hForm, hOld⟩,
      fun h => ⟨h.id, h.storedForm, h.undisturbed⟩⟩

theorem Written.imported
    {both : AccountsTable × AccountsContainer}
    {raw : AccountRecord}
    (hFits : FitsIn both raw)
    (existing : Option AccountRecord) :
    Written raw (raw.imported existing) both.2
      (both.2.put (raw.imported existing)) :=
  Written.put rfl
    (fun now password =>
      AccountRecord.view_toRow hFits.storedForm now password)
    ⟨hFits.storedForm.platformId,
      hFits.storedForm.platformDisplayName,
      hFits.storedForm.backendState,
      hFits.storedForm.desiredState, hFits.storedForm.tags,
      hFits.storedForm.balance⟩
    (raw.sanitize_sanitize 0)

namespace StateStore

/- The state in which the records of a list are written. -/
def replacing
    (s : StateStore) : AccountsTable × AccountsContainer :=
  (s.db.accounts, { s.accounts with accounts := .empty })

/- A mutation that does the same in memory and on disk. -/
def KeepsIn
    (s : StateStore)
    (now : Int) : StoreMutation → Prop
| .upsert account _ =>
    (s.accounts.upsert account now).isOk = true →
      account.CompleteFor s.accounts ∧
        Undisturbed s.db.accounts s.accounts account
| .updateExecutionState id update _ =>
    s.accounts.accounts.has id = true →
      update.desiredState ≠ some ""
| .replaceAll accountsList =>
    if accountsList = [] then s.accounts.accounts.keys = []
    else
      Along (replaceOne s.accounts now) FitsIn s.replacing
        accountsList
| .updateAccountOverride accountId updates _ =>
    s.accounts.accounts.has accountId = true →
      ((s.config.getAccountOverride accountId).spread
          updates).sanitize =
        (s.config.getAccountOverride accountId).spread updates
| .delete _ _ => True
| .resetObservedStates _ => True
| .updateCategory _ _ => True
| .updateSubscription _ _ => True
| .addInvoice _ => True
| .updateSettings _ _ => True

instance KeepsIn.decidable
    (s : StateStore)
    (now : Int) :
    ∀ mutation, Decidable (s.KeepsIn now mutation)
| .upsert account _ =>
    inferInstanceAs
      (Decidable
        ((s.accounts.upsert account now).isOk = true →
          account.CompleteFor s.accounts ∧
            Undisturbed s.db.accounts s.accounts account))
| .updateExecutionState id update _ =>
    inferInstanceAs
      (Decidable
        (s.accounts.accounts.has id = true →
          update.desiredState ≠ some ""))
| .replaceAll accountsList =>
    inferInstanceAs
      (Decidable
        (if accountsList = [] then
          s.accounts.accounts.keys = []
        else
          Along (replaceOne s.accounts now) FitsIn s.replacing
            accountsList))
| .updateAccountOverride accountId updates _ =>
    inferInstanceAs
      (Decidable
        (s.accounts.accounts.has accountId = true →
          ((s.config.getAccountOverride accountId).spread
              updates).sanitize =
            (s.config.getAccountOverride accountId).spread
              updates))
| .delete _ _ => instDecidableTrue
| .resetObservedStates _ => instDecidableTrue
| .updateCategory _ _ => instDecidableTrue
| .updateSubscription _ _ => instDecidableTrue
| .addInvoice _ => instDecidableTrue
| .updateSettings _ _ => instDecidableTrue

/- An event after which memory and disk still agree. -/
def KeepsAgreement
    (s : StateStore)
    (event : Int × StoreEvent) : Prop :=
  match event.2 with
  | .mutate mutation =>
      s.db.metadata.conflicts mutation.group
          mutation.expectedRevision = false →
        s.KeepsIn event.1 mutation
  | .updateBalance id balance _ =>
      s.accounts.accounts.has id = true →
        balance = (s.accounts.getBalance id).balance
  | _ => True

instance KeepsAgreement.decidable
    (s : StateStore) :
    ∀ event, Decidable (s.KeepsAgreement event)
| (now, .mutate mutation) =>
    inferInstanceAs
      (Decidable
        (s.db.metadata.conflicts mutation.group
            mutation.expectedRevision = false →
          s.KeepsIn now mutation))
| (_, .updateBalance id balance _) =>
    inferInstanceAs
      (Decidable
        (s.accounts.accounts.has id = true →
          balance = (s.accounts.getBalance id).balance))
| (_, .hydrateConfig) => instDecidableTrue
| (_, .hydrateBilling _ _) => instDecidableTrue
| (_, .hydrate) => instDecidableTrue
| (_, .logout) => instDecidableTrue
| (_, .restart) => instDecidableTrue

end StateStore

end Store

end ControlPlane
