import ControlPlane.Data.Run
import ControlPlane.Store.Users

/-
  Users of one database.

  Every statement that a user has run names the user, but an
  upsert of an account, an invoice or a notification goes by
  its id, and the ids are shared. So the rows of another user
  are spared as long as no such id is the id of one of them.

  Main declarations:
    * `UserOperation.Spares`
    * `StateStore.Keeps` and `UserStore.operate_keeps`
    * `UserStore.Forgotten`
    * `UserStore.users_are_separate`
-/

------------------------------------------------------------
-- Ids
------------------------------------------------------------

namespace ControlPlane

namespace Mutators

variable {d : Dialect} {v : String} {t t' : UserTables}

/- No row of the user in the table has the id. -/
def Dialect.Free
    (d : Dialect)
    (v : String)
    (t : Table UserRow String UserRow.id)
    (id : JsValue) : Prop :=
  t.FreeOf UserRow.userId v (d.storedText (.value id))

instance Dialect.decidableFree
    (d : Dialect)
    (v : String)
    (t : Table UserRow String UserRow.id)
    (id : JsValue) : Decidable (d.Free v t id) :=
  inferInstanceAs (Decidable (∀ row ∈ _, _ ∨ _))

/- An id is free as long as the rows of the user are kept. -/
theorem Dialect.Free.congr
    {t t' : Table UserRow String UserRow.id}
    {id : JsValue}
    (hSame :
      t'.rowsOf UserRow.userId v = t.rowsOf UserRow.userId v)
    (hFree : d.Free v t id) : d.Free v t' id := by
  unfold Dialect.Free Table.FreeOf
  rw [hSame]
  exact hFree

------------------------------------------------------------
-- Adapters
------------------------------------------------------------

/- The id of a row of one user is free of another. -/
theorem freeOf_selected
    {user : String}
    {row : UserRow}
    {t : Table UserRow String UserRow.id}
    (hOther : user ≠ v)
    (hRow : row ∈ t.rowsOf UserRow.userId user) :
    d.Free v t (Dialect.textOrNull row.id) := by
  rcases Table.mem_rowsOf_iff.mp hRow with ⟨hMem, hUser⟩
  intro other hOtherRow
  rcases Table.mem_rowsOf_iff.mp hOtherRow with
    ⟨hOtherMem, hOtherUser⟩
  cases hId : row.id with
  | none => exact .inl rfl
  | some id =>
      refine .inr ?_
      have hNe : other ≠ row := by
        intro hSame
        rw [hSame] at hOtherUser
        exact hOther (hUser.symm.trans hOtherUser)
      rcases Table.key_ne_of_ne hOtherMem hMem hNe with
        hNull | hDiffer
      · rw [hNull]
        intro hSame
        cases hSame
      · rw [hId] at hDiffer
        exact hDiffer

/- What a query finds has the id of a row of the user. -/
theorem select_field
    {user : String}
    {platform username : Binding}
    (hFound :
      (d.select .selectAccountByUsername
        [.text user, platform, username] t).truthy = true) :
    ∃ row ∈ t.accounts.rowsOf UserRow.userId user,
      (d.select .selectAccountByUsername
          [.text user, platform, username] t).field
          "account_id" =
        Dialect.textOrNull row.id := by
  unfold Dialect.select Binding.text at hFound ⊢
  dsimp only at hFound ⊢
  cases hSelected :
      d.selectByUsername user platform username t with
  | none =>
      rw [hSelected] at hFound
      cases hFound
  | some row =>
      unfold Dialect.selectByUsername at hSelected
      exact ⟨row, List.mem_of_find?_eq_some hSelected, rfl⟩

namespace AccountsAdapter

theorem evictStale_sameRows
    {userId : String}
    {platform username : Binding}
    {account : JsValue}
    (hOther : userId ≠ v)
    (hEvict :
      evictStale d.database
        (d.select .selectAccountByUsername
          [.text userId, platform, username] t)
        account t = .ok t') :
    SameRows v t t' := by
  unfold evictStale at hEvict
  split at hEvict
  · rename_i hStale
    rcases select_field hStale.1 with ⟨row, hRow, hField⟩
    rw [hField] at hEvict
    exact Dialect.execute_sameRows hEvict
      (freeOf_selected hOther hRow)
  · cases hEvict
    exact .refl v t

theorem upsert_sameRows
    {userId now : String}
    {account : JsValue}
    (hOther : userId ≠ v)
    (hFree : d.Free v t.accounts (account.field "id"))
    (hUpsert :
      upsert d.database userId now account t = .ok t') :
    SameRows v t t' := by
  unfold upsert at hUpsert
  rcases bind_eq_ok.mp hUpsert with ⟨_, _, hUpsert⟩
  rcases bind_eq_ok.mp hUpsert with ⟨_, _, hUpsert⟩
  rcases bind_eq_ok.mp hUpsert with ⟨_, _, hUpsert⟩
  rcases bind_eq_ok.mp hUpsert with ⟨_, _, hUpsert⟩
  rcases bind_eq_ok.mp hUpsert with ⟨_, _, hUpsert⟩
  rcases bind_eq_ok.mp hUpsert with ⟨_, _, hUpsert⟩
  rcases bind_eq_ok.mp hUpsert with ⟨existing, hGet, hUpsert⟩
  cases hGet
  rcases bind_eq_ok.mp hUpsert with ⟨_, _, hUpsert⟩
  rcases bind_eq_ok.mp hUpsert with ⟨mid, hEvict, hUpsert⟩
  rcases bind_eq_ok.mp hUpsert with ⟨_, _, hUpsert⟩
  have hEvicted := evictStale_sameRows hOther hEvict
  refine hEvicted.trans (Dialect.execute_sameRows hUpsert ?_)
  exact ⟨hOther, hFree.congr hEvicted.accounts⟩

theorem upsertAll_sameRows
    {userId now : String}
    {accounts : List JsValue}
    (hOther : userId ≠ v)
    (hFree :
      ∀ account ∈ accounts,
        d.Free v t.accounts (account.field "id"))
    (hUpsert :
      upsertAll d.database userId now accounts t = .ok t') :
    SameRows v t t' := by
  induction accounts generalizing t with
  | nil =>
      cases hUpsert
      exact .refl v _
  | cons account accounts ih =>
      rw [List.forall_mem_cons] at hFree
      rcases bind_eq_ok.mp hUpsert with ⟨mid, hFirst, hRest⟩
      have hKept := upsert_sameRows hOther hFree.1 hFirst
      refine hKept.trans (ih ?_ hRest)
      intro other hMem
      exact (hFree.2 other hMem).congr hKept.accounts

theorem replaceAll_sameRows
    {userId now : String}
    {accounts : JsValue}
    (hOther : userId ≠ v)
    (hFree :
      ∀ account ∈ accounts.items,
        d.Free v t.accounts (account.field "id"))
    (hReplace :
      replaceAll d.database userId now accounts t = .ok t') :
    SameRows v t t' := by
  unfold replaceAll at hReplace
  rcases bind_eq_ok.mp hReplace with ⟨mid, hAll, hDelete⟩
  have hKept := upsertAll_sameRows hOther hFree hAll
  dsimp only at hDelete
  split at hDelete
  · cases hDelete
    exact hKept
  · exact hKept.trans
      (Dialect.execute_sameRows hDelete hOther)

end AccountsAdapter

theorem saveConfig_sameRows
    {userId now : String}
    {config : JsValue}
    (hOther : userId ≠ v)
    (hSave :
      saveConfig d.database userId now config t = .ok t') :
    SameRows v t t' := by
  unfold saveConfig at hSave
  rcases bind_eq_ok.mp hSave with ⟨_, _, hSave⟩
  rcases bind_eq_ok.mp hSave with ⟨_, _, hSave⟩
  exact Dialect.execute_sameRows hSave hOther

theorem saveSubscription_sameRows
    {userId now : String}
    {subscription : JsValue}
    (hOther : userId ≠ v)
    (hSave :
      saveSubscription d.database userId now subscription t =
        .ok t') :
    SameRows v t t' := by
  unfold saveSubscription at hSave
  rcases bind_eq_ok.mp hSave with ⟨_, _, hSave⟩
  rcases bind_eq_ok.mp hSave with ⟨_, _, hSave⟩
  rcases bind_eq_ok.mp hSave with ⟨_, _, hSave⟩
  rcases bind_eq_ok.mp hSave with ⟨_, _, hSave⟩
  rcases bind_eq_ok.mp hSave with ⟨_, _, hSave⟩
  exact Dialect.execute_sameRows hSave hOther

/- The id of an invoice: its own, or a fresh one. -/
def invoiceId (occasion : Occasion) (invoice : JsValue) : JsValue :=
  (invoice.field "id").orElse (.text ("inv_" ++ occasion.uuid))

theorem saveInvoice_sameRows
    {userId : String}
    {occasion : Occasion}
    {invoice : JsValue}
    (hOther : userId ≠ v)
    (hFree : d.Free v t.invoices (invoiceId occasion invoice))
    (hSave :
      saveInvoice d.database userId occasion invoice t =
        .ok t') :
    SameRows v t t' := by
  unfold saveInvoice at hSave
  rcases bind_eq_ok.mp hSave with ⟨_, _, hSave⟩
  rcases bind_eq_ok.mp hSave with ⟨id, hRead, hSave⟩
  rcases bind_eq_ok.mp hSave with ⟨_, _, hSave⟩
  rcases bind_eq_ok.mp hSave with ⟨_, _, hSave⟩
  rcases bind_eq_ok.mp hSave with ⟨_, _, hSave⟩
  rcases bind_eq_ok.mp hSave with ⟨_, _, hSave⟩
  unfold JsValue.read at hRead
  split at hRead
  · cases hRead
  · cases hRead
    exact Dialect.execute_sameRows hSave ⟨hOther, hFree⟩

theorem saveSettings_sameRows
    {userId now : String}
    {settings : JsValue}
    (hOther : userId ≠ v)
    (hSave :
      saveSettings d.database userId now settings t = .ok t') :
    SameRows v t t' := by
  unfold saveSettings at hSave
  rcases bind_eq_ok.mp hSave with ⟨_, _, hSave⟩
  exact Dialect.execute_sameRows hSave hOther

theorem saveNotification_sameRows
    {userId : String}
    {occasion : Occasion}
    {notif : JsValue}
    (hOther : userId ≠ v)
    (hFree :
      d.Free v t.notifications
        ((notif.field "id").orElse
          (.text ("notif_" ++ occasion.uuid))))
    (hSave :
      saveNotification d.database userId occasion notif t =
        .ok t') :
    SameRows v t t' := by
  unfold saveNotification at hSave
  rcases bind_eq_ok.mp hSave with ⟨_, _, hSave⟩
  rcases bind_eq_ok.mp hSave with ⟨mid, hInsert, hPrune⟩
  have hKept :=
    Dialect.execute_sameRows hInsert ⟨hOther, hFree⟩
  exact hKept.trans (Dialect.execute_sameRows hPrune hOther)

------------------------------------------------------------
-- Mutators
------------------------------------------------------------

/- The rows of `v` and the user of the store are kept. -/
structure StateStore.Keeps
    (v : String)
    (s t : StateStore UserTables) : Prop where
  user : t.userId = s.userId
  rows : SameRows v s.tables t.tables

/- The ids of the accounts that a mutation writes. -/
def GroupMutation.accountIds
    (s : StateStore UserTables)
    (occasion : Occasion) : GroupMutation → List JsValue
| .upsert account _ =>
    [(StateStore.targetAccount occasion account).field "id"]
| .updateExecutionState id _ _ =>
    (s.accounts.accounts.get? id).toList.map
      (fun record => record.field "id")
| .replaceAll accountsList =>
    accountsList.items.map (fun account => account.field "id")
| .updateAccountOverride accId _ _ =>
    (s.accounts.accounts.get? accId).toList.map
      (fun record => record.field "id")
| _ => []

/- The ids of the invoices that a mutation writes. -/
def GroupMutation.invoiceIds
    (occasion : Occasion) : GroupMutation → List JsValue
| .addInvoice invoice => [invoiceId occasion invoice]
| _ => []

/-
  The mutation is turned away for its revision, or every id
  that it writes is free of `v`.
-/
def GroupMutation.Spares
    (d : Dialect)
    (v : String)
    (s : StateStore UserTables)
    (occasion : Occasion)
    (mutation : GroupMutation) : Prop :=
  conflicts mutation.expectedRevision
      ((s.tables.metadata.get? mutation.group).getD 1) = true ∨
    (∀ id ∈ mutation.accountIds s occasion,
      d.Free v s.tables.accounts id) ∧
      ∀ id ∈ mutation.invoiceIds occasion,
        d.Free v s.tables.invoices id

instance GroupMutation.decidableSpares
    (d : Dialect)
    (v : String)
    (s : StateStore UserTables)
    (occasion : Occasion)
    (mutation : GroupMutation) :
    Decidable (mutation.Spares d v s occasion) :=
  inferInstanceAs
    (Decidable (_ = true ∨ (∀ id ∈ _, _) ∧ ∀ id ∈ _, _))

theorem id_withExecutionState
    (current stateUpdate : JsValue)
    (now : String) :
    (withExecutionState current stateUpdate now).field "id" =
      current.field "id" :=
  JsValue.field_withMembers_of_notMem (by decide) (by simp)
    current

namespace StateStore

variable {s : StateStore UserTables} {occasion : Occasion}
  {outcome : Mutated UserTables}

theorem Keeps.refl
    (v : String)
    (s : StateStore UserTables) : s.Keeps v s :=
  ⟨rfl, .refl v s.tables⟩

theorem upsertAccount_keeps
    {account : JsValue}
    (hOther : s.userId ≠ v)
    (hFree :
      d.Free v s.tables.accounts
        ((targetAccount occasion account).field "id"))
    (hApply :
      s.upsertAccount d.database occasion account =
        .ok outcome) :
    s.Keeps v outcome.2 := by
  unfold upsertAccount at hApply
  rcases bind_eq_ok.mp hApply with ⟨_, _, hApply⟩
  rcases bind_eq_ok.mp hApply with ⟨tables, hUpsert, hApply⟩
  rcases bind_eq_ok.mp hApply with ⟨_, _, hApply⟩
  cases hApply
  exact ⟨rfl,
    AccountsAdapter.upsert_sameRows hOther hFree hUpsert⟩

theorem deleteAccount_keeps
    {id : JsValue}
    (hOther : s.userId ≠ v)
    (hApply :
      s.deleteAccount d.database id = .ok outcome) :
    s.Keeps v outcome.2 := by
  unfold deleteAccount at hApply
  rcases bind_eq_ok.mp hApply with ⟨tables, hDelete, hApply⟩
  cases hApply
  exact ⟨rfl, Dialect.execute_sameRows hDelete hOther⟩

theorem updateExecutionState_keeps
    {id stateUpdate : JsValue}
    (hOther : s.userId ≠ v)
    (hFree :
      ∀ record, s.accounts.accounts.get? id = some record →
        d.Free v s.tables.accounts (record.field "id"))
    (hApply :
      s.updateExecutionState d.database occasion id
        stateUpdate = .ok outcome) :
    s.Keeps v outcome.2 := by
  unfold updateExecutionState at hApply
  split at hApply
  · cases hApply
    exact .refl v s
  · rename_i record hRecord
    rcases bind_eq_ok.mp hApply with ⟨_, _, hApply⟩
    rcases bind_eq_ok.mp hApply with ⟨tables, hUpsert, hApply⟩
    cases hApply
    refine ⟨rfl,
      AccountsAdapter.upsert_sameRows hOther ?_ hUpsert⟩
    rw [id_withExecutionState]
    exact hFree record hRecord

theorem replaceAllAccounts_keeps
    {accountsList : JsValue}
    {nextRevision : Nat}
    (hOther : s.userId ≠ v)
    (hFree :
      ∀ account ∈ accountsList.items,
        d.Free v s.tables.accounts (account.field "id"))
    (hApply :
      s.replaceAllAccounts d.database occasion accountsList
        nextRevision = .ok outcome) :
    s.Keeps v outcome.2 := by
  unfold replaceAllAccounts at hApply
  rcases bind_eq_ok.mp hApply with ⟨tables, hReplace, hApply⟩
  cases hApply
  exact ⟨rfl,
    AccountsAdapter.replaceAll_sameRows hOther hFree hReplace⟩

theorem resetObservedStates_keeps
    {reason : JsValue}
    (hOther : s.userId ≠ v)
    (hApply :
      s.resetObservedStates d.database occasion reason =
        .ok outcome) :
    s.Keeps v outcome.2 := by
  unfold resetObservedStates at hApply
  rcases bind_eq_ok.mp hApply with ⟨tables, hReset, hApply⟩
  cases hApply
  exact ⟨rfl, Dialect.execute_sameRows hReset hOther⟩

theorem updateCategory_keeps
    {category values : JsValue}
    (hOther : s.userId ≠ v)
    (hApply :
      s.updateCategory d.database occasion category values =
        .ok outcome) :
    s.Keeps v outcome.2 := by
  unfold updateCategory at hApply
  split at hApply
  · rcases bind_eq_ok.mp hApply with ⟨_, _, hApply⟩
    rcases bind_eq_ok.mp hApply with ⟨_, _, hApply⟩
    rcases bind_eq_ok.mp hApply with ⟨tables, hSave, hApply⟩
    rcases bind_eq_ok.mp hApply with ⟨_, _, hApply⟩
    cases hApply
    exact ⟨rfl, saveConfig_sameRows hOther hSave⟩
  · cases hApply

theorem updateAccountOverride_keeps
    {accId updates : JsValue}
    (hOther : s.userId ≠ v)
    (hFree :
      ∀ record, s.accounts.accounts.get? accId = some record →
        d.Free v s.tables.accounts (record.field "id"))
    (hApply :
      s.updateAccountOverride d.database occasion accId
        updates = .ok outcome) :
    s.Keeps v outcome.2 := by
  unfold updateAccountOverride at hApply
  dsimp only at hApply
  split at hApply
  · cases hApply
    exact ⟨rfl, .refl v s.tables⟩
  · rename_i record hRecord
    rcases bind_eq_ok.mp hApply with ⟨tables, hUpsert, hApply⟩
    cases hApply
    refine ⟨rfl,
      AccountsAdapter.upsert_sameRows hOther ?_ hUpsert⟩
    rw [JsValue.field_withMembers_of_notMem (by decide)
      (by simp)]
    exact hFree record hRecord

theorem updateSubscription_keeps
    {updates : JsValue}
    (hOther : s.userId ≠ v)
    (hApply :
      s.updateSubscription d.database occasion updates =
        .ok outcome) :
    s.Keeps v outcome.2 := by
  unfold updateSubscription at hApply
  rcases bind_eq_ok.mp hApply with ⟨tables, hSave, hApply⟩
  rcases bind_eq_ok.mp hApply with ⟨_, _, hApply⟩
  cases hApply
  exact ⟨rfl, saveSubscription_sameRows hOther hSave⟩

theorem addInvoice_keeps
    {invoice : JsValue}
    (hOther : s.userId ≠ v)
    (hFree :
      d.Free v s.tables.invoices (invoiceId occasion invoice))
    (hApply :
      s.addInvoice d.database occasion invoice =
        .ok outcome) :
    s.Keeps v outcome.2 := by
  unfold addInvoice at hApply
  rcases bind_eq_ok.mp hApply with ⟨tables, hSave, hApply⟩
  rcases bind_eq_ok.mp hApply with ⟨_, _, hApply⟩
  cases hApply
  exact ⟨rfl, saveInvoice_sameRows hOther hFree hSave⟩

theorem updateSettings_keeps
    {name : String}
    {updates : JsValue}
    {change : SettingsContainer → Except JsError SettingsContainer}
    (hOther : s.userId ≠ v)
    (hApply :
      s.updateSettings d.database occasion name updates change =
        .ok outcome) :
    s.Keeps v outcome.2 := by
  unfold updateSettings at hApply
  rcases bind_eq_ok.mp hApply with ⟨tables, hSave, hApply⟩
  rcases bind_eq_ok.mp hApply with ⟨_, _, hApply⟩
  cases hApply
  exact ⟨rfl, saveSettings_sameRows hOther hSave⟩

/- The record of a known account has an id that is spared. -/
theorem free_of_known
    {found : Option JsValue}
    {accounts : Table UserRow String UserRow.id}
    (hFree :
      ∀ id ∈ found.toList.map (fun record => record.field "id"),
        d.Free v accounts id)
    (record : JsValue)
    (hFound : found = some record) :
    d.Free v accounts (record.field "id") := by
  apply hFree
  rw [hFound]
  exact List.mem_singleton_self _

theorem apply_keeps
    {mutation : GroupMutation}
    {nextRevision : Nat}
    (hOther : s.userId ≠ v)
    (hAccounts :
      ∀ id ∈ mutation.accountIds s occasion,
        d.Free v s.tables.accounts id)
    (hInvoices :
      ∀ id ∈ mutation.invoiceIds occasion,
        d.Free v s.tables.invoices id)
    (hApply :
      mutation.apply d.database s occasion nextRevision =
        .ok outcome) :
    s.Keeps v outcome.2 := by
  cases mutation with
  | upsert account expected =>
      exact upsertAccount_keeps hOther
        (hAccounts _ (List.mem_singleton_self _)) hApply
  | delete id expected =>
      exact deleteAccount_keeps hOther hApply
  | updateExecutionState id stateUpdate expected =>
      exact updateExecutionState_keeps hOther
        (free_of_known hAccounts) hApply
  | replaceAll accountsList =>
      refine replaceAllAccounts_keeps hOther ?_ hApply
      intro account hMem
      exact hAccounts _ (List.mem_map_of_mem hMem)
  | resetObservedStates reason =>
      exact resetObservedStates_keeps hOther hApply
  | updateCategory category values expected =>
      exact updateCategory_keeps hOther hApply
  | updateAccountOverride accId updates expected =>
      exact updateAccountOverride_keeps hOther
        (free_of_known hAccounts) hApply
  | updateSubscription updates expected =>
      exact updateSubscription_keeps hOther hApply
  | addInvoice invoice =>
      exact addInvoice_keeps hOther
        (hInvoices _ (List.mem_singleton_self _)) hApply
  | updateProfile profile expected =>
      unfold GroupMutation.apply updateProfile at hApply
      exact updateSettings_keeps hOther hApply
  | updatePresentation prefs expected =>
      unfold GroupMutation.apply updatePresentation at hApply
      exact updateSettings_keeps hOther hApply
  | updateSecurity sec expected =>
      unfold GroupMutation.apply updateSecurity at hApply
      exact updateSettings_keeps hOther hApply

/- A transaction keeps what its mutation keeps. -/
theorem executeGroupTransaction_keeps
    {group : String}
    {expectedRevision : JsValue}
    {mutationFn : Nat → Except JsError (Mutated UserTables)}
    (hApply :
      conflicts expectedRevision
          ((s.tables.metadata.get? group).getD 1) = false →
        ∀ nextRevision outcome,
          mutationFn nextRevision = .ok outcome →
            s.Keeps v outcome.2) :
    s.Keeps v
      (s.executeGroupTransaction d.database occasion group
        expectedRevision mutationFn).2 := by
  have hCurrent :
      s.currentRevision d.database group =
        .ok ((s.tables.metadata.get? group).getD 1) := rfl
  unfold executeGroupTransaction
  rw [hCurrent]
  dsimp only
  split
  · exact .refl v s
  · rename_i hConflicts
    cases hOutcome :
        mutationFn
          ((s.tables.metadata.get? group).getD 1 + 1) with
    | error error => exact .refl v s
    | ok outcome =>
        have hKeeps :=
          hApply (Bool.eq_false_iff.mpr hConflicts)
            _ _ hOutcome
        rcases outcome with ⟨answer, t⟩
        cases answer with
        | error error => exact ⟨hKeeps.user, .refl v _⟩
        | ok result =>
            cases occasion.closing with
            | some error => exact ⟨hKeeps.user, .refl v _⟩
            | none =>
                exact ⟨hKeeps.user, { hKeeps.rows with }⟩

theorem updateBalance_keeps
    (s : StateStore UserTables)
    (occasion : Occasion)
    (id balance currencySymbol : JsValue) :
    s.Keeps v
      (s.updateBalance occasion id balance
        currencySymbol).2 := by
  unfold updateBalance
  split
  · exact .refl v s
  · exact ⟨rfl, .refl v s.tables⟩

end StateStore

------------------------------------------------------------
-- Operations
------------------------------------------------------------

/- Every id that the operation writes is free of `v`. -/
def UserOperation.Spares
    (d : Dialect)
    (v : String)
    (s : UserStore)
    (occasion : Occasion)
    (operation : UserOperation) : Prop :=
  match operation with
  | .mutate (.transaction mutation) =>
      mutation.Spares d v s.store occasion
  | .addNotification notif =>
      d.Free v s.tables.notifications
        (NotificationsContainer.idOf occasion notif)
  | _ => True

instance UserOperation.decidableSpares
    (d : Dialect)
    (v : String)
    (s : UserStore)
    (occasion : Occasion)
    (operation : UserOperation) :
    Decidable (operation.Spares d v s occasion) :=
  match operation with
  | .mutate (.transaction mutation) =>
      GroupMutation.decidableSpares d v s.store occasion
        mutation
  | .mutate (.updateBalance _ _ _) => isTrue trivial
  | .addNotification notif =>
      Dialect.decidableFree d v s.tables.notifications
        (NotificationsContainer.idOf occasion notif)
  | .markRead _ => isTrue trivial
  | .markAllRead => isTrue trivial
  | .deleteNotification _ => isTrue trivial

/- The id of a notification in memory is its id on disk. -/
theorem id_recordOf
    (occasion : Occasion)
    (notif alternative : JsValue) :
    ((NotificationsContainer.recordOf occasion
        (NotificationsContainer.idOf occasion notif)
        notif).field "id").orElse alternative =
      NotificationsContainer.idOf occasion notif := by
  have hField :
      (NotificationsContainer.recordOf occasion
          (NotificationsContainer.idOf occasion notif)
          notif).field "id" =
        NotificationsContainer.idOf occasion notif := rfl
  have hTruthy :
      (NotificationsContainer.idOf occasion notif).truthy =
        true := by
    unfold NotificationsContainer.idOf JsValue.orElse
    split
    · assumption
    · change decide ("notif-" ++ occasion.uuid ≠ "") = true
      simp
  rw [hField]
  exact if_pos hTruthy

theorem committed_eq_ok
    {occasion : Occasion}
    {written : Except JsError UserTables}
    (hCommitted :
      UserStore.committed occasion written = .ok t') :
    written = .ok t' := by
  unfold UserStore.committed at hCommitted
  split at hCommitted
  · cases written with
    | error error => cases hCommitted
    | ok tables => cases hCommitted
  · exact hCommitted

namespace UserStore

variable {s : UserStore} {occasion : Occasion}

theorem writeAfter_keeps
    {notifications : NotificationsContainer}
    {answer : JsValue}
    {written : Except JsError UserTables}
    (hWritten :
      ∀ tables, written = .ok tables →
        SameRows v s.tables tables) :
    s.store.Keeps v
      ((s.withNotifications notifications).writeAfter answer
        written).2.store := by
  unfold writeAfter
  split
  · exact .refl v s.store
  · exact ⟨rfl, hWritten _ rfl⟩

theorem operate_keeps
    {operation : UserOperation}
    (hOther : s.userId ≠ v)
    (hSpares : operation.Spares d v s occasion) :
    s.store.Keeps v
      (s.operate d occasion operation).2.store := by
  cases operation with
  | mutate call =>
      cases call with
      | transaction mutation =>
          refine StateStore.executeGroupTransaction_keeps ?_
          intro hConflicts nextRevision outcome hApply
          rcases hSpares with hAway | ⟨hAccounts, hInvoices⟩
          · rw [hConflicts] at hAway
            cases hAway
          · exact StateStore.apply_keeps hOther hAccounts
              hInvoices hApply
      | updateBalance id balance currencySymbol =>
          exact StateStore.updateBalance_keeps s.store
            occasion id balance currencySymbol
  | addNotification notif =>
      change s.store.Keeps v
        (s.addNotification d occasion notif).2.store
      unfold addNotification
      split
      · exact .refl v s.store
      · rename_i record notifications hAdd
        refine writeAfter_keeps ?_
        intro tables hWritten
        refine saveNotification_sameRows hOther ?_
          (committed_eq_ok hWritten)
        rcases bind_eq_ok.mp hAdd with ⟨_, _, hAdd⟩
        cases hAdd
        rw [id_recordOf]
        exact hSpares
  | markRead id =>
      change s.store.Keeps v (s.markRead d id).2.store
      unfold markRead
      split
      · exact .refl v s.store
      · refine writeAfter_keeps ?_
        intro tables hWritten
        exact Dialect.execute_sameRows hWritten hOther
  | markAllRead =>
      change s.store.Keeps v (s.markAllRead d).2.store
      unfold markAllRead
      split
      · exact .refl v s.store
      · refine writeAfter_keeps ?_
        intro tables hWritten
        exact Dialect.execute_sameRows hWritten hOther
  | deleteNotification id =>
      change s.store.Keeps v (s.deleteNotification id).2.store
      unfold deleteNotification
      split
      · exact .refl v s.store
      · exact .refl v s.store

end UserStore

------------------------------------------------------------
-- Logout
------------------------------------------------------------

/- The tables without the rows of a user. -/
def UserTables.without
    (t : UserTables)
    (u : String) : UserTables :=
  { t with
      accounts :=
        t.accounts.deleteWhere
          (fun row => decide (row.userId = u))
      config :=
        t.config.deleteWhere
          (fun row => decide (row.userId = u))
      subscriptions :=
        t.subscriptions.deleteWhere
          (fun row => decide (row.userId = u))
      invoices :=
        t.invoices.deleteWhere
          (fun row => decide (row.userId = u))
      settings :=
        t.settings.deleteWhere
          (fun row => decide (row.userId = u))
      notifications :=
        t.notifications.deleteWhere
          (fun row => decide (row.userId = u)) }

theorem without_sameRows
    {u : String}
    (hOther : u ≠ v)
    (t : UserTables) : SameRows v t (t.without u) where
  accounts :=
    Table.rowsOf_deleteWhere (Dialect.spared_by_user hOther)
  config :=
    Table.rowsOf_deleteWhere (Dialect.spared_by_user hOther)
  subscriptions :=
    Table.rowsOf_deleteWhere (Dialect.spared_by_user hOther)
  invoices :=
    Table.rowsOf_deleteWhere (Dialect.spared_by_user hOther)
  settings :=
    Table.rowsOf_deleteWhere (Dialect.spared_by_user hOther)
  notifications :=
    Table.rowsOf_deleteWhere (Dialect.spared_by_user hOther)
  catalogs := rfl

theorem purge_eq_ok
    {u : String}
    (hPurge : UserStore.purge d u t = .ok t') :
    t' = t.without u := by
  unfold UserStore.purge UserStore.purges at hPurge
  simp only [List.foldlM_cons, List.foldlM_nil] at hPurge
  rcases bind_eq_ok.mp hPurge with ⟨_, hAccounts, hPurge⟩
  rcases bind_eq_ok.mp hPurge with ⟨_, hConfig, hPurge⟩
  rcases bind_eq_ok.mp hPurge with ⟨_, hPlan, hPurge⟩
  rcases bind_eq_ok.mp hPurge with ⟨_, hInvoices, hPurge⟩
  rcases bind_eq_ok.mp hPurge with ⟨_, hSettings, hPurge⟩
  rcases bind_eq_ok.mp hPurge with ⟨_, hNotifs, hPurge⟩
  cases hPurge
  rw [Dialect.execute_eq_ok hNotifs,
    Dialect.execute_eq_ok hSettings,
    Dialect.execute_eq_ok hInvoices,
    Dialect.execute_eq_ok hPlan,
    Dialect.execute_eq_ok hConfig,
    Dialect.execute_eq_ok hAccounts]
  rfl

/- A database that refuses nothing deletes the rows. -/
theorem purge_of_accepting
    (hAccepts :
      ∀ statement bindings tables,
        d.refuses statement bindings tables = none)
    (u : String)
    (t : UserTables) :
    UserStore.purge d u t = .ok (t.without u) := by
  have hExecute :
      ∀ statement bindings tables,
        d.database.execute statement bindings tables =
          .ok (d.effect statement bindings tables) := by
    intro statement bindings tables
    unfold Dialect.database
    dsimp only
    rw [hAccepts]
  unfold UserStore.purge UserStore.purges
  simp only [List.foldlM_cons, List.foldlM_nil, hExecute]
  rfl

/- No user table has a row of the user. -/
structure UserTables.NoRows
    (t : UserTables)
    (u : String) : Prop where
  accounts : t.accounts.rowsOf UserRow.userId u = []
  config : t.config.rowsOf UserRow.userId u = []
  subscriptions : t.subscriptions.rowsOf UserRow.userId u = []
  invoices : t.invoices.rowsOf UserRow.userId u = []
  settings : t.settings.rowsOf UserRow.userId u = []
  notifications : t.notifications.rowsOf UserRow.userId u = []

theorem noRows_without
    (t : UserTables)
    (u : String) : (t.without u).NoRows u where
  accounts := Table.rowsOf_deleteWhere_self
  config := Table.rowsOf_deleteWhere_self
  subscriptions := Table.rowsOf_deleteWhere_self
  invoices := Table.rowsOf_deleteWhere_self
  settings := Table.rowsOf_deleteWhere_self
  notifications := Table.rowsOf_deleteWhere_self

/-
  No table has a row of the user, and the containers are
  those that a user without any rows has.
-/
structure UserStore.Forgotten
    (u : String)
    (s : UserStore) : Prop where
  noRows : s.tables.NoRows u
  accounts : s.store.accounts = .fresh
  config : s.store.config = .fresh
  billing : s.store.billing = .fresh u
  settings : s.store.settings = .fresh u
  notifications : s.notifications = .fresh

namespace UserStore

/- A logout is refused as a whole or done as a whole. -/
theorem onLogout_cases
    (d : Dialect)
    {s : UserStore}
    (occasion : Occasion)
    {target : Option String}
    (hTarget : target = none ∨ target = some s.userId) :
    (∃ error, s.onLogout d occasion target = (.error error, s)) ∨
      s.onLogout d occasion target =
        (.ok (),
          (s.withTables (s.tables.without s.userId)).reset
            s.userId) := by
  have hUser : presentOr target s.userId = s.userId := by
    rcases hTarget with rfl | rfl
    · rfl
    · exact ite_self s.userId
  unfold onLogout
  dsimp only
  rw [hUser]
  split
  · rename_i error _
    exact .inl ⟨error, rfl⟩
  · rename_i tables hPurge
    rw [purge_eq_ok (committed_eq_ok hPurge)]
    exact .inr rfl

theorem onLogout_of_accepting
    {s : UserStore}
    {occasion : Occasion}
    (target : Option String)
    (hAccepts :
      ∀ statement bindings tables,
        d.refuses statement bindings tables = none)
    (hClosing : occasion.closing = none) :
    (s.onLogout d occasion target).1 = .ok () := by
  unfold onLogout
  dsimp only
  rw [purge_of_accepting hAccepts]
  unfold committed
  rw [hClosing]

/- What a run keeps of another user, and of who it runs for. -/
theorem run_keeps_other
    {s : UserStore}
    {events : List (Occasion × UserOperation)}
    (hOther : s.userId ≠ v)
    (hSpares :
      Along (step d)
        (fun s event => event.2.Spares d v s event.1)
        s events) :
    s.store.Keeps v (run (step d) s events).store := by
  have hStep :
      ∀ (next : UserStore)
        (event : Occasion × UserOperation),
        s.store.Keeps v next.store →
          event.2.Spares d v next event.1 →
            s.store.Keeps v (step d next event).store := by
    intro next event hKeeps hEvent
    have hNext : next.userId ≠ v := by
      intro hSame
      exact hOther (hKeeps.user.symm.trans hSame)
    have hMore := operate_keeps hNext hEvent
    exact ⟨hMore.user.trans hKeeps.user,
      hKeeps.rows.trans hMore.rows⟩
  exact run_invariant hStep (.refl v s.store) hSpares

/-
  Nothing that a user does changes the rows of another one as
  long as no id is one of theirs, and a logout that is done
  forgets the user.
-/
theorem users_are_separate
    (d : Dialect)
    (v : String)
    (s : UserStore)
    (events : List (Occasion × UserOperation))
    (hOther : s.userId ≠ v)
    (hSpares :
      Along (step d)
        (fun s event => event.2.Spares d v s event.1)
        s events) :
    Throughout (step d)
        (fun t => SameRows v s.tables t.tables) s events ∧
      ∀ (occasion : Occasion) (target : Option String),
        target = none ∨ target = some s.userId →
          SameRows v s.tables
              ((run (step d) s events).onLogout d occasion
                target).2.tables ∧
            (((run (step d) s events).onLogout d occasion
                  target).1 = .ok () →
              ((run (step d) s events).onLogout d occasion
                target).2.Forgotten s.userId) ∧
            ((∀ statement bindings tables,
                d.refuses statement bindings tables = none) →
              occasion.closing = none →
                ((run (step d) s events).onLogout d occasion
                  target).1 = .ok ()) := by
  constructor
  · intro past future hEvents
    rw [hEvents, along_append] at hSpares
    exact (run_keeps_other hOther hSpares.1).rows
  · intro occasion target hTarget
    have hKept := run_keeps_other hOther hSpares
    generalize run (step d) s events = last at hKept ⊢
    have hUser : last.userId = s.userId := hKept.user
    rw [← hUser] at hOther hTarget ⊢
    refine ⟨?_, ?_, ?_⟩
    · rcases onLogout_cases d occasion hTarget with
        ⟨error, hLeft⟩ | hLeft
      · rw [hLeft]
        exact hKept.rows
      · rw [hLeft]
        exact hKept.rows.trans
          (without_sameRows hOther last.tables)
    · intro hDone
      rcases onLogout_cases d occasion hTarget with
        ⟨error, hLeft⟩ | hLeft
      · rw [hLeft] at hDone
        cases hDone
      · rw [hLeft]
        exact ⟨noRows_without last.tables last.userId,
          rfl, rfl, rfl, rfl, rfl⟩
    · exact onLogout_of_accepting target

end UserStore

/- A database that refuses nothing and stores texts alone. -/
def permissive : Dialect where
  affinity := fun _ => none
  cipherText := fun plain => "enc:v1:" ++ plain
  refuses := fun _ _ _ => none

/- The row of an account as it has been stored. -/
def othersAccount : UserRow where
  id := some "acc-1"
  userId := "usr-2"
  columns :=
    [.text "runner", .text "sportybet", .text "SportyBet",
      .text "runner", .sealed "hidden",
      .value (.number (.finite 0)), .text "₦", .text "READY",
      .text "Healthy", .text "Active & Synchronized",
      .value .null, .json (.array []), .value .null,
      .text "STOPPED", .text "STOPPED", .value .null,
      .text "2026-01-01", .text "2026-01-01"]

/- The tables of a user with one account. -/
def othersTables : UserTables where
  accounts := ⟨[othersAccount], List.pairwise_singleton _ _⟩
  config := .empty
  subscriptions := .empty
  invoices := .empty
  settings := .empty
  notifications := .empty
  metadata := .empty
  catalogs := ⟨[], [], [], []⟩

/- The store of another user over the same tables. -/
def newcomer : UserStore where
  store :=
    { userId := "usr-1"
      tables := othersTables
      accounts := .fresh
      config := .fresh
      billing := .fresh "usr-1"
      settings := .fresh "usr-1" }
  notifications := .fresh

def morning : Occasion := ⟨"2026-01-01T08:00:00Z", "fresh", none⟩

/- An account of the newcomer with a given id. -/
def addAccount (id : String) : Occasion × UserOperation :=
  (morning,
    .mutate (.transaction (.upsert
      (.object
        [("id", .text id),
          ("platformId", .text "bet9ja"),
          ("accountUsername", .text "striker"),
          ("accountPassword", .text "secret")])
      .null)))

def addNotice (id : String) : Occasion × UserOperation :=
  (morning,
    .addNotification (.object [("id", .text id)]))

namespace UserStore

theorem newcomer_is_separate :
    SameRows "usr-2" othersTables
        ((run (step permissive) newcomer
          [addAccount "acc-2", addNotice "n-1"]).onLogout
            permissive morning none).2.tables ∧
      ((run (step permissive) newcomer
          [addAccount "acc-2", addNotice "n-1"]).onLogout
            permissive morning none).2.Forgotten "usr-1" := by
  have hSeparate :=
    (users_are_separate permissive "usr-2" newcomer
      [addAccount "acc-2", addNotice "n-1"] (by decide)
      (by decide +kernel)).2 morning none (.inl rfl)
  rcases hSeparate with ⟨hSame, hForgotten, hDone⟩
  exact ⟨hSame, hForgotten (hDone (fun _ _ _ => rfl) rfl)⟩

/- An account with the id of another user's account. -/
theorem upsert_overwrites_another_user :
    ¬ ∀ (d : Dialect) (v : String) (s : UserStore)
      (events : List (Occasion × UserOperation)),
      s.userId ≠ v →
        Throughout (step d)
          (fun t => SameRows v s.tables t.tables) s events := by
  intro hClaim
  have hSame :=
    (hClaim permissive "usr-2" newcomer [addAccount "acc-1"]
      (by decide) [addAccount "acc-1"] [] rfl).accounts
  revert hSame
  decide +kernel

end UserStore

end Mutators

end ControlPlane
