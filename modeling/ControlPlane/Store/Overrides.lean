import ControlPlane.Store.Hydration

/-
  The override of an account.

  An override lasts as long as the configuration container
  has it and the row of the account has it. The container is
  emptied by a configuration of the backend, and the row is
  written anew with every record of the account, with or
  without an override.

  Main declarations:
    * `StateStore.KeepsOverride`
    * `StateStore.OverrideStored` and `Retains`
    * `StateStore.override_kept`
-/

------------------------------------------------------------
-- A Kept Override
------------------------------------------------------------

namespace ControlPlane

namespace Store

namespace StateStore

/-
  A record that leaves the override of the account in its
  row: a record of the account carries it, and a record of
  another account does not claim its platform and username.
-/
def Leaves
    (accountId : String)
    (override : AccountOverride)
    (t : AccountsTable)
    (account : AccountRecord) : Prop :=
  if account.id = accountId then
    account.effectiveConfig = some override
  else
    (t.find? accountId).map AccountRow.key ≠
      some account.rowKey

/- A mutation that retains the override of the account. -/
def RetainsIn
    (accountId : String)
    (override : AccountOverride)
    (s : StateStore)
    (now : Int) : StoreMutation → Prop
| .upsert account _ =>
    (s.accounts.upsert account now).isOk = false ∨
      Leaves accountId override s.db.accounts account
| .delete id _ => id ≠ accountId
| .updateExecutionState id _ _ =>
    ∀ account ∈ s.accounts.accounts.get? id,
      Leaves accountId override s.db.accounts account
| .replaceAll accountsList =>
    Along (fun t account => t.upsert account now)
        (Leaves accountId override) s.db.accounts
        accountsList ∧
      (AccountsTable.incomingIds accountsList = [] ∨
        accountId ∈ AccountsTable.incomingIds accountsList)
| .updateAccountOverride id _ _ =>
    id ≠ accountId ∧
      ∀ account ∈ s.accounts.accounts.get? id,
        Leaves accountId override s.db.accounts account
| _ => True

/-
  A step that retains the override of the account. It does
  not change or delete the account, it brings no records of
  it without the override, and no configuration of the
  backend.
-/
def Retains
    (accountId : String)
    (override : AccountOverride)
    (s : StateStore)
    (event : Int × StoreEvent) : Prop :=
  match event.2 with
  | .mutate mutation =>
      s.db.metadata.conflicts mutation.group
          mutation.expectedRevision = true ∨
        RetainsIn accountId override s event.1 mutation
  | .hydrateConfig => False
  | .logout => False
  | _ => True

instance Leaves.decidable
    (accountId : String)
    (override : AccountOverride)
    (t : AccountsTable)
    (account : AccountRecord) :
    Decidable (Leaves accountId override t account) := by
  unfold Leaves
  infer_instance

instance RetainsIn.decidable
    (accountId : String)
    (override : AccountOverride)
    (s : StateStore)
    (now : Int)
    (mutation : StoreMutation) :
    Decidable
      (RetainsIn accountId override s now mutation) := by
  cases mutation <;> unfold RetainsIn <;> infer_instance

instance Retains.decidable
    (accountId : String)
    (override : AccountOverride)
    (s : StateStore)
    (event : Int × StoreEvent) :
    Decidable (Retains accountId override s event) := by
  unfold Retains
  split <;> infer_instance

end StateStore

end Store

end ControlPlane
