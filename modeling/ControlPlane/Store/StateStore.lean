import ControlPlane.Data.Run
import ControlPlane.Store.Accounts

/-
  The state store.

  A mutation runs in a transaction of the database: it is
  refused when it expects another revision, writes the tables
  first and the containers after them, and a refusal on the
  way takes the tables back. The override of an account is
  kept in the configuration container, in the record of the
  account and in a column of its row.

  Main declarations:
    * `Database`, `ConfigContainer` and `StateStore`
    * `StateStore.executeGroupTransaction`
    * `StateStore.hydrate` and `StateStore.boot`
    * `StoreEvent` and `StateStore.step`
    * `StateStore.Applied` and `applied_of_apply`
-/

------------------------------------------------------------
-- Tables And Containers
------------------------------------------------------------

namespace ControlPlane

namespace Store

structure Database where
  metadata : Metadata
  accounts : AccountsTable

/- The container of the overrides and its revision. -/
structure ConfigContainer where
  accountOverrides : OrderedMap String AccountOverride
  revision : Nat

namespace ConfigContainer

def fresh : ConfigContainer where
  accountOverrides := .empty
  revision := 1

def getAccountOverride
    (c : ConfigContainer)
    (accountId : String) : AccountOverride :=
  (c.accountOverrides.get? accountId).getD .default

def updateAccountOverride
    (c : ConfigContainer)
    (accountId : String)
    (updates : AccountOverride) : ConfigContainer where
  accountOverrides :=
    c.accountOverrides.set accountId
      ((c.getAccountOverride accountId).spread updates)
  revision := c.revision + 1

/- Fill the container anew, with the overrides given. -/
def hydrate
    (c : ConfigContainer)
    (overrides : List (String × AccountOverride))
    (revision : Option Nat) : ConfigContainer where
  accountOverrides :=
    overrides.foldl
      (fun filled entry => filled.set entry.1 entry.2) .empty
  revision := revision.getD (c.revision + 1)

end ConfigContainer

structure StateStore where
  db : Database
  accounts : AccountsContainer
  config : ConfigContainer
  billingRevision : Nat
  settingsRevision : Nat

namespace StateStore

/- The revision that a container reports. -/
def containerRevision
    (s : StateStore) : ConsistencyGroup → Nat
| .accounts => s.accounts.revision
| .globalConfig => s.config.revision
| .billing => s.billingRevision
| .settings => s.settingsRevision

/- The revision that is stored for a group. -/
def persistedRevision
    (s : StateStore)
    (group : ConsistencyGroup) : Nat :=
  s.db.metadata.revision group

def setMetadata
    (s : StateStore)
    (metadata : Metadata) : StateStore :=
  { s with db := { s.db with metadata := metadata } }

------------------------------------------------------------
-- Transactions
------------------------------------------------------------

/-
  A mutation of a group. One that is refused after it has
  begun leaves the database as it was, and the containers as
  the mutation has left them.
-/
def executeGroupTransaction
    (s : StateStore)
    (group : ConsistencyGroup)
    (expectedRevision : Option Nat)
    (now : Int)
    (mutationFn :
      Nat → StateStore → Option StoreError × StateStore) :
    Option StoreError × StateStore :=
  if s.db.metadata.conflicts group expectedRevision then
    (some (.revisionConflict group
      (expectedRevision.getD 0) (s.persistedRevision group)), s)
  else
    let nextRevision := s.persistedRevision group + 1
    match mutationFn nextRevision s with
    | (some error, t) => (some error, { t with db := s.db })
    | (none, t) =>
        (none, t.setMetadata
          (t.db.metadata.set group now (some nextRevision)
            none))

------------------------------------------------------------
-- Accounts
------------------------------------------------------------

def upsertAccount
    (s : StateStore)
    (account : AccountRecord)
    (now : Int) : Option StoreError × StateStore :=
  let written :=
    { s with
        db :=
          { s.db with
              accounts := s.db.accounts.upsert account now } }
  match s.accounts.upsert account now with
  | .error error => (some error, written)
  | .ok accounts => (none, { written with accounts := accounts })

def deleteAccount
    (s : StateStore)
    (id : String) : Option StoreError × StateStore :=
  (none,
    { s with
        db :=
          { s.db with accounts := s.db.accounts.delete id }
        accounts := s.accounts.delete id })

def updateExecutionState
    (s : StateStore)
    (id : String)
    (update : ExecutionStateUpdate)
    (now : Int) : Option StoreError × StateStore :=
  match s.accounts.accounts.get? id with
  | none => (none, s)
  | some current =>
      (none,
        { s with
            db :=
              { s.db with
                  accounts :=
                    s.db.accounts.upsert
                      (current.withExecutionState update now)
                      now }
            accounts :=
              s.accounts.updateExecutionState id update now })

def replaceAllAccounts
    (s : StateStore)
    (accountsList : List AccountRecord)
    (now : Int)
    (nextRevision : Nat) : Option StoreError × StateStore :=
  (none,
    { s with
        db :=
          { s.db with
              accounts :=
                s.db.accounts.replaceAll accountsList now }
        accounts :=
          s.accounts.hydrate accountsList (some nextRevision) })

def resetObservedStates
    (s : StateStore)
    (reason : String)
    (now : Int) : Option StoreError × StateStore :=
  (none,
    { s with
        db :=
          { s.db with
              accounts :=
                s.db.accounts.resetObservedStatesOnBoot reason }
        accounts :=
          s.accounts.resetObservedStatesOnBoot reason now })

/- The record and the row of the account take the override. -/
def updateAccountOverride
    (s : StateStore)
    (accountId : String)
    (updates : AccountOverride)
    (now : Int) : Option StoreError × StateStore :=
  let updatedOverride :=
    (s.config.getAccountOverride accountId).spread updates
  let config := s.config.updateAccountOverride accountId updates
  match s.accounts.accounts.get? accountId with
  | none => (none, { s with config := config })
  | some account =>
      let updated :=
        { account with
            effectiveConfig := some updatedOverride
            lastUpdated := some now }
      (none,
        { s with
            db :=
              { s.db with
                  accounts :=
                    s.db.accounts.upsert updated now }
            accounts :=
              { s.accounts with
                  accounts :=
                    s.accounts.accounts.set accountId updated }
            config := config })

------------------------------------------------------------
-- Other Groups
------------------------------------------------------------

/- One container counts a mutation that is not refused. -/
def bumpContainer
    (s : StateStore) : ConsistencyGroup → StateStore
| .accounts => { s with accounts := s.accounts.bumped }
| .globalConfig =>
    { s with
        config :=
          { s.config with revision := s.config.revision + 1 } }
| .billing =>
    { s with billingRevision := s.billingRevision + 1 }
| .settings =>
    { s with settingsRevision := s.settingsRevision + 1 }

/- A mutation of a group whose contents are not followed. -/
def mutateContents
    (s : StateStore)
    (group : ConsistencyGroup)
    (refused : Bool) : Option StoreError × StateStore :=
  if refused then (some .refused, s)
  else (none, s.bumpContainer group)

/- The configuration of the backend replaces the container. -/
def hydrateConfig (s : StateStore) : StateStore :=
  { s with config := s.config.hydrate [] none }

/-
  The subscription of the backend replaces the container,
  unless it is not valid. Its metadata are written last, if
  nothing has been refused by then.
-/
def hydrateBilling
    (s : StateStore)
    (valid stored : Bool)
    (now : Int) : StateStore :=
  if valid then
    let filled := s.bumpContainer .billing
    if stored then
      filled.setMetadata
        (filled.db.metadata.set .billing now none (some now))
    else filled
  else s

------------------------------------------------------------
-- Hydration
------------------------------------------------------------

/- The overrides in the rows of the accounts. -/
def listOverrides
    (accountsList : List AccountRecord) :
    List (String × AccountOverride) :=
  accountsList.filterMap
    (fun account =>
      account.effectiveConfig.map
        (fun override => (account.id, override)))

/- Fill the containers from the database. -/
def hydrate (s : StateStore) : StateStore :=
  let accountsList := s.db.accounts.listByUser
  { s with
      accounts :=
        s.accounts.hydrate accountsList
          (some (s.persistedRevision .accounts))
      config :=
        s.config.hydrate (listOverrides accountsList)
          (some (s.persistedRevision .globalConfig))
      billingRevision := s.persistedRevision .billing
      settingsRevision := s.persistedRevision .settings }

/- A store over a database, before it is initialized. -/
def opened (db : Database) : StateStore where
  db := db
  accounts := .fresh
  config := .fresh
  billingRevision := 1
  settingsRevision := 1

/-
  A new process over a database: the observed states are
  reset in the table, the containers are filled, and reset
  in turn.
-/
def boot
    (db : Database)
    (now : Int) : StateStore :=
  let filled :=
    (opened
      { db with
          accounts :=
            db.accounts.resetObservedStatesOnBoot
              "SYSTEM_BOOT_RECOVERY" }).hydrate
  { filled with
      accounts :=
        filled.accounts.resetObservedStatesOnBoot
          "SYSTEM_BOOT_RECOVERY" now }

/- The rows of the user go, the metadata stay. -/
def onLogout (s : StateStore) : StateStore :=
  opened { s.db with accounts := .empty }

end StateStore

------------------------------------------------------------
-- Runs
------------------------------------------------------------

/- The mutations, with the revision that each expects. -/
inductive StoreMutation where
| upsert
    (account : AccountRecord)
    (expectedRevision : Option Nat)
| delete (id : String) (expectedRevision : Option Nat)
| updateExecutionState
    (id : String)
    (update : ExecutionStateUpdate)
    (expectedRevision : Option Nat)
| replaceAll (accountsList : List AccountRecord)
| resetObservedStates (reason : String)
| updateAccountOverride
    (accountId : String)
    (updates : AccountOverride)
    (expectedRevision : Option Nat)
| updateCategory
    (refused : Bool)
    (expectedRevision : Option Nat)
| updateSubscription
    (refused : Bool)
    (expectedRevision : Option Nat)
| addInvoice (refused : Bool)
| updateSettings
    (refused : Bool)
    (expectedRevision : Option Nat)

namespace StoreMutation

/- The group whose revision a mutation raises. -/
def group : StoreMutation → ConsistencyGroup
| .upsert _ _ => .accounts
| .delete _ _ => .accounts
| .updateExecutionState _ _ _ => .accounts
| .replaceAll _ => .accounts
| .resetObservedStates _ => .accounts
| .updateAccountOverride _ _ _ => .accounts
| .updateCategory _ _ => .globalConfig
| .updateSubscription _ _ => .billing
| .addInvoice _ => .billing
| .updateSettings _ _ => .settings

def expectedRevision : StoreMutation → Option Nat
| .upsert _ expected => expected
| .delete _ expected => expected
| .updateExecutionState _ _ expected => expected
| .replaceAll _ => none
| .resetObservedStates _ => none
| .updateAccountOverride _ _ expected => expected
| .updateCategory _ expected => expected
| .updateSubscription _ expected => expected
| .addInvoice _ => none
| .updateSettings _ expected => expected

/- What a mutation does within its transaction. -/
def apply
    (mutation : StoreMutation)
    (now : Int)
    (nextRevision : Nat)
    (s : StateStore) : Option StoreError × StateStore :=
  match mutation with
  | .upsert account _ => s.upsertAccount account now
  | .delete id _ => s.deleteAccount id
  | .updateExecutionState id update _ =>
      s.updateExecutionState id update now
  | .replaceAll accountsList =>
      s.replaceAllAccounts accountsList now nextRevision
  | .resetObservedStates reason =>
      s.resetObservedStates reason now
  | .updateAccountOverride accountId updates _ =>
      s.updateAccountOverride accountId updates now
  | .updateCategory refused _ =>
      s.mutateContents .globalConfig refused
  | .updateSubscription refused _ =>
      s.mutateContents .billing refused
  | .addInvoice refused => s.mutateContents .billing refused
  | .updateSettings refused _ =>
      s.mutateContents .settings refused

end StoreMutation

/-
  What happens to a store: a mutation, a balance read from a
  page, a hydration by the repositories, a hydration from the
  database, a logout, or a new process.
-/
inductive StoreEvent where
| mutate (mutation : StoreMutation)
| updateBalance
    (id : String)
    (balance : Rat)
    (currencySymbol : String)
| hydrateConfig
| hydrateBilling (valid stored : Bool)
| hydrate
| logout
| restart

namespace StateStore

/- A mutation with its answer. -/
def mutate
    (s : StateStore)
    (mutation : StoreMutation)
    (now : Int) : Option StoreError × StateStore :=
  s.executeGroupTransaction mutation.group
    mutation.expectedRevision now (mutation.apply now)

/- An event with the time at which it happens. -/
def step
    (s : StateStore)
    (event : Int × StoreEvent) : StateStore :=
  match event.2 with
  | .mutate mutation => (s.mutate mutation event.1).2
  | .updateBalance id balance currencySymbol =>
      { s with
          accounts :=
            s.accounts.updateBalance id balance
              currencySymbol }
  | .hydrateConfig => s.hydrateConfig
  | .hydrateBilling valid stored =>
      s.hydrateBilling valid stored event.1
  | .hydrate => s.hydrate
  | .logout => s.onLogout
  | .restart => boot s.db event.1

/- The store of a new database in its first process. -/
def reached
    (now : Int)
    (events : List (Int × StoreEvent)) : StateStore :=
  run step (boot ⟨.empty, .empty⟩ now) events

------------------------------------------------------------
-- Outcomes Of A Mutation
------------------------------------------------------------

theorem upsertAccount_eq
    (s : StateStore)
    (account : AccountRecord)
    (now : Int) :
    (∃ error t,
      s.upsertAccount account now = (some error, t) ∧
        { t with db := s.db } = s) ∨
    ∃ accounts,
      s.accounts.upsert account now = .ok accounts ∧
        s.upsertAccount account now =
          (none,
            { s with
                db :=
                  { s.db with
                      accounts :=
                        s.db.accounts.upsert account now }
                accounts := accounts }) := by
  unfold upsertAccount
  cases hUpsert : s.accounts.upsert account now with
  | error error => exact .inl ⟨error, _, rfl, rfl⟩
  | ok accounts => exact .inr ⟨accounts, rfl, rfl⟩

theorem mutateContents_eq
    {s t : StateStore}
    {group : ConsistencyGroup}
    {refused : Bool}
    (hMutate : s.mutateContents group refused = (none, t)) :
    t = s.bumpContainer group := by
  unfold mutateContents at hMutate
  cases refused with
  | true => cases hMutate
  | false =>
      cases hMutate
      rfl

/- What a mutation that is accepted leads to. -/
inductive Applied
    (s : StateStore)
    (now : Int)
    (nextRevision : Nat) :
    StoreMutation → StateStore → Prop
| upsert
    {account : AccountRecord}
    {expectedRevision : Option Nat}
    {accounts : AccountsContainer}
    (hUpsert :
      s.accounts.upsert account now = .ok accounts) :
    Applied s now nextRevision
      (.upsert account expectedRevision)
      { s with
          db :=
            { s.db with
                accounts := s.db.accounts.upsert account now }
          accounts := accounts }
| delete
    {id : String}
    {expectedRevision : Option Nat} :
    Applied s now nextRevision (.delete id expectedRevision)
      { s with
          db :=
            { s.db with accounts := s.db.accounts.delete id }
          accounts := s.accounts.delete id }
| updateUnknown
    {id : String}
    {update : ExecutionStateUpdate}
    {expectedRevision : Option Nat}
    (hUnknown : s.accounts.accounts.get? id = none) :
    Applied s now nextRevision
      (.updateExecutionState id update expectedRevision) s
| updateExecutionState
    {id : String}
    {update : ExecutionStateUpdate}
    {expectedRevision : Option Nat}
    {current : AccountRecord}
    (hCurrent : s.accounts.accounts.get? id = some current) :
    Applied s now nextRevision
      (.updateExecutionState id update expectedRevision)
      { s with
          db :=
            { s.db with
                accounts :=
                  s.db.accounts.upsert
                    (current.withExecutionState update now)
                    now }
          accounts :=
            s.accounts.updateExecutionState id update now }
| replaceAll
    {accountsList : List AccountRecord} :
    Applied s now nextRevision (.replaceAll accountsList)
      { s with
          db :=
            { s.db with
                accounts :=
                  s.db.accounts.replaceAll accountsList now }
          accounts :=
            s.accounts.hydrate accountsList
              (some nextRevision) }
| resetObservedStates
    {reason : String} :
    Applied s now nextRevision (.resetObservedStates reason)
      { s with
          db :=
            { s.db with
                accounts :=
                  s.db.accounts.resetObservedStatesOnBoot
                    reason }
          accounts :=
            s.accounts.resetObservedStatesOnBoot reason now }
| overrideUnknown
    {accountId : String}
    {updates : AccountOverride}
    {expectedRevision : Option Nat}
    (hUnknown : s.accounts.accounts.get? accountId = none) :
    Applied s now nextRevision
      (.updateAccountOverride accountId updates
        expectedRevision)
      { s with
          config :=
            s.config.updateAccountOverride accountId updates }
| updateAccountOverride
    {accountId : String}
    {updates : AccountOverride}
    {expectedRevision : Option Nat}
    {account updated : AccountRecord}
    (hAccount :
      s.accounts.accounts.get? accountId = some account)
    (hUpdated :
      updated =
        { account with
            effectiveConfig :=
              some ((s.config.getAccountOverride
                accountId).spread updates)
            lastUpdated := some now }) :
    Applied s now nextRevision
      (.updateAccountOverride accountId updates
        expectedRevision)
      { s with
          db :=
            { s.db with
                accounts := s.db.accounts.upsert updated now }
          accounts :=
            { s.accounts with
                accounts :=
                  s.accounts.accounts.set accountId updated }
          config :=
            s.config.updateAccountOverride accountId updates }
| updateCategory
    {refused : Bool}
    {expectedRevision : Option Nat} :
    Applied s now nextRevision
      (.updateCategory refused expectedRevision)
      (s.bumpContainer .globalConfig)
| updateSubscription
    {refused : Bool}
    {expectedRevision : Option Nat} :
    Applied s now nextRevision
      (.updateSubscription refused expectedRevision)
      (s.bumpContainer .billing)
| addInvoice
    {refused : Bool} :
    Applied s now nextRevision (.addInvoice refused)
      (s.bumpContainer .billing)
| updateSettings
    {refused : Bool}
    {expectedRevision : Option Nat} :
    Applied s now nextRevision
      (.updateSettings refused expectedRevision)
      (s.bumpContainer .settings)

theorem applied_of_apply
    {s t : StateStore}
    {mutation : StoreMutation}
    {now : Int}
    {nextRevision : Nat}
    (hApply :
      mutation.apply now nextRevision s = (none, t)) :
    s.Applied now nextRevision mutation t := by
  cases mutation with
  | upsert account _ =>
      change s.upsertAccount account now = _ at hApply
      rcases upsertAccount_eq s account now with
        ⟨_, _, hEq, _⟩ | ⟨accounts, hUpsert, hEq⟩
      · rw [hEq] at hApply
        cases hApply
      · rw [hEq] at hApply
        cases hApply
        exact .upsert hUpsert
  | delete id _ =>
      cases hApply
      exact .delete
  | updateExecutionState id update _ =>
      change s.updateExecutionState id update now = _ at hApply
      unfold updateExecutionState at hApply
      split at hApply
      · rename_i hUnknown
        cases hApply
        exact .updateUnknown hUnknown
      · rename_i current hCurrent
        cases hApply
        exact .updateExecutionState hCurrent
  | replaceAll accountsList =>
      cases hApply
      exact .replaceAll
  | resetObservedStates reason =>
      cases hApply
      exact .resetObservedStates
  | updateAccountOverride accountId updates _ =>
      change
        s.updateAccountOverride accountId updates now = _
          at hApply
      unfold updateAccountOverride at hApply
      dsimp only at hApply
      split at hApply
      · rename_i hUnknown
        cases hApply
        exact .overrideUnknown hUnknown
      · rename_i account hAccount
        cases hApply
        exact .updateAccountOverride hAccount rfl
  | updateCategory refused _ =>
      rw [mutateContents_eq hApply]
      exact .updateCategory
  | updateSubscription refused _ =>
      rw [mutateContents_eq hApply]
      exact .updateSubscription
  | addInvoice refused =>
      rw [mutateContents_eq hApply]
      exact .addInvoice
  | updateSettings refused _ =>
      rw [mutateContents_eq hApply]
      exact .updateSettings

/-
  A mutation that is refused within its transaction has left
  the containers as they were.
-/
theorem apply_refused
    {mutation : StoreMutation}
    {now : Int}
    {nextRevision : Nat}
    {s t : StateStore}
    {error : StoreError}
    (hApply :
      mutation.apply now nextRevision s = (some error, t)) :
    { t with db := s.db } = s := by
  have hContents :
      ∀ group refused,
        s.mutateContents group refused = (some error, t) →
          { t with db := s.db } = s := by
    intro group refused hMutate
    unfold mutateContents at hMutate
    cases refused with
    | true =>
        cases hMutate
        rfl
    | false => cases hMutate
  cases mutation with
  | upsert account _ =>
      rcases upsertAccount_eq s account now with
        ⟨other, u, hEq, hSame⟩ | ⟨accounts, _, hEq⟩
      · change s.upsertAccount account now = _ at hApply
        rw [hEq] at hApply
        cases hApply
        exact hSame
      · change s.upsertAccount account now = _ at hApply
        rw [hEq] at hApply
        cases hApply
  | delete id _ => cases hApply
  | updateExecutionState id update _ =>
      change s.updateExecutionState id update now = _ at hApply
      unfold updateExecutionState at hApply
      split at hApply <;> cases hApply
  | replaceAll accountsList => cases hApply
  | resetObservedStates reason => cases hApply
  | updateAccountOverride accountId updates _ =>
      change
        s.updateAccountOverride accountId updates now = _
          at hApply
      unfold updateAccountOverride at hApply
      dsimp only at hApply
      split at hApply <;> cases hApply
  | updateCategory refused _ => exact hContents _ _ hApply
  | updateSubscription refused _ => exact hContents _ _ hApply
  | addInvoice refused => exact hContents _ _ hApply
  | updateSettings refused _ => exact hContents _ _ hApply

/- A mutation does not touch the metadata by itself. -/
theorem metadata_apply
    (mutation : StoreMutation)
    (now : Int)
    (nextRevision : Nat)
    (s : StateStore) :
    (mutation.apply now nextRevision s).2.db.metadata =
      s.db.metadata := by
  have hContents :
      ∀ group refused,
        (s.mutateContents group refused).2.db.metadata =
          s.db.metadata := by
    intro group refused
    unfold mutateContents
    cases refused with
    | true => rfl
    | false => cases group <;> rfl
  cases mutation with
  | upsert account _ =>
      change
        (s.upsertAccount account now).2.db.metadata = _
      unfold upsertAccount
      dsimp only
      split <;> rfl
  | delete id _ => rfl
  | updateExecutionState id update _ =>
      change
        (s.updateExecutionState id update now).2.db.metadata =
          _
      unfold updateExecutionState
      split <;> rfl
  | replaceAll accountsList => rfl
  | resetObservedStates reason => rfl
  | updateAccountOverride accountId updates _ =>
      change
        (s.updateAccountOverride accountId updates
          now).2.db.metadata = _
      unfold updateAccountOverride
      dsimp only
      split <;> rfl
  | updateCategory refused _ => exact hContents _ _
  | updateSubscription refused _ => exact hContents _ _
  | addInvoice refused => exact hContents _ _
  | updateSettings refused _ => exact hContents _ _

theorem mutate_of_conflict
    {s : StateStore}
    {mutation : StoreMutation}
    (hConflict :
      s.db.metadata.conflicts mutation.group
        mutation.expectedRevision = true)
    (now : Int) :
    s.mutate mutation now =
      (some (.revisionConflict mutation.group
        (mutation.expectedRevision.getD 0)
        (s.persistedRevision mutation.group)), s) := by
  unfold mutate executeGroupTransaction
  rw [if_pos hConflict]

theorem mutate_of_refused
    {s t : StateStore}
    {mutation : StoreMutation}
    {now : Int}
    {error : StoreError}
    (hConflict :
      s.db.metadata.conflicts mutation.group
        mutation.expectedRevision = false)
    (hApply :
      mutation.apply now
          (s.persistedRevision mutation.group + 1) s =
        (some error, t)) :
    s.mutate mutation now = (some error, s) := by
  unfold mutate executeGroupTransaction
  rw [hConflict]
  simp [hApply, apply_refused hApply]

theorem mutate_of_accepted
    {s t : StateStore}
    {mutation : StoreMutation}
    {now : Int}
    (hConflict :
      s.db.metadata.conflicts mutation.group
        mutation.expectedRevision = false)
    (hApply :
      mutation.apply now
          (s.persistedRevision mutation.group + 1) s =
        (none, t)) :
    s.mutate mutation now =
      (none,
        t.setMetadata
          (s.db.metadata.set mutation.group now
            (some (s.persistedRevision mutation.group + 1))
            none)) := by
  have hMeta :=
    metadata_apply mutation now
      (s.persistedRevision mutation.group + 1) s
  rw [hApply] at hMeta
  unfold mutate executeGroupTransaction
  rw [hConflict]
  simp [hApply, ← hMeta]

/-
  A mutation is refused with nothing changed, or what it does
  is stored with the next revision of its group.
-/
theorem mutate_cases
    (s : StateStore)
    (mutation : StoreMutation)
    (now : Int) :
    (s.db.metadata.conflicts mutation.group
        mutation.expectedRevision = true ∧
      s.mutate mutation now =
        (some (.revisionConflict mutation.group
          (mutation.expectedRevision.getD 0)
          (s.persistedRevision mutation.group)), s)) ∨
    (∃ error t,
      mutation.apply now
          (s.persistedRevision mutation.group + 1) s =
        (some error, t) ∧
      s.mutate mutation now = (some error, s)) ∨
    ∃ t,
      mutation.apply now
          (s.persistedRevision mutation.group + 1) s =
        (none, t) ∧
      s.mutate mutation now =
        (none,
          t.setMetadata
            (s.db.metadata.set mutation.group now
              (some (s.persistedRevision mutation.group + 1))
              none)) := by
  cases hConflict :
      s.db.metadata.conflicts mutation.group
        mutation.expectedRevision with
  | true => exact .inl ⟨rfl, mutate_of_conflict hConflict now⟩
  | false =>
      cases hApply :
          mutation.apply now
            (s.persistedRevision mutation.group + 1) s with
      | mk answer t =>
          cases answer with
          | some error =>
              exact .inr (.inl
                ⟨error, t, rfl,
                  mutate_of_refused hConflict hApply⟩)
          | none =>
              exact .inr (.inr
                ⟨t, rfl,
                  mutate_of_accepted hConflict hApply⟩)

/- An account as an operator adds it. -/
def newAccount : AccountRecord where
  id := "acc-1"
  accountUsername := "runner"
  platformDisplayName := some "SportyBet"

end StateStore

end Store

end ControlPlane
