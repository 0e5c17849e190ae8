import ControlPlane.Data.OrderedMap
import ControlPlane.Store.Adapters

/-
  The mutators of the state store, called with any values.

  A mutator reads its arguments, has an adapter write the
  tables, and writes its containers after that. What is
  thrown before a container has been written is an error of
  the mutation as a whole. What is thrown later comes with
  the store as it has been left. A transaction that ends with
  an exception takes the tables back, but no container.

  Main declarations:
    * `AccountsContainer.hydrate` and `upsert`
    * `ConfigContainer`, `BillingContainer` and
      `SettingsContainer`
    * `StateStore.executeGroupTransaction`
    * `GroupMutation.apply`
    * `MutatorCall` and `StateStore.perform`
-/

------------------------------------------------------------
-- The Accounts In Memory
------------------------------------------------------------

namespace ControlPlane

namespace Mutators

structure Balance where
  balance : JsNumber
  currencySymbol : JsValue
  lastUpdated : JsValue
  isStale : Bool
deriving DecidableEq

structure AccountsContainer where
  accounts : OrderedMap JsValue JsValue
  balances : OrderedMap JsValue Balance
  revision : Nat

/- The platform that an account is found by. -/
def platformOf (account : JsValue) : JsValue :=
  (account.field "platformDisplayName").orElse
    ((account.field "platformId").orElse (.text ""))

/-
  The first account with a platform and a username. The name
  of an account is read only if its platform is the same.
-/
def findAmong
    (platform username : String) :
    List JsValue → Except JsError (Option JsValue)
| [] => .ok none
| account :: rest => do
    let accPlatform ← (platformOf account).toLowerCase
    if accPlatform = platform then
      let accUsername ←
        (account.field "accountUsername").toLowerCase
      if accUsername = username then return some account
    findAmong platform username rest

/- The password of a record, unless it is a mask. -/
def knownPassword
    (record : Option JsValue) : Except JsError JsValue :=
  match record with
  | none => .ok (.text protectedPassword)
  | some record => do
      if ← isMaskedPassword (record.field "accountPassword") then
        return .text protectedPassword
      return record.field "accountPassword"

/- The password that is given, or the one that is known. -/
def chosenPassword
    (password : JsValue)
    (record : Option JsValue) : Except JsError JsValue := do
  if ← isMaskedPassword password then
    knownPassword record
  else return password

/- An element has a second place for its password. -/
def importedPassword
    (raw : JsValue)
    (existing : Option JsValue) : Except JsError JsValue := do
  if ← isMaskedPassword (raw.field "accountPassword") then
    chosenPassword (raw.field "account_password") existing
  else return raw.field "accountPassword"

/- The balance that a record comes with. -/
def knownBalance
    (now : String)
    (record : JsValue) : Except JsError (Option Balance) :=
  if record.field "lastKnownBalance" = .undefined then .ok none
  else do
    let balance ← (record.field "lastKnownBalance").toNumber
    return some
      { balance := balance.orZero
        currencySymbol :=
          (record.field "currencySymbol").orElse (.text "₦")
        lastUpdated :=
          (record.field "lastUpdated").orElse (.text now)
        isStale := false }

/- The record with another execution state. -/
def withExecutionState
    (current stateUpdate : JsValue)
    (now : String) : JsValue :=
  let updated := fun name =>
    if stateUpdate.field name ≠ .undefined then
      stateUpdate.field name
    else current.field name
  current.withMembers
    [("desiredState", updated "desiredState"),
      ("observedState", updated "observedState"),
      ("executionStatusReason",
        updated "executionStatusReason"),
      ("lastUpdated", .text now)]

namespace AccountsContainer

def setAccount
    (c : AccountsContainer)
    (record : JsValue) : AccountsContainer :=
  { c with
      accounts := c.accounts.set (record.field "id") record }

def setBalance
    (c : AccountsContainer)
    (id : JsValue)
    (balance : Balance) : AccountsContainer :=
  { c with balances := c.balances.set id balance }

/- The account that an element takes its password from. -/
def findExisting
    (c : AccountsContainer)
    (raw : JsValue) : Except JsError (Option JsValue) := do
  let id ← raw.read "id"
  match c.accounts.get? id with
  | some existing => return some existing
  | none =>
      if !(raw.field "accountUsername").truthy then return none
      let rawPlat ← (platformOf raw).toLowerCase
      let rawUser ← (raw.field "accountUsername").toLowerCase
      findAmong rawPlat rawUser c.accounts.values

/- The record that memory keeps of an element. -/
def imported
    (c : AccountsContainer)
    (raw : JsValue) : Except JsError JsValue := do
  let existing ← c.findExisting raw
  let rawPassword ← importedPassword raw existing
  let clean ← sanitize false raw
  return clean.withMembers [("accountPassword", rawPassword)]

/-
  Fill in one element. The record is kept before its balance
  is read.
-/
def hydrateOne
    (existing filled : AccountsContainer)
    (now : String)
    (raw : JsValue) : Option JsError × AccountsContainer :=
  match existing.imported raw with
  | .error error => (some error, filled)
  | .ok record =>
      let kept := filled.setAccount record
      match knownBalance now record with
      | .error error => (some error, kept)
      | .ok none => (none, kept)
      | .ok (some balance) =>
          (none, kept.setBalance (record.field "id") balance)

/- The loop over the list ends with the first exception. -/
def hydrateAll
    (existing : AccountsContainer)
    (now : String) :
    List JsValue → AccountsContainer →
      Option JsError × AccountsContainer
| [], filled => (none, filled)
| raw :: rest, filled =>
    match existing.hydrateOne filled now raw with
    | (some error, filled) => (some error, filled)
    | (none, filled) => hydrateAll existing now rest filled

/-
  Fill the container anew. It is emptied first, and anything
  but an array is an empty list.
-/
def hydrate
    (c : AccountsContainer)
    (now : String)
    (accountsList : JsValue)
    (revision : Nat) : Option JsError × AccountsContainer :=
  match
    c.hydrateAll now accountsList.items
      { c with accounts := .empty } with
  | (some error, filled) => (some error, filled)
  | (none, filled) => (none, { filled with revision := revision })

def alreadyExists (platform username : JsValue) : JsError :=
  let written := fun value =>
    match value with
    | JsValue.text text => text
    | _ => ""
  .thrown "ValidationError"
    ("Account with platform '" ++ written platform ++
      "' and username '" ++ written username ++
      "' already exists.")

/- A field of the account that is found, if there is one. -/
def existingField
    (existing : Option JsValue)
    (name : String) : JsValue :=
  (existing.map (fun record => record.field name)).getD
    .undefined

/- An array, or what stands for it. -/
def arrayOr (value : JsValue) (items : List JsValue) : JsValue :=
  match value with
  | .array items => .array items
  | _ => .array items

/- The record that memory keeps of an account. -/
def completed
    (clean platform password : JsValue)
    (platformText now uuid : String)
    (existing : Option JsValue) : JsValue :=
  .object
    [("id", (clean.field "id").orElse (.text uuid)),
      ("name",
        (clean.field "name").orElse
          (clean.field "accountUsername")),
      ("platformId",
        (clean.field "platformId").orElse (.text platformText)),
      ("platformDisplayName",
        (clean.field "platformDisplayName").orElse platform),
      ("accountUsername", clean.field "accountUsername"),
      ("accountPassword", password),
      ("backendState",
        (clean.field "backendState").orElse (.text "ACTIVE")),
      ("desiredState",
        (clean.field "desiredState").orElse (.text "STOPPED")),
      ("observedState",
        (clean.field "observedState").orElse
          (.text "STOPPED")),
      ("executionStatusReason",
        (clean.field "executionStatusReason").orElse .null),
      ("presentationCategory",
        (clean.field "presentationCategory").orElse
          (.text "Healthy")),
      ("statusDescription",
        (clean.field "statusDescription").orElse
          (.text "Active & Synchronized")),
      ("isSelectable",
        .boolean (clean.field "isSelectable" ≠
          .boolean false)),
      ("availableActions",
        arrayOr (clean.field "availableActions")
          [.text "ACTIVATE", .text "DEACTIVATE",
            .text "DELETE"]),
      ("pendingOperation",
        (clean.field "pendingOperation").orElse .null),
      ("tags", arrayOr (clean.field "tags") []),
      ("effectiveConfig",
        (clean.field "effectiveConfig").orElse
          ((existingField existing "effectiveConfig").orElse
            .null)),
      ("lastKnownBalance",
        if clean.field "lastKnownBalance" ≠ .undefined then
          clean.field "lastKnownBalance"
        else existingField existing "lastKnownBalance"),
      ("currencySymbol",
        (clean.field "currencySymbol").orElse
          ((existingField existing "currencySymbol").orElse
            (.text "₦"))),
      ("lastUpdated", .text now),
      ("lastSynchronization",
        (clean.field "lastSynchronization").orElse
          (.text now))]

/- Nothing is kept before everything has been checked. -/
def upsert
    (c : AccountsContainer)
    (now uuid : String)
    (accountData : JsValue) :
    Except JsError (JsValue × AccountsContainer) := do
  let platform :=
    (accountData.field "platformDisplayName").orElse
      (accountData.field "platformId")
  let username := accountData.field "accountUsername"
  let platformText ← platform.toLowerCase
  let usernameText ← username.toLowerCase
  let existing ←
    findAmong platformText usernameText c.accounts.values
  if existing.any
      (fun e => e.field "id" ≠ accountData.field "id") then
    throw (alreadyExists platform username)
  let clean ← sanitize false accountData
  let id := accountData.field "id"
  let existingById :=
    if id.truthy then c.accounts.get? id else none
  let rawPassword ←
    chosenPassword (accountData.field "accountPassword")
      (existing.or existingById)
  let record :=
    completed clean platform rawPassword platformText now uuid
      existing
  let balance ← knownBalance now record
  let kept := c.setAccount record
  let balanced :=
    match balance with
    | some balance =>
        kept.setBalance (record.field "id") balance
    | none => kept
  return (record, { balanced with revision := c.revision + 1 })

def updateExecutionState
    (c : AccountsContainer)
    (now : String)
    (id stateUpdate : JsValue) : AccountsContainer :=
  match c.accounts.get? id with
  | none => c
  | some current =>
      { c with
          accounts :=
            c.accounts.set id
              (withExecutionState current stateUpdate now)
          revision := c.revision + 1 }

def resetObservedStates
    (c : AccountsContainer)
    (now : String)
    (reason : JsValue) : AccountsContainer :=
  { c with
      accounts :=
        c.accounts.modify
          (fun account =>
            account.withMembers
              [("observedState", .text "STOPPED"),
                ("executionStatusReason", reason),
                ("lastUpdated", .text now)])
      revision := c.revision + 1 }

def delete
    (c : AccountsContainer)
    (id : JsValue) : AccountsContainer :=
  if c.accounts.has id then
    { accounts := c.accounts.delete id
      balances := c.balances.delete id
      revision := c.revision + 1 }
  else c

def updateBalance
    (c : AccountsContainer)
    (now : String)
    (id balance currencySymbol : JsValue) :
    Except JsError (JsValue × AccountsContainer) :=
  if c.accounts.has id then do
    let balance ← balance.toNumber
    return (.boolean true,
      c.setBalance id
        { balance := balance.orZero
          currencySymbol :=
            currencySymbol.orDefault (.text "₦")
          lastUpdated := .text now
          isStale := false })
  else .ok (.boolean false, c)

end AccountsContainer

------------------------------------------------------------
-- The Configuration In Memory
------------------------------------------------------------

structure ConfigContainer where
  globalConfig : JsValue
  accountOverrides : OrderedMap JsValue JsValue
  revision : Nat

def validationError (message : String) : JsError :=
  .thrown "ValidationError" message

def isPlainObject : JsValue → Bool
| .object _ => true
| .circular => true
| _ => false

def validateCategoryValues
    (category : String)
    (values : JsValue) : Except JsError Unit :=
  if category ∉ categories then
    .error (validationError
      ("Unknown configuration category: [" ++ category ++ "]"))
  else if !isPlainObject values then
    .error (validationError
      ("Values for category [" ++ category ++
        "] must be a non-null object"))
  else .ok ()

namespace ConfigContainer

def getGlobalConfig
    (c : ConfigContainer) : Except JsError JsValue :=
  c.globalConfig.jsonCopy

def getCategory
    (c : ConfigContainer)
    (category : String) : Except JsError JsValue :=
  if !(c.globalConfig.field category).truthy then
    .error (.thrown "Error"
      ("Unknown configuration category: [" ++ category ++ "]"))
  else (c.globalConfig.field category).jsonCopy

def withCategory
    (c : ConfigContainer)
    (category : String)
    (values : JsValue) : ConfigContainer :=
  { c with
      globalConfig :=
        c.globalConfig.withMembers
          [(category,
            (c.globalConfig.field category).spread values)]
      revision := c.revision + 1 }

/-
  The values are checked before they are written, and what
  has been written is read back.
-/
def updateCategory
    (c : ConfigContainer)
    (category : String)
    (values : JsValue) :
    Except JsError
      (Except JsError JsValue × ConfigContainer) := do
  validateCategoryValues category values
  let updated := c.withCategory category values
  return (updated.getCategory category, updated)

def defaultOverride : JsValue :=
  .object
    [("betCycleEnabled", .boolean true),
      ("pricingSource", .text "GLOBAL"),
      ("riskSource", .text "GLOBAL"),
      ("rebetSource", .text "GLOBAL")]

def getAccountOverride
    (c : ConfigContainer)
    (accountId : JsValue) : JsValue :=
  (c.accountOverrides.get? accountId).getD defaultOverride

def updateAccountOverride
    (c : ConfigContainer)
    (accountId updates : JsValue) : ConfigContainer :=
  { c with
      accountOverrides :=
        c.accountOverrides.set accountId
          ((c.getAccountOverride accountId).spread updates)
      revision := c.revision + 1 }

end ConfigContainer

------------------------------------------------------------
-- The Billing And The Settings In Memory
------------------------------------------------------------

structure BillingContainer where
  subscription : JsValue
  invoices : OrderedMap JsValue JsValue
  revision : Nat
  isStale : Bool

def validateSubscription
    (sub : JsValue) : Except JsError Unit :=
  match sub.field "status" with
  | .text status =>
      if status = "" then
        .error (validationError
          "Subscription requires a valid string `status`")
      else if !(sub.field "planId").truthy &&
          !(sub.field "currentPlanId").truthy &&
          !(sub.field "plan_id").truthy &&
          status ≠ "Payment_Required" then
        .error (validationError
          "Subscription requires a `planId`")
      else .ok ()
  | _ =>
      .error (validationError
        "Subscription requires a valid string `status`")

namespace BillingContainer

def updateSubscription
    (c : BillingContainer)
    (now : String)
    (updates : JsValue) :
    Except JsError (JsValue × BillingContainer) := do
  let updated :=
    (c.subscription.spread updates).withMembers
      [("lastUpdated", .text now)]
  validateSubscription updated
  return (updated,
    { c with
        subscription := updated
        revision := c.revision + 1
        isStale := false })

def addInvoice
    (c : BillingContainer)
    (invoice : JsValue) : Except JsError BillingContainer := do
  let id ← invoice.read "id"
  let copy ← invoice.jsonCopy
  let key := id.orElse (invoice.field "reference")
  return { c with
    invoices := c.invoices.set key copy
    revision := c.revision + 1 }

end BillingContainer

structure SettingsContainer where
  settings : JsValue
  revision : Nat

namespace SettingsContainer

def changed
    (c : SettingsContainer)
    (name : String)
    (changedSection : JsValue) : SettingsContainer where
  settings := c.settings.withMembers [(name, changedSection)]
  revision := c.revision + 1

def updateProfile
    (c : SettingsContainer)
    (profileData : JsValue) :
    Except JsError SettingsContainer := do
  let profile := c.settings.field "profile"
  let data ← profile.read "data"
  return c.changed "profile"
    (profile.withMembers [("data", data.spread profileData)])

def updatePresentation
    (c : SettingsContainer)
    (prefs : JsValue) : SettingsContainer :=
  c.changed "presentationPreferences"
    ((c.settings.field "presentationPreferences").spread prefs)

def updateSecurity
    (c : SettingsContainer)
    (sec : JsValue) : SettingsContainer :=
  c.changed "security" ((c.settings.field "security").spread sec)

end SettingsContainer

------------------------------------------------------------
-- The Store
------------------------------------------------------------

/- The tables of the database and the four containers. -/
structure StateStore (σ : Type) where
  userId : String
  tables : σ
  accounts : AccountsContainer
  config : ConfigContainer
  billing : BillingContainer
  settings : SettingsContainer

variable {σ : Type}

/-
  The answer of a mutation that has written a container, and
  the store as it has been left.
-/
abbrev Mutated (σ : Type) :=
  Except JsError JsValue × StateStore σ

def conflicts (expected : JsValue) (current : Nat) : Bool :=
  !expected.isNullish &&
    decide (expected ≠ .number (.finite current))

def revisionConflict
    (group : String)
    (current : Nat) : JsError :=
  .thrown "RevisionConflictError"
    ("Optimistic Concurrency Conflict on [" ++ group ++
      "]: found revision " ++ toString current ++ ".")

namespace StateStore

def withTables
    (s : StateStore σ)
    (tables : σ) : StateStore σ :=
  { s with tables := tables }

/- The revision of a group that has no row yet is one. -/
def currentRevision
    (sql : Sqlite σ)
    (s : StateStore σ)
    (group : String) : Except JsError Nat := do
  let revision ← sql.revision group s.tables
  return revision.getD 1

/-
  Run a mutation with the next revision of its group, and
  store the revision after it.
-/
def executeGroupTransaction
    (sql : Sqlite σ)
    (s : StateStore σ)
    (occasion : Occasion)
    (group : String)
    (expectedRevision : JsValue)
    (mutationFn : Nat → Except JsError (Mutated σ)) :
    Except JsError JsValue × StateStore σ :=
  match s.currentRevision sql group with
  | .error error => (.error error, s)
  | .ok current =>
      if conflicts expectedRevision current then
        (.error (revisionConflict group current), s)
      else
        match mutationFn (current + 1) with
        | .error error => (.error error, s)
        | .ok (.error error, t) =>
            (.error error, t.withTables s.tables)
        | .ok (.ok result, t) =>
            match occasion.closing with
            | some error => (.error error, t.withTables s.tables)
            | none =>
                (.ok result,
                  t.withTables
                    (sql.setRevision group (current + 1)
                      t.tables))

------------------------------------------------------------
-- The Domains
------------------------------------------------------------

/- The account with an id: its own, or a fresh one. -/
def targetAccount
    (occasion : Occasion)
    (account : JsValue) : JsValue :=
  (JsValue.object
    [("id",
      (account.field "id").orElse
        (.text occasion.uuid))]).spread account

def upsertAccount
    (sql : Sqlite σ)
    (s : StateStore σ)
    (occasion : Occasion)
    (account : JsValue) : Except JsError (Mutated σ) := do
  let _ ← account.read "id"
  let target := targetAccount occasion account
  let tables ←
    AccountsAdapter.upsert sql s.userId occasion.now target
      s.tables
  let (record, accounts) ←
    s.accounts.upsert occasion.now occasion.uuid target
  return (.ok record,
    { s with tables := tables, accounts := accounts })

def deleteAccount
    (sql : Sqlite σ)
    (s : StateStore σ)
    (id : JsValue) : Except JsError (Mutated σ) := do
  let tables ←
    sql.execute .deleteAccount [.text s.userId, .value id]
      s.tables
  return (.ok (.boolean (s.accounts.accounts.has id)),
    { s with tables := tables, accounts := s.accounts.delete id })

/- Nothing is done for an account that is not known. -/
def updateExecutionState
    (sql : Sqlite σ)
    (s : StateStore σ)
    (occasion : Occasion)
    (id stateUpdate : JsValue) : Except JsError (Mutated σ) :=
  match s.accounts.accounts.get? id with
  | none => .ok (.ok .null, s)
  | some current => do
      let _ ← stateUpdate.read "desiredState"
      let updated :=
        withExecutionState current stateUpdate occasion.now
      let tables ←
        AccountsAdapter.upsert sql s.userId occasion.now updated
          s.tables
      return (.ok updated,
        { s with
            tables := tables
            accounts :=
              s.accounts.updateExecutionState occasion.now id
                stateUpdate })

/- The container can be left in the middle of the list. -/
def replaceAllAccounts
    (sql : Sqlite σ)
    (s : StateStore σ)
    (occasion : Occasion)
    (accountsList : JsValue)
    (nextRevision : Nat) : Except JsError (Mutated σ) := do
  let tables ←
    AccountsAdapter.replaceAll sql s.userId occasion.now
      accountsList s.tables
  let hydrated :=
    s.accounts.hydrate occasion.now accountsList nextRevision
  let answer :=
    match hydrated.1 with
    | some error => .error error
    | none => .ok accountsList
  return (answer,
    { s with tables := tables, accounts := hydrated.2 })

def resetObservedStates
    (sql : Sqlite σ)
    (s : StateStore σ)
    (occasion : Occasion)
    (reason : JsValue) : Except JsError (Mutated σ) := do
  let reason := reason.orDefault (.text "PROCESS_EXIT")
  let tables ←
    sql.execute .resetObservedStates
      [.value reason, .text s.userId] s.tables
  return (.ok (.boolean true),
    { s with
        tables := tables
        accounts :=
          s.accounts.resetObservedStates occasion.now reason })

/- The balance of an account is kept in memory alone. -/
def updateBalance
    (s : StateStore σ)
    (occasion : Occasion)
    (id balance currencySymbol : JsValue) :
    Except JsError JsValue × StateStore σ :=
  match
    s.accounts.updateBalance occasion.now id balance
      currencySymbol with
  | .error error => (.error error, s)
  | .ok (answer, accounts) =>
      (.ok answer, { s with accounts := accounts })

/- A category is named by a text. -/
def updateCategory
    (sql : Sqlite σ)
    (s : StateStore σ)
    (occasion : Occasion)
    (category values : JsValue) : Except JsError (Mutated σ) :=
  match category with
  | .text category => do
      let current ← s.config.getCategory category
      let globalConfig ← s.config.getGlobalConfig
      let fullConfig :=
        globalConfig.withMembers
          [(category, current.spread values)]
      let tables ←
        saveConfig sql s.userId occasion.now fullConfig s.tables
      let (answer, config) ←
        s.config.updateCategory category values
      return (answer,
        { s with tables := tables, config := config })
  | _ =>
      .error (.thrown "Error" "Unknown configuration category")

/- The record and the row of the account take the override. -/
def updateAccountOverride
    (sql : Sqlite σ)
    (s : StateStore σ)
    (occasion : Occasion)
    (accId updates : JsValue) : Except JsError (Mutated σ) :=
  let updatedOverride :=
    (s.config.getAccountOverride accId).spread updates
  let config := s.config.updateAccountOverride accId updates
  match s.accounts.accounts.get? accId with
  | none => .ok (.ok updatedOverride, { s with config := config })
  | some acc => do
      let updatedAcc :=
        acc.withMembers
          [("effectiveConfig", updatedOverride),
            ("lastUpdated", .text occasion.now)]
      let tables ←
        AccountsAdapter.upsert sql s.userId occasion.now
          updatedAcc s.tables
      return (.ok updatedOverride,
        { s with
            tables := tables
            accounts :=
              { s.accounts with
                  accounts :=
                    s.accounts.accounts.set accId updatedAcc }
            config := config })

def updateSubscription
    (sql : Sqlite σ)
    (s : StateStore σ)
    (occasion : Occasion)
    (updates : JsValue) : Except JsError (Mutated σ) := do
  let tables ←
    saveSubscription sql s.userId occasion.now
      (s.billing.subscription.spread updates) s.tables
  let (subscription, billing) ←
    s.billing.updateSubscription occasion.now updates
  return (.ok subscription,
    { s with tables := tables, billing := billing })

def addInvoice
    (sql : Sqlite σ)
    (s : StateStore σ)
    (occasion : Occasion)
    (invoice : JsValue) : Except JsError (Mutated σ) := do
  let tables ←
    saveInvoice sql s.userId occasion invoice s.tables
  let billing ← s.billing.addInvoice invoice
  return (.ok invoice,
    { s with tables := tables, billing := billing })

/-
  The settings that are stored take the section under one
  name, those in memory as the container changes them.
-/
def updateSettings
    (sql : Sqlite σ)
    (s : StateStore σ)
    (occasion : Occasion)
    (name : String)
    (updates : JsValue)
    (change : SettingsContainer → Except JsError SettingsContainer) :
    Except JsError (Mutated σ) := do
  let current := s.settings.settings
  let targetSettings :=
    current.withMembers
      [(name, (current.field name).spread updates)]
  let tables ←
    saveSettings sql s.userId occasion.now targetSettings
      s.tables
  let settings ← change s.settings
  return (.ok settings.settings,
    { s with tables := tables, settings := settings })

def updateProfile
    (sql : Sqlite σ)
    (s : StateStore σ)
    (occasion : Occasion)
    (profile : JsValue) : Except JsError (Mutated σ) :=
  s.updateSettings sql occasion "profile" profile
    (fun settings => settings.updateProfile profile)

def updatePresentation
    (sql : Sqlite σ)
    (s : StateStore σ)
    (occasion : Occasion)
    (prefs : JsValue) : Except JsError (Mutated σ) :=
  s.updateSettings sql occasion "presentation" prefs
    (fun settings => .ok (settings.updatePresentation prefs))

def updateSecurity
    (sql : Sqlite σ)
    (s : StateStore σ)
    (occasion : Occasion)
    (sec : JsValue) : Except JsError (Mutated σ) :=
  s.updateSettings sql occasion "security" sec
    (fun settings => .ok (settings.updateSecurity sec))

end StateStore

------------------------------------------------------------
-- Calls
------------------------------------------------------------

/- The mutators that run in a transaction of their group. -/
inductive GroupMutation where
| upsert (account expectedRevision : JsValue)
| delete (id expectedRevision : JsValue)
| updateExecutionState
    (id stateUpdate expectedRevision : JsValue)
| replaceAll (accountsList : JsValue)
| resetObservedStates (reason : JsValue)
| updateCategory (category values expectedRevision : JsValue)
| updateAccountOverride
    (accId updates expectedRevision : JsValue)
| updateSubscription (updates expectedRevision : JsValue)
| addInvoice (invoice : JsValue)
| updateProfile (profile expectedRevision : JsValue)
| updatePresentation (prefs expectedRevision : JsValue)
| updateSecurity (sec expectedRevision : JsValue)

/- The calls of a mutator, whatever the arguments are. -/
inductive MutatorCall where
| transaction (mutation : GroupMutation)
| updateBalance (id balance currencySymbol : JsValue)

namespace GroupMutation

def group : GroupMutation → String
| .upsert _ _ => "accounts"
| .delete _ _ => "accounts"
| .updateExecutionState _ _ _ => "accounts"
| .replaceAll _ => "accounts"
| .resetObservedStates _ => "accounts"
| .updateCategory _ _ _ => "global_config"
| .updateAccountOverride _ _ _ => "accounts"
| .updateSubscription _ _ => "billing"
| .addInvoice _ => "billing"
| .updateProfile _ _ => "settings"
| .updatePresentation _ _ => "settings"
| .updateSecurity _ _ => "settings"

def expectedRevision : GroupMutation → JsValue
| .upsert _ expected => expected
| .delete _ expected => expected
| .updateExecutionState _ _ expected => expected
| .replaceAll _ => .null
| .resetObservedStates _ => .null
| .updateCategory _ _ expected => expected
| .updateAccountOverride _ _ expected => expected
| .updateSubscription _ expected => expected
| .addInvoice _ => .null
| .updateProfile _ expected => expected
| .updatePresentation _ expected => expected
| .updateSecurity _ expected => expected

/- What a mutation does within its transaction. -/
def apply
    (sql : Sqlite σ)
    (s : StateStore σ)
    (occasion : Occasion)
    (mutation : GroupMutation)
    (nextRevision : Nat) : Except JsError (Mutated σ) :=
  match mutation with
  | .upsert account _ => s.upsertAccount sql occasion account
  | .delete id _ => s.deleteAccount sql id
  | .updateExecutionState id stateUpdate _ =>
      s.updateExecutionState sql occasion id stateUpdate
  | .replaceAll accountsList =>
      s.replaceAllAccounts sql occasion accountsList
        nextRevision
  | .resetObservedStates reason =>
      s.resetObservedStates sql occasion reason
  | .updateCategory category values _ =>
      s.updateCategory sql occasion category values
  | .updateAccountOverride accId updates _ =>
      s.updateAccountOverride sql occasion accId updates
  | .updateSubscription updates _ =>
      s.updateSubscription sql occasion updates
  | .addInvoice invoice => s.addInvoice sql occasion invoice
  | .updateProfile profile _ =>
      s.updateProfile sql occasion profile
  | .updatePresentation prefs _ =>
      s.updatePresentation sql occasion prefs
  | .updateSecurity sec _ => s.updateSecurity sql occasion sec

end GroupMutation

namespace StateStore

def perform
    (sql : Sqlite σ)
    (s : StateStore σ)
    (occasion : Occasion)
    (call : MutatorCall) :
    Except JsError JsValue × StateStore σ :=
  match call with
  | .transaction mutation =>
      s.executeGroupTransaction sql occasion mutation.group
        mutation.expectedRevision
        (mutation.apply sql s occasion)
  | .updateBalance id balance currencySymbol =>
      s.updateBalance occasion id balance currencySymbol

end StateStore

end Mutators

end ControlPlane
