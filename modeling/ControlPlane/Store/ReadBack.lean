import ControlPlane.Data.JsFields
import ControlPlane.Store.PreludeStore

/-
  What the preferences of a user are read back as.

  The configuration, the settings and the billing of a user
  are kept in memory and written to the tables by every call
  that changes them. Another store that is hydrated from the
  tables reads them through the adapters. What it reads is
  what the first store has in memory, unless a call stores
  something else than it keeps.

  Main declarations:
    * `Reader`, `getConfig`, `getSettings`, `getSubscription`
      and `listInvoices`
    * `reloadConfig`, `reloadSettings` and `reloadBilling`
    * `SavingCall` and `StateStore.save`
    * `ReadsBack` and `Stores`
-/

------------------------------------------------------------
-- Columns
------------------------------------------------------------

namespace ControlPlane

namespace Mutators

/-
  What is left open of reading: the number that a numeric
  column stores of a text, and the upper case of a letter.
-/
structure Reader where
  numeral : String → Option Rat
  upper : Char → String

namespace Reader

/- A numeric column. Nothing else is stored in it. -/
def readNumber (r : Reader) : Binding → JsValue
| .value (.number .nan) => .null
| .value (.number n) => .number n
| .value (.bigint n) => .number (.finite n)
| .value (.text text) =>
    match r.numeral text with
    | some n => .number (.finite n)
    | none => .text text
| _ => .null

/- The id with a capital letter. -/
def planName (r : Reader) (planId : String) : String :=
  match planId.toList with
  | [] => ""
  | c :: cs => r.upper c ++ String.ofList cs

end Reader

def readText (d : Dialect) (binding : Binding) : JsValue :=
  Dialect.textOrNull (d.storedText binding)

/- The value of a column that has a JSON text, or null. -/
def parsed : Binding → Except JsError JsValue
| .json data => .ok data
| .value value =>
    if value.isNullish then .ok .null else .error .malformed
| .sealed _ => .error .malformed

def parsedOr
    (default : JsValue) : Binding → Except JsError JsValue
| .json data => .ok data
| .value value =>
    if value.isNullish then .ok default else .error .malformed
| .sealed _ => .error .malformed

/- The row of a user in a table with one for each. -/
def rowOf
    {κ : Type}
    {key : UserRow → Option κ}
    (user : String)
    (t : Table UserRow κ key) : Option UserRow :=
  (t.rowsOf UserRow.userId user).head?

------------------------------------------------------------
-- Adapters
------------------------------------------------------------

open Dialect (column)

def getConfig
    (user : String)
    (t : Table UserRow String UserRow.configId) :
    Except JsError JsValue :=
  match rowOf user t with
  | none => .ok Defaults.globalConfig
  | some row => do
      let pricing ← parsed (column row 0)
      let risk ← parsed (column row 1)
      let rebet ← parsed (column row 2)
      let proxy ← parsed (column row 3)
      let execution ← parsed (column row 4)
      let browserSpawning ← parsed (column row 5)
      let advancedRuntime ← parsed (column row 6)
      return .object
        [("pricing", pricing),
          ("risk", risk),
          ("rebet", rebet),
          ("proxy", proxy),
          ("execution", execution),
          ("browserSpawning", browserSpawning),
          ("advancedRuntime", advancedRuntime)]

/- A column that holds a flag. -/
def readFlag (r : Reader) (binding : Binding) : JsValue :=
  .boolean (r.readNumber binding).truthy

def getSettings
    (r : Reader)
    (d : Dialect)
    (user : String)
    (t : Table UserRow String UserRow.userKey) : JsValue :=
  match rowOf user t with
  | none => Defaults.settings user
  | some row =>
      .object
        [("userId", .text row.userId),
          ("profile", .object
            [("status", .text "AVAILABLE"),
              ("data", .object
                [("name", readText d (column row 0)),
                  ("email", readText d (column row 1)),
                  ("pendingEmail", readText d (column row 2)),
                  ("avatarUrl", readText d (column row 3))])]),
          ("security", .object
            [("status", .text "AVAILABLE"),
              ("data", .object
                [("accountStatus", .text "ACTIVE"),
                  ("deletionScheduledAt", .null),
                  ("mfaEnabled", readFlag r (column row 4)),
                  ("activeSessions",
                    r.readNumber (column row 5))])]),
          ("presentationPreferences", .object
            [("theme", readText d (column row 6)),
              ("density", readText d (column row 7))]),
          ("notifications", .object
            [("status", .text "AVAILABLE"),
              ("data", .object
                [("emailAlerts", readFlag r (column row 8)),
                  ("pushAlerts", readFlag r (column row 9)),
                  ("weeklyReport",
                    readFlag r (column row 10))])]),
          ("capabilities", .object
            [("canChangeName", .boolean true),
              ("canChangeEmail", .boolean true),
              ("canChangePassword", .boolean true),
              ("canConfigureMFA", .boolean true),
              ("canRevokeSessions", .boolean true),
              ("canDeleteAccount", .boolean false),
              ("canCancelDeletion", .boolean false)])]

/- The plan of a row is a text, or it has no name. -/
def getSubscription
    (r : Reader)
    (d : Dialect)
    (user : String)
    (t : Table UserRow String UserRow.userKey) :
    Except JsError JsValue :=
  match rowOf user t with
  | none => .ok (Defaults.subscription user)
  | some row => do
      let entitlements ← parsedOr (.object []) (column row 5)
      let availableActions ← parsedOr (.array []) (column row 6)
      let notices ← parsedOr (.array []) (column row 7)
      match d.storedText (column row 0) with
      | none => throw .type
      | some planId =>
          return .object
            [("userId", .text row.userId),
              ("currentPlanId", .text planId),
              ("currentPlan", .text (r.planName planId)),
              ("status", readText d (column row 1)),
              ("billingInterval", readText d (column row 2)),
              ("renewalDate", readText d (column row 3)),
              ("expirationDate", readText d (column row 4)),
              ("entitlements", entitlements),
              ("availableActions", availableActions),
              ("notices", notices),
              ("cachedAt", readText d (column row 8))]

/- A row of the invoices as the query gives it. -/
def invoiceOf
    (r : Reader)
    (d : Dialect)
    (row : UserRow) : JsValue :=
  .object
    [("id", Dialect.textOrNull row.id),
      ("userId", .text row.userId),
      ("reference", readText d (column row 0)),
      ("date", readText d (column row 1)),
      ("amount", r.readNumber (column row 2)),
      ("status", readText d (column row 3)),
      ("planName", readText d (column row 4)),
      ("billingInterval", readText d (column row 5)),
      ("receiptUrl", readText d (column row 6)),
      ("subtotal", r.readNumber (column row 7)),
      ("taxAmount", r.readNumber (column row 8)),
      ("taxRate", r.readNumber (column row 9)),
      ("currency", readText d (column row 10)),
      ("currencySymbol", readText d (column row 11)),
      ("cachedAt", readText d (column row 12))]

/- The text that the rows are ordered by. -/
def dateText (d : Dialect) (row : UserRow) : String :=
  (d.storedText (column row 1)).getD ""

def invoiceRows
    (d : Dialect)
    (user : String)
    (t : Table UserRow String UserRow.id) : List UserRow :=
  (t.rowsOf UserRow.userId user).mergeSort
    (fun a b => decide (dateText d b ≤ dateText d a))

def listInvoices
    (r : Reader)
    (d : Dialect)
    (user : String)
    (t : Table UserRow String UserRow.id) : List JsValue :=
  ((invoiceRows d user t).take 50).map (invoiceOf r d)

------------------------------------------------------------
-- The Hydration Of A New Store
------------------------------------------------------------

/- The revision of a group, or one. -/
def storedRevision (group : String) (t : UserTables) : Nat :=
  match t.metadata.get? group with
  | none => 1
  | some 0 => 1
  | some revision => revision

/- The overrides of the accounts as they have been parsed. -/
abbrev ParsedOverrides :=
  List (String × {value : JsValue // value.IsCopy})

def ParsedOverrides.toObject
    (overrides : ParsedOverrides) : JsValue :=
  .object (overrides.map (fun entry => (entry.1, entry.2.val)))

/- A container that cannot be hydrated is reset. -/
def reloadConfig
    (user : String)
    (overrides : ParsedOverrides)
    (t : UserTables) : ConfigContainer :=
  match getConfig user t.config with
  | .error _ => .fresh
  | .ok globalConfig =>
      match
        ConfigContainer.fresh.hydrate globalConfig
          overrides.toObject
          (some (storedRevision "global_config" t)) with
      | (some _, _) => .fresh
      | (none, config) => config

def reloadBilling
    (r : Reader)
    (d : Dialect)
    (user : String)
    (t : UserTables) : BillingContainer :=
  match getSubscription r d user t.subscriptions with
  | .error _ => .fresh user
  | .ok subscription =>
      match
        (BillingContainer.fresh user).hydrate user subscription
          (.array (listInvoices r d user t.invoices))
          (some (storedRevision "billing" t)) with
      | (some _, _) => .fresh user
      | (none, billing) => billing

def reloadSettings
    (r : Reader)
    (d : Dialect)
    (user : String)
    (t : UserTables) : SettingsContainer :=
  match
    (SettingsContainer.fresh user).hydrate user
      (getSettings r d user t.settings)
      (some (storedRevision "settings" t)) with
  | .error _ => .fresh user
  | .ok settings => settings

------------------------------------------------------------
-- Calls
------------------------------------------------------------

/- The calls that store a preference of the user. -/
inductive SavingCall where
| updateCategory
    (category : JsValue)
    (values : Argument)
    (expectedRevision : JsValue)
| hydrateConfig (globalConfig : Argument)
| updateProfile
    (profile : Argument)
    (expectedRevision : JsValue)
| updatePresentation
    (prefs : Argument)
    (expectedRevision : JsValue)
| updateSecurity
    (sec : Argument)
    (expectedRevision : JsValue)
| updateSubscription
    (updates : Argument)
    (expectedRevision : JsValue)
| addInvoice (invoice : Argument)

namespace StateStore

/- Nothing is said when the configuration cannot be saved. -/
def trySaveConfig
    {σ : Type}
    (sql : Sqlite σ)
    (s : StateStore σ)
    (occasion : Occasion)
    (globalConfig : JsValue) : σ :=
  match
    saveConfig sql s.userId occasion.now globalConfig
      s.tables with
  | .ok tables => tables
  | .error _ => s.tables

/-
  The repository fills the container and saves the
  configuration as it was given.
-/
def hydrateConfig
    {σ : Type}
    (sql : Sqlite σ)
    (s : StateStore σ)
    (occasion : Occasion)
    (globalConfig : JsValue) :
    Except JsError JsValue × StateStore σ :=
  if !globalConfig.truthy then (.ok .undefined, s)
  else
    match s.config.hydrate globalConfig (.object []) none with
    | (some error, config) =>
        (.error error, { s with config := config })
    | (none, config) =>
        (.ok .undefined,
          { s with
              config := config
              tables :=
                s.trySaveConfig sql occasion globalConfig })

theorem trySaveConfig_ok
    {σ : Type}
    {sql : Sqlite σ}
    {s : StateStore σ}
    {occasion : Occasion}
    {globalConfig : JsValue}
    {tables : σ}
    (hSave :
      saveConfig sql s.userId occasion.now globalConfig
        s.tables = .ok tables) :
    s.trySaveConfig sql occasion globalConfig = tables := by
  unfold trySaveConfig
  rw [hSave]

theorem trySaveConfig_error
    {σ : Type}
    {sql : Sqlite σ}
    {s : StateStore σ}
    {occasion : Occasion}
    {globalConfig : JsValue}
    {error : JsError}
    (hSave :
      saveConfig sql s.userId occasion.now globalConfig
        s.tables = .error error) :
    s.trySaveConfig sql occasion globalConfig = s.tables := by
  unfold trySaveConfig
  rw [hSave]

/- What a call answers, and the store that it leaves. -/
def save
    (d : Dialect)
    (s : StateStore UserTables)
    (occasion : Occasion) :
    SavingCall → Except JsError JsValue × StateStore UserTables
| .updateCategory category values expected =>
    s.perform d.database occasion
      (.transaction
        (.updateCategory category values.value expected))
| .hydrateConfig globalConfig =>
    s.hydrateConfig d.database occasion globalConfig.value
| .updateProfile profile expected =>
    s.perform d.database occasion
      (.transaction (.updateProfile profile.value expected))
| .updatePresentation prefs expected =>
    s.perform d.database occasion
      (.transaction (.updatePresentation prefs.value expected))
| .updateSecurity sec expected =>
    s.perform d.database occasion
      (.transaction (.updateSecurity sec.value expected))
| .updateSubscription updates expected =>
    s.perform d.database occasion
      (.transaction
        (.updateSubscription updates.value expected))
| .addInvoice invoice =>
    s.perform d.database occasion
      (.transaction (.addInvoice invoice.value))

def saveStep
    (d : Dialect)
    (s : StateStore UserTables)
    (event : Occasion × SavingCall) : StateStore UserTables :=
  (s.save d event.1 event.2).2

/- The call returns normally. -/
def Returns
    (d : Dialect)
    (s : StateStore UserTables)
    (event : Occasion × SavingCall) : Prop :=
  ∃ answer, (s.save d event.1 event.2).1 = .ok answer

/- The repository of the prelude does the same. -/
theorem hydrateConfig_of_prelude
    (d : Dialect)
    (s : PreludeStore)
    (occasion : Occasion)
    (globalConfig : JsValue) :
    (s.hydrateConfig d occasion globalConfig).users.store =
      (s.users.store.hydrateConfig d.database occasion
        globalConfig).2 := by
  unfold PreludeStore.hydrateConfig hydrateConfig
  split
  · rfl
  · cases hFilled :
        s.users.store.config.hydrate globalConfig (.object [])
          none with
    | mk error config =>
        cases error with
        | some error => rfl
        | none =>
            dsimp only
            cases hSave :
                saveConfig d.database s.users.userId
                  occasion.now globalConfig s.users.tables with
            | error error =>
                rw [trySaveConfig_error hSave]
                rfl
            | ok tables =>
                rw [trySaveConfig_ok hSave]
                rfl

/- Nothing of the user has been stored or changed. -/
structure IsNew (s : StateStore UserTables) : Prop where
  config : s.config = .fresh
  billing : s.billing = .fresh s.userId
  settings : s.settings = .fresh s.userId
  noConfig :
    s.tables.config.rowsOf UserRow.userId s.userId = []
  noSubscription :
    s.tables.subscriptions.rowsOf UserRow.userId s.userId = []
  noInvoices :
    s.tables.invoices.rowsOf UserRow.userId s.userId = []
  noSettings :
    s.tables.settings.rowsOf UserRow.userId s.userId = []

end StateStore

------------------------------------------------------------
-- The Same Preferences
------------------------------------------------------------

/- The categories, with the same values, as they are read. -/
def SameConfig (a b : ConfigContainer) : Prop :=
  ∃ x y,
    a.getGlobalConfig = .ok x ∧ b.getGlobalConfig = .ok y ∧
      ∀ category,
        (x.field category = .undefined ↔
          y.field category = .undefined) ∧
          (x.field category).SameFields (y.field category)

/- A section of the settings and the data in it. -/
def SameSection (a b : JsValue) : Prop :=
  (∀ name, name ≠ "data" → a.field name = b.field name) ∧
    (a.field "data").SameFields (b.field "data")

def planFields : List String :=
  ["currentPlanId", "currentPlan", "status",
    "billingInterval", "renewalDate", "expirationDate"]

def SamePlan (a b : JsValue) : Prop :=
  (∀ name ∈ planFields, a.field name = b.field name) ∧
    (a.field "entitlements").jsonOf =
      (b.field "entitlements").jsonOf

def invoiceFields : List String :=
  ["id", "reference", "date", "amount", "status", "planName",
    "billingInterval", "receiptUrl", "subtotal", "taxAmount",
    "taxRate", "currency", "currencySymbol"]

def orNull (value : JsValue) : JsValue :=
  if value.isNullish then .null else value

/- What an invoice says, with null for what it leaves out. -/
def invoiceView (invoice : JsValue) : List JsValue :=
  invoiceFields.map (fun name => orNull (invoice.field name))

/-
  The invoices are the same but for some that are omitted.
  These are no later than any of the fifty that are there.
-/
def SameRecent
    (noLater : JsValue → JsValue → Prop)
    (recent invoices : List JsValue) : Prop :=
  ∃ omitted,
    ((recent ++ omitted).map invoiceView).Perm
        (invoices.map invoiceView) ∧
      (omitted = [] ∨ recent.length = 50) ∧
        ∀ kept ∈ recent, ∀ other ∈ omitted,
          noLater (other.field "date") (kept.field "date")

/-
  A store that is hydrated from the tables reads the same as
  this one.
-/
structure ReadsBack
    (r : Reader)
    (d : Dialect)
    (noLater : JsValue → JsValue → Prop)
    (overrides : ParsedOverrides)
    (s : StateStore UserTables) : Prop where
  config :
    SameConfig (reloadConfig s.userId overrides s.tables)
      s.config
  profile :
    SameSection
      ((reloadSettings r d s.userId s.tables).settings.field
        "profile")
      (s.settings.settings.field "profile")
  security :
    SameSection
      ((reloadSettings r d s.userId s.tables).settings.field
        "security")
      (s.settings.settings.field "security")
  presentation :
    ((reloadSettings r d s.userId s.tables).settings.field
        "presentationPreferences").SameFields
      (s.settings.settings.field "presentationPreferences")
  subscription :
    SamePlan
      (reloadBilling r d s.userId s.tables).subscription
      s.billing.subscription
  invoices :
    SameRecent noLater
      (reloadBilling r d s.userId s.tables).invoices.values
      s.billing.invoices.values

------------------------------------------------------------
-- What Is Stored As It Is Kept
------------------------------------------------------------

def defaultNames (category : String) : List String :=
  (Defaults.globalConfig.field category).members.map Prod.fst

/- Both have the same texts under the same names. -/
def SameTexts (x y : JsValue) : Prop :=
  ∀ category,
    (x.field category = .undefined ↔
      y.field category = .undefined) ∧
      ∀ key,
        ((x.field category).field key).jsonOf =
          ((y.field category).field key).jsonOf

/-
  A value of a category is stored. A member of it without a
  text has no default that would come back in its place.
-/
def CategoryStored
    (category : String)
    (given : JsValue) : Prop :=
  given.HasText ∧
    (isTypeofObject given = true →
      ∀ member ∈ given.members,
        member.2.HasText ∨
          given.IsRecord ∧ member.1 ∉ defaultNames category)

/- The configuration is complete, and it is saved. -/
structure ConfigStored
    (d : Dialect)
    (s : StateStore UserTables)
    (occasion : Occasion)
    (globalConfig : JsValue) : Prop where
  saved :
    ∃ tables,
      saveConfig d.database s.userId occasion.now globalConfig
        s.tables = .ok tables
  record : globalConfig.IsRecord
  known :
    ∀ member ∈ globalConfig.members,
      isObject member.2 = true → member.1 ∈ categories
  stored :
    ∀ category ∈ categories,
      CategoryStored category (globalConfig.field category)

/- The defaults with what is given laid over them. -/
def overDefaults (globalConfig : JsValue) : JsValue :=
  if isObject globalConfig then mergeCategories globalConfig
  else Defaults.globalConfig

/- The configuration is not saved, and repeats what is kept. -/
structure ConfigRepeated
    (d : Dialect)
    (s : StateStore UserTables)
    (occasion : Occasion)
    (globalConfig : JsValue) : Prop where
  unsaved :
    ∃ error,
      saveConfig d.database s.userId occasion.now globalConfig
        s.tables = .error error
  repeats :
    SameTexts (overDefaults globalConfig) s.config.globalConfig

/- A count that is no zero, or a text that is no count. -/
def SessionsStored (r : Reader) (sessions : JsValue) : Prop :=
  (∃ n : Rat, n ≠ 0 ∧ sessions = .number (.finite n)) ∨
    ∃ text, text ≠ "" ∧ r.numeral text = none ∧
      sessions = .text text

/- The data of the security as it is read. -/
def securityData (mfa : Bool) (sessions : JsValue) : JsValue :=
  .object
    [("accountStatus", .text "ACTIVE"),
      ("deletionScheduledAt", .null),
      ("mfaEnabled", .boolean mfa),
      ("activeSessions", sessions)]

def SecurityStored
    (r : Reader)
    (member : String × JsValue) : Prop :=
  if member.1 = "status" then member.2 = .text "AVAILABLE"
  else if member.1 = "data" then
    ∃ mfa sessions,
      SessionsStored r sessions ∧
        member.2.SameFields (securityData mfa sessions)
  else member.2 = .undefined

def IsFilled (value : JsValue) : Prop :=
  ∃ text, text ≠ "" ∧ value = .text text

/- The plan has its id and its name, and no alias. -/
structure PlanStored (r : Reader) (sub : JsValue) : Prop where
  plan :
    ∃ planId, planId ≠ "" ∧
      sub.field "currentPlanId" = .text planId ∧
        sub.field "currentPlan" = .text (r.planName planId) ∧
          ((sub.field "planId").truthy = true →
            sub.field "planId" = .text planId)
  interval : IsFilled (sub.field "billingInterval")
  renewal :
    sub.field "renewalDate" = .null ∨
      IsFilled (sub.field "renewalDate")
  expiration :
    sub.field "expirationDate" = .null ∨
      IsFilled (sub.field "expirationDate")
  entitlements :
    (sub.field "entitlements").truthy = true ∧
      (sub.field "entitlements").HasText

/- A value that a row and a JSON text both leave out. -/
def IsBlank (value : JsValue) : Prop :=
  value.isNullish = true ∨ value = .number .nan

structure InvoiceStored (invoice : JsValue) : Prop where
  record : invoice.IsRecord
  filled :
    ∀ name ∈ ["id", "date", "status", "currency",
        "currencySymbol"], IsFilled (invoice.field name)
  reference :
    invoice.field "reference" = .null ∨
      ∃ text, invoice.field "reference" = .text text
  amount :
    ∃ n, invoice.field "amount" = .number (.finite n)
  details :
    ∀ name ∈ ["planName", "billingInterval", "receiptUrl"],
      IsBlank (invoice.field name) ∨
        IsFilled (invoice.field name)
  numbers :
    ∀ name ∈ ["subtotal", "taxAmount", "taxRate"],
      invoice.field name = .undefined ∨
        invoice.field name = .number .nan ∨
          ∃ n, invoice.field name = .number (.finite n)

/- The dates are ordered as their texts are. -/
def Chronological
    (noLater : JsValue → JsValue → Prop)
    (invoices : List JsValue) : Prop :=
  ∀ a ∈ invoices, ∀ b ∈ invoices, ∀ x y,
    a.field "date" = .text x → b.field "date" = .text y →
      x ≤ y → noLater (.text x) (.text y)

/-
  The id is none of another user, and where an invoice has to
  be left out it is the earliest that is.
-/
structure InvoicesStored
    (noLater : JsValue → JsValue → Prop)
    (s : StateStore UserTables)
    (invoice : JsValue) : Prop where
  stored : InvoiceStored invoice
  own :
    ∀ row ∈ s.tables.invoices.rows, ∀ id,
      row.id = some id → invoice.field "id" = .text id →
        row.userId = s.userId
  recent :
    (s.billing.invoices.set (invoice.field "id")
        invoice).size ≤ 50 ∨
      Chronological noLater
        (s.billing.invoices.set (invoice.field "id")
          invoice).values

/- The call stores what it keeps in memory. -/
def Stores
    (r : Reader)
    (d : Dialect)
    (noLater : JsValue → JsValue → Prop)
    (s : StateStore UserTables)
    (event : Occasion × SavingCall) : Prop :=
  match event.2 with
  | .updateCategory category values _ =>
      ∀ name, category = .text name →
        ∀ member ∈ values.value.members,
          member.1 ∈ defaultNames name → member.2.HasText
  | .hydrateConfig globalConfig =>
      globalConfig.value.truthy = false ∨
        ConfigStored d s event.1 globalConfig.value ∨
          ConfigRepeated d s event.1 globalConfig.value
  | .updateProfile profile _ =>
      ∀ member ∈ profile.value.members,
        member.2 =
          ((s.settings.settings.field "profile").field
            "data").field member.1
  | .updatePresentation prefs _ =>
      ∀ member ∈ prefs.value.members,
        member.2 =
          (s.settings.settings.field
            "presentationPreferences").field member.1
  | .updateSecurity sec _ =>
      ∀ member ∈ sec.value.members, SecurityStored r member
  | .updateSubscription updates _ =>
      PlanStored r
        (s.billing.subscription.spread updates.value)
  | .addInvoice invoice =>
      InvoicesStored noLater s invoice.value

end Mutators

end ControlPlane
