import ControlPlane.Data.JsValue
import ControlPlane.Data.OrderedMap
import ControlPlane.Store.Sanitizer

/-
  The adapters of the state store, called with any values.

  An adapter reads what it stores out of a value that need
  not be well formed, and runs its statements. The database
  is a parameter that can refuse any statement.

  Main declarations:
    * `Sqlite` and `Occasion`
    * `sanitize` and `assertZeroSecrets`
    * `AccountsAdapter.upsert` and `replaceAll`
    * `saveConfig`, `saveSubscription`, `saveInvoice` and
      `saveSettings`
-/

------------------------------------------------------------
-- The Database
------------------------------------------------------------

namespace ControlPlane

namespace Mutators

/- The statements of the adapters. -/
inductive Statement where
| selectAccountByUsername
| evictAccount
| upsertAccount
| deleteAccount
| deleteAccountsNotIn
| resetObservedStates
| saveConfig
| saveSubscription
| saveInvoice
| saveSettings
| saveNotification
| pruneNotifications
| markNotificationRead
| markAllNotificationsRead
| deleteUserAccounts
| deleteUserConfig
| deleteUserSubscription
| deleteUserInvoices
| deleteUserSettings
| deleteUserNotifications
deriving DecidableEq, Repr

/-
  What a statement is given in a place: a value, a JSON text
  or the text of a sealed password.
-/
inductive Binding where
| value (value : JsValue)
| json (data : JsValue)
| sealed (plain : String)
deriving DecidableEq

/-
  A database with tables of type `σ`. A statement is refused
  or gives the tables that it leads to.
-/
structure Sqlite (σ : Type) where
  revision : String → σ → Except JsError (Option Nat)
  get : Statement → List Binding → σ → Except JsError JsValue
  execute : Statement → List Binding → σ → Except JsError σ
  setRevision : String → Nat → σ → σ

/-
  When a call happens: the time, a fresh id, and whether the
  database takes the new revision and the commit. No value
  of a caller is in these.
-/
structure Occasion where
  now : String
  uuid : String
  closing : Option JsError

variable {σ : Type}

------------------------------------------------------------
-- The Sanitizer
------------------------------------------------------------

def securityViolation (key : String) : JsError :=
  .thrown "SecurityViolationError"
    ("Security policy violation: Prohibited secret field '" ++
      key ++ "' detected in state payload.")

mutual

/-
  A clean copy of a value, or a refusal of the first secret
  in it.
-/
def sanitize
    (throwOnDetection : Bool) :
    JsValue → Except JsError JsValue
| .array items => do
    let items ← sanitizeItems throwOnDetection items
    return .array items
| .object members => do
    let members ← sanitizeMembers throwOnDetection members
    return .object members
| .circular => .error .range
| value => .ok value

def sanitizeItems
    (throwOnDetection : Bool) :
    List JsValue → Except JsError (List JsValue)
| [] => .ok []
| item :: items => do
    let item ← sanitize throwOnDetection item
    let items ← sanitizeItems throwOnDetection items
    return item :: items

def sanitizeMembers
    (throwOnDetection : Bool) :
    List (String × JsValue) →
      Except JsError (List (String × JsValue))
| [] => .ok []
| (key, value) :: members =>
    if isForbiddenKey key then
      if key = "accountPassword" ∧
          value = .text protectedPassword then do
        let members ← sanitizeMembers throwOnDetection members
        return (key, value) :: members
      else if throwOnDetection then
        .error (securityViolation key)
      else if key = "accountPassword" then do
        let members ← sanitizeMembers throwOnDetection members
        return (key, .text protectedPassword) :: members
      else sanitizeMembers throwOnDetection members
    else do
      let value ← sanitize throwOnDetection value
      let members ← sanitizeMembers throwOnDetection members
      return (key, value) :: members

end

def assertZeroSecrets (data : JsValue) : Except JsError Unit := do
  let _ ← sanitize true data

------------------------------------------------------------
-- Passwords
------------------------------------------------------------

/- The first of the marks that a value includes counts. -/
def includesAny
    (value : JsValue) :
    List String → Except JsError Bool
| [] => .ok false
| mark :: marks => do
    if ← value.includes mark then return true
    includesAny value marks

def isMasked
    (marks : List String)
    (password : JsValue) : Except JsError Bool :=
  if !password.truthy then .ok true
  else if password = .text protectedPassword then .ok true
  else includesAny password marks

/- The marks of a mask, for the table and for memory. -/
def tableMarks : List String := ["***", "•••"]

def memoryMarks : List String := ["***", "???", "•••"]

def isMaskedPassword (password : JsValue) : Except JsError Bool :=
  isMasked memoryMarks password

def encryptLocalPassword
    (plain : JsValue) : Except JsError Binding := do
  if ← isMasked tableMarks plain then
    return .value (.text "")
  match plain with
  | .text text =>
      if text.startsWith "enc:v1:" then
        return .value (.text text)
      return .sealed text
  | _ => throw .type

------------------------------------------------------------
-- The Adapter Of The Accounts
------------------------------------------------------------

def Binding.text (text : String) : Binding :=
  .value (.text text)

/- The first password unless it is empty. -/
def Binding.orElse : Binding → Binding → Binding
| .value (.text ""), other => other
| binding, _ => binding

/- The JSON text of a value, or nothing. -/
def stringify (value : JsValue) : Except JsError Binding := do
  match ← value.json with
  | some data => return .json data
  | none => return .value .undefined

def stringifyPresent
    (value : JsValue) : Except JsError Binding :=
  if value.truthy then stringify value
  else .ok (.value .null)

/- A balance of the account, or of the page, or zero. -/
def storedBalance (account : JsValue) : Except JsError JsNumber :=
  if !(account.field "lastKnownBalance").isNullish then
    (account.field "lastKnownBalance").toNumber
  else if !(account.field "currentBalance").isNullish then
    (account.field "currentBalance").toNumber
  else .ok (.finite 0)

/- The password of an account, unless it is a mask. -/
def incomingPassword
    (password : JsValue) : Except JsError Binding := do
  if ← isMasked tableMarks password then
    return .text ""
  else encryptLocalPassword password

/- The password of the row with the platform and username. -/
def preservedPassword
    (existing : JsValue) : Except JsError Binding := do
  let password := existing.field "account_password"
  if !existing.truthy || !password.truthy then
    return .text ""
  if ← isMasked tableMarks password then
    return .text ""
  encryptLocalPassword password

namespace AccountsAdapter

/- Delete the row of another id with the same username. -/
def evictStale
    (sql : Sqlite σ)
    (existing account : JsValue)
    (tables : σ) : Except JsError σ :=
  if existing.truthy ∧
      existing.field "account_id" ≠ account.field "id" then
    sql.execute .evictAccount
      [.value (existing.field "account_id")] tables
  else .ok tables

def upsert
    (sql : Sqlite σ)
    (userId now : String)
    (account : JsValue)
    (tables : σ) : Except JsError σ := do
  let tags ← account.read "tags"
  let tagsJson ← stringify (tags.orElse (.array []))
  let effectiveConfigJson ←
    stringifyPresent (account.field "effectiveConfig")
  let platformId ←
    ((account.field "platformId").orElse
      ((account.field "platformDisplayName").orElse
        (.text "unknown"))).toLowerCase
  let platformDisplayName :=
    (account.field "platformDisplayName").orElse
      ((account.field "name").orElse (.text platformId))
  let availableActionsJson ←
    stringifyPresent (account.field "availableActions")
  let incoming ←
    incomingPassword (account.field "accountPassword")
  let username := account.field "accountUsername"
  let existing ←
    sql.get .selectAccountByUsername
      [.text userId, .text platformId, .value username] tables
  let preserved ← preservedPassword existing
  let tables ← evictStale sql existing account tables
  let balance ← storedBalance account
  sql.execute .upsertAccount
    [.value (account.field "id"),
      .text userId,
      .value ((account.field "name").orElse username),
      .text platformId,
      .value platformDisplayName,
      .value username,
      incoming.orElse (preserved.orElse (.text "")),
      .value (.number balance),
      .value ((account.field "currencySymbol").orElse
        (.text "₦")),
      .value ((account.field "backendState").orElse
        (.text "READY")),
      .value ((account.field "presentationCategory").orElse
        (.text "Healthy")),
      .value ((account.field "statusDescription").orElse
        (.text "Active & Synchronized")),
      availableActionsJson,
      tagsJson,
      effectiveConfigJson,
      .value ((account.field "desiredState").orElse
        (.text "STOPPED")),
      .value ((account.field "observedState").orElse
        (.text "STOPPED")),
      .value ((account.field "executionStatusReason").orElse
        .null),
      .value ((account.field "lastUpdated").orElse
        (.text now)),
      .value ((account.field "lastSynchronization").orElse
        (.text now))] tables

def upsertAll
    (sql : Sqlite σ)
    (userId now : String) :
    List JsValue → σ → Except JsError σ
| [], tables => .ok tables
| account :: rest, tables => do
    let tables ← upsert sql userId now account tables
    upsertAll sql userId now rest tables

/-
  Write every account, and delete the others when one of the
  list has an id. Anything but an array is an empty list.
-/
def replaceAll
    (sql : Sqlite σ)
    (userId now : String)
    (accounts : JsValue)
    (tables : σ) : Except JsError σ := do
  let tables ← upsertAll sql userId now accounts.items tables
  let incomingIds :=
    (accounts.items.map (fun a => a.field "id")).filter
      JsValue.truthy
  if incomingIds = [] then return tables
  sql.execute .deleteAccountsNotIn
    (.text userId :: incomingIds.map Binding.value) tables

end AccountsAdapter

------------------------------------------------------------
-- The Other Adapters
------------------------------------------------------------

/- The columns of the configuration, in their order. -/
def categories : List String :=
  ["pricing", "risk", "rebet", "proxy", "execution",
    "browserSpawning", "advancedRuntime"]

def saveConfig
    (sql : Sqlite σ)
    (userId now : String)
    (config : JsValue)
    (tables : σ) : Except JsError σ := do
  assertZeroSecrets config
  let columns ←
    categories.mapM
      (fun category => stringify (config.field category))
  sql.execute .saveConfig
    (.text ("cfg_" ++ userId) :: .text userId ::
      columns ++ [.text now]) tables

def saveSubscription
    (sql : Sqlite σ)
    (userId now : String)
    (subscription : JsValue)
    (tables : σ) : Except JsError σ := do
  assertZeroSecrets subscription
  let planId ← subscription.read "planId"
  let entitlements ←
    stringify ((subscription.field "entitlements").orElse
      (.object []))
  let availableActions ←
    stringify ((subscription.field "availableActions").orElse
      (.array []))
  let notices ←
    stringify ((subscription.field "notices").orElse
      (.array []))
  sql.execute .saveSubscription
    [.text userId,
      .value (planId.orElse
        ((subscription.field "currentPlanId").orElse
          (.text "starter"))),
      .value ((subscription.field "status").orElse
        (.text "Active")),
      .value ((subscription.field "billingInterval").orElse
        (.text "Monthly")),
      .value ((subscription.field "renewalDate").orElse .null),
      .value ((subscription.field "expirationDate").orElse
        .null),
      entitlements, availableActions, notices,
      .text now] tables

/- A number of an invoice, when it has one. -/
def optionalNumber (value : JsValue) : Except JsError Binding :=
  if value = .undefined then .ok (.value .null)
  else do
    let n ← value.toNumber
    return .value (.number n)

def saveInvoice
    (sql : Sqlite σ)
    (userId : String)
    (occasion : Occasion)
    (invoice : JsValue)
    (tables : σ) : Except JsError σ := do
  assertZeroSecrets invoice
  let id ← invoice.read "id"
  let amount ← (invoice.field "amount").toNumber
  let subtotal ← optionalNumber (invoice.field "subtotal")
  let taxAmount ← optionalNumber (invoice.field "taxAmount")
  let taxRate ← optionalNumber (invoice.field "taxRate")
  sql.execute .saveInvoice
    [.value (id.orElse (.text ("inv_" ++ occasion.uuid))),
      .text userId,
      .value (invoice.field "reference"),
      .value ((invoice.field "date").orElse
        (.text occasion.now)),
      .value (.number amount.orZero),
      .value ((invoice.field "status").orElse (.text "Paid")),
      .value ((invoice.field "planName").orElse .null),
      .value ((invoice.field "billingInterval").orElse .null),
      .value ((invoice.field "receiptUrl").orElse .null),
      subtotal, taxAmount, taxRate,
      .value ((invoice.field "currency").orElse (.text "NGN")),
      .value ((invoice.field "currencySymbol").orElse
        (.text "₦")),
      .text occasion.now] tables

/- A flag as a column stores it. -/
def flag (value : Bool) : Binding :=
  .value (.number (.finite (if value then 1 else 0)))

/- An object of a section, or an empty one. -/
def sectionData (settings : JsValue) (name : String) : JsValue :=
  ((settings.field name).field "data").orElse (.object [])

def saveSettings
    (sql : Sqlite σ)
    (userId now : String)
    (settings : JsValue)
    (tables : σ) : Except JsError σ := do
  assertZeroSecrets settings
  let profile := sectionData settings "profile"
  let security := sectionData settings "security"
  let pres :=
    (settings.field "presentationPreferences").orElse
      (.object [])
  let notifs := sectionData settings "notifications"
  sql.execute .saveSettings
    [.text userId,
      .value ((profile.field "name").orElse (.text "Operator")),
      .value ((profile.field "email").orElse
        (.text "operator@betting-automation.internal")),
      .value ((profile.field "pendingEmail").orElse .null),
      .value ((profile.field "avatarUrl").orElse .null),
      flag (security.field "mfaEnabled").truthy,
      .value ((security.field "activeSessions").orElse
        (.number (.finite 1))),
      .value ((pres.field "theme").orElse (.text "light")),
      .value ((pres.field "density").orElse
        (.text "comfortable")),
      flag (notifs.field "emailAlerts" ≠ .boolean false),
      flag (notifs.field "pushAlerts").truthy,
      flag (notifs.field "weeklyReport" ≠ .boolean false),
      .text now] tables

end Mutators

end ControlPlane
