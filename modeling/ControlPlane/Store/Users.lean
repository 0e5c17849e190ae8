import ControlPlane.Store.Mutators
import ControlPlane.Store.UserTables

/-
  The store of a user over a database of several users.

  Beside the mutators, a user has notifications: they are
  kept in a container first and written to their table after
  it. A logout deletes the rows of the user and resets the
  containers.

  Main declarations:
    * `NotificationsContainer`
    * `UserStore` and its notifications
    * `UserStore.onLogout`
    * `UserOperation` and `UserStore.step`
-/

------------------------------------------------------------
-- Notifications In Memory
------------------------------------------------------------

namespace ControlPlane

namespace Mutators

structure NotificationsContainer where
  notifications : OrderedMap JsValue JsValue
  unreadCount : Nat
  revision : Nat

namespace NotificationsContainer

def fresh : NotificationsContainer where
  notifications := .empty
  unreadCount := 0
  revision := 1

def isRead (record : JsValue) : Bool :=
  (record.field "read").truthy

/- One notification less, and one unread less if it was. -/
def dropped
    (c : NotificationsContainer)
    (id record : JsValue) : NotificationsContainer :=
  { c with
      notifications := c.notifications.delete id
      unreadCount :=
        if isRead record then c.unreadCount
        else c.unreadCount - 1 }

/- The oldest notification gives way when there are 100. -/
def makeRoom
    (c : NotificationsContainer) : NotificationsContainer :=
  if c.notifications.size < 100 then c
  else
    match c.notifications.firstKey? with
    | none => c
    | some oldest =>
        match oldest.truthy, c.notifications.get? oldest with
        | true, some record => c.dropped oldest record
        | _, _ => c

def recordOf
    (occasion : Occasion)
    (id notification : JsValue) : JsValue :=
  let read :=
    JsValue.boolean
      ((notification.field "read").truthy ||
        (notification.field "isRead").truthy)
  .object
    [("id", id),
      ("timestamp",
        (notification.field "timestamp").orElse
          (.text occasion.now)),
      ("severity",
        (notification.field "severity").orElse (.text "INFO")),
      ("category",
        (notification.field "category").orElse
          (.text "SYSTEM")),
      ("title",
        (notification.field "title").orElse (.text "")),
      ("message",
        (notification.field "message").orElse (.text "")),
      ("read", read),
      ("isRead", read),
      ("metadata",
        (notification.field "metadata").orElse .null)]

/- The id of a notification: its own, or a fresh one. -/
def idOf (occasion : Occasion) (notification : JsValue) : JsValue :=
  (notification.field "id").orElse
    (.text ("notif-" ++ occasion.uuid))

def add
    (c : NotificationsContainer)
    (occasion : Occasion)
    (notification : JsValue) :
    Except JsError (JsValue × NotificationsContainer) := do
  let _ ← notification.read "id"
  let id := idOf occasion notification
  let record := recordOf occasion id notification
  let room := c.makeRoom
  return (record,
    { notifications := room.notifications.set id record
      unreadCount :=
        if isRead record then room.unreadCount
        else room.unreadCount + 1
      revision := c.revision + 1 })

def asRead (record : JsValue) : JsValue :=
  record.withMembers
    [("read", .boolean true), ("isRead", .boolean true)]

/- The container after a change, if there is one. -/
def markRead
    (c : NotificationsContainer)
    (id : JsValue) : Option NotificationsContainer :=
  match c.notifications.get? id with
  | none => none
  | some record =>
      if isRead record then none
      else
        some
          { notifications :=
              c.notifications.set id (asRead record)
            unreadCount := c.unreadCount - 1
            revision := c.revision + 1 }

def markAllRead
    (c : NotificationsContainer) :
    Option NotificationsContainer :=
  if c.notifications.values.all isRead then none
  else
    some
      { notifications :=
          c.notifications.modify
            (fun record =>
              if isRead record then record else asRead record)
        unreadCount := 0
        revision := c.revision + 1 }

def delete
    (c : NotificationsContainer)
    (id : JsValue) : Option NotificationsContainer :=
  (c.notifications.get? id).map
    (fun record =>
      { c.dropped id record with revision := c.revision + 1 })

end NotificationsContainer

------------------------------------------------------------
-- Notifications On Disk
------------------------------------------------------------

/- A notification is stored, and the oldest of the user go. -/
def saveNotification
    {σ : Type}
    (sql : Sqlite σ)
    (userId : String)
    (occasion : Occasion)
    (notif : JsValue)
    (tables : σ) : Except JsError σ := do
  let metadata ← stringifyPresent (notif.field "metadata")
  let tables ←
    sql.execute .saveNotification
      [.value ((notif.field "id").orElse
          (.text ("notif_" ++ occasion.uuid))),
        .text userId,
        .value ((notif.field "timestamp").orElse
          (.text occasion.now)),
        .value ((notif.field "severity").orElse
          (.text "INFO")),
        .value ((notif.field "category").orElse
          (.text "SYSTEM")),
        .value ((notif.field "title").orElse (.text "")),
        .value ((notif.field "message").orElse (.text "")),
        flag ((notif.field "read").truthy ||
          (notif.field "isRead").truthy),
        metadata, .text occasion.now] tables
  sql.execute .pruneNotifications
    [.text userId, .text userId] tables

------------------------------------------------------------
-- Defaults
------------------------------------------------------------

namespace Defaults

def integer (n : Int) : JsValue :=
  .number (.finite n)

def globalConfig : JsValue :=
  .object
    [("pricing", .object
      [("mode", .text "PROFIT_TARGET"),
        ("baseStake", integer 1000),
        ("targetProfit", integer 30000),
        ("minimumAcceptableProfit", integer 5000),
        ("resolutionStrategy",
          .text "CLAMP_THEN_REDUCE_PROFIT"),
        ("platformIncrement", integer 100),
        ("selectionPreference", .text "ROUND_NUMBERS"),
        ("restorePolicyOnRebet", .boolean true)]),
      ("risk", .object
        [("autoAcceptOddsChanges", .boolean true),
          ("maxStake", integer 10000),
          ("minimumStake", integer 10),
          ("abortOnMarketSuspend", .boolean true),
          ("maxAllowedOddsDriftPercent", integer 5),
          ("stopLossThreshold", integer 25000),
          ("maxOpenOrdersTotal", integer 10),
          ("emergencyKillswitchActive", .boolean false)]),
      ("rebet", .object
        [("maxRebetAttempts", integer 3),
          ("restorePolicyOnRebet", .boolean true),
          ("rebetDelayMs", integer 1500),
          ("exponentialBackoff", .boolean true),
          ("backoffMultiplier",
            .number (.finite (3 / 2))),
          ("haltOnRepeatedRejection", .boolean true)]),
      ("proxy", .object
        [("proxyAllocationMode", .text "round_robin"),
          ("proxyFailureMode", .text "loose"),
          ("maxAccountsPerProxy", integer 3),
          ("masterUseProxy", .boolean false),
          ("connectionTimeoutMs", integer 5000),
          ("rotateOnRateLimit", .boolean true),
          ("customDnsServers",
            .array [.text "1.1.1.1", .text "8.8.8.8"])]),
      ("execution", .object
        [("timeouts", .object
          [("resultTimeoutMs", integer 30000),
            ("navigationTimeoutMs", integer 10000),
            ("loginTimeoutMs", integer 25000),
            ("decisionFreshnessTTLMs", integer 5000),
            ("reconciliationTimeoutMs", integer 12000)]),
          ("retries", .object
            [("maxExecutionRetries", integer 2),
              ("maxRecoveryAttempts", integer 3),
              ("recoveryBaseDelayMs", integer 1000)]),
          ("keyboardTypingDelayMs", integer 10),
          ("maxRecordedActions", integer 50),
          ("orderTimeoutMs", integer 8000),
          ("retryCount", integer 2),
          ("enforceOrderSequencing", .boolean true),
          ("interPlatformDelayMs", integer 250),
          ("pacingStrategy", .text "AGGRESSIVE")]),
      ("browserSpawning", .object
        [("slaveMode", .text "headful"),
          ("maxAccountsToSpawn", integer 4),
          ("masterUseProxy", .boolean false),
          ("debugSlowMo", integer 0),
          ("spawnStaggerIntervalMs", integer 1200),
          ("headlessMemorySaver", .boolean false),
          ("enableGpuAcceleration", .boolean true)]),
      ("advancedRuntime", .object
        [("browserBinary", .text "chrome"),
          ("useStealthPlugin", .boolean true),
          ("randomizeUserAgent", .boolean true),
          ("blockWebRTC", .boolean true),
          ("matchProxyTimezone", .boolean true),
          ("canvasSpoofing", .boolean true),
          ("disableWebRtc", .boolean true),
          ("spoofAudioContext", .boolean true),
          ("isolateCookiesPerSession", .boolean true),
          ("customUserAgentOverride", .text ""),
          ("recordActionSequence", .boolean false),
          ("replayActionSequence", .boolean false)])]

def subscription (userId : String) : JsValue :=
  .object
    [("userId", .text userId),
      ("currentPlan", .text "None"),
      ("currentPlanId", .null),
      ("price", integer 0),
      ("currency", .text "NGN"),
      ("currencySymbol", .text "₦"),
      ("status", .text "Payment_Required"),
      ("billingInterval", .text "Monthly"),
      ("renewalDate", .null),
      ("expirationDate", .null),
      ("entitlements", .object
        [("maxAccounts", integer 0),
          ("maxConcurrentBrowsers", integer 0),
          ("allowedPlatformIds", .array []),
          ("stealthAntidetectEnabled", .boolean false),
          ("priorityScanning", .boolean false)]),
      ("availableActions", .array
        [.text "SUBSCRIBE", .text "CHANGE_PLAN",
          .text "UPDATE_PAYMENT"]),
      ("notices", .array [])]

def available (data : List (String × JsValue)) : JsValue :=
  .object
    [("status", .text "AVAILABLE"), ("data", .object data)]

def settings (userId : String) : JsValue :=
  .object
    [("userId", .text userId),
      ("profile", available
        [("name", .text "Operator"),
          ("email",
            .text "operator@betting-automation.internal"),
          ("pendingEmail", .null),
          ("avatarUrl", .null)]),
      ("security", available
        [("accountStatus", .text "ACTIVE"),
          ("deletionScheduledAt", .null),
          ("mfaEnabled", .boolean false),
          ("activeSessions", integer 1)]),
      ("presentationPreferences", .object
        [("theme", .text "light"),
          ("density", .text "comfortable")]),
      ("notifications", available
        [("emailAlerts", .boolean true),
          ("pushAlerts", .boolean false),
          ("weeklyReport", .boolean true)]),
      ("capabilities", .object
        [("canChangeName", .boolean true),
          ("canChangeEmail", .boolean true),
          ("canChangePassword", .boolean true),
          ("canConfigureMFA", .boolean true),
          ("canRevokeSessions", .boolean true),
          ("canDeleteAccount", .boolean false),
          ("canCancelDeletion", .boolean false)])]

end Defaults

def AccountsContainer.fresh : AccountsContainer where
  accounts := .empty
  balances := .empty
  revision := 1

def ConfigContainer.fresh : ConfigContainer where
  globalConfig := Defaults.globalConfig
  accountOverrides := .empty
  revision := 1

def BillingContainer.fresh (userId : String) : BillingContainer where
  subscription := Defaults.subscription userId
  invoices := .empty
  revision := 1
  isStale := false

def SettingsContainer.fresh
    (userId : String) : SettingsContainer where
  settings := Defaults.settings userId
  revision := 1

------------------------------------------------------------
-- The Store Of A User
------------------------------------------------------------

structure UserStore where
  store : StateStore UserTables
  notifications : NotificationsContainer

namespace UserStore

def tables (s : UserStore) : UserTables :=
  s.store.tables

def userId (s : UserStore) : String :=
  s.store.userId

def withTables (s : UserStore) (tables : UserTables) : UserStore :=
  { s with store := s.store.withTables tables }

def withNotifications
    (s : UserStore)
    (notifications : NotificationsContainer) : UserStore :=
  { s with notifications := notifications }

/- The commit of a transaction can be refused as well. -/
def committed
    (occasion : Occasion)
    (written : Except JsError UserTables) :
    Except JsError UserTables :=
  match occasion.closing with
  | some error => written.bind (fun _ => .error error)
  | none => written

/-
  What is written after a container has been changed. When
  it is refused the container stays changed.
-/
def writeAfter
    (s : UserStore)
    (answer : JsValue)
    (written : Except JsError UserTables) :
    Except JsError JsValue × UserStore :=
  match written with
  | .error error => (.error error, s)
  | .ok tables => (.ok answer, s.withTables tables)

def addNotification
    (d : Dialect)
    (s : UserStore)
    (occasion : Occasion)
    (notif : JsValue) : Except JsError JsValue × UserStore :=
  match s.notifications.add occasion notif with
  | .error error => (.error error, s)
  | .ok (record, notifications) =>
      (s.withNotifications notifications).writeAfter record
        (committed occasion
          (saveNotification d.database s.userId occasion record
            s.tables))

def markRead
    (d : Dialect)
    (s : UserStore)
    (id : JsValue) : Except JsError JsValue × UserStore :=
  match s.notifications.markRead id with
  | none => (.ok (.boolean false), s)
  | some notifications =>
      (s.withNotifications notifications).writeAfter
        (.boolean true)
        (d.database.execute .markNotificationRead
          [.text s.userId, .value id] s.tables)

def markAllRead
    (d : Dialect)
    (s : UserStore) : Except JsError JsValue × UserStore :=
  match s.notifications.markAllRead with
  | none => (.ok (.boolean false), s)
  | some notifications =>
      (s.withNotifications notifications).writeAfter
        (.boolean true)
        (d.database.execute .markAllNotificationsRead
          [.text s.userId] s.tables)

/- A notification is deleted in memory alone. -/
def deleteNotification
    (s : UserStore)
    (id : JsValue) : Except JsError JsValue × UserStore :=
  match s.notifications.delete id with
  | none => (.ok (.boolean false), s)
  | some notifications =>
      (.ok (.boolean true), s.withNotifications notifications)

def perform
    (d : Dialect)
    (s : UserStore)
    (occasion : Occasion)
    (call : MutatorCall) :
    Except JsError JsValue × UserStore :=
  let performed := s.store.perform d.database occasion call
  (performed.1, { s with store := performed.2 })

------------------------------------------------------------
-- Logout
------------------------------------------------------------

/- The statements that delete the rows of a user. -/
def purges : List Statement :=
  [.deleteUserAccounts, .deleteUserConfig,
    .deleteUserSubscription, .deleteUserInvoices,
    .deleteUserSettings, .deleteUserNotifications]

def purge
    (d : Dialect)
    (uId : String)
    (tables : UserTables) : Except JsError UserTables :=
  purges.foldlM
    (fun tables statement =>
      d.database.execute statement [.text uId] tables) tables

/- The containers of a user whose tables are empty. -/
def reset (s : UserStore) (uId : String) : UserStore where
  store :=
    { s.store with
        accounts := .fresh
        config := .fresh
        billing := .fresh uId
        settings := .fresh uId }
  notifications := .fresh

/-
  The rows of the user are deleted in one transaction, and
  the containers are reset after it.
-/
def onLogout
    (d : Dialect)
    (s : UserStore)
    (occasion : Occasion)
    (targetUserId : Option String) :
    Except JsError Unit × UserStore :=
  let uId := presentOr targetUserId s.userId
  match committed occasion (purge d uId s.tables) with
  | .error error => (.error error, s)
  | .ok tables => (.ok (), (s.withTables tables).reset uId)

end UserStore

------------------------------------------------------------
-- Operations
------------------------------------------------------------

/- What a user does, with arguments of any kind. -/
inductive UserOperation where
| mutate (call : MutatorCall)
| addNotification (notif : JsValue)
| markRead (id : JsValue)
| markAllRead
| deleteNotification (id : JsValue)

def UserStore.operate
    (d : Dialect)
    (s : UserStore)
    (occasion : Occasion)
    (operation : UserOperation) :
    Except JsError JsValue × UserStore :=
  match operation with
  | .mutate call => s.perform d occasion call
  | .addNotification notif => s.addNotification d occasion notif
  | .markRead id => s.markRead d id
  | .markAllRead => s.markAllRead d
  | .deleteNotification id => s.deleteNotification id

def UserStore.step
    (d : Dialect)
    (s : UserStore)
    (event : Occasion × UserOperation) : UserStore :=
  (s.operate d event.1 event.2).2

end Mutators

end ControlPlane
