import ControlPlane.Store.ContainerHydration
import ControlPlane.System.Security

/-
  The prelude that a client is greeted with.

  The projection reads the containers and what its caller
  tells of the runtime. The payload of the last call is kept
  with a key of the revisions of the containers and the state
  of the lifecycle, and returned again under the same key.

  Main declarations:
    * `resolveAuthoritativeLifecycleState`
    * `RuntimeState` and `RuntimeState.reads`
    * `PreludeView` and `PreludeView.sections`
    * `PreludeProjection.project`
    * `SameButTimes`
-/

------------------------------------------------------------
-- The State Of The Lifecycle
------------------------------------------------------------

namespace ControlPlane

namespace Mutators

/- What the security authority knows when it is asked. -/
structure SecurityView where
  securityState : SecurityState
  licenseStatus : Option String

def resolveAuthoritativeLifecycleState
    (security : SecurityView)
    (billingSnapshot : JsValue) : String :=
  let licensed := fun status =>
    decide (security.licenseStatus = some status)
  let subscribed := fun status =>
    decide (billingSnapshot.field "status" = .text status)
  match security.securityState with
  | .UNINITIALIZED | .INITIALIZING => "Initializing"
  | .REVOKED | .COMPROMISED => "Revoked"
  | state =>
      if licensed "REVOKED" then "Revoked"
      else
        match state with
        | .OPERATIONAL | .OFFLINE_GRACE | .RENEWING =>
            if subscribed "Past_Due" ||
                (subscribed "Payment_Required" &&
                  !licensed "VALID") then
              "Payment_Required"
            else "Authorized"
        | .AUTHENTICATED | .AUTHZ_FAILURE | .EXPIRED =>
            "Payment_Required"
        | .UNAUTHENTICATED | .SECURITY_STATE_READY
        | .AUTHENTICATING | .AUTH_FAILED | .LOGGED_OUT
        | .LOGGING_OUT | .REAUTHENTICATION_REQUIRED =>
            "Authentication_Required"
        | _ => "Offline_Fatal"

------------------------------------------------------------
-- The Runtime
------------------------------------------------------------

/-
  What a caller tells of the runtime: the state of the
  lifecycle, the set of the staged accounts if it is a set,
  and the other fields.
-/
structure RuntimeState where
  lifecycleState : Option String
  stagedAccountIds : Option (List JsValue)
  fields : JsValue

/- The accounts of a list that are not suspended. -/
def unsuspended :
    List JsValue → Except JsError (List JsValue)
| [] => .ok []
| acc :: rest => do
    let backendState ← acc.read "backendState"
    let rest ← unsuspended rest
    return if backendState ≠ .text "SUSPENDED" ∧
        acc.field "status" ≠ .text "SUSPENDED" then acc :: rest
      else rest

/- Where the automation accounts are taken from. -/
inductive AccountsSource where
| given (accounts : Except JsError (List JsValue))
| staged (ids : List JsValue)
| active
deriving DecidableEq

/- What the projection makes of the runtime state. -/
structure RuntimeReads where
  message : JsValue
  lifecycle : JsValue
  automationMessage : JsValue
  capabilities : JsValue
  accounts : AccountsSource
  engineStatus : JsValue
  backendConnected : Bool
  activeBrowsers : JsValue
  fleetReadiness : JsValue
  globalActionPending : JsValue
deriving DecidableEq

/- The members of an object that are all true or false. -/
def flags (members : List (String × Bool)) : JsValue :=
  .object
    (members.map
      (fun member => (member.1, .boolean member.2)))

def defaultCapabilities : JsValue :=
  flags
    [("canStartAutomation", true),
      ("canStopAutomation", false),
      ("canPlaceBet", false),
      ("canCashOut", false),
      ("canValidate", false),
      ("canActivateAccount", true),
      ("canDeactivateAccount", false),
      ("canIncreaseBrowserCount", true),
      ("canDecreaseBrowserCount", false),
      ("canToggleBetCycle", true),
      ("canEditPricing", true),
      ("canEditRisk", true),
      ("canEditRebet", true),
      ("canEditProxy", true),
      ("canEditExecution", true)]

namespace RuntimeState

/- The first of some fields that is not empty. -/
def firstOf
    (runtimeState : RuntimeState)
    (names : List String)
    (fallback : JsValue) : JsValue :=
  names.foldr
    (fun name rest =>
      (runtimeState.fields.field name).orElse rest) fallback

def accountsSource
    (runtimeState : RuntimeState) : AccountsSource :=
  match runtimeState.fields.field "automationAccounts" with
  | .array (first :: rest) =>
      .given (unsuspended (first :: rest))
  | _ =>
      match runtimeState.stagedAccountIds with
      | some (first :: rest) => .staged (first :: rest)
      | _ => .active

def reads (runtimeState : RuntimeState) : RuntimeReads where
  message :=
    runtimeState.firstOf ["lifecycleMessage"]
      (.text "Control Plane operational and synchronized")
  lifecycle :=
    runtimeState.firstOf ["lifecycle", "automationLifecycle"]
      (.text "STOPPED")
  automationMessage :=
    runtimeState.firstOf
      ["lifecycleMessage", "automationMessage"]
      (.text "Execution engine standby")
  capabilities :=
    runtimeState.firstOf
      ["capabilities", "automationCapabilities"]
      defaultCapabilities
  accounts := runtimeState.accountsSource
  engineStatus :=
    runtimeState.firstOf ["engineStatus"] (.text "READY")
  backendConnected :=
    decide (runtimeState.fields.field "backendConnected" ≠
      .boolean false)
  activeBrowsers :=
    runtimeState.firstOf ["activeBrowsers"]
      (Defaults.integer 0)
  fleetReadiness :=
    runtimeState.firstOf ["fleetReadiness"] .null
  globalActionPending :=
    runtimeState.firstOf ["globalActionPending"] .null

end RuntimeState

------------------------------------------------------------
-- The Containers
------------------------------------------------------------

/- The balance of an account, and its currency. -/
def AccountsContainer.getBalance
    (c : AccountsContainer)
    (id : JsValue) : JsNumber × JsValue :=
  match c.balances.get? id with
  | some balance => (balance.balance, balance.currencySymbol)
  | none => (.finite 0, .text "₦")

theorem AccountsContainer.getBalance_setBalance
    (c : AccountsContainer)
    (id other : JsValue)
    (kept : Balance) :
    (c.setBalance id kept).getBalance other =
      if other = id then (kept.balance, kept.currencySymbol)
      else c.getBalance other := by
  unfold getBalance setBalance
  dsimp only
  rw [OrderedMap.get?_set]
  by_cases hOther : other = id
  · rw [if_pos hOther, if_pos hOther]
  · rw [if_neg hOther, if_neg hOther]

/- The containers of a store, and its user. -/
structure PreludeContainers where
  userId : String
  accounts : AccountsContainer
  config : ConfigContainer
  billing : BillingContainer
  catalogs : CatalogsContainer
  settings : SettingsContainer
  notifications : NotificationsContainer

/- What the projection reads of the containers. -/
structure PreludeView where
  userId : String
  viewportAccounts : List JsValue
  globalConfig : JsValue
  billingSnapshot : JsValue
  plansCatalog : JsValue
  platformRegistry : JsValue
  strategyCatalog : JsValue
  settingsSnapshot : JsValue
  notifications : List JsValue
  unreadCount : Nat

/- An account of the initial view. -/
def viewportAccount
    (c : AccountsContainer)
    (acc : JsValue) : JsValue :=
  let bal := c.getBalance (acc.field "id")
  .object
    [("id", acc.field "id"),
      ("name", acc.field "name"),
      ("platformDisplayName", acc.field "platformDisplayName"),
      ("accountUsername", acc.field "accountUsername"),
      ("accountPassword", .text protectedPassword),
      ("backendState", acc.field "backendState"),
      ("presentationCategory",
        acc.field "presentationCategory"),
      ("statusDescription", acc.field "statusDescription"),
      ("isSelectable", acc.field "isSelectable"),
      ("availableActions", acc.field "availableActions"),
      ("pendingOperation", acc.field "pendingOperation"),
      ("tags", acc.field "tags"),
      ("lastUpdated", acc.field "lastUpdated"),
      ("lastSynchronization", acc.field "lastSynchronization"),
      ("currentBalance", .number bal.1),
      ("currencySymbol", bal.2)]

/- A balance that is shown already changes no account. -/
theorem viewportAccount_setBalance
    {c : AccountsContainer}
    {id : JsValue}
    (kept : Balance)
    (hKept :
      c.getBalance id = (kept.balance, kept.currencySymbol)) :
    viewportAccount (c.setBalance id kept) =
      viewportAccount c := by
  funext acc
  unfold viewportAccount
  rw [AccountsContainer.getBalance_setBalance]
  split
  · rename_i hId
    rw [hId, hKept]
  · rfl

namespace PreludeContainers

def view (w : PreludeContainers) : PreludeView where
  userId := w.userId
  viewportAccounts :=
    w.accounts.accounts.values.map (viewportAccount w.accounts)
  globalConfig := w.config.globalConfig
  billingSnapshot := w.billing.subscription
  plansCatalog := w.catalogs.plansCatalog
  platformRegistry := w.catalogs.getPlatformRegistry
  strategyCatalog := w.catalogs.strategyCatalog
  settingsSnapshot := w.settings.settings
  notifications := w.notifications.notifications.values
  unreadCount := w.notifications.unreadCount

/- The revisions of accounts, configuration and so on. -/
abbrev Revisions := Nat × Nat × Nat × Nat × Nat × Nat

def revisions (w : PreludeContainers) : Revisions :=
  (w.accounts.revision, w.config.revision,
    w.billing.revision, w.catalogs.revision,
    w.settings.revision, w.notifications.revision)

end PreludeContainers

------------------------------------------------------------
-- The Payload
------------------------------------------------------------

/- The payload but for the parts with a time in them. -/
structure PreludeSections where
  lifecycle : JsValue
  user : JsValue
  billing : JsValue
  accounts : JsValue
  automation : JsValue
  settings : JsValue
  notifications : JsValue
  system : JsValue

/- A text member of an object. -/
def label (name value : String) : String × JsValue :=
  (name, .text value)

def contactMethods : JsValue :=
  .array
    [.object
      [label "id" "ticket",
        label "title" "Support Ticket",
        label "description" "Create a priority support request",
        label "actionType" "INTERNAL_ROUTE",
        label "actionTarget" "/workspace/support/tickets/new",
        ("available", .boolean true)],
    .object
      [label "id" "discord",
        label "title" "Discord Community",
        label "description" "Join professional operators",
        label "actionType" "EXTERNAL_LINK",
        label "actionTarget"
          "https://discord.gg/betting-automation",
        ("available", .boolean true)]]

namespace PreludeSections

/- The envelope as it is sent, written at a time. -/
def envelope (s : PreludeSections) (now : String) : JsValue :=
  .object
    [label "topic" "app:prelude",
      ("payload", .object
        [("protocol", .object
          [label "protocolVersion" "1.0.0",
            label "serverTime" now,
            label "acpInstanceId" "acp-local-node-01",
            label "environment" "production"]),
          ("lifecycle", s.lifecycle),
          ("user", s.user),
          ("billing", s.billing),
          ("accounts", s.accounts),
          ("automation", s.automation),
          ("settings", s.settings),
          ("support", .object
            [("snapshot", .object
              [("openTicketCount", Defaults.integer 0),
                ("contactMethods", contactMethods),
                ("documentationState", .object
                  [("cached", .boolean true),
                    label "rootCategory" "guides"]),
                label "documentationLastSync" now,
                label "systemHealthSummary" "Healthy"])]),
          ("notifications", s.notifications),
          ("system", s.system)])]

end PreludeSections

/- Two envelopes that tell the same at two times. -/
def SameButTimes (first second : JsValue) : Prop :=
  ∃ sections : PreludeSections, ∃ earlier later,
    first = sections.envelope earlier ∧
      second = sections.envelope later

/- An automation account that the prelude makes itself. -/
def preludeAccount
    (globalConfig acc : JsValue) : Except JsError JsValue := do
  let cfg := (acc.field "effectiveConfig").orElse (.object [])
  let effectiveConfig ←
    if (cfg.field "baseStake").truthy then .ok cfg
    else do
      let baseStake ←
        (globalConfig.field "pricing").read "baseStake"
      return .object
        [("baseStake", baseStake), label "source" "GLOBAL"]
  let source := fun name =>
    (cfg.field name).orElse
      ((acc.field name).orElse (.text "GLOBAL"))
  return .object
    [("id", acc.field "id"),
      ("name", acc.field "name"),
      ("platformDisplayName", acc.field "platformDisplayName"),
      ("accountUsername", acc.field "accountUsername"),
      ("status", acc.field "backendState"),
      ("activeBetsCount",
        (acc.field "activeBetsCount").orElse
          (Defaults.integer 0)),
      ("betCycleEnabled",
        (cfg.field "betCycleEnabled").orDefault
          ((acc.field "betCycleEnabled").orDefault
            (.boolean true))),
      ("currencySymbol",
        (acc.field "currencySymbol").orElse (.text "₦")),
      ("currentBalance",
        (acc.field "currentBalance").orDefault
          ((acc.field "lastKnownBalance").orElse
            (Defaults.integer 0))),
      ("exposure",
        (acc.field "exposure").orElse (Defaults.integer 0)),
      ("successRatePercent",
        (acc.field "successRatePercent").orDefault
          (Defaults.integer 100)),
      ("effectiveConfig", effectiveConfig),
      ("pricingSource", source "pricingSource"),
      ("riskSource", source "riskSource"),
      ("rebetSource", source "rebetSource"),
      ("pendingOperation", .null),
      ("canActivate", .boolean true),
      ("canDeactivate", .boolean true),
      ("canToggleBetCycle", .boolean true)]

namespace PreludeView

def isListed
    (source : AccountsSource)
    (acc : JsValue) : Bool :=
  decide (acc.field "backendState" = .text "ACTIVE") &&
    match source with
    | .staged ids => decide (acc.field "id" ∈ ids)
    | _ => true

def automationAccounts
    (v : PreludeView)
    (globalConfig : JsValue)
    (source : AccountsSource) :
    Except JsError (List JsValue) :=
  match source with
  | .given accounts => accounts
  | source =>
      (v.viewportAccounts.filter (isListed source)).mapM
        (preludeAccount globalConfig)

def initialView (v : PreludeView) : JsValue :=
  let count := Defaults.integer v.viewportAccounts.length
  .object
    [("viewportAccounts", .array v.viewportAccounts),
      ("bulkCapabilities", .object
        [("supportedOperations", .array
          [.text "BULK_ACTIVATE", .text "BULK_DEACTIVATE",
            .text "BULK_DELETE"]),
          ("maximumSelection", Defaults.integer 20),
          ("requiresConfirmation", .boolean true),
          ("canRunWhileAutomationActive", .boolean false)]),
      ("searchMetadata", .object
        [("totalCount", count),
          ("totalMatches", count),
          ("returnedOffset", Defaults.integer 0),
          ("currentFilters", .array []),
          ("appliedTags", .array []),
          ("savedSearches", .array []),
          ("recentSearches", .array []),
          label "activeFilterSummary" "All Accounts"])]

/- What a payload tells, from what has been read for it. -/
def sections
    (v : PreludeView)
    (nodeEnv : JsValue)
    (lifecycleState : String)
    (r : RuntimeReads) : Except JsError PreludeSections := do
  let userProfile ←
    (v.settingsSnapshot.field "profile").read "data"
  let globalConfig ← v.globalConfig.jsonCopy
  let name ← userProfile.read "name"
  let accounts ← v.automationAccounts globalConfig r.accounts
  let capacity ←
    (globalConfig.field "browserSpawning").read
      "maxAccountsToSpawn"
  return {
    lifecycle := .object
      [label "state" lifecycleState, ("message", r.message)]
    user := .object
      [label "id" v.userId,
        ("name", name.orElse (.text "Operator")),
        ("email",
          (userProfile.field "email").orElse
            (.text "operator@betting-automation.internal")),
        ("avatarUrl",
          (userProfile.field "avatarUrl").orElse .null),
        label "role" "OPERATOR"]
    billing := .object
      [("snapshot", v.billingSnapshot),
        ("plansCatalog", v.plansCatalog)]
    accounts := .object
      [("platformRegistry", v.platformRegistry),
        ("initialView", v.initialView)]
    automation := .object
      [("strategyCatalog", v.strategyCatalog),
        ("snapshot", .object
          [("lifecycle", r.lifecycle),
            ("lifecycleMessage", r.automationMessage),
            ("capabilities", r.capabilities),
            ("globalConfig", globalConfig),
            ("accounts", .array accounts),
            ("systemStatus", .object
              [("acpConnected", .boolean true),
                ("engineStatus", r.engineStatus),
                ("backendConnected",
                  .boolean r.backendConnected),
                ("activeBrowsers", r.activeBrowsers),
                ("totalConfiguredCapacity",
                  capacity.orElse (Defaults.integer 4))]),
            ("fleetReadiness", r.fleetReadiness),
            ("globalActionPending", r.globalActionPending)])]
    settings := .object [("snapshot", v.settingsSnapshot)]
    notifications := .object
      [("unreadCount", Defaults.integer v.unreadCount),
        ("items", .array (v.notifications.take 20))]
    system := .object
      [label "appName" "Betting Automation Console",
        label "version" "v1.4.1",
        label "currentVersion" "v1.4.1",
        ("hasUpdateDownloaded", .boolean false),
        label "availableVersion" "v1.4.1",
        ("nodeEnvironment",
          nodeEnv.orElse (.text "production"))] }

end PreludeView

------------------------------------------------------------
-- The Projection
------------------------------------------------------------

/-
  The parts of the key. No revision has a colon in its text,
  so a key tells its parts.
-/
structure RevisionKey where
  revisions : PreludeContainers.Revisions
  lifecycleState : String
deriving DecidableEq

/- The last payload, with its key, until it is dropped. -/
structure PreludeProjection where
  cached : Option (RevisionKey × JsValue)

namespace PreludeProjection

def invalidated : PreludeProjection where
  cached := none

def effectiveLifecycleState
    (w : PreludeContainers)
    (security : SecurityView)
    (runtimeState : RuntimeState) : String :=
  presentOr runtimeState.lifecycleState
    (resolveAuthoritativeLifecycleState security
      w.billing.subscription)

def revisionKey
    (w : PreludeContainers)
    (security : SecurityView)
    (runtimeState : RuntimeState) : RevisionKey where
  revisions := w.revisions
  lifecycleState :=
    effectiveLifecycleState w security runtimeState

/- The payload that is kept under the key, if there is one. -/
def hit?
    (p : PreludeProjection)
    (key : RevisionKey) : Option JsValue :=
  (p.cached.filter (fun entry => entry.1 = key)).map Prod.snd

/- A payload that cannot be made leaves the last one. -/
def project
    (p : PreludeProjection)
    (nodeEnv : JsValue)
    (w : PreludeContainers)
    (security : SecurityView)
    (runtimeState : RuntimeState)
    (now : String) :
    Except JsError JsValue × PreludeProjection :=
  let key := revisionKey w security runtimeState
  match p.hit? key with
  | some payload => (.ok payload, p)
  | none =>
      match
        w.view.sections nodeEnv key.lifecycleState
          runtimeState.reads with
      | .error error => (.error error, p)
      | .ok sections =>
          let envelope := sections.envelope now
          (.ok envelope, { cached := some (key, envelope) })

theorem hit?_eq_some_iff
    (p : PreludeProjection)
    (key : RevisionKey)
    (payload : JsValue) :
    p.hit? key = some payload ↔
      p.cached = some (key, payload) := by
  unfold hit?
  cases p.cached with
  | none => simp
  | some entry =>
      rcases entry with ⟨kept, last⟩
      by_cases hKey : kept = key
      · simp [Option.filter, hKey]
      · simp [Option.filter, hKey]

theorem project_of_hit
    {p : PreludeProjection}
    {w : PreludeContainers}
    {security : SecurityView}
    {runtimeState : RuntimeState}
    {payload : JsValue}
    (nodeEnv : JsValue)
    (now : String)
    (hHit :
      p.hit? (revisionKey w security runtimeState) =
        some payload) :
    p.project nodeEnv w security runtimeState now =
      (.ok payload, p) := by
  unfold project
  dsimp only
  rw [hHit]

theorem project_of_miss
    {p : PreludeProjection}
    {w : PreludeContainers}
    {security : SecurityView}
    {runtimeState : RuntimeState}
    {nodeEnv : JsValue}
    {sections : PreludeSections}
    (now : String)
    (hMiss :
      p.hit? (revisionKey w security runtimeState) = none)
    (hSections :
      w.view.sections nodeEnv
          (effectiveLifecycleState w security runtimeState)
          runtimeState.reads = .ok sections) :
    p.project nodeEnv w security runtimeState now =
      (.ok (sections.envelope now),
        ⟨some (revisionKey w security runtimeState,
          sections.envelope now)⟩) := by
  unfold project
  dsimp only
  rw [hMiss]
  unfold revisionKey
  dsimp only
  rw [hSections]

theorem project_of_error
    {p : PreludeProjection}
    {w : PreludeContainers}
    {security : SecurityView}
    {runtimeState : RuntimeState}
    {nodeEnv : JsValue}
    {error : JsError}
    (now : String)
    (hMiss :
      p.hit? (revisionKey w security runtimeState) = none)
    (hSections :
      w.view.sections nodeEnv
          (effectiveLifecycleState w security runtimeState)
          runtimeState.reads = .error error) :
    p.project nodeEnv w security runtimeState now =
      (.error error, p) := by
  unfold project
  dsimp only
  rw [hMiss]
  unfold revisionKey
  dsimp only
  rw [hSections]

end PreludeProjection

end Mutators

end ControlPlane
