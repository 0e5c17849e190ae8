import ControlPlane.Store.Users

/-
  The public catalogs in memory.

  The plans, the platforms and the strategy options are the
  same for every user. A catalog is replaced as a whole. The
  registry of the platforms is emptied before the first of
  the new ones is copied.

  Main declarations:
    * `CatalogsContainer` and `CatalogsContainer.fresh`
    * `CatalogsContainer.replacePlansCatalog`
    * `CatalogsContainer.replacePlatformRegistry`
    * `CatalogsContainer.replaceStrategyCatalog`
-/

------------------------------------------------------------
-- Defaults
------------------------------------------------------------

namespace ControlPlane

namespace Mutators

namespace Defaults

def plan
    (id name tagline description : String)
    (monthlyPrice annualPrice : Int)
    (popular : Bool)
    (features : List String)
    (maxAccounts maxConcurrentBrowsers : Int) : JsValue :=
  .object
    [("id", .text id),
      ("name", .text name),
      ("tagline", .text tagline),
      ("description", .text description),
      ("monthlyPrice", integer monthlyPrice),
      ("annualPrice", integer annualPrice),
      ("popular", .boolean popular),
      ("pricing", .object
        [("monthlyPrice", integer monthlyPrice),
          ("annualPrice", integer annualPrice),
          ("currency", .text "NGN"),
          ("currencySymbol", .text "₦")]),
      ("features", .array (features.map JsValue.text)),
      ("entitlements", .object
        [("maxAccounts", integer maxAccounts),
          ("maxConcurrentBrowsers",
            integer maxConcurrentBrowsers)])]

def plansCatalog : JsValue :=
  .object
    [("defaultPlanId", .text "pro"),
      ("annualDiscountPercent", integer 20),
      ("taxRate", .number (.finite (3 / 40))),
      ("currency", .text "NGN"),
      ("currencySymbol", .text "₦"),
      ("plans", .array
        [plan "starter" "Starter"
          "For individual operators getting started"
          "Essential single-market trading tools with basic browser allocation."
          5000 48000 false
          ["Up to 3 Connected Accounts",
            "Standard Execution Speed",
            "Email Alert Notifications"] 3 2,
        plan "pro" "Pro"
          "Optimal for professional day arbitrageurs"
          "Advanced multi-bookmaker routing, dedicated proxy chaining, and stealth execution."
          10000 96000 true
          ["Up to 10 Connected Accounts",
            "High-Priority Odds Scanning",
            "Stealth Antidetect Profiling"] 10 6])]

def platform
    (id displayName : String)
    (sortOrder : Int) : JsValue × JsValue :=
  (.text id, .object
    [("id", .text id),
      ("displayName", .text displayName),
      ("status", .text "ONLINE"),
      ("isAvailable", .boolean true),
      ("iconUrl", .null),
      ("sortOrder", integer sortOrder)])

def platforms : List (JsValue × JsValue) :=
  [platform "sportybet" "SportyBet" 1,
    platform "bet9ja" "Bet9ja" 2,
    platform "betking" "BetKing" 3,
    platform "1xbet" "1xBet" 4]

def option
    (id label description : String)
    (enabled : Bool) : JsValue :=
  .object
    [("id", .text id),
      ("label", .text label),
      ("description", .text description),
      ("enabled", .boolean enabled)]

def strategyCatalog : JsValue :=
  .object
    [("pricingModes", .array
      [option "PROFIT_TARGET" "Profit Target"
        "Calculate stake to reach target profit margin" true,
      option "FIXED" "Fixed Stake"
        "Flat stake amount placed on every eligible market"
        true]),
      ("resolutionStrategies", .array
      [option "CLAMP_THEN_REDUCE_PROFIT"
        "Clamp Then Reduce Profit"
        "Clamp stake to maximum threshold and accept reduced profit"
        true,
      option "ABORT" "Abort"
        "Reject bet order immediately if odds drift" true]),
      ("selectionPreferences", .array
      [option "ROUND_NUMBERS" "Round Numbers"
        "Round calculated stakes to nearest round unit" true,
      option "EXACT" "Exact"
        "Execute mathematically exact stake calculation"
        true]),
      ("proxyAllocationModes", .array
      [option "round_robin" "Round Robin (Distribute Evenly)"
        "Cycle through proxy pool sequentially" true,
      option "sticky" "Sticky Session (Dedicated Per Runner)"
        "Keep runner locked to single residential IP" true,
      option "random" "Random Selection"
        "Pick random proxy from pool on every request"
        true]),
      ("proxyFailureModes", .array
      [option "loose" "Loose (Fallback to Direct Connection)"
        "Continue automation without proxy if proxy node fails"
        true,
      option "strict" "Strict (Fail Fast if Proxy Fails)"
        "Pause automation immediately if proxy connection breaks"
        true]),
      ("slaveModes", .array
      [option "headful" "Headful (Visible on Desktop)"
        "Launch visible browser windows for live monitoring"
        true,
      option "headless" "Headless (Background Process)"
        "Run headless background processes for minimal RAM consumption"
        true]),
      ("supportedBrowserBinaries", .array
      [option "chrome" "Google Chrome (Installed system binary)"
        "Recommended for high antidetect fidelity" true,
      option "chromium" "Chromium Engine"
        "Bundled standalone Chromium engine" true,
      option "firefox" "Mozilla Firefox"
        "Gecko rendering engine" false])]

end Defaults

------------------------------------------------------------
-- The Catalogs In Memory
------------------------------------------------------------

structure CatalogsContainer where
  plansCatalog : JsValue
  platforms : OrderedMap JsValue JsValue
  strategyCatalog : JsValue
  revision : Nat

/- A value that `typeof` calls an object, null among them. -/
def isTypeofObject : JsValue → Bool
| .null => true
| .array _ => true
| .object _ => true
| .circular => true
| _ => false

/- What a loop over the value is given, one by one. -/
def iterated : JsValue → Except JsError (List JsValue)
| .array items => .ok items
| .text value =>
    .ok (value.toList.map
      (fun c => JsValue.text (String.singleton c)))
| _ => .error .type

namespace CatalogsContainer

def fresh : CatalogsContainer where
  plansCatalog := Defaults.plansCatalog
  platforms := .ofList Defaults.platforms
  strategyCatalog := Defaults.strategyCatalog
  revision := 1

/- The registry with one more platform. -/
def putPlatform
    (platforms : OrderedMap JsValue JsValue)
    (p : JsValue) :
    Except JsError (OrderedMap JsValue JsValue) := do
  let id ← p.read "id"
  let copy ← p.jsonCopy
  return platforms.set id copy

/- The loop over the platforms ends with an exception. -/
def putPlatforms :
    List JsValue → OrderedMap JsValue JsValue →
      Option JsError × OrderedMap JsValue JsValue
| [], platforms => (none, platforms)
| p :: rest, platforms =>
    match putPlatform platforms p with
    | .error error => (some error, platforms)
    | .ok platforms => putPlatforms rest platforms

/- The position of a platform in the registry. -/
def sortOrder (p : JsValue) : JsNumber :=
  match ((p.field "sortOrder").orElse
    (Defaults.integer 0)).toNumber with
  | .ok order => order
  | .error _ => .nan

/- Where there is nothing to compare the order is kept. -/
def sortsBefore (a b : JsValue) : Bool :=
  match sortOrder a, sortOrder b with
  | .finite x, .finite y => decide (x ≤ y)
  | .infinite false, .finite _ => false
  | .finite _, .infinite true => false
  | .infinite false, .infinite true => false
  | _, _ => true

def getPlatformRegistry (c : CatalogsContainer) : JsValue :=
  .object
    [("defaultPlatformId", .text "sportybet"),
      ("platforms",
        .array (c.platforms.values.mergeSort sortsBefore))]

/- The catalog that is kept for a new one. -/
def plansFrom
    (c : CatalogsContainer)
    (catalog : JsValue) : Except JsError JsValue :=
  match catalog with
  | .array items => do
      let plans ← (JsValue.array items).jsonCopy
      return Defaults.plansCatalog.withMembers
        [("plans", plans)]
  | catalog =>
      if catalog.truthy && isTypeofObject catalog then
        catalog.jsonCopy
      else .ok c.plansCatalog

def replacePlansCatalog
    (c : CatalogsContainer)
    (catalog : JsValue) :
    Except JsError CatalogsContainer := do
  let plans ← c.plansFrom catalog
  return { c with
    plansCatalog := plans
    revision := c.revision + 1 }

/- The registry can be left in the middle of the list. -/
def replacePlatformRegistry
    (c : CatalogsContainer)
    (platforms : JsValue) :
    Option JsError × CatalogsContainer :=
  match iterated platforms with
  | .error error => (some error, { c with platforms := .empty })
  | .ok items =>
      match putPlatforms items .empty with
      | (some error, filled) =>
          (some error, { c with platforms := filled })
      | (none, filled) =>
          (none,
            { c with
                platforms := filled
                revision := c.revision + 1 })

def replaceStrategyCatalog
    (c : CatalogsContainer)
    (catalog : JsValue) :
    Except JsError CatalogsContainer := do
  let copy ← catalog.jsonCopy
  return { c with
    strategyCatalog := copy
    revision := c.revision + 1 }

end CatalogsContainer

end Mutators

end ControlPlane
