import ControlPlane.Data.Json
import ControlPlane.Data.OrderedMap
import ControlPlane.System.Staging

/-
  The configuration of the accounts and the policies that
  are sent to the Execution Plane.

  The control plane stores a global configuration and, for
  each account, an override. A policy document is compiled
  from the two. The commands that change the configuration
  are handled here as they are while the Execution Plane is
  connected and the backend is not offline.

  Main declarations:
    * `buildPolicyDocument`
    * `AutomationConfigContainer` and its operations
    * `PolicyCommand` and `handlePolicyCommand`
    * `buildPolicyDocument_congr`
-/

------------------------------------------------------------
-- Policy Documents
------------------------------------------------------------

namespace ControlPlane

structure PricingStrategy where
  mode : Json
  baseStake : Numeral
  targetProfit : Numeral
  minimumAcceptableProfit : Numeral
  resolutionStrategy : Json

structure PricingBehavior where
  platformIncrement : Numeral
  selectionPreference : Json
  restorePolicyOnRebet : Bool

structure RebetStrategy where
  maxRebetAttempts : Numeral
  rebetStakeIncrement : Numeral

structure ExecutionTimeouts where
  resultTimeoutMs : Numeral
  navigationTimeoutMs : Numeral
  loginTimeoutMs : Numeral
  decisionFreshnessTTLMs : Numeral
  reconciliationTimeoutMs : Numeral

structure ExecutionPacing where
  keyboardTypingDelayMs : Numeral
  pacingStrategy : Json

structure RiskLimits where
  maxStake : Numeral
  minimumStake : Numeral
  autoAcceptOddsChanges : Bool

/- The limits of the risk management are written twice. -/
structure PolicyDocument where
  betCycleEnabled : Bool
  pricingStrategy : PricingStrategy
  pricingBehavior : PricingBehavior
  rebetStrategy : RebetStrategy
  timeouts : ExecutionTimeouts
  pacing : ExecutionPacing
  riskPolicy : RiskLimits
  riskLimits : RiskLimits

section Sections

open Json

def buildPricingStrategy
    (pricing customPricing : Json) : PricingStrategy where
  mode :=
    firstTruthy
      [customPricing.field "mode", pricing.field "mode"]
      (.text "PROFIT_TARGET")
  baseStake :=
    toNumber (firstDefined
      [customPricing.field "baseStake",
        pricing.field "baseStake"]
      (.number 100))
  targetProfit :=
    toNumber (firstDefined
      [customPricing.field "targetProfit",
        pricing.field "targetProfit"]
      (.number 30))
  minimumAcceptableProfit :=
    toNumber (firstDefined
      [customPricing.field "minimumAcceptableProfit",
        pricing.field "minimumAcceptableProfit"]
      (.number 0))
  resolutionStrategy :=
    firstTruthy
      [customPricing.field "resolutionStrategy",
        pricing.field "resolutionStrategy"]
      (.text "CLAMP_THEN_REDUCE_PROFIT")

def buildPricingBehavior
    (pricing : Json) : PricingBehavior where
  platformIncrement :=
    toNumber (firstDefined
      [pricing.field "platformIncrement"] (.number 1))
  selectionPreference :=
    firstTruthy [pricing.field "selectionPreference"]
      (.text "ROUND_NUMBERS")
  restorePolicyOnRebet :=
    isNotFalse (pricing.field "restorePolicyOnRebet")

def buildRebetStrategy
    (rebet customRebet : Json) : RebetStrategy where
  maxRebetAttempts :=
    toNumber (firstDefined
      [customRebet.field "maxRebetAttempts",
        rebet.field "maxRebetAttempts"]
      (.number 1))
  rebetStakeIncrement :=
    toNumber (firstDefined
      [customRebet.field "rebetStakeIncrement",
        rebet.field "rebetStakeIncrement"]
      (.number 10))

def buildTimeouts (execution : Json) : ExecutionTimeouts where
  resultTimeoutMs :=
    toNumber (firstTruthy
      [execution.field "orderTimeoutMs"] (.number 30000))
  navigationTimeoutMs :=
    toNumber (firstTruthy
      [execution.field "navigationTimeoutMs"]
      (.number 10000))
  loginTimeoutMs :=
    toNumber (firstTruthy
      [execution.field "loginTimeoutMs"] (.number 25000))
  decisionFreshnessTTLMs :=
    toNumber (firstTruthy
      [execution.field "decisionFreshnessTTLMs"]
      (.number 3000))
  reconciliationTimeoutMs :=
    toNumber (firstTruthy
      [execution.field "reconciliationTimeoutMs"]
      (.number 120000))

def buildPacing (execution : Json) : ExecutionPacing where
  keyboardTypingDelayMs :=
    toNumber (firstDefined
      [execution.field "keyboardTypingDelayMs"]
      (.number 10))
  pacingStrategy :=
    firstTruthy [execution.field "pacingStrategy"]
      (.text "AGGRESSIVE")

def buildRiskLimits
    (risk customRisk : Json) : RiskLimits where
  maxStake :=
    toNumber (firstDefined
      [customRisk.field "maxStake", risk.field "maxStake",
        risk.field "stopLossThreshold"]
      (.number 10000))
  minimumStake :=
    toNumber (firstDefined
      [customRisk.field "minimumStake",
        risk.field "minimumStake"]
      (.number 10))
  autoAcceptOddsChanges :=
    isTruthy (risk.field "autoAcceptOddsChanges")

/- The policy of an account with the given override. -/
def buildPolicyDocument
    (globalConfig accountOverrides : Json) :
    PolicyDocument where
  betCycleEnabled :=
    isNotFalse (accountOverrides.field "betCycleEnabled")
  pricingStrategy :=
    buildPricingStrategy
      (globalConfig.readSection "pricing")
      (accountOverrides.readSection "customPricing")
  pricingBehavior :=
    buildPricingBehavior (globalConfig.readSection "pricing")
  rebetStrategy :=
    buildRebetStrategy
      (globalConfig.readSection "rebet")
      (accountOverrides.readSection "customRebet")
  timeouts :=
    buildTimeouts (globalConfig.readSection "execution")
  pacing :=
    buildPacing (globalConfig.readSection "execution")
  riskPolicy :=
    buildRiskLimits
      (globalConfig.readSection "risk")
      (accountOverrides.readSection "customRisk")
  riskLimits :=
    buildRiskLimits
      (globalConfig.readSection "risk")
      (accountOverrides.readSection "customRisk")

end Sections

/- The policy of an account without an override. -/
def defaultPolicyDocument
    (globalConfig : Json) : PolicyDocument :=
  buildPolicyDocument globalConfig (.object [])

------------------------------------------------------------
-- The Stored Configuration
------------------------------------------------------------

structure AutomationConfigContainer where
  globalConfig : Json
  accountOverrides : OrderedMap String Json

/- The override of an account that has none stored. -/
def noOverride : Json :=
  .object
    [("betCycleEnabled", .boolean true),
      ("pricingSource", .text "GLOBAL"),
      ("riskSource", .text "GLOBAL"),
      ("rebetSource", .text "GLOBAL")]

def validCategories : List String :=
  ["pricing", "risk", "rebet", "proxy", "execution",
    "browserSpawning", "advancedRuntime"]

def Json.isObject : Json → Bool
| .object _ => true
| _ => false

namespace AutomationConfigContainer

variable (c : AutomationConfigContainer)

def getAccountOverride (accountId : String) : Json :=
  Json.firstTruthy [c.accountOverrides.get? accountId]
    noOverride

def updateAccountOverride
    (accountId : String)
    (updates : Json) : AutomationConfigContainer :=
  { c with
      accountOverrides :=
        c.accountOverrides.set accountId
          ((c.getAccountOverride accountId).spread updates) }

/- The category is known and stored, the values an object. -/
def acceptsCategory
    (category : String)
    (values : Json) : Bool :=
  decide (category ∈ validCategories) && values.isObject &&
    Json.isTruthy (c.globalConfig.field category)

def updateCategory
    (category : String)
    (values : Json) : AutomationConfigContainer :=
  { c with
      globalConfig :=
        c.globalConfig.spread
          (.object
            [(category,
              (c.globalConfig.readSection category).spread
                values)]) }

end AutomationConfigContainer

------------------------------------------------------------
-- Messages
------------------------------------------------------------

/- A policy message without a target has nobody to name. -/
inductive PolicyMessage where
| setBetCycle
    (targetBrowserId : String)
    (isEnabled : Bool)
| updatePolicy
    (target : String)
    (category : Option String)
    (values : PolicyDocument)
| resetPolicy (target : Option String)

/- An update that names nobody is for all. -/
def updatePolicy
    (category : Option String)
    (values : PolicyDocument)
    (accountId : String) : PolicyMessage :=
  .updatePolicy
    (if accountId = "" then "ALL" else accountId)
    category values

def resetPolicy (target : String) : PolicyMessage :=
  .resetPolicy (if target = "" then none else some target)

------------------------------------------------------------
-- Commands
------------------------------------------------------------

inductive PolicyCommand where
| toggleBetCycle
    (target : String)
    (enabled : Bool)
| updateAccountConfig
    (target : String)
    (category : Option String)
    (source values : Option Json)
| resetAccountConfig (target : String)
| updateGlobalConfig
    (category : String)
    (values : Json)

/- The text is "custom" in whatever case. -/
def isCustomText (text : String) : Bool :=
  decide (text.toList.map Char.toLower = "custom".toList)

mutual

/-
  The value reads as custom when it is written as a text. An
  array of one item is written as the item.
-/
def isCustomSource : Json → Bool
| .text value => isCustomText value
| .array items => isCustomItem items
| _ => false

def isCustomItem : List Json → Bool
| [item] => isCustomSource item
| _ => false

end

/- Without a source the values are custom. -/
def isCustomUpdate (source : Option Json) : Bool :=
  isCustomSource (Json.firstTruthy [source] (.text "custom"))

/- The values that an account update stores. -/
def updatedValues
    (source values : Option Json) : Json :=
  if isCustomUpdate source then values.getD .null
  else .null

def sourceValue (source : Option Json) : Json :=
  if isCustomUpdate source then .text "custom"
  else .text "global"

/- What an account update stores in the override. -/
def accountUpdates
    (category : Option String)
    (source values : Option Json) : Json :=
  match category with
  | none => .object []
  | some cat =>
      if cat = "pricing" ∨ cat = "Pricing" then
        .object
          [("pricingSource", sourceValue source),
            ("customPricing", updatedValues source values)]
      else if cat = "risk" ∨ cat = "Risk" then
        .object
          [("riskSource", sourceValue source),
            ("customRisk", updatedValues source values)]
      else if cat = "rebet" ∨ cat = "Rebet" then
        .object
          [("rebetSource", sourceValue source),
            ("customRebet", updatedValues source values)]
      else if cat = "" then
        .object []
      else
        .object [(cat, updatedValues source values)]

/- What a reset stores in the override. -/
def resetUpdates : Json :=
  .object
    [("pricingSource", .text "global"),
      ("customPricing", .null),
      ("riskSource", .text "global"),
      ("customRisk", .null),
      ("rebetSource", .text "global"),
      ("customRebet", .null)]

/- Some category of the override is read as custom. -/
def hasCustomOverrides (override : Json) : Bool :=
  (override.field "pricingSource").any isCustomSource ||
    (override.field "riskSource").any isCustomSource ||
    (override.field "rebetSource").any isCustomSource

/- The id and, when it is another one, the username. -/
def targetNames
    (accounts : List WorkspaceAccount)
    (target : String) : List String :=
  target ::
    ((accounts.find?
        (fun account => decide (account.id = target))).map
      WorkspaceAccount.accountUsername).toList.filter
        (fun name => decide (name ≠ "" ∧ name ≠ target))

/- The names that an account's policy is sent again under. -/
def reassertedNames (account : WorkspaceAccount) :
    List String :=
  (if account.accountUsername = "" then account.id
    else account.accountUsername) ::
    if account.id ≠ "" ∧ account.accountUsername ≠ "" ∧
        account.id ≠ account.accountUsername then
      [account.id]
    else
      []

/- The messages that a global update ends with. -/
def reassertions
    (c : AutomationConfigContainer)
    (accounts : List WorkspaceAccount) :
    List PolicyMessage :=
  (accounts.filter (fun account =>
      hasCustomOverrides
        (c.getAccountOverride account.id))).flatMap
    (fun account =>
      (reassertedNames account).map
        (updatePolicy none
          (buildPolicyDocument c.globalConfig
            (c.getAccountOverride account.id))))

/- The category an account update is sent with. -/
def sentCategory (category : Option String) : String :=
  presentOr category "Staking"

/- The stored configuration and the messages of a command. -/
def handlePolicyCommand
    (c : AutomationConfigContainer)
    (accounts : List WorkspaceAccount) :
    PolicyCommand →
      AutomationConfigContainer × List PolicyMessage
| .toggleBetCycle target enabled =>
    (c.updateAccountOverride target
        (.object [("betCycleEnabled", .boolean enabled)]),
      [.setBetCycle target enabled])
| .updateAccountConfig target category source values =>
    let updated :=
      c.updateAccountOverride target
        (accountUpdates category source values)
    let names := targetNames accounts target
    (updated,
      (if isCustomUpdate source then []
        else names.map resetPolicy) ++
        names.map
          (updatePolicy (some (sentCategory category))
            (buildPolicyDocument updated.globalConfig
              (updated.getAccountOverride target))))
| .resetAccountConfig target =>
    (c.updateAccountOverride target resetUpdates,
      (targetNames accounts target).map resetPolicy)
| .updateGlobalConfig category values =>
    if c.acceptsCategory category values then
      let updated := c.updateCategory category values
      (updated,
        updatePolicy (some category)
            (defaultPolicyDocument updated.globalConfig) "" ::
          reassertions updated accounts)
    else
      (c, [])

------------------------------------------------------------
-- Policies Of Overrides
------------------------------------------------------------

/-
  The override leaves the account with the policy that it
  would have without one.
-/
structure Inherits (override : Json) : Prop where
  enabled :
    Json.isNotFalse (override.field "betCycleEnabled") = true
  pricing :
    Json.isTruthy (override.field "customPricing") = false
  risk : Json.isTruthy (override.field "customRisk") = false
  rebet : Json.isTruthy (override.field "customRebet") = false

instance (override : Json) : Decidable (Inherits override) :=
  decidable_of_iff
    (Json.isNotFalse
        (override.field "betCycleEnabled") = true ∧
      Json.isTruthy
        (override.field "customPricing") = false ∧
      Json.isTruthy (override.field "customRisk") = false ∧
      Json.isTruthy (override.field "customRebet") = false)
    ⟨fun h => ⟨h.1, h.2.1, h.2.2.1, h.2.2.2⟩,
      fun h => ⟨h.enabled, h.pricing, h.risk, h.rebet⟩⟩

/- All that a policy takes from the override. -/
theorem buildPolicyDocument_congr
    (globalConfig : Json)
    {override other : Json}
    (hEnabled :
      Json.isNotFalse (override.field "betCycleEnabled") =
        Json.isNotFalse (other.field "betCycleEnabled"))
    (hPricing :
      override.readSection "customPricing" =
        other.readSection "customPricing")
    (hRisk :
      override.readSection "customRisk" =
        other.readSection "customRisk")
    (hRebet :
      override.readSection "customRebet" =
        other.readSection "customRebet") :
    buildPolicyDocument globalConfig override =
      buildPolicyDocument globalConfig other := by
  simp only [buildPolicyDocument, hEnabled, hPricing, hRisk,
    hRebet]

theorem Inherits.buildPolicyDocument_eq
    {override : Json}
    (hInherits : Inherits override)
    (globalConfig : Json) :
    buildPolicyDocument globalConfig override =
      defaultPolicyDocument globalConfig := by
  apply buildPolicyDocument_congr
  · exact hInherits.enabled
  · exact Json.readSection_of_not_truthy hInherits.pricing
  · exact Json.readSection_of_not_truthy hInherits.risk
  · exact Json.readSection_of_not_truthy hInherits.rebet

/- Switching the bet cycle changes nothing but its gate. -/
theorem buildPolicyDocument_toggle
    (globalConfig override : Json)
    (enabled : Bool) :
    buildPolicyDocument globalConfig
        (override.spread
          (.object [("betCycleEnabled", .boolean enabled)])) =
      { buildPolicyDocument globalConfig override with
          betCycleEnabled := enabled } := by
  have hOther :
      ∀ name, name ≠ "betCycleEnabled" →
        (override.spread
          (.object
            [("betCycleEnabled", .boolean enabled)])).field
            name =
          override.field name := by
    intro name hName
    apply Json.field_spread_of_none
    simp [Json.field_object_cons, hName]
  have hGate :
      (override.spread
        (.object
          [("betCycleEnabled", .boolean enabled)])).field
          "betCycleEnabled" =
        some (.boolean enabled) := by
    simp [Json.field_spread, Json.field_object_cons]
  have hPricing :=
    Json.readSection_congr (hOther "customPricing" (by simp))
  have hRisk :=
    Json.readSection_congr (hOther "customRisk" (by simp))
  have hRebet :=
    Json.readSection_congr (hOther "customRebet" (by simp))
  simp only [buildPolicyDocument, hGate, hPricing, hRisk,
    hRebet, Json.isNotFalse]

/- After a reset only the bet cycle can be the account's own. -/
theorem inherits_reset
    {override : Json}
    (hEnabled :
      Json.isNotFalse
        (override.field "betCycleEnabled") = true) :
    Inherits (override.spread resetUpdates) := by
  have hGate :
      (override.spread resetUpdates).field
          "betCycleEnabled" =
        override.field "betCycleEnabled" := by
    apply Json.field_spread_of_none
    simp [resetUpdates, Json.field_object_cons]
  have hCustom :
      ∀ name ∈ ["customPricing", "customRisk",
          "customRebet"],
        Json.isTruthy
          ((override.spread resetUpdates).field name) =
            false := by
    intro name hName
    rw [Json.field_spread]
    simp only [List.mem_cons, List.not_mem_nil,
      or_false] at hName
    rcases hName with rfl | rfl | rfl <;>
      simp [resetUpdates, Json.field_object_cons,
        Json.isTruthy, Json.truthy]
  exact
    { enabled := by rw [hGate]; exact hEnabled
      pricing := hCustom "customPricing" (by simp)
      risk := hCustom "customRisk" (by simp)
      rebet := hCustom "customRebet" (by simp) }

namespace AutomationConfigContainer

/- Reading an override after an update. -/
theorem getAccountOverride_updateAccountOverride
    (c : AutomationConfigContainer)
    (accountId id : String)
    (updates : Json) :
    (c.updateAccountOverride accountId updates
        ).getAccountOverride id =
      if id = accountId then
        (c.getAccountOverride accountId).spread updates
      else
        c.getAccountOverride id := by
  unfold updateAccountOverride getAccountOverride
  dsimp only
  rw [OrderedMap.get?_set]
  by_cases hId : id = accountId
  · simp [hId, Json.firstTruthy, Json.spread, Json.truthy]
  · simp [hId]

end AutomationConfigContainer

end ControlPlane
