import ControlPlane.System.PolicySync

/-
  The policies of the initialization payload.

  The policies of a fleet are written into one dictionary,
  each under the username and then under the id of its
  account, so an account whose name another one carries as
  well reads the policy that was written last. A document
  takes the custom values of an override whatever the
  source of their section is.

  Numbers are read by a conversion that is a parameter here,
  since two documents are alike when their numbers are.

  Main declarations:
    * `InitializationPayload` and `lastWriter`
    * `PolicyDocument.sent`
    * `get?_accountPolicies`
    * `KeepsCustom` and `sent_without_iff`
    * `initial_policies_iff`
-/

------------------------------------------------------------
-- The Dictionary Of Policies
------------------------------------------------------------

namespace ControlPlane

/- The stored policy of an account. -/
def AutomationConfigContainer.policyOf
    (c : AutomationConfigContainer)
    (accountId : String) : PolicyDocument :=
  buildPolicyDocument c.globalConfig
    (c.getAccountOverride accountId)

/- The compiled fleet with its policies. -/
structure InitializationPayload where
  accounts : List CompiledAccount
  defaultPolicy : PolicyDocument
  accountPolicies : OrderedMap String PolicyDocument

def Workspace.compilePayload
    (w : Workspace)
    (details : String → AccountDetails)
    (c : AutomationConfigContainer)
    (targetAccountIds : List String) :
    Except StartError InitializationPayload :=
  (w.buildInitializationPayload details
      targetAccountIds).map
    (fun fleet =>
      { accounts := fleet
        defaultPolicy := defaultPolicyDocument c.globalConfig
        accountPolicies :=
          ControlPlane.accountPolicies c
            (w.selectedAccounts targetAccountIds) })

/- The policy of the account is written under the name. -/
def WorkspaceAccount.writes
    (account : WorkspaceAccount)
    (name : String) : Bool :=
  decide (account.accountUsername = name ∨
    account.id = name ∧ name ≠ "")

/- The last account of a fleet that writes a name. -/
def lastWriter
    (accounts : List WorkspaceAccount)
    (name : String) : Option WorkspaceAccount :=
  accounts.reverse.find?
    (fun account => account.writes name)

/- An account writes its policy under its names. -/
theorem setAccountPolicy_get?
    (c : AutomationConfigContainer)
    (policies : OrderedMap String PolicyDocument)
    (account : WorkspaceAccount)
    (name : String) :
    (setAccountPolicy c policies account).get? name =
      if account.writes name then
        some (c.policyOf account.id)
      else policies.get? name := by
  unfold setAccountPolicy WorkspaceAccount.writes
  change
    (if account.id = "" then
        policies.set account.accountUsername
          (c.policyOf account.id)
      else
        (policies.set account.accountUsername
          (c.policyOf account.id)).set account.id
            (c.policyOf account.id)).get? name = _
  by_cases hId : account.id = ""
  · rw [if_pos hId, OrderedMap.get?_set, hId]
    by_cases hName : name = account.accountUsername
    · simp [hName]
    · simp [hName, Ne.symm hName, eq_comm]
  · rw [if_neg hId, OrderedMap.get?_set,
      OrderedMap.get?_set]
    by_cases hOwn : name = account.id
    · simp [hOwn, hId]
    · by_cases hName : name = account.accountUsername
      · simp [hName]
      · simp [hOwn, hName, Ne.symm hOwn, Ne.symm hName]

/- A name reads the policy of its last writer. -/
theorem get?_accountPolicies
    (c : AutomationConfigContainer)
    (accounts : List WorkspaceAccount)
    (name : String) :
    (accountPolicies c accounts).get? name =
      (lastWriter accounts name).map
        (fun account => c.policyOf account.id) := by
  have hGeneral :
      ∀ policies,
        (accounts.foldl (setAccountPolicy c)
          policies).get? name =
          ((lastWriter accounts name).map
            (fun account => c.policyOf account.id)).or
              (policies.get? name) := by
    induction accounts with
    | nil =>
        intro policies
        rfl
    | cons account accounts ih =>
        intro policies
        rw [List.foldl_cons, ih, setAccountPolicy_get?]
        unfold lastWriter
        rw [List.reverse_cons, List.find?_append]
        cases hLater :
            accounts.reverse.find?
              (fun account => account.writes name) with
        | some later => simp
        | none =>
            cases hWrites : account.writes name with
            | true => simp [hWrites]
            | false => simp [hWrites]
  unfold accountPolicies
  rw [hGeneral]
  exact Option.or_none

end ControlPlane

------------------------------------------------------------
-- Documents As They Are Sent
------------------------------------------------------------

namespace ControlPlane

variable {ν : Type}

/- The numbers, texts and flags of a document. -/
def PolicyDocument.sent
    (number : Json → ν)
    (policy : PolicyDocument) :
    List ν × List Json × List Bool :=
  ([policy.pricingStrategy.baseStake,
      policy.pricingStrategy.targetProfit,
      policy.pricingStrategy.minimumAcceptableProfit,
      policy.pricingBehavior.platformIncrement,
      policy.rebetStrategy.maxRebetAttempts,
      policy.rebetStrategy.rebetStakeIncrement,
      policy.timeouts.resultTimeoutMs,
      policy.timeouts.navigationTimeoutMs,
      policy.timeouts.loginTimeoutMs,
      policy.timeouts.decisionFreshnessTTLMs,
      policy.timeouts.reconciliationTimeoutMs,
      policy.pacing.keyboardTypingDelayMs,
      policy.riskPolicy.maxStake,
      policy.riskPolicy.minimumStake,
      policy.riskLimits.maxStake,
      policy.riskLimits.minimumStake].map
        (fun numeral => number numeral.source),
    [policy.pricingStrategy.mode,
      policy.pricingStrategy.resolutionStrategy,
      policy.pricingBehavior.selectionPreference,
      policy.pacing.pacingStrategy],
    [policy.betCycleEnabled,
      policy.pricingBehavior.restorePolicyOnRebet,
      policy.riskPolicy.autoAcceptOddsChanges,
      policy.riskLimits.autoAcceptOddsChanges])

/- The sections of an override that have a source. -/
inductive PolicySection where
| pricing | risk | rebet
deriving DecidableEq, Repr

namespace PolicySection

def sourceKey : PolicySection → String
| .pricing => "pricingSource"
| .risk => "riskSource"
| .rebet => "rebetSource"

def customKey : PolicySection → String
| .pricing => "customPricing"
| .risk => "customRisk"
| .rebet => "customRebet"

end PolicySection

/- The source of a section is absent or global. -/
def isGlobalSource : Option Json → Bool
| some (.text value) =>
    decide (value = "" ∨
      value.toList.map Char.toLower = "global".toList)
| some .null => true
| none => true
| _ => false

namespace Json

/- The object without one of its members. -/
def without
    (value : Json)
    (name : String) : Json :=
  .object
    (value.fields.filter
      (fun entry => decide (entry.1 ≠ name)))

theorem field_without
    (value : Json)
    (name other : String) :
    (value.without name).field other =
      if other = name then none else value.field other := by
  unfold without field
  change
    (value.fields.filter _).lookup other = _
  induction value.fields with
  | nil => simp
  | cons entry members ih =>
      rcases entry with ⟨key, member⟩
      by_cases hKey : key = name
      · rw [List.filter_cons_of_neg (by simp [hKey]), ih,
          List.lookup_cons, hKey]
        by_cases hName : other = name
        · rw [if_pos hName, if_pos hName]
        · rw [if_neg hName, if_neg hName,
            beq_eq_false_iff_ne.mpr hName]
      · rw [List.filter_cons_of_pos (by simp [hKey]),
          List.lookup_cons, List.lookup_cons, ih]
        by_cases hOther : other = key
        · have hName : other ≠ name :=
            fun hSame => hKey (hOther.symm.trans hSame)
          simp [hOther, hKey]
        · rw [beq_eq_false_iff_ne.mpr hOther]

/- A value is neither undefined nor null. -/
def isDefined (value : Option Json) : Bool :=
  value.any (fun json => !json.isNull)

theorem firstTruthy_cons
    (value : Option Json)
    (alternatives : List (Option Json))
    (fallback : Json) :
    firstTruthy (value :: alternatives) fallback =
      if isTruthy value then value.getD .null
      else firstTruthy alternatives fallback := by
  unfold firstTruthy isTruthy
  cases value with
  | none => rfl
  | some json =>
      cases hTruthy : json.truthy with
      | true => simp [hTruthy]
      | false => simp [hTruthy]

theorem firstDefined_cons
    (value : Option Json)
    (alternatives : List (Option Json))
    (fallback : Json) :
    firstDefined (value :: alternatives) fallback =
      if isDefined value then value.getD .null
      else firstDefined alternatives fallback := by
  unfold firstDefined isDefined
  cases value with
  | none => rfl
  | some json =>
      cases hNull : json.isNull with
      | true => simp [hNull]
      | false => simp [hNull]

theorem readSection_without
    (value : Json)
    (name other : String) :
    (value.without name).readSection other =
      if other = name then .object []
      else value.readSection other := by
  by_cases hName : other = name
  · rw [if_pos hName]
    apply readSection_of_not_truthy
    rw [field_without, if_pos hName]
    rfl
  · rw [if_neg hName]
    apply readSection_congr
    rw [field_without, if_neg hName]

end Json

------------------------------------------------------------
-- Stale Custom Values
------------------------------------------------------------

open Json

/- A custom text is empty or the one that is used anyway. -/
def KeepsText
    (custom base : Json)
    (name : String)
    (fallback : Json) : Prop :=
  isTruthy (custom.field name) = true →
    (custom.field name).getD .null =
      firstTruthy [base.field name] fallback

/- A custom number is unset or the one that is used anyway. -/
def KeepsNumber
    (number : Json → ν)
    (custom : Json)
    (name : String)
    (alternatives : List (Option Json))
    (fallback : Json) : Prop :=
  isDefined (custom.field name) = true →
    number ((custom.field name).getD .null) =
      number (firstDefined alternatives fallback)

/- The custom values of a section that change nothing. -/
def KeepsCustom
    (number : Json → ν)
    (globalConfig override : Json) : PolicySection → Prop
| .pricing =>
    let custom := override.readSection "customPricing"
    let pricing := globalConfig.readSection "pricing"
    (KeepsNumber number custom "baseStake"
        [pricing.field "baseStake"] (.number 100) ∧
      KeepsNumber number custom "targetProfit"
        [pricing.field "targetProfit"] (.number 30) ∧
      KeepsNumber number custom "minimumAcceptableProfit"
        [pricing.field "minimumAcceptableProfit"]
        (.number 0)) ∧
      KeepsText custom pricing "mode"
        (.text "PROFIT_TARGET") ∧
      KeepsText custom pricing "resolutionStrategy"
        (.text "CLAMP_THEN_REDUCE_PROFIT")
| .risk =>
    let custom := override.readSection "customRisk"
    let risk := globalConfig.readSection "risk"
    KeepsNumber number custom "maxStake"
        [risk.field "maxStake",
          risk.field "stopLossThreshold"]
        (.number 10000) ∧
      KeepsNumber number custom "minimumStake"
        [risk.field "minimumStake"] (.number 10)
| .rebet =>
    let custom := override.readSection "customRebet"
    let rebet := globalConfig.readSection "rebet"
    KeepsNumber number custom "maxRebetAttempts"
        [rebet.field "maxRebetAttempts"] (.number 1) ∧
      KeepsNumber number custom "rebetStakeIncrement"
        [rebet.field "rebetStakeIncrement"] (.number 10)

theorem keepsText_iff
    (custom base : Json)
    (name : String)
    (fallback : Json) :
    firstTruthy [custom.field name, base.field name]
          fallback =
        firstTruthy [none, base.field name] fallback ↔
      KeepsText custom base name fallback := by
  unfold KeepsText
  rw [firstTruthy_cons, firstTruthy_cons none]
  cases isTruthy (custom.field name) with
  | true => simp [isTruthy]
  | false => simp [isTruthy]

theorem keepsNumber_iff
    (number : Json → ν)
    (custom : Json)
    (name : String)
    (alternatives : List (Option Json))
    (fallback : Json) :
    number (firstDefined
          (custom.field name :: alternatives) fallback) =
        number (firstDefined (none :: alternatives)
          fallback) ↔
      KeepsNumber number custom name alternatives
        fallback := by
  unfold KeepsNumber
  rw [firstDefined_cons, firstDefined_cons none]
  cases isDefined (custom.field name) with
  | true => simp [isDefined]
  | false => simp [isDefined]

/-
  A document is sent as it would be without the custom
  values of a section exactly when these change nothing.
-/
theorem sent_without_iff
    (number : Json → ν)
    (globalConfig override : Json)
    (part : PolicySection) :
    (buildPolicyDocument globalConfig override).sent number =
        (buildPolicyDocument globalConfig
          (override.without part.customKey)).sent number ↔
      KeepsCustom number globalConfig override part := by
  cases part with
  | pricing =>
      simp only [PolicyDocument.sent, buildPolicyDocument,
        PolicySection.customKey, readSection_without,
        field_without, KeepsCustom, ← keepsNumber_iff,
        ← keepsText_iff, buildPricingStrategy, toNumber,
        field_object_nil, List.map_cons, Prod.mk.injEq,
        List.cons.injEq, and_true, reduceIte,
        String.reduceEq]
  | risk =>
      simp only [PolicyDocument.sent, buildPolicyDocument,
        PolicySection.customKey, readSection_without,
        field_without, KeepsCustom, ← keepsNumber_iff,
        buildRiskLimits, toNumber, field_object_nil,
        List.map_cons, Prod.mk.injEq, List.cons.injEq,
        and_true, true_and, reduceIte, String.reduceEq]
      tauto
  | rebet =>
      simp only [PolicyDocument.sent, buildPolicyDocument,
        PolicySection.customKey, readSection_without,
        field_without, KeepsCustom, ← keepsNumber_iff,
        buildRebetStrategy, toNumber, field_object_nil,
        List.map_cons, Prod.mk.injEq, List.cons.injEq,
        and_true, true_and, reduceIte, String.reduceEq]

------------------------------------------------------------
-- The Initialization Payload
------------------------------------------------------------

/- What a fleet shows of its accounts by id and username. -/
theorem forall_mem_fleetOf_iff
    {P : String → String → Prop}
    (details : String → AccountDetails)
    (role : FleetRole)
    (accounts : List WorkspaceAccount) :
    (∀ compiled ∈ fleetOf details role accounts,
        P compiled.id compiled.username) ↔
      ∀ account ∈ accounts,
        P account.id account.accountUsername := by
  induction accounts generalizing role with
  | nil => simp [fleetOf]
  | cons account accounts ih =>
      unfold fleetOf
      rw [List.forall_mem_cons, List.forall_mem_cons, ih]
      exact Iff.rfl

/-
  An account reads its own policy under its id and its
  username, whatever is stored under a global source.
-/
def OwnPolicy
    (number : Json → ν)
    (c : AutomationConfigContainer)
    (policies : OrderedMap String PolicyDocument)
    (id username : String) : Prop :=
  (∀ name ∈ [id, username],
    (policies.get? name).map (PolicyDocument.sent number) =
      some ((c.policyOf id).sent number)) ∧
    ∀ part : PolicySection,
      isGlobalSource
          ((c.getAccountOverride id).field
            part.sourceKey) = true →
        (c.policyOf id).sent number =
          (buildPolicyDocument c.globalConfig
            ((c.getAccountOverride id).without
              part.customKey)).sent number

/-
  The last account that writes one of the names has the same
  policy, and no global section has custom values that count.
-/
def PolicyUnshared
    (number : Json → ν)
    (c : AutomationConfigContainer)
    (accounts : List WorkspaceAccount)
    (id username : String) : Prop :=
  (∀ name ∈ [id, username],
    ∃ last,
      lastWriter accounts name = some last ∧
        (c.policyOf last.id).sent number =
          (c.policyOf id).sent number) ∧
    ∀ part : PolicySection,
      isGlobalSource
          ((c.getAccountOverride id).field
            part.sourceKey) = true →
        KeepsCustom number c.globalConfig
          (c.getAccountOverride id) part

theorem ownPolicy_iff
    (number : Json → ν)
    (c : AutomationConfigContainer)
    (accounts : List WorkspaceAccount)
    (id username : String) :
    OwnPolicy number c (accountPolicies c accounts) id
        username ↔
      PolicyUnshared number c accounts id username := by
  unfold OwnPolicy PolicyUnshared
  apply and_congr
  · apply forall_congr'
    intro name
    apply imp_congr_right
    intro _
    rw [get?_accountPolicies, Option.map_map,
      Option.map_eq_some_iff]
    exact Iff.rfl
  · apply forall_congr'
    intro part
    apply imp_congr_right
    intro _
    exact sent_without_iff number c.globalConfig
      (c.getAccountOverride id) part

/-
  Every compiled account has its own policy in the payload
  exactly when the fleet keeps its names apart and stores no
  stale values that count.
-/
theorem initial_policies_iff
    (number : Json → ν)
    (w : Workspace)
    (details : String → AccountDetails)
    (c : AutomationConfigContainer)
    (targetAccountIds : List String)
    (payload : InitializationPayload)
    (hPayload :
      w.compilePayload details c targetAccountIds =
        .ok payload) :
    (∀ account ∈ payload.accounts,
        OwnPolicy number c payload.accountPolicies
          account.id account.username) ↔
      ∀ account ∈ w.selectedAccounts targetAccountIds,
        PolicyUnshared number c
          (w.selectedAccounts targetAccountIds)
          account.id account.accountUsername := by
  unfold Workspace.compilePayload
    Workspace.buildInitializationPayload at hPayload
  split at hPayload
  · cases hPayload
  · cases hFleet :
        compileFleet details .master
          (w.selectedAccounts targetAccountIds) with
    | error error =>
        rw [hFleet] at hPayload
        cases hPayload
    | ok fleet =>
        rw [hFleet] at hPayload
        have hAccounts :=
          ((compileFleet_ok_iff details .master _ fleet).mp
            hFleet).2
        rw [← Except.ok.inj hPayload, hAccounts]
        rw [forall_mem_fleetOf_iff
          (P := OwnPolicy number c
            (accountPolicies c
              (w.selectedAccounts targetAccountIds)))]
        apply forall_congr'
        intro account
        apply imp_congr_right
        intro _
        exact ownPolicy_iff number c _ _ _

/- An account of a fleet that is not suspended. -/
def activeAccount
    (id accountUsername : String) : WorkspaceAccount where
  id := id
  accountUsername := accountUsername
  suspended := false

/- The first account is on another platform than the rest. -/
def fleetDetails (id : String) : AccountDetails where
  platformId :=
    some (if id = "acc-1" then "sportybet" else "betway")
  password := "pw"

/- An override with a stake and the source of its section. -/
def stakeOverride (source : String) : Json :=
  .object
    [("pricingSource", .text source),
      ("customPricing",
        .object [("baseStake", .number 500)])]

/- The second account has the given override. -/
def stakeConfig (source : String) :
    AutomationConfigContainer where
  globalConfig := .object []
  accountOverrides :=
    OrderedMap.empty.set "acc-2" (stakeOverride source)

/- Two accounts with the given usernames. -/
def pairOf (first second : String) : Workspace :=
  Workspace.fresh
    [activeAccount "acc-1" first,
      activeAccount "acc-2" second]

def pairPayload
    (first second source : String) :
    InitializationPayload where
  accounts :=
    fleetOf fleetDetails .master
      (pairOf first second).accounts
  defaultPolicy :=
    defaultPolicyDocument (stakeConfig source).globalConfig
  accountPolicies :=
    accountPolicies (stakeConfig source)
      (pairOf first second).accounts

theorem compilePayload_pairOf
    (first second source : String) :
    (pairOf first second).compilePayload fleetDetails
        (stakeConfig source) ["acc-1", "acc-2"] =
      .ok (pairPayload first second source) := by
  have hFleet :
      compileFleet fleetDetails .master
          (pairOf first second).accounts =
        .ok (fleetOf fleetDetails .master
          (pairOf first second).accounts) := by
    apply (compileFleet_ok_iff fleetDetails .master _
      _).mpr
    refine ⟨?_, rfl⟩
    intro account _
    change isBlank "pw" = false
    decide
  have hSelected :
      (pairOf first second).selectedAccounts
          ["acc-1", "acc-2"] =
        (pairOf first second).accounts := by
    rfl
  unfold Workspace.compilePayload
    Workspace.buildInitializationPayload
  rw [hSelected, if_neg (by simp [pairOf, Workspace.fresh]),
    hFleet]
  rfl

/-
  Two accounts of one username on two platforms: the first
  reads the policy of the second. A stake under a global
  source counts as well.
-/
theorem twins_share_policy :
    ((pairOf "sam" "sam").compilePayload fleetDetails
          (stakeConfig "custom") ["acc-1", "acc-2"] =
        .ok (pairPayload "sam" "sam" "custom") ∧
      ¬ ∀ account ∈
          (pairPayload "sam" "sam" "custom").accounts,
        OwnPolicy id (stakeConfig "custom")
          (pairPayload "sam" "sam" "custom").accountPolicies
          account.id account.username) ∧
    ((pairOf "sam" "kim").compilePayload fleetDetails
          (stakeConfig "global") ["acc-1", "acc-2"] =
        .ok (pairPayload "sam" "kim" "global") ∧
      ¬ ∀ account ∈
          (pairPayload "sam" "kim" "global").accounts,
        OwnPolicy id (stakeConfig "global")
          (pairPayload "sam" "kim" "global").accountPolicies
          account.id account.username) := by
  refine ⟨⟨compilePayload_pairOf _ _ _, ?_⟩,
    ⟨compilePayload_pairOf _ _ _, ?_⟩⟩
  · intro hAll
    have hFirst := (hAll _ List.mem_cons_self).1 "sam"
      (by decide)
    exact absurd hFirst (by decide +kernel)
  · intro hAll
    have hSecond :=
      (hAll _ (List.mem_cons_of_mem _
        List.mem_cons_self)).2 .pricing (by decide +kernel)
    exact absurd hSecond (by decide +kernel)

/- A section without custom values changes nothing. -/
theorem keepsCustom_of_unset
    (number : Json → ν)
    (globalConfig override : Json)
    (part : PolicySection)
    (hUnset :
      override.readSection part.customKey = .object []) :
    KeepsCustom number globalConfig override part := by
  cases part with
  | pricing =>
      simp only [PolicySection.customKey] at hUnset
      simp [KeepsCustom, KeepsNumber, KeepsText, hUnset,
        isDefined, isTruthy]
  | risk =>
      simp only [PolicySection.customKey] at hUnset
      simp [KeepsCustom, KeepsNumber, hUnset, isDefined]
  | rebet =>
      simp only [PolicySection.customKey] at hUnset
      simp [KeepsCustom, KeepsNumber, hUnset, isDefined]

/- Accounts of different names read their own policies. -/
theorem pair_reads_own_policies :
    (pairOf "sam" "kim").compilePayload fleetDetails
          (stakeConfig "custom") ["acc-1", "acc-2"] =
        .ok (pairPayload "sam" "kim" "custom") ∧
      ∀ account ∈
          (pairPayload "sam" "kim" "custom").accounts,
        OwnPolicy id (stakeConfig "custom")
          (pairPayload "sam" "kim" "custom").accountPolicies
          account.id account.username := by
  have hPayload :=
    compilePayload_pairOf "sam" "kim" "custom"
  refine ⟨hPayload,
    (initial_policies_iff id _ _ _ _ _ hPayload).mpr ?_⟩
  have hSelected :
      (pairOf "sam" "kim").selectedAccounts
          ["acc-1", "acc-2"] =
        [activeAccount "acc-1" "sam",
          activeAccount "acc-2" "kim"] := by
    rfl
  rw [hSelected]
  intro account hAccount
  rcases List.mem_cons.mp hAccount with rfl | hLast
  · refine ⟨?_, ?_⟩
    · intro name hName
      refine ⟨activeAccount "acc-1" "sam", ?_, rfl⟩
      revert name
      decide
    · intro part _
      apply keepsCustom_of_unset
      cases part <;> decide +kernel
  · cases List.mem_singleton.mp hLast
    refine ⟨?_, ?_⟩
    · intro name hName
      refine ⟨activeAccount "acc-2" "kim", ?_, rfl⟩
      revert name
      decide
    · intro part hSource
      cases part with
      | pricing => exact absurd hSource (by decide +kernel)
      | risk =>
          apply keepsCustom_of_unset
          decide +kernel
      | rebet =>
          apply keepsCustom_of_unset
          decide +kernel

end ControlPlane
