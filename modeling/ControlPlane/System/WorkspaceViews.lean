import ControlPlane.Store.Hydration
import ControlPlane.System.Workspace

/-
  The lists of automation accounts that clients are shown.

  The aggregator maps the first page of the accounts, the
  projection of the workspace all of them, and the prelude
  what the aggregator has found, or else every active account
  of the store. They read balances and bet cycles in ways of
  their own.

  Main declarations:
    * `AutomationInputs.getSnapshot`
    * `AutomationInputs.projectWorkspace`
    * `AutomationInputs.projectPrelude`
    * `AutomationInputs.Agree` and `Coincides`
    * `AutomationInputs.agree_iff`
-/

------------------------------------------------------------
-- Inputs
------------------------------------------------------------

namespace ControlPlane

/-
  What the projections read: the accounts, each under its own
  id, the overrides, and the state of the automation.
-/
structure AutomationInputs where
  accounts : AccountsContainer
  keyed : Store.StateStore.WellKeyed accounts
  config : Store.ConfigContainer
  maxAccountsToSpawn : Nat
  lifecycle : String
  stagedAccountIds : List String
  activeAccountIds : List String
  hasInitializedStaging : Bool

/- An account of a list, with what the lists tell of it. -/
structure AutomationAccount where
  id : String
  name : Option String
  platformDisplayName : Option String
  accountUsername : String
  status : Option String := none
  backendState : Option String := none
  browserActive : Bool := false
  desiredState : Option String := none
  observedState : Option String := none
  executionStatusReason : Option String := none
  betCycleEnabled : Json
  pricingSource : Json
  riskSource : Json
  rebetSource : Json
  currentBalance : Rat
  currencySymbol : String
  canActivate : Bool
deriving DecidableEq

/- What the lists have to agree on. -/
structure SharedFields where
  betCycleEnabled : Json
  pricingSource : Json
  riskSource : Json
  rebetSource : Json
  currentBalance : Rat
deriving DecidableEq

def AutomationAccount.shared
    (account : AutomationAccount) : SharedFields where
  betCycleEnabled := account.betCycleEnabled
  pricingSource := account.pricingSource
  riskSource := account.riskSource
  rebetSource := account.rebetSource
  currentBalance := account.currentBalance

namespace AccountOverride

def field
    (override : AccountOverride)
    (name : String) : Option Json :=
  override.members.lookup name

/- A source of the override, or the global one. -/
def source
    (override : AccountOverride)
    (name : String) : Json :=
  Json.firstTruthy [override.field name] (.text "GLOBAL")

end AccountOverride

namespace AccountRecord

def isSuspended (account : AccountRecord) : Bool :=
  decide (account.backendState = some "SUSPENDED")

def isActive (account : AccountRecord) : Bool :=
  decide (account.backendState = some "ACTIVE")

def inWorkspace (account : AccountRecord) : WorkspaceAccount where
  id := account.id
  accountUsername := account.accountUsername
  suspended := account.isSuspended

/- An account of a view, with the balance shown for it. -/
def exported
    (account : AccountRecord)
    (balance : AccountBalance) : AccountRecord :=
  { account.sanitize with
      accountPassword := some protectedPassword
      currentBalance := some balance.balance
      currencySymbol := some balance.currencySymbol }

/- The balance that the aggregator shows. -/
def aggregatedBalance (account : AccountRecord) : Rat :=
  ((account.lastKnownBalance.filter
    (fun balance => decide (balance ≠ 0))).or
      account.currentBalance).getD 0

end AccountRecord

/- A number of the configuration, unless it is zero. -/
def numberOr (value fallback : Nat) : Nat :=
  if value = 0 then fallback else value

namespace AutomationInputs

def getAll (w : AutomationInputs) : List AccountRecord :=
  w.accounts.accounts.values

------------------------------------------------------------
-- The Aggregator
------------------------------------------------------------

/- The staging over the accounts of the store. -/
def workspace (w : AutomationInputs) : Workspace where
  accounts := w.getAll.map AccountRecord.inWorkspace
  stagedAccountIds := w.stagedAccountIds
  activeAccountIds := w.activeAccountIds
  hasInitializedStaging := w.hasInitializedStaging

/- A snapshot stages accounts if staging was never touched. -/
def staged (w : AutomationInputs) : AutomationInputs :=
  let seeded :=
    w.workspace.seeded (numberOr w.maxAccountsToSpawn 2)
  { w with
      stagedAccountIds := seeded.stagedAccountIds
      hasInitializedStaging := seeded.hasInitializedStaging }

/- The first page of the accounts. -/
def viewportAccounts
    (w : AutomationInputs) : List AccountRecord :=
  (w.getAll.take 50).map
    (fun account =>
      account.exported (w.accounts.getBalance account.id))

/- The account is staged and not suspended. -/
def selects
    (w : AutomationInputs)
    (account : AccountRecord) : Bool :=
  !account.isSuspended &&
    decide (account.id ∈ w.stagedAccountIds)

/- The account as the aggregator maps it. -/
def aggregatorAccount
    (w : AutomationInputs)
    (account : AccountRecord) : AutomationAccount :=
  let overrides := w.config.getAccountOverride account.id
  let isBrowserActive :=
    decide (account.id ∈ w.activeAccountIds)
  let idle :=
    decide (w.lifecycle = "STOPPED") && !isBrowserActive
  let fallback :=
    if isBrowserActive then "RUNNING" else "STOPPED"
  { id := account.id
    name := account.name
    platformDisplayName := account.platformDisplayName
    accountUsername := account.accountUsername
    browserActive := isBrowserActive
    desiredState :=
      some (if idle then "STOPPED"
        else presentOr account.desiredState fallback)
    observedState :=
      some (if idle then "STOPPED"
        else presentOr account.observedState fallback)
    executionStatusReason :=
      account.executionStatusReason.filter (fun r => r ≠ "")
    betCycleEnabled :=
      Json.firstDefined [overrides.field "betCycleEnabled"]
        (.boolean true)
    pricingSource := overrides.source "pricingSource"
    riskSource := overrides.source "riskSource"
    rebetSource := overrides.source "rebetSource"
    currentBalance := account.aggregatedBalance
    currencySymbol := presentOr account.currencySymbol "₦"
    canActivate :=
      !isBrowserActive &&
        decide (w.activeAccountIds.length <
          numberOr w.maxAccountsToSpawn 2) }

/- `workspaceAggregator.getSnapshot`, up to its accounts. -/
def getSnapshot
    (w : AutomationInputs) :
    AutomationInputs × List AutomationAccount :=
  (w.staged,
    (w.staged.viewportAccounts.filter w.staged.selects).map
      w.staged.aggregatorAccount)

------------------------------------------------------------
-- The Projection Of The Workspace
------------------------------------------------------------

/- What a route tells the projection. -/
structure WorkspaceRuntime where
  stagedAccountIds : Option (List String)
  activeAccountIds : Option (List String)
  activeBrowsers : Nat

/- The account as `WorkspaceSnapshotProjection` maps it. -/
def workspaceAccount
    (w : AutomationInputs)
    (runtimeState : WorkspaceRuntime)
    (account : AccountRecord) : AutomationAccount :=
  let overrides := w.config.getAccountOverride account.id
  let isBrowserActive :=
    runtimeState.activeAccountIds.any
      (fun ids => decide (account.id ∈ ids))
  let balance := w.accounts.getBalance account.id
  let fallback :=
    if isBrowserActive then "RUNNING" else "STOPPED"
  { id := account.id
    name := account.name
    platformDisplayName := account.platformDisplayName
    accountUsername := account.accountUsername
    browserActive := isBrowserActive
    desiredState :=
      some (presentOr account.desiredState fallback)
    observedState :=
      some (presentOr account.observedState fallback)
    executionStatusReason :=
      account.executionStatusReason.filter (fun r => r ≠ "")
    betCycleEnabled :=
      .boolean
        (Json.isNotFalse (overrides.field "betCycleEnabled"))
    pricingSource := overrides.source "pricingSource"
    riskSource := overrides.source "riskSource"
    rebetSource := overrides.source "rebetSource"
    currentBalance := balance.balance
    currencySymbol := balance.currencySymbol
    canActivate :=
      !isBrowserActive &&
        decide (runtimeState.activeBrowsers <
          numberOr w.maxAccountsToSpawn 4) }

/- The accounts of `WorkspaceSnapshotProjection.project`. -/
def projectWorkspace
    (w : AutomationInputs)
    (runtimeState : WorkspaceRuntime) :
    List AutomationAccount :=
  (w.getAll.filter
    (fun account =>
      !account.isSuspended &&
        runtimeState.stagedAccountIds.all
          (fun ids => decide (account.id ∈ ids)))).map
    (w.workspaceAccount runtimeState)

/- What the snapshot route tells the projection. -/
def snapshotRoute (w : AutomationInputs) : WorkspaceRuntime where
  stagedAccountIds := some w.stagedAccountIds
  activeAccountIds := some w.activeAccountIds
  activeBrowsers := w.activeAccountIds.length

------------------------------------------------------------
-- The Prelude
------------------------------------------------------------

/- What a client's connection tells the prelude. -/
structure PreludeRuntime where
  automationAccounts : Option (List AutomationAccount)
  stagedAccountIds : Option (List String)

/- An active account of the store, which no list names. -/
def preludeAccount
    (w : AutomationInputs)
    (account : AccountRecord) : AutomationAccount :=
  let balance := w.accounts.getBalance account.id
  { id := account.id
    name := account.name
    platformDisplayName := account.platformDisplayName
    accountUsername := account.accountUsername
    status := account.backendState
    betCycleEnabled := .boolean true
    pricingSource := .text "GLOBAL"
    riskSource := .text "GLOBAL"
    rebetSource := .text "GLOBAL"
    currentBalance := balance.balance
    currencySymbol := presentOr (some balance.currencySymbol) "₦"
    canActivate := true }

/- The automation accounts of `PreludeProjection.project`. -/
def projectPrelude
    (w : AutomationInputs)
    (runtimeState : PreludeRuntime) :
    List AutomationAccount :=
  match runtimeState.automationAccounts with
  | some (first :: rest) =>
      (first :: rest).filter
        (fun account =>
          decide (account.backendState ≠ some "SUSPENDED" ∧
            account.status ≠ some "SUSPENDED"))
  | _ =>
      (w.getAll.filter
        (fun account =>
          account.isActive &&
            match runtimeState.stagedAccountIds with
            | some (first :: rest) =>
                decide (account.id ∈ first :: rest)
            | _ => true)).map
        w.preludeAccount

/- What the websocket server tells the prelude. -/
def websocketServer
    (automationAccounts : List AutomationAccount) :
    PreludeRuntime where
  automationAccounts := some automationAccounts
  stagedAccountIds := none

------------------------------------------------------------
-- Agreement
------------------------------------------------------------

/- The list has the staged accounts that are not suspended. -/
structure ListsStaged
    (w : AutomationInputs)
    (list : List AutomationAccount) : Prop where
  once : (list.map AutomationAccount.id).Nodup
  exact :
    ∀ id,
      id ∈ list.map AutomationAccount.id ↔
        ∃ account ∈ w.getAll,
          account.id = id ∧ w.selects account = true

/- The lists agree on every account that both have. -/
def SameShared
    (first second : List AutomationAccount) : Prop :=
  ∀ a ∈ first, ∀ b ∈ second,
    a.id = b.id → a.shared = b.shared

/-
  The lists of the aggregator, of the snapshot route and of
  the prelude, over the staging that the snapshot leaves.
-/
def aggregated (w : AutomationInputs) : List AutomationAccount :=
  w.getSnapshot.2

def routed (w : AutomationInputs) : List AutomationAccount :=
  w.staged.projectWorkspace w.staged.snapshotRoute

def greeted (w : AutomationInputs) : List AutomationAccount :=
  w.staged.projectPrelude (websocketServer w.aggregated)

structure Agree (w : AutomationInputs) : Prop where
  aggregated : w.staged.ListsStaged w.aggregated
  routed : w.staged.ListsStaged w.routed
  greeted : w.staged.ListsStaged w.greeted
  aggregated_routed : SameShared w.aggregated w.routed
  routed_greeted : SameShared w.routed w.greeted
  aggregated_greeted : SameShared w.aggregated w.greeted

/- A flag that says yes, no or nothing. -/
def plainFlag : Option Json → Bool
| none => true
| some .null => true
| some (.boolean _) => true
| some _ => false

def plainBetCycle (override : AccountOverride) : Bool :=
  plainFlag (override.field "betCycleEnabled")

/-
  Every staged account that is not suspended is on the first
  page, its own balance, unless it is zero, is the one shown
  for it, and its override says plainly whether it bets.
  Where there is no such account none is active.
-/
structure Coincides (w : AutomationInputs) : Prop where
  page :
    ∀ account ∈ w.getAll.drop 50,
      w.staged.selects account = false
  idle :
    (∀ account ∈ w.getAll,
        w.staged.selects account = false) →
      ∀ account ∈ w.getAll, account.isActive = false
  balances :
    ∀ account ∈ w.getAll,
      w.staged.selects account = true →
        ∀ balance, account.lastKnownBalance = some balance →
          balance ≠ 0 →
            balance = (w.accounts.getBalance account.id).balance
  betCycles :
    ∀ account ∈ w.getAll,
      w.staged.selects account = true →
        plainBetCycle
          (w.config.getAccountOverride account.id) = true

------------------------------------------------------------
-- Accounts And Their Ids
------------------------------------------------------------

theorem getAll_ids (w : AutomationInputs) :
    w.getAll.map AccountRecord.id =
      w.accounts.accounts.keys := by
  unfold getAll OrderedMap.values OrderedMap.keys
  rw [List.map_map]
  apply List.map_congr_left
  rintro ⟨id, account⟩ hMem
  exact w.keyed id account
    ((OrderedMap.get?_eq_some_iff _ _ _).mpr hMem)

theorem nodup_ids (w : AutomationInputs) :
    (w.getAll.map AccountRecord.id).Nodup := by
  rw [getAll_ids]
  exact w.accounts.accounts.nodup

theorem eq_of_id
    {w : AutomationInputs}
    {a b : AccountRecord}
    (ha : a ∈ w.getAll)
    (hb : b ∈ w.getAll)
    (hId : a.id = b.id) :
    a = b :=
  List.inj_on_of_nodup_map w.nodup_ids ha hb hId

/-
  A list made from some of the accounts has the staged ones
  if these are the accounts it was made from.
-/
theorem listsStaged_iff
    {w : AutomationInputs}
    {list : List AutomationAccount}
    {accounts : List AccountRecord}
    (hSub : accounts.Sublist w.getAll)
    (hIds :
      list.map AutomationAccount.id =
        accounts.map AccountRecord.id) :
    w.ListsStaged list ↔
      ∀ account ∈ w.getAll,
        account ∈ accounts ↔ w.selects account = true := by
  constructor
  · intro h account hMem
    have hExact := h.exact account.id
    rw [hIds, List.mem_map] at hExact
    constructor
    · intro hIn
      rcases hExact.mp ⟨account, hIn, rfl⟩ with
        ⟨other, hOther, hId, hSelects⟩
      rw [← eq_of_id hOther hMem hId]
      exact hSelects
    · intro hSelects
      rcases hExact.mpr ⟨account, hMem, rfl, hSelects⟩ with
        ⟨other, hOther, hId⟩
      rw [← eq_of_id (hSub.subset hOther) hMem hId]
      exact hOther
  · intro h
    constructor
    · rw [hIds]
      exact w.nodup_ids.sublist (hSub.map _)
    · intro id
      rw [hIds, List.mem_map]
      constructor
      · rintro ⟨account, hIn, hId⟩
        have hMem := hSub.subset hIn
        exact ⟨account, hMem, hId, (h account hMem).mp hIn⟩
      · rintro ⟨account, hMem, hId, hSelects⟩
        exact ⟨account, (h account hMem).mpr hSelects, hId⟩

------------------------------------------------------------
-- What Each List Is Made From
------------------------------------------------------------

/- The staged accounts of the first page. -/
def paged (w : AutomationInputs) : List AccountRecord :=
  (w.getAll.take 50).filter w.staged.selects

/- The account as the aggregator is given it. -/
def viewed
    (w : AutomationInputs)
    (account : AccountRecord) : AccountRecord :=
  account.exported (w.accounts.getBalance account.id)

theorem aggregated_eq (w : AutomationInputs) :
    w.aggregated =
      w.paged.map
        (fun account =>
          w.staged.aggregatorAccount (w.viewed account)) := by
  change
    (((w.getAll.take 50).map w.viewed).filter
      w.staged.selects).map _ = _
  rw [List.filter_map, List.map_map]
  rfl

theorem routed_eq (w : AutomationInputs) :
    w.routed =
      (w.getAll.filter w.staged.selects).map
        (w.staged.workspaceAccount w.staged.snapshotRoute) :=
  rfl

/- Nothing that the aggregator lists is left out. -/
theorem greeted_of_paged
    {w : AutomationInputs}
    (hPaged : w.paged ≠ []) :
    w.greeted = w.aggregated := by
  have hPlain :
      w.aggregated.filter
        (fun account =>
          decide (account.backendState ≠ some "SUSPENDED" ∧
            account.status ≠ some "SUSPENDED")) =
        w.aggregated := by
    rw [List.filter_eq_self, aggregated_eq]
    intro entry hEntry
    rcases List.mem_map.mp hEntry with ⟨account, _, rfl⟩
    rfl
  have hSome : w.aggregated ≠ [] := by
    rw [aggregated_eq]
    simpa using hPaged
  unfold greeted projectPrelude websocketServer
  cases hList : w.aggregated with
  | nil => exact absurd hList hSome
  | cons first rest =>
      rw [hList] at hPlain
      exact hPlain

theorem greeted_of_none
    {w : AutomationInputs}
    (hPaged : w.paged = []) :
    w.greeted =
      (w.getAll.filter AccountRecord.isActive).map
        w.staged.preludeAccount := by
  have hNone : w.aggregated = [] := by
    rw [aggregated_eq, hPaged]
    rfl
  have hActive :
      (fun account : AccountRecord =>
        account.isActive && true) =
        AccountRecord.isActive :=
    funext (fun account => Bool.and_true _)
  unfold greeted projectPrelude websocketServer
  rw [hNone]
  dsimp only
  rw [hActive]
  rfl

theorem paged_sublist (w : AutomationInputs) :
    w.paged.Sublist w.getAll :=
  List.filter_sublist.trans (List.take_sublist 50 _)

theorem aggregated_ids (w : AutomationInputs) :
    w.aggregated.map AutomationAccount.id =
      w.paged.map AccountRecord.id := by
  rw [aggregated_eq, List.map_map]
  rfl

theorem routed_ids (w : AutomationInputs) :
    w.routed.map AutomationAccount.id =
      (w.getAll.filter w.staged.selects).map
        AccountRecord.id := by
  rw [routed_eq, List.map_map]
  rfl

theorem routed_listsStaged (w : AutomationInputs) :
    w.staged.ListsStaged w.routed := by
  rw [listsStaged_iff (w := w.staged)
    List.filter_sublist w.routed_ids]
  intro account hMem
  rw [List.mem_filter, and_iff_right hMem]

/- An account of the first page is on no later one. -/
theorem not_mem_drop_of_mem_take
    (w : AutomationInputs)
    {account : AccountRecord}
    (hTake : account ∈ w.getAll.take 50) :
    account ∉ w.getAll.drop 50 := by
  have hNodup : w.getAll.Nodup := w.nodup_ids.of_map
  rw [← List.take_append_drop 50 w.getAll,
    List.nodup_append] at hNodup
  intro hDrop
  exact hNodup.2.2 account hTake account hDrop rfl

theorem aggregated_listsStaged_iff (w : AutomationInputs) :
    w.staged.ListsStaged w.aggregated ↔
      ∀ account ∈ w.getAll.drop 50,
        w.staged.selects account = false := by
  rw [listsStaged_iff (w := w.staged)
    w.paged_sublist w.aggregated_ids]
  constructor
  · intro h account hDrop
    rw [Bool.eq_false_iff]
    intro hSelects
    have hPaged :=
      (h account (List.mem_of_mem_drop hDrop)).mpr hSelects
    exact w.not_mem_drop_of_mem_take
      (List.mem_filter.mp hPaged).1 hDrop
  · intro h account hMem
    have hPaged :
        account ∈ w.paged ↔
          account ∈ w.getAll.take 50 ∧
            w.staged.selects account = true :=
      List.mem_filter
    rw [hPaged]
    constructor
    · intro hBoth
      exact hBoth.2
    · intro hSelects
      refine ⟨?_, hSelects⟩
      have hSplit :
          account ∈ w.getAll.take 50 ++ w.getAll.drop 50 := by
        rw [List.take_append_drop]
        exact hMem
      rcases List.mem_append.mp hSplit with hTake | hDrop
      · exact hTake
      · rw [h account hDrop] at hSelects
        cases hSelects

------------------------------------------------------------
-- Fields Of One Account
------------------------------------------------------------

/- Two readings of a flag, the same where it is plain. -/
theorem plainFlag_iff (value : Option Json) :
    Json.firstDefined [value] (.boolean true) =
        .boolean (Json.isNotFalse value) ↔
      plainFlag value = true := by
  cases value with
  | none => exact ⟨fun _ => rfl, fun _ => rfl⟩
  | some value =>
      cases value <;>
        simp [Json.firstDefined, Json.isNotFalse,
          List.reduceOption, Json.isNull, plainFlag]

/- The balance of its own goes before the one shown. -/
theorem aggregatedBalance_iff
    (account : AccountRecord)
    (shown : AccountBalance) :
    (account.exported shown).aggregatedBalance =
        shown.balance ↔
      ∀ balance, account.lastKnownBalance = some balance →
        balance ≠ 0 → balance = shown.balance := by
  have hOwn :
      (account.exported shown).aggregatedBalance =
        ((account.lastKnownBalance.filter
          (fun balance => decide (balance ≠ 0))).or
            (some shown.balance)).getD 0 :=
    rfl
  rw [hOwn]
  cases account.lastKnownBalance with
  | none => simp
  | some balance =>
      by_cases hZero : balance = 0
      · simp [Option.filter, hZero]
      · simp [Option.filter, hZero]

theorem shared_iff
    (w : AutomationInputs)
    (runtimeState : WorkspaceRuntime)
    (account : AccountRecord) :
    (w.staged.aggregatorAccount (w.viewed account)).shared =
        (w.staged.workspaceAccount runtimeState
          account).shared ↔
      (∀ balance, account.lastKnownBalance = some balance →
        balance ≠ 0 →
          balance =
            (w.accounts.getBalance account.id).balance) ∧
        plainBetCycle
          (w.config.getAccountOverride account.id) = true := by
  unfold plainBetCycle
  rw [← plainFlag_iff, ← aggregatedBalance_iff]
  constructor
  · intro hShared
    exact
      ⟨congrArg SharedFields.currentBalance hShared,
        congrArg SharedFields.betCycleEnabled hShared⟩
  · rintro ⟨hBalance, hBetCycle⟩
    unfold AutomationAccount.shared
    rw [SharedFields.mk.injEq]
    exact ⟨hBetCycle, rfl, rfl, rfl, hBalance⟩

------------------------------------------------------------
-- When The Lists Agree
------------------------------------------------------------

theorem sameShared_symm
    {first second : List AutomationAccount}
    (h : SameShared first second) :
    SameShared second first :=
  fun a ha b hb hId => (h b hb a ha hId.symm).symm

/- Two lists of one account each share its fields. -/
theorem sameShared_routed_iff
    {w : AutomationInputs}
    (hPage :
      ∀ account ∈ w.getAll.drop 50,
        w.staged.selects account = false) :
    SameShared w.aggregated w.routed ↔
      ∀ account ∈ w.getAll,
        w.staged.selects account = true →
          (w.staged.aggregatorAccount
              (w.viewed account)).shared =
            (w.staged.workspaceAccount w.staged.snapshotRoute
              account).shared := by
  have hListed :=
    (listsStaged_iff (w := w.staged)
      w.paged_sublist w.aggregated_ids).mp
      (w.aggregated_listsStaged_iff.mpr hPage)
  rw [aggregated_eq, routed_eq]
  constructor
  · intro h account hMem hSelects
    have hPaged := (hListed account hMem).mpr hSelects
    have hRouted :=
      List.mem_filter.mpr ⟨hMem, hSelects⟩
    exact h _ (List.mem_map_of_mem hPaged) _
      (List.mem_map_of_mem hRouted) rfl
  · intro h a ha b hb hId
    rcases List.mem_map.mp ha with ⟨account, hPaged, rfl⟩
    rcases List.mem_map.mp hb with ⟨other, hRouted, rfl⟩
    have hMem := w.paged_sublist.subset hPaged
    have hOther := (List.mem_filter.mp hRouted).1
    have hSame : account = other :=
      eq_of_id hMem hOther hId
    rw [← hSame]
    exact h account hMem ((hListed account hMem).mp hPaged)

/- A list without two entries of one id agrees with itself. -/
theorem sameShared_self
    {list : List AutomationAccount}
    (hOnce : (list.map AutomationAccount.id).Nodup) :
    SameShared list list := by
  intro a ha b hb hId
  rw [List.inj_on_of_nodup_map hOnce ha hb hId]

theorem coincides_of_agree
    {w : AutomationInputs}
    (h : w.Agree) :
    w.Coincides := by
  have hPage := w.aggregated_listsStaged_iff.mp h.aggregated
  have hShared :=
    (sameShared_routed_iff hPage).mp h.aggregated_routed
  have hFields (account : AccountRecord) :=
    fun hMem hSelects =>
      (w.shared_iff w.staged.snapshotRoute account).mp
        (hShared account hMem hSelects)
  constructor
  case page => exact hPage
  case idle =>
    intro hIdle account hMem
    rw [Bool.eq_false_iff]
    intro hActive
    have hPaged : w.paged = [] := by
      unfold paged
      rw [List.filter_eq_nil_iff]
      intro other hOther
      rw [hIdle other (List.mem_of_mem_take hOther)]
      exact Bool.false_ne_true
    have hExact := h.greeted.exact account.id
    rw [greeted_of_none hPaged, List.map_map] at hExact
    have hListed :=
      List.mem_map_of_mem
        (f := AutomationAccount.id ∘ w.staged.preludeAccount)
        (List.mem_filter.mpr ⟨hMem, hActive⟩)
    rcases hExact.mp hListed with
      ⟨other, hOther, _, hSelects⟩
    rw [hIdle other hOther] at hSelects
    cases hSelects
  case balances =>
    intro account hMem hSelects
    exact (hFields account hMem hSelects).1
  case betCycles =>
    intro account hMem hSelects
    exact (hFields account hMem hSelects).2

/- The prelude lists what the aggregator does, or nothing. -/
theorem greeted_of_coincides
    {w : AutomationInputs}
    (h : w.Coincides) :
    w.greeted = w.aggregated := by
  by_cases hPaged : w.paged = []
  · have hIdle :
        ∀ account ∈ w.getAll,
          w.staged.selects account = false := by
      have hListed :=
        (listsStaged_iff (w := w.staged)
          w.paged_sublist w.aggregated_ids).mp
          (w.aggregated_listsStaged_iff.mpr h.page)
      intro account hMem
      rw [Bool.eq_false_iff]
      intro hSelects
      have hIn := (hListed account hMem).mpr hSelects
      rw [hPaged] at hIn
      exact List.not_mem_nil hIn
    have hNone :
        w.getAll.filter AccountRecord.isActive = [] := by
      rw [List.filter_eq_nil_iff]
      intro account hMem
      rw [h.idle hIdle account hMem]
      exact Bool.false_ne_true
    rw [greeted_of_none hPaged, hNone, aggregated_eq, hPaged]
    rfl
  · exact greeted_of_paged hPaged

theorem agree_of_coincides
    {w : AutomationInputs}
    (h : w.Coincides) :
    w.Agree := by
  have hAggregated :=
    w.aggregated_listsStaged_iff.mpr h.page
  have hGreeted := greeted_of_coincides h
  have hShared : SameShared w.aggregated w.routed := by
    rw [sameShared_routed_iff h.page]
    intro account hMem hSelects
    rw [shared_iff]
    exact
      ⟨h.balances account hMem hSelects,
        h.betCycles account hMem hSelects⟩
  constructor
  case aggregated => exact hAggregated
  case routed => exact w.routed_listsStaged
  case greeted =>
    rw [hGreeted]
    exact hAggregated
  case aggregated_routed => exact hShared
  case routed_greeted =>
    rw [hGreeted]
    exact sameShared_symm hShared
  case aggregated_greeted =>
    rw [hGreeted]
    exact sameShared_self hAggregated.once

theorem agree_iff (w : AutomationInputs) :
    w.Agree ↔ w.Coincides :=
  ⟨coincides_of_agree, agree_of_coincides⟩

/- One active account, taken out of the staging. -/
def unstaged : AutomationInputs where
  accounts :=
    AccountsContainer.hydrate .fresh
      [{ id := "acc-1"
         accountUsername := "runner"
         backendState := some "ACTIVE" }] none
  keyed := Store.StateStore.wellKeyed_hydrate _ _ _
  config := .fresh
  maxAccountsToSpawn := 2
  lifecycle := "STOPPED"
  stagedAccountIds := []
  activeAccountIds := []
  hasInitializedStaging := true

/- The prelude lists an account that is not staged. -/
theorem unstaged_account_is_greeted : ¬ unstaged.Agree := by
  intro h
  have hListed :=
    (h.greeted.exact "acc-1").mp (by decide +kernel)
  rcases hListed with ⟨account, _, _, hSelects⟩
  have hNone : unstaged.staged.stagedAccountIds = [] := by
    decide +kernel
  unfold selects at hSelects
  rw [hNone, Bool.and_eq_true, decide_eq_true_iff] at hSelects
  exact List.not_mem_nil hSelects.2

end AutomationInputs

end ControlPlane
