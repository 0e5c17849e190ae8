import ControlPlane.Data.Run
import ControlPlane.Boundary.Transport
import ControlPlane.System.Workspace

/-
  The fleet that a start compiles.

  A start stages the accounts of its payload, remembers what
  is staged, and compiles the fleet when the Execution Plane
  has connected. What it remembers may be out of date by
  then, and an empty selection is read as no selection.

  Main declarations:
    * `Workspace.buildInitializationPayload`
    * `Staging` and `Staging.step`
    * `Workspace.compilesStaged_iff`
    * `Staging.only_staged_start_iff`
-/

------------------------------------------------------------
-- The Payload
------------------------------------------------------------

namespace ControlPlane

/-
  What is read of an account besides its selection. The
  password is the one that is resolved for the account.
-/
structure AccountDetails where
  platformId : Option String := none
  platformDisplayName : Option String := none
  proxyUrl : Option String := none
  password : String

inductive StartError where
| noAccountsStaged
| credentialMissing (accountUsername : String)
deriving DecidableEq, Repr

/- The accounts of the store have distinct ids. -/
structure AccountList where
  accounts : List WorkspaceAccount
  distinct : (accounts.map WorkspaceAccount.id).Nodup

/- An account with its role and credentials. -/
def WorkspaceAccount.compiled
    (account : WorkspaceAccount)
    (details : AccountDetails)
    (role : FleetRole) : CompiledAccount where
  id := account.id
  role := role
  platformId :=
    (presentOr
      (firstPresent details.platformId
        details.platformDisplayName) "sportybet").toLower
  username := account.accountUsername
  password := details.password
  proxyUrl := details.proxyUrl.filter (fun url => url ≠ "")

/-
  Compile the accounts in turn, up to one without a password.
  The first has the given role, the others are slaves.
-/
def compileFleet
    (details : String → AccountDetails)
    (role : FleetRole) :
    List WorkspaceAccount →
      Except StartError (List CompiledAccount)
| [] => .ok []
| account :: rest =>
    if isBlank (details account.id).password then
      .error (.credentialMissing account.accountUsername)
    else
      (compileFleet details .slave rest).map
        (fun compiled =>
          account.compiled (details account.id) role ::
            compiled)

namespace Workspace

def deactivateAccount
    (w : Workspace)
    (accountId : String) : Workspace :=
  { w with
      hasInitializedStaging := true
      stagedAccountIds :=
        removeId w.stagedAccountIds accountId
      activeAccountIds :=
        removeId w.activeAccountIds accountId }

/-
  The accounts of a fleet. Without targets they are the
  staged ones, if the store has any, and else all.
-/
def selectedAccounts
    (w : Workspace)
    (targetAccountIds : List String) :
    List WorkspaceAccount :=
  if targetAccountIds = [] then
    if w.accounts.any
        (fun account =>
          decide (account.id ∈ w.stagedAccountIds)) then
      (nonSuspended w.accounts).filter
        (fun account =>
          decide (account.id ∈ w.stagedAccountIds))
    else
      nonSuspended w.accounts
  else
    nonSuspended
      (targetAccountIds.filterMap
        (fun id =>
          w.accounts.find?
            (fun account => decide (account.id = id))))

/- The fleet of the payload, or why there is none. -/
def buildInitializationPayload
    (w : Workspace)
    (details : String → AccountDetails)
    (targetAccountIds : List String) :
    Except StartError (List CompiledAccount) :=
  if w.selectedAccounts targetAccountIds = [] then
    .error .noAccountsStaged
  else
    compileFleet details .master
      (w.selectedAccounts targetAccountIds)

end Workspace

------------------------------------------------------------
-- Starts
------------------------------------------------------------

/-
  The workspace, and what was staged when the start that has
  not compiled its fleet took its turn.
-/
structure Staging where
  workspace : Workspace
  starting : Option (List String)

inductive StagingInput where
| stageAccount (accountId : String)
| unstageAccount (accountId : String)
| activateAccount (accountId : String)
| deactivateAccount (accountId : String)
| getSnapshot (maxCapacity : Nat)
| accountsChanged (accounts : AccountList)
| startAutomation (accountIds : List String)
| startFailed
| compile (details : String → AccountDetails)

namespace Staging

def fresh (accounts : AccountList) : Staging where
  workspace := Workspace.fresh accounts.accounts
  starting := none

/-
  One input. The lifecycle mutex keeps a second start away
  while the first has not come to its end.
-/
def step
    (s : Staging) : StagingInput → Staging
| .stageAccount accountId =>
    { s with workspace := s.workspace.stageAccount accountId }
| .unstageAccount accountId =>
    { s with
        workspace := s.workspace.unstageAccount accountId }
| .activateAccount accountId =>
    { s with
        workspace := s.workspace.activateAccount accountId }
| .deactivateAccount accountId =>
    { s with
        workspace := s.workspace.deactivateAccount accountId }
| .getSnapshot maxCapacity =>
    { s with
        workspace := (s.workspace.getSnapshot maxCapacity).1 }
| .accountsChanged accounts =>
    { s with
        workspace :=
          { s.workspace with accounts := accounts.accounts } }
| .startAutomation accountIds =>
    match s.starting with
    | some _ => s
    | none =>
        let staged := s.workspace.stageForStart accountIds
        { workspace := staged
          starting := some staged.stagedAccountIds }
| .startFailed => { s with starting := none }
| .compile _ => { s with starting := none }

end Staging

------------------------------------------------------------
-- Staged Fleets
------------------------------------------------------------

namespace Workspace

/- What a fleet has to be. -/
structure StagedFleet
    (w : Workspace)
    (fleet : List CompiledAccount) : Prop where
  distinct : (fleet.map CompiledAccount.id).Nodup
  staged :
    ∀ account ∈ fleet, account.id ∈ w.stagedAccountIds
  present :
    ∀ account ∈ fleet,
      ∃ stored ∈ w.accounts,
        stored.id = account.id ∧ stored.suspended = false
  roles :
    ∃ first rest,
      fleet = first :: rest ∧ first.role = .master ∧
        ∀ account ∈ rest, account.role = .slave

/-
  The fleet that is compiled is staged, and there is none
  when the operator has emptied the staging.
-/
def CompilesStaged
    (w : Workspace)
    (details : String → AccountDetails)
    (targetAccountIds : List String) : Prop :=
  (∀ fleet,
      w.buildInitializationPayload details
          targetAccountIds = .ok fleet →
        w.StagedFleet fleet) ∧
    (w.hasInitializedStaging = true →
      w.stagedAccountIds = [] →
        ∃ error,
          w.buildInitializationPayload details
            targetAccountIds = .error error)

/-
  The targets of the start are still staged. Without targets
  the store has a staged account, or none to start. Either
  does not matter if a password is missing.
-/
def StartsStaged
    (w : Workspace)
    (details : String → AccountDetails)
    (targetAccountIds : List String) : Prop :=
  (∃ account ∈ nonSuspended w.accounts,
      (targetAccountIds = [] ∨
        account.id ∈ targetAccountIds) ∧
      isBlank (details account.id).password = true) ∨
    if targetAccountIds = [] then
      nonSuspended w.accounts = [] ∨
        ∃ account ∈ w.accounts,
          account.id ∈ w.stagedAccountIds
    else
      ∀ account ∈ nonSuspended w.accounts,
        account.id ∈ targetAccountIds →
          account.id ∈ w.stagedAccountIds

end Workspace

------------------------------------------------------------
-- The Compiled Fleet
------------------------------------------------------------

/- The fleet of accounts that all have a password. -/
def fleetOf
    (details : String → AccountDetails)
    (role : FleetRole) :
    List WorkspaceAccount → List CompiledAccount
| [] => []
| account :: rest =>
    account.compiled (details account.id) role ::
      fleetOf details .slave rest

theorem compileFleet_ok_iff
    (details : String → AccountDetails)
    (role : FleetRole)
    (accounts : List WorkspaceAccount)
    (fleet : List CompiledAccount) :
    compileFleet details role accounts = .ok fleet ↔
      (∀ account ∈ accounts,
          isBlank (details account.id).password = false) ∧
        fleet = fleetOf details role accounts := by
  induction accounts generalizing role fleet with
  | nil =>
      constructor
      · intro hOk
        exact ⟨by simp, (Except.ok.inj hOk).symm⟩
      · rintro ⟨_, rfl⟩
        rfl
  | cons account rest ih =>
      unfold compileFleet fleetOf
      cases hBlank :
          isBlank (details account.id).password with
      | true => simp [hBlank]
      | false =>
          cases hRest :
              compileFleet details .slave rest with
          | error error =>
              have hNone := ih .slave
                (fleetOf details .slave rest)
              rw [hRest] at hNone
              simp only [reduceCtorEq, and_true, false_iff]
                at hNone
              simp [Except.map, hBlank, hNone]
          | ok compiled =>
              have hSome := (ih .slave compiled).mp hRest
              rw [hSome.2]
              simp only [Except.map, if_neg
                Bool.false_ne_true, Except.ok.injEq,
                List.forall_mem_cons, hBlank, true_and,
                and_iff_right hSome.1]
              exact eq_comm

theorem map_id_fleetOf
    (details : String → AccountDetails)
    (role : FleetRole)
    (accounts : List WorkspaceAccount) :
    (fleetOf details role accounts).map
        CompiledAccount.id =
      accounts.map WorkspaceAccount.id := by
  induction accounts generalizing role with
  | nil => rfl
  | cons account rest ih =>
      simp [fleetOf, ih, WorkspaceAccount.compiled]

theorem role_of_mem_fleetOf
    (details : String → AccountDetails)
    (accounts : List WorkspaceAccount)
    {account : CompiledAccount}
    (hMem : account ∈ fleetOf details .slave accounts) :
    account.role = .slave := by
  induction accounts with
  | nil => cases hMem
  | cons first rest ih =>
      rcases List.mem_cons.mp hMem with hHead | hTail
      · rw [hHead]
        rfl
      · exact ih hTail

namespace Workspace

variable {w : Workspace}

theorem mem_nonSuspended
    (accounts : List WorkspaceAccount)
    (account : WorkspaceAccount) :
    account ∈ nonSuspended accounts ↔
      account ∈ accounts ∧ account.suspended = false := by
  simp [nonSuspended]

/- Looking an id up, when the ids are distinct. -/
theorem find?_id_iff
    {accounts : List WorkspaceAccount}
    (hDistinct : (accounts.map WorkspaceAccount.id).Nodup)
    (id : String)
    (account : WorkspaceAccount) :
    accounts.find? (fun a => decide (a.id = id)) =
        some account ↔
      account ∈ accounts ∧ account.id = id := by
  constructor
  · intro hFind
    refine ⟨List.mem_of_find?_eq_some hFind, ?_⟩
    simpa using List.find?_some hFind
  · rintro ⟨hMem, hId⟩
    induction accounts with
    | nil => cases hMem
    | cons first rest ih =>
        rw [List.map_cons, List.nodup_cons] at hDistinct
        rcases List.mem_cons.mp hMem with hHead | hTail
        · simp [← hHead, hId]
        · have hFirst : first.id ≠ id := by
            intro hSame
            apply hDistinct.1
            rw [hSame, ← hId]
            exact List.mem_map_of_mem hTail
          rw [List.find?_cons_of_neg (by simpa using hFirst)]
          exact ih hDistinct.2 hTail

/- The accounts that are selected. -/
theorem mem_selectedAccounts
    (hDistinct : (w.accounts.map WorkspaceAccount.id).Nodup)
    (targetAccountIds : List String)
    (account : WorkspaceAccount) :
    account ∈ w.selectedAccounts targetAccountIds ↔
      account ∈ nonSuspended w.accounts ∧
        if targetAccountIds = [] then
          (∃ staged ∈ w.accounts,
              staged.id ∈ w.stagedAccountIds) →
            account.id ∈ w.stagedAccountIds
        else
          account.id ∈ targetAccountIds := by
  unfold selectedAccounts
  by_cases hTargets : targetAccountIds = []
  · rw [if_pos hTargets, if_pos hTargets]
    simp only [List.any_eq_true, decide_eq_true_eq]
    by_cases hStaged :
        ∃ staged ∈ w.accounts,
          staged.id ∈ w.stagedAccountIds
    · simp [hStaged]
    · simp [hStaged]
  · rw [if_neg hTargets, if_neg hTargets]
    simp only [mem_nonSuspended, List.mem_filterMap,
      find?_id_iff hDistinct]
    constructor
    · rintro ⟨⟨id, hId, hMem, hSame⟩, hPresent⟩
      exact ⟨⟨hMem, hPresent⟩, hSame ▸ hId⟩
    · rintro ⟨⟨hMem, hPresent⟩, hId⟩
      exact ⟨⟨account.id, hId, hMem, rfl⟩, hPresent⟩

/- The ids that are found are among those looked for. -/
theorem map_id_filterMap_sublist
    (accounts : List WorkspaceAccount)
    (ids : List String) :
    ((ids.filterMap
      (fun id =>
        accounts.find?
          (fun account => decide (account.id = id)))).map
            WorkspaceAccount.id).Sublist ids := by
  induction ids with
  | nil => exact List.Sublist.refl []
  | cons id rest ih =>
      cases hFind :
          accounts.find?
            (fun account => decide (account.id = id)) with
      | none =>
          rw [List.filterMap_cons]
          simp only [hFind]
          exact ih.cons id
      | some account =>
          have hId : account.id = id := by
            simpa using List.find?_some hFind
          rw [List.filterMap_cons]
          simp only [hFind, List.map_cons, hId]
          exact ih.cons_cons id

theorem nodup_selectedAccounts
    (hDistinct : (w.accounts.map WorkspaceAccount.id).Nodup)
    {targetAccountIds : List String}
    (hTargets : targetAccountIds.Nodup) :
    ((w.selectedAccounts targetAccountIds).map
      WorkspaceAccount.id).Nodup := by
  unfold selectedAccounts nonSuspended
  split
  · split
    · exact hDistinct.sublist
        ((List.filter_sublist.trans
          List.filter_sublist).map _)
    · exact hDistinct.sublist (List.filter_sublist.map _)
  · exact hTargets.sublist
      ((List.filter_sublist.map _).trans
        (map_id_filterMap_sublist _ _))

theorem build_ok_iff
    (w : Workspace)
    (details : String → AccountDetails)
    (targetAccountIds : List String)
    (fleet : List CompiledAccount) :
    w.buildInitializationPayload details
        targetAccountIds = .ok fleet ↔
      w.selectedAccounts targetAccountIds ≠ [] ∧
        (∀ account ∈ w.selectedAccounts targetAccountIds,
          isBlank (details account.id).password = false) ∧
        fleet =
          fleetOf details .master
            (w.selectedAccounts targetAccountIds) := by
  unfold buildInitializationPayload
  by_cases hNone : w.selectedAccounts targetAccountIds = []
  · simp [hNone]
  · rw [if_neg hNone, compileFleet_ok_iff]
    simp [hNone]

/- The fleet of a selection that is staged. -/
theorem stagedFleet_of_selected
    (hDistinct : (w.accounts.map WorkspaceAccount.id).Nodup)
    (details : String → AccountDetails)
    {targetAccountIds : List String}
    (hTargets : targetAccountIds.Nodup)
    (hSome : w.selectedAccounts targetAccountIds ≠ [])
    (hStaged :
      ∀ account ∈ w.selectedAccounts targetAccountIds,
        account.id ∈ w.stagedAccountIds) :
    w.StagedFleet
      (fleetOf details .master
        (w.selectedAccounts targetAccountIds)) := by
  have hIds :
      ∀ account ∈ fleetOf details .master
          (w.selectedAccounts targetAccountIds),
        ∃ selected ∈ w.selectedAccounts targetAccountIds,
          selected.id = account.id := by
    intro account hMem
    have hId := List.mem_map_of_mem (f := CompiledAccount.id)
      hMem
    rw [map_id_fleetOf] at hId
    exact List.mem_map.mp hId
  refine ⟨?_, ?_, ?_, ?_⟩
  · rw [map_id_fleetOf]
    exact nodup_selectedAccounts hDistinct hTargets
  · intro account hMem
    rcases hIds account hMem with ⟨selected, hSelected, hId⟩
    rw [← hId]
    exact hStaged selected hSelected
  · intro account hMem
    rcases hIds account hMem with ⟨selected, hSelected, hId⟩
    have hPresent :=
      ((mem_selectedAccounts hDistinct _ _).mp hSelected).1
    rw [mem_nonSuspended] at hPresent
    exact ⟨selected, hPresent.1, hId, hPresent.2⟩
  · cases hSelected :
        w.selectedAccounts targetAccountIds with
    | nil => exact absurd hSelected hSome
    | cons first rest =>
        refine ⟨_, _, rfl, rfl, ?_⟩
        intro account hMem
        exact role_of_mem_fleetOf details rest hMem

/- A start that is refused starts nothing that is not. -/
theorem compilesStaged_of_refused
    {details : String → AccountDetails}
    {targetAccountIds : List String}
    (hRefused :
      ∀ fleet,
        w.buildInitializationPayload details
          targetAccountIds ≠ .ok fleet) :
    w.CompilesStaged details targetAccountIds := by
  refine ⟨?_, ?_⟩
  · intro fleet hOk
    exact absurd hOk (hRefused fleet)
  · intro _ _
    cases hBuild :
        w.buildInitializationPayload details
          targetAccountIds with
    | error error => exact ⟨error, rfl⟩
    | ok fleet => exact absurd hBuild (hRefused fleet)

/- A fleet is staged when its selection is. -/
theorem compilesStaged_iff_selected
    (hDistinct : (w.accounts.map WorkspaceAccount.id).Nodup)
    (details : String → AccountDetails)
    {targetAccountIds : List String}
    (hTargets : targetAccountIds.Nodup) :
    w.CompilesStaged details targetAccountIds ↔
      (∃ account ∈ w.selectedAccounts targetAccountIds,
          isBlank (details account.id).password = true) ∨
        ∀ account ∈ w.selectedAccounts targetAccountIds,
          account.id ∈ w.stagedAccountIds := by
  by_cases hBlank :
      ∃ account ∈ w.selectedAccounts targetAccountIds,
        isBlank (details account.id).password = true
  · apply iff_of_true _ (.inl hBlank)
    apply compilesStaged_of_refused
    intro fleet hOk
    rcases hBlank with ⟨account, hMem, hMissing⟩
    rw [((build_ok_iff _ _ _ _).mp hOk).2.1 account hMem]
      at hMissing
    cases hMissing
  · have hPasswords :
        ∀ account ∈ w.selectedAccounts targetAccountIds,
          isBlank (details account.id).password = false := by
      intro account hMem
      rw [Bool.eq_false_iff]
      intro hMissing
      exact hBlank ⟨account, hMem, hMissing⟩
    simp only [hBlank, false_or]
    constructor
    · intro hCompiles account hMem
      have hOk :=
        (build_ok_iff w details targetAccountIds _).mpr
          ⟨List.ne_nil_of_mem hMem, hPasswords, rfl⟩
      have hId := List.mem_map_of_mem
        (f := WorkspaceAccount.id) hMem
      rw [← map_id_fleetOf details .master] at hId
      rcases List.mem_map.mp hId with
        ⟨compiled, hCompiled, hSame⟩
      rw [← hSame]
      exact (hCompiles.1 _ hOk).staged compiled hCompiled
    · intro hStaged
      refine ⟨?_, ?_⟩
      · intro fleet hOk
        rcases (build_ok_iff _ _ _ _).mp hOk with
          ⟨hSome, _, rfl⟩
        exact stagedFleet_of_selected hDistinct details
          hTargets hSome hStaged
      · intro _ hEmpty
        have hNone :
            w.selectedAccounts targetAccountIds = [] := by
          apply List.eq_nil_iff_forall_not_mem.mpr
          intro account hMem
          have hIn := hStaged account hMem
          rw [hEmpty] at hIn
          cases hIn
        refine ⟨.noAccountsStaged, ?_⟩
        unfold buildInitializationPayload
        rw [if_pos hNone]

/- The condition of a start, read off its selection. -/
theorem startsStaged_iff_selected
    (hDistinct : (w.accounts.map WorkspaceAccount.id).Nodup)
    (details : String → AccountDetails)
    (targetAccountIds : List String) :
    w.StartsStaged details targetAccountIds ↔
      (∃ account ∈ w.selectedAccounts targetAccountIds,
          isBlank (details account.id).password = true) ∨
        ∀ account ∈ w.selectedAccounts targetAccountIds,
          account.id ∈ w.stagedAccountIds := by
  unfold StartsStaged
  simp only [mem_selectedAccounts hDistinct]
  by_cases hTargets : targetAccountIds = []
  · simp only [hTargets, if_true]
    by_cases hStaged :
        ∃ staged ∈ w.accounts,
          staged.id ∈ w.stagedAccountIds
    · apply iff_of_true
      · exact .inr (.inr hStaged)
      · exact .inr (fun account hMem => hMem.2 hStaged)
    · have hNone :
          (∀ account ∈ nonSuspended w.accounts,
              account.id ∈ w.stagedAccountIds) ↔
            nonSuspended w.accounts = [] := by
        rw [List.eq_nil_iff_forall_not_mem]
        constructor
        · intro hAll account hMem
          exact hStaged ⟨account,
            ((mem_nonSuspended _ _).mp hMem).1,
            hAll account hMem⟩
        · intro hEmpty account hMem
          exact absurd hMem (hEmpty account)
      simp [hStaged, hNone]
  · simp only [hTargets, if_false, false_or, and_assoc,
      and_imp]

theorem compilesStaged_iff
    (hDistinct : (w.accounts.map WorkspaceAccount.id).Nodup)
    (details : String → AccountDetails)
    {targetAccountIds : List String}
    (hTargets : targetAccountIds.Nodup) :
    w.CompilesStaged details targetAccountIds ↔
      w.StartsStaged details targetAccountIds :=
  (compilesStaged_iff_selected hDistinct details
    hTargets).trans
      (startsStaged_iff_selected hDistinct details
        targetAccountIds).symm

end Workspace

------------------------------------------------------------
-- Runs
------------------------------------------------------------

theorem nodup_addId
    {ids : List String}
    (hNodup : ids.Nodup)
    (id : String) :
    (addId ids id).Nodup := by
  unfold addId
  split
  · exact hNodup
  · rename_i hNew
    rw [List.nodup_append]
    refine ⟨hNodup, List.nodup_singleton id, ?_⟩
    intro old hOld new hSame
    rw [List.mem_singleton.mp hSame]
    intro hEq
    exact hNew (hEq ▸ hOld)

theorem nodup_foldl_addId
    (added : List String)
    {ids : List String}
    (hNodup : ids.Nodup) :
    (added.foldl addId ids).Nodup := by
  induction added generalizing ids with
  | nil => exact hNodup
  | cons id rest ih => exact ih (nodup_addId hNodup id)

theorem nodup_removeId
    {ids : List String}
    (hNodup : ids.Nodup)
    (id : String) :
    (removeId ids id).Nodup :=
  hNodup.filter _

namespace Workspace

theorem seed_nodup
    {w : Workspace}
    (hStaged : w.stagedAccountIds.Nodup)
    (accounts : List WorkspaceAccount) :
    (w.seed accounts).stagedAccountIds.Nodup := by
  unfold seed
  split
  · exact nodup_foldl_addId _ List.nodup_nil
  · exact hStaged

theorem seed_accounts
    (w : Workspace)
    (accounts : List WorkspaceAccount) :
    (w.seed accounts).accounts = w.accounts := by
  unfold seed
  split <;> rfl

theorem seeded_nodup
    {w : Workspace}
    (hStaged : w.stagedAccountIds.Nodup)
    (maxCapacity : Nat) :
    (w.seeded maxCapacity).stagedAccountIds.Nodup := by
  unfold seeded
  split
  · exact hStaged
  · exact seed_nodup hStaged _

theorem seeded_accounts
    (w : Workspace)
    (maxCapacity : Nat) :
    (w.seeded maxCapacity).accounts = w.accounts := by
  unfold seeded
  split
  · rfl
  · exact seed_accounts _ _

theorem stageForStart_nodup
    {w : Workspace}
    (hStaged : w.stagedAccountIds.Nodup)
    (accountIds : List String) :
    (w.stageForStart accountIds).stagedAccountIds.Nodup := by
  unfold stageForStart
  apply seed_nodup
  split
  · exact hStaged
  · exact nodup_foldl_addId _ List.nodup_nil

theorem stageForStart_accounts
    (w : Workspace)
    (accountIds : List String) :
    (w.stageForStart accountIds).accounts = w.accounts := by
  unfold stageForStart
  dsimp only
  rw [seed_accounts]
  split <;> rfl

end Workspace

namespace Staging

/- Ids are distinct in the store and where they are staged. -/
structure Distinct (s : Staging) : Prop where
  accounts :
    (s.workspace.accounts.map WorkspaceAccount.id).Nodup
  staged : s.workspace.stagedAccountIds.Nodup
  starting :
    ∀ targets, s.starting = some targets → targets.Nodup

theorem distinct_step
    (s : Staging)
    (input : StagingInput)
    (hDistinct : s.Distinct) :
    (s.step input).Distinct := by
  cases input with
  | stageAccount accountId =>
      exact ⟨hDistinct.accounts,
        nodup_addId hDistinct.staged accountId,
        hDistinct.starting⟩
  | unstageAccount accountId =>
      exact ⟨hDistinct.accounts,
        nodup_removeId hDistinct.staged accountId,
        hDistinct.starting⟩
  | activateAccount accountId =>
      exact ⟨hDistinct.accounts,
        nodup_addId hDistinct.staged accountId,
        hDistinct.starting⟩
  | deactivateAccount accountId =>
      exact ⟨hDistinct.accounts,
        nodup_removeId hDistinct.staged accountId,
        hDistinct.starting⟩
  | getSnapshot maxCapacity =>
      refine ⟨?_, Workspace.seeded_nodup hDistinct.staged _,
        hDistinct.starting⟩
      have hAccounts := hDistinct.accounts
      rw [← s.workspace.seeded_accounts maxCapacity]
        at hAccounts
      exact hAccounts
  | accountsChanged accounts =>
      exact ⟨accounts.distinct, hDistinct.staged,
        hDistinct.starting⟩
  | startAutomation accountIds =>
      have hStaged :=
        Workspace.stageForStart_nodup hDistinct.staged
          accountIds
      cases hStarting : s.starting with
      | some targets =>
          simpa [step, hStarting] using hDistinct
      | none =>
          refine ⟨?_, ?_, ?_⟩
          · simpa [step, hStarting,
              Workspace.stageForStart_accounts] using
                hDistinct.accounts
          · simpa [step, hStarting] using hStaged
          · intro targets hTargets
            simp only [step, hStarting] at hTargets
            rw [← Option.some.inj hTargets]
            exact hStaged
  | startFailed =>
      exact ⟨hDistinct.accounts, hDistinct.staged, nofun⟩
  | compile details =>
      exact ⟨hDistinct.accounts, hDistinct.staged, nofun⟩

/- What the input compiles is staged. -/
def CompilesStaged
    (s : Staging)
    (input : StagingInput) : Prop :=
  match input, s.starting with
  | .compile details, some targets =>
      s.workspace.CompilesStaged details targets
  | _, _ => True

/- What the input starts is staged. -/
def StartsStaged
    (s : Staging)
    (input : StagingInput) : Prop :=
  match input, s.starting with
  | .compile details, some targets =>
      s.workspace.StartsStaged details targets
  | _, _ => True

/-
  Only staged accounts start in a run exactly when the
  targets of every start are staged as it compiles them.
-/
theorem only_staged_start_iff
    (accounts : AccountList)
    (inputs : List StagingInput) :
    Along step CompilesStaged (fresh accounts) inputs ↔
      Along step StartsStaged (fresh accounts) inputs := by
  apply along_congr_of_invariant distinct_step
  · intro s input hDistinct
    unfold CompilesStaged StartsStaged
    split
    · rename_i details targets hStarting
      exact Workspace.compilesStaged_iff hDistinct.accounts
        details (hDistinct.starting targets hStarting)
    · exact Iff.rfl
  · exact ⟨accounts.distinct, List.nodup_nil, nofun⟩

/- A store with one account. -/
def onlyAccount : AccountList where
  accounts :=
    [{ id := "acc_1"
       accountUsername := "player_one"
       suspended := false }]
  distinct := List.nodup_singleton _

/- The operator takes the account out and starts. -/
theorem emptied_staging_starts_all :
    ¬ Along step CompilesStaged (fresh onlyAccount)
      [.getSnapshot 2, .unstageAccount "acc_1",
        .startAutomation [],
        .compile (fun _ => { password := "secret" })] := by
  rintro ⟨_, _, _, hCompiles, _⟩
  rcases hCompiles.2 rfl rfl with ⟨error, hRefused⟩
  revert hRefused
  exact nofun

end Staging

end ControlPlane
