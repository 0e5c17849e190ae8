import ControlPlane.Data.Run
import ControlPlane.System.Policy

/-
  The Execution Plane's copy of the policies.

  An INITIALIZE gives the Execution Plane a default policy
  and one for each account of the fleet. From then on the
  copy changes with the messages of the commands only. It
  keeps up with the stored configuration in runs whose
  commands address one account at a time, where no account
  is reset or updated globally while its bet cycle is off.

  Main declarations:
    * `PolicyReplica.receive`
    * `PolicySystem.step` and `PolicySystem.InSync`
    * `PolicySystem.Harmless`
    * `PolicySystem.never_drifts_of_harmless`
-/

------------------------------------------------------------
-- The Copy
------------------------------------------------------------

namespace ControlPlane

/- An account is named by its id and by its username. -/
def WorkspaceAccount.hasName
    (account : WorkspaceAccount)
    (name : String) : Bool :=
  decide (account.id = name ∨ account.accountUsername = name)

structure PolicyReplica where
  defaultPolicy : PolicyDocument
  policy : WorkspaceAccount → PolicyDocument

namespace PolicyMessage

def target : PolicyMessage → Option String
| .setBetCycle targetBrowserId _ => some targetBrowserId
| .updatePolicy target _ _ => some target
| .resetPolicy target => target

def isFor
    (account : WorkspaceAccount)
    (message : PolicyMessage) : Bool :=
  message.target.any account.hasName

def isForAll : PolicyMessage → Bool
| .updatePolicy target _ _ => decide (target = "ALL")
| _ => false

/- The policy of an account that the message is for. -/
def outcome
    (defaultPolicy policy : PolicyDocument) :
    PolicyMessage → PolicyDocument
| .setBetCycle _ isEnabled =>
    { policy with betCycleEnabled := isEnabled }
| .updatePolicy _ _ values => values
| .resetPolicy _ => defaultPolicy

end PolicyMessage

namespace PolicyReplica

def receive
    (r : PolicyReplica)
    (message : PolicyMessage) : PolicyReplica where
  defaultPolicy :=
    if message.isForAll then
      message.outcome r.defaultPolicy r.defaultPolicy
    else
      r.defaultPolicy
  policy := fun account =>
    if message.isForAll || message.isFor account then
      message.outcome r.defaultPolicy (r.policy account)
    else
      r.policy account

end PolicyReplica

/- The policy of an account under both of its names. -/
def setAccountPolicy
    (c : AutomationConfigContainer)
    (policies : OrderedMap String PolicyDocument)
    (account : WorkspaceAccount) :
    OrderedMap String PolicyDocument :=
  let policyDoc :=
    buildPolicyDocument c.globalConfig
      (c.getAccountOverride account.id)
  let named := policies.set account.accountUsername policyDoc
  if account.id = "" then named
  else named.set account.id policyDoc

/- The policies of an INITIALIZE. -/
def accountPolicies
    (c : AutomationConfigContainer)
    (accounts : List WorkspaceAccount) :
    OrderedMap String PolicyDocument :=
  accounts.foldl (setAccountPolicy c) OrderedMap.empty

/- The copy starts with the policy under the account's id. -/
def PolicyReplica.initialized
    (c : AutomationConfigContainer)
    (accounts : List WorkspaceAccount) :
    PolicyReplica where
  defaultPolicy := defaultPolicyDocument c.globalConfig
  policy := fun account =>
    ((accountPolicies c accounts).get? account.id).getD
      (defaultPolicyDocument c.globalConfig)

------------------------------------------------------------
-- Runs Of Commands
------------------------------------------------------------

/- The accounts of a fleet are accounts of the store. -/
structure Fleet where
  store : AccountList
  accounts : List WorkspaceAccount
  stored :
    ∀ account ∈ accounts, account ∈ store.accounts

namespace Fleet

variable (fleet : Fleet)

/- No other account of the fleet has the name. -/
def OnlyNames (name id : String) : Prop :=
  ∀ account ∈ fleet.accounts,
    account.hasName name = true → account.id = id

instance (name id : String) :
    Decidable (fleet.OnlyNames name id) :=
  inferInstanceAs (Decidable (∀ account ∈ _, _ → _))

/- An id is present, and no username of another account. -/
def OwnIds : Prop :=
  ∀ account ∈ fleet.accounts,
    account.id ≠ "" ∧ fleet.OnlyNames account.id account.id

instance : Decidable fleet.OwnIds :=
  inferInstanceAs (Decidable (∀ account ∈ _, _ ∧ _))

end Fleet

structure PolicySystem where
  config : AutomationConfigContainer
  replica : PolicyReplica

namespace PolicySystem

def initialized
    (fleet : Fleet)
    (config : AutomationConfigContainer) :
    PolicySystem where
  config := config
  replica := PolicyReplica.initialized config fleet.accounts

/- A command is stored, and the copy hears its messages. -/
def step
    (fleet : Fleet)
    (s : PolicySystem)
    (command : PolicyCommand) : PolicySystem :=
  let handled :=
    handlePolicyCommand s.config fleet.store.accounts command
  { config := handled.1
    replica :=
      run PolicyReplica.receive s.replica handled.2 }

/- The policy that the stored configuration asks for. -/
def storedPolicy
    (s : PolicySystem)
    (account : WorkspaceAccount) : PolicyDocument :=
  buildPolicyDocument s.config.globalConfig
    (s.config.getAccountOverride account.id)

def InSync
    (fleet : Fleet)
    (s : PolicySystem) : Prop :=
  ∀ account ∈ fleet.accounts,
    s.replica.policy account = s.storedPolicy account

/- The name goes to one account and not to all. -/
def Addresses
    (fleet : Fleet)
    (name id : String) : Prop :=
  name ≠ "" ∧ name ≠ "ALL" ∧ fleet.OnlyNames name id

instance (fleet : Fleet) (name id : String) :
    Decidable (Addresses fleet name id) :=
  inferInstanceAs (Decidable (_ ∧ _ ∧ _))

/- What is sent again goes to the account it belongs to. -/
def ReassertsOwn
    (fleet : Fleet)
    (c : AutomationConfigContainer) : Prop :=
  ∀ account ∈ fleet.store.accounts,
    hasCustomOverrides
        (c.getAccountOverride account.id) = true →
      ∀ name ∈ reassertedNames account,
        Addresses fleet name account.id

instance
    (fleet : Fleet)
    (c : AutomationConfigContainer) :
    Decidable (ReassertsOwn fleet c) :=
  inferInstanceAs
    (Decidable (∀ account ∈ _, _ → ∀ name ∈ _, _))

/-
  The command does not address more than its account, does
  not reset an account whose bet cycle is off, and does not
  broadcast over an account that differs from the default
  without a custom source.
-/
def Harmless
    (fleet : Fleet)
    (s : PolicySystem) :
    PolicyCommand → Prop
| .toggleBetCycle target _ => fleet.OnlyNames target target
| .updateAccountConfig target _ _ _ =>
    ∀ name ∈ targetNames fleet.store.accounts target,
      Addresses fleet name target
| .resetAccountConfig target =>
    (∀ name ∈ targetNames fleet.store.accounts target,
      fleet.OnlyNames name target) ∧
    ∀ account ∈ fleet.accounts,
      account.id = target →
        target ≠ "" ∧
          Json.isNotFalse
            ((s.config.getAccountOverride target).field
              "betCycleEnabled") = true
| .updateGlobalConfig category values =>
    s.config.acceptsCategory category values = true →
      (∀ account ∈ fleet.accounts,
        hasCustomOverrides
            (s.config.getAccountOverride account.id) =
          false →
        Inherits
          (s.config.getAccountOverride account.id)) ∧
      ReassertsOwn fleet s.config

instance (fleet : Fleet) (s : PolicySystem) :
    ∀ command, Decidable (Harmless fleet s command)
| .toggleBetCycle _ _ =>
    inferInstanceAs (Decidable (fleet.OnlyNames _ _))
| .updateAccountConfig _ _ _ _ =>
    inferInstanceAs (Decidable (∀ name ∈ _, _))
| .resetAccountConfig _ =>
    inferInstanceAs
      (Decidable ((∀ name ∈ _, _) ∧ ∀ account ∈ _, _ → _))
| .updateGlobalConfig _ _ =>
    inferInstanceAs
      (Decidable (_ → (∀ account ∈ _, _ → _) ∧ _))

end PolicySystem

end ControlPlane

------------------------------------------------------------
-- Delivered Messages
------------------------------------------------------------

namespace ControlPlane

namespace WorkspaceAccount

@[simp] theorem hasName_id
    (account : WorkspaceAccount) :
    account.hasName account.id = true := by
  simp [hasName]

end WorkspaceAccount

namespace PolicyMessage

@[simp] theorem isFor_setBetCycle
    (account : WorkspaceAccount)
    (name : String)
    (enabled : Bool) :
    (setBetCycle name enabled).isFor account =
      account.hasName name := rfl

@[simp] theorem isForAll_setBetCycle
    (name : String)
    (enabled : Bool) :
    (setBetCycle name enabled).isForAll = false := rfl

@[simp] theorem isForAll_resetPolicy
    (name : String) :
    (ControlPlane.resetPolicy name).isForAll = false := rfl

/- An update goes to an account that has the name. -/
theorem isFor_updatePolicy
    (account : WorkspaceAccount)
    (category : Option String)
    (values : PolicyDocument)
    {name : String}
    (hName : name ≠ "") :
    (ControlPlane.updatePolicy category values name).isFor
        account =
      account.hasName name := by
  simp [ControlPlane.updatePolicy, isFor, target, hName]

theorem isForAll_updatePolicy
    (category : Option String)
    (values : PolicyDocument)
    {name : String}
    (hName : name ≠ "")
    (hNotAll : name ≠ "ALL") :
    (ControlPlane.updatePolicy category values name
      ).isForAll = false := by
  simp [ControlPlane.updatePolicy, isForAll, hName, hNotAll]

/- A reset without a name goes to nobody. -/
theorem isFor_resetPolicy
    (account : WorkspaceAccount)
    (name : String) :
    (ControlPlane.resetPolicy name).isFor account =
      (decide (name ≠ "") && account.hasName name) := by
  unfold ControlPlane.resetPolicy isFor target
  by_cases hName : name = ""
  · simp [hName]
  · simp [hName]

end PolicyMessage

namespace PolicyReplica

/- Messages that are not for all leave the default. -/
theorem defaultPolicy_run
    (r : PolicyReplica)
    {messages : List PolicyMessage}
    (hSingle :
      ∀ message ∈ messages, message.isForAll = false) :
    (run receive r messages).defaultPolicy =
      r.defaultPolicy := by
  induction messages generalizing r with
  | nil => rfl
  | cons message messages ih =>
      rw [List.forall_mem_cons] at hSingle
      rw [run_cons, ih (r.receive message) hSingle.2]
      simp [receive, hSingle.1]

/-
  If all the messages for an account end in one policy, the
  account keeps that policy.
-/
theorem policy_run_of_outcome
    (r : PolicyReplica)
    {account : WorkspaceAccount}
    {policy : PolicyDocument}
    {messages : List PolicyMessage}
    (hSingle :
      ∀ message ∈ messages, message.isForAll = false)
    (hOutcome :
      ∀ message ∈ messages, message.isFor account = true →
        ∀ before,
          message.outcome r.defaultPolicy before = policy)
    (hPolicy : r.policy account = policy) :
    (run receive r messages).policy account = policy := by
  induction messages generalizing r with
  | nil => exact hPolicy
  | cons message messages ih =>
      rw [List.forall_mem_cons] at hSingle hOutcome
      rw [run_cons]
      apply ih (r.receive message) hSingle.2
      · simpa [receive, hSingle.1] using hOutcome.2
      · cases hFor : message.isFor account with
        | true =>
            simpa [receive, hSingle.1, hFor] using
              hOutcome.1 hFor (r.policy account)
        | false =>
            simpa [receive, hSingle.1, hFor] using hPolicy

/- It gets the policy if there is a message for it. -/
theorem policy_run_of_isFor
    (r : PolicyReplica)
    {account : WorkspaceAccount}
    {policy : PolicyDocument}
    {messages : List PolicyMessage}
    (hSingle :
      ∀ message ∈ messages, message.isForAll = false)
    (hOutcome :
      ∀ message ∈ messages, message.isFor account = true →
        ∀ before,
          message.outcome r.defaultPolicy before = policy)
    (hFor :
      ∃ message ∈ messages, message.isFor account = true) :
    (run receive r messages).policy account = policy := by
  rcases hFor with ⟨message, hMem, hIsFor⟩
  rcases List.append_of_mem hMem with ⟨front, rest, rfl⟩
  simp only [List.forall_mem_append,
    List.forall_mem_cons] at hSingle hOutcome
  rw [run_append, run_cons]
  have hDefault := defaultPolicy_run r hSingle.1
  apply policy_run_of_outcome _ hSingle.2.2
  · simpa [receive, hSingle.2.1, hDefault] using
      hOutcome.2.2
  · simpa [receive, hSingle.2.1, hIsFor, hDefault] using
      hOutcome.2.1 hIsFor _

/- Without a message for it the account keeps its policy. -/
theorem policy_run_of_not_isFor
    (r : PolicyReplica)
    {account : WorkspaceAccount}
    {messages : List PolicyMessage}
    (hSingle :
      ∀ message ∈ messages, message.isForAll = false)
    (hNot :
      ∀ message ∈ messages, message.isFor account = false) :
    (run receive r messages).policy account =
      r.policy account := by
  apply policy_run_of_outcome r hSingle
  · intro message hMem hFor
    simp [hNot message hMem] at hFor
  · rfl

end PolicyReplica

end ControlPlane

------------------------------------------------------------
-- Addressed Messages
------------------------------------------------------------

namespace ControlPlane

namespace Fleet

variable {fleet : Fleet} {account : WorkspaceAccount}

theorem OnlyNames.hasName_eq_false
    {name id : String}
    (hOnly : fleet.OnlyNames name id)
    (hMem : account ∈ fleet.accounts)
    (hOther : account.id ≠ id) :
    account.hasName name = false := by
  rw [Bool.eq_false_iff]
  intro hName
  exact hOther (hOnly account hMem hName)

end Fleet

namespace PolicySystem

variable {fleet : Fleet} {s : PolicySystem}
variable {account : WorkspaceAccount}

theorem mem_targetNames_self
    (accounts : List WorkspaceAccount)
    (target : String) :
    target ∈ targetNames accounts target :=
  List.mem_cons_self

/- One policy, sent under all the names of an account. -/
theorem policy_run_names
    (r : PolicyReplica)
    (send : String → PolicyMessage)
    {names : List String}
    {id : String}
    {policy : PolicyDocument}
    (hId : id ∈ names)
    (hSingle :
      ∀ message ∈ names.map send, message.isForAll = false)
    (hOutcome :
      ∀ name before,
        (send name).outcome r.defaultPolicy before = policy)
    (hSelf :
      account.id = id → (send id).isFor account = true)
    (hOther :
      account.id ≠ id →
        ∀ name ∈ names,
          (send name).isFor account = false) :
    (run PolicyReplica.receive r (names.map send)).policy
        account =
      if account.id = id then policy
      else r.policy account := by
  by_cases hSame : account.id = id
  · rw [if_pos hSame]
    apply r.policy_run_of_isFor hSingle
    · intro message hMessage _
      rcases List.mem_map.mp hMessage with ⟨name, _, rfl⟩
      exact hOutcome name
    · exact ⟨send id, List.mem_map_of_mem hId, hSelf hSame⟩
  · rw [if_neg hSame]
    apply r.policy_run_of_not_isFor hSingle
    intro message hMessage
    rcases List.mem_map.mp hMessage with ⟨name, hName, rfl⟩
    exact hOther hSame name hName

/- A reset under a name of its own misses the others. -/
theorem isFor_resetPolicy_of_other
    {name id : String}
    (hOnly : fleet.OnlyNames name id)
    (hMem : account ∈ fleet.accounts)
    (hOther : account.id ≠ id) :
    (resetPolicy name).isFor account = false := by
  rw [PolicyMessage.isFor_resetPolicy]
  simp [hOnly.hasName_eq_false hMem hOther]

/- The resets of one account. -/
theorem policy_run_resets
    (r : PolicyReplica)
    {names : List String}
    {id : String}
    (hNames : ∀ name ∈ names, fleet.OnlyNames name id)
    (hId : id ∈ names)
    (hMem : account ∈ fleet.accounts)
    (hPresent : account.id = id → id ≠ "") :
    (run PolicyReplica.receive r
        (names.map resetPolicy)).policy account =
      if account.id = id then r.defaultPolicy
      else r.policy account := by
  apply policy_run_names r resetPolicy hId
  · simp
  · intro name before
    rfl
  · intro hSame
    have hNotEmpty := hPresent hSame
    subst hSame
    rw [PolicyMessage.isFor_resetPolicy]
    simp [hNotEmpty]
  · intro hOther name hName
    exact isFor_resetPolicy_of_other (hNames name hName)
      hMem hOther

theorem isForAll_updates
    (category : Option String)
    (values : PolicyDocument)
    {names : List String}
    {id : String}
    (hNames : ∀ name ∈ names, Addresses fleet name id) :
    ∀ message ∈ names.map (updatePolicy category values),
      message.isForAll = false := by
  intro message hMessage
  rcases List.mem_map.mp hMessage with ⟨name, hName, rfl⟩
  have hAddresses := hNames name hName
  exact PolicyMessage.isForAll_updatePolicy category values
    hAddresses.1 hAddresses.2.1

/- The updates of one account. -/
theorem policy_run_updates
    (r : PolicyReplica)
    (category : Option String)
    (values : PolicyDocument)
    {names : List String}
    {id : String}
    (hNames : ∀ name ∈ names, Addresses fleet name id)
    (hId : id ∈ names)
    (hMem : account ∈ fleet.accounts) :
    (run PolicyReplica.receive r
        (names.map
          (updatePolicy category values))).policy account =
      if account.id = id then values
      else r.policy account := by
  apply policy_run_names r (updatePolicy category values) hId
    (isForAll_updates category values hNames)
  · intro name before
    rfl
  · intro hSame
    rw [PolicyMessage.isFor_updatePolicy account category
      values (hNames id hId).1, ← hSame]
    exact account.hasName_id
  · intro hOther name hName
    have hAddresses := hNames name hName
    rw [PolicyMessage.isFor_updatePolicy account category
      values hAddresses.1]
    exact hAddresses.2.2.hasName_eq_false hMem hOther

end PolicySystem

end ControlPlane

------------------------------------------------------------
-- What A Harmless Command Keeps
------------------------------------------------------------

namespace ControlPlane

namespace PolicySystem

open AutomationConfigContainer

variable {fleet : Fleet} {s : PolicySystem}

/- The copy and its default agree with what is stored. -/
structure Synced
    (fleet : Fleet)
    (s : PolicySystem) : Prop where
  default :
    s.replica.defaultPolicy =
      defaultPolicyDocument s.config.globalConfig
  accounts : InSync fleet s

/- The policy that is stored after an override changed. -/
theorem storedPolicy_updateAccountOverride
    (config : AutomationConfigContainer)
    (replica : PolicyReplica)
    (target : String)
    (updates : Json)
    (account : WorkspaceAccount) :
    storedPolicy
        ⟨config.updateAccountOverride target updates,
          replica⟩ account =
      if account.id = target then
        buildPolicyDocument config.globalConfig
          ((config.getAccountOverride target).spread updates)
      else
        buildPolicyDocument config.globalConfig
          (config.getAccountOverride account.id) := by
  unfold storedPolicy
  dsimp only
  rw [getAccountOverride_updateAccountOverride]
  by_cases hSame : account.id = target
  · rw [if_pos hSame, if_pos hSame]
    rfl
  · rw [if_neg hSame, if_neg hSame]
    rfl

/- Switching a bet cycle reaches the account it is for. -/
theorem synced_toggleBetCycle
    (hSynced : Synced fleet s)
    {target : String}
    (hOnly : fleet.OnlyNames target target)
    (enabled : Bool) :
    Synced fleet
      (step fleet s (.toggleBetCycle target enabled)) where
  default := hSynced.default
  accounts := by
    intro account hMem
    have hBefore := hSynced.accounts account hMem
    unfold step handlePolicyCommand
    dsimp only
    rw [storedPolicy_updateAccountOverride, run_cons,
      run_nil]
    by_cases hSame : account.id = target
    · subst hSame
      rw [if_pos rfl, buildPolicyDocument_toggle]
      simp [PolicyReplica.receive, hBefore, storedPolicy,
        PolicyMessage.outcome]
    · have hNot :=
        hOnly.hasName_eq_false hMem hSame
      rw [if_neg hSame]
      simp [PolicyReplica.receive, hNot, hBefore,
        storedPolicy]

/- An account update reaches the account with all of it. -/
theorem synced_updateAccountConfig
    (hSynced : Synced fleet s)
    {target : String}
    (hNames :
      ∀ name ∈ targetNames fleet.store.accounts target,
        Addresses fleet name target)
    (category : Option String)
    (source values : Option Json) :
    Synced fleet
      (step fleet s
        (.updateAccountConfig target category source
          values)) := by
  have hResets :
      ∀ message ∈
        (if isCustomUpdate source then []
          else (targetNames fleet.store.accounts target).map
            resetPolicy),
        message.isForAll = false := by
    by_cases hCustom : isCustomUpdate source
    · simp [hCustom]
    · simp [hCustom]
  constructor
  · unfold step handlePolicyCommand
    dsimp only
    rw [PolicyReplica.defaultPolicy_run]
    · exact hSynced.default
    · rw [List.forall_mem_append]
      exact ⟨hResets, isForAll_updates _ _ hNames⟩
  · intro account hMem
    unfold step handlePolicyCommand
    dsimp only
    rw [storedPolicy_updateAccountOverride, run_append,
      policy_run_updates _ _ _ hNames
        (mem_targetNames_self _ _) hMem]
    by_cases hSame : account.id = target
    · rw [if_pos hSame, if_pos hSame,
        getAccountOverride_updateAccountOverride,
        if_pos rfl]
      rfl
    · rw [if_neg hSame, if_neg hSame,
        PolicyReplica.policy_run_of_not_isFor _ hResets]
      · exact hSynced.accounts account hMem
      · intro message hMessage
        by_cases hCustom : isCustomUpdate source
        · simp [hCustom] at hMessage
        · rw [if_neg hCustom] at hMessage
          rcases List.mem_map.mp hMessage with
            ⟨name, hName, rfl⟩
          exact isFor_resetPolicy_of_other
            (hNames name hName).2.2 hMem hSame

/- A reset returns an account whose bet cycle is on. -/
theorem synced_resetAccountConfig
    (hSynced : Synced fleet s)
    {target : String}
    (hNames :
      ∀ name ∈ targetNames fleet.store.accounts target,
        fleet.OnlyNames name target)
    (hAccount :
      ∀ account ∈ fleet.accounts, account.id = target →
        target ≠ "" ∧
          Json.isNotFalse
            ((s.config.getAccountOverride target).field
              "betCycleEnabled") = true) :
    Synced fleet
      (step fleet s (.resetAccountConfig target)) := by
  constructor
  · unfold step handlePolicyCommand
    dsimp only
    rw [PolicyReplica.defaultPolicy_run]
    · exact hSynced.default
    · simp
  · intro account hMem
    have hPresent : account.id = target → target ≠ "" :=
      fun hSame => (hAccount account hMem hSame).1
    unfold step handlePolicyCommand
    dsimp only
    rw [storedPolicy_updateAccountOverride,
      policy_run_resets s.replica hNames
        (mem_targetNames_self _ _) hMem hPresent]
    by_cases hSame : account.id = target
    · have hInherits :=
        inherits_reset (hAccount account hMem hSame).2
      rw [if_pos hSame, if_pos hSame, hSynced.default,
        hInherits.buildPolicyDocument_eq]
    · rw [if_neg hSame, if_neg hSame]
      exact hSynced.accounts account hMem

theorem mem_reassertions
    (c : AutomationConfigContainer)
    (accounts : List WorkspaceAccount)
    (message : PolicyMessage) :
    message ∈ reassertions c accounts ↔
      ∃ account ∈ accounts,
        hasCustomOverrides
            (c.getAccountOverride account.id) = true ∧
          ∃ name ∈ reassertedNames account,
            updatePolicy none
              (buildPolicyDocument c.globalConfig
                (c.getAccountOverride account.id)) name =
              message := by
  simp [reassertions, and_assoc]

theorem hasName_of_mem_reassertedNames
    {account : WorkspaceAccount}
    {name : String}
    (hName : name ∈ reassertedNames account) :
    account.hasName name = true := by
  unfold reassertedNames at hName
  simp only [WorkspaceAccount.hasName, decide_eq_true_eq]
  rcases List.mem_cons.mp hName with hFirst | hRest
  · by_cases hEmpty : account.accountUsername = ""
    · left
      simp [hFirst, hEmpty]
    · right
      simp [hFirst, hEmpty]
  · left
    split at hRest
    · exact (List.mem_singleton.mp hRest).symm
    · simp at hRest

theorem isForAll_reassertions
    {c : AutomationConfigContainer}
    (hOwn : ReassertsOwn fleet c) :
    ∀ message ∈ reassertions c fleet.store.accounts,
      message.isForAll = false := by
  intro message hMessage
  rcases (mem_reassertions _ _ _).mp hMessage with
    ⟨account, hStored, hCustom, name, hName, rfl⟩
  have hAddresses := hOwn account hStored hCustom name hName
  exact PolicyMessage.isForAll_updatePolicy _ _
    hAddresses.1 hAddresses.2.1

/- What is sent again to an account is its own policy. -/
theorem outcome_of_mem_reassertions
    {c : AutomationConfigContainer}
    (hOwn : ReassertsOwn fleet c)
    {account : WorkspaceAccount}
    (hMem : account ∈ fleet.accounts)
    {message : PolicyMessage}
    (hMessage :
      message ∈ reassertions c fleet.store.accounts)
    (hFor : message.isFor account = true) :
    hasCustomOverrides
        (c.getAccountOverride account.id) = true ∧
      ∀ defaultPolicy before,
        message.outcome defaultPolicy before =
          buildPolicyDocument c.globalConfig
            (c.getAccountOverride account.id) := by
  rcases (mem_reassertions _ _ _).mp hMessage with
    ⟨sender, hStored, hCustom, name, hName, rfl⟩
  have hAddresses := hOwn sender hStored hCustom name hName
  rw [PolicyMessage.isFor_updatePolicy _ _ _
    hAddresses.1] at hFor
  have hSame := hAddresses.2.2 account hMem hFor
  rw [hSame]
  exact ⟨hCustom, fun _ _ => rfl⟩

theorem policy_run_reassertions
    (r : PolicyReplica)
    {c : AutomationConfigContainer}
    (hOwn : ReassertsOwn fleet c)
    {account : WorkspaceAccount}
    (hMem : account ∈ fleet.accounts) :
    (run PolicyReplica.receive r
        (reassertions c fleet.store.accounts)).policy
        account =
      if hasCustomOverrides
          (c.getAccountOverride account.id) then
        buildPolicyDocument c.globalConfig
          (c.getAccountOverride account.id)
      else
        r.policy account := by
  have hSingle := isForAll_reassertions hOwn
  by_cases hCustom :
      hasCustomOverrides
        (c.getAccountOverride account.id) = true
  · rw [if_pos hCustom]
    apply r.policy_run_of_isFor hSingle
    · intro message hMessage hFor before
      exact (outcome_of_mem_reassertions hOwn hMem hMessage
        hFor).2 _ before
    · have hStored := fleet.stored account hMem
      have hHead :
          ∃ name, name ∈ reassertedNames account :=
        ⟨_, List.mem_cons_self⟩
      rcases hHead with ⟨name, hName⟩
      have hAddresses :=
        hOwn account hStored hCustom name hName
      refine ⟨_, (mem_reassertions _ _ _).mpr
        ⟨account, hStored, hCustom, name, hName, rfl⟩, ?_⟩
      rw [PolicyMessage.isFor_updatePolicy _ _ _
        hAddresses.1]
      exact hasName_of_mem_reassertedNames hName
  · rw [if_neg hCustom]
    apply r.policy_run_of_not_isFor hSingle
    intro message hMessage
    rw [Bool.eq_false_iff]
    intro hFor
    exact hCustom (outcome_of_mem_reassertions hOwn hMem
      hMessage hFor).1

/-
  A global update reaches every account that follows the
  default, and again every account with a custom source.
-/
theorem synced_updateGlobalConfig
    (hSynced : Synced fleet s)
    {category : String}
    {values : Json}
    (hHarmless :
      Harmless fleet s
        (.updateGlobalConfig category values)) :
    Synced fleet
      (step fleet s
        (.updateGlobalConfig category values)) := by
  by_cases hAccepts :
      s.config.acceptsCategory category values = true
  · rcases hHarmless hAccepts with ⟨hInherits, hOwn⟩
    have hOwnAfter :
        ReassertsOwn fleet
          (s.config.updateCategory category values) := hOwn
    unfold step handlePolicyCommand
    dsimp only
    rw [if_pos hAccepts]
    constructor
    · dsimp only
      rw [run_cons, PolicyReplica.defaultPolicy_run _
        (isForAll_reassertions hOwnAfter)]
      rfl
    · intro account hMem
      dsimp only [storedPolicy]
      rw [run_cons,
        policy_run_reassertions _ hOwnAfter hMem]
      split
      · rfl
      · next hDefault =>
          have hAccount := hInherits account hMem
            (Bool.eq_false_iff.mpr hDefault)
          exact (hAccount.buildPolicyDocument_eq _).symm
  · unfold step handlePolicyCommand
    dsimp only
    rw [if_neg hAccepts]
    exact hSynced

end PolicySystem

end ControlPlane

------------------------------------------------------------
-- Runs Without Drift
------------------------------------------------------------

namespace ControlPlane

namespace PolicySystem

variable {fleet : Fleet}

/- What a harmless command keeps. -/
theorem synced_step
    (s : PolicySystem)
    (command : PolicyCommand)
    (hSynced : Synced fleet s)
    (hHarmless : Harmless fleet s command) :
    Synced fleet (step fleet s command) := by
  cases command with
  | toggleBetCycle target enabled =>
      exact synced_toggleBetCycle hSynced hHarmless enabled
  | updateAccountConfig target category source values =>
      exact synced_updateAccountConfig hSynced hHarmless
        category source values
  | resetAccountConfig target =>
      exact synced_resetAccountConfig hSynced hHarmless.1
        hHarmless.2
  | updateGlobalConfig category values =>
      exact synced_updateGlobalConfig hSynced hHarmless

/- An id of its own is set by its account only. -/
theorem get?_setAccountPolicy
    (c : AutomationConfigContainer)
    (policies : OrderedMap String PolicyDocument)
    {account : WorkspaceAccount}
    {id : String}
    (hPresent : id ≠ "")
    (hOwn : account.hasName id = true → account.id = id) :
    (setAccountPolicy c policies account).get? id =
      if account.id = id then
        some (buildPolicyDocument c.globalConfig
          (c.getAccountOverride id))
      else
        policies.get? id := by
  unfold setAccountPolicy
  by_cases hSame : account.id = id
  · simp [hSame, hPresent]
  · have hNames :
        ¬ (account.id = id ∨
          account.accountUsername = id) := by
      simpa [WorkspaceAccount.hasName, hSame] using hOwn
    have hId : id ≠ account.id := fun h => hSame h.symm
    have hUsername : id ≠ account.accountUsername :=
      fun h => hNames (Or.inr h.symm)
    rw [if_neg hSame]
    dsimp only
    split
    · simp [OrderedMap.get?_set, hUsername]
    · simp [OrderedMap.get?_set, hUsername, hId]

theorem get?_foldl_setAccountPolicy
    (c : AutomationConfigContainer)
    (policies : OrderedMap String PolicyDocument)
    {accounts : List WorkspaceAccount}
    {id : String}
    (hPresent : id ≠ "")
    (hOwn :
      ∀ account ∈ accounts,
        account.hasName id = true → account.id = id)
    (hSet :
      policies.get? id =
          some (buildPolicyDocument c.globalConfig
            (c.getAccountOverride id)) ∨
        ∃ account ∈ accounts, account.id = id) :
    (accounts.foldl (setAccountPolicy c) policies).get? id =
      some (buildPolicyDocument c.globalConfig
        (c.getAccountOverride id)) := by
  induction accounts generalizing policies with
  | nil => simpa using hSet
  | cons first rest ih =>
      rw [List.forall_mem_cons] at hOwn
      rw [List.foldl_cons]
      apply ih _ hOwn.2
      rw [get?_setAccountPolicy c policies hPresent hOwn.1]
      by_cases hFirst : first.id = id
      · simp [hFirst]
      · simpa [hFirst] using hSet

/- After an INITIALIZE the copy is what is stored. -/
theorem synced_initialized
    (config : AutomationConfigContainer)
    (hOwn : fleet.OwnIds) :
    Synced fleet (initialized fleet config) where
  default := rfl
  accounts := by
    intro account hMem
    rcases hOwn account hMem with ⟨hPresent, hOnly⟩
    have hPolicy :=
      get?_foldl_setAccountPolicy config OrderedMap.empty
        hPresent hOnly (Or.inr ⟨account, hMem, rfl⟩)
    unfold initialized storedPolicy
    dsimp only [PolicyReplica.initialized, accountPolicies]
    rw [hPolicy, Option.getD_some]

/-
  In a run of harmless commands the policy of every account
  in the Execution Plane is the stored one after each
  command.
-/
theorem never_drifts_of_harmless
    (fleet : Fleet)
    (config : AutomationConfigContainer)
    (hOwn : fleet.OwnIds)
    (commands : List PolicyCommand)
    (hHarmless :
      Along (step fleet) (Harmless fleet)
        (initialized fleet config) commands) :
    Throughout (step fleet) (InSync fleet)
      (initialized fleet config) commands := by
  intro past future hCommands
  rw [hCommands, along_append] at hHarmless
  have hSynced :
      Synced fleet
        (run (step fleet) (initialized fleet config) past) :=
    run_invariant synced_step
      (synced_initialized config hOwn) hHarmless.1
  exact hSynced.accounts

/- An account with an id and another username. -/
def punter : WorkspaceAccount where
  id := "acc_1"
  accountUsername := "punter"
  suspended := false

def punterFleet : Fleet where
  store :=
    { accounts := [punter]
      distinct := List.nodup_singleton _ }
  accounts := [punter]
  stored := fun _ hMem => hMem

/- A configuration without an override. -/
def pricedConfig : AutomationConfigContainer where
  globalConfig :=
    .object
      [("pricing", .object [("baseStake", .number 1000)]),
        ("risk", .object [("maxStake", .number 10000)])]
  accountOverrides := OrderedMap.empty

def raiseBaseStake : PolicyCommand :=
  .updateGlobalConfig "pricing"
    (.object [("baseStake", .number 2000)])

/-
  An account that has a custom limit keeps its bet cycle
  switched off when the pricing changes for all.
-/
theorem limited_account_never_drifts :
    Throughout (step punterFleet) (InSync punterFleet)
      (initialized punterFleet pricedConfig)
      [.updateAccountConfig "acc_1" (some "risk") none
          (some (.object [("maxStake", .number 500)])),
        .toggleBetCycle "acc_1" false,
        raiseBaseStake,
        .toggleBetCycle "acc_1" true,
        .resetAccountConfig "acc_1",
        raiseBaseStake] :=
  never_drifts_of_harmless punterFleet pricedConfig
    (by decide) _ (by decide)

/-
  A global update switches the bet cycle of an account
  without a custom source on again.
-/
theorem global_update_reenables :
    punterFleet.OwnIds ∧
      ¬ Throughout (step punterFleet) (InSync punterFleet)
        (initialized punterFleet pricedConfig)
        [.toggleBetCycle "acc_1" false, raiseBaseStake] := by
  refine ⟨by decide, ?_⟩
  intro hSync
  have hPolicy :=
    hSync [.toggleBetCycle "acc_1" false, raiseBaseStake] []
      rfl punter List.mem_cons_self
  have hGate := congrArg PolicyDocument.betCycleEnabled
    hPolicy
  revert hGate
  decide

end PolicySystem

end ControlPlane
