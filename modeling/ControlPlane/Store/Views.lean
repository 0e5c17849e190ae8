import ControlPlane.Store.Hydration

/-
  What is compared of an account in memory and on disk.

  A record in stored form is read back from its row as it is:
  its platform is written in lower case and under its own
  name, no field that has a default is absent, and its own
  balance is the one that is shown for it.

  Main declarations:
    * `AccountView` and `AccountsContainer.view`
    * `Store.StateStore.view_boot`
    * `AccountRecord.StoredForm` and `view_toRow`
    * `AccountRecord.CompleteFor` and `view_toRow_completed`
-/

------------------------------------------------------------
-- Views
------------------------------------------------------------

namespace ControlPlane

structure AccountView where
  platformId : Option String
  platformDisplayName : Option String
  accountUsername : String
  backendState : Option String
  desiredState : Option String
  tags : Option (List String)
  effectiveConfig : Option AccountOverride
  balance : Rat
deriving DecidableEq

def AccountRecord.view
    (account : AccountRecord)
    (balance : Rat) : AccountView where
  platformId := account.platformId
  platformDisplayName := account.platformDisplayName
  accountUsername := account.accountUsername
  backendState := account.backendState
  desiredState := account.desiredState
  tags := account.tags
  effectiveConfig := account.effectiveConfig
  balance := balance

/- The account under an id, with the balance shown for it. -/
def AccountsContainer.view
    (c : AccountsContainer)
    (id : String) : Option AccountView :=
  (c.accounts.get? id).map
    (fun account => account.view (c.getBalance id).balance)

/- What a row becomes when the containers are filled. -/
def AccountRow.view (row : AccountRow) : AccountView :=
  row.toRecord.sanitize.view row.lastKnownBalance

theorem AccountRecord.sanitize_sanitize
    (account : AccountRecord)
    (balance : Rat) :
    account.sanitize.sanitize.view balance =
      account.sanitize.view balance := by
  unfold AccountRecord.sanitize AccountRecord.view
  cases account.effectiveConfig with
  | none => rfl
  | some override =>
      simp [AccountOverride.sanitize,
        sanitizeMembers_sanitizeMembers]

------------------------------------------------------------
-- Views Of A Container
------------------------------------------------------------

namespace AccountsContainer

theorem balance_put_self
    (c : AccountsContainer)
    (account : AccountRecord) :
    ((c.put account).getBalance account.id).balance =
      account.lastKnownBalance.getD
        (c.getBalance account.id).balance := by
  unfold put getBalance AccountRecord.knownBalance
  cases account.lastKnownBalance with
  | none => rfl
  | some balance => simp

theorem balance_put_of_ne
    (c : AccountsContainer)
    (account : AccountRecord)
    {id : String}
    (hNe : id ≠ account.id) :
    (c.put account).getBalance id = c.getBalance id := by
  unfold put getBalance
  cases account.knownBalance with
  | none => rfl
  | some balance =>
      dsimp only
      rw [OrderedMap.get?_set_of_ne _ _ hNe]

end AccountsContainer

namespace AccountRecord

/-
  A record that its row gives back as it is, where `balance`
  is shown for it.
-/
structure StoredForm
    (account : AccountRecord)
    (balance : Rat) : Prop where
  platformId :
    ∃ platform ∈ account.platformId,
      platform ≠ "" ∧ platform.toLower = platform
  platformDisplayName :
    ∃ name ∈ account.platformDisplayName,
      name ≠ "" ∧ formatPlatformDisplayName name name = name
  backendState : present account.backendState = true
  desiredState : present account.desiredState = true
  tags : account.tags.isSome = true
  balance :
    (account.lastKnownBalance.or
      account.currentBalance).getD 0 = balance

instance StoredForm.decidable
    (account : AccountRecord)
    (balance : Rat) :
    Decidable (account.StoredForm balance) :=
  decidable_of_iff
    ((∃ platform ∈ account.platformId,
        platform ≠ "" ∧ platform.toLower = platform) ∧
      (∃ name ∈ account.platformDisplayName,
        name ≠ "" ∧
          formatPlatformDisplayName name name = name) ∧
      present account.backendState = true ∧
      present account.desiredState = true ∧
      account.tags.isSome = true ∧
      (account.lastKnownBalance.or
        account.currentBalance).getD 0 = balance)
    ⟨fun ⟨hId, hName, hBackend, hDesired, hTags, hBalance⟩ =>
        ⟨hId, hName, hBackend, hDesired, hTags, hBalance⟩,
      fun h =>
        ⟨h.platformId, h.platformDisplayName, h.backendState,
          h.desiredState, h.tags, h.balance⟩⟩

/- The fallback of a name does not matter. -/
theorem formatPlatformDisplayName_congr
    {name : String}
    (hName : name ≠ "")
    (fallback other : String) :
    formatPlatformDisplayName name fallback =
      formatPlatformDisplayName name other := by
  unfold formatPlatformDisplayName
  rw [if_neg hName, if_neg hName]

theorem presentOr_of_some
    {field : Option String}
    {text : String}
    (hField : field = some text)
    (hText : text ≠ "")
    (fallback : String) :
    presentOr field fallback = text := by
  rw [hField]
  exact presentOr_of_present hText fallback

theorem firstPresent_of_some
    {field : Option String}
    {text : String}
    (hField : field = some text)
    (hText : text ≠ "")
    (fallback : Option String) :
    firstPresent field fallback = some text := by
  rw [hField]
  simp [firstPresent, present, hText]

theorem storedPlatformId_of_some
    {account : AccountRecord}
    {platform : String}
    (hPlatform : account.platformId = some platform)
    (hText : platform ≠ "") :
    account.storedPlatformId = platform.toLower := by
  unfold storedPlatformId
  rw [firstPresent_of_some hPlatform hText,
    presentOr_of_present hText]

/- The row of a record in stored form shows the record. -/
theorem view_toRow
    {account : AccountRecord}
    {balance : Rat}
    (hForm : account.StoredForm balance)
    (now : Int)
    (password : StoredPassword) :
    ({ account.toRow now with
        accountPassword := password } : AccountRow).view =
      account.sanitize.view balance := by
  rcases hForm.platformId with
    ⟨platform, hPlatform, hPlatformText, hLower⟩
  rcases hForm.platformDisplayName with
    ⟨name, hName, hNameText, hFormat⟩
  rcases (present_iff _).mp hForm.backendState with
    ⟨backend, hBackend, hBackendText⟩
  rcases (present_iff _).mp hForm.desiredState with
    ⟨desired, hDesired, hDesiredText⟩
  rcases Option.isSome_iff_exists.mp hForm.tags with
    ⟨tags, hTags⟩
  have hShown :
      ({ account.toRow now with
          accountPassword := password } :
        AccountRow).shownName = name := by
    unfold AccountRow.shownName toRow
    dsimp only
    rw [firstPresent_of_some hName hNameText,
      presentOr_of_present hNameText,
      presentOr_of_present hNameText,
      formatPlatformDisplayName_congr hNameText _ name,
      hFormat]
  have hId : account.storedPlatformId = platform := by
    rw [storedPlatformId_of_some hPlatform hPlatformText,
      hLower]
  unfold AccountRow.view AccountRow.toRecord
  unfold AccountRecord.sanitize AccountRecord.view
  dsimp only
  rw [hShown]
  unfold toRow
  dsimp only
  rw [hId, hForm.balance, hPlatform, hName, hBackend,
    hDesired, hTags, presentOr_of_present hBackendText,
    presentOr_of_present hDesiredText,
    presentOr_of_present hDesiredText]
  rfl

/- What is in stored form depends on what is shown. -/
theorem StoredForm.of_view
    {account other : AccountRecord}
    {balance : Rat}
    (hForm : account.StoredForm balance)
    (hView :
      other.view ((other.lastKnownBalance.or
          other.currentBalance).getD 0) =
        account.view balance) :
    other.StoredForm balance := by
  have hFields := AccountView.mk.inj hView
  rcases hFields with
    ⟨hId, hName, _, hBackend, hDesired, hTags, _, hBalance⟩
  exact
    { platformId := by
        rw [hId]
        exact hForm.platformId
      platformDisplayName := by
        rw [hName]
        exact hForm.platformDisplayName
      backendState := by
        rw [hBackend]
        exact hForm.backendState
      desiredState := by
        rw [hDesired]
        exact hForm.desiredState
      tags := by
        rw [hTags]
        exact hForm.tags
      balance := hBalance }

------------------------------------------------------------
-- Complete Records
------------------------------------------------------------

end AccountRecord

/- The account that the container takes a record for. -/
def AccountsContainer.existingFor
    (c : AccountsContainer)
    (account : AccountRecord) : Option AccountRecord :=
  (firstPresent account.platformDisplayName
    account.platformId).bind
    (fun platform =>
      c.findByPlatformAndUsername platform
        account.accountUsername)

namespace AccountRecord

/-
  A record whose row shows what memory keeps of it. It names
  its platform as it is stored and shown and its state at the
  backend, and it brings the override and the balance that
  memory would keep.
-/
structure CompleteFor
    (account : AccountRecord)
    (c : AccountsContainer) : Prop where
  platformId :
    ∀ platform ∈ account.platformId,
      platform.toLower = platform
  platform :
    ∃ platform ∈
        firstPresent account.platformDisplayName
          account.platformId,
      platform ≠ "" ∧
        formatPlatformDisplayName platform platform =
            platform ∧
          (account.toRow 0).shownName = platform
  backendState : present account.backendState = true
  effectiveConfig :
    account.effectiveConfig.isSome = true ∨
      (c.existingFor account).bind
        AccountRecord.effectiveConfig = none
  balance :
    account.lastKnownBalance.isSome = true ∨
      account.currentBalance.getD 0 =
          ((c.existingFor account).bind
            AccountRecord.lastKnownBalance).getD 0 ∧
        ((c.existingFor account).bind
            AccountRecord.lastKnownBalance).getD
            (c.getBalance account.id).balance =
          ((c.existingFor account).bind
            AccountRecord.lastKnownBalance).getD 0

instance CompleteFor.decidable
    (account : AccountRecord)
    (c : AccountsContainer) :
    Decidable (account.CompleteFor c) :=
  decidable_of_iff
    ((∀ platform ∈ account.platformId,
        platform.toLower = platform) ∧
      (∃ platform ∈
          firstPresent account.platformDisplayName
            account.platformId,
        platform ≠ "" ∧
          formatPlatformDisplayName platform platform =
              platform ∧
            (account.toRow 0).shownName = platform) ∧
      present account.backendState = true ∧
      (account.effectiveConfig.isSome = true ∨
        (c.existingFor account).bind
          AccountRecord.effectiveConfig = none) ∧
      (account.lastKnownBalance.isSome = true ∨
        account.currentBalance.getD 0 =
            ((c.existingFor account).bind
              AccountRecord.lastKnownBalance).getD 0 ∧
          ((c.existingFor account).bind
              lastKnownBalance).getD
              (c.getBalance account.id).balance =
            ((c.existingFor account).bind
              lastKnownBalance).getD 0))
    ⟨fun ⟨hId, hPlatform, hBackend, hConfig, hBalance⟩ =>
        ⟨hId, hPlatform, hBackend, hConfig, hBalance⟩,
      fun h =>
        ⟨h.platformId, h.platform, h.backendState,
          h.effectiveConfig, h.balance⟩⟩

theorem firstPresent_eq
    {first second : Option String}
    {text : String}
    (hFirst : firstPresent first second = some text)
    (hText : text ≠ "") :
    presentOr first text = text ∧
      (present first = true ∨ second = some text) := by
  unfold firstPresent at hFirst
  by_cases hPresent : present first = true
  · rw [if_pos hPresent] at hFirst
    rw [hFirst]
    exact ⟨presentOr_of_present hText text, .inl (by
      simpa [present] using hText)⟩
  · rw [if_neg hPresent] at hFirst
    exact ⟨presentOr_of_not_present hPresent text,
      .inr hFirst⟩

/- Both write the platform of a complete record alike. -/
theorem CompleteFor.storedPlatformId
    {account : AccountRecord}
    {c : AccountsContainer}
    (hComplete : account.CompleteFor c)
    {platform : String}
    (hPlatform :
      firstPresent account.platformDisplayName
        account.platformId = some platform)
    (hText : platform ≠ "") :
    account.storedPlatformId =
      presentOr account.platformId platform.toLower := by
  by_cases hPresent : present account.platformId = true
  · rcases (present_iff _).mp hPresent with
      ⟨own, hOwn, hOwnText⟩
    rw [storedPlatformId_of_some hOwn hOwnText,
      presentOr_of_some hOwn hOwnText,
      hComplete.platformId own hOwn]
  · have hName : account.platformDisplayName = some platform := by
      unfold firstPresent at hPlatform
      split at hPlatform
      · exact hPlatform
      · exact absurd
          ((present_iff _).mpr ⟨platform, hPlatform, hText⟩)
          hPresent
    unfold AccountRecord.storedPlatformId firstPresent
    rw [if_neg hPresent, hName, presentOr_of_present hText,
      presentOr_of_not_present hPresent]

/- The platform that memory keeps is in stored form. -/
theorem CompleteFor.platformId_stored
    {account : AccountRecord}
    {c : AccountsContainer}
    (hComplete : account.CompleteFor c)
    {platform : String}
    (hText : platform ≠ "") :
    presentOr account.platformId platform.toLower ≠ "" ∧
      (presentOr account.platformId platform.toLower).toLower =
        presentOr account.platformId platform.toLower := by
  refine ⟨presentOr_ne_empty (toLower_ne_empty hText) _, ?_⟩
  by_cases hPresent : present account.platformId = true
  · rcases (present_iff _).mp hPresent with
      ⟨own, hOwn, hOwnText⟩
    rw [presentOr_of_some hOwn hOwnText]
    exact hComplete.platformId own hOwn
  · rw [presentOr_of_not_present hPresent]
    exact toLower_toLower platform

/- The record that memory keeps of a complete one is clean. -/
theorem CompleteFor.effectiveConfig_completed
    {account : AccountRecord}
    {c : AccountsContainer}
    (hComplete : account.CompleteFor c) :
    (account.effectiveConfig.map AccountOverride.sanitize).or
        ((c.existingFor account).bind
          AccountRecord.effectiveConfig) =
      account.effectiveConfig.map AccountOverride.sanitize := by
  rcases hComplete.effectiveConfig with hOwn | hNone
  · rcases Option.isSome_iff_exists.mp hOwn with
      ⟨override, hOverride⟩
    rw [hOverride]
    rfl
  · rw [hNone, Option.or_none]

/- The balance of the row is the one that memory shows. -/
theorem CompleteFor.balance_completed
    {account : AccountRecord}
    {c : AccountsContainer}
    (hComplete : account.CompleteFor c) :
    (account.lastKnownBalance.or
        account.currentBalance).getD 0 =
      (account.lastKnownBalance.or
        ((c.existingFor account).bind
          AccountRecord.lastKnownBalance)).getD
        (c.getBalance account.id).balance ∧
    (account.lastKnownBalance.or
        ((c.existingFor account).bind
          AccountRecord.lastKnownBalance)).getD 0 =
      (account.lastKnownBalance.or
        ((c.existingFor account).bind
          AccountRecord.lastKnownBalance)).getD
        (c.getBalance account.id).balance := by
  cases hOwn : account.lastKnownBalance with
  | some balance => exact ⟨rfl, rfl⟩
  | none =>
      rcases hComplete.balance with hSome | ⟨hKept, hShown⟩
      · rw [hOwn] at hSome
        cases hSome
      · rw [Option.none_or, Option.none_or, hKept, hShown]
        exact ⟨rfl, rfl⟩

/-
  The row of a complete record shows what memory keeps of it,
  which is clean and in stored form.
-/
theorem view_toRow_completed
    {account : AccountRecord}
    {c : AccountsContainer}
    (hComplete : account.CompleteFor c)
    {platform : String}
    (hPlatform :
      firstPresent account.platformDisplayName
        account.platformId = some platform)
    {kept : AccountRecord}
    {existingById : Option AccountRecord}
    {now : Int}
    (hKept :
      kept =
        account.completed platform
          (c.findByPlatformAndUsername platform
            account.accountUsername) existingById now)
    (password : StoredPassword) :
    ({ account.toRow now with
        accountPassword := password } : AccountRow).view =
      kept.view
        (kept.lastKnownBalance.getD
          (c.getBalance account.id).balance) ∧
    kept.sanitize.view 0 = kept.view 0 ∧
    kept.StoredForm
      (kept.lastKnownBalance.getD
        (c.getBalance account.id).balance) := by
  rcases hComplete.platform with
    ⟨other, hOther, hText, hFormat, hShown⟩
  rw [Option.mem_def, hPlatform] at hOther
  rw [← Option.some.inj hOther] at hText hFormat hShown
  rcases (present_iff _).mp hComplete.backendState with
    ⟨backend, hBackend, hBackendText⟩
  have hExisting :
      c.existingFor account =
        c.findByPlatformAndUsername platform
          account.accountUsername := by
    unfold AccountsContainer.existingFor
    rw [hPlatform, Option.bind_some]
  have hId :=
    hComplete.storedPlatformId hPlatform hText
  have hStored := hComplete.platformId_stored hText
  have hConfig := hComplete.effectiveConfig_completed
  have hBalance := hComplete.balance_completed
  rw [hExisting] at hConfig hBalance
  have hName :=
    (firstPresent_eq hPlatform hText).1
  have hShownNow :
      ({ account.toRow now with
          accountPassword := password } :
        AccountRow).shownName = platform := hShown
  have hDesired :
      presentOr account.desiredState "STOPPED" ≠ "" :=
    presentOr_ne_empty (by decide) _
  refine ⟨?_, ?_, ?_⟩
  · rw [hKept]
    unfold AccountRow.view AccountRow.toRecord
    unfold AccountRecord.sanitize AccountRecord.view completed
    dsimp only
    rw [hShownNow, hConfig, ← hBalance.1]
    unfold toRow
    dsimp only
    rw [hId, hName, hBackend,
      presentOr_of_present hBackendText,
      presentOr_of_present hBackendText,
      presentOr_of_present hDesired]
  · rw [hKept]
    unfold AccountRecord.sanitize AccountRecord.view completed
    dsimp only
    rw [hConfig, Option.map_map]
    congr 2
    funext override
    simp [AccountOverride.sanitize,
      sanitizeMembers_sanitizeMembers]
  · rw [hKept]
    exact
      { platformId := ⟨_, rfl, hStored⟩
        platformDisplayName := by
          refine ⟨_, rfl, ?_⟩
          rw [hName]
          exact ⟨hText, hFormat⟩
        backendState :=
          (present_iff _).mpr
            ⟨_, rfl, presentOr_ne_empty (by decide) _⟩
        desiredState :=
          (present_iff _).mpr ⟨_, rfl, hDesired⟩
        tags := rfl
        balance := by
          unfold completed
          dsimp only
          rw [Option.or_none]
          exact hBalance.2 }

end AccountRecord

end ControlPlane
