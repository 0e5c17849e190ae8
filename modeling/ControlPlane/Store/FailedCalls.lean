import ControlPlane.Store.Mutators

/-
  Calls of a mutator that fail.

  A failed call is to leave the tables and the containers as
  they were. The transaction sees to the tables. A container
  is written after the tables and before the revision, and
  nothing takes it back: it stays as the mutator has left it
  when the database does not take the revision, and when the
  hydration of `replaceAll` ends in the middle of its list.

  Main declarations:
    * `AccountsContainer.Readable` and `Reproduces`
    * `AccountsContainer.hydrate_eq_self_iff`
    * `WellFormed` and `readable_of_wellFormed`
    * `GroupMutation.apply_leaves`
    * `StateStore.ChangesNothing`
    * `MutatorCall.Harmless`
    * `StateStore.failed_call_changes_nothing_iff`
-/

------------------------------------------------------------
-- What A Hydration Writes
------------------------------------------------------------

namespace ControlPlane

namespace Mutators

namespace AccountsContainer

/- The loop of the hydration gets over an element. -/
def Readable
    (c : AccountsContainer)
    (now : String)
    (raw : JsValue) : Prop :=
  ∃ record balance,
    c.imported raw = .ok record ∧
      knownBalance now record = .ok balance

def keyed (record : JsValue) : JsValue × JsValue :=
  (record.field "id", record)

/-
  The records and the balances that a list comes to, up to
  the first exception.
-/
def written
    (c : AccountsContainer)
    (now : String) :
    List JsValue → List JsValue × List (JsValue × Balance)
| [] => ([], [])
| raw :: rest =>
    match c.imported raw with
    | .error _ => ([], [])
    | .ok record =>
        match knownBalance now record with
        | .error _ => ([record], [])
        | .ok balance =>
            (record :: (written c now rest).1,
              balance.toList.map
                  (fun b => (record.field "id", b)) ++
                (written c now rest).2)

/- The container with the records and balances in a row. -/
def filledWith
    (filled : AccountsContainer)
    (writes : List JsValue × List (JsValue × Balance)) :
    AccountsContainer :=
  { filled with
      accounts := filled.accounts.setAll (writes.1.map keyed)
      balances := filled.balances.setAll writes.2 }

theorem hydrateAll_eq
    (c : AccountsContainer)
    (now : String)
    (list : List JsValue)
    (filled : AccountsContainer) :
    (c.hydrateAll now list filled).2 =
      filled.filledWith (c.written now list) := by
  induction list generalizing filled with
  | nil => rfl
  | cons raw rest ih =>
      unfold hydrateAll hydrateOne written
      cases hImported : c.imported raw with
      | error error => rfl
      | ok record =>
          dsimp only
          cases hBalance : knownBalance now record with
          | error error => rfl
          | ok balance =>
              cases balance with
              | none =>
                  dsimp only
                  rw [ih]
                  rfl
              | some balance =>
                  dsimp only
                  rw [ih]
                  rfl

theorem hydrateAll_none_iff
    (c : AccountsContainer)
    (now : String)
    (list : List JsValue)
    (filled : AccountsContainer) :
    (c.hydrateAll now list filled).1 = none ↔
      ∀ raw ∈ list, c.Readable now raw := by
  induction list generalizing filled with
  | nil => simp [hydrateAll]
  | cons raw rest ih =>
      rw [List.forall_mem_cons]
      unfold hydrateAll hydrateOne Readable
      cases hImported : c.imported raw with
      | error error => simp
      | ok record =>
          dsimp only
          cases hBalance : knownBalance now record with
          | error error => simp [hBalance]
          | ok balance =>
              have hHead :
                  ∃ kept known,
                    (Except.ok record : Except JsError _) =
                        .ok kept ∧
                      knownBalance now kept = .ok known :=
                ⟨record, balance, rfl, hBalance⟩
              cases balance with
              | none =>
                  dsimp only
                  rw [ih]
                  exact ⟨fun h => ⟨hHead, h⟩, And.right⟩
              | some balance =>
                  dsimp only
                  rw [ih]
                  exact ⟨fun h => ⟨hHead, h⟩, And.right⟩

/-
  Memory holds already what a list comes to: the records and
  no others, in their order, and their balances.
-/
structure Reproduces
    (c : AccountsContainer)
    (now : String)
    (list : List JsValue) : Prop where
  accounts :
    c.accounts =
      OrderedMap.ofList ((c.written now list).1.map keyed)
  balances :
    ∀ id balance,
      (OrderedMap.ofList (c.written now list).2).get? id =
          some balance →
        c.balances.get? id = some balance

theorem filledWith_eq_self_iff
    (c : AccountsContainer)
    (now : String)
    (list : List JsValue) :
    { c with accounts := .empty }.filledWith
        (c.written now list) = c ↔
      c.Reproduces now list := by
  constructor
  · intro hSame
    have hAccounts := congrArg accounts hSame
    have hBalances := congrArg balances hSame
    exact ⟨hAccounts.symm,
      (OrderedMap.setAll_eq_self_iff c.balances _).mp hBalances⟩
  · intro hHolds
    have hBalances :=
      (OrderedMap.setAll_eq_self_iff c.balances _).mpr
        hHolds.balances
    unfold filledWith
    dsimp only
    rw [hBalances]
    exact congrArg
      (fun accounts => { c with accounts := accounts })
      hHolds.accounts.symm

/-
  A hydration leaves memory as it is if it repeats it, and
  sets the same revision in case that it gets to its end.
-/
theorem hydrate_eq_self_iff
    (c : AccountsContainer)
    (now : String)
    (accountsList : JsValue)
    (revision : Nat) :
    (c.hydrate now accountsList revision).2 = c ↔
      c.Reproduces now accountsList.items ∧
        ((∀ raw ∈ accountsList.items, c.Readable now raw) →
          c.revision = revision) := by
  have hFilled :=
    hydrateAll_eq c now accountsList.items
      { c with accounts := .empty }
  rw [← hydrateAll_none_iff c now accountsList.items
      { c with accounts := .empty },
    ← filledWith_eq_self_iff, ← hFilled]
  unfold hydrate
  cases hLoop :
      c.hydrateAll now accountsList.items
        { c with accounts := .empty } with
  | mk answer filled =>
      rw [hLoop] at hFilled
      have hRevision : filled.revision = c.revision := by
        have hSame := congrArg AccountsContainer.revision hFilled
        exact hSame
      cases answer with
      | some error => simp
      | none =>
          dsimp only
          constructor
          · intro hSame
            have hEnd : revision = c.revision :=
              congrArg AccountsContainer.revision hSame
            refine ⟨?_, fun _ => hEnd.symm⟩
            rw [hEnd, ← hRevision] at hSame
            exact hSame
          · rintro ⟨hSame, hEnd⟩
            rw [← hEnd rfl, hSame]

theorem hydrate_none_iff
    (c : AccountsContainer)
    (now : String)
    (accountsList : JsValue)
    (revision : Nat) :
    (c.hydrate now accountsList revision).1 = none ↔
      ∀ raw ∈ accountsList.items, c.Readable now raw := by
  rw [← hydrateAll_none_iff c now accountsList.items
      { c with accounts := .empty }]
  unfold hydrate
  split
  · rename_i hLoop
    rw [hLoop]
  · rename_i hLoop
    rw [hLoop]

end AccountsContainer

------------------------------------------------------------
-- Records That Can Be Read
------------------------------------------------------------

/- Empty, or a text. -/
def Legible (password : JsValue) : Prop :=
  password.truthy = false ∨ ∃ text, password = .text text

/- An account with the fields that a hydration relies on. -/
structure WellFormed (record : JsValue) : Prop where
  object : ∃ members, record = .object members
  platform : ∃ text, platformOf record = .text text
  username :
    ∃ text, record.field "accountUsername" = .text text
  password : Legible (record.field "accountPassword")
  stored : Legible (record.field "account_password")
  acyclic : ∃ clean, sanitize false record = .ok clean
  balance :
    record.field "lastKnownBalance" = .undefined ∨
      ∃ n, record.field "lastKnownBalance" = .number n

theorem includesAny_text
    (text : String)
    (marks : List String) :
    ∃ masked, includesAny (.text text) marks = .ok masked := by
  induction marks with
  | nil => exact ⟨_, rfl⟩
  | cons mark marks ih =>
      unfold includesAny
      cases hIncludes : includesText text mark with
      | true =>
          refine ⟨true, ?_⟩
          simp only [JsValue.includes, hIncludes, bind_ok,
            if_true]
          rfl
      | false =>
          rcases ih with ⟨masked, hMasked⟩
          refine ⟨masked, ?_⟩
          simpa [JsValue.includes, hIncludes, bind_ok]
            using hMasked

theorem isMaskedPassword_ok
    {password : JsValue}
    (hLegible : Legible password) :
    ∃ masked, isMaskedPassword password = .ok masked := by
  unfold isMaskedPassword isMasked
  rcases hLegible with hEmpty | ⟨text, rfl⟩
  · rw [hEmpty]
    exact ⟨true, rfl⟩
  · split
    · exact ⟨true, rfl⟩
    · split
      · exact ⟨true, rfl⟩
      · exact includesAny_text text memoryMarks

theorem knownPassword_ok
    {record : Option JsValue}
    (hRecord : ∀ r ∈ record, WellFormed r) :
    ∃ password, knownPassword record = .ok password := by
  cases record with
  | none => exact ⟨_, rfl⟩
  | some record =>
      rcases isMaskedPassword_ok (hRecord record rfl).password
        with ⟨masked, hMasked⟩
      unfold knownPassword
      dsimp only
      rw [hMasked]
      cases masked <;> exact ⟨_, rfl⟩

theorem importedPassword_ok
    {raw : JsValue}
    {existing : Option JsValue}
    (hRaw : WellFormed raw)
    (hExisting : ∀ r ∈ existing, WellFormed r) :
    ∃ password, importedPassword raw existing = .ok password := by
  rcases isMaskedPassword_ok hRaw.password with
    ⟨masked, hMasked⟩
  rcases isMaskedPassword_ok hRaw.stored with
    ⟨hidden, hHidden⟩
  unfold importedPassword chosenPassword
  rw [hMasked, hHidden]
  cases masked with
  | false => exact ⟨_, rfl⟩
  | true =>
      cases hidden with
      | false => exact ⟨_, rfl⟩
      | true => exact knownPassword_ok hExisting

theorem findAmong_ok
    (platform username : String)
    (accounts : List JsValue)
    (hAccounts : ∀ account ∈ accounts, WellFormed account) :
    ∃ found,
      findAmong platform username accounts = .ok found ∧
        ∀ r ∈ found, WellFormed r := by
  induction accounts with
  | nil => exact ⟨none, rfl, by simp⟩
  | cons account rest ih =>
      have hHead := hAccounts account List.mem_cons_self
      rcases hHead.platform with ⟨platformText, hPlatform⟩
      rcases hHead.username with ⟨usernameText, hUsername⟩
      have hRest :=
        ih (fun r hMem =>
          hAccounts r (List.mem_cons_of_mem _ hMem))
      unfold findAmong
      rw [hPlatform, hUsername]
      by_cases hSame : platformText.toLower = platform
      · by_cases hUser : usernameText.toLower = username
        · refine ⟨some account, ?_, ?_⟩
          · simp only [JsValue.toLowerCase, bind_ok, hSame,
              hUser, if_true]
            rfl
          · intro r hFound
            cases hFound
            exact hHead
        · simpa [JsValue.toLowerCase, bind_ok, hSame, hUser]
            using hRest
      · simpa [JsValue.toLowerCase, bind_ok, hSame] using hRest

theorem findExisting_ok
    {c : AccountsContainer}
    {raw : JsValue}
    (hMemory : ∀ account ∈ c.accounts.values, WellFormed account)
    (hRaw : WellFormed raw) :
    ∃ found, c.findExisting raw = .ok found ∧
      ∀ r ∈ found, WellFormed r := by
  rcases hRaw.platform with ⟨platformText, hPlatform⟩
  rcases hRaw.username with ⟨usernameText, hUsername⟩
  have hPresent : raw.isNullish = false := by
    rcases hRaw.object with ⟨members, rfl⟩
    rfl
  unfold AccountsContainer.findExisting JsValue.read
  rw [hPresent, hPlatform, hUsername]
  rw [if_neg Bool.false_ne_true, bind_ok]
  cases hGet : c.accounts.get? (raw.field "id") with
  | some existing =>
      refine ⟨some existing, rfl, ?_⟩
      intro r hFound
      cases hFound
      refine hMemory existing ?_
      have hMem :=
        (OrderedMap.get?_eq_some_iff c.accounts _ existing).mp
          hGet
      exact List.mem_map.mpr ⟨_, hMem, rfl⟩
  | none =>
      dsimp only
      split
      · exact ⟨none, rfl, by simp⟩
      · exact findAmong_ok _ _ _ hMemory

/- A plain member of a clean copy is the member cleaned. -/
theorem lookup_sanitizeMembers
    {throwOnDetection : Bool}
    {members clean : List (String × JsValue)}
    {name : String}
    (hName : isForbiddenKey name = false)
    (hClean :
      sanitizeMembers throwOnDetection members = .ok clean)
    {value : JsValue}
    (hValue : (members.lookup name).getD .undefined = value)
    (hKept : sanitize throwOnDetection value = .ok value) :
    (clean.lookup name).getD .undefined = value := by
  induction members generalizing clean with
  | nil =>
      cases hClean
      exact hValue
  | cons member members ih =>
      rcases member with ⟨key, found⟩
      rw [sanitizeMembers] at hClean
      by_cases hForbidden : isForbiddenKey key = true
      · have hNe : name ≠ key := by
          intro hSame
          rw [hSame, hForbidden] at hName
          cases hName
        rw [List.lookup_cons, beq_eq_false_iff_ne.mpr hNe]
          at hValue
        rw [if_pos hForbidden] at hClean
        split at hClean
        · rcases bind_eq_ok.mp hClean with ⟨rest, hRest, hClean⟩
          cases hClean
          rw [List.lookup_cons, beq_eq_false_iff_ne.mpr hNe]
          exact ih hRest hValue
        · split at hClean
          · cases hClean
          · split at hClean
            · rcases bind_eq_ok.mp hClean with
                ⟨rest, hRest, hClean⟩
              cases hClean
              rw [List.lookup_cons, beq_eq_false_iff_ne.mpr hNe]
              exact ih hRest hValue
            · exact ih hClean hValue
      · rw [if_neg hForbidden] at hClean
        rcases bind_eq_ok.mp hClean with ⟨copy, hCopy, hClean⟩
        rcases bind_eq_ok.mp hClean with ⟨rest, hRest, hClean⟩
        cases hClean
        rw [List.lookup_cons] at hValue ⊢
        by_cases hSame : name = key
        · rw [beq_iff_eq.mpr hSame] at hValue ⊢
          simp only [Option.getD_some] at hValue
          rw [hValue, hKept] at hCopy
          cases hCopy
          rfl
        · rw [beq_eq_false_iff_ne.mpr hSame] at hValue ⊢
          exact ih hRest hValue

/-
  Nothing but the database makes a replacement fail whose
  elements are well formed, as the accounts in memory are.
-/
theorem readable_of_wellFormed
    {c : AccountsContainer}
    {raw : JsValue}
    (now : String)
    (hMemory : ∀ account ∈ c.accounts.values, WellFormed account)
    (hRaw : WellFormed raw) :
    c.Readable now raw := by
  rcases findExisting_ok hMemory hRaw with
    ⟨existing, hExisting, hFound⟩
  rcases importedPassword_ok hRaw hFound with
    ⟨password, hPassword⟩
  rcases hRaw.object with ⟨members, rfl⟩
  rcases hRaw.acyclic with ⟨clean, hClean⟩
  have hImported :
      c.imported (.object members) =
        .ok (clean.withMembers
          [("accountPassword", password)]) := by
    unfold AccountsContainer.imported
    rw [hExisting, bind_ok, hPassword, bind_ok, hClean]
    rfl
  rcases bind_eq_ok.mp hClean with ⟨copy, hCopy, hDone⟩
  cases hDone
  have hSame :
      ∀ value,
        (JsValue.object members).field "lastKnownBalance" =
            value →
          sanitize false value = .ok value →
            ((JsValue.object copy).withMembers
              [("accountPassword", password)]).field
                "lastKnownBalance" = value := by
    intro value hValue hKept
    change
      ((JsValue.assign copy
        ("accountPassword", password)).lookup
          "lastKnownBalance").getD .undefined = value
    have hNe : "lastKnownBalance" ≠ "accountPassword" := by
      decide
    rw [JsValue.lookup_assign_of_ne hNe]
    exact lookup_sanitizeMembers (by decide) hCopy hValue hKept
  have hBalance :
      ∃ balance,
        knownBalance now
            ((JsValue.object copy).withMembers
              [("accountPassword", password)]) =
          .ok balance := by
    unfold knownBalance
    rcases hRaw.balance with hNone | ⟨n, hNumber⟩
    · rw [if_pos (hSame _ hNone rfl)]
      exact ⟨none, rfl⟩
    · rw [hSame _ hNumber rfl, if_neg (by simp)]
      exact ⟨_, rfl⟩
  rcases hBalance with ⟨balance, hBalance⟩
  exact ⟨_, balance, hImported, hBalance⟩

------------------------------------------------------------
-- What A Mutation Leaves
------------------------------------------------------------

variable {σ : Type}

/- One of the containers has counted the mutation. -/
def Counted (s t : StateStore σ) : Prop :=
  t.accounts.revision = s.accounts.revision + 1 ∨
    t.config.revision = s.config.revision + 1 ∨
    t.billing.revision = s.billing.revision + 1 ∨
    t.settings.revision = s.settings.revision + 1

theorem Counted.ne
    {s t : StateStore σ}
    (hCounted : Counted s t) :
    t.withTables s.tables ≠ s := by
  intro hSame
  have hAccounts :=
    congrArg (fun s => s.accounts.revision) hSame
  have hConfig := congrArg (fun s => s.config.revision) hSame
  have hBilling := congrArg (fun s => s.billing.revision) hSame
  have hSettings :=
    congrArg (fun s => s.settings.revision) hSame
  unfold Counted at hCounted
  simp only [StateStore.withTables] at hAccounts hConfig
  simp only [StateStore.withTables] at hBilling hSettings
  omega

/- A mutation that gets to its end and is counted. -/
def Completes
    (s : StateStore σ)
    (outcome : Mutated σ) : Prop :=
  (∃ result, outcome.1 = .ok result) ∧ Counted s outcome.2

namespace AccountsContainer

theorem revision_upsert
    {c next : AccountsContainer}
    {now uuid : String}
    {accountData record : JsValue}
    (hUpsert :
      c.upsert now uuid accountData = .ok (record, next)) :
    next.revision = c.revision + 1 := by
  unfold upsert at hUpsert
  rcases bind_eq_ok.mp hUpsert with ⟨_, _, hUpsert⟩
  rcases bind_eq_ok.mp hUpsert with ⟨_, _, hUpsert⟩
  rcases bind_eq_ok.mp hUpsert with ⟨existing, _, hUpsert⟩
  split at hUpsert
  · cases hUpsert
  · rcases bind_eq_ok.mp hUpsert with ⟨_, _, hUpsert⟩
    rcases bind_eq_ok.mp hUpsert with ⟨_, _, hUpsert⟩
    rcases bind_eq_ok.mp hUpsert with ⟨_, _, hUpsert⟩
    cases hUpsert
    rfl

end AccountsContainer

namespace StateStore

theorem upsertAccount_completes
    {sql : Sqlite σ}
    {s : StateStore σ}
    {occasion : Occasion}
    {account : JsValue}
    {outcome : Mutated σ}
    (hApply :
      s.upsertAccount sql occasion account = .ok outcome) :
    Completes s outcome := by
  unfold upsertAccount at hApply
  rcases bind_eq_ok.mp hApply with ⟨_, _, hApply⟩
  rcases bind_eq_ok.mp hApply with ⟨_, _, hApply⟩
  rcases bind_eq_ok.mp hApply with
    ⟨⟨record, accounts⟩, hUpsert, hApply⟩
  cases hApply
  exact ⟨⟨record, rfl⟩,
    .inl (AccountsContainer.revision_upsert hUpsert)⟩

theorem resetObservedStates_completes
    {sql : Sqlite σ}
    {s : StateStore σ}
    {occasion : Occasion}
    {reason : JsValue}
    {outcome : Mutated σ}
    (hApply :
      s.resetObservedStates sql occasion reason =
        .ok outcome) :
    Completes s outcome := by
  unfold resetObservedStates at hApply
  rcases bind_eq_ok.mp hApply with ⟨_, _, hApply⟩
  cases hApply
  exact ⟨⟨_, rfl⟩, .inl rfl⟩

theorem updateAccountOverride_completes
    {sql : Sqlite σ}
    {s : StateStore σ}
    {occasion : Occasion}
    {accId updates : JsValue}
    {outcome : Mutated σ}
    (hApply :
      s.updateAccountOverride sql occasion accId updates =
        .ok outcome) :
    Completes s outcome := by
  unfold updateAccountOverride at hApply
  dsimp only at hApply
  split at hApply
  · cases hApply
    exact ⟨⟨_, rfl⟩, .inr (.inl rfl)⟩
  · rcases bind_eq_ok.mp hApply with ⟨_, _, hApply⟩
    cases hApply
    exact ⟨⟨_, rfl⟩, .inr (.inl rfl)⟩

theorem updateSubscription_completes
    {sql : Sqlite σ}
    {s : StateStore σ}
    {occasion : Occasion}
    {updates : JsValue}
    {outcome : Mutated σ}
    (hApply :
      s.updateSubscription sql occasion updates =
        .ok outcome) :
    Completes s outcome := by
  unfold updateSubscription at hApply
  rcases bind_eq_ok.mp hApply with ⟨_, _, hApply⟩
  rcases bind_eq_ok.mp hApply with ⟨_, hUpdate, hApply⟩
  unfold BillingContainer.updateSubscription at hUpdate
  rcases bind_eq_ok.mp hUpdate with ⟨_, _, hUpdate⟩
  cases hUpdate
  cases hApply
  exact ⟨⟨_, rfl⟩, .inr (.inr (.inl rfl))⟩

theorem addInvoice_completes
    {sql : Sqlite σ}
    {s : StateStore σ}
    {occasion : Occasion}
    {invoice : JsValue}
    {outcome : Mutated σ}
    (hApply :
      s.addInvoice sql occasion invoice = .ok outcome) :
    Completes s outcome := by
  unfold addInvoice at hApply
  rcases bind_eq_ok.mp hApply with ⟨_, _, hApply⟩
  rcases bind_eq_ok.mp hApply with ⟨_, hAdd, hApply⟩
  unfold BillingContainer.addInvoice at hAdd
  rcases bind_eq_ok.mp hAdd with ⟨_, _, hAdd⟩
  rcases bind_eq_ok.mp hAdd with ⟨_, _, hAdd⟩
  cases hAdd
  cases hApply
  exact ⟨⟨_, rfl⟩, .inr (.inr (.inl rfl))⟩

/- Each change of the settings is counted. -/
theorem updateSettings_completes
    {sql : Sqlite σ}
    {s : StateStore σ}
    {occasion : Occasion}
    {name : String}
    {updates : JsValue}
    {change : SettingsContainer → Except JsError SettingsContainer}
    {outcome : Mutated σ}
    (hChange :
      ∀ settings, change s.settings = .ok settings →
        settings.revision = s.settings.revision + 1)
    (hApply :
      s.updateSettings sql occasion name updates change =
        .ok outcome) :
    Completes s outcome := by
  unfold updateSettings at hApply
  rcases bind_eq_ok.mp hApply with ⟨_, _, hApply⟩
  rcases bind_eq_ok.mp hApply with
    ⟨settings, hSettings, hApply⟩
  cases hApply
  exact ⟨⟨_, rfl⟩,
    .inr (.inr (.inr (hChange settings hSettings)))⟩

theorem updateProfile_completes
    {sql : Sqlite σ}
    {s : StateStore σ}
    {occasion : Occasion}
    {profile : JsValue}
    {outcome : Mutated σ}
    (hApply :
      s.updateProfile sql occasion profile = .ok outcome) :
    Completes s outcome := by
  refine updateSettings_completes ?_ hApply
  intro settings hSettings
  unfold SettingsContainer.updateProfile at hSettings
  rcases bind_eq_ok.mp hSettings with ⟨_, _, hSettings⟩
  cases hSettings
  rfl

theorem mapM_mem
    {α β ε : Type}
    {f : α → Except ε β}
    {xs : List α}
    {ys : List β}
    (hMap : xs.mapM f = .ok ys)
    {x : α}
    (hMem : x ∈ xs) :
    ∃ y, f x = .ok y := by
  induction xs generalizing ys with
  | nil => cases hMem
  | cons first rest ih =>
      rw [List.mapM_cons] at hMap
      rcases bind_eq_ok.mp hMap with ⟨y, hFirst, hMap⟩
      rcases bind_eq_ok.mp hMap with ⟨zs, hRest, _⟩
      rcases List.mem_cons.mp hMem with rfl | hLater
      · exact ⟨y, hFirst⟩
      · exact ih hRest hLater

/- Every category that is stored has had a JSON text. -/
theorem json_of_saveConfig
    {sql : Sqlite σ}
    {userId now category : String}
    {config : JsValue}
    {tables saved : σ}
    (hSave : saveConfig sql userId now config tables = .ok saved)
    (hCategory : category ∈ categories) :
    ∃ data, (config.field category).json = .ok data := by
  unfold saveConfig at hSave
  rcases bind_eq_ok.mp hSave with ⟨_, _, hSave⟩
  rcases bind_eq_ok.mp hSave with ⟨columns, hColumns, _⟩
  rcases mapM_mem hColumns hCategory with ⟨_, hText⟩
  unfold stringify at hText
  rcases bind_eq_ok.mp hText with ⟨data, hJson, _⟩
  exact ⟨data, hJson⟩

theorem mem_categories_of_validated
    {category : String}
    {values : JsValue}
    (hValid : validateCategoryValues category values = .ok ()) :
    category ∈ categories := by
  unfold validateCategoryValues at hValid
  split at hValid
  · cases hValid
  · rename_i hKnown
    exact Decidable.not_not.mp hKnown

/- A category that was read, and is written, can be read. -/
theorem getCategory_withCategory
    {c : ConfigContainer}
    {category : String}
    {current values : JsValue}
    (hCurrent : c.getCategory category = .ok current)
    (hStored :
      ∃ data, (current.spread values).json = .ok data) :
    ∃ result,
      (c.withCategory category values).getCategory category =
        .ok result := by
  unfold ConfigContainer.getCategory at hCurrent
  split at hCurrent
  · cases hCurrent
  · unfold JsValue.jsonCopy at hCurrent
    rcases bind_eq_ok.mp hCurrent with ⟨found, hJson, hFound⟩
    cases found with
    | none => cases hFound
    | some data =>
        rcases JsValue.json_spread hJson hStored with
          ⟨result, hResult⟩
        refine ⟨result, ?_⟩
        unfold ConfigContainer.getCategory
          ConfigContainer.withCategory
        rw [JsValue.field_withMembers_self,
          if_neg (by simp [JsValue.spread, JsValue.truthy])]
        unfold JsValue.jsonCopy
        rw [hResult]
        rfl

/-
  The values of a category are read back as they have been
  written, since they had a JSON text for the table.
-/
theorem updateCategory_completes
    {sql : Sqlite σ}
    {s : StateStore σ}
    {occasion : Occasion}
    {category values : JsValue}
    {outcome : Mutated σ}
    (hApply :
      s.updateCategory sql occasion category values =
        .ok outcome) :
    Completes s outcome := by
  unfold updateCategory at hApply
  split at hApply
  · rename_i category
    rcases bind_eq_ok.mp hApply with
      ⟨current, hCurrent, hApply⟩
    rcases bind_eq_ok.mp hApply with ⟨full, _, hApply⟩
    rcases bind_eq_ok.mp hApply with ⟨tables, hSave, hApply⟩
    rcases bind_eq_ok.mp hApply with
      ⟨⟨answer, config⟩, hUpdate, hApply⟩
    cases hApply
    unfold ConfigContainer.updateCategory at hUpdate
    rcases bind_eq_ok.mp hUpdate with ⟨_, hValid, hUpdate⟩
    cases hUpdate
    refine ⟨?_, .inr (.inl rfl)⟩
    have hStored :=
      json_of_saveConfig hSave
        (mem_categories_of_validated hValid)
    rw [JsValue.field_withMembers_self] at hStored
    exact getCategory_withCategory hCurrent hStored
  · cases hApply

end StateStore

------------------------------------------------------------
-- Conditions On A Mutation
------------------------------------------------------------

namespace GroupMutation

/- The hydration of a replacement gets over every element. -/
def Readable
    (s : StateStore σ)
    (now : String) : GroupMutation → Prop
| .replaceAll accountsList =>
    ∀ raw ∈ accountsList.items, s.accounts.Readable now raw
| _ => True

/-
  The containers hold already what the mutation writes: there
  is no such account, or a list repeats the accounts.
-/
def Repeats
    (s : StateStore σ)
    (now : String)
    (nextRevision : Nat) : GroupMutation → Prop
| .delete id _ => s.accounts.accounts.has id = false
| .updateExecutionState id _ _ =>
    s.accounts.accounts.get? id = none
| .replaceAll accountsList =>
    s.accounts.Reproduces now accountsList.items ∧
      ((∀ raw ∈ accountsList.items,
          s.accounts.Readable now raw) →
        s.accounts.revision = nextRevision)
| _ => False

/-
  A mutation that has written the containers gets to its end
  unless it cannot read a list, and leaves them as they were
  only if it repeats them.
-/
def Leaves
    (s : StateStore σ)
    (now : String)
    (nextRevision : Nat)
    (mutation : GroupMutation)
    (outcome : Mutated σ) : Prop :=
  ((∃ result, outcome.1 = .ok result) ↔
      mutation.Readable s now) ∧
    (outcome.2.withTables s.tables = s ↔
      mutation.Repeats s now nextRevision)

theorem leaves_of_completes
    {s : StateStore σ}
    {now : String}
    {nextRevision : Nat}
    {mutation : GroupMutation}
    {outcome : Mutated σ}
    (hReadable : mutation.Readable s now)
    (hRepeats : ¬ mutation.Repeats s now nextRevision)
    (hCompletes : Completes s outcome) :
    mutation.Leaves s now nextRevision outcome :=
  ⟨iff_of_true hCompletes.1 hReadable,
    iff_of_false hCompletes.2.ne hRepeats⟩

theorem deleteAccount_leaves
    {sql : Sqlite σ}
    {s : StateStore σ}
    {id expected : JsValue}
    {outcome : Mutated σ}
    (now : String)
    (nextRevision : Nat)
    (hApply : s.deleteAccount sql id = .ok outcome) :
    (GroupMutation.delete id expected).Leaves s now nextRevision
      outcome := by
  unfold StateStore.deleteAccount at hApply
  rcases bind_eq_ok.mp hApply with ⟨tables, _, hApply⟩
  cases hApply
  refine ⟨iff_of_true ⟨_, rfl⟩ trivial, ?_⟩
  change _ ↔ s.accounts.accounts.has id = false
  cases hHas : s.accounts.accounts.has id with
  | true =>
      refine iff_of_false (Counted.ne (.inl ?_)) (by simp)
      unfold AccountsContainer.delete
      rw [if_pos hHas]
  | false =>
      refine iff_of_true ?_ rfl
      unfold AccountsContainer.delete
      rw [hHas]
      rfl

theorem updateExecutionState_leaves
    {sql : Sqlite σ}
    {s : StateStore σ}
    {occasion : Occasion}
    {id stateUpdate expected : JsValue}
    {outcome : Mutated σ}
    (nextRevision : Nat)
    (hApply :
      s.updateExecutionState sql occasion id stateUpdate =
        .ok outcome) :
    (GroupMutation.updateExecutionState id stateUpdate
      expected).Leaves s occasion.now nextRevision outcome := by
  unfold StateStore.updateExecutionState at hApply
  cases hCurrent : s.accounts.accounts.get? id with
  | none =>
      rw [hCurrent] at hApply
      cases hApply
      exact ⟨iff_of_true ⟨_, rfl⟩ trivial,
        iff_of_true rfl hCurrent⟩
  | some current =>
      rw [hCurrent] at hApply
      rcases bind_eq_ok.mp hApply with ⟨_, _, hApply⟩
      rcases bind_eq_ok.mp hApply with ⟨tables, _, hApply⟩
      cases hApply
      refine ⟨iff_of_true ⟨_, rfl⟩ trivial, ?_⟩
      refine iff_of_false (Counted.ne (.inl ?_)) ?_
      · unfold AccountsContainer.updateExecutionState
        rw [hCurrent]
      · change s.accounts.accounts.get? id ≠ none
        rw [hCurrent]
        exact Option.some_ne_none current

theorem replaceAllAccounts_leaves
    {sql : Sqlite σ}
    {s : StateStore σ}
    {occasion : Occasion}
    {accountsList : JsValue}
    {nextRevision : Nat}
    {outcome : Mutated σ}
    (hApply :
      s.replaceAllAccounts sql occasion accountsList
        nextRevision = .ok outcome) :
    (GroupMutation.replaceAll accountsList).Leaves s occasion.now
      nextRevision outcome := by
  unfold StateStore.replaceAllAccounts at hApply
  rcases bind_eq_ok.mp hApply with ⟨tables, _, hApply⟩
  cases hApply
  constructor
  · change _ ↔ ∀ raw ∈ accountsList.items, _
    rw [← AccountsContainer.hydrate_none_iff s.accounts
      occasion.now accountsList nextRevision]
    cases (s.accounts.hydrate occasion.now accountsList
        nextRevision).1 with
    | none => exact iff_of_true ⟨_, rfl⟩ rfl
    | some error => simp
  · refine Iff.trans ?_
      (AccountsContainer.hydrate_eq_self_iff s.accounts
        occasion.now accountsList nextRevision)
    constructor
    · intro hSame
      exact congrArg StateStore.accounts hSame
    · intro hSame
      dsimp only
      rw [hSame]
      rfl

theorem apply_leaves
    {sql : Sqlite σ}
    {s : StateStore σ}
    {occasion : Occasion}
    {mutation : GroupMutation}
    {nextRevision : Nat}
    {outcome : Mutated σ}
    (hApply :
      mutation.apply sql s occasion nextRevision =
        .ok outcome) :
    mutation.Leaves s occasion.now nextRevision outcome := by
  cases mutation with
  | upsert account expected =>
      exact leaves_of_completes trivial id
        (StateStore.upsertAccount_completes hApply)
  | delete id expected =>
      exact deleteAccount_leaves occasion.now nextRevision
        hApply
  | updateExecutionState id stateUpdate expected =>
      exact updateExecutionState_leaves nextRevision hApply
  | replaceAll accountsList =>
      exact replaceAllAccounts_leaves hApply
  | resetObservedStates reason =>
      exact leaves_of_completes trivial id
        (StateStore.resetObservedStates_completes hApply)
  | updateCategory category values expected =>
      exact leaves_of_completes trivial id
        (StateStore.updateCategory_completes hApply)
  | updateAccountOverride accId updates expected =>
      exact leaves_of_completes trivial id
        (StateStore.updateAccountOverride_completes hApply)
  | updateSubscription updates expected =>
      exact leaves_of_completes trivial id
        (StateStore.updateSubscription_completes hApply)
  | addInvoice invoice =>
      exact leaves_of_completes trivial id
        (StateStore.addInvoice_completes hApply)
  | updateProfile profile expected =>
      exact leaves_of_completes trivial id
        (StateStore.updateProfile_completes hApply)
  | updatePresentation prefs expected =>
      change s.updatePresentation sql occasion prefs = _
        at hApply
      unfold StateStore.updatePresentation at hApply
      refine leaves_of_completes trivial id
        (StateStore.updateSettings_completes ?_ hApply)
      intro settings hSettings
      cases hSettings
      rfl
  | updateSecurity sec expected =>
      change s.updateSecurity sql occasion sec = _ at hApply
      unfold StateStore.updateSecurity at hApply
      refine leaves_of_completes trivial id
        (StateStore.updateSettings_completes ?_ hApply)
      intro settings hSettings
      cases hSettings
      rfl

/- Refused before a container has been written. -/
def TurnedAway
    (sql : Sqlite σ)
    (s : StateStore σ)
    (occasion : Occasion)
    (current : Nat)
    (mutation : GroupMutation) : Prop :=
  conflicts mutation.expectedRevision current = true ∨
    ∃ error,
      mutation.apply sql s occasion (current + 1) =
        .error error

theorem applied_of_not_turnedAway
    {sql : Sqlite σ}
    {s : StateStore σ}
    {occasion : Occasion}
    {current : Nat}
    {mutation : GroupMutation}
    (hAway : ¬ mutation.TurnedAway sql s occasion current) :
    conflicts mutation.expectedRevision current = false ∧
      ∃ outcome,
        mutation.apply sql s occasion (current + 1) =
          .ok outcome := by
  unfold TurnedAway at hAway
  rcases not_or.mp hAway with ⟨hConflicts, hErrors⟩
  refine ⟨Bool.eq_false_iff.mpr hConflicts, ?_⟩
  cases hApply :
      mutation.apply sql s occasion (current + 1) with
  | error error => exact absurd ⟨error, hApply⟩ hErrors
  | ok outcome => exact ⟨outcome, rfl⟩

end GroupMutation

------------------------------------------------------------
-- Failed Calls
------------------------------------------------------------

/-
  The tables and the containers are as before, and so is what
  every later call does.
-/
structure StateStore.ChangesNothing
    (sql : Sqlite σ)
    (s t : StateStore σ) : Prop where
  userId : t.userId = s.userId
  tables : t.tables = s.tables
  accounts : t.accounts = s.accounts
  config : t.config = s.config
  billing : t.billing = s.billing
  settings : t.settings = s.settings
  usable :
    ∀ occasion call,
      t.perform sql occasion call = s.perform sql occasion call

theorem StateStore.changesNothing_iff
    (sql : Sqlite σ)
    (s t : StateStore σ) :
    s.ChangesNothing sql t ↔ t = s := by
  constructor
  · intro hSame
    cases s
    cases t
    cases hSame.userId
    cases hSame.tables
    cases hSame.accounts
    cases hSame.config
    cases hSame.billing
    cases hSame.settings
    rfl
  · rintro rfl
    exact ⟨rfl, rfl, rfl, rfl, rfl, rfl, fun _ _ => rfl⟩

/-
  A call does no harm when it fails if it is turned away, if
  the database takes the revision and no element of a list is
  unreadable, or if it repeats what the containers hold.
-/
def MutatorCall.Harmless
    (sql : Sqlite σ)
    (s : StateStore σ)
    (occasion : Occasion) : MutatorCall → Prop
| .updateBalance _ _ _ => True
| .transaction mutation =>
    ∀ current,
      s.currentRevision sql mutation.group = .ok current →
        mutation.TurnedAway sql s occasion current ∨
          (occasion.closing = none ∧
            mutation.Readable s occasion.now) ∨
          mutation.Repeats s occasion.now (current + 1)

namespace StateStore

theorem updateBalance_failed
    {s : StateStore σ}
    {occasion : Occasion}
    {id balance currencySymbol : JsValue}
    {error : JsError}
    (hFailed :
      (s.updateBalance occasion id balance currencySymbol).1 =
        .error error) :
    (s.updateBalance occasion id balance currencySymbol).2 =
      s := by
  unfold updateBalance at hFailed ⊢
  split
  · rfl
  · rename_i hUpdate
    rw [hUpdate] at hFailed
    cases hFailed

/- A transaction that has written no container. -/
theorem executeGroupTransaction_refused
    {sql : Sqlite σ}
    {s : StateStore σ}
    {occasion : Occasion}
    {group : String}
    {expectedRevision : JsValue}
    {mutationFn : Nat → Except JsError (Mutated σ)}
    (hRefused :
      ∀ current, s.currentRevision sql group = .ok current →
        conflicts expectedRevision current = true ∨
          ∃ error, mutationFn (current + 1) = .error error) :
    (s.executeGroupTransaction sql occasion group
      expectedRevision mutationFn).2 = s := by
  unfold executeGroupTransaction
  cases hCurrent : s.currentRevision sql group with
  | error error => rfl
  | ok current =>
      dsimp only
      rcases hRefused current hCurrent with
        hConflicts | ⟨error, hError⟩
      · rw [if_pos hConflicts]
      · rw [hError]
        split <;> rfl

/- A transaction that has written the containers. -/
theorem executeGroupTransaction_applied
    {sql : Sqlite σ}
    {s : StateStore σ}
    {occasion : Occasion}
    {group : String}
    {expectedRevision : JsValue}
    {mutationFn : Nat → Except JsError (Mutated σ)}
    {current : Nat}
    {outcome : Mutated σ}
    (hCurrent : s.currentRevision sql group = .ok current)
    (hConflicts : conflicts expectedRevision current = false)
    (hApply : mutationFn (current + 1) = .ok outcome) :
    ((∃ error,
        (s.executeGroupTransaction sql occasion group
          expectedRevision mutationFn).1 = .error error) →
      (s.executeGroupTransaction sql occasion group
        expectedRevision mutationFn).2 = s) ↔
      (occasion.closing = none ∧
          ∃ result, outcome.1 = .ok result) ∨
        outcome.2.withTables s.tables = s := by
  unfold executeGroupTransaction
  rw [hCurrent]
  dsimp only
  rw [hConflicts, hApply]
  rcases outcome with ⟨answer, t⟩
  cases answer with
  | error error => simp
  | ok result =>
      cases occasion.closing with
      | none => simp
      | some error => simp

theorem failed_call_changes_nothing_iff
    (sql : Sqlite σ)
    (s : StateStore σ)
    (occasion : Occasion)
    (call : MutatorCall) :
    ((∃ error,
        (s.perform sql occasion call).1 = .error error) →
      s.ChangesNothing sql (s.perform sql occasion call).2) ↔
      call.Harmless sql s occasion := by
  rw [changesNothing_iff]
  cases call with
  | updateBalance id balance currencySymbol =>
      refine iff_of_true ?_ trivial
      rintro ⟨error, hFailed⟩
      exact updateBalance_failed hFailed
  | transaction mutation =>
      by_cases hRefused :
          ∀ current,
            s.currentRevision sql mutation.group =
                .ok current →
              mutation.TurnedAway sql s occasion current
      · refine iff_of_true ?_ ?_
        · intro _
          exact executeGroupTransaction_refused hRefused
        · intro current hCurrent
          exact .inl (hRefused current hCurrent)
      · push Not at hRefused
        rcases hRefused with ⟨current, hCurrent, hAway⟩
        rcases GroupMutation.applied_of_not_turnedAway hAway with
          ⟨hConflicts, outcome, hApply⟩
        have hLeaves := GroupMutation.apply_leaves hApply
        refine
          (executeGroupTransaction_applied hCurrent hConflicts
            hApply).trans ?_
        rw [hLeaves.1, hLeaves.2]
        constructor
        · intro hKept other hOther
          cases hCurrent.symm.trans hOther
          exact .inr hKept
        · intro hHarmless
          exact (hHarmless current hCurrent).resolve_left hAway

end StateStore

/- A database that takes every statement and notes it. -/
def journal : Sqlite (List Statement) where
  revision := fun _ _ => .ok none
  get := fun _ _ _ => .ok .undefined
  execute := fun statement _ tables => .ok (statement :: tables)
  setRevision := fun _ _ tables => tables

def accountMembers
    (id platform username : String) :
    List (String × JsValue) :=
  [("id", .text id), ("platformDisplayName", .text platform),
    ("accountUsername", .text username)]

/- A store with one account. -/
def oneAccount : StateStore (List Statement) where
  userId := "usr-1"
  tables := []
  accounts :=
    { accounts :=
        OrderedMap.ofList
          [(.text "acc-1",
            .object (accountMembers "acc-1" "SportyBet" "runner"))]
      balances := .empty
      revision := 1 }
  config := ⟨.object [], .empty, 1⟩
  billing := ⟨.object [], .empty, 1, false⟩
  settings := ⟨.object [], 1⟩

/- An element whose second password is a number. -/
def numberedPassword : MutatorCall :=
  .transaction (.replaceAll
    (.array
      [.object
        (("account_password", .number (.finite 5)) ::
          accountMembers "acc-2" "Bet9ja" "striker")]))

def noon : Occasion := ⟨"2026-01-01T12:00:00Z", "fresh", none⟩

theorem failed_replacement_empties_memory :
    ¬ ∀ (σ : Type) (sql : Sqlite σ) (s : StateStore σ)
      (occasion : Occasion) (call : MutatorCall),
      (∃ error,
        (s.perform sql occasion call).1 = .error error) →
      s.ChangesNothing sql (s.perform sql occasion call).2 := by
  intro hClaim
  have hFailed :
      (oneAccount.perform journal noon numberedPassword).1 =
        .error .type := by
    decide +kernel
  have hSame :=
    (hClaim _ journal oneAccount noon numberedPassword
      ⟨.type, hFailed⟩).accounts
  have hSize := congrArg (fun c => c.accounts.size) hSame
  revert hSize
  decide +kernel

end Mutators

end ControlPlane
