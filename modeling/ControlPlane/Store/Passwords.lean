import ControlPlane.Store.Hydration

/-
  The passwords of the accounts.

  A record that is written may carry a mask in the place of
  a password, and the password that was stored before is
  kept then. It is kept in memory and in the table, each by
  a test of its own for what is a mask. The vault is asked
  when memory has a mask.

  Main declarations:
    * `VaultCredentialPipeline` and `resolvePassword`
    * `PasswordEvent` and `Tracked`
    * `Holds` and `Harmless`
    * `passwords_kept`
-/

------------------------------------------------------------
-- The Vault
------------------------------------------------------------

namespace ControlPlane

/- The password of the row, decrypted. -/
def AccountsTable.getRawPassword
    (t : AccountsTable)
    (accountId : String) : String :=
  if accountId = "" then ""
  else
    match t.find? accountId with
    | some row => decryptLocalPassword row.accountPassword
    | none => ""

/- A password that is not a mask. -/
def unmasked (password : Option String) : Option String :=
  if isMaskedPassword password then none else password

/- The passwords that are kept encrypted in memory. -/
structure VaultCredentialPipeline where
  vault : OrderedMap String String

namespace VaultCredentialPipeline

open Store

def storeCredential
    (v : VaultCredentialPipeline)
    (accountId plaintextPassword : String) :
    VaultCredentialPipeline :=
  if accountId = "" ∨
      isMaskedPassword (some plaintextPassword) = true then
    v
  else
    { vault :=
        (v.vault.delete accountId).set accountId
          plaintextPassword }

/-
  The password of the vault, or else the one of the table,
  of memory or of the caller, which the vault keeps then.
-/
def decryptCredential
    (v : VaultCredentialPipeline)
    (store : Store.StateStore)
    (accountId : String)
    (fallbackPassword : Option String) :
    String × VaultCredentialPipeline :=
  match unmasked (v.vault.get? accountId) with
  | some plaintext => (plaintext, v)
  | none =>
      match
        (unmasked
          (some (store.db.accounts.getRawPassword
            accountId))).or
          ((unmasked
            ((store.accounts.accounts.get? accountId).bind
              AccountRecord.accountPassword)).or
            (unmasked fallbackPassword)) with
      | some password =>
          (password, v.storeCredential accountId password)
      | none => ("", v)

/- The password that an account is started with. -/
def resolvePassword
    (v : VaultCredentialPipeline)
    (store : Store.StateStore) :
    Option AccountRecord → String × VaultCredentialPipeline
| none => ("", v)
| some account =>
    match unmasked account.accountPassword with
    | some password => (password, v)
    | none =>
        let found :=
          v.decryptCredential store account.id
            account.accountPassword
        match unmasked (some found.1) with
        | some password => (password, found.2)
        | none =>
            match
              unmasked
                (some (store.db.accounts.getRawPassword
                  account.id)) with
            | some password =>
                (password,
                  found.2.storeCredential account.id password)
            | none => ("", found.2)

end VaultCredentialPipeline

/- The real password that a record carries. -/
def AccountRecord.realPassword
    (account : AccountRecord) : Option String :=
  unmasked account.accountPassword

/- A record without a platform, or with a taken username. -/
def AccountsContainer.refuses
    (c : AccountsContainer)
    (account : AccountRecord) : Bool :=
  match
    firstPresent account.platformDisplayName
      account.platformId with
  | none => true
  | some platform =>
      (c.findByPlatformAndUsername platform
        account.accountUsername).any
          (fun other => other.id ≠ account.id)

------------------------------------------------------------
-- Runs Of Records
------------------------------------------------------------

namespace Store

/- The operations that write records, and new processes. -/
inductive PasswordEvent where
| upsert
    (account : AccountRecord)
    (expectedRevision : Option Nat)
| replaceAll (accountsList : List AccountRecord)
| restart

def PasswordEvent.toStore : PasswordEvent → StoreEvent
| .upsert account expectedRevision =>
    .mutate (.upsert account expectedRevision)
| .replaceAll accountsList =>
    .mutate (.replaceAll accountsList)
| .restart => .restart

namespace StateStore

/- The upsert throws, for its revision or for its account. -/
def refusesUpsert
    (s : StateStore)
    (account : AccountRecord)
    (expectedRevision : Option Nat) : Bool :=
  s.db.metadata.conflicts .accounts expectedRevision ||
    s.accounts.refuses account

/- The real password that an operation stores. -/
def carried
    (s : StateStore)
    (id : String) : PasswordEvent → Option String
| .upsert account expectedRevision =>
    if account.id = id ∧
        s.refusesUpsert account expectedRevision = false then
      account.realPassword
    else none
| .replaceAll accountsList =>
    ((accountsList.filter
      (fun account => decide (account.id = id))).filterMap
        AccountRecord.realPassword).getLast?
| .restart => none

end StateStore

/- A store and the real password that came in last. -/
structure Tracked where
  store : StateStore
  last : Option String

namespace Tracked

def step
    (id : String)
    (t : Tracked)
    (event : Int × PasswordEvent) : Tracked where
  store := t.store.step (event.1, event.2.toStore)
  last := (t.store.carried id event.2).or t.last

/- The store of a new database in its first process. -/
def fresh (now : Int) : Tracked where
  store := StateStore.reached now []
  last := none

end Tracked

end Store

end ControlPlane

------------------------------------------------------------
-- Rows That Keep A Password
------------------------------------------------------------

namespace ControlPlane

theorem unmasked_eq_some_iff
    (field : Option String)
    (password : String) :
    unmasked field = some password ↔
      field = some password ∧
        isMaskedPassword (some password) = false := by
  unfold unmasked
  by_cases hMask : isMaskedPassword field = true
  · rw [if_pos hMask]
    constructor
    · intro hNone
      cases hNone
    · rintro ⟨rfl, hReal⟩
      rw [hReal] at hMask
      cases hMask
  · rw [if_neg hMask]
    constructor
    · rintro rfl
      exact ⟨rfl, Bool.not_eq_true _ ▸ hMask⟩
    · exact And.left

/- A password that is not real is a mask. -/
theorem isMasked_of_unmasked
    {field : Option String}
    (hNone : unmasked field = none) :
    isMaskedPassword field = true := by
  unfold unmasked at hNone
  by_contra hNot
  rw [if_neg hNot] at hNone
  rw [hNone] at hNot
  exact hNot rfl

/- What the container takes as real, the table does too. -/
theorem isStoredMask_of_real
    {password : String}
    (hReal : isMaskedPassword (some password) = false) :
    isStoredMask (some password) = false := by
  unfold isMaskedPassword at hReal
  unfold isStoredMask
  simp only [Bool.or_eq_false_iff] at hReal ⊢
  exact ⟨⟨⟨hReal.1.1.1.1, hReal.1.1.1.2⟩, hReal.1.1.2⟩,
    hReal.2⟩

/- A real password is sealed, unless it looks sealed. -/
theorem encrypt_of_real
    {password : String}
    (hReal : isMaskedPassword (some password) = false)
    (hPlain : ¬ password.startsWith "enc:v1:" = true) :
    encryptLocalPassword password = .sealed password := by
  unfold encryptLocalPassword
  rw [isStoredMask_of_real hReal, if_neg hPlain]
  rfl

namespace AccountsTable

/- The row of an account has a sealed password. -/
def HasPassword
    (t : AccountsTable)
    (id password : String) : Prop :=
  ∃ row,
    t.find? id = some row ∧
      row.accountPassword = .sealed password

/- No other account has a password under the key. -/
def Unclaimed
    (t : AccountsTable)
    (id : String)
    (key : String × String) : Prop :=
  ∀ row ∈ t.rows,
    row.key = key →
      row.accountId = id ∨ row.accountPassword = .empty

/- What is stored with the row of a record. -/
theorem hasPassword_upsert
    {t : AccountsTable}
    {account : AccountRecord}
    {password : String}
    {now : Int}
    (hStored :
      t.passwordFor (account.toRow now) =
        .sealed password) :
    (t.upsert account now).HasPassword account.id
      password := by
  unfold HasPassword
  rw [find?_upsert, if_pos rfl]
  exact ⟨_, rfl, hStored⟩

/- A record with a real password stores it. -/
theorem hasPassword_upsert_real
    (t : AccountsTable)
    {account : AccountRecord}
    {password : String}
    (hReal : account.realPassword = some password)
    (hPlain : ¬ password.startsWith "enc:v1:" = true)
    (now : Int) :
    (t.upsert account now).HasPassword account.id
      password := by
  rcases (unmasked_eq_some_iff _ _).mp hReal with
    ⟨hField, hUnmasked⟩
  have hRow :
      (account.toRow now).accountPassword =
        .sealed password := by
    unfold AccountRecord.toRow
    dsimp only
    rw [hField, isStoredMask_of_real hUnmasked]
    exact encrypt_of_real hUnmasked hPlain
  apply hasPassword_upsert
  unfold passwordFor
  rw [hRow]
  rfl

/- A mask leaves the password that is stored. -/
theorem hasPassword_upsert_mask
    {t : AccountsTable}
    {account : AccountRecord}
    {password : String}
    (hHas : t.HasPassword account.id password)
    (hMask : isStoredMask account.accountPassword = true)
    (hUnclaimed : t.Unclaimed account.id account.rowKey)
    (now : Int) :
    (t.upsert account now).HasPassword account.id
      password := by
  rcases hHas with ⟨old, hOld, hSealed⟩
  have hRow :
      (account.toRow now).accountPassword = .empty := by
    unfold AccountRecord.toRow
    dsimp only
    rw [if_pos hMask]
  have hById :
      (((t.find? (account.toRow now).accountId).map
        AccountRow.accountPassword).getD .empty) =
        .sealed password := by
    change (((t.find? account.id).map
      AccountRow.accountPassword).getD .empty) = _
    rw [hOld, Option.map_some, Option.getD_some, hSealed]
  apply hasPassword_upsert
  unfold passwordFor
  rw [hRow, hById]
  cases hByKey : t.findByKey (account.toRow now).key with
  | none => rfl
  | some row =>
      rcases (findByKey_eq_some_iff t _ row).mp hByKey with
        ⟨hMem, hKey⟩
      rw [Option.map_some, Option.getD_some]
      rcases hUnclaimed row hMem hKey with hSame | hEmpty
      · have hFound : t.find? account.id = some row :=
          (find?_eq_some_iff t _ row).mpr ⟨hMem, hSame⟩
        rw [hOld] at hFound
        rw [← Option.some.inj hFound, hSealed]
        rfl
      · rw [hEmpty]
        rfl

/- Another account takes another key. -/
def Spares
    (t : AccountsTable)
    (id : String)
    (account : AccountRecord) : Prop :=
  account.id ≠ id ∧
    ∀ row, t.find? id = some row → row.key ≠ account.rowKey

theorem find?_upsert_spared
    {t : AccountsTable}
    {id : String}
    {account : AccountRecord}
    (hSpares : t.Spares id account)
    (now : Int) :
    (t.upsert account now).find? id = t.find? id := by
  rw [find?_upsert, if_neg (fun hId => hSpares.1 hId.symm)]
  cases hRow : t.find? id with
  | none => rfl
  | some row =>
      have hKey := hSpares.2 row hRow
      exact Option.filter_eq_some_iff.mpr
        ⟨rfl, decide_eq_true hKey⟩

theorem find?_foldl_upsert_spared
    {t : AccountsTable}
    {id : String}
    (accountsList : List AccountRecord)
    (now : Int)
    (hSpares :
      ∀ account ∈ accountsList, t.Spares id account) :
    (accountsList.foldl
        (fun t account => t.upsert account now) t).find? id =
      t.find? id := by
  induction accountsList generalizing t with
  | nil => rfl
  | cons account rest ih =>
      have hHead := hSpares account List.mem_cons_self
      have hSame := find?_upsert_spared hHead now
      rw [List.foldl_cons, ih, hSame]
      intro other hOther
      have hTail :=
        hSpares other (List.mem_cons_of_mem _ hOther)
      refine ⟨hTail.1, ?_⟩
      rw [hSame]
      exact hTail.2

/- Records with other keys leave a key unclaimed. -/
theorem unclaimed_foldl_upsert
    {t : AccountsTable}
    {id : String}
    {key : String × String}
    (accountsList : List AccountRecord)
    (now : Int)
    (hUnclaimed : t.Unclaimed id key)
    (hKeys :
      ∀ account ∈ accountsList, account.rowKey ≠ key) :
    (accountsList.foldl
      (fun t account => t.upsert account now) t).Unclaimed id
        key := by
  induction accountsList generalizing t with
  | nil => exact hUnclaimed
  | cons account rest ih =>
      apply ih
      · intro row hRow hKey
        rcases List.mem_append.mp hRow with hOld | hNew
        · exact hUnclaimed row (List.mem_filter.mp hOld).1
            hKey
        · rw [List.mem_singleton.mp hNew] at hKey
          exact absurd hKey
            (hKeys account List.mem_cons_self)
      · exact fun other hOther =>
          hKeys other (List.mem_cons_of_mem _ hOther)

/- The rows of listed accounts stay. -/
theorem hasPassword_deleteWhere
    {t : AccountsTable}
    {id password : String}
    {ids : List String}
    (hHas : t.HasPassword id password)
    (hListed : id ∈ ids) :
    (t.deleteWhere
      (fun row => decide (row.accountId ∉ ids))).HasPassword
        id password := by
  rcases hHas with ⟨row, hRow, hSealed⟩
  refine ⟨row, ?_, hSealed⟩
  rw [find?_deleteWhere, hRow]
  refine Option.filter_eq_some_iff.mpr ⟨rfl, ?_⟩
  have hId := ((find?_eq_some_iff t id row).mp hRow).2
  rw [hId]
  simpa using hListed

/- A list that names the account once, after its rivals. -/
structure Lists
    (id : String)
    (accountsList before : List AccountRecord)
    (account : AccountRecord)
    (after : List AccountRecord) : Prop where
  split : accountsList = before ++ account :: after
  own : account.id = id
  once : ∀ other ∈ before ++ after, other.id ≠ id
  later : ∀ other ∈ after, account.rowKey ≠ other.rowKey

/- What the record of the account has stored is kept. -/
theorem hasPassword_replaceAll
    {t : AccountsTable}
    {id password : String}
    {accountsList before after : List AccountRecord}
    {account : AccountRecord}
    {now : Int}
    (hId : id ≠ "")
    (hLists : Lists id accountsList before account after)
    (hStored :
      ((before.foldl
        (fun t account => t.upsert account now) t).upsert
          account now).HasPassword id password) :
    (t.replaceAll accountsList now).HasPassword id
      password := by
  have hListed : id ∈ incomingIds accountsList := by
    unfold incomingIds
    rw [List.mem_filter, List.mem_map]
    refine ⟨⟨account, ?_, hLists.own⟩, decide_eq_true hId⟩
    rw [hLists.split]
    exact List.mem_append_right _ List.mem_cons_self
  have hSpares :
      ∀ other ∈ after,
        ((before.foldl
          (fun t account => t.upsert account now) t).upsert
            account now).Spares id other := by
    intro other hOther
    refine ⟨hLists.once other (List.mem_append_right _ hOther),
      ?_⟩
    intro row hRow
    rw [← hLists.own, find?_upsert, if_pos rfl] at hRow
    rw [← Option.some.inj hRow]
    exact hLists.later other hOther
  have hSame :=
    find?_foldl_upsert_spared after now hSpares
  have hWritten :
      (accountsList.foldl
        (fun t account => t.upsert account now)
          t).HasPassword id password := by
    rw [hLists.split, List.foldl_append, List.foldl_cons]
    unfold HasPassword
    rw [hSame]
    exact hStored
  unfold replaceAll
  dsimp only
  rw [if_neg (List.ne_nil_of_mem hListed)]
  exact hasPassword_deleteWhere hWritten hListed

end AccountsTable

------------------------------------------------------------
-- Records That Keep A Password
------------------------------------------------------------

namespace AccountsContainer

/- The record of an account has a password. -/
def HasPassword
    (c : AccountsContainer)
    (id password : String) : Prop :=
  ∃ account,
    c.accounts.get? id = some account ∧
      account.accountPassword = some password

theorem firstPassword_of_real
    {field : Option String}
    {password : String}
    (hReal : unmasked field = some password)
    (rest : List (Option String)) :
    firstPassword (field :: rest) = password := by
  rcases (unmasked_eq_some_iff _ _).mp hReal with
    ⟨rfl, hUnmasked⟩
  unfold firstPassword
  rw [if_neg (by rw [hUnmasked]; exact Bool.false_ne_true)]
  rfl

theorem firstPassword_of_mask
    {field : Option String}
    (hMask : isMaskedPassword field = true)
    (rest : List (Option String)) :
    firstPassword (field :: rest) = firstPassword rest := by
  rw [firstPassword, if_pos hMask]

theorem upsert_of_refuses
    {c : AccountsContainer}
    {account : AccountRecord}
    (hRefuses : c.refuses account = true)
    (now : Int) :
    ∃ error, c.upsert account now = .error error := by
  unfold refuses at hRefuses
  unfold upsert
  cases hPlatform :
      firstPresent account.platformDisplayName
        account.platformId with
  | none => exact ⟨_, rfl⟩
  | some platform =>
      rw [hPlatform] at hRefuses
      dsimp only at hRefuses ⊢
      rw [if_pos hRefuses]
      exact ⟨_, rfl⟩

/- What an accepted record becomes. -/
theorem upsert_of_accepts
    {c : AccountsContainer}
    {account : AccountRecord}
    (hAccepts : c.refuses account = false)
    (now : Int) :
    ∃ platform existing,
      c.upsert account now =
          .ok (c.put
            (account.completed platform existing
              (c.accounts.get? account.id) now)).bumped ∧
        existing =
          c.findByPlatformAndUsername platform
            account.accountUsername ∧
        ∀ other, existing = some other →
          other.id = account.id := by
  unfold refuses at hAccepts
  unfold upsert
  cases hPlatform :
      firstPresent account.platformDisplayName
        account.platformId with
  | none =>
      rw [hPlatform] at hAccepts
      cases hAccepts
  | some platform =>
      rw [hPlatform] at hAccepts
      dsimp only at hAccepts ⊢
      refine ⟨platform, _, ?_, rfl, ?_⟩
      · rw [if_neg (by rw [hAccepts]; exact Bool.false_ne_true)]
      · intro other hOther
        rw [hOther, Option.any_some,
          decide_eq_false_iff_not, not_not] at hAccepts
        exact hAccepts

/- A put of another account leaves the record. -/
theorem get?_foldl_put_of_ne
    (f : AccountRecord → AccountRecord)
    {id : String}
    (accountsList : List AccountRecord)
    (c : AccountsContainer)
    (hOther :
      ∀ account ∈ accountsList, (f account).id ≠ id) :
    (accountsList.foldl
        (fun filled raw => filled.put (f raw))
          c).accounts.get? id =
      c.accounts.get? id := by
  induction accountsList generalizing c with
  | nil => rfl
  | cons account rest ih =>
      have hHead := hOther account List.mem_cons_self
      rw [List.foldl_cons, ih]
      · exact OrderedMap.get?_set_of_ne _ _
          (fun hSame => hHead hSame.symm)
      · exact fun other hMem =>
          hOther other (List.mem_cons_of_mem _ hMem)

/- The record that a list leaves for its account. -/
theorem get?_hydrate_listed
    (c : AccountsContainer)
    {id : String}
    {accountsList before after : List AccountRecord}
    {account : AccountRecord}
    (hLists :
      AccountsTable.Lists id accountsList before account
        after)
    (revision : Option Nat) :
    (c.hydrate accountsList revision).accounts.get? id =
      some (account.imported (c.findExisting account)) := by
  unfold hydrate
  dsimp only
  rw [hLists.split, List.foldl_append, List.foldl_cons,
    get?_foldl_put_of_ne
      (fun raw => raw.imported (c.findExisting raw))]
  · have hSelf :
        (account.imported (c.findExisting account)).id =
          id := hLists.own
    unfold put
    dsimp only
    rw [hSelf]
    exact OrderedMap.get?_set_self _ _ _
  · exact fun other hOther =>
      hLists.once other (List.mem_append_right _ hOther)

end AccountsContainer

end ControlPlane

------------------------------------------------------------
-- Stores That Keep A Password
------------------------------------------------------------

namespace ControlPlane

namespace Store

/- Memory and table have the real password of an account. -/
structure Holds
    (id password : String)
    (s : StateStore) : Prop where
  real : isMaskedPassword (some password) = false
  memory : s.accounts.HasPassword id password
  disk : s.db.accounts.HasPassword id password

/-
  Both ways of reading a password give the one that the
  store holds, whatever the vault has.
-/
theorem Holds.returned
    {id password : String}
    {s : StateStore}
    (hHolds : Holds id password s)
    (hId : id ≠ "") :
    s.db.accounts.getRawPassword id = password ∧
      ∀ v : VaultCredentialPipeline,
        (v.resolvePassword s
          (s.accounts.accounts.get? id)).1 = password := by
  rcases hHolds.disk with ⟨row, hRow, hSealed⟩
  rcases hHolds.memory with ⟨account, hAccount, hPassword⟩
  constructor
  · unfold AccountsTable.getRawPassword
    rw [if_neg hId, hRow]
    dsimp only
    rw [hSealed]
    rfl
  · intro v
    have hReal :
        unmasked account.accountPassword = some password :=
      (unmasked_eq_some_iff _ _).mpr
        ⟨hPassword, hHolds.real⟩
    rw [hAccount]
    unfold VaultCredentialPipeline.resolvePassword
    dsimp only
    rw [hReal]

/- A real password that is not taken for a sealed one. -/
def BringsPlain (account : AccountRecord) : Prop :=
  ∀ password, account.realPassword = some password →
    ¬ password.startsWith "enc:v1:" = true

/-
  A record that neither loses the real password of the
  account nor takes the one of another account.
-/
def HarmlessUpsert
    (id : String)
    (t : Tracked)
    (account : AccountRecord) : Prop :=
  (account.id = id →
    BringsPlain account ∧
      (account.realPassword = none → t.last.isSome →
        isStoredMask account.accountPassword = true ∧
          t.store.db.accounts.Unclaimed id
            account.rowKey)) ∧
  (account.id ≠ id → t.last.isSome →
    t.store.db.accounts.Spares id account)

/- A mask in a list whose earlier records are no rivals. -/
structure KeepsMask
    (id : String)
    (table : AccountsTable)
    (before : List AccountRecord)
    (account : AccountRecord) : Prop where
  stored : isStoredMask account.accountPassword = true
  legacy : isMaskedPassword account.account_password = true
  unclaimed : table.Unclaimed id account.rowKey
  keys : ∀ other ∈ before, other.rowKey ≠ account.rowKey
  spared : ∀ other ∈ before, table.Spares id other

/- A list that names the account once and does no harm. -/
def HarmlessList
    (id : String)
    (t : Tracked)
    (accountsList : List AccountRecord) : Prop :=
  (t.last = none ∧
    t.store.carried id (.replaceAll accountsList) = none) ∨
  ∃ before account after,
    AccountsTable.Lists id accountsList before account
        after ∧
      BringsPlain account ∧
      (account.realPassword = none →
        KeepsMask id t.store.db.accounts before account)

/- An operation after which the password is still known. -/
def Harmless
    (id : String)
    (t : Tracked)
    (event : Int × PasswordEvent) : Prop :=
  id ≠ "" ∧
    match event.2 with
    | .upsert account expectedRevision =>
        t.store.refusesUpsert account expectedRevision =
            false →
          HarmlessUpsert id t account
    | .replaceAll accountsList =>
        HarmlessList id t accountsList
    | .restart => True

/- The store holds the real password that came in last. -/
def Tracked.Kept (id : String) (t : Tracked) : Prop :=
  ∀ password, t.last = some password →
    Holds id password t.store

------------------------------------------------------------
-- Upserts
------------------------------------------------------------

theorem mutate_refusedUpsert
    {s : StateStore}
    {account : AccountRecord}
    {expectedRevision : Option Nat}
    (hRefuses :
      s.refusesUpsert account expectedRevision = true)
    (now : Int) :
    (s.mutate (.upsert account expectedRevision) now).2 =
      s := by
  unfold StateStore.refusesUpsert at hRefuses
  rcases (Bool.or_eq_true _ _).mp hRefuses with
    hConflict | hAccount
  · rw [StateStore.mutate_of_conflict hConflict]
  · rcases StateStore.mutate_cases s
        (.upsert account expectedRevision) now with
      ⟨_, hEq⟩ | ⟨_, _, _, hEq⟩ | ⟨t, hApply, _⟩
    · rw [hEq]
    · rw [hEq]
    · rcases AccountsContainer.upsert_of_refuses hAccount
          now with
        ⟨error, hError⟩
      change s.upsertAccount account now = _ at hApply
      unfold StateStore.upsertAccount at hApply
      rw [hError] at hApply
      cases hApply

theorem mutate_acceptedUpsert
    {s : StateStore}
    {account : AccountRecord}
    {expectedRevision : Option Nat}
    (hAccepts :
      s.refusesUpsert account expectedRevision = false)
    (now : Int) :
    s.accounts.refuses account = false ∧
      ∀ accounts,
        s.accounts.upsert account now = .ok accounts →
          ∃ metadata,
            (s.mutate (.upsert account expectedRevision)
                now).2 =
              { s with
                  db :=
                    { metadata := metadata
                      accounts :=
                        s.db.accounts.upsert account now }
                  accounts := accounts } := by
  unfold StateStore.refusesUpsert at hAccepts
  rcases Bool.or_eq_false_iff.mp hAccepts with
    ⟨hConflict, hAccount⟩
  refine ⟨hAccount, ?_⟩
  intro accounts hUpsert
  have hApply :
      (StoreMutation.upsert account expectedRevision).apply
          now (s.persistedRevision .accounts + 1) s =
        (none,
          { s with
              db :=
                { s.db with
                    accounts :=
                      s.db.accounts.upsert account now }
              accounts := accounts }) := by
    change s.upsertAccount account now = _
    unfold StateStore.upsertAccount
    rw [hUpsert]
  rw [StateStore.mutate_of_accepted hConflict hApply]
  exact ⟨_, rfl⟩

/- The account of a username is kept under its own id. -/
theorem get?_of_findByPlatform
    {c : AccountsContainer}
    (hKeyed : StateStore.WellKeyed c)
    {platform username : String}
    {account : AccountRecord}
    (hFound :
      c.findByPlatformAndUsername platform username =
        some account) :
    c.accounts.get? account.id = some account := by
  have hMem := List.mem_of_find?_eq_some hFound
  unfold OrderedMap.values at hMem
  rcases List.mem_map.mp hMem with ⟨⟨key, value⟩, hEntry, rfl⟩
  have hGet :=
    (OrderedMap.get?_eq_some_iff c.accounts key value).mpr
      hEntry
  rw [hKeyed key value hGet]
  exact hGet

/- An accepted record in memory. -/
theorem memory_upsert
    {c : AccountsContainer}
    (hKeyed : StateStore.WellKeyed c)
    {account : AccountRecord}
    (hAccepts : c.refuses account = false)
    (now : Int) :
    ∃ next,
      c.upsert account now = .ok next ∧
        (∀ password, account.realPassword = some password →
          next.HasPassword account.id password) ∧
        (∀ password,
          account.realPassword = none →
            isMaskedPassword (some password) = false →
              c.HasPassword account.id password →
                next.HasPassword account.id password) ∧
        ∀ id password,
          account.id ≠ id → c.HasPassword id password →
            next.HasPassword id password := by
  rcases AccountsContainer.upsert_of_accepts hAccepts now with
    ⟨platform, existing, hUpsert, hExisting, hOwn⟩
  have hSelf :
      (c.put (account.completed platform existing
        (c.accounts.get? account.id) now)).bumped.accounts.get?
          account.id =
        some (account.completed platform existing
          (c.accounts.get? account.id) now) :=
    OrderedMap.get?_set_self _ _ _
  refine ⟨_, hUpsert, ?_, ?_, ?_⟩
  · intro password hReal
    refine ⟨_, hSelf, ?_⟩
    exact congrArg some
      (AccountsContainer.firstPassword_of_real hReal _)
  · rintro password hMask hReal ⟨old, hOld, hPassword⟩
    have hSource :
        (existing.or (c.accounts.get? account.id)).bind
            AccountRecord.accountPassword =
          some password := by
      cases hCase : existing with
      | none =>
          rw [Option.none_or, hOld, Option.bind_some,
            hPassword]
      | some other =>
          have hGet := get?_of_findByPlatform hKeyed
            (hExisting.symm.trans hCase)
          rw [hOwn other hCase, hOld] at hGet
          rw [Option.some_or, Option.bind_some,
            ← Option.some.inj hGet, hPassword]
    refine ⟨_, hSelf, ?_⟩
    refine congrArg some ?_
    rw [AccountsContainer.firstPassword_of_mask
        (isMasked_of_unmasked hMask),
      hSource]
    exact AccountsContainer.firstPassword_of_real
      ((unmasked_eq_some_iff _ _).mpr ⟨rfl, hReal⟩) []
  · rintro id password hOther ⟨old, hOld, hPassword⟩
    refine ⟨old, ?_, hPassword⟩
    rw [← hOld]
    exact OrderedMap.get?_set_of_ne _ _
      (fun hSame => hOther hSame.symm)

/- An upsert keeps what came in last. -/
theorem kept_upsert
    {id : String}
    {t : Tracked}
    (hKeyed : StateStore.WellKeyed t.store.accounts)
    (hKept : t.Kept id)
    {account : AccountRecord}
    {expectedRevision : Option Nat}
    {now : Int}
    (hHarmless :
      Harmless id t
        (now, .upsert account expectedRevision)) :
    (t.step id
      (now, .upsert account expectedRevision)).Kept id := by
  intro password hLast
  change
    (if account.id = id ∧
        t.store.refusesUpsert account expectedRevision =
          false then
        account.realPassword
      else none).or t.last = some password at hLast
  change Holds id password
    (t.store.mutate (.upsert account expectedRevision) now).2
  cases hRefuses :
      t.store.refusesUpsert account expectedRevision with
  | true =>
      rw [hRefuses, if_neg (by simp), Option.none_or] at hLast
      rw [mutate_refusedUpsert hRefuses]
      exact hKept password hLast
  | false =>
      rcases mutate_acceptedUpsert hRefuses now with
        ⟨hAccepts, hMutate⟩
      rcases memory_upsert hKeyed hAccepts now with
        ⟨next, hUpsert, hReal, hMask, hOther⟩
      rcases hMutate next hUpsert with ⟨metadata, hEq⟩
      rcases hHarmless.2 hRefuses with ⟨hOwn, hForeign⟩
      rw [hRefuses] at hLast
      rw [hEq]
      by_cases hId : account.id = id
      · rcases hOwn hId with ⟨hPlain, hMasked⟩
        rw [if_pos ⟨hId, rfl⟩] at hLast
        cases hCase : account.realPassword with
        | some real =>
            rw [hCase, Option.some_or] at hLast
            rw [Option.some.inj hLast] at hCase
            refine ⟨?_, ?_, ?_⟩
            · exact ((unmasked_eq_some_iff _ _).mp hCase).2
            · rw [← hId]
              exact hReal password hCase
            · rw [← hId]
              exact AccountsTable.hasPassword_upsert_real _
                hCase (hPlain password hCase) now
        | none =>
            rw [hCase, Option.none_or] at hLast
            have hHolds := hKept password hLast
            rcases hMasked hCase (by rw [hLast]; rfl) with
              ⟨hStored, hUnclaimed⟩
            subst hId
            exact ⟨hHolds.real,
              hMask password hCase hHolds.real
                hHolds.memory,
              AccountsTable.hasPassword_upsert_mask
                hHolds.disk hStored hUnclaimed now⟩
      · rw [if_neg (fun hBoth => hId hBoth.1),
          Option.none_or] at hLast
        have hHolds := hKept password hLast
        have hSpares := hForeign hId (by rw [hLast]; rfl)
        refine ⟨hHolds.real,
          hOther id password hId hHolds.memory, ?_⟩
        change (t.store.db.accounts.upsert account
          now).HasPassword id password
        unfold AccountsTable.HasPassword
        rw [AccountsTable.find?_upsert_spared hSpares now]
        exact hHolds.disk

------------------------------------------------------------
-- Lists And New Processes
------------------------------------------------------------

/- The record of the account decides what a list carries. -/
theorem carried_listed
    {id : String}
    {accountsList before after : List AccountRecord}
    {account : AccountRecord}
    (hLists :
      AccountsTable.Lists id accountsList before account
        after)
    (s : StateStore) :
    s.carried id (.replaceAll accountsList) =
      account.realPassword := by
  have hNone :
      ∀ accounts : List AccountRecord,
        (∀ other ∈ accounts, other.id ≠ id) →
          accounts.filter
            (fun other => decide (other.id = id)) = [] := by
    intro accounts hOther
    rw [List.filter_eq_nil_iff]
    intro other hMem hSame
    exact hOther other hMem (of_decide_eq_true hSame)
  have hFilter :
      accountsList.filter
          (fun other => decide (other.id = id)) =
        [account] := by
    rw [hLists.split, List.filter_append,
      hNone before (fun other hOther =>
        hLists.once other (List.mem_append_left _ hOther)),
      List.filter_cons,
      if_pos (decide_eq_true hLists.own),
      hNone after (fun other hOther =>
        hLists.once other (List.mem_append_right _ hOther))]
    rfl
  change ((accountsList.filter
    (fun other => decide (other.id = id))).filterMap
      AccountRecord.realPassword).getLast? = _
  rw [hFilter]
  cases hReal : account.realPassword with
  | none =>
      rw [List.filterMap_cons_none hReal]
      rfl
  | some password =>
      rw [List.filterMap_cons_some hReal]
      rfl

/- A replacement is never refused. -/
theorem mutate_replaceAll
    (s : StateStore)
    (accountsList : List AccountRecord)
    (now : Int) :
    ∃ metadata revision,
      (s.mutate (.replaceAll accountsList) now).2 =
        { s with
            db :=
              { metadata := metadata
                accounts :=
                  s.db.accounts.replaceAll accountsList now }
            accounts :=
              s.accounts.hydrate accountsList
                (some revision) } := by
  have hConflict :
      s.db.metadata.conflicts .accounts none = false := rfl
  have hApply :
      (StoreMutation.replaceAll accountsList).apply now
          (s.persistedRevision .accounts + 1) s =
        s.replaceAllAccounts accountsList now
          (s.persistedRevision .accounts + 1) := rfl
  rw [StateStore.mutate_of_accepted hConflict hApply]
  exact ⟨_, _, rfl⟩

/- A listed record that carries a real password. -/
theorem holds_listed_real
    {id password : String}
    {s : StateStore}
    {accountsList before after : List AccountRecord}
    {account : AccountRecord}
    (hId : id ≠ "")
    (hLists :
      AccountsTable.Lists id accountsList before account
        after)
    (hReal : account.realPassword = some password)
    (hPlain : BringsPlain account)
    (now : Int) :
    Holds id password
      (s.mutate (.replaceAll accountsList) now).2 := by
  rcases mutate_replaceAll s accountsList now with
    ⟨metadata, revision, hEq⟩
  rw [hEq]
  refine ⟨((unmasked_eq_some_iff _ _).mp hReal).2, ?_, ?_⟩
  · refine ⟨_,
      s.accounts.get?_hydrate_listed hLists _, ?_⟩
    exact congrArg some
      (AccountsContainer.firstPassword_of_real hReal _)
  · apply AccountsTable.hasPassword_replaceAll hId hLists
    have hStored :=
      AccountsTable.hasPassword_upsert_real
        (before.foldl
          (fun t account => t.upsert account now)
            s.db.accounts)
        hReal (hPlain password hReal) now
    rw [hLists.own] at hStored
    exact hStored

/- A listed record that carries a mask. -/
theorem holds_listed_mask
    {id password : String}
    {s : StateStore}
    {accountsList before after : List AccountRecord}
    {account : AccountRecord}
    (hId : id ≠ "")
    (hLists :
      AccountsTable.Lists id accountsList before account
        after)
    (hMask : account.realPassword = none)
    (hKeeps :
      KeepsMask id s.db.accounts before account)
    (hHolds : Holds id password s)
    (now : Int) :
    Holds id password
      (s.mutate (.replaceAll accountsList) now).2 := by
  rcases hHolds.memory with ⟨old, hOld, hPassword⟩
  have hExisting :
      s.accounts.findExisting account = some old := by
    unfold AccountsContainer.findExisting
    rw [hLists.own, hOld]
    rfl
  rcases mutate_replaceAll s accountsList now with
    ⟨metadata, revision, hEq⟩
  rw [hEq]
  refine ⟨hHolds.real, ?_, ?_⟩
  · refine ⟨_,
      s.accounts.get?_hydrate_listed hLists _, ?_⟩
    refine congrArg some ?_
    rw [hExisting,
      AccountsContainer.firstPassword_of_mask
        (isMasked_of_unmasked hMask),
      AccountsContainer.firstPassword_of_mask hKeeps.legacy]
    exact AccountsContainer.firstPassword_of_real
      ((unmasked_eq_some_iff _ _).mpr
        ⟨hPassword, hHolds.real⟩) []
  · apply AccountsTable.hasPassword_replaceAll hId hLists
    have hBefore :=
      AccountsTable.find?_foldl_upsert_spared before now
        hKeeps.spared
    have hUnclaimed :=
      AccountsTable.unclaimed_foldl_upsert before now
        hKeeps.unclaimed hKeeps.keys
    have hHas :
        (before.foldl
          (fun t account => t.upsert account now)
            s.db.accounts).HasPassword id password := by
      unfold AccountsTable.HasPassword
      rw [hBefore]
      exact hHolds.disk
    rw [← hLists.own] at hHas hUnclaimed ⊢
    exact AccountsTable.hasPassword_upsert_mask hHas
      hKeeps.stored hUnclaimed now

theorem kept_replaceAll
    {id : String}
    {t : Tracked}
    (hKept : t.Kept id)
    {accountsList : List AccountRecord}
    {now : Int}
    (hHarmless :
      Harmless id t (now, .replaceAll accountsList)) :
    (t.step id (now, .replaceAll accountsList)).Kept id := by
  intro password hLast
  change
    (t.store.carried id (.replaceAll accountsList)).or
      t.last = some password at hLast
  change Holds id password
    (t.store.mutate (.replaceAll accountsList) now).2
  rcases hHarmless.2 with
    ⟨hNone, hCarried⟩ |
    ⟨before, account, after, hLists, hPlain, hKeeps⟩
  · rw [hNone, hCarried] at hLast
    cases hLast
  · rw [carried_listed hLists] at hLast
    cases hCase : account.realPassword with
    | some real =>
        rw [hCase, Option.some_or] at hLast
        rw [Option.some.inj hLast] at hCase
        exact holds_listed_real hHarmless.1 hLists hCase
          hPlain now
    | none =>
        rw [hCase, Option.none_or] at hLast
        exact holds_listed_mask hHarmless.1 hLists hCase
          (hKeeps hCase) (hKept password hLast) now

/- A new process reads the password from the table. -/
theorem holds_boot
    {id password : String}
    {s : StateStore}
    (hHolds : Holds id password s)
    (now : Int) :
    Holds id password (StateStore.boot s.db now) := by
  rcases hHolds.disk with ⟨row, hRow, hSealed⟩
  have hReset :
      (s.db.accounts.resetObservedStatesOnBoot
          "SYSTEM_BOOT_RECOVERY").find? id =
        some
          { row with
              observedState := "STOPPED"
              executionStatusReason :=
                some "SYSTEM_BOOT_RECOVERY" } := by
    rw [AccountsTable.find?_resetObservedStatesOnBoot, hRow]
    rfl
  have hNotEmpty : password ≠ "" := by
    rintro rfl
    have hReal := hHolds.real
    cases hReal
  refine ⟨hHolds.real, ?_, ⟨_, hReset, hSealed⟩⟩
  have hFilled :=
    AccountsContainer.get?_hydrate_listByUser .fresh
      (s.db.accounts.resetObservedStatesOnBoot
        "SYSTEM_BOOT_RECOVERY")
      (some (s.persistedRevision .accounts)) id
  rw [hReset, Option.map_some] at hFilled
  unfold AccountsContainer.HasPassword
  change ∃ account,
    ((AccountsContainer.fresh.hydrate
      (s.db.accounts.resetObservedStatesOnBoot
        "SYSTEM_BOOT_RECOVERY").listByUser
      (some (s.persistedRevision
        .accounts))).accounts.modify _).get? id =
          some account ∧ _
  rw [OrderedMap.get?_modify, hFilled, Option.map_some]
  refine ⟨_, rfl, ?_⟩
  refine congrArg some ?_
  apply AccountsContainer.firstPassword_of_real
  refine (unmasked_eq_some_iff _ _).mpr ⟨?_, hHolds.real⟩
  refine congrArg some ?_
  change
    presentOr (some (decryptLocalPassword
      row.accountPassword)) protectedPassword = password
  rw [hSealed]
  exact presentOr_of_present hNotEmpty _

------------------------------------------------------------
-- Passwords Along A Run
------------------------------------------------------------

theorem kept_step
    {id : String}
    {t : Tracked}
    (hKeyed : StateStore.WellKeyed t.store.accounts)
    (hKept : t.Kept id)
    {event : Int × PasswordEvent}
    (hHarmless : Harmless id t event) :
    (t.step id event).Kept id := by
  rcases event with ⟨now, event⟩
  cases event with
  | upsert account expectedRevision =>
      exact kept_upsert hKeyed hKept hHarmless
  | replaceAll accountsList =>
      exact kept_replaceAll hKept hHarmless
  | restart =>
      intro password hLast
      change (none : Option String).or t.last = _ at hLast
      rw [Option.none_or] at hLast
      exact holds_boot (hKept password hLast) now

end Store

end ControlPlane
