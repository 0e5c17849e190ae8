import ControlPlane.Authority.Rollback

/-
  Columns of the security row that were modified.

  The version and the generation are associated data of the
  blob, so they cannot change without it. The other columns
  are copied into what a read returns and nothing binds
  them to the blob.

  Main declarations:
    * `AEADStorageAdapter.Harmless`
    * `AEADStorageAdapter.Refuses`
    * `SecureState.Indistinct`
    * `harmless_iff_refuses_or_indistinct`
-/

------------------------------------------------------------
-- What Was Sealed
------------------------------------------------------------

namespace ControlPlane

namespace AEADStorageAdapter

variable {α : Type} {s : AEADStorageAdapter α}

/- Everything was sealed for its own generation. -/
def Consistent
    (s : AEADStorageAdapter α) : Prop :=
  ∀ entry ∈ s.vault.produced,
    entry.2.session_generation = entry.1.backendGeneration

theorem Consistent.of_vault
    {s' : AEADStorageAdapter α}
    (hConsistent : s.Consistent)
    (hVault : s'.vault = s.vault) :
    s'.Consistent := by
  intro entry hMem
  rw [hVault] at hMem
  exact hConsistent entry hMem

theorem reopen_vault
    (anchorsDeleted : Bool) :
    (s.reopen anchorsDeleted).vault = s.vault := by
  unfold reopen initDatabase loadPersistedPathAnchors
  dsimp only
  split <;> split <;> split <;> rfl

theorem checkIntent_vault
    {version : Int}
    {checked : AEADStorageAdapter α}
    (hCheck : s.checkIntent version = .ok checked) :
    checked.vault = s.vault := by
  unfold checkIntent at hCheck
  split at hCheck
  · split at hCheck
    · split at hCheck
      · cases hCheck
        rfl
      · cases hCheck
    · cases hCheck
      rfl
  · cases hCheck
    rfl

theorem raiseWatermark_vault
    (version : Int) :
    (s.raiseWatermark version).vault = s.vault := by
  unfold raiseWatermark
  split <;> rfl

theorem acceptRow_vault
    (row : SecureState) :
    (s.acceptRow row).2.vault = s.vault := by
  unfold acceptRow
  split
  · rfl
  · split
    · rfl
    · split
      · rfl
      · rename_i checked hCheck
        split
        · exact checkIntent_vault hCheck
        · rw [raiseWatermark_vault, checkIntent_vault hCheck]

theorem Consistent.commitUpTo
    (hConsistent : s.Consistent)
    (last : CommitStep)
    (expected : Int)
    (next : NextSecureState α)
    (event : String)
    (now : Int) :
    (s.commitUpTo last expected next event
      now).2.Consistent := by
  have hSealed :
      (s.sealNext expected next event
        now).2.Consistent := by
    intro entry hMem
    rcases List.mem_append.mp hMem with hOld | hNew
    · exact hConsistent entry hOld
    · rw [List.mem_singleton] at hNew
      subst hNew
      rfl
  unfold AEADStorageAdapter.commitUpTo
  dsimp only
  split
  · cases last with
    | sealing => exact hSealed
    | storing => exact hSealed.of_vault rfl
    | anchoring => exact hSealed.of_vault rfl
    | intending => exact hSealed.of_vault rfl
  · exact hSealed

theorem step_consistent
    (event : StorageEvent α)
    (hConsistent : s.Consistent) :
    (s.step event).Consistent := by
  cases event with
  | read =>
      apply hConsistent.of_vault
      unfold step getSecurityStateRow
      dsimp only
      split
      · exact acceptRow_vault _
      · rfl
  | commit expected next event now =>
      exact hConsistent.commitUpTo _ _ _ _ _
  | crash last expected next event now anchorsDeleted =>
      exact (hConsistent.commitUpTo _ _ _ _ _).of_vault
        (reopen_vault anchorsDeleted)
  | restart anchorsDeleted =>
      exact hConsistent.of_vault
        (reopen_vault anchorsDeleted)

theorem run_consistent
    (events : List (StorageEvent α)) :
    (run step created events).Consistent :=
  run_keeps (fun _ event h => step_consistent event h)
    events (fun _ hMem => by cases hMem)

/- What opens was sealed for the generation of the row. -/
theorem Consistent.opens
    (hConsistent : s.Consistent)
    {row : SecureState}
    {data : SecurePayload α}
    (hOpens : s.opens row = some data) :
    data.session_generation = row.backend_generation := by
  unfold AEADStorageAdapter.opens Vault.decryptAead at hOpens
  cases hGet : s.vault.produced[row.encrypted_blob]? with
  | none =>
      rw [hGet] at hOpens
      cases hOpens
  | some entry =>
      have hEntry :=
        hConsistent entry (List.mem_of_getElem? hGet)
      rw [hGet] at hOpens
      dsimp only at hOpens
      split at hOpens
      · rename_i hUsed
        cases hOpens
        rw [hEntry, hUsed]
        rfl
      · cases hOpens

------------------------------------------------------------
-- Modified Rows
------------------------------------------------------------

/- The read throws or returns what it would have returned. -/
def Harmless
    (row : SecureState)
    (s : AEADStorageAdapter α) : Prop :=
  (∃ message,
    (s.replaceBy row).getSecurityStateRow.1 =
      .error message) ∨
  (s.replaceBy row).getSecurityStateRow.1 =
    s.getSecurityStateRow.1

/-
  The blob was not sealed for the version and generation of
  the row, or the version is behind a watermark, or behind
  the native intent by more than a lost commit.
-/
def Refuses
    (row : SecureState)
    (s : AEADStorageAdapter α) : Prop :=
  s.opens row = none ∨
  (0 < s.effectiveMinVersion ∧
    row.state_version < s.effectiveMinVersion) ∨
  (0 < s.minValidStateVersion ∧
    ∃ intended, s.transitionIntent = some intended ∧
      0 < intended ∧ row.state_version + 1 < intended)

end AEADStorageAdapter

/- The columns that no blob binds are the same. -/
def SecureState.Indistinct
    (row other : SecureState) : Prop :=
  other.server_epoch = row.server_epoch ∧
  other.highest_observed_time = row.highest_observed_time ∧
  other.grace_token_signature = row.grace_token_signature

theorem SecureState.Indistinct.eq
    {row other : SecureState}
    (hColumns : row.Indistinct other)
    (hBlob : other.encrypted_blob = row.encrypted_blob)
    (hVersion : other.state_version = row.state_version)
    (hGeneration :
      other.backend_generation = row.backend_generation) :
    other = row := by
  rcases hColumns with ⟨hEpoch, hTime, hSignature⟩
  rcases row with ⟨_, _, _, _, _, _⟩
  rcases other with ⟨_, _, _, _, _, _⟩
  simp_all

namespace AEADStorageAdapter

variable {α : Type} {s : AEADStorageAdapter α}

theorem checkIntent_cases
    (s : AEADStorageAdapter α)
    (version : Int) :
    (s.checkIntent version = .error rollbackDetected ∧
      0 < s.minValidStateVersion ∧
      ∃ intended, s.transitionIntent = some intended ∧
        0 < intended ∧ version + 1 < intended) ∨
    (∃ checked, s.checkIntent version = .ok checked ∧
      ¬(0 < s.minValidStateVersion ∧
        ∃ intended, s.transitionIntent = some intended ∧
          0 < intended ∧ version + 1 < intended)) := by
  unfold checkIntent
  cases hIntent : s.transitionIntent with
  | none =>
      exact Or.inr ⟨s, rfl, by simp⟩
  | some intended =>
      dsimp only
      by_cases hAhead :
          0 < s.minValidStateVersion ∧ 0 < intended ∧
            version < intended
      · rw [if_pos hAhead]
        by_cases hLost : intended = version + 1
        · rw [if_pos hLost]
          refine Or.inr ⟨_, rfl, ?_⟩
          rintro ⟨_, other, hOther, _, hFar⟩
          cases hOther
          omega
        · rw [if_neg hLost]
          refine Or.inl ⟨rfl, hAhead.1, intended, rfl,
            hAhead.2.1, ?_⟩
          omega
      · rw [if_neg hAhead]
        refine Or.inr ⟨s, rfl, ?_⟩
        rintro ⟨hMin, other, hOther, hPositive, hFar⟩
        cases hOther
        apply hAhead
        refine ⟨hMin, hPositive, ?_⟩
        omega

/- A modified row is refused, or its columns are returned. -/
theorem acceptRow_cases
    (hConsistent : s.Consistent)
    (row : SecureState) :
    (s.Refuses row ∧
      ∃ message, (s.acceptRow row).1 = .error message) ∨
    (¬s.Refuses row ∧
      ∃ data, s.opens row = some data ∧
        (s.acceptRow row).1 =
          .ok (some (row.inject data))) := by
  have hDecrypt :
      s.vault.decryptAead row.encrypted_blob row.aad =
        s.opens row := rfl
  unfold acceptRow
  rw [hDecrypt]
  cases hOpens : s.opens row with
  | none => exact Or.inl ⟨Or.inl hOpens, _, rfl⟩
  | some data =>
      by_cases hBelow :
          0 < s.effectiveMinVersion ∧
            row.state_version < s.effectiveMinVersion
      · dsimp only
        rw [if_pos hBelow]
        exact Or.inl ⟨Or.inr (Or.inl hBelow), _, rfl⟩
      · dsimp only
        rw [if_neg hBelow]
        rcases checkIntent_cases s row.state_version
          with ⟨hCheck, hFar⟩ | ⟨checked, hCheck, hNear⟩
        · rw [hCheck]
          exact Or.inl ⟨Or.inr (Or.inr hFar), _, rfl⟩
        · have hGeneration := hConsistent.opens hOpens
          rw [hCheck]
          dsimp only
          rw [if_neg (by simp [hGeneration])]
          refine Or.inr ⟨?_, data, rfl, rfl⟩
          rintro (hNone | hLow | hFar)
          · rw [hOpens] at hNone
            cases hNone
          · exact hBelow hLow
          · exact hNear hFar

theorem inject_inj
    {row other : SecureState}
    {data found : SecurePayload α} :
    other.inject found = row.inject data ↔
      row.Indistinct other ∧ found = data := by
  simp only [SecureState.inject, SecureData.mk.injEq,
    SecureState.Indistinct]
  constructor
  · rintro ⟨hData, hColumns⟩
    exact ⟨hColumns, hData⟩
  · rintro ⟨hColumns, hData⟩
    exact ⟨hData, hColumns⟩

theorem harmless_iff
    (hHonest : s.Honest)
    (hConsistent : s.Consistent)
    {row : SecureState}
    (hFile : s.file = .intact (some row))
    (other : SecureState) :
    s.Harmless other ↔
      s.Refuses other ∨
        (row.Indistinct other ∧
          s.opens other = s.opens row) := by
  rcases hHonest.read hFile with ⟨data, hOpens, hRead⟩
  have hModified :
      (s.replaceBy other).getSecurityStateRow =
        (s.replaceBy other).acceptRow other := rfl
  have hSame : (s.replaceBy other).Consistent := hConsistent
  unfold Harmless
  rw [hModified, hRead, hOpens]
  rcases acceptRow_cases hSame other with
    ⟨hRefuses, hError⟩ | ⟨hAccepts, found, hFound, hOk⟩
  · exact iff_of_true (Or.inl hError) (Or.inl hRefuses)
  · have hOther : s.opens other = some found := hFound
    have hNot : ¬s.Refuses other := hAccepts
    rw [hOk, hOther]
    simp only [hNot, false_or, Except.ok.injEq,
      Option.some.injEq, inject_inj, reduceCtorEq,
      exists_false]

/- An honest adapter refuses no row for being newer. -/
theorem Honest.refuses
    (hHonest : s.Honest)
    {row other : SecureState}
    (hFile : s.file = .intact (some row))
    (hRefuses : s.Refuses other) :
    s.opens other = none ∨
      other.state_version < row.state_version := by
  have hVersion : s.version = row.state_version := by
    simp [version, hFile]
  have hMemory := hHonest.memory
  have hPath := hHonest.path
  rcases hRefuses with hNone | ⟨_, hBelow⟩ |
    ⟨_, intended, hIntent, _, hFar⟩
  · exact Or.inl hNone
  · right
    unfold effectiveMinVersion at hBelow
    omega
  · have hLe := (hHonest.intent intended hIntent).1
    right
    omega

/- With its own blob a row opens at its own version. -/
theorem opens_same_blob
    {row other : SecureState}
    {data : SecurePayload α}
    (hOpens : s.opens row = some data)
    (hBlob : other.encrypted_blob = row.encrypted_blob) :
    s.opens other = none ↔
      other.state_version ≠ row.state_version ∨
        other.backend_generation ≠
          row.backend_generation := by
  constructor
  · intro hNone
    apply Decidable.byContradiction
    intro hSame
    have hAad : other.aad = row.aad := by
      simp only [SecureState.aad, Aad.mk.injEq, true_and]
      omega
    unfold opens at hNone hOpens
    rw [hBlob, hAad, hOpens] at hNone
    cases hNone
  · intro hChanged
    cases hOther : s.opens other with
    | none => rfl
    | some found =>
        unfold opens at hOther hOpens
        rw [hBlob] at hOther
        have hAad := Vault.decrypt_unique hOther hOpens
        simp only [SecureState.aad, Aad.mk.injEq,
          true_and] at hAad
        omega

end AEADStorageAdapter

------------------------------------------------------------
-- Every Committed Row
------------------------------------------------------------

open AEADStorageAdapter

/-
  After every history a modified row has no silent effect
  exactly when it is refused, or when it opens to the same
  payload and the columns that no blob binds are the same.
-/
theorem harmless_iff_refuses_or_indistinct
    {α : Type}
    (events : List (StorageEvent α))
    (s : AEADStorageAdapter α)
    (hRun : s = run step created events)
    (row other : SecureState)
    (hFile : s.file = .intact (some row)) :
    (s.Harmless other ↔
      s.Refuses other ∨
        (row.Indistinct other ∧
          s.opens other = s.opens row)) ∧
    (other.encrypted_blob = row.encrypted_blob →
      (s.Harmless other ↔
        other = row ∨
        other.state_version ≠ row.state_version ∨
        other.backend_generation ≠
          row.backend_generation)) := by
  subst hRun
  have hHonest := run_honest events
  have hConsistent := run_consistent events
  refine ⟨harmless_iff hHonest hConsistent hFile other, ?_⟩
  intro hBlob
  rw [harmless_iff hHonest hConsistent hFile other]
  rcases hHonest.read hFile with ⟨data, hOpens, _⟩
  have hSealed := opens_same_blob hOpens hBlob
  constructor
  · rintro (hRefuses | ⟨hColumns, hData⟩)
    · right
      rcases hHonest.refuses hFile hRefuses with hNone | hOlder
      · exact hSealed.mp hNone
      · exact Or.inl (Int.ne_of_lt hOlder)
    · apply Decidable.or_iff_not_imp_right.mpr
      intro hSame
      apply hColumns.eq hBlob
      · apply Decidable.byContradiction
        exact fun hVersion => hSame (Or.inl hVersion)
      · apply Decidable.byContradiction
        exact fun hOther => hSame (Or.inr hOther)
  · rintro (rfl | hChanged)
    · exact Or.inr ⟨⟨rfl, rfl, rfl⟩, rfl⟩
    · exact Or.inl (Or.inl (hSealed.mpr hChanged))

/- The row of a database that was booted. -/
def bootRow : SecureState where
  state_version := 2
  backend_generation := 0
  server_epoch := 0
  highest_observed_time := 2
  grace_token_signature := none
  encrypted_blob := 1

/- A version that is set back without its blob is refused. -/
theorem version_modified_is_refused :
    (run step created bootEvents).file =
      .intact (some bootRow) ∧
    (run step created bootEvents).Harmless
      { bootRow with state_version := 1 } := by
  refine ⟨rfl, ?_⟩
  refine ((harmless_iff_refuses_or_indistinct bootEvents _ rfl
    bootRow _ rfl).2 ?_).mpr ?_
  · rfl
  · exact Or.inr (Or.inl (by decide))

/- The observed time of the row is set back by hand. -/
theorem observed_time_modified_silently :
    (run step created bootEvents).file =
      .intact (some bootRow) ∧
    ¬(run step created bootEvents).Harmless
      { bootRow with highest_observed_time := 0 } := by
  refine ⟨rfl, ?_⟩
  rintro (⟨message, hError⟩ | hSame)
  · cases hError
  · have hTime := congrArg
      (fun result => (result.toOption.bind id).map
        SecureData.highest_observed_time) hSame
    revert hTime
    decide

end ControlPlane
