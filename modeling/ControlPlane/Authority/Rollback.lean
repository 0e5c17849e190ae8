import ControlPlane.Authority.Storage

/-
  An older image of the security database.

  After an honest history the file is replaced by a row that
  was stored before. The adapter notices this from its file
  of anchors alone: the native intent is not looked at until
  the memory has a watermark, and by then the old row was
  accepted.

  Main declarations:
    * `AEADStorageAdapter.replaceBy`
    * `AEADStorageAdapter.Detects`
    * `detects_iff`
    * `rollback_detected_iff`
-/

------------------------------------------------------------
-- Detection
------------------------------------------------------------

namespace ControlPlane

namespace AEADStorageAdapter

variable {α : Type} {s : AEADStorageAdapter α}

/- The file is replaced while no process runs. -/
def replaceBy
    (image : SecureState)
    (s : AEADStorageAdapter α) : AEADStorageAdapter α :=
  { s with file := .intact (some image) }

/-
  Later calls, also of later processes. A commit names the
  version that its caller has read, so it never names that
  of a row no read has returned.
-/
def Later
    (image : SecureState) : StorageEvent α → Prop
| .read => True
| .restart anchorsDeleted => anchorsDeleted = false
| .commit expected _ _ _ => expected ≠ image.state_version
| .crash _ expected _ _ _ anchorsDeleted =>
    expected ≠ image.state_version ∧ anchorsDeleted = false

/- Every read reports a rollback, now and later. -/
def Detects
    (image : SecureState)
    (s : AEADStorageAdapter α) : Prop :=
  ∀ events, (∀ event ∈ events, Later image event) →
    (run step s events).getSecurityStateRow.1 =
      .error rollbackDetected

/- The state in which the image is held off. -/
structure HoldsOff
    (image : SecureState)
    (s : AEADStorageAdapter α) : Prop where
  file : s.file = .intact (some image)
  opens : (s.opens image).isSome = true
  nonneg : 0 ≤ image.state_version
  recorded : image.state_version < s.recordedAnchor false
  path : s.pathMinVersion = s.recordedAnchor false

theorem HoldsOff.read
    {image : SecureState}
    (hHolds : HoldsOff image s) :
    s.getSecurityStateRow = (.error rollbackDetected, s) := by
  have hNonneg := hHolds.nonneg
  have hRecorded := hHolds.recorded
  have hPath := hHolds.path
  rcases Option.isSome_iff_exists.mp hHolds.opens with
    ⟨data, hOpens⟩
  have hDecrypt :
      s.vault.decryptAead image.encrypted_blob image.aad =
        some data := hOpens
  have hBelow :
      0 < s.effectiveMinVersion ∧
        image.state_version < s.effectiveMinVersion := by
    unfold effectiveMinVersion
    omega
  have hRead :
      s.getSecurityStateRow = s.acceptRow image := by
    simp [getSecurityStateRow, hHolds.file]
  rw [hRead, acceptRow, hDecrypt]
  dsimp only
  rw [if_pos hBelow]

theorem HoldsOff.reopen
    {image : SecureState}
    (hHolds : HoldsOff image s) :
    HoldsOff image (s.reopen false) := by
  rw [reopen_eq hHolds.file]
  exact ⟨hHolds.file, hHolds.opens, hHolds.nonneg,
    hHolds.recorded, rfl⟩

/- A commit at another version only seals its row. -/
theorem HoldsOff.commitUpTo
    {image : SecureState}
    (hHolds : HoldsOff image s)
    {expected : Int}
    (hOther : expected ≠ image.state_version)
    (last : CommitStep)
    (next : NextSecureState α)
    (event : String)
    (now : Int) :
    HoldsOff image
      (s.commitUpTo last expected next event now).2 := by
  have hMatches : s.matchesVersion expected = false := by
    unfold matchesVersion
    rw [hHolds.file]
    exact decide_eq_false (Ne.symm hOther)
  have hSealed :
      (s.commitUpTo last expected next event now).2 =
        (s.sealNext expected next event now).2 := by
    simp [AEADStorageAdapter.commitUpTo, hMatches]
  rcases Option.isSome_iff_exists.mp hHolds.opens with
    ⟨data, hOpens⟩
  rw [hSealed]
  exact ⟨hHolds.file,
    Option.isSome_of_mem (Vault.decrypt_mono hOpens _ _),
    hHolds.nonneg, hHolds.recorded, hHolds.path⟩

/- No later call lets the image in. -/
theorem HoldsOff.step
    {image : SecureState}
    (hHolds : HoldsOff image s)
    {event : StorageEvent α}
    (hLater : Later image event) :
    HoldsOff image (s.step event) := by
  cases event with
  | read =>
      rw [AEADStorageAdapter.step, hHolds.read]
      exact hHolds
  | commit expected next event now =>
      exact hHolds.commitUpTo hLater .intending next event now
  | crash last expected next event now anchorsDeleted =>
      rcases hLater with ⟨hOther, rfl⟩
      exact (hHolds.commitUpTo hOther last next event
        now).reopen
  | restart anchorsDeleted =>
      cases hLater
      exact hHolds.reopen

theorem HoldsOff.detects
    {image : SecureState}
    (hHolds : HoldsOff image s) :
    s.Detects image := by
  intro events hLater
  have hStill :
      HoldsOff image
        (run AEADStorageAdapter.step s events) := by
    induction events generalizing s with
    | nil => exact hHolds
    | cons event events ih =>
        apply ih (hHolds.step (hLater event (by simp)))
        intro later hMem
        exact hLater later (by simp [hMem])
  rw [hStill.read]

/- An intent is recorded after the anchor. -/
theorem Honest.intent_le_recorded
    (hHonest : s.Honest)
    {anchorsDeleted : Bool}
    (hPositive : 0 < s.recordedAnchor anchorsDeleted)
    {intended : Int}
    (hIntent : s.transitionIntent = some intended) :
    intended ≤ s.recordedAnchor anchorsDeleted := by
  unfold recordedAnchor at hPositive ⊢
  cases anchorsDeleted with
  | true => simp at hPositive
  | false =>
      simp only [Bool.false_eq_true, if_false] at hPositive ⊢
      cases hAnchors : s.anchorsFile with
      | none =>
          rw [hAnchors] at hPositive
          simp at hPositive
      | some anchored =>
          have hLe :=
            (hHonest.intent intended hIntent).2 anchored
              hAnchors
          simp only [Option.getD_some]
          omega

/- An image that is not older than the anchor is accepted. -/
theorem Honest.accepts
    (hHonest : s.Honest)
    {image : SecureState}
    (hImage : image ∈ s.images)
    {anchorsDeleted : Bool}
    (hNewer :
      s.recordedAnchor anchorsDeleted ≤
        image.state_version) :
    ∃ data,
      ((s.replaceBy image).opened
        anchorsDeleted).getSecurityStateRow =
          (.ok (some data),
            ((s.replaceBy image).opened
              anchorsDeleted).raiseWatermark
                image.state_version) := by
  rcases hHonest.sealed image hImage with
    ⟨_, data, hOpens, hGeneration⟩
  refine ⟨image.inject data, ?_⟩
  apply acceptRow_eq
  · exact hOpens
  · exact hGeneration
  · change max (s.recordedAnchor anchorsDeleted)
      (s.recordedAnchor anchorsDeleted) ≤ _
    omega
  · intro hPositive intended hIntent
    have hLe := hHonest.intent_le_recorded hPositive hIntent
    omega

/-
  The image is reported exactly when it is older than what
  the anchors file holds when the database is opened.
-/
theorem detects_iff
    (hHonest : s.Honest)
    {image : SecureState}
    (hImage : image ∈ s.images)
    (anchorsDeleted : Bool) :
    ((s.replaceBy image).reopen anchorsDeleted).Detects
        image ↔
      image.state_version <
        s.recordedAnchor anchorsDeleted := by
  rcases hHonest.sealed image hImage with
    ⟨hNonneg, data, hOpens, _⟩
  have hFile :
      (s.replaceBy image).file = .intact (some image) := rfl
  rw [reopen_eq hFile]
  constructor
  · intro hDetects
    apply Decidable.byContradiction
    intro hNot
    rcases hHonest.accepts hImage (Int.not_lt.mp hNot) with
      ⟨accepted, hRead⟩
    have hFirst := hDetects [] (by simp)
    rw [run_nil, hRead] at hFirst
    cases hFirst
  · intro hRecorded
    cases anchorsDeleted with
    | true =>
        have hZero : s.recordedAnchor true = 0 := rfl
        omega
    | false =>
        have hHolds :
            HoldsOff image
              ((s.replaceBy image).opened false) :=
          ⟨rfl, Option.isSome_of_mem hOpens, hNonneg,
            hRecorded, rfl⟩
        exact hHolds.detects

theorem lt_recordedAnchor_iff
    {version : Int}
    (hNonneg : 0 ≤ version)
    (anchorsDeleted : Bool) :
    version < s.recordedAnchor anchorsDeleted ↔
      anchorsDeleted = false ∧
        ∃ anchored, s.anchorsFile = some anchored ∧
          version < anchored := by
  unfold recordedAnchor
  cases anchorsDeleted with
  | true =>
      simp only [if_true, Bool.true_eq_false, false_and,
        iff_false]
      omega
  | false =>
      cases s.anchorsFile with
      | none =>
          simp
          omega
      | some anchored =>
          simp
          omega

end AEADStorageAdapter

------------------------------------------------------------
-- Every History
------------------------------------------------------------

open AEADStorageAdapter

/-
  After every history, a file that was replaced by an older
  image is reported now and later exactly when the image is
  older than the version that the anchors file holds for it.
  Without a replacement no read of the history throws.
-/
theorem rollback_detected_iff
    {α : Type}
    (events : List (StorageEvent α))
    (s : AEADStorageAdapter α)
    (hRun : s = run step created events) :
    (∀ (image : SecureState) (anchorsDeleted : Bool),
      image ∈ s.images → image.state_version < s.version →
      (((s.replaceBy image).reopen anchorsDeleted).Detects
          image ↔
        anchorsDeleted = false ∧
          ∃ anchored, s.anchorsFile = some anchored ∧
            image.state_version < anchored)) ∧
    (∀ message, s.getSecurityStateRow.1 ≠ .error message) := by
  subst hRun
  have hHonest := run_honest events
  refine ⟨?_, ?_⟩
  · intro image anchorsDeleted hImage _
    rw [detects_iff hHonest hImage]
    exact lt_recordedAnchor_iff
      (hHonest.sealed image hImage).1 anchorsDeleted
  · intro message hError
    rcases hHonest.intact with ⟨found, hFile⟩
    cases found with
    | none =>
        simp [getSecurityStateRow, hFile] at hError
    | some row =>
        rcases hHonest.read hFile with ⟨data, _, hRead⟩
        rw [hRead] at hError
        cases hError

/- A database that was booted and initialized. -/
def bootEvents : List (StorageEvent Unit) :=
  let next : NextSecureState Unit :=
    { session_generation := 0
      server_epoch := 0
      highest_observed_time := 0
      grace_token_signature := none
      fields := () }
  [.commit 0 next "SYSTEM_BOOT" 1,
    .commit 1 next "INITIALIZE" 2]

/- With its anchors the adapter reports the first row. -/
theorem rollback_detected_after_boot :
    ∃ image ∈ (run step created bootEvents).images,
      image.state_version = 1 ∧
      (((run step created bootEvents).replaceBy image).reopen
        false).Detects image := by
  refine ⟨_, List.mem_cons_self, rfl, ?_⟩
  apply ((rollback_detected_iff bootEvents _ rfl).1 _ false
    (by decide) (by decide)).mpr
  exact ⟨rfl, 2, rfl, by decide⟩

/- Without them it accepts the row and anchors it. -/
theorem rollback_accepted_without_anchors :
    ∃ image ∈ (run step created bootEvents).images,
      image.state_version = 1 ∧
      let s := ((run step created bootEvents).replaceBy
        image).reopen true
      s.transitionIntent = some 2 ∧
      s.getSecurityStateRow.1.toOption.isSome = true ∧
      s.getSecurityStateRow.2.anchorsFile = some 1 := by
  decide

end ControlPlane
