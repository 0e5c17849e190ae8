import ControlPlane.Data.Run

/-
  The storage adapter of the security state.

  The row is sealed with its version and generation as
  associated data. Three watermarks guard against an older
  row: one in memory, one in a file of anchors and one in
  the native store. A commit writes the row first, then the
  anchor, then the native intent.

  Main declarations:
    * `Vault.encryptAead` and `Vault.decryptAead`
    * `AEADStorageAdapter`
    * `AEADStorageAdapter.initDatabase`
    * `AEADStorageAdapter.getSecurityStateRow`
    * `AEADStorageAdapter.commitTransitionWithOCC`
    * `StorageEvent` and `AEADStorageAdapter.step`
    * `Honest` and `Honest.read`
-/

------------------------------------------------------------
-- Sealed Rows
------------------------------------------------------------

namespace ControlPlane

/- The associated data, `key:stateVersion:generation`. -/
structure Aad where
  key : String
  stateVersion : Int
  backendGeneration : Int
deriving DecidableEq, Repr

/-
  What is encrypted. A generation that is missing is zero,
  and `fields` are those that the adapter does not look at.
-/
structure SecurePayload (α : Type) where
  session_generation : Int
  state_version : Int
  last_transition : String
  last_transition_at : Int
  fields : α
deriving DecidableEq, Repr

/-
  Authenticated encryption that cannot be forged. A blob is
  the number of the call that produced it, and it opens with
  the associated data of that call and no other.
-/
structure Vault (α : Type) where
  produced : List (Aad × SecurePayload α)
deriving DecidableEq, Repr

namespace Vault

variable {α : Type}

def encryptAead
    (plaintext : SecurePayload α)
    (aad : Aad)
    (v : Vault α) : Nat × Vault α :=
  (v.produced.length, ⟨v.produced ++ [(aad, plaintext)]⟩)

def decryptAead
    (blob : Nat)
    (aad : Aad)
    (v : Vault α) : Option (SecurePayload α) :=
  match v.produced[blob]? with
  | some (used, plaintext) =>
      if used = aad then some plaintext else none
  | none => none

/- A blob opens as it was sealed. -/
theorem decrypt_encrypt
    (plaintext : SecurePayload α)
    (aad : Aad)
    (v : Vault α) :
    (v.encryptAead plaintext aad).2.decryptAead
      (v.encryptAead plaintext aad).1 aad =
        some plaintext := by
  simp [encryptAead, decryptAead]

/- Sealing more does not change what opens. -/
theorem decrypt_mono
    {v : Vault α}
    {blob : Nat}
    {aad : Aad}
    {p : SecurePayload α}
    (hOpens : v.decryptAead blob aad = some p)
    (plaintext : SecurePayload α)
    (other : Aad) :
    (v.encryptAead plaintext other).2.decryptAead blob aad =
      some p := by
  unfold decryptAead at hOpens ⊢
  cases hGet : v.produced[blob]? with
  | none =>
      rw [hGet] at hOpens
      cases hOpens
  | some entry =>
      have hLt : blob < v.produced.length :=
        (List.getElem?_eq_some_iff.mp hGet).1
      rw [encryptAead, List.getElem?_append_left hLt, hGet]
      rw [hGet] at hOpens
      exact hOpens

/- A blob opens with one associated data. -/
theorem decrypt_unique
    {v : Vault α}
    {blob : Nat}
    {aad other : Aad}
    {p q : SecurePayload α}
    (hOpens : v.decryptAead blob aad = some p)
    (hOther : v.decryptAead blob other = some q) :
    aad = other := by
  unfold decryptAead at hOpens hOther
  cases hGet : v.produced[blob]? with
  | none =>
      rw [hGet] at hOpens
      cases hOpens
  | some entry =>
      rw [hGet] at hOpens hOther
      dsimp only at hOpens hOther
      split at hOpens
      · rename_i hUsed
        split at hOther
        · rename_i hUsed'
          exact hUsed.symm.trans hUsed'
        · cases hOther
      · cases hOpens

end Vault

/- The columns of the singleton row of `secure_state`. -/
structure SecureState where
  state_version : Int
  backend_generation : Int
  server_epoch : Int
  highest_observed_time : Int
  grace_token_signature : Option String
  encrypted_blob : Nat
deriving DecidableEq, Repr

def SecureState.aad
    (row : SecureState) : Aad where
  key := "singleton"
  stateVersion := row.state_version
  backendGeneration := row.backend_generation

/- What a commit is given. -/
structure NextSecureState (α : Type) where
  session_generation : Int
  server_epoch : Int
  highest_observed_time : Int
  grace_token_signature : Option String
  fields : α
deriving DecidableEq, Repr

/- What a read returns. -/
structure SecureData (α : Type) where
  payload : SecurePayload α
  server_epoch : Int
  highest_observed_time : Int
  grace_token_signature : Option String
deriving DecidableEq, Repr

/- The columns are copied over what was decrypted. -/
def SecureState.inject
    {α : Type}
    (row : SecureState)
    (data : SecurePayload α) : SecureData α where
  payload := data
  server_epoch := row.server_epoch
  highest_observed_time := row.highest_observed_time
  grace_token_signature := row.grace_token_signature

/- The database file, with the row once there is one. -/
inductive DatabaseFile where
| missing
| corrupt
| intact (row : Option SecureState)
deriving DecidableEq, Repr

------------------------------------------------------------
-- The Adapter
------------------------------------------------------------

/- The last step that a commit gets to. -/
inductive CommitStep where
| sealing
| storing
| anchoring
| intending
deriving DecidableEq, Repr

/-
  The adapter for one path, with what it keeps on disk. The
  anchors file is `none` when it is gone or has no entry for
  the path. `images` are the rows that were ever stored.
-/
structure AEADStorageAdapter (α : Type) where
  file : DatabaseFile
  anchorsFile : Option Int
  transitionIntent : Option Int
  vault : Vault α
  minValidStateVersion : Int
  pathMinVersion : Int
  images : List SecureState
deriving DecidableEq, Repr

namespace AEADStorageAdapter

variable {α : Type}

def loadPersistedPathAnchors
    (s : AEADStorageAdapter α) : AEADStorageAdapter α :=
  match s.anchorsFile with
  | some num =>
      if s.pathMinVersion < num then
        { s with pathMinVersion := num }
      else s
  | none => s

def savePersistedPathAnchor
    (version : Int)
    (s : AEADStorageAdapter α) : AEADStorageAdapter α :=
  { s with
      pathMinVersion := version
      anchorsFile := some version }

/-
  A new file resets the watermark of its path. A file that
  is not a database is set aside and replaced by a new one.
-/
def initDatabase
    (s : AEADStorageAdapter α) : AEADStorageAdapter α :=
  let loaded := s.loadPersistedPathAnchors
  match s.file with
  | .missing =>
      { loaded.savePersistedPathAnchor 0 with
          minValidStateVersion := 0
          file := .intact none }
  | .corrupt =>
      { loaded with
          minValidStateVersion := 0
          file := .intact none }
  | .intact _ =>
      { loaded with
          minValidStateVersion := loaded.pathMinVersion }

def effectiveMinVersion
    (s : AEADStorageAdapter α) : Int :=
  max s.minValidStateVersion s.pathMinVersion

def rollbackDetected : String :=
  "SECURITY_STATE_UNCERTAIN: State version rollback detected."

/-
  The native intent is looked at when the memory has a
  watermark. One step ahead counts as a lost commit.
-/
def checkIntent
    (version : Int)
    (s : AEADStorageAdapter α) :
    Except String (AEADStorageAdapter α) :=
  match s.transitionIntent with
  | some anchoredVersion =>
      if 0 < s.minValidStateVersion ∧ 0 < anchoredVersion ∧
          version < anchoredVersion then
        if anchoredVersion = version + 1 then
          .ok { s with transitionIntent := some version }
        else .error rollbackDetected
      else .ok s
  | none => .ok s

/- A row that was accepted raises the watermarks. -/
def raiseWatermark
    (version : Int)
    (s : AEADStorageAdapter α) : AEADStorageAdapter α :=
  if s.minValidStateVersion < version then
    { s.savePersistedPathAnchor version with
        minValidStateVersion := version }
  else s

/- What a read makes of the row that it found. -/
def acceptRow
    (row : SecureState)
    (s : AEADStorageAdapter α) :
    Except String (Option (SecureData α)) ×
      AEADStorageAdapter α :=
  match s.vault.decryptAead row.encrypted_blob row.aad with
  | none =>
      (.error "SECURITY_STATE_UNCERTAIN: Database integrity verification failed.", s)
  | some data =>
      if 0 < s.effectiveMinVersion ∧
          row.state_version < s.effectiveMinVersion then
        (.error rollbackDetected, s)
      else
        match s.checkIntent row.state_version with
        | .error message => (.error message, s)
        | .ok checked =>
            if data.session_generation ≠ 0 ∧
                row.backend_generation ≠
                  data.session_generation then
              (.error "SECURITY_STATE_UNCERTAIN: Backend generation rollback detected.", checked)
            else
              (.ok (some (row.inject data)),
                checked.raiseWatermark row.state_version)

def getSecurityStateRow
    (s : AEADStorageAdapter α) :
    Except String (Option (SecureData α)) ×
      AEADStorageAdapter α :=
  match s.file with
  | .intact (some row) => s.acceptRow row
  | _ => (.ok none, s)

/- `nextStateData.grace_token_signature || null` -/
def signatureOrNull : Option String → Option String
| some "" => none
| signature => signature

/- Seal the next state at the version after `expected`. -/
def sealNext
    (expectedStateVersion : Int)
    (next : NextSecureState α)
    (event : String)
    (now : Int)
    (s : AEADStorageAdapter α) :
    SecureState × AEADStorageAdapter α :=
  let payload : SecurePayload α :=
    { session_generation := next.session_generation
      state_version := expectedStateVersion + 1
      last_transition := event
      last_transition_at := now
      fields := next.fields }
  let aad : Aad :=
    { key := "singleton"
      stateVersion := expectedStateVersion + 1
      backendGeneration := next.session_generation }
  let produced := s.vault.encryptAead payload aad
  ({ state_version := expectedStateVersion + 1
     backend_generation := next.session_generation
     server_epoch := next.server_epoch
     highest_observed_time :=
       if next.highest_observed_time = 0 then now
       else next.highest_observed_time
     grace_token_signature :=
       signatureOrNull next.grace_token_signature
     encrypted_blob := produced.1 },
    { s with vault := produced.2 })

/-
  The row is updated at its version. At version zero it is
  inserted, unless there is one.
-/
def matchesVersion
    (expectedStateVersion : Int)
    (s : AEADStorageAdapter α) : Bool :=
  match s.file with
  | .intact (some row) =>
      decide (row.state_version = expectedStateVersion)
  | .intact none => decide (expectedStateVersion = 0)
  | _ => false

def storeRow
    (row : SecureState)
    (s : AEADStorageAdapter α) : AEADStorageAdapter α :=
  { s with
      file := .intact (some row)
      images := s.images ++ [row] }

def anchorVersion
    (version : Int)
    (s : AEADStorageAdapter α) : AEADStorageAdapter α :=
  { s.savePersistedPathAnchor version with
      minValidStateVersion := version }

def setTransitionIntent
    (version : Int)
    (s : AEADStorageAdapter α) : AEADStorageAdapter α :=
  { s with transitionIntent := some version }

/- A commit up to one of its steps. -/
def commitUpTo
    (last : CommitStep)
    (expectedStateVersion : Int)
    (next : NextSecureState α)
    (event : String)
    (now : Int)
    (s : AEADStorageAdapter α) :
    Bool × AEADStorageAdapter α :=
  let produced :=
    s.sealNext expectedStateVersion next event now
  if s.matchesVersion expectedStateVersion then
    let stored := produced.2.storeRow produced.1
    let anchored :=
      stored.anchorVersion (expectedStateVersion + 1)
    match last with
    | .sealing => (false, produced.2)
    | .storing => (false, stored)
    | .anchoring => (false, anchored)
    | .intending =>
        (true,
          anchored.setTransitionIntent
            (expectedStateVersion + 1))
  else (false, produced.2)

def commitTransitionWithOCC
    (expectedStateVersion : Int)
    (next : NextSecureState α)
    (event : String)
    (now : Int)
    (s : AEADStorageAdapter α) :
    Bool × AEADStorageAdapter α :=
  s.commitUpTo .intending expectedStateVersion next event now

------------------------------------------------------------
-- Runs
------------------------------------------------------------

/- A new process opens the database. -/
def reopen
    (anchorsDeleted : Bool)
    (s : AEADStorageAdapter α) : AEADStorageAdapter α :=
  initDatabase
    { s with
        anchorsFile :=
          if anchorsDeleted then none else s.anchorsFile
        minValidStateVersion := 0
        pathMinVersion := 0 }

/- The first process on a machine. -/
def created : AEADStorageAdapter α :=
  initDatabase
    { file := .missing
      anchorsFile := none
      transitionIntent := none
      vault := ⟨[]⟩
      minValidStateVersion := 0
      pathMinVersion := 0
      images := [] }

end AEADStorageAdapter

/- A crash ends a commit at one of its steps. -/
inductive StorageEvent (α : Type) where
| read
| commit (expectedStateVersion : Int)
    (next : NextSecureState α) (event : String) (now : Int)
| crash (last : CommitStep) (expectedStateVersion : Int)
    (next : NextSecureState α) (event : String) (now : Int)
    (anchorsDeleted : Bool)
| restart (anchorsDeleted : Bool)
deriving DecidableEq, Repr

namespace AEADStorageAdapter

variable {α : Type}

def step
    (s : AEADStorageAdapter α) :
    StorageEvent α → AEADStorageAdapter α
| .read => s.getSecurityStateRow.2
| .commit expected next event now =>
    (s.commitTransitionWithOCC expected next event now).2
| .crash last expected next event now anchorsDeleted =>
    (s.commitUpTo last expected next event now).2.reopen
      anchorsDeleted
| .restart anchorsDeleted => s.reopen anchorsDeleted

/- The version that was committed last, or zero. -/
def version
    (s : AEADStorageAdapter α) : Int :=
  match s.file with
  | .intact (some row) => row.state_version
  | _ => 0

/- What the row is opened to. -/
def opens
    (row : SecureState)
    (s : AEADStorageAdapter α) : Option (SecurePayload α) :=
  s.vault.decryptAead row.encrypted_blob row.aad

end AEADStorageAdapter

------------------------------------------------------------
-- Honest Histories
------------------------------------------------------------

/-
  What holds as long as nobody replaces the file: every row
  that was stored opens, and no watermark is ahead of the
  row. The native intent is not ahead of the anchors.
-/
structure AEADStorageAdapter.Honest
    {α : Type}
    (s : AEADStorageAdapter α) : Prop where
  intact : ∃ row, s.file = .intact row
  stored : ∀ row, s.file = .intact (some row) →
    row ∈ s.images
  sealed : ∀ row ∈ s.images, 0 ≤ row.state_version ∧
    ∃ data, s.opens row = some data ∧
      data.session_generation = row.backend_generation
  nonneg : 0 ≤ s.version
  memory : s.minValidStateVersion ≤ s.version
  path : s.pathMinVersion ≤ s.version
  anchors : ∀ anchored, s.anchorsFile = some anchored →
    anchored ≤ s.version
  intent : ∀ intended, s.transitionIntent = some intended →
    intended ≤ s.version ∧
      ∀ anchored, s.anchorsFile = some anchored →
        intended ≤ anchored

namespace AEADStorageAdapter

variable {α : Type} {s : AEADStorageAdapter α}

theorem created_honest :
    (created : AEADStorageAdapter α).Honest := by
  refine ⟨⟨none, rfl⟩, ?_, ?_, Int.le_refl _, Int.le_refl _,
    Int.le_refl _, ?_, ?_⟩
  · intro row hFile
    cases hFile
  · intro row hMem
    cases hMem
  · intro anchored hAnchored
    cases hAnchored
    exact Int.le_refl _
  · intro intended hIntent
    cases hIntent

/- What the anchors file holds for the path. -/
def recordedAnchor
    (anchorsDeleted : Bool)
    (s : AEADStorageAdapter α) : Int :=
  if anchorsDeleted then 0 else max 0 (s.anchorsFile.getD 0)

/- The adapter after an existing file was opened. -/
def opened
    (anchorsDeleted : Bool)
    (s : AEADStorageAdapter α) : AEADStorageAdapter α :=
  { s with
      anchorsFile :=
        if anchorsDeleted then none else s.anchorsFile
      minValidStateVersion := s.recordedAnchor anchorsDeleted
      pathMinVersion := s.recordedAnchor anchorsDeleted }

theorem reopen_eq
    {row : Option SecureState}
    (hFile : s.file = .intact row)
    (anchorsDeleted : Bool) :
    s.reopen anchorsDeleted = s.opened anchorsDeleted := by
  cases anchorsDeleted with
  | true =>
      simp [reopen, initDatabase, loadPersistedPathAnchors,
        opened, recordedAnchor, hFile]
  | false =>
      cases hAnchors : s.anchorsFile with
      | none =>
          simp [reopen, initDatabase, opened,
            loadPersistedPathAnchors, recordedAnchor, hFile,
            hAnchors]
      | some num =>
          by_cases hNum : 0 < num
          · have hMax : max 0 num = num := by omega
            simp [reopen, initDatabase, opened,
              loadPersistedPathAnchors, recordedAnchor,
              hFile, hAnchors, hNum, hMax]
          · have hMax : max 0 num = 0 := by omega
            simp [reopen, initDatabase, opened,
              loadPersistedPathAnchors, recordedAnchor,
              hFile, hAnchors, hNum, hMax]

theorem Honest.recordedAnchor_le
    (hHonest : s.Honest)
    (anchorsDeleted : Bool) :
    s.recordedAnchor anchorsDeleted ≤ s.version := by
  have hNonneg := hHonest.nonneg
  unfold recordedAnchor
  split
  · exact hNonneg
  · cases hAnchors : s.anchorsFile with
    | none =>
        simp only [Option.getD_none]
        omega
    | some num =>
        have hNum := hHonest.anchors num hAnchors
        simp only [Option.getD_some]
        omega

theorem Honest.reopen
    (hHonest : s.Honest)
    (anchorsDeleted : Bool) :
    (s.reopen anchorsDeleted).Honest := by
  rcases hHonest.intact with ⟨row, hFile⟩
  have hAnchor := hHonest.recordedAnchor_le anchorsDeleted
  rw [reopen_eq hFile]
  refine ⟨hHonest.intact, hHonest.stored, hHonest.sealed,
    hHonest.nonneg, hAnchor, hAnchor, ?_, ?_⟩
  · intro anchored hSome
    cases anchorsDeleted with
    | true => cases hSome
    | false => exact hHonest.anchors anchored hSome
  · intro intended hIntent
    refine ⟨(hHonest.intent intended hIntent).1, ?_⟩
    intro anchored hSome
    cases anchorsDeleted with
    | true => cases hSome
    | false =>
        exact (hHonest.intent intended hIntent).2 anchored
          hSome

/- An intent that is not ahead of the row changes nothing. -/
theorem checkIntent_eq
    {version : Int}
    (hIntent : 0 < s.minValidStateVersion → ∀ intended,
      s.transitionIntent = some intended →
        intended ≤ version) :
    s.checkIntent version = .ok s := by
  unfold checkIntent
  cases hSome : s.transitionIntent with
  | none => rfl
  | some intended =>
      dsimp only
      rw [if_neg]
      rintro ⟨hMin, _, hAhead⟩
      have hLe := hIntent hMin intended hSome
      omega

/- A row that is accepted, and what it leaves behind. -/
theorem acceptRow_eq
    {row : SecureState}
    {data : SecurePayload α}
    (hOpens : s.opens row = some data)
    (hGeneration :
      data.session_generation = row.backend_generation)
    (hMin : s.effectiveMinVersion ≤ row.state_version)
    (hIntent : 0 < s.minValidStateVersion → ∀ intended,
      s.transitionIntent = some intended →
        intended ≤ row.state_version) :
    s.acceptRow row =
      (.ok (some (row.inject data)),
        s.raiseWatermark row.state_version) := by
  have hDecrypt :
      s.vault.decryptAead row.encrypted_blob row.aad =
        some data := hOpens
  unfold acceptRow
  rw [hDecrypt]
  dsimp only
  rw [if_neg (by omega), checkIntent_eq hIntent]
  dsimp only
  rw [if_neg (by simp [hGeneration])]

/- Without a replacement no read throws. -/
theorem Honest.read
    (hHonest : s.Honest)
    {row : SecureState}
    (hFile : s.file = .intact (some row)) :
    ∃ data, s.opens row = some data ∧
      s.getSecurityStateRow =
        (.ok (some (row.inject data)),
          s.raiseWatermark row.state_version) := by
  rcases hHonest.sealed row (hHonest.stored row hFile) with
    ⟨_, data, hOpens, hGeneration⟩
  have hVersion : s.version = row.state_version := by
    simp [version, hFile]
  have hMemory := hHonest.memory
  have hPath := hHonest.path
  refine ⟨data, hOpens, ?_⟩
  have hRead : s.getSecurityStateRow = s.acceptRow row := by
    simp [getSecurityStateRow, hFile]
  rw [hRead]
  apply acceptRow_eq hOpens hGeneration
  · simp only [effectiveMinVersion]
    omega
  · intro _ intended hIntent
    have hLe := (hHonest.intent intended hIntent).1
    omega

theorem Honest.anchorVersion
    (hHonest : s.Honest) :
    (s.anchorVersion s.version).Honest := by
  refine ⟨hHonest.intact, hHonest.stored, hHonest.sealed,
    hHonest.nonneg, Int.le_refl _, Int.le_refl _, ?_, ?_⟩
  · intro anchored hSome
    cases hSome
    exact Int.le_refl _
  · intro intended hIntent
    have hLe := (hHonest.intent intended hIntent).1
    refine ⟨hLe, ?_⟩
    intro anchored hSome
    cases hSome
    exact hLe

theorem Honest.raiseWatermark
    (hHonest : s.Honest) :
    (s.raiseWatermark s.version).Honest := by
  unfold AEADStorageAdapter.raiseWatermark
  split
  · exact hHonest.anchorVersion
  · exact hHonest

section Commits

variable
  {expected now : Int}
  {next : NextSecureState α}
  {event : String}

theorem Honest.sealNext
    (hHonest : s.Honest) :
    (s.sealNext expected next event now).2.Honest := by
  refine ⟨hHonest.intact, hHonest.stored, ?_,
    hHonest.nonneg, hHonest.memory, hHonest.path,
    hHonest.anchors, hHonest.intent⟩
  intro row hMem
  rcases hHonest.sealed row hMem with
    ⟨hNonneg, data, hOpens, hGeneration⟩
  exact ⟨hNonneg, data, Vault.decrypt_mono hOpens _ _,
    hGeneration⟩

/- The row that was sealed opens. -/
theorem opens_sealNext
    (s : AEADStorageAdapter α)
    (expected : Int)
    (next : NextSecureState α)
    (event : String)
    (now : Int) :
    ∃ data,
      (s.sealNext expected next event now).2.opens
        (s.sealNext expected next event now).1 = some data ∧
      data.session_generation =
        (s.sealNext expected next event
          now).1.backend_generation :=
  ⟨_, Vault.decrypt_encrypt _ _ _, rfl⟩

theorem Honest.matchesVersion
    (hHonest : s.Honest)
    (hMatches : s.matchesVersion expected = true) :
    expected = s.version := by
  rcases hHonest.intact with ⟨row, hFile⟩
  unfold AEADStorageAdapter.matchesVersion at hMatches
  unfold version
  rw [hFile] at hMatches ⊢
  cases row with
  | none => exact of_decide_eq_true hMatches
  | some row => exact (of_decide_eq_true hMatches).symm

/- A newer row is stored. -/
theorem Honest.storeRow
    (hHonest : s.Honest)
    {row : SecureState}
    {data : SecurePayload α}
    (hOpens : s.opens row = some data)
    (hGeneration :
      data.session_generation = row.backend_generation)
    (hNewer : s.version ≤ row.state_version) :
    (s.storeRow row).Honest := by
  have hVersion :
      (s.storeRow row).version = row.state_version := rfl
  have hNonneg := hHonest.nonneg
  refine ⟨⟨some row, rfl⟩, ?_, ?_, ?_, ?_, ?_, ?_, ?_⟩
  · intro other hFile
    cases hFile
    simp [AEADStorageAdapter.storeRow]
  · intro other hMem
    rcases List.mem_append.mp hMem with hOld | hNew
    · exact hHonest.sealed other hOld
    · rw [List.mem_singleton] at hNew
      subst hNew
      exact ⟨by omega, data, hOpens, hGeneration⟩
  · rw [hVersion]
    omega
  · rw [hVersion]
    exact Int.le_trans hHonest.memory hNewer
  · rw [hVersion]
    exact Int.le_trans hHonest.path hNewer
  · intro anchored hSome
    rw [hVersion]
    exact Int.le_trans (hHonest.anchors anchored hSome)
      hNewer
  · intro intended hIntent
    have hOld := hHonest.intent intended hIntent
    rw [hVersion]
    exact ⟨Int.le_trans hOld.1 hNewer, hOld.2⟩

theorem Honest.setTransitionIntent
    (hHonest : s.Honest)
    (hAnchored : s.anchorsFile = some s.version) :
    (s.setTransitionIntent s.version).Honest := by
  refine ⟨hHonest.intact, hHonest.stored, hHonest.sealed,
    hHonest.nonneg, hHonest.memory, hHonest.path,
    hHonest.anchors, ?_⟩
  intro intended hIntent
  cases hIntent
  refine ⟨Int.le_refl _, ?_⟩
  intro anchored hSome
  have hEq : s.anchorsFile = some anchored := hSome
  rw [hAnchored] at hEq
  cases hEq
  exact Int.le_refl _

/- A commit that ends at any of its steps. -/
theorem Honest.commitUpTo
    (hHonest : s.Honest)
    (last : CommitStep) :
    (s.commitUpTo last expected next event
      now).2.Honest := by
  have hSealed :
      (s.sealNext expected next event now).2.Honest :=
    hHonest.sealNext
  unfold AEADStorageAdapter.commitUpTo
  cases hMatches : s.matchesVersion expected with
  | false => exact hSealed
  | true =>
      have hVersion := hHonest.matchesVersion hMatches
      rcases opens_sealNext s expected next event now with
        ⟨data, hOpens, hGeneration⟩
      have hStored := hSealed.storeRow hOpens hGeneration
        (show s.version ≤ expected + 1 by omega)
      have hAnchored := hStored.anchorVersion
      cases last with
      | sealing => exact hSealed
      | storing => exact hStored
      | anchoring => exact hAnchored
      | intending =>
          exact hAnchored.setTransitionIntent rfl

end Commits

theorem step_honest
    (event : StorageEvent α)
    (hHonest : s.Honest) :
    (s.step event).Honest := by
  cases event with
  | read =>
      rcases hHonest.intact with ⟨found, hFile⟩
      cases found with
      | none =>
          simpa [step, getSecurityStateRow, hFile] using
            hHonest
      | some row =>
          rcases hHonest.read hFile with ⟨data, _, hRead⟩
          have hVersion : s.version = row.state_version := by
            simp [version, hFile]
          rw [step, hRead, ← hVersion]
          exact hHonest.raiseWatermark
  | commit expected next event now =>
      exact hHonest.commitUpTo .intending
  | crash last expected next event now anchorsDeleted =>
      exact (hHonest.commitUpTo last).reopen anchorsDeleted
  | restart anchorsDeleted =>
      exact hHonest.reopen anchorsDeleted

/- Every history without a replacement is honest. -/
theorem run_honest
    (events : List (StorageEvent α)) :
    (run step created events).Honest :=
  run_keeps (fun _ event hHonest => step_honest event hHonest)
    events created_honest

end AEADStorageAdapter

end ControlPlane
