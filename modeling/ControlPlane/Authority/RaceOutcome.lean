import ControlPlane.Authority.Race

/-
  The outcome of the race.

  The revocation that starts while nothing else is in flight
  takes the lock at once. Until it releases it, nothing else
  changes memory or row, and with the turn that releases it
  the revocation is in memory. From there on all calls race
  under contracts that fit together.

  Main declarations:
    * `revokerContract` and `otherContract`
    * `Authority.Held` and `transitionBody_concluded`
    * `revokeLicense_upholds`
    * `revocation_wins`
-/

------------------------------------------------------------
-- The Contracts
------------------------------------------------------------

namespace ControlPlane

/- The revocation relies on the others to wait for it. -/
def revokerContract
    (base : Nat) : Contract Authority where
  rely := Defers base
  guar := Respects base
  safe := fun s => s.revoked = true
  post := Authority.Sealed base

def otherContract
    (base : Nat) : Contract Authority where
  rely := Respects base
  guar := Defers base
  safe := fun s => s.revoked = true
  post := fun _ => True

section Contracts

variable {base : Nat}

theorem revoker_cooperates :
    Cooperates base (revokerContract base) where
  lawful := ⟨Respects.refl, Respects.trans⟩
  rely := fun _ _ hDefers => hDefers.respects
  guar := fun _ _ hDefers => hDefers.respects
  safe := fun _ => id

theorem other_cooperates :
    Cooperates base (otherContract base) where
  lawful := ⟨Defers.refl, Defers.trans⟩
  rely := fun _ _ => id
  guar := fun _ _ => id
  safe := fun _ => id

end Contracts

------------------------------------------------------------
-- While The Lock Is Held
------------------------------------------------------------

/- Memory and row as the revocation knows them. -/
structure Authority.Held
    (base : Nat)
    (d : StateData)
    (row : SecurityStateRow)
    (s : Authority) : Prop where
  revoking : s.Revoking base
  memory : s.inMemoryState = some d
  row : s.row = some row
  base_eq : s.superseded.length = base

section Held

variable
  {base : Nat}
  {d : StateData}
  {row : SecurityStateRow}
  {s s' : Authority}

theorem Authority.Held.not_barred
    (hHeld : s.Held base d row)
    (hState : d.state ≠ .REVOKED) :
    ¬s.Barred base := by
  intro hBarred
  rcases hBarred.memory with ⟨other, hMemory, hRevoked⟩
  rw [hHeld.memory] at hMemory
  cases hMemory
  exact hState hRevoked

/- The others do not change what the revocation knows. -/
theorem Authority.Held.turn
    (hHeld : s.Held base d row)
    (hState : d.state ≠ .REVOKED)
    (hTurn : Defers base s s') :
    s'.Held base d row := by
  have hGuarded : s.Guarded base := Or.inl hHeld.revoking
  rcases hTurn.same hGuarded (hHeld.not_barred hState) with
    ⟨hRow, hMemory, hSuperseded⟩
  have hStill : ¬s'.Barred base := fun hBarred =>
    hHeld.not_barred hState
      (hBarred.of_same hHeld.revoking.flag hRow hMemory
        hSuperseded)
  refine ⟨?_, hMemory.trans hHeld.memory,
    hRow.trans hHeld.row, ?_⟩
  · exact (hTurn.respects.guarded hGuarded).resolve_right
      hStill
  · rw [hSuperseded]
    exact hHeld.base_eq

theorem Authority.Held.deref
    (hHeld : s.Held base d row) :
    s.deref base = some d := by
  rw [← hHeld.base_eq]
  exact deref_current hHeld.memory

/- Its own write of the row. -/
theorem Authority.Held.respects
    (hHeld : s.Held base d row)
    (hState : d.state ≠ .REVOKED)
    (hAfter : s'.Guarded base)
    (hRow : s.RowRevoked → s'.RowRevoked) :
    Respects base s s' :=
  ⟨fun _ => hAfter, fun _ => hRow, fun hBarred =>
    absurd hBarred (hHeld.not_barred hState)⟩

theorem Authority.Held.plain
    (hHeld : s.Held base d row)
    (hState : d.state ≠ .REVOKED)
    {write : Authority → Authority}
    (hPlain : Plain write) :
    (write s).Held base d row :=
  hHeld.turn hState (hPlain.defers s)

end Held

/- How the transition of the revocation ends. -/
def Concluded
    (base : Nat)
    (d : StateData)
    (answer : Except String TransitionResult)
    (s : Authority) : Prop :=
  ∃ row, s.Held base d row ∧
    ∀ next, answer = .ok (.success next) →
      d.state_version < row.state_version

section Body

variable
  {base : Nat}
  {d : StateData}
  {row : SecurityStateRow}

/- The storage is asked and nothing changes meanwhile. -/
theorem ensures_held_request
    {α : Type}
    {Q : Except String α → Authority → Prop}
    (mid : α → Authority → Prop)
    {after : SecurityStateRow}
    {write : Authority → Authority}
    {answer : Authority → α}
    (hState : d.state ≠ .REVOKED)
    (hWrite : ∀ s, s.Held base d row →
      (write s).Held base d after ∧
        Respects base s (write s) ∧ mid (answer s) (write s))
    (hMid : ∀ a s, mid a s → s.Held base d after)
    (hAfter : ∀ a s s', mid a s → s'.Held base d after →
      Q (.ok a) s') :
    Flow.Ensures (revokerContract base)
      (Authority.Held base d row)
      (Flow.request write answer) Q := by
  apply Flow.ensures_request mid revoker_cooperates.lawful
  · intro s s' hHeld hTurn
    exact hHeld.turn hState hTurn
  · intro s hHeld
    rcases hWrite s hHeld with ⟨hAfter, hRespects, hEnd⟩
    exact ⟨hAfter.revoking.flag, hRespects, hEnd⟩
  · intro a s s' hEnd hTurn
    exact hAfter a s s' hEnd
      ((hMid a s hEnd).turn hState hTurn)

theorem writeEvent_held
    {Q : Except String Unit → Authority → Prop}
    (hState : d.state ≠ .REVOKED)
    (hEnd : ∀ s, s.Held base d row → Q (.ok ()) s) :
    Flow.Ensures (revokerContract base)
      (Authority.Held base d row) writeEvent Q :=
  ensures_held_request (fun _ => Authority.Held base d row)
    hState
    (fun s hHeld => ⟨hHeld, Respects.refl s, hHeld⟩)
    (fun _ _ => id) (fun _ _ s' _ => hEnd s')

/- An event that is only logged. -/
theorem refused_held
    (hState : d.state ≠ .REVOKED)
    (error : String) :
    Flow.Ensures (revokerContract base)
      (Authority.Held base d row)
      (writeEvent >>= fun _ =>
        pure (TransitionResult.failure error))
      (Concluded base d) := by
  apply Flow.ensures_bind
    (fun _ => Authority.Held base d row)
  · exact writeEvent_held hState (fun _ => id)
  · intro _
    apply Flow.ensures_done
    intro s hHeld
    exact ⟨row, hHeld, fun _ hEq => by cases hEq⟩

/- The row that the revocation commits. -/
theorem Authority.Held.committed
    {s : Authority}
    (hHeld : s.Held base d row)
    (hState : d.state ≠ .REVOKED)
    (hVersion : d.state_version = row.state_version)
    (next : SecurityStateRow)
    (hNext : next.state = .known .REVOKED) :
    (s.updateRow d.state_version next).Held base d next ∧
    Respects base s (s.updateRow d.state_version next) ∧
    s.atVersion d.state_version = true := by
  have hFound : s.atVersion d.state_version = true := by
    rw [hVersion]
    exact atVersion_of_row hHeld.row
  have hUpdated :
      s.updateRow d.state_version next =
        { s with row := some next } := by
    simp [Authority.updateRow, hFound]
  have hAfter :
      ({ s with row := some next } :
        Authority).Held base d next :=
    ⟨⟨hHeld.revoking.flag, hHeld.revoking.locked,
      hHeld.revoking.granted, hHeld.revoking.memory,
      hHeld.revoking.base_le⟩, hHeld.memory, rfl,
      hHeld.base_eq⟩
  rw [hUpdated]
  refine ⟨hAfter, ?_, hFound⟩
  exact hHeld.respects hState (Or.inl hAfter.revoking)
    (fun _ => ⟨next, rfl, hNext⟩)

theorem commitNext_concluded
    (hState : d.state ≠ .REVOKED)
    (hVersion : d.state_version = row.state_version)
    (payload : TransitionPayload) :
    Flow.Ensures (revokerContract base)
      (Authority.Held base d row)
      (commitNext d (d.advance .REVOKED payload))
      (Concluded base d) := by
  apply Flow.ensures_bind (fun committed s =>
    committed = true ∧ ∃ after, s.Held base d after ∧
      d.state_version < after.state_version)
  · apply Flow.ensures_bind
      (fun _ => Authority.Held base d row)
    · apply Flow.ensures_update revoker_cooperates.lawful
      intro s hHeld
      have hAfter := hHeld.plain hState tickClock_plain
      exact ⟨hAfter.revoking.flag,
        (tickClock_plain.defers s).respects, hAfter⟩
    intro highestTime
    apply Flow.ensures_bind (fun changed s =>
      changed = true ∧ s.Held base d
        ((d.advance .REVOKED payload).toNext.toRow
          (d.state_version + 1) highestTime))
    · apply ensures_held_request (fun changed s =>
        changed = true ∧ s.Held base d
          ((d.advance .REVOKED payload).toNext.toRow
            (d.state_version + 1) highestTime)) hState
      · intro s hHeld
        rcases hHeld.committed hState hVersion
          ((d.advance .REVOKED payload).toNext.toRow
            (d.state_version + 1) highestTime) rfl with
          ⟨hAfter, hRespects, hFound⟩
        exact ⟨hAfter, hRespects, hFound, hAfter⟩
      · exact fun _ _ h => h.2
      · exact fun _ _ _ h hHeld => ⟨h.1, hHeld⟩
    intro changed
    apply Flow.ensures_of_fact (fun _ h => h.1)
    rintro rfl
    apply Flow.ensures_done
    rintro s ⟨_, hHeld⟩
    exact ⟨rfl, _, hHeld, Nat.lt_succ_self _⟩
  intro committed
  apply Flow.ensures_of_fact (fun _ h => h.1)
  rintro rfl
  refine Flow.Ensures.within
    (Flow.ensures_exists (fun after => ?_)) (fun _ h => h.2)
  apply Flow.ensures_of_fact (fun _ h => h.2)
  intro hLater
  apply Flow.ensures_bind
    (fun _ => Authority.Held base d after)
  · exact (writeEvent_held hState (fun _ => id)).within
      (fun _ h => h.1)
  intro _
  dsimp only
  split
  · apply Flow.ensures_fail
    intro s hHeld
    exact ⟨after, hHeld, fun _ _ => hLater⟩
  · apply Flow.ensures_bind
      (fun _ => Authority.Held base d after)
    · apply Flow.ensures_update revoker_cooperates.lawful
      intro s hHeld
      have hAfter := hHeld.plain hState setRevoked_plain
      exact ⟨hAfter.revoking.flag,
        (setRevoked_plain.defers s).respects, hAfter⟩
    · intro _
      apply Flow.ensures_done
      intro s hHeld
      exact ⟨after, hHeld, fun _ _ => hLater⟩

theorem transitionBody_concluded
    (hState : d.state ≠ .REVOKED) :
    Flow.Ensures (revokerContract base)
      (Authority.Held base d row)
      (transitionBody base .BACKEND_REVOCATION revocation)
      (Concluded base d) := by
  apply Flow.ensures_bind (fun found s =>
    found = some row ∧ s.Held base d row)
  · exact ensures_held_request
      (fun found s => found = some row ∧ s.Held base d row)
      hState
      (fun s hHeld =>
        ⟨hHeld, Respects.refl s, hHeld.row, hHeld⟩)
      (fun _ _ h => h.2) (fun _ _ _ h hHeld => ⟨h.1, hHeld⟩)
  intro found
  apply Flow.ensures_of_fact (fun _ h => h.1)
  rintro rfl
  apply Flow.ensures_bind (fun current s =>
    current = some d ∧ s.Held base d row)
  · apply Flow.ensures_update revoker_cooperates.lawful
    rintro s ⟨_, hHeld⟩
    exact ⟨hHeld.revoking.flag, Respects.refl s,
      hHeld.deref, hHeld⟩
  intro current
  apply Flow.ensures_of_fact (fun _ h => h.1)
  rintro rfl
  refine Flow.Ensures.within ?_ (fun _ h => h.2)
  refine Flow.ensures_ite (fun _ => ?_) (fun hSame => ?_)
  · apply Flow.ensures_done
    intro s hHeld
    exact ⟨row, hHeld, fun _ hEq => by cases hEq⟩
  have hVersion : d.state_version = row.state_version := by
    simpa using hSame
  have hNext := nextState_revocation d.state
  unfold nextState at hNext
  cases hTable :
      getTransition d.state .BACKEND_REVOCATION with
  | none => exact refused_held hState _
  | some transitionDef =>
      rw [hTable] at hNext
      dsimp only at hNext
      refine Flow.ensures_ite
        (fun _ => refused_held hState _) (fun hGuard => ?_)
      have hPassed :
          transitionDef.guard revocation.facts = true := by
        simpa using hGuard
      have hTarget : transitionDef.nextState = .REVOKED := by
        rw [if_pos hPassed] at hNext
        split at hNext
        · exact Option.some.inj hNext
        · cases hNext
      rw [hTarget]
      exact commitNext_concluded hState hVersion revocation

end Body

------------------------------------------------------------
-- The Revocation
------------------------------------------------------------

/- The engine is initialized and no transition runs. -/
structure Authority.Unhindered
    (d : StateData)
    (row : SecurityStateRow)
    (s : Authority) : Prop where
  unlocked : s.stateMachineMutex.locked = false
  granted : s.stateMachineMutex.granted = none
  memory : s.inMemoryState = some d
  row : s.row = some row

/- How the revocation ends. -/
def Enforced
    (base : Nat)
    (_ : Except String Bool)
    (start s : Authority) : Prop :=
  s.Sealed base ∧ Respects base start s

section Revocation

variable
  {base : Nat}
  {d : StateData}
  {row : SecurityStateRow}
  {start s : Authority}

/- The lock is released and the next state installed. -/
def Released
    (answer : Except String TransitionResult)
    (s after : Authority) : Prop :=
  after = s.withStateMachineMutex Mutex.release ∨
  ∃ next, answer = .ok (.success next) ∧
    after =
      (s.withStateMachineMutex Mutex.release).install next

/- The turn that releases the lock revokes what is there. -/
theorem Concluded.barred
    {answer : Except String TransitionResult}
    {after : Authority}
    (hConcluded : Concluded base d answer s)
    (hReleased : Released answer s after) :
    (after.assign StateData.revoke).Barred base := by
  rcases hConcluded with ⟨row, hHeld, hLater⟩
  rcases hReleased with rfl | ⟨next, hAnswer, rfl⟩
  · refine ⟨hHeld.revoking.flag, ⟨d.revoke, ?_, rfl⟩,
      hHeld.revoking.base_le, row, hHeld.row, ?_⟩
    · simp [Authority.withStateMachineMutex, hHeld.memory]
    · intro i other hBase hGet
      have hNone := List.getElem?_eq_none
        (hHeld.base_eq ▸ hBase)
      have hSome : s.superseded[i]? = some other := hGet
      rw [hNone] at hSome
      cases hSome
  · have hList :
        ((s.withStateMachineMutex Mutex.release).install
          next).superseded = s.superseded ++ [d] := by
      simp [Authority.withStateMachineMutex,
        Authority.install, hHeld.memory]
    refine ⟨hHeld.revoking.flag, ⟨next.revoke, rfl, rfl⟩,
      ?_, row, hHeld.row, ?_⟩
    · change base ≤ List.length
        ((s.withStateMachineMutex Mutex.release).install
          next).superseded
      rw [hList, List.length_append, hHeld.base_eq]
      exact Nat.le_add_right _ _
    · intro i other hBase hGet
      have hSome : (s.superseded ++ [d])[i]? = some other := by
        rw [← hList]
        exact hGet
      rw [List.getElem?_append_right
        (hHeld.base_eq ▸ hBase)] at hSome
      have hMem := List.mem_of_getElem? hSome
      rw [List.mem_singleton] at hMem
      rw [hMem]
      exact Or.inr (hLater next hAnswer)

/- What is left of the authority by then. -/
theorem Released.kept
    {answer : Except String TransitionResult}
    {after : Authority}
    (hReleased : Released answer s after)
    (hHeld : s.Held base d row) :
    after.revoked = true ∧
      after.inMemoryState.isSome = true ∧
      after.row = s.row := by
  rcases hReleased with rfl | ⟨next, _, rfl⟩
  · exact ⟨hHeld.revoking.flag, hHeld.revoking.memory, rfl⟩
  · exact ⟨hHeld.revoking.flag, rfl, rfl⟩

theorem Concluded.flag
    {answer : Except String TransitionResult}
    (hConcluded : Concluded base d answer s) :
    s.revoked = true := by
  rcases hConcluded with ⟨row, hHeld, _⟩
  exact hHeld.revoking.flag

/- The rest of the revocation in that turn. -/
theorem ensureRevoked_upholds
    (hFlag : s.revoked = true)
    (hMemory : s.inMemoryState.isSome = true)
    (hBarred : (s.assign StateData.revoke).Barred base)
    (hRespects :
      Respects base start (s.assign StateData.revoke)) :
    ensureRevoked.Upholds (revokerContract base)
      (fun _ start s => s.Sealed base ∧ Respects base start s)
      start s := by
  refine ⟨hFlag, ?_⟩
  change
    Flow.Upholds _ _
      (if s.inMemoryState.isSome = true then
        Flow.modify (Authority.assign StateData.revoke) >>=
          fun _ => persistRevoked
      else pure ()) start s
  rw [if_pos hMemory]
  refine ⟨hBarred.flag, ?_⟩
  exact persistRevoked_race revoker_cooperates start _ hBarred
    hRespects

/- Whatever the transition did, its end is a revocation. -/
theorem Concluded.upholds
    {answer : Except String TransitionResult}
    {after : Authority}
    (hConcluded : Concluded base d answer s)
    (hState : d.state ≠ .REVOKED)
    (hRespects : Respects base start s)
    (hReleased : Released answer s after) :
    (ensureRevoked >>= fun _ => pure true).Upholds
      (revokerContract base) (Enforced base) start after := by
  have hBarred := hConcluded.barred hReleased
  rcases hConcluded with ⟨row, hHeld, _⟩
  rcases hReleased.kept hHeld with ⟨hFlag, hMemory, hRow⟩
  have hEnd :
      Respects base start
        (after.assign StateData.revoke) := by
    apply Respects.trans _ _ _ hRespects
    apply hHeld.respects hState (Or.inr hBarred)
    rintro ⟨found, hFound, hRevoked⟩
    exact ⟨found, hRow.trans hFound, hRevoked⟩
  rw [Flow.upholds_bind]
  apply (ensureRevoked_upholds hFlag hMemory hBarred
    hEnd).mono
  rintro (message | _) start s hEnd
  · exact hEnd
  · exact hEnd

/- The lock is free, so the revocation takes it at once. -/
theorem Authority.Unhindered.held
    (hFree : s.Unhindered d row)
    (hFlag : s.revoked = true) :
    (s.withStateMachineMutex Mutex.enter).Held
      s.superseded.length d row := by
  refine ⟨⟨hFlag, ?_, ?_, ?_, Nat.le_refl _⟩, hFree.memory,
    hFree.row, rfl⟩
  · simp [Authority.withStateMachineMutex, Mutex.enter,
      hFree.unlocked]
  · simp [Authority.withStateMachineMutex, Mutex.enter,
      hFree.unlocked, hFree.granted]
  · simp [Authority.withStateMachineMutex, hFree.memory]

theorem Authority.Unhindered.setRevoked
    (hFree : s.Unhindered d row) :
    (s.setRevoked true).Unhindered d row :=
  ⟨hFree.unlocked, hFree.granted, hFree.memory, hFree.row⟩

theorem Authority.Unhindered.not_guarded
    (hFree : s.Unhindered d row)
    (hState : d.state ≠ .REVOKED) :
    ¬s.Guarded base := by
  rintro (hRevoking | hBarred)
  · have hLocked := hRevoking.locked
    rw [hFree.unlocked] at hLocked
    cases hLocked
  · rcases hBarred.memory with ⟨other, hMemory, hRevoked⟩
    rw [hFree.memory] at hMemory
    cases hMemory
    exact hState hRevoked

theorem acquire_upholds
    {c : Contract Authority}
    {Q : Except String Unit → Authority → Authority → Prop}
    (hUnlocked : s.stateMachineMutex.locked = false)
    (hSafe : c.safe (s.withStateMachineMutex Mutex.enter))
    (hEnd :
      Q (.ok ()) start
        (s.withStateMachineMutex Mutex.enter)) :
    (Mutex.acquire Authority.stateMachineMutex
      Authority.withStateMachineMutex).Upholds c Q start s := by
  refine ⟨hSafe, ?_⟩
  change
    Flow.Upholds c Q
      (if s.stateMachineMutex.locked = true then _
      else pure ()) start _
  rw [if_neg (by simp [hUnlocked])]
  exact hEnd

/- The dispatch of the revocation, up to its release. -/
theorem dispatch_upholds
    {Q : Except String Bool → Authority → Authority → Prop}
    (hFree : s.Unhindered d row)
    (hFlag : s.revoked = true)
    (hState : d.state ≠ .REVOKED)
    (hRespects : Respects s.superseded.length start s)
    (hEnd : ∀ answer accepted start' s' after,
      Concluded s.superseded.length d answer s' →
      Respects s.superseded.length start' s' →
      Released answer s' after →
        Q accepted start' after) :
    (dispatch .BACKEND_REVOCATION revocation).Upholds
      (revokerContract s.superseded.length) Q start s := by
  have hHeld := hFree.held hFlag
  have hEntered :
      Respects s.superseded.length s
        (s.withStateMachineMutex Mutex.enter) := by
    have hNot : ¬s.Guarded s.superseded.length :=
      hFree.not_guarded hState
    exact ⟨fun h => absurd h hNot, fun h => absurd h hNot,
      fun h => absurd (Or.inr h) hNot⟩
  have hBody := transitionBody_concluded hState start _ hHeld
    (Respects.trans _ _ _ hRespects hEntered)
  have hRef : s.currentRef = some s.superseded.length := by
    simp [Authority.currentRef, hFree.memory]
  rw [dispatch, Flow.upholds_bind]
  refine ⟨hFlag, ?_⟩
  dsimp only [Flow.Upholds, id]
  rw [hRef]
  dsimp only
  rw [Flow.upholds_bind, executeTransition,
    Flow.upholds_bind]
  apply acquire_upholds hFree.unlocked hFlag
  rw [Flow.upholds_ensuring]
  apply hBody.mono
  rintro (message | result) start' s' ⟨hEnds, hKept⟩
  · refine ⟨hEnds.flag, ?_⟩
    exact hEnd _ _ start' s' _ hEnds hKept (Or.inl rfl)
  · refine ⟨hEnds.flag, ?_⟩
    cases result with
    | success next =>
        refine ⟨hEnds.flag, ?_⟩
        exact hEnd _ _ start' s' _ hEnds hKept
          (Or.inr ⟨next, rfl, rfl⟩)
    | failure error =>
        exact hEnd _ _ start' s' _ hEnds hKept (Or.inl rfl)

theorem enforceRevocation_upholds
    (hFree : s.Unhindered d row)
    (hFlag : s.revoked = true)
    (hState : d.state ≠ .REVOKED)
    (hRespects : Respects s.superseded.length start s) :
    enforceRevocation.Upholds
      (revokerContract s.superseded.length)
      (Enforced s.superseded.length) start s := by
  rw [enforceRevocation, Flow.upholds_bind,
    Flow.upholds_catching]
  apply dispatch_upholds hFree hFlag hState hRespects
  intro answer accepted start' s' after hEnds hKept hReleased
  have hRest := hEnds.upholds hState hKept hReleased
  cases accepted with
  | ok a => exact hRest
  | error message => exact hRest

/- Memory was revoked before: nothing is left to race for. -/
theorem Authority.Unhindered.barred
    (hFree : s.Unhindered d row)
    (hFlag : s.revoked = true)
    (hState : d.state = .REVOKED) :
    s.Barred s.superseded.length := by
  refine ⟨hFlag, ⟨d, hFree.memory, hState⟩, Nat.le_refl _,
    row, hFree.row, ?_⟩
  intro i other hBase hGet
  rw [List.getElem?_eq_none hBase] at hGet
  cases hGet

/- A revocation that starts while nothing is in flight. -/
theorem revokeLicense_upholds
    (hFree : s.Unhindered d row) :
    revokeLicense.Upholds
      (revokerContract s.superseded.length)
      (Enforced s.superseded.length) s s := by
  have hSet :
      Respects s.superseded.length s (s.setRevoked true) :=
    (setRevoked_plain.defers s).respects
  rw [revokeLicense_eq, Flow.upholds_bind]
  refine ⟨rfl, ?_⟩
  by_cases hState : d.state = .REVOKED
  · exact enforceRevocation_race revoker_cooperates s _
      (Or.inr (hFree.setRevoked.barred rfl hState)) hSet
  · exact enforceRevocation_upholds hFree.setRevoked rfl
      hState hSet

end Revocation

------------------------------------------------------------
-- All Calls Together
------------------------------------------------------------

/- One call is the revocation, the others are not. -/
def raceContract
    (base revoker index : Nat) : Contract Authority :=
  if index = revoker then revokerContract base
  else otherContract base

/-
  Calls that may start once the revocation has begun. A
  logout writes the row whatever its state is, and so does a
  reconciliation that finds it not revoked.
-/
def Authority.Tolerates
    (s : Authority) : SecurityOp → Prop
| .establishSession _ => True
| .authenticate _ => True
| .enterOfflineGrace _ => True
| .revokeLicense => True
| .transitionToDegraded reason => ¬s.ClearsFlag reason
| .triggerReconciliation _ => s.RowRevoked
| _ => False

/- Turns come in any order. -/
def RaceStep
    (p : Pool Authority Unit) :
    PoolEvent SecurityOp → Prop
| .start op => p.state.Tolerates op
| .resume _ => True

/- Between two turns of the race. -/
structure Racing
    (base revoker : Nat)
    (p : Pool Authority Unit) : Prop where
  guarded : p.state.Guarded base
  meets : p.Meets (raceContract base revoker)
  started : revoker < p.flows.length

/- Every state that the step writes has the flag. -/
def StaysRevoked
    (p : Pool Authority Unit)
    (event : PoolEvent SecurityOp) : Prop :=
  ∀ x ∈ p.written SecurityOp.flow event, x.revoked = true

section Race

variable {base revoker : Nat} {s : Authority}

theorem raceContract_fits :
    Pool.Fits (raceContract base revoker) := by
  refine ⟨?_, ?_, ?_, ?_⟩
  · intro i a
    unfold raceContract
    split
    · exact Defers.refl a
    · exact Respects.refl a
  · intro i a b d
    unfold raceContract
    split
    · exact Defers.trans a b d
    · exact Respects.trans a b d
  · intro i a b
    unfold raceContract
    split
    · exact fun hDefers hSealed =>
        sealed_lasting a b hSealed hDefers.respects
    · exact fun _ _ => trivial
  · intro i j hOther a b
    unfold raceContract
    split
    · rw [if_neg (by omega)]
      exact id
    · split
      · exact id
      · exact fun hDefers => hDefers.respects

/- Each call keeps its contract where it may start. -/
theorem op_upholds
    (hGuarded : s.Guarded base)
    {op : SecurityOp}
    (hTolerates : s.Tolerates op) :
    op.flow.Upholds (otherContract base)
      (otherContract base).Ends s s := by
  have hDiscard :
      ∀ {α : Type} {P : Authority → Prop}
        {t : Flow Authority α},
        Races base (otherContract base) P t → P s →
        (t >>= fun _ => pure ()).Upholds (otherContract base)
          (otherContract base).Ends s s := by
    intro α P t hCall hPre
    have hAll :
        Flow.Ensures (otherContract base) P
          (t >>= fun _ => pure ()) (fun _ _ => True) := by
      apply Flow.ensures_bind (fun _ _ => True)
      · apply hCall.weaken (fun _ => id)
        rintro (message | _) _ _
        · trivial
        · trivial
      · exact fun _ => Flow.ensures_done (fun _ _ => trivial)
    exact hAll.upholds other_cooperates.lawful hPre
      (fun _ _ _ => trivial)
  cases op with
  | establishSession payload =>
      exact hDiscard
        (establishSession_races other_cooperates payload)
        hGuarded
  | authenticate credentials =>
      exact hDiscard
        (authenticate_races other_cooperates credentials)
        hGuarded
  | enterOfflineGrace lease =>
      exact hDiscard
        (enterOfflineGrace_races other_cooperates lease)
        hGuarded
  | revokeLicense =>
      exact hDiscard
        ((revokeLicense_race other_cooperates).weaken
          (fun _ => id) (fun _ _ h => Or.inr h.1)) hGuarded
  | transitionToDegraded reason =>
      exact hDiscard
        (transitionToDegraded_races other_cooperates reason)
        ⟨hGuarded, hTolerates⟩
  | triggerReconciliation answer =>
      exact hDiscard
        (triggerReconciliation_races other_cooperates answer)
        ⟨hGuarded, hTolerates⟩
  | restart => exact False.elim hTolerates
  | logout => exact False.elim hTolerates
  | transitionToUnauthenticated =>
      exact False.elim hTolerates
  | checkTimeBounds => exact False.elim hTolerates

theorem raceContract_safe
    {i : Nat}
    (hSafe : (raceContract base revoker i).safe s) :
    s.revoked = true := by
  unfold raceContract at hSafe
  split at hSafe
  · exact hSafe
  · exact hSafe

theorem raceContract_respects
    {i : Nat}
    {s' : Authority}
    (hGuar : (raceContract base revoker i).guar s s') :
    Respects base s s' := by
  unfold raceContract at hGuar
  split at hGuar
  · exact hGuar
  · exact Defers.respects hGuar

/- One turn of the race. -/
theorem race_step
    {p : Pool Authority Unit}
    {event : PoolEvent SecurityOp}
    (hRacing : Racing base revoker p)
    (hStep : RaceStep p event) :
    Racing base revoker (p.step SecurityOp.flow event) ∧
      StaysRevoked p event := by
  have hAdmits :
      p.Admits SecurityOp.flow (raceContract base revoker)
        event := by
    cases event with
    | resume index => trivial
    | start op =>
        have hStarted := hRacing.started
        have hOther :
            raceContract base revoker p.flows.length =
              otherContract base := if_neg (by omega)
        simp only [Pool.Admits, hOther]
        exact op_upholds hRacing.guarded hStep
  rcases Pool.step_meets raceContract_fits hRacing.meets
    hAdmits with ⟨hMeets, hSafe, hTurn⟩
  refine ⟨⟨?_, hMeets, ?_⟩, ?_⟩
  · rcases hTurn with hSame | ⟨i, hGuar⟩
    · rw [hSame]
      exact hRacing.guarded
    · exact (raceContract_respects hGuar).guarded
        hRacing.guarded
  · exact Nat.lt_of_lt_of_le hRacing.started
      (Pool.length_le_step p event)
  · intro x hMem
    rcases hSafe x hMem with ⟨i, hFlag⟩
    exact raceContract_safe hFlag

/- All turns of the race. -/
theorem race_run
    {p : Pool Authority Unit}
    {events : List (PoolEvent SecurityOp)}
    (hRacing : Racing base revoker p)
    (hRace :
      Along (Pool.step SecurityOp.flow) RaceStep p events) :
    Racing base revoker
      (run (Pool.step SecurityOp.flow) p events) ∧
    Along (Pool.step SecurityOp.flow) StaysRevoked p
      events := by
  induction events generalizing p with
  | nil => exact ⟨hRacing, trivial⟩
  | cons event events ih =>
      have hStep := race_step hRacing hRace.1
      have hRest := ih hStep.1 hRace.2
      exact ⟨hRest.1, hStep.2, hRest.2⟩

/- The first turn of the revocation. -/
theorem revokeLicense_segment
    {d : StateData}
    {row : SecurityStateRow}
    (hFree : s.Unhindered d row) :
    (SecurityOp.revokeLicense.flow.segment s).1 =
      (s.setRevoked true).withStateMachineMutex
        Mutex.enter := by
  rcases hFree with ⟨hUnlocked, _, hMemory, _⟩
  rcases s with ⟨memory, superseded, stored, revoked,
    ⟨locked, queue, granted, tickets⟩, reconcile, valid,
    production, wallClock, readings⟩
  cases hUnlocked
  cases hMemory
  rfl

/- The race begins with the revocation. -/
theorem race_start
    {d : StateData}
    {row : SecurityStateRow}
    {earlier : List (Flow Authority Unit)}
    (hFree : s.Unhindered d row)
    (hEarlier : ∀ t ∈ earlier, t.settled = true) :
    Racing s.superseded.length earlier.length
      (Pool.step SecurityOp.flow ⟨s, earlier⟩
        (.start .revokeLicense)) ∧
    StaysRevoked ⟨s, earlier⟩ (.start .revokeLicense) := by
  have hUpholds :
      SecurityOp.revokeLicense.flow.Upholds
        (revokerContract s.superseded.length)
        (revokerContract s.superseded.length).Ends s s := by
    rw [SecurityOp.flow, Flow.upholds_bind]
    apply (revokeLicense_upholds hFree).mono
    rintro (message | accepted) start s' ⟨hSealed, hKept⟩
    · exact ⟨hKept, hSealed⟩
    · exact ⟨hKept, hSealed⟩
  have hHeld :
      ((s.setRevoked true).withStateMachineMutex
        Mutex.enter).Held s.superseded.length d row :=
    hFree.setRevoked.held rfl
  refine ⟨⟨?_, ?_, ?_⟩, ?_⟩
  · have hState := revokeLicense_segment hFree
    simp only [Pool.step, hState]
    exact Or.inl hHeld.revoking
  · intro i t hSome
    simp only [Pool.step] at hSome ⊢
    rw [List.getElem?_append] at hSome
    split at hSome
    · rename_i hLt
      have hSettled :=
        hEarlier t (List.mem_of_getElem? hSome)
      unfold raceContract
      rw [if_neg (by omega)]
      cases t with
      | done a => trivial
      | fail message => trivial
      | act write rest => cases hSettled
      | await ready rest => cases hSettled
    · rename_i hGe
      rcases List.getElem?_eq_some_iff.mp hSome with
        ⟨hZero, hEq⟩
      simp only [List.length_singleton] at hZero
      have hIndex : i = earlier.length := by omega
      subst hIndex
      simp only [Nat.sub_self, List.getElem_cons_zero] at hEq
      subst hEq
      unfold raceContract
      rw [if_pos rfl]
      exact (Flow.segment_parked hUpholds).2
  · simp [Pool.step]
  · exact Flow.written_safe hUpholds

end Race

/-
  A revocation that starts while no call is in flight wins
  every race with calls that start later, as long as none of
  them writes without a transition: the flag is never
  cleared, and when all calls have ended the revocation is
  in memory and in storage.
-/
theorem revocation_wins
    {s : Authority}
    {d : StateData}
    {row : SecurityStateRow}
    {earlier : List (Flow Authority Unit)}
    {events : List (PoolEvent SecurityOp)}
    (hFree : s.Unhindered d row)
    (hEarlier : ∀ t ∈ earlier, t.settled = true)
    (hRace :
      Along (Pool.step SecurityOp.flow) RaceStep
        (Pool.step SecurityOp.flow ⟨s, earlier⟩
          (.start .revokeLicense)) events) :
    Along (Pool.step SecurityOp.flow) StaysRevoked
      ⟨s, earlier⟩ (.start .revokeLicense :: events) ∧
    ∀ p, p = run (Pool.step SecurityOp.flow) ⟨s, earlier⟩
        (.start .revokeLicense :: events) →
      p.state.revoked = true ∧
      (p.Settled →
        p.state.getSystemState = .REVOKED ∧
        p.state.RowRevoked) := by
  rcases race_start hFree hEarlier with ⟨hRacing, hFirst⟩
  rcases race_run hRacing hRace with ⟨hEnd, hFlags⟩
  refine ⟨⟨hFirst, hFlags⟩, ?_⟩
  rintro p rfl
  refine ⟨hEnd.guarded.flag, ?_⟩
  intro hSettled
  rcases List.getElem?_eq_some_iff.mpr
    ⟨hEnd.started, rfl⟩ with hFlow
  have hPost := hEnd.meets.post hFlow
    (hSettled _ (List.mem_of_getElem? hFlow))
  unfold raceContract at hPost
  rw [if_pos rfl] at hPost
  rcases hPost with ⟨hBarred, hRow⟩
  rcases hBarred.memory with ⟨current, hMemory, hState⟩
  refine ⟨?_, hRow⟩
  rw [run_cons, Authority.getSystemState, hMemory]
  exact hState

/- A login that starts right after the revocation. -/
theorem revocation_wins_over_login :
    Along (Pool.step SecurityOp.flow) StaysRevoked
      ⟨run Authority.step
        (Authority.fresh false (fun _ => 1))
        [.restart true], []⟩
      [.start .revokeLicense,
        .start (.establishSession plainLogin),
        .resume 0, .resume 1, .resume 0] := by
  refine (revocation_wins
    ⟨by decide, by decide, rfl, rfl⟩ (by simp) ?_).1
  exact ⟨trivial, trivial, trivial, trivial, trivial⟩

/-
  A login that was in flight when the revocation started
  clears the flag, and nothing sets it again.
-/
theorem login_in_flight_clears_flag :
    let p := run (Pool.step SecurityOp.flow)
      ⟨run Authority.step
        (Authority.fresh false (fun _ => 1))
        [.restart true], []⟩
      ([.start (.establishSession plainLogin),
        .start .revokeLicense] ++
        List.replicate 6 (.resume 0) ++
        List.replicate 10 (.resume 1) ++
        List.replicate 6 (.resume 0))
    p.flows.map Flow.settled = [true, true] ∧
    p.state.getSystemState = .REVOKED ∧
    p.state.revoked = false := by
  decide

end ControlPlane
