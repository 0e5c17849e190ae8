import ControlPlane.Authority.Steps

/-
  A revocation that races with other calls.

  The revocation sets the flag, takes the lock and writes
  memory and row. While it holds the lock the other calls
  wait for it. Afterwards every state object that they still
  refer to is revoked or older than the row, so no transition
  of theirs is accepted. Calls that write without a
  transition are not stopped by this.

  Main declarations:
    * `Authority.Revoking`, `Barred` and `Guarded`
    * `Respects` and `Defers`
    * `dispatch_refused_race`
    * `revokeLicense_upholds`
    * `revocation_wins`
-/

------------------------------------------------------------
-- Phases Of A Revocation
------------------------------------------------------------

namespace ControlPlane

/- The storage holds the revocation. -/
def Authority.RowRevoked
    (s : Authority) : Prop :=
  ∃ row, s.row = some row ∧ row.state = .known .REVOKED

/- A revocation holds the lock. -/
structure Authority.Revoking
    (base : Nat)
    (s : Authority) : Prop where
  flag : s.revoked = true
  locked : s.stateMachineMutex.locked = true
  granted : s.stateMachineMutex.granted = none
  memory : s.inMemoryState.isSome = true
  base_le : base ≤ s.superseded.length

/- A state object that no transition starts from. -/
def Outdated
    (row : SecurityStateRow)
    (d : StateData) : Prop :=
  d.state = .REVOKED ∨ d.state_version < row.state_version

/- Every object from `base` on is outdated. -/
def Authority.OutdatedFrom
    (base : Nat)
    (row : SecurityStateRow)
    (s : Authority) : Prop :=
  ∀ (i : Nat) (d : StateData), base ≤ i →
    s.superseded[i]? = some d → Outdated row d

/- The revocation has reached memory. -/
structure Authority.Barred
    (base : Nat)
    (s : Authority) : Prop where
  flag : s.revoked = true
  memory : ∃ d, s.inMemoryState = some d ∧
    d.state = .REVOKED
  base_le : base ≤ s.superseded.length
  outdated : ∃ row, s.row = some row ∧
    s.OutdatedFrom base row

def Authority.Guarded
    (base : Nat)
    (s : Authority) : Prop :=
  s.Revoking base ∨ s.Barred base

/- What the turns of every call do once it has begun. -/
structure Respects
    (base : Nat)
    (a b : Authority) : Prop where
  guarded : a.Guarded base → b.Guarded base
  row : a.Guarded base → a.RowRevoked → b.RowRevoked
  barred : a.Barred base →
    b.Barred base ∧ b.superseded = a.superseded ∧
      (b.row = a.row ∨ b.RowRevoked)

/-
  What the turns of the other calls do: they leave memory and
  row alone before the revocation has reached memory.
-/
structure Defers
    (base : Nat)
    (a b : Authority) : Prop where
  respects : Respects base a b
  same : a.Guarded base → ¬a.Barred base →
    b.row = a.row ∧ b.inMemoryState = a.inMemoryState ∧
      b.superseded = a.superseded

section Phases

variable {base : Nat} {a b d : Authority}

theorem Authority.Guarded.flag
    (hGuarded : a.Guarded base) :
    a.revoked = true := by
  rcases hGuarded with hRevoking | hBarred
  · exact hRevoking.flag
  · exact hBarred.flag

theorem Authority.Guarded.memory
    (hGuarded : a.Guarded base) :
    a.inMemoryState.isSome = true := by
  rcases hGuarded with hRevoking | hBarred
  · exact hRevoking.memory
  · rcases hBarred.memory with ⟨d, hMemory, _⟩
    rw [hMemory]
    rfl

theorem Authority.Guarded.base_le
    (hGuarded : a.Guarded base) :
    base ≤ a.superseded.length := by
  rcases hGuarded with hRevoking | hBarred
  · exact hRevoking.base_le
  · exact hBarred.base_le

theorem Respects.refl
    (a : Authority) :
    Respects base a a :=
  ⟨id, fun _ => id, fun h => ⟨h, rfl, Or.inl rfl⟩⟩

theorem Respects.trans
    (a b d : Authority)
    (hFirst : Respects base a b)
    (hSecond : Respects base b d) :
    Respects base a d := by
  refine ⟨?_, ?_, ?_⟩
  · intro hGuarded
    exact hSecond.guarded (hFirst.guarded hGuarded)
  · intro hGuarded hRow
    exact hSecond.row (hFirst.guarded hGuarded)
      (hFirst.row hGuarded hRow)
  · intro hBarred
    rcases hFirst.barred hBarred with ⟨hMid, hSame, hRow⟩
    rcases hSecond.barred hMid with ⟨hEnd, hSame', hRow'⟩
    refine ⟨hEnd, hSame'.trans hSame, ?_⟩
    rcases hRow' with hKept | hRevoked
    · rcases hRow with hKept' | hRevoked
      · exact Or.inl (hKept.trans hKept')
      · exact Or.inr (hSecond.row (Or.inr hMid) hRevoked)
    · exact Or.inr hRevoked

theorem Defers.refl
    (a : Authority) :
    Defers base a a :=
  ⟨Respects.refl a, fun _ _ => ⟨rfl, rfl, rfl⟩⟩

/- Memory that is not revoked stays so. -/
theorem Authority.Barred.of_same
    (hBarred : b.Barred base)
    (hFlag : a.revoked = true)
    (hRow : b.row = a.row)
    (hMemory : b.inMemoryState = a.inMemoryState)
    (hSuperseded : b.superseded = a.superseded) :
    a.Barred base := by
  refine ⟨hFlag, ?_, ?_, ?_⟩
  · rw [← hMemory]
    exact hBarred.memory
  · rw [← hSuperseded]
    exact hBarred.base_le
  · rcases hBarred.outdated with ⟨row, hSome, hAll⟩
    refine ⟨row, hRow ▸ hSome, ?_⟩
    intro i d hBase hGet
    exact hAll i d hBase (hSuperseded ▸ hGet)

theorem Defers.trans
    (a b d : Authority)
    (hFirst : Defers base a b)
    (hSecond : Defers base b d) :
    Defers base a d := by
  refine ⟨Respects.trans a b d hFirst.respects
    hSecond.respects, ?_⟩
  intro hGuarded hNot
  rcases hFirst.same hGuarded hNot with ⟨hRow, hMem, hSup⟩
  have hStill : ¬b.Barred base := fun hBarred =>
    hNot (hBarred.of_same hGuarded.flag hRow hMem hSup)
  rcases hSecond.same (hFirst.respects.guarded hGuarded)
    hStill with ⟨hRow', hMem', hSup'⟩
  exact ⟨hRow'.trans hRow, hMem'.trans hMem,
    hSup'.trans hSup⟩

/- A call that changes nothing a revocation depends on. -/
theorem Defers.of_same
    (hFlag : a.revoked = true → b.revoked = true)
    (hLock : a.Revoking base →
      b.stateMachineMutex.locked = true ∧
        b.stateMachineMutex.granted = none)
    (hRow : b.row = a.row)
    (hMemory : b.inMemoryState = a.inMemoryState)
    (hSuperseded : b.superseded = a.superseded) :
    Defers base a b := by
  have hBarred : a.Barred base → b.Barred base := by
    intro h
    exact h.of_same (hFlag h.flag) hRow.symm hMemory.symm
      hSuperseded.symm
  refine ⟨⟨?_, ?_, ?_⟩, fun _ _ =>
    ⟨hRow, hMemory, hSuperseded⟩⟩
  · rintro (hRevoking | h)
    · rcases hLock hRevoking with ⟨hLocked, hGranted⟩
      refine Or.inl ⟨hFlag hRevoking.flag, hLocked, hGranted,
        ?_, ?_⟩
      · rw [hMemory]
        exact hRevoking.memory
      · rw [hSuperseded]
        exact hRevoking.base_le
    · exact Or.inr (hBarred h)
  · rintro _ ⟨row, hSome, hState⟩
    exact ⟨row, hRow.trans hSome, hState⟩
  · intro h
    exact ⟨hBarred h, hSuperseded, Or.inl hRow⟩

/- Once it has reached memory the lock is of no matter. -/
theorem Defers.of_barred
    (hBefore : a.Barred base)
    (hAfter : b.Barred base)
    (hSuperseded : b.superseded = a.superseded)
    (hRow : b.row = a.row ∨ b.RowRevoked) :
    Defers base a b := by
  refine ⟨⟨fun _ => Or.inr hAfter, ?_, fun _ =>
    ⟨hAfter, hSuperseded, hRow⟩⟩, fun _ hNot =>
      absurd hBefore hNot⟩
  rintro _ ⟨row, hSome, hState⟩
  rcases hRow with hSame | hRevoked
  · exact ⟨row, hSame.trans hSome, hState⟩
  · exact hRevoked

end Phases

------------------------------------------------------------
-- Calls That Take Part
------------------------------------------------------------

/- A contract under which a call may race. -/
structure Cooperates
    (base : Nat)
    (c : Contract Authority) : Prop where
  lawful : c.Lawful
  rely : ∀ a b, c.rely a b → Respects base a b
  guar : ∀ a b, Defers base a b → c.guar a b
  safe : ∀ s : Authority, s.revoked = true → c.safe s

/- A property that the turns of all calls keep. -/
def Lasting
    (base : Nat)
    (P : Authority → Prop) : Prop :=
  ∀ a b, P a → Respects base a b → P b

section Contracts

variable {base : Nat} {c : Contract Authority} {α β : Type}

theorem guarded_lasting :
    Lasting base (Authority.Guarded base) :=
  fun _ _ hGuarded hTurn => hTurn.guarded hGuarded

theorem barred_lasting :
    Lasting base (Authority.Barred base) :=
  fun _ _ hBarred hTurn => (hTurn.barred hBarred).1

/- A write that a call may make at any time. -/
def Plain
    (write : Authority → Authority) : Prop :=
  ∀ s : Authority,
    (s.revoked = true → (write s).revoked = true) ∧
    (write s).stateMachineMutex = s.stateMachineMutex ∧
    (write s).row = s.row ∧
    (write s).inMemoryState = s.inMemoryState ∧
    (write s).superseded = s.superseded

theorem Plain.defers
    {write : Authority → Authority}
    (hPlain : Plain write)
    (s : Authority) :
    Defers base s (write s) := by
  rcases hPlain s with ⟨hFlag, hLock, hRow, hMemory, hSup⟩
  refine Defers.of_same hFlag ?_ hRow hMemory hSup
  intro hRevoking
  rw [hLock]
  exact ⟨hRevoking.locked, hRevoking.granted⟩

theorem ensures_plain
    {P : Authority → Prop}
    {Q : Except String α → Authority → Prop}
    {write : Authority → Authority}
    {answer : Authority → α}
    (hCooperates : Cooperates base c)
    (hPlain : Plain write)
    (hGuarded : ∀ s, P s → s.Guarded base)
    (hEnd : ∀ s, P s → Q (.ok (answer s)) (write s)) :
    Flow.Ensures c P (Flow.update write answer) Q := by
  apply Flow.ensures_update hCooperates.lawful
  intro s hP
  refine ⟨?_, ?_, hEnd s hP⟩
  · apply hCooperates.safe
    exact (hPlain s).1 (hGuarded s hP).flag
  · exact hCooperates.guar _ _ (hPlain.defers s)

theorem tickClock_plain :
    Plain Authority.tickClock :=
  fun _ => ⟨id, rfl, rfl, rfl, rfl⟩

theorem setRevoked_plain :
    Plain (Authority.setRevoked true) :=
  fun _ => ⟨fun _ => rfl, rfl, rfl, rfl, rfl⟩

/- What was read is that of the state. -/
theorem ensures_reading
    {P : Authority → Prop}
    {Q : Except String β → Authority → Prop}
    {g : Authority → α}
    {f : α → Flow Authority β}
    (hCooperates : Cooperates base c)
    (hGuarded : ∀ s, P s → s.Guarded base)
    (hRest :
      ∀ a, Flow.Ensures c (fun s => P s ∧ g s = a) (f a) Q) :
    Flow.Ensures c P (Flow.read g >>= f) Q := by
  apply Flow.ensures_bind (fun a s => P s ∧ g s = a)
  · exact ensures_plain hCooperates
      (fun _ => ⟨id, rfl, rfl, rfl, rfl⟩) hGuarded
      (fun s hP => ⟨hP, rfl⟩)
  · exact hRest

/- The row as it was read, in a state that may be later. -/
theorem ensures_stored
    {P : Authority → Prop}
    {Q : Except String β → Authority → Prop}
    {f : Option SecurityStateRow → Flow Authority β}
    (mid : Option SecurityStateRow → Authority → Prop)
    (hCooperates : Cooperates base c)
    (hGuarded : ∀ s, P s → s.Guarded base)
    (hLasting : Lasting base P)
    (hRead : ∀ s, P s → mid s.row s)
    (hLater : ∀ found, Lasting base (mid found))
    (hRest : ∀ found, Flow.Ensures c (mid found) (f found) Q) :
    Flow.Ensures c P (getSecurityStateRow >>= f) Q := by
  apply Flow.ensures_bind mid
  · apply Flow.ensures_request mid hCooperates.lawful
    · intro s s' hP hRely
      exact hLasting s s' hP (hCooperates.rely _ _ hRely)
    · intro s hP
      exact ⟨hCooperates.safe _ (hGuarded s hP).flag,
        hCooperates.guar _ _ (Defers.refl s), hRead s hP⟩
    · intro found s s' hMid hRely
      exact hLater found s s' hMid
        (hCooperates.rely _ _ hRely)
  · exact hRest

theorem ensures_writeEvent
    {P : Authority → Prop}
    {Q : Except String Unit → Authority → Prop}
    (hCooperates : Cooperates base c)
    (hGuarded : ∀ s, P s → s.Guarded base)
    (hLasting : Lasting base P)
    (hEnd : ∀ s, P s → Q (.ok ()) s) :
    Flow.Ensures c P writeEvent Q := by
  apply Flow.ensures_request (fun _ => P) hCooperates.lawful
  · intro s s' hP hRely
    exact hLasting s s' hP (hCooperates.rely _ _ hRely)
  · intro s hP
    exact ⟨hCooperates.safe _ (hGuarded s hP).flag,
      hCooperates.guar _ _ (Defers.refl s), hP⟩
  · intro _ s s' hP hRely
    exact hEnd s' (hLasting s s' hP
      (hCooperates.rely _ _ hRely))

theorem ensures_setRevoked
    {P : Authority → Prop}
    {Q : Except String Unit → Authority → Prop}
    (hCooperates : Cooperates base c)
    (hGuarded : ∀ s, P s → s.Guarded base)
    (hEnd : ∀ s, P s → Q (.ok ()) (s.setRevoked true)) :
    Flow.Ensures c P (setRevokedSync true) Q :=
  ensures_plain hCooperates setRevoked_plain hGuarded hEnd

end Contracts

------------------------------------------------------------
-- Transitions Are Refused
------------------------------------------------------------

section Refused

variable {base : Nat} {c : Contract Authority}

/- A lock that was granted is not held by the revocation. -/
theorem ensures_acquire
    {Q : Except String Unit → Authority → Prop}
    (hCooperates : Cooperates base c)
    (hEnd : ∀ s, s.Barred base → Q (.ok ()) s) :
    Flow.Ensures c (Authority.Guarded base)
      (Mutex.acquire Authority.stateMachineMutex
        Authority.withStateMachineMutex) Q := by
  apply Flow.ensures_bind (fun m s =>
    s.Guarded base ∧ (m.locked = false → s.Barred base))
  · apply Flow.ensures_update hCooperates.lawful
    intro s hGuarded
    have hDefers :
        Defers base s
          (s.withStateMachineMutex Mutex.enter) := by
      refine Defers.of_same id ?_ rfl rfl rfl
      intro hRevoking
      simp [Authority.withStateMachineMutex, Mutex.enter,
        hRevoking.locked, hRevoking.granted]
    refine ⟨hCooperates.safe _ hGuarded.flag,
      hCooperates.guar _ _ hDefers,
      hDefers.respects.guarded hGuarded, ?_⟩
    intro hFree
    rcases hGuarded with hRevoking | hBarred
    · rw [hRevoking.locked] at hFree
      cases hFree
    · exact (hDefers.respects.barred hBarred).1
  intro m
  refine Flow.ensures_ite (fun _ => ?_) (fun hFree => ?_)
  · apply Flow.ensures_bind (fun _ => Authority.Barred base)
    · apply Flow.ensures_waitFor hCooperates.lawful
      rintro s s' ⟨hGuarded, _⟩ hRely hReady
      rcases (hCooperates.rely _ _ hRely).guarded hGuarded
        with hRevoking | hBarred
      · have hGranted := of_decide_eq_true hReady
        rw [hRevoking.granted] at hGranted
        cases hGranted
      · exact hBarred
    · intro _
      apply Flow.ensures_update hCooperates.lawful
      intro s hBarred
      have hAfter :
          (s.withStateMachineMutex Mutex.take).Barred base :=
        hBarred.of_same hBarred.flag rfl rfl rfl
      exact ⟨hCooperates.safe _ hBarred.flag,
        hCooperates.guar _ _
          (Defers.of_barred hBarred hAfter rfl (Or.inl rfl)),
        hEnd _ hAfter⟩
  · apply Flow.ensures_done
    rintro s ⟨_, hBarred⟩
    exact hEnd s (hBarred (Bool.eq_false_iff.mpr hFree))

/- The row as a transition has read it. -/
def Seen
    (base : Nat)
    (found : Option SecurityStateRow)
    (s : Authority) : Prop :=
  s.Barred base ∧
    ∃ row, found = some row ∧ s.OutdatedFrom base row

theorem seen_lasting
    (found : Option SecurityStateRow) :
    Lasting base (Seen base found) := by
  rintro s s' ⟨hBarred, row, hFound, hAll⟩ hTurn
  rcases hTurn.barred hBarred with ⟨hAfter, hSame, _⟩
  refine ⟨hAfter, row, hFound, ?_⟩
  intro i d hBase hGet
  exact hAll i d hBase (hSame ▸ hGet)

/- Whatever a reference leads to is outdated. -/
theorem outdated_of_deref
    {s : Authority}
    {row : SecurityStateRow}
    {d : StateData}
    {ref : Nat}
    (hBarred : s.Barred base)
    (hAll : s.OutdatedFrom base row)
    (hRef : base ≤ ref)
    (hDeref : s.deref ref = some d) :
    Outdated row d := by
  rcases hBarred.memory with ⟨current, hMemory, hState⟩
  rw [Authority.deref, List.getElem?_append] at hDeref
  split at hDeref
  · exact hAll ref d hRef hDeref
  · rw [hMemory] at hDeref
    have hMem := List.mem_of_getElem? hDeref
    simp only [Option.toList_some, List.mem_singleton] at hMem
    rw [hMem]
    exact Or.inl hState

theorem getTransition_revoked
    (event : TransitionEvent) :
    getTransition .REVOKED event = none := by
  cases event <;> rfl

/- How a call of the engine ends that was refused. -/
def RefusedTransition
    (base : Nat)
    (answer : Except String TransitionResult)
    (s : Authority) : Prop :=
  s.Barred base ∧ ∀ next, answer ≠ .ok (.success next)

theorem transitionBody_refused_race
    (hCooperates : Cooperates base c)
    {ref : Nat}
    (hRef : base ≤ ref)
    (event : TransitionEvent)
    (payload : TransitionPayload) :
    Flow.Ensures c (Authority.Barred base)
      (transitionBody ref event payload)
      (RefusedTransition base) := by
  apply ensures_stored (Seen base) hCooperates
    (fun _ => Or.inr) barred_lasting
  · intro s hBarred
    rcases hBarred.outdated with ⟨row, hRow, hAll⟩
    exact ⟨hBarred, row, hRow, hAll⟩
  · exact seen_lasting
  intro found
  apply ensures_reading hCooperates (fun _ h => Or.inr h.1)
  intro current
  cases found with
  | none =>
      exact Flow.ensures_fail
        (fun _ h => ⟨h.1.1, fun _ hEq => by cases hEq⟩)
  | some row =>
      cases current with
      | none =>
          exact Flow.ensures_fail
            (fun _ h => ⟨h.1.1, fun _ hEq => by cases hEq⟩)
      | some d =>
          apply Flow.ensures_of_fact (p := Outdated row d)
          · rintro s ⟨⟨hBarred, _, hFound, hAll⟩, hDeref⟩
            cases hFound
            exact outdated_of_deref hBarred hAll hRef hDeref
          intro hOutdated
          refine Flow.ensures_ite (fun _ => ?_)
            (fun hSame => ?_)
          · exact Flow.ensures_done
              (fun _ h => ⟨h.1.1, fun _ hEq => by cases hEq⟩)
          · have hVersion :
                d.state_version = row.state_version := by
              simpa using hSame
            have hState : d.state = .REVOKED := by
              rcases hOutdated with hState | hOlder
              · exact hState
              · omega
            rw [hState, getTransition_revoked]
            apply Flow.ensures_bind
              (fun _ => Authority.Barred base)
            · exact (ensures_writeEvent hCooperates
                (fun _ => Or.inr) barred_lasting
                (fun _ h => h)).within (fun _ h => h.1.1)
            · intro _
              exact Flow.ensures_done
                (fun _ h => ⟨h, fun _ hEq => by cases hEq⟩)

/- How a dispatch ends that was refused. -/
def RefusedDispatch
    (base : Nat)
    (answer : Except String Bool)
    (s : Authority) : Prop :=
  s.Barred base ∧ answer ≠ .ok true

theorem dispatch_refused_race
    (hCooperates : Cooperates base c)
    (event : TransitionEvent)
    (payload : TransitionPayload) :
    Flow.Ensures c (Authority.Guarded base)
      (dispatch event payload) (RefusedDispatch base) := by
  apply ensures_reading hCooperates (fun _ => id)
  intro current
  cases current with
  | none =>
      apply Flow.ensures_of_fact (p := False)
      · rintro s ⟨hGuarded, hNone⟩
        have hMemory := hGuarded.memory
        simp only [Authority.currentRef,
          Option.map_eq_none_iff] at hNone
        rw [hNone] at hMemory
        cases hMemory
      · exact False.elim
  | some ref =>
      apply Flow.ensures_of_fact (p := base ≤ ref)
      · rintro s ⟨hGuarded, hSome⟩
        rcases Option.map_eq_some_iff.mp hSome with
          ⟨_, _, hEq⟩
        rw [← hEq]
        exact hGuarded.base_le
      intro hRef
      apply Flow.ensures_bind (fun result s =>
        s.Barred base ∧ ∀ next, result ≠ .success next)
      · apply Flow.ensures_bind
          (fun _ => Authority.Barred base)
        · exact (ensures_acquire hCooperates
            (fun _ h => h)).within (fun _ h => h.1)
        · intro _
          apply Flow.ensures_ensuring (RefusedTransition base)
            hCooperates.lawful
            (transitionBody_refused_race hCooperates hRef
              event payload)
          rintro answer s ⟨hBarred, hRefused⟩
          have hAfter :
              (s.withStateMachineMutex
                Mutex.release).Barred base :=
            hBarred.of_same hBarred.flag rfl rfl rfl
          refine ⟨hCooperates.safe _ hBarred.flag,
            hCooperates.guar _ _
              (Defers.of_barred hBarred hAfter rfl
                (Or.inl rfl)), ?_⟩
          cases answer with
          | ok result =>
              exact ⟨hAfter, fun next hEq =>
                hRefused next (congrArg _ hEq)⟩
          | error message =>
              exact ⟨hAfter, fun hEq => by cases hEq⟩
      · intro result
        cases result with
        | success next =>
            apply Flow.ensures_of_fact (p := False)
            · rintro s ⟨_, hRefused⟩
              exact hRefused next rfl
            · exact False.elim
        | failure error =>
            exact Flow.ensures_done
              (fun _ h => ⟨h.1, fun hEq => by cases hEq⟩)

end Refused

------------------------------------------------------------
-- The Row Is Revoked
------------------------------------------------------------

/- The revocation has reached memory and storage. -/
def Authority.Sealed
    (base : Nat)
    (s : Authority) : Prop :=
  s.Barred base ∧ s.RowRevoked

/- The row that was read, unless it was revoked since. -/
def Known
    (base : Nat)
    (found : Option SecurityStateRow)
    (s : Authority) : Prop :=
  s.Barred base ∧ (s.RowRevoked ∨ s.row = found)

/- The part of a revocation that looks at the row. -/
def persistRevoked : Flow Authority Unit := do
  let stored ← getSecurityStateRow
  match stored with
  | some row =>
      if row.state ≠ .known .REVOKED then
        commitRevocation row
      else pure ()
  | none => pure ()

section Persist

variable {base : Nat} {c : Contract Authority}

theorem sealed_lasting :
    Lasting base (Authority.Sealed base) := by
  rintro s s' ⟨hBarred, hRow⟩ hTurn
  exact ⟨(hTurn.barred hBarred).1,
    hTurn.row (Or.inr hBarred) hRow⟩

theorem known_lasting
    (found : Option SecurityStateRow) :
    Lasting base (Known base found) := by
  rintro s s' ⟨hBarred, hKnown⟩ hTurn
  rcases hTurn.barred hBarred with ⟨hAfter, _, hRow⟩
  refine ⟨hAfter, ?_⟩
  rcases hKnown with hRevoked | hFound
  · exact Or.inl (hTurn.row (Or.inr hBarred) hRevoked)
  · rcases hRow with hSame | hRevoked
    · exact Or.inr (hSame.trans hFound)
    · exact Or.inl hRevoked

/- A revoked row over the one that was read. -/
theorem updateRow_sealed
    {s : Authority}
    {row : SecurityStateRow}
    (hKnown : Known base (some row) s)
    (next : SecurityStateRow)
    (hState : next.state = .known .REVOKED)
    (hVersion : row.state_version < next.state_version) :
    (s.updateRow row.state_version next).Sealed base ∧
    Defers base s (s.updateRow row.state_version next) := by
  rcases hKnown with ⟨hBarred, hKnown⟩
  cases hFound : s.atVersion row.state_version with
  | false =>
      have hSame :
          s.updateRow row.state_version next = s := by
        simp [Authority.updateRow, hFound]
      rw [hSame]
      refine ⟨⟨hBarred, ?_⟩, Defers.refl s⟩
      rcases hKnown with hRevoked | hRow
      · exact hRevoked
      · rw [atVersion_of_row hRow] at hFound
        cases hFound
  | true =>
      have hUpdated :
          s.updateRow row.state_version next =
            { s with row := some next } := by
        simp [Authority.updateRow, hFound]
      have hRevoked :
          ({ s with row := some next } :
            Authority).RowRevoked := ⟨next, rfl, hState⟩
      have hAfter :
          ({ s with row := some next } :
            Authority).Barred base := by
        refine ⟨hBarred.flag, hBarred.memory,
          hBarred.base_le, next, rfl, ?_⟩
        intro i d hBase hGet
        rcases hBarred.outdated with ⟨old, hOld, hAll⟩
        rcases hAll i d hBase hGet with hState | hOlder
        · exact Or.inl hState
        · have hEq : old.state_version =
              row.state_version := by
            simpa [Authority.atVersion, hOld] using hFound
          right
          omega
      rw [hUpdated]
      exact ⟨⟨hAfter, hRevoked⟩,
        Defers.of_barred hBarred hAfter rfl
          (Or.inr hRevoked)⟩

/- There is a row, so nothing is inserted. -/
theorem insertRow_sealed
    {s : Authority}
    (hSealed : s.Sealed base)
    (next : SecurityStateRow) :
    s.insertRow next = s := by
  rcases hSealed.2 with ⟨row, hRow, _⟩
  simp [Authority.insertRow, hRow]

theorem commitRevocation_race
    (hCooperates : Cooperates base c)
    (row : SecurityStateRow) :
    Flow.Ensures c (Known base (some row))
      (commitRevocation row)
      (fun _ => Authority.Sealed base) := by
  apply ensures_reading hCooperates (fun _ h => Or.inr h.1)
  intro found
  cases found with
  | none =>
      apply Flow.ensures_of_fact (p := False)
      · rintro s ⟨⟨hBarred, _⟩, hNone⟩
        rcases hBarred.memory with ⟨d, hMemory, _⟩
        rw [hMemory] at hNone
        cases hNone
      · exact False.elim
  | some d =>
      apply Flow.ensures_of_fact (p := d.state = .REVOKED)
      · rintro s ⟨⟨hBarred, _⟩, hSome⟩
        rcases hBarred.memory with ⟨current, hMemory, hState⟩
        rw [hMemory] at hSome
        cases hSome
        exact hState
      intro hState
      apply Flow.ensures_bind
        (fun _ => Authority.Sealed base)
      · apply Flow.ensures_bind
          (fun _ => Known base (some row))
        · apply ensures_plain hCooperates tickClock_plain
            (fun _ h => Or.inr h.1.1)
          rintro s ⟨hKnown, _⟩
          exact known_lasting (some row) s _ hKnown
            (tickClock_plain.defers s).respects
        intro highestTime
        apply Flow.ensures_bind
          (fun _ => Authority.Sealed base)
        · apply Flow.ensures_request
            (fun _ => Authority.Sealed base)
            hCooperates.lawful
          · intro s s' hKnown hRely
            exact known_lasting (some row) s s' hKnown
              (hCooperates.rely _ _ hRely)
          · intro s hKnown
            rcases updateRow_sealed hKnown
              (d.toNext.toRow (row.state_version + 1)
                highestTime)
              (congrArg PersistedState.known hState)
              (Nat.lt_succ_self _) with ⟨hSealed, hDefers⟩
            exact ⟨hCooperates.safe _ hSealed.1.flag,
              hCooperates.guar _ _ hDefers, hSealed⟩
          · intro _ s s' hSealed hRely
            exact sealed_lasting s s' hSealed
              (hCooperates.rely _ _ hRely)
        intro changed
        refine Flow.ensures_ite
          (fun _ => Flow.ensures_done (fun _ h => h))
          (fun _ => ?_)
        refine Flow.ensures_ite (fun _ => ?_)
          (fun _ => Flow.ensures_done (fun _ h => h))
        apply Flow.ensures_request
          (fun _ => Authority.Sealed base) hCooperates.lawful
        · intro s s' hSealed hRely
          exact sealed_lasting s s' hSealed
            (hCooperates.rely _ _ hRely)
        · intro s hSealed
          rw [insertRow_sealed hSealed]
          exact ⟨hCooperates.safe _ hSealed.1.flag,
            hCooperates.guar _ _ (Defers.refl s), hSealed⟩
        · intro _ s s' hSealed hRely
          exact sealed_lasting s s' hSealed
            (hCooperates.rely _ _ hRely)
      · intro _
        exact Flow.ensures_done (fun _ h => h)

theorem persistRevoked_race
    (hCooperates : Cooperates base c) :
    Flow.Ensures c (Authority.Barred base) persistRevoked
      (fun _ => Authority.Sealed base) := by
  apply ensures_stored (Known base) hCooperates
    (fun _ => Or.inr) barred_lasting
    (fun _ h => ⟨h, Or.inr rfl⟩) known_lasting
  intro found
  cases found with
  | none =>
      apply Flow.ensures_done
      rintro s ⟨hBarred, hKnown⟩
      refine ⟨hBarred, ?_⟩
      rcases hKnown with hRevoked | hNone
      · exact hRevoked
      · rcases hBarred.outdated with ⟨row, hRow, _⟩
        rw [hRow] at hNone
        cases hNone
  | some row =>
      refine Flow.ensures_ite
        (fun _ => commitRevocation_race hCooperates row)
        (fun hState => ?_)
      apply Flow.ensures_done
      rintro s ⟨hBarred, hKnown⟩
      refine ⟨hBarred, ?_⟩
      rcases hKnown with hRevoked | hRow
      · exact hRevoked
      · exact ⟨row, hRow, by simpa using hState⟩

end Persist

------------------------------------------------------------
-- The Other Calls
------------------------------------------------------------

section Calls

variable {base : Nat} {c : Contract Authority} {α : Type}

/- The engine is there as long as the revocation is. -/
theorem no_memory_false
    {P : Authority → Prop}
    (hGuarded : ∀ s, P s → s.Guarded base)
    {s : Authority}
    (hP : P s ∧ s.inMemoryState = none) : False := by
  have hMemory := (hGuarded s hP.1).memory
  rw [hP.2] at hMemory
  cases hMemory

/- Calls that may race in every guarded state. -/
theorem guarded_within
    {P : Authority → Prop}
    {Q : Except String α → Authority → Prop}
    {t : Flow Authority α}
    (hGuarded : ∀ s, P s → s.Guarded base)
    (hCall : Flow.Ensures c (Authority.Guarded base) t Q) :
    Flow.Ensures c P t Q :=
  hCall.within hGuarded

/- What follows a dispatch follows one that was refused. -/
theorem ensures_dispatch
    {Q : Except String α → Authority → Prop}
    {f : Bool → Flow Authority α}
    {event : TransitionEvent}
    {payload : TransitionPayload}
    (hCooperates : Cooperates base c)
    (hError : ∀ message s, s.Barred base →
      Q (.error message) s)
    (hRest :
      Flow.Ensures c (Authority.Barred base) (f false) Q) :
    Flow.Ensures c (Authority.Guarded base)
      (dispatch event payload >>= f) Q := by
  apply Flow.ensures_bind
    (fun accepted s => s.Barred base ∧ accepted = false)
  · apply (dispatch_refused_race hCooperates event
      payload).weaken (fun _ => id)
    rintro (message | accepted) s ⟨hBarred, hRefused⟩
    · exact hError message s hBarred
    · cases accepted with
      | false => exact ⟨hBarred, rfl⟩
      | true => exact absurd rfl hRefused
  · intro accepted
    apply Flow.ensures_of_fact (fun _ h => h.2)
    rintro rfl
    exact hRest.within (fun _ h => h.1)

theorem assign_revoke_barred
    {s : Authority}
    (hBarred : s.Barred base) :
    (s.assign StateData.revoke).Barred base := by
  rcases hBarred.memory with ⟨d, hMemory, _⟩
  refine ⟨hBarred.flag, ⟨d.revoke, ?_, rfl⟩,
    hBarred.base_le, hBarred.outdated⟩
  simp [hMemory]

theorem ensureRevoked_race
    (hCooperates : Cooperates base c) :
    Flow.Ensures c (Authority.Barred base) ensureRevoked
      (fun _ => Authority.Sealed base) := by
  apply ensures_reading hCooperates (fun _ => Or.inr)
  intro found
  refine Flow.ensures_ite (fun _ => ?_) (fun hNone => ?_)
  · apply Flow.ensures_bind (fun _ => Authority.Barred base)
    · apply Flow.ensures_update hCooperates.lawful
      rintro s ⟨hBarred, _⟩
      have hAfter := assign_revoke_barred hBarred
      exact ⟨hCooperates.safe _ hAfter.flag,
        hCooperates.guar _ _
          (Defers.of_barred hBarred hAfter rfl (Or.inl rfl)),
        hAfter⟩
    · intro _
      exact persistRevoked_race hCooperates
  · apply Flow.ensures_of_fact (p := False)
    · rintro s ⟨hBarred, hFound⟩
      apply no_memory_false (fun _ => Or.inr)
        (s := s) ⟨hBarred, ?_⟩
      rw [hFound]
      simpa using hNone
    · exact False.elim

/- What a revocation does once it has set the flag. -/
def enforceRevocation : Flow Authority Bool := do
  let _ ←
    (dispatch .BACKEND_REVOCATION revocation).catching
      (fun _ => pure false)
  ensureRevoked
  pure true

theorem revokeLicense_eq :
    revokeLicense =
      (setRevokedSync true >>= fun _ => enforceRevocation) :=
  rfl

theorem enforceRevocation_race
    (hCooperates : Cooperates base c) :
    Flow.Ensures c (Authority.Guarded base)
      enforceRevocation
      (fun _ => Authority.Sealed base) := by
  apply Flow.ensures_bind (fun _ => Authority.Barred base)
  · apply Flow.ensures_catching
      (fun _ => Authority.Barred base)
    · apply (dispatch_refused_race hCooperates _ _).weaken
        (fun _ => id)
      rintro (message | accepted) s hRefused
      · exact hRefused.1
      · exact hRefused.1
    · exact fun _ => Flow.ensures_done (fun _ h => h)
  intro _
  apply Flow.ensures_bind (fun _ => Authority.Sealed base)
  · apply (ensureRevoked_race hCooperates).weaken
      (fun _ => id)
    rintro (message | _) s hSealed
    · exact hSealed
    · exact hSealed
  · exact fun _ => Flow.ensures_done (fun _ h => h)

theorem revokeLicense_race
    (hCooperates : Cooperates base c) :
    Flow.Ensures c (Authority.Guarded base) revokeLicense
      (fun _ => Authority.Sealed base) := by
  rw [revokeLicense_eq]
  apply Flow.ensures_bind (fun _ => Authority.Guarded base)
  · apply ensures_setRevoked hCooperates (fun _ => id)
    intro s hGuarded
    exact guarded_lasting s _ hGuarded
      (setRevoked_plain.defers s).respects
  · exact fun _ => enforceRevocation_race hCooperates

/- A call that ends while the revocation is in force. -/
def Races
    (base : Nat)
    (c : Contract Authority)
    (P : Authority → Prop)
    (t : Flow Authority α) : Prop :=
  Flow.Ensures c P t (fun _ => Authority.Guarded base)

theorem login_races
    (hCooperates : Cooperates base c)
    (payload : AuthPayload)
    (production : Bool)
    (currentState : SecurityState) :
    Races base c (Authority.Guarded base)
      (login payload production currentState) := by
  refine Flow.ensures_ite (fun _ => ?_) (fun _ => ?_)
  · apply ensures_dispatch hCooperates (fun _ _ => Or.inr)
    exact Flow.ensures_done (fun _ => Or.inr)
  · apply ensures_reading hCooperates (fun _ => id)
    exact fun _ => Flow.ensures_done (fun _ h => h.1)

theorem admitSession_races
    (hCooperates : Cooperates base c)
    (payload : AuthPayload) :
    Races base c (Authority.Guarded base)
      (admitSession payload) := by
  apply ensures_reading hCooperates (fun _ => id)
  intro production
  apply ensures_reading hCooperates (fun _ h => h.1)
  intro currentState
  have hLogin :=
    login_races hCooperates payload production currentState
  refine Flow.ensures_ite (fun _ => ?_)
    (fun _ => hLogin.within (fun _ h => h.1.1))
  apply guarded_within (fun _ h => h.1.1)
  apply ensures_dispatch hCooperates (fun _ _ => Or.inr)
  exact hLogin.within (fun _ => Or.inr)

theorem establishSession_races
    (hCooperates : Cooperates base c)
    (payload : AuthPayload) :
    Races base c (Authority.Guarded base)
      (establishSession payload) := by
  apply Flow.ensures_bind (fun _ => Authority.Guarded base)
  · apply ensures_reading hCooperates (fun _ => id)
    intro found
    refine Flow.ensures_ite (fun hNone => ?_)
      (fun _ => Flow.ensures_done (fun _ h => h.1))
    apply Flow.ensures_of_fact (p := False)
    · rintro s ⟨hGuarded, hFound⟩
      apply no_memory_false (fun _ => id)
        (s := s) ⟨hGuarded, ?_⟩
      rw [hFound]
      simpa using hNone
    · exact False.elim
  intro _
  refine Flow.ensures_ite
    (fun _ => Flow.ensures_done (fun _ h => h)) (fun _ => ?_)
  refine Flow.ensures_ite (fun _ => ?_)
    (fun _ => admitSession_races hCooperates payload)
  apply Flow.ensures_bind (fun _ => Authority.Guarded base)
  · apply (revokeLicense_race hCooperates).weaken
      (fun _ => id)
    rintro (message | _) s hSealed
    · exact Or.inr hSealed.1
    · exact Or.inr hSealed.1
  · exact fun _ => Flow.ensures_done (fun _ h => h)

theorem authenticate_races
    (hCooperates : Cooperates base c)
    (credentials : AuthPayload) :
    Races base c (Authority.Guarded base)
      (authenticate credentials) := by
  refine Flow.ensures_ite
    (fun _ => establishSession_races hCooperates credentials)
    (fun _ => ?_)
  apply ensures_reading hCooperates (fun _ => id)
  intro production
  refine Flow.ensures_ite
    (fun _ => Flow.ensures_done (fun _ h => h.1))
    (fun _ => ?_)
  exact (establishSession_races hCooperates
    localPayload).within (fun _ h => h.1)

theorem enterOfflineGrace_races
    (hCooperates : Cooperates base c)
    (lease : Lease) :
    Races base c (Authority.Guarded base)
      (enterOfflineGrace lease) := by
  apply ensures_reading hCooperates (fun _ => id)
  intro currentState
  refine Flow.ensures_ite (fun _ => ?_)
    (fun _ => Flow.ensures_done (fun _ h => h.1))
  apply guarded_within (fun _ h => h.1)
  apply ensures_dispatch hCooperates (fun _ _ => Or.inr)
  exact Flow.ensures_done (fun _ => Or.inr)

/- A degradation ends with the flag set. -/
theorem flagged_races
    (hCooperates : Cooperates base c)
    {P : Authority → Prop}
    (hGuarded : ∀ s, P s → s.Guarded base) :
    Races base c P
      (setRevokedSync true >>= fun _ => pure true) := by
  apply Flow.ensures_bind (fun _ => Authority.Guarded base)
  · apply ensures_setRevoked hCooperates hGuarded
    intro s hP
    exact guarded_lasting s _ (hGuarded s hP)
      (setRevoked_plain.defers s).respects
  · exact fun _ => Flow.ensures_done (fun _ h => h)

theorem loseBackend_races
    (hCooperates : Cooperates base c) :
    Races base c (Authority.Guarded base) loseBackend := by
  apply ensures_reading hCooperates (fun _ => id)
  intro now
  apply guarded_within (fun _ h => h.1)
  apply ensures_dispatch hCooperates (fun _ _ => Or.inr)
  apply guarded_within (fun _ => Or.inr)
  apply ensures_dispatch hCooperates (fun _ _ => Or.inr)
  exact Flow.ensures_done (fun _ => Or.inr)

/- A call that falls back to the cached lease regardless. -/
def Authority.ClearsFlag
    (s : Authority)
    (reason : String) : Prop :=
  reason = "OFFLINE_GRACE" ∧
    (s.getSystemState = .OPERATIONAL ∨
      s.getSystemState = .OFFLINE_GRACE)

theorem transitionToDegraded_races
    (hCooperates : Cooperates base c)
    (reason : String) :
    Races base c
      (fun s => s.Guarded base ∧ ¬s.ClearsFlag reason)
      (transitionToDegraded reason) := by
  apply ensures_reading hCooperates (fun _ h => h.1)
  intro currentState
  refine Flow.ensures_ite (fun hReason => ?_) (fun _ => ?_)
  · apply Flow.ensures_of_fact
      (p := currentState ≠ .OPERATIONAL ∧
        currentState ≠ .OFFLINE_GRACE)
    · rintro s ⟨⟨_, hNot⟩, rfl⟩
      refine ⟨fun hState => ?_, fun hState => ?_⟩
      · exact hNot ⟨hReason, Or.inl hState⟩
      · exact hNot ⟨hReason, Or.inr hState⟩
    rintro ⟨hOperational, hOffline⟩
    rw [if_neg hOperational, if_neg hOffline]
    exact (enterOfflineGrace_races hCooperates {}).within
      (fun _ h => h.1.1)
  apply guarded_within (fun _ h => h.1.1)
  refine Flow.ensures_ite (fun _ => ?_) (fun _ => ?_)
  · apply Flow.ensures_bind (fun _ => Authority.Guarded base)
    · apply (loseBackend_races hCooperates).weaken
        (fun _ => id)
      rintro (message | _) s hGuarded
      · exact hGuarded
      · exact hGuarded
    intro _
    apply ensures_dispatch hCooperates (fun _ _ => Or.inr)
    exact flagged_races hCooperates (fun _ => Or.inr)
  · refine Flow.ensures_ite (fun _ => ?_)
      (fun _ => flagged_races hCooperates (fun _ => id))
    apply ensures_dispatch hCooperates (fun _ _ => Or.inr)
    exact flagged_races hCooperates (fun _ => Or.inr)

/- The row is revoked before the backend is asked. -/
def Authority.Settling
    (base : Nat)
    (s : Authority) : Prop :=
  s.Guarded base ∧ s.RowRevoked

theorem settling_lasting :
    Lasting base (Authority.Settling base) := by
  rintro s s' ⟨hGuarded, hRow⟩ hTurn
  exact ⟨hTurn.guarded hGuarded, hTurn.row hGuarded hRow⟩

theorem withReconcileMutex_plain
    (f : Mutex → Mutex) :
    Plain (Authority.withReconcileMutex f) :=
  fun _ => ⟨id, rfl, rfl, rfl, rfl⟩

theorem settling_reconcileMutex
    (f : Mutex → Mutex)
    {s : Authority}
    (hSettling : s.Settling base) :
    (s.withReconcileMutex f).Settling base :=
  settling_lasting s _ hSettling
    ((withReconcileMutex_plain f).defers s).respects

theorem reconcileBody_races
    (hCooperates : Cooperates base c)
    (answer : ReconcileAnswer) :
    Flow.Ensures c (Authority.Settling base)
      (reconcileBody answer)
      (fun _ => Authority.Settling base) := by
  apply ensures_stored
    (fun found s => s.Settling base ∧ ∀ row,
      found = some row → row.state = .known .REVOKED)
    hCooperates (fun _ h => h.1) settling_lasting
  · rintro s ⟨hGuarded, row, hRow, hState⟩
    refine ⟨⟨hGuarded, row, hRow, hState⟩, ?_⟩
    intro other hOther
    rw [hRow] at hOther
    cases hOther
    exact hState
  · rintro found s s' ⟨hSettling, hFound⟩ hTurn
    exact ⟨settling_lasting s s' hSettling hTurn, hFound⟩
  intro found
  cases found with
  | none => exact Flow.ensures_done (fun _ h => h.1)
  | some row =>
      apply Flow.ensures_of_fact
        (fun _ h => h.2 row rfl)
      intro hState
      refine Flow.ensures_ite
        (fun _ => Flow.ensures_done (fun _ h => h.1))
        (fun hNot => ?_)
      rw [hState] at hNot
      exact absurd rfl hNot

theorem triggerReconciliation_races
    (hCooperates : Cooperates base c)
    (answer : ReconcileAnswer) :
    Races base c (Authority.Settling base)
      (triggerReconciliation answer) := by
  apply Flow.ensures_bind (fun _ => Authority.Settling base)
  · apply Flow.ensures_bind (fun _ => Authority.Settling base)
    · exact ensures_plain hCooperates
        (withReconcileMutex_plain _) (fun _ h => h.1)
        (fun _ => settling_reconcileMutex _)
    intro m
    refine Flow.ensures_ite (fun _ => ?_)
      (fun _ => Flow.ensures_done (fun _ h => h))
    apply Flow.ensures_bind (fun _ => Authority.Settling base)
    · apply Flow.ensures_waitFor hCooperates.lawful
      intro s s' hSettling hRely _
      exact settling_lasting s s' hSettling
        (hCooperates.rely _ _ hRely)
    · intro _
      exact ensures_plain hCooperates
        (withReconcileMutex_plain _) (fun _ h => h.1)
        (fun _ => settling_reconcileMutex _)
  intro _
  apply Flow.ensures_ensuring
    (fun _ => Authority.Settling base) hCooperates.lawful
  · apply Flow.ensures_catching
      (fun _ => Authority.Settling base)
    · apply (reconcileBody_races hCooperates answer).weaken
        (fun _ => id)
      rintro (message | _) s hSettling
      · exact hSettling
      · exact hSettling
    · exact fun _ => Flow.ensures_done (fun _ h => h)
  · intro _ s hSettling
    exact ⟨hCooperates.safe _ hSettling.1.flag,
      hCooperates.guar _ _
        ((withReconcileMutex_plain _).defers s),
      (settling_reconcileMutex _ hSettling).1⟩

end Calls

end ControlPlane
