import ControlPlane.Store.StateStore

/-
  Revisions of the consistency groups.

  A mutation raises the stored revision of its group by one,
  and the containers count for themselves. The two stay
  together as long as every step that counts in one place
  counts in the other one too.

  Main declarations:
    * `StateStore.InStep` and `StateStore.KeepsRevision`
    * `StateStore.inStep_step_iff`
    * `StateStore.OneRevision`
    * `StateStore.one_revision_iff`
-/

------------------------------------------------------------
-- One Revision
------------------------------------------------------------

namespace ControlPlane

namespace Store

namespace StateStore

/- The container reports the revision that is stored. -/
def InStep
    (s : StateStore)
    (group : ConsistencyGroup) : Prop :=
  s.containerRevision group = s.persistedRevision group

/-
  The stored revision never decreases, and a mutation of the
  group that succeeds raises it by one.
-/
def RaisesOnce
    (group : ConsistencyGroup)
    (s : StateStore)
    (event : Int × StoreEvent) : Prop :=
  s.persistedRevision group ≤
      (s.step event).persistedRevision group ∧
    ∀ mutation,
      event.2 = .mutate mutation →
        mutation.group = group →
          (s.mutate mutation event.1).1 = none →
            (s.step event).persistedRevision group =
              s.persistedRevision group + 1

/-
  The revision that the container reports is accepted, and an
  earlier one is rejected with nothing changed.
-/
def Locks
    (group : ConsistencyGroup)
    (s : StateStore) : Prop :=
  ∀ mutation now,
    mutation.group = group →
      (mutation.expectedRevision =
          some (s.containerRevision group) →
        s.mutate mutation now =
          s.executeGroupTransaction group none now
            (mutation.apply now)) ∧
      ∀ revision,
        mutation.expectedRevision = some revision →
          revision < s.containerRevision group →
            s.mutate mutation now =
              (some (.revisionConflict group revision
                (s.persistedRevision group)), s)

/- What is promised of the revision of a group in a step. -/
structure OneRevision
    (group : ConsistencyGroup)
    (s : StateStore)
    (event : Int × StoreEvent) : Prop where
  inStep : (s.step event).InStep group
  raisesOnce : RaisesOnce group s event
  locks : Locks group (s.step event)

/- The account that a mutation counts for in memory exists. -/
def CountsFor
    (s : StateStore)
    (group : ConsistencyGroup) : StoreMutation → Prop
| .delete id _ =>
    group = .accounts → s.accounts.accounts.has id
| .updateExecutionState id _ _ =>
    group = .accounts → s.accounts.accounts.has id
| .updateAccountOverride _ _ _ =>
    group ≠ .accounts ∧ group ≠ .globalConfig
| _ => True

/-
  A step that counts alike in memory and on disk: it changes
  an account that exists and no override, it is no hydration
  by the repositories, no restart under the accounts, and no
  logout once the stored revision has been raised.
-/
def KeepsRevision
    (group : ConsistencyGroup)
    (s : StateStore)
    (event : Int × StoreEvent) : Prop :=
  match event.2 with
  | .mutate mutation =>
      s.db.metadata.conflicts mutation.group
          mutation.expectedRevision = true ∨
        s.CountsFor group mutation
  | .updateBalance _ _ _ => True
  | .hydrateConfig => group ≠ .globalConfig
  | .hydrateBilling valid _ =>
      group = .billing → valid = false
  | .hydrate => True
  | .logout => s.persistedRevision group = 1
  | .restart => group ≠ .accounts

------------------------------------------------------------
-- What A Mutation Counts
------------------------------------------------------------

theorem persistedRevision_setMetadata
    (s t : StateStore)
    (group raised : ConsistencyGroup)
    (now : Int) :
    (t.setMetadata
        (s.db.metadata.set raised now
          (some (s.persistedRevision raised + 1))
          none)).persistedRevision group =
      s.persistedRevision group +
        if group = raised then 1 else 0 := by
  unfold persistedRevision setMetadata
  dsimp only
  by_cases hGroup : group = raised
  · rw [if_pos hGroup, hGroup, Metadata.revision_set]
    rfl
  · rw [if_neg hGroup, Metadata.revision_set_of_ne hGroup]
    rfl

/- A container that counts once more than another group. -/
theorem containerRevision_bumpContainer
    (s : StateStore)
    (group raised : ConsistencyGroup) :
    (s.bumpContainer raised).containerRevision group =
      s.containerRevision group +
        if group = raised then 1 else 0 := by
  cases raised <;> cases group <;> rfl

/-
  A mutation keeps a container in step exactly when it counts
  for it.
-/
theorem countsFor_iff
    {s t : StateStore}
    {group : ConsistencyGroup}
    {mutation : StoreMutation}
    {now : Int}
    (hStep : s.InStep group)
    (hApply :
      mutation.apply now
          (s.persistedRevision mutation.group + 1) s =
        (none, t)) :
    t.containerRevision group =
        (s.persistedRevision group +
          if group = mutation.group then 1 else 0) ↔
      s.CountsFor group mutation := by
  unfold InStep at hStep
  rw [← hStep]
  cases applied_of_apply hApply with
  | upsert hUpsert =>
      have hRevision :=
        AccountsContainer.revision_upsert hUpsert
      apply iff_true_intro
      cases group <;>
        simp [containerRevision, hRevision,
          StoreMutation.group]
  | delete =>
      cases group <;>
        simp [containerRevision, CountsFor,
          StoreMutation.group,
          AccountsContainer.revision_delete]
  | updateUnknown hUnknown =>
      cases group <;>
        simp [containerRevision, CountsFor,
          StoreMutation.group, OrderedMap.has, hUnknown]
  | updateExecutionState hCurrent =>
      cases group <;>
        simp [containerRevision, CountsFor,
          StoreMutation.group, OrderedMap.has, hCurrent,
          AccountsContainer.updateExecutionState]
  | replaceAll =>
      apply iff_true_intro
      cases group <;>
        simp [containerRevision, StoreMutation.group, ← hStep]
  | resetObservedStates =>
      apply iff_true_intro
      cases group <;>
        simp [containerRevision, StoreMutation.group]
  | overrideUnknown hUnknown =>
      cases group <;>
        simp [containerRevision, CountsFor,
          StoreMutation.group,
          ConfigContainer.updateAccountOverride]
  | updateAccountOverride hAccount hUpdated =>
      cases group <;>
        simp [containerRevision, CountsFor,
          StoreMutation.group,
          ConfigContainer.updateAccountOverride]
  | updateCategory =>
      exact
        iff_true_intro (s.containerRevision_bumpContainer _ _)
  | updateSubscription =>
      exact
        iff_true_intro (s.containerRevision_bumpContainer _ _)
  | addInvoice =>
      exact
        iff_true_intro (s.containerRevision_bumpContainer _ _)
  | updateSettings =>
      exact
        iff_true_intro (s.containerRevision_bumpContainer _ _)

/- Only a mutation that always counts is refused. -/
theorem countsFor_of_refused
    {s t : StateStore}
    {mutation : StoreMutation}
    {now : Int}
    {nextRevision : Nat}
    {error : StoreError}
    (hApply :
      mutation.apply now nextRevision s = (some error, t))
    (group : ConsistencyGroup) :
    s.CountsFor group mutation := by
  cases mutation with
  | delete id _ => cases hApply
  | updateExecutionState id update _ =>
      change s.updateExecutionState id update now = _ at hApply
      unfold updateExecutionState at hApply
      split at hApply <;> cases hApply
  | updateAccountOverride accountId updates _ =>
      change
        s.updateAccountOverride accountId updates now = _
          at hApply
      unfold updateAccountOverride at hApply
      dsimp only at hApply
      split at hApply <;> cases hApply
  | _ => trivial

theorem inStep_mutate_iff
    {s : StateStore}
    {group : ConsistencyGroup}
    (hStep : s.InStep group)
    (mutation : StoreMutation)
    (now : Int) :
    (s.mutate mutation now).2.InStep group ↔
      s.db.metadata.conflicts mutation.group
          mutation.expectedRevision = true ∨
        s.CountsFor group mutation := by
  rcases mutate_cases s mutation now with
    ⟨hConflict, hEq⟩ | ⟨error, t, hApply, hEq⟩ |
      ⟨t, hApply, hEq⟩
  · rw [hEq]
    exact iff_of_true hStep (.inl hConflict)
  · rw [hEq]
    exact iff_of_true hStep
      (.inr (countsFor_of_refused hApply group))
  · have hNo :
        ¬ s.db.metadata.conflicts mutation.group
          mutation.expectedRevision = true := by
      intro hConflict
      rw [mutate_of_conflict hConflict] at hEq
      cases hEq
    rw [hEq, or_iff_right hNo, ← countsFor_iff hStep hApply]
    unfold InStep
    rw [persistedRevision_setMetadata]
    exact Iff.rfl

------------------------------------------------------------
-- Steps
------------------------------------------------------------

/- The stored revisions start at 1. -/
def Positive (s : StateStore) : Prop :=
  ∀ group, 1 ≤ s.persistedRevision group

/- The stored revision of a group after a mutation. -/
theorem persistedRevision_mutate
    (s : StateStore)
    (mutation : StoreMutation)
    (now : Int)
    (group : ConsistencyGroup) :
    (s.mutate mutation now).2.persistedRevision group =
      s.persistedRevision group +
        if group = mutation.group ∧
            (s.mutate mutation now).1 = none then 1
        else 0 := by
  rcases mutate_cases s mutation now with
    ⟨_, hEq⟩ | ⟨error, t, _, hEq⟩ | ⟨t, _, hEq⟩
  · rw [hEq]
    simp
  · rw [hEq]
    simp
  · rw [hEq, persistedRevision_setMetadata]
    simp

theorem persistedRevision_hydrateBilling
    (s : StateStore)
    (valid stored : Bool)
    (now : Int)
    (group : ConsistencyGroup) :
    (s.hydrateBilling valid stored now).persistedRevision
        group =
      if valid ∧ stored ∧ group = .billing then 1
      else s.persistedRevision group := by
  unfold hydrateBilling
  cases valid with
  | false => simp
  | true =>
      cases stored with
      | false => rfl
      | true =>
          change
            (Metadata.set _ .billing now none
              (some now)).revision group = _
          by_cases hGroup : group = .billing
          · rw [hGroup, Metadata.revision_set]
            simp
          · rw [Metadata.revision_set_of_ne hGroup]
            simp [hGroup, persistedRevision, bumpContainer]

theorem positive_step
    {s : StateStore}
    (hPositive : s.Positive)
    (event : Int × StoreEvent) :
    (s.step event).Positive := by
  intro group
  have hGroup := hPositive group
  rcases event with ⟨now, event⟩
  cases event with
  | mutate mutation =>
      change 1 ≤ (s.mutate mutation now).2.persistedRevision _
      rw [persistedRevision_mutate]
      omega
  | hydrateBilling valid stored =>
      change
        1 ≤ (s.hydrateBilling valid stored
          now).persistedRevision group
      rw [persistedRevision_hydrateBilling]
      split
      · exact Nat.le_refl 1
      · exact hGroup
  | updateBalance id balance currencySymbol => exact hGroup
  | hydrateConfig => exact hGroup
  | hydrate => exact hGroup
  | logout => exact hGroup
  | restart => exact hGroup

theorem positive_reached
    (now : Int)
    (events : List (Int × StoreEvent)) :
    (reached now events).Positive := by
  have hStep :
      ∀ s event, Positive s → (s.step event).Positive :=
    fun _ event hs => positive_step hs event
  exact run_keeps hStep events (fun _ => Nat.le_refl 1)

theorem containerRevision_hydrate
    (s : StateStore)
    (group : ConsistencyGroup) :
    s.hydrate.containerRevision group =
      s.persistedRevision group := by
  cases group <;> rfl

/- Filling counts once, and the reset under the accounts. -/
theorem containerRevision_boot
    (db : Database)
    (now : Int)
    (group : ConsistencyGroup) :
    (boot db now).containerRevision group =
      db.metadata.revision group +
        if group = .accounts then 1 else 0 := by
  cases group <;> rfl

theorem inStep_boot_iff
    (db : Database)
    (now : Int)
    (group : ConsistencyGroup) :
    (boot db now).InStep group ↔ group ≠ .accounts := by
  unfold InStep
  rw [containerRevision_boot]
  change
    db.metadata.revision group + _ =
      db.metadata.revision group ↔ _
  split <;> simp_all

theorem inStep_hydrateBilling_iff
    {s : StateStore}
    {group : ConsistencyGroup}
    (hPositive : s.Positive)
    (hStep : s.InStep group)
    (valid stored : Bool)
    (now : Int) :
    (s.hydrateBilling valid stored now).InStep group ↔
      (group = .billing → valid = false) := by
  have hGroup := hPositive group
  unfold InStep at hStep ⊢
  rw [persistedRevision_hydrateBilling]
  cases valid with
  | false => simp [hydrateBilling, hStep]
  | true =>
      have hCount :
          (s.hydrateBilling true stored now).containerRevision
              group =
            s.persistedRevision group +
              if group = .billing then 1 else 0 := by
        rw [← hStep, ← containerRevision_bumpContainer]
        cases stored <;> cases group <;> rfl
      rw [hCount]
      by_cases hBilling : group = .billing
      · cases stored
        · simp [hBilling]
        · have hBillingRevision : 1 ≤ s.persistedRevision .billing :=
            hPositive .billing
          simp [hBilling]
          omega
      · simp [hBilling]

/- The steps that keep a container in step. -/
theorem inStep_step_iff
    {s : StateStore}
    {group : ConsistencyGroup}
    (hPositive : s.Positive)
    (hStep : s.InStep group)
    (event : Int × StoreEvent) :
    (s.step event).InStep group ↔
      KeepsRevision group s event := by
  rcases event with ⟨now, event⟩
  cases event with
  | mutate mutation =>
      exact inStep_mutate_iff hStep mutation now
  | updateBalance id balance currencySymbol =>
      apply iff_of_true _ trivial
      have hRevision :=
        s.accounts.revision_updateBalance id balance
          currencySymbol
      cases group with
      | accounts => exact hRevision.trans hStep
      | _ => exact hStep
  | hydrateConfig =>
      unfold InStep at hStep
      cases group <;>
        simp_all [InStep, step, KeepsRevision, hydrateConfig,
          ConfigContainer.hydrate, containerRevision,
          persistedRevision]
  | hydrateBilling valid stored =>
      exact inStep_hydrateBilling_iff hPositive hStep valid
        stored now
  | hydrate =>
      exact iff_of_true (containerRevision_hydrate s group)
        trivial
  | logout =>
      unfold InStep at hStep
      change
        s.onLogout.containerRevision group =
          s.persistedRevision group ↔ _
      have hFresh : s.onLogout.containerRevision group = 1 := by
        cases group <;> rfl
      rw [hFresh]
      exact eq_comm
  | restart => exact inStep_boot_iff s.db now group

------------------------------------------------------------
-- Optimistic Locking
------------------------------------------------------------

/- A container in step tells the revision to expect. -/
theorem locks_of_inStep
    {s : StateStore}
    {group : ConsistencyGroup}
    (hStep : s.InStep group) :
    Locks group s := by
  intro mutation now hGroup
  unfold InStep at hStep
  rw [hStep]
  constructor
  · intro hExpected
    unfold mutate executeGroupTransaction
    rw [hExpected, hGroup]
    simp [Metadata.conflicts, persistedRevision]
  · intro revision hExpected hEarlier
    have hConflict :
        s.db.metadata.conflicts mutation.group
          mutation.expectedRevision = true := by
      rw [hExpected, hGroup]
      simpa [Metadata.conflicts, persistedRevision] using
        Nat.ne_of_lt hEarlier
    rw [mutate_of_conflict hConflict, hExpected, hGroup]
    rfl

/- A step that is no hydration only raises the revision. -/
theorem raisesOnce_of_keeps
    {s : StateStore}
    {group : ConsistencyGroup}
    {event : Int × StoreEvent}
    (hKeeps : KeepsRevision group s event) :
    RaisesOnce group s event := by
  rcases event with ⟨now, event⟩
  cases event with
  | mutate mutation =>
      have hRaised :=
        persistedRevision_mutate s mutation now group
      refine ⟨Nat.le.intro hRaised.symm, ?_⟩
      intro other hOther hGroup hAccepted
      cases hOther
      rw [if_pos ⟨hGroup.symm, hAccepted⟩] at hRaised
      exact hRaised
  | hydrateBilling valid stored =>
      refine ⟨Nat.le_of_eq ?_, fun _ hOther => by cases hOther⟩
      change
        _ = (s.hydrateBilling valid stored
          now).persistedRevision group
      rw [persistedRevision_hydrateBilling]
      have hValid : group = .billing → valid = false := hKeeps
      rw [if_neg]
      rintro ⟨hTrue, _, hBilling⟩
      rw [hValid hBilling] at hTrue
      cases hTrue
  | _ =>
      exact ⟨Nat.le_refl _, fun _ hOther => by cases hOther⟩

theorem oneRevision_iff
    {s : StateStore}
    {group : ConsistencyGroup}
    (hPositive : s.Positive)
    (hStep : s.InStep group)
    (event : Int × StoreEvent) :
    OneRevision group s event ↔
      KeepsRevision group s event := by
  rw [← inStep_step_iff hPositive hStep]
  constructor
  · intro hOne
    exact hOne.inStep
  · intro hNext
    exact
      { inStep := hNext
        raisesOnce :=
          raisesOnce_of_keeps
            ((inStep_step_iff hPositive hStep event).mp hNext)
        locks := locks_of_inStep hNext }

/-
  In a new process every container but the one of the
  accounts is in step. From a state in which a container is
  in step, the revision of its group is one in exactly the
  runs whose steps all count alike.
-/
theorem one_revision_iff
    (now : Int)
    (past events : List (Int × StoreEvent))
    (group : ConsistencyGroup) :
    ((reached now []).InStep group ↔ group ≠ .accounts) ∧
    ((reached now past).InStep group ∧
        Locks group (reached now past) ∧
          Along step (OneRevision group) (reached now past)
            events ↔
      (reached now past).InStep group ∧
        Along step (KeepsRevision group) (reached now past)
          events) := by
  refine ⟨inStep_boot_iff _ now group, ?_⟩
  apply and_congr_right
  intro hStart
  rw [and_iff_right (locks_of_inStep hStart)]
  have hPositive := positive_reached now past
  generalize reached now past = s at hStart hPositive
  induction events generalizing s with
  | nil => exact Iff.rfl
  | cons event events ih =>
      have hEvent := oneRevision_iff hPositive hStart event
      constructor
      · rintro ⟨hOne, hRest⟩
        exact ⟨hEvent.mp hOne,
          (ih _ hOne.inStep
            (positive_step hPositive event)).mp hRest⟩
      · rintro ⟨hKeeps, hRest⟩
        have hOne := hEvent.mpr hKeeps
        exact ⟨hOne,
          (ih _ hOne.inStep
            (positive_step hPositive event)).mpr hRest⟩

/-
  A new process reports the revision 2 of its accounts, and
  rejects a mutation that expects it. A hydration takes the
  stored revision of the billing group back to 1.
-/
theorem reported_revision_rejected :
    (reached 0 []).containerRevision .accounts = 2 ∧
      ((reached 0 []).mutate
        (.upsert newAccount (some 2)) 1).1 =
          some (.revisionConflict .accounts 2 1) ∧
      (reached 0
        [(1, .mutate (.addInvoice false))]).persistedRevision
          .billing = 2 ∧
      (reached 0
        [(1, .mutate (.addInvoice false)),
          (2, .hydrateBilling true true)]).persistedRevision
          .billing = 1 := by
  decide +kernel

end StateStore

end Store

end ControlPlane
