import ControlPlane.Data.Memo
import ControlPlane.Data.Run
import ControlPlane.Store.FailedCalls
import ControlPlane.Store.PreludeStore
import ControlPlane.Store.Separation

/-
  Preludes that are returned again.

  A call that drops no payload is to change a revision with
  whatever else it changes. A balance that is updated counts
  nowhere, nor does a list that a container cannot be filled
  with to its end, nor the user of a store that could not be
  hydrated. What a caller tells of the runtime is no part of
  the key, but for the state of the lifecycle.

  Main declarations:
    * `PreludeStore.touches`
    * `Tracked.step` and `Tracked.Current`
    * `PreludeStore.counts_act`
    * `PreludeStore.preludes_are_fresh`
-/

------------------------------------------------------------
-- What The Key Does Not Count
------------------------------------------------------------

namespace ControlPlane

namespace Mutators

namespace PreludeStore

/- The balance of a known account is another one after it. -/
def changesBalance
    (c : AccountsContainer)
    (id balance currencySymbol : JsValue) : Bool :=
  c.accounts.has id &&
    match balance.toNumber with
    | .error _ => false
    | .ok balance =>
        decide (c.getBalance id ≠
          (balance.orZero,
            currencySymbol.orDefault (.text "₦")))

/- The subscription is kept, and then an invoice refused. -/
def breaksOffBilling
    (s : PreludeStore)
    (subscription invoices : JsValue) : Bool :=
  subscription.truthy &&
    (BillingContainer.hydratedSubscription s.billingUserId
      subscription).toBool &&
    (BillingContainer.putInvoices invoices.items
      .empty).1.isSome

/-
  The call changes what a payload is made of, or may leave it
  changed, and neither drops the payload nor counts.
-/
def touches
    (d : Dialect)
    (s : PreludeStore)
    (occasion : Occasion) : PreludeEvent → Bool
| .operate (.mutate (.transaction mutation)) =>
    mutation.breaksOff d.database s.users.store occasion
| .operate (.mutate (.updateBalance id balance symbol)) =>
    changesBalance s.users.store.accounts id balance symbol
| .replacePlatformRegistry platforms saved _ =>
    saved.isNone &&
      (s.catalogs.replacePlatformRegistry platforms).1.isSome
| .hydrateBilling subscription invoices =>
    s.breaksOffBilling subscription invoices
| .hydrate userId hydrated =>
    !hydrated.toBool &&
      decide (presentOr userId s.users.userId ≠ s.users.userId)
| .boot userId opened hydrated =>
    !(opened.isNone && hydrated.toBool) &&
      decide (presentOr userId s.users.userId ≠ s.users.userId)
| _ => false

end PreludeStore

/-
  A store with a record of its run: what the kept payload was
  told of the runtime, and whether something it was made of
  has been touched since.
-/
structure Tracked where
  store : PreludeStore
  builtFrom : Option RuntimeReads
  touched : Bool

namespace Tracked

/- Nothing is kept, and a payload can be made. -/
def rebuilds
    (nodeEnv : JsValue)
    (s : PreludeStore)
    (security : SecurityView)
    (runtimeState : RuntimeState) : Bool :=
  let key :=
    PreludeProjection.revisionKey s.containers security
      runtimeState
  (s.preludeProjection.hit? key).isNone &&
    (s.view.sections nodeEnv key.lifecycleState
      runtimeState.reads).toBool

def step
    (d : Dialect)
    (nodeEnv : JsValue)
    (t : Tracked)
    (event : Occasion × PreludeEvent) : Tracked :=
  let next := t.store.step d nodeEnv event
  match event with
  | (_, .getPreludeSnapshot security runtimeState) =>
      if rebuilds nodeEnv t.store security runtimeState then
        ⟨next, some runtimeState.reads, false⟩
      else ⟨next, t.builtFrom, t.touched⟩
  | (occasion, called) =>
      if t.store.invalidates d occasion called then
        ⟨next, none, false⟩
      else
        ⟨next, t.builtFrom,
          t.touched || t.store.touches d occasion called⟩

/-
  A payload that is returned again was told the same of the
  runtime, and nothing it was made of has been touched.
-/
def Current
    (t : Tracked)
    (event : Occasion × PreludeEvent) : Prop :=
  match event with
  | (_, .getPreludeSnapshot security runtimeState) =>
      (t.store.preludeProjection.hit?
          (PreludeProjection.revisionKey t.store.containers
            security runtimeState)).isSome = true →
        t.touched = false ∧
          t.builtFrom = some runtimeState.reads
  | _ => True

end Tracked

------------------------------------------------------------
-- Mutations That Drop Nothing
------------------------------------------------------------

namespace GroupMutation

variable {σ : Type}
variable {sql : Sqlite σ} {s : StateStore σ}
variable {occasion : Occasion} {mutation : GroupMutation}

theorem perform_of_outcome_none
    (hNone : mutation.outcome? sql s occasion = none) :
    (s.perform sql occasion (.transaction mutation)).2 = s := by
  apply StateStore.executeGroupTransaction_refused
  intro current hCurrent
  unfold outcome? at hNone
  rw [hCurrent] at hNone
  dsimp only at hNone
  split at hNone
  · rename_i hConflicts
    exact .inl hConflicts
  · cases hApply : mutation.apply sql s occasion (current + 1)
      with
    | error error => exact .inr ⟨error, rfl⟩
    | ok outcome =>
        rw [hApply] at hNone
        cases hNone

theorem perform_of_outcome_some
    {outcome : Mutated σ}
    (hSome : mutation.outcome? sql s occasion = some outcome) :
    (∃ nextRevision,
      mutation.apply sql s occasion nextRevision =
        .ok outcome) ∧
      ∃ tables,
        (s.perform sql occasion (.transaction mutation)).2 =
          outcome.2.withTables tables := by
  unfold outcome? at hSome
  change _ ∧ ∃ tables,
    (s.executeGroupTransaction sql occasion mutation.group
      mutation.expectedRevision _).2 = _
  unfold StateStore.executeGroupTransaction
  cases hCurrent : s.currentRevision sql mutation.group with
  | error error =>
      rw [hCurrent] at hSome
      cases hSome
  | ok current =>
      rw [hCurrent] at hSome
      dsimp only at hSome ⊢
      split at hSome
      · cases hSome
      · rename_i hConflicts
        rw [if_neg hConflicts]
        cases hApply :
            mutation.apply sql s occasion (current + 1) with
        | error error =>
            rw [hApply] at hSome
            cases hSome
        | ok found =>
            rw [hApply] at hSome
            cases hSome
            refine ⟨⟨_, hApply⟩, ?_⟩
            rcases outcome with ⟨answer, t⟩
            cases answer with
            | error error => exact ⟨_, rfl⟩
            | ok result =>
                cases occasion.closing with
                | none => exact ⟨_, rfl⟩
                | some error => exact ⟨_, rfl⟩

/- Nothing is written for an account that is not found. -/
theorem apply_of_not_finds
    {nextRevision : Nat}
    {outcome : Mutated σ}
    (hFinds : mutation.finds s = false)
    (hApply :
      mutation.apply sql s occasion nextRevision =
        .ok outcome) :
    outcome.2 = s := by
  cases mutation with
  | updateExecutionState id stateUpdate expected =>
      change (s.accounts.accounts.get? id).isSome = false
        at hFinds
      change s.updateExecutionState sql occasion id stateUpdate =
        _ at hApply
      unfold StateStore.updateExecutionState at hApply
      rw [Option.isSome_eq_false_iff, Option.isNone_iff_eq_none]
        at hFinds
      rw [hFinds] at hApply
      cases hApply
      rfl
  | _ => cases hFinds

/- A mutation that neither ends nor breaks off writes nothing. -/
theorem perform_of_not_invalidates
    (hKept : mutation.invalidates sql s occasion = false)
    (hWhole : mutation.breaksOff sql s occasion = false) :
    ∃ tables,
      (s.perform sql occasion (.transaction mutation)).2 =
        s.withTables tables := by
  unfold invalidates at hKept
  unfold breaksOff at hWhole
  cases hOutcome : mutation.outcome? sql s occasion with
  | none => exact ⟨s.tables, perform_of_outcome_none hOutcome⟩
  | some outcome =>
      rcases perform_of_outcome_some hOutcome with
        ⟨⟨nextRevision, hApply⟩, tables, hPerform⟩
      rw [hOutcome] at hKept hWhole
      rcases outcome with ⟨answer, t⟩
      cases answer with
      | error error => cases hWhole
      | ok result =>
          have hSame := apply_of_not_finds hKept hApply
          dsimp only at hSame
          rw [hSame] at hPerform
          exact ⟨tables, hPerform⟩

end GroupMutation

------------------------------------------------------------
-- Calls That Count
------------------------------------------------------------

namespace PreludeStore

/- Nothing is changed that has not been counted. -/
def Counts (s t : PreludeStore) : Prop :=
  Memo.Advances revisions view s t

theorem counts_of_view
    {s t : PreludeStore}
    (hRevisions : t.revisions = s.revisions)
    (hView : t.view = s.view) :
    s.Counts t :=
  .of_view (le_of_eq hRevisions.symm) hView

theorem counts_of_containers
    {s t : PreludeStore}
    (hSame : t.containers = s.containers) :
    s.Counts t :=
  counts_of_view
    (congrArg PreludeContainers.revisions hSame)
    (congrArg PreludeContainers.view hSame)

/- One revision is higher, and none of them lower. -/
theorem counts_of_counted
    {s t : PreludeStore}
    (part : PreludeContainers.Revisions → Nat)
    (hLe : s.revisions ≤ t.revisions)
    (hPart : part s.revisions < part t.revisions) :
    s.Counts t := by
  refine .of_lt (lt_of_le_of_ne hLe ?_)
  intro hSame
  rw [hSame] at hPart
  exact lt_irrefl _ hPart

theorem counts_of_catalogs
    {s : PreludeStore}
    {catalogs : CatalogsContainer}
    (hRevision :
      catalogs.revision = s.catalogs.revision + 1) :
    s.Counts { s with catalogs := catalogs } := by
  have hMore : s.catalogs.revision < catalogs.revision := by
    omega
  exact counts_of_counted (fun r => r.2.2.2.1)
    ⟨le_rfl, le_rfl, le_rfl, hMore.le, le_rfl, le_rfl⟩ hMore

theorem counts_of_notifications
    {s : PreludeStore}
    {notifications : NotificationsContainer}
    {tables : UserTables}
    (hRevision :
      notifications.revision =
        s.users.notifications.revision + 1) :
    s.Counts
      { s with
          users :=
            (s.users.withNotifications notifications).withTables
              tables } := by
  have hMore :
      s.users.notifications.revision <
        notifications.revision := by
    omega
  exact counts_of_counted (fun r => r.2.2.2.2.2)
    ⟨le_rfl, le_rfl, le_rfl, le_rfl, le_rfl, hMore.le⟩ hMore

theorem counts_of_config
    {s : PreludeStore}
    {config : ConfigContainer}
    {tables : UserTables}
    (hRevision :
      config.revision = s.users.store.config.revision + 1) :
    s.Counts
      (s.withStore
        { s.users.store with
            config := config
            tables := tables }) := by
  have hMore :
      s.users.store.config.revision < config.revision := by
    omega
  exact counts_of_counted (fun r => r.2.1)
    ⟨le_rfl, hMore.le, le_rfl, le_rfl, le_rfl, le_rfl⟩ hMore

theorem counts_of_billing
    {s : PreludeStore}
    {billing : BillingContainer}
    {tables : UserTables}
    (hRevision :
      billing.revision = s.users.store.billing.revision + 1) :
    s.Counts
      (s.withStore
        { s.users.store with
            billing := billing
            tables := tables }) := by
  have hMore :
      s.users.store.billing.revision < billing.revision := by
    omega
  exact counts_of_counted (fun r => r.2.2.1)
    ⟨le_rfl, le_rfl, hMore.le, le_rfl, le_rfl, le_rfl⟩ hMore

/- An update that shows the same balance changes no view. -/
theorem counts_updateBalance
    {d : Dialect}
    {s : PreludeStore}
    {occasion : Occasion}
    {id balance symbol : JsValue}
    (hSame :
      changesBalance s.users.store.accounts id balance symbol =
        false) :
    s.Counts
      (s.act d occasion
        (.operate (.mutate
          (.updateBalance id balance symbol)))) := by
  change s.Counts
    (s.withStore
      (s.users.store.updateBalance occasion id balance
        symbol).2)
  unfold StateStore.updateBalance AccountsContainer.updateBalance
  unfold changesBalance at hSame
  cases hHas : s.users.store.accounts.accounts.has id with
  | false => exact counts_of_containers rfl
  | true =>
      rw [hHas] at hSame
      rw [if_pos rfl]
      cases hNumber : balance.toNumber with
      | error error => exact counts_of_containers rfl
      | ok n =>
          rw [hNumber, Bool.true_and] at hSame
          have hShown :
              s.users.store.accounts.getBalance id =
                (n.orZero, symbol.orDefault (.text "₦")) :=
            Decidable.not_not.mp (of_decide_eq_false hSame)
          refine counts_of_view rfl ?_
          exact congrArg
            (fun shown =>
              { s.view with
                  viewportAccounts :=
                    s.users.store.accounts.accounts.values.map
                      shown })
            (viewportAccount_setBalance
              ⟨n.orZero, symbol.orDefault (.text "₦"),
                .text occasion.now, false⟩ hShown)

theorem writeAfter_eq
    (s : UserStore)
    (answer : JsValue)
    (written : Except JsError UserTables) :
    ∃ tables,
      (s.writeAfter answer written).2 = s.withTables tables := by
  cases written with
  | error error => exact ⟨s.tables, rfl⟩
  | ok tables => exact ⟨tables, rfl⟩

/- A change of the notifications is written after it. -/
theorem counts_writeAfter
    {s : PreludeStore}
    {notifications : NotificationsContainer}
    (answer : JsValue)
    (written : Except JsError UserTables)
    (hRevision :
      notifications.revision =
        s.users.notifications.revision + 1) :
    s.Counts
      { s with
          users :=
            ((s.users.withNotifications
              notifications).writeAfter answer written).2 } := by
  rcases writeAfter_eq
      (s.users.withNotifications notifications) answer written
    with ⟨tables, hTables⟩
  rw [hTables]
  exact counts_of_notifications hRevision

theorem counts_addNotification
    (d : Dialect)
    (s : PreludeStore)
    (occasion : Occasion)
    (notif : JsValue) :
    s.Counts
      (s.act d occasion
        (.operate (.addNotification notif))) := by
  change s.Counts
    { s with
        users := (s.users.addNotification d occasion notif).2 }
  unfold UserStore.addNotification
  cases hAdd : s.users.notifications.add occasion notif with
  | error error => exact counts_of_containers rfl
  | ok added =>
      unfold NotificationsContainer.add at hAdd
      rcases bind_eq_ok.mp hAdd with ⟨_, _, hAdd⟩
      cases hAdd
      exact counts_writeAfter _ _ rfl

theorem counts_markRead
    (d : Dialect)
    (s : PreludeStore)
    (occasion : Occasion)
    (id : JsValue) :
    s.Counts
      (s.act d occasion (.operate (.markRead id))) := by
  change s.Counts
    { s with users := (s.users.markRead d id).2 }
  unfold UserStore.markRead
  cases hMark : s.users.notifications.markRead id with
  | none => exact counts_of_containers rfl
  | some notifications =>
      unfold NotificationsContainer.markRead at hMark
      split at hMark
      · cases hMark
      · split at hMark
        · cases hMark
        · cases hMark
          exact counts_writeAfter _ _ rfl

theorem counts_markAllRead
    (d : Dialect)
    (s : PreludeStore)
    (occasion : Occasion) :
    s.Counts (s.act d occasion (.operate .markAllRead)) := by
  change s.Counts
    { s with users := (s.users.markAllRead d).2 }
  unfold UserStore.markAllRead
  cases hMark : s.users.notifications.markAllRead with
  | none => exact counts_of_containers rfl
  | some notifications =>
      unfold NotificationsContainer.markAllRead at hMark
      split at hMark
      · cases hMark
      · cases hMark
        exact counts_writeAfter _ _ rfl

theorem counts_deleteNotification
    (d : Dialect)
    (s : PreludeStore)
    (occasion : Occasion)
    (id : JsValue) :
    s.Counts
      (s.act d occasion
        (.operate (.deleteNotification id))) := by
  change s.Counts
    { s with users := (s.users.deleteNotification id).2 }
  unfold UserStore.deleteNotification
  cases hDelete : s.users.notifications.delete id with
  | none => exact counts_of_containers rfl
  | some notifications =>
      unfold NotificationsContainer.delete at hDelete
      rcases Option.map_eq_some_iff.mp hDelete with
        ⟨record, _, rfl⟩
      have hRevision :
          { s.users.notifications.dropped id record with
              revision :=
                s.users.notifications.revision + 1 }.revision =
            s.users.notifications.revision + 1 :=
        rfl
      exact counts_of_notifications hRevision

/- What a mutation writes it counts, or it drops the payload. -/
theorem counts_transaction
    {d : Dialect}
    {s : PreludeStore}
    {occasion : Occasion}
    {mutation : GroupMutation}
    (hKept :
      mutation.invalidates d.database s.users.store occasion =
        false)
    (hWhole :
      mutation.breaksOff d.database s.users.store occasion =
        false) :
    s.Counts
      (s.act d occasion
        (.operate (.mutate (.transaction mutation)))) := by
  rcases GroupMutation.perform_of_not_invalidates hKept hWhole
    with ⟨tables, hPerform⟩
  change s.Counts
    (s.withStore
      (s.users.store.perform d.database occasion
        (.transaction mutation)).2)
  rw [hPerform]
  exact counts_of_containers rfl

theorem counts_withCatalogs
    {s : PreludeStore}
    {replaced : Except JsError CatalogsContainer}
    (saved : Option JsError)
    (hReplaced :
      ∀ catalogs, replaced = .ok catalogs →
        catalogs.revision = s.catalogs.revision + 1) :
    s.Counts (s.withCatalogs saved replaced) := by
  cases saved with
  | some error => exact counts_of_containers rfl
  | none =>
      cases replaced with
      | error error => exact counts_of_containers rfl
      | ok catalogs =>
          exact counts_of_catalogs (hReplaced catalogs rfl)

theorem counts_replacePlansCatalog
    (s : PreludeStore)
    (catalog : JsValue)
    (saved : Option JsError) :
    s.Counts
      (s.withCatalogs saved
        (s.catalogs.replacePlansCatalog catalog)) := by
  apply counts_withCatalogs
  intro catalogs hReplace
  unfold CatalogsContainer.replacePlansCatalog at hReplace
  rcases bind_eq_ok.mp hReplace with ⟨_, _, hReplace⟩
  cases hReplace
  rfl

theorem counts_replaceStrategyCatalog
    (s : PreludeStore)
    (catalog : JsValue)
    (saved : Option JsError) :
    s.Counts
      (s.withCatalogs saved
        (s.catalogs.replaceStrategyCatalog catalog)) := by
  apply counts_withCatalogs
  intro catalogs hReplace
  unfold CatalogsContainer.replaceStrategyCatalog at hReplace
  rcases bind_eq_ok.mp hReplace with ⟨_, _, hReplace⟩
  cases hReplace
  rfl

theorem revision_replacePlatformRegistry
    {c : CatalogsContainer}
    {platforms : JsValue}
    (hWhole : (c.replacePlatformRegistry platforms).1 = none) :
    (c.replacePlatformRegistry platforms).2.revision =
      c.revision + 1 := by
  unfold CatalogsContainer.replacePlatformRegistry
    at hWhole ⊢
  cases hItems : iterated platforms with
  | error error =>
      rw [hItems] at hWhole
      cases hWhole
  | ok items =>
      rw [hItems] at hWhole
      dsimp only at hWhole ⊢
      cases hPut : CatalogsContainer.putPlatforms items .empty
        with
      | mk answer filled =>
          rw [hPut] at hWhole
          cases answer with
          | some error => cases hWhole
          | none => rfl

theorem counts_replacePlatformRegistry
    {d : Dialect}
    {s : PreludeStore}
    {occasion : Occasion}
    {platforms : JsValue}
    {saved : Option JsError}
    (stored : Option JsError)
    (hWhole :
      (saved.isNone &&
        (s.catalogs.replacePlatformRegistry
          platforms).1.isSome) = false) :
    s.Counts
      (s.act d occasion
        (.replacePlatformRegistry platforms saved stored)) := by
  cases saved with
  | some error => exact counts_of_containers rfl
  | none =>
      rw [Option.isNone_none, Bool.true_and,
        Option.isSome_eq_false_iff, Option.isNone_iff_eq_none]
        at hWhole
      exact counts_of_catalogs
        (revision_replacePlatformRegistry hWhole)

/- Without overrides nothing breaks off a configuration. -/
theorem counts_hydrateConfig
    (d : Dialect)
    (s : PreludeStore)
    (occasion : Occasion)
    (globalConfig : JsValue) :
    s.Counts (s.hydrateConfig d occasion globalConfig) := by
  unfold hydrateConfig
  split
  · exact counts_of_containers rfl
  · unfold ConfigContainer.hydrate
    cases ConfigContainer.hydratedConfig globalConfig with
    | error error => exact counts_of_containers rfl
    | ok config => exact counts_of_config rfl

theorem counts_hydrateBilling
    {d : Dialect}
    {s : PreludeStore}
    {occasion : Occasion}
    {subscription invoices : JsValue}
    (hWhole :
      s.breaksOffBilling subscription invoices = false) :
    s.Counts
      (s.hydrateBilling d occasion subscription invoices) := by
  unfold hydrateBilling BillingContainer.hydrate
  unfold breaksOffBilling at hWhole
  cases hTruthy : subscription.truthy with
  | false => exact counts_of_containers rfl
  | true =>
      rw [hTruthy] at hWhole
      cases hKept :
          BillingContainer.hydratedSubscription s.billingUserId
            subscription with
      | error error => exact counts_of_containers rfl
      | ok kept =>
          rw [hKept] at hWhole
          cases hPut :
              BillingContainer.putInvoices invoices.items
                .empty with
          | mk answer filled =>
              rw [hPut] at hWhole
              cases answer with
              | some error => cases hWhole
              | none => exact counts_of_billing rfl

/- A store that is not hydrated has the user it had. -/
theorem counts_withUser
    {s : PreludeStore}
    {userId : Option String}
    (hUser :
      presentOr userId s.users.userId = s.users.userId) :
    s.Counts (s.withUser userId) := by
  apply counts_of_containers
  unfold withUser
  rw [hUser]
  rfl

/- A call that is not counted drops the payload or touches it. -/
theorem counts_act
    {d : Dialect}
    {s : PreludeStore}
    {occasion : Occasion}
    {called : PreludeEvent}
    (hKept : s.invalidates d occasion called = false)
    (hWhole : s.touches d occasion called = false) :
    s.Counts (s.act d occasion called) := by
  cases called with
  | operate operation =>
      cases operation with
      | mutate call =>
          cases call with
          | transaction mutation =>
              exact counts_transaction hKept hWhole
          | updateBalance id balance symbol =>
              exact counts_updateBalance hWhole
      | addNotification notif =>
          exact counts_addNotification d s occasion notif
      | markRead id => exact counts_markRead d s occasion id
      | markAllRead => exact counts_markAllRead d s occasion
      | deleteNotification id =>
          exact counts_deleteNotification d s occasion id
  | setLifecycleState refused => exact counts_of_containers rfl
  | replacePlansCatalog catalog saved stored =>
      exact counts_replacePlansCatalog s catalog saved
  | replacePlatformRegistry platforms saved stored =>
      exact counts_replacePlatformRegistry stored hWhole
  | replaceStrategyCatalog catalog saved =>
      exact counts_replaceStrategyCatalog s catalog saved
  | hydrateConfig globalConfig =>
      exact counts_hydrateConfig d s occasion globalConfig
  | hydrateBilling subscription invoices =>
      exact counts_hydrateBilling hWhole
  | hydrate userId hydrated =>
      cases hydrated with
      | ok h => cases hKept
      | error error =>
          exact counts_withUser
            (Decidable.not_not.mp (of_decide_eq_false hWhole))
  | boot userId opened hydrated =>
      cases opened with
      | some refused =>
          exact counts_withUser
            (Decidable.not_not.mp (of_decide_eq_false hWhole))
      | none =>
          cases hydrated with
          | ok h => cases hKept
          | error error =>
              exact counts_withUser
                (Decidable.not_not.mp
                  (of_decide_eq_false hWhole))
  | onLogout targetUserId =>
      change (s.users.onLogout d occasion targetUserId).1.toBool =
        false at hKept
      unfold act UserStore.onLogout
      unfold UserStore.onLogout at hKept
      dsimp only at hKept ⊢
      split at hKept
      · exact counts_of_containers rfl
      · cases hKept
  | purgeAll purged =>
      cases purged with
      | ok tables => cases hKept
      | error error => exact counts_of_containers rfl
  | close => cases hKept
  | getPreludeSnapshot security runtimeState =>
      exact counts_of_containers rfl

/- The payload that is kept stays where it is meanwhile. -/
theorem act_preludeProjection
    (d : Dialect)
    (s : PreludeStore)
    (occasion : Occasion)
    (called : PreludeEvent) :
    (s.act d occasion called).preludeProjection =
      s.preludeProjection := by
  cases called with
  | replacePlansCatalog catalog saved stored =>
      change (s.withCatalogs saved _).preludeProjection = _
      unfold withCatalogs
      split <;> rfl
  | replaceStrategyCatalog catalog saved =>
      change (s.withCatalogs saved _).preludeProjection = _
      unfold withCatalogs
      split <;> rfl
  | replacePlatformRegistry platforms saved stored =>
      cases saved <;> rfl
  | hydrateConfig globalConfig =>
      change (s.hydrateConfig d occasion
        globalConfig).preludeProjection = _
      unfold hydrateConfig
      split
      · rfl
      · split <;> rfl
  | hydrateBilling subscription invoices =>
      change (s.hydrateBilling d occasion subscription
        invoices).preludeProjection = _
      unfold hydrateBilling
      split
      · rfl
      · split <;> rfl
  | hydrate userId hydrated => cases hydrated <;> rfl
  | boot userId opened hydrated =>
      cases opened <;> cases hydrated <;> rfl
  | purgeAll purged => cases purged <;> rfl
  | _ => rfl

end PreludeStore

------------------------------------------------------------
-- The Payload That Is Kept
------------------------------------------------------------

namespace Tracked

variable {d : Dialect} {nodeEnv : JsValue} {t : Tracked}

/-
  Unless something has been touched, the payload was made of
  a view that is the one of the containers as long as they
  count the same.
-/
def Inv (nodeEnv : JsValue) (t : Tracked) : Prop :=
  t.touched = false →
    ∀ key payload,
      t.store.preludeProjection.cached = some (key, payload) →
        ∃ seen reads sections made,
          t.builtFrom = some reads ∧
            seen.sections nodeEnv key.lifecycleState reads =
              .ok sections ∧
            payload = sections.envelope made ∧
            Memo.Upholds PreludeStore.revisions
              PreludeStore.view t.store key.revisions seen

/- A snapshot that makes no payload changes nothing. -/
theorem getPreludeSnapshot_of_not_rebuilds
    {s : PreludeStore}
    {security : SecurityView}
    {runtimeState : RuntimeState}
    (now : String)
    (hKept :
      rebuilds nodeEnv s security runtimeState = false) :
    (s.getPreludeSnapshot nodeEnv security runtimeState now).2 =
      s := by
  unfold rebuilds at hKept
  unfold PreludeStore.getPreludeSnapshot
  dsimp only at hKept ⊢
  cases hHit :
      s.preludeProjection.hit?
        (PreludeProjection.revisionKey s.containers security
          runtimeState) with
  | some payload =>
      rw [PreludeProjection.project_of_hit nodeEnv now hHit]
  | none =>
      rw [hHit, Option.isNone_none, Bool.true_and] at hKept
      cases hSections :
          s.containers.view.sections nodeEnv
            (PreludeProjection.effectiveLifecycleState
              s.containers security runtimeState)
            runtimeState.reads with
      | error error =>
          rw [PreludeProjection.project_of_error now hHit
            hSections]
      | ok sections =>
          change (s.containers.view.sections nodeEnv
            (PreludeProjection.effectiveLifecycleState
              s.containers security runtimeState)
            runtimeState.reads).toBool = false at hKept
          rw [hSections] at hKept
          cases hKept

/- A payload that is made has been told what the call tells. -/
theorem inv_of_rebuilds
    {security : SecurityView}
    {runtimeState : RuntimeState}
    (occasion : Occasion)
    (hRebuilds :
      rebuilds nodeEnv t.store security runtimeState = true) :
    Inv nodeEnv
      ⟨(t.store.getPreludeSnapshot nodeEnv security
          runtimeState occasion.now).2,
        some runtimeState.reads, false⟩ := by
  unfold rebuilds at hRebuilds
  dsimp only at hRebuilds
  rw [Bool.and_eq_true, Option.isNone_iff_eq_none]
    at hRebuilds
  rcases hRebuilds with ⟨hMiss, hMade⟩
  cases hSections :
      t.store.containers.view.sections nodeEnv
        (PreludeProjection.effectiveLifecycleState
          t.store.containers security runtimeState)
        runtimeState.reads with
  | error error =>
      change (t.store.containers.view.sections nodeEnv
        (PreludeProjection.effectiveLifecycleState
          t.store.containers security runtimeState)
        runtimeState.reads).toBool = true at hMade
      rw [hSections] at hMade
      cases hMade
  | ok sections =>
      intro _ key payload hCached
      unfold PreludeStore.getPreludeSnapshot at hCached ⊢
      dsimp only at hCached ⊢
      rw [PreludeProjection.project_of_miss occasion.now hMiss
        hSections] at hCached ⊢
      cases hCached
      exact ⟨t.store.view, runtimeState.reads, sections,
        occasion.now, rfl, hSections, rfl, .now _ _ _⟩

theorem step_of_called
    (t : Tracked)
    (occasion : Occasion)
    {called : PreludeEvent}
    (hCalled : called.isSnapshot = false) :
    t.step d nodeEnv (occasion, called) =
      if t.store.invalidates d occasion called then
        ⟨{ t.store.act d occasion called with
            preludeProjection := .invalidated }, none, false⟩
      else
        ⟨t.store.act d occasion called, t.builtFrom,
          t.touched || t.store.touches d occasion called⟩ := by
  have hStep :
      t.step d nodeEnv (occasion, called) =
        if t.store.invalidates d occasion called then
          ⟨t.store.step d nodeEnv (occasion, called), none,
            false⟩
        else
          ⟨t.store.step d nodeEnv (occasion, called),
            t.builtFrom,
            t.touched || t.store.touches d occasion called⟩ := by
    cases called with
    | getPreludeSnapshot security runtimeState => cases hCalled
    | _ => rfl
  have hStore :
      t.store.step d nodeEnv (occasion, called) =
        if t.store.invalidates d occasion called then
          { t.store.act d occasion called with
              preludeProjection := .invalidated }
        else t.store.act d occasion called := by
    cases called with
    | getPreludeSnapshot security runtimeState => cases hCalled
    | _ => rfl
  rw [hStep, hStore]
  cases t.store.invalidates d occasion called <;> rfl

theorem inv_called
    {called : PreludeEvent}
    (occasion : Occasion)
    (hInv : Inv nodeEnv t)
    (hCalled : called.isSnapshot = false) :
    Inv nodeEnv (t.step d nodeEnv (occasion, called)) := by
  rw [step_of_called t occasion hCalled]
  cases hKept : t.store.invalidates d occasion called with
  | true =>
      intro _ key payload hCached
      cases hCached
  | false =>
      intro hTouched key payload hCached
      rcases Bool.or_eq_false_iff.mp hTouched with
        ⟨hBefore, hWhole⟩
      change (t.store.act d occasion
        called).preludeProjection.cached = _ at hCached
      rw [PreludeStore.act_preludeProjection] at hCached
      rcases hInv hBefore key payload hCached with
        ⟨seen, reads, sections, made, hBuilt, hMade, hPayload,
          hUpholds⟩
      exact ⟨seen, reads, sections, made, hBuilt, hMade,
        hPayload,
        hUpholds.of_advances
          (PreludeStore.counts_act hKept hWhole)⟩

theorem inv_step
    (d : Dialect)
    (event : Occasion × PreludeEvent)
    (hInv : Inv nodeEnv t) :
    Inv nodeEnv (t.step d nodeEnv event) := by
  rcases event with ⟨occasion, called⟩
  cases called with
  | getPreludeSnapshot security runtimeState =>
      change Inv nodeEnv
        (if rebuilds nodeEnv t.store security runtimeState then
          ⟨(t.store.getPreludeSnapshot nodeEnv security
              runtimeState occasion.now).2,
            some runtimeState.reads, false⟩
        else
          ⟨(t.store.getPreludeSnapshot nodeEnv security
              runtimeState occasion.now).2,
            t.builtFrom, t.touched⟩)
      cases hRebuilds :
          rebuilds nodeEnv t.store security runtimeState with
      | true => exact inv_of_rebuilds occasion hRebuilds
      | false =>
          rw [getPreludeSnapshot_of_not_rebuilds occasion.now
            hRebuilds]
          exact hInv
  | _ => exact inv_called occasion hInv rfl

------------------------------------------------------------
-- Payloads That Are Returned Again
------------------------------------------------------------

/- A payload is as fresh as the one it was kept for. -/
theorem returnsFresh_of_inv
    {event : Occasion × PreludeEvent}
    (hInv : Inv nodeEnv t)
    (hCurrent : t.Current event) :
    t.store.ReturnsFresh nodeEnv event := by
  rcases event with ⟨occasion, called⟩
  cases called with
  | getPreludeSnapshot security runtimeState =>
      intro payload hPayload
      unfold PreludeStore.getPreludeSnapshot at hPayload
      dsimp only at hPayload
      have hAlone (sections : PreludeSections)
          (hSections :
            t.store.containers.view.sections nodeEnv
              (PreludeProjection.effectiveLifecycleState
                t.store.containers security runtimeState)
              runtimeState.reads = .ok sections) :
          (PreludeProjection.invalidated.project nodeEnv
              t.store.containers security runtimeState
              occasion.now).1 =
            .ok (sections.envelope occasion.now) := by
        rw [PreludeProjection.project_of_miss occasion.now rfl
          hSections]
      cases hHit :
          t.store.preludeProjection.hit?
            (PreludeProjection.revisionKey t.store.containers
              security runtimeState) with
      | some kept =>
          rw [PreludeProjection.project_of_hit nodeEnv
            occasion.now hHit] at hPayload
          cases hPayload
          have hHeld := hCurrent (Option.isSome_of_eq_some hHit)
          rcases hInv hHeld.1 _ _
              ((PreludeProjection.hit?_eq_some_iff _ _ _).mp
                hHit) with
            ⟨seen, reads, sections, made, hBuilt, hMade,
              hPayload, hUpholds⟩
          rw [hHeld.2] at hBuilt
          cases hBuilt
          have hSeen : t.store.containers.view = seen :=
            hUpholds.same rfl
          rw [← hSeen] at hMade
          exact ⟨_, hAlone sections hMade, sections, made,
            occasion.now, hPayload, rfl⟩
      | none =>
          cases hSections :
              t.store.containers.view.sections nodeEnv
                (PreludeProjection.effectiveLifecycleState
                  t.store.containers security runtimeState)
                runtimeState.reads with
          | error error =>
              rw [PreludeProjection.project_of_error
                occasion.now hHit hSections] at hPayload
              cases hPayload
          | ok sections =>
              rw [PreludeProjection.project_of_miss occasion.now
                hHit hSections] at hPayload
              cases hPayload
              exact ⟨_, hAlone sections hSections, sections,
                occasion.now, occasion.now, rfl, rfl⟩
  | _ => trivial

theorem step_store
    (t : Tracked)
    (event : Occasion × PreludeEvent) :
    (t.step d nodeEnv event).store =
      t.store.step d nodeEnv event := by
  rcases event with ⟨occasion, called⟩
  cases called with
  | getPreludeSnapshot security runtimeState =>
      change (if rebuilds nodeEnv t.store security runtimeState
        then _ else _ : Tracked).store = _
      split <;> rfl
  | _ =>
      change (if t.store.invalidates d occasion _ then _
        else _ : Tracked).store = _
      split <;> rfl

end Tracked

namespace PreludeStore

/- A store that no payload is kept of. -/
def Unserved (s : PreludeStore) : Prop :=
  s.preludeProjection = .invalidated

def tracked (s : PreludeStore) : Tracked where
  store := s
  builtFrom := none
  touched := false

theorem preludes_are_fresh
    (d : Dialect)
    (nodeEnv : JsValue)
    {s : PreludeStore}
    {events : List (Occasion × PreludeEvent)}
    (hUnserved : s.Unserved)
    (hCurrent :
      Along (Tracked.step d nodeEnv) Tracked.Current s.tracked
        events) :
    Along (step d nodeEnv) (ReturnsFresh nodeEnv) s events := by
  have hStart : Tracked.Inv nodeEnv s.tracked := by
    intro _ key payload hCached
    change s.preludeProjection.cached = _ at hCached
    rw [hUnserved] at hCached
    cases hCached
  have hStep :
      ∀ (t : Tracked) (event : Occasion × PreludeEvent),
        Tracked.Inv nodeEnv t → t.Current event →
          Tracked.Inv nodeEnv (t.step d nodeEnv event) :=
    fun t event hInv _ => Tracked.inv_step d event hInv
  have hFresh :
      Along (Tracked.step d nodeEnv)
        (fun t event => t.store.ReturnsFresh nodeEnv event)
        s.tracked events :=
    Along.of_invariant hStep
      (fun t event hInv hEvent =>
        Tracked.returnsFresh_of_inv hInv hEvent)
      hStart hCurrent
  exact Along.of_map Tracked.step_store hFresh

/- A new store that nobody has asked for a prelude yet. -/
def unserved : PreludeStore where
  users := newcomer
  catalogs := .fresh
  billingUserId := "usr-1"
  preludeProjection := .invalidated

/- The runtime while the automation is in a state. -/
def runtimeWhile (lifecycle : String) : RuntimeState where
  lifecycleState := some "Authorized"
  stagedAccountIds := none
  fields := .object [label "automationLifecycle" lifecycle]

def licensed : SecurityView := ⟨.OPERATIONAL, some "VALID"⟩

/- A client that connects while the automation is in a state. -/
def snapshotWhile
    (lifecycle : String) : Occasion × PreludeEvent :=
  (morning,
    .getPreludeSnapshot licensed (runtimeWhile lifecycle))

/- The store after the first client. -/
def served : PreludeStore :=
  unserved.step permissive .undefined (snapshotWhile "RUNNING")

/- The state of the automation that an envelope tells. -/
def toldLifecycle (envelope : JsValue) : JsValue :=
  (((envelope.field "payload").field "automation").field
    "snapshot").field "lifecycle"

theorem toldLifecycle_same
    {first second : JsValue}
    (hSame : SameButTimes first second) :
    toldLifecycle first = toldLifecycle second := by
  rcases hSame with ⟨sections, earlier, later, rfl, rfl⟩
  rfl

/- A client that asks again, while the same automation runs. -/
theorem running_prelude_is_fresh :
    Along (step permissive .undefined)
      (ReturnsFresh .undefined) unserved
      [snapshotWhile "RUNNING", (morning, .operate .markAllRead),
        snapshotWhile "RUNNING"] := by
  have hUnserved : unserved.Unserved := rfl
  apply preludes_are_fresh permissive .undefined hUnserved
  refine ⟨?_, trivial, ?_, trivial⟩
  · change (_ : Bool) = true → _ ∧ _
    decide +kernel
  · change (_ : Bool) = true → _ ∧ _
    decide +kernel

/- A client that asks later is told of a running automation. -/
theorem stopped_automation_is_shown_running :
    ¬ ∀ (d : Dialect) (nodeEnv : JsValue) (s : PreludeStore)
      (events : List (Occasion × PreludeEvent)),
      s.Unserved →
        Along (step d nodeEnv) (ReturnsFresh nodeEnv) s
          events := by
  intro hClaim
  have hFresh :
      served.ReturnsFresh .undefined
        (snapshotWhile "STOPPED") :=
    (hClaim permissive .undefined unserved
      [snapshotWhile "RUNNING", snapshotWhile "STOPPED"]
      rfl).2.1
  have hReturned :
      ((served.getPreludeSnapshot .undefined
          licensed (runtimeWhile "STOPPED")
          morning.now).1.map toldLifecycle) =
        .ok (.text "RUNNING") := by
    decide +kernel
  have hAlone :
      ((PreludeProjection.invalidated.project .undefined
          served.containers licensed
          (runtimeWhile "STOPPED") morning.now).1.map
            toldLifecycle) =
        .ok (.text "STOPPED") := by
    decide +kernel
  cases hCall :
      (served.getPreludeSnapshot .undefined
        licensed (runtimeWhile "STOPPED")
        morning.now).1 with
  | error error =>
      rw [hCall] at hReturned
      cases hReturned
  | ok payload =>
      rcases hFresh payload hCall with ⟨other, hOther, hSame⟩
      have hTold := toldLifecycle_same hSame
      rw [hCall] at hReturned
      rw [hOther] at hAlone
      have hFirst : toldLifecycle payload = .text "RUNNING" :=
        Except.ok.inj hReturned
      have hSecond : toldLifecycle other = .text "STOPPED" :=
        Except.ok.inj hAlone
      rw [hFirst, hSecond] at hTold
      exact absurd hTold (by decide)

end PreludeStore

end Mutators

end ControlPlane
