import ControlPlane.Store.PreludeProjection

/-
  The store together with the prelude that it keeps.

  The operations of the store drop the payload that is kept
  when they have got to their end. The repositories fill the
  configuration and the billing directly and drop nothing.

  Main declarations:
    * `PreludeStore` and `PreludeEvent`
    * `PreludeStore.act` and `invalidates`
    * `PreludeStore.step`
    * `PreludeStore.ReturnsFresh`
-/

------------------------------------------------------------
-- The Store
------------------------------------------------------------

namespace ControlPlane

namespace Mutators

/-
  The store of a user, the catalogs, the user that the
  billing was set up for, and the payload that is kept.
-/
structure PreludeStore where
  users : UserStore
  catalogs : CatalogsContainer
  billingUserId : String
  preludeProjection : PreludeProjection

/- The containers as the pipeline of the hydration fills them. -/
structure Hydrated where
  accounts : AccountsContainer
  config : ConfigContainer
  billing : BillingContainer
  catalogs : CatalogsContainer
  settings : SettingsContainer
  notifications : NotificationsContainer
  billingUserId : String

/-
  What is called. Where an adapter is called that is not part
  of the tables here, the event tells whether it throws, and
  what a hydration reads is told as a whole.
-/
inductive PreludeEvent where
| operate (operation : UserOperation)
| setLifecycleState (refused : Option JsError)
| replacePlansCatalog
    (catalog : JsValue)
    (saved stored : Option JsError)
| replacePlatformRegistry
    (platforms : JsValue)
    (saved stored : Option JsError)
| replaceStrategyCatalog
    (catalog : JsValue)
    (saved : Option JsError)
| hydrateConfig (globalConfig : JsValue)
| hydrateBilling (subscription invoices : JsValue)
| hydrate
    (userId : Option String)
    (hydrated : Except JsError Hydrated)
| boot
    (userId : Option String)
    (opened : Option JsError)
    (hydrated : Except JsError Hydrated)
| onLogout (targetUserId : Option String)
| purgeAll (purged : Except JsError UserTables)
| close
| getPreludeSnapshot
    (security : SecurityView)
    (runtimeState : RuntimeState)

/- The call asks for the prelude. -/
def PreludeEvent.isSnapshot : PreludeEvent → Bool
| .getPreludeSnapshot _ _ => true
| _ => false

namespace GroupMutation

variable {σ : Type}

/- An execution state is updated of an account only. -/
def finds
    (s : StateStore σ) : GroupMutation → Bool
| .updateExecutionState id _ _ =>
    (s.accounts.accounts.get? id).isSome
| _ => true

/- What the mutation comes to within its transaction. -/
def outcome?
    (sql : Sqlite σ)
    (s : StateStore σ)
    (occasion : Occasion)
    (mutation : GroupMutation) : Option (Mutated σ) :=
  match s.currentRevision sql mutation.group with
  | .error _ => none
  | .ok current =>
      if conflicts mutation.expectedRevision current then none
      else
        match mutation.apply sql s occasion (current + 1) with
        | .error _ => none
        | .ok outcome => some outcome

/- The mutation gets to its end, and not in vain. -/
def invalidates
    (sql : Sqlite σ)
    (s : StateStore σ)
    (occasion : Occasion)
    (mutation : GroupMutation) : Bool :=
  match mutation.outcome? sql s occasion with
  | some (.ok _, _) => mutation.finds s
  | _ => false

/- The mutation throws when it has written a container. -/
def breaksOff
    (sql : Sqlite σ)
    (s : StateStore σ)
    (occasion : Occasion)
    (mutation : GroupMutation) : Bool :=
  match mutation.outcome? sql s occasion with
  | some (.error _, _) => true
  | _ => false

end GroupMutation

namespace PreludeStore

def containers (s : PreludeStore) : PreludeContainers where
  userId := s.users.userId
  accounts := s.users.store.accounts
  config := s.users.store.config
  billing := s.users.store.billing
  catalogs := s.catalogs
  settings := s.users.store.settings
  notifications := s.users.notifications

def revisions (s : PreludeStore) : PreludeContainers.Revisions :=
  s.containers.revisions

def view (s : PreludeStore) : PreludeView :=
  s.containers.view

def withStore
    (s : PreludeStore)
    (store : StateStore UserTables) : PreludeStore :=
  { s with users := { s.users with store := store } }

/- The store under another user, if one is named. -/
def withUser
    (s : PreludeStore)
    (userId : Option String) : PreludeStore :=
  s.withStore
    { s.users.store with
        userId := presentOr userId s.users.userId }

/- A catalog is replaced once the tables have taken it. -/
def withCatalogs
    (s : PreludeStore)
    (saved : Option JsError)
    (replaced : Except JsError CatalogsContainer) :
    PreludeStore :=
  match saved, replaced with
  | none, .ok catalogs => { s with catalogs := catalogs }
  | _, _ => s

def filled (s : PreludeStore) (h : Hydrated) : PreludeStore where
  users :=
    { store :=
        { s.users.store with
            accounts := h.accounts
            config := h.config
            billing := h.billing
            settings := h.settings }
      notifications := h.notifications }
  catalogs := h.catalogs
  billingUserId := h.billingUserId
  preludeProjection := s.preludeProjection

------------------------------------------------------------
-- The Repositories
------------------------------------------------------------

/-
  The configuration is saved as it was given, and nothing is
  said when that fails.
-/
def hydrateConfig
    (d : Dialect)
    (s : PreludeStore)
    (occasion : Occasion)
    (globalConfig : JsValue) : PreludeStore :=
  if !globalConfig.truthy then s
  else
    match
      s.users.store.config.hydrate globalConfig (.object [])
        none with
    | (some _, config) =>
        s.withStore { s.users.store with config := config }
    | (none, config) =>
        let tables :=
          match
            saveConfig d.database s.users.userId occasion.now
              globalConfig s.users.tables with
          | .ok tables => tables
          | .error _ => s.users.tables
        s.withStore
          { s.users.store with
              config := config
              tables := tables }

/- The invoices are saved up to the first that is refused. -/
def saveInvoices
    (d : Dialect)
    (userId : String)
    (occasion : Occasion) :
    List JsValue → UserTables → UserTables
| [], tables => tables
| invoice :: rest, tables =>
    match
      saveInvoice d.database userId occasion invoice tables with
    | .error _ => tables
    | .ok tables => saveInvoices d userId occasion rest tables

def saveBilling
    (d : Dialect)
    (userId : String)
    (occasion : Occasion)
    (subscription invoices : JsValue)
    (tables : UserTables) : UserTables :=
  match
    saveSubscription d.database userId occasion.now
      subscription tables with
  | .error _ => tables
  | .ok tables =>
      saveInvoices d userId occasion invoices.items tables

def hydrateBilling
    (d : Dialect)
    (s : PreludeStore)
    (occasion : Occasion)
    (subscription invoices : JsValue) : PreludeStore :=
  if !subscription.truthy then s
  else
    match
      s.users.store.billing.hydrate s.billingUserId
        subscription invoices none with
    | (some _, billing) =>
        s.withStore { s.users.store with billing := billing }
    | (none, billing) =>
        s.withStore
          { s.users.store with
              billing := billing
              tables :=
                saveBilling d s.users.userId occasion
                  subscription invoices s.users.tables }

------------------------------------------------------------
-- Steps
------------------------------------------------------------

def getPreludeSnapshot
    (nodeEnv : JsValue)
    (s : PreludeStore)
    (security : SecurityView)
    (runtimeState : RuntimeState)
    (now : String) :
    Except JsError JsValue × PreludeStore :=
  let projected :=
    s.preludeProjection.project nodeEnv s.containers security
      runtimeState now
  (projected.1, { s with preludeProjection := projected.2 })

/- What a call does to the containers and the tables. -/
def act
    (d : Dialect)
    (s : PreludeStore)
    (occasion : Occasion) : PreludeEvent → PreludeStore
| .operate operation =>
    { s with users := (s.users.operate d occasion operation).2 }
| .setLifecycleState _ => s
| .replacePlansCatalog catalog saved _ =>
    s.withCatalogs saved (s.catalogs.replacePlansCatalog catalog)
| .replacePlatformRegistry platforms saved _ =>
    match saved with
    | some _ => s
    | none =>
        { s with
            catalogs :=
              (s.catalogs.replacePlatformRegistry platforms).2 }
| .replaceStrategyCatalog catalog saved =>
    s.withCatalogs saved
      (s.catalogs.replaceStrategyCatalog catalog)
| .hydrateConfig globalConfig =>
    s.hydrateConfig d occasion globalConfig
| .hydrateBilling subscription invoices =>
    s.hydrateBilling d occasion subscription invoices
| .hydrate userId hydrated =>
    match hydrated with
    | .error _ => s.withUser userId
    | .ok h => (s.withUser userId).filled h
| .boot userId opened hydrated =>
    match opened, hydrated with
    | none, .ok h =>
        (s.withUser userId).filled
          { h with
              accounts :=
                h.accounts.resetObservedStates occasion.now
                  (.text "SYSTEM_BOOT_RECOVERY") }
    | _, _ => s.withUser userId
| .onLogout targetUserId =>
    let left := s.users.onLogout d occasion targetUserId
    { s with
        users := left.2
        billingUserId :=
          match left.1 with
          | .ok _ => presentOr targetUserId s.users.userId
          | .error _ => s.billingUserId }
| .purgeAll purged =>
    match purged with
    | .error _ => s
    | .ok tables =>
        { s with
            users :=
              (s.users.withTables tables).reset s.users.userId
            catalogs := .fresh
            billingUserId := s.users.userId }
| .close => s
| .getPreludeSnapshot _ _ => s

/- The call drops the payload that is kept. -/
def invalidates
    (d : Dialect)
    (s : PreludeStore)
    (occasion : Occasion) : PreludeEvent → Bool
| .operate (.mutate (.transaction mutation)) =>
    mutation.invalidates d.database s.users.store occasion
| .operate (.mutate (.updateBalance _ _ _)) => false
| .operate operation =>
    match (s.users.operate d occasion operation).1 with
    | .ok answer => decide (answer ≠ .boolean false)
    | .error _ => false
| .setLifecycleState refused => refused.isNone
| .replacePlansCatalog catalog saved stored =>
    saved.isNone && stored.isNone &&
      (s.catalogs.replacePlansCatalog catalog).toBool
| .replacePlatformRegistry platforms saved stored =>
    saved.isNone && stored.isNone &&
      (s.catalogs.replacePlatformRegistry platforms).1.isNone
| .replaceStrategyCatalog catalog saved =>
    saved.isNone &&
      (s.catalogs.replaceStrategyCatalog catalog).toBool
| .hydrateConfig _ => false
| .hydrateBilling _ _ => false
| .hydrate _ hydrated => hydrated.toBool
| .boot _ opened hydrated =>
    opened.isNone && hydrated.toBool
| .onLogout targetUserId =>
    (s.users.onLogout d occasion targetUserId).1.toBool
| .purgeAll purged => purged.toBool
| .close => true
| .getPreludeSnapshot _ _ => false

def step
    (d : Dialect)
    (nodeEnv : JsValue)
    (s : PreludeStore)
    (event : Occasion × PreludeEvent) : PreludeStore :=
  match event with
  | (occasion, .getPreludeSnapshot security runtimeState) =>
      (s.getPreludeSnapshot nodeEnv security runtimeState
        occasion.now).2
  | (occasion, called) =>
      if s.invalidates d occasion called then
        { s.act d occasion called with
            preludeProjection := .invalidated }
      else s.act d occasion called

/- The payload is what a projection of its own would make. -/
def ReturnsFresh
    (nodeEnv : JsValue)
    (s : PreludeStore)
    (event : Occasion × PreludeEvent) : Prop :=
  match event with
  | (occasion, .getPreludeSnapshot security runtimeState) =>
      ∀ payload,
        (s.getPreludeSnapshot nodeEnv security runtimeState
            occasion.now).1 = .ok payload →
          ∃ other,
            (PreludeProjection.invalidated.project nodeEnv
                s.containers security runtimeState
                occasion.now).1 = .ok other ∧
              SameButTimes payload other
  | _ => True

end PreludeStore

end Mutators

end ControlPlane
