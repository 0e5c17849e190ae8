import ControlPlane.Store.Catalogs

/-
  Hydration of the configuration, the billing and the
  settings in memory.

  A container is filled with what the database or the backend
  has. A configuration is laid over the defaults. Nothing is
  changed by a value that is refused, but an account or an
  invoice that cannot be copied ends the loop it is in.

  Main declarations:
    * `ConfigContainer.hydrate`
    * `BillingContainer.hydrate`
    * `SettingsContainer.hydrate`
-/

------------------------------------------------------------
-- The Configuration
------------------------------------------------------------

namespace ControlPlane

namespace Mutators

/- An object, or an array, that is not null. -/
def isObject (value : JsValue) : Bool :=
  value.truthy && isTypeofObject value

/- A category of a configuration, laid over the others. -/
def mergeCategory
    (base : JsValue)
    (category : String × JsValue) : JsValue :=
  if (base.field category.1).truthy &&
      isTypeofObject category.2 then
    base.withMembers
      [(category.1, (base.field category.1).spread category.2)]
  else if isObject category.2 then
    base.withMembers [category]
  else base

def mergeCategories (globalConfig : JsValue) : JsValue :=
  globalConfig.members.foldl mergeCategory
    Defaults.globalConfig

def validateGlobalConfig
    (config : JsValue) : Except JsError Unit :=
  match
    categories.find?
      (fun category => !isObject (config.field category)) with
  | some category =>
      .error (validationError
        ("Global config is missing required category: [" ++
          category ++ "]"))
  | none => .ok ()

namespace ConfigContainer

/- The configuration that is kept for a given one. -/
def hydratedConfig
    (globalConfig : JsValue) : Except JsError JsValue :=
  if isObject globalConfig then do
    let base := mergeCategories globalConfig
    validateGlobalConfig base
    base.jsonCopy
  else .ok Defaults.globalConfig

/- The overrides of the accounts are copied one by one. -/
def hydrateOverrides :
    List (String × JsValue) → OrderedMap JsValue JsValue →
      Option JsError × OrderedMap JsValue JsValue
| [], filled => (none, filled)
| (accId, overrides) :: rest, filled =>
    match overrides.jsonCopy with
    | .error error => (some error, filled)
    | .ok copy =>
        hydrateOverrides rest (filled.set (.text accId) copy)

def hydrate
    (c : ConfigContainer)
    (globalConfig accountOverrides : JsValue)
    (revision : Option Nat) :
    Option JsError × ConfigContainer :=
  match hydratedConfig globalConfig with
  | .error error => (some error, c)
  | .ok config =>
      match
        hydrateOverrides accountOverrides.members .empty with
      | (some error, filled) =>
          (some error,
            { c with
                globalConfig := config
                accountOverrides := filled })
      | (none, filled) =>
          (none,
            { globalConfig := config
              accountOverrides := filled
              revision := revision.getD (c.revision + 1) })

end ConfigContainer

------------------------------------------------------------
-- The Billing
------------------------------------------------------------

namespace BillingContainer

/- The subscription that is kept for a given one. -/
def hydratedSubscription
    (userId : String)
    (subscription : JsValue) : Except JsError JsValue :=
  if isObject subscription then do
    validateSubscription subscription
    subscription.jsonCopy
  else .ok (Defaults.subscription userId)

def putInvoice
    (invoices : OrderedMap JsValue JsValue)
    (invoice : JsValue) :
    Except JsError (OrderedMap JsValue JsValue) := do
  let id ← invoice.read "id"
  let copy ← invoice.jsonCopy
  return invoices.set (id.orElse (invoice.field "reference"))
    copy

/- The loop over the invoices ends with an exception. -/
def putInvoices :
    List JsValue → OrderedMap JsValue JsValue →
      Option JsError × OrderedMap JsValue JsValue
| [], filled => (none, filled)
| invoice :: rest, filled =>
    match putInvoice filled invoice with
    | .error error => (some error, filled)
    | .ok filled => putInvoices rest filled

/- The subscription is kept before an invoice is read. -/
def hydrate
    (c : BillingContainer)
    (userId : String)
    (subscription invoicesList : JsValue)
    (revision : Option Nat) :
    Option JsError × BillingContainer :=
  match hydratedSubscription userId subscription with
  | .error error => (some error, c)
  | .ok kept =>
      match putInvoices invoicesList.items .empty with
      | (some error, filled) =>
          (some error,
            { c with subscription := kept, invoices := filled })
      | (none, filled) =>
          (none,
            { subscription := kept
              invoices := filled
              revision := revision.getD (c.revision + 1)
              isStale := false })

end BillingContainer

------------------------------------------------------------
-- The Settings
------------------------------------------------------------

namespace SettingsContainer

def hydrate
    (c : SettingsContainer)
    (userId : String)
    (settings : JsValue)
    (revision : Option Nat) :
    Except JsError SettingsContainer := do
  let kept ←
    if isObject settings then settings.jsonCopy
    else .ok (Defaults.settings userId)
  return {
    settings := kept
    revision := revision.getD (c.revision + 1) }

end SettingsContainer

end Mutators

end ControlPlane
