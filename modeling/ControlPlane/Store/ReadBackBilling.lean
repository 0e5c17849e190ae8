import Mathlib.Data.List.Forall2
import Mathlib.Data.List.Perm.Basic
import ControlPlane.Data.MapCount
import ControlPlane.Store.ReadBackSettings

/-
  The billing is read back as it is kept.

  The subscription of a row has the plan, the dates and the
  entitlements that memory has, under one name each. The
  rows of the invoices stand in the order of the invoices in
  memory. The fifty rows with the latest texts are read.

  Main declarations:
    * `PlanKept` and `PlanKept.updateSubscription`
    * `InvoicesKept` and `InvoicesKept.addInvoice`
    * `InvoicesKept.sameRecent`
-/

------------------------------------------------------------
-- The Subscription
------------------------------------------------------------

namespace ControlPlane

namespace Mutators

open JsValue

/- What a column that has been written with a text holds. -/
theorem stringify_eq_ok
    {value : JsValue}
    {binding : Binding}
    (hText : stringify value = .ok binding) :
    (∃ data, binding = .json data ∧
        value.json = .ok (some data)) ∨
      binding = .value .undefined := by
  unfold stringify at hText
  rcases bind_eq_ok.mp hText with ⟨found, hJson, hBinding⟩
  cases found with
  | none =>
      cases hBinding
      exact .inr rfl
  | some data =>
      cases hBinding
      exact .inl ⟨data, rfl, hJson⟩

theorem parsedOr_stringified
    {value default : JsValue}
    {binding : Binding}
    (hDefault : default.IsCopy)
    (hText : stringify value = .ok binding) :
    ∃ data, parsedOr default binding = .ok data ∧
      data.IsCopy := by
  rcases stringify_eq_ok hText with ⟨data, rfl, hJson⟩ | rfl
  · exact ⟨data, rfl, isCopy_of_json hJson⟩
  · exact ⟨default, rfl, hDefault⟩

theorem stringify_hasText
    {value : JsValue}
    (hText : value.HasText) :
    stringify value = .ok (.json value.copyOf) := by
  unfold stringify
  rw [hText.json_eq]
  rfl

/- The columns of a subscription that has been saved. -/
def subscriptionColumns
    (now : String)
    (sub : JsValue)
    (entitlements availableActions notices : Binding) :
    List Binding :=
  [.value ((sub.field "planId").orElse
      ((sub.field "currentPlanId").orElse (.text "starter"))),
    .value ((sub.field "status").orElse (.text "Active")),
    .value ((sub.field "billingInterval").orElse
      (.text "Monthly")),
    .value ((sub.field "renewalDate").orElse .null),
    .value ((sub.field "expirationDate").orElse .null),
    entitlements, availableActions, notices,
    .text now]

theorem saveSubscription_eq_ok
    {d : Dialect}
    {user now : String}
    {sub : JsValue}
    {t t' : UserTables}
    (hEntitlements :
      (sub.field "entitlements").truthy = true ∧
        (sub.field "entitlements").HasText)
    (hSave :
      saveSubscription d.database user now sub t = .ok t') :
    ∃ availableActions notices columns,
      stringify ((sub.field "availableActions").orElse
          (.array [])) = .ok availableActions ∧
        stringify ((sub.field "notices").orElse (.array [])) =
          .ok notices ∧
        columns =
          subscriptionColumns now sub
            (.json (sub.field "entitlements").copyOf)
            availableActions notices ∧
        t' =
          { t with
              subscriptions :=
                t.subscriptions.upsert ⟨none, user, columns⟩
                  (fun old => old.withColumns columns)
                  (fun _ => rfl) } := by
  unfold saveSubscription at hSave
  rcases bind_eq_ok.mp hSave with ⟨_, _, hSave⟩
  rcases bind_eq_ok.mp hSave with ⟨planId, hPlan, hSave⟩
  rw [orElse_of_truthy hEntitlements.1,
    stringify_hasText hEntitlements.2, bind_ok] at hSave
  rcases bind_eq_ok.mp hSave with
    ⟨availableActions, hActions, hSave⟩
  rcases bind_eq_ok.mp hSave with ⟨notices, hNotices, hSave⟩
  have hField : planId = sub.field "planId" := by
    unfold JsValue.read at hPlan
    split at hPlan
    · cases hPlan
    · exact (Except.ok.inj hPlan).symm
  subst hField
  exact
    ⟨availableActions, notices, _, hActions, hNotices, rfl,
      Dialect.execute_eq_ok hSave⟩

/- The subscription that is read of a row. -/
def subscriptionRead
    (r : Reader)
    (user planId status interval now : String)
    (renewal expiration : JsValue)
    (entitlements availableActions notices : JsValue) :
    JsValue :=
  .object
    [("userId", .text user),
      ("currentPlanId", .text planId),
      ("currentPlan", .text (r.planName planId)),
      ("status", .text status),
      ("billingInterval", .text interval),
      ("renewalDate", renewal),
      ("expirationDate", expiration),
      ("entitlements", entitlements),
      ("availableActions", availableActions),
      ("notices", notices),
      ("cachedAt", .text now)]

theorem hydratedSubscription_of_read
    {r : Reader}
    {user planId status interval now : String}
    {renewal expiration : JsValue}
    {entitlements availableActions notices : JsValue}
    (hPlan : planId ≠ "")
    (hStatus : status ≠ "")
    (hRenewal : renewal.IsCopy)
    (hExpiration : expiration.IsCopy)
    (hEntitlements : entitlements.IsCopy)
    (hActions : availableActions.IsCopy)
    (hNotices : notices.IsCopy) :
    BillingContainer.hydratedSubscription user
        (subscriptionRead r user planId status interval now
          renewal expiration entitlements availableActions
          notices) =
      .ok (subscriptionRead r user planId status interval now
        renewal expiration entitlements availableActions
        notices) := by
  have hValid :
      validateSubscription
          (subscriptionRead r user planId status interval now
            renewal expiration entitlements availableActions
            notices) = .ok () := by
    have hFields :
        (subscriptionRead r user planId status interval now
            renewal expiration entitlements availableActions
            notices).field "status" = .text status ∧
          (subscriptionRead r user planId status interval now
            renewal expiration entitlements availableActions
            notices).field "currentPlanId" = .text planId :=
      ⟨rfl, rfl⟩
    unfold validateSubscription
    rw [hFields.1, hFields.2]
    dsimp only
    rw [if_neg hStatus, if_neg]
    simp [JsValue.truthy, hPlan]
  have hCopy :
      (subscriptionRead r user planId status interval now
        renewal expiration entitlements availableActions
        notices).IsCopy := by
    refine isCopy_object ?_
    simp only [List.forall_mem_cons, List.not_mem_nil,
      false_implies, implies_true, and_true]
    exact
      ⟨rfl, rfl, rfl, rfl, rfl, hRenewal, hExpiration,
        hEntitlements, hActions, hNotices, rfl⟩
  have hObject :
      isObject
          (subscriptionRead r user planId status interval now
            renewal expiration entitlements availableActions
            notices) = true := rfl
  unfold BillingContainer.hydratedSubscription
  rw [if_pos hObject, hValid, bind_ok]
  exact jsonCopy_eq_ok_iff.mpr hCopy

/- Another store reads the plan in memory. -/
def PlanKept
    (r : Reader)
    (d : Dialect)
    (user : String)
    (t : Table UserRow String UserRow.userKey)
    (sub : JsValue) : Prop :=
  ∃ read loaded,
    getSubscription r d user t = .ok read ∧
      BillingContainer.hydratedSubscription user read =
        .ok loaded ∧
      SamePlan loaded sub

theorem planKept_fresh
    {user : String}
    {t : Table UserRow String UserRow.userKey}
    (hNone : t.rowsOf UserRow.userId user = [])
    (r : Reader)
    (d : Dialect) :
    PlanKept r d user t
      (BillingContainer.fresh user).subscription := by
  refine
    ⟨Defaults.subscription user, Defaults.subscription user,
      ?_, rfl, fun _ _ => rfl, rfl⟩
  unfold getSubscription rowOf
  rw [hNone]
  rfl

theorem status_of_validated
    {sub : JsValue}
    (hValid : validateSubscription sub = .ok ()) :
    IsFilled (sub.field "status") := by
  unfold validateSubscription at hValid
  split at hValid
  · rename_i status hStatus
    split at hValid
    · cases hValid
    · rename_i hFilled
      exact ⟨status, hFilled, hStatus⟩
  · cases hValid

theorem orElse_of_isFilled
    {value : JsValue}
    (hFilled : IsFilled value)
    (alternative : JsValue) :
    value.orElse alternative = value := by
  rcases hFilled with ⟨text, hText, rfl⟩
  have hTruthy : (JsValue.text text).truthy = true :=
    decide_eq_true hText
  exact orElse_of_truthy hTruthy alternative

/- A date is stored and read as it is. -/
theorem date_of_stored
    {value : JsValue}
    (hStored : value = .null ∨ IsFilled value)
    (d : Dialect) :
    readText d (.value (value.orElse .null)) = value ∧
      value.IsCopy := by
  rcases hStored with rfl | hFilled
  · exact ⟨rfl, rfl⟩
  · rw [orElse_of_isFilled hFilled]
    rcases hFilled with ⟨text, _, rfl⟩
    exact ⟨rfl, rfl⟩

/- The subscription is read as it has been saved. -/
theorem getSubscription_upsert
    {r : Reader}
    {sub : JsValue}
    (hStored : PlanStored r sub)
    (hStatus : IsFilled (sub.field "status"))
    {availableActions notices : Binding}
    (hActions :
      ∃ data, parsedOr (.array []) availableActions =
        .ok data ∧ data.IsCopy)
    (hNotices :
      ∃ data, parsedOr (.array []) notices = .ok data ∧
        data.IsCopy)
    {now : String}
    {columns : List Binding}
    (hColumns :
      columns =
        subscriptionColumns now sub
          (.json (sub.field "entitlements").copyOf)
          availableActions notices)
    (d : Dialect)
    (user : String)
    (t : Table UserRow String UserRow.userKey) :
    ∃ loaded,
      getSubscription r d user
          (t.upsert ⟨none, user, columns⟩
            (fun old => old.withColumns columns)
            (fun _ => rfl)) = .ok loaded ∧
        BillingContainer.hydratedSubscription user loaded =
          .ok loaded ∧
        SamePlan loaded sub := by
  rcases hStored.plan with
    ⟨planId, hPlan, hId, hName, hAlias⟩
  rcases hActions with ⟨actions, hActions, hActionsCopy⟩
  rcases hNotices with ⟨noticed, hNotices, hNoticesCopy⟩
  rcases date_of_stored hStored.renewal d with
    ⟨hRenewal, hRenewalCopy⟩
  rcases date_of_stored hStored.expiration d with
    ⟨hExpiration, hExpirationCopy⟩
  have hStatusColumn :=
    orElse_of_isFilled hStatus (.text "Active")
  have hIntervalColumn :=
    orElse_of_isFilled hStored.interval (.text "Monthly")
  rcases hStatus with ⟨status, hNonempty, hStatus⟩
  rcases hStored.interval with ⟨interval, _, hInterval⟩
  have hPlanColumn :
      (sub.field "planId").orElse
          ((sub.field "currentPlanId").orElse
            (.text "starter")) = .text planId := by
    cases hTruthy : (sub.field "planId").truthy with
    | true => rw [orElse_of_truthy hTruthy, hAlias hTruthy]
    | false =>
        have hFilled : IsFilled (sub.field "currentPlanId") :=
          ⟨planId, hPlan, hId⟩
        unfold orElse
        rw [hTruthy, if_neg Bool.false_ne_true]
        exact (orElse_of_isFilled hFilled _).trans hId
  rcases rowOf_upsert (userKey_eq_iff user) t columns
      (fun _ => rfl) with ⟨row, hRow, hUser, hRowColumns⟩
  rw [hColumns] at hRowColumns
  unfold subscriptionColumns at hRowColumns
  rw [hPlanColumn, hStatusColumn, hIntervalColumn, hStatus,
    hInterval] at hRowColumns
  refine
    ⟨subscriptionRead r user planId status interval now
        (sub.field "renewalDate") (sub.field "expirationDate")
        (sub.field "entitlements").copyOf actions noticed,
      ?_, ?_, ?_⟩
  · unfold getSubscription
    rw [hRow]
    simp only [Dialect.column, hRowColumns, hUser,
      List.getElem?_cons_zero, List.getElem?_cons_succ,
      Option.getD_some, hActions, hNotices, hRenewal,
      hExpiration]
    rfl
  · exact hydratedSubscription_of_read hPlan hNonempty
      hRenewalCopy hExpirationCopy hStored.entitlements.2.isCopy
      hActionsCopy hNoticesCopy
  · refine ⟨?_, ?_⟩
    · simp only [planFields, List.forall_mem_cons,
        List.not_mem_nil, false_implies, implies_true, and_true]
      rw [hId, hName, hStatus, hInterval]
      exact ⟨rfl, rfl, rfl, rfl, rfl, rfl⟩
    · exact jsonOf_copyOf (sub.field "entitlements")

theorem SamePlan.withLastUpdated
    {loaded sub : JsValue}
    (hSame : SamePlan loaded sub)
    (hRecord : sub.IsRecord)
    (now : JsValue) :
    SamePlan loaded
      (sub.withMembers [("lastUpdated", now)]) := by
  refine ⟨?_, ?_⟩
  · intro name hName
    have hOther : name ≠ "lastUpdated" := by
      rintro rfl
      exact absurd hName (by decide)
    rw [field_withMembers hRecord, if_neg hOther]
    exact hSame.1 name hName
  · rw [field_withMembers hRecord, if_neg (by decide)]
    exact hSame.2

theorem PlanKept.updateSubscription
    {r : Reader}
    {d : Dialect}
    {s : StateStore UserTables}
    {occasion : Occasion}
    {updates answer : JsValue}
    {t : StateStore UserTables}
    (hStores :
      PlanStored r (s.billing.subscription.spread updates))
    (hApply :
      s.updateSubscription d.database occasion updates =
        .ok (.ok answer, t)) :
    PlanKept r d s.userId t.tables.subscriptions
        t.billing.subscription ∧
      t.billing.invoices = s.billing.invoices ∧
      t = { s with
        tables :=
          { s.tables with
              subscriptions := t.tables.subscriptions }
        billing := t.billing } := by
  unfold StateStore.updateSubscription at hApply
  rcases bind_eq_ok.mp hApply with ⟨tables, hSave, hApply⟩
  rcases bind_eq_ok.mp hApply with
    ⟨⟨sub, billing⟩, hUpdate, hApply⟩
  cases hApply
  unfold BillingContainer.updateSubscription at hUpdate
  rcases bind_eq_ok.mp hUpdate with ⟨_, hValid, hUpdate⟩
  cases hUpdate
  have hRecord :
      (s.billing.subscription.spread updates).IsRecord :=
    ⟨_, rfl⟩
  have hStatus := status_of_validated hValid
  rw [field_withMembers hRecord, if_neg (by decide)] at hStatus
  rcases saveSubscription_eq_ok hStores.entitlements hSave with
    ⟨availableActions, notices, columns, hActions, hNotices,
      hColumns, hTables⟩
  have hNone : (JsValue.array []).IsCopy := rfl
  rcases getSubscription_upsert hStores hStatus
      (parsedOr_stringified hNone hActions)
      (parsedOr_stringified hNone hNotices) hColumns d s.userId
      s.tables.subscriptions with
    ⟨loaded, hGet, hHydrated, hSame⟩
  rw [hTables]
  exact
    ⟨⟨loaded, loaded, hGet, hHydrated,
      hSame.withLastUpdated hRecord _⟩, rfl, rfl⟩

------------------------------------------------------------
-- An Invoice
------------------------------------------------------------

/- A column reads as the copy of the field in memory does. -/
def ReadsAs (read field : JsValue) : Prop :=
  read.IsCopy ∧ orNull read = orNull field.copyOf

theorem readsAs_copy
    {value : JsValue}
    (hCopy : value.IsCopy) : ReadsAs value value := by
  refine ⟨hCopy, ?_⟩
  rw [copyOf_of_json hCopy]

theorem readsAs_filled
    {value : JsValue}
    (hFilled : IsFilled value)
    (d : Dialect)
    (alternative : JsValue) :
    ReadsAs (readText d (.value (value.orElse alternative)))
      value := by
  rw [orElse_of_isFilled hFilled]
  rcases hFilled with ⟨text, _, rfl⟩
  exact readsAs_copy rfl

theorem readsAs_reference
    {value : JsValue}
    (hReference : value = .null ∨ ∃ text, value = .text text)
    (d : Dialect) :
    ReadsAs (readText d (.value value)) value := by
  rcases hReference with rfl | ⟨text, rfl⟩
  · exact readsAs_copy rfl
  · exact readsAs_copy rfl

theorem readsAs_detail
    {value : JsValue}
    (hDetail : IsBlank value ∨ IsFilled value)
    (d : Dialect) :
    ReadsAs (readText d (.value (value.orElse .null)))
      value := by
  rcases hDetail with (hNullish | rfl) | hFilled
  · cases value with
    | undefined | null => exact ⟨rfl, rfl⟩
    | _ => cases hNullish
  · exact ⟨rfl, rfl⟩
  · exact readsAs_filled hFilled d .null

theorem orZero_finite (n : Rat) :
    (JsNumber.finite n).orZero = .finite n := by
  by_cases hZero : n = 0
  · rw [hZero]
    rfl
  · have hTruthy : (JsNumber.finite n).truthy = true :=
      decide_eq_true hZero
    unfold JsNumber.orZero
    rw [if_pos hTruthy]

/- An optional number is bound to a column that reads it. -/
theorem readsAs_optionalNumber
    {value : JsValue}
    (hNumber :
      value = .undefined ∨ value = .number .nan ∨
        ∃ n, value = .number (.finite n))
    {binding : Binding}
    (hBinding : optionalNumber value = .ok binding)
    (r : Reader) :
    ReadsAs (r.readNumber binding) value := by
  rcases hNumber with rfl | rfl | ⟨n, rfl⟩
  · cases hBinding
    exact ⟨rfl, rfl⟩
  · cases hBinding
    exact ⟨rfl, rfl⟩
  · cases hBinding
    exact readsAs_copy rfl

/- The columns of an invoice that has been saved. -/
def invoiceColumns
    (now : String)
    (invoice : JsValue)
    (amount : JsNumber)
    (subtotal taxAmount taxRate : Binding) : List Binding :=
  [.value (invoice.field "reference"),
    .value ((invoice.field "date").orElse (.text now)),
    .value (.number amount.orZero),
    .value ((invoice.field "status").orElse (.text "Paid")),
    .value ((invoice.field "planName").orElse .null),
    .value ((invoice.field "billingInterval").orElse .null),
    .value ((invoice.field "receiptUrl").orElse .null),
    subtotal, taxAmount, taxRate,
    .value ((invoice.field "currency").orElse (.text "NGN")),
    .value ((invoice.field "currencySymbol").orElse
      (.text "₦")),
    .text now]

theorem saveInvoice_eq_ok
    {d : Dialect}
    {user id : String}
    {occasion : Occasion}
    {invoice : JsValue}
    {n : Rat}
    {t t' : UserTables}
    (hId : id ≠ "" ∧ invoice.field "id" = .text id)
    (hAmount : invoice.field "amount" = .number (.finite n))
    (hSave :
      saveInvoice d.database user occasion invoice t = .ok t') :
    ∃ subtotal taxAmount taxRate columns,
      optionalNumber (invoice.field "subtotal") = .ok subtotal ∧
        optionalNumber (invoice.field "taxAmount") =
          .ok taxAmount ∧
        optionalNumber (invoice.field "taxRate") =
          .ok taxRate ∧
        columns =
          invoiceColumns occasion.now invoice (.finite n)
            subtotal taxAmount taxRate ∧
        t' =
          { t with
              invoices :=
                t.invoices.upsert ⟨some id, user, columns⟩
                  (fun old => old.withColumns columns)
                  (fun _ => rfl) } := by
  unfold saveInvoice at hSave
  rcases bind_eq_ok.mp hSave with ⟨_, _, hSave⟩
  rcases bind_eq_ok.mp hSave with ⟨found, hFound, hSave⟩
  rw [hAmount] at hSave
  rcases bind_eq_ok.mp hSave with ⟨amount, hNumber, hSave⟩
  cases hNumber
  rcases bind_eq_ok.mp hSave with ⟨subtotal, hSubtotal, hSave⟩
  rcases bind_eq_ok.mp hSave with ⟨taxAmount, hTax, hSave⟩
  rcases bind_eq_ok.mp hSave with ⟨taxRate, hRate, hSave⟩
  have hField : found = .text id := by
    unfold JsValue.read at hFound
    split at hFound
    · cases hFound
    · exact (Except.ok.inj hFound).symm.trans hId.2
  subst hField
  rw [orElse_of_isFilled ⟨id, hId.1, rfl⟩] at hSave
  exact
    ⟨subtotal, taxAmount, taxRate, _, hSubtotal, hTax, hRate,
      rfl, Dialect.execute_eq_ok hSave⟩

/- A row of the user stands where the invoice does. -/
structure Mirrors
    (r : Reader)
    (d : Dialect)
    (row : UserRow)
    (entry : JsValue × JsValue) : Prop where
  id :
    ∃ id, id ≠ "" ∧ row.id = some id ∧ entry.1 = .text id
  view : invoiceView (invoiceOf r d row) = invoiceView entry.2
  copy : (invoiceOf r d row).IsCopy
  date :
    ∃ text,
      d.storedText (Dialect.column row 1) = some text ∧
        entry.2.field "date" = .text text

/- An invoice that is stored is read as it is kept. -/
theorem mirrors_of_stored
    {r : Reader}
    {invoice copy : JsValue}
    (hStored : InvoiceStored invoice)
    (hNamed : invoice.WellNamed)
    (hCopy : invoice.json = .ok (some copy))
    {id user now : String}
    {n : Rat}
    {subtotal taxAmount taxRate : Binding}
    (hId : id ≠ "" ∧ invoice.field "id" = .text id)
    (hAmount : invoice.field "amount" = .number (.finite n))
    (hSubtotal :
      optionalNumber (invoice.field "subtotal") = .ok subtotal)
    (hTax :
      optionalNumber (invoice.field "taxAmount") =
        .ok taxAmount)
    (hRate :
      optionalNumber (invoice.field "taxRate") = .ok taxRate)
    (d : Dialect) :
    Mirrors r d
      ⟨some id, user,
        invoiceColumns now invoice (.finite n) subtotal
          taxAmount taxRate⟩
      (.text id, copy) := by
  have hField := field_of_json hStored.record
    (hNamed.namesDistinct hStored.record) hCopy
  have hFilled := hStored.filled
  have hDetails := hStored.details
  have hNumbers := hStored.numbers
  simp only [List.forall_mem_cons, List.not_mem_nil,
    false_implies, implies_true, and_true]
    at hFilled hDetails hNumbers
  rcases hFilled with
    ⟨_, hDate, hStatus, hCurrency, hSymbol⟩
  rcases hDetails with ⟨hPlan, hInterval, hReceipt⟩
  rcases hNumbers with ⟨hSubtotalIs, hTaxIs, hRateIs⟩
  have hReadId :
      ReadsAs (Dialect.textOrNull (some id))
        (invoice.field "id") := by
    rw [hId.2]
    exact readsAs_copy rfl
  have hReadReference := readsAs_reference hStored.reference d
  have hReadDate := readsAs_filled hDate d (.text now)
  have hReadAmount :
      ReadsAs
        (r.readNumber
          (.value (.number (JsNumber.finite n).orZero)))
        (invoice.field "amount") := by
    rw [orZero_finite, hAmount]
    exact readsAs_copy rfl
  have hReadStatus := readsAs_filled hStatus d (.text "Paid")
  have hReadPlanName := readsAs_detail hPlan d
  have hReadInterval := readsAs_detail hInterval d
  have hReadReceipt := readsAs_detail hReceipt d
  have hReadSubtotal :=
    readsAs_optionalNumber hSubtotalIs hSubtotal r
  have hReadTaxAmount := readsAs_optionalNumber hTaxIs hTax r
  have hReadTaxRate := readsAs_optionalNumber hRateIs hRate r
  have hReadCurrency := readsAs_filled hCurrency d (.text "NGN")
  have hReadSymbol := readsAs_filled hSymbol d (.text "₦")
  refine
    { id := ⟨id, hId.1, rfl, rfl⟩
      view := ?_
      copy := ?_
      date := ?_ }
  · refine List.map_congr_left ?_
    simp only [invoiceFields, List.forall_mem_cons,
      List.not_mem_nil, false_implies, implies_true, and_true,
      hField]
    exact
      ⟨hReadId.2, hReadReference.2, hReadDate.2,
        hReadAmount.2, hReadStatus.2, hReadPlanName.2,
        hReadInterval.2, hReadReceipt.2, hReadSubtotal.2,
        hReadTaxAmount.2, hReadTaxRate.2, hReadCurrency.2,
        hReadSymbol.2⟩
  · refine isCopy_object ?_
    simp only [List.forall_mem_cons, List.not_mem_nil,
      false_implies, implies_true, and_true]
    exact
      ⟨hReadId.1, rfl, hReadReference.1, hReadDate.1,
        hReadAmount.1, hReadStatus.1, hReadPlanName.1,
        hReadInterval.1, hReadReceipt.1, hReadSubtotal.1,
        hReadTaxAmount.1, hReadTaxRate.1, hReadCurrency.1,
        hReadSymbol.1, rfl⟩
  · rcases hDate with ⟨text, hText, hDate⟩
    refine ⟨text, ?_, ?_⟩
    · have hColumn :
          (invoice.field "date").orElse (.text now) =
            .text text := by
        rw [orElse_of_isFilled ⟨text, hText, hDate⟩, hDate]
      change
        d.storedText
            (.value ((invoice.field "date").orElse
              (.text now))) = some text
      rw [hColumn]
      rfl
    · change copy.field "date" = _
      rw [hField, hDate]
      rfl

------------------------------------------------------------
-- The Invoices
------------------------------------------------------------

theorem exists_of_forall₂
    {α β : Type}
    {R : α → β → Prop}
    {xs : List α}
    {ys : List β}
    (hEach : List.Forall₂ R xs ys)
    {x : α}
    (hMem : x ∈ xs) :
    ∃ y ∈ ys, R x y := by
  induction hEach with
  | nil => cases hMem
  | cons hFirst _ ih =>
      rcases List.mem_cons.mp hMem with rfl | hLater
      · exact ⟨_, List.mem_cons_self, hFirst⟩
      · rcases ih hLater with ⟨y, hY, hBoth⟩
        exact ⟨y, List.mem_cons_of_mem _ hY, hBoth⟩

/-
  The rows of the user stand for the invoices in memory, and
  their texts order them if there are more than fifty.
-/
structure InvoicesKept
    (r : Reader)
    (d : Dialect)
    (noLater : JsValue → JsValue → Prop)
    (user : String)
    (t : Table UserRow String UserRow.id)
    (invoices : OrderedMap JsValue JsValue) : Prop where
  mirrored :
    List.Forall₂ (Mirrors r d) (t.rowsOf UserRow.userId user)
      invoices.entries
  recent :
    invoices.size ≤ 50 ∨ Chronological noLater invoices.values

theorem invoicesKept_fresh
    {user : String}
    {t : Table UserRow String UserRow.id}
    (hNone : t.rowsOf UserRow.userId user = [])
    (r : Reader)
    (d : Dialect)
    (noLater : JsValue → JsValue → Prop) :
    InvoicesKept r d noLater user t
      (BillingContainer.fresh user).invoices where
  mirrored := by
    rw [hNone]
    exact .nil
  recent := .inl (Nat.zero_le 50)

/- A row has the id of the invoice that it stands for. -/
theorem Mirrors.id_iff
    {r : Reader}
    {d : Dialect}
    {row : UserRow}
    {entry : JsValue × JsValue}
    (hMirrors : Mirrors r d row entry)
    (id : String) :
    row.id = some id ↔ entry.1 = .text id := by
  rcases hMirrors.id with ⟨own, _, hRow, hEntry⟩
  rw [hRow, hEntry, Option.some.injEq, JsValue.text.injEq]

/- Rows and invoices take another one in the same place. -/
theorem mirrored_set
    {r : Reader}
    {d : Dialect}
    {user id : String}
    {t : Table UserRow String UserRow.id}
    {invoices : OrderedMap JsValue JsValue}
    (hMirrored :
      List.Forall₂ (Mirrors r d)
        (t.rowsOf UserRow.userId user) invoices.entries)
    {columns : List Binding}
    {copy : JsValue}
    (hNew :
      ∀ user, Mirrors r d ⟨some id, user, columns⟩
        (.text id, copy))
    (hOwn :
      ∀ row ∈ t.rows, row.id = some id → row.userId = user) :
    List.Forall₂ (Mirrors r d)
      ((t.upsert ⟨some id, user, columns⟩
        (fun old => old.withColumns columns)
        (fun _ => rfl)).rowsOf UserRow.userId user)
      (invoices.set (.text id) copy).entries := by
  have hKey :
      ∀ old : UserRow, (old.withColumns columns).id = old.id :=
    fun _ => rfl
  have hOwner :
      ∀ old : UserRow,
        (old.withColumns columns).userId = old.userId :=
    fun _ => rfl
  have hMine :
      (⟨some id, user, columns⟩ : UserRow).userId = user := rfl
  have hRow :
      (⟨some id, user, columns⟩ : UserRow).id = some id := rfl
  rw [Table.rowsOf_upsert_self hKey hOwner hMine hRow hOwn]
  have hThere :
      (∃ old ∈ t.rowsOf UserRow.userId user,
        old.id = some id) ↔
        .text id ∈ invoices.entries.map Prod.fst := by
    rw [List.mem_map]
    constructor
    · rintro ⟨old, hOld, hId⟩
      rcases exists_of_forall₂ hMirrored hOld with
        ⟨entry, hEntry, hBoth⟩
      exact ⟨entry, hEntry, (hBoth.id_iff id).mp hId⟩
    · rintro ⟨entry, hEntry, hId⟩
      have hFlip : List.Forall₂ (flip (Mirrors r d))
          invoices.entries (t.rowsOf UserRow.userId user) :=
        hMirrored.flip
      rcases exists_of_forall₂ hFlip hEntry with
        ⟨old, hOld, hBoth⟩
      exact ⟨old, hOld, (Mirrors.id_iff hBoth id).mpr hId⟩
  by_cases hOld :
      ∃ old ∈ t.rowsOf UserRow.userId user, old.id = some id
  · rw [if_pos hOld, OrderedMap.set_of_old (hThere.mp hOld)]
    unfold OrderedMap.overwrite
    rw [List.forall₂_map_left_iff, List.forall₂_map_right_iff]
    refine hMirrored.imp ?_
    intro old entry hBoth
    by_cases hId : old.id = some id
    · rw [if_pos hId, if_pos ((hBoth.id_iff id).mp hId)]
      have hMerged := hNew old.userId
      rw [← hId] at hMerged
      exact hMerged
    · rw [if_neg hId, if_neg
        (fun hSame => hId ((hBoth.id_iff id).mpr hSame))]
      exact hBoth
  · rw [if_neg hOld, OrderedMap.set_of_new
      (fun hMem => hOld (hThere.mpr hMem))]
    exact List.rel_append hMirrored (.cons (hNew user) .nil)

theorem chronological_of_dates
    {noLater : JsValue → JsValue → Prop}
    {invoices others : List JsValue}
    (hDates :
      ∀ invoice ∈ invoices, ∃ other ∈ others,
        other.field "date" = invoice.field "date")
    (hOthers : Chronological noLater others) :
    Chronological noLater invoices := by
  intro a hA b hB x y hX hY hLe
  rcases hDates a hA with ⟨a', hA', hDateA⟩
  rcases hDates b hB with ⟨b', hB', hDateB⟩
  exact hOthers a' hA' b' hB' x y (hDateA.trans hX)
    (hDateB.trans hY) hLe

theorem recent_set
    {noLater : JsValue → JsValue → Prop}
    {invoices : OrderedMap JsValue JsValue}
    {key invoice copy : JsValue}
    (hDate : copy.field "date" = invoice.field "date")
    (hRecent :
      (invoices.set key invoice).size ≤ 50 ∨
        Chronological noLater
          (invoices.set key invoice).values) :
    (invoices.set key copy).size ≤ 50 ∨
      Chronological noLater (invoices.set key copy).values := by
  rcases hRecent with hFew | hOrdered
  · refine .inl ?_
    rw [OrderedMap.size_set] at hFew ⊢
    exact hFew
  · refine .inr (chronological_of_dates ?_ hOrdered)
    intro found hFound
    rcases List.mem_map.mp hFound with
      ⟨⟨k, value⟩, hEntry, rfl⟩
    have hGet := (OrderedMap.get?_eq_some_iff _ k value).mpr
      hEntry
    rw [OrderedMap.get?_set] at hGet
    by_cases hKey : k = key
    · rw [if_pos hKey] at hGet
      cases hGet
      have hThere : (invoices.set key invoice).get? key =
          some invoice := OrderedMap.get?_set_self _ _ _
      exact ⟨invoice, List.mem_map.mpr
        ⟨_, (OrderedMap.get?_eq_some_iff _ _ _).mp hThere, rfl⟩,
        hDate.symm⟩
    · rw [if_neg hKey] at hGet
      have hThere : (invoices.set key invoice).get? k =
          some value := by
        rw [OrderedMap.get?_set, if_neg hKey, hGet]
      exact ⟨value, List.mem_map.mpr
        ⟨_, (OrderedMap.get?_eq_some_iff _ _ _).mp hThere, rfl⟩,
        rfl⟩

theorem InvoicesKept.addInvoice
    {r : Reader}
    {d : Dialect}
    {noLater : JsValue → JsValue → Prop}
    {s : StateStore UserTables}
    {occasion : Occasion}
    {invoice answer : JsValue}
    {t : StateStore UserTables}
    (hKept :
      InvoicesKept r d noLater s.userId s.tables.invoices
        s.billing.invoices)
    (hNamed : invoice.WellNamed)
    (hStores : InvoicesStored noLater s invoice)
    (hApply :
      s.addInvoice d.database occasion invoice =
        .ok (.ok answer, t)) :
    InvoicesKept r d noLater s.userId t.tables.invoices
        t.billing.invoices ∧
      t.billing.subscription = s.billing.subscription ∧
      t = { s with
        tables :=
          { s.tables with invoices := t.tables.invoices }
        billing := t.billing } := by
  unfold StateStore.addInvoice at hApply
  rcases bind_eq_ok.mp hApply with ⟨tables, hSave, hApply⟩
  rcases bind_eq_ok.mp hApply with ⟨billing, hAdd, hApply⟩
  cases hApply
  unfold BillingContainer.addInvoice at hAdd
  rcases bind_eq_ok.mp hAdd with ⟨found, hFound, hAdd⟩
  rcases bind_eq_ok.mp hAdd with ⟨copy, hCopy, hAdd⟩
  cases hAdd
  have hStored := hStores.stored
  rcases hStored.filled "id" List.mem_cons_self with
    ⟨id, hNonempty, hId⟩
  rcases hStored.amount with ⟨n, hAmount⟩
  have hJson := jsonCopy_eq_ok_iff.mp hCopy
  have hKey :
      found.orElse (invoice.field "reference") = .text id := by
    unfold JsValue.read at hFound
    split at hFound
    · cases hFound
    · cases hFound
      rw [orElse_of_isFilled ⟨id, hNonempty, hId⟩, hId]
  rcases saveInvoice_eq_ok ⟨hNonempty, hId⟩ hAmount hSave with
    ⟨subtotal, taxAmount, taxRate, columns, hSubtotal, hTax,
      hRate, rfl, hTables⟩
  have hDate : copy.field "date" = invoice.field "date" := by
    have hFilled := hStored.filled "date" (by decide)
    rcases hFilled with ⟨text, _, hText⟩
    rw [field_of_json hStored.record
      (hNamed.namesDistinct hStored.record) hJson, hText]
    rfl
  have hRecent := hStores.recent
  rw [hId] at hRecent
  rw [hTables]
  refine ⟨?_, rfl, rfl⟩
  dsimp only
  rw [hKey]
  exact
    { mirrored :=
        mirrored_set hKept.mirrored
          (fun _ =>
            mirrors_of_stored hStored hNamed hJson
              ⟨hNonempty, hId⟩ hAmount hSubtotal hTax hRate d)
          (fun row hRow hSame =>
            hStores.own row hRow id hSame hId)
      recent := recent_set hDate hRecent }

------------------------------------------------------------
-- The Invoices That Are Read
------------------------------------------------------------

/- Copies of invoices with distinct ids are loaded in order. -/
theorem putInvoices_eq_load
    {invoices : List JsValue}
    (hCopies :
      ∀ invoice ∈ invoices,
        invoice.IsCopy ∧ IsFilled (invoice.field "id"))
    (filled : OrderedMap JsValue JsValue) :
    BillingContainer.putInvoices invoices filled =
      (none,
        invoices.foldl
          (fun m invoice => m.set (invoice.field "id") invoice)
          filled) := by
  induction invoices generalizing filled with
  | nil => rfl
  | cons invoice rest ih =>
      rw [List.forall_mem_cons] at hCopies
      rcases hCopies.1 with ⟨hCopy, hId⟩
      have hRead :
          invoice.read "id" = .ok (invoice.field "id") := by
        have hPresent : invoice.isNullish ≠ true := by
          intro hNullish
          rcases hId with ⟨text, _, hText⟩
          cases invoice with
          | undefined | null => cases hText
          | _ => cases hNullish
        unfold JsValue.read
        rw [if_neg hPresent]
      have hPut :
          BillingContainer.putInvoice filled invoice =
            .ok (filled.set (invoice.field "id") invoice) := by
        unfold BillingContainer.putInvoice
        rw [hRead, bind_ok, jsonCopy_eq_ok_iff.mpr hCopy,
          bind_ok, orElse_of_isFilled hId]
        rfl
      unfold BillingContainer.putInvoices
      rw [hPut]
      exact ih hCopies.2 _

theorem reloadBilling_eq
    {r : Reader}
    {d : Dialect}
    {user : String}
    {t : UserTables}
    {read loaded : JsValue}
    {filled : OrderedMap JsValue JsValue}
    (hGet : getSubscription r d user t.subscriptions = .ok read)
    (hHydrated :
      BillingContainer.hydratedSubscription user read =
        .ok loaded)
    (hPut :
      BillingContainer.putInvoices
          (listInvoices r d user t.invoices) .empty =
        (none, filled)) :
    (reloadBilling r d user t).subscription = loaded ∧
      (reloadBilling r d user t).invoices = filled := by
  unfold reloadBilling
  rw [hGet]
  dsimp only
  unfold BillingContainer.hydrate
  rw [hHydrated]
  dsimp only [JsValue.items]
  rw [hPut]
  exact ⟨rfl, rfl⟩

theorem map_eq_of_forall₂
    {α β γ : Type}
    {R : α → β → Prop}
    {f : α → γ}
    {g : β → γ}
    (hSame : ∀ x y, R x y → f x = g y)
    {xs : List α}
    {ys : List β}
    (hEach : List.Forall₂ R xs ys) :
    xs.map f = ys.map g := by
  induction hEach with
  | nil => rfl
  | cons hFirst _ ih =>
      rw [List.map_cons, List.map_cons, hSame _ _ hFirst, ih]

theorem Mirrors.field_id
    {r : Reader}
    {d : Dialect}
    {row : UserRow}
    {entry : JsValue × JsValue}
    (hMirrors : Mirrors r d row entry) :
    (invoiceOf r d row).field "id" = entry.1 ∧
      IsFilled ((invoiceOf r d row).field "id") := by
  rcases hMirrors.id with ⟨id, hNonempty, hRow, hEntry⟩
  have hField :
      (invoiceOf r d row).field "id" =
        Dialect.textOrNull row.id := rfl
  rw [hField, hRow, hEntry]
  exact ⟨rfl, id, hNonempty, rfl⟩

theorem Mirrors.dates
    {r : Reader}
    {d : Dialect}
    {row : UserRow}
    {entry : JsValue × JsValue}
    (hMirrors : Mirrors r d row entry) :
    (invoiceOf r d row).field "date" =
        .text (dateText d row) ∧
      entry.2.field "date" = .text (dateText d row) := by
  rcases hMirrors.date with ⟨text, hRow, hEntry⟩
  have hField :
      (invoiceOf r d row).field "date" =
        Dialect.textOrNull
          (d.storedText (Dialect.column row 1)) := rfl
  unfold dateText
  rw [hField, hRow, hEntry]
  exact ⟨rfl, rfl⟩

/- The rows that are read have the latest texts. -/
theorem dateText_le_of_drop
    {d : Dialect}
    {user : String}
    {t : Table UserRow String UserRow.id}
    {n : Nat}
    {kept other : UserRow}
    (hKept : kept ∈ (invoiceRows d user t).take n)
    (hOther : other ∈ (invoiceRows d user t).drop n) :
    dateText d other ≤ dateText d kept := by
  have hSorted :
      (invoiceRows d user t).Pairwise
        (fun a b =>
          decide (dateText d b ≤ dateText d a) = true) := by
    refine List.pairwise_mergeSort ?_ ?_ _
    · intro a b c hAB hBC
      rw [decide_eq_true_iff] at hAB hBC ⊢
      exact String.le_trans hBC hAB
    · intro a b
      rw [Bool.or_eq_true, decide_eq_true_iff,
        decide_eq_true_iff]
      exact String.le_total _ _
  rw [← List.take_append_drop n (invoiceRows d user t),
    List.pairwise_append] at hSorted
  exact of_decide_eq_true
    (hSorted.2.2 kept hKept other hOther)

section Recent

variable
  {r : Reader}
  {d : Dialect}
  {user : String}
  {t : Table UserRow String UserRow.id}
  {entries : List (JsValue × JsValue)}

theorem isCopy_of_mirrored
    (hEach :
      List.Forall₂ (Mirrors r d) (invoiceRows d user t)
        entries) :
    ∀ invoice ∈ listInvoices r d user t,
      invoice.IsCopy ∧ IsFilled (invoice.field "id") := by
  intro invoice hInvoice
  rcases List.mem_map.mp hInvoice with ⟨row, hRow, rfl⟩
  rcases exists_of_forall₂ (List.forall₂_take 50 hEach) hRow
    with ⟨entry, _, hBoth⟩
  exact ⟨hBoth.copy, hBoth.field_id.2⟩

/- No invoice replaces another one that is put before it. -/
theorem values_of_mirrored
    (hEach :
      List.Forall₂ (Mirrors r d) (invoiceRows d user t) entries)
    (hNodup : (entries.map Prod.fst).Nodup) :
    (OrderedMap.load (fun invoice => invoice.field "id")
        (fun invoice => invoice)
        (listInvoices r d user t)).values =
      listInvoices r d user t := by
  have hKeys :
      (listInvoices r d user t).map
          (fun invoice => invoice.field "id") =
        (entries.take 50).map Prod.fst := by
    unfold listInvoices
    rw [List.map_map]
    exact map_eq_of_forall₂
      (fun _ _ hBoth => hBoth.field_id.1)
      (List.forall₂_take 50 hEach)
  have hDistinct :
      ((listInvoices r d user t).map
        (fun invoice => invoice.field "id")).Nodup := by
    rw [hKeys]
    exact hNodup.sublist
      ((List.take_sublist 50 entries).map Prod.fst)
  have hLoad := OrderedMap.load_entries
    (fun invoice : JsValue => invoice) hDistinct
  unfold OrderedMap.values
  rw [hLoad, List.map_map]
  exact List.map_id _

theorem views_of_mirrored
    (hEach :
      List.Forall₂ (Mirrors r d) (invoiceRows d user t)
        entries) :
    (listInvoices r d user t).map invoiceView =
      ((entries.take 50).map Prod.snd).map invoiceView := by
  unfold listInvoices
  rw [List.map_map, List.map_map]
  exact map_eq_of_forall₂ (fun _ _ hBoth => hBoth.view)
    (List.forall₂_take 50 hEach)

/- What is omitted comes after what is read. -/
theorem noLater_of_omitted
    {noLater : JsValue → JsValue → Prop}
    (hEach :
      List.Forall₂ (Mirrors r d) (invoiceRows d user t) entries)
    (hOrdered : Chronological noLater (entries.map Prod.snd))
    {kept other : JsValue}
    (hKept : kept ∈ listInvoices r d user t)
    (hOther : other ∈ (entries.drop 50).map Prod.snd) :
    noLater (other.field "date") (kept.field "date") := by
  rcases List.mem_map.mp hKept with ⟨row, hRow, rfl⟩
  rcases List.mem_map.mp hOther with ⟨entry, hEntry, rfl⟩
  rcases exists_of_forall₂ (List.forall₂_take 50 hEach) hRow
    with ⟨newer, hNewer, hRowMirrors⟩
  have hFlip :
      List.Forall₂ (flip (Mirrors r d)) (entries.drop 50)
        ((invoiceRows d user t).drop 50) :=
    (List.forall₂_drop 50 hEach).flip
  rcases exists_of_forall₂ hFlip hEntry with
    ⟨earlier, hEarlier, hEntryMirrors⟩
  have hDates := Mirrors.dates hEntryMirrors
  rw [hRowMirrors.dates.1, hDates.2]
  exact hOrdered entry.2
    (List.mem_map_of_mem (List.mem_of_mem_drop hEntry)) newer.2
    (List.mem_map_of_mem (List.mem_of_mem_take hNewer)) _ _
    hDates.2 hRowMirrors.dates.2
    (dateText_le_of_drop hRow hEarlier)

theorem Chronological.perm
    {noLater : JsValue → JsValue → Prop}
    {first second : List JsValue}
    (hPerm : first.Perm second)
    (hOrdered : Chronological noLater second) :
    Chronological noLater first :=
  fun a hA b hB =>
    hOrdered a (hPerm.mem_iff.mp hA) b (hPerm.mem_iff.mp hB)

end Recent

/- Another store reads the fifty latest of the invoices. -/
theorem InvoicesKept.sameRecent
    {r : Reader}
    {d : Dialect}
    {noLater : JsValue → JsValue → Prop}
    {user : String}
    {t : Table UserRow String UserRow.id}
    {invoices : OrderedMap JsValue JsValue}
    (hKept : InvoicesKept r d noLater user t invoices) :
    ∃ filled,
      BillingContainer.putInvoices (listInvoices r d user t)
          .empty = (none, filled) ∧
        SameRecent noLater filled.values invoices.values := by
  have hRows :
      (invoiceRows d user t).Perm
        (t.rowsOf UserRow.userId user) :=
    List.mergeSort_perm _ _
  rcases List.perm_comp_forall₂ hRows hKept.mirrored with
    ⟨entries, hEach, hEntries⟩
  have hNodup : (entries.map Prod.fst).Nodup :=
    (hEntries.map Prod.fst).nodup_iff.mpr invoices.nodup
  have hValues := values_of_mirrored hEach hNodup
  refine
    ⟨_, putInvoices_eq_load (isCopy_of_mirrored hEach) .empty,
      ?_⟩
  change
    SameRecent noLater
      (OrderedMap.load (fun invoice => invoice.field "id")
        (fun invoice => invoice)
        (listInvoices r d user t)).values invoices.values
  rw [hValues]
  refine ⟨(entries.drop 50).map Prod.snd, ?_, ?_, ?_⟩
  · rw [List.map_append, views_of_mirrored hEach,
      ← List.map_append, ← List.map_append,
      List.take_append_drop]
    exact (hEntries.map Prod.snd).map invoiceView
  · by_cases hFew : entries.length ≤ 50
    · refine .inl ?_
      rw [List.drop_eq_nil_of_le hFew]
      rfl
    · refine .inr ?_
      unfold listInvoices
      rw [List.length_map, List.length_take, hEach.length_eq]
      omega
  · intro kept hKeptMem other hOther
    rcases hKept.recent with hFew | hOrdered
    · have hLength : entries.length ≤ 50 := by
        rw [hEntries.length_eq]
        exact hFew
      rw [List.drop_eq_nil_of_le hLength] at hOther
      cases hOther
    · exact noLater_of_omitted hEach
        (hOrdered.perm (hEntries.map Prod.snd)) hKeptMem hOther

end Mutators

end ControlPlane
