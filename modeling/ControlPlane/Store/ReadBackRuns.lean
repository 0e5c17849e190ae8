import ControlPlane.Data.Run
import ControlPlane.Store.ReadBackBilling
import ControlPlane.Store.Separation

/-
  Preferences are read back in every run.

  A call that returns has run its transaction to the end. It
  writes one table and one container, and leaves what is kept
  of the others. A new user reads the defaults. A section of
  the settings that is stored under another name than it is
  read by comes back as it was.

  Main declarations:
    * `perform_eq_ok`
    * `Kept` and `Kept.saveStep`
    * `preferences_read_back`
-/

------------------------------------------------------------
-- What Is Kept
------------------------------------------------------------

namespace ControlPlane

namespace Mutators

namespace StateStore

theorem perform_eq_ok
    {σ : Type}
    {sql : Sqlite σ}
    {s : StateStore σ}
    {occasion : Occasion}
    {mutation : GroupMutation}
    {answer : JsValue}
    (hReturns :
      (s.perform sql occasion (.transaction mutation)).1 =
        .ok answer) :
    ∃ n t,
      mutation.apply sql s occasion n = .ok (.ok answer, t) ∧
        (s.perform sql occasion (.transaction mutation)).2 =
          t.withTables
            (sql.setRevision mutation.group n t.tables) := by
  unfold perform executeGroupTransaction at hReturns ⊢
  dsimp only at hReturns ⊢
  cases hCurrent : s.currentRevision sql mutation.group with
  | error error =>
      rw [hCurrent] at hReturns
      cases hReturns
  | ok current =>
      rw [hCurrent] at hReturns
      dsimp only at hReturns ⊢
      by_cases hConflict :
          conflicts mutation.expectedRevision current = true
      · rw [if_pos hConflict] at hReturns
        cases hReturns
      · rw [if_neg hConflict] at hReturns ⊢
        cases hApply :
            mutation.apply sql s occasion (current + 1) with
        | error error =>
            rw [hApply] at hReturns
            cases hReturns
        | ok outcome =>
            rw [hApply] at hReturns
            cases outcome with
            | mk result t =>
                cases result with
                | error error => cases hReturns
                | ok result =>
                    dsimp only at hReturns ⊢
                    cases hClosing : occasion.closing with
                    | some error =>
                        rw [hClosing] at hReturns
                        cases hReturns
                    | none =>
                        rw [hClosing] at hReturns
                        cases hReturns
                        exact ⟨current + 1, t, hApply, rfl⟩

/- Another store reads the preferences that are in memory. -/
structure Kept
    (r : Reader)
    (d : Dialect)
    (noLater : JsValue → JsValue → Prop)
    (s : StateStore UserTables) : Prop where
  config :
    ConfigKept s.userId s.tables.config s.config.globalConfig
  settings :
    SettingsKept r d s.userId s.tables.settings
      s.settings.settings
  plan :
    PlanKept r d s.userId s.tables.subscriptions
      s.billing.subscription
  invoices :
    InvoicesKept r d noLater s.userId s.tables.invoices
      s.billing.invoices

variable
  {r : Reader}
  {d : Dialect}
  {noLater : JsValue → JsValue → Prop}
  {s t : StateStore UserTables}

theorem Kept.readsBack
    (hKept : Kept r d noLater s)
    (overrides : ParsedOverrides) :
    ReadsBack r d noLater overrides s := by
  rcases hKept.settings.sections_same with
    ⟨hProfile, hSecurity, hPresentation⟩
  rcases hKept.plan with
    ⟨read, loaded, hGet, hHydrated, hPlan⟩
  rcases hKept.invoices.sameRecent with
    ⟨filled, hPut, hInvoices⟩
  rcases reloadBilling_eq hGet hHydrated hPut with
    ⟨hSubscription, hFilled⟩
  exact
    { config := hKept.config.sameConfig overrides
      profile := hProfile
      security := hSecurity
      presentation := hPresentation
      subscription := hSubscription ▸ hPlan
      invoices := hFilled ▸ hInvoices }

theorem IsNew.kept
    (hNew : s.IsNew)
    (r : Reader)
    (d : Dialect)
    (noLater : JsValue → JsValue → Prop) :
    Kept r d noLater s where
  config := by
    rw [hNew.config]
    exact configKept_fresh hNew.noConfig
  settings := by
    rw [hNew.settings]
    exact settingsKept_fresh hNew.noSettings r d
  plan := by
    rw [hNew.billing]
    exact planKept_fresh hNew.noSubscription r d
  invoices := by
    rw [hNew.billing]
    exact invoicesKept_fresh hNew.noInvoices r d noLater

/- The revision of a group is no preference. -/
theorem Kept.withRevision
    (hKept : Kept r d noLater t)
    (group : String)
    (n : Nat) :
    Kept r d noLater
      (t.withTables
        (d.database.setRevision group n t.tables)) where
  config := hKept.config
  settings := hKept.settings
  plan := hKept.plan
  invoices := hKept.invoices

theorem Kept.withConfig
    (hKept : Kept r d noLater s)
    (hConfig :
      ConfigKept s.userId t.tables.config t.config.globalConfig)
    (hFrame :
      t = { s with
        tables := { s.tables with config := t.tables.config }
        config := t.config }) :
    Kept r d noLater t := by
  rw [hFrame]
  exact
    { config := hConfig
      settings := hKept.settings
      plan := hKept.plan
      invoices := hKept.invoices }

theorem Kept.withSettings
    (hKept : Kept r d noLater s)
    (hSettings :
      SettingsKept r d s.userId t.tables.settings
        t.settings.settings)
    (hFrame :
      t = { s with
        tables :=
          { s.tables with settings := t.tables.settings }
        settings := t.settings }) :
    Kept r d noLater t := by
  rw [hFrame]
  exact
    { config := hKept.config
      settings := hSettings
      plan := hKept.plan
      invoices := hKept.invoices }

theorem Kept.withPlan
    (hKept : Kept r d noLater s)
    (hPlan :
      PlanKept r d s.userId t.tables.subscriptions
        t.billing.subscription)
    (hInvoices : t.billing.invoices = s.billing.invoices)
    (hFrame :
      t = { s with
        tables :=
          { s.tables with
              subscriptions := t.tables.subscriptions }
        billing := t.billing }) :
    Kept r d noLater t := by
  have hSame := hKept.invoices
  rw [← hInvoices] at hSame
  rw [hFrame]
  exact
    { config := hKept.config
      settings := hKept.settings
      plan := hPlan
      invoices := hSame }

theorem Kept.withInvoices
    (hKept : Kept r d noLater s)
    (hInvoices :
      InvoicesKept r d noLater s.userId t.tables.invoices
        t.billing.invoices)
    (hPlan : t.billing.subscription = s.billing.subscription)
    (hFrame :
      t = { s with
        tables :=
          { s.tables with invoices := t.tables.invoices }
        billing := t.billing }) :
    Kept r d noLater t := by
  have hSame := hKept.plan
  rw [← hPlan] at hSame
  rw [hFrame]
  exact
    { config := hKept.config
      settings := hKept.settings
      plan := hSame
      invoices := hInvoices }

------------------------------------------------------------
-- Steps
------------------------------------------------------------

/- A mutation that keeps the preferences commits them. -/
theorem Kept.perform
    {occasion : Occasion}
    {mutation : GroupMutation}
    {answer : JsValue}
    (hReturns :
      (s.perform d.database occasion
        (.transaction mutation)).1 = .ok answer)
    (hApply :
      ∀ n t,
        mutation.apply d.database s occasion n =
            .ok (.ok answer, t) →
          Kept r d noLater t) :
    Kept r d noLater
      (s.perform d.database occasion
        (.transaction mutation)).2 := by
  rcases perform_eq_ok hReturns with ⟨n, t, hDone, hLeft⟩
  rw [hLeft]
  exact (hApply n t hDone).withRevision mutation.group n

/- A call that stores what it keeps is read back. -/
theorem Kept.saveStep
    (hKept : Kept r d noLater s)
    {event : Occasion × SavingCall}
    (hReturns : s.Returns d event)
    (hStores : Stores r d noLater s event) :
    Kept r d noLater (s.saveStep d event) := by
  rcases event with ⟨occasion, call⟩
  rcases hReturns with ⟨answer, hReturns⟩
  cases call with
  | updateCategory category values expected =>
      refine Kept.perform hReturns ?_
      intro n t hApply
      rcases hKept.config.updateCategory hStores hApply with
        ⟨hConfig, hFrame⟩
      exact hKept.withConfig hConfig hFrame
  | hydrateConfig globalConfig =>
      rcases hKept.config.hydrateConfig globalConfig.wellNamed
          hStores (Prod.ext hReturns rfl) with
        ⟨hConfig, hFrame⟩
      exact hKept.withConfig hConfig hFrame
  | updateProfile profile expected =>
      refine Kept.perform hReturns ?_
      intro n t hApply
      rcases hKept.settings.updateProfile hStores hApply with
        ⟨hSettings, hFrame⟩
      exact hKept.withSettings hSettings hFrame
  | updatePresentation prefs expected =>
      refine Kept.perform hReturns ?_
      intro n t hApply
      rcases hKept.settings.updatePresentation hStores hApply
        with ⟨hSettings, hFrame⟩
      exact hKept.withSettings hSettings hFrame
  | updateSecurity sec expected =>
      refine Kept.perform hReturns ?_
      intro n t hApply
      rcases hKept.settings.updateSecurity hStores hApply with
        ⟨hSettings, hFrame⟩
      exact hKept.withSettings hSettings hFrame
  | updateSubscription updates expected =>
      refine Kept.perform hReturns ?_
      intro n t hApply
      rcases PlanKept.updateSubscription hStores hApply with
        ⟨hPlan, hInvoices, hFrame⟩
      exact hKept.withPlan hPlan hInvoices hFrame
  | addInvoice invoice =>
      refine Kept.perform hReturns ?_
      intro n t hApply
      rcases hKept.invoices.addInvoice invoice.wellNamed hStores
          hApply with ⟨hInvoices, hPlan, hFrame⟩
      exact hKept.withInvoices hInvoices hPlan hFrame

/-
  In every run of calls that return, and that store what they
  keep, another store reads the preferences that are in
  memory.
-/
theorem preferences_read_back
    (overrides : ParsedOverrides)
    {events : List (Occasion × SavingCall)}
    (hNew : s.IsNew)
    (hReturns : Along (saveStep d) (Returns d) s events)
    (hStores :
      Along (saveStep d) (Stores r d noLater) s events) :
    Throughout (saveStep d) (ReadsBack r d noLater overrides) s
      events := by
  intro past future hEvents
  rw [hEvents, along_append] at hReturns hStores
  have hStep :
      ∀ (s : StateStore UserTables)
        (event : Occasion × SavingCall),
        Kept r d noLater s →
          s.Returns d event ∧ Stores r d noLater s event →
            Kept r d noLater (s.saveStep d event) :=
    fun _ _ hKept hEvent => hKept.saveStep hEvent.1 hEvent.2
  have hBoth := hReturns.1.and hStores.1
  exact (run_invariant hStep (hNew.kept r d noLater)
    hBoth).readsBack overrides

/- A letter is read in upper case, and no text is a number. -/
def plainReader : Reader where
  numeral := fun _ => none
  upper := fun c => String.singleton c.toUpper

/- Dates that are written alike, as their texts are ordered. -/
def writtenBefore : JsValue → JsValue → Prop
| .text x, .text y => x ≤ y
| _, _ => False

def setsBaseStake : Occasion × SavingCall :=
  (morning,
    .updateCategory (.text "pricing")
      ⟨.object [("baseStake", .number (.finite 2000))],
        by decide +kernel⟩
      .undefined)

/- The user asks for a theme. -/
def choosesTheme (theme : String) : Occasion × SavingCall :=
  (morning,
    .updatePresentation
      ⟨.object [("theme", .text theme)],
        (JsValue.everywhere_object JsValue.NamesNode _).mpr
          ⟨List.nodup_singleton _, fun _ hMember =>
            List.mem_singleton.mp hMember ▸ trivial⟩⟩
      .undefined)

/- An invoice that leaves out what it may. -/
def paysInvoice : Occasion × SavingCall :=
  (morning,
    .addInvoice
      ⟨.object
        [("id", .text "inv-1"),
          ("reference", .null),
          ("date", .text "2026-01-01"),
          ("amount", .number (.finite 20)),
          ("status", .text "paid"),
          ("currency", .text "USD"),
          ("currencySymbol", .text "$")],
        by decide +kernel⟩)

theorem returns_of_isOk
    {event : Occasion × SavingCall}
    (hOk : (s.save d event.1 event.2).1.isOk = true) :
    s.Returns d event := by
  unfold Returns
  cases hSave : (s.save d event.1 event.2).1 with
  | error error =>
      rw [hSave] at hOk
      cases hOk
  | ok answer => exact ⟨answer, rfl⟩

theorem paysInvoice_stored
    (hRows : s.tables.invoices.rows = []) :
    Stores plainReader d writtenBefore s paysInvoice where
  stored :=
    { record := ⟨_, rfl⟩
      filled := by
        intro name hName
        simp only [List.mem_cons, List.not_mem_nil,
          or_false] at hName
        rcases hName with rfl | rfl | rfl | rfl | rfl <;>
          exact ⟨_, by decide, rfl⟩
      reference := .inl rfl
      amount := ⟨_, rfl⟩
      details := by
        intro name hName
        simp only [List.mem_cons, List.not_mem_nil,
          or_false] at hName
        rcases hName with rfl | rfl | rfl <;>
          exact .inl (.inl rfl)
      numbers := by
        intro name hName
        simp only [List.mem_cons, List.not_mem_nil,
          or_false] at hName
        rcases hName with rfl | rfl | rfl <;>
          exact .inl rfl }
  own := by
    intro row hRow
    rw [hRows] at hRow
    cases hRow
  recent := .inr (fun _ _ _ _ _ _ _ _ hOrder => hOrder)

theorem newcomer_isNew : newcomer.store.IsNew :=
  ⟨rfl, rfl, rfl, rfl, rfl, rfl, rfl⟩

/- A stake, the default theme and an invoice. -/
theorem newcomer_reads_back :
    Throughout (saveStep permissive)
      (ReadsBack plainReader permissive writtenBefore [])
      newcomer.store
      [setsBaseStake, choosesTheme "light", paysInvoice] := by
  refine preferences_read_back [] newcomer_isNew ?_ ?_
  · refine ⟨?_, ?_, ?_, trivial⟩ <;>
      exact returns_of_isOk (by decide +kernel)
  · refine ⟨?_, ?_, ?_, trivial⟩
    · intro name _ member hMember _
      rw [List.mem_singleton.mp hMember]
      exact ⟨_, rfl⟩
    · intro member hMember
      rw [List.mem_singleton.mp hMember]
      decide +kernel
    · exact paysInvoice_stored rfl

/- A theme that is chosen comes back as the default. -/
theorem chosen_theme_is_not_read_back :
    ¬ ∀ (s : StateStore UserTables)
      (events : List (Occasion × SavingCall)),
      s.IsNew →
        Along (saveStep permissive) (Returns permissive) s
          events →
          Throughout (saveStep permissive)
            (ReadsBack plainReader permissive writtenBefore [])
            s events := by
  intro hClaim
  have hReturns :
      newcomer.store.Returns permissive
        (choosesTheme "dark") :=
    returns_of_isOk (by decide +kernel)
  have hReads :=
    hClaim newcomer.store [choosesTheme "dark"]
      newcomer_isNew ⟨hReturns, trivial⟩
      [choosesTheme "dark"] [] rfl
  have hTheme := hReads.presentation "theme"
  revert hTheme
  decide +kernel

end StateStore

end Mutators

end ControlPlane
