import ControlPlane.Store.ReadBackConfig

/-
  The settings are read back as they are kept.

  A row of the settings is written out of all sections. Where
  a call repeats what is kept of the profile and of the
  presentation, these stay the defaults. The security that is
  stored is the one in memory.

  Main declarations:
    * `SettingsAs` and `Columns`
    * `getSettings_upsert`
    * `SettingsKept` and its steps
-/

------------------------------------------------------------
-- Sections
------------------------------------------------------------

namespace ControlPlane

namespace Mutators

open JsValue

def profileData : JsValue :=
  .object
    [("name", .text "Operator"),
      ("email", .text "operator@betting-automation.internal"),
      ("pendingEmail", .null),
      ("avatarUrl", .null)]

def presentation : JsValue :=
  .object
    [("theme", .text "light"), ("density", .text "comfortable")]

/- A section with its data. -/
def availableSection (data : JsValue) : JsValue :=
  .object [("status", .text "AVAILABLE"), ("data", data)]

/- The sections that a user has without having changed them. -/
structure SettingsAs
    (mfa : Bool)
    (sessions settings : JsValue) : Prop where
  profile :
    SameSection (settings.field "profile")
      (availableSection profileData)
  presentation :
    (settings.field "presentationPreferences").SameFields
      presentation
  security :
    SameSection (settings.field "security")
      (availableSection (securityData mfa sessions))

theorem SameSection.symm
    {a b : JsValue}
    (hSame : SameSection a b) : SameSection b a :=
  ⟨fun name hName => (hSame.1 name hName).symm, hSame.2.symm⟩

theorem SameSection.trans
    {a b c : JsValue}
    (hFirst : SameSection a b)
    (hSecond : SameSection b c) : SameSection a c :=
  ⟨fun name hName =>
      (hFirst.1 name hName).trans (hSecond.1 name hName),
    hFirst.2.trans hSecond.2⟩

theorem sameSection_rfl (value : JsValue) :
    SameSection value value :=
  ⟨fun _ _ => rfl, fun _ => rfl⟩

/- The sections of the settings can be laid over. -/
structure Sections (settings : JsValue) : Prop where
  record : settings.IsRecord
  profile : (settings.field "profile").IsRecord
  data : ((settings.field "profile").field "data").IsRecord
  presentation :
    (settings.field "presentationPreferences").IsRecord
  security : (settings.field "security").IsRecord

/- A value with a field is no empty one. -/
theorem truthy_of_field
    {value : JsValue}
    (name : String)
    (hField : value.field name ≠ .undefined) :
    value.truthy = true := by
  cases value with
  | text text =>
      unfold truthy
      rw [decide_eq_true_iff]
      rintro rfl
      exact hField rfl
  | undefined | null => exact absurd rfl hField
  | boolean | number | bigint => exact absurd rfl hField
  | _ => rfl

------------------------------------------------------------
-- Rows That Have Been Written
------------------------------------------------------------

/- The columns of settings that have been saved. -/
def settingsColumns
    (now : String)
    (settings : JsValue) : List Binding :=
  let profile := sectionData settings "profile"
  let security := sectionData settings "security"
  let pres :=
    (settings.field "presentationPreferences").orElse
      (.object [])
  let notifs := sectionData settings "notifications"
  [.value ((profile.field "name").orElse (.text "Operator")),
    .value ((profile.field "email").orElse
      (.text "operator@betting-automation.internal")),
    .value ((profile.field "pendingEmail").orElse .null),
    .value ((profile.field "avatarUrl").orElse .null),
    flag (security.field "mfaEnabled").truthy,
    .value ((security.field "activeSessions").orElse
      (.number (.finite 1))),
    .value ((pres.field "theme").orElse (.text "light")),
    .value ((pres.field "density").orElse
      (.text "comfortable")),
    flag (notifs.field "emailAlerts" ≠ .boolean false),
    flag (notifs.field "pushAlerts").truthy,
    flag (notifs.field "weeklyReport" ≠ .boolean false),
    .text now]

theorem saveSettings_eq_ok
    {d : Dialect}
    {user now : String}
    {settings : JsValue}
    {t t' : UserTables}
    (hSave :
      saveSettings d.database user now settings t = .ok t') :
    t' =
      { t with
          settings :=
            t.settings.upsert
              ⟨none, user, settingsColumns now settings⟩
              (fun old =>
                old.withColumns (settingsColumns now settings))
              (fun _ => rfl) } := by
  unfold saveSettings at hSave
  rcases bind_eq_ok.mp hSave with ⟨_, _, hSave⟩
  exact Dialect.execute_eq_ok hSave

/- What the columns of the sections are. -/
structure Columns
    (mfa : Bool)
    (sessions settings : JsValue) : Prop where
  name :
    ((sectionData settings "profile").field "name").orElse
      (.text "Operator") = .text "Operator"
  email :
    ((sectionData settings "profile").field "email").orElse
      (.text "operator@betting-automation.internal") =
        .text "operator@betting-automation.internal"
  pendingEmail :
    ((sectionData settings "profile").field
      "pendingEmail").orElse .null = .null
  avatarUrl :
    ((sectionData settings "profile").field
      "avatarUrl").orElse .null = .null
  mfaEnabled :
    ((sectionData settings "security").field
      "mfaEnabled").truthy = mfa
  activeSessions :
    ((sectionData settings "security").field
      "activeSessions").orElse (.number (.finite 1)) = sessions
  theme :
    (((settings.field "presentationPreferences").orElse
      (.object [])).field "theme").orElse (.text "light") =
        .text "light"
  density :
    (((settings.field "presentationPreferences").orElse
      (.object [])).field "density").orElse
        (.text "comfortable") = .text "comfortable"

theorem readNumber_sessions
    {r : Reader}
    {sessions : JsValue}
    (hSessions : SessionsStored r sessions) :
    r.readNumber (.value sessions) = sessions := by
  rcases hSessions with ⟨n, _, rfl⟩ | ⟨text, _, hText, rfl⟩
  · rfl
  · unfold Reader.readNumber
    dsimp only
    rw [hText]

theorem isCopy_sessions
    {r : Reader}
    {sessions : JsValue}
    (hSessions : SessionsStored r sessions) :
    sessions.IsCopy := by
  rcases hSessions with ⟨n, _, rfl⟩ | ⟨text, _, _, rfl⟩ <;> rfl

theorem readFlag_flag
    (r : Reader)
    (value : Bool) :
    readFlag r (flag value) = .boolean value := by
  cases value <;> rfl

/- The settings that are read of a row. -/
def settingsRead
    (user : String)
    (mfa : Bool)
    (sessions : JsValue)
    (emailAlerts pushAlerts weeklyReport : Bool) : JsValue :=
  .object
    [("userId", .text user),
      ("profile", availableSection profileData),
      ("security",
        availableSection (securityData mfa sessions)),
      ("presentationPreferences", presentation),
      ("notifications", availableSection
        (.object
          [("emailAlerts", .boolean emailAlerts),
            ("pushAlerts", .boolean pushAlerts),
            ("weeklyReport", .boolean weeklyReport)])),
      ("capabilities", .object
        [("canChangeName", .boolean true),
          ("canChangeEmail", .boolean true),
          ("canChangePassword", .boolean true),
          ("canConfigureMFA", .boolean true),
          ("canRevokeSessions", .boolean true),
          ("canDeleteAccount", .boolean false),
          ("canCancelDeletion", .boolean false)])]

theorem settingsRead_as
    (user : String)
    (mfa : Bool)
    (sessions : JsValue)
    (emailAlerts pushAlerts weeklyReport : Bool) :
    SettingsAs mfa sessions
      (settingsRead user mfa sessions emailAlerts pushAlerts
        weeklyReport) where
  profile := sameSection_rfl _
  presentation := fun _ => rfl
  security := sameSection_rfl _

theorem settingsRead_isCopy
    {mfa : Bool}
    {sessions : JsValue}
    (hSessions : sessions.IsCopy)
    (user : String)
    (emailAlerts pushAlerts weeklyReport : Bool) :
    (settingsRead user mfa sessions emailAlerts pushAlerts
      weeklyReport).IsCopy := by
  have hJson : sessions.json = .ok (some sessions) := hSessions
  unfold IsCopy settingsRead availableSection securityData
  simp only [json, jsonMembers, hJson, bind_ok]
  rfl

theorem userKey_eq_iff
    (user : String)
    (row : UserRow) :
    row.userKey = some user ↔ row.userId = user := by
  unfold UserRow.userKey
  rw [Option.some.injEq]

/- The row of the settings is read as it has been saved. -/
theorem getSettings_upsert
    {r : Reader}
    {mfa : Bool}
    {sessions settings : JsValue}
    (hSessions : SessionsStored r sessions)
    (hColumns : Columns mfa sessions settings)
    (d : Dialect)
    (user now : String)
    (t : Table UserRow String UserRow.userKey) :
    ∃ emailAlerts pushAlerts weeklyReport,
      getSettings r d user
          (t.upsert ⟨none, user, settingsColumns now settings⟩
            (fun old =>
              old.withColumns (settingsColumns now settings))
            (fun _ => rfl)) =
        settingsRead user mfa sessions emailAlerts pushAlerts
          weeklyReport := by
  rcases rowOf_upsert (userKey_eq_iff user) t
      (settingsColumns now settings) (fun _ => rfl) with
    ⟨row, hRow, hUser, hRowColumns⟩
  unfold getSettings
  rw [hRow]
  unfold settingsColumns at hRowColumns
  dsimp only at hRowColumns ⊢
  rw [hColumns.name, hColumns.email, hColumns.pendingEmail,
    hColumns.avatarUrl, hColumns.mfaEnabled,
    hColumns.activeSessions, hColumns.theme,
    hColumns.density] at hRowColumns
  refine
    ⟨decide ((sectionData settings "notifications").field
        "emailAlerts" ≠ .boolean false),
      ((sectionData settings "notifications").field
        "pushAlerts").truthy,
      decide ((sectionData settings "notifications").field
        "weeklyReport" ≠ .boolean false), ?_⟩
  simp only [Dialect.column, hRowColumns, hUser,
    List.getElem?_cons_zero, List.getElem?_cons_succ,
    Option.getD_some, readFlag_flag,
    readNumber_sessions hSessions]
  rfl

------------------------------------------------------------
-- Steps
------------------------------------------------------------

/-
  The sections in memory are those of a new user but for the
  security, and those that are read are the same.
-/
structure SettingsKept
    (r : Reader)
    (d : Dialect)
    (user : String)
    (t : Table UserRow String UserRow.userKey)
    (settings : JsValue) : Prop where
  sections : Sections settings
  same :
    ∃ mfa sessions,
      SessionsStored r sessions ∧
        SettingsAs mfa sessions settings ∧
          SettingsAs mfa sessions (getSettings r d user t)
  copy : (getSettings r d user t).IsCopy
  object : (getSettings r d user t).IsRecord

theorem reloadSettings_settings
    {r : Reader}
    {d : Dialect}
    {user : String}
    {t : UserTables}
    (hCopy : (getSettings r d user t.settings).IsCopy)
    (hRecord : (getSettings r d user t.settings).IsRecord) :
    (reloadSettings r d user t).settings =
      getSettings r d user t.settings := by
  unfold reloadSettings SettingsContainer.hydrate
  rw [if_pos (isObject_of_isRecord hRecord),
    jsonCopy_eq_ok_iff.mpr hCopy]
  rfl

theorem SettingsKept.sections_same
    {r : Reader}
    {d : Dialect}
    {user : String}
    {t : UserTables}
    {settings : JsValue}
    (hKept : SettingsKept r d user t.settings settings) :
    SameSection
        ((reloadSettings r d user t).settings.field "profile")
        (settings.field "profile") ∧
      SameSection
        ((reloadSettings r d user t).settings.field "security")
        (settings.field "security") ∧
      ((reloadSettings r d user t).settings.field
          "presentationPreferences").SameFields
        (settings.field "presentationPreferences") := by
  rcases hKept.same with ⟨mfa, sessions, _, hMemory, hRead⟩
  rw [reloadSettings_settings hKept.copy hKept.object]
  exact
    ⟨hRead.profile.trans hMemory.profile.symm,
      hRead.security.trans hMemory.security.symm,
      hRead.presentation.trans hMemory.presentation.symm⟩

theorem settingsKept_fresh
    {user : String}
    {t : Table UserRow String UserRow.userKey}
    (hNone : t.rowsOf UserRow.userId user = [])
    (r : Reader)
    (d : Dialect) :
    SettingsKept r d user t
      (SettingsContainer.fresh user).settings := by
  have hRead :
      getSettings r d user t = Defaults.settings user := by
    unfold getSettings rowOf
    rw [hNone]
    rfl
  have hAs :
      SettingsAs false (.number (.finite 1))
        (Defaults.settings user) :=
    { profile := sameSection_rfl _
      presentation := fun _ => rfl
      security := sameSection_rfl _ }
  exact
    { sections :=
        { record := ⟨_, rfl⟩
          profile := ⟨_, rfl⟩
          data := ⟨_, rfl⟩
          presentation := ⟨_, rfl⟩
          security := ⟨_, rfl⟩ }
      same :=
        ⟨false, .number (.finite 1),
          .inl ⟨1, by decide, rfl⟩, hAs, hRead ▸ hAs⟩
      copy := hRead ▸ rfl
      object := hRead ▸ ⟨_, rfl⟩ }

/- What is left when the settings have been updated. -/
theorem updateSettings_eq_ok
    {d : Dialect}
    {s : StateStore UserTables}
    {occasion : Occasion}
    {name : String}
    {updates answer : JsValue}
    {change :
      SettingsContainer → Except JsError SettingsContainer}
    {t : StateStore UserTables}
    (hApply :
      s.updateSettings d.database occasion name updates change =
        .ok (.ok answer, t)) :
    ∃ settings,
      change s.settings = .ok settings ∧
        t = { s with
          tables :=
            { s.tables with
                settings :=
                  s.tables.settings.upsert
                    ⟨none, s.userId,
                      settingsColumns occasion.now
                        (s.settings.settings.withMembers
                          [(name,
                            (s.settings.settings.field
                              name).spread updates)])⟩
                    (fun old =>
                      old.withColumns
                        (settingsColumns occasion.now
                          (s.settings.settings.withMembers
                            [(name,
                              (s.settings.settings.field
                                name).spread updates)])))
                    (fun _ => rfl) }
          settings := settings } := by
  unfold StateStore.updateSettings at hApply
  rcases bind_eq_ok.mp hApply with ⟨tables, hSave, hApply⟩
  rcases bind_eq_ok.mp hApply with ⟨settings, hChange, hApply⟩
  cases hApply
  rw [saveSettings_eq_ok hSave]
  exact ⟨settings, hChange, rfl⟩

/- What has been saved is read, and so the same is kept. -/
theorem settingsKept_of_saved
    {r : Reader}
    {mfa : Bool}
    {sessions target settings : JsValue}
    (hSessions : SessionsStored r sessions)
    (hColumns : Columns mfa sessions target)
    (hSections : Sections settings)
    (hAs : SettingsAs mfa sessions settings)
    (d : Dialect)
    (user now : String)
    (t : Table UserRow String UserRow.userKey) :
    SettingsKept r d user
      (t.upsert ⟨none, user, settingsColumns now target⟩
        (fun old =>
          old.withColumns (settingsColumns now target))
        (fun _ => rfl)) settings := by
  rcases getSettings_upsert hSessions hColumns d user now t with
    ⟨emailAlerts, pushAlerts, weeklyReport, hRead⟩
  exact
    { sections := hSections
      same :=
        ⟨mfa, sessions, hSessions, hAs,
          hRead ▸ settingsRead_as user mfa sessions emailAlerts
            pushAlerts weeklyReport⟩
      copy :=
        hRead ▸ settingsRead_isCopy (isCopy_sessions hSessions)
          user emailAlerts pushAlerts weeklyReport
      object := hRead ▸ ⟨_, rfl⟩ }

theorem truthy_sessions
    {r : Reader}
    {sessions : JsValue}
    (hSessions : SessionsStored r sessions) :
    sessions.truthy = true := by
  rcases hSessions with
    ⟨n, hNonzero, rfl⟩ | ⟨text, hText, _, rfl⟩
  · exact decide_eq_true hNonzero
  · exact decide_eq_true hText

theorem orElse_of_truthy
    {value : JsValue}
    (hTruthy : value.truthy = true)
    (alternative : JsValue) :
    value.orElse alternative = value := by
  unfold orElse
  rw [if_pos hTruthy]

/- A row is written of a profile that is left out as well. -/
theorem columns_of_sections
    {r : Reader}
    {mfa : Bool}
    {sessions settings : JsValue}
    (hSessions : SessionsStored r sessions)
    (hProfile :
      (settings.field "profile").field "data" = .undefined ∨
        ((settings.field "profile").field "data").SameFields
          profileData)
    (hPresentation :
      (settings.field "presentationPreferences").SameFields
        presentation)
    (hSecurity :
      ((settings.field "security").field "data").SameFields
        (securityData mfa sessions)) :
    Columns mfa sessions settings := by
  have hPres :
      (settings.field "presentationPreferences").truthy =
        true := by
    refine truthy_of_field "theme" ?_
    rw [hPresentation]
    decide
  have hData :
      ((settings.field "security").field "data").truthy =
        true := by
    refine truthy_of_field "accountStatus" ?_
    rw [hSecurity]
    intro hUndefined
    cases hUndefined
  have hSection :
      sectionData settings "security" =
        (settings.field "security").field "data" :=
    orElse_of_truthy hData _
  have hNames :
      ((sectionData settings "profile").field "name").orElse
          (.text "Operator") = .text "Operator" ∧
        ((sectionData settings "profile").field "email").orElse
          (.text "operator@betting-automation.internal") =
            .text "operator@betting-automation.internal" ∧
        ((sectionData settings "profile").field
          "pendingEmail").orElse .null = .null ∧
        ((sectionData settings "profile").field
          "avatarUrl").orElse .null = .null := by
    unfold sectionData
    rcases hProfile with hNone | hSame
    · rw [hNone]
      decide
    · have hTruthy :
          ((settings.field "profile").field "data").truthy =
            true := by
        refine truthy_of_field "name" ?_
        rw [hSame]
        decide
      rw [orElse_of_truthy hTruthy, hSame, hSame, hSame, hSame]
      decide
  exact
    { name := hNames.1
      email := hNames.2.1
      pendingEmail := hNames.2.2.1
      avatarUrl := hNames.2.2.2
      mfaEnabled := by
        rw [hSection, hSecurity]
        rfl
      activeSessions := by
        rw [hSection, hSecurity]
        exact orElse_of_truthy (truthy_sessions hSessions) _
      theme := by
        rw [orElse_of_truthy hPres, hPresentation]
        decide
      density := by
        rw [orElse_of_truthy hPres, hPresentation]
        decide }

theorem field_withSection
    {settings : JsValue}
    (hSettings : settings.IsRecord)
    {name other : String}
    (hOther : other ≠ name)
    (found : JsValue) :
    (settings.withMembers [(name, found)]).field other =
      settings.field other := by
  rw [field_withMembers hSettings, if_neg hOther]

theorem Sections.withProfile
    {settings found : JsValue}
    (hSections : Sections settings)
    (hFound : found.IsRecord)
    (hData : (found.field "data").IsRecord) :
    Sections (settings.withMembers [("profile", found)]) where
  record := ⟨_, rfl⟩
  profile := by
    rw [field_withMembers_self]
    exact hFound
  data := by
    rw [field_withMembers_self]
    exact hData
  presentation := by
    rw [field_withSection hSections.record (by decide)]
    exact hSections.presentation
  security := by
    rw [field_withSection hSections.record (by decide)]
    exact hSections.security

theorem Sections.withPresentation
    {settings found : JsValue}
    (hSections : Sections settings)
    (hFound : found.IsRecord) :
    Sections
      (settings.withMembers
        [("presentationPreferences", found)]) where
  record := ⟨_, rfl⟩
  profile := by
    rw [field_withSection hSections.record (by decide)]
    exact hSections.profile
  data := by
    rw [field_withSection hSections.record (by decide)]
    exact hSections.data
  presentation := by
    rw [field_withMembers_self]
    exact hFound
  security := by
    rw [field_withSection hSections.record (by decide)]
    exact hSections.security

theorem Sections.withSecurity
    {settings found : JsValue}
    (hSections : Sections settings)
    (hFound : found.IsRecord) :
    Sections (settings.withMembers [("security", found)]) where
  record := ⟨_, rfl⟩
  profile := by
    rw [field_withSection hSections.record (by decide)]
    exact hSections.profile
  data := by
    rw [field_withSection hSections.record (by decide)]
    exact hSections.data
  presentation := by
    rw [field_withSection hSections.record (by decide)]
    exact hSections.presentation
  security := by
    rw [field_withMembers_self]
    exact hFound

theorem SettingsAs.withProfile
    {mfa : Bool}
    {sessions settings found : JsValue}
    (hAs : SettingsAs mfa sessions settings)
    (hSettings : settings.IsRecord)
    (hFound :
      SameSection found (availableSection profileData)) :
    SettingsAs mfa sessions
      (settings.withMembers [("profile", found)]) where
  profile := by
    rw [field_withMembers_self]
    exact hFound
  presentation := by
    rw [field_withSection hSettings (by decide)]
    exact hAs.presentation
  security := by
    rw [field_withSection hSettings (by decide)]
    exact hAs.security

theorem SettingsAs.withPresentation
    {mfa : Bool}
    {sessions settings found : JsValue}
    (hAs : SettingsAs mfa sessions settings)
    (hSettings : settings.IsRecord)
    (hFound : found.SameFields Mutators.presentation) :
    SettingsAs mfa sessions
      (settings.withMembers
        [("presentationPreferences", found)]) where
  profile := by
    rw [field_withSection hSettings (by decide)]
    exact hAs.profile
  presentation := by
    rw [field_withMembers_self]
    exact hFound
  security := by
    rw [field_withSection hSettings (by decide)]
    exact hAs.security

/- The security is another one than it has been. -/
theorem SettingsAs.withSecurity
    {mfa newMfa : Bool}
    {sessions newSessions settings found : JsValue}
    (hAs : SettingsAs mfa sessions settings)
    (hSettings : settings.IsRecord)
    (hFound :
      SameSection found
        (availableSection (securityData newMfa newSessions))) :
    SettingsAs newMfa newSessions
      (settings.withMembers [("security", found)]) where
  profile := by
    rw [field_withSection hSettings (by decide)]
    exact hAs.profile
  presentation := by
    rw [field_withSection hSettings (by decide)]
    exact hAs.presentation
  security := by
    rw [field_withMembers_self]
    exact hFound

theorem SettingsKept.updateProfile
    {r : Reader}
    {d : Dialect}
    {s : StateStore UserTables}
    {occasion : Occasion}
    {profile answer : JsValue}
    {t : StateStore UserTables}
    (hKept :
      SettingsKept r d s.userId s.tables.settings
        s.settings.settings)
    (hStores :
      ∀ member ∈ profile.members,
        member.2 =
          ((s.settings.settings.field "profile").field
            "data").field member.1)
    (hApply :
      s.updateProfile d.database occasion profile =
        .ok (.ok answer, t)) :
    SettingsKept r d s.userId t.tables.settings
        t.settings.settings ∧
      t = { s with
        tables :=
          { s.tables with settings := t.tables.settings }
        settings := t.settings } := by
  rcases hKept.same with ⟨mfa, sessions, hSessions, hAs, _⟩
  have hSections := hKept.sections
  rcases updateSettings_eq_ok hApply with
    ⟨settings, hChange, hLeft⟩
  unfold SettingsContainer.updateProfile at hChange
  rcases bind_eq_ok.mp hChange with ⟨data, hRead, hChange⟩
  cases hChange
  have hData :
      data = (s.settings.settings.field "profile").field
        "data" := by
    unfold JsValue.read at hRead
    split at hRead
    · cases hRead
    · exact (Except.ok.inj hRead).symm
  subst hData
  have hSame := spread_sameFields hSections.data hStores
  have hProfile :
      SameSection
        ((s.settings.settings.field "profile").withMembers
          [("data",
            ((s.settings.settings.field "profile").field
              "data").spread profile)])
        (s.settings.settings.field "profile") := by
    refine ⟨?_, ?_⟩
    · intro name hName
      rw [field_withMembers hSections.profile, if_neg hName]
    · rw [field_withMembers_self]
      exact hSame
  have hColumns :
      Columns mfa sessions
        (s.settings.settings.withMembers
          [("profile",
            (s.settings.settings.field "profile").spread
              profile)]) := by
    refine columns_of_sections hSessions ?_ ?_ ?_
    · rw [field_withMembers_self,
        field_spread hSections.profile]
      cases hAssigned : profile.assigned "data" with
      | none => exact .inr hAs.profile.2
      | some found =>
          refine .inl ?_
          have hMember := hStores _ (mem_of_assigned hAssigned)
          exact hMember.trans (hAs.profile.2 "data")
    · rw [field_withSection hSections.record (by decide)]
      exact hAs.presentation
    · rw [field_withSection hSections.record (by decide)]
      exact hAs.security.2
  have hNewData :
      (((s.settings.settings.field "profile").withMembers
        [("data",
          ((s.settings.settings.field "profile").field
            "data").spread profile)]).field "data").IsRecord := by
    rw [field_withMembers_self]
    exact IsRecord.spread _ _
  have hNewSections :=
    hSections.withProfile (IsRecord.withMembers _ _) hNewData
  have hNewAs :=
    hAs.withProfile hSections.record (hProfile.trans hAs.profile)
  rw [hLeft]
  exact
    ⟨settingsKept_of_saved hSessions hColumns hNewSections hNewAs
      d s.userId occasion.now s.tables.settings, rfl⟩

theorem SettingsKept.updatePresentation
    {r : Reader}
    {d : Dialect}
    {s : StateStore UserTables}
    {occasion : Occasion}
    {prefs answer : JsValue}
    {t : StateStore UserTables}
    (hKept :
      SettingsKept r d s.userId s.tables.settings
        s.settings.settings)
    (hStores :
      ∀ member ∈ prefs.members,
        member.2 =
          (s.settings.settings.field
            "presentationPreferences").field member.1)
    (hApply :
      s.updatePresentation d.database occasion prefs =
        .ok (.ok answer, t)) :
    SettingsKept r d s.userId t.tables.settings
        t.settings.settings ∧
      t = { s with
        tables :=
          { s.tables with settings := t.tables.settings }
        settings := t.settings } := by
  rcases hKept.same with ⟨mfa, sessions, hSessions, hAs, _⟩
  have hSections := hKept.sections
  have hSame := spread_sameFields hSections.presentation hStores
  rcases updateSettings_eq_ok hApply with
    ⟨settings, hChange, hLeft⟩
  cases hChange
  have hColumns :
      Columns mfa sessions
        (s.settings.settings.withMembers
          [("presentation",
            (s.settings.settings.field "presentation").spread
              prefs)]) := by
    refine columns_of_sections hSessions ?_ ?_ ?_
    · rw [field_withSection hSections.record (by decide)]
      exact .inr hAs.profile.2
    · rw [field_withSection hSections.record (by decide)]
      exact hAs.presentation
    · rw [field_withSection hSections.record (by decide)]
      exact hAs.security.2
  have hNewSections :=
    hSections.withPresentation
      (IsRecord.spread
        (s.settings.settings.field "presentationPreferences")
        prefs)
  have hNewAs :=
    hAs.withPresentation hSections.record
      (hSame.trans hAs.presentation)
  rw [hLeft]
  exact
    ⟨settingsKept_of_saved hSessions hColumns hNewSections hNewAs
      d s.userId occasion.now s.tables.settings, rfl⟩

/- The section is what another store reads of it. -/
theorem security_of_stored
    {r : Reader}
    {mfa : Bool}
    {sessions security sec : JsValue}
    (hRecord : security.IsRecord)
    (hSessions : SessionsStored r sessions)
    (hSecurity :
      SameSection security
        (availableSection (securityData mfa sessions)))
    (hStores :
      ∀ member ∈ sec.members, SecurityStored r member) :
    ∃ mfa sessions,
      SessionsStored r sessions ∧
        SameSection (security.spread sec)
          (availableSection (securityData mfa sessions)) := by
  have hOther :
      ∀ (mfa : Bool) (sessions : JsValue) (name : String),
        name ≠ "data" →
          (security.spread sec).field name =
            (availableSection
              (securityData mfa sessions)).field name := by
    intro mfa' sessions' name hName
    rw [field_spread hRecord]
    cases hAssigned : sec.assigned name with
    | none =>
        refine (hSecurity.1 name hName).trans ?_
        change
          ((List.lookup name [_, _]).getD _ : JsValue) =
            (List.lookup name [_, _]).getD _
        rw [OrderedMap.lookup_cons_eq,
          OrderedMap.lookup_cons_eq,
          OrderedMap.lookup_cons_eq,
          OrderedMap.lookup_cons_eq, if_neg hName, if_neg hName]
    | some found =>
        have hMember := hStores _ (mem_of_assigned hAssigned)
        unfold SecurityStored at hMember
        dsimp only at hMember
        change
          found = (List.lookup name [_, _]).getD .undefined
        rw [OrderedMap.lookup_cons_eq,
          OrderedMap.lookup_cons_eq, if_neg hName]
        rw [if_neg hName] at hMember
        by_cases hStatus : name = "status"
        · rw [if_pos hStatus] at hMember ⊢
          exact hMember
        · rw [if_neg hStatus] at hMember ⊢
          exact hMember
  cases hAssigned : sec.assigned "data" with
  | none =>
      refine ⟨mfa, sessions, hSessions, hOther mfa sessions, ?_⟩
      rw [field_spread hRecord, hAssigned]
      exact hSecurity.2
  | some found =>
      have hMember := hStores _ (mem_of_assigned hAssigned)
      unfold SecurityStored at hMember
      dsimp only at hMember
      rw [if_neg (by decide), if_pos rfl] at hMember
      rcases hMember with ⟨mfa', sessions', hNew, hSame⟩
      refine ⟨mfa', sessions', hNew, hOther mfa' sessions', ?_⟩
      rw [field_spread hRecord, hAssigned]
      exact hSame

theorem SettingsKept.updateSecurity
    {r : Reader}
    {d : Dialect}
    {s : StateStore UserTables}
    {occasion : Occasion}
    {sec answer : JsValue}
    {t : StateStore UserTables}
    (hKept :
      SettingsKept r d s.userId s.tables.settings
        s.settings.settings)
    (hStores : ∀ member ∈ sec.members, SecurityStored r member)
    (hApply :
      s.updateSecurity d.database occasion sec =
        .ok (.ok answer, t)) :
    SettingsKept r d s.userId t.tables.settings
        t.settings.settings ∧
      t = { s with
        tables :=
          { s.tables with settings := t.tables.settings }
        settings := t.settings } := by
  rcases hKept.same with ⟨_, _, hOld, hAs, _⟩
  have hSections := hKept.sections
  rcases security_of_stored hSections.security hOld hAs.security
      hStores with ⟨mfa, sessions, hSessions, hSecurity⟩
  rcases updateSettings_eq_ok hApply with
    ⟨settings, hChange, hLeft⟩
  cases hChange
  have hNew :=
    hAs.withSecurity hSections.record hSecurity
  have hNewSections :=
    hSections.withSecurity
      (IsRecord.spread
        (s.settings.settings.field "security") sec)
  have hColumns := columns_of_sections hSessions
    (.inr hNew.profile.2) hNew.presentation hNew.security.2
  rw [hLeft]
  exact
    ⟨settingsKept_of_saved hSessions hColumns hNewSections hNew
      d s.userId occasion.now s.tables.settings, rfl⟩

end Mutators

end ControlPlane
