import ControlPlane.Store.FailedCalls
import ControlPlane.Store.ReadBack

/-
  The configuration is read back as it is kept.

  A configuration is an object of seven categories, and each
  of these an object that has a text under every default
  name. The tables store a text of each category. What is
  read is laid over the defaults, which changes nothing where
  the text is complete.

  Main declarations:
    * `Layered` and `mergeCategories_layered`
    * `Layered.copy` and `sameConfig_of_sameTexts`
    * `loaded_of_saved`
    * `ConfigKept` and its steps
-/

------------------------------------------------------------
-- Categories Laid Over Others
------------------------------------------------------------

namespace ControlPlane

namespace Mutators

open JsValue

/- What a category becomes when a value is laid over it. -/
def overlay (base given : JsValue) : JsValue :=
  if base.truthy && isTypeofObject given then
    base.spread given
  else if isObject given then given
  else base

theorem truthy_of_isRecord
    {value : JsValue}
    (hValue : value.IsRecord) : value.truthy = true := by
  rcases hValue with ⟨members, rfl⟩
  rfl

theorem isObject_of_isRecord
    {value : JsValue}
    (hValue : value.IsRecord) : isObject value = true := by
  rcases hValue with ⟨members, rfl⟩
  rfl

/- A record is spread over, or stays as it is. -/
theorem overlay_of_isRecord
    {base : JsValue}
    (hBase : base.IsRecord)
    (given : JsValue) :
    overlay base given =
      if isTypeofObject given then base.spread given
      else base := by
  unfold overlay isObject
  rw [truthy_of_isRecord hBase, Bool.true_and]
  by_cases hGiven : isTypeofObject given = true
  · rw [if_pos hGiven, if_pos hGiven]
  · rw [if_neg hGiven, if_neg hGiven, if_neg]
    rw [Bool.and_eq_true]
    exact fun hBoth => hGiven hBoth.2

theorem overlay_undefined (base : JsValue) :
    overlay base .undefined = base := by
  unfold overlay
  rw [if_neg (by simp [isTypeofObject]),
    if_neg (by simp [isObject, JsValue.truthy])]

theorem mergeCategory_isRecord
    {base : JsValue}
    (hBase : base.IsRecord)
    (category : String × JsValue) :
    (mergeCategory base category).IsRecord := by
  unfold mergeCategory
  split
  · exact ⟨_, rfl⟩
  · split
    · exact ⟨_, rfl⟩
    · exact hBase

theorem field_mergeCategory
    {base : JsValue}
    (hBase : base.IsRecord)
    (category : String × JsValue)
    (name : String) :
    (mergeCategory base category).field name =
      if name = category.1 then
        overlay (base.field category.1) category.2
      else base.field name := by
  unfold mergeCategory overlay
  split
  · rw [field_withMembers hBase]
  · split
    · rw [field_withMembers hBase]
    · by_cases hName : name = category.1
      · rw [if_pos hName, hName]
      · rw [if_neg hName]

/- The categories are objects with distinct names. -/
structure HasCategories (config : JsValue) : Prop where
  record : config.IsRecord
  distinct : config.NamesDistinct
  known :
    ∀ category ∈ categories,
      (config.field category).IsRecord ∧
        (config.field category).NamesDistinct

/- There are no other categories. -/
structure Layered (config : JsValue) : Prop
    extends HasCategories config where
  unknown :
    ∀ category, category ∉ categories →
      config.field category = .undefined

theorem HasCategories.mergeCategory
    {base : JsValue}
    (hBase : HasCategories base)
    (given : String × JsValue) :
    HasCategories (mergeCategory base given) where
  record := mergeCategory_isRecord hBase.record given
  distinct := by
    unfold Mutators.mergeCategory
    split
    · exact assign_names_nodup hBase.distinct _
    · split
      · exact assign_names_nodup hBase.distinct _
      · exact hBase.distinct
  known := by
    intro category hCategory
    rw [field_mergeCategory hBase.record]
    split
    · rename_i hSame
      subst hSame
      have hOld := hBase.known _ hCategory
      rw [overlay_of_isRecord hOld.1]
      split
      · exact ⟨⟨_, rfl⟩, hOld.2.spread given.2⟩
      · exact hOld
    · exact hBase.known category hCategory

theorem Layered.mergeCategory
    {base : JsValue}
    (hBase : Layered base)
    {given : String × JsValue}
    (hKnown :
      isObject given.2 = true → given.1 ∈ categories) :
    Layered (mergeCategory base given) where
  toHasCategories := hBase.toHasCategories.mergeCategory given
  unknown := by
    intro category hCategory
    rw [field_mergeCategory hBase.record]
    split
    · rename_i hSame
      subst hSame
      rw [hBase.unknown _ hCategory]
      unfold overlay
      rw [if_neg (by simp [JsValue.truthy]),
        if_neg (fun hGiven => hCategory (hKnown hGiven))]
    · exact hBase.unknown category hCategory

theorem defaults_names :
    Defaults.globalConfig.members.map Prod.fst =
      categories := rfl

theorem defaults_distinct :
    Defaults.globalConfig.NamesDistinct := by
  unfold NamesDistinct
  simp [Defaults.globalConfig, JsValue.members]

theorem defaults_known :
    ∀ category ∈ categories,
      (Defaults.globalConfig.field category).IsRecord ∧
        (Defaults.globalConfig.field
          category).NamesDistinct := by
  simp [categories, NamesDistinct, IsRecord, JsValue.field,
    JsValue.members, Defaults.globalConfig, List.lookup_cons]

theorem defaults_layered : Layered Defaults.globalConfig where
  record := ⟨_, rfl⟩
  distinct := defaults_distinct
  known := defaults_known
  unknown := by
    intro category hCategory
    have hRecord : Defaults.globalConfig.IsRecord := ⟨_, rfl⟩
    rw [field_of_isRecord hRecord,
      OrderedMap.lookup_eq_none_of_not_mem_keys
        (defaults_names ▸ hCategory)]
    rfl

theorem defaults_isCopy : Defaults.globalConfig.IsCopy := by
  simp only [Defaults.globalConfig, Defaults.integer, IsCopy,
    JsValue.json, JsValue.jsonMembers, JsValue.jsonItems,
    bind_ok, pure, Except.pure, Option.getD_some]

theorem defaults_hasText : Defaults.globalConfig.HasText :=
  defaults_isCopy.hasText

/- A category of the configuration itself changes nothing. -/
theorem mergeCategory_of_mem
    {base : JsValue}
    (hBase : HasCategories base)
    {category : String × JsValue}
    (hMember : category ∈ base.members)
    (hKnown : category.1 ∈ categories) :
    Mutators.mergeCategory base category = base := by
  rcases hBase.record with ⟨members, rfl⟩
  have hField :
      (JsValue.object members).field category.1 =
        category.2 := by
    rw [field_of_isRecord hBase.record,
      (lookup_eq_some_iff hBase.distinct).mpr hMember]
    rfl
  have hCategory := hBase.known category.1 hKnown
  rw [hField] at hCategory
  rcases hCategory with ⟨⟨own, hOwn⟩, hDistinct⟩
  have hSpread : category.2.spread category.2 = category.2 := by
    rw [hOwn] at hDistinct ⊢
    exact congrArg JsValue.object
      (foldl_assign_of_subset hDistinct (fun _ => id))
  unfold Mutators.mergeCategory
  rw [hField, if_pos (by rw [hOwn]; rfl), hSpread]
  exact congrArg JsValue.object
    (assign_of_mem hBase.distinct hMember)

theorem mergeCategories_defaults :
    mergeCategories Defaults.globalConfig =
      Defaults.globalConfig := by
  apply List.foldlRecOn
    (motive := fun base => base = Defaults.globalConfig)
  · rfl
  · intro base hBase category hMember
    subst hBase
    exact mergeCategory_of_mem defaults_layered.toHasCategories
      hMember (defaults_names ▸ List.mem_map_of_mem hMember)

theorem mergeCategories_hasCategories
    (globalConfig : JsValue) :
    HasCategories (mergeCategories globalConfig) :=
  List.foldlRecOn globalConfig.members mergeCategory
    defaults_layered.toHasCategories
    (fun _ hBase given _ => hBase.mergeCategory given)

/- Each category is laid over its default once. -/
theorem field_mergeCategories
    {globalConfig : JsValue}
    (hRecord : globalConfig.IsRecord)
    (hDistinct : globalConfig.NamesDistinct)
    (name : String) :
    (mergeCategories globalConfig).field name =
      overlay (Defaults.globalConfig.field name)
        (globalConfig.field name) := by
  have hFold :
      ∀ (given : List (String × JsValue)) (base : JsValue),
        base.IsRecord → (given.map Prod.fst).Nodup →
          (given.foldl mergeCategory base).field name =
            overlay (base.field name)
              ((given.lookup name).getD .undefined) := by
    intro given
    induction given with
    | nil =>
        intro base _ _
        exact (overlay_undefined _).symm
    | cons first rest ih =>
        intro base hBase hNodup
        rw [List.map_cons, List.nodup_cons] at hNodup
        rw [List.foldl_cons,
          ih _ (mergeCategory_isRecord hBase first) hNodup.2,
          field_mergeCategory hBase, OrderedMap.lookup_cons_eq]
        by_cases hName : name = first.1
        · subst hName
          rw [if_pos rfl, if_pos rfl,
            OrderedMap.lookup_eq_none_of_not_mem_keys hNodup.1]
          exact overlay_undefined _
        · rw [if_neg hName, if_neg hName]
  rw [field_of_isRecord hRecord]
  exact hFold globalConfig.members Defaults.globalConfig
    defaults_layered.record hDistinct

theorem mergeCategories_layered
    {globalConfig : JsValue}
    (hKnown :
      ∀ member ∈ globalConfig.members,
        isObject member.2 = true → member.1 ∈ categories) :
    Layered (mergeCategories globalConfig) :=
  List.foldlRecOn globalConfig.members mergeCategory
    defaults_layered
    (fun _ hBase given hGiven =>
      hBase.mergeCategory (hKnown given hGiven))

theorem mergeCategory_hasText
    {base : JsValue}
    (hBase : HasCategories base)
    (hText : base.HasText)
    {given : String × JsValue}
    (hCategory : given.1 ∈ categories)
    (hGiven : given.2.HasText) :
    (mergeCategory base given).HasText := by
  have hOld := hText.field hBase.record
    (hBase.known given.1 hCategory).1
  unfold mergeCategory
  split
  · exact hText.withMember (hOld.spread hGiven) given.1
  · split
    · exact hText.withMember hGiven given.1
    · exact hText

/- A configuration of texts is laid over one as a text. -/
theorem mergeCategories_hasText
    {globalConfig : JsValue}
    (hKnown :
      ∀ member ∈ globalConfig.members,
        member.1 ∈ categories ∧ member.2.HasText) :
    (mergeCategories globalConfig).HasText := by
  have hBoth :
      HasCategories (mergeCategories globalConfig) ∧
        (mergeCategories globalConfig).HasText := by
    refine List.foldlRecOn
      (motive := fun base => HasCategories base ∧ base.HasText)
      globalConfig.members mergeCategory
      ⟨defaults_layered.toHasCategories, defaults_hasText⟩ ?_
    rintro base ⟨hBase, hText⟩ given hGiven
    exact ⟨hBase.mergeCategory given,
      mergeCategory_hasText hBase hText (hKnown given hGiven).1
        (hKnown given hGiven).2⟩
  exact hBoth.2

------------------------------------------------------------
-- Copies Of A Configuration
------------------------------------------------------------

theorem SameTexts.symm
    {x y : JsValue}
    (hSame : SameTexts x y) : SameTexts y x :=
  fun category =>
    ⟨(hSame category).1.symm,
      fun key => ((hSame category).2 key).symm⟩

theorem SameTexts.trans
    {x y z : JsValue}
    (hFirst : SameTexts x y)
    (hSecond : SameTexts y z) : SameTexts x z :=
  fun category =>
    ⟨(hFirst category).1.trans (hSecond category).1,
      fun key =>
        ((hFirst category).2 key).trans
          ((hSecond category).2 key)⟩

theorem ne_undefined_of_isRecord
    {value : JsValue}
    (hValue : value.IsRecord) : value ≠ .undefined := by
  rcases hValue with ⟨members, rfl⟩
  intro hUndefined
  cases hUndefined

/- Two configurations have the same categories. -/
theorem Layered.undefined_iff
    {x y : JsValue}
    (hX : Layered x)
    (hY : Layered y)
    (category : String) :
    x.field category = .undefined ↔
      y.field category = .undefined := by
  by_cases hCategory : category ∈ categories
  · exact iff_of_false
      (ne_undefined_of_isRecord (hX.known category hCategory).1)
      (ne_undefined_of_isRecord (hY.known category hCategory).1)
  · exact iff_of_true (hX.unknown category hCategory)
      (hY.unknown category hCategory)

theorem sameTexts_of_known
    {x y : JsValue}
    (hX : Layered x)
    (hY : Layered y)
    (hKnown :
      ∀ category ∈ categories, ∀ key,
        ((x.field category).field key).jsonOf =
          ((y.field category).field key).jsonOf) :
    SameTexts x y := by
  intro category
  refine ⟨hX.undefined_iff hY category, ?_⟩
  intro key
  by_cases hCategory : category ∈ categories
  · exact hKnown category hCategory key
  · rw [hX.unknown category hCategory,
      hY.unknown category hCategory]

/- A copy is a configuration, and copies every value. -/
theorem Layered.copy
    {config copy : JsValue}
    (hConfig : Layered config)
    (hJson : config.json = .ok (some copy)) :
    Layered copy ∧
      ∀ category key,
        (copy.field category).field key =
          ((config.field category).field key).copyOf := by
  rcases json_of_object hConfig.record hConfig.distinct hJson
    with ⟨hRecord, hDistinct, _⟩
  have hField := field_of_json hConfig.record hConfig.distinct
    hJson
  have hText : ∀ category ∈ categories,
      (config.field category).json =
        .ok (some (copy.field category)) := by
    intro category hCategory
    rw [hField category]
    exact (HasText.field ⟨copy, hJson⟩ hConfig.record
      (hConfig.known category hCategory).1).json_eq
  have hUnknown : ∀ category, category ∉ categories →
      copy.field category = .undefined := by
    intro category hCategory
    rw [hField, hConfig.unknown category hCategory]
    rfl
  have hKnown : ∀ category ∈ categories,
      (copy.field category).IsRecord ∧
        (copy.field category).NamesDistinct := by
    intro category hCategory
    have hOld := hConfig.known category hCategory
    rcases json_of_object hOld.1 hOld.2
        (hText category hCategory) with ⟨hNew, hNames, _⟩
    exact ⟨hNew, hNames⟩
  refine ⟨⟨⟨hRecord, hDistinct, hKnown⟩, hUnknown⟩, ?_⟩
  intro category key
  by_cases hCategory : category ∈ categories
  · have hOld := hConfig.known category hCategory
    exact field_of_json hOld.1 hOld.2 (hText category hCategory)
      key
  · rw [hUnknown category hCategory,
      hConfig.unknown category hCategory]
    rfl

theorem Layered.copy_sameTexts
    {config copy : JsValue}
    (hConfig : Layered config)
    (hJson : config.json = .ok (some copy)) :
    SameTexts copy config := by
  rcases hConfig.copy hJson with ⟨hCopy, hField⟩
  refine sameTexts_of_known hCopy hConfig ?_
  intro category _ key
  rw [hField, jsonOf_copyOf]

/- What has the same texts is read as the same. -/
theorem sameConfig_of_sameTexts
    {a b : ConfigContainer}
    (hA : Layered a.globalConfig)
    (hTextA : a.globalConfig.HasText)
    (hB : Layered b.globalConfig)
    (hTextB : b.globalConfig.HasText)
    (hSame : SameTexts a.globalConfig b.globalConfig) :
    SameConfig a b := by
  rcases hA.copy hTextA.json_eq with ⟨hCopyA, hFieldA⟩
  rcases hB.copy hTextB.json_eq with ⟨hCopyB, hFieldB⟩
  refine
    ⟨a.globalConfig.copyOf, b.globalConfig.copyOf,
      jsonCopy_eq_ok_iff.mpr hTextA.json_eq,
      jsonCopy_eq_ok_iff.mpr hTextB.json_eq, ?_⟩
  intro category
  refine ⟨hCopyA.undefined_iff hCopyB category, ?_⟩
  intro key
  rw [hFieldA, hFieldB, copyOf, copyOf,
    (hSame category).2 key]

------------------------------------------------------------
-- What Is Stored Of A Category
------------------------------------------------------------

theorem field_default_of_notMem
    {category key : String}
    (hCategory : category ∈ categories)
    (hKey : key ∉ defaultNames category) :
    (Defaults.globalConfig.field category).field key =
      .undefined := by
  have hRecord := (defaults_layered.known category hCategory).1
  rw [field_of_isRecord hRecord,
    OrderedMap.lookup_eq_none_of_not_mem_keys hKey]
  rfl

theorem hasText_default
    {category key : String}
    (hCategory : category ∈ categories)
    (hKey : key ∈ defaultNames category) :
    ((Defaults.globalConfig.field category).field
      key).HasText := by
  have hRecord := defaults_layered.known category hCategory
  have hCopy :=
    defaults_isCopy.field defaults_layered.record
      defaults_layered.distinct
      (defaults_names ▸ hCategory)
  exact (hCopy.field hRecord.1 hRecord.2 hKey).hasText

/- The fields of what is laid over a record. -/
theorem field_overlay
    {base given : JsValue}
    (hBase : base.IsRecord)
    (key : String) :
    (overlay base given).field key =
      if isTypeofObject given then
        (given.assigned key).getD (base.field key)
      else base.field key := by
  rw [overlay_of_isRecord hBase]
  split
  · rw [field_spread hBase]
  · rfl

/-
  A member without a text reads as its default, which it has
  none of.
-/
theorem jsonOf_member
    {category key : String}
    {given found : JsValue}
    (hCategory : category ∈ categories)
    (hMember :
      found.HasText ∨
        given.IsRecord ∧ key ∉ defaultNames category) :
    found.jsonOf.or
        ((Defaults.globalConfig.field category).field
          key).jsonOf =
      found.jsonOf := by
  rcases hMember with hText | ⟨_, hKey⟩
  · rw [hText.jsonOf_eq]
    rfl
  · rw [field_default_of_notMem hCategory hKey]
    exact Option.or_none

/- What a text keeps of a category is laid over the same. -/
theorem overlay_copyOf
    {category : String}
    {given : JsValue}
    (hCategory : category ∈ categories)
    (hNamed : given.IsRecord → given.NamesDistinct)
    (hStored : CategoryStored category given)
    (key : String) :
    ((overlay (Defaults.globalConfig.field category)
        given.copyOf).field key).jsonOf =
      ((overlay (Defaults.globalConfig.field category)
        given).field key).jsonOf := by
  have hBase := (defaults_layered.known category hCategory).1
  rcases hStored with ⟨⟨copy, hJson⟩, hMembers⟩
  rw [copyOf_of_json hJson, field_overlay hBase,
    field_overlay hBase]
  cases given with
  | object members =>
      have hRecord : (JsValue.object members).IsRecord :=
        ⟨members, rfl⟩
      have hDistinct := hNamed hRecord
      rcases json_of_object hRecord hDistinct hJson with
        ⟨⟨data, hData⟩, hNames, hLookup⟩
      subst hData
      change
        (((JsValue.object data).assigned key).getD _).jsonOf =
          (((JsValue.object members).assigned key).getD
            _).jsonOf
      rw [assigned_eq_lookup hNames, hLookup,
        field_of_isRecord hRecord, assigned_eq_lookup hDistinct]
      cases hFound :
          (JsValue.object members).members.lookup key with
      | none => rfl
      | some found =>
          have hMember := hMembers rfl _
            ((lookup_eq_some_iff hDistinct).mp hFound)
          exact (jsonOf_getD_jsonOf found _).trans
            (jsonOf_member hCategory hMember)
  | array items =>
      rw [json] at hJson
      rcases bind_eq_ok.mp hJson with ⟨copies, hCopies, hDone⟩
      cases hDone
      change
        (((JsValue.array copies).assigned key).getD _).jsonOf =
          (((JsValue.array items).assigned key).getD _).jsonOf
      rw [jsonItems_eq_map hCopies, assigned_array_map]
      cases hFound : (JsValue.array items).assigned key with
      | none => rfl
      | some found =>
          have hMember := hMembers rfl _
            (mem_of_assigned hFound)
          rcases hMember with hText | ⟨⟨_, hRecord⟩, _⟩
          · refine (jsonOf_getD_jsonOf found .null).trans ?_
            rw [hText.jsonOf_eq]
            exact hText.jsonOf_eq.symm
          · cases hRecord
  | number n => cases n <;> (cases hJson; rfl)
  | null | boolean | text => cases hJson; rfl
  | undefined | symbol | function => cases hJson
  | bigint | circular => cases hJson

/- A complete category is what it makes of its default. -/
theorem overlay_of_complete
    {category : String}
    {given : JsValue}
    (hCategory : category ∈ categories)
    (hRecord : given.IsRecord)
    (hDistinct : given.NamesDistinct)
    (hComplete :
      ∀ key ∈ defaultNames category, (given.field key).HasText)
    (key : String) :
    ((overlay (Defaults.globalConfig.field category)
        given).field key).jsonOf =
      (given.field key).jsonOf := by
  have hBase := (defaults_layered.known category hCategory).1
  have hTypeof : isTypeofObject given = true := by
    rcases hRecord with ⟨members, rfl⟩
    rfl
  rw [field_overlay hBase, if_pos hTypeof,
    assigned_eq_lookup hDistinct]
  have hField := field_of_isRecord hRecord key
  cases hFound : given.members.lookup key with
  | some found =>
      rw [hFound] at hField
      rw [hField]
      rfl
  | none =>
      rw [hFound] at hField
      rw [hField]
      by_cases hKey : key ∈ defaultNames category
      · have hText := hComplete key hKey
        rw [hField] at hText
        rcases hText with ⟨_, hJson⟩
        cases hJson
      · exact congrArg jsonOf
          (field_default_of_notMem hCategory hKey)

------------------------------------------------------------
-- Rows That Have Been Written
------------------------------------------------------------

/- The row of a user has the columns that are written last. -/
theorem rowOf_upsert
    {κ : Type}
    [DecidableEq κ]
    {key : UserRow → Option κ}
    {user : String}
    {k : κ}
    (hUser : ∀ row, key row = some k ↔ row.userId = user)
    (t : Table UserRow κ key)
    (columns : List Binding)
    (hKey :
      ∀ old : UserRow,
        key (old.withColumns columns) = key old) :
    ∃ row,
      rowOf user
          (t.upsert ⟨none, user, columns⟩
            (fun old => old.withColumns columns) hKey) =
        some row ∧
        row.userId = user ∧ row.columns = columns := by
  unfold rowOf
  rw [Table.head?_rowsOf hUser, Table.find?_upsert,
    if_pos ((hUser ⟨none, user, columns⟩).mpr rfl)]
  cases hFind : t.find? k with
  | none => exact ⟨_, rfl, rfl, rfl⟩
  | some old =>
      have hOld := (Table.find?_eq_some_iff t k old).mp hFind
      exact ⟨_, rfl, (hUser old).mp hOld.2, rfl⟩

theorem configId_eq_iff
    (user : String)
    (row : UserRow) :
    row.configId = some ("cfg_" ++ user) ↔
      row.userId = user := by
  constructor
  · exact Dialect.configId_injective row
  · intro hUser
    unfold UserRow.configId
    rw [hUser]

theorem mapM_stringify
    {given : String → JsValue}
    {names : List String}
    (hText : ∀ name ∈ names, (given name).HasText) :
    names.mapM (fun name => stringify (given name)) =
      .ok (names.map
        (fun name => Binding.json (given name).copyOf)) := by
  induction names with
  | nil => rfl
  | cons name names ih =>
      rw [List.forall_mem_cons] at hText
      have hName :
          stringify (given name) =
            .ok (.json (given name).copyOf) := by
        unfold stringify
        rw [hText.1.json_eq]
        rfl
      rw [List.mapM_cons, hName, ih hText.2]
      rfl

/- The columns of a configuration that has been saved. -/
def configColumns
    (now : String)
    (config : JsValue) : List Binding :=
  categories.map
      (fun category =>
        Binding.json (config.field category).copyOf) ++
    [.text now]

theorem saveConfig_eq_ok
    {d : Dialect}
    {user now : String}
    {config : JsValue}
    {t t' : UserTables}
    (hText :
      ∀ category ∈ categories, (config.field category).HasText)
    (hSave :
      saveConfig d.database user now config t = .ok t') :
    t' =
      { t with
          config :=
            t.config.upsert
              ⟨none, user, configColumns now config⟩
              (fun old =>
                old.withColumns (configColumns now config))
              (fun _ => rfl) } := by
  unfold saveConfig at hSave
  rcases bind_eq_ok.mp hSave with ⟨_, _, hSave⟩
  rw [mapM_stringify hText, bind_ok] at hSave
  exact Dialect.execute_eq_ok hSave

/- What the adapter reads of a row that has been saved. -/
def savedConfig (config : JsValue) : JsValue :=
  .object
    (categories.map
      (fun category =>
        (category, (config.field category).copyOf)))

theorem getConfig_upsert
    (user now : String)
    (config : JsValue)
    (t : Table UserRow String UserRow.configId) :
    getConfig user
        (t.upsert ⟨none, user, configColumns now config⟩
          (fun old =>
            old.withColumns (configColumns now config))
          (fun _ => rfl)) =
      .ok (savedConfig config) := by
  rcases rowOf_upsert (configId_eq_iff user) t
      (configColumns now config) (fun _ => rfl) with
    ⟨row, hRow, _, hColumns⟩
  unfold getConfig
  rw [hRow]
  unfold Dialect.column
  dsimp only
  rw [hColumns]
  rfl

------------------------------------------------------------
-- The Configuration That Is Read
------------------------------------------------------------

/- The configuration of another store. -/
def loadedConfig
    (user : String)
    (t : Table UserRow String UserRow.configId) :
    Except JsError JsValue := do
  let globalConfig ← getConfig user t
  ConfigContainer.hydratedConfig globalConfig

theorem hydrateOverrides_of_copies
    {entries : List (String × JsValue)}
    (hCopies : ∀ entry ∈ entries, entry.2.IsCopy)
    (filled : OrderedMap JsValue JsValue) :
    (ConfigContainer.hydrateOverrides entries filled).1 =
      none := by
  induction entries generalizing filled with
  | nil => rfl
  | cons entry entries ih =>
      rcases entry with ⟨accId, overrides⟩
      rw [List.forall_mem_cons] at hCopies
      unfold ConfigContainer.hydrateOverrides
      rw [jsonCopy_eq_ok_iff.mpr hCopies.1]
      exact ih hCopies.2 _

theorem reloadConfig_globalConfig
    {user : String}
    {t : UserTables}
    {config : JsValue}
    (hLoaded : loadedConfig user t.config = .ok config)
    (overrides : ParsedOverrides) :
    (reloadConfig user overrides t).globalConfig = config := by
  rcases bind_eq_ok.mp hLoaded with
    ⟨globalConfig, hGet, hHydrated⟩
  have hOverrides :
      (ConfigContainer.hydrateOverrides
        overrides.toObject.members .empty).1 = none := by
    refine hydrateOverrides_of_copies ?_ .empty
    intro entry hEntry
    rcases List.mem_map.mp hEntry with ⟨parsed, _, rfl⟩
    exact parsed.2.property
  unfold reloadConfig
  rw [hGet]
  dsimp only
  unfold ConfigContainer.hydrate
  rw [hHydrated]
  dsimp only
  cases hFilled :
      ConfigContainer.hydrateOverrides
        overrides.toObject.members .empty with
  | mk error filled =>
      rw [hFilled] at hOverrides
      dsimp only at hOverrides
      subst hOverrides
      rfl

theorem validateGlobalConfig_of_hasCategories
    {config : JsValue}
    (hConfig : HasCategories config) :
    validateGlobalConfig config = .ok () := by
  have hNone :
      categories.find?
          (fun category =>
            !isObject (config.field category)) = none := by
    rw [List.find?_eq_none]
    intro category hCategory
    rw [isObject_of_isRecord
      (hConfig.known category hCategory).1]
    simp
  unfold validateGlobalConfig
  rw [hNone]

/-
  A configuration is read back from the texts that have been
  saved of it, laid over the defaults.
-/
theorem loaded_of_saved
    {user now : String}
    {config : JsValue}
    (hNamed :
      ∀ category ∈ categories,
        (config.field category).IsRecord →
          (config.field category).NamesDistinct)
    (hStored :
      ∀ category ∈ categories,
        CategoryStored category (config.field category))
    (t : Table UserRow String UserRow.configId) :
    ∃ loaded,
      loadedConfig user
          (t.upsert ⟨none, user, configColumns now config⟩
            (fun old =>
              old.withColumns (configColumns now config))
            (fun _ => rfl)) = .ok loaded ∧
        Layered loaded ∧ loaded.HasText ∧
          ∀ category ∈ categories, ∀ key,
            ((loaded.field category).field key).jsonOf =
              ((overlay (Defaults.globalConfig.field category)
                (config.field category)).field key).jsonOf := by
  have hRecord : (savedConfig config).IsRecord := ⟨_, rfl⟩
  have hDistinct : (savedConfig config).NamesDistinct := by
    change categories.Nodup
    decide
  have hMembers :
      ∀ member ∈ (savedConfig config).members,
        member.1 ∈ categories ∧ member.2.HasText := by
    intro member hMember
    rcases List.mem_map.mp hMember with
      ⟨category, hCategory, rfl⟩
    exact ⟨hCategory,
      (hStored category hCategory).1.isCopy.hasText⟩
  have hLayered :
      Layered (mergeCategories (savedConfig config)) :=
    mergeCategories_layered
      (fun member hMember _ => (hMembers member hMember).1)
  have hJson := (mergeCategories_hasText hMembers).json_eq
  rcases hLayered.copy hJson with ⟨hCopy, _⟩
  refine
    ⟨_, ?_, hCopy, (mergeCategories_hasText
      hMembers).isCopy.hasText, ?_⟩
  · unfold loadedConfig
    rw [getConfig_upsert, bind_ok]
    unfold ConfigContainer.hydratedConfig
    rw [if_pos (isObject_of_isRecord hRecord)]
    dsimp only
    rw [validateGlobalConfig_of_hasCategories
      hLayered.toHasCategories, bind_ok]
    exact jsonCopy_eq_ok_iff.mpr hJson
  · intro category hCategory key
    rw [(hLayered.copy_sameTexts hJson category).2 key,
      field_mergeCategories hRecord hDistinct]
    have hField :
        (savedConfig config).field category =
          (config.field category).copyOf := by
      rw [field_of_isRecord hRecord,
        (lookup_eq_some_iff hDistinct).mpr
          (List.mem_map.mpr ⟨category, hCategory, rfl⟩)]
      rfl
    rw [hField]
    exact overlay_copyOf hCategory (hNamed category hCategory)
      (hStored category hCategory) key

------------------------------------------------------------
-- Steps
------------------------------------------------------------

/-
  The configuration in memory is complete, and another store
  reads the same texts.
-/
structure ConfigKept
    (user : String)
    (t : Table UserRow String UserRow.configId)
    (config : JsValue) : Prop where
  layered : Layered config
  hasText : config.HasText
  complete :
    ∀ category ∈ categories, ∀ key ∈ defaultNames category,
      ((config.field category).field key).HasText
  reads :
    ∃ loaded,
      loadedConfig user t = .ok loaded ∧
        Layered loaded ∧ loaded.HasText ∧
          SameTexts loaded config

theorem HasText.of_jsonOf_eq
    {value other : JsValue}
    (hSame : value.jsonOf = other.jsonOf)
    (hText : other.HasText) : value.HasText := by
  rw [hasText_iff, hSame]
  exact hasText_iff.mp hText

theorem ConfigKept.sameConfig
    {user : String}
    {t : UserTables}
    {c : ConfigContainer}
    (hKept : ConfigKept user t.config c.globalConfig)
    (overrides : ParsedOverrides) :
    SameConfig (reloadConfig user overrides t) c := by
  rcases hKept.reads with
    ⟨loaded, hLoaded, hLayered, hText, hSame⟩
  have hReload := reloadConfig_globalConfig hLoaded overrides
  exact sameConfig_of_sameTexts (hReload ▸ hLayered)
    (hReload ▸ hText) hKept.layered hKept.hasText
    (hReload ▸ hSame)

/- A user without a row reads the defaults. -/
/- A user without a row reads the defaults. -/
theorem loadedConfig_of_none
    {user : String}
    {t : Table UserRow String UserRow.configId}
    (hNone : t.rowsOf UserRow.userId user = []) :
    loadedConfig user t = .ok Defaults.globalConfig := by
  have hGet : getConfig user t = .ok Defaults.globalConfig := by
    unfold getConfig rowOf
    rw [hNone]
    rfl
  unfold loadedConfig
  rw [hGet, bind_ok]
  unfold ConfigContainer.hydratedConfig
  rw [if_pos (isObject_of_isRecord defaults_layered.record)]
  dsimp only
  rw [mergeCategories_defaults,
    validateGlobalConfig_of_hasCategories
      defaults_layered.toHasCategories, bind_ok]
  exact jsonCopy_eq_ok_iff.mpr defaults_isCopy

theorem configKept_fresh
    {user : String}
    {t : Table UserRow String UserRow.configId}
    (hNone : t.rowsOf UserRow.userId user = []) :
    ConfigKept user t ConfigContainer.fresh.globalConfig where
  layered := defaults_layered
  hasText := defaults_hasText
  complete := fun _ hCategory _ hKey =>
    hasText_default hCategory hKey
  reads :=
    ⟨Defaults.globalConfig, loadedConfig_of_none hNone,
      defaults_layered, defaults_hasText,
      fun _ => ⟨.rfl, fun _ => rfl⟩⟩

/- A complete configuration is read as it has been saved. -/
theorem loaded_of_complete
    {user now : String}
    {config : JsValue}
    (hLayered : Layered config)
    (hText : config.HasText)
    (hComplete :
      ∀ category ∈ categories, ∀ key ∈ defaultNames category,
        ((config.field category).field key).HasText)
    (t : Table UserRow String UserRow.configId) :
    ∃ loaded,
      loadedConfig user
          (t.upsert ⟨none, user, configColumns now config⟩
            (fun old =>
              old.withColumns (configColumns now config))
            (fun _ => rfl)) = .ok loaded ∧
        Layered loaded ∧ loaded.HasText ∧
          SameTexts loaded config := by
  have hStored :
      ∀ category ∈ categories,
        CategoryStored category (config.field category) := by
    intro category hCategory
    have hKnown := hLayered.known category hCategory
    refine ⟨hText.field hLayered.record hKnown.1, ?_⟩
    intro _ member hMember
    by_cases hKey : member.1 ∈ defaultNames category
    · refine .inl ?_
      have hThere := hComplete category hCategory member.1 hKey
      rw [field_of_isRecord hKnown.1,
        (lookup_eq_some_iff hKnown.2).mpr hMember] at hThere
      exact hThere
    · exact .inr ⟨hKnown.1, hKey⟩
  rcases loaded_of_saved
      (fun category hCategory _ =>
        (hLayered.known category hCategory).2) hStored t with
    ⟨loaded, hLoaded, hLoadedLayered, hLoadedText, hFields⟩
  refine
    ⟨loaded, hLoaded, hLoadedLayered, hLoadedText,
      sameTexts_of_known hLoadedLayered hLayered ?_⟩
  intro category hCategory key
  have hKnown := hLayered.known category hCategory
  rw [hFields category hCategory key,
    overlay_of_complete hCategory hKnown.1 hKnown.2
      (hComplete category hCategory)]

theorem Layered.withCategory
    {config values : JsValue}
    (hConfig : Layered config)
    {category : String}
    (hCategory : category ∈ categories)
    (hValues : values.IsRecord ∧ values.NamesDistinct) :
    Layered (config.withMembers [(category, values)]) where
  record := ⟨_, rfl⟩
  distinct := assign_names_nodup hConfig.distinct _
  known := by
    intro other hOther
    rw [field_withMembers hConfig.record]
    split
    · exact hValues
    · exact hConfig.known other hOther
  unknown := by
    intro other hOther
    rw [field_withMembers hConfig.record, if_neg]
    · exact hConfig.unknown other hOther
    · intro hSame
      exact hOther (hSame ▸ hCategory)

/- The same updates give the same texts over the same. -/
theorem spread_texts
    {base other : JsValue}
    (hBase : base.IsRecord)
    (hOther : other.IsRecord)
    (hSame :
      ∀ key, (base.field key).jsonOf = (other.field key).jsonOf)
    (updates : JsValue)
    (key : String) :
    ((base.spread updates).field key).jsonOf =
      ((other.spread updates).field key).jsonOf := by
  rw [field_spread hBase, field_spread hOther]
  cases updates.assigned key with
  | none => exact hSame key
  | some found => rfl

theorem complete_of_sameTexts
    {x y : JsValue}
    (hSame : SameTexts x y)
    (hComplete :
      ∀ category ∈ categories, ∀ key ∈ defaultNames category,
        ((y.field category).field key).HasText) :
    ∀ category ∈ categories, ∀ key ∈ defaultNames category,
      ((x.field category).field key).HasText :=
  fun category hCategory key hKey =>
    HasText.of_jsonOf_eq ((hSame category).2 key)
      (hComplete category hCategory key hKey)

/- What is saved when a category is updated. -/
theorem updateCategory_eq_ok
    {d : Dialect}
    {s : StateStore UserTables}
    {occasion : Occasion}
    {category values answer : JsValue}
    {t : StateStore UserTables}
    (hApply :
      s.updateCategory d.database occasion category values =
        .ok (.ok answer, t)) :
    ∃ name current config,
      category = .text name ∧ name ∈ categories ∧
        (s.config.globalConfig.field name).jsonCopy =
          .ok current ∧
        s.config.globalConfig.jsonCopy = .ok config ∧
        saveConfig d.database s.userId occasion.now
            (config.withMembers
              [(name, current.spread values)]) s.tables =
          .ok t.tables ∧
        t = { s with
          tables := t.tables
          config := s.config.withCategory name values } := by
  unfold StateStore.updateCategory at hApply
  split at hApply
  · rename_i name
    rcases bind_eq_ok.mp hApply with
      ⟨current, hCurrent, hApply⟩
    rcases bind_eq_ok.mp hApply with ⟨config, hConfig, hApply⟩
    rcases bind_eq_ok.mp hApply with ⟨tables, hSave, hApply⟩
    rcases bind_eq_ok.mp hApply with
      ⟨⟨result, updated⟩, hUpdate, hApply⟩
    unfold ConfigContainer.updateCategory at hUpdate
    rcases bind_eq_ok.mp hUpdate with ⟨_, hValid, hUpdate⟩
    rcases Prod.mk.inj (Except.ok.inj hUpdate) with ⟨_, rfl⟩
    rcases Prod.mk.inj (Except.ok.inj hApply) with ⟨_, rfl⟩
    unfold ConfigContainer.getCategory at hCurrent
    split at hCurrent
    · cases hCurrent
    · exact
        ⟨name, current, config, rfl,
          StateStore.mem_categories_of_validated hValid,
          hCurrent, hConfig, hSave, rfl⟩
  · cases hApply

theorem ConfigKept.updateCategory
    {d : Dialect}
    {s : StateStore UserTables}
    {occasion : Occasion}
    {category values answer : JsValue}
    {t : StateStore UserTables}
    (hKept :
      ConfigKept s.userId s.tables.config
        s.config.globalConfig)
    (hStores :
      ∀ name, category = .text name →
        ∀ member ∈ values.members,
          member.1 ∈ defaultNames name → member.2.HasText)
    (hApply :
      s.updateCategory d.database occasion category values =
        .ok (.ok answer, t)) :
    ConfigKept s.userId t.tables.config
        t.config.globalConfig ∧
      t = { s with
        tables := { s.tables with config := t.tables.config }
        config := t.config } := by
  rcases updateCategory_eq_ok hApply with
    ⟨name, current, config, rfl, hName, hCurrent, hCopy,
      hSave, hLeft⟩
  have hMembers := hStores name rfl
  have hOld := hKept.layered.known name hName
  have hCopyJson := jsonCopy_eq_ok_iff.mp hCopy
  have hCurrentJson := jsonCopy_eq_ok_iff.mp hCurrent
  have hConfig := (hKept.layered.copy hCopyJson).1
  have hConfigText := (isCopy_of_json hCopyJson).hasText
  rcases json_of_object hOld.1 hOld.2 hCurrentJson with
    ⟨hCurrentRecord, hCurrentDistinct, _⟩
  have hSpread : (current.spread values).HasText := by
    have hJson := StateStore.json_of_saveConfig hSave hName
    rw [field_withMembers hConfig.record, if_pos rfl] at hJson
    exact (HasText.of_record ⟨_, rfl⟩ hJson)
  have hNewText :
      ((s.config.globalConfig.field name).spread
        values).HasText := by
    rcases hSpread with ⟨data, hData⟩
    exact json_spread hCurrentJson ⟨_, hData⟩
  have hNew := hKept.layered.withCategory hName
    ⟨⟨_, rfl⟩, hOld.2.spread values⟩
  have hFull := hConfig.withCategory hName
    ⟨⟨_, rfl⟩, hCurrentDistinct.spread values⟩
  have hComplete :
      ∀ other ∈ categories, ∀ key ∈ defaultNames other,
        (((s.config.globalConfig.withMembers
          [(name, (s.config.globalConfig.field name).spread
            values)]).field other).field key).HasText := by
    intro other hOther key hKey
    rw [field_withMembers hKept.layered.record]
    split
    · rename_i hSame
      subst hSame
      rw [field_spread hOld.1]
      cases hAssigned : values.assigned key with
      | none => exact hKept.complete other hOther key hKey
      | some found =>
          exact hMembers _ (mem_of_assigned hAssigned) hKey
    · exact hKept.complete other hOther key hKey
  have hSame :
      SameTexts
        (config.withMembers [(name, current.spread values)])
        (s.config.globalConfig.withMembers
          [(name, (s.config.globalConfig.field name).spread
            values)]) := by
    refine sameTexts_of_known hFull hNew ?_
    intro other _ key
    rw [field_withMembers hConfig.record,
      field_withMembers hKept.layered.record]
    split
    · refine spread_texts hCurrentRecord hOld.1 ?_ values key
      exact jsonOf_field_of_json hOld.1 hOld.2 hCurrentJson
    · exact (hKept.layered.copy_sameTexts hCopyJson other).2 key
  have hFullText := hConfigText.withMember hSpread name
  have hTables := saveConfig_eq_ok
    (fun other hOther =>
      hFullText.field hFull.record (hFull.known other hOther).1)
    hSave
  rcases loaded_of_complete hFull hFullText
      (complete_of_sameTexts hSame hComplete) s.tables.config
      with ⟨loaded, hLoaded, hLayered, hText, hTexts⟩
  rw [hLeft, hTables]
  exact
    ⟨{ layered := hNew
       hasText := hKept.hasText.withMember hNewText name
       complete := hComplete
       reads :=
         ⟨loaded, hLoaded, hLayered, hText,
           hTexts.trans hSame⟩ }, rfl⟩

theorem json_of_hydratedConfig
    {globalConfig config : JsValue}
    (hHydrated :
      ConfigContainer.hydratedConfig globalConfig =
        .ok config) :
    (overDefaults globalConfig).json = .ok (some config) := by
  unfold ConfigContainer.hydratedConfig at hHydrated
  unfold overDefaults
  split at hHydrated
  · rename_i hObject
    rw [if_pos hObject]
    rcases bind_eq_ok.mp hHydrated with ⟨_, _, hCopy⟩
    exact jsonCopy_eq_ok_iff.mp hCopy
  · rename_i hObject
    rw [if_neg hObject]
    cases hHydrated
    exact defaults_isCopy

theorem overDefaults_hasCategories
    (globalConfig : JsValue) :
    HasCategories (overDefaults globalConfig) := by
  unfold overDefaults
  split
  · exact mergeCategories_hasCategories globalConfig
  · exact defaults_layered.toHasCategories

/- The store that a hydration leaves when it returns. -/
theorem hydrateConfig_eq_ok
    {d : Dialect}
    {s : StateStore UserTables}
    {occasion : Occasion}
    {globalConfig answer : JsValue}
    (hTruthy : globalConfig.truthy = true)
    (hReturns :
      (s.hydrateConfig d.database occasion globalConfig).1 =
        .ok answer) :
    ∃ container : ConfigContainer,
      ConfigContainer.hydratedConfig globalConfig =
          .ok container.globalConfig ∧
        (s.hydrateConfig d.database occasion globalConfig).2 =
          { s with
              config := container
              tables :=
                s.trySaveConfig d.database occasion
                  globalConfig } := by
  have hPresent : ¬(!globalConfig.truthy) = true := by
    rw [hTruthy]
    exact Bool.false_ne_true
  unfold StateStore.hydrateConfig at hReturns ⊢
  rw [if_neg hPresent] at hReturns ⊢
  unfold ConfigContainer.hydrate at hReturns ⊢
  cases hHydrated :
      ConfigContainer.hydratedConfig globalConfig with
  | error error =>
      rw [hHydrated] at hReturns
      cases hReturns
  | ok config => exact ⟨_, rfl, rfl⟩

theorem configKept_of_stored
    {d : Dialect}
    {s : StateStore UserTables}
    {occasion : Occasion}
    {globalConfig config : JsValue}
    (hNamed : globalConfig.WellNamed)
    (hStored : ConfigStored d s occasion globalConfig)
    (hJson :
      (overDefaults globalConfig).json = .ok (some config))
    (t : Table UserRow String UserRow.configId) :
    ConfigKept s.userId
      (t.upsert
        ⟨none, s.userId,
          configColumns occasion.now globalConfig⟩
        (fun old =>
          old.withColumns
            (configColumns occasion.now globalConfig))
        (fun _ => rfl))
      config := by
  have hRecord := hStored.record
  have hDistinct := hNamed.namesDistinct hRecord
  unfold overDefaults at hJson
  rw [if_pos (isObject_of_isRecord hRecord)] at hJson
  have hMerged := mergeCategories_layered hStored.known
  have hSame := hMerged.copy_sameTexts hJson
  have hLayered := (hMerged.copy hJson).1
  have hNames :
      ∀ category ∈ categories,
        (globalConfig.field category).IsRecord →
          (globalConfig.field category).NamesDistinct :=
    fun category _ hCategory =>
      (hNamed.field hRecord category).namesDistinct hCategory
  have hComplete :
      ∀ category ∈ categories, ∀ key ∈ defaultNames category,
        (((mergeCategories globalConfig).field category).field
          key).HasText := by
    intro category hCategory key hKey
    have hDefault := hasText_default hCategory hKey
    rw [field_mergeCategories hRecord hDistinct,
      field_overlay
        (defaults_layered.known category hCategory).1]
    split
    · rename_i hTypeof
      cases hAssigned :
          (globalConfig.field category).assigned key with
      | none => exact hDefault
      | some found =>
          rcases (hStored.stored category hCategory).2 hTypeof _
              (mem_of_assigned hAssigned) with hText | hOther
          · exact hText
          · exact absurd hKey hOther.2
    · exact hDefault
  rcases loaded_of_saved hNames hStored.stored t with
    ⟨loaded, hLoaded, hLoadedLayered, hLoadedText, hFields⟩
  have hReads :
      SameTexts loaded (mergeCategories globalConfig) := by
    refine sameTexts_of_known hLoadedLayered hMerged ?_
    intro category hCategory key
    rw [hFields category hCategory key,
      field_mergeCategories hRecord hDistinct]
  exact
    { layered := hLayered
      hasText := (isCopy_of_json hJson).hasText
      complete := complete_of_sameTexts hSame hComplete
      reads :=
        ⟨loaded, hLoaded, hLoadedLayered, hLoadedText,
          hReads.trans hSame.symm⟩ }

/- The rows stay, and so do the texts in memory. -/
theorem ConfigKept.of_repeated
    {user : String}
    {t : Table UserRow String UserRow.configId}
    {globalConfig old config : JsValue}
    (hKept : ConfigKept user t old)
    (hRepeats : SameTexts (overDefaults globalConfig) old)
    (hJson :
      (overDefaults globalConfig).json = .ok (some config)) :
    ConfigKept user t config := by
  have hOver : Layered (overDefaults globalConfig) :=
    { toHasCategories := overDefaults_hasCategories globalConfig
      unknown := by
        intro category hCategory
        exact (hRepeats category).1.mpr
          (hKept.layered.unknown category hCategory) }
  have hSame := (hOver.copy_sameTexts hJson).trans hRepeats
  rcases hKept.reads with
    ⟨loaded, hLoaded, hLayered, hText, hTexts⟩
  exact
    { layered := (hOver.copy hJson).1
      hasText := (isCopy_of_json hJson).hasText
      complete := complete_of_sameTexts hSame hKept.complete
      reads :=
        ⟨loaded, hLoaded, hLayered, hText,
          hTexts.trans hSame.symm⟩ }

theorem ConfigKept.hydrateConfig
    {d : Dialect}
    {s : StateStore UserTables}
    {occasion : Occasion}
    {globalConfig answer : JsValue}
    {t : StateStore UserTables}
    (hKept :
      ConfigKept s.userId s.tables.config
        s.config.globalConfig)
    (hNamed : globalConfig.WellNamed)
    (hStores :
      globalConfig.truthy = false ∨
        ConfigStored d s occasion globalConfig ∨
          ConfigRepeated d s occasion globalConfig)
    (hReturns :
      s.hydrateConfig d.database occasion globalConfig =
        (.ok answer, t)) :
    ConfigKept s.userId t.tables.config
        t.config.globalConfig ∧
      t = { s with
        tables := { s.tables with config := t.tables.config }
        config := t.config } := by
  cases hTruthy : globalConfig.truthy with
  | false =>
      unfold StateStore.hydrateConfig at hReturns
      rw [hTruthy] at hReturns
      cases hReturns
      exact ⟨hKept, rfl⟩
  | true =>
      rcases hydrateConfig_eq_ok hTruthy
          (congrArg Prod.fst hReturns) with
        ⟨container, hHydrated, hLeft⟩
      rw [hReturns] at hLeft
      dsimp only at hLeft
      have hJson := json_of_hydratedConfig hHydrated
      rcases hStores with hFalsy | hStored | hRepeated
      · rw [hTruthy] at hFalsy
        cases hFalsy
      · rcases hStored.saved with ⟨tables, hSave⟩
        have hTables := saveConfig_eq_ok
          (fun category hCategory =>
            (hStored.stored category hCategory).1) hSave
        rw [StateStore.trySaveConfig_ok hSave, hTables] at hLeft
        rw [hLeft]
        exact ⟨configKept_of_stored hNamed hStored hJson _, rfl⟩
      · rcases hRepeated.unsaved with ⟨error, hSave⟩
        rw [StateStore.trySaveConfig_error hSave] at hLeft
        rw [hLeft]
        exact ⟨hKept.of_repeated hRepeated.repeats hJson, rfl⟩

end Mutators

end ControlPlane
