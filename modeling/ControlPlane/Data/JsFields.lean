import ControlPlane.Data.JsPlaces
import ControlPlane.Data.OrderedMap

/-
  The fields of values that are spread and copied.

  Two values with the same fields cannot be told apart by
  reading one member. A copy by way of a JSON text has the
  members that have a text themselves, and its own copy is
  the same. What a spread reads as is the last value that is
  assigned, or what it has been laid over.

  Main declarations:
    * `JsValue.SameFields`
    * `JsValue.assigned` and `field_spread`
    * `JsValue.IsCopy` and `isCopy_of_json`
    * `JsValue.jsonOf`, `copyOf` and `field_of_json`
    * `JsValue.HasText` and `HasText.spread`
    * `Argument`
-/

------------------------------------------------------------
-- Names
------------------------------------------------------------

namespace ControlPlane

namespace JsValue

variable
  {members base updates data : List (String × JsValue)}
  {value : JsValue}

/- No two members of an object have one name. -/
def NamesDistinct (value : JsValue) : Prop :=
  (value.members.map Prod.fst).Nodup

theorem assign_of_new
    {member : String × JsValue}
    (hNew : member.1 ∉ members.map Prod.fst) :
    assign members member = members ++ [member] := by
  unfold assign
  rw [if_neg hNew]

theorem assign_names_nodup
    (hNodup : (members.map Prod.fst).Nodup)
    (member : String × JsValue) :
    ((assign members member).map Prod.fst).Nodup := by
  by_cases hMem : member.1 ∈ members.map Prod.fst
  · have hNames :
        (assign members member).map Prod.fst =
          members.map Prod.fst := by
      unfold assign
      rw [if_pos hMem, List.map_map]
      refine List.map_congr_left ?_
      intro old _
      by_cases hSame : old.1 = member.1
      · simp [hSame]
      · simp [hSame]
    rw [hNames]
    exact hNodup
  · rw [assign_of_new hMem, List.map_append, List.map_cons,
      List.map_nil, List.nodup_append]
    refine ⟨hNodup, List.nodup_singleton _, ?_⟩
    intro name hName other hOther hSame
    rw [List.mem_singleton] at hOther
    rw [hSame, hOther] at hName
    exact hMem hName

theorem foldl_assign_names_nodup
    (hNodup : (base.map Prod.fst).Nodup)
    (updates : List (String × JsValue)) :
    ((updates.foldl assign base).map Prod.fst).Nodup := by
  induction updates generalizing base with
  | nil => exact hNodup
  | cons update updates ih =>
      exact ih (assign_names_nodup hNodup update)

theorem NamesDistinct.spread
    (hValue : value.NamesDistinct)
    (updates : JsValue) :
    (value.spread updates).NamesDistinct :=
  foldl_assign_names_nodup hValue updates.members

/- A member that is there already changes nothing. -/
theorem assign_of_mem
    {member : String × JsValue}
    (hNodup : (members.map Prod.fst).Nodup)
    (hMember : member ∈ members) :
    assign members member = members := by
  unfold assign
  rw [if_pos (List.mem_map_of_mem hMember)]
  conv_rhs => rw [← List.map_id members]
  apply List.map_congr_left
  intro old hOld
  split
  · rename_i hSame
    exact (List.inj_on_of_nodup_map hNodup hOld hMember
      hSame).symm
  · rfl

theorem foldl_assign_of_subset
    {given : List (String × JsValue)}
    (hNodup : (members.map Prod.fst).Nodup)
    (hGiven : ∀ member ∈ given, member ∈ members) :
    given.foldl assign members = members := by
  induction given with
  | nil => rfl
  | cons member given ih =>
      rw [List.forall_mem_cons] at hGiven
      rw [List.foldl_cons, assign_of_mem hNodup hGiven.1,
        ih hGiven.2]

/- Where names are distinct, lookup is membership. -/
theorem lookup_eq_some_iff
    (hNodup : (members.map Prod.fst).Nodup)
    {name : String}
    {found : JsValue} :
    members.lookup name = some found ↔
      (name, found) ∈ members :=
  OrderedMap.get?_eq_some_iff ⟨members, hNodup⟩ name found

------------------------------------------------------------
-- Fields
------------------------------------------------------------

/- Every member reads the same. -/
def SameFields (value other : JsValue) : Prop :=
  ∀ name, value.field name = other.field name

theorem SameFields.symm
    {other : JsValue}
    (hSame : value.SameFields other) :
    other.SameFields value :=
  fun name => (hSame name).symm

theorem SameFields.trans
    {other third : JsValue}
    (hFirst : value.SameFields other)
    (hSecond : other.SameFields third) :
    value.SameFields third :=
  fun name => (hFirst name).trans (hSecond name)

def IsRecord (value : JsValue) : Prop :=
  ∃ members, value = .object members

theorem IsRecord.spread
    (value updates : JsValue) :
    (value.spread updates).IsRecord := ⟨_, rfl⟩

theorem IsRecord.withMembers
    (value : JsValue)
    (updates : List (String × JsValue)) :
    (value.withMembers updates).IsRecord := ⟨_, rfl⟩

/- The last value that is assigned to a name. -/
def assigned
    (updates : JsValue)
    (name : String) : Option JsValue :=
  updates.members.reverse.lookup name

theorem lookup_foldl_assign_eq
    (updates : List (String × JsValue))
    (name : String) :
    (updates.foldl assign base).lookup name =
      (updates.reverse.lookup name).or (base.lookup name) := by
  induction updates using List.reverseRecOn with
  | nil => rfl
  | append_singleton updates member ih =>
      rw [List.foldl_append, List.foldl_cons, List.foldl_nil,
        List.reverse_append, List.reverse_singleton,
        List.singleton_append, OrderedMap.lookup_cons_eq]
      by_cases hName : name = member.1
      · rw [if_pos hName, hName, lookup_assign_self]
        rfl
      · rw [if_neg hName, lookup_assign_of_ne hName, ih]

theorem field_spread
    (hValue : value.IsRecord)
    (updates : JsValue)
    (name : String) :
    (value.spread updates).field name =
      (updates.assigned name).getD (value.field name) := by
  rcases hValue with ⟨members, rfl⟩
  change
    ((updates.members.foldl assign members).lookup name).getD
      .undefined = _
  rw [lookup_foldl_assign_eq]
  unfold assigned
  cases updates.members.reverse.lookup name <;> rfl

theorem mem_of_assigned
    {updates found : JsValue}
    {name : String}
    (hAssigned : updates.assigned name = some found) :
    (name, found) ∈ updates.members := by
  unfold assigned at hAssigned
  rw [List.lookup_eq_some_iff] at hAssigned
  rcases hAssigned with ⟨front, back, hSplit, _⟩
  rw [← List.mem_reverse, hSplit]
  exact List.mem_append_right _ List.mem_cons_self

theorem assigned_eq_lookup
    {updates : JsValue}
    (hDistinct : updates.NamesDistinct)
    (name : String) :
    updates.assigned name = updates.members.lookup name := by
  have hReverse :
      (updates.members.reverse.map Prod.fst).Nodup := by
    rw [List.map_reverse, List.nodup_reverse]
    exact hDistinct
  apply Option.ext
  intro found
  unfold assigned
  rw [lookup_eq_some_iff hReverse, lookup_eq_some_iff hDistinct,
    List.mem_reverse]

/- Updates that repeat what is there change no field. -/
theorem spread_sameFields
    (hValue : value.IsRecord)
    {updates : JsValue}
    (hRepeats :
      ∀ member ∈ updates.members,
        member.2 = value.field member.1) :
    (value.spread updates).SameFields value := by
  intro name
  rw [field_spread hValue]
  cases hAssigned : updates.assigned name with
  | none => rfl
  | some found =>
      exact hRepeats _ (mem_of_assigned hAssigned)

theorem field_withMembers
    (hValue : value.IsRecord)
    (name : String)
    (found : JsValue)
    (other : String) :
    (value.withMembers [(name, found)]).field other =
      if other = name then found else value.field other := by
  by_cases hName : other = name
  · rw [if_pos hName, hName, field_withMembers_self]
  · rcases hValue with ⟨members, rfl⟩
    rw [if_neg hName]
    change
      ((assign members (name, found)).lookup other).getD
        .undefined = _
    rw [lookup_assign_of_ne hName]
    rfl

------------------------------------------------------------
-- JSON Copies
------------------------------------------------------------

/- The members that a JSON text has are those with a text. -/
theorem mem_jsonMembers
    (hData : jsonMembers members = .ok data)
    {key : String}
    {value : JsValue} :
    (key, value) ∈ data ↔
      ∃ old, (key, old) ∈ members ∧
        old.json = .ok (some value) := by
  induction members generalizing data with
  | nil =>
      cases hData
      simp
  | cons member members ih =>
      rcases member with ⟨name, first⟩
      rw [jsonMembers] at hData
      rcases bind_eq_ok.mp hData with ⟨found, hFound, hData⟩
      rcases bind_eq_ok.mp hData with ⟨rest, hRest, hData⟩
      cases found with
      | none =>
          cases hData
          rw [ih hRest]
          constructor
          · rintro ⟨old, hMem, hOld⟩
            exact ⟨old, List.mem_cons_of_mem _ hMem, hOld⟩
          · rintro ⟨old, hMem, hOld⟩
            rcases List.mem_cons.mp hMem with hSame | hMem
            · cases hSame
              rw [hFound] at hOld
              cases hOld
            · exact ⟨old, hMem, hOld⟩
      | some copy =>
          cases hData
          rw [List.mem_cons, ih hRest]
          constructor
          · rintro (hSame | ⟨old, hMem, hOld⟩)
            · cases hSame
              exact ⟨first, List.mem_cons_self, hFound⟩
            · exact ⟨old, List.mem_cons_of_mem _ hMem, hOld⟩
          · rintro ⟨old, hMem, hOld⟩
            rcases List.mem_cons.mp hMem with hSame | hMem
            · cases hSame
              rw [hFound] at hOld
              cases hOld
              exact .inl rfl
            · exact .inr ⟨old, hMem, hOld⟩

theorem json_object_eq
    {found : Option JsValue}
    (hJson : (JsValue.object members).json = .ok found) :
    ∃ data,
      jsonMembers members = .ok data ∧
        found = some (.object data) := by
  rw [json] at hJson
  rcases bind_eq_ok.mp hJson with ⟨data, hData, hDone⟩
  cases hDone
  exact ⟨data, hData, rfl⟩

/- The value is what is parsed of its own JSON text. -/
def IsCopy (value : JsValue) : Prop :=
  value.json = .ok (some value)

theorem jsonMembers_of_copies
    (hCopies : ∀ member ∈ members, member.2.IsCopy) :
    jsonMembers members = .ok members := by
  induction members with
  | nil => rfl
  | cons member members ih =>
      rcases member with ⟨key, value⟩
      rw [List.forall_mem_cons] at hCopies
      have hValue : value.json = .ok (some value) := hCopies.1
      rw [jsonMembers, hValue, ih hCopies.2]
      rfl

theorem jsonItems_of_copies
    {items : List JsValue}
    (hCopies : ∀ item ∈ items, item.IsCopy) :
    jsonItems items = .ok items := by
  induction items with
  | nil => rfl
  | cons item items ih =>
      rw [List.forall_mem_cons] at hCopies
      have hItem : item.json = .ok (some item) := hCopies.1
      rw [jsonItems, hItem, ih hCopies.2]
      rfl

theorem isCopy_object
    (hCopies : ∀ member ∈ members, member.2.IsCopy) :
    (object members).IsCopy := by
  unfold IsCopy json
  rw [jsonMembers_of_copies hCopies]
  rfl

theorem isCopy_array
    {items : List JsValue}
    (hCopies : ∀ item ∈ items, item.IsCopy) :
    (array items).IsCopy := by
  unfold IsCopy json
  rw [jsonItems_of_copies hCopies]
  rfl

theorem isCopy_jsonItems
    {items copies : List JsValue}
    (hEach :
      ∀ item ∈ items, ∀ copy,
        item.json = .ok (some copy) → copy.IsCopy)
    (hCopies : jsonItems items = .ok copies) :
    ∀ copy ∈ copies, copy.IsCopy := by
  induction items generalizing copies with
  | nil =>
      cases hCopies
      simp
  | cons item items ih =>
      rw [List.forall_mem_cons] at hEach
      rw [jsonItems] at hCopies
      rcases bind_eq_ok.mp hCopies with ⟨found, hFound, hCopies⟩
      rcases bind_eq_ok.mp hCopies with ⟨rest, hRest, hCopies⟩
      cases hCopies
      rw [List.forall_mem_cons]
      refine ⟨?_, ih hEach.2 hRest⟩
      cases found with
      | none => rfl
      | some copy => exact hEach.1 copy hFound

/- What is parsed is read back from a text of its own. -/
theorem isCopy_of_json
    {copy : JsValue}
    (hJson : value.json = .ok (some copy)) : copy.IsCopy := by
  induction value using JsValue.induction generalizing copy with
  | leaf value hLeaf =>
      cases value with
      | array items => cases hLeaf
      | object members => cases hLeaf
      | number n => cases n <;> (cases hJson; rfl)
      | null | boolean | text => cases hJson; rfl
      | undefined | symbol | function => cases hJson
      | bigint | circular => cases hJson
  | array items ih =>
      rw [json] at hJson
      rcases bind_eq_ok.mp hJson with ⟨copies, hCopies, hDone⟩
      cases hDone
      refine isCopy_array (isCopy_jsonItems ?_ hCopies)
      intro item hItem found hFound
      exact ih item hItem hFound
  | object members ih =>
      rcases json_object_eq hJson with ⟨copies, hCopies, hSome⟩
      cases hSome
      refine isCopy_object ?_
      rintro ⟨key, found⟩ hMem
      rcases (mem_jsonMembers hCopies).mp hMem with
        ⟨old, hOld, hFound⟩
      exact ih _ hOld hFound

/- The data in the JSON text of a value, if it has one. -/
def jsonOf (value : JsValue) : Option JsValue :=
  match value.json with
  | .ok found => found
  | .error _ => none

theorem jsonOf_eq_some_iff
    {copy : JsValue} :
    value.jsonOf = some copy ↔
      value.json = .ok (some copy) := by
  unfold jsonOf
  cases hJson : value.json with
  | error e => simp
  | ok found => simp

theorem IsCopy.jsonOf_eq
    (hCopy : value.IsCopy) : value.jsonOf = some value :=
  jsonOf_eq_some_iff.mpr hCopy

theorem jsonCopy_eq_ok_iff
    {copy : JsValue} :
    value.jsonCopy = .ok copy ↔
      value.json = .ok (some copy) := by
  unfold jsonCopy
  rw [bind_eq_ok]
  constructor
  · rintro ⟨found, hJson, hFound⟩
    cases found with
    | none => cases hFound
    | some data =>
        cases hFound
        exact hJson
  · intro hJson
    exact ⟨some copy, hJson, rfl⟩

/- An object keeps its distinct names in a copy. -/
theorem names_of_jsonMembers
    (hData : jsonMembers members = .ok data) :
    (data.map Prod.fst).Sublist (members.map Prod.fst) := by
  induction members generalizing data with
  | nil =>
      cases hData
      exact .slnil
  | cons member members ih =>
      rcases member with ⟨key, value⟩
      rw [jsonMembers] at hData
      rcases bind_eq_ok.mp hData with ⟨found, hFound, hData⟩
      rcases bind_eq_ok.mp hData with ⟨rest, hRest, hData⟩
      cases found with
      | none =>
          cases hData
          exact (ih hRest).cons _
      | some copy =>
          cases hData
          exact (ih hRest).cons_cons _

/- A copy of an object has the copies of its fields. -/
theorem lookup_jsonMembers
    (hNodup : (members.map Prod.fst).Nodup)
    (hData : jsonMembers members = .ok data)
    (name : String) :
    data.lookup name = (members.lookup name).bind jsonOf := by
  apply Option.ext
  intro copy
  rw [lookup_eq_some_iff
      (hNodup.sublist (names_of_jsonMembers hData)),
    mem_jsonMembers hData, Option.bind_eq_some_iff]
  constructor
  · rintro ⟨old, hOld, hJson⟩
    exact ⟨old, (lookup_eq_some_iff hNodup).mpr hOld,
      jsonOf_eq_some_iff.mpr hJson⟩
  · rintro ⟨old, hOld, hJson⟩
    exact ⟨old, (lookup_eq_some_iff hNodup).mp hOld,
      jsonOf_eq_some_iff.mp hJson⟩

/-
  The copy of an object: an object with distinct names that
  has the copy of every field.
-/
theorem json_of_object
    {copy : JsValue}
    (hValue : value.IsRecord)
    (hDistinct : value.NamesDistinct)
    (hJson : value.json = .ok (some copy)) :
    copy.IsRecord ∧ copy.NamesDistinct ∧
      ∀ name,
        copy.members.lookup name =
          (value.field name).jsonOf := by
  rcases hValue with ⟨members, rfl⟩
  rcases json_object_eq hJson with ⟨data, hData, hSome⟩
  cases hSome
  refine ⟨⟨data, rfl⟩,
    hDistinct.sublist (names_of_jsonMembers hData), ?_⟩
  intro name
  refine (lookup_jsonMembers hDistinct hData name).trans ?_
  change
    (members.lookup name).bind jsonOf =
      ((members.lookup name).getD .undefined).jsonOf
  cases members.lookup name <;> rfl

theorem field_of_isRecord
    (hValue : value.IsRecord)
    (name : String) :
    value.field name =
      (value.members.lookup name).getD .undefined := by
  rcases hValue with ⟨members, rfl⟩
  rfl

/- What a copy has under its names is a copy as well. -/
theorem IsCopy.field
    (hCopy : value.IsCopy)
    (hValue : value.IsRecord)
    (hDistinct : value.NamesDistinct)
    {name : String}
    (hName : name ∈ value.members.map Prod.fst) :
    (value.field name).IsCopy := by
  rcases hValue with ⟨members, rfl⟩
  rcases json_object_eq hCopy with ⟨data, hData, hSome⟩
  cases hSome
  rcases List.mem_map.mp hName with ⟨⟨key, found⟩, hMem, rfl⟩
  rcases (mem_jsonMembers hData).mp hMem with
    ⟨old, hOld, hJson⟩
  have hFound : members.lookup key = some found :=
    (lookup_eq_some_iff hDistinct).mpr hMem
  have hSame : members.lookup key = some old :=
    (lookup_eq_some_iff hDistinct).mpr hOld
  rw [hFound] at hSame
  cases hSame
  change ((members.lookup key).getD .undefined).IsCopy
  rw [hFound]
  exact hJson

/- The copy of a value that has a text, or undefined. -/
def copyOf (value : JsValue) : JsValue :=
  value.jsonOf.getD .undefined

theorem copyOf_of_json
    {copy : JsValue}
    (hJson : value.json = .ok (some copy)) :
    value.copyOf = copy := by
  unfold copyOf
  rw [jsonOf_eq_some_iff.mpr hJson]
  rfl

/- The copy of a value, or else another value, is copied. -/
theorem jsonOf_getD_jsonOf (value other : JsValue) :
    (value.jsonOf.getD other).jsonOf =
      value.jsonOf.or other.jsonOf := by
  cases hText : value.jsonOf with
  | none => rfl
  | some found =>
      exact (isCopy_of_json
        (jsonOf_eq_some_iff.mp hText)).jsonOf_eq

/- Copying once more changes nothing. -/
theorem jsonOf_copyOf
    (value : JsValue) : value.copyOf.jsonOf = value.jsonOf :=
  (jsonOf_getD_jsonOf value .undefined).trans Option.or_none

theorem field_of_json
    {copy : JsValue}
    (hValue : value.IsRecord)
    (hDistinct : value.NamesDistinct)
    (hJson : value.json = .ok (some copy))
    (name : String) :
    copy.field name = (value.field name).copyOf := by
  rcases json_of_object hValue hDistinct hJson with
    ⟨hCopy, _, hLookup⟩
  rw [field_of_isRecord hCopy, hLookup]
  rfl

/- Copying the field of a copy again changes nothing. -/
theorem jsonOf_field_of_json
    {copy : JsValue}
    (hValue : value.IsRecord)
    (hDistinct : value.NamesDistinct)
    (hJson : value.json = .ok (some copy))
    (name : String) :
    (copy.field name).jsonOf = (value.field name).jsonOf := by
  rw [field_of_json hValue hDistinct hJson, jsonOf_copyOf]

/- Every field of a record with a text can be copied. -/
theorem json_field
    {copy : JsValue}
    (hValue : value.IsRecord)
    (hJson : value.json = .ok (some copy))
    (name : String) :
    ∃ found, (value.field name).json = .ok found := by
  rw [field_of_isRecord hValue]
  cases hLookup : value.members.lookup name with
  | none => exact ⟨none, rfl⟩
  | some found =>
      rw [List.lookup_eq_some_iff] at hLookup
      rcases hLookup with ⟨front, back, hSplit, _⟩
      have hMem : (name, found) ∈ value.members := by
        rw [hSplit]
        exact List.mem_append_right _ List.mem_cons_self
      exact json_of_mem_members hJson hMem

/- The copy of an array has a copy in each place, or null. -/
theorem jsonItems_eq_map
    {items copies : List JsValue}
    (hCopies : jsonItems items = .ok copies) :
    copies =
      items.map (fun item => item.jsonOf.getD .null) := by
  induction items generalizing copies with
  | nil =>
      cases hCopies
      rfl
  | cons item items ih =>
      rw [jsonItems] at hCopies
      rcases bind_eq_ok.mp hCopies with ⟨found, hFound, hCopies⟩
      rcases bind_eq_ok.mp hCopies with ⟨rest, hRest, hCopies⟩
      cases hCopies
      rw [List.map_cons, ih hRest]
      unfold jsonOf
      rw [hFound]

theorem lookup_map_values
    (f : JsValue → JsValue)
    (members : List (String × JsValue))
    (name : String) :
    (members.map (fun m => (m.1, f m.2))).lookup name =
      (members.lookup name).map f := by
  induction members with
  | nil => rfl
  | cons member members ih =>
      rw [List.map_cons, OrderedMap.lookup_cons_eq, ih,
        OrderedMap.lookup_cons_eq]
      by_cases hName : name = member.1
      · rw [if_pos hName, if_pos hName]
        rfl
      · rw [if_neg hName, if_neg hName]

theorem assigned_array_map
    (f : JsValue → JsValue)
    (items : List JsValue)
    (name : String) :
    (array (items.map f)).assigned name =
      ((array items).assigned name).map f := by
  have hMembers :
      (array (items.map f)).members =
        (array items).members.map (fun m => (m.1, f m.2)) := by
    unfold JsValue.members
    dsimp only
    rw [List.zipIdx_map, List.map_map, List.map_map]
    rfl
  unfold assigned
  rw [hMembers, ← List.map_reverse, lookup_map_values]

------------------------------------------------------------
-- Values With A Text
------------------------------------------------------------

def HasText (value : JsValue) : Prop :=
  ∃ data, value.json = .ok (some data)

theorem IsCopy.hasText
    (hCopy : value.IsCopy) : value.HasText := ⟨value, hCopy⟩

/- A record with a JSON text at all has data in it. -/
theorem HasText.of_record
    (hValue : value.IsRecord)
    (hJson : ∃ found, value.json = .ok found) :
    value.HasText := by
  rcases hValue with ⟨members, rfl⟩
  rcases hJson with ⟨found, hFound⟩
  rcases json_object_eq hFound with ⟨data, _, hSome⟩
  exact ⟨.object data, hSome ▸ hFound⟩

theorem hasText_iff :
    value.HasText ↔ ∃ data, value.jsonOf = some data := by
  simp only [jsonOf_eq_some_iff, HasText]

theorem HasText.json_eq
    (hText : value.HasText) :
    value.json = .ok (some value.copyOf) := by
  rcases hText with ⟨data, hJson⟩
  rw [copyOf_of_json hJson, hJson]

theorem HasText.isCopy
    (hText : value.HasText) : value.copyOf.IsCopy :=
  isCopy_of_json hText.json_eq

theorem HasText.jsonOf_eq
    (hText : value.HasText) :
    value.jsonOf = some value.copyOf :=
  jsonOf_eq_some_iff.mpr hText.json_eq

/- A record with a text has a text of every record in it. -/
theorem HasText.field
    (hText : value.HasText)
    (hValue : value.IsRecord)
    {name : String}
    (hField : (value.field name).IsRecord) :
    (value.field name).HasText :=
  .of_record hField (json_field hValue hText.json_eq name)

theorem hasText_object_iff :
    (object members).HasText ↔
      ∀ member ∈ members,
        ∃ found, member.2.json = .ok found := by
  rw [← jsonMembers_eq_ok_iff, ← json_object_iff]
  constructor
  · rintro ⟨data, hJson⟩
    exact ⟨some data, hJson⟩
  · rintro ⟨found, hJson⟩
    rcases json_object_eq hJson with ⟨data, _, hSome⟩
    exact ⟨.object data, hSome ▸ hJson⟩

/- A value with a text can be laid over another one. -/
theorem HasText.spread
    {updates : JsValue}
    (hValue : value.HasText)
    (hUpdates : updates.HasText) :
    (value.spread updates).HasText := by
  rcases hValue with ⟨data, hValue⟩
  rcases hUpdates with ⟨other, hUpdates⟩
  refine hasText_object_iff.mpr ?_
  intro entry hEntry
  rcases mem_foldl_assign value.members [] updates.members
      entry hEntry with hOld | hNew
  · exact json_of_mem_members hValue hOld
  · have hNone :
        (([] : List (String × JsValue)).map Prod.fst).Nodup :=
      List.nodup_nil
    have hLast := (lookup_eq_some_iff
      (foldl_assign_names_nodup hNone updates.members)).mpr hNew
    rw [lookup_foldl_assign_eq, List.lookup_nil,
      Option.or_none] at hLast
    exact json_of_mem_members hUpdates (mem_of_assigned hLast)

theorem HasText.withMember
    (hValue : value.HasText)
    {found : JsValue}
    (hFound : found.HasText)
    (name : String) :
    (value.withMembers [(name, found)]).HasText := by
  rcases hFound with ⟨data, hFound⟩
  have hMember : (object [(name, found)]).HasText := by
    rw [hasText_object_iff, List.forall_mem_singleton]
    exact ⟨some data, hFound⟩
  exact hValue.spread hMember

------------------------------------------------------------
-- Arguments
------------------------------------------------------------

def NamesNode : JsValue → Prop
| .object members => (members.map Prod.fst).Nodup
| _ => True

instance NamesNode.decidable : DecidablePred NamesNode
| .object members =>
    inferInstanceAs (Decidable (members.map Prod.fst).Nodup)
| .undefined => isTrue trivial
| .null => isTrue trivial
| .boolean _ => isTrue trivial
| .number _ => isTrue trivial
| .bigint _ => isTrue trivial
| .text _ => isTrue trivial
| .symbol _ => isTrue trivial
| .function _ => isTrue trivial
| .array _ => isTrue trivial
| .circular => isTrue trivial

/- No object in the value has two members of one name. -/
def WellNamed (value : JsValue) : Prop :=
  value.Everywhere NamesNode

instance WellNamed.decidable
    (value : JsValue) : Decidable value.WellNamed :=
  Everywhere.decidable NamesNode value

theorem WellNamed.namesDistinct
    (hNamed : value.WellNamed)
    (hValue : value.IsRecord) : value.NamesDistinct := by
  rcases hValue with ⟨members, rfl⟩
  exact hNamed.here

theorem WellNamed.field
    (hNamed : value.WellNamed)
    (hValue : value.IsRecord)
    (name : String) : (value.field name).WellNamed := by
  rcases hValue with ⟨members, rfl⟩
  change ((members.lookup name).getD .undefined).WellNamed
  cases hLookup : members.lookup name with
  | none => trivial
  | some found =>
      have hMem := (lookup_eq_some_iff hNamed.here).mp hLookup
      exact ((everywhere_object NamesNode members).mp
        hNamed).2 _ hMem

end JsValue

/- A value as a caller can give it. -/
structure Argument where
  value : JsValue
  wellNamed : value.WellNamed

end ControlPlane
