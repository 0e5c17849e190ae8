import ControlPlane.Data.JsonText
import Mathlib.Data.List.TakeWhile

/-
  The order of the members of objects.

  An object lists the properties whose names are array
  indices first, in the order of the numbers, and the others
  after them in the order of their creation. Values that
  differ in the order of members only are the same value.

  Main declarations:
    * `createProperty` and `ownOrder`
    * `JsonTree.sorted` and `JsonTree.Same`
    * `JsonTree.Distinct`
    * `Numerals.parse` and `Numerals.parse_stringify`
-/

------------------------------------------------------------
-- Members
------------------------------------------------------------

namespace ControlPlane

variable {α β : Type}

def namesOf (members : List (Units × α)) : List Units :=
  members.map Prod.fst

def mapValues
    (h : α → β)
    (members : List (Units × α)) : List (Units × β) :=
  members.map (Prod.map id h)

@[simp] theorem namesOf_nil :
    namesOf ([] : List (Units × α)) = [] := rfl

@[simp] theorem namesOf_cons
    (member : Units × α)
    (members : List (Units × α)) :
    namesOf (member :: members) =
      member.1 :: namesOf members := rfl

@[simp] theorem namesOf_append
    (first second : List (Units × α)) :
    namesOf (first ++ second) =
      namesOf first ++ namesOf second :=
  List.map_append

@[simp] theorem namesOf_mapValues
    (h : α → β)
    (members : List (Units × α)) :
    namesOf (mapValues h members) = namesOf members := by
  unfold namesOf mapValues
  rw [List.map_map]
  rfl

theorem mem_namesOf
    {member : Units × α}
    {members : List (Units × α)}
    (hMem : member ∈ members) :
    member.1 ∈ namesOf members :=
  List.mem_map_of_mem hMem

/- Two members of one name are the same member. -/
theorem member_ext
    {members : List (Units × α)}
    (hDistinct : (namesOf members).Nodup)
    {a b : Units × α}
    (hA : a ∈ members)
    (hB : b ∈ members)
    (hName : a.1 = b.1) : a = b :=
  List.inj_on_of_nodup_map hDistinct hA hB hName

------------------------------------------------------------
-- Sorted Members
------------------------------------------------------------

/- The members by the code units of their names. -/
def sortMembers
    (members : List (Units × α)) : List (Units × α) :=
  members.insertionSort (fun a b => a.1 ≤ b.1)

theorem sortMembers_perm
    (members : List (Units × α)) :
    (sortMembers members).Perm members :=
  List.perm_insertionSort _ members

theorem namesOf_sortMembers_perm
    (members : List (Units × α)) :
    (namesOf (sortMembers members)).Perm (namesOf members) :=
  (sortMembers_perm members).map Prod.fst

instance : Std.Total
    (fun a b : Units × α => a.1 ≤ b.1) where
  total a b := le_total a.1 b.1

instance : IsTrans (Units × α) (fun a b => a.1 ≤ b.1) where
  trans _ _ _ hFirst hSecond := le_trans hFirst hSecond

theorem sortMembers_pairwise
    (members : List (Units × α)) :
    (sortMembers members).Pairwise (fun a b => a.1 ≤ b.1) :=
  List.pairwise_insertionSort _ members

/- Sorting forgets the order that the members had. -/
theorem sortMembers_eq_of_perm
    {first second : List (Units × α)}
    (hDistinct : (namesOf first).Nodup)
    (hPerm : first.Perm second) :
    sortMembers first = sortMembers second := by
  refine List.Perm.eq_of_pairwise ?_
    (sortMembers_pairwise first) (sortMembers_pairwise second)
    ((sortMembers_perm first).trans
      (hPerm.trans (sortMembers_perm second).symm))
  intro a b hA hB hLe hGe
  have hFirst : a ∈ first := (sortMembers_perm first).subset hA
  have hSecond : b ∈ first :=
    hPerm.symm.subset ((sortMembers_perm second).subset hB)
  exact member_ext hDistinct hFirst hSecond
    (le_antisymm hLe hGe)

theorem sortMembers_mapValues
    (h : α → β)
    (members : List (Units × α)) :
    sortMembers (mapValues h members) =
      mapValues h (sortMembers members) :=
  (List.map_insertionSort
    (fun a b : Units × α => a.1 ≤ b.1)
    (fun a b : Units × β => a.1 ≤ b.1) (Prod.map id h) members
    (fun _ _ _ _ => Iff.rfl)).symm

------------------------------------------------------------
-- The Order Of Properties
------------------------------------------------------------

def decimalValue (name : Units) : Nat :=
  name.foldl (fun n u => 10 * n + (u.val - 48)) 0

/- The decimal text of a number below the last index. -/
def isArrayIndex (name : Units) : Bool :=
  !name.isEmpty &&
    name.all (fun u => decide (48 ≤ u.val ∧ u.val ≤ 57)) &&
    (name.head? != some 48 || name.length == 1) &&
    decide (decimalValue name < 4294967295)

/- Array indices come by number, all other names after. -/
def propertyRank (name : Units) : Nat :=
  if isArrayIndex name then decimalValue name else 4294967295

/- Set one property of an object that lists its own. -/
def createProperty
    (members : List (Units × α))
    (member : Units × α) : List (Units × α) :=
  if member.1 ∈ namesOf members then
    members.map (fun m => if m.1 = member.1 then member else m)
  else
    members.takeWhile (fun m =>
        decide (propertyRank m.1 ≤ propertyRank member.1)) ++
      member :: members.dropWhile (fun m =>
        decide (propertyRank m.1 ≤ propertyRank member.1))

/- The members of an object that was given them in turn. -/
def ownOrder
    (members : List (Units × α)) : List (Units × α) :=
  members.foldl createProperty []

/- An object lists its properties by rank. -/
def Ranked (names : List Units) : Prop :=
  names.Pairwise (fun a b => propertyRank a ≤ propertyRank b)

instance (names : List Units) : Decidable (Ranked names) :=
  inferInstanceAs (Decidable (names.Pairwise _))

theorem createProperty_of_mem
    {members : List (Units × α)}
    {member : Units × α}
    (hMem : member.1 ∈ namesOf members) :
    createProperty members member =
      members.map
        (fun m => if m.1 = member.1 then member else m) :=
  if_pos hMem

theorem createProperty_of_not_mem
    {members : List (Units × α)}
    {member : Units × α}
    (hFresh : member.1 ∉ namesOf members) :
    createProperty members member =
      members.takeWhile (fun m =>
          decide
            (propertyRank m.1 ≤ propertyRank member.1)) ++
        member :: members.dropWhile (fun m =>
          decide
            (propertyRank m.1 ≤ propertyRank member.1)) :=
  if_neg hFresh

theorem namesOf_createProperty_of_mem
    {members : List (Units × α)}
    {member : Units × α}
    (hMem : member.1 ∈ namesOf members) :
    namesOf (createProperty members member) =
      namesOf members := by
  rw [createProperty_of_mem hMem]
  unfold namesOf
  rw [List.map_map]
  refine List.map_congr_left ?_
  intro m _
  by_cases hName : m.1 = member.1
  · rw [Function.comp_apply, if_pos hName, hName]
  · rw [Function.comp_apply, if_neg hName]

theorem createProperty_perm
    {members : List (Units × α)}
    {member : Units × α}
    (hFresh : member.1 ∉ namesOf members) :
    (createProperty members member).Perm
      (member :: members) := by
  rw [createProperty_of_not_mem hFresh]
  refine List.perm_middle.trans ?_
  rw [List.takeWhile_append_dropWhile]

/- A property at least as high as all others comes last. -/
theorem createProperty_last
    {members : List (Units × α)}
    {member : Units × α}
    (hFresh : member.1 ∉ namesOf members)
    (hLast :
      ∀ name ∈ namesOf members,
        propertyRank name ≤ propertyRank member.1) :
    createProperty members member = members ++ [member] := by
  have hAll :
      ∀ m ∈ members,
        decide (propertyRank m.1 ≤ propertyRank member.1) =
          true := by
    intro m hMem
    exact decide_eq_true (hLast m.1 (mem_namesOf hMem))
  rw [createProperty_of_not_mem hFresh,
    List.takeWhile_eq_self_iff.mpr hAll,
    List.dropWhile_eq_nil_iff.mpr hAll]

theorem nodup_createProperty
    {members : List (Units × α)}
    (hDistinct : (namesOf members).Nodup)
    (member : Units × α) :
    (namesOf (createProperty members member)).Nodup := by
  by_cases hMem : member.1 ∈ namesOf members
  · rw [namesOf_createProperty_of_mem hMem]
    exact hDistinct
  · have hNames := (createProperty_perm hMem).map Prod.fst
    exact hNames.nodup_iff.mpr
      (List.nodup_cons.mpr ⟨hMem, hDistinct⟩)

theorem mem_createProperty
    {members : List (Units × α)}
    {member m : Units × α}
    (hMem : m ∈ createProperty members member) :
    m = member ∨ m ∈ members := by
  by_cases hHas : member.1 ∈ namesOf members
  · rw [createProperty_of_mem hHas, List.mem_map] at hMem
    rcases hMem with ⟨old, hOld, rfl⟩
    by_cases hName : old.1 = member.1
    · rw [if_pos hName]
      exact .inl rfl
    · rw [if_neg hName]
      exact .inr hOld
  · exact List.mem_cons.mp
      ((createProperty_perm hHas).subset hMem)

theorem ranked_createProperty
    {members : List (Units × α)}
    (hRanked : Ranked (namesOf members))
    (member : Units × α) :
    Ranked (namesOf (createProperty members member)) := by
  by_cases hMem : member.1 ∈ namesOf members
  · rw [namesOf_createProperty_of_mem hMem]
    exact hRanked
  · let before := fun m : Units × α =>
      decide (propertyRank m.1 ≤ propertyRank member.1)
    have hWhole :
        (members.takeWhile before ++
          members.dropWhile before).Pairwise
            (fun a b =>
              propertyRank a.1 ≤ propertyRank b.1) := by
      unfold Ranked namesOf at hRanked
      rw [List.takeWhile_append_dropWhile]
      rw [List.pairwise_map] at hRanked
      exact hRanked
    rcases List.pairwise_append.mp hWhole with
      ⟨hTake, hDrop, hAcross⟩
    have hBefore :
        ∀ m ∈ members.takeWhile before,
          propertyRank m.1 ≤ propertyRank member.1 := by
      intro m hTaken
      have hTest : before m = true :=
        List.mem_takeWhile_imp hTaken
      exact of_decide_eq_true hTest
    have hAfter :
        ∀ m ∈ members.dropWhile before,
          propertyRank member.1 ≤ propertyRank m.1 := by
      cases hRest : members.dropWhile before with
      | nil =>
          intro m hNone
          cases hNone
      | cons first rest =>
          have hHead :=
            List.head_dropWhile_not before (l := members)
              (by rw [hRest]; exact List.cons_ne_nil _ _)
          simp only [hRest, List.head_cons] at hHead
          have hFirst :
              propertyRank member.1 ≤ propertyRank first.1 :=
            le_of_not_ge (of_decide_eq_false hHead)
          rw [hRest, List.pairwise_cons] at hDrop
          intro m hLater
          rcases List.mem_cons.mp hLater with rfl | hLater
          · exact hFirst
          · exact le_trans hFirst (hDrop.1 m hLater)
    rw [createProperty_of_not_mem hMem]
    refine List.pairwise_map.mpr
      (List.pairwise_append.mpr ⟨hTake, ?_, ?_⟩)
    · exact List.pairwise_cons.mpr ⟨hAfter, hDrop⟩
    · intro a hA b hB
      rcases List.mem_cons.mp hB with rfl | hB
      · exact hBefore a hA
      · exact hAcross a hA b hB

theorem createProperty_mapValues
    (h : α → β)
    (members : List (Units × α))
    (member : Units × α) :
    createProperty (mapValues h members)
        (Prod.map id h member) =
      mapValues h (createProperty members member) := by
  by_cases hMem : member.1 ∈ namesOf members
  · rw [createProperty_of_mem hMem,
      createProperty_of_mem
        (by rw [namesOf_mapValues]; exact hMem)]
    unfold mapValues
    rw [List.map_map, List.map_map]
    refine List.map_congr_left ?_
    intro m _
    by_cases hName : m.1 = member.1
    · exact (if_pos hName).trans
        (congrArg _ (if_pos hName)).symm
    · exact (if_neg hName).trans
        (congrArg _ (if_neg hName)).symm
  · rw [createProperty_of_not_mem hMem,
      createProperty_of_not_mem
        (by rw [namesOf_mapValues]; exact hMem)]
    unfold mapValues
    rw [List.takeWhile_map, List.dropWhile_map,
      List.map_append, List.map_cons]
    rfl

/- What creating properties in turn preserves. -/
theorem foldl_createProperty
    {P : List (Units × α) → Prop}
    (hStep :
      ∀ members member, P members →
        P (createProperty members member))
    (later : List (Units × α))
    {members : List (Units × α)}
    (hMembers : P members) :
    P (later.foldl createProperty members) := by
  induction later generalizing members with
  | nil => exact hMembers
  | cons member later ih =>
      exact ih (hStep members member hMembers)

theorem nodup_ownOrder
    (members : List (Units × α)) :
    (namesOf (ownOrder members)).Nodup :=
  foldl_createProperty (P := fun ms => (namesOf ms).Nodup)
    (fun _ member hDistinct =>
      nodup_createProperty hDistinct member)
    members List.nodup_nil

theorem ranked_ownOrder
    (members : List (Units × α)) :
    Ranked (namesOf (ownOrder members)) :=
  foldl_createProperty (P := fun ms => Ranked (namesOf ms))
    (fun _ member hRanked =>
      ranked_createProperty hRanked member)
    members List.Pairwise.nil

theorem mem_namesOf_createProperty
    {members : List (Units × α)}
    {member : Units × α}
    {name : Units} :
    name ∈ namesOf (createProperty members member) ↔
      name = member.1 ∨ name ∈ namesOf members := by
  by_cases hMem : member.1 ∈ namesOf members
  · rw [namesOf_createProperty_of_mem hMem]
    constructor
    · exact .inr
    · rintro (rfl | hOld)
      · exact hMem
      · exact hOld
  · have hNames := (createProperty_perm hMem).map Prod.fst
    exact hNames.mem_iff.trans List.mem_cons

theorem mem_namesOf_foldl_createProperty
    {later members : List (Units × α)}
    {name : Units} :
    name ∈ namesOf (later.foldl createProperty members) ↔
      name ∈ namesOf later ∨ name ∈ namesOf members := by
  induction later generalizing members with
  | nil =>
      constructor
      · exact .inr
      · rintro (hNone | hOld)
        · cases hNone
        · exact hOld
  | cons member later ih =>
      rw [List.foldl_cons, ih, mem_namesOf_createProperty,
        namesOf_cons, List.mem_cons, or_left_comm, or_assoc]

/- An object has every name that it was given. -/
theorem mem_namesOf_ownOrder
    {members : List (Units × α)}
    {name : Units} :
    name ∈ namesOf (ownOrder members) ↔
      name ∈ namesOf members := by
  unfold ownOrder
  rw [mem_namesOf_foldl_createProperty]
  exact or_iff_left List.not_mem_nil

theorem mem_foldl_createProperty
    {later members : List (Units × α)}
    {m : Units × α}
    (hMem : m ∈ later.foldl createProperty members) :
    m ∈ later ∨ m ∈ members := by
  induction later generalizing members with
  | nil => exact .inr hMem
  | cons member later ih =>
      rcases ih hMem with hLater | hCreated
      · exact .inl (List.mem_cons_of_mem _ hLater)
      · rcases mem_createProperty hCreated with rfl | hOld
        · exact .inl List.mem_cons_self
        · exact .inr hOld

theorem mem_ownOrder
    {members : List (Units × α)}
    {m : Units × α}
    (hMem : m ∈ ownOrder members) : m ∈ members := by
  rcases mem_foldl_createProperty hMem with hOld | hNone
  · exact hOld
  · cases hNone

theorem foldl_createProperty_perm
    {later members : List (Units × α)}
    (hDistinct : (namesOf (members ++ later)).Nodup) :
    (later.foldl createProperty members).Perm
      (members ++ later) := by
  induction later generalizing members with
  | nil =>
      rw [List.append_nil]
      exact List.Perm.refl _
  | cons member later ih =>
      have hMiddle :
          (members ++ member :: later).Perm
            (member :: members ++ later) :=
        List.perm_middle
      have hNames := (hMiddle.map Prod.fst).nodup_iff.mp hDistinct
      have hFresh : member.1 ∉ namesOf members := by
        intro hMem
        exact (List.nodup_cons.mp hNames).1
          (List.mem_map.mpr (by
            rcases List.mem_map.mp hMem with ⟨m, hOld, hName⟩
            exact ⟨m, List.mem_append_left _ hOld, hName⟩))
      have hCreated :=
        (createProperty_perm hFresh).append_right later
      have hRest :=
        ih ((hCreated.map Prod.fst).nodup_iff.mpr hNames)
      exact hRest.trans (hCreated.trans hMiddle.symm)

theorem ownOrder_perm
    {members : List (Units × α)}
    (hDistinct : (namesOf members).Nodup) :
    (ownOrder members).Perm members :=
  foldl_createProperty_perm
    (show (namesOf ([] ++ members)).Nodup from hDistinct)

theorem foldl_createProperty_of_ranked
    {later members : List (Units × α)}
    (hDistinct : (namesOf (members ++ later)).Nodup)
    (hRanked : Ranked (namesOf (members ++ later))) :
    later.foldl createProperty members = members ++ later := by
  induction later generalizing members with
  | nil => exact (List.append_nil members).symm
  | cons member later ih =>
      have hNames := hDistinct
      have hOrder := hRanked
      rw [namesOf_append, List.nodup_append] at hNames
      unfold Ranked at hOrder
      rw [namesOf_append, List.pairwise_append] at hOrder
      have hFresh : member.1 ∉ namesOf members := by
        intro hMem
        exact hNames.2.2 _ hMem _ List.mem_cons_self rfl
      have hLast :
          ∀ name ∈ namesOf members,
            propertyRank name ≤ propertyRank member.1 := by
        intro name hMem
        exact hOrder.2.2 name hMem _ List.mem_cons_self
      rw [List.foldl_cons, createProperty_last hFresh hLast]
      rw [List.append_cons members member later] at *
      exact ih hDistinct hRanked

/- An object keeps the order it is given only by rank. -/
theorem ownOrder_eq_self_iff
    {members : List (Units × α)}
    (hDistinct : (namesOf members).Nodup) :
    ownOrder members = members ↔
      Ranked (namesOf members) := by
  constructor
  · intro hSelf
    have hRanked := ranked_ownOrder members
    rw [hSelf] at hRanked
    exact hRanked
  · intro hRanked
    exact foldl_createProperty_of_ranked
      (show (namesOf ([] ++ members)).Nodup from hDistinct)
      hRanked

theorem foldl_createProperty_mapValues
    (h : α → β)
    (later members : List (Units × α)) :
    (mapValues h later).foldl createProperty
        (mapValues h members) =
      mapValues h (later.foldl createProperty members) := by
  induction later generalizing members with
  | nil => rfl
  | cons member later ih =>
      rw [List.foldl_cons, ← ih (createProperty members member),
        ← createProperty_mapValues]
      rfl

theorem ownOrder_mapValues
    (h : α → β)
    (members : List (Units × α)) :
    ownOrder (mapValues h members) =
      mapValues h (ownOrder members) :=
  foldl_createProperty_mapValues h members []

------------------------------------------------------------
-- The Objects Of A Value
------------------------------------------------------------

namespace JsonTree

variable {ν : Type}

abbrev Members (ν : Type) := List (Units × JsonTree ν)

theorem mapObjectsItems_eq
    (f : Members ν → Members ν)
    (items : List (JsonTree ν)) :
    mapObjectsItems f items = items.map (mapObjects f) := by
  induction items with
  | nil => rfl
  | cons item items ih =>
      unfold mapObjectsItems
      rw [ih, List.map_cons]

theorem mapObjectsMembers_eq
    (f : Members ν → Members ν)
    (members : Members ν) :
    mapObjectsMembers f members =
      mapValues (mapObjects f) members := by
  induction members with
  | nil => rfl
  | cons member members ih =>
      rcases member with ⟨name, value⟩
      unfold mapObjectsMembers
      rw [ih]
      rfl

theorem mapObjects_array
    (f : Members ν → Members ν)
    (items : List (JsonTree ν)) :
    mapObjects f (.array items) =
      .array (items.map (mapObjects f)) := by
  rw [mapObjects, mapObjectsItems_eq]

theorem mapObjects_object
    (f : Members ν → Members ν)
    (members : Members ν) :
    mapObjects f (.object members) =
      .object (f (mapValues (mapObjects f) members)) := by
  rw [mapObjects, mapObjectsMembers_eq]

mutual

/- The names of every object in the value meet a condition. -/
def everyObject (p : List Units → Bool) : JsonTree ν → Bool
| .array items => everyObjectItems p items
| .object members =>
    p (namesOf members) && everyObjectMembers p members
| _ => true

def everyObjectItems
    (p : List Units → Bool) : List (JsonTree ν) → Bool
| [] => true
| item :: items => everyObject p item && everyObjectItems p items

def everyObjectMembers
    (p : List Units → Bool) : Members ν → Bool
| [] => true
| (_, value) :: members =>
    everyObject p value && everyObjectMembers p members

end

def EveryObject
    (P : List Units → Prop)
    [DecidablePred P]
    (v : JsonTree ν) : Prop :=
  everyObject (fun names => decide (P names)) v = true

section EveryObject

variable {P Q : List Units → Prop}
variable [DecidablePred P] [DecidablePred Q]

instance (v : JsonTree ν) : Decidable (EveryObject P v) :=
  inferInstanceAs (Decidable (_ = true))

theorem everyObject_array
    (items : List (JsonTree ν)) :
    EveryObject P (.array items) ↔
      ∀ item ∈ items, EveryObject P item := by
  unfold EveryObject
  rw [everyObject]
  induction items with
  | nil =>
      exact ⟨fun _ _ hNone => absurd hNone List.not_mem_nil,
        fun _ => rfl⟩
  | cons item items ih =>
      rw [everyObjectItems, Bool.and_eq_true, ih,
        List.forall_mem_cons]

theorem everyObject_object
    (members : Members ν) :
    EveryObject P (.object members) ↔
      P (namesOf members) ∧
        ∀ member ∈ members, EveryObject P member.2 := by
  have hMembers :
      everyObjectMembers (fun names => decide (P names))
          members = true ↔
        ∀ member ∈ members, EveryObject P member.2 := by
    induction members with
    | nil =>
        exact ⟨fun _ _ hNone => absurd hNone List.not_mem_nil,
          fun _ => rfl⟩
    | cons member members ih =>
        rcases member with ⟨name, value⟩
        rw [everyObjectMembers, Bool.and_eq_true, ih,
          List.forall_mem_cons]
        rfl
  unfold EveryObject at *
  rw [everyObject, Bool.and_eq_true, decide_eq_true_eq,
    hMembers]

theorem everyObject_of_forall
    (hAll : ∀ names, P names)
    (v : JsonTree ν) : EveryObject P v := by
  induction v using JsonTree.induct with
  | null => rfl
  | boolean value => rfl
  | number value => rfl
  | text value => rfl
  | array items ih => exact (everyObject_array items).mpr ih
  | object members ih =>
      exact (everyObject_object members).mpr ⟨hAll _, ih⟩

/- What a change of the objects establishes for their names. -/
theorem everyObject_mapObjects
    {f : Members ν → Members ν}
    (hNames :
      ∀ members, P (namesOf members) →
        Q (namesOf (f members)))
    (hMembers : ∀ members, ∀ m ∈ f members, m ∈ members)
    {v : JsonTree ν}
    (hEvery : EveryObject P v) :
    EveryObject Q (mapObjects f v) := by
  induction v using JsonTree.induct with
  | null => rfl
  | boolean value => rfl
  | number value => rfl
  | text value => rfl
  | array items ih =>
      rw [everyObject_array] at hEvery
      rw [mapObjects_array, everyObject_array]
      intro item hItem
      rcases List.mem_map.mp hItem with ⟨old, hOld, rfl⟩
      exact ih old hOld (hEvery old hOld)
  | object members ih =>
      rw [everyObject_object] at hEvery
      rw [mapObjects_object, everyObject_object]
      refine ⟨hNames _ ?_, ?_⟩
      · rw [namesOf_mapValues]
        exact hEvery.1
      · intro member hMember
        have hMapped := hMembers _ member hMember
        rcases List.mem_map.mp hMapped with ⟨old, hOld, rfl⟩
        exact ih old hOld (hEvery.2 old hOld)

/- Changes that agree on the objects of a value. -/
theorem mapObjects_congr
    {f g : Members ν → Members ν}
    (hAgree :
      ∀ members, P (namesOf members) → f members = g members)
    {v : JsonTree ν}
    (hEvery : EveryObject P v) :
    mapObjects f v = mapObjects g v := by
  induction v using JsonTree.induct with
  | null => rfl
  | boolean value => rfl
  | number value => rfl
  | text value => rfl
  | array items ih =>
      rw [everyObject_array] at hEvery
      rw [mapObjects_array, mapObjects_array]
      refine congrArg array (List.map_congr_left ?_)
      intro item hItem
      exact ih item hItem (hEvery item hItem)
  | object members ih =>
      rw [everyObject_object] at hEvery
      rw [mapObjects_object, mapObjects_object]
      have hValues :
          mapValues (mapObjects f) members =
            mapValues (mapObjects g) members := by
        refine List.map_congr_left ?_
        intro member hMember
        exact Prod.ext rfl
          (ih member hMember (hEvery.2 member hMember))
      rw [hValues, hAgree]
      rw [namesOf_mapValues]
      exact hEvery.1

end EveryObject

/- A change of members that does not look at their values. -/
def Natural (f : Members ν → Members ν) : Prop :=
  ∀ (h : JsonTree ν → JsonTree ν) members,
    f (mapValues h members) = mapValues h (f members)

/- Changes one after the other are one change. -/
theorem mapObjects_mapObjects
    (f : Members ν → Members ν)
    {g : Members ν → Members ν}
    (hNatural : Natural g)
    (v : JsonTree ν) :
    mapObjects f (mapObjects g v) = mapObjects (f ∘ g) v := by
  induction v using JsonTree.induct with
  | null => rfl
  | boolean value => rfl
  | number value => rfl
  | text value => rfl
  | array items ih =>
      rw [mapObjects_array, mapObjects_array, mapObjects_array,
        List.map_map]
      exact congrArg array (List.map_congr_left ih)
  | object members ih =>
      rw [mapObjects_object, mapObjects_object,
        mapObjects_object, ← hNatural, Function.comp_apply]
      have hValues :
          mapValues (mapObjects f)
              (mapValues (mapObjects g) members) =
            mapValues (mapObjects (f ∘ g)) members := by
        unfold mapValues
        rw [List.map_map]
        refine List.map_congr_left ?_
        intro member hMember
        exact Prod.ext rfl (ih member hMember)
      rw [hValues]

------------------------------------------------------------
-- Values Up To The Order Of Members
------------------------------------------------------------

/- No object has two members of one name. -/
def Distinct (v : JsonTree ν) : Prop :=
  EveryObject List.Nodup v

instance (v : JsonTree ν) : Decidable v.Distinct :=
  inferInstanceAs (Decidable (EveryObject List.Nodup v))

/- Every object has its members by name. -/
def sorted (v : JsonTree ν) : JsonTree ν :=
  mapObjects sortMembers v

/- The values differ at most in the order of members. -/
def Same (v w : JsonTree ν) : Prop :=
  v.sorted = w.sorted

theorem natural_sortMembers :
    Natural (ν := ν) sortMembers :=
  fun h members => sortMembers_mapValues h members

theorem natural_ownOrder :
    Natural (ν := ν) ownOrder :=
  fun h members => ownOrder_mapValues h members

/- Reordering the members of objects gives the same value. -/
theorem same_mapObjects
    {f : Members ν → Members ν}
    (hNatural : Natural f)
    (hPerm :
      ∀ members, (namesOf members).Nodup →
        (f members).Perm members)
    {v : JsonTree ν}
    (hDistinct : v.Distinct) :
    Same (mapObjects f v) v := by
  unfold Same sorted
  rw [mapObjects_mapObjects _ hNatural]
  refine mapObjects_congr (P := List.Nodup) ?_ hDistinct
  intro members hNames
  have hMembers := hPerm members hNames
  exact sortMembers_eq_of_perm
    ((hMembers.map Prod.fst).nodup_iff.mpr hNames) hMembers

end JsonTree

------------------------------------------------------------
-- Parsing
------------------------------------------------------------

namespace Numerals

variable {ν : Type}

/- The value of a text, as the objects it makes list it. -/
def parse
    (N : Numerals ν)
    (text : Units) : Option (JsonTree ν) :=
  (N.readText text).map (JsonTree.mapObjects ownOrder)

theorem distinct_parse
    {N : Numerals ν}
    {text : Units}
    {v : JsonTree ν}
    (hParse : N.parse text = some v) : v.Distinct := by
  rcases Option.map_eq_some_iff.mp hParse with ⟨read, _, rfl⟩
  refine JsonTree.everyObject_mapObjects
    (P := fun _ => True) ?_ ?_ ?_
  · intro members _
    exact nodup_ownOrder members
  · intro members m hMem
    exact mem_ownOrder hMem
  · exact JsonTree.everyObject_of_forall
      (fun _ => trivial) read

/- A value is parsed from its own text. -/
theorem parse_stringify
    (N : Numerals ν)
    {v : JsonTree ν}
    (hDistinct : v.Distinct) :
    ∃ p, N.parse (N.stringify v) = some p ∧
      JsonTree.Same p v := by
  refine ⟨JsonTree.mapObjects ownOrder v, ?_, ?_⟩
  · unfold parse
    rw [N.readText_stringify]
    rfl
  · exact JsonTree.same_mapObjects
      JsonTree.natural_ownOrder
      (fun _ hNames => ownOrder_perm hNames) hDistinct

end Numerals

end ControlPlane
