import ControlPlane.Data.JsonConvert
import ControlPlane.Data.Utf8

/-
  The canonical text of a value, which is what is signed.

  The members of an object are assigned to a new object in
  the order of their names. The new object lists them by its
  own rule, and an assignment to `__proto__` sets its
  prototype instead of a member.

  Main declarations:
    * `canonicalize` and `canonicalStringify`
    * `canonicalStringify_eq_reference_iff`
    * `canonicalize_idempotent`
    * `serializeClientRequest` and `serializeBackendResponse`
-/

------------------------------------------------------------
-- Canonicalization
------------------------------------------------------------

namespace ControlPlane

namespace CanonicalSerializer

open JsonTree

variable {α ν : Type}

def protoName : Units := ascii "__proto__"

/- `result[key] = value` for a plain object. -/
def assign
    (result : List (Units × α))
    (member : Units × α) : List (Units × α) :=
  if member.1 = protoName then result
  else createProperty result member

def canonicalizeMembers
    (members : List (Units × α)) : List (Units × α) :=
  (sortMembers members).foldl assign []

def canonicalize (value : JsonTree ν) : JsonTree ν :=
  mapObjects canonicalizeMembers value

def canonicalStringify
    (N : Numerals ν)
    (value : JsonTree ν) : Units :=
  N.stringify (canonicalize value)

/- The reference: every object has its members by name. -/
def reference
    (N : Numerals ν)
    (value : JsonTree ν) : Units :=
  N.stringify value.sorted

/-
  Names that an object lists in their own order: array
  indices stand before all others and in numeric order, and
  none of them is assigned to the prototype.
-/
def KeepsOrder (names : List Units) : Prop :=
  protoName ∉ names ∧
    ∀ a ∈ names, ∀ b ∈ names,
      a ≤ b → propertyRank a ≤ propertyRank b

instance (names : List Units) : Decidable (KeepsOrder names) :=
  inferInstanceAs (Decidable (_ ∧ _))

------------------------------------------------------------
-- What An Object Keeps
------------------------------------------------------------

/- The members that are not assigned to the prototype. -/
def ownMembers
    (members : List (Units × α)) : List (Units × α) :=
  members.filter (fun m => decide (m.1 ≠ protoName))

theorem foldl_assign
    (later members : List (Units × α)) :
    later.foldl assign members =
      (ownMembers later).foldl createProperty members := by
  induction later generalizing members with
  | nil => rfl
  | cons member later ih =>
      unfold ownMembers at ih ⊢
      by_cases hProto : member.1 = protoName
      · rw [List.filter_cons_of_neg
          (by rw [decide_eq_true_eq]; exact not_not.mpr hProto),
          List.foldl_cons, assign, if_pos hProto, ih]
      · rw [List.filter_cons_of_pos
          (by rw [decide_eq_true_eq]; exact hProto),
          List.foldl_cons, List.foldl_cons, assign,
          if_neg hProto, ih]

theorem canonicalizeMembers_eq
    (members : List (Units × α)) :
    canonicalizeMembers members =
      ownOrder (ownMembers (sortMembers members)) :=
  foldl_assign (sortMembers members) []

theorem ownMembers_sublist
    (members : List (Units × α)) :
    (ownMembers members).Sublist members :=
  List.filter_sublist

theorem nodup_ownMembers
    {members : List (Units × α)}
    (hDistinct : (namesOf members).Nodup) :
    (namesOf (ownMembers (sortMembers members))).Nodup := by
  have hSorted : (namesOf (sortMembers members)).Nodup :=
    (namesOf_sortMembers_perm members).nodup_iff.mpr hDistinct
  exact hSorted.sublist ((ownMembers_sublist _).map Prod.fst)

theorem ownMembers_eq_self_iff
    (members : List (Units × α)) :
    ownMembers members = members ↔
      protoName ∉ namesOf members := by
  unfold ownMembers
  rw [List.filter_eq_self]
  constructor
  · intro hAll hProto
    rcases List.mem_map.mp hProto with ⟨m, hMem, hName⟩
    exact of_decide_eq_true (hAll m hMem) hName
  · intro hProto m hMem
    refine decide_eq_true ?_
    intro hName
    exact hProto (hName ▸ mem_namesOf hMem)

theorem mem_canonicalizeMembers
    {members : List (Units × α)}
    {m : Units × α}
    (hMem : m ∈ canonicalizeMembers members) :
    m ∈ members := by
  rw [canonicalizeMembers_eq] at hMem
  exact (sortMembers_perm members).subset
    ((ownMembers_sublist _).subset (mem_ownOrder hMem))

theorem canonicalizeMembers_mapValues
    {β : Type}
    (h : α → β)
    (members : List (Units × α)) :
    canonicalizeMembers (mapValues h members) =
      mapValues h (canonicalizeMembers members) := by
  have hOwn :
      ownMembers (mapValues h (sortMembers members)) =
        mapValues h (ownMembers (sortMembers members)) := by
    unfold ownMembers mapValues
    rw [List.filter_map]
    rfl
  rw [canonicalizeMembers_eq, canonicalizeMembers_eq,
    sortMembers_mapValues, hOwn, ownOrder_mapValues]

theorem natural_canonicalizeMembers :
    Natural (ν := ν) canonicalizeMembers :=
  fun h members => canonicalizeMembers_mapValues h members

/- In a sorted list the ranks follow the names. -/
theorem ranked_sortMembers_iff
    (members : List (Units × α)) :
    Ranked (namesOf (sortMembers members)) ↔
      ∀ a ∈ namesOf members, ∀ b ∈ namesOf members,
        a ≤ b → propertyRank a ≤ propertyRank b := by
  have hPerm := namesOf_sortMembers_perm members
  have hSorted :
      (namesOf (sortMembers members)).Pairwise
        (fun a b => a ≤ b) :=
    List.pairwise_map.mpr (sortMembers_pairwise members)
  constructor
  · intro hRanked a hA b hB
    have hForward :
        (namesOf (sortMembers members)).Pairwise
          (fun a b =>
            a ≤ b → propertyRank a ≤ propertyRank b) := by
      refine hRanked.imp ?_
      intro x y hRank _
      exact hRank
    have hBackward :
        (namesOf (sortMembers members)).Pairwise
          (flip (fun a b =>
            a ≤ b → propertyRank a ≤ propertyRank b)) := by
      refine hSorted.imp ?_
      intro x y hLe hGe
      rw [le_antisymm hLe hGe]
    exact hForward.forall_of_forall_of_flip
      (fun _ _ _ => le_rfl) hBackward
      (hPerm.symm.subset hA) (hPerm.symm.subset hB)
  · intro hOrder
    refine hSorted.imp_of_mem ?_
    intro a b hA hB hLe
    exact hOrder a (hPerm.subset hA) b (hPerm.subset hB) hLe

/- The sorted order survives for these names only. -/
theorem canonicalizeMembers_eq_sortMembers_iff
    {members : List (Units × α)}
    (hDistinct : (namesOf members).Nodup) :
    canonicalizeMembers members = sortMembers members ↔
      KeepsOrder (namesOf members) := by
  have hSorted : (namesOf (sortMembers members)).Nodup :=
    (namesOf_sortMembers_perm members).nodup_iff.mpr hDistinct
  have hProto :
      protoName ∈ namesOf (sortMembers members) ↔
        protoName ∈ namesOf members :=
    (namesOf_sortMembers_perm members).mem_iff
  unfold KeepsOrder
  rw [canonicalizeMembers_eq, ← ranked_sortMembers_iff,
    ← hProto]
  constructor
  · intro hSame
    have hOwn :
        ownMembers (sortMembers members) =
          sortMembers members := by
      refine (ownMembers_sublist _).eq_of_length ?_
      rw [← (ownOrder_perm
        (nodup_ownMembers hDistinct)).length_eq, hSame]
    rw [hOwn] at hSame
    exact ⟨(ownMembers_eq_self_iff _).mp hOwn,
      (ownOrder_eq_self_iff hSorted).mp hSame⟩
  · rintro ⟨hNone, hRanked⟩
    rw [(ownMembers_eq_self_iff _).mpr hNone]
    exact (ownOrder_eq_self_iff hSorted).mpr hRanked

theorem canonicalizeMembers_idempotent
    {members : List (Units × α)}
    (hDistinct : (namesOf members).Nodup) :
    canonicalizeMembers (canonicalizeMembers members) =
      canonicalizeMembers members := by
  have hOwn := nodup_ownMembers hDistinct
  have hSorted :
      sortMembers (ownMembers (sortMembers members)) =
        ownMembers (sortMembers members) :=
    List.Pairwise.insertionSort_eq
      ((sortMembers_pairwise members).sublist
        (ownMembers_sublist _))
  have hTwice :
      ownMembers (ownMembers (sortMembers members)) =
        ownMembers (sortMembers members) :=
    List.filter_filter.trans
      (congrArg (fun p => List.filter p (sortMembers members))
        (funext (fun m => Bool.and_self _)))
  have hPerm := ownOrder_perm hOwn
  have hNames :=
    (hPerm.map Prod.fst).nodup_iff.mpr hOwn
  rw [canonicalizeMembers_eq, canonicalizeMembers_eq,
    sortMembers_eq_of_perm hNames hPerm, hSorted, hTwice]

------------------------------------------------------------
-- Canonical Values
------------------------------------------------------------

/- Only the sorted value counts. -/
theorem canonicalize_sorted
    {value : JsonTree ν}
    (hDistinct : value.Distinct) :
    canonicalize value.sorted = canonicalize value := by
  unfold canonicalize sorted
  rw [mapObjects_mapObjects _ natural_sortMembers]
  refine mapObjects_congr (P := List.Nodup) ?_ hDistinct
  intro members hNames
  have hPerm := sortMembers_perm members
  change (sortMembers (sortMembers members)).foldl assign [] =
    (sortMembers members).foldl assign []
  rw [sortMembers_eq_of_perm
    ((hPerm.map Prod.fst).nodup_iff.mpr hNames) hPerm]

theorem canonicalize_same
    {v w : JsonTree ν}
    (hV : v.Distinct)
    (hW : w.Distinct)
    (hSame : v.Same w) : canonicalize v = canonicalize w := by
  have hSorted : v.sorted = w.sorted := hSame
  rw [← canonicalize_sorted hV, hSorted, canonicalize_sorted hW]

theorem canonicalize_idempotent
    {value : JsonTree ν}
    (hDistinct : value.Distinct) :
    canonicalize (canonicalize value) = canonicalize value := by
  unfold canonicalize
  rw [mapObjects_mapObjects _ natural_canonicalizeMembers]
  refine mapObjects_congr (P := List.Nodup) ?_ hDistinct
  intro members hNames
  exact canonicalizeMembers_idempotent hNames

theorem mapValues_inj
    {f g : JsonTree ν → JsonTree ν}
    {first second : Members ν}
    (hDistinct : (namesOf second).Nodup)
    (hMembers : ∀ m ∈ first, m ∈ second)
    (hSame : mapValues f first = mapValues g second) :
    first = second ∧ ∀ m ∈ second, f m.2 = g m.2 := by
  have hNames : namesOf first = namesOf second := by
    rw [← namesOf_mapValues f first, hSame, namesOf_mapValues]
  have hLists : first = second := by
    refine List.ext_getElem ?_ ?_
    · have hLength := congrArg List.length hNames
      unfold namesOf at hLength
      rw [List.length_map, List.length_map] at hLength
      exact hLength
    · intro i hFirst hSecond
      refine member_ext hDistinct
        (hMembers _ (List.getElem_mem hFirst))
        (List.getElem_mem hSecond) ?_
      have hName :=
        congrArg (fun names => names[i]?) hNames
      unfold namesOf at hName
      rw [List.getElem?_map, List.getElem?_map,
        List.getElem?_eq_getElem hFirst,
        List.getElem?_eq_getElem hSecond] at hName
      exact Option.some.inj hName
  refine ⟨hLists, ?_⟩
  subst hLists
  intro m hMem
  exact congrArg Prod.snd (List.map_inj_left.mp hSame m hMem)

theorem canonicalize_eq_sorted_iff
    {value : JsonTree ν}
    (hDistinct : value.Distinct) :
    canonicalize value = value.sorted ↔
      value.EveryObject KeepsOrder := by
  unfold canonicalize sorted
  induction value using JsonTree.induct with
  | null => exact ⟨fun _ => rfl, fun _ => rfl⟩
  | boolean value => exact ⟨fun _ => rfl, fun _ => rfl⟩
  | number value => exact ⟨fun _ => rfl, fun _ => rfl⟩
  | text value => exact ⟨fun _ => rfl, fun _ => rfl⟩
  | array items ih =>
      unfold Distinct at hDistinct
      rw [everyObject_array] at hDistinct
      rw [mapObjects_array, mapObjects_array,
        everyObject_array, JsonTree.array.injEq,
        List.map_inj_left]
      constructor
      · intro hSame item hItem
        exact (ih item hItem (hDistinct item hItem)).mp
          (hSame item hItem)
      · intro hEvery item hItem
        exact (ih item hItem (hDistinct item hItem)).mpr
          (hEvery item hItem)
  | object members ih =>
      unfold Distinct at hDistinct
      rw [everyObject_object] at hDistinct
      rcases hDistinct with ⟨hNames, hValues⟩
      rw [mapObjects_object, mapObjects_object,
        everyObject_object, JsonTree.object.injEq,
        canonicalizeMembers_mapValues, sortMembers_mapValues]
      have hPerm := sortMembers_perm members
      constructor
      · intro hSame
        rcases mapValues_inj
            ((hPerm.map Prod.fst).nodup_iff.mpr hNames)
            (fun m hMem =>
              hPerm.symm.subset (mem_canonicalizeMembers hMem))
            hSame with ⟨hOrder, hEach⟩
        refine ⟨(canonicalizeMembers_eq_sortMembers_iff
          hNames).mp hOrder, ?_⟩
        intro m hMem
        exact (ih m hMem (hValues m hMem)).mp
          (hEach m (hPerm.symm.subset hMem))
      · rintro ⟨hOrder, hEvery⟩
        rw [(canonicalizeMembers_eq_sortMembers_iff
          hNames).mpr hOrder]
        refine List.map_congr_left ?_
        intro m hMem
        have hMember := hPerm.subset hMem
        exact Prod.ext rfl
          ((ih m hMember (hValues m hMember)).mpr
            (hEvery m hMember))

------------------------------------------------------------
-- The Reference Serialization
------------------------------------------------------------

/-
  The canonical text is the reference exactly when every
  object keeps the order of its names. Among such values it
  differs for all that are not the same.
-/
theorem canonicalStringify_eq_reference_iff
    (N : Numerals ν)
    {value : JsonTree ν}
    (hDistinct : value.Distinct) :
    (canonicalStringify N value = reference N value ↔
      value.EveryObject KeepsOrder) ∧
    (value.EveryObject KeepsOrder →
      ∀ other : JsonTree ν,
        other.Distinct → other.EveryObject KeepsOrder →
          (canonicalStringify N value =
              canonicalStringify N other ↔
            value.Same other)) := by
  unfold canonicalStringify reference
  refine ⟨?_, ?_⟩
  · rw [N.stringify_injective.eq_iff]
    exact canonicalize_eq_sorted_iff hDistinct
  · intro hValue other hOther hEvery
    rw [N.stringify_injective.eq_iff,
      (canonicalize_eq_sorted_iff hDistinct).mpr hValue,
      (canonicalize_eq_sorted_iff hOther).mpr hEvery]
    rfl

/- One member whose value has two more. -/
def nestedValue : JsonTree (Fin 10) :=
  .object
    [(ascii "z", .number 1),
      (ascii "a", .object
        [(ascii "b", .boolean true), (ascii "1", .null)])]

theorem nested_value_is_canonical :
    canonicalStringify Numbers.digits.toNumerals nestedValue =
      reference Numbers.digits.toNumerals nestedValue := by
  have hDistinct : nestedValue.Distinct := by decide
  exact (canonicalStringify_eq_reference_iff
    Numbers.digits.toNumerals hDistinct).1.mpr (by decide)

/-
  The name 9 stays before the name 10, and a member named
  `__proto__` is lost, so the value has the text of another.
-/
theorem canonical_text_is_not_sorted :
    canonicalStringify Numbers.digits.toNumerals
        (.object
          [(ascii "9", .number 1), (ascii "10", .number 2)]) =
      ascii "\x7b\"9\":1,\"10\":2\x7d" ∧
    reference Numbers.digits.toNumerals
        (.object
          [(ascii "9", .number 1), (ascii "10", .number 2)]) =
      ascii "\x7b\"10\":2,\"9\":1\x7d" ∧
    canonicalStringify Numbers.digits.toNumerals
        (.object [(ascii "__proto__", .number 1)]) =
      canonicalStringify Numbers.digits.toNumerals
        (.object []) ∧
    ¬ (∀ value : JsonTree (Fin 10), value.Distinct →
        canonicalStringify Numbers.digits.toNumerals value =
          reference Numbers.digits.toNumerals value) := by
  refine ⟨by decide +kernel, by decide +kernel,
    by decide +kernel, ?_⟩
  intro hAll
  have hSame :=
    hAll (.object
      [(ascii "9", .number 1), (ascii "10", .number 2)])
      (by decide)
  revert hSame
  decide +kernel

------------------------------------------------------------
-- Signed Bytes
------------------------------------------------------------

/- `Number(value ?? 1)`, or nothing when it throws. -/
def numberOrOne
    (N : Numbers ν)
    (value : Option (JsonTree ν)) : Option (JsonTree ν) :=
  (N.toNumber (orDefault value (.number N.one))).map
    Numbers.written

/- The part of a client request that is signed. -/
def clientRequestToSign
    (N : Numbers ν)
    (envelope : JsonTree ν) : Option (JsonTree ν) := do
  let clientGeneration ←
    numberOrOne N (envelope.field? (ascii "clientGeneration"))
  let clientServerEpoch ←
    numberOrOne N (envelope.field? (ascii "clientServerEpoch"))
  some (.object (JsonTree.present
    [(ascii "version",
        some (orDefault (envelope.field? (ascii "version"))
          (.number N.two))),
      (ascii "sessionId",
        some (N.orElse (envelope.field? (ascii "sessionId"))
          (.text []))),
      (ascii "machineId", envelope.field? (ascii "machineId")),
      (ascii "nonce", envelope.field? (ascii "nonce")),
      (ascii "timestamp", envelope.field? (ascii "timestamp")),
      (ascii "clientGeneration", some clientGeneration),
      (ascii "clientServerEpoch", some clientServerEpoch),
      (ascii "payload", envelope.field? (ascii "payload"))]))

def serializeClientRequest
    (N : Numbers ν)
    (envelope : JsonTree ν) : Option ByteArray :=
  (clientRequestToSign N envelope).map (fun toSign =>
    utf8 (canonicalStringify N.toNumerals toSign))

/- A nonce is signed as a text, and only if there is one. -/
def signedNonce
    (N : Numbers ν)
    (envelope : JsonTree ν) :
    Option (Option (JsonTree ν)) :=
  match envelope.field? (ascii "nonce") with
  | none => some none
  | some nonce =>
      if N.truthy nonce then
        (N.toText nonce).map (fun text => some (.text text))
      else some none

/- The part of a response that the backend has signed. -/
def backendResponseToVerify
    (N : Numbers ν)
    (envelope : JsonTree ν) : Option (JsonTree ν) := do
  let serverEpoch ←
    numberOrOne N
      (coalesce (envelope.field? (ascii "server_epoch"))
        (envelope.field? (ascii "epoch")))
  let generation ←
    numberOrOne N (envelope.field? (ascii "generation"))
  let nonce ← signedNonce N envelope
  some (.object (JsonTree.present
    [(ascii "version",
        some (orDefault
          (coalesce (envelope.field? (ascii "version"))
            (envelope.field? (ascii "v")))
          (.number N.two))),
      (ascii "timestamp", envelope.field? (ascii "timestamp")),
      (ascii "server_epoch", some serverEpoch),
      (ascii "payload", envelope.field? (ascii "payload")),
      (ascii "generation", some generation),
      (ascii "nonce", nonce)]))

def serializeBackendResponse
    (N : Numbers ν)
    (envelope : JsonTree ν) : Option ByteArray :=
  (backendResponseToVerify N envelope).map (fun toVerify =>
    utf8 (canonicalStringify N.toNumerals toVerify))

------------------------------------------------------------
-- What The Signed Part Depends On
------------------------------------------------------------

theorem canonicalize_array
    (items : List (JsonTree ν)) :
    canonicalize (.array items) =
      .array (items.map canonicalize) :=
  mapObjects_array canonicalizeMembers items

theorem canonicalize_object
    (members : Members ν) :
    canonicalize (.object members) =
      .object
        (canonicalizeMembers (mapValues canonicalize members)) :=
  mapObjects_object canonicalizeMembers members

theorem mem_namesOf_canonicalizeMembers
    {members : List (Units × α)}
    {name : Units} :
    name ∈ namesOf (canonicalizeMembers members) ↔
      name ≠ protoName ∧ name ∈ namesOf members := by
  rw [canonicalizeMembers_eq, mem_namesOf_ownOrder,
    ← (namesOf_sortMembers_perm members).mem_iff]
  unfold ownMembers namesOf
  rw [List.mem_map, List.mem_map]
  constructor
  · rintro ⟨m, hMem, rfl⟩
    rcases List.mem_filter.mp hMem with ⟨hOld, hName⟩
    exact ⟨of_decide_eq_true hName, m, hOld, rfl⟩
  · rintro ⟨hName, m, hOld, rfl⟩
    exact ⟨m, List.mem_filter.mpr
      ⟨hOld, decide_eq_true hName⟩, rfl⟩

theorem isNull_canonicalize
    (value : JsonTree ν) :
    (canonicalize value).isNull = value.isNull := by
  cases value with
  | array items => rw [canonicalize_array]; rfl
  | object members => rw [canonicalize_object]; rfl
  | null => rfl
  | boolean value => rfl
  | number value => rfl
  | text value => rfl

theorem truthy_canonicalize
    (N : Numbers ν)
    (value : JsonTree ν) :
    N.truthy (canonicalize value) = N.truthy value := by
  cases value with
  | array items => rw [canonicalize_array]; rfl
  | object members => rw [canonicalize_object]; rfl
  | null => rfl
  | boolean value => rfl
  | number value => rfl
  | text value => rfl

theorem toText_canonicalize
    (N : Numbers ν)
    (value : JsonTree ν) :
    N.toText (canonicalize value) = N.toText value := by
  induction value using JsonTree.induct with
  | null => rfl
  | boolean value => rfl
  | number value => rfl
  | text value => rfl
  | array items ih =>
      rw [canonicalize_array]
      unfold Numbers.toText
      refine congrArg (Option.map separated) ?_
      induction items with
      | nil => rfl
      | cons item items ihItems =>
          rw [List.forall_mem_cons] at ih
          rw [List.map_cons, Numbers.itemTexts,
            Numbers.itemTexts, isNull_canonicalize, ih.1,
            ihItems ih.2]
  | object members ih =>
      have hNames :
          ascii "toString" ∈
              namesOf (canonicalizeMembers
                (mapValues canonicalize members)) ↔
            ascii "toString" ∈ namesOf members := by
        rw [mem_namesOf_canonicalizeMembers, namesOf_mapValues]
        exact and_iff_right (by decide)
      rw [canonicalize_object]
      unfold Numbers.toText
      by_cases hMethod : ascii "toString" ∈ namesOf members
      · rw [if_pos hMethod, if_pos (hNames.mpr hMethod)]
      · rw [if_neg hMethod, if_neg (hNames.not.mpr hMethod)]

theorem toNumber_canonicalize
    (N : Numbers ν)
    (value : JsonTree ν) :
    N.toNumber (canonicalize value) = N.toNumber value := by
  have hText := toText_canonicalize N value
  cases value with
  | array items =>
      rw [canonicalize_array] at hText ⊢
      exact congrArg (Option.map N.ofText) hText
  | object members =>
      rw [canonicalize_object] at hText ⊢
      exact congrArg (Option.map N.ofText) hText
  | null => rfl
  | boolean value => rfl
  | number value => rfl
  | text value => rfl

/- Members that have the same canonical value, if any. -/
def Alike (x y : Option (JsonTree ν)) : Prop :=
  x.map canonicalize = y.map canonicalize

namespace Alike

variable {x y : Option (JsonTree ν)}

theorem refl (x : Option (JsonTree ν)) : Alike x x := rfl

theorem of_canonicalize
    {v w : JsonTree ν}
    (hSame : canonicalize v = canonicalize w) :
    Alike (some v) (some w) :=
  congrArg some hSame

theorem orDefault
    (hAlike : Alike x y)
    (default : JsonTree ν) :
    canonicalize (JsonTree.orDefault x default) =
      canonicalize (JsonTree.orDefault y default) := by
  have hMap :
      ∀ z : Option (JsonTree ν),
        canonicalize (JsonTree.orDefault z default) =
          JsonTree.orDefault (z.map canonicalize)
            (canonicalize default) := by
    intro z
    cases z with
    | none => rfl
    | some value =>
        change canonicalize (if _ then _ else _) =
          if (canonicalize value).isNull then _ else _
        rw [isNull_canonicalize, apply_ite canonicalize]
  rw [hMap x, hMap y, show x.map canonicalize = _ from hAlike]

theorem orElse
    (N : Numbers ν)
    (hAlike : Alike x y)
    (default : JsonTree ν) :
    canonicalize (N.orElse x default) =
      canonicalize (N.orElse y default) := by
  have hMap :
      ∀ z : Option (JsonTree ν),
        canonicalize (N.orElse z default) =
          N.orElse (z.map canonicalize)
            (canonicalize default) := by
    intro z
    cases z with
    | none => rfl
    | some value =>
        change canonicalize (if _ then _ else _) =
          if N.truthy (canonicalize value) then _ else _
        rw [truthy_canonicalize, apply_ite canonicalize]
  rw [hMap x, hMap y, show x.map canonicalize = _ from hAlike]

theorem numberOrOne
    (N : Numbers ν)
    (hAlike : Alike x y) :
    CanonicalSerializer.numberOrOne N x =
      CanonicalSerializer.numberOrOne N y := by
  have hDefault := hAlike.orDefault (.number N.one)
  unfold CanonicalSerializer.numberOrOne
  rw [← toNumber_canonicalize, hDefault,
    toNumber_canonicalize]

end Alike

/- Literals whose members are alike have one canonical value. -/
theorem canonicalize_literal
    {first second : List (Units × Option (JsonTree ν))}
    (hAlike :
      List.Forall₂ (fun a b => a.1 = b.1 ∧ Alike a.2 b.2)
        first second) :
    canonicalize (.object (JsonTree.present first)) =
      canonicalize (.object (JsonTree.present second)) := by
  have hMembers :
      mapValues canonicalize (JsonTree.present first) =
        mapValues canonicalize (JsonTree.present second) := by
    induction hAlike with
    | nil => rfl
    | @cons a b first second hHead _ ih =>
        rcases a with ⟨name, x⟩
        rcases b with ⟨other, y⟩
        rcases hHead with ⟨hName, hValue⟩
        dsimp only at hName hValue
        subst hName
        unfold Alike at hValue
        cases x with
        | none =>
            cases y with
            | none => exact ih
            | some w => cases hValue
        | some v =>
            cases y with
            | none => cases hValue
            | some w =>
                rw [Option.map_some, Option.map_some,
                  Option.some.injEq] at hValue
                change (name, canonicalize v) :: _ =
                  (name, canonicalize w) :: _
                rw [hValue]
                exact congrArg _ ih
  rw [canonicalize_object, canonicalize_object, hMembers]

/- A signed request depends on canonical members only. -/
theorem clientRequestToSign_congr
    (N : Numbers ν)
    {v w : JsonTree ν}
    (hAlike :
      ∀ name, name ≠ ascii "signature" →
        Alike (v.field? name) (w.field? name)) :
    (clientRequestToSign N v).map canonicalize =
      (clientRequestToSign N w).map canonicalize := by
  have hGeneration :=
    (hAlike (ascii "clientGeneration") (by decide)).numberOrOne N
  have hEpoch :=
    (hAlike (ascii "clientServerEpoch") (by decide)).numberOrOne N
  unfold clientRequestToSign
  rw [hGeneration, hEpoch]
  cases numberOrOne N (w.field? (ascii "clientGeneration")) with
  | none => rfl
  | some clientGeneration =>
      cases numberOrOne N
          (w.field? (ascii "clientServerEpoch")) with
      | none => rfl
      | some clientServerEpoch =>
          refine congrArg some (canonicalize_literal ?_)
          refine .cons ⟨rfl, .of_canonicalize ?_⟩ (.cons
            ⟨rfl, .of_canonicalize ?_⟩ (.cons
              ⟨rfl, hAlike _ (by decide)⟩ (.cons
                ⟨rfl, hAlike _ (by decide)⟩ (.cons
                  ⟨rfl, hAlike _ (by decide)⟩ (.cons
                    ⟨rfl, .refl _⟩ (.cons ⟨rfl, .refl _⟩ (.cons
                      ⟨rfl, hAlike _ (by decide)⟩ .nil)))))))
          · exact (hAlike _ (by decide)).orDefault _
          · exact (hAlike _ (by decide)).orElse N _

------------------------------------------------------------
-- What The Signed Part Holds
------------------------------------------------------------

theorem member?_ownMembers
    (members : Members ν)
    {name : Units}
    (hOwn : name ≠ protoName) :
    member? (ownMembers members) name =
      member? members name := by
  unfold member? ownMembers
  induction members with
  | nil => rfl
  | cons member members ih =>
      by_cases hProto : member.1 = protoName
      · have hName : name ≠ member.1 := hProto ▸ hOwn
        rw [List.filter_cons_of_neg
          (by rw [decide_eq_true_eq]; exact not_not.mpr hProto),
          ih, List.lookup_cons, beq_eq_false_iff_ne.mpr hName]
      · rw [List.filter_cons_of_pos
          (by rw [decide_eq_true_eq]; exact hProto),
          List.lookup_cons, List.lookup_cons, ih]

/- Canonical members are the members, but for their order. -/
theorem member?_canonicalizeMembers
    {members : Members ν}
    (hDistinct : (namesOf members).Nodup)
    {name : Units}
    (hOwn : name ≠ protoName) :
    member? (canonicalizeMembers members) name =
      member? members name := by
  have hSorted : (namesOf (sortMembers members)).Nodup :=
    (namesOf_sortMembers_perm members).nodup_iff.mpr hDistinct
  have hNames := nodup_ownMembers hDistinct
  have hPerm := ownOrder_perm hNames
  rw [canonicalizeMembers_eq, member?_perm
      ((hPerm.map Prod.fst).nodup_iff.mpr hNames) hPerm,
    member?_ownMembers _ hOwn,
    member?_perm hSorted (sortMembers_perm members)]

theorem field?_canonicalize
    {members : Members ν}
    (hDistinct : (namesOf members).Nodup)
    {name : Units}
    (hOwn : name ≠ protoName) :
    (canonicalize (.object members)).field? name =
      (member? members name).map canonicalize := by
  rw [canonicalize_object]
  change member? (canonicalizeMembers _) name = _
  rw [member?_canonicalizeMembers
      (by rw [namesOf_mapValues]; exact hDistinct) hOwn,
    member?_mapValues]

theorem namesOf_present_sublist
    (members : List (Units × Option (JsonTree ν))) :
    (namesOf (JsonTree.present members)).Sublist
      (members.map Prod.fst) := by
  unfold JsonTree.present
  induction members with
  | nil => exact List.Sublist.refl _
  | cons member members ih =>
      rcases member with ⟨name, value⟩
      cases value with
      | none => exact ih.cons name
      | some value => exact ih.cons_cons name

/- The timestamp is signed as it stands in the envelope. -/
theorem signed_timestamp
    {N : Numbers ν}
    {envelope toVerify : JsonTree ν}
    (hSigned :
      backendResponseToVerify N envelope = some toVerify)
    {timestamp : JsonTree ν}
    (hTimestamp :
      envelope.field? (ascii "timestamp") = some timestamp) :
    (canonicalize toVerify).field? (ascii "timestamp") =
      some (canonicalize timestamp) := by
  unfold backendResponseToVerify at hSigned
  rw [hTimestamp] at hSigned
  cases hEpoch :
      numberOrOne N
        (JsonTree.coalesce
          (envelope.field? (ascii "server_epoch"))
          (envelope.field? (ascii "epoch"))) with
  | none =>
      rw [hEpoch] at hSigned
      cases hSigned
  | some serverEpoch =>
      rw [hEpoch] at hSigned
      cases hGeneration :
          numberOrOne N
            (envelope.field? (ascii "generation")) with
      | none =>
          rw [hGeneration] at hSigned
          cases hSigned
      | some generation =>
          rw [hGeneration] at hSigned
          cases hNonce : signedNonce N envelope with
          | none =>
              rw [hNonce] at hSigned
              cases hSigned
          | some nonce =>
              rw [hNonce] at hSigned
              cases hSigned
              rw [field?_canonicalize
                (List.Nodup.sublist (namesOf_present_sublist _)
                  (by
                    change List.Nodup
                      [ascii "version", ascii "timestamp",
                        ascii "server_epoch", ascii "payload",
                        ascii "generation", ascii "nonce"]
                    decide)) (by decide)]
              rfl

/- Envelopes of one signed content have one timestamp. -/
theorem timestamp_of_same_content
    {N : Numbers ν}
    {first second : JsonTree ν}
    {bytes : ByteArray}
    (hFirst :
      serializeBackendResponse N first = some bytes)
    (hSecond :
      serializeBackendResponse N second = some bytes)
    {a b : JsonTree ν}
    (hA : first.field? (ascii "timestamp") = some a)
    (hB : second.field? (ascii "timestamp") = some b) :
    canonicalize a = canonicalize b := by
  unfold serializeBackendResponse at hFirst hSecond
  rcases Option.map_eq_some_iff.mp hFirst with
    ⟨toVerify, hToVerify, hBytes⟩
  rcases Option.map_eq_some_iff.mp hSecond with
    ⟨other, hOther, hSame⟩
  have hCanonical : canonicalize toVerify = canonicalize other :=
    N.utf8_stringify_injective (hBytes.trans hSame.symm)
  have hFields :=
    congrArg (fun v => v.field? (ascii "timestamp")) hCanonical
  rw [signed_timestamp hToVerify hA, signed_timestamp hOther hB]
    at hFields
  exact Option.some.inj hFields

end CanonicalSerializer

end ControlPlane
