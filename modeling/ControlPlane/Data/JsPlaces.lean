import ControlPlane.Data.JsValue

/-
  The places in a JavaScript value.

  A place is reached by the indices and the names of members
  on the way to it. A property of the values at all places
  of a value is proved by an induction over the value.

  Main declarations:
    * `JsValue.induction`
    * `JsValue.Everywhere` and `Everywhere.mono`
    * `JsValue.IsJson`
    * `JsValue.Step` and `JsValue.at?`
-/

------------------------------------------------------------
-- Induction
------------------------------------------------------------

namespace ControlPlane

namespace JsValue

/- Neither an array nor an object. -/
def isLeaf : JsValue → Bool
| .array _ => false
| .object _ => false
| _ => true

mutual

theorem induction
    {motive : JsValue → Prop}
    (leaf : ∀ value, value.isLeaf = true → motive value)
    (array :
      ∀ items, (∀ item ∈ items, motive item) →
        motive (.array items))
    (object :
      ∀ members, (∀ member ∈ members, motive member.2) →
        motive (.object members)) :
    ∀ value, motive value
| .array items =>
    array items (itemsInduction leaf array object items)
| .object members =>
    object members
      (membersInduction leaf array object members)
| .undefined => leaf _ rfl
| .null => leaf _ rfl
| .boolean _ => leaf _ rfl
| .number _ => leaf _ rfl
| .bigint _ => leaf _ rfl
| .text _ => leaf _ rfl
| .symbol _ => leaf _ rfl
| .function _ => leaf _ rfl
| .circular => leaf _ rfl

theorem itemsInduction
    {motive : JsValue → Prop}
    (leaf : ∀ value, value.isLeaf = true → motive value)
    (array :
      ∀ items, (∀ item ∈ items, motive item) →
        motive (.array items))
    (object :
      ∀ members, (∀ member ∈ members, motive member.2) →
        motive (.object members)) :
    ∀ items : List JsValue, ∀ item ∈ items, motive item
| [] => fun _ hMem => nomatch hMem
| first :: items => by
    intro item hMem
    rcases List.mem_cons.mp hMem with hSame | hMem
    · rw [hSame]
      exact induction leaf array object first
    · exact itemsInduction leaf array object items item hMem

theorem membersInduction
    {motive : JsValue → Prop}
    (leaf : ∀ value, value.isLeaf = true → motive value)
    (array :
      ∀ items, (∀ item ∈ items, motive item) →
        motive (.array items))
    (object :
      ∀ members, (∀ member ∈ members, motive member.2) →
        motive (.object members)) :
    ∀ members : List (String × JsValue),
      ∀ member ∈ members, motive member.2
| [] => fun _ hMem => nomatch hMem
| (key, value) :: members => by
    intro member hMem
    rcases List.mem_cons.mp hMem with hSame | hMem
    · rw [hSame]
      exact induction leaf array object value
    · exact membersInduction leaf array object members
        member hMem

end

------------------------------------------------------------
-- Properties Of All Places
------------------------------------------------------------

mutual

/- The value and every value in it has the property. -/
def Everywhere (P : JsValue → Prop) : JsValue → Prop
| .array items => P (.array items) ∧ InItems P items
| .object members => P (.object members) ∧ InMembers P members
| value => P value

def InItems (P : JsValue → Prop) : List JsValue → Prop
| [] => True
| item :: items => item.Everywhere P ∧ InItems P items

def InMembers
    (P : JsValue → Prop) : List (String × JsValue) → Prop
| [] => True
| (_, value) :: members =>
    value.Everywhere P ∧ InMembers P members

end

theorem inItems_iff
    (P : JsValue → Prop)
    (items : List JsValue) :
    InItems P items ↔ ∀ item ∈ items, item.Everywhere P := by
  induction items with
  | nil => simp [InItems]
  | cons item items ih => simp [InItems, ih]

theorem inMembers_iff
    (P : JsValue → Prop)
    (members : List (String × JsValue)) :
    InMembers P members ↔
      ∀ member ∈ members, member.2.Everywhere P := by
  induction members with
  | nil => simp [InMembers]
  | cons member members ih =>
      rcases member with ⟨key, value⟩
      simp only [InMembers, ih, List.forall_mem_cons]

theorem everywhere_array
    (P : JsValue → Prop)
    (items : List JsValue) :
    (array items).Everywhere P ↔
      P (.array items) ∧
        ∀ item ∈ items, item.Everywhere P := by
  rw [Everywhere, inItems_iff]

theorem everywhere_object
    (P : JsValue → Prop)
    (members : List (String × JsValue)) :
    (object members).Everywhere P ↔
      P (.object members) ∧
        ∀ member ∈ members, member.2.Everywhere P := by
  rw [Everywhere, inMembers_iff]

theorem everywhere_of_isLeaf
    (P : JsValue → Prop)
    {value : JsValue}
    (hLeaf : value.isLeaf = true) :
    value.Everywhere P ↔ P value := by
  cases value with
  | array items => nomatch hLeaf
  | object members => nomatch hLeaf
  | _ => simp only [Everywhere]

theorem Everywhere.here
    {P : JsValue → Prop}
    {value : JsValue}
    (hValue : value.Everywhere P) : P value := by
  cases value with
  | array items => exact ((everywhere_array P items).mp hValue).1
  | object members =>
      exact ((everywhere_object P members).mp hValue).1
  | _ => simpa only [Everywhere] using hValue

theorem Everywhere.mono
    {P Q : JsValue → Prop}
    (hStronger : ∀ value, P value → Q value)
    {value : JsValue}
    (hValue : value.Everywhere P) :
    value.Everywhere Q := by
  induction value using JsValue.induction with
  | leaf value hLeaf =>
      rw [everywhere_of_isLeaf Q hLeaf]
      exact hStronger value hValue.here
  | array items ih =>
      rw [everywhere_array] at hValue ⊢
      exact ⟨hStronger _ hValue.1, fun item hMem =>
        ih item hMem (hValue.2 item hMem)⟩
  | object members ih =>
      rw [everywhere_object] at hValue ⊢
      exact ⟨hStronger _ hValue.1, fun member hMem =>
        ih member hMem (hValue.2 member hMem)⟩

mutual

instance Everywhere.decidable
    (P : JsValue → Prop)
    [DecidablePred P] :
    ∀ value : JsValue, Decidable (value.Everywhere P)
| .array items =>
    have := InItems.decidable P items
    decidable_of_iff (P (.array items) ∧ InItems P items)
      (by rw [Everywhere])
| .object members =>
    have := InMembers.decidable P members
    decidable_of_iff (P (.object members) ∧ InMembers P members)
      (by rw [Everywhere])
| .undefined =>
    decidable_of_iff (P .undefined) (by simp only [Everywhere])
| .null =>
    decidable_of_iff (P .null) (by simp only [Everywhere])
| .boolean b =>
    decidable_of_iff (P (.boolean b))
      (by simp only [Everywhere])
| .number n =>
    decidable_of_iff (P (.number n)) (by simp only [Everywhere])
| .bigint n =>
    decidable_of_iff (P (.bigint n)) (by simp only [Everywhere])
| .text t =>
    decidable_of_iff (P (.text t)) (by simp only [Everywhere])
| .symbol s =>
    decidable_of_iff (P (.symbol s)) (by simp only [Everywhere])
| .function f =>
    decidable_of_iff (P (.function f))
      (by simp only [Everywhere])
| .circular =>
    decidable_of_iff (P .circular) (by simp only [Everywhere])

def InItems.decidable
    (P : JsValue → Prop)
    [DecidablePred P] :
    ∀ items : List JsValue, Decidable (InItems P items)
| [] => isTrue trivial
| item :: items =>
    have := Everywhere.decidable P item
    have := InItems.decidable P items
    decidable_of_iff (item.Everywhere P ∧ InItems P items)
      (by rw [InItems])

def InMembers.decidable
    (P : JsValue → Prop)
    [DecidablePred P] :
    ∀ members : List (String × JsValue),
      Decidable (InMembers P members)
| [] => isTrue trivial
| (_, value) :: members =>
    have := Everywhere.decidable P value
    have := InMembers.decidable P members
    decidable_of_iff
      (value.Everywhere P ∧ InMembers P members)
      (by rw [InMembers])

end

------------------------------------------------------------
-- JSON Values
------------------------------------------------------------

/-
  What `JSON.parse` gives at a place. A member named
  `__proto__` is left out here: it is no member of a copy.
-/
def JsonNode : JsValue → Prop
| .null => True
| .boolean _ => True
| .number (.finite _) => True
| .text _ => True
| .array _ => True
| .object members =>
    (members.map Prod.fst).Nodup ∧
      "__proto__" ∉ members.map Prod.fst
| _ => False

instance JsonNode.decidable : DecidablePred JsonNode
| .null => isTrue trivial
| .boolean _ => isTrue trivial
| .number (.finite _) => isTrue trivial
| .number (.infinite _) => isFalse id
| .number .nan => isFalse id
| .text _ => isTrue trivial
| .array _ => isTrue trivial
| .object members =>
    inferInstanceAs
      (Decidable ((members.map Prod.fst).Nodup ∧
        "__proto__" ∉ members.map Prod.fst))
| .undefined => isFalse id
| .bigint _ => isFalse id
| .symbol _ => isFalse id
| .function _ => isFalse id
| .circular => isFalse id

def IsJson (value : JsValue) : Prop :=
  value.Everywhere JsonNode

instance IsJson.decidable
    (value : JsValue) : Decidable value.IsJson :=
  Everywhere.decidable JsonNode value

/- A value that does not hold itself. -/
def Acyclic (value : JsValue) : Prop :=
  value.Everywhere (fun v => v ≠ .circular)

theorem IsJson.acyclic
    {value : JsValue}
    (hJson : value.IsJson) : value.Acyclic := by
  refine hJson.mono ?_
  intro v hNode hCircular
  rw [hCircular] at hNode
  exact hNode

------------------------------------------------------------
-- Paths
------------------------------------------------------------

inductive Step where
| item (index : Nat)
| member (name : String)
deriving DecidableEq, Repr

def child? : JsValue → Step → Option JsValue
| .array items, .item index => items[index]?
| .object members, .member name => members.lookup name
| _, _ => none

/- The value at the end of a path. -/
def at? (value : JsValue) : List Step → Option JsValue
| [] => some value
| step :: path =>
    (value.child? step).bind (fun child => child.at? path)

/-
  What is at a place itself: a primitive, the length of an
  array or the names of an object in their order.
-/
inductive Node where
| leaf (value : JsValue)
| array (length : Nat)
| object (names : List String)
deriving DecidableEq

def node : JsValue → Node
| .array items => .array items.length
| .object members => .object (members.map Prod.fst)
| value => .leaf value

theorem at?_append
    (value : JsValue)
    (first second : List Step) :
    value.at? (first ++ second) =
      (value.at? first).bind (fun v => v.at? second) := by
  induction first generalizing value with
  | nil => rfl
  | cons step first ih =>
      rw [List.cons_append, at?, at?, Option.bind_assoc]
      exact congrArg _ (funext (fun child => ih child))

end JsValue

end ControlPlane
