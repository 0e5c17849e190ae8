import ControlPlane.Data.JsonOrder
import Mathlib.Data.Rat.Defs

/-
  How a program reads and converts values.

  A member that an object does not have is undefined, which
  is `none` here. A conversion to a text or to a number calls
  `toString`, and throws when the object has a member of that
  name in place of the method.

  Main declarations:
    * `Numbers`
    * `JsonTree.field?`, `orDefault` and `orElse`
    * `Numbers.toText` and `Numbers.toNumber`
    * `JsonTree.same_field?`
-/

------------------------------------------------------------
-- Members
------------------------------------------------------------

namespace ControlPlane

namespace JsonTree

variable {ν : Type}

def member?
    (members : Members ν)
    (name : Units) : Option (JsonTree ν) :=
  members.lookup name

/- An array has its items under their numbers. -/
def field? (v : JsonTree ν) (name : Units) : Option (JsonTree ν) :=
  match v with
  | .object members => member? members name
  | .array items =>
      if isArrayIndex name then items[decimalValue name]?
      else none
  | _ => none

def isObject : JsonTree ν → Bool
| .array _ => true
| .object _ => true
| _ => false

def isNull : JsonTree ν → Bool
| .null => true
| _ => false

def text? : JsonTree ν → Option Units
| .text value => some value
| _ => none

/- `first ?? second` -/
def coalesce
    (first second : Option (JsonTree ν)) : Option (JsonTree ν) :=
  match first with
  | none => second
  | some value => if value.isNull then second else first

/- `value ?? default` -/
def orDefault
    (value : Option (JsonTree ν))
    (default : JsonTree ν) : JsonTree ν :=
  match value with
  | none => default
  | some value => if value.isNull then default else value

/- The members of an object literal that are not undefined. -/
def present
    (members : List (Units × Option (JsonTree ν))) : Members ν :=
  members.filterMap
    (fun member => member.2.map (fun value => (member.1, value)))

end JsonTree

------------------------------------------------------------
-- Numbers
------------------------------------------------------------

/- Numbers with their amounts, and the number of a text. -/
structure Numbers (ν : Type) extends Numerals ν where
  value : ν → Rat
  zero : ν
  one : ν
  two : ν
  value_zero : value zero = 0
  value_one : value one = 1
  value_two : value two = 2
  ofText : Units → Option ν

namespace Numbers

variable {ν : Type}

def truthy (N : Numbers ν) : JsonTree ν → Bool
| .null => false
| .boolean value => value
| .number value => decide (N.value value ≠ 0)
| .text value => !value.isEmpty
| .array _ => true
| .object _ => true

/- `value || default` -/
def orElse
    (N : Numbers ν)
    (value : Option (JsonTree ν))
    (default : JsonTree ν) : JsonTree ν :=
  match value with
  | none => default
  | some value => if N.truthy value then value else default

mutual

/- `String(value)`, or nothing when it throws. -/
def toText (N : Numbers ν) : JsonTree ν → Option Units
| .null => some (ascii "null")
| .boolean true => some (ascii "true")
| .boolean false => some (ascii "false")
| .number value => some (N.write value)
| .text value => some value
| .array items => (itemTexts N items).map separated
| .object members =>
    if ascii "toString" ∈ namesOf members then none
    else some (ascii "[object Object]")

/- The items of an array as they are joined. -/
def itemTexts
    (N : Numbers ν) : List (JsonTree ν) → Option (List Units)
| [] => some []
| item :: items =>
    (if item.isNull then some [] else toText N item).bind
      (fun text =>
        (itemTexts N items).map (fun texts => text :: texts))

end

/-
  `Number(value)`, or nothing when it throws. The number is
  missing where it is not finite.
-/
def toNumber
    (N : Numbers ν)
    (value : JsonTree ν) : Option (Option ν) :=
  match value with
  | .null => some (some N.zero)
  | .boolean true => some (some N.one)
  | .boolean false => some (some N.zero)
  | .number value => some (some value)
  | .text value => some (N.ofText value)
  | .array items => (N.toText (.array items)).map N.ofText
  | .object members => (N.toText (.object members)).map N.ofText

/- A number that is not finite is written as null. -/
def written : Option ν → JsonTree ν
| none => .null
| some value => .number value

instance neZeroDigits : @NeZero Nat Zero.ofOfNat0 10 :=
  ⟨by decide⟩

/- The numbers of one digit. -/
def digits : Numbers (Fin 10) where
  write n := [Fin.ofNat 65536 (48 + n.val)]
  read text :=
    (text.head?.bind readHex).map (fun n => Fin.ofNat 10 n)
  nonempty n := List.cons_ne_nil _ _
  numeral n u hMem := by
    rw [List.mem_singleton.mp hMem]
    clear hMem
    revert n
    decide
  read_write := by decide
  value n := n.val
  zero := 0
  one := 1
  two := 2
  value_zero := rfl
  value_one := rfl
  value_two := rfl
  ofText text :=
    (text.head?.bind readHex).map (fun n => Fin.ofNat 10 n)

end Numbers

------------------------------------------------------------
-- Reading Values That Are The Same
------------------------------------------------------------

namespace JsonTree

variable {ν : Type}

theorem member?_mapValues
    (h : JsonTree ν → JsonTree ν)
    (members : Members ν)
    (name : Units) :
    member? (mapValues h members) name =
      (member? members name).map h := by
  unfold member?
  induction members with
  | nil => rfl
  | cons member members ih =>
      rcases member with ⟨other, value⟩
      change List.lookup name ((other, h value) :: _) = _
      by_cases hName : name = other
      · subst hName
        rw [List.lookup_cons_self, List.lookup_cons_self]
        rfl
      · rw [List.lookup_cons, List.lookup_cons,
          beq_eq_false_iff_ne.mpr hName]
        exact ih

theorem member?_of_mem
    {members : Members ν}
    (hDistinct : (namesOf members).Nodup)
    {name : Units}
    {value : JsonTree ν}
    (hMem : (name, value) ∈ members) :
    member? members name = some value := by
  unfold member?
  induction members with
  | nil => cases hMem
  | cons member members ih =>
      rw [namesOf_cons, List.nodup_cons] at hDistinct
      rcases List.mem_cons.mp hMem with rfl | hLater
      · rw [List.lookup_cons_self]
      · have hName : name ≠ member.1 := by
          rintro rfl
          exact hDistinct.1 (List.mem_map.mpr ⟨_, hLater, rfl⟩)
        rw [List.lookup_cons, beq_eq_false_iff_ne.mpr hName]
        exact ih hDistinct.2 hLater

theorem mem_of_member?
    {members : Members ν}
    {name : Units}
    {value : JsonTree ν}
    (hMember : member? members name = some value) :
    (name, value) ∈ members := by
  unfold member? at hMember
  induction members with
  | nil => cases hMember
  | cons member members ih =>
      rcases member with ⟨other, first⟩
      by_cases hName : name = other
      · subst hName
        rw [List.lookup_cons_self] at hMember
        cases hMember
        exact List.mem_cons_self
      · rw [List.lookup_cons, beq_eq_false_iff_ne.mpr hName]
          at hMember
        exact List.mem_cons_of_mem _ (ih hMember)

theorem member?_perm
    {first second : Members ν}
    (hDistinct : (namesOf first).Nodup)
    (hPerm : first.Perm second)
    (name : Units) :
    member? first name = member? second name := by
  have hOther : (namesOf second).Nodup :=
    (hPerm.map Prod.fst).nodup_iff.mp hDistinct
  cases hFirst : member? first name with
  | some value =>
      exact (member?_of_mem hOther
        (hPerm.subset (mem_of_member? hFirst))).symm
  | none =>
      cases hSecond : member? second name with
      | none => rfl
      | some value =>
          rw [member?_of_mem hDistinct
            (hPerm.symm.subset (mem_of_member? hSecond))]
            at hFirst
          cases hFirst

theorem sorted_object
    (members : Members ν) :
    sorted (.object members) =
      .object (sortMembers (mapValues sorted members)) :=
  mapObjects_object sortMembers members

/- The members of a value, up to the order of their own. -/
theorem member?_sorted
    {members : Members ν}
    (hDistinct : (namesOf members).Nodup)
    (name : Units) :
    member? (sortMembers (mapValues sorted members)) name =
      (member? members name).map sorted := by
  rw [← member?_mapValues]
  refine member?_perm ?_ (sortMembers_perm _) name
  rw [(namesOf_sortMembers_perm _).nodup_iff,
    namesOf_mapValues]
  exact hDistinct

theorem nodup_of_distinct
    {members : Members ν}
    (hDistinct : Distinct (.object members)) :
    (namesOf members).Nodup :=
  ((everyObject_object members).mp hDistinct).1

/- A value that is the same as an object is one. -/
theorem same_object
    {v : JsonTree ν}
    {members : Members ν}
    (hSame : v.Same (.object members)) :
    ∃ others, v = .object others := by
  unfold Same at hSame
  rw [sorted_object] at hSame
  cases v with
  | object others => exact ⟨others, rfl⟩
  | null => cases hSame
  | boolean value => cases hSame
  | number value => cases hSame
  | text value => cases hSame
  | array items =>
      unfold sorted at hSame
      rw [mapObjects_array] at hSame
      cases hSame

/- The same value has the same members. -/
theorem same_field?
    {v w : JsonTree ν}
    (hV : v.Distinct)
    (hW : w.Distinct)
    (hSame : v.Same w)
    {members : Members ν}
    (hObject : w = .object members)
    (name : Units) :
    (v.field? name).map sorted =
      (w.field? name).map sorted := by
  subst hObject
  rcases same_object hSame with ⟨others, rfl⟩
  unfold Same at hSame
  rw [sorted_object, sorted_object] at hSame
  change (member? others name).map sorted =
    (member? members name).map sorted
  rw [← member?_sorted (nodup_of_distinct hV),
    ← member?_sorted (nodup_of_distinct hW),
    JsonTree.object.inj hSame]

end JsonTree

end ControlPlane
