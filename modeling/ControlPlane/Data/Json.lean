import Mathlib.Data.List.ReduceOption

/-
  JSON values and how a program reads them with defaults.

  A member that an object does not have is undefined, which
  is `none` here. `firstTruthy` is a chain of alternatives
  that skips every empty value, and `firstDefined` one that
  skips only what is undefined or null. An object that is
  spread over another one takes precedence.

  Main declarations:
    * `Json` and `Json.field`
    * `Json.firstTruthy` and `Json.firstDefined`
    * `Json.spread` and `Json.field_spread`
    * `Json.readSection_congr`
-/

------------------------------------------------------------
-- Values
------------------------------------------------------------

namespace ControlPlane

inductive Json where
| null
| boolean (value : Bool)
| number (value : Rat)
| text (value : String)
| array (items : List Json)
| object (members : List (String × Json))

/- A number, as the value that is converted to it. -/
structure Numeral where
  source : Json

namespace Json

/- The members of an object. Nothing else has any. -/
def fields : Json → List (String × Json)
| .object members => members
| _ => []

def field
    (value : Json)
    (name : String) : Option Json :=
  value.fields.lookup name

def truthy : Json → Bool
| .null => false
| .boolean value => value
| .number value => decide (value ≠ 0)
| .text value => decide (value ≠ "")
| .array _ => true
| .object _ => true

def isNull : Json → Bool
| .null => true
| _ => false

/- A member is compared with `false` itself. -/
def isNotFalse : Option Json → Bool
| some (.boolean value) => value
| _ => true

------------------------------------------------------------
-- Comparing
------------------------------------------------------------

mutual

/- Whether two values are written alike. -/
def decEq : (a b : Json) → Decidable (a = b)
| .null, b => by
    cases b with
    | null => exact isTrue rfl
    | _ => exact isFalse (by intro hEq; cases hEq)
| .boolean x, b => by
    cases b with
    | boolean y => exact decidable_of_iff (x = y) (by simp)
    | _ => exact isFalse (by intro hEq; cases hEq)
| .number x, b => by
    cases b with
    | number y => exact decidable_of_iff (x = y) (by simp)
    | _ => exact isFalse (by intro hEq; cases hEq)
| .text x, b => by
    cases b with
    | text y => exact decidable_of_iff (x = y) (by simp)
    | _ => exact isFalse (by intro hEq; cases hEq)
| .array xs, b => by
    cases b with
    | array ys =>
        have := decEqItems xs ys
        exact decidable_of_iff (xs = ys) (by simp)
    | _ => exact isFalse (by intro hEq; cases hEq)
| .object xs, b => by
    cases b with
    | object ys =>
        have := decEqMembers xs ys
        exact decidable_of_iff (xs = ys) (by simp)
    | _ => exact isFalse (by intro hEq; cases hEq)

def decEqItems : (xs ys : List Json) → Decidable (xs = ys)
| [], [] => isTrue rfl
| [], _ :: _ => isFalse (by intro hEq; cases hEq)
| _ :: _, [] => isFalse (by intro hEq; cases hEq)
| x :: xs, y :: ys =>
    have := decEq x y
    have := decEqItems xs ys
    decidable_of_iff (x = y ∧ xs = ys) (by simp)

def decEqMembers :
    (xs ys : List (String × Json)) → Decidable (xs = ys)
| [], [] => isTrue rfl
| [], _ :: _ => isFalse (by intro hEq; cases hEq)
| _ :: _, [] => isFalse (by intro hEq; cases hEq)
| (key, x) :: xs, (other, y) :: ys =>
    have := decEq x y
    have := decEqMembers xs ys
    decidable_of_iff ((key = other ∧ x = y) ∧ xs = ys)
      (by simp)

end

instance : DecidableEq Json := decEq

------------------------------------------------------------
-- Reading With Defaults
------------------------------------------------------------

/- The first alternative that is not empty. -/
def firstTruthy
    (alternatives : List (Option Json))
    (fallback : Json) : Json :=
  (alternatives.reduceOption.find? truthy).getD fallback

/- The first alternative that is neither undefined nor null. -/
def firstDefined
    (alternatives : List (Option Json))
    (fallback : Json) : Json :=
  (alternatives.reduceOption.find?
    (fun value => !value.isNull)).getD fallback

def isTruthy (value : Option Json) : Bool :=
  value.any truthy

/- A member that is read as an object of its own. -/
def readSection
    (value : Json)
    (name : String) : Json :=
  firstTruthy [value.field name] (.object [])

def toNumber (value : Json) : Numeral :=
  ⟨value⟩

/- The members of both, with the later ones preferred. -/
def spread (base updates : Json) : Json :=
  .object (updates.fields ++ base.fields)

@[simp] theorem field_object_nil
    (name : String) :
    (object []).field name = none := rfl

theorem field_object_cons
    (key name : String)
    (value : Json)
    (members : List (String × Json)) :
    (object ((key, value) :: members)).field name =
      if name = key then some value
      else (object members).field name := by
  unfold field fields
  rw [List.lookup_cons]
  by_cases hKey : name = key
  · simp [hKey]
  · simp [hKey, beq_eq_false_iff_ne.mpr hKey]

/- Reading a member after an object was spread. -/
theorem field_spread
    (base updates : Json)
    (name : String) :
    (base.spread updates).field name =
      (updates.field name).or (base.field name) := by
  unfold spread field fields
  exact List.lookup_append

theorem field_spread_of_none
    {base updates : Json}
    {name : String}
    (hNone : updates.field name = none) :
    (base.spread updates).field name = base.field name := by
  rw [field_spread, hNone, Option.none_or]

/- A section depends on its own member only. -/
theorem readSection_congr
    {value other : Json}
    {name : String}
    (hField : value.field name = other.field name) :
    value.readSection name = other.readSection name := by
  unfold readSection
  rw [hField]

/- A section that is empty is the object without members. -/
theorem readSection_of_not_truthy
    {value : Json}
    {name : String}
    (hEmpty : isTruthy (value.field name) = false) :
    value.readSection name = .object [] := by
  unfold readSection firstTruthy
  cases hField : value.field name with
  | none => rfl
  | some member =>
      rw [hField] at hEmpty
      have hMember : member.truthy = false := by
        simpa [isTruthy] using hEmpty
      simp [hMember]

end Json

end ControlPlane
