import Mathlib.Data.Rat.Defs
import ControlPlane.Data.Text

/-
  JavaScript values and what the language does with them.

  A value is data: undefined and null, the primitives, and
  arrays and objects of values. An object that holds itself
  is written with `circular` where it is entered again. Two
  arrays or objects are the same when they are written
  alike. Whatever raises an exception in the language is an
  error of type `JsError`.

  Main declarations:
    * `JsNumber` and `JsNumber.ofText`
    * `JsValue` and `JsValue.field`
    * `JsValue.spread`
    * `JsValue.toNumber`, `toLowerCase` and `includes`
    * `JsValue.json`
-/

------------------------------------------------------------
-- Exceptions
------------------------------------------------------------

namespace ControlPlane

/- What is thrown: by the language, or by the program. -/
inductive JsError where
| type
| range
| malformed
| thrown (name message : String)
deriving DecidableEq, Repr

/- What follows a step is reached only if nothing is thrown. -/
theorem bind_eq_ok
    {ε α β : Type}
    {x : Except ε α}
    {f : α → Except ε β}
    {b : β} :
    (x >>= f) = .ok b ↔ ∃ a, x = .ok a ∧ f a = .ok b := by
  cases x with
  | error e => simp [bind, Except.bind]
  | ok a => simp [bind, Except.bind]

theorem bind_ok
    {ε α β : Type}
    (a : α)
    (f : α → Except ε β) :
    (Except.ok a >>= f) = f a := rfl

------------------------------------------------------------
-- Numbers
------------------------------------------------------------

inductive JsNumber where
| finite (value : Rat)
| infinite (negative : Bool)
| nan
deriving DecidableEq

namespace JsNumber

def negate : JsNumber → JsNumber
| finite value => finite (-value)
| infinite negative => infinite (!negative)
| nan => nan

def truthy : JsNumber → Bool
| finite value => decide (value ≠ 0)
| infinite _ => true
| nan => false

/- The number, or zero for what is not one. -/
def orZero (n : JsNumber) : JsNumber :=
  if n.truthy then n else finite 0

/- The value of a digit in a base. -/
def digit? (base : Nat) (c : Char) : Option Nat :=
  let value :=
    if c.isDigit then c.toNat - 48
    else if 'a' ≤ c.toLower ∧ c.toLower ≤ 'z' then
      c.toLower.toNat - 87
    else base
  if value < base then some value else none

def digits? (base : Nat) : List Char → Option Nat
| [] => some 0
| cs =>
    cs.foldl
      (fun read c =>
        read.bind (fun n =>
          (digit? base c).map (fun d => n * base + d)))
      (some 0)

/- A literal with a base, after its prefix. -/
def literal
    (base : Nat)
    (cs : List Char) : JsNumber :=
  match cs, digits? base cs with
  | _ :: _, some n => finite n
  | _, _ => nan

/- The power of ten that is written after the digits. -/
def exponent? : List Char → Option Int
| [] => some 0
| '-' :: c :: cs => (digits? 10 (c :: cs)).map (fun n => -n)
| '+' :: c :: cs => (digits? 10 (c :: cs)).map Int.ofNat
| '-' :: [] => none
| '+' :: [] => none
| cs => (digits? 10 cs).map Int.ofNat

def scaled (digits : Nat) (power : Int) : Rat :=
  Rat.ofScientific digits (decide (power < 0)) power.natAbs

/- A decimal literal without a sign. -/
def decimal (cs : List Char) : JsNumber :=
  let isMark := fun c => decide (c = 'e' ∨ c = 'E')
  let mantissa := cs.takeWhile (fun c => !isMark c)
  let power := (cs.dropWhile (fun c => !isMark c)).drop 1
  let whole := mantissa.takeWhile (fun c => c ≠ '.')
  let part := (mantissa.dropWhile (fun c => c ≠ '.')).drop 1
  if whole ++ part = [] ∨ (cs.any isMark ∧ power = []) then
    nan
  else
    match digits? 10 (whole ++ part), exponent? power with
    | some n, some e => finite (scaled n (e - part.length))
    | _, _ => nan

def unsigned (cs : List Char) : JsNumber :=
  if cs = "Infinity".toList then infinite false else decimal cs

/- The number that a text is read as. -/
def ofText (text : String) : JsNumber :=
  match (trimText text).toList with
  | [] => finite 0
  | '0' :: 'x' :: cs => literal 16 cs
  | '0' :: 'X' :: cs => literal 16 cs
  | '0' :: 'o' :: cs => literal 8 cs
  | '0' :: 'O' :: cs => literal 8 cs
  | '0' :: 'b' :: cs => literal 2 cs
  | '0' :: 'B' :: cs => literal 2 cs
  | '-' :: cs => (unsigned cs).negate
  | '+' :: cs => unsigned cs
  | cs => unsigned cs

end JsNumber

------------------------------------------------------------
-- Values
------------------------------------------------------------

inductive JsValue where
| undefined
| null
| boolean (value : Bool)
| number (value : JsNumber)
| bigint (value : Int)
| text (value : String)
| symbol (description : String)
| function (name : String)
| array (items : List JsValue)
| object (members : List (String × JsValue))
| circular

namespace JsValue

mutual

/- Whether two values are written alike. -/
def decEq : (a b : JsValue) → Decidable (a = b)
| .undefined, b => by
    cases b with
    | undefined => exact isTrue rfl
    | _ => exact isFalse (by intro hEq; cases hEq)
| .null, b => by
    cases b with
    | null => exact isTrue rfl
    | _ => exact isFalse (by intro hEq; cases hEq)
| .boolean x, b => by
    cases b with
    | boolean y => exact decidable_of_iff (x = y) (by simp)
    | _ => exact isFalse (by intro hEq; cases hEq)
| .number x, b => by
    cases b with
    | number y => exact decidable_of_iff (x = y) (by simp)
    | _ => exact isFalse (by intro hEq; cases hEq)
| .bigint x, b => by
    cases b with
    | bigint y => exact decidable_of_iff (x = y) (by simp)
    | _ => exact isFalse (by intro hEq; cases hEq)
| .text x, b => by
    cases b with
    | text y => exact decidable_of_iff (x = y) (by simp)
    | _ => exact isFalse (by intro hEq; cases hEq)
| .symbol x, b => by
    cases b with
    | symbol y => exact decidable_of_iff (x = y) (by simp)
    | _ => exact isFalse (by intro hEq; cases hEq)
| .function x, b => by
    cases b with
    | function y => exact decidable_of_iff (x = y) (by simp)
    | _ => exact isFalse (by intro hEq; cases hEq)
| .array xs, b => by
    cases b with
    | array ys =>
        have := decEqItems xs ys
        exact decidable_of_iff (xs = ys) (by simp)
    | _ => exact isFalse (by intro hEq; cases hEq)
| .object xs, b => by
    cases b with
    | object ys =>
        have := decEqMembers xs ys
        exact decidable_of_iff (xs = ys) (by simp)
    | _ => exact isFalse (by intro hEq; cases hEq)
| .circular, b => by
    cases b with
    | circular => exact isTrue rfl
    | _ => exact isFalse (by intro hEq; cases hEq)

def decEqItems : (xs ys : List JsValue) → Decidable (xs = ys)
| [], [] => isTrue rfl
| [], _ :: _ => isFalse (by intro hEq; cases hEq)
| _ :: _, [] => isFalse (by intro hEq; cases hEq)
| x :: xs, y :: ys =>
    have := decEq x y
    have := decEqItems xs ys
    decidable_of_iff (x = y ∧ xs = ys) (by simp)

def decEqMembers :
    (xs ys : List (String × JsValue)) → Decidable (xs = ys)
| [], [] => isTrue rfl
| [], _ :: _ => isFalse (by intro hEq; cases hEq)
| _ :: _, [] => isFalse (by intro hEq; cases hEq)
| (key, x) :: xs, (other, y) :: ys =>
    have := decEq x y
    have := decEqMembers xs ys
    decidable_of_iff ((key = other ∧ x = y) ∧ xs = ys)
      (by simp)

end

instance : DecidableEq JsValue := decEq

def truthy : JsValue → Bool
| .undefined => false
| .null => false
| .boolean value => value
| .number value => value.truthy
| .bigint value => decide (value ≠ 0)
| .text value => decide (value ≠ "")
| _ => true

def isNullish : JsValue → Bool
| .undefined => true
| .null => true
| _ => false

/- The first of two values unless it is empty. -/
def orElse (value alternative : JsValue) : JsValue :=
  if value.truthy then value else alternative

/- An argument, or its default when it is left out. -/
def orDefault (value default : JsValue) : JsValue :=
  if value = .undefined then default else value

/- The items of an array. Nothing else has any. -/
def items : JsValue → List JsValue
| .array items => items
| _ => []

------------------------------------------------------------
-- Members
------------------------------------------------------------

/- The members that an object lists. -/
def members : JsValue → List (String × JsValue)
| .object members => members
| .array items =>
    items.zipIdx.map (fun item => (toString item.2, item.1))
| .text value =>
    value.toList.zipIdx.map
      (fun c => (toString c.2, .text (String.singleton c.1)))
| _ => []

/- What a member reads as. -/
def field (value : JsValue) (name : String) : JsValue :=
  match value with
  | .function functionName =>
      if name = "name" then .text functionName else .undefined
  | value => (value.members.lookup name).getD .undefined

/- A member of a value that may be undefined or null. -/
def read
    (value : JsValue)
    (name : String) : Except JsError JsValue :=
  if value.isNullish then .error .type
  else .ok (value.field name)

/- A member keeps its place when it is assigned again. -/
def assign
    (members : List (String × JsValue))
    (member : String × JsValue) : List (String × JsValue) :=
  if member.1 ∈ members.map Prod.fst then
    members.map
      (fun old => if old.1 = member.1 then member else old)
  else
    members ++ [member]

/- The members of both, with the later ones preferred. -/
def spread (base updates : JsValue) : JsValue :=
  .object (updates.members.foldl assign base.members)

/- The object with more members, or with others. -/
def withMembers
    (value : JsValue)
    (members : List (String × JsValue)) : JsValue :=
  .object (members.foldl assign value.members)

------------------------------------------------------------
-- Conversions
------------------------------------------------------------

mutual

/- Whether the value is or holds a symbol. -/
def hasSymbol : JsValue → Bool
| .symbol _ => true
| .array items => anySymbol items
| _ => false

def anySymbol : List JsValue → Bool
| [] => false
| item :: items => item.hasSymbol || anySymbol items

end

/-
  The number that a value is converted to. An array is read
  as the text of its items.
-/
def toNumber : JsValue → Except JsError JsNumber
| .undefined => .ok .nan
| .null => .ok (.finite 0)
| .boolean value => .ok (.finite (if value then 1 else 0))
| .number value => .ok value
| .bigint value => .ok (.finite value)
| .text value => .ok (.ofText value)
| .symbol _ => .error .type
| .function _ => .ok .nan
| .array [] => .ok (.finite 0)
| .array [.undefined] => .ok (.finite 0)
| .array [.boolean _] => .ok .nan
| .array [item] => item.toNumber
| .array items =>
    if anySymbol items then .error .type else .ok .nan
| .object _ => .ok .nan
| .circular => .ok .nan

/- Only a text has a lower case. -/
def toLowerCase : JsValue → Except JsError String
| .text value => .ok value.toLower
| _ => .error .type

/- A text includes another one, and an array its items. -/
def includes
    (pattern : String) : JsValue → Except JsError Bool
| .text value => .ok (includesText value pattern)
| .array items => .ok (decide (.text pattern ∈ items))
| _ => .error .type

------------------------------------------------------------
-- JSON
------------------------------------------------------------

mutual

/-
  The data in the JSON text of a value, when it has one. A
  bigint and an object that holds itself are refused.
-/
def json : JsValue → Except JsError (Option JsValue)
| .undefined => .ok none
| .null => .ok (some .null)
| .boolean value => .ok (some (.boolean value))
| .number (.finite value) =>
    .ok (some (.number (.finite value)))
| .number _ => .ok (some .null)
| .bigint _ => .error .type
| .text value => .ok (some (.text value))
| .symbol _ => .ok none
| .function _ => .ok none
| .array items => do
    let items ← jsonItems items
    return some (.array items)
| .object members => do
    let members ← jsonMembers members
    return some (.object members)
| .circular => .error .type

def jsonItems : List JsValue → Except JsError (List JsValue)
| [] => .ok []
| item :: items => do
    let item ← item.json
    let items ← jsonItems items
    return item.getD .null :: items

def jsonMembers :
    List (String × JsValue) →
      Except JsError (List (String × JsValue))
| [] => .ok []
| (key, value) :: members => do
    let value ← value.json
    let members ← jsonMembers members
    match value with
    | some value => return (key, value) :: members
    | none => return members

end

/- The copy of a value by way of its JSON text. -/
def jsonCopy (value : JsValue) : Except JsError JsValue := do
  match ← value.json with
  | some data => return data
  | none => throw .malformed

------------------------------------------------------------
-- Members After An Assignment
------------------------------------------------------------

theorem mem_assign_iff
    (members : List (String × JsValue))
    (member entry : String × JsValue) :
    entry ∈ assign members member ↔
      entry = member ∨
        (entry ∈ members ∧ entry.1 ≠ member.1) := by
  unfold assign
  split
  · rename_i hKey
    rw [List.mem_map]
    constructor
    · rintro ⟨old, hOld, rfl⟩
      by_cases hSame : old.1 = member.1
      · rw [if_pos hSame]
        exact .inl rfl
      · rw [if_neg hSame]
        exact .inr ⟨hOld, hSame⟩
    · rintro (rfl | ⟨hEntry, hNe⟩)
      · rcases List.mem_map.mp hKey with ⟨old, hOld, hSame⟩
        exact ⟨old, hOld, if_pos hSame⟩
      · exact ⟨entry, hEntry, if_neg hNe⟩
  · rename_i hKey
    rw [List.mem_append, List.mem_singleton]
    constructor
    · rintro (hEntry | rfl)
      · refine .inr ⟨hEntry, ?_⟩
        intro hSame
        exact hKey (hSame ▸ List.mem_map_of_mem hEntry)
      · exact .inl rfl
    · rintro (rfl | ⟨hEntry, _⟩)
      · exact .inr rfl
      · exact .inl hEntry

/-
  A member of a spread is one of the base, or one that the
  updates assign over any base.
-/
theorem mem_foldl_assign
    (base other updates : List (String × JsValue))
    (entry : String × JsValue)
    (hEntry : entry ∈ updates.foldl assign base) :
    entry ∈ base ∨ entry ∈ updates.foldl assign other := by
  induction updates using List.reverseRecOn with
  | nil => exact .inl hEntry
  | append_singleton updates member ih =>
      rw [List.foldl_append, List.foldl_cons, List.foldl_nil,
        mem_assign_iff] at hEntry
      rw [List.foldl_append, List.foldl_cons, List.foldl_nil,
        mem_assign_iff]
      rcases hEntry with hSame | ⟨hBefore, hNe⟩
      · exact .inr (.inl hSame)
      · rcases ih hBefore with hBase | hThere
        · exact .inl hBase
        · exact .inr (.inr ⟨hThere, hNe⟩)

theorem lookup_assign_self
    (members : List (String × JsValue))
    (name : String)
    (value : JsValue) :
    (assign members (name, value)).lookup name =
      some value := by
  unfold assign
  split
  · rename_i hKey
    induction members with
    | nil => cases hKey
    | cons old members ih =>
        rw [List.map_cons]
        by_cases hSame : old.1 = name
        · rw [if_pos hSame, List.lookup_cons]
          simp
        · rw [if_neg hSame, List.lookup_cons,
            beq_eq_false_iff_ne.mpr (Ne.symm hSame)]
          refine ih ?_
          rw [List.map_cons, List.mem_cons] at hKey
          exact hKey.resolve_left (Ne.symm hSame)
  · rename_i hKey
    rw [List.lookup_append]
    have hNone : members.lookup name = none := by
      rw [List.lookup_eq_none_iff]
      intro entry hEntry
      have hNe : name ≠ entry.1 := by
        intro hSame
        exact hKey (List.mem_map.mpr
          ⟨entry, hEntry, hSame.symm⟩)
      simpa using hNe
    rw [hNone, List.lookup_cons]
    simp

theorem lookup_assign_of_ne
    {members : List (String × JsValue)}
    {member : String × JsValue}
    {name : String}
    (hNe : name ≠ member.1) :
    (assign members member).lookup name =
      members.lookup name := by
  unfold assign
  split
  · rename_i hKey
    clear hKey
    induction members with
    | nil => rfl
    | cons old members ih =>
        rw [List.map_cons, List.lookup_cons]
        by_cases hSame : old.1 = member.1
        · rw [if_pos hSame, List.lookup_cons,
            beq_eq_false_iff_ne.mpr hNe,
            beq_eq_false_iff_ne.mpr (hSame ▸ hNe)]
          exact ih
        · rw [if_neg hSame, List.lookup_cons, ih]
  · rw [List.lookup_append, List.lookup_cons,
      beq_eq_false_iff_ne.mpr hNe]
    cases members.lookup name <;> rfl

@[simp] theorem field_withMembers_self
    (value : JsValue)
    (name : String)
    (found : JsValue) :
    (value.withMembers [(name, found)]).field name = found := by
  change
    ((assign value.members (name, found)).lookup name).getD
      .undefined = found
  rw [lookup_assign_self]
  rfl

theorem lookup_foldl_assign
    {members : List (String × JsValue)}
    {name : String}
    (hNew : name ∉ members.map Prod.fst)
    (base : List (String × JsValue)) :
    (members.foldl assign base).lookup name =
      base.lookup name := by
  induction members generalizing base with
  | nil => rfl
  | cons member members ih =>
      rw [List.map_cons, List.mem_cons, not_or] at hNew
      rw [List.foldl_cons, ih hNew.2,
        lookup_assign_of_ne hNew.1]

/- Other members than those that are assigned stay. -/
theorem field_withMembers_of_notMem
    {members : List (String × JsValue)}
    {name : String}
    (hName : name ≠ "name")
    (hNew : name ∉ members.map Prod.fst)
    (value : JsValue) :
    (value.withMembers members).field name =
      value.field name := by
  change
    ((members.foldl assign value.members).lookup name).getD
      .undefined = _
  rw [lookup_foldl_assign hNew]
  cases value with
  | function functionName =>
      change _ = if name = "name" then _ else JsValue.undefined
      rw [if_neg hName]
      rfl
  | _ => rfl

------------------------------------------------------------
-- What Has A JSON Text
------------------------------------------------------------

/- An object has a JSON text if every member has one. -/
theorem jsonMembers_eq_ok_iff
    (members : List (String × JsValue)) :
    (∃ data, jsonMembers members = .ok data) ↔
      ∀ entry ∈ members, ∃ data, entry.2.json = .ok data := by
  induction members with
  | nil => simp [jsonMembers]
  | cons entry members ih =>
      rcases entry with ⟨key, value⟩
      rw [List.forall_mem_cons, ← ih, jsonMembers]
      constructor
      · rintro ⟨data, hData⟩
        rcases bind_eq_ok.mp hData with ⟨found, hFound, hData⟩
        rcases bind_eq_ok.mp hData with ⟨rest, hRest, _⟩
        exact ⟨⟨found, hFound⟩, rest, hRest⟩
      · rintro ⟨⟨found, hFound⟩, rest, hRest⟩
        simp only at hFound
        rw [hFound, hRest]
        cases found with
        | none => exact ⟨_, rfl⟩
        | some data => exact ⟨_, rfl⟩

theorem json_object_iff
    (members : List (String × JsValue)) :
    (∃ data, (object members).json = .ok data) ↔
      ∃ data, jsonMembers members = .ok data := by
  unfold json
  constructor
  · rintro ⟨data, hData⟩
    rcases bind_eq_ok.mp hData with ⟨rest, hRest, _⟩
    exact ⟨rest, hRest⟩
  · rintro ⟨rest, hRest⟩
    rw [hRest]
    exact ⟨_, rfl⟩

theorem jsonItems_eq_ok_iff
    (items : List JsValue) :
    (∃ data, jsonItems items = .ok data) ↔
      ∀ item ∈ items, ∃ data, item.json = .ok data := by
  induction items with
  | nil => simp [jsonItems]
  | cons item items ih =>
      rw [List.forall_mem_cons, ← ih, jsonItems]
      constructor
      · rintro ⟨data, hData⟩
        rcases bind_eq_ok.mp hData with ⟨found, hFound, hData⟩
        rcases bind_eq_ok.mp hData with ⟨rest, hRest, _⟩
        exact ⟨⟨found, hFound⟩, rest, hRest⟩
      · rintro ⟨⟨found, hFound⟩, rest, hRest⟩
        rw [hFound, hRest]
        exact ⟨_, rfl⟩

/- The members of a value with a JSON text have one each. -/
theorem json_of_mem_members
    {value data : JsValue}
    {entry : String × JsValue}
    (hJson : value.json = .ok (some data))
    (hEntry : entry ∈ value.members) :
    ∃ found, entry.2.json = .ok found := by
  cases value with
  | object members =>
      exact (jsonMembers_eq_ok_iff members).mp
        ((json_object_iff members).mp ⟨_, hJson⟩) entry hEntry
  | array items =>
      unfold json at hJson
      rcases bind_eq_ok.mp hJson with ⟨rest, hRest, _⟩
      rcases List.mem_map.mp hEntry with ⟨item, hItem, rfl⟩
      exact (jsonItems_eq_ok_iff items).mp ⟨rest, hRest⟩
        item.1 (List.fst_mem_of_mem_zipIdx hItem)
  | text value =>
      rcases List.mem_map.mp hEntry with ⟨c, _, rfl⟩
      exact ⟨_, rfl⟩
  | _ => cases hEntry

/-
  Updates that have a JSON text over one base have one over
  every base with a JSON text.
-/
theorem json_spread
    {value data base updates : JsValue}
    (hValue : value.json = .ok (some data))
    (hBase : ∃ found, (base.spread updates).json = .ok found) :
    ∃ found,
      (value.spread updates).json = .ok (some found) := by
  have hMembers :
      ∃ found,
        jsonMembers (updates.members.foldl assign value.members)
          = .ok found := by
    rw [jsonMembers_eq_ok_iff]
    intro entry hEntry
    rcases mem_foldl_assign value.members base.members
        updates.members entry hEntry with hOld | hNew
    · exact json_of_mem_members hValue hOld
    · exact (jsonMembers_eq_ok_iff _).mp
        ((json_object_iff _).mp hBase) entry hNew
  rcases hMembers with ⟨found, hFound⟩
  refine ⟨.object found, ?_⟩
  unfold spread json
  rw [hFound]
  rfl

end JsValue

end ControlPlane
