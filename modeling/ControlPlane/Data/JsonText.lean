import Mathlib.Data.List.Lex
import Mathlib.Data.List.Sort
import Mathlib.Order.Fin.Basic

/-
  JSON values and their texts, unit by unit.

  Texts and names are sequences of UTF-16 code units, and an
  object lists its members in the order of its properties.
  The numbers are left open: what is needed of them is the
  text that a number is written as and how it is read again.

  Main declarations:
    * `Units` and `JsonTree`
    * `Numerals` and `Numerals.stringify`
    * `Numerals.readTree` and `readTree_stringify`
    * `Numerals.stringify_injective`
-/

------------------------------------------------------------
-- Values
------------------------------------------------------------

namespace ControlPlane

abbrev CodeUnit := Fin 65536

abbrev Units := List CodeUnit

instance neZeroUnits : @NeZero Nat Zero.ofOfNat0 65536 :=
  ⟨by decide⟩

instance lawfulUnits : LawfulBEq Units :=
  inferInstance

/- The code units of a text of ASCII characters. -/
def ascii (text : String) : Units :=
  text.toList.map (fun c => Fin.ofNat 65536 c.toNat)

inductive JsonTree (ν : Type) where
| null
| boolean (value : Bool)
| number (value : ν)
| text (value : Units)
| array (items : List (JsonTree ν))
| object (members : List (Units × JsonTree ν))

namespace JsonTree

variable {ν : Type}

/- Induction over a value, its items and its members. -/
theorem induct
    {P : JsonTree ν → Prop}
    (null : P .null)
    (boolean : ∀ value, P (.boolean value))
    (number : ∀ value, P (.number value))
    (text : ∀ value, P (.text value))
    (array :
      ∀ items, (∀ item ∈ items, P item) → P (.array items))
    (object :
      ∀ members, (∀ member ∈ members, P member.2) →
        P (.object members))
    (v : JsonTree ν) : P v := by
  refine JsonTree.rec (motive_1 := P)
    (motive_2 := fun items => ∀ item ∈ items, P item)
    (motive_3 := fun members =>
      ∀ member ∈ members, P member.2)
    (motive_4 := fun member => P member.2)
    null boolean number text array object ?_ ?_ ?_ ?_ ?_ v
  · intro item hItem
    cases hItem
  · intro item items hItem hItems
    exact List.forall_mem_cons.mpr ⟨hItem, hItems⟩
  · intro member hMember
    cases hMember
  · intro member members hMember hMembers
    exact List.forall_mem_cons.mpr ⟨hMember, hMembers⟩
  · intro name value hValue
    exact hValue

mutual

/- Change the members of every object, from the inside out. -/
def mapObjects
    (f : List (Units × JsonTree ν) → List (Units × JsonTree ν)) :
    JsonTree ν → JsonTree ν
| .array items => .array (mapObjectsItems f items)
| .object members =>
    .object (f (mapObjectsMembers f members))
| value => value

def mapObjectsItems
    (f : List (Units × JsonTree ν) → List (Units × JsonTree ν)) :
    List (JsonTree ν) → List (JsonTree ν)
| [] => []
| item :: items =>
    mapObjects f item :: mapObjectsItems f items

def mapObjectsMembers
    (f : List (Units × JsonTree ν) → List (Units × JsonTree ν)) :
    List (Units × JsonTree ν) → List (Units × JsonTree ν)
| [] => []
| (name, value) :: members =>
    (name, mapObjects f value) :: mapObjectsMembers f members

end

end JsonTree

------------------------------------------------------------
-- Quoting
------------------------------------------------------------

def isHighSurrogate (u : CodeUnit) : Bool :=
  decide (0xD800 ≤ u.val ∧ u.val < 0xDC00)

def isLowSurrogate (u : CodeUnit) : Bool :=
  decide (0xDC00 ≤ u.val ∧ u.val < 0xE000)

/- The digit of a value below sixteen. -/
def hexDigit (n : Nat) : CodeUnit :=
  Fin.ofNat 65536 (if n < 10 then 48 + n else 87 + n)

/- The escapes of one character, by what they stand for. -/
def shortEscape (u : CodeUnit) : Option CodeUnit :=
  if u = 8 then some 98
  else if u = 9 then some 116
  else if u = 10 then some 110
  else if u = 12 then some 102
  else if u = 13 then some 114
  else if u = 34 then some 34
  else if u = 92 then some 92
  else none

/- A unit that does not stand for itself in a text. -/
def escapeUnit (u : CodeUnit) : Units :=
  match shortEscape u with
  | some c => [92, c]
  | none =>
      if u.val < 32 || isHighSurrogate u || isLowSurrogate u then
        [92, 117, hexDigit (u.val / 4096),
          hexDigit (u.val / 256 % 16),
          hexDigit (u.val / 16 % 16), hexDigit (u.val % 16)]
      else [u]

/- A surrogate is escaped unless it belongs to a pair. -/
def quoteUnits : Units → Units
| [] => []
| [u] => escapeUnit u
| u :: v :: rest =>
    if isHighSurrogate u && isLowSurrogate v then
      u :: v :: quoteUnits rest
    else escapeUnit u ++ quoteUnits (v :: rest)

def quote (text : Units) : Units :=
  34 :: quoteUnits text ++ [34]

------------------------------------------------------------
-- Writing
------------------------------------------------------------

/- The units that a number is written with. -/
def isNumeral (u : CodeUnit) : Bool :=
  decide
    (48 ≤ u.val ∧ u.val ≤ 57 ∨ u = 43 ∨ u = 45 ∨ u = 46 ∨
      u = 69 ∨ u = 101)

/- How numbers are written, and read again. -/
structure Numerals (ν : Type) where
  write : ν → Units
  read : Units → Option ν
  nonempty : ∀ n, write n ≠ []
  numeral : ∀ n, ∀ u ∈ write n, isNumeral u = true
  read_write : ∀ n, read (write n) = some n

/- The parts with a comma between each and the next. -/
def separated : List Units → Units
| [] => []
| [part] => part
| part :: next :: rest => part ++ 44 :: separated (next :: rest)

namespace Numerals

variable {ν : Type}

mutual

/- The text of a value without white space. -/
def stringify (N : Numerals ν) : JsonTree ν → Units
| .null => ascii "null"
| .boolean true => ascii "true"
| .boolean false => ascii "false"
| .number value => N.write value
| .text value => quote value
| .array items => 91 :: separated (stringifyItems N items) ++ [93]
| .object members =>
    123 :: separated (stringifyMembers N members) ++ [125]

def stringifyItems
    (N : Numerals ν) : List (JsonTree ν) → List Units
| [] => []
| item :: items => stringify N item :: stringifyItems N items

def stringifyMembers
    (N : Numerals ν) : List (Units × JsonTree ν) → List Units
| [] => []
| (name, value) :: members =>
    (quote name ++ 58 :: stringify N value) ::
      stringifyMembers N members

end

end Numerals

------------------------------------------------------------
-- Reading
------------------------------------------------------------

def readHex (u : CodeUnit) : Option Nat :=
  if 48 ≤ u.val ∧ u.val ≤ 57 then some (u.val - 48)
  else if 97 ≤ u.val ∧ u.val ≤ 102 then some (u.val - 87)
  else if 65 ≤ u.val ∧ u.val ≤ 70 then some (u.val - 55)
  else none

def readShort (c : CodeUnit) : Option CodeUnit :=
  if c = 98 then some 8
  else if c = 116 then some 9
  else if c = 110 then some 10
  else if c = 102 then some 12
  else if c = 114 then some 13
  else if c = 34 then some 34
  else if c = 92 then some 92
  else if c = 47 then some 47
  else none

/- The unit of four digits. -/
def readCode (a b c d : CodeUnit) : Option CodeUnit := do
  let a ← readHex a
  let b ← readHex b
  let c ← readHex c
  let d ← readHex d
  return Fin.ofNat 65536 (a * 4096 + b * 256 + c * 16 + d)

/- One unit before what has been read after it. -/
def consRead
    (u : CodeUnit)
    (read : Option (Units × Units)) : Option (Units × Units) :=
  read.map (fun found => (u :: found.1, found.2))

/- A text from after its opening quote, and what follows it. -/
def readUnits : Units → Option (Units × Units)
| [] => none
| u :: rest =>
    if u = 34 then some ([], rest)
    else if u = 92 then
      match rest with
      | 117 :: a :: b :: c :: d :: rest =>
          (readCode a b c d).bind
            (fun code => consRead code (readUnits rest))
      | c :: rest =>
          (readShort c).bind
            (fun code => consRead code (readUnits rest))
      | [] => none
    else if u.val < 32 then none
    else consRead u (readUnits rest)

def isSpace (u : CodeUnit) : Bool :=
  decide (u = 32 ∨ u = 9 ∨ u = 10 ∨ u = 13)

def skipSpace (text : Units) : Units :=
  text.dropWhile isSpace

/- What follows a unit that comes after white space. -/
def expect (u : CodeUnit) (text : Units) : Option Units :=
  match skipSpace text with
  | [] => none
  | v :: rest => if v = u then some rest else none

/- A name with its colon, and what follows them. -/
def readName (text : Units) : Option (Units × Units) :=
  ((expect 34 text).bind readUnits).bind (fun name =>
    (expect 58 name.2).map (fun rest => (name.1, rest)))

/- What follows a word that the text begins with. -/
def strip : Units → Units → Option Units
| [], text => some text
| _ :: _, [] => none
| u :: word, v :: text => if u = v then strip word text else none

namespace Numerals

variable {ν : Type}

def readNumber
    (N : Numerals ν)
    (text : Units) : Option (JsonTree ν × Units) :=
  (N.read (text.takeWhile isNumeral)).map
    (fun value => (.number value, text.dropWhile isNumeral))

/- A value that is neither a text nor a list of values. -/
def readScalar
    (N : Numerals ν)
    (text : Units) : Option (JsonTree ν × Units) :=
  ((strip (ascii "null") text).map (fun rest => (.null, rest))).or
    (((strip (ascii "true") text).map
        (fun rest => (.boolean true, rest))).or
      (((strip (ascii "false") text).map
          (fun rest => (.boolean false, rest))).or
        (N.readNumber text)))

mutual

/- A value at the start of a text, and what follows it. -/
def readTree
    (N : Numerals ν) :
    Nat → Units → Option (JsonTree ν × Units)
| 0, _ => none
| fuel + 1, text =>
    match expect 34 text, expect 91 text, expect 123 text with
    | some rest, _, _ =>
        (readUnits rest).map
          (fun found => (.text found.1, found.2))
    | none, some rest, _ =>
        match expect 93 rest with
        | some rest => some (.array [], rest)
        | none =>
            (readItems N fuel rest).map
              (fun found => (.array found.1, found.2))
    | none, none, some rest =>
        match expect 125 rest with
        | some rest => some (.object [], rest)
        | none =>
            (readMembers N fuel rest).map
              (fun found => (.object found.1, found.2))
    | none, none, none => readScalar N (skipSpace text)

/- The items of an array, up to its closing bracket. -/
def readItems
    (N : Numerals ν) :
    Nat → Units → Option (List (JsonTree ν) × Units)
| 0, _ => none
| fuel + 1, text =>
    (readTree N fuel text).bind (fun item =>
      match expect 44 item.2, expect 93 item.2 with
      | some rest, _ =>
          (readItems N fuel rest).map
            (fun found => (item.1 :: found.1, found.2))
      | none, some rest => some ([item.1], rest)
      | none, none => none)

/- The members of an object, up to its closing brace. -/
def readMembers
    (N : Numerals ν) :
    Nat → Units → Option (List (Units × JsonTree ν) × Units)
| 0, _ => none
| fuel + 1, text =>
    (readName text).bind (fun name =>
      (readTree N fuel name.2).bind (fun value =>
        match expect 44 value.2, expect 125 value.2 with
        | some rest, _ =>
            (readMembers N fuel rest).map
              (fun found =>
                ((name.1, value.1) :: found.1, found.2))
        | none, some rest => some ([(name.1, value.1)], rest)
        | none, none => none))

end

/- The value of a text that holds nothing else. -/
def readText
    (N : Numerals ν)
    (text : Units) : Option (JsonTree ν) :=
  (readTree N (2 * text.length + 1) text).bind
    (fun found =>
      if skipSpace found.2 = [] then some found.1 else none)

end Numerals

------------------------------------------------------------
-- Texts Are Read As They Were Quoted
------------------------------------------------------------

theorem readHex_hexDigit
    {n : Nat}
    (hDigit : n < 16) :
    readHex (hexDigit n) = some n := by
  have hAll :
      ∀ n : Fin 16, readHex (hexDigit n) = some n.val := by
    decide
  exact hAll ⟨n, hDigit⟩

theorem readCode_hexDigits
    (u : CodeUnit) :
    readCode (hexDigit (u.val / 4096))
        (hexDigit (u.val / 256 % 16))
        (hexDigit (u.val / 16 % 16)) (hexDigit (u.val % 16)) =
      some u := by
  have hBound := u.isLt
  have hValue :
      u.val / 4096 * 4096 + u.val / 256 % 16 * 256 +
          u.val / 16 % 16 * 16 + u.val % 16 = u.val := by
    omega
  unfold readCode
  rw [readHex_hexDigit (by omega), readHex_hexDigit (by omega),
    readHex_hexDigit (by omega), readHex_hexDigit (by omega)]
  change some (Fin.ofNat 65536 _) = some u
  rw [hValue]
  exact congrArg some (Fin.ofNat_val_eq_self u)

theorem readShort_shortEscape
    {u c : CodeUnit}
    (hEscape : shortEscape u = some c) :
    readShort c = some u ∧ c ≠ 117 := by
  unfold shortEscape at hEscape
  split_ifs at hEscape with h1 h2 h3 h4 h5 h6 h7 <;>
    cases hEscape <;> subst u <;> decide

theorem readUnits_raw
    {u : CodeUnit}
    (hQuote : u ≠ 34)
    (hBackslash : u ≠ 92)
    (hPrintable : ¬ u.val < 32)
    (rest : Units) :
    readUnits (u :: rest) = consRead u (readUnits rest) := by
  rw [readUnits.eq_def]
  dsimp only
  rw [if_neg hQuote, if_neg hBackslash, if_neg hPrintable]

theorem readUnits_surrogate
    {u : CodeUnit}
    (hSurrogate : 0xD800 ≤ u.val)
    (rest : Units) :
    readUnits (u :: rest) = consRead u (readUnits rest) := by
  refine readUnits_raw ?_ ?_ (by omega) rest
  · rintro rfl
    exact absurd hSurrogate (by decide)
  · rintro rfl
    exact absurd hSurrogate (by decide)

theorem readUnits_short
    {c : CodeUnit}
    (hShort : c ≠ 117)
    (rest : Units) :
    readUnits (92 :: c :: rest) =
      (readShort c).bind
        (fun code => consRead code (readUnits rest)) := by
  rw [readUnits.eq_def]
  dsimp only
  rw [if_neg (by decide), if_pos rfl]
  split
  · rename_i hCode
    cases hCode
    exact absurd rfl hShort
  · rename_i hRest
    cases hRest
    rfl
  · rename_i hNil
    cases hNil

theorem readUnits_code
    (a b c d : CodeUnit)
    (rest : Units) :
    readUnits (92 :: 117 :: a :: b :: c :: d :: rest) =
      (readCode a b c d).bind
        (fun code => consRead code (readUnits rest)) := by
  rw [readUnits.eq_def]
  dsimp only
  rw [if_neg (by decide), if_pos rfl]
  rfl

/- An escaped unit is read as itself. -/
theorem readUnits_escapeUnit
    (u : CodeUnit)
    (rest : Units) :
    readUnits (escapeUnit u ++ rest) =
      consRead u (readUnits rest) := by
  unfold escapeUnit
  cases hShort : shortEscape u with
  | some c =>
      rcases readShort_shortEscape hShort with ⟨hRead, hNe⟩
      change readUnits (92 :: c :: rest) = _
      rw [readUnits_short hNe, hRead]
      rfl
  | none =>
      dsimp only
      split
      · rw [List.cons_append, List.cons_append,
          List.cons_append, List.cons_append,
          List.cons_append, List.cons_append,
          List.nil_append, readUnits_code,
          readCode_hexDigits]
        rfl
      · rename_i hPlain
        rw [Bool.or_eq_true, Bool.or_eq_true,
          decide_eq_true_eq, not_or, not_or] at hPlain
        refine readUnits_raw ?_ ?_ hPlain.1.1 rest
        · rintro rfl
          cases hShort
        · rintro rfl
          cases hShort

/- A quoted text is read up to its closing quote. -/
theorem readUnits_quoteUnits
    (text rest : Units) :
    readUnits (quoteUnits text ++ 34 :: rest) =
      some (text, rest) := by
  have hEnd : readUnits (34 :: rest) = some ([], rest) := by
    rw [readUnits.eq_def]
    exact if_pos rfl
  fun_induction quoteUnits text with
  | case1 => exact hEnd
  | case2 u =>
      rw [readUnits_escapeUnit, hEnd]
      rfl
  | case3 u v text hPair ih =>
      rw [Bool.and_eq_true] at hPair
      rcases hPair with ⟨hHigh, hLow⟩
      have hFirst := of_decide_eq_true hHigh
      have hSecond := of_decide_eq_true hLow
      rw [List.cons_append, List.cons_append,
        readUnits_surrogate hFirst.1,
        readUnits_surrogate (by omega), ih]
      rfl
  | case4 u v text hPair ih =>
      rw [List.append_assoc, readUnits_escapeUnit, ih]
      rfl

------------------------------------------------------------
-- Values Are Read As They Were Written
------------------------------------------------------------

theorem skipSpace_cons
    {u : CodeUnit}
    (hSolid : isSpace u = false)
    (rest : Units) :
    skipSpace (u :: rest) = u :: rest :=
  List.dropWhile_cons_of_neg (by simp [hSolid])

theorem expect_self
    {u : CodeUnit}
    (hSolid : isSpace u = false)
    (rest : Units) :
    expect u (u :: rest) = some rest := by
  unfold expect
  rw [skipSpace_cons hSolid]
  exact if_pos rfl

theorem expect_of_ne
    {u v : CodeUnit}
    (hSolid : isSpace v = false)
    (hNe : v ≠ u)
    (rest : Units) :
    expect u (v :: rest) = none := by
  unfold expect
  rw [skipSpace_cons hSolid]
  exact if_neg hNe

/- What stands here does not continue a number. -/
def Delimited (rest : Units) : Prop :=
  ∀ u ∈ rest.head?, isNumeral u = false

theorem strip_append
    (word rest : Units) :
    strip word (word ++ rest) = some rest := by
  induction word with
  | nil => rfl
  | cons u word ih =>
      rw [List.cons_append, strip, if_pos rfl]
      exact ih

theorem strip_of_ne
    {u v : CodeUnit}
    {word text : Units}
    (hNe : u ≠ v) :
    strip (u :: word) (v :: text) = none := by
  rw [strip, if_neg hNe]

namespace JsonTree

variable {ν : Type}

mutual

/- The turns that the reader takes for a value. -/
def cost : JsonTree ν → Nat
| .array items => 1 + costItems items
| .object members => 1 + costMembers members
| _ => 1

def costItems : List (JsonTree ν) → Nat
| [] => 0
| item :: items => 1 + cost item + costItems items

def costMembers : List (Units × JsonTree ν) → Nat
| [] => 0
| (_, value) :: members => 1 + cost value + costMembers members

end

end JsonTree

namespace Numerals

variable {ν : Type} {N : Numerals ν}

theorem numeral_ne
    {u v : CodeUnit}
    (hNumeral : isNumeral u = true)
    (hOther : isNumeral v = false) :
    u ≠ v := by
  rintro rfl
  rw [hNumeral] at hOther
  cases hOther

/- The text of a number begins with a unit of a number. -/
theorem write_head
    (N : Numerals ν)
    (n : ν) :
    ∃ u text, N.write n = u :: text ∧ isNumeral u = true := by
  cases hText : N.write n with
  | nil => exact absurd hText (N.nonempty n)
  | cons u text =>
      refine ⟨u, text, rfl, N.numeral n u ?_⟩
      rw [hText]
      exact List.mem_cons_self

theorem readNumber_write
    {rest : Units}
    (hRest : Delimited rest)
    (n : ν) :
    N.readNumber (N.write n ++ rest) =
      some (.number n, rest) := by
  have hEnd : rest.takeWhile isNumeral = [] := by
    cases rest with
    | nil => rfl
    | cons u rest =>
        exact List.takeWhile_cons_of_neg
          (by simp [hRest u rfl])
  have hTake :
      (N.write n ++ rest).takeWhile isNumeral =
        N.write n := by
    rw [List.takeWhile_append_of_pos (N.numeral n), hEnd,
      List.append_nil]
  have hDrop :
      (N.write n ++ rest).dropWhile isNumeral = rest := by
    have hSplit :=
      List.takeWhile_append_dropWhile
        (p := isNumeral) (l := N.write n ++ rest)
    rw [hTake] at hSplit
    exact List.append_cancel_left hSplit
  unfold readNumber
  rw [hTake, hDrop, N.read_write]
  rfl

/- A value that begins like no text and no list. -/
theorem readTree_scalar
    {u : CodeUnit}
    {text : Units}
    (hSolid : isSpace u = false)
    (hText : u ≠ 34)
    (hArray : u ≠ 91)
    (hObject : u ≠ 123)
    (fuel : Nat) :
    N.readTree (fuel + 1) (u :: text) =
      N.readScalar (u :: text) := by
  rw [readTree, expect_of_ne hSolid hText,
    expect_of_ne hSolid hArray, expect_of_ne hSolid hObject,
    skipSpace_cons hSolid]

theorem readTree_number
    {rest : Units}
    (hRest : Delimited rest)
    (n : ν)
    (fuel : Nat) :
    N.readTree (fuel + 1) (N.write n ++ rest) =
      some (.number n, rest) := by
  rcases N.write_head n with ⟨u, text, hText, hNumeral⟩
  have hRead := readNumber_write (N := N) hRest n
  rw [hText, List.cons_append] at hRead ⊢
  have hSolid : isSpace u = false := by
    refine decide_eq_false ?_
    rintro (rfl | rfl | rfl | rfl) <;> cases hNumeral
  rw [readTree_scalar hSolid
    (numeral_ne hNumeral (by decide))
    (numeral_ne hNumeral (by decide))
    (numeral_ne hNumeral (by decide))]
  unfold readScalar
  rw [hRead]
  change
    ((strip (110 :: _) (u :: _)).map _).or
      (((strip (116 :: _) (u :: _)).map _).or
        (((strip (102 :: _) (u :: _)).map _).or _)) = _
  rw [strip_of_ne (numeral_ne hNumeral (by decide)).symm,
    strip_of_ne (numeral_ne hNumeral (by decide)).symm,
    strip_of_ne (numeral_ne hNumeral (by decide)).symm]
  rfl

theorem readTree_null
    (rest : Units)
    (fuel : Nat) :
    N.readTree (fuel + 1) (ascii "null" ++ rest) =
      some (.null, rest) := by
  change N.readTree (fuel + 1) (110 :: _) = _
  rw [readTree_scalar (by decide) (by decide) (by decide)
    (by decide)]
  rfl

theorem readTree_boolean
    (value : Bool)
    (rest : Units)
    (fuel : Nat) :
    N.readTree (fuel + 1)
        (N.stringify (.boolean value) ++ rest) =
      some (.boolean value, rest) := by
  cases value with
  | true =>
      change N.readTree (fuel + 1) (116 :: _) = _
      rw [readTree_scalar (by decide) (by decide)
        (by decide) (by decide)]
      rfl
  | false =>
      change N.readTree (fuel + 1) (102 :: _) = _
      rw [readTree_scalar (by decide) (by decide)
        (by decide) (by decide)]
      rfl

theorem quote_append
    (text rest : Units) :
    quote text ++ rest =
      34 :: (quoteUnits text ++ 34 :: rest) := by
  unfold quote
  rw [List.append_assoc, List.cons_append]
  rfl

theorem readTree_text
    (text rest : Units)
    (fuel : Nat) :
    N.readTree (fuel + 1) (quote text ++ rest) =
      some (.text text, rest) := by
  rw [quote_append, readTree, expect_self (by decide),
    expect_of_ne (by decide) (by decide),
    expect_of_ne (by decide) (by decide)]
  dsimp only
  rw [readUnits_quoteUnits]
  rfl

theorem readTree_array
    {text : Units}
    (hOpen : expect 93 text = none)
    (fuel : Nat) :
    N.readTree (fuel + 1) (91 :: text) =
      (N.readItems fuel text).map
        (fun found => (.array found.1, found.2)) := by
  rw [readTree, expect_self (by decide),
    expect_of_ne (by decide) (by decide)]
  dsimp only
  rw [hOpen]

theorem readTree_object
    {text : Units}
    (hOpen : expect 125 text = none)
    (fuel : Nat) :
    N.readTree (fuel + 1) (123 :: text) =
      (N.readMembers fuel text).map
        (fun found => (.object found.1, found.2)) := by
  rw [readTree, expect_self (by decide),
    expect_of_ne (by decide) (by decide),
    expect_of_ne (by decide) (by decide)]
  dsimp only
  rw [hOpen]

theorem readName_quote
    (name rest : Units) :
    readName (quote name ++ 58 :: rest) =
      some (name, rest) := by
  unfold readName
  rw [quote_append, expect_self (by decide), Option.bind_some,
    readUnits_quoteUnits, Option.bind_some,
    expect_self (by decide)]
  rfl

/- The text of a value does not begin like its end. -/
theorem stringify_head
    (v : JsonTree ν) :
    ∃ u text, N.stringify v = u :: text ∧
      isSpace u = false ∧ u ≠ 93 := by
  cases v with
  | null => exact ⟨_, _, rfl, by decide, by decide⟩
  | boolean value =>
      cases value with
      | true => exact ⟨_, _, rfl, by decide, by decide⟩
      | false => exact ⟨_, _, rfl, by decide, by decide⟩
  | number value =>
      rcases N.write_head value with ⟨u, text, hText, hNumeral⟩
      refine ⟨u, text, hText, ?_,
        numeral_ne hNumeral (by decide)⟩
      refine decide_eq_false ?_
      rintro (rfl | rfl | rfl | rfl) <;> cases hNumeral
  | text value => exact ⟨_, _, rfl, by decide, by decide⟩
  | array items => exact ⟨_, _, rfl, by decide, by decide⟩
  | object members => exact ⟨_, _, rfl, by decide, by decide⟩

/- The reader gives back the value and what follows it. -/
def Reads
    (N : Numerals ν)
    (v : JsonTree ν) : Prop :=
  ∀ fuel rest, v.cost ≤ fuel → Delimited rest →
    N.readTree fuel (N.stringify v ++ rest) = some (v, rest)

theorem delimited_cons
    {u : CodeUnit}
    (hOther : isNumeral u = false)
    (rest : Units) : Delimited (u :: rest) := by
  intro v hHead
  cases hHead
  exact hOther

theorem separated_cons
    (part next : Units)
    (parts : List Units) :
    separated (part :: next :: parts) =
      part ++ 44 :: separated (next :: parts) := rfl

theorem readItems_separated
    {items : List (JsonTree ν)}
    (hReads : ∀ item ∈ items, N.Reads item)
    (hSome : items ≠ [])
    {fuel : Nat}
    (hFuel : JsonTree.costItems items ≤ fuel)
    (rest : Units) :
    N.readItems fuel
        (separated (N.stringifyItems items) ++ 93 :: rest) =
      some (items, rest) := by
  induction items generalizing fuel with
  | nil => exact absurd rfl hSome
  | cons item items ih =>
      rw [List.forall_mem_cons] at hReads
      unfold JsonTree.costItems at hFuel
      cases fuel with
      | zero => omega
      | succ fuel =>
          have hItem : item.cost ≤ fuel := by omega
          cases items with
          | nil =>
              change N.readItems (fuel + 1)
                (N.stringify item ++ 93 :: rest) = _
              rw [readItems, hReads.1 fuel _ hItem
                (delimited_cons (by decide) rest)]
              rfl
          | cons next items =>
              have hLater :
                  JsonTree.costItems (next :: items) ≤ fuel := by
                omega
              have hRest :=
                ih hReads.2 (List.cons_ne_nil _ _) hLater
              unfold stringifyItems at hRest ⊢
              unfold stringifyItems
              rw [separated_cons, List.append_assoc,
                List.cons_append, readItems,
                hReads.1 fuel _ hItem
                  (delimited_cons (by decide) _),
                Option.bind_some, expect_self (by decide)]
              dsimp only
              rw [hRest]
              rfl

theorem readMembers_separated
    {members : List (Units × JsonTree ν)}
    (hReads : ∀ member ∈ members, N.Reads member.2)
    (hSome : members ≠ [])
    {fuel : Nat}
    (hFuel : JsonTree.costMembers members ≤ fuel)
    (rest : Units) :
    N.readMembers fuel
        (separated (N.stringifyMembers members) ++
          125 :: rest) =
      some (members, rest) := by
  induction members generalizing fuel with
  | nil => exact absurd rfl hSome
  | cons member members ih =>
      rcases member with ⟨name, value⟩
      rw [List.forall_mem_cons] at hReads
      unfold JsonTree.costMembers at hFuel
      cases fuel with
      | zero => omega
      | succ fuel =>
          have hValue : value.cost ≤ fuel := by omega
          cases members with
          | nil =>
              change N.readMembers (fuel + 1)
                ((quote name ++ 58 :: N.stringify value) ++
                  125 :: rest) = _
              rw [List.append_assoc, List.cons_append,
                readMembers, readName_quote, Option.bind_some,
                hReads.1 fuel _ hValue
                  (delimited_cons (by decide) rest)]
              rfl
          | cons next members =>
              have hLater :
                  JsonTree.costMembers (next :: members) ≤
                    fuel := by
                omega
              have hRest :=
                ih hReads.2 (List.cons_ne_nil _ _) hLater
              unfold stringifyMembers at hRest ⊢
              unfold stringifyMembers
              rw [separated_cons, List.append_assoc,
                List.append_assoc, List.cons_append,
                List.cons_append, readMembers, readName_quote,
                Option.bind_some,
                hReads.1 fuel _ hValue
                  (delimited_cons (by decide) _),
                Option.bind_some, expect_self (by decide)]
              dsimp only
              rw [hRest]
              rfl

/- The first part comes first. -/
theorem separated_head
    {part : Units}
    {u : CodeUnit}
    {text : Units}
    (hPart : part = u :: text)
    (parts : List Units) :
    ∃ rest, separated (part :: parts) = u :: rest := by
  cases parts with
  | nil => exact ⟨text, hPart⟩
  | cons next parts =>
      rw [separated_cons, hPart]
      exact ⟨_, rfl⟩

theorem reads_array
    {items : List (JsonTree ν)}
    (hReads : ∀ item ∈ items, N.Reads item) :
    N.Reads (.array items) := by
  intro fuel rest hFuel _
  unfold JsonTree.cost at hFuel
  cases fuel with
  | zero => omega
  | succ fuel =>
      cases items with
      | nil =>
          change N.readTree (fuel + 1) (91 :: 93 :: rest) = _
          rw [readTree, expect_self (by decide),
            expect_of_ne (by decide) (by decide)]
          dsimp only
          rw [expect_self (by decide)]
      | cons item items =>
          rcases stringify_head (N := N) item with
            ⟨u, text, hText, hSolid, hOpen⟩
          have hItems :=
            readItems_separated hReads (List.cons_ne_nil _ _)
              (by omega : _ ≤ fuel) rest
          unfold stringifyItems at hItems
          unfold stringify stringifyItems
          rcases separated_head hText (N.stringifyItems items)
            with ⟨later, hLater⟩
          rw [hLater, List.cons_append] at hItems
          rw [hLater, List.cons_append, List.cons_append,
            List.append_assoc, List.singleton_append,
            List.cons_append,
            readTree_array (expect_of_ne hSolid hOpen _),
            hItems]
          rfl

theorem reads_object
    {members : List (Units × JsonTree ν)}
    (hReads : ∀ member ∈ members, N.Reads member.2) :
    N.Reads (.object members) := by
  intro fuel rest hFuel _
  unfold JsonTree.cost at hFuel
  cases fuel with
  | zero => omega
  | succ fuel =>
      cases members with
      | nil =>
          change N.readTree (fuel + 1) (123 :: 125 :: rest) = _
          rw [readTree, expect_self (by decide),
            expect_of_ne (by decide) (by decide),
            expect_of_ne (by decide) (by decide)]
          dsimp only
          rw [expect_self (by decide)]
      | cons member members =>
          rcases member with ⟨name, value⟩
          have hMembers :=
            readMembers_separated hReads (List.cons_ne_nil _ _)
              (by omega : _ ≤ fuel) rest
          unfold stringifyMembers at hMembers
          unfold stringify stringifyMembers
          rcases separated_head
              (quote_append name (58 :: N.stringify value))
              (N.stringifyMembers members) with
            ⟨later, hLater⟩
          rw [hLater, List.cons_append] at hMembers
          rw [hLater, List.cons_append, List.cons_append,
            List.append_assoc, List.singleton_append,
            List.cons_append, readTree_object
              (expect_of_ne (by decide) (by decide) _),
            hMembers]
          rfl

/- What has been written is read as it was. -/
theorem readTree_stringify
    (N : Numerals ν)
    (v : JsonTree ν) : N.Reads v := by
  induction v using JsonTree.induct with
  | null =>
      intro fuel rest hFuel _
      cases fuel with
      | zero => cases hFuel
      | succ fuel => exact readTree_null rest fuel
  | boolean value =>
      intro fuel rest hFuel _
      cases fuel with
      | zero => cases hFuel
      | succ fuel => exact readTree_boolean value rest fuel
  | number value =>
      intro fuel rest hFuel hRest
      cases fuel with
      | zero => cases hFuel
      | succ fuel => exact readTree_number hRest value fuel
  | text value =>
      intro fuel rest hFuel _
      cases fuel with
      | zero => cases hFuel
      | succ fuel => exact readTree_text value rest fuel
  | array items ih => exact reads_array ih
  | object members ih => exact reads_object ih

------------------------------------------------------------
-- A Text Has One Value
------------------------------------------------------------

theorem costItems_le_length
    {items : List (JsonTree ν)}
    (hCost :
      ∀ item ∈ items,
        item.cost ≤ 2 * (N.stringify item).length) :
    JsonTree.costItems items ≤
      2 * (separated (N.stringifyItems items)).length + 1 := by
  induction items with
  | nil => exact Nat.zero_le _
  | cons item items ih =>
      rw [List.forall_mem_cons] at hCost
      have hItem := hCost.1
      have hRest := ih hCost.2
      unfold JsonTree.costItems
      cases items with
      | nil =>
          change 1 + item.cost + 0 ≤
            2 * (N.stringify item).length + 1
          omega
      | cons next items =>
          unfold stringifyItems at hRest ⊢
          unfold stringifyItems
          rw [separated_cons, List.length_append,
            List.length_cons]
          omega

theorem costMembers_le_length
    {members : List (Units × JsonTree ν)}
    (hCost :
      ∀ member ∈ members,
        member.2.cost ≤ 2 * (N.stringify member.2).length) :
    JsonTree.costMembers members ≤
      2 * (separated (N.stringifyMembers members)).length +
        1 := by
  induction members with
  | nil => exact Nat.zero_le _
  | cons member members ih =>
      rcases member with ⟨name, value⟩
      rw [List.forall_mem_cons] at hCost
      have hValue := hCost.1
      have hRest := ih hCost.2
      dsimp only at hValue
      unfold JsonTree.costMembers
      cases members with
      | nil =>
          change 1 + value.cost + 0 ≤
            2 * (quote name ++
              58 :: N.stringify value).length + 1
          rw [List.length_append, List.length_cons]
          omega
      | cons next members =>
          unfold stringifyMembers at hRest ⊢
          unfold stringifyMembers
          rw [separated_cons, List.length_append,
            List.length_append, List.length_cons,
            List.length_cons]
          omega

/- Every turn of the reader is paid by the text. -/
theorem cost_le_length
    (N : Numerals ν)
    (v : JsonTree ν) :
    v.cost ≤ 2 * (N.stringify v).length := by
  induction v using JsonTree.induct with
  | null =>
      change 1 ≤ 2 * (ascii "null").length
      decide
  | boolean value =>
      cases value with
      | true =>
          change 1 ≤ 2 * (ascii "true").length
          decide
      | false =>
          change 1 ≤ 2 * (ascii "false").length
          decide
  | number value =>
      have hLength :=
        List.length_pos_iff.mpr (N.nonempty value)
      change 1 ≤ 2 * (N.write value).length
      omega
  | text value =>
      change 1 ≤ 2 * (34 :: (quoteUnits value ++ [34])).length
      rw [List.length_cons]
      omega
  | array items ih =>
      have hItems := costItems_le_length ih
      unfold JsonTree.cost stringify
      rw [List.cons_append, List.length_cons,
        List.length_append, List.length_singleton]
      omega
  | object members ih =>
      have hMembers := costMembers_le_length ih
      unfold JsonTree.cost stringify
      rw [List.cons_append, List.length_cons,
        List.length_append, List.length_singleton]
      omega

theorem readText_stringify
    (N : Numerals ν)
    (v : JsonTree ν) :
    N.readText (N.stringify v) = some v := by
  have hRead :=
    N.readTree_stringify v (2 * (N.stringify v).length + 1) []
      (Nat.le_succ_of_le (N.cost_le_length v))
      (by intro u hHead; cases hHead)
  rw [List.append_nil] at hRead
  unfold readText
  rw [hRead]
  rfl

theorem stringify_injective
    (N : Numerals ν) :
    Function.Injective N.stringify := by
  intro v w hSame
  have hRead := N.readText_stringify v
  rw [hSame, N.readText_stringify] at hRead
  exact (Option.some.inj hRead).symm

end Numerals

end ControlPlane
