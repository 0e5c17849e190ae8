import ControlPlane.Data.JsonText

/-
  The bytes of a text of UTF-16 code units.

  A surrogate pair is one character, and a surrogate without
  its other half is replaced. A JSON text escapes the halves
  that stand alone, so no two JSON texts have the same bytes.

  Main declarations:
    * `characters` and `utf8`
    * `characters_units`
    * `Numerals.wellFormed_stringify`
    * `Numerals.utf8_stringify_injective`
-/

------------------------------------------------------------
-- Characters
------------------------------------------------------------

namespace ControlPlane

def isSurrogate (u : CodeUnit) : Bool :=
  isHighSurrogate u || isLowSurrogate u

def isPair (u v : CodeUnit) : Bool :=
  isHighSurrogate u && isLowSurrogate v

/- The character of a unit that stands alone. -/
def loneCharacter (u : CodeUnit) : Char :=
  if isSurrogate u then Char.ofNat 0xFFFD else Char.ofNat u.val

def pairCharacter (u v : CodeUnit) : Char :=
  Char.ofNat
    (0x10000 + (u.val - 0xD800) * 0x400 + (v.val - 0xDC00))

def characters : Units → List Char
| [] => []
| [u] => [loneCharacter u]
| u :: v :: rest =>
    if isPair u v then pairCharacter u v :: characters rest
    else loneCharacter u :: characters (v :: rest)

def utf8 (text : Units) : ByteArray :=
  (String.ofList (characters text)).toUTF8

/- Every surrogate belongs to a pair. -/
def wellFormed : Units → Bool
| [] => true
| [u] => !isSurrogate u
| u :: v :: rest =>
    if isPair u v then wellFormed rest
    else !isSurrogate u && wellFormed (v :: rest)

------------------------------------------------------------
-- Units Again
------------------------------------------------------------

def unitsOf (c : Char) : Units :=
  if c.toNat < 0x10000 then [Fin.ofNat 65536 c.toNat]
  else
    [Fin.ofNat 65536 (0xD800 + (c.toNat - 0x10000) / 0x400),
      Fin.ofNat 65536 (0xDC00 + (c.toNat - 0x10000) % 0x400)]

theorem toNat_ofNat
    {n : Nat}
    (hValid : n < 0xD800 ∨ 0xDFFF < n ∧ n < 0x110000) :
    (Char.ofNat n).toNat = n := by
  have hScalar : n.isValidChar := hValid
  unfold Char.ofNat
  rw [dif_pos hScalar]
  rfl

theorem ofNat_eq
    {u : CodeUnit}
    {n : Nat}
    (hValue : n = u.val) : Fin.ofNat 65536 n = u := by
  rw [hValue]
  exact Fin.ofNat_val_eq_self u

theorem unitsOf_loneCharacter
    {u : CodeUnit}
    (hAlone : isSurrogate u = false) :
    unitsOf (loneCharacter u) = [u] := by
  have hBound := u.isLt
  have hRange := hAlone
  unfold isSurrogate isHighSurrogate isLowSurrogate at hRange
  rw [Bool.or_eq_false_iff, decide_eq_false_iff_not,
    decide_eq_false_iff_not] at hRange
  have hNat : (loneCharacter u).toNat = u.val := by
    unfold loneCharacter
    rw [hAlone]
    exact toNat_ofNat (by omega)
  unfold unitsOf
  rw [hNat, if_pos hBound, Fin.ofNat_val_eq_self]

theorem unitsOf_pairCharacter
    {u v : CodeUnit}
    (hPair : isPair u v = true) :
    unitsOf (pairCharacter u v) = [u, v] := by
  unfold isPair isHighSurrogate isLowSurrogate at hPair
  rw [Bool.and_eq_true, decide_eq_true_eq,
    decide_eq_true_eq] at hPair
  have hNat :
      (pairCharacter u v).toNat =
        0x10000 + (u.val - 0xD800) * 0x400 +
          (v.val - 0xDC00) :=
    toNat_ofNat (by omega)
  unfold unitsOf
  rw [hNat, if_neg (by omega), ofNat_eq (u := u) (by omega),
    ofNat_eq (u := v) (by omega)]

/- A well-formed text is read off its characters. -/
theorem characters_units
    {text : Units}
    (hWell : wellFormed text = true) :
    (characters text).flatMap unitsOf = text := by
  induction text using wellFormed.induct with
  | case1 => rfl
  | case2 u =>
      unfold wellFormed at hWell
      rw [Bool.not_eq_true'] at hWell
      change unitsOf (loneCharacter u) ++ [] = [u]
      rw [unitsOf_loneCharacter hWell]
      rfl
  | case3 u v rest hPair ih =>
      unfold wellFormed at hWell
      rw [if_pos hPair] at hWell
      unfold characters
      rw [if_pos hPair, List.flatMap_cons,
        unitsOf_pairCharacter hPair, ih hWell]
      rfl
  | case4 u v rest hPair ih =>
      unfold wellFormed at hWell
      rw [if_neg hPair, Bool.and_eq_true,
        Bool.not_eq_true'] at hWell
      unfold characters
      rw [if_neg hPair, List.flatMap_cons,
        unitsOf_loneCharacter hWell.1, ih hWell.2]
      rfl

theorem utf8_inj
    {first second : Units}
    (hFirst : wellFormed first = true)
    (hSecond : wellFormed second = true)
    (hSame : utf8 first = utf8 second) : first = second := by
  have hStrings := String.toByteArray_inj.mp hSame
  have hCharacters := String.ofList_injective hStrings
  rw [← characters_units hFirst, hCharacters,
    characters_units hSecond]

------------------------------------------------------------
-- Well-formed Texts
------------------------------------------------------------

theorem isPair_of_not_surrogate
    {u : CodeUnit}
    (hAlone : isSurrogate u = false)
    (v : CodeUnit) : isPair u v = false := by
  unfold isSurrogate at hAlone
  rw [Bool.or_eq_false_iff] at hAlone
  unfold isPair
  rw [hAlone.1]
  rfl

theorem wellFormed_cons
    {u : CodeUnit}
    (hAlone : isSurrogate u = false)
    {text : Units}
    (hWell : wellFormed text = true) :
    wellFormed (u :: text) = true := by
  cases text with
  | nil =>
      unfold wellFormed
      rw [hAlone]
      rfl
  | cons v rest =>
      unfold wellFormed
      rw [isPair_of_not_surrogate hAlone, hAlone, hWell]
      rfl

theorem wellFormed_append
    {first second : Units}
    (hFirst : wellFormed first = true)
    (hSecond : wellFormed second = true) :
    wellFormed (first ++ second) = true := by
  induction first using wellFormed.induct with
  | case1 => exact hSecond
  | case2 u =>
      unfold wellFormed at hFirst
      rw [Bool.not_eq_true'] at hFirst
      exact wellFormed_cons hFirst hSecond
  | case3 u v rest hPair ih =>
      unfold wellFormed at hFirst
      rw [if_pos hPair] at hFirst
      rw [List.cons_append, List.cons_append]
      unfold wellFormed
      rw [if_pos hPair]
      exact ih hFirst
  | case4 u v rest hPair ih =>
      unfold wellFormed at hFirst
      rw [if_neg hPair, Bool.and_eq_true,
        Bool.not_eq_true'] at hFirst
      exact wellFormed_cons hFirst.1 (ih hFirst.2)

theorem wellFormed_of_forall
    {text : Units}
    (hAlone : ∀ u ∈ text, isSurrogate u = false) :
    wellFormed text = true := by
  induction text with
  | nil => rfl
  | cons u text ih =>
      rw [List.forall_mem_cons] at hAlone
      exact wellFormed_cons hAlone.1 (ih hAlone.2)

theorem not_surrogate_hexDigit
    {n : Nat}
    (hDigit : n < 16) : isSurrogate (hexDigit n) = false := by
  have hAll :
      ∀ n : Fin 16, isSurrogate (hexDigit n) = false := by
    decide
  exact hAll ⟨n, hDigit⟩

theorem not_surrogate_shortEscape
    {u c : CodeUnit}
    (hEscape : shortEscape u = some c) :
    isSurrogate c = false := by
  unfold shortEscape at hEscape
  split_ifs at hEscape <;> cases hEscape <;> decide

theorem wellFormed_escapeUnit
    (u : CodeUnit) : wellFormed (escapeUnit u) = true := by
  have hBound := u.isLt
  unfold escapeUnit
  cases hShort : shortEscape u with
  | some c =>
      exact wellFormed_cons (by decide)
        (wellFormed_cons (not_surrogate_shortEscape hShort) rfl)
  | none =>
      dsimp only
      split
      · refine wellFormed_cons (by decide)
          (wellFormed_cons (by decide) ?_)
        exact wellFormed_cons
          (not_surrogate_hexDigit (by omega))
          (wellFormed_cons (not_surrogate_hexDigit (by omega))
            (wellFormed_cons
              (not_surrogate_hexDigit (by omega))
              (wellFormed_cons
                (not_surrogate_hexDigit (by omega)) rfl)))
      · rename_i hPlain
        rw [Bool.or_assoc, Bool.or_eq_true, not_or] at hPlain
        exact wellFormed_cons (eq_false_of_ne_true hPlain.2) rfl

theorem wellFormed_quoteUnits
    (text : Units) : wellFormed (quoteUnits text) = true := by
  induction text using quoteUnits.induct with
  | case1 => rfl
  | case2 u => exact wellFormed_escapeUnit u
  | case3 u v rest hPair ih =>
      have hJoined : isPair u v = true := hPair
      unfold quoteUnits
      rw [if_pos hPair]
      unfold wellFormed
      rw [if_pos hJoined]
      exact ih
  | case4 u v rest hPair ih =>
      unfold quoteUnits
      rw [if_neg hPair]
      exact wellFormed_append (wellFormed_escapeUnit u) ih

theorem wellFormed_quote
    (text : Units) : wellFormed (quote text) = true :=
  wellFormed_cons (by decide)
    (wellFormed_append (wellFormed_quoteUnits text) (by decide))

theorem wellFormed_separated
    {parts : List Units}
    (hParts : ∀ part ∈ parts, wellFormed part = true) :
    wellFormed (separated parts) = true := by
  induction parts using separated.induct with
  | case1 => rfl
  | case2 part => exact hParts part List.mem_cons_self
  | case3 part next rest ih =>
      rw [List.forall_mem_cons] at hParts
      exact wellFormed_append hParts.1
        (wellFormed_cons (by decide) (ih hParts.2))

namespace Numerals

variable {ν : Type}

theorem not_surrogate_numeral
    {u : CodeUnit}
    (hNumeral : isNumeral u = true) :
    isSurrogate u = false := by
  refine eq_false_of_ne_true ?_
  intro hSurrogate
  unfold isNumeral at hNumeral
  unfold isSurrogate isHighSurrogate isLowSurrogate at hSurrogate
  rw [decide_eq_true_eq] at hNumeral
  rw [Bool.or_eq_true, decide_eq_true_eq,
    decide_eq_true_eq] at hSurrogate
  rcases hNumeral with hDigit | rfl | rfl | rfl | rfl | rfl
  · omega
  all_goals
    revert hSurrogate
    decide

theorem wellFormed_stringify
    (N : Numerals ν)
    (v : JsonTree ν) : wellFormed (N.stringify v) = true := by
  induction v using JsonTree.induct with
  | null =>
      change wellFormed (ascii "null") = true
      decide
  | boolean value =>
      cases value with
      | true =>
          change wellFormed (ascii "true") = true
          decide
      | false =>
          change wellFormed (ascii "false") = true
          decide
  | number value =>
      refine wellFormed_of_forall ?_
      intro u hMem
      exact not_surrogate_numeral (N.numeral value u hMem)
  | text value => exact wellFormed_quote value
  | array items ih =>
      refine wellFormed_cons (by decide)
        (wellFormed_append (wellFormed_separated ?_) (by decide))
      intro part hPart
      induction items with
      | nil => cases hPart
      | cons item items ihItems =>
          rw [List.forall_mem_cons] at ih
          rcases List.mem_cons.mp hPart with rfl | hLater
          · exact ih.1
          · exact ihItems ih.2 hLater
  | object members ih =>
      refine wellFormed_cons (by decide)
        (wellFormed_append (wellFormed_separated ?_) (by decide))
      intro part hPart
      induction members with
      | nil => cases hPart
      | cons member members ihMembers =>
          rw [List.forall_mem_cons] at ih
          rcases member with ⟨name, value⟩
          rcases List.mem_cons.mp hPart with rfl | hLater
          · exact wellFormed_append (wellFormed_quote name)
              (wellFormed_cons (by decide) ih.1)
          · exact ihMembers ih.2 hLater

/- Two values have the same bytes only when they are equal. -/
theorem utf8_stringify_injective
    (N : Numerals ν) :
    Function.Injective (fun v => utf8 (N.stringify v)) := by
  intro v w hSame
  exact N.stringify_injective
    (utf8_inj (N.wellFormed_stringify v)
      (N.wellFormed_stringify w) hSame)

end Numerals

end ControlPlane
