import Mathlib.Data.List.Infix

/-
  Texts and optional text fields.

  A text field is an `Option`: `none` is a field that is
  absent. It follows the truthiness of the source, where an
  empty string counts as absent.

  Main declarations:
    * `present`, `firstPresent` and `presentOr`
    * `isBlank` and `trimText`
    * `toLower_toLower`
-/

------------------------------------------------------------
-- Optional Text Fields
------------------------------------------------------------

namespace ControlPlane

/- A text field is present when it is given and nonempty. -/
def present : Option String → Bool
| some text => decide (text ≠ "")
| none => false

/- The first field when present, else the second. -/
def firstPresent
    (field fallback : Option String) : Option String :=
  if present field then field else fallback

/- The text of a field, with a default when not present. -/
def presentOr
    (field : Option String)
    (fallback : String) : String :=
  match field with
  | some text => if text = "" then fallback else text
  | none => fallback

------------------------------------------------------------
-- White Space
------------------------------------------------------------

/- The white space that a text is trimmed of. -/
def isWhiteSpace (c : Char) : Bool :=
  decide (c.toNat ∈
    [9, 10, 11, 12, 13, 32, 160, 5760, 8232, 8233, 8239,
      8287, 12288, 65279]) ||
    decide (8192 ≤ c.toNat ∧ c.toNat ≤ 8202)

/- Nothing is left of the text when it is trimmed. -/
def isBlank (text : String) : Bool :=
  text.toList.all isWhiteSpace

/- The text without the white space at its ends. -/
def trimText (text : String) : String :=
  String.ofList
    ((text.toList.dropWhile isWhiteSpace).reverse.dropWhile
      isWhiteSpace).reverse

/- The text without any white space. -/
def withoutSpaces (text : String) : String :=
  String.ofList
    (text.toList.filter (fun c => !isWhiteSpace c))

/- The pattern stands somewhere in the text. -/
def includesText (text pattern : String) : Bool :=
  decide (pattern.toList <:+: text.toList)

------------------------------------------------------------
-- Lower Case
------------------------------------------------------------

theorem char_toLower_toLower
    (c : Char) :
    c.toLower.toLower = c.toLower := by
  unfold Char.toLower
  split
  · rename_i hUpper
    split
    · rename_i hAgain
      simp only [UInt32.le_iff_toNat_le,
        UInt32.toNat_add, seval] at hUpper hAgain
      omega
    · simp
  · rfl

/- Lower case is kept. -/
theorem toLower_toLower
    (text : String) :
    text.toLower.toLower = text.toLower := by
  change
    (text.map Char.toLower).map Char.toLower =
      text.map Char.toLower
  rw [String.map_map]
  congr 1
  funext c
  exact char_toLower_toLower c

theorem toLower_ne_empty
    {text : String}
    (hText : text ≠ "") :
    text.toLower ≠ "" := by
  intro hEmpty
  change text.map Char.toLower = "" at hEmpty
  apply hText
  rw [← String.toList_inj] at hEmpty ⊢
  simpa [String.toList_map] using hEmpty

------------------------------------------------------------
-- Reading Optional Fields
------------------------------------------------------------

theorem presentOr_of_present
    {text : String}
    (hText : text ≠ "")
    (fallback : String) :
    presentOr (some text) fallback = text := by
  simp [presentOr, hText]

theorem presentOr_of_not_present
    {field : Option String}
    (hField : ¬ present field = true)
    (fallback : String) :
    presentOr field fallback = fallback := by
  cases field with
  | none => rfl
  | some text =>
      have hText : text = "" := by
        simpa [present] using hField
      simp [presentOr, hText]

/- A field that is present has a text. -/
theorem present_iff
    (field : Option String) :
    present field = true ↔
      ∃ text, field = some text ∧ text ≠ "" := by
  cases field with
  | none => simp [present]
  | some text => simp [present]

theorem presentOr_ne_empty
    {fallback : String}
    (hFallback : fallback ≠ "")
    (field : Option String) :
    presentOr field fallback ≠ "" := by
  unfold presentOr
  split
  · split
    · exact hFallback
    · assumption
  · exact hFallback

end ControlPlane
