import ControlPlane.Data.JsValue

/-
  The contract of a command.

  A command names a category that is known and a type, and
  has an identifier. Some types put constraints on what is
  in the payload. Every constraint that is not met adds an
  error.

  Main declarations:
    * `Writing`
    * `Quantity` and `Quantity.errors`
    * `payloadErrors` and `validate`
    * `Quantity.within_of_errors_nil`
-/

------------------------------------------------------------
-- Texts
------------------------------------------------------------

namespace ControlPlane

namespace Command

/-
  What the language writes of a value in a text, and what it
  parses of one. Some values cannot be written, and a text
  that is not JSON is not parsed.
-/
structure Writing where
  textOf : JsValue → Except JsError String
  stringOf : JsValue → Except JsError String
  numberText : Rat → String
  jsonParse : String → Option JsValue

/- The number of digits after the point, if there is one. -/
def fractionLength (text : String) : Nat :=
  ((((text.toList.dropWhile (fun c => decide (c ≠ '.'))).drop
    1).takeWhile (fun c => decide (c ≠ '.')))).length

------------------------------------------------------------
-- Quantities
------------------------------------------------------------

/- The bounds of a number in a payload, and their errors. -/
structure Quantity where
  name : String
  inRange : Rat → Bool
  rangeError : String
  precision : Option (Nat × String)

namespace Quantity

variable (w : Writing)

def precisionErrors
    (q : Quantity)
    (value : Rat) : List String :=
  match q.precision with
  | some (places, error) =>
      if places < fractionLength (w.numberText value) then
        [error]
      else []
  | none => []

/- A number that is there is finite and within its bounds. -/
def errors
    (q : Quantity)
    (payload : JsValue) : List String :=
  match payload.field q.name with
  | .undefined => []
  | .number (.finite value) =>
      if q.inRange value then q.precisionErrors w value
      else [q.rangeError]
  | _ => [q.rangeError]

/- What a number that is there is. -/
def Within
    (q : Quantity)
    (payload : JsValue) : Prop :=
  payload.field q.name = .undefined ∨
    ∃ value,
      payload.field q.name = .number (.finite value) ∧
        q.inRange value = true ∧
          ∀ places error, q.precision = some (places, error) →
            fractionLength (w.numberText value) ≤ places

theorem within_of_errors_nil
    {q : Quantity}
    {payload : JsValue}
    (hErrors : q.errors w payload = []) :
    q.Within w payload := by
  unfold errors at hErrors
  split at hErrors
  · rename_i hField
    exact .inl hField
  · rename_i value hField
    split at hErrors
    · rename_i hRange
      refine .inr ⟨value, hField, hRange, ?_⟩
      intro places error hPrecision
      unfold precisionErrors at hErrors
      rw [hPrecision] at hErrors
      dsimp only at hErrors
      split at hErrors
      · cases hErrors
      · rename_i hPlaces
        exact Nat.le_of_not_lt hPlaces
    · cases hErrors
  · cases hErrors

end Quantity

def stake : Quantity where
  name := "stake"
  inRange x := decide (0 < x ∧ x ≤ 1000000)
  rangeError :=
    "PLACE_BET payload.stake must be a positive number (finite, > 0, <= 1,000,000)"
  precision :=
    some (2,
      "PLACE_BET payload.stake precision cannot exceed 2 decimal places")

def odds : Quantity where
  name := "odds"
  inRange x := decide (1 < x ∧ x ≤ 10000)
  rangeError :=
    "PLACE_BET payload.odds must be a number > 1.0 and <= 10,000"
  precision :=
    some (4,
      "PLACE_BET payload.odds precision cannot exceed 4 decimal places")

def percentage : Quantity where
  name := "percentage"
  inRange x := decide (1 ≤ x ∧ x ≤ 100)
  rangeError :=
    "CASH_OUT payload.percentage must be a number between 1 and 100"
  precision := none

def amount : Quantity where
  name := "amount"
  inRange x := decide (0 < x)
  rangeError := "CASH_OUT payload.amount must be a positive number"
  precision := none

------------------------------------------------------------
-- Commands
------------------------------------------------------------

variable (w : Writing)

/- A requirement, with the error of not meeting it. -/
def required
    (holds : Bool)
    (error : String) : List String :=
  if holds then [] else [error]

theorem required_eq_nil_iff
    {holds : Bool}
    {error : String} :
    required holds error = [] ↔ holds = true := by
  unfold required
  split
  · rename_i hHolds
    exact ⟨fun _ => hHolds, fun _ => rfl⟩
  · rename_i hNot
    exact ⟨fun hNil => absurd hNil (List.cons_ne_nil _ _),
      fun hHolds => absurd hHolds hNot⟩

def isBoolean : JsValue → Bool
| .boolean _ => true
| _ => false

def isArray : JsValue → Bool
| .array _ => true
| _ => false

/- `cmd.payload || {}` -/
def payloadOf (cmd : JsValue) : JsValue :=
  (cmd.field "payload").orElse (.object [])

/- The constraints on the payload of each type. -/
def payloadErrors
    (cmd : JsValue) : String → List String
| "PLACE_BET" =>
    stake.errors w (payloadOf cmd) ++
      odds.errors w (payloadOf cmd)
| "CASH_OUT" =>
    percentage.errors w (payloadOf cmd) ++
      amount.errors w (payloadOf cmd)
| "TOGGLE_BET_CYCLE" =>
    required (isBoolean ((payloadOf cmd).field "enabled"))
      "TOGGLE_BET_CYCLE payload.enabled must be a boolean"
| "ACTIVATE_ACCOUNT" =>
    required
      (((payloadOf cmd).field "accountUsername").truthy ||
        ((payloadOf cmd).field "id").truthy ||
          (cmd.field "target").truthy)
      "ACTIVATE_ACCOUNT requires accountUsername or target id"
| "DEACTIVATE_ACCOUNT" =>
    required
      ((cmd.field "target").truthy ||
        ((payloadOf cmd).field "id").truthy ||
          ((payloadOf cmd).field "accountId").truthy)
      "DEACTIVATE_ACCOUNT requires target account identifier"
| "SETTINGS_INTENT" =>
    required ((payloadOf cmd).field "type").truthy
      "SETTINGS_INTENT requires payload.type"
| "BULK_ACTION" =>
    required
      (((payloadOf cmd).field "type").truthy &&
        isArray ((payloadOf cmd).field "accountIds"))
      "BULK_ACTION requires payload.type and array of payload.accountIds"
| _ => []

def validCategories : List String :=
  ["Execution", "Persistence", "Security", "Billing", "System"]

def isCategory : JsValue → Bool
| .text category => decide (category ∈ validCategories)
| _ => false

/- The type of a command, if it is a text that is not empty. -/
def typeOf (cmd : JsValue) : Option String :=
  match cmd.field "type" with
  | .text name => if name = "" then none else some name
  | _ => none

/- The cases of the switch are texts. -/
def switchType (cmd : JsValue) : String :=
  match cmd.field "type" with
  | .text name => name
  | _ => ""

/- A category that is not known is written in its error. -/
def categoryErrors
    (cmd : JsValue) : Except JsError (List String) :=
  if isCategory (cmd.field "category") then .ok []
  else do
    let category ← w.textOf (cmd.field "category")
    return ["Invalid or missing category [" ++ category ++
      "]. Must be one of: " ++ ", ".intercalate validCategories]

/- `CommandPayloadSchema.validate`, for an object. -/
def validate
    (cmd : JsValue) : Except JsError (List String) := do
  let unknownCategory ← categoryErrors w cmd
  return required
      ((cmd.field "id").truthy || (cmd.field "commandId").truthy)
      "Missing unique command identifier (id or commandId)" ++
    unknownCategory ++
    required (typeOf cmd).isSome
      "Missing or invalid command type (must be a non-empty string)" ++
    payloadErrors w cmd (switchType cmd)

/- What a command without errors is known to be. -/
structure Valid
    (cmd : JsValue)
    (category type : String) : Prop where
  categoryField : cmd.field "category" = .text category
  known : category ∈ validCategories
  typeField : cmd.field "type" = .text type
  named : type ≠ ""
  identified :
    ((cmd.field "id").truthy ||
      (cmd.field "commandId").truthy) = true
  payload : payloadErrors w cmd type = []

theorem typeOf_eq_some_iff
    {cmd : JsValue}
    {name : String} :
    typeOf cmd = some name ↔
      cmd.field "type" = .text name ∧ name ≠ "" := by
  unfold typeOf
  split
  · rename_i text hType
    split
    · rename_i hEmpty
      subst hEmpty
      constructor
      · intro hNone
        cases hNone
      · rintro ⟨hSame, hNamed⟩
        rw [hType] at hSame
        cases hSame
        exact absurd rfl hNamed
    · rename_i hNamed
      rw [hType]
      constructor
      · intro hSome
        cases hSome
        exact ⟨rfl, hNamed⟩
      · rintro ⟨hSame, _⟩
        cases hSame
        rfl
  · rename_i hOther
    constructor
    · intro hNone
      cases hNone
    · rintro ⟨hSame, _⟩
      exact absurd hSame (hOther name)

theorem categoryErrors_eq_nil_iff
    {cmd : JsValue} :
    categoryErrors w cmd = .ok [] ↔
      isCategory (cmd.field "category") = true := by
  unfold categoryErrors
  split
  · rename_i hKnown
    exact ⟨fun _ => hKnown, fun _ => rfl⟩
  · rename_i hUnknown
    constructor
    · intro hErrors
      rcases bind_eq_ok.mp hErrors with ⟨category, _, hNil⟩
      cases hNil
    · intro hKnown
      exact absurd hKnown hUnknown

/- A command has no errors exactly when it is valid. -/
theorem validate_eq_nil_iff
    {cmd : JsValue} :
    validate w cmd = .ok [] ↔
      ∃ category type, Valid w cmd category type := by
  have hParts :
      validate w cmd = .ok [] ↔
        ((((cmd.field "id").truthy ||
            (cmd.field "commandId").truthy) = true ∧
          isCategory (cmd.field "category") = true) ∧
          (typeOf cmd).isSome = true) ∧
          payloadErrors w cmd (switchType cmd) = [] := by
    rw [← categoryErrors_eq_nil_iff w]
    unfold validate
    cases categoryErrors w cmd with
    | error error =>
        constructor
        · intro hErrors
          cases hErrors
        · rintro ⟨⟨⟨_, hCategory⟩, _⟩, _⟩
          cases hCategory
    | ok errors =>
        have hNil :
            ∀ rest : List String,
              (Except.ok rest : Except JsError (List String)) =
                .ok [] ↔ rest = [] :=
          fun rest => ⟨fun hOk => Except.ok.inj hOk,
            fun hRest => congrArg Except.ok hRest⟩
        rw [bind_ok]
        refine (hNil _).trans ?_
        rw [hNil]
        simp only [List.append_eq_nil_iff,
          required_eq_nil_iff]
  rw [hParts]
  constructor
  · rintro ⟨⟨⟨hId, hCategory⟩, hType⟩, hPayload⟩
    rcases Option.isSome_iff_exists.mp hType with ⟨type, hType⟩
    have hNamed := typeOf_eq_some_iff.mp hType
    unfold isCategory at hCategory
    split at hCategory
    · rename_i category hField
      have hSwitch : switchType cmd = type := by
        unfold switchType
        rw [hNamed.1]
      rw [hSwitch] at hPayload
      exact ⟨category, type, hField,
        of_decide_eq_true hCategory, hNamed.1, hNamed.2, hId,
        hPayload⟩
    · cases hCategory
  · rintro ⟨category, type, hValid⟩
    have hSwitch : switchType cmd = type := by
      unfold switchType
      rw [hValid.typeField]
    have hCategory :
        isCategory (cmd.field "category") = true := by
      rw [hValid.categoryField]
      exact decide_eq_true hValid.known
    have hType : typeOf cmd = some type :=
      typeOf_eq_some_iff.mpr ⟨hValid.typeField, hValid.named⟩
    rw [hType, hSwitch]
    exact ⟨⟨⟨hValid.identified, hCategory⟩, rfl⟩,
      hValid.payload⟩

/- The bounds of a bet that is placed. -/
theorem Valid.placeBet
    {cmd : JsValue}
    {category : String}
    (hValid : Valid w cmd category "PLACE_BET") :
    stake.Within w (payloadOf cmd) ∧
      odds.Within w (payloadOf cmd) := by
  have hErrors := List.append_eq_nil_iff.mp hValid.payload
  exact ⟨Quantity.within_of_errors_nil w hErrors.1,
    Quantity.within_of_errors_nil w hErrors.2⟩

theorem Valid.cashOut
    {cmd : JsValue}
    {category : String}
    (hValid : Valid w cmd category "CASH_OUT") :
    percentage.Within w (payloadOf cmd) ∧
      amount.Within w (payloadOf cmd) := by
  have hErrors := List.append_eq_nil_iff.mp hValid.payload
  exact ⟨Quantity.within_of_errors_nil w hErrors.1,
    Quantity.within_of_errors_nil w hErrors.2⟩

end Command

end ControlPlane
