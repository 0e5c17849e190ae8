import ControlPlane.Data.Json

/-
  The sanitizer of stored objects.

  Members with the name of a secret are left out at every
  depth. The password of an account is masked instead.

  Main declarations:
    * `isForbiddenKey`
    * `Json.sanitize` and `sanitizeMembers`
-/

------------------------------------------------------------
-- Secrets
------------------------------------------------------------

namespace ControlPlane

/- The names that are never stored. -/
def forbiddenSecretKeys : List String :=
  ["accountPassword", "password", "rawPassword",
    "sessionToken", "session_token", "token", "jwt",
    "refreshToken", "proxyPassword", "proxyAuth", "secret",
    "secretKey", "cardToken", "cvv", "authorizationCode",
    "cookies", "cookie", "credentials", "credential",
    "privateKey", "private_key"]

def isForbiddenKey (key : String) : Bool :=
  decide (key ∈ forbiddenSecretKeys)

def protectedPassword : String := "[PROTECTED]"

------------------------------------------------------------
-- Sanitizing
------------------------------------------------------------

mutual

/- A clean copy of the value. -/
def Json.sanitize : Json → Json
| .array items => .array (sanitizeItems items)
| .object members => .object (sanitizeMembers members)
| value => value

def sanitizeItems : List Json → List Json
| [] => []
| item :: items => item.sanitize :: sanitizeItems items

def sanitizeMembers :
    List (String × Json) → List (String × Json)
| [] => []
| (key, value) :: members =>
    if isForbiddenKey key then
      if key = "accountPassword" then
        (key, .text protectedPassword) ::
          sanitizeMembers members
      else
        sanitizeMembers members
    else
      (key, value.sanitize) :: sanitizeMembers members

end

------------------------------------------------------------
-- Clean Copies
------------------------------------------------------------

theorem sanitizeMembers_password
    (value : Json)
    (members : List (String × Json)) :
    sanitizeMembers (("accountPassword", value) :: members) =
      ("accountPassword", .text protectedPassword) ::
        sanitizeMembers members := by
  rw [sanitizeMembers, if_pos (by decide), if_pos rfl]

theorem sanitizeMembers_secret
    {key : String}
    (hForbidden : isForbiddenKey key = true)
    (hKey : key ≠ "accountPassword")
    (value : Json)
    (members : List (String × Json)) :
    sanitizeMembers ((key, value) :: members) =
      sanitizeMembers members := by
  rw [sanitizeMembers, if_pos hForbidden, if_neg hKey]

theorem sanitizeMembers_plain
    {key : String}
    (hKey : ¬ isForbiddenKey key = true)
    (value : Json)
    (members : List (String × Json)) :
    sanitizeMembers ((key, value) :: members) =
      (key, value.sanitize) :: sanitizeMembers members := by
  rw [sanitizeMembers, if_neg hKey]

mutual

/- A clean copy is clean. -/
theorem Json.sanitize_sanitize :
    ∀ value : Json, value.sanitize.sanitize = value.sanitize
| .null => rfl
| .boolean _ => rfl
| .number _ => rfl
| .text _ => rfl
| .array items => by
    simp only [Json.sanitize]
    rw [sanitizeItems_sanitizeItems items]
| .object members => by
    simp only [Json.sanitize]
    rw [sanitizeMembers_sanitizeMembers members]

theorem sanitizeItems_sanitizeItems :
    ∀ items : List Json,
      sanitizeItems (sanitizeItems items) =
        sanitizeItems items
| [] => rfl
| item :: items => by
    simp only [sanitizeItems]
    rw [Json.sanitize_sanitize item,
      sanitizeItems_sanitizeItems items]

theorem sanitizeMembers_sanitizeMembers :
    ∀ members : List (String × Json),
      sanitizeMembers (sanitizeMembers members) =
        sanitizeMembers members
| [] => rfl
| (key, value) :: members => by
    have hRest := sanitizeMembers_sanitizeMembers members
    by_cases hForbidden : isForbiddenKey key = true
    · by_cases hKey : key = "accountPassword"
      · rw [hKey, sanitizeMembers_password,
          sanitizeMembers_password, hRest]
      · rw [sanitizeMembers_secret hForbidden hKey, hRest]
    · rw [sanitizeMembers_plain hForbidden,
        sanitizeMembers_plain hForbidden, hRest,
        Json.sanitize_sanitize value]

end

end ControlPlane
