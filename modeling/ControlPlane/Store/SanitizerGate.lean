import ControlPlane.Data.JsFields
import ControlPlane.Data.JsPlaces
import ControlPlane.Store.Adapters

/-
  What the sanitizer makes of a JSON value.

  A clean copy has the members, elements and primitives of
  the value in their places, without those below the name of
  a secret. An account that leaves the process is cleaned
  once more, with its configuration.

  Main declarations:
    * `SecretFree` and `Redacts`
    * `cleaned` and `sanitize_eq_cleaned`
    * `sanitizeAccountForExport`
    * `sanitizer_is_correct`
-/

------------------------------------------------------------
-- Values Without Secrets
------------------------------------------------------------

namespace ControlPlane

namespace Mutators

namespace SanitizerGate

def Allowed (member : String × JsValue) : Prop :=
  isForbiddenKey member.1 = true →
    member.1 = "accountPassword" ∧
      member.2 = .text protectedPassword

instance Allowed.decidable : DecidablePred Allowed :=
  fun member => inferInstanceAs
    (Decidable (isForbiddenKey member.1 = true → _ ∧ _))

def CleanNode : JsValue → Prop
| .object members => ∀ member ∈ members, Allowed member
| _ => True

instance CleanNode.decidable : DecidablePred CleanNode
| .object members =>
    inferInstanceAs
      (Decidable (∀ member ∈ members, Allowed member))
| .undefined => isTrue trivial
| .null => isTrue trivial
| .boolean _ => isTrue trivial
| .number _ => isTrue trivial
| .bigint _ => isTrue trivial
| .text _ => isTrue trivial
| .symbol _ => isTrue trivial
| .function _ => isTrue trivial
| .array _ => isTrue trivial
| .circular => isTrue trivial

/- No member at any depth has the name of a secret. -/
def SecretFree (value : JsValue) : Prop :=
  value.Everywhere CleanNode

instance SecretFree.decidable
    (value : JsValue) : Decidable (SecretFree value) :=
  JsValue.Everywhere.decidable CleanNode value

theorem secretFree_array
    (items : List JsValue) :
    SecretFree (.array items) ↔
      ∀ item ∈ items, SecretFree item := by
  unfold SecretFree
  rw [JsValue.everywhere_array]
  exact and_iff_right trivial

theorem secretFree_object
    (members : List (String × JsValue)) :
    SecretFree (.object members) ↔
      ∀ member ∈ members,
        Allowed member ∧ SecretFree member.2 := by
  unfold SecretFree
  rw [JsValue.everywhere_object]
  constructor
  · intro hBoth member hMem
    exact ⟨hBoth.1 member hMem, hBoth.2 member hMem⟩
  · intro hAll
    exact ⟨fun member hMem => (hAll member hMem).1,
      fun member hMem => (hAll member hMem).2⟩

theorem secretFree_of_isLeaf
    {value : JsValue}
    (hLeaf : value.isLeaf = true) : SecretFree value := by
  unfold SecretFree
  rw [JsValue.everywhere_of_isLeaf CleanNode hLeaf]
  cases value with
  | object members => nomatch hLeaf
  | _ => exact trivial

theorem allowed_of_plain
    {member : String × JsValue}
    (hPlain : ¬ isForbiddenKey member.1 = true) :
    Allowed member :=
  fun hForbidden => absurd hForbidden hPlain

theorem allowed_protected :
    Allowed ("accountPassword", .text protectedPassword) :=
  fun _ => ⟨rfl, rfl⟩

------------------------------------------------------------
-- Clean Copies
------------------------------------------------------------

mutual

/- The clean copy, as a total function. -/
def cleaned : JsValue → JsValue
| .array items => .array (cleanedItems items)
| .object members => .object (cleanedMembers members)
| value => value

def cleanedItems : List JsValue → List JsValue
| [] => []
| item :: items => cleaned item :: cleanedItems items

def cleanedMembers :
    List (String × JsValue) → List (String × JsValue)
| [] => []
| (key, value) :: members =>
    if isForbiddenKey key then
      if key = "accountPassword" then
        (key, .text protectedPassword) ::
          cleanedMembers members
      else cleanedMembers members
    else (key, cleaned value) :: cleanedMembers members

end

theorem cleanedItems_eq_map
    (items : List JsValue) :
    cleanedItems items = items.map cleaned := by
  induction items with
  | nil => rfl
  | cons item items ih => simp [cleanedItems, ih]

theorem cleaned_of_isLeaf
    {value : JsValue}
    (hLeaf : value.isLeaf = true) :
    cleaned value = value := by
  cases value with
  | array items => nomatch hLeaf
  | object members => nomatch hLeaf
  | _ => simp only [cleaned]

theorem cleanedMembers_password
    (value : JsValue)
    (members : List (String × JsValue)) :
    cleanedMembers (("accountPassword", value) :: members) =
      ("accountPassword", .text protectedPassword) ::
        cleanedMembers members := by
  rw [cleanedMembers, if_pos (by decide), if_pos rfl]

theorem cleanedMembers_secret
    {key : String}
    (hForbidden : isForbiddenKey key = true)
    (hKey : key ≠ "accountPassword")
    (value : JsValue)
    (members : List (String × JsValue)) :
    cleanedMembers ((key, value) :: members) =
      cleanedMembers members := by
  rw [cleanedMembers, if_pos hForbidden, if_neg hKey]

theorem cleanedMembers_plain
    {key : String}
    (hKey : ¬ isForbiddenKey key = true)
    (value : JsValue)
    (members : List (String × JsValue)) :
    cleanedMembers ((key, value) :: members) =
      (key, cleaned value) :: cleanedMembers members := by
  rw [cleanedMembers, if_neg hKey]

/- Where a member of a clean copy comes from. -/
theorem mem_cleanedMembers
    {members : List (String × JsValue)}
    {member : String × JsValue}
    (hMem : member ∈ cleanedMembers members) :
    member = ("accountPassword", .text protectedPassword) ∨
      ∃ old ∈ members,
        ¬ isForbiddenKey old.1 = true ∧
          member = (old.1, cleaned old.2) := by
  induction members with
  | nil => nomatch hMem
  | cons old members ih =>
      rcases old with ⟨key, value⟩
      have hRest :
          member ∈ cleanedMembers members →
            member =
                ("accountPassword", .text protectedPassword) ∨
              ∃ old ∈ (key, value) :: members,
                ¬ isForbiddenKey old.1 = true ∧
                  member = (old.1, cleaned old.2) := by
        intro hLater
        rcases ih hLater with hSame | ⟨old, hOld, hBoth⟩
        · exact .inl hSame
        · exact .inr ⟨old, List.mem_cons_of_mem _ hOld, hBoth⟩
      by_cases hForbidden : isForbiddenKey key = true
      · by_cases hKey : key = "accountPassword"
        · rw [hKey, cleanedMembers_password] at hMem
          rcases List.mem_cons.mp hMem with hSame | hLater
          · exact .inl hSame
          · exact hRest hLater
        · rw [cleanedMembers_secret hForbidden hKey] at hMem
          exact hRest hMem
      · rw [cleanedMembers_plain hForbidden] at hMem
        rcases List.mem_cons.mp hMem with hSame | hLater
        · exact .inr ⟨_, List.mem_cons_self, hForbidden, hSame⟩
        · exact hRest hLater

theorem cleaned_secretFree
    (value : JsValue) : SecretFree (cleaned value) := by
  induction value using JsValue.induction with
  | leaf value hLeaf =>
      rw [cleaned_of_isLeaf hLeaf]
      exact secretFree_of_isLeaf hLeaf
  | array items ih =>
      rw [cleaned, cleanedItems_eq_map, secretFree_array]
      intro item hItem
      rcases List.mem_map.mp hItem with ⟨old, hOld, rfl⟩
      exact ih old hOld
  | object members ih =>
      rw [cleaned, secretFree_object]
      intro member hMember
      rcases mem_cleanedMembers hMember with
        rfl | ⟨old, hOld, hPlain, rfl⟩
      · exact ⟨allowed_protected, secretFree_of_isLeaf rfl⟩
      · exact ⟨allowed_of_plain hPlain, ih old hOld⟩

theorem cleanedMembers_of_allowed
    {members : List (String × JsValue)}
    (hMembers :
      ∀ member ∈ members,
        Allowed member ∧ cleaned member.2 = member.2) :
    cleanedMembers members = members := by
  induction members with
  | nil => rfl
  | cons member members ih =>
      rcases member with ⟨key, value⟩
      rw [List.forall_mem_cons] at hMembers
      rcases hMembers with ⟨⟨hAllowed, hSame⟩, hRest⟩
      by_cases hForbidden : isForbiddenKey key = true
      · rcases hAllowed hForbidden with ⟨hKey, hValue⟩
        simp only at hKey hValue
        rw [hKey, hValue, cleanedMembers_password, ih hRest]
      · simp only at hSame
        rw [cleanedMembers_plain hForbidden, hSame, ih hRest]

theorem cleaned_of_secretFree
    {value : JsValue}
    (hFree : SecretFree value) : cleaned value = value := by
  induction value using JsValue.induction with
  | leaf value hLeaf => exact cleaned_of_isLeaf hLeaf
  | array items ih =>
      rw [secretFree_array] at hFree
      rw [cleaned, cleanedItems_eq_map]
      congr 1
      refine (List.map_congr_left ?_).trans (List.map_id _)
      intro item hItem
      exact ih item hItem (hFree item hItem)
  | object members ih =>
      rw [secretFree_object] at hFree
      rw [cleaned]
      congr 1
      apply cleanedMembers_of_allowed
      intro member hMember
      exact ⟨(hFree member hMember).1,
        ih member hMember (hFree member hMember).2⟩

theorem cleaned_eq_self_iff
    (value : JsValue) :
    cleaned value = value ↔ SecretFree value := by
  constructor
  · intro hSame
    rw [← hSame]
    exact cleaned_secretFree value
  · exact cleaned_of_secretFree

theorem cleaned_acyclic
    {value : JsValue}
    (hAcyclic : value.Acyclic) : (cleaned value).Acyclic := by
  unfold JsValue.Acyclic at hAcyclic ⊢
  induction value using JsValue.induction with
  | leaf value hLeaf =>
      rwa [cleaned_of_isLeaf hLeaf]
  | array items ih =>
      rw [JsValue.everywhere_array] at hAcyclic
      rw [cleaned, cleanedItems_eq_map,
        JsValue.everywhere_array]
      refine ⟨nofun, ?_⟩
      intro item hItem
      rcases List.mem_map.mp hItem with ⟨old, hOld, rfl⟩
      exact ih old hOld (hAcyclic.2 old hOld)
  | object members ih =>
      rw [JsValue.everywhere_object] at hAcyclic
      rw [cleaned, JsValue.everywhere_object]
      refine ⟨nofun, ?_⟩
      intro member hMember
      rcases mem_cleanedMembers hMember with
        rfl | ⟨old, hOld, _, rfl⟩
      · simp only [JsValue.Everywhere, ne_eq]
        exact nofun
      · exact ih old hOld (hAcyclic.2 old hOld)

------------------------------------------------------------
-- The Two Modes
------------------------------------------------------------

theorem sanitizeItems_eq_cleaned
    {items clean : List JsValue}
    (hEach :
      ∀ item ∈ items, ∀ copy,
        sanitize false item = .ok copy → copy = cleaned item)
    (hClean : sanitizeItems false items = .ok clean) :
    clean = cleanedItems items := by
  induction items generalizing clean with
  | nil =>
      cases hClean
      rfl
  | cons item items ih =>
      rw [List.forall_mem_cons] at hEach
      rw [sanitizeItems] at hClean
      rcases bind_eq_ok.mp hClean with ⟨copy, hCopy, hClean⟩
      rcases bind_eq_ok.mp hClean with ⟨rest, hRest, hClean⟩
      cases hClean
      rw [cleanedItems, hEach.1 copy hCopy, ih hEach.2 hRest]

theorem sanitizeMembers_eq_cleaned
    {members clean : List (String × JsValue)}
    (hEach :
      ∀ member ∈ members, ∀ copy,
        sanitize false member.2 = .ok copy →
          copy = cleaned member.2)
    (hClean : sanitizeMembers false members = .ok clean) :
    clean = cleanedMembers members := by
  induction members generalizing clean with
  | nil =>
      cases hClean
      rfl
  | cons member members ih =>
      rcases member with ⟨key, value⟩
      rw [List.forall_mem_cons] at hEach
      rw [sanitizeMembers] at hClean
      by_cases hForbidden : isForbiddenKey key = true
      · rw [if_pos hForbidden] at hClean
        split at hClean
        · rename_i hMarked
          rcases bind_eq_ok.mp hClean with ⟨rest, hRest, hClean⟩
          cases hClean
          rw [hMarked.1, hMarked.2, cleanedMembers_password,
            ih hEach.2 hRest]
        · split at hClean
          · nomatch hClean
          · split at hClean
            · rename_i hKey
              rcases bind_eq_ok.mp hClean with
                ⟨rest, hRest, hClean⟩
              cases hClean
              rw [hKey, cleanedMembers_password,
                ih hEach.2 hRest]
            · rename_i hKey
              rw [cleanedMembers_secret hForbidden hKey,
                ih hEach.2 hClean]
      · rw [if_neg hForbidden] at hClean
        rcases bind_eq_ok.mp hClean with ⟨copy, hCopy, hClean⟩
        rcases bind_eq_ok.mp hClean with ⟨rest, hRest, hClean⟩
        cases hClean
        rw [cleanedMembers_plain hForbidden,
          hEach.1 copy hCopy, ih hEach.2 hRest]

theorem sanitize_eq_cleaned
    {value clean : JsValue}
    (hClean : sanitize false value = .ok clean) :
    clean = cleaned value := by
  induction value using JsValue.induction
    generalizing clean with
  | leaf value hLeaf =>
      rw [cleaned_of_isLeaf hLeaf]
      cases value with
      | array items => nomatch hLeaf
      | object members => nomatch hLeaf
      | circular => nomatch hClean
      | _ =>
          cases hClean
          rfl
  | array items ih =>
      rw [sanitize] at hClean
      rcases bind_eq_ok.mp hClean with ⟨copy, hCopy, hClean⟩
      cases hClean
      rw [cleaned, sanitizeItems_eq_cleaned
        (fun item hMem copy => ih item hMem) hCopy]
  | object members ih =>
      rw [sanitize] at hClean
      rcases bind_eq_ok.mp hClean with ⟨copy, hCopy, hClean⟩
      cases hClean
      rw [cleaned, sanitizeMembers_eq_cleaned
        (fun member hMem copy => ih member hMem) hCopy]

theorem sanitizeMembers_acyclic
    {members : List (String × JsValue)}
    (hEach :
      ∀ member ∈ members,
        sanitize false member.2 = .ok (cleaned member.2)) :
    sanitizeMembers false members =
      .ok (cleanedMembers members) := by
  induction members with
  | nil => rfl
  | cons member members ih =>
      rcases member with ⟨key, value⟩
      rw [List.forall_mem_cons] at hEach
      rw [sanitizeMembers, ih hEach.2]
      by_cases hForbidden : isForbiddenKey key = true
      · rw [if_pos hForbidden]
        by_cases hKey : key = "accountPassword"
        · rw [hKey, cleanedMembers_password]
          split
          · rename_i hMarked
            rw [hMarked.2]
            rfl
          · rfl
        · rw [if_neg (fun hBoth => hKey hBoth.1),
            if_neg Bool.false_ne_true, if_neg hKey,
            cleanedMembers_secret hForbidden hKey]
      · simp only at hEach
        rw [if_neg hForbidden, cleanedMembers_plain hForbidden,
          hEach.1]
        rfl

/- Only an object that holds itself is not cleaned. -/
theorem sanitize_acyclic
    {value : JsValue}
    (hAcyclic : value.Acyclic) :
    sanitize false value = .ok (cleaned value) := by
  unfold JsValue.Acyclic at hAcyclic
  induction value using JsValue.induction with
  | leaf value hLeaf =>
      rw [cleaned_of_isLeaf hLeaf]
      cases value with
      | array items => nomatch hLeaf
      | object members => nomatch hLeaf
      | circular => exact absurd rfl hAcyclic.here
      | _ => rfl
  | array items ih =>
      rw [JsValue.everywhere_array] at hAcyclic
      have hItems :
          sanitizeItems false items =
            .ok (cleanedItems items) := by
        replace hAcyclic := hAcyclic.2
        induction items with
        | nil => rfl
        | cons item items rest =>
            rw [List.forall_mem_cons] at ih hAcyclic
            rw [sanitizeItems, ih.1 hAcyclic.1,
              rest ih.2 hAcyclic.2]
            rfl
      rw [sanitize, hItems, cleaned]
      rfl
  | object members ih =>
      rw [JsValue.everywhere_object] at hAcyclic
      rw [sanitize, sanitizeMembers_acyclic
        (fun member hMem =>
          ih member hMem (hAcyclic.2 member hMem)), cleaned]
      rfl

theorem sanitize_of_secretFree
    {value : JsValue}
    (hAcyclic : value.Acyclic)
    (hFree : SecretFree value) :
    sanitize false value = .ok value := by
  rw [sanitize_acyclic hAcyclic, cleaned_of_secretFree hFree]

/- The strict mode goes through values without secrets. -/
theorem secretFree_of_assert
    {value clean : JsValue}
    (hClean : sanitize true value = .ok clean) :
    SecretFree value := by
  induction value using JsValue.induction
    generalizing clean with
  | leaf value hLeaf => exact secretFree_of_isLeaf hLeaf
  | array items ih =>
      rw [sanitize] at hClean
      rcases bind_eq_ok.mp hClean with ⟨copies, hCopies, -⟩
      rw [secretFree_array]
      clear hClean
      induction items generalizing copies with
      | nil => simp
      | cons item items rest =>
          rw [sanitizeItems] at hCopies
          rcases bind_eq_ok.mp hCopies with
            ⟨copy, hCopy, hCopies⟩
          rcases bind_eq_ok.mp hCopies with
            ⟨others, hOthers, _⟩
          rw [List.forall_mem_cons] at ih ⊢
          exact ⟨ih.1 hCopy, rest ih.2 others hOthers⟩
  | object members ih =>
      rw [sanitize] at hClean
      rcases bind_eq_ok.mp hClean with ⟨copies, hCopies, -⟩
      rw [secretFree_object]
      clear hClean
      induction members generalizing copies with
      | nil => simp
      | cons member members rest =>
          rcases member with ⟨key, value⟩
          rw [List.forall_mem_cons] at ih ⊢
          rw [sanitizeMembers] at hCopies
          by_cases hForbidden : isForbiddenKey key = true
          · rw [if_pos hForbidden] at hCopies
            split at hCopies
            · rename_i hMarked
              rcases bind_eq_ok.mp hCopies with
                ⟨others, hOthers, _⟩
              refine ⟨⟨fun _ => hMarked, ?_⟩,
                rest ih.2 others hOthers⟩
              rw [hMarked.2]
              exact secretFree_of_isLeaf rfl
            · nomatch hCopies
          · rw [if_neg hForbidden] at hCopies
            rcases bind_eq_ok.mp hCopies with
              ⟨copy, hCopy, hCopies⟩
            rcases bind_eq_ok.mp hCopies with
              ⟨others, hOthers, _⟩
            exact ⟨⟨allowed_of_plain hForbidden, ih.1 hCopy⟩,
              rest ih.2 others hOthers⟩

theorem assert_of_secretFree
    {value : JsValue}
    (hAcyclic : value.Acyclic)
    (hFree : SecretFree value) :
    sanitize true value = .ok value := by
  unfold JsValue.Acyclic at hAcyclic
  induction value using JsValue.induction with
  | leaf value hLeaf =>
      cases value with
      | array items => nomatch hLeaf
      | object members => nomatch hLeaf
      | circular => exact absurd rfl hAcyclic.here
      | _ => rfl
  | array items ih =>
      rw [JsValue.everywhere_array] at hAcyclic
      rw [secretFree_array] at hFree
      have hItems : sanitizeItems true items = .ok items := by
        replace hAcyclic := hAcyclic.2
        induction items with
        | nil => rfl
        | cons item items rest =>
            rw [List.forall_mem_cons] at ih hAcyclic hFree
            rw [sanitizeItems, ih.1 hAcyclic.1 hFree.1,
              rest ih.2 hFree.2 hAcyclic.2]
            rfl
      rw [sanitize, hItems]
      rfl
  | object members ih =>
      rw [JsValue.everywhere_object] at hAcyclic
      rw [secretFree_object] at hFree
      have hMembers :
          sanitizeMembers true members = .ok members := by
        replace hAcyclic := hAcyclic.2
        induction members with
        | nil => rfl
        | cons member members rest =>
            rcases member with ⟨key, value⟩
            rw [List.forall_mem_cons] at ih hAcyclic hFree
            rw [sanitizeMembers, rest ih.2 hFree.2 hAcyclic.2]
            by_cases hForbidden : isForbiddenKey key = true
            · rw [if_pos hForbidden,
                if_pos (hFree.1.1 hForbidden)]
              rfl
            · have hValue :
                  sanitize true value = .ok value :=
                ih.1 hAcyclic.1 hFree.1.2
              rw [if_neg hForbidden, hValue]
              rfl
      rw [sanitize, hMembers]
      rfl

theorem assertZeroSecrets_iff
    {value : JsValue}
    (hAcyclic : value.Acyclic) :
    assertZeroSecrets value = .ok () ↔ SecretFree value := by
  unfold assertZeroSecrets
  constructor
  · intro hAssert
    rcases bind_eq_ok.mp hAssert with ⟨clean, hClean, _⟩
    exact secretFree_of_assert hClean
  · intro hFree
    rw [assert_of_secretFree hAcyclic hFree]
    rfl

------------------------------------------------------------
-- What A Clean Copy Keeps
------------------------------------------------------------

/- A step that does not pass the name of a secret. -/
def isPlain : JsValue.Step → Bool
| .item _ => true
| .member name => !isForbiddenKey name

/- The names that are left in a clean object. -/
def cleanNode : JsValue.Node → JsValue.Node
| .object names =>
    .object (names.filter (fun name =>
      !isForbiddenKey name || name == "accountPassword"))
| node => node

/-
  A value and its copy agree at every place that no secret
  is passed on the way to. The password of an account is
  masked, and there is nothing at the places of the others.
-/
structure Redacts (value clean : JsValue) : Prop where
  kept :
    ∀ path, path.all isPlain = true →
      (clean.at? path).map JsValue.node =
        (value.at? path).map (fun v => cleanNode v.node)
  masked :
    ∀ path, path.all isPlain = true →
      clean.at? (path ++ [.member "accountPassword"]) =
        (value.at? (path ++ [.member "accountPassword"])).map
          (fun _ => .text protectedPassword)
  removed :
    ∀ path name rest, path.all isPlain = true →
      isForbiddenKey name = true → name ≠ "accountPassword" →
        clean.at? (path ++ .member name :: rest) = none

theorem node_cleaned
    (value : JsValue) :
    (cleaned value).node = cleanNode value.node := by
  cases value with
  | array items =>
      rw [cleaned, cleanedItems_eq_map]
      simp [JsValue.node, cleanNode]
  | object members =>
      rw [cleaned, JsValue.node, JsValue.node, cleanNode]
      congr 1
      induction members with
      | nil => rfl
      | cons member members ih =>
          rcases member with ⟨key, value⟩
          by_cases hForbidden : isForbiddenKey key = true
          · by_cases hKey : key = "accountPassword"
            · subst hKey
              rw [cleanedMembers_password, List.map_cons,
                List.map_cons, List.filter_cons_of_pos rfl, ih]
            · rw [cleanedMembers_secret hForbidden hKey,
                List.map_cons, List.filter_cons_of_neg
                  (by simp [hForbidden, hKey]), ih]
          · rw [cleanedMembers_plain hForbidden, List.map_cons,
              List.map_cons,
              List.filter_cons_of_pos (by simp [hForbidden]),
              ih]
  | _ => rfl

theorem lookup_cleanedMembers
    (members : List (String × JsValue))
    (name : String) :
    (cleanedMembers members).lookup name =
      if isForbiddenKey name then
        if name = "accountPassword" then
          (members.lookup name).map
            (fun _ => .text protectedPassword)
        else none
      else (members.lookup name).map cleaned := by
  induction members with
  | nil => simp [cleanedMembers]
  | cons member members ih =>
      rcases member with ⟨key, value⟩
      by_cases hSame : name = key
      · subst hSame
        by_cases hForbidden : isForbiddenKey name = true
        · by_cases hKey : name = "accountPassword"
          · subst hKey
            rw [cleanedMembers_password]
            simp [isForbiddenKey, forbiddenSecretKeys]
          · rw [cleanedMembers_secret hForbidden hKey, ih]
            simp [hForbidden, hKey]
        · rw [cleanedMembers_plain hForbidden]
          simp [hForbidden]
      · have hOther : (name == key) = false :=
          beq_eq_false_iff_ne.mpr hSame
        by_cases hForbidden : isForbiddenKey key = true
        · by_cases hKey : key = "accountPassword"
          · subst hKey
            rw [cleanedMembers_password, List.lookup_cons,
              List.lookup_cons, hOther, ih]
          · rw [cleanedMembers_secret hForbidden hKey, ih,
              List.lookup_cons, hOther]
        · rw [cleanedMembers_plain hForbidden,
            List.lookup_cons, List.lookup_cons, hOther, ih]

theorem child_cleaned
    (value : JsValue)
    {step : JsValue.Step}
    (hPlain : isPlain step = true) :
    (cleaned value).child? step =
      (value.child? step).map cleaned := by
  cases value with
  | array items =>
      rw [cleaned, cleanedItems_eq_map]
      cases step with
      | item index => exact List.getElem?_map
      | member name => rfl
  | object members =>
      rw [cleaned]
      cases step with
      | item index => rfl
      | member name =>
          have hName : ¬ isForbiddenKey name = true := by
            simpa [isPlain] using hPlain
          exact (lookup_cleanedMembers members name).trans
            (if_neg hName)
  | _ => rfl

theorem at_cleaned
    (value : JsValue)
    {path : List JsValue.Step}
    (hPlain : path.all isPlain = true) :
    (cleaned value).at? path =
      (value.at? path).map cleaned := by
  induction path generalizing value with
  | nil => rfl
  | cons step path ih =>
      rw [List.all_cons, Bool.and_eq_true] at hPlain
      rw [JsValue.at?, JsValue.at?, child_cleaned _ hPlain.1]
      cases value.child? step with
      | none => rfl
      | some child => exact ih child hPlain.2

theorem cleaned_redacts
    (value : JsValue) : Redacts value (cleaned value) where
  kept path hPlain := by
    rw [at_cleaned value hPlain, Option.map_map]
    exact congrArg (fun f => Option.map f (value.at? path))
      (funext node_cleaned)
  masked path hPlain := by
    rw [JsValue.at?_append, JsValue.at?_append,
      at_cleaned value hPlain]
    cases value.at? path with
    | none => rfl
    | some v =>
        change
          ((cleaned v).child? (.member "accountPassword")).bind
              some =
            ((v.child? (.member "accountPassword")).bind
              some).map (fun _ => .text protectedPassword)
        rw [Option.bind_fun_some, Option.bind_fun_some]
        cases v with
        | object members =>
            rw [cleaned]
            exact lookup_cleanedMembers members _
        | array items => rw [cleaned]; rfl
        | _ => rfl
  removed path name rest hPlain hForbidden hKey := by
    rw [JsValue.at?_append, at_cleaned value hPlain]
    cases value.at? path with
    | none => rfl
    | some v =>
        change
          ((cleaned v).child? (.member name)).bind
            (fun child => child.at? rest) = none
        cases v with
        | object members =>
            have hNone :
                (cleanedMembers members).lookup name = none := by
              rw [lookup_cleanedMembers, if_pos hForbidden,
                if_neg hKey]
            rw [cleaned, JsValue.child?, hNone]
            rfl
        | array items => rw [cleaned]; rfl
        | _ => rfl

------------------------------------------------------------
-- Accounts That Are Exported
------------------------------------------------------------

/- The members that are deleted from a clean account. -/
def exportDeletedKeys : List String :=
  ["password", "rawPassword", "cookies", "cookie",
    "credentials", "credential", "privateKey", "private_key",
    "session_token", "sessionToken", "token", "jwt",
    "refreshToken", "secret", "secretKey", "proxyPassword",
    "proxyAuth", "cardToken", "cvv", "authorizationCode"]

def deleteMembers
    (names : List String)
    (members : List (String × JsValue)) :
    List (String × JsValue) :=
  members.filter (fun m => decide (m.1 ∉ names))

/- `value && typeof value === 'object'` -/
def isObject : JsValue → Bool
| .array _ => true
| .object _ => true
| .circular => true
| _ => false

/- The copy of a configuration without names of secrets. -/
def cleanConfig (config : JsValue) : JsValue :=
  .object (deleteMembers forbiddenSecretKeys
    (config.members.foldl JsValue.assign []))

def withCleanConfig
    (members : List (String × JsValue)) :
    List (String × JsValue) :=
  let config := (JsValue.object members).field "effectiveConfig"
  if isObject config then
    JsValue.assign members
      ("effectiveConfig", cleanConfig config)
  else members

/- What becomes of the members of a sanitized account. -/
def exported
    (clean : List (String × JsValue)) :
    List (String × JsValue) :=
  withCleanConfig
    (deleteMembers exportDeletedKeys
      (JsValue.assign clean
        ("accountPassword", .text protectedPassword)))

mutual

def sanitizeAccountForExport :
    JsValue → Except JsError JsValue
| .array items => do
    let items ← sanitizeAccountsForExport items
    return .array items
| .object members => do
    let clean ← sanitizeMembers false members
    return .object (exported clean)
| .circular => .error .range
| value => .ok value

def sanitizeAccountsForExport :
    List JsValue → Except JsError (List JsValue)
| [] => .ok []
| item :: items => do
    let item ← sanitizeAccountForExport item
    let items ← sanitizeAccountsForExport items
    return item :: items

end

------------------------------------------------------------
-- Exported Accounts Are Clean
------------------------------------------------------------

theorem mem_deleteMembers
    {names : List String}
    {members : List (String × JsValue)}
    {member : String × JsValue} :
    member ∈ deleteMembers names members ↔
      member ∈ members ∧ member.1 ∉ names := by
  unfold deleteMembers
  rw [List.mem_filter, decide_eq_true_eq]

theorem deleteMembers_of_disjoint
    {names : List String}
    {members : List (String × JsValue)}
    (hDisjoint : ∀ member ∈ members, member.1 ∉ names) :
    deleteMembers names members = members := by
  unfold deleteMembers
  rw [List.filter_eq_self]
  intro member hMem
  exact decide_eq_true (hDisjoint member hMem)

theorem mem_of_mem_foldl_assign
    {base updates : List (String × JsValue)}
    {member : String × JsValue}
    (hMem : member ∈ updates.foldl JsValue.assign base) :
    member ∈ base ∨ member ∈ updates := by
  induction updates generalizing base with
  | nil => exact .inl hMem
  | cons update updates ih =>
      rcases ih hMem with hBase | hLater
      · rcases (JsValue.mem_assign_iff _ _ _).mp hBase with
          rfl | ⟨hOld, _⟩
        · exact .inr List.mem_cons_self
        · exact .inl hOld
      · exact .inr (List.mem_cons_of_mem _ hLater)

theorem mem_of_field
    (members : List (String × JsValue))
    (name : String)
    (hField :
      (JsValue.object members).field name ≠ .undefined) :
    (name, (JsValue.object members).field name) ∈ members := by
  change ((members.lookup name).getD .undefined) ≠ _ at hField
  change (name, (members.lookup name).getD .undefined) ∈ _
  cases hLookup : members.lookup name with
  | none =>
      rw [hLookup] at hField
      exact absurd rfl hField
  | some value =>
      rw [Option.getD_some]
      rcases List.lookup_eq_some_iff.mp hLookup with
        ⟨before, after, hMembers, _⟩
      rw [hMembers]
      exact List.mem_append_right _ List.mem_cons_self

/- Where a member of an exported account comes from. -/
theorem mem_exported
    {clean : List (String × JsValue)}
    {member : String × JsValue}
    (hMem : member ∈ exported clean) :
    member = ("accountPassword", .text protectedPassword) ∨
    (member ∈ clean ∧ member.1 ∉ exportDeletedKeys) ∨
    ∃ config,
      ("effectiveConfig", config) ∈ clean ∧
        member = ("effectiveConfig", cleanConfig config) := by
  have hBefore :
      ∀ m ∈ deleteMembers exportDeletedKeys
          (JsValue.assign clean
            ("accountPassword", .text protectedPassword)),
        m = ("accountPassword", .text protectedPassword) ∨
          m ∈ clean ∧ m.1 ∉ exportDeletedKeys := by
    intro m hm
    rcases mem_deleteMembers.mp hm with ⟨hAssigned, hName⟩
    rcases (JsValue.mem_assign_iff _ _ _).mp hAssigned with
      hSame | ⟨hOld, _⟩
    · exact .inl hSame
    · exact .inr ⟨hOld, hName⟩
  have hMerge :
      ∀ m, (m = ("accountPassword", .text protectedPassword) ∨
          m ∈ clean ∧ m.1 ∉ exportDeletedKeys) →
        m = ("accountPassword", .text protectedPassword) ∨
          (m ∈ clean ∧ m.1 ∉ exportDeletedKeys) ∨
          ∃ config, ("effectiveConfig", config) ∈ clean ∧
            m = ("effectiveConfig", cleanConfig config) :=
    fun m hm => hm.imp_right .inl
  unfold exported withCleanConfig at hMem
  dsimp only at hMem
  split at hMem
  · rename_i hObject
    rcases (JsValue.mem_assign_iff _ _ _).mp hMem with
      rfl | ⟨hOld, _⟩
    · refine .inr (.inr ⟨_, ?_, rfl⟩)
      have hField :=
        mem_of_field
          (deleteMembers exportDeletedKeys
            (JsValue.assign clean
              ("accountPassword", .text protectedPassword)))
          "effectiveConfig"
          (by
            intro hNone
            rw [hNone] at hObject
            nomatch hObject)
      rcases hBefore _ hField with hSame | ⟨hClean, _⟩
      · exact absurd (congrArg Prod.fst hSame)
          (show "effectiveConfig" ≠ "accountPassword" by decide)
      · exact hClean
    · exact hMerge _ (hBefore _ hOld)
  · exact hMerge _ (hBefore _ hMem)

theorem isForbiddenKey_iff
    (key : String) :
    isForbiddenKey key = true ↔ key ∈ forbiddenSecretKeys := by
  unfold isForbiddenKey
  rw [decide_eq_true_eq]

/- The two lists of names differ in the password only. -/
theorem mem_exportDeletedKeys
    {key : String} :
    key ∈ exportDeletedKeys ↔
      isForbiddenKey key = true ∧ key ≠ "accountPassword" := by
  have hForward :
      ∀ k ∈ exportDeletedKeys,
        k ∈ forbiddenSecretKeys ∧ k ≠ "accountPassword" := by
    decide
  have hBackward :
      ∀ k ∈ forbiddenSecretKeys,
        k ≠ "accountPassword" → k ∈ exportDeletedKeys := by
    decide
  rw [isForbiddenKey_iff]
  exact ⟨fun h => hForward key h,
    fun h => hBackward key h.1 h.2⟩

/- The members that a value lists hold what it holds. -/
theorem everywhere_of_mem_members
    {P : JsValue → Prop}
    (hText : ∀ t, P (.text t))
    {value : JsValue}
    (hValue : value.Everywhere P)
    {member : String × JsValue}
    (hMem : member ∈ value.members) :
    member.2.Everywhere P := by
  cases value with
  | object members =>
      exact ((JsValue.everywhere_object P members).mp hValue).2
        member hMem
  | array items =>
      rcases List.mem_map.mp hMem with ⟨item, hItem, rfl⟩
      exact ((JsValue.everywhere_array P items).mp hValue).2
        item.1 (List.fst_mem_of_mem_zipIdx hItem)
  | text value =>
      rcases List.mem_map.mp hMem with ⟨c, _, rfl⟩
      simpa only [JsValue.Everywhere] using hText _
  | _ => nomatch hMem

theorem mem_cleanConfig
    {config : JsValue}
    {member : String × JsValue}
    (hMem : member ∈ (cleanConfig config).members) :
    member ∈ config.members ∧
      isForbiddenKey member.1 ≠ true := by
  rcases mem_deleteMembers.mp hMem with ⟨hFold, hName⟩
  refine ⟨?_, ?_⟩
  · exact (mem_of_mem_foldl_assign hFold).resolve_left
      List.not_mem_nil
  · rw [Ne, isForbiddenKey_iff]
    exact hName

theorem exported_secretFree
    {clean : List (String × JsValue)}
    (hFree : SecretFree (.object clean)) :
    SecretFree (.object (exported clean)) := by
  rw [secretFree_object] at hFree ⊢
  intro member hMem
  rcases mem_exported hMem with
    rfl | ⟨hOld, _⟩ | ⟨config, hConfig, rfl⟩
  · exact ⟨allowed_protected, secretFree_of_isLeaf rfl⟩
  · exact hFree member hOld
  · have hPlain : ¬ isForbiddenKey "effectiveConfig" = true := by
      decide
    refine ⟨allowed_of_plain hPlain, ?_⟩
    rw [cleanConfig, secretFree_object]
    intro part hPart
    rcases mem_cleanConfig hPart with ⟨hMember, hName⟩
    exact ⟨allowed_of_plain hName,
      everywhere_of_mem_members (fun _ => trivial)
        (hFree _ hConfig).2 hMember⟩

/- No secret leaves in an account, whatever its value. -/
theorem sanitizeAccountForExport_secretFree
    {value out : JsValue}
    (hExport : sanitizeAccountForExport value = .ok out) :
    SecretFree out := by
  induction value using JsValue.induction
    generalizing out with
  | leaf value hLeaf =>
      cases value with
      | array items => nomatch hLeaf
      | object members => nomatch hLeaf
      | circular => nomatch hExport
      | _ =>
          cases hExport
          exact secretFree_of_isLeaf rfl
  | array items ih =>
      rw [sanitizeAccountForExport] at hExport
      rcases bind_eq_ok.mp hExport with ⟨outs, hOuts, hDone⟩
      cases hDone
      rw [secretFree_array]
      clear hExport
      induction items generalizing outs with
      | nil =>
          cases hOuts
          exact nofun
      | cons item items rest =>
          rw [List.forall_mem_cons] at ih
          rw [sanitizeAccountsForExport] at hOuts
          rcases bind_eq_ok.mp hOuts with ⟨copy, hCopy, hOuts⟩
          rcases bind_eq_ok.mp hOuts with
            ⟨others, hOthers, hOuts⟩
          cases hOuts
          rw [List.forall_mem_cons]
          exact ⟨ih.1 hCopy, rest ih.2 others hOthers⟩
  | object members ih =>
      rw [sanitizeAccountForExport] at hExport
      rcases bind_eq_ok.mp hExport with
        ⟨clean, hClean, hExport⟩
      cases hExport
      have hCleaned :
          JsValue.object clean = cleaned (.object members) := by
        apply sanitize_eq_cleaned
        rw [sanitize, hClean]
        rfl
      apply exported_secretFree
      rw [hCleaned]
      exact cleaned_secretFree _

------------------------------------------------------------
-- Exporting Twice
------------------------------------------------------------

theorem assign_of_agree
    {members : List (String × JsValue)}
    {name : String}
    {value : JsValue}
    (hMem : name ∈ members.map Prod.fst)
    (hAgree :
      ∀ member ∈ members, member.1 = name → member.2 = value) :
    JsValue.assign members (name, value) = members := by
  unfold JsValue.assign
  rw [if_pos hMem]
  refine (List.map_congr_left ?_).trans (List.map_id _)
  intro member hMember
  by_cases hName : member.1 = name
  · rw [if_pos hName]
    exact Prod.ext hName.symm (hAgree member hMember hName).symm
  · rw [if_neg hName]
    rfl

theorem foldl_assign_of_nodup
    {base updates : List (String × JsValue)}
    (hNodup : ((base ++ updates).map Prod.fst).Nodup) :
    updates.foldl JsValue.assign base = base ++ updates := by
  induction updates generalizing base with
  | nil => simp
  | cons update updates ih =>
      have hNew : update.1 ∉ base.map Prod.fst := by
        rw [List.map_append, List.map_cons,
          List.nodup_append] at hNodup
        intro hMem
        exact hNodup.2.2 _ hMem _ List.mem_cons_self rfl
      rw [List.foldl_cons, JsValue.assign_of_new hNew, ih (by
        rwa [List.append_assoc, List.singleton_append]),
        List.append_assoc, List.singleton_append]

theorem deleteMembers_names_nodup
    {members : List (String × JsValue)}
    (hNodup : (members.map Prod.fst).Nodup)
    (names : List String) :
    ((deleteMembers names members).map Prod.fst).Nodup :=
  hNodup.sublist (List.filter_sublist.map _)

theorem cleanConfig_cleanConfig
    (config : JsValue) :
    cleanConfig (cleanConfig config) = cleanConfig config := by
  have hFold :
      ((config.members.foldl JsValue.assign []).map
        Prod.fst).Nodup :=
    JsValue.foldl_assign_names_nodup (by simp) _
  have hNodup :
      ((cleanConfig config).members.map Prod.fst).Nodup :=
    deleteMembers_names_nodup hFold _
  rw [cleanConfig, foldl_assign_of_nodup (by
      rwa [List.nil_append]), List.nil_append,
    deleteMembers_of_disjoint]
  · rfl
  · intro member hMem hName
    exact (mem_cleanConfig hMem).2
      ((isForbiddenKey_iff _).mpr hName)

theorem exported_names_nodup
    {clean : List (String × JsValue)}
    (hNodup : (clean.map Prod.fst).Nodup) :
    ((exported clean).map Prod.fst).Nodup := by
  have hDeleted :=
    deleteMembers_names_nodup
      (JsValue.assign_names_nodup hNodup
        ("accountPassword", .text protectedPassword))
      exportDeletedKeys
  unfold exported withCleanConfig
  dsimp only
  split
  · exact JsValue.assign_names_nodup hDeleted _
  · exact hDeleted

theorem value_of_nodup
    {members : List (String × JsValue)}
    (hNodup : (members.map Prod.fst).Nodup)
    {member : String × JsValue}
    (hMem : member ∈ members) :
    (JsValue.object members).field member.1 = member.2 := by
  change (members.lookup member.1).getD .undefined = member.2
  induction members with
  | nil => cases hMem
  | cons first members ih =>
      rw [List.map_cons, List.nodup_cons] at hNodup
      rcases List.mem_cons.mp hMem with rfl | hLater
      · rw [List.lookup_cons, beq_self_eq_true]
        rfl
      · have hNe : (member.1 == first.1) = false := by
          rw [beq_eq_false_iff_ne]
          intro hSame
          exact hNodup.1 (hSame ▸ List.mem_map_of_mem hLater)
        rw [List.lookup_cons, hNe]
        exact ih hNodup.2 hLater

theorem password_mem_exported
    (clean : List (String × JsValue)) :
    "accountPassword" ∈ (exported clean).map Prod.fst := by
  have hAssigned :
      ("accountPassword", JsValue.text protectedPassword) ∈
        deleteMembers exportDeletedKeys
          (JsValue.assign clean
            ("accountPassword", .text protectedPassword)) := by
    rw [mem_deleteMembers]
    exact ⟨(JsValue.mem_assign_iff _ _ _).mpr (.inl rfl),
      by decide⟩
  unfold exported withCleanConfig
  dsimp only
  split
  · refine List.mem_map.mpr
      ⟨_, (JsValue.mem_assign_iff _ _ _).mpr
        (.inr ⟨hAssigned, ?_⟩), rfl⟩
    exact (show "accountPassword" ≠ "effectiveConfig" by decide)
  · exact List.mem_map_of_mem hAssigned

/- A configuration that is left is a clean one. -/
theorem withCleanConfig_config
    {members : List (String × JsValue)}
    (hObject :
      isObject ((JsValue.object
        (withCleanConfig members)).field "effectiveConfig") =
          true) :
    ∃ config,
      (JsValue.object (withCleanConfig members)).field
          "effectiveConfig" = cleanConfig config := by
  unfold withCleanConfig at hObject ⊢
  dsimp only at hObject ⊢
  by_cases hBefore :
      isObject ((JsValue.object members).field
        "effectiveConfig") = true
  · refine ⟨(JsValue.object members).field
      "effectiveConfig", ?_⟩
    rw [if_pos hBefore]
    change
      ((JsValue.assign members ("effectiveConfig", _)).lookup
        "effectiveConfig").getD .undefined = _
    rw [JsValue.lookup_assign_self]
    rfl
  · rw [if_neg hBefore] at hObject
    exact absurd hObject hBefore

/- Clean members of an export are exported as they are. -/
theorem exported_exported
    {clean : List (String × JsValue)}
    (hNodup : (clean.map Prod.fst).Nodup)
    (hFree : SecretFree (.object clean)) :
    exported (exported clean) = exported clean := by
  have hOut := exported_secretFree hFree
  rw [secretFree_object] at hOut
  have hMarked :
      JsValue.assign (exported clean)
          ("accountPassword", .text protectedPassword) =
        exported clean := by
    apply assign_of_agree (password_mem_exported clean)
    intro member hMem hName
    exact ((hOut member hMem).1
      (by rw [hName]; decide)).2
  have hDeleted :
      deleteMembers exportDeletedKeys (exported clean) =
        exported clean := by
    apply deleteMembers_of_disjoint
    intro member hMem hName
    rcases mem_exportDeletedKeys.mp hName with
      ⟨hForbidden, hKey⟩
    exact hKey ((hOut member hMem).1 hForbidden).1
  have hUnfold :
      exported (exported clean) =
        withCleanConfig (exported clean) := by
    conv_lhs => rw [exported, hMarked, hDeleted]
  rw [hUnfold, withCleanConfig]
  split
  · rename_i hObject
    rcases withCleanConfig_config hObject with
      ⟨config, hConfig⟩
    change
      (JsValue.object (exported clean)).field
        "effectiveConfig" = _ at hConfig
    rw [hConfig, cleanConfig_cleanConfig, ← hConfig]
    have hMem :=
      mem_of_field (exported clean) "effectiveConfig"
        (by
          rw [hConfig]
          exact nofun)
    apply assign_of_agree (List.mem_map_of_mem hMem)
    intro member hMember hName
    have hValue :=
      value_of_nodup (exported_names_nodup hNodup) hMember
    rw [show member.1 = "effectiveConfig" from hName] at hValue
    exact hValue.symm
  · rfl

theorem exported_acyclic
    {clean : List (String × JsValue)}
    (hAcyclic : (JsValue.object clean).Acyclic) :
    (JsValue.object (exported clean)).Acyclic := by
  unfold JsValue.Acyclic at hAcyclic ⊢
  rw [JsValue.everywhere_object] at hAcyclic ⊢
  refine ⟨nofun, ?_⟩
  intro member hMem
  rcases mem_exported hMem with
    rfl | ⟨hOld, _⟩ | ⟨config, hConfig, rfl⟩
  · rw [JsValue.everywhere_of_isLeaf _ rfl]
    exact nofun
  · exact hAcyclic.2 member hOld
  · rw [cleanConfig, JsValue.everywhere_object]
    refine ⟨nofun, ?_⟩
    intro part hPart
    exact everywhere_of_mem_members (fun _ => nofun)
      (hAcyclic.2 _ hConfig) (mem_cleanConfig hPart).1

theorem cleanedMembers_names_sublist
    (members : List (String × JsValue)) :
    ((cleanedMembers members).map Prod.fst).Sublist
      (members.map Prod.fst) := by
  have hNode := node_cleaned (.object members)
  rw [cleaned] at hNode
  injection hNode with hNames
  rw [hNames]
  exact List.filter_sublist

theorem sanitizeMembers_of_sanitize
    {members clean : List (String × JsValue)}
    (hClean :
      sanitize false (.object members) =
        .ok (.object clean)) :
    sanitizeMembers false members = .ok clean := by
  rw [sanitize] at hClean
  rcases bind_eq_ok.mp hClean with ⟨copy, hCopy, hDone⟩
  cases hDone
  exact hCopy

/- An account of JSON values is exported, and only once. -/
theorem sanitizeAccountForExport_twice
    {value : JsValue}
    (hJson : value.IsJson) :
    ∃ out,
      sanitizeAccountForExport value = .ok out ∧
        sanitizeAccountForExport out = .ok out := by
  have hAcyclic := hJson.acyclic
  unfold JsValue.IsJson at hJson
  unfold JsValue.Acyclic at hAcyclic
  induction value using JsValue.induction with
  | leaf value hLeaf =>
      refine ⟨value, ?_⟩
      cases value with
      | array items => nomatch hLeaf
      | object members => nomatch hLeaf
      | circular => exact absurd rfl hAcyclic.here
      | _ => exact ⟨rfl, rfl⟩
  | array items ih =>
      rw [JsValue.everywhere_array] at hJson hAcyclic
      have hItems :
          ∃ outs,
            sanitizeAccountsForExport items = .ok outs ∧
              sanitizeAccountsForExport outs = .ok outs := by
        replace hJson := hJson.2
        replace hAcyclic := hAcyclic.2
        induction items with
        | nil => exact ⟨[], rfl, rfl⟩
        | cons item items rest =>
            rw [List.forall_mem_cons] at ih hJson hAcyclic
            rcases ih.1 hJson.1 hAcyclic.1 with
              ⟨out, hOut, hAgain⟩
            rcases rest ih.2 hJson.2 hAcyclic.2 with
              ⟨outs, hOuts, hAllAgain⟩
            refine ⟨out :: outs, ?_, ?_⟩
            · rw [sanitizeAccountsForExport, hOut, hOuts]
              rfl
            · rw [sanitizeAccountsForExport, hAgain, hAllAgain]
              rfl
      rcases hItems with ⟨outs, hOuts, hAgain⟩
      refine ⟨.array outs, ?_, ?_⟩
      · rw [sanitizeAccountForExport, hOuts]
        rfl
      · rw [sanitizeAccountForExport, hAgain]
        rfl
  | object members ih =>
      have hNodup :
          ((cleanedMembers members).map Prod.fst).Nodup :=
        hJson.here.1.sublist
          (cleanedMembers_names_sublist members)
      have hFree :
          SecretFree (.object (cleanedMembers members)) := by
        have hCleaned := cleaned_secretFree (.object members)
        rwa [cleaned] at hCleaned
      have hCopy :
          (JsValue.object (cleanedMembers members)).Acyclic := by
        have hCleaned := cleaned_acyclic hAcyclic
        rwa [cleaned] at hCleaned
      have hFirst :
          sanitizeMembers false members =
            .ok (cleanedMembers members) := by
        apply sanitizeMembers_of_sanitize
        rw [sanitize_acyclic hAcyclic, cleaned]
      have hSecond :
          sanitizeMembers false
              (exported (cleanedMembers members)) =
            .ok (exported (cleanedMembers members)) :=
        sanitizeMembers_of_sanitize
          (sanitize_of_secretFree (exported_acyclic hCopy)
            (exported_secretFree hFree))
      refine ⟨.object (exported (cleanedMembers members)),
        ?_, ?_⟩
      · rw [sanitizeAccountForExport, hFirst]
        rfl
      · rw [sanitizeAccountForExport, hSecond]
        change
          Except.ok
              (JsValue.object
                (exported (exported (cleanedMembers members)))) =
            _
        rw [exported_exported hNodup hFree]

/-
  A JSON value has one clean copy, and the strict mode takes
  the values that are their own. Cleaning for an export adds
  nothing when it is done again.
-/
theorem sanitizer_is_correct
    (value : JsValue)
    (hJson : value.IsJson) :
    (∃ clean,
      sanitize false value = .ok clean ∧
        SecretFree clean ∧
        Redacts value clean ∧
        sanitize false clean = .ok clean ∧
        (assertZeroSecrets value = .ok () ↔ clean = value)) ∧
    ∃ out,
      sanitizeAccountForExport value = .ok out ∧
        SecretFree out ∧
        sanitizeAccountForExport out = .ok out := by
  refine ⟨⟨cleaned value, sanitize_acyclic hJson.acyclic,
    cleaned_secretFree value, cleaned_redacts value,
    sanitize_of_secretFree (cleaned_acyclic hJson.acyclic)
      (cleaned_secretFree value), ?_⟩, ?_⟩
  · rw [cleaned_eq_self_iff]
    exact assertZeroSecrets_iff hJson.acyclic
  · rcases sanitizeAccountForExport_twice hJson with
      ⟨out, hOut, hAgain⟩
    exact ⟨out, hOut,
      sanitizeAccountForExport_secretFree hOut, hAgain⟩

/- An account with two secrets, one of them in a list. -/
def secretAccount : JsValue :=
  .object
    [("id", .text "acc_1"),
      ("accountPassword", .text "hunter2"),
      ("effectiveConfig",
        .array [.object [("token", .text "t")]])]

theorem secret_account_is_cleaned :
    (∃ clean,
      sanitize false secretAccount = .ok clean ∧
        SecretFree clean ∧
        Redacts secretAccount clean ∧
        sanitize false clean = .ok clean ∧
        (assertZeroSecrets secretAccount = .ok () ↔
          clean = secretAccount)) ∧
    ∃ out,
      sanitizeAccountForExport secretAccount = .ok out ∧
        SecretFree out ∧
        sanitizeAccountForExport out = .ok out :=
  sanitizer_is_correct secretAccount (by decide)

end SanitizerGate

end Mutators

end ControlPlane
