import ControlPlane.Data.OrderedMap

/-
  Tables with a primary key.

  A table is a list of rows in the order of their insertion.
  The key of a row may be null: two rows with the same key
  conflict, and a null key conflicts with none. A lookup is
  determined by membership, so what is read from a table
  does not depend on the order of its rows.

  Main declarations:
    * `Table.insertOrReplace`, `updateKey`, `deleteWhere`
    * `Table.find?` and its law for each operation
    * `OrderedMap.load` and `OrderedMap.get?_load`
-/

------------------------------------------------------------
-- Rows And Statements
------------------------------------------------------------

namespace ControlPlane

/- Rows whose keys are distinct where they are not null. -/
structure Table (ρ κ : Type) (key : ρ → Option κ) where
  rows : List ρ
  unique :
    rows.Pairwise (fun a b => key a = none ∨ key a ≠ key b)

namespace Table

variable {ρ κ : Type} {key : ρ → Option κ}

/- The table that has just been created. -/
def empty : Table ρ κ key where
  rows := []
  unique := List.Pairwise.nil

/- Delete the rows that satisfy a test. -/
def deleteWhere
    (t : Table ρ κ key)
    (p : ρ → Bool) : Table ρ κ key where
  rows := t.rows.filter (fun row => !p row)
  unique := t.unique.filter _

variable [DecidableEq κ]

/-
  Change the row of a key, but not the key. Nothing equals a
  null key.
-/
def updateKey
    (t : Table ρ κ key)
    (k : Option κ)
    (f : ρ → ρ)
    (hKey : ∀ row, key (f row) = key row) :
    Table ρ κ key where
  rows :=
    t.rows.map
      (fun row =>
        if k ≠ none ∧ key row = k then f row else row)
  unique := by
    have hSame :
        ∀ row,
          key (if k ≠ none ∧ key row = k then f row
            else row) = key row := by
      intro row
      split
      · exact hKey row
      · rfl
    rw [List.pairwise_map]
    simpa only [hSame] using t.unique

/- The row takes the place of every row it conflicts with. -/
def insertOrReplace
    (t : Table ρ κ key)
    (row : ρ) : Table ρ κ key where
  rows :=
    t.rows.filter
      (fun old =>
        decide (key old = none ∨ key old ≠ key row)) ++ [row]
  unique := by
    rw [List.pairwise_append]
    refine ⟨t.unique.filter _, List.pairwise_singleton _ _, ?_⟩
    intro old hOld new hNew
    rw [List.mem_singleton.mp hNew]
    simpa using (List.mem_filter.mp hOld).2

/- The row of a key. -/
def find?
    (t : Table ρ κ key)
    (k : κ) : Option ρ :=
  t.rows.find? (fun row => decide (key row = some k))

------------------------------------------------------------
-- Lookup Laws
------------------------------------------------------------

/- Lookup is membership. -/
theorem find?_eq_some_iff
    (t : Table ρ κ key)
    (k : κ)
    (row : ρ) :
    t.find? k = some row ↔
      row ∈ t.rows ∧ key row = some k := by
  constructor
  · intro hFind
    refine ⟨List.mem_of_find?_eq_some hFind, ?_⟩
    simpa using List.find?_some hFind
  · rintro ⟨hMem, hKey⟩
    rcases t with ⟨rows, hUnique⟩
    unfold find?
    dsimp only at hMem ⊢
    induction rows with
    | nil => cases hMem
    | cons first rest ih =>
        rw [List.pairwise_cons] at hUnique
        rcases List.mem_cons.mp hMem with hHead | hTail
        · rw [← hHead]
          simp [hKey]
        · have hFirst : key first ≠ some k := by
            intro hSame
            rcases hUnique.1 row hTail with hNull | hNe
            · rw [hNull] at hSame
              cases hSame
            · exact hNe (hSame.trans hKey.symm)
          rw [List.find?_cons_of_neg (by simpa using hFirst)]
          exact ih hUnique.2 hTail

theorem find?_insertOrReplace
    (t : Table ρ κ key)
    (row : ρ)
    (k : κ) :
    (t.insertOrReplace row).find? k =
      if key row = some k then some row else t.find? k := by
  apply Option.ext
  intro found
  rw [find?_eq_some_iff]
  unfold insertOrReplace
  simp only [List.mem_append, List.mem_filter,
    List.mem_singleton, decide_eq_true_eq]
  by_cases hKey : key row = some k
  · rw [if_pos hKey]
    constructor
    · rintro ⟨⟨_, hNull | hNe⟩ | hSame, hFound⟩
      · rw [hNull] at hFound
        cases hFound
      · exact absurd (hFound.trans hKey.symm) hNe
      · rw [hSame]
    · intro hSame
      rw [← Option.some.inj hSame]
      exact ⟨.inr rfl, hKey⟩
  · rw [if_neg hKey, find?_eq_some_iff]
    constructor
    · rintro ⟨⟨hMem, _⟩ | hSame, hFound⟩
      · exact ⟨hMem, hFound⟩
      · exact absurd (hSame ▸ hFound) hKey
    · rintro ⟨hMem, hFound⟩
      refine ⟨.inl ⟨hMem, .inr ?_⟩, hFound⟩
      intro hSame
      exact hKey (hSame.symm.trans hFound)

theorem find?_deleteWhere
    (t : Table ρ κ key)
    (p : ρ → Bool)
    (k : κ) :
    (t.deleteWhere p).find? k =
      (t.find? k).filter (fun row => !p row) := by
  apply Option.ext
  intro found
  rw [find?_eq_some_iff, Option.filter_eq_some_iff,
    find?_eq_some_iff]
  unfold deleteWhere
  simp only [List.mem_filter]
  tauto

theorem find?_updateKey
    (t : Table ρ κ key)
    (changed : Option κ)
    (f : ρ → ρ)
    (hKey : ∀ row, key (f row) = key row)
    (k : κ) :
    (t.updateKey changed f hKey).find? k =
      if changed = some k then (t.find? k).map f
      else t.find? k := by
  apply Option.ext
  intro found
  rw [find?_eq_some_iff]
  unfold updateKey
  simp only [List.mem_map]
  by_cases hChanged : changed = some k
  · rw [if_pos hChanged, Option.map_eq_some_iff]
    simp only [find?_eq_some_iff]
    constructor
    · rintro ⟨⟨row, hMem, rfl⟩, hFound⟩
      split at hFound
      · rename_i hRow
        refine ⟨row, ⟨hMem, hRow.2.trans hChanged⟩, ?_⟩
        rw [if_pos hRow]
      · rename_i hOther
        exact absurd
          ⟨by simp [hChanged], hFound.trans hChanged.symm⟩
          hOther
    · rintro ⟨row, ⟨hMem, hFound⟩, rfl⟩
      refine ⟨⟨row, hMem, ?_⟩, (hKey row).trans hFound⟩
      rw [if_pos ⟨by simp [hChanged],
        hFound.trans hChanged.symm⟩]
  · rw [if_neg hChanged, find?_eq_some_iff]
    constructor
    · rintro ⟨⟨row, hMem, rfl⟩, hFound⟩
      split at hFound
      · rename_i hRow
        rw [hKey] at hFound
        exact absurd (hRow.2.symm.trans hFound) hChanged
      · rename_i hOther
        rw [if_neg hOther]
        exact ⟨hMem, hFound⟩
    · rintro ⟨hMem, hFound⟩
      refine ⟨⟨found, hMem, ?_⟩, hFound⟩
      rw [if_neg]
      rintro ⟨_, hSame⟩
      exact hChanged (hSame.symm.trans hFound)

/- No row has a null key. -/
def NonNull (t : Table ρ κ key) : Prop :=
  ∀ row ∈ t.rows, key row ≠ none

theorem NonNull.insertOrReplace
    {t : Table ρ κ key}
    (hNonNull : t.NonNull)
    {row : ρ}
    (hRow : key row ≠ none) :
    (t.insertOrReplace row).NonNull := by
  intro found hFound
  rcases List.mem_append.mp hFound with hOld | hNew
  · exact hNonNull found (List.mem_of_mem_filter hOld)
  · rw [List.mem_singleton.mp hNew]
    exact hRow

theorem NonNull.updateKey
    {t : Table ρ κ key}
    (hNonNull : t.NonNull)
    (changed : Option κ)
    (f : ρ → ρ)
    (hKey : ∀ row, key (f row) = key row) :
    (t.updateKey changed f hKey).NonNull := by
  intro found hFound
  rcases List.mem_map.mp hFound with ⟨row, hMem, rfl⟩
  split
  · rw [hKey]
    exact hNonNull row hMem
  · exact hNonNull row hMem

end Table

------------------------------------------------------------
-- Maps From Rows
------------------------------------------------------------

namespace OrderedMap

variable {ρ κ ν : Type} [DecidableEq κ]

/- Store the rows of a query, one after the other. -/
def load
    (key : ρ → κ)
    (value : ρ → ν)
    (rows : List ρ) : OrderedMap κ ν :=
  rows.foldl (fun m row => m.set (key row) (value row)) empty

theorem get?_foldl_set
    (key : ρ → κ)
    (value : ρ → ν)
    (k : κ)
    {rows : List ρ}
    (hDistinct :
      rows.Pairwise (fun a b => key a = k → key b ≠ k))
    (m : OrderedMap κ ν)
    (v : ν) :
    (rows.foldl
        (fun m row => m.set (key row) (value row)) m).get? k =
          some v ↔
      (∃ row ∈ rows, key row = k ∧ value row = v) ∨
        (∀ row ∈ rows, key row ≠ k) ∧ m.get? k = some v := by
  induction rows generalizing m with
  | nil => simp
  | cons first rest ih =>
      rw [List.pairwise_cons] at hDistinct
      rw [List.foldl_cons, ih hDistinct.2, get?_set]
      by_cases hFirst : key first = k
      · have hRest : ∀ row ∈ rest, key row ≠ k := by
          intro row hRow
          exact hDistinct.1 row hRow hFirst
        have hNone :
            ¬ ∃ row ∈ rest, key row = k ∧ value row = v := by
          rintro ⟨row, hRow, hKey, _⟩
          exact hRest row hRow hKey
        simp only [hFirst, hNone, List.exists_mem_cons_iff,
          List.forall_mem_cons, if_true, true_and, or_false,
          false_or, ne_eq, not_true_eq_false, false_and,
          Option.some.injEq]
        exact and_iff_right hRest
      · have hNe : k ≠ key first := fun h => hFirst h.symm
        simp [hFirst, hNe]

/- What is loaded under a key that no two rows share. -/
theorem get?_load
    (key : ρ → κ)
    (value : ρ → ν)
    {k : κ}
    {rows : List ρ}
    (hDistinct :
      rows.Pairwise (fun a b => key a = k → key b ≠ k))
    (v : ν) :
    (load key value rows).get? k = some v ↔
      ∃ row ∈ rows, key row = k ∧ value row = v := by
  unfold load
  rw [get?_foldl_set key value k hDistinct]
  simp [empty, get?]

end OrderedMap

end ControlPlane
