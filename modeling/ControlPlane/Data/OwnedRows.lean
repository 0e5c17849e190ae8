import Mathlib.Data.List.Pairwise
import ControlPlane.Data.Table

/-
  Tables whose rows have owners.

  The primary key of a table can be shared by all owners. A
  statement that names an owner touches no row of another
  one. An upsert goes by the key alone: it touches the row of
  another owner exactly where that row has the key.

  Main declarations:
    * `Table.upsert` and `Table.updateWhere`
    * `Table.find?_upsert` and `find?_updateWhere`
    * `Table.rowsOf`
    * `Table.rowsOf_upsert` and `rowsOf_deleteWhere`
    * `Table.rowsOf_updateWhere`
    * `Table.head?_rowsOf` and `rowsOf_upsert_self`
-/

------------------------------------------------------------
-- Statements
------------------------------------------------------------

namespace ControlPlane

namespace Table

variable {ρ κ ο : Type} {key : ρ → Option κ}

/- Change the rows that satisfy a test, but not their keys. -/
def updateWhere
    (t : Table ρ κ key)
    (p : ρ → Bool)
    (f : ρ → ρ)
    (hKey : ∀ row, key (f row) = key row) :
    Table ρ κ key where
  rows := t.rows.map (fun row => if p row then f row else row)
  unique := by
    have hSame :
        ∀ row, key (if p row then f row else row) = key row := by
      intro row
      split
      · exact hKey row
      · rfl
    rw [List.pairwise_map]
    simpa only [hSame] using t.unique

section Keys

variable [DecidableEq κ]

/- Insert a row, or merge it into the row with its key. -/
def upsert
    (t : Table ρ κ key)
    (row : ρ)
    (merge : ρ → ρ)
    (hKey : ∀ old, key (merge old) = key old) :
    Table ρ κ key :=
  if t.rows.any
      (fun old =>
        decide (key row ≠ none ∧ key old = key row)) then
    t.updateKey (key row) merge hKey
  else t.insertOrReplace row

end Keys

/- A row is found as it was merged or inserted. -/
theorem find?_upsert
    [DecidableEq κ]
    (t : Table ρ κ key)
    (row : ρ)
    (merge : ρ → ρ)
    (hKey : ∀ old, key (merge old) = key old)
    (k : κ) :
    (t.upsert row merge hKey).find? k =
      if key row = some k then
        some (((t.find? k).map merge).getD row)
      else t.find? k := by
  unfold upsert
  by_cases hRow : key row = some k
  · rw [if_pos hRow]
    split
    · rename_i hAny
      rcases List.any_eq_true.mp hAny with ⟨old, hOld, hSame⟩
      have hFind : t.find? k = some old :=
        (find?_eq_some_iff t k old).mpr
          ⟨hOld, (of_decide_eq_true hSame).2.trans hRow⟩
      rw [find?_updateKey, if_pos hRow, hFind]
      rfl
    · rename_i hNone
      have hFind : t.find? k = none := by
        rw [Option.eq_none_iff_forall_ne_some]
        intro old hFound
        rcases (find?_eq_some_iff t k old).mp hFound with
          ⟨hOld, hSame⟩
        apply hNone
        rw [List.any_eq_true]
        refine ⟨old, hOld, decide_eq_true ⟨?_, ?_⟩⟩
        · rw [hRow]
          exact Option.some_ne_none k
        · rw [hSame, hRow]
      rw [find?_insertOrReplace, if_pos hRow, hFind]
      rfl
  · rw [if_neg hRow]
    split
    · rw [find?_updateKey, if_neg hRow]
    · rw [find?_insertOrReplace, if_neg hRow]

theorem find?_updateWhere
    [DecidableEq κ]
    (t : Table ρ κ key)
    (p : ρ → Bool)
    (f : ρ → ρ)
    (hKey : ∀ row, key (f row) = key row)
    (k : κ) :
    (t.updateWhere p f hKey).find? k =
      (t.find? k).map (fun row => if p row then f row else row) := by
  have hSame :
      ∀ row, key (if p row then f row else row) = key row := by
    intro row
    split
    · exact hKey row
    · rfl
  apply Option.ext
  intro found
  rw [find?_eq_some_iff, Option.map_eq_some_iff]
  simp only [find?_eq_some_iff]
  unfold updateWhere
  dsimp only
  rw [List.mem_map]
  constructor
  · rintro ⟨⟨row, hMem, rfl⟩, hFound⟩
    exact ⟨row, ⟨hMem, (hSame row).symm.trans hFound⟩, rfl⟩
  · rintro ⟨row, ⟨hMem, hFound⟩, rfl⟩
    exact ⟨⟨row, hMem, rfl⟩, (hSame row).trans hFound⟩

/- Distinct rows have distinct keys, unless these are null. -/
theorem key_ne_of_ne
    {t : Table ρ κ key}
    {a b : ρ}
    (hA : a ∈ t.rows)
    (hB : b ∈ t.rows)
    (hNe : a ≠ b) :
    key a = none ∨ key a ≠ key b := by
  have hSymm :
      Std.Symm
        (fun a b : ρ => key a = none ∨ key a ≠ key b) := by
    constructor
    intro a b hAB
    by_cases hNull : key b = none
    · exact .inl hNull
    · rcases hAB with hNone | hDiffer
      · refine .inr ?_
        rw [hNone]
        exact hNull
      · exact .inr (Ne.symm hDiffer)
  exact t.unique.forall hA hB hNe

------------------------------------------------------------
-- The Rows Of An Owner
------------------------------------------------------------

variable [DecidableEq ο]

/- The rows of one owner, in their order. -/
def rowsOf
    (owner : ρ → ο)
    (o : ο)
    (t : Table ρ κ key) : List ρ :=
  t.rows.filter (fun row => decide (owner row = o))

theorem mem_rowsOf_iff
    {owner : ρ → ο}
    {o : ο}
    {t : Table ρ κ key}
    {row : ρ} :
    row ∈ t.rowsOf owner o ↔ row ∈ t.rows ∧ owner row = o := by
  unfold rowsOf
  rw [List.mem_filter, decide_eq_true_eq]

/- The rows of an owner stay where a change spares them. -/
theorem filter_map_of_spared
    {owner : ρ → ο}
    {o : ο}
    {rows : List ρ}
    {f : ρ → ρ}
    (hOwner : ∀ row ∈ rows, owner (f row) = owner row)
    (hSpared : ∀ row ∈ rows, owner row = o → f row = row) :
    (rows.map f).filter (fun row => decide (owner row = o)) =
      rows.filter (fun row => decide (owner row = o)) := by
  induction rows with
  | nil => rfl
  | cons row rows ih =>
      rw [List.forall_mem_cons] at hOwner hSpared
      have hRest := ih hOwner.2 hSpared.2
      rw [List.map_cons, List.filter_cons, List.filter_cons,
        hOwner.1, hRest]
      by_cases hMine : owner row = o
      · rw [hSpared.1 hMine]
      · simp [hMine]

theorem rowsOf_updateWhere
    {owner : ρ → ο}
    {o : ο}
    {t : Table ρ κ key}
    {p : ρ → Bool}
    {f : ρ → ρ}
    (hKey : ∀ row, key (f row) = key row)
    (hOwner : ∀ row, owner (f row) = owner row)
    (hSpared : ∀ row ∈ t.rowsOf owner o, p row = false) :
    (t.updateWhere p f hKey).rowsOf owner o =
      t.rowsOf owner o := by
  refine filter_map_of_spared ?_ ?_
  · intro row _
    split
    · exact hOwner row
    · rfl
  · intro row hMem hMine
    rw [hSpared row (mem_rowsOf_iff.mpr ⟨hMem, hMine⟩)]
    rfl

theorem rowsOf_deleteWhere
    {owner : ρ → ο}
    {o : ο}
    {t : Table ρ κ key}
    {p : ρ → Bool}
    (hSpared : ∀ row ∈ t.rowsOf owner o, p row = false) :
    (t.deleteWhere p).rowsOf owner o = t.rowsOf owner o := by
  unfold rowsOf deleteWhere
  rw [List.filter_filter]
  refine List.filter_congr ?_
  intro row hMem
  by_cases hMine : owner row = o
  · rw [hSpared row (mem_rowsOf_iff.mpr ⟨hMem, hMine⟩)]
    simp
  · simp [hMine]

/- The rows of an owner are gone when they are deleted. -/
theorem rowsOf_deleteWhere_self
    {owner : ρ → ο}
    {o : ο}
    {t : Table ρ κ key} :
    (t.deleteWhere
        (fun row => decide (owner row = o))).rowsOf owner o =
      [] := by
  unfold rowsOf deleteWhere
  rw [List.filter_filter, List.filter_eq_nil_iff]
  intro row _
  by_cases hMine : owner row = o
  · simp [hMine]
  · simp [hMine]

/- No row of the owner has the key. -/
def FreeOf
    (owner : ρ → ο)
    (o : ο)
    (t : Table ρ κ key)
    (k : Option κ) : Prop :=
  ∀ row ∈ t.rowsOf owner o, k = none ∨ key row ≠ k

theorem rowsOf_upsert
    [DecidableEq κ]
    {owner : ρ → ο}
    {o : ο}
    {t : Table ρ κ key}
    {row : ρ}
    {merge : ρ → ρ}
    (hKey : ∀ old, key (merge old) = key old)
    (hOwner : ∀ old, owner (merge old) = owner old)
    (hOther : owner row ≠ o)
    (hFree : t.FreeOf owner o (key row)) :
    (t.upsert row merge hKey).rowsOf owner o =
      t.rowsOf owner o := by
  have hSpared :
      ∀ old ∈ t.rowsOf owner o,
        ¬(key row ≠ none ∧ key old = key row) := by
    rintro old hOld ⟨hNonNull, hSame⟩
    rcases hFree old hOld with hNull | hNe
    · exact hNonNull hNull
    · exact hNe hSame
  unfold upsert
  split
  · refine filter_map_of_spared ?_ ?_
    · intro old _
      split
      · exact hOwner old
      · rfl
    · intro old hMem hMine
      exact if_neg
        (hSpared old (mem_rowsOf_iff.mpr ⟨hMem, hMine⟩))
  · rename_i hAbsent
    have hAll :
        ∀ old ∈ t.rows,
          key old = none ∨ key old ≠ key row := by
      intro old hMem
      by_cases hNull : key old = none
      · exact .inl hNull
      · refine .inr ?_
        intro hSame
        refine hAbsent (List.any_eq_true.mpr
          ⟨old, hMem, ?_⟩)
        simpa [hSame] using hSame ▸ hNull
    unfold rowsOf insertOrReplace
    rw [List.filter_append,
      List.filter_eq_self.mpr
        (fun old hMem => decide_eq_true (hAll old hMem))]
    simp [hOther]

/- A key that stands for an owner finds the first row. -/
theorem head?_rowsOf
    [DecidableEq κ]
    {owner : ρ → ο}
    {o : ο}
    {k : κ}
    (hKey : ∀ row, key row = some k ↔ owner row = o)
    (t : Table ρ κ key) :
    (t.rowsOf owner o).head? = t.find? k := by
  unfold rowsOf find?
  rw [List.head?_filter]
  congr 1
  funext row
  exact decide_eq_decide.mpr (hKey row).symm

/-
  The rows of an owner take a row of it in the place of the
  one with its key, or at their end.
-/
theorem rowsOf_upsert_self
    [DecidableEq κ]
    {owner : ρ → ο}
    {o : ο}
    {t : Table ρ κ key}
    {row : ρ}
    {merge : ρ → ρ}
    {k : κ}
    (hKey : ∀ old, key (merge old) = key old)
    (hOwner : ∀ old, owner (merge old) = owner old)
    (hMine : owner row = o)
    (hRow : key row = some k)
    (hOwn : ∀ old ∈ t.rows, key old = some k → owner old = o) :
    (t.upsert row merge hKey).rowsOf owner o =
      if ∃ old ∈ t.rowsOf owner o, key old = some k then
        (t.rowsOf owner o).map
          (fun old => if key old = some k then merge old else old)
      else t.rowsOf owner o ++ [row] := by
  have hNonNull : key row ≠ none := by
    rw [hRow]
    exact Option.some_ne_none k
  have hAny :
      t.rows.any
          (fun old =>
            decide (key row ≠ none ∧ key old = key row)) = true ↔
        ∃ old ∈ t.rowsOf owner o, key old = some k := by
    rw [List.any_eq_true]
    simp only [mem_rowsOf_iff, hRow, decide_eq_true_eq]
    constructor
    · rintro ⟨old, hOld, _, hSame⟩
      exact ⟨old, ⟨hOld, hOwn old hOld hSame⟩, hSame⟩
    · rintro ⟨old, ⟨hOld, _⟩, hSame⟩
      exact ⟨old, hOld, Option.some_ne_none k, hSame⟩
  unfold upsert
  by_cases hThere : ∃ old ∈ t.rowsOf owner o, key old = some k
  · rw [if_pos (hAny.mpr hThere), if_pos hThere]
    unfold rowsOf updateKey
    dsimp only
    rw [List.filter_map]
    have hKept :
        (fun old => decide (owner old = o)) ∘
            (fun old =>
              if key row ≠ none ∧ key old = key row then
                merge old
              else old) =
          fun old => decide (owner old = o) := by
      funext old
      dsimp only [Function.comp]
      split
      · rw [hOwner]
      · rfl
    rw [hKept]
    refine List.map_congr_left ?_
    intro old _
    simp only [hRow, ne_eq, reduceCtorEq, not_false_eq_true,
      true_and]
  · rw [if_neg (fun hFound => hThere (hAny.mp hFound)),
      if_neg hThere]
    have hAll :
        ∀ old ∈ t.rows,
          key old = none ∨ key old ≠ key row := by
      intro old hOld
      refine .inr ?_
      intro hSame
      rw [hRow] at hSame
      exact hThere ⟨old,
        mem_rowsOf_iff.mpr ⟨hOld, hOwn old hOld hSame⟩, hSame⟩
    unfold rowsOf insertOrReplace
    rw [List.filter_append,
      List.filter_eq_self.mpr
        (fun old hMem => decide_eq_true (hAll old hMem)),
      List.filter_singleton, decide_eq_true hMine]
    rfl

end Table

end ControlPlane
