import Mathlib.Data.List.Induction
import Mathlib.Data.List.Perm.Subperm
import ControlPlane.Data.Table

/-
  Counting the values of an ordered map.

  A number that is kept beside a map follows its values:
  storing or removing a key changes the count by what was
  there and by what is stored. The size is the count of all
  values.

  Main declarations:
    * `OrderedMap.count`
    * `OrderedMap.count_of_get?` and `count_set`
    * `OrderedMap.size_set` and `size_delete`
    * `OrderedMap.first?`
-/

------------------------------------------------------------
-- Entries
------------------------------------------------------------

namespace ControlPlane

namespace OrderedMap

variable {κ ν : Type}

/- How many values satisfy a test. -/
def count
    (m : OrderedMap κ ν)
    (p : ν → Bool) : Nat :=
  m.values.countP p

/- The entry that has stayed longest at its position. -/
def first? (m : OrderedMap κ ν) : Option (κ × ν) :=
  m.entries.head?

theorem count_eq_entries
    (m : OrderedMap κ ν)
    (p : ν → Bool) :
    m.count p = m.entries.countP (fun e => p e.2) := by
  unfold count values
  rw [List.countP_map]
  rfl

theorem size_eq_count
    (m : OrderedMap κ ν) :
    m.size = m.count (fun _ => true) := by
  rw [count_eq_entries, List.countP_true]
  rfl

theorem count_modify
    (m : OrderedMap κ ν)
    (f : ν → ν)
    (p : ν → Bool) :
    (m.modify f).count p = m.count (fun v => p (f v)) := by
  rw [count_eq_entries, count_eq_entries]
  unfold modify
  rw [List.countP_map]
  rfl

theorem size_modify
    (m : OrderedMap κ ν)
    (f : ν → ν) :
    (m.modify f).size = m.size := by
  rw [size_eq_count, size_eq_count, count_modify]

theorem ext_of_entries
    {m n : OrderedMap κ ν}
    (hEntries : m.entries = n.entries) : m = n := by
  cases m
  cases n
  cases hEntries
  rfl

variable [DecidableEq κ]

theorem delete_entries
    (m : OrderedMap κ ν)
    (k : κ) :
    (m.delete k).entries =
      m.entries.filter (fun e => decide (e.1 ≠ k)) := rfl

theorem delete_of_get?_none
    {m : OrderedMap κ ν}
    {k : κ}
    (hNone : m.get? k = none) :
    (m.delete k).entries = m.entries := by
  rw [delete_entries, List.filter_eq_self]
  rintro ⟨key, v⟩ hMem
  rw [decide_eq_true_eq]
  rintro rfl
  rw [(get?_eq_some_iff m key v).mpr hMem] at hNone
  nomatch hNone

/- The entry of a key, and the others. -/
theorem entries_perm_of_get?
    {m : OrderedMap κ ν}
    {k : κ}
    {v : ν}
    (hGet : m.get? k = some v) :
    m.entries.Perm ((k, v) :: (m.delete k).entries) := by
  have hMem := (get?_eq_some_iff m k v).mp hGet
  rw [delete_entries]
  rcases m with ⟨entries, hNodup⟩
  dsimp only at hMem ⊢
  clear hGet
  induction entries with
  | nil => nomatch hMem
  | cons entry entries ih =>
      rw [List.map_cons, List.nodup_cons] at hNodup
      rcases List.mem_cons.mp hMem with hHead | hTail
      · have hOthers : ∀ e ∈ entries, e.1 ≠ k := by
          intro e hEntry hSame
          apply hNodup.1
          rw [← hHead]
          exact List.mem_map.mpr ⟨e, hEntry, hSame⟩
        rw [← hHead, List.filter_cons_of_neg (by simp),
          List.filter_eq_self.mpr (fun e hEntry =>
            decide_eq_true (hOthers e hEntry))]
      · have hNe : entry.1 ≠ k := by
          intro hSame
          apply hNodup.1
          rw [hSame]
          exact List.mem_map_of_mem hTail
        have hFilter :
            (entry :: entries).filter
                (fun e => decide (e.1 ≠ k)) =
              entry :: entries.filter
                (fun e => decide (e.1 ≠ k)) :=
          List.filter_cons_of_pos (decide_eq_true hNe)
        rw [hFilter]
        exact ((ih hNodup.2 hTail).cons entry).trans
          (List.Perm.swap _ _ _)

theorem delete_set
    (m : OrderedMap κ ν)
    (k : κ)
    (v : ν) :
    ((m.set k v).delete k).entries = (m.delete k).entries := by
  rw [delete_entries, delete_entries]
  unfold set
  split
  · unfold overwrite
    dsimp only
    induction m.entries with
    | nil => rfl
    | cons entry entries ih =>
        rw [List.map_cons]
        by_cases hKey : entry.1 = k
        · rw [if_pos hKey, List.filter_cons_of_neg (by simp),
            List.filter_cons_of_neg (by simp [hKey]), ih]
        · rw [if_neg hKey,
            List.filter_cons_of_pos (by simpa using hKey),
            List.filter_cons_of_pos (by simpa using hKey), ih]
  · simp

/- A test counts for one where it is met. -/
def indicator (b : Bool) : Nat :=
  if b then 1 else 0

theorem count_of_get?
    {m : OrderedMap κ ν}
    {k : κ}
    {v : ν}
    (hGet : m.get? k = some v)
    (p : ν → Bool) :
    m.count p = (m.delete k).count p + indicator (p v) := by
  rw [count_eq_entries, count_eq_entries,
    (entries_perm_of_get? hGet).countP_eq, List.countP_cons]
  rfl

theorem count_of_get?_none
    {m : OrderedMap κ ν}
    {k : κ}
    (hNone : m.get? k = none)
    (p : ν → Bool) :
    m.count p = (m.delete k).count p := by
  rw [count_eq_entries, count_eq_entries,
    delete_of_get?_none hNone]

theorem count_set
    (m : OrderedMap κ ν)
    (k : κ)
    (v : ν)
    (p : ν → Bool) :
    (m.set k v).count p =
      (m.delete k).count p + indicator (p v) := by
  have hGet : (m.set k v).get? k = some v := by
    rw [get?_set, if_pos rfl]
  rw [count_of_get? hGet p, count_eq_entries (m.delete k),
    count_eq_entries, delete_set]

theorem size_set
    (m : OrderedMap κ ν)
    (k : κ)
    (v : ν) :
    (m.set k v).size = (m.delete k).size + 1 := by
  rw [size_eq_count, size_eq_count, count_set]
  rfl

theorem size_delete_of_get?
    {m : OrderedMap κ ν}
    {k : κ}
    {v : ν}
    (hGet : m.get? k = some v) :
    m.size = (m.delete k).size + 1 := by
  rw [size_eq_count, size_eq_count, count_of_get? hGet]
  rfl

theorem size_delete_of_get?_none
    {m : OrderedMap κ ν}
    {k : κ}
    (hNone : m.get? k = none) :
    (m.delete k).size = m.size := by
  rw [size_eq_count, size_eq_count, count_of_get?_none hNone]

theorem get?_of_first?
    {m : OrderedMap κ ν}
    {k : κ}
    {v : ν}
    (hFirst : m.first? = some (k, v)) :
    m.firstKey? = some k ∧ m.get? k = some v := by
  unfold first? at hFirst
  refine ⟨?_, ?_⟩
  · unfold firstKey? keys
    rw [List.head?_map, hFirst]
    rfl
  · exact (get?_eq_some_iff m k v).mpr
      (List.mem_of_mem_head? hFirst)

/- Distinct keys that are all in a map are not more. -/
theorem length_le_size
    {m : OrderedMap κ ν}
    {keys : List κ}
    (hNodup : keys.Nodup)
    (hMem : ∀ k ∈ keys, ∃ v, m.get? k = some v) :
    keys.length ≤ m.size := by
  have hKeys : keys ⊆ m.keys := by
    intro k hKey
    exact (mem_keys_iff m k).mpr (hMem k hKey)
  have hLength := (List.subperm_of_subset hNodup hKeys).length_le
  unfold OrderedMap.keys at hLength
  rwa [List.length_map] at hLength

theorem set_of_new
    {m : OrderedMap κ ν}
    {k : κ}
    (hNew : k ∉ m.entries.map Prod.fst)
    (v : ν) :
    (m.set k v).entries = m.entries ++ [(k, v)] := by
  unfold set
  rw [dif_neg hNew]

theorem set_of_old
    {m : OrderedMap κ ν}
    {k : κ}
    (hOld : k ∈ m.entries.map Prod.fst)
    (v : ν) :
    (m.set k v).entries = overwrite k v m.entries := by
  unfold set
  rw [dif_pos hOld]

/- Rows of distinct keys are loaded in their order. -/
theorem load_entries
    {ρ : Type}
    {key : ρ → κ}
    (value : ρ → ν)
    {rows : List ρ}
    (hNodup : (rows.map key).Nodup) :
    (load key value rows).entries =
      rows.map (fun row => (key row, value row)) := by
  unfold load
  induction rows using List.reverseRecOn with
  | nil => rfl
  | append_singleton rows row ih =>
      rw [List.map_append, List.nodup_append] at hNodup
      rw [List.foldl_append, List.foldl_cons, List.foldl_nil,
        List.map_append, List.map_singleton]
      have hEntries := ih hNodup.1
      have hNew :
          key row ∉
            (rows.foldl
              (fun m row => m.set (key row) (value row))
              (empty : OrderedMap κ ν)).entries.map Prod.fst := by
        rw [hEntries, List.map_map]
        intro hMem
        exact hNodup.2.2 _ hMem _ List.mem_cons_self rfl
      rw [set_of_new hNew, hEntries]

end OrderedMap

end ControlPlane
