import Mathlib.Data.List.Nodup

/-
  Insertion-ordered finite maps.

  An `OrderedMap` is a list of key/value entries whose keys
  are pairwise distinct. Updating a present key keeps its
  position, a new key goes to the end, and removing a key
  and setting it again moves it to the end. Reading the
  first key therefore reads the least recently moved one.

  Main declarations:
    * `OrderedMap.get?`, `set`, `delete`, `filter`, `modify`
    * `OrderedMap.get?_set`
    * `OrderedMap.get?_delete`
    * `OrderedMap.get?_filter`
    * `OrderedMap.get?_modify`
    * `OrderedMap.setAll` and `setAll_eq_self_iff`
-/

------------------------------------------------------------
-- Entries And Lookup
------------------------------------------------------------

namespace ControlPlane

/- A finite map that remembers the order of insertion. -/
structure OrderedMap (κ ν : Type) where
  entries : List (κ × ν)
  nodup : (entries.map Prod.fst).Nodup

namespace OrderedMap

variable {κ ν : Type}

/- The map without entries. -/
def empty : OrderedMap κ ν where
  entries := []
  nodup := List.nodup_nil

/- The number of entries. -/
def size (m : OrderedMap κ ν) : Nat :=
  m.entries.length

/- The keys in insertion order. -/
def keys (m : OrderedMap κ ν) : List κ :=
  m.entries.map Prod.fst

/- The values in insertion order. -/
def values (m : OrderedMap κ ν) : List ν :=
  m.entries.map Prod.snd

/- The key that has stayed longest at its position. -/
def firstKey? (m : OrderedMap κ ν) : Option κ :=
  m.keys.head?

theorem keys_filter_sublist
    (p : κ × ν → Bool)
    (entries : List (κ × ν)) :
    ((entries.filter p).map Prod.fst).Sublist
      (entries.map Prod.fst) :=
  List.filter_sublist.map Prod.fst

/- Keep the entries that satisfy a test. -/
def filter
    (m : OrderedMap κ ν)
    (p : κ → ν → Bool) : OrderedMap κ ν where
  entries := m.entries.filter (fun e => p e.1 e.2)
  nodup := m.nodup.sublist (keys_filter_sublist _ _)

/- Change every value where it stands. -/
def modify
    (m : OrderedMap κ ν)
    (f : ν → ν) : OrderedMap κ ν where
  entries := m.entries.map (fun e => (e.1, f e.2))
  nodup := by
    rw [List.map_map]
    exact m.nodup

variable [DecidableEq κ]

/- The value stored under a key. -/
def get?
    (m : OrderedMap κ ν)
    (k : κ) : Option ν :=
  m.entries.lookup k

/- Whether a key is present. -/
def has
    (m : OrderedMap κ ν)
    (k : κ) : Bool :=
  (m.get? k).isSome

/- Remove a key. -/
def delete
    (m : OrderedMap κ ν)
    (k : κ) : OrderedMap κ ν :=
  m.filter (fun k' _ => k' ≠ k)

/- Overwrite the value of a key where it stands. -/
def overwrite
    (k : κ)
    (v : ν) :
    List (κ × ν) → List (κ × ν) :=
  List.map (fun e => if e.1 = k then (k, v) else e)

theorem keys_overwrite
    (k : κ)
    (v : ν)
    (entries : List (κ × ν)) :
    (overwrite k v entries).map Prod.fst =
      entries.map Prod.fst := by
  induction entries with
  | nil => rfl
  | cons e entries ih =>
      have hHead :
          (if e.1 = k then (k, v) else e).1 = e.1 := by
        by_cases hKey : e.1 = k
        · simp [hKey]
        · simp [hKey]
      simpa [overwrite, hHead] using ih

/-
  Store a value: a present key keeps its position, a new key
  is appended.
-/
def set
    (m : OrderedMap κ ν)
    (k : κ)
    (v : ν) : OrderedMap κ ν :=
  if hKey : k ∈ m.entries.map Prod.fst then
    { entries := overwrite k v m.entries
      nodup := by
        rw [keys_overwrite]
        exact m.nodup }
  else
    { entries := m.entries ++ [(k, v)]
      nodup := by
        rw [List.map_append]
        exact List.nodup_append.mpr
          ⟨m.nodup, List.nodup_singleton _, by
            intro a ha b hb hEq
            apply hKey
            rw [List.map_singleton,
              List.mem_singleton] at hb
            rw [hEq, hb] at ha
            exact ha⟩ }

end OrderedMap

------------------------------------------------------------
-- Lookup Laws
------------------------------------------------------------

namespace OrderedMap

variable {κ ν : Type} [DecidableEq κ]

theorem lookup_cons_eq
    (k key : κ)
    (value : ν)
    (entries : List (κ × ν)) :
    ((key, value) :: entries).lookup k =
      if k = key then some value
      else entries.lookup k := by
  rw [List.lookup_cons]
  by_cases hKey : k = key
  · simp [hKey]
  · have hNe : (k == key) = false :=
      beq_eq_false_iff_ne.mpr hKey
    simp [hNe, hKey]

theorem lookup_overwrite
    (k k' : κ)
    (v : ν)
    (entries : List (κ × ν)) :
    (overwrite k v entries).lookup k' =
      if k' = k then
        (entries.lookup k').map (fun _ => v)
      else
        entries.lookup k' := by
  induction entries with
  | nil => simp [overwrite]
  | cons e entries ih =>
      rcases e with ⟨key, value⟩
      have hCons :
          overwrite k v ((key, value) :: entries) =
            (if key = k then (k, v) else (key, value)) ::
              overwrite k v entries := rfl
      rw [hCons]
      by_cases hHead : key = k
      · subst hHead
        rw [if_pos rfl, lookup_cons_eq, lookup_cons_eq, ih]
        by_cases hKey : k' = key
        · simp [hKey]
        · simp [hKey]
      · rw [if_neg hHead, lookup_cons_eq, lookup_cons_eq,
          ih]
        by_cases hKey : k' = k
        · subst hKey
          have hNe : ¬ k' = key := fun h => hHead h.symm
          simp [hNe]
        · simp [hKey]

theorem lookup_isSome_of_mem_keys
    {k : κ}
    {entries : List (κ × ν)}
    (hKey : k ∈ entries.map Prod.fst) :
    (entries.lookup k).isSome := by
  rw [List.lookup_isSome_iff]
  rcases List.mem_map.mp hKey with ⟨e, hMem, hEq⟩
  exact ⟨e, hMem, by simp [hEq]⟩

theorem lookup_eq_none_of_not_mem_keys
    {k : κ}
    {entries : List (κ × ν)}
    (hKey : k ∉ entries.map Prod.fst) :
    entries.lookup k = none := by
  rw [List.lookup_eq_none_iff]
  intro e hMem
  have hNe : k ≠ e.1 := by
    intro hEq
    exact hKey (hEq ▸ List.mem_map_of_mem hMem)
  simpa using hNe

/- Reading after a write. -/
theorem get?_set
    (m : OrderedMap κ ν)
    (k k' : κ)
    (v : ν) :
    (m.set k v).get? k' =
      if k' = k then some v else m.get? k' := by
  unfold set get?
  by_cases hMem : k ∈ m.entries.map Prod.fst
  · rw [dif_pos hMem]
    rw [lookup_overwrite]
    by_cases hKey : k' = k
    · subst hKey
      have hSome := lookup_isSome_of_mem_keys hMem
      rcases Option.isSome_iff_exists.mp hSome with
        ⟨old, hOld⟩
      simp [hOld]
    · simp [hKey]
  · rw [dif_neg hMem]
    rw [List.lookup_append, lookup_cons_eq]
    by_cases hKey : k' = k
    · subst hKey
      simp [lookup_eq_none_of_not_mem_keys hMem]
    · simp [hKey]

@[simp] theorem get?_set_self
    (m : OrderedMap κ ν)
    (k : κ)
    (v : ν) :
    (m.set k v).get? k = some v := by
  simp [get?_set]

theorem get?_set_of_ne
    (m : OrderedMap κ ν)
    {k k' : κ}
    (v : ν)
    (hNe : k' ≠ k) :
    (m.set k v).get? k' = m.get? k' := by
  simp [get?_set, hNe]

/- With distinct keys, lookup is membership. -/
theorem get?_eq_some_iff
    (m : OrderedMap κ ν)
    (k : κ)
    (v : ν) :
    m.get? k = some v ↔ (k, v) ∈ m.entries := by
  have hGeneral :
      ∀ entries : List (κ × ν),
        (entries.map Prod.fst).Nodup →
          (entries.lookup k = some v ↔
            (k, v) ∈ entries) := by
    intro entries hNodup
    induction entries with
    | nil => simp
    | cons e entries ih =>
        rcases e with ⟨key, value⟩
        rw [List.map_cons, List.nodup_cons] at hNodup
        rw [lookup_cons_eq]
        by_cases hKey : k = key
        · subst hKey
          have hAbsent : (k, v) ∉ entries := by
            intro hMem
            exact hNodup.1
              (List.mem_map.mpr ⟨(k, v), hMem, rfl⟩)
          simp [hAbsent, eq_comm]
        · simpa [hKey] using ih hNodup.2
  exact hGeneral m.entries m.nodup

/- Reading after a filter. -/
theorem get?_filter_eq_some_iff
    (m : OrderedMap κ ν)
    (p : κ → ν → Bool)
    (k : κ)
    (v : ν) :
    (m.filter p).get? k = some v ↔
      m.get? k = some v ∧ p k v = true := by
  rw [get?_eq_some_iff, get?_eq_some_iff]
  simp [filter]

theorem get?_filter
    (m : OrderedMap κ ν)
    (p : κ → ν → Bool)
    (k : κ) :
    (m.filter p).get? k = (m.get? k).filter (p k) := by
  apply Option.ext
  intro v
  rw [get?_filter_eq_some_iff]
  simp [Option.filter_eq_some_iff]

/- Reading after every value is changed. -/
theorem get?_modify
    (m : OrderedMap κ ν)
    (f : ν → ν)
    (k : κ) :
    (m.modify f).get? k = (m.get? k).map f := by
  unfold modify get?
  dsimp only
  induction m.entries with
  | nil => rfl
  | cons e entries ih =>
      rcases e with ⟨key, value⟩
      rw [List.map_cons, lookup_cons_eq, lookup_cons_eq, ih]
      by_cases hKey : k = key
      · simp [hKey]
      · simp [hKey]

/- Reading after a removal. -/
theorem get?_delete
    (m : OrderedMap κ ν)
    (k k' : κ) :
    (m.delete k).get? k' =
      if k' = k then none else m.get? k' := by
  unfold delete
  rw [get?_filter]
  by_cases hKey : k' = k
  · subst hKey
    cases m.get? k' <;> simp
  · cases m.get? k' <;> simp [hKey]

@[simp] theorem get?_delete_self
    (m : OrderedMap κ ν)
    (k : κ) :
    (m.delete k).get? k = none := by
  simp [get?_delete]

theorem get?_delete_of_ne
    (m : OrderedMap κ ν)
    {k k' : κ}
    (hNe : k' ≠ k) :
    (m.delete k).get? k' = m.get? k' := by
  simp [get?_delete, hNe]

theorem has_of_get?
    {m : OrderedMap κ ν}
    {k : κ}
    {v : ν}
    (hGet : m.get? k = some v) :
    m.has k = true := by
  unfold has
  rw [hGet]
  rfl

theorem has_of_get?_none
    {m : OrderedMap κ ν}
    {k : κ}
    (hGet : m.get? k = none) :
    m.has k = false := by
  unfold has
  rw [hGet]
  rfl

theorem has_set
    (m : OrderedMap κ ν)
    (k k' : κ)
    (v : ν) :
    (m.set k v).has k' = (decide (k' = k) || m.has k') := by
  unfold has
  rw [get?_set]
  by_cases hKey : k' = k <;> simp [hKey]

theorem has_delete
    (m : OrderedMap κ ν)
    (k k' : κ) :
    (m.delete k).has k' =
      (!decide (k' = k) && m.has k') := by
  unfold has
  rw [get?_delete]
  by_cases hKey : k' = k <;> simp [hKey]

end OrderedMap

------------------------------------------------------------
-- Writes In A Row
------------------------------------------------------------

namespace OrderedMap

variable {κ ν : Type} [DecidableEq κ]

/- Write the values one after the other. -/
def setAll
    (m : OrderedMap κ ν)
    (writes : List (κ × ν)) : OrderedMap κ ν :=
  writes.foldl (fun m write => m.set write.1 write.2) m

/- The map that the writes alone lead to. -/
def ofList (writes : List (κ × ν)) : OrderedMap κ ν :=
  empty.setAll writes

/- Reading after writes: the last one counts. -/
theorem get?_setAll
    (m : OrderedMap κ ν)
    (writes : List (κ × ν))
    (k : κ) :
    (m.setAll writes).get? k =
      ((ofList writes).get? k).or (m.get? k) := by
  induction writes generalizing m with
  | nil => rfl
  | cons write writes ih =>
      have hCons :
          ∀ m : OrderedMap κ ν,
            m.setAll (write :: writes) =
              (m.set write.1 write.2).setAll writes :=
        fun _ => rfl
      unfold ofList
      rw [hCons, hCons, ih, ih (empty.set write.1 write.2),
        get?_set, get?_set]
      by_cases hKey : k = write.1
      · rw [if_pos hKey, if_pos hKey]
        cases (ofList writes).get? k <;> rfl
      · rw [if_neg hKey, if_neg hKey]
        cases (ofList writes).get? k <;> rfl

theorem mem_keys_iff
    (m : OrderedMap κ ν)
    (k : κ) :
    k ∈ m.keys ↔ ∃ v, m.get? k = some v := by
  unfold keys
  rw [List.mem_map]
  constructor
  · rintro ⟨⟨key, v⟩, hMem, rfl⟩
    exact ⟨v, (get?_eq_some_iff m key v).mpr hMem⟩
  · rintro ⟨v, hGet⟩
    exact ⟨(k, v), (get?_eq_some_iff m k v).mp hGet, rfl⟩

theorem keys_set_of_mem
    {m : OrderedMap κ ν}
    {k : κ}
    (hMem : k ∈ m.keys)
    (v : ν) :
    (m.set k v).keys = m.keys := by
  have hKey : k ∈ m.entries.map Prod.fst := hMem
  unfold set keys
  rw [dif_pos hKey]
  exact keys_overwrite k v m.entries

/- A map is known by the order of its keys and its values. -/
theorem ext_of_keys
    {m other : OrderedMap κ ν}
    (hKeys : m.keys = other.keys)
    (hGet : ∀ k, m.get? k = other.get? k) :
    m = other := by
  have hEntries :
      ∀ xs ys : List (κ × ν),
        xs.map Prod.fst = ys.map Prod.fst →
          (xs.map Prod.fst).Nodup →
            (∀ k, xs.lookup k = ys.lookup k) → xs = ys := by
    intro xs
    induction xs with
    | nil =>
        intro ys hSame _ _
        exact (List.map_eq_nil_iff.mp hSame.symm).symm
    | cons x xs ih =>
        intro ys hSame hNodup hLookup
        rcases x with ⟨key, value⟩
        cases ys with
        | nil => cases hSame
        | cons y ys =>
            rcases y with ⟨other, found⟩
            rw [List.map_cons, List.map_cons] at hSame
            have hTail := (List.cons.inj hSame).2
            have hHead : key = other := (List.cons.inj hSame).1
            subst hHead
            have hValue := hLookup key
            rw [lookup_cons_eq, lookup_cons_eq, if_pos rfl,
              if_pos rfl] at hValue
            cases hValue
            rw [List.map_cons, List.nodup_cons] at hNodup
            have hRest : ∀ k, xs.lookup k = ys.lookup k := by
              intro k
              have hThere := hLookup k
              rw [lookup_cons_eq, lookup_cons_eq] at hThere
              by_cases hKey : k = key
              · subst hKey
                rw [lookup_eq_none_of_not_mem_keys hNodup.1,
                  lookup_eq_none_of_not_mem_keys
                    (hTail ▸ hNodup.1)]
              · rwa [if_neg hKey, if_neg hKey] at hThere
            rw [ih ys hTail hNodup.2 hRest]
  cases m with
  | mk entries nodup =>
      cases other with
      | mk others nodup' =>
          have hSame := hEntries entries others hKeys nodup hGet
          subst hSame
          rfl

theorem keys_setAll_of_mem
    {writes : List (κ × ν)}
    {m : OrderedMap κ ν}
    (hMem : ∀ write ∈ writes, write.1 ∈ m.keys) :
    (m.setAll writes).keys = m.keys := by
  induction writes generalizing m with
  | nil => rfl
  | cons write writes ih =>
      have hHead := keys_set_of_mem
        (hMem write List.mem_cons_self) write.2
      have hTail :
          ∀ later ∈ writes,
            later.1 ∈ (m.set write.1 write.2).keys := by
        intro later hLater
        rw [hHead]
        exact hMem later (List.mem_cons_of_mem _ hLater)
      exact (ih hTail).trans hHead

/- A key that is written has a value in the end. -/
theorem get?_ofList_of_mem
    {writes : List (κ × ν)}
    {write : κ × ν}
    (hMem : write ∈ writes) :
    ∃ v, (ofList writes).get? write.1 = some v := by
  induction writes with
  | nil => cases hMem
  | cons first writes ih =>
      have hCons :
          (ofList (first :: writes)).get? write.1 =
            ((ofList writes).get? write.1).or
              (((empty : OrderedMap κ ν).set first.1
                first.2).get? write.1) :=
        get?_setAll _ writes write.1
      rw [hCons]
      rcases List.mem_cons.mp hMem with hSame | hLater
      · rw [hSame, get?_set_self]
        cases (ofList writes).get? first.1 with
        | none => exact ⟨_, rfl⟩
        | some v => exact ⟨v, rfl⟩
      · rcases ih hLater with ⟨v, hGet⟩
        rw [hGet]
        exact ⟨v, rfl⟩

/-
  Writes leave a map as it is exactly if it holds what they
  come to.
-/
theorem setAll_eq_self_iff
    (m : OrderedMap κ ν)
    (writes : List (κ × ν)) :
    m.setAll writes = m ↔
      ∀ k v, (ofList writes).get? k = some v →
        m.get? k = some v := by
  constructor
  · intro hSame k v hGet
    have hRead := get?_setAll m writes k
    rw [hSame, hGet] at hRead
    exact hRead
  · intro hHolds
    refine ext_of_keys ?_ ?_
    · refine keys_setAll_of_mem ?_
      intro write hMem
      rcases get?_ofList_of_mem hMem with ⟨v, hGet⟩
      exact (mem_keys_iff m write.1).mpr
        ⟨v, hHolds write.1 v hGet⟩
    · intro k
      rw [get?_setAll]
      cases hGet : (ofList writes).get? k with
      | none => rfl
      | some v => exact (hHolds k v hGet).symm

end OrderedMap

end ControlPlane
