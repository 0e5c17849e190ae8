import Mathlib.Data.List.Nodup

/-
  Things in flight under numbers, and what is told of them.

  A book gives the next number to what is begun, keeps what
  is in flight, and logs what happens to each. The history
  of a number is the log without what is about others. When
  every step takes one thing to its next stage, and logs
  what that stage tells, each number has one story in every
  run, however the steps of others come in between.

  Main declarations:
    * `Book` and `Naming`
    * `Naming.find` and `Naming.history`
    * `Enrolled` and `Enrolled.length_drop`
    * `Told`
    * `Told.refuse`, `Told.start`, `Told.advance` and
      `Told.finish`
-/

------------------------------------------------------------
-- Books
------------------------------------------------------------

namespace ControlPlane

variable {τ ε : Type}

structure Book (τ ε : Type) where
  items : List τ
  nextId : Nat
  log : List ε
deriving DecidableEq, Repr

/- The number of a thing, and of what is logged. -/
structure Naming (τ ε : Type) where
  idOf : τ → Nat
  about : ε → Nat

namespace Book

def blank (nextId : Nat) : Book τ ε where
  items := []
  nextId := nextId
  log := []

def record
    (entries : List ε)
    (b : Book τ ε) : Book τ ε :=
  { b with log := b.log ++ entries }

/- The next number is taken. -/
def number (b : Book τ ε) : Book τ ε :=
  { b with nextId := b.nextId + 1 }

def add
    (item : τ)
    (b : Book τ ε) : Book τ ε :=
  { b with items := b.items ++ [item] }

end Book

namespace Naming

variable (n : Naming τ ε)

def find
    (b : Book τ ε)
    (id : Nat) : Option τ :=
  b.items.find? (fun item => decide (n.idOf item = id))

def history
    (b : Book τ ε)
    (id : Nat) : List ε :=
  b.log.filter (fun entry => decide (n.about entry = id))

def drop
    (id : Nat)
    (b : Book τ ε) : Book τ ε :=
  { b with
      items :=
        b.items.filter
          (fun item => decide (n.idOf item ≠ id)) }

def replace
    (next : τ)
    (b : Book τ ε) : Book τ ε :=
  { b with
      items :=
        b.items.map
          (fun item =>
            if n.idOf item = n.idOf next then next
            else item) }

------------------------------------------------------------
-- What Is Found And Told
------------------------------------------------------------

variable {n} {b : Book τ ε}

theorem find_id
    {id : Nat}
    {item : τ}
    (hFind : n.find b id = some item) :
    n.idOf item = id := by
  have hId := List.find?_some hFind
  exact of_decide_eq_true hId

theorem mem_of_find
    {id : Nat}
    {item : τ}
    (hFind : n.find b id = some item) : item ∈ b.items :=
  List.mem_of_find?_eq_some hFind

theorem find_of_items
    {b' : Book τ ε}
    (hItems : b'.items = b.items)
    (id : Nat) :
    n.find b' id = n.find b id := by
  unfold find
  rw [hItems]

theorem find_drop
    (b : Book τ ε)
    (id other : Nat) :
    n.find (n.drop id b) other =
      if id = other then none else n.find b other := by
  unfold find drop
  rw [List.find?_filter]
  split
  · rename_i hSame
    subst hSame
    rw [List.find?_eq_none]
    intro item _
    simp
  · rename_i hNe
    congr 1
    funext item
    by_cases hItem : n.idOf item = other
    · rw [hItem]
      simp [Ne.symm hNe]
    · simp [hItem]

theorem find_replace
    {item next : τ}
    (hNext : n.idOf next = n.idOf item)
    (hFind : n.find b (n.idOf item) = some item)
    (other : Nat) :
    n.find (n.replace next b) other =
      if n.idOf item = other then some next
      else n.find b other := by
  have hSame :
      ((fun i => decide (n.idOf i = other)) ∘
          fun i =>
            if n.idOf i = n.idOf next then next else i) =
        fun i => decide (n.idOf i = other) := by
    funext i
    dsimp only [Function.comp]
    split
    · rename_i hId
      rw [hId]
    · rfl
  unfold find at hFind ⊢
  unfold replace
  rw [List.find?_map, hSame]
  split
  · rename_i hOther
    subst hOther
    rw [hFind, Option.map_some, if_pos hNext.symm]
  · rename_i hOther
    cases hFound :
        b.items.find?
          (fun i => decide (n.idOf i = other)) with
    | none => rfl
    | some found =>
        have hId : n.idOf found = other := find_id hFound
        rw [Option.map_some, if_neg]
        rw [hId, hNext]
        exact Ne.symm hOther

theorem find_add
    {item : τ}
    (hNew : n.find b (n.idOf item) = none)
    (other : Nat) :
    n.find (b.add item) other =
      if n.idOf item = other then some item
      else n.find b other := by
  unfold find at hNew ⊢
  unfold Book.add
  rw [List.find?_append]
  split
  · rename_i hOther
    subst hOther
    rw [hNew, Option.none_or, List.find?_singleton,
      decide_eq_true rfl]
    rfl
  · rename_i hOther
    rw [List.find?_singleton, decide_eq_false hOther]
    exact Option.or_none

theorem history_record
    {entries : List ε}
    {id : Nat}
    (hAbout : ∀ entry ∈ entries, n.about entry = id)
    (other : Nat) :
    n.history (b.record entries) other =
      n.history b other ++
        if id = other then entries else [] := by
  unfold history Book.record
  rw [List.filter_append]
  congr 1
  split
  · rename_i hSame
    subst hSame
    rw [List.filter_eq_self]
    exact fun entry hEntry =>
      decide_eq_true (hAbout entry hEntry)
  · rename_i hNe
    rw [List.filter_eq_nil_iff]
    intro entry hEntry
    rw [decide_eq_true_eq, hAbout entry hEntry]
    exact hNe

end Naming

------------------------------------------------------------
-- Numbers in Flight
------------------------------------------------------------

/- What is in flight has numbers that were given once. -/
structure Enrolled
    (n : Naming τ ε)
    (b : Book τ ε) : Prop where
  known : ∀ item ∈ b.items, n.idOf item < b.nextId
  nodup : (b.items.map n.idOf).Nodup

namespace Enrolled

variable {n : Naming τ ε} {b : Book τ ε}

theorem blank
    (nextId : Nat) : Enrolled n (Book.blank nextId) where
  known _ hItem := absurd hItem List.not_mem_nil
  nodup := List.nodup_nil

theorem number
    (hEnrolled : Enrolled n b) : Enrolled n b.number where
  known item hItem :=
    Nat.lt_succ_of_lt (hEnrolled.known item hItem)
  nodup := hEnrolled.nodup

theorem record
    (hEnrolled : Enrolled n b)
    (entries : List ε) :
    Enrolled n (b.record entries) :=
  ⟨hEnrolled.known, hEnrolled.nodup⟩

theorem add
    {item : τ}
    (hEnrolled : Enrolled n b)
    (hItem : n.idOf item = b.nextId) :
    Enrolled n (b.number.add item) where
  known other hOther := by
    rcases List.mem_append.mp hOther with hOld | hNew
    · exact hEnrolled.number.known other hOld
    · rw [List.mem_singleton.mp hNew, hItem]
      exact Nat.lt_succ_self _
  nodup := by
    change ((b.items ++ [item]).map n.idOf).Nodup
    rw [List.map_append, List.map_singleton]
    refine hEnrolled.nodup.append (List.nodup_singleton _) ?_
    intro id hOld hNew
    rcases List.mem_map.mp hOld with ⟨old, hMem, hId⟩
    rw [List.mem_singleton, hItem] at hNew
    have hLess := hEnrolled.known old hMem
    rw [hId, hNew] at hLess
    exact Nat.lt_irrefl _ hLess

/- What is in flight goes on under its number. -/
theorem ids_replace
    (n : Naming τ ε)
    (b : Book τ ε)
    (next : τ) :
    (n.replace next b).items.map n.idOf =
      b.items.map n.idOf := by
  unfold Naming.replace
  rw [List.map_map]
  apply List.map_congr_left
  intro item _
  dsimp only [Function.comp]
  split
  · rename_i hId
    exact hId.symm
  · rfl

theorem replace
    (hEnrolled : Enrolled n b)
    (next : τ) : Enrolled n (n.replace next b) where
  known item hItem := by
    have hId : n.idOf item ∈ b.items.map n.idOf := by
      rw [← ids_replace n b next]
      exact List.mem_map_of_mem hItem
    rcases List.mem_map.mp hId with ⟨old, hOld, hSame⟩
    rw [← hSame]
    exact hEnrolled.known old hOld
  nodup := by
    rw [ids_replace]
    exact hEnrolled.nodup

theorem drop
    (hEnrolled : Enrolled n b)
    (id : Nat) : Enrolled n (n.drop id b) where
  known item hItem :=
    hEnrolled.known item (List.mem_filter.mp hItem).1
  nodup :=
    hEnrolled.nodup.sublist (List.filter_sublist.map _)

/- Of what is in flight exactly one thing has the number. -/
theorem length_drop
    {item : τ}
    (hEnrolled : Enrolled n b)
    (hItem : item ∈ b.items) :
    b.items.length =
      (n.drop (n.idOf item) b).items.length + 1 := by
  have hOne :
      b.items.countP
          (fun i => decide (n.idOf i = n.idOf item)) =
        1 := by
    have hCount :=
      (List.count_eq_one_of_mem hEnrolled.nodup
        (List.mem_map_of_mem hItem) :
          (b.items.map n.idOf).count (n.idOf item) = 1)
    rw [List.count, List.countP_map] at hCount
    rw [← hCount]
    apply List.countP_congr
    intro i _
    simp
  have hSplit :=
    b.items.length_eq_countP_add_countP
      (fun i => decide (n.idOf i = n.idOf item))
  have hRest :
      (n.drop (n.idOf item) b).items.length =
        b.items.countP
          (fun i => !decide (n.idOf i = n.idOf item)) := by
    unfold Naming.drop
    rw [List.countP_eq_length_filter]
    simp
  rw [hOne] at hSplit
  rw [hSplit, hRest]
  simp [Nat.add_comm]

end Enrolled

------------------------------------------------------------
-- Stories
------------------------------------------------------------

/-
  Every number is at a stage with what is told of it, and no
  number that is not taken yet is known.
-/
structure Told
    (n : Naming τ ε)
    (Stage : Nat → Option τ → List ε → Prop)
    (b : Book τ ε) : Prop where
  stage : ∀ id, Stage id (n.find b id) (n.history b id)
  fresh :
    ∀ id, b.nextId ≤ id →
      n.find b id = none ∧ n.history b id = []

namespace Told

variable
  {n : Naming τ ε}
  {Stage : Nat → Option τ → List ε → Prop}
  {b : Book τ ε}

theorem blank
    (hUnknown : ∀ id, Stage id none [])
    (nextId : Nat) :
    Told n Stage (Book.blank nextId) where
  stage := hUnknown
  fresh _ _ := ⟨rfl, rfl⟩

theorem known
    {item : τ}
    (hTold : Told n Stage b)
    (hFind : n.find b (n.idOf item) = some item) :
    n.idOf item < b.nextId := by
  by_contra hNot
  have hNone :=
    (hTold.fresh (n.idOf item) (Nat.le_of_not_lt hNot)).1
  rw [hFind] at hNone
  cases hNone

/- One number moves, and the others stay where they are. -/
theorem change
    {b' : Book τ ε}
    {id : Nat}
    {now : Option τ}
    {entries : List ε}
    (hTold : Told n Stage b)
    (hKnown : id < b'.nextId)
    (hNext : b.nextId ≤ b'.nextId)
    (hFind :
      ∀ other, n.find b' other =
        if id = other then now else n.find b other)
    (hHistory :
      ∀ other, n.history b' other =
        n.history b other ++
          if id = other then entries else [])
    (hStage : Stage id now (n.history b id ++ entries)) :
    Told n Stage b' where
  stage other := by
    rw [hFind, hHistory]
    split
    · rename_i hSame
      subst hSame
      exact hStage
    · rw [List.append_nil]
      exact hTold.stage other
  fresh other hOther := by
    have hNe : id ≠ other :=
      Nat.ne_of_lt (Nat.lt_of_lt_of_le hKnown hOther)
    rw [hFind, hHistory, if_neg hNe, if_neg hNe,
      List.append_nil]
    exact hTold.fresh other (Nat.le_trans hNext hOther)

/- What is never in flight is told at once. -/
theorem refuse
    {entries : List ε}
    (hTold : Told n Stage b)
    (hAbout : ∀ entry ∈ entries, n.about entry = b.nextId)
    (hStage : Stage b.nextId none entries) :
    Told n Stage (b.number.record entries) := by
  have hNew := hTold.fresh b.nextId (Nat.le_refl _)
  have hFind :
      ∀ other, n.find (b.number.record entries) other =
        if b.nextId = other then none
        else n.find b other := by
    intro other
    have hSame :
        n.find (b.number.record entries) other =
          n.find b other :=
      Naming.find_of_items rfl other
    rw [hSame]
    split
    · rename_i hOther
      subst hOther
      exact hNew.1
    · rfl
  refine hTold.change (Nat.lt_succ_self _) (Nat.le_succ _)
    hFind (Naming.history_record hAbout) ?_
  rw [hNew.2]
  exact hStage

theorem start
    {item : τ}
    {entries : List ε}
    (hTold : Told n Stage b)
    (hItem : n.idOf item = b.nextId)
    (hAbout : ∀ entry ∈ entries, n.about entry = b.nextId)
    (hStage : Stage b.nextId (some item) entries) :
    Told n Stage ((b.number.add item).record entries) := by
  have hNew := hTold.fresh b.nextId (Nat.le_refl _)
  have hFound : n.find b.number (n.idOf item) = none := by
    rw [hItem]
    exact hNew.1
  have hFind :
      ∀ other,
        n.find ((b.number.add item).record entries) other =
          if b.nextId = other then some item
          else n.find b other := by
    intro other
    rw [← hItem]
    exact (Naming.find_of_items rfl other).trans
      (Naming.find_add hFound other)
  refine hTold.change (Nat.lt_succ_self _) (Nat.le_succ _)
    hFind (Naming.history_record hAbout) ?_
  rw [hNew.2]
  exact hStage

theorem advance
    {item next : τ}
    {entries : List ε}
    (hTold : Told n Stage b)
    (hFind : n.find b (n.idOf item) = some item)
    (hNext : n.idOf next = n.idOf item)
    (hAbout :
      ∀ entry ∈ entries, n.about entry = n.idOf item)
    (hStage :
      ∀ told, Stage (n.idOf item) (some item) told →
        Stage (n.idOf item) (some next) (told ++ entries)) :
    Told n Stage ((n.replace next b).record entries) := by
  have hNow := hTold.stage (n.idOf item)
  rw [hFind] at hNow
  have hFound :
      ∀ other,
        n.find ((n.replace next b).record entries) other =
          if n.idOf item = other then some next
          else n.find b other :=
    fun other => (Naming.find_of_items rfl other).trans
      (Naming.find_replace hNext hFind other)
  exact hTold.change (hTold.known hFind) (Nat.le_refl _)
    hFound (Naming.history_record hAbout) (hStage _ hNow)

theorem finish
    {item : τ}
    {entries : List ε}
    (hTold : Told n Stage b)
    (hFind : n.find b (n.idOf item) = some item)
    (hAbout :
      ∀ entry ∈ entries, n.about entry = n.idOf item)
    (hStage :
      ∀ told, Stage (n.idOf item) (some item) told →
        Stage (n.idOf item) none (told ++ entries)) :
    Told n Stage
      ((n.drop (n.idOf item) b).record entries) := by
  have hNow := hTold.stage (n.idOf item)
  rw [hFind] at hNow
  have hFound :
      ∀ other,
        n.find ((n.drop (n.idOf item) b).record entries)
            other =
          if n.idOf item = other then none
          else n.find b other :=
    fun other => (Naming.find_of_items rfl other).trans
      (Naming.find_drop b (n.idOf item) other)
  exact hTold.change (hTold.known hFind) (Nat.le_refl _)
    hFound (Naming.history_record hAbout) (hStage _ hNow)

end Told

end ControlPlane
