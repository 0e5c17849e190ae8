import ControlPlane.Store.Notifications

/-
  What holds of the notification feed.

  The feed is what a restart makes of its table, and the
  count is that of its unread items, as long as an id is not
  added again with other data, the item that makes room is
  the oldest one, and nothing in the feed is deleted.

  Main declarations:
    * `stored` and its law for each statement
    * `Feed.Holds` and `Feed.EvictsOldest`
    * `Feed.Safe`
    * `Feed.holds_along`
-/

------------------------------------------------------------
-- Stored Notifications
------------------------------------------------------------

namespace ControlPlane

namespace Notifications

open NotificationsTable

/- The notification of the user that a table has for an id. -/
def stored
    (userId : String)
    (t : NotificationsTable)
    (id : String) : Option Record :=
  ((t.find? id).filter
    (fun row => decide (row.userId = userId))).map Row.toRecord

theorem find?_iff
    {t : NotificationsTable}
    {id : String}
    {row : Row} :
    t.find? id = some row ↔ row ∈ t.rows ∧ row.id = id := by
  rw [Table.find?_eq_some_iff]
  unfold Row.key
  rw [Option.some.injEq]

theorem stored_iff
    {userId : String}
    {t : NotificationsTable}
    {id : String}
    {record : Record} :
    stored userId t id = some record ↔
      ∃ row ∈ t.rowsOf Row.userId userId,
        row.id = id ∧ row.toRecord = record := by
  unfold stored
  rw [Option.map_eq_some_iff]
  simp only [Option.filter_eq_some_iff, find?_iff,
    Table.mem_rowsOf_iff, decide_eq_true_eq]
  constructor
  · rintro ⟨row, ⟨⟨hMem, hId⟩, hMine⟩, hRecord⟩
    exact ⟨row, ⟨hMem, hMine⟩, hId, hRecord⟩
  · rintro ⟨row, ⟨hMem, hMine⟩, hId, hRecord⟩
    exact ⟨row, ⟨⟨hMem, hId⟩, hMine⟩, hRecord⟩

/- The ids of the rows of a user are distinct. -/
theorem ids_nodup
    (userId : String)
    (t : NotificationsTable) :
    ((t.rowsOf Row.userId userId).map Row.id).Nodup := by
  rw [List.Nodup, List.pairwise_map]
  refine (t.unique.filter _).imp ?_
  intro a b hKeys
  rcases hKeys with hNone | hNe
  · nomatch hNone
  · exact fun hSame => hNe (congrArg some hSame)

/- A row of the user is known by its id. -/
theorem row_of_id
    {userId : String}
    {t : NotificationsTable}
    {a b : Row}
    (hA : a ∈ t.rowsOf Row.userId userId)
    (hB : b ∈ t.rowsOf Row.userId userId)
    (hSame : a.id = b.id) : a = b := by
  have hFirst : t.find? b.id = some a :=
    find?_iff.mpr ⟨(Table.mem_rowsOf_iff.mp hA).1, hSame⟩
  have hSecond : t.find? b.id = some b :=
    find?_iff.mpr ⟨(Table.mem_rowsOf_iff.mp hB).1, rfl⟩
  exact Option.some.inj (hFirst.symm.trans hSecond)

theorem stored_eq_none
    {userId : String}
    {t : NotificationsTable}
    {id : String}
    (hNone : stored userId t id = none) :
    ∀ row ∈ t.rowsOf Row.userId userId, row.id ≠ id := by
  intro row hRow hId
  have hSome := stored_iff.mpr ⟨row, hRow, hId, rfl⟩
  rw [hNone] at hSome
  nomatch hSome

------------------------------------------------------------
-- The Newest Rows
------------------------------------------------------------

theorem newest_sublist_mem
    {userId : String}
    {limit : Nat}
    {t : NotificationsTable}
    {row : Row}
    (hMem : row ∈ newest userId limit t) :
    row ∈ t.rowsOf Row.userId userId :=
  List.mem_mergeSort.mp (List.mem_of_mem_take hMem)

theorem mem_newest_of_length
    {userId : String}
    {limit : Nat}
    {t : NotificationsTable}
    (hShort : (t.rowsOf Row.userId userId).length ≤ limit)
    {row : Row} :
    row ∈ newest userId limit t ↔
      row ∈ t.rowsOf Row.userId userId := by
  unfold newest
  rw [List.take_of_length_le
    (by rwa [List.length_mergeSort]), List.mem_mergeSort]

/- What is cut off is not newer than what is kept. -/
theorem timestamp_le_of_notMem_newest
    {userId : String}
    {limit : Nat}
    {t : NotificationsTable}
    {kept cut : Row}
    (hKept : kept ∈ newest userId limit t)
    (hCut : cut ∈ t.rowsOf Row.userId userId)
    (hNot : cut ∉ newest userId limit t) :
    cut.timestamp ≤ kept.timestamp := by
  have hSorted :
      ((t.rowsOf Row.userId userId).mergeSort
        (fun a b => decide (b.timestamp ≤ a.timestamp))).Pairwise
          (fun a b =>
            decide (b.timestamp ≤ a.timestamp) = true) := by
    apply List.pairwise_mergeSort
    · intro a b c hab hbc
      rw [decide_eq_true_eq] at hab hbc ⊢
      exact String.le_trans hbc hab
    · intro a b
      rw [Bool.or_eq_true, decide_eq_true_eq,
        decide_eq_true_eq]
      exact String.le_total _ _
  unfold newest at hKept hNot
  rw [← List.take_append_drop limit
    ((t.rowsOf Row.userId userId).mergeSort
      (fun a b => decide (b.timestamp ≤ a.timestamp))),
    List.pairwise_append] at hSorted
  have hDropped :
      cut ∈ ((t.rowsOf Row.userId userId).mergeSort
        (fun a b =>
          decide (b.timestamp ≤ a.timestamp))).drop limit := by
    have hBoth :
        cut ∈ (t.rowsOf Row.userId userId).mergeSort
          (fun a b => decide (b.timestamp ≤ a.timestamp)) :=
      List.mem_mergeSort.mpr hCut
    rw [← List.take_append_drop limit
      ((t.rowsOf Row.userId userId).mergeSort
        (fun a b => decide (b.timestamp ≤ a.timestamp))),
      List.mem_append] at hBoth
    exact hBoth.resolve_left hNot
  exact of_decide_eq_true
    (hSorted.2.2 kept hKept cut hDropped)

theorem newest_length
    {userId : String}
    {limit : Nat}
    {t : NotificationsTable} :
    (newest userId limit t).length =
      min limit (t.rowsOf Row.userId userId).length := by
  unfold newest
  rw [List.length_take, List.length_mergeSort]

/- With one row too many, the one oldest row is cut off. -/
theorem mem_newest_of_oldest
    {userId : String}
    {limit : Nat}
    {t : NotificationsTable}
    (hLength :
      (t.rowsOf Row.userId userId).length = limit + 1)
    {oldest : Row}
    (hMem : oldest ∈ t.rowsOf Row.userId userId)
    (hOldest :
      ∀ row ∈ t.rowsOf Row.userId userId,
        row.id ≠ oldest.id → oldest.timestamp < row.timestamp)
    {row : Row}
    (hRow : row ∈ t.rowsOf Row.userId userId) :
    row ∈ newest userId limit t ↔ row.id ≠ oldest.id := by
  have hPerm :
      ((t.rowsOf Row.userId userId).mergeSort
        (fun a b => decide (b.timestamp ≤ a.timestamp))).Perm
          (t.rowsOf Row.userId userId) :=
    List.mergeSort_perm _ _
  have hNodup :
      (t.rowsOf Row.userId userId).Nodup :=
    List.Nodup.of_map _ (ids_nodup userId t)
  have hCutOne :
      ∃ cut, cut ∈ t.rowsOf Row.userId userId ∧
        cut ∉ newest userId limit t ∧
        ∀ other ∈ t.rowsOf Row.userId userId,
          other ∉ newest userId limit t → other = cut := by
    have hDrop :
        (((t.rowsOf Row.userId userId).mergeSort
          (fun a b =>
            decide (b.timestamp ≤ a.timestamp))).drop
              limit).length = 1 := by
      rw [List.length_drop, List.length_mergeSort, hLength]
      omega
    rcases List.length_eq_one_iff.mp hDrop with ⟨cut, hCut⟩
    have hSplit := List.take_append_drop limit
      ((t.rowsOf Row.userId userId).mergeSort
        (fun a b => decide (b.timestamp ≤ a.timestamp)))
    rw [hCut] at hSplit
    have hAll : ∀ r, r ∈ t.rowsOf Row.userId userId ↔
        r ∈ newest userId limit t ∨ r = cut := by
      intro r
      rw [← hPerm.mem_iff, ← hSplit, List.mem_append,
        List.mem_singleton]
      rfl
    refine ⟨cut, (hAll cut).mpr (.inr rfl), ?_, ?_⟩
    · have hBoth := hPerm.nodup_iff.mpr hNodup
      rw [← hSplit, List.nodup_append] at hBoth
      intro hIn
      exact hBoth.2.2 cut hIn cut List.mem_cons_self rfl
    · intro other hOther hNot
      exact ((hAll other).mp hOther).resolve_left hNot
  rcases hCutOne with ⟨cut, hCutMem, hCutNot, hOnly⟩
  have hSame : cut = oldest := by
    by_contra hNe
    have hIds : cut.id ≠ oldest.id :=
      fun hId => hNe (row_of_id hCutMem hMem hId)
    have hKept : oldest ∈ newest userId limit t := by
      by_contra hNot
      exact hNe (hOnly oldest hMem hNot).symm
    exact String.not_lt.mpr
      (timestamp_le_of_notMem_newest hKept hCutMem hCutNot)
      (hOldest cut hCutMem hIds)
  constructor
  · intro hIn hId
    rw [row_of_id hRow hMem hId, ← hSame] at hIn
    exact hCutNot hIn
  · intro hNe
    by_contra hNot
    apply hNe
    rw [hOnly row hRow hNot, hSame]

------------------------------------------------------------
-- Stored After A Statement
------------------------------------------------------------

theorem stored_prune
    (userId : String)
    (t : NotificationsTable)
    (id : String) :
    stored userId (prune userId t) id =
      (stored userId t id).filter (fun _ =>
        decide (id ∈ (newest userId 100 t).map Row.id)) := by
  unfold stored prune
  rw [Table.find?_deleteWhere]
  cases hFind : t.find? id with
  | none => rfl
  | some row =>
      have hId := (find?_iff.mp hFind).2
      by_cases hMine : row.userId = userId
      · by_cases hIn :
            id ∈ (newest userId 100 t).map Row.id
        · simp [Option.filter, hMine, hId, hIn]
        · simp [Option.filter, hMine, hId, hIn]
      · simp [Option.filter, hMine]

theorem stored_prune_of_length
    {userId : String}
    {t : NotificationsTable}
    (hShort : (t.rowsOf Row.userId userId).length ≤ 100)
    (id : String) :
    stored userId (prune userId t) id = stored userId t id := by
  rw [stored_prune]
  cases hStored : stored userId t id with
  | none => rfl
  | some record =>
      rcases stored_iff.mp hStored with ⟨row, hRow, hId, _⟩
      have hIn :
          id ∈ (newest userId 100 t).map Row.id := by
        rw [← hId]
        exact List.mem_map_of_mem
          ((mem_newest_of_length hShort).mpr hRow)
      simp [Option.filter, hIn]

theorem stored_prune_of_oldest
    {userId : String}
    {t : NotificationsTable}
    (hLength : (t.rowsOf Row.userId userId).length = 101)
    {oldest : Row}
    (hMem : oldest ∈ t.rowsOf Row.userId userId)
    (hOldest :
      ∀ row ∈ t.rowsOf Row.userId userId,
        row.id ≠ oldest.id → oldest.timestamp < row.timestamp)
    (id : String) :
    stored userId (prune userId t) id =
      if id = oldest.id then none else stored userId t id := by
  rw [stored_prune]
  cases hStored : stored userId t id with
  | none => simp [Option.filter]
  | some record =>
      rcases stored_iff.mp hStored with ⟨row, hRow, rfl, _⟩
      have hIn :
          row.id ∈ (newest userId 100 t).map Row.id ↔
            row.id ≠ oldest.id := by
        rw [← mem_newest_of_oldest hLength hMem hOldest hRow,
          List.mem_map]
        constructor
        · rintro ⟨other, hOther, hSame⟩
          rwa [← row_of_id (newest_sublist_mem hOther) hRow
            hSame]
        · intro hIn
          exact ⟨row, hIn, rfl⟩
      by_cases hSame : row.id = oldest.id
      · rw [Option.filter_some,
          decide_eq_false (fun h => hIn.mp h hSame),
          if_pos hSame]
        rfl
      · rw [Option.filter_some, decide_eq_true (hIn.mpr hSame),
          if_neg hSame]
        rfl

theorem stored_upsert
    {userId : String}
    {t : NotificationsTable}
    {row : Row}
    (hMine : row.userId = userId)
    (hOthers :
      ∀ other ∈ t.rows, other.id = row.id →
        other.userId = userId)
    (id : String) :
    stored userId
        (t.upsert row (Row.withRead row.isRead)
          (Row.key_withRead row.isRead)) id =
      if id = row.id then
        some (((stored userId t id).map (fun old =>
          { old with
              read := row.isRead
              isRead := row.isRead })).getD row.toRecord)
      else stored userId t id := by
  unfold stored
  rw [Table.find?_upsert]
  have hKey : row.key = some id ↔ id = row.id := by
    unfold Row.key
    rw [Option.some.injEq, eq_comm]
  by_cases hSame : id = row.id
  · rw [if_pos (hKey.mpr hSame), if_pos hSame]
    cases hFind : t.find? id with
    | none => simp [Option.filter, hMine]
    | some old =>
        rcases find?_iff.mp hFind with ⟨hMem, hId⟩
        have hOld : old.userId = userId :=
          hOthers old hMem (hId.trans hSame)
        simp [Option.filter, hOld, Row.toRecord, Row.withRead]
  · rw [if_neg (fun h => hSame (hKey.mp h)), if_neg hSame]

/- The statements that mark rows as read. -/
theorem stored_updateWhere
    {userId : String}
    {t : NotificationsTable}
    (p : Row → Bool)
    (id : String) :
    stored userId
        (t.updateWhere p (Row.withRead true)
          (Row.key_withRead true)) id =
      ((t.find? id).filter
        (fun row => decide (row.userId = userId))).map
          (fun row =>
            if p row then row.toRecord.asRead
            else row.toRecord) := by
  unfold stored
  rw [Table.find?_updateWhere]
  cases t.find? id with
  | none => rfl
  | some row =>
      by_cases hMine : row.userId = userId
      · by_cases hRow : p row = true
        · simp [Option.filter, hMine, hRow, Row.toRecord,
            Record.asRead, Row.withRead]
        · simp [Option.filter, hMine, hRow]
      · by_cases hRow : p row = true
        · simp [Option.filter, hMine, hRow, Row.withRead]
        · simp [Option.filter, hMine, hRow]

theorem stored_markRead
    (userId : String)
    (t : NotificationsTable)
    (marked id : String) :
    stored userId (NotificationsTable.markRead userId marked t)
        id =
      if id = marked then (stored userId t id).map Record.asRead
      else stored userId t id := by
  unfold NotificationsTable.markRead
  rw [stored_updateWhere]
  unfold stored
  cases hFind : t.find? id with
  | none => simp
  | some row =>
      have hId := (find?_iff.mp hFind).2
      by_cases hMine : row.userId = userId
      · by_cases hSame : id = marked
        · simp [Option.filter, hMine, hId, hSame]
        · simp [Option.filter, hMine, hId, hSame]
      · simp [Option.filter, hMine]

theorem stored_markAllRead
    (userId : String)
    (t : NotificationsTable)
    (id : String) :
    stored userId (NotificationsTable.markAllRead userId t) id =
      (stored userId t id).map Record.asRead := by
  unfold NotificationsTable.markAllRead
  rw [stored_updateWhere]
  unfold stored
  cases t.find? id with
  | none => rfl
  | some row =>
      by_cases hMine : row.userId = userId
      · simp [Option.filter, hMine]
      · simp [Option.filter, hMine]

------------------------------------------------------------
-- Hydration
------------------------------------------------------------

/- The items that a restart loads, the newest first. -/
def loaded
    (time : String → Option Int)
    (userId : String)
    (t : NotificationsTable) : List Record :=
  ((list userId 100 t).mergeSort
    (NotificationsContainer.newerFirst time)).take 100

theorem loaded_ids_nodup
    (time : String → Option Int)
    (userId : String)
    (t : NotificationsTable) :
    ((loaded time userId t).map Record.id).Nodup := by
  have hNewest :
      ((newest userId 100 t).map Row.id).Nodup := by
    have hPerm :=
      (List.mergeSort_perm (t.rowsOf Row.userId userId)
        (fun a b =>
          decide (b.timestamp ≤ a.timestamp))).map Row.id
    exact (hPerm.nodup_iff.mpr (ids_nodup userId t)).sublist
      ((List.take_sublist 100 _).map Row.id)
  have hList : ((list userId 100 t).map Record.id).Nodup := by
    unfold NotificationsTable.list
    rw [List.map_map]
    exact hNewest
  have hPerm :=
    (List.mergeSort_perm (list userId 100 t)
      (NotificationsContainer.newerFirst time)).map Record.id
  exact (hPerm.nodup_iff.mpr hList).sublist
    ((List.take_sublist 100 _).map Record.id)

theorem mem_loaded
    {time : String → Option Int}
    {userId : String}
    {t : NotificationsTable}
    (hShort : (t.rowsOf Row.userId userId).length ≤ 100)
    {record : Record} :
    record ∈ loaded time userId t ↔
      ∃ row ∈ t.rowsOf Row.userId userId,
        row.toRecord = record := by
  unfold loaded
  rw [List.take_of_length_le (by
      rw [List.length_mergeSort, NotificationsTable.list,
        List.length_map, newest_length]
      exact Nat.min_le_left _ _), List.mem_mergeSort,
    NotificationsTable.list, List.mem_map]
  simp only [mem_newest_of_length hShort]

theorem hydrated_entries
    (time : String → Option Int)
    (userId : String)
    (s : Feed)
    (revision : Nat) :
    (s.hydrated time userId revision).notifications.entries =
      (loaded time userId s.table).map
        (fun record => (record.id, record)) :=
  OrderedMap.load_entries id (loaded_ids_nodup _ _ _)

/- A restart loads what is stored of the user. -/
theorem hydrated_get?
    {time : String → Option Int}
    {userId : String}
    {s : Feed}
    (hShort :
      (s.table.rowsOf Row.userId userId).length ≤ 100)
    (revision : Nat)
    (id : String) :
    (s.hydrated time userId revision).notifications.get? id =
      stored userId s.table id := by
  apply Option.ext
  intro record
  rw [OrderedMap.get?_eq_some_iff, hydrated_entries,
    List.mem_map, stored_iff]
  constructor
  · rintro ⟨found, hFound, hSame⟩
    cases hSame
    rcases (mem_loaded hShort).mp hFound with ⟨row, hRow, rfl⟩
    exact ⟨row, hRow, rfl, rfl⟩
  · rintro ⟨row, hRow, rfl, rfl⟩
    exact ⟨_, (mem_loaded hShort).mpr ⟨row, hRow, rfl⟩, rfl⟩

theorem hydrated_size
    (time : String → Option Int)
    (userId : String)
    (s : Feed)
    (revision : Nat) :
    (s.hydrated time userId revision).notifications.size ≤
      100 := by
  unfold OrderedMap.size
  rw [hydrated_entries, List.length_map]
  unfold loaded
  rw [List.length_take]
  exact Nat.min_le_left _ _

theorem hydrated_unread
    (time : String → Option Int)
    (userId : String)
    (s : Feed)
    (revision : Nat) :
    (s.hydrated time userId revision).unreadCount =
      (s.hydrated time userId revision).notifications.count
        (fun item => !item.read) := by
  rw [OrderedMap.count_eq_entries, hydrated_entries,
    List.countP_map]
  change (loaded time userId s.table).countP
    NotificationsContainer.isUnread = _
  refine List.countP_congr ?_
  intro record hMem
  have hList : record ∈ list userId 100 s.table :=
    List.mem_mergeSort.mp (List.mem_of_mem_take hMem)
  rcases List.mem_map.mp hList with ⟨row, _, rfl⟩
  simp [NotificationsContainer.isUnread, Row.toRecord]

------------------------------------------------------------
-- The Law Of The Feed
------------------------------------------------------------

namespace Feed

/- What a reader of the feed relies on. -/
structure Holds
    (time : String → Option Int)
    (userId : String)
    (s : Feed) : Prop where
  counted :
    s.container.unreadCount =
      s.container.notifications.count (fun item => !item.read)
  bounded : s.container.notifications.size ≤ 100
  durable :
    ∀ revision id,
      (s.hydrated time userId revision).notifications.get? id =
        s.container.notifications.get? id

/- No item of the feed is known to be of an earlier time. -/
def Oldest
    (time : String → Option Int)
    (s : Feed)
    (item : Record) : Prop :=
  ∀ other ∈ s.container.notifications.values,
    NotificationsContainer.newerFirst time other item = true

/-
  What a new notification removes from the feed was the
  oldest of a full one, and it has another id.
-/
def EvictsOldest
    (time : String → Option Int)
    (userId : String)
    (s : Feed)
    (event : Event) : Prop :=
  ∀ n moment, event = .add n moment →
    ∀ id item,
      s.container.notifications.get? id = some item →
        (s.add userId n moment).container.notifications.get? id =
            none →
          100 ≤ s.container.notifications.size ∧
            s.container.notifications.get? (idOf n moment) =
              none ∧
            Oldest time s item

/- The item that makes room is the oldest in both orders. -/
def MakesRoom
    (time : String → Option Int)
    (s : Feed)
    (record : Record) : Prop :=
  ∀ first ∈ s.container.notifications.first?,
    first.2.timestamp < record.timestamp ∧
      ∀ other ∈ s.container.notifications.values,
        NotificationsContainer.newerFirst time other first.2 =
            true ∧
          (other.id ≠ first.1 →
            first.2.timestamp < other.timestamp)

/-
  An id is added again with the same data, when it is read
  or when it makes room for itself.
-/
def Repeats
    (s : Feed)
    (record old : Record) : Prop :=
  record =
      { old with
          read := record.read
          isRead := record.isRead } ∧
    if 100 ≤ s.container.notifications.size then
      s.container.notifications.firstKey? = some record.id
    else old.read = true

def SafeAdd
    (time : String → Option Int)
    (userId : String)
    (s : Feed)
    (record : Record) : Prop :=
  (∀ row ∈ s.table.rows,
    row.id = record.id → row.userId = userId) ∧
  (∀ old ∈ s.container.notifications.get? record.id,
    Repeats s record old) ∧
  (s.container.notifications.get? record.id = none →
    100 ≤ s.container.notifications.size →
      MakesRoom time s record)

/- The calls that keep the law of the feed. -/
def Safe
    (time : String → Option Int)
    (userId : String)
    (s : Feed) : Event → Prop
| .add n moment => SafeAdd time userId s (recordOf n moment)
| .markRead _ => True
| .markAllRead => True
| .delete id => s.container.notifications.get? id = none
| .restart _ => True

------------------------------------------------------------
-- Sound Feeds
------------------------------------------------------------

/- The feed holds what the table has of the user. -/
structure Sound (userId : String) (s : Feed) : Prop where
  counted :
    s.container.unreadCount =
      s.container.notifications.count (fun item => !item.read)
  bounded : s.container.notifications.size ≤ 100
  named :
    ∀ id item, s.container.notifications.get? id = some item →
      id ≠ ""
  mirrored :
    ∀ id,
      s.container.notifications.get? id =
        stored userId s.table id

/- A map of what is stored has one item for each row. -/
theorem rows_length_of_mirrored
    {userId : String}
    {t : NotificationsTable}
    {m : OrderedMap String Record}
    (hMirrored : ∀ id, m.get? id = stored userId t id) :
    (t.rowsOf Row.userId userId).length = m.size := by
  apply Nat.le_antisymm
  · have hLength : ((t.rowsOf Row.userId userId).map
        Row.id).length ≤ m.size := by
      apply OrderedMap.length_le_size (ids_nodup userId t)
      intro id hId
      rcases List.mem_map.mp hId with ⟨row, hRow, rfl⟩
      refine ⟨row.toRecord, ?_⟩
      rw [hMirrored]
      exact stored_iff.mpr ⟨row, hRow, rfl, rfl⟩
    rwa [List.length_map] at hLength
  · have hKeys :
        m.keys ⊆ (t.rowsOf Row.userId userId).map Row.id := by
      intro id hId
      rcases (OrderedMap.mem_keys_iff _ id).mp hId with
        ⟨item, hItem⟩
      rw [hMirrored] at hItem
      rcases stored_iff.mp hItem with ⟨row, hRow, hSame, _⟩
      exact List.mem_map.mpr ⟨row, hRow, hSame⟩
    have hLength := (m.nodup.subperm hKeys).length_le
    rwa [List.length_map, List.length_map] at hLength

theorem Sound.holds
    (time : String → Option Int)
    {userId : String}
    {s : Feed}
    (hSound : Sound userId s) : Holds time userId s where
  counted := hSound.counted
  bounded := hSound.bounded
  durable revision id := by
    rw [hydrated_get? (by
      rw [rows_length_of_mirrored hSound.mirrored]
      exact hSound.bounded), hSound.mirrored]

theorem Sound.keyed
    {userId : String}
    {s : Feed}
    (hSound : Sound userId s)
    {id : String}
    {item : Record}
    (hItem : s.container.notifications.get? id = some item) :
    item.id = id ∧ item.isRead = item.read := by
  rw [hSound.mirrored] at hItem
  rcases stored_iff.mp hItem with ⟨row, _, rfl, rfl⟩
  exact ⟨rfl, rfl⟩

theorem sound_initial
    {userId : String}
    {t : NotificationsTable}
    (hNone : t.rowsOf Row.userId userId = []) :
    Sound userId (initial t) where
  counted := rfl
  bounded := Nat.zero_le _
  named _ _ h := nomatch h
  mirrored id := by
    cases hStored : stored userId t id with
    | none => rw [initial, hStored]; rfl
    | some record =>
        rcases stored_iff.mp hStored with ⟨row, hRow, _⟩
        rw [hNone] at hRow
        nomatch hRow

theorem sound_restart
    {time : String → Option Int}
    {userId : String}
    {s : Feed}
    (hSound : Sound userId s)
    (revision : Nat) :
    Sound userId
      { s with container := s.hydrated time userId revision } where
  counted := hydrated_unread time userId s revision
  bounded := hydrated_size time userId s revision
  named id item hItem := by
    have hSame := (hSound.holds time).durable revision id
    exact hSound.named id item (hSame.symm.trans hItem)
  mirrored id := by
    have hSame := (hSound.holds time).durable revision id
    exact hSame.trans (hSound.mirrored id)

------------------------------------------------------------
-- Notifications That Are Marked
------------------------------------------------------------

theorem sound_markRead
    {userId : String}
    {s : Feed}
    (hSound : Sound userId s)
    (marked : String) :
    Sound userId (s.markRead userId marked) := by
  unfold Feed.markRead NotificationsContainer.markRead
  cases hItem : s.container.notifications.get? marked with
  | none => exact hSound
  | some item =>
      dsimp only
      by_cases hRead : item.read = true
      · rw [if_pos hRead]
        exact hSound
      · rw [if_neg hRead]
        have hCount :=
          OrderedMap.count_of_get? hItem (fun item => !item.read)
        rw [← hSound.counted] at hCount
        have hOne : OrderedMap.indicator (!item.read) = 1 := by
          simp [OrderedMap.indicator, hRead]
        refine ⟨?_, ?_, ?_, ?_⟩
        · dsimp only
          rw [OrderedMap.count_set, hCount, hOne]
          rfl
        · dsimp only
          rw [OrderedMap.size_set,
            ← OrderedMap.size_delete_of_get? hItem]
          exact hSound.bounded
        · intro id found hFound
          dsimp only at hFound
          rw [OrderedMap.get?_set] at hFound
          by_cases hSame : id = marked
          · rw [hSame]
            exact hSound.named marked item hItem
          · rw [if_neg hSame] at hFound
            exact hSound.named id found hFound
        · intro id
          dsimp only
          rw [OrderedMap.get?_set, stored_markRead]
          by_cases hSame : id = marked
          · rw [if_pos hSame, if_pos hSame, hSame,
              ← hSound.mirrored, hItem]
            rfl
          · rw [if_neg hSame, if_neg hSame]
            exact hSound.mirrored id

theorem sound_markAllRead
    {userId : String}
    {s : Feed}
    (hSound : Sound userId s) :
    Sound userId (s.markAllRead userId) := by
  unfold Feed.markAllRead NotificationsContainer.markAllRead
  by_cases hAll :
      s.container.notifications.values.all Record.read = true
  · rw [if_pos hAll]
    exact hSound
  · rw [if_neg hAll]
    refine ⟨?_, ?_, ?_, ?_⟩
    · dsimp only
      rw [OrderedMap.count_modify]
      refine (List.countP_eq_zero.mpr ?_).symm
      intro item _
      by_cases hRead : item.read = true
      · simp [hRead]
      · simp [hRead, Record.asRead]
    · dsimp only
      rw [OrderedMap.size_modify]
      exact hSound.bounded
    · intro id item hItem
      dsimp only at hItem
      rw [OrderedMap.get?_modify,
        Option.map_eq_some_iff] at hItem
      rcases hItem with ⟨old, hOld, _⟩
      exact hSound.named id old hOld
    · intro id
      dsimp only
      rw [OrderedMap.get?_modify, stored_markAllRead,
        ← hSound.mirrored]
      cases hItem : s.container.notifications.get? id with
      | none => rfl
      | some item =>
          have hSame := (hSound.keyed hItem).2
          by_cases hRead : item.read = true
          · rcases item with ⟨_, _, _, _, _, _, read, isRead, _⟩
            cases hRead
            cases hSame
            rfl
          · rw [Option.map_some, Option.map_some, if_neg hRead]

------------------------------------------------------------
-- Notifications That Are Added
------------------------------------------------------------

theorem orText_ne
    (value : Option String)
    {default : String}
    (hDefault : default ≠ "") : orText value default ≠ "" := by
  unfold orText
  cases value with
  | none => exact hDefault
  | some text =>
      dsimp only
      split
      · exact hDefault
      · rename_i hText
        exact hText

theorem orText_of_ne
    {text : String}
    (hText : text ≠ "")
    (default : String) :
    orText (some text) default = text :=
  if_neg hText

theorem orText_empty
    (text : String) : orText (some text) "" = text := by
  unfold orText
  dsimp only
  split
  · rename_i hText
    exact hText.symm
  · rfl

theorem record_id_ne
    (n : Notification)
    (moment : Moment) : (recordOf n moment).id ≠ "" := by
  apply orText_ne
  intro hEmpty
  have hLength := congrArg String.length hEmpty
  rw [String.length_append] at hLength
  change 6 + _ = 0 at hLength
  omega

/- The row of a new notification reads back as it was. -/
theorem toRow_toRecord
    (userId : String)
    (n : Notification)
    (moment : Moment) :
    (toRow userId moment (recordOf n moment)).toRecord =
      recordOf n moment := by
  have hId := orText_of_ne (record_id_ne n moment)
    ("notif_" ++ toString moment.milliseconds)
  have hTime :
      orText (some (recordOf n moment).timestamp) moment.iso =
        (recordOf n moment).timestamp :=
    orText_of_ne (orText_ne _ moment.written) _
  have hSeverity :
      orText (some (recordOf n moment).severity) "INFO" =
        (recordOf n moment).severity :=
    orText_of_ne (orText_ne _ (by decide)) _
  have hCategory :
      orText (some (recordOf n moment).category) "SYSTEM" =
        (recordOf n moment).category :=
    orText_of_ne (orText_ne _ (by decide)) _
  have hMetadata :
      (if (recordOf n moment).metadata.truthy then
        some (recordOf n moment).metadata
      else none).getD .null = (recordOf n moment).metadata := by
    unfold recordOf
    dsimp only
    by_cases hTruthy : n.metadata.truthy = true
    · rw [if_pos hTruthy, if_pos hTruthy]
      rfl
    · rw [if_neg hTruthy]
      rfl
  unfold toRow Row.toRecord
  dsimp only
  rw [hId, hTime, hSeverity, hCategory, orText_empty,
    orText_empty, hMetadata]
  unfold recordOf
  dsimp only
  rw [Bool.or_self]

theorem toRow_id
    (userId : String)
    (n : Notification)
    (moment : Moment) :
    (toRow userId moment (recordOf n moment)).id =
      (recordOf n moment).id :=
  congrArg Record.id (toRow_toRecord userId n moment)

theorem toRow_isRead
    (userId : String)
    (n : Notification)
    (moment : Moment) :
    (toRow userId moment (recordOf n moment)).isRead =
      (recordOf n moment).read :=
  Bool.or_self _

/- The table before it is pruned has the new item as well. -/
theorem stored_of_add
    {time : String → Option Int}
    {userId : String}
    {s : Feed}
    (hSound : Sound userId s)
    {n : Notification}
    {moment : Moment}
    (hSafe : SafeAdd time userId s (recordOf n moment))
    (id : String) :
    (s.container.notifications.set (recordOf n moment).id
        (recordOf n moment)).get? id =
      stored userId
        (s.table.upsert
          (toRow userId moment (recordOf n moment))
          (Row.withRead
            (toRow userId moment (recordOf n moment)).isRead)
          (Row.key_withRead _)) id := by
  have hOthers :
      ∀ other ∈ s.table.rows,
        other.id =
            (toRow userId moment (recordOf n moment)).id →
          other.userId = userId := by
    rw [toRow_id]
    exact hSafe.1
  have hMine :
      (toRow userId moment (recordOf n moment)).userId =
        userId := rfl
  rw [stored_upsert hMine hOthers, OrderedMap.get?_set,
    toRow_id, toRow_toRecord, toRow_isRead]
  by_cases hSame : id = (recordOf n moment).id
  · rw [if_pos hSame, if_pos hSame, hSame, ← hSound.mirrored]
    cases hOld :
        s.container.notifications.get?
          (recordOf n moment).id with
    | none => rfl
    | some old =>
        have hRecord := (hSafe.2.1 old hOld).1
        have hRead :
            (recordOf n moment).isRead =
              (recordOf n moment).read := rfl
        rw [hRead] at hRecord
        exact congrArg some hRecord
  · rw [if_neg hSame, if_neg hSame]
    exact hSound.mirrored id

theorem add_of_room
    {s : Feed}
    (hRoom : s.container.notifications.size < 100)
    (userId : String)
    (n : Notification)
    (moment : Moment) :
    (s.add userId n moment).container =
      { notifications :=
          s.container.notifications.set (recordOf n moment).id
            (recordOf n moment)
        unreadCount :=
          if (recordOf n moment).read then
            s.container.unreadCount
          else s.container.unreadCount + 1
        revision := s.container.revision + 1 } := by
  unfold Feed.add NotificationsContainer.add
    NotificationsContainer.makeRoom
  dsimp only
  rw [if_neg (Nat.not_le_of_gt hRoom)]

/- The first item of a full feed makes room. -/
theorem add_of_full
    {s : Feed}
    (hFull : 100 ≤ s.container.notifications.size)
    {first : String × Record}
    (hFirst : s.container.notifications.first? = some first)
    (hNamed : first.1 ≠ "")
    (userId : String)
    (n : Notification)
    (moment : Moment) :
    (s.add userId n moment).container =
      { notifications :=
          (s.container.notifications.delete first.1).set
            (recordOf n moment).id (recordOf n moment)
        unreadCount :=
          if (recordOf n moment).read then
            if first.2.read then s.container.unreadCount
            else s.container.unreadCount - 1
          else
            (if first.2.read then s.container.unreadCount
            else s.container.unreadCount - 1) + 1
        revision := s.container.revision + 1 } := by
  unfold Feed.add NotificationsContainer.add
    NotificationsContainer.makeRoom
  dsimp only
  rw [if_pos hFull, hFirst]
  dsimp only
  rw [if_neg hNamed]

theorem first_of_full
    {s : Feed}
    (hFull : 100 ≤ s.container.notifications.size) :
    ∃ first, s.container.notifications.first? = some first := by
  unfold OrderedMap.size at hFull
  unfold OrderedMap.first?
  cases hEntries : s.container.notifications.entries with
  | nil =>
      rw [hEntries] at hFull
      nomatch hFull
  | cons first rest => exact ⟨first, rfl⟩

theorem add_table
    (s : Feed)
    (userId : String)
    (n : Notification)
    (moment : Moment) :
    (s.add userId n moment).table =
      prune userId
        (s.table.upsert
          (toRow userId moment (recordOf n moment))
          (Row.withRead
            (toRow userId moment (recordOf n moment)).isRead)
          (Row.key_withRead _)) := rfl

/- One unread item more or less in the count. -/
theorem counted_of_write
    {m : OrderedMap String Record}
    {id : String}
    {record : Record}
    (hNone : m.get? id = none) :
    (m.set id record).count (fun item => !item.read) =
      if record.read then m.count (fun item => !item.read)
      else m.count (fun item => !item.read) + 1 := by
  rw [OrderedMap.count_set,
    ← OrderedMap.count_of_get?_none hNone]
  by_cases hRead : record.read = true
  · simp [OrderedMap.indicator, hRead]
  · simp [OrderedMap.indicator, hRead]

theorem sound_add_of_room
    {time : String → Option Int}
    {userId : String}
    {s : Feed}
    (hSound : Sound userId s)
    {n : Notification}
    {moment : Moment}
    (hSafe : SafeAdd time userId s (recordOf n moment))
    (hRoom : s.container.notifications.size < 100) :
    Sound userId (s.add userId n moment) := by
  have hStored := stored_of_add hSound hSafe
  have hSize :
      (s.container.notifications.set (recordOf n moment).id
        (recordOf n moment)).size ≤ 100 := by
    rw [OrderedMap.size_set]
    cases hOld :
        s.container.notifications.get?
          (recordOf n moment).id with
    | none =>
        rw [OrderedMap.size_delete_of_get?_none hOld]
        exact hRoom
    | some old =>
        rw [← OrderedMap.size_delete_of_get? hOld]
        exact hSound.bounded
  have hContainer := add_of_room hRoom userId n moment
  refine ⟨?_, ?_, ?_, ?_⟩
  · rw [hContainer]
    dsimp only
    cases hOld :
        s.container.notifications.get?
          (recordOf n moment).id with
    | none =>
        rw [counted_of_write hOld, hSound.counted]
    | some old =>
        have hRead : old.read = true := by
          have hBoth := (hSafe.2.1 old hOld).2
          rwa [if_neg (Nat.not_le_of_gt hRoom)] at hBoth
        have hCount :=
          OrderedMap.count_of_get? hOld (fun item => !item.read)
        rw [OrderedMap.count_set, hSound.counted, hCount]
        by_cases hNew : (recordOf n moment).read = true
        · simp [OrderedMap.indicator, hRead, hNew]
        · simp [OrderedMap.indicator, hRead, hNew]
  · rw [hContainer]
    exact hSize
  · intro id item hItem
    rw [hContainer] at hItem
    dsimp only at hItem
    rw [OrderedMap.get?_set] at hItem
    by_cases hSame : id = (recordOf n moment).id
    · rw [hSame]
      exact record_id_ne n moment
    · rw [if_neg hSame] at hItem
      exact hSound.named id item hItem
  · intro id
    rw [hContainer, add_table, stored_prune_of_length]
    · exact hStored id
    · rw [rows_length_of_mirrored hStored]
      exact hSize

section FullFeed

variable
  {time : String → Option Int}
  {userId : String}
  {s : Feed}
  {n : Notification}
  {moment : Moment}
  {key : String}
  {item : Record}

/- An item that is in a full feed is the one that makes room. -/
theorem absent_of_full
    (hSafe : SafeAdd time userId s (recordOf n moment))
    (hFull : 100 ≤ s.container.notifications.size)
    (hFirst :
      s.container.notifications.first? = some (key, item)) :
    (s.container.notifications.delete key).get?
      (recordOf n moment).id = none := by
  have hKey := (OrderedMap.get?_of_first? hFirst).1
  rw [OrderedMap.get?_delete]
  by_cases hSame : (recordOf n moment).id = key
  · rw [if_pos hSame]
  · rw [if_neg hSame]
    cases hOld :
        s.container.notifications.get?
          (recordOf n moment).id with
    | none => rfl
    | some old =>
        have hBoth := (hSafe.2.1 old hOld).2
        rw [if_pos hFull, hKey, Option.some.injEq] at hBoth
        exact absurd hBoth.symm hSame

theorem counted_of_full
    (hSound : Sound userId s)
    (hItem : s.container.notifications.get? key = some item) :
    (s.container.notifications.delete key).count
        (fun item => !item.read) =
      if item.read then s.container.unreadCount
      else s.container.unreadCount - 1 := by
  have hCount :=
    OrderedMap.count_of_get? hItem (fun item => !item.read)
  rw [hSound.counted, hCount]
  by_cases hRead : item.read = true
  · simp [OrderedMap.indicator, hRead]
  · simp [OrderedMap.indicator, hRead]

/- Nothing is pruned when the first item is added again. -/
theorem stored_of_repeated
    (hSound : Sound userId s)
    (hSafe : SafeAdd time userId s (recordOf n moment))
    (hItem : s.container.notifications.get? key = some item)
    (hRepeated : (recordOf n moment).id = key)
    (id : String) :
    ((s.container.notifications.delete key).set
        (recordOf n moment).id (recordOf n moment)).get? id =
      stored userId (s.add userId n moment).table id := by
  have hStored := stored_of_add hSound hSafe
  have hSize :
      (s.container.notifications.set
        (recordOf n moment).id
        (recordOf n moment)).size ≤ 100 := by
    rw [hRepeated, OrderedMap.size_set,
      ← OrderedMap.size_delete_of_get? hItem]
    exact hSound.bounded
  have hLength :=
    (rows_length_of_mirrored hStored).trans_le hSize
  rw [add_table, stored_prune_of_length hLength, ← hStored,
    OrderedMap.get?_set, OrderedMap.get?_set,
    OrderedMap.get?_delete]
  by_cases hSame : id = (recordOf n moment).id
  · rw [if_pos hSame, if_pos hSame]
  · rw [if_neg hSame, if_neg hSame,
      if_neg (fun h => hSame (h.trans hRepeated.symm))]

/- The row of the first item is the oldest of all. -/
theorem oldest_of_full
    (hSound : Sound userId s)
    (hSafe : SafeAdd time userId s (recordOf n moment))
    (hFull : 100 ≤ s.container.notifications.size)
    (hFirst :
      s.container.notifications.first? = some (key, item))
    (hNew :
      s.container.notifications.get? (recordOf n moment).id =
        none)
    {row : Row}
    (hRowId : row.id = key)
    (hRecord : row.toRecord = item) :
    ∀ other ∈ Table.rowsOf Row.userId userId
        (s.table.upsert
          (toRow userId moment (recordOf n moment))
          (Row.withRead
            (toRow userId moment (recordOf n moment)).isRead)
          (Row.key_withRead _)),
      other.id ≠ row.id → row.timestamp < other.timestamp := by
  intro other hOther hNe
  have hOldest := hSafe.2.2 hNew hFull (key, item) hFirst
  have hTime : row.timestamp = item.timestamp := by
    rw [← hRecord]
    rfl
  have hFound :=
    (stored_of_add hSound hSafe other.id).trans
      (stored_iff.mpr ⟨other, hOther, rfl, rfl⟩)
  rw [OrderedMap.get?_set] at hFound
  rw [hTime]
  split at hFound
  · have hSame := Option.some.inj hFound
    change item.timestamp < other.toRecord.timestamp
    rw [← hSame]
    exact hOldest.1
  · have hMem :
        other.toRecord ∈ s.container.notifications.values :=
      List.mem_map.mpr
        ⟨(other.id, other.toRecord),
          (OrderedMap.get?_eq_some_iff _ _ _).mp hFound, rfl⟩
    exact (hOldest.2 _ hMem).2
      (fun h => hNe (h.trans hRowId.symm))

/- The row of the first item is pruned for a new one. -/
theorem stored_of_new
    (hSound : Sound userId s)
    (hSafe : SafeAdd time userId s (recordOf n moment))
    (hFull : 100 ≤ s.container.notifications.size)
    (hFirst :
      s.container.notifications.first? = some (key, item))
    (hNew :
      s.container.notifications.get? (recordOf n moment).id =
        none)
    (hOther : (recordOf n moment).id ≠ key)
    (id : String) :
    ((s.container.notifications.delete key).set
        (recordOf n moment).id (recordOf n moment)).get? id =
      stored userId (s.add userId n moment).table id := by
  have hItem := (OrderedMap.get?_of_first? hFirst).2
  have hStored := stored_of_add hSound hSafe
  have hHundred : s.container.notifications.size = 100 :=
    Nat.le_antisymm hSound.bounded hFull
  have hOne :
      (s.container.notifications.set
        (recordOf n moment).id
        (recordOf n moment)).size = 101 := by
    rw [OrderedMap.size_set,
      OrderedMap.size_delete_of_get?_none hNew, hHundred]
  have hKeyStored := (hStored key).symm
  rw [OrderedMap.get?_set_of_ne _ _ hOther.symm,
    hItem, stored_iff] at hKeyStored
  rcases hKeyStored with ⟨row, hRow, hRowId, hRecord⟩
  have hOldest :=
    oldest_of_full hSound hSafe hFull hFirst hNew hRowId hRecord
  have hLength :=
    (rows_length_of_mirrored hStored).trans hOne
  rw [add_table, stored_prune_of_oldest hLength hRow hOldest,
    ← hStored, OrderedMap.get?_set, OrderedMap.get?_set,
    OrderedMap.get?_delete, hRowId]
  by_cases hSame : id = (recordOf n moment).id
  · rw [if_pos hSame, if_pos hSame,
      if_neg (fun h => hOther (hSame.symm.trans h))]
  · rw [if_neg hSame, if_neg hSame]

theorem sound_add_of_full
    (hSound : Sound userId s)
    (hSafe : SafeAdd time userId s (recordOf n moment))
    (hFull : 100 ≤ s.container.notifications.size) :
    Sound userId (s.add userId n moment) := by
  rcases first_of_full hFull with ⟨⟨key, item⟩, hFirst⟩
  have hItem := (OrderedMap.get?_of_first? hFirst).2
  have hNamed := hSound.named key item hItem
  have hAbsent := absent_of_full hSafe hFull hFirst
  have hContainer :=
    add_of_full hFull hFirst hNamed userId n moment
  refine ⟨?_, ?_, ?_, ?_⟩
  · rw [hContainer]
    dsimp only
    rw [counted_of_write hAbsent, counted_of_full hSound hItem]
  · rw [hContainer]
    dsimp only
    rw [OrderedMap.size_set,
      OrderedMap.size_delete_of_get?_none hAbsent,
      ← OrderedMap.size_delete_of_get? hItem]
    exact hSound.bounded
  · intro id found hFound
    rw [hContainer] at hFound
    dsimp only at hFound
    rw [OrderedMap.get?_set] at hFound
    by_cases hSame : id = (recordOf n moment).id
    · rw [hSame]
      exact record_id_ne n moment
    · rw [if_neg hSame, OrderedMap.get?_delete] at hFound
      split at hFound
      · cases hFound
      · exact hSound.named id found hFound
  · intro id
    rw [hContainer]
    dsimp only
    by_cases hRepeated : (recordOf n moment).id = key
    · exact stored_of_repeated hSound hSafe hItem hRepeated id
    · have hNew :
          s.container.notifications.get?
            (recordOf n moment).id = none := by
        rwa [OrderedMap.get?_delete_of_ne _ hRepeated]
          at hAbsent
      exact stored_of_new hSound hSafe hFull hFirst hNew
        hRepeated id

end FullFeed

theorem sound_add
    {time : String → Option Int}
    {userId : String}
    {s : Feed}
    (hSound : Sound userId s)
    {n : Notification}
    {moment : Moment}
    (hSafe : SafeAdd time userId s (recordOf n moment)) :
    Sound userId (s.add userId n moment) := by
  by_cases hFull : 100 ≤ s.container.notifications.size
  · exact sound_add_of_full hSound hSafe hFull
  · exact sound_add_of_room hSound hSafe (Nat.lt_of_not_le hFull)

theorem sound_step
    {time : String → Option Int}
    {userId : String}
    {s : Feed}
    {event : Event}
    (hSound : Sound userId s)
    (hSafe : Safe time userId s event) :
    Sound userId (step time userId s event) := by
  cases event with
  | add n moment => exact sound_add hSound hSafe
  | markRead id => exact sound_markRead hSound id
  | markAllRead => exact sound_markAllRead hSound
  | delete id =>
      have hNone :
          s.container.notifications.get? id = none := hSafe
      change Sound userId (s.delete id)
      unfold Feed.delete NotificationsContainer.delete
      rw [hNone]
      exact hSound
  | restart revision => exact sound_restart hSound revision

------------------------------------------------------------
-- Evictions
------------------------------------------------------------

theorem evictsOldest_of_safe
    {time : String → Option Int}
    {userId : String}
    {s : Feed}
    {event : Event}
    (hSound : Sound userId s)
    (hSafe : Safe time userId s event) :
    EvictsOldest time userId s event := by
  rintro n moment rfl id item hItem hGone
  have hAdd : SafeAdd time userId s (recordOf n moment) := hSafe
  by_cases hFull : 100 ≤ s.container.notifications.size
  · rcases first_of_full hFull with ⟨⟨key, first⟩, hFirst⟩
    rcases OrderedMap.get?_of_first? hFirst with ⟨hKey, hFound⟩
    rw [add_of_full hFull hFirst (hSound.named key first hFound)]
      at hGone
    dsimp only at hGone
    rw [OrderedMap.get?_set] at hGone
    by_cases hSame : id = (recordOf n moment).id
    · rw [if_pos hSame] at hGone
      nomatch hGone
    · rw [if_neg hSame, OrderedMap.get?_delete] at hGone
      by_cases hId : id = key
      · have hNew :
            s.container.notifications.get?
              (recordOf n moment).id = none := by
          cases hOld :
              s.container.notifications.get?
                (recordOf n moment).id with
          | none => rfl
          | some old =>
              have hBoth := (hAdd.2.1 old hOld).2
              rw [if_pos hFull, hKey, Option.some.injEq]
                at hBoth
              exact absurd (hId.trans hBoth) hSame
        refine ⟨hFull, hNew, ?_⟩
        intro other hOther
        rw [hId, hFound, Option.some.injEq] at hItem
        rw [← hItem]
        exact ((hAdd.2.2 hNew hFull _ hFirst).2 other hOther).1
      · rw [if_neg hId, hItem] at hGone
        nomatch hGone
  · rw [add_of_room (Nat.lt_of_not_le hFull)] at hGone
    dsimp only at hGone
    rw [OrderedMap.get?_set] at hGone
    split at hGone
    · nomatch hGone
    · rw [hItem] at hGone
      nomatch hGone

/-
  In a run of safe calls the count is that of the unread
  items, the feed is bounded and what a restart would make
  of the table, and only the oldest item makes room.
-/
theorem holds_along
    {time : String → Option Int}
    {userId : String}
    {t : NotificationsTable}
    (hNone : t.rowsOf Row.userId userId = [])
    {events : List Event}
    (hAlong :
      Along (step time userId) (Safe time userId) (initial t)
        events) :
    Throughout (step time userId) (Holds time userId)
        (initial t) events ∧
      Along (step time userId) (EvictsOldest time userId)
        (initial t) events := by
  have hStep :
      ∀ (s : Feed) (event : Event),
        Sound userId s → Safe time userId s event →
          Sound userId (step time userId s event) :=
    fun s event hSound hSafe => sound_step hSound hSafe
  have hInitial := sound_initial hNone
  refine ⟨?_, ?_⟩
  · intro past future hEvents
    rw [hEvents, along_append] at hAlong
    exact (run_invariant hStep hInitial hAlong.1).holds time
  · exact Along.of_invariant hStep
      (fun s event hSound hSafe =>
        evictsOldest_of_safe hSound hSafe) hInitial hAlong

/- The clock at the start of a year. -/
def newYear : Moment where
  milliseconds := 1767225600000
  iso := "2026-01-01T00:00:00.000Z"
  written := by decide

/- `Date.parse` at the time stamp of that moment. -/
def newYearTime (text : String) : Option Int :=
  if text = newYear.iso then some newYear.milliseconds else none

def unreadNotice : Notification where
  id := some "n1"
  timestamp := none
  severity := none
  category := none
  title := some "Session expired"
  message := none
  read := false
  isRead := false
  metadata := .null

theorem safe_feed_holds :
    Throughout (step newYearTime "user")
        (Holds newYearTime "user") (initial .empty)
        [.add unreadNotice newYear, .markRead "n1",
          .delete "n2", .restart 1] ∧
      Along (step newYearTime "user")
        (EvictsOldest newYearTime "user") (initial .empty)
        [.add unreadNotice newYear, .markRead "n1",
          .delete "n2", .restart 1] :=
  holds_along rfl
    ⟨⟨nofun, nofun, nofun⟩, trivial, rfl, trivial, trivial⟩

/- The same notification is added twice and counted twice. -/
theorem repeated_notice_is_counted_twice :
    ¬ Throughout (step newYearTime "user")
        (Holds newYearTime "user") (initial .empty)
        [.add unreadNotice newYear,
          .add unreadNotice newYear] := by
  intro hAll
  have hEnd := (hAll _ [] (List.append_nil _).symm).counted
  exact absurd hEnd (by decide)

end Feed

end Notifications

end ControlPlane
