import Mathlib.Order.Basic
import ControlPlane.Data.Json
import ControlPlane.Data.MapCount
import ControlPlane.Data.OwnedRows
import ControlPlane.Data.Run

/-
  The notification feed of a user.

  The feed is a map in memory with a count of the unread
  notifications beside it. A notification that is added goes
  to the map and to a table, which keeps the newest 100 of
  the user by their time stamps. The map gives up the one
  that has been in it longest. A restart fills the map from
  the table, the newest first.

  Main declarations:
    * `NotificationsContainer` and `NotificationsTable`
    * `Feed.step`
-/

------------------------------------------------------------
-- Notifications
------------------------------------------------------------

namespace ControlPlane

namespace Notifications

/- A notification as a caller gives it. -/
structure Notification where
  id : Option String
  timestamp : Option String
  severity : Option String
  category : Option String
  title : Option String
  message : Option String
  read : Bool
  isRead : Bool
  metadata : Json

/- A notification as it is kept in memory. -/
structure Record where
  id : String
  timestamp : String
  severity : String
  category : String
  title : String
  message : String
  read : Bool
  isRead : Bool
  metadata : Json
deriving DecidableEq

/- A row of `notifications_cache`. -/
structure Row where
  id : String
  userId : String
  timestamp : String
  severity : String
  category : String
  title : String
  message : String
  isRead : Bool
  metadata : Option Json

def Row.key (row : Row) : Option String :=
  some row.id

def Row.withRead (isRead : Bool) (row : Row) : Row :=
  { row with isRead := isRead }

theorem Row.key_withRead
    (isRead : Bool)
    (row : Row) : (row.withRead isRead).key = row.key := rfl

/- A reading of the clock, as a number and as a text. -/
structure Moment where
  milliseconds : Nat
  iso : String
  written : iso ≠ ""

/- `value || default` -/
def orText
    (value : Option String)
    (default : String) : String :=
  match value with
  | none => default
  | some text => if text = "" then default else text

/- `notification.id || notif-${Date.now()}` -/
def idOf (n : Notification) (moment : Moment) : String :=
  orText n.id ("notif-" ++ toString moment.milliseconds)

def recordOf (n : Notification) (moment : Moment) : Record where
  id := idOf n moment
  timestamp := orText n.timestamp moment.iso
  severity := orText n.severity "INFO"
  category := orText n.category "SYSTEM"
  title := orText n.title ""
  message := orText n.message ""
  read := n.read || n.isRead
  isRead := n.read || n.isRead
  metadata := if n.metadata.truthy then n.metadata else .null

def Record.asRead (record : Record) : Record :=
  { record with
      read := true
      isRead := true }

------------------------------------------------------------
-- Notifications In Memory
------------------------------------------------------------

structure NotificationsContainer where
  notifications : OrderedMap String Record
  unreadCount : Nat
  revision : Nat

namespace NotificationsContainer

def fresh : NotificationsContainer where
  notifications := .empty
  unreadCount := 0
  revision := 1

/-
  `new Date(b.timestamp).getTime() - new Date(a.timestamp)
  .getTime()` is not above zero, or is not a number.
-/
def newerFirst
    (time : String → Option Int)
    (a b : Record) : Bool :=
  match time a.timestamp, time b.timestamp with
  | some first, some second => decide (second ≤ first)
  | _, _ => true

def isUnread (item : Record) : Bool :=
  !item.isRead && !item.read

def hydrate
    (time : String → Option Int)
    (items : List Record)
    (revision : Nat) : NotificationsContainer :=
  let sorted := (items.mergeSort (newerFirst time)).take 100
  { notifications := OrderedMap.load Record.id id sorted
    unreadCount := sorted.countP isUnread
    revision := revision }

/- The notification that has been in the map longest goes. -/
def makeRoom
    (c : NotificationsContainer) : NotificationsContainer :=
  if 100 ≤ c.notifications.size then
    match c.notifications.first? with
    | none => c
    | some (oldestKey, oldest) =>
        if oldestKey = "" then c
        else
          { c with
              notifications :=
                c.notifications.delete oldestKey
              unreadCount :=
                if oldest.read then c.unreadCount
                else c.unreadCount - 1 }
  else c

def add
    (c : NotificationsContainer)
    (n : Notification)
    (moment : Moment) : NotificationsContainer :=
  let record := recordOf n moment
  let room := c.makeRoom
  { notifications := room.notifications.set record.id record
    unreadCount :=
      if record.read then room.unreadCount
      else room.unreadCount + 1
    revision := c.revision + 1 }

def delete
    (c : NotificationsContainer)
    (id : String) : Option NotificationsContainer :=
  (c.notifications.get? id).map (fun existing =>
    { notifications := c.notifications.delete id
      unreadCount :=
        if existing.read then c.unreadCount
        else c.unreadCount - 1
      revision := c.revision + 1 })

def markRead
    (c : NotificationsContainer)
    (id : String) : Option NotificationsContainer :=
  match c.notifications.get? id with
  | none => none
  | some existing =>
      if existing.read then none
      else
        some
          { notifications :=
              c.notifications.set id existing.asRead
            unreadCount := c.unreadCount - 1
            revision := c.revision + 1 }

def markAllRead
    (c : NotificationsContainer) :
    Option NotificationsContainer :=
  if c.notifications.values.all Record.read then none
  else
    some
      { notifications :=
          c.notifications.modify (fun item =>
            if item.read then item else item.asRead)
        unreadCount := 0
        revision := c.revision + 1 }

end NotificationsContainer

------------------------------------------------------------
-- Notifications On Disk
------------------------------------------------------------

def Row.toRecord (row : Row) : Record where
  id := row.id
  timestamp := row.timestamp
  severity := row.severity
  category := row.category
  title := row.title
  message := row.message
  read := row.isRead
  isRead := row.isRead
  metadata := row.metadata.getD .null

abbrev NotificationsTable := Table Row String Row.key

namespace NotificationsTable

/- The newest rows of the user, by the text of their time. -/
def newest
    (userId : String)
    (limit : Nat)
    (t : NotificationsTable) : List Row :=
  ((t.rowsOf Row.userId userId).mergeSort
    (fun a b => decide (b.timestamp ≤ a.timestamp))).take limit

def list
    (userId : String)
    (limit : Nat)
    (t : NotificationsTable) : List Record :=
  (newest userId limit t).map Row.toRecord

def toRow
    (userId : String)
    (moment : Moment)
    (notif : Record) : Row where
  id :=
    orText (some notif.id)
      ("notif_" ++ toString moment.milliseconds)
  userId := userId
  timestamp := orText (some notif.timestamp) moment.iso
  severity := orText (some notif.severity) "INFO"
  category := orText (some notif.category) "SYSTEM"
  title := orText (some notif.title) ""
  message := orText (some notif.message) ""
  isRead := notif.read || notif.isRead
  metadata :=
    if notif.metadata.truthy then some notif.metadata else none

/- Only the newest 100 rows of the user stay. -/
def prune
    (userId : String)
    (t : NotificationsTable) : NotificationsTable :=
  t.deleteWhere (fun row =>
    decide (row.userId = userId ∧
      row.id ∉ (newest userId 100 t).map Row.id))

/- A row that is there keeps all but whether it is read. -/
def save
    (userId : String)
    (moment : Moment)
    (notif : Record)
    (t : NotificationsTable) : NotificationsTable :=
  let row := toRow userId moment notif
  prune userId
    (t.upsert row (Row.withRead row.isRead)
      (Row.key_withRead row.isRead))

def markRead
    (userId id : String)
    (t : NotificationsTable) : NotificationsTable :=
  t.updateWhere
    (fun row => decide (row.userId = userId ∧ row.id = id))
    (Row.withRead true) (Row.key_withRead true)

def markAllRead
    (userId : String)
    (t : NotificationsTable) : NotificationsTable :=
  t.updateWhere (fun row => decide (row.userId = userId))
    (Row.withRead true) (Row.key_withRead true)

end NotificationsTable

------------------------------------------------------------
-- The Feed
------------------------------------------------------------

structure Feed where
  container : NotificationsContainer
  table : NotificationsTable

namespace Feed

inductive Event where
| add (notification : Notification) (moment : Moment)
| markRead (id : String)
| markAllRead
| delete (id : String)
| restart (revision : Nat)

def initial (table : NotificationsTable) : Feed where
  container := .fresh
  table := table

variable
  (time : String → Option Int)
  (userId : String)

def add
    (s : Feed)
    (n : Notification)
    (moment : Moment) : Feed where
  container := s.container.add n moment
  table :=
    NotificationsTable.save userId moment (recordOf n moment)
      s.table

def markRead (s : Feed) (id : String) : Feed :=
  match s.container.markRead id with
  | none => s
  | some container =>
      { container := container
        table := NotificationsTable.markRead userId id s.table }

def markAllRead (s : Feed) : Feed :=
  match s.container.markAllRead with
  | none => s
  | some container =>
      { container := container
        table := NotificationsTable.markAllRead userId s.table }

/- A notification is deleted in memory only. -/
def delete (s : Feed) (id : String) : Feed :=
  match s.container.delete id with
  | none => s
  | some container => { s with container := container }

/- What a new process has in memory. -/
def hydrated
    (s : Feed)
    (revision : Nat) : NotificationsContainer :=
  .hydrate time (NotificationsTable.list userId 100 s.table)
    revision

def step (s : Feed) : Event → Feed
| .add n moment => s.add userId n moment
| .markRead id => s.markRead userId id
| .markAllRead => s.markAllRead userId
| .delete id => s.delete id
| .restart revision =>
    { s with container := s.hydrated time userId revision }

end Feed

end Notifications

end ControlPlane
