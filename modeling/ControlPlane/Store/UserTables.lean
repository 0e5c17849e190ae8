import ControlPlane.Data.OwnedRows
import ControlPlane.Data.OrderedMap
import ControlPlane.Store.Adapters

/-
  The tables of one database that several users share.

  Every row of the six user tables has a user. The accounts,
  the invoices and the notifications have a primary key of
  their own, which all users share. The configuration, the
  subscription and the settings are keyed by the user. What
  a statement does is written out here, and whether the
  database refuses it is left open.

  Main declarations:
    * `UserRow`, `UserTables` and `Dialect`
    * `Dialect.effect` and `Dialect.database`
    * `SameRows`
    * `Spares` and `execute_sameRows`
-/

------------------------------------------------------------
-- Rows
------------------------------------------------------------

namespace ControlPlane

namespace Mutators

/-
  A row: its primary key where it has one of its own, its
  user, and the other columns in the order of the statement
  that writes them.
-/
structure UserRow where
  id : Option String
  userId : String
  columns : List Binding
deriving DecidableEq

namespace UserRow

/- The key of the one configuration of a user. -/
def configId (row : UserRow) : Option String :=
  some ("cfg_" ++ row.userId)

/- The key of a table with one row for each user. -/
def userKey (row : UserRow) : Option String :=
  some row.userId

def withColumns
    (row : UserRow)
    (columns : List Binding) : UserRow :=
  { row with columns := columns }

end UserRow

/- The public tables of reference data. -/
structure Catalogs where
  plans : List (List Binding)
  platforms : List (List Binding)
  strategies : List (List Binding)
  documentation : List (List Binding)

structure UserTables where
  accounts : Table UserRow String UserRow.id
  config : Table UserRow String UserRow.configId
  subscriptions : Table UserRow String UserRow.userKey
  invoices : Table UserRow String UserRow.id
  settings : Table UserRow String UserRow.userKey
  notifications : Table UserRow String UserRow.id
  metadata : OrderedMap String Nat
  catalogs : Catalogs

/-
  What is left open of the database: the text that a text
  column stores of a value, the text of a sealed password,
  and the statements that it refuses, as for a constraint.
-/
structure Dialect where
  affinity : JsValue → Option String
  cipherText : String → String
  refuses :
    Statement → List Binding → UserTables → Option JsError

------------------------------------------------------------
-- Columns
------------------------------------------------------------

/- How a column is updated when the key is there already. -/
inductive ColumnRule where
| excluded
| coalesce
| password
| stored

def Binding.isNull : Binding → Bool
| .value v => v.isNullish
| _ => false

/- A password of the statement is stored if it is not masked. -/
def Binding.isPassword : Binding → Bool
| .value (.text password) =>
    decide (password ≠ "" ∧ password ≠ protectedPassword) &&
      !includesText password "***" &&
      !includesText password "•••"
| .sealed _ => true
| _ => false

def ColumnRule.apply :
    ColumnRule → Binding → Binding → Binding
| .excluded, new, _ => new
| .coalesce, new, old => if new.isNull then old else new
| .password, new, old => if new.isPassword then new else old
| .stored, _, old => old

def accountRules : List ColumnRule :=
  [.excluded, .excluded, .coalesce, .excluded, .password,
    .coalesce, .excluded, .excluded, .excluded, .excluded,
    .coalesce, .excluded, .excluded, .coalesce, .coalesce,
    .excluded, .excluded, .excluded]

def notificationRules : List ColumnRule :=
  [.stored, .stored, .stored, .stored, .stored, .excluded,
    .stored, .excluded]

/- The columns of a row after an upsert. -/
def mergeColumns
    (rules : List ColumnRule)
    (new old : List Binding) : List Binding :=
  List.zipWith (fun rule pair => rule.apply pair.1 pair.2)
    rules (List.zip new old)

------------------------------------------------------------
-- Statements
------------------------------------------------------------

namespace Dialect

def storedText (d : Dialect) : Binding → Option String
| .value .null => none
| .value (.text text) => some text
| .value value => d.affinity value
| .json data => d.affinity data
| .sealed plain => some (d.cipherText plain)

/- The row has the id. Nothing equals a null id. -/
def hasId (d : Dialect) (id : Binding) (row : UserRow) : Bool :=
  decide (row.id ≠ none ∧ row.id = d.storedText id)

/- A row of the user with an id that is not in a list. -/
def notIn
    (user : String)
    (ids : List (Option String))
    (row : UserRow) : Bool :=
  decide
    (row.userId = user ∧ row.id ≠ none ∧
      none ∉ ids ∧ row.id ∉ ids)

def column (row : UserRow) (index : Nat) : Binding :=
  row.columns[index]?.getD (.value .null)

def setColumn
    (index : Nat)
    (value : Binding)
    (row : UserRow) : UserRow :=
  row.withColumns (row.columns.set index value)

/- The row of an account with its observed state reset. -/
def stopped (reason : Binding) (row : UserRow) : UserRow :=
  setColumn 15 reason (setColumn 14 (.text "STOPPED") row)

/- The ids of the newest notifications of a user. -/
def newest
    (d : Dialect)
    (user : String)
    (t : Table UserRow String UserRow.id) :
    List (Option String) :=
  (((t.rowsOf UserRow.userId user).mergeSort
    (fun a b =>
      decide ((d.storedText (column b 0)).getD "" ≤
        (d.storedText (column a 0)).getD ""))).take 100).map
    UserRow.id

/- What a statement that is not refused does to the tables. -/
def effect
    (d : Dialect)
    (statement : Statement)
    (bindings : List Binding)
    (t : UserTables) : UserTables :=
  match statement, bindings with
  | .upsertAccount, id :: .value (.text user) :: columns =>
      { t with
          accounts :=
            t.accounts.upsert
              ⟨d.storedText id, user, columns⟩
              (fun old =>
                old.withColumns
                  (mergeColumns accountRules columns
                    old.columns))
              (fun _ => rfl) }
  | .evictAccount, [id] =>
      { t with accounts := t.accounts.deleteWhere (d.hasId id) }
  | .deleteAccount, [.value (.text user), id] =>
      { t with
          accounts :=
            t.accounts.deleteWhere
              (fun row =>
                decide (row.userId = user) && d.hasId id row) }
  | .deleteAccountsNotIn, .value (.text user) :: ids =>
      { t with
          accounts :=
            t.accounts.deleteWhere
              (notIn user (ids.map d.storedText)) }
  | .resetObservedStates, [reason, .value (.text user)] =>
      { t with
          accounts :=
            t.accounts.updateWhere
              (fun row => decide (row.userId = user))
              (stopped reason) (fun _ => rfl) }
  | .saveConfig, _ :: .value (.text user) :: columns =>
      { t with
          config :=
            t.config.upsert ⟨none, user, columns⟩
              (fun old => old.withColumns columns)
              (fun _ => rfl) }
  | .saveSubscription, .value (.text user) :: columns =>
      { t with
          subscriptions :=
            t.subscriptions.upsert ⟨none, user, columns⟩
              (fun old => old.withColumns columns)
              (fun _ => rfl) }
  | .saveInvoice, id :: .value (.text user) :: columns =>
      { t with
          invoices :=
            t.invoices.upsert
              ⟨d.storedText id, user, columns⟩
              (fun old => old.withColumns columns)
              (fun _ => rfl) }
  | .saveSettings, .value (.text user) :: columns =>
      { t with
          settings :=
            t.settings.upsert ⟨none, user, columns⟩
              (fun old => old.withColumns columns)
              (fun _ => rfl) }
  | .saveNotification, id :: .value (.text user) :: columns =>
      { t with
          notifications :=
            t.notifications.upsert
              ⟨d.storedText id, user, columns⟩
              (fun old =>
                old.withColumns
                  (mergeColumns notificationRules columns
                    old.columns))
              (fun _ => rfl) }
  | .pruneNotifications, .value (.text user) :: _ =>
      { t with
          notifications :=
            t.notifications.deleteWhere
              (notIn user (d.newest user t.notifications)) }
  | .markNotificationRead, [.value (.text user), id] =>
      { t with
          notifications :=
            t.notifications.updateWhere
              (fun row =>
                decide (row.userId = user) && d.hasId id row)
              (setColumn 5 (flag true)) (fun _ => rfl) }
  | .markAllNotificationsRead, [.value (.text user)] =>
      { t with
          notifications :=
            t.notifications.updateWhere
              (fun row => decide (row.userId = user))
              (setColumn 5 (flag true)) (fun _ => rfl) }
  | .deleteUserAccounts, [.value (.text user)] =>
      { t with
          accounts :=
            t.accounts.deleteWhere
              (fun row => decide (row.userId = user)) }
  | .deleteUserConfig, [.value (.text user)] =>
      { t with
          config :=
            t.config.deleteWhere
              (fun row => decide (row.userId = user)) }
  | .deleteUserSubscription, [.value (.text user)] =>
      { t with
          subscriptions :=
            t.subscriptions.deleteWhere
              (fun row => decide (row.userId = user)) }
  | .deleteUserInvoices, [.value (.text user)] =>
      { t with
          invoices :=
            t.invoices.deleteWhere
              (fun row => decide (row.userId = user)) }
  | .deleteUserSettings, [.value (.text user)] =>
      { t with
          settings :=
            t.settings.deleteWhere
              (fun row => decide (row.userId = user)) }
  | .deleteUserNotifications, [.value (.text user)] =>
      { t with
          notifications :=
            t.notifications.deleteWhere
              (fun row => decide (row.userId = user)) }
  | _, _ => t

/- The value that a query reads from a key or a column. -/
def textOrNull : Option String → JsValue
| some text => .text text
| none => .null

def readColumn (d : Dialect) : Binding → JsValue
| .value value => value
| .json data => data
| .sealed plain => .text (d.cipherText plain)

/- The row of the user with a platform and a username. -/
def selectByUsername
    (d : Dialect)
    (user : String)
    (platform username : Binding)
    (t : UserTables) : Option UserRow :=
  (t.accounts.rowsOf UserRow.userId user).find?
    (fun row =>
      decide
        (d.storedText platform ≠ none ∧
          d.storedText username ≠ none ∧
          d.storedText (column row 1) =
            d.storedText platform ∧
          d.storedText (column row 3) =
            d.storedText username))

def select
    (d : Dialect)
    (statement : Statement)
    (bindings : List Binding)
    (t : UserTables) : JsValue :=
  match statement, bindings with
  | .selectAccountByUsername,
      [.value (.text user), platform, username] =>
      match d.selectByUsername user platform username t with
      | some row =>
          .object
            [("account_id", textOrNull row.id),
              ("account_password",
                d.readColumn (column row 4))]
      | none => .undefined
  | _, _ => .undefined

/- The database of the tables. -/
def database (d : Dialect) : Sqlite UserTables where
  revision := fun group t => .ok (t.metadata.get? group)
  get := fun statement bindings t =>
    .ok (d.select statement bindings t)
  execute := fun statement bindings t =>
    match d.refuses statement bindings t with
    | some error => .error error
    | none => .ok (d.effect statement bindings t)
  setRevision := fun group revision t =>
    { t with metadata := t.metadata.set group revision }

end Dialect

------------------------------------------------------------
-- The Rows Of Another User
------------------------------------------------------------

/- The rows of a user and the catalogs are the same in both. -/
structure SameRows (v : String) (t t' : UserTables) : Prop where
  accounts :
    t'.accounts.rowsOf UserRow.userId v =
      t.accounts.rowsOf UserRow.userId v
  config :
    t'.config.rowsOf UserRow.userId v =
      t.config.rowsOf UserRow.userId v
  subscriptions :
    t'.subscriptions.rowsOf UserRow.userId v =
      t.subscriptions.rowsOf UserRow.userId v
  invoices :
    t'.invoices.rowsOf UserRow.userId v =
      t.invoices.rowsOf UserRow.userId v
  settings :
    t'.settings.rowsOf UserRow.userId v =
      t.settings.rowsOf UserRow.userId v
  notifications :
    t'.notifications.rowsOf UserRow.userId v =
      t.notifications.rowsOf UserRow.userId v
  catalogs : t'.catalogs = t.catalogs

namespace SameRows

variable {v : String} {t t' t'' : UserTables}

theorem refl
    (v : String)
    (t : UserTables) : SameRows v t t :=
  ⟨rfl, rfl, rfl, rfl, rfl, rfl, rfl⟩

theorem trans
    (hFirst : SameRows v t t')
    (hSecond : SameRows v t' t'') : SameRows v t t'' where
  accounts := hSecond.accounts.trans hFirst.accounts
  config := hSecond.config.trans hFirst.config
  subscriptions :=
    hSecond.subscriptions.trans hFirst.subscriptions
  invoices := hSecond.invoices.trans hFirst.invoices
  settings := hSecond.settings.trans hFirst.settings
  notifications :=
    hSecond.notifications.trans hFirst.notifications
  catalogs := hSecond.catalogs.trans hFirst.catalogs

end SameRows

namespace Dialect

/-
  The statement names another user than `v`, and an id that
  it finds a row by alone is the id of no row of `v`.
-/
def Spares
    (d : Dialect)
    (v : String)
    (statement : Statement)
    (bindings : List Binding)
    (t : UserTables) : Prop :=
  match statement, bindings with
  | .upsertAccount, id :: .value (.text user) :: _ =>
      user ≠ v ∧
        t.accounts.FreeOf UserRow.userId v (d.storedText id)
  | .evictAccount, [id] =>
      t.accounts.FreeOf UserRow.userId v (d.storedText id)
  | .saveInvoice, id :: .value (.text user) :: _ =>
      user ≠ v ∧
        t.invoices.FreeOf UserRow.userId v (d.storedText id)
  | .saveNotification, id :: .value (.text user) :: _ =>
      user ≠ v ∧
        t.notifications.FreeOf UserRow.userId v
          (d.storedText id)
  | .saveConfig, _ :: .value (.text user) :: _ => user ≠ v
  | .resetObservedStates, [_, .value (.text user)] => user ≠ v
  | _, .value (.text user) :: _ => user ≠ v
  | _, _ => True

theorem hasId_of_freeOf
    {d : Dialect}
    {v : String}
    {id : Binding}
    {t : Table UserRow String UserRow.id}
    (hFree : t.FreeOf UserRow.userId v (d.storedText id)) :
    ∀ row ∈ t.rowsOf UserRow.userId v,
      d.hasId id row = false := by
  intro row hRow
  refine decide_eq_false ?_
  rintro ⟨hNonNull, hSame⟩
  rcases hFree row hRow with hNull | hNe
  · exact hNonNull (hSame.trans hNull)
  · exact hNe hSame

/- What a test for another user says of the rows of `v`. -/
theorem spared_of_ne
    {κ : Type}
    {key : UserRow → Option κ}
    {t : Table UserRow κ key}
    {user v : String}
    {p : UserRow → Bool}
    (hOther : user ≠ v)
    (hScoped : ∀ row, p row = true → row.userId = user) :
    ∀ row ∈ t.rowsOf UserRow.userId v, p row = false := by
  intro row hRow
  rw [Bool.eq_false_iff]
  intro hTrue
  exact hOther ((hScoped row hTrue).symm.trans
    (Table.mem_rowsOf_iff.mp hRow).2)

/- A row that is keyed by its user is free of the others. -/
theorem freeOf_of_ne
    {κ : Type}
    {key : UserRow → Option κ}
    {t : Table UserRow κ key}
    {user v : String}
    {k : Option κ}
    (hOther : user ≠ v)
    (hKey : ∀ row, key row = k → row.userId = user) :
    t.FreeOf UserRow.userId v k := by
  intro row hRow
  refine .inr ?_
  intro hSame
  exact hOther ((hKey row hSame).symm.trans
    (Table.mem_rowsOf_iff.mp hRow).2)

theorem spared_by_user
    {κ : Type}
    {key : UserRow → Option κ}
    {t : Table UserRow κ key}
    {user v : String}
    (hOther : user ≠ v) :
    ∀ row ∈ t.rowsOf UserRow.userId v,
      decide (row.userId = user) = false :=
  spared_of_ne hOther (fun _ => of_decide_eq_true)

theorem spared_by_id
    {d : Dialect}
    {id : Binding}
    {t : Table UserRow String UserRow.id}
    {user v : String}
    (hOther : user ≠ v) :
    ∀ row ∈ t.rowsOf UserRow.userId v,
      (decide (row.userId = user) && d.hasId id row) = false := by
  refine spared_of_ne hOther ?_
  intro row hTrue
  rw [Bool.and_eq_true] at hTrue
  exact of_decide_eq_true hTrue.1

theorem spared_by_list
    {ids : List (Option String)}
    {t : Table UserRow String UserRow.id}
    {user v : String}
    (hOther : user ≠ v) :
    ∀ row ∈ t.rowsOf UserRow.userId v,
      notIn user ids row = false :=
  spared_of_ne hOther
    (fun _ hTrue => (of_decide_eq_true hTrue).1)

theorem configId_injective
    {user : String}
    (row : UserRow)
    (hSame : row.configId = some ("cfg_" ++ user)) :
    row.userId = user := by
  have hText :=
    congrArg String.toList (Option.some.inj hSame)
  rw [String.toList_append, String.toList_append] at hText
  exact String.toList_inj.mp (List.append_cancel_left hText)

theorem setColumn_id
    (index : Nat)
    (value : Binding)
    (row : UserRow) :
    (setColumn index value row).id = row.id := rfl

theorem stopped_id
    (reason : Binding)
    (row : UserRow) :
    (stopped reason row).id = row.id := rfl

theorem effect_sameRows
    {d : Dialect}
    {v : String}
    {statement : Statement}
    {bindings : List Binding}
    {t : UserTables}
    (hSpares : d.Spares v statement bindings t) :
    SameRows v t (d.effect statement bindings t) := by
  have hSame := SameRows.refl v t
  unfold effect
  split
  · exact { hSame with
      accounts :=
        Table.rowsOf_upsert _ (fun _ => rfl) hSpares.1
          hSpares.2 }
  · exact { hSame with
      accounts :=
        Table.rowsOf_deleteWhere (hasId_of_freeOf hSpares) }
  · exact { hSame with
      accounts :=
        Table.rowsOf_deleteWhere (spared_by_id hSpares) }
  · exact { hSame with
      accounts :=
        Table.rowsOf_deleteWhere (spared_by_list hSpares) }
  · exact { hSame with
      accounts :=
        Table.rowsOf_updateWhere (stopped_id _) (fun _ => rfl)
          (spared_by_user hSpares) }
  · exact { hSame with
      config :=
        Table.rowsOf_upsert _ (fun _ => rfl) hSpares
          (freeOf_of_ne hSpares configId_injective) }
  · exact { hSame with
      subscriptions :=
        Table.rowsOf_upsert _ (fun _ => rfl) hSpares
          (freeOf_of_ne hSpares
            (fun _ hKey => Option.some.inj hKey)) }
  · exact { hSame with
      invoices :=
        Table.rowsOf_upsert _ (fun _ => rfl) hSpares.1
          hSpares.2 }
  · exact { hSame with
      settings :=
        Table.rowsOf_upsert _ (fun _ => rfl) hSpares
          (freeOf_of_ne hSpares
            (fun _ hKey => Option.some.inj hKey)) }
  · exact { hSame with
      notifications :=
        Table.rowsOf_upsert _ (fun _ => rfl) hSpares.1
          hSpares.2 }
  · exact { hSame with
      notifications :=
        Table.rowsOf_deleteWhere (spared_by_list hSpares) }
  · exact { hSame with
      notifications :=
        Table.rowsOf_updateWhere (setColumn_id _ _)
          (fun _ => rfl)
          (spared_by_id hSpares) }
  · exact { hSame with
      notifications :=
        Table.rowsOf_updateWhere (setColumn_id _ _)
          (fun _ => rfl)
          (spared_by_user hSpares) }
  · exact { hSame with
      accounts :=
        Table.rowsOf_deleteWhere (spared_by_user hSpares) }
  · exact { hSame with
      config :=
        Table.rowsOf_deleteWhere (spared_by_user hSpares) }
  · exact { hSame with
      subscriptions :=
        Table.rowsOf_deleteWhere (spared_by_user hSpares) }
  · exact { hSame with
      invoices :=
        Table.rowsOf_deleteWhere (spared_by_user hSpares) }
  · exact { hSame with
      settings :=
        Table.rowsOf_deleteWhere (spared_by_user hSpares) }
  · exact { hSame with
      notifications :=
        Table.rowsOf_deleteWhere (spared_by_user hSpares) }
  · exact hSame

theorem execute_eq_ok
    {d : Dialect}
    {statement : Statement}
    {bindings : List Binding}
    {t t' : UserTables}
    (hExecute :
      d.database.execute statement bindings t = .ok t') :
    t' = d.effect statement bindings t := by
  unfold database at hExecute
  dsimp only at hExecute
  split at hExecute
  · cases hExecute
  · exact (Except.ok.inj hExecute).symm

theorem execute_sameRows
    {d : Dialect}
    {v : String}
    {statement : Statement}
    {bindings : List Binding}
    {t t' : UserTables}
    (hExecute :
      d.database.execute statement bindings t = .ok t')
    (hSpares : d.Spares v statement bindings t) :
    SameRows v t t' := by
  rw [execute_eq_ok hExecute]
  exact effect_sameRows hSpares

end Dialect

end Mutators

end ControlPlane
