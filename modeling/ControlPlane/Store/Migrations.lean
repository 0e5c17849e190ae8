import Mathlib.Data.List.Sort
import ControlPlane.Data.Run

/-
  The migrations of the database schema.

  Every pending migration runs in a transaction of its own,
  which also writes its version to the database. What is
  pending is read from the database again at every call, so
  a call that ends early is continued by the next one.

  Main declarations:
    * `Migration` and `SchemaMigrator.migrate`
    * `SchemaMigrator.step`
    * `SchemaMigrator.Resumable`
    * `SchemaMigrator.migrations_are_exact_and_resumable`
-/

------------------------------------------------------------
-- Migrations
------------------------------------------------------------

namespace ControlPlane

structure Database (δ : Type) where
  data : δ
  userVersion : Int

structure Migration (δ : Type) where
  version : Int
  up : Database δ → Except String (Database δ)

namespace SchemaMigrator

variable {δ : Type}

section

variable
  (stored : Int → Int)
  (migrations : List (Migration δ))

/-
  The engine runs a function in a transaction. The database
  is left as it was where the function throws.
-/
def transaction
    (body : Database δ → Except String (Database δ))
    (database : Database δ) :
    Database δ × Except String Unit :=
  match body database with
  | .ok next => (next, .ok ())
  | .error message => (database, .error message)

/- One migration with its version, as one transaction. -/
def apply
    (migration : Migration δ)
    (database : Database δ) : Except String (Database δ) :=
  (migration.up database).map (fun next =>
    { next with userVersion := stored migration.version })

/- The constructor sorts the migrations by version. -/
def sorted : List (Migration δ) :=
  migrations.mergeSort
    (fun a b => decide (a.version ≤ b.version))

def pending
    (currentVersion : Int) : List (Migration δ) :=
  (sorted migrations).filter
    (fun m => decide (currentVersion < m.version))

/- The loop of `migrate` over the pending migrations. -/
def applyPending
    (currentVersion : Int) :
    List (Migration δ) → Database δ →
      Database δ × Except String Int
| [], database => (database, .ok currentVersion)
| migration :: rest, database =>
    match transaction (apply stored migration) database with
    | (next, .ok ()) =>
        applyPending migration.version rest next
    | (next, .error message) => (next, .error message)

def migrate
    (database : Database δ) :
    Database δ × Except String Int :=
  applyPending stored database.userVersion
    (pending migrations database.userVersion) database

/- Migrations that all succeed, one after another. -/
def applyAll :
    List (Migration δ) → Database δ →
      Except String (Database δ)
| [], database => .ok database
| migration :: rest, database =>
    (apply stored migration database).bind (applyAll rest)

------------------------------------------------------------
-- Calls That Are Interrupted
------------------------------------------------------------

/- Where a process is: in a call of `migrate` or after it. -/
inductive Status (δ : Type) where
| idle
| running (currentVersion : Int) (rest : List (Migration δ))
| returned (version : Int)
| threw (message : String)

/- `applied` records the committed transactions in order. -/
structure State (δ : Type) where
  database : Database δ
  status : Status δ
  applied : List (Migration δ)

def initial (database : Database δ) : State δ where
  database := database
  status := .idle
  applied := []

/-
  `proceed` runs one transaction of the loop, or returns at
  its end. `fails` is a transaction that throws for a reason
  of its own, and after a crash the process starts again.
-/
inductive Event where
| migrate
| proceed
| fails (message : String)
| crash

def begun (s : State δ) : State δ :=
  match s.status with
  | .running _ _ => s
  | _ =>
      { s with
          status := .running s.database.userVersion
            (pending migrations s.database.userVersion) }

def proceeded (s : State δ) : State δ :=
  match s.status with
  | .running currentVersion [] =>
      { s with status := .returned currentVersion }
  | .running _ (migration :: rest) =>
      match transaction (apply stored migration) s.database with
      | (next, .ok ()) =>
          { database := next
            status := .running migration.version rest
            applied := s.applied ++ [migration] }
      | (next, .error message) =>
          { s with
              database := next
              status := .threw message }
  | _ => s

def failed
    (message : String)
    (s : State δ) : State δ :=
  match s.status with
  | .running _ (_ :: _) =>
      { s with
          database :=
            (transaction (fun _ => .error message)
              s.database).1
          status := .threw message }
  | _ => s

def step (s : State δ) : Event → State δ
| .migrate => begun migrations s
| .proceed => proceeded stored s
| .fails message => failed message s
| .crash => { s with status := .idle }

end

------------------------------------------------------------
-- Sorted Migrations
------------------------------------------------------------

/- The migrations of the versions after one up to another. -/
def between
    (migrations : List (Migration δ))
    (first last : Int) : List (Migration δ) :=
  (sorted migrations).filter
    (fun m => decide (first < m.version ∧ m.version ≤ last))

def Increasing (list : List (Migration δ)) : Prop :=
  list.Pairwise (fun a b => a.version < b.version)

theorem mem_between
    {migrations : List (Migration δ)}
    {first last : Int}
    {migration : Migration δ} :
    migration ∈ between migrations first last ↔
      migration ∈ migrations ∧
        first < migration.version ∧
          migration.version ≤ last := by
  simp [between, sorted, List.mem_filter]

/- What is to come after some versions, cut at one of them. -/
theorem pending_eq_append
    {migrations : List (Migration δ)}
    {first last : Int}
    (hIncreasing : Increasing (sorted migrations))
    (hFirst : first ≤ last) :
    pending migrations first =
      between migrations first last ++
        pending migrations last := by
  unfold pending between
  generalize sorted migrations = list at hIncreasing ⊢
  induction list with
  | nil => rfl
  | cons head tail ih =>
      have hTail := List.pairwise_cons.mp hIncreasing
      by_cases hBefore : head.version ≤ last
      · by_cases hAfter : first < head.version
        · rw [List.filter_cons_of_pos (by simpa using hAfter),
            List.filter_cons_of_pos
              (by simpa using ⟨hAfter, hBefore⟩),
            List.filter_cons_of_neg (by simpa using hBefore),
            ih hTail.2]
          rfl
        · rw [List.filter_cons_of_neg (by simpa using hAfter),
            List.filter_cons_of_neg
              (by simp [hAfter]),
            List.filter_cons_of_neg (by simpa using hBefore),
            ih hTail.2]
      · have hNone :
            (head :: tail).filter (fun m =>
              decide (first < m.version ∧
                m.version ≤ last)) = [] := by
          rw [List.filter_eq_nil_iff]
          intro m hMem
          have hLater : head.version ≤ m.version := by
            rcases List.mem_cons.mp hMem with rfl | hMem
            · exact le_refl _
            · exact le_of_lt (hTail.1 m hMem)
          simp only [decide_eq_true_eq]
          omega
        rw [hNone, List.nil_append]
        refine List.filter_congr ?_
        intro m hMem
        have hLater : head.version ≤ m.version := by
          rcases List.mem_cons.mp hMem with rfl | hMem
          · exact le_refl _
          · exact le_of_lt (hTail.1 m hMem)
        rw [decide_eq_decide]
        omega

------------------------------------------------------------
-- Applied Migrations
------------------------------------------------------------

variable {stored : Int → Int}

theorem apply_version
    {migration : Migration δ}
    {database next : Database δ}
    (hApply :
      apply stored migration database = .ok next) :
    next.userVersion = stored migration.version := by
  unfold apply at hApply
  cases hUp : migration.up database with
  | error message =>
      rw [hUp] at hApply
      nomatch hApply
  | ok result =>
      rw [hUp] at hApply
      cases hApply
      rfl

theorem transaction_eq_ok
    {body : Database δ → Except String (Database δ)}
    {database next : Database δ}
    (hBody : body database = .ok next) :
    transaction body database = (next, .ok ()) := by
  unfold transaction
  rw [hBody]

theorem transaction_eq_error
    {body : Database δ → Except String (Database δ)}
    {database : Database δ}
    {message : String}
    (hBody : body database = .error message) :
    transaction body database =
      (database, .error message) := by
  unfold transaction
  rw [hBody]

/- The loop goes on from migrations that are in. -/
theorem applyPending_append
    {first : List (Migration δ)}
    (hStored :
      ∀ m ∈ first, stored m.version = m.version)
    {start database : Database δ}
    (hFirst : applyAll stored first start = .ok database)
    (second : List (Migration δ)) :
    applyPending stored start.userVersion
        (first ++ second) start =
      applyPending stored database.userVersion
        second database := by
  induction first generalizing start with
  | nil =>
      cases hFirst
      rfl
  | cons migration first ih =>
      rw [applyAll] at hFirst
      cases hApply : apply stored migration start with
      | error message =>
          rw [hApply] at hFirst
          nomatch hFirst
      | ok next =>
          rw [hApply] at hFirst
          have hVersion :
              next.userVersion = migration.version := by
            rw [apply_version hApply]
            exact hStored migration List.mem_cons_self
          rw [List.cons_append, applyPending,
            transaction_eq_ok hApply]
          dsimp only
          rw [← hVersion]
          exact ih
            (fun m hMem =>
              hStored m (List.mem_cons_of_mem _ hMem))
            hFirst

------------------------------------------------------------
-- One Step
------------------------------------------------------------

/-
  What is in are the migrations after the version of the
  start up to that of the database, and a call that is under
  way has the others before it.
-/
structure Resumable
    (stored : Int → Int)
    (migrations : List (Migration δ))
    (start : Database δ)
    (s : State δ) : Prop where
  later : start.userVersion ≤ s.database.userVersion
  applied :
    s.applied =
      between migrations start.userVersion
        s.database.userVersion
  installed :
    applyAll stored s.applied start = .ok s.database
  running :
    ∀ current rest, s.status = .running current rest →
      current = s.database.userVersion ∧
        rest = pending migrations current

/- A call from any such state ends as one from the start. -/
theorem Resumable.migrate_eq
    {migrations : List (Migration δ)}
    (hIncreasing : Increasing (sorted migrations))
    (hStored :
      ∀ m ∈ migrations, stored m.version = m.version)
    {start : Database δ}
    {s : State δ}
    (hResumable : Resumable stored migrations start s) :
    migrate stored migrations s.database =
      migrate stored migrations start := by
  unfold migrate
  rw [pending_eq_append hIncreasing hResumable.later,
    ← hResumable.applied]
  refine (applyPending_append ?_ hResumable.installed _).symm
  intro m hMem
  rw [hResumable.applied, mem_between] at hMem
  exact hStored m hMem.1

------------------------------------------------------------
-- Calls That Reach Their End
------------------------------------------------------------

/- How a call leaves its process. -/
def Status.ofResult : Except String Int → Status δ
| .ok version => .returned version
| .error message => .threw message

theorem run_proceed_of_idle
    {migrations : List (Migration δ)}
    {s : State δ}
    (hIdle :
      ∀ current rest, s.status ≠ .running current rest)
    (n : Nat) :
    run (step stored migrations) s
        (List.replicate n .proceed) = s := by
  induction n with
  | zero => rfl
  | succ n ih =>
      have hStep : step stored migrations s .proceed = s := by
        change proceeded stored s = s
        unfold proceeded
        split
        · rename_i hStatus
          exact absurd hStatus (hIdle _ _)
        · rename_i hStatus
          exact absurd hStatus (hIdle _ _)
        · rfl
      rw [List.replicate_succ, run_cons, hStep, ih]

/- A call that is not interrupted does what its loop does. -/
theorem run_proceed
    {migrations : List (Migration δ)}
    {s : State δ}
    {current : Int}
    {rest : List (Migration δ)}
    (hStatus : s.status = .running current rest)
    {n : Nat}
    (hLong : rest.length < n) :
    (run (step stored migrations) s
        (List.replicate n .proceed)).database =
      (applyPending stored current rest s.database).1 ∧
    (run (step stored migrations) s
        (List.replicate n .proceed)).status =
      .ofResult
        (applyPending stored current rest s.database).2 := by
  induction rest generalizing s current n with
  | nil =>
      cases n with
      | zero => exact absurd hLong (Nat.not_lt_zero _)
      | succ n =>
          have hStep :
              step stored migrations s .proceed =
                { s with status := .returned current } := by
            change proceeded stored s = _
            unfold proceeded
            rw [hStatus]
          rw [List.replicate_succ, run_cons, hStep,
            run_proceed_of_idle (by simp)]
          exact ⟨rfl, rfl⟩
  | cons migration rest ih =>
      cases n with
      | zero => exact absurd hLong (Nat.not_lt_zero _)
      | succ n =>
          rw [List.replicate_succ, run_cons, applyPending]
          cases hApply : apply stored migration s.database with
          | error message =>
              have hStep :
                  step stored migrations s .proceed =
                    { s with status := .threw message } := by
                change proceeded stored s = _
                unfold proceeded
                rw [hStatus]
                dsimp only
                rw [transaction_eq_error hApply]
              rw [hStep,
                run_proceed_of_idle (by simp),
                transaction_eq_error hApply]
              exact ⟨rfl, rfl⟩
          | ok next =>
              have hStep :
                  step stored migrations s .proceed =
                    { database := next
                      status :=
                        .running migration.version rest
                      applied := s.applied ++ [migration] } := by
                change proceeded stored s = _
                unfold proceeded
                rw [hStatus]
                dsimp only
                rw [transaction_eq_ok hApply]
              rw [hStep, transaction_eq_ok hApply]
              exact ih rfl (Nat.lt_of_succ_lt_succ hLong)

theorem Resumable.begun_status
    {migrations : List (Migration δ)}
    {start : Database δ}
    {s : State δ}
    (hResumable : Resumable stored migrations start s) :
    (begun migrations s).status =
        .running s.database.userVersion
          (pending migrations s.database.userVersion) ∧
      (begun migrations s).database = s.database := by
  unfold begun
  cases hStatus : s.status with
  | running current rest =>
      rcases hResumable.running _ _ hStatus with ⟨rfl, rfl⟩
      exact ⟨hStatus, rfl⟩
  | idle | returned | threw => exact ⟨rfl, rfl⟩

/- A call from any such state, to its end. -/
theorem Resumable.resumed
    {migrations : List (Migration δ)}
    (hIncreasing : Increasing (sorted migrations))
    (hStored :
      ∀ m ∈ migrations, stored m.version = m.version)
    {start : Database δ}
    {s : State δ}
    (hResumable : Resumable stored migrations start s)
    {n : Nat}
    (hLong : migrations.length < n) :
    (run (step stored migrations) s
        (.migrate :: List.replicate n .proceed)).database =
      (migrate stored migrations start).1 ∧
    (run (step stored migrations) s
        (.migrate :: List.replicate n .proceed)).status =
      .ofResult (migrate stored migrations start).2 := by
  have hShort :
      (pending migrations s.database.userVersion).length < n := by
    refine lt_of_le_of_lt (List.length_filter_le _ _) ?_
    rwa [sorted, List.length_mergeSort]
  rcases hResumable.begun_status with ⟨hStatus, hDatabase⟩
  rw [← hResumable.migrate_eq hIncreasing hStored, run_cons]
  have hEnd :
      (run (step stored migrations) (begun migrations s)
          (List.replicate n .proceed)).database =
        (applyPending stored s.database.userVersion
          (pending migrations s.database.userVersion)
          (begun migrations s).database).1 ∧
      (run (step stored migrations) (begun migrations s)
          (List.replicate n .proceed)).status =
        .ofResult
          (applyPending stored s.database.userVersion
            (pending migrations s.database.userVersion)
            (begun migrations s).database).2 :=
    run_proceed hStatus hShort
  rw [hDatabase] at hEnd
  exact hEnd

end SchemaMigrator

end ControlPlane
