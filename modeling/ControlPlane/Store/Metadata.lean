import Mathlib.Logic.Function.Basic

/-
  Metadata of the consistency groups.

  A row holds the revision of a group and the time of its
  last validation. Storing a row writes both: what the caller
  leaves out is reset to its default, the revision to 1 and
  the time to the present.

  Main declarations:
    * `ConsistencyGroup`, `StoreError` and `Metadata`
    * `Metadata.set` and `Metadata.revision`
-/

------------------------------------------------------------
-- Rows
------------------------------------------------------------

namespace ControlPlane

inductive ConsistencyGroup where
| accounts
| globalConfig
| billing
| settings
deriving DecidableEq, Repr

/- Times are in milliseconds. -/
structure MetadataRow where
  revision : Nat
  lastValidatedAt : Int
deriving DecidableEq, Repr

/- The ways in which the store refuses a mutation. -/
inductive StoreError where
| revisionConflict
    (group : ConsistencyGroup)
    (expectedRevision currentRevision : Nat)
| alreadyExists (platform accountUsername : String)
| noPlatform
| refused
deriving DecidableEq, Repr

abbrev Metadata := ConsistencyGroup → Option MetadataRow

namespace Metadata

def empty : Metadata :=
  fun _ => none

/- The revision that is stored, or the first one. -/
def revision
    (metadata : Metadata)
    (group : ConsistencyGroup) : Nat :=
  match metadata group with
  | some row => row.revision
  | none => 1

def lastValidatedAt
    (metadata : Metadata)
    (group : ConsistencyGroup) : Option Int :=
  (metadata group).map MetadataRow.lastValidatedAt

/- Store a row, with defaults for what is left out. -/
def set
    (metadata : Metadata)
    (group : ConsistencyGroup)
    (now : Int)
    (revision : Option Nat)
    (lastValidatedAt : Option Int) : Metadata :=
  Function.update metadata group
    (some
      { revision := revision.getD 1
        lastValidatedAt := lastValidatedAt.getD now })

/- The revision that a mutation expects is another one. -/
def conflicts
    (metadata : Metadata)
    (group : ConsistencyGroup)
    (expectedRevision : Option Nat) : Bool :=
  expectedRevision.any
    (fun expected => expected ≠ metadata.revision group)

@[simp] theorem revision_set
    (metadata : Metadata)
    (group : ConsistencyGroup)
    (now : Int)
    (revision : Option Nat)
    (lastValidatedAt : Option Int) :
    (metadata.set group now revision
      lastValidatedAt).revision group = revision.getD 1 := by
  simp [Metadata.revision, set]

@[simp] theorem lastValidatedAt_set
    (metadata : Metadata)
    (group : ConsistencyGroup)
    (now : Int)
    (revision : Option Nat)
    (lastValidatedAt : Option Int) :
    (metadata.set group now revision
        lastValidatedAt).lastValidatedAt group =
      some (lastValidatedAt.getD now) := by
  simp [Metadata.lastValidatedAt, set]

/- The rows of the other groups stay. -/
theorem set_of_ne
    {group other : ConsistencyGroup}
    (hOther : other ≠ group)
    (metadata : Metadata)
    (now : Int)
    (revision : Option Nat)
    (lastValidatedAt : Option Int) :
    metadata.set group now revision lastValidatedAt other =
      metadata other := by
  simp [set, hOther]

theorem revision_set_of_ne
    {group other : ConsistencyGroup}
    (hOther : other ≠ group)
    (metadata : Metadata)
    (now : Int)
    (revision : Option Nat)
    (lastValidatedAt : Option Int) :
    (metadata.set group now revision
        lastValidatedAt).revision other =
      metadata.revision other := by
  unfold Metadata.revision
  rw [set_of_ne hOther]

theorem lastValidatedAt_set_of_ne
    {group other : ConsistencyGroup}
    (hOther : other ≠ group)
    (metadata : Metadata)
    (now : Int)
    (revision : Option Nat)
    (validated : Option Int) :
    (metadata.set group now revision
        validated).lastValidatedAt other =
      metadata.lastValidatedAt other := by
  unfold Metadata.lastValidatedAt
  rw [set_of_ne hOther]

end Metadata

end ControlPlane
