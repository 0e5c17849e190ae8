import Mathlib.Data.List.Basic

/-
  The automation workspace: the accounts of the store and
  which of them are staged for automation or have a live
  browser.

  The account list is read one page at a time, and its first
  page holds fifty accounts.

  Main declarations:
    * `Workspace` and its operations
    * `Workspace.getSnapshot`
    * `Workspace.protectedAccounts`
-/

------------------------------------------------------------
-- State
------------------------------------------------------------

namespace ControlPlane

/- The fields of an account that the workspace reads. -/
structure WorkspaceAccount where
  id : String
  accountUsername : String
  suspended : Bool
deriving DecidableEq, Repr

structure Workspace where
  accounts : List WorkspaceAccount
  stagedAccountIds : List String
  activeAccountIds : List String
  hasInitializedStaging : Bool
deriving DecidableEq, Repr

/- Add to an insertion-ordered set of ids. -/
def addId
    (ids : List String)
    (id : String) : List String :=
  if id ∈ ids then ids else ids ++ [id]

/- Remove from a set of ids. -/
def removeId
    (ids : List String)
    (id : String) : List String :=
  ids.filter (fun other => other ≠ id)

namespace Workspace

/- The workspace of a new process over a set of accounts. -/
def fresh (accounts : List WorkspaceAccount) :
    Workspace where
  accounts := accounts
  stagedAccountIds := []
  activeAccountIds := []
  hasInitializedStaging := false

------------------------------------------------------------
-- Operations
------------------------------------------------------------

def stageAccount
    (w : Workspace)
    (accountId : String) : Workspace :=
  { w with
      hasInitializedStaging := true
      stagedAccountIds := addId w.stagedAccountIds accountId }

def unstageAccount
    (w : Workspace)
    (accountId : String) : Workspace :=
  { w with
      hasInitializedStaging := true
      stagedAccountIds :=
        removeId w.stagedAccountIds accountId
      activeAccountIds :=
        removeId w.activeAccountIds accountId }

def activateAccount
    (w : Workspace)
    (accountId : String) : Workspace :=
  { w with
      hasInitializedStaging := true
      stagedAccountIds := addId w.stagedAccountIds accountId
      activeAccountIds :=
        addId w.activeAccountIds accountId }

/- The Execution Plane reports a stopped browser. -/
def browserStopped
    (w : Workspace)
    (accountId : String) : Workspace :=
  { w with
      activeAccountIds :=
        removeId w.activeAccountIds accountId }

/- Browsers start for every staged account. -/
def startAutomation (w : Workspace) : Workspace :=
  { w with
      activeAccountIds :=
        w.stagedAccountIds.foldl addId w.activeAccountIds }

def stopAutomation (w : Workspace) : Workspace :=
  { w with activeAccountIds := [] }

/- The accounts of the store that are not suspended. -/
def nonSuspended
    (accounts : List WorkspaceAccount) :
    List WorkspaceAccount :=
  accounts.filter (fun account => !account.suspended)

/- Stage accounts unless staging was touched before. -/
def seed
    (w : Workspace)
    (accounts : List WorkspaceAccount) : Workspace :=
  if w.hasInitializedStaging = false ∧
      w.stagedAccountIds = [] then
    { w with
        stagedAccountIds :=
          (accounts.map WorkspaceAccount.id).foldl addId []
        hasInitializedStaging := true }
  else
    w

/- The staging a start command asks for. -/
def stageForStart
    (w : Workspace)
    (accountIds : List String) : Workspace :=
  let selected :=
    if accountIds = [] then w
    else
      { w with
          stagedAccountIds := accountIds.foldl addId []
          hasInitializedStaging := true }
  selected.seed ((nonSuspended selected.accounts).take 2)

/- The first page of the account list. -/
def viewportAccounts
    (w : Workspace) : List WorkspaceAccount :=
  w.accounts.take 50

/- The workspace seeded by a snapshot. -/
def seeded
    (w : Workspace)
    (maxCapacity : Nat) : Workspace :=
  if nonSuspended w.viewportAccounts = [] then
    w
  else
    w.seed
      ((nonSuspended w.viewportAccounts).take maxCapacity)

/-
  The accounts of a snapshot, which seeds the staging of a
  workspace that was never touched.
-/
def getSnapshot
    (w : Workspace)
    (maxCapacity : Nat) : Workspace × List String :=
  (w.seeded maxCapacity,
    ((nonSuspended w.viewportAccounts).filter
      (fun account =>
        account.id ∈
          (w.seeded maxCapacity).stagedAccountIds)).map
        WorkspaceAccount.id)

/- Every staged account that is not suspended. -/
def protectedAccounts
    (w : Workspace) : List WorkspaceAccount :=
  (nonSuspended w.accounts).filter
    (fun account => account.id ∈ w.stagedAccountIds)

end Workspace

end ControlPlane
