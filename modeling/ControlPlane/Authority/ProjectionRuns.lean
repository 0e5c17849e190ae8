import ControlPlane.Authority.Sequential
import ControlPlane.Data.Run

/-
  The fields of the row that memory does not hold.

  The row has a generation, an epoch, a signature, a machine
  and a grace token. A boot projects some of its fields into
  memory, and every transition and facade write hands the
  projection to a commit that writes the row as a whole.
  Reconciliation starts from the row instead.

  Main declarations:
    * `Projection`, `PersistedRow` and `Written`
    * `ProjectionRun.step`
    * `ProjectionRun.Preserves` and `ProjectionRun.Carries`
    * `ProjectionRun.unset_kept_along_iff`
-/

------------------------------------------------------------
-- Records
------------------------------------------------------------

namespace ControlPlane

/- The state in memory, with the machine. -/
structure Projection extends StateData where
  machine : Option String
deriving DecidableEq, Repr

/-
  The row, as it is read back. A generation or an epoch that
  is missing is 0, which is how all readers take it.
-/
structure PersistedRow extends SecurityStateRow where
  machine : Option String
  session_generation : Nat
  server_epoch : Nat
  grace_token_signature : Option String
  signature_ne : grace_token_signature ≠ some ""
deriving DecidableEq, Repr

/- The column has the generation of the encrypted state. -/
def PersistedRow.backend_generation
    (row : PersistedRow) : Nat :=
  row.session_generation

/- What a caller hands to a commit. -/
structure Written extends NextStateData where
  machine : Option String
  session_generation : Nat
  server_epoch : Nat
  grace_token_signature : Option String
deriving DecidableEq, Repr

/- The projection has none of the columns. -/
def Projection.toWritten
    (d : Projection) : Written where
  toNextStateData := d.toStateData.toNext
  machine := d.machine
  session_generation := 0
  server_epoch := 0
  grace_token_signature := none

def PersistedRow.toWritten
    (row : PersistedRow) : Written where
  toNextStateData := row.toSecurityStateRow.toNext
  machine := row.machine
  session_generation := row.session_generation
  server_epoch := row.server_epoch
  grace_token_signature := row.grace_token_signature

/- An empty signature is written as null. -/
def signatureColumn
    (signature : Option String) : Option String :=
  signature.filter (fun text => decide (text ≠ ""))

theorem signatureColumn_ne
    (signature : Option String) :
    signatureColumn signature ≠ some "" := by
  intro hEmpty
  have hNe := (Option.filter_eq_some_iff.mp hEmpty).2
  exact absurd rfl (of_decide_eq_true hNe)

theorem signatureColumn_eq_self
    {signature : Option String}
    (hNe : signature ≠ some "") :
    signatureColumn signature = signature := by
  cases signature with
  | none => rfl
  | some text =>
      refine Option.filter_some_pos (decide_eq_true ?_)
      rintro rfl
      exact hNe rfl

/- The row that a commit writes. -/
def Written.toRow
    (next : Written)
    (version highestTime : Nat) : PersistedRow where
  toSecurityStateRow :=
    next.toNextStateData.toRow version highestTime
  machine := next.machine
  session_generation := next.session_generation
  server_epoch := next.server_epoch
  grace_token_signature :=
    signatureColumn next.grace_token_signature
  signature_ne := signatureColumn_ne _

/- The projection of a boot. -/
def PersistedRow.project
    (row : PersistedRow)
    (state : SecurityState) : Projection where
  toStateData := row.toSecurityStateRow.project state
  machine := row.machine

def Projection.advance
    (d : Projection)
    (next : SecurityState)
    (payload : TransitionPayload) : Projection where
  toStateData := d.toStateData.advance next payload
  machine := d.machine

/- A change of the fields that the projection has. -/
def Projection.assign
    (f : StateData → StateData)
    (d : Projection) : Projection where
  toStateData := f d.toStateData
  machine := d.machine

------------------------------------------------------------
-- Writes
------------------------------------------------------------

/- Those from the row are made by no transition. -/
inductive WriteKind where
| transition
| logout
| unauthenticated
| revocation
| mismatch
| reconcileStart
| wipe
| sync
| timeTick
| graceExhausted
deriving DecidableEq, Repr

/- The write is made from the projection in memory. -/
def WriteKind.fromMemory : WriteKind → Bool
| .transition => true
| .logout => true
| .unauthenticated => true
| .revocation => true
| .mismatch => true
| _ => false

/- The fields that the payload of a write sets. -/
structure SetFields where
  generation : Bool := false
  epoch : Bool := false
  graceToken : Bool := false
deriving DecidableEq, Repr

/-
  A write whose commit was called: the version it expects,
  what it hands over and, of a transition, the next state.
-/
structure Write where
  kind : WriteKind
  expected : Nat
  written : Written
  sets : SetFields := {}
  next : Option Projection := none
deriving DecidableEq, Repr

/- What the backend answers to a reconciliation. -/
structure BackendState where
  generation : Nat
  serverEpoch : Nat
  graceToken : Option GraceToken
deriving DecidableEq, Repr

/- What a process can ask the storage to write. -/
inductive WriteRequest where
| transition (event : TransitionEvent)
    (payload : TransitionPayload)
| logout
| transitionToUnauthenticated
| revokeLicense
| identityMismatch
| reconcileStart
| applyWipe
| applySync (authoritativeState : BackendState)
| observeTime (now : Nat)
| expireGrace (now : Nat)
deriving DecidableEq, Repr

/- The write of a transition that passes its guard. -/
def transitionWrite
    (d : Projection)
    (row : PersistedRow)
    (event : TransitionEvent)
    (payload : TransitionPayload) : Option Write :=
  if d.state_version ≠ row.state_version then none
  else
    match getTransition d.state event with
    | none => none
    | some transitionDef =>
        if transitionDef.guard payload.facts then
          let next := d.advance transitionDef.nextState payload
          some
            { kind := .transition
              expected := d.state_version
              written := next.toWritten
              sets :=
                { graceToken := payload.graceTokenData.isSome }
              next := some next }
        else none

/- The write of a facade, from what memory has by then. -/
def facadeWrite
    (d : Projection)
    (row : PersistedRow) : WriteRequest → Option Write
| .logout =>
    some
      { kind := .logout
        expected := row.state_version
        written :=
          { (d.assign StateData.clear).toWritten with
              state := .known .LOGGED_OUT } }
| .transitionToUnauthenticated =>
    if row.state ≠ .known .UNAUTHENTICATED then
      some
        { kind := .unauthenticated
          expected := row.state_version
          written :=
            (d.assign StateData.unauthenticate).toWritten }
    else none
| .revokeLicense =>
    if row.state ≠ .known .REVOKED then
      some
        { kind := .revocation
          expected := row.state_version
          written := d.toWritten }
    else none
| .identityMismatch =>
    some
      { kind := .mismatch
        expected := d.state_version
        written :=
          { d.toWritten with state := .known .COMPROMISED } }
| _ => none

/- The write of a reconciliation or of a tick. -/
def rowWrite
    (row : PersistedRow) : WriteRequest → Option Write
| .reconcileStart =>
    if reconcileRefused row.state then none
    else
      some
        { kind := .reconcileStart
          expected := row.state_version
          written :=
            { row.toWritten with state := .RECONCILING } }
| .applyWipe =>
    some
      { kind := .wipe
        expected := row.state_version
        written :=
          { row.toWritten with
              state := .known .COMPROMISED
              session := none
              authorization := none
              license := none } }
| .applySync authoritativeState =>
    some
      { kind := .sync
        expected := row.state_version
        written :=
          { row.toWritten with
              state := .known .OPERATIONAL
              server_epoch := authoritativeState.serverEpoch
              session_generation :=
                authoritativeState.generation
              graceTokenData :=
                authoritativeState.graceToken <|>
                  row.graceTokenData }
        sets :=
          { generation := true
            epoch := true
            graceToken :=
              authoritativeState.graceToken.isSome } }
| .observeTime now =>
    if row.highest_observed_time < now then
      some
        { kind := .timeTick
          expected := row.state_version
          written :=
            { row.toWritten with
                highest_observed_time := some now } }
    else none
| .expireGrace now =>
    if row.graceOver now then
      some
        { kind := .graceExhausted
          expected := row.state_version
          written :=
            { row.toWritten with
                state := .known .EXPIRED
                highest_observed_time := some now } }
    else none
| _ => none

------------------------------------------------------------
-- The Process
------------------------------------------------------------

/- The values that the backend has sent last. -/
structure Received where
  generation : Nat
  epoch : Nat
  graceToken : Option GraceToken
deriving DecidableEq, Repr

/-
  The storage and the process. A commit that was called is
  pending until it takes effect, and the caller goes on after
  that in a later turn.
-/
structure ProjectionRun where
  row : Option PersistedRow
  memory : Option Projection
  pending : List Write
  answered : List (Write × Bool)
  received : Received
deriving DecidableEq, Repr

/-
  `prepare` is what a facade write does to memory before it
  reads the row. `completes` says that a transition does not
  throw after its commit.
-/
inductive ProjectionEvent where
| boot (machineValid : Bool) (now : Nat)
| prepare (request : WriteRequest)
| write (request : WriteRequest)
| commit (index now : Nat)
| resume (index : Nat) (completes : Bool)
deriving DecidableEq, Repr

namespace ProjectionRun

def bootState
    (row : PersistedRow)
    (machineValid : Bool) : SecurityState :=
  match row.state with
  | .known state =>
      SecurityAuthority.bootState state machineValid
  | .RECONCILING =>
      if machineValid then .SECURITY_STATE_READY
      else .COMPROMISED

/- The row of a fresh database. -/
def baselineRow (now : Nat) : PersistedRow :=
  Written.toRow
    { toNextStateData := baselineState
      machine := none
      session_generation := 0
      server_epoch := 0
      grace_token_signature := none } 1 now

/- A new process takes its state from the row. -/
def boot
    (s : ProjectionRun)
    (machineValid : Bool)
    (now : Nat) : ProjectionRun :=
  let row := s.row.getD (baselineRow now)
  { s with
      row := some row
      memory := some (row.project (bootState row machineValid))
      pending := []
      answered := [] }

/- A transition holds the mutex of the state machine. -/
def isTransitioning (s : ProjectionRun) : Bool :=
  s.pending.any (fun w => w.kind = .transition) ||
    s.answered.any (fun w => w.1.kind = .transition)

def prepare
    (s : ProjectionRun)
    (request : WriteRequest) : ProjectionRun :=
  match request with
  | .logout =>
      { s with
          memory :=
            s.memory.map (Projection.assign StateData.clear) }
  | .transitionToUnauthenticated =>
      if s.memory.any (fun d => unauthenticable d.state) then
        { s with
            memory :=
              s.memory.map
                (Projection.assign StateData.unauthenticate) }
      else s
  | .revokeLicense =>
      { s with
          memory :=
            s.memory.map (Projection.assign StateData.revoke) }
  | _ => s

/- The write that a request calls a commit for. -/
def writeFor
    (s : ProjectionRun)
    (request : WriteRequest) : Option Write :=
  match s.memory, s.row with
  | some d, some row =>
      match request with
      | .transition event payload =>
          if s.isTransitioning then none
          else transitionWrite d row event payload
      | request =>
          (facadeWrite d row request).or (rowWrite row request)
  | _, _ => none

/- `nextStateData.highest_observed_time || Date.now()` -/
def highestTime
    (next : Written)
    (now : Nat) : Nat :=
  match next.highest_observed_time with
  | some (t + 1) => t + 1
  | _ => now

/- The row and the write whose commit finds its version. -/
def commits
    (s : ProjectionRun)
    (index : Nat) : Option (PersistedRow × Write) :=
  match s.row, s.pending[index]? with
  | some row, some w =>
      if row.state_version = w.expected then some (row, w)
      else none
  | _, _ => none

def rowOf
    (w : Write)
    (now : Nat) : PersistedRow :=
  w.written.toRow (w.expected + 1) (highestTime w.written now)

/- The payload of a write may bring values of the backend. -/
def receive
    (w : Write)
    (received : Received) : Received where
  generation :=
    if w.sets.generation then w.written.session_generation
    else received.generation
  epoch :=
    if w.sets.epoch then w.written.server_epoch
    else received.epoch
  graceToken :=
    if w.sets.graceToken then w.written.graceTokenData
    else received.graceToken

def commit
    (s : ProjectionRun)
    (index now : Nat) : ProjectionRun :=
  match s.pending[index]? with
  | none => s
  | some w =>
      let left := s.pending.eraseIdx index
      match s.commits index with
      | some _ =>
          { s with
              row := some (rowOf w now)
              pending := left
              answered := s.answered ++ [(w, true)]
              received := receive w s.received }
      | none =>
          { s with
              pending := left
              answered := s.answered ++ [(w, false)] }

/- What the caller does to memory after its commit. -/
def follow
    (w : Write)
    (committed completes : Bool)
    (memory : Option Projection) : Option Projection :=
  let atVersion :=
    memory.map (Projection.assign (fun d =>
      { d with state_version := w.expected + 1 }))
  match w.kind with
  | .transition =>
      if committed && completes then
        (w.next.map (Projection.assign (fun d =>
          { d with state_version := w.expected + 1 }))).or memory
      else memory
  | .logout => if committed then atVersion else memory
  | .unauthenticated => if committed then atVersion else memory
  | .mismatch =>
      memory.map (Projection.assign (fun d =>
        { d with state_version := d.state_version + 1 }))
  | .wipe =>
      memory.map (Projection.assign (fun d =>
        { d.clear with state := .COMPROMISED }))
  | .sync =>
      if committed then
        memory.map (Projection.assign (fun d =>
          { d with state := .OPERATIONAL }))
      else memory
  | .graceExhausted =>
      (if committed then atVersion else memory).map
        (Projection.assign (fun d => { d with state := .EXPIRED }))
  | _ => memory

def resume
    (s : ProjectionRun)
    (index : Nat)
    (completes : Bool) : ProjectionRun :=
  match s.answered[index]? with
  | none => s
  | some (w, committed) =>
      { s with
          answered := s.answered.eraseIdx index
          memory := follow w committed completes s.memory }

def step (s : ProjectionRun) : ProjectionEvent → ProjectionRun
| .boot machineValid now => s.boot machineValid now
| .prepare request => s.prepare request
| .write request =>
    { s with
        pending := s.pending ++ (s.writeFor request).toList }
| .commit index now => s.commit index now
| .resume index completes => s.resume index completes

/-
  What the next reconciliation sends of the row, and what the
  check of the grace period reads of it.
-/
def seen (row : Option PersistedRow) : Received where
  generation := row.elim 0 (fun r => r.session_generation)
  epoch := row.elim 0 (fun r => r.server_epoch)
  graceToken := row.bind (fun r => r.graceTokenData)

/- A database that no process has opened. -/
def start (row : Option PersistedRow) : ProjectionRun where
  row := row
  memory := none
  pending := []
  answered := []
  received := seen row

------------------------------------------------------------
-- Fields That A Payload Does Not Set
------------------------------------------------------------

structure Unchanged
    (sets : SetFields)
    (row next : PersistedRow) : Prop where
  generation :
    sets.generation = false →
      next.session_generation = row.session_generation ∧
        next.backend_generation = row.backend_generation
  epoch :
    sets.epoch = false → next.server_epoch = row.server_epoch
  graceToken :
    sets.graceToken = false →
      next.graceTokenData = row.graceTokenData
  signature :
    next.grace_token_signature = row.grace_token_signature
  machine : next.machine = row.machine

/- A commit leaves what its payload does not set. -/
def Preserves
    (s : ProjectionRun)
    (event : ProjectionEvent) : Prop :=
  ∀ index now, event = .commit index now →
    ∀ row w, s.commits index = some (row, w) →
      ∀ next, (s.step event).row = some next →
        Unchanged w.sets row next

/-
  The projection that a write is made from has what the row
  has: the row has neither generation nor epoch nor signature,
  and its machine and its grace token are those of memory,
  unless the payload brings a token.
-/
structure Carried
    (row : PersistedRow)
    (w : Write) : Prop where
  generation : row.session_generation = 0
  epoch : row.server_epoch = 0
  signature : row.grace_token_signature = none
  machine : row.machine = w.written.machine
  graceToken :
    w.sets.graceToken = false →
      row.graceTokenData = w.written.graceTokenData

def Carries
    (s : ProjectionRun)
    (event : ProjectionEvent) : Prop :=
  ∀ index now, event = .commit index now →
    ∀ row w, s.commits index = some (row, w) →
      w.kind.fromMemory = true → Carried row w

/- The row has the values that the backend has sent last. -/
def Sees (s : ProjectionRun) : Prop :=
  seen s.row = s.received

------------------------------------------------------------
-- How A Write Was Made
------------------------------------------------------------

/-
  A write from memory has none of the columns. One from the
  row has the values of the row, as long as the version that
  it expects is the version of the row.
-/
structure Made
    (row : Option PersistedRow)
    (w : Write) : Prop where
  behind :
    w.kind.fromMemory = false →
      ∀ r ∈ row, w.expected ≤ r.state_version
  fromMemory :
    w.kind.fromMemory = true →
      w.written.session_generation = 0 ∧
        w.written.server_epoch = 0 ∧
        w.written.grace_token_signature = none ∧
        w.sets.generation = false ∧ w.sets.epoch = false
  fromRow :
    w.kind.fromMemory = false →
      ∀ r ∈ row, r.state_version = w.expected →
        ∀ now, Unchanged w.sets r (rowOf w now)

theorem unchanged_of_row
    {row : PersistedRow}
    {w : Write}
    (hSignature :
      w.written.grace_token_signature =
        row.grace_token_signature)
    (hMachine : w.written.machine = row.machine)
    (hGeneration :
      w.sets.generation = false →
        w.written.session_generation = row.session_generation)
    (hEpoch :
      w.sets.epoch = false →
        w.written.server_epoch = row.server_epoch)
    (hGraceToken :
      w.sets.graceToken = false →
        w.written.graceTokenData = row.graceTokenData)
    (now : Nat) : Unchanged w.sets row (rowOf w now) where
  generation := fun hNot => ⟨hGeneration hNot, hGeneration hNot⟩
  epoch := hEpoch
  graceToken := hGraceToken
  signature := by
    change signatureColumn w.written.grace_token_signature = _
    rw [hSignature]
    exact signatureColumn_eq_self row.signature_ne
  machine := hMachine

/- The fields of a row that a write copies. -/
theorem made_of_copy
    {row : PersistedRow}
    {w : Write}
    (hKind : w.kind.fromMemory = false)
    (hExpected : w.expected = row.state_version)
    (hSignature :
      w.written.grace_token_signature =
        row.grace_token_signature)
    (hMachine : w.written.machine = row.machine)
    (hGeneration :
      w.sets.generation = false →
        w.written.session_generation = row.session_generation)
    (hEpoch :
      w.sets.epoch = false →
        w.written.server_epoch = row.server_epoch)
    (hGraceToken :
      w.sets.graceToken = false →
        w.written.graceTokenData = row.graceTokenData) :
    Made (some row) w where
  behind := by
    rintro _ r hRow
    cases hRow
    exact Nat.le_of_eq hExpected
  fromMemory := by
    intro hMemory
    exact absurd (hKind.symm.trans hMemory) nofun
  fromRow := by
    rintro _ r hRow _
    cases hRow
    exact unchanged_of_row hSignature hMachine hGeneration
      hEpoch hGraceToken

/- A write that copies what the row had received. -/
theorem made_of_whole
    {row : PersistedRow}
    {w : Write}
    (hKind : w.kind.fromMemory = false)
    (hExpected : w.expected = row.state_version)
    (hSignature :
      w.written.grace_token_signature =
        row.grace_token_signature)
    (hMachine : w.written.machine = row.machine)
    (hGeneration :
      w.written.session_generation = row.session_generation)
    (hEpoch : w.written.server_epoch = row.server_epoch)
    (hGraceToken :
      w.written.graceTokenData = row.graceTokenData) :
    Made (some row) w :=
  made_of_copy hKind hExpected hSignature hMachine
    (fun _ => hGeneration) (fun _ => hEpoch)
    (fun _ => hGraceToken)

theorem made_of_memory
    {row : Option PersistedRow}
    {w : Write}
    (hKind : w.kind.fromMemory = true)
    (hGeneration : w.written.session_generation = 0)
    (hEpoch : w.written.server_epoch = 0)
    (hSignature : w.written.grace_token_signature = none)
    (hSets :
      w.sets.generation = false ∧ w.sets.epoch = false) :
    Made row w where
  behind := by
    intro hRow
    exact absurd (hKind.symm.trans hRow) nofun
  fromMemory := fun _ => ⟨hGeneration, hEpoch, hSignature, hSets⟩
  fromRow := by
    intro hRow
    exact absurd (hKind.symm.trans hRow) nofun

theorem made_transition
    {d : Projection}
    {row : PersistedRow}
    {event : TransitionEvent}
    {payload : TransitionPayload}
    {w : Write}
    (hWrite : transitionWrite d row event payload = some w) :
    Made (some row) w := by
  unfold transitionWrite at hWrite
  split at hWrite
  · cases hWrite
  · split at hWrite
    · cases hWrite
    · split at hWrite
      · cases hWrite
        exact made_of_memory rfl rfl rfl rfl ⟨rfl, rfl⟩
      · cases hWrite

theorem made_rowWrite
    {row : PersistedRow}
    {request : WriteRequest}
    {w : Write}
    (hWrite : rowWrite row request = some w) :
    Made (some row) w := by
  cases request with
  | reconcileStart =>
      unfold rowWrite at hWrite
      dsimp only at hWrite
      split at hWrite
      · cases hWrite
      · cases hWrite
        exact made_of_whole rfl rfl rfl rfl rfl rfl rfl
  | applyWipe =>
      cases hWrite
      exact made_of_whole rfl rfl rfl rfl rfl rfl rfl
  | applySync authoritativeState =>
      cases hWrite
      refine made_of_copy rfl rfl rfl rfl nofun nofun ?_
      intro hNone
      have hToken : authoritativeState.graceToken = none :=
        Option.isSome_eq_false_iff.mp hNone |>
          Option.isNone_iff_eq_none.mp
      change (authoritativeState.graceToken <|> _) = _
      rw [hToken]
      rfl
  | observeTime now =>
      unfold rowWrite at hWrite
      dsimp only at hWrite
      split at hWrite
      · cases hWrite
        exact made_of_whole rfl rfl rfl rfl rfl rfl rfl
      · cases hWrite
  | expireGrace now =>
      unfold rowWrite at hWrite
      dsimp only at hWrite
      split at hWrite
      · cases hWrite
        exact made_of_whole rfl rfl rfl rfl rfl rfl rfl
      · cases hWrite
  | _ => cases hWrite

theorem made_facadeWrite
    {d : Projection}
    {row : PersistedRow}
    {request : WriteRequest}
    {w : Write}
    (hWrite : facadeWrite d row request = some w) :
    Made (some row) w := by
  cases request with
  | logout =>
      cases hWrite
      exact made_of_memory rfl rfl rfl rfl ⟨rfl, rfl⟩
  | transitionToUnauthenticated =>
      unfold facadeWrite at hWrite
      dsimp only at hWrite
      split at hWrite
      · cases hWrite
        exact made_of_memory rfl rfl rfl rfl ⟨rfl, rfl⟩
      · cases hWrite
  | revokeLicense =>
      unfold facadeWrite at hWrite
      dsimp only at hWrite
      split at hWrite
      · cases hWrite
        exact made_of_memory rfl rfl rfl rfl ⟨rfl, rfl⟩
      · cases hWrite
  | identityMismatch =>
      cases hWrite
      exact made_of_memory rfl rfl rfl rfl ⟨rfl, rfl⟩
  | _ => cases hWrite

/- What a request calls a commit for fits the row. -/
theorem made_writeFor
    {s : ProjectionRun}
    {request : WriteRequest}
    {w : Write}
    (hWrite : s.writeFor request = some w) : Made s.row w := by
  unfold writeFor at hWrite
  split at hWrite
  · rename_i d row _ hRow
    rw [hRow]
    split at hWrite
    · split at hWrite
      · cases hWrite
      · exact made_transition hWrite
    · rcases Option.or_eq_some_iff.mp hWrite with
        hFacade | ⟨_, hRowWrite⟩
      · exact made_facadeWrite hFacade
      · exact made_rowWrite hRowWrite
  · cases hWrite

------------------------------------------------------------
-- Steps
------------------------------------------------------------

/- Every write that is pending fits the row. -/
def Prepared (s : ProjectionRun) : Prop :=
  ∀ w ∈ s.pending, Made s.row w

variable {s : ProjectionRun}

theorem commits_eq_some
    {index : Nat}
    {row : PersistedRow}
    {w : Write}
    (hCommits : s.commits index = some (row, w)) :
    s.row = some row ∧ s.pending[index]? = some w ∧
      row.state_version = w.expected := by
  unfold commits at hCommits
  split at hCommits
  · rename_i found other hRow hWrite
    split at hCommits
    · rename_i hVersion
      cases hCommits
      exact ⟨hRow, hWrite, hVersion⟩
    · cases hCommits
  · cases hCommits

/- What is prepared is not written yet. -/
theorem prepare_frame
    (s : ProjectionRun)
    (request : WriteRequest) :
    (s.prepare request).row = s.row ∧
      (s.prepare request).pending = s.pending ∧
      (s.prepare request).received = s.received := by
  unfold prepare
  split
  · exact ⟨rfl, rfl, rfl⟩
  · split <;> exact ⟨rfl, rfl, rfl⟩
  · exact ⟨rfl, rfl, rfl⟩
  · exact ⟨rfl, rfl, rfl⟩

/- A write that resumes in memory is in the row by then. -/
theorem resume_frame
    (s : ProjectionRun)
    (index : Nat)
    (completes : Bool) :
    (s.resume index completes).row = s.row ∧
      (s.resume index completes).pending = s.pending ∧
      (s.resume index completes).received = s.received := by
  unfold resume
  split <;> exact ⟨rfl, rfl, rfl⟩

/- A commit that finds its version writes the row. -/
theorem commit_of_commits
    {index : Nat}
    {row : PersistedRow}
    {w : Write}
    (now : Nat)
    (hCommits : s.commits index = some (row, w)) :
    (s.commit index now).row = some (rowOf w now) ∧
      (s.commit index now).received = receive w s.received := by
  have hPending := (commits_eq_some hCommits).2.1
  unfold commit
  rw [hPending, hCommits]
  exact ⟨rfl, rfl⟩

theorem commit_of_none
    {index now : Nat}
    (hNone : s.commits index = none) :
    (s.commit index now).row = s.row ∧
      (s.commit index now).received = s.received := by
  unfold commit
  rw [hNone]
  split <;> exact ⟨rfl, rfl⟩

theorem mem_pending_commit
    {index now : Nat}
    {w : Write}
    (hMem : w ∈ (s.commit index now).pending) :
    w ∈ s.pending := by
  unfold commit at hMem
  split at hMem
  · exact hMem
  · split at hMem
    · exact List.mem_of_mem_eraseIdx hMem
    · exact List.mem_of_mem_eraseIdx hMem

/- A later version does not fit what was read before. -/
theorem Made.of_commit
    {row : PersistedRow}
    {w other : Write}
    {now : Nat}
    (hMade : Made (some row) w)
    (hVersion : row.state_version = other.expected) :
    Made (some (rowOf other now)) w where
  behind := by
    rintro hKind r hRow
    cases hRow
    have hBehind := hMade.behind hKind row rfl
    change w.expected ≤ other.expected + 1
    omega
  fromMemory := hMade.fromMemory
  fromRow := by
    rintro hKind r hRow hSame
    cases hRow
    have hBehind := hMade.behind hKind row rfl
    have hLater : other.expected + 1 = w.expected := hSame
    omega

theorem prepared_step
    (event : ProjectionEvent)
    (hPrepared : Prepared s) : Prepared (s.step event) := by
  cases event with
  | boot machineValid now =>
      intro w hMem
      cases hMem
  | prepare request =>
      rcases s.prepare_frame request with
        ⟨hRow, hPending, _⟩
      intro w hMem
      change w ∈ (s.prepare request).pending at hMem
      change Made (s.prepare request).row w
      rw [hPending] at hMem
      rw [hRow]
      exact hPrepared w hMem
  | write request =>
      intro w hMem
      rcases List.mem_append.mp hMem with hOld | hNew
      · exact hPrepared w hOld
      · have hWrite : s.writeFor request = some w :=
          Option.mem_toList.mp hNew
        have hMade := made_writeFor hWrite
        exact hMade
  | commit index now =>
      intro w hMem
      have hMade := hPrepared w (mem_pending_commit hMem)
      change Made (s.commit index now).row w
      cases hCommits : s.commits index with
      | none =>
          rw [(commit_of_none hCommits).1]
          exact hMade
      | some found =>
          rcases found with ⟨row, other⟩
          rcases commits_eq_some hCommits with
            ⟨hRow, _, hVersion⟩
          rw [(commit_of_commits now hCommits).1]
          rw [hRow] at hMade
          exact hMade.of_commit hVersion
  | resume index completes =>
      rcases s.resume_frame index completes with
        ⟨hRow, hPending, _⟩
      intro w hMem
      change w ∈ (s.resume index completes).pending at hMem
      change Made (s.resume index completes).row w
      rw [hPending] at hMem
      rw [hRow]
      exact hPrepared w hMem

/- A commit from memory leaves what memory has. -/
theorem unchanged_iff_carried
    {row : PersistedRow}
    {w : Write}
    (hMade : Made (some row) w)
    (hKind : w.kind.fromMemory = true)
    (now : Nat) :
    Unchanged w.sets row (rowOf w now) ↔ Carried row w := by
  rcases hMade.fromMemory hKind with
    ⟨hGeneration, hEpoch, hSignature, hSets, hSetsEpoch⟩
  have hColumn :
      (rowOf w now).grace_token_signature = none := by
    change signatureColumn w.written.grace_token_signature = _
    rw [hSignature]
    rfl
  constructor
  · intro hUnchanged
    exact
      { generation :=
          (hUnchanged.generation hSets).1.symm.trans hGeneration
        epoch := (hUnchanged.epoch hSetsEpoch).symm.trans hEpoch
        signature := hUnchanged.signature.symm.trans hColumn
        machine := hUnchanged.machine.symm
        graceToken := fun hNot =>
          (hUnchanged.graceToken hNot).symm }
  · intro hCarried
    have hSame := hGeneration.trans hCarried.generation.symm
    exact
      { generation := fun _ => ⟨hSame, hSame⟩
        epoch := fun _ => hEpoch.trans hCarried.epoch.symm
        graceToken := fun hNot =>
          (hCarried.graceToken hNot).symm
        signature := hColumn.trans hCarried.signature.symm
        machine := hCarried.machine.symm }

theorem preserves_iff_carries
    (event : ProjectionEvent)
    (hPrepared : Prepared s) :
    s.Preserves event ↔ s.Carries event := by
  have hMade :
      ∀ index row w, s.commits index = some (row, w) →
        Made (some row) w ∧ row.state_version = w.expected := by
    intro index row w hCommits
    rcases commits_eq_some hCommits with
      ⟨hRow, hPending, hVersion⟩
    have hFits := hPrepared w (List.mem_of_getElem? hPending)
    rw [hRow] at hFits
    exact ⟨hFits, hVersion⟩
  constructor
  · rintro hPreserves index now rfl row w hCommits hKind
    have hNext := (commit_of_commits now hCommits).1
    exact (unchanged_iff_carried (hMade _ _ _ hCommits).1 hKind
      now).mp (hPreserves index now rfl row w hCommits _ hNext)
  · rintro hCarries index now rfl row w hCommits next hNext
    change (s.commit index now).row = some next at hNext
    rw [(commit_of_commits now hCommits).1] at hNext
    cases hNext
    rcases hMade _ _ _ hCommits with ⟨hFits, hVersion⟩
    cases hKind : w.kind.fromMemory with
    | true =>
        exact (unchanged_iff_carried hFits hKind now).mpr
          (hCarries index now rfl row w hCommits hKind)
    | false => exact hFits.fromRow hKind row rfl hVersion now

/- What a commit leaves or sets is what was received. -/
theorem Unchanged.seen_eq
    {row : PersistedRow}
    {w : Write}
    {now : Nat}
    {received : Received}
    (hUnchanged : Unchanged w.sets row (rowOf w now))
    (hSees : seen (some row) = received) :
    seen (some (rowOf w now)) = receive w received := by
  subst hSees
  have hEpoch := hUnchanged.epoch
  have hGraceToken := hUnchanged.graceToken
  have hGeneration := hUnchanged.generation
  unfold receive seen
  rw [Received.mk.injEq]
  refine ⟨?_, ?_, ?_⟩
  · split
    · rfl
    · rename_i hNot
      exact (hGeneration (eq_false_of_ne_true hNot)).1
  · split
    · rfl
    · rename_i hNot
      exact hEpoch (eq_false_of_ne_true hNot)
  · split
    · rfl
    · rename_i hNot
      exact hGraceToken (eq_false_of_ne_true hNot)

theorem sees_step
    (event : ProjectionEvent)
    (hPreserves : s.Preserves event)
    (hSees : s.Sees) : (s.step event).Sees := by
  cases event with
  | boot machineValid now =>
      change seen (some (s.row.getD (baselineRow now))) =
        s.received
      unfold Sees at hSees
      rw [← hSees]
      cases s.row with
      | none => rfl
      | some row => rfl
  | prepare request =>
      rcases s.prepare_frame request with
        ⟨hRow, _, hReceived⟩
      change seen (s.prepare request).row =
        (s.prepare request).received
      rw [hRow, hReceived]
      exact hSees
  | write request => exact hSees
  | commit index now =>
      change seen (s.commit index now).row =
        (s.commit index now).received
      cases hCommits : s.commits index with
      | none =>
          rw [(commit_of_none hCommits).1,
            (commit_of_none hCommits).2]
          exact hSees
      | some found =>
          rcases found with ⟨row, w⟩
          have hCommit := commit_of_commits now hCommits
          have hUnchanged :=
            hPreserves index now rfl row w hCommits _ hCommit.1
          rw [hCommit.1, hCommit.2]
          unfold Sees at hSees
          rw [(commits_eq_some hCommits).1] at hSees
          exact hUnchanged.seen_eq hSees
  | resume index completes =>
      rcases s.resume_frame index completes with
        ⟨hRow, _, hReceived⟩
      change seen (s.resume index completes).row =
        (s.resume index completes).received
      rw [hRow, hReceived]
      exact hSees

------------------------------------------------------------
-- The Engine
------------------------------------------------------------

theorem transitionWrite_eq_some
    {d : Projection}
    {row : PersistedRow}
    {event : TransitionEvent}
    {payload : TransitionPayload}
    {w : Write}
    (hWrite : transitionWrite d row event payload = some w) :
    d.state_version = row.state_version ∧
      w.expected = d.state_version ∧
      ∃ st,
        nextState d.state event payload.facts = some st ∧
          w.written = (d.advance st payload).toWritten := by
  unfold transitionWrite at hWrite
  split at hWrite
  · cases hWrite
  · rename_i hVersion
    refine ⟨Decidable.not_not.mp hVersion, ?_⟩
    unfold nextState
    cases hTransition : getTransition d.state event with
    | none =>
        rw [hTransition] at hWrite
        cases hWrite
    | some transitionDef =>
        rw [hTransition] at hWrite
        dsimp only at hWrite
        split at hWrite
        · rename_i hGuard
          cases hWrite
          exact ⟨rfl, transitionDef.nextState, if_pos hGuard,
            rfl⟩
        · cases hWrite

/-
  On the fields that the engine looks at, the write of a
  transition is what a dispatch commits.
-/
theorem row_of_dispatch
    {d : Projection}
    {row : PersistedRow}
    {event : TransitionEvent}
    {payload : TransitionPayload}
    {w : Write}
    {authority : Authority}
    (hWrite : transitionWrite d row event payload = some w)
    (hIdle : authority.Idle)
    (hMemory : authority.inMemoryState = some d.toStateData)
    (hRow : authority.row = some row.toSecurityStateRow) :
    ((dispatch event payload).exec authority).2.row =
      some (rowOf w authority.now).toSecurityStateRow := by
  rcases transitionWrite_eq_some hWrite with
    ⟨hVersion, hExpected, st, hNext, hWritten⟩
  have hCommitted :
      (authority.committed d.state_version
          (d.toStateData.advance st payload).toNext).row =
        some (rowOf w authority.now).toSecurityStateRow := by
    unfold rowOf
    rw [hWritten, hExpected]
    rfl
  rw [exec_dispatch hIdle hMemory hRow,
    if_neg (fun hNe => hNe hVersion), hNext]
  dsimp only
  split
  · exact hCommitted
  · exact hCommitted

------------------------------------------------------------
-- Runs
------------------------------------------------------------

/-
  Along a run every commit leaves what its payload does not
  set exactly when the projections that are written have what
  the row has. The row then has what the backend sent last.
-/
theorem unset_kept_along_iff
    (row : Option PersistedRow)
    (events : List ProjectionEvent) :
    (Along step Preserves (start row) events ↔
      Along step Carries (start row) events) ∧
    (Along step Carries (start row) events →
      Throughout step Sees (start row) events) := by
  have hStart : Prepared (start row) := by
    intro w hMem
    cases hMem
  have hPreparedStep :
      ∀ (s : ProjectionRun) (event : ProjectionEvent),
        Prepared s → Prepared (s.step event) :=
    fun _ event hPrepared => prepared_step event hPrepared
  have hIff :
      Along step Preserves (start row) events ↔
        Along step Carries (start row) events :=
    along_congr_of_invariant hPreparedStep
      (fun _ event hPrepared =>
        preserves_iff_carries event hPrepared) events hStart
  refine ⟨hIff, ?_⟩
  intro hCarries past future hEvents
  have hPreserves := hIff.mpr hCarries
  rw [hEvents, along_append] at hPreserves
  have hSeesStep :
      ∀ (s : ProjectionRun) (event : ProjectionEvent),
        s.Sees → s.Preserves event → (s.step event).Sees :=
    fun _ event hSees hKept => sees_step event hKept hSees
  have hSees : (start row).Sees := rfl
  exact run_invariant hSeesStep hSees hPreserves.1

/- A fresh database, opened and reconciled. -/
def reconciled : List ProjectionEvent :=
  [.boot true 1000,
    .write
      (.transition .INITIALIZE
        { facts := { singleInstanceLockHeld := true } }),
    .commit 0 1000, .resume 0 true,
    .write
      (.applySync
        { generation := 7
          serverEpoch := 3
          graceToken := some { not_after := some 9000 } }),
    .commit 0 2000, .resume 0 true]

/- A later process, in which an operator logs in. -/
def loggedIn : List ProjectionEvent :=
  [.boot true 3000, .write (.transition .LOGIN_INTENT {}),
    .commit 0 3000]

theorem login_drops_reconciled :
    seen (run step (start none) reconciled).row =
      ⟨7, 3, some { not_after := some 9000 }⟩ ∧
    seen (run step (start none) (reconciled ++ loggedIn)).row =
      ⟨0, 0, none⟩ ∧
    ¬ Along step Preserves (start none)
        (reconciled ++ loggedIn) := by
  refine ⟨by decide +kernel, by decide +kernel, ?_⟩
  intro hAll
  rw [along_append] at hAll
  have hSees :
      (run step (start none)
        (reconciled ++ loggedIn.take 2)).Sees := by
    unfold Sees
    decide +kernel
  have hAfter := sees_step _ hAll.2.2.2.1 hSees
  revert hAfter
  unfold Sees
  decide +kernel

end ProjectionRun

end ControlPlane
