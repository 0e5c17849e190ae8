import ControlPlane.Data.Run

/-
  Asynchronous calls over a shared state.

  A call is a tree of writes to the state and of points at
  which it waits. Between two such points nothing else runs.
  The same tree is read in two ways: `exec` runs a call from
  its start to its end with nothing in between, and a `Pool`
  runs any number of calls that take turns.

  Main declarations:
    * `Flow`, `Flow.bind` and the monad of calls
    * `Flow.exec` and `Flow.exec_bind`
    * `Flow.EveryWrite` and `Flow.everyWrite_bind`
    * `Flow.SameWrites` and `Flow.sameWrites_bind`
    * `Contract`, `Flow.Upholds` and `Flow.upholds_bind`
    * `Flow.Ensures` and its rules
    * `Pool.step`, `Pool.Meets` and `Pool.step_meets`
-/

------------------------------------------------------------
-- Calls
------------------------------------------------------------

namespace ControlPlane

/-
  A call that writes a state of type `σ`. What follows a
  write is chosen by the state before it. A waiting call
  continues in any later state that is ready.
-/
inductive Flow (σ α : Type) where
| done (value : α)
| fail (message : String)
| act (write : σ → σ) (rest : σ → Flow σ α)
| await (ready : σ → Bool) (rest : Flow σ α)

/- How a call ended. A call that waits forever is pending. -/
inductive Outcome (α : Type) where
| resolved (value : α)
| rejected (message : String)
| pending
deriving DecidableEq, Repr

namespace Flow

variable {σ α β : Type}

def bind
    (t : Flow σ α)
    (f : α → Flow σ β) : Flow σ β :=
  match t with
  | .done a => f a
  | .fail message => .fail message
  | .act write rest => .act write (fun s => (rest s).bind f)
  | .await ready rest => .await ready (rest.bind f)

instance : Monad (Flow σ) where
  pure := .done
  bind := Flow.bind

/- Continue with what was thrown. -/
def catching
    (t : Flow σ α)
    (handler : String → Flow σ α) : Flow σ α :=
  match t with
  | .done a => .done a
  | .fail message => handler message
  | .act write rest =>
      .act write (fun s => (rest s).catching handler)
  | .await ready rest =>
      .await ready (rest.catching handler)

/- Write once more when the call ends, also when it throws. -/
def ensuring
    (t : Flow σ α)
    (write : σ → σ) : Flow σ α :=
  match t with
  | .done a => .act write (fun _ => .done a)
  | .fail message => .act write (fun _ => .fail message)
  | .act first rest =>
      .act first (fun s => (rest s).ensuring write)
  | .await ready rest => .await ready (rest.ensuring write)

/- Read the state. -/
def read
    (f : σ → α) : Flow σ α :=
  .act id (fun s => .done (f s))

/- Write the state and answer from the one before. -/
def update
    (write : σ → σ)
    (answer : σ → α) : Flow σ α :=
  .act write (fun s => .done (answer s))

def modify
    (write : σ → σ) : Flow σ Unit :=
  update write (fun _ => ())

/- Wait until the state is ready. -/
def waitFor
    (ready : σ → Bool) : Flow σ Unit :=
  .await ready (.done ())

/- Let other calls run. -/
def turn : Flow σ Unit :=
  waitFor (fun _ => true)

/-
  A request to something outside: other calls may run before
  it takes effect and again before its answer arrives.
-/
def request
    (write : σ → σ)
    (answer : σ → α) : Flow σ α := do
  turn
  let a ← update write answer
  turn
  pure a

@[simp] theorem pure_eq_done
    (a : α) :
    (pure a : Flow σ α) = .done a := rfl

@[simp] theorem done_bind
    (a : α)
    (f : α → Flow σ β) :
    (.done a : Flow σ α) >>= f = f a := rfl

@[simp] theorem fail_bind
    (message : String)
    (f : α → Flow σ β) :
    (.fail message : Flow σ α) >>= f = .fail message := rfl

@[simp] theorem act_bind
    (write : σ → σ)
    (rest : σ → Flow σ α)
    (f : α → Flow σ β) :
    (.act write rest : Flow σ α) >>= f =
      .act write (fun s => rest s >>= f) := rfl

@[simp] theorem await_bind
    (ready : σ → Bool)
    (rest : Flow σ α)
    (f : α → Flow σ β) :
    (.await ready rest : Flow σ α) >>= f =
      .await ready (rest >>= f) := rfl

end Flow

------------------------------------------------------------
-- One Call After Another
------------------------------------------------------------

namespace Flow

variable {σ α β : Type}

/- Run a call with nothing in between. -/
def exec : Flow σ α → σ → Outcome α × σ
| .done a, s => (.resolved a, s)
| .fail message, s => (.rejected message, s)
| .act write rest, s => (rest s).exec (write s)
| .await ready rest, s =>
    if ready s then rest.exec s else (.pending, s)

@[simp] theorem exec_done
    (a : α)
    (s : σ) :
    (.done a : Flow σ α).exec s = (.resolved a, s) := rfl

@[simp] theorem exec_fail
    (message : String)
    (s : σ) :
    (.fail message : Flow σ α).exec s =
      (.rejected message, s) := rfl

@[simp] theorem exec_act
    (write : σ → σ)
    (rest : σ → Flow σ α)
    (s : σ) :
    (.act write rest : Flow σ α).exec s =
      (rest s).exec (write s) := rfl

@[simp] theorem exec_await
    (ready : σ → Bool)
    (rest : Flow σ α)
    (s : σ) :
    (.await ready rest : Flow σ α).exec s =
      if ready s then rest.exec s else (.pending, s) := rfl

/- A call that is followed by another one. -/
theorem exec_bind
    (t : Flow σ α)
    (f : α → Flow σ β)
    (s : σ) :
    (t >>= f).exec s =
      match t.exec s with
      | (.resolved a, s') => (f a).exec s'
      | (.rejected message, s') => (.rejected message, s')
      | (.pending, s') => (.pending, s') := by
  induction t generalizing s with
  | done a => rfl
  | fail message => rfl
  | act write rest ih => exact ih s (write s)
  | await ready rest ih =>
      rw [await_bind, exec_await, exec_await, ih]
      split <;> rfl

/- What follows a call that resolved. -/
theorem exec_bind_of
    {t : Flow σ α}
    {s s' : σ}
    {a : α}
    (hExec : t.exec s = (.resolved a, s'))
    (f : α → Flow σ β) :
    (t >>= f).exec s = (f a).exec s' := by
  rw [exec_bind, hExec]

theorem exec_catching
    (t : Flow σ α)
    (handler : String → Flow σ α)
    (s : σ) :
    (t.catching handler).exec s =
      match t.exec s with
      | (.resolved a, s') => (.resolved a, s')
      | (.rejected message, s') => (handler message).exec s'
      | (.pending, s') => (.pending, s') := by
  induction t generalizing s with
  | done a => rfl
  | fail message => rfl
  | act write rest ih => exact ih s (write s)
  | await ready rest ih =>
      rw [catching, exec_await, exec_await, ih]
      split <;> rfl

theorem exec_ensuring
    (t : Flow σ α)
    (write : σ → σ)
    (s : σ) :
    (t.ensuring write).exec s =
      match t.exec s with
      | (.resolved a, s') => (.resolved a, write s')
      | (.rejected message, s') =>
          (.rejected message, write s')
      | (.pending, s') => (.pending, s') := by
  induction t generalizing s with
  | done a => rfl
  | fail message => rfl
  | act first rest ih => exact ih s (first s)
  | await ready rest ih =>
      rw [ensuring, exec_await, exec_await, ih]
      split <;> rfl

@[simp] theorem exec_read
    (f : σ → α)
    (s : σ) :
    (read f).exec s = (.resolved (f s), s) := rfl

@[simp] theorem exec_update
    (write : σ → σ)
    (answer : σ → α)
    (s : σ) :
    (update write answer).exec s =
      (.resolved (answer s), write s) := rfl

@[simp] theorem exec_modify
    (write : σ → σ)
    (s : σ) :
    (modify write).exec s = (.resolved (), write s) := rfl

@[simp] theorem exec_turn
    (s : σ) :
    (turn : Flow σ Unit).exec s = (.resolved (), s) := rfl

@[simp] theorem exec_request
    (write : σ → σ)
    (answer : σ → α)
    (s : σ) :
    (request write answer).exec s =
      (.resolved (answer s), write s) := rfl

end Flow

------------------------------------------------------------
-- The Writes Of A Call
------------------------------------------------------------

namespace Flow

variable {σ α β : Type}

/- Every write of a call that runs alone is of a kind. -/
def EveryWrite
    (R : σ → σ → Prop) :
    Flow σ α → σ → Prop
| .done _, _ => True
| .fail _, _ => True
| .act write rest, s =>
    R s (write s) ∧ (rest s).EveryWrite R (write s)
| .await ready rest, s =>
    ready s = true → rest.EveryWrite R s

theorem everyWrite_bind
    (R : σ → σ → Prop)
    (t : Flow σ α)
    (f : α → Flow σ β)
    (s : σ) :
    (t >>= f).EveryWrite R s ↔
      t.EveryWrite R s ∧
        ∀ a s', t.exec s = (.resolved a, s') →
          (f a).EveryWrite R s' := by
  induction t generalizing s with
  | done a =>
      simp only [done_bind, EveryWrite, exec_done, true_and]
      constructor
      · rintro hWrite b s' hExec
        cases hExec
        exact hWrite
      · intro hWrite
        exact hWrite a s rfl
  | fail message => simp [EveryWrite]
  | act write rest ih =>
      simp only [act_bind, EveryWrite, exec_act, ih,
        and_assoc]
  | await ready rest ih =>
      simp only [await_bind, EveryWrite, exec_await, ih]
      cases hReady : ready s <;> simp

theorem everyWrite_ensuring
    (R : σ → σ → Prop)
    (t : Flow σ α)
    (write : σ → σ)
    (s : σ) :
    (t.ensuring write).EveryWrite R s ↔
      t.EveryWrite R s ∧
        ((t.exec s).1 ≠ .pending →
          R (t.exec s).2 (write (t.exec s).2)) := by
  induction t generalizing s with
  | done a => simp [ensuring, EveryWrite]
  | fail message => simp [ensuring, EveryWrite]
  | act first rest ih =>
      simp only [ensuring, EveryWrite, exec_act, ih,
        and_assoc]
  | await ready rest ih =>
      simp only [ensuring, EveryWrite, exec_await, ih]
      cases hReady : ready s <;> simp

theorem everyWrite_catching
    (R : σ → σ → Prop)
    (t : Flow σ α)
    (handler : String → Flow σ α)
    (s : σ) :
    (t.catching handler).EveryWrite R s ↔
      t.EveryWrite R s ∧
        ∀ message s',
          t.exec s = (.rejected message, s') →
            (handler message).EveryWrite R s' := by
  induction t generalizing s with
  | done a => simp [catching, EveryWrite]
  | fail message =>
      simp only [catching, EveryWrite, exec_fail, true_and]
      constructor
      · rintro hWrite other s' hExec
        cases hExec
        exact hWrite
      · intro hWrite
        exact hWrite message s rfl
  | act write rest ih =>
      simp only [catching, EveryWrite, exec_act, ih,
        and_assoc]
  | await ready rest ih =>
      simp only [catching, EveryWrite, exec_await, ih]
      cases hReady : ready s <;> simp

/- The writes of a call add up when their kind does. -/
theorem EveryWrite.exec
    {R : σ → σ → Prop}
    (hRefl : ∀ s, R s s)
    (hTrans : ∀ a b c, R a b → R b c → R a c)
    {t : Flow σ α}
    {s : σ}
    (hWrite : t.EveryWrite R s) :
    R s (t.exec s).2 := by
  induction t generalizing s with
  | done a => exact hRefl s
  | fail message => exact hRefl s
  | act write rest ih =>
      exact hTrans _ _ _ hWrite.1 (ih s hWrite.2)
  | await ready rest ih =>
      rw [exec_await]
      cases hReady : ready s with
      | false => exact hRefl s
      | true => exact ih (hWrite hReady)

/- A call whose writes are all of one kind or all of both. -/
def SameWrites
    (R R' : σ → σ → Prop)
    (t : Flow σ α)
    (s : σ) : Prop :=
  t.EveryWrite R s ↔ t.EveryWrite R' s

section SameWrites

variable {R R' : σ → σ → Prop}

theorem sameWrites_bind
    {t : Flow σ α}
    {f : α → Flow σ β}
    {s : σ}
    (hFirst : t.SameWrites R R' s)
    (hRest :
      ∀ a s', t.exec s = (.resolved a, s') →
        (f a).SameWrites R R' s') :
    (t >>= f).SameWrites R R' s := by
  have hSame : t.EveryWrite R s ↔ t.EveryWrite R' s := hFirst
  rw [SameWrites, everyWrite_bind, everyWrite_bind, hSame]
  constructor
  · rintro ⟨hWrite, hAll⟩
    exact ⟨hWrite, fun a s' hExec =>
      (hRest a s' hExec).mp (hAll a s' hExec)⟩
  · rintro ⟨hWrite, hAll⟩
    exact ⟨hWrite, fun a s' hExec =>
      (hRest a s' hExec).mpr (hAll a s' hExec)⟩

theorem sameWrites_catching
    {t : Flow σ α}
    {handler : String → Flow σ α}
    {s : σ}
    (hFirst : t.SameWrites R R' s)
    (hRest :
      ∀ message s',
        t.exec s = (.rejected message, s') →
          (handler message).SameWrites R R' s') :
    (t.catching handler).SameWrites R R' s := by
  have hSame : t.EveryWrite R s ↔ t.EveryWrite R' s := hFirst
  rw [SameWrites, everyWrite_catching, everyWrite_catching,
    hSame]
  constructor
  · rintro ⟨hWrite, hAll⟩
    exact ⟨hWrite, fun message s' hExec =>
      (hRest message s' hExec).mp (hAll message s' hExec)⟩
  · rintro ⟨hWrite, hAll⟩
    exact ⟨hWrite, fun message s' hExec =>
      (hRest message s' hExec).mpr (hAll message s' hExec)⟩

theorem sameWrites_ensuring
    {t : Flow σ α}
    {write : σ → σ}
    {s : σ}
    (hFirst : t.SameWrites R R' s)
    (hWrite : ∀ s, R s (write s) ∧ R' s (write s)) :
    (t.ensuring write).SameWrites R R' s := by
  have hSame : t.EveryWrite R s ↔ t.EveryWrite R' s := hFirst
  rw [SameWrites, everyWrite_ensuring, everyWrite_ensuring,
    hSame]
  simp [(hWrite _).1, (hWrite _).2]

theorem sameWrites_of_both
    {t : Flow σ α}
    {s : σ}
    (hLeft : t.EveryWrite R s)
    (hRight : t.EveryWrite R' s) :
    t.SameWrites R R' s :=
  iff_of_true hLeft hRight

end SameWrites

end Flow

------------------------------------------------------------
-- Calls That Take Turns
------------------------------------------------------------

/-
  What a call may rely on while it waits, what each of its
  turns does, what holds after each of its writes, and what
  holds once it has ended.
-/
structure Contract (σ : Type) where
  rely : σ → σ → Prop
  guar : σ → σ → Prop
  safe : σ → Prop
  post : σ → Prop

/- What a call owes when it ends. -/
def Contract.Ends
    {σ α : Type}
    (c : Contract σ)
    (_ : Except String α)
    (start s : σ) : Prop :=
  c.guar start s ∧ c.post s

namespace Flow

variable {σ α β : Type}

/- Run a call up to the next point at which it waits. -/
def segment : Flow σ α → σ → σ × Flow σ α
| .act write rest, s => (rest s).segment (write s)
| t, s => (s, t)

/- The states that a turn of a call writes. -/
def written : Flow σ α → σ → List σ
| .act write rest, s => write s :: (rest s).written (write s)
| _, _ => []

/- The call has ended. -/
def settled : Flow σ α → Bool
| .done _ => true
| .fail _ => true
| _ => false

/-
  From `s`, reached since `start` without waiting, the call
  ends in `Q`. Each time it waits it has changed the state as
  the contract allows, and it continues in any ready state
  that the contract leads to.
-/
def Upholds
    (c : Contract σ)
    (Q : Except String α → σ → σ → Prop) :
    Flow σ α → σ → σ → Prop
| .done a, start, s => Q (.ok a) start s
| .fail message, start, s => Q (.error message) start s
| .act write rest, start, s =>
    c.safe (write s) ∧ (rest s).Upholds c Q start (write s)
| .await ready rest, start, s =>
    c.guar start s ∧
      ∀ s', c.rely s s' → ready s' = true →
        rest.Upholds c Q s' s'

variable {c : Contract σ}

theorem upholds_bind
    (Q : Except String β → σ → σ → Prop)
    (t : Flow σ α)
    (f : α → Flow σ β)
    (start s : σ) :
    (t >>= f).Upholds c Q start s ↔
      t.Upholds c
        (fun answer start s =>
          match answer with
          | .ok a => (f a).Upholds c Q start s
          | .error message => Q (.error message) start s)
        start s := by
  induction t generalizing start s with
  | done a => exact Iff.rfl
  | fail message => exact Iff.rfl
  | act write rest ih =>
      simp only [act_bind, Upholds, ih]
  | await ready rest ih =>
      simp only [await_bind, Upholds, ih]

theorem upholds_catching
    (Q : Except String α → σ → σ → Prop)
    (t : Flow σ α)
    (handler : String → Flow σ α)
    (start s : σ) :
    (t.catching handler).Upholds c Q start s ↔
      t.Upholds c
        (fun answer start s =>
          match answer with
          | .ok a => Q (.ok a) start s
          | .error message =>
              (handler message).Upholds c Q start s)
        start s := by
  induction t generalizing start s with
  | done a => exact Iff.rfl
  | fail message => exact Iff.rfl
  | act write rest ih =>
      simp only [catching, Upholds, ih]
  | await ready rest ih =>
      simp only [catching, Upholds, ih]

theorem upholds_ensuring
    (Q : Except String α → σ → σ → Prop)
    (t : Flow σ α)
    (write : σ → σ)
    (start s : σ) :
    (t.ensuring write).Upholds c Q start s ↔
      t.Upholds c
        (fun answer start s =>
          c.safe (write s) ∧ Q answer start (write s))
        start s := by
  induction t generalizing start s with
  | done a => exact Iff.rfl
  | fail message => exact Iff.rfl
  | act first rest ih =>
      simp only [ensuring, Upholds, ih]
  | await ready rest ih =>
      simp only [ensuring, Upholds, ih]

/- A weaker end is reached as well. -/
theorem Upholds.mono
    {Q Q' : Except String α → σ → σ → Prop}
    {t : Flow σ α}
    {start s : σ}
    (hUpholds : t.Upholds c Q start s)
    (hQ : ∀ answer start s, Q answer start s →
      Q' answer start s) :
    t.Upholds c Q' start s := by
  induction t generalizing start s with
  | done a => exact hQ _ _ _ hUpholds
  | fail message => exact hQ _ _ _ hUpholds
  | act write rest ih =>
      exact ⟨hUpholds.1, ih s hUpholds.2⟩
  | await ready rest ih =>
      refine ⟨hUpholds.1, ?_⟩
      intro s' hRely hReady
      exact ih (hUpholds.2 s' hRely hReady)

/-
  What a call between two of its turns has left to uphold.
  Once it has ended, what it promised of the state holds.
-/
def Parked
    (c : Contract σ)
    (t : Flow σ α)
    (s : σ) : Prop :=
  match t with
  | .await ready rest =>
      ∀ s', c.rely s s' → ready s' = true →
        rest.Upholds c c.Ends s' s'
  | .act _ _ => False
  | _ => c.post s

/- One turn of a call keeps the guarantee. -/
theorem segment_parked
    {t : Flow σ α}
    {start s : σ}
    (hUpholds : t.Upholds c c.Ends start s) :
    c.guar start (t.segment s).1 ∧
      (t.segment s).2.Parked c (t.segment s).1 := by
  induction t generalizing s with
  | done a => exact hUpholds
  | fail message => exact hUpholds
  | act write rest ih => exact ih s hUpholds.2
  | await ready rest ih => exact hUpholds

/- Every write of a turn is safe. -/
theorem written_safe
    {Q : Except String α → σ → σ → Prop}
    {t : Flow σ α}
    {start s : σ}
    (hUpholds : t.Upholds c Q start s) :
    ∀ x ∈ t.written s, c.safe x := by
  induction t generalizing s with
  | done a => simp [written]
  | fail message => simp [written]
  | act write rest ih =>
      intro x hMem
      rcases List.mem_cons.mp hMem with rfl | hMem
      · exact hUpholds.1
      · exact ih s hUpholds.2 x hMem
  | await ready rest ih => simp [written]

/- Between its turns a call tolerates what it relies on. -/
theorem Parked.stable
    {t : Flow σ α}
    {s s' : σ}
    (hTrans : ∀ a b d, c.rely a b → c.rely b d → c.rely a d)
    (hPost : ∀ a b, c.rely a b → c.post a → c.post b)
    (hParked : t.Parked c s)
    (hRely : c.rely s s') :
    t.Parked c s' := by
  cases t with
  | done a => exact hPost s s' hRely hParked
  | fail message => exact hPost s s' hRely hParked
  | act write rest => exact hParked
  | await ready rest =>
      intro later hLater hReady
      exact hParked later (hTrans _ _ _ hRely hLater) hReady

end Flow

------------------------------------------------------------
-- Rules For Contracts
------------------------------------------------------------

/- Turns that follow each other are as one. -/
structure Contract.Lawful
    {σ : Type}
    (c : Contract σ) : Prop where
  refl : ∀ a, c.guar a a
  trans : ∀ a b d, c.guar a b → c.guar b d → c.guar a d

namespace Flow

variable {σ α β : Type} {c : Contract σ}

/-
  From a state of `pre` the call keeps its contract and ends
  in `Q`, whatever its present turn has done before.
-/
def Ensures
    (c : Contract σ)
    (pre : σ → Prop)
    (t : Flow σ α)
    (Q : Except String α → σ → Prop) : Prop :=
  ∀ start s, pre s → c.guar start s →
    t.Upholds c
      (fun answer start s => Q answer s ∧ c.guar start s)
      start s

/- What holds when a call is followed by another one. -/
def andThen
    (mid : α → σ → Prop)
    (Q : Except String β → σ → Prop) :
    Except String α → σ → Prop
| .ok a => mid a
| .error message => Q (.error message)

variable {pre pre' : σ → Prop}

theorem ensures_done
    {Q : Except String α → σ → Prop}
    {a : α}
    (hEnd : ∀ s, pre s → Q (.ok a) s) :
    Ensures c pre (pure a) Q :=
  fun _ s hPre hGuar => ⟨hEnd s hPre, hGuar⟩

theorem ensures_fail
    {Q : Except String α → σ → Prop}
    {message : String}
    (hEnd : ∀ s, pre s → Q (.error message) s) :
    Ensures c pre (.fail message) Q :=
  fun _ s hPre hGuar => ⟨hEnd s hPre, hGuar⟩

theorem ensures_bind
    {Q : Except String β → σ → Prop}
    (mid : α → σ → Prop)
    {t : Flow σ α}
    {f : α → Flow σ β}
    (hFirst : Ensures c pre t (andThen mid Q))
    (hRest : ∀ a, Ensures c (mid a) (f a) Q) :
    Ensures c pre (t >>= f) Q := by
  intro start s hPre hGuar
  rw [upholds_bind]
  apply (hFirst start s hPre hGuar).mono
  rintro (message | a) start s ⟨hMid, hGuar⟩
  · exact ⟨hMid, hGuar⟩
  · exact hRest a start s hMid hGuar

theorem ensures_catching
    {Q : Except String α → σ → Prop}
    (caught : String → σ → Prop)
    {t : Flow σ α}
    {handler : String → Flow σ α}
    (hFirst :
      Ensures c pre t
        (fun answer s =>
          match answer with
          | .ok a => Q (.ok a) s
          | .error message => caught message s))
    (hRest :
      ∀ message,
        Ensures c (caught message) (handler message) Q) :
    Ensures c pre (t.catching handler) Q := by
  intro start s hPre hGuar
  rw [upholds_catching]
  apply (hFirst start s hPre hGuar).mono
  rintro (message | a) start s ⟨hMid, hGuar⟩
  · exact hRest message start s hMid hGuar
  · exact ⟨hMid, hGuar⟩

theorem ensures_update
    {Q : Except String α → σ → Prop}
    {write : σ → σ}
    {answer : σ → α}
    (hLawful : c.Lawful)
    (hWrite :
      ∀ s, pre s → c.safe (write s) ∧ c.guar s (write s) ∧
        Q (.ok (answer s)) (write s)) :
    Ensures c pre (update write answer) Q := by
  intro start s hPre hGuar
  rcases hWrite s hPre with ⟨hSafe, hStep, hEnd⟩
  exact ⟨hSafe, hEnd, hLawful.trans _ _ _ hGuar hStep⟩

theorem ensures_ensuring
    {Q : Except String α → σ → Prop}
    (mid : Except String α → σ → Prop)
    {t : Flow σ α}
    {write : σ → σ}
    (hLawful : c.Lawful)
    (hCall : Ensures c pre t mid)
    (hWrite :
      ∀ answer s, mid answer s →
        c.safe (write s) ∧ c.guar s (write s) ∧
          Q answer (write s)) :
    Ensures c pre (t.ensuring write) Q := by
  intro start s hPre hGuar
  rw [upholds_ensuring]
  apply (hCall start s hPre hGuar).mono
  rintro answer start s ⟨hMid, hGuar⟩
  rcases hWrite answer s hMid with ⟨hSafe, hStep, hEnd⟩
  exact ⟨hSafe, hEnd, hLawful.trans _ _ _ hGuar hStep⟩

theorem ensures_waitFor
    {Q : Except String Unit → σ → Prop}
    {ready : σ → Bool}
    (hLawful : c.Lawful)
    (hReady :
      ∀ s s', pre s → c.rely s s' → ready s' = true →
        Q (.ok ()) s') :
    Ensures c pre (waitFor ready) Q := by
  intro start s hPre hGuar
  refine ⟨hGuar, ?_⟩
  intro s' hRely hTrue
  exact ⟨hReady s s' hPre hRely hTrue, hLawful.refl s'⟩

theorem ensures_ite
    {Q : Except String α → σ → Prop}
    {p : Prop}
    [Decidable p]
    {t u : Flow σ α}
    (hThen : p → Ensures c pre t Q)
    (hElse : ¬p → Ensures c pre u Q) :
    Ensures c pre (if p then t else u) Q := by
  by_cases hTest : p
  · rw [if_pos hTest]
    exact hThen hTest
  · rw [if_neg hTest]
    exact hElse hTest

/- A fact that does not depend on the state. -/
theorem ensures_of_fact
    {Q : Except String α → σ → Prop}
    {t : Flow σ α}
    {p : Prop}
    (hFact : ∀ s, pre s → p)
    (hCall : p → Ensures c pre t Q) :
    Ensures c pre t Q :=
  fun start s hPre hGuar =>
    hCall (hFact s hPre) start s hPre hGuar

theorem Ensures.weaken
    {Q Q' : Except String α → σ → Prop}
    {t : Flow σ α}
    (hCall : Ensures c pre t Q)
    (hPre : ∀ s, pre' s → pre s)
    (hEnd : ∀ answer s, Q answer s → Q' answer s) :
    Ensures c pre' t Q' := by
  intro start s hBefore hGuar
  apply (hCall start s (hPre s hBefore) hGuar).mono
  rintro answer start s ⟨hQ, hGuar⟩
  exact ⟨hEnd answer s hQ, hGuar⟩

theorem ensures_exists
    {ι : Type}
    {Q : Except String α → σ → Prop}
    {P : ι → σ → Prop}
    {t : Flow σ α}
    (hCall : ∀ x, Ensures c (P x) t Q) :
    Ensures c (fun s => ∃ x, P x s) t Q := by
  rintro start s ⟨x, hPre⟩ hGuar
  exact hCall x start s hPre hGuar

/- A call may start in fewer states. -/
theorem Ensures.within
    {Q : Except String α → σ → Prop}
    {t : Flow σ α}
    (hCall : Ensures c pre t Q)
    (hPre : ∀ s, pre' s → pre s) :
    Ensures c pre' t Q :=
  fun start s hBefore => hCall start s (hPre s hBefore)

/- A request takes effect between two waits. -/
theorem ensures_request
    {Q : Except String α → σ → Prop}
    (mid : α → σ → Prop)
    {write : σ → σ}
    {answer : σ → α}
    (hLawful : c.Lawful)
    (hBefore : ∀ s s', pre s → c.rely s s' → pre s')
    (hWrite :
      ∀ s, pre s → c.safe (write s) ∧ c.guar s (write s) ∧
        mid (answer s) (write s))
    (hAfter :
      ∀ a s s', mid a s → c.rely s s' → Q (.ok a) s') :
    Ensures c pre (request write answer) Q := by
  apply ensures_bind (fun _ => pre)
  · exact ensures_waitFor hLawful
      (fun s s' hPre hRely _ => hBefore s s' hPre hRely)
  intro _
  apply ensures_bind mid
  · exact ensures_update hLawful hWrite
  intro a
  apply ensures_bind (fun _ => Q (.ok a))
  · exact ensures_waitFor hLawful
      (fun s s' hMid hRely _ => hAfter a s s' hMid hRely)
  · intro _
    exact ensures_done (fun _ hEnd => hEnd)

/- A call that starts where it may. -/
theorem Ensures.upholds
    {Q : Except String α → σ → Prop}
    {t : Flow σ α}
    {s : σ}
    (hLawful : c.Lawful)
    (hCall : Ensures c pre t Q)
    (hPre : pre s)
    (hPost : ∀ answer s, Q answer s → c.post s) :
    t.Upholds c c.Ends s s := by
  apply (hCall s s hPre (hLawful.refl s)).mono
  rintro answer start s ⟨hEnd, hGuar⟩
  exact ⟨hGuar, hPost answer s hEnd⟩

end Flow

------------------------------------------------------------
-- Pools
------------------------------------------------------------

/- Calls in the order in which they were started. -/
structure Pool (σ α : Type) where
  state : σ
  flows : List (Flow σ α)

inductive PoolEvent (ε : Type) where
| start (call : ε)
| resume (index : Nat)
deriving DecidableEq, Repr

namespace Pool

variable {σ α ε : Type}

/- Start a call, or give a waiting call its next turn. -/
def step
    (flow : ε → Flow σ α)
    (p : Pool σ α) : PoolEvent ε → Pool σ α
| .start call =>
    let turn := (flow call).segment p.state
    { state := turn.1, flows := p.flows ++ [turn.2] }
| .resume index =>
    match p.flows[index]? with
    | some (.await ready rest) =>
        if ready p.state then
          let turn := rest.segment p.state
          { state := turn.1,
            flows := p.flows.set index turn.2 }
        else p
    | _ => p

/- The states that a step writes, one after the other. -/
def written
    (flow : ε → Flow σ α)
    (p : Pool σ α) : PoolEvent ε → List σ
| .start call => (flow call).written p.state
| .resume index =>
    match p.flows[index]? with
    | some (.await ready rest) =>
        if ready p.state then rest.written p.state else []
    | _ => []

/- Every call has ended. -/
def Settled
    (p : Pool σ α) : Prop :=
  ∀ t ∈ p.flows, t.settled = true

/- Every call is between two turns of its contract. -/
def Meets
    (c : Nat → Contract σ)
    (p : Pool σ α) : Prop :=
  ∀ (i : Nat) (t : Flow σ α),
    p.flows[i]? = some t → t.Parked (c i) p.state

/-
  Contracts that fit together: what the turns of one call do
  is what the others rely on.
-/
structure Fits
    (c : Nat → Contract σ) : Prop where
  refl : ∀ i a, (c i).rely a a
  trans : ∀ i a b d, (c i).rely a b → (c i).rely b d →
    (c i).rely a d
  post : ∀ i a b, (c i).rely a b → (c i).post a →
    (c i).post b
  relies : ∀ i j, i ≠ j → ∀ a b, (c i).guar a b →
    (c j).rely a b

/- A call starts where it upholds its contract. -/
def Admits
    (flow : ε → Flow σ α)
    (c : Nat → Contract σ)
    (p : Pool σ α) : PoolEvent ε → Prop
| .start call =>
    (flow call).Upholds (c p.flows.length)
      (c p.flows.length).Ends p.state p.state
| .resume _ => True

variable {flow : ε → Flow σ α} {c : Nat → Contract σ}

/- A turn of one call leaves the others where they were. -/
theorem Meets.turn
    {p : Pool σ α}
    {flows : List (Flow σ α)}
    {t : Flow σ α}
    {index : Nat}
    (hFits : Fits c)
    (hMeets : p.Meets c)
    (hUpholds :
      t.Upholds (c index) (c index).Ends p.state p.state)
    (hOthers :
      ∀ (i : Nat) (u : Flow σ α), flows[i]? = some u →
        (i = index ∧ u = (t.segment p.state).2) ∨
        (i ≠ index ∧ p.flows[i]? = some u)) :
    Meets c ⟨(t.segment p.state).1, flows⟩ := by
  have hTurn := Flow.segment_parked hUpholds
  intro i u hSome
  rcases hOthers i u hSome with ⟨rfl, rfl⟩ | ⟨hOther, hOld⟩
  · exact hTurn.2
  · apply (hMeets i u hOld).stable (hFits.trans i)
      (hFits.post i)
    exact hFits.relies index i (Ne.symm hOther) _ _ hTurn.1

/- A turn that is given to a call that waits, or to none. -/
theorem resume_cases
    (flow : ε → Flow σ α)
    (p : Pool σ α)
    (index : Nat) :
    (p.step flow (.resume index) = p ∧
      p.written flow (.resume index) = []) ∨
    (∃ ready rest,
      p.flows[index]? = some (.await ready rest) ∧
      ready p.state = true ∧
      p.step flow (.resume index) =
        ⟨(rest.segment p.state).1,
          p.flows.set index (rest.segment p.state).2⟩ ∧
      p.written flow (.resume index) =
        rest.written p.state) := by
  simp only [step, written]
  split
  · rename_i ready rest hFlow
    cases hReady : ready p.state with
    | false => exact Or.inl ⟨rfl, rfl⟩
    | true =>
        exact Or.inr ⟨ready, rest, hFlow, hReady, rfl, rfl⟩
  · exact Or.inl ⟨rfl, rfl⟩

/-
  One step keeps every contract. What it writes is safe, and
  what it changes was allowed to the call that took its turn.
-/
theorem step_meets
    {p : Pool σ α}
    {event : PoolEvent ε}
    (hFits : Fits c)
    (hMeets : p.Meets c)
    (hAdmits : p.Admits flow c event) :
    (p.step flow event).Meets c ∧
    (∀ x ∈ p.written flow event, ∃ i, (c i).safe x) ∧
    ((p.step flow event).state = p.state ∨
      ∃ i, (c i).guar p.state (p.step flow event).state) := by
  cases event with
  | start call =>
      refine ⟨?_, ?_, ?_⟩
      · apply hMeets.turn hFits hAdmits
        intro i u hSome
        rw [List.getElem?_append] at hSome
        split at hSome
        · rename_i hLt
          exact Or.inr ⟨Nat.ne_of_lt hLt, hSome⟩
        · rename_i hGe
          rcases List.getElem?_eq_some_iff.mp hSome with
            ⟨hZero, hEq⟩
          simp only [List.length_singleton] at hZero
          refine Or.inl ⟨by omega, ?_⟩
          simpa using hEq.symm
      · intro x hMem
        exact ⟨_, Flow.written_safe hAdmits x hMem⟩
      · exact Or.inr ⟨_, (Flow.segment_parked hAdmits).1⟩
  | resume index =>
      rcases resume_cases flow p index with
        ⟨hSame, hNone⟩ |
        ⟨ready, rest, hFlow, hReady, hStep, hWritten⟩
      · rw [hSame, hNone]
        exact ⟨hMeets, by simp, Or.inl rfl⟩
      · have hUpholds :=
          hMeets index _ hFlow p.state
            (hFits.refl index p.state) hReady
        rw [hStep, hWritten]
        refine ⟨?_, ?_, ?_⟩
        · apply hMeets.turn hFits hUpholds
          intro i u hSome
          rw [List.getElem?_set] at hSome
          split at hSome
          · rename_i hEq
            subst hEq
            split at hSome
            · exact Or.inl
                ⟨rfl, (Option.some.inj hSome).symm⟩
            · cases hSome
          · rename_i hNe
            exact Or.inr ⟨Ne.symm hNe, hSome⟩
        · intro x hMem
          exact ⟨index, Flow.written_safe hUpholds x hMem⟩
        · exact Or.inr
            ⟨index, (Flow.segment_parked hUpholds).1⟩

/- A call that has ended has kept its promise. -/
theorem Meets.post
    {p : Pool σ α}
    {i : Nat}
    {t : Flow σ α}
    (hMeets : p.Meets c)
    (hFlow : p.flows[i]? = some t)
    (hSettled : t.settled = true) :
    (c i).post p.state := by
  have hParked := hMeets i t hFlow
  cases t with
  | done a => exact hParked
  | fail message => exact hParked
  | act write rest => cases hSettled
  | await ready rest => cases hSettled

/- Calls are added and never removed. -/
theorem length_le_step
    (p : Pool σ α)
    (event : PoolEvent ε) :
    p.flows.length ≤ (p.step flow event).flows.length := by
  cases event with
  | start call => simp [step]
  | resume index =>
      rcases resume_cases flow p index with
        ⟨hSame, _⟩ | ⟨ready, rest, _, _, hStep, _⟩
      · have hLength :=
          congrArg (fun q => q.flows.length) hSame
        exact Nat.le_of_eq hLength.symm
      · rw [hStep]
        simp

end Pool

end ControlPlane
