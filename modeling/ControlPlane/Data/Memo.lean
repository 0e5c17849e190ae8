import Mathlib.Order.Basic

/-
  Results that are kept under a count of the changes.

  A system counts the changes of what a result is computed
  from. A result that was kept under a count may be returned
  again under the same count, as long as the counts have
  never gone back and nothing has changed without being
  counted.

  Main declarations:
    * `Advances`
    * `Upholds`
    * `Upholds.of_advances`
-/

------------------------------------------------------------
-- Counted Changes
------------------------------------------------------------

namespace ControlPlane

namespace Memo

variable {σ κ ν : Type} [PartialOrder κ]
variable {count : σ → κ} {view : σ → ν}

/-
  No count goes back, and what is looked at changes only
  together with a count.
-/
structure Advances
    (count : σ → κ)
    (view : σ → ν)
    (s t : σ) : Prop where
  le : count s ≤ count t
  same : count s = count t → view t = view s

theorem Advances.of_view
    {s t : σ}
    (hLe : count s ≤ count t)
    (hView : view t = view s) :
    Advances count view s t :=
  ⟨hLe, fun _ => hView⟩

/- Where something is counted anything may change. -/
theorem Advances.of_lt
    {s t : σ}
    (hLt : count s < count t) :
    Advances count view s t :=
  ⟨le_of_lt hLt, fun hSame => absurd hSame (ne_of_lt hLt)⟩

/-
  A result of a view that was kept under a count can be
  returned as long as the count is the same.
-/
structure Upholds
    (count : σ → κ)
    (view : σ → ν)
    (s : σ)
    (kept : κ)
    (seen : ν) : Prop where
  le : kept ≤ count s
  same : kept = count s → view s = seen

theorem Upholds.now
    (count : σ → κ)
    (view : σ → ν)
    (s : σ) :
    Upholds count view s (count s) (view s) :=
  ⟨le_rfl, fun _ => rfl⟩

theorem Upholds.of_advances
    {s t : σ}
    {kept : κ}
    {seen : ν}
    (hUpholds : Upholds count view s kept seen)
    (hAdvances : Advances count view s t) :
    Upholds count view t kept seen := by
  refine ⟨le_trans hUpholds.le hAdvances.le, ?_⟩
  intro hKept
  have hBack : count t ≤ count s := hKept ▸ hUpholds.le
  have hSame : count s = count t :=
    le_antisymm hAdvances.le hBack
  rw [hAdvances.same hSame]
  exact hUpholds.same (hKept.trans hSame.symm)

end Memo

end ControlPlane
