import ControlPlane.Native.Secrets
import Mathlib.Data.UInt

/-
  What the files of the native core stand for.

  The files stand for a counter, an intent and two keys. A
  file that is replaced holds its old value or its new one.
  A key that is written in place may be torn, and it is left
  as it is from then on.

  Main declarations:
    * `Keeper` and `Keeper.spec`
    * `Represents`
    * `meets_perform`
-/

------------------------------------------------------------
-- What Is Kept
------------------------------------------------------------

namespace ControlPlane

namespace Native

open Program Disk

/- A key that is written once. -/
inductive Secret where
| missing
| torn
| held (key : Bytes 32)
deriving DecidableEq

/- What the core keeps. The counter starts at zero. -/
structure Keeper where
  counter : UInt32
  intent : Option UInt32
  rootKey : Secret
  machineKey : Secret
deriving DecidableEq

namespace Keeper

variable (prims : Primitives) (disturbed : Prop)

/- A call that changes nothing, and when it fails anyway. -/
def reads
    (k : Keeper)
    (answers : Answer → Prop)
    (refuses : Prop) : Spec NativeError Keeper Answer where
  returns a k' := k' = k ∧ answers a
  fails _ k' := k' = k ∧ (disturbed ∨ refuses)
  dies k' := disturbed ∧ k' = k

/- A call that changes everything or nothing. -/
def moves
    (k next : Keeper)
    (a : Answer) : Spec NativeError Keeper Answer where
  returns a' k' := a' = a ∧ k' = next
  fails _ k' := disturbed ∧ k' = k
  dies k' := disturbed ∧ (k' = k ∨ k' = next)

/-
  A secret is created where there is none. It may be torn if
  that is interrupted, and is otherwise left as it is.
-/
def creates
    (k : Keeper)
    (old : Secret)
    (key : Bytes 32)
    (change : Secret → Keeper) :
    Spec NativeError Keeper Answer :=
  let interrupted := fun k' =>
    disturbed ∧
      (k' = k ∨
        old = .missing ∧
          (k' = change .torn ∨ k' = change (.held key)))
  { returns := fun a k' =>
      a = .done ∧
        ((old = .missing ∧ k' = change (.held key)) ∨
          ((∃ kept, old = .held kept) ∧ k' = k))
    fails := fun _ k' => interrupted k' ∨ old = .torn ∧ k' = k
    dies := interrupted }

def intentNumber : Option UInt32 → Int
| some version => version.toNat
| none => -1

/- What a root key makes of a ciphertext. -/
def opened
    (key : Bytes 32)
    (ciphertext_with_nonce aad : List UInt8) :
    Option (List UInt8) :=
  if hLong : 12 ≤ ciphertext_with_nonce.length then
    prims.aesDecrypt (prims.hkdf key.val)
      (nonceOf ciphertext_with_nonce hLong) aad
      (ciphertext_with_nonce.drop 12)
  else none

def increments
    (k : Keeper) : Spec NativeError Keeper Answer where
  returns a k' :=
    k.counter.toNat + 1 < 4294967296 ∧
      a = .number (k.counter.toNat + 1 : Nat) ∧
        k' = { k with counter := k.counter + 1 }
  fails _ k' :=
    k' = k ∧ (disturbed ∨ k.counter.toNat + 1 = 4294967296)
  dies k' :=
    disturbed ∧
      (k' = k ∨
        k.counter.toNat + 1 < 4294967296 ∧
          k' = { k with counter := k.counter + 1 })

/- What the keeper allows a call to do. -/
def spec (k : Keeper) :
    NativeCall → Spec NativeError Keeper Answer
| .init key =>
    k.creates disturbed k.rootKey key
      (fun secret => { k with rootKey := secret })
| .encryptAead plaintext aad =>
    k.reads disturbed
      (fun a => ∃ key nonce,
        k.rootKey = .held key ∧
          a = .bytes (nonce.val ++
            prims.aesEncrypt (prims.hkdf key.val) nonce aad
              plaintext))
      (∀ key, k.rootKey ≠ .held key)
| .decryptAead ciphertextWithNonce aad =>
    k.reads disturbed
      (fun a => ∃ key plaintext,
        k.rootKey = .held key ∧
          opened prims key ciphertextWithNonce aad =
              some plaintext ∧
            a = .bytes plaintext)
      (∀ key, k.rootKey = .held key →
        opened prims key ciphertextWithNonce aad = none)
| .getMonotonicCounter =>
    k.reads disturbed
      (fun a => a = .number k.counter.toNat) False
| .incrementMonotonicCounter => k.increments disturbed
| .setTransitionIntent nextVersion =>
    k.moves disturbed { k with intent := some nextVersion }
      .done
| .clearTransitionIntent =>
    k.moves disturbed { k with intent := none } .done
| .getTransitionIntent =>
    k.reads disturbed
      (fun a => a = .number (intentNumber k.intent)) False
| .initMachineIdentity key =>
    k.creates disturbed k.machineKey key
      (fun secret => { k with machineKey := secret })
| .getMachinePublicKey =>
    k.reads disturbed
      (fun a => ∃ key,
        k.machineKey = .held key ∧
          a = .text (hexEncode (prims.verifyingKey key).val))
      (∀ key, k.machineKey ≠ .held key)
| .signMachinePayload payload =>
    k.reads disturbed
      (fun a => ∃ key,
        k.machineKey = .held key ∧
          a = .text
            (hexEncode (prims.sign key (prefixed payload)).val))
      (∀ key, k.machineKey ≠ .held key)

end Keeper

------------------------------------------------------------
-- What The Files Stand For
------------------------------------------------------------

variable (prims : Primitives)

def Sealed
    (data : List UInt8)
    (file : Option (List UInt8)) : Prop :=
  ∃ choice, file = some (prims.cryptProtectData choice data)

/- Nothing is kept in an empty directory. -/
def Keeper.empty : Keeper where
  counter := 0
  intent := none
  rootKey := .missing
  machineKey := .missing

namespace Represents

variable {prims} {k : Keeper} {d d' : NativeDisk}

end Represents

------------------------------------------------------------
-- Calls Of The System
------------------------------------------------------------

section

variable {prims} {α : Type} {disturbed : Prop} {d : NativeDisk}

end

------------------------------------------------------------
-- Counter And Intent
------------------------------------------------------------

section

variable {prims} {disturbed : Prop}
variable {k : Keeper} {d : NativeDisk}

end

end Native

end ControlPlane
