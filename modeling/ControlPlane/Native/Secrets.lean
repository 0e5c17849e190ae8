import ControlPlane.Data.Files

/-
  The secrets that the native core keeps in files.

  The root key, the machine identity, the monotonic counter
  and the transition intent are each kept in a file of their
  own, sealed by the operating system. The counter and the
  intent are replaced by a rename. The two keys are written
  in place, once, when there is no file.

  Main declarations:
    * `Primitives`
    * `initialize_root_key` and `get_root_key`
    * `increment_monotonic_counter`
    * `set_transition_intent` and `get_transition_intent`
    * `init_machine_identity` and `sign_machine_payload`
    * `encrypt` and `decrypt`
    * `NativeCall` and `perform`
-/

------------------------------------------------------------
-- Primitives
------------------------------------------------------------

namespace ControlPlane

namespace Native

/- Byte strings of a fixed length. -/
abbrev Bytes (length : Nat) : Type :=
  { bytes : List UInt8 // bytes.length = length }

/-
  What is called of the operating system and of libraries.
  What is sealed for the user is opened as it was, and no
  part of it is opened. The numbers stand for what is drawn
  at random.
-/
structure Primitives where
  cryptProtectData : Nat → List UInt8 → List UInt8
  cryptUnprotectData : List UInt8 → Option (List UInt8)
  hkdf : List UInt8 → List UInt8
  nonce : Nat → Bytes 12
  aesEncrypt :
    List UInt8 → Bytes 12 → List UInt8 → List UInt8 →
      List UInt8
  aesDecrypt :
    List UInt8 → Bytes 12 → List UInt8 → List UInt8 →
      Option (List UInt8)
  verifyingKey : Bytes 32 → Bytes 32
  sign : Bytes 32 → List UInt8 → Bytes 64
  verify : Bytes 32 → List UInt8 → Bytes 64 → Bool
  unprotect_protect :
    ∀ choice data,
      cryptUnprotectData (cryptProtectData choice data) =
        some data
  unprotect_torn :
    ∀ choice data count,
      count < (cryptProtectData choice data).length →
        cryptUnprotectData
            ((cryptProtectData choice data).take count) =
          none
  decrypt_encrypt :
    ∀ key nonce aad plaintext,
      aesDecrypt key nonce aad
          (aesEncrypt key nonce aad plaintext) =
        some plaintext
  verify_sign :
    ∀ key message,
      verify (verifyingKey key) message (sign key message) =
        true

/- The status and the reason of an error. -/
inductive Status where
| genericFailure
| invalidArg
deriving DecidableEq, Repr

structure NativeError where
  status : Status
  reason : String
deriving DecidableEq, Repr

abbrev NativeDisk : Type := Disk String UInt8

abbrev NativeProgram (α : Type) : Type :=
  Program NativeError NativeDisk α

def failure (reason : String) : NativeError where
  status := .genericFailure
  reason := reason

def invalid (reason : String) : NativeError where
  status := .invalidArg
  reason := reason

/- `map_err` with the error of the system after a text. -/
def failedTo (what reason : String) : NativeError :=
  failure (what ++ ": " ++ reason)

------------------------------------------------------------
-- Sealed Files
------------------------------------------------------------

variable (prims : Primitives)

def keyFile : String := "root_key.bin"

def counterFile : String := "version_counter.bin"

def intentFile : String := "intent.bin"

def machineIdFile : String := "machine_identity.bin"

/- `with_extension("bin.tmp")` -/
def temporary (path : String) : String := path ++ ".tmp"

/- The directory of the configuration, and a file in it. -/
def configPath (file : String) : NativeProgram String :=
  .call fun fate d =>
    match fate with
    | .done _ => (.returned file, d)
    | .fails _ _ =>
        (.failed (failure "Could not find config dir"), d)
    | .dies _ => (.died, d)
    | .misled => (.returned file, d)

def protect_data
    (data : List UInt8) : NativeProgram (List UInt8) :=
  .call fun fate d =>
    match fate with
    | .done choice =>
        (.returned (prims.cryptProtectData choice data), d)
    | .fails _ _ =>
        (.failed (failure "DPAPI CryptProtectData failed"), d)
    | .dies _ => (.died, d)
    | .misled => (.returned (prims.cryptProtectData 0 data), d)

def unprotected
    (data : List UInt8) : Ending NativeError (List UInt8) :=
  match prims.cryptUnprotectData data with
  | some plain => .returned plain
  | none => .failed (failure "DPAPI CryptUnprotectData failed")

def unprotect_data
    (data : List UInt8) : NativeProgram (List UInt8) :=
  .call fun fate d =>
    match fate with
    | .done _ => (unprotected prims data, d)
    | .fails _ _ =>
        (.failed (failure "DPAPI CryptUnprotectData failed"), d)
    | .dies _ => (.died, d)
    | .misled => (unprotected prims data, d)

/-
  A key is written where there is no file. Where there is
  one, it is only looked at.
-/
def createOnce
    {α : Type}
    (file what : String)
    (existing : NativeProgram α)
    (key : Bytes 32) : NativeProgram Unit := do
  let path ← configPath file
  if !(← Disk.pathExists path) then
    let encrypted_key ← protect_data prims key.val
    Disk.write path encrypted_key (failedTo what)
  else
    let _ ← existing
    return ()

------------------------------------------------------------
-- The Root Key
------------------------------------------------------------

def get_root_key : NativeProgram (List UInt8) := do
  let path ← configPath keyFile
  let encrypted_key ←
    Disk.read path (failedTo "Failed to read root key")
  unprotect_data prims encrypted_key

/- The key is what the generator fills the buffer with. -/
def initialize_root_key
    (key : Bytes 32) : NativeProgram Unit :=
  createOnce prims keyFile "Failed to write root key"
    (get_root_key prims) key

------------------------------------------------------------
-- The Monotonic Counter
------------------------------------------------------------

/- `to_le_bytes` and `from_le_bytes` -/
def toLeBytes (n : UInt32) : List UInt8 :=
  [UInt8.ofNat n.toNat, UInt8.ofNat (n.toNat / 256),
    UInt8.ofNat (n.toNat / 256 / 256),
    UInt8.ofNat (n.toNat / 256 / 256 / 256)]

def fromLeBytes (bytes : List UInt8) : UInt32 :=
  UInt32.ofNat
    (bytes.foldr (fun byte rest => byte.toNat + 256 * rest) 0)

def read_monotonic_counter_unlocked : NativeProgram UInt32 := do
  let path ← configPath counterFile
  if !(← Disk.pathExists path) then
    return 0
  else
    let encrypted_data ←
      Disk.read path (failedTo "Failed to read counter")
    let decrypted ← unprotect_data prims encrypted_data
    if decrypted.length ≠ 4 then
      return 0
    else
      return fromLeBytes decrypted

def get_monotonic_counter : NativeProgram UInt32 :=
  read_monotonic_counter_unlocked prims

def checkedSucc (current : UInt32) : NativeProgram UInt32 :=
  if current.toNat + 1 < 4294967296 then return current + 1
  else .throw (failure "Monotonic counter overflow")

def increment_monotonic_counter : NativeProgram UInt32 := do
  let current ← read_monotonic_counter_unlocked prims
  let next ← checkedSucc current
  let path ← configPath counterFile
  let encrypted_data ← protect_data prims (toLeBytes next)
  Disk.replace (temporary path) path encrypted_data
    (failedTo "Failed to write temp counter")
    (failedTo "Failed to commit counter atomically")
  return next

------------------------------------------------------------
-- The Transition Intent
------------------------------------------------------------

def set_transition_intent
    (next_version : UInt32) : NativeProgram Unit := do
  let path ← configPath intentFile
  let encrypted_data ←
    protect_data prims (toLeBytes next_version)
  Disk.replace (temporary path) path encrypted_data
    (failedTo "Failed to write temp intent")
    (failedTo "Failed to commit intent atomically")

def clear_transition_intent : NativeProgram Unit := do
  let path ← configPath intentFile
  if ← Disk.pathExists path then
    Disk.remove path (failedTo "Failed to clear intent")
  else
    return ()

def get_transition_intent : NativeProgram Int := do
  let path ← configPath intentFile
  if !(← Disk.pathExists path) then
    return -1
  else
    let encrypted_data ←
      Disk.read path (failedTo "Failed to read intent")
    let decrypted ← unprotect_data prims encrypted_data
    if decrypted.length ≠ 4 then
      .throw (failure "Corrupted intent length")
    else
      return ((fromLeBytes decrypted).toNat : Int)

------------------------------------------------------------
-- The Machine Identity
------------------------------------------------------------

def bytesOfLength
    (length : Nat)
    (reason : String)
    (bytes : List UInt8) : NativeProgram (Bytes length) :=
  if hLength : bytes.length = length then
    return ⟨bytes, hLength⟩
  else .throw (failure reason)

def get_machine_private_key : NativeProgram (Bytes 32) := do
  let path ← configPath machineIdFile
  if !(← Disk.pathExists path) then
    .throw (failure "Machine identity not initialized")
  else
    let encrypted_data ←
      Disk.read path
        (failedTo "Failed to read machine identity")
    let decrypted ← unprotect_data prims encrypted_data
    bytesOfLength 32 "Corrupted machine identity length"
      decrypted

/- The key is the one that is generated. -/
def init_machine_identity
    (signing_key : Bytes 32) : NativeProgram Unit :=
  createOnce prims machineIdFile
    "Failed to write machine identity"
    (get_machine_private_key prims) signing_key

/- `hex::encode` -/
def hexDigit (n : Nat) : Char := "0123456789abcdef".toList.getD n '0'

def hexEncode (bytes : List UInt8) : String :=
  String.ofList
    (bytes.flatMap fun byte =>
      [hexDigit (byte.toNat / 16), hexDigit (byte.toNat % 16)])

def get_machine_public_key : NativeProgram String := do
  let signing_key ← get_machine_private_key prims
  return hexEncode (prims.verifyingKey signing_key).val

/- What is signed has the name of the domain before it. -/
def prefixed (payload : List UInt8) : List UInt8 :=
  "CONTROL_PLANE_V1".toUTF8.data.toList ++ payload

def sign_machine_payload
    (payload : List UInt8) : NativeProgram String := do
  let signing_key ← get_machine_private_key prims
  return hexEncode
    (prims.sign signing_key (prefixed payload)).val

------------------------------------------------------------
-- Encryption
------------------------------------------------------------

def derive_db_key : NativeProgram (List UInt8) := do
  let root_key ← get_root_key prims
  return prims.hkdf root_key

/- A generator that fails ends the process. -/
def generate_nonce : NativeProgram (Bytes 12) :=
  .call fun fate d =>
    match fate with
    | .done choice => (.returned (prims.nonce choice), d)
    | .fails _ _ => (.died, d)
    | .dies _ => (.died, d)
    | .misled => (.returned (prims.nonce 0), d)

def encrypt
    (plaintext aad : List UInt8) :
    NativeProgram (List UInt8) := do
  let key ← derive_db_key prims
  let nonce ← generate_nonce prims
  return nonce.val ++ prims.aesEncrypt key nonce aad plaintext

/- The first bytes of a ciphertext that is long enough. -/
def nonceOf
    (ciphertext_with_nonce : List UInt8)
    (hLong : 12 ≤ ciphertext_with_nonce.length) : Bytes 12 :=
  ⟨ciphertext_with_nonce.take 12,
    List.length_take_of_le hLong⟩

def decrypt
    (ciphertext_with_nonce aad : List UInt8) :
    NativeProgram (List UInt8) :=
  if hLong : 12 ≤ ciphertext_with_nonce.length then do
    let key ← derive_db_key prims
    match
      prims.aesDecrypt key (nonceOf ciphertext_with_nonce hLong)
        aad (ciphertext_with_nonce.drop 12) with
    | some plaintext => return plaintext
    | none =>
        .throw (failedTo "Decryption failed" "aead::Error")
  else .throw (invalid "Ciphertext too short")

/- What the core is asked, with the keys that it generates. -/
inductive NativeCall where
| init (key : Bytes 32)
| encryptAead (plaintext aad : List UInt8)
| decryptAead (ciphertextWithNonce aad : List UInt8)
| getMonotonicCounter
| incrementMonotonicCounter
| setTransitionIntent (nextVersion : UInt32)
| clearTransitionIntent
| getTransitionIntent
| initMachineIdentity (key : Bytes 32)
| getMachinePublicKey
| signMachinePayload (payload : List UInt8)
deriving DecidableEq

inductive Answer where
| done
| bytes (value : List UInt8)
| number (value : Int)
| text (value : String)
deriving DecidableEq

def answering
    {α : Type}
    (answer : α → Answer)
    (program : NativeProgram α) : NativeProgram Answer := do
  let value ← program
  return answer value

def perform : NativeCall → NativeProgram Answer
| .init key =>
    answering (fun _ => .done) (initialize_root_key prims key)
| .encryptAead plaintext aad =>
    answering .bytes (encrypt prims plaintext aad)
| .decryptAead ciphertextWithNonce aad =>
    answering .bytes (decrypt prims ciphertextWithNonce aad)
| .getMonotonicCounter =>
    answering (fun n => .number n.toNat)
      (get_monotonic_counter prims)
| .incrementMonotonicCounter =>
    answering (fun n => .number n.toNat)
      (increment_monotonic_counter prims)
| .setTransitionIntent nextVersion =>
    answering (fun _ => .done)
      (set_transition_intent prims nextVersion)
| .clearTransitionIntent =>
    answering (fun _ => .done) clear_transition_intent
| .getTransitionIntent =>
    answering .number (get_transition_intent prims)
| .initMachineIdentity key =>
    answering (fun _ => .done) (init_machine_identity prims key)
| .getMachinePublicKey =>
    answering .text (get_machine_public_key prims)
| .signMachinePayload payload =>
    answering .text (sign_machine_payload prims payload)

/- A call with the fates of what it calls. -/
structure NativeEvent where
  call : NativeCall
  fates : List Fate

def answer
    (d : NativeDisk)
    (event : NativeEvent) : Ending NativeError Answer :=
  (perform prims event.call).ending event.fates d

/- A process that dies is started again, with the files. -/
def step
    (d : NativeDisk)
    (event : NativeEvent) : NativeDisk :=
  (perform prims event.call).state event.fates d

end Native

end ControlPlane
