import ControlPlane.Authority.CanonicalSerializer
import ControlPlane.Data.OrderedMap
import Mathlib.Algebra.Order.Group.Abs
import Mathlib.Algebra.Order.Ring.Rat

/-
  The envelopes that the backend sends.

  An envelope is checked for its shape, its time and its
  nonce before its signature. The nonce is consumed before
  the signature has been looked at.

  Main declarations:
    * `validateEnvelope`
    * `unexpiredNonces`
    * `rejected_consumes_nothing_iff`
-/

------------------------------------------------------------
-- Calls
------------------------------------------------------------

namespace ControlPlane

namespace EnvelopeValidator

open JsonTree
open CanonicalSerializer

variable {ν : Type}

/- The keys of a `Map`: an object is the key that it is. -/
inductive NonceKey (ν : Type) where
| null
| boolean (value : Bool)
| number (value : ν)
| text (value : Units)
| reference (id : Nat)
deriving DecidableEq

/- The pinned public keys. An unset one is empty. -/
structure PinnedKeys where
  v2 : Units
  v1 : Units

/-
  One call: the envelope, which object its nonce is if it is
  one, the clock and the environment.
-/
structure Call (ν : Type) where
  envelope : JsonTree ν
  nonceId : Nat
  now : Nat
  pinned : PinnedKeys

/- `new Date(text).getTime()` and the native verifier. -/
structure Host where
  parseDate : Units → Option Int
  verifyEd25519 : Units → ByteArray → Units → Bool

inductive Verdict where
| accepted
| rejected
| thrown
deriving DecidableEq

/- The consumed nonces with the times that they expire at. -/
abbrev Nonces (ν : Type) := OrderedMap (NonceKey ν) Nat

------------------------------------------------------------
-- Checks
------------------------------------------------------------

def isVersionTwo
    (N : Numbers ν)
    (envelope : JsonTree ν) : Bool :=
  match coalesce (envelope.field? (ascii "version"))
      (envelope.field? (ascii "v")) with
  | some (.number version) => decide (N.value version = 2)
  | _ => false

def signaturesOf (envelope : JsonTree ν) : JsonTree ν :=
  (envelope.field? (ascii "signatures")).getD .null

/- An object of version 2 with a payload and signatures. -/
def isWellShaped
    (N : Numbers ν)
    (envelope : JsonTree ν) : Bool :=
  envelope.isObject && isVersionTwo N envelope &&
    (envelope.field? (ascii "payload")).isSome &&
    (signaturesOf envelope).isObject

/-
  The time of a timestamp, which is missing where it is not a
  number. A conversion to a date may throw.
-/
def timeOf
    (N : Numbers ν)
    (host : Host)
    (timestamp : JsonTree ν) : Option (Option Rat) :=
  match timestamp with
  | .number value => some (some (N.value value))
  | .null => some (some 0)
  | .boolean true => some (some 1)
  | .boolean false => some (some 0)
  | timestamp =>
      (N.toText timestamp).map
        (fun text =>
          (host.parseDate text).map (fun time => (time : Rat)))

inductive Timing where
| timely
| stale
| throws
deriving DecidableEq

/- A timestamp is at most a minute off the clock. -/
def timing
    (N : Numbers ν)
    (host : Host)
    (call : Call ν) : Timing :=
  match call.envelope.field? (ascii "timestamp") with
  | none => .stale
  | some timestamp =>
      if N.truthy timestamp then
        match timeOf N host timestamp with
        | none => .throws
        | some none => .stale
        | some (some time) =>
            if |(call.now : Rat) - time| > 60000 then .stale
            else .timely
      else .stale

/- What a nonce is remembered as. An empty one is not. -/
def nonceKey?
    (N : Numbers ν)
    (call : Call ν) : Option (NonceKey ν) :=
  match call.envelope.field? (ascii "nonce") with
  | none => none
  | some nonce =>
      if N.truthy nonce then
        match nonce with
        | .null => some .null
        | .boolean value => some (.boolean value)
        | .number value => some (.number value)
        | .text value => some (.text value)
        | .array _ => some (.reference call.nonceId)
        | .object _ => some (.reference call.nonceId)
      else none

/- The first of the fields that is not empty. -/
def firstTruthy
    (N : Numbers ν)
    (value : JsonTree ν) : List Units → Option (JsonTree ν)
| [] => none
| name :: names =>
    match value.field? name with
    | none => firstTruthy N value names
    | some found =>
        if N.truthy found then some found
        else firstTruthy N value names

/- The key to verify with, and the signature to verify. -/
def selectSignature
    (N : Numbers ν)
    (call : Call ν) : Option (Units × JsonTree ν) :=
  let sigs := signaturesOf call.envelope
  let second := firstTruthy N sigs [ascii "2", ascii "v2"]
  let any :=
    firstTruthy N sigs
      [ascii "1", ascii "v1", ascii "2", ascii "v2"]
  if call.pinned.v2 ≠ [] ∧ second.isSome then
    second.map (fun signature => (call.pinned.v2, signature))
  else if call.pinned.v1 ≠ [] ∧ any.isSome then
    any.map (fun signature => (call.pinned.v1, signature))
  else none

def isVerified
    (N : Numbers ν)
    (host : Host)
    (call : Call ν) : Bool :=
  match selectSignature N call with
  | some (pubKeyHex, .text signature) =>
      match serializeBackendResponse N call.envelope with
      | some canonicalBuffer =>
          host.verifyEd25519 pubKeyHex canonicalBuffer signature
      | none => false
  | _ => false

------------------------------------------------------------
-- Validation
------------------------------------------------------------

/- Expired nonces are deleted once there are many. -/
def cleanupNonces
    [DecidableEq ν]
    (consumed : Nonces ν)
    (now : Nat) : Nonces ν :=
  if consumed.size > 2000 then
    consumed.filter (fun _ expiresAt => !decide (expiresAt ≤ now))
  else consumed

def isConsumed
    [DecidableEq ν]
    (consumed : Nonces ν)
    (key : NonceKey ν)
    (now : Nat) : Bool :=
  match consumed.get? key with
  | some expiresAt => decide (expiresAt > now)
  | none => false

def signatureVerdict
    (N : Numbers ν)
    (host : Host)
    (call : Call ν) : Verdict :=
  if isVerified N host call then .accepted else .rejected

def validateEnvelope
    [DecidableEq ν]
    (N : Numbers ν)
    (host : Host)
    (consumed : Nonces ν)
    (call : Call ν) : Nonces ν × Verdict :=
  if !isWellShaped N call.envelope then (consumed, .rejected)
  else
    match timing N host call with
    | .throws => (consumed, .thrown)
    | .stale => (consumed, .rejected)
    | .timely =>
        match nonceKey? N call with
        | none => (consumed, signatureVerdict N host call)
        | some key =>
            let swept := cleanupNonces consumed call.now
            if isConsumed swept key call.now then
              (swept, .rejected)
            else
              (swept.set key (call.now + 300000),
                signatureVerdict N host call)

/- The nonces that would be rejected as replays. -/
def unexpiredNonces
    [DecidableEq ν]
    (consumed : Nonces ν)
    (now : Nat) : Set (NonceKey ν) :=
  fun key =>
    ∃ expiresAt,
      consumed.get? key = some expiresAt ∧ now < expiresAt

------------------------------------------------------------
-- What A Call Does
------------------------------------------------------------

theorem timeOf_canonicalize
    (N : Numbers ν)
    (host : Host)
    (value : JsonTree ν) :
    timeOf N host (canonicalize value) =
      timeOf N host value := by
  have hText := toText_canonicalize N value
  cases value with
  | array items =>
      rw [canonicalize_array] at hText ⊢
      exact congrArg (Option.map _) hText
  | object members =>
      rw [canonicalize_object] at hText ⊢
      exact congrArg (Option.map _) hText
  | null => rfl
  | boolean value => rfl
  | number value => rfl
  | text value => rfl

theorem time_of_timely
    {N : Numbers ν}
    {host : Host}
    {call : Call ν}
    (hTimely : timing N host call = .timely) :
    ∃ timestamp time,
      call.envelope.field? (ascii "timestamp") =
        some timestamp ∧
      timeOf N host timestamp = some (some time) ∧
      |(call.now : Rat) - time| ≤ 60000 := by
  unfold timing at hTimely
  cases hField :
      call.envelope.field? (ascii "timestamp") with
  | none =>
      rw [hField] at hTimely
      cases hTimely
  | some timestamp =>
      rw [hField] at hTimely
      dsimp only at hTimely
      cases hTruthy : N.truthy timestamp with
      | false =>
          rw [hTruthy] at hTimely
          cases hTimely
      | true =>
          rw [hTruthy, if_pos rfl] at hTimely
          cases hTime : timeOf N host timestamp with
          | none =>
              rw [hTime] at hTimely
              cases hTimely
          | some found =>
              rw [hTime] at hTimely
              cases found with
              | none => cases hTimely
              | some time =>
                  refine ⟨timestamp, time, rfl, hTime, ?_⟩
                  by_contra hFar
                  dsimp only at hTimely
                  rw [if_pos (not_le.mp hFar)] at hTimely
                  cases hTimely

theorem signatureVerdict_rejected_iff
    (N : Numbers ν)
    (host : Host)
    (call : Call ν) :
    signatureVerdict N host call = .rejected ↔
      isVerified N host call = false := by
  unfold signatureVerdict
  cases isVerified N host call with
  | true => exact iff_of_false nofun nofun
  | false => exact ⟨fun _ => rfl, fun _ => rfl⟩

variable [DecidableEq ν]

theorem get?_cleanupNonces
    {consumed : Nonces ν}
    {now : Nat}
    {key : NonceKey ν}
    {expiresAt : Nat}
    (hLive : now < expiresAt) :
    (cleanupNonces consumed now).get? key = some expiresAt ↔
      consumed.get? key = some expiresAt := by
  unfold cleanupNonces
  by_cases hMany : consumed.size > 2000
  · rw [if_pos hMany, OrderedMap.get?_filter_eq_some_iff,
      Bool.not_eq_true', decide_eq_false_iff_not]
    exact and_iff_left (not_le.mpr hLive)
  · rw [if_neg hMany]

theorem isConsumed_iff
    {consumed : Nonces ν}
    {key : NonceKey ν}
    {now : Nat} :
    isConsumed consumed key now = true ↔
      key ∈ unexpiredNonces consumed now := by
  change _ ↔ ∃ expiresAt, _ ∧ _
  unfold isConsumed
  cases consumed.get? key with
  | none =>
      constructor
      · intro hNone
        cases hNone
      · rintro ⟨_, hNone, _⟩
        cases hNone
  | some expiresAt =>
      dsimp only
      rw [decide_eq_true_eq]
      constructor
      · intro hLive
        exact ⟨expiresAt, rfl, hLive⟩
      · rintro ⟨_, hSame, hLive⟩
        cases hSame
        exact hLive

theorem unexpiredNonces_cleanup
    (consumed : Nonces ν)
    (now : Nat) :
    unexpiredNonces (cleanupNonces consumed now) now =
      unexpiredNonces consumed now := by
  funext key
  refine propext (exists_congr ?_)
  intro expiresAt
  exact and_congr_left get?_cleanupNonces

/- A call that reaches the nonce of its envelope. -/
def Reaches
    (N : Numbers ν)
    (host : Host)
    (call : Call ν)
    (key : NonceKey ν) : Prop :=
  isWellShaped N call.envelope = true ∧
    timing N host call = .timely ∧
    nonceKey? N call = some key

/- The map is swept and one nonce set, or it is as it was. -/
theorem validateEnvelope_cases
    (N : Numbers ν)
    (host : Host)
    (consumed : Nonces ν)
    (call : Call ν) :
    (∃ key,
      Reaches N host call key ∧
      (key ∈ unexpiredNonces consumed call.now ∧
          validateEnvelope N host consumed call =
            (cleanupNonces consumed call.now, .rejected) ∨
        key ∉ unexpiredNonces consumed call.now ∧
          validateEnvelope N host consumed call =
            ((cleanupNonces consumed call.now).set key
                (call.now + 300000),
              signatureVerdict N host call))) ∨
    (∀ key, ¬ Reaches N host call key) ∧
      (validateEnvelope N host consumed call).1 = consumed := by
  unfold validateEnvelope Reaches
  cases hShape : isWellShaped N call.envelope with
  | false =>
      refine .inr ⟨?_, rfl⟩
      rintro key ⟨hNone, _⟩
      cases hNone
  | true =>
      cases hTiming : timing N host call with
      | stale =>
          refine .inr ⟨?_, rfl⟩
          rintro key ⟨_, hNone, _⟩
          cases hNone
      | throws =>
          refine .inr ⟨?_, rfl⟩
          rintro key ⟨_, hNone, _⟩
          cases hNone
      | timely =>
          cases hKey : nonceKey? N call with
          | none =>
              refine .inr ⟨?_, rfl⟩
              rintro key ⟨_, _, hNone⟩
              cases hNone
          | some key =>
              refine .inl ⟨key, ⟨rfl, rfl, rfl⟩, ?_⟩
              rw [← unexpiredNonces_cleanup, ← isConsumed_iff]
              dsimp only
              cases isConsumed (cleanupNonces consumed call.now)
                key call.now with
              | true => exact .inl ⟨rfl, rfl⟩
              | false =>
                  exact .inr ⟨Bool.false_ne_true, rfl⟩

theorem mem_unexpiredNonces_set
    {consumed : Nonces ν}
    {now expiresAt : Nat}
    {key : NonceKey ν}
    (hLive : now < expiresAt) :
    key ∈ unexpiredNonces (consumed.set key expiresAt) now :=
  ⟨expiresAt, OrderedMap.get?_set_self _ _ _, hLive⟩

------------------------------------------------------------
-- Rejected Envelopes
------------------------------------------------------------

/-
  A rejected envelope consumes a nonce exactly when all but
  its signature is in order.
-/
theorem rejected_consumes_nothing_iff
    (N : Numbers ν)
    (host : Host)
    (consumed : Nonces ν)
    (call : Call ν) :
    ((validateEnvelope N host consumed call).2 = .rejected →
        unexpiredNonces
            (validateEnvelope N host consumed call).1
            call.now =
          unexpiredNonces consumed call.now) ↔
      ¬ ∃ key,
          Reaches N host call key ∧
          key ∉ unexpiredNonces consumed call.now ∧
          isVerified N host call = false := by
  rcases validateEnvelope_cases N host consumed call with
    ⟨key, hReaches, ⟨hReplay, hCall⟩ | ⟨hFresh, hCall⟩⟩ |
      ⟨hNever, hSame⟩
  · rw [hCall]
    refine iff_of_true
      (fun _ => unexpiredNonces_cleanup consumed call.now) ?_
    rintro ⟨other, hOther, hFresh, _⟩
    cases hReaches.2.2.symm.trans hOther.2.2
    exact hFresh hReplay
  · rw [hCall, ← signatureVerdict_rejected_iff]
    constructor
    · rintro hKept ⟨_, _, _, hRejected⟩
      have hSet :
          key ∈ unexpiredNonces
            ((cleanupNonces consumed call.now).set key
              (call.now + 300000)) call.now :=
        mem_unexpiredNonces_set (by omega)
      rw [hKept hRejected] at hSet
      exact hFresh hSet
    · intro hVerified hRejected
      exact absurd ⟨key, hReaches, hFresh, hRejected⟩ hVerified
  · refine iff_of_true (fun _ => by rw [hSame]) ?_
    rintro ⟨key, hReaches, _⟩
    exact hNever key hReaches

/- A message of the time 5 with one signature. -/
def message
    (nonce signature : JsonTree (Fin 10)) : JsonTree (Fin 10) :=
  .object
    [(ascii "version", .number 2),
      (ascii "timestamp", .number 5),
      (ascii "payload", .null),
      (ascii "nonce", nonce),
      (ascii "signatures", .object [(ascii "1", signature)])]

def messageCall
    (nonce signature : JsonTree (Fin 10))
    (nonceId : Nat) : Call (Fin 10) where
  envelope := message nonce signature
  nonceId := nonceId
  now := 5
  pinned := ⟨[], ascii "k"⟩

/- A verifier that takes one signature to be genuine. -/
def genuineHost : Host where
  parseDate _ := none
  verifyEd25519 _ _ signature :=
    decide (signature = ascii "genuine")

def forgedCall : Call (Fin 10) :=
  messageCall (.text (ascii "n")) (.text (ascii "forged")) 0

def genuineCall : Call (Fin 10) :=
  messageCall (.text (ascii "n")) (.text (ascii "genuine")) 0

/- After a forged envelope the genuine one is a replay. -/
theorem forged_envelope_consumes_nonce :
    (validateEnvelope Numbers.digits genuineHost .empty
        genuineCall).2 = .accepted ∧
    (validateEnvelope Numbers.digits genuineHost .empty
        forgedCall).2 = .rejected ∧
    unexpiredNonces
        (validateEnvelope Numbers.digits genuineHost .empty
          forgedCall).1 5 ≠
      unexpiredNonces .empty 5 ∧
    (validateEnvelope Numbers.digits genuineHost
        (validateEnvelope Numbers.digits genuineHost .empty
          forgedCall).1 genuineCall).2 = .rejected := by
  refine ⟨by decide +kernel, by decide +kernel, ?_,
    by decide +kernel⟩
  intro hSame
  have hForged :
      isConsumed
        (validateEnvelope Numbers.digits genuineHost .empty
          forgedCall).1 (.text (ascii "n")) 5 = true := by
    decide +kernel
  have hEmpty :
      isConsumed (OrderedMap.empty : Nonces (Fin 10))
        (.text (ascii "n")) 5 = false := by
    decide
  rw [isConsumed_iff, hSame, ← isConsumed_iff, hEmpty]
    at hForged
  cases hForged

end EnvelopeValidator

end ControlPlane
