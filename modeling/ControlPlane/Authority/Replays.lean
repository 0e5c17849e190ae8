import ControlPlane.Authority.Envelope
import Mathlib.Tactic.Linarith

/-
  Replays of the envelopes that the backend has signed.

  The nonce is remembered as the value that it is and signed
  as a text. An envelope is accepted a second time only as
  another writing of its nonce, which is another key.

  Main declarations:
    * `acceptedCalls`
    * `accepted_content_differs`
-/

------------------------------------------------------------
-- Signed Contents
------------------------------------------------------------

namespace ControlPlane

namespace EnvelopeValidator

open JsonTree
open CanonicalSerializer

variable {ν : Type}

/- Two envelopes whose signatures are over the same bytes. -/
def SameContent
    (N : Numbers ν)
    (first second : Call ν) : Prop :=
  ∃ bytes,
    serializeBackendResponse N first.envelope = some bytes ∧
      serializeBackendResponse N second.envelope = some bytes

/- An envelope that is accepted unless its nonce is consumed. -/
def Acceptable
    (N : Numbers ν)
    (host : Host)
    (call : Call ν) : Prop :=
  isWellShaped N call.envelope = true ∧
    timing N host call = .timely ∧
    isVerified N host call = true

theorem canonicalize_of_sameContent
    {N : Numbers ν}
    {first second : Call ν}
    (hSame : SameContent N first second) :
    (backendResponseToVerify N first.envelope).map
        canonicalize =
      (backendResponseToVerify N second.envelope).map
        canonicalize := by
  rcases hSame with ⟨bytes, hFirst, hSecond⟩
  refine Option.map_injective N.utf8_stringify_injective ?_
  rw [Option.map_map, Option.map_map]
  exact hFirst.trans hSecond.symm

/- The window of a content is shorter than its nonce lasts. -/
theorem now_lt_of_same_content
    {N : Numbers ν}
    {host : Host}
    {first second : Call ν}
    (hFirst : Acceptable N host first)
    (hSecond : Acceptable N host second)
    (hSame : SameContent N first second) :
    second.now < first.now + 300000 := by
  rcases hSame with ⟨bytes, hFirstBytes, hSecondBytes⟩
  rcases time_of_timely hFirst.2.1 with
    ⟨a, time, hA, hTime, hNear⟩
  rcases time_of_timely hSecond.2.1 with
    ⟨b, other, hB, hOther, hClose⟩
  have hStamp :=
    timestamp_of_same_content hFirstBytes hSecondBytes hA hB
  have hTimes : some (some time) = some (some other) := by
    rw [← hTime, ← hOther, ← timeOf_canonicalize N host a,
      hStamp, timeOf_canonicalize]
  cases hTimes
  have hLate : (second.now : Rat) ≤ time + 60000 := by
    linarith [(abs_le.mp hClose).2]
  have hEarly : time ≤ (first.now : Rat) + 60000 := by
    linarith [(abs_le.mp hNear).1]
  have hBound : (second.now : Rat) < (first.now + 300000 : Nat) := by
    push_cast
    linarith
  exact_mod_cast hBound

------------------------------------------------------------
-- Accepted Calls
------------------------------------------------------------

variable [DecidableEq ν]

/- The calls of a run that return true. -/
def acceptedCalls
    (N : Numbers ν)
    (host : Host) :
    Nonces ν → List (Call ν) → List (Call ν)
| _, [] => []
| consumed, call :: calls =>
    let result := validateEnvelope N host consumed call
    if result.2 = .accepted then
      call :: acceptedCalls N host result.1 calls
    else acceptedCalls N host result.1 calls

theorem acceptable_of_accepted
    {N : Numbers ν}
    {host : Host}
    {consumed : Nonces ν}
    {call : Call ν}
    (hAccepted :
      (validateEnvelope N host consumed call).2 = .accepted) :
    Acceptable N host call := by
  have hVerdict :
      signatureVerdict N host call = .accepted →
        isVerified N host call = true := by
    intro hSignature
    unfold signatureVerdict at hSignature
    cases hVerified : isVerified N host call with
    | true => rfl
    | false =>
        rw [hVerified] at hSignature
        cases hSignature
  unfold validateEnvelope at hAccepted
  unfold Acceptable
  cases hShape : isWellShaped N call.envelope with
  | false =>
      rw [hShape] at hAccepted
      cases hAccepted
  | true =>
      rw [hShape] at hAccepted
      cases hTiming : timing N host call with
      | stale =>
          rw [hTiming] at hAccepted
          cases hAccepted
      | throws =>
          rw [hTiming] at hAccepted
          cases hAccepted
      | timely =>
          rw [hTiming] at hAccepted
          refine ⟨rfl, rfl, hVerdict ?_⟩
          cases hKey : nonceKey? N call with
          | none =>
              rw [hKey] at hAccepted
              exact hAccepted
          | some key =>
              rw [hKey] at hAccepted
              dsimp only at hAccepted
              cases hConsumed :
                  isConsumed (cleanupNonces consumed call.now)
                    key call.now with
              | true =>
                  rw [hConsumed] at hAccepted
                  cases hAccepted
              | false =>
                  rw [hConsumed] at hAccepted
                  exact hAccepted

/- An accepted envelope leaves its nonce consumed. -/
theorem consumed_of_accepted
    {N : Numbers ν}
    {host : Host}
    {consumed : Nonces ν}
    {call : Call ν}
    (hAccepted :
      (validateEnvelope N host consumed call).2 = .accepted)
    {key : NonceKey ν}
    (hKey : nonceKey? N call = some key) :
    (validateEnvelope N host consumed call).1.get? key =
      some (call.now + 300000) := by
  rcases acceptable_of_accepted hAccepted with
    ⟨hShape, hTiming, _⟩
  rcases validateEnvelope_cases N host consumed call with
    ⟨other, hOther, ⟨_, hCall⟩ | ⟨_, hCall⟩⟩ | ⟨hNever, _⟩
  · rw [hCall] at hAccepted
    cases hAccepted
  · cases hKey.symm.trans hOther.2.2
    rw [hCall]
    exact OrderedMap.get?_set_self _ _ _
  · exact absurd ⟨hShape, hTiming, hKey⟩ (hNever key)

/- A nonce stays consumed until it expires. -/
theorem consumed_stays
    {N : Numbers ν}
    {host : Host}
    {consumed : Nonces ν}
    {call : Call ν}
    {key : NonceKey ν}
    {expiresAt : Nat}
    (hConsumed : consumed.get? key = some expiresAt)
    (hLive : call.now < expiresAt) :
    (validateEnvelope N host consumed call).1.get? key =
      some expiresAt := by
  have hSwept := (get?_cleanupNonces hLive).mpr hConsumed
  rcases validateEnvelope_cases N host consumed call with
    ⟨other, _, ⟨_, hCall⟩ | ⟨hFresh, hCall⟩⟩ | ⟨_, hSame⟩
  · rw [hCall]
    exact hSwept
  · have hOther : key ≠ other := by
      rintro rfl
      exact hFresh ⟨expiresAt, hConsumed, hLive⟩
    rw [hCall, OrderedMap.get?_set_of_ne _ _ hOther]
    exact hSwept
  · rw [hSame]
    exact hConsumed

/- A consumed nonce is not accepted before it expires. -/
theorem not_accepted_of_consumed
    {N : Numbers ν}
    {host : Host}
    {consumed : Nonces ν}
    {call : Call ν}
    {key : NonceKey ν}
    {expiresAt : Nat}
    (hConsumed : consumed.get? key = some expiresAt)
    (hLive : call.now < expiresAt)
    (hKey : nonceKey? N call = some key) :
    (validateEnvelope N host consumed call).2 ≠ .accepted := by
  intro hAccepted
  rcases acceptable_of_accepted hAccepted with
    ⟨hShape, hTiming, _⟩
  rcases validateEnvelope_cases N host consumed call with
    ⟨other, _, ⟨_, hCall⟩ | ⟨hFresh, hCall⟩⟩ | ⟨hNever, _⟩
  · rw [hCall] at hAccepted
    cases hAccepted
  · rename_i hOther
    cases hKey.symm.trans hOther.2.2
    exact hFresh ⟨expiresAt, hConsumed, hLive⟩
  · exact hNever key ⟨hShape, hTiming, hKey⟩

theorem mem_acceptedCalls_cons
    {N : Numbers ν}
    {host : Host}
    {consumed : Nonces ν}
    {first call : Call ν}
    {calls : List (Call ν)}
    (hMem :
      call ∈ acceptedCalls N host consumed (first :: calls)) :
    (call = first ∧
        (validateEnvelope N host consumed first).2 =
          .accepted) ∨
      call ∈ acceptedCalls N host
        (validateEnvelope N host consumed first).1 calls := by
  unfold acceptedCalls at hMem
  dsimp only at hMem
  by_cases hAccepted :
      (validateEnvelope N host consumed first).2 = .accepted
  · rw [if_pos hAccepted] at hMem
    rcases List.mem_cons.mp hMem with rfl | hLater
    · exact .inl ⟨rfl, hAccepted⟩
    · exact .inr hLater
  · rw [if_neg hAccepted] at hMem
    exact .inr hMem

theorem acceptedCalls_sublist
    (N : Numbers ν)
    (host : Host)
    (consumed : Nonces ν)
    (calls : List (Call ν)) :
    (acceptedCalls N host consumed calls).Sublist calls := by
  induction calls generalizing consumed with
  | nil => exact List.Sublist.refl _
  | cons first calls ih =>
      unfold acceptedCalls
      dsimp only
      by_cases hAccepted :
          (validateEnvelope N host consumed first).2 = .accepted
      · rw [if_pos hAccepted]
        exact (ih _).cons_cons first
      · rw [if_neg hAccepted]
        exact (ih _).cons first

theorem acceptable_of_mem
    {N : Numbers ν}
    {host : Host}
    {consumed : Nonces ν}
    {calls : List (Call ν)}
    {call : Call ν}
    (hMem : call ∈ acceptedCalls N host consumed calls) :
    Acceptable N host call := by
  induction calls generalizing consumed with
  | nil => cases hMem
  | cons first calls ih =>
      rcases mem_acceptedCalls_cons hMem with
        ⟨rfl, hAccepted⟩ | hLater
      · exact acceptable_of_accepted hAccepted
      · exact ih hLater

/- Over a run whose clock does not go back. -/
theorem not_mem_acceptedCalls
    {N : Numbers ν}
    {host : Host}
    {key : NonceKey ν}
    {expiresAt : Nat}
    {calls : List (Call ν)}
    {consumed : Nonces ν}
    (hConsumed : consumed.get? key = some expiresAt)
    (hClock : calls.Pairwise (fun a b => a.now ≤ b.now))
    {call : Call ν}
    (hLive : call.now < expiresAt)
    (hKey : nonceKey? N call = some key) :
    call ∉ acceptedCalls N host consumed calls := by
  induction calls generalizing consumed with
  | nil => exact List.not_mem_nil
  | cons first calls ih =>
      rw [List.pairwise_cons] at hClock
      intro hMem
      rcases mem_acceptedCalls_cons hMem with
        ⟨rfl, hAccepted⟩ | hLater
      · exact not_accepted_of_consumed hConsumed hLive hKey
          hAccepted
      · have hCall :=
          (acceptedCalls_sublist N host _ calls).subset hLater
        have hFirst : first.now < expiresAt :=
          lt_of_le_of_lt (hClock.1 call hCall) hLive
        exact ih (consumed_stays hConsumed hFirst) hClock.2
          hLater

------------------------------------------------------------
-- Once At Most
------------------------------------------------------------

/-
  In a run where envelopes of one content have nonces that
  are one key, no content is accepted twice.
-/
theorem accepted_content_differs
    (N : Numbers ν)
    (host : Host)
    {calls : List (Call ν)}
    (hClock : calls.Pairwise (fun a b => a.now ≤ b.now))
    (hKeys :
      calls.Pairwise (fun a b =>
        Acceptable N host a → Acceptable N host b →
          SameContent N a b →
            nonceKey? N a = nonceKey? N b))
    (consumed : Nonces ν) :
    (acceptedCalls N host consumed calls).Pairwise
      (fun a b =>
        nonceKey? N a ≠ none → nonceKey? N b ≠ none →
          ¬ SameContent N a b) := by
  induction calls generalizing consumed with
  | nil => exact List.Pairwise.nil
  | cons first calls ih =>
      rw [List.pairwise_cons] at hClock hKeys
      have hRest := ih hClock.2 hKeys.2
      unfold acceptedCalls
      dsimp only
      by_cases hAccepted :
          (validateEnvelope N host consumed first).2 = .accepted
      · rw [if_pos hAccepted, List.pairwise_cons]
        refine ⟨?_, hRest _⟩
        intro second hLater hNonce _ hSame
        have hSecond := acceptable_of_mem hLater
        have hCall :=
          (acceptedCalls_sublist N host _ calls).subset hLater
        have hFirst := acceptable_of_accepted hAccepted
        rcases Option.ne_none_iff_exists'.mp hNonce with
          ⟨key, hKey⟩
        have hSameKey :=
          hKeys.1 second hCall hFirst hSecond hSame
        exact not_mem_acceptedCalls
          (consumed_of_accepted hAccepted hKey) hClock.2
          (now_lt_of_same_content hFirst hSecond hSame)
          (hSameKey ▸ hKey) hLater
      · rw [if_neg hAccepted]
        exact hRest _

/- Two genuine envelopes, one of which is sent again. -/
def replayedCalls : List (Call (Fin 10)) :=
  [messageCall (.text (ascii "m")) (.text (ascii "genuine")) 0,
    messageCall (.text (ascii "n")) (.text (ascii "genuine")) 0,
    messageCall (.text (ascii "m")) (.text (ascii "genuine")) 0]

theorem replayed_calls_are_accepted_once :
    (acceptedCalls Numbers.digits genuineHost .empty
        replayedCalls).length = 2 ∧
    (acceptedCalls Numbers.digits genuineHost .empty
        replayedCalls).Pairwise
      (fun a b =>
        nonceKey? Numbers.digits a ≠ none →
          nonceKey? Numbers.digits b ≠ none →
            ¬ SameContent Numbers.digits a b) := by
  refine ⟨by decide +kernel, ?_⟩
  refine accepted_content_differs Numbers.digits genuineHost
    (by decide) ?_ .empty
  have hNonce :
      ∀ a b : Call (Fin 10),
        SameContent Numbers.digits a b →
          (backendResponseToVerify Numbers.digits
              a.envelope).map
            (fun v => ((canonicalize v).field?
              (ascii "nonce")).bind text?) =
          (backendResponseToVerify Numbers.digits
              b.envelope).map
            (fun v => ((canonicalize v).field?
              (ascii "nonce")).bind text?) := by
    intro a b hSame
    have hFields :=
      congrArg (Option.map (fun v : JsonTree (Fin 10) =>
        (v.field? (ascii "nonce")).bind text?))
        (canonicalize_of_sameContent hSame)
    rw [Option.map_map, Option.map_map] at hFields
    exact hFields
  refine List.Pairwise.imp (R := fun a b =>
    SameContent Numbers.digits a b →
      nonceKey? Numbers.digits a =
        nonceKey? Numbers.digits b)
    (fun hKeys _ _ hSame => hKeys hSame) ?_
  refine .cons ?_ (.cons ?_ (.cons nofun .nil))
  · intro b hMem hSame
    rcases List.mem_pair.mp hMem with rfl | rfl
    · have hTexts := hNonce _ _ hSame
      revert hTexts
      decide +kernel
    · rfl
  · intro b hMem hSame
    rw [List.mem_singleton] at hMem
    subst hMem
    have hTexts := hNonce _ _ hSame
    revert hTexts
    decide +kernel

instance decidableBytes : DecidableEq ByteArray :=
  ByteArray.instDecidableEq

/- A verifier for the one message that was signed. -/
def singleHost : Host where
  parseDate _ := none
  verifyEd25519 _ bytes signature :=
    decide (signature = ascii "genuine") &&
      decide
        (serializeBackendResponse Numbers.digits
          (message (.text (ascii "5"))
            (.text (ascii "genuine"))) = some bytes)

/- The signed nonce as it is, as a number and in arrays. -/
def rewrittenCalls : List (Call (Fin 10)) :=
  [messageCall (.text (ascii "5")) (.text (ascii "genuine")) 0,
    messageCall (.number 5) (.text (ascii "genuine")) 0,
    messageCall (.array [.number 5])
      (.text (ascii "genuine")) 1,
    messageCall (.array [.number 5])
      (.text (ascii "genuine")) 2]

theorem rewritten_nonce_is_accepted_again :
    acceptedCalls Numbers.digits singleHost .empty
        rewrittenCalls = rewrittenCalls ∧
    rewrittenCalls.Pairwise (fun a b =>
      nonceKey? Numbers.digits a ≠ none ∧
        nonceKey? Numbers.digits b ≠ none ∧
          SameContent Numbers.digits a b) := by
  refine ⟨?_, ?_⟩
  · refine (acceptedCalls_sublist _ _ _ _).eq_of_length ?_
    decide +kernel
  · have hContent :
        ∀ call ∈ rewrittenCalls,
          nonceKey? Numbers.digits call ≠ none ∧
            serializeBackendResponse Numbers.digits
                call.envelope =
              serializeBackendResponse Numbers.digits
                (message (.text (ascii "5"))
                  (.text (ascii "genuine"))) := by
      intro call hMem
      unfold rewrittenCalls at hMem
      simp only [List.mem_cons, List.not_mem_nil, or_false]
        at hMem
      rcases hMem with rfl | rfl | rfl | rfl
      all_goals exact ⟨by decide, rfl⟩
    refine List.Pairwise.imp_of_mem ?_
      (List.pairwise_of_forall (R := fun _ _ => True)
        (fun _ _ => trivial))
    intro a b hA hB _
    rcases hContent a hA with ⟨hAKey, hABytes⟩
    rcases hContent b hB with ⟨hBKey, hBBytes⟩
    exact ⟨hAKey, hBKey, _, hABytes.trans rfl,
      hBBytes.trans rfl⟩

end EnvelopeValidator

end ControlPlane
