import ControlPlane.Authority.CanonicalSerializer

/-
  The requests that are sent to the backend.

  A request is signed as an object and sent as a text. Who
  reads the text computes the signed bytes again from what
  it parses, whatever order the members have there.

  Main declarations:
    * `createRequest`
    * `signed_bytes_from_wire`
-/

------------------------------------------------------------
-- Creation
------------------------------------------------------------

namespace ControlPlane

namespace Requests

open JsonTree
open CanonicalSerializer

variable {ν : Type}

/- The machine that signs. Both calls may throw. -/
structure Identity where
  hardwareId : Option Units
  signPayload : ByteArray → Option Units

structure SessionContext (ν : Type) where
  sessionId : Option Units
  machineId : Option Units
  clientGeneration : Option ν
  clientServerEpoch : Option ν

/- The nonce and the time that a call comes upon. -/
structure Moment where
  nonce : Units
  timestamp : Units

def machineIdOf
    (identity : Identity)
    (context : SessionContext ν) : Units :=
  match context.machineId with
  | some (u :: rest) => u :: rest
  | _ =>
      identity.hardwareId.getD (ascii "uninitialized_machine")

def envelopeMembers
    (N : Numbers ν)
    (payload : JsonTree ν)
    (identity : Identity)
    (context : SessionContext ν)
    (moment : Moment) : Members ν :=
  [(ascii "version", .number N.two),
    (ascii "sessionId", .text (context.sessionId.getD [])),
    (ascii "machineId", .text (machineIdOf identity context)),
    (ascii "nonce", .text moment.nonce),
    (ascii "timestamp", .text moment.timestamp),
    (ascii "clientGeneration",
      .number (context.clientGeneration.getD N.one)),
    (ascii "clientServerEpoch",
      .number (context.clientServerEpoch.getD N.one)),
    (ascii "payload", payload)]

/- A request, with the bytes that were given to be signed. -/
structure SignedRequest (ν : Type) where
  envelope : JsonTree ν
  signedBytes : ByteArray

def createRequest
    (N : Numbers ν)
    (payload : JsonTree ν)
    (identity : Identity)
    (context : SessionContext ν)
    (moment : Moment) : Option (SignedRequest ν) := do
  let envelopeToSign :=
    envelopeMembers N payload identity context moment
  let canonicalBuffer ←
    serializeClientRequest N (.object envelopeToSign)
  let signature ← identity.signPayload canonicalBuffer
  some
    { envelope :=
        .object (envelopeToSign ++
          [(ascii "signature", .text signature)])
      signedBytes := canonicalBuffer }

------------------------------------------------------------
-- What Was Signed
------------------------------------------------------------

theorem createRequest_eq_some
    {N : Numbers ν}
    {payload : JsonTree ν}
    {identity : Identity}
    {context : SessionContext ν}
    {moment : Moment}
    {request : SignedRequest ν}
    (hRequest :
      createRequest N payload identity context moment =
        some request) :
    serializeClientRequest N
        (.object
          (envelopeMembers N payload identity context moment)) =
        some request.signedBytes ∧
      ∃ signature,
        identity.signPayload request.signedBytes =
          some signature ∧
        request.envelope =
          .object
            (envelopeMembers N payload identity context
                moment ++
              [(ascii "signature", .text signature)]) := by
  unfold createRequest at hRequest
  dsimp only at hRequest
  cases hBytes :
      serializeClientRequest N
        (.object
          (envelopeMembers N payload identity context moment))
    with
  | none =>
      rw [hBytes] at hRequest
      cases hRequest
  | some canonicalBuffer =>
      rw [hBytes, Option.bind_eq_bind, Option.bind_some]
        at hRequest
      cases hSign : identity.signPayload canonicalBuffer with
      | none =>
          rw [hSign] at hRequest
          cases hRequest
      | some signature =>
          rw [hSign] at hRequest
          cases hRequest
          exact ⟨rfl, signature, hSign, rfl⟩

/- The signature is one more member of the envelope. -/
theorem field?_append_signature
    (members : Members ν)
    (signature : JsonTree ν)
    {name : Units}
    (hOther : name ≠ ascii "signature") :
    (JsonTree.object (members ++
        [(ascii "signature", signature)])).field? name =
      (JsonTree.object members).field? name := by
  change member? (members ++ _) name = member? members name
  unfold member?
  rw [List.lookup_append, List.lookup_cons,
    beq_eq_false_iff_ne.mpr hOther]
  exact Option.or_none

theorem distinct_envelope
    {N : Numbers ν}
    {payload : JsonTree ν}
    (hPayload : payload.Distinct)
    (identity : Identity)
    (context : SessionContext ν)
    (moment : Moment)
    (signature : Units) :
    (JsonTree.object
      (envelopeMembers N payload identity context moment ++
        [(ascii "signature", .text signature)])).Distinct := by
  unfold Distinct
  rw [everyObject_object]
  refine ⟨?_, ?_⟩
  · change List.Nodup
      [ascii "version", ascii "sessionId", ascii "machineId",
        ascii "nonce", ascii "timestamp",
        ascii "clientGeneration", ascii "clientServerEpoch",
        ascii "payload", ascii "signature"]
    decide
  · intro member hMember
    rw [List.mem_append] at hMember
    unfold envelopeMembers at hMember
    simp only [List.mem_cons, List.not_mem_nil, or_false]
      at hMember
    rcases hMember with
      (rfl | rfl | rfl | rfl | rfl | rfl | rfl | rfl) | rfl
    all_goals first | rfl | exact hPayload

/- Members of values that are the same are alike. -/
theorem alike_of_same
    {v w : JsonTree ν}
    (hV : v.Distinct)
    (hW : w.Distinct)
    (hSame : v.Same w)
    {members : Members ν}
    (hObject : w = .object members)
    (name : Units) :
    Alike (v.field? name) (w.field? name) := by
  have hFields := same_field? hV hW hSame hObject name
  have hParts :
      ∀ u : JsonTree ν, u.Distinct →
        (∃ own, u = .object own) →
          ∀ value, u.field? name = some value →
            value.Distinct := by
    intro u hU hOwn value hValue
    rcases hOwn with ⟨own, rfl⟩
    exact ((everyObject_object own).mp hU).2 _
      (mem_of_member? hValue)
  have hVObject : ∃ own, v = .object own :=
    same_object (hObject ▸ hSame)
  unfold Alike
  cases hVField : v.field? name with
  | none =>
      rw [hVField] at hFields
      cases hWField : w.field? name with
      | none => rfl
      | some value =>
          rw [hWField] at hFields
          cases hFields
  | some value =>
      rw [hVField] at hFields
      cases hWField : w.field? name with
      | none =>
          rw [hWField] at hFields
          cases hFields
      | some other =>
          rw [hWField] at hFields
          exact congrArg some
            (canonicalize_same
              (hParts v hV hVObject value hVField)
              (hParts w hW ⟨members, hObject⟩ other hWField)
              (Option.some.inj hFields))

/-
  Whatever text the envelope arrives as, the value parsed
  from it gives the bytes that were signed.
-/
theorem signed_bytes_from_wire
    (N : Numbers ν)
    {payload : JsonTree ν}
    (hPayload : payload.Distinct)
    {identity : Identity}
    {context : SessionContext ν}
    {moment : Moment}
    {request : SignedRequest ν}
    (hRequest :
      createRequest N payload identity context moment =
        some request) :
    ∃ sent,
      N.parse (N.stringify request.envelope) = some sent ∧
      ∀ text received,
        N.parse text = some received →
        received.Same sent →
          serializeClientRequest N received =
            some request.signedBytes ∧
          canonicalize (canonicalize received) =
            canonicalize received := by
  rcases createRequest_eq_some hRequest with
    ⟨hBytes, signature, _, hEnvelope⟩
  have hDistinct :=
    distinct_envelope (N := N) hPayload identity context moment
      signature
  rw [← hEnvelope] at hDistinct
  rcases N.parse_stringify hDistinct with
    ⟨sent, hSent, hSentSame⟩
  refine ⟨sent, hSent, ?_⟩
  intro text received hParse hSame
  have hReceived := Numerals.distinct_parse hParse
  have hTotal : received.Same request.envelope :=
    Eq.trans hSame hSentSame
  have hAlike :
      ∀ name, name ≠ ascii "signature" →
        Alike (received.field? name)
          ((JsonTree.object
            (envelopeMembers N payload identity context
              moment)).field? name) := by
    intro name hName
    have hFields :=
      alike_of_same hReceived hDistinct hTotal hEnvelope name
    rw [hEnvelope, field?_append_signature _ _ hName]
      at hFields
    exact hFields
  have hSigned := clientRequestToSign_congr N hAlike
  refine ⟨?_, canonicalize_idempotent hReceived⟩
  rw [← hBytes]
  unfold serializeClientRequest canonicalStringify
  have hText :=
    congrArg
      (Option.map (fun value => utf8 (N.stringify value)))
      hSigned
  rw [Option.map_map, Option.map_map] at hText
  exact hText

/- A machine without a descriptor that signs with one unit. -/
def plainIdentity : Identity where
  hardwareId := none
  signPayload _ := some (ascii "f")

def plainMoment : Moment where
  nonce := ascii "n"
  timestamp := ascii "t"

/- The members are not in order, and one is not its own. -/
def plainPayload : JsonTree (Fin 10) :=
  .object [(ascii "b", .null), (ascii "__proto__", .null)]

def plainContext : SessionContext (Fin 10) where
  sessionId := some (ascii "s")
  machineId := none
  clientGeneration := some 4
  clientServerEpoch := none

theorem plain_request_from_wire :
    ∃ request,
      createRequest Numbers.digits plainPayload plainIdentity
          plainContext plainMoment =
        some request ∧
      ∃ sent,
        Numbers.digits.parse
            (Numbers.digits.stringify request.envelope) =
          some sent ∧
        ∀ text received,
          Numbers.digits.parse text = some received →
          received.Same sent →
            serializeClientRequest Numbers.digits received =
              some request.signedBytes ∧
            canonicalize (canonicalize received) =
              canonicalize received := by
  have hPayload : plainPayload.Distinct := by decide
  refine ⟨_, rfl, ?_⟩
  exact signed_bytes_from_wire Numbers.digits hPayload
    (show createRequest Numbers.digits plainPayload
      plainIdentity plainContext plainMoment = some _ from rfl)

end Requests

end ControlPlane
