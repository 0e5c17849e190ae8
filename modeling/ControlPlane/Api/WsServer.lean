import ControlPlane.Store.SanitizerGate

/-
  The events that leave over the WebSocket.

  The payload of an account topic is cleaned where it has
  the shape that the topic is known for: the account of a
  delta, the accounts of a view, or a list of accounts. What
  else is in a payload leaves as it is.

  Main declarations:
    * `sanitizeOutboundPayload`
    * `WsServer.broadcast` and `WsServer.send`
    * `uncleanedPart`
    * `emitted_secretFree_iff`
-/

------------------------------------------------------------
-- Outbound Payloads
------------------------------------------------------------

namespace ControlPlane

namespace Mutators

namespace WebSocket

open SanitizerGate

/- `Array.isArray(value)` -/
def isArray : JsValue → Bool
| .array _ => true
| _ => false

/- The members of an account event, with one of them set. -/
def replaced
    (payload : JsValue)
    (name : String)
    (value : JsValue) : JsValue :=
  payload.withMembers [(name, value)]

def sanitizeOutboundPayload
    (topic : String)
    (payload : JsValue) : Except JsError JsValue :=
  if !isObject payload then .ok payload
  else if topic = "accounts:delta" ∧
      (payload.field "partialSnapshot").truthy then
    (sanitizeAccountForExport
      (payload.field "partialSnapshot")).map
        (replaced payload "partialSnapshot")
  else if topic = "accounts:view" ∧
      isArray (payload.field "viewportAccounts") then
    (sanitizeAccountForExport
      (payload.field "viewportAccounts")).map
        (replaced payload "viewportAccounts")
  else if topic = "accounts:snapshot" ∧ isArray payload then
    sanitizeAccountForExport payload
  else .ok payload

------------------------------------------------------------
-- Messages
------------------------------------------------------------

/- Each client with whether its socket is open. -/
structure WsServer where
  clients : Option (List (Nat × Bool))
  revisions : OrderedMap String Nat

/- The domain of a topic is named before the first colon. -/
def domainPrefix (topic : String) : String :=
  let first :=
    String.ofList (topic.toList.takeWhile (fun c => c ≠ ':'))
  if first = "" then "system" else first

/- The correlation and the trace of an event, in two ways. -/
def correlationOf
    (correlationOrOpts maybeTraceId : JsValue) :
    JsValue × JsValue :=
  if isObject correlationOrOpts then
    (correlationOrOpts.field "correlationId",
      correlationOrOpts.field "traceId")
  else (correlationOrOpts, maybeTraceId)

def givenMember
    (name : String)
    (value : JsValue) : List (String × JsValue) :=
  if value.truthy then [(name, value)] else []

/- The object whose JSON text is sent. -/
def envelope
    (topic now : String)
    (revision : Nat)
    (correlation : JsValue × JsValue)
    (cleanPayload : JsValue) : JsValue :=
  .object
    ([("protocolVersion", .text "2.0"),
      ("topic", .text topic),
      ("revision", .number (.finite revision)),
      ("timestamp", .text now)] ++
      givenMember "correlationId" correlation.1 ++
      givenMember "traceId" correlation.2 ++
      [("payload", cleanPayload)])

def messageOf
    (topic now : String)
    (revision : Nat)
    (payload correlationOrOpts maybeTraceId : JsValue) :
    Except JsError JsValue := do
  let cleanPayload ← sanitizeOutboundPayload topic payload
  (envelope topic now revision
    (correlationOf correlationOrOpts maybeTraceId)
    cleanPayload).jsonCopy

namespace WsServer

def revisionOf (server : WsServer) (topic : String) : Nat :=
  (server.revisions.get? (domainPrefix topic)).getD 1

/- What each open client receives, and the server after it. -/
def broadcast
    (server : WsServer)
    (topic now : String)
    (payload correlationOrOpts maybeTraceId : JsValue) :
    Except JsError (WsServer × List (Nat × JsValue)) :=
  match server.clients with
  | none => .ok (server, [])
  | some clients => do
      let currentRev := server.revisionOf topic + 1
      let msg ← messageOf topic now currentRev payload
        correlationOrOpts maybeTraceId
      let next :=
        { server with
            revisions := server.revisions.set
              (domainPrefix topic) currentRev }
      return (next,
        (clients.filter Prod.snd).map (fun c => (c.1, msg)))

/- What one client receives. -/
def send
    (server : WsServer)
    (client : Nat × Bool)
    (topic now : String)
    (payload correlationOrOpts maybeTraceId : JsValue) :
    Except JsError (List (Nat × JsValue)) :=
  if client.2 then do
    let msg ← messageOf topic now (server.revisionOf topic)
      payload correlationOrOpts maybeTraceId
    return [(client.1, msg)]
  else .ok []

/- An account event of the backend goes on as it came. -/
def relayAccountsDelta
    (server : WsServer)
    (now : String)
    (payload : JsValue) :
    Except JsError (WsServer × List (Nat × JsValue)) :=
  server.broadcast "accounts:delta" now payload
    .undefined .undefined

end WsServer

------------------------------------------------------------
-- Secrets In A JSON Text
------------------------------------------------------------

/- The JSON text of the value has no secret in it. -/
def SecretFreeText (value : JsValue) : Prop :=
  ∀ data, value.json = .ok (some data) → SecretFree data

theorem jsonItems_secretFree
    {items data : List JsValue}
    (hEach :
      ∀ item ∈ items, ∀ copy,
        item.json = .ok (some copy) → SecretFree copy)
    (hData : JsValue.jsonItems items = .ok data) :
    ∀ item ∈ data, SecretFree item := by
  induction items generalizing data with
  | nil =>
      cases hData
      exact nofun
  | cons item items ih =>
      rw [List.forall_mem_cons] at hEach
      rw [JsValue.jsonItems] at hData
      rcases bind_eq_ok.mp hData with ⟨found, hFound, hData⟩
      rcases bind_eq_ok.mp hData with ⟨rest, hRest, hData⟩
      cases hData
      rw [List.forall_mem_cons]
      refine ⟨?_, ih hEach.2 hRest⟩
      cases found with
      | none => exact secretFree_of_isLeaf rfl
      | some copy => exact hEach.1 copy hFound

/- A value without secrets has a text without secrets. -/
theorem SecretFreeText.of_secretFree
    {value : JsValue}
    (hFree : SecretFree value) : SecretFreeText value := by
  induction value using JsValue.induction with
  | leaf value hLeaf =>
      intro data hData
      cases value with
      | array items => nomatch hLeaf
      | object members => nomatch hLeaf
      | number n =>
          cases n with
          | finite => cases hData; exact secretFree_of_isLeaf rfl
          | infinite =>
              cases hData
              exact secretFree_of_isLeaf rfl
          | nan => cases hData; exact secretFree_of_isLeaf rfl
      | null | boolean | text =>
          cases hData
          exact secretFree_of_isLeaf rfl
      | undefined | symbol | function => nomatch hData
      | bigint | circular => nomatch hData
  | array items ih =>
      intro data hData
      rw [secretFree_array] at hFree
      rw [JsValue.json] at hData
      rcases bind_eq_ok.mp hData with ⟨copies, hCopies, hDone⟩
      cases hDone
      rw [secretFree_array]
      exact jsonItems_secretFree
        (fun item hMem => ih item hMem (hFree item hMem))
        hCopies
  | object members ih =>
      intro data hData
      rw [secretFree_object] at hFree
      rcases JsValue.json_object_eq hData with
        ⟨copies, hCopies, hSome⟩
      cases hSome
      rw [secretFree_object]
      rintro ⟨key, copy⟩ hMem
      rcases (JsValue.mem_jsonMembers hCopies).mp hMem with
        ⟨old, hOld, hJson⟩
      rcases hFree _ hOld with ⟨hAllowed, hBelow⟩
      refine ⟨?_, ih _ hOld hBelow copy hJson⟩
      intro hForbidden
      rcases hAllowed hForbidden with ⟨hKey, hValue⟩
      simp only at hKey hValue
      rw [hValue] at hJson
      cases hJson
      exact ⟨hKey, rfl⟩

theorem secretFreeText_iff
    {value : JsValue}
    {found : Option JsValue}
    (hJson : value.json = .ok found) :
    SecretFreeText value ↔
      SecretFree (found.getD .undefined) := by
  unfold SecretFreeText
  rw [hJson]
  cases found with
  | none =>
      refine iff_of_true (fun _ h => nomatch h) ?_
      exact secretFree_of_isLeaf rfl
  | some data =>
      constructor
      · intro hAll
        exact hAll data rfl
      · intro hFree other hSame
        cases hSame
        exact hFree

------------------------------------------------------------
-- What Is Not Cleaned
------------------------------------------------------------

def without (payload : JsValue) (name : String) : JsValue :=
  .object (deleteMembers [name] payload.members)

/- The part of a payload that leaves as it is. -/
def uncleanedPart (topic : String) (payload : JsValue) : JsValue :=
  if !isObject payload then payload
  else if topic = "accounts:delta" ∧
      (payload.field "partialSnapshot").truthy then
    without payload "partialSnapshot"
  else if topic = "accounts:view" ∧
      isArray (payload.field "viewportAccounts") then
    without payload "viewportAccounts"
  else if topic = "accounts:snapshot" ∧ isArray payload then
    .array []
  else payload

/- A clean member hides nothing of the other members. -/
theorem replaced_secretFree_iff
    {payload value : JsValue}
    {name : String}
    {found : Option JsValue}
    (hName : ¬ isForbiddenKey name = true)
    (hFree : SecretFree value)
    (hJson : (replaced payload name value).json = .ok found) :
    SecretFree (found.getD .undefined) ↔
      SecretFreeText (without payload name) := by
  rcases JsValue.json_object_eq hJson with ⟨data, hData, hSome⟩
  have hRest :
      ∃ rest,
        JsValue.jsonMembers
            (deleteMembers [name] payload.members) =
          .ok rest := by
    rw [JsValue.jsonMembers_eq_ok_iff]
    intro entry hEntry
    rcases mem_deleteMembers.mp hEntry with ⟨hMem, hNe⟩
    refine (JsValue.jsonMembers_eq_ok_iff _).mp ⟨data, hData⟩
      entry ((JsValue.mem_assign_iff _ _ _).mpr (.inr ?_))
    exact ⟨hMem, by simpa using hNe⟩
  rcases hRest with ⟨rest, hRest⟩
  have hText :
      (without payload name).json = .ok (some (.object rest)) := by
    rw [without, JsValue.json, hRest]
    rfl
  have hSame :
      ∀ key copy, key ≠ name →
        ((key, copy) ∈ rest ↔ (key, copy) ∈ data) := by
    intro key copy hKey
    rw [JsValue.mem_jsonMembers hRest,
      JsValue.mem_jsonMembers hData]
    refine exists_congr (fun old => and_congr_left' ?_)
    rw [mem_deleteMembers]
    refine Iff.trans ?_ (JsValue.mem_assign_iff _ _ _).symm
    have hNot : (key, old) ≠ (name, value) :=
      fun hEq => hKey (congrArg Prod.fst hEq)
    simp [hKey, hNot]
  rw [secretFreeText_iff hText, hSome, Option.getD_some,
    Option.getD_some, secretFree_object, secretFree_object]
  constructor
  · rintro hAll ⟨key, copy⟩ hMem
    have hKey : key ≠ name := by
      rcases (JsValue.mem_jsonMembers hRest).mp hMem with
        ⟨old, hOld, _⟩
      simpa using (mem_deleteMembers.mp hOld).2
    exact hAll _ ((hSame key copy hKey).mp hMem)
  · rintro hAll ⟨key, copy⟩ hMem
    by_cases hKey : key = name
    · subst hKey
      refine ⟨allowed_of_plain hName, ?_⟩
      rcases (JsValue.mem_jsonMembers hData).mp hMem with
        ⟨old, hOld, hCopy⟩
      rcases (JsValue.mem_assign_iff _ _ _).mp hOld with
        hEntry | ⟨_, hNe⟩
      · cases hEntry
        exact SecretFreeText.of_secretFree hFree copy hCopy
      · exact absurd rfl hNe
    · exact hAll _ ((hSame key copy hKey).mpr hMem)

theorem outbound_secretFree_iff
    {topic : String}
    {payload clean : JsValue}
    {found : Option JsValue}
    (hClean :
      sanitizeOutboundPayload topic payload = .ok clean)
    (hJson : clean.json = .ok found) :
    SecretFree (found.getD .undefined) ↔
      SecretFreeText (uncleanedPart topic payload) := by
  have hKept :
      payload = clean →
        (SecretFree (found.getD .undefined) ↔
          SecretFreeText payload) := by
    intro hSame
    rw [hSame]
    exact (secretFreeText_iff hJson).symm
  have hReplaced :
      ∀ name, ¬ isForbiddenKey name = true →
        (sanitizeAccountForExport (payload.field name)).map
            (replaced payload name) = .ok clean →
          (SecretFree (found.getD .undefined) ↔
            SecretFreeText (without payload name)) := by
    intro name hName hMap
    cases hExport :
        sanitizeAccountForExport (payload.field name) with
    | error error =>
        rw [hExport] at hMap
        nomatch hMap
    | ok value =>
        rw [hExport] at hMap
        cases hMap
        exact replaced_secretFree_iff hName
          (sanitizeAccountForExport_secretFree hExport) hJson
  unfold sanitizeOutboundPayload at hClean
  unfold uncleanedPart
  split at hClean
  · rename_i hPrimitive
    rw [if_pos hPrimitive]
    exact hKept (Except.ok.inj hClean)
  · rename_i hObject
    rw [if_neg hObject]
    split at hClean
    · rename_i hDelta
      rw [if_pos hDelta]
      exact hReplaced _ (by decide) hClean
    · rename_i hDelta
      rw [if_neg hDelta]
      split at hClean
      · rename_i hView
        rw [if_pos hView]
        exact hReplaced _ (by decide) hClean
      · rename_i hView
        rw [if_neg hView]
        split at hClean
        · rename_i hList
          rw [if_pos hList]
          have hFree :=
            sanitizeAccountForExport_secretFree hClean
          refine iff_of_true ?_ ?_
          · exact (secretFreeText_iff hJson).mp
              (.of_secretFree hFree)
          · exact .of_secretFree
              ((secretFree_array []).mpr nofun)
        · rename_i hList
          rw [if_neg hList]
          exact hKept (Except.ok.inj hClean)

------------------------------------------------------------
-- Emitted Messages
------------------------------------------------------------

theorem jsonMembers_append
    {first second data : List (String × JsValue)}
    (hData :
      JsValue.jsonMembers (first ++ second) = .ok data) :
    ∃ front back,
      JsValue.jsonMembers first = .ok front ∧
        JsValue.jsonMembers second = .ok back ∧
        data = front ++ back := by
  induction first generalizing data with
  | nil => exact ⟨[], data, rfl, hData, rfl⟩
  | cons member first ih =>
      rcases member with ⟨key, value⟩
      rw [List.cons_append, JsValue.jsonMembers] at hData
      rcases bind_eq_ok.mp hData with ⟨found, hFound, hData⟩
      rcases bind_eq_ok.mp hData with ⟨rest, hRest, hData⟩
      rcases ih hRest with ⟨front, back, hFront, hBack, rfl⟩
      rw [JsValue.jsonMembers, hFound, hFront]
      cases found with
      | none =>
          cases hData
          exact ⟨front, back, rfl, hBack, rfl⟩
      | some copy =>
          cases hData
          exact ⟨(key, copy) :: front, back, rfl, hBack, rfl⟩

/- The payload member of a message is what was cleaned. -/
theorem message_payload
    {topic now : String}
    {revision : Nat}
    {payload correlationOrOpts maybeTraceId msg : JsValue}
    (hMessage :
      messageOf topic now revision payload correlationOrOpts
        maybeTraceId = .ok msg) :
    ∃ clean found,
      sanitizeOutboundPayload topic payload = .ok clean ∧
        clean.json = .ok found ∧
        msg.field "payload" = found.getD .undefined := by
  unfold messageOf at hMessage
  rcases bind_eq_ok.mp hMessage with ⟨clean, hClean, hCopy⟩
  unfold JsValue.jsonCopy at hCopy
  rcases bind_eq_ok.mp hCopy with ⟨text, hText, hDone⟩
  rcases JsValue.json_object_eq hText with ⟨data, hData, rfl⟩
  cases hDone
  rcases jsonMembers_append hData with
    ⟨front, back, hFront, hBack, rfl⟩
  rw [JsValue.jsonMembers] at hBack
  rcases bind_eq_ok.mp hBack with ⟨found, hFound, hBack⟩
  refine ⟨clean, found, hClean, hFound, ?_⟩
  change ((front ++ back).lookup "payload").getD .undefined = _
  have hNew : front.lookup "payload" = none := by
    rw [List.lookup_eq_none_iff]
    rintro ⟨key, copy⟩ hMem
    rcases (JsValue.mem_jsonMembers hFront).mp hMem with
      ⟨old, hOld, _⟩
    rw [bne_iff_ne]
    rintro rfl
    unfold givenMember at hOld
    split at hOld
    · split at hOld
      · simp at hOld
      · simp at hOld
    · split at hOld
      · simp at hOld
      · simp at hOld
  rw [List.lookup_append, hNew, Option.none_or]
  cases found with
  | none =>
      cases hBack
      rfl
  | some copy =>
      cases hBack
      rfl

/-
  What leaves in the payload of an event has no secret
  exactly when the part that is not cleaned has none.
-/
theorem emitted_secretFree_iff
    (server : WsServer)
    (topic now : String)
    (payload correlationOrOpts maybeTraceId : JsValue) :
    (∀ next sent,
      server.broadcast topic now payload correlationOrOpts
          maybeTraceId = .ok (next, sent) →
        ∀ client msg, (client, msg) ∈ sent →
          (SecretFree (msg.field "payload") ↔
            SecretFreeText (uncleanedPart topic payload))) ∧
    ∀ client sent,
      server.send client topic now payload correlationOrOpts
          maybeTraceId = .ok sent →
        ∀ receiver msg, (receiver, msg) ∈ sent →
          (SecretFree (msg.field "payload") ↔
            SecretFreeText (uncleanedPart topic payload)) := by
  have hEvery :
      ∀ revision msg,
        messageOf topic now revision payload correlationOrOpts
            maybeTraceId = .ok msg →
          (SecretFree (msg.field "payload") ↔
            SecretFreeText (uncleanedPart topic payload)) := by
    intro revision msg hMessage
    rcases message_payload hMessage with
      ⟨clean, found, hClean, hFound, hField⟩
    rw [hField]
    exact outbound_secretFree_iff hClean hFound
  refine ⟨?_, ?_⟩
  · intro next sent hSent client msg hMem
    unfold WsServer.broadcast at hSent
    split at hSent
    · cases hSent
      nomatch hMem
    · rcases bind_eq_ok.mp hSent with ⟨text, hText, hDone⟩
      cases hDone
      rcases List.mem_map.mp hMem with ⟨_, _, hSame⟩
      cases hSame
      exact hEvery _ msg hText
  · intro client sent hSent receiver msg hMem
    unfold WsServer.send at hSent
    split at hSent
    · rcases bind_eq_ok.mp hSent with ⟨text, hText, hDone⟩
      cases hDone
      rcases List.mem_singleton.mp hMem with hSame
      cases hSame
      exact hEvery _ msg hText
    · cases hSent
      nomatch hMem

/- One client, and nothing broadcast so far. -/
def oneClient : WsServer where
  clients := some [(0, true)]
  revisions := .empty

/- The account is the partial snapshot of its event. -/
def snapshotDelta : JsValue :=
  .object
    [("type", .text "ACCOUNT_CREATED"),
      ("partialSnapshot", .object
        [("id", .text "acc_1"),
          ("accountPassword", .text "hunter2")])]

theorem snapshot_delta_is_emitted :
    ∃ msg,
      oneClient.send (0, true) "accounts:delta" "now"
          snapshotDelta .undefined .undefined =
        .ok [(0, msg)] ∧
      (SecretFree (msg.field "payload") ↔
        SecretFreeText
          (uncleanedPart "accounts:delta" snapshotDelta)) :=
  ⟨_, rfl, (emitted_secretFree_iff oneClient "accounts:delta"
    "now" snapshotDelta .undefined .undefined).2 (0, true) _
      rfl 0 _ List.mem_cons_self⟩

/- The account is in another member of its event. -/
def accountDelta : JsValue :=
  .object
    [("type", .text "ACCOUNT_CREATED"),
      ("account", .object
        [("id", .text "acc_1"),
          ("password", .text "hunter2")])]

theorem relayed_account_leaks :
    ∃ next msg,
      oneClient.relayAccountsDelta "now" accountDelta =
          .ok (next, [(0, msg)]) ∧
        ¬ SecretFree (msg.field "payload") :=
  ⟨_, _, rfl, by decide⟩

end WebSocket

end Mutators

end ControlPlane
