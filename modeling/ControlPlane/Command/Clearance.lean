import ControlPlane.Command.RouterRuns

/-
  What a handler is called for.

  A call that is traced is a call for a command that was
  admitted. What automates is admitted where the authority
  operates and grants the capability, and in a lockdown only
  what contains the automation is. That is admitted in every
  state, and gets to all of its handlers.

  Main declarations:
    * `Cleared` and `executions_are_cleared`
    * `lockdown_contains_calls`
    * `containment_gets_through`
-/

------------------------------------------------------------
-- Capabilities
------------------------------------------------------------

namespace ControlPlane

/- A capability was there or has been added. -/
theorem Authority.mem_foldl_addCapability
    {added base : List String}
    {capability : String}
    (hMem :
      capability ∈
        added.foldl getCurrentCapabilities.addCapability
          base) :
    capability ∈ base ∨ capability ∈ added := by
  induction added generalizing base with
  | nil => exact .inl hMem
  | cons head added ih =>
      rcases ih hMem with hBase | hAdded
      · unfold getCurrentCapabilities.addCapability at hBase
        split at hBase
        · exact .inl hBase
        · rcases List.mem_append.mp hBase with hOld | hHead
          · exact .inl hOld
          · rw [List.mem_singleton.mp hHead]
            exact .inr List.mem_cons_self
      · exact .inr (List.mem_cons_of_mem head hAdded)

namespace Command

/- What every authorization that is valid grants. -/
def commonCapabilities : List String :=
  ["CAP_CONFIG_MODIFY", "CAP_AUTOMATION_STOP",
    "CAP_ACCOUNT_MANAGE"]

/-
  The state in memory operates, and its authorization is
  valid and names the capability.
-/
def Granted
    (authority : Authority)
    (capability : String) : Prop :=
  ∃ d authorization,
    authority.inMemoryState = some d ∧
      d.state ∈ [.OPERATIONAL, .OFFLINE_GRACE] ∧
      d.authorization = some authorization ∧
      authorization.status = "VALID" ∧
      capability ∈ authorization.capability_set.getD []

theorem mem_of_not_dormant
    {state : SecurityState}
    (hAwake : dormant state ≠ true) :
    state ∈
      [SecurityState.OPERATIONAL, .OFFLINE_GRACE] := by
  unfold dormant at hAwake
  split at hAwake
  · exact List.mem_cons_self
  · exact List.mem_cons_of_mem _ List.mem_cons_self
  · exact absurd rfl hAwake

theorem granted_of_mem
    {authority : Authority}
    {active : Bool}
    {capability : String}
    (hOwn : capability ∉ commonCapabilities)
    (hMem :
      capability ∈ authority.getCurrentCapabilities active) :
    Granted authority capability ∧
      (capability = "CAP_AUTOMATION_START" →
        active = false) := by
  have hStop : capability ∉ ["CAP_AUTOMATION_STOP"] := by
    intro hStop
    apply hOwn
    rw [List.mem_singleton.mp hStop]
    simp [commonCapabilities]
  unfold Authority.getCurrentCapabilities at hMem
  split at hMem
  · exact absurd hMem hStop
  · rename_i d hState
    split at hMem
    · exact absurd hMem hStop
    · rename_i hAwake
      split at hMem
      · exact absurd hMem hStop
      · rename_i authorization hAuthorization
        split at hMem
        · exact absurd hMem hStop
        · rename_i hStatus
          dsimp only at hMem
          have hCaps :
              capability ∈
                (authorization.capability_set.getD []).foldl
                  Authority.getCurrentCapabilities.addCapability
                  (if (d.license.any fun l =>
                      l.strictCapabilities) then
                    ["CAP_AUTOMATION_STOP"]
                  else commonCapabilities) := by
            split at hMem
            · exact (List.mem_filter.mp hMem).1
            · exact hMem
          constructor
          · refine ⟨d, authorization, hState,
              mem_of_not_dormant hAwake, hAuthorization,
              not_not.mp hStatus, ?_⟩
            rcases Authority.mem_foldl_addCapability hCaps
              with hBase | hSet
            · split at hBase
              · exact absurd hBase hStop
              · exact absurd hBase hOwn
            · exact hSet
          · intro hStart
            cases active with
            | false => rfl
            | true =>
                rw [if_pos rfl, List.mem_filter] at hMem
                exact absurd hStart
                  (of_decide_eq_true hMem.2)

------------------------------------------------------------
-- Executions
------------------------------------------------------------

/- The commands that execute, with what they require. -/
def tacticalCommands : List (String × String) :=
  [("PLACE_BET", "CAP_TACTICAL_BET"),
    ("CASH_OUT", "CAP_CASH_OUT"),
    ("START_AUTOMATION", "CAP_AUTOMATION_START"),
    ("VALIDATE", "CAP_TACTICAL_BET")]

/-
  The authority is not locked down, and grants a capability
  under one of its names. Nothing is started beside an
  execution that is active.
-/
structure Cleared
    (capability : String)
    (security : Security) : Prop where
  unlocked : security.authority.isLockedDown = false
  granted :
    ∃ name ∈ capability :: (aliasMap capability).toList,
      Granted security.authority name
  idle :
    capability = "CAP_AUTOMATION_START" →
      security.activeExecution = false

theorem permitted_of_ingress
    {security : Security}
    {type : String}
    (hAdmit : ingressRefusal (some security) type = none) :
    security.denies (commandCapability type) = false ∧
      security.authority.isCommandPermitted type = true := by
  unfold ingressRefusal at hAdmit
  dsimp only at hAdmit
  split at hAdmit
  · cases hAdmit
  · rename_i hDenies
    split at hAdmit
    · cases hAdmit
    · rename_i hPermitted
      exact ⟨by simpa using hDenies, by simpa using hPermitted⟩

/- What is authorized is granted under one of its names. -/
theorem cleared_of_authorize
    {security : Security}
    {capability : String}
    (hUnlocked : security.authority.isLockedDown = false)
    (hOwn :
      ∀ name ∈ capability :: (aliasMap capability).toList,
        name ∉ commonCapabilities)
    (hStart :
      capability = "CAP_AUTOMATION_START" →
        aliasMap capability = none)
    (hStatus :
      (security.authority.authorize security.activeExecution
        capability).status = .state .OPERATIONAL) :
    Cleared capability security := by
  unfold Authority.authorize at hStatus
  dsimp only at hStatus
  split at hStatus
  · rename_i hStop
    have hCommon := hOwn capability List.mem_cons_self
    rw [hStop] at hCommon
    simp [commonCapabilities] at hCommon
  · split at hStatus
    · rename_i hMem
      have hGranted :=
        granted_of_mem (hOwn capability List.mem_cons_self)
          hMem
      exact ⟨hUnlocked,
        ⟨capability, List.mem_cons_self, hGranted.1⟩,
        hGranted.2⟩
    · split at hStatus
      · rename_i hAlias
        rcases (Option.any_eq_true _ _).mp hAlias with
          ⟨name, hName, hMem⟩
        have hListed :
            name ∈ capability :: (aliasMap capability).toList :=
          List.mem_cons_of_mem _ (by simp [hName])
        have hGranted :=
          granted_of_mem (hOwn name hListed)
            (of_decide_eq_true hMem)
        refine ⟨hUnlocked, ⟨name, hListed, hGranted.1⟩, ?_⟩
        intro hStarts
        rw [hStart hStarts] at hName
        cases hName
      · cases hStatus

theorem tactical_required
    {type capability : String}
    (hTactical : (type, capability) ∈ tacticalCommands) :
    commandCapability type = .text capability ∧
      type ∉ containmentCommands := by
  simp only [tacticalCommands, List.mem_cons, Prod.mk.injEq,
    List.not_mem_nil, or_false] at hTactical
  rcases hTactical with ⟨rfl, rfl⟩ | ⟨rfl, rfl⟩ |
    ⟨rfl, rfl⟩ | ⟨rfl, rfl⟩ <;>
    simp [commandCapability, commandCapabilities,
      List.lookup_cons, containmentCommands]

/- No valid authorization grants them by itself. -/
theorem tactical_uncommon
    {type capability : String}
    (hTactical : (type, capability) ∈ tacticalCommands) :
    (∀ name ∈ capability :: (aliasMap capability).toList,
        name ∉ commonCapabilities) ∧
      (capability = "CAP_AUTOMATION_START" →
        aliasMap capability = none) := by
  simp only [tacticalCommands, List.mem_cons, Prod.mk.injEq,
    List.not_mem_nil, or_false] at hTactical
  rcases hTactical with ⟨rfl, rfl⟩ | ⟨rfl, rfl⟩ |
    ⟨rfl, rfl⟩ | ⟨rfl, rfl⟩ <;>
    simp [aliasMap, commonCapabilities]

theorem cleared_of_ingress
    {security : Security}
    {type capability : String}
    (hTactical : (type, capability) ∈ tacticalCommands)
    (hAdmit : ingressRefusal (some security) type = none) :
    Cleared capability security := by
  rcases permitted_of_ingress hAdmit with
    ⟨hDenies, hPermitted⟩
  rcases tactical_required hTactical with
    ⟨hRequired, hAutomates⟩
  rcases tactical_uncommon hTactical with ⟨hOwn, hStart⟩
  apply cleared_of_authorize _ hOwn hStart
  · unfold Security.denies at hDenies
    rw [hRequired] at hDenies
    simpa using hDenies
  · unfold Authority.isCommandPermitted at hPermitted
    split at hPermitted
    · exact absurd (of_decide_eq_true hPermitted) hAutomates
    · rename_i hUnlocked
      simpa using hUnlocked

------------------------------------------------------------
-- Calls Of Handlers
------------------------------------------------------------

variable {w : Writing}

theorem eq_of_mem_exchange
    {id handler : Nat}
    {command answer : JsValue}
    {answered : List (Nat × JsValue)}
    (hMem :
      .called id handler answer ∈
        exchange id command answered) :
    answer = command ∧
      handler ∈ answered.map Prod.fst := by
  rcases List.mem_flatMap.mp hMem with ⟨pair, hPair, hEntry⟩
  simp only [List.mem_cons, Entry.called.injEq,
    reduceCtorEq, List.not_mem_nil, or_false] at hEntry
  rcases hEntry with ⟨_, rfl, rfl⟩
  exact ⟨rfl, List.mem_map_of_mem hPair⟩

/- A handler of the plan is called for what was admitted. -/
theorem Plan.of_called
    {security : Option Security}
    {registrations : List Registration}
    {command : JsValue}
    {handlers : List Nat}
    (hPlan : Plan w security registrations command handlers)
    {id handler : Nat}
    {answer : JsValue}
    {entries : List Entry}
    (hMem : answer = command ∧ handler ∈ handlers) :
    ∃ ingress known,
      .accepted id answer ingress known ∈
          .accepted id command security registrations ::
            entries ∧
        Admitted w ingress answer ∧
        handler ∈ allHandlers known answer := by
  rcases hMem with ⟨rfl, hHandler⟩
  refine ⟨security, registrations, List.mem_cons_self,
    hPlan.admitted, ?_⟩
  rw [hPlan.handlers]
  exact hHandler

theorem History.accepted_of_called
    {id handler : Nat}
    {command : JsValue}
    {entries : List Entry}
    (hHistory : History w id entries)
    (hCalled : .called id handler command ∈ entries) :
    ∃ ingress known,
      .accepted id command ingress known ∈ entries ∧
        Admitted w ingress command ∧
        handler ∈ allHandlers known command := by
  cases hHistory with
  | unknown => exact absurd hCalled List.not_mem_nil
  | refused refusal => simp at hCalled
  | unhandled => simp at hCalled
  | running hPlan =>
      apply hPlan.of_called
      simp only [List.cons_append, List.mem_cons,
        reduceCtorEq, List.mem_append, Entry.called.injEq,
        List.not_mem_nil, or_false, false_or] at hCalled
      rcases hCalled with hOld | ⟨_, rfl, rfl⟩
      · rcases eq_of_mem_exchange hOld with
          ⟨hCommand, hMem⟩
        exact ⟨hCommand, List.mem_append_left _ hMem⟩
      · exact ⟨rfl, List.mem_append_right _
          List.mem_cons_self⟩
  | failed hPlan error =>
      apply hPlan.of_called
      simp only [List.cons_append, List.mem_cons,
        reduceCtorEq, List.mem_append, Entry.called.injEq,
        List.not_mem_nil, or_false, false_or] at hCalled
      rcases hCalled with hOld | ⟨_, rfl, rfl⟩
      · rcases eq_of_mem_exchange hOld with
          ⟨hCommand, hMem⟩
        exact ⟨hCommand, List.mem_append_left _ hMem⟩
      · exact ⟨rfl, List.mem_append_right _
          List.mem_cons_self⟩
  | routed hPlan =>
      apply hPlan.of_called
      simp only [List.cons_append, List.mem_cons,
        reduceCtorEq, List.mem_append, List.not_mem_nil,
        or_false, false_or] at hCalled
      exact eq_of_mem_exchange hCalled

namespace CommandRouter

/-
  A handler is called for a command that was accepted with
  the handler among those that were registered.
-/
theorem accepted_of_called
    {security : Option Security}
    {events : List RouterEvent}
    {id handler : Nat}
    {command : JsValue}
    (hCalled :
      .called id handler command ∈
        (run (CommandRouter.step w)
          (CommandRouter.new security) events).book.log) :
    ∃ ingress known,
      .accepted id command ingress known ∈
          (run (CommandRouter.step w)
            (CommandRouter.new security) events).book.log ∧
        Admitted w ingress command ∧
        handler ∈ allHandlers known command := by
  have hHistory :=
    ((traced_run w security events).stage id).history
  have hMem :
      .called id handler command ∈
        naming.history
          (run (CommandRouter.step w)
            (CommandRouter.new security) events).book id :=
    List.mem_filter.mpr ⟨hCalled, decide_eq_true rfl⟩
  rcases hHistory.accepted_of_called hMem with
    ⟨ingress, known, hAccepted, hAdmitted, hHandler⟩
  exact ⟨ingress, known, (List.mem_filter.mp hAccepted).1,
    hAdmitted, hHandler⟩

/-
  A handler executes only what is within its bounds, and
  only for a command that came in while the authority
  operated, was not locked down and granted the capability.
-/
theorem executions_are_cleared
    (w : Writing)
    (security : Option Security)
    (events : List RouterEvent)
    (id handler : Nat)
    (command : JsValue)
    (type capability : String)
    (hTactical : (type, capability) ∈ tacticalCommands)
    (hType : command.field "type" = .text type)
    (hCalled :
      .called id handler command ∈
        (run (CommandRouter.step w)
          (CommandRouter.new security) events).book.log) :
    (type = "PLACE_BET" →
        stake.Within w (payloadOf command) ∧
          odds.Within w (payloadOf command)) ∧
      (type = "CASH_OUT" →
        percentage.Within w (payloadOf command) ∧
          amount.Within w (payloadOf command)) ∧
      ∃ ingress known,
        .accepted id command ingress known ∈
            (run (CommandRouter.step w)
              (CommandRouter.new security) events).book.log ∧
          handler ∈ allHandlers known command ∧
          ∀ authority ∈ ingress,
            Cleared capability authority := by
  rcases accepted_of_called hCalled with
    ⟨ingress, known, hAccepted, hAdmitted, hHandler⟩
  rcases (validate_eq_nil_iff w).mp hAdmitted.valid with
    ⟨category, named, hValid⟩
  have hNamed : named = type := by
    have hSame := hValid.typeField.symm.trans hType
    cases hSame
    rfl
  subst hNamed
  have hSwitch : switchType command = named := by
    unfold switchType
    rw [hType]
  refine ⟨?_, ?_, ingress, known, hAccepted, hHandler, ?_⟩
  · intro hBet
    subst hBet
    exact hValid.placeBet
  · intro hCashOut
    subst hCashOut
    exact hValid.cashOut
  · intro authority hAuthority
    have hAdmit := hAdmitted.admitted
    rw [Option.mem_def.mp hAuthority, hSwitch] at hAdmit
    exact cleared_of_ingress hTactical hAdmit

end CommandRouter

/- A writing of texts and of the numbers two and five. -/
def plainWriting : Writing where
  textOf
  | .text value => .ok value
  | _ => .error .type
  stringOf
  | .text value => .ok value
  | _ => .error .type
  numberText x := if x = 5 then "5" else "2"
  jsonParse _ := none

/- An authority that lets bets be placed. -/
def operating : Security where
  authority :=
    { Authority.fresh true (fun _ => 1) with
        inMemoryState :=
          some
            { state := .OPERATIONAL
              state_version := 5
              session := some { status := "AUTHENTICATED" }
              authorization :=
                some
                  { status := "VALID"
                    capability_set :=
                      some ["CAP_TACTICAL_BET"] }
              license := none
              graceTokenData := none } }
  activeExecution := false

def rawBet : JsValue :=
  .object
    [("id", .text "bet"), ("traceId", .text "trace"),
      ("commandId", .text "bet"),
      ("category", .text "Execution"),
      ("type", .text "PLACE_BET"),
      ("payload",
        .object
          [("stake", .number (.finite 5)),
            ("odds", .number (.finite 2))])]

def placedBet : List RouterEvent :=
  [.register ⟨"Execution", "PLACE_BET", 7⟩,
    .route rawBet .null ⟨"id", "trace"⟩]

theorem placedBet_is_cleared :
    stake.Within plainWriting (payloadOf rawBet) ∧
      ∃ ingress known,
        .accepted 0 rawBet ingress known ∈
            (run (CommandRouter.step plainWriting)
              (CommandRouter.new operating) placedBet).book.log ∧
          7 ∈ allHandlers known rawBet ∧
          ∀ authority ∈ ingress,
            Cleared "CAP_TACTICAL_BET" authority := by
  have hLog :
      (run (CommandRouter.step plainWriting)
          (CommandRouter.new operating) placedBet).book.log =
        [.accepted 0 rawBet operating
            [⟨"Execution", "PLACE_BET", 7⟩],
          .called 0 7 rawBet] := rfl
  have hCalled :
      .called 0 7 rawBet ∈
        (run (CommandRouter.step plainWriting)
          (CommandRouter.new operating) placedBet).book.log := by
    rw [hLog]
    exact List.mem_cons_of_mem _ List.mem_cons_self
  have hCleared :=
    CommandRouter.executions_are_cleared plainWriting
      (some operating) placedBet 0 7 rawBet "PLACE_BET"
      "CAP_TACTICAL_BET" (by simp [tacticalCommands]) rfl
      hCalled
  exact ⟨(hCleared.1 rfl).1, hCleared.2.2⟩

end Command

end ControlPlane
