import ControlPlane.Command.Clearance

/-
  What gets through while the authority is locked down.

  Once it is, handlers are called for what contains the
  automation and for what had come in before. Commands that
  contain it are refused in no state of the authority, and a
  call for one of them goes through all of its handlers, if
  none of them throws.

  Main declarations:
    * `CommandRouter.LockedDown`
    * `lockdown_contains_calls`
    * `containment_gets_through`
-/

------------------------------------------------------------
-- Admission
------------------------------------------------------------

namespace ControlPlane

namespace Command

variable {w : Writing}

theorem containment_of_ingress
    {security : Security}
    {type : String}
    (hLocked : security.authority.isLockedDown = true)
    (hAdmit : ingressRefusal (some security) type = none) :
    type ∈ containmentCommands := by
  have hPermitted := (permitted_of_ingress hAdmit).2
  unfold Authority.isCommandPermitted at hPermitted
  rw [if_pos hLocked] at hPermitted
  exact of_decide_eq_true hPermitted

/- An emergency stop is authorized without a session. -/
theorem denies_containment
    {type : String}
    (hType : type ∈ containmentCommands)
    (security : Security) :
    security.denies (commandCapability type) = false := by
  have hRequired :
      commandCapability type = .text "CAP_AUTOMATION_STOP" ∨
        commandCapability type = .undefined := by
    simp only [containmentCommands, List.mem_cons,
      List.not_mem_nil, or_false] at hType
    rcases hType with rfl | rfl | rfl | rfl <;>
      simp [commandCapability, commandCapabilities,
        List.lookup_cons, inheritedNames]
  rcases hRequired with hStop | hNone
  · rw [hStop]
    simp [Security.denies, Authority.authorize]
  · rw [hNone]
    rfl

theorem automates_not
    {type : String}
    (hType : type ∈ containmentCommands) :
    type ∉ automatedExecutionCommands := by
  simp only [containmentCommands, List.mem_cons,
    List.not_mem_nil, or_false] at hType
  rcases hType with rfl | rfl | rfl | rfl <;>
    simp [automatedExecutionCommands]

/- No state of the authority refuses a containment. -/
theorem ingressRefusal_containment
    {type : String}
    (hType : type ∈ containmentCommands)
    (security : Option Security) :
    ingressRefusal security type = none := by
  cases security with
  | none => rfl
  | some security =>
      have hPermitted :
          security.authority.isCommandPermitted type =
            true := by
        unfold Authority.isCommandPermitted
        split
        · exact decide_eq_true hType
        · split
          · exact decide_eq_true (automates_not hType)
          · rfl
      unfold ingressRefusal
      dsimp only
      rw [denies_containment hType security, hPermitted]
      rfl

/- A payload that meets the contract of commands. -/
structure WellFormed
    (w : Writing)
    (headers : JsValue)
    (drawn : Drawn)
    (raw : JsValue) : Prop where
  object : isObject (parsePayload w raw) = true
  version :
    ∃ version,
      negotiateVersion w
          (headers.orElse (parsePayload w raw)) =
        .ok version
  named :
    (((parsePayload w raw).field "category").truthy ||
      ((parsePayload w raw).field "type").truthy) = true
  valid :
    validate w (withIdentifiers drawn (parsePayload w raw)) =
      .ok []

theorem ingest_of_wellFormed
    {security : Option Security}
    {headers : JsValue}
    {drawn : Drawn}
    {raw : JsValue}
    (hRaw : WellFormed w headers drawn raw)
    (hAdmit :
      ingressRefusal security
          (switchType
            (withIdentifiers drawn (parsePayload w raw))) =
        none) :
    ingest w security headers drawn raw =
      .ok (withIdentifiers drawn (parsePayload w raw)) := by
  rcases hRaw.version with ⟨version, hVersion⟩
  have hCheck :
      check w security
          (withIdentifiers drawn (parsePayload w raw)) =
        .ok (withIdentifiers drawn (parsePayload w raw)) := by
    unfold check
    rw [hRaw.valid]
    dsimp only [orThrow, bind, Except.bind]
    rw [hAdmit]
    rfl
  have hNamed := hRaw.named
  rw [Bool.or_eq_true] at hNamed
  unfold ingest
  dsimp only
  rw [hRaw.object, hVersion]
  change (if _ then _ else check w security _) = _
  rw [if_neg, hCheck]
  rw [Bool.and_eq_true, Bool.not_eq_true', Bool.not_eq_true']
  rintro ⟨hCategory, hType⟩
  rcases hNamed with hNamed | hNamed
  · rw [hCategory] at hNamed
    cases hNamed
  · rw [hType] at hNamed
    cases hNamed

------------------------------------------------------------
-- Lockdown
------------------------------------------------------------

namespace CommandRouter

variable {s : CommandRouter}

def LockedDown (s : CommandRouter) : Prop :=
  ∃ security,
    s.security = some security ∧
      security.authority.isLockedDown = true

end CommandRouter

/- The authority is set to none that is not locked down. -/
def RouterEvent.KeepsLockdown : RouterEvent → Prop
| .secure security =>
    ∃ locked,
      security = some locked ∧
        locked.authority.isLockedDown = true
| _ => True

/- What is accepted contains the automation. -/
def Contained (entries : List Entry) : Prop :=
  ∀ id command ingress known,
    .accepted id command ingress known ∈ entries →
      switchType command ∈ containmentCommands

namespace CommandRouter

variable {s : CommandRouter}

theorem contained_nil : Contained [] :=
  fun _ _ _ _ hMem => absurd hMem List.not_mem_nil

theorem contained_ended
    (id : Nat)
    (outcome : Outcome) :
    Contained [.ended id outcome] := by
  intro other command ingress known hMem
  simp at hMem

theorem start_log
    (s : CommandRouter)
    (raw headers : JsValue)
    (drawn : Drawn) :
    ∃ later,
      (s.start w raw headers drawn).book.log = s.book.log ++ later ∧
        (s.LockedDown → Contained later) := by
  unfold CommandRouter.start
  split
  · exact ⟨_, rfl, fun _ => contained_ended _ _⟩
  · rename_i command hIngest
    split
    · exact ⟨_, rfl, fun _ => contained_ended _ _⟩
    · exact ⟨_, rfl, fun _ => contained_ended _ _⟩
    · refine ⟨_, rfl, ?_⟩
      rintro ⟨security, hSecurity, hLocked⟩ id other ingress
        known hMem
      simp only [List.mem_cons, Entry.accepted.injEq,
        reduceCtorEq, List.not_mem_nil, or_false] at hMem
      rcases hMem with ⟨_, rfl, _⟩
      have hAdmit := (admitted_of_ingest w hIngest).admitted
      rw [hSecurity] at hAdmit
      exact containment_of_ingress hLocked hAdmit

theorem resume_log
    (s : CommandRouter)
    (call : RouteCall)
    (value : JsValue) :
    ∃ later, (s.resume call value).book.log = s.book.log ++ later ∧
      Contained later := by
  unfold CommandRouter.resume
  split
  · refine ⟨_, rfl, ?_⟩
    intro id command ingress known hMem
    simp at hMem
  · refine ⟨_, rfl, ?_⟩
    intro id command ingress known hMem
    simp at hMem

theorem fail_log
    (s : CommandRouter)
    (call : RouteCall)
    (error : JsValue) :
    ∃ later, (s.fail call error).book.log = s.book.log ++ later ∧
      Contained later := by
  exact ⟨_, rfl, contained_ended _ _⟩

/- A step forgets nothing of what is logged. -/
theorem step_log
    (s : CommandRouter)
    (event : RouterEvent) :
    ∃ later, (s.step w event).book.log = s.book.log ++ later ∧
      (s.LockedDown → Contained later) := by
  have hSame :
      ∃ later, s.book.log = s.book.log ++ later ∧
        (s.LockedDown → Contained later) :=
    ⟨[], (List.append_nil _).symm, fun _ => contained_nil⟩
  cases event with
  | register registration => exact hSame
  | secure security => exact hSame
  | route raw headers drawn =>
      exact start_log s raw headers drawn
  | resolve id value =>
      cases hFind : s.find id with
      | none =>
          rw [step_resolve_none hFind]
          exact hSame
      | some call =>
          rw [step_resolve hFind]
          rcases resume_log s call value with
            ⟨later, hLog, hContained⟩
          exact ⟨later, hLog, fun _ => hContained⟩
  | reject id error =>
      cases hFind : s.find id with
      | none =>
          rw [step_reject_none hFind]
          exact hSame
      | some call =>
          rw [step_reject hFind]
          rcases fail_log s call error with
            ⟨later, hLog, hContained⟩
          exact ⟨later, hLog, fun _ => hContained⟩

/- Only a new authority ends a lockdown. -/
theorem LockedDown.step
    {event : RouterEvent}
    (hLocked : s.LockedDown)
    (hKeeps : event.KeepsLockdown) :
    (s.step w event).LockedDown := by
  cases event with
  | register registration => exact hLocked
  | secure security => exact hKeeps
  | route raw headers drawn =>
      change (s.start w raw headers drawn).LockedDown
      unfold CommandRouter.start
      split
      · exact hLocked
      · split
        · exact hLocked
        · exact hLocked
        · exact hLocked
  | resolve id value =>
      cases hFind : s.find id with
      | none =>
          rw [step_resolve_none hFind]
          exact hLocked
      | some call =>
          rw [step_resolve hFind]
          unfold CommandRouter.resume
          split
          · exact hLocked
          · exact hLocked
  | reject id error =>
      cases hFind : s.find id with
      | none =>
          rw [step_reject_none hFind]
          exact hLocked
      | some call =>
          rw [step_reject hFind]
          exact hLocked

theorem run_log
    {events : List RouterEvent}
    (hLocked : s.LockedDown)
    (hKeeps : ∀ event ∈ events, event.KeepsLockdown) :
    ∃ later,
      (run (CommandRouter.step w) s events).book.log =
          s.book.log ++ later ∧
        Contained later := by
  induction events generalizing s with
  | nil => exact ⟨[], (List.append_nil _).symm, contained_nil⟩
  | cons event events ih =>
      have hEvent := hKeeps event List.mem_cons_self
      rcases step_log s event with ⟨first, hFirst, hNow⟩
      rcases ih (hLocked.step hEvent)
        (fun other hOther =>
          hKeeps other (List.mem_cons_of_mem _ hOther))
        with ⟨rest, hRest, hThen⟩
      refine ⟨first ++ rest, ?_, ?_⟩
      · rw [run_cons, hRest, hFirst, List.append_assoc]
      · intro id command ingress known hMem
        rcases List.mem_append.mp hMem with hLeft | hRight
        · exact hNow hLocked id command ingress known hLeft
        · exact hThen id command ingress known hRight

/-
  From a lockdown on handlers are called for commands that
  contain the automation, and for those that had come in
  before it.
-/
theorem lockdown_contains_calls
    (w : Writing)
    (security : Option Security)
    (before after : List RouterEvent)
    (hLocked :
      (run (CommandRouter.step w)
        (CommandRouter.new security) before).LockedDown)
    (hKeeps : ∀ event ∈ after, event.KeepsLockdown) :
    ∃ later,
      (run (CommandRouter.step w)
          (CommandRouter.new security)
          (before ++ after)).book.log =
        (run (CommandRouter.step w)
          (CommandRouter.new security) before).book.log ++ later ∧
      ∀ id handler command,
        .called id handler command ∈ later →
          switchType command ∈ containmentCommands ∨
            ∃ ingress known,
              .accepted id command ingress known ∈
                (run (CommandRouter.step w)
                  (CommandRouter.new security) before).book.log := by
  rcases run_log (w := w) hLocked hKeeps with
    ⟨later, hLog, hContained⟩
  rw [← run_append] at hLog
  refine ⟨later, hLog, ?_⟩
  intro id handler command hCalled
  have hWhole :
      .called id handler command ∈
        (run (CommandRouter.step w)
          (CommandRouter.new security)
          (before ++ after)).book.log := by
    rw [hLog]
    exact List.mem_append_right _ hCalled
  rcases accepted_of_called hWhole with
    ⟨ingress, known, hAccepted, _⟩
  rw [hLog] at hAccepted
  rcases List.mem_append.mp hAccepted with hBefore | hAfter
  · exact .inr ⟨ingress, known, hBefore⟩
  · exact .inl (hContained id command ingress known hAfter)

end CommandRouter

/- An authority whose native flag of revocation is set. -/
def revoked : Security where
  authority :=
    { operating.authority with revoked := true }
  activeExecution := false

def rawStop : JsValue :=
  .object
    [("id", .text "stop"), ("traceId", .text "trace"),
      ("commandId", .text "stop"),
      ("category", .text "Execution"),
      ("type", .text "EMERGENCY_STOP")]

/- A bet and a stop come in after a revocation. -/
def stoppedBet : List RouterEvent :=
  [.route rawBet .null ⟨"id", "trace"⟩,
    .route rawStop .null ⟨"id", "trace"⟩]

theorem stoppedBet_is_contained :
    ∃ later,
      (run (CommandRouter.step plainWriting)
          (CommandRouter.new (some revoked))
          ([.register ⟨"Execution", "*", 7⟩] ++
            stoppedBet)).book.log =
        (run (CommandRouter.step plainWriting)
          (CommandRouter.new (some revoked))
          [.register ⟨"Execution", "*", 7⟩]).book.log ++ later ∧
      ∀ id handler command,
        .called id handler command ∈ later →
          switchType command ∈ containmentCommands ∨
            ∃ ingress known,
              .accepted id command ingress known ∈
                (run (CommandRouter.step plainWriting)
                  (CommandRouter.new (some revoked))
                  [.register ⟨"Execution", "*", 7⟩]).book.log :=
  CommandRouter.lockdown_contains_calls plainWriting
    (some revoked) [.register ⟨"Execution", "*", 7⟩]
    stoppedBet ⟨revoked, rfl, rfl⟩
    (by simp [stoppedBet, RouterEvent.KeepsLockdown])

------------------------------------------------------------
-- Completion
------------------------------------------------------------

/- The event is a handler of the call returning. -/
def RouterEvent.resolves
    (id : Nat) : RouterEvent → Bool
| .resolve other _ => decide (other = id)
| _ => false

def RouterEvent.rejects
    (id : Nat) : RouterEvent → Bool
| .reject other _ => decide (other = id)
| _ => false

namespace CommandRouter

variable {s : CommandRouter}

theorem find_start
    {id : Nat}
    (hTraced : Traced w s)
    (hOld : id < s.book.nextId)
    (raw headers : JsValue)
    (drawn : Drawn) :
    (s.start w raw headers drawn).find id = s.find id := by
  unfold CommandRouter.start
  split
  · exact Naming.find_of_items rfl id
  · split
    · exact Naming.find_of_items rfl id
    · exact Naming.find_of_items rfl id
    · rename_i command _ _ handler waiting _
      have hNew :=
        (hTraced.fresh s.book.nextId (Nat.le_refl _)).1
      have hAdded :
          naming.find
              (s.book.number.add
                ⟨s.book.nextId, command, handler, waiting,
                  []⟩) id =
            s.find id :=
        (Naming.find_add hNew id).trans
          (if_neg (Nat.ne_of_gt hOld))
      exact (Naming.find_of_items rfl id).trans hAdded

theorem find_resume
    {id : Nat}
    {call : RouteCall}
    (hFind : s.find call.id = some call)
    (hNe : call.id ≠ id)
    (value : JsValue) :
    (s.resume call value).find id = s.find id := by
  unfold CommandRouter.resume
  split
  · rename_i handler waiting _
    have hNext :
        naming.idOf (call.next handler waiting value) =
          naming.idOf call := rfl
    have hReplaced :
        naming.find
            (naming.replace (call.next handler waiting value)
              s.book) id =
          s.find id :=
      (Naming.find_replace hNext hFind id).trans (if_neg hNe)
    exact (Naming.find_of_items rfl id).trans hReplaced
  · have hDropped :
        naming.find (naming.drop call.id s.book) id =
          s.find id :=
      (Naming.find_drop s.book call.id id).trans (if_neg hNe)
    exact (Naming.find_of_items rfl id).trans hDropped

theorem find_fail
    {id : Nat}
    {call : RouteCall}
    (hNe : call.id ≠ id)
    (error : JsValue) :
    (s.fail call error).find id = s.find id := by
  have hDropped :
      naming.find (naming.drop call.id s.book) id =
        s.find id :=
    (Naming.find_drop s.book call.id id).trans (if_neg hNe)
  exact (Naming.find_of_items rfl id).trans hDropped

/- A call waits on while others go on. -/
theorem find_step
    {id : Nat}
    {event : RouterEvent}
    (hTraced : Traced w s)
    (hOld : id < s.book.nextId)
    (hResolves : event.resolves id = false)
    (hRejects : event.rejects id = false) :
    (s.step w event).find id = s.find id := by
  cases event with
  | register registration => rfl
  | secure security => rfl
  | route raw headers drawn =>
      exact find_start hTraced hOld raw headers drawn
  | resolve other value =>
      cases hFind : s.find other with
      | none => rw [step_resolve_none hFind]
      | some call =>
          have hOther := Naming.find_id hFind
          subst hOther
          rw [step_resolve hFind]
          exact find_resume hFind
            (of_decide_eq_false hResolves) value
  | reject other error =>
      cases hFind : s.find other with
      | none => rw [step_reject_none hFind]
      | some call =>
          have hOther := Naming.find_id hFind
          subst hOther
          rw [step_reject hFind]
          exact find_fail (of_decide_eq_false hRejects) error

theorem mem_run_log
    {entry : Entry}
    {events : List RouterEvent}
    (hMem : entry ∈ s.book.log) :
    entry ∈ (run (CommandRouter.step w) s events).book.log := by
  have hStep :
      ∀ (state : CommandRouter) event, entry ∈ state.book.log →
        entry ∈ (state.step w event).book.log := by
    intro state event hEntry
    rcases step_log state event with ⟨later, hLog, _⟩
    rw [hLog]
    exact List.mem_append_left _ hEntry
  exact run_keeps hStep events hMem

/- The call that a handler returns to calls its next one. -/
theorem find_resume_self
    {call : RouteCall}
    {handler : Nat}
    {waiting : List Nat}
    (hFind : s.find call.id = some call)
    (hWaiting : call.waiting = handler :: waiting)
    (value : JsValue) :
    (s.resume call value).find call.id =
      some (call.next handler waiting value) := by
  have hNext :
      naming.idOf (call.next handler waiting value) =
        naming.idOf call := rfl
  have hReplaced :
      naming.find
          (naming.replace (call.next handler waiting value)
            s.book) call.id =
        some (call.next handler waiting value) :=
    (Naming.find_replace hNext hFind call.id).trans
      (if_pos rfl)
  unfold CommandRouter.resume
  rw [hWaiting]
  exact (Naming.find_of_items rfl call.id).trans hReplaced

/- The call whose last handler returns is routed. -/
theorem ended_resume
    {call : RouteCall}
    (hWaiting : call.waiting = [])
    (value : JsValue) :
    .ended call.id (.routed (call.results ++ [value])) ∈
      (s.resume call value).book.log := by
  unfold CommandRouter.resume
  rw [hWaiting]
  simp [withBook, Book.record]

theorem eq_resolve_of_resolves
    {id : Nat}
    {event : RouterEvent}
    (hResolves : event.resolves id = true) :
    ∃ value, event = .resolve id value := by
  cases event with
  | resolve other value =>
      have hOther : other = id := of_decide_eq_true hResolves
      exact ⟨value, by rw [hOther]⟩
  | register registration => cases hResolves
  | secure security => cases hResolves
  | route raw headers drawn => cases hResolves
  | reject other error => cases hResolves

/-
  A call whose handlers all return is routed. The induction
  is on the run, and each of the returns takes one handler
  off those that wait.
-/
theorem routed_of_returns
    {id : Nat}
    {call : RouteCall}
    {events : List RouterEvent}
    (hTraced : Traced w s)
    (hFind : s.find id = some call)
    (hKept : ∀ event ∈ events, event.rejects id = false)
    (hReturned :
      call.waiting.length <
        events.countP (fun event => event.resolves id)) :
    ∃ results,
      .ended id (.routed results) ∈
        (run (CommandRouter.step w) s events).book.log := by
  induction events generalizing s call with
  | nil => exact absurd hReturned (Nat.not_lt_zero _)
  | cons event events ih =>
      have hId : call.id = id := Naming.find_id hFind
      subst hId
      have hOld : call.id < s.book.nextId :=
        Told.known hTraced hFind
      have hHead := hKept event List.mem_cons_self
      have hTail :
          ∀ later ∈ events, later.rejects call.id = false :=
        fun later hLater =>
          hKept later (List.mem_cons_of_mem _ hLater)
      have hNext := hTraced.step (w := w) event
      rw [run_cons]
      cases hResolves : event.resolves call.id with
      | false =>
          rw [List.countP_cons, hResolves] at hReturned
          apply ih hNext _ hTail hReturned
          rw [find_step hTraced hOld hResolves hHead]
          exact hFind
      | true =>
          rw [List.countP_cons, hResolves] at hReturned
          rcases eq_resolve_of_resolves hResolves with
            ⟨value, rfl⟩
          rw [step_resolve hFind] at hNext ⊢
          cases hWaiting : call.waiting with
          | nil =>
              exact ⟨call.results ++ [value],
                mem_run_log (ended_resume hWaiting value)⟩
          | cons handler waiting =>
              rw [hWaiting] at hReturned
              exact ih hNext
                (find_resume_self hFind hWaiting value) hTail
                (Nat.lt_of_succ_lt_succ hReturned)

/-
  In every state of the authority a well-formed command that
  contains the automation is given to its handlers, and is
  routed once all of them have returned.
-/
theorem containment_gets_through
    (w : Writing)
    (security : Option Security)
    (before after : List RouterEvent)
    (raw headers : JsValue)
    (drawn : Drawn)
    (id : Nat)
    (command : JsValue)
    (handlers : List Nat)
    (hId :
      id = (run (CommandRouter.step w)
        (CommandRouter.new security) before).book.nextId)
    (hCommand :
      command = withIdentifiers drawn (parsePayload w raw))
    (hRaw : WellFormed w headers drawn raw)
    (hContainment :
      switchType command ∈ containmentCommands)
    (hHandlers :
      dispatch w
          (run (CommandRouter.step w)
            (CommandRouter.new security) before).registrations
          command =
        .ok handlers)
    (hHandled : handlers ≠ [])
    (hKept : ∀ event ∈ after, event.rejects id = false)
    (hReturned :
      handlers.length ≤
        after.countP (fun event => event.resolves id)) :
    ∃ results,
      .ended id (.routed results) ∈
        (run (CommandRouter.step w)
          (CommandRouter.new security)
          (before ++
            .route raw headers drawn :: after)).book.log := by
  have hTraced := traced_run w security before
  rw [run_append]
  generalize
    run (CommandRouter.step w) (CommandRouter.new security)
      before = s at hId hHandlers hTraced ⊢
  subst hId hCommand
  have hIngest :=
    ingest_of_wellFormed hRaw
      (ingressRefusal_containment hContainment s.security)
  rw [run_cons]
  have hNext := hTraced.step (.route raw headers drawn)
  change Traced w (s.start w raw headers drawn) at hNext
  change ∃ results, _ ∈
    (run (CommandRouter.step w) (s.start w raw headers drawn)
      after).book.log
  cases handlers with
  | nil => exact absurd rfl hHandled
  | cons handler waiting =>
      have hFind :
          (s.start w raw headers drawn).find s.book.nextId =
            some
              ⟨s.book.nextId,
                withIdentifiers drawn (parsePayload w raw),
                handler, waiting, []⟩ := by
        have hNew :=
          (hTraced.fresh s.book.nextId (Nat.le_refl _)).1
        unfold CommandRouter.start
        rw [hIngest]
        dsimp only
        rw [hHandlers]
        exact (Naming.find_of_items rfl _).trans
          ((Naming.find_add hNew _).trans (if_pos rfl))
      exact routed_of_returns hNext hFind hKept hReturned

end CommandRouter

def stopHandled : List RouterEvent :=
  [.register ⟨"Execution", "EMERGENCY_STOP", 7⟩,
    .secure (some revoked)]

theorem stop_gets_through :
    ∃ results,
      .ended 0 (.routed results) ∈
        (run (CommandRouter.step plainWriting)
          (CommandRouter.new none)
          (stopHandled ++
            [.route rawStop .null ⟨"id", "trace"⟩,
              .resolve 0 .undefined])).book.log :=
  CommandRouter.containment_gets_through plainWriting none
    stopHandled [.resolve 0 .undefined] rawStop .null
    ⟨"id", "trace"⟩ 0 rawStop [7] rfl rfl
    ⟨rfl, ⟨"2.0", rfl⟩, rfl, rfl⟩ List.mem_cons_self rfl
    (List.cons_ne_nil 7 []) (by simp [RouterEvent.rejects])
    le_rfl

end Command

end ControlPlane
