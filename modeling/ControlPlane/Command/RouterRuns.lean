import ControlPlane.Command.Router

/-
  Runs of the router, in any order of calls and answers.

  Calls are received, handlers return or throw, handlers are
  registered and the security authority changes in between.
  What is logged of one call is always the beginning of one
  story: it is refused, or its handlers are called one after
  another until they are done or one of them throws.

  Main declarations:
    * `History` and `calls_are_traced`
    * `Accounted` and `received_is_accounted`
-/

------------------------------------------------------------
-- Admission
------------------------------------------------------------

namespace ControlPlane

namespace Command

variable (w : Writing)

/- A command that got past the checks of the ingress. -/
structure Admitted
    (security : Option Security)
    (command : JsValue) : Prop where
  valid : validate w command = .ok []
  admitted : ingressRefusal security (switchType command) = none

theorem eq_of_orThrow
    {α : Type}
    {x : Except JsError α}
    {value : α}
    (hOk : orThrow x = .ok value) :
    x = .ok value := by
  cases x with
  | ok found =>
      cases hOk
      rfl
  | error error => cases hOk

theorem admitted_of_check
    {security : Option Security}
    {parsed command : JsValue}
    (hCheck : check w security parsed = .ok command) :
    Admitted w security command := by
  rcases bind_eq_ok.mp hCheck with ⟨errors, hErrors, hRest⟩
  have hValid := eq_of_orThrow hErrors
  cases errors with
  | cons error errors => cases hRest
  | nil =>
      cases hAdmit :
          ingressRefusal security (switchType parsed) with
      | some refusal =>
          rw [hAdmit] at hRest
          cases hRest
      | none =>
          rw [hAdmit] at hRest
          cases hRest
          exact ⟨hValid, hAdmit⟩

theorem admitted_of_ingest
    {security : Option Security}
    {headers : JsValue}
    {drawn : Drawn}
    {raw command : JsValue}
    (hIngest :
      ingest w security headers drawn raw = .ok command) :
    Admitted w security command := by
  unfold ingest at hIngest
  dsimp only at hIngest
  split at hIngest
  · cases hIngest
  · rcases bind_eq_ok.mp hIngest with ⟨version, _, hRest⟩
    split at hRest
    · cases hRest
    · exact admitted_of_check w hRest

/- The handlers that are called are all of the handlers. -/
theorem handlers_of_dispatch
    {registrations : List Registration}
    {command : JsValue}
    {handler : Nat}
    {waiting : List Nat}
    (hDispatch :
      dispatch w registrations command =
        .ok (handler :: waiting)) :
    allHandlers registrations command =
      handler :: waiting := by
  unfold dispatch at hDispatch
  split at hDispatch
  · cases hDispatch
  · split at hDispatch
    · rcases bind_eq_ok.mp hDispatch with ⟨text, _, hRest⟩
      cases hRest
    · rename_i hHandlers
      rcases bind_eq_ok.mp hDispatch with ⟨clean, _, hRest⟩
      rcases bind_eq_ok.mp hRest with ⟨text, _, hRest⟩
      cases hRest
      exact hHandlers

------------------------------------------------------------
-- Histories
------------------------------------------------------------

/- Handlers that were called and have returned a value. -/
def exchange
    (id : Nat)
    (command : JsValue)
    (answered : List (Nat × JsValue)) : List Entry :=
  answered.flatMap fun answer =>
    [.called id answer.1 command, .returned id answer.2]

theorem exchange_append
    (id : Nat)
    (command : JsValue)
    (first second : List (Nat × JsValue)) :
    exchange id command (first ++ second) =
      exchange id command first ++
        exchange id command second :=
  List.flatMap_append

/- A handler that was called has returned. -/
theorem exchange_answer
    (id : Nat)
    (command : JsValue)
    (answered : List (Nat × JsValue))
    (handler : Nat)
    (value : JsValue)
    (first last : Entry) :
    first :: exchange id command answered ++
          [.called id handler command] ++
        [.returned id value, last] =
      first :: exchange id command
          (answered ++ [(handler, value)]) ++ [last] := by
  rw [exchange_append]
  simp [exchange]

/- The handlers of an admitted command, in their order. -/
structure Plan
    (security : Option Security)
    (registrations : List Registration)
    (command : JsValue)
    (handlers : List Nat) : Prop where
  admitted : Admitted w security command
  handlers : allHandlers registrations command = handlers

/-
  What is logged of one call: nothing, why it was refused or
  not handled, or the handlers in the order of the plan, each
  called after the one before it has returned.
-/
inductive History (id : Nat) : List Entry → Prop where
| unknown : History id []
| refused (refusal : Refusal) :
    History id [.ended id (.refused refusal)]
| unhandled : History id [.ended id .unhandled]
| running
    {security : Option Security}
    {registrations : List Registration}
    {command : JsValue}
    {answered : List (Nat × JsValue)}
    {handler : Nat}
    {waiting : List Nat}
    (hPlan :
      Plan w security registrations command
        (answered.map Prod.fst ++ handler :: waiting)) :
    History id
      (.accepted id command security registrations ::
        exchange id command answered ++
          [.called id handler command])
| failed
    {security : Option Security}
    {registrations : List Registration}
    {command : JsValue}
    {answered : List (Nat × JsValue)}
    {handler : Nat}
    {waiting : List Nat}
    (hPlan :
      Plan w security registrations command
        (answered.map Prod.fst ++ handler :: waiting))
    (error : JsValue) :
    History id
      (.accepted id command security registrations ::
        exchange id command answered ++
          [.called id handler command,
            .ended id (.failed error)])
| routed
    {security : Option Security}
    {registrations : List Registration}
    {command : JsValue}
    {answered : List (Nat × JsValue)}
    (hPlan :
      Plan w security registrations command
        (answered.map Prod.fst)) :
    History id
      (.accepted id command security registrations ::
        exchange id command answered ++
          [.ended id (.routed (answered.map Prod.snd))])

/- A history with the call that is in flight, if it is. -/
inductive Stage (id : Nat) :
    Option RouteCall → List Entry → Prop where
| settled
    {entries : List Entry}
    (hHistory : History w id entries) :
    Stage id none entries
| running
    {security : Option Security}
    {registrations : List Registration}
    {call : RouteCall}
    {answered : List (Nat × JsValue)}
    (hPlan :
      Plan w security registrations call.command
        (answered.map Prod.fst ++
          call.current :: call.waiting))
    (hResults : call.results = answered.map Prod.snd) :
    Stage id (some call)
      (.accepted id call.command security registrations ::
        exchange id call.command answered ++
          [.called id call.current call.command])

theorem Stage.history
    {id : Nat}
    {call : Option RouteCall}
    {entries : List Entry}
    (hStage : Stage w id call entries) :
    History w id entries := by
  cases hStage with
  | settled hHistory => exact hHistory
  | running hPlan _ => exact .running hPlan

/- The ways in which a call ends. -/
namespace Outcome

def isRefused : Outcome → Bool
| .refused refusal => refusal.counted
| _ => false

def isThrown : Outcome → Bool
| .refused refusal => !refusal.counted
| _ => false

def isUnhandled : Outcome → Bool
| .unhandled => true
| _ => false

def isRouted : Outcome → Bool
| .routed _ => true
| _ => false

def isFailed : Outcome → Bool
| .failed _ => true
| _ => false

end Outcome

def Entry.endsAs
    (kind : Outcome → Bool) : Entry → Bool
| .ended _ outcome => kind outcome
| _ => false

theorem Entry.endsAs_split
    (entry : Entry) :
    (if entry.endsAs fun _ => true then 1 else 0) =
      (if entry.endsAs Outcome.isRefused then 1 else 0) +
        (if entry.endsAs Outcome.isThrown then 1 else 0) +
        (if entry.endsAs Outcome.isRouted then 1 else 0) +
        (if entry.endsAs Outcome.isUnhandled then 1 else 0) +
        (if entry.endsAs Outcome.isFailed then 1 else 0) := by
  cases entry with
  | accepted id command security registrations => rfl
  | called id handler command => rfl
  | returned id value => rfl
  | ended id outcome =>
      cases outcome with
      | refused refusal => cases refusal <;> rfl
      | unhandled => rfl
      | routed results => rfl
      | failed error => rfl

namespace CommandRouter

variable {w} {s : CommandRouter}

------------------------------------------------------------
-- Tracing
------------------------------------------------------------

abbrev Traced (w : Writing) (s : CommandRouter) : Prop :=
  Told naming (Stage w) s.book

theorem Traced.refuse
    (hTraced : Traced w s)
    (refusal : Refusal) : Traced w (s.refuse refusal) :=
  Told.refuse hTraced (by simp [naming, Entry.id])
    (.settled (.refused refusal))

theorem Traced.start
    (hTraced : Traced w s)
    (raw headers : JsValue)
    (drawn : Drawn) :
    Traced w (s.start w raw headers drawn) := by
  unfold CommandRouter.start
  split
  · exact hTraced.refuse _
  · rename_i command hIngest
    split
    · exact hTraced.refuse _
    · exact Told.refuse hTraced (by simp [naming, Entry.id])
        (.settled .unhandled)
    · rename_i handler waiting hDispatch
      have hPlan :
          Plan w s.security s.registrations command
            (handler :: waiting) :=
        ⟨admitted_of_ingest w hIngest,
          handlers_of_dispatch w hDispatch⟩
      have hCalled :
          Stage w s.book.nextId
            (some ⟨s.book.nextId, command, handler, waiting,
              []⟩)
            (.accepted s.book.nextId command s.security
                s.registrations ::
              exchange s.book.nextId command [] ++
                [.called s.book.nextId handler command]) :=
        .running hPlan rfl
      exact Told.start hTraced rfl
        (by simp [naming, Entry.id]) hCalled

/- The story of a call in flight goes on where it was. -/
theorem Traced.resume
    {call : RouteCall}
    (hTraced : Traced w s)
    (hFind : s.find call.id = some call)
    (value : JsValue) :
    Traced w (s.resume call value) := by
  unfold CommandRouter.resume
  split
  · rename_i handler waiting hWaiting
    refine Told.advance hTraced hFind rfl
      (by simp [naming, Entry.id]) ?_
    intro told hStage
    cases hStage with
    | running hPlan hResults =>
        rename_i security registrations answered
        have hCalled :
            Stage w call.id
              (some (call.next handler waiting value))
              (.accepted call.id call.command security
                  registrations ::
                exchange call.id call.command
                    (answered ++ [(call.current, value)]) ++
                  [.called call.id handler call.command]) := by
          rw [hWaiting] at hPlan
          refine .running ?_ ?_
          · simpa [RouteCall.next] using hPlan
          · simp [RouteCall.next, hResults]
        dsimp only [naming]
        rw [exchange_answer]
        exact hCalled
  · rename_i hWaiting
    refine Told.finish hTraced hFind
      (by simp [naming, Entry.id]) ?_
    intro told hStage
    cases hStage with
    | running hPlan hResults =>
        rename_i security registrations answered
        have hAnswered :
            Plan w security registrations call.command
              ((answered ++ [(call.current, value)]).map
                Prod.fst) := by
          rw [hWaiting] at hPlan
          simpa using hPlan
        have hStory : History w call.id _ :=
          .routed hAnswered
        dsimp only [naming]
        rw [exchange_answer, hResults]
        refine .settled ?_
        simpa using hStory

theorem Traced.fail
    {call : RouteCall}
    (hTraced : Traced w s)
    (hFind : s.find call.id = some call)
    (error : JsValue) :
    Traced w (s.fail call error) := by
  refine Told.finish hTraced hFind
    (by simp [naming, Entry.id]) ?_
  intro told hStage
  cases hStage with
  | running hPlan hResults =>
      change Stage w call.id none _
      rw [List.append_assoc]
      exact .settled (.failed hPlan error)

theorem step_resolve
    {id : Nat}
    {call : RouteCall}
    (hFind : s.find id = some call)
    (value : JsValue) :
    s.step w (.resolve id value) = s.resume call value := by
  unfold CommandRouter.step
  dsimp only
  rw [hFind]

theorem step_reject
    {id : Nat}
    {call : RouteCall}
    (hFind : s.find id = some call)
    (error : JsValue) :
    s.step w (.reject id error) = s.fail call error := by
  unfold CommandRouter.step
  dsimp only
  rw [hFind]

/- An answer that nobody waits for changes nothing. -/
theorem step_resolve_none
    {id : Nat}
    (hFind : s.find id = none)
    (value : JsValue) :
    s.step w (.resolve id value) = s := by
  unfold CommandRouter.step
  dsimp only
  rw [hFind]

theorem step_reject_none
    {id : Nat}
    (hFind : s.find id = none)
    (error : JsValue) :
    s.step w (.reject id error) = s := by
  unfold CommandRouter.step
  dsimp only
  rw [hFind]

theorem Traced.step
    (hTraced : Traced w s)
    (event : RouterEvent) :
    Traced w (s.step w event) := by
  cases event with
  | register registration => exact hTraced
  | secure security => exact hTraced
  | route raw headers drawn =>
      exact hTraced.start raw headers drawn
  | resolve id value =>
      cases hFind : s.find id with
      | none =>
          rw [step_resolve_none hFind]
          exact hTraced
      | some call =>
          have hId := Naming.find_id hFind
          subst hId
          rw [step_resolve hFind]
          exact hTraced.resume hFind value
  | reject id error =>
      cases hFind : s.find id with
      | none =>
          rw [step_reject_none hFind]
          exact hTraced
      | some call =>
          have hId := Naming.find_id hFind
          subst hId
          rw [step_reject hFind]
          exact hTraced.fail hFind error

theorem traced_new
    (w : Writing)
    (security : Option Security) :
    Traced w (CommandRouter.new security) :=
  Told.blank (fun _ => .settled .unknown) 0

theorem traced_run
    (w : Writing)
    (security : Option Security)
    (events : List RouterEvent) :
    Traced w
      (run (CommandRouter.step w)
        (CommandRouter.new security) events) := by
  have hStep :
      ∀ (state : CommandRouter) event, Traced w state →
        Traced w (state.step w event) :=
    fun _ event hTraced => hTraced.step event
  exact run_keeps hStep events (traced_new w security)

/- The number of calls that ended in one way. -/
def endings
    (kind : Outcome → Bool)
    (s : CommandRouter) : Nat :=
  s.book.log.countP (fun entry => entry.endsAs kind)

/-
  What was received is counted as rejected or as routed, was
  dropped because nothing handles it, has thrown on its way
  or in one of its handlers, or is still in flight.
-/
structure Accounted (s : CommandRouter) : Prop where
  received :
    s.metrics.received =
      s.metrics.rejected + s.metrics.routed +
        s.endings Outcome.isUnhandled +
          s.endings Outcome.isThrown +
          s.endings Outcome.isFailed + s.book.items.length
  rejected : s.metrics.rejected = s.endings Outcome.isRefused
  routed : s.metrics.routed = s.endings Outcome.isRouted
  enrolled : Enrolled naming s.book

/- Every call that ends does so in one of five ways. -/
theorem endings_split
    (entries : List Entry) :
    entries.countP (fun e => e.endsAs fun _ => true) =
      entries.countP (fun e => e.endsAs Outcome.isRefused) +
        entries.countP (fun e => e.endsAs Outcome.isThrown) +
        entries.countP (fun e => e.endsAs Outcome.isRouted) +
        entries.countP
          (fun e => e.endsAs Outcome.isUnhandled) +
        entries.countP
          (fun e => e.endsAs Outcome.isFailed) := by
  induction entries with
  | nil => rfl
  | cons entry entries ih =>
      have hOne := entry.endsAs_split
      simp only [List.countP_cons]
      omega

/- A step that counts what it logs keeps the accounts. -/
theorem Accounted.after
    {s' : CommandRouter}
    (hAccounted : Accounted s)
    (entries : List Entry)
    (hLog : s'.book.log = s.book.log ++ entries)
    (hFlow :
      s'.metrics.received + s.book.items.length =
        s.metrics.received + s'.book.items.length +
          entries.countP (fun e => e.endsAs fun _ => true))
    (hRejected :
      s'.metrics.rejected = s.metrics.rejected +
        entries.countP (fun e => e.endsAs Outcome.isRefused))
    (hRouted :
      s'.metrics.routed = s.metrics.routed +
        entries.countP (fun e => e.endsAs Outcome.isRouted))
    (hEnrolled : Enrolled naming s'.book) :
    Accounted s' := by
  have hEndings :
      ∀ kind, s'.endings kind =
        s.endings kind +
          entries.countP (fun e => e.endsAs kind) := by
    intro kind
    unfold endings
    rw [hLog, List.countP_append]
  refine ⟨?_, ?_, ?_, hEnrolled⟩
  · have hBefore := hAccounted.received
    rw [endings_split] at hFlow
    rw [hEndings, hEndings, hEndings]
    omega
  · rw [hRejected, hEndings, hAccounted.rejected]
  · rw [hRouted, hEndings, hAccounted.routed]

theorem Accounted.refuse
    (hAccounted : Accounted s)
    (refusal : Refusal) :
    Accounted (s.refuse refusal) := by
  refine hAccounted.after _ rfl ?_ ?_ rfl
    (hAccounted.enrolled.number.record _)
  · exact Nat.add_right_comm _ _ _
  · cases refusal <;> rfl

theorem Accounted.start
    (hAccounted : Accounted s)
    (raw headers : JsValue)
    (drawn : Drawn) :
    Accounted (s.start w raw headers drawn) := by
  unfold CommandRouter.start
  split
  · exact hAccounted.refuse _
  · split
    · exact hAccounted.refuse _
    · refine hAccounted.after _ rfl ?_ rfl rfl
        (hAccounted.enrolled.number.record _)
      exact Nat.add_right_comm _ _ _
    · refine hAccounted.after _ rfl ?_ rfl rfl
        ((hAccounted.enrolled.add rfl).record _)
      simp [withBook, receive, Book.record, Book.add,
        Book.number, Entry.endsAs]
      omega

/- A call that ends in flight is no longer in flight. -/
theorem Accounted.finish
    {s' : CommandRouter}
    {call : RouteCall}
    {entries : List Entry}
    (hAccounted : Accounted s)
    (hFind : s.find call.id = some call)
    (hBook :
      s'.book = (naming.drop call.id s.book).record entries)
    (hReceived : s'.metrics.received = s.metrics.received)
    (hOnce :
      entries.countP (fun e => e.endsAs fun _ => true) = 1)
    (hRejected :
      s'.metrics.rejected = s.metrics.rejected +
        entries.countP (fun e => e.endsAs Outcome.isRefused))
    (hRouted :
      s'.metrics.routed = s.metrics.routed +
        entries.countP
          (fun e => e.endsAs Outcome.isRouted)) :
    Accounted s' := by
  have hLength :=
    hAccounted.enrolled.length_drop
      (Naming.mem_of_find hFind)
  refine hAccounted.after entries ?_ ?_ hRejected hRouted ?_
  · rw [hBook]
    rfl
  · rw [hReceived, hBook, hOnce, hLength]
    exact (Nat.add_assoc _ _ _).symm
  · rw [hBook]
    exact (hAccounted.enrolled.drop call.id).record entries

theorem Accounted.resume
    {call : RouteCall}
    (hAccounted : Accounted s)
    (hFind : s.find call.id = some call)
    (value : JsValue) :
    Accounted (s.resume call value) := by
  unfold CommandRouter.resume
  split
  · refine hAccounted.after _ rfl ?_ rfl rfl
      ((hAccounted.enrolled.replace _).record _)
    simp [withBook, Book.record, Naming.replace,
      Entry.endsAs]
  · exact hAccounted.finish hFind rfl rfl rfl rfl rfl

theorem Accounted.step
    (hAccounted : Accounted s)
    (event : RouterEvent) :
    Accounted (s.step w event) := by
  cases event with
  | register registration => exact ⟨hAccounted.received,
      hAccounted.rejected, hAccounted.routed,
      hAccounted.enrolled⟩
  | secure security => exact ⟨hAccounted.received,
      hAccounted.rejected, hAccounted.routed,
      hAccounted.enrolled⟩
  | route raw headers drawn =>
      exact hAccounted.start raw headers drawn
  | resolve id value =>
      cases hFind : s.find id with
      | none =>
          rw [step_resolve_none hFind]
          exact hAccounted
      | some call =>
          rw [step_resolve hFind]
          have hId := Naming.find_id hFind
          subst hId
          exact hAccounted.resume hFind value
  | reject id error =>
      cases hFind : s.find id with
      | none =>
          rw [step_reject_none hFind]
          exact hAccounted
      | some call =>
          rw [step_reject hFind]
          have hId := Naming.find_id hFind
          subst hId
          exact hAccounted.finish hFind rfl rfl rfl rfl rfl

theorem accounted_new
    (security : Option Security) :
    Accounted (CommandRouter.new security) where
  received := rfl
  rejected := rfl
  routed := rfl
  enrolled := Enrolled.blank 0

/-
  In every run the counts of the router agree with how its
  calls ended, and the rest of what was received was dropped,
  has failed in a handler or is in flight.
-/
theorem received_is_accounted
    (w : Writing)
    (security : Option Security)
    (events : List RouterEvent) :
    Accounted
      (run (CommandRouter.step w)
        (CommandRouter.new security) events) :=
  run_keeps (fun _ event hAccounted => hAccounted.step event)
    events (accounted_new security)

end CommandRouter

end Command

end ControlPlane
