import ScriptBridge.Proofs.Interp.Evaluation

/-!
# Evaluations beside richer hosts

Commands take no notice of the state of the host. So if the calls of two hosts do the same, in so
far as one of them sees the state of the other, evaluations beside the two do the same as well.
-/

namespace ScriptBridge

variable {Key Rich Host : Type} {view : Rich → Host}

namespace Action

variable
  {α β : Type}
  {rich : Action Key Rich α}
  {plain : Action Key Host α}
  {nextRich : α → Action Key Rich β}
  {nextPlain : α → Action Key Host β}

theorem erases_bind
    (first : Erases view rich plain)
    (second : ∀ value, Erases view (nextRich value) (nextPlain value)) :
    Erases view (rich >>= nextRich) (plain >>= nextPlain) := by
  intro machine
  rw [Conduct.run_bind, Conduct.run_bind, first machine]
  rcases rich.run.run machine with ⟨outcome, after⟩
  cases outcome with
  | ok value => exact second value after
  | error fault => rfl

theorem erases_attempt (tried : Erases view rich plain) :
    Erases view (attempt rich) (attempt plain) := by
  intro machine
  have same := tried machine
  show (Except.ok (plain.run.run (machine.viewed view)).1,
    (plain.run.run (machine.viewed view)).2) = _
  rw [same]
  rfl

theorem erases_return (value : α) :
    Erases view (pure value : Action Key Rich α) (pure value) :=
  fun _ => rfl

theorem erases_throw (fault : Interruption) :
    Erases view (throw fault : Action Key Rich α) (throw fault) :=
  fun _ => rfl

/-- What is composed does the same with both hosts if its parts do. -/
theorem erases_composed
    {release : Release Key Rich}
    {parts : ⦃α : Type⦄ → Action Key Rich α → Action Key Host α → Prop}
    (erases : ∀ ⦃β : Type⦄ {rich : Action Key Rich β} {plain : Action Key Host β},
      parts rich plain → Erases view rich plain)
    (composed : Composed view release parts rich plain) :
    Erases view rich plain := by
  induction composed with
  | part part => exact erases part
  | direct direct => exact direct.erases
  | throw fault => exact erases_throw fault
  | bind _ _ first second => exact erases_bind first second
  | look _ next => exact fun machine => next machine machine
  | attempt _ passed _ tried handled =>
      apply erases_bind (erases_attempt tried)
      intro outcome
      by_cases final : ∃ fault, outcome = .error fault ∧ fault.isFinal = true
      · obtain ⟨fault, rfl, isFinal⟩ := final
        rw [(passed fault isFinal).1, (passed fault isFinal).2]
        exact erases_throw fault
      · apply handled outcome
        intro fault same
        exact Bool.eq_false_iff.mpr fun isFinal => final ⟨fault, same, isFinal⟩

end Action

open ScriptBridge.Action

/-! ## Evaluators -/

/-- The scripts of two evaluators do the same. -/
structure Evaluator.Erases
    (view : Rich → Host)
    (rich : Evaluator Key Rich)
    (plain : Evaluator Key Host) : Prop extends Fits view rich plain where
  script : ∀ text, Action.Erases view (rich.script text) (plain.script text)
  substitute : ∀ text, Action.Erases view (rich.substitute text) (plain.substitute text)

namespace Evaluator.Erases

variable
  {rich : Evaluator Key Rich}
  {plain : Evaluator Key Host}
  (scripts : Evaluator.Erases view rich plain)

include scripts

theorem composes
    {α : Type}
    {richAction : Action Key Rich α}
    {plainAction : Action Key Host α}
    (composed : Evaluator.Composes view rich plain richAction plainAction) :
    Action.Erases view richAction plainAction := by
  apply erases_composed _ composed
  intro β rich plain part
  cases part with
  | script text => exact scripts.script text
  | substitute text => exact scripts.substitute text

theorem runEvent (event : Event) :
    Action.Erases view (Commands.runEvent rich event) (Commands.runEvent plain event) := by
  apply erases_bind (fun _ => rfl)
  intro _
  apply erases_bind (erases_attempt (scripts.script _))
  intro outcome
  cases outcome with
  | ok value => exact erases_return ()
  | error fault =>
      cases fault with
      | exited code => exact fun _ => rfl
      | unfinished => exact erases_throw _
      | _ => exact erases_return ()

theorem runEvents (onlyDue : Bool) (rounds : Nat) :
    Action.Erases view (Commands.runEvents rich onlyDue rounds)
      (Commands.runEvents plain onlyDue rounds) := by
  induction rounds with
  | zero => exact erases_throw _
  | succ rounds inductionHypothesis =>
      intro machine
      have same : (machine.viewed view).interp = machine.interp := rfl
      have sameClock : (machine.viewed view).clock = machine.clock := rfl
      unfold Commands.runEvents
      rw [run_get_bind, run_get_bind, same, sameClock]
      split
      · rfl
      · split
        · rfl
        · rename_i event _
          split
          · rfl
          · have ran : Action.Erases view
                (do
                  Commands.dequeue event
                  Commands.runEvent rich event
                  Commands.runEvents rich onlyDue rounds)
                (do
                  Commands.dequeue event
                  Commands.runEvent plain event
                  Commands.runEvents plain onlyDue rounds) :=
              erases_bind (fun _ => rfl) fun _ =>
                erases_bind (scripts.runEvent event) fun _ => inductionHypothesis
            exact ran machine

theorem update (arguments : List String) :
    Action.Erases view (Commands.update rich arguments) (Commands.update plain arguments) := by
  unfold Commands.update
  rw [← scripts.rounds]
  split
  · exact erases_bind (scripts.runEvents true _) fun _ => erases_return ""
  · exact erases_bind (scripts.runEvents true _) fun _ => erases_return ""
  · exact erases_throw _

theorem builtin (builtin : Builtin) (name : String) (arguments : List String) :
    Action.Erases view (builtin.run rich name arguments) (builtin.run plain name arguments) := by
  by_cases isUpdate : builtin = .update
  · subst isUpdate
    exact scripts.update arguments
  · by_cases isExit : builtin = .exit
    · subst isExit
      show Action.Erases view (Commands.exit arguments) (Commands.exit arguments)
      unfold Commands.exit
      split
      · exact erases_throw _
      · apply erases_bind
        · unfold Action.intOf
          split
          · exact erases_return _
          · exact erases_throw _
        · intro code
          exact erases_throw _
    · exact scripts.composes
        (composed_builtin scripts.toFits isUpdate isExit name arguments)

theorem call (procedure : Procedure) (name : String) (arguments : List String) :
    Action.Erases view (procedure.call rich name arguments)
      (procedure.call plain name arguments) := by
  unfold Procedure.call
  split
  · exact erases_throw _
  · apply erases_bind (fun _ => rfl)
    intro _
    apply erases_bind (erases_attempt (scripts.script _))
    intro outcome
    exact erases_bind (fun _ => rfl) fun _ machine => rfl

end Evaluator.Erases

/-! ## Hosts -/

/-- The calls of two hosts do the same if the scripts that they evaluate do. -/
structure HostCommands.Erases
    (view : Rich → Host)
    (rich : HostCommands Key Rich)
    (plain : HostCommands Key Host) : Prop where
  releases : ∀ key host, view (rich.release key host) = plain.release key (view host)
  call : ∀ {richEval : Evaluator Key Rich} {plainEval : Evaluator Key Host},
    Evaluator.Erases view richEval plainEval →
      ∀ key words, Action.Erases view (rich.call richEval key words) (plain.call plainEval key words)

theorem HostCommands.Erases.invoke
    {rich : HostCommands Key Rich}
    {plain : HostCommands Key Host}
    {richEval : Evaluator Key Rich}
    {plainEval : Evaluator Key Host}
    (hosts : HostCommands.Erases view rich plain)
    (scripts : Evaluator.Erases view richEval plainEval)
    (name : String)
    (arguments : List String) :
    Action.Erases view (invoke rich richEval name arguments)
      (invoke plain plainEval name arguments) := by
  have ran (command : Command Key) :
      Action.Erases view (command.run rich richEval name arguments)
        (command.run plain plainEval name arguments) := by
    cases command with
    | builtin meaning => exact scripts.builtin meaning name arguments
    | procedure definition => exact scripts.call definition name arguments
    | host key => exact hosts.call scripts key (name :: arguments)
    | widget => exact scripts.composes (composed_widgetCommand name arguments)
  unfold ScriptBridge.invoke
  apply erases_bind (fun _ => rfl)
  intro interp
  split
  · exact erases_throw _
  · split
    · exact erases_throw _
    · apply erases_bind (fun _ => rfl)
      intro _
      apply erases_bind (erases_attempt (ran _))
      intro outcome
      exact erases_bind (fun _ => rfl) fun _ machine => rfl

/-- Evaluators do the same if the invocations that their scripts make do. -/
theorem erases_evaluatorVia
    {callRich : Evaluator Key Rich → String → List String → Action Key Rich String}
    {callPlain : Evaluator Key Host → String → List String → Action Key Host String}
    {richRelease : Release Key Rich}
    {plainRelease : Release Key Host}
    (releases : ∀ key host, view (richRelease key host) = plainRelease key (view host))
    (calls : ∀ {rich : Evaluator Key Rich} {plain : Evaluator Key Host},
      Evaluator.Erases view rich plain →
        ∀ name arguments, Erases view (callRich rich name arguments) (callPlain plain name arguments))
    (fuel : Nat) :
    Evaluator.Erases view (evaluatorVia callRich richRelease fuel)
      (evaluatorVia callPlain plainRelease fuel) := by
  induction fuel with
  | zero =>
      exact
        { releases
          rounds := rfl
          script := fun _ => erases_throw _
          substitute := fun _ => erases_throw _ }
  | succ fuel inductionHypothesis =>
      let rich := callRich (evaluatorVia callRich richRelease fuel)
      let plain := callPlain (evaluatorVia callPlain plainRelease fuel)
      have erases : ∀ ⦃β : Type⦄ {richAction : Action Key Rich β}
          {plainAction : Action Key Host β},
          Calls rich plain richAction plainAction → Erases view richAction plainAction := by
        rintro _ _ _ ⟨name, arguments⟩
        exact calls inductionHypothesis name arguments
      exact
        { releases
          rounds := rfl
          script := fun text =>
            have composed : Composed view richRelease (Calls rich plain) _ _ :=
              composed_runScript "" (Script.ofText text)
            erases_composed erases composed
          substitute := fun text =>
            have composed : Composed view richRelease (Calls rich plain) _ _ :=
              composed_substituteTemplate (Template.ofText text)
            erases_composed erases composed }

theorem erases_submit
    {rich : Evaluator Key Rich}
    {plain : Evaluator Key Host}
    (scripts : Evaluator.Erases view rich plain)
    (script : String) :
    Erases view (submit rich script) (submit plain script) := by
  have accepted (value : String) :
      Erases view (submit.accept value : Action Key Rich (Except String Unit))
        (submit.accept value) :=
    fun _ => rfl
  have rejected (message : String) :
      Erases view (submit.reject message : Action Key Rich (Except String Unit))
        (submit.reject message) :=
    fun _ => rfl
  unfold submit
  apply erases_bind (erases_attempt (scripts.script script))
  intro outcome
  split
  · exact accepted _
  · exact accepted _
  · exact erases_bind (fun _ => rfl) fun _ => accepted ""
  · exact rejected _
  · exact rejected _
  · exact rejected _
  · exact erases_throw _

end ScriptBridge
