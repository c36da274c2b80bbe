import ScriptBridge.Proofs.Interp.Widgets

/-!
# Commands with scripts

Formulas, control flow and bindings evaluate scripts. They let the end of the program through, also
where they look at how a script has ended. Two commands are not of this kind: `exit`, which ends the
program, and `update`, which runs queued scripts and does not pass on that one of them has.
-/

namespace ScriptBridge

variable
  {Key Rich Host : Type}
  {view : Rich → Host}
  {rich : Evaluator Key Rich}
  {plain : Evaluator Key Host}

/-! ## Evaluators -/

namespace Evaluator

/-- The parts of commands that are not put together from direct actions: their scripts. -/
inductive Part (rich : Evaluator Key Rich) (plain : Evaluator Key Host) :
    ⦃α : Type⦄ → Action Key Rich α → Action Key Host α → Prop
  | script (text : String) : Part rich plain (rich.script text) (plain.script text)
  | substitute (text : String) : Part rich plain (rich.substitute text) (plain.substitute text)

/-- How commands are put together that evaluate scripts with these evaluators. -/
abbrev Composes
    {α : Type}
    (view : Rich → Host)
    (rich : Evaluator Key Rich)
    (plain : Evaluator Key Host)
    (richAction : Action Key Rich α)
    (plainAction : Action Key Host α) : Prop :=
  Action.Composed view rich.release (rich.Part plain) richAction plainAction

/-- Two evaluators fit together when they differ in nothing but their scripts. -/
structure Fits
    (view : Rich → Host)
    (rich : Evaluator Key Rich)
    (plain : Evaluator Key Host) : Prop where
  releases : ∀ key host, view (rich.release key host) = plain.release key (view host)
  rounds : rich.rounds = plain.rounds

end Evaluator

namespace Action

open Machine Evaluator

theorem composed_script (text : String) :
    Composes view rich plain (rich.script text) (plain.script text) :=
  .part (.script text)

theorem composed_substitute (text : String) :
    Composes view rich plain (rich.substitute text) (plain.substitute text) :=
  .part (.substitute text)

/-! ## Formulas -/

mutual

theorem composed_compute :
    (formula : Arithmetic.Formula) →
      Composes view rich plain (formula.compute rich) (formula.compute plain)
  | .literal text => by
      unfold Arithmetic.Formula.compute
      exact composed_pure _
  | .source text => by
      unfold Arithmetic.Formula.compute
      exact .bind (composed_substitute text) fun value => composed_pure _
  | .unary operator operand => by
      unfold Arithmetic.Formula.compute
      exact .bind (composed_compute operand) fun value => composed_orFail _ _
  | .binary operator left right => by
      have computedLeft := composed_compute left
      have computedRight := composed_compute right
      -- `&&` and `||` may leave out their right operand.
      cases operator with
      | both =>
          unfold Arithmetic.Formula.compute
          apply Composed.bind computedLeft
          intro value
          apply Composed.bind (composed_orFail _ _)
          intro truth
          split
          · apply Composed.bind computedRight
            intro value
            exact .bind (composed_orFail _ _) fun truth => composed_pure _
          · exact composed_pure _
      | either =>
          unfold Arithmetic.Formula.compute
          apply Composed.bind computedLeft
          intro value
          apply Composed.bind (composed_orFail _ _)
          intro truth
          split
          · exact composed_pure _
          · apply Composed.bind computedRight
            intro value
            exact .bind (composed_orFail _ _) fun truth => composed_pure _
      | _ =>
          unfold Arithmetic.Formula.compute
          apply Composed.bind computedLeft
          intro leftValue
          exact .bind computedRight fun rightValue => composed_orFail _ _
  | .conditional condition yes no => by
      unfold Arithmetic.Formula.compute
      apply Composed.bind (composed_compute condition)
      intro value
      apply Composed.bind (composed_orFail _ _)
      intro truth
      split
      · exact composed_compute yes
      · exact composed_compute no
  | .call function arguments => by
      unfold Arithmetic.Formula.compute
      exact .bind (composed_computeAll arguments) fun values => composed_orFail _ _

theorem composed_computeAll :
    (formulas : List Arithmetic.Formula) →
      Composes view rich plain (computeAll rich formulas) (computeAll plain formulas)
  | [] => by
      unfold computeAll
      exact composed_pure []
  | formula :: rest => by
      unfold computeAll
      apply Composed.bind (composed_compute formula)
      intro value
      exact .bind (composed_computeAll rest) fun values => composed_pure _

end

theorem composed_computeText (text : String) :
    Composes view rich plain (computeText rich text)
      (computeText plain text) := by
  apply Composed.bind (composed_orFail _ _)
  intro formula
  exact composed_compute formula

theorem composed_computeCondition (text : String) :
    Composes view rich plain (computeCondition rich text)
      (computeCondition plain text) :=
  .bind (composed_computeText text) fun _ => composed_orFail _ _

theorem composed_expr (arguments : List String) :
    Composes view rich plain (Commands.expr rich arguments)
      (Commands.expr plain arguments) := by
  unfold Commands.expr
  split
  · exact composed_wrongUsage _
  · exact .bind (composed_computeText _) fun value => composed_pure _

/-! ## Control flow -/

theorem composed_ifThen (arguments : List String) :
    Composes view rich plain (Commands.ifThen rich arguments)
      (Commands.ifThen plain arguments) := by
  unfold Commands.ifThen
  split
  · exact composed_fail _
  · exact composed_fail _
  · rename_i condition body rest guarded
    apply Composed.bind (composed_computeCondition condition)
    intro holds
    split
    · exact composed_script body
    · split
      · exact composed_pure _
      · exact composed_script _
      · exact composed_fail _
      · rename_i further behind
        exact composed_ifThen further
  termination_by arguments.length
  decreasing_by
    exact Nat.lt_trans
      (Commands.Otherwise.ofArguments_length_lt (by assumption))
      (Commands.Guarded.ofArguments_length_lt (by assumption))

theorem composed_runBody (body : String) :
    Composes view rich plain (Commands.runBody rich body)
      (Commands.runBody plain body) := by
  apply Composed.attempt (composed_script body)
  · intro fault final
    cases fault with
    | exited | unfinished => exact ⟨rfl, rfl⟩
    | error | returned | broke | continued => cases final
  · intro outcome notFinal
    split
    · exact composed_pure true
    · exact composed_pure true
    · exact composed_pure false
    · exact .throw _ (Interruption.code?_of_not_isFinal (notFinal _ rfl))

theorem composed_repeatWhile
    (condition body : String)
    {stepRich : Action Key Rich Unit}
    {stepPlain : Action Key Host Unit}
    (step : Composes view rich plain stepRich stepPlain)
    (rounds : Nat) :
    Composes view rich plain (Commands.repeatWhile rich condition body stepRich rounds)
      (Commands.repeatWhile plain condition body stepPlain rounds) := by
  induction rounds with
  | zero => exact .throw _ rfl
  | succ rounds inductionHypothesis =>
      unfold Commands.repeatWhile
      apply Composed.bind (composed_computeCondition condition)
      intro holds
      split
      · apply Composed.bind (composed_runBody body)
        intro goesOn
        split
        · exact .bind step fun _ => inductionHypothesis
        · exact composed_pure _
      · exact composed_pure _

theorem composed_whileLoop (fits : Fits view rich plain) (arguments : List String) :
    Composes view rich plain (Commands.whileLoop rich arguments)
      (Commands.whileLoop plain arguments) := by
  unfold Commands.whileLoop
  rw [← fits.rounds]
  split
  · exact composed_repeatWhile _ _ (composed_pure ()) _
  · exact composed_wrongUsage _

theorem composed_forLoop (fits : Fits view rich plain) (arguments : List String) :
    Composes view rich plain (Commands.forLoop rich arguments)
      (Commands.forLoop plain arguments) := by
  unfold Commands.forLoop
  rw [← fits.rounds]
  split
  · apply Composed.bind (composed_discard (composed_script _))
    intro _
    exact composed_repeatWhile _ _ (composed_discard (composed_script _)) _
  · exact composed_wrongUsage _

theorem composed_evalArguments (arguments : List String) :
    Composes view rich plain (Commands.evalArguments rich arguments)
      (Commands.evalArguments plain arguments) := by
  unfold Commands.evalArguments
  split
  · exact composed_wrongUsage _
  · exact composed_script _

theorem composed_subst (arguments : List String) :
    Composes view rich plain (Commands.subst rich arguments)
      (Commands.subst plain arguments) := by
  unfold Commands.subst
  split
  · exact composed_substitute _
  · exact composed_wrongUsage _

theorem composed_namespaces (arguments : List String) :
    Composes view rich plain (Commands.namespaces rich arguments)
      (Commands.namespaces plain arguments) := by
  unfold Commands.namespaces
  split
  · exact composed_wrongUsage _
  · exact composed_script _
  · exact composed_wrongUsage _
  · exact composed_pure _
  · exact composed_pure _
  · exact composed_fail _

/-- Bindings are run one after the other; one that is cut short is the last. -/
theorem composed_runBindings
    (sequence : String)
    (fields : Commands.EventFields)
    (tags : List String) :
    Composes view rich plain (Commands.runBindings rich sequence fields tags)
      (Commands.runBindings plain sequence fields tags) := by
  induction tags with
  | nil => exact composed_pure ""
  | cons tag tags inductionHypothesis =>
      unfold Commands.runBindings
      apply Composed.bind composed_getWidgets
      intro table
      split
      · exact inductionHypothesis
      · apply Composed.attempt (composed_script _)
        · intro fault final
          cases fault with
          | exited | unfinished => exact ⟨rfl, rfl⟩
          | error | returned | broke | continued => cases final
        · intro outcome notFinal
          split
          · exact inductionHypothesis
          · exact inductionHypothesis
          · exact composed_pure ""
          · exact .throw _ (Interruption.code?_of_not_isFinal (notFinal _ rfl))

theorem composed_event (arguments : List String) :
    Composes view rich plain (Commands.event rich arguments)
      (Commands.event plain arguments) := by
  unfold Commands.event
  split
  · apply Composed.bind composed_getWidgets
    intro table
    split
    · exact composed_badPath _
    · apply Composed.bind (composed_orFail _ _)
      intro options
      exact composed_runBindings _ _ _
  · exact composed_wrongUsage _

theorem composed_assignAll (names items : List String) :
    Composes view rich plain (Commands.assignAll names items : Action Key Rich Unit)
      (Commands.assignAll names items) := by
  induction names generalizing items with
  | nil => exact composed_pure ()
  | cons name names inductionHypothesis =>
      unfold Commands.assignAll
      apply Composed.bind (composed_discard (composed_writeVariable _ _))
      intro _
      exact inductionHypothesis items.tail

/-! ## Commands that come and go -/

section Table

variable (fits : Fits view rich plain)

include fits

theorem composed_define
    (name : String)
    {command : Command Key}
    (noHost : ∀ key, command ≠ .host key) :
    Composes view rich plain
      (modify fun machine => machine.define rich.release name command : Action Key Rich PUnit)
      (modify fun machine => machine.define plain.release name command) :=
  .direct <| direct_modify
    (fun machine => (viewed_define fits.releases machine name command).symm)
    fun _ => .single (.defined name noHost)

theorem composed_proc (arguments : List String) :
    Composes view rich plain (Commands.proc rich arguments)
      (Commands.proc plain arguments) := by
  unfold Commands.proc
  split
  · apply Composed.bind (composed_listOf _)
    intro specifiers
    apply Composed.bind
    · apply composed_mapM
      intro specifier
      apply Composed.bind (composed_listOf _)
      intro fields
      split
      · exact composed_pure _
      · exact composed_pure _
      · exact composed_fail _
    · intro parameters
      exact .bind (composed_define fits _ nofun) fun _ => composed_pure ""
  · exact composed_wrongUsage _

omit fits in
theorem run_rename (eval : Evaluator Key Host) (machine : Machine Key Host) (old new : String) :
    (Commands.rename eval [old, new]).run.run machine =
      settled machine ((machine.renameCommand eval.release old new).map ("", ·)) := by
  rw [Commands.rename, run_get_bind]
  cases machine.renameCommand eval.release old new <;> rfl

theorem composed_rename (arguments : List String) :
    Composes view rich plain (Commands.rename rich arguments)
      (Commands.rename plain arguments) := by
  unfold Commands.rename
  split
  · rename_i old new
    apply Composed.direct
    apply direct_of_run (run_rename rich · old new) (run_rename plain · old new)
    · intro machine
      rw [viewed_renameCommand fits.releases]
      cases machine.renameCommand rich.release old new <;> rfl
    · intro machine value after computed
      cases renamed : machine.renameCommand rich.release old new with
      | error message =>
          rw [renamed] at computed
          cases computed
      | ok changed =>
          rw [renamed] at computed
          cases computed
          exact .single (.renamed renamed)
  · exact composed_wrongUsage _

/-- Creates a widget in another one. -/
def createIn
    (eval : Evaluator Key Host)
    (parent path : String)
    (widget : Widget) : Action Key Host String := do
  let table ← Commands.getWidgets
  if !table.contains parent then
    Commands.badPath path
  else if table.contains path then
    fail ("window name \"" ++ Path.lastName path ++ "\" already exists in parent")
  else
    modifyWidgets (·.insert path widget)
    modify fun machine => machine.define eval.release path .widget
    return path

/-- What creating a widget makes of a machine. -/
def created
    (release : Release Key Host)
    (parent path : String)
    (widget : Widget)
    (machine : Machine Key Host) : Except String (String × Machine Key Host) :=
  if machine.interp.widgets.contains parent then
    if machine.interp.widgets.contains path then
      .error ("window name \"" ++ Path.lastName path ++ "\" already exists in parent")
    else
      .ok (path,
        (machine.withWidgets (machine.interp.widgets.insert path widget)).define release path .widget)
  else
    .error ("bad window path name \"" ++ path ++ "\"")

omit fits in
theorem run_createIn
    (eval : Evaluator Key Host)
    (parent path : String)
    (widget : Widget)
    (machine : Machine Key Host) :
    (createIn eval parent path widget).run.run machine =
      settled machine (created eval.release parent path widget machine) := by
  unfold createIn created
  rw [run_getWidgets_bind]
  cases machine.interp.widgets.contains parent with
  | false => rfl
  | true => cases machine.interp.widgets.contains path <;> rfl

theorem composed_createIn
    {parent path : String}
    (widget : Widget)
    (within : Path.parent? path = some parent) :
    Composes view rich plain (createIn rich parent path widget)
      (createIn plain parent path widget) := by
  apply Composed.direct
  apply direct_of_run (run_createIn rich parent path widget) (run_createIn plain parent path widget)
  · intro machine
    unfold created
    have same : (machine.viewed view).interp = machine.interp := rfl
    rw [same]
    split
    · split
      · rfl
      · exact congrArg (fun after => Except.ok (path, after))
          (viewed_define fits.releases
            (machine.withWidgets (machine.interp.widgets.insert path widget)) path .widget).symm
    · rfl
  · intro machine value after computed
    unfold created at computed
    split at computed
    · rename_i known
      split at computed
      · cases computed
      · rename_i free
        cases computed
        exact .head (.shown (.created widget within known (Bool.eq_false_iff.mpr free)))
          (.single (.defined path nofun))
    · cases computed

theorem composed_createOfClass (className path : String) (arguments : List String) :
    Composes view rich plain (Commands.createOfClass rich className path arguments)
      (Commands.createOfClass plain className path arguments) := by
  unfold Commands.createOfClass
  split
  · exact composed_badPath _
  · rename_i parent within
    apply Composed.bind (composed_orFail _ _)
    intro options
    exact composed_createIn fits _ within

theorem composed_createWidget (name : String) (arguments : List String) :
    Composes view rich plain (Commands.createWidget rich name arguments)
      (Commands.createWidget plain name arguments) := by
  unfold Commands.createWidget
  split
  · exact composed_fail _
  · split
    · exact composed_wrongUsage _
    · exact composed_createOfClass fits _ _ _

/-- Takes commands out; where one is not there, nothing changes. -/
def withoutCommands
    (release : Release Key Host)
    (names : List String)
    (machine : Machine Key Host) : Machine Key Host :=
  names.foldl
    (fun machine name =>
      match machine.removeCommand release name with
      | .ok machine => machine
      | .error _ => machine)
    machine

theorem viewed_withoutCommands (names : List String) (machine : Machine Key Rich) :
    (withoutCommands rich.release names machine).viewed view =
      withoutCommands plain.release names (machine.viewed view) := by
  induction names generalizing machine with
  | nil => rfl
  | cons name names inductionHypothesis =>
      unfold withoutCommands at inductionHypothesis ⊢
      rw [List.foldl_cons, List.foldl_cons, inductionHypothesis, viewed_removeCommand fits.releases]
      cases machine.removeCommand rich.release name <;> rfl

omit fits in
theorem changes_withoutCommands
    (release : Release Key Host)
    (names : List String)
    (machine : Machine Key Host) :
    Changes release machine (withoutCommands release names machine) := by
  induction names generalizing machine with
  | nil => exact .refl
  | cons name names inductionHypothesis =>
      unfold withoutCommands at inductionHypothesis ⊢
      rw [List.foldl_cons]
      cases removed : machine.removeCommand release name with
      | ok after => exact .head (.removed removed) (inductionHypothesis after)
      | error message => exact inductionHypothesis machine

/-- Destroys one of several widgets. -/
def destroyOne (eval : Evaluator Key Host) (path : String) : Action Key Host Unit := do
  let table ← Commands.getWidgets
  if table.contains path then
    let doomed := table.paths.filter (Path.isWithin path)
    modifyWidgets fun table => doomed.foldl WidgetTable.remove table
    Commands.removeCommands eval doomed
    if path = "." then
      setExitCode 0

omit fits in
theorem destroy_cons (eval : Evaluator Key Host) (path : String) (paths : List String) :
    Commands.destroy eval (path :: paths) =
      (do destroyOne eval path; Commands.destroy eval paths) := by
  rw [Commands.destroy, destroyOne, bind_assoc]
  congr 1
  funext table
  split
  · split <;> rfl
  · rfl

/-- What destroying a widget makes of a machine. -/
def destroyed (release : Release Key Host) (path : String) (machine : Machine Key Host) :
    Machine Key Host :=
  let table := machine.interp.widgets
  if table.contains path then
    let doomed := table.paths.filter (Path.isWithin path)
    let without := withoutCommands release doomed
      (machine.withWidgets (doomed.foldl WidgetTable.remove table))
    if path = "." then without.ended 0 else without
  else
    machine

omit fits in
theorem run_destroyOne (eval : Evaluator Key Host) (path : String) (machine : Machine Key Host) :
    (destroyOne eval path).run.run machine =
      settled machine (.ok ((), destroyed eval.release path machine)) := by
  unfold destroyOne destroyed
  rw [run_getWidgets_bind]
  dsimp only
  split
  · split <;> rfl
  · rfl

theorem composed_destroyOne (path : String) :
    Composes view rich plain (destroyOne rich path) (destroyOne plain path) := by
  apply Composed.direct
  apply direct_of_run (run_destroyOne rich path) (run_destroyOne plain path)
  · intro machine
    have same : (machine.viewed view).interp = machine.interp := rfl
    unfold destroyed
    rw [same]
    dsimp only
    split
    · have without := viewed_withoutCommands fits
        (machine.interp.widgets.paths.filter (Path.isWithin path))
        (machine.withWidgets
          ((machine.interp.widgets.paths.filter (Path.isWithin path)).foldl WidgetTable.remove
            machine.interp.widgets))
      split
      · exact congrArg (fun after => Except.ok ((), after.ended 0)) without.symm
      · exact congrArg (fun after => Except.ok ((), after)) without.symm
    · rfl
  · intro machine value after computed
    cases computed
    unfold destroyed
    dsimp only
    split
    · rename_i known
      have without : Changes rich.release machine _ :=
        .head (.shown (.destroyed known)) (changes_withoutCommands rich.release
          (machine.interp.widgets.paths.filter (Path.isWithin path)) _)
      split
      · exact without.tail (.ended 0)
      · exact without
    · exact .refl

theorem composed_destroy (paths : List String) :
    Composes view rich plain (Commands.destroy rich paths)
      (Commands.destroy plain paths) := by
  induction paths with
  | nil => exact composed_pure ""
  | cons path paths inductionHypothesis =>
      rw [destroy_cons, destroy_cons]
      exact .bind (composed_destroyOne fits path) fun _ => inductionHypothesis

end Table

/-! ## Loops over lists, and errors that are caught -/

theorem composed_forEach
    (name : String)
    (names : List String)
    (body : String)
    (items : List String) :
    Composes view rich plain (Commands.forEach rich name names body items)
      (Commands.forEach plain name names body items) := by
  fun_induction Commands.forEach rich name names body items with
  | case1 =>
      rw [Commands.forEach]
      exact composed_pure ""
  | case2 item rest inductionHypothesis =>
      rw [Commands.forEach]
      apply Composed.bind (composed_assignAll _ _)
      intro _
      apply Composed.bind (composed_runBody body)
      intro goesOn
      split
      · exact inductionHypothesis
      · exact composed_pure ""

theorem composed_foreachLoop (arguments : List String) :
    Composes view rich plain (Commands.foreachLoop rich arguments)
      (Commands.foreachLoop plain arguments) := by
  unfold Commands.foreachLoop
  split
  · apply Composed.bind (composed_listOf _)
    intro names
    split
    · exact composed_fail _
    · exact .bind (composed_listOf _) fun items => composed_forEach _ _ _ items
  · exact composed_wrongUsage _

theorem composed_catchScript (script : String) (name : Option String) :
    Composes view rich plain (Commands.catchScript rich script name)
      (Commands.catchScript plain script name) := by
  apply Composed.attempt (composed_script script)
  · intro fault final
    cases fault with
    | exited | unfinished => exact ⟨rfl, rfl⟩
    | error | returned | broke | continued => cases final
  · intro outcome notFinal
    have caught : ∃ code value, Commands.caught? outcome = some (code, value) := by
      cases outcome with
      | ok value => exact ⟨_, _, rfl⟩
      | error fault =>
          cases fault with
          | error | returned | broke | continued => exact ⟨_, _, rfl⟩
          | exited | unfinished => cases notFinal _ rfl
    obtain ⟨code, value, caught⟩ := caught
    rw [caught]
    cases name with
    | some name =>
        exact .bind (composed_discard (composed_writeVariable _ _)) fun _ => composed_pure _
    | none => exact composed_pure _

theorem composed_catchError (arguments : List String) :
    Composes view rich plain (Commands.catchError rich arguments)
      (Commands.catchError plain arguments) := by
  unfold Commands.catchError
  split
  · exact composed_catchScript _ _
  · exact composed_catchScript _ _
  · exact composed_wrongUsage _

/-! ## Widgets -/

theorem composed_runWidgetScript (path : String) :
    Composes view rich plain (Commands.runWidgetScript rich path)
      (Commands.runWidgetScript plain path) := by
  unfold Commands.runWidgetScript
  apply Composed.bind (composed_option? path _)
  intro script
  split
  · split
    · exact composed_pure ""
    · exact composed_script _
  · exact composed_pure ""

theorem composed_invokeWidget (path className : String) :
    Composes view rich plain (Commands.invokeWidget rich path className)
      (Commands.invokeWidget plain path className) := by
  unfold Commands.invokeWidget
  apply Composed.bind (composed_option? path _)
  intro state
  split
  · exact composed_pure ""
  · apply Composed.bind (composed_option? path _)
    intro variableName
    split
    · apply Composed.bind (composed_updateVariable _ _ _)
      intro _
      exact composed_runWidgetScript path
    · exact composed_runWidgetScript path

theorem composed_widgetCommand (path : String) (arguments : List String) :
    Composes view rich plain (Commands.widgetCommand rich path arguments)
      (Commands.widgetCommand plain path arguments) := by
  unfold Commands.widgetCommand
  apply Composed.bind composed_getWidgets
  intro table
  split
  · exact composed_fail _
  · split
    · exact composed_wrongUsage _
    · exact composed_configure _ _
    · exact composed_configure _ _
    · split
      · apply Composed.bind (composed_option? _ _)
        intro value
        split
        · exact composed_pure _
        · exact composed_fail _
      · exact composed_wrongUsage _
    · exact composed_invokeWidget _ _
    · split
      · split
        · exact composed_entryText _
        · exact composed_insertIntoEntry _ _
        · exact composed_deleteFromEntry _ _
        · exact composed_pure ""
      · exact composed_pure ""

variable (fits : Fits view rich plain)

include fits

theorem composed_builtin
    {builtin : Builtin}
    (notUpdate : builtin ≠ .update)
    (notExit : builtin ≠ .exit)
    (name : String)
    (arguments : List String) :
    Composes view rich plain (builtin.run rich name arguments)
      (builtin.run plain name arguments) := by
  cases builtin with
  | set => exact composed_set arguments
  | unset => exact composed_unset arguments
  | incr => exact composed_incr arguments
  | append => exact composed_append arguments
  | list => exact composed_list arguments
  | llength => exact composed_llength arguments
  | lindex => exact composed_lindex arguments
  | lappend => exact composed_lappend arguments
  | concat => exact composed_pure _
  | join => exact composed_join arguments
  | string => exact composed_string arguments
  | expr => exact composed_expr arguments
  | ifThen => exact composed_ifThen arguments
  | whileLoop => exact composed_whileLoop fits arguments
  | forLoop => exact composed_forLoop fits arguments
  | foreachLoop => exact composed_foreachLoop arguments
  | proc => exact composed_proc fits arguments
  | returnValue => exact composed_returnValue arguments
  | breakLoop => exact .throw _ rfl
  | continueLoop => exact .throw _ rfl
  | error => exact composed_error arguments
  | catchError => exact composed_catchError arguments
  | eval => exact composed_evalArguments arguments
  | subst => exact composed_subst arguments
  | puts => exact composed_puts arguments
  | rename => exact composed_rename fits arguments
  | namespaces => exact composed_namespaces arguments
  | info => exact composed_info arguments
  | globals => exact composed_globals arguments
  | after => exact composed_after arguments
  | update => cases notUpdate rfl
  | exit => cases notExit rfl
  | createWidget => exact composed_createWidget fits name arguments
  | manage => exact composed_manage name arguments
  | destroy => exact composed_destroy fits arguments
  | bind => exact composed_bindCommand arguments
  | event => exact composed_event arguments
  | focus => exact composed_focus arguments
  | wm => exact composed_wm arguments
  | winfo => exact composed_winfo arguments

end Action

end ScriptBridge
