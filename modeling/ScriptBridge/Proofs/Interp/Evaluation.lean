import ScriptBridge.Proofs.Interp.Scripts

/-!
# What evaluations do to a machine

What is composed keeps to a conduct that allows the changes of commands, if its parts do. A conduct
that also allows calls to nest is kept by every invocation. Hence, by induction on the fuel, it is
kept by every evaluator whose host keeps to it, and with it by whatever a host submits.
-/

namespace ScriptBridge

variable
  {Key Host : Type}
  {conduct : Conduct (Machine Key Host)}
  {host : HostCommands Key Host}
  {eval : Evaluator Key Host}

/-! ## Scripts -/

/-- The calls that a script makes. -/
inductive Calls
    {Rich : Type}
    (rich : String → List String → Action Key Rich String)
    (plain : String → List String → Action Key Host String) :
    ⦃α : Type⦄ → Action Key Rich α → Action Key Host α → Prop
  | call (name : String) (arguments : List String) :
      Calls rich plain (rich name arguments) (plain name arguments)

namespace Action

variable
  {Rich : Type}
  {view : Rich → Host}
  {release : Release Key Rich}
  {rich : String → List String → Action Key Rich String}
  {plain : String → List String → Action Key Host String}

theorem code?_interruption (fault : ScanFault) : fault.interruption.code? = none := by
  cases fault <;> rfl

mutual

theorem composed_substitutePieces (start : String) :
    (pieces : List Piece) →
      Composed view release (Calls rich plain) (substitutePieces rich start pieces)
        (substitutePieces plain start pieces)
  | [] => by
      unfold substitutePieces
      exact composed_pure start
  | piece :: rest => by
      unfold substitutePieces
      apply Composed.bind (composed_substitutePiece piece)
      intro text
      exact composed_substitutePieces (start ++ text) rest

theorem composed_substitutePiece :
    (piece : Piece) →
      Composed view release (Calls rich plain) (substitutePiece rich piece)
        (substitutePiece plain piece)
  | .literal text => by
      unfold substitutePiece
      exact composed_pure _
  | .variable name => by
      unfold substitutePiece
      exact composed_readVariable name
  | .command body => by
      unfold substitutePiece
      exact composed_runScript "" body

theorem composed_substituteWords :
    (words : List (List Piece)) →
      Composed view release (Calls rich plain) (substituteWords rich words)
        (substituteWords plain words)
  | [] => by
      unfold substituteWords
      exact composed_pure []
  | word :: rest => by
      unfold substituteWords
      apply Composed.bind (composed_substitutePieces "" word)
      intro text
      exact .bind (composed_substituteWords rest) fun texts => composed_pure _

theorem composed_runScript (result : String) :
    (script : Script) →
      Composed view release (Calls rich plain) (runScript rich result script)
        (runScript plain result script)
  | .done => by
      unfold runScript
      exact composed_pure result
  | .command words rest => by
      unfold runScript
      apply Composed.bind (composed_substituteWords words)
      intro texts
      split
      · exact composed_runScript result rest
      · apply Composed.bind (.part (.call _ _))
        intro value
        exact composed_runScript value rest
  | .cut words last fault => by
      unfold runScript
      apply Composed.bind (composed_discard (composed_substituteWords words))
      intro _
      apply Composed.bind (composed_discard (composed_substitutePieces "" last))
      intro _
      exact .throw _ (code?_interruption fault)

end

theorem composed_substituteTemplate (template : Template) :
    Composed view release (Calls rich plain) (template.substitute rich)
      (template.substitute plain) := by
  apply Composed.bind (composed_substitutePieces "" template.pieces)
  intro text
  split
  · exact .throw _ (code?_interruption _)
  · exact composed_pure text

end Action

/-! ## Laws -/

/-- The scripts of an evaluator keep to a conduct. -/
structure Evaluator.Keeps
    (eval : Evaluator Key Host)
    (conduct : Conduct (Machine Key Host)) : Prop where
  script : ∀ text, conduct.Keeps (eval.script text)
  substitute : ∀ text, conduct.Keeps (eval.substitute text)

theorem Evaluator.fits_self (eval : Evaluator Key Host) : Fits id eval eval :=
  ⟨fun _ _ => rfl, rfl⟩

namespace Machine

def atDepth (machine : Machine Key Host) (depth : Nat) : Machine Key Host :=
  { machine with interp := { machine.interp with depth } }

def withFrames (machine : Machine Key Host) (frames : List Frame) : Machine Key Host :=
  machine.withStore { machine.interp.store with frames }

/-- The machine where a procedure starts. -/
def pushed (machine : Machine Key Host) (frame : Frame) : Machine Key Host :=
  machine.withFrames (frame :: machine.interp.store.frames)

/-- The machine where the innermost procedure has ended. -/
def popped (machine : Machine Key Host) : Machine Key Host :=
  machine.withFrames machine.interp.store.frames.tail

def withResult (machine : Machine Key Host) (result : String) : Machine Key Host :=
  { machine with interp := { machine.interp with result } }

end Machine

namespace Conduct

open Machine

/-- What a conduct has to allow if the commands that scripts invoke are to keep to it. -/
structure AllowsScripts
    (conduct : Conduct (Machine Key Host))
    (release : Release Key Host) : Prop where
  changed : ∀ {before after : Machine Key Host},
    Change release before after → conduct.allows true before after
  answered : ∀ (machine : Machine Key Host) result,
    conduct.allows true machine (machine.withResult result)

/-- What a conduct has to allow if invocations and procedure calls are to keep to it. -/
structure AllowsNesting (conduct : Conduct (Machine Key Host)) : Prop where
  entered : ∀ {finished : Bool} {machine after : Machine Key Host},
    machine.interp.depth < maxDepth →
    conduct.allows finished (machine.atDepth (machine.interp.depth + 1)) after →
      conduct.allows finished machine (after.atDepth machine.interp.depth)
  called : ∀ {finished : Bool} {machine after : Machine Key Host} {frame : Frame},
    conduct.allows finished (machine.pushed frame) after →
      conduct.allows finished machine after.popped

/-- A conduct that does not look at the calls in progress allows them to nest. -/
theorem allowsNesting_of_indifferent
    (depths : ∀ (machine : Machine Key Host) depth,
      conduct.allows true machine (machine.atDepth depth))
    (frames : ∀ (machine : Machine Key Host) frames,
      conduct.allows true machine (machine.withFrames frames)) :
    conduct.AllowsNesting where
  entered _ inside := Conduct.before (Conduct.after (depths _ _) inside) (depths _ _)
  called inside := Conduct.before (Conduct.after (frames _ _) inside) (frames _ _)

theorem keeps_getInterp : conduct.Keeps (Action.getInterp : Action Key Host (Interp Key)) :=
  keeps_bind keeps_get fun machine => keeps_pure machine.interp

section Composed

variable
  {Plain : Type}
  {view : Host → Plain}
  {release : Release Key Host}
  {parts : ⦃α : Type⦄ → Action Key Host α → Action Key Plain α → Prop}
  {α : Type}
  {action : Action Key Host α}
  {plain : Action Key Plain α}

theorem AllowsScripts.allows_changes
    (laws : conduct.AllowsScripts release)
    {before after : Machine Key Host}
    (changes : Changes release before after) :
    conduct.allows true before after := by
  induction changes with
  | refl => exact conduct.refl before
  | tail _ change inductionHypothesis =>
      exact Conduct.after inductionHypothesis (laws.changed change)

theorem AllowsScripts.keeps_setResult
    (laws : conduct.AllowsScripts release)
    (result : String) :
    conduct.Keeps (Action.setResult result : Action Key Host Unit) :=
  keeps_modify fun machine => laws.answered machine result

theorem AllowsScripts.keeps_setExitCode
    (laws : conduct.AllowsScripts release)
    (code : Int32) :
    conduct.Keeps (Action.setExitCode code : Action Key Host Unit) :=
  keeps_modify fun _ => laws.changed (.ended code)

theorem AllowsScripts.keeps_direct
    (laws : conduct.AllowsScripts release)
    (direct : Action.Direct view release action plain) :
    conduct.Keeps action := by
  intro machine
  have allowed := laws.allows_changes (direct.changes machine)
  have finished : finishes (action.run.run machine).1 = true := by
    cases ended : (action.run.run machine).1 with
    | ok value => rfl
    | error fault =>
        obtain ⟨message, rfl⟩ := direct.faults machine fault ended
        rfl
  unfold KeepsFrom
  rw [finished]
  exact allowed

/-- What is composed keeps to what its parts keep to. -/
theorem AllowsScripts.keeps_composed
    (laws : conduct.AllowsScripts release)
    (keeps : ∀ ⦃β : Type⦄ {action : Action Key Host β} {plain : Action Key Plain β},
      parts action plain → conduct.Keeps action)
    (composed : Action.Composed view release parts action plain) :
    conduct.Keeps action := by
  induction composed with
  | part part => exact keeps part
  | direct direct => exact laws.keeps_direct direct
  | throw fault => exact keeps_throw fault
  | bind _ _ first second => exact keeps_bind first second
  | look _ next => exact keeps_get_bind fun machine => next machine machine
  | attempt _ passed _ tried handled =>
      apply keeps_attempt_bind tried
      · intro outcome
        by_cases final : ∃ fault, outcome = .error fault ∧ fault.isFinal = true
        · obtain ⟨fault, rfl, isFinal⟩ := final
          rw [(passed fault isFinal).1]
          exact keeps_throw fault
        · apply handled outcome
          intro fault same
          exact Bool.eq_false_iff.mpr fun isFinal => final ⟨fault, same, isFinal⟩
      · intro machine
        rw [(passed .unfinished rfl).1]
        rfl

end Composed

/-! ## Commands -/

section Commands

variable (laws : conduct.AllowsScripts eval.release) (scripts : eval.Keeps conduct)

include laws

namespace AllowsScripts

include scripts

theorem keeps_runEvent (event : Event) : conduct.Keeps (Commands.runEvent eval event) := by
  apply keeps_bind
  · exact keeps_modify fun machine => laws.changed (.waited (Nat.le_max_left machine.clock _))
  · intro _
    apply keeps_attempt_bind (scripts.script _)
    · intro outcome
      cases outcome with
      | ok _ => exact keeps_pure ()
      | error interruption =>
          cases interruption with
          | exited code => exact laws.keeps_setExitCode code
          | unfinished => exact keeps_throw _
          | _ => exact keeps_pure ()
    · intro machine
      rfl

theorem keeps_runEvents (onlyDue : Bool) (rounds : Nat) :
    conduct.Keeps (Commands.runEvents eval onlyDue rounds) := by
  induction rounds with
  | zero => exact keeps_throw _
  | succ rounds inductionHypothesis =>
      unfold Commands.runEvents
      apply keeps_get_bind
      intro machine
      split
      · exact keeps_pure () machine
      · split
        · exact keeps_pure () machine
        · rename_i event next
          split
          · exact keeps_pure () machine
          · -- The next event is known of this machine alone.
            apply keepsFrom_bind
            · exact keepsFrom_set (laws.changed (.queued (.started next)))
            · intro _ after _
              exact keeps_bind (laws.keeps_runEvent scripts event) (fun _ => inductionHypothesis)
                after

omit laws scripts in
theorem keeps_exit (arguments : List String) :
    conduct.Keeps (Commands.exit arguments : Action Key Host String) := by
  unfold Commands.exit
  split
  · exact keeps_throw _
  · apply keeps_bind
    · unfold Action.intOf
      split
      · exact keeps_pure _
      · exact keeps_fail _
    · intro code
      exact keeps_throw _

theorem keeps_update (arguments : List String) :
    conduct.Keeps (Commands.update eval arguments) := by
  unfold Commands.update
  split
  · exact keeps_bind (laws.keeps_runEvents scripts true _) fun _ => keeps_pure ""
  · exact keeps_bind (laws.keeps_runEvents scripts true _) fun _ => keeps_pure ""
  · exact keeps_wrongUsage _

/-- What commands are put together from keeps to what their scripts keep to. -/
theorem keeps_composes
    {α : Type}
    {action : Action Key Host α}
    (composed : Evaluator.Composes id eval eval action action) :
    conduct.Keeps action := by
  apply laws.keeps_composed _ composed
  intro β action plain part
  cases part with
  | script text => exact scripts.script text
  | substitute text => exact scripts.substitute text

theorem keeps_builtin (builtin : Builtin) (name : String) (arguments : List String) :
    conduct.Keeps (builtin.run eval name arguments) := by
  by_cases update : builtin = .update
  · subst update
    exact laws.keeps_update scripts arguments
  · by_cases exit : builtin = .exit
    · subst exit
      exact keeps_exit arguments
    · exact laws.keeps_composes scripts
        (Action.composed_builtin eval.fits_self update exit name arguments)

end AllowsScripts

end Commands

end Conduct

open Conduct

/-! ## Invocation -/

/-- The host has a command with this key in the table. -/
def Interp.KnowsHost (interp : Interp Key) (key : Key) : Prop :=
  ∃ name, interp.command? name = some (.host key)

/-- What the calls of a host keep to, if the scripts that they evaluate do. -/
def HostCommands.Keeps
    (host : HostCommands Key Host)
    (conduct : Conduct (Machine Key Host)) : Prop :=
  ∀ eval : Evaluator Key Host, eval.release = host.release → eval.Keeps conduct →
    ∀ key words machine, machine.interp.KnowsHost key →
      conduct.KeepsFrom machine (host.call eval key words)

/-- Invokes a command as `invoke` does, but runs it in a way of its own. -/
def invokeRunning
    (run : Evaluator Key Host → Command Key → String → List String → Action Key Host String)
    (eval : Evaluator Key Host)
    (name : String)
    (arguments : List String) : Action Key Host String := do
  let interp ← Action.getInterp
  match interp.command? name with
  | none => Action.fail ("invalid command name \"" ++ name ++ "\"")
  | some command =>
      if maxDepth ≤ interp.depth then
        Action.fail "too many nested evaluations (infinite loop?)"
      else
        Action.setDepth (interp.depth + 1)
        let outcome ← Action.attempt (run eval command name arguments)
        Action.setDepth interp.depth
        Action.ending outcome

section Invoking

variable
  {run : Evaluator Key Host → Command Key → String → List String → Action Key Host String}
  {machine : Machine Key Host}
  {name : String}

/-- Invoking a known command does what the command does, one level deeper. -/
theorem run_invokeRunning
    {command : Command Key}
    (known : machine.interp.command? name = some command)
    (shallow : machine.interp.depth < maxDepth)
    (arguments : List String) :
    (invokeRunning run eval name arguments).run.run machine =
      let ran := (run eval command name arguments).run.run
        (machine.atDepth (machine.interp.depth + 1))
      (ran.1, ran.2.atDepth machine.interp.depth) := by
  have found : Action.getInterp.run.run machine = (.ok machine.interp, machine) := rfl
  unfold invokeRunning
  rw [run_bind, found]
  dsimp only
  rw [known]
  dsimp only
  rw [if_neg (Nat.not_le.mpr shallow)]
  rfl

/-- At the greatest depth no command is run any more. -/
theorem run_invokeRunning_of_deep
    {command : Command Key}
    (known : machine.interp.command? name = some command)
    (deep : maxDepth ≤ machine.interp.depth)
    (arguments : List String) :
    (invokeRunning run eval name arguments).run.run machine =
      (.error (.error "too many nested evaluations (infinite loop?)"), machine) := by
  have found : Action.getInterp.run.run machine = (.ok machine.interp, machine) := rfl
  unfold invokeRunning
  rw [run_bind, found]
  dsimp only
  rw [known]
  dsimp only
  rw [if_pos deep]
  rfl

theorem run_invokeRunning_of_unknown
    (unknown : machine.interp.command? name = none)
    (arguments : List String) :
    (invokeRunning run eval name arguments).run.run machine =
      (.error (.error ("invalid command name \"" ++ name ++ "\"")), machine) := by
  have found : Action.getInterp.run.run machine = (.ok machine.interp, machine) := rfl
  unfold invokeRunning
  rw [run_bind, found]
  dsimp only
  rw [unknown]
  rfl

theorem run_invoke
    {command : Command Key}
    (known : machine.interp.command? name = some command)
    (shallow : machine.interp.depth < maxDepth)
    (arguments : List String) :
    (invoke host eval name arguments).run.run machine =
      let ran := (command.run host eval name arguments).run.run
        (machine.atDepth (machine.interp.depth + 1))
      (ran.1, ran.2.atDepth machine.interp.depth) :=
  run_invokeRunning known shallow arguments

theorem run_invoke_of_deep
    {command : Command Key}
    (known : machine.interp.command? name = some command)
    (deep : maxDepth ≤ machine.interp.depth)
    (arguments : List String) :
    (invoke host eval name arguments).run.run machine =
      (.error (.error "too many nested evaluations (infinite loop?)"), machine) :=
  run_invokeRunning_of_deep known deep arguments

theorem run_invoke_of_unknown
    (unknown : machine.interp.command? name = none)
    (arguments : List String) :
    (invoke host eval name arguments).run.run machine =
      (.error (.error ("invalid command name \"" ++ name ++ "\"")), machine) :=
  run_invokeRunning_of_unknown unknown arguments

/-- What commands would do below the greatest depth does not matter. -/
theorem invokeRunning_eq
    (agrees : ∀ eval command name arguments (machine : Machine Key Host),
      machine.interp.depth ≤ maxDepth →
        (run eval command name arguments).run.run machine =
          (command.run host eval name arguments).run.run machine) :
    invokeRunning run = invoke host := by
  funext eval name arguments machine
  show (invokeRunning run eval name arguments).run.run machine =
    (invoke host eval name arguments).run.run machine
  cases known : machine.interp.command? name with
  | none => rw [run_invokeRunning_of_unknown known, run_invoke_of_unknown known]
  | some command =>
      by_cases shallow : machine.interp.depth < maxDepth
      · rw [run_invokeRunning known shallow, run_invoke known shallow, agrees]
        exact shallow
      · have deep := Nat.not_lt.mp shallow
        rw [run_invokeRunning_of_deep known deep, run_invoke_of_deep known deep]

end Invoking

/-- The body of a procedure is evaluated in a frame of its own. -/
theorem run_call
    {procedure : Procedure}
    {arguments : List String}
    {frame : Frame}
    (fits : procedure.frame? arguments = some frame)
    (name : String)
    (machine : Machine Key Host) :
    (procedure.call eval name arguments).run.run machine =
      let ran := (eval.script procedure.body).run.run (machine.pushed frame)
      (callOutcome ran.1, ran.2.popped) := by
  unfold Procedure.call
  rw [fits]
  rfl

theorem finishes_callOutcome (outcome : Except Interruption String) :
    finishes (callOutcome outcome) = finishes outcome := by
  cases outcome with
  | ok value => rfl
  | error fault => cases fault <;> rfl

section Invocation

variable
  (laws : conduct.AllowsScripts host.release)
  (nesting : conduct.AllowsNesting)
  (calls : host.Keeps conduct)

include laws nesting calls

theorem keeps_invoke
    (release : eval.release = host.release)
    (scripts : eval.Keeps conduct)
    (name : String)
    (arguments : List String) :
    conduct.Keeps (invoke host eval name arguments) := by
  have lawsHere : conduct.AllowsScripts eval.release := release ▸ laws
  have ran (machine : Machine Key Host) (command : Command Key)
      (known : machine.interp.command? name = some command) :
      conduct.KeepsFrom machine (command.run host eval name arguments) := by
    cases command with
    | builtin meaning => exact lawsHere.keeps_builtin scripts meaning name arguments machine
    | procedure definition =>
        unfold KeepsFrom Command.run
        dsimp only
        cases fits : definition.frame? arguments with
        | none =>
            unfold Procedure.call
            rw [fits]
            exact keeps_wrongUsage _ machine
        | some frame =>
            rw [run_call fits, finishes_callOutcome]
            exact nesting.called (scripts.script definition.body (machine.pushed frame))
    | host key => exact calls eval release scripts key (name :: arguments) machine ⟨name, known⟩
    | widget =>
        exact lawsHere.keeps_composes scripts
          (Action.composed_widgetCommand name arguments) machine
  intro machine
  unfold KeepsFrom
  cases known : machine.interp.command? name with
  | none =>
      rw [run_invoke_of_unknown known]
      exact conduct.refl machine
  | some command =>
      by_cases shallow : machine.interp.depth < maxDepth
      · rw [run_invoke known shallow]
        exact nesting.entered shallow
          (ran (machine.atDepth (machine.interp.depth + 1)) command known)
      · rw [run_invoke_of_deep known (Nat.not_lt.mp shallow)]
        exact conduct.refl machine

end Invocation

/-! ## Evaluators -/

theorem evaluator_release (host : HostCommands Key Host) (fuel : Nat) :
    (evaluator host fuel).release = host.release := by
  cases fuel <;> rfl

/-- The evaluator that invokes commands in another way. -/
def evaluatorVia
    (call : Evaluator Key Host → String → List String → Action Key Host String)
    (release : Release Key Host) : (fuel : Nat) → Evaluator Key Host
  | 0 =>
      { script := fun _ => throw .unfinished
        substitute := fun _ => throw .unfinished
        release
        rounds := 0 }
  | fuel + 1 =>
      { script := fun text =>
          runScript (call (evaluatorVia call release fuel)) "" (Script.ofText text)
        substitute := fun text =>
          (Template.ofText text).substitute (call (evaluatorVia call release fuel))
        release
        rounds := fuel }

theorem evaluatorVia_invoke (host : HostCommands Key Host) (fuel : Nat) :
    evaluatorVia (invoke host) host.release fuel = evaluator host fuel := by
  induction fuel with
  | zero => rfl
  | succ fuel inductionHypothesis =>
      unfold evaluatorVia evaluator
      rw [inductionHypothesis]

section Evaluators

variable
  {call : Evaluator Key Host → String → List String → Action Key Host String}
  {release : Release Key Host}

theorem evaluatorVia_release (fuel : Nat) : (evaluatorVia call release fuel).release = release := by
  cases fuel <;> rfl

/-- Scripts keep to whatever the calls that they make keep to. -/
theorem keeps_evaluatorVia
    (laws : conduct.AllowsScripts release)
    (calls : ∀ eval : Evaluator Key Host, eval.release = release → eval.Keeps conduct →
      ∀ name arguments, conduct.Keeps (call eval name arguments))
    (fuel : Nat) :
    (evaluatorVia call release fuel).Keeps conduct := by
  induction fuel with
  | zero =>
      constructor
      · intro text
        exact keeps_throw _
      · intro text
        exact keeps_throw _
  | succ fuel inductionHypothesis =>
      let made := call (evaluatorVia call release fuel)
      have keeps : ∀ ⦃α : Type⦄ {action plain : Action Key Host α},
          Calls made made action plain → conduct.Keeps action := by
        rintro _ _ _ ⟨name, arguments⟩
        exact calls _ (evaluatorVia_release fuel) inductionHypothesis name arguments
      constructor
      · intro text
        have composed : Action.Composed id release (Calls made made) _ _ :=
          Action.composed_runScript "" (Script.ofText text)
        exact laws.keeps_composed keeps composed
      · intro text
        have composed : Action.Composed id release (Calls made made) _ _ :=
          Action.composed_substituteTemplate (Template.ofText text)
        exact laws.keeps_composed keeps composed

theorem keeps_evaluator
    (laws : conduct.AllowsScripts host.release)
    (nesting : conduct.AllowsNesting)
    (calls : host.Keeps conduct)
    (fuel : Nat) :
    (evaluator host fuel).Keeps conduct := by
  rw [← evaluatorVia_invoke]
  exact keeps_evaluatorVia laws
    (fun _ release scripts => keeps_invoke laws nesting calls release scripts) fuel

end Evaluators

/-! ## Submission -/

section Submission

variable
  (laws : conduct.AllowsScripts eval.release)
  (scripts : eval.Keeps conduct)

include laws scripts

theorem keeps_submit (script : String) : conduct.Keeps (submit eval script) := by
  have accepted : ∀ value, conduct.Keeps
      (submit.accept value : Action Key Host (Except String Unit)) :=
    fun value => keeps_bind (laws.keeps_setResult value) fun _ => keeps_pure _
  have rejected : ∀ message, conduct.Keeps
      (submit.reject message : Action Key Host (Except String Unit)) :=
    fun message => keeps_bind (laws.keeps_setResult message) fun _ => keeps_pure _
  unfold submit
  apply keeps_attempt_bind (scripts.script script)
  · intro outcome
    split
    · exact accepted _
    · exact accepted _
    · exact keeps_bind (laws.keeps_setExitCode _) fun _ => accepted ""
    · exact rejected _
    · exact rejected _
    · exact rejected _
    · exact keeps_throw _
  · intro machine
    rfl

theorem keeps_runEventLoop : conduct.Keeps (runEventLoop eval) :=
  laws.keeps_runEvents scripts false eval.rounds

end Submission

end ScriptBridge
