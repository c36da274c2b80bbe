import ScriptBridge.Proofs.Bridge.CallStacks
import ScriptBridge.Proofs.Bridge.Scenes
import ScriptBridge.Proofs.Vocabulary.ListValues

/-!
# Scripts of widgets

Invoking a widget sets its variable and then evaluates its script. The variable is a global one
wherever that happens. The script is evaluated like any other: in a procedure call its variables are
those of the call.
-/

namespace ScriptBridge

variable {Key Host : Type} {α β : Type}

/-! ## Actions at global level -/

namespace Action

/-- What an action does has nothing to do with the procedure calls in progress. -/
def IgnoresFrames (action : Action Key Host α) : Prop :=
  ∀ (machine : Machine Key Host) (frames : List Frame),
    action.run.run (machine.withFrames frames) =
      ((action.run.run machine).1, (action.run.run machine).2.withFrames frames)

/-- In this state an action does the same as it would at global level, and leaves all procedure
calls in progress as they are. -/
def AtGlobalLevel (action : Action Key Host α) (machine : Machine Key Host) : Prop :=
  action.run.run machine =
    let ran := action.run.run (machine.withFrames [])
    (ran.1, ran.2.withFrames machine.interp.store.frames)

theorem ignoresFrames_pure (value : α) : (pure value : Action Key Host α).IgnoresFrames :=
  fun _ _ => rfl

theorem IgnoresFrames.bind
    {action : Action Key Host α}
    {next : α → Action Key Host β}
    (first : action.IgnoresFrames)
    (others : ∀ value, (next value).IgnoresFrames) :
    (action >>= next).IgnoresFrames := by
  intro machine frames
  rw [Conduct.run_bind, Conduct.run_bind, first machine frames]
  rcases action.run.run machine with ⟨outcome, after⟩
  cases outcome with
  | ok value => exact others value after frames
  | error fault => rfl

theorem IgnoresFrames.discard
    {action : Action Key Host α}
    (ignores : action.IgnoresFrames) :
    (Functor.discard action).IgnoresFrames :=
  ignores.bind fun _ => ignoresFrames_pure _

theorem ignoresFrames_option? (path option : String) :
    (Commands.option? path option : Action Key Host (Option String)).IgnoresFrames :=
  fun _ _ => rfl

end Action

/-! ## Global variables -/

namespace VariableStore

variable {name : String}

theorem set_withFrames
    (qualified : Name.isQualified name = true)
    (store : VariableStore)
    (frames : List Frame)
    (cells : Cells)
    (value : String) :
    VariableStore.set { store with frames } cells name value =
      (store.set cells name value).map fun (text, after, cells) =>
        (text, { after with frames }, cells) := by
  unfold set
  rw [globalKey?_of_isQualified qualified, globalKey?_of_isQualified qualified]
  dsimp only
  cases linked : store.links[Name.key name]? with
  | none => rfl
  | some link =>
      dsimp only
      cases link.write cells name value <;> rfl

end VariableStore

namespace Action

variable {name : String}

theorem ignoresFrames_valueOf?
    (qualified : Name.isQualified name = true) :
    (valueOf? name : Action Key Host (Option String)).IgnoresFrames := by
  intro machine frames
  have same : (machine.withFrames frames).valueOf? name = machine.valueOf? name := by
    unfold Machine.valueOf?
    rw [VariableStore.get?_of_isQualified qualified, VariableStore.get?_of_isQualified qualified]
    rfl
  show ((Except.ok ((machine.withFrames frames).valueOf? name), _) : _ × _) = _
  rw [same]
  rfl

theorem ignoresFrames_writeVariable
    (qualified : Name.isQualified name = true)
    (value : String) :
    (writeVariable name value : Action Key Host String).IgnoresFrames := by
  intro machine frames
  rw [run_writeVariable, run_writeVariable]
  unfold Machine.writeVariable
  have sets : (machine.withFrames frames).interp.store.set (machine.withFrames frames).cells name
      value = _ :=
    VariableStore.set_withFrames qualified machine.interp.store frames machine.cells value
  rw [sets]
  cases machine.interp.store.set machine.cells name value <;> rfl

end Action

/-! ## Activation -/

namespace Commands

open ScriptBridge.Action

/-- What comes before the script of a widget: its variable is set. The result is the script that is
then to be evaluated, if any. -/
def activate (path className : String) : Action Key Host (Option String) := do
  if (← option? path "-state") = some "disabled" then
    return none
  else
    match ← option? path "-variable" with
    | some name => updateVariable path className name
    | none => pure ()
    return (← option? path "-command").filter (!·.isEmpty)

theorem isQualified_globalSpelling (name : String) :
    Name.isQualified (globalSpelling name) = true := by
  unfold globalSpelling
  by_cases qualified : Name.isQualified name = true
  · rw [if_pos qualified]
    exact qualified
  · rw [if_neg qualified]
    exact Name.isQualified_qualified name

def evaluateAny (eval : Evaluator Key Host) : Option String → Action Key Host String
  | some script => eval.script script
  | none => return ""

/-- Invoking a widget is its activation and then its script. -/
theorem invokeWidget_eq (eval : Evaluator Key Host) (path className : String) :
    invokeWidget eval path className = activate path className >>= evaluateAny eval := by
  have scripts : runWidgetScript eval path = (do
      evaluateAny eval ((← option? path "-command").filter (!·.isEmpty))) := by
    unfold runWidgetScript evaluateAny
    congr 1
    funext found
    cases found with
    | none => rfl
    | some script => cases empty : script.isEmpty <;> simp [empty, Option.filter]
  unfold invokeWidget activate
  rw [bind_assoc]
  congr 1
  funext state
  split
  · rfl
  · rw [scripts, bind_assoc]
    congr 1
    funext variableName
    cases variableName <;> simp

theorem ignoresFrames_updateVariable (path className name : String) :
    (updateVariable path className name : Action Key Host Unit).IgnoresFrames := by
  have qualified := isQualified_globalSpelling name
  unfold updateVariable
  dsimp only
  split
  · apply IgnoresFrames.bind (ignoresFrames_option? _ _)
    intro onValue
    apply IgnoresFrames.bind (ignoresFrames_option? _ _)
    intro offValue
    apply IgnoresFrames.bind (ignoresFrames_valueOf? qualified)
    intro current
    exact (ignoresFrames_writeVariable qualified _).discard
  · apply IgnoresFrames.bind (ignoresFrames_option? _ _)
    intro value
    exact (ignoresFrames_writeVariable qualified _).discard
  · exact ignoresFrames_pure ()

/-- The activation is the same in all procedure calls and outside of them. -/
theorem ignoresFrames_activate (path className : String) :
    (activate path className : Action Key Host (Option String)).IgnoresFrames := by
  have script : (do return (← option? path "-command").filter (!·.isEmpty) :
      Action Key Host (Option String)).IgnoresFrames :=
    (ignoresFrames_option? path _).bind fun _ => ignoresFrames_pure _
  unfold activate
  apply IgnoresFrames.bind (ignoresFrames_option? _ _)
  intro state
  split
  · exact ignoresFrames_pure none
  · apply IgnoresFrames.bind (ignoresFrames_option? _ _)
    intro variableName
    cases variableName with
    | none => exact script
    | some name => exact (ignoresFrames_updateVariable _ _ _).bind fun _ => script

theorem composed_activate
    {Rich : Type}
    {view : Rich → Host}
    {release : Release Key Rich}
    {parts : ⦃α : Type⦄ → Action Key Rich α → Action Key Host α → Prop}
    (path className : String) :
    Composed view release parts (activate path className : Action Key Rich (Option String))
      (activate path className) := by
  have script : Composed view release parts
      (do return (← option? path "-command").filter (!·.isEmpty) : Action Key Rich (Option String))
      (do return (← option? path "-command").filter (!·.isEmpty)) :=
    .bind (composed_option? path _) fun _ => composed_pure _
  unfold activate
  apply Composed.bind (composed_option? _ _)
  intro state
  split
  · exact composed_pure none
  · apply Composed.bind (composed_option? _ _)
    intro variableName
    cases variableName with
    | none => exact script
    | some name => exact .bind (composed_updateVariable _ _ _) fun _ => script

/-- The invocation of a widget activates it as at global level, and then evaluates its script in the
procedure call in which the widget is invoked. -/
theorem run_invoke_widget
    {machine : Machine Key Host}
    {path : String}
    {widget : Widget}
    (known : machine.interp.command? path = some .widget)
    (recorded : machine.interp.widgets.get? path = some widget)
    (shallow : machine.interp.depth < maxDepth)
    (host : HostCommands Key Host)
    (eval : Evaluator Key Host)
    (arguments : List String) :
    (invoke host eval path ("invoke" :: arguments)).run.run machine =
      let activated := (activate path widget.className).run.run
        ((machine.atDepth (machine.interp.depth + 1)).withFrames [])
      let ran := (ending activated.1 >>= evaluateAny eval).run.run
        (activated.2.withFrames machine.interp.store.frames)
      (ran.1, ran.2.atDepth machine.interp.depth) := by
  let inside := machine.atDepth (machine.interp.depth + 1)
  have recordedInside : inside.interp.widgets.get? path = some widget := recorded
  have invoked : (Command.widget.run host eval path ("invoke" :: arguments)).run.run inside =
      (activate path widget.className >>= evaluateAny eval).run.run inside := by
    rw [← invokeWidget_eq]
    show (widgetCommand eval path ("invoke" :: arguments)).run.run inside = _
    unfold widgetCommand
    rw [run_getWidgets_bind, recordedInside]
    rfl
  have sameFrames := ignoresFrames_activate path widget.className (inside.withFrames [])
    machine.interp.store.frames
  have restored : (inside.withFrames []).withFrames machine.interp.store.frames = inside := rfl
  rw [restored] at sameFrames
  rw [run_invoke known shallow]
  dsimp only
  rw [invoked, Conduct.run_bind, Conduct.run_bind, sameFrames]
  rfl

theorem atGlobalLevel_evaluateAny_iff
    {eval : Evaluator Key Host}
    {outcome : Except Interruption (Option String)}
    {machine : Machine Key Host} :
    (ending outcome >>= evaluateAny eval).AtGlobalLevel machine ↔
      ∀ script, outcome = .ok (some script) → (eval.script script).AtGlobalLevel machine := by
  cases outcome with
  | error fault => exact ⟨nofun, fun _ => rfl⟩
  | ok found =>
      cases found with
      | none => exact ⟨nofun, fun _ => rfl⟩
      | some script =>
          constructor
          · intro global other same
            cases same
            exact global
          · intro global
            exact global script rfl

end Commands

theorem Machine.eq_of_atDepth
    {first second : Machine Key Host}
    {depth : Nat}
    (same : first.atDepth depth = second.atDepth depth)
    (sameDepth : first.interp.depth = second.interp.depth) :
    first = second :=
  calc
    first = (first.atDepth depth).atDepth first.interp.depth := rfl
    _ = (second.atDepth depth).atDepth second.interp.depth := by rw [same, sameDepth]
    _ = second := rfl

/-- An invocation is at global level if what is behind the activation is, and keeps the depth. -/
theorem Commands.atGlobalLevel_invoke_iff
    {host : HostCommands Key Host}
    {machine : Machine Key Host}
    {path : String}
    {widget : Widget}
    {eval : Evaluator Key Host}
    {arguments : List String}
    {activated : Except Interruption (Option String) × Machine Key Host}
    (known : machine.interp.command? path = some .widget)
    (recorded : machine.interp.widgets.get? path = some widget)
    (shallow : machine.interp.depth < maxDepth)
    (activates : activated = (activate path widget.className).run.run
      ((machine.atDepth (machine.interp.depth + 1)).withFrames []))
    (sameDepth : ∀ frames, ((Action.ending activated.1 >>= evaluateAny eval).run.run
      (activated.2.withFrames frames)).2.interp.depth = machine.interp.depth + 1) :
    (invoke host eval path ("invoke" :: arguments)).AtGlobalLevel machine ↔
      ∀ script, activated.1 = .ok (some script) →
        (eval.script script).AtGlobalLevel
          (activated.2.withFrames machine.interp.store.frames) := by
  have knownAbove : (machine.withFrames []).interp.command? path = some .widget := known
  have recordedAbove : (machine.withFrames []).interp.widgets.get? path = some widget := recorded
  have shallowAbove : (machine.withFrames []).interp.depth < maxDepth := shallow
  have here := run_invoke_widget known recorded shallow host eval arguments
  have above := run_invoke_widget knownAbove recordedAbove shallowAbove host eval arguments
  have sameStart :
      ((machine.withFrames []).atDepth ((machine.withFrames []).interp.depth + 1)).withFrames [] =
        (machine.atDepth (machine.interp.depth + 1)).withFrames [] :=
    rfl
  rw [sameStart, ← activates] at above
  rw [← activates] at here
  rw [← atGlobalLevel_evaluateAny_iff]
  unfold Action.AtGlobalLevel
  rw [here, above]
  let frames := machine.interp.store.frames
  let depth := machine.interp.depth
  let inner := Action.ending activated.1 >>= evaluateAny eval
  let ran := inner.run.run (activated.2.withFrames frames)
  let top := inner.run.run (activated.2.withFrames [])
  show (ran.1, ran.2.atDepth depth) = (top.1, (top.2.atDepth depth).withFrames frames) ↔
    ran = (top.1, top.2.withFrames frames)
  constructor
  · intro same
    obtain ⟨sameOutcome, sameMachine⟩ := Prod.mk.inj same
    have depths : ran.2.interp.depth = top.2.interp.depth :=
      (sameDepth frames).trans (sameDepth []).symm
    have machines : ran.2.atDepth depth = (top.2.withFrames frames).atDepth depth := sameMachine
    exact Prod.ext sameOutcome (Machine.eq_of_atDepth machines depths)
  · intro same
    rw [same]
    rfl

/-! ## Sessions -/

namespace Conduct

/-- What keeps the calls in progress of all sessions keeps those of the one at work. -/
theorem sameStack_of_keeps
    {action : SessionAction α}
    {machine : SessionMachine}
    (keeps : sameStacks.atWork.Keeps action)
    (isOpen : machine.host.running < machine.host.sessions.size) :
    let after := (action.run.run machine).2
    machine.interp.SameStack after.interp ∧ after.host.running < after.host.sessions.size := by
  obtain ⟨sameRunning, kept⟩ := keeps machine
  have found : (World.ofMachine machine).sessions[machine.host.running]? =
      some ⟨machine.interp, machine.host.session⟩ := by
    rw [sessions_ofMachine, if_pos rfl, if_pos isOpen]
  obtain ⟨later, foundLater, stack⟩ := kept _ _ found
  rw [sessions_ofMachine, if_pos sameRunning] at foundLater
  split at foundLater
  · rename_i isOpenLater
    cases foundLater
    exact ⟨stack, isOpenLater⟩
  · cases foundLater

theorem keeps_activate (path className : String) :
    sameStacks.atWork.Keeps (Commands.activate path className) := by
  have runs := sameStacks_allowsHosts.runs 0
  have laws : sameStacks.atWork.AllowsScripts (Session.evaluatorOf 0).release :=
    sameStacks_allowsHosts.sessions.within.scripts
  exact laws.keeps_composes runs.scripts (Commands.composed_activate path className)

theorem keeps_evaluateAny (fuel : Nat) (outcome : Except Interruption (Option String)) :
    sameStacks.atWork.Keeps
      (Action.ending outcome >>= Commands.evaluateAny (Session.evaluatorOf fuel)) := by
  cases outcome with
  | error fault => exact keeps_throw fault
  | ok found =>
      cases found with
      | none => exact keeps_pure ""
      | some script => exact (sameStacks_allowsHosts.runs fuel).scripts.script script

end Conduct

/-- Invoking a widget sets its variable as at global level, wherever that happens, and evaluates its
script in the procedure call in progress. The calls in progress are the same afterwards, and so are
the variables of all but the innermost. The invocation does what it does at global level, and leaves
the variables of all calls as they are, exactly if its script does. -/
theorem widget_invoked_at_global_level_iff
    {machine : SessionMachine}
    {path : String}
    {widget : Widget}
    (isOpen : machine.host.running < machine.host.sessions.size)
    (known : machine.interp.command? path = some .widget)
    (recorded : machine.interp.widgets.get? path = some widget)
    (shallow : machine.interp.depth < maxDepth)
    (arguments : List String)
    (fuel : Nat) :
    let eval := Session.evaluatorOf fuel
    let invocation := invoke Session.hostCommands eval path ("invoke" :: arguments)
    let activated := (Commands.activate path widget.className).run.run
      ((machine.atDepth (machine.interp.depth + 1)).withFrames [])
    let entered := activated.2.withFrames machine.interp.store.frames
    let ran := (Action.ending activated.1 >>= Commands.evaluateAny eval).run.run entered
    invocation.run.run machine = (ran.1, ran.2.atDepth machine.interp.depth) ∧
      machine.interp.SameStack (invocation.run.run machine).2.interp ∧
      (invocation.AtGlobalLevel machine ↔
        ∀ script, activated.1 = .ok (some script) →
          (eval.script script).AtGlobalLevel entered) := by
  intro eval invocation activated entered ran
  let start := (machine.atDepth (machine.interp.depth + 1)).withFrames []
  have isOpenThere : start.host.running < start.host.sessions.size := isOpen
  obtain ⟨stackActivated, isOpenAfter⟩ :=
    Conduct.sameStack_of_keeps (Conduct.keeps_activate path widget.className) isOpenThere
  have stack (frames : List Frame) :=
    (Conduct.sameStack_of_keeps (Conduct.keeps_evaluateAny fuel activated.1)
      (show (activated.2.withFrames frames).host.running <
        (activated.2.withFrames frames).host.sessions.size from isOpenAfter)).1
  have invoked : invocation.run.run machine = (ran.1, ran.2.atDepth machine.interp.depth) :=
    Commands.run_invoke_widget known recorded shallow Session.hostCommands eval arguments
  refine ⟨invoked, ?_, ?_⟩
  · rw [invoked]
    have here := stack machine.interp.store.frames
    exact ⟨rfl, here.count, here.outer⟩
  · exact Commands.atGlobalLevel_invoke_iff known recorded shallow rfl fun frames =>
      (stack frames).depth.trans stackActivated.depth

/-! ## Scripts that set variables -/

theorem run_invoke_set
    {machine : Machine Key Host}
    {name value text : String}
    {store : VariableStore}
    {cells : Cells}
    (sets : machine.interp.command? "set" = some (.builtin .set))
    (shallow : machine.interp.depth < maxDepth)
    (wrote : machine.interp.store.set machine.cells name value = .ok (text, store, cells))
    (host : HostCommands Key Host)
    (eval : Evaluator Key Host) :
    (invoke host eval "set" [name, value]).run.run machine =
      (.ok text, { machine with interp := { machine.interp with store }, cells }) := by
  let inside := machine.atDepth (machine.interp.depth + 1)
  have wroteInside : inside.interp.store.set inside.cells name value = .ok (text, store, cells) :=
    wrote
  have ran : ((Command.builtin .set).run host eval "set" [name, value]).run.run inside = _ :=
    Action.run_writeVariable inside name value
  rw [Machine.writeVariable, wroteInside] at ran
  rw [run_invoke sets shallow, ran]
  rfl

namespace VariableStore

variable {store : VariableStore} {cells : Cells} {name : String}

theorem globals_mapInnermost (store : VariableStore) (change : Frame → Frame) :
    (store.mapInnermost change).globals = store.globals := by
  unfold mapInnermost
  split <;> rfl

end VariableStore

/-- Setting a local variable is not what setting it at global level is, unless the global variable
of the name has that value already. -/
theorem not_atGlobalLevel_set
    {host : HostCommands Key Host}
    {eval : Evaluator Key Host}
    {machine : Machine Key Host}
    {name value : String}
    (sets : machine.interp.command? "set" = some (.builtin .set))
    (shallow : machine.interp.depth < maxDepth)
    (isLocal : machine.interp.store.globalKey? name = none)
    (unlinked : machine.interp.store.links[name]? = none)
    (differs : machine.interp.store.globals[name]? ≠ some value) :
    ¬(invoke host eval "set" [name, value]).AtGlobalLevel machine := by
  have setsAbove : (machine.withFrames []).interp.command? "set" = some (.builtin .set) := sets
  have plain : ¬Name.isQualified name = true := by
    intro qualified
    rw [VariableStore.globalKey?_of_isQualified qualified] at isLocal
    cases isLocal
  have isGlobal : (machine.withFrames []).interp.store.globalKey? name = some name := if_neg plain
  have here := run_invoke_set sets shallow (VariableStore.set_of_local isLocal value) host eval
  have above := run_invoke_set setsAbove shallow
    (VariableStore.set_of_global isGlobal unlinked value) host eval
  intro same
  unfold Action.AtGlobalLevel at same
  rw [here, above] at same
  have globals := congrArg (fun ran => ran.2.interp.store.globals) same
  dsimp only at globals
  rw [VariableStore.globals_mapInnermost] at globals
  apply differs
  rw [globals]
  exact Std.TreeMap.getElem?_insert_self

/-- A button whose script sets a variable, invoked in a procedure call: the variable is one of the
call. -/
theorem widget_invoked_at_global_level_iff_of_button :
    let button : Widget :=
      { className := "Button", options := Std.TreeMap.ofList [("-command", "set x 5")] }
    let initial : Interp Nat := .initial
    let interp : Interp Nat :=
      { initial with
        commands := initial.commands.insert ".b" .widget
        widgets := WidgetTable.initial.insert ".b" button
        store := { frames := [{}] }
        depth := 1 }
    let session : OpenSession := { interp, state := { settings := {}, access := .open } }
    let world : World := { sessions := #[session] }
    let machine := world.machineOf 0 session
    machine.interp.SameStack
        ((invoke Session.hostCommands (Session.evaluatorOf 2) ".b" ["invoke"]).run.run
          machine).2.interp ∧
      ¬(invoke Session.hostCommands (Session.evaluatorOf 2) ".b" ["invoke"]).AtGlobalLevel
        machine := by
  intro button initial interp session world machine
  have known : machine.interp.command? ".b" = some .widget := Std.TreeMap.getElem?_insert_self
  have recorded : machine.interp.widgets.get? ".b" = some button := Std.TreeMap.getElem?_insert_self
  have isOpen : machine.host.running < machine.host.sessions.size := Nat.zero_lt_one
  have shallow : machine.interp.depth < maxDepth := show 1 < maxDepth by decide
  obtain ⟨-, stack, global⟩ :=
    widget_invoked_at_global_level_iff isOpen known recorded shallow [] 2
  refine ⟨stack, ?_⟩
  rw [global]
  intro scripts
  have script := scripts "set x 5" rfl
  have isSet : (Session.evaluatorOf 2).script "set x 5" =
      invoke Session.hostCommands (Session.evaluatorOf 1) "set" ["x", "5"] := by
    have plain : ListText.IsPlain "set".toList := by decide
    have text : "set x 5" = "set" ++ " " ++ ListText.format ["x", "5"] := by decide
    have received : ["x", "5"].map ListText.received = ["x", "5"] := by decide +kernel
    have listed := ListText.script_format plain ["x", "5"] Session.hostCommands 1
    rw [← text, received] at listed
    exact listed
  rw [isSet] at script
  have sets : initial.command? "set" = some (.builtin .set) :=
    command?_initial (by simp [Builtin.table]) rfl
  have setsHere : interp.command? "set" = some (.builtin .set) := by
    rw [← sets]
    exact Std.TreeMap.getElem?_insert
  have isShallow : 2 < maxDepth := by decide
  have unset : (∅ : Std.TreeMap String String)["x"]? ≠ some "5" := by simp
  exact not_atGlobalLevel_set setsHere isShallow rfl Std.TreeMap.getElem?_emptyc unset script

end ScriptBridge
