import ScriptBridge.Proofs.Interp.GeometryManagers

/-!
# Widget commands that fail

Creating a widget and setting options of one check everything before they change anything. A
geometry manager checks its options before, but the paths only as it comes to them: when it fails at
a path, the widgets in front of that one are marked.
-/

namespace ScriptBridge

open Commands

variable
  {Key Host : Type}
  {host : HostCommands Key Host}
  {eval : Evaluator Key Host}
  {machine after : Machine Key Host}
  {name path : String}
  {arguments : List String}
  {fault : Interruption}

/-! ## Checks before changes -/

namespace Action

/-- Behind a check that can only fail, what fails leaves the machine as it was, if what comes behind
the check does. -/
theorem eq_of_orFail_bind
    {Fault α β : Type}
    {message : Fault → String}
    {checked : Except Fault α}
    {next : α → Action Key Host β}
    (further : ∀ value, (next value).run.run machine = (.error fault, after) → after = machine)
    (fails : (orFail message checked >>= next).run.run machine = (.error fault, after)) :
    after = machine := by
  cases checked with
  | ok value => exact further value fails
  | error refused =>
      cases fails
      rfl

/-- An action that computes another machine leaves the one it had if it fails. -/
theorem eq_of_settled
    {α : Type}
    {computed : Except String (α × Machine Key Host)}
    (fails : settled machine computed = (.error fault, after)) :
    after = machine := by
  cases computed with
  | ok result => cases fails
  | error message =>
      cases fails
      rfl

end Action

theorem eq_of_createWidget_fails
    (fails : (createWidget eval name arguments).run.run machine = (.error fault, after)) :
    after = machine := by
  unfold createWidget at fails
  split at fails
  · cases fails
    rfl
  · split at fails
    · cases fails
      rfl
    · unfold createOfClass at fails
      split at fails
      · cases fails
        rfl
      · refine Action.eq_of_orFail_bind ?_ fails
        intro options creates
        rename_i parent _
        exact Action.eq_of_settled
          ((Action.run_createIn eval parent _ _ machine).symm.trans creates)

theorem eq_of_configure_fails
    (fails : (configure path arguments).run.run machine = (.error fault, after)) :
    after = machine := by
  unfold configure at fails
  rw [Action.run_getWidgets_bind] at fails
  split at fails
  · cases fails
    rfl
  · split at fails
    · cases fails
    · cases fails
    · refine Action.eq_of_orFail_bind ?_ fails
      intro options sets
      cases sets

/-- The words that tell a widget to set options. -/
def setsOptions (arguments : List String) : Bool :=
  arguments.head? == some "configure" || arguments.head? == some "config"

theorem eq_of_widgetCommand_fails
    (sets : setsOptions arguments = true)
    (fails : (widgetCommand eval path arguments).run.run machine = (.error fault, after)) :
    after = machine := by
  unfold widgetCommand at fails
  rw [Action.run_getWidgets_bind] at fails
  split at fails
  · cases fails
    rfl
  · rcases Bool.or_eq_true_iff.mp sets with configures | configures
    all_goals
      obtain ⟨options, rfl⟩ := List.head?_eq_some_iff.mp (eq_of_beq configures)
      exact eq_of_configure_fails fails

/-! ## What remains of a failure -/

/-- Whether a command with these arguments records widgets: it creates one, sets options of one, or
is a geometry manager. -/
def Command.recordsWidgets (arguments : List String) : Command Key → Bool
  | .builtin .createWidget => true
  | .builtin .manage => true
  | .widget => setsOptions arguments
  | _ => false

/-- The mark that a geometry manager of this name leaves. -/
def managerMark (name : String) (arguments : List String) : Option Manager :=
  if arguments.head? != some "forget" then some (managerOf name) else none

/-- The widgets that a command has marked when it comes to one that is not known. -/
def Command.markedFront
    (table : WidgetTable)
    (name : String)
    (arguments : List String) : Command Key → List String
  | .builtin .manage =>
      match refusal? (managerOf name) (arguments.head? != some "forget") (described arguments) with
      | some _ => []
      | none => table.knownFront (managedPaths (described arguments))
  | _ => []

theorem Command.markedFront_of_accepted
    (table : WidgetTable)
    (accepted : refusal? (managerOf name) (arguments.head? != some "forget")
      (described arguments) = none) :
    (Command.builtin .manage : Command Key).markedFront table name arguments =
      table.knownFront (managedPaths (described arguments)) := by
  simp only [markedFront, accepted]

theorem Command.contains_of_mem_markedFront
    {command : Command Key}
    {table : WidgetTable}
    (member : path ∈ command.markedFront table name arguments) :
    table.contains path = true := by
  unfold markedFront at member
  split at member
  · split at member
    · cases member
    · exact WidgetTable.contains_of_mem_knownFront member
  · cases member

/-- The error is that of the first path that is not known. -/
def StopsAtPath (table : WidgetTable) (arguments : List String) (fault : Interruption) : Prop :=
  ∃ unknown, table.unknown? (managedPaths (described arguments)) = some unknown ∧
    fault = .error ("bad window path name \"" ++ unknown ++ "\"")

theorem run_manage_fails
    (fails : (manage name arguments).run.run machine = (.error fault, after)) :
    let table := machine.interp.widgets
    let marked := (Command.builtin .manage : Command Key).markedFront table name arguments
    after = machine.withWidgets (table.managed (managerMark name arguments) marked) ∧
      (marked ≠ [] → StopsAtPath table arguments fault) := by
  intro table marked
  rw [manage_eq, run_manageWidgets] at fails
  dsimp only at fails
  cases refused : refusal? (managerOf name) (arguments.head? != some "forget")
      (described arguments) with
  | some message =>
      have none : marked = [] := by simp only [marked, Command.markedFront, refused]
      rw [refused] at fails
      cases fails
      rw [none]
      exact ⟨rfl, absurd rfl⟩
  | none =>
      have front : marked = table.knownFront (managedPaths (described arguments)) :=
        Command.markedFront_of_accepted table refused
      rw [refused] at fails
      cases unknown : machine.interp.widgets.unknown? (managedPaths (described arguments)) with
      | none =>
          rw [unknown] at fails
          cases fails
      | some path =>
          rw [unknown] at fails
          cases fails
          rw [front]
          exact ⟨rfl, fun _ => ⟨path, unknown, rfl⟩⟩

/-- What a widget command that fails leaves, if it is within the limit of nesting. -/
theorem Command.run_fails
    {command : Command Key}
    (records : command.recordsWidgets arguments = true)
    (fails : (command.run host eval name arguments).run.run machine = (.error fault, after)) :
    let table := machine.interp.widgets
    let marked := command.markedFront table name arguments
    after = machine.withWidgets (table.managed (managerMark name arguments) marked) ∧
      (marked ≠ [] → StopsAtPath table arguments fault) := by
  cases command with
  | builtin meaning =>
      cases meaning with
      | createWidget => exact ⟨eq_of_createWidget_fails fails, absurd rfl⟩
      | manage => exact run_manage_fails fails
      | _ => cases records
  | widget => exact ⟨eq_of_widgetCommand_fails records fails, absurd rfl⟩
  | procedure definition => cases records
  | host key => cases records

/-- A command that creates a widget or sets its options leaves everything as it was if it fails. So
does a geometry manager that refuses its arguments; but one that comes to a path that it does not
know has marked the widgets in front of that one, and nothing else. So the table of widgets reads as
before exactly if these had the mark already; the table of commands is as it was in any case. -/
theorem failing_widget_commands_mark_known_front
    {command : Command Key}
    (known : machine.interp.command? name = some command)
    (records : command.recordsWidgets arguments = true)
    (fails : (invoke host eval name arguments).run.run machine = (.error fault, after)) :
    let table := machine.interp.widgets
    let mark := managerMark name arguments
    let marked :=
      if machine.interp.depth < maxDepth then command.markedFront table name arguments else []
    (command ≠ .builtin .manage → after = machine) ∧
      after = machine.withWidgets (table.managed mark marked) ∧
      after.interp.commands = machine.interp.commands ∧
      (∀ path, after.interp.widgets.get? path =
        if path ∈ marked then (table.get? path).map fun widget => { widget with manager := mark }
        else table.get? path) ∧
      after.interp.widgets = { table with widgets := after.interp.widgets.widgets } ∧
      ((∀ path, after.interp.widgets.get? path = table.get? path) ↔
        ∀ path ∈ marked, table.ShownBy path mark) ∧
      (marked ≠ [] → StopsAtPath table arguments fault) := by
  intro table mark marked
  obtain ⟨left, failedAt⟩ :
      after = machine.withWidgets (table.managed mark marked) ∧
        (marked ≠ [] → StopsAtPath table arguments fault) := by
    by_cases shallow : machine.interp.depth < maxDepth
    · have front : marked = command.markedFront table name arguments := if_pos shallow
      rw [run_invoke known shallow] at fails
      rcases ran : (command.run host eval name arguments).run.run
        (machine.atDepth (machine.interp.depth + 1)) with ⟨outcome, final⟩
      rw [ran] at fails
      cases fails
      obtain ⟨rfl, failedAt⟩ := Command.run_fails records ran
      rw [front]
      exact ⟨rfl, failedAt⟩
    · have none : marked = [] := if_neg shallow
      rw [run_invoke_of_deep known (Nat.not_lt.mp shallow)] at fails
      cases fails
      rw [none]
      exact ⟨rfl, absurd rfl⟩
  have reads (path : String) :
      after.interp.widgets.get? path =
        if path ∈ marked then (table.get? path).map fun widget => { widget with manager := mark }
        else table.get? path := by
    rw [left]
    exact table.get?_managed mark marked path
  refine ⟨?_, left, congrArg (fun machine => machine.interp.commands) left, reads, ?_, ?_, failedAt⟩
  · intro noManager
    have none : marked = [] := by
      show (if _ then command.markedFront table name arguments else []) = []
      cases command with
      | builtin meaning =>
          cases meaning with
          | manage => exact absurd rfl noManager
          | _ => exact ite_self []
      | widget | procedure | host => exact ite_self []
    rw [left, none]
    rfl
  · rw [left]
    exact table.managed_widgets mark marked
  · rw [left]
    apply WidgetTable.get?_managed_eq_iff
    intro path member
    dsimp only [marked] at member
    split at member
    · exact Command.contains_of_mem_markedFront member
    · cases member

/-- The packer fails at the second of two widgets, which is not there, and has marked the first. -/
theorem failing_widget_commands_mark_known_front_of_pack :
    let host : HostCommands Nat Unit := ⟨fun _ _ _ => throw .unfinished, fun _ host => host⟩
    let machine : Machine Nat Unit :=
      ⟨{ commands := .ofList [("pack", Command.builtin .manage)],
         widgets := WidgetTable.initial.insert ".a" { className := "Button" } }, {}, 0, ()⟩
    ∃ after,
      (invoke host (evaluator host 0) "pack" [".a", ".b"]).run.run machine =
        (.error (.error "bad window path name \".b\""), after) ∧
      machine.interp.widgets.ShownBy ".a" none ∧
      after.interp.widgets.ShownBy ".a" (some .pack) := by
  intro host machine
  have known : machine.interp.command? "pack" = some (.builtin .manage) := rfl
  have manages : (Command.builtin .manage : Command Nat).recordsWidgets [".a", ".b"] = true := rfl
  have accepted : refusal? (managerOf "pack") ([".a", ".b"].head? != some "forget")
      (described [".a", ".b"]) = none := by
    simp [refusal?, managedPaths, described, optionPairs]
  have paths : managedPaths (described [".a", ".b"]) = [".a", ".b"] := by
    simp [managedPaths, described]
  have ran : (manage "pack" [".a", ".b"]).run.run (machine.atDepth 1) =
      (.error (.error "bad window path name \".b\""),
        (machine.atDepth 1).withWidgets (machine.interp.widgets.managed (some .pack) [".a"])) := by
    rw [manage_eq, run_manageWidgets, accepted, paths]
    rfl
  obtain ⟨after, fails⟩ : ∃ after,
      (invoke host (evaluator host 0) "pack" [".a", ".b"]).run.run machine =
        (.error (.error "bad window path name \".b\""), after) := by
    rw [run_invoke known (by decide)]
    exact ⟨_, congrArg (fun ran => (ran.1, ran.2.atDepth 0)) ran⟩
  have front : (Command.builtin .manage : Command Nat).markedFront machine.interp.widgets "pack"
      [".a", ".b"] = [".a"] := by
    rw [Command.markedFront_of_accepted _ accepted, paths]
    rfl
  refine ⟨after, fails, ⟨_, rfl, rfl⟩, ?_⟩
  obtain ⟨-, left, -⟩ := failing_widget_commands_mark_known_front known manages fails
  rw [left, if_pos (by decide), front]
  exact WidgetTable.shownBy_managed List.mem_cons_self rfl

end ScriptBridge
