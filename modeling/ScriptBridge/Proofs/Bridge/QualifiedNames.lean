import ScriptBridge.Proofs.Bridge.Scenes
import ScriptBridge.Proofs.Bridge.WidgetTables
import ScriptBridge.Proofs.Interp.GeometryManagers
import ScriptBridge.Proofs.Interp.VariableStorage

/-!
# Qualified command names

A pair of colons in front of a name leads to the same entry of the command table. But commands learn
how their name was spelled, and some look at it: creators find the class of their widget by it, the
commands of widgets their widget, and geometry managers the manager that they are.
-/

namespace ScriptBridge

open Commands

variable
  {Key Host : Type}
  {host : HostCommands Key Host}
  {eval : Evaluator Key Host}
  {machine after : Machine Key Host}
  {name : String}
  {arguments : List String}
  {result : String}

/-! ## Spellings -/

theorem Interp.command?_qualified (interp : Interp Key) (name : String) :
    interp.command? ("::" ++ name) = interp.command? name := by
  unfold command?
  rw [Name.key_qualified]

theorem qualified_ne
    {other : String}
    (noColon : other.toList.head? ≠ some ':')
    (name : String) :
    "::" ++ name ≠ other := by
  rintro rfl
  apply noColon
  rw [String.toList_append]
  rfl

/-- Whether a command does not look at the spelling of its name, or another spelling means the
same to it. -/
def Command.ignoresSpelling (name : String) (arguments : List String) : Command Key → Bool
  | .builtin .createWidget => false
  | .builtin .manage => managerOf name == .pack || arguments.head? == some "forget"
  | .widget => false
  | _ => true

/-- Whether a command knows itself by its plain name only. -/
def Command.refusesQualifier : Command Key → Bool
  | .builtin .createWidget => true
  | .widget => true
  | _ => false

/-! ## Creators and widgets -/

theorem lookup_qualified (name : String) : widgetClasses.lookup ("::" ++ name) = none := by
  have plain : ∀ entry ∈ widgetClasses, entry.1.toList.head? ≠ some ':' := by decide
  rw [List.lookup_eq_none_iff]
  intro entry member
  rw [bne_iff_ne]
  exact qualified_ne (plain entry member) name

theorem WidgetTable.Rooted.get?_qualified
    {table : WidgetTable}
    (rooted : table.Rooted)
    (name : String) :
    table.get? ("::" ++ name) = none := by
  rw [← Option.not_isSome_iff_eq_none, ← contains_eq_isSome]
  intro known
  have point := rooted.point_prefix known
  rw [String.toList_append] at point
  exact absurd (List.cons_prefix_cons.mp point).1 (by decide)

/-- Where the plain name is needed, a qualified one is unknown, and nothing changes. -/
theorem run_qualified_of_refuses
    {command : Command Key}
    (rooted : machine.interp.widgets.Rooted)
    (refuses : command.refusesQualifier = true)
    (name : String)
    (arguments : List String) :
    (command.run host eval ("::" ++ name) arguments).run.run machine =
      (.error (.error ("invalid command name \"" ++ ("::" ++ name) ++ "\"")), machine) := by
  cases command with
  | builtin meaning =>
      cases meaning with
      | createWidget =>
          show (createWidget eval ("::" ++ name) arguments).run.run machine = _
          unfold createWidget
          rw [lookup_qualified]
          rfl
      | _ => cases refuses
  | widget =>
      show (widgetCommand eval ("::" ++ name) arguments).run.run machine = _
      unfold widgetCommand
      rw [Action.run_getWidgets_bind, rooted.get?_qualified]
      rfl
  | procedure definition => cases refuses
  | host key => cases refuses

/-! ## Geometry managers -/

theorem managerOf_qualified (name : String) : managerOf ("::" ++ name) = .pack := by
  unfold managerOf
  split
  · rename_i same
    exact absurd same (qualified_ne (by decide) name)
  · rename_i same
    exact absurd same (qualified_ne (by decide) name)
  · rfl

/-- A qualified name means the packer, whatever the manager. -/
theorem manage_qualified (name : String) (arguments : List String) :
    (manage ("::" ++ name) arguments : Action Key Host String) = manage "pack" arguments := by
  have packs : managerOf "pack" = .pack := rfl
  unfold manage
  rw [managerOf_qualified, packs]

theorem run_manage_qualified
    (same : managerOf name = .pack ∨ arguments.head? = some "forget")
    (succeeds : (manage name arguments).run.run machine = (.ok result, after)) :
    (manage ("::" ++ name) arguments).run.run machine = (.ok result, after) := by
  rw [manage_eq] at succeeds ⊢
  rcases same with packs | hides
  · rw [managerOf_qualified, ← packs]
    exact succeeds
  · rw [bne_eq_false_iff_eq.mpr hides] at succeeds ⊢
    have paths := (shownBy_of_manageWidgets succeeds).1
    rw [manageWidgets_hiding paths _ (managerOf name)]
    exact succeeds

/-- If a qualified geometry manager does what the plain one does, that is the packer or sets no
manager. -/
theorem same_of_run_manage
    (succeeds : (manage name arguments).run.run machine = (.ok result, after))
    {final : Machine Key Host}
    (qualified : (manage ("::" ++ name) arguments).run.run machine = (.ok result, final))
    (sameWidgets : final.interp.widgets = after.interp.widgets) :
    managerOf name = .pack ∨ arguments.head? = some "forget" := by
  by_cases hides : arguments.head? = some "forget"
  · exact .inr hides
  · rw [manage_eq, bne_iff_ne.mpr hides] at succeeds qualified
    obtain ⟨paths, shown⟩ := shownBy_of_manageWidgets succeeds
    obtain ⟨-, packed⟩ := shownBy_of_manageWidgets qualified
    rw [sameWidgets, managerOf_qualified] at packed
    obtain ⟨path, others, split⟩ := List.exists_cons_of_ne_nil paths
    have member : path ∈ managedPaths (described arguments) := by simp [split]
    exact .inl (Option.some.inj ((shown path member).unique (packed path member)))

/-! ## Commands -/

theorem ignoresSpelling_manage :
    (Command.builtin .manage : Command Key).ignoresSpelling name arguments = true ↔
      managerOf name = .pack ∨ arguments.head? = some "forget" := by
  simp [Command.ignoresSpelling]

/-- A command that ignores how its name is spelled does the same under a qualified one, if it
succeeds. -/
theorem run_qualified_of_ignores
    {command : Command Key}
    (noHost : ∀ key, command ≠ .host key)
    (ignores : command.ignoresSpelling name arguments = true)
    (succeeds : (command.run host eval name arguments).run.run machine = (.ok result, after)) :
    (command.run host eval ("::" ++ name) arguments).run.run machine = (.ok result, after) := by
  cases command with
  | builtin meaning =>
      cases meaning with
      | createWidget => cases ignores
      | manage => exact run_manage_qualified (ignoresSpelling_manage.mp ignores) succeeds
      | _ => exact succeeds
  | procedure definition =>
      simp only [Command.run] at succeeds ⊢
      unfold Procedure.call at succeeds ⊢
      cases fits : definition.frame? arguments with
      | none =>
          rw [fits] at succeeds
          cases succeeds
      | some frame =>
          rw [fits] at succeeds
          exact succeeds
  | host key => exact absurd rfl (noHost key)
  | widget => cases ignores

theorem ignoresSpelling_of_run
    {command : Command Key}
    (rooted : machine.interp.widgets.Rooted)
    (succeeds : (command.run host eval name arguments).run.run machine = (.ok result, after))
    {final : Machine Key Host}
    (qualified : (command.run host eval ("::" ++ name) arguments).run.run machine =
      (.ok result, final))
    (sameWidgets : final.interp.widgets = after.interp.widgets) :
    command.ignoresSpelling name arguments = true := by
  by_cases refuses : command.refusesQualifier = true
  · rw [run_qualified_of_refuses rooted refuses] at qualified
    cases qualified
  · cases command with
    | builtin meaning =>
        cases meaning with
        | createWidget => exact absurd rfl refuses
        | manage =>
            exact ignoresSpelling_manage.mpr (same_of_run_manage succeeds qualified sameWidgets)
        | _ => rfl
    | procedure definition => rfl
    | host key => rfl
    | widget => exact absurd rfl refuses

/-- An invocation that succeeds is one of a known command, and within the limit of nesting. -/
theorem shallow_of_invoke
    {command : Command Key}
    (known : machine.interp.command? name = some command)
    (succeeds : (invoke host eval name arguments).run.run machine = (.ok result, after)) :
    machine.interp.depth < maxDepth := by
  by_cases shallow : machine.interp.depth < maxDepth
  · exact shallow
  · rw [run_invoke_of_deep known (Nat.not_lt.mp shallow)] at succeeds
    cases succeeds

/-- What becomes of an invocation that succeeds if a pair of colons is put in front of the name. -/
theorem invoke_qualified
    {command : Command Key}
    (rooted : machine.interp.widgets.Rooted)
    (known : machine.interp.command? name = some command)
    (noHost : ∀ key, command ≠ .host key)
    (succeeds : (invoke host eval name arguments).run.run machine = (.ok result, after)) :
    ((invoke host eval ("::" ++ name) arguments).run.run machine = (.ok result, after) ↔
        command.ignoresSpelling name arguments = true) ∧
      (command.refusesQualifier = true →
        (invoke host eval ("::" ++ name) arguments).run.run machine =
          (.error (.error ("invalid command name \"" ++ ("::" ++ name) ++ "\"")), machine)) := by
  have shallow := shallow_of_invoke known succeeds
  have knownQualified := (machine.interp.command?_qualified name).trans known
  have inside : (machine.atDepth (machine.interp.depth + 1)).interp.widgets.Rooted := rooted
  rw [run_invoke known shallow] at succeeds
  rw [run_invoke knownQualified shallow]
  rcases ran : (command.run host eval name arguments).run.run
    (machine.atDepth (machine.interp.depth + 1)) with ⟨outcome, final⟩
  rw [ran] at succeeds
  obtain ⟨rfl, rfl⟩ := Prod.mk.inj succeeds
  refine ⟨⟨?_, ?_⟩, ?_⟩
  · intro same
    rcases ranQualified : (command.run host eval ("::" ++ name) arguments).run.run
      (machine.atDepth (machine.interp.depth + 1)) with ⟨outcome, finalQualified⟩
    rw [ranQualified] at same
    obtain ⟨rfl, sameMachine⟩ := Prod.mk.inj same
    have sameWidgets : finalQualified.interp.widgets = final.interp.widgets :=
      congrArg (fun machine => machine.interp.widgets) sameMachine
    exact ignoresSpelling_of_run inside ran ranQualified sameWidgets
  · intro ignores
    rw [run_qualified_of_ignores noHost ignores ran]
  · intro refuses
    rw [run_qualified_of_refuses inside refuses]
    rfl

/-- Of the commands of a script, an invocation that succeeds does the same with a pair of colons in
front of the name, but for those that look at its spelling: a qualified creator or widget is an
invalid command, and a qualified geometry manager is the packer. So it is the same exactly if the
command is neither a creator nor a widget, nor a manager other than the packer that shows widgets.
The widgets of a session are always such that this holds, as their paths start with a point. -/
theorem World.qualified_names_invoke_same
    (environment : Settings.Environment)
    (sessions : List (InterpAccess × Settings))
    (program : HostProgram)
    (fuel : Nat) :
    (∀ (id : SessionId) (session : OpenSession),
      (program.outcome fuel (opened environment sessions)).2.sessions[id]? = some session →
        session.interp.widgets.Rooted) ∧
    ∀ {Key Host : Type} (host : HostCommands Key Host) (eval : Evaluator Key Host)
      (machine after : Machine Key Host) (name : String) (arguments : List String)
      (command : Command Key) (result : String),
      machine.interp.widgets.Rooted →
      machine.interp.command? name = some command →
      (∀ key, command ≠ .host key) →
      (invoke host eval name arguments).run.run machine = (.ok result, after) →
        ((invoke host eval ("::" ++ name) arguments).run.run machine = (.ok result, after) ↔
          command.ignoresSpelling name arguments = true) ∧
        (command.refusesQualifier = true →
          (invoke host eval ("::" ++ name) arguments).run.run machine =
            (.error (.error ("invalid command name \"" ++ ("::" ++ name) ++ "\"")), machine)) ∧
        (command = .builtin .manage →
          command.run host eval ("::" ++ name) arguments =
            command.run host eval "pack" arguments) := by
  constructor
  · exact widgets_rooted environment sessions program fuel
  · intro Key Host host eval machine after name arguments command result rooted known noHost
      succeeds
    obtain ⟨same, refused⟩ := invoke_qualified rooted known noHost succeeds
    refine ⟨same, refused, ?_⟩
    rintro rfl
    exact manage_qualified name arguments

/-- The same of a command that ignores the colons and of one that does not. -/
theorem World.qualified_names_invoke_same_of_creator :
    let machine : Machine Nat Unit := ⟨Interp.initial, {}, 0, ()⟩
    let host : HostCommands Nat Unit :=
      { call := fun _ _ _ => throw .unfinished, release := fun _ host => host }
    let eval := evaluator host 0
    (∃ after, (invoke host eval "set" ["x", "5"]).run.run machine = (.ok "5", after) ∧
      (invoke host eval "::set" ["x", "5"]).run.run machine = (.ok "5", after)) ∧
    (∃ after, (invoke host eval "button" [".b"]).run.run machine = (.ok ".b", after)) ∧
      (invoke host eval "::button" [".b"]).run.run machine =
        (.error (.error "invalid command name \"::button\""), machine) := by
  intro machine host eval
  have law := (qualified_names_invoke_same (fun _ => none) [] (.finish none) 0).2 host eval machine
  have rooted : machine.interp.widgets.Rooted := WidgetTable.rooted_initial
  have sets : machine.interp.command? "set" = some (.builtin .set) :=
    command?_initial (by simp [Builtin.table]) rfl
  have creates : machine.interp.command? "button" = some (.builtin .createWidget) :=
    command?_initial (by simp [widgetClasses]) rfl
  obtain ⟨afterSet, set⟩ : ∃ after,
      (invoke host eval "set" ["x", "5"]).run.run machine = (.ok "5", after) := by
    rw [run_invoke sets (by decide)]
    exact ⟨_, rfl⟩
  obtain ⟨afterCreated, created⟩ : ∃ after,
      (invoke host eval "button" [".b"]).run.run machine = (.ok ".b", after) := by
    rw [run_invoke creates (by decide)]
    exact ⟨_, rfl⟩
  refine ⟨⟨afterSet, set, ?_⟩, ⟨afterCreated, created⟩, ?_⟩
  · exact (law afterSet "set" _ _ _ rooted sets nofun set).1.mpr rfl
  · exact (law afterCreated "button" _ _ _ rooted creates nofun created).2.1 rfl

end ScriptBridge
