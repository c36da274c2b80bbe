import ScriptBridge.Proofs.Bridge.Programs
import ScriptBridge.Proofs.Interp.WidgetTrees

/-!
# Widgets of sessions

Nothing that hosts and scripts do leaves a widget without its parent. So what a path is the start of
and what lies in its widget are the same wherever a widget is destroyed.
-/

namespace ScriptBridge.World

theorem widgets_rooted
    (environment : Settings.Environment)
    (sessions : List (InterpAccess × Settings))
    (program : HostProgram)
    (fuel : Nat) :
    (program.outcome fuel (opened environment sessions)).2.Every
      fun session => session.interp.widgets.Rooted := by
  have laws : (Conduct.everySession fun session => session.interp.widgets.Rooted).AllowsHosts :=
    Conduct.recorded_allowsHosts WidgetTable.rooted_initial (fun change => change.rooted) fun _ => id
  apply laws.allows_outcome program fuel
  exact every_opened environment fun _ _ => WidgetTable.rooted_initial

/-- Whatever hosts and scripts do, in every session each widget but the root window has its parent in
the table, and the focus is on a widget if it is anywhere; this also holds where a run is cut short.
Destroying a widget of such a table takes out that widget and those whose chain of parents leads to
it, with their bindings, the commands of their names and the focus if it was on one of them, and
leaves everything else as it was. -/
theorem widgets_form_trees
    (environment : Settings.Environment)
    (sessions : List (InterpAccess × Settings))
    (program : HostProgram)
    (fuel : Nat) :
    (∀ (id : SessionId) (session : OpenSession),
      (program.outcome fuel (opened environment sessions)).2.sessions[id]? = some session →
        session.interp.widgets.Rooted) ∧
    ∀ {Key Host : Type} (eval : Evaluator Key Host) (machine : Machine Key Host) (path : String),
      machine.interp.widgets.Rooted →
      machine.interp.widgets.contains path = true →
        ∃ after, (Commands.destroy eval [path]).run.run machine = (.ok "", after) ∧
          machine.interp.Destroyed path after.interp := by
  constructor
  · exact widgets_rooted environment sessions program fuel
  · intro Key Host eval machine path rooted known
    exact ⟨_, Action.run_destroy eval, Action.interp_destroyed rooted known⟩

/-- A frame goes with the entry in it that has the focus, but not with one of a longer name. -/
theorem widgets_form_trees_of_frames :
    let frame : Widget := { className := "Frame" }
    let entry : Widget := { className := "Entry" }
    let table := ((WidgetTable.initial.insert ".f" frame).insert ".f.a" entry).insert ".fx" frame
    let interp : Interp Nat := { Interp.initial with widgets := { table with focus := some ".f.a" } }
    let machine : Machine Nat Unit := ⟨interp, {}, 0, ()⟩
    let eval : Evaluator Nat Unit :=
      { script := fun _ => throw .unfinished
        substitute := fun _ => throw .unfinished
        release := fun _ host => host
        rounds := 0 }
    interp.widgets.Rooted ∧
      interp.widgets.contains ".f" = true ∧
      ∃ after, (Commands.destroy eval [".f"]).run.run machine = (.ok "", after) ∧
        after.interp.widgets.contains ".f.a" = false ∧
        after.interp.widgets.focus ≠ some ".f.a" ∧
        after.interp.widgets.get? ".fx" = some frame := by
  intro frame entry table interp machine eval
  have rooted : interp.widgets.Rooted := by
    have withFrame : (WidgetTable.initial.insert ".f" frame).Rooted :=
      WidgetTable.rooted_initial.inserted frame rfl rfl
    have withEntry : ((WidgetTable.initial.insert ".f" frame).insert ".f.a" entry).Rooted :=
      withFrame.inserted entry rfl rfl
    have withBoth : table.Rooted := withEntry.inserted frame rfl rfl
    exact WidgetTable.Change.rooted (.focused rfl) withBoth
  have known : interp.widgets.contains ".f" = true := rfl
  obtain ⟨after, ran, destroyed⟩ :=
    (widgets_form_trees (fun _ => none) [] (.finish none) 0).2 eval machine ".f" rooted known
  have inner : interp.widgets.Doomed ".f" ".f.a" := ⟨rfl, .single rfl⟩
  have outer : ¬interp.widgets.Doomed ".f" ".fx" := by
    rintro ⟨-, lies⟩
    have within := Path.isWithin_of_liesIn lies
    simp [Path.isWithin] at within
  obtain ⟨gone, -, -, notFocused⟩ := destroyed.gone inner
  obtain ⟨kept, -⟩ := destroyed.kept outer
  exact ⟨rooted, known, after, ran, gone, notFocused, kept⟩

end ScriptBridge.World
