import Mathlib.Data.List.TakeWhile
import ScriptBridge.Proofs.Interp.Evaluation
import ScriptBridge.Proofs.Interp.WidgetTrees

/-!
# Geometry managers

A geometry manager refuses its arguments before it sets anything, but for the paths: it marks one
widget after the other, up to the first path that it does not know. The marks that it has made by
then stay.
-/

namespace ScriptBridge

open Commands

variable
  {Key Host : Type}
  {machine after : Machine Key Host}
  {name : String}
  {arguments : List String}
  {result : String}

/-! ## Marked widgets -/

namespace WidgetTable

section Managed

variable
  (table : WidgetTable)
  (manager : Option Manager)
  (paths : List String)

/-- The table where this manager, or none, shows the widgets of these paths. -/
def managed : WidgetTable :=
  paths.foldl (fun table path => table.modify path fun widget => { widget with manager }) table

/-- Of the widgets named, only the manager is another one; the others are as they were. -/
theorem get?_managed (other : String) :
    (table.managed manager paths).get? other =
      if other ∈ paths then (table.get? other).map fun widget => { widget with manager }
      else table.get? other := by
  unfold managed
  induction paths generalizing table with
  | nil => rfl
  | cons path paths inductionHypothesis =>
      rw [List.foldl_cons, inductionHypothesis, get?_modify]
      by_cases here : path = other
      · subst here
        cases table.get? path <;> simp
      · simp [here, Ne.symm here]

/-- Beside its widgets a table stays as it was. -/
theorem managed_widgets :
    table.managed manager paths =
      { table with widgets := (table.managed manager paths).widgets } := by
  unfold managed
  induction paths generalizing table with
  | nil => rfl
  | cons path paths inductionHypothesis =>
      rw [List.foldl_cons, inductionHypothesis]
      unfold modify
      cases table.get? path <;> rfl

end Managed

/-- The widget is there, and this manager shows it. -/
def ShownBy (table : WidgetTable) (path : String) (manager : Option Manager) : Prop :=
  ∃ widget, table.get? path = some widget ∧ widget.manager = manager

variable
  {table : WidgetTable}
  {path : String}
  {manager other : Option Manager}

theorem ShownBy.unique
    (shown : table.ShownBy path manager)
    (shownByOther : table.ShownBy path other) :
    manager = other := by
  obtain ⟨widget, found, rfl⟩ := shown
  obtain ⟨same, foundAgain, rfl⟩ := shownByOther
  rw [found] at foundAgain
  cases foundAgain
  rfl

theorem shownBy_managed
    {paths : List String}
    (member : path ∈ paths)
    (known : table.contains path = true) :
    (table.managed manager paths).ShownBy path manager := by
  rw [contains_eq_isSome, Option.isSome_iff_exists] at known
  obtain ⟨widget, found⟩ := known
  refine ⟨{ widget with manager }, ?_, rfl⟩
  rw [get?_managed, if_pos member, found]
  rfl

/-- To mark known widgets makes no difference exactly if they have the mark. -/
theorem get?_managed_eq_iff
    {paths : List String}
    (known : ∀ path ∈ paths, table.contains path = true) :
    (∀ path, (table.managed manager paths).get? path = table.get? path) ↔
      ∀ path ∈ paths, table.ShownBy path manager := by
  constructor
  · intro same path member
    obtain ⟨widget, found, shows⟩ := shownBy_managed member (known path member)
    exact ⟨widget, (same path).symm.trans found, shows⟩
  · intro shown path
    rw [get?_managed]
    split
    · rename_i member
      obtain ⟨widget, found, rfl⟩ := shown path member
      rw [found]
      rfl
    · rfl

end WidgetTable

/-! ## Setting managers -/

namespace WidgetTable

/-- The first of the paths that is not known. -/
def unknown? (table : WidgetTable) (paths : List String) : Option String :=
  paths.find? fun path => !table.contains path

/-- The paths in front of the first one that is not known. -/
def knownFront (table : WidgetTable) (paths : List String) : List String :=
  paths.takeWhile table.contains

theorem contains_of_mem_knownFront
    {table : WidgetTable}
    {paths : List String}
    {path : String}
    (member : path ∈ table.knownFront paths) :
    table.contains path = true :=
  List.mem_takeWhile_imp member

theorem knownFront_of_unknown?_eq_none
    {table : WidgetTable}
    {paths : List String}
    (known : table.unknown? paths = none) :
    table.knownFront paths = paths := by
  unfold knownFront
  rw [List.takeWhile_eq_self_iff]
  intro path member
  simpa using List.find?_eq_none.mp known path member

end WidgetTable

/-- How it ends to go through paths: with this value, or at the first one that is not known. -/
def pathOutcome {α : Type} (value : α) : (unknown : Option String) → Except Interruption α
  | none => .ok value
  | some path => .error (.error ("bad window path name \"" ++ path ++ "\""))

/-- Setting managers goes on only behind a path that is known. -/
theorem run_setManagers_cons
    (manager : Option Manager)
    (path : String)
    (paths : List String)
    (machine : Machine Key Host) :
    (setManagers manager (path :: paths) : Action Key Host Unit).run.run machine =
      if machine.interp.widgets.contains path then
        (setManagers manager paths).run.run <| machine.withWidgets <|
          machine.interp.widgets.modify path fun widget => { widget with manager }
      else
        (.error (.error ("bad window path name \"" ++ path ++ "\"")), machine) := by
  rw [setManagers, Action.run_getWidgets_bind]
  cases machine.interp.widgets.contains path <;> rfl

/-- Managers are set up to the first path that is not known. -/
theorem run_setManagers
    (manager : Option Manager)
    (paths : List String)
    (machine : Machine Key Host) :
    (setManagers manager paths : Action Key Host Unit).run.run machine =
      (pathOutcome () (machine.interp.widgets.unknown? paths),
        machine.withWidgets <|
          machine.interp.widgets.managed manager (machine.interp.widgets.knownFront paths)) := by
  induction paths generalizing machine with
  | nil => rfl
  | cons path paths inductionHypothesis =>
      let marked := machine.interp.widgets.modify path fun widget => { widget with manager }
      have others : (machine.withWidgets marked).interp.widgets.contains =
          machine.interp.widgets.contains :=
        funext (machine.interp.widgets.contains_modify _)
      rw [run_setManagers_cons]
      unfold WidgetTable.unknown? WidgetTable.knownFront at inductionHypothesis ⊢
      cases known : machine.interp.widgets.contains path with
      | true =>
          rw [if_pos rfl, inductionHypothesis, others, List.takeWhile_cons_of_pos known,
            List.find?_cons_of_neg (by simp [known])]
          rfl
      | false =>
          rw [if_neg Bool.false_ne_true, List.takeWhile_cons_of_neg (by simp [known]),
            List.find?_cons_of_pos (by simp [known])]
          rfl

/-! ## Arguments -/

/-- The widgets that the arguments of a geometry manager name. -/
def managedPaths (arguments : List String) : List String :=
  arguments.takeWhile fun argument => !argument.startsWith "-"

/-- Why a geometry manager refuses its arguments before it looks at the widgets. -/
def refusal? (manager : Manager) (shown : Bool) (arguments : List String) : Option String :=
  if (managedPaths arguments).isEmpty then
    some ("wrong # args: should be \"" ++ (manager.name ++ " option arg ?arg ...?") ++ "\"")
  else if shown then
    match optionPairs (arguments.dropWhile fun argument => !argument.startsWith "-") with
    | .ok _ => none
    | .error fault => some fault.message
  else
    none

/-- All that a geometry manager does. -/
theorem run_manageWidgets
    (manager : Manager)
    (shown : Bool)
    (arguments : List String)
    (machine : Machine Key Host) :
    (manageWidgets manager shown arguments).run.run machine =
      let table := machine.interp.widgets
      match refusal? manager shown arguments with
      | some message => (.error (.error message), machine)
      | none =>
          (pathOutcome "" (table.unknown? (managedPaths arguments)),
            machine.withWidgets <|
              table.managed (if shown then some manager else none) <|
                table.knownFront (managedPaths arguments)) := by
  have goesOn (manager : Option Manager) :
      (setManagers manager (managedPaths arguments) >>= fun _ => pure "").run.run machine =
        (pathOutcome "" (machine.interp.widgets.unknown? (managedPaths arguments)),
          machine.withWidgets <| machine.interp.widgets.managed manager <|
            machine.interp.widgets.knownFront (managedPaths arguments)) := by
    rw [Conduct.run_bind, run_setManagers]
    cases machine.interp.widgets.unknown? (managedPaths arguments) <;> rfl
  unfold manageWidgets refusal?
  unfold managedPaths at goesOn ⊢
  dsimp only
  split
  · rfl
  · cases shown with
    | false => exact goesOn none
    | true =>
        cases optionPairs (arguments.dropWhile fun argument => !argument.startsWith "-") with
        | ok pairs => exact goesOn (some manager)
        | error fault => rfl

/-- A geometry manager that succeeds names widgets, and it is what shows them from then on. -/
theorem shownBy_of_manageWidgets
    {manager : Manager}
    {shown : Bool}
    (succeeds : (manageWidgets manager shown arguments).run.run machine = (.ok result, after)) :
    managedPaths arguments ≠ [] ∧
      ∀ path ∈ managedPaths arguments,
        after.interp.widgets.ShownBy path (if shown then some manager else none) := by
  rw [run_manageWidgets] at succeeds
  dsimp only at succeeds
  cases refused : refusal? manager shown arguments with
  | some message =>
      rw [refused] at succeeds
      cases succeeds
  | none =>
      rw [refused] at succeeds
      cases unknown : machine.interp.widgets.unknown? (managedPaths arguments) with
      | some path =>
          rw [unknown] at succeeds
          cases succeeds
      | none =>
          rw [unknown] at succeeds
          cases succeeds
          constructor
          · intro empty
            unfold refusal? at refused
            rw [empty] at refused
            cases refused
          · intro path member
            rw [← WidgetTable.knownFront_of_unknown?_eq_none unknown] at member
            exact WidgetTable.shownBy_managed member
              (WidgetTable.contains_of_mem_knownFront member)

/-- Without a manager to set, it makes no difference which one is asked. -/
theorem manageWidgets_hiding
    (some : managedPaths arguments ≠ [])
    (manager other : Manager) :
    (manageWidgets manager false arguments : Action Key Host String) =
      manageWidgets other false arguments := by
  have nonempty : ¬(managedPaths arguments).isEmpty = true := by simpa using some
  unfold managedPaths at nonempty
  unfold manageWidgets
  simp only [if_neg nonempty, Bool.false_eq_true, if_false]

/-- The arguments of a geometry manager without the name of what it does. -/
def described : List String → List String
  | "forget" :: arguments => arguments
  | "configure" :: arguments => arguments
  | arguments => arguments

/-- A geometry manager shows widgets unless it is told to forget them. -/
theorem manage_eq (name : String) (arguments : List String) :
    (manage name arguments : Action Key Host String) =
      manageWidgets (managerOf name) (arguments.head? != some "forget") (described arguments) := by
  unfold manage
  split
  · rfl
  · rfl
  · rename_i notForget notConfigure
    have shows : (arguments.head? != some "forget") = true := by
      rw [bne_iff_ne]
      intro same
      obtain ⟨others, rfl⟩ := List.head?_eq_some_iff.mp same
      exact notForget others rfl
    rw [shows, described]
    · exact notForget
    · exact notConfigure

end ScriptBridge
