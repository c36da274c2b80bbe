import ScriptBridge.Proofs.Interp.CallStack
import ScriptBridge.Proofs.Interp.Scripts

/-!
# The tree of widgets

The parent of a widget is named by its path up to the last point; what is destroyed with a widget is
found by the start of its path. In a table that knows the parent of each widget these are the same
tree: a path starts with that of a widget and a point exactly if the chain of its parents leads there.
-/

namespace ScriptBridge

/-! ## Paths -/

namespace Path

variable {parent child path root : String} {name : List Char}

theorem beforeLastPoint_eq_some_iff {cs before : List Char} :
    beforeLastPoint cs = some before ↔ ∃ name, '.' ∉ name ∧ cs = name ++ '.' :: before := by
  induction cs with
  | nil => simp [beforeLastPoint]
  | cons c rest inductionHypothesis =>
      unfold beforeLastPoint
      by_cases point : c = '.'
      · subst point
        rw [if_pos rfl]
        constructor
        · intro same
          obtain rfl := Option.some.inj same
          exact ⟨[], List.not_mem_nil, rfl⟩
        · rintro ⟨name, noPoint, split⟩
          cases name with
          | nil => exact congrArg some (List.cons.inj split).2
          | cons first name =>
              obtain ⟨rfl, -⟩ := List.cons.inj split
              exact absurd List.mem_cons_self noPoint
      · rw [if_neg point, inductionHypothesis]
        constructor
        · rintro ⟨name, noPoint, rfl⟩
          exact ⟨c :: name, by simp [Ne.symm point, noPoint], rfl⟩
        · rintro ⟨name, noPoint, split⟩
          cases name with
          | nil => exact absurd (List.cons.inj split).1 point
          | cons first name =>
              obtain ⟨-, rfl⟩ := List.cons.inj split
              exact ⟨name, fun member => noPoint (List.mem_cons_of_mem _ member), rfl⟩

/-- How the path of a child is written: the last point stands in front of its name. -/
inductive Extends : (parent child : String) → Prop
  | root
      {child : String}
      {name : List Char}
      (noPoint : '.' ∉ name)
      (named : name ≠ [])
      (written : child.toList = '.' :: name) :
      Extends "." child
  | path
      {parent child : String}
      {name : List Char}
      (noPoint : '.' ∉ name)
      (nonempty : parent ≠ "")
      (written : child.toList = parent.toList ++ '.' :: name) :
      Extends parent child

theorem extends_of_parent? (within : parent? child = some parent) : Extends parent child := by
  unfold parent? at within
  split at within
  · cases within
  · rename_i found
    obtain ⟨name, noPoint, reversed⟩ := beforeLastPoint_eq_some_iff.mp found
    have written := List.reverse_eq_iff.mp reversed
    split at within
    · cases within
    · rename_i notRoot
      cases within
      have noPointThere : '.' ∉ name.reverse := by simpa using noPoint
      refine .root noPointThere ?_ (by simpa using written)
      intro unnamed
      apply notRoot
      rw [← String.toList_inj, written, List.reverse_eq_nil_iff.mp unnamed]
      rfl
  · rename_i before nonempty found
    cases within
    obtain ⟨name, noPoint, reversed⟩ := beforeLastPoint_eq_some_iff.mp found
    have written := List.reverse_eq_iff.mp reversed
    have noPointThere : '.' ∉ name.reverse := by simpa using noPoint
    refine .path noPointThere ?_ (by simpa using written)
    intro empty
    have none := congrArg String.toList empty
    rw [String.toList_ofList] at none
    exact nonempty (List.reverse_eq_nil_iff.mp none)

@[simp]
theorem parent?_root : parent? "." = none := by
  decide

theorem length_lt_of_parent? (within : parent? child = some parent) :
    parent.length < child.length := by
  cases extends_of_parent? within with
  | root noPoint named written =>
      have count := congrArg List.length written
      have some := List.length_pos_iff.mpr named
      simp only [String.length_toList, List.length_cons] at count
      have one : ".".length = 1 := rfl
      omega
  | path noPoint nonempty written =>
      have count := congrArg List.length written
      simp only [String.length_toList, List.length_append, List.length_cons] at count
      omega

/-- The chain of its parents leads from a path to another one. -/
def LiesIn (root path : String) : Prop :=
  Relation.ReflTransGen (fun child parent => parent? child = some parent) path root

theorem eq_of_liesIn_root (lies : LiesIn root ".") : root = "." := by
  rcases Relation.ReflTransGen.cases_head lies with same | ⟨parent, within, -⟩
  · exact same.symm
  · rw [parent?_root] at within
    cases within

/-- What stands at the start of all paths below a widget. -/
def below (root : String) : List Char :=
  if root = "." then ['.'] else root.toList ++ ['.']

theorem isWithin_iff :
    isWithin root path = true ↔ path = root ∨ below root <+: path.toList := by
  unfold isWithin below
  rw [Bool.or_eq_true, beq_iff_eq, String.startsWith_string_iff]
  by_cases isRoot : root = "."
  · simp [isRoot]
  · simp [isRoot]

theorem below_prefix_of_extends
    (extension : Extends root child) :
    below root <+: child.toList := by
  unfold below
  cases extension with
  | root noPoint named written => simp [written]
  | path noPoint nonempty written =>
      rw [written]
      split
      · rename_i isRoot
        simp [isRoot]
      · simp

theorem isWithin_of_liesIn (lies : LiesIn root path) : isWithin root path = true := by
  rw [isWithin_iff]
  induction lies using Relation.ReflTransGen.head_induction_on with
  | refl => exact .inl rfl
  | @head child parent within lies inductionHypothesis =>
      apply Or.inr
      have extension := extends_of_parent? within
      rcases inductionHypothesis with rfl | front
      · exact below_prefix_of_extends extension
      · cases extension with
        | root noPoint named written =>
            obtain rfl := eq_of_liesIn_root lies
            exact below_prefix_of_extends (extends_of_parent? within)
        | path noPoint nonempty written =>
            rw [written]
            exact front.trans (List.prefix_append _ _)

/-- The last point of a path that starts with another one and a point is that point or a later
one. -/
theorem prefix_cases_of_point
    {front before : List Char}
    (noPoint : '.' ∉ name)
    (starts : front ++ ['.'] <+: before ++ '.' :: name) :
    before = front ∨ front ++ ['.'] <+: before := by
  obtain ⟨rest, whole⟩ := starts
  rw [List.append_assoc] at whole
  rcases List.append_eq_append_iff.mp whole with ⟨middle, rfl, split⟩ | ⟨middle, rfl, split⟩
  · cases middle with
    | nil => exact .inl (List.append_nil front)
    | cons first middle =>
        obtain ⟨rfl, -⟩ := List.cons.inj split
        exact .inr ⟨middle, by simp⟩
  · cases middle with
    | nil => exact .inl (List.append_nil before).symm
    | cons first middle =>
        obtain ⟨-, rfl⟩ := List.cons.inj split
        exact absurd (by simp) noPoint

end Path

/-! ## Tables -/

namespace WidgetTable

variable {table after : WidgetTable} {path root : String}

/-- A table where every widget but the root window has its parent, and the focus is on a widget if
it is anywhere. -/
structure Rooted (table : WidgetTable) : Prop where
  parents : ∀ {path}, table.contains path = true → path ≠ "." →
    ∃ parent, Path.parent? path = some parent ∧ table.contains parent = true
  focused : ∀ {path}, table.focus = some path → table.contains path = true

namespace Rooted

variable (rooted : table.Rooted)

include rooted

/-- Every chain of parents ends at the root window. -/
theorem liesIn_root (known : table.contains path = true) : Path.LiesIn "." path := by
  induction size : path.length using Nat.strongRecOn generalizing path with
  | ind length inductionHypothesis =>
      by_cases isRoot : path = "."
      · subst isRoot
        exact .refl
      · obtain ⟨parent, within, knownParent⟩ := rooted.parents known isRoot
        have shorter := Path.length_lt_of_parent? within
        exact .head within (inductionHypothesis parent.length (by omega) knownParent rfl)

/-- So all paths start with a point. -/
theorem point_prefix (known : table.contains path = true) : ['.'] <+: path.toList := by
  have within := Path.isWithin_of_liesIn (rooted.liesIn_root known)
  rcases Path.isWithin_iff.mp within with rfl | front
  · exact List.prefix_rfl
  · exact front

theorem liesIn_of_below
    (known : table.contains path = true)
    (knownRoot : table.contains root = true)
    (notRoot : root ≠ ".")
    (front : Path.below root <+: path.toList) :
    Path.LiesIn root path := by
  have written : Path.below root = root.toList ++ ['.'] := if_neg notRoot
  have long : 0 < root.toList.length := (rooted.point_prefix knownRoot).length_le
  induction size : path.length using Nat.strongRecOn generalizing path with
  | ind length inductionHypothesis =>
      rw [written] at front
      have isNotRoot : path ≠ "." := by
        rintro rfl
        have short := front.length_le
        have one : ".".toList.length = 1 := rfl
        rw [List.length_append, List.length_singleton] at short
        omega
      obtain ⟨parent, within, knownParent⟩ := rooted.parents known isNotRoot
      have shorter := Path.length_lt_of_parent? within
      cases Path.extends_of_parent? within with
      | root noPoint named split =>
          -- Only one point stands in this path, so it starts with no other path and a point.
          rw [split] at front
          cases letters : root.toList with
          | nil => simp [letters] at long
          | cons first rest =>
              rw [letters, List.cons_append, List.cons_prefix_cons] at front
              have point : '.' ∈ rest ++ ['.'] := by simp
              exact absurd (front.2.subset point) noPoint
      | path noPoint nonempty split =>
          rw [split] at front
          rcases Path.prefix_cases_of_point noPoint front with same | further
          · obtain rfl := String.toList_inj.mp same
            exact .single within
          · have lies := inductionHypothesis parent.length (by omega) knownParent
              (written ▸ further) rfl
            exact .head within lies

/-- The two ways to say that one widget lies in another one agree. -/
theorem isWithin_iff_liesIn
    (known : table.contains path = true)
    (knownRoot : table.contains root = true) :
    Path.isWithin root path = true ↔ Path.LiesIn root path := by
  constructor
  · intro within
    rcases Path.isWithin_iff.mp within with rfl | front
    · exact .refl
    · by_cases isRoot : root = "."
      · subst isRoot
        exact rooted.liesIn_root known
      · exact rooted.liesIn_of_below known knownRoot isRoot front
  · exact Path.isWithin_of_liesIn

end Rooted

/-! ## Destroying -/

/-- What goes when a widget is destroyed: what lies in it. -/
def Doomed (table : WidgetTable) (path other : String) : Prop :=
  table.contains other = true ∧ Path.LiesIn path other

theorem mem_paths : path ∈ table.paths ↔ table.contains path = true :=
  Std.TreeMap.mem_keys.trans Std.TreeMap.contains_iff_mem.symm

theorem Rooted.mem_doomed_iff
    (rooted : table.Rooted)
    (known : table.contains path = true)
    {other : String} :
    other ∈ table.paths.filter (Path.isWithin path) ↔ table.Doomed path other := by
  rw [List.mem_filter, mem_paths]
  unfold Doomed
  constructor
  · rintro ⟨there, within⟩
    exact ⟨there, (rooted.isWithin_iff_liesIn there known).mp within⟩
  · rintro ⟨there, lies⟩
    exact ⟨there, Path.isWithin_of_liesIn lies⟩

theorem contains_insert (widget : Widget) (other : String) :
    (table.insert path widget).contains other = (path == other || table.contains other) := by
  unfold insert contains
  rw [Std.TreeMap.contains_insert, Bool.eq_iff_iff, Bool.or_eq_true, Bool.or_eq_true, beq_iff_eq,
    beq_iff_eq, Std.compare_eq_iff_eq]

theorem contains_eq_isSome : table.contains path = (table.get? path).isSome :=
  Std.TreeMap.contains_eq_isSome_getElem?

section Removing

variable (table) (names : List String)

theorem get?_remove (name other : String) :
    (table.remove name).get? other = if name = other then none else table.get? other := by
  unfold remove get?
  simp [Std.TreeMap.getElem?_erase]

theorem get?_foldl_remove (other : String) :
    (names.foldl remove table).get? other = if other ∈ names then none else table.get? other := by
  induction names generalizing table with
  | nil => simp
  | cons name names inductionHypothesis =>
      rw [List.foldl_cons, inductionHypothesis, get?_remove]
      by_cases here : name = other
      · simp [here]
      · simp [Ne.symm here, here]

theorem lookup_filter_tag
    (bindings : List (BindingKey × String))
    (name : String)
    (key : BindingKey) :
    (bindings.filter (·.1.tag != name)).lookup key =
      if name = key.tag then none else bindings.lookup key := by
  induction bindings with
  | nil => simp
  | cons entry bindings inductionHypothesis =>
      by_cases gone : entry.1.tag = name
      · rw [List.filter_cons_of_neg (by simpa using gone), inductionHypothesis]
        by_cases here : name = key.tag
        · rw [if_pos here, if_pos here]
        · have differs : (key == entry.1) = false := by
            rw [beq_eq_false_iff_ne]
            rintro rfl
            exact here gone.symm
          rw [if_neg here, if_neg here, List.lookup_cons, differs]
      · rw [List.filter_cons_of_pos (by simpa using gone), List.lookup_cons, List.lookup_cons,
          inductionHypothesis]
        cases isKey : key == entry.1 with
        | true =>
            obtain rfl := beq_iff_eq.mp isKey
            simp [Ne.symm gone]
        | false => rfl

theorem binding?_foldl_remove (key : BindingKey) :
    (names.foldl remove table).binding? key =
      if key.tag ∈ names then none else table.binding? key := by
  induction names generalizing table with
  | nil => simp
  | cons name names inductionHypothesis =>
      have removed : (table.remove name).binding? key = _ :=
        lookup_filter_tag table.bindings name key
      rw [List.foldl_cons, inductionHypothesis, removed]
      by_cases here : name = key.tag
      · simp [here]
      · simp [Ne.symm here, here, binding?]

theorem focus_foldl_remove (other : String) :
    (names.foldl remove table).focus = some other ↔ table.focus = some other ∧ other ∉ names := by
  induction names generalizing table with
  | nil => simp
  | cons name names inductionHypothesis =>
      rw [List.foldl_cons, inductionHypothesis]
      unfold remove
      dsimp only
      by_cases here : table.focus = some name
      · rw [if_pos here, here]
        simp +contextual
      · rw [if_neg here, List.mem_cons, not_or]
        constructor
        · rintro ⟨focused, outside⟩
          refine ⟨focused, ?_, outside⟩
          rintro rfl
          exact here focused
        · rintro ⟨focused, -, outside⟩
          exact ⟨focused, outside⟩

/-- What belongs to no widget stays as it is. -/
theorem foldl_remove_eq :
    let after := names.foldl remove table
    after = { table with
      widgets := after.widgets, bindings := after.bindings, focus := after.focus } := by
  induction names generalizing table with
  | nil => rfl
  | cons name names inductionHypothesis => exact inductionHypothesis (table.remove name)

end Removing

/-! ## Changes -/

theorem rooted_initial : Rooted .initial where
  parents := by
    intro path known notRoot
    have only : initial.contains path = ([("." , rootWindow)].map Prod.fst).contains path :=
      Std.TreeMap.contains_ofList
    rw [only] at known
    simp at known
    exact absurd known notRoot
  focused := nofun

namespace Rooted

variable (rooted : table.Rooted)

include rooted

/-- A table with the same widgets and the same focus. -/
theorem of_same
    (same : ∀ path, after.contains path = table.contains path)
    (sameFocus : after.focus = table.focus) :
    after.Rooted where
  parents := by
    intro path known notRoot
    rw [same] at known
    obtain ⟨parent, within, knownParent⟩ := rooted.parents known notRoot
    exact ⟨parent, within, (same parent).trans knownParent⟩
  focused := by
    intro path focused
    rw [same]
    exact rooted.focused (sameFocus ▸ focused)

theorem inserted
    {parent : String}
    (widget : Widget)
    (within : Path.parent? path = some parent)
    (known : table.contains parent = true) :
    (table.insert path widget).Rooted := by
  constructor
  · intro other there notRoot
    rw [contains_insert, Bool.or_eq_true, beq_iff_eq] at there
    rcases there with rfl | there
    · exact ⟨parent, within, by rw [contains_insert, known, Bool.or_true]⟩
    · obtain ⟨above, withinToo, knownToo⟩ := rooted.parents there notRoot
      exact ⟨above, withinToo, by rw [contains_insert, knownToo, Bool.or_true]⟩
  · intro other focused
    rw [contains_insert, rooted.focused focused, Bool.or_true]

/-- The parent of a widget stays as long as the widget does. -/
theorem destroyed (known : table.contains path = true) :
    ((table.paths.filter (Path.isWithin path)).foldl remove table).Rooted := by
  have contains (other : String) :
      ((table.paths.filter (Path.isWithin path)).foldl remove table).contains other = true ↔
        table.contains other = true ∧ ¬table.Doomed path other := by
    rw [contains_eq_isSome, get?_foldl_remove, contains_eq_isSome, ← rooted.mem_doomed_iff known]
    split
    · rename_i gone
      simp [gone]
    · rename_i stays
      simp [stays]
  constructor
  · intro other there notRoot
    obtain ⟨thereBefore, stays⟩ := (contains other).mp there
    obtain ⟨parent, within, knownParent⟩ := rooted.parents thereBefore notRoot
    refine ⟨parent, within, (contains parent).mpr ⟨knownParent, ?_⟩⟩
    rintro ⟨-, lies⟩
    exact stays ⟨thereBefore, .head within lies⟩
  · intro other focused
    obtain ⟨focusedBefore, outside⟩ := (focus_foldl_remove table _ other).mp focused
    exact (contains other).mpr
      ⟨rooted.focused focusedBefore, fun doomed => outside ((rooted.mem_doomed_iff known).mpr doomed)⟩

end Rooted

theorem get?_modify (change : Widget → Widget) (other : String) :
    (table.modify path change).get? other =
      if path = other then (table.get? path).map change else table.get? other := by
  unfold modify
  cases known : table.get? path with
  | none =>
      by_cases same : path = other
      · simp [← same, known]
      · simp [same]
  | some widget =>
      by_cases same : path = other
      · simp [← same, insert, get?]
      · simp [same, insert, get?, Std.TreeMap.getElem?_insert]

theorem contains_modify (change : Widget → Widget) (other : String) :
    (table.modify path change).contains other = table.contains other := by
  unfold modify
  split
  · rename_i widget found
    have there : table.contains path = true := by
      rw [contains_eq_isSome, found]
      rfl
    rw [contains_insert]
    by_cases here : path = other
    · subst here
      rw [there, beq_self_eq_true, Bool.or_true]
    · rw [beq_false_of_ne here, Bool.false_or]
  · rfl

/-- Whatever commands do to the recorded widgets, they stay a tree. -/
theorem Change.rooted (change : table.Change after) (rooted : table.Rooted) : after.Rooted := by
  cases change with
  | created widget within known free => exact rooted.inserted widget within known
  | modified path change =>
      apply rooted.of_same (contains_modify change)
      unfold modify
      split <;> rfl
  | destroyed known => exact rooted.destroyed known
  | focused known =>
      constructor
      · exact rooted.parents
      · intro other focused
        obtain rfl := Option.some.inj focused
        exact known
  | titled title => exact rooted.of_same (fun _ => rfl) rfl
  | shaped geometry => exact rooted.of_same (fun _ => rfl) rfl
  | bound key script =>
      unfold Commands.bindScript
      split <;> exact rooted.of_same (fun _ => rfl) rfl

end WidgetTable

/-! ## Interpreters -/

variable {Key Host : Type}

/-- What destroying a widget makes of an interpreter. -/
structure Interp.Destroyed (path : String) (before after : Interp Key) : Prop where
  /-- All that lies in the widget is gone, with its bindings and the commands of its name. -/
  gone : ∀ {other}, before.widgets.Doomed path other →
    after.widgets.contains other = false ∧
      (∀ sequence, after.widgets.binding? ⟨other, sequence⟩ = none) ∧
      after.commands[other]? = none ∧
      after.widgets.focus ≠ some other
  /-- Widgets, bindings and commands of other names stay as they were, and so does the focus. -/
  kept : ∀ {other}, ¬before.widgets.Doomed path other →
    after.widgets.get? other = before.widgets.get? other ∧
      (∀ sequence, after.widgets.binding? ⟨other, sequence⟩ =
        before.widgets.binding? ⟨other, sequence⟩) ∧
      after.commands[other]? = before.commands[other]? ∧
      (after.widgets.focus = some other ↔ before.widgets.focus = some other)
  /-- The end of the root window ends the program; nothing else happens. -/
  beside : after = { before with
    commands := after.commands
    exitCode := if path = "." then some 0 else before.exitCode
    widgets := { before.widgets with
      widgets := after.widgets.widgets
      bindings := after.widgets.bindings
      focus := after.widgets.focus } }

theorem Name.key_of_point {name : String} (point : ['.'] <+: name.toList) : key name = name := by
  obtain ⟨rest, split⟩ := point
  have same : dropQualifier name.toList = name.toList := by
    rw [← split]
    rfl
  unfold key
  rw [same, String.ofList_toList]

namespace Action

open Machine

variable {release : Release Key Host} {machine : Machine Key Host} {path : String}

/-- Of the table of commands, only the names that are taken out change. -/
theorem interp_withoutCommands
    (release : Release Key Host)
    (names : List String)
    (machine : Machine Key Host) :
    ∃ commands, (withoutCommands release names machine).interp = { machine.interp with commands } ∧
      ∀ name, commands[name]? =
        if name ∈ names.map Name.key then none else machine.interp.commands[name]? := by
  induction names generalizing machine with
  | nil => exact ⟨machine.interp.commands, rfl, by simp⟩
  | cons first names inductionHypothesis =>
      unfold withoutCommands at inductionHypothesis ⊢
      rw [List.foldl_cons]
      cases removed : machine.removeCommand release first with
      | ok after =>
          obtain ⟨old, -, rfl⟩ := eq_of_removeCommand removed
          obtain ⟨commands, same, found⟩ := inductionHypothesis _
          rw [interp_released] at same found
          refine ⟨commands, same, ?_⟩
          intro name
          rw [found, Std.TreeMap.getElem?_erase]
          by_cases here : Name.key first = name
          · simp [here]
          · simp [here, Ne.symm here]
      | error message =>
          obtain ⟨commands, same, found⟩ := inductionHypothesis machine
          refine ⟨commands, same, ?_⟩
          have missing : machine.interp.commands[Name.key first]? = none := by
            unfold removeCommand at removed
            dsimp only at removed
            split at removed
            · assumption
            · cases removed
          intro name
          rw [found]
          by_cases here : Name.key first = name
          · subst here
            simp [missing]
          · simp [Ne.symm here]

theorem run_destroy (eval : Evaluator Key Host) :
    (Commands.destroy eval [path]).run.run machine =
      (.ok "", destroyed eval.release path machine) := by
  rw [destroy_cons, Conduct.run_bind, run_destroyOne]
  rfl

/-- In a tree of widgets, destroying takes out a subtree. -/
theorem interp_destroyed
    (rooted : machine.interp.widgets.Rooted)
    (known : machine.interp.widgets.contains path = true) :
    machine.interp.Destroyed path (destroyed release path machine).interp := by
  let table := machine.interp.widgets
  let doomed := table.paths.filter (Path.isWithin path)
  obtain ⟨commands, same, found⟩ := interp_withoutCommands release doomed
    (machine.withWidgets (doomed.foldl WidgetTable.remove table))
  have member (other : String) : other ∈ doomed ↔ table.Doomed path other :=
    rooted.mem_doomed_iff known
  have keys : doomed.map Name.key = doomed.map id := by
    apply List.map_congr_left
    intro name listed
    exact Name.key_of_point (rooted.point_prefix ((member name).mp listed).1)
  rw [keys, List.map_id] at found
  have after : (destroyed release path machine).interp =
      { machine.interp with
        widgets := doomed.foldl WidgetTable.remove table
        commands
        exitCode := if path = "." then some 0 else machine.interp.exitCode } := by
    unfold destroyed
    dsimp only
    rw [if_pos known]
    split
    · unfold Machine.ended
      rw [same]
      rfl
    · exact same
  rw [after]
  constructor
  · intro other gone
    have listed := (member other).mpr gone
    refine ⟨?_, ?_, ?_, ?_⟩
    · rw [WidgetTable.contains_eq_isSome, WidgetTable.get?_foldl_remove, if_pos listed]
      rfl
    · intro sequence
      rw [WidgetTable.binding?_foldl_remove, if_pos listed]
    · exact (found other).trans (if_pos listed)
    · intro focused
      exact ((WidgetTable.focus_foldl_remove _ _ _).mp focused).2 listed
  · intro other stays
    have notListed : other ∉ doomed := fun listed => stays ((member other).mp listed)
    refine ⟨?_, ?_, ?_, ?_⟩
    · rw [WidgetTable.get?_foldl_remove, if_neg notListed]
    · intro sequence
      rw [WidgetTable.binding?_foldl_remove, if_neg notListed]
    · exact (found other).trans (if_neg notListed)
    · rw [WidgetTable.focus_foldl_remove]
      exact and_iff_left notListed
  · have whole := WidgetTable.foldl_remove_eq table doomed
    dsimp only at whole ⊢
    rw [← whole]

end Action

end ScriptBridge
