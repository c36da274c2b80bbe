import ScriptBridge.Proofs.Interp.Commands

/-!
# Commands on widgets and events

What widget commands record and what event commands queue are direct actions as well. A widget comes
with its command, and widgets that are destroyed go with theirs.
-/

namespace ScriptBridge.Action

variable
  {Key Rich Host : Type}
  {view : Rich → Host}
  {release : Release Key Rich}
  {parts : ⦃α : Type⦄ → Action Key Rich α → Action Key Host α → Prop}

/-! ## Looking -/

theorem composed_getWidgets :
    Composed view release parts (Commands.getWidgets : Action Key Rich WidgetTable)
      Commands.getWidgets :=
  .bind composed_getInterp fun interp => composed_pure interp.widgets

theorem composed_badPath {α : Type} (path : String) :
    Composed view release parts (Commands.badPath path : Action Key Rich α)
      (Commands.badPath path) :=
  composed_fail _

theorem composed_option? (path option : String) :
    Composed view release parts (Commands.option? path option : Action Key Rich (Option String))
      (Commands.option? path option) :=
  .bind composed_getWidgets fun table => composed_pure (table.option? path option)

theorem composed_entryText (path : String) :
    Composed view release parts (Commands.entryText path : Action Key Rich String)
      (Commands.entryText path) := by
  unfold Commands.entryText
  apply Composed.bind (composed_option? path _)
  intro variableName
  cases variableName with
  | some name => exact .bind (composed_valueOf? _) fun value => composed_pure _
  | none => exact .bind composed_getWidgets fun table => composed_pure _

theorem composed_entryPlace (argument : String) (length : Nat) :
    Composed view release parts (Commands.entryPlace argument length : Action Key Rich Nat)
      (Commands.entryPlace argument length) :=
  .bind (composed_resolve _ _) fun _ => composed_pure _

theorem composed_entryPlaceOrEnd (argument : String) (length : Nat) :
    Composed view release parts (Commands.entryPlaceOrEnd argument length : Action Key Rich Nat)
      (Commands.entryPlaceOrEnd argument length) := by
  unfold Commands.entryPlaceOrEnd
  split
  · exact composed_pure _
  · exact composed_entryPlace _ _

theorem composed_winfo (arguments : List String) :
    Composed view release parts (Commands.winfo arguments : Action Key Rich String)
      (Commands.winfo arguments) := by
  unfold Commands.winfo
  split
  · exact .bind composed_getWidgets fun table => composed_pure _
  · apply Composed.bind composed_getWidgets
    intro table
    split
    · exact composed_fail _
    · split
      all_goals
        first
        | exact composed_pure _
        | exact composed_fail _
  · exact composed_wrongUsage _

/-! ## Recording -/

theorem composed_modifyWidget (path : String) (change : Widget → Widget) :
    Composed view release parts
      (modifyWidgets (·.modify path change) : Action Key Rich Unit)
      (modifyWidgets (·.modify path change)) :=
  composed_modifyWidgets fun _ => .modified path change

theorem composed_configure (path : String) (arguments : List String) :
    Composed view release parts (Commands.configure path arguments : Action Key Rich String)
      (Commands.configure path arguments) := by
  unfold Commands.configure
  apply Composed.bind composed_getWidgets
  intro table
  split
  · exact composed_badPath _
  · split
    · exact composed_pure _
    · exact composed_pure _
    · apply Composed.bind (composed_orFail _ _)
      intro options
      exact .bind (composed_modifyWidget _ _) fun _ => composed_pure ""

theorem composed_setEntryText (path text : String) :
    Composed view release parts (Commands.setEntryText path text : Action Key Rich Unit)
      (Commands.setEntryText path text) := by
  unfold Commands.setEntryText
  apply Composed.bind (composed_option? path _)
  intro variableName
  cases variableName with
  | some name => exact composed_discard (composed_writeVariable _ _)
  | none => exact composed_modifyWidget _ _

theorem composed_insertIntoEntry (path : String) (arguments : List String) :
    Composed view release parts (Commands.insertIntoEntry path arguments : Action Key Rich String)
      (Commands.insertIntoEntry path arguments) := by
  unfold Commands.insertIntoEntry
  split
  · apply Composed.bind (composed_entryText path)
    intro text
    apply Composed.bind (composed_entryPlaceOrEnd _ _)
    intro place
    exact .bind (composed_setEntryText _ _) fun _ => composed_pure ""
  · exact composed_wrongUsage _

theorem composed_deleteBetween (path first : String) (last : Option String) :
    Composed view release parts (Commands.deleteBetween path first last : Action Key Rich String)
      (Commands.deleteBetween path first last) := by
  have deleted (text : String) :
      Composed view release parts
        (do Commands.setEntryText path text; return "" : Action Key Rich String)
        (do Commands.setEntryText path text; return "") :=
    .bind (composed_setEntryText path text) fun _ => composed_pure ""
  unfold Commands.deleteBetween
  apply Composed.bind (composed_entryText path)
  intro text
  apply Composed.bind (composed_entryPlace first _)
  intro start
  cases last with
  | some last => exact .bind (composed_entryPlaceOrEnd last _) fun stop => deleted _
  | none => exact .bind (composed_pure _) fun stop => deleted _

theorem composed_deleteFromEntry (path : String) (arguments : List String) :
    Composed view release parts (Commands.deleteFromEntry path arguments : Action Key Rich String)
      (Commands.deleteFromEntry path arguments) := by
  unfold Commands.deleteFromEntry
  split
  · exact composed_deleteBetween _ _ _
  · exact composed_deleteBetween _ _ _
  · exact composed_wrongUsage _

theorem composed_updateVariable (path className name : String) :
    Composed view release parts (Commands.updateVariable path className name : Action Key Rich Unit)
      (Commands.updateVariable path className name) := by
  unfold Commands.updateVariable
  dsimp only
  split
  · apply Composed.bind (composed_option? _ _)
    intro onValue
    apply Composed.bind (composed_option? _ _)
    intro offValue
    apply Composed.bind (composed_valueOf? _)
    intro current
    exact composed_discard (composed_writeVariable _ _)
  · apply Composed.bind (composed_option? _ _)
    intro value
    exact composed_discard (composed_writeVariable _ _)
  · exact composed_pure ()

theorem composed_setManagers (manager : Option Manager) (paths : List String) :
    Composed view release parts (Commands.setManagers manager paths : Action Key Rich Unit)
      (Commands.setManagers manager paths) := by
  induction paths with
  | nil => exact composed_pure ()
  | cons path paths inductionHypothesis =>
      unfold Commands.setManagers
      apply Composed.bind composed_getWidgets
      intro table
      split
      · exact .bind (composed_modifyWidget _ _) fun _ => inductionHypothesis
      · exact composed_badPath _

theorem composed_manageWidgets (manager : Manager) (shown : Bool) (arguments : List String) :
    Composed view release parts
      (Commands.manageWidgets manager shown arguments : Action Key Rich String)
      (Commands.manageWidgets manager shown arguments) := by
  have managed (manager : Option Manager) (paths : List String) :
      Composed view release parts
        (do Commands.setManagers manager paths; return "" : Action Key Rich String)
        (do Commands.setManagers manager paths; return "") :=
    .bind (composed_setManagers manager paths) fun _ => composed_pure ""
  unfold Commands.manageWidgets
  dsimp only
  split
  · exact composed_wrongUsage _
  · cases shown with
    | true => exact .bind (composed_discard (composed_orFail _ _)) fun _ => managed _ _
    | false => exact managed _ _

theorem composed_manage (name : String) (arguments : List String) :
    Composed view release parts (Commands.manage name arguments : Action Key Rich String)
      (Commands.manage name arguments) := by
  unfold Commands.manage
  split
  · exact composed_manageWidgets _ _ _
  · exact composed_manageWidgets _ _ _
  · exact composed_manageWidgets _ _ _

theorem run_getWidgets_bind
    {α : Type}
    (next : WidgetTable → Action Key Host α)
    (machine : Machine Key Host) :
    (Commands.getWidgets >>= next).run.run machine =
      (next machine.interp.widgets).run.run machine :=
  rfl

theorem run_focus (machine : Machine Key Host) (path : String) (arguments : List String) :
    (Commands.focus (path :: arguments) : Action Key Host String).run.run machine =
      settled machine
        (if machine.interp.widgets.contains path then
          .ok ("", machine.withWidgets { machine.interp.widgets with focus := some path })
        else .error ("bad window path name \"" ++ path ++ "\"")) := by
  rw [Commands.focus, run_getWidgets_bind]
  cases machine.interp.widgets.contains path <;> rfl

theorem composed_focus (arguments : List String) :
    Composed view release parts (Commands.focus arguments : Action Key Rich String)
      (Commands.focus arguments) := by
  cases arguments with
  | nil => exact .bind composed_getWidgets fun table => composed_pure _
  | cons path arguments =>
      apply Composed.direct
      apply direct_of_run (run_focus · path arguments) (run_focus · path arguments)
      · intro machine
        show (if machine.interp.widgets.contains path then _ else _) = _
        split <;> rfl
      · intro machine value after focused
        split at focused
        · rename_i known
          cases focused
          exact .single (.shown (.focused known))
        · cases focused

theorem composed_wm (arguments : List String) :
    Composed view release parts (Commands.wm arguments : Action Key Rich String)
      (Commands.wm arguments) := by
  unfold Commands.wm
  split
  · apply Composed.bind composed_getWidgets
    intro table
    split
    · exact composed_badPath _
    · split
      · exact composed_pure _
      · exact .bind (composed_modifyWidgets fun _ => .titled _) fun _ => composed_pure ""
      · exact composed_pure _
      · exact .bind (composed_modifyWidgets fun _ => .shaped _) fun _ => composed_pure ""
      · exact composed_pure _
  · exact composed_wrongUsage _

theorem composed_bindCommand (arguments : List String) :
    Composed view release parts (Commands.bind arguments : Action Key Rich String)
      (Commands.bind arguments) := by
  unfold Commands.bind
  split
  · exact .bind composed_getWidgets fun table => composed_pure _
  · exact .bind composed_getWidgets fun table => composed_pure _
  · exact .bind (composed_modifyWidgets fun _ => .bound _ _) fun _ => composed_pure ""
  · exact composed_wrongUsage _

/-! ## Queued scripts -/

theorem composed_scheduleScript (due : Option Nat) (script : String) :
    Composed view release parts (Commands.scheduleScript due script : Action Key Rich String)
      (Commands.scheduleScript due script) := by
  apply Composed.direct
  constructor
  · intro machine
    rfl
  · intro machine
    exact .single (.queued (.scheduled due script))
  · exact fun _ _ => nofun

/-- Waiting takes the clock forwards. -/
theorem composed_wait (milliseconds : Nat) :
    Composed view release parts
      (do
        let due := (← get).clock + milliseconds
        modify fun machine => { machine with clock := due }
        return "" : Action Key Rich String)
      (do
        let due := (← get).clock + milliseconds
        modify fun machine => { machine with clock := due }
        return "") := by
  apply Composed.direct
  constructor
  · intro machine
    rfl
  · intro machine
    exact .single (.waited (Nat.le_add_right machine.clock milliseconds))
  · exact fun _ _ => nofun

theorem composed_afterDelay (delay : String) (texts : List String) :
    Composed view release parts (Commands.afterDelay delay texts : Action Key Rich String)
      (Commands.afterDelay delay texts) := by
  apply Composed.bind (composed_intOf delay)
  intro amount
  cases texts with
  | nil => exact composed_wait _
  | cons text texts => exact .look fun machine => composed_scheduleScript _ _

theorem composed_after (arguments : List String) :
    Composed view release parts (Commands.after arguments : Action Key Rich String)
      (Commands.after arguments) := by
  unfold Commands.after
  split
  · exact composed_wrongUsage _
  · exact composed_scheduleScript _ _
  · split
    · exact .bind (.direct (direct_modifyInterp fun _ => .queued (.cancelled _))) fun _ => composed_pure ""
    · exact composed_pure ""
  · exact .bind composed_getInterp fun interp => composed_pure _
  · exact composed_afterDelay _ _

end ScriptBridge.Action
