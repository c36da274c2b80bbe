import ScriptBridge.Interp.Run
import ScriptBridge.Proofs.Interp.Composition

/-!
# Commands without scripts

The commands on variables, lists and texts and those that look at the interpreter are put together
from direct actions alone.
-/

namespace ScriptBridge.Action

variable
  {Key Rich Host : Type}
  {view : Rich → Host}
  {release : Release Key Rich}
  {parts : ⦃α : Type⦄ → Action Key Rich α → Action Key Host α → Prop}

/-! ## Positions -/

theorem composed_resolve (text : String) (length : Nat) :
    Composed view release parts (Index.resolve text length : Action Key Rich (Option Nat))
      (Index.resolve text length) := by
  unfold Index.resolve
  split
  · exact composed_pure _
  · exact composed_fail _

theorem composed_resolveBound (text : String) (length : Nat) :
    Composed view release parts (Index.resolveBound text length : Action Key Rich Int)
      (Index.resolveBound text length) := by
  unfold Index.resolveBound
  dsimp only
  split
  · exact composed_pure _
  · apply Composed.bind (composed_intOf _)
    intro value
    split
    · exact composed_pure _
    · exact composed_fail _
  · exact composed_fail _
  · exact .bind (composed_intOf _) fun value => composed_pure value.toInt

/-! ## Computing -/

theorem composed_list (arguments : List String) :
    Composed view release parts (Commands.list arguments : Action Key Rich String)
      (Commands.list arguments) :=
  composed_pure _

theorem composed_llength (arguments : List String) :
    Composed view release parts (Commands.llength arguments : Action Key Rich String)
      (Commands.llength arguments) := by
  unfold Commands.llength
  split
  · exact .bind (composed_listOf _) fun items => composed_pure _
  · exact composed_wrongUsage _

theorem composed_lindex (arguments : List String) :
    Composed view release parts (Commands.lindex arguments : Action Key Rich String)
      (Commands.lindex arguments) := by
  unfold Commands.lindex
  split
  · exact composed_pure _
  · apply Composed.bind (composed_listOf _)
    intro items
    exact .bind (composed_resolve _ _) fun position => composed_pure _
  · exact composed_wrongUsage _

theorem composed_join (arguments : List String) :
    Composed view release parts (Commands.join arguments : Action Key Rich String)
      (Commands.join arguments) := by
  unfold Commands.join
  split
  · exact .bind (composed_listOf _) fun items => composed_pure _
  · exact .bind (composed_listOf _) fun items => composed_pure _
  · exact composed_wrongUsage _

theorem composed_trim (name : String) (side : Commands.TrimSide) (arguments : List String) :
    Composed view release parts (Commands.trim name side arguments : Action Key Rich String)
      (Commands.trim name side arguments) := by
  unfold Commands.trim
  split
  · exact composed_pure _
  · exact composed_pure _
  · exact composed_wrongUsage _

theorem composed_repeatText (text : String) (count : Int64) :
    Composed view release parts (Commands.repeatText text count : Action Key Rich String)
      (Commands.repeatText text count) := by
  unfold Commands.repeatText
  dsimp only
  split
  · exact composed_pure _
  · exact composed_fail _

theorem composed_string (arguments : List String) :
    Composed view release parts (Commands.string arguments : Action Key Rich String)
      (Commands.string arguments) := by
  unfold Commands.string
  repeat' split
  -- The subcommands that only compute.
  all_goals
    first
    | with_reducible exact composed_pure _
    | with_reducible exact composed_fail _
    | with_reducible exact composed_wrongUsage _
    | with_reducible exact composed_trim _ _ _
    | skip
  · exact .bind (composed_resolve _ _) fun position => composed_pure _
  · apply Composed.bind (composed_resolveBound _ _)
    intro first
    exact .bind (composed_resolveBound _ _) fun last => composed_pure _
  · exact .bind (composed_intOf _) fun count => composed_repeatText _ count

theorem composed_returnValue (arguments : List String) :
    Composed view release parts (Commands.returnValue arguments : Action Key Rich String)
      (Commands.returnValue arguments) := by
  unfold Commands.returnValue
  split
  · exact .throw _ rfl
  · exact .throw _ rfl
  · exact composed_wrongUsage _

theorem composed_error (arguments : List String) :
    Composed view release parts (Commands.error arguments : Action Key Rich String)
      (Commands.error arguments) := by
  unfold Commands.error
  split
  · exact composed_wrongUsage _
  · exact composed_fail _

theorem composed_info (arguments : List String) :
    Composed view release parts (Commands.info arguments : Action Key Rich String)
      (Commands.info arguments) := by
  unfold Commands.info
  split
  · exact composed_wrongUsage _
  · exact .bind (composed_valueOf? _) fun value => composed_pure _
  · exact .bind composed_getInterp fun interp => composed_pure _
  · exact .bind composed_getInterp fun interp => composed_pure _
  · exact .bind composed_getInterp fun interp => composed_pure _
  · exact .bind composed_getInterp fun interp => composed_pure _
  · exact .bind composed_getInterp fun interp => composed_pure _
  · split
    · exact composed_wrongUsage _
    · exact composed_fail _

/-! ## Variables and output -/

theorem composed_set (arguments : List String) :
    Composed view release parts (Commands.set arguments : Action Key Rich String)
      (Commands.set arguments) := by
  unfold Commands.set
  split
  · exact composed_readVariable _
  · exact composed_writeVariable _ _
  · exact composed_wrongUsage _

/-- Unsets one of several variables. -/
def unsetOne (complain : Bool) (name : String) : Action Key Host Unit := do
  match (← get).unsetVariable name with
  | .ok machine => putMachine machine
  | .error message => if complain then fail message

theorem unsetAll_cons (complain : Bool) (name : String) (names : List String) :
    (Commands.unsetAll complain (name :: names) : Action Key Host String) =
      (do unsetOne complain name; Commands.unsetAll complain names) := by
  rw [Commands.unsetAll, unsetOne, bind_assoc]
  congr 1
  funext machine
  cases machine.unsetVariable name with
  | ok after => rfl
  | error message => cases complain <;> rfl

theorem direct_unsetOne (complain : Bool) (name : String) :
    Direct view release (unsetOne complain name : Action Key Rich Unit)
      (unsetOne complain name) := by
  have ran (Any : Type) (machine : Machine Key Any) :
      (unsetOne complain name : Action Key Any Unit).run.run machine =
        settled machine
          ((machine.interp.store.unset? name).elim
            (if complain then .error ("can't unset \"" ++ name ++ "\": no such variable")
            else .ok ((), machine))
            fun store => .ok ((), machine.withStore store)) := by
    rw [unsetOne, run_get_bind, Machine.unsetVariable]
    cases machine.interp.store.unset? name with
    | some store => rfl
    | none => cases complain <;> rfl
  apply direct_of_run (ran Rich) (ran Host)
  · intro machine
    show (machine.interp.store.unset? name).elim _ _ = _
    cases machine.interp.store.unset? name with
    | some store => rfl
    | none => cases complain <;> rfl
  · intro machine value after unset
    cases removed : machine.interp.store.unset? name with
    | some store =>
        rw [removed] at unset
        cases unset
        exact .single (.unset removed)
    | none =>
        rw [removed] at unset
        cases complain with
        | true => cases unset
        | false =>
            cases unset
            exact .refl

theorem composed_unsetAll (complain : Bool) (names : List String) :
    Composed view release parts (Commands.unsetAll complain names : Action Key Rich String)
      (Commands.unsetAll complain names) := by
  induction names with
  | nil => exact composed_pure ""
  | cons name names inductionHypothesis =>
      rw [unsetAll_cons, unsetAll_cons]
      exact .bind (.direct (direct_unsetOne complain name)) fun _ => inductionHypothesis

theorem composed_unset (arguments : List String) :
    Composed view release parts (Commands.unset arguments : Action Key Rich String)
      (Commands.unset arguments) := by
  unfold Commands.unset
  split
  · exact composed_unsetAll false _
  · exact composed_unsetAll true _

theorem composed_add (name : String) (amount : Int64) :
    Composed view release parts (Commands.incr.add name amount : Action Key Rich String)
      (Commands.incr.add name amount) := by
  unfold Commands.incr.add
  apply Composed.bind (composed_valueOf? name)
  intro value
  cases value with
  | some value => exact .bind (composed_intOf value) fun current => composed_writeVariable _ _
  | none => exact .bind (composed_pure 0) fun current => composed_writeVariable _ _

theorem composed_incr (arguments : List String) :
    Composed view release parts (Commands.incr arguments : Action Key Rich String)
      (Commands.incr arguments) := by
  unfold Commands.incr
  split
  · exact composed_add _ _
  · exact .bind (composed_intOf _) fun amount => composed_add _ amount
  · exact composed_wrongUsage _

theorem composed_append (arguments : List String) :
    Composed view release parts (Commands.append arguments : Action Key Rich String)
      (Commands.append arguments) := by
  unfold Commands.append
  split
  · exact composed_wrongUsage _
  · exact .bind (composed_valueOf? _) fun value => composed_writeVariable _ _

theorem composed_lappend (arguments : List String) :
    Composed view release parts (Commands.lappend arguments : Action Key Rich String)
      (Commands.lappend arguments) := by
  unfold Commands.lappend
  split
  · exact composed_wrongUsage _
  · apply Composed.bind (composed_valueOf? _)
    intro value
    cases value with
    | some value => exact .bind (composed_listOf value) fun items => composed_writeVariable _ _
    | none => exact .bind (composed_pure []) fun items => composed_writeVariable _ _

theorem composed_globals (names : List String) :
    Composed view release parts (Commands.globals names : Action Key Rich String)
      (Commands.globals names) :=
  .bind (.direct (direct_modifyInterp fun _ => .declared names)) fun _ => composed_pure ""

theorem composed_printLine (line : String) :
    Composed view release parts (Commands.printLine line : Action Key Rich String)
      (Commands.printLine line) :=
  .bind (.direct (direct_modifyInterp fun _ => .printed line)) fun _ => composed_pure ""

theorem composed_puts (arguments : List String) :
    Composed view release parts (Commands.puts arguments : Action Key Rich String)
      (Commands.puts arguments) := by
  have printed (arguments : List String) :
      Composed view release parts (Commands.putsArguments arguments : Action Key Rich String)
        (Commands.putsArguments arguments) := by
    unfold Commands.putsArguments
    split
    · exact composed_printLine _
    · split
      · exact composed_printLine _
      · exact composed_fail _
    · exact composed_wrongUsage _
  unfold Commands.puts
  split
  · exact printed _
  · exact printed _

end ScriptBridge.Action
