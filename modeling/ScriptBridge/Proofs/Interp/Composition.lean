import ScriptBridge.Proofs.Interp.Changes
import ScriptBridge.Proofs.Interp.Conduct

/-!
# How commands are put together

A command is put together from direct actions, each of which makes a few changes and looks at the
host in no way, and from other parts, such as the scripts that it evaluates. It lets the end of the
program through, and does nothing behind a script that did not end. This is said of two hosts at
once, one of which may have a richer state: what is composed does the same with both, if its parts
do.
-/

namespace ScriptBridge

variable {Key Rich Host : Type}

/-! ## Ways to break off -/

namespace Interruption

/-- The code with which the program is to end. -/
def code? : Interruption → Option Int32
  | exited code => some code
  | _ => none

/-- Whether commands let it through, which they do with the end of the program and with what did not
end. -/
def isFinal : Interruption → Bool
  | exited _ | unfinished => true
  | _ => false

theorem code?_of_not_isFinal
    {fault : Interruption}
    (notFinal : fault.isFinal = false) :
    fault.code? = none := by
  cases fault with
  | exited code => cases notFinal
  | error | returned | broke | continued | unfinished => rfl

end Interruption

/-! ## Richer hosts -/

namespace Machine

/-- The machine of a host with less in its state. -/
def viewed (machine : Machine Key Rich) (view : Rich → Host) : Machine Key Host where
  interp := machine.interp
  cells := machine.cells
  clock := machine.clock
  host := view machine.host

variable
  {view : Rich → Host}
  {rich : Release Key Rich}
  {plain : Release Key Host}
  (releases : ∀ key host, view (rich key host) = plain key (view host))

include releases

theorem viewed_released (machine : Machine Key Rich) (old : Option (Command Key)) :
    (machine.released rich old).viewed view = (machine.viewed view).released plain old := by
  cases old with
  | none => rfl
  | some command =>
      cases command with
      | host key =>
          show Machine.mk _ _ _ (view (rich key machine.host)) = _
          rw [releases]
          rfl
      | builtin | procedure | widget => rfl

theorem viewed_define (machine : Machine Key Rich) (name : String) (command : Command Key) :
    (machine.define rich name command).viewed view =
      (machine.viewed view).define plain name command :=
  viewed_released releases _ _

theorem viewed_removeCommand (machine : Machine Key Rich) (name : String) :
    (machine.viewed view).removeCommand plain name =
      (machine.removeCommand rich name).map (·.viewed view) := by
  have same : (machine.viewed view).interp = machine.interp := rfl
  unfold removeCommand
  rw [same]
  dsimp only
  split
  · rfl
  · let without : Machine Key Rich :=
      { machine with
        interp := { machine.interp with
          commands := machine.interp.commands.erase (Name.key name) } }
    exact congrArg Except.ok (viewed_released releases without _).symm

theorem viewed_renameCommand (machine : Machine Key Rich) (old new : String) :
    (machine.viewed view).renameCommand plain old new =
      (machine.renameCommand rich old new).map (·.viewed view) := by
  unfold renameCommand
  split
  · exact viewed_removeCommand releases machine old
  · dsimp only [viewed]
    split
    · rfl
    · split
      · rfl
      · rfl

end Machine

namespace Action

open Machine

theorem run_get_bind
    {α : Type}
    (next : Machine Key Host → Action Key Host α)
    (machine : Machine Key Host) :
    (get >>= next).run.run machine = (next machine).run.run machine :=
  rfl

/-- What an action of the richer host does is what the other one does, in so far as the other host
sees it. -/
def Erases
    {α : Type}
    (view : Rich → Host)
    (rich : Action Key Rich α)
    (plain : Action Key Host α) : Prop :=
  ∀ machine : Machine Key Rich,
    plain.run.run (machine.viewed view) =
      ((rich.run.run machine).1, (rich.run.run machine).2.viewed view)

/-- An action that makes changes and breaks off with nothing but errors. -/
structure Direct
    {α : Type}
    (view : Rich → Host)
    (release : Release Key Rich)
    (rich : Action Key Rich α)
    (plain : Action Key Host α) : Prop where
  erases : Erases view rich plain
  changes : ∀ machine, Changes release machine (rich.run.run machine).2
  faults : ∀ machine fault, (rich.run.run machine).1 = .error fault →
    ∃ message, fault = .error message

/-- How actions are put together from direct ones and from parts. -/
inductive Composed
    (view : Rich → Host)
    (release : Release Key Rich)
    (parts : ⦃α : Type⦄ → Action Key Rich α → Action Key Host α → Prop) :
    ⦃α : Type⦄ → Action Key Rich α → Action Key Host α → Prop
  | part
      {α : Type}
      {rich : Action Key Rich α}
      {plain : Action Key Host α}
      (part : parts rich plain) :
      Composed view release parts rich plain
  | direct
      {α : Type}
      {rich : Action Key Rich α}
      {plain : Action Key Host α}
      (direct : Direct view release rich plain) :
      Composed view release parts rich plain
  | throw
      {α : Type}
      (fault : Interruption)
      (noExit : fault.code? = none) :
      Composed view release parts (throw fault : Action Key Rich α) (throw fault)
  | bind
      {α β : Type}
      {rich : Action Key Rich α}
      {plain : Action Key Host α}
      {nextRich : α → Action Key Rich β}
      {nextPlain : α → Action Key Host β}
      (first : Composed view release parts rich plain)
      (second : ∀ value, Composed view release parts (nextRich value) (nextPlain value)) :
      Composed view release parts (rich >>= nextRich) (plain >>= nextPlain)
  | look
      {α : Type}
      {nextRich : Machine Key Rich → Action Key Rich α}
      {nextPlain : Machine Key Host → Action Key Host α}
      (next : ∀ machine,
        Composed view release parts (nextRich machine) (nextPlain (machine.viewed view))) :
      Composed view release parts (get >>= nextRich) (get >>= nextPlain)
  | attempt
      {α β : Type}
      {rich : Action Key Rich α}
      {plain : Action Key Host α}
      {nextRich : Except Interruption α → Action Key Rich β}
      {nextPlain : Except Interruption α → Action Key Host β}
      (tried : Composed view release parts rich plain)
      (passed : ∀ fault, fault.isFinal = true →
        nextRich (.error fault) = throw fault ∧ nextPlain (.error fault) = throw fault)
      (handled : ∀ outcome, (∀ fault, outcome = .error fault → fault.isFinal = false) →
        Composed view release parts (nextRich outcome) (nextPlain outcome)) :
      Composed view release parts (attempt rich >>= nextRich) (attempt plain >>= nextPlain)

section Basic

variable
  {view : Rich → Host}
  {release : Release Key Rich}
  {parts : ⦃α : Type⦄ → Action Key Rich α → Action Key Host α → Prop}
  {α β : Type}

theorem direct_modify
    {changeRich : Machine Key Rich → Machine Key Rich}
    {changePlain : Machine Key Host → Machine Key Host}
    (same : ∀ machine, changePlain (machine.viewed view) = (changeRich machine).viewed view)
    (changes : ∀ machine, Changes release machine (changeRich machine)) :
    Direct view release
      (modify changeRich : Action Key Rich PUnit) (modify changePlain) where
  erases machine := congrArg (Prod.mk (Except.ok ())) (same machine)
  changes := changes
  faults _ _ := nofun

/-- How an action ends that computes another machine, if it can. -/
def settled (machine : Machine Key Host) :
    Except String (α × Machine Key Host) → Except Interruption α × Machine Key Host
  | .ok (value, after) => (.ok value, after)
  | .error message => (.error (.error message), machine)

theorem direct_of_run
    {rich : Action Key Rich α}
    {plain : Action Key Host α}
    {computeRich : Machine Key Rich → Except String (α × Machine Key Rich)}
    {computePlain : Machine Key Host → Except String (α × Machine Key Host)}
    (runRich : ∀ machine, rich.run.run machine = settled machine (computeRich machine))
    (runPlain : ∀ machine, plain.run.run machine = settled machine (computePlain machine))
    (same : ∀ machine, computePlain (machine.viewed view) =
      (computeRich machine).map fun result => (result.1, result.2.viewed view))
    (changes : ∀ machine value after,
      computeRich machine = .ok (value, after) → Changes release machine after) :
    Direct view release rich plain := by
  constructor
  · intro machine
    rw [runPlain, runRich, same]
    cases computeRich machine <;> rfl
  · intro machine
    rw [runRich]
    cases computed : computeRich machine with
    | error message => exact .refl
    | ok result => exact changes machine result.1 result.2 computed
  · intro machine fault failed
    rw [runRich] at failed
    cases computed : computeRich machine with
    | error message =>
        rw [computed] at failed
        exact ⟨message, (Except.error.inj failed).symm⟩
    | ok result =>
        rw [computed] at failed
        cases failed

theorem composed_pure (value : α) :
    Composed view release parts (pure value) (pure value) :=
  .direct ⟨fun _ => rfl, fun _ => .refl, fun _ _ => nofun⟩

theorem composed_fail (message : String) :
    Composed view release parts (fail message : Action Key Rich α) (fail message) :=
  .throw (.error message) rfl

theorem composed_wrongUsage (usage : String) :
    Composed view release parts (wrongUsage usage : Action Key Rich α) (wrongUsage usage) :=
  composed_fail _

theorem composed_orFail
    {Reason : Type}
    (message : Reason → String)
    (result : Except Reason α) :
    Composed view release parts (orFail message result : Action Key Rich α)
      (orFail message result) := by
  cases result with
  | ok value => exact composed_pure value
  | error reason => exact composed_fail (message reason)

theorem composed_map
    {rich : Action Key Rich α}
    {plain : Action Key Host α}
    (change : α → β)
    (composed : Composed view release parts rich plain) :
    Composed view release parts (change <$> rich) (change <$> plain) := by
  rw [map_eq_pure_bind, map_eq_pure_bind]
  exact .bind composed fun value => composed_pure (change value)

theorem composed_discard
    {rich : Action Key Rich α}
    {plain : Action Key Host α}
    (composed : Composed view release parts rich plain) :
    Composed view release parts (discard rich) (discard plain) :=
  composed_map _ composed

theorem composed_mapM
    {Item : Type}
    {items : List Item}
    {rich : Item → Action Key Rich α}
    {plain : Item → Action Key Host α}
    (composed : ∀ item, Composed view release parts (rich item) (plain item)) :
    Composed view release parts (items.mapM rich) (items.mapM plain) := by
  induction items with
  | nil =>
      rw [List.mapM_nil, List.mapM_nil]
      exact composed_pure []
  | cons item items inductionHypothesis =>
      rw [List.mapM_cons, List.mapM_cons]
      apply Composed.bind (composed item)
      intro value
      apply Composed.bind inductionHypothesis
      intro values
      exact composed_pure (value :: values)

/-! ## Looking -/

theorem composed_getInterp :
    Composed view release parts (getInterp : Action Key Rich (Interp Key)) getInterp :=
  .look fun machine => composed_pure machine.interp

theorem composed_valueOf? (name : String) :
    Composed view release parts (valueOf? name : Action Key Rich (Option String))
      (valueOf? name) :=
  .look fun machine => composed_pure (machine.valueOf? name)

theorem composed_readVariable (name : String) :
    Composed view release parts (readVariable name : Action Key Rich String)
      (readVariable name) :=
  .look fun machine => composed_orFail id (machine.readVariable name)

theorem composed_listOf (text : String) :
    Composed view release parts (listOf text : Action Key Rich (List String)) (listOf text) :=
  composed_orFail _ _

theorem composed_intOf (text : String) :
    Composed view release parts (intOf text : Action Key Rich Int64) (intOf text) := by
  unfold intOf
  split
  · exact composed_pure _
  · exact composed_fail _

/-! ## Changing -/

/-- A part of the interpreter changes, and nothing else. -/
theorem direct_modifyInterp
    {change : Interp Key → Interp Key}
    (changes : ∀ machine : Machine Key Rich,
      Change release machine { machine with interp := change machine.interp }) :
    Direct view release (modifyInterp change) (modifyInterp change) :=
  direct_modify (fun _ => rfl) fun machine => .single (changes machine)

theorem composed_modifyWidgets
    {change : WidgetTable → WidgetTable}
    (changes : ∀ table : WidgetTable, table.Change (change table)) :
    Composed view release parts (modifyWidgets change : Action Key Rich Unit)
      (modifyWidgets change) :=
  .direct (direct_modifyInterp fun _ => .shown (changes _))

theorem run_writeVariable (machine : Machine Key Host) (name value : String) :
    (writeVariable name value : Action Key Host String).run.run machine =
      settled machine (machine.writeVariable name value) := by
  rw [writeVariable, run_get_bind]
  cases machine.writeVariable name value <;> rfl

theorem direct_writeVariable (name value : String) :
    Direct view release (writeVariable name value : Action Key Rich String)
      (writeVariable name value) := by
  apply direct_of_run (run_writeVariable · name value) (run_writeVariable · name value)
  · intro machine
    show (machine.interp.store.set machine.cells name value).bind _ =
      Except.map _ ((machine.interp.store.set machine.cells name value).bind _)
    cases machine.interp.store.set machine.cells name value <;> rfl
  · intro machine text after wrote
    unfold Machine.writeVariable at wrote
    cases stored : machine.interp.store.set machine.cells name value with
    | error message =>
        rw [stored] at wrote
        cases wrote
    | ok result =>
        rw [stored] at wrote
        obtain ⟨-, rfl⟩ := Prod.mk.inj (Except.ok.inj wrote)
        exact .single (.written stored)

theorem composed_writeVariable (name value : String) :
    Composed view release parts (writeVariable name value : Action Key Rich String)
      (writeVariable name value) :=
  .direct (direct_writeVariable name value)

end Basic

end Action

end ScriptBridge
