import ScriptBridge.Proofs.Bridge.Drafts
import ScriptBridge.Proofs.Interp.VariableStorage
import ScriptBridge.Proofs.Script.WrittenLists
import ScriptBridge.Vocabulary.Starters

/-!
# Values that are written as list elements

The vocabulary writes the value of a variable, and any option or argument that it does not know, as
one list element. What the script gets of the element is what is stored or passed on.
-/

namespace ScriptBridge

open ListText

/-! ## Options and arguments -/

/-- A value that is merged into a command, alone or behind the name of an option. -/
structure Addition where
  option : Option String
  value : String

namespace Addition

def draft : Addition → Draft
  | ⟨none, value⟩ => Options.arg value
  | ⟨some name, value⟩ => Options.opt name value

/-- The words that are added: how each is written, and what it spells. -/
def parts : Addition → List (String × String)
  | ⟨none, value⟩ => wordsOf [value]
  | ⟨some name, value⟩ => ("-" ++ name, "-" ++ name) :: wordsOf [value]

/-- The arguments that a command gets by an addition. -/
def arguments : Addition → List String
  | ⟨none, value⟩ => [received value]
  | ⟨some name, value⟩ => ["-" ++ name, received value]

/-- The name of the option, if there is one, needs no quoting. -/
def IsPlain (addition : Addition) : Prop :=
  ∀ name, addition.option = some name → ∀ c ∈ name.toList, isSpecial c = false

theorem draft_eq (addition : Addition) :
    addition.draft = .fragment (String.join (addition.parts.map (" " ++ ·.1))) := by
  obtain ⟨option, value⟩ := addition
  cases option with
  | none => simp [draft, parts, wordsOf, Options.arg]
  | some name =>
      simp only [draft, parts, wordsOf, Options.opt, List.map_cons, List.map_nil, String.join_cons,
        String.join_nil, String.append_empty, Draft.fragment.injEq]
      rw [← String.toList_inj]
      simp

theorem writes_parts
    {addition : Addition}
    (isPlain : addition.IsPlain)
    {part : String × String}
    (member : part ∈ addition.parts) :
    Writes part.1.toList part.2.toList := by
  obtain ⟨option, value⟩ := addition
  cases option with
  | none =>
      obtain rfl := List.mem_singleton.mp member
      exact writes_element value
  | some name =>
      rcases List.mem_cons.mp member with rfl | member
      · have hyphen : ("-" ++ name).toList = '-' :: name.toList := by simp
        apply ListText.IsPlain.writes
        refine ⟨by simp [hyphen], ?_, by simp [hyphen]⟩
        rw [hyphen, List.forall_mem_cons]
        exact ⟨by decide, isPlain name rfl⟩
      · obtain rfl := List.mem_singleton.mp member
        exact writes_element value

theorem writes_flatMap_parts
    {additions : List Addition}
    (arePlain : ∀ addition ∈ additions, addition.IsPlain) :
    ∀ part ∈ additions.flatMap parts, Writes part.1.toList part.2.toList := by
  intro part member
  obtain ⟨addition, known, member⟩ := List.mem_flatMap.mp member
  exact writes_parts (arePlain addition known) member

/-- A bare name with additions behind it. -/
def command
    (name : String)
    (additions : List Addition)
    (isPlain : ListText.IsPlain name.toList)
    (arePlain : ∀ addition ∈ additions, addition.IsPlain) : WrittenCommand :=
  ListText.plainCommand name isPlain (additions.flatMap parts) (writes_flatMap_parts arePlain)

end Addition

theorem join_flatMap {α : Type} (items : List α) (parts : α → List String) :
    String.join (items.flatMap parts) =
      String.join (items.map fun item => String.join (parts item)) := by
  induction items with
  | nil => rfl
  | cons item items inductionHypothesis => simp [inductionHypothesis]

variable {Key Host : Type}

/-- A command that additions are merged into gets their values, and nothing else, as its arguments. -/
theorem gather_additions
    {name : String}
    (isPlain : ListText.IsPlain name.toList)
    {additions : List Addition}
    (arePlain : ∀ addition ∈ additions, addition.IsPlain)
    (eval : SessionEvaluator)
    (world : World)
    (host : HostCommands Key Host)
    (fuel : Nat) :
    ∃ (commands : CommandTable) (text : String),
      (Expression.gather (Starters.script name) (additions.map Addition.draft)).outcome eval world =
        (.ok (.starter world.commands.nextId), { world with commands }) ∧
      World.Pends { world with commands } world.commands.nextId text ∧
      (evaluator host (fuel + 1)).script text =
        invoke host (evaluator host fuel) name (additions.flatMap Addition.arguments) := by
  let fragments := additions.map fun addition =>
    String.join (addition.parts.map (" " ++ ·.1))
  have drafts : additions.map Addition.draft = fragments.map Draft.fragment := by
    simp [fragments, Addition.draft_eq]
  obtain ⟨commands, gathered, pends⟩ := World.outcome_gather eval world name fragments
  refine ⟨commands, name ++ String.join fragments, drafts ▸ gathered, pends, ?_⟩
  have text : name ++ String.join fragments =
      (Addition.command name additions isPlain arePlain).text := by
    simp only [WrittenCommand.text, Addition.command, ListText.plainCommand, List.map_flatMap,
      join_flatMap, fragments]
  have arguments : (Addition.command name additions isPlain arePlain).arguments =
      additions.flatMap Addition.arguments := by
    simp only [WrittenCommand.arguments, Addition.command, ListText.plainCommand, List.map_flatMap]
    congr 1
    funext addition
    obtain ⟨option, value⟩ := addition
    cases option <;> rfl
  rw [(Addition.command name additions isPlain arePlain).script_only text, arguments]
  rfl

/-! ## Variables -/

namespace VariableStore

variable {store : VariableStore} {cells : Cells} {name : String}

/-- The name means no linked variable here. -/
def Unlinked (store : VariableStore) (name : String) : Prop :=
  ∀ key, store.globalKey? name = some key → store.links[key]? = none

/-- A plain variable takes every value as it is. -/
theorem set_of_unlinked (unlinked : store.Unlinked name) (value : String) :
    ∃ after, store.set cells name value = .ok (value, after, cells) ∧
      after.get? cells name = some value := by
  cases isGlobal : store.globalKey? name with
  | some key =>
      refine ⟨_, set_of_global isGlobal (unlinked key isGlobal) value, ?_⟩
      have sameKey : globalKey? { store with globals := store.globals.insert key value } name =
          some key :=
        isGlobal
      unfold get? getGlobal?
      rw [sameKey]
      dsimp only
      rw [unlinked key isGlobal]
      exact Std.TreeMap.getElem?_insert_self
  | none =>
      obtain ⟨globals, frames, links⟩ := store
      cases frames with
      | nil =>
          unfold globalKey? at isGlobal
          split at isGlobal <;> cases isGlobal
      | cons frame outer =>
          let set : Frame := { frame with locals := frame.locals.insert name value }
          have stillLocal : globalKey? ⟨globals, set :: outer, links⟩ name = none := isGlobal
          refine ⟨⟨globals, set :: outer, links⟩, ?_, ?_⟩
          · rw [VariableStore.set, isGlobal]
            rfl
          · rw [get?, stillLocal]
            exact Std.TreeMap.getElem?_insert_self

end VariableStore

/-! ## Setting a variable -/

section Setting

variable {scene : Scene} {name : String}
  (isPlain : IsPlain name.toList)
  (sets : scene.interp.command? "set" = some (.builtin .set))
  (shallow : scene.interp.depth < maxDepth)
  (unlinked : scene.interp.store.Unlinked name)

include sets shallow

/-- Setting a variable by a command that is known under its usual name. -/
theorem yields_invoke_set
    {value text : String}
    {store : VariableStore}
    (written : scene.interp.store.set scene.cells name value = .ok (text, store, scene.cells))
    (eval : SessionEvaluator) :
    scene.Yields (invoke Session.hostCommands eval "set" [name, value]) text
      { scene with interp := { scene.interp with store } } := by
  have ran : (scene.atDepth (scene.interp.depth + 1)).Yields
      ((Command.builtin .set).run Session.hostCommands eval "set" [name, value]) text _ :=
    Scene.yields_writeVariable written
  exact ran.invoke sets shallow

include isPlain unlinked

/-- Setting a plain variable stores what a script gets of the value. -/
theorem outcome_set
    {world : World}
    {session : SessionId}
    (current : world.current = some session)
    (shows : world.Shows session scene)
    (value : String)
    (fuel : Nat) :
    ∃ (final : World) (after : Scene),
      (do
        let expression ← Expression.gather (Starters.set name value) []
        expression.text).outcome (Session.evaluatorOf (fuel + 1)) world =
          (.ok (.ok (received value)), final) ∧
      final.Shows session after ∧
      after.interp.store.get? after.cells name = some (received value) := by
  obtain ⟨store, written, stored⟩ :=
    VariableStore.set_of_unlinked unlinked (received value)
  have text : "set " ++ name ++ " " ++ element value ++ "" =
      "set" ++ " " ++ format [name, value] := by
    rw [← String.toList_inj]
    simp [format, isPlain.element_eq]
  have plainSet : IsPlain "set".toList := by decide
  have script := script_format plainSet [name, value] Session.hostCommands fuel
  rw [List.map_cons, List.map_cons, List.map_nil, isPlain.received_eq, ← text] at script
  have yields : scene.Yields ((Session.evaluatorOf (fuel + 1)).script
      ("set " ++ name ++ " " ++ element value ++ "")) (received value)
      { scene with interp := { scene.interp with store } } := by
    rw [Session.evaluatorOf, script]
    exact yields_invoke_set sets shallow written _
  obtain ⟨commands, gathered, pends⟩ := World.outcome_gather (Session.evaluatorOf (fuel + 1)) world
    ("set " ++ name ++ " " ++ element value) []
  obtain ⟨final, read, showsFinal, -⟩ := World.evaluateText_of_yields
    (show ({ world with commands } : World).current = some session from current)
    ⟨shows.found, shows.cells⟩ pends yields
  exact ⟨final, _, (World.outcome_bind gathered).trans read, showsFinal, stored⟩

end Setting

end ScriptBridge
