import ScriptBridge.Proofs.Bridge.Drafts
import ScriptBridge.Proofs.Script.Quoting
import ScriptBridge.Proofs.Script.WrittenLists
import ScriptBridge.Vocabulary.Starters

/-!
# Options with quoted values

A widget is created with a text in quotes, and asked for it. The text comes back as it was.
-/

namespace ScriptBridge

open ListText Options

/-! ## The commands -/

theorem writes_buttonParts
    {path : String}
    (isPlain : IsPlain path.toList)
    (text : String) :
    ∀ part ∈ [(path, path), ("-text", "-text"), ("\"" ++ quote text ++ "\"", text)],
      Writes part.1.toList part.2.toList := by
  simp only [List.forall_mem_cons, List.not_mem_nil, false_implies, implies_true, and_true]
  refine ⟨isPlain.writes, IsPlain.writes (by decide), ?_⟩
  have written := writes_quoted text.toList
  simpa [quote] using written

/-- A button with its text, as the vocabulary writes it. -/
def buttonCommand (path text : String) (isPlain : IsPlain path.toList) : WrittenCommand :=
  plainCommand "button" (by decide)
    [(path, path), ("-text", "-text"), ("\"" ++ quote text ++ "\"", text)]
    (writes_buttonParts isPlain text)

theorem writes_textQuery :
    ∀ part ∈ [("cget", "cget"), ("-text", "-text")], Writes part.1.toList part.2.toList := by
  simp only [List.forall_mem_cons, List.not_mem_nil, false_implies, implies_true, and_true]
  exact ⟨IsPlain.writes (by decide), IsPlain.writes (by decide)⟩

/-- The command that asks a widget for its text. -/
def textQuery (path : String) (isPlain : IsPlain path.toList) : WrittenCommand :=
  plainCommand path isPlain [("cget", "cget"), ("-text", "-text")] writes_textQuery

theorem text_buttonCommand {path text : String} (isPlain : IsPlain path.toList) :
    "button " ++ path ++ (" -text \"" ++ quote text ++ "\"") =
      (buttonCommand path text isPlain).text := by
  rw [← String.toList_inj]
  simp [WrittenCommand.text, buttonCommand, plainCommand]

theorem text_textQuery {path : String} (isPlain : IsPlain path.toList) :
    path ++ " cget -text" = (textQuery path isPlain).text := by
  rw [← String.toList_inj]
  simp [WrittenCommand.text, textQuery, plainCommand]

/-! ## What they do -/

/-- Where a widget may be made: its path is not used yet, and it has a parent. -/
structure Scene.HasRoom (scene : Scene) (path : String) : Prop where
  parent : ∃ parent, Path.parent? path = some parent ∧
    scene.interp.widgets.contains parent = true
  unused : scene.interp.widgets.contains path = false

namespace Scene

variable {scene : Scene} {path : String}

/-- A button with nothing but a text. -/
def buttonWithText (text : String) : Widget where
  className := "Button"
  options := Commands.insertOptions {} [("-text", text)]

theorem text_buttonWithText (text : String) :
    (buttonWithText text).options["-text"]? = some text :=
  Std.TreeMap.getElem?_insert_self

/-- The scene with another widget, which has a command of its own. -/
def withWidget (scene : Scene) (path : String) (widget : Widget) : Scene :=
  { scene with
    interp := { scene.interp with
      widgets := scene.interp.widgets.insert path widget
      commands := scene.interp.commands.insert (Name.key path) .widget } }

theorem yields_createButton
    {eval : SessionEvaluator}
    (release : eval.release = freeSlot)
    (room : scene.HasRoom path)
    (text : String) :
    scene.Yields (Commands.createWidget eval "button" [path, "-text", text]) path
      (scene.withWidget path (buttonWithText text)) := by
  obtain ⟨⟨parent, isParent, known⟩, unused⟩ := room
  have options : Commands.optionPairs ["-text", text] = .ok [("-text", text)] := by
    have hyphen : "-text".startsWith "-" = true := by simp
    simp [Commands.optionPairs, hyphen, Except.map]
  show scene.Yields (Commands.createOfClass eval "Button" path ["-text", text]) path _
  unfold Commands.createOfClass
  rw [isParent]
  dsimp only
  apply (yields_orFail options scene).bind
  apply (yields_getWidgets scene).bind
  rw [known, unused, release]
  simp only [Bool.not_true, Bool.false_eq_true, if_false]
  apply (yields_modifyWidgets scene _).bind
  apply (yields_define _ path .widget).bind
  exact yields_pure _ path

theorem yields_cget
    (eval : SessionEvaluator)
    {widget : Widget}
    {text : String}
    (found : scene.interp.widgets.get? path = some widget)
    (option : widget.options["-text"]? = some text) :
    scene.Yields (Commands.widgetCommand eval path ["cget", "-text"]) text scene := by
  have looked : scene.interp.widgets.option? path "-text" = some text := by
    rw [WidgetTable.option?, found]
    exact option
  unfold Commands.widgetCommand
  apply (yields_getWidgets scene).bind
  rw [found]
  have asked : scene.Yields (Commands.option? path "-text") (some text) scene := by
    have pureOption := yields_pure scene (scene.interp.widgets.option? path "-text")
    rw [looked] at pureOption
    exact (yields_getWidgets scene).bind (looked ▸ pureOption)
  exact asked.bind (yields_pure scene text)

end Scene

/-! ## Reading a text back -/

section

variable {scene : Scene} {path : String} (isPlain : IsPlain path.toList)
  (shallow : scene.interp.depth < maxDepth)

include isPlain shallow

theorem yields_script_button
    (creates : scene.interp.command? "button" = some (.builtin .createWidget))
    (room : scene.HasRoom path)
    (text : String)
    (fuel : Nat) :
    scene.Yields
      ((Session.evaluatorOf (fuel + 1)).script
        ("button " ++ path ++ (" -text \"" ++ quote text ++ "\""))) path
      (scene.withWidget path (Scene.buttonWithText text)) := by
  have roomInside : (scene.atDepth (scene.interp.depth + 1)).HasRoom path :=
    ⟨room.parent, room.unused⟩
  have created : (scene.atDepth (scene.interp.depth + 1)).Yields
      ((Command.builtin .createWidget).run Session.hostCommands (Session.evaluatorOf fuel) "button"
        [path, "-text", text]) path _ :=
    Scene.yields_createButton (evaluator_release Session.hostCommands fuel) roomInside text
  have invoked := created.invoke creates shallow
  have written := (buttonCommand path text isPlain).script_only (text_buttonCommand isPlain)
    Session.hostCommands fuel
  rw [Session.evaluatorOf, written]
  exact invoked

theorem yields_script_textQuery
    {widget : Widget}
    {text : String}
    (asks : scene.interp.command? path = some .widget)
    (found : scene.interp.widgets.get? path = some widget)
    (option : widget.options["-text"]? = some text)
    (fuel : Nat) :
    scene.Yields ((Session.evaluatorOf (fuel + 1)).script (path ++ " cget -text")) text scene := by
  have answered : (scene.atDepth (scene.interp.depth + 1)).Yields
      (Command.widget.run Session.hostCommands (Session.evaluatorOf fuel) path ["cget", "-text"])
      text _ :=
    Scene.yields_cget (Session.evaluatorOf fuel) found option
  have invoked := answered.invoke asks shallow
  have written := (textQuery path isPlain).script_only (text_textQuery isPlain)
    Session.hostCommands fuel
  rw [Session.evaluatorOf, written]
  exact invoked

end

namespace World

/-- Makes a button with a text and asks for its text. -/
def textOfButton (session : SessionId) (path text : String) :
    WorldAction (Except Failure String) := do
  let button ← Expression.gather (Starters.button path) [Options.text text]
  let _ ← button.text
  inSession session fun eval => Session.evaluate eval (path ++ " cget -text")

variable {world : World} {session : SessionId} {scene : Scene} {path : String}

/-- Where there is room for a button, it is made, and its text is the one that was given. -/
theorem outcome_textOfButton
    (current : world.current = some session)
    (shows : world.Shows session scene)
    (shallow : scene.interp.depth < maxDepth)
    (creates : scene.interp.command? "button" = some (.builtin .createWidget))
    (isPlain : IsPlain path.toList)
    (room : scene.HasRoom path)
    (text : String)
    (fuel : Nat) :
    ((textOfButton session path text).outcome (Session.evaluatorOf (fuel + 1)) world).1 =
      .ok (.ok text) := by
  obtain ⟨commands, gathered, pends⟩ := outcome_gather
    (Session.evaluatorOf (fuel + 1)) world ("button " ++ path)
    [" -text \"" ++ quote text ++ "\""]
  rw [String.join_cons, String.join_nil, String.append_empty] at pends
  have started : (Expression.gather (Starters.button path) [Options.text text]).outcome
      (Session.evaluatorOf (fuel + 1)) world =
        (.ok (.starter world.commands.nextId), { world with commands }) :=
    gathered
  have read : (Expression.text (.starter world.commands.nextId)).outcome
      (Session.evaluatorOf (fuel + 1)) { world with commands } =
        (evaluateText world.commands.nextId).outcome
          (Session.evaluatorOf (fuel + 1)) { world with commands } :=
    rfl
  have button := yields_script_button isPlain shallow creates room text fuel
  have showsStarted : World.Shows { world with commands } session scene :=
    ⟨shows.found, shows.cells⟩
  obtain ⟨made, created, showsMade, -⟩ :=
    evaluateText_of_yields
      (show ({ world with commands } : World).current = some session from current) showsStarted pends button
  have shallowThen : ((scene.withWidget path (Scene.buttonWithText text)).withResult
      path).interp.depth < maxDepth :=
    shallow
  have asked := yields_script_textQuery isPlain shallowThen Std.TreeMap.getElem?_insert_self
    Std.TreeMap.getElem?_insert_self (Scene.text_buttonWithText text) fuel
  obtain ⟨final, answered, -⟩ := evaluate_of_yields showsMade asked
  unfold textOfButton
  rw [outcome_bind started, outcome_bind (read.trans created), answered]

end World

/-- Quoted text is what it was for whoever reads it. Between quotes, wherever a word may start, it is
one word up to behind the closing quote, and putting the word together gives the text without
invoking a command or reading a variable; so does substituting in it. Hence a button has exactly the
text that it is made with. -/
theorem quote_verbatim :
    (∀ (text : String) (nested : Bool) (rest : List Char), endsWord nested rest = true →
      ∃ word,
        (readWord nested '"' ((quote text).toList ++ '"' :: rest)).Gives word rest ∧
        (∀ words, (readScript nested words ('"' :: ((quote text).toList ++ '"' :: rest))).value =
          (readScript nested (some (words.getD [] ++ [word])) rest).value) ∧
        ∀ (Key Host : Type) (call : String → List String → Action Key Host String),
          substitutePieces call "" word = pure text) ∧
    (∀ (text : String) (Key Host : Type) (call : String → List String → Action Key Host String),
      (Template.ofText (quote text)).substitute call = pure text) ∧
    ∀ (world : World) (session : SessionId) (scene : Scene) (path text : String) (fuel : Nat),
      world.current = some session → world.Shows session scene →
      scene.interp.depth < maxDepth →
      scene.interp.command? "button" = some (.builtin .createWidget) →
      IsPlain path.toList → scene.HasRoom path →
        ((World.textOfButton session path text).outcome (Session.evaluatorOf (fuel + 1)) world).1 =
          .ok (.ok text) := by
  refine ⟨?_, fun text _ _ call => substitute_quote call text, ?_⟩
  · intro text nested rest ends
    obtain ⟨word, spells, read⟩ := readWord_quoted text.toList ends
    have quoted : (quote text).toList = quoteChars text.toList := String.toList_ofList
    rw [quoted]
    refine ⟨word, read, fun words => ?_, fun _ _ call => ?_⟩
    · exact value_readScript_of_readWord words (by decide) (by decide) (by decide) nofun
        (fun _ => by decide) read
    · rw [substitutePieces_of_spells spells, String.empty_append, String.ofList_toList]
  · intro world session scene path text fuel current shows shallow creates isPlain room
    exact World.outcome_textOfButton current shows shallow creates isPlain room text fuel

/-- A text with all that means something to a reader, in a session that has just been opened. -/
theorem quote_verbatim_of_brackets :
    let world : World :=
      { World.opened (fun _ => none) [(.open, {})] with current := some 0 }
    let text := "a\\ [b] $c \"d\""
    endsWord false [] = true ∧
    (∃ word, (readWord false '"' ((quote text).toList ++ '"' :: [])).Gives word []) ∧
    ((World.textOfButton 0 ".b" text).outcome (Session.evaluatorOf 1) world).1 =
      .ok (.ok text) := by
  intro world text
  have shows : world.Shows 0 ⟨.initial, {}⟩ := ⟨⟨{ access := .open, settings := {} }, rfl, rfl⟩, rfl⟩
  have room : Scene.HasRoom ⟨.initial, {}⟩ ".b" :=
    ⟨⟨".", by decide, by decide⟩, by decide⟩
  have plain : IsPlain ".b".toList := by decide
  obtain ⟨word, read, -⟩ := quote_verbatim.1 text false [] rfl
  exact ⟨rfl, ⟨word, read⟩,
    quote_verbatim.2.2 world 0 ⟨.initial, {}⟩ ".b" text 0 rfl shows (by decide)
      (command?_initial (by simp [widgetClasses]) rfl) plain room⟩

end ScriptBridge
