import ScriptBridge.Bridge.Expressions
import ScriptBridge.Proofs.Bridge.CommandConduct
import ScriptBridge.Proofs.Bridge.Scenes

/-!
# Commands of the vocabulary

A command of the vocabulary starts from a draft, and fragments are merged into it one after the
other. When it is read, the current session evaluates the start with all fragments behind it.
-/

namespace ScriptBridge

/-! ## Putting a command together -/

namespace Expression

/-- Merges fragments into an expression. -/
def mergeAll (expression : Expression) : List Draft → WorldAction Expression
  | [] => return expression
  | draft :: drafts => do
      let merged ← combine expression (← ofDraft draft)
      mergeAll merged drafts

/-- The command that starts with one draft and has others merged into it. -/
def gather (start : Draft) (drafts : List Draft) : WorldAction Expression := do
  mergeAll (← ofDraft start) drafts

end Expression

namespace World

variable {world : World} {eval : SessionEvaluator} {id : BufferId}

/-- A command that is bound to no session is still being put together and has this text. -/
def Pends (world : World) (id : BufferId) (text : String) : Prop :=
  world.commands.buffers[id]? = some { session := none, base := text }

theorem outcome_append
    {text : String}
    (pends : world.Pends id text)
    (added : String) :
    (append id added).outcome eval world =
      (.ok (), { world with commands := world.commands.changed id (·.appended added) }) := by
  unfold append
  rw [outcome_bind (run_getBuffer pends Nat.one_pos)]
  rfl

theorem pends_appended {text : String} (pends : world.Pends id text) (added : String) :
    World.Pends { world with commands := world.commands.changed id (·.appended added) } id
      (text ++ added) := by
  unfold Pends
  dsimp only
  rw [CommandTable.getElem?_changed, show world.commands.buffers[id]? = _ from pends]
  rfl

/-- Fragments are added to the text of a command in their order. -/
theorem outcome_mergeAll
    (eval : SessionEvaluator)
    {world : World}
    {text : String}
    (pends : world.Pends id text)
    (fragments : List String) :
    ∃ commands : CommandTable,
      (Expression.mergeAll (.starter id) (fragments.map Draft.fragment)).outcome eval world =
        (.ok (.starter id), { world with commands }) ∧
      World.Pends { world with commands } id (text ++ String.join fragments) := by
  induction fragments generalizing world text with
  | nil => exact ⟨world.commands, rfl, by rwa [String.join_nil, String.append_empty]⟩
  | cons added fragments inductionHypothesis =>
      obtain ⟨commands, merged, pendsThen⟩ :=
        inductionHypothesis (pends_appended pends added)
      refine ⟨commands, ?_, ?_⟩
      · have combined : (Expression.combine (.starter id) (.literal added)).outcome eval world =
            (.ok (.starter id),
              { world with commands := world.commands.changed id (·.appended added) }) := by
          unfold Expression.combine
          rw [outcome_bind (outcome_append pends added)]
          rfl
        rw [List.map_cons]
        unfold Expression.mergeAll
        exact (outcome_bind combined).trans merged
      · rwa [String.join_cons, ← String.append_assoc]

/-- A command has the text of its start, and behind it the fragments. -/
theorem outcome_gather
    (eval : SessionEvaluator)
    (world : World)
    (text : String)
    (fragments : List String) :
    ∃ commands : CommandTable,
      (Expression.gather (.start text) (fragments.map Draft.fragment)).outcome eval world =
        (.ok (.starter world.commands.nextId), { world with commands }) ∧
      World.Pends { world with commands } world.commands.nextId
        (text ++ String.join fragments) := by
  have made : World.Pends
      { world with
        commands := (world.commands.added { session := none, base := text }).noted
          (.made world.commands.nextId none) }
      world.commands.nextId text :=
    Std.TreeMap.getElem?_insert_self
  obtain ⟨commands, merged, pends⟩ := outcome_mergeAll eval made fragments
  exact ⟨commands, merged, pends⟩

/-! ## Reading it -/

section Reading

variable {session : SessionId} {text value : String} {before after : Scene}
  (current : world.current = some session)
  (shows : world.Shows session before)
  (pends : world.Pends id text)
  (yields : before.Yields (eval.script text) value after)

include current shows pends yields

/-- Submitting a pending command evaluates its text in the current session and keeps the value. -/
theorem submitOnce_of_yields :
    ∃ final : World,
      (submitOnce id { session := none, base := text }).outcome eval world =
        (.ok (.ok ()), final) ∧
      final.Shows session (after.withResult value) ∧ final.current = some session ∧
      final.commands.buffers[id]? =
        some { session := none, base := text, invoked := true, result := value } := by
  let closedWorld : World :=
    { world with
      commands := (world.commands.changed id (·.closed)).noted (.sealed id text) }
  have whole : CommandBuffer.text { session := none, base := text } = text :=
    String.append_empty
  have closing : (closeBuffer id text).outcome eval world = (.ok (), closedWorld) :=
    rfl
  have closed : closedWorld.commands.buffers[id]? =
      some { session := none, base := text, invoked := true } := by
    show (world.commands.changed id (·.closed)).buffers[id]? = _
    rw [CommandTable.getElem?_changed, show world.commands.buffers[id]? = _ from pends]
    rfl
  have found : (sessionOf { session := none, base := text }).outcome eval closedWorld =
      (.ok (.ok session), closedWorld) := by
    show (currentSession.run eval).run.run closedWorld = _
    unfold currentSession
    rw [run_get_bind, show closedWorld.current = some session from current]
    rfl
  have showsHere : World.Shows
      { closedWorld with commands := closedWorld.commands.noted (.submitted id session text) }
      session before :=
    ⟨shows.found, shows.cells⟩
  obtain ⟨final, evaluated, finalShows, sameCurrent, sameCommands⟩ :=
    evaluate_of_yields showsHere yields
  have answered : (submitTo id session text).outcome eval closedWorld = (.ok (.ok value), final) :=
    evaluated
  refine ⟨{ final with
      commands := (final.commands.changed id (·.answered value)).noted (.answered id (some value)) },
    ?_, ⟨finalShows.found, finalShows.cells⟩, sameCurrent.trans current, ?_⟩
  · unfold submitOnce
    rw [whole, outcome_bind closing]
    unfold submitSealed
    rw [outcome_bind found]
    dsimp only
    rw [whole, outcome_bind answered]
    rfl
  · show (final.commands.changed id (·.answered value)).buffers[id]? = _
    rw [CommandTable.getElem?_changed, sameCommands]
    show closedWorld.commands.buffers[id]?.map _ = _
    rw [closed]
    rfl

/-- Reading a pending command evaluates its text in the current session. -/
theorem evaluateText_of_yields :
    ∃ final : World,
      (evaluateText id).outcome eval world = (.ok (.ok value), final) ∧
      final.Shows session (after.withResult value) ∧ final.current = some session := by
  have asked : World.Pends { world with commands := world.commands.noted (.asked id) } id text :=
    pends
  obtain ⟨final, submitted, finalShows, sameCurrent, kept⟩ :=
    submitOnce_of_yields
      (show ({ world with commands := world.commands.noted (.asked id) } : World).current =
        some session from current) ⟨shows.found, shows.cells⟩ asked yields
  refine ⟨final, ?_, finalShows, sameCurrent⟩
  have got : (getBuffer id).outcome eval world =
      (.ok { session := none, base := text }, world) :=
    run_getBuffer pends Nat.one_pos
  have evaluated : (evaluateOnce id).outcome eval world = (.ok (.ok ()), final) := by
    unfold evaluateOnce
    rw [outcome_bind got]
    exact submitted
  have read : (readResult id (.ok ())).outcome eval final = (.ok (.ok value), final) :=
    run_readResult kept Nat.one_pos
  unfold evaluateText
  rw [outcome_bind evaluated, read]

end Reading

end World

end ScriptBridge
