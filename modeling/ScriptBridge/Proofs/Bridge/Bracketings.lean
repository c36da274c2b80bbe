import ScriptBridge.Proofs.Bridge.WaitingCommands

/-!
# Bracketings of expressions

Expressions are merged two at a time, and words are put in front of them. However that is bracketed,
the merged expression has the texts of all operands in their order. It is one command if any operand
was one, and only that command is ever submitted.
-/

namespace ScriptBridge

/-! ## Expressions and how they are merged -/

/-- The command of an expression, if it has one. -/
def Expression.starter? : Expression → Option BufferId
  | .starter id => some id
  | .literal _ => none

@[simp] theorem Expression.starter?_starter (id : BufferId) : (starter id).starter? = some id :=
  rfl

/-- The text of an expression in a world. -/
def World.valueOf (world : World) : Expression → String
  | .starter id => (world.commands.buffers[id]?.map CommandBuffer.text).getD ""
  | .literal text => text

/-- How expressions are put together. -/
inductive Bracketing where
  | operand (expression : Expression)
  | minus (left right : Bracketing)
  | prefixed (word : String) (inner : Bracketing)

namespace Bracketing

/-- The values of the operands in their order, with each word and a space in front of its part. -/
def joined (value : Expression → String) : Bracketing → String
  | .operand expression => value expression
  | .minus left right => left.joined value ++ right.joined value
  | .prefixed word inner => word ++ " " ++ inner.joined value

end Bracketing

/-! ## What is built -/

namespace World

/-- An expression that is not submitted yet has this text. -/
def Carries (world : World) (session : SessionId) (text : String) : Expression → Prop
  | .starter id => ∃ buffer, world.Waiting session id buffer ∧ buffer.text = text
  | .literal own => own = text

variable {world : World} {session : SessionId} {eval : SessionEvaluator} {id : BufferId}
  {buffer : CommandBuffer} {commands : CommandTable} {ids : List BufferId}

theorem Carries.beside
    {expression : Expression}
    {text : String}
    (carries : world.Carries session text expression)
    (beside : world.commands.Beside ids commands)
    (apart : ∀ id, expression.starter? = some id → id ∉ ids) :
    World.Carries { world with commands } session text expression := by
  cases expression with
  | literal own => exact carries
  | starter id =>
      obtain ⟨buffer, waiting, whole⟩ := carries
      exact ⟨buffer, waiting.beside beside (apart id rfl), whole⟩

/-- Expressions with these commands have been merged: what they have come to is a text, or the one
command among theirs whose text has not gone to another one. -/
structure Built
    (world : World)
    (session : SessionId)
    (ids : List BufferId)
    (text : String)
    (result : Expression)
    (commands : CommandTable) : Prop where
  carries : World.Carries { world with commands } session text result
  beside : world.commands.Beside ids commands
  isStarter : result.isStarter = !ids.isEmpty
  root : ∀ id, result.starter? = some id → id ∈ ids
  absorbed : ∀ id ∈ ids, result.starter? ≠ some id →
    ∃ receiver text, commands.At id (.absorbed receiver text true)

variable {more all : List BufferId} {text rest : String} {left right result : Expression}
  {first second : CommandTable}

/-- One more step: some of the commands change, and only they may not have been absorbed before. -/
theorem built_of_step
    (before : world.commands.Beside all first)
    (step : first.Beside ids second)
    (inside : ids ⊆ all)
    (absorbed : ∀ id ∈ all, id ∉ ids → ∃ receiver text, first.At id (.absorbed receiver text true))
    (absorbedNow : ∀ id ∈ ids, result.starter? ≠ some id →
      ∃ receiver text, second.At id (.absorbed receiver text true))
    (carries : World.Carries { world with commands := second } session text result)
    (isStarter : result.isStarter = !all.isEmpty)
    (root : ∀ id, result.starter? = some id → id ∈ all) :
    world.Built session all text result second where
  carries := carries
  beside := before.trans (step.mono inside)
  isStarter := isStarter
  root := root
  absorbed id member notRoot := by
    by_cases here : id ∈ ids
    · exact absorbedNow id here notRoot
    · obtain ⟨receiver, text, place⟩ := absorbed id member here
      exact ⟨receiver, text, step.places id here _ place⟩

/-- The text of the one command that has not been absorbed is changed. -/
theorem built_of_rewritten
    {change : CommandBuffer → CommandBuffer}
    (before : world.commands.Beside all first)
    (absorbed : ∀ other ∈ all, other ≠ id →
      ∃ receiver text, first.At other (.absorbed receiver text true))
    (member : id ∈ all)
    (waiting : World.Waiting { world with commands := first } session id buffer)
    (kept : buffer.Kept (change buffer))
    (whole : (change buffer).text = text)
    (sameSession : (change buffer).session = buffer.session)
    (sameSuffix : (change buffer).suffix = buffer.suffix) :
    world.Built session all text (.starter id) (first.changed id change) := by
  have here : id ∈ [id] := List.mem_singleton_self id
  have waitingThen := waiting.rewritten kept sameSession sameSuffix
  have some : all.isEmpty = false := by
    rw [List.isEmpty_eq_false_iff]
    exact List.ne_nil_of_mem member
  apply built_of_step before (.changed here change)
  · simpa using member
  · intro other inAll apart
    exact absorbed other inAll (by simpa using apart)
  · intro other inHere notRoot
    obtain rfl := List.mem_singleton.mp inHere
    exact absurd rfl notRoot
  · exact ⟨change buffer, waitingThen, whole⟩
  · rw [some]
    rfl
  · intro root isRoot
    obtain rfl := Option.some.inj isRoot
    exact member

namespace Built

/-- The right expression is built behind the left one. -/
theorem both
    (built : world.Built session ids text left first)
    (builtToo : World.Built { world with commands := first } session more rest right second)
    (disjoint : ids.Disjoint more) :
    World.Carries { world with commands := second } session text left ∧
      world.commands.Beside (ids ++ more) second ∧
      ∀ id ∈ ids ++ more, left.starter? ≠ some id → right.starter? ≠ some id →
        ∃ receiver text, second.At id (.absorbed receiver text true) := by
  refine ⟨?_, ?_, ?_⟩
  · exact built.carries.beside builtToo.beside fun id isRoot => disjoint (built.root id isRoot)
  · exact (built.beside.mono (List.subset_append_left _ _)).trans
      (builtToo.beside.mono (List.subset_append_right _ _))
  · intro id member notLeft notRight
    rcases List.mem_append.mp member with inLeft | inRight
    · obtain ⟨receiver, text, place⟩ := built.absorbed id inLeft notLeft
      exact ⟨receiver, text, builtToo.beside.places id (disjoint inLeft) _ place⟩
    · exact builtToo.absorbed id inRight notRight

end Built

theorem Built.prepended
    (built : world.Built session ids text (.starter id) first)
    (eval : SessionEvaluator)
    (word : String) :
    (prepend id word).outcome eval { world with commands := first } =
        (.ok (), { world with commands := first.changed id (·.prepended word) }) ∧
      world.Built session ids (word ++ text) (.starter id)
        (first.changed id (·.prepended word)) := by
  obtain ⟨buffer, waiting, rfl⟩ := built.carries
  obtain ⟨whole, sameSession, sameSuffix⟩ := waiting.text_prepended word
  have apart : ∀ other ∈ ids, other ≠ id →
      ∃ receiver text, first.At other (.absorbed receiver text true) :=
    fun other inside differs => built.absorbed other inside (by simpa using differs.symm)
  exact ⟨outcome_prepend_of_waiting waiting word,
    built_of_rewritten built.beside apart (built.root id rfl) waiting
      (CommandBuffer.kept_prepended word) whole sameSession sameSuffix⟩

end World

/-! ## Main statement -/

/-- Reads an expression and then drops it. -/
def Expression.readOut (expression : Expression) : WorldAction (Except Failure String) := do
  let answer ← expression.text
  expression.drop
  return answer

/-- Every command has come to one of its stages. -/
def World.Orderly (world : World) : Prop :=
  ∀ id, ∃ stage, world.commands.At id stage

/-- An expression that has not been submitted: a text, or a command with an owner and without a
suffix that will go to this session. -/
def World.IsPending (world : World) (session : SessionId) : Expression → Prop
  | .literal _ => True
  | .starter id => ∃ buffer, world.commands.buffers[id]? = some buffer ∧
      buffer.invoked = false ∧ 0 < buffer.owners ∧ buffer.suffix = "" ∧
      buffer.session.or world.current = some session

namespace World

variable {world : World} {session : SessionId} {operand : Expression}

theorem IsPending.carries
    (pending : world.IsPending session operand)
    (orderly : world.Orderly) :
    world.Carries session (world.valueOf operand) operand := by
  cases operand with
  | literal own => rfl
  | starter id =>
      obtain ⟨buffer, found, notInvoked, owned, noSuffix, reaches⟩ := pending
      obtain ⟨stage, place⟩ := orderly id
      obtain ⟨parts, rfl, -⟩ := Stage.pending_of_fits (place.fits_some found) place.waits notInvoked
        owned
      refine ⟨buffer, ⟨found, ⟨parts, place⟩, noSuffix, reaches⟩, ?_⟩
      simp [valueOf, found]

/-- The value of an expression is its text, and looking at it submits nothing. -/
theorem Carries.value
    {text : String}
    (carries : world.Carries session text operand)
    (eval : SessionEvaluator) :
    ∃ commands, operand.value.outcome eval world = (.ok text, { world with commands }) ∧
      ∀ id, commands.submissions id = world.commands.submissions id := by
  cases operand with
  | literal own =>
      obtain rfl : own = text := carries
      exact ⟨world.commands, rfl, fun _ => rfl⟩
  | starter id =>
      obtain ⟨buffer, waiting, rfl⟩ := carries
      refine ⟨world.commands, ?_, fun _ => rfl⟩
      unfold Expression.value commandText
      rw [outcome_bind (outcome_getBuffer waiting)]
      rfl

theorem keeps_readOut
    {conduct : Conduct World}
    {eval : SessionEvaluator}
    (laws : conduct.AllowsCommands eval)
    (expression : Expression) :
    conduct.Keeps (expression.readOut.run eval) := by
  cases expression with
  | literal text => exact Conduct.keeps_return _
  | starter id =>
      apply Conduct.keeps_andThen (laws.evaluateText id)
      intro answer
      exact Conduct.keeps_andThen (laws.release id) fun _ => Conduct.keeps_return _

/-- Of the commands that were merged, only the one that is left over is submitted when it is read, and
it is submitted once, with the whole text. -/
theorem Built.readOut
    {ids : List BufferId}
    {text : String}
    {root : BufferId}
    {commands : CommandTable}
    (built : world.Built session ids text (.starter root) commands)
    (fuel : Nat) :
    let after := ((Expression.starter root).readOut.outcome (Session.evaluatorOf fuel)
      { world with commands }).2
    after.Sent root session text ∧
      ∀ id ∈ ids, after.commands.submissions id = if id = root then 1 else 0 := by
  intro after
  have runs (id : BufferId) := (Conduct.life_allowsHosts id).runs fuel
  have sent : after.Sent root session text := by
    obtain ⟨buffer, waiting, rfl⟩ := built.carries
    apply sent_andThen (waiting.sent_evaluateText (runs root))
    intro answer
    exact Conduct.keeps_andThen (Conduct.life_release (runs root)) fun _ => Conduct.keeps_return _
  refine ⟨sent, ?_⟩
  intro id member
  by_cases isRoot : id = root
  · subst isRoot
    rw [if_pos rfl]
    exact sent.submissions.1
  · rw [if_neg isRoot]
    obtain ⟨receiver, given, place⟩ := built.absorbed id member (by simpa using Ne.symm isRoot)
    have keeps := keeps_readOut (Conduct.life_allowsCommands (runs id)) (.starter root)
    have stays := at_outcome { world with commands } keeps place not_false
    exact stays.life.submissions_eq

end World

end ScriptBridge
