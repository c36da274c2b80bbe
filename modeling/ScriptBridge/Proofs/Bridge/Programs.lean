import ScriptBridge.Proofs.Bridge.TextCopies

/-!
# What host programs do to the world

Each request of a program keeps to a conduct that allows what hosts do with sessions and with
commands. So do whole programs, by induction on the program, and so do the callbacks in the midst of
evaluations, by induction on the fuel.
-/

namespace ScriptBridge

/-- The command that an event is about, unless it also concerns another one or makes it. -/
def CommandEvent.subject? : CommandEvent → Option BufferId
  | .made _ _ | .absorbed _ _ _ _ => none
  | .looked id _ | .asked id | .left id | .dropped id _ _ | .sealed id _ | .stranded id
  | .submitted id _ _ | .answered id _ | .evaluated id | .reread id _ | .released id _ _ => some id

/-! ## Looking for commands -/

namespace World

variable {eval : SessionEvaluator} {world after : World} {id : BufferId} {buffer : CommandBuffer}

theorem run_peekBuffer (found : world.commands.buffers[id]? = some buffer) :
    ((peekBuffer id).run eval).run.run world = (.ok buffer, world) := by
  unfold peekBuffer
  rw [run_get_bind, found]
  rfl

theorem run_peekBuffer_none (missing : world.commands.buffers[id]? = none) :
    ((peekBuffer id).run eval).run.run world = (.error .unfinished, world) := by
  unfold peekBuffer
  rw [run_get_bind, missing]
  rfl

/-- Looking for a command with an owner changes nothing. -/
theorem eq_of_run_getBuffer
    (ran : ((getBuffer id).run eval).run.run world = (.ok buffer, after)) :
    after = world ∧ world.commands.buffers[id]? = some buffer ∧ 0 < buffer.owners := by
  unfold getBuffer at ran
  rw [ReaderT.run_bind, Conduct.run_bind] at ran
  cases found : world.commands.buffers[id]? with
  | none =>
      rw [run_peekBuffer_none found] at ran
      cases ran
  | some there =>
      rw [run_peekBuffer found] at ran
      dsimp only at ran
      split at ran
      · rename_i owned
        cases ran
        exact ⟨rfl, rfl, owned⟩
      · cases ran

theorem run_getBuffer
    (found : world.commands.buffers[id]? = some buffer)
    (owned : 0 < buffer.owners) :
    ((getBuffer id).run eval).run.run world = (.ok buffer, world) := by
  unfold getBuffer
  rw [ReaderT.run_bind, Conduct.run_bind, run_peekBuffer found]
  dsimp only
  rw [if_pos owned]
  rfl

end World

namespace Conduct

variable {conduct : Conduct World} {eval : SessionEvaluator} {α β : Type}

/-! ## Actions of the host -/

/-- A part of an action of the host, with what follows it. -/
theorem keeps_andThen
    {action : WorldAction α}
    {next : α → WorldAction β}
    (first : conduct.Keeps (action.run eval))
    (second : ∀ value, conduct.Keeps ((next value).run eval)) :
    conduct.Keeps ((action >>= next).run eval) := by
  rw [ReaderT.run_bind]
  exact keeps_bind first second

/-- What follows a part of an action starts where that has ended. -/
theorem keepsFrom_andThen
    {world : World}
    {action : WorldAction α}
    {next : α → WorldAction β}
    (first : conduct.KeepsFrom world (action.run eval))
    (second : ∀ value after, (action.run eval).run.run world = (.ok value, after) →
      conduct.KeepsFrom after ((next value).run eval)) :
    conduct.KeepsFrom world ((action >>= next).run eval) := by
  rw [ReaderT.run_bind]
  exact keepsFrom_bind first second

theorem keeps_return (value : α) :
    conduct.Keeps ((pure value : WorldAction α).run eval) :=
  keeps_pure value

theorem keeps_stuck :
    conduct.Keeps ((throw .unfinished : WorldAction α).run eval) :=
  keeps_throw Unfinished.unfinished

theorem keeps_look : conduct.Keeps ((get : WorldAction World).run eval) :=
  keeps_get

theorem keeps_alter
    {change : World → World}
    (allowed : ∀ world, conduct.allows true world (change world)) :
    conduct.Keeps ((modify change : WorldAction PUnit).run eval) :=
  keeps_modify allowed

theorem keeps_ignored
    {action : WorldAction α}
    (keeps : conduct.Keeps (action.run eval)) :
    conduct.Keeps ((discard action : WorldAction PUnit).run eval) := by
  show conduct.Keeps (((fun _ => PUnit.unit) <$> action).run eval)
  rw [ReaderT.run_map]
  exact keeps_map _ keeps

theorem keeps_always
    {action : WorldAction α}
    (keeps : conduct.Keeps (action.run eval)) :
    conduct.Keeps ((World.always action).run eval) := by
  unfold World.always
  rw [ReaderT.run_map]
  exact keeps_map _ keeps

namespace AllowsPlainHosts

variable (laws : conduct.AllowsPlainHosts)

include laws

theorem keeps_install (id : SessionId) : conduct.Keeps ((World.install id).run eval) := by
  unfold World.install
  apply keeps_andThen keeps_look
  intro world
  dsimp only
  apply keeps_andThen
  · exact keeps_alter fun world => laws.quiet rfl rfl rfl rfl
  · intro _
    exact keeps_return _

variable (runs : conduct.atWork.Runs eval)

include runs

theorem keeps_openSession (access : InterpAccess) (settings : Settings) :
    conduct.Keeps ((World.openSession access settings).run eval) := by
  unfold World.openSession
  split
  · exact keeps_return _
  · rename_i valid
    apply keeps_andThen keeps_look
    intro world
    apply keeps_andThen
    · exact keeps_alter fun world => laws.opened world access settings _ valid
    · intro _
      apply keeps_andThen (keeps_inSession (laws.within.keeps_submitted runs _) _)
      intro outcome
      split
      · exact keeps_return _
      · exact keeps_return _

theorem keeps_currentSession : conduct.Keeps (World.currentSession.run eval) := by
  unfold World.currentSession
  apply keeps_andThen keeps_look
  intro world
  split
  · exact keeps_return _
  · apply keeps_andThen keeps_look
    intro world
    apply keeps_andThen (laws.keeps_openSession runs _ _)
    intro outcome
    split
    · apply keeps_andThen (keeps_ignored (laws.keeps_install _))
      intro _
      exact keeps_return _
    · exact keeps_return _

theorem keeps_sessionOf (buffer : CommandBuffer) :
    conduct.Keeps ((World.sessionOf buffer).run eval) := by
  unfold World.sessionOf
  split
  · exact keeps_return _
  · exact laws.keeps_currentSession runs

end AllowsPlainHosts

namespace AllowsSessions

variable (laws : conduct.AllowsSessions)

include laws

theorem keeps_endFailure (failure : Failure) :
    conduct.Keeps ((World.dropFailure failure).run eval) := by
  unfold World.dropFailure
  split
  · exact keeps_inSession (laws.failing.keeps_dropFailure failure) _
  · exact keeps_return ()

theorem keeps_receive (failures : List Failure) :
    conduct.Keeps ((World.receive failures).run eval) :=
  keeps_alter fun world => laws.holding world world.kept _

theorem keeps_letGo (failure : Failure) : conduct.Keeps ((World.letGo failure).run eval) :=
  keeps_alter fun world => laws.holding world world.kept _

theorem keeps_keep (failure : Failure) : conduct.Keeps ((World.keep failure).run eval) :=
  keeps_andThen (laws.keeps_letGo failure) fun _ =>
    keeps_alter fun world => laws.holding world _ world.held

theorem keeps_takeKept (index : Nat) : conduct.Keeps ((World.takeKept index).run eval) := by
  unfold World.takeKept
  apply keeps_andThen keeps_look
  intro world
  apply keeps_andThen (keeps_alter fun world => laws.holding world _ world.held)
  intro _
  exact keeps_andThen (laws.keeps_receive _) fun _ => keeps_return _

theorem keeps_detach (failure : Failure) : conduct.Keeps ((World.detach failure).run eval) :=
  keeps_andThen (laws.keeps_endFailure failure) fun _ => keeps_return _

theorem keeps_endFailures (failures : List Failure) :
    conduct.Keeps ((World.dropFailures failures).run eval) := by
  induction failures with
  | nil => exact keeps_return ()
  | cons failure failures inductionHypothesis =>
      apply keeps_andThen (laws.keeps_letGo failure)
      intro _
      exact keeps_andThen (laws.keeps_endFailure failure) fun _ => inductionHypothesis

variable (runs : conduct.atWork.Runs eval)

include runs

theorem keeps_unregisterHandle (handle : CallbackHandle) :
    conduct.Keeps ((World.unregisterHandle handle).run eval) :=
  keeps_inSession (laws.keeps_unregister runs _) _

theorem keeps_dropHandle (handle : CallbackHandle) :
    conduct.Keeps ((World.dropHandle handle).run eval) := by
  apply keeps_andThen (laws.keeps_unregisterHandle runs handle)
  intro outcome
  cases outcome with
  | ok _ => exact keeps_return ()
  | error failure => exact laws.keeps_endFailure failure

theorem keeps_inSession_evaluate (id : SessionId) (script : String) :
    conduct.Keeps
      ((World.inSession id fun eval => Session.evaluate eval script).run eval) :=
  keeps_inSession (laws.keeps_evaluate runs script) id

end AllowsSessions

/-! ## Requests -/

/-- What a conduct has to allow if all that hosts do with commands is to keep to it. -/
structure AllowsCommands (conduct : Conduct World) (eval : SessionEvaluator) : Prop where
  newBuffer : ∀ session base suffix,
    conduct.Keeps ((World.newBuffer { session, base, suffix }).run eval)
  append : ∀ id text, conduct.Keeps ((World.append id text).run eval)
  prepend : ∀ id text, conduct.Keeps ((World.prepend id text).run eval)
  absorb : ∀ id other, conduct.Keeps ((World.absorb id other).run eval)
  evaluateText : ∀ id, conduct.Keeps ((World.evaluateText id).run eval)
  share : ∀ id, conduct.Keeps ((World.share id).run eval)
  release : ∀ id, conduct.Keeps ((World.release id).run eval)
  lookAt : ∀ id, conduct.Keeps ((World.lookAtCommand id).run eval)
  ask : ∀ id, conduct.Keeps ((World.askCommand id).run eval)
  read : ∀ id, conduct.Keeps ((World.readCommand id).run eval)
  leave : ∀ id, conduct.Keeps ((World.leaveCommand id).run eval)

/-- What a conduct has to allow if host programs are to keep to it. -/
structure AllowsHosts (conduct : Conduct World) : Prop where
  sessions : conduct.AllowsSessions
  commands : ∀ eval, conduct.atWork.Runs eval → conduct.AllowsCommands eval
  calls : conduct.atWork.AllowsCalls
  nesting : conduct.atWork.AllowsNesting

theorem keeps_peekBuffer (id : BufferId) :
    conduct.Keeps ((World.peekBuffer id).run eval) := by
  unfold World.peekBuffer
  apply keeps_andThen keeps_look
  intro world
  split
  · exact keeps_return _
  · exact keeps_stuck

theorem keeps_getBuffer (id : BufferId) :
    conduct.Keeps ((World.getBuffer id).run eval) := by
  unfold World.getBuffer
  apply keeps_andThen (keeps_peekBuffer id)
  intro buffer
  split
  · exact keeps_return _
  · exact keeps_stuck

theorem keeps_commandText (id : BufferId) :
    conduct.Keeps ((World.commandText id).run eval) :=
  keeps_andThen (keeps_getBuffer id) fun _ => keeps_return _

theorem keeps_readResult (id : BufferId) (outcome : Except Failure Unit) :
    conduct.Keeps ((World.readResult id outcome).run eval) := by
  cases outcome with
  | error failure => exact keeps_return _
  | ok _ => exact keeps_andThen (keeps_getBuffer id) fun _ => keeps_return _

theorem keeps_failuresAlive (session : SessionId) :
    conduct.Keeps ((World.failuresAlive session).run eval) := by
  unfold World.failuresAlive
  apply keeps_andThen keeps_look
  intro world
  split
  · exact keeps_return _
  · exact keeps_return _

theorem keeps_failuresOf (buffer : CommandBuffer) :
    conduct.Keeps ((World.failuresOf buffer).run eval) := by
  unfold World.failuresOf
  split
  · exact keeps_failuresAlive _
  · exact keeps_return 0

/-! ## What happens to one command -/

/-- What a conduct has to allow if all that hosts do with one command is to keep to it. -/
structure AllowsChanges (conduct : Conduct World) (id : BufferId) : Prop where
  changed : ∀ (world : World) change,
    conduct.allows true world { world with commands := world.commands.changed id change }
  noted : ∀ (world : World) event, event.subject? = some id →
    conduct.allows true world { world with commands := world.commands.noted event }
  removed : ∀ world : World,
    conduct.allows true world { world with commands := world.commands.removed id }

namespace AllowsChanges

variable {id : BufferId} (changes : conduct.AllowsChanges id)

include changes

theorem keeps_modifyBuffer (change : CommandBuffer → CommandBuffer) :
    conduct.Keeps ((World.modifyBuffer id change).run eval) :=
  keeps_alter fun world => changes.changed world change

theorem keeps_note
    {event : CommandEvent}
    (about : event.subject? = some id) :
    conduct.Keeps ((World.note event).run eval) :=
  keeps_alter fun world => changes.noted world event about

/-- A change of the command that leaves an event behind it. -/
theorem keeps_changed_noted
    (change : CommandBuffer → CommandBuffer)
    {event : CommandEvent}
    (about : event.subject? = some id) :
    conduct.Keeps
      ((World.modifyCommands fun table => (table.changed id change).noted event).run eval) :=
  keeps_alter fun world => conduct.after (changes.changed world change) (changes.noted _ event about)

theorem keeps_lookAtCommand : conduct.Keeps ((World.lookAtCommand id).run eval) := by
  apply keeps_andThen (keeps_commandText id)
  intro text
  exact keeps_andThen (changes.keeps_note rfl) fun _ => keeps_return _

theorem keeps_append (text : String) : conduct.Keeps ((World.append id text).run eval) :=
  keeps_andThen (keeps_getBuffer id) fun _ => changes.keeps_modifyBuffer _

theorem keeps_prepend (text : String) : conduct.Keeps ((World.prepend id text).run eval) :=
  keeps_andThen (keeps_getBuffer id) fun _ => changes.keeps_modifyBuffer _

theorem keeps_share : conduct.Keeps ((World.share id).run eval) :=
  keeps_andThen (keeps_getBuffer id) fun _ => changes.keeps_modifyBuffer _

theorem keeps_absorb
    {other : BufferId}
    (ofOther : conduct.AllowsChanges other)
    (absorbed : ∀ (world : World) text taken, conduct.allows true world
      { world with commands := world.commands.noted (.absorbed other id text taken) }) :
    conduct.Keeps ((World.absorb id other).run eval) := by
  unfold World.absorb
  apply keeps_andThen (keeps_getBuffer id)
  intro buffer
  apply keeps_andThen (keeps_getBuffer other)
  intro donor
  split
  · exact keeps_return ()
  · apply keeps_alter
    intro world
    apply conduct.after (ofOther.changed world (·.closed))
    exact conduct.after (changes.changed _ (·.appended donor.text)) (absorbed _ _ _)

/-! ## Submission -/

theorem keeps_answer (answer : Except Failure String) :
    conduct.Keeps ((World.keepAnswer id answer).run eval) := by
  cases answer with
  | error failure => exact keeps_andThen (changes.keeps_note rfl) fun _ => keeps_return _
  | ok result => exact keeps_andThen (changes.keeps_changed_noted _ rfl) fun _ => keeps_return _

theorem keeps_noteReread (invoked : Bool) (answer : Except Failure String) :
    conduct.Keeps ((World.noteReread id invoked answer).run eval) := by
  unfold World.noteReread
  split
  · exact changes.keeps_note rfl
  · exact keeps_return ()

theorem keeps_noteReleased (buffer : CommandBuffer) (failures : Nat) :
    conduct.Keeps ((World.noteReleased id buffer failures).run eval) := by
  unfold World.noteReleased
  split
  · exact changes.keeps_note rfl
  · exact keeps_return ()

variable (laws : conduct.AllowsSessions) (runs : conduct.atWork.Runs eval)

include laws runs

theorem keeps_submitSealed (buffer : CommandBuffer) :
    conduct.Keeps ((World.submitSealed id buffer).run eval) := by
  unfold World.submitSealed
  apply keeps_andThen (laws.keeps_sessionOf runs buffer)
  intro found
  split
  · exact keeps_andThen (changes.keeps_note rfl) fun _ => keeps_return _
  · apply keeps_andThen
    · exact keeps_andThen (changes.keeps_note rfl) fun _ =>
        laws.keeps_inSession_evaluate runs _ _
    · intro answer
      exact changes.keeps_answer answer

theorem keeps_submitOnce (buffer : CommandBuffer) :
    conduct.Keeps ((World.submitOnce id buffer).run eval) :=
  keeps_andThen (changes.keeps_changed_noted _ rfl) fun _ =>
    changes.keeps_submitSealed laws runs buffer

theorem keeps_evaluateOnce : conduct.Keeps ((World.evaluateOnce id).run eval) := by
  unfold World.evaluateOnce
  apply keeps_andThen (keeps_getBuffer id)
  intro buffer
  apply keeps_andThen (changes.keeps_note rfl)
  intro _
  split
  · exact keeps_return _
  · exact changes.keeps_submitOnce laws runs buffer

theorem keeps_evaluateText : conduct.Keeps ((World.evaluateText id).run eval) :=
  keeps_andThen (changes.keeps_evaluateOnce laws runs) fun outcome => keeps_readResult id outcome

/-! ## Owners -/

theorem keeps_submitUnread (session : SessionId) :
    conduct.Keeps ((World.submitUnread id session).run eval) := by
  unfold World.submitUnread
  apply keeps_andThen (keeps_peekBuffer id)
  intro buffer
  apply keeps_andThen (keeps_failuresAlive session)
  intro failures
  apply keeps_andThen (changes.keeps_note rfl)
  intro _
  split
  · exact keeps_return ()
  · apply keeps_andThen (changes.keeps_submitOnce laws runs buffer)
    intro outcome
    split
    · exact keeps_return ()
    · apply keeps_andThen (laws.keeps_endFailure _)
      intro _
      exact keeps_inSession (laws.failing.keeps_recordDeferred _) session

theorem keeps_giveUp (buffer : CommandBuffer) :
    conduct.Keeps ((World.giveUp id buffer).run eval) := by
  unfold World.giveUp
  split
  · exact keeps_andThen (keeps_failuresOf buffer) fun _ => changes.keeps_note rfl
  · apply keeps_andThen (laws.keeps_sessionOf runs buffer)
    intro found
    split
    · exact changes.keeps_submitUnread laws runs _
    · exact keeps_andThen (changes.keeps_note rfl) fun _ => laws.keeps_endFailure _

theorem keeps_release : conduct.Keeps ((World.release id).run eval) := by
  unfold World.release
  apply keeps_andThen (keeps_getBuffer id)
  intro buffer
  split
  · exact changes.keeps_modifyBuffer _
  · apply keeps_andThen (changes.keeps_changed_noted _ rfl)
    intro _
    apply keeps_andThen (changes.keeps_giveUp laws runs buffer)
    intro _
    exact keeps_alter changes.removed

/-! ## Requests that are noted -/

theorem keeps_askCommand : conduct.Keeps ((World.askCommand id).run eval) := by
  apply keeps_andThen (changes.keeps_evaluateOnce laws runs)
  intro outcome
  exact keeps_andThen (changes.keeps_note rfl) fun _ => keeps_return _

theorem keeps_readCommand : conduct.Keeps ((World.readCommand id).run eval) := by
  apply keeps_andThen (keeps_getBuffer id)
  intro buffer
  apply keeps_andThen (changes.keeps_evaluateText laws runs)
  intro answer
  apply keeps_andThen (changes.keeps_note rfl)
  intro _
  exact keeps_andThen (changes.keeps_noteReread _ _) fun _ => keeps_return _

theorem keeps_leaveCommand : conduct.Keeps ((World.leaveCommand id).run eval) := by
  apply keeps_andThen (keeps_getBuffer id)
  intro buffer
  apply keeps_andThen (keeps_failuresOf buffer)
  intro failures
  apply keeps_andThen (changes.keeps_release laws runs)
  intro _
  exact changes.keeps_noteReleased buffer failures

end AllowsChanges

/-- What hosts do with commands keeps to what the changes of each command keep to. -/
theorem allowsCommands_of_changes
    (laws : conduct.AllowsSessions)
    (changes : ∀ id, conduct.AllowsChanges id)
    (added : ∀ (world : World) buffer event, conduct.allows true world
      { world with commands := (world.commands.added buffer).noted event })
    (noted : ∀ (world : World) event,
      conduct.allows true world { world with commands := world.commands.noted event })
    (runs : conduct.atWork.Runs eval) :
    conduct.AllowsCommands eval where
  newBuffer session base suffix := by
    apply keeps_andThen keeps_look
    intro world
    exact keeps_andThen (keeps_alter fun world => added world _ _) fun _ => keeps_return _
  append id := (changes id).keeps_append
  prepend id := (changes id).keeps_prepend
  absorb id other := (changes id).keeps_absorb (changes other) fun world _ _ => noted world _
  evaluateText id := (changes id).keeps_evaluateText laws runs
  share id := (changes id).keeps_share
  release id := (changes id).keeps_release laws runs
  lookAt id := (changes id).keeps_lookAtCommand
  ask id := (changes id).keeps_askCommand laws runs
  read id := (changes id).keeps_readCommand laws runs
  leave id := (changes id).keeps_leaveCommand laws runs

/-- What hosts do with commands keeps to every conduct that does not look at commands. -/
theorem allowsCommands_of_indifferent
    (laws : conduct.AllowsSessions)
    (indifferent : ∀ (world : World) commands, conduct.allows true world { world with commands })
    (runs : conduct.atWork.Runs eval) :
    conduct.AllowsCommands eval :=
  have changes (id : BufferId) : conduct.AllowsChanges id :=
    { changed := fun world _ => indifferent world _
      noted := fun world _ _ => indifferent world _
      removed := fun world => indifferent world _ }
  allowsCommands_of_changes laws changes (fun world _ _ => indifferent world _)
    (fun world _ => indifferent world _) runs

/-- What programs do keeps a property that does not look at commands and callbacks. -/
theorem everySession_allowsHosts
    {property : OpenSession → Prop}
    (sessions : (everySession property).AllowsSessions)
    (untouched : (everySession property).atWork.AllowsUntouched)
    (nesting : (everySession property).atWork.AllowsNesting) :
    (everySession property).AllowsHosts where
  sessions := sessions
  commands _ runs := allowsCommands_of_indifferent sessions (fun _ _ => id) runs
  calls := untouched.allowsCalls
  nesting := nesting

section Recorded

variable {property : WidgetTable → EventQueue → Prop}

theorem recorded_of_changes
    {widgets widgetsAfter : WidgetTable}
    {queue queueAfter : EventQueue}
    (ofWidgets : ∀ {before after queue}, WidgetTable.Change before after →
      property before queue → property after queue)
    (ofQueue : ∀ {widgets before after}, EventQueue.Change before after →
      property widgets before → property widgets after)
    (changed : widgets.Changes widgetsAfter)
    (changedQueue : queue.Changes queueAfter)
    (holds : property widgets queue) :
    property widgetsAfter queueAfter := by
  have there : property widgetsAfter queue := by
    induction changed with
    | refl => exact holds
    | tail _ change inductionHypothesis => exact ofWidgets change inductionHypothesis
  induction changedQueue with
  | refl => exact there
  | tail _ change inductionHypothesis => exact ofQueue change inductionHypothesis

/-- Programs keep what is true of new widgets and of an empty queue and stays true with each of their
changes. -/
theorem recorded_allowsHosts
    (initial : property .initial {})
    (ofWidgets : ∀ {before after queue}, WidgetTable.Change before after →
      property before queue → property after queue)
    (ofQueue : ∀ {widgets before after}, EventQueue.Change before after →
      property widgets before → property widgets after) :
    (everySession fun session =>
      property session.interp.widgets session.interp.queue).AllowsHosts := by
  let conduct := everySession fun session => property session.interp.widgets session.interp.queue
  have untouched : conduct.atWork.AllowsUntouched := by
    intro before after untouched
    apply everySession_atWork untouched.running
    · rw [untouched.shared]
    · exact recorded_of_changes ofWidgets ofQueue untouched.widgets untouched.queue
  have failing : conduct.atWork.AllowsFailing := fun _ _ _ => everySession_atWork rfl rfl id
  have linking : conduct.atWork.AllowsLinking :=
    { stores := fun _ => everySession_atWork rfl rfl id
      names := fun _ _ => everySession_atWork rfl rfl id }
  have sessions : conduct.AllowsSessions :=
    everySession_allowsSessions untouched failing (fun _ _ _ _ => initial)
      (linking.keeps_link failing) (linking.allowsGuards failing)
  exact everySession_allowsHosts sessions untouched
    (everySession_allowsNesting (fun _ _ => id) fun _ _ => id)

end Recorded

namespace AllowsCommands

variable (laws : conduct.AllowsCommands eval)

include laws

theorem keeps_combine (left right : Expression) :
    conduct.Keeps ((Expression.combine left right).run eval) := by
  cases left with
  | starter buffer =>
      cases right with
      | starter other =>
          apply keeps_andThen (laws.absorb buffer other)
          intro _
          exact keeps_andThen (laws.release other) fun _ => keeps_return _
      | literal text => exact keeps_andThen (laws.append buffer text) fun _ => keeps_return _
  | literal text =>
      cases right with
      | starter buffer => exact keeps_andThen (laws.prepend buffer text) fun _ => keeps_return _
      | literal other => exact keeps_return _

theorem keeps_prefixed (word : String) (expression : Expression) :
    conduct.Keeps ((Expression.prefixed word expression).run eval) := by
  cases expression with
  | starter buffer =>
      apply keeps_andThen (laws.prepend buffer " ")
      intro _
      exact keeps_andThen (laws.prepend buffer word) fun _ => keeps_return _
  | literal text => exact keeps_return _

end AllowsCommands

namespace AllowsHosts

variable (laws : conduct.AllowsHosts) (runs : conduct.atWork.Runs eval)

include laws runs

theorem keeps_answer (request : Request) :
    conduct.Keeps ((World.answer request).run eval) := by
  have sessions := laws.sessions
  have commands := laws.commands eval runs
  cases request with
  | openSession access settings => exact sessions.keeps_openSession runs access settings
  | install session => exact keeps_always (sessions.keeps_install session)
  | currentSession => exact sessions.keeps_currentSession runs
  | evaluate session script => exact keeps_inSession (sessions.keeps_evaluate runs script) session
  | lastResult session =>
      exact keeps_always (keeps_inSession (keeps_bind keeps_getInterp fun _ => keeps_pure _) session)
  | setResult session value =>
      exact keeps_always (keeps_inSession (sessions.within.scripts.keeps_setResult value) session)
  | takeDeferred session =>
      exact keeps_always (keeps_inSession sessions.failing.keeps_takeDeferred session)
  | takeOutput session =>
      exact keeps_always (keeps_inSession sessions.within.keeps_takeOutput session)
  | setDump session dump =>
      exact keeps_always (keeps_inSession (sessions.within.keeps_setDump dump) session)
  | inError session =>
      exact keeps_always
        (keeps_inSession (keeps_bind keeps_getState fun _ => keeps_pure _) session)
  | runLoop session =>
      exact keeps_always (keeps_inSession (sessions.within.keeps_runLoop runs) session)
  | newCommand session text suffix => exact keeps_always (commands.newBuffer session text suffix)
  | append command text => exact keeps_always (commands.append command text)
  | prepend command text => exact keeps_always (commands.prepend command text)
  | absorb command other => exact keeps_always (commands.absorb command other)
  | commandText command => exact keeps_always (commands.lookAt command)
  | isInvoked command =>
      exact keeps_always (keeps_andThen (keeps_getBuffer command) fun _ => keeps_return _)
  | evaluateOnce command => exact commands.ask command
  | evaluateText command => exact commands.read command
  | share command => exact keeps_always (commands.share command)
  | release command => exact keeps_always (commands.leave command)
  | combine left right => exact keeps_always (commands.keeps_combine left right)
  | prefixed word expression => exact keeps_always (commands.keeps_prefixed word expression)
  | unregister session name => exact keeps_inSession (sessions.keeps_unregister runs name) session
  | unregisterHandle handle => exact sessions.keeps_unregisterHandle runs handle
  | dropHandle handle => exact keeps_always (sessions.keeps_dropHandle runs handle)
  | link session target => exact keeps_inSession (sessions.linked target) session
  | linkScoped session target => exact keeps_inSession (sessions.guards.made target) session
  | unlink session target =>
      exact keeps_always (keeps_inSession (sessions.guards.unlinked target) session)
  | dropGuard linkGuard =>
      exact keeps_always (keeps_inSession (sessions.guards.dropped linkGuard) _)
  | syncToHost session =>
      exact keeps_always (keeps_inSession sessions.within.keeps_syncToHost session)
  | syncToInterpreter session =>
      exact keeps_always (keeps_inSession sessions.within.keeps_syncToInterpreter session)
  | getInt id => exact keeps_always (keeps_andThen keeps_look fun _ => keeps_return _)
  | setInt id value => exact keeps_always (keeps_alter fun _ => sessions.quiet rfl rfl rfl rfl)
  | getFloat id => exact keeps_always (keeps_andThen keeps_look fun _ => keeps_return _)
  | setFloat id value => exact keeps_always (keeps_alter fun _ => sessions.quiet rfl rfl rfl rfl)
  | getText id => exact keeps_always (keeps_andThen keeps_look fun _ => keeps_return _)
  | setText id value => exact keeps_always (keeps_alter fun _ => sessions.quiet rfl rfl rfl rfl)

/-! ## Programs -/

/-- Programs keep to what their requests keep to. -/
theorem keeps_run (program : HostProgram) (alive : List Failure) :
    conduct.Keeps ((World.run alive program).run eval) := by
  induction program generalizing alive with
  | finish result =>
      exact keeps_andThen (laws.sessions.keeps_endFailures alive) fun _ => keeps_return _
  | fail message =>
      exact keeps_andThen (laws.sessions.keeps_endFailures alive) fun _ => keeps_return _
  | request request next inductionHypothesis =>
      apply keeps_andThen (laws.keeps_answer runs request)
      intro result
      exact keeps_andThen (laws.sessions.keeps_receive _) fun _ => inductionHypothesis result _
  | register session callback next _ inductionHypothesis =>
      apply keeps_andThen
      · exact keeps_inSession (laws.sessions.registered eval _ runs.release) session
      · intro result
        exact keeps_andThen (laws.sessions.keeps_receive _) fun _ => inductionHypothesis result _
  | dropError index next inductionHypothesis =>
      apply keeps_andThen (laws.sessions.keeps_endFailures _)
      intro _
      exact inductionHypothesis _
  | detachError index next inductionHypothesis =>
      unfold World.run
      split
      · exact inductionHypothesis _
      · apply keeps_andThen (laws.sessions.keeps_letGo _)
        intro _
        apply keeps_andThen (laws.sessions.keeps_detach _)
        intro detached
        exact keeps_andThen (laws.sessions.keeps_receive _) fun _ => inductionHypothesis _
  | keepError index next inductionHypothesis =>
      unfold World.run
      split
      · exact inductionHypothesis _
      · exact keeps_andThen (laws.sessions.keeps_keep _) fun _ => inductionHypothesis _
  | takeError index next inductionHypothesis =>
      apply keeps_andThen (laws.sessions.keeps_takeKept index)
      intro taken
      exact inductionHypothesis taken _

end AllowsHosts

/-! ## Calls -/

namespace AllowsHosts

variable (laws : conduct.AllowsHosts)

include laws

theorem keeps_dispatch : Session.hostCommands.Keeps conduct.atWork := by
  intro eval release scripts slot words machine _
  have runs : conduct.atWork.Runs eval := ⟨release, scripts⟩
  exact laws.calls.keeps_dispatch (fun program => keeps_outside (laws.keeps_run runs program []))
    slot words machine

/-- Whatever fuel they have, the evaluators of sessions keep to what host programs keep to. -/
theorem runs (fuel : Nat) : conduct.atWork.Runs (Session.evaluatorOf fuel) where
  release := evaluator_release Session.hostCommands fuel
  scripts :=
    keeps_evaluator laws.sessions.within.scripts laws.nesting laws.keeps_dispatch fuel

/-- What a program of the host makes of a world is allowed. -/
theorem allows_outcome (program : HostProgram) (fuel : Nat) (world : World) :
    conduct.allows (finishes (program.outcome fuel world).1) world
      (program.outcome fuel world).2 :=
  laws.keeps_run (laws.runs fuel) program [] world

end AllowsHosts

end Conduct

end ScriptBridge
