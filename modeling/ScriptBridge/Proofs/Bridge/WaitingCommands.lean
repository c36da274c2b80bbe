import ScriptBridge.Proofs.Bridge.Submission

/-!
# Commands that wait

A command that can still be changed waits to be read. Until then its text may grow, and it may go to
another command; all other commands stay as they are. The first read submits it with its text.
-/

namespace ScriptBridge

/-! ## Changes of some commands -/

/-- Between two tables only these commands have changed, and none has been submitted. -/
structure CommandTable.Beside (ids : List BufferId) (before after : CommandTable) : Prop where
  entries : ∀ id, id ∉ ids → after.buffers[id]? = before.buffers[id]?
  places : ∀ id, id ∉ ids → ∀ stage, before.At id stage → after.At id stage
  submissions : ∀ id, after.submissions id = before.submissions id

namespace CommandTable.Beside

variable {ids more : List BufferId} {table middle after : CommandTable} {id : BufferId}

theorem refl (table : CommandTable) : Beside ids table table where
  entries _ _ := rfl
  places _ _ _ place := place
  submissions _ := rfl

theorem trans (first : Beside ids table middle) (second : Beside ids middle after) :
    Beside ids table after where
  entries id apart := (second.entries id apart).trans (first.entries id apart)
  places id apart stage place := second.places id apart stage (first.places id apart stage place)
  submissions id := (second.submissions id).trans (first.submissions id)

theorem mono (beside : Beside ids table after) (subset : ids ⊆ more) : Beside more table after where
  entries id apart := beside.entries id fun member => apart (subset member)
  places id apart := beside.places id fun member => apart (subset member)
  submissions := beside.submissions

theorem changed (member : id ∈ ids) (change : CommandBuffer → CommandBuffer) :
    Beside ids table (table.changed id change) where
  entries _ apart := getElem?_changed_of_ne (ne_of_mem_of_not_mem member apart) change
  places _ apart _ place :=
    ⟨place.changed_other (ne_of_mem_of_not_mem member apart) change, place.waits⟩
  submissions _ := rfl

theorem removed (member : id ∈ ids) : Beside ids table (table.removed id) where
  entries _ apart := getElem?_removed_of_ne (ne_of_mem_of_not_mem member apart)
  places _ apart _ place :=
    ⟨place.removed_other (ne_of_mem_of_not_mem member apart), place.waits⟩
  submissions _ := rfl

theorem noted
    {event : CommandEvent}
    (about : ∀ other, other ∉ ids → ¬event.Concerns other)
    (quiet : ∀ other, event.submits other = false) :
    Beside ids table (table.noted event) where
  entries _ _ := rfl
  places other apart _ place := ⟨place.noted_other (about other apart), place.waits⟩
  submissions other := List.countP_cons_of_neg (by simp [quiet other])

end CommandTable.Beside

/-! ## Commands that wait -/

namespace World

/-- A command that can still be changed has no suffix, and it will go to this session. -/
structure Waiting (world : World) (session : SessionId) (id : BufferId) (buffer : CommandBuffer) :
    Prop where
  found : world.commands.buffers[id]? = some buffer
  placed : ∃ parts, world.commands.At id (.pending buffer.session parts)
  noSuffix : buffer.suffix = ""
  reaches : buffer.session.or world.current = some session

variable {world : World} {session : SessionId} {id : BufferId} {buffer : CommandBuffer}
  {commands : CommandTable} {ids : List BufferId}

namespace Waiting

variable (waiting : world.Waiting session id buffer)

include waiting

theorem isOpen : buffer.invoked = false ∧ 0 < buffer.owners := by
  obtain ⟨parts, place⟩ := waiting.placed
  obtain ⟨entry, found, pending, owned⟩ := place.fits
  rw [waiting.found] at found
  obtain rfl := Option.some.inj found
  exact ⟨pending.notInvoked, owned⟩

/-- The text of a command that waits is changed. -/
theorem rewritten
    {change : CommandBuffer → CommandBuffer}
    (kept : buffer.Kept (change buffer))
    (sameSession : (change buffer).session = buffer.session)
    (sameSuffix : (change buffer).suffix = buffer.suffix) :
    World.Waiting { world with commands := world.commands.changed id change } session id
      (change buffer) where
  found := by
    show (world.commands.changed id change).buffers[id]? = _
    rw [CommandTable.getElem?_changed, waiting.found]
    rfl
  placed := by
    obtain ⟨parts, place⟩ := waiting.placed
    have fits := Stage.fits_of_kept (place.fits_some waiting.found) waiting.isOpen.2 kept
    refine ⟨parts, ?_, trivial⟩
    rw [sameSession]
    apply place.refit
    rw [waiting.found]
    exact fits
  noSuffix := sameSuffix.trans waiting.noSuffix
  reaches := by
    rw [sameSession]
    exact waiting.reaches

theorem beside
    (beside : world.commands.Beside ids commands)
    (apart : id ∉ ids) :
    World.Waiting { world with commands } session id buffer where
  found := (beside.entries id apart).trans waiting.found
  placed := by
    obtain ⟨parts, place⟩ := waiting.placed
    exact ⟨parts, beside.places id apart _ place⟩
  noSuffix := waiting.noSuffix
  reaches := waiting.reaches

end Waiting

/-! ## Merging -/

variable {eval : SessionEvaluator}

theorem outcome_getBuffer (waiting : world.Waiting session id buffer) :
    (getBuffer id).outcome eval world = (.ok buffer, world) :=
  run_getBuffer waiting.found waiting.isOpen.2

theorem outcome_prepend_of_waiting
    (waiting : world.Waiting session id buffer)
    (text : String) :
    (prepend id text).outcome eval world =
      (.ok (), { world with commands := world.commands.changed id (·.prepended text) }) := by
  unfold prepend
  rw [outcome_bind (outcome_getBuffer waiting)]
  rfl

theorem Waiting.text_prepended
    (waiting : world.Waiting session id buffer)
    (text : String) :
    (buffer.prepended text).text = text ++ buffer.text ∧
      (buffer.prepended text).session = buffer.session ∧
      (buffer.prepended text).suffix = buffer.suffix := by
  simp [CommandBuffer.prepended, waiting.isOpen.1, CommandBuffer.text, waiting.noSuffix]

/-- A command that has left its first stages stays where it is while others act. -/
theorem at_outcome
    (world : World)
    {α : Type}
    {action : WorldAction α}
    {stage : Stage}
    (keeps : (Conduct.life id).Keeps (action.run eval))
    (place : world.commands.At id stage)
    (old : ¬stage.Fresh) :
    (action.outcome eval world).2.commands.At id stage := by
  obtain ⟨later, placeAfter, stayed, -⟩ := keeps world stage place
  obtain rfl := stayed old
  exact placeAfter

section TakingOver

variable {other : BufferId} {donor : CommandBuffer}

variable (waiting : world.Waiting session id buffer)
  (waitingToo : world.Waiting session other donor)
  (apart : other ≠ id)

include waiting waitingToo apart

end TakingOver

/-! ## Reading -/

/-- A command has been submitted to a session with a text. -/
def Sent (world : World) (id : BufferId) (session : SessionId) (text : String) : Prop :=
  ∃ stage, world.commands.At id stage ∧ stage.submission? = some (session, text)

theorem Sent.submissions (sent : world.Sent id session text) :
    world.commands.submissions id = 1 ∧
      .submitted id session text ∈ world.commands.history := by
  obtain ⟨stage, place, reached⟩ := sent
  constructor
  · rw [CommandTable.submissions, place.life.submissions_eq, reached]
    rfl
  · exact place.life.submission_iff.mp reached

variable {α β : Type} {action : WorldAction α} {next : α → WorldAction β}

/-- What has been submitted stays so. -/
theorem Sent.stays
    (sent : world.Sent id session text)
    (keeps : (Conduct.life id).Keeps (action.run eval)) :
    (action.outcome eval world).2.Sent id session text := by
  obtain ⟨stage, place, reached⟩ := sent
  have old : ¬stage.Fresh := by
    cases stage with
    | running | settled => exact not_false
    | _ => cases reached
  exact ⟨stage, at_outcome _ keeps place old, reached⟩

theorem sent_andThen
    (first : (action.outcome eval world).2.Sent id session text)
    (second : ∀ value, (Conduct.life id).Keeps ((next value).run eval)) :
    ((action >>= next).outcome eval world).2.Sent id session text := by
  unfold WorldAction.outcome at first ⊢
  rw [ReaderT.run_bind, Conduct.run_bind]
  generalize (action.run eval).run.run world = result at first ⊢
  obtain ⟨outcome, after⟩ := result
  cases outcome with
  | ok value => exact first.stays (second value)
  | error fault => exact first

section Submitting

variable (runs : (Conduct.life id).atWork.Runs eval)

include runs

/-- A closed command is submitted with its text, also when the evaluation is cut short. -/
theorem sent_submitTo
    {session? : Option SessionId}
    (placed : world.commands.Placed id (.sealed session? text))
    (reaches : ∀ bound, session? = some bound → session = bound) :
    ((submitTo id session text >>= keepAnswer id).outcome eval world).2.Sent id session text := by
  let submitted : World := { world with commands := world.commands.noted (.submitted id session text) }
  have place : submitted.commands.At id (.running session text) :=
    ⟨placed.step (.submitted reaches) nofun placed.fits, trivial⟩
  have keeps := Conduct.life_allowsSessions.keeps_inSession_evaluate runs session text
  have meanwhile := at_outcome submitted keeps place not_false
  unfold submitTo
  rw [bind_assoc]
  show (((inSession session fun eval => Session.evaluate eval text) >>= keepAnswer id).outcome eval
    submitted).2.Sent id session text
  unfold WorldAction.outcome at meanwhile ⊢
  rw [ReaderT.run_bind, Conduct.run_bind]
  generalize ((inSession session fun eval => Session.evaluate eval text).run eval).run.run
    submitted = result at meanwhile ⊢
  obtain ⟨outcome, after⟩ := result
  cases outcome with
  | error fault => exact ⟨_, meanwhile, rfl⟩
  | ok answer =>
      obtain ⟨result, settled⟩ := Conduct.settled_keepAnswer meanwhile eval answer
      exact ⟨_, settled, rfl⟩

/-- A command that waits is submitted with its text when it is asked for. -/
theorem Waiting.sent_evaluateOnce (waiting : world.Waiting session id buffer) :
    ((evaluateOnce id).outcome eval world).2.Sent id session buffer.text := by
  obtain ⟨parts, place⟩ := waiting.placed
  obtain ⟨entry, found, pending, -⟩ := place.fits
  rw [waiting.found] at found
  obtain rfl := Option.some.inj found
  let asked : World := { world with commands := world.commands.noted (.asked id) }
  let closed : World :=
    { asked with commands := (asked.commands.changed id (·.closed)).noted (.sealed id buffer.text) }
  have due := place.step .asked nofun ⟨buffer, waiting.found, pending⟩
  have closedPlace : closed.commands.Placed id (.sealed buffer.session buffer.text) := by
    apply due.move (·.closed) (.sealed pending.includes) nofun
    have entry : (world.commands.noted (.asked id)).buffers[id]? = some buffer := waiting.found
    rw [entry]
    rintro _ ⟨⟩
    exact pending.closed
  have goesTo : (sessionOf buffer).outcome eval closed = (.ok (.ok session), closed) ∧
      ∀ bound, buffer.session = some bound → session = bound := by
    have reaches := waiting.reaches
    cases bound : buffer.session with
    | some own =>
        rw [bound] at reaches
        obtain rfl := Option.some.inj reaches
        unfold sessionOf
        rw [bound]
        exact ⟨rfl, fun _ => Option.some.inj⟩
    | none =>
        rw [bound, Option.none_or] at reaches
        have current : closed.current = some session := reaches
        refine ⟨?_, nofun⟩
        unfold sessionOf
        rw [bound]
        show (currentSession.run eval).run.run closed = _
        unfold currentSession
        rw [run_get_bind, current]
        rfl
  have noted : (note (.asked id)).outcome eval world = (.ok (), asked) := rfl
  have closing : (closeBuffer id buffer.text).outcome eval asked = (.ok (), closed) := rfl
  have sent := sent_submitTo runs closedPlace goesTo.2
  unfold evaluateOnce
  rw [outcome_bind (outcome_getBuffer waiting), outcome_bind noted, waiting.isOpen.1]
  unfold submitOnce
  rw [if_neg Bool.false_ne_true, outcome_bind closing]
  unfold submitSealed
  rw [outcome_bind goesTo.1]
  exact sent

/-- The first read of a command submits it with its text. -/
theorem Waiting.sent_evaluateText (waiting : world.Waiting session id buffer) :
    ((evaluateText id).outcome eval world).2.Sent id session buffer.text :=
  sent_andThen (waiting.sent_evaluateOnce runs) fun outcome => Conduct.keeps_readResult id outcome

end Submitting

end World

end ScriptBridge
