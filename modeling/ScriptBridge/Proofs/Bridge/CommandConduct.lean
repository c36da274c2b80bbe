import ScriptBridge.Proofs.Bridge.CommandEntries

/-!
# What may happen to one command

While hosts, scripts and callbacks do what they like, each command is what its stage asks for, and
nobody but the one who is submitting a command can take it any further. A submission ends where the
command is done, unless it is cut short.
-/

namespace ScriptBridge

/-! ## Access -/

namespace World

variable {eval : SessionEvaluator} {world after : World} {id : BufferId} {buffer : CommandBuffer}

/-- A command that has been submitted is not submitted again. -/
theorem run_evaluateOnce_of_invoked
    (found : world.commands.buffers[id]? = some buffer)
    (owned : 0 < buffer.owners)
    (invoked : buffer.invoked = true) :
    ((evaluateOnce id).run eval).run.run world =
      (.ok (.ok ()), { world with commands := world.commands.noted (.asked id) }) := by
  unfold evaluateOnce
  rw [ReaderT.run_bind, Conduct.run_bind, run_getBuffer found owned]
  dsimp only
  rw [if_pos invoked]
  rfl

/-- The text of a command is that of its entry, and looking at it changes nothing. -/
theorem eq_of_run_commandText
    {text : String}
    (ran : ((commandText id).run eval).run.run world = (.ok text, after)) :
    ∃ buffer, after = world ∧ text = buffer.text ∧ world.commands.buffers[id]? = some buffer := by
  unfold commandText at ran
  rw [ReaderT.run_bind, Conduct.run_bind] at ran
  rcases got : ((getBuffer id).run eval).run.run world with ⟨outcome, middle⟩
  rw [got] at ran
  cases outcome with
  | error fault => cases ran
  | ok buffer =>
      obtain ⟨rfl, found, -⟩ := eq_of_run_getBuffer got
      cases ran
      exact ⟨buffer, rfl, rfl, found⟩

theorem run_readResult
    (found : world.commands.buffers[id]? = some buffer)
    (owned : 0 < buffer.owners) :
    ((readResult id (.ok ())).run eval).run.run world = (.ok (.ok buffer.result), world) := by
  unfold readResult
  rw [ReaderT.run_bind, Conduct.run_bind, run_getBuffer found owned]
  rfl

theorem run_evaluateText_of_invoked
    (found : world.commands.buffers[id]? = some buffer)
    (owned : 0 < buffer.owners)
    (invoked : buffer.invoked = true) :
    ((evaluateText id).run eval).run.run world =
      (.ok (.ok buffer.result), { world with commands := world.commands.noted (.asked id) }) := by
  unfold evaluateText
  rw [ReaderT.run_bind, Conduct.run_bind, run_evaluateOnce_of_invoked found owned invoked]
  exact run_readResult found owned

/-- How many failures are alive in a session. -/
def aliveIn (world : World) (session : SessionId) : Nat :=
  match world.sessions[session]? with
  | some there => there.state.failuresAlive
  | none => 0

/-- How many failures are alive in the session that a command is bound to. -/
def aliveFor (world : World) (buffer : CommandBuffer) : Nat :=
  match buffer.session with
  | some session => world.aliveIn session
  | none => 0

theorem run_failuresAlive (session : SessionId) :
    ((failuresAlive session).run eval).run.run world = (.ok (world.aliveIn session), world) := by
  unfold failuresAlive aliveIn
  rw [run_get_bind]
  cases world.sessions[session]? <;> rfl

theorem run_failuresOf (buffer : CommandBuffer) :
    ((failuresOf buffer).run eval).run.run world = (.ok (world.aliveFor buffer), world) := by
  unfold failuresOf aliveFor
  cases buffer.session with
  | none => rfl
  | some session => exact run_failuresAlive session

theorem run_giveUp_of_invoked (invoked : buffer.invoked = true) :
    ((giveUp id buffer).run eval).run.run world =
      (.ok (), { world with
        commands := world.commands.noted (.dropped id true (world.aliveFor buffer)) }) := by
  unfold giveUp
  rw [if_pos invoked, ReaderT.run_bind, Conduct.run_bind, run_failuresOf]
  rfl

/-- The tables after the last owner of a command that has been submitted has left it. -/
def leftTable (world : World) (id : BufferId) (buffer : CommandBuffer) : CommandTable :=
  (((world.commands.changed id (·.owned 0)).noted (.left id)).noted
    (.dropped id true (world.aliveFor buffer))).removed id

theorem run_release_of_invoked
    (found : world.commands.buffers[id]? = some buffer)
    (owned : 0 < buffer.owners)
    (invoked : buffer.invoked = true)
    (last : ¬1 < buffer.owners) :
    ((release id).run eval).run.run world =
      (.ok (), { world with commands := world.leftTable id buffer }) := by
  unfold release
  rw [ReaderT.run_bind, Conduct.run_bind, run_getBuffer found owned]
  dsimp only
  rw [if_neg last]
  show ((giveUp id buffer >>= fun _ => forget id).run eval).run.run
    { world with commands := (world.commands.changed id (·.owned 0)).noted (.left id) } = _
  rw [ReaderT.run_bind, Conduct.run_bind, run_giveUp_of_invoked invoked]
  rfl

end World

namespace Conduct

/-! ## One command among others -/

/-- What may happen to a command while others act: one that has left its first stages stays where
it is, and who finishes does not leave it on its way. -/
def life (id : BufferId) : Conduct World where
  allows finished before after := ∀ stage, before.commands.At id stage →
    ∃ later, after.commands.At id later ∧ (¬stage.Fresh → later = stage) ∧
      (finished = true → later.Busy → later = stage)
  refl world stage place := ⟨stage, place, fun _ => rfl, fun _ _ => rfl⟩
  trans := by
    intro first second before middle after toMiddle toAfter stage place
    obtain ⟨between, place, stayed, ended⟩ := toMiddle stage place
    obtain ⟨later, place, stayedToo, endedToo⟩ := toAfter between place
    refine ⟨later, place, ?_, ?_⟩
    · intro old
      obtain rfl := stayed old
      exact stayedToo old
    · intro finished busy
      obtain ⟨finishedFirst, finishedSecond⟩ := Bool.and_eq_true_iff.mp finished
      obtain rfl := endedToo finishedSecond busy
      exact ended finishedFirst busy
  cut := by
    intro before after allowed stage place
    obtain ⟨later, place, stayed, _⟩ := allowed stage place
    exact ⟨later, place, stayed, nofun⟩

variable {id other : BufferId} {eval : SessionEvaluator}

theorem life_indifferent
    {before after : World}
    (same : after.commands = before.commands) :
    (life id).allows true before after :=
  fun stage place => ⟨stage, same ▸ place, fun _ => rfl, fun _ _ => rfl⟩

theorem life_allowsSessions : (life id).AllowsSessions :=
  (allowsTables_of_indifferent life_indifferent).allowsSessions

/-- A command that stays at its stage, whatever that is. -/
theorem life_stays
    {before after : World}
    (stays : ∀ {stage}, before.commands.At id stage → after.commands.At id stage) :
    (life id).allows true before after :=
  fun stage place => ⟨stage, stays place, fun _ => rfl, fun _ _ => rfl⟩

/-- A pending command, or a new one, that goes to a stage at which nobody is busy with it. -/
theorem life_moves
    {finished : Bool}
    {before after : World}
    (moves : ∀ {stage}, before.commands.At id stage →
      stage.Fresh ∧ ∃ later, after.commands.At id later ∧ (finished = true → ¬later.Busy)) :
    (life id).allows finished before after := by
  intro stage place
  obtain ⟨fresh, later, placeAfter, rests⟩ := moves place
  refine ⟨later, placeAfter, ?_, ?_⟩
  · exact fun old => absurd fresh old
  · exact fun finished busy => absurd busy (rests finished)

theorem life_allowsChanges (apart : other ≠ id) : (life id).AllowsChanges other where
  changed _ change := life_stays fun place => ⟨place.changed_other apart change, place.waits⟩
  noted _ _ about := life_stays fun place =>
    ⟨place.noted_other (CommandEvent.not_concerns_of_subject? about apart), place.waits⟩
  removed _ := life_stays fun place => ⟨place.removed_other apart, place.waits⟩

/-! ## Submitting -/

/-- Started from this world, an action takes a command as far as it goes, to a stage of a certain
kind, unless it is cut short. -/
def Arrives
    {α : Type}
    (id : BufferId)
    (kind : Stage → Prop)
    (world : World)
    (action : ExceptT Unfinished (StateM World) α) : Prop :=
  ∃ stage, (action.run.run world).2.commands.At id stage ∧
    (finishes (action.run.run world).1 = true → stage.Done ∧ kind stage)

variable {α β : Type} {world : World} {stage : Stage} {kind : Stage → Prop} {action : WorldAction α}
  {next : α → WorldAction β}

theorem arrives_mono
    {wider : Stage → Prop}
    (arrives : Arrives id kind world (action.run eval))
    (weaker : ∀ {stage}, kind stage → wider stage) :
    Arrives id wider world (action.run eval) := by
  obtain ⟨stage, place, done⟩ := arrives
  exact ⟨stage, place, fun finished => (done finished).imp_right weaker⟩

/-- A command that is on its way waits for what others do meanwhile. -/
theorem arrives_meanwhile
    (place : world.commands.At id stage)
    (old : ¬stage.Fresh)
    (first : (life id).Keeps (action.run eval))
    (second : ∀ value after, (action.run eval).run.run world = (.ok value, after) →
      after.commands.At id stage → Arrives id kind after ((next value).run eval)) :
    Arrives id kind world ((action >>= next).run eval) := by
  obtain ⟨later, placeAfter, stayed, _⟩ := first world stage place
  obtain rfl := stayed old
  unfold Arrives
  rw [ReaderT.run_bind, run_bind]
  generalize ran : (action.run eval).run.run world = result at placeAfter ⊢
  obtain ⟨outcome, after⟩ := result
  cases outcome with
  | ok value => exact second value after ran placeAfter
  | error fault => exact ⟨later, placeAfter, nofun⟩

/-- What follows an arrival starts where the command is done. -/
theorem arrives_andThen
    {wider : Stage → Prop}
    (first : Arrives id kind world (action.run eval))
    (second : ∀ value after stage, after.commands.At id stage → stage.Done → kind stage →
      Arrives id wider after ((next value).run eval)) :
    Arrives id wider world ((action >>= next).run eval) := by
  obtain ⟨stage, place, done⟩ := first
  unfold Arrives
  rw [ReaderT.run_bind, run_bind]
  generalize (action.run eval).run.run world = result at place done ⊢
  obtain ⟨outcome, after⟩ := result
  cases outcome with
  | error fault => exact ⟨stage, place, nofun⟩
  | ok value => exact second value after stage place (done rfl).1 (done rfl).2

/-- What an action that only looks has seen, it goes on with. -/
theorem arrives_seen
    {value : α}
    (seen : (action.run eval).run.run world = (.ok value, world))
    (arrives : Arrives id kind world ((next value).run eval)) :
    Arrives id kind world ((action >>= next).run eval) := by
  unfold Arrives
  rw [ReaderT.run_bind, run_bind, seen]
  exact arrives

theorem arrives_altered
    {change : CommandTable → CommandTable}
    {next : Unit → WorldAction β}
    (arrives : Arrives id kind { world with commands := change world.commands }
      ((next ()).run eval)) :
    Arrives id kind world ((World.modifyCommands change >>= next).run eval) :=
  arrives

/-- A command that is done stays so. -/
theorem arrives_of_done
    (place : world.commands.At id stage)
    (done : stage.Done)
    (there : kind stage)
    (keeps : (life id).Keeps (action.run eval)) :
    Arrives id kind world (action.run eval) := by
  obtain ⟨later, placeAfter, stayed, _⟩ := keeps world stage place
  obtain rfl := stayed (Stage.not_fresh_of_done done)
  exact ⟨later, placeAfter, fun _ => ⟨done, there⟩⟩

/-- What has arrived stays there. -/
theorem arrives_then
    (first : Arrives id kind world (action.run eval))
    (second : ∀ value, (life id).Keeps ((next value).run eval)) :
    Arrives id kind world ((action >>= next).run eval) :=
  arrives_andThen first fun value _ _ place done there =>
    arrives_of_done place done there (second value)

/-- What is done needs no entry any more. -/
theorem arrives_forget
    (first : Arrives id kind world (action.run eval)) :
    Arrives id kind world ((action >>= fun _ => World.forget id).run eval) :=
  arrives_andThen first fun _ _ stage place done there =>
    ⟨stage, ⟨place.removed (Stage.fits_none (.inr done)), place.waits⟩, fun _ => ⟨done, there⟩⟩

/-- What has been done with a command is noted. -/
theorem arrives_note
    {event : CommandEvent}
    (place : world.commands.At id stage)
    (done : stage.Done)
    (admits : stage.Admits id event) :
    Arrives id (Stage.Admits id event) world ((World.note event).run eval) := by
  have known := Stage.known_of_not_fresh (Stage.not_fresh_of_done done)
  have noted := place.step admits known place.fits
  exact ⟨stage, ⟨noted, place.waits⟩, fun _ => ⟨done, admits⟩⟩

theorem arrives_noted
    {event : CommandEvent}
    (first : Arrives id (Stage.Admits id event) world (action.run eval))
    (second : ∀ value, (life id).Keeps ((next value).run eval)) :
    Arrives id (Stage.Admits id event) world
      ((do let value ← action; World.note event; next value).run eval) :=
  arrives_andThen first fun value _ _ place done admits =>
    arrives_then (arrives_note place done admits) fun _ => second value

/-- Once the answer to a submission is kept, the command is settled. -/
theorem settled_keepAnswer
    {session : SessionId}
    {text : String}
    (place : world.commands.At id (.running session text))
    (eval : SessionEvaluator)
    (answer : Except Failure String) :
    ∃ result, (((World.keepAnswer id answer).run eval).run.run world).2.commands.At id
      (.settled session text result) := by
  cases answer with
  | error failure =>
      have settled : (world.commands.noted (.answered id none)).Placed id
          (.settled session text none) := place.step .answered nofun place.fits
      exact ⟨none, settled, trivial⟩
  | ok result =>
      have fits : (Stage.settled session text (some result)).Fits
          (world.commands.buffers[id]?.map (·.answered result)) := by
        intro _ found
        obtain ⟨buffer, there, rfl⟩ := Option.map_eq_some_iff.mp found
        exact (place.fits buffer there).answered result
      exact ⟨some result, place.move _ .answered nofun fits, trivial⟩

theorem arrives_keepAnswer
    {session : SessionId}
    {text : String}
    (place : world.commands.At id (.running session text))
    (answer : Except Failure String) :
    Arrives id Stage.Spent world ((World.keepAnswer id answer).run eval) := by
  obtain ⟨result, settled⟩ := settled_keepAnswer place eval answer
  exact ⟨_, settled, fun _ => ⟨trivial, trivial⟩⟩

variable (runs : (life id).atWork.Runs eval)

include runs

/-- A closed command that has a session is evaluated there, whatever happens in the meantime. -/
theorem arrives_submitted
    {session? : Option SessionId}
    {session : SessionId}
    {text : String}
    (placed : world.commands.Placed id (.sealed session? text))
    (reaches : ∀ bound, session? = some bound → session = bound) :
    Arrives id Stage.Spent world
      ((World.submitTo id session text >>= World.keepAnswer id).run eval) := by
  have running : (world.commands.noted (.submitted id session text)).At id
      (.running session text) := ⟨placed.step (.submitted reaches) nofun placed.fits, trivial⟩
  have old : ¬(Stage.running session text).Fresh := not_false
  unfold World.submitTo
  rw [bind_assoc]
  apply arrives_altered
  apply arrives_meanwhile running old
  · exact life_allowsSessions.keeps_inSession_evaluate runs session text
  · intro answer after _ place
    exact arrives_keepAnswer place answer

theorem arrives_submitSealed
    {buffer : CommandBuffer}
    (placed : world.commands.Placed id (.sealed buffer.session buffer.text)) :
    Arrives id Stage.Spent world ((World.submitSealed id buffer).run eval) := by
  unfold World.submitSealed World.sessionOf
  cases bound : buffer.session with
  | some session =>
      rw [bound] at placed
      apply arrives_submitted runs placed
      intro _ same
      exact Option.some.inj same
  | none =>
      rw [bound] at placed
      have place : world.commands.At id (.sealed none buffer.text) := ⟨placed, trivial⟩
      have old : ¬(Stage.sealed none buffer.text).Fresh := not_false
      apply arrives_meanwhile place old
      · exact life_allowsSessions.keeps_currentSession runs
      · intro found after _ place
        cases found with
        | ok session => exact arrives_submitted runs place.toPlaced nofun
        | error failure =>
            have stranded := place.step .stranded nofun
              (fun buffer there => .inl (place.fits buffer there).invoked)
            exact ⟨.stranded, ⟨stranded, trivial⟩, fun _ => ⟨trivial, trivial⟩⟩

/-- A pending command that is due is closed and submitted. -/
theorem arrives_submitOnce
    {buffer : CommandBuffer}
    {parts : List String}
    (placed : world.commands.Placed id (.due buffer.session parts))
    (found : world.commands.buffers[id]? = some buffer) :
    Arrives id Stage.Spent world ((World.submitOnce id buffer).run eval) := by
  obtain ⟨_, there, pending⟩ := placed.fits
  rw [found] at there
  obtain rfl := Option.some.inj there
  have «sealed» := placed.move (·.closed) (.sealed pending.includes) nofun (by
    rw [found]
    rintro _ ⟨⟩
    exact pending.closed)
  exact arrives_submitSealed runs «sealed»

/-- A command without owners is submitted, unless failures of its session are alive. -/
theorem arrives_submitUnread
    {session? : Option SessionId}
    {parts : List String}
    (placed : world.commands.Placed id (.leaving session? parts))
    (session : SessionId) :
    Arrives id (Stage.Admits id (.released id false (world.aliveIn session))) world
      ((World.submitUnread id session).run eval) := by
  obtain ⟨buffer, found, pending, left⟩ := placed.fits
  obtain rfl := pending.session
  unfold World.submitUnread
  apply arrives_seen (World.run_peekBuffer found)
  apply arrives_seen (World.run_failuresAlive session)
  generalize world.aliveIn session = failures
  apply arrives_altered
  by_cases alive : 0 < failures
  · rw [if_pos alive]
    have suppressed := placed.step (.suppressed alive) nofun (by
      rw [found]
      rintro _ ⟨⟩
      exact left)
    have place : (world.commands.noted (.dropped id false failures)).At id
        (.suppressed failures) := ⟨suppressed, trivial⟩
    exact arrives_of_done place trivial .released (keeps_return ())
  · rw [if_neg alive]
    obtain rfl := Nat.eq_zero_of_not_pos alive
    have due := placed.step .cleared nofun ⟨buffer, found, pending⟩
    have submitted : Arrives id Stage.Spent
        { world with commands := world.commands.noted (.dropped id false 0) }
        ((World.submitOnce id buffer).run eval) := arrives_submitOnce runs due found
    apply arrives_then (arrives_mono submitted fun spent => .again spent ⟨rfl, .inr rfl⟩)
    intro outcome
    cases outcome with
    | ok _ => exact keeps_return ()
    | error failure =>
        apply keeps_andThen (life_allowsSessions.keeps_endFailure failure)
        intro _
        exact keeps_inSession (life_allowsSessions.failing.keeps_recordDeferred failure) session

omit runs

/-! ## What owners do -/

/-- What is done with a command that has an owner. -/
theorem keepsFrom_getBuffer
    {conduct : Conduct World}
    {next : CommandBuffer → WorldAction β}
    (keeps : ∀ buffer, world.commands.buffers[id]? = some buffer → 0 < buffer.owners →
      conduct.KeepsFrom world ((next buffer).run eval)) :
    conduct.KeepsFrom world ((World.getBuffer id >>= next).run eval) := by
  apply keepsFrom_andThen (keeps_getBuffer id world)
  intro buffer after ran
  obtain ⟨rfl, found, owned⟩ := World.eq_of_run_getBuffer ran
  exact keeps buffer found owned

/-- An action that looks for a command with an owner does nothing where there is none. -/
theorem keepsFrom_of_owned
    {conduct : Conduct World}
    {next : CommandBuffer → WorldAction α}
    (looks : action = World.getBuffer id >>= next)
    (keeps : ∀ buffer, world.commands.buffers[id]? = some buffer → 0 < buffer.owners →
      conduct.KeepsFrom world (action.run eval)) :
    conduct.KeepsFrom world (action.run eval) := by
  rcases ran : ((World.getBuffer id).run eval).run.run world with ⟨outcome, after⟩
  cases outcome with
  | ok buffer =>
      obtain ⟨-, found, owned⟩ := World.eq_of_run_getBuffer ran
      exact keeps buffer found owned
  | error fault =>
      subst looks
      apply keepsFrom_andThen (keeps_getBuffer id world)
      intro buffer middle got
      rw [ran] at got
      cases got

theorem keepsFrom_of_arrives
    {action : ExceptT Unfinished (StateM World) α}
    (arrives : ∀ {stage}, world.commands.At id stage →
      stage.Fresh ∧ Arrives id kind world action) :
    (life id).KeepsFrom world action := by
  apply life_moves
  intro stage place
  obtain ⟨fresh, later, placeAfter, done⟩ := arrives place
  exact ⟨fresh, later, placeAfter, fun finished => Stage.not_busy_of_done (done finished).1⟩

section Owned

variable {buffer : CommandBuffer} (found : world.commands.buffers[id]? = some buffer)
  (owned : 0 < buffer.owners)

include found owned

theorem life_kept
    (change : CommandBuffer → CommandBuffer)
    (kept : buffer.Kept (change buffer)) :
    (life id).allows true world { world with commands := world.commands.changed id change } := by
  apply life_stays
  intro stage place
  have fits := place.fits_some found
  have changed : (world.commands.changed id change).Placed id stage := by
    apply place.refit
    rw [found]
    exact Stage.fits_of_kept fits owned kept
  exact ⟨changed, place.waits⟩

theorem life_repeated
    {event : CommandEvent}
    (invoked : buffer.invoked = true)
    (repeats : Stage.Repeats id event) :
    (life id).allows true world { world with commands := world.commands.noted event } := by
  apply life_stays
  intro stage place
  have fits := place.fits_some found
  have spent := Stage.spent_of_fits fits invoked owned
  have noted := place.step (.again spent repeats) (Stage.known_of_fits fits) place.fits
  exact ⟨noted, place.waits⟩

/-- A command that has been submitted may lose its last owner. -/
theorem spent_leftTable
    {stage : Stage}
    (invoked : buffer.invoked = true)
    (place : world.commands.At id stage) :
    stage.Spent ∧ (world.leftTable id buffer).At id stage := by
  have fits := place.fits_some found
  have spent := Stage.spent_of_fits fits invoked owned
  have known := Stage.known_of_fits fits
  have repeatsLeft : Stage.Repeats id (.left id) := rfl
  have repeatsDropped : Stage.Repeats id (.dropped id true (world.aliveFor buffer)) := rfl
  have left := place.move (·.owned 0) (.again spent repeatsLeft) known (by
    rw [found]
    exact Stage.fits_disowned fits spent)
  have dropped := left.step (.again spent repeatsDropped) known left.fits
  exact ⟨spent, dropped.removed (Stage.fits_none (.inl spent)), place.waits⟩

/-- What is read of a command that is closed is the result that was kept. -/
theorem life_reread (invoked : buffer.invoked = true) :
    (life id).allows true world
      { world with commands := world.commands.noted (.reread id (.ok buffer.result)) } := by
  apply life_stays
  intro stage place
  have fits := place.fits_some found
  have spent := Stage.spent_of_fits fits invoked owned
  have kept : ∀ result, stage.result? = some result →
      (Except.ok buffer.result : Except Failure String) = .ok (result.getD "") := by
    intro result ended
    rw [Stage.result_of_fits fits ended]
  have noted := place.step (.reread spent kept) (Stage.known_of_fits fits) place.fits
  exact ⟨noted, place.waits⟩

end Owned

theorem life_lookAtCommand : (life id).Keeps ((World.lookAtCommand id).run eval) := by
  intro world
  apply keepsFrom_andThen (keeps_commandText id world)
  intro text after looked
  obtain ⟨buffer, rfl, rfl, found⟩ := World.eq_of_run_commandText looked
  apply life_stays
  intro stage place
  have fits := place.fits_some found
  have noted := place.step (.looked fun fixed => Stage.text_of_fits fits)
    (Stage.known_of_fits fits) place.fits
  exact ⟨noted, place.waits⟩

theorem life_append (text : String) : (life id).Keeps ((World.append id text).run eval) := by
  intro world
  apply keepsFrom_getBuffer
  intro buffer found owned
  exact life_kept found owned _ (CommandBuffer.kept_appended text)

theorem life_prepend (text : String) : (life id).Keeps ((World.prepend id text).run eval) := by
  intro world
  apply keepsFrom_getBuffer
  intro buffer found owned
  exact life_kept found owned _ (CommandBuffer.kept_prepended text)

theorem life_share : (life id).Keeps ((World.share id).run eval) := by
  intro world
  apply keepsFrom_getBuffer
  intro buffer found owned
  exact life_kept found owned (fun buffer => buffer.owned (buffer.owners + 1))
    (CommandBuffer.kept_owned (Nat.succ_pos _))

/-! ## Merging -/

/-- A command that takes over the text of another one stays pending, or cannot take it any more. -/
theorem life_receives
    {buffer : CommandBuffer}
    (found : world.commands.buffers[id]? = some buffer)
    (owned : 0 < buffer.owners)
    (apart : other ≠ id)
    (text : String) :
    (life id).allows true world
      { world with
        commands := (world.commands.changed id (·.appended text)).noted
          (.absorbed other id text !buffer.invoked) } := by
  cases invoked : buffer.invoked with
  | true =>
      apply life_stays
      intro stage place
      have fits := place.fits_some found
      have spent := Stage.spent_of_fits fits invoked owned
      have moved : ((world.commands.changed id (·.appended text)).noted
          (.absorbed other id text false)).Placed id stage := by
        have repeats : Stage.Repeats id (.absorbed other id text false) := ⟨apart, rfl⟩
        apply place.move _ (.again spent repeats) (Stage.known_of_fits fits)
        rw [found]
        exact Stage.fits_of_kept fits owned (CommandBuffer.kept_appended text)
      exact ⟨moved, place.waits⟩
  | false =>
      apply life_moves
      intro stage place
      have fits := place.fits_some found
      obtain ⟨parts, rfl, pending⟩ := Stage.pending_of_fits fits place.waits invoked owned
      have moved := place.received apart text
      exact ⟨trivial, _, ⟨moved, trivial⟩, fun _ => not_false⟩

/-- A pending command whose text is taken over is done. -/
theorem life_given
    {buffer : CommandBuffer}
    (found : world.commands.buffers[id]? = some buffer)
    (owned : 0 < buffer.owners)
    (notInvoked : buffer.invoked = false)
    (apart : other ≠ id)
    (change : CommandBuffer → CommandBuffer)
    (taken : Bool) :
    (life id).allows true world
      { world with
        commands := ((world.commands.changed id (·.closed)).changed other change).noted
          (.absorbed id other buffer.text taken) } := by
  apply life_moves
  intro stage place
  have fits := place.fits_some found
  obtain ⟨parts, rfl, pending⟩ := Stage.pending_of_fits fits place.waits notInvoked owned
  have given := place.handedOver found apart change taken
  exact ⟨trivial, _, ⟨given, trivial⟩, fun _ => not_false⟩

theorem life_absorb (receiver donor : BufferId) :
    (life id).Keeps ((World.absorb receiver donor).run eval) := by
  by_cases apart : receiver ≠ id ∧ donor ≠ id
  · apply (life_allowsChanges apart.1).keeps_absorb (life_allowsChanges apart.2)
    intro world text taken
    apply life_stays
    intro stage place
    exact ⟨place.noted_other (not_or.mpr ⟨apart.2, apart.1⟩), place.waits⟩
  · intro world
    apply keepsFrom_getBuffer
    intro buffer found owned
    apply keepsFrom_getBuffer
    intro taken foundDonor ownedDonor
    by_cases refused : receiver = donor ∨ taken.invoked
    · rw [if_pos refused]
      exact keeps_return () world
    · rw [if_neg refused]
      obtain ⟨differ, notInvoked⟩ := not_or.mp refused
      by_cases same : receiver = id
      · subst same
        have different : donor ≠ receiver := Ne.symm differ
        apply after ((life_allowsChanges different).changed world (·.closed))
        apply life_receives ?_ owned different
        rw [← found]
        exact CommandTable.getElem?_changed_of_ne different _
      · obtain rfl := Decidable.not_not.mp fun other => apart ⟨same, other⟩
        exact life_given foundDonor ownedDonor (Bool.eq_false_iff.mpr notInvoked) differ _ _

/-! ## Reading -/

section Evaluation

variable (runs : (life id).atWork.Runs eval)

include runs

/-- A pending command that is asked for is submitted. -/
theorem arrives_evaluateOnce
    {buffer : CommandBuffer}
    (found : world.commands.buffers[id]? = some buffer)
    (owned : 0 < buffer.owners)
    (notInvoked : buffer.invoked = false)
    (place : world.commands.At id stage) :
    stage.Fresh ∧ Arrives id Stage.Spent world ((World.evaluateOnce id).run eval) := by
  obtain ⟨parts, rfl, pending⟩ :=
    Stage.pending_of_fits (place.fits_some found) place.waits notInvoked owned
  refine ⟨trivial, ?_⟩
  unfold World.evaluateOnce
  apply arrives_seen (World.run_getBuffer found owned)
  apply arrives_altered
  rw [if_neg (Bool.eq_false_iff.mp notInvoked)]
  have due := place.step .asked nofun ⟨buffer, found, pending⟩
  exact arrives_submitOnce runs due found

theorem life_evaluateOnce : (life id).Keeps ((World.evaluateOnce id).run eval) := by
  intro world
  refine keepsFrom_of_owned rfl ?_
  intro buffer found owned
  cases invoked : buffer.invoked with
  | true =>
      have repeats : Stage.Repeats id (.asked id) := rfl
      unfold KeepsFrom
      rw [World.run_evaluateOnce_of_invoked found owned invoked]
      exact life_repeated found owned invoked repeats
  | false =>
      apply keepsFrom_of_arrives
      intro stage place
      exact arrives_evaluateOnce runs found owned invoked place

theorem life_evaluateText : (life id).Keeps ((World.evaluateText id).run eval) :=
  keeps_andThen (life_evaluateOnce runs) fun outcome => keeps_readResult id outcome

/-- Who has had a command evaluated finds it closed. -/
theorem life_askCommand : (life id).Keeps ((World.askCommand id).run eval) := by
  intro world
  refine keepsFrom_of_owned (bind_assoc _ _ _) ?_
  intro buffer found owned
  have repeats : Stage.Repeats id (.evaluated id) := rfl
  let asked : World := { world with commands := world.commands.noted (.asked id) }
  have stillFound : asked.commands.buffers[id]? = some buffer := found
  cases invoked : buffer.invoked with
  | true =>
      apply keepsFrom_andThen (life_evaluateOnce runs world)
      intro outcome after ran
      rw [World.run_evaluateOnce_of_invoked found owned invoked] at ran
      cases ran
      apply keepsFrom_andThen ?_ fun _ after _ => keeps_return _ after
      exact life_repeated stillFound owned invoked repeats
  | false =>
      apply keepsFrom_of_arrives
      intro stage place
      obtain ⟨fresh, submitted⟩ := arrives_evaluateOnce runs found owned invoked place
      have closed : Arrives id (Stage.Admits id (.evaluated id)) world
          ((World.evaluateOnce id).run eval) :=
        arrives_mono submitted fun spent => .again spent repeats
      exact ⟨fresh, arrives_noted closed fun _ => keeps_return _⟩

theorem life_readCommand : (life id).Keeps ((World.readCommand id).run eval) := by
  intro world
  apply keepsFrom_getBuffer
  intro buffer found owned
  have repeats : Stage.Repeats id (.evaluated id) := rfl
  let asked : World := { world with commands := world.commands.noted (.asked id) }
  have stillFound : asked.commands.buffers[id]? = some buffer := found
  cases invoked : buffer.invoked with
  | true =>
      apply keepsFrom_andThen (life_evaluateText runs world)
      intro answer after ran
      rw [World.run_evaluateText_of_invoked found owned invoked] at ran
      cases ran
      apply keepsFrom_andThen
      · exact life_repeated stillFound owned invoked repeats
      · intro _ after ran
        cases ran
        apply keepsFrom_andThen ?_ fun _ after _ => keeps_return _ after
        exact life_reread stillFound owned invoked
  | false =>
      apply keepsFrom_of_arrives
      intro stage place
      obtain ⟨fresh, submitted⟩ := arrives_evaluateOnce runs found owned invoked place
      have closed : Arrives id (Stage.Admits id (.evaluated id)) world
          ((World.evaluateOnce id).run eval) :=
        arrives_mono submitted fun spent => .again spent repeats
      have answered := arrives_then closed (keeps_readResult id)
      exact ⟨fresh, arrives_noted answered fun _ =>
        keeps_andThen (keeps_return ()) fun _ => keeps_return _⟩

/-- A pending command that its last owner leaves is submitted, or its session reports an error. -/
theorem arrives_giveUp
    {buffer : CommandBuffer}
    {parts : List String}
    (placed : world.commands.Placed id (.leaving buffer.session parts))
    (notInvoked : buffer.invoked = false) :
    Arrives id
      (fun stage => ∀ session, buffer.session = some session →
        stage.Admits id (.released id false (world.aliveIn session)))
      world ((World.giveUp id buffer).run eval) := by
  unfold World.giveUp World.sessionOf
  rw [if_neg (Bool.eq_false_iff.mp notInvoked)]
  cases bound : buffer.session with
  | some session =>
      rw [bound] at placed
      apply arrives_mono (arrives_submitUnread runs placed session)
      rintro stage admits _ ⟨⟩
      exact admits
  | none =>
      rw [bound] at placed
      have place : world.commands.At id (.leaving none parts) := ⟨placed, trivial⟩
      have old : ¬(Stage.leaving none parts).Fresh := not_false
      apply arrives_meanwhile place old
      · exact life_allowsSessions.keeps_currentSession runs
      · intro found after _ place
        cases found with
        | ok session =>
            exact arrives_mono (arrives_submitUnread runs place.toPlaced session) fun _ => nofun
        | error failure =>
            obtain ⟨_, there, _, left⟩ := place.fits
            have stranded := place.step .unplaced nofun (by
              rw [there]
              rintro _ ⟨⟩
              exact .inr left)
            have done : (after.commands.noted (.stranded id)).At id .stranded := ⟨stranded, trivial⟩
            exact arrives_altered
              (arrives_of_done done trivial nofun (life_allowsSessions.keeps_endFailure failure))

theorem arrives_release
    {buffer : CommandBuffer}
    (found : world.commands.buffers[id]? = some buffer)
    (owned : 0 < buffer.owners)
    (last : ¬1 < buffer.owners)
    (notInvoked : buffer.invoked = false)
    (place : world.commands.At id stage) :
    stage.Fresh ∧ Arrives id
      (fun stage => ∀ session, buffer.session = some session →
        stage.Admits id (.released id false (world.aliveIn session)))
      world ((World.release id).run eval) := by
  obtain ⟨parts, rfl, pending⟩ :=
    Stage.pending_of_fits (place.fits_some found) place.waits notInvoked owned
  refine ⟨trivial, ?_⟩
  have left := place.move (·.owned 0) .left nofun (by
    rw [found]
    exact ⟨_, rfl, pending.owned 0, rfl⟩)
  unfold World.release
  apply arrives_seen (World.run_getBuffer found owned)
  rw [if_neg last]
  apply arrives_altered
  apply arrives_forget
  exact arrives_giveUp runs left notInvoked

theorem life_release : (life id).Keeps ((World.release id).run eval) := by
  intro world
  refine keepsFrom_of_owned rfl ?_
  intro buffer found owned
  by_cases shared : 1 < buffer.owners
  · apply keepsFrom_getBuffer
    intro same foundToo _
    rw [found] at foundToo
    cases foundToo
    rw [if_pos shared]
    exact life_kept found owned (fun buffer => buffer.owned (buffer.owners - 1))
      (CommandBuffer.kept_owned (Nat.sub_pos_of_lt shared))
  · cases invoked : buffer.invoked with
    | true =>
        unfold KeepsFrom
        rw [World.run_release_of_invoked found owned invoked shared]
        exact life_stays fun place => (spent_leftTable found owned invoked place).2
    | false =>
        apply keepsFrom_of_arrives
        intro stage place
        exact arrives_release runs found owned shared invoked place

/-- Who has taken the last owner away leaves the command closed, or its session reports an error. -/
theorem life_leaveCommand : (life id).Keeps ((World.leaveCommand id).run eval) := by
  intro world
  apply keepsFrom_getBuffer
  intro buffer found owned
  apply keepsFrom_andThen (keeps_failuresOf buffer world)
  intro failures after looked
  rw [World.run_failuresOf] at looked
  cases looked
  unfold World.noteReleased
  by_cases last : buffer.owners ≤ 1 ∧ buffer.session.isSome = true
  · rw [if_pos last]
    obtain ⟨session, bound⟩ := Option.isSome_iff_exists.mp last.2
    have alone : ¬1 < buffer.owners := Nat.not_lt.mpr last.1
    cases invoked : buffer.invoked with
    | true =>
        unfold KeepsFrom
        rw [ReaderT.run_bind, run_bind, World.run_release_of_invoked found owned invoked alone]
        apply life_stays
        intro stage place
        obtain ⟨spent, left⟩ := spent_leftTable found owned invoked place
        have repeats : Stage.Repeats id (.released id true (world.aliveFor buffer)) :=
          ⟨rfl, .inl rfl⟩
        have known := Stage.known_of_not_fresh (Stage.not_fresh_of_spent spent)
        exact ⟨left.step (.again spent repeats) known left.fits, left.waits⟩
    | false =>
        have alive : world.aliveFor buffer = world.aliveIn session := by
          unfold World.aliveFor
          rw [bound]
        rw [alive]
        let event := CommandEvent.released id false (world.aliveIn session)
        have noted {stage : Stage} (place : world.commands.At id stage) :
            stage.Fresh ∧ Arrives id (Stage.Admits id event) world
              ((World.release id >>= fun _ => World.note event).run eval) := by
          obtain ⟨fresh, gone⟩ := arrives_release runs found owned alone invoked place
          refine ⟨fresh, arrives_andThen gone ?_⟩
          intro _ after later placeAfter done admits
          exact arrives_note placeAfter done (admits session bound)
        exact keepsFrom_of_arrives noted
  · rw [if_neg last]
    exact keeps_andThen (life_release runs) (fun _ => keeps_return ()) world

end Evaluation

/-! ## All hosts -/

theorem life_newBuffer (session? : Option SessionId) (base suffix : String) :
    (life id).Keeps
      ((World.newBuffer { session := session?, base, suffix }).run eval) := by
  intro world
  by_cases here : world.commands.nextId = id
  · apply life_moves
    intro stage place
    subst here
    have pending : CommandBuffer.Pending { session := session?, base, suffix } session? [] :=
      ⟨rfl, rfl, rfl, nofun⟩
    have made := place.made rfl pending Nat.one_pos
    obtain rfl := place.unknown Nat.le.refl
    exact ⟨trivial, _, ⟨made, trivial⟩, fun _ => not_false⟩
  · apply life_stays
    intro stage place
    have added := place.added_other here { session := session?, base, suffix }
    exact ⟨added.noted_other here, place.waits⟩

theorem life_allowsCommands (runs : (life id).atWork.Runs eval) : (life id).AllowsCommands eval where
  newBuffer := life_newBuffer
  append other text := by
    by_cases same : other = id
    · subst same
      exact life_append text
    · exact (life_allowsChanges same).keeps_append text
  prepend other text := by
    by_cases same : other = id
    · subst same
      exact life_prepend text
    · exact (life_allowsChanges same).keeps_prepend text
  absorb := life_absorb
  evaluateText other := by
    by_cases same : other = id
    · subst same
      exact life_evaluateText runs
    · exact (life_allowsChanges same).keeps_evaluateText life_allowsSessions runs
  share other := by
    by_cases same : other = id
    · subst same
      exact life_share
    · exact (life_allowsChanges same).keeps_share
  release other := by
    by_cases same : other = id
    · subst same
      exact life_release runs
    · exact (life_allowsChanges same).keeps_release life_allowsSessions runs
  lookAt other := by
    by_cases same : other = id
    · subst same
      exact life_lookAtCommand
    · exact (life_allowsChanges same).keeps_lookAtCommand
  ask other := by
    by_cases same : other = id
    · subst same
      exact life_askCommand runs
    · exact (life_allowsChanges same).keeps_askCommand life_allowsSessions runs
  read other := by
    by_cases same : other = id
    · subst same
      exact life_readCommand runs
    · exact (life_allowsChanges same).keeps_readCommand life_allowsSessions runs
  leave other := by
    by_cases same : other = id
    · subst same
      exact life_leaveCommand runs
    · exact (life_allowsChanges same).keeps_leaveCommand life_allowsSessions runs

theorem life_allowsHosts (id : BufferId) : (life id).AllowsHosts where
  sessions := life_allowsSessions
  commands _ runs := life_allowsCommands runs
  calls := allowsCalls_of_indifferent life_indifferent
  nesting := (allowsTables_of_indifferent life_indifferent).nesting

end Conduct

end ScriptBridge
