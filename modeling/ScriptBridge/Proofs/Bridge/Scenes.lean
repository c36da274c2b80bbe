import ScriptBridge.Proofs.Bridge.Sessions

/-!
# Scenes

What a script of a session sees is a scene: its interpreter and the cells of the host. Many scripts
do the same in a scene whatever else the host has: they end with a value, in another scene. Then so
does the session, and so does the world in which the session is open.
-/

namespace ScriptBridge

/-! ## A new interpreter -/

theorem nodup_initialCommands :
    (widgetClasses.map (·.1) ++ Builtin.table.map (·.1) ++ ["."]).Nodup := by
  decide +kernel

/-- A new interpreter knows each of its commands under its name. -/
theorem command?_initial
    {Key : Type}
    {name : String}
    {command : Command Key}
    (listed : (name, command) ∈
      widgetClasses.map (fun entry => (entry.1, Command.builtin .createWidget)) ++
        Builtin.table.map (fun entry => (entry.1, Command.builtin entry.2)) ++ [(".", .widget)])
    (simple : Name.key name = name) :
    (Interp.initial : Interp Key).command? name = some command := by
  have names := nodup_initialCommands
  rw [List.Nodup] at names
  rw [Interp.command?, simple]
  apply Std.TreeMap.getElem?_ofList_of_mem Std.ReflCmp.compare_self _ listed
  simp only [Std.compare_eq_iff_eq]
  rw [← List.pairwise_map (f := Prod.fst) (R := fun first second => ¬first = second)]
  simpa [List.map_append, List.map_map, Function.comp_def] using names

/-! ## Actions in scenes -/

structure Scene where
  interp : Interp Nat
  cells : Cells

def HostState.withCallbacks (host : HostState) (callbacks : CallbackTable) : HostState :=
  { host with session := { host.session with callbacks } }

namespace Scene

variable {α β : Type} {before middle after : Scene} {action : SessionAction α} {value : α}

def machine (scene : Scene) (clock : Nat) (host : HostState) : SessionMachine where
  interp := scene.interp
  cells := scene.cells
  clock := clock
  host := host

def atDepth (scene : Scene) (depth : Nat) : Scene :=
  { scene with interp := { scene.interp with depth } }

def withResult (scene : Scene) (result : String) : Scene :=
  { scene with interp := { scene.interp with result } }

/-- An action that starts in the one scene ends with a value in the other one, whatever the host is
otherwise. It may take callbacks from the host, but it does not call any. -/
def Yields (before : Scene) (action : SessionAction α) (value : α) (after : Scene) : Prop :=
  ∀ clock host, ∃ callbacks,
    action.run.run (before.machine clock host) =
      (.ok value, after.machine clock (host.withCallbacks callbacks))

theorem yields_of_run
    (ran : ∀ clock host,
      action.run.run (before.machine clock host) = (.ok value, after.machine clock host)) :
    before.Yields action value after :=
  fun clock host => ⟨host.session.callbacks, ran clock host⟩

theorem yields_pure (scene : Scene) (value : α) : scene.Yields (pure value) value scene :=
  yields_of_run fun _ _ => rfl

theorem Yields.bind
    {next : α → SessionAction β}
    {result : β}
    (first : before.Yields action value middle)
    (second : middle.Yields (next value) result after) :
    before.Yields (action >>= next) result after := by
  intro clock host
  obtain ⟨callbacks, ran⟩ := first clock host
  obtain ⟨others, ranNext⟩ := second clock (host.withCallbacks callbacks)
  refine ⟨others, ?_⟩
  rw [Conduct.run_bind, ran]
  exact ranNext

theorem yields_getInterp (scene : Scene) : scene.Yields Action.getInterp scene.interp scene :=
  yields_of_run fun _ _ => rfl

theorem yields_setDepth (scene : Scene) (depth : Nat) :
    scene.Yields (Action.setDepth depth) () (scene.atDepth depth) :=
  yields_of_run fun _ _ => rfl

theorem yields_setResult (scene : Scene) (result : String) :
    scene.Yields (Action.setResult result) () (scene.withResult result) :=
  yields_of_run fun _ _ => rfl

theorem yields_readVariable
    {scene : Scene}
    {name text : String}
    (found : scene.interp.store.get? scene.cells name = some text) :
    scene.Yields (Action.readVariable name) text scene := by
  apply yields_of_run
  intro clock host
  have there : (scene.machine clock host).valueOf? name = some text := found
  have read : (scene.machine clock host).readVariable name = .ok text := by
    unfold Machine.readVariable
    rw [there]
  show (Action.orFail id ((scene.machine clock host).readVariable name)).run.run _ = _
  rw [read]
  rfl

theorem yields_writeVariable
    {scene : Scene}
    {name value text : String}
    {store : VariableStore}
    {cells : Cells}
    (written : scene.interp.store.set scene.cells name value = .ok (text, store, cells)) :
    scene.Yields (Action.writeVariable name value) text
      { interp := { scene.interp with store }, cells } := by
  apply yields_of_run
  intro clock host
  have wrote : (scene.machine clock host).writeVariable name value =
      .ok (text, { interp := { scene.interp with store }, cells, clock, host }) := by
    show (scene.interp.store.set scene.cells name value >>= _) = _
    rw [written]
    rfl
  show (Action.orFail id ((scene.machine clock host).writeVariable name value) >>= _).run.run _ = _
  rw [wrote]
  rfl

theorem yields_getWidgets (scene : Scene) :
    scene.Yields Commands.getWidgets scene.interp.widgets scene :=
  yields_of_run fun _ _ => rfl

theorem yields_modifyWidgets (scene : Scene) (change : WidgetTable → WidgetTable) :
    scene.Yields (Action.modifyWidgets change) ()
      { scene with interp := { scene.interp with widgets := change scene.interp.widgets } } :=
  yields_of_run fun _ _ => rfl

/-- A command enters the table; the host may lose the callback of the one that had the name. -/
theorem yields_define (scene : Scene) (name : String) (command : Command Nat) :
    scene.Yields (modify fun machine => machine.define freeSlot name command) ⟨⟩
      { scene with
        interp := { scene.interp with
          commands := scene.interp.commands.insert (Name.key name) command } } := by
  intro clock host
  show ∃ callbacks, (Except.ok PUnit.unit,
    Machine.define (scene.machine clock host) freeSlot name command) = _
  unfold Machine.define Machine.released
  dsimp only
  split
  · exact ⟨_, rfl⟩
  · exact ⟨host.session.callbacks, rfl⟩

theorem yields_orFail
    {Fault : Type}
    {message : Fault → String}
    {result : Except Fault α}
    (succeeds : result = .ok value)
    (scene : Scene) :
    scene.Yields (Action.orFail message result) value scene := by
  subst succeeds
  exact yields_pure scene value

/-- An outcome that is looked at is that of an action. -/
theorem Yields.attempt (yields : before.Yields action value after) :
    before.Yields (Action.attempt action) (.ok value) after := by
  intro clock host
  obtain ⟨callbacks, ran⟩ := yields clock host
  refine ⟨callbacks, ?_⟩
  show (Except.ok (action.run.run (before.machine clock host)).1,
    (action.run.run (before.machine clock host)).2) = _
  rw [ran]

/-- Invoking a known command does what the command does, one level deeper. -/
theorem Yields.invoke
    {eval : SessionEvaluator}
    {name : String}
    {arguments : List String}
    {command : Command Nat}
    {value : String}
    (ran : (before.atDepth (before.interp.depth + 1)).Yields
      (command.run Session.hostCommands eval name arguments) value after)
    (known : before.interp.command? name = some command)
    (shallow : before.interp.depth < maxDepth) :
    before.Yields (invoke Session.hostCommands eval name arguments) value
      (after.atDepth before.interp.depth) := by
  unfold ScriptBridge.invoke
  apply (yields_getInterp before).bind
  rw [known]
  dsimp only
  rw [if_neg (Nat.not_le.mpr shallow)]
  apply (yields_setDepth before _).bind
  apply ran.attempt.bind
  apply (yields_setDepth after _).bind
  exact yields_of_run fun _ _ => rfl

/-- A script that ends with a value is submitted with it as its result. -/
theorem Yields.submit
    {eval : SessionEvaluator}
    {script value : String}
    (yields : before.Yields (eval.script script) value after) :
    before.Yields (submit eval script) (.ok ()) (after.withResult value) := by
  unfold ScriptBridge.submit
  apply yields.attempt.bind
  exact (yields_setResult after value).bind (yields_pure _ _)

end Scene

/-! ## Scenes of sessions -/

/-- What an evaluation that calls no callback leaves as it is. -/
structure HostState.Alike (before after : HostState) : Prop where
  running : after.running = before.running
  sessions : after.sessions = before.sessions
  settings : after.session.settings = before.session.settings
  current : after.current = before.current
  commands : after.commands = before.commands

theorem alike_dumped (script : String) (host : HostState) :
    host.Alike (Session.dumped script host) := by
  unfold Session.dumped HostState.writeError
  cases host.session.dump <;> exact ⟨rfl, rfl, rfl, rfl, rfl⟩

theorem HostState.Alike.withCallbacks
    {before after : HostState}
    (alike : before.Alike after)
    (callbacks : CallbackTable) :
    before.Alike (after.withCallbacks callbacks) :=
  ⟨alike.running, alike.sessions, alike.settings, alike.current, alike.commands⟩

section

variable {eval : SessionEvaluator} {before after : Scene} {script value : String}

/-- A session that evaluates what it is given answers with the value of a script. -/
theorem Session.run_evaluate_of_yields
    (yields : before.Yields (eval.script script) value after)
    (clock : Nat)
    (host : HostState)
    (evaluates : host.session.settings.evaluate = true) :
    ∃ host', host.Alike host' ∧
      (Session.evaluate eval script).run.run (before.machine clock host) =
        (.ok (.ok value), (after.withResult value).machine clock host') := by
  have alike := alike_dumped script host
  have evaluatesHere : (before.machine clock (Session.dumped script host)).host.session.settings.evaluate
      = true := alike.settings.symm ▸ evaluates
  obtain ⟨callbacks, ran⟩ := yields.submit clock (Session.dumped script host)
  refine ⟨_, alike.withCallbacks callbacks, ?_⟩
  unfold Session.evaluate
  rw [Conduct.run_bind]
  show (Session.getState >>= _).run.run (before.machine clock (Session.dumped script host)) = _
  rw [Session.run_getState_bind, if_pos evaluatesHere, Conduct.run_bind, ran]
  rfl

end

namespace World

variable {world : World} {id : SessionId} {eval : SessionEvaluator} {before after : Scene}

/-- A session of the world, which is one that evaluates what it is given, works in this scene. -/
structure Shows (world : World) (id : SessionId) (scene : Scene) : Prop where
  found : ∃ state : SessionState,
    world.sessions[id]? = some ⟨scene.interp, state⟩ ∧ state.settings.evaluate = true
  cells : world.cells = scene.cells

/-- A session acts in its scene. The commands of the host and the current session stay as they are. -/
theorem inSession_of_yields
    {α : Type}
    {value : α}
    (action : SessionEvaluator → SessionAction α)
    (shows : world.Shows id before)
    (yields : before.Yields (action eval) value after) :
    ∃ final : World,
      (inSession id action).outcome eval world = (.ok value, final) ∧
      final.Shows id after ∧ final.current = world.current ∧ final.commands = world.commands := by
  obtain ⟨⟨state, found, evaluates⟩, cells⟩ := shows
  have inside : id < world.sessions.size := (Array.getElem?_eq_some_iff.mp found).1
  let host : HostState := { world.toShared with running := id, session := state }
  have there : world.machineOf id ⟨before.interp, state⟩ = before.machine world.clock host := by
    rw [machineOf, cells]
    rfl
  obtain ⟨callbacks, ran⟩ := yields world.clock host
  refine ⟨ofMachine (after.machine world.clock (host.withCallbacks callbacks)), ?_, ?_, rfl, rfl⟩
  · unfold WorldAction.outcome
    rw [run_inSession_some found, there, ran]
    rfl
  · refine ⟨⟨{ state with callbacks }, ?_, evaluates⟩, rfl⟩
    show (world.sessions.setIfInBounds id _)[id]? = _
    rw [Array.getElem?_setIfInBounds_self_of_lt inside]
    rfl

/-- A session evaluates a script in its scene. The commands of the host and the current session stay
as they are. -/
theorem evaluate_of_yields
    {script value : String}
    (shows : world.Shows id before)
    (yields : before.Yields (eval.script script) value after) :
    ∃ final : World,
      (inSession id fun eval => Session.evaluate eval script).outcome eval world =
        (.ok (.ok value), final) ∧
      final.Shows id (after.withResult value) ∧
      final.current = world.current ∧ final.commands = world.commands := by
  obtain ⟨⟨state, found, evaluates⟩, cells⟩ := shows
  have inside : id < world.sessions.size := (Array.getElem?_eq_some_iff.mp found).1
  have there : world.machineOf id ⟨before.interp, state⟩ =
      before.machine world.clock { world.toShared with running := id, session := state } := by
    rw [machineOf, cells]
    rfl
  obtain ⟨host, alike, ran⟩ := Session.run_evaluate_of_yields yields world.clock
    { world.toShared with running := id, session := state } evaluates
  refine ⟨ofMachine ((after.withResult value).machine world.clock host), ?_, ?_, ?_, ?_⟩
  · unfold WorldAction.outcome
    rw [run_inSession_some found, there, ran]
    rfl
  · refine ⟨⟨host.session, ?_, ?_⟩, rfl⟩
    · show (host.sessions.setIfInBounds host.running _)[id]? = _
      rw [alike.sessions, alike.running, Array.getElem?_setIfInBounds_self_of_lt inside]
      rfl
    · rw [alike.settings]
      exact evaluates
  · exact alike.current
  · exact alike.commands

end World

end ScriptBridge
