import ScriptBridge.Proofs.Bridge.CallbackHistory
import ScriptBridge.Proofs.Bridge.LinkTables

/-!
# Calls of callbacks

A callback starts where the linked texts have been copied to the host. What it does then is up to
its program, which may evaluate scripts, call other callbacks, link variables and end links. If it
succeeds, the texts that are linked by then are copied back; if it fails, nothing more happens. As
each linked text has a buffer of its own whatever programs do, all linked texts agree where
callbacks start and where their calls have succeeded.
-/

namespace ScriptBridge

/-! ## Buffers of linked texts -/

namespace Session

theorem name?_of_mem_linked
    {machine : SessionMachine}
    {entry : Nat × String}
    (member : entry ∈ linked machine) :
    machine.host.session.links.name? (.text entry.1) = some entry.2 :=
  Std.TreeMap.mem_toList_iff_getElem?_eq_some.mp member

/-- The links that mirror a table hold a buffer for each text in it. -/
theorem hasBuffers
    (machine : SessionMachine)
    (fits : OpenSession.LinksMirrored ⟨machine.interp, machine.host.session⟩) :
    HasBuffers machine := by
  have key : ∀ entry ∈ linked machine, Name.key entry.2 = entry.2 :=
    fun entry member => fits.mirrored.key fits.valid (name?_of_mem_linked member)
  constructor
  · intro entry member
    rw [VariableStore.buffer?_isSome_iff, key entry member]
    exact fits.mirrored.linked (name?_of_mem_linked member)
  · refine List.Pairwise.imp_of_mem ?_ machine.host.session.links.texts.distinct_keys_toList
    intro first second isFirst isSecond differ same
    rw [key first isFirst, key second isSecond] at same
    have named := name?_of_mem_linked isSecond
    rw [← same] at named
    have sameText := fits.mirrored.distinct (name?_of_mem_linked isFirst) named
    exact differ (Std.compare_eq_iff_eq.mpr (HostVariable.text.inj sameText))

end Session

/-! ## Calls in the history -/

/-- The linked texts agree where a callback starts and where a call ends after it has succeeded. -/
def CallbackEvent.Agrees : CallbackEvent → Prop
  | .started _ copies | .returned _ copies => ∀ copy ∈ copies, copy.Agrees
  | .taken _ | .freed _ => True

def CallbackTable.CallsAgree (callbacks : CallbackTable) : Prop :=
  ∀ event ∈ callbacks.history, event.Agrees

theorem CallbackTable.CallsAgree.noted
    {callbacks : CallbackTable}
    {event : CallbackEvent}
    (calls : callbacks.CallsAgree)
    (agrees : event.Agrees) :
    (callbacks.noted event).CallsAgree :=
  List.forall_mem_cons.mpr ⟨agrees, calls⟩

/-- Calls of callbacks stay in order. -/
def CallbackTable.KeepsCalls (before after : CallbackTable) : Prop :=
  before.CallsAgree → after.CallsAgree

instance : IsPreorder CallbackTable CallbackTable.KeepsCalls where
  refl _ := id
  trans _ _ _ first second := fun calls => second (first calls)

theorem CallbackTable.CallsAgree.initial : CallbackTable.CallsAgree {} :=
  fun _ member => nomatch member

namespace Conduct

theorem keepsCalls_allowsTables : (ofCallbacks CallbackTable.KeepsCalls).AllowsTables := by
  have freed : ∀ (callbacks : CallbackTable) (slot : Nat),
      callbacks.CallsAgree → (callbacks.freed slot).CallsAgree := by
    intro callbacks slot calls
    unfold CallbackTable.CallsAgree
    rw [CallbackTable.history_freed]
    split
    · exact List.forall_mem_cons.mpr ⟨trivial, calls⟩
    · exact calls
  have taken : ∀ (callbacks : CallbackTable) (callback : Callback),
      callbacks.CallsAgree → (callbacks.taken callback).CallsAgree :=
    fun _ _ calls => List.forall_mem_cons.mpr ⟨trivial, calls⟩
  exact ofCallbacks_allowsTables freed taken

end Conduct

/-- The links of a session are in order, and so are all calls of its callbacks. -/
structure OpenSession.Synchronised (session : OpenSession) : Prop
    extends session.LinksMirrored where
  calls : session.state.callbacks.CallsAgree

namespace Conduct

theorem synchronised_allowsSessions : (everySession OpenSession.Synchronised).AllowsSessions := by
  apply AllowsSessions.both linksMirrored_allowsSessions keepsCalls_allowsTables.allowsSessions
  intro finished before after keepsLinks keepsCalls every id session found
  have links := keepsLinks (fun id session found => (every id session found).toLinksMirrored)
  have callsBefore : before.Every fun session => session.state.callbacks.CallsAgree :=
    fun id session found => (every id session found).calls
  have calls := keepsCalls id (World.callbacksOf_of_every _ callsBefore .initial id)
  rw [World.callbacksOf_of_found found] at calls
  exact ⟨links id session found, calls⟩

theorem synchronised_allowsCalls : (everySession OpenSession.Synchronised).atWork.AllowsCalls where
  entered := by
    intro machine slot used
    refine everySession_atWork rfl rfl fun synchronised => ⟨?_, ?_⟩
    · exact ⟨synchronised.valid, synchronised.mirrored⟩
    · exact synchronised.calls.noted
        (Session.hasBuffers machine synchronised.toLinksMirrored).agrees_withTexts
  left := by
    intro machine slot
    refine everySession_atWork rfl rfl fun synchronised => ⟨?_, ?_⟩
    · exact ⟨synchronised.valid,
        synchronised.mirrored.sameLinks (VariableStore.sameLinks_setBuffers _)⟩
    · exact synchronised.calls.noted
        (Session.hasBuffers machine synchronised.toLinksMirrored).agrees_withBuffers

theorem synchronised_allowsHosts : (everySession OpenSession.Synchronised).AllowsHosts where
  sessions := synchronised_allowsSessions
  commands _ runs := allowsCommands_of_indifferent synchronised_allowsSessions (fun _ _ => id) runs
  calls := synchronised_allowsCalls
  nesting :=
    everySession_allowsNesting
      (fun _ _ ⟨inOrder, calls⟩ => ⟨⟨inOrder.valid, inOrder.mirrored⟩, calls⟩)
      fun _ _ ⟨inOrder, calls⟩ => ⟨⟨inOrder.valid, inOrder.mirrored⟩, calls⟩

end Conduct

/-! ## One call -/

namespace Session

variable {machine : SessionMachine}

/-- How a call ends when the program of its callback has ended: where it has succeeded, linked texts
are copied back; where it has failed, nothing more is done. -/
def callEnd
    (slot : Nat) :
    Except Interruption (Except String (Option String)) × SessionMachine →
      Except Interruption String × SessionMachine
  | (.ok (.ok result), after) => (.ok (result.getD ""), left after slot)
  | (.ok (.error message), after) => (.error (.error message), after)
  | (.error interruption, after) => (.error interruption, after)

/-- The program of a callback starts where the linked texts have been copied to the host. -/
theorem run_dispatch
    (eval : SessionEvaluator)
    {slot : Nat}
    {callback : Callback}
    (found : machine.host.session.callbacks.slots[slot]? = some callback)
    (words : List String) :
    (dispatch eval slot words).run.run machine =
      callEnd slot
        ((outside eval (World.run [] (callback ⟨words⟩))).run.run (entered machine slot)) := by
  unfold dispatch
  rw [run_getState_bind, found]
  dsimp only
  rw [Conduct.run_bind, run_enter]
  dsimp only
  rw [Conduct.run_bind]
  generalize (outside eval _).run.run (entered machine slot) = ended
  obtain ⟨outcome, after⟩ := ended
  cases outcome with
  | error interruption => rfl
  | ok result =>
      cases result with
      | error message => rfl
      | ok result =>
          dsimp only
          rw [Conduct.run_bind, run_leave]
          rfl

/-- What a session has become while the host was acting in its midst. -/
theorem eq_of_run_outside
    {α : Type}
    {eval : SessionEvaluator}
    {action : WorldAction α}
    {value : α}
    {after : SessionMachine}
    (ran : (outside eval action).run.run machine = (.ok value, after)) :
    ∃ (world : World) (session : OpenSession),
      action.outcome eval (World.ofMachine machine) = (.ok value, world) ∧
      world.sessions[machine.host.running]? = some session ∧
      after = world.machineOf machine.host.running session := by
  have ended : (resumeFrom machine.host.running
      (action.outcome eval (World.ofMachine machine))).run.run machine = (.ok value, after) := ran
  generalize action.outcome eval (World.ofMachine machine) = result at ended
  obtain ⟨outcome, world⟩ := result
  unfold resumeFrom at ended
  split at ended
  · cases ended
  · rename_i session found
    cases outcome with
    | error fault => cases ended
    | ok value =>
        cases ended
        exact ⟨world, session, rfl, found, rfl⟩

/-- A program that fails at once leaves the session as it is. -/
theorem run_outside_fail
    (eval : SessionEvaluator)
    (inside : machine.host.running < machine.host.sessions.size)
    (message : String) :
    (outside eval (World.run [] (.fail message))).run.run machine =
      (.ok (.error message),
        { machine with
          host := { machine.host with
            sessions := machine.host.sessions.setIfInBounds machine.host.running
              ⟨machine.interp, machine.host.session⟩ } }) := by
  let result : Except Unfinished (Except String (Option String)) := .ok (.error message)
  show (resumeFrom machine.host.running (result, World.ofMachine machine)).run.run machine = _
  have back : (World.ofMachine machine).sessions[machine.host.running]? =
      some ⟨machine.interp, machine.host.session⟩ :=
    Array.getElem?_setIfInBounds_self_of_lt inside
  unfold resumeFrom
  dsimp only
  rw [back]
  rfl

/-- A callback that finds no argument of the kind it asks for does nothing. -/
theorem run_dispatch_of_argument_error
    {α : Type}
    [FromText α]
    (eval : SessionEvaluator)
    (inside : machine.host.running < machine.host.sessions.size)
    {slot : Nat}
    {callback : Callback}
    (found : machine.host.session.callbacks.slots[slot]? = some callback)
    {words : List String}
    {index : Nat}
    {next : α → HostProgram}
    {failure : Failure}
    (asks : callback ⟨words⟩ = .withArgument ⟨words⟩ index next)
    (refused : (⟨words⟩ : Parameters).get α index = .error failure) :
    ∃ after,
      (dispatch eval slot words).run.run machine = (.error (.error failure.message), after) ∧
      after.interp = machine.interp ∧
      after.host.texts = (entered machine slot).host.texts := by
  have fails : callback ⟨words⟩ = .fail failure.message := by
    rw [asks, HostProgram.withArgument, refused]
  let start := entered machine slot
  have insideThen : start.host.running < start.host.sessions.size := inside
  rw [run_dispatch eval found, fails, run_outside_fail eval insideThen]
  exact ⟨_, rfl, rfl, rfl⟩

end Session

/-! ## Reachable worlds -/

namespace World

theorem synchronised_opened
    (environment : Settings.Environment)
    {sessions : List (InterpAccess × Settings)}
    (valid : ∀ entry ∈ sessions, entry.2.validate = .ok ()) :
    (opened environment sessions).Every OpenSession.Synchronised :=
  every_opened environment fun entry known =>
    ⟨⟨valid entry known, .initial entry.2⟩, .initial⟩

/-- When the program of a callback has ended, the links of its session are in order, as they were
where it started. -/
theorem linksMirrored_of_run_outside
    {machine after : SessionMachine}
    {fuel : Nat}
    {callback : HostProgram}
    {result : Except String (Option String)}
    (every : (ofMachine machine).Every OpenSession.Synchronised)
    (ran : (Session.outside (Session.evaluatorOf fuel) (run [] callback)).run.run machine =
      (.ok result, after)) :
    OpenSession.LinksMirrored ⟨after.interp, after.host.session⟩ := by
  obtain ⟨final, own, finished, there, rfl⟩ := Session.eq_of_run_outside ran
  have ended : callback.outcome fuel (ofMachine machine) = (.ok result, final) := finished
  have keeps := Conduct.synchronised_allowsHosts.allows_outcome callback fuel (ofMachine machine)
  rw [ended] at keeps
  exact (keeps every _ own there).toLinksMirrored

/-- In all that hosts and scripts have done, linked texts agree wherever a callback starts and
wherever a call ends after it has succeeded. So they do in each further call of a slot in use. The
first pass comes before the program of the callback, the second one after it and only if it
succeeds; where it fails, or finds no argument of the kind it asks for, nothing is copied any more.
A call of another slot copies nothing and fails. -/
theorem calls_synchronised
    (environment : Settings.Environment)
    (sessions : List (InterpAccess × Settings))
    (valid : ∀ entry ∈ sessions, entry.2.validate = .ok ())
    (program : HostProgram)
    (fuel : Nat)
    {id : SessionId}
    {session : OpenSession}
    (found : (program.outcome fuel (opened environment sessions)).2.sessions[id]? = some session) :
    (∀ event ∈ session.state.callbacks.history, event.Agrees) ∧
    let machine := (program.outcome fuel (opened environment sessions)).2.machineOf id session
    ∀ (fuel slot : Nat) (words : List String),
      let eval := Session.evaluatorOf fuel
      let call := (Session.dispatch eval slot words).run.run machine
      (slot ∉ session.state.callbacks.slots →
        call = (.error (.error Failure.unknownCallback.message), machine)) ∧
      ∀ callback, session.state.callbacks.slots[slot]? = some callback →
        let start := Session.entered machine slot
        let ended := (Session.outside eval (run [] (callback ⟨words⟩))).run.run start
        (∀ copy ∈ Session.copies start, copy.Agrees) ∧
        call = Session.callEnd slot ended ∧
        (∀ result after, ended = (.ok (.ok result), after) →
          ∀ copy ∈ Session.copies (Session.left after slot), copy.Agrees) ∧
        ∀ (α : Type) [FromText α] index (next : α → HostProgram) failure,
          callback ⟨words⟩ = .withArgument ⟨words⟩ index next →
          (⟨words⟩ : Parameters).get α index = .error failure →
            ∃ after, call = (.error (.error failure.message), after) ∧
              after.interp = machine.interp ∧
              after.host.texts = start.host.texts := by
  have kept := Conduct.synchronised_allowsHosts.allows_outcome program fuel
    (opened environment sessions)
  have every := kept (synchronised_opened environment valid)
  generalize (program.outcome fuel (opened environment sessions)).2 = world at found every ⊢
  refine ⟨(every id session found).calls, ?_⟩
  intro machine fuel slot words eval call
  refine ⟨fun free => Session.run_dispatch_of_free eval free words, ?_⟩
  intro callback isThere start ended
  have used : slot ∈ machine.host.session.callbacks.slots :=
    Std.TreeMap.mem_iff_isSome_getElem?.mpr (isThere ▸ rfl)
  have inside : machine.host.running < machine.host.sessions.size :=
    (Array.getElem?_eq_some_iff.mp found).1
  refine ⟨?_, Session.run_dispatch eval isThere words, ?_, ?_⟩
  · exact (Session.hasBuffers machine (every id session found).toLinksMirrored).agrees_withTexts
  · intro result after ran
    have everyBefore : (ofMachine start).Every OpenSession.Synchronised := by
      apply (Conduct.synchronised_allowsCalls.entered used).2
      rwa [ofMachine_machineOf found]
    have links := linksMirrored_of_run_outside everyBefore ran
    exact (Session.hasBuffers after links).agrees_withBuffers
  · intro α _ index next failure asks refused
    exact Session.run_dispatch_of_argument_error eval inside isThere asks refused

/-- A callback changes a linked text, and the change is copied to the interpreter. -/
theorem calls_synchronised_of_change :
    let program : HostProgram :=
      .ask (.link 0 (.text 1)) fun _ =>
        .register 0
          (fun _ => .ask (.setText 1 "changed") fun _ => .finish (some "done"))
          fun _ => .finish none
    let world := (program.outcome 0 (opened (fun _ => none) [(.open, {})])).2
    ∃ (session : OpenSession) (after : SessionMachine),
      world.sessions[0]? = some session ∧
      (Session.dispatch (Session.evaluatorOf 0) 0 ["rtk::callback0"]).run.run
          (world.machineOf 0 session) =
        (.ok "done", Session.left after 0) ∧
      (Session.copies after).map TextCopy.buffer = [some ""] ∧
      (Session.copies after).map TextCopy.text = ["changed"] ∧
      ∀ copy ∈ Session.copies (Session.left after 0), copy.Agrees := by
  intro program world
  let ended (session : OpenSession) (callback : Callback) :=
    (Session.outside (Session.evaluatorOf 0) (run [] (callback ⟨["rtk::callback0"]⟩))).run.run
      (Session.entered (world.machineOf 0 session) 0)
  have looked : (world.sessions[0]?.bind fun session =>
      session.state.callbacks.slots[0]?.map fun callback =>
        ((ended session callback).1, Session.copies (ended session callback).2)) =
      some (.ok (.ok (some "done")), [⟨1, some "", "changed"⟩]) := by
    decide +kernel
  have here : world = (program.outcome 0 (opened (fun _ => none) [(.open, {})])).2 := rfl
  clear_value world
  obtain ⟨session, found, inside⟩ := Option.bind_eq_some_iff.mp looked
  obtain ⟨callback, isThere, same⟩ := Option.map_eq_some_iff.mp inside
  obtain ⟨succeeded, copies⟩ := Prod.mk.inj same
  have valid : ∀ entry ∈ [(InterpAccess.open, ({} : Settings))], entry.2.validate = .ok () := by
    decide
  obtain ⟨-, further⟩ := calls_synchronised (fun _ => none) [(.open, {})] valid program 0
    (here ▸ found)
  obtain ⟨-, calls⟩ := further 0 0 ["rtk::callback0"]
  obtain ⟨-, call, agree, -⟩ := calls callback isThere
  rw [← here] at call agree
  have whole : ended session callback = (.ok (.ok (some "done")), (ended session callback).2) :=
    Prod.ext succeeded rfl
  refine ⟨session, (ended session callback).2, found, ?_, ?_, ?_, agree _ _ whole⟩
  · exact call.trans (congrArg (Session.callEnd 0) whole)
  · rw [copies]
    rfl
  · rw [copies]
    rfl

end World

end ScriptBridge
