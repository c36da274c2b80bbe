import ScriptBridge.Proofs.Bridge.CallbackTables
import ScriptBridge.Proofs.Bridge.GeneratedNames

/-!
# Registrations

A registration makes a command under a generated name, and its end deletes whatever command has that
name by then. Scripts may have given the name to the command of another callback. Then that callback
goes too, as its slot is freed with its command; no other callback is ever touched.
-/

namespace ScriptBridge

namespace Session

variable {eval : SessionEvaluator} {machine : SessionMachine} {name : String} {slot : Nat}

/-- The session when it has reported a failure. -/
def inFailure (machine : SessionMachine) : SessionMachine :=
  { machine with
    host := { machine.host with
      session := { machine.host.session with
        failuresAlive := machine.host.session.failuresAlive + 1 } } }

/-! ## What a registration does -/

theorem run_register_of_refusing
    (eval : SessionEvaluator)
    (refuses : machine.host.session.access = .refusing)
    (callback : Callback) :
    ∃ message, (register eval callback).run.run machine =
      (.ok (.error (.interpreter message (some machine.host.running))),
        let callbacks := machine.host.session.callbacks
        inFailure
          (withCallbacks machine ((callbacks.taken callback).freed callbacks.nextSlot))) := by
  obtain ⟨interp, cells, clock, shared, running, settings, access, callbacks, links, failures, dump,
    deferred⟩ := machine
  obtain rfl : access = .refusing := refuses
  exact ⟨_, rfl⟩

theorem run_register
    (release : eval.release = freeSlot)
    (allowed : machine.host.session.access ≠ .refusing)
    (callback : Callback) :
    let callbacks := machine.host.session.callbacks
    let name := machine.host.session.settings.callbackName callbacks.nextSlot
    (register eval callback).run.run machine =
      (.ok (.ok name),
        withCallbacks
          { machine with
            interp := { machine.interp with
              commands :=
                machine.interp.commands.insert (Name.key name) (.host callbacks.nextSlot) } }
          ((callbacks.taken callback).releasing machine.interp.commands[Name.key name]?)) := by
  obtain ⟨interp, cells, clock, shared, running, settings, access, callbacks, links, failures, dump,
    deferred⟩ := machine
  cases access with
  | refusing => exact absurd rfl allowed
  | «open» | closed =>
      show (_, Machine.define _ eval.release _ _) = _
      rw [release, Machine.define, Machine.released_freeSlot]
      rfl

/-! ## What the end of a registration does -/

theorem run_unregister_of_free
    (eval : SessionEvaluator)
    (isName : slotOf? machine.host.session.settings name = some slot)
    (free : slot ∉ machine.host.session.callbacks.slots) :
    (unregister eval name).run.run machine = (.ok (.ok ()), machine) := by
  unfold unregister
  rw [run_getState_bind, isName]
  dsimp only
  rw [if_neg (by rwa [← Std.TreeMap.mem_iff_contains])]
  rfl

/-- The command that the session takes away from a name, if it may and if there is one. -/
def removable? (machine : SessionMachine) (name : String) : Option (Command Nat) :=
  match machine.host.session.access with
  | .refusing => none
  | _ => machine.interp.commands[Name.key name]?

theorem run_deleteCommand_of_none
    (eval : SessionEvaluator)
    (noCommand : removable? machine name = none) :
    ∃ message, (deleteCommand eval name).run.run machine = (.ok (.error message), machine) := by
  unfold removable? at noCommand
  unfold deleteCommand
  rw [run_getState_bind]
  split
  · exact ⟨_, rfl⟩
  · rename_i allowed
    split at noCommand
    · rename_i refuses
      exact absurd refuses allowed
    · rw [run_get_bind, Machine.removeCommand]
      dsimp only
      rw [noCommand]
      exact ⟨_, rfl⟩

theorem run_deleteCommand_of_some
    {command : Command Nat}
    (release : eval.release = freeSlot)
    (found : removable? machine name = some command) :
    (deleteCommand eval name).run.run machine =
      (.ok (.ok ()),
        withCallbacks
          { machine with
            interp := { machine.interp with
              commands := machine.interp.commands.erase (Name.key name) } }
          (machine.host.session.callbacks.releasing (some command))) := by
  unfold removable? at found
  unfold deleteCommand
  rw [run_getState_bind]
  split
  · rename_i refuses
    rw [refuses] at found
    cases found
  · split at found
    · cases found
    · rw [run_get_bind, Machine.removeCommand]
      dsimp only
      rw [found, release]
      dsimp only
      rw [Machine.released_freeSlot]
      rfl

/-- The registration ends first, and then the command is deleted. -/
theorem run_unregister_of_used
    (isName : slotOf? machine.host.session.settings name = some slot)
    (used : slot ∈ machine.host.session.callbacks.slots) :
    (unregister eval name).run.run machine =
      (do
        match ← deleteCommand eval name with
        | .ok _ => return .ok ()
        | .error message => return .error (← raise message) :
          SessionAction (Except Failure Unit)).run.run
        (withCallbacks machine (machine.host.session.callbacks.freed slot)) := by
  unfold unregister
  rw [run_getState_bind, isName]
  dsimp only
  rw [if_pos (by rwa [← Std.TreeMap.mem_iff_contains])]
  rfl

/-- The registration also ends where no command is deleted. -/
theorem run_unregister_of_not_removable
    (eval : SessionEvaluator)
    (isName : slotOf? machine.host.session.settings name = some slot)
    (used : slot ∈ machine.host.session.callbacks.slots)
    (noCommand : removable? machine name = none) :
    ∃ message, (unregister eval name).run.run machine =
      (.ok (.error (.interpreter message (some machine.host.running))),
        inFailure (withCallbacks machine (machine.host.session.callbacks.freed slot))) := by
  let freed := withCallbacks machine (machine.host.session.callbacks.freed slot)
  have noCommandThen : removable? freed name = none := noCommand
  obtain ⟨message, refused⟩ := run_deleteCommand_of_none eval noCommandThen
  rw [run_unregister_of_used isName used, Conduct.run_bind, refused]
  exact ⟨_, rfl⟩

theorem run_unregister_of_removable
    {command : Command Nat}
    (isName : slotOf? machine.host.session.settings name = some slot)
    (used : slot ∈ machine.host.session.callbacks.slots)
    (release : eval.release = freeSlot)
    (found : removable? machine name = some command) :
    (unregister eval name).run.run machine =
      (.ok (.ok ()),
        withCallbacks
          { machine with
            interp := { machine.interp with
              commands := machine.interp.commands.erase (Name.key name) } }
          ((machine.host.session.callbacks.freed slot).releasing (some command))) := by
  let freed := withCallbacks machine (machine.host.session.callbacks.freed slot)
  have foundThen : removable? freed name = some command := found
  rw [run_unregister_of_used isName used, Conduct.run_bind,
    run_deleteCommand_of_some release foundThen]
  rfl

end Session

/-! ## What becomes of the other callbacks -/

/-- Of its callbacks beside the one in a slot, a session has lost the one that was called by a name.
Only the command of that name has changed. -/
structure OpenSession.LosesAt
    (before after : OpenSession)
    (name : String)
    (slot : Nat) : Prop where
  others : ∀ other ≠ slot,
    other ∈ after.state.callbacks.slots ↔
      other ∈ before.state.callbacks.slots ∧
        before.interp.commands[name]? ≠ some (.host other)
  commands : ∀ place ≠ name, after.interp.commands[place]? = before.interp.commands[place]?

/-- The registration of a slot has ended, and so has that of another slot if a command of this name
called it. -/
structure OpenSession.EndsAt
    (before after : OpenSession)
    (name : String)
    (slot : Nat) : Prop extends before.LosesAt after name slot where
  ended : slot ∉ after.state.callbacks.slots
  sameNext : after.state.callbacks.nextSlot = before.state.callbacks.nextSlot
  deleted : after.interp.commands[name]? = none
  alone : (∀ other ≠ slot, other ∈ before.state.callbacks.slots →
      before.interp.commands[name]? ≠ some (.host other)) →
    before.state.callbacks.slots.size = after.state.callbacks.slots.size + 1
  together : ∀ other ≠ slot, other ∈ before.state.callbacks.slots →
    before.interp.commands[name]? = some (.host other) →
      before.state.callbacks.slots.size = after.state.callbacks.slots.size + 2

namespace CallbackTable

variable {callbacks : CallbackTable} {slot : Nat}

theorem size_freed_of_mem (used : slot ∈ callbacks.slots) :
    callbacks.slots.size = (callbacks.freed slot).slots.size + 1 := by
  rw [Std.TreeMap.mem_iff_contains] at used
  have positive : callbacks.slots.size ≠ 0 := by
    have nonempty := Std.TreeMap.isEmpty_eq_false_of_contains used
    rwa [Std.TreeMap.isEmpty_eq_size_eq_zero, beq_eq_false_iff_ne] at nonempty
  show _ = (callbacks.slots.erase slot).size + 1
  rw [Std.TreeMap.size_erase, if_pos used]
  omega

theorem size_freed_of_not_mem (free : slot ∉ callbacks.slots) :
    (callbacks.freed slot).slots.size = callbacks.slots.size := by
  rw [Std.TreeMap.mem_iff_contains] at free
  show (callbacks.slots.erase slot).size = _
  rw [Std.TreeMap.size_erase, if_neg free]

/-- Nothing is lost with a command that calls no slot in use. -/
theorem size_releasing
    {old : Option (Command Nat)}
    (unused : ∀ slot ∈ callbacks.slots, old ≠ some (.host slot)) :
    (callbacks.releasing old).slots.size = callbacks.slots.size := by
  unfold releasing
  split
  · rename_i slot
    exact size_freed_of_not_mem fun used => unused slot used rfl
  · rfl

end CallbackTable

theorem OpenSession.endsAt
    {before after : OpenSession}
    {name : String}
    {slot : Nat}
    (used : slot ∈ before.state.callbacks.slots)
    (callbacks : after.state.callbacks =
      (before.state.callbacks.freed slot).releasing before.interp.commands[name]?)
    (commands : ∀ place : String, after.interp.commands[place]? =
      if name = place then none else before.interp.commands[place]?) :
    before.EndsAt after name slot where
  others := by
    intro other differs
    rw [callbacks, InStep.mem_releasing, InStep.mem_freed]
    exact ⟨fun ⟨notOld, _, live⟩ => ⟨live, notOld⟩,
      fun ⟨live, notOld⟩ => ⟨notOld, differs.symm, live⟩⟩
  commands place differs := by rw [commands, if_neg differs.symm]
  ended := by
    rw [callbacks, InStep.mem_releasing, InStep.mem_freed]
    exact fun ⟨_, differs, _⟩ => differs rfl
  sameNext := by
    rw [callbacks, InStep.nextSlot_releasing]
    rfl
  deleted := by rw [commands, if_pos rfl]
  alone := by
    intro noOther
    rw [callbacks, CallbackTable.size_releasing, CallbackTable.size_freed_of_mem used]
    intro other live
    obtain ⟨differs, live⟩ := InStep.mem_freed.mp live
    exact noOther other differs.symm live
  together := by
    intro other differs live called
    have stillLive : other ∈ (before.state.callbacks.freed slot).slots :=
      InStep.mem_freed.mpr ⟨differs.symm, live⟩
    rw [callbacks, called]
    show _ = ((before.state.callbacks.freed slot).freed other).slots.size + 2
    rw [CallbackTable.size_freed_of_mem used, CallbackTable.size_freed_of_mem stillLive]

namespace Session

variable {machine : SessionMachine} {eval : SessionEvaluator} {name : String} {slot : Nat}

/-- A session whose callbacks have their commands in the interpreter unregisters a name. -/
theorem run_unregister
    (isName : slotOf? machine.host.session.settings name = some slot)
    (used : slot ∈ machine.host.session.callbacks.slots)
    (release : eval.release = freeSlot)
    (allowed : machine.host.session.access ≠ .refusing) :
    ∃ answer after, (unregister eval name).run.run machine = (.ok answer, after) ∧
      after.host.running = machine.host.running ∧
      after.host.sessions = machine.host.sessions ∧
      (∀ failure, answer = .error failure → failure.scope? = some machine.host.running) ∧
      OpenSession.EndsAt ⟨machine.interp, machine.host.session⟩
        ⟨after.interp, after.host.session⟩ (Name.key name) slot := by
  have there : removable? machine name = machine.interp.commands[Name.key name]? := by
    unfold removable?
    split
    · exact absurd ‹_› allowed
    · rfl
  cases found : machine.interp.commands[Name.key name]? with
  | none =>
      obtain ⟨message, ran⟩ :=
        run_unregister_of_not_removable eval isName used (there.trans found)
      refine ⟨_, _, ran, rfl, rfl, ?_, ?_⟩
      · rintro failure equality
        obtain rfl := Except.error.inj equality
        rfl
      · apply OpenSession.endsAt used
        · show _ = CallbackTable.releasing _ machine.interp.commands[Name.key name]?
          rw [found]
          rfl
        · intro place
          split
          · rename_i here
            exact here ▸ found
          · rfl
  | some command =>
      refine ⟨_, _, run_unregister_of_removable isName used release (there.trans found), rfl, rfl,
        nofun, ?_⟩
      apply OpenSession.endsAt used
      · show _ = CallbackTable.releasing _ machine.interp.commands[Name.key name]?
        rw [found]
        rfl
      · exact InStep.getElem?_erase machine.interp.commands (Name.key name)

end Session

namespace World

variable {world : World} {id : SessionId} {session : OpenSession} {eval : SessionEvaluator}

theorem access_ne_of_isOpen (isOpen : session.isOpen = true) :
    session.state.access ≠ .refusing := by
  intro refuses
  unfold OpenSession.isOpen at isOpen
  rw [refuses] at isOpen
  contradiction

theorem unregister_endsAt
    {name : String}
    {slot : Nat}
    (found : world.sessions[id]? = some session)
    (isOpen : session.isOpen = true)
    (release : eval.release = freeSlot)
    (isName : Session.slotOf? session.state.settings name = some slot)
    (used : slot ∈ session.state.callbacks.slots) :
    ∃ answer final after,
      (inSession id fun eval => Session.unregister eval name).outcome eval world =
        (.ok answer, final) ∧
      final.sessions[id]? = some after ∧
      (∀ failure, answer = .error failure → failure.scope? = some id) ∧
      session.EndsAt after (Name.key name) slot := by
  have isNameThere :
      Session.slotOf? (world.machineOf id session).host.session.settings name = some slot := isName
  obtain ⟨answer, after, ran, sameRunning, sameSessions, scopes, endsAt⟩ :=
    Session.run_unregister isNameThere used release (access_ne_of_isOpen isOpen)
  obtain ⟨ended, there⟩ := outcome_inSession (fun eval => Session.unregister eval name) found ran
    sameRunning sameSessions
  exact ⟨answer, _, _, ended, there, scopes, endsAt⟩

theorem dropHandle_endsAt
    (handle : CallbackHandle)
    {slot : Nat}
    (found : world.sessions[handle.session]? = some session)
    (isOpen : session.isOpen = true)
    (release : eval.release = freeSlot)
    (isName : Session.slotOf? session.state.settings handle.name = some slot)
    (used : slot ∈ session.state.callbacks.slots) :
    ∃ final after,
      (dropHandle handle).outcome eval world = (.ok (), final) ∧
      final.sessions[handle.session]? = some after ∧
      session.EndsAt after (Name.key handle.name) slot := by
  obtain ⟨answer, middle, after, ended, there, scopes, endsAt⟩ :=
    unregister_endsAt found isOpen release isName used
  have unregistered : (unregisterHandle handle).outcome eval world = (.ok answer, middle) := ended
  unfold dropHandle
  rw [outcome_bind unregistered]
  cases answer with
  | ok _ => exact ⟨middle, after, rfl, there, endsAt⟩
  | error failure =>
      have own : failure.scope? = some (middle.machineOf handle.session after).host.running :=
        scopes failure rfl
      obtain ⟨dropped, thereToo⟩ := outcome_inSession (fun _ => Session.dropFailure failure) there
        (Session.run_dropFailure own) rfl rfl
      refine ⟨_, _, ?_, thereToo, ?_⟩
      · show (dropFailure failure).outcome eval middle = _
        unfold dropFailure
        rw [scopes failure rfl]
        exact dropped
      · exact { endsAt with others := endsAt.others }

theorem register_losesAt
    (found : world.sessions[id]? = some session)
    (isOpen : session.isOpen = true)
    (release : eval.release = freeSlot)
    (callback : Callback) :
    let slot := session.state.callbacks.nextSlot
    let name := session.state.settings.callbackName slot
    ∃ final after,
      (inSession id fun eval => Session.register eval callback).outcome eval world =
        (.ok (.ok name), final) ∧
      final.sessions[id]? = some after ∧
      session.LosesAt after (Name.key name) slot ∧
      after.interp.commands[Name.key name]? = some (.host slot) := by
  intro slot name
  have allowed : (world.machineOf id session).host.session.access ≠ .refusing :=
    access_ne_of_isOpen isOpen
  have ran := Session.run_register release allowed callback
  obtain ⟨ended, there⟩ := outcome_inSession (fun eval => Session.register eval callback) found ran
    rfl rfl
  refine ⟨_, _, ended, there, ⟨?_, ?_⟩, ?_⟩
  · intro other differs
    show other ∈ (CallbackTable.releasing (session.state.callbacks.taken callback)
      session.interp.commands[Name.key name]?).slots ↔ _
    rw [InStep.mem_releasing, InStep.mem_taken, or_iff_right differs.symm, and_comm]
  · intro place differs
    show (session.interp.commands.insert (Name.key name) (.host slot))[place]? = _
    rw [InStep.getElem?_insert, if_neg differs.symm]
  · show (session.interp.commands.insert (Name.key name) (.host slot))[Name.key name]? = _
    rw [InStep.getElem?_insert, if_pos rfl]

theorem unregister_of_free
    {name : String}
    {slot : Nat}
    (found : world.sessions[id]? = some session)
    (eval : SessionEvaluator)
    (isName : Session.slotOf? session.state.settings name = some slot)
    (free : slot ∉ session.state.callbacks.slots) :
    (inSession id fun eval => Session.unregister eval name).outcome eval world =
      (.ok (.ok ()), world) := by
  have isNameThere :
      Session.slotOf? (world.machineOf id session).host.session.settings name = some slot := isName
  obtain ⟨ended, -⟩ := outcome_inSession (fun eval => Session.unregister eval name) found
    (Session.run_unregister_of_free eval isNameThere free) rfl rfl
  rwa [ofMachine_machineOf found] at ended

theorem dropHandle_of_free
    {name : String}
    {slot : Nat}
    (found : world.sessions[id]? = some session)
    (eval : SessionEvaluator)
    (isName : Session.slotOf? session.state.settings name = some slot)
    (free : slot ∉ session.state.callbacks.slots) :
    (perform (.dropHandle ⟨id, name⟩)).outcome eval world = (.ok (.ok ()), world) := by
  have ignored : (unregisterHandle ⟨id, name⟩).outcome eval world = (.ok (.ok ()), world) :=
    unregister_of_free found eval isName free
  apply outcome_always
  unfold dropHandle
  rw [outcome_bind ignored]
  rfl

/-- Registrations end by their generated names, in any spelling that is read as the slot. Where the
slot is free, nothing changes. Where it is in use, unregistering the name or dropping the handle
ends the registration and deletes whatever command has the name by then. A new registration puts its
command in the place of that one. In each case the callback with this command is lost, if it is
another one, and all others stay as they are; so the number of callbacks may go down by two. -/
theorem registrations_end_by_name
    {world : World}
    {id : SessionId}
    {session : OpenSession}
    (found : world.sessions[id]? = some session)
    (isOpen : session.isOpen = true)
    (valid : session.state.settings.validate = .ok ())
    (fuel : Nat) :
    let eval := Session.evaluatorOf fuel
    let table := session.state.callbacks
    let name := session.state.settings.callbackName
    (∀ slot, Session.slotOf? session.state.settings (name slot) = some slot) ∧
    (∀ spelled slot, Session.slotOf? session.state.settings spelled = some slot →
      (slot ∉ table.slots →
        (perform (.unregister id spelled)).outcome eval world = (.ok (.ok ()), world) ∧
        (perform (.dropHandle ⟨id, spelled⟩)).outcome eval world = (.ok (.ok ()), world)) ∧
      (slot ∈ table.slots →
        (∃ answer final after,
          (perform (.unregister id spelled)).outcome eval world = (.ok answer, final) ∧
          final.sessions[id]? = some after ∧
          session.EndsAt after (name slot) slot) ∧
        ∃ final after,
          (perform (.dropHandle ⟨id, spelled⟩)).outcome eval world = (.ok (.ok ()), final) ∧
          final.sessions[id]? = some after ∧
          session.EndsAt after (name slot) slot)) ∧
    ∀ callback, ∃ final after,
      (inSession id fun eval => Session.register eval callback).outcome eval world =
        (.ok (.ok (name table.nextSlot)), final) ∧
      final.sessions[id]? = some after ∧
      session.LosesAt after (name table.nextSlot) table.nextSlot ∧
      after.interp.commands[name table.nextSlot]? = some (.host table.nextSlot) := by
  intro eval table name
  have release : eval.release = freeSlot := evaluator_release Session.hostCommands fuel
  refine ⟨Session.slotOf?_callbackName valid, ?_, ?_⟩
  · intro spelled slot isName
    have key : Name.key spelled = name slot := Session.key_of_slotOf? isName
    refine ⟨fun free => ?_, fun used => ⟨?_, ?_⟩⟩
    · exact ⟨unregister_of_free found eval isName free, dropHandle_of_free found eval isName free⟩
    · obtain ⟨answer, final, after, ended, there, -, endsAt⟩ :=
        unregister_endsAt found isOpen release isName used
      rw [key] at endsAt
      exact ⟨answer, final, after, ended, there, endsAt⟩
    · obtain ⟨final, after, ended, there, endsAt⟩ :=
        dropHandle_endsAt ⟨id, spelled⟩ found isOpen release isName used
      rw [key] at endsAt
      exact ⟨final, after, outcome_always ended, there, endsAt⟩
  · intro callback
    obtain ⟨final, after, ended, there, losesAt, called⟩ :=
      register_losesAt found isOpen release callback
    have key : Name.key (session.state.settings.callbackName table.nextSlot) =
      name table.nextSlot := Settings.key_callbackName valid table.nextSlot
    rw [key] at losesAt called
    exact ⟨final, after, ended, there, losesAt, called⟩

/-- A script has renamed the command of one callback and given its generated name to the command of
another one. When the handle of the first one is dropped, both registrations end. -/
theorem registrations_end_by_name_of_swap :
    let program : HostProgram :=
      .register 0 (fun _ => .finish none) fun _ =>
        .register 0 (fun _ => .finish none) fun _ => .finish none
    let world := (program.outcome 0 (opened (fun _ => none) [(.open, {})])).2
    let renames (machine : SessionMachine) : Except String SessionMachine := do
      let kept ← machine.renameCommand freeSlot "rtk::callback0" "kept"
      kept.renameCommand freeSlot "rtk::callback1" "rtk::callback0"
    ∃ (session : OpenSession) (machine : SessionMachine),
      world.sessions[0]? = some session ∧
      renames (world.machineOf 0 session) = .ok machine ∧
      1 ∈ machine.host.session.callbacks.slots ∧
      ∃ final after,
        (perform (.dropHandle ⟨0, "rtk::callback0"⟩)).outcome (Session.evaluatorOf 0)
            (ofMachine machine) =
          (.ok (.ok ()), final) ∧
        final.sessions[0]? = some after ∧
        1 ∉ after.state.callbacks.slots ∧
        machine.host.session.callbacks.slots.size = after.state.callbacks.slots.size + 2 := by
  intro program world renames
  let facts (machine : SessionMachine) :=
    let state := machine.host.session
    ((machine.host.running, machine.host.sessions.size), (state.access, state.settings),
      machine.interp.commands["rtk::callback0"]?.bind state.callbacks.liveSlot?,
      state.callbacks.slots.contains 0)
  have looked :
      (world.sessions[0]?.map fun session => facts <$> renames (world.machineOf 0 session)) =
        some (.ok ((0, 1), (.open, {}), some 1, true)) := by
    decide +kernel
  obtain ⟨session, found, renamed⟩ := Option.map_eq_some_iff.mp looked
  clear_value world
  cases ran : renames (world.machineOf 0 session) with
  | error message =>
      rw [ran] at renamed
      cases renamed
  | ok machine =>
      rw [ran] at renamed
      have same := Except.ok.inj renamed
      simp only [facts, Prod.mk.injEq] at same
      obtain ⟨⟨running, size⟩, ⟨access, settings⟩, calls, used⟩ := same
      obtain ⟨command, there, live⟩ := Option.bind_eq_some_iff.mp calls
      obtain ⟨rfl, usedToo⟩ := CallbackTable.liveSlot?_eq_some_iff.mp live
      rw [← Std.TreeMap.mem_iff_contains] at used
      have foundThen : (ofMachine machine).sessions[0]? =
          some ⟨machine.interp, machine.host.session⟩ := by
        show (machine.host.sessions.setIfInBounds machine.host.running _)[0]? = _
        rw [running, Array.getElem?_setIfInBounds_self_of_lt (by omega)]
      have isOpen : (⟨machine.interp, machine.host.session⟩ : OpenSession).isOpen = true := by
        unfold OpenSession.isOpen
        rw [access]
        rfl
      have valid : machine.host.session.settings.validate = .ok () := by
        rw [settings]
        decide
      have name : machine.host.session.settings.callbackName 0 = "rtk::callback0" := by
        rw [settings]
        decide
      obtain ⟨isName, ends, -⟩ := registrations_end_by_name foundThen isOpen valid 0
      obtain ⟨-, final, after, ended, foundAfter, endsAt⟩ := (ends _ 0 (isName 0)).2 used
      rw [name] at ended endsAt
      refine ⟨session, machine, found, ran, usedToo, final, after, ended, foundAfter, ?_⟩
      constructor
      · intro usedStill
        exact ((endsAt.others 1 (by decide)).mp usedStill).2 there
      · exact endsAt.together 1 (by decide) usedToo there

end World

end ScriptBridge
