import Mathlib.Data.List.Nodup
import ScriptBridge.Proofs.Bridge.Programs

/-!
# Callbacks and their commands

A callback is kept twice: in a slot of its session, and as a command that calls the slot. Scripts
may rename, overwrite and destroy commands as they like. Still every slot in use has exactly one
command, under whatever name, and a slot whose command is gone is free.
-/

namespace ScriptBridge

/-! ## Tables in step -/

/-- The table of commands and the table of callbacks fit together. -/
structure InStep (commands : Std.TreeMap String (Command Nat)) (callbacks : CallbackTable) :
    Prop where
  /-- Commands call slots that have been taken. -/
  below : ∀ {name : String} {slot : Nat},
    commands[name]? = some (.host slot) → slot < callbacks.nextSlot
  /-- No two commands call one slot. -/
  once : ∀ {first second : String} {slot : Nat},
    commands[first]? = some (.host slot) → commands[second]? = some (.host slot) → first = second
  /-- Slots in use are called by a command. -/
  called : ∀ {slot : Nat},
    slot ∈ callbacks.slots → ∃ name : String, commands[name]? = some (.host slot)

/-- The callbacks with those slots free whose command has left the table. -/
def CallbackTable.releasing
    (callbacks : CallbackTable)
    (old : Option (Command Nat)) : CallbackTable :=
  match old with
  | some (.host slot) => callbacks.freed slot
  | _ => callbacks

namespace InStep

variable {commands : Std.TreeMap String (Command Nat)} {callbacks : CallbackTable}

theorem getElem?_insert
    (commands : Std.TreeMap String (Command Nat))
    (key name : String)
    (command : Command Nat) :
    (commands.insert key command)[name]? = if key = name then some command else commands[name]? := by
  rw [Std.TreeMap.getElem?_insert]
  simp only [Std.compare_eq_iff_eq]

theorem getElem?_erase
    (commands : Std.TreeMap String (Command Nat))
    (key name : String) :
    (commands.erase key)[name]? = if key = name then none else commands[name]? := by
  rw [Std.TreeMap.getElem?_erase]
  simp only [Std.compare_eq_iff_eq]

theorem mem_freed {slot other : Nat} :
    other ∈ (callbacks.freed slot).slots ↔ slot ≠ other ∧ other ∈ callbacks.slots := by
  show other ∈ callbacks.slots.erase slot ↔ _
  rw [Std.TreeMap.mem_erase]
  simp only [ne_eq, Std.compare_eq_iff_eq]

theorem mem_taken {callback : Callback} {slot : Nat} :
    slot ∈ (callbacks.taken callback).slots ↔
      callbacks.nextSlot = slot ∨ slot ∈ callbacks.slots := by
  show slot ∈ callbacks.slots.insert callbacks.nextSlot callback ↔ _
  rw [Std.TreeMap.mem_insert, Std.compare_eq_iff_eq]

/-- Of a command that has left the table, the slot is no longer in use. -/
theorem mem_releasing
    {old : Option (Command Nat)}
    {slot : Nat} :
    slot ∈ (callbacks.releasing old).slots ↔
      old ≠ some (.host slot) ∧ slot ∈ callbacks.slots := by
  unfold CallbackTable.releasing
  split
  · rw [mem_freed]
    simp
  · rename_i noHost
    exact ⟨fun used => ⟨noHost slot, used⟩, fun ⟨_, used⟩ => used⟩

theorem nextSlot_releasing (old : Option (Command Nat)) :
    (callbacks.releasing old).nextSlot = callbacks.nextSlot := by
  unfold CallbackTable.releasing
  split <;> rfl

variable (inStep : InStep commands callbacks)

include inStep

/-- A slot may be freed while its command stays. -/
theorem freed (slot : Nat) : InStep commands (callbacks.freed slot) where
  below := inStep.below
  once := inStep.once
  called used := inStep.called (mem_freed.mp used).2

/-- A command is taken out of the table, and its slot freed with it. -/
theorem erased (key : String) :
    InStep (commands.erase key) (callbacks.releasing commands[key]?) where
  below := by
    intro name slot found
    rw [getElem?_erase] at found
    rw [nextSlot_releasing]
    split at found
    · cases found
    · exact inStep.below found
  once := by
    intro first second slot foundFirst foundSecond
    rw [getElem?_erase] at foundFirst foundSecond
    split at foundFirst
    · cases foundFirst
    · split at foundSecond
      · cases foundSecond
      · exact inStep.once foundFirst foundSecond
  called := by
    intro slot used
    obtain ⟨notOld, used⟩ := mem_releasing.mp used
    obtain ⟨name, found⟩ := inStep.called used
    refine ⟨name, ?_⟩
    rw [getElem?_erase, if_neg]
    · exact found
    · rintro rfl
      exact notOld found

/-- A command that is no callback is entered, and the slot of the one in its place freed. -/
theorem entered
    (key : String)
    {command : Command Nat}
    (noHost : ∀ slot, command ≠ .host slot) :
    InStep (commands.insert key command) (callbacks.releasing commands[key]?) where
  below := by
    intro name slot found
    rw [getElem?_insert] at found
    rw [nextSlot_releasing]
    split at found
    · exact absurd (Option.some.inj found) (noHost slot)
    · exact inStep.below found
  once := by
    intro first second slot foundFirst foundSecond
    rw [getElem?_insert] at foundFirst foundSecond
    split at foundFirst
    · exact absurd (Option.some.inj foundFirst) (noHost slot)
    · split at foundSecond
      · exact absurd (Option.some.inj foundSecond) (noHost slot)
      · exact inStep.once foundFirst foundSecond
  called := by
    intro slot used
    obtain ⟨notOld, used⟩ := mem_releasing.mp used
    obtain ⟨name, found⟩ := inStep.called used
    refine ⟨name, ?_⟩
    rw [getElem?_insert, if_neg]
    · exact found
    · rintro rfl
      exact notOld found

/-- A command gets a name that no other command has. -/
theorem moved
    {old new : String}
    {command : Command Nat}
    (there : commands[old]? = some command)
    (free : commands[new]? = none) :
    InStep ((commands.erase old).insert new command) callbacks := by
  have differs : old ≠ new := by
    rintro rfl
    rw [there] at free
    cases free
  have lookup : ∀ name, ((commands.erase old).insert new command)[name]? =
      if new = name then some command else if old = name then none else commands[name]? := by
    intro name
    rw [getElem?_insert, getElem?_erase]
  constructor
  · intro name slot found
    rw [lookup] at found
    split at found
    · exact inStep.below (found ▸ there)
    · split at found
      · cases found
      · exact inStep.below found
  · intro first second slot foundFirst foundSecond
    rw [lookup] at foundFirst foundSecond
    split at foundFirst
    · rename_i isFirst
      split at foundSecond
      · rename_i isSecond
        rw [← isFirst, ← isSecond]
      · split at foundSecond
        · cases foundSecond
        · rename_i notOld
          exact absurd (inStep.once (foundFirst ▸ there) foundSecond) notOld
    · split at foundFirst
      · cases foundFirst
      · rename_i notOld
        split at foundSecond
        · exact absurd (inStep.once (foundSecond ▸ there) foundFirst) notOld
        · split at foundSecond
          · cases foundSecond
          · exact inStep.once foundFirst foundSecond
  · intro slot used
    obtain ⟨name, found⟩ := inStep.called used
    by_cases here : name = old
    · subst here
      refine ⟨new, ?_⟩
      rw [lookup, if_pos rfl, ← there, found]
    · refine ⟨name, ?_⟩
      have notNew : new ≠ name := by
        rintro rfl
        rw [found] at free
        cases free
      rw [lookup, if_neg notNew, if_neg (Ne.symm here), found]

theorem noted (event : CallbackEvent) : InStep commands (callbacks.noted event) where
  below := inStep.below
  once := inStep.once
  called := inStep.called

/-- A slot that is taken and freed at once is passed over. -/
theorem refused (callback : Callback) :
    InStep commands ((callbacks.taken callback).freed callbacks.nextSlot) where
  below found := Nat.lt_succ_of_lt (inStep.below found)
  once := inStep.once
  called := by
    intro slot used
    obtain ⟨differs, used⟩ := mem_freed.mp used
    exact inStep.called ((mem_taken.mp used).resolve_left differs)

/-- The next slot is taken by a callback whose command is entered. -/
theorem registered
    (key : String)
    (callback : Callback) :
    InStep
      (commands.insert key (.host callbacks.nextSlot))
      ((callbacks.taken callback).releasing commands[key]?) := by
  have fresh : ∀ name : String, commands[name]? ≠ some (.host callbacks.nextSlot) :=
    fun _ found => Nat.lt_irrefl _ (inStep.below found)
  constructor
  · intro name slot found
    rw [nextSlot_releasing]
    rw [getElem?_insert] at found
    split at found
    · cases found
      exact Nat.lt_succ_self _
    · exact Nat.lt_succ_of_lt (inStep.below found)
  · intro first second slot foundFirst foundSecond
    rw [getElem?_insert] at foundFirst foundSecond
    split at foundFirst
    · rename_i isFirst
      cases foundFirst
      split at foundSecond
      · rename_i isSecond
        rw [← isFirst, ← isSecond]
      · exact absurd foundSecond (fresh second)
    · split at foundSecond
      · cases foundSecond
        exact absurd foundFirst (fresh first)
      · exact inStep.once foundFirst foundSecond
  · intro slot used
    obtain ⟨notOld, used⟩ := mem_releasing.mp used
    by_cases isNew : callbacks.nextSlot = slot
    · subst isNew
      exact ⟨key, by rw [getElem?_insert, if_pos rfl]⟩
    · have usedBefore := (mem_taken.mp used).resolve_left isNew
      obtain ⟨name, found⟩ := inStep.called usedBefore
      refine ⟨name, ?_⟩
      rw [getElem?_insert, if_neg]
      · exact found
      · rintro rfl
        exact notOld found

end InStep

/-! ## Counting -/

/-- The slot that a command calls, if it is in use. -/
def CallbackTable.liveSlot? (callbacks : CallbackTable) : Command Nat → Option Nat
  | .host slot => if slot ∈ callbacks.slots then some slot else none
  | _ => none

theorem CallbackTable.liveSlot?_eq_some_iff
    {callbacks : CallbackTable}
    {command : Command Nat}
    {slot : Nat} :
    callbacks.liveSlot? command = some slot ↔
      command = .host slot ∧ slot ∈ callbacks.slots := by
  cases command with
  | host key =>
      show (if key ∈ callbacks.slots then some key else none) = some slot ↔ _
      by_cases used : key ∈ callbacks.slots
      · rw [if_pos used, Option.some_inj]
        constructor
        · rintro rfl
          exact ⟨rfl, used⟩
        · rintro ⟨same, _⟩
          cases same
          rfl
      · rw [if_neg used]
        constructor
        · intro same
          cases same
        · rintro ⟨same, usedToo⟩
          cases same
          exact absurd usedToo used
  | builtin | procedure | widget =>
      constructor
      · intro same
        cases same
      · rintro ⟨same, _⟩
        cases same

/-- There are as many slots in use as commands that call them. -/
theorem InStep.size_eq_countP
    {commands : Std.TreeMap String (Command Nat)}
    {callbacks : CallbackTable}
    (inStep : InStep commands callbacks) :
    callbacks.slots.size =
      commands.toList.countP fun entry => (callbacks.liveSlot? entry.2).isSome := by
  have distinct :
      (commands.toList.filterMap fun entry => callbacks.liveSlot? entry.2).Nodup := by
    rw [List.Nodup, List.pairwise_filterMap]
    refine List.Pairwise.imp_of_mem ?_ commands.distinct_keys_toList
    intro first second foundFirst foundSecond differ slot callsFirst other callsSecond same
    subst same
    obtain ⟨isFirst, -⟩ := CallbackTable.liveSlot?_eq_some_iff.mp callsFirst
    obtain ⟨isSecond, -⟩ := CallbackTable.liveSlot?_eq_some_iff.mp callsSecond
    have first := Std.TreeMap.mem_toList_iff_getElem?_eq_some.mp foundFirst
    have second := Std.TreeMap.mem_toList_iff_getElem?_eq_some.mp foundSecond
    rw [isFirst] at first
    rw [isSecond] at second
    exact differ (Std.compare_eq_iff_eq.mpr (inStep.once first second))
  have sameSlots : callbacks.slots.keys.Perm
      (commands.toList.filterMap fun entry => callbacks.liveSlot? entry.2) := by
    rw [List.perm_ext_iff_of_nodup callbacks.slots.nodup_keys distinct]
    intro slot
    rw [Std.TreeMap.mem_keys, List.mem_filterMap]
    constructor
    · intro used
      obtain ⟨name, found⟩ := inStep.called used
      refine ⟨(name, .host slot), Std.TreeMap.mem_toList_iff_getElem?_eq_some.mpr found, ?_⟩
      exact CallbackTable.liveSlot?_eq_some_iff.mpr ⟨rfl, used⟩
    · rintro ⟨entry, -, calls⟩
      exact (CallbackTable.liveSlot?_eq_some_iff.mp calls).2
  rw [← Std.TreeMap.length_keys, sameSlots.length_eq, List.length_filterMap_eq_countP]

/-! ## Worlds in step -/

/-- The tables of every session fit together. -/
def World.InStep (world : World) : Prop :=
  ∀ (id : SessionId) (session : OpenSession), world.sessions[id]? = some session →
    ScriptBridge.InStep session.interp.commands session.state.callbacks

/-- What keeps the tables of sessions in step. -/
def Conduct.inStep : Conduct World where
  allows _ before after := before.InStep → after.InStep
  refl _ inStep := inStep
  trans first second := fun inStep => second (first inStep)
  cut := id

/-- Of a session at work, only its own tables can change. -/
theorem Conduct.inStep_atWork
    {finished : Bool}
    {before after : SessionMachine}
    (sameRunning : after.host.running = before.host.running)
    (sameSessions : after.host.sessions = before.host.sessions)
    (own : InStep before.interp.commands before.host.session.callbacks →
      InStep after.interp.commands after.host.session.callbacks) :
    Conduct.inStep.atWork.allows finished before after :=
  Conduct.everySession_atWork sameRunning sameSessions own

/-! ## Commands that leave the table -/

/-- A slot is freed with its command. -/
theorem Machine.released_freeSlot
    (machine : SessionMachine)
    (old : Option (Command Nat)) :
    machine.released freeSlot old =
      { machine with
        host := { machine.host with
          session := { machine.host.session with
            callbacks := machine.host.session.callbacks.releasing old } } } := by
  cases old with
  | none => rfl
  | some command => cases command <;> rfl

namespace Conduct

/-- Changes of the two tables of a session that leave them in step. -/
theorem inStep_released
    {machine : SessionMachine}
    {commands : Std.TreeMap String (Command Nat)}
    {old : Option (Command Nat)}
    (own : InStep machine.interp.commands machine.host.session.callbacks →
      InStep commands (machine.host.session.callbacks.releasing old)) :
    Conduct.inStep.atWork.allows true machine
      (Machine.released
        { machine with interp := { machine.interp with commands } } freeSlot old) := by
  rw [Machine.released_freeSlot]
  exact inStep_atWork rfl rfl own

theorem inStep_removed
    {machine after : SessionMachine}
    {name : String}
    (removed : machine.removeCommand freeSlot name = .ok after) :
    Conduct.inStep.atWork.allows true machine after := by
  obtain ⟨old, there, rfl⟩ := Machine.eq_of_removeCommand removed
  apply inStep_released
  intro inStep
  have erased := inStep.erased (Name.key name)
  rwa [there] at erased

theorem inStep_renamed
    {machine after : SessionMachine}
    {old new : String}
    (renamed : machine.renameCommand freeSlot old new = .ok after) :
    Conduct.inStep.atWork.allows true machine after := by
  obtain removed | ⟨command, there, free, rfl⟩ := Machine.eq_of_renameCommand renamed
  · exact inStep_removed removed
  · exact inStep_atWork rfl rfl fun inStep => inStep.moved there free

/-! ## Registration -/

theorem inStep_registered
    {eval : SessionEvaluator}
    (release : eval.release = freeSlot)
    (callback : Callback) :
    Conduct.inStep.atWork.Keeps (Session.register eval callback) := by
  rintro ⟨interp, cells, clock, shared, running, settings, access, callbacks, links, failures, dump,
    deferred⟩
  cases access with
  | refusing => exact inStep_atWork rfl rfl fun inStep => inStep.refused callback
  | «open» | closed =>
      show Conduct.inStep.atWork.allows true _ (Machine.define _ eval.release _ _)
      rw [release, Machine.define, Machine.released_freeSlot]
      exact inStep_atWork rfl rfl fun inStep => inStep.registered _ callback

/-! ## Opening -/

theorem initialCommands_ne_host (name : String) (slot : Nat) :
    (Interp.initialCommands : Std.TreeMap String (Command Nat))[name]? ≠ some (.host slot) := by
  intro found
  unfold Interp.initialCommands at found
  rw [Std.TreeMap.ofList_eq_insertMany_empty, Std.TreeMap.getElem?_insertMany_list,
    Std.TreeMap.getElem?_emptyc, Option.or_none, List.findSomeRev?_eq_findSome?_reverse] at found
  obtain ⟨⟨key, command⟩, member, picked⟩ := List.exists_of_findSome?_eq_some found
  have isHost : command = .host slot := by
    dsimp only at picked
    split at picked
    · exact Option.some.inj picked
    · cases picked
  rw [List.mem_reverse, List.mem_append, List.mem_append, List.mem_map, List.mem_map,
    List.mem_singleton] at member
  subst isHost
  rcases member with (⟨_, _, same⟩ | ⟨_, _, same⟩) | same
  all_goals cases same

theorem inStep_initial : InStep (Interp.initialCommands : Std.TreeMap String (Command Nat)) {} where
  below called := absurd called (initialCommands_ne_host _ _)
  once called := absurd called (initialCommands_ne_host _ _)
  called used := absurd used Std.TreeMap.not_mem_emptyc

theorem inStep_allowsTables : Conduct.inStep.AllowsTables where
  quiet sameSessions _ := fun inStep id session found => inStep id session (sameSessions ▸ found)
  work sameCommands sameCallbacks sameRunning sameSessions _ :=
    inStep_atWork sameRunning sameSessions fun inStep => sameCommands ▸ sameCallbacks ▸ inStep
  opened world _ _ _ := everySession_opened world inStep_initial
  defined _ _ _ noHost :=
    inStep_released fun inStep => inStep.entered _ noHost
  removed := inStep_removed
  renamed := inStep_renamed
  freed _ slot := inStep_atWork rfl rfl fun inStep => inStep.freed slot
  registered _ callback release := inStep_registered release callback

theorem inStep_allowsHosts : Conduct.inStep.AllowsHosts where
  sessions := inStep_allowsTables.allowsSessions
  commands _ runs :=
    allowsCommands_of_indifferent inStep_allowsTables.allowsSessions (fun _ _ => id) runs
  calls :=
    { entered := fun _ => inStep_atWork rfl rfl fun inStep => inStep.noted _
      left := fun _ _ => inStep_atWork rfl rfl fun inStep => inStep.noted _ }
  nesting := inStep_allowsTables.nesting

end Conduct

/-! ## Reachable worlds -/

namespace World

theorem inStep_opened
    (environment : Settings.Environment)
    (sessions : List (InterpAccess × Settings)) :
    (opened environment sessions).InStep :=
  every_opened environment fun _ _ => Conduct.inStep_initial

/-- Whatever hosts and scripts do, each slot in use is called by exactly one command, there are as
many slots in use as commands that call them, and a slot that no command calls is free. This also
holds where a run is cut short. -/
theorem callbacks_inStep
    (environment : Settings.Environment)
    (sessions : List (InterpAccess × Settings))
    (program : HostProgram)
    (fuel : Nat)
    {id : SessionId}
    {session : OpenSession}
    (found : (program.outcome fuel (opened environment sessions)).2.sessions[id]? = some session) :
    (∀ slot ∈ session.state.callbacks.slots,
      slot < session.state.callbacks.nextSlot ∧
        ∃! name : String, session.interp.commands[name]? = some (.host slot)) ∧
    session.state.callbacks.slots.size =
      session.interp.commands.toList.countP
        (fun entry => (session.state.callbacks.liveSlot? entry.2).isSome) ∧
    ∀ slot, (∀ name : String, session.interp.commands[name]? ≠ some (.host slot)) →
      slot ∉ session.state.callbacks.slots := by
  have kept := Conduct.inStep_allowsHosts.allows_outcome program fuel (opened environment sessions)
  have inStep : ScriptBridge.InStep session.interp.commands session.state.callbacks :=
    kept (inStep_opened environment sessions) id session found
  refine ⟨?_, inStep.size_eq_countP, ?_⟩
  · intro slot used
    obtain ⟨name, called⟩ := inStep.called used
    refine ⟨inStep.below called, name, called, ?_⟩
    intro other calledToo
    exact inStep.once calledToo called
  · intro slot uncalled used
    obtain ⟨name, called⟩ := inStep.called used
    exact uncalled name called

/-- Of two callbacks, the first one is unregistered; the second one keeps its command. -/
theorem callbacks_inStep_after_unregister :
    let program : HostProgram :=
      .register 0 (fun _ => .finish none) fun _ =>
        .register 0 (fun _ => .finish none) fun _ =>
          .ask (.unregister 0 "rtk::callback0") fun _ => .finish none
    let world := (program.outcome 0 (opened (fun _ => none) [(.open, {})])).2
    ∃ session : OpenSession,
      world.sessions[0]? = some session ∧
      0 ∉ session.state.callbacks.slots ∧
      1 ∈ session.state.callbacks.slots ∧
      ∃! name : String, session.interp.commands[name]? = some (.host 1) := by
  intro program world
  have looked : (world.sessions[0]?.map fun session =>
      (session.state.callbacks.slots.contains 0, session.state.callbacks.slots.contains 1)) =
        some (false, true) := by
    decide +kernel
  have here : world = (program.outcome 0 (opened (fun _ => none) [(.open, {})])).2 := rfl
  clear_value world
  obtain ⟨session, found, slots⟩ := Option.map_eq_some_iff.mp looked
  obtain ⟨free, used⟩ := Prod.mk.inj slots
  rw [← Std.TreeMap.mem_iff_contains] at used
  have inStep := callbacks_inStep (fun _ => none) [(.open, {})] program 0 (here ▸ found)
  refine ⟨session, found, ?_, used, (inStep.1 1 used).2⟩
  rw [Std.TreeMap.mem_iff_contains, free]
  exact Bool.false_ne_true

end World

end ScriptBridge
