import Mathlib.Order.Defs.Unbundled
import ScriptBridge.Proofs.Bridge.Registrations

/-!
# The history of callbacks

A slot is taken once. When its registration has ended, be it that the host ends it or that a script
deletes or overwrites its command, the slot stays free for good: no registration takes it again and
its callback never starts again. Commands that are left over find nothing to call.
-/

namespace ScriptBridge

/-! ## Conducts that look at callbacks alone -/

/-- The callbacks of a session. A session that is not open has none. -/
def World.callbacksOf (world : World) (id : SessionId) : CallbackTable :=
  match world.sessions[id]? with
  | some session => session.state.callbacks
  | none => {}

theorem World.callbacksOf_of_found
    {world : World}
    {id : SessionId}
    {session : OpenSession}
    (found : world.sessions[id]? = some session) :
    world.callbacksOf id = session.state.callbacks := by
  rw [callbacksOf, found]

theorem World.callbacksOf_of_every
    {world : World}
    (property : CallbackTable → Prop)
    (every : world.Every fun session => property session.state.callbacks)
    (initial : property {})
    (id : SessionId) :
    property (world.callbacksOf id) := by
  unfold callbacksOf
  split
  · exact every id _ ‹_›
  · exact initial

namespace Conduct

variable {relation : CallbackTable → CallbackTable → Prop} [IsPreorder CallbackTable relation]

/-- What may become of the callbacks of each session. -/
def ofCallbacks
    (relation : CallbackTable → CallbackTable → Prop)
    [IsPreorder CallbackTable relation] :
    Conduct World where
  allows _ before after := ∀ id, relation (before.callbacksOf id) (after.callbacksOf id)
  refl _ _ := refl_of relation _
  trans first second id := trans_of relation (first id) (second id)
  cut := id

theorem ofCallbacks_atWork
    {finished : Bool}
    {before after : SessionMachine}
    (sameRunning : after.host.running = before.host.running)
    (sameSessions : after.host.sessions = before.host.sessions)
    (own : relation before.host.session.callbacks after.host.session.callbacks) :
    (ofCallbacks relation).atWork.allows finished before after := by
  refine ⟨sameRunning, ?_⟩
  intro id
  have places : ∀ machine : SessionMachine, (World.ofMachine machine).sessions =
      machine.host.sessions.setIfInBounds machine.host.running
        ⟨machine.interp, machine.host.session⟩ := fun _ => rfl
  unfold World.callbacksOf
  rw [places, places, sameRunning, sameSessions, Array.getElem?_setIfInBounds,
    Array.getElem?_setIfInBounds]
  by_cases here : before.host.running = id
  · rw [if_pos here, if_pos here]
    by_cases inside : before.host.running < before.host.sessions.size
    · rw [if_pos inside, if_pos inside]
      exact own
    · rw [if_neg inside, if_neg inside]
      exact refl_of relation _
  · rw [if_neg here, if_neg here]
    exact refl_of relation _

theorem ofCallbacks_opened
    {finished : Bool}
    (world : World)
    (access : InterpAccess)
    (settings : Settings)
    (dump : DumpStream) :
    (ofCallbacks relation).allows finished world
      { world with sessions := world.sessions.push ⟨.initial, { settings, access, dump }⟩ } := by
  intro id
  unfold World.callbacksOf
  rw [Array.getElem?_push]
  by_cases new : id = world.sessions.size
  · rw [if_pos new, Array.getElem?_eq_none (Nat.le_of_eq new.symm)]
    exact refl_of relation _
  · rw [if_neg new]
    exact refl_of relation _

section Changes

variable (freed : ∀ callbacks slot, relation callbacks (callbacks.freed slot))

include freed

theorem ofCallbacks_releasing
    (callbacks : CallbackTable)
    (old : Option (Command Nat)) :
    relation callbacks (callbacks.releasing old) := by
  unfold CallbackTable.releasing
  split
  · exact freed callbacks _
  · exact refl_of relation callbacks

theorem ofCallbacks_released
    (machine : SessionMachine)
    (commands : Std.TreeMap String (Command Nat))
    (old : Option (Command Nat)) :
    (ofCallbacks relation).atWork.allows true machine
      (Machine.released
        { machine with interp := { machine.interp with commands } } freeSlot old) := by
  rw [Machine.released_freeSlot]
  exact ofCallbacks_atWork rfl rfl (ofCallbacks_releasing freed _ old)

theorem ofCallbacks_removed
    {machine after : SessionMachine}
    {name : String}
    (removed : machine.removeCommand freeSlot name = .ok after) :
    (ofCallbacks relation).atWork.allows true machine after := by
  obtain ⟨old, -, rfl⟩ := Machine.eq_of_removeCommand removed
  exact ofCallbacks_released freed machine _ _

/-- Callbacks are taken and freed by registrations and by changes of the table of commands. -/
theorem ofCallbacks_allowsTables
    (taken : ∀ callbacks callback, relation callbacks (callbacks.taken callback)) :
    (ofCallbacks relation).AllowsTables where
  quiet sameSessions _ id := by
    unfold World.callbacksOf
    rw [sameSessions]
    exact refl_of relation _
  work _ sameCallbacks sameRunning sameSessions _ :=
    ofCallbacks_atWork sameRunning sameSessions (sameCallbacks ▸ refl_of relation _)
  opened world access settings dump := ofCallbacks_opened world access settings dump
  defined machine _ _ _ := ofCallbacks_released freed machine _ _
  removed := ofCallbacks_removed freed
  renamed := by
    intro machine after old new renamed
    obtain removed | ⟨command, -, -, rfl⟩ := Machine.eq_of_renameCommand renamed
    · exact ofCallbacks_removed freed removed
    · exact ofCallbacks_atWork rfl rfl (refl_of relation _)
  freed _ slot := ofCallbacks_atWork rfl rfl (freed _ slot)
  registered := by
    intro eval callback release machine
    unfold KeepsFrom
    have takes := taken machine.host.session.callbacks callback
    by_cases refuses : machine.host.session.access = .refusing
    · obtain ⟨message, ran⟩ := Session.run_register_of_refusing eval refuses callback
      rw [ran]
      exact ofCallbacks_atWork rfl rfl (trans_of relation takes (freed _ _))
    · rw [Session.run_register release refuses callback]
      exact ofCallbacks_atWork rfl rfl (trans_of relation takes (ofCallbacks_releasing freed _ _))

end Changes

end Conduct

/-! ## Histories -/

/-- The slot that an event takes, frees or calls. -/
def CallbackEvent.slot? : CallbackEvent → Option Nat
  | .taken slot | .freed slot | .started slot _ => some slot
  | .returned _ _ => none

/-- A slot that has been taken and is not in use any more. -/
def CallbackTable.Dead (callbacks : CallbackTable) (slot : Nat) : Prop :=
  slot < callbacks.nextSlot ∧ slot ∉ callbacks.slots

/-- The history of callbacks tells which slots have been taken and which of them are dead. -/
structure CallbackTable.Chronicled (callbacks : CallbackTable) : Prop where
  below : ∀ slot ∈ callbacks.slots, slot < callbacks.nextSlot
  taken : ∀ slot, .taken slot ∈ callbacks.history ↔ slot < callbacks.nextSlot
  freed : ∀ slot, .freed slot ∈ callbacks.history ↔ callbacks.Dead slot
  /-- A slot that has been freed is not taken, freed or called again. -/
  dead : callbacks.history.Pairwise fun later earlier =>
    ∀ slot, earlier = .freed slot → later.slot? ≠ some slot

theorem CallbackTable.history_freed (callbacks : CallbackTable) (slot : Nat) :
    (callbacks.freed slot).history =
      if slot ∈ callbacks.slots then .freed slot :: callbacks.history else callbacks.history := by
  simp only [CallbackTable.freed, Std.TreeMap.mem_iff_contains]

namespace CallbackTable.Chronicled

variable {callbacks : CallbackTable}

theorem initial : CallbackTable.Chronicled {} where
  below slot used := absurd used Std.TreeMap.not_mem_emptyc
  taken slot := by simp
  freed slot := by simp [Dead]
  dead := .nil

variable (chronicled : callbacks.Chronicled)

include chronicled

/-- What happens next concerns a slot in use or a new one. -/
theorem dead_cons
    {event : CallbackEvent}
    (used : ∀ slot, event.slot? = some slot →
      slot ∈ callbacks.slots ∨ callbacks.nextSlot ≤ slot) :
    (event :: callbacks.history).Pairwise fun later earlier =>
      ∀ slot, earlier = .freed slot → later.slot? ≠ some slot := by
  refine List.pairwise_cons.mpr ⟨?_, chronicled.dead⟩
  rintro earlier member slot rfl concerns
  obtain ⟨below, free⟩ := (chronicled.freed slot).mp member
  rcases used slot concerns with live | new
  · exact free live
  · omega

/-- A call of a slot in use starts, or some call ends. -/
theorem noted
    {event : CallbackEvent}
    (isCall : ∀ slot, event ≠ .taken slot ∧ event ≠ .freed slot)
    (used : ∀ slot, event.slot? = some slot → slot ∈ callbacks.slots) :
    (callbacks.noted event).Chronicled where
  below := chronicled.below
  taken slot := by
    rw [CallbackTable.noted, List.mem_cons, or_iff_right (isCall slot).1.symm]
    exact chronicled.taken slot
  freed slot := by
    rw [CallbackTable.noted, List.mem_cons, or_iff_right (isCall slot).2.symm]
    exact chronicled.freed slot
  dead := chronicled.dead_cons fun slot concerns => .inl (used slot concerns)

theorem afterTaken (callback : Callback) : (callbacks.taken callback).Chronicled where
  below slot used := by
    show slot < callbacks.nextSlot + 1
    rcases InStep.mem_taken.mp used with rfl | used
    · omega
    · have below := chronicled.below slot used
      omega
  taken slot := by
    show CallbackEvent.taken slot ∈ CallbackEvent.taken callbacks.nextSlot :: callbacks.history ↔
      slot < callbacks.nextSlot + 1
    rw [List.mem_cons, chronicled.taken, CallbackEvent.taken.injEq]
    omega
  freed slot := by
    show CallbackEvent.freed slot ∈ CallbackEvent.taken callbacks.nextSlot :: callbacks.history ↔
      slot < callbacks.nextSlot + 1 ∧ _
    rw [List.mem_cons, or_iff_right nofun, chronicled.freed, Dead, InStep.mem_taken]
    grind
  dead := chronicled.dead_cons fun slot concerns => by
    cases concerns
    exact .inr (Nat.le_refl _)

theorem afterFreed (slot : Nat) : (callbacks.freed slot).Chronicled := by
  have history := history_freed callbacks slot
  constructor
  · intro other used
    exact chronicled.below other (InStep.mem_freed.mp used).2
  · intro other
    rw [history]
    show _ ↔ other < callbacks.nextSlot
    rw [← chronicled.taken other]
    split
    · rw [List.mem_cons, or_iff_right nofun]
    · rfl
  · intro other
    rw [history, Dead, InStep.mem_freed]
    show _ ↔ other < callbacks.nextSlot ∧ _
    have before : _ ↔ _ ∧ _ := chronicled.freed other
    have below := chronicled.below other
    split
    · rw [List.mem_cons, before, CallbackEvent.freed.injEq]
      grind
    · grind
  · rw [history]
    split
    · rename_i used
      refine chronicled.dead_cons fun other concerns => ?_
      cases concerns
      exact .inl used
    · exact chronicled.dead

/-- What comes before the end of a registration, and what does not come after it. -/
theorem dead_of_split
    {slot : Nat}
    {later earlier : List CallbackEvent}
    (split : callbacks.history = later ++ .freed slot :: earlier) :
    .taken slot ∈ earlier ∧ .taken slot ∉ later ∧ ∀ texts, .started slot texts ∉ later := by
  have freed : .freed slot ∈ callbacks.history := by
    rw [split]
    exact List.mem_append_right later List.mem_cons_self
  have notLater : ∀ event ∈ later, event.slot? ≠ some slot := by
    have dead := chronicled.dead
    rw [split, List.pairwise_append] at dead
    exact fun event member => dead.2.2 event member _ List.mem_cons_self slot rfl
  have takenNotLater : .taken slot ∉ later := fun member => notLater _ member rfl
  have taken := (chronicled.taken slot).mpr ((chronicled.freed slot).mp freed).1
  rw [split, List.mem_append, List.mem_cons, or_iff_right takenNotLater, or_iff_right nofun]
    at taken
  exact ⟨taken, takenNotLater, fun texts member => notLater _ member rfl⟩

end CallbackTable.Chronicled

/-! ## What becomes of callbacks -/

/-- What can become of the callbacks of a session, one change after the other. -/
inductive CallbackTable.Changes (before : CallbackTable) : CallbackTable → Prop where
  | refl : Changes before before
  | taken {middle : CallbackTable} (earlier : Changes before middle) (callback : Callback) :
      Changes before (middle.taken callback)
  | freed {middle : CallbackTable} (earlier : Changes before middle) (slot : Nat) :
      Changes before (middle.freed slot)
  | started {middle : CallbackTable} (earlier : Changes before middle)
      {slot : Nat} (used : slot ∈ middle.slots) (texts : List TextCopy) :
      Changes before (middle.noted (.started slot texts))
  | returned {middle : CallbackTable} (earlier : Changes before middle)
      (slot : Nat) (texts : List TextCopy) :
      Changes before (middle.noted (.returned slot texts))

namespace CallbackTable.Changes

variable {before middle after : CallbackTable}

theorem trans (first : before.Changes middle) (second : middle.Changes after) :
    before.Changes after := by
  induction second with
  | refl => exact first
  | taken _ callback inductionHypothesis => exact inductionHypothesis.taken callback
  | freed _ slot inductionHypothesis => exact inductionHypothesis.freed slot
  | started _ used texts inductionHypothesis => exact inductionHypothesis.started used texts
  | returned _ slot texts inductionHypothesis => exact inductionHypothesis.returned slot texts

theorem chronicled (changes : before.Changes after) (start : before.Chronicled) :
    after.Chronicled := by
  induction changes with
  | refl => exact start
  | taken _ callback inductionHypothesis => exact inductionHypothesis.afterTaken callback
  | freed _ slot inductionHypothesis => exact inductionHypothesis.afterFreed slot
  | started _ used texts inductionHypothesis =>
      apply CallbackTable.Chronicled.noted inductionHypothesis
      · exact fun _ => ⟨nofun, nofun⟩
      · rintro slot concerns
        cases concerns
        exact used
  | returned _ slot texts inductionHypothesis =>
      apply CallbackTable.Chronicled.noted inductionHypothesis
      · exact fun _ => ⟨nofun, nofun⟩
      · exact fun _ concerns => nomatch concerns

/-- A dead slot stays dead, and no event that is still to come concerns it. -/
theorem dead
    {slot : Nat}
    (changes : before.Changes after)
    (start : before.Dead slot) :
    after.Dead slot ∧
      ∃ later, after.history = later ++ before.history ∧
        ∀ event ∈ later, event.slot? ≠ some slot := by
  induction changes with
  | refl => exact ⟨start, [], rfl, fun _ member => nomatch member⟩
  | taken _ callback inductionHypothesis =>
      rename_i middle _
      obtain ⟨⟨below, free⟩, later, history, apart⟩ := inductionHypothesis
      have notNext : middle.nextSlot ≠ slot := by omega
      refine ⟨⟨Nat.lt_succ_of_lt below, ?_⟩, .taken middle.nextSlot :: later, ?_, ?_⟩
      · rw [InStep.mem_taken, or_iff_right notNext]
        exact free
      · exact congrArg (List.cons _) history
      · refine List.forall_mem_cons.mpr ⟨?_, apart⟩
        exact fun concerns => notNext (Option.some.inj concerns)
  | freed _ other inductionHypothesis =>
      rename_i middle _
      obtain ⟨⟨below, free⟩, later, history, apart⟩ := inductionHypothesis
      have freeStill : slot ∉ (middle.freed other).slots :=
        fun used => free (InStep.mem_freed.mp used).2
      by_cases used : other ∈ middle.slots
      · refine ⟨⟨below, freeStill⟩, .freed other :: later, ?_, ?_⟩
        · rw [CallbackTable.history_freed, if_pos used, history, List.cons_append]
        · refine List.forall_mem_cons.mpr ⟨?_, apart⟩
          intro concerns
          exact free (Option.some.inj concerns ▸ used)
      · refine ⟨⟨below, freeStill⟩, later, ?_, apart⟩
        rw [CallbackTable.history_freed, if_neg used, history]
  | started _ used texts inductionHypothesis =>
      obtain ⟨dead, later, history, apart⟩ := inductionHypothesis
      refine ⟨dead, _ :: later, congrArg (List.cons _) history, ?_⟩
      refine List.forall_mem_cons.mpr ⟨?_, apart⟩
      intro concerns
      exact dead.2 (Option.some.inj concerns ▸ used)
  | returned _ other texts inductionHypothesis =>
      obtain ⟨dead, later, history, apart⟩ := inductionHypothesis
      refine ⟨dead, _ :: later, congrArg (List.cons _) history, ?_⟩
      exact List.forall_mem_cons.mpr ⟨nofun, apart⟩

instance : IsPreorder CallbackTable CallbackTable.Changes where
  refl _ := .refl
  trans _ _ _ := .trans

end CallbackTable.Changes

namespace Conduct

/-- The callbacks of all sessions change step by step. -/
abbrev callbackChanges : Conduct World :=
  ofCallbacks CallbackTable.Changes

theorem callbackChanges_allowsTables : callbackChanges.AllowsTables :=
  ofCallbacks_allowsTables (fun _ slot => .freed .refl slot) fun _ callback => .taken .refl callback

theorem callbackChanges_allowsHosts : callbackChanges.AllowsHosts where
  sessions := callbackChanges_allowsTables.allowsSessions
  commands _ runs :=
    allowsCommands_of_indifferent callbackChanges_allowsTables.allowsSessions
      (fun world _ => callbackChanges.refl world) runs
  calls :=
    { entered := fun used => ofCallbacks_atWork rfl rfl (.started .refl used _)
      left := fun _ slot => ofCallbacks_atWork rfl rfl (.returned .refl slot _) }
  nesting := callbackChanges_allowsTables.nesting

end Conduct

/-! ## Registrations that end -/

/-- A slot that has been taken is dead when its command has left the table. -/
theorem CallbackTable.dead_releasing
    {callbacks : CallbackTable}
    {slot : Nat}
    (isTaken : slot < callbacks.nextSlot) :
    (callbacks.releasing (some (.host slot))).Dead slot :=
  ⟨isTaken, fun used => (InStep.mem_releasing.mp used).1 rfl⟩

namespace Machine

variable {machine : SessionMachine} {name : String} {slot : Nat}

/-- To rename a command to nothing is to delete it. -/
theorem renameCommand_empty (machine : SessionMachine) (name : String) :
    machine.renameCommand freeSlot name "" = machine.removeCommand freeSlot name :=
  if_pos rfl

theorem dead_of_removeCommand
    {after : SessionMachine}
    (isTaken : slot < machine.host.session.callbacks.nextSlot)
    (calls : machine.interp.command? name = some (.host slot))
    (removed : machine.removeCommand freeSlot name = .ok after) :
    after.host.session.callbacks.Dead slot := by
  obtain ⟨old, there, rfl⟩ := eq_of_removeCommand removed
  have sameCommand : some (.host slot) = some old := calls.symm.trans there
  obtain rfl := Option.some.inj sameCommand
  rw [released_freeSlot]
  exact CallbackTable.dead_releasing isTaken

theorem dead_define
    (isTaken : slot < machine.host.session.callbacks.nextSlot)
    (calls : machine.interp.command? name = some (.host slot))
    (command : Command Nat) :
    (machine.define freeSlot name command).host.session.callbacks.Dead slot := by
  have old : machine.interp.commands[Name.key name]? = some (.host slot) := calls
  unfold define
  dsimp only
  rw [old, released_freeSlot]
  exact CallbackTable.dead_releasing isTaken

end Machine

namespace Session

variable {machine : SessionMachine} {name : String} {slot : Nat}

theorem run_dispatch_of_free
    (eval : SessionEvaluator)
    (free : slot ∉ machine.host.session.callbacks.slots)
    (words : List String) :
    (dispatch eval slot words).run.run machine =
      (.error (.error Failure.unknownCallback.message), machine) := by
  unfold dispatch
  rw [run_getState_bind, Std.TreeMap.getElem?_eq_none free]
  rfl

/-- A command whose registration has ended finds nothing to call. -/
theorem run_invoke_of_free
    (eval : SessionEvaluator)
    (calls : machine.interp.command? name = some (.host slot))
    (free : slot ∉ machine.host.session.callbacks.slots)
    (shallow : machine.interp.depth < maxDepth)
    (arguments : List String) :
    (invoke hostCommands eval name arguments).run.run machine =
      (.error (.error Failure.unknownCallback.message), machine) := by
  let deeper := machine.atDepth (machine.interp.depth + 1)
  have freeThere : slot ∉ deeper.host.session.callbacks.slots := free
  have ran : (Command.run hostCommands eval (.host slot) name arguments).run.run deeper =
      (.error (.error Failure.unknownCallback.message), deeper) :=
    run_dispatch_of_free eval freeThere (name :: arguments)
  rw [run_invoke calls shallow, ran]
  rfl

end Session

namespace World

variable {world : World} {id : SessionId} {session : OpenSession} {eval : SessionEvaluator}
  {name : String} {slot : Nat}

/-- After a name has been unregistered its slot is dead, even if no command could be deleted. -/
theorem unregister_dead
    (found : world.sessions[id]? = some session)
    (isOpen : session.isOpen = true)
    (release : eval.release = freeSlot)
    (isName : Session.slotOf? session.state.settings name = some slot)
    (isTaken : slot < session.state.callbacks.nextSlot) :
    ∃ answer final,
      (perform (.unregister id name)).outcome eval world = (.ok answer, final) ∧
      (final.callbacksOf id).Dead slot := by
  by_cases used : slot ∈ session.state.callbacks.slots
  · obtain ⟨answer, final, after, ended, there, -, endsAt⟩ :=
      unregister_endsAt found isOpen release isName used
    refine ⟨answer, final, ended, ?_⟩
    rw [callbacksOf_of_found there]
    exact ⟨endsAt.sameNext ▸ isTaken, endsAt.ended⟩
  · refine ⟨_, world, unregister_of_free found eval isName used, ?_⟩
    rw [callbacksOf_of_found found]
    exact ⟨isTaken, used⟩

theorem dropHandle_dead
    (found : world.sessions[id]? = some session)
    (isOpen : session.isOpen = true)
    (release : eval.release = freeSlot)
    (isName : Session.slotOf? session.state.settings name = some slot)
    (isTaken : slot < session.state.callbacks.nextSlot) :
    ∃ final,
      (perform (.dropHandle ⟨id, name⟩)).outcome eval world = (.ok (.ok ()), final) ∧
      (final.callbacksOf id).Dead slot := by
  by_cases used : slot ∈ session.state.callbacks.slots
  · obtain ⟨final, after, ended, there, endsAt⟩ :=
      dropHandle_endsAt ⟨id, name⟩ found isOpen release isName used
    refine ⟨final, outcome_always ended, ?_⟩
    rw [callbacksOf_of_found there]
    exact ⟨endsAt.sameNext ▸ isTaken, endsAt.ended⟩
  · refine ⟨world, dropHandle_of_free found eval isName used, ?_⟩
    rw [callbacksOf_of_found found]
    exact ⟨isTaken, used⟩

/-! ## Reachable worlds -/

/-- Where a host starts there are no callbacks. -/
theorem callbacksOf_opened
    (environment : Settings.Environment)
    (sessions : List (InterpAccess × Settings))
    (id : SessionId) :
    (opened environment sessions).callbacksOf id = {} := by
  apply callbacksOf_of_every (· = {})
  · exact every_opened environment fun _ _ => rfl
  · rfl

/-- Whatever hosts and scripts do, a slot whose registration has ended is dead: later it is never
taken again, and its callback never starts again. It ends when its name is unregistered, whatever
comes of that, when its handle is dropped, and when its command is deleted or overwritten. A command
that is left over, under whatever name, fails and changes nothing; as any other command, it is not
even run at the greatest depth. -/
theorem callbacks_stay_dead
    (environment : Settings.Environment)
    (sessions : List (InterpAccess × Settings))
    (program : HostProgram)
    (fuel : Nat)
    {id : SessionId}
    {session : OpenSession}
    (found : (program.outcome fuel (opened environment sessions)).2.sessions[id]? = some session) :
    let callbacks := session.state.callbacks
    (∀ slot, .freed slot ∈ callbacks.history ↔ callbacks.Dead slot) ∧
    (∀ slot later earlier, callbacks.history = later ++ .freed slot :: earlier →
      .taken slot ∈ earlier ∧ .taken slot ∉ later ∧ ∀ texts, .started slot texts ∉ later) ∧
    (∀ (world : World) (next : HostProgram) (fuelThen : Nat) (place : SessionId) (slot : Nat),
      (world.callbacksOf place).Dead slot →
        let final := (next.outcome fuelThen world).2
        (final.callbacksOf place).Dead slot ∧
        ∃ later, (final.callbacksOf place).history = later ++ (world.callbacksOf place).history ∧
          .taken slot ∉ later ∧ ∀ texts, .started slot texts ∉ later) ∧
    (∀ (world : World) (place : SessionId) (before : OpenSession) (eval : SessionEvaluator)
        (name : String) (slot : Nat),
      world.sessions[place]? = some before →
      before.isOpen = true →
      eval.release = freeSlot →
      Session.slotOf? before.state.settings name = some slot →
      slot < before.state.callbacks.nextSlot →
        (∃ answer final,
          (perform (.unregister place name)).outcome eval world = (.ok answer, final) ∧
          (final.callbacksOf place).Dead slot) ∧
        ∃ final,
          (perform (.dropHandle ⟨place, name⟩)).outcome eval world = (.ok (.ok ()), final) ∧
          (final.callbacksOf place).Dead slot) ∧
    ∀ (machine : SessionMachine) (name : String) (slot : Nat),
      machine.interp.command? name = some (.host slot) →
      slot < machine.host.session.callbacks.nextSlot →
        (∀ after, machine.removeCommand freeSlot name = .ok after →
          after.host.session.callbacks.Dead slot) ∧
        (∀ after, machine.renameCommand freeSlot name "" = .ok after →
          after.host.session.callbacks.Dead slot) ∧
        (∀ command, (machine.define freeSlot name command).host.session.callbacks.Dead slot) ∧
        (machine.host.session.callbacks.Dead slot →
          ∀ eval arguments,
            let call := (invoke Session.hostCommands eval name arguments).run.run machine
            (machine.interp.depth < maxDepth →
              call = (.error (.error Failure.unknownCallback.message), machine)) ∧
            (maxDepth ≤ machine.interp.depth →
              call =
                (.error (.error "too many nested evaluations (infinite loop?)"), machine))) := by
  intro callbacks
  have changes := Conduct.callbackChanges_allowsHosts.allows_outcome program fuel
    (opened environment sessions) id
  rw [callbacksOf_opened, callbacksOf_of_found found] at changes
  have chronicled := changes.chronicled .initial
  refine ⟨chronicled.freed, ?_, ?_, ?_, ?_⟩
  · intro slot later earlier split
    exact chronicled.dead_of_split split
  · intro world next fuelThen place slot dead final
    have changesThen := Conduct.callbackChanges_allowsHosts.allows_outcome next fuelThen world place
    obtain ⟨deadStill, later, history, apart⟩ := changesThen.dead dead
    refine ⟨deadStill, later, history, fun taken => apart _ taken rfl, ?_⟩
    exact fun texts started => apart _ started rfl
  · intro world place before eval name slot foundBefore isOpen release isName isTaken
    exact ⟨unregister_dead foundBefore isOpen release isName isTaken,
      dropHandle_dead foundBefore isOpen release isName isTaken⟩
  · intro machine name slot calls isTaken
    refine ⟨?_, ?_, machine.dead_define isTaken calls, ?_⟩
    · intro after removed
      exact machine.dead_of_removeCommand isTaken calls removed
    · intro after renamed
      rw [Machine.renameCommand_empty] at renamed
      exact machine.dead_of_removeCommand isTaken calls renamed
    · intro dead eval arguments call
      exact ⟨fun shallow => Session.run_invoke_of_free eval calls dead.2 shallow arguments,
        fun deep => run_invoke_of_deep calls deep arguments⟩

/-- The second of two callbacks does not take the slot of the first one, which has been
unregistered. -/
theorem callbacks_stay_dead_after_unregister :
    let program : HostProgram :=
      .register 0 (fun _ => .finish none) fun _ =>
        .ask (.unregister 0 "rtk::callback0") fun _ =>
          .register 0 (fun _ => .finish none) fun _ => .finish none
    let world := (program.outcome 0 (opened (fun _ => none) [(.open, {})])).2
    ∃ session : OpenSession,
      world.sessions[0]? = some session ∧
      session.state.callbacks.history = [.taken 1, .freed 0, .taken 0] ∧
      0 ∉ session.state.callbacks.slots ∧
      .taken 0 ∉ [CallbackEvent.taken 1] := by
  intro program world
  have looked : (world.sessions[0]?.map (·.state.callbacks.history)) =
      some [.taken 1, .freed 0, .taken 0] := by
    decide +kernel
  have here : world = (program.outcome 0 (opened (fun _ => none) [(.open, {})])).2 := rfl
  clear_value world
  obtain ⟨session, found, history⟩ := Option.map_eq_some_iff.mp looked
  obtain ⟨ended, dead, -⟩ := callbacks_stay_dead (fun _ => none) [(.open, {})] program 0
    (here ▸ found)
  have freed : .freed 0 ∈ session.state.callbacks.history := by
    rw [history]
    decide
  obtain ⟨-, notTakenAgain, -⟩ := dead 0 [.taken 1] [.taken 0] history
  exact ⟨session, found, history, ((ended 0).mp freed).2, notTakenAgain⟩

end World

end ScriptBridge
