import ScriptBridge.Bridge.Dispatch
import ScriptBridge.Proofs.Interp.CallStack
import ScriptBridge.Proofs.Interp.Evaluation
import ScriptBridge.Proofs.Interp.LinkedVariables

/-!
# What sessions do to the world

A session at work stands for the world with that session back in its place. So a conduct of worlds
is one of sessions at work, and what a host does in a session, or in the midst of one, keeps to it
on one side if it does on the other.
-/

namespace ScriptBridge

instance : Ending Unfinished where
  finished _ := false

/-! ## Sessions at work -/

namespace Session

variable {α : Type} (machine : SessionMachine)

/-- The session with other callbacks. -/
def withCallbacks (callbacks : CallbackTable) : SessionMachine :=
  { machine with
    host := { machine.host with session := { machine.host.session with callbacks } } }

/-- The session with other guards in its past. -/
def withGuards (history : List GuardEvent) : SessionMachine :=
  { machine with
    host := { machine.host with
      session := { machine.host.session with
        links := { machine.host.session.links with history } } } }

theorem run_get_bind (next : SessionMachine → SessionAction α) :
    (get >>= next).run.run machine = (next machine).run.run machine :=
  rfl

theorem run_getState_bind (next : SessionState → SessionAction α) :
    (getState >>= next).run.run machine = (next machine.host.session).run.run machine :=
  rfl

variable {machine}

theorem run_dropFailure
    {failure : Failure}
    (own : failure.scope? = some machine.host.running) :
    (dropFailure failure).run.run machine =
      (.ok (), { machine with
        host := { machine.host with
          session := { machine.host.session with
            failuresAlive := machine.host.session.failuresAlive - 1 } } }) := by
  unfold dropFailure
  rw [run_get_bind, if_pos own]
  rfl

end Session

namespace World

/-- A session that is taken out to work and put back leaves no trace. -/
theorem ofMachine_machineOf
    {world : World}
    {id : SessionId}
    {session : OpenSession}
    (found : world.sessions[id]? = some session) :
    ofMachine (world.machineOf id session) = world := by
  have same : world.sessions.setIfInBounds id session = world.sessions := by
    apply Array.ext_getElem?
    intro index
    rw [Array.getElem?_setIfInBounds]
    split
    · rename_i here
      subst here
      obtain ⟨inside, -⟩ := Array.getElem?_eq_some_iff.mp found
      rw [found, if_pos inside]
    · rfl
  show { world with sessions := world.sessions.setIfInBounds id session } = world
  rw [same]

/-- Every session of a world has a property. -/
def Every (property : OpenSession → Prop) (world : World) : Prop :=
  ∀ (id : SessionId) (session : OpenSession),
    world.sessions[id]? = some session → property session

/-- Sessions that have been opened and nothing else have what is true of new ones. -/
theorem every_opened
    {property : OpenSession → Prop}
    (environment : Settings.Environment)
    {sessions : List (InterpAccess × Settings)}
    (fits : ∀ entry ∈ sessions,
      property { interp := .initial, state := { access := entry.1, settings := entry.2 } }) :
    (opened environment sessions).Every property := by
  intro id session found
  unfold opened at found
  rw [List.getElem?_toArray, List.getElem?_map, Option.map_eq_some_iff] at found
  obtain ⟨entry, known, rfl⟩ := found
  exact fits entry (List.mem_of_getElem? known)

variable {α : Type} {eval : SessionEvaluator} {world : World} {id : SessionId}
  {action : SessionEvaluator → SessionAction α}

theorem run_read_bind (next : SessionEvaluator → WorldAction α) :
    ((read >>= next).run eval).run.run world = ((next eval).run eval).run.run world :=
  rfl

theorem run_get_bind (next : World → WorldAction α) :
    ((get >>= next).run eval).run.run world = ((next world).run eval).run.run world :=
  rfl

theorem outcome_bind
    {β : Type}
    {action : WorldAction α}
    {value : α}
    {next : α → WorldAction β}
    {final : World}
    (first : action.outcome eval world = (.ok value, final)) :
    (action >>= next).outcome eval world = (next value).outcome eval final := by
  unfold WorldAction.outcome at first ⊢
  rw [ReaderT.run_bind, Conduct.run_bind, first]

theorem outcome_always
    {action : WorldAction α}
    {value : α}
    {final : World}
    (ended : action.outcome eval world = (.ok value, final)) :
    (always action).outcome eval world = (.ok (.ok value), final) := by
  have mapped : always action = action >>= fun value => pure (.ok value) := map_eq_pure_bind _ _
  rw [mapped, outcome_bind ended]
  rfl

theorem run_inSession_none
    (missing : world.sessions[id]? = none) :
    ((inSession id action).run eval).run.run world = (.error .unfinished, world) := by
  unfold inSession
  rw [run_read_bind, run_get_bind, missing]
  rfl

theorem run_inSession_some
    {session : OpenSession}
    (found : world.sessions[id]? = some session) :
    ((inSession id action).run eval).run.run world =
      ((resumeFrom ((action eval).run.run (world.machineOf id session))).run eval).run.run
        world := by
  unfold inSession
  rw [run_read_bind, run_get_bind, found]

/-- A session that has done something in the world is back in its place. -/
theorem outcome_inSession
    (action : SessionEvaluator → SessionAction α)
    {session : OpenSession}
    {value : α}
    {after : SessionMachine}
    (found : world.sessions[id]? = some session)
    (ran : (action eval).run.run (world.machineOf id session) = (.ok value, after))
    (sameRunning : after.host.running = id)
    (sameSessions : after.host.sessions = world.sessions) :
    (inSession id action).outcome eval world = (.ok value, ofMachine after) ∧
      (ofMachine after).sessions[id]? = some ⟨after.interp, after.host.session⟩ := by
  constructor
  · unfold WorldAction.outcome
    rw [run_inSession_some found, ran]
    rfl
  · obtain ⟨inside, -⟩ := Array.getElem?_eq_some_iff.mp found
    show (after.host.sessions.setIfInBounds after.host.running _)[id]? = _
    rw [sameRunning, sameSessions, Array.getElem?_setIfInBounds_self_of_lt inside]

end World

namespace Conduct

/-- What sessions at work may do: whatever the world may undergo meanwhile, as long as they stay at
work. -/
def atWork (conduct : Conduct World) : Conduct SessionMachine where
  allows finished before after :=
    after.host.running = before.host.running ∧
      conduct.allows finished (World.ofMachine before) (World.ofMachine after)
  refl machine := ⟨rfl, conduct.refl (World.ofMachine machine)⟩
  trans first second := ⟨second.1.trans first.1, conduct.trans first.2 second.2⟩
  cut allowed := ⟨allowed.1, conduct.cut allowed.2⟩

section Crossing

variable {conduct : Conduct World} {eval : SessionEvaluator} {α : Type}

/-- Where a session works, the world undergoes what the session does. -/
theorem keepsFrom_inSession
    {world : World}
    {id : SessionId}
    {action : SessionEvaluator → SessionAction α}
    (keeps : ∀ session, world.sessions[id]? = some session →
      conduct.atWork.KeepsFrom (world.machineOf id session) (action eval)) :
    conduct.KeepsFrom world ((World.inSession id action).run eval) := by
  unfold KeepsFrom
  cases found : world.sessions[id]? with
  | none =>
      rw [World.run_inSession_none found]
      exact conduct.stays _ world
  | some session =>
      rw [World.run_inSession_some found]
      have kept := keeps session found
      unfold KeepsFrom at kept
      generalize (action eval).run.run (world.machineOf id session) = result at kept ⊢
      obtain ⟨outcome, machine⟩ := result
      have undergone : conduct.allows (finishes outcome) world (World.ofMachine machine) := by
        have moved : conduct.allows (finishes outcome)
            (World.ofMachine (world.machineOf id session)) (World.ofMachine machine) := kept.2
        rwa [World.ofMachine_machineOf found] at moved
      cases outcome with
      | ok value => exact undergone
      | error interruption =>
          have cutShort : conduct.allows false world (World.ofMachine machine) := by
            cases finished : finishes (.error interruption : Except Interruption α) with
            | true => exact conduct.cut (finished ▸ undergone)
            | false => exact finished ▸ undergone
          exact cutShort

theorem keeps_inSession
    {action : SessionEvaluator → SessionAction α}
    (keeps : conduct.atWork.Keeps (action eval))
    (id : SessionId) :
    conduct.Keeps ((World.inSession id action).run eval) := by
  intro world
  apply keepsFrom_inSession
  intro session _
  exact keeps (world.machineOf id session)

/-- What the host does in the midst of a session keeps to what the session has to keep to. -/
theorem keeps_outside
    {action : WorldAction α}
    (keeps : conduct.Keeps (action.run eval)) :
    conduct.atWork.Keeps (Session.outside eval action) := by
  intro machine
  have kept := keeps (World.ofMachine machine)
  show conduct.atWork.KeepsFrom machine
    (Session.resumeFrom machine.host.running (action.outcome eval (.ofMachine machine)))
  unfold KeepsFrom at kept
  unfold WorldAction.outcome
  generalize (action.run eval).run.run (World.ofMachine machine) = result at kept ⊢
  obtain ⟨outcome, world⟩ := result
  unfold Session.resumeFrom
  split
  · exact conduct.atWork.stays _ machine
  · rename_i session found
    have back : World.ofMachine (world.machineOf machine.host.running session) = world :=
      World.ofMachine_machineOf found
    cases outcome with
    | ok value =>
        apply keepsFrom_bind
        · apply keepsFrom_set
          show _ ∧ conduct.allows true (World.ofMachine machine)
            (World.ofMachine (world.machineOf machine.host.running session))
          rw [back]
          exact ⟨rfl, kept⟩
        · intro _ after _
          exact keeps_pure value after
    | error fault =>
        show _ ∧ conduct.allows false (World.ofMachine machine)
          (World.ofMachine (world.machineOf machine.host.running session))
        rw [back]
        exact ⟨rfl, kept⟩

end Crossing

/-! ## Properties of every session -/

/-- What keeps a property of every session. -/
def everySession (property : OpenSession → Prop) : Conduct World where
  allows _ before after := before.Every property → after.Every property
  refl _ every := every
  trans first second := fun every => second (first every)
  cut := id

section Every

variable {property : OpenSession → Prop}

/-- Of the sessions, one at work can change only itself. -/
theorem every_atWork
    {later : OpenSession → Prop}
    {before after : SessionMachine}
    (sameRunning : after.host.running = before.host.running)
    (sameSessions : after.host.sessions = before.host.sessions)
    (own : property ⟨before.interp, before.host.session⟩ →
      later ⟨after.interp, after.host.session⟩)
    (others : ∀ session, property session → later session)
    (every : (World.ofMachine before).Every property) :
    (World.ofMachine after).Every later := by
  intro id session found
  have places : ∀ machine : SessionMachine, (World.ofMachine machine).sessions =
      machine.host.sessions.setIfInBounds machine.host.running
        ⟨machine.interp, machine.host.session⟩ := fun _ => rfl
  rw [places, sameRunning, sameSessions, Array.getElem?_setIfInBounds] at found
  have earlier := every id
  rw [places, Array.getElem?_setIfInBounds] at earlier
  split at found
  · rename_i here
    rw [if_pos here] at earlier
    split at found
    · rename_i inside
      rw [if_pos inside] at earlier
      cases found
      exact own (earlier _ rfl)
    · cases found
  · rename_i elsewhere
    rw [if_neg elsewhere] at earlier
    exact others session (earlier session found)

theorem everySession_atWork
    {finished : Bool}
    {before after : SessionMachine}
    (sameRunning : after.host.running = before.host.running)
    (sameSessions : after.host.sessions = before.host.sessions)
    (own : property ⟨before.interp, before.host.session⟩ →
      property ⟨after.interp, after.host.session⟩) :
    (everySession property).atWork.allows finished before after :=
  ⟨sameRunning, every_atWork sameRunning sameSessions own fun _ => id⟩

/-- A session at work that keeps a property may use it to keep a stronger one. -/
theorem everySession_atWork_of_weaker
    {weaker : OpenSession → Prop}
    {finished : Bool}
    {before after : SessionMachine}
    (keeps : (everySession weaker).atWork.allows finished before after)
    (sameSessions : after.host.sessions = before.host.sessions)
    (weaken : ∀ session, property session → weaker session)
    (own : property ⟨before.interp, before.host.session⟩ →
      weaker ⟨after.interp, after.host.session⟩ → property ⟨after.interp, after.host.session⟩) :
    (everySession property).atWork.allows finished before after := by
  refine ⟨keeps.1, ?_⟩
  intro every
  have kept : (World.ofMachine after).Every weaker :=
    keeps.2 fun id session found => weaken session (every id session found)
  have strengthened : (World.ofMachine after).Every fun session =>
      weaker session → property session :=
    every_atWork keeps.1 sameSessions own (fun _ fits _ => fits) every
  exact fun id session found => strengthened id session found (kept id session found)

/-- A property that does not look at the calls in progress. -/
theorem everySession_allowsNesting
    (depths : ∀ (session : OpenSession) depth, property session →
      property { session with interp := { session.interp with depth } })
    (frames : ∀ (session : OpenSession) frames, property session →
      property { session with
        interp := { session.interp with store := { session.interp.store with frames } } }) :
    (everySession property).atWork.AllowsNesting :=
  allowsNesting_of_indifferent
    (fun _ depth => everySession_atWork rfl rfl (depths _ depth))
    fun _ later => everySession_atWork rfl rfl (frames _ later)

theorem everySession_opened
    {finished : Bool}
    (world : World)
    {session : OpenSession}
    (fits : property session) :
    (everySession property).allows finished world
      { world with sessions := world.sessions.push session } := by
  intro every id other found
  rw [Array.getElem?_push] at found
  split at found
  · cases found
    exact fits
  · exact every id other found

end Every

/-! ## Laws -/

/-- What scripts leave as it is whatever they do: the links of a session, the calls in progress, its
failures, and of what all sessions share everything but texts and streams. Widgets and queued events
have changes of their own. -/
structure Untouched (before after : SessionMachine) : Prop where
  links : before.interp.store.SameLinks after.interp.store
  stack : before.interp.SameStack after.interp
  widgets : before.interp.widgets.Changes after.interp.widgets
  queue : before.interp.queue.Changes after.interp.queue
  running : after.host.running = before.host.running
  shared : after.host.toShared =
    { before.host.toShared with
      texts := after.host.texts
      captured := after.host.captured
      errorOutput := after.host.errorOutput }
  state : after.host.session =
    { before.host.session with
      callbacks := after.host.session.callbacks
      dump := after.host.session.dump }

/-- A session that changes neither its variables nor its calls, and neither widgets nor events. -/
theorem Untouched.beside
    {before after : SessionMachine}
    (sameStore : after.interp.store = before.interp.store)
    (sameDepth : after.interp.depth = before.interp.depth)
    (sameWidgets : after.interp.widgets = before.interp.widgets)
    (sameQueue : after.interp.queue = before.interp.queue)
    (running : after.host.running = before.host.running)
    (shared : after.host.toShared =
      { before.host.toShared with
        texts := after.host.texts
        captured := after.host.captured
        errorOutput := after.host.errorOutput })
    (state : after.host.session =
      { before.host.session with
        callbacks := after.host.session.callbacks
        dump := after.host.session.dump }) :
    Untouched before after where
  links := VariableStore.sameLinks_of_eq (congrArg VariableStore.links sameStore)
  stack := .of_frames (congrArg VariableStore.frames sameStore) sameDepth
  widgets := sameWidgets ▸ .refl
  queue := sameQueue ▸ .refl
  running := running
  shared := shared
  state := state

/-- What a session leaves as it is in its plain work, which enters and takes out no commands. -/
structure Undisturbed (before after : SessionMachine) : Prop extends Untouched before after where
  commands : after.interp.commands = before.interp.commands
  callbacks : after.host.session.callbacks = before.host.session.callbacks

/-- What a conduct has to allow if the plain work of sessions is to keep to it. -/
structure AllowsWork (machines : Conduct SessionMachine) : Prop where
  work : ∀ {before after : SessionMachine},
    Undisturbed before after → machines.allows true before after
  /-- Scripts may enter, take out and rename commands. -/
  defined : ∀ machine name command, (∀ key, command ≠ .host key) →
    machines.allows true machine (machine.define freeSlot name command)
  removed : ∀ {machine after : SessionMachine} {name : String},
    machine.removeCommand freeSlot name = .ok after → machines.allows true machine after
  renamed : ∀ {machine after : SessionMachine} {old new : String},
    machine.renameCommand freeSlot old new = .ok after → machines.allows true machine after
  /-- A slot may be freed while its command stays. -/
  freed : ∀ (machine : SessionMachine) slot,
    machines.allows true machine { machine with host := freeSlot slot machine.host }

/-- What a conduct has to allow if hosts with sessions at plain work are to keep to it. -/
structure AllowsPlainHosts (conduct : Conduct World) : Prop where
  within : conduct.atWork.AllowsWork
  /-- The world may change beside its sessions, commands and failures. -/
  quiet : ∀ {before after : World},
    after.sessions = before.sessions →
    after.commands = before.commands →
    after.kept = before.kept →
    after.held = before.held →
      conduct.allows true before after
  /-- A session may be opened. -/
  opened : ∀ (world : World) access settings dump,
    settings.validate = .ok () →
      conduct.allows true world
        { world with sessions := world.sessions.push ⟨.initial, { settings, access, dump }⟩ }

/-- Failures of a session may come and go. -/
def AllowsFailing (machines : Conduct SessionMachine) : Prop :=
  ∀ (machine : SessionMachine) failuresAlive deferred,
    machines.allows true machine
      { machine with
        host := { machine.host with
          session := { machine.host.session with failuresAlive, deferred } } }

/-- Links and the names of linked variables may change. -/
structure AllowsLinking (machines : Conduct SessionMachine) : Prop where
  stores : ∀ {machine : SessionMachine} {store : VariableStore},
    store.frames = machine.interp.store.frames →
      machines.allows true machine (machine.withStore store)
  names : ∀ (machine : SessionMachine) links,
    machines.allows true machine
      { machine with
        host := { machine.host with session := { machine.host.session with links } } }

/-- What a conduct has to allow if links may end, with their guards or before. -/
structure AllowsGuards (machines : Conduct SessionMachine) : Prop where
  made : ∀ target, machines.Keeps (Session.makeGuard target)
  dropped : ∀ linkGuard, machines.Keeps (Session.giveUpGuard linkGuard)
  unlinked : ∀ target, machines.Keeps (Session.endLink target)

/-- What a conduct has to allow if all that hosts do with sessions is to keep to it. -/
structure AllowsSessions (conduct : Conduct World) : Prop extends conduct.AllowsPlainHosts where
  failing : conduct.atWork.AllowsFailing
  /-- The host may receive failures, keep them and let them go. -/
  holding : ∀ (world : World) kept held, conduct.allows true world { world with kept, held }
  registered : ∀ (eval : SessionEvaluator) callback, eval.release = freeSlot →
    conduct.atWork.Keeps (Session.register eval callback)
  linked : ∀ target, conduct.atWork.Keeps (Session.link target)
  guards : conduct.atWork.AllowsGuards

/-- What two conducts allow of sessions at work is allowed by any that they imply. -/
theorem atWork_of_both
    {first second whole : Conduct World}
    (implied : ∀ {finished before after}, first.allows finished before after →
      second.allows finished before after → whole.allows finished before after)
    {finished : Bool}
    {before after : SessionMachine}
    (ofFirst : first.atWork.allows finished before after)
    (ofSecond : second.atWork.allows finished before after) :
    whole.atWork.allows finished before after :=
  ⟨ofFirst.1, implied ofFirst.2 ofSecond.2⟩

/-- What two conducts allow of sessions is allowed by any that they imply. -/
theorem AllowsSessions.both
    {first second whole : Conduct World}
    (ofFirst : first.AllowsSessions)
    (ofSecond : second.AllowsSessions)
    (implied : ∀ {finished before after}, first.allows finished before after →
      second.allows finished before after → whole.allows finished before after) :
    whole.AllowsSessions where
  within :=
    { work := fun undisturbed =>
        atWork_of_both implied (ofFirst.within.work undisturbed)
          (ofSecond.within.work undisturbed)
      defined := fun machine name command noHost =>
        atWork_of_both implied (ofFirst.within.defined machine name command noHost)
          (ofSecond.within.defined machine name command noHost)
      removed := fun removed =>
        atWork_of_both implied (ofFirst.within.removed removed)
          (ofSecond.within.removed removed)
      renamed := fun renamed =>
        atWork_of_both implied (ofFirst.within.renamed renamed)
          (ofSecond.within.renamed renamed)
      freed := fun machine slot =>
        atWork_of_both implied (ofFirst.within.freed machine slot)
          (ofSecond.within.freed machine slot) }
  quiet sessions commands kept held :=
    implied (ofFirst.quiet sessions commands kept held) (ofSecond.quiet sessions commands kept held)
  opened world access settings dump valid :=
    implied (ofFirst.opened world access settings dump valid)
      (ofSecond.opened world access settings dump valid)
  failing machine failuresAlive deferred :=
    atWork_of_both implied (ofFirst.failing machine failuresAlive deferred)
          (ofSecond.failing machine failuresAlive deferred)
  holding world kept held :=
    implied (ofFirst.holding world kept held) (ofSecond.holding world kept held)
  registered eval callback release machine :=
    atWork_of_both implied (ofFirst.registered eval callback release machine)
          (ofSecond.registered eval callback release machine)
  linked target machine :=
    atWork_of_both implied (ofFirst.linked target machine)
          (ofSecond.linked target machine)
  guards :=
    { made := fun target machine =>
        atWork_of_both implied (ofFirst.guards.made target machine)
          (ofSecond.guards.made target machine)
      dropped := fun linkGuard machine =>
        atWork_of_both implied (ofFirst.guards.dropped linkGuard machine)
          (ofSecond.guards.dropped linkGuard machine)
      unlinked := fun target machine =>
        atWork_of_both implied (ofFirst.guards.unlinked target machine)
          (ofSecond.guards.unlinked target machine) }

/-- An evaluator of a session whose scripts keep to a conduct. -/
structure Runs (machines : Conduct SessionMachine) (eval : SessionEvaluator) : Prop where
  release : eval.release = freeSlot
  scripts : eval.Keeps machines

section Work

variable {machines : Conduct SessionMachine} {eval : SessionEvaluator}

theorem keeps_getState : machines.Keeps Session.getState :=
  keeps_bind keeps_get fun machine => keeps_pure machine.host.session

/-! ## Failures -/

namespace AllowsFailing

variable (failing : machines.AllowsFailing)

include failing

theorem keeps_raise (message : String) : machines.Keeps (Session.raise message) := by
  apply keeps_bind
  · exact keeps_modify fun machine => failing machine _ machine.host.session.deferred
  · intro _
    exact keeps_bind keeps_get fun _ => keeps_pure _

theorem keeps_dropFailure (failure : Failure) :
    machines.Keeps (Session.dropFailure failure) := by
  apply keeps_bind keeps_get
  intro machine
  split
  · exact keeps_modify fun machine => failing machine _ machine.host.session.deferred
  · exact keeps_pure ()

theorem keeps_recordDeferred (failure : Failure) :
    machines.Keeps (Session.recordDeferred failure) :=
  keeps_modify fun machine => failing machine machine.host.session.failuresAlive _

theorem keeps_takeDeferred : machines.Keeps Session.takeDeferred := by
  apply keeps_bind keeps_getState
  intro session
  apply keeps_bind
  · exact keeps_modify fun machine => failing machine machine.host.session.failuresAlive _
  · intro _
    exact keeps_pure _

end AllowsFailing

/-! ## Links -/

theorem keeps_linkOf (target : HostVariable) : machines.Keeps (Session.linkOf target) := by
  cases target with
  | int id => exact keeps_pure _
  | float id => exact keeps_pure _
  | text id => exact keeps_bind (keeps_bind keeps_get fun _ => keeps_pure _) fun _ => keeps_pure _

theorem keeps_linkScoped
    (linked : ∀ target, machines.Keeps (Session.link target))
    (target : HostVariable) :
    machines.Keeps (Session.linkScoped target) := by
  unfold Session.linkScoped
  apply keeps_bind keeps_get
  intro machine
  apply keeps_bind (linked target)
  intro outcome
  split
  · exact keeps_pure _
  · exact keeps_pure _

theorem keeps_dropGuard
    (unlinked : ∀ target, machines.Keeps (Session.unlink target))
    (linkGuard : LinkGuard) :
    machines.Keeps (Session.dropGuard linkGuard) := by
  unfold Session.dropGuard
  split
  · exact unlinked _
  · exact keeps_pure ()

section Indifferent

variable
  (indifferent : ∀ (machine : SessionMachine) history,
    machines.allows true machine (Session.withGuards machine history))

include indifferent

theorem keeps_noting
    {α : Type}
    {action : SessionAction α}
    (keeps : machines.Keeps action)
    (events : α → List GuardEvent) :
    machines.Keeps (Session.noting action events) :=
  keeps_bind keeps fun _ =>
    keeps_bind (keeps_modify fun machine => indifferent machine _) fun _ => keeps_pure _

/-- What hosts do with guards keeps to every conduct that does not look at them. -/
theorem allowsGuards_of_indifferent
    (linked : ∀ target, machines.Keeps (Session.link target))
    (unlinked : ∀ target, machines.Keeps (Session.unlink target)) :
    machines.AllowsGuards where
  made target := keeps_noting indifferent (keeps_linkScoped linked target) _
  dropped linkGuard := keeps_noting indifferent (keeps_dropGuard unlinked linkGuard) _
  unlinked target := keeps_noting indifferent (unlinked target) _

end Indifferent

namespace AllowsLinking

variable (linking : machines.AllowsLinking)

include linking

theorem keeps_changeLinks (change : SessionState → LinkTable) :
    machines.Keeps
      (Session.modifyState fun session => { session with links := change session }) :=
  keeps_modify fun machine => linking.names machine _

theorem keeps_nextVariableName : machines.Keeps Session.nextVariableName := by
  unfold Session.nextVariableName
  apply keeps_bind keeps_getState
  intro session
  exact keeps_bind (linking.keeps_changeLinks _) fun _ => keeps_pure _

theorem keeps_linkName (name : String) (link : Link) :
    machines.Keeps (Session.linkName name link) := by
  unfold Session.linkName
  apply keeps_bind keeps_getState
  intro session
  split
  · exact keeps_bind keeps_get fun _ => keeps_pure _
  · apply keeps_get_bind
    intro machine
    cases linked : machine.link name link with
    | error message => exact keeps_pure (Except.error message) machine
    | ok after =>
        apply keepsFrom_putMachine
        unfold Machine.link at linked
        split at linked
        · rename_i store entered
          obtain rfl := Except.ok.inj linked
          exact linking.stores (VariableStore.frames_link? entered)
        · cases linked

theorem keeps_link
    (failing : machines.AllowsFailing)
    (target : HostVariable) :
    machines.Keeps (Session.link target) := by
  unfold Session.link
  apply keeps_bind keeps_getState
  intro session
  split
  · exact keeps_pure _
  · apply keeps_bind linking.keeps_nextVariableName
    intro name
    apply keeps_bind (keeps_linkOf target)
    intro link
    apply keeps_bind (linking.keeps_linkName name link)
    intro outcome
    split
    · exact keeps_bind (linking.keeps_changeLinks _) fun _ => keeps_pure _
    · exact keeps_bind (failing.keeps_raise _) fun _ => keeps_pure _

theorem keeps_unlink (target : HostVariable) : machines.Keeps (Session.unlink target) := by
  unfold Session.unlink
  apply keeps_bind keeps_getState
  intro session
  split
  · exact keeps_pure ()
  · apply keeps_bind (linking.keeps_changeLinks _)
    intro _
    exact keeps_modify fun _ => linking.stores (VariableStore.frames_unlink _ _ _)

theorem allowsGuards (failing : machines.AllowsFailing) : machines.AllowsGuards :=
  allowsGuards_of_indifferent (fun machine _ => linking.names machine _)
    (linking.keeps_link failing) linking.keeps_unlink

end AllowsLinking

/-! ## Parts of a session -/

theorem keeps_dumped
    (streams : ∀ (machine : SessionMachine) captured errorOutput,
      machines.allows true machine
        { machine with host := { machine.host with captured, errorOutput } })
    (script : String) :
    machines.Keeps (Session.modifyHost (Session.dumped script)) := by
  apply keeps_modify
  intro machine
  unfold Session.dumped
  split
  · exact machines.refl machine
  · exact machines.refl machine
  · exact streams machine _ machine.host.errorOutput
  · exact streams machine machine.host.captured _

/-- Linked texts go to the interpreter buffer by buffer. -/
theorem keeps_setBuffers
    (buffers : ∀ (machine : SessionMachine) name buffer,
      machines.allows true machine (machine.setBuffer name buffer)) :
    machines.Keeps Session.syncToInterpreter := by
  unfold Session.syncToInterpreter
  apply keeps_bind (keeps_bind keeps_getState fun _ => keeps_pure _)
  intro texts
  apply keeps_bind
  · apply keeps_forIn
    intro item value
    apply keeps_bind (keeps_bind keeps_get fun _ => keeps_pure _)
    intro text
    apply keeps_bind (keeps_modify fun machine => buffers machine _ _)
    intro _
    exact keeps_pure _
  · intro _
    exact keeps_pure _

namespace AllowsWork

variable (laws : machines.AllowsWork)

include laws

theorem scripts : machines.AllowsScripts freeSlot where
  changed := by
    intro before after change
    have stack := change.sameStack
    cases change with
    | written wrote =>
        exact laws.work
          ⟨⟨VariableStore.sameLinks_set wrote, stack, .refl, .refl, rfl, rfl, rfl⟩, rfl, rfl⟩
    | unset unset =>
        exact laws.work
          ⟨⟨VariableStore.sameLinks_unset unset, stack, .refl, .refl, rfl, rfl, rfl⟩, rfl, rfl⟩
    | declared names =>
        exact laws.work
          ⟨⟨VariableStore.sameLinks_of_eq (VariableStore.links_declareGlobals names _), stack,
            .refl, .refl, rfl, rfl, rfl⟩, rfl, rfl⟩
    | defined name noHost => exact laws.defined before name _ noHost
    | removed removed => exact laws.removed removed
    | renamed renamed => exact laws.renamed renamed
    | shown changed =>
        exact laws.work
          ⟨⟨VariableStore.sameLinks_of_eq rfl, stack, .single changed, .refl, rfl, rfl, rfl⟩,
            rfl, rfl⟩
    | queued changed =>
        exact laws.work
          ⟨⟨VariableStore.sameLinks_of_eq rfl, stack, .refl, .single changed, rfl, rfl, rfl⟩,
            rfl, rfl⟩
    | waited | printed | ended =>
        exact laws.work
          ⟨⟨VariableStore.sameLinks_of_eq rfl, stack, .refl, .refl, rfl, rfl, rfl⟩, rfl, rfl⟩
  answered _ _ :=
    laws.work ⟨.beside rfl rfl rfl rfl rfl rfl rfl, rfl, rfl⟩

theorem keeps_setDump (dump : DumpStream) : machines.Keeps (Session.setDump dump) :=
  keeps_modify fun _ =>
    laws.work ⟨.beside rfl rfl rfl rfl rfl rfl rfl, rfl, rfl⟩

theorem keeps_dump (script : String) :
    machines.Keeps (Session.modifyHost (Session.dumped script)) :=
  keeps_dumped
    (fun _ _ _ =>
      laws.work ⟨.beside rfl rfl rfl rfl rfl rfl rfl, rfl, rfl⟩)
    script

theorem keeps_setText (id : Nat) (value : String) :
    machines.Keeps (Session.setText id value) :=
  keeps_modify fun _ =>
    laws.work ⟨.beside rfl rfl rfl rfl rfl rfl rfl, rfl, rfl⟩

theorem keeps_takeOutput : machines.Keeps Session.takeOutput :=
  keeps_modifyGet fun _ =>
    laws.work ⟨.beside rfl rfl rfl rfl rfl rfl rfl, rfl, rfl⟩

/-! ## Copying texts -/

theorem keeps_syncToInterpreter : machines.Keeps Session.syncToInterpreter := by
  apply keeps_setBuffers
  intro machine name buffer
  have frames := VariableStore.frames_setBuffer machine.interp.store name buffer
  exact laws.work
    ⟨⟨VariableStore.sameLinks_setBuffer _ _, .of_frames frames rfl, .refl, .refl, rfl, rfl, rfl⟩,
      rfl, rfl⟩

theorem keeps_syncToHost : machines.Keeps Session.syncToHost := by
  unfold Session.syncToHost
  apply keeps_bind (keeps_bind keeps_getState fun _ => keeps_pure _)
  intro texts
  apply keeps_bind
  · apply keeps_forIn
    intro item value
    apply keeps_bind keeps_getInterp
    intro interp
    apply keeps_bind (laws.keeps_setText _ _)
    intro _
    exact keeps_pure _
  · intro _
    exact keeps_pure _

/-! ## Scripts -/

section Scripts

variable (runs : machines.Runs eval)

include runs

theorem scriptsOf : machines.AllowsScripts eval.release :=
  runs.release ▸ laws.scripts

theorem keeps_submitted (script : String) : machines.Keeps (submit eval script) :=
  keeps_submit (laws.scriptsOf runs) runs.scripts script

theorem keeps_runLoop : machines.Keeps (Session.runLoop eval) :=
  keeps_bind laws.keeps_syncToInterpreter fun _ =>
    keeps_runEventLoop (laws.scriptsOf runs) runs.scripts

theorem keeps_deleteCommand (name : String) :
    machines.Keeps (Session.deleteCommand eval name) := by
  unfold Session.deleteCommand
  apply keeps_bind keeps_getState
  intro session
  split
  · exact keeps_pure _
  · apply keeps_get_bind
    intro machine
    cases removed : machine.removeCommand eval.release name with
    | error message => exact keeps_pure (Except.error message) machine
    | ok after => exact keepsFrom_putMachine (laws.removed (runs.release ▸ removed)) _

end Scripts

end AllowsWork

/-! ## Evaluation, links and callbacks -/

namespace AllowsSessions

variable {conduct : Conduct World} (laws : conduct.AllowsSessions)

include laws

variable (runs : conduct.atWork.Runs eval)

include runs

theorem keeps_evaluate (script : String) :
    conduct.atWork.Keeps (Session.evaluate eval script) := by
  unfold Session.evaluate
  apply keeps_bind (laws.within.keeps_dump script)
  intro _
  apply keeps_bind keeps_getState
  intro session
  split
  · apply keeps_bind (laws.within.keeps_submitted runs script)
    intro outcome
    split
    · exact keeps_bind keeps_getInterp fun _ => keeps_pure _
    · exact keeps_bind (laws.failing.keeps_raise _) fun _ => keeps_pure _
  · exact keeps_bind (laws.within.scripts.keeps_setResult "") fun _ => keeps_pure _

theorem keeps_unregister (name : String) :
    conduct.atWork.Keeps (Session.unregister eval name) := by
  unfold Session.unregister
  apply keeps_bind keeps_getState
  intro session
  split
  · exact keeps_pure _
  · rename_i slot _
    split
    · apply keeps_bind (keeps_modify fun machine => laws.within.freed machine slot)
      intro _
      apply keeps_bind (laws.within.keeps_deleteCommand runs name)
      intro outcome
      split
      · exact keeps_pure _
      · exact keeps_bind (laws.failing.keeps_raise _) fun _ => keeps_pure _
    · exact keeps_pure _

end AllowsSessions

end Work

/-! ## Conducts that do not look at commands and callbacks -/

section Untouched

variable {machine after : SessionMachine} {name : String}

theorem untouched_released
    (commands : Std.TreeMap String (Command Nat))
    (old : Option (Command Nat)) :
    Untouched machine
      (Machine.released
        { machine with interp := { machine.interp with commands } } freeSlot old) := by
  cases old with
  | none => exact .beside rfl rfl rfl rfl rfl rfl rfl
  | some command =>
      cases command
      all_goals exact .beside rfl rfl rfl rfl rfl rfl rfl

theorem untouched_removed
    (removed : machine.removeCommand freeSlot name = .ok after) :
    Untouched machine after := by
  obtain ⟨old, -, rfl⟩ := Machine.eq_of_removeCommand removed
  exact untouched_released _ _

theorem untouched_renamed
    {new : String}
    (renamed : machine.renameCommand freeSlot name new = .ok after) :
    Untouched machine after := by
  obtain removed | ⟨command, -, -, rfl⟩ := Machine.eq_of_renameCommand renamed
  · exact untouched_removed removed
  · exact .beside rfl rfl rfl rfl rfl rfl rfl

end Untouched

/-- What a conduct has to allow that looks at no commands and callbacks. -/
def AllowsUntouched (machines : Conduct SessionMachine) : Prop :=
  ∀ {before after : SessionMachine}, Untouched before after → machines.allows true before after

namespace AllowsUntouched

variable {machines : Conduct SessionMachine} {eval : SessionEvaluator}
  (laws : machines.AllowsUntouched)

include laws

theorem allowsWork : machines.AllowsWork where
  work undisturbed := laws undisturbed.toUntouched
  defined _ _ _ _ := laws (untouched_released _ _)
  removed removed := laws (untouched_removed removed)
  renamed renamed := laws (untouched_renamed renamed)
  freed _ _ := laws (.beside rfl rfl rfl rfl rfl rfl rfl)

theorem keeps_takeSlot (callback : Callback) :
    machines.Keeps (Session.takeSlot callback) := by
  unfold Session.takeSlot
  apply keeps_bind keeps_getState
  intro session
  apply keeps_bind
  · exact keeps_modify fun _ => laws (.beside rfl rfl rfl rfl rfl rfl rfl)
  · intro _
    exact keeps_pure _

theorem keeps_createCommand
    (release : eval.release = freeSlot)
    (name : String)
    (slot : Nat) :
    machines.Keeps (Session.createCommand eval name slot) := by
  unfold Session.createCommand
  apply keeps_bind keeps_getState
  intro session
  split
  · exact keeps_pure _
  · apply keeps_bind
    · apply keeps_modify
      intro machine
      rw [release]
      exact laws (untouched_released _ _)
    · intro _
      exact keeps_pure _

theorem keeps_register
    (failing : machines.AllowsFailing)
    (callback : Callback)
    (release : eval.release = freeSlot) :
    machines.Keeps (Session.register eval callback) := by
  unfold Session.register
  apply keeps_bind (laws.keeps_takeSlot callback)
  intro slot
  apply keeps_bind keeps_getState
  intro session
  apply keeps_bind (laws.keeps_createCommand release _ slot)
  intro outcome
  split
  · exact keeps_pure _
  · apply keeps_bind (keeps_modify fun machine => laws.allowsWork.freed machine slot)
    intro _
    exact keeps_bind (failing.keeps_raise _) fun _ => keeps_pure _

end AllowsUntouched

/-- What hosts do with sessions keeps a property that does not look at commands and callbacks. -/
theorem everySession_allowsSessions
    {property : OpenSession → Prop}
    (untouched : (everySession property).atWork.AllowsUntouched)
    (failing : (everySession property).atWork.AllowsFailing)
    (opened : ∀ access settings dump, settings.validate = .ok () →
      property ⟨.initial, { settings, access, dump }⟩)
    (linked : ∀ target, (everySession property).atWork.Keeps (Session.link target))
    (guards : (everySession property).atWork.AllowsGuards) :
    (everySession property).AllowsSessions where
  within := untouched.allowsWork
  quiet sameSessions _ _ _ := fun every id session found => every id session (sameSessions ▸ found)
  opened world access settings dump valid :=
    everySession_opened world (opened access settings dump valid)
  failing := failing
  holding _ _ _ := id
  registered _ callback release := untouched.keeps_register failing callback release
  linked := linked
  guards := guards

/-! ## Conducts that look at commands and callbacks alone -/

/-- What a conduct has to allow that looks neither at links nor at failures. -/
structure AllowsTables (conduct : Conduct World) : Prop where
  quiet : ∀ {before after : World},
    after.sessions = before.sessions → after.commands = before.commands →
      conduct.allows true before after
  work : ∀ {before after : SessionMachine},
    after.interp.commands = before.interp.commands →
    after.host.session.callbacks = before.host.session.callbacks →
    after.host.running = before.host.running →
    after.host.sessions = before.host.sessions →
    after.host.commands = before.host.commands →
      conduct.atWork.allows true before after
  opened : ∀ (world : World) access settings dump,
    conduct.allows true world
      { world with sessions := world.sessions.push ⟨.initial, { settings, access, dump }⟩ }
  defined : ∀ machine name command, (∀ key, command ≠ .host key) →
    conduct.atWork.allows true machine (machine.define freeSlot name command)
  removed : ∀ {machine after : SessionMachine} {name : String},
    machine.removeCommand freeSlot name = .ok after → conduct.atWork.allows true machine after
  renamed : ∀ {machine after : SessionMachine} {old new : String},
    machine.renameCommand freeSlot old new = .ok after → conduct.atWork.allows true machine after
  freed : ∀ (machine : SessionMachine) slot,
    conduct.atWork.allows true machine { machine with host := freeSlot slot machine.host }
  registered : ∀ (eval : SessionEvaluator) callback, eval.release = freeSlot →
    conduct.atWork.Keeps (Session.register eval callback)

namespace AllowsTables

variable {conduct : Conduct World} (laws : conduct.AllowsTables)

include laws

theorem allowsWork : conduct.atWork.AllowsWork where
  work undisturbed := by
    refine laws.work undisturbed.commands undisturbed.callbacks undisturbed.running ?_ ?_
    · rw [undisturbed.shared]
    · rw [undisturbed.shared]
  defined := laws.defined
  removed := laws.removed
  renamed := laws.renamed
  freed := laws.freed

theorem failing : conduct.atWork.AllowsFailing :=
  fun _ _ _ => laws.work rfl rfl rfl rfl rfl

theorem linking : conduct.atWork.AllowsLinking where
  stores _ := laws.work rfl rfl rfl rfl rfl
  names _ _ := laws.work rfl rfl rfl rfl rfl

theorem nesting : conduct.atWork.AllowsNesting :=
  allowsNesting_of_indifferent
    (fun _ _ => laws.work rfl rfl rfl rfl rfl)
    fun _ _ => laws.work rfl rfl rfl rfl rfl

theorem allowsSessions : conduct.AllowsSessions where
  within := laws.allowsWork
  quiet sameSessions sameCommands _ _ := laws.quiet sameSessions sameCommands
  opened world access settings dump _ := laws.opened world access settings dump
  failing := laws.failing
  holding _ _ _ := laws.quiet rfl rfl
  registered := laws.registered
  linked := laws.linking.keeps_link laws.failing
  guards := laws.linking.allowsGuards laws.failing

end AllowsTables

/-! ## Conducts that do not look at sessions -/

section Indifferent

variable {conduct : Conduct World}

theorem running_released (machine : SessionMachine) (old : Option (Command Nat)) :
    (machine.released freeSlot old).host.running = machine.host.running := by
  cases old with
  | none => rfl
  | some command => cases command <;> rfl

theorem commands_released (machine : SessionMachine) (old : Option (Command Nat)) :
    (machine.released freeSlot old).host.commands = machine.host.commands := by
  cases old with
  | none => rfl
  | some command => cases command <;> rfl

variable
  (indifferent : ∀ {before after : World},
    after.commands = before.commands → conduct.allows true before after)

include indifferent

theorem removed_of_indifferent
    {machine after : SessionMachine}
    {name : String}
    (removed : machine.removeCommand freeSlot name = .ok after) :
    conduct.atWork.allows true machine after := by
  obtain ⟨old, -, rfl⟩ := Machine.eq_of_removeCommand removed
  exact ⟨running_released _ _, indifferent (commands_released _ _)⟩

theorem renamed_of_indifferent
    {machine after : SessionMachine}
    {old new : String}
    (renamed : machine.renameCommand freeSlot old new = .ok after) :
    conduct.atWork.allows true machine after := by
  obtain removed | ⟨command, -, -, rfl⟩ := Machine.eq_of_renameCommand renamed
  · exact removed_of_indifferent indifferent removed
  · exact ⟨rfl, indifferent rfl⟩

theorem registered_of_indifferent
    {eval : SessionEvaluator}
    (callback : Callback)
    (release : eval.release = freeSlot) :
    conduct.atWork.Keeps (Session.register eval callback) := by
  rintro ⟨interp, cells, clock, shared, running, settings, access, callbacks, links, failures, dump,
    deferred⟩
  cases access with
  | refusing => exact ⟨rfl, indifferent rfl⟩
  | «open» | closed =>
      show conduct.atWork.allows true _ (Machine.define _ eval.release _ _)
      rw [release, Machine.define]
      exact ⟨running_released _ _, indifferent (commands_released _ _)⟩

/-- What hosts do with sessions keeps to every conduct that looks at commands alone. -/
theorem allowsTables_of_indifferent : conduct.AllowsTables where
  quiet _ same := indifferent same
  work _ _ sameRunning _ same := ⟨sameRunning, indifferent same⟩
  opened _ _ _ _ := indifferent rfl
  defined _ _ _ _ := ⟨running_released _ _, indifferent (commands_released _ _)⟩
  removed := removed_of_indifferent indifferent
  renamed := renamed_of_indifferent indifferent
  freed _ _ := ⟨rfl, indifferent rfl⟩
  registered _ callback release := registered_of_indifferent indifferent callback release

end Indifferent

end Conduct

end ScriptBridge
