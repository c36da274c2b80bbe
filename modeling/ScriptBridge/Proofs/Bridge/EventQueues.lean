import ScriptBridge.Proofs.Bridge.OpenSessions
import ScriptBridge.Proofs.Interp.EventQueues

/-!
# Queued events of sessions

Hosts and scripts queue events, cancel them and run them while other events run. Whatever they do,
and however much time passes meanwhile, the history of each session accounts for its events.
-/

namespace ScriptBridge

/-- The evaluator of sessions where some time passes before each command. -/
def Session.evaluatorAmid (passing : SessionMachine → Nat) (fuel : Nat) : SessionEvaluator :=
  evaluatorVia
    (fun eval name arguments => do
      modify fun machine => { machine with clock := machine.clock + passing machine }
      invoke hostCommands eval name arguments)
    freeSlot fuel

/-- Without time that passes it is the evaluator of sessions. -/
theorem Session.evaluatorAmid_zero (fuel : Nat) :
    evaluatorAmid (fun _ => 0) fuel = evaluatorOf fuel :=
  evaluatorVia_invoke hostCommands fuel

namespace Conduct

/-- Time that passes before commands concerns no conduct of host programs. -/
theorem AllowsHosts.runsAmid
    {conduct : Conduct World}
    (laws : conduct.AllowsHosts)
    (passing : SessionMachine → Nat)
    (fuel : Nat) :
    conduct.atWork.Runs (Session.evaluatorAmid passing fuel) where
  release := evaluatorVia_release fuel
  scripts := by
    have scripts := laws.sessions.within.scripts
    apply keeps_evaluatorVia scripts
    intro eval release keeps name arguments
    apply keeps_bind
    · exact keeps_modify fun machine => scripts.changed (.waited (Nat.le_add_right _ _))
    · intro _
      exact keeps_invoke scripts laws.nesting laws.keeps_dispatch release keeps name arguments

/-- Sessions stay open, and remember what has happened to their events. -/
def remembering : Conduct World :=
  eachInterp Interp.Remembers .refl .trans

theorem remembering_allowsHosts : remembering.AllowsHosts :=
  eachInterp_allowsHosts (fun untouched => .of_changes untouched.queue) (fun _ => .of_same rfl)
    (eachSession_allowsNesting (fun _ _ => .of_same rfl) fun _ _ => .of_same rfl)

end Conduct

namespace World

/-- A program of the host makes this of a world while time passes before each command. -/
def amid
    (program : HostProgram)
    (passing : SessionMachine → Nat)
    (fuel : Nat)
    (world : World) : World :=
  ((run [] program).outcome (Session.evaluatorAmid passing fuel) world).2

theorem queues_accounted
    (environment : Settings.Environment)
    (sessions : List (InterpAccess × Settings))
    (program : HostProgram)
    (passing : SessionMachine → Nat)
    (fuel : Nat) :
    (amid program passing fuel (opened environment sessions)).Every
      fun session => session.interp.queue.Accounted := by
  have laws : (Conduct.everySession fun session => session.interp.queue.Accounted).AllowsHosts :=
    Conduct.recorded_allowsHosts EventQueue.accounted_empty (fun _ => id)
      fun change => change.accounted
  apply laws.keeps_run (laws.runsAmid passing fuel) program []
  exact every_opened environment fun _ _ => EventQueue.accounted_empty

/-- Where no time passes, that is what the program makes of the world. -/
theorem amid_zero (program : HostProgram) (fuel : Nat) (world : World) :
    amid program (fun _ => 0) fuel world = (program.outcome fuel world).2 := by
  unfold amid HostProgram.outcome
  rw [Session.evaluatorAmid_zero]

/-- Whatever hosts and scripts do, and however much time passes before each command, in every session
the numbers of the queued events are distinct and below the next one to be given, and each number
that has been given belongs to an event that was started once, or was cancelled without being
started, or is still queued; what was started had been queued, and came before all that was left. This
also holds where a run is cut short, and for runs in which no time passes. No number is given twice,
and nothing of this is forgotten as runs go on. What `after` answers and does is exactly what its rules
say, and it does nothing if it fails; the names that it gives stand for the numbers. While the program
is not to end, a loop starts the event that comes first, where it is to be run by now, and evaluates
its script at once. A loop over all events ends only where the queue is empty or the program is to
end. -/
theorem events_accounted
    (environment : Settings.Environment)
    (sessions : List (InterpAccess × Settings))
    (program : HostProgram)
    (passing : SessionMachine → Nat)
    (fuel : Nat) :
    (∀ (id : SessionId) (session : OpenSession),
      (amid program passing fuel (opened environment sessions)).sessions[id]? = some session →
        let queue := session.interp.queue
        queue.ids.Nodup ∧
          (∀ number ∈ queue.ids, number < queue.nextId) ∧
          (∀ number < queue.nextId, queue.OneFate number) ∧
          (queue.events ≠ [] → ∃ event, queue.IsFirst event) ∧
          ∀ event left, .started event left ∈ queue.history →
            .queued event ∈ queue.history ∧ ∀ other ∈ left, event.key < other.key) ∧
    (∀ (world : World) (id : SessionId) (session : OpenSession),
      world.sessions[id]? = some session →
        ∃ later, (amid program passing fuel world).sessions[id]? = some later ∧
          session.interp.Remembers later.interp) ∧
    (∀ world : World, amid program (fun _ => 0) fuel world = (program.outcome fuel world).2) ∧
    (∀ {Key Host : Type} (eval : Evaluator Key Host) (name : String) (arguments : List String)
      (machine after : Machine Key Host),
      (∀ answer,
        (Builtin.after.run eval name arguments).run.run machine = (.ok answer, after) ↔
          ∃ time queue,
            AfterRule machine.clock machine.interp.queue arguments answer time queue ∧
              after = { machine.withQueue queue with clock := time }) ∧
      ∀ fault, (Builtin.after.run eval name arguments).run.run machine = (.error fault, after) →
        after = machine) ∧
    (∀ number ≤ Commands.largestEventId,
      Commands.eventId? ("after#" ++ toString number) = some number) ∧
    (∀ {Key Host : Type} (eval : Evaluator Key Host) (onlyDue : Bool) (rounds : Nat)
      (machine : Machine Key Host) (event : Event),
      machine.interp.exitCode = none → machine.interp.queue.IsFirst event →
        (onlyDue = true → event.isDue machine.clock = true) →
          let queue := machine.interp.queue
          let left := queue.events.filter (·.id != event.id)
          let started : EventQueue :=
            { queue with events := left, history := .started event left :: queue.history }
          (Commands.runEvents eval onlyDue (rounds + 1)).run.run machine =
            match (eval.script event.script).run.run
              ((machine.withQueue started).reaching event) with
            | (.error .unfinished, after) => (.error .unfinished, after)
            | (.error (.exited code), after) =>
                (Commands.runEvents eval onlyDue rounds).run.run (after.ended code)
            | (_, after) => (Commands.runEvents eval onlyDue rounds).run.run after) ∧
    ∀ {Key Host : Type} (eval : Evaluator Key Host) (machine : Machine Key Host),
      let ran := (runEventLoop eval).run.run machine
      ran.1 = .error .unfinished ∨
        ran.1 = .ok () ∧
          (ran.2.interp.queue.events = [] ∨ ran.2.interp.exitCode.isSome = true) := by
  refine ⟨?_, ?_, fun world => amid_zero program fuel world, ?_, ?_, ?_, ?_⟩
  · intro id session found queue
    have accounted := queues_accounted environment sessions program passing fuel id session found
    refine ⟨accounted.distinct, ?_, fun number given => accounted.oneFate given,
      accounted.exists_isFirst, ?_⟩
    · intro number member
      obtain ⟨event, queued, rfl⟩ := List.mem_map.mp member
      exact accounted.below queued
    · intro event left noted
      exact accounted.started noted
  · have laws := Conduct.remembering_allowsHosts
    exact laws.keeps_run (laws.runsAmid passing fuel) program []
  · intro Key Host eval name arguments machine after
    exact ⟨fun answer => run_after_iff, fun fault ran => eq_of_run_after_error ran⟩
  · intro number small
    exact eventId?_name small
  · intro Key Host eval onlyDue rounds machine event running first due
    exact run_runEvents_of_next running first.next? due eval rounds
  · intro Key Host eval machine
    exact runEvents_drains eval eval.rounds machine

/-- A timer and an idle event that is queued later: the loop runs both, the idle one first. A second
timer is cancelled before it is run. -/
theorem events_accounted_of_three :
    let program : HostProgram :=
      .ask (.evaluate 0 "after 5 {append log timer}") fun _ =>
        .ask (.evaluate 0 "after idle {append log idle}") fun _ =>
          .ask (.evaluate 0 "after 9 {append log never}") fun late =>
            .ask (.evaluate 0 ("after cancel " ++ late)) fun _ =>
              .ask (.runLoop 0) fun _ =>
                .ask (.evaluate 0 "set log") fun value => .finish (some (late ++ " " ++ value))
    let ran := program.outcome 4 (opened (fun _ => none) [(.open, {})])
    let timer : Event := ⟨0, some 5, "append log timer"⟩
    let idle : Event := ⟨1, none, "append log idle"⟩
    ran.1 = .ok (.ok (some "after#2 idletimer")) ∧
      ∃ session, ran.2.sessions[0]? = some session ∧
        let queue := session.interp.queue
        queue.nextId = 3 ∧ queue.events = [] ∧
          (∀ number < 3, queue.OneFate number) ∧
          queue.starts 0 = 1 ∧ queue.starts 1 = 1 ∧ queue.cancellations 2 = 1 ∧
          .started idle [timer] ∈ queue.history ∧ .queued idle ∈ queue.history ∧
          idle.key < timer.key := by
  intro program ran timer idle
  have known := ListText.evaluator_eq_knowing
    [("after", ["5", "append log timer"]), ("after", ["idle", "append log idle"]),
      ("after", ["9", "append log never"]), ("after", ["cancel", "after#2"]),
      ("append", ["log", "timer"]), ("append", ["log", "idle"]), ("set", ["log"])]
    (by decide +kernel) Session.hostCommands 3
  have same : ran = (run [] program).outcome _ _ :=
    congrArg (fun eval => (run [] program).outcome eval (opened (fun _ => none) [(.open, {})])) known
  have finished : ran.1 = .ok (.ok (some "after#2 idletimer")) := by
    rw [same]
    decide +kernel
  let queue : EventQueue :=
    { events := []
      nextId := 3
      history := [.started timer [], .started idle [timer], .cancelled 2,
        .queued ⟨2, some 9, "append log never"⟩, .queued idle, .queued timer] }
  obtain ⟨session, found, isQueue⟩ :
      ∃ session, ran.2.sessions[0]? = some session ∧ session.interp.queue = queue := by
    apply Option.map_eq_some_iff.mp
    rw [same]
    decide +kernel
  have accounted := events_accounted (fun _ => none) [(.open, {})] program (fun _ => 0) 4
  have sameWorld : amid program (fun _ => 0) 4 (opened (fun _ => none) [(.open, {})]) = ran.2 :=
    accounted.2.2.1 _
  obtain ⟨-, -, fates, -, order⟩ := accounted.1 0 session (sameWorld ▸ found)
  rw [isQueue] at fates order
  refine ⟨finished, session, found, ?_⟩
  rw [isQueue]
  have started : .started idle [timer] ∈ queue.history := by simp [queue]
  obtain ⟨queued, first⟩ := order idle [timer] started
  exact ⟨rfl, rfl, fates, rfl, rfl, rfl, started, queued, first timer (by simp)⟩

end World

end ScriptBridge
