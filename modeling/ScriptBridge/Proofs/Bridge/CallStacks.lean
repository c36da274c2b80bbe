import ScriptBridge.Proofs.Bridge.OpenSessions

/-!
# Calls in progress around evaluations

However an evaluation ends, and whatever callbacks do in its midst, the same calls are in progress
afterwards as before, and the variables of all of them but the innermost are as they were. Meanwhile
no command runs deeper than the limit.
-/

namespace ScriptBridge

namespace Conduct

/-! ## One session -/

/-- Sessions stay open, with the same calls in progress. -/
def sameStacks : Conduct World :=
  eachInterp Interp.SameStack .refl .trans

/-- An invocation and a procedure call end at the depth and with the frames that they have started
with. -/
theorem sameStacks_allowsNesting : sameStacks.atWork.AllowsNesting where
  entered _ within :=
    eachInterp_around within fun stack => ⟨rfl, stack.count, stack.outer⟩
  called within :=
    eachInterp_around within fun stack =>
      .of_frames stack.outer stack.depth

theorem sameStacks_allowsHosts : sameStacks.AllowsHosts :=
  eachInterp_allowsHosts (fun untouched => untouched.stack)
    (fun sameFrames => .of_frames sameFrames rfl) sameStacks_allowsNesting

end Conduct

namespace World

/-- However the evaluation of a script ends in a session, and whatever callbacks do in its midst, it
leaves the depth and the number of frames as they were, and the frames of all procedure calls in
progress but the innermost. Meanwhile no command runs deeper than the limit: what commands would do
there makes no difference. -/
theorem evaluations_restore_stack
    {world : World}
    {id : SessionId}
    {session : OpenSession}
    (found : world.sessions[id]? = some session)
    (fuel : Nat)
    (text : String) :
    let ran := ((Session.evaluatorOf fuel).script text).run.run (world.machineOf id session)
    ran.2.interp.depth = session.interp.depth ∧
      ran.2.interp.store.frames.length = session.interp.store.frames.length ∧
      ran.2.interp.store.frames.tail = session.interp.store.frames.tail ∧
      ∀ run : SessionEvaluator → Command Nat → String → List String → SessionAction String,
        (∀ eval command name arguments (machine : SessionMachine),
          machine.interp.depth ≤ maxDepth →
            (run eval command name arguments).run.run machine =
              (command.run Session.hostCommands eval name arguments).run.run machine) →
          evaluatorVia (invokeRunning run) freeSlot fuel = Session.evaluatorOf fuel := by
  intro ran
  obtain ⟨sameRunning, kept⟩ :=
    (Conduct.sameStacks_allowsHosts.runs fuel).scripts.script text (world.machineOf id session)
  have inPlace : ran.2.host.running = id := sameRunning
  rw [ofMachine_machineOf found] at kept
  obtain ⟨later, foundLater, stack⟩ := kept id session found
  rw [Conduct.sessions_ofMachine, if_pos inPlace] at foundLater
  split at foundLater
  · cases foundLater
    refine ⟨stack.depth, stack.count, stack.outer, ?_⟩
    intro run agrees
    rw [invokeRunning_eq agrees]
    exact evaluatorVia_invoke Session.hostCommands fuel
  · cases foundLater

/-- A procedure that fails, called where two other calls are in progress. -/
theorem evaluations_restore_stack_of_failure :
    let outer : Frame := { declared := ["total"] }
    let store : VariableStore := { frames := [{}, outer] }
    let session : OpenSession :=
      { interp := { Interp.initial with store, depth := 4 }
        state := { settings := {}, access := .open } }
    let world : World := { sessions := #[session] }
    let ran := ((Session.evaluatorOf 9).script "proc p {} {error stop}; p").run.run
      (world.machineOf 0 session)
    world.sessions[0]? = some session ∧
      ran.2.interp.depth = 4 ∧ ran.2.interp.store.frames.length = 2 ∧
        ran.2.interp.store.frames.tail = [outer] := by
  intro outer store session world ran
  have found : world.sessions[0]? = some session := rfl
  obtain ⟨depth, count, tail, -⟩ :=
    evaluations_restore_stack found 9 "proc p {} {error stop}; p"
  exact ⟨found, depth, count, tail⟩

end World

end ScriptBridge
