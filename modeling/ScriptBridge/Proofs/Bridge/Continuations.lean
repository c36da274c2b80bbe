import ScriptBridge.Proofs.Bridge.SpentNames

/-!
# Continuations

What a world may become goes on from any state that hosts and scripts reach, also in the midst of an
evaluation. What every program and every command keeps to is kept by all of it.
-/

namespace ScriptBridge

/-- What concerns the variables of a session, beside those of its procedure calls. -/
def OpenSession.globalState (session : OpenSession) :
    Settings × LinkTable × Std.TreeMap String String × Std.TreeMap String Link :=
  (session.state.settings, { session.state.links with history := [] },
    session.interp.store.globals, session.interp.store.links)

namespace World

/-- Nothing has happened to the variables of the host, and nothing to those of its sessions but that
procedure calls have begun and ended. -/
structure SameVariables (before after : World) : Prop where
  cells : after.cells = before.cells
  texts : after.texts = before.texts
  sessions : ∀ id : SessionId,
    after.sessions[id]?.map OpenSession.globalState =
      before.sessions[id]?.map OpenSession.globalState

/-- What a world may become while hosts and scripts are at work, also in the midst of their work. -/
inductive Continues (world : World) : World → Prop
  | refl : Continues world world
  /-- The host runs a program, which may be that of a callback. -/
  | ran {later : World} (continues : Continues world later) (program : HostProgram) (fuel : Nat) :
      Continues world (program.outcome fuel later).2
  /-- A command of a script changes its session. -/
  | commanded
      {later : World}
      {id : SessionId}
      {session : OpenSession}
      {after : SessionMachine}
      (continues : Continues world later)
      (found : later.sessions[id]? = some session)
      (change : Machine.Change freeSlot (later.machineOf id session) after) :
      Continues world (ofMachine after)
  /-- Calls begin and end, failures come and go, and whatever else happens beside variables. -/
  | beside
      {later other : World}
      (continues : Continues world later)
      (same : later.SameVariables other) :
      Continues world other

/-- All continuations are allowed where programs, commands and what happens beside variables are. -/
theorem Continues.allows
    {conduct : Conduct World}
    (laws : conduct.AllowsHosts)
    (beside : ∀ {before after : World},
      before.SameVariables after → conduct.allows true before after)
    {world later : World}
    (continues : world.Continues later) :
    conduct.allows false world later := by
  induction continues with
  | refl => exact conduct.stays false world
  | @ran later _ program fuel inductionHypothesis =>
      have further := conduct.trans inductionHypothesis (laws.allows_outcome program fuel later)
      rwa [Bool.false_and] at further
  | commanded _ found change inductionHypothesis =>
      have changed := (laws.sessions.within.scripts.changed change).2
      rw [ofMachine_machineOf found] at changed
      exact Conduct.before inductionHypothesis changed
  | beside _ same inductionHypothesis =>
      exact Conduct.before inductionHypothesis (beside same)

namespace SameVariables

variable {before after : World} {id : SessionId} {session : OpenSession}

theorem symm (same : before.SameVariables after) : after.SameVariables before where
  cells := same.cells.symm
  texts := same.texts.symm
  sessions id := (same.sessions id).symm

theorem found
    (same : before.SameVariables after)
    (found : before.sessions[id]? = some session) :
    ∃ later, after.sessions[id]? = some later ∧ later.globalState = session.globalState := by
  have seen := same.sessions id
  rw [found] at seen
  exact Option.map_eq_some_iff.mp seen

end SameVariables

end World

namespace OpenSession

variable {session later : OpenSession}

theorem LinksMirrored.of_globalState
    (fits : session.LinksMirrored)
    (same : later.globalState = session.globalState) :
    later.LinksMirrored := by
  obtain ⟨settings, same⟩ := Prod.mk.inj same
  obtain ⟨table, same⟩ := Prod.mk.inj same
  obtain ⟨-, links⟩ := Prod.mk.inj same
  have mirrored := fits.mirrored.noted []
  rw [← settings, ← table, ← links] at mirrored
  exact ⟨settings ▸ fits.valid, mirrored.noted later.state.links.history⟩

theorem NamesSpent.of_globalState (same : later.globalState = session.globalState) :
    session.NamesSpent later := by
  obtain ⟨settings, same⟩ := Prod.mk.inj same
  obtain ⟨table, -⟩ := Prod.mk.inj same
  have nextId := congrArg LinkTable.nextId table
  have names (target : HostVariable) := congrArg (LinkTable.name? · target) table
  exact .of_same settings nextId names

end OpenSession

namespace World

theorem Continues.linksMirrored
    {world later : World}
    (continues : world.Continues later)
    (every : world.Every OpenSession.LinksMirrored) :
    later.Every OpenSession.LinksMirrored := by
  refine continues.allows Conduct.linksMirrored_allowsHosts ?_ every
  intro before after same fits id session found
  obtain ⟨earlier, foundEarlier, state⟩ := same.symm.found found
  exact (fits id earlier foundEarlier).of_globalState state.symm

theorem Continues.namesSpent
    {world later : World}
    (continues : world.Continues later) :
    Conduct.spendingNames.allows false world later := by
  refine continues.allows Conduct.spendingNames_allowsHosts ?_
  intro before after same id session found
  obtain ⟨later, foundLater, state⟩ := same.found found
  exact ⟨later, foundLater, .of_globalState state⟩

end World

end ScriptBridge
