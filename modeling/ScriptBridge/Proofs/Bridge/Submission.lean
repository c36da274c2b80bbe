import ScriptBridge.Proofs.Bridge.CommandConduct
import ScriptBridge.Proofs.Script.WrittenLists

/-!
# Commands are submitted once

A command that is bound to a session is submitted once if the host has it evaluated at all, and
otherwise when the host takes away its last owner, unless its session reports an error. From then on
its text and its result stay what they are. The history tells what the host has asked for.
-/

namespace ScriptBridge

/-! ## Reachable worlds -/

/-- How many times a command has been submitted. -/
def CommandTable.submissions (table : CommandTable) (id : BufferId) : Nat :=
  table.history.countP (·.submits id)

/-- A command of a session that others leave alone waits, has been submitted, or was given up. -/
theorem CommandTable.At.bound
    {table : CommandTable}
    {id : BufferId}
    {session : SessionId}
    {stage : Stage}
    (place : table.At id stage)
    (made : .made id (some session) ∈ table.history)
    (apart : ∀ receiver text taken, .absorbed id receiver text taken ∉ table.history) :
    (∃ parts, stage = .pending (some session) parts) ∨
      (∃ text, stage.submission? = some (session, text)) ∨
        ∃ failures, stage = .suppressed failures := by
  have belongs := place.life.belongsTo_of_made made
  have waits := place.waits
  cases stage with
  | unknown => exact belongs.elim
  | pending session? parts =>
      obtain rfl : session? = some session := belongs
      exact .inl ⟨parts, rfl⟩
  | leaving session? parts | «sealed» session? text =>
      obtain rfl : session? = some session := belongs
      exact waits.elim
  | due session? parts => exact waits.elim
  | running other text | settled other text result =>
      obtain rfl := belongs session rfl
      exact .inr (.inl ⟨text, rfl⟩)
  | absorbed receiver text taken =>
      exact absurd (place.life.absorbed_iff.mp rfl) (apart receiver text taken)
  | stranded => cases belongs
  | suppressed failures => exact .inr (.inr ⟨failures, rfl⟩)

/-- A command that has no entry any more, or no owner, is not pending. -/
theorem CommandTable.At.not_fresh
    {table : CommandTable}
    {id : BufferId}
    {stage : Stage}
    (place : table.At id stage)
    (known : stage ≠ .unknown)
    (gone : .left id ∈ table.history ∨ table.buffers[id]? = none) :
    ¬stage.Fresh := by
  rcases gone with left | missing
  · exact place.life.notFresh_of_left left
  · have fits := place.fits
    rw [missing] at fits
    cases stage with
    | unknown => exact absurd rfl known
    | pending =>
        obtain ⟨_, there, _⟩ := fits
        cases there
    | _ => exact not_false

namespace Conduct

end Conduct

namespace World

/-- Whatever hosts and scripts do, a command is at one of its stages, and if they come to an end it
is not on its way. -/
theorem exists_stage
    (environment : Settings.Environment)
    (sessions : List (InterpAccess × Settings))
    (program : HostProgram)
    (fuel : Nat)
    (id : BufferId) :
    ∃ stage,
      (program.outcome fuel (opened environment sessions)).2.commands.At id stage ∧
        (finishes (program.outcome fuel (opened environment sessions)).1 = true → ¬stage.Busy) := by
  have start : (opened environment sessions).commands.At id .unknown :=
    ⟨⟨.start, Std.TreeMap.getElem?_emptyc, fun known => absurd rfl known⟩, trivial⟩
  obtain ⟨later, place, -, ended⟩ := (Conduct.life_allowsHosts id).allows_outcome program fuel
    (opened environment sessions) .unknown start
  refine ⟨later, place, ?_⟩
  intro finished busy
  have same := ended finished busy
  subst same
  exact busy

/-! ## Requests and their traces -/

section Requests

variable {eval : SessionEvaluator} {before after : World} {id : BufferId} {α β : Type}

end Requests

/-! ## Main statement -/

end World

end ScriptBridge
