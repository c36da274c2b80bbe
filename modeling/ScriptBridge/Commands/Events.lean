import ScriptBridge.Commands.Lists

/-!
# Events

Scripts are queued to run when the interpreter is idle or after a time. The clock moves only when
something waits: a pause, or a timer that is run before it is due.
-/

namespace ScriptBridge.Commands

variable {Key Host : Type}

open ScriptBridge.Action

/-! ## Running -/

/-- Runs the script of an event. Its errors concern nobody; ending the program is noted. -/
def runEvent (eval : Evaluator Key Host) (event : Event) : Action Key Host Unit := do
  modify fun machine => { machine with clock := max machine.clock (event.due.getD 0) }
  match ← attempt (eval.script event.script) with
  | .error (.exited code) => setExitCode code
  | .error .unfinished => throw .unfinished
  | _ => return ()

def dequeue (event : Event) : Action Key Host Unit :=
  modifyInterp fun interp => { interp with queue := interp.queue.start event }

/-- Runs events, with `onlyDue` those that are due, until none is left or the program is to end. -/
def runEvents (eval : Evaluator Key Host) (onlyDue : Bool) : (rounds : Nat) → Action Key Host Unit
  | 0 => throw .unfinished
  | rounds + 1 => do
      let machine ← get
      if machine.interp.exitCode.isSome then
        return ()
      else
        match machine.interp.queue.next? with
        | none => return ()
        | some event =>
            if onlyDue && !event.isDue machine.clock then
              return ()
            else
              dequeue event
              runEvent eval event
              runEvents eval onlyDue rounds

/-! ## Commands -/

def scheduleScript (due : Option Nat) (script : String) : Action Key Host String := do
  let (id, queue) := (← getInterp).queue.schedule due script
  modifyInterp fun interp => { interp with queue }
  return "after#" ++ toString id

def largestEventId : Nat := Nat.pow 2 64 - 1

def eventId? (name : String) : Option Nat :=
  match Index.dropStart? "after#".toList name.toList with
  | none => none
  | some rest =>
      let digits := match rest with
        | '+' :: digits => digits
        | digits => digits
      let id := Numeral.natOfDigits 10 digits
      if !digits.isEmpty && digits.all (Numeral.isDigitOf 10) && id ≤ largestEventId then some id
      else none

/-- Waits, or queues a script for later. A time below zero counts as zero. -/
def afterDelay (delay : String) (parts : List String) : Action Key Host String := do
  let milliseconds := (← intOf delay).toInt.toNat
  let due := (← get).clock + milliseconds
  match parts with
  | [] =>
      modify fun machine => { machine with clock := due }
      return ""
  | _ => scheduleScript (some due) (concatenation parts)

def after : List String → Action Key Host String
  | [] => wrongUsage "after option ?arg ...?"
  | "idle" :: part :: parts => scheduleScript none (concatenation (part :: parts))
  | ["cancel", name] => do
      match eventId? name with
      | some id => modifyInterp fun interp => { interp with queue := interp.queue.cancel id }
      | none => return ""
      return ""
  | "info" :: _ => do return ListText.format (← getInterp).queue.names
  | delay :: parts => afterDelay delay parts

def update (eval : Evaluator Key Host) : List String → Action Key Host String
  | [] | ["idletasks"] => do
      runEvents eval true eval.rounds
      return ""
  | _ => wrongUsage "update ?idletasks?"

end ScriptBridge.Commands
