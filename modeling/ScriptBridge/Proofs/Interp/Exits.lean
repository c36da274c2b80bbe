import ScriptBridge.Proofs.Interp.Erasure
import ScriptBridge.Proofs.Script.WrittenLists

/-!
# The end of the program

An evaluation is recorded: which commands are called, and how each call ends within which others.
Once `exit` has been executed, the calls in progress end with it one after another, and nothing else
is called, up to the end of the evaluation or to an `update` that runs the script. The `update` does
not pass on that the program is to end.
-/

namespace ScriptBridge

variable {Key Host : Type}

/-! ## Records -/

/-- A call, with the command that the name stands for. -/
structure Invocation (Key : Type) where
  command : Option (Command Key)
  name : String
  arguments : List String

namespace Invocation

def isExit : Invocation Key → Bool
  | ⟨some (.builtin .exit), _, _⟩ => true
  | _ => false

def isUpdate : Invocation Key → Bool
  | ⟨some (.builtin .update), _, _⟩ => true
  | _ => false

/-- How a call ends if `exit` has been executed in its midst: an `update` does not pass this on. -/
def PassesOn
    (invocation : Invocation Key)
    (outcome : Except Interruption String)
    (code : Int32) : Prop :=
  if invocation.isUpdate then outcome = .ok "" ∨ outcome = .error .unfinished
  else outcome = .error (.exited code)

end Invocation

inductive Incident (Key : Type) where
  | began (invocation : Invocation Key)
  /-- A call has ended; those that it was made within are still in progress. -/
  | ended
      (invocation : Invocation Key)
      (within : List (Invocation Key))
      (outcome : Except Interruption String)

/-- A call has ended because the program is to end. -/
def Incident.Exits (incident : Incident Key) (code : Int32) : Prop :=
  ∃ invocation within, incident = .ended invocation within (.error (.exited code))

/-- A host with the calls in progress and all that has happened so far. -/
structure Recorded (Key Host : Type) where
  host : Host
  running : List (Invocation Key) := []
  history : List (Incident Key) := []

namespace Recorded

def enter (recorded : Recorded Key Host) (invocation : Invocation Key) : Recorded Key Host :=
  { recorded with
    running := invocation :: recorded.running
    history := recorded.history ++ [.began invocation] }

def leave
    (recorded : Recorded Key Host)
    (invocation : Invocation Key)
    (within : List (Invocation Key))
    (outcome : Except Interruption String) : Recorded Key Host :=
  { recorded with
    running := within
    history := recorded.history ++ [.ended invocation within outcome] }

end Recorded

namespace Machine

def withHost {Other : Type} (machine : Machine Key Host) (host : Other) : Machine Key Other where
  interp := machine.interp
  cells := machine.cells
  clock := machine.clock
  host := host

/-- The machine where nothing has been recorded so far. -/
def watched (machine : Machine Key Host) : Machine Key (Recorded Key Host) :=
  machine.withHost { host := machine.host }

def invocation (machine : Machine Key Host) (name : String) (arguments : List String) :
    Invocation Key :=
  ⟨machine.interp.command? name, name, arguments⟩

end Machine

open Machine

/-- What calls of the commands of a host do that does not evaluate scripts in the meantime. -/
abbrev HostCalls (Key Host : Type) :=
  Key → List String → Machine Key Host → Except String String × Machine Key Host

namespace HostCalls

variable (calls : HostCalls Key Host) (release : Release Key Host)

def commands : HostCommands Key Host where
  call _ key words := ExceptT.mk fun machine =>
    let (answer, after) := calls key words machine
    (answer.mapError .error, after)
  release

def recordedRelease : Release Key (Recorded Key Host) :=
  fun key recorded => { recorded with host := release key recorded.host }

/-- The commands of the host where calls are recorded. -/
def recordedCommands : HostCommands Key (Recorded Key Host) where
  call _ key words := ExceptT.mk fun machine =>
    let (answer, after) := calls key words (machine.withHost machine.host.host)
    (answer.mapError .error, after.withHost { machine.host with host := after.host })
  release := recordedRelease release

/-- Invokes a command and records the call. -/
def invokeRecorded
    (eval : Evaluator Key (Recorded Key Host))
    (name : String)
    (arguments : List String) : Action Key (Recorded Key Host) String := do
  let start ← get
  let invocation := start.invocation name arguments
  modify fun machine => machine.withHost (machine.host.enter invocation)
  let outcome ← Action.attempt (invoke (calls.recordedCommands release) eval name arguments)
  modify fun machine =>
    machine.withHost (machine.host.leave invocation start.host.running outcome)
  Action.ending outcome

/-- The evaluator that records all calls. -/
def recorder (fuel : Nat) : Evaluator Key (Recorded Key Host) :=
  evaluatorVia (calls.invokeRecorded release) (recordedRelease release) fuel

/-! ## Recording makes no difference -/

theorem erases_recordedCommands :
    HostCommands.Erases Recorded.host (calls.recordedCommands release)
      (calls.commands release) where
  releases _ _ := rfl
  call _ _ _ _ := rfl

theorem erases_recorder (fuel : Nat) :
    Evaluator.Erases Recorded.host (calls.recorder release fuel)
      (evaluator (calls.commands release) fuel) := by
  rw [← evaluatorVia_invoke]
  have hosts := calls.erases_recordedCommands release
  apply erases_evaluatorVia hosts.releases
  intro rich plain scripts name arguments machine
  exact hosts.invoke scripts name arguments
    (machine.withHost (machine.host.enter (machine.invocation name arguments)))

end HostCalls

/-! ## Unwinding -/

namespace Incident

/-- Only the calls in progress end from here on, because the program is to end. -/
def Unwound (code : Int32) (later : List (Incident Key)) : Prop :=
  ∀ incident ∈ later, incident.Exits code

/-- The calls in progress end, because the program is to end, up to an `update`, which does not pass
this on. -/
def UnwoundToUpdate (code : Int32) (later : List (Incident Key)) : Prop :=
  ∃ ends update within outcome rest,
    later = ends ++ .ended update within outcome :: rest ∧ Unwound code ends ∧
      update.isUpdate = true ∧ (outcome = .ok "" ∨ outcome = .error .unfinished)

/-- What follows wherever `exit` has been executed in a part of a history: the calls end that were
made in the meantime within those around, up to an `update`, if one is among them, and else through
all of them. -/
def Unwinds
    (around : List (Invocation Key))
    (through : Int32 → Prop)
    (history : List (Incident Key)) : Prop :=
  ∀ ⦃exit within code later⦄, exit.isExit = true →
    .ended exit within (.error (.exited code)) :: later <:+ history →
      ∃ inner, within = inner ++ around ∧
        (inner.any Invocation.isUpdate = true ∧ UnwoundToUpdate code later ∨
          inner.any Invocation.isUpdate = false ∧ through code ∧ Unwound code later)

section

variable
  {around : List (Invocation Key)}
  {through : Int32 → Prop}
  {history further : List (Incident Key)}
  {code : Int32}

theorem cases_suffix_append
    {incident : Incident Key}
    {later : List (Incident Key)}
    (suffix : incident :: later <:+ history ++ further) :
    (∃ between, incident :: between <:+ history ∧ later = between ++ further) ∨
      incident :: later <:+ further := by
  obtain ⟨earlier, same⟩ := suffix
  obtain ⟨between, inHistory, rest⟩ | ⟨between, -, inFurther⟩ :=
    List.append_eq_append_iff.mp same
  · cases between with
    | nil => exact .inr ⟨[], rest⟩
    | cons other between =>
        rw [List.cons_append] at rest
        obtain ⟨rfl, rfl⟩ := List.cons.inj rest
        exact .inl ⟨between, ⟨earlier, inHistory.symm⟩, rfl⟩
  · exact .inr ⟨between, inFurther.symm⟩

theorem Unwound.append
    (first : Unwound code history)
    (second : Unwound code further) :
    Unwound code (history ++ further) := by
  intro incident member
  cases List.mem_append.mp member with
  | inl inHistory => exact first incident inHistory
  | inr inFurther => exact second incident inFurther

theorem UnwoundToUpdate.append (unwound : UnwoundToUpdate code history) :
    UnwoundToUpdate code (history ++ further) := by
  obtain ⟨ends, update, within, outcome, rest, rfl, unwound, isUpdate, answer⟩ := unwound
  refine ⟨ends, update, within, outcome, rest ++ further, ?_, unwound, isUpdate, answer⟩
  rw [List.append_assoc, List.cons_append]

theorem unwinds_nil : Unwinds around through [] := by
  intro exit within code later _ suffix
  cases List.suffix_nil.mp suffix

/-- What happens next matters only where `exit` gets through. -/
theorem Unwinds.append
    {last : Int32 → Prop}
    (first : Unwinds around through history)
    (second : Unwinds around last further)
    (passes : ∀ code, through code → further = [] ∧ last code) :
    Unwinds around last (history ++ further) := by
  intro exit within code later isExit suffix
  obtain ⟨between, inHistory, rfl⟩ | inFurther := cases_suffix_append suffix
  · obtain ⟨inner, rfl, ⟨updating, unwound⟩ | ⟨noUpdate, gotThrough, unwound⟩⟩ :=
      first isExit inHistory
    · exact ⟨inner, rfl, .inl ⟨updating, unwound.append⟩⟩
    · obtain ⟨rfl, ends⟩ := passes code gotThrough
      rw [List.append_nil]
      exact ⟨inner, rfl, .inr ⟨noUpdate, ends, unwound⟩⟩
  · exact second isExit inFurther

/-- What happens in the midst of a call unwinds through it, or up to it if it is an `update`. -/
theorem unwinds_call
    {invocation : Invocation Key}
    {outcome : Except Interruption String}
    (within : Unwinds (invocation :: around) (invocation.PassesOn outcome) history) :
    Unwinds around (fun code => outcome = .error (.exited code))
      (.began invocation :: history ++ [.ended invocation around outcome]) := by
  intro exit around' code later isExit suffix
  obtain whole | suffix := List.suffix_cons_iff.mp suffix
  · cases whole
  obtain ⟨between, inHistory, rfl⟩ | last := cases_suffix_append suffix
  · obtain ⟨inner, rfl, further⟩ := within isExit inHistory
    refine ⟨inner ++ [invocation], List.append_cons _ _ _, ?_⟩
    rw [List.any_append]
    obtain ⟨updating, unwound⟩ | ⟨noUpdate, passes, unwound⟩ := further
    · rw [updating]
      exact .inl ⟨rfl, unwound.append⟩
    · rw [noUpdate]
      unfold Invocation.PassesOn at passes
      cases isUpdate : invocation.isUpdate with
      | true =>
          rw [if_pos isUpdate] at passes
          exact .inl ⟨by simp [isUpdate],
            between, invocation, around, outcome, [], rfl, unwound, isUpdate, passes⟩
      | false =>
          rw [if_neg (by simp [isUpdate])] at passes
          refine .inr ⟨by simp [isUpdate], passes, unwound.append ?_⟩
          intro incident member
          rw [List.mem_singleton] at member
          exact ⟨invocation, around, by rw [member, passes]⟩
  · obtain same | nothing := List.suffix_cons_iff.mp last
    · cases same
      exact ⟨[], rfl, .inr ⟨rfl, rfl, nofun⟩⟩
    · cases List.suffix_nil.mp nothing

end

end Incident

namespace Recorded

/-- The calls in progress are as they were, and what has happened in the meantime unwinds. -/
def Unwinds (before : Recorded Key Host) (through : Int32 → Prop) (after : Recorded Key Host) :
    Prop :=
  ∃ added, after.running = before.running ∧ after.history = before.history ++ added ∧
    Incident.Unwinds before.running through added

variable {before middle after : Recorded Key Host} {through last : Int32 → Prop}

theorem unwinds_of_same
    (running : after.running = before.running)
    (history : after.history = before.history) :
    before.Unwinds through after :=
  ⟨[], running, history.trans (List.append_nil _).symm, Incident.unwinds_nil⟩

theorem Unwinds.trans
    (first : before.Unwinds through middle)
    (second : middle.Unwinds last after)
    (passes : ∀ code, through code → after.history = middle.history ∧ last code) :
    before.Unwinds last after := by
  obtain ⟨added, sameRunning, history, unwinds⟩ := first
  obtain ⟨further, sameRunningToo, historyToo, unwindsToo⟩ := second
  refine ⟨added ++ further, sameRunningToo.trans sameRunning, ?_, ?_⟩
  · rw [historyToo, history, List.append_assoc]
  · rw [sameRunning] at unwindsToo
    apply unwinds.append unwindsToo
    intro code gotThrough
    obtain ⟨same, gotThroughToo⟩ := passes code gotThrough
    rw [historyToo] at same
    exact ⟨List.append_right_eq_self.mp same, gotThroughToo⟩

theorem Unwinds.weaken
    (unwinds : before.Unwinds through after)
    (weakens : ∀ code, through code → last code) :
    before.Unwinds last after :=
  unwinds.trans (unwinds_of_same rfl rfl) fun code gotThrough => ⟨rfl, weakens code gotThrough⟩

end Recorded

/-! ## Actions -/

namespace Action

variable {α : Type} {release : Release Key Host}

/-- What happens in the midst of an action unwinds, and through the action only if it breaks off
because the program is to end. -/
def Unwinds (action : Action Key (Recorded Key Host) α) : Prop :=
  ∀ machine : Machine Key (Recorded Key Host),
    machine.host.Unwinds (fun code => (action.run.run machine).1 = .error (.exited code))
      (action.run.run machine).2.host

theorem unwinds_of_host_eq
    {action : Action Key (Recorded Key Host) α}
    (same : ∀ machine, (action.run.run machine).2.host = machine.host) :
    Unwinds action :=
  fun machine =>
    Recorded.unwinds_of_same (congrArg Recorded.running (same machine))
      (congrArg Recorded.history (same machine))

theorem unwinds_bind
    {β : Type}
    {action : Action Key (Recorded Key Host) α}
    {next : α → Action Key (Recorded Key Host) β}
    (first : Unwinds action)
    (second : ∀ value, Unwinds (next value)) :
    Unwinds (action >>= next) := by
  intro machine
  have firstHere := first machine
  rw [Conduct.run_bind]
  generalize action.run.run machine = ran at firstHere ⊢
  obtain ⟨outcome, middle⟩ := ran
  cases outcome with
  | ok value => exact firstHere.trans (second value middle) fun _ => nofun
  | error fault =>
      apply firstHere.weaken
      rintro code ⟨⟩
      rfl

/-- What looks at how an action has ended goes on behind it, unless the program is to end. -/
theorem unwinds_attempt_bind
    {β : Type}
    {action : Action Key (Recorded Key Host) α}
    {next : Except Interruption α → Action Key (Recorded Key Host) β}
    (tried : Unwinds action)
    (passed : ∀ fault, fault.isFinal = true → next (.error fault) = throw fault)
    (handled : ∀ outcome, (∀ fault, outcome = .error fault → fault.isFinal = false) →
      Unwinds (next outcome)) :
    Unwinds (attempt action >>= next) := by
  intro machine
  have ran : (attempt action).run.run machine =
      (.ok (action.run.run machine).1, (action.run.run machine).2) := rfl
  have triedHere := tried machine
  rw [Conduct.run_bind, ran]
  generalize action.run.run machine = ran at triedHere ⊢
  obtain ⟨outcome, middle⟩ := ran
  by_cases final : ∃ fault, outcome = .error fault ∧ fault.isFinal = true
  · obtain ⟨fault, rfl, isFinal⟩ := final
    dsimp only
    rw [passed fault isFinal]
    apply triedHere.weaken
    rintro code ⟨⟩
    rfl
  · have notFinal (fault : Interruption) (same : outcome = .error fault) :
        fault.isFinal = false :=
      Bool.eq_false_iff.mpr fun isFinal => final ⟨fault, same, isFinal⟩
    apply triedHere.trans (handled outcome notFinal middle)
    intro code gotThrough
    cases notFinal _ gotThrough

theorem unwinds_composed
    {Plain : Type}
    {view : Recorded Key Host → Plain}
    {parts : ⦃α : Type⦄ → Action Key (Recorded Key Host) α → Action Key Plain α → Prop}
    {action : Action Key (Recorded Key Host) α}
    {plain : Action Key Plain α}
    (unwinds : ∀ ⦃β : Type⦄ {action : Action Key (Recorded Key Host) β} {plain : Action Key Plain β},
      parts action plain → Unwinds action)
    (composed : Composed view (HostCalls.recordedRelease release) parts action plain) :
    Unwinds action := by
  induction composed with
  | part part => exact unwinds part
  | direct direct =>
      intro machine
      have changes := direct.changes machine
      exact Recorded.unwinds_of_same (changes.host_eq Recorded.running fun _ _ => rfl)
        (changes.host_eq Recorded.history fun _ _ => rfl)
  | throw fault => exact unwinds_of_host_eq fun _ => rfl
  | bind _ _ first second => exact unwinds_bind first second
  | look _ next => exact fun machine => next machine machine
  | attempt _ passed _ tried handled =>
      exact unwinds_attempt_bind tried (fun fault isFinal => (passed fault isFinal).1) handled

end Action

open ScriptBridge.Action

/-! ## Queued scripts -/

/-- What happens in the midst of the scripts of an evaluator unwinds. -/
structure Evaluator.Unwinds (eval : Evaluator Key (Recorded Key Host)) : Prop where
  script : ∀ text, Action.Unwinds (eval.script text)
  substitute : ∀ text, Action.Unwinds (eval.substitute text)

/-- The machine when an event is run, perhaps after waiting for it. -/
def Machine.reaching (machine : Machine Key Host) (event : Event) : Machine Key Host :=
  { machine with clock := max machine.clock (event.due.getD 0) }

theorem run_runEvent
    (eval : Evaluator Key Host)
    (event : Event)
    (machine : Machine Key Host) :
    (Commands.runEvent eval event).run.run machine =
      match (eval.script event.script).run.run (machine.reaching event) with
      | (.error (.exited code), after) => (.ok (), after.ended code)
      | (.error .unfinished, after) => (.error .unfinished, after)
      | (_, after) => (.ok (), after) := by
  have waited : (modify (·.reaching event) : Action Key Host PUnit).run.run machine =
      (.ok (), machine.reaching event) := rfl
  have attempted : (attempt (eval.script event.script)).run.run (machine.reaching event) =
      (.ok ((eval.script event.script).run.run (machine.reaching event)).1,
        ((eval.script event.script).run.run (machine.reaching event)).2) := rfl
  unfold Commands.runEvent
  change ((modify (·.reaching event) : Action Key Host PUnit) >>= _).run.run machine = _
  rw [Conduct.run_bind, waited]
  dsimp only
  rw [Conduct.run_bind, attempted]
  rcases (eval.script event.script).run.run (machine.reaching event) with ⟨outcome, after⟩
  cases outcome with
  | ok value => rfl
  | error fault => cases fault <;> rfl

/-- A round runs an event, or there is nothing more to run. -/
theorem run_runEvents_succ
    (eval : Evaluator Key Host)
    (onlyDue : Bool)
    (rounds : Nat)
    (machine : Machine Key Host) :
    (Commands.runEvents eval onlyDue (rounds + 1)).run.run machine = (.ok (), machine) ∨
      ∃ event : Event,
        (Commands.runEvents eval onlyDue (rounds + 1)).run.run machine =
          (do
            Commands.runEvent eval event
            Commands.runEvents eval onlyDue rounds : Action Key Host Unit).run.run
              (machine.withQueue (machine.interp.queue.start event)) := by
  rw [Commands.runEvents, run_get_bind]
  split
  · exact .inl rfl
  · split
    · exact .inl rfl
    · rename_i event _
      split
      · exact .inl rfl
      · exact .inr ⟨event, rfl⟩

/-- Once the program is to end, no event is run any more. -/
theorem run_runEvents_of_ended
    {machine : Machine Key Host}
    (ended : machine.interp.exitCode.isSome = true)
    (eval : Evaluator Key Host)
    (onlyDue : Bool)
    (rounds : Nat) :
    ∃ outcome, (Commands.runEvents eval onlyDue rounds).run.run machine = (outcome, machine) ∧
      (outcome = .ok () ∨ outcome = .error .unfinished) := by
  cases rounds with
  | zero => exact ⟨_, rfl, .inr rfl⟩
  | succ rounds =>
      refine ⟨.ok (), ?_, .inl rfl⟩
      unfold Commands.runEvents
      rw [run_get_bind, if_pos ended]
      rfl

section Commands

variable
  {release : Release Key Host}
  {eval : Evaluator Key (Recorded Key Host)}
  (scripts : eval.Unwinds)

include scripts

/-- Queued scripts stop at `exit`, but what runs them does not. -/
theorem unwinds_runEvents
    (onlyDue : Bool)
    (rounds : Nat)
    (machine : Machine Key (Recorded Key Host)) :
    let ran := (Commands.runEvents eval onlyDue rounds).run.run machine
    machine.host.Unwinds (fun _ => ran.1 = .ok () ∨ ran.1 = .error .unfinished) ran.2.host := by
  induction rounds generalizing machine with
  | zero => exact Recorded.unwinds_of_same rfl rfl
  | succ rounds inductionHypothesis =>
      obtain nothing | ⟨event, round⟩ := run_runEvents_succ eval onlyDue rounds machine
      · rw [nothing]
        exact Recorded.unwinds_of_same rfl rfl
      · rw [round, Conduct.run_bind, run_runEvent]
        have script : machine.host.Unwinds _ _ := scripts.script event.script
          ((machine.withQueue (machine.interp.queue.start event)).reaching event)
        generalize (eval.script event.script).run.run _ = scriptRan at script ⊢
        obtain ⟨outcome, middle⟩ := scriptRan
        have goesOn (notExited : ∀ code, outcome ≠ .error (.exited code)) :=
          script.trans (inductionHypothesis middle)
            fun code exited => absurd exited (notExited code)
        cases outcome with
        | ok value => exact goesOn nofun
        | error fault =>
            cases fault with
            | exited code =>
                have ended : (middle.ended code).interp.exitCode.isSome = true := rfl
                obtain ⟨last, stops, ending⟩ :=
                  run_runEvents_of_ended ended eval onlyDue rounds
                dsimp only
                rw [stops]
                exact script.weaken fun _ _ => ending
            | unfinished => exact script.weaken fun _ => nofun
            | error | returned | broke | continued => exact goesOn nofun

theorem unwinds_update
    (arguments : List String)
    (machine : Machine Key (Recorded Key Host)) :
    let ran := (Commands.update eval arguments).run.run machine
    machine.host.Unwinds (fun _ => ran.1 = .ok "" ∨ ran.1 = .error .unfinished) ran.2.host := by
  have updated :
      let ran := (do Commands.runEvents eval true eval.rounds; return "" :
        Action Key (Recorded Key Host) String).run.run machine
      machine.host.Unwinds (fun _ => ran.1 = .ok "" ∨ ran.1 = .error .unfinished) ran.2.host := by
    have events : machine.host.Unwinds _ _ := unwinds_runEvents scripts true eval.rounds machine
    rw [Conduct.run_bind]
    generalize (Commands.runEvents eval true eval.rounds).run.run machine = ran at events ⊢
    obtain ⟨outcome, after⟩ := ran
    cases outcome with
    | ok value => exact events.weaken fun _ _ => .inl rfl
    | error fault =>
        apply events.weaken
        rintro _ (finished | unfinished)
        · cases finished
        · obtain rfl := Except.error.inj unfinished
          exact .inr rfl
  unfold Commands.update
  split
  · exact updated
  · exact updated
  · exact Recorded.unwinds_of_same rfl rfl

/-! ## Calls -/

omit scripts in
theorem unwinds_exit (arguments : List String) :
    Action.Unwinds (Commands.exit arguments : Action Key (Recorded Key Host) String) := by
  unfold Commands.exit
  split
  · exact unwinds_of_host_eq fun _ => rfl
  · apply unwinds_bind
    · unfold Action.intOf
      split <;> exact unwinds_of_host_eq fun _ => rfl
    · intro code
      exact unwinds_of_host_eq fun _ => rfl

theorem unwinds_call (procedure : Procedure) (name : String) (arguments : List String) :
    Action.Unwinds (procedure.call eval name arguments) := by
  intro machine
  cases fits : procedure.frame? arguments with
  | none =>
      unfold Procedure.call
      rw [fits]
      exact Recorded.unwinds_of_same rfl rfl
  | some frame =>
      rw [run_call fits]
      have script : machine.host.Unwinds _ _ :=
        scripts.script procedure.body (machine.pushed frame)
      apply script.weaken
      intro code exited
      dsimp only
      rw [exited]
      rfl

theorem unwinds_composes
    {action : Action Key (Recorded Key Host) String}
    (releases : eval.release = HostCalls.recordedRelease release)
    (composed : Evaluator.Composes id eval eval action action) :
    Action.Unwinds action := by
  unfold Evaluator.Composes at composed
  rw [releases] at composed
  apply unwinds_composed _ composed
  intro β action plain part
  cases part with
  | script text => exact scripts.script text
  | substitute text => exact scripts.substitute text

variable (calls : HostCalls Key Host)

/-- What happens in the midst of a call unwinds as the call tells it to. -/
theorem unwinds_run
    (releases : eval.release = HostCalls.recordedRelease release)
    (command : Command Key)
    (name : String)
    (arguments : List String)
    (machine : Machine Key (Recorded Key Host)) :
    let ran := (command.run (calls.recordedCommands release) eval name arguments).run.run machine
    machine.host.Unwinds (Invocation.PassesOn ⟨some command, name, arguments⟩ ran.1)
      ran.2.host := by
  cases command with
  | builtin builtin =>
      by_cases update : builtin = .update
      · subst update
        exact unwinds_update scripts arguments machine
      · have notUpdate :
            (⟨some (.builtin builtin), name, arguments⟩ : Invocation Key).isUpdate = false := by
          unfold Invocation.isUpdate
          split
          · rename_i same
            cases same
            exact absurd rfl update
          · rfl
        unfold Invocation.PassesOn
        rw [notUpdate]
        by_cases exit : builtin = .exit
        · subst exit
          exact unwinds_exit arguments machine
        · exact unwinds_composes scripts releases
            (composed_builtin eval.fits_self update exit name arguments) machine
  | procedure procedure => exact unwinds_call scripts procedure name arguments machine
  | host key => exact Recorded.unwinds_of_same rfl rfl
  | widget =>
      exact unwinds_composes scripts releases (composed_widgetCommand name arguments) machine

theorem unwinds_invokeRecorded
    (releases : eval.release = HostCalls.recordedRelease release)
    (name : String)
    (arguments : List String) :
    Action.Unwinds (calls.invokeRecorded release eval name arguments) := by
  intro machine
  let invocation := machine.invocation name arguments
  let entered := machine.withHost (machine.host.enter invocation)
  let host := calls.recordedCommands release
  have within :
      let ran := (invoke host eval name arguments).run.run entered
      entered.host.Unwinds (invocation.PassesOn ran.1) ran.2.host := by
    cases known : entered.interp.command? name with
    | none =>
        rw [run_invoke_of_unknown known]
        exact Recorded.unwinds_of_same rfl rfl
    | some command =>
        by_cases shallow : entered.interp.depth < maxDepth
        · rw [run_invoke known shallow]
          have same : invocation = ⟨some command, name, arguments⟩ :=
            congrArg (Invocation.mk · name arguments) known
          rw [same]
          exact unwinds_run scripts calls releases command name arguments
            (entered.atDepth (entered.interp.depth + 1))
        · rw [run_invoke_of_deep known (Nat.not_lt.mp shallow)]
          exact Recorded.unwinds_of_same rfl rfl
  have ran : (calls.invokeRecorded release eval name arguments).run.run machine =
      let ran := (invoke host eval name arguments).run.run entered
      (ran.1, ran.2.withHost (ran.2.host.leave invocation machine.host.running ran.1)) := rfl
  rw [ran]
  generalize (invoke host eval name arguments).run.run entered = ran at within ⊢
  obtain ⟨outcome, after⟩ := ran
  obtain ⟨added, -, history, unwinds⟩ := within
  refine ⟨_, rfl, ?_, Incident.unwinds_call unwinds⟩
  show after.host.history ++ _ = _
  rw [history]
  simp [entered, Recorded.enter, Machine.withHost]

end Commands

theorem unwinds_recorder (calls : HostCalls Key Host) (release : Release Key Host) (fuel : Nat) :
    (calls.recorder release fuel).Unwinds := by
  induction fuel with
  | zero =>
      exact ⟨fun _ => unwinds_of_host_eq fun _ => rfl, fun _ => unwinds_of_host_eq fun _ => rfl⟩
  | succ fuel inductionHypothesis =>
      let made := calls.invokeRecorded release (calls.recorder release fuel)
      have unwinds : ∀ ⦃α : Type⦄ {action plain : Action Key (Recorded Key Host) α},
          Calls made made action plain → Action.Unwinds action := by
        rintro _ _ _ ⟨name, arguments⟩
        exact unwinds_invokeRecorded inductionHypothesis calls (evaluatorVia_release fuel) name
          arguments
      constructor
      · intro text
        have composed : Composed id (HostCalls.recordedRelease release) (Calls made made) _ _ :=
          composed_runScript "" (Script.ofText text)
        exact unwinds_composed unwinds composed
      · intro text
        have composed : Composed id (HostCalls.recordedRelease release) (Calls made made) _ _ :=
          composed_substituteTemplate (Template.ofText text)
        exact unwinds_composed unwinds composed

/-! ## Submission -/

section Submission

variable {eval : Evaluator Key Host} {script : String} {machine : Machine Key Host}

theorem run_submit_of_exited
    {after : Machine Key Host}
    {code : Int32}
    (exited : (eval.script script).run.run machine = (.error (.exited code), after)) :
    (submit eval script).run.run machine = (.ok (.ok ()), (after.ended code).withResult "") := by
  have attempted : (attempt (eval.script script)).run.run machine =
      (.ok ((eval.script script).run.run machine).1,
        ((eval.script script).run.run machine).2) := rfl
  unfold submit
  rw [Conduct.run_bind, attempted, exited]
  rfl

theorem host_submit :
    ((submit eval script).run.run machine).2.host =
      ((eval.script script).run.run machine).2.host := by
  have attempted : (attempt (eval.script script)).run.run machine =
      (.ok ((eval.script script).run.run machine).1,
        ((eval.script script).run.run machine).2) := rfl
  unfold submit
  rw [Conduct.run_bind, attempted]
  rcases (eval.script script).run.run machine with ⟨outcome, after⟩
  cases outcome with
  | ok value => rfl
  | error fault => cases fault <;> rfl

end Submission

/-- Once `exit` has been executed in an evaluation, the calls in progress end one after another and
nothing else is called any more, and the evaluation ends without an error and with the code of the
`exit`. But if the script is run by an `update`, it is only up to that `update` that calls end. -/
theorem exit_unwinds
    (calls : HostCalls Key Host)
    (release : Release Key Host)
    (fuel : Nat)
    (script : String)
    (machine : Machine Key Host) :
    let recorded := (submit (calls.recorder release fuel) script).run.run machine.watched
    (submit (evaluator (calls.commands release) fuel) script).run.run machine =
        (recorded.1, recorded.2.viewed Recorded.host) ∧
      ∀ earlier exit within code later,
        recorded.2.host.history =
            earlier ++ .ended exit within (.error (.exited code)) :: later →
          exit.isExit = true →
            (within.any Invocation.isUpdate = false →
              Incident.Unwound code later ∧ recorded.1 = .ok (.ok ()) ∧
                recorded.2.interp.exitCode = some code) ∧
            (within.any Invocation.isUpdate = true → Incident.UnwoundToUpdate code later) := by
  refine ⟨erases_submit (calls.erases_recorder release fuel) script machine.watched, ?_⟩
  intro earlier exit within code later history isExit
  obtain ⟨added, -, whole, unwinds⟩ :=
    (unwinds_recorder calls release fuel).script script machine.watched
  rw [host_submit] at history
  have nothingBefore : machine.watched.host.history = [] := rfl
  rw [whole, nothingBefore, List.nil_append] at history
  obtain ⟨inner, rfl, ⟨updating, unwound⟩ | ⟨noUpdate, exited, unwound⟩⟩ :=
    unwinds isExit ⟨earlier, history.symm⟩
  · have noneAround : machine.watched.host.running = [] := rfl
    rw [noneAround, List.append_nil, updating]
    exact ⟨nofun, fun _ => unwound⟩
  · have noneAround : machine.watched.host.running = [] := rfl
    rw [noneAround, List.append_nil, noUpdate]
    refine ⟨fun _ => ?_, nofun⟩
    rw [run_submit_of_exited (Prod.ext exited rfl)]
    exact ⟨unwound, rfl, rfl⟩

/-! ## A run -/

/-- A script of written commands calls them one after the other. -/
theorem HostCalls.script_recorder
    (calls : HostCalls Key Host)
    (release : Release Key Host)
    (fuel : Nat)
    (commands : List WrittenCommand) :
    (calls.recorder release (fuel + 1)).script (WrittenCommand.script commands) =
      commands.foldlM
        (fun _ command =>
          calls.invokeRecorded release (calls.recorder release fuel) command.name
            command.arguments)
        "" :=
  WrittenCommand.runScript_script commands ""

/-- Whether `exit` has been executed in a script that an `update` runs. -/
def Incident.isQueuedExit : Incident Key → Bool
  | .ended exit within (.error (.exited _)) => exit.isExit && within.any Invocation.isUpdate
  | _ => false

open ListText in
/-- Behind an `update` that has run `exit`, a script goes on. -/
theorem exit_unwinds_to_update :
    let calls : HostCalls Nat Unit := fun _ _ machine => (.ok "", machine)
    let release : Release Nat Unit := fun _ host => host
    let queue : EventQueue := { events := [⟨0, none, "exit"⟩], nextId := 1 }
    let start : Machine Nat Unit := ⟨{ Interp.initial with queue }, {}, 0, ()⟩
    let recorded := (submit (calls.recorder release 4) "update; puts late").run.run start.watched
    recorded.2.interp.output = #["late"] ∧
      ∃ earlier exit within code later,
        recorded.2.host.history = earlier ++ .ended exit within (.error (.exited code)) :: later ∧
          exit.isExit = true ∧ within.any Invocation.isUpdate = true ∧
            Incident.UnwoundToUpdate code later := by
  intro calls release queue start recorded
  let commands := [listCommand "update" [] (by decide), listCommand "puts" ["late"] (by decide)]
  let queued := [listCommand "exit" [] (by decide)]
  have text : "update; puts late" = WrittenCommand.script commands := by decide +kernel
  have queuedText : "exit" = WrittenCommand.script queued := by decide +kernel
  have ran : recorded.2.interp.output = #["late"] ∧
      ∃ incident ∈ recorded.2.host.history, incident.isQueuedExit = true := by
    have known := calls.script_recorder release 2 queued
    rw [← queuedText] at known
    have inside := Evaluator.eq_knowing_singleton known
    have script := calls.script_recorder release 3 commands
    rw [← text, inside] at script
    have outside := Evaluator.eq_knowing_singleton script
    have same : recorded = (submit ((calls.recorder release 4).knowing _) _).run.run _ :=
      congrArg (fun eval => (submit eval "update; puts late").run.run start.watched) outside
    rw [same]
    decide +kernel
  refine ⟨ran.1, ?_⟩
  obtain ⟨incident, member, isQueuedExit⟩ := ran.2
  obtain ⟨earlier, later, history⟩ := List.append_of_mem member
  unfold Incident.isQueuedExit at isQueuedExit
  split at isQueuedExit
  · rename_i exit within code
    obtain ⟨isExit, updating⟩ := Bool.and_eq_true_iff.mp isQueuedExit
    obtain ⟨-, ends⟩ := (exit_unwinds calls release 4 "update; puts late" start).2 earlier exit
      within code later history isExit
    exact ⟨earlier, exit, within, code, later, history, isExit, updating, ends updating⟩
  · cases isQueuedExit

end ScriptBridge
