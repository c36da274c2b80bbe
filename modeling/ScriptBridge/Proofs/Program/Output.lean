import ScriptBridge.Proofs.Bridge.CallbackTables
import ScriptBridge.Proofs.Program.Arguments

/-!
# The output of a run

Scripts only add to the lines that an interpreter has printed. The lines that the script file and
the command print stay there until both have ended, and are written out behind the result of the
command if there is one. If one of them fails, the lines are lost.
-/

namespace ScriptBridge

/-! ## Interpreters without commands of the host -/

section Alone

variable {Key Host : Type} {before after : Machine Key Host} {release : Release Key Host}

/-- No command belongs to the host. -/
def Interp.Alone (interp : Interp Key) : Prop :=
  ∀ key, ¬interp.KnowsHost key

namespace Machine

theorem alone_erased
    (alone : before.interp.Alone)
    (name : String) :
    ∀ key other,
      (before.interp.commands.erase (Name.key name))[Name.key other]? ≠ some (.host key) := by
  intro key other found
  rw [Std.TreeMap.getElem?_erase] at found
  split at found
  · cases found
  · exact alone key ⟨other, found⟩

theorem alone_removed
    {name : String}
    (alone : before.interp.Alone)
    (removed : before.removeCommand release name = .ok after) :
    after.interp.Alone := by
  obtain ⟨old, -, rfl⟩ := eq_of_removeCommand removed
  rw [interp_released]
  rintro key ⟨other, found⟩
  exact alone_erased alone name key other found

/-- Only the host enters commands of the host. -/
theorem Change.alone
    (change : Change release before after)
    (alone : before.interp.Alone) :
    after.interp.Alone := by
  cases change with
  | defined name noHost =>
      unfold define
      rw [interp_released]
      rintro key ⟨other, found⟩
      unfold Interp.command? at found
      dsimp only at found
      rw [Std.TreeMap.getElem?_insert] at found
      split at found
      · exact noHost key (Option.some.inj found)
      · exact alone key ⟨other, found⟩
  | removed removed => exact alone_removed alone removed
  | @renamed old _ _ renamed =>
      obtain removed | ⟨command, there, -, rfl⟩ := eq_of_renameCommand renamed
      · exact alone_removed alone removed
      · rintro key ⟨other, found⟩
        unfold Interp.command? at found
        dsimp only at found
        rw [Std.TreeMap.getElem?_insert] at found
        split at found
        · cases found
          exact alone key ⟨old, there⟩
        · exact alone_erased alone old key other found
  | written | unset | declared | shown | queued | waited | printed | ended =>
      exact alone

theorem Change.output_prefix (change : Change release before after) :
    before.interp.output.toList <+: after.interp.output.toList := by
  cases change with
  | defined name noHost =>
      unfold define
      rw [interp_released]
  | removed removed =>
      obtain ⟨old, -, rfl⟩ := eq_of_removeCommand removed
      rw [interp_released]
  | renamed renamed =>
      obtain removed | ⟨command, -, -, rfl⟩ := eq_of_renameCommand renamed
      · obtain ⟨old, -, rfl⟩ := eq_of_removeCommand removed
        rw [interp_released]
      · exact List.prefix_rfl
  | printed line =>
      unfold Machine.printed
      rw [Array.toList_push]
      exact List.prefix_append _ _
  | written | unset | declared | shown | queued | waited | ended =>
      exact List.prefix_rfl

end Machine

end Alone

namespace Conduct

/-! ## Sessions that print -/

/-- While a session works that has no commands of the host, it stays at work, gets no such commands,
and adds to the lines that it has printed. -/
def printing : Conduct SessionMachine where
  allows _ before after :=
    before.interp.Alone →
      after.interp.Alone ∧
        after.host.running = before.host.running ∧
        after.host.sessions = before.host.sessions ∧
        before.interp.output.toList <+: after.interp.output.toList
  refl _ alone := ⟨alone, rfl, rfl, List.prefix_rfl⟩
  trans first second alone := by
    obtain ⟨aloneThen, running, sessions, output⟩ := first alone
    obtain ⟨aloneAfter, runningToo, sessionsToo, outputToo⟩ := second aloneThen
    exact ⟨aloneAfter, runningToo.trans running, sessionsToo.trans sessions,
      output.trans outputToo⟩
  cut := id

theorem printing_allowsScripts : printing.AllowsScripts freeSlot where
  changed change alone :=
    ⟨change.alone alone, change.host_eq (·.running) fun _ _ => rfl,
      change.host_eq (·.sessions) fun _ _ => rfl, change.output_prefix⟩
  answered _ _ alone := ⟨alone, rfl, rfl, List.prefix_rfl⟩

theorem printing_allowsNesting : printing.AllowsNesting :=
  allowsNesting_of_indifferent (fun _ _ alone => ⟨alone, rfl, rfl, List.prefix_rfl⟩)
    fun _ _ alone => ⟨alone, rfl, rfl, List.prefix_rfl⟩

theorem printing_evaluatorOf (fuel : Nat) : (Session.evaluatorOf fuel).Keeps printing := by
  apply keeps_evaluator printing_allowsScripts printing_allowsNesting
  intro eval release scripts key words machine known alone
  exact absurd known (alone key)

theorem printing_evaluate (fuel : Nat) (script : String) :
    printing.Keeps (Session.evaluate (Session.evaluatorOf fuel) script) := by
  have laws : printing.AllowsScripts (Session.evaluatorOf fuel).release :=
    evaluator_release Session.hostCommands fuel ▸ printing_allowsScripts
  unfold Session.evaluate
  apply keeps_bind
  · exact keeps_dumped (fun _ _ _ alone => ⟨alone, rfl, rfl, List.prefix_rfl⟩) script
  · intro _
    apply keeps_bind keeps_getState
    intro session
    split
    · apply keeps_bind (keeps_submit laws (printing_evaluatorOf fuel) script)
      intro outcome
      split
      · exact keeps_bind keeps_getInterp fun _ => keeps_pure _
      · have failing : printing.AllowsFailing :=
          fun _ _ _ alone => ⟨alone, rfl, rfl, List.prefix_rfl⟩
        exact keeps_bind (failing.keeps_raise _) fun _ => keeps_pure _
    · exact keeps_bind (laws.keeps_setResult "") fun _ => keeps_pure _

theorem printing_runLoop (fuel : Nat) :
    printing.Keeps (Session.runLoop (Session.evaluatorOf fuel)) := by
  have laws : printing.AllowsScripts (Session.evaluatorOf fuel).release :=
    evaluator_release Session.hostCommands fuel ▸ printing_allowsScripts
  apply keeps_bind
  · exact keeps_setBuffers fun _ _ _ alone => ⟨alone, rfl, rfl, List.prefix_rfl⟩
  · intro _
    exact keeps_runEventLoop laws (printing_evaluatorOf fuel)

end Conduct

/-! ## Sessions of a world -/

namespace World

/-- The lines that scripts of a session have printed and nobody has taken. -/
def printed (world : World) (id : SessionId) : List String :=
  match world.sessions[id]? with
  | some session => session.interp.output.toList
  | none => []

/-- A session is there and has no commands of the host. -/
def HasAlone (world : World) (id : SessionId) : Prop :=
  ∃ session, world.sessions[id]? = some session ∧ session.interp.Alone

/-- What works in a session adds these lines to those that its scripts have printed. -/
def Prints
    {α : Type}
    (id : SessionId)
    (action : WorldAction α)
    (fuel : Nat)
    (before : World)
    (value : α)
    (lines : List String)
    (after : World) : Prop :=
  action.outcome (Session.evaluatorOf fuel) before = (.ok value, after) ∧
    after.printed id = before.printed id ++ lines

/-- Whatever works in such a session without changing that prints something. -/
def OnlyPrints {α : Type} (id : SessionId) (action : WorldAction α) (fuel : Nat) : Prop :=
  ∀ {before after : World} {value : α},
    before.HasAlone id →
      action.outcome (Session.evaluatorOf fuel) before = (.ok value, after) →
        after.HasAlone id ∧ ∃ lines, Prints id action fuel before value lines after

variable {α : Type} {id : SessionId} {fuel : Nat}

theorem onlyPrints_return (value : α) : OnlyPrints id (return value) fuel := by
  intro before after other alone ran
  obtain ⟨rfl, rfl⟩ : value = other ∧ before = after := by
    obtain ⟨sameValue, sameWorld⟩ := Prod.mk.inj ran
    exact ⟨Except.ok.inj sameValue, sameWorld⟩
  exact ⟨alone, [], ran, (List.append_nil _).symm⟩

theorem onlyPrints_inSession
    {action : SessionEvaluator → SessionAction α}
    (keeps : Conduct.printing.Keeps (action (Session.evaluatorOf fuel))) :
    OnlyPrints id (inSession id action) fuel := by
  rintro before final value ⟨session, found, alone⟩ ran
  have kept := keeps (before.machineOf id session)
  unfold Conduct.KeepsFrom at kept
  cases worked : (action (Session.evaluatorOf fuel)).run.run (before.machineOf id session) with
  | mk outcome after =>
      rw [worked] at kept
      obtain ⟨aloneAfter, running, sessions, lines, output⟩ := kept alone
      cases outcome with
      | error fault =>
          unfold WorldAction.outcome at ran
          rw [run_inSession_some found, worked] at ran
          cases ran
      | ok other =>
          obtain ⟨whole, foundAfter⟩ := outcome_inSession action found worked running sessions
          have ends := ran
          rw [whole] at ends
          obtain ⟨-, rfl⟩ := Prod.mk.inj ends
          refine ⟨⟨_, foundAfter, aloneAfter⟩, lines, ran, ?_⟩
          unfold printed
          rw [foundAfter, found]
          exact output.symm

end World

/-! ## Parts of a run -/

namespace Program

section Parts

variable {α β : Type} {eval : SessionEvaluator} {world : World} {output : String}

theorem outcome_bind (action : RunAction α) (next : α → RunAction β) :
    (action >>= next).outcome eval output world =
      match action.outcome eval output world with
      | (.ok (.ok value, output), world) => (next value).outcome eval output world
      | (.ok (.error failure, output), world) => (.ok (.error failure, output), world)
      | (.error fault, world) => (.error fault, world) := by
  unfold RunAction.outcome WorldAction.outcome
  rw [ExceptT.run_bind, StateT.run_bind, ReaderT.run_bind, Conduct.run_bind]
  rcases ((action.run.run output).run eval).run.run world with ⟨outcome, after⟩
  rcases outcome with fault | ⟨result, printed⟩
  · rfl
  · cases result <;> rfl

theorem outcome_work (action : WorldAction (Except Failure α)) :
    (work action).outcome eval output world =
      ((action.outcome eval world).1.map fun result => (result, output),
        (action.outcome eval world).2) := by
  unfold RunAction.outcome work WorldAction.outcome
  rw [ExceptT.run_mk, StateT.run_lift, ReaderT.run_bind, Conduct.run_bind]
  rcases (action.run eval).run.run world with ⟨outcome, after⟩
  cases outcome <;> rfl

theorem outcome_workOk (action : WorldAction α) :
    (workOk action).outcome eval output world =
      ((action.outcome eval world).1.map fun value => (.ok value, output),
        (action.outcome eval world).2) := by
  have always : (World.always action).outcome eval world =
      ((action.outcome eval world).1.map .ok, (action.outcome eval world).2) := by
    unfold World.always WorldAction.outcome
    rw [map_eq_pure_bind, ReaderT.run_bind, Conduct.run_bind]
    rcases (action.run eval).run.run world with ⟨outcome, after⟩
    cases outcome <;> rfl
  unfold workOk
  rw [outcome_work, always]
  rcases action.outcome eval world with ⟨outcome, after⟩
  cases outcome <;> rfl

theorem outcome_printLine (text : String) :
    (printLine text).outcome eval output world = (.ok (.ok (), output ++ text ++ "\n"), world) :=
  rfl

theorem unlines_cons (line : String) (lines : List String) :
    unlines (line :: lines) = line ++ "\n" ++ unlines lines := by
  unfold unlines
  rw [List.map_cons, String.join_cons]

theorem unlines_append (lines more : List String) :
    unlines (lines ++ more) = unlines lines ++ unlines more := by
  induction lines with
  | nil =>
      rw [List.nil_append]
      exact (String.empty_append).symm
  | cons line lines inductionHypothesis =>
      rw [List.cons_append, unlines_cons, unlines_cons, inductionHypothesis, String.append_assoc,
        String.append_assoc, String.append_assoc]

theorem outcome_printLines (lines : List String) :
    (forIn lines PUnit.unit fun line _ => do printLine line; return .yield ⟨⟩ :
      RunAction PUnit).outcome eval output world =
      (.ok (.ok (), output ++ unlines lines), world) := by
  induction lines generalizing output with
  | nil =>
      rw [List.forIn_nil, show unlines [] = "" from rfl, String.append_empty]
      rfl
  | cons line lines inductionHypothesis =>
      rw [List.forIn_cons, bind_assoc, outcome_bind, outcome_printLine]
      dsimp only
      rw [pure_bind]
      dsimp only
      rw [inductionHypothesis, unlines_cons, String.append_assoc, String.append_assoc,
        String.append_assoc]

end Parts

/-- The part of a run that evaluates the script file. -/
def scriptPart
    (surroundings : Surroundings)
    (line : CommandLine)
    (session : SessionId) : WorldAction (Except Failure String) :=
  match line.script with
  | none => return .ok ""
  | some path =>
      match surroundings.fileContent path with
      | .error fault => return .error (.file fault)
      | .ok script => World.inSession session fun eval => Session.evaluate eval script

/-- The part of a run that evaluates the command of the command line. -/
def commandPart (line : CommandLine) (session : SessionId) :
    WorldAction (Except Failure String) :=
  match line.command with
  | none => return .ok ""
  | some command => World.inSession session fun eval => Session.evaluate eval command

/-- The part of a run in which events are run. -/
def loopPart (line : CommandLine) (session : SessionId) : WorldAction Unit :=
  if line.noLoop then return () else World.inSession session Session.runLoop

theorem discard_work_bind
    {α β : Type}
    (action : WorldAction (Except Failure α))
    (next : Unit → RunAction β) :
    (discard (work action) >>= next) = work action >>= fun _ => next () := by
  show ((fun _ => PUnit.unit) <$> work action) >>= next = _
  rw [map_eq_pure_bind, bind_assoc]
  simp only [pure_bind]

theorem script_bind
    (surroundings : Surroundings)
    (line : CommandLine)
    (session : SessionId)
    (next : Unit → RunAction Nat) :
    (match line.script with
      | some path => runFile surroundings session path >>= next
      | none => next ()) =
      work (scriptPart surroundings line session) >>= fun _ => next () := by
  unfold scriptPart
  cases line.script with
  | none => rfl
  | some path =>
      dsimp only
      unfold runFile
      cases surroundings.fileContent path with
      | error fault => rfl
      | ok script => exact discard_work_bind _ next

theorem command_bind
    (line : CommandLine)
    (session : SessionId)
    (next : Unit → RunAction Nat) :
    (match line.command with
      | some command => runCommand session command >>= next
      | none => next ()) =
      work (commandPart line session) >>= fun result =>
        if (!result.isEmpty) = true then printLine result >>= next else next () := by
  unfold commandPart
  cases line.command with
  | none => rfl
  | some command =>
      dsimp only
      unfold runCommand evaluate
      rw [bind_assoc]
      congr 1
      funext result
      split
      · rfl
      · rw [pure_bind]

/-- The end of a run: what has been printed is written out behind the result of the command. -/
def writeOut (line : CommandLine) (session : SessionId) (result : String) : RunAction Nat := do
  if !result.isEmpty then
    printLine result
  flushOutput session
  if !line.noLoop then
    workOk (World.inSession session Session.runLoop)
    flushOutput session
  finalStatus session

theorem runWith_eq
    (surroundings : Surroundings)
    (line : CommandLine)
    (settings : Settings) :
    runWith surroundings line settings = (do
      let session ← setUp line settings
      let _ ← work (scriptPart surroundings line session)
      let result ← work (commandPart line session)
      writeOut line session result) := by
  unfold runWith
  congr 1
  funext session
  apply (script_bind surroundings line session _).trans
  congr 1
  funext _
  exact command_bind line session _

end Program

/-! ## Writing out -/

namespace World

/-- The world in which what a session has printed has been taken. -/
def flushed (world : World) (id : SessionId) : World :=
  match world.sessions[id]? with
  | some session =>
      { world with
        sessions := world.sessions.setIfInBounds id
          { session with interp := { session.interp with output := #[] } } }
  | none => world

variable {world : World} {id : SessionId}

theorem find_flushed
    {session : OpenSession}
    (found : world.sessions[id]? = some session) :
    (world.flushed id).sessions[id]? =
      some { session with interp := { session.interp with output := #[] } } := by
  unfold flushed
  rw [found]
  exact Array.getElem?_setIfInBounds_self_of_lt (Array.getElem?_eq_some_iff.mp found).1

theorem hasAlone_flushed (alone : world.HasAlone id) : (world.flushed id).HasAlone id := by
  obtain ⟨session, found, alone⟩ := alone
  exact ⟨_, find_flushed found, alone⟩

theorem printed_flushed (alone : world.HasAlone id) : (world.flushed id).printed id = [] := by
  obtain ⟨session, found, -⟩ := alone
  unfold printed
  rw [find_flushed found]

theorem outcome_takeOutput (eval : SessionEvaluator) (alone : world.HasAlone id) :
    (inSession id fun _ => Session.takeOutput).outcome eval world =
      (.ok (world.printed id).toArray, world.flushed id) := by
  obtain ⟨session, found, -⟩ := alone
  unfold WorldAction.outcome
  rw [run_inSession_some found]
  unfold printed flushed
  rw [found]
  rfl

end World

namespace Program

theorem outcome_flushOutput
    {world : World}
    {id : SessionId}
    (alone : world.HasAlone id)
    (eval : SessionEvaluator)
    (output : String) :
    (flushOutput id).outcome eval output world =
      (.ok (.ok (), output ++ unlines (world.printed id)), world.flushed id) := by
  unfold flushOutput
  rw [outcome_bind, outcome_workOk, World.outcome_takeOutput eval alone]
  show (forIn (world.printed id).toArray PUnit.unit _ >>= _ : RunAction Unit).outcome _ _ _ = _
  rw [List.forIn_toArray, outcome_bind, outcome_printLines]
  rfl

theorem valid_of_loadSettings
    {surroundings : Surroundings}
    {line : CommandLine}
    {settings : Settings}
    {reports : List String}
    (loaded : loadSettings surroundings line = (.ok settings, reports)) :
    settings.validate = .ok () := by
  unfold loadSettings at loaded
  dsimp only at loaded
  split at loaded
  · cases loaded
  · rename_i fromFile _
    obtain ⟨valid, -⟩ := Prod.mk.inj loaded
    cases checked : (applyFlags line
        (fromFile.applyEnvironment surroundings.environment).1).validate with
    | error failure =>
        rw [checked] at valid
        cases valid
    | ok _ =>
        rw [checked] at valid
        obtain rfl := Except.ok.inj valid
        exact checked

theorem onlyPrints_scriptPart
    (surroundings : Surroundings)
    (line : CommandLine)
    (session : SessionId)
    (fuel : Nat) :
    World.OnlyPrints session (scriptPart surroundings line session) fuel := by
  unfold scriptPart
  split
  · exact World.onlyPrints_return _
  · split
    · exact World.onlyPrints_return _
    · exact World.onlyPrints_inSession (Conduct.printing_evaluate fuel _)

theorem onlyPrints_commandPart (line : CommandLine) (session : SessionId) (fuel : Nat) :
    World.OnlyPrints session (commandPart line session) fuel := by
  unfold commandPart
  split
  · exact World.onlyPrints_return _
  · exact World.onlyPrints_inSession (Conduct.printing_evaluate fuel _)

/-- What is reported of a run that has started. -/
def reported : Except Unfinished (Except Failure Nat × String) × World → Option Report
  | (.error _, _) => none
  | (.ok (.error failure, output), world) => some (failed output world.errorOutput failure)
  | (.ok (.ok status, output), world) => some { status, output, errors := world.errorOutput }

theorem run_eq_reported
    {surroundings : Surroundings}
    {arguments : List String}
    {line : CommandLine}
    {settings : Settings}
    {reports : List String}
    (parsed : CommandLine.ofArguments arguments = .ok line)
    (loaded : loadSettings surroundings line = (.ok settings, reports)) :
    run surroundings arguments =
      reported ((runWith surroundings line settings).outcome (Session.evaluatorOf ampleFuel) ""
        { environment := surroundings.environment, errorOutput := unlines reports }) := by
  unfold run
  rw [parsed]
  dsimp only
  rw [loaded]
  unfold RunAction.outcome reported
  dsimp only
  rcases WorldAction.outcome _ _ _ with ⟨fault | ⟨failure | status, output⟩, world⟩
  all_goals rfl

theorem outcome_printResult (result : String) (eval : SessionEvaluator) (world : World) :
    (if (!result.isEmpty) = true then printLine result else pure () : RunAction Unit).outcome eval
        "" world =
      (.ok (.ok (), unlines (if result.isEmpty then [] else [result])), world) := by
  cases result.isEmpty with
  | true => rfl
  | false =>
      show (printLine result).outcome eval "" world = _
      rw [outcome_printLine, String.empty_append, if_neg Bool.false_ne_true, unlines_cons,
        show unlines [] = "" from rfl, String.append_empty]

theorem output_of_finalStatus
    {session : SessionId}
    {eval : SessionEvaluator}
    {output : String}
    {world : World}
    {report : Report}
    (ran : reported ((finalStatus session).outcome eval output world) = some report) :
    report.output = output := by
  unfold finalStatus at ran
  rw [outcome_workOk] at ran
  generalize (World.inSession session _).outcome eval world = ended at ran
  obtain ⟨fault | status, after⟩ := ended
  · cases ran
  · cases ran
    rfl

theorem output_of_loop
    {line : CommandLine}
    {session : SessionId}
    {output : String}
    {world : World}
    {report : Report}
    (alone : world.HasAlone session)
    (taken : world.printed session = [])
    (ran : reported
      ((do
        if !line.noLoop then
          workOk (World.inSession session Session.runLoop)
          flushOutput session
        finalStatus session : RunAction Nat).outcome (Session.evaluatorOf ampleFuel) output
          world) = some report) :
    ∃ loop after,
      World.Prints session (loopPart line session) ampleFuel world () loop after ∧
        report.output = output ++ unlines loop := by
  unfold loopPart
  generalize line.noLoop = noLoop at ran ⊢
  cases noLoop with
  | true =>
      refine ⟨[], world, ⟨rfl, (List.append_nil _).symm⟩, ?_⟩
      rw [output_of_finalStatus ran]
      exact String.append_empty.symm
  | false =>
      change reported ((workOk (World.inSession session Session.runLoop) >>= fun _ =>
        flushOutput session >>= fun _ => finalStatus session).outcome _ _ _) = _ at ran
      rw [outcome_bind, outcome_workOk] at ran
      cases worked : (World.inSession session Session.runLoop).outcome
          (Session.evaluatorOf ampleFuel) world with
      | mk outcome after =>
          rw [worked] at ran
          cases outcome with
          | error fault => cases ran
          | ok value =>
              obtain ⟨aloneAfter, loop, prints⟩ :=
                World.onlyPrints_inSession (Conduct.printing_runLoop ampleFuel) alone worked
              refine ⟨loop, after, prints, ?_⟩
              change reported ((flushOutput session >>= _).outcome _ _ after) = _ at ran
              rw [outcome_bind, outcome_flushOutput aloneAfter] at ran
              rw [output_of_finalStatus ran, prints.2, taken, List.nil_append]

theorem output_of_writeOut
    {line : CommandLine}
    {session : SessionId}
    {result : String}
    {world : World}
    {report : Report}
    (alone : world.HasAlone session)
    (ran : reported ((writeOut line session result).outcome (Session.evaluatorOf ampleFuel) ""
      world) = some report) :
    ∃ loop after,
      World.Prints session (loopPart line session) ampleFuel (world.flushed session) () loop
          after ∧
        report.output =
          unlines ((if result.isEmpty then [] else [result]) ++ world.printed session ++ loop) := by
  have split : writeOut line session result =
      ((if (!result.isEmpty) = true then printLine result else pure ()) >>= fun _ =>
        flushOutput session >>= fun _ => do
          if !line.noLoop then
            workOk (World.inSession session Session.runLoop)
            flushOutput session
          finalStatus session) := by
    unfold writeOut
    cases result.isEmpty <;> rfl
  rw [split, outcome_bind, outcome_printResult] at ran
  dsimp only at ran
  rw [outcome_bind, outcome_flushOutput alone] at ran
  obtain ⟨loop, after, prints, output⟩ :=
    output_of_loop (World.hasAlone_flushed alone) (World.printed_flushed alone) ran
  refine ⟨loop, after, prints, ?_⟩
  rw [output, unlines_append, unlines_append]

theorem output_of_command
    {line : CommandLine}
    {session : SessionId}
    {world : World}
    {report : Report}
    (alone : world.HasAlone session)
    (ran : reported ((work (commandPart line session) >>= writeOut line session).outcome
      (Session.evaluatorOf ampleFuel) "" world) = some report) :
    (∃ failure command after,
      World.Prints session (commandPart line session) ampleFuel world (.error failure) command
          after ∧
        report = failed "" after.errorOutput failure) ∨
    ∃ result command afterCommand loop after,
      World.Prints session (commandPart line session) ampleFuel world (.ok result) command
          afterCommand ∧
        World.Prints session (loopPart line session) ampleFuel (afterCommand.flushed session) ()
          loop after ∧
        report.output =
          unlines ((if result.isEmpty then [] else [result]) ++ world.printed session ++ command ++
            loop) := by
  rw [outcome_bind, outcome_work] at ran
  rcases commandRan : (commandPart line session).outcome (Session.evaluatorOf ampleFuel) world
    with ⟨fault | commandResult, afterCommand⟩
  · rw [commandRan] at ran
    cases ran
  · obtain ⟨aloneAfter, command, prints⟩ :=
      onlyPrints_commandPart line session ampleFuel alone commandRan
    rw [commandRan] at ran
    cases commandResult with
    | error failure =>
        cases ran
        exact .inl ⟨failure, command, afterCommand, prints, rfl⟩
    | ok result =>
        obtain ⟨loop, after, loopPrints, output⟩ := output_of_writeOut aloneAfter ran
        rw [prints.2, ← List.append_assoc] at output
        exact .inr ⟨result, command, afterCommand, loop, after, prints, loopPrints, output⟩

/-- What a run writes on its standard output. The lines that the scripts of a part print come behind
those of the parts before it, in the order in which they were printed, but the result of the command
comes first. If the script file or the command fails, nothing is written: the lines are lost. -/
theorem output_of_run
    {surroundings : Surroundings}
    {arguments : List String}
    {line : CommandLine}
    {settings : Settings}
    {reports : List String}
    (parsed : CommandLine.ofArguments arguments = .ok line)
    (loaded : loadSettings surroundings line = (.ok settings, reports))
    (evaluates : settings.evaluate = true) :
    let start : World :=
      { environment := surroundings.environment, errorOutput := unlines reports }
    ∃ (session : SessionId) (ready : World),
      (setUp line settings).outcome (Session.evaluatorOf ampleFuel) "" start =
          (.ok (.ok session, ""), ready) ∧
        ready.printed session = [] ∧
        ∀ report, run surroundings arguments = some report →
          (∃ failure script after,
            World.Prints session (scriptPart surroundings line session) ampleFuel ready
                (.error failure) script after ∧
              report = failed "" after.errorOutput failure) ∨
          (∃ value script afterScript failure command after,
            World.Prints session (scriptPart surroundings line session) ampleFuel ready
                (.ok value) script afterScript ∧
              World.Prints session (commandPart line session) ampleFuel afterScript
                (.error failure) command after ∧
              report = failed "" after.errorOutput failure) ∨
          ∃ value script afterScript result command afterCommand loop after,
            World.Prints session (scriptPart surroundings line session) ampleFuel ready
                (.ok value) script afterScript ∧
              World.Prints session (commandPart line session) ampleFuel afterScript
                (.ok result) command afterCommand ∧
              World.Prints session (loopPart line session) ampleFuel
                (afterCommand.flushed session) () loop after ∧
              report.output =
                unlines ((if result.isEmpty then [] else [result]) ++ script ++ command ++
                  loop) := by
  intro start
  obtain ⟨fuel, ample⟩ : ∃ fuel, ampleFuel = fuel + 2 := ⟨ampleFuel - 2, by decide⟩
  obtain ⟨session, ready, setUpRan, -, shows⟩ :=
    outcome_setUp line (valid_of_loadSettings loaded) evaluates "" start fuel
  rw [← ample] at setUpRan
  obtain ⟨⟨state, found, -⟩, -⟩ := shows
  have alone : ready.HasAlone session := by
    refine ⟨_, found, ?_⟩
    rintro key ⟨name, known⟩
    exact Conduct.initialCommands_ne_host _ _ known
  have nothing : ready.printed session = [] := by
    unfold World.printed
    rw [found]
    rfl
  refine ⟨session, ready, setUpRan, nothing, ?_⟩
  intro report ran
  rw [run_eq_reported parsed loaded, runWith_eq, outcome_bind, setUpRan] at ran
  dsimp only at ran
  rw [outcome_bind, outcome_work] at ran
  rcases scriptRan : (scriptPart surroundings line session).outcome
    (Session.evaluatorOf ampleFuel) ready with ⟨fault | scriptResult, afterScript⟩
  · rw [scriptRan] at ran
    cases ran
  · obtain ⟨aloneThen, script, scriptPrints⟩ :=
      onlyPrints_scriptPart surroundings line session ampleFuel alone scriptRan
    rw [scriptRan] at ran
    cases scriptResult with
    | error failure =>
        cases ran
        exact .inl ⟨failure, script, afterScript, scriptPrints, rfl⟩
    | ok value =>
        change reported ((work (commandPart line session) >>= writeOut line session).outcome _ _
          afterScript) = _ at ran
        rcases output_of_command aloneThen ran with
          ⟨failure, command, after, commandPrints, same⟩ |
          ⟨result, command, afterCommand, loop, after, commandPrints, loopPrints, output⟩
        · exact .inr (.inl ⟨value, script, afterScript, failure, command, after, scriptPrints,
            commandPrints, same⟩)
        · rw [scriptPrints.2, nothing, List.nil_append] at output
          exact .inr (.inr ⟨value, script, afterScript, result, command, afterCommand, loop,
            after, scriptPrints, commandPrints, loopPrints, output⟩)

/-! ## A run -/

section Run

open ListText

theorem run_puts_error
    {machine : SessionMachine}
    (puts : machine.interp.command? "puts" = some (.builtin .puts))
    (error : machine.interp.command? "error" = some (.builtin .error))
    (shallow : machine.interp.depth < maxDepth)
    (fuel : Nat) :
    ((Session.evaluatorOf (fuel + 1)).script "puts a; error b").run.run machine =
      (.error (.error "b"), machine.printed "a") := by
  let prints := listCommand "puts" ["a"] (by decide)
  let fails := listCommand "error" ["b"] (by decide)
  have text : "puts a; error b" = WrittenCommand.script [prints, fails] := by decide +kernel
  have line : prints.arguments = ["a"] := by
    rw [arguments_listCommand, List.map_singleton, IsPlain.received_eq (by decide)]
  have message : fails.arguments = ["b"] := by
    rw [arguments_listCommand, List.map_singleton, IsPlain.received_eq (by decide)]
  have first : (invoke Session.hostCommands (Session.evaluatorOf fuel) "puts" ["a"]).run.run
      machine = (.ok "", machine.printed "a") :=
    run_invoke puts shallow ["a"]
  have errorStill : (machine.printed "a").interp.command? "error" = some (.builtin .error) := error
  have second : (invoke Session.hostCommands (Session.evaluatorOf fuel) "error" ["b"]).run.run
      (machine.printed "a") = (.error (.error "b"), machine.printed "a") :=
    run_invoke errorStill shallow ["b"]
  show (runScript (invoke Session.hostCommands (Session.evaluatorOf fuel)) ""
    (Script.ofText "puts a; error b")).run.run machine = _
  rw [text, WrittenCommand.runScript_script]
  show (invoke Session.hostCommands (Session.evaluatorOf fuel) "puts" prints.arguments >>= fun _ =>
    invoke Session.hostCommands (Session.evaluatorOf fuel) "error" fails.arguments >>=
      pure).run.run machine = _
  rw [line, message, Conduct.run_bind, first]
  dsimp only
  rw [Conduct.run_bind, second]

theorem run_evaluate_puts_error
    {machine : SessionMachine}
    (puts : machine.interp.command? "puts" = some (.builtin .puts))
    (error : machine.interp.command? "error" = some (.builtin .error))
    (shallow : machine.interp.depth < maxDepth)
    (evaluates : machine.host.session.settings.evaluate = true)
    (fuel : Nat) :
    ∃ failure after,
      (Session.evaluate (Session.evaluatorOf (fuel + 1)) "puts a; error b").run.run machine =
          (.ok (.error failure), after) ∧
        after.interp.output = machine.interp.output.push "a" := by
  let dumped : SessionMachine :=
    { machine with host := Session.dumped "puts a; error b" machine.host }
  have putsStill : dumped.interp.command? "puts" = some (.builtin .puts) := puts
  have script := run_puts_error putsStill error shallow fuel
  have submitted : (submit (Session.evaluatorOf (fuel + 1)) "puts a; error b").run.run dumped =
      (.ok (.error "b"), (dumped.printed "a").withResult "b") := by
    have attempted : (Action.attempt ((Session.evaluatorOf (fuel + 1)).script
        "puts a; error b")).run.run dumped =
          (.ok (((Session.evaluatorOf (fuel + 1)).script "puts a; error b").run.run dumped).1,
            (((Session.evaluatorOf (fuel + 1)).script "puts a; error b").run.run dumped).2) := rfl
    unfold submit
    rw [Conduct.run_bind, attempted, script]
    rfl
  have evaluatesStill : dumped.host.session.settings.evaluate = true := by
    rw [(alike_dumped "puts a; error b" machine.host).settings]
    exact evaluates
  have raised : (Session.evaluate (Session.evaluatorOf (fuel + 1)) "puts a; error b").run.run
      machine =
        (do return .error (← Session.raise "b") :
          SessionAction (Except Failure String)).run.run
            ((dumped.printed "a").withResult "b") := by
    unfold Session.evaluate
    rw [Conduct.run_bind]
    show (Session.getState >>= _).run.run dumped = _
    rw [Session.run_getState_bind, if_pos evaluatesStill, Conduct.run_bind, submitted]
  exact ⟨_, _, raised.trans rfl, rfl⟩

/-- The line that a script prints before it fails is lost. -/
theorem output_of_run_of_failure :
    let surroundings : Surroundings :=
      { fileContent := fun path =>
          if path = "s.tcl" then .ok "puts a; error b" else .error .missing
        environment := fun _ => none }
    let line : CommandLine := { settingsFile := .skip, noLoop := true, script := some "s.tcl" }
    ∃ session ready failure after,
      CommandLine.ofArguments ["-F", "-q", "s.tcl"] = .ok line ∧
        World.Prints session (scriptPart surroundings line session) ampleFuel ready
          (.error failure) ["a"] after ∧
        ∃ report, run surroundings ["-F", "-q", "s.tcl"] = some report ∧ report.output = "" := by
  intro surroundings line
  have parsed : CommandLine.ofArguments ["-F", "-q", "s.tcl"] = .ok line := by
    decide +kernel
  have loaded : loadSettings surroundings line = (.ok {}, []) := by
    have valid : ({} : Settings).validate = .ok () := by decide
    show (({} : Settings).validate.map fun _ => ({} : Settings), []) = _
    rw [valid]
    rfl
  obtain ⟨session, ready, setUpRan, nothing, ends⟩ := output_of_run parsed loaded rfl
  obtain ⟨fuel, ample⟩ : ∃ fuel, ampleFuel = fuel + 2 := ⟨ampleFuel - 2, by decide⟩
  obtain ⟨same, sameReady, setUpToo, -, ⟨state, found, evaluates⟩, -⟩ :=
    outcome_setUp line (valid_of_loadSettings loaded) rfl ""
      { environment := surroundings.environment, errorOutput := unlines [] } fuel
  rw [← ample, setUpRan] at setUpToo
  obtain ⟨sameOutcome, rfl⟩ := Prod.mk.inj setUpToo
  obtain ⟨ended, -⟩ := Prod.mk.inj (Except.ok.inj sameOutcome)
  obtain rfl := Except.ok.inj ended
  let opened : OpenSession := ⟨((argumentScene line {}).withResult (toString 0)).interp, state⟩
  have isThere : ready.sessions[session]? = some opened := found
  have puts : (ready.machineOf session opened).interp.command? "puts" = some (.builtin .puts) :=
    command?_initial (by simp [Builtin.table]) rfl
  have error : (ready.machineOf session opened).interp.command? "error" =
      some (.builtin .error) :=
    command?_initial (by simp [Builtin.table]) rfl
  have shallow : (ready.machineOf session opened).interp.depth < maxDepth :=
    show 0 < maxDepth by decide
  obtain ⟨failure, after, worked, output⟩ :=
    run_evaluate_puts_error puts error shallow evaluates (fuel + 1)
  have alone : (ready.machineOf session opened).interp.Alone := by
    rintro key ⟨name, known⟩
    exact Conduct.initialCommands_ne_host _ _ known
  obtain ⟨-, running, sessions, -⟩ :=
    Conduct.printing_evaluate (fuel + 2) "puts a; error b" (ready.machineOf session opened) alone
  rw [worked] at running sessions
  rw [← ample] at worked
  obtain ⟨scriptRan, foundAfter⟩ := World.outcome_inSession
    (fun eval => Session.evaluate eval "puts a; error b") isThere worked running sessions
  have printed : (World.ofMachine after).printed session = ready.printed session ++ ["a"] := by
    unfold World.printed
    rw [foundAfter, isThere]
    show after.interp.output.toList = _
    rw [output]
    rfl
  have scriptFails : (scriptPart surroundings line session).outcome
      (Session.evaluatorOf ampleFuel) ready = (.ok (.error failure), World.ofMachine after) :=
    scriptRan
  have ran : run surroundings ["-F", "-q", "s.tcl"] =
      some (failed "" (World.ofMachine after).errorOutput failure) := by
    rw [run_eq_reported parsed loaded, runWith_eq, outcome_bind, setUpRan]
    dsimp only
    rw [outcome_bind, outcome_work, scriptFails]
    rfl
  refine ⟨session, ready, failure, World.ofMachine after, parsed, ⟨scriptFails, printed⟩,
    _, ran, ?_⟩
  obtain ⟨_, _, _, -, report⟩ | ⟨_, _, _, _, _, _, prints, -⟩ |
    ⟨_, _, _, _, _, _, _, _, prints, -⟩ := ends _ ran
  · rw [report]
    rfl
  · cases scriptFails.symm.trans prints.1
  · cases scriptFails.symm.trans prints.1

end Run

end Program

end ScriptBridge
