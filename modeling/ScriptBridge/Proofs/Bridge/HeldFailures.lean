import ScriptBridge.Proofs.Bridge.FailurePassing

/-!
# Failures in the hands of programs

Programs drop, keep, detach or hold the failures that they receive. So wherever programs and scripts
are stopped, each session counts exactly the failures that are held or kept.
-/

namespace ScriptBridge

namespace Conduct

variable {α β : Type} {eval : SessionEvaluator} {transit : List Failure}

/-! ## Programs -/

section Hands

variable {held : List Failure} {failure : Failure}

theorem leads_in_hands
    {other : List Failure}
    {action : WorldAction α}
    {after : α → World → Prop}
    {broken : Unfinished → World → Prop}
    (same : held.Perm other)
    (leads : Leads (World.Accounts transit other) (action.run eval) after broken) :
    Leads (World.Accounts transit held) (action.run eval) after broken :=
  leads_from (fun _ accounts => accounts.of_perm same) leads

theorem leads_receive (failures : List Failure) :
    Leads (World.Accounts failures held) ((World.receive failures).run eval)
      (fun _ => World.Accounts [] (failures ++ held)) (fun _ world => world.Balanced []) :=
  leads_modify fun _ accounts => accounts.received

theorem leads_letGo :
    Leads (World.Accounts [] (failure :: held)) ((World.letGo failure).run eval)
      (fun _ => World.Accounts [failure] held) (fun _ world => world.Balanced []) :=
  leads_modify fun _ accounts => accounts.let_go

theorem leads_keep :
    Leads (World.Accounts [] (failure :: held)) ((World.keep failure).run eval)
      (fun _ => World.Accounts [] held) (fun _ world => world.Balanced []) :=
  leads_andThen leads_letGo fun _ => leads_modify fun _ accounts => accounts.left_to_host

theorem leads_takeKept (index : Nat) :
    Leads (World.Accounts [] held) ((World.takeKept index).run eval)
      (fun taken => World.Accounts [] (taken.toList ++ held))
      (fun _ world => world.Balanced []) := by
  apply leads_of_run
  intro world accounts
  exact ⟨_, _, rfl, (accounts.taken index).received⟩

theorem leads_detach :
    Leads (World.Accounts [failure] held) ((World.detach failure).run eval)
      (fun detached => World.Accounts [detached] held) (fun _ world => world.Balanced []) := by
  apply leads_andThen (passes_dropFailure failure held)
  intro _
  apply leads_pure
  intro world accounts
  exact accounts.on_their_way (Failure.scopes_of_none failure.scope_detached)

theorem leads_dropFailures (failures : List Failure) :
    Leads (World.Accounts [] (failures ++ held)) ((World.dropFailures failures).run eval)
      (fun _ => World.Accounts [] held) (fun _ world => world.Balanced []) := by
  induction failures with
  | nil => exact leads_pure fun _ accounts => accounts
  | cons failure failures inductionHypothesis =>
      apply leads_andThen leads_letGo
      intro _
      exact leads_andThen (passes_dropFailure failure _) fun _ => inductionHypothesis

end Hands

/-- What a program has received it has dropped or left to the host when it ends, and the failures of
other programs stay in their hands. -/
theorem leads_run
    (runs : accounts.Runs eval)
    (program : HostProgram)
    (alive others : List Failure) :
    Leads (World.Accounts [] (alive ++ others)) ((World.run alive program).run eval)
      (fun _ => World.Accounts [] others) (fun _ world => world.Balanced []) := by
  -- Requests add to what is alive, so the hypothesis has to be about all that may be.
  induction program generalizing alive with
  | finish result =>
      exact leads_andThen (leads_dropFailures alive) fun _ => leads_pure fun _ accounts => accounts
  | fail message =>
      exact leads_andThen (leads_dropFailures alive) fun _ => leads_pure fun _ accounts => accounts
  | request request next inductionHypothesis =>
      apply leads_andThen (answers_answer runs request _)
      intro result
      apply leads_andThen (leads_receive _)
      intro _
      exact leads_in_hands (Failure.perm_received _ _ _) (inductionHypothesis result _)
  | register session callback next _ inductionHypothesis =>
      apply leads_andThen (answers_inSession (reports_register _ runs.release) session _)
      intro result
      apply leads_andThen (leads_receive _)
      intro _
      exact leads_in_hands (Failure.perm_received _ _ _) (inductionHypothesis result _)
  | dropError index next inductionHypothesis =>
      have taken := (Failure.perm_taken alive index).append_right others
      rw [List.append_assoc] at taken
      apply leads_in_hands taken
      exact leads_andThen (leads_dropFailures _) fun _ => inductionHypothesis _
  | detachError index next inductionHypothesis =>
      unfold World.run
      split
      · exact inductionHypothesis alive
      · rename_i failure there
        apply leads_in_hands (Failure.perm_taken_of_some there others)
        apply leads_andThen leads_letGo
        intro _
        apply leads_andThen leads_detach
        intro detached
        apply leads_andThen (leads_receive _)
        intro _
        exact leads_in_hands (Failure.perm_exchanged there detached others) (inductionHypothesis _)
  | keepError index next inductionHypothesis =>
      unfold World.run
      split
      · exact inductionHypothesis alive
      · rename_i failure there
        apply leads_in_hands (Failure.perm_taken_of_some there others)
        exact leads_andThen leads_keep fun _ => inductionHypothesis _
  | takeError index next inductionHypothesis =>
      apply leads_andThen (leads_takeKept index)
      intro taken
      exact leads_in_hands (Failure.perm_received _ _ _) (inductionHypothesis taken _)

/-! ## Calls -/

/-- What the host does in the midst of a session leaves the accounts in balance if it does so on its
own. -/
theorem accounts_outside
    {action : WorldAction α}
    (settles : Settles eval action) :
    accounts.Keeps (Session.outside eval action) := by
  intro machine seated balanced
  have start : (World.ofMachine machine).Accounts [] machine.host.held := ⟨balanced, .rfl⟩
  unfold Session.outside
  rw [Session.run_get_bind]
  unfold WorldAction.outcome Session.resumeFrom
  rcases ran : (action.run eval).run.run (World.ofMachine machine) with ⟨outcome, world⟩
  dsimp only
  split
  · exact ⟨rfl, seated, balanced, nofun⟩
  · rename_i session found
    have back : World.ofMachine (world.machineOf machine.host.running session) = world :=
      World.ofMachine_machineOf found
    have inPlace : (world.machineOf machine.host.running session).host.Seated :=
      (Array.getElem?_eq_some_iff.mp found).1
    cases outcome with
    | ok value =>
        have after := (settles machine.host.held).ends start ran
        refine ⟨rfl, inPlace, ?_, fun _ => after.inHands⟩
        show (World.ofMachine (world.machineOf machine.host.running session)).Balanced []
        rw [back]
        exact after.toBalanced
    | error fault =>
        have after := (settles machine.host.held).breaks start ran
        refine ⟨rfl, inPlace, ?_, nofun⟩
        show (World.ofMachine (world.machineOf machine.host.running session)).Balanced []
        rw [back]
        exact after

/-- A call of a callback leaves the accounts in balance, whether it returns or fails. -/
theorem accounts_dispatch
    (eval : SessionEvaluator)
    (release : eval.release = freeSlot)
    (scripts : eval.Keeps accounts)
    (slot : Nat)
    (words : List String) :
    accounts.Keeps (Session.dispatch eval slot words) := by
  have calls := accounts_allowsUntouched.allowsCalls
  have runs : accounts.Runs eval := ⟨release, scripts⟩
  exact calls.keeps_dispatch
    (fun program => accounts_outside fun others => leads_run runs program [] others) slot words

theorem accounts_runs (fuel : Nat) : accounts.Runs (Session.evaluatorOf fuel) where
  release := evaluator_release Session.hostCommands fuel
  scripts :=
    keeps_evaluator accounts_allowsUntouched.allowsWork.scripts accounts_allowsNesting
      (fun eval release scripts slot words machine _ =>
        accounts_dispatch eval release scripts slot words machine)
      fuel

end Conduct

/-! ## Reachable worlds -/

namespace World

/-- What a program of the host makes of a world with accounts in balance: they are in balance,
wherever the program stops, and nothing is in its hands if it ends. -/
theorem accounts_outcome
    {world : World}
    (accounts : world.Accounts [] [])
    (program : HostProgram)
    (fuel : Nat) :
    (program.outcome fuel world).2.Balanced [] ∧
      (finishes (program.outcome fuel world).1 = true →
        (program.outcome fuel world).2.held = []) := by
  have leads := Conduct.leads_run (Conduct.accounts_runs fuel) program [] []
  rcases ran : program.outcome fuel world with ⟨outcome, after⟩
  cases outcome with
  | ok value =>
      have accountsAfter := leads.ends accounts ran
      exact ⟨accountsAfter.toBalanced, fun _ => accountsAfter.inHands.eq_nil⟩
  | error fault => exact ⟨leads.breaks accounts ran, nofun⟩

/-- Whatever hosts and scripts do, and wherever they are stopped, which may be in the midst of a
callback, each session counts exactly the failures it has reported that are in the hands of programs
or kept by the host and not detached. What it remembers of commands nobody read is none of them, and
the count is back at zero when they are gone. The failures that a session reports are all of this
kind. Programs that end have nothing in their hands, and the call of a callback, be it that it
returns or that it fails, leaves in the hands of programs what was there before. -/
theorem failures_accounted
    (environment : Settings.Environment)
    (sessions : List (InterpAccess × Settings))
    (program : HostProgram)
    (fuel : Nat) :
    let ran := program.outcome fuel (opened environment sessions)
    (∀ id session, ran.2.sessions[id]? = some session →
      session.state.failuresAlive = Failure.scopes id (ran.2.held ++ ran.2.kept) ∧
      (∀ failure, session.state.deferred = some failure → failure.scope? = none) ∧
      ((∀ failure ∈ ran.2.held ++ ran.2.kept, failure.scope? ≠ some id) →
        session.state.failuresAlive = 0)) ∧
    (∀ id request failure, ran.2.recipient? request = some id →
      ((perform request).outcome (Session.evaluatorOf fuel) ran.2).1 = .ok (.error failure) →
        failure.scope? = some id) ∧
    (∀ id callback failure,
      ((inSession id fun eval => Session.register eval callback).outcome
        (Session.evaluatorOf fuel) ran.2).1 = .ok (.error failure) →
        failure.scope? = some id) ∧
    (finishes ran.1 = true → ran.2.held = []) ∧
    ∀ slot words (machine : SessionMachine),
      machine.host.Seated → (ofMachine machine).Balanced [] →
        let called := (Session.dispatch (Session.evaluatorOf fuel) slot words).run.run machine
        (ofMachine called.2).Balanced [] ∧
          (finishes called.1 = true → called.2.host.held.Perm machine.host.held) := by
  intro ran
  have runs := Conduct.accounts_runs fuel
  obtain ⟨balanced, ended⟩ := accounts_outcome (accounts_opened environment sessions) program fuel
  have accounts : ran.2.Accounts [] ran.2.held := ⟨balanced, .rfl⟩
  refine ⟨?_, ?_, ?_, ended, ?_⟩
  · intro id session found
    have counted : session.state.failuresAlive = Failure.scopes id (ran.2.held ++ ran.2.kept) := by
      have count := balanced.counted id
      rw [failureCount, found, Failure.scopes_nil, Nat.zero_add] at count
      exact count
    refine ⟨counted, balanced.deferred id session found, ?_⟩
    intro gone
    rw [counted, Failure.scopes, List.countP_eq_zero]
    intro failure alive
    rw [decide_eq_true_eq]
    exact gone failure alive
  · intro id request failure asked reported
    have leads := Conduct.leads_perform runs request (some id) ran.2.held
    exact (leads.ends ⟨asked, accounts⟩ (Prod.ext reported rfl)).1 failure id rfl rfl
  · intro id callback failure reported
    have answers : Conduct.AnswersFor (Session.evaluatorOf fuel) (some id)
        (inSession id fun eval => Session.register eval callback) :=
      Conduct.answersFor_inSession (Conduct.reports_register callback runs.release) id
    have leads := answers ran.2.held
    exact (leads.ends accounts (Prod.ext reported rfl)).1 failure id rfl rfl
  · intro slot words machine seated balancedBefore
    obtain ⟨-, -, balancedAfter, sameHands⟩ := Conduct.accounts_dispatch
      (Session.evaluatorOf fuel) runs.release runs.scripts slot words machine seated balancedBefore
    exact ⟨balancedAfter, sameHands⟩

/-- Of three refusals a program leaves two to the host, the one of them detached, and holds the third
one when it is stopped. -/
theorem failures_accounted_of_refusals :
    let program : HostProgram :=
      .register 0 (fun _ => .finish none) fun _ =>
        .request (.link 0 (.int 7)) fun _ =>
          .keepError 0 <| .request (.link 0 (.text 1)) fun _ =>
            .detachError 0 <| .keepError 0 <|
              .request (.evaluate 1 "exit") fun _ => .finish none
    let world := (program.outcome 0 (opened (fun _ => none) [(.refusing, {}), (.open, {})])).2
    world.held.map Failure.scope? = [some 0] ∧ world.kept.map Failure.scope? = [some 0, none] ∧
      (∃ refusing, world.sessions[0]? = some refusing ∧ refusing.state.failuresAlive = 2) ∧
      (∃ failure, ((perform (.link 0 (.int 7))).outcome (Session.evaluatorOf 0) world).1 =
        .ok (.error failure) ∧ failure.scope? = some 0) ∧
      ∃ other, world.sessions[1]? = some other ∧ other.state.failuresAlive = 0 ∧
        let called :=
          (Session.dispatch (Session.evaluatorOf 0) 0 []).run.run (world.machineOf 1 other)
        (ofMachine called.2).Balanced [] := by
  intro program world
  have held : world.held.map Failure.scope? = [some 0] := by decide +kernel
  have kept : world.kept.map Failure.scope? = [some 0, none] := by decide +kernel
  have size : world.sessions.size = 2 := by decide +kernel
  have refused : ((perform (.link 0 (.int 7))).outcome (Session.evaluatorOf 0) world).1 =
      .ok (.error (.interpreter "cannot link rtk::variable2 to Int(0)" (some 0))) := by
    decide +kernel
  have mapped : (world.held ++ world.kept).map Failure.scope? = [some 0, some 0, none] := by
    rw [List.map_append, held, kept]
    rfl
  have here : world =
    (program.outcome 0 (opened (fun _ => none) [(.refusing, {}), (.open, {})])).2 := rfl
  obtain ⟨accounted, reports, -, -, calls⟩ :=
    failures_accounted (fun _ => none) [(.refusing, {}), (.open, {})] program 0
  have balanced :=
    (accounts_outcome (accounts_opened (fun _ => none) [(.refusing, {}), (.open, {})]) program 0).1
  rw [← here] at accounted reports balanced
  clear_value world
  have refusing := Array.getElem?_eq_getElem (show 0 < world.sessions.size by omega)
  have other := Array.getElem?_eq_getElem (show 1 < world.sessions.size by omega)
  have none : ∀ failure ∈ world.held ++ world.kept, failure.scope? ≠ some 1 := by
    intro failure alive
    have among : failure.scope? ∈ [some 0, some 0, none] := by
      rw [← mapped]
      exact List.mem_map_of_mem alive
    intro same
    rw [same] at among
    revert among
    decide
  refine ⟨held, kept, ⟨_, refusing, ?_⟩, ⟨_, refused, reports 0 _ _ rfl refused⟩, _, other,
    (accounted 1 _ other).2.2 none, ?_⟩
  · rw [(accounted 0 _ refusing).1]
    have counted : Failure.scopes 0 (world.held ++ world.kept) =
        ((world.held ++ world.kept).map Failure.scope?).countP fun scope => scope = some 0 := by
      rw [List.countP_map]
      rfl
    rw [counted, mapped]
    rfl
  · refine (calls 0 [] (world.machineOf 1 _) (Array.getElem?_eq_some_iff.mp other).1 ?_).1
    rw [ofMachine_machineOf other]
    exact balanced

end World

end ScriptBridge
