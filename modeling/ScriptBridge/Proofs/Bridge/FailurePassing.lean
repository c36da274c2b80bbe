import ScriptBridge.Proofs.Bridge.FailureAccounts

/-!
# Failures on their way

What a host asks for ends with a failure on its way to the program, if with any. Commands that are
submitted unread, and handles that are dropped, drop the failures that they cause, so that nothing
is left on its way.
-/

namespace ScriptBridge

/-! ## Who answers -/

namespace World

/-- The session that a command is bound to. -/
def boundSession (world : World) (command : BufferId) : Option SessionId :=
  (world.commands.buffers[command]?).bind (·.session)

/-- The session that is to answer a request and may fail to do what it asks for. There is none for
requests that do not fail, and for those that open a session if need be. -/
def recipient? (world : World) : Request → Option SessionId
  | .evaluate session _ | .unregister session _ | .link session _ | .linkScoped session _ =>
      some session
  | .unregisterHandle handle => some handle.session
  | .evaluateOnce command | .evaluateText command => world.boundSession command
  | _ => none

end World

namespace Conduct

variable {α β : Type} {eval : SessionEvaluator} {transit : List Failure}

/-! ## Actions of the host -/

/-- A part of an action of the host, with what follows it. -/
theorem leads_andThen
    {before : World → Prop}
    {middle : α → World → Prop}
    {after : β → World → Prop}
    {broken : Unfinished → World → Prop}
    {action : WorldAction α}
    {next : α → WorldAction β}
    (first : Leads before (action.run eval) middle broken)
    (second : ∀ value, Leads (middle value) ((next value).run eval) after broken) :
    Leads before ((action >>= next).run eval) after broken := by
  rw [ReaderT.run_bind]
  exact leads_bind first second

/-- With failures on its way at the start, an action of the host ends with failures on their way
that are found in its value. Otherwise it changes no accounts; where it is cut short, they are in
balance. -/
def Passes
    (eval : SessionEvaluator)
    (transit : List Failure)
    (action : WorldAction α)
    (given : α → List Failure) : Prop :=
  ∀ held, Leads (World.Accounts transit held) (action.run eval)
    (fun value => World.Accounts (given value) held) (fun _ world => world.Balanced [])

/-- What is asked for ends with a failure on its way, if with any. -/
def Answers (eval : SessionEvaluator) (action : WorldAction (Except Failure α)) : Prop :=
  Passes eval [] action World.failuresIn

/-- Moreover, if a certain session was to answer, a failure is one of that session. -/
def AnswersFor
    (eval : SessionEvaluator)
    (asked : Option SessionId)
    (action : WorldAction (Except Failure α)) : Prop :=
  ∀ held, Leads (World.Accounts [] held) (action.run eval)
    (fun result world => OwnFailure asked result ∧ world.Accounts (World.failuresIn result) held)
    (fun _ world => world.Balanced [])

/-- An action ends with no failure on its way. -/
def Settles (eval : SessionEvaluator) (action : WorldAction α) : Prop :=
  Passes eval [] action fun _ => []

theorem AnswersFor.answers
    {asked : Option SessionId}
    {action : WorldAction (Except Failure α)}
    (answers : AnswersFor eval asked action) :
    Answers eval action :=
  fun held => leads_to (answers held) fun _ _ both => both.2

theorem answersFor_none
    {action : WorldAction (Except Failure α)}
    (answers : Answers eval action) :
    AnswersFor eval none action :=
  fun held => leads_to (answers held) fun result _ accounts => ⟨ownFailure_none result, accounts⟩

theorem passes_return
    {value : α}
    {given : α → List Failure}
    (same : ∀ id, Failure.scopes id (given value) = Failure.scopes id transit) :
    Passes eval transit (pure value) given :=
  fun _ => leads_pure fun _ accounts => accounts.on_their_way same

theorem settles_return (value : α) : Settles eval (pure value) :=
  passes_return fun _ => rfl

theorem answers_ok (value : α) : Answers eval (pure (.ok value)) :=
  passes_return fun _ => rfl

theorem passes_error (failure : Failure) :
    Passes eval [failure] (pure (.error failure) : WorldAction (Except Failure α))
      World.failuresIn :=
  passes_return fun _ => rfl

theorem passes_bind
    {action : WorldAction α}
    {next : α → WorldAction β}
    {middle : α → List Failure}
    {given : β → List Failure}
    (first : Passes eval transit action middle)
    (second : ∀ value, Passes eval (middle value) (next value) given) :
    Passes eval transit (action >>= next) given := by
  intro held
  exact leads_andThen (first held) fun value => second value held

theorem passes_look : Passes eval transit (get : WorldAction World) fun _ => transit :=
  fun _ => leads_of_run fun world accounts => ⟨world, world, rfl, accounts⟩

theorem passes_alter
    {change : World → World}
    (same : ∀ world, (change world).sessions = world.sessions ∧
      (change world).held = world.held ∧ (change world).kept = world.kept) :
    Passes eval transit (modify change : WorldAction PUnit) fun _ => transit := by
  intro held
  apply leads_modify
  intro world accounts
  obtain ⟨sameSessions, sameHeld, sameKept⟩ := same world
  exact accounts.of_same sameSessions sameHeld sameKept

theorem answers_always
    {action : WorldAction α}
    (settles : Settles eval action) :
    Answers eval (World.always action) := by
  unfold World.always
  rw [map_eq_pure_bind]
  exact passes_bind settles answers_ok

/-! ## Sessions at work -/

theorem accounts_machineOf
    {world : World}
    {id : SessionId}
    {session : OpenSession}
    {held : List Failure}
    (accounts : world.Accounts transit held)
    (found : world.sessions[id]? = some session) :
    Session.Accounts id transit held (world.machineOf id session) where
  running := rfl
  seated := (Array.getElem?_eq_some_iff.mp found).1
  world := by
    rw [World.ofMachine_machineOf found]
    exact accounts

/-- A session goes on with the accounts of the world, and the world with those of the session. -/
theorem leads_inSession
    {id : SessionId}
    {held : List Failure}
    {action : SessionEvaluator → SessionAction α}
    {after : α → World → Prop}
    (missing : ∀ world : World, world.Balanced transit → world.sessions[id]? = none →
      world.Balanced [])
    (leads : Leads (Session.Accounts id transit held) (action eval)
      (fun value machine => after value (World.ofMachine machine)) (Session.Broken held)) :
    Leads (World.Accounts transit held) ((World.inSession id action).run eval) after
      (fun _ world => world.Balanced []) := by
  constructor
  · intro world last value accounts ran
    cases found : world.sessions[id]? with
    | none =>
        rw [World.run_inSession_none found] at ran
        cases ran
    | some session =>
        rw [World.run_inSession_some found] at ran
        rcases worked : (action eval).run.run (world.machineOf id session) with ⟨outcome, machine⟩
        rw [worked] at ran
        cases outcome with
        | ok value =>
            cases ran
            exact leads.ends (accounts_machineOf accounts found) worked
        | error interruption => cases ran
  · intro world last fault accounts ran
    cases found : world.sessions[id]? with
    | none =>
        rw [World.run_inSession_none found] at ran
        cases ran
        exact missing world accounts.toBalanced found
    | some session =>
        rw [World.run_inSession_some found] at ran
        rcases worked : (action eval).run.run (world.machineOf id session) with ⟨outcome, machine⟩
        rw [worked] at ran
        cases outcome with
        | ok value => cases ran
        | error interruption =>
            cases ran
            exact (leads.breaks (accounts_machineOf accounts found) worked).balanced

/-- What a session reports is on its way through the host. -/
theorem answersFor_inSession
    {action : SessionEvaluator → SessionAction (Except Failure α)}
    (reports : Reports (action eval))
    (id : SessionId) :
    AnswersFor eval (some id) (World.inSession id action) :=
  fun held => leads_inSession (fun _ balanced _ => balanced) <|
    leads_to (reports id held) fun _ _ reported => ⟨reported.1, reported.2.world⟩

theorem answers_inSession
    {action : SessionEvaluator → SessionAction (Except Failure α)}
    (reports : Reports (action eval))
    (id : SessionId) :
    Answers eval (World.inSession id action) :=
  (answersFor_inSession reports id).answers

theorem settles_inSession
    {action : SessionEvaluator → SessionAction α}
    (keeps : accounts.Keeps (action eval))
    (id : SessionId) :
    Settles eval (World.inSession id action) :=
  fun _ => leads_inSession (fun _ balanced _ => balanced) <|
    leads_to (leads_of_keeps keeps) fun _ _ holds => holds.world

/-- A failure that is dropped is on its way no more. -/
theorem passes_dropFailure (failure : Failure) :
    Passes eval [failure] (World.dropFailure failure) fun _ => [] := by
  unfold World.dropFailure
  cases scope : failure.scope? with
  | none => exact passes_return fun id => (Failure.scopes_of_none scope id).symm
  | some id =>
      intro held
      apply leads_inSession
      · intro world balanced missing
        -- A session that does not exist counts nothing, but this failure would count for it.
        have none := balanced.scopes_of_missing missing
        rw [Failure.scopes_of_scope scope] at none
        omega
      · exact leads_to (leads_dropFailure scope) fun _ _ holds => holds.world

/-! ## Commands -/

/-- What changes neither sessions nor the failures that are held or kept. -/
def sameAccounts : Conduct World where
  allows _ before after :=
    after.sessions = before.sessions ∧ after.held = before.held ∧ after.kept = before.kept
  refl _ := ⟨rfl, rfl, rfl⟩
  trans first second :=
    ⟨second.1.trans first.1, second.2.1.trans first.2.1, second.2.2.trans first.2.2⟩
  cut := id

theorem settles_of_same
    {action : WorldAction α}
    (keeps : sameAccounts.Keeps (action.run eval)) :
    Settles eval action := by
  intro held
  constructor
  · intro world after value accounts ran
    have kept := keeps world
    unfold KeepsFrom at kept
    rw [ran] at kept
    obtain ⟨sameSessions, sameHeld, sameKept⟩ := kept
    exact accounts.of_same sameSessions sameHeld sameKept
  · intro world after fault accounts ran
    have kept := keeps world
    unfold KeepsFrom at kept
    rw [ran] at kept
    obtain ⟨sameSessions, sameHeld, sameKept⟩ := kept
    exact accounts.toBalanced.of_same sameSessions sameHeld sameKept

theorem sameAccounts_allowsChanges (id : BufferId) : sameAccounts.AllowsChanges id where
  changed _ _ := ⟨rfl, rfl, rfl⟩
  noted _ _ _ := ⟨rfl, rfl, rfl⟩
  removed _ := ⟨rfl, rfl, rfl⟩

theorem passes_modifyCommands (change : CommandTable → CommandTable) :
    Passes eval transit (World.modifyCommands change) fun _ => transit :=
  passes_alter fun _ => ⟨rfl, rfl, rfl⟩

theorem passes_noteReread (id : BufferId) (invoked : Bool) (answer : Except Failure String) :
    Passes eval transit (World.noteReread id invoked answer) fun _ => transit := by
  unfold World.noteReread
  split
  · exact passes_modifyCommands _
  · exact passes_return fun _ => rfl

theorem leads_readResult
    {asked : Option SessionId}
    {outcome : Except Failure Unit}
    (own : OwnFailure asked outcome)
    (id : BufferId)
    (held : List Failure) :
    Leads (World.Accounts (World.failuresIn outcome) held)
      ((World.readResult id outcome).run eval)
      (fun answer world => OwnFailure asked answer ∧ world.Accounts (World.failuresIn answer) held)
      (fun _ world => world.Balanced []) := by
  cases outcome with
  | error failure => exact leads_pure fun _ accounts => ⟨own.error, accounts⟩
  | ok _ =>
      apply leads_andThen (settles_of_same (keeps_getBuffer id) held)
      intro buffer
      exact leads_pure fun _ accounts => ⟨ownFailure_ok _ _, accounts⟩

theorem leads_getBuffer (id : BufferId) (asked : Option SessionId) (held : List Failure) :
    Leads (fun world => world.boundSession id = asked ∧ world.Accounts [] held)
      ((World.getBuffer id).run eval)
      (fun buffer world =>
        buffer.session = asked ∧ world.boundSession id = asked ∧ world.Accounts [] held)
      (fun _ world => world.Balanced []) := by
  constructor
  · rintro world after buffer ⟨known, accounts⟩ ran
    obtain ⟨rfl, found, -⟩ := World.eq_of_run_getBuffer ran
    refine ⟨?_, known, accounts⟩
    rw [← known, World.boundSession, found]
    rfl
  · rintro world after fault ⟨-, accounts⟩ ran
    exact (settles_of_same (keeps_getBuffer id) held).breaks accounts ran

theorem settles_newBuffer (buffer : CommandBuffer) : Settles eval (World.newBuffer buffer) := by
  apply passes_bind passes_look
  intro world
  exact passes_bind (passes_modifyCommands _) fun _ => settles_return _

section Requests

variable (runs : accounts.Runs eval)

/-! ## Sessions of the host -/

theorem settles_opened (access : InterpAccess) (settings : Settings) (dump : DumpStream) :
    Settles eval (modify fun world : World =>
      { world with sessions := world.sessions.push ⟨.initial, { settings, access, dump }⟩ }) :=
  fun _ => leads_modify fun _ accounts => accounts.opened rfl rfl

theorem settles_install (id : SessionId) : Settles eval (World.install id) := by
  apply passes_bind passes_look
  intro world
  exact passes_bind (passes_alter fun _ => ⟨rfl, rfl, rfl⟩) fun _ => settles_return _

section Scripts

include runs

theorem answers_openSession (access : InterpAccess) (settings : Settings) :
    Answers eval (World.openSession access settings) := by
  unfold World.openSession Settings.validate
  split
  · rename_i failure refused
    split at refused
    · cases refused
    · obtain rfl := Except.error.inj refused
      exact passes_return fun _ => rfl
  · apply passes_bind passes_look
    intro world
    apply passes_bind (settles_opened access settings _)
    intro _
    apply passes_bind
    · exact settles_inSession (accounts_allowsUntouched.allowsWork.keeps_submitted runs _) _
    · intro outcome
      cases outcome with
      | ok _ => exact answers_ok _
      | error message => exact passes_return fun _ => rfl

theorem answers_currentSession : Answers eval World.currentSession := by
  unfold World.currentSession
  apply passes_bind passes_look
  intro world
  split
  · exact answers_ok _
  · apply passes_bind passes_look
    intro world
    apply passes_bind (answers_openSession runs _ _)
    intro outcome
    cases outcome with
    | ok id =>
        have installed : Settles eval (discard <| World.install id) :=
          passes_bind (settles_install id) fun _ => settles_return _
        exact passes_bind installed fun _ => answers_ok id
    | error failure => exact passes_error failure

theorem answers_sessionOf (buffer : CommandBuffer) : Answers eval (World.sessionOf buffer) := by
  unfold World.sessionOf
  split
  · exact answers_ok _
  · exact answers_currentSession runs

/-! ## Submission -/

theorem answersFor_submission (id : BufferId) (session : SessionId) (text : String) :
    AnswersFor eval (some session)
      (do let answer ← World.submitTo id session text; World.keepAnswer id answer) := by
  intro held
  have submitted : AnswersFor eval (some session) (World.submitTo id session text) := by
    intro held
    apply leads_andThen (passes_modifyCommands _ held)
    intro _
    exact answersFor_inSession (reports_evaluate runs text) session held
  apply leads_andThen (submitted held)
  intro answer
  apply leads_given
  intro own
  cases answer with
  | error failure =>
      apply leads_andThen (passes_modifyCommands _ held)
      intro _
      exact leads_pure fun _ accounts => ⟨own.error, accounts⟩
  | ok result =>
      apply leads_andThen (passes_modifyCommands _ held)
      intro _
      exact leads_pure fun _ accounts => ⟨ownFailure_ok _ _, accounts⟩

theorem answersFor_submitSealed (id : BufferId) (buffer : CommandBuffer) :
    AnswersFor eval buffer.session (World.submitSealed id buffer) := by
  unfold World.submitSealed World.sessionOf
  cases buffer.session with
  | some session => exact answersFor_submission runs id session buffer.text
  | none =>
      apply answersFor_none
      apply passes_bind (answers_currentSession runs)
      intro found
      cases found with
      | error failure => exact passes_bind (passes_modifyCommands _) fun _ => passes_error failure
      | ok session => exact (answersFor_submission runs id session buffer.text).answers

theorem answersFor_submitOnce (id : BufferId) (buffer : CommandBuffer) :
    AnswersFor eval buffer.session (World.submitOnce id buffer) :=
  fun held => leads_andThen (passes_modifyCommands _ held) fun _ =>
    answersFor_submitSealed runs id buffer held

theorem leads_evaluateOnce (id : BufferId) (asked : Option SessionId) (held : List Failure) :
    Leads (fun world => world.boundSession id = asked ∧ world.Accounts [] held)
      ((World.evaluateOnce id).run eval)
      (fun result world =>
        OwnFailure asked result ∧ world.Accounts (World.failuresIn result) held)
      (fun _ world => world.Balanced []) := by
  apply leads_andThen (leads_getBuffer id asked held)
  intro buffer
  apply leads_given
  rintro rfl
  refine leads_from (fun _ start => start.2) ?_
  apply leads_andThen (passes_modifyCommands _ held)
  intro _
  split
  · exact leads_pure fun _ accounts => ⟨ownFailure_ok _ _, accounts⟩
  · exact answersFor_submitOnce runs id buffer held

theorem leads_evaluateText (id : BufferId) (asked : Option SessionId) (held : List Failure) :
    Leads (fun world => world.boundSession id = asked ∧ world.Accounts [] held)
      ((World.evaluateText id).run eval)
      (fun result world =>
        OwnFailure asked result ∧ world.Accounts (World.failuresIn result) held)
      (fun _ world => world.Balanced []) := by
  apply leads_andThen (leads_evaluateOnce runs id asked held)
  intro outcome
  apply leads_given
  intro own
  exact leads_readResult own id held

theorem answers_evaluateOnce (id : BufferId) : Answers eval (World.evaluateOnce id) :=
  fun held => leads_of_each fun asked =>
    leads_to (leads_evaluateOnce runs id asked held) fun _ _ both => both.2

theorem answers_evaluateText (id : BufferId) : Answers eval (World.evaluateText id) :=
  fun held => leads_of_each fun asked =>
    leads_to (leads_evaluateText runs id asked held) fun _ _ both => both.2

/-! ## Owners -/

theorem settles_submitUnread (id : BufferId) (session : SessionId) :
    Settles eval (World.submitUnread id session) := by
  apply passes_bind (settles_of_same (keeps_peekBuffer id))
  intro buffer
  apply passes_bind (settles_of_same (keeps_failuresAlive session))
  intro failures
  apply passes_bind (passes_modifyCommands _)
  intro _
  split
  · exact settles_return ()
  · apply passes_bind (answersFor_submitOnce runs id buffer).answers
    intro outcome
    cases outcome with
    | ok _ => exact settles_return ()
    | error failure =>
        apply passes_bind (passes_dropFailure failure)
        intro _
        exact settles_inSession (accounts_recordDeferred failure) session

theorem settles_giveUp (id : BufferId) (buffer : CommandBuffer) :
    Settles eval (World.giveUp id buffer) := by
  unfold World.giveUp
  split
  · apply passes_bind (settles_of_same (keeps_failuresOf buffer))
    intro _
    exact passes_modifyCommands _
  · apply passes_bind (answers_sessionOf runs buffer)
    intro found
    cases found with
    | ok session => exact settles_submitUnread runs id session
    | error failure =>
        exact passes_bind (passes_modifyCommands _) fun _ => passes_dropFailure failure

theorem settles_release (id : BufferId) : Settles eval (World.release id) := by
  apply passes_bind (settles_of_same (keeps_getBuffer id))
  intro buffer
  split
  · exact passes_modifyCommands _
  · apply passes_bind (passes_modifyCommands _)
    intro _
    exact passes_bind (settles_giveUp runs id buffer) fun _ => passes_modifyCommands _

theorem settles_combine (left right : Expression) :
    Settles eval (Expression.combine left right) := by
  have changes := sameAccounts_allowsChanges
  cases left with
  | starter buffer =>
      cases right with
      | starter other =>
          apply passes_bind
          · exact settles_of_same
              ((changes buffer).keeps_absorb (changes other) fun _ _ _ => ⟨rfl, rfl, rfl⟩)
          · intro _
            exact passes_bind (settles_release runs other) fun _ => settles_return _
      | literal text =>
          exact passes_bind (settles_of_same ((changes buffer).keeps_append text)) fun _ =>
            settles_return _
  | literal text =>
      cases right with
      | starter buffer =>
          exact passes_bind (settles_of_same ((changes buffer).keeps_prepend text)) fun _ =>
            settles_return _
      | literal other => exact settles_return _

/-! ## Handles -/

theorem answers_unregisterHandle (handle : CallbackHandle) :
    Answers eval (World.unregisterHandle handle) :=
  answers_inSession (reports_unregister runs handle.name) handle.session

theorem settles_dropHandle (handle : CallbackHandle) :
    Settles eval (World.dropHandle handle) := by
  apply passes_bind (answers_unregisterHandle runs handle)
  intro outcome
  cases outcome with
  | ok _ => exact settles_return ()
  | error failure => exact passes_dropFailure failure

end Scripts

theorem settles_prefixed (word : String) (expression : Expression) :
    Settles eval (Expression.prefixed word expression) := by
  cases expression with
  | starter buffer =>
      have changes := sameAccounts_allowsChanges buffer
      apply passes_bind (settles_of_same (changes.keeps_prepend " "))
      intro _
      exact passes_bind (settles_of_same (changes.keeps_prepend word)) fun _ => settles_return _
  | literal text => exact settles_return _

/-! ## Requests -/

include runs

theorem answers_perform (request : Request) : Answers eval (World.perform request) := by
  have work := accounts_allowsUntouched.allowsWork
  have changes := sameAccounts_allowsChanges
  cases request with
  | openSession access settings => exact answers_openSession runs access settings
  | install session => exact answers_always (settles_install session)
  | currentSession => exact answers_currentSession runs
  | evaluate session script => exact answers_inSession (reports_evaluate runs script) session
  | lastResult session =>
      exact answers_always
        (settles_inSession (keeps_bind keeps_getInterp fun _ => keeps_pure _) session)
  | setResult session value =>
      exact answers_always (settles_inSession (work.scripts.keeps_setResult value) session)
  | takeDeferred session => exact answers_always (settles_inSession accounts_takeDeferred session)
  | takeOutput session => exact answers_always (settles_inSession work.keeps_takeOutput session)
  | setDump session dump =>
      exact answers_always (settles_inSession (work.keeps_setDump dump) session)
  | inError session =>
      exact answers_always
        (settles_inSession (keeps_bind keeps_getState fun _ => keeps_pure _) session)
  | runLoop session => exact answers_always (settles_inSession (work.keeps_runLoop runs) session)
  | newCommand session text suffix => exact answers_always (settles_newBuffer _)
  | append command text =>
      exact answers_always (settles_of_same ((changes command).keeps_append text))
  | prepend command text =>
      exact answers_always (settles_of_same ((changes command).keeps_prepend text))
  | absorb command other =>
      exact answers_always (settles_of_same
        ((changes command).keeps_absorb (changes other) fun _ _ _ => ⟨rfl, rfl, rfl⟩))
  | commandText command => exact answers_always (settles_of_same (keeps_commandText command))
  | isInvoked command =>
      exact answers_always
        (passes_bind (settles_of_same (keeps_getBuffer command)) fun _ => settles_return _)
  | evaluateOnce command => exact answers_evaluateOnce runs command
  | evaluateText command => exact answers_evaluateText runs command
  | share command => exact answers_always (settles_of_same (changes command).keeps_share)
  | release command => exact answers_always (settles_release runs command)
  | combine left right => exact answers_always (settles_combine runs left right)
  | prefixed word expression => exact answers_always (settles_prefixed word expression)
  | unregister session name => exact answers_inSession (reports_unregister runs name) session
  | unregisterHandle handle => exact answers_unregisterHandle runs handle
  | dropHandle handle => exact answers_always (settles_dropHandle runs handle)
  | link session target => exact answers_inSession (reports_link target) session
  | linkScoped session target => exact answers_inSession (reports_linkScoped target) session
  | unlink session target =>
      exact answers_always (settles_inSession (accounts_allowsLinking.keeps_unlink target) session)
  | dropGuard linkGuard =>
      exact answers_always
        (settles_inSession (keeps_dropGuard accounts_allowsLinking.keeps_unlink linkGuard) _)
  | syncToHost session => exact answers_always (settles_inSession work.keeps_syncToHost session)
  | syncToInterpreter session =>
      exact answers_always (settles_inSession work.keeps_syncToInterpreter session)
  | getInt id => exact answers_always (passes_bind passes_look fun _ => settles_return _)
  | setInt id value => exact answers_always (passes_alter fun _ => ⟨rfl, rfl, rfl⟩)
  | getFloat id => exact answers_always (passes_bind passes_look fun _ => settles_return _)
  | setFloat id value => exact answers_always (passes_alter fun _ => ⟨rfl, rfl, rfl⟩)
  | getText id => exact answers_always (passes_bind passes_look fun _ => settles_return _)
  | setText id value => exact answers_always (passes_alter fun _ => ⟨rfl, rfl, rfl⟩)

theorem answers_askCommand (id : BufferId) : Answers eval (World.askCommand id) := by
  apply passes_bind (answers_evaluateOnce runs id)
  intro outcome
  exact passes_bind (passes_modifyCommands _) fun _ => passes_return fun _ => rfl

theorem answers_readCommand (id : BufferId) : Answers eval (World.readCommand id) := by
  apply passes_bind (settles_of_same (keeps_getBuffer id))
  intro buffer
  apply passes_bind (answers_evaluateText runs id)
  intro answer
  apply passes_bind (passes_modifyCommands _)
  intro _
  exact passes_bind (passes_noteReread id _ answer) fun _ => passes_return fun _ => rfl

theorem settles_leaveCommand (id : BufferId) : Settles eval (World.leaveCommand id) := by
  apply passes_bind (settles_of_same (keeps_getBuffer id))
  intro buffer
  apply passes_bind (settles_of_same (keeps_failuresOf buffer))
  intro failures
  apply passes_bind (settles_release runs id)
  intro _
  exact settles_of_same ((sameAccounts_allowsChanges id).keeps_noteReleased buffer failures)

/-- What is noted of guards and commands stands in no account. -/
theorem answers_answer (request : Request) : Answers eval (World.answer request) := by
  have unlinks := accounts_allowsLinking.keeps_unlink
  have performed := answers_perform runs request
  cases request with
  | commandText command =>
      exact answers_always
        (settles_of_same (sameAccounts_allowsChanges command).keeps_lookAtCommand)
  | evaluateOnce command => exact answers_askCommand runs command
  | evaluateText command => exact answers_readCommand runs command
  | release command => exact answers_always (settles_leaveCommand runs command)
  | linkScoped session target => exact answers_inSession (reports_makeGuard target) session
  | unlink session target =>
      exact answers_always (settles_inSession (accounts_noting (unlinks target) _) session)
  | dropGuard linkGuard =>
      exact answers_always
        (settles_inSession (accounts_noting (keeps_dropGuard unlinks linkGuard) _) _)
  | _ => exact performed

/-- The failure of a request that a certain session answers is one of that session. -/
theorem leads_perform (request : Request) (asked : Option SessionId) (held : List Failure) :
    Leads (fun world => world.recipient? request = asked ∧ world.Accounts [] held)
      ((World.perform request).run eval)
      (fun result world =>
        OwnFailure asked result ∧ world.Accounts (World.failuresIn result) held)
      (fun _ world => world.Balanced []) := by
  have directed {session : Option SessionId}
      (same : ∀ world : World, world.recipient? request = session)
      (answers : AnswersFor eval session (World.perform request)) :
      Leads (fun world => world.recipient? request = asked ∧ world.Accounts [] held)
        ((World.perform request).run eval)
        (fun result world =>
          OwnFailure asked result ∧ world.Accounts (World.failuresIn result) held)
        (fun _ world => world.Balanced []) := by
    have here : ∀ world : World, world.recipient? request = asked ∧ world.Accounts [] held →
        session = asked ∧ world.Accounts [] held :=
      fun world start => ⟨(same world).symm.trans start.1, start.2⟩
    refine leads_from here (leads_given ?_)
    rintro rfl
    exact answers held
  cases request with
  | evaluate session script =>
      exact directed (fun _ => rfl) (answersFor_inSession (reports_evaluate runs script) session)
  | unregister session name =>
      exact directed (fun _ => rfl) (answersFor_inSession (reports_unregister runs name) session)
  | unregisterHandle handle =>
      exact directed (fun _ => rfl)
        (answersFor_inSession (reports_unregister runs handle.name) handle.session)
  | link session target =>
      exact directed (fun _ => rfl) (answersFor_inSession (reports_link target) session)
  | linkScoped session target =>
      exact directed (fun _ => rfl) (answersFor_inSession (reports_linkScoped target) session)
  | evaluateOnce command => exact leads_evaluateOnce runs command asked held
  | evaluateText command => exact leads_evaluateText runs command asked held
  | _ => exact directed (fun _ => rfl) (answersFor_none (answers_perform runs _))

end Requests

end Conduct

end ScriptBridge
