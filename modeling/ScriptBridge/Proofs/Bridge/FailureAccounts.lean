import Mathlib.Data.List.Perm.Basic
import ScriptBridge.Proofs.Bridge.Programs

/-!
# The accounts of failures

A session counts the failures it has reported that are still alive. They are in the hands of
programs at work, or the host keeps them, and for a moment one is on its way between them. What a
session does moves failures from the one place to the other, and the count with them.
-/

namespace ScriptBridge

/-! ## Counting failures -/

/-- How many of some failures keep a session in error. -/
def Failure.scopes (id : SessionId) (failures : List Failure) : Nat :=
  failures.countP fun failure => failure.scope? = some id

namespace Failure

variable {id : SessionId} {failure : Failure}

@[simp]
theorem scopes_nil (id : SessionId) : scopes id [] = 0 :=
  rfl

@[simp]
theorem scopes_append (id : SessionId) (first second : List Failure) :
    scopes id (first ++ second) = scopes id first + scopes id second :=
  List.countP_append

theorem scopes_perm {first second : List Failure} (same : first.Perm second) :
    scopes id first = scopes id second :=
  same.countP_eq _

theorem scopes_of_scope (own : failure.scope? = some id) : scopes id [failure] = 1 := by
  rw [scopes, List.countP_singleton, if_pos (decide_eq_true own)]

theorem scopes_of_ne (elsewhere : failure.scope? ≠ some id) : scopes id [failure] = 0 := by
  rw [scopes, List.countP_singleton, if_neg (fun same => elsewhere (of_decide_eq_true same))]

/-- A failure without a session is on no account. -/
theorem scopes_of_none (unscoped : failure.scope? = none) (id : SessionId) :
    scopes id [failure] = 0 := by
  apply scopes_of_ne
  rw [unscoped]
  exact nofun

theorem scope_detached (failure : Failure) : failure.detached.scope? = none := by
  cases failure <;> rfl

/-! ## Lists of failures -/

variable {alive : List Failure} {index : Nat}

/-- What stands at a place of a list may be taken out of it, if anything does. -/
theorem perm_taken (alive : List Failure) (index : Nat) :
    alive.Perm (alive[index]?.toList ++ alive.eraseIdx index) := by
  by_cases inside : index < alive.length
  · rw [List.getElem?_eq_getElem inside]
    exact (List.getElem_cons_eraseIdx_perm inside).symm
  · have outside := Nat.le_of_not_lt inside
    rw [List.getElem?_eq_none outside, List.eraseIdx_of_length_le outside]
    exact .rfl

theorem perm_taken_of_some (there : alive[index]? = some failure) (others : List Failure) :
    (alive ++ others).Perm (failure :: (alive.eraseIdx index ++ others)) := by
  have taken := perm_taken alive index
  rw [there] at taken
  exact taken.append_right others

theorem perm_exchanged
    (there : alive[index]? = some failure)
    (other : Failure)
    (others : List Failure) :
    (other :: (alive.eraseIdx index ++ others)).Perm (alive.set index other ++ others) := by
  obtain ⟨inside, -⟩ := List.getElem?_eq_some_iff.mp there
  exact (List.set_perm_cons_eraseIdx inside other).symm.append_right others

theorem perm_received (received alive others : List Failure) :
    (received ++ (alive ++ others)).Perm (alive ++ received ++ others) := by
  rw [List.append_assoc]
  exact List.perm_append_comm_assoc received alive others

end Failure

/-! ## Worlds in balance -/

/-- What a session remembers of a command that nobody read keeps no session in error. -/
def OpenSession.RemembersDetached (session : OpenSession) : Prop :=
  ∀ failure, session.state.deferred = some failure → failure.scope? = none

namespace World

/-- How many failures a session counts as alive. -/
def failureCount (world : World) (id : SessionId) : Nat :=
  (world.sessions[id]?.map (·.state.failuresAlive)).getD 0

/-- Every session counts the failures that are in somebody's hands, kept, or on their way. The ones
that sessions remember are none of them. -/
structure Balanced (transit : List Failure) (world : World) : Prop where
  counted : ∀ id, world.failureCount id =
    Failure.scopes id transit + Failure.scopes id (world.held ++ world.kept)
  deferred : world.Every OpenSession.RemembersDetached

/-- A world in balance where certain failures are in the hands of programs. -/
structure Accounts (transit held : List Failure) (world : World) : Prop
    extends world.Balanced transit where
  inHands : world.held.Perm held

variable {world : World} {transit held : List Failure}

theorem Balanced.of_same
    {other : World}
    (balanced : world.Balanced transit)
    (sameSessions : other.sessions = world.sessions)
    (sameHeld : other.held = world.held)
    (sameKept : other.kept = world.kept) :
    other.Balanced transit where
  counted id := by
    rw [failureCount, sameSessions, sameHeld, sameKept]
    exact balanced.counted id
  deferred := by
    unfold Every
    rw [sameSessions]
    exact balanced.deferred

/-- Only the sessions of failures matter where they are on their way. -/
theorem Balanced.on_their_way
    {later : List Failure}
    (balanced : world.Balanced transit)
    (same : ∀ id, Failure.scopes id later = Failure.scopes id transit) :
    world.Balanced later where
  counted id := by
    rw [same]
    exact balanced.counted id
  deferred := balanced.deferred

theorem Accounts.of_perm
    {other : List Failure}
    (accounts : world.Accounts transit held)
    (same : held.Perm other) :
    world.Accounts transit other :=
  { accounts with inHands := accounts.inHands.trans same }

theorem Accounts.on_their_way
    {later : List Failure}
    (accounts : world.Accounts transit held)
    (same : ∀ id, Failure.scopes id later = Failure.scopes id transit) :
    world.Accounts later held :=
  { accounts.toBalanced.on_their_way same with inHands := accounts.inHands }

theorem Accounts.of_same
    {other : World}
    (accounts : world.Accounts transit held)
    (sameSessions : other.sessions = world.sessions)
    (sameHeld : other.held = world.held)
    (sameKept : other.kept = world.kept) :
    other.Accounts transit held :=
  { accounts.toBalanced.of_same sameSessions sameHeld sameKept with
    inHands := sameHeld ▸ accounts.inHands }

/-- No failure is of a session that does not exist. -/
theorem Balanced.scopes_of_missing
    {id : SessionId}
    (balanced : world.Balanced transit)
    (missing : world.sessions[id]? = none) :
    Failure.scopes id transit + Failure.scopes id (world.held ++ world.kept) = 0 := by
  rw [← balanced.counted id, failureCount, missing]
  rfl

theorem Accounts.opened
    {session : OpenSession}
    (accounts : world.Accounts transit held)
    (noFailures : session.state.failuresAlive = 0)
    (nothingDeferred : session.state.deferred = none) :
    Accounts transit held { world with sessions := world.sessions.push session } where
  counted id := by
    have counted := accounts.counted id
    rw [failureCount] at counted ⊢
    rw [Array.getElem?_push]
    split
    · rename_i last
      rw [last, Array.getElem?_eq_none Nat.le.refl] at counted
      rw [last, Option.map_some, Option.getD_some, noFailures]
      exact counted
    · exact counted
  deferred := by
    have fits : session.RemembersDetached := by
      rw [OpenSession.RemembersDetached, nothingDeferred]
      exact nofun
    have kept : (Conduct.everySession OpenSession.RemembersDetached).allows true world _ :=
      Conduct.everySession_opened world fits
    exact kept accounts.deferred
  inHands := accounts.inHands

theorem accounts_opened
    (environment : Settings.Environment)
    (sessions : List (InterpAccess × Settings)) :
    (opened environment sessions).Accounts [] [] where
  counted id := by
    rw [failureCount, opened, List.getElem?_toArray, List.getElem?_map]
    cases sessions[id]? <;> rfl
  deferred id session found := by
    rw [opened, List.getElem?_toArray, List.getElem?_map] at found
    obtain ⟨entry, -, rfl⟩ := Option.map_eq_some_iff.mp found
    exact nofun
  inHands := .rfl

/-! ## Hands -/

/-- Failures may move between where they are held, where they are kept and their way. -/
theorem Balanced.moved
    {later held kept : List Failure}
    (balanced : world.Balanced transit)
    (same : (transit ++ (world.held ++ world.kept)).Perm (later ++ (held ++ kept))) :
    Balanced later { world with held, kept } where
  counted id := by
    have counted := balanced.counted id
    rw [← Failure.scopes_append] at counted ⊢
    exact counted.trans (Failure.scopes_perm same)
  deferred := balanced.deferred

theorem Accounts.received
    {failures : List Failure}
    (accounts : world.Accounts failures held) :
    Accounts [] (failures ++ held) { world with held := failures ++ world.held } where
  toBalanced := by
    apply accounts.toBalanced.moved
    rw [List.nil_append, List.append_assoc]
  inHands := accounts.inHands.append_left failures

theorem Accounts.let_go
    {failure : Failure}
    (accounts : world.Accounts [] (failure :: held)) :
    Accounts [failure] held { world with held := world.held.erase failure } where
  toBalanced := by
    apply accounts.toBalanced.moved
    have member : failure ∈ world.held :=
      accounts.inHands.mem_iff.mpr List.mem_cons_self
    exact (List.perm_cons_erase member).append_right world.kept
  inHands := by
    have erased := accounts.inHands.erase failure
    rwa [List.erase_cons_head] at erased

theorem Accounts.left_to_host
    {failure : Failure}
    (accounts : world.Accounts [failure] held) :
    Accounts [] held { world with kept := world.kept ++ [failure] } where
  toBalanced := by
    apply accounts.toBalanced.moved
    rw [List.nil_append, ← List.append_assoc world.held]
    exact List.perm_append_comm
  inHands := accounts.inHands

theorem Accounts.taken
    (accounts : world.Accounts [] held)
    (index : Nat) :
    Accounts world.kept[index]?.toList held
      { world with kept := world.kept.eraseIdx index } where
  toBalanced := by
    apply accounts.toBalanced.moved
    exact ((Failure.perm_taken world.kept index).append_left world.held).trans
      (List.perm_append_comm_assoc _ _ _)
  inHands := accounts.inHands

end World

/-! ## Sessions at work -/

/-- The session at work has a place among the others. -/
def HostState.Seated (host : HostState) : Prop :=
  host.running < host.sessions.size

section Worked

variable {before after : SessionMachine} {transit later : List Failure}

theorem failureCount_ofMachine {machine : SessionMachine} (seated : machine.host.Seated) :
    (World.ofMachine machine).failureCount machine.host.running =
      machine.host.session.failuresAlive := by
  show ((machine.host.sessions.setIfInBounds machine.host.running
    ⟨machine.interp, machine.host.session⟩)[machine.host.running]?.map
      (·.state.failuresAlive)).getD 0 = _
  rw [Array.getElem?_setIfInBounds_self_of_lt seated]
  rfl

theorem failureCount_ofMachine_of_ne
    {machine : SessionMachine}
    {id : SessionId}
    (other : machine.host.running ≠ id) :
    (World.ofMachine machine).failureCount id =
      (machine.host.sessions[id]?.map (·.state.failuresAlive)).getD 0 := by
  show ((machine.host.sessions.setIfInBounds machine.host.running
    ⟨machine.interp, machine.host.session⟩)[id]?.map (·.state.failuresAlive)).getD 0 = _
  rw [Array.getElem?_setIfInBounds_ne other]

/-- Balance stays where the session at work books a failure on its way as one that it counts, or the
other way round. -/
theorem balanced_worked
    (balanced : (World.ofMachine before).Balanced transit)
    (seated : before.host.Seated)
    (sameRunning : after.host.running = before.host.running)
    (sameShared : after.host.sessions = before.host.sessions ∧
      after.host.held = before.host.held ∧ after.host.kept = before.host.kept)
    (own : after.host.session.failuresAlive + Failure.scopes before.host.running transit =
      before.host.session.failuresAlive + Failure.scopes before.host.running later)
    (others : ∀ id, id ≠ before.host.running →
      Failure.scopes id later = Failure.scopes id transit)
    (deferred : ∀ failure, after.host.session.deferred = some failure →
      before.host.session.deferred = some failure ∨ failure.scope? = none) :
    (World.ofMachine after).Balanced later := by
  obtain ⟨sameSessions, sameHeld, sameKept⟩ := sameShared
  have seatedAfter : after.host.Seated := by
    rw [HostState.Seated, sameRunning, sameSessions]
    exact seated
  have booked : ∀ machine : SessionMachine,
      (World.ofMachine machine).held ++ (World.ofMachine machine).kept =
        machine.host.held ++ machine.host.kept := fun _ => rfl
  constructor
  · intro id
    have counted := balanced.counted id
    rw [booked] at counted ⊢
    rw [sameHeld, sameKept]
    -- Only the place of the session at work is not the one in the table of sessions.
    by_cases here : id = before.host.running
    · subst here
      rw [failureCount_ofMachine seated] at counted
      rw [← sameRunning, failureCount_ofMachine seatedAfter, sameRunning]
      omega
    · have elsewhere : before.host.running ≠ id := fun same => here same.symm
      rw [failureCount_ofMachine_of_ne elsewhere] at counted
      rw [failureCount_ofMachine_of_ne (by rwa [sameRunning]), sameSessions, others id here]
      exact counted
  · have own : OpenSession.RemembersDetached ⟨before.interp, before.host.session⟩ →
        OpenSession.RemembersDetached ⟨after.interp, after.host.session⟩ := by
      intro remembers failure remembered
      rcases deferred failure remembered with earlier | none
      · exact remembers failure earlier
      · exact none
    have kept :
        (Conduct.everySession OpenSession.RemembersDetached).atWork.allows true before after :=
      Conduct.everySession_atWork sameRunning sameSessions own
    exact kept.2 balanced.deferred

end Worked

namespace Session

/-- The accounts of a world where a certain session is at work. -/
structure Accounts (id : SessionId) (transit held : List Failure) (machine : SessionMachine) :
    Prop where
  running : machine.host.running = id
  seated : machine.host.Seated
  world : (World.ofMachine machine).Accounts transit held

/-- How a session leaves the accounts when it breaks off: in balance, and unless it was cut short
with the same failures in the hands of programs. -/
structure Broken (held : List Failure) (interruption : Interruption) (machine : SessionMachine) :
    Prop where
  seated : machine.host.Seated
  balanced : (World.ofMachine machine).Balanced []
  inHands : Ending.finished interruption = true → machine.host.held.Perm held

end Session

namespace Conduct

/-- What sessions at work do with accounts in balance: they leave them so. -/
def accounts : Conduct SessionMachine where
  allows finished before after :=
    before.host.Seated → (World.ofMachine before).Balanced [] →
      after.host.running = before.host.running ∧ after.host.Seated ∧
        (World.ofMachine after).Balanced [] ∧
          (finished = true → after.host.held.Perm before.host.held)
  refl _ seated balanced := ⟨rfl, seated, balanced, fun _ => .rfl⟩
  trans first second := by
    intro seated balanced
    obtain ⟨runningMiddle, seatedMiddle, balancedMiddle, sameFirst⟩ := first seated balanced
    obtain ⟨runningAfter, seatedAfter, balancedAfter, sameSecond⟩ :=
      second seatedMiddle balancedMiddle
    refine ⟨runningAfter.trans runningMiddle, seatedAfter, balancedAfter, ?_⟩
    intro finished
    obtain ⟨finishedFirst, finishedSecond⟩ := Bool.and_eq_true_iff.mp finished
    exact (sameSecond finishedSecond).trans (sameFirst finishedFirst)
  cut allowed := by
    intro seated balanced
    obtain ⟨sameRunning, seatedAfter, balancedAfter, -⟩ := allowed seated balanced
    exact ⟨sameRunning, seatedAfter, balancedAfter, nofun⟩

section Accounts

variable {α : Type} {id : SessionId} {held : List Failure} {eval : SessionEvaluator}

/-- A session at work keeps the accounts in balance where it changes neither its failures nor what
sessions share. -/
theorem accounts_of_same
    {before after : SessionMachine}
    (sameRunning : after.host.running = before.host.running)
    (sameShared : after.host.sessions = before.host.sessions ∧
      after.host.held = before.host.held ∧ after.host.kept = before.host.kept)
    (sameCount : after.host.session.failuresAlive = before.host.session.failuresAlive)
    (deferred : ∀ failure, after.host.session.deferred = some failure →
      before.host.session.deferred = some failure ∨ failure.scope? = none) :
    accounts.allows true before after := by
  intro seated balanced
  refine ⟨sameRunning, ?_, ?_, ?_⟩
  · rw [HostState.Seated, sameRunning, sameShared.1]
    exact seated
  · exact balanced_worked balanced seated sameRunning sameShared (by rw [sameCount])
      (fun _ _ => rfl) deferred
  · intro _
    rw [sameShared.2.1]

theorem accounts_allowsUntouched : accounts.AllowsUntouched := by
  intro before after untouched
  refine accounts_of_same untouched.running ?_ ?_ ?_
  · rw [untouched.shared]
    exact ⟨rfl, rfl, rfl⟩
  · rw [untouched.state]
  · intro failure remembered
    rw [untouched.state] at remembered
    exact .inl remembered

theorem accounts_allowsNesting : accounts.AllowsNesting :=
  allowsNesting_of_indifferent
    (fun _ _ => accounts_of_same rfl ⟨rfl, rfl, rfl⟩ rfl fun _ => .inl)
    fun _ _ => accounts_of_same rfl ⟨rfl, rfl, rfl⟩ rfl fun _ => .inl

theorem leads_of_keeps
    {action : SessionAction α}
    (keeps : accounts.Keeps action) :
    Leads (Session.Accounts id [] held) action (fun _ => Session.Accounts id [] held)
      (Session.Broken held) := by
  constructor
  · intro start machine value holds ran
    have kept := keeps start
    unfold KeepsFrom at kept
    rw [ran] at kept
    obtain ⟨running, seated, balanced, same⟩ := kept holds.seated holds.world.toBalanced
    exact ⟨running.trans holds.running, seated, balanced, (same rfl).trans holds.world.inHands⟩
  · intro start machine interruption holds ran
    have kept := keeps start
    unfold KeepsFrom at kept
    rw [ran] at kept
    obtain ⟨-, seated, balanced, same⟩ := kept holds.seated holds.world.toBalanced
    exact ⟨seated, balanced, fun finished => (same finished).trans holds.world.inHands⟩

/-! ## What sessions report -/

/-- If a result is a failure, it keeps the session in error that was to answer, if a certain one
was. -/
def OwnFailure (asked : Option SessionId) (result : Except Failure α) : Prop :=
  ∀ failure id, result = .error failure → asked = some id → failure.scope? = some id

theorem ownFailure_ok (asked : Option SessionId) (value : α) : OwnFailure asked (.ok value) :=
  nofun

theorem ownFailure_none (result : Except Failure α) : OwnFailure none result :=
  nofun

theorem ownFailure_of_scope {failure : Failure} (own : failure.scope? = some id) :
    OwnFailure (some id) (.error failure : Except Failure α) := by
  rintro reported other same sameSession
  obtain rfl := Except.error.inj same
  rw [← sameSession]
  exact own

theorem OwnFailure.error
    {β : Type}
    {asked : Option SessionId}
    {failure : Failure}
    (own : OwnFailure asked (.error failure : Except Failure α)) :
    OwnFailure asked (.error failure : Except Failure β) := by
  intro reported id same
  obtain rfl := Except.error.inj same
  exact own failure id rfl

theorem leads_raise (message : String) :
    Leads (Session.Accounts id [] held) (Session.raise message)
      (fun failure machine =>
        failure.scope? = some id ∧ Session.Accounts id [failure] held machine)
      (Session.Broken held) := by
  apply leads_of_run
  rintro machine ⟨rfl, seated, world⟩
  refine ⟨_, _, rfl, rfl, rfl, seated, ?_, world.inHands⟩
  refine balanced_worked world.toBalanced seated rfl ⟨rfl, rfl, rfl⟩ ?_ ?_ ?_
  · rw [Failure.scopes_nil, Failure.scopes_of_scope rfl]
  · intro id other
    rw [Failure.scopes_nil]
    exact Failure.scopes_of_ne fun same => other (Option.some.inj same).symm
  · intro failure remembered
    exact .inl remembered

/-- A failure on its way may be dropped in the session that counts it. -/
theorem leads_dropFailure {failure : Failure} (own : failure.scope? = some id) :
    Leads (Session.Accounts id [failure] held) (Session.dropFailure failure)
      (fun _ => Session.Accounts id [] held) (Session.Broken held) := by
  apply leads_of_run
  rintro machine ⟨rfl, seated, world⟩
  have counted := world.counted machine.host.running
  rw [failureCount_ofMachine seated, Failure.scopes_of_scope own] at counted
  refine ⟨_, _, Session.run_dropFailure own, rfl, seated, ?_, world.inHands⟩
  refine balanced_worked world.toBalanced seated rfl ⟨rfl, rfl, rfl⟩ ?_ ?_ ?_
  · rw [Failure.scopes_of_scope own, Failure.scopes_nil]
    exact Nat.sub_add_cancel (by omega)
  · intro id other
    rw [Failure.scopes_nil, Failure.scopes_of_ne]
    rw [own]
    exact fun same => other (Option.some.inj same).symm
  · intro failure remembered
    exact .inl remembered

/-- Some work that changes no accounts ends with a failure of the session on its way, if with
any. -/
def Reports (action : SessionAction (Except Failure α)) : Prop :=
  ∀ id held, Leads (Session.Accounts id [] held) action
    (fun result machine =>
      OwnFailure (some id) result ∧ Session.Accounts id (World.failuresIn result) held machine)
    (Session.Broken held)

theorem reports_value (value : α) : Reports (pure (.ok value)) :=
  fun _ _ => leads_pure fun _ holds => ⟨ownFailure_ok _ _, holds⟩

theorem reports_raised (message : String) :
    Reports (do return .error (← Session.raise message) : SessionAction (Except Failure α)) := by
  intro id held
  apply leads_bind (leads_raise message)
  intro failure
  exact leads_pure fun _ raised => ⟨ownFailure_of_scope raised.1, raised.2⟩

theorem reports_bind
    {β : Type}
    {action : SessionAction β}
    {next : β → SessionAction (Except Failure α)}
    (first : accounts.Keeps action)
    (second : ∀ value, Reports (next value)) :
    Reports (action >>= next) :=
  fun id held => leads_bind (leads_of_keeps first) fun value => second value id held

theorem accounts_allowsLinking : accounts.AllowsLinking where
  stores _ := accounts_of_same rfl ⟨rfl, rfl, rfl⟩ rfl fun _ => .inl
  names _ _ := accounts_of_same rfl ⟨rfl, rfl, rfl⟩ rfl fun _ => .inl

theorem reports_register
    (callback : Callback)
    (release : eval.release = freeSlot) :
    Reports (Session.register eval callback) := by
  unfold Session.register
  apply reports_bind (accounts_allowsUntouched.keeps_takeSlot callback)
  intro slot
  apply reports_bind keeps_getState
  intro session
  apply reports_bind (accounts_allowsUntouched.keeps_createCommand release _ slot)
  intro outcome
  split
  · exact reports_value _
  · apply reports_bind
      (keeps_modify fun machine => accounts_allowsUntouched.allowsWork.freed machine slot)
    intro _
    exact reports_raised _

theorem reports_link (target : HostVariable) : Reports (Session.link target) := by
  unfold Session.link
  apply reports_bind keeps_getState
  intro session
  split
  · exact reports_value _
  · apply reports_bind accounts_allowsLinking.keeps_nextVariableName
    intro name
    apply reports_bind (keeps_linkOf target)
    intro link
    apply reports_bind (accounts_allowsLinking.keeps_linkName name link)
    intro outcome
    split
    · exact reports_bind (accounts_allowsLinking.keeps_changeLinks _) fun _ => reports_value _
    · exact reports_raised _

theorem reports_linkScoped (target : HostVariable) : Reports (Session.linkScoped target) := by
  unfold Session.linkScoped
  apply reports_bind keeps_get
  intro machine id held
  apply leads_bind (reports_link target id held)
  intro outcome
  cases outcome with
  | ok name => exact leads_pure fun _ reported => ⟨ownFailure_ok _ _, reported.2⟩
  | error failure =>
      exact leads_pure fun _ reported => ⟨reported.1.error, reported.2⟩

theorem accounts_noting
    {action : SessionAction α}
    (keeps : accounts.Keeps action)
    (events : α → List GuardEvent) :
    accounts.Keeps (Session.noting action events) :=
  keeps_noting (fun machine _ => accounts_allowsLinking.names machine _) keeps events

theorem reports_makeGuard (target : HostVariable) : Reports (Session.makeGuard target) := by
  intro id held
  apply leads_bind (reports_linkScoped target id held)
  intro outcome
  cases outcome with
  | ok linkGuard =>
      apply leads_from (fun _ reported => reported.2)
      apply leads_bind (leads_of_keeps (accounts_allowsLinking.keeps_changeLinks _))
      intro _
      exact leads_pure fun _ holds => ⟨ownFailure_ok _ _, holds⟩
  | error failure => exact leads_of_run fun machine reported => ⟨_, _, rfl, reported⟩

section Scripts

variable (runs : accounts.Runs eval)

include runs

theorem reports_evaluate (script : String) : Reports (Session.evaluate eval script) := by
  have work := accounts_allowsUntouched.allowsWork
  unfold Session.evaluate
  apply reports_bind (work.keeps_dump script)
  intro _
  apply reports_bind keeps_getState
  intro session
  split
  · apply reports_bind (work.keeps_submitted runs script)
    intro outcome
    split
    · exact reports_bind keeps_getInterp fun _ => reports_value _
    · exact reports_raised _
  · exact reports_bind (work.scripts.keeps_setResult "") fun _ => reports_value _

theorem reports_unregister (name : String) : Reports (Session.unregister eval name) := by
  have work := accounts_allowsUntouched.allowsWork
  unfold Session.unregister
  apply reports_bind keeps_getState
  intro session
  split
  · exact reports_value _
  · rename_i slot _
    split
    · apply reports_bind (keeps_modify fun machine => work.freed machine slot)
      intro _
      apply reports_bind (work.keeps_deleteCommand runs name)
      intro outcome
      split
      · exact reports_value _
      · exact reports_raised _
    · exact reports_value _

end Scripts

/-! ## What sessions remember -/

theorem accounts_recordDeferred (failure : Failure) :
    accounts.Keeps (Session.recordDeferred failure) := by
  apply keeps_modify
  intro machine
  refine accounts_of_same rfl ⟨rfl, rfl, rfl⟩ rfl ?_
  intro remembered same
  obtain rfl := Option.some.inj same
  exact .inr failure.scope_detached

theorem accounts_takeDeferred : accounts.Keeps Session.takeDeferred := by
  apply keeps_bind keeps_getState
  intro session
  apply keeps_bind
  · exact keeps_modify fun machine => accounts_of_same rfl ⟨rfl, rfl, rfl⟩ rfl nofun
  · intro _
    exact keeps_pure _

end Accounts

end Conduct

end ScriptBridge
