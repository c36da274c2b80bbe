import ScriptBridge.Proofs.Bridge.Guards

/-!
# Guards and the present links of their variables

A guard that is dropped ends the link that its variable has at that time, if the guard has made a
link once. Whether that is still the link of the guard depends on what has happened since: the host
may have ended that link and linked the variable anew, and then the drop takes out the new link.
-/

namespace ScriptBridge

/-! ## Histories -/

/-- The event ends the link of a variable, if the variable is linked then. -/
def GuardEvent.Ends (target : HostVariable) : GuardEvent → Prop
  | .made _ => False
  | .dropped linkGuard => linkGuard.owned = true ∧ linkGuard.target = target
  | .unlinked other => other = target

instance (target : HostVariable) (event : GuardEvent) : Decidable (event.Ends target) :=
  match event with
  | .made _ => isFalse id
  | .dropped linkGuard =>
      inferInstanceAs (Decidable (linkGuard.owned = true ∧ linkGuard.target = target))
  | .unlinked other => inferInstanceAs (Decidable (other = target))

/-- Since a guard was made, nothing has ended the link of its variable. The latest event comes
first. -/
def LinkGuard.Lasts (linkGuard : LinkGuard) : List GuardEvent → Prop
  | [] => False
  | event :: earlier =>
      event = .made linkGuard ∨ ¬event.Ends linkGuard.target ∧ linkGuard.Lasts earlier

/-! ## Tables and guards -/

/-- The guards that have been made fit the linked variables of a session. -/
structure Remembered (settings : Settings) (table : LinkTable) : Prop where
  generated : ∀ {linkGuard : LinkGuard}, .made linkGuard ∈ table.history →
    ∃ number < table.nextId, linkGuard.name = settings.variableName number
  /-- The variable of a guard has the name of the guard as long as nothing ends that link, and never
  again afterwards. -/
  lasting : ∀ {linkGuard : LinkGuard}, .made linkGuard ∈ table.history →
    (table.name? linkGuard.target = some linkGuard.name ↔ linkGuard.Lasts table.history)

namespace Remembered

variable {settings : Settings} {table after : LinkTable} {target : HostVariable}
  {linkGuard : LinkGuard}

theorem initial (settings : Settings) : Remembered settings {} where
  generated made := nomatch made
  lasting made := nomatch made

variable (remembered : Remembered settings table)

include remembered

/-- The next number is passed over. -/
theorem passed : Remembered settings { table with nextId := table.nextId + 1 } where
  generated made := by
    obtain ⟨number, below, named⟩ := remembered.generated made
    exact ⟨number, Nat.lt_succ_of_lt below, named⟩
  lasting := remembered.lasting

/-- A variable is linked under the next name, which no guard has had. -/
theorem inserted (unlinked : table.name? target = none) :
    Remembered settings
      (LinkTable.insert { table with nextId := table.nextId + 1 }
        (settings.variableName table.nextId) target) := by
  constructor
  · rw [LinkTable.history_insert, LinkTable.nextId_insert]
    exact remembered.passed.generated
  · rw [LinkTable.history_insert]
    intro linkGuard made
    have earlier := remembered.lasting made
    rw [LinkTable.name?_insert, ← earlier]
    by_cases isTarget : target = linkGuard.target
    · obtain ⟨number, below, named⟩ := remembered.generated made
      have differs : settings.variableName table.nextId ≠ linkGuard.name := by
        rw [named, ne_eq, Settings.variableName_inj]
        omega
      rw [if_pos isTarget, ← isTarget, unlinked]
      simp [differs]
    · rw [if_neg isTarget]
      rfl

/-- A guard is made of a variable that is linked under the name of the guard. -/
theorem made
    (number : ∃ number < table.nextId, linkGuard.name = settings.variableName number)
    (linked : table.name? linkGuard.target = some linkGuard.name) :
    Remembered settings { table with history := .made linkGuard :: table.history } := by
  constructor
  · intro other made
    rcases List.mem_cons.mp made with same | made
    · cases same
      exact number
    · exact remembered.generated made
  · intro other made
    by_cases same : other = linkGuard
    · subst same
      exact ⟨fun _ => .inl rfl, fun _ => linked⟩
    · have differs : GuardEvent.made linkGuard ≠ .made other := by
        simpa using Ne.symm same
      have madeEarlier : .made other ∈ table.history := by
        simpa [same] using made
      have earlier := remembered.lasting madeEarlier
      simp only [LinkGuard.Lasts, differs, GuardEvent.Ends, not_false_eq_true, false_or, true_and]
      exact earlier

/-- Something has happened that may end links, and has ended those that it may end. -/
theorem ended
    {event : GuardEvent}
    (notMade : ∀ other, event ≠ .made other)
    (sameNext : after.nextId = table.nextId)
    (history : after.history = event :: table.history)
    (names : ∀ other, after.name? other =
      if event.Ends other then none else table.name? other) :
    Remembered settings after := by
  have earlier {other : LinkGuard} (made : .made other ∈ after.history) :
      .made other ∈ table.history := by
    rw [history] at made
    exact (List.mem_cons.mp made).resolve_left fun same => notMade other same.symm
  constructor
  · intro other made
    rw [sameNext]
    exact remembered.generated (earlier made)
  · intro other made
    have before := remembered.lasting (earlier made)
    rw [history, names]
    simp only [LinkGuard.Lasts, notMade other, false_or]
    by_cases ends : event.Ends other.target
    · simp [ends]
    · simp [ends, before]

end Remembered

/-! ## Ends of links -/

namespace Session

/-- A variable of which the link has ended, if there was one, is not linked afterwards. -/
theorem run_unlink_names (machine : SessionMachine) (target : HostVariable) :
    ∃ after,
      (unlink target).run.run machine = (.ok (), after) ∧
      after.host.sessions = machine.host.sessions ∧
      after.host.session.settings = machine.host.session.settings ∧
      after.host.session.links.nextId = machine.host.session.links.nextId ∧
      after.host.session.links.history = machine.host.session.links.history ∧
      ∀ other, after.host.session.links.name? other =
        if target = other then none else machine.host.session.links.name? other := by
  refine ⟨_, run_unlink machine target, ?_⟩
  cases known : machine.host.session.links.name? target with
  | none =>
      refine ⟨rfl, rfl, rfl, rfl, ?_⟩
      intro other
      by_cases isTarget : target = other
      · rw [if_pos isTarget, ← isTarget, known]
      · rw [if_neg isTarget]
  | some name =>
      exact ⟨rfl, rfl, LinkTable.nextId_erase _ _, LinkTable.history_erase _ _,
        LinkTable.name?_erase _ _⟩

end Session

/-! ## Sessions -/

/-- The tables of a session fit together and fit the guards that have been made. -/
structure OpenSession.LinksRemembered (session : OpenSession) : Prop
    extends session.LinksMirrored where
  remembered : Remembered session.state.settings session.state.links

/-- What becomes of a session where the link of a variable ends, which has this name. -/
structure OpenSession.LinkEndsAt
    (before after : OpenSession)
    (target : HostVariable)
    (name : String) : Prop where
  table : ∀ other, after.state.links.name? other =
    if target = other then none else before.state.links.name? other
  links : ∀ key, after.interp.store.links[key]? =
    if name = key then none else before.interp.store.links[key]?
  state : after.state = { before.state with links := after.state.links }
  interp : after.interp = { before.interp with
    store := { before.interp.store with
      globals := after.interp.store.globals
      links := after.interp.store.links } }

/-- Ending a link is the same for both tables. -/
theorem OpenSession.LinksMirrored.linkEndsAt
    {before : OpenSession}
    {target : HostVariable}
    {name : String}
    (fits : before.LinksMirrored)
    (linked : before.state.links.name? target = some name)
    (cells : Cells) :
    before.LinkEndsAt
      { interp := { before.interp with store := before.interp.store.unlink cells name }
        state := { before.state with links := before.state.links.erase target } }
      target name := by
  have key := fits.mirrored.key fits.valid linked
  obtain ⟨link, found, -⟩ := Option.map_eq_some_iff.mp (fits.mirrored.linked linked)
  have unlinked : before.interp.store.unlink cells name =
      { before.interp.store with
        links := before.interp.store.links.erase name
        globals := before.interp.store.globals.insert name (link.read cells) } := by
    simp only [VariableStore.unlink, key, found]
  constructor
  · exact fun other => LinkTable.name?_erase _ _ _
  · intro other
    rw [unlinked, Std.TreeMap.getElem?_erase]
    simp only [Std.compare_eq_iff_eq]
  · rfl
  · rw [unlinked]

namespace Conduct

theorem linksRemembered_link (target : HostVariable) :
    (everySession OpenSession.LinksRemembered).atWork.Keeps (Session.link target) := by
  intro machine
  have keepsLinks := linksMirrored_link target machine
  unfold KeepsFrom at keepsLinks ⊢
  cases known : machine.host.session.links.name? target with
  | some name =>
      rw [Session.run_link_of_linked known]
      exact Conduct.refl _ machine
  | none =>
      rcases Session.run_link_of_unlinked known with ⟨link, store, -, -, ran⟩ | ⟨message, ran⟩
      · rw [ran] at keepsLinks ⊢
        exact everySession_atWork_of_weaker keepsLinks rfl (fun _ fits => fits.toLinksMirrored)
          fun fits mirrored => ⟨mirrored, fits.remembered.inserted known⟩
      · rw [ran] at keepsLinks ⊢
        exact everySession_atWork_of_weaker keepsLinks rfl (fun _ fits => fits.toLinksMirrored)
          fun fits mirrored => ⟨mirrored, fits.remembered.passed⟩

theorem linksRemembered_makeGuard (target : HostVariable) :
    (everySession OpenSession.LinksRemembered).atWork.Keeps (Session.makeGuard target) := by
  intro machine
  have keepsLinks := linksMirrored_allowsSessions.guards.made target machine
  unfold KeepsFrom Session.makeGuard at keepsLinks ⊢
  cases known : machine.host.session.links.name? target with
  | some name =>
      rw [Session.run_noting (Session.run_linkScoped_of_linked known)] at keepsLinks ⊢
      refine everySession_atWork_of_weaker keepsLinks rfl (fun _ fits => fits.toLinksMirrored) ?_
      intro fits mirrored
      exact ⟨mirrored, fits.remembered.made (fits.mirrored.generated known) known⟩
  | none =>
      rcases Session.run_link_of_unlinked known with ⟨link, store, -, -, ran⟩ | ⟨message, ran⟩
      · rw [Session.run_noting (Session.run_linkScoped ran)] at keepsLinks ⊢
        refine everySession_atWork_of_weaker keepsLinks rfl (fun _ fits => fits.toLinksMirrored) ?_
        intro fits mirrored
        refine ⟨mirrored, (fits.remembered.inserted known).made ?_ ?_⟩
        · rw [LinkTable.nextId_insert]
          exact ⟨machine.host.session.links.nextId, Nat.lt_succ_self _, rfl⟩
        · rw [LinkTable.name?_insert, if_pos rfl]
      · rw [Session.run_noting (Session.run_linkScoped ran)] at keepsLinks ⊢
        exact everySession_atWork_of_weaker keepsLinks rfl (fun _ fits => fits.toLinksMirrored)
          fun fits mirrored => ⟨mirrored, fits.remembered.passed⟩

/-- The host does something that may end links, which is noted. -/
theorem linksRemembered_ended
    {machine after : SessionMachine}
    {action : SessionAction Unit}
    {event : GuardEvent}
    (keepsLinks : (everySession OpenSession.LinksMirrored).atWork.KeepsFrom machine
      (Session.noting action fun _ => [event]))
    (notMade : ∀ linkGuard, event ≠ .made linkGuard)
    (ran : action.run.run machine = (.ok (), after))
    (sameSessions : after.host.sessions = machine.host.sessions)
    (sameSettings : after.host.session.settings = machine.host.session.settings)
    (sameNext : after.host.session.links.nextId = machine.host.session.links.nextId)
    (sameHistory : after.host.session.links.history = machine.host.session.links.history)
    (names : ∀ other, after.host.session.links.name? other =
      if event.Ends other then none else machine.host.session.links.name? other) :
    (everySession OpenSession.LinksRemembered).atWork.KeepsFrom machine
      (Session.noting action fun _ => [event]) := by
  unfold KeepsFrom at keepsLinks ⊢
  rw [Session.run_noting ran] at keepsLinks ⊢
  refine everySession_atWork_of_weaker keepsLinks sameSessions
    (fun _ fits => fits.toLinksMirrored) ?_
  intro fits mirrored
  have remembered : Remembered machine.host.session.settings
      { after.host.session.links with
        history := event :: after.host.session.links.history } :=
    fits.remembered.ended notMade sameNext (by rw [sameHistory]) names
  rw [← sameSettings] at remembered
  exact ⟨mirrored, remembered⟩

theorem linksRemembered_endLink (target : HostVariable) :
    (everySession OpenSession.LinksRemembered).atWork.Keeps (Session.endLink target) := by
  intro machine
  obtain ⟨after, ran, sameSessions, sameSettings, sameNext, sameHistory, names⟩ :=
    Session.run_unlink_names machine target
  exact linksRemembered_ended (linksMirrored_allowsSessions.guards.unlinked target machine) nofun
    ran sameSessions sameSettings sameNext sameHistory names

theorem linksRemembered_giveUpGuard (linkGuard : LinkGuard) :
    (everySession OpenSession.LinksRemembered).atWork.Keeps (Session.giveUpGuard linkGuard) := by
  intro machine
  have keepsLinks := linksMirrored_allowsSessions.guards.dropped linkGuard machine
  cases owned : linkGuard.owned with
  | false =>
      exact linksRemembered_ended keepsLinks nofun (Session.run_dropGuard_of_unowned owned)
        rfl rfl rfl rfl fun other => by simp [GuardEvent.Ends, owned]
  | true =>
      obtain ⟨after, ran, sameSessions, sameSettings, sameNext, sameHistory, names⟩ :=
        Session.run_unlink_names machine linkGuard.target
      refine linksRemembered_ended keepsLinks nofun
        ((Session.run_dropGuard_of_owned owned).trans ran) sameSessions sameSettings sameNext
        sameHistory ?_
      intro other
      simp [names, GuardEvent.Ends, owned]

theorem linksRemembered_allowsUntouched :
    (everySession OpenSession.LinksRemembered).atWork.AllowsUntouched := by
  intro before after untouched
  refine everySession_atWork_of_weaker (linksMirrored_allowsUntouched untouched) ?_
    (fun _ fits => fits.toLinksMirrored) ?_
  · rw [untouched.shared]
  · intro fits mirrored
    refine ⟨mirrored, ?_⟩
    rw [untouched.state]
    exact fits.remembered

theorem linksRemembered_allowsSessions :
    (everySession OpenSession.LinksRemembered).AllowsSessions :=
  everySession_allowsSessions linksRemembered_allowsUntouched
    (fun _ _ _ => everySession_atWork rfl rfl fun fits =>
      ⟨⟨fits.valid, fits.mirrored⟩, fits.remembered⟩)
    (fun _ settings _ valid => ⟨⟨valid, .initial settings⟩, .initial settings⟩)
    linksRemembered_link
    { made := linksRemembered_makeGuard
      dropped := linksRemembered_giveUpGuard
      unlinked := linksRemembered_endLink }

theorem linksRemembered_allowsHosts : (everySession OpenSession.LinksRemembered).AllowsHosts :=
  everySession_allowsHosts linksRemembered_allowsSessions linksRemembered_allowsUntouched <|
    everySession_allowsNesting
      (fun _ _ fits => ⟨⟨fits.valid, fits.mirrored⟩, fits.remembered⟩)
      fun _ _ fits => ⟨⟨fits.valid, fits.mirrored⟩, fits.remembered⟩

end Conduct

/-! ## Reachable worlds -/

namespace World

variable {world : World} {session : OpenSession} {linkGuard : LinkGuard}

theorem dropGuard_of_unowned
    (found : world.sessions[linkGuard.session]? = some session)
    (unowned : linkGuard.owned = false)
    (eval : SessionEvaluator) :
    (perform (.dropGuard linkGuard)).outcome eval world = (.ok (.ok ()), world) := by
  obtain ⟨ended, -⟩ := outcome_inSession (fun _ => Session.dropGuard linkGuard) found
    (Session.run_dropGuard_of_unowned unowned) rfl rfl
  rw [ofMachine_machineOf found] at ended
  exact outcome_always ended

theorem dropGuard_of_unlinked
    (found : world.sessions[linkGuard.session]? = some session)
    (owned : linkGuard.owned = true)
    (unlinked : session.state.links.name? linkGuard.target = none)
    (eval : SessionEvaluator) :
    (perform (.dropGuard linkGuard)).outcome eval world = (.ok (.ok ()), world) := by
  have ran : (Session.dropGuard linkGuard).run.run (world.machineOf linkGuard.session session) =
      (.ok (), world.machineOf linkGuard.session session) := by
    have unlinkedThere :
        (world.machineOf linkGuard.session session).host.session.links.name? linkGuard.target =
          none := unlinked
    rw [Session.run_dropGuard_of_owned owned, Session.run_unlink, unlinkedThere]
  obtain ⟨ended, -⟩ :=
    outcome_inSession (fun _ => Session.dropGuard linkGuard) found ran rfl rfl
  rw [ofMachine_machineOf found] at ended
  exact outcome_always ended

theorem dropGuard_linkEndsAt
    {name : String}
    (found : world.sessions[linkGuard.session]? = some session)
    (fits : session.LinksMirrored)
    (owned : linkGuard.owned = true)
    (linked : session.state.links.name? linkGuard.target = some name)
    (eval : SessionEvaluator) :
    ∃ after,
      (perform (.dropGuard linkGuard)).outcome eval world =
        (.ok (.ok ()),
          { world with sessions := world.sessions.setIfInBounds linkGuard.session after }) ∧
      session.LinkEndsAt after linkGuard.target name := by
  have linkedThere :
      (world.machineOf linkGuard.session session).host.session.links.name? linkGuard.target =
        some name := linked
  have ran := (Session.run_dropGuard_of_owned owned).trans
    (Session.run_unlink (world.machineOf linkGuard.session session) linkGuard.target)
  rw [linkedThere] at ran
  obtain ⟨ended, -⟩ :=
    outcome_inSession (fun _ => Session.dropGuard linkGuard) found ran rfl rfl
  exact ⟨_, outcome_always ended, fits.linkEndsAt linked world.cells⟩

/-- Whatever hosts and scripts do, a guard that is dropped ends the link that its variable has at
that time, under whatever name, if the guard has made a link once; it changes nothing else, and
nothing at all if it has made no link or the variable is not linked. That link is still the one of
the guard if and only if nothing has ended the link of the variable since the guard was made. -/
theorem guards_end_present_links
    (environment : Settings.Environment)
    (sessions : List (InterpAccess × Settings))
    (valid : ∀ entry ∈ sessions, entry.2.validate = .ok ())
    (program : HostProgram)
    (fuel : Nat)
    (linkGuard : LinkGuard)
    {session : OpenSession}
    (found : (program.outcome fuel (opened environment sessions)).2.sessions[linkGuard.session]? =
      some session)
    (eval : SessionEvaluator) :
    let world := (program.outcome fuel (opened environment sessions)).2
    let table := session.state.links
    let dropped := (perform (.dropGuard linkGuard)).outcome eval world
    (.made linkGuard ∈ table.history →
      (table.name? linkGuard.target = some linkGuard.name ↔ linkGuard.Lasts table.history)) ∧
    (linkGuard.owned = false ∨ table.name? linkGuard.target = none →
      dropped = (.ok (.ok ()), world)) ∧
    ∀ name, linkGuard.owned = true → table.name? linkGuard.target = some name →
      ∃ after,
        dropped = (.ok (.ok ()),
          { world with sessions := world.sessions.setIfInBounds linkGuard.session after }) ∧
        session.LinkEndsAt after linkGuard.target name := by
  intro world table dropped
  have opened : (opened environment sessions).Every OpenSession.LinksRemembered :=
    every_opened environment fun entry known =>
      ⟨⟨valid entry known, .initial entry.2⟩, .initial entry.2⟩
  have kept := Conduct.linksRemembered_allowsHosts.allows_outcome program fuel _ opened
  have fits := kept linkGuard.session session found
  refine ⟨fits.remembered.lasting, ?_, ?_⟩
  · intro idle
    cases owned : linkGuard.owned with
    | false => exact dropGuard_of_unowned found owned eval
    | true =>
        have unlinked : table.name? linkGuard.target = none :=
          idle.resolve_left (by simp [owned])
        exact dropGuard_of_unlinked found owned unlinked eval
  · intro name owned linked
    exact dropGuard_linkEndsAt found fits.toLinksMirrored owned linked eval

/-- The link of a guard is ended and its variable is linked anew. The guard that is dropped then
takes out the new link. -/
theorem guards_end_present_links_of_new_link :
    let program : HostProgram :=
      .ask (.linkScoped 0 (.int 7)) fun _ =>
        .ask (.unlink 0 (.int 7)) fun _ =>
          .ask (.link 0 (.int 7)) fun _ => .finish none
    let linkGuard : LinkGuard := ⟨0, .int 7, "rtk::variable0", true⟩
    let world := (program.outcome 0 (opened (fun _ => none) [(.open, {})])).2
    ∃ session : OpenSession,
      world.sessions[0]? = some session ∧
      .made linkGuard ∈ session.state.links.history ∧
      ¬linkGuard.Lasts session.state.links.history ∧
      session.state.links.name? (.int 7) = some "rtk::variable1" ∧
      ∀ eval, ∃ after,
        (perform (.dropGuard linkGuard)).outcome eval world =
          (.ok (.ok ()), { world with sessions := world.sessions.setIfInBounds 0 after }) ∧
        session.LinkEndsAt after (.int 7) "rtk::variable1" := by
  intro program linkGuard world
  have looked : (world.sessions[0]?.map fun session =>
      (session.state.links.history, session.state.links.name? (.int 7))) =
      some ([.unlinked (.int 7), .made linkGuard], some "rtk::variable1") := by
    decide +kernel
  have here : world = (program.outcome 0 (opened (fun _ => none) [(.open, {})])).2 := rfl
  clear_value world
  obtain ⟨session, found, seen⟩ := Option.map_eq_some_iff.mp looked
  obtain ⟨history, linked⟩ := Prod.mk.inj seen
  have valid : ∀ entry ∈ [(InterpAccess.open, ({} : Settings))], entry.2.validate = .ok () := by
    decide
  have made : .made linkGuard ∈ session.state.links.history := by
    rw [history]
    decide
  have ended (eval : SessionEvaluator) :=
    guards_end_present_links (fun _ => none) [(.open, {})] valid program 0 linkGuard
      (here ▸ found) eval
  rw [← here] at ended
  refine ⟨session, found, made, ?_, linked, ?_⟩
  · intro lasts
    have own := ((ended (Session.evaluatorOf 0)).1 made).mpr lasts
    rw [linked] at own
    exact absurd own (by decide)
  · exact fun eval => (ended eval).2.2 "rtk::variable1" rfl linked

end World

end ScriptBridge
