import ScriptBridge.Proofs.Bridge.LinkTables

/-!
# Links that end with their guards

A guard owns the link that it has made; if its variable is linked already it owns nothing and leaves
that link alone. So the link of a guard that owns it lasts as long as the guard. The link that
another guard shares with it ends with its owner, which may be dropped first.
-/

namespace ScriptBridge

/-! ## Histories of guards -/

/-- A guard has been made more often than it has been dropped: guards of a variable that own nothing
cannot be told apart. -/
def LinkGuard.Alive (linkGuard : LinkGuard) (history : List GuardEvent) : Prop :=
  history.count (.dropped linkGuard) < history.count (.made linkGuard)

instance (linkGuard : LinkGuard) (history : List GuardEvent) :
    Decidable (linkGuard.Alive history) :=
  inferInstanceAs (Decidable (_ < _))

/-- The guard that owned the link under a name has been dropped. -/
def OwnerDropped (history : List GuardEvent) (name : String) : Prop :=
  ∃ owner : LinkGuard, owner.owned = true ∧ owner.name = name ∧ .dropped owner ∈ history

/-- The host drops guards that are alive, and never ends a link itself. -/
def EndedByGuards : List GuardEvent → Prop
  | [] => True
  | .made _ :: earlier => EndedByGuards earlier
  | .dropped linkGuard :: earlier => linkGuard.Alive earlier ∧ EndedByGuards earlier
  | .unlinked _ :: _ => False

section Histories

variable {history : List GuardEvent} {linkGuard : LinkGuard} {name : String}

theorem LinkGuard.Alive.made (alive : linkGuard.Alive history) : .made linkGuard ∈ history :=
  List.count_pos_iff.mp (Nat.zero_lt_of_lt alive)

/-- Only guards that have been made are dropped. -/
theorem EndedByGuards.made_of_dropped
    (byGuards : EndedByGuards history)
    (dropped : .dropped linkGuard ∈ history) :
    .made linkGuard ∈ history := by
  induction history with
  | nil => cases dropped
  | cons event earlier inductionHypothesis =>
      apply List.mem_cons_of_mem
      cases event with
      | made other =>
          rcases List.mem_cons.mp dropped with same | dropped
          · cases same
          · exact inductionHypothesis byGuards dropped
      | dropped other =>
          rcases List.mem_cons.mp dropped with same | dropped
          · cases same
            exact byGuards.1.made
          · exact inductionHypothesis byGuards.2 dropped
      | unlinked target => exact byGuards.elim

theorem ownerDropped_made :
    OwnerDropped (.made linkGuard :: history) name ↔ OwnerDropped history name := by
  simp [OwnerDropped]

theorem ownerDropped_dropped :
    OwnerDropped (.dropped linkGuard :: history) name ↔
      linkGuard.owned = true ∧ linkGuard.name = name ∨ OwnerDropped history name := by
  constructor
  · rintro ⟨owner, owned, named, dropped⟩
    rcases List.mem_cons.mp dropped with same | dropped
    · cases same
      exact .inl ⟨owned, named⟩
    · exact .inr ⟨owner, owned, named, dropped⟩
  · rintro (⟨owned, named⟩ | ⟨owner, owned, named, dropped⟩)
    · exact ⟨linkGuard, owned, named, List.mem_cons_self⟩
    · exact ⟨owner, owned, named, List.mem_cons_of_mem _ dropped⟩

end Histories

/-! ## Tables and guards -/

namespace LinkTable

variable (table : LinkTable) (name : String) (target : HostVariable)

theorem history_insert : (table.insert name target).history = table.history := by
  cases target <;> rfl

theorem history_erase : (table.erase target).history = table.history := by
  cases target <;> rfl

end LinkTable

/-- The linked variables of a session fit the guards that have been made and dropped. -/
structure Guarded (settings : Settings) (table : LinkTable) : Prop where
  generated : ∀ {linkGuard : LinkGuard}, .made linkGuard ∈ table.history →
    ∃ number < table.nextId, linkGuard.name = settings.variableName number
  /-- A link stays until its owner is dropped. -/
  lasting : ∀ {linkGuard : LinkGuard}, .made linkGuard ∈ table.history →
    ¬OwnerDropped table.history linkGuard.name →
      table.name? linkGuard.target = some linkGuard.name
  /-- It ends then, and its name is never used again. -/
  ended : ∀ {name : String}, OwnerDropped table.history name →
    ∀ target, table.name? target ≠ some name
  /-- Guards that share a name share their variable, and one of them at most owns its link. -/
  shared : ∀ {first second : LinkGuard},
    .made first ∈ table.history → .made second ∈ table.history → first.name = second.name →
      first.target = second.target ∧
        (first.owned = true → second.owned = true → first = second)
  madeOnce : ∀ {linkGuard : LinkGuard}, linkGuard.owned = true →
    table.history.count (.made linkGuard) ≤ 1

namespace Guarded

variable {settings : Settings} {table : LinkTable} {links : Std.TreeMap String Link}
  {target : HostVariable} {linkGuard : LinkGuard}

theorem initial (settings : Settings) : Guarded settings {} where
  generated made := nomatch made
  lasting made := nomatch made
  ended := fun ⟨_, _, _, dropped⟩ => nomatch dropped
  shared made := nomatch made
  madeOnce _ := Nat.zero_le 1

variable (guarded : Guarded settings table)

include guarded

/-- A guard that owns its link is alive as long as the link is there. -/
theorem not_ownerDropped
    (byGuards : EndedByGuards table.history)
    (owned : linkGuard.owned = true)
    (alive : linkGuard.Alive table.history) :
    ¬OwnerDropped table.history linkGuard.name := by
  rintro ⟨owner, ownerOwned, named, dropped⟩
  obtain ⟨-, sameOwner⟩ := guarded.shared (byGuards.made_of_dropped dropped) alive.made named
  obtain rfl := sameOwner ownerOwned owned
  have droppedOnce : 0 < table.history.count (.dropped owner) := List.count_pos_iff.mpr dropped
  have madeOnce := guarded.madeOnce owned
  unfold LinkGuard.Alive at alive
  omega

/-! ### Links -/

/-- The next number is passed over. -/
theorem passed : Guarded settings { table with nextId := table.nextId + 1 } where
  generated made := by
    obtain ⟨number, below, same⟩ := guarded.generated made
    exact ⟨number, Nat.lt_succ_of_lt below, same⟩
  lasting := guarded.lasting
  ended := guarded.ended
  shared := guarded.shared
  madeOnce := guarded.madeOnce

/-- No guard has had the name that comes next. -/
theorem fresh (made : .made linkGuard ∈ table.history) :
    linkGuard.name ≠ settings.variableName table.nextId := by
  intro same
  obtain ⟨number, below, named⟩ := guarded.generated made
  have equal := Settings.variableName_inj.mp (named.symm.trans same)
  omega

/-- A variable is linked under the next name. -/
theorem inserted
    (byGuards : EndedByGuards table.history)
    (unlinked : table.name? target = none) :
    Guarded settings
      (LinkTable.insert { table with nextId := table.nextId + 1 }
        (settings.variableName table.nextId) target) := by
  have name? (other : HostVariable) :
      (LinkTable.insert { table with nextId := table.nextId + 1 }
        (settings.variableName table.nextId) target).name? other =
      if target = other then some (settings.variableName table.nextId) else table.name? other :=
    LinkTable.name?_insert _ _ _ _
  constructor
  · rw [LinkTable.history_insert, LinkTable.nextId_insert]
    exact guarded.passed.generated
  · rw [LinkTable.history_insert]
    intro linkGuard made undropped
    have linked := guarded.lasting made undropped
    rw [name?, if_neg]
    · exact linked
    · rintro rfl
      rw [unlinked] at linked
      cases linked
  · rw [LinkTable.history_insert]
    rintro name dropped other found
    rw [name?] at found
    split at found
    · obtain ⟨owner, -, rfl, dropped⟩ := dropped
      exact guarded.fresh (byGuards.made_of_dropped dropped) (Option.some.inj found).symm
    · exact guarded.ended dropped other found
  · rw [LinkTable.history_insert]
    exact guarded.shared
  · rw [LinkTable.history_insert]
    exact guarded.madeOnce

/-! ### Guards -/

/-- What is linked under the name of a guard is its variable. -/
theorem target_eq
    (mirrored : Mirrored settings table links)
    (made : .made linkGuard ∈ table.history)
    (linked : table.name? target = some linkGuard.name) :
    linkGuard.target = target := by
  have undropped : ¬OwnerDropped table.history linkGuard.name :=
    fun dropped => guarded.ended dropped target linked
  exact mirrored.distinct (guarded.lasting made undropped) linked

/-- A guard is made of a variable that is linked. If the guard owns the link, the link is new. -/
theorem made
    (mirrored : Mirrored settings table links)
    (linked : table.name? linkGuard.target = some linkGuard.name)
    (new : linkGuard.owned = true →
      ∀ {other : LinkGuard}, .made other ∈ table.history → other.name ≠ linkGuard.name) :
    Guarded settings { table with history := .made linkGuard :: table.history } := by
  constructor
  · intro other made
    rcases List.mem_cons.mp made with same | made
    · cases same
      exact mirrored.generated linked
    · exact guarded.generated made
  · intro other made undropped
    rw [ownerDropped_made] at undropped
    rcases List.mem_cons.mp made with same | made
    · cases same
      exact linked
    · exact guarded.lasting made undropped
  · intro name dropped
    exact guarded.ended (ownerDropped_made.mp dropped)
  · intro first second madeFirst madeSecond same
    rcases List.mem_cons.mp madeFirst with isFirst | madeFirst
    · cases isFirst
      rcases List.mem_cons.mp madeSecond with isSecond | madeSecond
      · cases isSecond
        exact ⟨rfl, fun _ _ => rfl⟩
      · refine ⟨(guarded.target_eq mirrored madeSecond (same ▸ linked)).symm, ?_⟩
        exact fun owned _ => absurd same.symm (new owned madeSecond)
    · rcases List.mem_cons.mp madeSecond with isSecond | madeSecond
      · cases isSecond
        refine ⟨guarded.target_eq mirrored madeFirst (same ▸ linked), ?_⟩
        exact fun _ owned => absurd same (new owned madeFirst)
      · exact guarded.shared madeFirst madeSecond same
  · intro other owned
    rw [List.count_cons]
    split
    · rename_i same
      obtain rfl := GuardEvent.made.inj (eq_of_beq same)
      have unmade : .made linkGuard ∉ table.history := fun made => new owned made rfl
      have before := List.count_eq_zero_of_not_mem unmade
      omega
    · exact guarded.madeOnce owned

/-- A guard is dropped, and what becomes of the links fits that. -/
theorem of_dropped
    {after : LinkTable}
    (sameNext : after.nextId = table.nextId)
    (history : after.history = .dropped linkGuard :: table.history)
    (lasting : ∀ {other : LinkGuard}, .made other ∈ table.history →
      ¬OwnerDropped (.dropped linkGuard :: table.history) other.name →
        after.name? other.target = some other.name)
    (ended : ∀ {name : String}, OwnerDropped (.dropped linkGuard :: table.history) name →
      ∀ target, after.name? target ≠ some name) :
    Guarded settings after := by
  have earlier {other : LinkGuard} (made : .made other ∈ after.history) :
      .made other ∈ table.history := by
    rw [history] at made
    exact (List.mem_cons.mp made).resolve_left fun same => nomatch same
  constructor
  · rw [sameNext]
    exact fun made => guarded.generated (earlier made)
  · rw [history] at *
    exact fun made => lasting (earlier made)
  · rw [history]
    exact ended
  · exact fun madeFirst madeSecond => guarded.shared (earlier madeFirst) (earlier madeSecond)
  · intro other owned
    have apart : GuardEvent.dropped linkGuard ≠ .made other := nofun
    rw [history, List.count_cons_of_ne apart]
    exact guarded.madeOnce owned

/-- A guard that owns nothing is dropped. -/
theorem dropped (unowned : linkGuard.owned = false) :
    Guarded settings { table with history := .dropped linkGuard :: table.history } := by
  have sameDropped {name : String} :
      OwnerDropped (.dropped linkGuard :: table.history) name ↔
        OwnerDropped table.history name := by
    rw [ownerDropped_dropped, unowned]
    simp
  refine guarded.of_dropped rfl rfl ?_ ?_
  · intro other made undropped
    exact guarded.lasting made (sameDropped.not.mp undropped)
  · intro name dropped
    exact guarded.ended (sameDropped.mp dropped)

/-- A guard is dropped with its link. -/
theorem erased
    (mirrored : Mirrored settings table links)
    (byGuards : EndedByGuards table.history)
    (owned : linkGuard.owned = true)
    (alive : linkGuard.Alive table.history) :
    Guarded settings
      { table.erase linkGuard.target with history := .dropped linkGuard :: table.history } := by
  have name? (other : HostVariable) :
      LinkTable.name? { table.erase linkGuard.target with
        history := .dropped linkGuard :: table.history } other =
      if linkGuard.target = other then none else table.name? other :=
    LinkTable.name?_erase table linkGuard.target other
  have linked : table.name? linkGuard.target = some linkGuard.name :=
    guarded.lasting alive.made (guarded.not_ownerDropped byGuards owned alive)
  refine guarded.of_dropped (LinkTable.nextId_erase _ _) rfl ?_ ?_
  · intro other made undropped
    rw [ownerDropped_dropped, not_or] at undropped
    have still := guarded.lasting made undropped.2
    rw [name?, if_neg]
    · exact still
    · intro sameTarget
      rw [← sameTarget, linked] at still
      exact undropped.1 ⟨owned, Option.some.inj still⟩
  · intro name dropped target found
    rw [name?] at found
    split at found
    · cases found
    · rename_i apart
      rcases ownerDropped_dropped.mp dropped with ⟨-, rfl⟩ | dropped
      · exact apart (mirrored.distinct linked found)
      · exact guarded.ended dropped target found

end Guarded

/-! ## Sessions -/

/-- The tables of a session fit together and fit its guards, as long as these alone end links. -/
structure OpenSession.LinksGuarded (session : OpenSession) : Prop
    extends session.LinksMirrored where
  guarded : EndedByGuards session.state.links.history →
    Guarded session.state.settings session.state.links

namespace Session

variable {machine : SessionMachine}

theorem run_noting
    {α : Type}
    {action : SessionAction α}
    {value : α}
    {after : SessionMachine}
    (ran : action.run.run machine = (.ok value, after))
    (events : α → List GuardEvent) :
    (noting action events).run.run machine =
      (.ok value, withGuards after (events value ++ after.host.session.links.history)) := by
  unfold noting
  rw [Conduct.run_bind, ran]
  rfl

theorem run_linkScoped
    {target : HostVariable}
    {answer : Except Failure String}
    {after : SessionMachine}
    (ran : (link target).run.run machine = (.ok answer, after)) :
    (linkScoped target).run.run machine =
      (.ok (answer.map fun name =>
          { session := machine.host.running
            target
            name
            owned := (machine.host.session.links.name? target).isNone }),
        after) := by
  unfold linkScoped
  rw [run_get_bind]
  dsimp only
  rw [Conduct.run_bind, ran]
  cases answer <;> rfl

theorem run_dropGuard_of_owned
    {linkGuard : LinkGuard}
    (owned : linkGuard.owned = true) :
    (dropGuard linkGuard).run.run machine = (unlink linkGuard.target).run.run machine := by
  unfold dropGuard
  rw [if_pos owned]

theorem run_dropGuard_of_unowned
    {linkGuard : LinkGuard}
    (unowned : linkGuard.owned = false) :
    (dropGuard linkGuard).run.run machine = (.ok (), machine) := by
  unfold dropGuard
  rw [unowned]
  rfl

end Session

namespace Conduct

theorem linksGuarded_atWork
    {finished : Bool}
    {before after : SessionMachine}
    (keepsLinks : (everySession OpenSession.LinksMirrored).atWork.allows finished before after)
    (sameSessions : after.host.sessions = before.host.sessions)
    (own : OpenSession.LinksGuarded ⟨before.interp, before.host.session⟩ →
      EndedByGuards after.host.session.links.history →
        Guarded after.host.session.settings after.host.session.links) :
    (everySession OpenSession.LinksGuarded).atWork.allows finished before after :=
  everySession_atWork_of_weaker keepsLinks sameSessions (fun _ fits => fits.toLinksMirrored)
    fun fits mirrored => ⟨mirrored, own fits⟩

theorem linksGuarded_link (target : HostVariable) :
    (everySession OpenSession.LinksGuarded).atWork.Keeps (Session.link target) := by
  intro machine
  have keepsLinks := linksMirrored_link target machine
  unfold KeepsFrom at keepsLinks ⊢
  cases known : machine.host.session.links.name? target with
  | some name =>
      rw [Session.run_link_of_linked known]
      exact Conduct.refl _ machine
  | none =>
      rcases Session.run_link_of_unlinked known with ⟨link, store, -, -, ran⟩ | ⟨message, ran⟩
      · rw [ran] at keepsLinks ⊢
        refine linksGuarded_atWork keepsLinks rfl ?_
        intro fits byGuards
        have byGuards : EndedByGuards machine.host.session.links.history := by
          dsimp only at byGuards
          rwa [LinkTable.history_insert] at byGuards
        exact (fits.guarded byGuards).inserted byGuards known
      · rw [ran] at keepsLinks ⊢
        refine linksGuarded_atWork keepsLinks rfl ?_
        exact fun fits byGuards => (fits.guarded byGuards).passed

theorem linksGuarded_makeGuard (target : HostVariable) :
    (everySession OpenSession.LinksGuarded).atWork.Keeps (Session.makeGuard target) := by
  intro machine
  have keepsLinks := linksMirrored_allowsSessions.guards.made target machine
  unfold KeepsFrom Session.makeGuard at keepsLinks
  unfold KeepsFrom Session.makeGuard
  cases known : machine.host.session.links.name? target with
  | some name =>
      rw [Session.run_noting (Session.run_linkScoped_of_linked known)] at keepsLinks ⊢
      refine linksGuarded_atWork keepsLinks rfl ?_
      intro fits byGuards
      exact (fits.guarded byGuards).made fits.mirrored known nofun
  | none =>
      rcases Session.run_link_of_unlinked known with ⟨link, store, place, -, ran⟩ | ⟨message, ran⟩
      · have made := Session.run_linkScoped ran
        rw [known] at made
        rw [Session.run_noting made] at keepsLinks ⊢
        refine linksGuarded_atWork keepsLinks rfl ?_
        intro fits byGuards
        have earlier : EndedByGuards machine.host.session.links.history := by
          have later : EndedByGuards (LinkTable.history _) := byGuards
          rwa [LinkTable.history_insert] at later
        have guarded := fits.guarded earlier
        apply (guarded.inserted earlier known).made (fits.mirrored.inserted known place)
        · rw [LinkTable.name?_insert, if_pos rfl]
        · intro _ other made
          rw [LinkTable.history_insert] at made
          exact guarded.fresh made
      · have refused := Session.run_linkScoped ran
        rw [Session.run_noting refused] at keepsLinks ⊢
        refine linksGuarded_atWork keepsLinks rfl ?_
        exact fun fits byGuards => (fits.guarded byGuards).passed

theorem linksGuarded_endLink (target : HostVariable) :
    (everySession OpenSession.LinksGuarded).atWork.Keeps (Session.endLink target) := by
  intro machine
  have keepsLinks := linksMirrored_allowsSessions.guards.unlinked target machine
  unfold KeepsFrom Session.endLink at keepsLinks
  unfold KeepsFrom Session.endLink
  rw [Session.run_noting (Session.run_unlink machine target)] at keepsLinks ⊢
  refine linksGuarded_atWork keepsLinks ?_ ?_
  · cases known : machine.host.session.links.name? target <;> rfl
  · exact fun _ byGuards => byGuards.elim

theorem linksGuarded_giveUpGuard (linkGuard : LinkGuard) :
    (everySession OpenSession.LinksGuarded).atWork.Keeps (Session.giveUpGuard linkGuard) := by
  intro machine
  have keepsLinks := linksMirrored_allowsSessions.guards.dropped linkGuard machine
  unfold KeepsFrom Session.giveUpGuard at keepsLinks
  unfold KeepsFrom Session.giveUpGuard
  cases owned : linkGuard.owned with
  | false =>
      rw [Session.run_noting (Session.run_dropGuard_of_unowned owned)] at keepsLinks ⊢
      refine linksGuarded_atWork keepsLinks rfl ?_
      exact fun fits byGuards => (fits.guarded byGuards.2).dropped owned
  | true =>
      have ran := (Session.run_dropGuard_of_owned owned).trans
        (Session.run_unlink machine linkGuard.target)
      rw [Session.run_noting ran] at keepsLinks ⊢
      cases known : machine.host.session.links.name? linkGuard.target with
      | none =>
          rw [known] at keepsLinks
          refine linksGuarded_atWork keepsLinks rfl ?_
          rintro fits ⟨alive, byGuards⟩
          have guarded := fits.guarded byGuards
          have linked :=
            guarded.lasting alive.made (guarded.not_ownerDropped byGuards owned alive)
          rw [known] at linked
          cases linked
      | some name =>
          rw [known] at keepsLinks
          refine linksGuarded_atWork keepsLinks rfl ?_
          intro fits byGuards
          have sameHistory := LinkTable.history_erase machine.host.session.links linkGuard.target
          obtain ⟨alive, byGuards⟩ :
              EndedByGuards (.dropped linkGuard :: machine.host.session.links.history) := by
            rw [← sameHistory]
            exact byGuards
          have erased := (fits.guarded byGuards).erased fits.mirrored byGuards owned alive
          rw [← sameHistory] at erased
          exact erased

theorem linksGuarded_allowsUntouched :
    (everySession OpenSession.LinksGuarded).atWork.AllowsUntouched := by
  intro before after untouched
  refine linksGuarded_atWork (linksMirrored_allowsUntouched untouched) ?_ ?_
  · rw [untouched.shared]
  · intro fits
    rw [untouched.state]
    exact fits.guarded

theorem linksGuarded_allowsFailing :
    (everySession OpenSession.LinksGuarded).atWork.AllowsFailing :=
  fun _ _ _ => everySession_atWork rfl rfl fun fits => ⟨⟨fits.valid, fits.mirrored⟩, fits.guarded⟩

theorem linksGuarded_allowsGuards :
    (everySession OpenSession.LinksGuarded).atWork.AllowsGuards where
  made := linksGuarded_makeGuard
  dropped := linksGuarded_giveUpGuard
  unlinked := linksGuarded_endLink

theorem linksGuarded_allowsSessions : (everySession OpenSession.LinksGuarded).AllowsSessions :=
  everySession_allowsSessions linksGuarded_allowsUntouched linksGuarded_allowsFailing
    (fun _ settings _ valid => ⟨⟨valid, .initial settings⟩, fun _ => .initial settings⟩)
    linksGuarded_link linksGuarded_allowsGuards

theorem linksGuarded_allowsHosts : (everySession OpenSession.LinksGuarded).AllowsHosts :=
  everySession_allowsHosts linksGuarded_allowsSessions linksGuarded_allowsUntouched <|
    everySession_allowsNesting
      (fun _ _ fits => ⟨⟨fits.valid, fits.mirrored⟩, fits.guarded⟩)
      fun _ _ fits => ⟨⟨fits.valid, fits.mirrored⟩, fits.guarded⟩

end Conduct

/-! ## Reachable worlds -/

namespace World

/-- Whatever hosts and scripts do, if links end with guards alone, the variable of a guard that is
alive is linked under the name of the guard until the guard that made the link is dropped. That is
this one itself or another one of the same variable, and if there is none the link does not end.
Afterwards nothing is linked under the name, although the guard is alive. -/
theorem links_last_with_owners
    (environment : Settings.Environment)
    (sessions : List (InterpAccess × Settings))
    (valid : ∀ entry ∈ sessions, entry.2.validate = .ok ())
    (program : HostProgram)
    (fuel : Nat)
    {id : SessionId}
    {session : OpenSession}
    (found : (program.outcome fuel (opened environment sessions)).2.sessions[id]? = some session)
    (byGuards : EndedByGuards session.state.links.history)
    {linkGuard : LinkGuard}
    (alive : linkGuard.Alive session.state.links.history) :
    let table := session.state.links
    let links := session.interp.store.links
    (linkGuard.owned = true → ¬OwnerDropped table.history linkGuard.name) ∧
    (¬OwnerDropped table.history linkGuard.name →
      table.name? linkGuard.target = some linkGuard.name ∧
        links[linkGuard.name]?.map Link.place = some linkGuard.target.place) ∧
    (OwnerDropped table.history linkGuard.name →
      table.name? linkGuard.target ≠ some linkGuard.name ∧ linkGuard.name ∉ links) ∧
    ∀ other : LinkGuard, .made other ∈ table.history → other.name = linkGuard.name →
      other.target = linkGuard.target ∧
        (other.owned = true → linkGuard.owned = true → other = linkGuard) := by
  intro table links
  have opened : (opened environment sessions).Every OpenSession.LinksGuarded :=
    every_opened environment fun entry known =>
      ⟨⟨valid entry known, .initial entry.2⟩, fun _ => .initial entry.2⟩
  have kept := Conduct.linksGuarded_allowsHosts.allows_outcome program fuel _ opened
  have fits := kept id session found
  have guarded := fits.guarded byGuards
  refine ⟨?_, ?_, ?_, ?_⟩
  · exact fun owned => guarded.not_ownerDropped byGuards owned alive
  · intro undropped
    have linked := guarded.lasting alive.made undropped
    exact ⟨linked, fits.mirrored.linked linked⟩
  · intro dropped
    have ended := guarded.ended dropped
    refine ⟨ended linkGuard.target, ?_⟩
    intro linked
    obtain ⟨target, named⟩ := fits.mirrored.named linked
    exact ended target named
  · exact fun other made => guarded.shared made alive.made

/-- Of two guards that share a link, the one that has made it is dropped. A third one has a link of
its own. -/
theorem links_last_with_owners_of_shared_link :
    let program : HostProgram :=
      .ask (.linkScoped 0 (.int 7)) fun owner =>
        .ask (.linkScoped 0 (.int 7)) fun _ =>
          .ask (.linkScoped 0 (.text 1)) fun _ =>
            .ask (.dropGuard owner) fun _ => .finish none
    let sharing : LinkGuard := ⟨0, .int 7, "rtk::variable0", false⟩
    let owning : LinkGuard := ⟨0, .text 1, "rtk::variable1", true⟩
    let world := (program.outcome 0 (opened (fun _ => none) [(.open, {})])).2
    ∃ session : OpenSession,
      world.sessions[0]? = some session ∧
      sharing.Alive session.state.links.history ∧
      session.state.links.name? (.int 7) ≠ some "rtk::variable0" ∧
      "rtk::variable0" ∉ session.interp.store.links ∧
      owning.Alive session.state.links.history ∧
      session.state.links.name? (.text 1) = some "rtk::variable1" ∧
      session.interp.store.links["rtk::variable1"]?.map Link.place = some (.text "") := by
  intro program sharing owning world
  let owner : LinkGuard := ⟨0, .int 7, "rtk::variable0", true⟩
  have looked : (world.sessions[0]?.map (·.state.links.history)) =
      some [.dropped owner, .made owning, .made sharing, .made owner] := by
    decide +kernel
  have here : world = (program.outcome 0 (opened (fun _ => none) [(.open, {})])).2 := rfl
  clear_value world
  obtain ⟨session, found, history⟩ := Option.map_eq_some_iff.mp looked
  have valid : ∀ entry ∈ [(InterpAccess.open, ({} : Settings))], entry.2.validate = .ok () := by
    decide
  have byGuards : EndedByGuards session.state.links.history := by
    rw [history]
    exact ⟨by decide, trivial⟩
  have sharingAlive : sharing.Alive session.state.links.history := by
    rw [history]
    decide
  have owningAlive : owning.Alive session.state.links.history := by
    rw [history]
    decide
  have dropped : OwnerDropped session.state.links.history "rtk::variable0" := by
    rw [history]
    exact ⟨owner, rfl, rfl, by decide⟩
  obtain ⟨-, -, ended, -⟩ :=
    links_last_with_owners (fun _ => none) [(.open, {})] valid program 0 (here ▸ found) byGuards
      sharingAlive
  obtain ⟨undropped, lasting, -⟩ :=
    links_last_with_owners (fun _ => none) [(.open, {})] valid program 0 (here ▸ found) byGuards
      owningAlive
  obtain ⟨linked, place⟩ := lasting (undropped rfl)
  exact ⟨session, found, sharingAlive, (ended dropped).1, (ended dropped).2, owningAlive, linked,
    place⟩

end World

end ScriptBridge
