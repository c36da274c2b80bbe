import ScriptBridge.Proofs.Bridge.Continuations
import ScriptBridge.Proofs.Bridge.HostVariables
import ScriptBridge.Proofs.Bridge.TextPasses

/-!
# Variables that are no longer linked

The end of a link shows neither in the interpreter, where its name becomes that of a plain variable
with the same text, nor on the side of the host. From then on the two have nothing to do with each
other, whatever else is linked: the name is never used again, and until the variable of the host is
linked once more, no link leads to it.
-/

namespace ScriptBridge

/-! ## Plain variables and links -/

theorem Settings.isQualified_variableName (settings : Settings) (number : Nat) :
    Name.isQualified (settings.variableName number) = true := by
  have spelled : settings.variableName number =
      settings.namespaceName ++ "::" ++ ("variable" ++ toString number) := by
    have stem : "::variable" = "::" ++ "variable" := rfl
    unfold variableName variableStem
    rw [stem]
    simp only [String.append_assoc]
  rw [spelled]
  exact Name.isQualified_append _ _

namespace VariableStore

/-- The end of a link does not change what any name reads as. -/
theorem get?_unlink
    (store : VariableStore)
    (cells : Cells)
    (name other : String) :
    (store.unlink cells name).get? cells other = store.get? cells other := by
  unfold unlink
  dsimp only
  cases linked : store.links[Name.key name]? with
  | none => rfl
  | some link =>
      unfold get? globalKey?
      dsimp only
      split
      · rename_i key _
        unfold getGlobal?
        dsimp only
        rw [Std.TreeMap.getElem?_erase, Std.TreeMap.getElem?_insert]
        by_cases here : Name.key name = key
        · rw [if_pos (Std.compare_eq_iff_eq.mpr here), if_pos (Std.compare_eq_iff_eq.mpr here),
            ← here, linked]
        · rw [if_neg (mt Std.compare_eq_iff_eq.mp here), if_neg (mt Std.compare_eq_iff_eq.mp here)]
      · rfl

/-- A name that no link has reads as the plain variable. -/
theorem get?_of_unlinked
    {store : VariableStore}
    {name : String}
    (qualified : Name.isQualified name = true)
    (unlinked : store.links[Name.key name]? = none)
    (cells : Cells) :
    store.get? cells name = store.globals[Name.key name]? := by
  rw [get?_of_isQualified qualified]
  unfold getGlobal?
  rw [unlinked]

/-- Plain variables are the same, and links have their places. -/
structure SamePlain (before after : VariableStore) : Prop where
  globals : after.globals = before.globals
  links : before.SameLinks after

theorem SamePlain.refl (store : VariableStore) : store.SamePlain store :=
  ⟨rfl, fun _ => rfl⟩

theorem SamePlain.trans
    {before middle after : VariableStore}
    (first : before.SamePlain middle)
    (second : middle.SamePlain after) :
    before.SamePlain after :=
  ⟨second.globals.trans first.globals, fun key => (second.links key).trans (first.links key)⟩

/-- What a name reads as that no link has is not up to the host. -/
theorem SamePlain.get?_eq
    {before after : VariableStore}
    {name : String}
    (same : before.SamePlain after)
    (qualified : Name.isQualified name = true)
    (unlinked : before.links[Name.key name]? = none)
    (cells changed : Cells) :
    after.get? changed name = before.get? cells name := by
  have unlinkedThen : after.links[Name.key name]? = none := by
    have place := same.links (Name.key name)
    rw [unlinked] at place
    exact Option.map_eq_none_iff.mp place
  rw [get?_of_unlinked qualified unlinked, get?_of_unlinked qualified unlinkedThen, same.globals]

end VariableStore

namespace Conduct

open Session

/-! ## What hosts and passes leave as it is -/

/-- Sessions keep their plain variables. -/
def keepingPlain : Conduct World :=
  eachSession (fun before after => before.interp.store.SamePlain after.interp.store)
    (fun session => .refl session.interp.store) fun _ _ _ => .trans

variable {eval : SessionEvaluator}

theorem keepingPlain_setting (target : HostVariable) (value : target.Value) :
    keepingPlain.Keeps ((World.answer (target.setting value)).run eval) := by
  cases target
  all_goals exact keeps_always (keeps_alter fun world => keepingPlain.refl world)

theorem keepingPlain_syncToHost (id : SessionId) :
    keepingPlain.Keeps ((World.answer (.syncToHost id)).run eval) := by
  refine keeps_always (keeps_inSession ?_ id)
  intro machine
  unfold KeepsFrom
  rw [run_syncToHost]
  exact eachSession_atWork rfl rfl (.refl _)

theorem keepingPlain_syncToInterpreter (id : SessionId) :
    keepingPlain.Keeps ((World.answer (.syncToInterpreter id)).run eval) := by
  refine keeps_always (keeps_inSession ?_ id)
  intro machine
  unfold KeepsFrom
  rw [run_syncToInterpreter]
  refine eachSession_atWork rfl rfl ⟨?_, VariableStore.sameLinks_setBuffers _⟩
  show (VariableStore.setBuffers _ _).globals = _
  rw [VariableStore.setBuffers_eq]

end Conduct

namespace Session

/-- A pass to the host leaves texts alone that its session has not linked. -/
theorem valueOf_withTexts
    {machine : SessionMachine}
    {target : HostVariable}
    (unlinked : machine.host.session.links.name? target = none) :
    valueOf (withTexts machine (linked machine)) target = valueOf machine target := by
  cases target with
  | int | float => rfl
  | text id =>
      apply texts_withTexts_of_not_mem
      rintro entry member rfl
      have linked := name?_of_mem_linked member
      rw [unlinked] at linked
      cases linked

end Session

namespace World

/-! ## Ends of links -/

/-- What a variable of the host holds. -/
def value (world : World) (target : HostVariable) : target.Value :=
  target.value world.cells world.texts

/-- What a name reads as in a session. -/
def reading (world : World) (id : SessionId) (name : String) : Option String :=
  world.sessions[id]?.bind fun session => (world.machineOf id session).valueOf? name

variable
  {world : World}
  {id : SessionId}
  {session : OpenSession}
  {target : HostVariable}
  {name : String}

/-- All names read as before in the world around a session where they do so in the session. -/
theorem reading_ofMachine
    {before after : SessionMachine}
    (sameRunning : after.host.running = before.host.running)
    (sameSessions : after.host.sessions = before.host.sessions)
    (sameCells : after.cells = before.cells)
    (values : ∀ name, after.valueOf? name = before.valueOf? name) :
    (ofMachine after).reading = (ofMachine before).reading := by
  funext id name
  unfold reading
  rw [Conduct.sessions_ofMachine, Conduct.sessions_ofMachine, sameRunning, sameSessions]
  split
  · split
    · rw [Option.bind_some, Option.bind_some]
      exact values name
    · rw [Option.bind_none, Option.bind_none]
  · show (before.host.sessions[id]?.bind fun other => other.interp.store.get? after.cells name) =
      before.host.sessions[id]?.bind fun other => other.interp.store.get? before.cells name
    rw [sameCells]

/-- The end of a link shows on neither side. -/
theorem answer_unlink
    (found : world.sessions[id]? = some session)
    (linked : session.state.links.name? target = some name) :
    ∃ (unlinked : World) (after : OpenSession),
      (∀ eval, (answer (.unlink id target)).outcome eval world = (.ok (.ok ()), unlinked)) ∧
      unlinked.value = world.value ∧
      unlinked.reading = world.reading ∧
      unlinked.sessions[id]? = some after ∧
      after.state.settings = session.state.settings ∧
      after.state.links.nextId = session.state.links.nextId ∧
      ∀ other, after.state.links.name? other =
        if target = other then none else session.state.links.name? other := by
  let machine := world.machineOf id session
  let erased : SessionMachine :=
    { machine with
      host := { machine.host with
        session := { session.state with links := session.state.links.erase target } } }
  let ended := Session.withGuards (erased.unlink name)
    (.unlinked target :: erased.host.session.links.history)
  have ran : (Session.endLink target).run.run machine = (.ok (), ended) := by
    have linkedHere : machine.host.session.links.name? target = some name := linked
    have unlinks := Session.run_unlink machine target
    rw [linkedHere] at unlinks
    exact Session.run_noting unlinks _
  have inside : id < world.sessions.size := (Array.getElem?_eq_some_iff.mp found).1
  refine ⟨ofMachine ended, ⟨ended.interp, ended.host.session⟩, ?_, rfl, ?_,
    Array.getElem?_setIfInBounds_self_of_lt inside, rfl, ?_, ?_⟩
  · intro eval
    exact outcome_always
      (outcome_inSession (fun _ => Session.endLink target) found ran rfl rfl).1
  · have sameReading : (ofMachine ended).reading = (ofMachine machine).reading :=
      reading_ofMachine rfl rfl rfl fun other => VariableStore.get?_unlink _ _ _ other
    rw [sameReading, ofMachine_machineOf found]
  · exact LinkTable.nextId_erase _ _
  · exact fun other => LinkTable.name?_erase _ _ _

theorem every_answer_unlink
    {eval : SessionEvaluator}
    {unlinked : World}
    {result : Except Unfinished (Except Failure Unit)}
    (answered : (answer (.unlink id target)).outcome eval world = (result, unlinked))
    (every : world.Every OpenSession.LinksMirrored) :
    unlinked.Every OpenSession.LinksMirrored := by
  have keeps : (Conduct.everySession OpenSession.LinksMirrored).Keeps
      ((answer (.unlink id target)).run eval) :=
    Conduct.keeps_always
      (Conduct.keeps_inSession (Conduct.linksMirrored_allowsGuards.unlinked target) id)
  have kept := keeps world every
  unfold WorldAction.outcome at answered
  rwa [answered] at kept

/-! ## Reachable worlds -/

/-- Whatever the host sets a variable to, and whatever texts are copied, a name reads as before. -/
structure ReadsApart
    (world : World)
    (id : SessionId)
    (name : String)
    (target : HostVariable) : Prop where
  set : ∀ value eval,
    ((answer (target.setting value)).outcome eval world).2.reading id name = world.reading id name
  passes : ∀ other, ∀ pass ∈ [Request.syncToHost other, .syncToInterpreter other], ∀ eval,
    ((answer pass).outcome eval world).2.reading id name = world.reading id name

/-- A session changes a variable of the host neither with its commands, unless they are commands of
the host that do so, nor with its passes; and its commands do not link the variable. -/
structure LeavesAlone
    (world : World)
    (id : SessionId)
    (session : OpenSession)
    (target : HostVariable) : Prop where
  commands : ∀ after, Machine.Change freeSlot (world.machineOf id session) after →
    (ofMachine after).value target = world.value target ∧
      after.host.session.links.name? target = none
  scripts : ∀ hosts : HostCommands Nat HostState,
    hosts.release = freeSlot → hosts.Keeps (Conduct.sparing target) → ∀ fuel text,
      let after := (((evaluator hosts fuel).script text).run.run (world.machineOf id session)).2
      (ofMachine after).value target = world.value target ∧
        after.host.session.links.name? target = none
  passes : ∀ pass ∈ [Request.syncToHost id, .syncToInterpreter id], ∀ eval,
    ((answer pass).outcome eval world).2.value target = world.value target

theorem readsApart
    (found : world.sessions[id]? = some session)
    (qualified : Name.isQualified name = true)
    (plain : session.interp.store.links[Name.key name]? = none) :
    world.ReadsApart id name target := by
  have same {finished : Bool} {after : World}
      (kept : Conduct.keepingPlain.allows finished world after) :
      after.reading id name = world.reading id name := by
    obtain ⟨later, foundLater, samePlain⟩ := kept id session found
    unfold reading
    rw [found, foundLater, Option.bind_some, Option.bind_some]
    exact samePlain.get?_eq qualified plain _ _
  constructor
  · intro value eval
    exact same (Conduct.keepingPlain_setting target value world)
  · intro other pass isPass eval
    rcases List.mem_pair.mp isPass with rfl | rfl
    · exact same (Conduct.keepingPlain_syncToHost other world)
    · exact same (Conduct.keepingPlain_syncToInterpreter other world)

theorem leavesAlone
    (found : world.sessions[id]? = some session)
    (fits : session.LinksMirrored)
    (unlinked : session.state.links.name? target = none) :
    world.LeavesAlone id session target := by
  let machine := world.machineOf id session
  have misses : Session.Misses machine target := ⟨unlinked, fits.mirrored.misses unlinked⟩
  constructor
  · intro after change
    obtain ⟨missesThen, same⟩ := Conduct.sparing_of_change change misses
    exact ⟨same, missesThen.table⟩
  · intro hosts release spares fuel text after
    obtain ⟨missesThen, same⟩ :=
      (Conduct.sparing_evaluator release spares fuel).script text machine misses
    exact ⟨same, missesThen.table⟩
  · intro pass isPass eval
    rcases List.mem_pair.mp isPass with rfl | rfl
    · have ended : (answer (.syncToHost id)).outcome eval world = _ :=
        outcome_always (outcome_inSession (fun _ => Session.syncToHost) found
          (Session.run_syncToHost machine) rfl rfl).1
      rw [ended]
      exact Session.valueOf_withTexts misses.table
    · have ended : (answer (.syncToInterpreter id)).outcome eval world = _ :=
        outcome_always (outcome_inSession (fun _ => Session.syncToInterpreter) found
          (Session.run_syncToInterpreter machine) rfl rfl).1
      rw [ended]
      rfl

/-- Whatever hosts and scripts have done, also in the midst of an evaluation: when the host ends the
link of a variable, every name goes on reading as it did, and every variable of the host keeps its
value. In all that may come then, the name is no longer affected by what the host sets the variable
to, nor by copied texts; and a session that has not linked the variable affects it neither with its
commands nor with its passes. The session of the link is among them until it links the variable once
more, which it does under a new number. -/
theorem unlinking_separates
    (environment : Settings.Environment)
    (sessions : List (InterpAccess × Settings))
    (valid : ∀ entry ∈ sessions, entry.2.validate = .ok ())
    {world : World}
    (reachable : (opened environment sessions).Continues world)
    {id : SessionId}
    {session : OpenSession}
    (found : world.sessions[id]? = some session)
    {target : HostVariable}
    {name : String}
    (linked : session.state.links.name? target = some name) :
    ∃ unlinked : World,
      (∀ eval, (answer (.unlink id target)).outcome eval world = (.ok (.ok ()), unlinked)) ∧
      unlinked.value = world.value ∧
      unlinked.reading = world.reading ∧
      (∃ ended, unlinked.sessions[id]? = some ended ∧ ended.state.links.name? target = none) ∧
      ∀ later, unlinked.Continues later →
        later.ReadsApart id name target ∧
        ∀ other present, later.sessions[other]? = some present →
          (present.state.links.name? target = none → later.LeavesAlone other present target) ∧
          ∀ before, unlinked.sessions[other]? = some before →
            before.state.links.name? target = none →
              present.state.links.name? target = none ∨
                ∃ number ≥ before.state.links.nextId, present.state.links.name? target =
                  some (before.state.settings.variableName number) := by
  have everyBefore := reachable.linksMirrored (linksMirrored_opened environment valid)
  have mirrored := (everyBefore id session found).mirrored
  obtain ⟨unlinked, ended, answered, values, readings, there, settings, nextId, names⟩ :=
    answer_unlink found linked
  have every : unlinked.Every OpenSession.LinksMirrored :=
    every_answer_unlink (answered (Session.evaluatorOf 0)) everyBefore
  refine ⟨unlinked, answered, values, readings, ⟨ended, there, ?_⟩, ?_⟩
  · rw [names, if_pos rfl]
  · intro later continues
    have everyLater := continues.linksMirrored every
    have spent := continues.namesSpent
    constructor
    · obtain ⟨own, foundOwn, spentOwn⟩ := spent id ended there
      obtain ⟨number, below, rfl⟩ := mirrored.generated linked
      rw [← nextId] at below
      have free (other : HostVariable) : ended.state.links.name? other ≠
          some (ended.state.settings.variableName number) := by
        intro linkedOther
        rw [names, settings] at linkedOther
        split at linkedOther
        · cases linkedOther
        · rename_i apart
          exact apart (mirrored.distinct linked linkedOther)
      have plain := spentOwn.unlinked (everyLater id own foundOwn) below free
      rw [← settings]
      apply readsApart foundOwn (Settings.isQualified_variableName _ _)
      rwa [Settings.key_variableName (every id ended there).valid]
    · intro other present foundLater
      refine ⟨leavesAlone foundLater (everyLater other present foundLater), ?_⟩
      intro before foundBefore unlinkedBefore
      obtain ⟨own, foundOwn, spentOwn⟩ := spent other before foundBefore
      obtain rfl := Option.some.inj (foundLater.symm.trans foundOwn)
      exact spentOwn.linked_anew (everyLater other present foundLater) unlinkedBefore

/-- A text that the host has set since it was linked and that has not been copied: both sides keep
what they have, and no pass copies it any more. -/
theorem unlinking_separates_of_new_text :
    let program : HostProgram :=
      .ask (.link 0 (.text 1)) fun _ => .ask (.setText 1 "new") fun _ => .finish none
    let world := (program.outcome 0 (opened (fun _ => none) [(.open, {})])).2
    ∃ unlinked : World,
      (∀ eval, (answer (.unlink 0 (.text 1))).outcome eval world = (.ok (.ok ()), unlinked)) ∧
      unlinked.value (.text 1) = "new" ∧
      unlinked.reading 0 "rtk::variable0" = some "" ∧
      ∀ eval,
        ((answer (.syncToHost 0)).outcome eval unlinked).2.value (.text 1) = "new" ∧
        ((answer (.syncToInterpreter 0)).outcome eval unlinked).2.reading 0 "rtk::variable0" =
          some "" := by
  intro program world
  have looked : world.value (.text 1) = "new" ∧ world.reading 0 "rtk::variable0" = some "" ∧
      (world.sessions[0]?.map fun session => session.state.links.name? (.text 1)) =
        some (some "rtk::variable0") := by
    decide +kernel
  have reachable : (opened (fun _ => none) [(.open, {})]).Continues world :=
    .ran .refl program 0
  clear_value world
  obtain ⟨value, reads, names⟩ := looked
  obtain ⟨session, found, linked⟩ := Option.map_eq_some_iff.mp names
  have valid : ∀ entry ∈ [(InterpAccess.open, ({} : Settings))], entry.2.validate = .ok () := by
    decide
  obtain ⟨unlinked, answered, values, readings, ⟨ended, there, free⟩, separate⟩ :=
    unlinking_separates (fun _ => none) [(.open, {})] valid reachable found linked
  obtain ⟨reading, sessions⟩ := separate unlinked .refl
  have alone := (sessions 0 ended there).1 free
  rw [← values] at value
  rw [← readings] at reads
  refine ⟨unlinked, answered, value, reads, fun eval => ⟨?_, ?_⟩⟩
  · rw [alone.passes _ List.mem_cons_self eval, value]
  · rw [reading.passes 0 _ (List.mem_cons_of_mem _ List.mem_cons_self) eval, reads]

end World

end ScriptBridge
