import ScriptBridge.Proofs.Bridge.Calls
import ScriptBridge.Proofs.Interp.VariableStorage

/-!
# Passes over linked texts

One pass copies the linked texts to the interpreter, the other one copies them back. After either of
them the other one changes nothing. It does not matter in which order a pass goes through the linked
texts, as each has a variable and a buffer of its own; and nothing else is touched.
-/

namespace ScriptBridge

namespace Session

variable {machine : SessionMachine}

/-! ## What a pass leaves -/

/-- Linked texts, in any order: no text stands twice, and no two have the same buffer. -/
structure Apart (entries : List (Nat × String)) : Prop where
  texts : entries.Pairwise fun first second => first.1 ≠ second.1
  buffers : entries.Pairwise fun first second => Name.key first.2 ≠ Name.key second.2

theorem HasBuffers.apart_linked (hasBuffers : HasBuffers machine) : Apart (linked machine) where
  texts :=
    machine.host.session.links.texts.distinct_keys_toList.imp
      fun differ same => differ (Std.compare_eq_iff_eq.mpr same)
  buffers := hasBuffers.apart

theorem Apart.perm
    {entries others : List (Nat × String)}
    (apart : Apart entries)
    (same : others.Perm entries) :
    Apart others where
  texts := same.symm.pairwise apart.texts fun differ => Ne.symm differ
  buffers := same.symm.pairwise apart.buffers fun differ => Ne.symm differ

variable {entries : List (Nat × String)}

theorem texts_withTexts_of_mem
    (apart : Apart entries)
    {entry : Nat × String}
    (member : entry ∈ entries) :
    (withTexts machine entries).host.texts.getD entry.1 "" =
      (machine.interp.store.buffer? entry.2).getD "" := by
  have distinct : (entries.map fun entry =>
      (entry.1, (machine.interp.store.buffer? entry.2).getD "")).Pairwise
        fun first second => ¬compare first.1 second.1 = .eq := by
    rw [List.pairwise_map]
    exact apart.texts.imp fun differ => mt Std.compare_eq_iff_eq.mp differ
  exact Std.TreeMap.getD_insertMany_list_of_mem (Std.compare_eq_iff_eq.mpr rfl) distinct
    (List.mem_map_of_mem member)

theorem texts_withTexts_of_not_mem
    {id : Nat}
    (others : ∀ entry ∈ entries, entry.1 ≠ id) :
    (withTexts machine entries).host.texts.getD id "" = machine.host.texts.getD id "" := by
  apply Std.TreeMap.getD_insertMany_list_of_contains_eq_false
  rw [List.map_map, ← Bool.not_eq_true, List.contains_iff_mem, List.mem_map]
  rintro ⟨entry, member, here⟩
  exact others entry member here

theorem links_withBuffers_of_mem
    (apart : Apart entries)
    {entry : Nat × String}
    (member : entry ∈ entries) :
    (withBuffers machine entries).interp.store.links[Name.key entry.2]? =
      machine.interp.store.links[Name.key entry.2]?.map
        (Link.withBuffer (machine.host.texts.getD entry.1 "")) := by
  let buffers := entries.map fun entry => (entry.2, machine.host.texts.getD entry.1 "")
  have distinct : buffers.Pairwise fun first second => Name.key first.1 ≠ Name.key second.1 := by
    rw [List.pairwise_map]
    exact apart.buffers
  have listed : (entry.2, machine.host.texts.getD entry.1 "") ∈ buffers :=
    List.mem_map_of_mem member
  have set := machine.interp.store.getElem?_setBuffers_of_mem distinct _ listed
  show (machine.interp.store.setBuffers buffers).links[Name.key entry.2]? = _
  exact set

theorem links_withBuffers_of_not_mem
    {key : String}
    (others : ∀ entry ∈ entries, Name.key entry.2 ≠ key) :
    (withBuffers machine entries).interp.store.links[key]? = machine.interp.store.links[key]? := by
  apply VariableStore.getElem?_setBuffers_of_not_mem
  intro buffer listed
  obtain ⟨entry, member, rfl⟩ := List.mem_map.mp listed
  exact others entry member

theorem withBuffers_eq (machine : SessionMachine) (entries : List (Nat × String)) :
    withBuffers machine entries =
      { machine with
        interp := { machine.interp with
          store := { machine.interp.store with
            links := (withBuffers machine entries).interp.store.links } } } :=
  congrArg (fun store => { machine with interp := { machine.interp with store } })
    (VariableStore.setBuffers_eq _ _)

/-! ## Machines that read the same -/

/-- All texts and all links read the same, and everything else is the same. -/
structure Alike (first second : SessionMachine) : Prop where
  texts : ∀ id, second.host.texts.getD id "" = first.host.texts.getD id ""
  links : ∀ key : String, second.interp.store.links[key]? = first.interp.store.links[key]?
  rest : second =
    { first with
      interp := { first.interp with
        store := { first.interp.store with links := second.interp.store.links } }
      host := { first.host with texts := second.host.texts } }

/-- The order in which a pass to the host goes through the texts does not matter. -/
theorem alike_withTexts
    (apart : Apart entries)
    {others : List (Nat × String)}
    (same : others.Perm entries) :
    Alike (withTexts machine entries) (withTexts machine others) where
  texts id := by
    by_cases listed : ∃ entry ∈ entries, entry.1 = id
    · obtain ⟨entry, member, rfl⟩ := listed
      rw [texts_withTexts_of_mem apart member,
        texts_withTexts_of_mem (apart.perm same) (same.mem_iff.mpr member)]
    · have elsewhere : ∀ entry ∈ entries, entry.1 ≠ id :=
        fun entry member here => listed ⟨entry, member, here⟩
      rw [texts_withTexts_of_not_mem elsewhere,
        texts_withTexts_of_not_mem fun entry member => elsewhere entry (same.mem_iff.mp member)]
  links _ := rfl
  rest := rfl

/-- The order in which a pass to the interpreter goes through the texts does not matter. -/
theorem alike_withBuffers
    (apart : Apart entries)
    {others : List (Nat × String)}
    (same : others.Perm entries) :
    Alike (withBuffers machine entries) (withBuffers machine others) where
  texts _ := rfl
  links key := by
    by_cases listed : ∃ entry ∈ entries, Name.key entry.2 = key
    · obtain ⟨entry, member, rfl⟩ := listed
      rw [links_withBuffers_of_mem apart member,
        links_withBuffers_of_mem (apart.perm same) (same.mem_iff.mpr member)]
    · have elsewhere : ∀ entry ∈ entries, Name.key entry.2 ≠ key :=
        fun entry member here => listed ⟨entry, member, here⟩
      rw [links_withBuffers_of_not_mem elsewhere,
        links_withBuffers_of_not_mem fun entry member => elsewhere entry (same.mem_iff.mp member)]
  rest := by
    rw [withBuffers_eq machine others, withBuffers_eq machine entries]

/-- Where the linked texts agree, the pass to the host changes nothing. -/
theorem HasBuffers.alike_withTexts
    (hasBuffers : HasBuffers machine)
    (agree : ∀ copy ∈ copies machine, copy.Agrees) :
    Alike machine (withTexts machine (linked machine)) where
  texts id := by
    by_cases listed : ∃ entry ∈ linked machine, entry.1 = id
    · obtain ⟨entry, member, rfl⟩ := listed
      have agrees : machine.interp.store.buffer? entry.2 =
          some (machine.host.texts.getD entry.1 "") :=
        agree _ (List.mem_map_of_mem member)
      rw [texts_withTexts_of_mem hasBuffers.apart_linked member, agrees]
      rfl
    · exact texts_withTexts_of_not_mem fun entry member here => listed ⟨entry, member, here⟩
  links _ := rfl
  rest := rfl

/-- Where the linked texts agree, the pass to the interpreter changes nothing. -/
theorem HasBuffers.alike_withBuffers
    (hasBuffers : HasBuffers machine)
    (agree : ∀ copy ∈ copies machine, copy.Agrees) :
    Alike machine (withBuffers machine (linked machine)) where
  texts _ := rfl
  links key := by
    by_cases listed : ∃ entry ∈ linked machine, Name.key entry.2 = key
    · obtain ⟨entry, member, rfl⟩ := listed
      have agrees : machine.interp.store.buffer? entry.2 =
          some (machine.host.texts.getD entry.1 "") :=
        agree _ (List.mem_map_of_mem member)
      rw [links_withBuffers_of_mem hasBuffers.apart_linked member]
      unfold VariableStore.buffer? at agrees
      split at agrees
      · rename_i buffer found
        obtain rfl := Option.some.inj agrees
        rw [found]
        rfl
      · cases agrees
    · exact links_withBuffers_of_not_mem fun entry member here => listed ⟨entry, member, here⟩
  rest := withBuffers_eq machine _

/-! ## What passes do not touch -/

/-- Texts of the host that are not linked stay as they were, and so does all that is no text of the
host: the numbers of the host, and with the interpreter all its variables. -/
structure TextsOnly (before after : SessionMachine) : Prop where
  texts : ∀ id, (∀ entry ∈ linked before, entry.1 ≠ id) →
    after.host.texts.getD id "" = before.host.texts.getD id ""
  rest : after = { before with host := { before.host with texts := after.host.texts } }

/-- Variables of the interpreter that are no linked texts stay as they were, and so does all that is
no link: the variables of the host among it. -/
structure BuffersOnly (before after : SessionMachine) : Prop where
  values : ∀ name, (∀ entry ∈ linked before, before.storage name ≠ .buffer (Name.key entry.2)) →
    after.valueOf? name = before.valueOf? name
  rest : after =
    { before with
      interp := { before.interp with
        store := { before.interp.store with links := after.interp.store.links } } }

theorem textsOnly_withTexts (machine : SessionMachine) :
    TextsOnly machine (withTexts machine (linked machine)) where
  texts _ elsewhere := texts_withTexts_of_not_mem elsewhere
  rest := rfl

theorem buffersOnly_withBuffers (machine : SessionMachine) :
    BuffersOnly machine (withBuffers machine (linked machine)) where
  values name elsewhere := by
    let after := withBuffers machine (linked machine)
    have sameKey : after.interp.store.globalKey? name = machine.interp.store.globalKey? name := by
      dsimp only [after]
      rw [withBuffers_eq]
      rfl
    have storage : after.interp.store.storage name = machine.interp.store.storage name :=
      VariableStore.storage_of_same sameKey (VariableStore.sameLinks_setBuffers _)
    show after.interp.store.get? machine.cells name = machine.interp.store.get? machine.cells name
    rw [VariableStore.get?_eq_read?, VariableStore.get?_eq_read?, storage]
    cases place : machine.interp.store.storage name with
    | buffer key =>
        have same : after.interp.store.links[key]? = machine.interp.store.links[key]? := by
          apply links_withBuffers_of_not_mem
          rintro entry member rfl
          exact elsewhere entry member place
        unfold Storage.read?
        dsimp only
        rw [same]
    | innermost | global | int | float =>
        dsimp only [after]
        rw [withBuffers_eq]
        rfl
  rest := withBuffers_eq machine _

end Session

/-! ## Reachable worlds -/

namespace World

open Session

/-- Whatever hosts and scripts do, also where a run is cut short: after the pass to the interpreter
all linked texts agree, and the pass to the host behind it changes nothing; after the pass to the
host they agree as well, and the pass to the interpreter behind it changes nothing. The one pass
touches buffers of linked texts and nothing else, the other one linked texts of the host and nothing
else. In whatever order a pass goes through the linked texts, it has the same effect. -/
theorem text_passes_invert
    (environment : Settings.Environment)
    (sessions : List (InterpAccess × Settings))
    (valid : ∀ entry ∈ sessions, entry.2.validate = .ok ())
    (program : HostProgram)
    (fuel : Nat)
    {id : SessionId}
    {session : OpenSession}
    (found : (program.outcome fuel (opened environment sessions)).2.sessions[id]? = some session) :
    let machine := (program.outcome fuel (opened environment sessions)).2.machineOf id session
    (∃ published again,
      syncToInterpreter.run.run machine = (.ok (), published) ∧
      syncToHost.run.run published = (.ok (), again) ∧
      (∀ copy ∈ copies published, copy.Agrees) ∧
      BuffersOnly machine published ∧
      Alike published again ∧
      ∀ entries, entries.Perm (linked machine) → ∃ other,
        (copyToInterpreter entries).run.run machine = (.ok (), other) ∧ Alike published other) ∧
    ∃ fetched again,
      syncToHost.run.run machine = (.ok (), fetched) ∧
      syncToInterpreter.run.run fetched = (.ok (), again) ∧
      (∀ copy ∈ copies fetched, copy.Agrees) ∧
      TextsOnly machine fetched ∧
      Alike fetched again ∧
      ∀ entries, entries.Perm (linked machine) → ∃ other,
        (copyToHost entries).run.run machine = (.ok (), other) ∧ Alike fetched other := by
  intro machine
  have kept := Conduct.linksMirrored_allowsHosts.allows_outcome program fuel
    (opened environment sessions)
  have mirrored := kept (linksMirrored_opened environment valid) id session found
  have here : HasBuffers machine := hasBuffers machine mirrored
  constructor
  · let published := withBuffers machine (linked machine)
    have agree : ∀ copy ∈ copies published, copy.Agrees := here.agrees_withBuffers
    have mirroredThen : OpenSession.LinksMirrored ⟨published.interp, published.host.session⟩ :=
      ⟨mirrored.valid, mirrored.mirrored.sameLinks (VariableStore.sameLinks_setBuffers _)⟩
    have behind : HasBuffers published := hasBuffers published mirroredThen
    refine ⟨published, _, run_syncToInterpreter machine, run_syncToHost published, agree,
      buffersOnly_withBuffers machine, behind.alike_withTexts agree, ?_⟩
    intro entries same
    exact ⟨_, run_copyToInterpreter machine entries, alike_withBuffers here.apart_linked same⟩
  · let fetched := withTexts machine (linked machine)
    have agree : ∀ copy ∈ copies fetched, copy.Agrees := here.agrees_withTexts
    have behind : HasBuffers fetched := hasBuffers fetched mirrored
    refine ⟨fetched, _, run_syncToHost machine, run_syncToInterpreter fetched, agree,
      textsOnly_withTexts machine, behind.alike_withBuffers agree, ?_⟩
    intro entries same
    exact ⟨_, run_copyToHost machine entries, alike_withTexts here.apart_linked same⟩

/-- A text that the host has set since it was linked is published, and stays when it is fetched. -/
theorem text_passes_invert_of_new_text :
    let program : HostProgram :=
      .ask (.link 0 (.text 1)) fun _ => .ask (.setText 1 "new") fun _ => .finish none
    let world := (program.outcome 0 (opened (fun _ => none) [(.open, {})])).2
    ∃ (session : OpenSession) (published again : SessionMachine),
      world.sessions[0]? = some session ∧
      session.interp.store.buffer? "rtk::variable0" = some "" ∧
      syncToInterpreter.run.run (world.machineOf 0 session) = (.ok (), published) ∧
      published.interp.store.buffer? "rtk::variable0" = some "new" ∧
      syncToHost.run.run published = (.ok (), again) ∧
      again.host.texts.getD 1 "" = "new" := by
  intro program world
  have looked : world.texts.getD 1 "" = "new" ∧
      (world.sessions[0]?.map fun session =>
        (session.interp.store.buffer? "rtk::variable0", session.state.links.texts.toList)) =
          some (some "", [(1, "rtk::variable0")]) := by
    decide +kernel
  have here : world = (program.outcome 0 (opened (fun _ => none) [(.open, {})])).2 := rfl
  clear_value world
  obtain ⟨text, sees⟩ := looked
  obtain ⟨session, found, looks⟩ := Option.map_eq_some_iff.mp sees
  obtain ⟨buffer, texts⟩ := Prod.mk.inj looks
  have valid : ∀ entry ∈ [(InterpAccess.open, ({} : Settings))], entry.2.validate = .ok () := by
    decide
  obtain ⟨⟨published, again, publishes, fetches, agree, only, alike, -⟩, -⟩ :=
    text_passes_invert (fun _ => none) [(.open, {})] valid program 0 (here ▸ found)
  rw [← here] at publishes only
  have textThen : published.host.texts.getD 1 "" = "new" := by
    rw [only.rest]
    exact text
  have listed : (1, "rtk::variable0") ∈ linked published := by
    rw [only.rest]
    show _ ∈ session.state.links.texts.toList
    rw [texts]
    exact List.mem_cons_self
  refine ⟨session, published, again, found, buffer, publishes, ?_, fetches, ?_⟩
  · rw [← textThen]
    exact agree _ (List.mem_map_of_mem listed)
  · rw [alike.texts, textThen]

end World

end ScriptBridge
