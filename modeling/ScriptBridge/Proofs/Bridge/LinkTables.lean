import Mathlib.Data.List.Nodup
import ScriptBridge.Proofs.Bridge.GeneratedNames
import ScriptBridge.Proofs.Bridge.Programs
import Std.Data.String.ToNat

/-!
# Linked variables and their links

A linked variable is kept twice: in a table of its session, under a generated name, and as a link of
the interpreter. Scripts may set and unset linked variables as they like. Still the tables name
exactly the links of the interpreter, each of them with the variable that it reads and writes.
-/

namespace ScriptBridge

/-! ## Names -/

/-- The generated name with a number. -/
def Settings.variableName (settings : Settings) (number : Nat) : String :=
  settings.variableStem ++ toString number

namespace Settings

variable {settings : Settings}

theorem variableName_inj {first second : Nat} :
    settings.variableName first = settings.variableName second ↔ first = second := by
  constructor
  · intro same
    exact Nat.repr_inj.mp ((String.append_right_inj settings.variableStem).mp same)
  · rintro rfl
    rfl

theorem key_variableName
    (valid : settings.validate = .ok ())
    (number : Nat) :
    Name.key (settings.variableName number) = settings.variableName number := by
  rw [variableName, variableStem, String.append_assoc]
  exact key_append_of_isIdentifier (validate_eq_ok_iff.mp valid) _

end Settings

/-! ## Tables of a session -/

/-- The link of a host variable, apart from the text in its buffer. -/
def HostVariable.place : HostVariable → Link
  | int id => .int id
  | float id => .float id
  | text _ => .text ""

namespace LinkTable

variable (table : LinkTable) (name : String) (target other : HostVariable)

theorem name?_insert :
    (table.insert name target).name? other =
      if target = other then some name else table.name? other := by
  cases target <;> cases other <;>
    simp [LinkTable.insert, name?, Std.TreeMap.getElem?_insert]

theorem name?_erase :
    (table.erase target).name? other =
      if target = other then none else table.name? other := by
  cases target <;> cases other <;>
    simp [LinkTable.erase, name?, Std.TreeMap.getElem?_erase]

theorem nextId_insert : (table.insert name target).nextId = table.nextId := by
  cases target <;> rfl

theorem nextId_erase : (table.erase target).nextId = table.nextId := by
  cases target <;> rfl

/-- All linked variables with their names. -/
def entries : List (HostVariable × String) :=
  table.ints.toList.map (fun entry => (.int entry.1, entry.2)) ++
    table.floats.toList.map (fun entry => (.float entry.1, entry.2)) ++
    table.texts.toList.map (fun entry => (.text entry.1, entry.2))

theorem mem_entries : (target, name) ∈ table.entries ↔ table.name? target = some name := by
  cases target <;> simp [entries, name?]

/-- No variable is linked twice. -/
theorem nodup_entries : (table.entries.map Prod.fst).Nodup := by
  have nodupKind {α : Type} (map : Std.TreeMap Nat α) {kind : Nat → HostVariable}
      (injective : Function.Injective kind) :
      (map.toList.map fun entry => kind entry.1).Nodup := by
    have fromKeys : (map.toList.map fun entry => kind entry.1) = map.keys.map kind := by
      rw [← Std.TreeMap.map_fst_toList_eq_keys, List.map_map]
      rfl
    rw [fromKeys]
    exact map.nodup_keys.map injective
  simp only [entries, List.map_append, List.map_map, Function.comp_def]
  have ints := nodupKind table.ints fun _ _ => HostVariable.int.inj
  have floats := nodupKind table.floats fun _ _ => HostVariable.float.inj
  have texts := nodupKind table.texts fun _ _ => HostVariable.text.inj
  refine (ints.append floats ?_).append texts ?_
  · intro target isInt isFloat
    obtain ⟨_, _, rfl⟩ := List.mem_map.mp isInt
    obtain ⟨_, _, same⟩ := List.mem_map.mp isFloat
    cases same
  · intro target isNumber isText
    obtain ⟨_, _, rfl⟩ := List.mem_map.mp isText
    rcases List.mem_append.mp isNumber with isInt | isFloat
    · obtain ⟨_, _, same⟩ := List.mem_map.mp isInt
      cases same
    · obtain ⟨_, _, same⟩ := List.mem_map.mp isFloat
      cases same

end LinkTable

/-- The table of linked variables and the links of the interpreter fit together. -/
structure Mirrored
    (settings : Settings)
    (table : LinkTable)
    (links : Std.TreeMap String Link) : Prop where
  generated : ∀ {target : HostVariable} {name : String}, table.name? target = some name →
    ∃ number < table.nextId, name = settings.variableName number
  /-- No two variables share a name. -/
  distinct : ∀ {first second : HostVariable} {name : String},
    table.name? first = some name → table.name? second = some name → first = second
  /-- A linked variable has a link of its own. -/
  linked : ∀ {target : HostVariable} {name : String}, table.name? target = some name →
    links[name]?.map Link.place = some target.place
  /-- Other links do not exist. -/
  named : ∀ {name : String}, name ∈ links → ∃ target, table.name? target = some name

namespace Mirrored

variable {settings : Settings} {table : LinkTable} {links : Std.TreeMap String Link}
  {target : HostVariable} {name : String}

theorem initial (settings : Settings) : Mirrored settings {} {} := by
  have unlinked {target : HostVariable} {name : String} :
      LinkTable.name? {} target ≠ some name := by
    cases target <;> exact fun found => nomatch Std.TreeMap.getElem?_emptyc.symm.trans found
  constructor
  · exact fun found => absurd found unlinked
  · exact fun found => absurd found unlinked
  · exact fun found => absurd found unlinked
  · exact fun linked => absurd linked Std.TreeMap.not_mem_emptyc

variable (mirrored : Mirrored settings table links)

include mirrored

theorem sameLinks
    {after : Std.TreeMap String Link}
    (same : ∀ key : String, after[key]?.map Link.place = links[key]?.map Link.place) :
    Mirrored settings table after where
  generated := mirrored.generated
  distinct := mirrored.distinct
  linked found := by
    rw [same]
    exact mirrored.linked found
  named := by
    intro name linked
    apply mirrored.named
    have there := same name
    rw [Std.TreeMap.mem_iff_isSome_getElem?] at linked ⊢
    rw [← Option.isSome_map, ← there, Option.isSome_map]
    exact linked

/-- A number that is used up stands in no name. -/
theorem fresh (other : HostVariable) :
    table.name? other ≠ some (settings.variableName table.nextId) := by
  intro found
  obtain ⟨number, below, same⟩ := mirrored.generated found
  have equal := Settings.variableName_inj.mp same
  omega

/-- The tables of the interpreter keep a link under its name. -/
theorem key
    (valid : settings.validate = .ok ())
    (found : table.name? target = some name) :
    Name.key name = name := by
  obtain ⟨number, -, rfl⟩ := mirrored.generated found
  exact Settings.key_variableName valid number

/-- The next number is passed over. -/
theorem passed : Mirrored settings { table with nextId := table.nextId + 1 } links where
  generated := by
    intro target name found
    have known : table.name? target = some name := found
    obtain ⟨number, below, same⟩ := mirrored.generated known
    exact ⟨number, Nat.lt_succ_of_lt below, same⟩
  distinct := mirrored.distinct
  linked := mirrored.linked
  named := mirrored.named

/-- Something has happened to a guard. -/
theorem noted (history : List GuardEvent) : Mirrored settings { table with history } links where
  generated := by
    intro target name found
    have known : table.name? target = some name := found
    exact mirrored.generated known
  distinct := mirrored.distinct
  linked := mirrored.linked
  named := mirrored.named

/-- A variable is linked under the next name. -/
theorem inserted
    {link : Link}
    (unlinked : table.name? target = none)
    (place : link.place = target.place) :
    Mirrored settings
      (LinkTable.insert { table with nextId := table.nextId + 1 }
        (settings.variableName table.nextId) target)
      (links.insert (settings.variableName table.nextId) link) := by
  have lookup (other : String) :
      (links.insert (settings.variableName table.nextId) link)[other]? =
        if settings.variableName table.nextId = other then some link else links[other]? := by
    rw [Std.TreeMap.getElem?_insert]
    simp only [Std.compare_eq_iff_eq]
  have name? (other : HostVariable) :
      (LinkTable.insert { table with nextId := table.nextId + 1 }
        (settings.variableName table.nextId) target).name? other =
      if target = other then some (settings.variableName table.nextId) else table.name? other :=
    LinkTable.name?_insert _ _ _ _
  constructor
  · intro other given found
    rw [LinkTable.nextId_insert]
    rw [name?] at found
    split at found
    · exact ⟨table.nextId, Nat.lt_succ_self _, (Option.some.inj found).symm⟩
    · exact mirrored.passed.generated (by exact found)
  · intro first second given foundFirst foundSecond
    rw [name?] at foundFirst foundSecond
    split at foundFirst
    · cases foundFirst
      split at foundSecond
      · rename_i isFirst isSecond
        rw [← isFirst, ← isSecond]
      · exact absurd foundSecond (mirrored.fresh second)
    · split at foundSecond
      · cases foundSecond
        exact absurd foundFirst (mirrored.fresh first)
      · exact mirrored.distinct foundFirst foundSecond
  · intro other given found
    rw [name?] at found
    rw [lookup]
    split at found
    · rename_i here
      subst here
      rw [if_pos (Option.some.inj found), Option.map_some, place]
    · rw [if_neg]
      · exact mirrored.linked found
      · rintro rfl
        exact mirrored.fresh other found
  · intro given linked
    rw [Std.TreeMap.mem_insert, Std.compare_eq_iff_eq] at linked
    rcases linked with rfl | linked
    · exact ⟨target, by rw [name?, if_pos rfl]⟩
    · obtain ⟨other, found⟩ := mirrored.named linked
      refine ⟨other, ?_⟩
      rw [name?, if_neg]
      · exact found
      · rintro rfl
        rw [unlinked] at found
        cases found

/-- A variable is no longer linked. -/
theorem erased
    (found : table.name? target = some name) :
    Mirrored settings (table.erase target) (links.erase name) := by
  have lookup (other : String) : (links.erase name)[other]? =
      if name = other then none else links[other]? := by
    rw [Std.TreeMap.getElem?_erase]
    simp only [Std.compare_eq_iff_eq]
  have remains {other : HostVariable} {given : String}
      (still : (table.erase target).name? other = some given) :
      target ≠ other ∧ table.name? other = some given := by
    rw [LinkTable.name?_erase] at still
    split at still
    · cases still
    · exact ⟨‹_›, still⟩
  constructor
  · intro other given still
    rw [LinkTable.nextId_erase]
    exact mirrored.generated (remains still).2
  · intro first second given stillFirst stillSecond
    exact mirrored.distinct (remains stillFirst).2 (remains stillSecond).2
  · intro other given still
    obtain ⟨apart, still⟩ := remains still
    have otherName : name ≠ given := by
      rintro rfl
      exact apart (mirrored.distinct found still)
    show (links.erase name)[given]?.map Link.place = some other.place
    rw [lookup, if_neg otherName]
    exact mirrored.linked still
  · intro given linked
    obtain ⟨otherName, linked⟩ := Std.TreeMap.mem_erase.mp linked
    obtain ⟨other, still⟩ := mirrored.named linked
    refine ⟨other, ?_⟩
    rw [LinkTable.name?_erase, if_neg]
    · exact still
    · rintro rfl
      rw [found] at still
      obtain rfl := Option.some.inj still
      exact otherName (Std.compare_eq_iff_eq.mpr rfl)

end Mirrored

/-! ## Linking -/

namespace Session

variable {machine : SessionMachine} {target : HostVariable} {name : String}

theorem run_link_of_linked
    (linked : machine.host.session.links.name? target = some name) :
    (link target).run.run machine = (.ok (.ok name), machine) := by
  unfold link
  rw [run_getState_bind, linked]
  rfl

theorem run_linkScoped_of_linked
    (linked : machine.host.session.links.name? target = some name) :
    (linkScoped target).run.run machine =
      (.ok (.ok { session := machine.host.running, target, name, owned := false }), machine) := by
  unfold linkScoped
  rw [run_get_bind]
  dsimp only
  rw [Conduct.run_bind, run_link_of_linked linked, linked]
  rfl

theorem run_linkOf (machine : SessionMachine) (target : HostVariable) :
    ∃ link : Link, link.place = target.place ∧
      (linkOf target).run.run machine = (.ok link, machine) := by
  cases target with
  | int id => exact ⟨.int id, rfl, rfl⟩
  | float id => exact ⟨.float id, rfl, rfl⟩
  | text id => exact ⟨.text (machine.host.texts.getD id ""), rfl, rfl⟩

/-- A session may refuse links, and so may its interpreter. -/
theorem run_linkName (machine : SessionMachine) (name : String) (link : Link) :
    (∃ store,
      machine.interp.store.link? name link = some store ∧
      (linkName name link).run.run machine =
        (.ok (.ok ()), { machine with interp := { machine.interp with store } })) ∨
    ∃ message, (linkName name link).run.run machine = (.ok (.error message), machine) := by
  unfold linkName
  rw [run_getState_bind]
  split
  · exact .inr ⟨_, rfl⟩
  · rw [run_get_bind, Machine.link]
    cases linked : machine.interp.store.link? name link with
    | some store => exact .inl ⟨store, rfl, rfl⟩
    | none => exact .inr ⟨_, rfl⟩

/-- A variable that is not linked takes the next name; if it is refused, the name is used up. -/
theorem run_link_of_unlinked
    (unlinked : machine.host.session.links.name? target = none) :
    let session := machine.host.session
    let name := session.settings.variableName session.links.nextId
    let links := { session.links with nextId := session.links.nextId + 1 }
    (∃ (link : Link) (store : VariableStore),
      link.place = target.place ∧
      machine.interp.store.link? name link = some store ∧
      (Session.link target).run.run machine =
        (.ok (.ok name),
          { machine with
            interp := { machine.interp with store }
            host := { machine.host with
              session := { session with links := links.insert name target } } })) ∨
    ∃ message,
      (Session.link target).run.run machine =
        (.ok (.error (.interpreter message (some machine.host.running))),
          { machine with
            host := { machine.host with
              session := { session with links, failuresAlive := session.failuresAlive + 1 } } }) := by
  intro session name links
  let named : SessionMachine :=
    { machine with host := { machine.host with session := { session with links } } }
  have next : nextVariableName.run.run machine = (.ok name, named) := rfl
  obtain ⟨link, place, read⟩ := run_linkOf named target
  unfold Session.link
  rw [run_getState_bind, unlinked]
  dsimp only
  rw [Conduct.run_bind, next]
  dsimp only
  rw [Conduct.run_bind, read]
  dsimp only
  rw [Conduct.run_bind]
  rcases run_linkName named name link with ⟨store, linked, ran⟩ | ⟨message, ran⟩
  · rw [ran]
    exact .inl ⟨link, store, place, linked, rfl⟩
  · rw [ran]
    exact .inr ⟨message, rfl⟩

/-- The end of a link takes the name out of both tables. -/
theorem run_unlink (machine : SessionMachine) (target : HostVariable) :
    (unlink target).run.run machine =
      (.ok (),
        match machine.host.session.links.name? target with
        | none => machine
        | some name =>
            Machine.unlink
              { machine with
                host := { machine.host with
                  session := { machine.host.session with
                    links := machine.host.session.links.erase target } } }
              name) := by
  unfold unlink
  rw [run_getState_bind]
  cases machine.host.session.links.name? target <;> rfl

end Session

namespace VariableStore

theorem links_link?
    {store after : VariableStore}
    {name : String}
    {link : Link}
    (linked : store.link? name link = some after) :
    after.links = store.links.insert (Name.key name) link := by
  unfold link? at linked
  dsimp only at linked
  split at linked
  · cases linked
  · cases linked
    rfl

theorem links_unlink
    {store : VariableStore}
    {name : String}
    {link : Link}
    (found : store.links[Name.key name]? = some link)
    (cells : Cells) :
    (store.unlink cells name).links = store.links.erase (Name.key name) := by
  unfold unlink
  dsimp only
  rw [found]

end VariableStore

/-! ## Sessions -/

/-- The settings of a session are valid, and its tables fit together. -/
structure OpenSession.LinksMirrored (session : OpenSession) : Prop where
  valid : session.state.settings.validate = .ok ()
  mirrored : Mirrored session.state.settings session.state.links session.interp.store.links

namespace Conduct

theorem linksMirrored_link (target : HostVariable) :
    (everySession OpenSession.LinksMirrored).atWork.Keeps (Session.link target) := by
  intro machine
  unfold KeepsFrom
  cases known : machine.host.session.links.name? target with
  | some name =>
      rw [Session.run_link_of_linked known]
      exact Conduct.refl _ machine
  | none =>
      rcases Session.run_link_of_unlinked known with
        ⟨link, store, place, linked, ran⟩ | ⟨message, ran⟩
      · rw [ran]
        refine everySession_atWork rfl rfl ?_
        rintro ⟨valid, mirrored⟩
        refine ⟨valid, ?_⟩
        have inserted := mirrored.inserted known place
        show Mirrored _ _ store.links
        rw [VariableStore.links_link? linked, Settings.key_variableName valid]
        exact inserted
      · rw [ran]
        refine everySession_atWork rfl rfl ?_
        rintro ⟨valid, mirrored⟩
        exact ⟨valid, mirrored.passed⟩

theorem linksMirrored_unlink (target : HostVariable) :
    (everySession OpenSession.LinksMirrored).atWork.Keeps (Session.unlink target) := by
  intro machine
  unfold KeepsFrom
  rw [Session.run_unlink]
  cases known : machine.host.session.links.name? target with
  | none => exact Conduct.refl _ machine
  | some name =>
      refine everySession_atWork rfl rfl ?_
      rintro ⟨valid, mirrored⟩
      obtain ⟨link, found, -⟩ := Option.map_eq_some_iff.mp (mirrored.linked known)
      rw [← mirrored.key valid known] at found
      refine ⟨valid, ?_⟩
      show Mirrored _ (machine.host.session.links.erase target)
        (machine.interp.store.unlink machine.cells name).links
      rw [VariableStore.links_unlink found, mirrored.key valid known]
      exact mirrored.erased known

theorem linksMirrored_allowsUntouched :
    (everySession OpenSession.LinksMirrored).atWork.AllowsUntouched := by
  intro before after untouched
  refine everySession_atWork untouched.running ?_ ?_
  · rw [untouched.shared]
  · rintro ⟨valid, mirrored⟩
    constructor
    · show Settings.validate _ = _
      rw [untouched.state]
      exact valid
    · show Mirrored _ _ _
      rw [untouched.state]
      exact mirrored.sameLinks untouched.links

theorem linksMirrored_allowsFailing :
    (everySession OpenSession.LinksMirrored).atWork.AllowsFailing :=
  fun _ _ _ => everySession_atWork rfl rfl fun ⟨valid, mirrored⟩ => ⟨valid, mirrored⟩

theorem linksMirrored_allowsGuards :
    (everySession OpenSession.LinksMirrored).atWork.AllowsGuards :=
  allowsGuards_of_indifferent
    (fun _ _ => everySession_atWork rfl rfl fun ⟨valid, mirrored⟩ => ⟨valid, mirrored.noted _⟩)
    linksMirrored_link linksMirrored_unlink

theorem linksMirrored_allowsSessions : (everySession OpenSession.LinksMirrored).AllowsSessions :=
  everySession_allowsSessions linksMirrored_allowsUntouched linksMirrored_allowsFailing
    (fun _ settings _ valid => ⟨valid, .initial settings⟩) linksMirrored_link
    linksMirrored_allowsGuards

theorem linksMirrored_allowsHosts : (everySession OpenSession.LinksMirrored).AllowsHosts :=
  everySession_allowsHosts linksMirrored_allowsSessions linksMirrored_allowsUntouched <|
    everySession_allowsNesting (fun _ _ ⟨valid, mirrored⟩ => ⟨valid, mirrored⟩)
      fun _ _ ⟨valid, mirrored⟩ => ⟨valid, mirrored⟩

end Conduct

/-! ## Reachable worlds -/

namespace World

theorem linksMirrored_opened
    (environment : Settings.Environment)
    {sessions : List (InterpAccess × Settings)}
    (valid : ∀ entry ∈ sessions, entry.2.validate = .ok ()) :
    (opened environment sessions).Every OpenSession.LinksMirrored :=
  every_opened environment fun entry known => ⟨valid entry known, .initial entry.2⟩

/-- A variable that is linked may be asked for again. -/
theorem link_again
    {world : World}
    {id : SessionId}
    {session : OpenSession}
    {target : HostVariable}
    {name : String}
    (found : world.sessions[id]? = some session)
    (linked : session.state.links.name? target = some name)
    (eval : SessionEvaluator) :
    (perform (.link id target)).outcome eval world = (.ok (.ok name), world) := by
  show ((inSession id fun _ => Session.link target).run eval).run.run world = _
  rw [run_inSession_some found, Session.run_link_of_linked (by exact linked)]
  show (_, ofMachine (world.machineOf id session)) = _
  rw [ofMachine_machineOf found]

theorem linkScoped_again
    {world : World}
    {id : SessionId}
    {session : OpenSession}
    {target : HostVariable}
    {name : String}
    (found : world.sessions[id]? = some session)
    (linked : session.state.links.name? target = some name)
    (eval : SessionEvaluator) :
    (perform (.linkScoped id target)).outcome eval world =
      (.ok (.ok { session := id, target, name, owned := false }), world) := by
  show ((inSession id fun _ => Session.linkScoped target).run eval).run.run world = _
  rw [run_inSession_some found, Session.run_linkScoped_of_linked (by exact linked)]
  show (_, ofMachine (world.machineOf id session)) = _
  rw [ofMachine_machineOf found]
  rfl

/-- Whatever hosts and scripts do, the tables of linked variables name exactly the links of the
interpreter, under generated names, each with a link to that very variable; and to link a variable
that is linked already gives its name and changes nothing. This also holds where a run is cut
short. -/
theorem links_mirrored
    (environment : Settings.Environment)
    (sessions : List (InterpAccess × Settings))
    (valid : ∀ entry ∈ sessions, entry.2.validate = .ok ())
    (program : HostProgram)
    (fuel : Nat)
    {id : SessionId}
    {session : OpenSession}
    (found : (program.outcome fuel (opened environment sessions)).2.sessions[id]? = some session) :
    let table := session.state.links
    let links := session.interp.store.links
    (table.entries.map Prod.snd).Nodup ∧
    (∀ entry ∈ table.entries, ∃ number < table.nextId,
      entry.2 = session.state.settings.namespaceName ++ "::variable" ++ toString number) ∧
    links.keys.Perm (table.entries.map Prod.snd) ∧
    (∀ entry ∈ table.entries, ∃ link,
      links[entry.2]? = some link ∧ link.place = entry.1.place) ∧
    (table.entries.map Prod.fst).Nodup ∧
    ∀ entry ∈ table.entries, ∀ eval,
      let world := (program.outcome fuel (opened environment sessions)).2
      (perform (.link id entry.1)).outcome eval world = (.ok (.ok entry.2), world) ∧
      (perform (.linkScoped id entry.1)).outcome eval world =
        (.ok (.ok { session := id, target := entry.1, name := entry.2, owned := false }),
          world) := by
  intro table links
  have kept := Conduct.linksMirrored_allowsHosts.allows_outcome program fuel
    (opened environment sessions)
  obtain ⟨-, mirrored⟩ := kept (linksMirrored_opened environment valid) id session found
  have distinctNames : (table.entries.map Prod.snd).Nodup := by
    refine List.Nodup.map_on ?_ (List.Nodup.of_map _ table.nodup_entries)
    rintro ⟨first, name⟩ isFirst ⟨second, other⟩ isSecond same
    obtain rfl : name = other := same
    rw [mirrored.distinct ((table.mem_entries _ _).mp isFirst) ((table.mem_entries _ _).mp isSecond)]
  refine ⟨distinctNames, ?_, ?_, ?_, table.nodup_entries, ?_⟩
  · rintro ⟨target, name⟩ member
    exact mirrored.generated ((table.mem_entries _ _).mp member)
  · rw [List.perm_ext_iff_of_nodup links.nodup_keys distinctNames]
    intro name
    rw [Std.TreeMap.mem_keys, List.mem_map]
    constructor
    · intro linked
      obtain ⟨target, named⟩ := mirrored.named linked
      exact ⟨(target, name), (table.mem_entries _ _).mpr named, rfl⟩
    · rintro ⟨⟨target, name⟩, member, rfl⟩
      have linked := mirrored.linked ((table.mem_entries _ _).mp member)
      rw [Std.TreeMap.mem_iff_isSome_getElem?, ← Option.isSome_map, linked]
      rfl
  · rintro ⟨target, name⟩ member
    exact Option.map_eq_some_iff.mp (mirrored.linked ((table.mem_entries _ _).mp member))
  · rintro ⟨target, name⟩ member eval
    have linked := (table.mem_entries _ _).mp member
    exact ⟨link_again found linked eval, linkScoped_again found linked eval⟩

/-- Of three variables of the host, one is no longer linked when its guard is dropped. -/
theorem links_mirrored_after_dropGuard :
    let program : HostProgram :=
      .ask (.link 0 (.int 7)) fun _ =>
        .ask (.linkScoped 0 (.text 1)) fun linkGuard =>
          .ask (.link 0 (.float 7)) fun _ =>
            .ask (.dropGuard linkGuard) fun _ => .finish none
    let world := (program.outcome 0 (opened (fun _ => none) [(.open, {})])).2
    ∃ session : OpenSession,
      world.sessions[0]? = some session ∧
      session.interp.store.links.keys.Perm ["rtk::variable0", "rtk::variable2"] ∧
      (∃ link, session.interp.store.links["rtk::variable0"]? = some link ∧ link.place = .int 7) ∧
      ∀ eval, (perform (.link 0 (.float 7))).outcome eval world =
        (.ok (.ok "rtk::variable2"), world) := by
  intro program world
  have looked : (world.sessions[0]?.map (·.state.links.entries)) =
      some [(.int 7, "rtk::variable0"), (.float 7, "rtk::variable2")] := by
    decide +kernel
  have here : world = (program.outcome 0 (opened (fun _ => none) [(.open, {})])).2 := rfl
  clear_value world
  obtain ⟨session, found, entries⟩ := Option.map_eq_some_iff.mp looked
  have valid : ∀ entry ∈ [(InterpAccess.open, ({} : Settings))], entry.2.validate = .ok () := by
    decide
  obtain ⟨-, -, keys, links, -, again⟩ :=
    links_mirrored (fun _ => none) [(.open, {})] valid program 0 (here ▸ found)
  rw [entries] at keys links again
  rw [← here] at again
  refine ⟨session, found, keys, links (.int 7, "rtk::variable0") (by simp), ?_⟩
  intro eval
  exact (again (.float 7, "rtk::variable2") (by simp) eval).1

end World

end ScriptBridge
