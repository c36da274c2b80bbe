import ScriptBridge.Proofs.Bridge.LinkTables
import ScriptBridge.Proofs.Interp.VariableStorage

/-!
# Laws of variables

Whatever the state of an interpreter, setting a variable changes what is stored in one place, and
all spellings of a global variable lead to the same place. In a session no two global variables
share one, as none of their cells is linked twice.
-/

namespace ScriptBridge

/-! ## Storages of linked variables -/

namespace Mirrored

variable
  {settings : Settings}
  {table : LinkTable}
  {store : VariableStore}

theorem globalStorage_of_linked
    (mirrored : Mirrored settings table store.links)
    {target : HostVariable}
    {name : String}
    (linked : table.name? target = some name) :
    store.globalStorage name = target.place.storage name := by
  obtain ⟨link, found, place⟩ := Option.map_eq_some_iff.mp (mirrored.linked linked)
  unfold VariableStore.globalStorage
  rw [found, ← place]
  exact (link.storage_place name).symm

/-- A global variable is a plain one, or that of a linked variable of the host. -/
theorem globalStorage_cases
    (mirrored : Mirrored settings table store.links)
    (key : String) :
    store.globalStorage key = .global key ∨
      ∃ target, table.name? target = some key ∧
        store.globalStorage key = target.place.storage key := by
  cases found : store.links[key]? with
  | none =>
      left
      unfold VariableStore.globalStorage
      rw [found]
  | some link =>
      right
      have member : key ∈ store.links := by
        rw [Std.TreeMap.mem_iff_isSome_getElem?, found]
        rfl
      obtain ⟨target, linked⟩ := mirrored.named member
      exact ⟨target, linked, mirrored.globalStorage_of_linked linked⟩

/-- No two global variables share a storage. -/
theorem injective_globalStorage (mirrored : Mirrored settings table store.links) :
    Function.Injective store.globalStorage := by
  intro first second same
  rcases mirrored.globalStorage_cases first with plain | ⟨target, linked, storage⟩
  · rw [plain] at same
    rcases mirrored.globalStorage_cases second with plainToo | ⟨other, -, storageOther⟩
    · exact Storage.global.inj (same.trans plainToo)
    · rw [storageOther] at same
      cases other <;> cases same
  · rw [storage] at same
    rcases mirrored.globalStorage_cases second with plain | ⟨other, linkedOther, storageOther⟩
    · rw [plain] at same
      cases target <;> cases same
    · rw [storageOther] at same
      have sameName (sameTarget : target = other) : first = second := by
        subst sameTarget
        exact Option.some.inj (linked.symm.trans linkedOther)
      cases target <;> cases other <;> cases same
      · exact sameName rfl
      · exact sameName rfl
      · rfl

end Mirrored

/-! ## Reachable worlds -/

namespace World

open Machine

/-- Setting a variable gives a text: the value itself, but in a cell the number that the value
spells. All names of its storage read as that text then, all other names as before. A cell does not
take what spells no number of its kind, and then nothing changes. Qualified names, names outside of
procedures, declared names and the names of links lead to the one storage of their global variable;
and whatever hosts and scripts do, also where a run is cut short, two global variables of a session
have two storages. -/
theorem variables_keep_to_storages
    (environment : Settings.Environment)
    (sessions : List (InterpAccess × Settings))
    (valid : ∀ entry ∈ sessions, entry.2.validate = .ok ())
    (program : HostProgram)
    (fuel : Nat) :
    (∀ (id : SessionId) (session : OpenSession) (store : VariableStore),
      (program.outcome fuel (opened environment sessions)).2.sessions[id]? = some session →
      session.interp.store.SameLinks store →
        Function.Injective store.globalStorage ∧
        ∀ target name, session.state.links.name? target = some name →
          store.globalStorage name = target.place.storage name) ∧
    ∀ {Key Host : Type} (machine : Machine Key Host) (name value : String),
      let key := Name.key name
      let writing := (Action.writeVariable name value).run.run machine
      (∀ text after, writing = (.ok text, after) →
        (machine.storage name).accepted? value = some text ∧
        ((machine.storage name).isNumeric = false → text = value) ∧
        machine.WroteOnly after (machine.storage name) text) ∧
      (∀ fault after, writing = (.error fault, after) →
        after = machine ∧
        fault = .error ((machine.storage name).refusal name) ∧
        (machine.storage name).accepted? value = none) ∧
      machine.storage ("::" ++ name) = machine.interp.store.globalStorage key ∧
      (Name.isQualified name = true →
        machine.storage name = machine.interp.store.globalStorage key) ∧
      (machine.interp.store.frames = [] →
        machine.storage name = machine.interp.store.globalStorage key) ∧
      (∀ names, name ∈ names → ∃ after,
        (Commands.globals names).run.run machine = (.ok "", after) ∧
          after.storage name = machine.interp.store.globalStorage key) ∧
      ∀ link linked, machine.link name link = .ok linked →
        linked.interp.store.globalStorage key = link.storage key := by
  constructor
  · intro id session store found sameLinks
    have kept := Conduct.linksMirrored_allowsHosts.allows_outcome program fuel
      (opened environment sessions)
    obtain ⟨-, mirrored⟩ := kept (linksMirrored_opened environment valid) id session found
    have mirroredHere := mirrored.sameLinks sameLinks
    exact ⟨mirroredHere.injective_globalStorage,
      fun target name linked => mirroredHere.globalStorage_of_linked linked⟩
  · intro Key Host machine name value key writing
    refine ⟨fun text after wrote => ?_, fun fault after fails => ?_, ?_, ?_, ?_, ?_, ?_⟩
    · obtain ⟨accepted, only⟩ := Action.wroteOnly_of_writeVariable wrote
      refine ⟨accepted, fun plain => ?_, only⟩
      rw [Storage.accepted?_of_not_isNumeric plain] at accepted
      exact (Option.some.inj accepted).symm
    · exact Action.eq_of_writeVariable_fails fails
    · exact (VariableStore.storage_of_isQualified (Name.isQualified_qualified name) _).trans
        (by rw [Name.key_qualified])
    · exact fun qualified => VariableStore.storage_of_isQualified qualified _
    · exact fun outside => VariableStore.storage_of_outside outside name
    · intro names member
      exact ⟨_, rfl, VariableStore.storage_declareGlobals member machine.interp.store⟩
    · intro link linked made
      unfold Machine.link at made
      cases linking : machine.interp.store.link? name link with
      | none =>
          rw [linking] at made
          cases made
      | some store =>
          rw [linking] at made
          cases made
          exact VariableStore.globalStorage_link? linking

/-- A linked integer takes a number in hexadecimal digits under its qualified name and then reads as
the number in decimal ones; a word is not taken. -/
theorem variables_keep_to_storages_of_linked_integer :
    let program : HostProgram := .ask (.link 0 (.int 7)) fun _ => .finish none
    let world := (program.outcome 0 (opened (fun _ => none) [(.open, {})])).2
    ∃ session : OpenSession,
      world.sessions[0]? = some session ∧
      let machine := world.machineOf 0 session
      (∃ after, (Action.writeVariable "::rtk::variable0" "0x10").run.run machine =
        (.ok "16", after) ∧ after.valueOf? "rtk::variable0" = some "16") ∧
      (Action.writeVariable "rtk::variable0" "x").run.run machine =
        (.error (.error "can't set \"rtk::variable0\": variable must have integer value"),
          machine) := by
  intro program world
  have looked : (world.sessions[0]?.map fun session =>
      session.state.links.name? (.int 7)) = some (some "rtk::variable0") := by
    decide +kernel
  have here : world = (program.outcome 0 (opened (fun _ => none) [(.open, {})])).2 := rfl
  clear_value world
  obtain ⟨session, found, linked⟩ := Option.map_eq_some_iff.mp looked
  refine ⟨session, found, ?_⟩
  intro machine
  have valid : ∀ entry ∈ [(InterpAccess.open, ({} : Settings))], entry.2.validate = .ok () := by
    decide
  obtain ⟨keeps, laws⟩ :=
    variables_keep_to_storages (fun _ => none) [(.open, {})] valid program 0
  have place : machine.interp.store.globalStorage "rtk::variable0" = .int 7 :=
    (keeps 0 session _ (here ▸ found) fun _ => rfl).2 _ _ linked
  have storage : machine.storage "rtk::variable0" = .int 7 :=
    ((laws machine "rtk::variable0" "x").2.2.2.1 rfl).trans place
  have qualified : machine.storage "::rtk::variable0" = .int 7 :=
    (laws machine "rtk::variable0" "x").2.2.1.trans place
  constructor
  · have writes := Action.run_writeVariable_storage machine "::rtk::variable0" "0x10"
    rw [qualified] at writes
    obtain ⟨after, wrote, only⟩ := writes
    exact ⟨after, wrote, only.here _ storage⟩
  · have fails := Action.run_writeVariable_storage machine "rtk::variable0" "x"
    rw [storage] at fails
    exact fails

end World

end ScriptBridge
