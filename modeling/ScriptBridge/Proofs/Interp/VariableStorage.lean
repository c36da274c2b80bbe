import ScriptBridge.Proofs.Interp.CallStack
import ScriptBridge.Proofs.Interp.Composition
import ScriptBridge.Proofs.Interp.LinkedVariables

/-!
# Where variables have their values

One name can mean a local variable, a global one, or one that is linked. Reading and setting find
the same storage for it; setting changes what this storage reads as, nothing that is stored
elsewhere, and not which storage a name means.
-/

namespace ScriptBridge

/-! ## Names -/

namespace Name

theorem hasQualifier_append (start rest : List Char) :
    hasQualifier (start ++ ':' :: ':' :: rest) = true := by
  induction start with
  | nil => rfl
  | cons c start inductionHypothesis =>
      rw [List.cons_append]
      unfold hasQualifier
      split
      · rfl
      · rename_i same
        rwa [← (List.cons.inj same).2]
      · rename_i same
        cases same

theorem isQualified_append (start rest : String) : isQualified (start ++ "::" ++ rest) = true := by
  unfold isQualified
  rw [String.toList_append, String.toList_append, List.append_assoc]
  exact hasQualifier_append start.toList rest.toList

theorem isQualified_qualified (name : String) : isQualified ("::" ++ name) = true := by
  unfold isQualified
  rw [String.toList_append]
  rfl

theorem key_qualified (name : String) : key ("::" ++ name) = key name := by
  unfold key
  rw [String.toList_append]
  rfl

theorem key_of_not_isQualified {name : String} (simple : isQualified name = false) :
    key name = name := by
  have unqualified : dropQualifier name.toList = name.toList := by
    unfold isQualified at simple
    rw [dropQualifier]
    intro rest starts
    rw [starts] at simple
    cases simple
  rw [key, unqualified, String.ofList_toList]

end Name

/-! ## Storages -/

/-- Where a variable has its value: in the innermost procedure call, among the plain global
variables, in the buffer of a text link, or in a cell of the host. -/
inductive Storage where
  | innermost (name : String)
  | global (key : String)
  | buffer (key : String)
  | int (cell : Nat)
  | float (cell : Nat)
  deriving Repr, DecidableEq

namespace Storage

/-- The text that is stored here. -/
def read? (store : VariableStore) (cells : Cells) : Storage → Option String
  | .innermost name => store.frames.head?.bind (·.locals[name]?)
  | .global key => store.globals[key]?
  | .buffer key =>
      match store.links[key]? with
      | some (.text content) => some content
      | _ => none
  | .int cell => some (Numeral.formatWord (cells.int cell))
  | .float cell => some (Numeral.formatFloat (cells.float cell))

/-- The text that is stored here once a variable is set to a value; none if the value is not taken,
as a cell only takes what spells a number of its kind. -/
def accepted? (value : String) : Storage → Option String
  | .int _ => (Numeral.readWord? value).map Numeral.formatWord
  | .float _ => (Numeral.readFloat? value).map Numeral.formatFloat
  | _ => some value

/-- What is said where a variable stored here does not take a value. -/
def refusal (name : String) : Storage → String
  | .int _ => "can't set \"" ++ name ++ "\": variable must have integer value"
  | _ => "can't set \"" ++ name ++ "\": variable must have real value"

/-- Whether the storage is a cell of the host. -/
def isNumeric : Storage → Bool
  | .int _ => true
  | .float _ => true
  | _ => false

theorem accepted?_of_not_isNumeric
    {storage : Storage}
    (plain : storage.isNumeric = false)
    (value : String) :
    storage.accepted? value = some value := by
  cases storage with
  | innermost | global | buffer => rfl
  | int | float => cases plain

end Storage

/-- Where a link of this global variable has its value. -/
def Link.storage (key : String) : Link → Storage
  | int cell => .int cell
  | float cell => .float cell
  | text _ => .buffer key

theorem Link.storage_place (key : String) (link : Link) :
    link.place.storage key = link.storage key := by
  cases link <;> rfl

namespace VariableStore

/-- Where the global variable with this key has its value. -/
def globalStorage (store : VariableStore) (key : String) : Storage :=
  match store.links[key]? with
  | some link => link.storage key
  | none => .global key

/-- Where the variable that a name means here has its value. -/
def storage (store : VariableStore) (name : String) : Storage :=
  match store.globalKey? name with
  | some key => store.globalStorage key
  | none => .innermost name

variable
  {store after : VariableStore}
  {cells changed : Cells}
  {name value text : String}

/-- Reading finds the storage of a name. -/
theorem get?_eq_read? (store : VariableStore) (cells : Cells) (name : String) :
    store.get? cells name = (store.storage name).read? store cells := by
  unfold get? storage
  cases store.globalKey? name with
  | none => rfl
  | some key =>
      unfold getGlobal? globalStorage
      dsimp only
      cases linked : store.links[key]? with
      | none => rfl
      | some link =>
          cases link with
          | int | float => rfl
          | text buffer =>
              unfold Link.storage Storage.read?
              dsimp only
              rw [linked]
              rfl

/-! ## Which storage a name means -/

theorem storage_of_local (isLocal : store.globalKey? name = none) :
    store.storage name = .innermost name := by
  unfold storage
  rw [isLocal]

theorem storage_of_unlinked
    {key : String}
    (isGlobal : store.globalKey? name = some key)
    (unlinked : store.links[key]? = none) :
    store.storage name = .global key := by
  unfold storage
  rw [isGlobal]
  dsimp only [globalStorage]
  rw [unlinked]

theorem storage_of_linked
    {key : String}
    {link : Link}
    (isGlobal : store.globalKey? name = some key)
    (linked : store.links[key]? = some link) :
    store.storage name = link.storage key := by
  unfold storage
  rw [isGlobal]
  dsimp only [globalStorage]
  rw [linked]

theorem globalStorage_of_sameLinks (same : store.SameLinks after) (key : String) :
    after.globalStorage key = store.globalStorage key := by
  have places (store : VariableStore) : store.globalStorage key =
      (store.links[key]?.map Link.place).elim (.global key) (Link.storage key) := by
    unfold globalStorage
    cases store.links[key]? with
    | none => rfl
    | some link => exact (link.storage_place key).symm
  rw [places, places, same key]

theorem globalKey?_of_isQualified
    (qualified : Name.isQualified name = true)
    (store : VariableStore) :
    store.globalKey? name = some (Name.key name) :=
  if_pos qualified

theorem get?_of_isQualified
    (qualified : Name.isQualified name = true)
    (store : VariableStore)
    (cells : Cells) :
    store.get? cells name = store.getGlobal? cells (Name.key name) := by
  unfold get?
  rw [globalKey?_of_isQualified qualified]

/-- A name without colons means a global variable where no procedure runs. -/
theorem globalKey?_of_outside
    (outside : store.frames = [])
    (simple : Name.isQualified name = false) :
    store.globalKey? name = some name := by
  rw [globalKey?, simple, outside]
  rfl

theorem storage_of_isQualified
    (qualified : Name.isQualified name = true)
    (store : VariableStore) :
    store.storage name = store.globalStorage (Name.key name) := by
  unfold storage
  rw [globalKey?_of_isQualified qualified]

theorem storage_of_not_isQualified
    (simple : Name.isQualified name = false)
    (isGlobal : store.globalKey? name = some name) :
    store.storage name = store.globalStorage (Name.key name) := by
  unfold storage
  rw [isGlobal, Name.key_of_not_isQualified simple]

/-- Where no procedure runs, all names are global. -/
theorem storage_of_outside (outside : store.frames = []) (name : String) :
    store.storage name = store.globalStorage (Name.key name) := by
  cases qualified : Name.isQualified name with
  | true => exact storage_of_isQualified qualified store
  | false => exact storage_of_not_isQualified qualified (globalKey?_of_outside outside qualified)

theorem storage_of_declared
    {frame : Frame}
    {outer : List Frame}
    (inside : store.frames = frame :: outer)
    (declared : name ∈ frame.declared) :
    store.storage name = store.globalStorage (Name.key name) := by
  cases qualified : Name.isQualified name with
  | true => exact storage_of_isQualified qualified store
  | false =>
      apply storage_of_not_isQualified qualified
      unfold globalKey?
      rw [qualified, inside]
      show (if frame.declared.contains name = true then _ else _) = _
      rw [if_pos (List.contains_iff_mem.mpr declared)]

theorem globalKey?_mapInnermost
    {change : Frame → Frame}
    (keeps : ∀ frame, (change frame).declared = frame.declared)
    (store : VariableStore)
    (name : String) :
    (store.mapInnermost change).globalKey? name = store.globalKey? name := by
  unfold globalKey? mapInnermost
  cases frames : store.frames with
  | nil =>
      dsimp only
      rw [frames]
  | cons frame outer =>
      dsimp only
      rw [keeps]

theorem storage_of_same
    (sameKey : after.globalKey? name = store.globalKey? name)
    (sameLinks : store.SameLinks after) :
    after.storage name = store.storage name := by
  unfold storage
  rw [sameKey]
  cases store.globalKey? name with
  | none => rfl
  | some key => exact globalStorage_of_sameLinks sameLinks key

theorem globalKey?_set
    (wrote : store.set cells name value = .ok (text, after, changed))
    (other : String) :
    after.globalKey? other = store.globalKey? other := by
  unfold set at wrote
  split at wrote
  · split at wrote
    · rename_i link _
      cases written : link.write cells name value with
      | error message =>
          rw [written] at wrote
          cases wrote
      | ok result =>
          rw [written] at wrote
          cases wrote
          rfl
    · cases wrote
      rfl
  · cases wrote
    exact globalKey?_mapInnermost (by exact fun _ => rfl) store other

/-- Setting a variable does not change which storage a name means. -/
theorem storage_set
    (wrote : store.set cells name value = .ok (text, after, changed))
    (other : String) :
    after.storage other = store.storage other :=
  storage_of_same (globalKey?_set wrote other) (sameLinks_set wrote)

end VariableStore

/-! ## What is stored after a change -/

namespace Storage

variable
  (place : Storage)
  (store : VariableStore)
  (cells : Cells)

theorem read?_insertGlobal (key value : String) :
    place.read? { store with globals := store.globals.insert key value } cells =
      if place = .global key then some value else place.read? store cells := by
  cases place with
  | global other =>
      by_cases here : key = other
      · simp [read?, here]
      · simp [read?, Std.TreeMap.getElem?_insert, here, Ne.symm here]
  | innermost | buffer | int | float => rfl

theorem read?_insertBuffer (key content : String) :
    place.read? { store with links := store.links.insert key (.text content) } cells =
      if place = .buffer key then some content else place.read? store cells := by
  cases place with
  | buffer other =>
      by_cases here : key = other
      · simp [read?, here]
      · simp [read?, Std.TreeMap.getElem?_insert, here, Ne.symm here]
  | innermost | global | int | float => rfl

/-- To enter the link that is there already changes nothing. -/
theorem read?_insertSame
    {key : String}
    {link : Link}
    (found : store.links[key]? = some link) :
    place.read? { store with links := store.links.insert key link } cells =
      place.read? store cells := by
  cases place with
  | buffer other =>
      by_cases here : key = other
      · subst here
        simp [read?, found]
      · simp [read?, Std.TreeMap.getElem?_insert, here]
  | innermost | global | int | float => rfl

theorem read?_setInt (cell : Nat) (number : Int64) :
    place.read? store (cells.setInt cell number) =
      if place = .int cell then some (Numeral.formatWord number)
      else place.read? store cells := by
  cases place with
  | int other =>
      by_cases here : cell = other
      · simp [read?, Cells.int, Cells.setInt, here]
      · simp [read?, Cells.int, Cells.setInt, Std.TreeMap.getD_insert, here, Ne.symm here]
  | innermost | global | buffer | float => rfl

theorem read?_setFloat (cell : Nat) (number : Float) :
    place.read? store (cells.setFloat cell number) =
      if place = .float cell then some (Numeral.formatFloat number)
      else place.read? store cells := by
  cases place with
  | float other =>
      by_cases here : cell = other
      · simp [read?, Cells.float, Cells.setFloat, here]
      · simp [read?, Cells.float, Cells.setFloat, Std.TreeMap.getD_insert, here, Ne.symm here]
  | innermost | global | buffer | int => rfl

theorem read?_insertLocal
    {frame : Frame}
    {outer : List Frame}
    (inside : store.frames = frame :: outer)
    (name value : String) :
    place.read?
        (store.mapInnermost fun frame => { frame with locals := frame.locals.insert name value })
        cells =
      if place = .innermost name then some value else place.read? store cells := by
  unfold VariableStore.mapInnermost
  rw [inside]
  cases place with
  | innermost other =>
      by_cases here : name = other
      · simp [read?, here]
      · simp [read?, inside, Std.TreeMap.getElem?_insert, here, Ne.symm here]
  | global | buffer | int | float => rfl

end Storage

/-! ## Setting -/

namespace VariableStore

variable
  {store after : VariableStore}
  {cells changed : Cells}
  {name value text : String}

/-- A name that means a local variable stands in a procedure. -/
theorem inside_of_local (isLocal : store.globalKey? name = none) :
    ∃ frame outer, store.frames = frame :: outer := by
  cases frames : store.frames with
  | nil =>
      unfold globalKey? at isLocal
      rw [frames] at isLocal
      split at isLocal <;> cases isLocal
  | cons frame outer => exact ⟨frame, outer, rfl⟩

theorem set_of_local
    (isLocal : store.globalKey? name = none)
    (value : String) :
    store.set cells name value =
      .ok (value,
        store.mapInnermost fun frame => { frame with locals := frame.locals.insert name value },
        cells) := by
  unfold set
  rw [isLocal]

theorem set_of_global
    {key : String}
    (isGlobal : store.globalKey? name = some key)
    (unlinked : store.links[key]? = none)
    (value : String) :
    store.set cells name value =
      .ok (value, { store with globals := store.globals.insert key value }, cells) := by
  unfold set
  rw [isGlobal]
  dsimp only
  rw [unlinked]

theorem set_of_linked
    {key : String}
    {link : Link}
    (isGlobal : store.globalKey? name = some key)
    (linked : store.links[key]? = some link)
    (value : String) :
    store.set cells name value =
      (link.write cells name value).map fun (link, cells) =>
        (link.read cells, { store with links := store.links.insert key link }, cells) := by
  unfold set
  rw [isGlobal]
  dsimp only
  rw [linked]
  dsimp only
  cases link.write cells name value <;> rfl

/-- What setting a linked variable does to all that is stored. -/
theorem read?_set_of_linked
    {key : String}
    {link : Link}
    (linked : store.links[key]? = some link)
    (cells : Cells)
    (name value : String) :
    match (link.storage key).accepted? value with
    | none => link.write cells name value = .error ((link.storage key).refusal name)
    | some text => ∃ new changed,
        link.write cells name value = .ok (new, changed) ∧
        new.read changed = text ∧
        ∀ place : Storage,
          place.read? { store with links := store.links.insert key new } changed =
            if place = link.storage key then some text else place.read? store cells := by
  cases link with
  | text content =>
      exact ⟨_, _, rfl, rfl, fun place => place.read?_insertBuffer store cells key value⟩
  | int cell =>
      unfold Link.storage Storage.accepted? Link.write
      cases Numeral.readWord? value with
      | none => rfl
      | some number =>
          refine ⟨_, _, rfl, ?_, fun place => ?_⟩
          · simp [Link.read, Cells.int, Cells.setInt]
          · rw [place.read?_insertSame store _ linked]
            exact place.read?_setInt store cells cell number
  | float cell =>
      unfold Link.storage Storage.accepted? Link.write
      cases Numeral.readFloat? value with
      | none => rfl
      | some number =>
          refine ⟨_, _, rfl, ?_, fun place => ?_⟩
          · simp [Link.read, Cells.float, Cells.setFloat]
          · rw [place.read?_insertSame store _ linked]
            exact place.read?_setFloat store cells cell number

/-- Setting a variable that takes the value changes what its storage reads as, and nothing that is
stored elsewhere; one that does not take it is not set. -/
theorem set_storage (store : VariableStore) (cells : Cells) (name value : String) :
    match (store.storage name).accepted? value with
    | none => store.set cells name value = .error ((store.storage name).refusal name)
    | some text => ∃ after changed,
        store.set cells name value = .ok (text, after, changed) ∧
        ∀ place : Storage, place.read? after changed =
          if place = store.storage name then some text else place.read? store cells := by
  cases isGlobal : store.globalKey? name with
  | none =>
      obtain ⟨frame, outer, inside⟩ := inside_of_local isGlobal
      rw [storage_of_local isGlobal]
      exact ⟨_, _, set_of_local isGlobal value,
        fun place => place.read?_insertLocal store cells inside name value⟩
  | some key =>
      cases linked : store.links[key]? with
      | none =>
          rw [storage_of_unlinked isGlobal linked]
          exact ⟨_, _, set_of_global isGlobal linked value,
            fun place => place.read?_insertGlobal store cells key value⟩
      | some link =>
          have written := read?_set_of_linked linked cells name value
          rw [storage_of_linked isGlobal linked, set_of_linked isGlobal linked]
          cases accepted : (link.storage key).accepted? value with
          | none =>
              rw [accepted] at written
              dsimp only at written ⊢
              rw [written]
              rfl
          | some text =>
              rw [accepted] at written
              obtain ⟨new, changed, wrote, rfl, reads⟩ := written
              rw [wrote]
              exact ⟨_, _, rfl, reads⟩

end VariableStore

/-! ## Spellings -/

namespace VariableStore

variable {store : VariableStore} {name : String}

theorem declared_declareGlobals
    {names : List String}
    {frame : Frame}
    {outer : List Frame}
    (inside : store.frames = frame :: outer) :
    ∃ declaring outer,
      (names.foldl declareGlobal store).frames = declaring :: outer ∧
        ∀ name, name ∈ names ∨ name ∈ frame.declared → name ∈ declaring.declared := by
  induction names generalizing store frame outer with
  | nil => exact ⟨frame, outer, inside, by simp⟩
  | cons first names inductionHypothesis =>
      have pushed : (store.declareGlobal first).frames =
          { frame with declared := first :: frame.declared } :: outer := by
        unfold declareGlobal mapInnermost
        rw [inside]
      obtain ⟨declaring, further, found, declared⟩ := inductionHypothesis pushed
      refine ⟨declaring, further, found, fun name isDeclared => declared name ?_⟩
      rcases isDeclared with member | before
      · rcases List.mem_cons.mp member with rfl | member
        · exact .inr List.mem_cons_self
        · exact .inl member
      · exact .inr (List.mem_cons_of_mem _ before)

/-- A name that is declared global means the global variable, in a procedure and outside. -/
theorem storage_declareGlobals
    {names : List String}
    (member : name ∈ names)
    (store : VariableStore) :
    (names.foldl declareGlobal store).storage name = store.globalStorage (Name.key name) := by
  have same := globalStorage_of_sameLinks
    (sameLinks_of_eq (links_declareGlobals names store)) (Name.key name)
  rw [← same]
  cases frames : store.frames with
  | nil =>
      have outside := (sameFrames_declareGlobals names store).1
      rw [frames] at outside
      exact storage_of_outside (List.length_eq_zero_iff.mp outside) name
  | cons frame outer =>
      obtain ⟨declaring, further, found, declared⟩ := declared_declareGlobals frames
      exact storage_of_declared found (declared name (.inl member))

theorem globalStorage_link?
    {linked : VariableStore}
    {link : Link}
    (made : store.link? name link = some linked) :
    linked.globalStorage (Name.key name) = link.storage (Name.key name) := by
  unfold link? at made
  dsimp only at made
  split at made
  · cases made
  · cases made
    unfold globalStorage
    simp

end VariableStore

/-! ## Machines -/

namespace Machine

variable {Key Host : Type}

/-- Where the variable that a name means has its value. -/
def storage (machine : Machine Key Host) (name : String) : Storage :=
  machine.interp.store.storage name

/-- All names of this storage now read as this text. Nothing else has changed: not what other names
read as, not what names mean, not the calls around the innermost one, and nothing but variables. -/
structure WroteOnly
    (before after : Machine Key Host)
    (storage : Storage)
    (text : String) : Prop where
  here : ∀ name, before.storage name = storage → after.valueOf? name = some text
  elsewhere : ∀ name, before.storage name ≠ storage → after.valueOf? name = before.valueOf? name
  storages : ∀ name, after.storage name = before.storage name
  callers : after.interp.store.frames.tail = before.interp.store.frames.tail
  rest : after =
    { before with
      interp := { before.interp with store := after.interp.store }
      cells := after.cells }

section Changes

variable {machine before after : Machine Key Host} {release : Release Key Host}

theorem cells_released (machine : Machine Key Host) (old : Option (Command Key)) :
    (machine.released release old).cells = machine.cells := by
  cases old with
  | none => rfl
  | some command => cases command <;> rfl

/-- Taking a command out leaves all variables as they are. -/
theorem sameVariables_removeCommand
    {name : String}
    (removed : machine.removeCommand release name = .ok after) :
    after.cells = machine.cells ∧ after.interp.store = machine.interp.store := by
  obtain ⟨old, -, rfl⟩ := eq_of_removeCommand removed
  rw [cells_released, interp_released]
  exact ⟨rfl, rfl⟩

/-- Commands set variables, or leave all cells as they are and all links with their places. -/
theorem Change.set_or_same (change : Change release before after) :
    (∃ name value text,
      before.interp.store.set before.cells name value =
        .ok (text, after.interp.store, after.cells)) ∨
      after.cells = before.cells ∧ before.interp.store.SameLinks after.interp.store := by
  cases change with
  | written wrote => exact .inl ⟨_, _, _, wrote⟩
  | unset unset => exact .inr ⟨rfl, VariableStore.sameLinks_unset unset⟩
  | declared names =>
      exact .inr ⟨rfl, VariableStore.sameLinks_of_eq (VariableStore.links_declareGlobals names _)⟩
  | defined name noHost =>
      refine .inr ⟨cells_released _ _, ?_⟩
      unfold define
      rw [interp_released]
      exact VariableStore.sameLinks_of_eq rfl
  | removed removed =>
      obtain ⟨cells, store⟩ := sameVariables_removeCommand removed
      exact .inr ⟨cells, VariableStore.sameLinks_of_eq (congrArg VariableStore.links store)⟩
  | renamed renamed =>
      obtain removed | ⟨command, -, -, rfl⟩ := eq_of_renameCommand renamed
      · obtain ⟨cells, store⟩ := sameVariables_removeCommand removed
        exact .inr ⟨cells, VariableStore.sameLinks_of_eq (congrArg VariableStore.links store)⟩
      · exact .inr ⟨rfl, VariableStore.sameLinks_of_eq rfl⟩
  | shown | queued | waited | printed | ended =>
      exact .inr ⟨rfl, VariableStore.sameLinks_of_eq rfl⟩

end Changes

end Machine

namespace Action

variable {Key Host : Type}

open Machine

/-- Setting a variable changes its storage and nothing else, or fails and changes nothing. -/
theorem run_writeVariable_storage (machine : Machine Key Host) (name value : String) :
    match (machine.storage name).accepted? value with
    | none =>
        (writeVariable name value : Action Key Host String).run.run machine =
          (.error (.error ((machine.storage name).refusal name)), machine)
    | some text => ∃ after,
        (writeVariable name value : Action Key Host String).run.run machine = (.ok text, after) ∧
          machine.WroteOnly after (machine.storage name) text := by
  have sets := machine.interp.store.set_storage machine.cells name value
  rw [run_writeVariable]
  unfold Machine.writeVariable storage
  cases accepted : (machine.interp.store.storage name).accepted? value with
  | none =>
      rw [accepted] at sets
      dsimp only at sets ⊢
      rw [sets]
      rfl
  | some text =>
      rw [accepted] at sets
      obtain ⟨store, cells, wrote, reads⟩ := sets
      rw [wrote]
      refine ⟨_, rfl, ?_⟩
      have storages := VariableStore.storage_set wrote
      have values (other : String) : store.get? cells other =
          if machine.interp.store.storage other = machine.interp.store.storage name then some text
          else machine.interp.store.get? machine.cells other := by
        rw [store.get?_eq_read?, storages, reads, ← VariableStore.get?_eq_read?]
      constructor
      · intro other same
        exact (values other).trans (if_pos same)
      · intro other different
        exact (values other).trans (if_neg different)
      · exact storages
      · exact (VariableStore.sameFrames_set wrote).2
      · rfl

theorem wroteOnly_of_writeVariable
    {machine after : Machine Key Host}
    {name value text : String}
    (wrote : (writeVariable name value).run.run machine = (.ok text, after)) :
    (machine.storage name).accepted? value = some text ∧
      machine.WroteOnly after (machine.storage name) text := by
  have law := run_writeVariable_storage machine name value
  cases accepted : (machine.storage name).accepted? value with
  | none =>
      rw [accepted] at law
      cases wrote.symm.trans law
  | some stored =>
      rw [accepted] at law
      obtain ⟨final, ran, only⟩ := law
      obtain ⟨rfl, rfl⟩ : text = stored ∧ after = final := by
        cases wrote.symm.trans ran
        exact ⟨rfl, rfl⟩
      exact ⟨rfl, only⟩

theorem eq_of_writeVariable_fails
    {machine after : Machine Key Host}
    {name value : String}
    {fault : Interruption}
    (fails : (writeVariable name value).run.run machine = (.error fault, after)) :
    after = machine ∧
      fault = .error ((machine.storage name).refusal name) ∧
      (machine.storage name).accepted? value = none := by
  have law := run_writeVariable_storage machine name value
  cases accepted : (machine.storage name).accepted? value with
  | none =>
      rw [accepted] at law
      cases fails.symm.trans law
      exact ⟨rfl, rfl, rfl⟩
  | some stored =>
      rw [accepted] at law
      obtain ⟨final, ran, -⟩ := law
      cases fails.symm.trans ran

end Action

end ScriptBridge
