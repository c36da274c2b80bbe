import ScriptBridge.Proofs.Bridge.Sessions

/-!
# Copying linked texts

Before a callback starts, the linked texts are copied to the host, and after it has succeeded they
are copied back. Each pass is one change of the state: the first one sets variables of the host and
nothing else, the second one buffers of the interpreter and nothing else. As no variable is linked
twice and no two links share a name, all linked texts agree after either of them.
-/

namespace ScriptBridge

/-! ## Buffers -/

/-- The link with another text in its buffer; a numeric link has none. -/
def Link.withBuffer (buffer : String) : Link → Link
  | text _ => text buffer
  | link => link

namespace VariableStore

variable {store : VariableStore} {name : String}

theorem buffer?_isSome_iff :
    (store.buffer? name).isSome ↔
      store.links[Name.key name]?.map Link.place = some (.text "") := by
  unfold buffer?
  cases store.links[Name.key name]? with
  | none => simp
  | some link => cases link <;> simp [Link.place]

/-- Only the link of that name changes, if it is one of a text. -/
theorem getElem?_setBuffer (store : VariableStore) (name buffer key : String) :
    (store.setBuffer name buffer).links[key]? =
      if Name.key name = key then store.links[key]?.map (Link.withBuffer buffer)
      else store.links[key]? := by
  have same (found : store.links[Name.key name]?.map (Link.withBuffer buffer) =
      store.links[Name.key name]?) :
      store.links[key]? = if Name.key name = key then
        store.links[key]?.map (Link.withBuffer buffer) else store.links[key]? := by
    split
    · rename_i here
      rw [← here, found]
    · rfl
  unfold setBuffer
  dsimp only
  cases found : store.links[Name.key name]? with
  | none => exact same (by rw [found]; rfl)
  | some link =>
      cases link with
      | int | float => exact same (by rw [found]; rfl)
      | text old =>
          dsimp only
          rw [Std.TreeMap.getElem?_insert]
          by_cases here : Name.key name = key
          · rw [if_pos (Std.compare_eq_iff_eq.mpr here), if_pos here, ← here, found]
            rfl
          · rw [if_neg (mt Std.compare_eq_iff_eq.mp here), if_neg here]

/-- The store after buffers have been replaced one after the other. -/
def setBuffers (store : VariableStore) (buffers : List (String × String)) : VariableStore :=
  buffers.foldl (fun store entry => store.setBuffer entry.1 entry.2) store

theorem sameLinks_setBuffers (buffers : List (String × String)) :
    store.SameLinks (store.setBuffers buffers) := by
  induction buffers generalizing store with
  | nil => exact sameLinks_of_eq rfl
  | cons entry buffers inductionHypothesis =>
      intro key
      exact (inductionHypothesis key).trans (sameLinks_setBuffer entry.1 entry.2 key)

theorem setBuffer_eq (store : VariableStore) (name buffer : String) :
    store.setBuffer name buffer =
      { store with links := (store.setBuffer name buffer).links } := by
  unfold setBuffer
  dsimp only
  split <;> rfl

/-- Beside its links a store stays as it was. -/
theorem setBuffers_eq (store : VariableStore) (buffers : List (String × String)) :
    store.setBuffers buffers = { store with links := (store.setBuffers buffers).links } := by
  induction buffers generalizing store with
  | nil => rfl
  | cons entry buffers inductionHypothesis =>
      have here := store.setBuffer_eq entry.1 entry.2
      refine (inductionHypothesis (store.setBuffer entry.1 entry.2)).trans ?_
      rw [congrArg VariableStore.globals here, congrArg VariableStore.frames here]
      rfl

theorem frames_setBuffers (store : VariableStore) (buffers : List (String × String)) :
    (store.setBuffers buffers).frames = store.frames := by
  rw [setBuffers_eq]

theorem getElem?_setBuffers_of_not_mem
    (store : VariableStore)
    {buffers : List (String × String)}
    {key : String}
    (apart : ∀ entry ∈ buffers, Name.key entry.1 ≠ key) :
    (store.setBuffers buffers).links[key]? = store.links[key]? := by
  induction buffers generalizing store with
  | nil => rfl
  | cons entry buffers inductionHypothesis =>
      have behind := inductionHypothesis (store.setBuffer entry.1 entry.2)
        fun other member => apart other (List.mem_cons_of_mem entry member)
      refine behind.trans ?_
      rw [getElem?_setBuffer, if_neg (apart entry List.mem_cons_self)]

/-- Each of the buffers has its text in the end, if no two are the same. -/
theorem getElem?_setBuffers_of_mem
    (store : VariableStore)
    {buffers : List (String × String)}
    (apart : buffers.Pairwise fun first second => Name.key first.1 ≠ Name.key second.1) :
    ∀ entry ∈ buffers, (store.setBuffers buffers).links[Name.key entry.1]? =
      store.links[Name.key entry.1]?.map (Link.withBuffer entry.2) := by
  induction buffers generalizing store with
  | nil => exact fun _ member => nomatch member
  | cons entry buffers inductionHypothesis =>
      obtain ⟨apartHere, apartBehind⟩ := List.pairwise_cons.mp apart
      intro other member
      rcases List.mem_cons.mp member with rfl | member
      · have kept := getElem?_setBuffers_of_not_mem (store.setBuffer other.1 other.2)
          fun later behind => (apartHere later behind).symm
        refine kept.trans ?_
        rw [getElem?_setBuffer, if_pos rfl]
      · have behind :=
          inductionHypothesis (store.setBuffer entry.1 entry.2) apartBehind other member
        refine behind.trans ?_
        rw [getElem?_setBuffer, if_neg (apartHere other member)]

theorem buffer?_setBuffers
    {buffers : List (String × String)}
    (apart : buffers.Pairwise fun first second => Name.key first.1 ≠ Name.key second.1)
    {entry : String × String}
    (member : entry ∈ buffers)
    (linked : (store.buffer? entry.1).isSome) :
    (store.setBuffers buffers).buffer? entry.1 = some entry.2 := by
  unfold buffer? at linked ⊢
  rw [getElem?_setBuffers_of_mem store apart entry member]
  split at linked
  · rename_i old found
    rw [found]
    rfl
  · cases linked

end VariableStore

/-! ## The two passes -/

namespace Session

/-- An action that goes through a list and changes the state for each item. -/
theorem run_forIn_of_steps
    {Item : Type}
    (body : Item → SessionAction (ForInStep PUnit))
    (step : SessionMachine → Item → SessionMachine)
    (ran : ∀ item machine, (body item).run.run machine = (.ok (.yield ⟨⟩), step machine item))
    (items : List Item)
    (machine : SessionMachine) :
    (forIn items PUnit.unit fun item _ => body item).run.run machine =
      (.ok ⟨⟩, items.foldl step machine) := by
  induction items generalizing machine with
  | nil => rfl
  | cons item items inductionHypothesis =>
      rw [List.forIn_cons, Conduct.run_bind, ran]
      exact inductionHypothesis _

variable (machine : SessionMachine)

/-- The text of a linked variable is set to the value of its buffer. -/
def withText (entry : Nat × String) : SessionMachine :=
  { machine with
    host := { machine.host with
      texts := machine.host.texts.insert entry.1
        ((machine.interp.store.buffer? entry.2).getD "") } }

def withTexts (entries : List (Nat × String)) : SessionMachine :=
  { machine with
    host := { machine.host with
      texts := machine.host.texts.insertMany <| entries.map fun entry =>
        (entry.1, (machine.interp.store.buffer? entry.2).getD "") } }

/-- The buffer of a linked variable is set to its text. -/
def withBuffer (entry : Nat × String) : SessionMachine :=
  machine.setBuffer entry.2 (machine.host.texts.getD entry.1 "")

def withBuffers (entries : List (Nat × String)) : SessionMachine :=
  { machine with
    interp := { machine.interp with
      store := machine.interp.store.setBuffers <| entries.map fun entry =>
        (entry.2, machine.host.texts.getD entry.1 "") } }

theorem foldl_withText (entries : List (Nat × String)) :
    entries.foldl withText machine = withTexts machine entries := by
  induction entries generalizing machine with
  | nil => rfl
  | cons entry entries inductionHypothesis =>
      rw [List.foldl_cons, inductionHypothesis]
      simp only [withTexts, withText, List.map_cons, Std.TreeMap.insertMany_cons]

theorem foldl_withBuffer (entries : List (Nat × String)) :
    entries.foldl withBuffer machine = withBuffers machine entries := by
  induction entries generalizing machine with
  | nil => rfl
  | cons entry entries inductionHypothesis =>
      rw [List.foldl_cons, inductionHypothesis]
      rfl

/-- The linked texts, each with its name. -/
abbrev linked : List (Nat × String) :=
  machine.host.session.links.texts.toList

theorem run_linkedTexts : linkedTexts.run.run machine = (.ok (linked machine), machine) :=
  rfl

/-- Copies these buffers to the host, in this order. -/
def copyToHost (entries : List (Nat × String)) : SessionAction Unit := do
  for (id, name) in entries do
    setText id (((← Action.getInterp).store.buffer? name).getD "")

/-- Copies these texts to the interpreter, in this order. -/
def copyToInterpreter (entries : List (Nat × String)) : SessionAction Unit := do
  for (id, name) in entries do
    let value ← getText id
    modify (·.setBuffer name value)

theorem run_copyToHost (entries : List (Nat × String)) :
    (copyToHost entries).run.run machine = (.ok (), withTexts machine entries) := by
  have passed := run_forIn_of_steps (fun entry : Nat × String => do
    let interp ← Action.getInterp
    setText entry.1 ((interp.store.buffer? entry.2).getD "")
    return .yield ⟨⟩) withText (fun _ _ => rfl) entries machine
  rw [foldl_withText] at passed
  unfold copyToHost
  rw [Conduct.run_bind, passed]
  rfl

theorem run_copyToInterpreter (entries : List (Nat × String)) :
    (copyToInterpreter entries).run.run machine = (.ok (), withBuffers machine entries) := by
  have passed := run_forIn_of_steps (fun entry : Nat × String => do
    let value ← getText entry.1
    modify fun machine => machine.setBuffer entry.2 value
    return .yield ⟨⟩) withBuffer (fun _ _ => rfl) entries machine
  rw [foldl_withBuffer] at passed
  unfold copyToInterpreter
  rw [Conduct.run_bind, passed]
  rfl

theorem run_syncToHost :
    syncToHost.run.run machine = (.ok (), withTexts machine (linked machine)) := by
  have passes : syncToHost = linkedTexts >>= copyToHost := rfl
  rw [passes, Conduct.run_bind, run_linkedTexts]
  exact run_copyToHost machine (linked machine)

theorem run_syncToInterpreter :
    syncToInterpreter.run.run machine = (.ok (), withBuffers machine (linked machine)) := by
  have passes : syncToInterpreter = linkedTexts >>= copyToInterpreter := rfl
  rw [passes, Conduct.run_bind, run_linkedTexts]
  exact run_copyToInterpreter machine (linked machine)

/-! ## Texts that agree -/

/-- The linked texts as they are on both sides. -/
def copies : List TextCopy :=
  (linked machine).map fun entry =>
    { id := entry.1
      buffer := machine.interp.store.buffer? entry.2
      text := machine.host.texts.getD entry.1 "" }

/-- The interpreter has a buffer of its own for each linked text. -/
structure HasBuffers : Prop where
  buffered : ∀ entry ∈ linked machine, (machine.interp.store.buffer? entry.2).isSome
  apart : (linked machine).Pairwise fun first second => Name.key first.2 ≠ Name.key second.2

end Session

/-- There is a buffer, and it holds the text of the host. -/
def TextCopy.Agrees (copy : TextCopy) : Prop :=
  copy.buffer = some copy.text

namespace Session

variable {machine : SessionMachine}

/-- After the pass to the host the linked texts agree. -/
theorem HasBuffers.agrees_withTexts (hasBuffers : HasBuffers machine) :
    ∀ copy ∈ copies (withTexts machine (linked machine)), copy.Agrees := by
  intro copy member
  obtain ⟨entry, isLinked, rfl⟩ := List.mem_map.mp member
  obtain ⟨buffer, found⟩ := Option.isSome_iff_exists.mp (hasBuffers.buffered entry isLinked)
  have distinct : ((linked machine).map fun entry =>
      (entry.1, (machine.interp.store.buffer? entry.2).getD "")).Pairwise
        fun first second => ¬compare first.1 second.1 = .eq := by
    rw [List.pairwise_map]
    exact machine.host.session.links.texts.distinct_keys_toList
  have copied : (withTexts machine (linked machine)).host.texts.getD entry.1 "" =
      (machine.interp.store.buffer? entry.2).getD "" :=
    Std.TreeMap.getD_insertMany_list_of_mem (Std.compare_eq_iff_eq.mpr rfl) distinct
      (List.mem_map_of_mem isLinked)
  show machine.interp.store.buffer? entry.2 = some _
  rw [copied, found, Option.getD_some]

/-- After the pass to the interpreter the linked texts agree. -/
theorem HasBuffers.agrees_withBuffers (hasBuffers : HasBuffers machine) :
    ∀ copy ∈ copies (withBuffers machine (linked machine)), copy.Agrees := by
  intro copy member
  obtain ⟨entry, isLinked, rfl⟩ := List.mem_map.mp member
  let buffers := (linked machine).map fun entry => (entry.2, machine.host.texts.getD entry.1 "")
  have apart : buffers.Pairwise fun first second => Name.key first.1 ≠ Name.key second.1 := by
    rw [List.pairwise_map]
    exact hasBuffers.apart
  have listed : (entry.2, machine.host.texts.getD entry.1 "") ∈ buffers :=
    List.mem_map.mpr ⟨entry, isLinked, rfl⟩
  have set := VariableStore.buffer?_setBuffers apart listed (hasBuffers.buffered entry isLinked)
  show (machine.interp.store.setBuffers buffers).buffer? entry.2 = _
  exact set

/-! ## Where calls start and end -/

variable (machine)

def noted (event : CallbackEvent) : SessionMachine :=
  withCallbacks machine (machine.host.session.callbacks.noted event)

/-- The session where the callback in a slot starts. -/
def entered (slot : Nat) : SessionMachine :=
  let copied := withTexts machine (linked machine)
  noted copied (.started slot (copies copied))

/-- The session where a call ends after the callback in a slot has succeeded. -/
def left (slot : Nat) : SessionMachine :=
  let copied := withBuffers machine (linked machine)
  noted copied (.returned slot (copies copied))

theorem run_enter (slot : Nat) :
    (enter slot).run.run machine = (.ok (), entered machine slot) := by
  unfold enter
  rw [Conduct.run_bind, run_syncToHost]
  rfl

theorem run_leave (slot : Nat) :
    (leave slot).run.run machine = (.ok (), left machine slot) := by
  unfold leave
  rw [Conduct.run_bind, run_syncToInterpreter]
  rfl

end Session

namespace Conduct

/-- What a conduct has to allow if calls of callbacks are to keep to it. -/
structure AllowsCalls (machines : Conduct SessionMachine) : Prop where
  entered : ∀ {machine : SessionMachine} {slot : Nat},
    slot ∈ machine.host.session.callbacks.slots →
      machines.allows true machine (Session.entered machine slot)
  left : ∀ (machine : SessionMachine) slot, machines.allows true machine (Session.left machine slot)

variable {machines : Conduct SessionMachine}

/-- Calls touch texts, buffers and the history of the callbacks. -/
theorem AllowsUntouched.allowsCalls (laws : machines.AllowsUntouched) : machines.AllowsCalls where
  entered _ :=
    laws ⟨VariableStore.sameLinks_of_eq rfl, .of_frames rfl rfl, .refl, .refl, rfl, rfl, rfl⟩
  left _ _ :=
    laws ⟨VariableStore.sameLinks_setBuffers _, .of_frames (VariableStore.frames_setBuffers _ _) rfl,
      .refl, .refl, rfl, rfl, rfl⟩

/-- Calls leave the commands of the host as they are. -/
theorem allowsCalls_of_indifferent
    {conduct : Conduct World}
    (indifferent : ∀ {before after : World},
      after.commands = before.commands → conduct.allows true before after) :
    conduct.atWork.AllowsCalls where
  entered _ := ⟨rfl, indifferent rfl⟩
  left _ _ := ⟨rfl, indifferent rfl⟩

theorem AllowsCalls.keepsFrom_enter
    (laws : machines.AllowsCalls)
    {machine : SessionMachine}
    {slot : Nat}
    (used : slot ∈ machine.host.session.callbacks.slots) :
    machines.KeepsFrom machine (Session.enter slot) := by
  unfold KeepsFrom
  rw [Session.run_enter]
  exact laws.entered used

theorem AllowsCalls.keeps_leave (laws : machines.AllowsCalls) (slot : Nat) :
    machines.Keeps (Session.leave slot) := by
  intro machine
  unfold KeepsFrom
  rw [Session.run_leave]
  exact laws.left machine slot

/-- A call keeps to what the program of its callback keeps to. -/
theorem AllowsCalls.keeps_dispatch
    {eval : SessionEvaluator}
    (laws : machines.AllowsCalls)
    (programs : ∀ program, machines.Keeps (Session.outside eval (World.run [] program)))
    (slot : Nat)
    (words : List String) :
    machines.Keeps (Session.dispatch eval slot words) := by
  intro machine
  unfold Session.dispatch KeepsFrom
  rw [Session.run_getState_bind]
  split
  · exact keeps_fail _ machine
  · rename_i callback found
    have used : slot ∈ machine.host.session.callbacks.slots :=
      Std.TreeMap.mem_iff_isSome_getElem?.mpr (found ▸ rfl)
    apply keepsFrom_bind (laws.keepsFrom_enter used)
    intro _ after _
    apply keeps_bind (programs _)
    intro outcome
    split
    · exact keeps_bind (laws.keeps_leave slot) fun _ => keeps_pure _
    · exact keeps_fail _

end Conduct

end ScriptBridge
