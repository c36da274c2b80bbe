import ScriptBridge.Proofs.Interp.Changes

/-!
# Calls in progress

An interpreter counts the invocations in progress and has a frame for each procedure among them. The
changes that commands make concern the innermost frame at most: which calls are in progress, and the
variables of the others, stay as they are.
-/

namespace ScriptBridge

variable {Key Host : Type}

/-- The same calls are in progress, and all frames but the innermost are the same. -/
structure Interp.SameStack (before after : Interp Key) : Prop where
  depth : after.depth = before.depth
  count : after.store.frames.length = before.store.frames.length
  outer : after.store.frames.tail = before.store.frames.tail

namespace Interp.SameStack

theorem refl (interp : Interp Key) : interp.SameStack interp :=
  ⟨rfl, rfl, rfl⟩

theorem trans
    {before middle after : Interp Key}
    (first : before.SameStack middle)
    (second : middle.SameStack after) :
    before.SameStack after :=
  ⟨second.depth.trans first.depth, second.count.trans first.count,
    second.outer.trans first.outer⟩

theorem of_frames
    {before after : Interp Key}
    (sameFrames : after.store.frames = before.store.frames)
    (sameDepth : after.depth = before.depth) :
    before.SameStack after :=
  ⟨sameDepth, congrArg List.length sameFrames, congrArg List.tail sameFrames⟩

end Interp.SameStack

/-! ## Variables -/

namespace VariableStore

/-- As many frames, of which all but the innermost are the same. -/
def SameFrames (before after : VariableStore) : Prop :=
  after.frames.length = before.frames.length ∧ after.frames.tail = before.frames.tail

variable {store after : VariableStore}

theorem sameFrames_mapInnermost (store : VariableStore) (change : Frame → Frame) :
    store.SameFrames (store.mapInnermost change) := by
  unfold mapInnermost
  split
  · exact ⟨rfl, rfl⟩
  · rename_i frame outer found
    unfold SameFrames
    rw [found]
    exact ⟨rfl, rfl⟩

theorem sameFrames_set
    {cells changed : Cells}
    {name value text : String}
    (wrote : store.set cells name value = .ok (text, after, changed)) :
    store.SameFrames after := by
  unfold set at wrote
  split at wrote
  · split at wrote
    · rename_i link _
      cases written : link.write cells name value with
      | error message =>
          rw [written] at wrote
          cases wrote
      | ok result =>
          rw [written] at wrote
          cases wrote
          exact ⟨rfl, rfl⟩
    · cases wrote
      exact ⟨rfl, rfl⟩
  · cases wrote
    exact sameFrames_mapInnermost store _

theorem sameFrames_unset
    {name : String}
    (unset : store.unset? name = some after) :
    store.SameFrames after := by
  unfold unset? at unset
  split at unset
  · split at unset
    · cases unset
      exact ⟨rfl, rfl⟩
    · split at unset
      · cases unset
        exact ⟨rfl, rfl⟩
      · cases unset
  · split at unset
    · cases unset
      exact sameFrames_mapInnermost store _
    · cases unset

theorem sameFrames_declareGlobals (names : List String) (store : VariableStore) :
    store.SameFrames (names.foldl declareGlobal store) := by
  induction names generalizing store with
  | nil => exact ⟨rfl, rfl⟩
  | cons name names inductionHypothesis =>
      rw [List.foldl_cons]
      have here := sameFrames_mapInnermost store
        fun frame => { frame with declared := name :: frame.declared }
      have further := inductionHypothesis (store.declareGlobal name)
      exact ⟨further.1.trans here.1, further.2.trans here.2⟩

/-! ### Links -/

theorem frames_setBuffer (store : VariableStore) (name buffer : String) :
    (store.setBuffer name buffer).frames = store.frames := by
  unfold setBuffer
  dsimp only
  split <;> rfl

theorem frames_link?
    {name : String}
    {link : Link}
    (linked : store.link? name link = some after) :
    after.frames = store.frames := by
  unfold link? at linked
  dsimp only at linked
  split at linked
  · cases linked
  · cases linked
    rfl

theorem frames_unlink (store : VariableStore) (cells : Cells) (name : String) :
    (store.unlink cells name).frames = store.frames := by
  unfold unlink
  dsimp only
  split <;> rfl

end VariableStore

/-! ## Machines -/

namespace Machine

variable {machine before after : Machine Key Host} {release : Release Key Host}

theorem interp_released (machine : Machine Key Host) (old : Option (Command Key)) :
    (machine.released release old).interp = machine.interp := by
  cases old with
  | none => rfl
  | some command => cases command <;> rfl

theorem sameStack_define (name : String) (command : Command Key) :
    machine.interp.SameStack (machine.define release name command).interp := by
  unfold define
  rw [interp_released]
  exact ⟨rfl, rfl, rfl⟩

theorem sameStack_removeCommand
    {name : String}
    (removed : machine.removeCommand release name = .ok after) :
    machine.interp.SameStack after.interp := by
  obtain ⟨old, -, rfl⟩ := eq_of_removeCommand removed
  rw [interp_released]
  exact ⟨rfl, rfl, rfl⟩

theorem sameStack_renameCommand
    {name new : String}
    (renamed : machine.renameCommand release name new = .ok after) :
    machine.interp.SameStack after.interp := by
  obtain removed | ⟨command, -, -, rfl⟩ := eq_of_renameCommand renamed
  · exact sameStack_removeCommand removed
  · exact ⟨rfl, rfl, rfl⟩

theorem sameStack_withStore
    {store : VariableStore}
    (same : machine.interp.store.SameFrames store) :
    machine.interp.SameStack (machine.withStore store).interp :=
  ⟨rfl, same.1, same.2⟩

/-- Commands leave the calls in progress as they are. -/
theorem Change.sameStack (change : Change release before after) :
    before.interp.SameStack after.interp := by
  cases change with
  | written wrote => exact sameStack_withStore (VariableStore.sameFrames_set wrote)
  | unset unset => exact sameStack_withStore (VariableStore.sameFrames_unset unset)
  | declared names => exact sameStack_withStore (VariableStore.sameFrames_declareGlobals names _)
  | defined name noHost => exact sameStack_define name _
  | removed removed => exact sameStack_removeCommand removed
  | renamed renamed => exact sameStack_renameCommand renamed
  | shown | queued | waited | printed | ended => exact ⟨rfl, rfl, rfl⟩

end Machine

end ScriptBridge
