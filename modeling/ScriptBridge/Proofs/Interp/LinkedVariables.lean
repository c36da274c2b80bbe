import ScriptBridge.Interp.Machine

/-!
# What scripts do to linked variables

Scripts set and unset linked variables like all others. Which variables are linked, and where each
has its value, stays the same: a number goes to its cell and a text to the buffer of its link.
-/

namespace ScriptBridge

/-- Where a link has its value, apart from the text in its buffer. -/
def Link.place : Link → Link
  | text _ => text ""
  | link => link

theorem Link.place_write
    {link changed : Link}
    {cells after : Cells}
    {name value : String}
    (written : link.write cells name value = .ok (changed, after)) :
    changed.place = link.place := by
  cases link with
  | int cell | float cell =>
      unfold Link.write at written
      dsimp only at written
      split at written
      · obtain ⟨rfl, -⟩ := Prod.mk.inj (Except.ok.inj written)
        rfl
      · cases written
  | text buffer =>
      obtain ⟨rfl, -⟩ := Prod.mk.inj (Except.ok.inj written)
      rfl

namespace VariableStore

/-- The same variables are linked, each to the same place. -/
def SameLinks (before after : VariableStore) : Prop :=
  ∀ key : String, after.links[key]?.map Link.place = before.links[key]?.map Link.place

variable {store after : VariableStore} {cells changed : Cells} {name value text : String}

theorem sameLinks_of_eq (same : after.links = store.links) : store.SameLinks after :=
  fun key => by rw [same]

theorem sameLinks_insert
    {key : String}
    {old new : Link}
    (found : store.links[key]? = some old)
    (samePlace : new.place = old.place) :
    store.SameLinks { store with links := store.links.insert key new } := by
  intro other
  show (store.links.insert key new)[other]?.map Link.place = _
  rw [Std.TreeMap.getElem?_insert]
  split
  · rename_i here
    obtain rfl := Std.compare_eq_iff_eq.mp here
    rw [found, Option.map_some, Option.map_some, samePlace]
  · rfl

theorem links_mapInnermost (change : Frame → Frame) :
    (store.mapInnermost change).links = store.links := by
  unfold mapInnermost
  split <;> rfl

theorem links_declareGlobals (names : List String) (store : VariableStore) :
    (names.foldl declareGlobal store).links = store.links := by
  induction names generalizing store with
  | nil => rfl
  | cons name names inductionHypothesis =>
      rw [List.foldl_cons, inductionHypothesis]
      exact links_mapInnermost _

theorem sameLinks_set
    (wrote : store.set cells name value = .ok (text, after, changed)) :
    store.SameLinks after := by
  unfold set at wrote
  split at wrote
  · rename_i key _
    split at wrote
    · rename_i link found
      cases written : link.write cells name value with
      | error message =>
          rw [written] at wrote
          cases wrote
      | ok result =>
          rw [written] at wrote
          cases wrote
          exact sameLinks_insert found (Link.place_write written)
    · cases wrote
      exact sameLinks_of_eq rfl
  · cases wrote
    exact sameLinks_of_eq (links_mapInnermost _)

theorem sameLinks_unset (unset : store.unset? name = some after) : store.SameLinks after := by
  unfold unset? at unset
  split at unset
  · split at unset
    · cases unset
      exact sameLinks_of_eq rfl
    · split at unset
      · cases unset
        exact sameLinks_of_eq rfl
      · cases unset
  · split at unset
    · cases unset
      exact sameLinks_of_eq (links_mapInnermost _)
    · cases unset

theorem sameLinks_setBuffer (name buffer : String) :
    store.SameLinks (store.setBuffer name buffer) := by
  unfold setBuffer
  dsimp only
  split
  · rename_i old found
    exact sameLinks_insert found rfl
  · exact sameLinks_of_eq rfl

end VariableStore

end ScriptBridge
