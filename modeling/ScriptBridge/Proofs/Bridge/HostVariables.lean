import ScriptBridge.Proofs.Bridge.LinkTables
import ScriptBridge.Proofs.Interp.VariableStorage

/-!
# Variables of the host and sessions

A script sets a number of the host through a link to its cell, and a pass sets a text that its
session has linked. A session without a link to a variable of the host leaves it alone, whatever its
commands do, and they make no link either.
-/

namespace ScriptBridge

/-! ## Values -/

namespace HostVariable

/-- What a variable holds. -/
abbrev Value : HostVariable → Type
  | int _ => Int64
  | float _ => Float
  | text _ => String

/-- The request of the host that sets a variable. -/
def setting : (target : HostVariable) → target.Value → Request
  | int id, value => .setInt id value
  | float id, value => .setFloat id value
  | text id, value => .setText id value

/-- What a variable holds among these numbers and texts. -/
def value (cells : Cells) (texts : Std.TreeMap Nat String) : (target : HostVariable) → target.Value
  | int id => cells.int id
  | float id => cells.float id
  | text id => texts.getD id ""

variable {target : HostVariable} {cells changed : Cells}

theorem value_setInt
    {cell : Nat}
    (other : target ≠ .int cell)
    (number : Int64)
    (texts : Std.TreeMap Nat String) :
    target.value (cells.setInt cell number) texts = target.value cells texts := by
  cases target with
  | int id =>
      have differs : ¬compare cell id = .eq := by
        rw [Std.compare_eq_iff_eq]
        rintro rfl
        exact other rfl
      show Std.TreeMap.getD (cells.ints.insert cell number) id 0 = _
      rw [Std.TreeMap.getD_insert, if_neg differs]
      rfl
  | float | text => rfl

theorem value_setFloat
    {cell : Nat}
    (other : target ≠ .float cell)
    (number : Float)
    (texts : Std.TreeMap Nat String) :
    target.value (cells.setFloat cell number) texts = target.value cells texts := by
  cases target with
  | float id =>
      have differs : ¬compare cell id = .eq := by
        rw [Std.compare_eq_iff_eq]
        rintro rfl
        exact other rfl
      show Std.TreeMap.getD (cells.floats.insert cell number) id 0.0 = _
      rw [Std.TreeMap.getD_insert, if_neg differs]
      rfl
  | int | text => rfl

end HostVariable

/-- The variable of the host that a script sets with this link; texts it sets in their buffers. -/
def Link.cell? : Link → Option HostVariable
  | int cell => some (.int cell)
  | float cell => some (.float cell)
  | text _ => none

theorem Link.cell?_place (link : Link) : link.place.cell? = link.cell? := by
  cases link <;> rfl

theorem Link.value_write
    {link written : Link}
    {target : HostVariable}
    {cells changed : Cells}
    {name value : String}
    (elsewhere : link.cell? ≠ some target)
    (wrote : link.write cells name value = .ok (written, changed))
    (texts : Std.TreeMap Nat String) :
    target.value changed texts = target.value cells texts := by
  have other {cell : HostVariable} (here : link.cell? = some cell) : target ≠ cell := by
    rintro rfl
    exact elsewhere here
  unfold Link.write at wrote
  cases link with
  | int cell =>
      dsimp only at wrote
      split at wrote
      · cases wrote
        exact HostVariable.value_setInt (other rfl) _ texts
      · cases wrote
  | float cell =>
      dsimp only at wrote
      split at wrote
      · cases wrote
        exact HostVariable.value_setFloat (other rfl) _ texts
      · cases wrote
  | text buffer =>
      cases wrote
      rfl

/-! ## Stores without a link to a variable -/

namespace VariableStore

variable {store after : VariableStore} {target : HostVariable}

/-- No link leads to the variable of the host. -/
def Misses (store : VariableStore) (target : HostVariable) : Prop :=
  ∀ (key : String) (link : Link), store.links[key]? = some link → link.cell? ≠ some target

theorem Misses.sameLinks (misses : store.Misses target) (same : store.SameLinks after) :
    after.Misses target := by
  intro key link found
  have place := same key
  rw [found, Option.map_some] at place
  obtain ⟨earlier, foundEarlier, samePlace⟩ := Option.map_eq_some_iff.mp place.symm
  rw [← link.cell?_place, ← samePlace, earlier.cell?_place]
  exact misses key earlier foundEarlier

theorem Misses.value_set
    {cells changed : Cells}
    {name value text : String}
    (misses : store.Misses target)
    (wrote : store.set cells name value = .ok (text, after, changed))
    (texts : Std.TreeMap Nat String) :
    target.value changed texts = target.value cells texts := by
  unfold set at wrote
  split at wrote
  · split at wrote
    · rename_i link found
      cases written : link.write cells name value with
      | error message =>
          rw [written] at wrote
          cases wrote
      | ok result =>
          rw [written] at wrote
          cases wrote
          exact Link.value_write (misses _ link found) written texts
    · cases wrote
      rfl
  · cases wrote
    rfl

end VariableStore

/-- Links that mirror a table miss the variables that are not in it. -/
theorem Mirrored.misses
    {settings : Settings}
    {table : LinkTable}
    {store : VariableStore}
    {target : HostVariable}
    (mirrored : Mirrored settings table store.links)
    (unlinked : table.name? target = none) :
    store.Misses target := by
  intro key link found here
  have member : key ∈ store.links := by
    rw [Std.TreeMap.mem_iff_isSome_getElem?, found]
    rfl
  obtain ⟨other, linked⟩ := mirrored.named member
  have place := mirrored.linked linked
  rw [found, Option.map_some] at place
  have cell := congrArg Link.cell? (Option.some.inj place)
  rw [link.cell?_place, here] at cell
  have same : target = other := by
    cases other <;> cases cell <;> rfl
  rw [same, linked] at unlinked
  cases unlinked

/-! ## Sessions without a link to a variable -/

namespace Session

/-- Neither the table of a session nor the links of its interpreter lead to the variable. -/
structure Misses (machine : SessionMachine) (target : HostVariable) : Prop where
  table : machine.host.session.links.name? target = none
  links : machine.interp.store.Misses target

/-- What a variable of the host holds while a session is at work. -/
def valueOf (machine : SessionMachine) (target : HostVariable) : target.Value :=
  target.value machine.cells machine.host.texts

end Session

namespace Conduct

open Machine

/-- A session that misses a variable of the host goes on missing it and leaves it alone. -/
def sparing (target : HostVariable) : Conduct SessionMachine where
  allows _ before after :=
    Session.Misses before target →
      Session.Misses after target ∧ Session.valueOf after target = Session.valueOf before target
  refl _ misses := ⟨misses, rfl⟩
  trans first second misses := by
    obtain ⟨missesThen, same⟩ := first misses
    obtain ⟨missesLater, sameLater⟩ := second missesThen
    exact ⟨missesLater, sameLater.trans same⟩
  cut := id

variable {target : HostVariable}

/-- A session that changes neither links nor what the host holds. -/
theorem sparing_of_same
    {before after : SessionMachine}
    (table : after.host.session.links = before.host.session.links)
    (links : before.interp.store.SameLinks after.interp.store)
    (value : Session.valueOf after target = Session.valueOf before target) :
    (sparing target).allows true before after :=
  fun misses => ⟨⟨table ▸ misses.table, misses.links.sameLinks links⟩, value⟩

/-- Commands change a variable of the host through links alone, and make none. -/
theorem sparing_of_change
    {before after : SessionMachine}
    (change : Change freeSlot before after) :
    (sparing target).allows true before after := by
  have table : after.host.session.links = before.host.session.links :=
    change.host_eq (fun host => host.session.links) fun _ _ => rfl
  have texts : after.host.texts = before.host.texts :=
    change.host_eq (fun host => host.texts) fun _ _ => rfl
  intro misses
  rcases change.set_or_same with ⟨name, value, text, wrote⟩ | ⟨cells, links⟩
  · refine sparing_of_same table (VariableStore.sameLinks_set wrote) ?_ misses
    unfold Session.valueOf
    rw [texts]
    exact misses.links.value_set wrote _
  · refine sparing_of_same table links ?_ misses
    unfold Session.valueOf
    rw [cells, texts]

/-- So do scripts, as long as the commands of the host that they call leave the variable alone. -/
theorem sparing_evaluator
    {hosts : HostCommands Nat HostState}
    (release : hosts.release = freeSlot)
    (spares : hosts.Keeps (sparing target))
    (fuel : Nat) :
    (evaluator hosts fuel).Keeps (sparing target) := by
  refine keeps_evaluator ?_ ?_ spares fuel
  · rw [release]
    exact
      { changed := sparing_of_change
        answered := fun _ _ => sparing_of_same rfl (VariableStore.sameLinks_of_eq rfl) rfl }
  · exact allowsNesting_of_indifferent
      (fun _ _ => sparing_of_same rfl (VariableStore.sameLinks_of_eq rfl) rfl)
      fun _ _ => sparing_of_same rfl (VariableStore.sameLinks_of_eq rfl) rfl

end Conduct

end ScriptBridge
