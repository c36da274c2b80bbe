import ScriptBridge.Proofs.Bridge.OpenSessions
import ScriptBridge.Proofs.Bridge.PresentLinks

/-!
# Names of ended links

Each link is made under a number of its own. So a name that no variable has any more is never used
again, and a variable that is linked once more gets a new name.
-/

namespace ScriptBridge

namespace OpenSession

/-- The numbers that a session has used up do not come back: later no variable has a name with one
of them that it has not had before. -/
structure NamesSpent (before after : OpenSession) : Prop where
  settings : after.state.settings = before.state.settings
  nextId : before.state.links.nextId ≤ after.state.links.nextId
  names : ∀ {target : HostVariable} {number : Nat}, number < before.state.links.nextId →
    after.state.links.name? target = some (before.state.settings.variableName number) →
      before.state.links.name? target = some (before.state.settings.variableName number)

namespace NamesSpent

variable {before middle after session : OpenSession}

theorem refl (session : OpenSession) : session.NamesSpent session :=
  ⟨rfl, Nat.le_refl _, fun _ linked => linked⟩

theorem trans (first : before.NamesSpent middle) (second : middle.NamesSpent after) :
    before.NamesSpent after where
  settings := second.settings.trans first.settings
  nextId := first.nextId.trans second.nextId
  names below linked := by
    rw [← first.settings] at linked
    have linkedThen := second.names (Nat.lt_of_lt_of_le below first.nextId) linked
    rw [first.settings] at linkedThen
    exact first.names below linkedThen

/-- At most the next name is new. -/
theorem of_table
    (settings : after.state.settings = before.state.settings)
    (nextId : before.state.links.nextId ≤ after.state.links.nextId)
    (names : ∀ target name, after.state.links.name? target = some name →
      before.state.links.name? target = some name ∨
        name = before.state.settings.variableName before.state.links.nextId) :
    before.NamesSpent after where
  settings := settings
  nextId := nextId
  names below linked := by
    rcases names _ _ linked with earlier | next
    · exact earlier
    · have equal := Settings.variableName_inj.mp next
      omega

/-- All variables keep their names. -/
theorem of_same
    (settings : after.state.settings = before.state.settings)
    (nextId : after.state.links.nextId = before.state.links.nextId)
    (names : ∀ target, after.state.links.name? target = before.state.links.name? target) :
    before.NamesSpent after :=
  .of_table settings nextId.ge fun target _ linked => .inl ((names target).symm.trans linked)

/-- A variable that is linked later has its name already, or one with a new number. -/
theorem linked_anew
    (spent : before.NamesSpent after)
    (mirrored : after.LinksMirrored)
    {target : HostVariable}
    (unlinked : before.state.links.name? target = none) :
    after.state.links.name? target = none ∨
      ∃ number ≥ before.state.links.nextId,
        after.state.links.name? target = some (before.state.settings.variableName number) := by
  cases linked : after.state.links.name? target with
  | none => exact .inl rfl
  | some name =>
      obtain ⟨number, -, rfl⟩ := mirrored.mirrored.generated linked
      rw [spent.settings] at linked ⊢
      refine .inr ⟨number, ?_, rfl⟩
      by_contra earlier
      have linkedBefore := spent.names (Nat.lt_of_not_le earlier) linked
      rw [unlinked] at linkedBefore
      cases linkedBefore

/-- A name that is free although its number is used up stays without a link. -/
theorem unlinked
    (spent : before.NamesSpent after)
    (mirrored : after.LinksMirrored)
    {number : Nat}
    (below : number < before.state.links.nextId)
    (free : ∀ target,
      before.state.links.name? target ≠ some (before.state.settings.variableName number)) :
    after.interp.store.links[before.state.settings.variableName number]? = none := by
  apply Std.TreeMap.getElem?_eq_none
  intro linked
  obtain ⟨target, named⟩ := mirrored.mirrored.named linked
  exact free target (spent.names below named)

end NamesSpent

end OpenSession

namespace Conduct

open OpenSession

/-- Sessions stay open, and use no name twice. -/
def spendingNames : Conduct World :=
  eachSession NamesSpent .refl fun _ _ _ => .trans

theorem spendingNames_allowsUntouched : spendingNames.atWork.AllowsUntouched := by
  apply eachSession_allowsUntouched
  intro before after untouched
  rw [untouched.state]
  exact .of_same rfl rfl fun _ => rfl

theorem spendingNames_allowsFailing : spendingNames.atWork.AllowsFailing :=
  fun _ _ _ => eachSession_atWork rfl rfl (.of_same rfl rfl fun _ => rfl)

theorem spendingNames_link (target : HostVariable) :
    spendingNames.atWork.Keeps (Session.link target) := by
  intro machine
  unfold KeepsFrom
  cases known : machine.host.session.links.name? target with
  | some name =>
      rw [Session.run_link_of_linked known]
      exact Conduct.refl _ machine
  | none =>
      rcases Session.run_link_of_unlinked known with ⟨link, store, -, -, ran⟩ | ⟨message, ran⟩
      · rw [ran]
        refine eachSession_atWork rfl rfl (.of_table rfl ?_ ?_)
        · show _ ≤ LinkTable.nextId _
          rw [LinkTable.nextId_insert]
          exact Nat.le_succ _
        · intro other name linked
          have inserted : (LinkTable.insert _ _ target).name? other = some name := linked
          rw [LinkTable.name?_insert] at inserted
          split at inserted
          · exact .inr (Option.some.inj inserted).symm
          · exact .inl inserted
      · rw [ran]
        exact eachSession_atWork rfl rfl (.of_table rfl (Nat.le_succ _) fun _ _ => .inl)

theorem spendingNames_unlink (target : HostVariable) :
    spendingNames.atWork.Keeps (Session.unlink target) := by
  intro machine
  unfold KeepsFrom
  rw [Session.run_unlink]
  cases known : machine.host.session.links.name? target with
  | none => exact Conduct.refl _ machine
  | some name =>
      refine eachSession_atWork rfl rfl (.of_table rfl ?_ ?_)
      · exact (LinkTable.nextId_erase _ _).ge
      · intro other name linked
        have erased : (LinkTable.erase _ target).name? other = some name := linked
        rw [LinkTable.name?_erase] at erased
        split at erased
        · cases erased
        · exact .inl erased

theorem spendingNames_allowsHosts : spendingNames.AllowsHosts :=
  eachSession_allowsHosts spendingNames_allowsUntouched spendingNames_allowsFailing
    spendingNames_link
    (allowsGuards_of_indifferent
      (fun _ _ => eachSession_atWork rfl rfl (.of_same rfl rfl fun _ => rfl))
      spendingNames_link spendingNames_unlink)
    (eachSession_allowsNesting (fun _ _ => .of_same rfl rfl fun _ => rfl)
      fun _ _ => .of_same rfl rfl fun _ => rfl)

end Conduct

end ScriptBridge
