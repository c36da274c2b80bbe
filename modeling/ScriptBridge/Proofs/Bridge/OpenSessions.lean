import ScriptBridge.Proofs.Bridge.Programs

/-!
# What becomes of open sessions

Sessions that are open stay open, whatever hosts and scripts do. A relation between what a session
was and what it becomes holds of every session and all that programs do, if it holds of the steps
that scripts and links take.
-/

namespace ScriptBridge.Conduct

theorem sessions_ofMachine (machine : SessionMachine) (id : SessionId) :
    (World.ofMachine machine).sessions[id]? =
      if machine.host.running = id then
        if machine.host.running < machine.host.sessions.size then
          some ⟨machine.interp, machine.host.session⟩
        else none
      else machine.host.sessions[id]? :=
  Array.getElem?_setIfInBounds

/-- Sessions stay open, and each is related to what it was. -/
def eachSession
    (related : OpenSession → OpenSession → Prop)
    (refl : ∀ session, related session session)
    (trans : ∀ before middle after,
      related before middle → related middle after → related before after) :
    Conduct World where
  allows _ before after :=
    ∀ (id : SessionId) (session : OpenSession), before.sessions[id]? = some session →
      ∃ later, after.sessions[id]? = some later ∧ related session later
  refl _ _ session found := ⟨session, found, refl session⟩
  trans first second id session found := by
    obtain ⟨middle, foundMiddle, relatedMiddle⟩ := first id session found
    obtain ⟨later, foundLater, relatedLater⟩ := second id middle foundMiddle
    exact ⟨later, foundLater, trans session middle later relatedMiddle relatedLater⟩
  cut := id

section Sessions

variable
  {related : OpenSession → OpenSession → Prop}
  {refl : ∀ session, related session session}
  {trans : ∀ before middle after,
    related before middle → related middle after → related before after}

/-! ## Sessions at work -/

/-- While a session is at work, the other sessions are as they were. -/
theorem eachSession_atWork
    {finished : Bool}
    {before after : SessionMachine}
    (sameRunning : after.host.running = before.host.running)
    (sameSessions : after.host.sessions = before.host.sessions)
    (own : related ⟨before.interp, before.host.session⟩ ⟨after.interp, after.host.session⟩) :
    (eachSession related refl trans).atWork.allows finished before after := by
  refine ⟨sameRunning, ?_⟩
  intro id session found
  rw [sessions_ofMachine] at found
  rw [sessions_ofMachine, sameRunning, sameSessions]
  split at found
  · rename_i here
    rw [if_pos here]
    split at found
    · rename_i inside
      rw [if_pos inside]
      cases found
      exact ⟨_, rfl, own⟩
    · cases found
  · rename_i elsewhere
    rw [if_neg elsewhere]
    exact ⟨session, found, refl session⟩

/-! ## Laws -/

theorem eachSession_opened
    {finished : Bool}
    (world : World)
    (opened : OpenSession) :
    (eachSession related refl trans).allows finished world
      { world with sessions := world.sessions.push opened } := by
  intro id session found
  have inside := (Array.getElem?_eq_some_iff.mp found).1
  refine ⟨session, ?_, refl session⟩
  show (world.sessions.push opened)[id]? = some session
  rw [Array.getElem?_push, if_neg (Nat.ne_of_lt inside), found]

/-- A relation that does not look at the calls in progress. -/
theorem eachSession_allowsNesting
    (depths : ∀ (session : OpenSession) depth,
      related session { session with interp := { session.interp with depth } })
    (frames : ∀ (session : OpenSession) frames,
      related session { session with
        interp := { session.interp with store := { session.interp.store with frames } } }) :
    (eachSession related refl trans).atWork.AllowsNesting :=
  allowsNesting_of_indifferent
    (fun machine depth => eachSession_atWork rfl rfl (depths ⟨machine.interp, _⟩ depth))
    fun machine later => eachSession_atWork rfl rfl (frames ⟨machine.interp, _⟩ later)

theorem eachSession_allowsUntouched
    (scripts : ∀ {before after : SessionMachine}, Untouched before after →
      related ⟨before.interp, before.host.session⟩ ⟨after.interp, after.host.session⟩) :
    (eachSession related refl trans).atWork.AllowsUntouched := by
  intro before after untouched
  apply eachSession_atWork untouched.running
  · rw [untouched.shared]
  · exact scripts untouched

section Steps

variable
  (untouched : (eachSession related refl trans).atWork.AllowsUntouched)
  (failing : (eachSession related refl trans).atWork.AllowsFailing)
  (linked : ∀ target, (eachSession related refl trans).atWork.Keeps (Session.link target))
  (guards : (eachSession related refl trans).atWork.AllowsGuards)

include untouched failing linked guards

theorem eachSession_allowsSessions : (eachSession related refl trans).AllowsSessions where
  within := untouched.allowsWork
  quiet sameSessions _ _ _ _ session found := ⟨session, sameSessions ▸ found, refl session⟩
  opened world _ _ _ _ := eachSession_opened world _
  failing := failing
  holding _ _ _ _ session found := ⟨session, found, refl session⟩
  registered _ callback release := untouched.keeps_register failing callback release
  linked := linked
  guards := guards

/-- Programs keep each session related to what it was. -/
theorem eachSession_allowsHosts
    (nesting : (eachSession related refl trans).atWork.AllowsNesting) :
    (eachSession related refl trans).AllowsHosts where
  sessions := eachSession_allowsSessions untouched failing linked guards
  commands _ runs :=
    allowsCommands_of_indifferent (eachSession_allowsSessions untouched failing linked guards)
      (fun world _ => (eachSession related refl trans).refl world) runs
  calls := untouched.allowsCalls
  nesting := nesting

end Steps

end Sessions

/-! ## Interpreters -/

/-- Sessions stay open, and the interpreter of each is related to what it was. -/
def eachInterp
    (related : Interp Nat → Interp Nat → Prop)
    (refl : ∀ interp, related interp interp)
    (trans : ∀ {before middle after},
      related before middle → related middle after → related before after) :
    Conduct World :=
  eachSession (fun before after => related before.interp after.interp)
    (fun session => refl session.interp) fun _ _ _ => trans

variable
  {related : Interp Nat → Interp Nat → Prop}
  {refl : ∀ interp, related interp interp}
  {trans : ∀ {before middle after},
    related before middle → related middle after → related before after}

/-- What happens within a session may have something put in front of it and behind it, if the whole
is related again. -/
theorem eachInterp_around
    {finished : Bool}
    {machine after : SessionMachine}
    {start stop : Interp Nat}
    (within : (eachInterp related refl trans).atWork.allows finished
      { machine with interp := start } after)
    (around : related start after.interp → related machine.interp stop) :
    (eachInterp related refl trans).atWork.allows finished machine
      { after with interp := stop } := by
  obtain ⟨sameRunning, kept⟩ := within
  refine ⟨sameRunning, ?_⟩
  intro id session found
  have keptHere := kept id
  rw [sessions_ofMachine] at found
  rw [sessions_ofMachine, sessions_ofMachine] at keptHere
  rw [sessions_ofMachine]
  dsimp only at keptHere ⊢
  rw [sameRunning] at keptHere ⊢
  by_cases here : machine.host.running = id
  · rw [if_pos here] at found keptHere
    rw [if_pos here] at keptHere ⊢
    split at found
    · rename_i inside
      rw [if_pos inside] at keptHere
      obtain ⟨later, foundLater, own⟩ := keptHere _ rfl
      split at foundLater
      · rename_i insideLater
        rw [if_pos insideLater]
        cases found
        cases foundLater
        exact ⟨_, rfl, around own⟩
      · cases foundLater
    · cases found
  · rw [if_neg here] at found keptHere
    rw [if_neg here] at keptHere ⊢
    exact keptHere session found

/-- Programs keep each interpreter related to what it was. -/
theorem eachInterp_allowsHosts
    (scripts : ∀ {before after : SessionMachine},
      Untouched before after → related before.interp after.interp)
    (links : ∀ {interp : Interp Nat} {store : VariableStore},
      store.frames = interp.store.frames → related interp { interp with store })
    (nesting : (eachInterp related refl trans).atWork.AllowsNesting) :
    (eachInterp related refl trans).AllowsHosts :=
  have failing : (eachInterp related refl trans).atWork.AllowsFailing :=
    fun _ _ _ => eachSession_atWork rfl rfl (refl _)
  have linking : (eachInterp related refl trans).atWork.AllowsLinking :=
    { stores := fun sameFrames => eachSession_atWork rfl rfl (links sameFrames)
      names := fun _ _ => eachSession_atWork rfl rfl (refl _) }
  eachSession_allowsHosts (eachSession_allowsUntouched scripts) failing
    (linking.keeps_link failing) (linking.allowsGuards failing) nesting

end ScriptBridge.Conduct
