import ScriptBridge.Interp.Action

/-!
# How actions treat a state

A conduct says which states may come after which when something works on a state, both if it
finishes and if it is cut short because it does not end. What keeps to a conduct is closed under
everything that actions are put together with, so that it is enough to look at the single changes.
-/

namespace ScriptBridge

/-! ## Conducts -/

/-- The ways in which actions break off, among them those of evaluations that do not end. -/
class Ending (Fault : Type) where
  /-- Whether an action that breaks off in this way has come to an end of its own. -/
  finished : Fault → Bool

instance : Ending Interruption where
  finished
    | .unfinished => false
    | _ => true

/-- Whether an action with this outcome has come to an end of its own. -/
def finishes {Fault α : Type} [Ending Fault] : Except Fault α → Bool
  | .ok _ => true
  | .error fault => Ending.finished fault

/-- Which states may come after which, for what finishes and for what does not. -/
structure Conduct (State : Type) where
  allows : (finished : Bool) → State → State → Prop
  refl : ∀ state, allows true state state
  trans : ∀ {first second : Bool} {before middle after : State},
    allows first before middle → allows second middle after →
      allows (first && second) before after
  cut : ∀ {before after : State}, allows true before after → allows false before after

namespace Conduct

variable {State : Type} (conduct : Conduct State)

theorem stays (finished : Bool) (state : State) : conduct.allows finished state state := by
  cases finished with
  | true => exact conduct.refl state
  | false => exact conduct.cut (conduct.refl state)

variable {conduct}

/-- After a change that is allowed, all that is allowed from there is allowed. -/
theorem after
    {finished : Bool}
    {before middle after : State}
    (first : conduct.allows true before middle)
    (second : conduct.allows finished middle after) :
    conduct.allows finished before after := by
  have both := conduct.trans first second
  rwa [Bool.true_and] at both

/-- A change that is allowed may follow what was cut short. -/
theorem before
    {finished : Bool}
    {before middle after : State}
    (first : conduct.allows finished before middle)
    (second : conduct.allows true middle after) :
    conduct.allows finished before after := by
  have both := conduct.trans first second
  rwa [Bool.and_true] at both

/-! ## Actions -/

variable {Fault α β : Type} [Ending Fault]

variable (conduct)

/-- An action keeps to a conduct when it starts from this state. -/
def KeepsFrom (state : State) (action : ExceptT Fault (StateM State) α) : Prop :=
  conduct.allows (finishes (action.run.run state).1) state (action.run.run state).2

/-- An action keeps to a conduct. -/
def Keeps (action : ExceptT Fault (StateM State) α) : Prop :=
  ∀ state, conduct.KeepsFrom state action

variable {conduct}

omit [Ending Fault] in
/-- The second part of an action starts where the first one has stopped. -/
theorem run_bind
    (action : ExceptT Fault (StateM State) α)
    (next : α → ExceptT Fault (StateM State) β)
    (state : State) :
    (action >>= next).run.run state =
      match action.run.run state with
      | (.ok value, after) => (next value).run.run after
      | (.error fault, after) => (.error fault, after) := by
  rw [ExceptT.run_bind, StateT.run_bind]
  rcases action.run.run state with ⟨outcome, after⟩
  cases outcome <;> rfl

theorem keeps_pure (value : α) :
    conduct.Keeps (pure value : ExceptT Fault (StateM State) α) :=
  fun state => conduct.refl state

theorem keeps_throw (fault : Fault) :
    conduct.Keeps (throw fault : ExceptT Fault (StateM State) α) :=
  fun state => conduct.stays _ state

theorem keepsFrom_bind
    {state : State}
    {action : ExceptT Fault (StateM State) α}
    {next : α → ExceptT Fault (StateM State) β}
    (first : conduct.KeepsFrom state action)
    (second : ∀ value after,
      action.run.run state = (.ok value, after) → conduct.KeepsFrom after (next value)) :
    conduct.KeepsFrom state (action >>= next) := by
  unfold KeepsFrom at first ⊢
  rw [run_bind]
  rcases ran : action.run.run state with ⟨outcome, after⟩
  rw [ran] at first
  cases outcome with
  | ok value => exact Conduct.after first (second value after ran)
  | error fault => exact first

theorem keeps_bind
    {action : ExceptT Fault (StateM State) α}
    {next : α → ExceptT Fault (StateM State) β}
    (first : conduct.Keeps action)
    (second : ∀ value, conduct.Keeps (next value)) :
    conduct.Keeps (action >>= next) := by
  intro state
  apply keepsFrom_bind (first state)
  intro value after _
  exact second value after

theorem keeps_map
    {action : ExceptT Fault (StateM State) α}
    (change : α → β)
    (keeps : conduct.Keeps action) :
    conduct.Keeps (change <$> action) := by
  rw [map_eq_pure_bind]
  exact keeps_bind keeps fun value => keeps_pure (change value)

theorem keeps_get : conduct.Keeps (get : ExceptT Fault (StateM State) State) :=
  fun state => conduct.refl state

/-- What follows a look at the state may depend on what it was. -/
theorem keeps_get_bind
    {next : State → ExceptT Fault (StateM State) β}
    (keeps : ∀ state, conduct.KeepsFrom state (next state)) :
    conduct.Keeps (get >>= next) := by
  intro state
  apply keepsFrom_bind (keeps_get state)
  intro value after looked
  obtain ⟨sameValue, rfl⟩ := Prod.mk.inj looked
  obtain rfl := Except.ok.inj sameValue
  exact keeps state

theorem keepsFrom_set
    {before after : State}
    (allowed : conduct.allows true before after) :
    conduct.KeepsFrom before (set after : ExceptT Fault (StateM State) PUnit) :=
  allowed

theorem keeps_modify
    {change : State → State}
    (allowed : ∀ state, conduct.allows true state (change state)) :
    conduct.Keeps (modify change : ExceptT Fault (StateM State) PUnit) :=
  fun state => allowed state

theorem keeps_modifyGet
    {change : State → α × State}
    (allowed : ∀ state, conduct.allows true state (change state).2) :
    conduct.Keeps (modifyGet change : ExceptT Fault (StateM State) α) :=
  fun state => allowed state

/-- Going through a list keeps to a conduct if each round does. -/
theorem keeps_forIn
    {Item : Type}
    {items : List Item}
    {body : Item → β → ExceptT Fault (StateM State) (ForInStep β)}
    (keeps : ∀ item value, conduct.Keeps (body item value))
    (value : β) :
    conduct.Keeps (forIn items value body) := by
  induction items generalizing value with
  | nil => exact keeps_pure value
  | cons item items inductionHypothesis =>
      rw [List.forIn_cons]
      apply keeps_bind (keeps item value)
      intro step
      cases step with
      | done value => exact keeps_pure value
      | yield value => exact inductionHypothesis value

/-! ## Properties of states -/

section Leads

/-- Where a state has a property before an action, its value and the state afterwards have another
one, and a fault and the state where it breaks off a third one. -/
structure Leads
    (before : State → Prop)
    (action : ExceptT Fault (StateM State) α)
    (after : α → State → Prop)
    (broken : Fault → State → Prop) : Prop where
  ends : ∀ {start state : State} {value : α},
    before start → action.run.run start = (.ok value, state) → after value state
  breaks : ∀ {start state : State} {fault : Fault},
    before start → action.run.run start = (.error fault, state) → broken fault state

variable
  {before : State → Prop}
  {after : α → State → Prop}
  {later : β → State → Prop}
  {broken : Fault → State → Prop}

omit [Ending Fault]

theorem leads_of_run
    {action : ExceptT Fault (StateM State) α}
    (ends : ∀ start, before start → ∃ value state,
      action.run.run start = (.ok value, state) ∧ after value state) :
    Leads before action after broken := by
  constructor
  · intro start state value holds ran
    obtain ⟨_, _, ranToo, fits⟩ := ends start holds
    rw [ran] at ranToo
    obtain ⟨sameValue, rfl⟩ := Prod.mk.inj ranToo
    obtain rfl := Except.ok.inj sameValue
    exact fits
  · intro start state fault holds ran
    obtain ⟨_, _, ranToo, _⟩ := ends start holds
    rw [ran] at ranToo
    cases ranToo

theorem leads_from
    {earlier : State → Prop}
    {action : ExceptT Fault (StateM State) α}
    (weaker : ∀ state, earlier state → before state)
    (leads : Leads before action after broken) :
    Leads earlier action after broken where
  ends holds ran := leads.ends (weaker _ holds) ran
  breaks holds ran := leads.breaks (weaker _ holds) ran

theorem leads_to
    {weaker : α → State → Prop}
    {action : ExceptT Fault (StateM State) α}
    (leads : Leads before action after broken)
    (weakens : ∀ value state, after value state → weaker value state) :
    Leads before action weaker broken where
  ends holds ran := weakens _ _ (leads.ends holds ran)
  breaks := leads.breaks

/-- What is known beside the state may be used throughout. -/
theorem leads_given
    {known : Prop}
    {action : ExceptT Fault (StateM State) α}
    (leads : known → Leads before action after broken) :
    Leads (fun state => known ∧ before state) action after broken where
  ends holds ran := (leads holds.1).ends holds.2 ran
  breaks holds ran := (leads holds.1).breaks holds.2 ran

theorem leads_of_each
    {View : Type}
    {view : State → View}
    {action : ExceptT Fault (StateM State) α}
    (leads : ∀ seen, Leads (fun state => view state = seen ∧ before state) action after broken) :
    Leads before action after broken where
  ends holds ran := (leads _).ends ⟨rfl, holds⟩ ran
  breaks holds ran := (leads _).breaks ⟨rfl, holds⟩ ran

theorem leads_pure
    {value : α}
    (fits : ∀ state, before state → after value state) :
    Leads before (pure value : ExceptT Fault (StateM State) α) after broken :=
  leads_of_run fun start holds => ⟨value, start, rfl, fits start holds⟩

theorem leads_modify
    {change : State → State}
    {after : PUnit → State → Prop}
    (fits : ∀ state, before state → after () (change state)) :
    Leads before (modify change : ExceptT Fault (StateM State) PUnit) after broken :=
  leads_of_run fun start holds => ⟨(), change start, rfl, fits start holds⟩

theorem leads_bind
    {action : ExceptT Fault (StateM State) α}
    {next : α → ExceptT Fault (StateM State) β}
    (first : Leads before action after broken)
    (second : ∀ value, Leads (after value) (next value) later broken) :
    Leads before (action >>= next) later broken := by
  constructor
  · intro start state result holds ran
    rw [run_bind] at ran
    rcases ranFirst : action.run.run start with ⟨outcome, middle⟩
    rw [ranFirst] at ran
    cases outcome with
    | ok value => exact (second value).ends (first.ends holds ranFirst) ran
    | error fault => cases ran
  · intro start state fault holds ran
    rw [run_bind] at ran
    rcases ranFirst : action.run.run start with ⟨outcome, middle⟩
    rw [ranFirst] at ran
    cases outcome with
    | ok value => exact (second value).breaks (first.ends holds ranFirst) ran
    | error earlier =>
        obtain ⟨sameFault, rfl⟩ := Prod.mk.inj ran
        obtain rfl := Except.error.inj sameFault
        exact first.breaks holds ranFirst

end Leads

/-! ## Outcomes that are looked at -/

theorem finishes_eq_false_iff {outcome : Except Interruption α} :
    finishes outcome = false ↔ outcome = .error .unfinished := by
  constructor
  · intro cutShort
    cases outcome with
    | ok value => cases cutShort
    | error interruption =>
        cases interruption with
        | unfinished => rfl
        | error | returned | broke | continued | exited => cases cutShort
  · rintro rfl
    rfl

variable {Key Host : Type} {machines : Conduct (Machine Key Host)}

/-- What looks at the outcome of an action may go on from any outcome, but has to break off where
the action did not come to an end. -/
theorem keeps_attempt_bind
    {action : Action Key Host α}
    {next : Except Interruption α → Action Key Host β}
    (first : machines.Keeps action)
    (second : ∀ outcome, machines.Keeps (next outcome))
    (stuck : ∀ machine, ((next (.error .unfinished)).run.run machine).1 = .error .unfinished) :
    machines.Keeps (Action.attempt action >>= next) := by
  intro machine
  have kept := first machine
  have ran :
      (Action.attempt action).run.run machine =
        (.ok (action.run.run machine).1, (action.run.run machine).2) := rfl
  unfold KeepsFrom at kept ⊢
  rw [run_bind, ran]
  generalize action.run.run machine = result at kept ⊢
  obtain ⟨outcome, after⟩ := result
  have further := second outcome after
  unfold KeepsFrom at further
  cases came : finishes outcome with
  | true =>
      rw [came] at kept
      exact Conduct.after kept further
  | false =>
      rw [came] at kept
      obtain rfl := finishes_eq_false_iff.mp came
      have both := machines.trans kept further
      have same := finishes_eq_false_iff.mpr (stuck after)
      rw [same] at both ⊢
      exact both

theorem keeps_fail (message : String) :
    machines.Keeps (Action.fail message : Action Key Host α) :=
  keeps_throw _

theorem keeps_wrongUsage (usage : String) :
    machines.Keeps (Action.wrongUsage usage : Action Key Host α) :=
  keeps_throw _

/-- Putting another machine in place is the last change that an action makes. -/
theorem keepsFrom_putMachine
    {machine changed : Machine Key Host}
    (allowed : machines.allows true machine changed)
    (value : α) :
    machines.KeepsFrom machine
      (do Action.putMachine changed; return value : Action Key Host α) :=
  keepsFrom_bind (keepsFrom_set allowed) fun _ after _ => keeps_pure value after

end Conduct

end ScriptBridge
