import ScriptBridge.Proofs.Bridge.CommandLife

/-!
# Commands and their entries

What is in the table for a command depends on its stage: whether it is closed, which text and result
it has, which texts it has taken over, and whether it has owners.
-/

namespace ScriptBridge

/-! ## Commands that fit their stage -/

namespace CommandBuffer

/-- A command that can still be submitted, with the texts that it has taken over. -/
structure Pending
    (buffer : CommandBuffer)
    (session? : Option SessionId)
    (parts : List String) : Prop where
  notInvoked : buffer.invoked = false
  session : buffer.session = session?
  noResult : buffer.result = ""
  contains : ∀ part ∈ parts, Text.Includes buffer.base part

/-- A command that is closed, with a text and a result. -/
structure Closed (buffer : CommandBuffer) (text result : String) : Prop where
  invoked : buffer.invoked = true
  text : buffer.text = text
  result : buffer.result = result

variable {buffer : CommandBuffer} {session? : Option SessionId} {parts : List String}
  {text result : String}

namespace Pending

variable (pending : buffer.Pending session? parts)

include pending

theorem owned (owners : Nat) : (buffer.owned owners).Pending session? parts where
  notInvoked := pending.notInvoked
  session := pending.session
  noResult := pending.noResult
  contains := pending.contains

theorem appended (text : String) : (buffer.appended text).Pending session? (text :: parts) := by
  unfold CommandBuffer.appended
  rw [if_neg (Bool.eq_false_iff.mp pending.notInvoked)]
  refine ⟨pending.notInvoked, pending.session, pending.noResult, ?_⟩
  intro part member
  show part.toList <:+: (buffer.base ++ text).toList
  rw [String.toList_append]
  rcases List.mem_cons.mp member with rfl | earlier
  · exact (List.suffix_append _ _).isInfix
  · exact (pending.contains part earlier).trans (List.prefix_append _ _).isInfix

theorem prepended (text : String) : (buffer.prepended text).Pending session? parts := by
  unfold CommandBuffer.prepended
  rw [if_neg (Bool.eq_false_iff.mp pending.notInvoked)]
  refine ⟨pending.notInvoked, pending.session, pending.noResult, ?_⟩
  intro part member
  show part.toList <:+: (text ++ buffer.base).toList
  rw [String.toList_append]
  exact (pending.contains part member).trans (List.suffix_append _ _).isInfix

theorem fewer {others : List String} (fewer : others ⊆ parts) :
    buffer.Pending session? others where
  notInvoked := pending.notInvoked
  session := pending.session
  noResult := pending.noResult
  contains part member := pending.contains part (fewer member)

/-- The parts are in the text that is submitted. -/
theorem includes (part : String) (member : part ∈ parts) : Text.Includes buffer.text part := by
  unfold Text.Includes CommandBuffer.text
  rw [String.toList_append]
  exact (pending.contains part member).trans (List.prefix_append _ _).isInfix

theorem closed : buffer.closed.Closed buffer.text "" where
  invoked := rfl
  text := rfl
  result := pending.noResult

end Pending

theorem appended_of_invoked (invoked : buffer.invoked = true) : buffer.appended text = buffer := by
  unfold appended
  rw [if_pos invoked]

theorem prepended_of_invoked (invoked : buffer.invoked = true) :
    buffer.prepended text = buffer := by
  unfold prepended
  rw [if_pos invoked]

theorem owners_appended : (buffer.appended text).owners = buffer.owners := by
  unfold appended
  split <;> rfl

theorem owners_prepended : (buffer.prepended text).owners = buffer.owners := by
  unfold prepended
  split <;> rfl

/-- A change that leaves the text that is fixed, and the texts that were taken over, where they
are. -/
structure Kept (before after : CommandBuffer) : Prop where
  pending : ∀ {session? parts}, before.Pending session? parts → after.Pending session? parts
  closed : ∀ {text result}, before.Closed text result → after.Closed text result
  invoked : before.invoked = true → after.invoked = true
  owned : 0 < before.owners → 0 < after.owners

theorem Closed.owned (closed : buffer.Closed text result) (owners : Nat) :
    (buffer.owned owners).Closed text result where
  invoked := closed.invoked
  text := closed.text
  result := closed.result

theorem Closed.answered (closed : buffer.Closed text "") (result : String) :
    (buffer.answered result).Closed text result where
  invoked := closed.invoked
  text := closed.text
  result := rfl

theorem kept_appended (text : String) : buffer.Kept (buffer.appended text) where
  pending pending := (pending.appended text).fewer (List.subset_cons_self _ _)
  closed closed := (appended_of_invoked closed.invoked).symm ▸ closed
  invoked invoked := (appended_of_invoked invoked).symm ▸ invoked
  owned owned := owners_appended.symm ▸ owned

theorem kept_prepended (text : String) : buffer.Kept (buffer.prepended text) where
  pending pending := pending.prepended text
  closed closed := (prepended_of_invoked closed.invoked).symm ▸ closed
  invoked invoked := (prepended_of_invoked invoked).symm ▸ invoked
  owned owned := owners_prepended.symm ▸ owned

theorem kept_owned {owners : Nat} (some : 0 < owners) : buffer.Kept (buffer.owned owners) where
  pending pending := pending.owned owners
  closed closed := closed.owned owners
  invoked invoked := invoked
  owned _ := some

end CommandBuffer

namespace Stage

/-- The command will not change any more. -/
def Done : Stage → Prop
  | .settled _ _ _ | .absorbed _ _ _ | .stranded | .suppressed _ => True
  | _ => False

/-- Others may act while the command is at this stage. -/
def Waits : Stage → Prop
  | .leaving (some _) _ | .due _ _ | .sealed (some _) _ => False
  | _ => True

/-- What is in the table for a command at this stage. -/
def Fits (entry : Option CommandBuffer) : Stage → Prop
  | .unknown => entry = none
  | .pending session? parts =>
      ∃ buffer, entry = some buffer ∧ buffer.Pending session? parts ∧ 0 < buffer.owners
  | .leaving session? parts =>
      ∃ buffer, entry = some buffer ∧ buffer.Pending session? parts ∧ buffer.owners = 0
  | .due session? parts => ∃ buffer, entry = some buffer ∧ buffer.Pending session? parts
  | .sealed _ text | .running _ text => ∀ buffer, entry = some buffer → buffer.Closed text ""
  | .settled _ text result =>
      ∀ buffer, entry = some buffer → buffer.Closed text (result.getD "")
  | .absorbed _ _ _ => ∀ buffer, entry = some buffer → buffer.invoked = true
  | .stranded => ∀ buffer, entry = some buffer → buffer.invoked = true ∨ buffer.owners = 0
  | .suppressed _ => ∀ buffer, entry = some buffer → buffer.owners = 0

variable {stage : Stage} {buffer changed : CommandBuffer} {entry : Option CommandBuffer}

theorem not_busy_of_done (done : stage.Done) : ¬stage.Busy := by
  cases stage
  all_goals first
    | exact done.elim
    | exact id

theorem not_fresh_of_done (done : stage.Done) : ¬stage.Fresh := by
  cases stage
  all_goals first
    | exact done.elim
    | exact id

theorem known_of_not_fresh (old : ¬stage.Fresh) : stage ≠ .unknown := by
  rintro rfl
  exact old trivial

/-- A command that can be submitted and has owners is pending. -/
theorem pending_of_fits
    (fits : stage.Fits (some buffer))
    (waits : stage.Waits)
    (notInvoked : buffer.invoked = false)
    (owned : 0 < buffer.owners) :
    ∃ parts, stage = .pending buffer.session parts ∧ buffer.Pending buffer.session parts := by
  have isOpen : buffer.invoked ≠ true := Bool.eq_false_iff.mp notInvoked
  cases stage with
  | unknown => cases fits
  | pending session? parts =>
      obtain ⟨_, same, pending, _⟩ := fits
      cases same
      obtain rfl := pending.session
      exact ⟨parts, rfl, pending⟩
  | leaving session? parts =>
      obtain ⟨_, same, _, none⟩ := fits
      cases same
      exact absurd none owned.ne'
  | due session? parts => exact waits.elim
  | sealed | running | settled => exact absurd (fits buffer rfl).invoked isOpen
  | absorbed => exact absurd (fits buffer rfl) isOpen
  | stranded =>
      rcases fits buffer rfl with invoked | none
      · exact absurd invoked isOpen
      · exact absurd none owned.ne'
  | suppressed => exact absurd (fits buffer rfl) owned.ne'

/-- A command that is closed and has owners is spent. -/
theorem spent_of_fits
    (fits : stage.Fits (some buffer))
    (invoked : buffer.invoked = true)
    (owned : 0 < buffer.owners) :
    stage.Spent := by
  have notPending : ∀ {session? parts}, ¬buffer.Pending session? parts :=
    fun pending => Bool.eq_false_iff.mp pending.notInvoked invoked
  cases stage with
  | unknown => cases fits
  | pending | leaving =>
      obtain ⟨_, same, pending, _⟩ := fits
      cases same
      exact absurd pending notPending
  | due =>
      obtain ⟨_, same, pending⟩ := fits
      cases same
      exact absurd pending notPending
  | suppressed => exact absurd (fits buffer rfl) owned.ne'
  | _ => trivial

/-- A command with owners may change in ways that do not touch what it is. -/
theorem fits_of_kept
    (fits : stage.Fits (some buffer))
    (owned : 0 < buffer.owners)
    (kept : buffer.Kept changed) :
    stage.Fits (some changed) := by
  cases stage with
  | unknown => cases fits
  | pending =>
      obtain ⟨_, same, pending, _⟩ := fits
      cases same
      exact ⟨changed, rfl, kept.pending pending, kept.owned owned⟩
  | leaving =>
      obtain ⟨_, same, _, none⟩ := fits
      cases same
      exact absurd none owned.ne'
  | due =>
      obtain ⟨_, same, pending⟩ := fits
      cases same
      exact ⟨changed, rfl, kept.pending pending⟩
  | sealed | running | settled =>
      rintro _ ⟨⟩
      exact kept.closed (fits buffer rfl)
  | absorbed =>
      rintro _ ⟨⟩
      exact kept.invoked (fits buffer rfl)
  | stranded =>
      rintro _ ⟨⟩
      rcases fits buffer rfl with invoked | none
      · exact .inl (kept.invoked invoked)
      · exact absurd none owned.ne'
  | suppressed => exact absurd (fits buffer rfl) owned.ne'

/-- The text of a command that cannot change any more is in the table. -/
theorem text_of_fits
    {text : String}
    (fits : stage.Fits (some buffer))
    (fixed : stage.text? = some text) :
    buffer.text = text := by
  cases stage with
  | sealed | running | settled =>
      cases fixed
      exact (fits buffer rfl).text
  | _ => cases fixed

/-- The result that is kept is in the table. -/
theorem result_of_fits
    {result : Option String}
    (fits : stage.Fits (some buffer))
    (ended : stage.result? = some result) :
    buffer.result = result.getD "" := by
  cases stage with
  | settled =>
      cases ended
      exact (fits buffer rfl).result
  | _ => cases ended

theorem known_of_fits (fits : stage.Fits (some buffer)) : stage ≠ .unknown := by
  rintro rfl
  cases fits

/-- A spent command may lose its owners. -/
theorem fits_disowned
    (fits : stage.Fits (some buffer))
    (spent : stage.Spent) :
    stage.Fits (some (buffer.owned 0)) := by
  cases stage with
  | sealed | running | settled =>
      rintro _ ⟨⟩
      exact (fits buffer rfl).owned 0
  | absorbed =>
      rintro _ ⟨⟩
      exact fits buffer rfl
  | stranded =>
      rintro _ ⟨⟩
      exact .inr rfl
  | _ => exact spent.elim

/-- A command that is spent or done needs no entry. -/
theorem fits_none (ended : stage.Spent ∨ stage.Done) : stage.Fits none := by
  cases stage
  all_goals first
    | exact fun _ same => nomatch same
    | exact ended.elim False.elim False.elim

end Stage

/-! ## Tables -/

namespace CommandTable

/-- A command is at a stage, and what the table has for it fits. -/
structure Placed (table : CommandTable) (id : BufferId) (stage : Stage) : Prop where
  life : Life id table.history stage
  fits : stage.Fits table.buffers[id]?
  /-- Only numbers that have been given away are used. -/
  given : stage ≠ .unknown → id < table.nextId

/-- A command is at a stage at which others may act. -/
structure At (table : CommandTable) (id : BufferId) (stage : Stage) : Prop
    extends Placed table id stage where
  waits : stage.Waits

variable {table : CommandTable} {id other : BufferId} {stage : Stage}

theorem getElem?_changed (change : CommandBuffer → CommandBuffer) :
    (table.changed id change).buffers[id]? = table.buffers[id]?.map change :=
  Std.TreeMap.getElem?_modify_self

theorem getElem?_changed_of_ne (apart : other ≠ id) (change : CommandBuffer → CommandBuffer) :
    (table.changed other change).buffers[id]? = table.buffers[id]? := by
  unfold changed
  rw [Std.TreeMap.getElem?_modify, if_neg]
  rwa [Std.compare_eq_iff_eq]

theorem getElem?_removed : (table.removed id).buffers[id]? = none := by
  unfold removed
  rw [Std.TreeMap.getElem?_erase_self]

theorem getElem?_removed_of_ne (apart : other ≠ id) :
    (table.removed other).buffers[id]? = table.buffers[id]? := by
  unfold removed
  rw [Std.TreeMap.getElem?_erase, if_neg]
  rwa [Std.compare_eq_iff_eq]

theorem getElem?_added_of_ne (apart : table.nextId ≠ id) (buffer : CommandBuffer) :
    (table.added buffer).buffers[id]? = table.buffers[id]? := by
  unfold added
  rw [Std.TreeMap.getElem?_insert, if_neg]
  rwa [Std.compare_eq_iff_eq]

namespace Placed

variable (placed : table.Placed id stage)

include placed

theorem fits_some {buffer : CommandBuffer} (found : table.buffers[id]? = some buffer) :
    stage.Fits (some buffer) :=
  found ▸ placed.fits

/-- The command goes to its next stage. -/
theorem step
    {later : Stage}
    {event : CommandEvent}
    (step : Stage.Step id stage event later)
    (known : stage ≠ .unknown)
    (fits : later.Fits table.buffers[id]?) :
    (table.noted event).Placed id later where
  life := .step placed.life step
  fits := fits
  given _ := placed.given known

/-- The entry of the command changes, and still fits. -/
theorem refit
    (change : CommandBuffer → CommandBuffer)
    (fits : stage.Fits (table.buffers[id]?.map change)) :
    (table.changed id change).Placed id stage where
  life := placed.life
  fits := by
    rw [getElem?_changed]
    exact fits
  given := placed.given

/-- The command changes and goes to its next stage. -/
theorem move
    {later : Stage}
    {event : CommandEvent}
    (change : CommandBuffer → CommandBuffer)
    (step : Stage.Step id stage event later)
    (known : stage ≠ .unknown)
    (fits : later.Fits (table.buffers[id]?.map change)) :
    ((table.changed id change).noted event).Placed id later where
  life := .step placed.life step
  fits := by
    show later.Fits (table.changed id change).buffers[id]?
    rw [getElem?_changed]
    exact fits
  given _ := placed.given known

theorem removed (fits : stage.Fits none) : (table.removed id).Placed id stage where
  life := placed.life
  fits := by
    rw [getElem?_removed]
    exact fits
  given := placed.given

theorem changed_other (apart : other ≠ id) (change : CommandBuffer → CommandBuffer) :
    (table.changed other change).Placed id stage where
  life := placed.life
  fits := by
    rw [getElem?_changed_of_ne apart]
    exact placed.fits
  given := placed.given

theorem removed_other (apart : other ≠ id) : (table.removed other).Placed id stage where
  life := placed.life
  fits := by
    rw [getElem?_removed_of_ne apart]
    exact placed.fits
  given := placed.given

theorem added_other
    (apart : table.nextId ≠ id)
    (buffer : CommandBuffer) :
    (table.added buffer).Placed id stage where
  life := placed.life
  fits := by
    rw [getElem?_added_of_ne apart]
    exact placed.fits
  given known := Nat.lt_succ_of_lt (placed.given known)

theorem unknown (next : table.nextId ≤ id) : stage = .unknown := by
  by_contra known
  exact absurd (placed.given known) (Nat.not_lt.mpr next)

/-- A command that does not exist is made, with an owner. -/
theorem made
    {buffer : CommandBuffer}
    (here : table.nextId = id)
    (pending : buffer.Pending buffer.session [])
    (owned : 0 < buffer.owners) :
    ((table.added buffer).noted (.made id buffer.session)).Placed id
      (.pending buffer.session []) := by
  obtain rfl := placed.unknown here.le
  subst here
  exact {
    life := .step placed.life .made
    fits := ⟨buffer, Std.TreeMap.getElem?_insert_self, pending, owned⟩
    given := fun _ => Nat.lt_succ_self _ }

theorem noted_other
    {event : CommandEvent}
    (apart : ¬event.Concerns id) :
    (table.noted event).Placed id stage where
  life := .step placed.life (.elsewhere apart)
  fits := placed.fits
  given := placed.given

omit placed

/-- A pending command that takes over the text of another one stays pending. -/
theorem received
    {session? : Option SessionId}
    {parts : List String}
    (placed : table.Placed id (.pending session? parts))
    (apart : other ≠ id)
    (text : String) :
    ((table.changed id (·.appended text)).noted (.absorbed other id text true)).Placed id
      (.pending session? (text :: parts)) := by
  obtain ⟨buffer, found, pending, owned⟩ := placed.fits
  apply placed.move _ (.received apart) nofun
  rw [found]
  exact ⟨_, rfl, pending.appended text, CommandBuffer.owners_appended.symm ▸ owned⟩

/-- A pending command whose text goes to another one is closed. -/
theorem handedOver
    {session? : Option SessionId}
    {parts : List String}
    {buffer : CommandBuffer}
    (placed : table.Placed id (.pending session? parts))
    (found : table.buffers[id]? = some buffer)
    (apart : other ≠ id)
    (change : CommandBuffer → CommandBuffer)
    (taken : Bool) :
    (((table.changed id (·.closed)).changed other change).noted
        (.absorbed id other buffer.text taken)).Placed id (.absorbed other buffer.text taken) := by
  obtain ⟨entry, same, pending, -⟩ := placed.fits
  rw [found] at same
  obtain rfl := Option.some.inj same
  have closed : ((table.changed id (·.closed)).changed other change).buffers[id]? =
      some buffer.closed := by
    rw [getElem?_changed_of_ne apart, getElem?_changed, found]
    rfl
  exact {
    life := .step placed.life (.given apart pending.includes)
    given := fun _ => placed.given nofun
    fits := by
      intro there entry
      obtain rfl := Option.some.inj (closed.symm.trans entry)
      rfl }

end Placed

end CommandTable

end ScriptBridge
