import Mathlib.Data.List.Nodup
import Mathlib.Data.Prod.Lex
import Mathlib.Order.WithBot
import ScriptBridge.Proofs.Interp.Exits
import ScriptBridge.Proofs.Numeral.Decimals

/-!
# The queue of events

The history of a queue says what became of each event that was queued. Scripts may queue events,
cancel them and run them while other events run, but whatever they do comes down to three changes of
the queue, and each of these keeps the account: an event that was queued has been started once, or it
has been cancelled, or it is still there; and what was started came before all that was left.
-/

namespace ScriptBridge

/-! ## Order -/

namespace Event

/-- What decides which event comes first: idle events come before all timers, timers by the time when
they are due, and among equals the one queued first. -/
def key (event : Event) : WithBot Nat ×ₗ Nat :=
  toLex (event.due.elim ⊥ WithBot.some, event.id)

variable {first second : Event}

theorem before_iff : first.before second = true ↔ first.key < second.key := by
  unfold before key
  rw [Prod.Lex.toLex_lt_toLex]
  cases first.due with
  | none =>
      cases second.due with
      | none => simp
      | some due => simp
  | some earlier =>
      cases second.due with
      | none => simp
      | some later => simp

theorem key_le_of_not_before (notBefore : ¬first.before second = true) : second.key ≤ first.key := by
  rw [before_iff] at notBefore
  exact not_lt.mp notBefore

theorem id_eq_of_key_eq (same : first.key = second.key) : first.id = second.id :=
  congrArg (fun key => (ofLex key).2) same

end Event

namespace EventQueue

variable {queue after : EventQueue} {event : Event} {id : Nat}

theorem mem_earliest (best : Event) (events : List Event) :
    earliest best events ∈ best :: events := by
  induction events generalizing best with
  | nil => exact List.mem_cons_self
  | cons event rest inductionHypothesis =>
      rw [earliest]
      rcases List.mem_cons.mp (inductionHypothesis _) with same | member
      · rw [same]
        split <;> simp
      · exact List.mem_cons_of_mem _ (List.mem_cons_of_mem _ member)

theorem earliest_key_le (best : Event) (events : List Event) :
    ∀ other ∈ best :: events, (earliest best events).key ≤ other.key := by
  induction events generalizing best with
  | nil =>
      intro other member
      rw [List.mem_singleton.mp member]
      exact le_refl _
  | cons event rest inductionHypothesis =>
      intro other member
      rw [earliest]
      by_cases sooner : event.before best = true
      · rw [if_pos sooner]
        rcases List.mem_cons.mp member with rfl | member
        · have first := inductionHypothesis event event List.mem_cons_self
          exact first.trans (Event.before_iff.mp sooner).le
        · exact inductionHypothesis event other member
      · rw [if_neg sooner]
        have first := inductionHypothesis best best List.mem_cons_self
        rcases List.mem_cons.mp member with rfl | member
        · exact first
        · rcases List.mem_cons.mp member with rfl | member
          · exact first.trans (Event.key_le_of_not_before sooner)
          · exact inductionHypothesis best other (List.mem_cons_of_mem _ member)

/-- The next event is one of those that are queued, and none of them comes before it. -/
theorem next?_spec (next : queue.next? = some event) :
    event ∈ queue.events ∧ ∀ other ∈ queue.events, event.key ≤ other.key := by
  unfold next? at next
  split at next
  · cases next
  · rename_i first rest events
    obtain rfl := Option.some.inj next
    rw [events]
    exact ⟨mem_earliest first rest, earliest_key_le first rest⟩

theorem events_eq_nil_of_next? (nothing : queue.next? = none) : queue.events = [] := by
  unfold next? at nothing
  split at nothing
  · assumption
  · cases nothing

/-- An event is queued and comes before all others that are. -/
def IsFirst (queue : EventQueue) (event : Event) : Prop :=
  event ∈ queue.events ∧ ∀ other ∈ queue.events, other ≠ event → event.key < other.key

theorem IsFirst.next? (first : queue.IsFirst event) : queue.next? = some event := by
  obtain ⟨member, before⟩ := first
  cases next : queue.next? with
  | none =>
      rw [events_eq_nil_of_next? next] at member
      cases member
  | some found =>
      obtain ⟨there, least⟩ := next?_spec next
      by_cases same : found = event
      · rw [same]
      · exact absurd (least event member) (before found there same).not_ge

end EventQueue

/-! ## Accounts -/

namespace QueueEvent

def isStart (id : Nat) : QueueEvent → Bool
  | .started event _ => event.id == id
  | _ => false

def isCancel (id : Nat) : QueueEvent → Bool
  | .cancelled other => other == id
  | _ => false

end QueueEvent

namespace EventQueue

def ids (queue : EventQueue) : List Nat :=
  queue.events.map (·.id)

/-- How often an event has been started. -/
def starts (queue : EventQueue) (id : Nat) : Nat :=
  queue.history.countP (·.isStart id)

def cancellations (queue : EventQueue) (id : Nat) : Nat :=
  queue.history.countP (·.isCancel id)

/-- A queue whose history accounts for all events. -/
structure Accounted (queue : EventQueue) : Prop where
  distinct : queue.ids.Nodup
  /-- What became of each number that has been given to an event, and none of the others. -/
  fates : ∀ id, queue.starts id + queue.cancellations id + queue.ids.count id =
    if id < queue.nextId then 1 else 0
  /-- Events are those that have been queued. -/
  queued : ∀ event ∈ queue.events, .queued event ∈ queue.history
  started : ∀ {event left}, .started event left ∈ queue.history →
    .queued event ∈ queue.history ∧ ∀ other ∈ left, event.key < other.key

theorem accounted_empty : Accounted {} where
  distinct := List.nodup_nil
  fates _ := rfl
  queued := nofun
  started := nofun

variable {queue after : EventQueue} {event : Event} {id : Nat}

theorem mem_without (other : Event) :
    other ∈ queue.without id ↔ other ∈ queue.events ∧ other.id ≠ id := by
  unfold without
  rw [List.mem_filter, bne_iff_ne]

theorem ids_without : (queue.without id).map (·.id) = queue.ids.filter (· != id) := by
  unfold without ids
  rw [List.filter_map]
  rfl

namespace Accounted

variable (accounted : queue.Accounted)

include accounted

theorem below (member : event ∈ queue.events) : event.id < queue.nextId := by
  have fates := accounted.fates event.id
  have there : 0 < queue.ids.count event.id :=
    List.count_pos_iff.mpr (List.mem_map_of_mem member)
  split at fates
  · assumption
  · omega

theorem scheduled (due : Option Nat) (script : String) :
    (queue.schedule due script).2.Accounted := by
  have ids : (queue.schedule due script).2.ids = queue.ids ++ [queue.nextId] := List.map_append
  constructor
  · rw [ids, List.nodup_append]
    refine ⟨accounted.distinct, List.nodup_singleton _, ?_⟩
    intro old there new isNew
    obtain rfl := List.mem_singleton.mp isNew
    obtain ⟨event, queued, rfl⟩ := List.mem_map.mp there
    exact Nat.ne_of_lt (accounted.below queued)
  · intro id
    have fates := accounted.fates id
    have starts : (queue.schedule due script).2.starts id = queue.starts id :=
      List.countP_cons_of_neg nofun
    have cancellations :
        (queue.schedule due script).2.cancellations id = queue.cancellations id :=
      List.countP_cons_of_neg nofun
    have next : (queue.schedule due script).2.nextId = queue.nextId + 1 := rfl
    rw [ids, starts, cancellations, next, List.count_append, List.count_singleton]
    by_cases new : queue.nextId = id
    · subst new
      rw [if_neg (Nat.lt_irrefl _)] at fates
      rw [beq_self_eq_true, if_pos rfl, if_pos (Nat.lt_succ_self _)]
      omega
    · rw [beq_false_of_ne new, if_neg Bool.false_ne_true]
      split at fates
      · rw [if_pos (by omega)]
        omega
      · rw [if_neg (by omega)]
        omega
  · intro event member
    rcases List.mem_append.mp member with old | new
    · exact List.mem_cons_of_mem _ (accounted.queued event old)
    · rw [List.mem_singleton.mp new]
      exact List.mem_cons_self
  · intro event left noted
    rcases List.mem_cons.mp noted with same | noted
    · cases same
    · obtain ⟨queued, first⟩ := accounted.started noted
      exact ⟨List.mem_cons_of_mem _ queued, first⟩

/-- An event leaves the queue with a note of its fate. -/
theorem taken
    {note : QueueEvent}
    (member : id ∈ queue.ids)
    (fate : ∀ other, (if note.isStart other then 1 else 0) + (if note.isCancel other then 1 else 0) =
      if id = other then 1 else 0)
    (started : ∀ {event left}, note = .started event left →
      .queued event ∈ queue.history ∧ ∀ other ∈ left, event.key < other.key) :
    Accounted { queue with events := queue.without id, history := note :: queue.history } := by
  let after : EventQueue :=
    { queue with events := queue.without id, history := note :: queue.history }
  have ids : after.ids = queue.ids.filter (· != id) := ids_without
  have starts (other : Nat) : after.starts other = queue.starts other + _ := List.countP_cons
  have cancellations (other : Nat) :
      after.cancellations other = queue.cancellations other + _ := List.countP_cons
  have sameNext : after.nextId = queue.nextId := rfl
  constructor
  · exact ids ▸ accounted.distinct.filter _
  · intro other
    have fates := accounted.fates other
    have noted := fate other
    show after.starts other + after.cancellations other + after.ids.count other =
      if other < after.nextId then 1 else 0
    rw [starts, cancellations, ids, sameNext, ← fates]
    by_cases here : id = other
    · subst here
      have once := List.count_eq_one_of_mem accounted.distinct member
      have gone : (queue.ids.filter (· != id)).count id = 0 := by
        rw [List.count_eq_zero]
        simp
      rw [if_pos rfl] at noted
      omega
    · have stays : (queue.ids.filter (· != id)).count other = queue.ids.count other :=
        List.count_filter (by simpa using Ne.symm here)
      rw [if_neg here] at noted
      omega
  · intro event member
    exact List.mem_cons_of_mem _ (accounted.queued event ((mem_without event).mp member).1)
  · intro event left noted
    rcases List.mem_cons.mp noted with same | noted
    · obtain ⟨queued, first⟩ := started same.symm
      exact ⟨List.mem_cons_of_mem _ queued, first⟩
    · obtain ⟨queued, first⟩ := accounted.started noted
      exact ⟨List.mem_cons_of_mem _ queued, first⟩

theorem cancelled (id : Nat) : (queue.cancel id).Accounted := by
  unfold cancel
  split
  · rename_i there
    have member : id ∈ queue.ids := by simpa [ids] using there
    apply accounted.taken member
    · intro other
      simp [QueueEvent.isStart, QueueEvent.isCancel]
    · exact nofun
  · exact accounted

/-- What is started comes before all that is left. -/
theorem began (next : queue.next? = some event) : (queue.start event).Accounted := by
  obtain ⟨member, first⟩ := next?_spec next
  apply accounted.taken (List.mem_map_of_mem member)
  · intro other
    simp [QueueEvent.isStart, QueueEvent.isCancel]
  · intro started left same
    cases same
    refine ⟨accounted.queued event member, ?_⟩
    intro other stays
    obtain ⟨there, differs⟩ := (mem_without other).mp stays
    apply lt_of_le_of_ne (first other there)
    intro sameKey
    exact differs (Event.id_eq_of_key_eq sameKey).symm

/-- In a queue that is not empty some event comes first. -/
theorem exists_isFirst (queued : queue.events ≠ []) : ∃ event, queue.IsFirst event := by
  cases next : queue.next? with
  | none => exact absurd (events_eq_nil_of_next? next) queued
  | some event =>
      obtain ⟨member, least⟩ := next?_spec next
      refine ⟨event, member, ?_⟩
      intro other there differs
      apply lt_of_le_of_ne (least other there)
      intro sameKey
      have sameId := Event.id_eq_of_key_eq sameKey
      exact differs (List.inj_on_of_nodup_map accounted.distinct there member sameId.symm)

end Accounted

/-- Whatever commands do to a queue, its history accounts for all events. -/
theorem Change.accounted (change : queue.Change after) (accounted : queue.Accounted) :
    after.Accounted := by
  cases change with
  | scheduled due script => exact accounted.scheduled due script
  | cancelled id => exact accounted.cancelled id
  | started next => exact accounted.began next

/-- An event has been started once, or it has been cancelled without being started, or it is still
queued. -/
def OneFate (queue : EventQueue) (id : Nat) : Prop :=
  (queue.starts id = 1 ∧ queue.cancellations id = 0 ∧ id ∉ queue.ids) ∨
    (queue.starts id = 0 ∧ queue.cancellations id = 1 ∧ id ∉ queue.ids) ∨
    (queue.starts id = 0 ∧ queue.cancellations id = 0 ∧ id ∈ queue.ids)

theorem Accounted.oneFate (accounted : queue.Accounted) (given : id < queue.nextId) :
    queue.OneFate id := by
  have fates := accounted.fates id
  rw [if_pos given] at fates
  by_cases member : id ∈ queue.ids
  · have there := List.count_pos_iff.mpr member
    have notStarted : queue.starts id = 0 := by omega
    have notCancelled : queue.cancellations id = 0 := by omega
    exact .inr (.inr ⟨notStarted, notCancelled, member⟩)
  · rw [List.count_eq_zero.mpr member] at fates
    by_cases started : queue.starts id = 1
    · have notCancelled : queue.cancellations id = 0 := by omega
      exact .inl ⟨started, notCancelled, member⟩
    · have notStarted : queue.starts id = 0 := by omega
      have cancelled : queue.cancellations id = 1 := by omega
      exact .inr (.inl ⟨notStarted, cancelled, member⟩)

end EventQueue

variable {Key Host : Type}

/-! ## Interpreters -/

/-- What has happened to events is not forgotten, and no number is given twice. -/
structure Interp.Remembers (before after : Interp Key) : Prop where
  numbers : before.queue.nextId ≤ after.queue.nextId
  history : before.queue.history <:+ after.queue.history

namespace Interp.Remembers

variable {before middle after : Interp Key}

theorem of_same (same : after.queue = before.queue) : before.Remembers after where
  numbers := same ▸ Nat.le_refl _
  history := same ▸ List.suffix_rfl

theorem refl (interp : Interp Key) : interp.Remembers interp :=
  of_same rfl

theorem trans (first : before.Remembers middle) (second : middle.Remembers after) :
    before.Remembers after where
  numbers := first.numbers.trans second.numbers
  history := first.history.trans second.history

theorem of_changes (changes : before.queue.Changes after.queue) : before.Remembers after := by
  suffices both : before.queue.nextId ≤ after.queue.nextId ∧
      before.queue.history <:+ after.queue.history from ⟨both.1, both.2⟩
  generalize after.queue = queue at changes ⊢
  induction changes with
  | refl => exact ⟨Nat.le_refl _, List.suffix_rfl⟩
  | tail _ change inductionHypothesis =>
      obtain ⟨numbers, history⟩ := inductionHypothesis
      cases change with
      | scheduled due script =>
          exact ⟨numbers.trans (Nat.le_succ _), history.trans (List.suffix_cons _ _)⟩
      | cancelled id =>
          unfold EventQueue.cancel
          split
          · exact ⟨numbers, history.trans (List.suffix_cons _ _)⟩
          · exact ⟨numbers, history⟩
      | started next => exact ⟨numbers, history.trans (List.suffix_cons _ _)⟩

end Interp.Remembers

/-! ## Commands -/

open Machine

/-- A script that is queued gets the next number, and the answer names it. -/
theorem run_scheduleScript
    (due : Option Nat)
    (script : String)
    (machine : Machine Key Host) :
    (Commands.scheduleScript due script).run.run machine =
      (.ok ("after#" ++ toString machine.interp.queue.nextId),
        machine.withQueue (machine.interp.queue.schedule due script).2) :=
  rfl

/-- The queue with one more event behind the others. -/
def EventQueue.behind (queue : EventQueue) (event : Event) : EventQueue where
  events := queue.events ++ [event]
  nextId := queue.nextId + 1
  history := .queued event :: queue.history

/-- The rules of `after`: what its arguments make of the clock and the queue, and what it answers
with. -/
inductive AfterRule (clock : Nat) (queue : EventQueue) :
    List String → String → Nat → EventQueue → Prop
  /-- What stands behind `idle` is queued, and the answer names it. -/
  | idle {part : String} {parts : List String} :
      AfterRule clock queue ("idle" :: part :: parts) ("after#" ++ toString queue.nextId) clock
        (queue.behind ⟨queue.nextId, none, Commands.concatenation (part :: parts)⟩)
  /-- What stands behind a time is queued to be run then, and the answer names it. -/
  | timer {delay part : String} {parts : List String} {milliseconds : Int64} :
      Numeral.readWord? delay = some milliseconds →
        AfterRule clock queue (delay :: part :: parts) ("after#" ++ toString queue.nextId) clock
          (queue.behind ⟨queue.nextId, some (clock + milliseconds.toInt.toNat),
            Commands.concatenation (part :: parts)⟩)
  /-- A time alone passes. -/
  | pause {delay : String} {milliseconds : Int64} :
      Numeral.readWord? delay = some milliseconds →
        AfterRule clock queue [delay] "" (clock + milliseconds.toInt.toNat) queue
  /-- A queued event is cancelled by its name. -/
  | cancelled {name : String} {id : Nat} :
      Commands.eventId? name = some id → id ∈ queue.ids →
        AfterRule clock queue ["cancel", name] "" clock
          { queue with
            events := queue.events.filter (·.id != id)
            history := .cancelled id :: queue.history }
  /-- Other names cancel nothing. -/
  | spared {name : String} :
      (∀ id ∈ queue.ids, Commands.eventId? name ≠ some id) →
        AfterRule clock queue ["cancel", name] "" clock queue
  | info {words : List String} :
      AfterRule clock queue ("info" :: words)
        (ListText.format (queue.events.map fun event => "after#" ++ toString event.id)) clock queue

theorem EventQueue.cancel_of_mem
    {queue : EventQueue}
    {id : Nat}
    (there : id ∈ queue.ids) :
    queue.cancel id =
      { queue with
        events := queue.events.filter (·.id != id)
        history := .cancelled id :: queue.history } := by
  unfold cancel
  rw [if_pos (by simpa [ids] using there)]
  rfl

theorem EventQueue.cancel_of_notMem
    {queue : EventQueue}
    {id : Nat}
    (missing : id ∉ queue.ids) :
    queue.cancel id = queue := by
  unfold cancel
  rw [if_neg (by simpa [ids] using missing)]

section After

variable {arguments : List String} {answer : String} {machine after : Machine Key Host}

/-- A time is none of the words that `after` knows. -/
theorem after_of_readWord?
    {delay : String}
    {milliseconds : Int64}
    (isTime : Numeral.readWord? delay = some milliseconds)
    (parts : List String) :
    (Commands.after (delay :: parts) : Action Key Host String) =
      Commands.afterDelay delay parts := by
  have noWord : ∀ word ∈ ["idle", "cancel", "info"], delay ≠ word := by
    have unread : ∀ word ∈ ["idle", "cancel", "info"], Numeral.readWord? word = none := by decide
    rintro word listed rfl
    rw [unread delay listed] at isTime
    cases isTime
  unfold Commands.after
  split
  all_goals rename_i same
  · cases same
  · exact absurd (List.cons.inj same).1 (noWord _ (by simp))
  · exact absurd (List.cons.inj same).1 (noWord _ (by simp))
  · exact absurd (List.cons.inj same).1 (noWord _ (by simp))
  · obtain ⟨rfl, rfl⟩ := List.cons.inj same
    rfl

/-- Cancelling takes an event out of the queue if the name is that of a number. -/
theorem run_after_cancel (name : String) (machine : Machine Key Host) :
    (Commands.after ["cancel", name]).run.run machine =
      (.ok "", match Commands.eventId? name with
        | some id => machine.withQueue (machine.interp.queue.cancel id)
        | none => machine) := by
  have cancels : (Commands.after ["cancel", name] : Action Key Host String) =
      match Commands.eventId? name with
      | some id => do
          Action.modifyInterp fun interp => { interp with queue := interp.queue.cancel id }
          return ""
      | none => return "" :=
    rfl
  rw [cancels]
  cases Commands.eventId? name <;> rfl

theorem afterRule_of_run
    (ran : (Commands.after arguments).run.run machine = (.ok answer, after)) :
    ∃ time queue, AfterRule machine.clock machine.interp.queue arguments answer time queue ∧
      after = { machine.withQueue queue with clock := time } := by
  unfold Commands.after at ran
  split at ran
  · cases ran
  · rw [run_scheduleScript] at ran
    cases ran
    exact ⟨_, _, .idle, rfl⟩
  · rename_i name
    have ended := ran.symm.trans (run_after_cancel name machine)
    cases known : Commands.eventId? name with
    | none =>
        rw [known] at ended
        cases ended
        exact ⟨_, _, .spared (fun id _ same => nomatch known.symm.trans same), rfl⟩
    | some id =>
        rw [known] at ended
        cases ended
        by_cases there : id ∈ machine.interp.queue.ids
        · refine ⟨_, _, .cancelled known there, ?_⟩
          rw [← EventQueue.cancel_of_mem there]
          rfl
        · refine ⟨_, machine.interp.queue, .spared ?_, ?_⟩
          · rintro other queued same
            cases known.symm.trans same
            exact there queued
          · exact congrArg machine.withQueue (EventQueue.cancel_of_notMem there)
  · cases ran
    exact ⟨_, _, .info, rfl⟩
  · rename_i delay parts _ _ _
    unfold Commands.afterDelay Action.intOf at ran
    cases isTime : Numeral.readWord? delay with
    | none =>
        rw [isTime] at ran
        cases ran
    | some milliseconds =>
        rw [isTime] at ran
        cases parts with
        | nil =>
            cases ran
            exact ⟨_, _, .pause isTime, rfl⟩
        | cons part parts =>
            cases ran
            exact ⟨_, _, .timer isTime, rfl⟩

theorem run_after_of_rule
    {time : Nat}
    {queue : EventQueue}
    (rule : AfterRule machine.clock machine.interp.queue arguments answer time queue) :
    (Commands.after arguments).run.run machine =
      (.ok answer, { machine.withQueue queue with clock := time }) := by
  cases rule with
  | idle => rfl
  | timer isTime | pause isTime =>
      rw [after_of_readWord? isTime]
      unfold Commands.afterDelay Action.intOf
      rw [isTime]
      rfl
  | cancelled known there =>
      rw [run_after_cancel, known, ← EventQueue.cancel_of_mem there]
      rfl
  | @spared name unknown =>
      rw [run_after_cancel]
      cases known : Commands.eventId? name with
      | none => rfl
      | some id =>
          have missing : id ∉ machine.interp.queue.ids := fun queued => unknown id queued known
          dsimp only
          rw [EventQueue.cancel_of_notMem missing]
          rfl
  | info => rfl

theorem run_after_iff :
    (Commands.after arguments).run.run machine = (.ok answer, after) ↔
      ∃ time queue, AfterRule machine.clock machine.interp.queue arguments answer time queue ∧
        after = { machine.withQueue queue with clock := time } := by
  constructor
  · exact afterRule_of_run
  · rintro ⟨time, queue, rule, rfl⟩
    exact run_after_of_rule rule

/-- An `after` that fails leaves everything as it was. -/
theorem eq_of_run_after_error
    {fault : Interruption}
    (ran : (Commands.after arguments).run.run machine = (.error fault, after)) :
    after = machine := by
  unfold Commands.after at ran
  split at ran
  · cases ran
    rfl
  · cases ran
  · rename_i name
    cases ran.symm.trans (run_after_cancel name machine)
  · cases ran
  · rename_i delay parts _ _ _
    unfold Commands.afterDelay Action.intOf at ran
    cases isTime : Numeral.readWord? delay with
    | none =>
        rw [isTime] at ran
        cases ran
        rfl
    | some milliseconds =>
        rw [isTime] at ran
        cases parts <;> cases ran

end After

/-- The name of an event stands for its number. -/
theorem eventId?_name {number : Nat} (small : number ≤ Commands.largestEventId) :
    Commands.eventId? ("after#" ++ toString number) = some number := by
  have digits : ∀ c ∈ (toString number).toList, c.isDigit = true :=
    fun _ member => Numeral.isDigit_of_mem_toString member
  have nonempty : (toString number).toList.isEmpty = false := by
    rw [Numeral.toList_toString, List.isEmpty_eq_false_iff]
    exact Nat.toDigits_ne_nil
  have allDigits : (toString number).toList.all (Numeral.isDigitOf 10) = true :=
    List.all_eq_true.mpr fun c member => Numeral.isDigitOf_of_isDigit (digits c member)
  unfold Commands.eventId?
  rw [String.toList_append, (Index.dropStart?_eq_some_iff _ _ _).mpr rfl]
  dsimp only
  split
  · rename_i rest spelled
    exact absurd (digits '+' (spelled ▸ List.mem_cons_self)) (by decide)
  · rw [nonempty, allDigits, Numeral.natOfDigits_toString, decide_eq_true small]
    rfl

/-- While the program is not to end, a round takes the next event, where it is to be run by now, and
evaluates its script. -/
theorem run_runEvents_of_next
    {machine : Machine Key Host}
    {event : Event}
    {onlyDue : Bool}
    (running : machine.interp.exitCode = none)
    (next : machine.interp.queue.next? = some event)
    (due : onlyDue = true → event.isDue machine.clock = true)
    (eval : Evaluator Key Host)
    (rounds : Nat) :
    (Commands.runEvents eval onlyDue (rounds + 1)).run.run machine =
      match (eval.script event.script).run.run
        ((machine.withQueue (machine.interp.queue.start event)).reaching event) with
      | (.error .unfinished, after) => (.error .unfinished, after)
      | (.error (.exited code), after) =>
          (Commands.runEvents eval onlyDue rounds).run.run (after.ended code)
      | (_, after) => (Commands.runEvents eval onlyDue rounds).run.run after := by
  have dequeued : (Commands.dequeue event).run.run machine =
      (.ok (), machine.withQueue (machine.interp.queue.start event)) := rfl
  have goesOn : ¬(onlyDue && !event.isDue machine.clock) = true := by
    cases onlyDue with
    | false => exact Bool.false_ne_true
    | true => simp [due rfl]
  rw [Commands.runEvents, Action.run_get_bind, running, next]
  dsimp only
  rw [if_neg (by simp), if_neg goesOn, Conduct.run_bind, dequeued]
  dsimp only
  rw [Conduct.run_bind, run_runEvent]
  rcases (eval.script event.script).run.run _ with ⟨outcome, after⟩
  cases outcome with
  | ok value => rfl
  | error fault => cases fault <;> rfl

/-- A loop that waits for what is not due ends where nothing is queued any more or the program is to
end, unless a script in its midst does not end. -/
theorem runEvents_drains
    (eval : Evaluator Key Host)
    (rounds : Nat)
    (machine : Machine Key Host) :
    let ran := (Commands.runEvents eval false rounds).run.run machine
    ran.1 = .error .unfinished ∨
      ran.1 = .ok () ∧ (ran.2.interp.queue.events = [] ∨ ran.2.interp.exitCode.isSome = true) := by
  induction rounds generalizing machine with
  | zero => exact .inl rfl
  | succ rounds inductionHypothesis =>
      by_cases ended : machine.interp.exitCode.isSome = true
      · rw [Commands.runEvents, Action.run_get_bind, if_pos ended]
        exact .inr ⟨rfl, .inr ended⟩
      · have running : machine.interp.exitCode = none := Option.not_isSome_iff_eq_none.mp ended
        cases next : machine.interp.queue.next? with
        | none =>
            rw [Commands.runEvents, Action.run_get_bind, if_neg ended, next]
            exact .inr ⟨rfl, .inl (EventQueue.events_eq_nil_of_next? next)⟩
        | some event =>
            have due : false = true → event.isDue machine.clock = true :=
              fun isTrue => absurd isTrue Bool.false_ne_true
            rw [run_runEvents_of_next running next due]
            rcases (eval.script event.script).run.run _ with ⟨outcome, after⟩
            cases outcome with
            | ok value => exact inductionHypothesis after
            | error fault =>
                cases fault with
                | unfinished => exact .inl rfl
                | exited code => exact inductionHypothesis (after.ended code)
                | error | returned | broke | continued => exact inductionHypothesis after

end ScriptBridge
