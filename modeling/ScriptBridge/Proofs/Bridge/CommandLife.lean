import Mathlib.Data.List.Infix
import ScriptBridge.Proofs.Bridge.Programs

/-!
# The lives of commands

A command is pending until it is asked for, left by its last owner, or merged into another one.
From there on its way is laid down. Each event of a history takes the command that it is about from
one stage to the next, so the stage that is reached tells what the history contains.
-/

namespace ScriptBridge

/-- The text contains a part. -/
def Text.Includes (text part : String) : Prop :=
  part.toList <:+: text.toList

/-- The event is about this command, perhaps among others. -/
def CommandEvent.Concerns (event : CommandEvent) (id : BufferId) : Prop :=
  match event with
  | .made command _ => command = id
  | .absorbed command receiver _ _ => command = id ∨ receiver = id
  | event => event.subject? = some id

theorem CommandEvent.not_concerns_of_subject?
    {event : CommandEvent}
    {id other : BufferId}
    (about : event.subject? = some other)
    (apart : other ≠ id) :
    ¬event.Concerns id := by
  intro concerns
  cases event
  case made | absorbed => cases about
  all_goals exact apart (Option.some.inj (about.symm.trans concerns))

/-- The event is a submission of this command. -/
def CommandEvent.submits (id : BufferId) : CommandEvent → Bool
  | .submitted command _ _ => command = id
  | _ => false

theorem CommandEvent.concerns_of_submits
    {id : BufferId}
    {event : CommandEvent}
    (submits : event.submits id = true) :
    event.Concerns id := by
  cases event
  case submitted => exact congrArg some (of_decide_eq_true submits)
  all_goals cases submits

/-- The text that is looked up after a submission is the one that was submitted, and the answer to a
read is the result that was kept, or empty if the evaluation has failed. -/
def CommandEvent.Agrees (id : BufferId) (later earlier : CommandEvent) : Prop :=
  match later, earlier with
  | .looked command text, .submitted other _ sent => command = id → other = id → text = sent
  | .reread command answer, .answered other result =>
      command = id → other = id → answer = .ok (result.getD "")
  | _, _ => True

/-! ## Stages -/

/-- How far a command has come. -/
inductive Stage where
  | unknown
  /-- It can be changed. It has taken over the texts of other commands. -/
  | pending (session? : Option SessionId) (parts : List String)
  /-- Its last owner is gone. -/
  | leaving (session? : Option SessionId) (parts : List String)
  /-- It has to be submitted. -/
  | due (session? : Option SessionId) (parts : List String)
  /-- It has the text with which it is submitted. -/
  | sealed (session? : Option SessionId) (text : String)
  /-- A session evaluates it. -/
  | running (session : SessionId) (text : String)
  /-- Its evaluation has ended with a result, or failed. -/
  | settled (session : SessionId) (text : String) (result : Option String)
  /-- Its text has gone to another command, which has taken it or not. -/
  | absorbed (receiver : BufferId) (text : String) (taken : Bool)
  /-- There was no session for it. -/
  | stranded
  /-- It was given up while failures of its session were alive. -/
  | suppressed (failures : Nat)

namespace Stage

/-- The submission of a command. -/
def submission? : Stage → Option (SessionId × String)
  | .running session text | .settled session text _ => some (session, text)
  | _ => none

/-- How the evaluation of a command has ended. -/
def result? : Stage → Option (Option String)
  | .settled _ _ result => some result
  | _ => none

/-- The text of a command that cannot change any more. -/
def text? : Stage → Option String
  | .sealed _ text | .running _ text | .settled _ text _ => some text
  | _ => none

/-- Where the command may go if it has been made for a session, or for the current one. -/
def BelongsTo (bound : Option SessionId) : Stage → Prop
  | .unknown => False
  | .pending session? _ | .leaving session? _ | .due session? _ | .sealed session? _ =>
      session? = bound
  | .running session _ | .settled session _ _ => ∀ id, bound = some id → session = id
  | .absorbed _ _ _ | .suppressed _ => True
  | .stranded => bound = none

/-- The command may not have begun, or it is pending and has owners. -/
def Fresh : Stage → Prop
  | .unknown | .pending _ _ => True
  | _ => False

/-- The command has been closed for submission, or its text has been taken over. -/
def Spent : Stage → Prop
  | .sealed _ _ | .running _ _ | .settled _ _ _ | .absorbed _ _ _ | .stranded => True
  | _ => False

/-- The command has been closed, or is about to be. -/
def Settling (stage : Stage) : Prop :=
  stage.Spent ∨ ∃ session? parts, stage = .due session? parts

/-- The command is on its way from one owner's request to the answer. -/
def Busy : Stage → Prop
  | .leaving _ _ | .due _ _ | .sealed _ _ | .running _ _ => True
  | _ => False

/-- An event that changes nothing for a command that is spent. -/
def Repeats (id : BufferId) : CommandEvent → Prop
  | .asked command | .left command | .dropped command true _ | .evaluated command => command = id
  | .released command invoked failures => command = id ∧ (invoked = true ∨ failures = 0)
  | .absorbed command receiver _ false => command ≠ id ∧ receiver = id
  | _ => False

/-- How an event takes a command from one stage to the next. -/
inductive Step (id : BufferId) : Stage → CommandEvent → Stage → Prop
  | elsewhere {stage : Stage} {event : CommandEvent} :
      ¬event.Concerns id → Step id stage event stage
  | made {session? : Option SessionId} :
      Step id .unknown (.made id session?) (.pending session? [])
  | looked {stage : Stage} {text : String} :
      (∀ fixed, stage.text? = some fixed → text = fixed) → Step id stage (.looked id text) stage
  | received {session? : Option SessionId} {parts : List String} {donor : BufferId}
      {text : String} :
      donor ≠ id →
        Step id (.pending session? parts) (.absorbed donor id text true)
          (.pending session? (text :: parts))
  | given {session? : Option SessionId} {parts : List String} {receiver : BufferId}
      {text : String} {taken : Bool} :
      receiver ≠ id → (∀ part ∈ parts, Text.Includes text part) →
        Step id (.pending session? parts) (.absorbed id receiver text taken)
          (.absorbed receiver text taken)
  | asked {session? : Option SessionId} {parts : List String} :
      Step id (.pending session? parts) (.asked id) (.due session? parts)
  | left {session? : Option SessionId} {parts : List String} :
      Step id (.pending session? parts) (.left id) (.leaving session? parts)
  | cleared {session? : Option SessionId} {parts : List String} :
      Step id (.leaving session? parts) (.dropped id false 0) (.due session? parts)
  | suppressed {session? : Option SessionId} {parts : List String} {failures : Nat} :
      0 < failures → Step id (.leaving session? parts) (.dropped id false failures)
        (.suppressed failures)
  | sealed {session? : Option SessionId} {parts : List String} {text : String} :
      (∀ part ∈ parts, Text.Includes text part) →
        Step id (.due session? parts) (.sealed id text) (.sealed session? text)
  | unplaced {parts : List String} : Step id (.leaving none parts) (.stranded id) .stranded
  | stranded {text : String} : Step id (.sealed none text) (.stranded id) .stranded
  | submitted {session? : Option SessionId} {text : String} {session : SessionId} :
      (∀ bound, session? = some bound → session = bound) →
        Step id (.sealed session? text) (.submitted id session text) (.running session text)
  | answered {session : SessionId} {text : String} {result : Option String} :
      Step id (.running session text) (.answered id result) (.settled session text result)
  | reread {stage : Stage} {answer : Except Failure String} :
      stage.Spent → (∀ result, stage.result? = some result → answer = .ok (result.getD "")) →
        Step id stage (.reread id answer) stage
  | released {failures : Nat} :
      Step id (.suppressed failures) (.released id false failures) (.suppressed failures)
  | again {stage : Stage} {event : CommandEvent} :
      stage.Spent → Repeats id event → Step id stage event stage

/-- An event that changes nothing for a command at this stage. -/
def Admits (id : BufferId) (event : CommandEvent) (stage : Stage) : Prop :=
  Step id stage event stage

theorem not_fresh_of_spent {stage : Stage} (spent : stage.Spent) : ¬stage.Fresh := by
  cases stage
  all_goals first
    | exact id
    | exact spent.elim

/-- The command holds a text that it has taken over, and hands it on. -/
def Holds (part : String) : Stage → Prop
  | .unknown => False
  | .pending _ parts | .leaving _ parts | .due _ parts => part ∈ parts
  | .sealed _ text | .running _ text | .settled _ text _ | .absorbed _ text _ =>
      Text.Includes text part
  | .stranded | .suppressed _ => True

namespace Step

variable {id : BufferId} {before after : Stage} {event : CommandEvent}
  (step : Step id before event after)

include step

theorem stays_spent (held : before.Spent) : after.Spent := by
  cases step
  all_goals first
    | exact held
    | exact held.elim

theorem stays_settling (held : before.Settling) : after.Settling := by
  rcases held with spent | ⟨session?, parts, rfl⟩
  · exact .inl (step.stays_spent spent)
  · cases step
    case sealed => exact .inl trivial
    case elsewhere | looked => exact .inr ⟨session?, parts, rfl⟩
    case reread spent _ => exact spent.elim
    case again spent _ => exact spent.elim

theorem stays_notFresh (held : ¬before.Fresh) : ¬after.Fresh := by
  cases step
  all_goals first
    | exact held
    | exact absurd trivial held

theorem stays_submission
    {sent : SessionId × String}
    (held : before.submission? = some sent) :
    after.submission? = some sent := by
  cases step
  all_goals first
    | exact held
    | cases held

theorem stays_suppressed
    {failures : Nat}
    (held : before = .suppressed failures) :
    after = .suppressed failures := by
  cases step
  all_goals first
    | exact held
    | cases held

theorem stays_absorbed
    {receiver : BufferId}
    {text : String}
    {taken : Bool}
    (held : before = .absorbed receiver text taken) :
    after = .absorbed receiver text taken := by
  cases step
  all_goals first
    | exact held
    | cases held

theorem stays_stranded (held : before = .stranded) : after = .stranded := by
  cases step
  all_goals first
    | exact held
    | cases held

theorem stays_belonging
    {bound : Option SessionId}
    (held : before.BelongsTo bound) :
    after.BelongsTo bound := by
  cases step
  case submitted reaches =>
    intro id same
    exact reaches id (held.trans same)
  case unplaced => exact held.symm
  case stranded => exact held.symm
  all_goals first
    | exact held
    | exact held.elim
    | trivial

theorem count_submissions :
    (if before.submission?.isSome then 1 else 0) + (if event.submits id then 1 else 0) =
      if after.submission?.isSome then 1 else 0 := by
  cases step with
  | elsewhere apart =>
      rw [if_neg fun submits => apart (CommandEvent.concerns_of_submits submits), Nat.add_zero]
  | submitted _ =>
      rw [if_pos (show CommandEvent.submits id (.submitted id _ _) = true from decide_eq_true rfl)]
      rfl
  | again _ repeats =>
      cases event
      case submitted => exact repeats.elim
      all_goals rfl
  | _ => rfl

theorem stays_holds
    {part : String}
    (held : before.Holds part) :
    after.Holds part := by
  cases step
  case received => exact List.mem_cons_of_mem _ held
  case given contained => exact contained part held
  case sealed contained => exact contained part held
  all_goals first
    | exact held
    | exact held.elim
    | trivial

end Step

end Stage

/-! ## Lives -/

/-- By its history, the latest event first, a command has come to a stage. -/
inductive Life (id : BufferId) : List CommandEvent → Stage → Prop
  | start : Life id [] .unknown
  | step {history : List CommandEvent} {event : CommandEvent} {before after : Stage} :
      Life id history before → Stage.Step id before event after →
        Life id (event :: history) after

namespace Life

variable {id : BufferId} {history : List CommandEvent} {stage : Stage}

/-- What an event brings about, and no later one takes back, holds at the end. -/
theorem of_mem
    {event : CommandEvent}
    {Reached : Stage → Prop}
    (brings : ∀ {before after}, Stage.Step id before event after → Reached after)
    (persists : ∀ {before event after},
      Stage.Step id before event after → Reached before → Reached after)
    (life : Life id history stage)
    (member : event ∈ history) :
    Reached stage := by
  induction life with
  | start => cases member
  | step life step inductionHypothesis =>
      rcases List.mem_cons.mp member with rfl | earlier
      · exact brings step
      · exact persists step (inductionHypothesis earlier)

/-- What holds at the end because of a certain event has been brought about by it. -/
theorem mem_of
    {event : CommandEvent}
    {Reached : Stage → Prop}
    (absent : ¬Reached .unknown)
    (brought : ∀ {before other after},
      Stage.Step id before other after → Reached after → Reached before ∨ other = event)
    (life : Life id history stage)
    (reached : Reached stage) :
    event ∈ history := by
  induction life with
  | start => exact absurd reached absent
  | step life step inductionHypothesis =>
      rcases brought step reached with earlier | rfl
      · exact List.mem_cons_of_mem _ (inductionHypothesis earlier)
      · exact List.mem_cons_self

/-! ## What events tell about the stage -/

variable (life : Life id history stage)

include life

theorem notFresh_of_left (member : .left id ∈ history) : ¬stage.Fresh := by
  apply life.of_mem ?_ (fun step held => step.stays_notFresh held) member
  intro before after step
  cases step with
  | elsewhere apart => exact absurd rfl apart
  | left => exact not_false
  | again spent _ => exact Stage.not_fresh_of_spent spent

theorem settling_of_cleared
    {invoked : Bool}
    (member : .dropped id invoked 0 ∈ history) :
    stage.Settling := by
  apply life.of_mem ?_ (fun step held => step.stays_settling held) member
  intro before after step
  cases step with
  | elsewhere apart => exact absurd rfl apart
  | cleared => exact .inr ⟨_, _, rfl⟩
  | suppressed alive => exact absurd alive (Nat.lt_irrefl 0)
  | again spent _ => exact .inl spent

theorem suppressed_iff {failures : Nat} :
    stage = .suppressed failures ↔ 0 < failures ∧ .dropped id false failures ∈ history := by
  constructor
  · intro reached
    have member : .dropped id false failures ∈ history := by
      revert reached
      apply life.mem_of
      · exact fun same => nomatch same
      · intro before other after step same
        cases step
        case suppressed => cases same; exact .inr rfl
        all_goals first
          | exact .inl same
          | cases same
    refine ⟨?_, member⟩
    by_contra none
    obtain rfl := Nat.eq_zero_of_not_pos none
    subst reached
    rcases life.settling_of_cleared member with spent | ⟨_, _, same⟩
    · exact spent
    · cases same
  · rintro ⟨alive, member⟩
    apply life.of_mem ?_ (fun step held => step.stays_suppressed held) member
    intro before after step
    cases step with
    | elsewhere apart => exact absurd rfl apart
    | cleared => exact absurd alive (Nat.lt_irrefl 0)
    | suppressed _ => rfl
    | again _ repeats => exact repeats.elim

theorem absorbed_iff
    {receiver : BufferId}
    {text : String}
    {taken : Bool} :
    stage = .absorbed receiver text taken ↔ .absorbed id receiver text taken ∈ history := by
  constructor
  · apply life.mem_of
    · exact fun same => nomatch same
    · intro before other after step same
      cases step
      case given => cases same; exact .inr rfl
      all_goals first
        | exact .inl same
        | cases same
  · intro member
    apply life.of_mem ?_ (fun step held => step.stays_absorbed held) member
    intro before after step
    cases step with
    | elsewhere apart => exact absurd (.inl rfl) apart
    | received other => exact absurd rfl other
    | given _ _ => rfl
    | again _ repeats =>
        cases taken with
        | true => exact repeats.elim
        | false => exact absurd rfl repeats.1

theorem stranded_iff : stage = .stranded ↔ .stranded id ∈ history := by
  constructor
  · apply life.mem_of
    · exact fun same => nomatch same
    · intro before other after step same
      cases step
      case unplaced | stranded => exact .inr rfl
      all_goals first
        | exact .inl same
        | cases same
  · intro member
    apply life.of_mem ?_ (fun step held => step.stays_stranded held) member
    intro before after step
    cases step with
    | elsewhere apart => exact absurd rfl apart
    | unplaced => rfl
    | stranded => rfl
    | again _ repeats => exact repeats.elim

theorem submission_iff
    {session : SessionId}
    {text : String} :
    stage.submission? = some (session, text) ↔ .submitted id session text ∈ history := by
  constructor
  · apply life.mem_of
    · exact fun same => nomatch same
    · intro before other after step same
      cases step
      case submitted => cases same; exact .inr rfl
      all_goals exact .inl same
  · intro member
    apply life.of_mem ?_ (fun step held => step.stays_submission held) member
    intro before after step
    cases step with
    | elsewhere apart => exact absurd rfl apart
    | submitted _ => rfl
    | again _ repeats => exact repeats.elim

theorem belongsTo_of_made
    {bound : Option SessionId}
    (member : .made id bound ∈ history) :
    stage.BelongsTo bound := by
  apply life.of_mem ?_ (fun step held => step.stays_belonging held) member
  intro before after step
  cases step with
  | elsewhere apart => exact absurd rfl apart
  | made => rfl
  | again _ repeats => exact repeats.elim

theorem holds_of_received
    {donor : BufferId}
    {text : String}
    (member : .absorbed donor id text true ∈ history) :
    stage.Holds text := by
  apply life.of_mem ?_ (fun step held => step.stays_holds held) member
  intro before after step
  cases step with
  | elsewhere apart => exact absurd (.inr rfl) apart
  | received _ => exact List.mem_cons_self
  | given other _ => exact absurd rfl other
  | again _ repeats => exact repeats.elim

/-! ## Order of events -/

/-- A command is submitted once if it is, and not at all otherwise. -/
theorem submissions_eq :
    history.countP (·.submits id) = if stage.submission?.isSome then 1 else 0 := by
  induction life with
  | start => rfl
  | step life step inductionHypothesis =>
      rw [List.countP_cons, inductionHypothesis, step.count_submissions]

end Life

end ScriptBridge
