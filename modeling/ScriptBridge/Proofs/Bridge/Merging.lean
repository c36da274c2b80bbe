import ScriptBridge.Proofs.Bridge.Submission

/-!
# Where the texts of commands go

A command that is merged into another one hands its text on, and the other one may be merged again.
The text ends up at a root, and what becomes of the root becomes of all that it has taken over. Only
a command that has been closed before takes nothing: what is merged into it is lost.
-/

namespace ScriptBridge

theorem Text.Includes.trans {whole text part : String}
    (outer : Text.Includes whole text)
    (inner : Text.Includes text part) :
    Text.Includes whole part :=
  List.IsInfix.trans inner outer

/-! ## Roots -/

/-- The text of a command has come to a root, over commands that could still take it. -/
inductive Reaches (history : List CommandEvent) : BufferId → BufferId → Prop
  | here (id : BufferId) : Reaches history id id
  | onward {id receiver root : BufferId} {text : String} :
      .absorbed id receiver text true ∈ history → Reaches history receiver root →
        Reaches history id root

/-- No other command has taken the text of a command. -/
def IsRoot (history : List CommandEvent) (id : BufferId) : Prop :=
  ∀ receiver text, .absorbed id receiver text true ∉ history

/-- Every command is at one of its stages. -/
def Lives (history : List CommandEvent) : Prop :=
  ∀ id, ∃ stage, Life id history stage

namespace Reaches

variable {history : List CommandEvent} {id middle root : BufferId}

theorem later
    (event : CommandEvent)
    (reaches : Reaches history id root) :
    Reaches (event :: history) id root := by
  induction reaches with
  | here id => exact .here id
  | onward taken _ inductionHypothesis =>
      exact .onward (List.mem_cons_of_mem _ taken) inductionHypothesis

theorem trans
    (first : Reaches history id middle)
    (second : Reaches history middle root) :
    Reaches history id root := by
  induction first with
  | here id => exact second
  | onward taken _ inductionHypothesis => exact .onward taken (inductionHypothesis second)

end Reaches

namespace Lives

variable {event : CommandEvent} {history : List CommandEvent} {id root other : BufferId}

theorem earlier (lives : Lives (event :: history)) : Lives history := by
  intro id
  obtain ⟨stage, life⟩ := lives id
  cases life with
  | step life _ => exact ⟨_, life⟩

/-- What has just taken over a text is a root. -/
theorem isRoot_of_received
    {donor receiver : BufferId}
    {text : String}
    (lives : Lives (.absorbed donor receiver text true :: history)) :
    IsRoot (.absorbed donor receiver text true :: history) receiver := by
  obtain ⟨stage, life⟩ := lives receiver
  intro other given member
  have absorbed := life.absorbed_iff.mpr member
  cases life with
  | step _ step =>
      cases step with
      | elsewhere apart => exact apart (.inr rfl)
      | received _ => cases absorbed
      | given other _ => exact other rfl
      | again _ repeats => exact repeats

/-- The text of every command has come to a root. The induction is on the history: a root stays one
until another command takes its text, and then that one is the root. -/
theorem exists_root (lives : Lives history) (id : BufferId) :
    ∃ root, Reaches history id root ∧ IsRoot history root := by
  induction history with
  | nil => exact ⟨id, .here id, fun _ _ => List.not_mem_nil⟩
  | cons event history inductionHypothesis =>
      obtain ⟨root, reaches, isRoot⟩ := inductionHypothesis lives.earlier
      by_cases moves : ∃ receiver text, event = .absorbed root receiver text true
      · obtain ⟨receiver, text, rfl⟩ := moves
        refine ⟨receiver, ?_, lives.isRoot_of_received⟩
        exact (reaches.later _).trans (.onward List.mem_cons_self (.here receiver))
      · refine ⟨root, reaches.later event, ?_⟩
        intro receiver text member
        rcases List.mem_cons.mp member with now | earlier
        · exact moves ⟨receiver, text, now.symm⟩
        · exact isRoot receiver text earlier

variable (lives : Lives history)

include lives

/-- No text comes to two roots. -/
theorem root_unique
    (first : Reaches history id root)
    (second : Reaches history id other)
    (isRoot : IsRoot history root)
    (isRootToo : IsRoot history other) :
    root = other := by
  induction first with
  | here id =>
      cases second with
      | here => rfl
      | onward taken _ => exact absurd taken (isRoot _ _)
  | onward taken _ inductionHypothesis =>
      cases second with
      | here => exact absurd taken (isRootToo _ _)
      | onward takenToo rest =>
          obtain ⟨stage, life⟩ := lives _
          have same := (life.absorbed_iff.mpr taken).symm.trans (life.absorbed_iff.mpr takenToo)
          cases same
          exact inductionHypothesis rest isRoot

/-- What a command has taken over is in the text with which its root is submitted. -/
theorem includes_of_reaches
    {donor receiver : BufferId}
    {session : SessionId}
    {text part : String}
    (reaches : Reaches history receiver root)
    (taken : .absorbed donor receiver part true ∈ history)
    (submitted : .submitted root session text ∈ history) :
    Text.Includes text part := by
  induction reaches generalizing donor part with
  | here id =>
      obtain ⟨stage, life⟩ := lives id
      have holds := life.holds_of_received taken
      have sent := life.submission_iff.mpr submitted
      cases stage
      case running | settled =>
        cases sent
        exact holds
      all_goals cases sent
  | onward takenOn _ inductionHypothesis =>
      obtain ⟨stage, life⟩ := lives _
      have holds := life.holds_of_received taken
      obtain rfl := life.absorbed_iff.mpr takenOn
      exact (inductionHypothesis takenOn submitted).trans holds

omit lives

/-- The root of a command that has been made has been made as well. -/
theorem known_of_reaches
    (reaches : Reaches history id root)
    (known : ¬Life id history .unknown) :
    ¬Life root history .unknown := by
  induction reaches with
  | here id => exact known
  | onward taken _ inductionHypothesis =>
      apply inductionHypothesis
      intro life
      exact life.holds_of_received taken

end Lives

theorem Life.isRoot
    {history : List CommandEvent}
    {id : BufferId}
    {stage : Stage}
    (life : Life id history stage)
    (kept : ∀ receiver text, stage ≠ .absorbed receiver text true) :
    IsRoot history id := by
  intro receiver text taken
  exact kept receiver text (life.absorbed_iff.mpr taken)

/-! ## Accounts -/

/-- All of the text of a command is in what another one was submitted with. -/
def CarriedBy (history : List CommandEvent) (id root : BufferId) : Prop :=
  root ≠ id ∧ Reaches history id root ∧ ∃ receiver whole session text,
    .absorbed id receiver whole true ∈ history ∧
      .submitted root session text ∈ history ∧ Text.Includes text whole

/-- A command was submitted, or carried by exactly one other, or its text was still pending when it
was given up, alone or with the command it was merged into, while a failure was alive. -/
def Accounted (history : List CommandEvent) (id : BufferId) : Prop :=
  (∃ session text, .submitted id session text ∈ history) ∨
    (∃! root, CarriedBy history id root) ∨
      ∃ root failures, Reaches history id root ∧ 0 < failures ∧
        .dropped root false failures ∈ history

/-- The text of a command went to one that was closed already, or there was no session for it. -/
def Lost (history : List CommandEvent) (id : BufferId) : Prop :=
  ∃ root, Reaches history id root ∧
    (.stranded root ∈ history ∨ ∃ receiver text, .absorbed root receiver text false ∈ history)

theorem Stage.done_of_gone
    {table : CommandTable}
    {id : BufferId}
    {stage : Stage}
    (place : table.At id stage)
    (gone : table.buffers[id]? = none)
    (notBusy : ¬stage.Busy)
    (known : stage ≠ .unknown) :
    stage.Done := by
  have old := place.not_fresh known (.inr gone)
  cases stage with
  | unknown | pending => exact absurd trivial old
  | leaving | due | «sealed» | running => exact absurd trivial notBusy
  | _ => trivial

section Ends

variable {history : List CommandEvent} {id root : BufferId} {stage : Stage}
  (lives : Lives history)
  (reaches : Reaches history id root)
  (isRoot : IsRoot history root)
  (life : Life root history stage)

include lives reaches isRoot life

/-- A command is accounted for if its root has been submitted, or given up while a failure was
alive. -/
theorem accounted_iff_stage :
    Accounted history id ↔
      (∃ sent, stage.submission? = some sent) ∨ ∃ failures, stage = .suppressed failures := by
  have only : ∀ {other}, Reaches history id other → IsRoot history other → other = root :=
    fun reachesToo isRootToo => lives.root_unique reachesToo reaches isRootToo isRoot
  have sentRoot : ∀ {other session text}, Reaches history id other →
      .submitted other session text ∈ history → other = root := by
    intro other session text reachesToo submitted
    obtain ⟨_, lifeToo⟩ := lives other
    apply only reachesToo
    apply lifeToo.isRoot
    rintro receiver given rfl
    cases lifeToo.submission_iff.mpr submitted
  constructor
  · rintro (⟨session, text, submitted⟩ | ⟨other, carried, -⟩ | ⟨other, failures, reachesToo, dropped⟩)
    · obtain rfl := sentRoot (.here id) submitted
      exact .inl ⟨_, life.submission_iff.mpr submitted⟩
    · obtain ⟨-, reachesToo, _, _, session, text, -, submitted, -⟩ := carried
      obtain rfl := sentRoot reachesToo submitted
      exact .inl ⟨_, life.submission_iff.mpr submitted⟩
    · have isRootToo : IsRoot history other := by
        obtain ⟨_, lifeToo⟩ := lives other
        apply lifeToo.isRoot
        rintro receiver given rfl
        cases lifeToo.suppressed_iff.mpr dropped
      obtain rfl := only reachesToo isRootToo
      exact .inr ⟨failures, life.suppressed_iff.mpr dropped⟩
  · rintro (⟨⟨session, text⟩, sent⟩ | ⟨failures, rfl⟩)
    · have submitted := life.submission_iff.mp sent
      by_cases own : root = id
      · subst own
        exact .inl ⟨session, text, submitted⟩
      · refine .inr (.inl ⟨root, ?_, ?_⟩)
        · cases reaches with
          | here => exact absurd rfl own
          | @onward _ receiver _ whole taken onward =>
              exact ⟨own, .onward taken onward, receiver, whole, session, text, taken, submitted,
                lives.includes_of_reaches onward taken submitted⟩
        · rintro other ⟨-, reachesToo, _, _, _, _, -, submittedToo, -⟩
          exact sentRoot reachesToo submittedToo
    · exact .inr (.inr ⟨root, failures, reaches, life.suppressed_iff.mp rfl⟩)

/-- A command is lost if its root had no session, or went to a command that was closed. -/
theorem lost_iff_stage :
    Lost history id ↔
      stage = .stranded ∨ ∃ receiver text, stage = .absorbed receiver text false := by
  constructor
  · rintro ⟨other, reachesToo, ended⟩
    have isRootToo : IsRoot history other := by
      obtain ⟨_, lifeToo⟩ := lives other
      apply lifeToo.isRoot
      rintro receiver given rfl
      rcases ended with stranded | ⟨_, _, refused⟩
      · cases lifeToo.stranded_iff.mpr stranded
      · cases lifeToo.absorbed_iff.mpr refused
    obtain rfl := lives.root_unique reachesToo reaches isRootToo isRoot
    rcases ended with stranded | ⟨receiver, text, refused⟩
    · exact .inl (life.stranded_iff.mpr stranded)
    · exact .inr ⟨receiver, text, life.absorbed_iff.mpr refused⟩
  · rintro (rfl | ⟨receiver, text, rfl⟩)
    · exact ⟨root, reaches, .inl (life.stranded_iff.mp rfl)⟩
    · exact ⟨root, reaches, .inr ⟨receiver, text, life.absorbed_iff.mp rfl⟩⟩

/-- Once its root is done, a command is either accounted for or lost. -/
theorem accounted_iff_not_lost (done : stage.Done) :
    Accounted history id ↔ ¬Lost history id := by
  rw [accounted_iff_stage lives reaches isRoot life, lost_iff_stage lives reaches isRoot life]
  cases stage with
  | settled session text result =>
      refine iff_of_true (.inl ⟨_, rfl⟩) ?_
      rintro (same | ⟨_, _, same⟩)
      all_goals cases same
  | suppressed failures =>
      refine iff_of_true (.inr ⟨_, rfl⟩) ?_
      rintro (same | ⟨_, _, same⟩)
      all_goals cases same
  | absorbed receiver text taken =>
      cases taken with
      | true => exact absurd (life.absorbed_iff.mp rfl) (isRoot receiver text)
      | false =>
          refine iff_of_false ?_ (not_not.mpr (.inr ⟨receiver, text, rfl⟩))
          rintro (⟨_, same⟩ | ⟨_, same⟩)
          all_goals cases same
  | stranded =>
      refine iff_of_false ?_ (not_not.mpr (.inl rfl))
      rintro (⟨_, same⟩ | ⟨_, same⟩)
      all_goals cases same
  | _ => exact done.elim

end Ends

namespace World

/-- When a program has come to its end and all commands are gone, each of them is accounted for
unless it is lost: the only texts that are dropped for good are those that were merged into a
command that had been closed before, and those for which there was no session. -/
theorem commands_accounted
    (environment : Settings.Environment)
    (sessions : List (InterpAccess × Settings))
    (program : HostProgram)
    (fuel : Nat)
    {world : World}
    {value : Except String (Option String)}
    (ran : program.outcome fuel (opened environment sessions) = (.ok value, world))
    (gone : ∀ id : BufferId, world.commands.buffers[id]? = none)
    {id : BufferId}
    {session? : Option SessionId}
    (made : .made id session? ∈ world.commands.history) :
    Accounted world.commands.history id ↔ ¬Lost world.commands.history id := by
  have stages : ∀ id, ∃ stage, world.commands.At id stage ∧ ¬stage.Busy := by
    intro id
    obtain ⟨stage, place, ended⟩ := exists_stage environment sessions program fuel id
    rw [ran] at place ended
    exact ⟨stage, place, ended rfl⟩
  have lives : Lives world.commands.history := by
    intro id
    obtain ⟨stage, place, -⟩ := stages id
    exact ⟨stage, place.life⟩
  have known : ¬Life id world.commands.history .unknown := fun life => life.belongsTo_of_made made
  obtain ⟨root, reaches, isRoot⟩ := lives.exists_root id
  obtain ⟨stage, place, notBusy⟩ := stages root
  apply accounted_iff_not_lost lives reaches isRoot place.life
  apply Stage.done_of_gone place (gone root) notBusy
  rintro rfl
  exact Lives.known_of_reaches reaches known place.life

/-- A command that is merged into one that has been read already is lost: the variable is not
incremented. -/
theorem commands_accounted_after_late_merge :
    let program : HostProgram :=
      .ask (.newCommand (some 0) "set n 0" "") fun command =>
        .ask (.evaluateOnce command) fun _ =>
          .ask (.newCommand (some 0) "incr n" "") fun other =>
            .ask (.absorb command other) fun _ =>
              .ask (.release other) fun _ =>
                .ask (.release command) fun _ =>
                  .ask (.evaluate 0 "set n") fun value => .finish (some value)
    let ran := program.outcome 2 (opened (fun _ => none) [(.open, {})])
    ran.1 = .ok (.ok (some "0")) ∧
      Accounted ran.2.commands.history 0 ∧ ¬Accounted ran.2.commands.history 1 := by
  intro program ran
  have known := ListText.evaluator_eq_knowing [("set", ["n", "0"]), ("set", ["n"])]
    (by decide +kernel) Session.hostCommands 1
  have same : ran = (run [] program).outcome _ _ :=
    congrArg (fun eval => (run [] program).outcome eval (opened (fun _ => none) [(.open, {})])) known
  have finished : ran.1 = .ok (.ok (some "0")) := by
    rw [same]
    decide +kernel
  have history : ran.2.commands.history =
      [.released 0 true 0, .dropped 0 true 0, .left 0, .released 1 true 0, .dropped 1 true 0, .left 1,
        .absorbed 1 0 "incr n" false, .made 1 (some 0), .evaluated 0, .answered 0 (some "0"),
        .submitted 0 0 "set n 0", .sealed 0 "set n 0", .asked 0, .made 0 (some 0)] := by
    rw [same]
    decide +kernel
  have gone : ∀ id : BufferId, ran.2.commands.buffers[id]? = none := by
    have empty : ran.2.commands.buffers.isEmpty = true := by
      rw [same]
      decide +kernel
    intro id
    exact Std.TreeMap.getElem?_of_isEmpty empty
  have made : .made 1 (some 0) ∈ ran.2.commands.history := by
    rw [history]
    decide
  have submitted : .submitted 0 0 "set n 0" ∈ ran.2.commands.history := by
    rw [history]
    decide
  have refused : .absorbed 1 0 "incr n" false ∈ ran.2.commands.history := by
    rw [history]
    decide
  have account := commands_accounted _ _ program 2 (Prod.ext finished rfl) gone made
  refine ⟨finished, .inl ⟨0, "set n 0", submitted⟩, ?_⟩
  intro accounted
  exact account.mp accounted ⟨1, .here 1, .inr ⟨0, "incr n", refused⟩⟩

end World

end ScriptBridge
