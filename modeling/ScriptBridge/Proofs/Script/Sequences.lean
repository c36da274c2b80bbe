import ScriptBridge.Proofs.Interp.Evaluation
import ScriptBridge.Proofs.Script.LineEnds
import ScriptBridge.Proofs.Script.WrittenLists

/-!
# Scripts one after the other

Behind a line end a script starts afresh. So a script with another one on the lines behind it is
read as the commands of the one and then those of the other, and evaluating it is evaluating the two
one after the other. Where a fault cuts the first one off, what follows may mend it; but then it
does not return by itself.
-/

namespace ScriptBridge

open Text ListText

variable {limit : Nat}

/-! ## Readings that are cut off -/

/-- A fault that cuts off the reading of a script cuts off its last command. -/
def Reading.CutsOff : Reading Script limit → Prop
  | .complete _ _ _ => True
  | .cut script _ => script.EndsCut

theorem Reading.CutsOff.widen
    {larger : Nat}
    {reading : Reading Script limit}
    (cutsOff : reading.CutsOff)
    (bound : limit ≤ larger) :
    (reading.widen bound).CutsOff := by
  cases reading with
  | complete => trivial
  | cut => exact cutsOff

theorem Reading.CutsOff.finish
    {reading : Reading Script limit}
    (cutsOff : reading.CutsOff)
    (words : Option (List Word)) :
    (reading.map (Script.finish words)).CutsOff := by
  cases reading with
  | complete => trivial
  | cut => exact Script.endsCut_finish cutsOff

theorem cutsOff_readScript (nested : Bool) (words : Option (List Word)) (cs : List Char) :
    (readScript nested words cs).CutsOff := by
  match cs with
  | [] =>
      rw [readScript]
      split
      · trivial
      · trivial
  | c :: rest =>
      have shorterComment := dropComment_length_le rest
      rw [readScript]
      split
      · exact (cutsOff_readScript nested words rest).widen _
      split
      · exact (cutsOff_readScript nested _ rest.tail).widen _
      split
      · exact ((cutsOff_readScript nested none rest).finish words).widen _
      split
      · trivial
      split
      · exact (cutsOff_readScript nested none rest).widen _
      split
      · exact (cutsOff_readScript nested none (dropComment rest)).widen _
      split
      · exact (cutsOff_readScript nested _ _).widen _
      · trivial
  termination_by cs.length
  decreasing_by
    all_goals
      simp only [List.length_cons, List.length_tail]
      omega

/-! ## Running scripts one after the other -/

section Running

variable {Key Host β γ : Type}

/-- An action that ends with no result, wherever it starts. -/
def NeverReturns (action : Action Key Host β) : Prop :=
  ∀ machine value after, action.run.run machine ≠ (.ok value, after)

theorem neverReturns_throw (fault : Interruption) :
    NeverReturns (throw fault : Action Key Host β) := by
  intro machine value after returned
  cases returned

theorem neverReturns_bind
    {action : Action Key Host β}
    {next : β → Action Key Host γ}
    (never : ∀ value, NeverReturns (next value)) :
    NeverReturns (action >>= next) := by
  intro machine value after returned
  rw [Conduct.run_bind] at returned
  rcases ran : action.run.run machine with ⟨outcome, middle⟩
  rw [ran] at returned
  cases outcome with
  | ok found => exact never found middle value after returned
  | error fault => cases returned

/-- A script whose last command is cut off returns nothing. -/
theorem neverReturns_of_endsCut
    (call : String → List String → Action Key Host String) :
    ∀ (script : Script) (result : String), script.EndsCut →
      NeverReturns (runScript call result script)
  | .done, _, endsCut => endsCut.elim
  | .command words rest, result, endsCut => by
      rw [runScript]
      apply neverReturns_bind
      intro texts
      cases texts with
      | nil => exact neverReturns_of_endsCut call rest result endsCut
      | cons name arguments =>
          exact neverReturns_bind fun value => neverReturns_of_endsCut call rest value endsCut
  | .cut words last fault, result, _ => by
      rw [runScript]
      exact neverReturns_bind fun _ => neverReturns_bind fun _ => neverReturns_throw _

/-- Running a script and then another one is running the two as one. -/
theorem runScript_andThen
    (call : String → List String → Action Key Host String)
    (next : Script) :
    ∀ (script : Script) (result : String),
      runScript call result (script.andThen next) = (do
        let value ← runScript call result script
        runScript call value next)
  | .done, result => by rw [Script.andThen, runScript, pure_bind]
  | .command words rest, result => by
      rw [Script.andThen, runScript, runScript, bind_assoc]
      congr 1
      funext texts
      cases texts with
      | nil => exact runScript_andThen call next rest result
      | cons name arguments =>
          simp only [runScript_andThen call next rest, bind_assoc]
  | .cut words last fault, result => by
      rw [Script.andThen, runScript, bind_assoc]
      congr 1
      funext _
      rw [bind_assoc]
      rfl

/-- A script without a single word. -/
def Script.isIdle : Script → Bool
  | .done => true
  | .command words rest => words.isEmpty && rest.isIdle
  | .cut _ _ _ => false

/-- Running an idle script changes nothing and leaves the result as it was. -/
theorem runScript_of_isIdle
    (call : String → List String → Action Key Host String) :
    ∀ (script : Script) (result : String), script.isIdle = true →
      runScript call result script = pure result
  | .done, result, _ => by rw [runScript]
  | .command words rest, result, isIdle => by
      obtain ⟨noWords, restIdle⟩ := Bool.and_eq_true_iff.mp isIdle
      obtain rfl := List.isEmpty_iff.mp noWords
      rw [runScript, substituteWords, pure_bind]
      exact runScript_of_isIdle call rest result restIdle

/-- Any other script gets its result from a command, if it returns at all. -/
theorem runScript_of_not_isIdle
    (call : String → List String → Action Key Host String) :
    ∀ (script : Script) (result other : String), script.isIdle = false →
      runScript call result script = runScript call other script
  | .done, _, _, notIdle => nomatch notIdle
  | .command [] rest, result, other, notIdle => by
      rw [runScript, runScript, substituteWords, pure_bind, pure_bind]
      exact runScript_of_not_isIdle call rest result other notIdle
  | .command (word :: words) rest, result, other, _ => by
      simp only [runScript, substituteWords, bind_assoc, pure_bind]
  | .cut _ _ _, _, _, _ => by rw [runScript, runScript]

/-- A script with another one on the lines behind it is read as the commands of both, if it returns
when it is run by itself. -/
theorem ofText_append_newline
    {call : String → List String → Action Key Host String}
    {first : String}
    {result value : String}
    {start middle : Machine Key Host}
    (plain : first.toList.getLast? ≠ some '\\')
    (ran : (runScript call result (Script.ofText first)).run.run start = (.ok value, middle))
    (second : String) :
    Script.ofText (first ++ "\n" ++ second) =
      (Script.ofText first).andThen (Script.ofText second) := by
  have isText : (first ++ "\n" ++ second).toList = first.toList ++ '\n' :: second.toList := by
    simp
  unfold Script.ofText at ran ⊢
  rw [isText]
  cases read : readScript false none first.toList with
  | complete script rest within =>
      exact (readScript_lineEnd plain ⟨within, read⟩ second.toList).2
  | cut script fault =>
      have endsCut := cutsOff_readScript false none first.toList
      rw [read] at endsCut ran
      exact absurd ran (neverReturns_of_endsCut call script result endsCut start value middle)

/-- Evaluating a script with another one on the lines behind it is evaluating the one and then the
other, from where the first one has stopped. It ends as the second one does, except that the result
is that of the first if the second has no command. -/
theorem script_append_newline
    (host : HostCommands Key Host)
    (fuel : Nat)
    {first : String}
    {value : String}
    {start middle : Machine Key Host}
    (plain : first.toList.getLast? ≠ some '\\')
    (ran : ((evaluator host fuel).script first).run.run start = (.ok value, middle))
    (second : String) :
    ((evaluator host fuel).script (first ++ "\n" ++ second)).run.run start =
      (if (Script.ofText second).isIdle then .ok value
        else (((evaluator host fuel).script second).run.run middle).1,
      (((evaluator host fuel).script second).run.run middle).2) := by
  cases fuel with
  | zero => cases ran
  | succ fuel =>
      let call := invoke host (evaluator host fuel)
      have ranFirst : (runScript call "" (Script.ofText first)).run.run start =
        (.ok value, middle) := ran
      show (runScript call "" (Script.ofText (first ++ "\n" ++ second))).run.run start =
        (if (Script.ofText second).isIdle then .ok value
          else ((runScript call "" (Script.ofText second)).run.run middle).1,
        ((runScript call "" (Script.ofText second)).run.run middle).2)
      rw [ofText_append_newline plain ranFirst, runScript_andThen, Conduct.run_bind, ranFirst]
      cases idle : (Script.ofText second).isIdle with
      | true =>
          simp only [runScript_of_isIdle call _ _ idle]
          rfl
      | false =>
          simp only [runScript_of_not_isIdle call _ value "" idle]
          rfl

/-- A line with a comment behind a command leaves its result as it is. -/
theorem script_append_newline_of_comment :
    let host : HostCommands Nat Unit := ⟨fun _ _ _ => throw .unfinished, fun _ state => state⟩
    let commands := ({} : Std.TreeMap String (Command Nat)).insert "list" (.builtin .list)
    let machine : Machine Nat Unit := ⟨{ commands }, {}, 0, ()⟩
    ((evaluator host 1).script ("list a" ++ "\n" ++ "# b")).run.run machine =
      (.ok "a", machine) := by
  intro host commands machine
  have isPlain : IsPlain "list".toList := by decide
  have written : "list a" = "list" ++ " " ++ format ["a"] := by decide
  have spelled : ["a"].map received = ["a"] := by
    rw [List.map_singleton, IsPlain.received_eq (by decide)]
  have known : machine.interp.command? "list" = some (.builtin .list) := by
    simp [machine, commands, Interp.command?, show Name.key "list" = "list" by decide]
  have ran : ((evaluator host 1).script "list a").run.run machine = (.ok "a", machine) := by
    rw [written, script_format isPlain, spelled, run_invoke known (by decide)]
    have formatted : format ["a"] = "a" := by decide
    show ((Except.ok (format ["a"]) : Except Interruption String), machine) = _
    rw [formatted]
  have comment : Script.ofText "# b" = .done := by
    have text : "# b".toList = ['#', ' ', 'b'] := rfl
    have notBlank : isBlank '#' = false := by decide
    have dropped : dropComment [' ', 'b'] = [] := rfl
    have read : (readScript false none ['#', ' ', 'b']).value =
        (readScript false none (dropComment [' ', 'b'])).value := by
      rw [readScript]
      simp [isLineBlank, notBlank]
    rw [Script.ofText, text, read, dropped, readScript]
    rfl
  have ranBehind : ((evaluator host 1).script "# b").run.run machine = (.ok "", machine) := by
    show (runScript _ "" (Script.ofText "# b")).run.run machine = _
    rw [comment, runScript]
    rfl
  rw [script_append_newline host 1 (by decide) ran, ranBehind, comment]
  rfl

end Running

end ScriptBridge
