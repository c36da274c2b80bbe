import ScriptBridge.Proofs.Arithmetic.WrittenFormulas
import ScriptBridge.Proofs.Interp.Evaluation
import ScriptBridge.Proofs.Script.LineEnds
import ScriptBridge.Proofs.Script.Quoting
import ScriptBridge.Proofs.Script.WrittenLists

/-!
# Formulas in scripts

A script computes a formula with a command that has the text of the formula in braces, so that the
formula substitutes its operands itself. A reference is replaced by the text of its variable. None
of that changes anything.
-/

namespace ScriptBridge

open Text Arithmetic ListText

variable {Key Host : Type} {machine : Machine Key Host}

/-! ## References -/

namespace Arithmetic

/-- A reference with the name of the variable it refers to. -/
inductive Refers : String → String → Prop where
  | plain {name : List Char} :
      NameForm name → name ≠ [] → Refers (String.ofList ('$' :: name)) (String.ofList name)
  | braced {name : List Char} :
      '}' ∉ name → Refers (String.ofList ('$' :: '{' :: (name ++ ['}']))) (String.ofList name)

theorem Refers.form {text name : String} (refers : Refers text name) :
    ReferenceForm text.toList := by
  cases refers with
  | plain form nonempty =>
      rw [String.toList_ofList]
      exact .plain form nonempty
  | braced unclosed =>
      rw [String.toList_ofList]
      exact .braced unclosed

theorem refers_name
    {name : String}
    (form : NameForm name.toList)
    (nonempty : name ≠ "") :
    Refers ("$" ++ name) name := by
  have spelled : "$" ++ name = String.ofList ('$' :: name.toList) := by
    rw [← String.toList_inj]
    simp
  have refers := Refers.plain form (mt String.toList_eq_nil_iff.mp nonempty)
  rwa [← spelled, String.ofList_toList] at refers

theorem NameForm.head_ne_brace
    {name : List Char}
    (form : NameForm name)
    (rest : List Char) :
    name ≠ '{' :: rest := by
  rintro rfl
  cases form with
  | char isWordChar => exact absurd isWordChar (by decide)

/-- A reference is one piece: its variable. -/
theorem Refers.ofText
    {text name : String}
    (refers : Refers text name) :
    Template.ofText text = ⟨[.variable name], none⟩ := by
  apply ofText_of_readPieces
  have ends : (readPieces (fun _ => false) []).Gives [] [] := readPieces_of_stops trivial
  cases refers with
  | @plain name form nonempty =>
      have taken : takeName name = (name, []) := by
        have whole := takeName_append_of_apart form (show Apart [] from trivial)
        rwa [List.append_nil] at whole
      have piece : (readPiece '$' name).Gives (.variable (String.ofList name)) [] := by
        have gives := readReference_of_no_brace fun rest => form.head_ne_brace rest
        simp only [taken, List.isEmpty_iff, nonempty, if_false] at gives
        rw [readPiece, if_pos rfl]
        exact gives
      rw [String.toList_ofList]
      exact readPieces_cons rfl piece ends
  | @braced name unclosed =>
      have piece : (readPiece '$' ('{' :: (name ++ ['}']))).Gives
          (.variable (String.ofList name)) [] := by
        rw [readPiece, if_pos rfl]
        exact readReference_of_split (splitAtBrace_of_not_mem unclosed [])
      rw [String.toList_ofList]
      exact readPieces_cons rfl piece ends

end Arithmetic

namespace Action

theorem run_readVariable
    {name value : String}
    (held : machine.valueOf? name = some value) :
    (readVariable name : Action Key Host String).run.run machine = (.ok value, machine) := by
  have read : machine.readVariable name = .ok value := by
    unfold Machine.readVariable
    rw [held]
  have looked : (readVariable name : Action Key Host String).run.run machine =
      (orFail id (machine.readVariable name) : Action Key Host String).run.run machine := rfl
  rw [looked, read]
  rfl

end Action

/-- A reference is replaced by the text of its variable. -/
theorem run_substitute_of_refers
    {text name value : String}
    (refers : Refers text name)
    (held : machine.valueOf? name = some value)
    (host : HostCommands Key Host)
    (fuel : Nat) :
    ((evaluator host (fuel + 1)).substitute text).run.run machine = (.ok value, machine) := by
  have read : (evaluator host (fuel + 1)).substitute text = Action.readVariable name := by
    have substituted : (evaluator host (fuel + 1)).substitute text =
        (Template.ofText text).substitute (invoke host (evaluator host fuel)) := rfl
    rw [substituted, refers.ofText]
    simp [Template.substitute, substitutePieces, substitutePiece]
  rw [read]
  exact Action.run_readVariable held

/-! ## Operands -/

/-- The value of a reference is that of the text its variable has. -/
theorem run_compute_source
    {text name value : String}
    (refers : Refers text name)
    (held : machine.valueOf? name = some value)
    (host : HostCommands Key Host)
    (fuel : Nat) :
    ((Formula.source text).compute (evaluator host (fuel + 1))).run.run machine =
      (.ok (Value.ofText value), machine) := by
  rw [Formula.compute, Conduct.run_bind, run_substitute_of_refers refers held host fuel]
  rfl

/-- All binary operators but the two that may skip the right operand compute both operands. -/
theorem compute_binary
    {operator : BinaryOp}
    (notEither : operator ≠ .either)
    (notBoth : operator ≠ .both)
    (left right : Formula)
    (eval : Evaluator Key Host) :
    (Formula.binary operator left right).compute eval = (do
      let leftValue ← left.compute eval
      let rightValue ← right.compute eval
      ofOperation (Value.applyBinary operator leftValue rightValue)) := by
  cases operator <;> first | contradiction | rw [Formula.compute] <;> simp

/-! ## The command -/

theorem computeText_of_read
    {text : String}
    {formula : Formula}
    (read : Formula.ofText text = .ok formula)
    (eval : Evaluator Key Host) :
    computeText eval text = formula.compute eval := by
  unfold computeText
  rw [read]
  rfl

theorem concatenation_singleton
    {text : String}
    (nonempty : text ≠ "")
    (trimmed : trim text.toList = text.toList) :
    Commands.concatenation [text] = text := by
  simp [Commands.concatenation, trimmed, nonempty]

/-- The command prints what a formula computes. -/
theorem run_expr
    {text : String}
    (nonempty : text ≠ "")
    (trimmed : trim text.toList = text.toList)
    (host : HostCommands Key Host)
    (eval : Evaluator Key Host) :
    ((Command.builtin .expr).run host eval "expr" [text]).run.run machine =
      let ran := (computeText eval text).run.run machine
      (ran.1.map Value.toText, ran.2) := by
  show (Commands.expr eval [text]).run.run machine = _
  unfold Commands.expr
  rw [concatenation_singleton nonempty trimmed, Conduct.run_bind]
  rcases (computeText eval text).run.run machine with ⟨outcome, after⟩
  cases outcome <;> rfl

theorem writes_formula
    {text : String}
    (apart : ∀ c ∈ text.toList, c ≠ '\\' ∧ c ≠ '{' ∧ c ≠ '}') :
    ∀ part ∈ [("\x7b" ++ text ++ "\x7d", text)], Writes part.1.toList part.2.toList := by
  rw [List.forall_mem_singleton]
  have written := writes_braced_of_apart apart
  simpa using written

/-- The command that computes a formula in braces. -/
def formulaCommand
    (text : String)
    (apart : ∀ c ∈ text.toList, c ≠ '\\' ∧ c ≠ '{' ∧ c ≠ '}') : WrittenCommand :=
  plainCommand "expr" (by decide) [("\x7b" ++ text ++ "\x7d", text)] (writes_formula apart)

/-- A script that computes a formula does what the formula does, one level deeper. -/
theorem run_script_expr
    {text : String}
    (known : machine.interp.command? "expr" = some (.builtin .expr))
    (shallow : machine.interp.depth < maxDepth)
    (apart : ∀ c ∈ text.toList, c ≠ '\\' ∧ c ≠ '{' ∧ c ≠ '}')
    (nonempty : text ≠ "")
    (trimmed : trim text.toList = text.toList)
    (host : HostCommands Key Host)
    (fuel : Nat) :
    ((evaluator host (fuel + 1)).script ("expr \x7b" ++ text ++ "\x7d")).run.run machine =
      let ran := (computeText (evaluator host fuel) text).run.run
        (machine.atDepth (machine.interp.depth + 1))
      (ran.1.map Value.toText, ran.2.atDepth machine.interp.depth) := by
  have isText : "expr \x7b" ++ text ++ "\x7d" = (formulaCommand text apart).text := by
    rw [← String.toList_inj]
    simp [WrittenCommand.text, formulaCommand, plainCommand]
  rw [(formulaCommand text apart).script_only isText host fuel]
  show (invoke host (evaluator host fuel) "expr" [text]).run.run machine = _
  rw [run_invoke known shallow, run_expr nonempty trimmed]

end ScriptBridge
