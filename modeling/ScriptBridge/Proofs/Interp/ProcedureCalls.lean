import ScriptBridge.Proofs.Interp.CallStack
import ScriptBridge.Proofs.Interp.Evaluation
import ScriptBridge.Proofs.Lists.RoundTrip

/-!
# Calls of procedures

A call gives each parameter of a procedure the argument at its place, or its default where the
arguments have come to an end; a last parameter named `args` gets the list of the arguments behind
the other parameters. The body is entered exactly if every parameter without an argument has a
default and no argument is left over; otherwise the call is refused and nothing changes.
-/

namespace ScriptBridge

variable {Key Host : Type}

namespace Procedure

/-! ## What a procedure accepts -/

/-- A parameter: its name, and its default if it has one. -/
abbrev Parameter := String × Option String

def takesRest (procedure : Procedure) : Bool :=
  procedure.parameters.getLast?.any (·.1 == "args")

/-- The parameters that take one argument each: all but a last one named `args`. -/
def leading (procedure : Procedure) : List Parameter :=
  if procedure.takesRest then procedure.parameters.dropLast else procedure.parameters

/-- Parameters without an argument have a default. -/
def Defaulted (parameters : List Parameter) (arguments : List String) : Prop :=
  ∀ (index : Nat) (parameter : Parameter), parameters[index]? = some parameter →
    arguments.length ≤ index → parameter.2.isSome = true

structure Accepts (procedure : Procedure) (arguments : List String) : Prop where
  defaulted : Defaulted procedure.leading arguments
  noneLeft : procedure.takesRest = false → arguments.length ≤ procedure.leading.length

/-- The parameters have their values in the frame, and nothing else is in it. -/
structure Holds (procedure : Procedure) (arguments : List String) (frame : Frame) : Prop where
  values : ∀ (index : Nat) (parameter : Parameter), procedure.leading[index]? = some parameter →
    frame.locals[parameter.1]? = arguments[index]?.or parameter.2
  rest : procedure.takesRest = true → ∃ list, frame.locals["args"]? = some list ∧
    ListText.parse list = .ok (arguments.drop procedure.leading.length)
  others : ∀ name, name ∉ procedure.parameters.map Prod.fst → frame.locals[name]? = none
  declared : frame.declared = []

/-! ## Values of the leading parameters -/

def fill? : List Parameter → List String → Option (List (String × String))
  | [], _ => some []
  | (name, default) :: parameters, arguments =>
      (arguments.head?.or default).bind fun value =>
        (fill? parameters arguments.tail).map ((name, value) :: ·)

theorem defaulted_cons
    (parameter : Parameter)
    (parameters : List Parameter)
    (arguments : List String) :
    Defaulted (parameter :: parameters) arguments ↔
      (arguments.head?.or parameter.2).isSome = true ∧ Defaulted parameters arguments.tail := by
  constructor
  · intro defaulted
    constructor
    · cases arguments with
      | nil => simpa using defaulted 0 parameter
      | cons argument arguments => simp
    · intro index other found missing
      apply defaulted (index + 1) other (by simpa using found)
      simpa [Nat.sub_le_iff_le_add] using missing
  · rintro ⟨first, others⟩ index other found missing
    cases index with
    | zero =>
        obtain rfl : arguments = [] := List.eq_nil_of_length_eq_zero (Nat.le_zero.mp missing)
        obtain rfl : parameter = other := by simpa using found
        simpa using first
    | succ index =>
        apply others index other (by simpa using found)
        simpa [Nat.sub_le_iff_le_add] using missing

/-- The leading parameters are filled exactly if those without an argument have a default. -/
theorem fill?_isSome_iff (parameters : List Parameter) (arguments : List String) :
    (fill? parameters arguments).isSome = true ↔ Defaulted parameters arguments := by
  induction parameters generalizing arguments with
  | nil => simp [fill?, Defaulted]
  | cons parameter parameters inductionHypothesis =>
      rw [defaulted_cons, ← inductionHypothesis, fill?]
      cases arguments.head?.or parameter.2 <;> simp

section

variable {parameters : List Parameter} {arguments : List String} {values : List (String × String)}

theorem map_fst_of_fill? (filled : fill? parameters arguments = some values) :
    values.map Prod.fst = parameters.map Prod.fst := by
  induction parameters generalizing arguments values with
  | nil =>
      obtain rfl : [] = values := by simpa [fill?] using filled
      rfl
  | cons parameter parameters inductionHypothesis =>
      simp only [fill?, Option.bind_eq_some_iff, Option.map_eq_some_iff] at filled
      obtain ⟨value, -, others, filled, rfl⟩ := filled
      simp [inductionHypothesis filled]

/-- Each leading parameter gets the argument at its place, or its default. -/
theorem mem_of_fill?
    (filled : fill? parameters arguments = some values)
    {index : Nat}
    {parameter : Parameter}
    (found : parameters[index]? = some parameter) :
    ∃ value, arguments[index]?.or parameter.2 = some value ∧ (parameter.1, value) ∈ values := by
  induction parameters generalizing arguments values index with
  | nil => simp at found
  | cons first parameters inductionHypothesis =>
      simp only [fill?, Option.bind_eq_some_iff, Option.map_eq_some_iff] at filled
      obtain ⟨value, isValue, others, filled, rfl⟩ := filled
      cases index with
      | zero =>
          obtain rfl : first = parameter := by simpa using found
          exact ⟨value, by rwa [← List.head?_eq_getElem?], List.mem_cons_self⟩
      | succ index =>
          obtain ⟨other, isOther, member⟩ := inductionHypothesis filled (by simpa using found)
          exact ⟨other, by simpa using isOther, List.mem_cons_of_mem _ member⟩

end

/-! ## Binding -/

theorem bind?_cons
    {name : String}
    {default : Option String}
    {parameters : List Parameter}
    (apart : parameters = [] → name ≠ "args")
    (arguments : List String) :
    bind? ((name, default) :: parameters) arguments =
      (arguments.head?.or default).bind fun value =>
        (bind? parameters arguments.tail).map ((name, value) :: ·) := by
  cases parameters with
  | nil =>
      have unlike := apart rfl
      cases arguments <;> cases default <;> simp [bind?]
  | cons parameter parameters =>
      cases arguments <;> cases default <;> simp [bind?]

theorem bind?_append
    {leading rest : List Parameter}
    (apart : rest = [] → ∀ parameter ∈ leading.getLast?, parameter.1 ≠ "args")
    (arguments : List String) :
    bind? (leading ++ rest) arguments =
      (fill? leading arguments).bind fun values =>
        (bind? rest (arguments.drop leading.length)).map (values ++ ·) := by
  induction leading generalizing arguments with
  | nil => simp [fill?]
  | cons parameter leading inductionHypothesis =>
      obtain ⟨name, default⟩ := parameter
      -- A name `args` is special only where no parameter follows.
      have first : leading ++ rest = [] → name ≠ "args" := by
        intro empty
        obtain ⟨rfl, rfl⟩ := List.append_eq_nil_iff.mp empty
        simpa using apart rfl
      have others : rest = [] → ∀ parameter ∈ leading.getLast?, parameter.1 ≠ "args" := by
        intro empty parameter isLast
        apply apart empty parameter
        rw [List.getLast?_cons, Option.mem_def.mp isLast]
        rfl
      rw [List.cons_append, bind?_cons first, fill?]
      cases arguments.head?.or default with
      | none => rfl
      | some value =>
          simp [inductionHypothesis others, Option.map_bind, Option.bind_map, Function.comp_def]

section

variable (procedure : Procedure) (arguments : List String)

theorem exists_rest (takesRest : procedure.takesRest = true) :
    ∃ default, procedure.parameters = procedure.leading ++ [("args", default)] := by
  have isLeading : procedure.leading = procedure.parameters.dropLast := if_pos takesRest
  rw [Procedure.takesRest, Option.any_eq_true] at takesRest
  obtain ⟨⟨name, default⟩, isLast, isRest⟩ := takesRest
  obtain rfl : name = "args" := by simpa using isRest
  obtain ⟨others, parts⟩ := List.getLast?_eq_some_iff.mp isLast
  exact ⟨default, by simp [isLeading, parts]⟩

theorem leading_of_no_rest (noRest : procedure.takesRest = false) :
    procedure.leading = procedure.parameters := by
  simp [leading, noRest]

theorem bind?_of_takesRest (takesRest : procedure.takesRest = true) :
    bind? procedure.parameters arguments =
      (fill? procedure.leading arguments).map
        (· ++ [("args", ListText.format (arguments.drop procedure.leading.length))]) := by
  obtain ⟨default, parts⟩ := procedure.exists_rest takesRest
  have last (left : List String) :
      bind? [("args", default)] left = some [("args", ListText.format left)] := by
    cases left <;> simp [bind?]
  rw [parts, bind?_append (by simp)]
  simp only [last, Option.map_some]
  rw [Option.map_eq_bind]
  rfl

theorem bind?_of_no_rest (noRest : procedure.takesRest = false) :
    bind? procedure.parameters arguments =
      (fill? procedure.leading arguments).bind fun values =>
        if arguments.length ≤ procedure.leading.length then some values else none := by
  have apart : ∀ parameter ∈ procedure.parameters.getLast?, parameter.1 ≠ "args" := by
    intro parameter isLast isRest
    rw [Procedure.takesRest, Option.mem_def.mp isLast] at noRest
    simp [isRest] at noRest
  have nothing (left : List String) : bind? [] left = if left = [] then some [] else none := by
    cases left <;> simp [bind?]
  have parts := bind?_append (show [] = [] → _ from fun _ => apart) arguments
  rw [List.append_nil] at parts
  rw [procedure.leading_of_no_rest noRest, parts]
  congr
  funext values
  by_cases noneLeft : arguments.length ≤ procedure.parameters.length
  · simp [nothing, noneLeft]
  · simp [nothing, noneLeft]

/-- The arguments are bound exactly if the procedure accepts them. -/
theorem bind?_isSome_iff :
    (bind? procedure.parameters arguments).isSome = true ↔ procedure.Accepts arguments := by
  have filled := fill?_isSome_iff procedure.leading arguments
  cases takesRest : procedure.takesRest with
  | true =>
      rw [procedure.bind?_of_takesRest arguments takesRest, Option.isSome_map, filled]
      exact ⟨fun defaulted => ⟨defaulted, by simp [takesRest]⟩, Accepts.defaulted⟩
  | false =>
      rw [procedure.bind?_of_no_rest arguments takesRest]
      by_cases noneLeft : arguments.length ≤ procedure.leading.length
      · simp only [noneLeft, if_true, Option.bind_fun_some, filled]
        exact ⟨fun defaulted => ⟨defaulted, fun _ => noneLeft⟩, Accepts.defaulted⟩
      · simp only [noneLeft, if_false, Option.bind_fun_none]
        simp
        exact fun accepts => noneLeft (accepts.noneLeft takesRest)

theorem exists_frame?_iff :
    (∃ frame, procedure.frame? arguments = some frame) ↔ procedure.Accepts arguments := by
  rw [← procedure.bind?_isSome_iff, ← Option.isSome_iff_exists, frame?, Option.isSome_map]

end

/-! ## Frames -/

section

variable {table : Std.TreeMap String String} {values : List (String × String)}

theorem getElem?_enter_of_not_mem
    {name : String}
    (absent : name ∉ values.map Prod.fst) :
    (values.foldl (fun table entry => table.insert entry.1 entry.2) table)[name]? =
      table[name]? := by
  induction values generalizing table with
  | nil => rfl
  | cons entry values inductionHypothesis =>
      rw [List.map_cons, List.mem_cons, not_or] at absent
      rw [List.foldl_cons, inductionHypothesis absent.2, Std.TreeMap.getElem?_insert]
      simp [Ne.symm absent.1]

/-- Of values with different names each is found under its name. -/
theorem getElem?_enter_of_mem
    (distinct : (values.map Prod.fst).Nodup)
    {entry : String × String}
    (member : entry ∈ values) :
    (values.foldl (fun table entry => table.insert entry.1 entry.2) table)[entry.1]? =
      some entry.2 := by
  induction values generalizing table with
  | nil => contradiction
  | cons first values inductionHypothesis =>
      rw [List.map_cons, List.nodup_cons] at distinct
      rw [List.foldl_cons]
      rcases List.mem_cons.mp member with rfl | later
      · rw [getElem?_enter_of_not_mem distinct.1]
        simp
      · exact inductionHypothesis distinct.2 later

end

section

variable {procedure : Procedure} {arguments : List String}

theorem parts_of_bind?
    {values : List (String × String)}
    (bound : bind? procedure.parameters arguments = some values) :
    values.map Prod.fst = procedure.parameters.map Prod.fst ∧
      (procedure.takesRest = true →
        ("args", ListText.format (arguments.drop procedure.leading.length)) ∈ values) ∧
      ∃ filled, fill? procedure.leading arguments = some filled ∧ filled ⊆ values := by
  cases takesRest : procedure.takesRest with
  | true =>
      obtain ⟨default, parts⟩ := procedure.exists_rest takesRest
      rw [procedure.bind?_of_takesRest arguments takesRest, Option.map_eq_some_iff] at bound
      obtain ⟨filled, isFilled, rfl⟩ := bound
      refine ⟨?_, by simp, filled, isFilled, List.subset_append_left _ _⟩
      rw [parts, List.map_append, List.map_append, map_fst_of_fill? isFilled]
      rfl
  | false =>
      rw [procedure.bind?_of_no_rest arguments takesRest, Option.bind_eq_some_iff] at bound
      obtain ⟨filled, isFilled, bound⟩ := bound
      obtain ⟨-, rfl⟩ : _ ∧ filled = values := by simpa using bound
      rw [procedure.leading_of_no_rest takesRest] at isFilled ⊢
      exact ⟨map_fst_of_fill? isFilled, by simp, filled, isFilled, List.Subset.refl _⟩

/-- In a frame of a procedure with different parameters these hold what they are bound to. -/
theorem holds_of_frame?
    (distinct : (procedure.parameters.map Prod.fst).Nodup)
    {frame : Frame}
    (entered : procedure.frame? arguments = some frame) :
    procedure.Holds arguments frame := by
  obtain ⟨values, bound, rfl⟩ := Option.map_eq_some_iff.mp entered
  obtain ⟨names, rest, filled, isFilled, included⟩ := parts_of_bind? bound
  rw [← names] at distinct
  constructor
  · intro index parameter found
    obtain ⟨value, isValue, member⟩ := mem_of_fill? isFilled found
    rw [isValue]
    exact getElem?_enter_of_mem distinct (included member)
  · intro takesRest
    exact ⟨_, getElem?_enter_of_mem distinct (rest takesRest), ListText.parse_format _⟩
  · intro name absent
    rw [← names] at absent
    rw [getElem?_enter_of_not_mem absent]
    exact Std.TreeMap.getElem?_emptyc
  · rfl

/-- In the body a parameter is read under its name, unless the name is that of a global variable. -/
theorem Holds.valueOf?_pushed
    {frame : Frame}
    (holds : procedure.Holds arguments frame)
    (machine : Machine Key Host)
    {name : String}
    (isLocal : Name.isQualified name = false) :
    (machine.pushed frame).valueOf? name = frame.locals[name]? := by
  simp [Machine.valueOf?, Machine.pushed, Machine.withFrames, Machine.withStore,
    VariableStore.get?, VariableStore.globalKey?, isLocal, holds.declared]

end

end Procedure

/-! ## Definitions -/

namespace Commands

/-- A parameter as the command that defines procedures takes it. -/
def specifier : Procedure.Parameter → String
  | (name, none) => ListText.format [name]
  | (name, some default) => ListText.format [name, default]

theorem parameterOf_specifier (parameter : Procedure.Parameter) :
    (parameterOf (specifier parameter) : Action Key Host Procedure.Parameter) =
      pure parameter := by
  obtain ⟨name, default⟩ := parameter
  cases default <;> rw [parameterOf, specifier, Action.listOf, ListText.parse_format] <;> rfl

theorem mapM_parameterOf (parameters : List Procedure.Parameter) :
    ((parameters.map specifier).mapM parameterOf : Action Key Host (List Procedure.Parameter)) =
      pure parameters := by
  induction parameters with
  | nil => rfl
  | cons parameter parameters inductionHypothesis =>
      rw [List.map_cons, List.mapM_cons, parameterOf_specifier, inductionHypothesis]
      simp

/-- All parameters can be given to a procedure. -/
theorem run_proc
    (eval : Evaluator Key Host)
    (name body : String)
    (parameters : List Procedure.Parameter)
    (machine : Machine Key Host) :
    (proc eval [name, ListText.format (parameters.map specifier), body]).run.run machine =
      (.ok "", machine.define eval.release name (.procedure ⟨parameters, body⟩)) := by
  rw [proc, Action.listOf, ListText.parse_format, Action.orFail, pure_bind, mapM_parameterOf]
  rfl

end Commands

theorem command?_define
    (machine : Machine Key Host)
    (release : Release Key Host)
    (name : String)
    (command : Command Key) :
    (machine.define release name command).interp.command? name = some command := by
  rw [Machine.define, Machine.interp_released, Interp.command?]
  exact Std.TreeMap.getElem?_insert_self

/-! ## Main statement -/

theorem run_call_of_refused
    {procedure : Procedure}
    {arguments : List String}
    (refused : procedure.frame? arguments = none)
    (eval : Evaluator Key Host)
    (name : String)
    (machine : Machine Key Host) :
    (procedure.call eval name arguments).run.run machine =
      (.error (.error ("wrong # args: should be \"" ++ procedure.usage name ++ "\"")),
        machine) := by
  rw [Procedure.call, refused]
  rfl

/-- A procedure can be defined with any parameters. If these have different names, a call that the
procedure accepts evaluates the body in a new frame where the parameters hold their values, to be
read under their names; any other call is refused with the usage of the procedure and changes
nothing. A command that names the procedure makes such a call one level deeper. -/
theorem procedure_calls_bind_parameters
    (procedure : Procedure)
    (distinct : (procedure.parameters.map Prod.fst).Nodup)
    (host : HostCommands Key Host)
    (eval : Evaluator Key Host)
    (name : String) :
    (∀ machine : Machine Key Host, ∃ defined,
        (Commands.proc eval [name, ListText.format (procedure.parameters.map Commands.specifier),
          procedure.body]).run.run machine = (.ok "", defined) ∧
        defined.interp.command? name = some (.procedure procedure)) ∧
      ∀ (machine : Machine Key Host) (arguments : List String),
        let called := (procedure.call eval name arguments).run.run machine
        (procedure.Accepts arguments → ∃ frame, procedure.Holds arguments frame ∧
          let body := (eval.script procedure.body).run.run (machine.pushed frame)
          called = (callOutcome body.1, body.2.popped) ∧
            ∀ key, Name.isQualified key = false →
              (machine.pushed frame).valueOf? key = frame.locals[key]?) ∧
        (¬procedure.Accepts arguments →
          called = (.error (.error ("wrong # args: should be \"" ++ procedure.usage name ++ "\"")),
            machine)) ∧
        (machine.interp.command? name = some (.procedure procedure) →
          machine.interp.depth < maxDepth →
            let deeper := (procedure.call eval name arguments).run.run
              (machine.atDepth (machine.interp.depth + 1))
            (invoke host eval name arguments).run.run machine =
              (deeper.1, deeper.2.atDepth machine.interp.depth)) := by
  refine ⟨fun machine => ?_, fun machine arguments => ⟨fun accepts => ?_, fun refused => ?_, ?_⟩⟩
  · exact ⟨_, Commands.run_proc eval name procedure.body procedure.parameters machine,
      command?_define machine _ name _⟩
  · obtain ⟨frame, fits⟩ := (procedure.exists_frame?_iff arguments).mpr accepts
    have holds := Procedure.holds_of_frame? distinct fits
    exact ⟨frame, holds, run_call fits name machine,
      fun key isLocal => holds.valueOf?_pushed machine isLocal⟩
  · have unbound : procedure.frame? arguments = none := by
      rw [Option.eq_none_iff_forall_ne_some]
      exact fun frame fits => refused ((procedure.exists_frame?_iff arguments).mp ⟨frame, fits⟩)
    exact run_call_of_refused unbound eval name machine
  · exact fun known shallow => run_invoke known shallow arguments

/-- A parameter with a default and one for the rest, called with one argument and with none. -/
theorem procedure_calls_bind_parameters_of_default :
    let procedure : Procedure := ⟨[("a", none), ("b", some "10"), ("args", none)], "list $a $b"⟩
    let host : HostCommands Nat Unit := ⟨fun _ _ _ => throw .unfinished, fun _ host => host⟩
    let machine : Machine Nat Unit :=
      ⟨{ commands := .ofList [("add", Command.procedure procedure)] }, {}, 0, ()⟩
    (∃ frame : Frame, frame.locals["a"]? = some "1" ∧ frame.locals["b"]? = some "10" ∧
        (machine.pushed frame).valueOf? "b" = some "10" ∧
        ∃ rest, frame.locals["args"]? = some rest ∧ ListText.parse rest = .ok []) ∧
      (invoke host (evaluator host 1) "add" []).run.run machine =
        (.error (.error "wrong # args: should be \"add a ?b? ?arg ...?\""), machine) := by
  intro procedure host machine
  have distinct : (procedure.parameters.map Prod.fst).Nodup := by decide
  have known : machine.interp.command? "add" = some (.procedure procedure) := rfl
  have calls := (procedure_calls_bind_parameters procedure distinct host (evaluator host 1) "add").2
  have accepts : procedure.Accepts ["1"] := by
    rw [← procedure.bind?_isSome_iff]
    rfl
  have refuses : ¬procedure.Accepts [] := by
    rw [← procedure.bind?_isSome_iff]
    exact Bool.false_ne_true
  obtain ⟨frame, holds, -, read⟩ := (calls machine ["1"]).1 accepts
  have value := holds.values 1 ("b", some "10") rfl
  refine ⟨⟨frame, holds.values 0 ("a", none) rfl, value, ?_, ?_⟩, ?_⟩
  · exact (read "b" (by decide)).trans value
  · exact holds.rest (by decide)
  · rw [(calls machine []).2.2 known (by decide), (calls (machine.atDepth 1) []).2.1 refuses]
    rfl

end ScriptBridge
