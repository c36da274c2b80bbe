import Mathlib.Algebra.Ring.Parity
import Mathlib.Computability.Language
import Mathlib.Data.List.DropRight
import Mathlib.Data.List.Nodup
import ScriptBridge.Proofs.Interp.Evaluation

/-!
# The texts of glob patterns

A pattern is a sequence of parts. It matches the texts that can be divided into passages, one for
each of its parts in order, so that the texts of two patterns one behind the other are those of the
first followed by those of the second. This fails only for a first pattern that ends with a
backslash without a partner, which would be paired with what follows. With a backslash in front of
each special character a text is the pattern of itself alone.
-/

namespace ScriptBridge.Glob

/-! ## Parts -/

inductive Part where
  | anyText
  | anyChar
  | letter (c : Char)

/-- The texts of one character that is accepted. -/
def singles (accepted : Char → Prop) : Language Char :=
  {text | ∃ c, accepted c ∧ text = [c]}

def Part.texts : Part → Language Char
  | anyText => ⊤
  | anyChar => singles fun _ => True
  | letter c => singles (· = c)

/-- The parts of a pattern. A backslash at its end stands for itself. -/
def parts : List Char → List Part
  | [] => []
  | '*' :: pattern => .anyText :: parts pattern
  | '?' :: pattern => .anyChar :: parts pattern
  | '\\' :: c :: pattern => .letter c :: parts pattern
  | c :: pattern => .letter c :: parts pattern

/-- The texts that can be divided into passages, one for each of the parts in order. -/
def textsOf (parts : List Part) : Language Char :=
  (parts.map Part.texts).prod

theorem textsOf_cons (part : Part) (parts : List Part) :
    textsOf (part :: parts) = part.texts * textsOf parts := by
  rw [textsOf, List.map_cons, List.prod_cons, ← textsOf]

theorem textsOf_append (first second : List Part) :
    textsOf (first ++ second) = textsOf first * textsOf second := by
  rw [textsOf, List.map_append, List.prod_append, ← textsOf, ← textsOf]

theorem nil_notMem_singles_mul (accepted : Char → Prop) (rest : Language Char) :
    [] ∉ singles accepted * rest := by
  rw [Language.mem_mul]
  rintro ⟨_, ⟨c, -, rfl⟩, after, -, equality⟩
  cases equality

theorem cons_mem_singles_mul
    {accepted : Char → Prop}
    {rest : Language Char}
    (c : Char)
    (text : List Char) :
    c :: text ∈ singles accepted * rest ↔ accepted c ∧ text ∈ rest := by
  rw [Language.mem_mul]
  constructor
  · rintro ⟨_, ⟨first, isAccepted, rfl⟩, after, member, equality⟩
    obtain ⟨rfl, rfl⟩ := List.cons.inj equality
    exact ⟨isAccepted, member⟩
  · rintro ⟨isAccepted, member⟩
    exact ⟨[c], ⟨c, isAccepted, rfl⟩, text, member, rfl⟩

theorem mem_anyText_mul (rest : Language Char) (text : List Char) :
    text ∈ Part.anyText.texts * rest ↔ ∃ before after, before ++ after = text ∧ after ∈ rest := by
  rw [Language.mem_mul]
  constructor
  · rintro ⟨before, -, after, member, equality⟩
    exact ⟨before, after, equality, member⟩
  · rintro ⟨before, after, equality, member⟩
    exact ⟨before, trivial, after, member, equality⟩

/-! ## Matching -/

theorem anySuffix_eq_true_iff (test : List Char → Bool) (text : List Char) :
    anySuffix test text = true ↔ ∃ before after, before ++ after = text ∧ test after = true := by
  induction text with
  | nil => simp [anySuffix]
  | cons c text inductionHypothesis =>
      rw [anySuffix, Bool.or_eq_true, inductionHypothesis]
      constructor
      · rintro (passes | ⟨before, after, rfl, passes⟩)
        · exact ⟨[], c :: text, rfl, passes⟩
        · exact ⟨c :: before, after, rfl, passes⟩
      · rintro ⟨before, after, equality, passes⟩
        cases before with
        | nil => exact .inl (equality ▸ passes)
        | cons first before =>
            obtain ⟨rfl, rfl⟩ := List.cons.inj equality
            exact .inr ⟨before, after, rfl, passes⟩

/-- A test that takes one character and leaves the others to what follows. -/
theorem eq_true_iff_mem_singles_mul
    {test : List Char → Bool}
    {accepted : Char → Prop}
    {rest : Language Char}
    (atEnd : test [] = false)
    (step : ∀ c text, test (c :: text) = true ↔ accepted c ∧ text ∈ rest)
    (text : List Char) :
    test text = true ↔ text ∈ singles accepted * rest := by
  cases text with
  | nil =>
      rw [atEnd]
      exact iff_of_false Bool.false_ne_true (nil_notMem_singles_mul accepted rest)
  | cons c text => rw [step, cons_mem_singles_mul]

/-- A pattern matches the texts of its parts. -/
theorem matchesChars_iff_mem (pattern text : List Char) :
    matchesChars pattern text = true ↔ text ∈ textsOf (parts pattern) := by
  fun_induction parts pattern generalizing text with
  | case1 => simp [matchesChars, textsOf]
  | case2 pattern inductionHypothesis =>
      rw [textsOf_cons, mem_anyText_mul, matchesChars, anySuffix_eq_true_iff]
      simp only [inductionHypothesis]
  | case3 pattern inductionHypothesis =>
      rw [textsOf_cons, Part.texts]
      apply eq_true_iff_mem_singles_mul
      · rfl
      · simp [matchesChars, inductionHypothesis]
  | case4 c pattern inductionHypothesis =>
      rw [textsOf_cons, Part.texts]
      apply eq_true_iff_mem_singles_mul
      · rfl
      · simp [matchesChars, inductionHypothesis]
  | case5 c pattern notStar notQuestion notPaired inductionHypothesis =>
      rw [textsOf_cons, Part.texts]
      apply eq_true_iff_mem_singles_mul
      · simp [matchesChars]
      · simp [matchesChars, inductionHypothesis]

/-! ## Backslashes without a partner -/

/-- Whether the backslashes at the end of a pattern are odd in number, so that the last one escapes
nothing. -/
def EndsUnpaired (pattern : List Char) : Prop :=
  Odd (pattern.rtakeWhile (· = '\\')).length

instance (pattern : List Char) : Decidable (EndsUnpaired pattern) :=
  inferInstanceAs (Decidable (Odd _))

theorem not_endsUnpaired_nil : ¬EndsUnpaired [] := by
  decide

theorem endsUnpaired_concat_backslash (pattern : List Char) :
    EndsUnpaired (pattern ++ ['\\']) ↔ ¬EndsUnpaired pattern := by
  unfold EndsUnpaired
  rw [List.rtakeWhile_concat_pos _ _ _ (by decide), List.length_append, List.length_singleton,
    Nat.odd_add_one]

theorem not_endsUnpaired_concat {last : Char} (plain : last ≠ '\\') (pattern : List Char) :
    ¬EndsUnpaired (pattern ++ [last]) := by
  unfold EndsUnpaired
  rw [List.rtakeWhile_concat_neg _ _ _ (by simpa using plain)]
  decide

theorem EndsUnpaired.exists_concat {pattern : List Char} (unpaired : EndsUnpaired pattern) :
    ∃ before, pattern = before ++ ['\\'] ∧ ¬EndsUnpaired before := by
  cases pattern using List.reverseRecOn with
  | nil => exact absurd unpaired not_endsUnpaired_nil
  | append_singleton before last =>
      by_cases isBackslash : last = '\\'
      · subst isBackslash
        exact ⟨before, rfl, (endsUnpaired_concat_backslash before).mp unpaired⟩
      · exact absurd unpaired (not_endsUnpaired_concat isBackslash before)

/-- What ends with all backslashes paired does not change the pairs behind it. -/
theorem endsUnpaired_append_iff
    {front : List Char}
    (paired : ¬EndsUnpaired front)
    (pattern : List Char) :
    EndsUnpaired (front ++ pattern) ↔ EndsUnpaired pattern := by
  -- from the end, where the backslashes are counted
  induction pattern using List.reverseRecOn with
  | nil =>
      rw [List.append_nil]
      exact iff_of_false paired not_endsUnpaired_nil
  | append_singleton before last inductionHypothesis =>
      rw [← List.append_assoc]
      by_cases isBackslash : last = '\\'
      · subst isBackslash
        rw [endsUnpaired_concat_backslash, endsUnpaired_concat_backslash, inductionHypothesis]
      · exact iff_of_false (not_endsUnpaired_concat isBackslash _)
          (not_endsUnpaired_concat isBackslash _)

theorem endsUnpaired_cons_iff {c : Char} (plain : c ≠ '\\') (pattern : List Char) :
    EndsUnpaired (c :: pattern) ↔ EndsUnpaired pattern :=
  endsUnpaired_append_iff (not_endsUnpaired_concat plain []) pattern

theorem endsUnpaired_escaped_iff (c : Char) (pattern : List Char) :
    EndsUnpaired ('\\' :: c :: pattern) ↔ EndsUnpaired pattern := by
  have paired : ¬EndsUnpaired ['\\', c] := by
    by_cases isBackslash : c = '\\'
    · subst isBackslash
      decide
    · exact not_endsUnpaired_concat isBackslash ['\\']
  exact endsUnpaired_append_iff paired pattern

theorem parts_append
    {pattern : List Char}
    (paired : ¬EndsUnpaired pattern)
    (rest : List Char) :
    parts (pattern ++ rest) = parts pattern ++ parts rest := by
  fun_induction parts pattern with
  | case1 => rfl
  | case2 pattern inductionHypothesis =>
      rw [endsUnpaired_cons_iff (by decide)] at paired
      rw [List.cons_append, parts, inductionHypothesis paired, List.cons_append]
  | case3 pattern inductionHypothesis =>
      rw [endsUnpaired_cons_iff (by decide)] at paired
      rw [List.cons_append, parts, inductionHypothesis paired, List.cons_append]
  | case4 c pattern inductionHypothesis =>
      rw [endsUnpaired_escaped_iff] at paired
      rw [List.cons_append, List.cons_append, parts, inductionHypothesis paired, List.cons_append]
  | case5 c pattern notStar notQuestion notPaired inductionHypothesis =>
      -- A backslash is a part of its own only if it is the last character, without a partner.
      have plain : c ≠ '\\' := by
        rintro rfl
        cases pattern with
        | nil => exact paired (by decide)
        | cons c pattern => exact notPaired c pattern rfl rfl
      rw [endsUnpaired_cons_iff plain] at paired
      rw [List.cons_append, parts, inductionHypothesis paired, List.cons_append]
      · exact notStar
      · exact notQuestion
      · exact fun _ _ isBackslash => absurd isBackslash plain

/-! ## Escaped texts -/

def isSpecial (c : Char) : Bool :=
  c = '*' || c = '?' || c = '\\'

/-- A text with a backslash in front of each special character. -/
def escapedChars (text : List Char) : List Char :=
  text.flatMap fun c => if isSpecial c then ['\\', c] else [c]

def escaped (text : String) : String :=
  String.ofList (escapedChars text.toList)

/-- A character of an escaped text that is no backslash stands for itself. -/
theorem exists_of_escapedChars_eq_cons
    {text rest : List Char}
    {c : Char}
    (plain : c ≠ '\\')
    (equality : escapedChars text = c :: rest) :
    ∃ others, text = c :: others ∧ escapedChars others = rest := by
  cases text with
  | nil => cases equality
  | cons first others =>
      rw [escapedChars, List.flatMap_cons, ← escapedChars] at equality
      split at equality
      · exact absurd (List.cons.inj equality).1.symm plain
      · obtain ⟨rfl, same⟩ := List.cons.inj equality
        exact ⟨others, rfl, same⟩

theorem parts_escapedChars (text : List Char) : parts (escapedChars text) = text.map .letter := by
  induction text with
  | nil => rfl
  | cons c text inductionHypothesis =>
      rw [escapedChars, List.flatMap_cons, ← escapedChars, List.map_cons]
      by_cases special : isSpecial c = true
      · rw [if_pos special, List.cons_append, List.singleton_append, parts, inductionHypothesis]
      · rw [if_neg special]
        simp only [isSpecial, Bool.or_eq_true, decide_eq_true_eq, not_or] at special
        obtain ⟨⟨notStar, notQuestion⟩, notBackslash⟩ := special
        rw [List.singleton_append, parts, inductionHypothesis]
        · exact notStar
        · exact notQuestion
        · exact fun _ _ isBackslash => absurd isBackslash notBackslash

theorem mem_textsOf_letters (text other : List Char) :
    other ∈ textsOf (text.map .letter) ↔ other = text := by
  induction text generalizing other with
  | nil => rfl
  | cons c text inductionHypothesis =>
      rw [List.map_cons, textsOf_cons, Part.texts]
      cases other with
      | nil => simp [nil_notMem_singles_mul]
      | cons first other => rw [cons_mem_singles_mul, inductionHypothesis, List.cons.injEq]

theorem matchesChars_escapedChars_iff (text other : List Char) :
    matchesChars (escapedChars text) other = true ↔ other = text := by
  rw [matchesChars_iff_mem, parts_escapedChars, mem_textsOf_letters]

/-- A text with a backslash in front of each special character matches itself alone. -/
theorem matchesText_escaped_iff (text other : String) :
    matchesText (escaped text) other = true ↔ other = text := by
  rw [matchesText, escaped, String.toList_ofList, matchesChars_escapedChars_iff, String.toList_inj]

/-! ## Patterns one behind the other -/

theorem matchesChars_append_iff
    {pattern : List Char}
    (paired : ¬EndsUnpaired pattern)
    (rest text : List Char) :
    matchesChars (pattern ++ rest) text = true ↔
      ∃ before after, before ++ after = text ∧
        matchesChars pattern before = true ∧ matchesChars rest after = true := by
  simp only [matchesChars_iff_mem]
  rw [parts_append paired, textsOf_append, Language.mem_mul]
  constructor
  · rintro ⟨before, inFirst, after, inSecond, equality⟩
    exact ⟨before, after, equality, inFirst, inSecond⟩
  · rintro ⟨before, after, equality, inFirst, inSecond⟩
    exact ⟨before, inFirst, after, inSecond, equality⟩

theorem exists_mem_textsOf (parts : List Part) : ∃ text, text ∈ textsOf parts := by
  induction parts with
  | nil => exact ⟨[], rfl⟩
  | cons part parts inductionHypothesis =>
      have inhabited : ∃ text, text ∈ part.texts := by
        cases part with
        | anyText => exact ⟨[], trivial⟩
        | anyChar => exact ⟨['a'], 'a', trivial, rfl⟩
        | letter c => exact ⟨[c], c, rfl, rfl⟩
      obtain ⟨before, inPart⟩ := inhabited
      obtain ⟨after, inParts⟩ := inductionHypothesis
      rw [textsOf_cons]
      exact ⟨before ++ after, Language.append_mem_mul inPart inParts⟩

/-- A question mark behind an unpaired backslash does not stand for other characters any more. -/
theorem EndsUnpaired.exists_refused {pattern : List Char} (unpaired : EndsUnpaired pattern) :
    ∃ before, matchesChars pattern before = true ∧
      matchesChars (pattern ++ ['?']) (before ++ ['a']) = false := by
  obtain ⟨front, rfl, paired⟩ := unpaired.exists_concat
  obtain ⟨text, member⟩ := exists_mem_textsOf (parts front)
  refine ⟨text ++ ['\\'], ?_, ?_⟩
  · rw [matchesChars_append_iff paired]
    exact ⟨text, ['\\'], rfl, (matchesChars_iff_mem front text).mpr member, by decide⟩
  · rw [← Bool.not_eq_true, List.append_assoc, matchesChars_append_iff paired]
    -- The passage behind the front would have to be a question mark, but an `a` is last.
    rintro ⟨before, after, equality, -, afterMatches⟩
    obtain rfl := (matchesChars_escapedChars_iff ['?'] after).mp afterMatches
    have sameEnd : ['?'] = ['a'] := List.append_inj_right' equality rfl
    exact absurd sameEnd (by decide)

end ScriptBridge.Glob

namespace ScriptBridge

/-! ## Names as patterns -/

open Glob

theorem Name.key_key (name : String) : key (key name) = key name := by
  have unqualified (cs : List Char) : dropQualifier (dropQualifier cs) = dropQualifier cs := by
    fun_induction dropQualifier cs with
    | case1 rest inductionHypothesis => exact inductionHypothesis
    | case2 cs simple => rw [dropQualifier.eq_2 cs simple]
  rw [key, key, String.toList_ofList, unqualified]

/-- Colons are not special. -/
theorem Name.key_escaped (name : String) : key (escaped name) = escaped (key name) := by
  have unqualified (cs : List Char) :
      dropQualifier (escapedChars cs) = escapedChars (dropQualifier cs) := by
    fun_induction dropQualifier cs with
    | case1 rest inductionHypothesis => exact inductionHypothesis
    | case2 cs simple =>
        rw [dropQualifier.eq_2]
        intro rest starts
        obtain ⟨behind, rfl, startsAgain⟩ := exists_of_escapedChars_eq_cons (by decide) starts
        obtain ⟨others, rfl, -⟩ := exists_of_escapedChars_eq_cons (by decide) startsAgain
        exact simple others rfl
  unfold key escaped
  rw [String.toList_ofList, String.toList_ofList, unqualified]

namespace Interp

variable {Key : Type} (interp : Interp Key) {name : String}

theorem isProcedure_key : interp.isProcedure (Name.key name) = interp.isProcedure name := by
  unfold isProcedure command?
  rw [Name.key_key]

theorem key_mem_commandNames_iff :
    Name.key name ∈ interp.commandNames ↔ (interp.command? name).isSome = true := by
  rw [commandNames, Std.TreeMap.mem_keys, Std.TreeMap.mem_iff_isSome_getElem?, command?]

theorem nodup_commandNames : interp.commandNames.Nodup :=
  interp.commands.nodup_keys

end Interp

namespace Commands

variable {Key Host : Type}

/-- The pattern made of a name lists no other command. -/
theorem matchingNames_escaped (interp : Interp Key) (procedures : Bool) (name : String) :
    matchingNames interp procedures (some (escaped name)) =
      if (interp.command? name).isSome && (!procedures || interp.isProcedure name) then
        [Name.key name]
      else [] := by
  have listed (other : String) :
      ((some (escaped name)).all (fun pattern => matchesText (Name.key pattern) other) &&
        (!procedures || interp.isProcedure other)) =
      (other == Name.key name && (!procedures || interp.isProcedure name)) := by
    rw [Option.all_some, Name.key_escaped]
    by_cases same : other = Name.key name
    · subst same
      rw [(matchesText_escaped_iff _ _).mpr rfl, interp.isProcedure_key, beq_self_eq_true]
    · rw [Bool.eq_false_iff.mpr (mt (matchesText_escaped_iff _ _).mp same),
        beq_eq_false_iff_ne.mpr same]
      rfl
  unfold matchingNames
  simp only [listed]
  cases !procedures || interp.isProcedure name with
  | false => simp
  | true =>
      have listedOnce := (interp.nodup_commandNames).count (a := Name.key name)
      simp only [Bool.and_true]
      rw [List.filter_beq, listedOnce]
      by_cases present : (interp.command? name).isSome = true
      · rw [if_pos (interp.key_mem_commandNames_iff.mpr present), if_pos present,
          List.replicate_one]
      · rw [if_neg (mt interp.key_mem_commandNames_iff.mp present), if_neg present,
          List.replicate_zero]

/-- Asking for a command by the pattern made of its name gives this name alone, or nothing if there
is no such command; and so for procedures. -/
theorem run_invoke_info_escaped
    {machine : Machine Key Host}
    (known : machine.interp.command? "info" = some (.builtin .info))
    (shallow : machine.interp.depth < maxDepth)
    (host : HostCommands Key Host)
    (eval : Evaluator Key Host)
    (name : String) :
    let listed (kind : String) := (invoke host eval "info" [kind, escaped name]).run.run machine
    let listing (present : Bool) :=
      ListText.format (if present then [Name.key name] else [])
    listed "commands" = (.ok (listing (machine.interp.command? name).isSome), machine) ∧
      listed "procs" = (.ok (listing (machine.interp.isProcedure name)), machine) := by
  intro listed listing
  have commands := matchingNames_escaped machine.interp false name
  have procedures := matchingNames_escaped machine.interp true name
  constructor
  · simp only [Bool.not_false, Bool.true_or, Bool.and_true] at commands
    show _ = (Except.ok (ListText.format _), machine)
    rw [← commands]
    exact run_invoke known shallow _
  · have isCommand : ((machine.interp.command? name).isSome && machine.interp.isProcedure name) =
        machine.interp.isProcedure name := by
      rw [Interp.isProcedure]
      cases machine.interp.command? name <;> rfl
    simp only [Bool.not_true, Bool.false_or, isCommand] at procedures
    show _ = (Except.ok (ListText.format _), machine)
    rw [← procedures]
    exact run_invoke known shallow _

end Commands

/-! ## Main statement -/

/-- Whatever follows a pattern, the two match the texts of the first followed by those of the
second, if and only if the first does not end with an unpaired backslash. With a backslash in front
of each special character a text is the pattern of itself alone. -/
theorem Glob.patterns_compose :
    (∀ pattern : String, ¬EndsUnpaired pattern.toList ↔
      ∀ rest text : String, (matchesText (pattern ++ rest) text = true ↔
        ∃ before after, before ++ after = text ∧
          matchesText pattern before = true ∧ matchesText rest after = true)) ∧
      ∀ text other : String, matchesText (escaped text) other = true ↔ other = text := by
  refine ⟨fun pattern => ⟨fun paired rest text => ?_, fun composes unpaired => ?_⟩,
    matchesText_escaped_iff⟩
  · unfold matchesText
    rw [String.toList_append, matchesChars_append_iff paired]
    constructor
    · rintro ⟨before, after, equality, inFirst, inSecond⟩
      refine ⟨String.ofList before, String.ofList after, ?_, ?_, ?_⟩
      · rw [← String.ofList_append, equality, String.ofList_toList]
      · rwa [String.toList_ofList]
      · rwa [String.toList_ofList]
    · rintro ⟨before, after, equality, inFirst, inSecond⟩
      exact ⟨before.toList, after.toList, by rw [← String.toList_append, equality], inFirst,
        inSecond⟩
  · obtain ⟨before, inPattern, refused⟩ := unpaired.exists_refused
    have both := (composes "?" (String.ofList before ++ "a")).mpr
      ⟨String.ofList before, "a", rfl, by rwa [matchesText, String.toList_ofList], by decide⟩
    have characters : (String.ofList before ++ "a").toList = before ++ ['a'] := by
      rw [String.toList_append, String.toList_ofList]
      rfl
    rw [matchesText, characters, String.toList_append] at both
    exact absurd both (Bool.eq_false_iff.mp refused)

/-- Behind an unpaired backslash a question mark stands for itself. -/
example :
    Glob.matchesText "\\" "\\" = true ∧ Glob.matchesText "?" "a" = true ∧
      Glob.matchesText ("\\" ++ "?") "\\a" = false := by
  decide

end ScriptBridge
