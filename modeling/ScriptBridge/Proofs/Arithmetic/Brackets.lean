import ScriptBridge.Arithmetic.Token
import ScriptBridge.Proofs.Script.Passages

/-!
# Command substitutions in formulas

Where a formula has a command substitution, its end is found by counting brackets. The reader of
scripts finds the same end if and only if the brackets of the script are balanced. They are if they
are balanced in each stretch of it in which the reader of scripts does not look at them.
-/

namespace ScriptBridge.Arithmetic

open Text

/-! ## Balanced texts -/

/-- A character that counting brackets passes over. -/
def Uncounted (c : Char) : Prop :=
  c ≠ '\\' ∧ c ≠ '[' ∧ c ≠ ']'

instance (c : Char) : Decidable (Uncounted c) :=
  inferInstanceAs (Decidable (_ ∧ _))

/-- Each bracket has its partner. A backslash keeps the character behind it from counting. -/
inductive Balanced : List Char → Prop where
  | nil : Balanced []
  | char {c : Char} {rest : List Char} : Uncounted c → Balanced rest → Balanced (c :: rest)
  | escape {c : Char} {rest : List Char} : Balanced rest → Balanced ('\\' :: c :: rest)
  | group {inside rest : List Char} :
      Balanced inside → Balanced rest → Balanced ('[' :: (inside ++ ']' :: rest))

namespace Balanced

theorem append
    {first second : List Char}
    (balanced : Balanced first)
    (other : Balanced second) :
    Balanced (first ++ second) := by
  induction balanced with
  | nil => exact other
  | char uncounted _ inductionHypothesis => exact .char uncounted inductionHypothesis
  | escape _ inductionHypothesis => exact .escape inductionHypothesis
  | @group inside rest balanced _ _ inductionHypothesis =>
      have whole : '[' :: (inside ++ ']' :: rest) ++ second =
          '[' :: (inside ++ ']' :: (rest ++ second)) := by simp
      rw [whole]
      exact .group balanced inductionHypothesis

theorem of_uncounted
    {text : List Char}
    (uncounted : ∀ c ∈ text, Uncounted c) :
    Balanced text := by
  induction text with
  | nil => exact .nil
  | cons c text inductionHypothesis =>
      exact .char (uncounted c List.mem_cons_self) <|
        inductionHypothesis fun other member => uncounted other (List.mem_cons_of_mem c member)

end Balanced

/-! ## Counting brackets -/

/-- The text in front of the bracket that closes the outermost of `depth + 1` open ones, and that
bracket, where the texts between the closing brackets are balanced. -/
inductive Closes : Nat → List Char → Prop where
  | last {body : List Char} : Balanced body → Closes 0 (body ++ [']'])
  | next {depth : Nat} {body rest : List Char} :
      Balanced body → Closes depth rest → Closes (depth + 1) (body ++ ']' :: rest)

theorem Closes.prepend
    {depth : Nat}
    {front inside : List Char}
    (balanced : Balanced front)
    (closes : Closes depth inside) :
    Closes depth (front ++ inside) := by
  cases closes with
  | last body =>
      rw [← List.append_assoc]
      exact .last (balanced.append body)
  | next body rest =>
      rw [← List.append_assoc]
      exact .next (balanced.append body) rest

theorem closes_of_splitBracketed
    {depth : Nat}
    {cs inside after : List Char}
    (split : Token.splitBracketed depth cs = some (inside, after)) :
    Closes depth inside := by
  fun_induction Token.splitBracketed depth cs generalizing inside after with
  | case1 => cases split
  | case2 => cases split
  | case3 depth c rest inductionHypothesis =>
      obtain ⟨⟨inner, outer⟩, found, equality⟩ := Option.map_eq_some_iff.mp split
      cases equality
      exact (inductionHypothesis found).prepend (.escape .nil)
  | case4 depth rest inductionHypothesis =>
      obtain ⟨⟨inner, outer⟩, found, equality⟩ := Option.map_eq_some_iff.mp split
      cases equality
      cases inductionHypothesis found with
      | @next _ body rest balanced closes =>
          have whole : '[' :: (body ++ ']' :: rest) = ('[' :: (body ++ [']'])) ++ rest := by simp
          rw [whole]
          exact closes.prepend (.group balanced .nil)
  | case5 rest =>
      cases split
      exact .last .nil
  | case6 rest depth inductionHypothesis =>
      obtain ⟨⟨inner, outer⟩, found, equality⟩ := Option.map_eq_some_iff.mp split
      cases equality
      exact .next .nil (inductionHypothesis found)
  | case7 depth c rest notLast notEscape notOpen notClose inductionHypothesis =>
      obtain ⟨⟨inner, outer⟩, found, equality⟩ := Option.map_eq_some_iff.mp split
      cases equality
      have uncounted : Uncounted c := ⟨ne_backslash notLast notEscape, notOpen, notClose⟩
      exact (inductionHypothesis found).prepend (.char uncounted .nil)

/-- Counting goes on behind a balanced text as it was in front of it. -/
theorem splitBracketed_append
    {body : List Char}
    (balanced : Balanced body)
    (depth : Nat)
    (rest : List Char) :
    Token.splitBracketed depth (body ++ rest) =
      (Token.splitBracketed depth rest).map fun (inside, after) => (body ++ inside, after) := by
  induction balanced generalizing depth rest with
  | nil => simp
  | @char c body uncounted _ inductionHypothesis =>
      obtain ⟨notBackslash, notOpen, notClose⟩ := uncounted
      rw [List.cons_append, Token.splitBracketed, inductionHypothesis, Option.map_map]
      · rfl
      · exact fun equality _ => notBackslash equality
      · exact fun _ _ equality _ => notBackslash equality
      · exact notOpen
      · exact notClose
  | @escape c body _ inductionHypothesis =>
      rw [List.cons_append, List.cons_append, Token.splitBracketed, inductionHypothesis,
        Option.map_map]
      rfl
  | @group inside body _ _ insideHypothesis inductionHypothesis =>
      have whole : '[' :: (inside ++ ']' :: body) ++ rest =
          '[' :: (inside ++ ']' :: (body ++ rest)) := by simp
      rw [whole, Token.splitBracketed, insideHypothesis, Token.splitBracketed,
        inductionHypothesis, Option.map_map, Option.map_map, Option.map_map]
      simp [Function.comp_def]

theorem splitBracketed_iff
    {body after : List Char} :
    Token.splitBracketed 0 (body ++ ']' :: after) = some (body ++ [']'], after) ↔
      Balanced body := by
  constructor
  · intro split
    generalize same : body ++ [']'] = inside at split
    cases closes_of_splitBracketed split with
    | last balanced =>
        obtain ⟨rfl, -⟩ := List.append_inj' same rfl
        exact balanced
  · intro balanced
    rw [splitBracketed_append balanced]
    rfl

theorem operand_source_iff
    {fault : ScanFault}
    {start inside after : List Char}
    {split : Option (List Char × List Char)} :
    Token.operand .source fault start split =
        .ok (.source (String.ofList (start ++ inside)), after) ↔
      split = some (inside, after) := by
  cases split with
  | none => simp [Token.operand]
  | some parts => simp [Token.operand, Prod.ext_iff, String.ofList_inj]

/-! ## Scripts between brackets -/

/-- A class of characters with neither brackets nor the backslash. -/
theorem uncounted_of_test
    {test : Char → Bool}
    (apart : test '\\' = false ∧ test '[' = false ∧ test ']' = false)
    {c : Char}
    (inClass : test c = true) :
    Uncounted c := by
  refine ⟨?_, ?_, ?_⟩ <;> rintro rfl <;> simp [apart] at inClass

/-- A passage is balanced if its stretches without regard to brackets are. -/
theorem balanced_of_passage
    {kind : PassageKind}
    {text : List Char}
    {stretches : List (List Char)}
    (passage : Passage kind text stretches)
    (balanced : ∀ stretch ∈ stretches, Balanced stretch) :
    Balanced text := by
  induction passage with
  | char => exact balanced _ (by simp)
  | escape isTail =>
      exact .escape (.of_uncounted fun c member => uncounted_of_test (by decide) (isTail c member))
  | backslash => exact balanced _ (by simp)
  | reference isName =>
      exact .char (by decide) <|
        .of_uncounted fun c member => uncounted_of_test (by decide) (isName c member)
  | bracedReference =>
      have name := balanced _ List.mem_cons_self
      exact .char (by decide) (.char (by decide) (name.append (.char (by decide) .nil)))
  | command _ inductionHypothesis => exact .group (inductionHypothesis balanced) .nil
  | noPieces => exact .nil
  | pieces _ _ firstHypothesis othersHypothesis =>
      simp only [List.mem_append, or_imp, forall_and] at balanced
      exact (firstHypothesis balanced.1).append (othersHypothesis balanced.2)
  | braced =>
      have inside := balanced _ List.mem_cons_self
      exact .char (by decide) (inside.append (.char (by decide) .nil))
  | quoted _ inductionHypothesis =>
      exact .char (by decide) ((inductionHypothesis balanced).append (.char (by decide) .nil))
  | bare _ inductionHypothesis => exact inductionHypothesis balanced
  | done => exact .nil
  | blank isBlankOrSemicolon _ inductionHypothesis =>
      have uncounted : Uncounted _ :=
        isBlankOrSemicolon.elim (uncounted_of_test (by decide)) fun isSemicolon => by
          subst isSemicolon
          decide
      exact .char uncounted (inductionHypothesis balanced)
  | joint _ inductionHypothesis => exact .escape (inductionHypothesis balanced)
  | comment _ _ inductionHypothesis =>
      simp only [List.mem_cons, forall_eq_or_imp] at balanced
      exact .char (by decide) (balanced.1.append (inductionHypothesis balanced.2))
  | word _ _ wordHypothesis restHypothesis =>
      simp only [List.mem_append, or_imp, forall_and] at balanced
      exact (wordHypothesis balanced.1).append (restHypothesis balanced.2)

/-- What a formula takes for a command substitution is what the reader of scripts takes if and only
if the script is balanced. It is if all stretches of it in which brackets have no meaning are. -/
theorem next_bracket_iff_balanced
    {cs after : List Char}
    {script : Script}
    (gives : (readScript true none cs).Gives script after) :
    ∃ body stretches, cs = body ++ ']' :: after ∧ Passage .script body stretches ∧
      (∀ text, Token.next text '[' cs =
        .ok (.source (String.ofList ('[' :: (body ++ [']']))), after) ↔ Balanced body) ∧
      ((∀ stretch ∈ stretches, Balanced stretch) → Balanced body) := by
  obtain ⟨body, stretches, rfl, passage⟩ := passes_readScript gives
  refine ⟨body, stretches, rfl, passage, fun text => ?_, balanced_of_passage passage⟩
  have bracket : Token.next text '[' (body ++ (([']'] : List Char) ++ after)) =
      Token.operand .source .openBracket ['[']
        (Token.splitBracketed 0 (body ++ ']' :: after)) := by
    simp [Token.next]
  rw [if_pos rfl, bracket]
  exact operand_source_iff.trans splitBracketed_iff

/-- The script `{]}` is not balanced: counting brackets ends inside the braces. -/
theorem next_bracket_iff_balanced_of_braced_bracket :
    (∃ script, (readScript true none ['{', ']', '}', ']']).Gives script []) ∧
      ¬Balanced ['{', ']', '}'] ∧
      ∀ text, Token.next text '[' ['{', ']', '}', ']'] ≠ .ok (.source "[{]}]", []) := by
  have starts : StartsWord true '{' [']', '}', ']'] :=
    { notBlank := by decide
      notJoint := by simp
      notEnd := by decide
      notClose := by decide }
  have taken : (takeWord true '{' [']', '}', ']']).Gives [.literal [']']] [']'] :=
    gives_takeWord_brace_iff.mpr ⟨[']'], by decide, by decide, by simp [joinLines]⟩
  have takes : Takes true none ['{', ']', '}', ']'] _ _ _ :=
    .word starts (fun _ => by decide) taken
  have gives := takes.gives (by decide) (gives_readScript_closeBracket _ [])
  obtain ⟨body, stretches, split, -, iff, -⟩ := next_bracket_iff_balanced gives
  have isBody : ['{', ']', '}'] = body := (List.append_inj' split rfl).1
  subst isBody
  have other : ∀ text, Token.next text '[' ['{', ']', '}', ']'] ≠ .ok (.source "[{]}]", []) := by
    intro text
    simp [Token.next, Token.operand, Token.splitBracketed]
  exact ⟨⟨_, gives⟩, fun balanced => other "" ((iff "").mpr balanced), other⟩

end ScriptBridge.Arithmetic
