import ScriptBridge.Proofs.Script.Words
import ScriptBridge.Vocabulary.Options

/-!
# Quoted text

Between quotes a script reads quoted text as it was, whatever it contains: no character of it starts
a substitution or ends the word. The same holds where a whole text is substituted in.
-/

namespace ScriptBridge

open Text Options

/-- A quoted character stands for itself up to the closing quote. -/
theorem standsFor_quoted (c : Char) :
    StandsFor (· = '"') (if needsBackslash c then ['\\', c] else [c]) c := by
  by_cases needed : needsBackslash c = true
  · rw [if_pos needed]
    refine .escaped [c] fun rest => ?_
    simp only [needsBackslash, Bool.or_eq_true, decide_eq_true_eq] at needed
    rcases needed with (((rfl | rfl) | rfl) | rfl) | rfl <;> rfl
  · rw [if_neg needed]
    simp only [needsBackslash, Bool.or_eq_true, decide_eq_true_eq, not_or] at needed
    obtain ⟨⟨⟨⟨notBackslash, notQuote⟩, notDollar⟩, notBracket⟩, -⟩ := needed
    exact .plain (by simpa using notQuote) notDollar notBracket notBackslash

/-- Quoted text is written character by character for a reader of whole texts as well. -/
theorem StandsFor.weaken
    {stop weaker : Char → Bool}
    {written : List Char}
    {c : Char}
    (standsFor : StandsFor stop written c)
    (stops : ∀ other, weaker other = true → stop other = true) :
    StandsFor weaker written c := by
  cases standsFor with
  | plain goesOn notDollar notBracket notBackslash =>
      refine .plain ?_ notDollar notBracket notBackslash
      by_contra stopped
      have ended := stops c (by simpa using stopped)
      rw [goesOn] at ended
      contradiction
  | escaped behind isEscape => exact .escaped behind isEscape

/-- Quoted text between quotes is read as one literal word, up to behind the closing quote. -/
theorem readWord_quoted
    {nested : Bool}
    {rest : List Char}
    (text : List Char)
    (ends : endsWord nested rest = true) :
    ∃ word, Spells word text ∧
      (readWord nested '"' (quoteChars text ++ '"' :: rest)).Gives word rest := by
  obtain ⟨word, spells, read⟩ := readPieces_written (· = '"') (by decide)
    (fun c (_ : c ∈ text) => standsFor_quoted c) (show Stops (· = '"') ('"' :: rest) by simp [Stops])
  exact ⟨word, spells, gives_readWord_quote_iff.mpr ⟨'"', read, ends⟩⟩

theorem writes_quoted (text : List Char) : Writes ('"' :: quoteChars text ++ ['"']) text := by
  refine ⟨'"', quoteChars text ++ ['"'], rfl, by decide, by decide, by decide, nofun, ?_⟩
  intro nested rest ends
  rw [List.append_assoc, List.singleton_append]
  exact readWord_quoted text ends

theorem ofText_of_readPieces
    {text : String}
    {word : List Piece}
    (read : (readPieces (fun _ => false) text.toList).Gives word []) :
    Template.ofText text = ⟨word, none⟩ := by
  obtain ⟨within, read⟩ := read
  unfold Template.ofText
  rw [read]

variable {Key Host : Type}

/-- Quoted text is substituted in as it was; nothing is invoked and nothing is read for it. -/
theorem substitute_quote
    (call : String → List String → Action Key Host String)
    (text : String) :
    (Template.ofText (quote text)).substitute call = pure text := by
  obtain ⟨word, spells, read⟩ := readPieces_written (fun _ => false) rfl
    (fun c (_ : c ∈ text.toList) => (standsFor_quoted c).weaken (by simp))
    (show Stops (fun _ => false) [] from trivial)
  have whole : (readPieces (fun _ => false) (quote text).toList).Gives word [] := by
    rw [List.append_nil] at read
    rw [quote, String.toList_ofList]
    exact read
  rw [ofText_of_readPieces whole, Template.substitute, substitutePieces_of_spells spells, pure_bind,
    String.empty_append, String.ofList_toList]

end ScriptBridge
