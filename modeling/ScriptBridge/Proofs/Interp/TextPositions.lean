import ScriptBridge.Proofs.Interp.Evaluation
import ScriptBridge.Proofs.Numeral.Integers

/-!
# Positions in texts

A position in a text is written as an integer, as `end`, or as `end` with a distance. The command
that gives the character at a position takes all of these. The command that gives a range takes its
bounds in the same language, but for a distance added to the end: with the same position as both
bounds it gives the character at the position, or nothing outside of the text, except that it
refuses such a sum.
-/

namespace ScriptBridge.Index

open Text Numeral

/-! ## The language of positions -/

/-- The integers of 64 bits. -/
def IsWord (value : Int) : Prop :=
  -2 ^ 63 ≤ value ∧ value < 2 ^ 63

instance (value : Int) : Decidable (IsWord value) :=
  inferInstanceAs (Decidable (_ ∧ _))

def AllBlank (cs : List Char) : Prop :=
  ∀ c ∈ cs, isBlank c = true

def endMark : List Char :=
  ['e', 'n', 'd']

/-- A text that has the end mark, a sign and a distance. -/
structure EndsWith (sign : Char) (text : String) (distance : Int) : Prop where
  isWord : IsWord distance
  parts : ∃ before spelled, AllBlank before ∧
    text.toList = before ++ (endMark ++ sign :: spelled) ∧ Spells (String.ofList spelled) distance

/-- The text means a position in a sequence of `length` elements, as the bounds of a range may be
written: it is an integer, the last position, or one in front of that. -/
inductive Means (length : Nat) (text : String) : Int → Prop where
  | integer {value : Int} :
      Spells text value → IsWord value → Means length text value
  | last {before after : List Char} :
      AllBlank before → AllBlank after → text.toList = before ++ (endMark ++ after) →
        Means length text (length - 1)
  | inFront {distance : Int} :
      EndsWith '-' text distance → IsWord (length - 1 - distance) →
        Means length text (length - 1 - distance)

/-- The text means a position by a distance added to the last one. -/
inductive MeansSum (length : Nat) (text : String) : Int → Prop where
  | behind {distance : Int} :
      EndsWith '+' text distance → IsWord (length - 1 + distance) →
        MeansSum length text (length - 1 + distance)

/-! ## Numbers -/

theorem wordOfInt?_map_eq_some_iff (value found : Int) :
    (wordOfInt? value).map Int64.toInt = some found ↔ IsWord value ∧ found = value := by
  have least : Int64.minValue.toInt = -2 ^ 63 := rfl
  have greatest : Int64.maxValue.toInt = 2 ^ 63 - 1 := rfl
  unfold wordOfInt? IsWord
  by_cases fits : Int64.minValue.toInt ≤ value ∧ value ≤ Int64.maxValue.toInt
  · rw [if_pos fits, Option.map_some, Option.some.injEq,
      Int64.toInt_ofInt_of_le (by omega) (by omega)]
    omega
  · rw [if_neg fits]
    simp
    omega

theorem fitting?_eq_some_iff (value found : Int) :
    fitting? value = some found ↔ IsWord value ∧ found = value :=
  wordOfInt?_map_eq_some_iff value found

theorem integer?_eq_some_iff (cs : List Char) (value : Int) :
    integer? cs = some value ↔ Spells (String.ofList cs) value ∧ IsWord value := by
  rw [integer?, readWord?, Option.map_bind, Option.bind_eq_some_iff]
  simp only [Function.comp_apply, wordOfInt?_map_eq_some_iff, readInt?_eq_some_iff]
  constructor
  · rintro ⟨found, spells, isWord, rfl⟩
    exact ⟨spells, isWord⟩
  · rintro ⟨spells, isWord⟩
    exact ⟨value, spells, isWord, rfl⟩

theorem Spells.exists_parts
    {cs : List Char}
    {value : Int}
    (spells : Spells (String.ofList cs) value) :
    ∃ spelling : Spelling,
      cs = spelling.before ++ (spelling.core ++ spelling.after) ∧ spelling.value = value := by
  obtain ⟨spelling, isText, isValue⟩ := spells
  rw [Spelling.text, String.ofList_inj] at isText
  exact ⟨spelling, isText.symm, isValue⟩

/-- Blanks around a spelled integer belong to its spelling. -/
theorem spells_surrounded
    {cs before after : List Char}
    {value : Int}
    (spells : Spells (String.ofList cs) value)
    (blankBefore : AllBlank before)
    (blankAfter : AllBlank after) :
    Spells (String.ofList (before ++ (cs ++ after))) value := by
  obtain ⟨spelling, rfl, rfl⟩ := Spells.exists_parts spells
  refine ⟨{ spelling with
    before := before ++ spelling.before
    after := spelling.after ++ after
    blankBefore := List.forall_mem_append.mpr ⟨blankBefore, spelling.blankBefore⟩
    blankAfter := List.forall_mem_append.mpr ⟨spelling.blankAfter, blankAfter⟩ }, ?_, rfl⟩
  simp [Spelling.text, Spelling.core]

/-! ## Forms -/

/-- What a trimmed text can be: the end mark with or without a sign behind it, or something that
does not start with the end mark. -/
inductive Form : List Char → Prop where
  | last : Form endMark
  | signed {sign : Char} (spelled : List Char) :
      sign = '-' ∨ sign = '+' → Form (endMark ++ sign :: spelled)
  | malformed {c : Char} (rest : List Char) :
      c ≠ '-' → c ≠ '+' → Form (endMark ++ c :: rest)
  | other {cs : List Char} : dropStart? endMark cs = none → Form cs

theorem form (cs : List Char) : Form cs := by
  cases ends : dropStart? endMark cs with
  | none => exact .other ends
  | some rest =>
      obtain rfl := (dropStart?_eq_some_iff _ _ _).mp ends
      cases rest with
      | nil => exact .last
      | cons c rest =>
          by_cases isSign : c = '-' ∨ c = '+'
          · exact .signed rest isSign
          · rw [not_or] at isSign
            exact .malformed rest isSign.1 isSign.2

section

variable {text : String} (length : Nat)

theorem read?_of_last (isLast : trim text.toList = endMark) :
    read? text length = some ((length : Int) - 1) := by
  simp [read?, isLast, endMark, dropStart?]

theorem read?_of_minus
    {spelled : List Char}
    (isSigned : trim text.toList = endMark ++ '-' :: spelled) :
    read? text length =
      (integer? spelled).bind fun distance => fitting? (length - 1 - distance) := by
  simp [read?, isSigned, endMark, dropStart?]

theorem read?_of_plus
    {spelled : List Char}
    (isSigned : trim text.toList = endMark ++ '+' :: spelled) :
    read? text length =
      (integer? spelled).bind fun distance => fitting? (length - 1 + distance) := by
  simp [read?, isSigned, endMark, dropStart?]

theorem read?_of_malformed
    {c : Char}
    {rest : List Char}
    (noMinus : c ≠ '-')
    (noPlus : c ≠ '+')
    (isMalformed : trim text.toList = endMark ++ c :: rest) :
    read? text length = none := by
  have ends : dropStart? ['e', 'n', 'd'] (trim text.toList) = some (c :: rest) :=
    (dropStart?_eq_some_iff _ _ _).mpr isMalformed
  simp only [read?, ends]
  split <;> simp_all

theorem read?_of_other (isOther : dropStart? endMark (trim text.toList) = none) :
    read? text length = integer? (trim text.toList) := by
  rw [endMark] at isOther
  simp [read?, isOther]

end

/-! ## What is read -/

/-- A spelled integer does not start with a letter. -/
theorem head_core (spelling : Spelling) : ∀ c ∈ spelling.core.head?, c ≠ 'e' := by
  have digits : ∀ c ∈ spelling.digits, spelling.mark = [] → c ≠ 'e' := by
    rintro c member unmarked rfl
    have small := spelling.areDigits 'e' member
    have isMark := spelling.isMark
    rw [unmarked] at isMark
    cases radix : spelling.radix with
    | decimal =>
        rw [radix] at small
        exact absurd small (by decide)
    | binary | octal | hexadecimal =>
        rw [radix] at isMark
        exact absurd isMark (by decide)
  have body : ∀ c ∈ (spelling.mark ++ spelling.digits).head?, c ≠ 'e' := by
    intro c isHead
    rcases mark_starts spelling.isMark with unmarked | starts
    · rw [unmarked, List.nil_append] at isHead
      exact digits c (List.mem_of_head? isHead) unmarked
    · rw [List.head?_append, starts, Option.some_or, Option.mem_some] at isHead
      rw [← isHead]
      decide
  cases sign : spelling.sign with
  | none => simpa [Spelling.core, sign, SignMark.text] using body
  | plus | minus => simp [Spelling.core, sign, SignMark.text]

theorem closes_core (spelling : Spelling) : ∀ c ∈ spelling.core.getLast?, isBlank c = false := by
  intro c isLast
  have nonempty : spelling.mark ++ spelling.digits ≠ [] := by simp [spelling.nonempty]
  rw [Spelling.core, List.getLast?_append_of_ne_nil _ nonempty,
    List.getLast?_append_of_ne_nil _ spelling.nonempty] at isLast
  exact (isBlank_of_digitPlace (spelling.digits_small c (List.mem_of_getLast? isLast))).1

theorem dropStart?_core (spelling : Spelling) : dropStart? endMark spelling.core = none := by
  cases ends : dropStart? endMark spelling.core with
  | none => rfl
  | some rest =>
      rw [dropStart?_eq_some_iff] at ends
      exact absurd rfl (head_core spelling 'e' (by simp [ends, endMark]))

/-- With the blanks around it cut off, a text with a distance is the end mark, the sign and a
spelling of the distance. -/
theorem EndsWith.trim_eq
    {sign : Char}
    {text : String}
    {distance : Int}
    (ends : EndsWith sign text distance) :
    ∃ spelled, trim text.toList = endMark ++ sign :: spelled ∧
      integer? spelled = some distance := by
  obtain ⟨isWord, before, spelled, blank, parts, spells⟩ := ends
  obtain ⟨spelling, rfl, rfl⟩ := Spells.exists_parts spells
  have nonempty : spelling.core ≠ [] := by simp [Spelling.core, spelling.nonempty]
  refine ⟨spelling.before ++ spelling.core, ?_, ?_⟩
  · have grouped : text.toList =
        before ++ ((endMark ++ sign :: (spelling.before ++ spelling.core)) ++ spelling.after) := by
      simp [parts]
    rw [grouped]
    apply trim_between blank spelling.blankAfter (by simp)
    · intro c isHead
      obtain rfl : 'e' = c := by simpa [endMark] using isHead
      decide
    · intro c isLast
      rw [List.getLast?_append_of_ne_nil _ (List.cons_ne_nil _ _), ← List.cons_append,
        List.getLast?_append_of_ne_nil _ nonempty] at isLast
      exact closes_core spelling c isLast
  · rw [integer?_eq_some_iff]
    refine ⟨⟨{ spelling with after := [], blankAfter := by simp }, ?_, rfl⟩, isWord⟩
    simp [Spelling.text, Spelling.core]

theorem endsWith_of_trim_eq
    {sign : Char}
    {text : String}
    {spelled : List Char}
    {distance : Int}
    (isSigned : trim text.toList = endMark ++ sign :: spelled)
    (read : integer? spelled = some distance) :
    EndsWith sign text distance := by
  obtain ⟨before, after, blankBefore, blankAfter, parts⟩ := exists_trim text.toList
  obtain ⟨spells, isWord⟩ := (integer?_eq_some_iff _ _).mp read
  refine ⟨isWord, before, spelled ++ after, blankBefore, ?_, ?_⟩
  · rw [isSigned] at parts
    rw [parts]
    simp
  · have whole := spells_surrounded spells (show AllBlank [] by simp [AllBlank]) blankAfter
    rwa [List.nil_append] at whole

theorem trim_of_integer
    {text : String}
    {value : Int}
    (spells : Spells text value)
    (isWord : IsWord value) :
    dropStart? endMark (trim text.toList) = none ∧ integer? (trim text.toList) = some value := by
  obtain ⟨spelling, rfl, rfl⟩ := spells
  have trimmed : trim spelling.text.toList = spelling.core := by
    rw [Spelling.text, String.toList_ofList, spelling.trim_core]
  let bare : Spelling :=
    { spelling with before := [], after := [], blankBefore := by simp, blankAfter := by simp }
  have spelled : Spells (String.ofList spelling.core) spelling.value :=
    ⟨bare, by simp [bare, Spelling.text, Spelling.core], rfl⟩
  rw [trimmed, integer?_eq_some_iff]
  exact ⟨dropStart?_core spelling, spelled, isWord⟩

theorem trim_of_last
    {text : String}
    {before after : List Char}
    (blankBefore : AllBlank before)
    (blankAfter : AllBlank after)
    (parts : text.toList = before ++ (endMark ++ after)) :
    trim text.toList = endMark := by
  have visible (c : Char) (member : c ∈ endMark) : isBlank c = false := by
    have all : endMark.all (!isBlank ·) = true := by decide
    simpa using List.all_eq_true.mp all c member
  rw [parts]
  exact trim_between blankBefore blankAfter (by decide)
    (fun c isHead => visible c (List.mem_of_head? isHead))
    (fun c isLast => visible c (List.mem_of_getLast? isLast))

/-- The position of a text is read exactly if the text means one. -/
theorem read?_eq_some_iff (text : String) (length : Nat) (position : Int) :
    read? text length = some position ↔
      Means length text position ∨ MeansSum length text position := by
  constructor
  · intro read
    obtain ⟨before, after, blankBefore, blankAfter, parts⟩ := exists_trim text.toList
    generalize isTrimmed : trim text.toList = trimmed at parts
    cases form trimmed with
    | last =>
        rw [read?_of_last length isTrimmed, Option.some.injEq] at read
        exact .inl (read ▸ .last blankBefore blankAfter parts)
    | signed spelled isSign =>
        rcases isSign with rfl | rfl
        · rw [read?_of_minus length isTrimmed, Option.bind_eq_some_iff] at read
          obtain ⟨distance, spells, fits⟩ := read
          obtain ⟨isWord, rfl⟩ := (fitting?_eq_some_iff _ _).mp fits
          exact .inl (.inFront (endsWith_of_trim_eq isTrimmed spells) isWord)
        · rw [read?_of_plus length isTrimmed, Option.bind_eq_some_iff] at read
          obtain ⟨distance, spells, fits⟩ := read
          obtain ⟨isWord, rfl⟩ := (fitting?_eq_some_iff _ _).mp fits
          exact .inr (.behind (endsWith_of_trim_eq isTrimmed spells) isWord)
    | malformed rest noMinus noPlus =>
        rw [read?_of_malformed length noMinus noPlus isTrimmed] at read
        contradiction
    | other isOther =>
        rw [← isTrimmed] at isOther
        rw [read?_of_other length isOther, isTrimmed, integer?_eq_some_iff] at read
        have whole := spells_surrounded read.1 blankBefore blankAfter
        rw [← parts, String.ofList_toList] at whole
        exact .inl (.integer whole read.2)
  · rintro (means | means)
    · cases means with
      | integer spells isWord =>
          obtain ⟨isOther, read⟩ := trim_of_integer spells isWord
          rw [read?_of_other length isOther, read]
      | last blankBefore blankAfter parts =>
          exact read?_of_last length (trim_of_last blankBefore blankAfter parts)
      | inFront ends isWord =>
          obtain ⟨spelled, isSigned, read⟩ := ends.trim_eq
          rw [read?_of_minus length isSigned, read]
          exact (fitting?_eq_some_iff _ _).mpr ⟨isWord, rfl⟩
    · cases means with
      | behind ends isWord =>
          obtain ⟨spelled, isSigned, read⟩ := ends.trim_eq
          rw [read?_of_plus length isSigned, read]
          exact (fitting?_eq_some_iff _ _).mpr ⟨isWord, rfl⟩

/-! ## Sums -/

/-- The text adds something to the end, be it a distance or not. -/
def IsSum (text : String) : Prop :=
  ∃ spelled, trim text.toList = endMark ++ '+' :: spelled

theorem MeansSum.isSum
    {text : String}
    {length : Nat}
    {position : Int}
    (means : MeansSum length text position) :
    IsSum text := by
  cases means with
  | behind ends isWord =>
      obtain ⟨spelled, isSigned, -⟩ := ends.trim_eq
      exact ⟨spelled, isSigned⟩

theorem Means.not_isSum
    {text : String}
    {length : Nat}
    {position : Int}
    (means : Means length text position) :
    ¬IsSum text := by
  rintro ⟨added, isSum⟩
  cases means with
  | integer spells isWord =>
      have noEnd := (trim_of_integer spells isWord).1
      rw [(dropStart?_eq_some_iff _ _ _).mpr isSum] at noEnd
      contradiction
  | last blankBefore blankAfter parts =>
      rw [trim_of_last blankBefore blankAfter parts] at isSum
      simp at isSum
  | inFront ends isWord =>
      obtain ⟨spelled, isSigned, -⟩ := ends.trim_eq
      rw [isSigned] at isSum
      simp at isSum

/-! ## Bounds -/

section

variable {Key Host : Type} {α : Type} {cs : List Char}

theorem intOf_bind_of_some
    {value : Int}
    (read : integer? cs = some value)
    (next : Int → Action Key Host α) :
    (Action.intOf (String.ofList cs) >>= fun word => next word.toInt) = next value := by
  obtain ⟨word, isWord, rfl⟩ := Option.map_eq_some_iff.mp read
  rw [Action.intOf, isWord]
  exact pure_bind word _

theorem intOf_bind_of_none
    (unread : integer? cs = none)
    (next : Int64 → Action Key Host α) :
    ∃ message, (Action.intOf (String.ofList cs) >>= next) = Action.fail message := by
  rw [Action.intOf, Option.map_eq_none_iff.mp unread]
  exact ⟨_, rfl⟩

end

section

variable {Key Host : Type} {text : String} (length : Nat)

/-- As the bound of a range a sum is refused. -/
theorem resolveBound_of_isSum (isSum : IsSum text) :
    (resolveBound text length : Action Key Host Int) =
      Action.fail ("bad index \"" ++ text ++ "\"") := by
  obtain ⟨spelled, isSum⟩ := isSum
  simp [resolveBound, isSum, endMark, dropStart?]

theorem resolveBound_of_minus
    {spelled : List Char}
    (isSigned : trim text.toList = endMark ++ '-' :: spelled) :
    (resolveBound text length : Action Key Host Int) = (do
      let distance ← Action.intOf (String.ofList spelled)
      match fitting? (length - 1 - distance.toInt) with
      | some position => return position
      | none => Action.fail ("bad index \"" ++ text ++ "\"")) := by
  unfold resolveBound
  rw [isSigned]
  rfl

theorem resolveBound_of_malformed
    {c : Char}
    {rest : List Char}
    (noMinus : c ≠ '-')
    (isMalformed : trim text.toList = endMark ++ c :: rest) :
    (resolveBound text length : Action Key Host Int) =
      Action.fail ("bad index \"" ++ text ++ "\"") := by
  have ends : dropStart? ['e', 'n', 'd'] (trim text.toList) = some (c :: rest) :=
    (dropStart?_eq_some_iff _ _ _).mpr isMalformed
  simp only [resolveBound, ends]
  split <;> simp_all

theorem resolveBound_of_other (isOther : dropStart? endMark (trim text.toList) = none) :
    (resolveBound text length : Action Key Host Int) = (do
      return (← Action.intOf (String.ofList (trim text.toList))).toInt) := by
  rw [endMark] at isOther
  simp only [resolveBound, isOther]

/-- As the bound of a range all else means the position that it means by itself, or none. -/
theorem resolveBound_of_not_isSum (noSum : ¬IsSum text) :
    (∀ position, read? text length = some position →
        (resolveBound text length : Action Key Host Int) = pure position) ∧
      (read? text length = none →
        ∃ message, (resolveBound text length : Action Key Host Int) = Action.fail message) := by
  generalize isTrimmed : trim text.toList = trimmed
  cases form trimmed with
  | last =>
      rw [read?_of_last length isTrimmed]
      simp [resolveBound, isTrimmed, endMark, dropStart?]
  | signed spelled isSign =>
      rcases isSign with rfl | rfl
      · rw [read?_of_minus length isTrimmed, resolveBound_of_minus length isTrimmed]
        cases read : integer? spelled with
        | none => simpa using intOf_bind_of_none read _
        | some distance =>
            rw [intOf_bind_of_some read fun distance =>
              match fitting? (length - 1 - distance) with
              | some position => (return position : Action Key Host Int)
              | none => Action.fail ("bad index \"" ++ text ++ "\"")]
            cases fits : fitting? (length - 1 - distance) <;> simp [fits]
      · exact absurd ⟨spelled, isTrimmed⟩ noSum
  | malformed rest noMinus noPlus =>
      rw [read?_of_malformed length noMinus noPlus isTrimmed,
        resolveBound_of_malformed length noMinus isTrimmed]
      simp
  | other isOther =>
      rw [← isTrimmed] at isOther
      rw [read?_of_other length isOther, resolveBound_of_other length isOther]
      cases read : integer? (trim text.toList) with
      | none => exact ⟨by simp, fun _ => intOf_bind_of_none read _⟩
      | some value =>
          rw [intOf_bind_of_some read fun value => (return value : Action Key Host Int)]
          simp

end

end ScriptBridge.Index

namespace ScriptBridge

variable {Key Host : Type}

/-! ## Characters and ranges -/

/-- The character at a position of a text, as a text; nothing if the position lies outside. -/
def characterAt (text : String) (position : Int) : String :=
  if 0 ≤ position then String.ofList (text.toList[position.toNat]?).toList else ""

theorem ofList_inside (text : String) (position : Int) :
    String.ofList ((Index.inside? text.toList.length position).bind (text.toList[·]?)).toList =
      characterAt text position := by
  unfold Index.inside? characterAt
  by_cases nonnegative : 0 ≤ position
  · by_cases within : position < text.toList.length
    · simp [nonnegative, within]
    · simp [nonnegative, within]
  · simp [nonnegative]

/-- A range of one position holds the character there. -/
theorem charRange_self (text : String) (position : Int) :
    String.ofList (Commands.charRange text.toList position position) =
      characterAt text position := by
  unfold Commands.charRange characterAt
  by_cases nonnegative : 0 ≤ position
  · have next : (position + 1).toNat = position.toNat + 1 := by omega
    rw [if_pos nonnegative, next, List.drop_take, Nat.add_sub_cancel_left, List.take_one,
      List.head?_drop]
  · have first : (position + 1).toNat = 0 := by omega
    rw [if_neg nonnegative, first]
    simp

section

variable {text index : String}

theorem string_index_of_read
    {position : Int}
    (read : Index.read? index text.toList.length = some position) :
    (Commands.string ["index", text, index] : Action Key Host String) =
      pure (characterAt text position) := by
  rw [Commands.string, Index.resolve, read, ← ofList_inside]
  exact pure_bind _ _

theorem string_index_of_unread (unread : Index.read? index text.toList.length = none) :
    (Commands.string ["index", text, index] : Action Key Host String) =
      Action.fail ("bad index \"" ++ index ++
        "\": must be integer?[+-]integer? or end?[+-]integer?") := by
  rw [Commands.string, Index.resolve, unread]
  rfl

theorem string_range_self_of_bound
    {position : Int}
    (bound : (Index.resolveBound index text.toList.length : Action Key Host Int) =
      pure position) :
    (Commands.string ["range", text, index, index] : Action Key Host String) =
      pure (characterAt text position) := by
  rw [Commands.string, bound, ← charRange_self]
  simp only [pure_bind]

theorem string_range_self_of_unbound
    {message : String}
    (unbound : (Index.resolveBound index text.toList.length : Action Key Host Int) =
      Action.fail message) :
    (Commands.string ["range", text, index, index] : Action Key Host String) =
      Action.fail message := by
  rw [Commands.string, unbound]
  rfl

end

/-! ## Main statement -/

section

variable
  {machine : Machine Key Host}
  (known : machine.interp.command? "string" = some (.builtin .string))
  (shallow : machine.interp.depth < maxDepth)
  (host : HostCommands Key Host)
  (eval : Evaluator Key Host)
  {arguments : List String}

include known shallow

theorem run_invoke_string_of_pure
    {result : String}
    (gives : (Commands.string arguments : Action Key Host String) = pure result) :
    (invoke host eval "string" arguments).run.run machine = (.ok result, machine) := by
  rw [run_invoke known shallow, Command.run, Builtin.run, gives]
  rfl

theorem run_invoke_string_of_fail
    {message : String}
    (fails : (Commands.string arguments : Action Key Host String) = Action.fail message) :
    (invoke host eval "string" arguments).run.run machine = (.error (.error message), machine) := by
  rw [run_invoke known shallow, Command.run, Builtin.run, fails]
  rfl

end

/-- The character at a position and the range from the position to itself are the same if the
position is an integer, the end or a distance in front of the end: the character that stands there,
or nothing outside of the text. If a distance is added to the end, there is a character but no
range. Any other text means no position for both. -/
theorem index_and_range_agree_except_on_sums
    {machine : Machine Key Host}
    (known : machine.interp.command? "string" = some (.builtin .string))
    (shallow : machine.interp.depth < maxDepth)
    (host : HostCommands Key Host)
    (eval : Evaluator Key Host)
    (text position : String) :
    let character := (invoke host eval "string" ["index", text, position]).run.run machine
    let range := (invoke host eval "string" ["range", text, position, position]).run.run machine
    (∀ place, Index.Means text.length position place →
        character = (.ok (characterAt text place), machine) ∧
          range = (.ok (characterAt text place), machine)) ∧
      (∀ place, Index.MeansSum text.length position place →
        character = (.ok (characterAt text place), machine) ∧
          range = (.error (.error ("bad index \"" ++ position ++ "\"")), machine)) ∧
      ((∀ place, ¬Index.Means text.length position place ∧
            ¬Index.MeansSum text.length position place) →
        character = (.error (.error ("bad index \"" ++ position ++
            "\": must be integer?[+-]integer? or end?[+-]integer?")), machine) ∧
          ∃ message, range = (.error (.error message), machine)) := by
  rw [← String.length_toList]
  have readIff := Index.read?_eq_some_iff position text.toList.length
  refine ⟨fun place means => ?_, fun place means => ?_, fun meansNothing => ?_⟩
  · have read := (readIff place).mpr (.inl means)
    have bound : (Index.resolveBound position text.toList.length : Action Key Host Int) =
        pure place :=
      (Index.resolveBound_of_not_isSum text.toList.length means.not_isSum).1 place read
    exact ⟨run_invoke_string_of_pure known shallow host eval (string_index_of_read read),
      run_invoke_string_of_pure known shallow host eval (string_range_self_of_bound bound)⟩
  · have read := (readIff place).mpr (.inr means)
    refine ⟨run_invoke_string_of_pure known shallow host eval (string_index_of_read read), ?_⟩
    apply run_invoke_string_of_fail known shallow
    exact string_range_self_of_unbound (Index.resolveBound_of_isSum _ means.isSum)
  · have unread : Index.read? position text.toList.length = none := by
      rw [Option.eq_none_iff_forall_not_mem]
      intro place read
      rcases (readIff place).mp read with means | means
      · exact (meansNothing place).1 means
      · exact (meansNothing place).2 means
    have refused : ∃ message, (Index.resolveBound position text.toList.length :
        Action Key Host Int) = Action.fail message := by
      by_cases isSum : Index.IsSum position
      · exact ⟨_, Index.resolveBound_of_isSum text.toList.length isSum⟩
      · exact (Index.resolveBound_of_not_isSum text.toList.length isSum).2 unread
    obtain ⟨message, refused⟩ := refused
    refine ⟨?_, message, ?_⟩
    · exact run_invoke_string_of_fail known shallow host eval (string_index_of_unread unread)
    · exact run_invoke_string_of_fail known shallow host eval (string_range_self_of_unbound refused)

/-- The last character, with nothing added to the end. -/
theorem index_and_range_agree_except_on_sums_of_zero :
    let host : HostCommands Nat Unit := ⟨fun _ _ _ => throw .unfinished, fun _ host => host⟩
    let machine : Machine Nat Unit :=
      ⟨{ commands := .ofList [("string", Command.builtin .string)] }, {}, 0, ()⟩
    let ran (words : List String) :=
      (invoke host (evaluator host 0) "string" words).run.run machine
    ran ["index", "abc", "end+0"] = (.ok "c", machine) ∧
      ran ["range", "abc", "end+0", "end+0"] =
        (.error (.error "bad index \"end+0\""), machine) := by
  intro host machine ran
  have known : machine.interp.command? "string" = some (.builtin .string) := rfl
  have trimmed : Text.trim "end+0".toList = Index.endMark ++ '+' :: ['0'] := by decide
  have zero : Index.EndsWith '+' "end+0" 0 := Index.endsWith_of_trim_eq trimmed (by decide)
  have means : Index.MeansSum "abc".length "end+0" 2 := .behind zero (by decide)
  exact (index_and_range_agree_except_on_sums known (by decide) host (evaluator host 0) "abc"
    "end+0").2.1 2 means

end ScriptBridge
