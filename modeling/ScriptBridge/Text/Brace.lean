/-!
# Braces

Text in braces is taken as it stands. Braces inside it nest, and a backslash keeps the character
after it from counting.
-/

namespace ScriptBridge.Text

/-- Splits the text behind an open brace, with `depth` more of them open, at the brace that closes
it: what is inside, and what follows. -/
def splitBraced (depth : Nat) : List Char → Option (List Char × List Char)
  | [] => none
  | ['\\'] => none
  | '\\' :: c :: rest =>
      (splitBraced depth rest).map fun (inside, after) => ('\\' :: c :: inside, after)
  | '{' :: rest =>
      (splitBraced (depth + 1) rest).map fun (inside, after) => ('{' :: inside, after)
  | '}' :: rest =>
      match depth with
      | 0 => some ([], rest)
      | depth + 1 =>
          (splitBraced depth rest).map fun (inside, after) => ('}' :: inside, after)
  | c :: rest =>
      (splitBraced depth rest).map fun (inside, after) => (c :: inside, after)

/-- The parts of a split are the text with one closing brace between them. -/
theorem splitBraced_append
    {depth : Nat}
    {cs inside after : List Char}
    (split : splitBraced depth cs = some (inside, after)) :
    cs = inside ++ '}' :: after := by
  fun_induction splitBraced depth cs generalizing inside after with
  | case1 => simp at split
  | case2 => simp at split
  | case3 depth c rest ih =>
      obtain ⟨⟨inner, outer⟩, found, equality⟩ := Option.map_eq_some_iff.mp split
      obtain ⟨rfl, rfl⟩ := Prod.mk.injEq .. ▸ equality
      simp [ih found]
  | case4 depth rest ih =>
      obtain ⟨⟨inner, outer⟩, found, equality⟩ := Option.map_eq_some_iff.mp split
      obtain ⟨rfl, rfl⟩ := Prod.mk.injEq .. ▸ equality
      simp [ih found]
  | case5 rest =>
      obtain ⟨rfl, rfl⟩ := Prod.mk.injEq .. ▸ Option.some.inj split
      rfl
  | case6 rest depth ih =>
      obtain ⟨⟨inner, outer⟩, found, equality⟩ := Option.map_eq_some_iff.mp split
      obtain ⟨rfl, rfl⟩ := Prod.mk.injEq .. ▸ equality
      simp [ih found]
  | case7 depth c rest _ _ _ _ ih =>
      obtain ⟨⟨inner, outer⟩, found, equality⟩ := Option.map_eq_some_iff.mp split
      obtain ⟨rfl, rfl⟩ := Prod.mk.injEq .. ▸ equality
      simp [ih found]

theorem splitBraced_length_lt
    {depth : Nat}
    {cs inside after : List Char}
    (split : splitBraced depth cs = some (inside, after)) :
    after.length < cs.length := by
  simp only [splitBraced_append split, List.length_append, List.length_cons]
  omega

end ScriptBridge.Text
