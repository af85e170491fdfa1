/-! Finding, cutting and replacing parts of a text by plain comparison, and cutting white space off its ends. -/

namespace AdFilter.Text

/-- The needle stands somewhere in the text. -/
def contains (text needle : List Char) : Bool :=
  needle.isPrefixOf text || match text with
    | [] => false
    | _ :: rest => contains rest needle

/-- A needle that a text contains is a part of it. -/
theorem contains_iff {text needle : List Char} : contains text needle = true ↔ needle <:+: text := by
  induction text with
  | nil => simp [contains]
  | cons c rest step => simp [contains, step, List.infix_cons_iff]

/-- What stands before and after the first place where the needle begins. -/
def cutFirst? (needle : List Char) : List Char → Option (List Char × List Char)
  | [] => if needle.isEmpty then some ([], []) else none
  | c :: rest =>
    match needle.isPrefixOf? (c :: rest) with
    | some after => some ([], after)
    | none => (cutFirst? needle rest).map fun (before, after) => (c :: before, after)

/-- What stands before and after the first character of a class. -/
def cutWhere? (stop : Char → Bool) : List Char → Option (List Char × List Char)
  | [] => none
  | c :: rest =>
    if stop c then some ([], rest)
    else (cutWhere? stop rest).map fun (before, after) => (c :: before, after)

/-- The parts of a cut and a character of the class between them are the whole text. -/
theorem eq_append_of_cutWhere? {stop : Char → Bool} {text before after : List Char}
    (cut : cutWhere? stop text = some (before, after)) :
    ∃ c, stop c = true ∧ text = before ++ c :: after := by
  -- The text is gone through up to the character that stops the search.
  induction text generalizing before with
  | nil => simp [cutWhere?] at cut
  | cons c rest step =>
    simp only [cutWhere?] at cut
    split at cut
    · rename_i stops
      cases cut
      exact ⟨c, stops, rfl⟩
    · simp only [Option.map_eq_some_iff, Prod.mk.injEq] at cut
      obtain ⟨pair, found, rfl, rfl⟩ := cut
      obtain ⟨d, stops, whole⟩ := step found
      exact ⟨d, stops, by rw [whole]; rfl⟩

/-- What stands behind the first character of a class is shorter than the text. -/
theorem length_of_cutWhere? {stop : Char → Bool} {text before after : List Char}
    (cut : cutWhere? stop text = some (before, after)) : after.length < text.length := by
  obtain ⟨c, _, whole⟩ := eq_append_of_cutWhere? cut
  -- The rest stands behind the character at the cut.
  rw [whole, List.length_append, List.length_cons]
  omega

/-- The first occurrence of the needle gives way to other text, and later ones stay. -/
def replaceFirst (needle replacement text : List Char) : List Char :=
  match cutFirst? needle text with
  | some (before, after) => before ++ replacement ++ after
  | none => text

/-- The lines of a text: a line feed ends one, with a carriage return before it if there is one. -/
def lines (text : List Char) : List (List Char) :=
  let pieces := text.splitOn '\n'
  -- What follows the last line feed is a line only when something stands there.
  let ended := pieces.dropLast.map fun line => (List.isSuffixOf? ['\r'] line).getD line
  match pieces.getLast? with
  | none | some [] => ended
  | some last => ended ++ [last]

/-- The characters with the Unicode property White_Space. -/
def isBlank (c : Char) : Bool :=
  let n := c.toNat
  (9 ≤ n && n ≤ 13) || n == 32 || n == 0x85 || n == 0xA0 || n == 0x1680 ||
    (0x2000 ≤ n && n ≤ 0x200A) || n == 0x2028 || n == 0x2029 || n == 0x202F ||
    n == 0x205F || n == 0x3000

/-- Leading white space is dropped. -/
def trimStart (text : List Char) : List Char := text.dropWhile isBlank

/-- Trailing white space is dropped. -/
def trimEnd (text : List Char) : List Char := (text.reverse.dropWhile isBlank).reverse

/-- White space is dropped at both ends, and kept inside. -/
def trim (text : List Char) : List Char := trimEnd (trimStart text)

end AdFilter.Text
