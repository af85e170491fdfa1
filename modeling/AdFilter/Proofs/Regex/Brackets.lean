import AdFilter.Proofs.Regex.Parser

/-! What is read behind a backslash, in braces or in brackets ends where it seems to end. -/

namespace AdFilter.Regex

/-- Where white space counts, nothing is skipped. -/
theorem Flags.skip_eq {flags : Flags} (dense : flags.spaced = false) (source : List Char) :
    flags.skip source = source := by
  simp [skip, dense]

/-- Behind a backslash the character is a class, a condition or itself, and nothing more is read. -/
def isShortEscape (c : Char) : Bool := "dDsSwWbBAzatnrfv<>".toList.contains c || isEscapable c

/-- A short escape is read with nothing behind it, as long as no name in braces follows a boundary. -/
theorem escape_spec {flags : Flags} (dense : flags.spaced = false) {c : Char}
    {source rest : List Char} {atom : Atom} (short : isShortEscape c = true)
    (unnamed : ∀ first inside, source = '\x7b' :: first :: inside →
      first.isAlpha = false ∧ first ≠ '-')
    (read : escape flags (c :: source) = some (atom, rest)) :
    rest = source ∧ (isEscapable c = true → atom = .literal c false) := by
  -- The escapes are told apart by their letter, as the reader does it.
  unfold escape at read
  simp only at read
  split at read
  -- The first five letters take an argument, so none of them is short.
  case h_1 | h_2 | h_3 | h_4 | h_5 => exact absurd short (by decide)
  case h_23 =>
    split at read
    · rename_i inside
      -- A brace behind a boundary does not begin a name, so it counts.
      obtain ⟨boundary, named, read⟩ := Option.bind_eq_some_iff.mp read
      have counted : boundary = none := by
        unfold braceBoundary at named
        simp only [Flags.skip_eq dense] at named
        split at named
        · cases named
        · obtain ⟨letter, hyphen⟩ := unnamed _ _ rfl
          simpa [letter, hyphen] using named.symm
      subst counted
      cases read
      exact ⟨rfl, fun plain => absurd plain (by decide)⟩
    · cases read
      exact ⟨rfl, fun plain => absurd plain (by decide)⟩
  case h_24 =>
    split at read
    · cases read
      -- What is escaped stands for itself.
      exact ⟨rfl, fun _ => by rw [Char.ofNat_toNat]⟩
    · cases read
  case h_9 | h_10 | h_11 =>
    obtain ⟨set, _, same⟩ := Option.map_eq_some_iff.mp read
    cases same
    exact ⟨rfl, fun plain => absurd plain (by decide)⟩
  all_goals
    cases read
    exact ⟨rfl, fun plain => absurd plain (by decide)⟩

/-- A text is cut in one way only before the first place of a character. -/
theorem eq_of_append_cons {c : Char} {u v u' v' : List Char} (first : c ∉ u) (other : c ∉ u')
    (same : u ++ c :: v = u' ++ c :: v') : u = u' ∧ v = v' := by
  -- Both texts before the character can be read off together, up to the first place of it.
  induction u generalizing u' with
  | nil =>
    cases u' with
    | nil => exact ⟨rfl, (List.cons.inj same).2⟩
    | cons d u' => exact absurd (List.cons.inj same).1 (List.ne_of_not_mem_cons other)
  | cons d u ih =>
    cases u' with
    | nil => exact absurd (List.cons.inj same).1.symm (List.ne_of_not_mem_cons first)
    | cons e u' =>
      obtain ⟨rfl, tails⟩ := List.cons.inj same
      obtain ⟨rfl, rfl⟩ := ih (List.not_mem_of_not_mem_cons first)
        (List.not_mem_of_not_mem_cons other) tails
      exact ⟨rfl, rfl⟩

/-- A digit that makes a number positive. -/
def isPositiveDigit (c : Char) : Bool := c.isDigit && c != '0'

/-- No blank is a digit, and a positive one is worth at least one. -/
theorem isPositiveDigit_spec {c : Char} (positive : isPositiveDigit c = true) :
    Text.isBlank c = false ∧ 1 ≤ c.toNat - '0'.toNat := by
  obtain ⟨digit, zero⟩ : c.isDigit = true ∧ c ≠ '0' := by simpa [isPositiveDigit] using positive
  have range : 48 ≤ c.toNat ∧ c.toNat ≤ 57 := by
    simpa [Char.isDigit, UInt32.le_iff_toNat_le] using digit
  -- The code is that of a digit, and not of the first one.
  have more : c.toNat ≠ 48 := fun same => zero (Char.toNat_inj.mp same)
  constructor
  · simp [Text.isBlank]
    omega
  · change 1 ≤ c.toNat - 48
    omega

/-- A number is read from blanks and digits alone, and is positive if one of the digits is. -/
theorem exists_of_decimal? {flags : Flags} (dense : flags.spaced = false) {source rest : List Char}
    {value : Nat} (read : decimal? flags source = some (value, rest)) :
    ∃ passed, source = passed ++ rest ∧
      (∀ c ∈ passed, Text.isBlank c = true ∨ c.isDigit = true) ∧
      (passed.any isPositiveDigit = true → 1 ≤ value) := by
  -- Blanks stand before the digits and behind them; nothing else is passed over.
  have blanks (text : List Char) : ∃ passed, text = passed ++ text.dropWhile Text.isBlank ∧
      (∀ c ∈ passed, Text.isBlank c = true) ∧ passed.any isPositiveDigit = false := by
    have blank : ∀ c ∈ text.takeWhile Text.isBlank, Text.isBlank c = true :=
      fun c member => List.all_eq_true.mp List.all_takeWhile c member
    refine ⟨_, List.takeWhile_append_dropWhile.symm, blank, ?_⟩
    refine List.any_eq_false.mpr fun c member positive => ?_
    have other := (isPositiveDigit_spec positive).1
    rw [blank c member] at other
    cases other
  have finish {start : Option Nat} {text : List Char}
      (read : decimal?.finish flags start text = some (value, rest)) :
      ∃ passed, text = passed ++ rest ∧
        (∀ c ∈ passed, Text.isBlank c = true ∨ c.isDigit = true) ∧
        (1 ≤ start.getD 0 ∨ passed.any isPositiveDigit = true → 1 ≤ value) := by
    unfold decimal?.finish at read
    simp only [Option.bind_eq_bind, Option.bind_eq_some_iff] at read
    obtain ⟨_, rfl, _, _, read⟩ := read
    cases read
    rw [Flags.skip_eq dense]
    obtain ⟨passed, same, blank, zero⟩ := blanks text
    exact ⟨passed, same, fun c member => Or.inl (blank c member), by simp [zero]⟩
  have go (fuel : Nat) (start : Option Nat) (text : List Char)
      (read : decimal?.go flags fuel start text = some (value, rest)) :
      ∃ passed, text = passed ++ rest ∧
        (∀ c ∈ passed, Text.isBlank c = true ∨ c.isDigit = true) ∧
        (1 ≤ start.getD 0 ∨ passed.any isPositiveDigit = true → 1 ≤ value) := by
    induction fuel generalizing start text with
    | zero => cases read
    | succ fuel ih =>
      unfold decimal?.go at read
      split at read
      · split at read
        · rename_i c text digit
          rw [Flags.skip_eq dense] at read
          obtain ⟨passed, rfl, numeric, positive⟩ := ih _ _ read
          refine ⟨c :: passed, rfl, by simpa [digit] using numeric, fun one => positive ?_⟩
          -- The value so far counts tenfold, and the digit is added to it.
          simp only [Option.getD_some, List.any_cons, Bool.or_eq_true] at one ⊢
          rcases one with more | first | later
          · exact Or.inl (by omega)
          · have worth := (isPositiveDigit_spec first).2
            exact Or.inl (by omega)
          · exact Or.inr later
        · exact finish read
      · exact finish read
  -- Blanks in front hold no digit, so a positive one stands behind them.
  obtain ⟨first, cut, before, zero⟩ := blanks source
  obtain ⟨second, same, behind, positive⟩ := go _ _ _ read
  refine ⟨first ++ second, by rw [List.append_assoc, ← same]; exact cut, fun c member => ?_, ?_⟩
  · exact (List.mem_append.mp member).elim (fun member => Or.inl (before c member)) (behind c)
  · intro one
    exact positive (Or.inr (by simpa [zero] using one))

/-- Bounds end with the first closing brace, and ask for a match if the first number does. -/
theorem bounds?_spec {flags : Flags} (dense : flags.spaced = false) {inner after rest : List Char}
    {least : Nat} {most : Option Nat} (inside : '\x7d' ∉ inner) (eager : after.head? ≠ some '?')
    (read : bounds? flags (inner ++ '\x7d' :: after) = some (least, most, rest)) :
    rest = after ∧ ((inner.takeWhile (· != ',')).any isPositiveDigit = true → 1 ≤ least) := by
  obtain ⟨_, behind, closing, one, shape, further⟩ := exists_of_bounds? read
  simp only [Flags.skip_eq dense] at one shape further
  obtain ⟨passed, cut, numeric, positive⟩ := exists_of_decimal? dense one
  have none {c : Char} (other : Text.isBlank c = false ∧ c.isDigit = false) {text : List Char}
      (numeric : ∀ c ∈ text, Text.isBlank c = true ∨ c.isDigit = true) : c ∉ text := by
    intro member
    simpa [other] using numeric c member
  have brace := none (c := '\x7d') (by decide) numeric
  have comma := none (c := ',') (by decide) numeric
  -- Whatever form the bounds have, only blanks, digits and a comma stand before the closing brace.
  obtain ⟨rfl, low⟩ : closing = after ∧ inner.takeWhile (· != ',') = passed := by
    have plain : ∀ c ∈ passed, (c != ',') = true := by
      rintro c member
      exact bne_iff_ne.mpr (by rintro rfl; exact comma member)
    have low {tail : List Char} : (passed ++ ',' :: tail).takeWhile (· != ',') = passed := by
      rw [List.takeWhile_append_of_pos plain]
      simp
    rcases shape with rfl | ⟨more, rfl, rfl⟩ | ⟨more, second, rfl, two⟩
    · -- A number alone is all that stands in the braces.
      obtain ⟨rfl, rfl⟩ := eq_of_append_cons inside brace cut
      exact ⟨rfl, List.takeWhile_eq_self_iff.mpr plain⟩
    · obtain ⟨rfl, rfl⟩ :=
        eq_of_append_cons inside (by simp [brace] : '\x7d' ∉ passed ++ [',']) (by simpa using cut)
      exact ⟨rfl, low⟩
    · -- The second number stands behind the comma and has no brace in it either.
      obtain ⟨between, rfl, digits, _⟩ := exists_of_decimal? dense two
      have brace : '\x7d' ∉ passed ++ ',' :: between := by
        simp [brace, none (c := '\x7d') (by decide) digits]
      obtain ⟨rfl, rfl⟩ := eq_of_append_cons inside brace (by simpa using cut)
      exact ⟨rfl, low⟩
  rw [low]
  refine ⟨?_, positive⟩
  rcases further with same | lazy
  · exact same.symm
  · simp [lazy] at eager

/-- A parenthesis, a bracket or a brace. -/
def isBracket (c : Char) : Bool := "()[]\x7b\x7d".toList.contains c

/-- What may stand in brackets: others only behind a backslash, and short escapes alone. -/
def isSetBody : List Char → Bool
  | [] => true
  | '\\' :: c :: rest => isShortEscape c && isSetBody rest
  | c :: rest => c != '\\' && !isBracket c && isSetBody rest

/-- Past a character that is no backslash, what may stand in brackets goes on. -/
theorem isSetBody_cons {c : Char} {rest : List Char} (body : isSetBody (c :: rest) = true)
    (plain : c ≠ '\\') : isBracket c = false ∧ isSetBody rest = true := by
  unfold isSetBody at body
  -- Only a backslash takes the next character along.
  split at body <;> simp_all

/-- Behind a backslash stands a short escape. -/
theorem isSetBody_escape {rest : List Char} (body : isSetBody ('\\' :: rest) = true) :
    ∃ c tail, rest = c :: tail ∧ isShortEscape c = true ∧ isSetBody tail = true := by
  -- A set does not end in the middle of an escape.
  cases rest with
  | nil => simp [isSetBody] at body
  | cons c tail =>
    simp only [isSetBody, Bool.and_eq_true] at body
    exact ⟨c, tail, rfl, body⟩

/-- No opening brace follows within brackets. -/
theorem ne_brace_of_isSetBody {body after inside : List Char} {first : Char}
    (fits : isSetBody body = true) (same : body ++ ']' :: after = '\x7b' :: first :: inside) :
    False := by
  -- The text begins inside the brackets or with the closing one, and neither is a brace.
  cases body with
  | nil =>
    have wrong := (List.cons.inj same).1
    revert wrong
    decide
  | cons c body =>
    obtain rfl := (List.cons.inj same).1
    have wrong := (isSetBody_cons fits (by decide)).1
    revert wrong
    decide

section Sets

variable {flags : Flags} {body after rest : List Char}

/-- One character or class of a set ends within the brackets. -/
theorem setAtom_spec (dense : flags.spaced = false) (fits : isSetBody body = true)
    (filled : body ≠ []) {atom : Atom}
    (read : setAtom flags (body ++ ']' :: after) = some (atom, rest)) :
    ∃ body', isSetBody body' = true ∧ rest = body' ++ ']' :: after := by
  -- A backslash takes one more character, and any other stands alone.
  cases body with
  | nil => exact absurd rfl filled
  | cons c body =>
    by_cases slash : c = '\\'
    · subst slash
      -- The escape is a short one, so what follows it is inside the brackets still.
      obtain ⟨letter, tail, rfl, short, fits⟩ := isSetBody_escape fits
      have ends := escape_spec dense short
        (fun first inside same => (ne_brace_of_isSetBody fits same).elim) read
      exact ⟨tail, fits, ends.1⟩
    · simp only [List.cons_append, setAtom, Option.some.injEq, Prod.mk.injEq] at read
      exact ⟨body, (isSetBody_cons fits slash).2, read.2.symm⟩

/-- One item of a set ends within the brackets. -/
theorem setItem_spec (dense : flags.spaced = false) (fits : isSetBody body = true)
    (filled : body ≠ []) {set : CharSet}
    (read : setItem flags (body ++ ']' :: after) = some (set, rest)) :
    ∃ body', isSetBody body' = true ∧ rest = body' ++ ']' :: after := by
  -- An item is a single character or class, or a range with two ends.
  unfold setItem at read
  simp only [Option.bind_eq_bind] at read
  -- The first end of the item is read in any case.
  obtain ⟨⟨first, behind⟩, one, read⟩ := Option.bind_eq_some_iff.mp read
  obtain ⟨body, fits, rfl⟩ := setAtom_spec dense fits filled one
  simp only [Flags.skip_eq dense] at read
  split at read
  · cases read
  · rename_i behind same
    split at read
    · -- A hyphen at the end stands for itself.
      obtain ⟨_, _, same'⟩ := Option.map_eq_some_iff.mp read
      cases same'
      exact ⟨body, fits, same.symm⟩
    · obtain ⟨_, _, same'⟩ := Option.map_eq_some_iff.mp read
      cases same'
      exact ⟨body, fits, same.symm⟩
    · -- A range has a second end, which is not the end of the brackets.
      rename_i text unclosed _
      obtain ⟨⟨second, last⟩, two, read⟩ := Option.bind_eq_some_iff.mp read
      cases body with
      | nil => exact absurd (List.cons.inj same).1 (by decide)
      | cons c tail =>
        obtain ⟨rfl, rfl⟩ := List.cons.inj same
        have more : tail ≠ [] := by
          rintro rfl
          exact unclosed after rfl
        obtain ⟨body, fits, rfl⟩ := setAtom_spec dense (isSetBody_cons fits (by decide)).2 more two
        simp only at read
        split at read
        · split at read <;> cases read
          exact ⟨body, fits, rfl⟩
        · cases read
  · obtain ⟨_, _, same⟩ := Option.map_eq_some_iff.mp read
    cases same
    exact ⟨body, fits, rfl⟩

/-- Unless it closes the brackets or is a backslash, the next character belongs to their inside. -/
theorem exists_of_setBody_append {c : Char} {text : List Char} (fits : isSetBody body = true)
    (same : body ++ ']' :: after = c :: text) (unclosed : c ≠ ']') (plain : c ≠ '\\') :
    isBracket c = false ∧ ∃ tail, isSetBody tail = true ∧ text = tail ++ ']' :: after := by
  -- The text goes on inside the brackets unless the inside is empty.
  cases body with
  | nil => exact absurd (List.cons.inj same).1.symm unclosed
  | cons d tail =>
    obtain ⟨rfl, rfl⟩ := List.cons.inj same
    obtain ⟨other, fits⟩ := isSetBody_cons fits plain
    exact ⟨other, tail, fits, rfl⟩

/-- The inside of brackets ends with the first closing one. -/
theorem brackets_spec (dense : flags.spaced = false) {fuel : Nat} {now : OpenBrackets}
    {nested : Nested} (fits : isSetBody body = true)
    (read : brackets flags fuel now [] (body ++ ']' :: after) = some (nested, rest)) :
    rest = after := by
  -- The induction is on the fuel; the inside gets shorter by an item or by an operator.
  induction fuel generalizing now body with
  | zero => cases read
  | succ fuel ih =>
    have operator {c : Char} {text : List Char} (same : body ++ ']' :: after = c :: c :: text)
        (unclosed : c ≠ ']') (plain : c ≠ '\\') {next : OpenBrackets}
        (read : brackets flags fuel next [] text = some (nested, rest)) : rest = after := by
      obtain ⟨_, tail, fits, same⟩ := exists_of_setBody_append fits same unclosed plain
      obtain ⟨_, tail, fits, rfl⟩ := exists_of_setBody_append fits same.symm unclosed plain
      exact ih fits read
    unfold brackets at read
    simp only [Flags.skip_eq dense, Option.bind_eq_bind] at read
    split at read
    · cases read
    · -- No brackets stand in brackets.
      rename_i same
      exact absurd (exists_of_setBody_append fits same (by decide) (by decide)).1 (by decide)
    · rename_i same
      cases body with
      | nil =>
        obtain ⟨_, _, read⟩ := Option.bind_eq_some_iff.mp read
        cases read
        exact (List.cons.inj same).2.symm
      | cons c tail =>
        obtain ⟨rfl, _⟩ := List.cons.inj same
        exact absurd (isSetBody_cons fits (by decide)).1 (by decide)
    · rename_i same
      exact operator same (by decide) (by decide) read
    · rename_i same
      exact operator same (by decide) (by decide) read
    · rename_i same
      exact operator same (by decide) (by decide) read
    · -- Anything else is an item, and is shorter by it.
      rename_i closed _ _ _
      obtain ⟨⟨set, behind⟩, one, read⟩ := Option.bind_eq_some_iff.mp read
      have filled : body ≠ [] := by
        rintro rfl
        exact closed after rfl
      obtain ⟨body, fits, rfl⟩ := setItem_spec dense fits filled one
      exact ih fits read

/-- The items that stand for themselves end within the brackets. -/
theorem leadingItems_spec (dense : flags.spaced = false) (fuel : Nat) (items : List Nested)
    (after : List Char) (fits : isSetBody body = true) (filled : items ≠ [] ∨ body ≠ []) :
    ∃ body', isSetBody body' = true ∧
      (leadingItems flags fuel items (body ++ ']' :: after)).2 = body' ++ ']' :: after := by
  -- Hyphens are passed at the front, and a closing bracket only as the very first item.
  induction fuel generalizing items body with
  | zero => exact ⟨body, fits, rfl⟩
  | succ fuel ih =>
    unfold leadingItems
    split
    · rename_i same
      obtain ⟨_, tail, fits, rfl⟩ := exists_of_setBody_append fits same (by decide) (by decide)
      rw [Flags.skip_eq dense]
      exact ih _ fits (Or.inl (by simp))
    · rename_i same
      split
      · -- A closing bracket stands for itself only where nothing stands before it.
        rename_i none
        cases body with
        | nil => simp_all
        | cons c tail =>
          obtain ⟨rfl, _⟩ := List.cons.inj same
          exact absurd (isSetBody_cons fits (by decide)).1 (by decide)
      · exact ⟨body, fits, rfl⟩
    · exact ⟨body, fits, rfl⟩

/-- A set ends with the first closing bracket, if something stands before that. -/
theorem bracketed_spec (dense : flags.spaced = false) {nested : Nested}
    (fits : isSetBody body = true) (filled : body ≠ []) (positive : body ≠ ['^'])
    (read : bracketed flags (body ++ ']' :: after) = some (nested, rest)) : rest = after := by
  -- Behind a circumflex the inside must still have something in it.
  unfold bracketed openBrackets at read
  simp only [Flags.skip_eq dense] at read
  split at read
  · rename_i text same
    obtain ⟨_, tail, fits, rfl⟩ := exists_of_setBody_append fits same (by decide) (by decide)
    have more : tail ≠ [] := by
      rintro rfl
      have single : body ++ ']' :: after = ['^'] ++ ']' :: after := same
      exact positive (List.append_cancel_right single)
    obtain ⟨body, fits, behind⟩ := leadingItems_spec dense _ [] after fits (Or.inr more)
    rw [behind] at read
    exact brackets_spec dense fits read
  · obtain ⟨body, fits, behind⟩ := leadingItems_spec dense _ [] after fits (Or.inr filled)
    rw [behind] at read
    exact brackets_spec dense fits read

end Sets

end AdFilter.Regex
