import AdFilter.Network.Text
import Mathlib

/-!
Options in a row, as rules write them: commas divide them, and a comma that belongs to an option has a
backslash before it.
-/

namespace AdFilter.Network

/-- A character of an option as it is written. -/
def escapeComma (c : Char) : List Char := if c = ',' then ['\\', ','] else [c]

/-- An option with a backslash before each comma. -/
def escapeCommas (option : List Char) : List Char := option.flatMap escapeComma

/-- Options in a row and the text that they are written in: between two of them there is a comma at
least, and there may be more commas in every place. -/
inductive Row : List (List Char) → List Char → Prop
  | empty : Row [] []
  | single (option : List Char) : Row [option] (escapeCommas option)
  /-- A comma goes between two rows, of which either may be empty. -/
  | comma {options others : List (List Char)} {text more : List Char} (row : Row options text)
      (next : Row others more) : Row (options ++ others) (text ++ ',' :: more)

variable {c : Char} {option current text more rest : List Char} {options : List (List Char)}

/-! ### One character -/

/-- A character that is no comma is added to the option under way. -/
theorem optionsFrom_cons_of_ne (plain : c ≠ ',') :
    optionsFrom current (c :: rest) = optionsFrom (c :: current) rest := by
  simp [optionsFrom, plain]

/-- A comma takes the place of the backslash before it. -/
theorem optionsFrom_escaped :
    optionsFrom ('\\' :: current) (',' :: rest) = optionsFrom (',' :: current) rest := by
  simp [optionsFrom]

/-- Without a backslash before it, a comma ends the option under way. -/
theorem optionsFrom_cons_comma (unescaped : current.head? ≠ some '\\') :
    optionsFrom current (',' :: rest) = optionsFrom current [] ++ optionsFrom [] rest := by
  -- A comma without a backslash before it ends the option.
  cases current with
  | nil => simp [optionsFrom]
  | cons d current =>
    have other : d ≠ '\\' := by simpa using unescaped
    simp [optionsFrom, other]

/-! ### What is written is read -/

@[simp] theorem escapeCommas_append :
    escapeCommas (text ++ more) = escapeCommas text ++ escapeCommas more :=
  List.flatMap_append

/-- An option ends as it is written. -/
theorem getLast?_escapeCommas (option : List Char) :
    (escapeCommas option).getLast? = option.getLast? := by
  rcases List.eq_nil_or_concat option with rfl | ⟨before, last, rfl⟩
  · rfl
  · -- The backslash of a comma stands before it.
    rw [List.concat_eq_append, escapeCommas_append, List.getLast?_append, List.getLast?_append]
    by_cases comma : last = ',' <;> simp [escapeCommas, escapeComma, comma]

/-- The characters of an option are added to the one under way. -/
theorem optionsFrom_escapeCommas :
    optionsFrom current (escapeCommas option ++ rest) = optionsFrom (option.reverse ++ current) rest := by
  -- The induction is on the option, of which each character is read with its backslash.
  induction option generalizing current with
  | nil => rfl
  | cons c option ih =>
    have read : optionsFrom current (escapeComma c ++ (escapeCommas option ++ rest)) =
        optionsFrom (c :: current) (escapeCommas option ++ rest) := by
      by_cases comma : c = ','
      · rw [comma, escapeComma, if_pos rfl, List.cons_append, List.singleton_append,
          optionsFrom_cons_of_ne (by decide), optionsFrom_escaped]
      · rw [escapeComma, if_neg comma, List.singleton_append, optionsFrom_cons_of_ne comma]
    rw [escapeCommas, List.flatMap_cons, ← escapeCommas, List.append_assoc, read, ih,
      List.reverse_cons, List.append_assoc, List.singleton_append]

/-- A comma divides what is read, unless a backslash was read just before. -/
theorem optionsFrom_append_comma (ends : (text.reverse ++ current).head? ≠ some '\\') :
    optionsFrom current (text ++ ',' :: more) = optionsFrom current text ++ optionsFrom [] more := by
  -- The induction is on the text before the comma; what was read last is followed through it.
  induction text generalizing current with
  | nil => exact optionsFrom_cons_comma ends
  | cons c text ih =>
    rw [List.reverse_cons, List.append_assoc, List.singleton_append] at ends
    rw [List.cons_append]
    by_cases comma : c = ','
    · subst comma
      by_cases escaped : current.head? = some '\\'
      · -- The comma is read last, whatever it has taken the place of.
        obtain ⟨kept, rfl⟩ := List.head?_eq_some_iff.mp escaped
        rw [optionsFrom_escaped, optionsFrom_escaped]
        exact ih (by simpa [List.head?_append] using ends)
      · -- A comma that divides the text before is followed by an option of its own.
        rw [optionsFrom_cons_comma escaped, optionsFrom_cons_comma escaped, List.append_assoc]
        have after : (text.reverse ++ []).head? ≠ some '\\' := by
          intro last
          rw [List.append_nil] at last
          simp [List.head?_append, last] at ends
        rw [ih after]
    · rw [optionsFrom_cons_of_ne comma, optionsFrom_cons_of_ne comma]
      exact ih ends

/-- A comma divides the options, unless a backslash stands before it. -/
theorem splitOptions_append_comma (ends : text.getLast? ≠ some '\\') :
    splitOptions (text ++ ',' :: more) = splitOptions text ++ splitOptions more :=
  -- Nothing was read before the text.
  optionsFrom_append_comma (by simpa using ends)

/-- An option that is written alone is all that is read. -/
theorem splitOptions_escapeCommas (filled : option ≠ []) :
    splitOptions (escapeCommas option) = [option] := by
  -- Every comma is escaped, so the text is read as one option.
  have read : optionsFrom [] (escapeCommas option ++ []) = optionsFrom (option.reverse ++ []) [] :=
    optionsFrom_escapeCommas
  simpa [optionsFrom, filled, splitOptions] using read

/-- A row ends with a backslash only where an option does. -/
theorem Row.getLast?_ne (row : Row options text) (ends : ∀ option ∈ options, option.getLast? ≠ some '\\') :
    text.getLast? ≠ some '\\' := by
  induction row with
  | empty => simp
  | single option => simpa [getLast?_escapeCommas] using ends
  | @comma options others text more _ _ _ next =>
    have last := next fun option member => ends option (List.mem_append_right _ member)
    rw [List.getLast?_append_cons, List.getLast?_cons]
    -- The second row ends the text, or the comma does if there is nothing in that.
    cases found : more.getLast? <;> simp_all

/-! ### What is read is written -/

/-- At the end of a text, the option under way is the only one, unless it is empty. -/
theorem row_optionsFrom_nil (current : List Char) :
    Row (optionsFrom current []) (escapeCommas current.reverse) := by
  -- At the end of the text an option that is empty is no option.
  cases current with
  | nil => exact .empty
  | cons c current => exact .single (c :: current).reverse

/-- What is read is a row: the option under way, as it is written, and what follows it. -/
theorem row_optionsFrom (current text : List Char) :
    Row (optionsFrom current text) (escapeCommas current.reverse ++ text) := by
  -- At each character, either it joins the option under way or a comma ends that.
  induction text generalizing current with
  | nil => simpa using row_optionsFrom_nil current
  | cons c text ih =>
    by_cases comma : c = ','
    · subst comma
      by_cases escaped : current.head? = some '\\'
      · obtain ⟨kept, rfl⟩ := List.head?_eq_some_iff.mp escaped
        simpa [optionsFrom_escaped, escapeCommas, escapeComma] using ih (',' :: kept)
      · rw [optionsFrom_cons_comma escaped]
        exact .comma (row_optionsFrom_nil current) (ih [])
    · simpa [optionsFrom_cons_of_ne comma, escapeCommas, escapeComma, comma] using ih (c :: current)

/--
Options that have a backslash before each of their commas, and further commas between them, are read back
just as they are; and no other text gives these options.

None of them may be empty, or end with a backslash that would belong to the next comma.
-/
theorem splitOptions_eq_iff_row
    (proper : ∀ option ∈ options, option ≠ [] ∧ option.getLast? ≠ some '\\') :
    splitOptions text = options ↔ Row options text := by
  constructor
  · rintro rfl
    exact row_optionsFrom [] text
  · intro row
    -- Each comma between two rows divides the options, since no backslash ends the first of them.
    induction row with
    | empty => rfl
    | single option => exact splitOptions_escapeCommas (proper option (by simp)).1
    | comma row _ first second =>
      have before := fun option member => proper option (List.mem_append_left _ member)
      have behind := fun option member => proper option (List.mem_append_right _ member)
      rw [splitOptions_append_comma (row.getLast?_ne fun option member => (before option member).2),
        first before, second behind]

/-- Commas, backslashes and letters of any kind come back, and doubled commas say nothing. -/
theorem splitOptions_eq_iff_row_escaped :
    let options := ["csp=a,b".toList, "é\\,\\x".toList, ",".toList]
    let text := ",csp=a\\,b,,é\\\\,\\x,\\,,,".toList
    (∀ option ∈ options, option ≠ [] ∧ option.getLast? ≠ some '\\') ∧ Row options text ∧
      splitOptions text = options := by
  intro options text
  have proper : ∀ option ∈ options, option ≠ [] ∧ option.getLast? ≠ some '\\' := by decide
  -- Empty options stand at both ends and in the middle, and escaped commas inside.
  have row : Row options text :=
    .comma .empty <| .comma (.single "csp=a,b".toList) <| .comma .empty <|
      .comma (.single "é\\,\\x".toList) <| .comma (.single ",".toList) <| .comma .empty .empty
  exact ⟨proper, row, (splitOptions_eq_iff_row proper).mpr row⟩

end AdFilter.Network
