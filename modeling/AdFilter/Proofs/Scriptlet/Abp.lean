import AdFilter.Proofs.Scriptlet.Machine
import AdFilter.Proofs.Text.Blank
import AdFilter.Scriptlet.Abp

/-! Statements between quotes are read back, in the dialect of ABP, as the calls that they were written for. -/

namespace AdFilter.Scriptlet.Abp

/-- A character between quotes, behind a backslash if it is one, or the quote. -/
def escape (quote c : Char) : List Char := if c = '\\' ∨ c = quote then ['\\', c] else [c]

/-- A string that is not empty, and the quote that is chosen to write it. -/
structure Quoted where
  quote : Char
  string : String
  isQuote : quote = '\'' ∨ quote = '"'
  filled : string ≠ ""

/-- A string as it is written, between its quotes. -/
def Quoted.text (word : Quoted) : List Char :=
  word.quote :: (word.string.toList.flatMap (escape word.quote) ++ [word.quote])

/-- What separates the strings of a statement: spaces and tabs, at least one. -/
structure Gap where
  text : List Char
  filled : text ≠ []
  isGap : ∀ c ∈ text, c = ' ' ∨ c = '\t'

/-- A statement: a name, and the arguments, each with the gap before it. -/
structure Statement where
  name : Quoted
  args : List (Gap × Quoted)

/-- Arguments as they are written behind a name. -/
def argsText (args : List (Gap × Quoted)) : List Char :=
  args.flatMap fun arg => arg.1.text ++ arg.2.text

namespace Statement

/-- A statement as it is written. -/
def text (statement : Statement) : List Char := statement.name.text ++ argsText statement.args

/-- The strings of a statement. -/
def words (statement : Statement) : List String :=
  statement.name.string :: statement.args.map (·.2.string)

/-- The call that a statement is written for. -/
def call (statement : Statement) : ScriptletCall :=
  ⟨"abp-" ++ statement.name.string, statement.args.map (·.2.string)⟩

end Statement

/-- What separates statements: a semicolon with so many spaces before it and behind it. -/
def separator (spaces : Nat × Nat) : List Char :=
  List.replicate spaces.1 ' ' ++ ';' :: List.replicate spaces.2 ' '

/-- Statements as they are written, each but the first one behind a separator. -/
def snippet (first : Statement) (others : List ((Nat × Nat) × Statement)) : List Char :=
  first.text ++ others.flatMap fun other => separator other.1 ++ other.2.text

section Trim

/-- A text that begins and ends with characters that are not blank. -/
def Framed (text : List Char) : Prop :=
  ∃ opening inside closing, Text.isBlank opening = false ∧ Text.isBlank closing = false ∧
    text = opening :: (inside ++ [closing])

/-- A row of framed texts is framed, whatever stands between them. -/
theorem Framed.row {α : Type} {start : List Char} (framed : Framed start) (gap text : α → List Char)
    (each : ∀ a, Framed (text a)) (row : List α) :
    Framed (start ++ row.flatMap fun a => gap a ++ text a) := by
  -- Each text of the row becomes the end of what stands before the next one.
  induction row generalizing start with
  | nil => simpa using framed
  | cons a row ih =>
    obtain ⟨opening, inside, last, opens, _, rfl⟩ := framed
    obtain ⟨next, inside', closing, _, closes, whole⟩ := each a
    have longer : Framed (opening :: (inside ++ [last]) ++ (gap a ++ text a)) :=
      ⟨opening, inside ++ last :: (gap a ++ next :: inside'), closing, opens, closes, by simp [whole]⟩
    have rest := ih longer
    rwa [List.append_assoc] at rest

theorem Quoted.framed (word : Quoted) : Framed word.text := by
  -- Neither of the quotes is white space.
  have filled : Text.isBlank word.quote = false := by
    rcases word.isQuote with same | same <;> rw [same] <;> decide
  exact ⟨word.quote, _, word.quote, filled, filled, rfl⟩

/-- There is no white space around a snippet. -/
theorem trim_snippet (first : Statement) (others : List ((Nat × Nat) × Statement)) :
    Text.trim (snippet first others) = snippet first others := by
  have statement (s : Statement) : Framed s.text :=
    s.name.framed.row (fun arg : Gap × Quoted => arg.1.text) (fun arg => arg.2.text)
      (fun arg => arg.2.framed) s.args
  have all : Framed (snippet first others) :=
    (statement first).row (fun other : (Nat × Nat) × Statement => separator other.1)
      (fun other => other.2.text) (fun other => statement other.2) others
  -- The first and the last character are quotes.
  obtain ⟨opening, inside, closing, opens, closes, whole⟩ := all
  rw [whole]
  exact Text.trim_eq_self opens closes inside

end Trim

section Machine

variable {passed rest current : List Char} {words : List String} {capture : Capture}
  {statements : List (List String)} {quote : Char} {state : State} {reader : Reader}

/-- A word may be read in every state but the final ones. -/
theorem dispatch_inParam (live : state = .init ∨ state = .betweenParams) :
    dispatch table state .inParam reader = dispatch table .inParam .inParam reader := by
  -- From all three states the action has the same entry.
  rcases live with rfl | rfl <;> exact dispatch_congr rfl rfl rfl

/-- A quote opens a word. -/
theorem dispatch_opened (isQuote : quote = '\'' ∨ quote = '"') :
    dispatch table .inParam .inParam ⟨⟨passed, quote :: rest⟩, capture, statements, none⟩ =
      dispatch table .inParam .inParam
        ⟨⟨quote :: passed, rest⟩, capture, statements, some quote⟩ := by
  -- Outside of a string a quote opens one, and is kept to be compared with.
  have reply : inParam ⟨⟨passed, quote :: rest⟩, capture, statements, none⟩ =
      (some .inParam, ⟨⟨quote :: passed, rest⟩, capture, statements, some quote⟩) := by
    simp [inParam, Cursor.next, isQuote]
  exact dispatch_of_next rfl reply

/-- A character between quotes is kept as it was before it was written. -/
theorem dispatch_escape (plain : quote ≠ '\\') (c : Char) :
    dispatch table .inParam .inParam
        ⟨⟨passed, escape quote c ++ rest⟩, capture, statements, some quote⟩ =
      dispatch table .inParam .inParam
        ⟨⟨(escape quote c).reverse ++ passed, rest⟩, capture.push c, statements, some quote⟩ := by
  have reply : inParam ⟨⟨passed, escape quote c ++ rest⟩, capture, statements, some quote⟩ =
      (some .inParam, ⟨⟨(escape quote c).reverse ++ passed, rest⟩, capture.push c, statements,
        some quote⟩) := by
    unfold escape
    split
    · -- The backslash is no quote, and what follows it is kept whatever it is.
      simp [inParam, Cursor.next, plain.symm]
    · rename_i ordinary
      rw [not_or] at ordinary
      simp [inParam, Cursor.next, ordinary]
  exact dispatch_of_next rfl reply

/-- The characters of a string are kept one after the other. -/
theorem dispatch_string (plain : quote ≠ '\\') (string : List Char) :
    dispatch table .inParam .inParam
        ⟨⟨passed, string.flatMap (escape quote) ++ rest⟩, ⟨current, words⟩, statements, some quote⟩ =
      dispatch table .inParam .inParam
        ⟨⟨(string.flatMap (escape quote)).reverse ++ passed, rest⟩,
          ⟨string.reverse ++ current, words⟩, statements, some quote⟩ := by
  -- Each character is read with the rest of the string as what stands behind it.
  induction string generalizing passed current with
  | nil => rfl
  | cons c string ih =>
    rw [List.flatMap_cons, List.append_assoc, dispatch_escape plain, Capture.push, ih]
    simp

/-- The quote that has opened a word closes it. -/
theorem dispatch_closed (filled : current ≠ []) :
    dispatch table .inParam .inParam
        ⟨⟨passed, quote :: rest⟩, ⟨current, words⟩, statements, some quote⟩ =
      dispatch table .inParam .betweenParams
        ⟨⟨quote :: passed, rest⟩, ⟨[], words ++ [String.ofList current.reverse]⟩, statements,
          none⟩ := by
  -- The quote that opened the string closes it, and the word is finished.
  have reply : inParam ⟨⟨passed, quote :: rest⟩, ⟨current, words⟩, statements, some quote⟩ =
      (some .betweenParams, ⟨⟨quote :: passed, rest⟩,
        ⟨[], words ++ [String.ofList current.reverse]⟩, statements, none⟩) := by
    simp [inParam, Cursor.next, Reader.finishWord, Capture.finishNonEmpty, Capture.finish, filled]
  exact dispatch_of_next rfl reply

/-- A string is read with anything behind it. -/
theorem dispatch_quoted (word : Quoted) :
    dispatch table .inParam .inParam
        ⟨⟨passed, word.text ++ rest⟩, ⟨[], words⟩, statements, none⟩ =
      dispatch table .inParam .betweenParams
        ⟨⟨word.text.reverse ++ passed, rest⟩, ⟨[], words ++ [word.string]⟩, statements, none⟩ := by
  have plain : word.quote ≠ '\\' := by
    rcases word.isQuote with same | same <;> rw [same] <;> decide
  have filled : word.string.toList.reverse ++ [] ≠ [] := by
    simpa using word.filled
  -- The opening quote, the string and the closing quote are read in turn.
  have whole : word.text ++ rest = word.quote :: (word.string.toList.flatMap (escape word.quote) ++
      word.quote :: rest) := by
    simp [Quoted.text]
  rw [whole, dispatch_opened word.isQuote, dispatch_string plain, dispatch_closed filled]
  simp [Quoted.text]

/-- Outside of quotes spaces and tabs are passed over while no word is under way. -/
theorem dispatch_blanks {blanks : List Char} (isGap : ∀ c ∈ blanks, c = ' ' ∨ c = '\t') :
    dispatch table .inParam .inParam
        ⟨⟨passed, blanks ++ rest⟩, ⟨[], words⟩, statements, none⟩ =
      dispatch table .inParam .inParam
        ⟨⟨blanks.reverse ++ passed, rest⟩, ⟨[], words⟩, statements, none⟩ := by
  -- With no word under way a blank finishes none, so the words stay as they are.
  induction blanks generalizing passed with
  | nil => rfl
  | cons c blanks ih =>
    rw [List.forall_mem_cons] at isGap
    have reply : inParam ⟨⟨passed, c :: (blanks ++ rest)⟩, ⟨[], words⟩, statements, none⟩ =
        (some .inParam, ⟨⟨c :: passed, blanks ++ rest⟩, ⟨[], words⟩, statements, none⟩) := by
      rcases isGap.1 with rfl | rfl <;> rfl
    rw [List.cons_append, dispatch_of_next rfl reply, ih isGap.2]
    simp

/-- Behind a string a gap leads to the next one. -/
theorem dispatch_gap {gap : List Char} (filled : gap ≠ []) (isGap : ∀ c ∈ gap, c = ' ' ∨ c = '\t') :
    dispatch table .inParam .betweenParams
        ⟨⟨passed, gap ++ rest⟩, ⟨[], words⟩, statements, none⟩ =
      dispatch table .inParam .inParam
        ⟨⟨gap.reverse ++ passed, rest⟩, ⟨[], words⟩, statements, none⟩ := by
  cases gap with
  | nil => exact absurd rfl filled
  | cons c blanks =>
    rw [List.forall_mem_cons] at isGap
    -- The first character ends the string, and the others are passed over.
    have reply : betweenParams ⟨⟨passed, c :: (blanks ++ rest)⟩, ⟨[], words⟩, statements, none⟩ =
        (some .inParam, ⟨⟨c :: passed, blanks ++ rest⟩, ⟨[], words⟩, statements, none⟩) := by
      rcases isGap.1 with rfl | rfl <;> rfl
    rw [List.cons_append, dispatch_of_next rfl reply, dispatch_inParam (.inr rfl),
      dispatch_blanks isGap.2]
    simp

/-- A statement is finished with the words that it has. -/
theorem finishStatement_words (named : words ≠ []) :
    Reader.finishStatement ⟨⟨passed, rest⟩, ⟨current, words⟩, statements, none⟩ =
      ⟨⟨passed, rest⟩, ⟨current, []⟩, statements ++ [words], none⟩ := by
  simp [Reader.finishStatement, Capture.take, named]

/-- A semicolon finishes the statement, whether it stands right behind a string or not. -/
theorem dispatch_separator (named : words ≠ []) (spaces : Nat × Nat) :
    dispatch table .inParam .betweenParams
        ⟨⟨passed, separator spaces ++ rest⟩, ⟨[], words⟩, statements, none⟩ =
      dispatch table .inParam .inParam
        ⟨⟨(separator spaces).reverse ++ passed, rest⟩, ⟨[], []⟩, statements ++ [words], none⟩ := by
  obtain ⟨before, behind⟩ := spaces
  have isGap (n : Nat) : ∀ c ∈ List.replicate n ' ', c = ' ' ∨ c = '\t' :=
    fun c member => .inl (List.eq_of_mem_replicate member)
  have whole : separator (before, behind) ++ rest =
      List.replicate before ' ' ++ ';' :: (List.replicate behind ' ' ++ rest) := by
    simp [separator]
  rw [whole]
  cases before with
  | zero =>
    -- The semicolon stands right behind the closing quote.
    have reply (next : List Char) :
        betweenParams ⟨⟨passed, ';' :: next⟩, ⟨[], words⟩, statements, none⟩ =
        (some .inParam, ⟨⟨';' :: passed, next⟩, ⟨[], []⟩, statements ++ [words], none⟩) := by
      simp [betweenParams, Cursor.next, finishStatement_words named]
    rw [List.replicate_zero, List.nil_append, dispatch_of_next rfl (reply _),
      dispatch_inParam (.inr rfl), dispatch_blanks (isGap behind)]
    simp [separator]
  | succ before =>
    -- The spaces are passed over first, and the semicolon is read where a word may stand.
    have reply (front next : List Char) :
        inParam ⟨⟨front, ';' :: next⟩, ⟨[], words⟩, statements, none⟩ =
        (some .inParam, ⟨⟨';' :: front, next⟩, ⟨[], []⟩, statements ++ [words], none⟩) := by
      simp [inParam, Cursor.next, Reader.finishWord, Capture.finishNonEmpty,
        finishStatement_words named]
    rw [dispatch_gap (by simp) (isGap (before + 1)), dispatch_of_next rfl (reply _ _),
      dispatch_blanks (isGap behind)]
    simp [separator]

/-- The end of the text finishes the last statement. -/
theorem dispatch_end (named : words ≠ []) :
    dispatch table .inParam .betweenParams ⟨⟨passed, []⟩, ⟨[], words⟩, statements, none⟩ =
      (.close, ⟨⟨passed, []⟩, ⟨[], []⟩, statements ++ [words], none⟩) := by
  -- At the end the last statement is finished, since it has a name.
  have reply : betweenParams ⟨⟨passed, []⟩, ⟨[], words⟩, statements, none⟩ =
      (some .close, ⟨⟨passed, []⟩, ⟨[], []⟩, statements ++ [words], none⟩) := by
    simp [betweenParams, Cursor.next, finishStatement_words named]
  exact (dispatch_of_next rfl reply).trans (dispatch_of_last rfl rfl)

/-- Further arguments are read one after the other. -/
theorem dispatch_args (args : List (Gap × Quoted)) :
    dispatch table .inParam .betweenParams
        ⟨⟨passed, argsText args ++ rest⟩, ⟨[], words⟩, statements, none⟩ =
      dispatch table .inParam .betweenParams
        ⟨⟨(argsText args).reverse ++ passed, rest⟩, ⟨[], words ++ args.map (·.2.string)⟩,
          statements, none⟩ := by
  induction args generalizing passed words with
  | nil => simp [argsText]
  | cons arg args ih =>
    obtain ⟨gap, word⟩ := arg
    have whole : argsText ((gap, word) :: args) = gap.text ++ (word.text ++ argsText args) := by
      simp [argsText]
    -- The gap leads to the string, and that to the arguments behind it.
    rw [whole, List.append_assoc, List.append_assoc, dispatch_gap gap.filled gap.isGap,
      dispatch_quoted, ih]
    simp

/-- A statement is read with anything behind it. -/
theorem dispatch_statement (statement : Statement) :
    dispatch table .inParam .inParam
        ⟨⟨passed, statement.text ++ rest⟩, ⟨[], []⟩, statements, none⟩ =
      dispatch table .inParam .betweenParams
        ⟨⟨statement.text.reverse ++ passed, rest⟩, ⟨[], statement.words⟩, statements, none⟩ := by
  -- The name is read first, and then the arguments behind it.
  rw [Statement.text, List.append_assoc, dispatch_quoted, dispatch_args]
  simp [Statement.words]

/-- A snippet is read to its end, and every statement in it gives its words. -/
theorem close_of_snippet (first : Statement) (others : List ((Nat × Nat) × Statement)) :
    ∃ after, dispatch table .inParam .inParam
        ⟨⟨passed, snippet first others⟩, ⟨[], []⟩, statements, none⟩ = (.close, after) ∧
      after.statements = statements ++ first.words :: others.map (·.2.words) := by
  -- Every statement has its name at least, so none is dropped.
  have named (s : Statement) : s.words ≠ [] := List.cons_ne_nil _ _
  -- What is left behind a separator is a snippet again.
  induction others generalizing first passed statements with
  | nil => exact ⟨_, (dispatch_statement first).trans (dispatch_end (named first)), by simp⟩
  | cons other others ih =>
    have whole : snippet first (other :: others) =
        first.text ++ (separator other.1 ++ snippet other.2 others) := by
      simp [snippet]
    rw [whole, dispatch_statement, dispatch_separator (named first)]
    obtain ⟨after, closes, found⟩ := ih other.2
    refine ⟨after, closes, ?_⟩
    rw [found]
    simp

end Machine

/-- The words of a statement are those of its call. -/
theorem ofWords?_words (statement : Statement) :
    ScriptletCall.ofWords? .abp statement.words = some statement.call :=
  ScriptletCall.ofWords?_eq_some_iff.mpr
    ⟨statement.name.string, rfl, statement.name.filled, rfl⟩

/--
Statements between quotes are read back as one call each, in order, with all their strings.

The strings may have any characters in them, spaces, semicolons, quotes and backslashes included.
-/
theorem parse?_snippet (first : Statement) (others : List ((Nat × Nat) × Statement)) :
    parse? (String.ofList (snippet first others)) =
      some (first.call :: others.map (·.2.call)) := by
  -- Trimming leaves the snippet whole, and the machine reads it from its first quote.
  obtain ⟨after, closes, found⟩ := close_of_snippet first others
  have read : run table .inParam { cursor := .start (snippet first others) } = (.close, after) :=
    (dispatch_inParam (.inl rfl)).trans closes
  have calls : after.statements.filterMap (ScriptletCall.ofWords? .abp) =
      first.call :: others.map (·.2.call) := by
    rw [found]
    simp [ofWords?_words, List.filterMap_map]
  simp only [parse?, String.toList_ofList, trim_snippet, read, calls]

/-- Two statements, with either quote and with marks of the dialect between quotes, are read as two calls. -/
theorem parse?_snippet_quotes :
    parse? "\"log\" \t'it\\'s; \\\\' ; 'f'" =
      some [⟨"abp-log", ["it's; \\"]⟩, ⟨"abp-f", []⟩] := by
  let gap : Gap := ⟨[' ', '\t'], by decide, by simp⟩
  let log : Statement :=
    ⟨⟨'"', "log", .inr rfl, by decide⟩, [(gap, ⟨'\'', "it's; \\", .inl rfl, by decide⟩)]⟩
  let f : Statement := ⟨⟨'\'', "f", .inl rfl, by decide⟩, []⟩
  -- The text is what these statements are written as.
  have written : String.ofList (snippet log [((1, 1), f)]) = "\"log\" \t'it\\'s; \\\\' ; 'f'" := by
    decide +kernel
  have calls : [log.call, f.call] = [⟨"abp-log", ["it's; \\"]⟩, ⟨"abp-f", []⟩] := by decide +kernel
  rw [← written, ← calls]
  exact parse?_snippet log [((1, 1), f)]

end AdFilter.Scriptlet.Abp
