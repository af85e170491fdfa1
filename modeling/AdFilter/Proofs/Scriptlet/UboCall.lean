import AdFilter.Proofs.Scriptlet.Enclosed
import AdFilter.Proofs.Scriptlet.Machine
import AdFilter.Proofs.Text.Blank
import AdFilter.Proofs.Text.Search
import AdFilter.Scriptlet.Ubo

/-! A call in the dialect of uBO is read back as the name and the arguments that it was written with. -/

namespace AdFilter.Scriptlet.Ubo

variable {passed rest current text body blanks : List Char} {words : List String} {last : Char}
  {capture : Capture} {opened : Bool} {reader : Reader}

section Expression

/-- An expression ends at the slash that closes it, as long as one that closes is looked for. -/
theorem expressionBody?_append (enclosed : EnclosedAfter '/' last body)
    (closes : closesExpression rest = true) (read : List Char) :
    expressionBody? last read (body ++ '/' :: rest) = some (read.reverse ++ body) := by
  -- Every slash within the body has a backslash before it, so it is passed over.
  induction body generalizing last read with
  | nil =>
    have bare : last ≠ '\\' := enclosed
    simp [expressionBody?, bare, closes]
  | cons c body ih =>
    have escaped : ¬ (c = '/' ∧ last ≠ '\\' ∧ closesExpression (body ++ '/' :: rest) = true) :=
      fun slash => slash.2.1 (enclosed.1 slash.1)
    rw [List.cons_append, expressionBody?, if_neg escaped, ih enclosed.2]
    simp

/-- Slashes with a backslash before them get no other one. -/
theorem escapeSlashes_eq_self (enclosed : EnclosedAfter '/' last body) :
    escapeSlashes last body = body := by
  -- A slash would get a backslash only behind some other character.
  induction body generalizing last with
  | nil => rfl
  | cons c body ih =>
    have escaped : ¬ (c = '/' ∧ last ≠ '\\') := fun slash => slash.2 (enclosed.1 slash.1)
    rw [escapeSlashes, if_neg escaped, ih enclosed.2]

/-- An expression whose slashes are escaped is kept as it is written. -/
theorem expressionText_eq (enclosed : Enclosed '/' body) :
    expressionText body = '/' :: (body ++ ['/']) := by
  -- The body does not begin with a slash, whatever character is taken to stand before it.
  have same : escapeSlashes (Char.ofNat 0) body = body := by
    cases body with
    | nil => rfl
    | cons c body =>
      have after := (enclosed_iff_after (by decide)).mp enclosed
      have other : c ≠ '/' := fun slash => absurd (after.1 slash) (by decide)
      rw [escapeSlashes, if_neg (by simp [other]), escapeSlashes_eq_self after.2]
  simp [expressionText, same]

end Expression

/-- An argument that is read as it is written: trimmed text, or an expression between slashes. -/
inductive IsArgument : List Char → Prop
  | plain {text : List Char} (trimmed : Text.trim text = text) (comma : ',' ∉ text)
    (parenthesis : ')' ∉ text) (slash : text.head? ≠ some '/') : IsArgument text
  | expression {body : List Char} (enclosed : Enclosed '/' body) : IsArgument ('/' :: (body ++ ['/']))

/-- There is no white space around an argument. -/
theorem IsArgument.trim_eq (isArgument : IsArgument text) : Text.trim text = text := by
  -- An expression begins and ends with a slash, and neither is white space.
  cases isArgument with
  | plain trimmed _ _ _ => exact trimmed
  | expression _ => exact Text.trim_eq_self (by decide) (by decide) _

section Machine

/-- An argument may be read in every state but the final ones. -/
theorem dispatch_inParam :
    dispatch table .inParam .inParam reader = dispatch table .betweenParams .inParam reader :=
  dispatch_congr rfl rfl rfl

/-- Behind an argument the machine goes on as it does behind the opening parenthesis. -/
theorem dispatch_betweenParams :
    dispatch table .inParam .betweenParams reader = dispatch table .betweenParams .betweenParams reader :=
  dispatch_congr rfl rfl rfl

/-- Characters other than the delimiters are kept. -/
theorem dispatch_kept (plain : ∀ c ∈ text, c ≠ ',' ∧ c ≠ ')') :
    dispatch table .betweenParams .inParam ⟨⟨passed, text ++ rest⟩, ⟨current, words⟩, opened⟩ =
      dispatch table .betweenParams .inParam
        ⟨⟨text.reverse ++ passed, rest⟩, ⟨text.reverse ++ current, words⟩, opened⟩ := by
  -- Neither a comma nor a parenthesis comes up, so each character leads to the next one.
  induction text generalizing passed current with
  | nil => rfl
  | cons c text ih =>
    rw [List.forall_mem_cons] at plain
    have reply : inParam ⟨⟨passed, c :: (text ++ rest)⟩, ⟨current, words⟩, opened⟩ =
        (some .inParam, ⟨⟨c :: passed, text ++ rest⟩, ⟨c :: current, words⟩, opened⟩) := by
      simp [inParam, Cursor.next, Capture.push, plain.1]
    rw [List.cons_append, dispatch_of_next rfl reply, dispatch_inParam, ih plain.2]
    simp

/-- A comma ends an argument. -/
theorem dispatch_comma :
    dispatch table .betweenParams .inParam ⟨⟨passed, ',' :: rest⟩, capture, opened⟩ =
      dispatch table .betweenParams .betweenParams
        ⟨⟨',' :: passed, rest⟩, capture.finishTrimmed, opened⟩ := by
  -- A comma ends the argument, and white space around it is cut off.
  have reply : inParam ⟨⟨passed, ',' :: rest⟩, capture, opened⟩ =
      (some .betweenParams, ⟨⟨',' :: passed, rest⟩, capture.finishTrimmed, opened⟩) := rfl
  exact (dispatch_of_next rfl reply).trans dispatch_betweenParams

/-- A closing parenthesis ends the last argument, and the call. -/
theorem dispatch_parenthesis :
    dispatch table .betweenParams .inParam ⟨⟨passed, ')' :: rest⟩, capture, opened⟩ =
      (.close, ⟨⟨')' :: passed, rest⟩, capture.finishTrimmed, opened⟩) := by
  -- The closing bracket ends the last argument, and the call with it.
  have reply : inParam ⟨⟨passed, ')' :: rest⟩, capture, opened⟩ =
      (some .close, ⟨⟨')' :: passed, rest⟩, capture.finishTrimmed, opened⟩) := rfl
  exact (dispatch_of_next rfl reply).trans (dispatch_of_last rfl rfl)

/-- White space is skipped up to a character that is not blank. -/
theorem skipBlank_append (blank : ∀ c ∈ blanks, Text.isBlank c = true)
    (filled : ∀ c ∈ rest.head?, Text.isBlank c = false) :
    (Cursor.mk passed (blanks ++ rest)).skipBlank = ⟨blanks.reverse ++ passed, rest⟩ := by
  -- The blanks end where the rest begins.
  simp [Cursor.skipBlank, Cursor.skip, Text.takeWhile_append_eq blank filled]

/-- A parenthesis opens the call. -/
theorem dispatch_opened :
    dispatch table .init .betweenParams ⟨⟨passed, '(' :: rest⟩, capture, false⟩ =
      dispatch table .betweenParams .betweenParams ⟨⟨'(' :: passed, rest⟩, capture, true⟩ := by
  -- There is no white space before the bracket to be passed over.
  have filled : ∀ c ∈ ('(' :: rest).head?, Text.isBlank c = false := by
    rintro c ⟨⟩
    decide
  have here : (Cursor.mk passed ([] ++ '(' :: rest)).skipBlank = ⟨[].reverse ++ passed, '(' :: rest⟩ :=
    skipBlank_append (by simp) filled
  have reply : betweenParams ⟨⟨passed, '(' :: rest⟩, capture, false⟩ =
      (some .betweenParams, ⟨⟨'(' :: passed, rest⟩, capture, true⟩) := by
    rw [List.nil_append, List.reverse_nil, List.nil_append] at here
    simp [betweenParams, here, Cursor.next]
  exact dispatch_of_next rfl reply

/-- An argument that does not begin with a slash is read character by character. -/
theorem dispatch_plain (blank : ∀ c ∈ blanks, Text.isBlank c = true)
    (filled : ∀ c ∈ rest.head?, Text.isBlank c = false) (slash : rest.head? ≠ some '/') :
    dispatch table .betweenParams .betweenParams ⟨⟨passed, blanks ++ rest⟩, capture, true⟩ =
      dispatch table .betweenParams .inParam
        ⟨⟨blanks.reverse ++ passed, rest⟩, capture, true⟩ := by
  have reply : betweenParams ⟨⟨passed, blanks ++ rest⟩, capture, true⟩ =
      (some .inParam, ⟨⟨blanks.reverse ++ passed, rest⟩, capture, true⟩) := by
    -- Behind the white space stands the end, or a character that opens no expression.
    simp only [betweenParams, skipBlank_append blank filled, Bool.not_true]
    cases rest with
    | nil => rfl
    | cons c rest =>
      have other : c ≠ '/' := by simpa using slash
      simp [other]
  exact dispatch_of_next rfl reply

/-- An expression is read at once, up to the slash that closes it. -/
theorem dispatch_expression (blank : ∀ c ∈ blanks, Text.isBlank c = true)
    (enclosed : Enclosed '/' body) (closes : closesExpression rest = true) :
    dispatch table .betweenParams .betweenParams
        ⟨⟨passed, blanks ++ ('/' :: (body ++ ['/']) ++ rest)⟩, ⟨[], words⟩, true⟩ =
      dispatch table .betweenParams .inParam
        ⟨⟨('/' :: (body ++ ['/'])).reverse ++ (blanks.reverse ++ passed), rest⟩,
          ⟨('/' :: (body ++ ['/'])).reverse, words⟩, true⟩ := by
  -- The body is cut where the first slash stands that has no backslash before it.
  have whole : '/' :: (body ++ ['/']) ++ rest = '/' :: (body ++ '/' :: rest) := by simp
  have filled : ∀ c ∈ ('/' :: (body ++ '/' :: rest)).head?, Text.isBlank c = false := by
    rintro c ⟨⟩
    decide
  have found := expressionBody?_append ((enclosed_iff_after (by decide)).mp enclosed) closes []
  -- The two slashes and the body between them are passed over, and kept.
  have reply : betweenParams
      ⟨⟨passed, blanks ++ '/' :: (body ++ '/' :: rest)⟩, ⟨[], words⟩, true⟩ =
      (some .inParam, ⟨⟨('/' :: (body ++ ['/'])).reverse ++ (blanks.reverse ++ passed), rest⟩,
        ⟨('/' :: (body ++ ['/'])).reverse, words⟩, true⟩) := by
    simp only [betweenParams, skipBlank_append blank filled, Bool.not_true, found]
    simp [Cursor.skip, Capture.pushText, expressionText_eq enclosed, List.take_append]
  rw [whole]
  exact dispatch_of_next rfl reply

/-- An argument is read with its delimiter behind it, whatever white space stands before it. -/
theorem dispatch_argument {delimiter : Char} (isArgument : IsArgument text)
    (isDelimiter : delimiter = ',' ∨ delimiter = ')')
    (closes : closesExpression (delimiter :: rest) = true)
    (blank : ∀ c ∈ blanks, Text.isBlank c = true) :
    dispatch table .betweenParams .betweenParams
        ⟨⟨passed, blanks ++ (text ++ delimiter :: rest)⟩, ⟨[], words⟩, true⟩ =
      dispatch table .betweenParams .inParam
        ⟨⟨text.reverse ++ (blanks.reverse ++ passed), delimiter :: rest⟩, ⟨text.reverse, words⟩,
          true⟩ := by
  cases isArgument with
  | plain trimmed comma parenthesis slash =>
    -- What follows the white space is the argument, or the delimiter behind an empty one.
    have filled : ∀ c ∈ (text ++ delimiter :: rest).head?, Text.isBlank c = false := by
      cases text with
      | nil =>
        rintro c ⟨⟩
        rcases isDelimiter with rfl | rfl <;> decide
      | cons c text => exact fun d first => Text.isBlank_head?_of_trim_eq trimmed d first
    have other : (text ++ delimiter :: rest).head? ≠ some '/' := by
      cases text with
      | nil => rcases isDelimiter with rfl | rfl <;> simp
      | cons c text => exact slash
    have kept : ∀ c ∈ text, c ≠ ',' ∧ c ≠ ')' := fun c member =>
      ⟨fun same => comma (same ▸ member), fun same => parenthesis (same ▸ member)⟩
    rw [dispatch_plain blank filled other, dispatch_kept kept, List.append_nil]
  | expression enclosed => exact dispatch_expression blank enclosed closes

/-- An argument that has been read is kept without white space around it, of which there is none. -/
theorem finishTrimmed_argument (isArgument : IsArgument text) :
    (Capture.mk text.reverse words).finishTrimmed = ⟨[], words ++ [String.ofList text]⟩ := by
  -- An argument has no white space to be cut off.
  rw [Capture.finishTrimmed, List.reverse_reverse, isArgument.trim_eq]

end Machine

section Call

/-- Further arguments as they are written: each behind a comma and some number of spaces. -/
def argumentsText (args : List (Nat × String)) : List Char :=
  args.flatMap fun arg => ',' :: (List.replicate arg.1 ' ' ++ arg.2.toList)

/-- A row of arguments up to a closing parenthesis is read as it is written. -/
theorem close_of_arguments {first : String} {args : List (Nat × String)}
    (isArgument : IsArgument first.toList) (areArguments : ∀ arg ∈ args, IsArgument arg.2.toList)
    (blank : ∀ c ∈ blanks, Text.isBlank c = true) :
    ∃ after, dispatch table .betweenParams .betweenParams
        ⟨⟨passed, blanks ++ (first.toList ++ (argumentsText args ++ [')']))⟩, ⟨[], words⟩, true⟩ =
          (.close, after) ∧
      after.capture.words = words ++ first :: args.map (·.2) := by
  -- The spaces behind a comma are the white space that stands before the next argument.
  induction args generalizing first words passed blanks with
  | nil =>
    have closes : closesExpression [')'] = true := by decide
    refine ⟨_, (dispatch_argument isArgument (.inr rfl) closes blank).trans dispatch_parenthesis, ?_⟩
    simp [finishTrimmed_argument isArgument]
  | cons arg args ih =>
    rw [List.forall_mem_cons] at areArguments
    have spaces : ∀ c ∈ List.replicate arg.1 ' ', Text.isBlank c = true := by
      intro c member
      rw [List.eq_of_mem_replicate member]
      decide
    have whole : argumentsText (arg :: args) ++ [')'] = ',' :: (List.replicate arg.1 ' ' ++
        (arg.2.toList ++ (argumentsText args ++ [')']))) := by
      simp [argumentsText]
    -- A comma closes an expression too, whatever comes after it.
    have comma (next : List Char) : closesExpression (',' :: next) = true := by
      simp [closesExpression, Text.trimStart, Text.isBlank]
    rw [whole, dispatch_argument isArgument (.inl rfl) (comma _) blank, dispatch_comma,
      finishTrimmed_argument isArgument, String.ofList_toList]
    obtain ⟨after, closes, found⟩ := ih areArguments.1 areArguments.2 spaces
    refine ⟨after, closes, ?_⟩
    rw [found]
    simp

/-- A call as it is written: the arguments follow the name, each behind a comma and any number of spaces. -/
def callText (name : String) (args : List (Nat × String)) : String :=
  String.ofList ("##+js(".toList ++ (name.toList ++ (argumentsText args ++ [')'])))

/-- The text behind the mark of a call begins with the opening parenthesis. -/
theorem afterMark?_open : afterMark? ("##+js(".toList ++ rest) = some ('(' :: rest) := rfl

/--
A call is read back as it was written: its name in the dialect, and its arguments in order.

An expression may have commas, parentheses, spaces and quotes in it, and other arguments may be empty.
-/
theorem parse?_callText {name : String} {args : List (Nat × String)} (named : name ≠ "")
    (isArgument : IsArgument name.toList) (areArguments : ∀ arg ∈ args, IsArgument arg.2.toList) :
    parse? (callText name args) = some ⟨"ubo-" ++ name, args.map (·.2)⟩ := by
  have chars : (callText name args).toList =
      "##+js(".toList ++ (name.toList ++ (argumentsText args ++ [')'])) := String.toList_ofList
  -- The parenthesis is read first, and then the row behind it.
  have none : ∀ c ∈ ([] : List Char), Text.isBlank c = true := by simp
  obtain ⟨after, closes, found⟩ := close_of_arguments isArgument areArguments none
  have read : run table .betweenParams
      { cursor := .start ('(' :: (name.toList ++ (argumentsText args ++ [')']))) } = (.close, after) :=
    dispatch_opened.trans closes
  simp only [parse?, chars, afterMark?_open, Option.getD_some, read, found, List.nil_append]
  exact ScriptletCall.ofWords?_eq_some_iff.mpr ⟨name, rfl, named, rfl⟩

/-- An expression with delimiters in it stands beside empty and plain arguments. -/
theorem parse?_callText_expression :
    "defuser" ≠ "" ∧ IsArgument "defuser".toList ∧
      (∀ arg ∈ [(1, "/^(a|b), \\/$/"), (0, ""), (2, "x y")], IsArgument arg.2.toList) ∧
      parse? "##+js(defuser, /^(a|b), \\/$/,,  x y)" =
        some ⟨"ubo-defuser", ["/^(a|b), \\/$/", "", "x y"]⟩ := by
  have name : IsArgument "defuser".toList :=
    .plain (by decide) (by decide) (by decide) (by decide)
  have expression : IsArgument "/^(a|b), \\/$/".toList :=
    @IsArgument.expression "^(a|b), \\/$".toList
      ((enclosed_iff_after (by decide)).mpr (by simp [EnclosedAfter]))
  have empty : IsArgument "".toList := .plain (by decide) (by decide) (by decide) (by decide)
  have plain : IsArgument "x y".toList := .plain (by decide) (by decide) (by decide) (by decide)
  have all : ∀ arg ∈ [(1, "/^(a|b), \\/$/"), (0, ""), (2, "x y")], IsArgument arg.2.toList := by
    simpa using ⟨expression, empty, plain⟩
  have written : callText "defuser" [(1, "/^(a|b), \\/$/"), (0, ""), (2, "x y")] =
      "##+js(defuser, /^(a|b), \\/$/,,  x y)" := by decide +kernel
  have read := parse?_callText (by decide) name all
  rw [written] at read
  exact ⟨by decide, name, all, read⟩

end Call

end AdFilter.Scriptlet.Ubo
