import AdFilter.Scriptlet.Call
import AdFilter.Scriptlet.Capture
import AdFilter.Scriptlet.Cursor
import AdFilter.Scriptlet.Machine

/-! The dialect of uBO: `##+js(name, first, /ex,pression/)` or `##script:inject(...)`. -/

namespace AdFilter.Scriptlet.Ubo

/-- A reader of arguments between commas, and whether the opening parenthesis has been read. -/
structure Reader where
  cursor : Cursor
  capture : Capture := {}
  opened : Bool := false

/-- What a reader may still do. -/
def work (action : State) (reader : Reader) : Nat := readerWork action reader.cursor.rest.length

/-- A slash closes an expression when a comma follows, or the last parenthesis. -/
def closesExpression (rest : List Char) : Bool :=
  let tail := Text.trimStart rest
  tail.head? == some ',' || Text.trimEnd tail == [')']

/-- The body of an expression up to the slash that closes it; `body` is what has been read of it, in
reverse, and `last` the character read last. -/
def expressionBody? (last : Char) (body : List Char) : List Char → Option (List Char)
  | [] => none
  | c :: rest =>
    if c = '/' ∧ last ≠ '\\' ∧ closesExpression rest = true then some body.reverse
    else expressionBody? c (c :: body) rest

/-- The text with a backslash before each slash that has none. -/
def escapeSlashes (last : Char) : List Char → List Char
  | [] => []
  | c :: rest =>
    if c = '/' ∧ last ≠ '\\' then '\\' :: c :: escapeSlashes c rest
    else c :: escapeSlashes c rest

/-- An expression between slashes. -/
def expressionText (body : List Char) : List Char :=
  ['/'] ++ escapeSlashes (Char.ofNat 0) body ++ ['/']

/-- Before the first argument a parenthesis must open; an argument that begins with a slash is an
expression, and is taken as a whole. -/
def betweenParams (reader : Reader) : Option State × Reader :=
  let cursor := reader.cursor.skipBlank
  if !reader.opened then
    match cursor.next with
    | (some '(', cursor) => (some .betweenParams, { reader with cursor, opened := true })
    | (_, cursor) => (some .error, { reader with cursor })
  else
    match cursor.rest with
    | '/' :: rest =>
      -- Commas and parentheses within an expression are part of it.
      match expressionBody? '/' [] rest with
      | some body =>
        (some .inParam, { reader with
          -- Both slashes are skipped with the body.
          cursor := cursor.skip (body.length + 2)
          capture := reader.capture.pushText (expressionText body) })
      | none => (some .error, { reader with cursor })
    | _ => (some .inParam, { reader with cursor })

/-- An argument goes on to the next comma, or to the closing parenthesis, and is trimmed. -/
def inParam (reader : Reader) : Option State × Reader :=
  match reader.cursor.next with
  | (none, _) => (some .error, reader)
  | (some c, cursor) =>
    -- Quotes mean nothing here, so any comma ends the argument.
    if c = ',' then
      (some .betweenParams, { reader with cursor, capture := reader.capture.finishTrimmed })
    else if c = ')' then
      (some .close, { reader with cursor, capture := reader.capture.finishTrimmed })
    else (some .inParam, { reader with cursor, capture := reader.capture.push c })

theorem betweenParams_progress (reader : Reader) (next : State) (after : Reader)
    (reply : betweenParams reader = (some next, after)) :
    work next after < work .betweenParams reader := by
  have shrinks := reader.cursor.rest_skipBlank_le
  -- White space may be passed over, which makes the rest no longer.
  unfold betweenParams at reply
  grind [work, readerWork, Cursor.length_of_next, Cursor.skip, Cursor.next]

theorem inParam_progress (reader : Reader) (next : State) (after : Reader)
    (reply : inParam reader = (some next, after)) :
    work next after < work .inParam reader := by
  unfold inParam Cursor.next at reply
  -- At the end the work of the action is spent, and otherwise a character is.
  cases text : reader.cursor.rest with
  | nil => simp only [text] at reply; cases reply; simp [work, readerWork]
  | cons c rest =>
    simp only [text] at reply
    repeat' split at reply
    all_goals
      cases reply
      simp [work, readerWork, text] <;> omega

/-- The table of the dialect. -/
def table : List (Transition Reader work) := [
  ⟨.init, .betweenParams, betweenParams, betweenParams_progress⟩,
  ⟨.betweenParams, .betweenParams, betweenParams, betweenParams_progress⟩,
  ⟨.betweenParams, .inParam, inParam, inParam_progress⟩,
  .halt .betweenParams .error,
  ⟨.inParam, .inParam, inParam, inParam_progress⟩,
  ⟨.inParam, .betweenParams, betweenParams, betweenParams_progress⟩,
  .halt .inParam .close,
  .halt .inParam .error]

/-- The text behind the first mark, of which there are two. -/
def afterMark? : List Char → Option (List Char)
  | [] => none
  | c :: rest =>
    (List.isPrefixOf? "##script:inject".toList (c :: rest)).orElse fun _ =>
      (List.isPrefixOf? "+js".toList (c :: rest)).orElse fun _ => afterMark? rest

/-- The call that a text stands for. -/
def parse? (text : String) : Option ScriptletCall :=
  -- Without a mark the text is read from its start.
  let body := (afterMark? text.toList).getD text.toList
  match run table .betweenParams { cursor := .start body } with
  | (.close, reader) => ScriptletCall.ofWords? .ubo reader.capture.words
  | _ => none

end AdFilter.Scriptlet.Ubo
