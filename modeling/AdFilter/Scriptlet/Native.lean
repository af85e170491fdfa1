import AdFilter.Scriptlet.Call
import AdFilter.Scriptlet.Capture
import AdFilter.Scriptlet.Cursor
import AdFilter.Scriptlet.Machine

/-! The native dialect: `//scriptlet('name', 'first', "second")`. -/

namespace AdFilter.Scriptlet.Native

/-- A reader of quoted arguments, and the quote that opened the last one. -/
structure Reader where
  cursor : Cursor
  capture : Capture := {}
  quote : Char := '\''

/-- What a reader may still do. -/
def work (action : State) (reader : Reader) : Nat := readerWork action reader.cursor.rest.length

/-- Between arguments only separators, an opening quote and the closing parenthesis may stand. -/
def betweenParams (reader : Reader) : Option State × Reader :=
  match reader.cursor.next with
  | (none, _) => (some .error, reader)
  | (some c, cursor) =>
    if c = '\'' ∨ c = '"' then (some .inParam, { reader with cursor, quote := c })
    else if c = ' ' ∨ c = '(' ∨ c = ',' then (some .betweenParams, { reader with cursor })
    else if c = ')' then (some .close, { reader with cursor })
    else (some .error, { reader with cursor })

/-- An argument goes on to its own quote; a backslash before one keeps both in the argument. -/
def inParam (reader : Reader) : Option State × Reader :=
  match reader.cursor.next with
  | (none, _) => (some .error, reader)
  | (some c, cursor) =>
    -- The backslash is looked for among what has been read already.
    if c = reader.quote ∧ cursor.beforeLast ≠ some '\\' then
      (some .betweenParams, { reader with cursor, capture := reader.capture.finish })
    else (some .inParam, { reader with cursor, capture := reader.capture.push c })

theorem betweenParams_progress (reader : Reader) (next : State) (after : Reader)
    (reply : betweenParams reader = (some next, after)) :
    work next after < work .betweenParams reader := by
  unfold betweenParams Cursor.next at reply
  -- At the end the work of the action is spent, and otherwise a character is.
  cases text : reader.cursor.rest with
  | nil => simp only [text] at reply; cases reply; simp [work, readerWork]
  | cons c rest =>
    simp only [text] at reply
    repeat' split at reply
    all_goals
      cases reply
      simp [work, readerWork, text] <;> omega

theorem inParam_progress (reader : Reader) (next : State) (after : Reader)
    (reply : inParam reader = (some next, after)) :
    work next after < work .inParam reader := by
  unfold inParam Cursor.next at reply
  -- At the end the work of the action is spent, and otherwise a character is.
  cases text : reader.cursor.rest with
  | nil => simp only [text] at reply; cases reply; simp [work, readerWork]
  | cons c rest =>
    simp only [text] at reply
    split at reply
    all_goals
      cases reply
      simp only [work, readerWork, text, List.length_cons]
      omega

/-- The table of the dialect. -/
def table : List (Transition Reader work) := [
  ⟨.init, .betweenParams, betweenParams, betweenParams_progress⟩,
  ⟨.betweenParams, .betweenParams, betweenParams, betweenParams_progress⟩,
  ⟨.betweenParams, .inParam, inParam, inParam_progress⟩,
  .halt .betweenParams .close,
  .halt .betweenParams .error,
  ⟨.inParam, .inParam, inParam, inParam_progress⟩,
  ⟨.inParam, .betweenParams, betweenParams, betweenParams_progress⟩,
  .halt .inParam .error]

/-- The text behind the first mark: two slashes, any white space, and the word. -/
def afterMark? : List Char → Option (List Char)
  | '/' :: '/' :: rest =>
    (List.isPrefixOf? "scriptlet".toList (Text.trimStart rest)).orElse fun _ =>
      afterMark? ('/' :: rest)
  | _ :: rest => afterMark? rest
  | [] => none

/-- The call that a text stands for; the first quoted argument is its name. -/
def parse? (text : String) : Option ScriptletCall :=
  let body := (afterMark? text.toList).getD text.toList
  match run table .betweenParams { cursor := .start body } with
  | (.close, reader) => ScriptletCall.ofWords? .native reader.capture.words
  | _ => none

end AdFilter.Scriptlet.Native
