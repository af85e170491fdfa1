import AdFilter.Scriptlet.Call
import AdFilter.Scriptlet.Capture
import AdFilter.Scriptlet.Cursor
import AdFilter.Scriptlet.Machine

/-! The dialect of ABP: `log 'hello world'; abort-on-property-read foo`, one call a statement. -/

namespace AdFilter.Scriptlet.Abp

/-- A reader of statements: the finished ones, and the quote that opened the argument under way. -/
structure Reader where
  cursor : Cursor
  capture : Capture := {}
  statements : List (List String) := []
  quote : Option Char := none

/-- What a reader may still do. -/
def work (action : State) (reader : Reader) : Nat := readerWork action reader.cursor.rest.length

/-- The statement is finished if it has any words. -/
def Reader.finishStatement (reader : Reader) : Reader :=
  let (words, capture) := reader.capture.take
  if words.isEmpty then { reader with capture }
  else { reader with capture, statements := reader.statements ++ [words] }

/-- The word is finished if there is one. -/
def Reader.finishWord (reader : Reader) : Reader :=
  { reader with capture := reader.capture.finishNonEmpty }

/-- Outside of quotes blanks end a word and semicolons a statement; inside, a backslash keeps the
next character as it is. -/
def inParam (reader : Reader) : Option State × Reader :=
  match reader.cursor.next with
  | (none, _) =>
    -- Where the text ends within quotes they are never closed.
    if reader.quote.isSome then (some .error, reader)
    else (some .close, reader.finishWord.finishStatement)
  | (some c, cursor) =>
    let moved := { reader with cursor }
    let kept := (some State.inParam, { moved with capture := reader.capture.push c })
    match reader.quote with
    | some quote =>
      -- The other kind of quote is a character like any other.
      if c = quote then (some .betweenParams, { moved with quote := none }.finishWord)
      else if c = '\\' then
        match cursor.next with
        | (none, _) => (some .error, moved)
        | (some escaped, cursor) =>
          (some .inParam, { reader with cursor, capture := reader.capture.push escaped })
      else kept
    | none =>
      if c = '\'' ∨ c = '"' then (some .inParam, { moved with quote := some c })
      else if c = ' ' ∨ c = '\t' then (some .inParam, moved.finishWord)
      else if c = ';' then (some .inParam, moved.finishWord.finishStatement)
      else kept

/-- Right behind a closing quote a separator or the end must follow. -/
def betweenParams (reader : Reader) : Option State × Reader :=
  match reader.cursor.next with
  | (none, _) => (some .close, reader.finishStatement)
  | (some c, cursor) =>
    let moved := { reader with cursor }
    if c = ' ' ∨ c = '\t' then (some .inParam, moved)
    else if c = ';' then (some .inParam, moved.finishStatement)
    else (some .error, moved)

@[simp] theorem cursor_finishStatement (reader : Reader) :
    reader.finishStatement.cursor = reader.cursor := by
  unfold Reader.finishStatement
  dsimp only
  -- A statement is added or not, and the cursor stays.
  split <;> rfl

@[simp] theorem cursor_finishWord (reader : Reader) : reader.finishWord.cursor = reader.cursor := rfl

theorem inParam_progress (reader : Reader) (next : State) (after : Reader)
    (reply : inParam reader = (some next, after)) :
    work next after < work .inParam reader := by
  unfold inParam at reply
  -- At the end the work of the action is spent, and otherwise a character is.
  grind [work, readerWork, Cursor.length_of_next, Cursor.next, cursor_finishStatement,
    cursor_finishWord]

theorem betweenParams_progress (reader : Reader) (next : State) (after : Reader)
    (reply : betweenParams reader = (some next, after)) :
    work next after < work .betweenParams reader := by
  unfold betweenParams Cursor.next at reply
  -- At the end the work of the action is spent, and otherwise a character is.
  cases text : reader.cursor.rest with
  | nil => simp only [text] at reply; cases reply; simp [work, readerWork, text]
  | cons c rest =>
    simp only [text] at reply
    repeat' split at reply
    all_goals
      cases reply
      simp [work, readerWork, text] <;> omega

/-- The table of the dialect. -/
def table : List (Transition Reader work) := [
  ⟨.init, .inParam, inParam, inParam_progress⟩,
  ⟨.inParam, .inParam, inParam, inParam_progress⟩,
  ⟨.inParam, .betweenParams, betweenParams, betweenParams_progress⟩,
  .halt .inParam .close,
  .halt .inParam .error,
  ⟨.betweenParams, .inParam, inParam, inParam_progress⟩,
  .halt .betweenParams .close,
  .halt .betweenParams .error]

/-- The calls that a text stands for, at least one. -/
def parse? (text : String) : Option (List ScriptletCall) :=
  match run table .inParam { cursor := .start (Text.trim text.toList) } with
  | (.close, reader) =>
    -- Statements without a name are passed over.
    match reader.statements.filterMap (ScriptletCall.ofWords? .abp) with
    | [] => none
    | calls => some calls
  | _ => none

end AdFilter.Scriptlet.Abp
