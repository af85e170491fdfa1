/-! Reports for other programs to read: nested values, written as JSON over indented lines. -/

namespace AdFilter.Cli

/-- A value in a report. -/
inductive Report
  | absent
  | flag (value : Bool)
  | number (value : Nat)
  | text (value : String)
  | list (items : List Report)
  /-- Named values, given in the order of their names. -/
  | record (fields : List (String × Report))

namespace Report

/-- A text or its absence. -/
def ofText? (value : Option String) : Report := (value.map text).getD absent

/-- A list of texts. -/
def ofTexts (values : List String) : Report := list (values.map text)

/-- A hexadecimal digit. -/
def hexDigit (n : Nat) : Char := if n < 10 then Char.ofNat (48 + n) else Char.ofNat (87 + n)

/-- A character as it is written between quotes. -/
def quotedChar (c : Char) : List Char :=
  if c = '"' ∨ c = '\\' then ['\\', c]
  else if c = '\n' then ['\\', 'n']
  else if c = '\r' then ['\\', 'r']
  else if c = '\t' then ['\\', 't']
  else if c = Char.ofNat 8 then ['\\', 'b']
  else if c = Char.ofNat 12 then ['\\', 'f']
  else if c.toNat < 32 then
    ['\\', 'u', '0', '0', hexDigit (c.toNat / 16), hexDigit (c.toNat % 16)]
  else [c]

/-- A text between quotes. -/
def quoted (value : String) : List Char := ['"'] ++ value.toList.flatMap quotedChar ++ ['"']

/-- A new line that is indented for values at some depth. -/
def newLine (depth : Nat) : List Char := '\n' :: List.replicate (2 * depth) ' '

mutual

/-- A value as it is written at some depth. -/
def write (depth : Nat) : Report → List Char
  | absent => "null".toList
  | flag value => (if value then "true" else "false").toList
  | number value => (Nat.repr value).toList
  | text value => quoted value
  | list [] => ['[', ']']
  | list (item :: rest) =>
    ['['] ++ newLine (depth + 1) ++ write (depth + 1) item ++ writeItems (depth + 1) rest ++
      newLine depth ++ [']']
  | record [] => "\x7b\x7d".toList
  | record ((name, value) :: rest) =>
    "\x7b".toList ++ newLine (depth + 1) ++ quoted name ++ [':', ' '] ++ write (depth + 1) value ++
      writeFields (depth + 1) rest ++ newLine depth ++ "\x7d".toList

/-- The items behind the first one of a list. -/
def writeItems (depth : Nat) : List Report → List Char
  | [] => []
  | item :: rest => [','] ++ newLine depth ++ write depth item ++ writeItems depth rest

/-- The fields behind the first one of a record. -/
def writeFields (depth : Nat) : List (String × Report) → List Char
  | [] => []
  | (name, value) :: rest =>
    [','] ++ newLine depth ++ quoted name ++ [':', ' '] ++ write depth value ++
      writeFields depth rest

end

/-- A whole report. -/
def toText (report : Report) : String := String.ofList (report.write 0 ++ ['\n'])

end Report

end AdFilter.Cli
