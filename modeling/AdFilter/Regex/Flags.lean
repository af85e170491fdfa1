import AdFilter.Regex.Basic
import AdFilter.Text.Search

/-! The flags that hold at a place in the source of an expression, and the classes they decide. -/

namespace AdFilter.Regex

/-- What the flags say at a place in the source. -/
structure Flags where
  ignoreCase : Bool
  multiLine : Bool := false
  dotAll : Bool := false
  crlf : Bool := false
  unicode : Bool := true
  /-- White space and comments between the parts of the source mean nothing. -/
  spaced : Bool := false

namespace Flags

/-- Switches the flag of a letter; the flag that swaps greediness changes no match. -/
def switch (flags : Flags) (letter : Char) (on : Bool) : Option Flags :=
  match letter with
  | 'i' => some { flags with ignoreCase := on }
  | 'm' => some { flags with multiLine := on }
  | 's' => some { flags with dotAll := on }
  | 'R' => some { flags with crlf := on }
  | 'u' => some { flags with unicode := on }
  | 'x' => some { flags with spaced := on }
  | 'U' => some flags
  | _ => none

/-- The source past white space and comments, of which one may be under way. -/
def skipSpace (inComment : Bool) : List Char → List Char
  | [] => []
  | c :: rest =>
    -- A comment goes on to the end of its line.
    if inComment then skipSpace (c != '\n') rest
    else if Text.isBlank c then skipSpace false rest
    else if c = '#' then skipSpace true rest
    else c :: rest

/-- The source past what the flags let it skip. -/
def skip (flags : Flags) (source : List Char) : List Char :=
  if flags.spaced then skipSpace false source else source

/-- A class and its complement, which only exists where the flags allow all of Unicode. -/
def negate (flags : Flags) (negated : Bool) (set : CharSet) : Option CharSet :=
  if !negated then some set
  else if flags.unicode then some (.compl set)
  -- Without Unicode a complement would hold bytes that are no characters.
  else none

/-- The set closed under case, if the flags ignore case. -/
def fold (flags : Flags) (set : CharSet) : CharSet :=
  if !flags.ignoreCase then set
  else if flags.unicode then .folded set
  -- Letters of ASCII have variants outside of it, which do not count here.
  else .inter (.folded set) .ascii

/-- Without Unicode, brackets hold ASCII characters alone. -/
def admits (flags : Flags) (c : Char) : Bool := flags.unicode || c.toNat < 128

/-- The digits, the white space or the word characters that the flags allow. -/
def shortClass (flags : Flags) (letter : Char) : CharSet :=
  match letter, flags.unicode with
  | 'd', true => .digit
  | 's', true => .blank
  | 'd', false => .between '0' '9'
  | 's', false => .ranges [('\t', '\r'), (' ', ' ')]
  | _, true => .word
  | _, false => .ranges [('0', '9'), ('A', 'Z'), ('_', '_'), ('a', 'z')]

/-- Any character but those that end a line, or any at all. -/
def dot (flags : Flags) : Option CharSet :=
  -- Without Unicode a point would match bytes that are no characters.
  if !flags.unicode then none
  else if flags.dotAll then some (.compl .none)
  else if flags.crlf then some (.compl (.ranges [('\n', '\n'), ('\r', '\r')]))
  else some (.compl (.only '\n'))

/-- The start of a line, or of the text alone. -/
def startAnchor (flags : Flags) : Anchor :=
  if !flags.multiLine then .textStart else if flags.crlf then .lineStartCr else .lineStart

/-- The end of a line, or of the text alone. -/
def endAnchor (flags : Flags) : Anchor :=
  if !flags.multiLine then .textEnd else if flags.crlf then .lineEndCr else .lineEnd

end Flags

end AdFilter.Regex
