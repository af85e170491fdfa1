import AdFilter.Regex.Escape
import AdFilter.Text.Bytes
import AdFilter.Text.Letter

/-!
Patterns for addresses, and what every address that matches one has in it.

In a basic pattern `||` stands for the scheme and any subdomain, `|` for an end of the address, `^` for a
separator and `*` for anything. Of an expression the longest literal in its source is taken: groups, sets, counts
and escaped letters are blotted out in the source, the first of each kind only.
-/

namespace AdFilter.Network

/-- The scheme of an address and any subdomain, as an expression. -/
def hostAnchor : List Char := "^(http|https|ws|wss)://([a-z0-9\\-_.]+\\.)?".toList

/-- What separates the parts of an address, or its end, as an expression. -/
def separator : List Char := "([^ a-zA-Z0-9.%]|$)".toList

/-- Anything, as an expression. -/
def anything : List Char := ['.', '*']

/-- One character of a pattern as an expression. -/
def charSource (c : Char) : List Char :=
  if c = '*' then anything else if c = '^' then separator else Regex.quoteChar c

/-- The expression of the anchor at the start of a pattern, and the pattern behind it. -/
def cutAnchor : List Char → List Char × List Char
  | '|' :: '|' :: rest => (hostAnchor, rest)
  | '|' :: rest => (['^'], rest)
  | pattern => ([], pattern)

/-- A basic pattern as the source of an expression. -/
def patternSource (pattern : List Char) : List Char :=
  let (anchor, rest) := cutAnchor pattern
  match List.isSuffixOf? ['|'] rest with
  -- A bar at the end stands for the end of the address.
  | some inside => anchor ++ inside.flatMap charSource ++ ['$']
  | none => anchor ++ rest.flatMap charSource

/-- The text in small letters, unless it is empty. -/
def nonEmptyLower (text : List Char) : Option (List Char) :=
  if text.isEmpty then none else some (Text.lower text)

/-- The longest part of a basic pattern that stands for itself, in small letters. -/
def patternShortcut (pattern : List Char) : Option (List Char) :=
  nonEmptyLower (Text.longestPart (fun c => c == '*' || c == '^' || c == '|') pattern)

/-- What a part of the source is blotted out with: it stands for no literal text. -/
def blot : List Char := ['.', '.', '.']

/-- What follows the last closing character that no backslash stands before; the search does not
go past the end of a line. -/
def afterLast? (close : Char) : List Char → Option (List Char)
  | c :: d :: rest =>
    -- The last place wins, so the search goes on before this one counts.
    let later := if c = '\n' then none else afterLast? close (d :: rest)
    later <|> if c != '\\' && d == close then some rest else none
  | _ => none

/-- The source with its first group blotted out, from the character before the opening one to the
last closing one. -/
def blotGroup (opening close : Char) : List Char → List Char
  | c :: d :: rest =>
    let kept := c :: blotGroup opening close (d :: rest)
    if c != '\\' && d == opening then
      match afterLast? close rest with
      | some after => blot ++ after
      | none => kept
    else kept
  | short => short

/-- The source with its first escaped letter blotted out, and the character before it. -/
def blotLetter : List Char → List Char
  | c :: d :: e :: rest =>
    -- Only the first place counts, so the rest is left as it is.
    if c != '\\' && d == '\\' && e.isAlpha then blot ++ rest
    else c :: blotLetter (d :: e :: rest)
  | short => short

/-- A bar outside of escapes. -/
def hasBar (escaped : Bool) : List Char → Bool
  | [] => false
  | c :: rest =>
    if escaped then hasBar false rest
    else if c = '\\' then hasBar true rest
    else c == '|' || hasBar false rest

/-- The characters that mean something in an expression. -/
def isSpecial (c : Char) : Bool := "\\^$*+?.()|[]\x7b\x7d".toList.contains c

/-- The parts between special characters, the one under way in reverse; what stands before a star
may be absent, so its last character does not count. -/
def literalParts (current : List Char) : List Char → List (List Char)
  | [] => [current.reverse]
  | c :: rest =>
    if !isSpecial c then literalParts (c :: current) rest
    else (if c = '*' then current.tail.reverse else current.reverse) :: literalParts [] rest

/-- The longest literal of an expression's source, in small letters. -/
def regexShortcut (source : List Char) : Option (List Char) :=
  -- A question mark may take anything before it away.
  if source.contains '?' then none
  else
    let text := blotGroup '(' ')' (blot ++ source)
    let text := blotGroup '[' ']' text
    let text := blotGroup '\x7b' '\x7d' text
    let text := blotLetter text
    -- A bar that is left stands between whole branches, and no literal is in all of them.
    if hasBar false text then none
    else
      nonEmptyLower ((literalParts [] text).foldl
        (fun longest part =>
          if Text.byteLength longest < Text.byteLength part then part else longest) [])

end AdFilter.Network
