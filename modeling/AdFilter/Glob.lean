import AdFilter.Regex.Compile
import AdFilter.Text.Bytes
import AdFilter.Text.Letter

/-!
Globs for whole texts: `*` stands for anything, line feeds included, and `?` for one character
other than a line feed; case is ignored.
-/

namespace AdFilter

/-- A glob with the expression that it is run as. -/
structure Glob where
  regex : Regex
  /-- The source of the expression. -/
  source : String
  /-- The longest part that stands for itself, in small letters. -/
  shortcut : String

namespace Glob

/-- One character of a glob as a source. -/
def charSource (c : Char) : List Char :=
  if c = '*' then "[\\s\\S]*".toList else if c = '?' then ['.'] else Regex.quoteChar c

/-- A glob as the source of an expression for whole texts. -/
def sourceOf (glob : List Char) : List Char := ['^'] ++ glob.flatMap charSource ++ ['$']

/-- The longest part of a glob that stands for itself, in small letters. -/
def shortcutOf (glob : List Char) : List Char :=
  Text.lower (Text.longestPart (fun c => c == '*' || c == '?') glob)

/-- The glob that a text stands for. -/
def compile (glob : String) : Except Regex.Error Glob := do
  let source := sourceOf glob.toList
  let regex ← Regex.compile true source
  return ⟨regex, String.ofList source, String.ofList (shortcutOf glob.toList)⟩

/-- The whole text is as the glob says; the empty text never is. -/
def accepts (glob : Glob) (text : String) : Bool :=
  -- The shortcut is looked for first, as that is quick.
  !text.isEmpty && Text.contains (Text.lower text.toList) glob.shortcut.toList &&
    glob.regex.search text.toList

end Glob

end AdFilter
