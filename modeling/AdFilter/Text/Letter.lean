import AdFilter.Text.CaseTable
import AdFilter.Text.WordTable

/-! Letters over all of Unicode: their classes, the lower case of a text, and characters that differ in case only. -/

namespace AdFilter.Text

/-- A decimal digit of any script. -/
def isDigit (c : Char) : Bool :=
  if c.toNat < 128 then c.isDigit else digitRanges.has c.toNat

/-- A letter in the wide sense of the property Alphabetic. -/
def isAlphabetic (c : Char) : Bool :=
  if c.toNat < 128 then c.isAlpha else alphabeticRanges.has c.toNat

/-- A letter or a number of any script. -/
def isAlphanumeric (c : Char) : Bool := isAlphabetic c || numberRanges.has c.toNat

/-- A character that words are made of: letters, marks, digits, connectors and joiners. -/
def isWord (c : Char) : Bool :=
  if c.toNat < 128 then c.isAlphanum || c == '_' else wordRanges.has c.toNat

/-- A letter, digit or low line of ASCII. -/
def isAsciiWord (c : Char) : Bool := c.isAlphanum || c == '_'

/-- The lower case of one character out of context; only U+0130 has two characters in it. -/
def lowerChar (c : Char) : List Char :=
  if c.toNat < 128 then [c.toLower]
  else if c.toNat = 0x130 then ['i', Char.ofNat 0x307]
  else [((lowerRuns.findSome? (·.image? c.toNat)).map Char.ofNat).getD c]

/-- Past what case ignores, the text begins with a letter that has case. -/
def startsCased (text : List Char) : Bool :=
  match text.dropWhile fun c => caseIgnorableRanges.has c.toNat with
  | [] => false
  | c :: _ => casedRanges.has c.toNat

/-- The lower case of a text, of which the characters in `before` (nearest first) are done. -/
def lowerAfter (before : List Char) : List Char → List Char
  | [] => []
  | c :: rest =>
    -- A capital sigma that ends a word becomes the final form.
    let small :=
      if c.toNat = 0x3A3 then
        [Char.ofNat (if startsCased before && !startsCased rest then 0x3C2 else 0x3C3)]
      else lowerChar c
    small ++ lowerAfter (c :: before) rest

/-- The lower case of a text, by the full Unicode rule. -/
def lower (text : List Char) : List Char := lowerAfter [] text

/-- Only the letters A to Z are made small. -/
def lowerAscii (text : List Char) : List Char := text.map Char.toLower

/-- Simple case folding of a character. -/
def foldCase (c : Char) : Char :=
  if c.toNat < 128 then c.toLower
  else ((foldRuns.findSome? (·.image? c.toNat)).map Char.ofNat).getD c

/-- The characters that fold to a given folded one, itself left out. -/
def foldSources (c : Char) : List Char :=
  if c.toNat < 128 then
    if c.isLower then
      -- The Kelvin sign and the long s are the two that fold into the ASCII letters.
      c.toUpper :: (if c = 'k' then [Char.ofNat 0x212A] else if c = 's' then [Char.ofNat 0x17F] else [])
    else []
  else (foldRuns.filterMap (·.source? c.toNat)).map Char.ofNat

/-- All characters that differ from a given one in case only, itself included. -/
def caseVariants (c : Char) : List Char := foldCase c :: foldSources (foldCase c)

end AdFilter.Text
