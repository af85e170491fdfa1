import AdFilter.Text.Search
import AdFilter.Text.Table

/-! Character references in the text of a page: `&amp;` and its like, and characters by number. -/

namespace AdFilter.Markup

/-- The references by name; the first five are read without their semicolon as well. -/
def namedReferences : List (String × Char) := [
  ("amp", '&'), ("lt", '<'), ("gt", '>'), ("quot", '"'), ("nbsp", Char.ofNat 0xA0),
  ("apos", '\'')]

/-- The characters that the numbers from 128 to 159 mean. -/
def controlNumbers : List Nat := [
  0x20AC, 0x81, 0x201A, 0x192, 0x201E, 0x2026, 0x2020, 0x2021, 0x2C6, 0x2030, 0x160, 0x2039,
  0x152, 0x8D, 0x17D, 0x8F, 0x90, 0x2018, 0x2019, 0x201C, 0x201D, 0x2022, 0x2013, 0x2014, 0x2DC,
  0x2122, 0x161, 0x203A, 0x153, 0x9D, 0x17E, 0x178]

/-- The character of a number; what is no character becomes the replacement character. -/
def numberedChar (n : Nat) : Char :=
  if 128 ≤ n ∧ n < 160 then Char.ofNat (controlNumbers.getD (n - 128) n)
  else if n = 0 ∨ ¬ n.isValidChar then Char.ofNat 0xFFFD
  else Char.ofNat n

/-- A reference by number, behind the number sign. -/
def numbered? (text : List Char) : Option (Char × List Char) :=
  let (isDigit, base, text) := match text with
    | 'x' :: rest | 'X' :: rest => (fun c => (Text.hexDigit? c).isSome, 16, rest)
    | text => (Char.isDigit, 10, text)
  let digits := text.takeWhile isDigit
  if digits.isEmpty then none
  else
    let n := digits.foldl (fun value c => value * base + (Text.hexDigit? c).getD 0) 0
    let rest := text.drop digits.length
    -- The semicolon belongs to the reference, and may be missing.
    some (numberedChar n, (List.isPrefixOf? [';'] rest).getD rest)

/-- A reference by name, behind the ampersand. In the value of an attribute, one without a semicolon
is none where a letter, a digit or an equality sign follows. -/
def named? (inValue : Bool) (text : List Char) : Option (Char × List Char) :=
  let closed := namedReferences.findSome? fun (name, c) =>
    (List.isPrefixOf? (name.toList ++ [';']) text).map (c, ·)
  let opened := (namedReferences.take 5).findSome? fun (name, c) => do
    let rest ← List.isPrefixOf? name.toList text
    let goesOn := rest.head?.any fun d => d == '=' || d.isAlphanum
    if inValue && goesOn then none else some (c, rest)
  -- The longer reading counts.
  closed <|> opened

/-- A text with its references replaced by their characters. -/
def resolve (inValue : Bool) : Nat → List Char → List Char
  | 0, _ | _, [] => []
  | fuel + 1, c :: rest =>
    let found := match c, rest with
      | '&', '#' :: number => numbered? number
      | '&', name => named? inValue name
      | _, _ => none
    match found with
    | some (d, after) => d :: resolve inValue fuel after
    -- What is no reference is kept, the ampersand included.
    | none => c :: resolve inValue fuel rest

/-- A text with its references replaced by their characters. -/
def decodeText (inValue : Bool) (text : List Char) : List Char :=
  resolve inValue text.length text

end AdFilter.Markup
