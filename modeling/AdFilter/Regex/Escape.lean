import AdFilter.Regex.Flags
import AdFilter.Text.Property
import AdFilter.Text.Search

/-! Backslashes in the source of an expression: how a text is written with them, and what stands behind one. -/

namespace AdFilter.Regex

/-- The characters that mean something in a source, and stand for themselves behind a backslash. -/
def isMeta (c : Char) : Bool := "\\.+*?()|[]\x7b\x7d^$#&-~".toList.contains c

/-- One character as a source. -/
def quoteChar (c : Char) : List Char := if isMeta c then ['\\', c] else [c]

/-- A text as a source. -/
def quote (text : List Char) : List Char := text.flatMap quoteChar

/-- A part of the source that stands for itself, inside brackets or outside of them. -/
inductive Atom
  /-- A character; `byte` if it was written as two hexadecimal digits. -/
  | literal (c : Char) (byte : Bool)
  | set (set : CharSet)
  | anchor (anchor : Anchor)

/-- Behind a backslash the character stands for itself. -/
def isEscapable (c : Char) : Bool :=
  c.toNat < 128 && !c.isAlphanum && c != '<' && c != '>'

/-- The character of a number, which must be a Unicode scalar value. -/
def scalar? (n : Nat) : Option Char := if n.isValidChar then some (Char.ofNat n) else none

/-- A given number of hexadecimal digits. -/
def hexDigits (flags : Flags) : Nat → Nat → List Char → Option (Nat × List Char)
  | 0, value, source => some (value, source)
  | _ + 1, _, [] => none
  | count + 1, value, c :: rest => do
    let digit ← Text.hexDigit? c
    hexDigits flags count (value * 16 + digit) (flags.skip rest)

/-- The text up to a closing brace, which is dropped with what may be skipped behind each character. -/
def braced (flags : Flags) : Nat → List Char → Option (List Char × List Char)
  | 0, _ => none
  | fuel + 1, source =>
    match flags.skip source with
    | [] => none
    | '}' :: rest => some ([], rest)
    | c :: rest => (braced flags fuel rest).map fun (inside, after) => (c :: inside, after)

/-- The number of a row of hexadecimal digits, at least one. -/
def hexNumber? (digits : List Char) : Option Nat :=
  if digits.isEmpty || digits.any fun c => (Text.hexDigit? c).isNone then none
  else some (Text.readHex digits)

/-- A character by its number, behind the letter that says how many digits there are. -/
def hexEscape (flags : Flags) (count : Nat) (source : List Char) : Option (Atom × List Char) :=
  match flags.skip source with
  | [] => none
  | '{' :: rest => do
    let (digits, after) ← braced flags (rest.length + 1) rest
    let c ← (← hexNumber? digits) |> scalar?
    return (.literal c false, flags.skip after)
  | source => do
    let (value, after) ← hexDigits flags count 0 source
    let c ← scalar? value
    -- Two digits outside of braces may stand for a byte.
    return (.literal c (count == 2), after)

/-- The characters of a property whose name stands in braces. -/
def bracedProperty (name : List Char) : Option (Bool × Text.Ranges) :=
  -- The sign for unequal is looked for first, as its second half is another sign.
  match Text.cutFirst? ['!', '='] name with
  | some (property, value) => (Text.valuedProperty? property value).map (true, ·)
  | none =>
    match (Text.cutWhere? (· == ':') name).orElse fun _ => Text.cutWhere? (· == '=') name with
    | some (property, value) => (Text.valuedProperty? property value).map (false, ·)
    | none => (Text.namedProperty? name).map (false, ·)

/-- A class by the name of a property, behind `p` or `P`. -/
def propertyEscape (flags : Flags) (negated : Bool) (source : List Char) :
    Option (Atom × List Char) := do
  let ((unequal, ranges), after) ←
    match flags.skip source with
    | [] => none
    | '{' :: rest => do
      let (name, after) ← braced flags (rest.length + 1) rest
      some (← bracedProperty name, after)
    -- A backslash is no name of a property.
    | '\\' :: _ => none
    -- Without braces the name is a single letter.
    | c :: rest => do some ((false, ← Text.namedProperty? [c]), flags.skip rest)
  -- Properties are not to be had where only ASCII is.
  guard flags.unicode
  -- Two negations undo each other.
  let set ← flags.negate (negated != unequal) (flags.fold (.inRanges ranges))
  return (.set set, after)

/-- The special boundaries that may stand in braces behind `\b`; none if the braces count. -/
def braceBoundary (flags : Flags) (source : List Char) : Option (Option (Anchor × List Char)) :=
  let isName (c : Char) : Bool := c.isAlpha || c == '-'
  match flags.skip source with
  | [] => none
  | first :: _ =>
    if !isName first then some none
    else do
      let (name, after) ← braced flags (source.length + 1) source
      let ascii := !flags.unicode
      let anchor ←
        if name = "start".toList then some (Anchor.wordStart ascii)
        else if name = "end".toList then some (.wordEnd ascii)
        else if name = "start-half".toList then some (.wordStartHalf ascii)
        else if name = "end-half".toList then some (.wordEndHalf ascii)
        else none
      return some (anchor, after)

/-- What stands behind a backslash. -/
def escape (flags : Flags) : List Char → Option (Atom × List Char)
  | [] => none
  | c :: rest =>
    let literal (n : Nat) := some (Atom.literal (Char.ofNat n) false, rest)
    let ascii := !flags.unicode
    match c with
    | 'x' => hexEscape flags 2 rest
    | 'u' => hexEscape flags 4 rest
    | 'U' => hexEscape flags 8 rest
    | 'p' => propertyEscape flags false rest
    | 'P' => propertyEscape flags true rest
    | 'd' | 's' | 'w' => some (.set (flags.shortClass c), rest)
    | 'D' | 'S' | 'W' =>
      (flags.negate true (flags.shortClass c.toLower)).map fun set => (.set set, rest)
    | 'a' => literal 7
    | 't' => literal 9
    | 'n' => literal 10
    | 'v' => literal 11
    | 'f' => literal 12
    | 'r' => literal 13
    | 'A' => some (.anchor .textStart, rest)
    | 'z' => some (.anchor .textEnd, rest)
    | 'B' => some (.anchor (.notBoundary ascii), rest)
    | '<' => some (.anchor (.wordStart ascii), rest)
    | '>' => some (.anchor (.wordEnd ascii), rest)
    | 'b' =>
      match rest with
      | '{' :: inside => do
        match ← braceBoundary flags inside with
        | some (anchor, after) => return (.anchor anchor, after)
        | none => return (.anchor (.boundary ascii), rest)
      | _ => some (.anchor (.boundary ascii), rest)
    -- Letters and digits without a meaning are refused.
    | _ => if isEscapable c then literal c.toNat else none

end AdFilter.Regex
