import AdFilter.Text.Table

/-! The source of a selector cut into tokens, with brackets and what is in them as one. -/

namespace AdFilter.Css

/-- A part of the source of a style sheet. -/
inductive Part
  | ident (name : List Char)
  | idHash (name : List Char)
  | string (content : List Char)
  /-- A number, if it is whole, and whether it is written with a sign. -/
  | number (signed : Bool) (value : Option Int)
  | dimension (value : Option Int) (unit : List Char)
  | delim (c : Char)
  /-- A mark of a test on a value: the character before the equality sign. -/
  | valueMark (c : Char)
  | space
  | colon
  | comma
  | square (inside : List Part)
  | function (name : List Char) (inside : List Part)
  /-- Anything that has no place in a selector. -/
  | other

/-- White space. -/
def isSpace (c : Char) : Bool :=
  c == ' ' || c == '\t' || c == '\n' || c == '\r' || c == Char.ofNat 0xC

/-- The end of a line. -/
def isNewline (c : Char) : Bool := c == '\n' || c == '\r' || c == Char.ofNat 0xC

/-- A character that names are made of. -/
def isNameChar (c : Char) : Bool :=
  c.isAlphanum || c == '_' || c == '-' || c == Char.ofNat 0 || 128 ≤ c.toNat

/-- A character that names may begin with. -/
def isNameStart (c : Char) : Bool :=
  c.isAlpha || c == '_' || c == Char.ofNat 0 || 128 ≤ c.toNat

/-- A name begins here. -/
def startsName : List Char → Bool
  -- A backslash begins an escape, unless a line ends behind it.
  | '-' :: '\\' :: c :: _ => !isNewline c
  | ['-', '\\'] => true
  | '-' :: c :: _ => c == '-' || isNameStart c
  | '\\' :: c :: _ => !isNewline c
  | ['\\'] => true
  | c :: _ => isNameStart c
  | [] => false

/-- The character that is escaped behind a backslash, and the source behind it. -/
def escaped : List Char → Char × List Char
  | [] => (Char.ofNat 0xFFFD, [])
  | c :: rest =>
    if (Text.hexDigit? c).isNone then
      -- The character of number zero stands for the one that replaces what cannot be read.
      (if c = Char.ofNat 0 then Char.ofNat 0xFFFD else c, rest)
    else
      let digits := ((c :: rest).take 6).takeWhile fun d => (Text.hexDigit? d).isSome
      let n := Text.readHex digits
      let after := (c :: rest).drop digits.length
      -- One white space character ends the number and is dropped.
      let after := match after with
        | '\r' :: '\n' :: after => after
        | d :: after => if isSpace d then after else d :: after
        | [] => []
      (if n = 0 ∨ ¬ n.isValidChar then Char.ofNat 0xFFFD else Char.ofNat n, after)

/-- A name, with its escapes undone, and the source behind it. -/
def nameFrom : Nat → List Char → List Char × List Char
  | 0, source => ([], source)
  | fuel + 1, source =>
    match source with
    | '\\' :: rest =>
      -- A backslash at the end of a line is no part of a name.
      if rest.head?.any isNewline then ([], source)
      else
        let (c, rest) := escaped rest
        let (name, after) := nameFrom fuel rest
        (c :: name, after)
    | c :: rest =>
      if isNameChar c then
        let (name, after) := nameFrom fuel rest
        ((if c = Char.ofNat 0 then Char.ofNat 0xFFFD else c) :: name, after)
      else ([], source)
    | [] => ([], [])

/-- A string up to its closing quote, or to the end of the source; none if a line ends in it. -/
def stringFrom? (quote : Char) : Nat → List Char → Option (List Char × List Char)
  | 0, _ => none
  | fuel + 1, source =>
    match source with
    | [] => some ([], [])
    -- The end of a line is escaped to go on with the string on the next one.
    | '\\' :: '\r' :: '\n' :: rest => stringFrom? quote fuel rest
    | ['\\'] => some ([], [])
    | '\\' :: c :: rest =>
      if isNewline c then stringFrom? quote fuel rest
      else
        let (d, rest) := escaped (c :: rest)
        (stringFrom? quote fuel rest).map fun (content, after) => (d :: content, after)
    | c :: rest =>
      if c = quote then some ([], rest)
      else if isNewline c then none
      else
        let d := if c = Char.ofNat 0 then Char.ofNat 0xFFFD else c
        (stringFrom? quote fuel rest).map fun (content, after) => (d :: content, after)

/-- A number begins here, behind a sign or without one. -/
def startsNumber : List Char → Bool
  | '.' :: c :: _ => c.isDigit
  | c :: _ => c.isDigit
  | [] => false

/-- The value of a row of digits, kept within 32 bits. -/
def wholeNumber (negative : Bool) (digits : List Char) : Int :=
  -- What is out of bounds becomes the nearest number within them.
  let n := digits.foldl (fun value c => value * 10 + (c.toNat - '0'.toNat)) 0
  if negative then -(min n 0x80000000 : Nat) else (min n 0x7FFFFFFF : Nat)

/-- The exponent behind a number, if one stands there. -/
def exponentLength (source : List Char) : Nat :=
  let digits (source : List Char) := (source.takeWhile Char.isDigit).length
  match source with
  | e :: rest =>
    if e = 'e' ∨ e = 'E' then
      match rest with
      | sign :: rest =>
        -- Without a digit behind it the letter belongs to the unit.
        if sign.isDigit then 1 + digits (sign :: rest)
        else if (sign = '+' ∨ sign = '-') ∧ digits rest ≠ 0 then 2 + digits rest
        else 0
      | [] => 0
    else 0
  | [] => 0

/-- A number with its unit, and the source behind it. -/
def numberFrom (sign : Option Char) (source : List Char) : Part × List Char :=
  let whole := source.takeWhile Char.isDigit
  let rest := source.drop whole.length
  -- A point without a digit behind it is not part of the number.
  let fraction := match rest with
    | '.' :: c :: tail => if c.isDigit then 1 + ((c :: tail).takeWhile Char.isDigit).length else 0
    | _ => 0
  let rest := rest.drop fraction
  let exponent := exponentLength rest
  let rest := rest.drop exponent
  -- With a fraction or an exponent it does not count as whole.
  let value := if fraction = 0 ∧ exponent = 0 then some (wholeNumber (sign == some '-') whole) else none
  match rest with
  | '%' :: rest => (.other, rest)
  | rest =>
    if startsName rest then
      let (unit, rest) := nameFrom (rest.length + 1) rest
      (.dimension value unit, rest)
    else (.number sign.isSome value, rest)

/-- The source behind a comment. -/
def behindComment : List Char → List Char
  | '*' :: '/' :: rest => rest
  | _ :: rest => behindComment rest
  | [] => []

/-- What opens and closes brackets. -/
inductive Bracket
  | round
  | square
  | curly
  deriving DecidableEq

/-- A token: a part by itself, or one side of brackets. -/
inductive Token
  | part (part : Part)
  | opens (bracket : Bracket) (name : Option (List Char))
  | closes (bracket : Bracket)

/-- The first token of a source, none if it is a comment, and the source behind it. -/
def tokenFrom (c : Char) (rest : List Char) : Option Token × List Char :=
  let part (p : Part) (rest : List Char) := (some (Token.part p), rest)
  -- A name with a parenthesis right behind it is that of a function.
  let name (source : List Char) :=
    let (name, rest) := nameFrom (source.length + 1) source
    match rest with
    | '(' :: rest => (some (Token.opens .round (some name)), rest)
    | rest => part (.ident name) rest
  if isSpace c then part .space (rest.dropWhile isSpace)
  else
    match c, rest with
    | '/', '*' :: rest => (none, behindComment rest)
    | '"', rest | '\'', rest =>
      match stringFrom? c (rest.length + 1) rest with
      | some (content, rest) => part (.string content) rest
      -- What is behind a string that does not end is of no use to a selector any more.
      | none => part .other []
    | '#', rest =>
      if startsName rest then
        let (name, rest) := nameFrom (rest.length + 1) rest
        part (.idHash name) rest
      else part .other rest
    | '~', '=' :: rest | '|', '=' :: rest | '^', '=' :: rest | '$', '=' :: rest
    | '*', '=' :: rest => part (.valueMark c) rest
    | '(', rest => (some (.opens .round none), rest)
    | '[', rest => (some (.opens .square none), rest)
    | '{', rest => (some (.opens .curly none), rest)
    | ')', rest => (some (.closes .round), rest)
    | ']', rest => (some (.closes .square), rest)
    | '}', rest => (some (.closes .curly), rest)
    | ':', rest => part .colon rest
    | ',', rest => part .comma rest
    -- Both marks of a comment of markup are tokens of their own.
    | '<', '!' :: '-' :: '-' :: rest => part .other rest
    | '-', '-' :: '>' :: rest => part .other rest
    | c, rest =>
      -- Numbers come before names, as a sign or a point may begin either.
      if startsNumber (c :: rest) then
        let (number, rest) := numberFrom none (c :: rest)
        part number rest
      else if (c = '+' ∨ c = '-') ∧ startsNumber rest then
        let (number, rest) := numberFrom (some c) rest
        part number rest
      else if startsName (c :: rest) then name (c :: rest)
      else part (.delim c) rest

/-- The tokens of a source. -/
def tokensFrom : Nat → List Char → List Token
  | 0, _ | _, [] => []
  | fuel + 1, c :: rest =>
    let (token, rest) := tokenFrom c rest
    token.toList ++ tokensFrom fuel rest

/-- Brackets under construction: what they are, and what is in them so far, the last first. -/
structure Open where
  bracket : Bracket
  name : Option (List Char)
  inside : List Part

/-- The part that a pair of brackets makes. -/
def Open.part (opened : Open) : Part :=
  match opened.bracket, opened.name with
  | .square, _ => .square opened.inside.reverse
  | .round, some name => .function name opened.inside.reverse
  | _, _ => .other

/-- Closes brackets until some number of them is left. -/
def closeAll (parts : List Part) : List Open → List Part
  | [] => parts
  | opened :: outer =>
    match outer with
    | [] => opened.part :: parts
    | next :: rest => closeAll parts ({ next with inside := opened.part :: next.inside } :: rest)
termination_by opens => opens.length

/-- The parts of the tokens; brackets that are still open at the end are closed there, and a closing
one without a partner has no place. -/
def nest (parts : List Part) (opens : List Open) : List Token → List Part
  | [] => (closeAll parts opens).reverse
  | token :: rest =>
    let add (p : Part) : List Part × List Open :=
      -- A part goes into the innermost brackets that are open.
      match opens with
      | [] => (p :: parts, [])
      | inner :: outer => (parts, { inner with inside := p :: inner.inside } :: outer)
    match token with
    | .part p => let (parts, opens) := add p; nest parts opens rest
    | .opens bracket name => nest parts (⟨bracket, name, []⟩ :: opens) rest
    | .closes bracket =>
      match opens with
      | [] => nest (.other :: parts) [] rest
      | inner :: outer =>
        if inner.bracket = bracket then
          match outer with
          | [] => nest (inner.part :: parts) [] rest
          | next :: others =>
            nest parts ({ next with inside := inner.part :: next.inside } :: others) rest
        -- Another kind of bracket closes nothing.
        else nest parts ({ inner with inside := .other :: inner.inside } :: outer) rest

/-- The parts of a source. -/
def parts (source : List Char) : List Part := nest [] [] (tokensFrom (source.length + 1) source)

end AdFilter.Css
