import AdFilter.Selector.Basic
import AdFilter.Selector.Token

/-! Reading selectors. -/

namespace AdFilter.Css

/-- The parts without white space in front. -/
def skipSpace : List Part → List Part
  | .space :: rest => skipSpace rest
  | parts => parts

/-- A name in small letters. -/
def lowerName (name : List Char) : String := String.ofList (name.map Char.toLower)

/-- The parts between commas. -/
def splitCommas : List Part → List (List Part)
  | [] => [[]]
  | .comma :: rest => [] :: splitCommas rest
  | p :: rest =>
    match splitCommas rest with
    | [] => [[p]]
    | group :: groups => (p :: group) :: groups

/-! ### Positions -/

/-- The number behind a bare `n-` in a name, which is subtracted. -/
def dashNumber? : List Char → Option Int
  | 'n' :: '-' :: digits | 'N' :: '-' :: digits =>
    if digits.isEmpty || !digits.all Char.isDigit then none else some (wholeNumber true digits)
  | _ => none

/-- The number without a sign of its own that must stand here. -/
def signless? (a sign : Int) (parts : List Part) : Option (Int × Int × List Part) :=
  match skipSpace parts with
  -- The sign stands before the number, so it must not be written with one.
  | .number false (some b) :: rest => some (a, sign * b, rest)
  | _ => none

/-- The number with a sign that may stand here. -/
def offset? (a : Int) (parts : List Part) : Option (Int × Int × List Part) :=
  match skipSpace parts with
  | .delim '+' :: rest => signless? a 1 rest
  | .delim '-' :: rest => signless? a (-1) rest
  | .number true (some b) :: rest => some (a, b, rest)
  | _ => some (a, 0, parts)

/-- A multiple of `n` and an offset, where the unit or name of the multiple is given. -/
def multiple? (a : Int) (unit : List Char) (rest : List Part) : Option (Int × Int × List Part) :=
  match lowerName unit with
  | "n" => offset? a rest
  -- The minus sign belongs to the name, and only the number may follow.
  | "n-" => signless? a (-1) rest
  | _ => (dashNumber? unit).map fun b => (a, b, rest)

/-- A position such as `odd`, `3` or `2n + 1`. -/
def position? (parts : List Part) : Option (Int × Int) := do
  let (a, b, rest) ←
    match skipSpace parts with
    | .number _ (some b) :: rest => some (0, b, rest)
    | .dimension (some a) unit :: rest => multiple? a unit rest
    | .ident name :: rest =>
      match lowerName name, name with
      | "even", _ => some (2, 0, rest)
      | "odd", _ => some (2, 1, rest)
      -- A minus sign before the `n` is read as part of the name.
      | _, '-' :: unit => multiple? (-1) unit rest
      | _, unit => multiple? 1 unit rest
    | .delim '+' :: .ident unit :: rest => multiple? 1 unit rest
    | _ => none
  -- Nothing but white space may follow.
  if (skipSpace rest).isEmpty then some (a, b) else none

/-! ### Attributes -/

/-- The attributes whose values HTML compares without regard to case. -/
def caselessAttributes : List String := [
  "accept", "accept-charset", "align", "alink", "axis", "bgcolor", "charset", "checked", "clear",
  "codetype", "color", "compact", "declare", "defer", "dir", "direction", "disabled", "enctype",
  "face", "frame", "hreflang", "http-equiv", "lang", "language", "link", "media", "method",
  "multiple", "nohref", "noresize", "noshade", "nowrap", "readonly", "rel", "rev", "rules", "scope",
  "scrolling", "selected", "shape", "target", "text", "type", "valign", "valuetype", "vlink"]

/-- The test that a mark stands for. -/
def testOf? : Part → Option ValueTest
  | .delim '=' => some .equal
  | .valueMark '~' => some .word
  | .valueMark '|' => some .dash
  | .valueMark '^' => some .start
  | .valueMark '$' => some .finish
  | .valueMark '*' => some .part
  | _ => none

/-- A condition on an attribute, without its brackets. -/
def onAttribute? (inside : List Part) : Option Simple := do
  let (name, anyNamespace, rest) ←
    match skipSpace inside with
    -- No other namespace is known by a name.
    | .ident _ :: .delim '|' :: _ => none
    | .ident name :: rest => some (name, false, rest)
    | .delim '*' :: .delim '|' :: .ident name :: rest => some (name, true, rest)
    | .delim '|' :: .ident name :: rest => some (name, false, rest)
    | _ => none
  match skipSpace rest with
  | [] => return .hasKey (String.ofList name)
  | mark :: rest => do
    let test ← testOf? mark
    let (operand, rest) ←
      match skipSpace rest with
      | .ident text :: rest | .string text :: rest => some (String.ofList text, rest)
      | _ => none
    -- Without a flag it is the name that decides, but not one in any namespace.
    let letters ←
      match skipSpace rest with
      | [] => some <|
        if !anyNamespace && caselessAttributes.contains (lowerName name) then CaseRule.foldedInHtml
        else .exact
      | .ident flag :: rest =>
        if !(skipSpace rest).isEmpty then none
        else if lowerName flag = "i" then some .folded
        else if lowerName flag = "s" then some .exact
        else none
      | _ => none
    return .hasValue (String.ofList name) test operand letters

/-! ### Selectors -/

/-- The conditions that a pseudo class without an argument stands for. -/
def pseudoClass? (name : String) : Option (List Simple) :=
  let first := Simple.nth 0 1 false false
  let last := Simple.nth 0 1 true false
  let firstOfType := Simple.nth 0 1 false true
  let lastOfType := Simple.nth 0 1 true true
  match name with
  | "first-child" => some [first]
  | "last-child" => some [last]
  | "only-child" => some [first, last]
  | "first-of-type" => some [firstOfType]
  | "last-of-type" => some [lastOfType]
  | "only-of-type" => some [firstOfType, lastOfType]
  | "root" | "scope" => some [.root]
  | "empty" => some [.noContent]
  | _ => none

/-- The combinator that stands here, if one does. -/
def combinator? (parts : List Part) : Option (Combinator × List Part) :=
  match skipSpace parts with
  | .delim '>' :: rest => some (.child, rest)
  | .delim '+' :: rest => some (.next, rest)
  | .delim '~' :: rest => some (.later, rest)
  | _ => none

/-- The name of an element at the start of a compound, and whether one stands there at all. -/
def typeName? : List Part → Option (List Simple × Bool × List Part)
  -- No other namespace is known by a name.
  | .ident _ :: .delim '|' :: _ => none
  | .ident name :: rest => some ([.tag (String.ofList name)], true, rest)
  | .delim '*' :: .delim '|' :: .delim '*' :: rest => some ([], true, rest)
  | .delim '*' :: .delim '|' :: .ident name :: rest => some ([.tag (String.ofList name)], true, rest)
  | .delim '*' :: .delim '|' :: _ => none
  | .delim '*' :: rest => some ([], true, rest)
  -- The bar without a name before it asks for no namespace, which no element is without.
  | .delim '|' :: .delim '*' :: rest => some ([.foreign], true, rest)
  | .delim '|' :: .ident _ :: rest => some ([.foreign], true, rest)
  | .delim '|' :: _ => none
  | parts => some ([], false, parts)

/-- Where a selector is read: whether surroundings may be asked for there. -/
abbrev AllowsHas := Bool

mutual

/-- The conditions behind the name of an element, and the parts behind them. -/
def conditions? (allowsHas : AllowsHas) :
    Nat → List Part → Option (List Simple × List Part)
  | 0, _ => none
  | fuel + 1, parts =>
    let more (found : List Simple) (rest : List Part) := do
      let (others, rest) ← conditions? allowsHas fuel rest
      return (found ++ others, rest)
    match parts with
    | .idHash name :: rest => more [.hasId (String.ofList name)] rest
    | .delim '.' :: .ident name :: rest => more [.hasClass (String.ofList name)] rest
    | .delim '.' :: _ => none
    | .square inside :: rest => do more [← onAttribute? inside] rest
    | .colon :: .ident name :: rest => do more (← pseudoClass? (lowerName name)) rest
    | .colon :: .function name inside :: rest => do
      more [← functional? allowsHas fuel (lowerName name) inside] rest
    | .colon :: _ => none
    -- What is behind the last condition is left to the caller.
    | rest => some ([], rest)

/-- The condition that a pseudo class with an argument stands for. -/
def functional? (allowsHas : AllowsHas) : Nat → String → List Part → Option Simple
  | 0, _, _ => none
  | fuel + 1, name, inside =>
    let nth (fromEnd ofType : Bool) := (position? inside).map fun (a, b) => Simple.nth a b fromEnd ofType
    match name with
    | "nth-child" => nth false false
    | "nth-last-child" => nth true false
    | "nth-of-type" => nth false true
    | "nth-last-of-type" => nth true true
    -- An option that cannot be read is left out.
    | "is" | "where" =>
      some (.anyOf ((splitCommas inside).filterMap (complex? allowsHas fuel none)))
    | "not" => (options? allowsHas fuel none (splitCommas inside)).map .noneOf
    | "has" =>
      -- Surroundings cannot be asked for within surroundings.
      if allowsHas then (options? false fuel (some .anchor) (splitCommas inside)).map .has else none
    | _ => none

/-- Several selectors, all of which must be readable. -/
def options? (allowsHas : AllowsHas) :
    Nat → Option Complex → List (List Part) → Option (List Complex)
  | 0, _, _ => none
  | _ + 1, _, [] => some []
  | fuel + 1, start, group :: groups => do
    let option ← complex? allowsHas fuel start group
    let others ← options? allowsHas fuel start groups
    return option :: others

/-- A selector; `start` is what it is relative to, if anything. -/
def complex? (allowsHas : AllowsHas) : Nat → Option Complex → List Part → Option Complex
  | 0, _, _ => none
  | fuel + 1, start, parts =>
    match start with
    | none => compound? allowsHas fuel none parts
    | some start =>
      -- What is relative may begin with a combinator, or else goes inside.
      let (combinator, rest) := (combinator? parts).getD (.descendant, parts)
      compound? allowsHas fuel (some (start, combinator)) rest

/-- A compound and all that follows it, joined to what stands before it. -/
def compound? (allowsHas : AllowsHas) :
    Nat → Option (Complex × Combinator) → List Part → Option Complex
  | 0, _, _ => none
  | fuel + 1, left, parts => do
    let (type, named, rest) ← typeName? (skipSpace parts)
    let (found, rest) ← conditions? allowsHas fuel rest
    -- A compound says something: it has a name, a star or a condition.
    if !named && found.isEmpty then none
    else
      let conditions := type ++ found
      let complex := match left with
        | none => Complex.compound conditions
        | some (left, combinator) => .joined left combinator conditions
      match combinator? rest, rest with
      | some (combinator, rest), _ => compound? allowsHas fuel (some (complex, combinator)) rest
      -- White space is a combinator of its own, unless nothing follows.
      | none, .space :: rest =>
        if (skipSpace rest).isEmpty then some complex
        else compound? allowsHas fuel (some (complex, .descendant)) rest
      | none, [] => some complex
      | none, _ => none

end

/-- The selector of a source, if it is one. -/
def parse? (source : String) : Option Selector :=
  let parts := parts source.toList
  -- Each part is met by a few functions at most, one within the other.
  let fuel := 4 * source.length + 8
  options? true fuel none (splitCommas parts)

end AdFilter.Css
