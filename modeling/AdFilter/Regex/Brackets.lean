import AdFilter.Regex.Escape

/-! Sets of characters in brackets, with ranges, named classes, and sets inside of sets. -/

namespace AdFilter.Regex

/-- The ASCII classes that brackets know by name. -/
def asciiClass? (name : List Char) : Option CharSet :=
  let lower := ('a', 'z')
  let upper := ('A', 'Z')
  let digit := ('0', '9')
  match String.ofList name with
  | "alnum" => some (.ranges [digit, upper, lower])
  | "alpha" => some (.ranges [upper, lower])
  | "ascii" => some .ascii
  | "blank" => some (.ranges [('\t', '\t'), (' ', ' ')])
  | "cntrl" => some (.ranges [(Char.ofNat 0, Char.ofNat 0x1F), (Char.ofNat 0x7F, Char.ofNat 0x7F)])
  | "digit" => some (.ranges [digit])
  | "graph" => some (.ranges [('!', '~')])
  | "lower" => some (.ranges [lower])
  | "print" => some (.ranges [(' ', '~')])
  | "punct" => some (.ranges [('!', '/'), (':', '@'), ('[', Char.ofNat 0x60), ('\x7b', '~')])
  | "space" => some (.ranges [('\t', '\r'), (' ', ' ')])
  | "upper" => some (.ranges [upper])
  | "word" => some (.ranges [digit, upper, ('_', '_'), lower])
  | "xdigit" => some (.ranges [digit, ('A', 'F'), ('a', 'f')])
  | _ => none

/-- A named class behind an opening bracket, if that is what stands there. -/
def namedClass? (flags : Flags) (source : List Char) :
    Option (Option CharSet × List Char) := do
  let (negated, inside) ←
    match source with
    | ':' :: '^' :: inside => some (true, inside)
    | ':' :: inside => some (false, inside)
    | _ => none
  let (name, after) ← Text.cutWhere? (· == ':') inside
  let set ← asciiClass? name
  match after with
  -- A class that cannot be negated here makes the brackets unreadable.
  | ']' :: after => some (flags.negate negated (flags.fold set), after)
  | _ => none

/-- The operators between the sets in brackets. -/
inductive SetOperator
  | inter
  | diff
  | exclusive

/-- A set together with how deeply it is nested. -/
structure Nested where
  set : CharSet
  depth : Nat

/-- The items read since the last operator, as one set. -/
def joinItems (items : List Nested) : Nested :=
  match items with
  | [] => ⟨.none, 0⟩
  | [item] => item
  | items => ⟨.unions (items.reverse.map (·.set)), 1 + (items.map (·.depth)).foldl max 0⟩

/-- The items joined to what stands left of the operator before them. -/
def joinLeft (flags : Flags) (left : Option (SetOperator × Nested)) (items : List Nested) :
    Nested :=
  let right := joinItems items
  match left with
  | none => right
  | some (operator, left) =>
    -- Case is ignored on each side before the operator counts.
    let a := flags.fold left.set
    let b := flags.fold right.set
    let set := match operator with
      | .inter => .inter a b
      | .diff => .diff a b
      | .exclusive => .exclusive a b
    ⟨set, 1 + max left.depth right.depth⟩

/-- One character or class inside brackets. -/
def setAtom (flags : Flags) : List Char → Option (Atom × List Char)
  | [] => none
  | '\\' :: rest => escape flags rest
  | c :: rest => some (.literal c false, rest)

/-- A single item or a range inside brackets. -/
def setItem (flags : Flags) (source : List Char) : Option (CharSet × List Char) := do
  let (first, after) ← setAtom flags source
  let single : Option (CharSet × List Char) :=
    match first with
    | .literal c _ => if flags.admits c then some (.only c, after) else none
    | .set set => some (set, after)
    -- A condition on a place is no character.
    | .anchor _ => none
  match flags.skip after with
  | [] => none
  | '-' :: rest =>
    match flags.skip rest with
    -- A hyphen before the end or before another hyphen makes no range.
    | ']' :: _ | '-' :: _ => single.map fun (set, _) => (set, '-' :: rest)
    | rest => do
      let (second, after) ← setAtom flags rest
      match first, second with
      | .literal low _, .literal high _ =>
        -- The ends of a range must be in order.
        if low ≤ high ∧ flags.admits low ∧ flags.admits high then
          some (.between low high, after)
        else none
      | _, _ => none
  | rest => single.map fun (set, _) => (set, rest)

/-- The hyphens, or the closing bracket, that stand for themselves at the start of brackets. -/
def leadingItems (flags : Flags) : Nat → List Nested → List Char →
    List Nested × List Char
  | 0, items, source => (items, source)
  | fuel + 1, items, source =>
    match source with
    | '-' :: rest => leadingItems flags fuel (⟨.only '-', 0⟩ :: items) (flags.skip rest)
    -- A closing bracket in the first place closes nothing.
    | ']' :: rest => if items.isEmpty then ([⟨.only ']', 0⟩], flags.skip rest) else (items, source)
    | source => (items, source)

/-- The start of brackets: whether they are negated, and the items that stand for themselves. -/
def openBrackets (flags : Flags) (source : List Char) : Bool × List Nested × List Char :=
  let source := flags.skip source
  let (negated, source) := match source with
    | '^' :: rest => (true, flags.skip rest)
    | source => (false, source)
  let (items, source) := leadingItems flags source.length [] source
  (negated, items, source)

/-- Brackets whose closing one is still to come. -/
structure OpenBrackets where
  negated : Bool
  left : Option (SetOperator × Nested)
  items : List Nested

/-- The inside of brackets up to the one that closes the outermost. -/
def brackets (flags : Flags) :
    Nat → OpenBrackets → List OpenBrackets → List Char → Option (Nested × List Char)
  | 0, _, _, _ => none
  | fuel + 1, now, outer, source =>
    -- Operators of all kinds count from left to right.
    let operator (kind : SetOperator) (rest : List Char) :=
      brackets flags fuel
        { now with left := some (kind, joinLeft flags now.left now.items), items := [] } outer rest
    let item (set : CharSet) (rest : List Char) :=
      brackets flags fuel { now with items := ⟨set, 0⟩ :: now.items } outer rest
    match flags.skip source with
    | [] => none
    | '[' :: rest =>
      match namedClass? flags rest with
      | some (set, after) => do item (← set) after
      | none =>
        let (negated, items, rest) := openBrackets flags rest
        -- The flags stay the same within brackets.
        brackets flags fuel ⟨negated, none, items⟩ (now :: outer) rest
    | ']' :: rest => do
      let inside := joinLeft flags now.left now.items
      -- Case is ignored before the set is negated.
      let set ← flags.negate now.negated (flags.fold inside.set)
      let closed : Nested := ⟨set, inside.depth + 1⟩
      match outer with
      | [] => some (closed, rest)
      | parent :: outer =>
        brackets flags fuel { parent with items := closed :: parent.items } outer rest
    | '&' :: '&' :: rest => operator .inter rest
    | '-' :: '-' :: rest => operator .diff rest
    | '~' :: '~' :: rest => operator .exclusive rest
    | source => do
      let (set, rest) ← setItem flags source
      item set rest

/-- A set in brackets, behind the opening one. -/
def bracketed (flags : Flags) (source : List Char) : Option (Nested × List Char) :=
  let (negated, items, rest) := openBrackets flags source
  brackets flags (source.length + 1) ⟨negated, none, items⟩ [] rest

end AdFilter.Regex
