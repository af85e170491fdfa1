import AdFilter.Regex.Brackets

/-! Reading an expression from its source text, with the flags that hold at each place. -/

namespace AdFilter.Regex

/-- A part of a concatenation: what it matches, how deeply it is nested, and if it can be repeated. -/
structure Part where
  expr : Regex
  depth : Nat
  repeatable : Bool := true

/-- A number of repetitions, which fits into 32 bits. -/
def decimal? (flags : Flags) (source : List Char) : Option (Nat × List Char) :=
  go (source.length + 1) none (source.dropWhile Text.isBlank)
where
  go : Nat → Option Nat → List Char → Option (Nat × List Char)
    | 0, _, _ => none
    | fuel + 1, value, source =>
      match source with
      | c :: rest =>
        if c.isDigit then
          go fuel (some (value.getD 0 * 10 + (c.toNat - '0'.toNat))) (flags.skip rest)
        else finish value source
      | [] => finish value source
  finish (value : Option Nat) (source : List Char) : Option (Nat × List Char) := do
    let n ← value
    -- A larger number is no number of repetitions.
    guard (n < UInt32.size)
    return (n, flags.skip (source.dropWhile Text.isBlank))

/-- The bounds in braces, behind the opening one. -/
def bounds? (flags : Flags) (source : List Char) : Option (Nat × Option Nat × List Char) := do
  let (least, rest) ← decimal? flags (flags.skip source)
  let (most, rest) ←
    match rest with
    | ',' :: rest =>
      match flags.skip rest with
      -- A comma without a number behind it leaves the number open.
      | '}' :: rest => some (none, '}' :: rest)
      | rest => do
        let (most, rest) ← decimal? flags rest
        some (some most, rest)
    | rest => some (some least, rest)
  guard (most.all (least ≤ ·))
  match rest with
  | '}' :: rest =>
    -- A question mark behind the braces asks for few repetitions and changes no match.
    match flags.skip rest with
    | '?' :: rest => some (least, most, rest)
    | rest => some (least, most, rest)
  | _ => none

/-- The last part repeated. -/
def repeatLast (least : Nat) (most : Option Nat) : List Part → Option (List Part)
  | [] => none
  | last :: parts =>
    -- Where flags were switched there is nothing to repeat.
    if last.repeatable then some (⟨.times last.expr least most, last.depth + 1, true⟩ :: parts)
    else none

/-- Several parts in a row, given in reverse. -/
def joinParts : List Part → Part
  | [] => ⟨.empty, 0, true⟩
  | [part] => part
  | parts => ⟨cats (parts.reverse.map (·.expr)), 1 + (parts.map (·.depth)).foldl max 0, true⟩

/-- Several branches, given in reverse. -/
def joinBranches : List Part → Part
  | [part] => part
  | parts => ⟨alts (parts.reverse.map (·.expr)), 1 + (parts.map (·.depth)).foldl max 0, true⟩

/-- A group whose end is still to come, or the whole source. -/
structure OpenGroup where
  flags : Flags
  branches : List Part
  parts : List Part

/-- All that stands in the group so far. -/
def OpenGroup.part (group : OpenGroup) : Part :=
  joinBranches (joinParts group.parts :: group.branches)

/-- The flags in a group's head, up to the character that ends them. -/
def readFlags (flags : Flags) (on : Bool) (seen : List Char) :
    List Char → Option (Flags × List Char × Char × List Char)
  | [] => none
  | c :: rest =>
    if c = ':' ∨ c = ')' then
      -- A minus sign wants a flag behind it.
      if seen.head? = some '-' then none else some (flags, seen, c, rest)
    -- No flag may come twice.
    else if seen.contains c then none
    else if c = '-' then readFlags flags false (c :: seen) rest
    else do readFlags (← flags.switch c on) on (c :: seen) rest

/-- The name of a group, up to the angle that closes it. -/
def groupName? (source : List Char) : Option (List Char × List Char) := do
  let (name, rest) ← Text.cutWhere? (· == '>') source
  match name with
  | [] => none
  | first :: others =>
    let starts := first == '_' || Text.isAlphabetic first
    let goes := others.all fun c => ['_', '.', '[', ']'].contains c || Text.isAlphanumeric c
    if starts && goes then some (name, rest) else none

/-- The head of a group. -/
inductive GroupHead
  | switch (flags : Flags)
  | opens (flags : Flags) (name : Option (List Char))

/-- The head of a group, behind the opening parenthesis. -/
def groupHead (flags : Flags) (source : List Char) : Option (GroupHead × List Char) :=
  match flags.skip source with
  -- Conditions on what stands around are not supported.
  | '?' :: '=' :: _ | '?' :: '!' :: _ | '?' :: '<' :: '=' :: _ | '?' :: '<' :: '!' :: _ => none
  | '?' :: 'P' :: '<' :: rest | '?' :: '<' :: rest => do
    let (name, rest) ← groupName? rest
    return (.opens flags name, rest)
  | '?' :: rest => do
    let (inner, seen, last, rest) ← readFlags flags true [] rest
    -- Flags that end in a parenthesis hold for the rest of the group, and there must be some.
    if last = ':' then return (.opens inner none, rest)
    else if seen.isEmpty then none
    else return (.switch inner, rest)
  | rest => some (.opens flags none, rest)

/-- An atom outside of brackets. -/
def Atom.part (flags : Flags) : Atom → Option Part
  | .literal c byte =>
    -- Without Unicode a byte beyond ASCII would be no character.
    if byte && !flags.admits c then none
    else if flags.admits c then some ⟨.chars (flags.fold (.only c)), 0, true⟩
    else some ⟨.char c, 0, true⟩
  | .set members => some ⟨.chars members, 0, true⟩
  | .anchor place => some ⟨.look place, 0, true⟩

/-- The source from a place on: the flags there, the group under way, the groups around it with the
flags that return at their end, and the names given to groups so far. -/
def read : Nat → OpenGroup → List OpenGroup → List (List Char) → List Char → Option Part
  | 0, _, _, _, _ => none
  | fuel + 1, now, outer, names, source =>
    let flags := now.flags
    let go (part : Part) (rest : List Char) :=
      read fuel { now with parts := part :: now.parts } outer names rest
    let again (least : Nat) (most : Option Nat) (rest : List Char) := do
      let parts ← repeatLast least most now.parts
      -- A question mark behind an operator asks for few repetitions and changes no match.
      let rest := match rest with
        | '?' :: rest => rest
        | rest => rest
      read fuel { now with parts } outer names rest
    match flags.skip source with
    -- A group that is still open has no end.
    | [] => if outer.isEmpty then some now.part else none
    | '(' :: rest => do
      match ← groupHead flags rest with
      | (.switch inner, rest) =>
        read fuel { now with flags := inner, parts := ⟨.empty, 0, false⟩ :: now.parts } outer names rest
      | (.opens inner name, rest) =>
        -- No two groups may have one name.
        guard (name.all fun name => !names.contains name)
        read fuel ⟨inner, [], []⟩ (now :: outer) (name.toList ++ names) rest
    | ')' :: rest =>
      match outer with
      | [] => none
      | parent :: outer =>
        let inside := now.part
        -- The group goes back to the flags that held before it.
        let part : Part := ⟨inside.expr, inside.depth + 1, true⟩
        read fuel { parent with parts := part :: parent.parts } outer names rest
    | '|' :: rest =>
      -- The flags go on into the next branch.
      read fuel { now with branches := joinParts now.parts :: now.branches, parts := [] } outer names rest
    | '[' :: rest => do
      let (set, rest) ← bracketed flags rest
      go ⟨.chars set.set, set.depth, true⟩ rest
    | '?' :: rest => again 0 (some 1) rest
    | '*' :: rest => again 0 none rest
    | '+' :: rest => again 1 none rest
    | '{' :: rest => do
      let parts := now.parts
      let (least, most, rest) ← bounds? flags rest
      let parts ← repeatLast least most parts
      read fuel { now with parts } outer names rest
    | '\\' :: rest => do
      let (atom, rest) ← escape flags rest
      go (← atom.part flags) rest
    | '.' :: rest => do go ⟨.chars (← flags.dot), 0, true⟩ rest
    | '^' :: rest => go ⟨.look flags.startAnchor, 0, true⟩ rest
    | '$' :: rest => go ⟨.look flags.endAnchor, 0, true⟩ rest
    | c :: rest => do go (← (Atom.literal c false).part flags) rest

/-- How deeply groups, repetitions, branches and brackets may be nested. -/
def maxDepth : Nat := 250

/-- The expression that a source text stands for. -/
def parse? (ignoreCase : Bool) (source : List Char) : Option Regex := do
  let part ← read (source.length + 1) ⟨{ ignoreCase }, [], []⟩ [] [] source
  guard (part.depth ≤ maxDepth)
  return part.expr

end AdFilter.Regex
