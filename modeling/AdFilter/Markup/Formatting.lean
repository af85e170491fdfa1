import AdFilter.Markup.Builder

/-!
Formatting elements of a page under construction. One whose end is implied goes on in the next part
of the page, and one that ends inside of such a part is cut in two.
-/

namespace AdFilter.Markup.Builder

/-- Elements that go on in the next part of the page when their end is implied. -/
def formattingNames : List String :=
  ["a", "b", "big", "code", "em", "font", "i", "nobr", "s", "small", "strike", "strong", "tt", "u"]

/-- An element of the given mark is under construction. -/
def isOpen (b : Builder) (mark : Nat) : Bool := b.stack.any (·.mark == mark)

/-- Opens a formatting element. -/
def pushFormatting (b : Builder) (name : String) (attributes : Attributes) : Builder :=
  { b.push name attributes with
    formatting := .element b.nextMark name attributes :: b.formatting }

/-- The marks of the formatting elements since the last fence that are written alike, if in another
order, the last first. -/
def marksOf (name : String) (attributes : Attributes) : List Formatting → List Nat
  | [] | .fence :: _ => []
  | .element mark other held :: rest =>
    let marks := marksOf name attributes rest
    if other = name ∧ held.isPerm attributes then mark :: marks else marks

/-- The formatting elements without the one of a mark. -/
def eraseFormatting (mark : Nat) (all : List Formatting) : List Formatting :=
  all.filter fun
    | .fence => true
    | .element other _ _ => other != mark

/-- Opens a formatting element that the page names; of three that are written alike the first one
does not go on any more. -/
def openFormatting (b : Builder) (name : String) (attributes : Attributes) : Builder :=
  let formatting := match (marksOf name attributes b.formatting).drop 2 with
    | [] => b.formatting
    | third :: more => eraseFormatting (more.getLast?.getD third) b.formatting
  { b with formatting }.pushFormatting name attributes

/-- The formatting elements that have to be opened again, outermost first, and the others. -/
def splitFormatting (b : Builder) : List Formatting → List (String × Attributes) × List Formatting
  | [] => ([], [])
  | .fence :: rest => ([], .fence :: rest)
  | .element mark name attributes :: rest =>
    -- The elements outside of one that is open are open as well, or have been dealt with.
    if b.isOpen mark then ([], .element mark name attributes :: rest)
    else
      let (again, others) := b.splitFormatting rest
      (again ++ [(name, attributes)], others)

/-- Opens the formatting elements again that go on. -/
def reopen (b : Builder) : Builder :=
  let (again, others) := b.splitFormatting b.formatting
  again.foldl (fun b (name, attributes) => b.pushFormatting name attributes)
    { b with formatting := others }

/-- Formatting elements that were opened since the last fence end with it. -/
def dropToFence : List Formatting → List Formatting
  | [] => []
  | .fence :: rest => rest
  | .element .. :: rest => dropToFence rest

/-- The mark of the last formatting element of a name since the last fence. -/
def lastFormatting? (name : String) : List Formatting → Option Nat
  | [] | .fence :: _ => none
  | .element mark other _ :: rest => if other = name then some mark else lastFormatting? name rest

/-- How many elements there are down to the one of a mark, itself included. -/
def depthOfMark (b : Builder) (mark : Nat) : Nat := b.stack.findIdx (·.mark == mark) + 1

/-- The end tag of the formatting element of a mark is looked for past no limit. -/
def isInScope (b : Builder) (mark : Nat) : Bool :=
  !(b.stack.takeWhile (·.mark != mark)).any fun e => scopeLimits.contains e.name

/-- Cuts the formatting element of a mark in two where it holds a part of the page. The element ends
before the part, those formatting elements between the two that are near the part go on around it,
and a second element formats what the part holds so far. -/
def cutFormatting? (b : Builder) (mark : Nat) : Option Builder :=
  let (within, rest) := b.stack.span (·.mark != mark)
  -- The part is the outermost element within that holds parts of the page.
  let (between, parts) := within.reverse.span fun e => !specials.contains e.name
  match rest, parts with
  | formatted :: _, part :: inside =>
    -- Three elements next to the part are near; what is far just ends.
    let far := between.take (between.length - 3)
    let near := (between.drop far.length).filter fun e => b.formatting.any fun
      | .fence => false
      | .element other _ _ => other == e.mark
    let copies := near.zipIdx b.nextMark |>.map fun (e, mark) =>
      ({ e with children := [], mark } : Opened)
    let second : Opened := { formatted with children := part.children, mark := b.nextMark + near.length }
    let entry : Formatting := .element second.mark second.name second.attributes
    let entriesFor : Formatting → List Formatting
      | .fence => [.fence]
      | .element other name attributes =>
        if far.any (·.mark == other) then []
        else if other = mark then if near.isEmpty then [entry] else []
        else match near.findIdx? (·.mark == other) with
          | none => [.element other name attributes]
          | some i =>
            let copy : Formatting := .element (b.nextMark + i) name attributes
            -- The second element is the last of those around the part.
            if i + 1 = near.length then [entry, copy] else [copy]
    let ended := { b with stack := between.reverse ++ rest }.popMany (between.length + 1)
    some { ended with
      stack := inside.reverse ++ [second, { part with children := [] }] ++ copies.reverse ++
        ended.stack
      formatting := b.formatting.flatMap entriesFor
      nextMark := b.nextMark + near.length + 1 }
  | _, _ => none

/-- Ends the last formatting element of a name, and cuts it off the parts of the page that it holds;
so many of them at most. -/
def endFormatting (b : Builder) (name : String) : Nat → Builder
  | 0 => b
  | rounds + 1 =>
    match lastFormatting? name b.formatting with
    | none => b.closeOther name
    | some mark =>
      let forgotten := { b with formatting := eraseFormatting mark b.formatting }
      if !b.isOpen mark then forgotten
      else if !b.isInScope mark then b
      else match b.cutFormatting? mark with
        | some cut => cut.endFormatting name rounds
        | none => forgotten.popMany (b.depthOfMark mark)

/-- The end tag of a formatting element. -/
def closeFormatting (b : Builder) (name : String) : Builder :=
  match b.stack with
  | e :: _ =>
    let goesOn := b.formatting.any fun
      | .fence => false
      | .element mark _ _ => mark == e.mark
    -- The innermost element ends by itself if it does not go on.
    if e.name = name ∧ !goesOn then b.pop else b.endFormatting name 8
  | [] => b

end AdFilter.Markup.Builder
