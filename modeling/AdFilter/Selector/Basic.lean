import AdFilter.Markup.Node
import AdFilter.Text.Search

/-! Selectors: which elements of a page they select. -/

namespace AdFilter

/-- How two compounds of a selector are related. -/
inductive Combinator
  | descendant
  | child
  | next
  | later
  deriving DecidableEq

/-- What a selector asks of the value of an attribute. -/
inductive ValueTest
  | equal
  | word
  | dash
  | start
  | finish
  | part
  deriving DecidableEq

/-- Whether the letters of ASCII are compared without regard to case. -/
inductive CaseRule
  | exact
  | folded
  /-- In elements of HTML only. -/
  | foldedInHtml
  deriving DecidableEq

mutual

/-- One condition on an element; names are as they are written. -/
inductive Simple
  | tag (name : String)
  /-- Elements of no language, of which there are none. -/
  | foreign
  | hasId (name : String)
  | hasClass (name : String)
  | hasKey (key : String)
  | hasValue (key : String) (test : ValueTest) (operand : String) (letters : CaseRule)
  /-- The position among the siblings, or those of the same name, is `a * n + b` for some `n`. -/
  | nth (a b : Int) (fromEnd ofType : Bool)
  | root
  | noContent
  | anyOf (options : List Complex)
  | noneOf (options : List Complex)
  | has (options : List Complex)

/-- Compounds of conditions joined by combinators; the last compound is on the element itself. -/
inductive Complex
  /-- The element whose surroundings are looked at. -/
  | anchor
  | compound (conditions : List Simple)
  | joined (left : Complex) (combinator : Combinator) (conditions : List Simple)

end

/-- A selector is a list of which any may match. -/
abbrev Selector := List Complex

namespace ValueTest

/-- A word of a value begins behind such a character. -/
def separates (c : Char) : Bool :=
  c == ' ' || c == '\t' || c == '\n' || c == '\r' || c == Char.ofNat 0xC

/-- The value passes the test. -/
def holds (value operand : List Char) : ValueTest → Bool
  | equal => value == operand
  | word => (value.splitOnP separates).contains operand
  -- The word is all of the value, or a dash follows it.
  | dash => value == operand || (operand ++ ['-']).isPrefixOf value
  | start => operand.isPrefixOf value
  | finish => operand.isSuffixOf value
  | part => Text.contains value operand

end ValueTest

namespace Element

/-- The elements that a combinator leads to from this one, towards the left of a selector. -/
def leftOf (e : Element) : Combinator → List Element
  | .descendant => e.ancestors
  | .child => e.parent?.toList
  | .next => e.preceding.head?.toList
  | .later => e.preceding

/-- The position of the element among its siblings, or those of the same name and language. -/
def position (e : Element) (fromEnd ofType : Bool) : Nat :=
  let others := if fromEnd then e.following else e.preceding
  1 + others.countP fun other =>
    !ofType || (other.name == e.name && other.language == e.language)

/-- The elements that may stand in a relation to this one, in document order. -/
def surroundings (e : Element) : List Element :=
  e.descendants ++ e.following.flatMap fun other => other :: other.descendants

end Element

/-- The position is `a * n + b` for some `n`, which counts from zero. -/
def isNth (a b : Int) (position : Nat) : Bool :=
  if a = 0 then (position : Int) == b
  -- The distance from the offset has to be a multiple, and not one of the wrong sign.
  else ((position : Int) - b) % a == 0 && decide (0 ≤ ((position : Int) - b) / a)

/-- The case of letters does not count in the attributes of a language. -/
def CaseRule.folds : CaseRule → Language → Bool
  | .exact, _ => false
  | .folded, _ => true
  | .foldedInHtml, language => language == .html

/-- The words of a value. -/
def classesOf (value : String) : List (List Char) := value.toList.splitOnP ValueTest.separates

mutual

/-- The element of a page fulfils a condition; `anchor` is the path of the element that surroundings
are looked at from. -/
def Simple.matches (isFragment : Bool) (anchor : List Nat) : Simple → Element → Bool
  | .tag name, e => e.name == e.spelling name
  | .foreign, _ => false
  | .hasId name, e => e.value? "id" == some name
  | .hasClass name, e => (e.value? "class").any fun value => (classesOf value).contains name.toList
  | .hasKey key, e => (e.value? (e.spelling key)).isSome
  | .hasValue key test operand letters, e =>
    (e.value? (e.spelling key)).any fun value =>
      let fold (text : String) :=
        if letters.folds e.language then text.toList.map Char.toLower else text.toList
      test.holds (fold value) (fold operand)
  | .nth a b fromEnd ofType, e => isNth a b (e.position fromEnd ofType)
  | .root, e => !isFragment && e.parent?.isNone
  -- Comments and the like do not count as content.
  | .noContent, e => !e.children.any fun
    | .element .. | .text _ => true
    | _ => false
  | .anyOf options, e => matchesAny isFragment anchor options e
  | .noneOf options, e => !matchesAny isFragment anchor options e
  -- What is inside is relative to this element.
  | .has options, e => e.surroundings.any fun other => matchesAny isFragment e.path options other

/-- The element fulfils all conditions. -/
def matchesAll (isFragment : Bool) (anchor : List Nat) : List Simple → Element → Bool
  | [], _ => true
  | condition :: rest, e =>
    condition.matches isFragment anchor e && matchesAll isFragment anchor rest e

/-- The element is selected. -/
def Complex.matches (isFragment : Bool) (anchor : List Nat) : Complex → Element → Bool
  | .anchor, e => e.path == anchor
  | .compound conditions, e => matchesAll isFragment anchor conditions e
  | .joined left combinator conditions, e =>
    matchesAll isFragment anchor conditions e &&
      -- It is enough that one of the elements to the left goes on with the selector.
      (e.leftOf combinator).any fun other => left.matches isFragment anchor other

/-- The element is selected by one of several. -/
def matchesAny (isFragment : Bool) (anchor : List Nat) : List Complex → Element → Bool
  | [], _ => false
  | option :: rest, e =>
    option.matches isFragment anchor e || matchesAny isFragment anchor rest e

end

/-- The elements of a page that a selector selects, in the order of the page. An engine that yields them in
the order in which they were made yields others first where elements have been moved. -/
def Page.select (page : Page) (selector : Selector) : List Element :=
  page.elements.filter (matchesAny page.isFragment [] selector)

end AdFilter
