import AdFilter.Rule.Info
import AdFilter.Text.Search

/-! The pseudo classes of hiding rules: which are known, and `:style(...)`, which is a rule to put in. -/

namespace AdFilter.Cosmetic

/-- The pseudo classes that hiding rules may use. -/
def supportedPseudoClasses : List String := [
  ":active", ":checked", ":contains", ":disabled", ":empty", ":enabled", ":first-child",
  ":first-of-type", ":focus", ":has", ":has-text", ":hover", ":if", ":if-not", ":in-range",
  ":invalid", ":lang", ":last-child", ":last-of-type", ":link", ":matches-css",
  ":matches-css-before", ":matches-css-after", ":not", ":nth-child", ":nth-last-child",
  ":nth-last-of-type", ":nth-of-type", ":only-child", ":only-of-type", ":optional",
  ":out-of-range", ":properties", ":read-only", ":read-write", ":required", ":root", ":target",
  ":valid", ":visited", ":-abp-has", ":-abp-contains", ":-abp-properties"]

/-- What only an extended engine understands. -/
def extendedMarks : List String := [
  "[-ext-has=", "[-ext-contains=", "[-ext-has-text=", "[-ext-matches-css=",
  "[-ext-matches-css-before=", "[-ext-matches-css-after=", ":has(", ":has-text(", ":contains(",
  ":matches-css(", ":matches-css-before(", ":matches-css-after(", ":-abp-has(",
  ":-abp-contains(", ":if(", ":if-not(", ":properties(", ":-abp-properties("]

/-- The text needs an extended engine. -/
def isExtended (text : List Char) : Bool :=
  extendedMarks.any fun mark => Text.contains text mark.toList

/-- The name of a pseudo class ends here. -/
def endsName (c : Char) : Bool := " \t>([.#:+~\"'".toList.contains c

/-- A pseudo class in a selector: what stands before it, its name with the colon, and what follows. -/
structure PseudoClass where
  before : List Char
  name : List Char
  after : List Char

/-- The text cut before its first colon outside of square brackets; `passed` is what was read before
it, in reverse. -/
def cutColon? (bracketed : Bool) (passed : List Char) :
    List Char → Option (List Char × List Char)
  | [] => none
  | c :: rest =>
    if c = '[' then cutColon? true (c :: passed) rest
    else if c = ']' then cutColon? false (c :: passed) rest
    else if c = ':' ∧ !bracketed then
      -- An escaped colon is part of a name, and the search ends with it.
      if passed.head? = some '\\' then none else some (passed.reverse, rest)
    else cutColon? bracketed (c :: passed) rest

/-- The first pseudo class of a selector; two colons in a row make a pseudo element, and then there
is none. -/
def firstPseudoClass? (selector : List Char) : Option PseudoClass := do
  let (before, rest) ← cutColon? false [] selector
  let name := rest.takeWhile (!endsName ·)
  if name.isEmpty then none
  else some ⟨before, ':' :: name, rest.drop name.length⟩

/-- The text has an opening brace and, behind at least one character, a closing one. -/
def hasStyleBlock (text : List Char) : Bool :=
  match Text.cutWhere? (· == '\x7b') text with
  | some (_, rest) => (rest.drop 1).contains '\x7d'
  | none => false

/-- `selector:style(text)` as `selector` with a block that holds the text. -/
def styleBlock (pseudo : PseudoClass) (content : List Char) : Except RuleError (List Char) :=
  -- The parentheses around the style are dropped.
  let style := (pseudo.after.drop 1).dropLast
  if pseudo.after.length < 3 || pseudo.after.getLast? != some ')' ||
      (Text.trim pseudo.before).isEmpty || (Text.trim style).isEmpty then
    .error (.invalidStyle (String.ofList content))
  else .ok (pseudo.before ++ [' ', '\x7b', ' '] ++ style ++ [' ', '\x7d'])

end AdFilter.Cosmetic
