import AdFilter.Domain
import AdFilter.Glob
import AdFilter.Markup.Printer
import AdFilter.Rule.Info
import AdFilter.Selector.Basic

/-! Rules that remove elements from the source of a page before it is shown. -/

namespace AdFilter

/-- A rule that removes elements from pages. -/
structure ContentRule where
  info : RuleInfo
  /-- The name of the element as the rule writes it, which may be empty. -/
  tagName : String
  /-- The selector of the elements, and the text it was read from. -/
  selector : Selector
  selectorText : String
  /-- The text behind the mark; an exception is for rules with the same one. -/
  elementsFilter : String
  /-- What the content must contain. -/
  tagContent : Option String
  /-- What the content must be like. -/
  wildcard : Option Glob
  /-- The least length of the content, in characters; zero is no limit. -/
  minLength : Nat
  /-- The greatest length of the content, in characters; zero is no limit. -/
  maxLength : Nat
  /-- The names of elements of which the nearest around is removed instead. -/
  parentElements : List String
  /-- How many elements around are looked at for that. -/
  parentSearchLevel : Nat
  domains : Domains

namespace ContentRule

/-- The greatest length of a content unless a rule says otherwise. -/
def defaultMaxLength : Nat := 8192

/-- How many elements around are looked at unless a rule says otherwise. -/
def defaultParentSearchLevel : Nat := 3

/-- The rule names no domain on which it applies. -/
def isGeneric (rule : ContentRule) : Bool := rule.domains.isGeneric

/-- The length of a content is within the limits. -/
def acceptsLength (rule : ContentRule) (length : Nat) : Bool :=
  (rule.maxLength == 0 || decide (length ≤ rule.maxLength)) &&
    (rule.minLength == 0 || decide (rule.minLength ≤ length))

/-- The text of a content is as the rule asks; no condition but none at all is met by an empty one. -/
def acceptsText (rule : ContentRule) (content : String) : Bool :=
  (rule.tagContent.isNone && rule.wildcard.isNone) ||
    (!content.isEmpty &&
      rule.tagContent.all (fun part => Text.contains content.toList part.toList) &&
      rule.wildcard.all (·.accepts content))

/-- The content of an element is as the rule asks. -/
def accepts (rule : ContentRule) (e : Element) : Bool :=
  let content := e.innerHtml
  -- The length is that of the content as it is written out, in characters.
  rule.acceptsLength content.length && rule.acceptsText content

/-- The nearest element around that the rule removes instead of the element itself. -/
def parentOf? (rule : ContentRule) (e : Element) : Option Element :=
  -- The element itself is not one of those looked at.
  (e.ancestors.take rule.parentSearchLevel).find? fun parent =>
    rule.parentElements.contains (String.ofList (Text.lowerAscii parent.name.toList))

/-- The element that the rule removes on account of one that it accepts, if any. -/
def target? (rule : ContentRule) (e : Element) : Option Element :=
  if rule.parentElements.isEmpty then some e else rule.parentOf? e

/-- The elements that the rule removes, one for each of those selected that it accepts. -/
def removedFrom (rule : ContentRule) (selected : List Element) : List Element :=
  (selected.filter rule.accepts).filterMap rule.target?

/-- The elements of a page that the rule removes. -/
def removed (rule : ContentRule) (page : Page) : List Element :=
  rule.removedFrom (page.select rule.selector)

end ContentRule

end AdFilter
