import AdFilter.Cosmetic.Rule
import AdFilter.Distinct
import AdFilter.RuleSet.Basic

/-! What is put into a page, and what is removed from it. -/

namespace AdFilter

/-- Everything that is put into a page. -/
structure CosmeticResult where
  css : List String := []
  /-- Style sheets for an engine that knows more than browsers do. -/
  extendedCss : List String := []
  scripts : List String := []
  scriptlets : List ScriptletCall := []

/-- There is nothing to put in. -/
def CosmeticResult.isEmpty (result : CosmeticResult) : Bool :=
  result.css.isEmpty && result.extendedCss.isEmpty && result.scripts.isEmpty &&
    result.scriptlets.isEmpty

namespace RuleSet

/-- The style rules for a host where generic ones are wanted or not. -/
def styleRules (set : RuleSet) (host : String) (genericAllowed : Bool) : List StyleRule :=
  (set.styles.activeOn host).filter fun rule => genericAllowed || !rule.isGeneric

/-- What is put into the page at an address; nothing if that has no host. -/
def cosmetics (set : RuleSet) (url : String) : CosmeticResult :=
  match Url.lowerHost? url with
  | none => {}
  | some host =>
    let options := set.documentOptions url
    let styles := if options.has .elemHide then []
      else set.styleRules host (!options.has .genericHide)
    let (extended, regular) := styles.partition (·.isExtended)
    -- Scripts and scriptlets are switched off by one option.
    let scripted := !options.has .jsInject
    { css := Stylesheet.build regular
      extendedCss := Stylesheet.build extended
      scripts := if scripted then (set.scripts.activeOn host).map (·.script) else []
      scriptlets := if scripted then (set.scriptlets.activeOn host).flatMap (·.calls) else [] }

/-- As `cosmetics`, with nothing where the program stops. -/
def tryCosmetics (set : RuleSet) (url : String) : Option CosmeticResult :=
  match Url.lowerHost? url with
  | none => some {}
  | some host => do
    let options ← set.tryDocumentOptions url
    let styles ← set.styles.tryActiveOn host (options.has .elemHide) fun rule =>
      !options.has .genericHide || !rule.isGeneric
    let scripts ← set.scripts.tryActiveOn host (options.has .jsInject) fun _ => true
    let scriptlets ← set.scriptlets.tryActiveOn host (options.has .jsInject) fun _ => true
    let (extended, regular) := styles.partition (·.isExtended)
    return {
      css := Stylesheet.build regular
      extendedCss := Stylesheet.build extended
      scripts := scripts.map (·.script)
      scriptlets := scriptlets.flatMap (·.calls) }

/-- The rules about the content of the page at an address. -/
def contentRules (set : RuleSet) (url : String) : List ContentRule :=
  match Url.lowerHost? url with
  | none => []
  | some host =>
    if (set.documentOptions url).has .content then [] else set.contents.activeOn host

/-- As `contentRules`, with nothing where the program stops. -/
def tryContentRules (set : RuleSet) (url : String) : Option (List ContentRule) :=
  match Url.lowerHost? url with
  | none => some []
  | some host => do
    let options ← set.tryDocumentOptions url
    set.contents.tryActiveOn host (options.has .content) fun _ => true

end RuleSet

/-- The elements that some rules remove, each once, where an engine for selectors has selected others. -/
def removedFrom (select : Selector → List Element) (rules : List ContentRule) : List Element :=
  -- An element that several rules remove stays where it was found first.
  distinctBy Element.path (rules.flatMap fun rule => rule.removedFrom (select rule.selector))

/-- The elements of a page that some rules remove, each once. -/
def Page.removedBy (page : Page) (rules : List ContentRule) : List Element :=
  removedFrom page.select rules

end AdFilter
