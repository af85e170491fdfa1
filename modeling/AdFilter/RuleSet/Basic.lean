import AdFilter.FilterList.Optimize
import AdFilter.Index.Rules
import AdFilter.RuleSet.PageRules
import AdFilter.Url

/-! Rules sorted by what they are for, without those that others cancel, and what they say of a document. -/

namespace AdFilter

/-- Rules sorted by what they are for. -/
structure RuleSet where
  blocking : RuleIndex
  exceptions : RuleIndex
  csp : RuleIndex
  cspExceptions : RuleIndex
  styles : PageRules StyleRule
  scripts : PageRules ScriptRule
  scriptlets : PageRules ScriptletRule
  contents : PageRules ContentRule
  /-- How many rules about requests were left out because others cancel them. -/
  cancelled : Nat

/-- How many rules there are of each sort, exceptions included except among requests. -/
structure RuleStats where
  blocking : Nat
  exceptions : Nat
  csp : Nat
  styles : Nat
  scripts : Nat
  scriptlets : Nat
  contents : Nat
  cancelled : Nat
  deriving DecidableEq

/-- The rule says which sources a page may load from. -/
def NetworkRule.isCsp (rule : NetworkRule) : Bool := rule.options.has .csp

namespace Rule

/-- The rule, if it is about requests. -/
def network? : Rule → Option NetworkRule
  | network rule => some rule
  | _ => none

/-- The rule, if it is about style. -/
def style? : Rule → Option StyleRule
  | style rule => some rule
  | _ => none

/-- The rule, if it puts script in. -/
def script? : Rule → Option ScriptRule
  | script rule => some rule
  | _ => none

/-- The rule, if it puts scriptlets in. -/
def scriptlet? : Rule → Option ScriptletRule
  | scriptlet rule => some rule
  | _ => none

/-- The rule, if it is about content. -/
def content? : Rule → Option ContentRule
  | content rule => some rule
  | _ => none

end Rule

namespace RuleSet

/-- The rules of a list, sorted. A rule that cancels another is not one itself, and of the others
only those about requests are cancelled. -/
def ofList (rules : List Rule) : RuleSet :=
  let texts := Rule.cancelledTexts rules
  let network := (rules.filterMap Rule.network?).filter fun rule => rule.cancels.isNone
  -- A rule is cancelled by its text, whichever list it comes from.
  let (cancelled, kept) := network.partition fun rule => texts.contains rule.info.text
  let pick (isCsp isException : Bool) : RuleIndex := .ofList <|
    kept.filter fun rule => rule.isCsp == isCsp && rule.info.isException == isException
  { blocking := pick false false
    exceptions := pick false true
    csp := pick true false
    cspExceptions := pick true true
    styles := .ofList (rules.filterMap Rule.style?)
    scripts := .ofList (rules.filterMap Rule.script?)
    scriptlets := .ofList (rules.filterMap Rule.scriptlet?)
    contents := .ofList (rules.filterMap Rule.content?)
    cancelled := cancelled.length }

/-- How many rules there are of each sort. -/
def stats (set : RuleSet) : RuleStats where
  blocking := set.blocking.size
  exceptions := set.exceptions.size
  csp := set.csp.size + set.cspExceptions.size
  styles := set.styles.size
  scripts := set.scripts.size
  scriptlets := set.scriptlets.size
  contents := set.contents.size
  cancelled := set.cancelled

/-- The question which rules speak of a document, asked as a request for it from its own host. -/
def documentQuery (url : String) : Query where
  url
  host := (Url.lowerHost? url).getD ""
  thirdParty := false
  types := .only .document

/-- The exceptions for the whole document, in their order. -/
def documentRules (set : RuleSet) (url : String) : List NetworkRule :=
  (set.exceptions.rulesFor (documentQuery url)).filter (·.isDocumentLevel)

/-- As `documentRules`, with nothing where the program stops. -/
def tryDocumentRules (set : RuleSet) (url : String) : Option (List NetworkRule) :=
  (set.exceptions.tryRulesFor (documentQuery url)).map (·.filter (·.isDocumentLevel))

/-- The options of all exceptions for the whole document. -/
def documentOptions (set : RuleSet) (url : String) : OptionSet :=
  (set.documentRules url).foldl (fun options rule => options.union rule.options) .empty

/-- As `documentOptions`, with nothing where the program stops. -/
def tryDocumentOptions (set : RuleSet) (url : String) : Option OptionSet :=
  (set.tryDocumentRules url).map fun rules =>
    rules.foldl (fun options rule => options.union rule.options) .empty

/-- The first exception that lets all requests of the document through. -/
def requestsAllowed? (set : RuleSet) (url : String) : Option NetworkRule :=
  (set.documentRules url).find? fun rule => rule.options.has .urlBlock

/-- As `requestsAllowed?`, with nothing where the program stops. -/
def tryRequestsAllowed (set : RuleSet) (url : String) : Option (Option NetworkRule) :=
  (set.tryDocumentRules url).map (·.find? fun rule => rule.options.has .urlBlock)

/-- The best exception for the whole document. -/
def documentRule? (set : RuleSet) (url : String) : Option NetworkRule :=
  set.exceptions.ruleBy? (documentQuery url) (·.isDocumentLevel)

end RuleSet

end AdFilter
