import AdFilter.Domain
import AdFilter.Regex.Search
import AdFilter.Request
import AdFilter.Rule.Info
import AdFilter.Rule.Option
import AdFilter.Text.Letter

/-! Rules about requests, and when one of them says something about a request. -/

namespace AdFilter

/-- A rule about requests: which addresses it means, and under which conditions. -/
structure NetworkRule where
  info : RuleInfo
  /-- The expression for the addresses, and the source it was read from. -/
  regex : Regex
  source : String
  /-- A part of every address that the rule means, in small letters. -/
  shortcut : Option String
  domains : Domains
  permittedTypes : TypeSet
  restrictedTypes : TypeSet
  party : Party
  options : OptionSet
  /-- The pattern was an expression to begin with, or means every address. -/
  isRegexRule : Bool
  /-- The rule speaks of whole documents. -/
  isDocumentLevel : Bool
  csp : Option String
  /-- The text of the rule that this one cancels. -/
  cancels : Option String

namespace NetworkRule

/-- The rule names no domain on which it applies. -/
def isGeneric (rule : NetworkRule) : Bool := rule.domains.isGeneric

/-- The rule wins over others that are not important. -/
def isImportant (rule : NetworkRule) : Bool := rule.options.has .important

/-- The type of a request is one that the rule means and none that it leaves out. -/
def acceptsType (rule : NetworkRule) (types : TypeSet) : Bool :=
  -- A rule without types of its own is for all of them.
  (rule.permittedTypes == .all || rule.permittedTypes.meets types) &&
    !rule.restrictedTypes.meets types

/-- The rule applies in a document on the host, which is empty if there is none. -/
def permits (rule : NetworkRule) (host : String) : Bool :=
  -- Without a document, generic rules apply unless they block by party.
  if host.isEmpty && rule.isGeneric && (rule.info.isException || rule.party == .any) then true
  else rule.domains.permits host

/-- As `permits`, with no answer where the program stops. -/
def tryPermits (rule : NetworkRule) (host : String) : Option Bool :=
  if host.isEmpty && rule.isGeneric && (rule.info.isException || rule.party == .any) then some true
  else rule.domains.tryPermits host

/-- The address contains the part that every address of the rule contains. -/
def hasShortcut (rule : NetworkRule) (url : String) : Bool :=
  rule.shortcut.all fun shortcut => Text.contains (Text.lower url.toList) shortcut.toList

/-- The rule means a request to the address, whatever document it comes from. -/
def filters (rule : NetworkRule) (url : String) (thirdParty : Bool) (types : TypeSet) : Bool :=
  rule.party.accepts thirdParty && rule.hasShortcut url && rule.acceptsType types &&
    rule.regex.search url.toList

end NetworkRule

end AdFilter
