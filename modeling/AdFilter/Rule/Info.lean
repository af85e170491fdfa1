/-! What every rule carries, whatever its kind, and why a line is not accepted as a rule. -/

namespace AdFilter

/-- The line a rule was read from, the list it stood in, and whether it is an exception. -/
structure RuleInfo where
  /-- The line, trimmed. -/
  text : String
  filterId : Nat
  isException : Bool
  deriving DecidableEq

/-- Why a line is not accepted as a rule. -/
inductive RuleError
  | notARule
  | invalidScriptlet (text : String)
  | unknownOption (name : String)
  | exceptionOnly (option : String)
  | blockingOnly (option : String)
  | tooWide (text : String)
  | invalidDomains (text : String)
  | noPermittedDomain
  | invalidInteger (name value : String)
  | emptyCsp
  | forbiddenCsp (directive : String)
  | unsupportedPseudoClass (name : String)
  | invalidStyle (text : String)
  | missingStyle (text : String)
  | emptyBody
  /-- An expression that the rule is written with, or is turned into, does not compile. -/
  | badRegex
  /-- The text that the rule turns into is no selector. -/
  | badSelector (selector : String)
  deriving DecidableEq

/-- One sentence for the reader of a list. -/
def RuleError.message : RuleError → String
  | notARule => "Not a filtering rule"
  | invalidScriptlet text => "Invalid scriptlet syntax: " ++ text
  | unknownOption name => "Unknown option: " ++ name
  | exceptionOnly option => "Option " ++ option ++ " cannot be applied to a blocking rule"
  | blockingOnly option => "Option " ++ option ++ " cannot be applied to an exception rule"
  | tooWide text => "Too wide basic rule: " ++ text
  | invalidDomains text => "Invalid domain list: " ++ text
  | noPermittedDomain => "Content rule must have at least one permitted domain"
  | invalidInteger name value => "Invalid integer for " ++ name ++ ": " ++ value
  | emptyCsp => "CSP directive must not be empty"
  | forbiddenCsp directive => "Forbidden CSP directive: " ++ directive
  | unsupportedPseudoClass name => "Unknown pseudo class: " ++ name
  | invalidStyle text => "Wrong :style pseudo class syntax: " ++ text
  | missingStyle text => "Invalid css injection rule, no style presented: " ++ text
  | emptyBody => "Empty rule body"
  | badRegex => "Invalid regex"
  | badSelector selector => "Invalid CSS selector " ++ selector

end AdFilter
