import AdFilter.Content.Rule
import AdFilter.Cosmetic.Rule
import AdFilter.Network.Rule
import AdFilter.Scriptlet.Call

/-! Rules of any kind. -/

namespace AdFilter

/-- A rule of any kind. -/
inductive Rule
  | network (rule : NetworkRule)
  | content (rule : ContentRule)
  | scriptlet (rule : ScriptletRule)
  | style (rule : StyleRule)
  | script (rule : ScriptRule)

namespace Rule

/-- What every rule carries. -/
def info : Rule → RuleInfo
  | network rule => rule.info
  | content rule => rule.info
  | scriptlet rule => rule.info
  | style rule => rule.info
  | script rule => rule.info

/-- The domains on which the rule applies. -/
def domains : Rule → Domains
  | network rule => rule.domains
  | content rule => rule.domains
  | scriptlet rule => rule.domains
  | style rule => rule.domains
  | script rule => rule.domains

/-- The rule names no domain on which it applies. -/
def isGeneric (rule : Rule) : Bool := rule.domains.isGeneric

/-- The text of the rule that this one cancels. -/
def cancels : Rule → Option String
  | network rule => rule.cancels
  | _ => none

end Rule

end AdFilter
