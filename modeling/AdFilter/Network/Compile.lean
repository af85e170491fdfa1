import AdFilter.Network.Options
import AdFilter.Network.Pattern
import AdFilter.Network.Rule
import AdFilter.Regex.Compile
import AdFilter.Text.Search

/-! From a line to a rule about requests. -/

namespace AdFilter.Network

/-- The address part of a rule: the source of its expression, its shortcut, and whether it was
written as an expression or for every address. -/
def address (pattern : List Char) : List Char × Option (List Char) × Bool :=
  if isSlashed pattern || pattern.isEmpty || pattern == ['*'] then
    -- The slashes are no part of the expression.
    let body := (pattern.drop 1).dropLast
    if body.isEmpty || body == ['*'] then (anything, none, true)
    else (body, regexShortcut body, true)
  else (patternSource pattern, patternShortcut pattern, false)

/-- The rule that a line stands for. -/
def compile (text : String) (filterId : Nat) : Except RuleError NetworkRule := do
  let line := Text.trim text.toList
  let parts := split line
  let options ← match parts.options with
    | some options => Options.parse options parts.isException
    | none => .ok {}
  let (source, shortcut, isRegexRule) := address parts.pattern
  -- A rule for every address must at least name its domains.
  if source == anything && options.domains.isGeneric then
    throw (.tooWide (String.ofList line))
  if options.set.has .csp then checkCsp options.csp parts.isException
  let regex ← match Regex.compile (!options.set.has .matchCase) source with
    | .ok regex => .ok regex
    -- What is wrong with the expression is not told.
    | .error _ => .error .badRegex
  return {
    info := ⟨String.ofList line, filterId, parts.isException⟩
    regex
    source := String.ofList source
    shortcut := shortcut.map String.ofList
    domains := options.domains
    permittedTypes := if options.permittedTypes.isEmpty then .all else options.permittedTypes
    restrictedTypes := options.restrictedTypes
    party := options.party
    options := options.set
    isRegexRule
    isDocumentLevel := options.isDocumentLevel
    csp := options.csp
    cancels := if options.cancels then some (String.ofList (cancelledText line)) else none }

end AdFilter.Network
