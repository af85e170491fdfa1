import AdFilter.Domain
import AdFilter.Rule.Info

/-!
Rules that put style or script text into a page, and the style sheets that are made of them: selectors to hide in
groups of fifty, and texts to put in line by line.
-/

namespace AdFilter

/-- A rule that hides elements, or puts a piece of style sheet into the page. -/
structure StyleRule where
  info : RuleInfo
  /-- The selector of what is hidden, or the whole text that is put in; an exception is for rules
  with the same one. -/
  selector : String
  isInject : Bool
  /-- The text needs an engine that knows more than browsers do. -/
  isExtended : Bool
  domains : Domains

/-- A rule that puts a piece of script into the page. -/
structure ScriptRule where
  info : RuleInfo
  /-- The script; an exception is for rules with the same one. -/
  script : String
  domains : Domains

/-- The rule names no domain on which it applies. -/
def StyleRule.isGeneric (rule : StyleRule) : Bool := rule.domains.isGeneric

namespace Stylesheet

/-- What closes a group of selectors. -/
def hidden : String := " \x7b display: none!important; \x7d\n"

/-- How many selectors a group holds at most. -/
def groupSize : Nat := 50

/-- The groups so far, as text, and the number of selectors in all of them. -/
structure Hiding where
  text : List Char := []
  count : Nat := 0

/-- One more selector; a full group and one with an extended selector are closed at once. -/
def Hiding.add (groups : Hiding) (rule : StyleRule) : Hiding :=
  let count := groups.count + 1
  let tail := if count % groupSize = 0 ∨ rule.isExtended then hidden.toList else [',', ' ']
  ⟨groups.text ++ rule.selector.toList ++ tail, count⟩

/-- The text of all groups; the comma behind the last selector gives way to the close of its group. -/
def Hiding.close (groups : Hiding) : List Char :=
  -- Only a comma at the very end stands for an open group.
  match List.isSuffixOf? [',', ' '] groups.text with
  | some opened => opened ++ hidden.toList
  | none => groups.text

/-- The style sheets for a list of rules: one that hides, then one with all that is put in. -/
def build (rules : List StyleRule) : List String :=
  let (inject, hide) := rules.partition (·.isInject)
  let sheet := (hide.foldl Hiding.add {}).close
  (if sheet.isEmpty then [] else [String.ofList sheet]) ++
    (if inject.isEmpty then [] else ["\n".intercalate (inject.map (·.selector))])

end Stylesheet

end AdFilter
