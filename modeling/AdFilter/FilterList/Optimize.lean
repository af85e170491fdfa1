import AdFilter.Distinct
import AdFilter.Rule.Basic

/-! Rules that do nothing are dropped: those that are cancelled, and those that stand twice in a list. -/

namespace AdFilter

/-- How many rules were dropped, and why. -/
structure OptimizeStats where
  before : Nat
  after : Nat
  /-- Rules that stand in the same list before. -/
  repeated : Nat
  /-- Rules that cancel others. -/
  cancelling : Nat
  /-- Rules that others cancel. -/
  cancelled : Nat
  deriving DecidableEq

namespace Rule

/-- The texts of the rules that are cancelled. -/
def cancelledTexts (rules : List Rule) : Std.HashSet String := .ofList (rules.filterMap cancels)

/-- The rule cancels no other, and is among those whose texts are cancelled. -/
def isCancelledBy (texts : Std.HashSet String) (rule : Rule) : Bool :=
  rule.cancels.isNone && texts.contains rule.info.text

/-- The rule is what is left once the rules of some texts are cancelled. -/
def survives (texts : Std.HashSet String) (rule : Rule) : Bool :=
  rule.cancels.isNone && !texts.contains rule.info.text

/-- What two equal rules have in common. -/
def key (rule : Rule) : Nat × String := (rule.info.filterId, rule.info.text)

/-- The rules that do something, in their order, and how many do not. -/
def optimize (rules : List Rule) : List Rule × OptimizeStats :=
  let texts := cancelledTexts rules
  let kept := rules.filter (survives texts)
  let distinct := distinctBy key kept
  (distinct, {
    before := rules.length
    after := distinct.length
    repeated := repeatsBy key kept
    cancelling := rules.countP fun rule => rule.cancels.isSome
    cancelled := rules.countP (isCancelledBy texts) })

end Rule

end AdFilter
