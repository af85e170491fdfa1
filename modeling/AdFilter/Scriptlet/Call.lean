import AdFilter.Domain
import AdFilter.Rule.Info

/-! Scriptlets: named functions that a rule puts into a page, with their arguments. -/

namespace AdFilter

/-- The dialect that a scriptlet rule is written in. -/
inductive Dialect
  | native
  | ubo
  | abp
  deriving DecidableEq

/-- What the names of a dialect begin with in the library of functions. -/
def Dialect.namespaceText : Dialect → String
  | native => ""
  | ubo => "ubo-"
  | abp => "abp-"

/-- One function with its arguments. -/
structure ScriptletCall where
  name : String
  args : List String
  deriving DecidableEq

namespace ScriptletCall

/-- The call whose name and arguments are given as a list; without a name there is none. -/
def ofWords? (dialect : Dialect) : List String → Option ScriptletCall
  | [] => none
  | name :: args => if name.isEmpty then none else some ⟨dialect.namespaceText ++ name, args⟩

/-- The words of a call are its name in the dialect, which is not empty, and its arguments. -/
theorem ofWords?_eq_some_iff {dialect : Dialect} {words : List String} {call : ScriptletCall} :
    ofWords? dialect words = some call ↔ ∃ name, words = name :: call.args ∧ name ≠ "" ∧
      call.name = dialect.namespaceText ++ name := by
  rcases call with ⟨callName, callArgs⟩
  cases words with
  | nil => simp [ofWords?]
  | cons name args =>
    -- Without a name there is no call.
    by_cases empty : name = ""
    · simp [ofWords?, empty]
    · simp only [ofWords?, String.isEmpty_iff, if_neg empty]
      grind

end ScriptletCall

/-- A rule that puts functions into a page. -/
structure ScriptletRule where
  info : RuleInfo
  calls : List ScriptletCall
  dialect : Dialect
  /-- The text behind the mark, trimmed; an exception is for rules with the same one. -/
  body : String
  domains : Domains

end AdFilter
