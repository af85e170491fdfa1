import AdFilter.Content.Rule
import AdFilter.Cosmetic.Rule
import AdFilter.Scriptlet.Call
import Std.Data.HashMap

/-! Rules of one kind for pages, together with the exceptions to them. -/

namespace AdFilter

/-- What the kinds of rules for pages have in common. -/
class PageRule (R : Type) where
  info : R → RuleInfo
  domains : R → Domains
  /-- An exception is for the rules that have its key. -/
  key : R → String

instance : PageRule StyleRule := ⟨(·.info), (·.domains), (·.selector)⟩

instance : PageRule ScriptRule := ⟨(·.info), (·.domains), (·.script)⟩

instance : PageRule ScriptletRule := ⟨(·.info), (·.domains), (·.body)⟩

instance : PageRule ContentRule := ⟨(·.info), (·.domains), (·.elementsFilter)⟩

/-- The domains of exceptions, by key. -/
structure ExceptionTable where
  entries : Std.HashMap String (List Domains) := ∅
  /-- The number of exceptions. -/
  size : Nat := 0

namespace ExceptionTable

/-- One more exception. -/
def add (table : ExceptionTable) (key : String) (domains : Domains) : ExceptionTable :=
  ⟨table.entries.insert key (table.entries.getD key [] ++ [domains]), table.size + 1⟩

/-- Some exception with the key holds on the host. -/
def excepts (table : ExceptionTable) (key host : String) : Bool :=
  (table.entries.getD key []).any (·.permits host)

/-- As `excepts`, with no answer where the program stops. -/
def tryExcepts (table : ExceptionTable) (key host : String) : Option Bool :=
  (table.entries.getD key []).anyM (·.tryPermits host)

end ExceptionTable

/-- Rules of one kind that are no exceptions, in their order, and the exceptions to them. -/
structure PageRules (R : Type) where
  rules : List R
  exceptions : ExceptionTable

namespace PageRules

variable {R : Type} [PageRule R]

/-- The rules of a list, exceptions among them. -/
def ofList (rules : List R) : PageRules R where
  rules := rules.filter fun rule => !(PageRule.info rule).isException
  exceptions := (rules.filter fun rule => (PageRule.info rule).isException).foldl
    (fun table rule => table.add (PageRule.key rule) (PageRule.domains rule)) {}

/-- The number of rules, exceptions included. -/
def size (table : PageRules R) : Nat := table.rules.length + table.exceptions.size

/-- The rules that apply on a host and are not excepted there. -/
def activeOn (table : PageRules R) (host : String) : List R :=
  table.rules.filter fun rule =>
    (PageRule.domains rule).permits host && !table.exceptions.excepts (PageRule.key rule) host

/-- The rules of `activeOn` that are wanted, with nothing where the program stops; if all are switched off
there are none. -/
def tryActiveOn (table : PageRules R) (host : String) (isOff : Bool) (wanted : R → Bool) :
    Option (List R) :=
  if isOff then some []
  else table.rules.filterM fun rule => do
    if !(← (PageRule.domains rule).tryPermits host) then return false
    -- A rule that is not wanted is not held against the exceptions.
    if !wanted rule then return false
    return !(← table.exceptions.tryExcepts (PageRule.key rule) host)

end PageRules

end AdFilter
