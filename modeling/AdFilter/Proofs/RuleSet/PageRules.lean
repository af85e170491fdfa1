import AdFilter.RuleSet.PageRules
import Mathlib

/-! Which rules for pages apply on a host: those that are permitted there and have no exception there. -/

namespace AdFilter

namespace ExceptionTable

/-- One more exception holds where it is permitted, for the rules with its key. -/
theorem excepts_add (table : ExceptionTable) (added : String) (domains : Domains) (key host : String) :
    (table.add added domains).excepts key host =
      (table.excepts key host || added == key && domains.permits host) := by
  -- Only the entry under the added key is another one.
  by_cases same : added = key
  · simp [excepts, add, same]
  · simp [excepts, add, same, Std.HashMap.getD_insert]

end ExceptionTable

namespace PageRules

variable {R : Type} [PageRule R]

open PageRule (info domains key)

/-- Some exception of a list is for the key, and holds on the host. -/
def excepted (rules : List R) (name host : String) : Bool :=
  rules.any fun other => (info other).isException && key other == name && (domains other).permits host

/-- Exceptions that are added in a row are looked up among all of them. -/
theorem excepts_foldl_add (rules : List R) (table : ExceptionTable) (name host : String) :
    (rules.foldl (fun table rule => table.add (key rule) (domains rule)) table).excepts name host =
      (table.excepts name host ||
        rules.any fun rule => key rule == name && (domains rule).permits host) := by
  -- Each rule adds to the table that those before it have left.
  induction rules generalizing table with
  | nil => simp
  | cons rule rules ih => simp [ih, ExceptionTable.excepts_add, Bool.or_assoc]

/-- The rules of a list that apply on a host, with its exceptions in full view. -/
theorem activeOn_ofList (rules : List R) (host : String) :
    (ofList rules).activeOn host = rules.filter fun rule =>
      !(info rule).isException && (domains rule).permits host && !excepted rules (key rule) host := by
  -- The table begins empty, so nothing but the exceptions of the list is in it.
  have nothing (name : String) : ({} : ExceptionTable).excepts name host = false := by
    simp [ExceptionTable.excepts]
  simp only [activeOn, ofList, excepts_foldl_add, nothing, Bool.false_or, List.filter_filter,
    List.any_filter, excepted]
  refine List.filter_congr fun rule _ => ?_
  simp only [Bool.and_assoc, Bool.and_comm, Bool.and_left_comm]

/-- An exception leaves out the rules with its key where it holds, and nothing elsewhere. -/
theorem activeOn_insert {before after : List R} {added : R}
    (excepting : (info added).isException = true) (host : String) :
    (ofList (before ++ added :: after)).activeOn host =
      ((ofList (before ++ after)).activeOn host).filter fun rule =>
        !(key rule == key added && (domains added).permits host) := by
  have more (name : String) : excepted (before ++ added :: after) name host =
      (excepted (before ++ after) name host ||
        key added == name && (domains added).permits host) := by
    simp only [excepted, List.any_append, List.any_cons, excepting, Bool.true_and]
    ac_rfl
  -- The exception itself is not among the rules that apply.
  simp only [activeOn_ofList, more, List.filter_append, List.filter_cons, excepting,
    List.filter_filter, Bool.not_true, Bool.false_and, Bool.false_eq_true, if_false]
  congr 1 <;>
  · refine List.filter_congr fun rule _ => ?_
    grind

/-- Rules that are no exceptions leave the rules that apply if they leave the list. -/
theorem activeOn_filter (rules : List R) (keep : R → Bool) (host : String) :
    (ofList (rules.filter fun rule => (info rule).isException || keep rule)).activeOn host =
      ((ofList rules).activeOn host).filter keep := by
  -- Exceptions stay in the list, so what is excepted is the same.
  have kept (name : String) : excepted
      (rules.filter fun rule => (info rule).isException || keep rule) name host =
        excepted rules name host := by
    simp only [excepted, List.any_filter]
    congr 1
    funext rule
    cases (info rule).isException <;> simp
  simp only [activeOn_ofList, kept, List.filter_filter]
  refine List.filter_congr fun rule _ => ?_
  grind

/-- Rules in another order apply in another order. -/
theorem activeOn_perm {rules others : List R} (same : rules.Perm others) (host : String) :
    ((ofList rules).activeOn host).Perm ((ofList others).activeOn host) := by
  -- Whether there is an exception does not depend on the order.
  have kept (name : String) : excepted rules name host = excepted others name host := same.any_eq
  simp only [activeOn_ofList, kept]
  exact same.filter _

end PageRules

end AdFilter
