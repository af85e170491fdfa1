import AdFilter.Index.Rules
import AdFilter.Proofs.Network.Compile
import AdFilter.Proofs.Network.PatternSource
import AdFilter.Proofs.Regex.IgnoreCase
import AdFilter.Proofs.Url

/-! Rules with basic patterns do not depend on the case of addresses, unless they ask for it. -/

namespace AdFilter

namespace Regex

/-- Where case is ignored, the set of a character ignores it. -/
theorem ignoresCase_letterExpr (c : Char) : (letterExpr folding c).IgnoresCase :=
  CharSet.ignoresCase_folded _

/-- The expression of each character of a pattern ignores case. -/
theorem ignoresCase_charExpr (c : Char) : (charExpr folding c).IgnoresCase := by
  unfold charExpr
  -- The sets of a star, a separator and a letter are all that could tell cases apart.
  split
  · exact (CharSet.ignoresCase_only (by rfl)).compl
  · split
    · exact ⟨(CharSet.ignoresCase_folded _).compl, .inr rfl⟩
    · exact ignoresCase_letterExpr c

end Regex

namespace Network

open Regex

/-- The expression of a pattern ignores case. -/
theorem ignoresCase_patternExpr (pattern : List Char) :
    (patternExpr folding pattern).IgnoresCase := by
  -- The expression is put together from those of characters, which ignore case one by one.
  have letters (text : List Char) : ∀ r ∈ text.map (letterExpr folding), r.IgnoresCase :=
    List.forall_mem_map.mpr fun c _ => ignoresCase_letterExpr c
  have chars (text : List Char) : ∀ r ∈ text.map (charExpr folding), r.IgnoresCase :=
    List.forall_mem_map.mpr fun c _ => ignoresCase_charExpr c
  have scheme : (schemeExpr folding).IgnoresCase := by
    refine ignoresCase_alts fun r member => ?_
    obtain ⟨name, _, rfl⟩ := List.mem_map.mp member
    exact ignoresCase_cats (letters name.toList)
  have subdomain : (Regex.times (subdomainExpr folding) 0 (some 1)).IgnoresCase :=
    ⟨CharSet.ignoresCase_folded _, ignoresCase_letterExpr '.'⟩
  -- The anchor in front and the body behind it are joined.
  refine ignoresCase_cats (List.forall_mem_append.mpr ⟨?_, ?_⟩)
  · fun_cases anchorExprs folding pattern with
    | case1 =>
      simp only [hostExprs, List.forall_mem_append, List.forall_mem_cons]
      exact ⟨⟨⟨.inl rfl, scheme, by simp⟩, letters _⟩, subdomain, by simp⟩
    | case2 => simp [IgnoresCase]
    | case3 => simp
  · unfold bodyExprs
    split
    · exact List.forall_mem_append.mpr ⟨chars _, by simp [IgnoresCase]⟩
    · exact chars _

/-- A line has a basic pattern: what it says about addresses is no expression between slashes. -/
def IsBasic (line : List Char) : Prop := isSlashed (split line).pattern = false

/-- A rule with a basic pattern has the expression of that, where an empty one is read as a star. -/
theorem regex_of_isBasic {text : String} {filterId : Nat} {rule : NetworkRule}
    (compiled : compile text filterId = .ok rule) (basic : IsBasic (Text.trim text.toList)) :
    ∃ pattern, rule.regex = patternExpr { ignoreCase := !rule.options.has .matchCase } pattern := by
  obtain ⟨options, regex, _, found, rfl⟩ := compile_eq_ok compiled
  -- Only what stands between slashes is taken over as it is, so the source is that of a pattern.
  obtain ⟨pattern, source⟩ : ∃ pattern,
      (address (split (Text.trim text.toList)).pattern).1 = patternSource pattern := by
    rw [IsBasic] at basic
    unfold address
    rw [basic, Bool.false_or]
    split
    · rename_i every
      -- Nothing at all is read as a star is.
      simp only [Bool.or_eq_true, List.isEmpty_iff, beq_iff_eq] at every
      refine ⟨['*'], ?_⟩
      rcases every with every | every <;>
      · rw [every]
        rfl
    · exact ⟨_, rfl⟩
  rw [source] at found
  exact ⟨pattern, eq_patternExpr_of_compile found⟩

end Network

/-- The rule was read from a line with a basic pattern, and does not ask for case. -/
def NetworkRule.IsBasic (rule : NetworkRule) : Prop :=
  rule.options.has .matchCase = false ∧
    ∃ text filterId, Network.compile text filterId = .ok rule ∧
      Network.IsBasic (Text.trim text.toList)

/-- The question about the same address in small letters. -/
def Query.toLower (query : Query) : Query := { query with url := query.url.toLower }

namespace NetworkRule.IsBasic

variable {rule : NetworkRule}

/-- The expression of the rule ignores case. -/
theorem ignoresCase (basic : rule.IsBasic) : rule.regex.IgnoresCase := by
  obtain ⟨small, text, filterId, compiled, plain⟩ := basic
  -- The expression is that of a pattern, and case is ignored where the rule does not ask for it.
  obtain ⟨pattern, same⟩ := Network.regex_of_isBasic compiled plain
  rw [same, small]
  exact Network.ignoresCase_patternExpr pattern

/-- The rule means an address just if it means it in small letters. -/
theorem filters_toLower (basic : rule.IsBasic) (url : String) (thirdParty : Bool) (types : TypeSet) :
    rule.filters url.toLower thirdParty types = rule.filters url thirdParty types := by
  have text : url.toLower.toList = url.toList.map Char.toLower := String.toList_map
  -- The shortcut is looked for in the lower case, and the expression finds the same in either.
  simp only [filters, hasShortcut, text, Text.lower_map_toLower,
    Regex.search_toLower basic.ignoresCase]

/-- The rule answers a question just if it answers it about the address in small letters. -/
theorem answers_toLower (basic : rule.IsBasic) (query : Query) :
    rule.answers query.toLower = rule.answers query := by
  simp only [answers, Query.toLower, basic.filters_toLower]

end NetworkRule.IsBasic

end AdFilter
