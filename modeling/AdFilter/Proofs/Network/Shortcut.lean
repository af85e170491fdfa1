import AdFilter.Proofs.Network.BasicRule
import AdFilter.Proofs.Network.Literal
import AdFilter.Proofs.Text.Blank

/-! The shortcut of a rule with a basic pattern stands in every address that the rule means. -/

namespace AdFilter.Network

open Regex (Matches Flags cats letterExpr charExpr)

/-! ### Where the pattern stands in the line -/

/-- What stands before the options is the start of the body. -/
theorem suffix_of_cutOptions? {after before pattern options : List Char} {escaped passed : Bool}
    (cut : cutOptions? after escaped before = some (pattern, options, passed)) :
    pattern.reverse <:+ before := by
  -- The search goes backwards, so the body is in reverse and the pattern at its end.
  induction before generalizing after escaped with
  | nil => cases cut
  | cons c before ih =>
    unfold cutOptions? at cut
    split at cut
    · exact (ih cut).trans (List.suffix_cons c before)
    · split at cut
      · exact (ih cut).trans (List.suffix_cons c before)
      · cases cut
        rw [List.reverse_reverse]
        exact List.suffix_cons c before

/-- The pattern of a body is its start. -/
theorem splitBody_begins (body : List Char) : (splitBody body).1 <+: body := by
  unfold splitBody
  split
  · exact List.prefix_rfl
  · split
    · exact List.prefix_rfl
    · rename_i last before turned
      split
      · exact List.prefix_rfl
      · rename_i pattern options passed cut
        -- What stands in reverse at the end of the reverse stands at the start.
        have ends := (suffix_of_cutOptions? cut).trans (List.suffix_cons last before)
        rw [← turned, List.reverse_suffix] at ends
        exact ends

/-- The pattern of a line is a part of it. -/
theorem pattern_inside (line : List Char) : (split line).pattern <:+: line := by
  unfold split
  split
  · rename_i body marked
    -- The mark of exceptions is no part of the body.
    have behind : body <:+ line := by
      rw [← List.isPrefixOf?_eq_some_iff_append_eq.mp marked]
      exact List.suffix_append _ _
    exact (splitBody_begins body).isInfix.trans behind.isInfix
  · exact (splitBody_begins line).isInfix

/-! ### Where the shortcut stands in the expression -/

variable {flags : Flags} {part body pattern word url : List Char}

/-- The character stands for itself wherever it stands in a pattern. -/
def isPlain (c : Char) : Bool := !(c == '*' || c == '^' || c == '|')

/-- Plain characters have the expressions of letters. -/
theorem map_charExpr_of_plain (plain : ∀ c ∈ part, isPlain c = true) :
    part.map (charExpr flags) = part.map (letterExpr flags) := by
  apply List.map_congr_left
  intro c member
  have here := plain c member
  -- A plain character is neither a star nor a separator.
  simp only [isPlain, Bool.not_eq_true', Bool.or_eq_false_iff, beq_eq_false_iff_ne] at here
  rw [charExpr, if_neg here.1.1, if_neg here.1.2]

/-- A plain part stands on one side of a bar, so it is not cut by one. -/
theorem infix_of_infix_bar {before rest : List Char} (plain : ∀ c ∈ part, isPlain c = true)
    (inside : part <:+: before ++ '|' :: rest) : part <:+: before ∨ part <:+: rest := by
  -- A plain part has no bar, so it cannot lie across one.
  have absent : '|' ∉ part := by
    intro member
    exact absurd (plain '|' member) (by decide)
  exact (Text.infix_append_cons_iff absent).mp inside

/-- A plain part of a pattern stands behind the anchor. -/
theorem infix_cutAnchor (plain : ∀ c ∈ part, isPlain c = true) (inside : part <:+: pattern) :
    part <:+: (cutAnchor pattern).2 := by
  -- Only the empty part stands before the first bar.
  have behind {rest : List Char} (inside : part <:+: '|' :: rest) : part <:+: rest := by
    have inside : part <:+: [] ++ '|' :: rest := inside
    rcases infix_of_infix_bar plain inside with nothing | behind
    · rw [List.infix_nil.mp nothing]
      exact List.nil_infix
    · exact behind
  unfold cutAnchor
  split
  · exact behind (behind inside)
  · exact behind inside
  · exact inside

/-- A plain part of what follows the anchor is a row of letters in its expressions. -/
theorem exists_of_infix_body (flags : Flags) (plain : ∀ c ∈ part, isPlain c = true)
    (inside : part <:+: body) :
    ∃ before after, bodyExprs flags body = before ++ part.map (letterExpr flags) ++ after := by
  -- Characters become expressions one by one, and so does the part among them.
  have row {text : List Char} (inside : part <:+: text) (ends : List Regex) :
      ∃ before after, text.map (charExpr flags) ++ ends =
        before ++ part.map (letterExpr flags) ++ after := by
    obtain ⟨front, back, rfl⟩ := inside
    refine ⟨front.map (charExpr flags), back.map (charExpr flags) ++ ends, ?_⟩
    simp only [List.map_append, map_charExpr_of_plain plain, List.append_assoc]
  unfold bodyExprs
  split
  · rename_i text ends
    rw [List.isSuffixOf?_eq_some_iff_append_eq] at ends
    rw [← ends] at inside
    -- The bar at the end is no part of the text before it.
    rcases infix_of_infix_bar plain inside with here | nothing
    · exact row here _
    · obtain rfl := List.infix_nil.mp nothing
      exact row List.nil_infix _
  · obtain ⟨before, after, same⟩ := row inside []
    exact ⟨before, after, by rw [← same, List.append_nil]⟩

/-- What matches a row with letters in it has a part that these letters match. -/
theorem exists_of_matches_row {before after : List Regex} {letters : List Char}
    {left right : Option Char}
    (here : Matches (cats (before ++ letters.map (letterExpr flags) ++ after)) left word right) :
    ∃ found, found <:+: word ∧
      List.Forall₂ (fun c d => (flags.fold (.only c)).has d = true) letters found := by
  obtain ⟨_, rest, rfl, first, _⟩ := Regex.matches_cats_append_iff.mp here
  obtain ⟨front, found, rfl, _, row⟩ := Regex.matches_cats_append_iff.mp first
  -- The letters are matched by a word that lies between the other two.
  exact ⟨found, ⟨front, rest, rfl⟩, Regex.matches_letterExprs_iff.mp row⟩

/-- Where the expression of a pattern occurs, each plain part of the pattern stands, up to case. -/
theorem exists_of_occurs_patternExpr (plain : ∀ c ∈ part, isPlain c = true)
    (inside : part <:+: pattern) (occurs : Regex.Occurs (patternExpr flags pattern) url) :
    ∃ found, found <:+: url ∧
      List.Forall₂ (fun c d => (flags.fold (.only c)).has d = true) part found := by
  obtain ⟨before, after, row⟩ :=
    exists_of_infix_body flags plain (infix_cutAnchor plain inside)
  obtain ⟨passed, word, beyond, rfl, here⟩ := occurs
  -- The expressions of the anchor come first, and leave the row of letters in one piece.
  rw [patternExpr, row, ← List.append_assoc, ← List.append_assoc] at here
  obtain ⟨found, within, same⟩ := exists_of_matches_row here
  exact ⟨found, within.trans ⟨passed, beyond, rfl⟩, same⟩

/-- The shortcut of a pattern is the lower case of a plain part of it. -/
theorem exists_of_patternShortcut {shortcut : List Char}
    (short : patternShortcut pattern = some shortcut) :
    ∃ part, part <:+: pattern ∧ (∀ c ∈ part, isPlain c = true) ∧ shortcut = Text.lower part := by
  obtain ⟨_, same⟩ := nonEmptyLower_eq_some short
  -- The longest part lies between the signs of the pattern, so it has none of them.
  obtain ⟨inside, apart⟩ := Text.longestPart_spec (fun c => c == '*' || c == '^' || c == '|') pattern
  refine ⟨_, inside, ?_, same⟩
  intro c member
  rw [isPlain, apart c member]
  rfl

/-- Every address in which the expression of a pattern is found contains the shortcut of the pattern. -/
theorem contains_patternShortcut {ignoreCase : Bool} {r : Regex} {shortcut : List Char}
    (compiled : Regex.compile ignoreCase (patternSource pattern) = .ok r)
    (short : patternShortcut pattern = some shortcut) (ascii : ∀ c ∈ pattern, c.toNat < 128)
    (low : ∀ c ∈ url, c.toNat < 128) (found : r.search url = true) :
    Text.contains (Text.lower url) shortcut = true := by
  rw [Regex.search_iff_occurs (Regex.bounded_compile compiled),
    eq_patternExpr_of_compile compiled] at found
  obtain ⟨part, inside, plain, rfl⟩ := exists_of_patternShortcut short
  obtain ⟨spelled, within, same⟩ := exists_of_occurs_patternExpr plain inside found
  -- Each letter is a variant of what it matches, case being ignored or not.
  have variants : List.Forall₂ (fun c d => c ∈ Text.caseVariants d) part spelled := by
    rw [List.forall₂_iff_zip] at same ⊢
    refine ⟨same.1, fun pair => ?_⟩
    exact mem_caseVariants_of_fold (low _ (within.subset (List.of_mem_zip pair).2)) (same.2 pair)
  -- No ASCII character is one of the two that fold into ASCII from outside.
  have regular : ∀ c ∈ part, Text.foldsIntoAscii c = false :=
    fun c member => Text.foldsIntoAscii_of_lt (ascii c (inside.subset member))
  exact Text.contains_iff.mpr (Text.lower_infix (Text.lowerAgrees_of_ascii low regular) variants within)

/-! ### Rules -/

section Rule

variable {text : String} {filterId : Nat} {rule : NetworkRule}

/-- A rule with a basic pattern has the shortcut of that, or none. -/
theorem shortcut_of_isBasic (compiled : compile text filterId = .ok rule)
    (basic : IsBasic (Text.trim text.toList)) :
    rule.shortcut = none ∨ ∃ ignoreCase, let pattern := (split (Text.trim text.toList)).pattern
      Regex.compile ignoreCase (patternSource pattern) = .ok rule.regex ∧
        rule.shortcut = (patternShortcut pattern).map String.ofList := by
  obtain ⟨options, regex, _, found, rfl⟩ := compile_eq_ok compiled
  generalize Text.trim text.toList = line at basic found ⊢
  rw [IsBasic] at basic
  -- A pattern for every address has no shortcut, and any other one that of its parts.
  by_cases every : (split line).pattern.isEmpty || (split line).pattern == ['*']
  · left
    have whole : address (split line).pattern = (anything, none, true) := by
      simp only [Bool.or_eq_true, List.isEmpty_iff, beq_iff_eq] at every
      rcases every with every | every
      · rw [every]
        rfl
      · rw [every]
        rfl
    simp only [assemble, whole]
    rfl
  · right
    have whole : address (split line).pattern =
        (patternSource (split line).pattern, patternShortcut (split line).pattern, false) := by
      rw [address, basic, Bool.false_or, if_neg every]
    rw [whole] at found
    refine ⟨!options.set.has .matchCase, found, ?_⟩
    simp only [assemble, whole]

/--
The shortcut changes no answer of a rule with a basic pattern.

What its expression finds contains the shortcut, so the rule means the addresses that the expression
finds, under the conditions on party and type.
-/
theorem filters_of_isBasic (compiled : compile text filterId = .ok rule)
    (basic : IsBasic (Text.trim text.toList)) (ascii : ∀ c ∈ text.toList, c.toNat < 128)
    (url : String) (thirdParty : Bool) (types : TypeSet) (low : ∀ c ∈ url.toList, c.toNat < 128) :
    (rule.regex.search url.toList = true → rule.hasShortcut url = true) ∧
      rule.filters url thirdParty types =
        (rule.party.accepts thirdParty && rule.acceptsType types &&
          rule.regex.search url.toList) := by
  have present (found : rule.regex.search url.toList = true) : rule.hasShortcut url = true := by
    rcases shortcut_of_isBasic compiled basic with absent | ⟨ignoreCase, read, same⟩
    · rw [NetworkRule.hasShortcut, absent]
      rfl
    · -- The pattern is a part of the line, which is a part of the text.
      have plain : ∀ c ∈ (split (Text.trim text.toList)).pattern, c.toNat < 128 := by
        intro c member
        apply ascii
        have line := (pattern_inside _).subset member
        exact (Text.trimStart_suffix _).subset ((Text.trimEnd_prefix _).subset line)
      rw [NetworkRule.hasShortcut, same]
      cases short : patternShortcut (split (Text.trim text.toList)).pattern with
      | none => rfl
      | some shortcut => simpa using contains_patternShortcut read short plain low found
  refine ⟨present, ?_⟩
  rw [NetworkRule.filters]
  cases found : rule.regex.search url.toList with
  -- Where the expression is found, so is the shortcut.
  | true => simp [present found]
  -- Where it is not found, the rule does not mean the address anyway.
  | false => simp

/-- A bar inside of a pattern stands for itself, though the shortcut is cut there. -/
theorem filters_of_isBasic_bar : ∃ rule,
    compile "/Ad*|2^$match-case" 0 = .ok rule ∧
      IsBasic (Text.trim "/Ad*|2^$match-case".toList) ∧
      (∀ c ∈ "/Ad*|2^$match-case".toList, c.toNat < 128) ∧
      (∀ c ∈ "//x/Ad?id|2".toList, c.toNat < 128) ∧
      rule.shortcut = some "/ad" ∧ rule.regex.search "//x/Ad?id|2".toList = true ∧
      rule.hasShortcut "//x/Ad?id|2" = true ∧
      rule.filters "//x/Ad?id|2" false (.only .image) =
        (rule.party.accepts false && rule.acceptsType (.only .image) &&
          rule.regex.search "//x/Ad?id|2".toList) := by
  have source : patternSource "/Ad*|2^".toList = "/Ad.*\\|2([^ a-zA-Z0-9.%]|$)".toList := by
    decide +kernel
  have accepted : ((compile "/Ad*|2^$match-case" 0).toOption.any fun rule =>
      rule.shortcut == some "/ad" &&
        (Regex.compile false (patternSource "/Ad*|2^".toList)).toOption ==
          some rule.regex) = true := by decide +kernel
  have found : ((Regex.compile false "/Ad.*\\|2([^ a-zA-Z0-9.%]|$)".toList).toOption.any
      (·.search "//x/Ad?id|2".toList)) = true := by cbv
  rw [← source] at found
  -- The bar in the middle is a character like others.
  have basic : IsBasic (Text.trim "/Ad*|2^$match-case".toList) := by
    unfold IsBasic
    decide +kernel
  have ascii : ∀ c ∈ "/Ad*|2^$match-case".toList, c.toNat < 128 := by simp
  have low : ∀ c ∈ "//x/Ad?id|2".toList, c.toNat < 128 := by simp
  obtain ⟨rule, read, accepted⟩ := exists_of_any_toOption accepted
  obtain ⟨expression, compiled, found⟩ := exists_of_any_toOption found
  simp only [compiled, Bool.and_eq_true, beq_iff_eq, Except.toOption, Option.some.injEq] at accepted
  obtain ⟨short, rfl⟩ := accepted
  obtain ⟨present, same⟩ :=
    filters_of_isBasic read basic ascii "//x/Ad?id|2" false (.only .image) low
  exact ⟨rule, read, basic, ascii, low, short, found, present found, same⟩

end Rule

end AdFilter.Network
