import AdFilter.Cosmetic.Rule
import Mathlib

/-!
The selectors of a style sheet stand in groups: each of them in one group, none left out, and what is
put in as it is comes in a sheet of its own.
-/

namespace AdFilter.Stylesheet

/-- A group as it is written: its selectors with commas between them, and what closes it. -/
def groupText (group : List StyleRule) : String :=
  ", ".intercalate (group.map (·.selector)) ++ hidden

/-- The places behind which the groups end, where the first selector of all has place one. -/
def endPlaces : List (List StyleRule) → List Nat
  | [] => []
  | group :: groups => group.length :: (endPlaces groups).map (group.length + ·)

/-- The groups are made of all rules in their order, and end at full ones, extended ones and the last. -/
structure IsGrouping (rules : List StyleRule) (groups : List (List StyleRule)) : Prop where
  whole : groups.flatten = rules
  filled : [] ∉ groups
  ends : ∀ i rule, rules[i]? = some rule → (i + 1 ∈ endPlaces groups ↔
    (i + 1) % groupSize = 0 ∨ rule.isExtended = true ∨ i + 1 = rules.length)

/-- One more rule in front, in the first group if there is one. -/
def extend (rule : StyleRule) : List (List StyleRule) → List (List StyleRule)
  | [] => [[rule]]
  | group :: groups => (rule :: group) :: groups

/-- The groups of some rules, with a number of selectors in the groups before them. -/
def groupsFrom (count : Nat) : List StyleRule → List (List StyleRule)
  | [] => []
  | rule :: rules =>
    if (count + 1) % groupSize = 0 ∨ rule.isExtended then [rule] :: groupsFrom (count + 1) rules
    else extend rule (groupsFrom (count + 1) rules)

/-- The groups of some rules. -/
def groupsOf (rules : List StyleRule) : List (List StyleRule) := groupsFrom 0 rules

variable {rule : StyleRule} {rules : List StyleRule} {groups : List (List StyleRule)}

/-! ### Which rules stand in a group -/

/-- The rule in front comes first. -/
@[simp] theorem flatten_extend (rule : StyleRule) (groups : List (List StyleRule)) :
    (extend rule groups).flatten = rule :: groups.flatten := by
  cases groups <;> rfl

/-- A rule in front leaves no group empty. -/
theorem nil_not_mem_extend (filled : [] ∉ groups) : [] ∉ extend rule groups := by
  -- The group that is extended has a rule now, and the others are left alone.
  cases groups with
  | nil => simp [extend]
  | cons group groups =>
    rw [List.mem_cons, not_or] at filled
    simpa [extend] using filled.2

/-- The groups are made of all rules. -/
theorem flatten_groupsFrom (count : Nat) (rules : List StyleRule) :
    (groupsFrom count rules).flatten = rules := by
  -- A rule closes a group of its own, or stands in front of the first group behind it.
  fun_induction groupsFrom count rules with
  | case1 => rfl
  | case2 count rule rules _ ih => rw [List.flatten_cons, ih, List.singleton_append]
  | case3 count rule rules _ ih => rw [flatten_extend, ih]

/-- No group is empty. -/
theorem nil_not_mem_groupsFrom (count : Nat) (rules : List StyleRule) :
    [] ∉ groupsFrom count rules := by
  -- A rule opens a group of its own or extends the next one.
  fun_induction groupsFrom count rules with
  | case1 => exact List.not_mem_nil
  | case2 count rule rules _ ih => simpa using ih
  | case3 count rule rules _ ih => exact nil_not_mem_extend ih

/-- There are no groups only where there are no rules. -/
theorem groupsFrom_eq_nil_iff {count : Nat} : groupsFrom count rules = [] ↔ rules = [] := by
  constructor
  · intro none
    -- The rules are found again in the groups.
    rw [← flatten_groupsFrom count rules, none]
    rfl
  · rintro rfl
    rfl

/-! ### Where a group ends -/

/-- No group ends before the first selector. -/
theorem zero_not_mem_endPlaces (filled : [] ∉ groups) : 0 ∉ endPlaces groups := by
  cases groups with
  | nil => exact List.not_mem_nil
  | cons group groups =>
    rw [List.mem_cons, not_or] at filled
    -- Every group ends behind a selector of its own.
    have some : group.length ≠ 0 := fun none => filled.1 (List.length_eq_zero_iff.mp none).symm
    simp [endPlaces, some, some.symm]

/-- A group of one rule ends behind it, and the others one place later. -/
theorem mem_endPlaces_singleton {i : Nat} :
    i + 1 ∈ endPlaces ([rule] :: groups) ↔ i = 0 ∨ i ∈ endPlaces groups := by
  simp only [endPlaces, List.length_singleton, List.mem_cons, List.mem_map]
  -- The places of the other groups are moved by the one rule in front.
  constructor
  · rintro (first | ⟨place, member, later⟩)
    · exact .inl (by omega)
    · obtain rfl : place = i := by omega
      exact .inr member
  · rintro (rfl | member)
    · exact .inl rfl
    · exact .inr ⟨i, member, Nat.add_comm ..⟩

/-- With one more rule in the first group, all groups end one place later. -/
theorem mem_endPlaces_extend {i : Nat} :
    i + 1 ∈ endPlaces (extend rule groups) ↔ groups = [] ∧ i = 0 ∨ i ∈ endPlaces groups := by
  cases groups with
  | nil => simp [extend, endPlaces]
  -- The first group ends one place later, and so do all others.
  | cons group groups =>
    simp only [extend, endPlaces, List.length_cons, List.mem_cons, List.mem_map, reduceCtorEq,
      false_and, false_or]
    constructor
    · rintro (first | ⟨place, member, later⟩)
      · exact .inl (by omega)
      · exact .inr ⟨place, member, by omega⟩
    · rintro (rfl | ⟨place, member, rfl⟩)
      · exact .inl rfl
      · exact .inr ⟨place, member, by omega⟩

/-- A group ends behind a full number of selectors, an extended one and the last one. -/
theorem mem_endPlaces_groupsFrom (count : Nat) {i : Nat} (found : rules[i]? = some rule) :
    i + 1 ∈ endPlaces (groupsFrom count rules) ↔
      (count + (i + 1)) % groupSize = 0 ∨ rule.isExtended = true ∨ i + 1 = rules.length := by
  -- Each step moves one selector to those that stand before, so places move by one.
  induction rules generalizing count i with
  | nil => simp at found
  | cons first rules ih =>
    have none := zero_not_mem_endPlaces (nil_not_mem_groupsFrom (count + 1) rules)
    have moved (i : Nat) : count + (i + 1 + 1) = count + 1 + (i + 1) := by omega
    rw [groupsFrom]
    split
    · rename_i closes
      rw [mem_endPlaces_singleton]
      cases i with
      | zero =>
        obtain rfl : first = rule := by simpa using found
        exact iff_of_true (.inl rfl) (closes.imp_right .inl)
      | succ i =>
        simp [ih (count + 1) (by simpa using found), moved]
    · rename_i opened
      rw [mem_endPlaces_extend, groupsFrom_eq_nil_iff]
      cases i with
      | zero =>
        obtain rfl : first = rule := by simpa using found
        obtain ⟨short, plain⟩ := not_or.mp opened
        simp [none, short, plain]
      | succ i =>
        simp [ih (count + 1) (by simpa using found), moved]

/-- The groups that are made are those that were asked for. -/
theorem isGrouping_groupsOf (rules : List StyleRule) : IsGrouping rules (groupsOf rules) where
  whole := flatten_groupsFrom 0 rules
  filled := nil_not_mem_groupsFrom 0 rules
  ends i rule found := by rw [groupsOf, mem_endPlaces_groupsFrom 0 found, Nat.zero_add]

/-! ### How long a group is -/

/-- The first group goes no further than to the next full number of selectors, and the others hold
no more than fifty. -/
theorem length_le_of_mem_groupsFrom (count : Nat) (rules : List StyleRule) :
    (∀ group ∈ (groupsFrom count rules).head?, group.length + count % groupSize ≤ groupSize) ∧
      ∀ group ∈ groupsFrom count rules, group.length ≤ groupSize := by
  -- How full the group under way is goes by the number of selectors before it.
  have room (count : Nat) : count % groupSize < groupSize := Nat.mod_lt _ (by decide)
  fun_induction groupsFrom count rules with
  | case1 => simp
  | case2 count rule rules _ ih =>
    have := room count
    simp only [List.head?_cons, Option.mem_some_iff, forall_eq', List.forall_mem_cons,
      List.length_singleton]
    exact ⟨by omega, by omega, ih.2⟩
  | case3 count rule rules opened ih =>
    -- The group that is not closed yet has room for one more.
    have next : (count + 1) % groupSize = count % groupSize + 1 := by
      have := room count
      have : (count + 1) % groupSize ≠ 0 := fun full => opened (.inl full)
      unfold groupSize at *
      omega
    cases groups : groupsFrom (count + 1) rules with
    | nil =>
      have := room count
      simp only [extend, List.head?_cons, Option.mem_some_iff, forall_eq', List.forall_mem_singleton,
        List.length_singleton]
      omega
    | cons group others =>
      rw [groups] at ih
      have first : group.length + (count + 1) % groupSize ≤ groupSize := ih.1 group rfl
      rw [next] at first
      simp only [extend, List.head?_cons, Option.mem_some_iff, forall_eq', List.forall_mem_cons,
        List.length_cons]
      exact ⟨by omega, by omega, (List.forall_mem_cons.mp ih.2).2⟩

/-- Where all selectors are extended, each has a group of its own. -/
theorem groupsFrom_of_isExtended (extended : ∀ rule ∈ rules, rule.isExtended = true) (count : Nat) :
    groupsFrom count rules = rules.map ([·]) := by
  induction rules generalizing count with
  | nil => rfl
  | cons rule rules ih =>
    rw [List.forall_mem_cons] at extended
    -- An extended rule opens a group, whatever was counted.
    rw [groupsFrom, if_pos (.inr extended.1), ih extended.2, List.map_cons]

/-! ### How the groups are written -/

/-- One selector alone is written with what closes its group. -/
theorem toList_groupText_singleton (rule : StyleRule) :
    (groupText [rule]).toList = rule.selector.toList ++ hidden.toList := by
  simp [groupText]

/-- A selector in front of a group is written with a comma behind it. -/
theorem toList_groupText_cons {group : List StyleRule} (filled : group ≠ []) (rule : StyleRule) :
    (groupText (rule :: group)).toList =
      rule.selector.toList ++ [',', ' '] ++ (groupText group).toList := by
  -- A comma stands before the next selector, and there is one.
  cases group with
  | nil => exact absurd rfl filled
  | cons next group => simp [groupText]

/-- All groups as they are written. -/
def sheetText (groups : List (List StyleRule)) : String := String.join (groups.map groupText)

/-- No groups are written as nothing. -/
@[simp] theorem toList_sheetText_nil : (sheetText []).toList = [] := by simp [sheetText]

/-- Groups are written one behind the other. -/
@[simp] theorem toList_sheetText_cons (group : List StyleRule) (groups : List (List StyleRule)) :
    (sheetText (group :: groups)).toList = (groupText group).toList ++ (sheetText groups).toList := by
  simp [sheetText]

/-- A selector in the first group is written with a comma behind it, if others are there. -/
theorem toList_sheetText_extend (filled : [] ∉ groups) (some : groups ≠ []) (rule : StyleRule) :
    (sheetText (extend rule groups)).toList =
      rule.selector.toList ++ [',', ' '] ++ (sheetText groups).toList := by
  cases groups with
  | nil => exact absurd rfl some
  | cons group groups =>
    -- The first group is not empty, so a comma stands behind the new selector.
    have first : group ≠ [] := by
      rintro rfl
      exact filled List.mem_cons_self
    simp [extend, toList_groupText_cons first]

/-- The comma behind the last selector gives way to what closes the group. -/
theorem close_comma (text : List Char) (count : Nat) :
    Hiding.close ⟨text ++ [',', ' '], count⟩ = text ++ hidden.toList := by
  -- The text ends in a comma and a blank, and both are cut off.
  rw [Hiding.close, List.isSuffixOf?_eq_some_iff_append_eq.mpr rfl]

/-- A text in which all groups are closed stays as it is. -/
theorem close_hidden (text : List Char) (count : Nat) :
    Hiding.close ⟨text ++ hidden.toList, count⟩ = text ++ hidden.toList := by
  unfold Hiding.close
  split
  · rename_i opened ends
    rw [List.isSuffixOf?_eq_some_iff_append_eq] at ends
    -- The text ends in a line feed, and no comma with a blank does.
    have last := congrArg List.getLast? ends
    simp [hidden] at last
  · rfl

/-- The sheet for some selectors holds what was there and the groups of these. -/
theorem close_foldl_add (some : rules ≠ []) (before : Hiding) :
    (rules.foldl Hiding.add before).close =
      before.text ++ (sheetText (groupsFrom before.count rules)).toList := by
  -- The induction is on the selectors to come, whatever was written and counted before them.
  induction rules generalizing before with
  | nil => exact absurd rfl some
  | cons rule rules ih =>
    rw [List.foldl_cons, groupsFrom]
    -- The selector closes its group, or leaves it open for the next one.
    by_cases closes : (before.count + 1) % groupSize = 0 ∨ rule.isExtended = true
    · have added : before.add rule =
          ⟨before.text ++ rule.selector.toList ++ hidden.toList, before.count + 1⟩ := by
        simp only [Hiding.add, if_pos closes]
      rw [added, if_pos closes]
      cases rules with
      | nil =>
        rw [List.foldl_nil, close_hidden]
        simp [groupsFrom, toList_groupText_singleton]
      | cons next rules =>
        rw [ih (List.cons_ne_nil next rules)]
        simp [toList_groupText_singleton]
    · have added : before.add rule =
          ⟨before.text ++ rule.selector.toList ++ [',', ' '], before.count + 1⟩ := by
        simp only [Hiding.add, if_neg closes]
      rw [added, if_neg closes]
      cases rules with
      | nil =>
        -- The group is still open behind the last selector.
        rw [List.foldl_nil, close_comma]
        simp [groupsFrom, extend, toList_groupText_singleton]
      | cons next rules =>
        have more : groupsFrom (before.count + 1) (next :: rules) ≠ [] := by
          simp [groupsFrom_eq_nil_iff]
        rw [ih (List.cons_ne_nil next rules), toList_sheetText_extend (nil_not_mem_groupsFrom _ _) more]
        simp

/-- The text of all groups is empty only if there are no selectors. -/
theorem sheetText_groupsOf_ne_nil (some : rules ≠ []) :
    (sheetText (groupsOf rules)).toList ≠ [] := by
  -- Every group ends with the declaration that hides, so one group is enough.
  cases groups : groupsOf rules with
  | nil => exact absurd (groupsFrom_eq_nil_iff.mp groups) some
  | cons group others => simp [groupText, hidden]

/-- The rules with a selector of what is hidden. -/
def hidingRules (rules : List StyleRule) : List StyleRule := rules.filter (!·.isInject)

/-- The rules whose text is put in as it is. -/
def injectedRules (rules : List StyleRule) : List StyleRule := rules.filter (·.isInject)

/-- The text of the selectors is that of their groups, and empty if there are none. -/
theorem close_hiding (rules : List StyleRule) :
    (rules.foldl Hiding.add {}).close = (sheetText (groupsOf rules)).toList := by
  -- Without selectors nothing is written, not even what would close a group.
  by_cases none : rules = []
  · rw [none]
    rfl
  · rw [close_foldl_add none]
    rfl

/--
The style sheets for a list of rules lose none of them.

There is one sheet for all groups of selectors, if any are hidden, and one for what is put in, if
anything is. The groups end where they are full, at an extended selector and at the last one.
-/
theorem build_eq_groups (rules : List StyleRule) :
    build rules =
        (if hidingRules rules = [] then [] else [sheetText (groupsOf (hidingRules rules))]) ++
          (if injectedRules rules = [] then [] else ["\n".intercalate ((injectedRules rules).map (·.selector))]) ∧
      IsGrouping (hidingRules rules) (groupsOf (hidingRules rules)) ∧
      (∀ group ∈ groupsOf (hidingRules rules), group.length ≤ groupSize) ∧
      ((∀ rule ∈ hidingRules rules, rule.isExtended = true) →
        groupsOf (hidingRules rules) = (hidingRules rules).map ([·])) := by
  refine ⟨?_, isGrouping_groupsOf _, (length_le_of_mem_groupsFrom 0 _).2,
    fun extended => groupsFrom_of_isExtended extended 0⟩
  -- What is put in is told apart first, so it does not count among the selectors.
  have parts : rules.partition (·.isInject) = (injectedRules rules, hidingRules rules) := by
    rw [List.partition_eq_filter_filter]
    rfl
  simp only [build, parts, close_hiding, String.ofList_toList, List.isEmpty_iff]
  by_cases none : hidingRules rules = []
  · simp [none, groupsOf, groupsFrom]
  · simp [none, sheetText_groupsOf_ne_nil none]

/-- Extended selectors, the first of which ends like an open group, around a text that is put in. -/
def extendedRules : List StyleRule :=
  [⟨⟨"##p:has(b), ", 1, false⟩, "p:has(b), ", false, true, {}⟩,
    ⟨⟨"#$#p:before", 1, false⟩, "p:before", true, false, {}⟩,
    ⟨⟨"##i:has(b)", 1, false⟩, "i:has(b)", false, true, {}⟩]

/-- Each of two extended selectors has a group of its own. -/
theorem build_eq_groups_extended :
    (∀ rule ∈ hidingRules extendedRules, rule.isExtended = true) ∧
      groupsOf (hidingRules extendedRules) = (hidingRules extendedRules).map ([·]) ∧
      build extendedRules = ["p:has(b), " ++ hidden ++ "i:has(b)" ++ hidden, "p:before"] := by
  have extended : ∀ rule ∈ hidingRules extendedRules, rule.isExtended = true := by decide
  obtain ⟨sheets, _, _, apart⟩ := build_eq_groups extendedRules
  -- The rule with a style of its own stands behind the two groups.
  refine ⟨extended, apart extended, ?_⟩
  rw [sheets, apart extended]
  decide +kernel

end AdFilter.Stylesheet
