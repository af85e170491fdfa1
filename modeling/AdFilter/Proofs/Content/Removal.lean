import AdFilter.Proofs.Distinct
import AdFilter.Proofs.Markup.Elements
import AdFilter.RuleSet.Page

/-!
Which elements some rules remove from a page, on account of which others, and in which order they are found.
-/

namespace AdFilter

namespace ContentRule

variable {rule : ContentRule} {page : Page} {x e : Element}

/-- The rule names the element as one to remove instead of those in it. -/
def Names (rule : ContentRule) (e : Element) : Prop :=
  String.ofList (Text.lowerAscii e.name.toList) ∈ rule.parentElements

/-- The element stands above another one, within reach of the rule, and is the nearest there that it names. -/
def IsNearestNamed (rule : ContentRule) (x e : Element) : Prop :=
  ∃ level, 1 ≤ level ∧ level ≤ rule.parentSearchLevel ∧ x.above? level = some e ∧ rule.Names e ∧
    ∀ lower other, 1 ≤ lower → lower < level → x.above? lower = some other → ¬ rule.Names other

/-- The rule removes an element on account of one that is selected for it: it accepts this one, and the
other is the same, or the nearest around it that the rule names. -/
structure Removes (rule : ContentRule) (x e : Element) : Prop where
  accepted : rule.accepts x = true
  target : rule.parentElements = [] ∧ e = x ∨ rule.IsNearestNamed x e

/-- What is found in place of an element is the nearest one within reach that the rule names. -/
theorem parentOf?_eq_some_iff : rule.parentOf? x = some e ↔ rule.IsNearestNamed x e := by
  rw [parentOf?, List.find?_eq_some_iff_getElem]
  -- The element at a place among those around stands one level higher.
  have level (i : Nat) (inside : i < (x.ancestors.take rule.parentSearchLevel).length) :
      x.above? (i + 1) = some (x.ancestors.take rule.parentSearchLevel)[i] := by
    rw [← Element.getElem?_ancestors, List.getElem_take]
    exact List.getElem?_eq_getElem _
  simp only [List.contains_eq_mem, decide_eq_true_eq, Bool.not_eq_true', decide_eq_false_iff_not]
  constructor
  · rintro ⟨named, i, inside, here, new⟩
    have reach : i < rule.parentSearchLevel := by
      rw [List.length_take] at inside
      omega
    refine ⟨i + 1, by omega, by omega, here ▸ level i inside, named, fun lower other above below there => ?_⟩
    -- What stands lower was looked at before.
    obtain ⟨j, rfl⟩ := Nat.exists_eq_add_of_le' above
    have found := new j (by omega)
    rw [level j (by omega), Option.some.injEq] at there
    rwa [there] at found
  · rintro ⟨above, positive, reach, there, named, nearest⟩
    obtain ⟨i, rfl⟩ := Nat.exists_eq_add_of_le' positive
    have inside : i < (x.ancestors.take rule.parentSearchLevel).length := by
      rw [← Element.getElem?_ancestors] at there
      obtain ⟨short, _⟩ := List.getElem?_eq_some_iff.mp there
      rw [List.length_take]
      omega
    rw [level i inside, Option.some.injEq] at there
    refine ⟨named, i, inside, there, fun j earlier => ?_⟩
    exact nearest (j + 1) _ (by omega) (by omega) (level j (by omega))

/-- What a rule removes on account of an element is that element, or the nearest one that it names. -/
theorem target?_eq_some_iff : rule.target? x = some e ↔
    rule.parentElements = [] ∧ e = x ∨ rule.IsNearestNamed x e := by
  rw [target?]
  by_cases plain : rule.parentElements = []
  · -- A rule that names no elements finds none above.
    have none : ¬ rule.IsNearestNamed x e := by
      rintro ⟨_, _, _, _, named, _⟩
      rw [Names, plain] at named
      cases named
    simp [plain, none, eq_comm]
  · simp [plain, parentOf?_eq_some_iff]

/-- What a rule removes on account of an element of a page is an element of that page. -/
theorem Removes.mem_elements (removes : rule.Removes x e) (inside : x ∈ page.elements) :
    e ∈ page.elements := by
  -- What is removed is the element itself, or one of those above it on the same page.
  rcases removes.target with ⟨_, rfl⟩ | ⟨level, positive, _, above, _⟩
  · exact inside
  · obtain ⟨i, rfl⟩ := Nat.exists_eq_add_of_le' positive
    rw [← Element.getElem?_ancestors] at above
    exact Page.mem_elements_of_mem_ancestors inside (List.mem_of_getElem? above)

end ContentRule

/-- Why an element is removed: the place of the rule in the list, and that of the element selected for it. -/
structure Account where
  rule : Nat
  selected : Nat

/-- An account comes before those of later rules, and before those of the same rule for what is selected
later. -/
def Account.Earlier (a b : Account) : Prop :=
  a.rule < b.rule ∨ a.rule = b.rule ∧ a.selected < b.selected

section Removals

variable (select : Selector → List Element) (rules : List ContentRule)

/-- The element is removed on the account: it is what the rule there removes for the element selected
there. -/
def Accounts (account : Account) (e : Element) : Prop :=
  ∃ rule x, rules[account.rule]? = some rule ∧ (select rule.selector)[account.selected]? = some x ∧
    rule.Removes x e

/-- The account is the first one on which the element is removed. -/
def FirstAccounts (account : Account) (e : Element) : Prop :=
  Accounts select rules account e ∧
    ∀ other, Accounts select rules other e → other = account ∨ account.Earlier other

/-- What one rule removes, with the accounts. -/
def removalsOf (rule : ContentRule) (i : Nat) : List (Element × Account) :=
  ((select rule.selector).zipIdx.filter fun entry => rule.accepts entry.1).filterMap fun entry =>
    (rule.target? entry.1).map (·, ⟨i, entry.2⟩)

/-- What rules remove, with the accounts, as often as there are any. -/
def removals : List (Element × Account) :=
  rules.zipIdx.flatMap fun entry => removalsOf select entry.1 entry.2

/-- Without the accounts, these are the elements that the rules remove. -/
theorem map_fst_removals :
    (removals select rules).map (·.1) =
      rules.flatMap fun rule => rule.removedFrom (select rule.selector) := by
  -- The accounts are put on at the end, so they go again before anything else is done.
  have single (rule : ContentRule) (i : Nat) :
      (removalsOf select rule i).map (·.1) = rule.removedFrom (select rule.selector) := by
    conv_rhs => rw [ContentRule.removedFrom, ← List.zipIdx_map_fst 0 (select rule.selector)]
    rw [removalsOf, List.map_filterMap, List.filter_map, List.filterMap_map]
    simp [Function.comp_def]
  simp only [removals, List.map_flatMap, single]
  conv_rhs => rw [← List.zipIdx_map_fst 0 rules, List.flatMap_map]

/-- What one rule removes has accounts of that rule. -/
theorem mem_removalsOf_iff {rule : ContentRule} {i : Nat} {account : Account} {e : Element} :
    (e, account) ∈ removalsOf select rule i ↔ account.rule = i ∧
      ∃ x, (select rule.selector)[account.selected]? = some x ∧ rule.Removes x e := by
  simp only [removalsOf, List.mem_filterMap, List.mem_filter, Option.map_eq_some_iff, Prod.mk.injEq,
    ContentRule.target?_eq_some_iff, Prod.exists, List.mem_zipIdx_iff_getElem?]
  -- The place among the selected elements is the second number of the account.
  constructor
  · rintro ⟨x, place, ⟨there, accepted⟩, _, target, rfl, rfl⟩
    exact ⟨rfl, x, there, accepted, target⟩
  · rintro ⟨rfl, x, there, accepted, target⟩
    exact ⟨x, account.selected, ⟨there, accepted⟩, e, target, rfl, rfl⟩

/-- Elements are removed on just these accounts. -/
theorem mem_removals_iff {account : Account} {e : Element} :
    (e, account) ∈ removals select rules ↔ Accounts select rules account e := by
  simp only [removals, List.mem_flatMap, Prod.exists, List.mem_zipIdx_iff_getElem?, mem_removalsOf_iff,
    Accounts]
  -- The place of the rule is the first number of the account.
  constructor
  · rintro ⟨rule, i, here, rfl, x, there, removes⟩
    exact ⟨rule, x, here, there, removes⟩
  · rintro ⟨rule, x, here, there, removes⟩
    exact ⟨rule, _, here, rfl, x, there, removes⟩

/-- The accounts come in the order of the rules, and for each rule in that of what is selected for it. -/
theorem removals_pairwise : (removals select rules).Pairwise fun a b => a.2.Earlier b.2 := by
  rw [removals, List.pairwise_flatMap]
  constructor
  · rintro ⟨rule, i⟩ _
    -- Each element that is selected has one account at most.
    refine ((zipIdx_pairwise (select rule.selector)).filter _).filterMap _
      fun x y below a first b second => ?_
    -- Both accounts are of this rule.
    obtain ⟨_, _, rfl⟩ := Option.map_eq_some_iff.mp first
    obtain ⟨_, _, rfl⟩ := Option.map_eq_some_iff.mp second
    exact Or.inr ⟨rfl, below⟩
  · -- Accounts of different rules are in the order of the rules.
    refine (zipIdx_pairwise rules).imp fun below a first b second => ?_
    obtain ⟨here, _⟩ := (mem_removalsOf_iff select).mp first
    obtain ⟨there, _⟩ := (mem_removalsOf_iff select).mp second
    exact Or.inl (here ▸ there ▸ below)

/-- What is removed is what the first accounts say. -/
theorem removedFrom_eq :
    removedFrom select rules =
      (distinctBy (·.1.path) (removals select rules)).map (·.1) := by
  -- The accounts say which elements are removed, and in which order.
  rw [removedFrom, ← map_fst_removals, distinctBy_map]

variable {select rules} {page : Page} {e : Element}

/-- What stays for an element is the first account on which it is removed. -/
theorem firstAccounts_of_mem {removal : Element × Account}
    (stays : removal ∈ distinctBy (·.1.path) (removals select rules)) :
    FirstAccounts select rules removal.2 removal.1 := by
  obtain ⟨e, account⟩ := removal
  have member : (e, account) ∈ removals select rules := (distinctBy_sublist ..).subset stays
  refine ⟨(mem_removals_iff ..).mp member, fun other also => ?_⟩
  -- Of all accounts for an element, the one that stays was found first.
  rcases eq_or_of_mem_distinctBy (removals_pairwise select rules) stays
      ((mem_removals_iff ..).mpr also) rfl with same | earlier
  · exact Or.inl (congrArg Prod.snd same)
  · exact Or.inr earlier

/-- The elements that are removed are those for which there is an account. -/
theorem mem_removedFrom_iff (inside : ∀ rule ∈ rules, select rule.selector ⊆ page.elements) :
    e ∈ removedFrom select rules ↔ ∃ account, Accounts select rules account e := by
  -- What is removed on some account is an element of the page.
  have listed {account : Account} {e : Element} (accounts : Accounts select rules account e) :
      e ∈ page.elements := by
    obtain ⟨rule, x, here, there, removes⟩ := accounts
    exact removes.mem_elements (inside rule (List.mem_of_getElem? here) (List.mem_of_getElem? there))
  constructor
  · intro member
    rw [removedFrom_eq] at member
    obtain ⟨⟨_, account⟩, stays, rfl⟩ := List.mem_map.mp member
    exact ⟨account, (firstAccounts_of_mem stays).1⟩
  · rintro ⟨account, accounts⟩
    have member : (e, account) ∈ removals select rules := (mem_removals_iff ..).mpr accounts
    -- Some element at the same place stays, and that is the element itself.
    have known : e.path ∈ (distinctBy (·.1.path) (removals select rules)).map (·.1.path) :=
      mem_map_distinctBy_iff.mpr (List.mem_map.mpr ⟨_, member, rfl⟩)
    obtain ⟨⟨other, reason⟩, stays, same⟩ := List.mem_map.mp known
    obtain rfl : other = e :=
      Page.eq_of_path_eq (listed (firstAccounts_of_mem stays).1) (listed accounts) same
    rw [removedFrom_eq]
    exact List.mem_map.mpr ⟨_, stays, rfl⟩

/-- An account comes before those of later rules, and before those of the same rule for elements that come
later in the page. -/
def Account.PrecedesIn (select : Selector → List Element) (rules : List ContentRule) (a b : Account) :
    Prop :=
  a.rule < b.rule ∨ a.rule = b.rule ∧ ∃ rule x y, rules[a.rule]? = some rule ∧
    (select rule.selector)[a.selected]? = some x ∧ (select rule.selector)[b.selected]? = some y ∧
      x.Precedes y

/-- Where elements are selected in the order of the page, earlier accounts are for earlier elements. -/
theorem Account.Earlier.precedesIn {a b : Account} (earlier : a.Earlier b)
    (ordered : ∀ rule ∈ rules, (select rule.selector).Pairwise Element.Precedes) {e other : Element}
    (first : Accounts select rules a e) (second : Accounts select rules b other) :
    a.PrecedesIn select rules b := by
  refine earlier.imp_right fun ⟨same, below⟩ => ⟨same, ?_⟩
  obtain ⟨rule, x, here, selected, _⟩ := first
  obtain ⟨_, y, there, reselected, _⟩ := second
  -- Accounts of one rule speak of the same rule, in whose row of elements one comes before the other.
  obtain rfl := Option.some.inj (here.symm.trans (same ▸ there))
  refine ⟨rule, x, y, here, selected, reselected, ?_⟩
  obtain ⟨short, rfl⟩ := List.getElem?_eq_some_iff.mp selected
  obtain ⟨long, rfl⟩ := List.getElem?_eq_some_iff.mp reselected
  exact List.pairwise_iff_getElem.mp (ordered rule (List.mem_of_getElem? here)) _ _ short long below

end Removals

/--
Rules remove from a page the elements that are selected for them and that they accept, or the nearest ones
around these that they name, each element once.

What stands above an element within reach of a rule is looked at level by level. The elements come in the
order of the first accounts on which they are removed: by the rules, and for each rule in the order in which
elements are selected for it. Any engine may select them; where it keeps to the order of the page, so does
what is removed by one rule.
-/
theorem removedFrom_exact (page : Page) (select : Selector → List Element) (rules : List ContentRule)
    (inside : ∀ rule ∈ rules, select rule.selector ⊆ page.elements) :
    let removed := removedFrom select rules
    (removed.map Element.path).Nodup ∧
      (∀ e, e ∈ removed ↔ ∃ rule ∈ rules, ∃ x ∈ select rule.selector, rule.Removes x e) ∧
      ∃ accounts : List Account, accounts.Pairwise Account.Earlier ∧
        List.Forall₂ (FirstAccounts select rules) accounts removed ∧
        ((∀ rule ∈ rules, (select rule.selector).Pairwise Element.Precedes) →
          accounts.Pairwise (Account.PrecedesIn select rules)) := by
  intro removed
  let whole := distinctBy (·.1.path) (removals select rules)
  have earlier : (whole.map (·.2)).Pairwise Account.Earlier := by
    rw [List.pairwise_map]
    exact (removals_pairwise select rules).sublist (distinctBy_sublist ..)
  refine ⟨nodup_map_distinctBy .., fun e => ?_, whole.map (·.2), earlier, ?_, fun ordered => ?_⟩
  · rw [mem_removedFrom_iff inside]
    constructor
    · rintro ⟨account, rule, x, here, there, removes⟩
      exact ⟨rule, List.mem_of_getElem? here, x, List.mem_of_getElem? there, removes⟩
    · rintro ⟨rule, member, x, selected, removes⟩
      obtain ⟨i, here⟩ := List.mem_iff_getElem?.mp member
      obtain ⟨j, there⟩ := List.mem_iff_getElem?.mp selected
      exact ⟨⟨i, j⟩, rule, x, here, there, removes⟩
  · rw [show removed = _ from removedFrom_eq select rules, List.forall₂_map_left_iff,
      List.forall₂_map_right_iff, List.forall₂_same]
    exact fun removal stays => firstAccounts_of_mem stays
  · refine earlier.imp_of_mem fun first second before => ?_
    -- Each of the accounts is one of what stays.
    obtain ⟨removal, stays, rfl⟩ := List.mem_map.mp first
    obtain ⟨other, remains, rfl⟩ := List.mem_map.mp second
    exact before.precedesIn ordered (firstAccounts_of_mem stays).1 (firstAccounts_of_mem remains).1

/-- The rule that the line `example.org$$p` stands for. -/
def paragraphRule : ContentRule where
  info := ⟨"example.org$$p", 1, false⟩
  tagName := "p"
  selector := [.compound [.tag "p"]]
  selectorText := "p"
  elementsFilter := "p"
  tagContent := none
  wildcard := none
  minLength := 0
  maxLength := ContentRule.defaultMaxLength
  parentElements := []
  parentSearchLevel := ContentRule.defaultParentSearchLevel
  domains := ⟨["example.org"], []⟩

/-- A page of two paragraphs. -/
def twoParagraphs : Page := ⟨[.element ⟨"p", [], .html⟩ [], .element ⟨"p", [], .html⟩ []], true⟩

/-- An engine that selects from behind has the last paragraph removed first, and each of the two once. -/
theorem removedFrom_exact_paragraphs :
    let select (selector : Selector) := (twoParagraphs.select selector).reverse
    (∀ rule ∈ [paragraphRule, paragraphRule], select rule.selector ⊆ twoParagraphs.elements) ∧
      (removedFrom select [paragraphRule, paragraphRule]).map Element.path = [[1], [0]] ∧
      ∃ accounts : List Account, accounts.Pairwise Account.Earlier ∧
        List.Forall₂ (FirstAccounts select [paragraphRule, paragraphRule]) accounts
          (removedFrom select [paragraphRule, paragraphRule]) := by
  intro select
  -- Turned around, the row still has elements of the page only.
  have inside : ∀ rule ∈ [paragraphRule, paragraphRule],
      select rule.selector ⊆ twoParagraphs.elements :=
    fun rule _ e member => List.mem_of_mem_filter (List.mem_reverse.mp member)
  obtain ⟨_, _, accounts, earlier, first, _⟩ := removedFrom_exact twoParagraphs select _ inside
  exact ⟨inside, by cbv, accounts, earlier, first⟩

end AdFilter
