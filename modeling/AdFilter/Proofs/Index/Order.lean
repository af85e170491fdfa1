import AdFilter.Proofs.Index.Rules
import Mathlib

/-! What the tables yield for a question is what the list of rules yields, in the order of the list. -/

namespace AdFilter

namespace NetworkRule

/-- The rules that a choice is made from: where a document is asked for by itself, those for whole
documents, if there are any, and else all. -/
def preferred (query : Query) (peers : List NetworkRule) : List NetworkRule :=
  if query.types = .only .document ∧ peers.any (·.isDocumentLevel) then
    peers.filter (·.isDocumentLevel)
  else peers

variable {query : Query} {peers : List NetworkRule}

/-- A rule is chosen from unless it has to stand back behind one for whole documents. -/
theorem mem_preferred_iff {rule : NetworkRule} :
    rule ∈ preferred query peers ↔ rule ∈ peers ∧
      (query.types = .only .document → (∃ other ∈ peers, other.isDocumentLevel = true) →
        rule.isDocumentLevel = true) := by
  unfold preferred
  split
  · -- A document is asked for, and some rule is for whole documents.
    rename_i asked
    simp only [List.any_eq_true] at asked
    simp [List.mem_filter, asked]
  · rename_i other
    simp only [List.any_eq_true, not_and] at other
    exact ⟨fun member => ⟨member, fun asked first => absurd first (other asked)⟩, And.left⟩

/-- Where no rule is for whole documents, all are chosen from. -/
theorem preferred_eq_self (parts : ∀ rule ∈ peers, rule.isDocumentLevel = false) :
    preferred query peers = peers := by
  have none : peers.any (·.isDocumentLevel) = false := by simpa using parts
  -- There is nothing to be preferred.
  simp [preferred, none]

/-- Where no document is asked for by itself, all are chosen from. -/
theorem preferred_eq_of_ne (part : query.types ≠ .only .document) :
    preferred query peers = peers := by
  simp [preferred, part]

end NetworkRule

namespace RuleIndex

/-- A rising row of the indices of all rules that meet a condition stands for these rules in order. -/
theorem filterMap_getElem?_eq_filter {rules : List NetworkRule} {condition : NetworkRule → Bool}
    {row : List Nat} (rising : row.Pairwise (· < ·))
    (members : ∀ i, i ∈ row ↔ ∃ rule, rules[i]? = some rule ∧ condition rule = true) :
    row.filterMap (rules[·]?) = rules.filter condition := by
  -- Rules that are numbered from zero on and then sifted have the numbers of the row.
  let sifted := rules.zipIdx.filter fun entry => condition entry.1
  have numbered : row = sifted.map (·.2) := by
    have counting : (sifted.map (·.2)).Pairwise (· < ·) := by
      refine List.Pairwise.sublist (List.filter_sublist.map _) ?_
      simpa using List.pairwise_lt_range' 1
    refine List.Perm.eq_of_pairwise
      (fun i j _ _ (below : i < j) (above : j < i) => ?_) rising counting ?_
    · omega
    · refine (List.perm_ext_iff_of_nodup (rising.imp Nat.ne_of_lt)
        (counting.imp Nat.ne_of_lt)).mpr fun i => ?_
      simp only [members, sifted, List.mem_map, List.mem_filter, List.mem_zipIdx_iff_getElem?,
        Prod.exists, exists_eq_right]
  calc row.filterMap (rules[·]?)
      = sifted.filterMap fun entry => rules[entry.2]? := by
        rw [numbered, List.filterMap_map]
        rfl
    _ = sifted.filterMap fun entry => some entry.1 := by
        -- Each rule stands in the list at its number.
        refine List.filterMap_congr fun entry inside => ?_
        exact List.mem_zipIdx_iff_getElem?.mp (List.mem_of_mem_filter inside)
    _ = (rules.zipIdx.map (·.1)).filter condition := by
        rw [List.filterMap_eq_map', List.filter_map]
        rfl
    _ = rules.filter condition := by rw [List.zipIdx_map_fst]

/-- The candidates that meet a condition and answer stand for all rules that do, in order. -/
theorem filterMap_matching {rules : List NetworkRule}
    (named : ∀ rule ∈ rules, ∀ d ∈ rule.domains.permitted, d ≠ "") {query : Query}
    (address : query.url ≠ "") (accept : NetworkRule → Bool) :
    (((ofList rules).candidates query).filter
        ((ofList rules).holdsAt fun rule => accept rule && rule.answers query)).filterMap
        (rules[·]?) =
      rules.filter fun rule => accept rule && rule.answers query := by
  -- The candidates stand in rising order, so the places that match give the rules in the order of the list.
  have rising := (candidates_spec (ofList rules) address).1
  refine filterMap_getElem?_eq_filter (rising.sublist List.filter_sublist) fun i => ?_
  simp only [mem_matching_iff address named accept, Bool.and_eq_true]

/-- All rules that answer are found, in the order of the list. -/
theorem rulesFor_eq_filter {rules : List NetworkRule}
    (named : ∀ rule ∈ rules, ∀ d ∈ rule.domains.permitted, d ≠ "") {query : Query}
    (address : query.url ≠ "") :
    (ofList rules).rulesFor query = rules.filter (·.answers query) := by
  -- To accept every rule leaves the question of whether it answers.
  have matching := filterMap_matching named address fun _ => true
  simpa [rulesFor, findAll] using matching

/-- No rule is found for an empty address. -/
theorem rulesFor_of_empty (index : RuleIndex) {query : Query} (nowhere : query.url = "") :
    index.rulesFor query = [] := by
  simp [rulesFor, findAll, candidates_of_empty index nowhere]

/-- The weight of the rule at an index. -/
def rankAt (index : RuleIndex) (i : Nat) : Nat := ((index.rules[i]?).map NetworkRule.rank).getD 0

/-- The best index of a row is the first one with the greatest weight. -/
theorem best?_eq_argmax (index : RuleIndex) (row : List Nat) :
    index.best? row = row.argmax index.rankAt := by
  show row.foldl _ none = row.foldl _ none
  -- Both go through the row, and keep the earlier of two equal ones.
  congr 1
  funext best i
  cases best <;> rfl

/-- The best index of a row stands for the first of the heaviest rules in it. -/
theorem best?_bind (index : RuleIndex) (row : List Nat)
    (inside : ∀ i ∈ row, i < index.rules.size) :
    (index.best? row).bind (index.rules[·]?) =
      (row.filterMap (index.rules[·]?)).argmax NetworkRule.rank := by
  rw [best?_eq_argmax]
  -- The last index is compared with the choice among those before it, and so is its rule.
  induction row using List.reverseRecOn with
  | nil => rfl
  | append_singleton before i ih =>
    obtain ⟨rule, found⟩ : ∃ rule, index.rules[i]? = some rule :=
      ⟨_, Array.getElem?_eq_getElem (inside i (by simp))⟩
    have choice := ih fun j member => inside j (by simp [member])
    rw [List.argmax_concat, List.filterMap_append, List.filterMap_cons_some found,
      List.filterMap_nil, List.argmax_concat, ← choice]
    cases chosen : before.argmax index.rankAt with
    | none => simpa using found
    | some j =>
      obtain ⟨other, there⟩ : ∃ other, index.rules[j]? = some other :=
        ⟨_, Array.getElem?_eq_getElem (inside j (by simp [List.argmax_mem chosen]))⟩
      simp only [rankAt, found, there, Option.map_some, Option.getD_some, Option.bind_some]
      split <;> simp [found, there]

/-- The indices of a row whose rules meet a condition stand for just these rules. -/
theorem filterMap_filter_holdsAt (index : RuleIndex) (row : List Nat)
    (condition : NetworkRule → Bool) :
    (row.filter (index.holdsAt condition)).filterMap (index.rules[·]?) =
      (row.filterMap (index.rules[·]?)).filter condition := by
  rw [List.filter_filterMap, List.filterMap_filter]
  refine List.filterMap_congr fun i _ => ?_
  -- The condition is asked of the rule at the place, and a place without one gives nothing.
  unfold holdsAt
  cases index.rules[i]? <;> simp [Option.filter]

/-- The rule that is settled on is the first of the heaviest that are chosen from. -/
theorem ruleBy?_eq_argmax {rules : List NetworkRule}
    (named : ∀ rule ∈ rules, ∀ d ∈ rule.domains.permitted, d ≠ "") {query : Query}
    (address : query.url ≠ "") (accept : NetworkRule → Bool) :
    (ofList rules).ruleBy? query accept =
      (NetworkRule.preferred query
        (rules.filter fun rule => accept rule && rule.answers query)).argmax NetworkRule.rank := by
  have matching (i : Nat) := mem_matching_iff (i := i) address named accept
  have stands := filterMap_matching named address accept
  simp only [ruleBy?, findBy?]
  generalize ((ofList rules).candidates query).filter
    ((ofList rules).holdsAt fun rule => accept rule && rule.answers query) = row at matching stands ⊢
  generalize rules.filter (fun rule => accept rule && rule.answers query) = peers at stands ⊢
  replace stands : row.filterMap ((ofList rules).rules[·]?) = peers := by simpa using stands
  have inside : ∀ i ∈ row, i < (ofList rules).rules.size := by
    intro i member
    obtain ⟨rule, found, _⟩ := (matching i).mp member
    simpa using (List.getElem?_eq_some_iff.mp found).1
  have all := best?_bind (ofList rules) row inside
  rw [stands] at all
  by_cases asked : query.types = .only .document
  · -- The rules for whole documents are looked at first.
    have documents := filterMap_filter_holdsAt (ofList rules) row (·.isDocumentLevel)
    rw [stands] at documents
    have first := best?_bind (ofList rules)
      (row.filter ((ofList rules).holdsAt (·.isDocumentLevel)))
      fun i member => inside i (List.mem_of_mem_filter member)
    rw [documents] at first
    simp only [if_pos asked]
    cases chosen : (ofList rules).best? (row.filter ((ofList rules).holdsAt (·.isDocumentLevel))) with
    | none =>
      -- None of them matches, and all other rules are chosen from.
      rw [chosen, Option.bind_none, eq_comm, List.argmax_eq_none, List.filter_eq_nil_iff] at first
      rw [NetworkRule.preferred_eq_self fun rule member => by simpa using first rule member]
      simpa using all
    | some i =>
      -- The index that is chosen has a rule for whole documents, so these are chosen from.
      have member := List.argmax_mem (best?_eq_argmax (ofList rules) _ ▸ chosen)
      obtain ⟨rule, found⟩ : ∃ rule, (ofList rules).rules[i]? = some rule :=
        ⟨_, Array.getElem?_eq_getElem (inside i (List.mem_of_mem_filter member))⟩
      rw [chosen, Option.bind_some, found] at first
      have top := List.mem_filter.mp (List.argmax_mem first.symm)
      have present : peers.any (·.isDocumentLevel) = true := List.any_eq_true.mpr ⟨rule, top⟩
      rw [NetworkRule.preferred, if_pos ⟨asked, present⟩]
      exact found.trans first
  · simpa [NetworkRule.preferred, asked] using all

end RuleIndex

end AdFilter
