import AdFilter.Proofs.Distinct
import AdFilter.Proofs.Index.Order
import AdFilter.Proofs.Network.Compile

/-! The place that an index settles on: the first one with a rule that no other matching rule outweighs. -/

namespace AdFilter

namespace NetworkRule

/-- One rule outweighs another if it alone is important, or if it alone names domains where they are alike
in that. -/
def Outweighs (rule other : NetworkRule) : Prop :=
  rule.isImportant = true ∧ other.isImportant = false ∨
    rule.isImportant = other.isImportant ∧ rule.isGeneric = false ∧ other.isGeneric = true

/-- To outweigh a rule is to have a greater weight. -/
theorem outweighs_iff {rule other : NetworkRule} : rule.Outweighs other ↔ other.rank < rule.rank := by
  unfold Outweighs rank
  -- The weight counts importance before domains, so the cases can be looked through.
  cases rule.isImportant <;> cases other.isImportant <;> cases rule.isGeneric <;>
    cases other.isGeneric <;> simp

end NetworkRule

namespace RuleIndex

section Places

variable (rules : List NetworkRule) (query : Query) (accept : NetworkRule → Bool)

/-- The rule at a place of the list is accepted and has something to say about the request. -/
structure MatchesAt (i : Nat) (rule : NetworkRule) : Prop where
  found : rules[i]? = some rule
  accepted : accept rule = true
  answers : rule.tryAnswers query = some true

/-- The matching rule at a place may be chosen: where a document is asked for by itself, it does not stand
back behind one for whole documents. -/
structure EligibleAt (i : Nat) (rule : NetworkRule) : Prop where
  here : MatchesAt rules query accept i rule
  level : query.types = .only .document →
    (∃ j other, MatchesAt rules query accept j other ∧ other.isDocumentLevel = true) →
    rule.isDocumentLevel = true

/-- The places whose rules may be chosen and are not outweighed by another one that may be. -/
def heaviestPlaces : Set Nat :=
  {i | ∃ rule, EligibleAt rules query accept i rule ∧
    ∀ j other, EligibleAt rules query accept j other → ¬ other.Outweighs rule}

end Places

variable {rules : List NetworkRule} {query : Query} {accept : NetworkRule → Bool}

/-- In a rising row the best place is the lowest of those with the greatest weight. -/
theorem best?_eq_some_iff (index : RuleIndex) {row : List Nat} (rising : row.Pairwise (· < ·)) {i : Nat} :
    index.best? row = some i ↔
      IsLeast {i | i ∈ row ∧ ∀ j ∈ row, index.rankAt j ≤ index.rankAt i} i := by
  -- The best of a row is the first of the greatest weight, and in a rising row the lowest.
  rw [best?_eq_argmax, argmax_eq_find?, find?_eq_some_iff_of_rising rising]
  simp [IsLeast, mem_lowerBounds, and_assoc]

/-- What is given as matching are the places of the matching rules, in order. -/
theorem mem_tryMatching_iff (address : query.url ≠ "")
    (named : ∀ rule ∈ rules, ∀ d ∈ rule.domains.permitted, d ≠ "") {row : List Nat}
    (given : (ofList rules).tryMatching query accept = some row) :
    row.Pairwise (· < ·) ∧ ∀ i, i ∈ row ↔ ∃ rule, MatchesAt rules query accept i rule := by
  obtain ⟨rising, members⟩ := tryMatching_spec address named given
  -- What is asked of a place is what a matching rule is made of.
  refine ⟨rising, fun i => (members i).trans (exists_congr fun rule => ?_)⟩
  exact ⟨fun ⟨found, accepted, answers⟩ => ⟨found, accepted, answers⟩,
    fun here => ⟨here.found, here.accepted, here.answers⟩⟩

/-- The rules of the first pass are the matching ones for whole documents. -/
theorem matchesAt_documents_iff {i : Nat} {rule : NetworkRule} :
    MatchesAt rules query (fun rule => rule.isDocumentLevel && accept rule) i rule ↔
      MatchesAt rules query accept i rule ∧ rule.isDocumentLevel = true := by
  constructor
  · rintro ⟨found, accepted, answers⟩
    -- The first pass accepts what the second one does, if it is for whole documents.
    rw [Bool.and_eq_true] at accepted
    exact ⟨⟨found, accepted.2, answers⟩, accepted.1⟩
  · rintro ⟨⟨found, accepted, answers⟩, level⟩
    exact ⟨found, by rw [level, accepted]; rfl, answers⟩

/-- Where a document is asked for and some matching rule is for whole documents, such rules may be chosen. -/
theorem eligibleAt_iff_of_documents (asked : query.types = .only .document)
    (present : ∃ j other, MatchesAt rules query accept j other ∧ other.isDocumentLevel = true) {i : Nat}
    {rule : NetworkRule} : EligibleAt rules query accept i rule ↔
      MatchesAt rules query accept i rule ∧ rule.isDocumentLevel = true :=
  ⟨fun may => ⟨may.here, may.level asked present⟩, fun ⟨here, level⟩ => ⟨here, fun _ _ => level⟩⟩

/-- Where no matching rule has to stand back, all of them may be chosen. -/
theorem eligibleAt_iff_of_free (free : query.types = .only .document →
      ¬ ∃ j other, MatchesAt rules query accept j other ∧ other.isDocumentLevel = true) {i : Nat}
    {rule : NetworkRule} : EligibleAt rules query accept i rule ↔ MatchesAt rules query accept i rule :=
  ⟨EligibleAt.here, fun here => ⟨here, fun asked present => absurd present (free asked)⟩⟩

/-- The place that is settled on is the best of a row, which has the places of all rules that may be chosen. -/
theorem exists_row_of_tryFindBy (address : query.url ≠ "")
    (named : ∀ rule ∈ rules, ∀ d ∈ rule.domains.permitted, d ≠ "") {chosen : Option Nat}
    (given : (ofList rules).tryFindBy query accept = some chosen) :
    ∃ row, row.Pairwise (· < ·) ∧ (∀ i, i ∈ row ↔ ∃ rule, EligibleAt rules query accept i rule) ∧
      chosen = (ofList rules).best? row := by
  -- The second pass is over all that match, and is made where none has to stand back.
  have all (free : query.types = .only .document →
      ¬ ∃ j other, MatchesAt rules query accept j other ∧ other.isDocumentLevel = true)
      (settled : ((ofList rules).tryMatching query accept).bind
        (fun row => some ((ofList rules).best? row)) = some chosen) :
      ∃ row, row.Pairwise (· < ·) ∧ (∀ i, i ∈ row ↔ ∃ rule, EligibleAt rules query accept i rule) ∧
        chosen = (ofList rules).best? row := by
    obtain ⟨row, matching, best⟩ := Option.bind_eq_some_iff.mp settled
    obtain ⟨rising, members⟩ := mem_tryMatching_iff address named matching
    refine ⟨row, rising, fun i => ?_, (Option.some.inj best).symm⟩
    simp only [members, eligibleAt_iff_of_free free]
  rw [tryFindBy] at given
  split at given
  · rename_i asked
    obtain ⟨documents, matching, rest⟩ := Option.bind_eq_some_iff.mp given
    obtain ⟨rising, members⟩ := mem_tryMatching_iff address named matching
    simp only [matchesAt_documents_iff] at members
    cases best : (ofList rules).best? documents with
    | none =>
      rw [best] at rest
      refine all ?_ rest
      rintro - ⟨j, other, there⟩
      -- The first pass would have found such a rule.
      rw [best?_eq_argmax, List.argmax_eq_none] at best
      have listed := (members j).mpr ⟨other, there⟩
      rw [best] at listed
      cases listed
    | some first =>
      rw [best] at rest
      have listed : first ∈ documents := List.argmax_mem (best?_eq_argmax _ documents ▸ best)
      have present := (members first).mp listed
      refine ⟨documents, rising, fun i => ?_, best ▸ (Option.some.inj rest).symm⟩
      simp only [members, eligibleAt_iff_of_documents asked ⟨first, present⟩]
  · rename_i other
    exact all (fun asked => absurd asked other) given

/-- Where some rule matches, some rule may be chosen. -/
theorem MatchesAt.exists_eligibleAt {i : Nat} {rule : NetworkRule}
    (here : MatchesAt rules query accept i rule) :
    ∃ j other, EligibleAt rules query accept j other := by
  -- Only rules for whole documents can be in the way of others.
  by_cases present : ∃ j other, MatchesAt rules query accept j other ∧ other.isDocumentLevel = true
  · -- A rule for whole documents may always be chosen.
    obtain ⟨j, other, there, level⟩ := present
    exact ⟨j, other, there, fun _ _ => level⟩
  · exact ⟨i, rule, here, fun _ others => absurd others present⟩

/-- The weight at a place is that of the rule there. -/
theorem rankAt_ofList {rule : NetworkRule} {i : Nat} (found : rules[i]? = some rule) :
    (ofList rules).rankAt i = rule.rank := by
  simp [rankAt, found]

/-- The heaviest places are those of the greatest weight among the places from which one is chosen. -/
theorem heaviestPlaces_eq {row : List Nat}
    (members : ∀ i, i ∈ row ↔ ∃ rule, EligibleAt rules query accept i rule) :
    {i | i ∈ row ∧ ∀ j ∈ row, (ofList rules).rankAt j ≤ (ofList rules).rankAt i} =
      heaviestPlaces rules query accept := by
  ext i
  -- What outweighs a rule has a greater weight, so both sides compare weights.
  simp only [Set.mem_ofPred_eq, heaviestPlaces, members, NetworkRule.outweighs_iff, Nat.not_lt]
  constructor
  · rintro ⟨⟨rule, here⟩, above⟩
    refine ⟨rule, here, fun j other there => ?_⟩
    rw [← rankAt_ofList there.here.found, ← rankAt_ofList here.here.found]
    exact above j ⟨other, there⟩
  · rintro ⟨rule, here, above⟩
    refine ⟨⟨rule, here⟩, ?_⟩
    rintro j ⟨other, there⟩
    rw [rankAt_ofList there.here.found, rankAt_ofList here.here.found]
    exact above j other there

/--
An index settles on the first of the heaviest rules that match.

It settles on nothing just if no rule of the list is accepted and answers. Otherwise it is the lowest place
whose rule may be chosen and is outweighed by none that may be, where a document that is asked for by itself
leaves the choice to rules for whole documents, if any of them matches. It comes to an end where the host of
the document can be held against the domains of the rules; at another host the program may stop instead.
-/
theorem findBy?_isLeast (rules : List NetworkRule)
    (compiled : ∀ rule ∈ rules, ∃ text filterId, Network.compile text filterId = .ok rule)
    (query : Query) (address : query.url ≠ "") (accept : NetworkRule → Bool) :
    ((∀ rule ∈ rules, rule.domains.IsDefinedOn query.host) →
      ((ofList rules).tryFindBy query accept).isSome) ∧
    ∀ chosen, (ofList rules).tryFindBy query accept = some chosen →
      (chosen = none ↔ ∀ i rule, ¬ MatchesAt rules query accept i rule) ∧
        ∀ i, chosen = some i ↔ IsLeast (heaviestPlaces rules query accept) i := by
  have named : ∀ rule ∈ rules, ∀ d ∈ rule.domains.permitted, d ≠ "" := by
    intro rule member
    obtain ⟨_, _, made⟩ := compiled rule member
    exact Network.compile_named made
  refine ⟨fun defined => ((ofList rules).attains_findBy query accept).given
    (isDefinedOn_ofList.mpr defined), fun chosen given => ?_⟩
  obtain ⟨row, rising, members, rfl⟩ := exists_row_of_tryFindBy address named given
  constructor
  · -- There is a best place just if there is any to choose from.
    rw [best?_eq_argmax, List.argmax_eq_none, List.eq_nil_iff_forall_not_mem]
    constructor
    · intro none i rule here
      -- A matching rule would leave some place to choose from.
      obtain ⟨j, other, there⟩ := here.exists_eligibleAt
      exact none j ((members j).mpr ⟨other, there⟩)
    · intro none i member
      obtain ⟨rule, here⟩ := (members i).mp member
      exact none i rule here.here
  · intro i
    rw [best?_eq_some_iff _ rising, heaviestPlaces_eq members]

/-- The rule that the line `ads` stands for. -/
def adsAnywhere : NetworkRule :=
  { adsOnSite with
    info := ⟨"ads", 0, false⟩
    domains := {} }

/-- The rule that the line `ads$important` stands for. -/
def adsImportant : NetworkRule :=
  { adsAnywhere with
    info := ⟨"ads$important", 0, false⟩
    options := .only .important }

/-- Of three rules for a script the second is the first important one, and is settled on. -/
theorem findBy?_isLeast_important :
    let rules := [adsAnywhere, adsImportant, adsImportant]
    (∀ rule ∈ rules, ∃ text filterId, Network.compile text filterId = .ok rule) ∧
      scriptOnSite.url ≠ "" ∧ (ofList rules).tryFindBy scriptOnSite (fun _ => true) = some (some 1) := by
  intro rules
  have compiled : ∀ rule ∈ rules, ∃ text filterId, Network.compile text filterId = .ok rule := by
    simp only [rules, List.mem_cons, List.not_mem_nil, or_false, or_self]
    rintro rule (rfl | rfl)
    · exact ⟨"ads", 0, rfl⟩
    · exact ⟨"ads$important", 0, rfl⟩
  have address : scriptOnSite.url ≠ "" := by decide
  -- None of the rules names a domain.
  have defined : ∀ rule ∈ rules, rule.domains.IsDefinedOn scriptOnSite.host := by
    simp [rules, adsImportant, adsAnywhere, Domains.IsDefinedOn]
  obtain ⟨ends, right⟩ := findBy?_isLeast rules compiled scriptOnSite address fun _ => true
  obtain ⟨chosen, given⟩ := Option.isSome_iff_exists.mp (ends defined)
  refine ⟨compiled, address, given.trans (congrArg some (((right chosen given).2 1).mpr ?_))⟩
  have here : EligibleAt rules scriptOnSite (fun _ => true) 1 adsImportant :=
    ⟨⟨rfl, rfl, by cbv⟩, fun asked => absurd asked (by decide)⟩
  have heavier : adsImportant.Outweighs adsAnywhere := .inl ⟨rfl, rfl⟩
  constructor
  · refine ⟨adsImportant, here, fun j other there => ?_⟩
    -- The other two rules are the same one and one that is not important.
    have member := List.mem_of_getElem? there.here.found
    rw [NetworkRule.outweighs_iff] at heavier ⊢
    simp only [rules, List.mem_cons, List.not_mem_nil, or_false, or_self] at member
    rcases member with rfl | rfl <;> omega
  · rintro (_ | i) ⟨rule, there, unsurpassed⟩
    · obtain rfl : adsAnywhere = rule := Option.some.inj there.here.found
      exact absurd heavier (unsurpassed 1 adsImportant here)
    · exact Nat.succ_le_succ (Nat.zero_le i)

end RuleIndex

end AdFilter
