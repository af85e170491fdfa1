import AdFilter.Proofs.Index.Defined
import AdFilter.Proofs.Index.Shortcuts

/-! The tables together lose no rule, so a search through them finds what a look at every rule finds. -/

namespace AdFilter

section Repeats

/-- One pass over a sorted row keeps what was passed already and the rest in order, each once. -/
theorem eraseReps_loop_sorted (last : Nat) (rest passed : List Nat)
    (sorted : (last :: rest).Pairwise (· ≤ ·)) (ordered : (last :: passed).Pairwise (· > ·)) :
    (List.eraseRepsBy.loop (· == ·) last rest passed).Pairwise (· < ·) ∧
      ∀ i, i ∈ List.eraseRepsBy.loop (· == ·) last rest passed ↔
        i ∈ passed ∨ i = last ∨ i ∈ rest := by
  -- The pass holds the last number back until a larger one follows, so each one goes out once.
  induction rest generalizing last passed with
  | nil =>
    simp only [List.eraseRepsBy.loop]
    exact ⟨List.pairwise_reverse.mpr ordered, by simp [or_comm]⟩
  | cons next rest ih =>
    obtain ⟨before, later⟩ := List.pairwise_cons.mp sorted
    simp only [List.eraseRepsBy.loop]
    cases same : last == next with
    | true =>
      -- A repeat is dropped, and the number is still held back.
      have equal : last = next := by simpa using same
      subst equal
      have kept := ih last passed later ordered
      exact ⟨kept.1, by grind⟩
    | false =>
      have apart : last ≠ next := by simpa using same
      -- A larger number lets the one held back go out, above all that went before.
      have above : ∀ i ∈ last :: passed, next > i := by
        intro i member
        have reached : i ≤ last := by
          rcases List.mem_cons.mp member with rfl | member
          · exact Nat.le_refl i
          · exact Nat.le_of_lt ((List.pairwise_cons.mp ordered).1 i member)
        have := before next (by simp)
        omega
      have kept := ih next (last :: passed) later (List.pairwise_cons.mpr ⟨above, ordered⟩)
      exact ⟨kept.1, by grind⟩

/-- Dropping repeats from a sorted row leaves it in strict order, with the same members. -/
theorem eraseReps_sorted {row : List Nat} (sorted : row.Pairwise (· ≤ ·)) :
    row.eraseReps.Pairwise (· < ·) ∧ ∀ i, i ∈ row.eraseReps ↔ i ∈ row := by
  cases row with
  | nil => simp [List.eraseReps, List.eraseRepsBy]
  | cons first rest =>
    -- Nothing has been passed when the first number is held back.
    have kept := eraseReps_loop_sorted first rest [] sorted (by simp)
    exact ⟨kept.1, fun i => (kept.2 i).trans (by simp)⟩

end Repeats

namespace RuleIndex

/-- Some table leads to a rule, or it stands among those that no table has taken. -/
def Leads (index : RuleIndex) (rule : NetworkRule) (i : Nat) : Prop :=
  (∃ shortcut, rule.shortcut = some shortcut ∧
    ∃ digest ∈ ShortcutTable.digests shortcut, index.shortcuts.Lists digest i) ∨
  (rule.domains.permitted ≠ [] ∧ ∀ d ∈ rule.domains.permitted,
    DomainTable.isOpenEnded d = false ∧ index.domains.Lists d i) ∨
  i ∈ index.others

/-- One more rule is led to once it has its place, and all that were led to before still are. -/
theorem leads_place (index : RuleIndex) (entry : NetworkRule × Nat) :
    (index.place entry).rules = index.rules ∧ (index.place entry).Leads entry.1 entry.2 ∧
      ∀ rule i, index.Leads rule i → (index.place entry).Leads rule i := by
  obtain ⟨rule, i⟩ := entry
  -- The tables are asked in turn, and only the one that takes the rule changes.
  cases first : index.shortcuts.insert? i rule with
  | some shortcuts =>
    obtain ⟨shortcut, given, key, window, lists⟩ := ShortcutTable.insert?_eq_some first
    simp only [place, first]
    -- The table of shortcuts takes the rule, and lists all that it did.
    refine ⟨trivial, Or.inl ⟨shortcut, given, key, window, (lists ..).mpr (Or.inr ⟨rfl, rfl⟩)⟩, ?_⟩
    rintro other j (⟨text, has, digest, member, listed⟩ | led)
    · exact Or.inl ⟨text, has, digest, member, (lists ..).mpr (Or.inl listed)⟩
    · exact Or.inr led
  | none =>
    cases second : index.domains.insert? i rule with
    | some domains =>
      obtain ⟨named, closed, lists⟩ := DomainTable.insert?_eq_some second
      simp only [place, first, second]
      -- The table of domains takes the rule and lists it under every domain it names.
      refine ⟨trivial, Or.inr (Or.inl ⟨named, fun d member =>
        ⟨closed d member, (lists ..).mpr (Or.inr ⟨rfl, member⟩)⟩⟩), ?_⟩
      rintro other j (led | ⟨others, listed⟩ | led)
      · exact Or.inl led
      · exact Or.inr (Or.inl ⟨others, fun d member =>
          ⟨(listed d member).1, (lists ..).mpr (Or.inl (listed d member).2)⟩⟩)
      · exact Or.inr (Or.inr led)
    | none =>
      simp only [place, first, second]
      -- No table takes the rule, so it joins those that are looked at each time.
      refine ⟨trivial, Or.inr (Or.inr (by simp)), ?_⟩
      rintro other j (led | led | led)
      · exact Or.inl led
      · exact Or.inr (Or.inl led)
      · exact Or.inr (Or.inr (by simp [led]))

/-- Once rules have their places in a row, each of them is led to. -/
theorem leads_foldl_place (entries : List (NetworkRule × Nat)) (index : RuleIndex) :
    (entries.foldl place index).rules = index.rules ∧
      (∀ entry ∈ entries, (entries.foldl place index).Leads entry.1 entry.2) ∧
      ∀ rule i, index.Leads rule i → (entries.foldl place index).Leads rule i := by
  -- Each rule is led to when it has its place, and later ones take nothing away.
  induction entries generalizing index with
  | nil => simp
  | cons entry rest ih =>
    obtain ⟨same, led, kept⟩ := leads_place index entry
    obtain ⟨sameRest, ledRest, keptRest⟩ := ih (index.place entry)
    refine ⟨by rw [List.foldl_cons, sameRest, same], ?_, fun rule i before =>
      keptRest rule i (kept rule i before)⟩
    intro other member
    rcases List.mem_cons.mp member with rfl | member
    · exact keptRest _ _ led
    · exact ledRest other member

/-- An index keeps the rules that it is made from, in their order. -/
@[simp] theorem rules_ofList (rules : List NetworkRule) : (ofList rules).rules = rules.toArray :=
  (leads_foldl_place ..).1

/-- An index leads to every rule that it is made from. -/
theorem leads_ofList {rules : List NetworkRule} {rule : NetworkRule} {i : Nat}
    (found : rules[i]? = some rule) : (ofList rules).Leads rule i :=
  -- The rule was placed under its number, and later rules do not move it.
  (leads_foldl_place rules.zipIdx _).2.1 (rule, i) (List.mem_zipIdx_iff_getElem?.mpr found)

/-- The candidates for an address that is not empty are what the tables yield, once and in order. -/
theorem candidates_spec (index : RuleIndex) {query : Query} (address : query.url ≠ "") :
    (index.candidates query).Pairwise (· < ·) ∧ ∀ i, i ∈ index.candidates query ↔
      i ∈ index.shortcuts.lookup index.rules (String.ofList (Text.lower query.url.toList)) ∨
        i ∈ index.domains.lookup query.host ∨ i ∈ index.others := by
  -- Sorting puts repeats next to each other, and dropping them leaves a strict order.
  have filled : query.url.isEmpty = false := by simpa using address
  simp only [candidates, filled, Bool.false_eq_true, if_false]
  have rising (found : List Nat) : (found.mergeSort (· ≤ ·)).Pairwise (· ≤ ·) := by
    have ordered := @List.pairwise_mergeSort Nat (fun i j => decide (i ≤ j))
      (by simp only [decide_eq_true_eq]; omega)
      (by simp only [Bool.or_eq_true, decide_eq_true_eq]; omega) found
    simpa using ordered
  exact ⟨(eraseReps_sorted (rising _)).1,
    fun i => by rw [(eraseReps_sorted (rising _)).2]; simp⟩

/-- A rule that has something to say about a request to an address is among its candidates. -/
theorem mem_candidates {rules : List NetworkRule} {query : Query} {rule : NetworkRule} {i : Nat}
    (address : query.url ≠ "") (found : rules[i]? = some rule)
    (named : ∀ d ∈ rule.domains.permitted, d ≠ "") (speaks : rule.answers query = true) :
    i ∈ (ofList rules).candidates query := by
  rw [(candidates_spec _ address).2]
  simp only [NetworkRule.answers, NetworkRule.filters, Bool.and_eq_true] at speaks
  obtain ⟨⟨permits, _⟩, ⟨⟨_, shortcutHolds⟩, _⟩, _⟩ := speaks
  -- Whichever table leads to the rule, what the rule asks of the request makes the lookup reach it.
  rcases leads_ofList found with ⟨shortcut, given, digest, window, listed⟩ | ⟨names, listed⟩ | other
  · left
    -- A rule with a shortcut asks for an address that contains it, so its window is there too.
    have inside : Text.contains (Text.lower query.url.toList) shortcut.toList = true := by
      simpa [NetworkRule.hasShortcut, given] using shortcutHolds
    rw [ShortcutTable.mem_lookup_iff]
    exact ⟨⟨digest, ShortcutTable.digests_subset (by simpa using inside) window, listed⟩,
      rule, shortcut, by simpa using found, given, by simpa using inside⟩
  · right; left
    -- A rule for some domains asks for a host within one of them.
    have specific : rule.isGeneric = false := by
      simpa [NetworkRule.isGeneric, Domains.isGeneric] using names
    simp only [NetworkRule.permits, specific, Bool.and_false, Bool.false_and, Bool.false_eq_true,
      if_false, Domains.permits] at permits
    simp only [NetworkRule.isGeneric] at specific
    simp only [specific, Bool.false_or, Bool.if_false_left, Bool.and_eq_true,
      List.any_eq_true] at permits
    obtain ⟨_, _, domain, member, covers⟩ := permits
    rw [Domain.covers_eq_within (listed domain member).1] at covers
    exact DomainTable.mem_lookup_iff.mpr ⟨domain, named domain member, covers, (listed domain member).2⟩
  · exact Or.inr (Or.inr other)

/-- An empty address has no candidates. -/
theorem candidates_of_empty (index : RuleIndex) {query : Query} (nowhere : query.url = "") :
    index.candidates query = [] := by
  simp [candidates, nowhere]

/-- The candidates whose rules meet a condition are the rules that meet it and answer, in order. -/
theorem mem_matching_iff {rules : List NetworkRule} {query : Query} {i : Nat}
    (address : query.url ≠ "") (named : ∀ rule ∈ rules, ∀ d ∈ rule.domains.permitted, d ≠ "")
    (accept : NetworkRule → Bool) :
    i ∈ ((ofList rules).candidates query).filter
        ((ofList rules).holdsAt fun rule => accept rule && rule.answers query) ↔
      ∃ rule, rules[i]? = some rule ∧ accept rule = true ∧ rule.answers query = true := by
  -- A rule that answers is a candidate; the filter takes care of the other direction.
  simp only [List.mem_filter, holdsAt, rules_ofList, List.getElem?_toArray, Option.any_eq_true,
    Bool.and_eq_true]
  constructor
  · -- What passes the filter meets the condition and answers.
    rintro ⟨_, rule, found, accepted, speaks⟩
    exact ⟨rule, found, accepted, speaks⟩
  · rintro ⟨rule, found, accepted, speaks⟩
    -- A rule that answers is among the candidates in the first place.
    have here : rule ∈ rules := List.mem_of_getElem? found
    exact ⟨mem_candidates address found (named rule here) speaks, rule, found, accepted, speaks⟩

/-- What an index holds are the rules that it was made of. -/
theorem isDefinedOn_ofList {rules : List NetworkRule} {host : String} :
    (ofList rules).IsDefinedOn host ↔ ∀ rule ∈ rules, rule.domains.IsDefinedOn host := by
  simp [IsDefinedOn]

/-- What is given as matching are the places of the rules that are accepted and have answered, in order. -/
theorem tryMatching_spec {rules : List NetworkRule} {query : Query} {accept : NetworkRule → Bool}
    {row : List Nat} (address : query.url ≠ "")
    (named : ∀ rule ∈ rules, ∀ d ∈ rule.domains.permitted, d ≠ "")
    (given : (ofList rules).tryMatching query accept = some row) :
    row.Pairwise (· < ·) ∧ ∀ i, i ∈ row ↔
      ∃ rule, rules[i]? = some rule ∧ accept rule = true ∧ rule.tryAnswers query = some true := by
  -- What is found are the candidates that have given the answer themselves.
  rw [eq_filter_of_filterM_eq_some given]
  refine ⟨(candidates_spec _ address).1.sublist List.filter_sublist, fun i => ?_⟩
  simp only [List.mem_filter, rules_ofList, List.getElem?_toArray, beq_iff_eq]
  constructor
  · rintro ⟨_, speaks⟩
    cases found : rules[i]? with
    | none => simp [found] at speaks
    | some rule =>
      -- A rule that is not accepted is passed over.
      cases accepted : accept rule with
      | false => simp [found, accepted] at speaks
      | true => exact ⟨rule, rfl, accepted, by simpa [found, accepted] using speaks⟩
  · rintro ⟨rule, found, accepted, speaks⟩
    -- A rule that answers is among the candidates, as an answer that is given is the right one.
    have answers := (rule.attains_answers query).right true speaks
    have member : rule ∈ rules := List.mem_of_getElem? found
    exact ⟨mem_candidates address found (named rule member) answers.symm,
      by simpa [found, accepted] using speaks⟩

/--
A search through the tables finds each rule that answers the question, once and in order.

A look at the rules one after the other finds the same, so the tables lose and add nothing, whatever the host
of the document. The search comes to an end where the host can be held against the domains of the rules; at
another host the program may stop, at a candidate that asks for a cut inside a character.
-/
theorem findAll_exact (rules : List NetworkRule)
    (named : ∀ rule ∈ rules, ∀ d ∈ rule.domains.permitted, d ≠ "") (query : Query)
    (address : query.url ≠ "") :
    ((∀ rule ∈ rules, rule.domains.IsDefinedOn query.host) →
      ((ofList rules).tryFindAll query).isSome) ∧
    ∀ found, (ofList rules).tryFindAll query = some found →
      found.Pairwise (· < ·) ∧
        ∀ i, i ∈ found ↔ ∃ rule, rules[i]? = some rule ∧ rule.tryAnswers query = some true := by
  refine ⟨fun defined => ((ofList rules).attains_findAll query).given (isDefinedOn_ofList.mpr defined),
    fun found given => ?_⟩
  -- To find all rules is to accept every one that matches.
  obtain ⟨rising, members⟩ := tryMatching_spec address named given
  exact ⟨rising, by simpa using members⟩

/-- The rule that the line `ads$domain=example.com` stands for: its shortcut has no window, so it goes to the
table of domains. -/
def adsOnSite : NetworkRule where
  info := ⟨"ads$domain=example.com", 0, false⟩
  regex := .cats ("ads".toList.map fun c => .chars (.folded (.only c)))
  source := "ads"
  shortcut := some "ads"
  domains := ⟨["example.com"], []⟩
  permittedTypes := .all
  restrictedTypes := .empty
  party := .any
  options := .empty
  isRegexRule := false
  isDocumentLevel := false
  csp := none
  cancels := none

/-- A page of the site asks another one for a script. -/
def scriptOnSite : Query := ⟨"http://ads.net/a.js", "www.example.com", true, .only .script, true⟩

/-- Any host can be held against the one domain of the rule. -/
theorem isDefinedOn_adsOnSite (host : String) : adsOnSite.domains.IsDefinedOn host :=
  Domains.isDefinedOn_of_closed (by decide +kernel) host

/-- A rule for one site is found for a script that a page of the site asks for. -/
theorem findAll_exact_on_site :
    (∀ rule ∈ [adsOnSite], ∀ d ∈ rule.domains.permitted, d ≠ "") ∧ scriptOnSite.url ≠ "" ∧
      ∃ found, (ofList [adsOnSite]).tryFindAll scriptOnSite = some found ∧ 0 ∈ found := by
  have named : ∀ rule ∈ [adsOnSite], ∀ d ∈ rule.domains.permitted, d ≠ "" := by
    simp [adsOnSite]
  have address : scriptOnSite.url ≠ "" := by decide
  have defined : ∀ rule ∈ [adsOnSite], rule.domains.IsDefinedOn scriptOnSite.host := by
    simpa using isDefinedOn_adsOnSite scriptOnSite.host
  -- The answer of this one rule is computed.
  have speaks : adsOnSite.tryAnswers scriptOnSite = some true := by cbv
  obtain ⟨ends, exact_of⟩ := findAll_exact [adsOnSite] named scriptOnSite address
  obtain ⟨found, given⟩ := Option.isSome_iff_exists.mp (ends defined)
  exact ⟨named, address, found, given, ((exact_of found given).2 0).mpr ⟨adsOnSite, rfl, speaks⟩⟩

end RuleIndex

end AdFilter
