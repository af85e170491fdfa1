import AdFilter.Proofs.RuleSet.Verdict

/-!
A request of any type is blocked just if some blocking rule outweighs every exception that it is held
against.
-/

namespace AdFilter

namespace Decision

variable {exceptions documents blockers : List NetworkRule}

/-- Among rules that are not important, one outweighs others if there are none, or if it alone is specific. -/
theorem outweighs_iff {blocker : NetworkRule} (plain : blocker.isImportant = false)
    (unimportant : ∀ rule ∈ exceptions, rule.isImportant = false) :
    (∀ rule ∈ exceptions, rule.rank < blocker.rank) ↔
      exceptions = [] ∨ blocker.isGeneric = false ∧ ∀ rule ∈ exceptions, rule.isGeneric = true := by
  -- Without importance a rule weighs one if it is specific, and else nothing.
  have light := mt (NetworkRule.two_le_rank_iff blocker).mp (by simp [plain])
  constructor
  · intro outweighed
    refine or_iff_not_imp_left.mpr fun filled => ⟨?_, fun rule member => ?_⟩
    · obtain ⟨rule, member⟩ := List.exists_mem_of_ne_nil _ filled
      exact (NetworkRule.rank_pos_iff plain).mp (Nat.zero_lt_of_lt (outweighed rule member))
    · have below := outweighed rule member
      rw [← Bool.not_eq_false, ← NetworkRule.rank_pos_iff (unimportant rule member)]
      omega
  · rintro (rfl | ⟨specific, generic⟩) rule member
    · cases member
    · have heavy := (NetworkRule.rank_pos_iff plain).mpr specific
      have weightless := mt (NetworkRule.rank_pos_iff (unimportant rule member)).mp
        (by simp [generic rule member])
      omega

/-- All exceptions, those for the document and all blocking rules lead to a block just if no exception is
important, none for the document lets requests through, and a blocking rule outweighs every exception. -/
theorem byAll_eq_block_iff :
    byAll exceptions documents blockers = .block ↔
      (∀ rule ∈ exceptions, rule.isImportant = false) ∧
      (∀ rule ∈ documents, rule.options.has .urlBlock = false) ∧
      ∃ blocker ∈ blockers, ∀ rule ∈ exceptions, rule.rank < blocker.rank := by
  unfold byAll
  split
  · -- An important exception lets the request through.
    rename_i important
    obtain ⟨rule, member, important⟩ := List.any_eq_true.mp important
    exact ⟨(by cases ·), fun ⟨unimportant, _⟩ => by
      rw [unimportant rule member] at important
      cases important⟩
  · rename_i unimportant
    replace unimportant : ∀ rule ∈ exceptions, rule.isImportant = false := by simpa using unimportant
    split
    · -- So does an exception for the whole document.
      rename_i allowing
      obtain ⟨rule, member, allowing⟩ := List.any_eq_true.mp allowing
      exact ⟨(by cases ·), fun ⟨_, closed, _⟩ => by
        rw [closed rule member] at allowing
        cases allowing⟩
    · rename_i closed
      replace closed : ∀ rule ∈ documents, rule.options.has .urlBlock = false := by
        simpa using closed
      rw [and_iff_right unimportant, and_iff_right closed]
      split
      · -- An important blocking rule outweighs what is not important.
        rename_i urgent
        obtain ⟨blocker, member, urgent⟩ := List.any_eq_true.mp urgent
        refine ⟨fun _ => ⟨blocker, member, fun rule inside => ?_⟩, fun _ => rfl⟩
        have heavy := (NetworkRule.two_le_rank_iff blocker).mpr urgent
        have light := mt (NetworkRule.two_le_rank_iff rule).mp (by simp [unimportant rule inside])
        omega
      · rename_i plain
        replace plain : ∀ rule ∈ blockers, rule.isImportant = false := by simpa using plain
        -- Nothing is important any more, so what is left of the weights is whether rules are specific.
        have outweighs : (∃ blocker ∈ blockers, ∀ rule ∈ exceptions, rule.rank < blocker.rank) ↔
            ∃ blocker ∈ blockers, exceptions = [] ∨
              blocker.isGeneric = false ∧ ∀ rule ∈ exceptions, rule.isGeneric = true :=
          exists_congr fun blocker => and_congr_right fun member =>
            outweighs_iff (plain blocker member) unimportant
        rw [outweighs]
        cases exceptions with
        | nil => cases blockers <;> simp
        | cons exception exceptions =>
          -- There is an exception, so the blocking rule has to be the only specific one.
          simp only [reduceCtorEq, false_or, ← and_assoc, exists_and_right]
          cases blockers <;> simp

end Decision

/-- A rule about requests stands in a list if it is there, cancels nothing, has a text that nothing cancels
and is not about sources. -/
theorem Rule.mem_standing_iff {rules : List Rule} {rule : NetworkRule} :
    rule ∈ standing rules ↔ .network rule ∈ rules ∧ rule.cancels = none ∧
      rule.info.text ∉ rules.filterMap cancels ∧ rule.isCsp = false := by
  -- Among the rules of all kinds, those about requests are read off one by one.
  have listed : (∃ entry ∈ rules, network? entry = some rule) ↔ .network rule ∈ rules := by
    constructor
    · rintro ⟨entry, member, same⟩
      cases entry <;> cases same
      exact member
    · exact fun member => ⟨_, member, rfl⟩
  simp only [standing, List.mem_filter, List.mem_filterMap (f := network?), listed, Bool.and_eq_true,
    Bool.not_eq_true', Option.isNone_iff_eq_none, List.contains_eq_mem, decide_eq_false_iff_not,
    and_assoc]

namespace Request

variable {request : Request} {rules others : List Rule} {rule : NetworkRule}

/-- The exceptions that count for a request. -/
theorem mem_counting_iff :
    rule ∈ request.counting rules ↔ rule ∈ Rule.standing rules ∧ rule.info.isException = true ∧
      (rule.isDocumentLevel = true → rule.options.has .urlBlock = true) ∧
      rule.answers request.query = true := by
  simp [counting, List.mem_filter, Bool.or_eq_true, ← Bool.not_eq_true, imp_iff_not_or]

/-- The exceptions for the document of a request. -/
theorem mem_documentExceptions_iff :
    rule ∈ request.documentExceptions rules ↔ rule ∈ Rule.standing rules ∧
      rule.info.isException = true ∧ rule.isDocumentLevel = true ∧ request.document.getD "" ≠ "" ∧
      rule.answers (RuleSet.documentQuery (request.document.getD "")) = true := by
  simp [documentExceptions, List.mem_filter, and_assoc]

/-- The blocking rules that count for a request. -/
theorem mem_blockers_iff :
    rule ∈ request.blockers rules ↔ rule ∈ Rule.standing rules ∧ rule.info.isException = false ∧
      rule.answers request.query = true ∧
      (rule.isGeneric = true →
        ∀ exception ∈ request.documentExceptions rules,
          exception.options.has .genericBlock = false) := by
  simp [blockers, List.mem_filter, and_assoc, imp_iff_not_or, or_comm]

/-- Lists in which the same exceptions stand have the same ones for a request. -/
theorem mem_counting_congr
    (same : ∀ rule, rule.info.isException = true →
      (rule ∈ Rule.standing rules ↔ rule ∈ Rule.standing others)) :
    rule ∈ request.counting rules ↔ rule ∈ request.counting others := by
  rw [mem_counting_iff, mem_counting_iff]
  -- Only exceptions are spoken of, and these stand on both sides.
  grind

/-- Lists in which the same exceptions stand hold the same ones against a request. -/
theorem mem_contenders_congr
    (same : ∀ rule, rule.info.isException = true →
      (rule ∈ Rule.standing rules ↔ rule ∈ Rule.standing others)) :
    rule ∈ request.contenders rules ↔ rule ∈ request.contenders others := by
  simp only [contenders, NetworkRule.mem_preferred_iff, mem_counting_congr same]

/-- Lists in which the same exceptions stand have the same ones for a document. -/
theorem mem_documentExceptions_congr
    (same : ∀ rule, rule.info.isException = true →
      (rule ∈ Rule.standing rules ↔ rule ∈ Rule.standing others)) :
    rule ∈ request.documentExceptions rules ↔ rule ∈ request.documentExceptions others := by
  rw [mem_documentExceptions_iff, mem_documentExceptions_iff]
  -- Only exceptions are spoken of, and these stand on both sides.
  grind

end Request

/-- The rules block a request: no exception that it is held against is important, none for its document
lets it through, and a blocking rule outweighs them all. -/
structure Request.IsBlocked (request : Request) (rules : List Rule) : Prop where
  address : request.url ≠ ""
  unimportant : ∀ rule ∈ request.contenders rules, rule.isImportant = false
  closed : ∀ rule ∈ request.documentExceptions rules, rule.options.has .urlBlock = false
  outweighed : ∃ blocker ∈ request.blockers rules,
    ∀ rule ∈ request.contenders rules, rule.rank < blocker.rank

/-- A blocking rule that stands is not for whole documents. -/
theorem Rule.Compiled.not_isDocumentLevel_of_blocking {rules : List Rule} (compiled : Compiled rules)
    {rule : NetworkRule} (stands : rule ∈ standing rules) (blocking : rule.info.isException = false) :
    rule.isDocumentLevel = false := by
  obtain ⟨text, filterId, made⟩ := compiled.of_standing stands
  rw [← Bool.not_eq_true]
  intro level
  -- Options for a whole document are refused on a blocking rule.
  rw [Network.compile_isDocumentLevel made level] at blocking
  cases blocking

namespace RuleSet

variable {rules : List Rule} {request : Request}

/-- The blocking rule that is weighed is the first of the heaviest of all that match, whatever the type of
the request. -/
theorem blocking?_eq_argmax (compiled : Rule.Compiled rules) (address : request.url ≠ "") :
    (ofList rules).blocking? request = (request.blockers rules).argmax NetworkRule.rank := by
  rw [blocking?_eq compiled address, NetworkRule.preferred_eq_self fun rule member => ?_]
  -- Blocking rules are never for whole documents, so none of them is preferred.
  obtain ⟨stands, speaks⟩ := List.mem_filter.mp member
  simp only [Bool.and_eq_true, Bool.not_eq_true'] at speaks
  exact compiled.not_isDocumentLevel_of_blocking stands speaks.1.1

/-- No rule has anything to say about a request without an address. -/
theorem judge_of_empty (set : RuleSet) (nowhere : request.url = "") :
    set.judge request = .unmatched := by
  simp [judge, nowhere]

/-- A request with an address is judged by three of all rules that match: the first of the heaviest
exceptions that it is held against, the first exception for its document that lets requests through, and
the first of the heaviest blocking rules. -/
theorem judge_eq_weigh (compiled : Rule.Compiled rules) (address : request.url ≠ "") :
    (ofList rules).judge request =
      .weigh ((request.contenders rules).argmax NetworkRule.rank)
        ((request.documentExceptions rules).find? (·.options.has .urlBlock))
        ((request.blockers rules).argmax NetworkRule.rank) := by
  have filled : request.url.isEmpty = false := by simpa using address
  -- The request has an address, and each of the three answers is known by now.
  rw [judge, filled, exception?_eq compiled address, blocking?_eq_argmax compiled address,
    requestsAllowed?, documentRules_eq compiled]
  rfl

/-- What becomes of a request with an address is what all rules that it is held against decide. -/
theorem decision_judge (compiled : Rule.Compiled rules) (address : request.url ≠ "") :
    ((ofList rules).judge request).decision =
      .byAll (request.contenders rules) (request.documentExceptions rules)
        (request.blockers rules) := by
  rw [judge_eq_weigh compiled address]
  refine Verdict.decision_weigh (NetworkRule.isBest_argmax _) (NetworkRule.isBest_argmax _) ?_
  -- An exception that lets requests through is found just if there is one.
  rw [Bool.eq_iff_iff, List.find?_isSome, List.any_eq_true]

/-- A request is blocked just if a blocking rule outweighs every exception that it is held against. -/
theorem decision_judge_eq_block_iff (compiled : Rule.Compiled rules) :
    ((ofList rules).judge request).decision = .block ↔ request.IsBlocked rules := by
  by_cases nowhere : request.url = ""
  · -- Without an address nothing is blocked.
    rw [judge_of_empty _ nowhere]
    exact ⟨(by cases ·), fun blocked => absurd nowhere blocked.address⟩
  · rw [decision_judge compiled nowhere, Decision.byAll_eq_block_iff]
    exact ⟨fun ⟨unimportant, closed, outweighed⟩ => ⟨nowhere, unimportant, closed, outweighed⟩,
      fun blocked => ⟨blocked.unimportant, blocked.closed, blocked.outweighed⟩⟩

end RuleSet

end AdFilter
