import AdFilter.Proofs.RuleSet.Decision

/-!
The order of the rules decides nothing; of two rules that decide alike it may change which one is named.
-/

namespace AdFilter

open NetworkRule (rank rank_eq_iff)

namespace Verdict

variable {exception excepting document allowing blocker blocking : Option NetworkRule}

/-- Rules that weigh the same lead to the same decision, by rules that weigh the same, unless it is left to
two exceptions for the document. -/
theorem weigh_congr (exceptions : exception.map rank = excepting.map rank)
    (documents : document.isSome = allowing.isSome)
    (blockers : blocker.map rank = blocking.map rank) :
    (weigh exception document blocker).decision = (weigh excepting allowing blocking).decision ∧
      ((weigh exception document blocker).rule?.map rank =
          (weigh excepting allowing blocking).rule?.map rank ∨
        ∃ rule other, document = some rule ∧ allowing = some other ∧
          weigh exception document blocker = .allowed rule ∧
          weigh excepting allowing blocking = .allowed other) := by
  -- Each case of the one weighing is the same case of the other.
  cases exception with
  | none =>
    have unexcepted : excepting = none := by simpa using exceptions.symm
    subst unexcepted
    cases document with
    | some rule =>
      -- The document lets the request through, whichever of its exceptions is named.
      obtain ⟨other, rfl⟩ := Option.isSome_iff_exists.mp documents.symm
      exact ⟨rfl, Or.inr ⟨rule, other, rfl, rfl, rfl, rfl⟩⟩
    | none =>
      have undocumented : allowing = none := by simpa using documents.symm
      subst undocumented
      cases blocker with
      | none =>
        have unblocked : blocking = none := by simpa using blockers.symm
        subst unblocked
        exact ⟨rfl, Or.inl rfl⟩
      | some blocker =>
        obtain ⟨blocking, rfl, _⟩ := Option.map_eq_some_iff.mp blockers.symm
        exact ⟨rfl, Or.inl blockers⟩
  | some exception =>
    obtain ⟨excepting, rfl, weight⟩ := Option.map_eq_some_iff.mp exceptions.symm
    obtain ⟨important, generic⟩ := rank_eq_iff.mp weight
    cases urgent : exception.isImportant with
    -- An important exception is named before any other rule.
    | true => simp [weigh, decision, rule?, Option.filter_some, important, urgent, weight]
    | false =>
      cases document with
      | some rule =>
        obtain ⟨other, rfl⟩ := Option.isSome_iff_exists.mp documents.symm
        simp [weigh, decision, Option.filter_some, important, urgent]
      | none =>
        have undocumented : allowing = none := by simpa using documents.symm
        subst undocumented
        cases blocker with
        | none =>
          have unblocked : blocking = none := by simpa using blockers.symm
          subst unblocked
          simp [weigh, decision, rule?, Option.filter_some, important, urgent, weight]
        | some blocker =>
          -- Which of the two wins is told by their weights alone.
          obtain ⟨blocking, rfl, heavy⟩ := Option.map_eq_some_iff.mp blockers.symm
          obtain ⟨pressing, wide⟩ := rank_eq_iff.mp heavy
          cases wins : blocker.isImportant || (!blocker.isGeneric && exception.isGeneric) with
          | true =>
            simp [weigh, decision, rule?, Option.filter_some, important, urgent, generic, pressing,
              wide, wins, heavy]
          | false =>
            simp [weigh, decision, rule?, Option.filter_some, important, urgent, generic, pressing,
              wide, wins, weight]

end Verdict

namespace Rule

variable {rules others : List Rule}

/-- The same rules stand in a list, whatever its order. -/
theorem mem_standing_of_perm (same : rules.Perm others) {rule : NetworkRule} :
    rule ∈ standing rules ↔ rule ∈ standing others := by
  -- Both the rules and the texts that are cancelled are only asked for their members.
  rw [mem_standing_iff, mem_standing_iff, same.mem_iff, (same.filterMap cancels).mem_iff]

end Rule

/-- Lists in which the same rules stand decide alike, by rules that weigh the same, or each by its first
exception for the document that lets all requests through. -/
theorem RuleSet.judge_congr {rules others : List Rule} (compiled : Rule.Compiled rules)
    (again : Rule.Compiled others)
    (same : ∀ rule, rule ∈ Rule.standing rules ↔ rule ∈ Rule.standing others) (request : Request) :
    let verdict := (ofList rules).judge request
    let other := (ofList others).judge request
    verdict.decision = other.decision ∧
      (verdict.rule?.map rank = other.rule?.map rank ∨
        ∃ first second, verdict = .allowed first ∧ other = .allowed second ∧
          (request.documentExceptions rules).find? (·.options.has .urlBlock) = some first ∧
          (request.documentExceptions others).find? (·.options.has .urlBlock) = some second ∧
          ∀ rule ∈ [first, second], rule ∈ request.documentExceptions rules ∧
            rule.options.has .urlBlock = true) := by
  by_cases nowhere : request.url = ""
  · -- Without an address no rule is named at all.
    rw [judge_of_empty _ nowhere, judge_of_empty _ nowhere]
    exact ⟨rfl, Or.inl rfl⟩
  have documents {rule : NetworkRule} : rule ∈ request.documentExceptions rules ↔
      rule ∈ request.documentExceptions others :=
    Request.mem_documentExceptions_congr fun rule _ => same rule
  -- The best rules of two rows with the same members weigh the same.
  have exceptions := (NetworkRule.isBest_argmax (request.contenders rules)).rank_eq
    (NetworkRule.isBest_argmax (request.contenders others))
    fun _ => Request.mem_contenders_congr fun rule _ => same rule
  have blockers := (NetworkRule.isBest_argmax (request.blockers rules)).rank_eq
    (NetworkRule.isBest_argmax (request.blockers others))
    fun _ => by simp only [Request.mem_blockers_iff, same, documents]
  -- An exception for the document is found in both or in neither, but it need not be the same.
  have allowed : ((request.documentExceptions rules).find? (·.options.has .urlBlock)).isSome =
      ((request.documentExceptions others).find? (·.options.has .urlBlock)).isSome := by
    rw [Bool.eq_iff_iff, List.find?_isSome, List.find?_isSome]
    simp only [documents]
  rw [judge_eq_weigh compiled nowhere, judge_eq_weigh again nowhere]
  obtain ⟨decisions, ranks | ⟨first, second, found, refound, named, renamed⟩⟩ :=
    Verdict.weigh_congr exceptions allowed blockers
  · exact ⟨decisions, Or.inl ranks⟩
  · refine ⟨decisions, Or.inr ⟨first, second, named, renamed, found, refound, ?_⟩⟩
    simp only [List.forall_mem_cons]
    exact ⟨⟨List.mem_of_find?_eq_some found, by simpa using List.find?_some found⟩,
      ⟨documents.mpr (List.mem_of_find?_eq_some refound), by simpa using List.find?_some refound⟩,
      by simp⟩

/--
The order of the rules never changes what becomes of a request.

The rules that are named weigh the same, or both are exceptions for the document of the request that let
all its requests through: each list names the first of these in its own order, whatever it weighs.
-/
theorem answer_of_perm (rules others : List Rule) (compiled : Rule.Compiled rules)
    (same : rules.Perm others) (cacheSize otherSize : Nat) (earlier later : List Request)
    (request : Request) :
    let verdict := (((Engine.ofRules rules cacheSize).asked earlier).answer request).1
    let other := (((Engine.ofRules others otherSize).asked later).answer request).1
    verdict.decision = other.decision ∧
      (verdict.rule?.map rank = other.rule?.map rank ∨
        ∃ first second, verdict = .allowed first ∧ other = .allowed second ∧
          (request.documentExceptions rules).find? (·.options.has .urlBlock) = some first ∧
          (request.documentExceptions others).find? (·.options.has .urlBlock) = some second ∧
          ∀ rule ∈ [first, second], rule ∈ request.documentExceptions rules ∧
            rule.options.has .urlBlock = true) := by
  simp only [Engine.answer_asked]
  -- The same rules stand in both lists.
  exact RuleSet.judge_congr compiled (compiled.mono same.symm.subset)
    (fun _ => Rule.mem_standing_of_perm same) request

/-- A script that an exception lets through is let through with the exception in front as well. -/
theorem answer_of_perm_script :
    Rule.Compiled adsRules ∧ adsRules.Perm adsRules.reverse ∧
      (((Engine.ofRules adsRules 1).asked []).answer scriptForPage).1.decision =
        (((Engine.ofRules adsRules.reverse 2).asked [scriptForPage]).answer scriptForPage).1.decision := by
  have compiled : Rule.Compiled adsRules :=
    .cons compile_adsEverywhere (.cons compile_adsExcepted .nil)
  -- The two rules change places.
  have same := (List.reverse_perm adsRules).symm
  exact ⟨compiled, same,
    (answer_of_perm adsRules adsRules.reverse compiled same 1 2 [] [scriptForPage] scriptForPage).1⟩

/-- The exception that the line `@@example$urlblock` stands for. -/
def exampleOpen : NetworkRule :=
  { adsEverywhere with
    info := ⟨"@@example$urlblock", 0, true⟩
    regex := .cats ("example".toList.map fun c => .chars (.folded (.only c)))
    source := "example"
    shortcut := some "example"
    permittedTypes := .only .document
    options := .only .urlBlock
    isDocumentLevel := true }

/-- The exception that the line `@@example$urlblock,important` stands for. -/
def exampleOpenFirst : NetworkRule :=
  { exampleOpen with
    info := ⟨"@@example$urlblock,important", 0, true⟩
    options := .ofList [.urlBlock, .important] }

/-- Of two exceptions for the same document the one that stands first is named, whatever it weighs. -/
theorem order_changes_rank :
    let rules := [Rule.network exampleOpen, .network exampleOpenFirst]
    Rule.Compiled rules ∧ rules.Perm rules.reverse ∧
      (((Engine.ofRules rules 1).asked []).answer scriptForPage).1 = .allowed exampleOpen ∧
      (((Engine.ofRules rules.reverse 1).asked []).answer scriptForPage).1 =
        .allowed exampleOpenFirst ∧
      exampleOpen.rank ≠ exampleOpenFirst.rank := by
  intro rules
  -- Each of the two is read from its line.
  have made : Network.compile "@@example$urlblock" 0 = .ok exampleOpen := rfl
  have read : Network.compile "@@example$urlblock,important" 0 = .ok exampleOpenFirst := rfl
  have compiled : Rule.Compiled rules := .cons made (.cons read .nil)
  have same := (List.reverse_perm rules).symm
  -- Both match the page, and neither matches the script.
  have both : ∀ rule ∈ [exampleOpen, exampleOpenFirst], rule.info.isException = true ∧
      rule.isDocumentLevel = true ∧ rule.options.has .urlBlock = true ∧
      rule.answers scriptForPage.query = false ∧
      rule.answers (RuleSet.documentQuery "//example.com/") = true := by
    simp only [List.forall_mem_cons]
    exact ⟨⟨rfl, rfl, rfl, by cbv, by cbv⟩, ⟨rfl, rfl, rfl, by cbv, by cbv⟩, by simp⟩
  have named {order : List Rule} (compiled : Rule.Compiled order) {first second : NetworkRule}
      (standing : Rule.standing order = [first, second])
      (known : [first, second] ⊆ [exampleOpen, exampleOpenFirst]) :
      (((Engine.ofRules order 1).asked []).answer scriptForPage).1 = .allowed first := by
    obtain ⟨excepting, whole, opens, silent, speaks⟩ := both first (known (by simp))
    obtain ⟨excepting', whole', _, silent', speaks'⟩ := both second (known (by simp))
    have page : scriptForPage.document.getD "" = "//example.com/" := rfl
    have contenders : scriptForPage.contenders order = [] := by
      simp [Request.contenders, Request.counting, standing, silent, silent', NetworkRule.preferred]
    have documents : scriptForPage.documentExceptions order = [first, second] := by
      simp [Request.documentExceptions, standing, page, excepting, excepting', whole, whole', speaks,
        speaks']
    have blockers : scriptForPage.blockers order = [] := by
      simp [Request.blockers, standing, excepting, excepting']
    rw [Engine.answer_asked, RuleSet.judge_eq_weigh compiled (by decide), contenders, documents,
      blockers]
    simp [Verdict.weigh, opens]
  have standing : Rule.standing rules = [exampleOpen, exampleOpenFirst] := rfl
  have reversed : Rule.standing rules.reverse = [exampleOpenFirst, exampleOpen] := rfl
  exact ⟨compiled, same, named compiled standing (by simp),
    named (compiled.mono same.symm.subset) reversed (by simp), by decide⟩

end AdFilter
