import AdFilter.Proofs.Distinct
import AdFilter.Proofs.FilterList.Parser
import AdFilter.Proofs.RuleSet.Decision

/-! Rules that do nothing may be dropped from lists: the answers to requests stay. -/

namespace AdFilter

namespace Rule

variable {rules : List Rule}

/-- Rules about requests that were read are accepted ones. -/
theorem Parsed.compiled (parsed : Parsed rules) : Compiled rules := by
  -- A rule of a list was read from a line of it, and the line is compiled to that rule alone.
  intro rule member
  obtain ⟨raw, filterId, made⟩ := parsed _ member
  exact ⟨_, filterId, (FilterList.parseLine_info raw filterId _ made _ rfl).2 rule rfl⟩

/-- What survives among all rules is what is not cancelled among those about requests. -/
theorem filterMap_survives (rules : List Rule) :
    (rules.filter (survives (cancelledTexts rules))).filterMap network? = uncancelled rules := by
  -- The two filters ask the same, one before and one after the rules about requests are picked out.
  rw [uncancelled, List.filterMap_filter, List.filter_filterMap]
  refine List.filterMap_congr fun rule _ => ?_
  cases rule <;> simp [survives, network?, cancelledTexts, cancels, info, Option.filter]

/-- What survives among all rules is what is left once repeated rules are dropped. -/
theorem Parsed.thinned_optimize (parsed : Parsed rules) :
    -- What was read with one text and one number is one rule, so no rule goes but for a repeat of it.
    Thinned [] (rules.filter (survives (cancelledTexts rules))) (optimize rules).1 :=
  .distinctBy (parsed.injOn_key.mono fun _ member => List.mem_of_mem_filter member)

/-- A rule that is left is one of the rules, and survives. -/
theorem Parsed.survives_of_mem_optimize (parsed : Parsed rules) {rule : Rule}
    (left : rule ∈ (optimize rules).1) : rule ∈ rules ∧ survives (cancelledTexts rules) rule = true := by
  have kept := parsed.thinned_optimize.mem_iff.mpr (Or.inr left)
  simpa [List.mem_filter] using kept

/-- Of rules that are left none cancels another, so none is cancelled. -/
theorem Parsed.uncancelled_optimize (parsed : Parsed rules) :
    uncancelled (optimize rules).1 = (optimize rules).1.filterMap network? := by
  -- A rule that cancels another does not survive.
  have plain : ∀ rule ∈ (optimize rules).1, rule.cancels = none := by
    intro rule left
    obtain ⟨_, stays⟩ := parsed.survives_of_mem_optimize left
    exact Option.isNone_iff_eq_none.mp (Bool.and_eq_true_iff.mp stays).1
  rw [uncancelled, List.filterMap_eq_nil_iff.mpr plain, List.filter_eq_self]
  intro rule member
  obtain ⟨entry, inside, same⟩ := List.mem_filterMap.mp member
  cases entry <;> cases same
  simpa using show rule.cancels = none from plain _ inside

/-- Rules that were read lose only what is cancelled and what stands twice. -/
theorem Parsed.thinned_uncancelled (parsed : Parsed rules) :
    Thinned [] (uncancelled rules) (uncancelled (optimize rules).1) := by
  -- What is not cancelled is what survives, and both are read off the same list.
  rw [parsed.uncancelled_optimize, ← filterMap_survives]
  exact parsed.thinned_optimize.filterMap network?

/-- The domains that rules name are named if the rules are not cancelled. -/
theorem Compiled.named_of_uncancelled (compiled : Compiled rules) {rule : NetworkRule}
    (kept : rule ∈ uncancelled rules) : rule.domains.Named := by
  -- An entry about requests that is left is one of the list, which was read from a line.
  obtain ⟨entry, inside, same⟩ := List.mem_filterMap.mp (List.mem_of_mem_filter kept)
  cases entry <;> cases same
  obtain ⟨text, filterId, made⟩ := compiled _ inside
  exact Network.compile_named made

end Rule

namespace Thinned

variable {whole thin : List NetworkRule}

/-- Rules that a choice is made from may be thinned before the choice. -/
theorem preferred (thinned : Thinned [] whole thin) (query : Query) :
    Thinned [] (NetworkRule.preferred query whole) (NetworkRule.preferred query thin) := by
  -- Rules for whole documents are left just if there were some.
  unfold NetworkRule.preferred
  rw [thinned.any_eq]
  split
  · exact thinned.filter _
  · exact thinned

end Thinned

namespace RuleSet

variable {rules others : List Rule}

/-- Lists whose rules are the same but for those that stand twice judge a request alike. -/
theorem judge_eq_of_thinned (compiled : Rule.Compiled rules) (again : Rule.Compiled others)
    (thinned : Thinned [] (Rule.uncancelled rules) (Rule.uncancelled others)) (request : Request) :
    (ofList rules).judge request = (ofList others).judge request := by
  -- Without an address nothing is judged.
  by_cases nowhere : request.url = ""
  · rw [judge_of_empty _ nowhere, judge_of_empty _ nowhere]
  -- Each row that is weighed is filtered from the rules that stand, and is thinned as they are.
  have standing : Thinned [] (Rule.standing rules) (Rule.standing others) := by
    rw [Rule.standing_eq, Rule.standing_eq]
    exact thinned.filter _
  have documents : Thinned [] (request.documentExceptions rules)
    (request.documentExceptions others) := standing.filter _
  have contenders : Thinned [] (request.contenders rules) (request.contenders others) :=
    (standing.filter _).preferred request.query
  have blockers : Thinned [] (request.blockers rules) (request.blockers others) := by
    unfold Request.blockers
    rw [documents.any_eq]
    exact standing.filter _
  -- The first of the heaviest is the same rule in a thinned row, and so is the first of a kind.
  rw [judge_eq_weigh compiled nowhere, judge_eq_weigh again nowhere, contenders.argmax_eq,
    documents.find?_eq, blockers.argmax_eq]

/-- The rules that some of those not cancelled yield for a question are thinned like the rules. -/
theorem thinned_rulesFor (compiled : Rule.Compiled rules) (again : Rule.Compiled others)
    (thinned : Thinned [] (Rule.uncancelled rules) (Rule.uncancelled others))
    (pick : NetworkRule → Bool) (query : Query) :
    Thinned [] ((RuleIndex.ofList ((Rule.uncancelled rules).filter pick)).rulesFor query)
      ((RuleIndex.ofList ((Rule.uncancelled others).filter pick)).rulesFor query) := by
  -- An empty address leads to no rule of either list.
  by_cases nowhere : query.url = ""
  · rw [RuleIndex.rulesFor_of_empty _ nowhere, RuleIndex.rulesFor_of_empty _ nowhere]
    exact .nil
  · have named {list : List Rule} (compiled : Rule.Compiled list) :
        ∀ rule ∈ (Rule.uncancelled list).filter pick, ∀ d ∈ rule.domains.permitted, d ≠ "" :=
      fun rule member => compiled.named_of_uncancelled (List.mem_of_mem_filter member)
    rw [RuleIndex.rulesFor_eq_filter (named compiled) nowhere,
      RuleIndex.rulesFor_eq_filter (named again) nowhere]
    exact (thinned.filter pick).filter _

/-- Lists whose rules are the same but for those that stand twice have the same directives. -/
theorem cspRules_eq_of_thinned (compiled : Rule.Compiled rules) (again : Rule.Compiled others)
    (thinned : Thinned [] (Rule.uncancelled rules) (Rule.uncancelled others)) (request : Request) :
    (ofList rules).cspRules request = (ofList others).cspRules request := by
  -- The exceptions decide which directives stay, and of each directive the first rule is kept.
  have sources := thinned_rulesFor compiled again thinned
  simp only [cspRules, ofList_picks, (sources _ _).any_eq]
  split
  · rfl
  · exact ((sources _ _).filter _).distinctBy_eq _

end RuleSet

/-- An engine for lists has the rules that are read from them, or what is left of these once rules that do
nothing are dropped. -/
theorem Engine.exists_of_ofLists (lists : List (Nat × String)) :
    ∃ rules, Rule.Parsed rules ∧ ∀ cacheSize,
      (Engine.ofLists lists cacheSize true).1 = Engine.ofRules (Rule.optimize rules).1 cacheSize ∧
      (Engine.ofLists lists cacheSize false).1 = Engine.ofRules rules cacheSize :=
  ⟨_, FilterList.join_parsed lists, fun _ => ⟨rfl, rfl⟩⟩

/--
To drop rules that do nothing changes no answer to a request.

Whatever was asked before, an engine for lists whose cancelled and repeated rules are dropped decides as
one for the lists as they are, by the same rule, and finds the same rules about sources.
-/
theorem ofLists_optimize (lists : List (Nat × String)) (cacheSize otherSize : Nat)
    (earlier later : List Request) (request : Request) :
    let optimized := (Engine.ofLists lists cacheSize true).1.asked earlier
    let whole := (Engine.ofLists lists otherSize false).1.asked later
    (optimized.answer request).1 = (whole.answer request).1 ∧
      optimized.rules.cspRules request = whole.rules.cspRules request := by
  obtain ⟨rules, parsed, engines⟩ := Engine.exists_of_ofLists lists
  have compiled := parsed.compiled
  have again := compiled.mono fun rule left => (parsed.survives_of_mem_optimize left).1
  -- Whatever was asked, the rules alone decide, and those that are left are the same, once each.
  simp only [engines, Engine.answer_asked, Engine.rules_asked]
  exact ⟨(RuleSet.judge_eq_of_thinned compiled again parsed.thinned_uncancelled request).symm,
    (RuleSet.cspRules_eq_of_thinned compiled again parsed.thinned_uncancelled request).symm⟩

end AdFilter
