import AdFilter.Proofs.RuleSet.Decision

/-!
What exceptions for a whole document say about its requests: one option lets all of them through, and
another one leaves generic blocking rules out as if they were not in the list.
-/

namespace AdFilter

namespace Rule

/-- The rule blocks requests of all documents: it names no domain on which it applies. -/
def isBlanket : Rule → Bool
  | network rule =>
    !rule.info.isException && rule.cancels.isNone && !rule.isCsp && rule.isGeneric
  | _ => false

/-- The list without the rules that block requests of all documents. -/
def withoutBlanket (rules : List Rule) : List Rule := rules.filter (!·.isBlanket)

/-- Rules that cancel others are no blanket ones, so the same texts are cancelled without those. -/
theorem filterMap_cancels_withoutBlanket (rules : List Rule) :
    (withoutBlanket rules).filterMap cancels = rules.filterMap cancels := by
  rw [withoutBlanket, List.filterMap_filter]
  -- A rule that cancels another one is no blanket one, so it stays.
  refine List.filterMap_congr fun rule _ => ?_
  cases rule with
  | network rule => cases text : rule.cancels <;> simp [isBlanket, cancels, text]
  | _ => rfl

/-- Without blanket rules, those that stand are the exceptions and the specific ones that stood before. -/
theorem standing_withoutBlanket (rules : List Rule) :
    standing (withoutBlanket rules) =
      (standing rules).filter fun rule => rule.info.isException || !rule.isGeneric := by
  rw [standing, standing, filterMap_cancels_withoutBlanket, withoutBlanket, List.filter_filter,
    List.filter_filterMap, List.filter_filterMap, List.filterMap_filter]
  refine List.filterMap_congr fun rule _ => ?_
  -- A rule that stands cancels nothing and is not about sources, so two of the conditions are void.
  cases rule with
  | network rule => simp only [network?, isBlanket, Option.filter]; grind
  | _ => rfl

/-- Fewer rules were read from lines as well. -/
theorem Compiled.withoutBlanket {rules : List Rule} (compiled : Compiled rules) :
    Compiled (withoutBlanket rules) :=
  compiled.mono List.filter_sublist.subset

/-- A host that can be held against rules can be held against them without the blanket ones as well. -/
theorem DefinedOn.withoutBlanket {rules : List Rule} {host : String} (defined : DefinedOn rules host) :
    DefinedOn (withoutBlanket rules) host :=
  defined.mono List.filter_sublist.subset

end Rule

namespace Request

variable (request : Request) (rules : List Rule)

/-- Blanket rules are no exceptions for a document. -/
theorem documentExceptions_withoutBlanket :
    request.documentExceptions (Rule.withoutBlanket rules) = request.documentExceptions rules := by
  simp only [documentExceptions, Rule.standing_withoutBlanket, List.filter_filter]
  -- An exception is kept in any case.
  refine List.filter_congr fun rule _ => ?_
  cases rule.info.isException <;> simp

/-- Blanket rules are no exceptions that a request is held against. -/
theorem contenders_withoutBlanket :
    request.contenders (Rule.withoutBlanket rules) = request.contenders rules := by
  simp only [contenders, counting, Rule.standing_withoutBlanket, List.filter_filter]
  -- Which of them are preferred goes by these rules alone.
  congr 1
  refine List.filter_congr fun rule _ => ?_
  cases rule.info.isException <;> simp

/-- Where an exception for the document asks for it, blanket rules do not count among the blocking ones. -/
theorem blockers_withoutBlanket
    (specificOnly : ∃ rule ∈ request.documentExceptions rules,
      rule.options.has .genericBlock = true) :
    request.blockers (Rule.withoutBlanket rules) = request.blockers rules := by
  have asked : (request.documentExceptions rules).any (·.options.has .genericBlock) = true :=
    List.any_eq_true.mpr specificOnly
  simp only [blockers, documentExceptions_withoutBlanket, asked, Rule.standing_withoutBlanket,
    List.filter_filter]
  -- A specific rule is kept, and a generic one does not count on either side.
  refine List.filter_congr fun rule _ => ?_
  cases rule.isGeneric <;> simp

end Request

namespace RuleSet

variable {rules : List Rule} {request : Request}

/-- A request of a document whose requests are all let through is allowed. -/
theorem decision_judge_eq_allow (compiled : Rule.Compiled rules) (address : request.url ≠ "")
    (opens : ∃ rule ∈ request.documentExceptions rules, rule.options.has .urlBlock = true) :
    ((ofList rules).judge request).decision = .allow := by
  -- What comes before the document in the order of the decision allows the request as well.
  have opens : (request.documentExceptions rules).any (·.options.has .urlBlock) = true :=
    List.any_eq_true.mpr opens
  rw [decision_judge compiled address, Decision.byAll, if_pos opens, ite_self]

/-- Where the document leaves generic rules out, the verdict is that of the list without them. -/
theorem judge_withoutBlanket (compiled : Rule.Compiled rules) (address : request.url ≠ "")
    (specificOnly : ∃ rule ∈ request.documentExceptions rules,
      rule.options.has .genericBlock = true) :
    (ofList (Rule.withoutBlanket rules)).judge request = (ofList rules).judge request := by
  -- The verdict weighs three kinds of rules, and each of them is the same on both sides.
  rw [judge_eq_weigh compiled address, judge_eq_weigh compiled.withoutBlanket address,
    request.contenders_withoutBlanket, request.documentExceptions_withoutBlanket,
    request.blockers_withoutBlanket rules specificOnly]

end RuleSet

/--
What the exceptions for a document say about blocking is what becomes of each of its requests.

If one of them lets all requests through, any request is allowed, whatever rules would block it. If one
of them switches generic rules off, a request gets the verdict, and the rule, of the list without those.
An answer is given where the host of the document can be held against the domains of the rules; at another
host the program may stop, since blocking rules are held against it even where an exception decides.
-/
theorem answer_of_documentExceptions (rules : List Rule) (compiled : Rule.Compiled rules)
    (cacheSize otherSize : Nat) (earlier others : List Request) (request : Request)
    (address : request.url ≠ "") :
    let engine := (Engine.ofRules rules cacheSize).asked earlier
    let specific := (Engine.ofRules (Rule.withoutBlanket rules) otherSize).asked others
    (Rule.DefinedOn rules request.query.host →
      (engine.tryVerdict request).isSome ∧ (specific.tryVerdict request).isSome) ∧
    ∀ verdict, engine.tryVerdict request = some verdict →
      ((∃ rule ∈ request.documentExceptions rules, rule.options.has .urlBlock = true) →
        verdict.decision = .allow) ∧
      ((∃ rule ∈ request.documentExceptions rules, rule.options.has .genericBlock = true) →
        ∀ other, specific.tryVerdict request = some other → other = verdict) := by
  -- Neither memory matters, so both verdicts are those of the lists.
  have attains := Engine.attains_verdict_asked rules cacheSize earlier request
  have attains' := Engine.attains_verdict_asked (Rule.withoutBlanket rules) otherSize others request
  refine ⟨fun defined => ⟨attains.given defined, attains'.given defined.withoutBlanket⟩,
    fun verdict given => ?_⟩
  obtain rfl := attains.right verdict given
  refine ⟨RuleSet.decision_judge_eq_allow compiled address, fun specificOnly other given' => ?_⟩
  rw [attains'.right other given', RuleSet.judge_withoutBlanket compiled address specificOnly]

/-- The exception that the line `@@example$genericblock` stands for. -/
def exampleSpecificOnly : NetworkRule :=
  { adsEverywhere with
    info := ⟨"@@example$genericblock", 0, true⟩
    regex := .cats ("example".toList.map fun c => .chars (.folded (.only c)))
    source := "example"
    shortcut := some "example"
    permittedTypes := .only .document
    options := .only .genericBlock
    isDocumentLevel := true }

/-- The exception is what its line is compiled to. -/
theorem compile_exampleSpecificOnly :
    Network.compile "@@example$genericblock" 0 = .ok exampleSpecificOnly := rfl

/-- The exception that the line `@@example$document` stands for. -/
def exampleWhole : NetworkRule :=
  { exampleSpecificOnly with
    info := ⟨"@@example$document", 0, true⟩
    options := .wholeDocument }

/-- The exception is what its line is compiled to. -/
theorem compile_exampleWhole : Network.compile "@@example$document" 0 = .ok exampleWhole := rfl

/-- A rule for all sites has nothing to say about a script of a page that is left to specific rules, and
the script of a page that is an exception as a whole is allowed. -/
theorem answer_of_documentExceptions_script :
    let rules := [Rule.network adsEverywhere, .network exampleSpecificOnly]
    let whole := [Rule.network adsEverywhere, .network exampleWhole]
    Rule.Compiled rules ∧ Rule.Compiled whole ∧ scriptForPage.url ≠ "" ∧
      (∃ rule ∈ scriptForPage.documentExceptions rules, rule.options.has .genericBlock = true) ∧
      (∃ rule ∈ scriptForPage.documentExceptions whole, rule.options.has .urlBlock = true) ∧
      ((Engine.ofRules rules 1).asked [scriptForPage]).tryVerdict scriptForPage = some .unmatched ∧
      (((Engine.ofRules whole 1).asked []).tryVerdict scriptForPage).map Verdict.decision =
        some .allow := by
  intro rules whole
  have compiled : Rule.Compiled rules :=
    .cons compile_adsEverywhere (.cons compile_exampleSpecificOnly .nil)
  have again : Rule.Compiled whole := .cons compile_adsEverywhere (.cons compile_exampleWhole .nil)
  have address : scriptForPage.url ≠ "" := by decide
  have page : scriptForPage.document.getD "" = "//example.com/" := rfl
  -- Both exceptions match the page, and neither matches the script.
  have speaks : exampleSpecificOnly.answers (RuleSet.documentQuery "//example.com/") = true := by cbv
  have silent : exampleSpecificOnly.answers scriptForPage.query = false := by cbv
  have wholly : exampleWhole.answers (RuleSet.documentQuery "//example.com/") = true := by cbv
  have specificOnly : ∃ rule ∈ scriptForPage.documentExceptions rules,
      rule.options.has .genericBlock = true := by
    refine ⟨exampleSpecificOnly, Request.mem_documentExceptions_iff.mpr ?_, rfl⟩
    exact ⟨List.mem_of_getElem? (i := 1) rfl, rfl, rfl, by decide, page ▸ speaks⟩
  have opens : ∃ rule ∈ scriptForPage.documentExceptions whole,
      rule.options.has .urlBlock = true := by
    refine ⟨exampleWhole, Request.mem_documentExceptions_iff.mpr ?_, rfl⟩
    exact ⟨List.mem_of_getElem? (i := 1) rfl, rfl, rfl, by decide, page ▸ wholly⟩
  -- None of the rules names a domain.
  have defined : Rule.DefinedOn rules scriptForPage.query.host :=
    Rule.definedOn_of_closed (by decide +kernel) _
  have redefined : Rule.DefinedOn whole scriptForPage.query.host :=
    Rule.definedOn_of_closed (by decide +kernel) _
  obtain ⟨ends, allows⟩ := answer_of_documentExceptions whole again 1 1 [] [] scriptForPage address
  obtain ⟨ends', same⟩ := answer_of_documentExceptions rules compiled 1 1 [scriptForPage] [] scriptForPage
    address
  obtain ⟨allowed, given⟩ := Option.isSome_iff_exists.mp (ends redefined).1
  obtain ⟨verdict, found⟩ := Option.isSome_iff_exists.mp (ends' defined).1
  have given' := (Engine.attains_verdict_asked (Rule.withoutBlanket rules) 1 [] scriptForPage).eq_some
    defined.withoutBlanket
  refine ⟨compiled, again, address, specificOnly, opens, ?_, ?_⟩
  swap
  · rw [given, Option.map_some, (allows allowed given).1 opens]
  rw [found, ← (same verdict found).2 specificOnly _ given']
  -- Without the rule for all sites, the exception alone is left, which is not about the script.
  have standing : Rule.standing (Rule.withoutBlanket rules) = [exampleSpecificOnly] := rfl
  have excepting : exampleSpecificOnly.info.isException = true ∧
      exampleSpecificOnly.isDocumentLevel = true ∧
      exampleSpecificOnly.options.has .urlBlock = false := ⟨rfl, rfl, rfl⟩
  rw [RuleSet.judge_eq_weigh compiled.withoutBlanket address]
  simp [Request.contenders, Request.counting, Request.documentExceptions, Request.blockers, standing,
    excepting, silent, page, speaks, NetworkRule.preferred, Verdict.weigh]

end AdFilter
