import AdFilter.Proofs.Index.Best
import AdFilter.Proofs.Network.Compile
import AdFilter.Proofs.RuleSet.Defined

/-! One exception against one blocking rule decides a request as all the matching rules together do. -/

namespace AdFilter

/-- The rules about requests that neither cancel others nor are cancelled. -/
def Rule.uncancelled (rules : List Rule) : List NetworkRule :=
  (rules.filterMap network?).filter fun rule =>
    rule.cancels.isNone && !(rules.filterMap cancels).contains rule.info.text

/-- The rules about requests that neither cancel others nor are cancelled, those for sources left out. -/
def Rule.standing (rules : List Rule) : List NetworkRule :=
  (rules.filterMap network?).filter fun rule =>
    rule.cancels.isNone && !(rules.filterMap cancels).contains rule.info.text && !rule.isCsp

/-- The rules that stand are those that are not cancelled, those for sources left out. -/
theorem Rule.standing_eq (rules : List Rule) :
    standing rules = (uncancelled rules).filter (!·.isCsp) := by
  simp [standing, uncancelled, List.filter_filter, Bool.and_comm]

namespace Request

variable (request : Request) (rules : List Rule)

/-- All exceptions that match the request. -/
def exceptions : List NetworkRule :=
  (Rule.standing rules).filter fun rule => rule.info.isException && rule.answers request.query

/-- The exceptions that match the request and may let it through: one for whole documents does so only
if it lets all requests through. -/
def counting : List NetworkRule :=
  (Rule.standing rules).filter fun rule =>
    rule.info.isException && ((!rule.isDocumentLevel || rule.options.has .urlBlock) &&
      rule.answers request.query)

/-- The exceptions from which the one that is weighed is chosen. -/
def contenders : List NetworkRule := NetworkRule.preferred request.query (request.counting rules)

/-- All exceptions for the whole document of the request, in the order of the list; an empty address is no
document. -/
def documentExceptions : List NetworkRule :=
  let document := request.document.getD ""
  (Rule.standing rules).filter fun rule =>
    rule.info.isException && rule.isDocumentLevel && document != "" &&
      rule.answers (RuleSet.documentQuery document)

/-- All blocking rules that match the request, without generic ones where the document says so. -/
def blockers : List NetworkRule :=
  let specificOnly := (request.documentExceptions rules).any (·.options.has .genericBlock)
  (Rule.standing rules).filter fun rule =>
    !rule.info.isException && rule.answers request.query && !(specificOnly && rule.isGeneric)

end Request

/-- The decision on a request by all exceptions for it, all for its document and all blocking rules. -/
def Decision.byAll (exceptions documents blockers : List NetworkRule) : Decision :=
  if exceptions.any (·.isImportant) then .allow
  else if documents.any (·.options.has .urlBlock) then .allow
  else if blockers.any (·.isImportant) then .block
  else if !exceptions.isEmpty && !blockers.isEmpty then
    if blockers.any (!·.isGeneric) && exceptions.all (·.isGeneric) then .block else .allow
  else if !exceptions.isEmpty then .allow
  else if !blockers.isEmpty then .block
  else .none

namespace Verdict

variable {exceptions documents blockers : List NetworkRule}
  {exception document blocker : Option NetworkRule}

/-- The best exception and the best blocking rule decide as all of them do. -/
theorem decision_weigh (bestException : NetworkRule.IsBest exceptions exception)
    (bestBlocker : NetworkRule.IsBest blockers blocker)
    (documented : document.isSome = documents.any (·.options.has .urlBlock)) :
    (weigh exception document blocker).decision = .byAll exceptions documents blockers := by
  -- Each case of the weighing is compared with the whole rows, in the order of the decision.
  simp only [Decision.byAll, ← documented]
  cases exception with
  | none =>
    -- Where nothing is chosen there is nothing to choose from.
    have unexcepted : exceptions = [] := bestException
    subst unexcepted
    cases document with
    | some document => simp [weigh, decision]
    | none =>
      cases blocker with
      | none =>
        have free : blockers = [] := bestBlocker
        simp [weigh, decision, free]
      | some blocker =>
        have filled : blockers ≠ [] := List.ne_nil_of_mem bestBlocker.1
        simp [weigh, decision, filled]
  | some exception =>
    -- With an exception, its importance is that of all together.
    have excepted : exceptions ≠ [] := List.ne_nil_of_mem bestException.1
    rw [← bestException.isImportant_eq]
    cases important : exception.isImportant with
    -- An important exception settles the matter.
    | true => simp [weigh, decision, Option.filter_some, important]
    | false =>
      cases document with
      -- The document lets all its requests through.
      | some document => simp [weigh, decision, Option.filter_some, important]
      | none =>
        cases blocker with
        | none =>
          have free : blockers = [] := bestBlocker
          simp [weigh, decision, Option.filter_some, important, free, excepted]
        | some blocker =>
          have filled : blockers ≠ [] := List.ne_nil_of_mem bestBlocker.1
          rw [← bestBlocker.isImportant_eq]
          cases urgent : blocker.isImportant with
          -- An important blocking rule outweighs an exception that is not.
          | true => simp [weigh, decision, Option.filter_some, important, urgent]
          | false =>
            -- Neither is important, so what is left of the weights is whether domains are named.
            have specific : blockers.any (!·.isGeneric) = !blocker.isGeneric := by
              rw [bestBlocker.isGeneric_eq (bestBlocker.isImportant_eq ▸ urgent),
                List.not_all_eq_any_not]
            rw [specific,
              ← bestException.isGeneric_eq (bestException.isImportant_eq ▸ important)]
            cases broad : blocker.isGeneric <;> cases wide : exception.isGeneric <;>
              simp [weigh, decision, Option.filter_some, important, urgent, excepted, filled, broad,
                wide]

/-- The rule of a verdict is one of those that were weighed. -/
theorem rule_weigh (rule : NetworkRule) :
    (weigh exception document blocker = .blocked rule → blocker = some rule) ∧
      (weigh exception document blocker = .allowed rule →
        exception = some rule ∨ document = some rule) := by
  unfold weigh
  split
  · -- The rule comes from an important exception or from the document.
    rename_i found
    simp only [Option.orElse_eq_orElse, Option.orElse_eq_or, Option.or_eq_some_iff,
      Option.filter_eq_some_iff] at found
    grind
  all_goals grind

end Verdict

namespace RuleSet

/-- What is not cancelled stands in four indices, by whether it is for sources and whether it excepts. -/
theorem ofList_picks (rules : List Rule) :
    let pick (isCsp isException : Bool) : RuleIndex :=
      .ofList <| (Rule.uncancelled rules).filter fun rule =>
        rule.isCsp == isCsp && rule.info.isException == isException
    (ofList rules).blocking = pick false false ∧ (ofList rules).exceptions = pick false true ∧
      (ofList rules).csp = pick true false ∧ (ofList rules).cspExceptions = pick true true := by
  -- The rules are split by kind after the others are left out, which may be done in either order.
  simp only [ofList, Rule.uncancelled, Rule.cancelledTexts, List.partition_eq_filter_filter,
    List.filter_filter, Std.HashSet.contains_ofList]
  refine ⟨?_, ?_, ?_, ?_⟩ <;>
  · congr 2
    funext rule
    simp only [Function.comp_apply, Bool.and_comm rule.cancels.isNone]

/-- Exceptions stand in one index, blocking rules in another. -/
theorem ofList_indices (rules : List Rule) :
    (ofList rules).exceptions = .ofList ((Rule.standing rules).filter (·.info.isException)) ∧
      (ofList rules).blocking = .ofList ((Rule.standing rules).filter (!·.info.isException)) := by
  obtain ⟨blocking, exceptions, _, _⟩ := ofList_picks rules
  -- Rules with directives have tables of their own.
  simp [blocking, exceptions, Rule.standing_eq, List.filter_filter, Bool.and_comm]

/-- Options that are joined are those of any of the rules. -/
theorem has_foldl_union (peers : List NetworkRule) (start : OptionSet) (option : RuleOption) :
    (peers.foldl (fun options rule => options.union rule.options) start).has option =
      (start.has option || peers.any (·.options.has option)) := by
  -- The options that were collected so far are the start of what follows.
  induction peers generalizing start with
  | nil => simp
  | cons rule peers ih => simp [ih, Bool.or_assoc]

end RuleSet

/-- Every rule about requests was read from some line. -/
def Rule.Compiled (rules : List Rule) : Prop :=
  ∀ rule, .network rule ∈ rules → ∃ text filterId, Network.compile text filterId = .ok rule

/-- No rule at all had to be read. -/
theorem Rule.Compiled.nil : Compiled [] := fun _ member => nomatch member

/-- One more rule that is read from a line. -/
theorem Rule.Compiled.cons {rules : List Rule} {rule : NetworkRule} {text : String} {filterId : Nat}
    (made : Network.compile text filterId = .ok rule) (compiled : Compiled rules) :
    Compiled (.network rule :: rules) := by
  intro other member
  rcases List.mem_cons.mp member with same | member
  · exact ⟨text, filterId, Rule.network.inj same ▸ made⟩
  · exact compiled other member

/-- Fewer rules were read from lines as well. -/
theorem Rule.Compiled.mono {rules fewer : List Rule} (compiled : Compiled rules)
    (inside : fewer ⊆ rules) : Compiled fewer :=
  fun rule member => compiled rule (inside member)

/-- A rule that stands was read from some line. -/
theorem Rule.Compiled.of_standing {rules : List Rule} (compiled : Compiled rules)
    {rule : NetworkRule} (stands : rule ∈ standing rules) :
    ∃ text filterId, Network.compile text filterId = .ok rule := by
  -- A rule that stands is an entry of the list.
  obtain ⟨found, _⟩ := List.mem_filter.mp stands
  obtain ⟨entry, member, same⟩ := List.mem_filterMap.mp found
  cases entry <;> cases same
  exact compiled rule member

/-- The domains that standing rules name are named. -/
theorem Rule.Compiled.named {rules : List Rule} (compiled : Compiled rules)
    {rule : NetworkRule} (stands : rule ∈ standing rules) : rule.domains.Named := by
  obtain ⟨text, filterId, made⟩ := compiled.of_standing stands
  -- The rule came out of the compiler, which refuses empty names.
  exact Network.compile_named made

/-- The domains that some of the standing rules name are named. -/
theorem Rule.Compiled.named_filter {rules : List Rule} (compiled : Compiled rules)
    (keep : NetworkRule → Bool) : ∀ rule ∈ (standing rules).filter keep,
      ∀ d ∈ rule.domains.permitted, d ≠ "" :=
  fun _ member => compiled.named (List.mem_of_mem_filter member)

/-- A request for something else than a document has another type. -/
theorem TypeSet.only_ne {type : RequestType} (part : type ≠ .document) : only type ≠ only .document := by
  intro same
  -- One of the two sets meets the document and the other does not.
  have apart := meets_only type .document
  rw [same, meets_only, decide_eq_false part] at apart
  cases apart

/-- A rule for whole documents has nothing to say about what a document asks for. -/
theorem Rule.Compiled.not_isDocumentLevel {rules : List Rule} (compiled : Compiled rules)
    {rule : NetworkRule} (stands : rule ∈ standing rules) {query : Query} {type : RequestType}
    (single : query.types = .only type) (part : type ≠ .document)
    (speaks : rule.answers query = true) : rule.isDocumentLevel = false := by
  obtain ⟨text, filterId, made⟩ := compiled.of_standing stands
  cases level : rule.isDocumentLevel with
  | false => rfl
  | true =>
    -- Such a rule is about requests for documents alone.
    have documents := Network.compile_permittedTypes made level
    simp only [NetworkRule.answers, NetworkRule.filters, single, Bool.and_eq_true] at speaks
    have accepted : rule.acceptsType (.only type) = true := speaks.2.1.2
    exact absurd (Network.eq_document_of_acceptsType documents accepted) part

namespace RuleSet

variable {rules : List Rule} {request : Request}

/-- The exceptions found for the document of a request are all that match it, in their order. -/
theorem documentRules_eq (compiled : Rule.Compiled rules) (request : Request) :
    (ofList rules).documentRules (request.document.getD "") = request.documentExceptions rules := by
  -- The exceptions have an index of their own, which is asked about the document.
  simp only [documentRules, (ofList_indices rules).1, Request.documentExceptions]
  -- Without a document nothing is found; with one, all that match are.
  by_cases nowhere : request.document.getD "" = ""
  · rw [RuleIndex.rulesFor_of_empty _ (by simpa [documentQuery] using nowhere)]
    simp [nowhere]
  · rw [RuleIndex.rulesFor_eq_filter (compiled.named_filter _)
      (by simpa [documentQuery] using nowhere), List.filter_filter, List.filter_filter]
    refine List.filter_congr fun rule _ => ?_
    cases rule.info.isException <;> cases rule.isDocumentLevel <;> simp [nowhere]

/-- The exceptions found for the document of a request are all that match it. -/
theorem mem_documentRules_iff (compiled : Rule.Compiled rules) {rule : NetworkRule} :
    rule ∈ (ofList rules).documentRules (request.document.getD "") ↔
      rule ∈ request.documentExceptions rules := by
  rw [documentRules_eq compiled]

/-- Some exception for the document has an option just if one of all that match has it. -/
theorem any_documentRules (compiled : Rule.Compiled rules) (request : Request)
    (option : RuleOption) :
    ((ofList rules).documentRules (request.document.getD "")).any (·.options.has option) =
      (request.documentExceptions rules).any (·.options.has option) := by
  rw [documentRules_eq compiled]

/-- The exception that is weighed is the first of the heaviest contenders. -/
theorem exception?_eq (compiled : Rule.Compiled rules) (address : request.url ≠ "") :
    (ofList rules).exception? request = (request.contenders rules).argmax NetworkRule.rank := by
  -- Exceptions have an index of their own, and what is accepted of it are those that may count.
  rw [exception?, (ofList_indices rules).1,
    RuleIndex.ruleBy?_eq_argmax (compiled.named_filter _) address, List.filter_filter]
  simp only [Request.contenders, Request.counting, Bool.and_comm]

/-- The blocking rule that is weighed is the first of the heaviest that are chosen from. -/
theorem blocking?_eq (compiled : Rule.Compiled rules) (address : request.url ≠ "") :
    (ofList rules).blocking? request =
      (NetworkRule.preferred request.query (request.blockers rules)).argmax NetworkRule.rank := by
  have options : ((ofList rules).documentOptions (request.document.getD "")).has .genericBlock =
      (request.documentExceptions rules).any (·.options.has .genericBlock) := by
    -- The options that are joined are those of all exceptions for the document.
    rw [documentOptions, has_foldl_union, any_documentRules compiled, OptionSet.has_empty,
      Bool.false_or]
  rw [blocking?, (ofList_indices rules).2, options,
    RuleIndex.ruleBy?_eq_argmax (compiled.named_filter _) address, List.filter_filter]
  -- To ask for specific rules alone is to leave out the generic ones that answer.
  show (NetworkRule.preferred request.query _).argmax _ = _
  congr 2
  refine List.filter_congr fun rule _ => ?_
  simp only [NetworkRule.answers, Request.query]
  grind

/-- The exception that is weighed is the best of all that match. -/
theorem exception?_isBest (compiled : Rule.Compiled rules) (address : request.url ≠ "")
    {type : RequestType} (single : request.types = .only type) (part : type ≠ .document) :
    NetworkRule.IsBest (request.exceptions rules) ((ofList rules).exception? request) := by
  -- Rules for whole documents do not answer, so leaving some of them out leaves out nothing.
  have same : request.counting rules = request.exceptions rules := by
    refine List.filter_congr fun rule stands => ?_
    cases speaks : rule.answers request.query with
    | false => simp
    -- A rule that answers is not for whole documents, so the condition on those is void.
    | true => simp [compiled.not_isDocumentLevel stands single part speaks]
  have apart : request.query.types ≠ .only .document := by
    rw [Request.query, single]
    exact TypeSet.only_ne part
  rw [exception?_eq compiled address, Request.contenders, NetworkRule.preferred_eq_of_ne apart, same]
  exact NetworkRule.isBest_argmax _

/-- The blocking rule that is weighed is the best of all that match. -/
theorem blocking?_isBest (compiled : Rule.Compiled rules) (address : request.url ≠ "")
    {type : RequestType} (single : request.types = .only type) (part : type ≠ .document) :
    NetworkRule.IsBest (request.blockers rules) ((ofList rules).blocking? request) := by
  -- The request is for one type, which is not the document, so no rule is preferred.
  have apart : request.query.types ≠ .only .document := by
    rw [Request.query, single]
    exact TypeSet.only_ne part
  rw [blocking?_eq compiled address, NetworkRule.preferred_eq_of_ne apart]
  exact NetworkRule.isBest_argmax _

end RuleSet

/-- The engine after it has been asked some requests; one that it gives no answer to leaves it as it is. -/
def Engine.asked (engine : Engine) (requests : List Request) : Engine :=
  requests.foldl (fun engine request => ((engine.tryAnswer request).map (·.2)).getD engine) engine

/-- An engine serves its plan whatever it was asked. -/
theorem Engine.Serves.asked {engine : Engine} {plan : Plan} (serves : engine.Serves plan)
    (requests : List Request) : (engine.asked requests).Serves plan := by
  induction requests generalizing engine with
  | nil => exact serves
  | cons request rest ih =>
    refine ih ?_
    show (((engine.tryAnswer request).map (·.2)).getD engine).Serves plan
    cases found : engine.tryAnswer request with
    | none => exact serves
    | some answer =>
      -- An answer that is given is the one that the rules give.
      obtain rfl := (engine.attains_answer request).right answer found
      exact (serves.answer request).2

/-- Whatever an engine was asked, its rules are those it was built with. -/
theorem Engine.rules_asked (rules : List Rule) (cacheSize : Nat) (earlier : List Request) :
    ((Engine.ofRules rules cacheSize).asked earlier).rules = RuleSet.ofList rules :=
  ((Engine.serves_engine ⟨rules, cacheSize⟩).asked earlier).rules

/-- Whatever an engine was asked before, its answer is the verdict of its rules. -/
theorem Engine.answer_asked (rules : List Rule) (cacheSize : Nat) (earlier : List Request)
    (request : Request) :
    (((Engine.ofRules rules cacheSize).asked earlier).answer request).1 =
      (RuleSet.ofList rules).judge request := by
  -- The engine serves its plan from the start, and still does after all that was asked.
  have serves := (Engine.serves_engine ⟨rules, cacheSize⟩).asked earlier
  exact (serves.answer request).1.trans (Plan.verdict_eq ⟨rules, cacheSize⟩ request)

/-- Whatever an engine was asked before, it gives the verdict of its rules, where the host of the document
can be held against these, and no other one anywhere. -/
theorem Engine.attains_verdict_asked (rules : List Rule) (cacheSize : Nat) (earlier : List Request)
    (request : Request) :
    Attains (Rule.DefinedOn rules request.query.host)
      (((Engine.ofRules rules cacheSize).asked earlier).tryVerdict request)
      ((RuleSet.ofList rules).judge request) := by
  rw [← answer_asked rules cacheSize earlier request]
  -- After all that was asked, the rules are those the engine was made of.
  refine ((attains_answer _ request).map Prod.fst).mono fun defined => ?_
  rw [rules_asked]
  exact RuleSet.isDefinedOn_ofList defined

/--
What an engine says to a request for a part of a document is settled by all rules that match.

A rule that is named as blocking is one of the blocking rules, and one that is named as allowing is
an exception for the request, or one that lets all requests of its document through. An answer is given
where the host of the document can be held against the domains of the rules; at another host the program may
stop, but gives no other answer.
-/
theorem answer_byAll (rules : List Rule) (compiled : Rule.Compiled rules) (cacheSize : Nat)
    (earlier : List Request) (request : Request) (address : request.url ≠ "") (type : RequestType)
    (single : request.types = .only type) (part : type ≠ .document) :
    let engine := (Engine.ofRules rules cacheSize).asked earlier
    (Rule.DefinedOn rules request.query.host → (engine.tryVerdict request).isSome) ∧
    ∀ verdict, engine.tryVerdict request = some verdict →
      verdict.decision = .byAll (request.exceptions rules) (request.documentExceptions rules)
        (request.blockers rules) ∧
      ∀ rule, (verdict = .blocked rule → rule ∈ request.blockers rules) ∧
        (verdict = .allowed rule → rule ∈ request.exceptions rules ∨
          rule ∈ request.documentExceptions rules ∧ rule.options.has .urlBlock = true) := by
  -- Whatever was asked before, the answer is the verdict of the rules alone.
  have attains := Engine.attains_verdict_asked rules cacheSize earlier request
  refine ⟨attains.given, fun verdict given => ?_⟩
  obtain rfl := attains.right verdict given
  have bestException := RuleSet.exception?_isBest compiled address single part
  have bestBlocker := RuleSet.blocking?_isBest compiled address single part
  have documented := RuleSet.any_documentRules compiled request .urlBlock
  have filled : request.url.isEmpty = false := by simpa using address
  rw [RuleSet.judge, filled]
  simp only [Bool.false_eq_true, if_false]
  refine ⟨Verdict.decision_weigh bestException bestBlocker ?_, fun rule => ⟨fun named => ?_,
    fun named => ?_⟩⟩
  · -- A document that lets requests through is found just if there is an exception that says so.
    rw [RuleSet.requestsAllowed?, Bool.eq_iff_iff, List.find?_isSome, ← documented,
      List.any_eq_true]
  · -- The rule that blocks is the best blocking rule, which is one of them.
    rw [(Verdict.rule_weigh rule).1 named] at bestBlocker
    exact bestBlocker.1
  · rcases (Verdict.rule_weigh rule).2 named with chosen | allowed
    · rw [chosen] at bestException
      exact Or.inl bestException.1
    · -- The other kind is an exception for the document with the option for it.
      rw [RuleSet.requestsAllowed?] at allowed
      have listed := List.mem_of_find?_eq_some allowed
      have option := List.find?_some allowed
      exact Or.inr ⟨(RuleSet.mem_documentRules_iff compiled).mp listed, by simpa using option⟩

/-- The rule that the line `ads` stands for. -/
def adsEverywhere : NetworkRule where
  info := ⟨"ads", 0, false⟩
  regex := .cats ("ads".toList.map fun c => .chars (.folded (.only c)))
  source := "ads"
  shortcut := some "ads"
  domains := {}
  permittedTypes := .all
  restrictedTypes := .empty
  party := .any
  options := .empty
  isRegexRule := false
  isDocumentLevel := false
  csp := none
  cancels := none

/-- The rule is what its line is compiled to. -/
theorem compile_adsEverywhere : Network.compile "ads" 0 = .ok adsEverywhere := rfl

/-- The exception that the line `@@ads$domain=example.com` stands for. -/
def adsExcepted : NetworkRule :=
  { adsEverywhere with
    info := ⟨"@@ads$domain=example.com", 0, true⟩
    domains := ⟨["example.com"], []⟩ }

/-- The exception is what its line is compiled to. -/
theorem compile_adsExcepted : Network.compile "@@ads$domain=example.com" 0 = .ok adsExcepted := rfl

/-- A page of the site asks another one for a script. -/
def scriptForPage : Request := ⟨"//ads/x.js", some "//example.com/", .only .script⟩

/-- A rule for all sites, and the exception to it. -/
def adsRules : List Rule := [.network adsEverywhere, .network adsExcepted]

/-- Neither of the two rules has a domain with an open end. -/
theorem definedOn_adsRules (host : String) : Rule.DefinedOn adsRules host :=
  Rule.definedOn_of_closed (by decide +kernel) host

/-- An exception for one site is weighed against a rule for all, whatever was asked before. -/
theorem answer_byAll_script :
    Rule.Compiled adsRules ∧ scriptForPage.url ≠ "" ∧ scriptForPage.types = .only .script ∧
      RequestType.script ≠ .document ∧
      (((Engine.ofRules adsRules 1).asked [scriptForPage]).tryVerdict scriptForPage).map
        Verdict.decision = some .allow := by
  have compiled : Rule.Compiled adsRules := by
    intro rule member
    -- Each of the two is read from its line.
    simp only [adsRules, List.mem_cons, Rule.network.injEq, List.not_mem_nil, or_false] at member
    rcases member with same | same
    · exact ⟨"ads", 0, same ▸ rfl⟩
    · exact ⟨"@@ads$domain=example.com", 0, same ▸ rfl⟩
  have address : scriptForPage.url ≠ "" := by decide
  have part : RequestType.script ≠ .document := by decide
  obtain ⟨ends, right⟩ := answer_byAll adsRules compiled 1 [scriptForPage] scriptForPage address .script
    rfl part
  obtain ⟨verdict, given⟩ := Option.isSome_iff_exists.mp (ends (definedOn_adsRules _))
  refine ⟨compiled, address, rfl, part, ?_⟩
  rw [given, Option.map_some, (right verdict given).1]
  -- Both rules stand, and both answer; the document has no rule of its own.
  have standing : Rule.standing adsRules = [adsEverywhere, adsExcepted] := rfl
  have blocks : adsEverywhere.answers scriptForPage.query = true := by cbv
  have excepts : adsExcepted.answers scriptForPage.query = true := by cbv
  have blocking : adsEverywhere.info.isException = false ∧ adsEverywhere.isDocumentLevel = false :=
    ⟨rfl, rfl⟩
  have excepting : adsExcepted.info.isException = true ∧ adsExcepted.isDocumentLevel = false :=
    ⟨rfl, rfl⟩
  have exceptions : scriptForPage.exceptions adsRules = [adsExcepted] := by
    simp [Request.exceptions, standing, excepts, blocking, excepting]
  have documents : scriptForPage.documentExceptions adsRules = [] := by
    simp [Request.documentExceptions, standing, blocking, excepting]
  have blockers : scriptForPage.blockers adsRules = [adsEverywhere] := by
    simp [Request.blockers, standing, documents, blocks, blocking, excepting]
  rw [exceptions, documents, blockers]
  rfl

end AdFilter
