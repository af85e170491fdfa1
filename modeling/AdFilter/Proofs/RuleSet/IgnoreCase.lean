import AdFilter.Proofs.Network.BasicRule
import AdFilter.Proofs.RuleSet.Decision

/-! Rules with basic patterns say the same to requests whose addresses differ only in case. -/

namespace AdFilter

/-- An address is empty in small letters just if it is empty. -/
theorem toLower_eq_empty_iff {url : String} : url.toLower = "" ↔ url = "" := by
  rw [← String.toList_inj, ← String.toList_inj, Text.toList_toLower]
  -- Small letters make a text neither longer nor shorter.
  simp

/-- All rules about requests have basic patterns, and none of them asks for case. -/
def Rule.Basic (rules : List Rule) : Prop := ∀ rule, .network rule ∈ rules → rule.IsBasic

namespace RuleIndex

variable {rules : List NetworkRule}

/-- The domains of rules that were read are named. -/
theorem named_of_isBasic (basic : ∀ rule ∈ rules, rule.IsBasic) :
    ∀ rule ∈ rules, ∀ d ∈ rule.domains.permitted, d ≠ "" := by
  intro rule member
  -- A basic rule was compiled, and the compiler refuses empty names.
  obtain ⟨_, text, filterId, compiled, _⟩ := basic rule member
  exact Network.compile_named compiled

/-- The same rules are found for an address in small letters. -/
theorem rulesFor_toLower (basic : ∀ rule ∈ rules, rule.IsBasic) (query : Query) :
    (ofList rules).rulesFor query.toLower = (ofList rules).rulesFor query := by
  -- Lookups find nothing for an empty address, whatever rules there are.
  by_cases nowhere : query.url = ""
  · rw [rulesFor_of_empty _ nowhere, rulesFor_of_empty _ (toLower_eq_empty_iff.mpr nowhere)]
  · rw [rulesFor_eq_filter (named_of_isBasic basic) nowhere,
      rulesFor_eq_filter (named_of_isBasic basic) (mt toLower_eq_empty_iff.mp nowhere)]
    exact List.filter_congr fun rule member => (basic rule member).answers_toLower query

/-- The same rule is the best for an address in small letters. -/
theorem ruleBy?_toLower (basic : ∀ rule ∈ rules, rule.IsBasic) (query : Query)
    (accept : NetworkRule → Bool) :
    (ofList rules).ruleBy? query.toLower accept = (ofList rules).ruleBy? query accept := by
  by_cases nowhere : query.url = ""
  · -- An empty address is the same in small letters.
    have same : query.toLower = query := by
      rw [Query.toLower, toLower_eq_empty_iff.mpr nowhere, ← nowhere]
    rw [same]
  · -- The best rule is chosen among those that answer, and these are the same.
    rw [ruleBy?_eq_argmax (named_of_isBasic basic) nowhere,
      ruleBy?_eq_argmax (named_of_isBasic basic) (mt toLower_eq_empty_iff.mp nowhere)]
    have same : rules.filter (fun rule => accept rule && rule.answers query.toLower) =
        rules.filter fun rule => accept rule && rule.answers query :=
      List.filter_congr fun rule member => by rw [(basic rule member).answers_toLower]
    rw [same]
    rfl

end RuleIndex

/-- The request with its addresses in small letters. -/
def Request.toLower (request : Request) : Request :=
  ⟨request.url.toLower, request.document.map String.toLower, request.types⟩

namespace Request

variable (request : Request)

/-- The host of the document in small letters does not depend on case. -/
theorem documentHost?_toLower : request.toLower.documentHost? = request.documentHost? := by
  simp only [documentHost?, toLower]
  -- A request without a document has no host to be lower-cased.
  cases request.document with
  | none => rfl
  | some document => exact Url.lowerHost?_toLower document

/-- Whether a request crosses sites does not depend on case. -/
theorem isThirdParty_toLower : request.toLower.isThirdParty = request.isThirdParty := by
  unfold isThirdParty
  rw [documentHost?_toLower]
  -- Hosts are put in small letters before they are compared.
  simp only [toLower, Url.lowerHost?_toLower]

/-- The same is asked about a request in small letters, but for its address. -/
theorem query_toLower : request.toLower.query = request.query.toLower := by
  simp only [query, documentHost?_toLower, isThirdParty_toLower]
  rfl

end Request

namespace RuleSet

variable {rules : List Rule}

/-- The four indices of rules about requests hold basic rules alone. -/
theorem ofList_basic (basic : Rule.Basic rules) (pick : NetworkRule → Bool) :
    ∀ rule ∈ (Rule.uncancelled rules).filter pick, rule.IsBasic := by
  intro rule member
  -- Rules are picked and cancelled from those of the list, so none is new.
  have uncancelled := List.mem_of_mem_filter (List.mem_of_mem_filter member)
  obtain ⟨entry, inside, same⟩ := List.mem_filterMap.mp uncancelled
  cases entry <;> cases same
  exact basic rule inside

/-- The same is asked about a document in small letters, but for its address. -/
theorem documentQuery_toLower (url : String) :
    documentQuery url.toLower = (documentQuery url).toLower := by
  simp only [documentQuery, Url.lowerHost?_toLower]
  rfl

/-- The exceptions for a document do not depend on the case of its address. -/
theorem documentRules_toLower (basic : Rule.Basic rules) (url : String) :
    (ofList rules).documentRules url.toLower = (ofList rules).documentRules url := by
  simp only [documentRules, documentQuery_toLower, (ofList_picks rules).2.1,
    RuleIndex.rulesFor_toLower (ofList_basic basic _)]

/-- The options of the exceptions for a document do not depend on the case of its address. -/
theorem documentOptions_toLower (basic : Rule.Basic rules) (url : String) :
    (ofList rules).documentOptions url.toLower = (ofList rules).documentOptions url := by
  simp only [documentOptions, documentRules_toLower basic]

/-- The verdict does not depend on the case of the addresses. -/
theorem judge_toLower (basic : Rule.Basic rules) (request : Request) :
    (ofList rules).judge request.toLower = (ofList rules).judge request := by
  -- Without a document the address is empty, which has no letters.
  have document : request.toLower.document.getD "" = (request.document.getD "").toLower := by
    simp only [Request.toLower]
    cases request.document with
    | none => exact (toLower_eq_empty_iff.mpr rfl).symm
    | some document => rfl
  have exception : (ofList rules).exception? request.toLower = (ofList rules).exception? request := by
    simp only [exception?, Request.query_toLower, (ofList_picks rules).2.1,
      RuleIndex.ruleBy?_toLower (ofList_basic basic _)]
  have blocking : (ofList rules).blocking? request.toLower = (ofList rules).blocking? request := by
    -- What the document allows is no part of the address.
    have asked (genericAllowed : Bool) : { request.query.toLower with genericAllowed } =
        ({ request.query with genericAllowed } : Query).toLower := rfl
    simp only [blocking?, document, documentOptions_toLower basic, Request.query_toLower, asked,
      (ofList_picks rules).1, RuleIndex.ruleBy?_toLower (ofList_basic basic _)]
  have address : request.toLower.url.isEmpty = request.url.isEmpty := by
    rw [Bool.eq_iff_iff, String.isEmpty_iff, String.isEmpty_iff]
    exact toLower_eq_empty_iff
  -- Nothing else that the verdict is made of reads an address.
  simp only [judge, address, exception, blocking, document, requestsAllowed?,
    documentRules_toLower basic]

/-- The directives do not depend on the case of the addresses. -/
theorem cspRules_toLower (basic : Rule.Basic rules) (request : Request) :
    (ofList rules).cspRules request.toLower = (ofList rules).cspRules request := by
  -- The two tables are asked with the same query but for case.
  simp only [cspRules, Request.query_toLower, (ofList_picks rules).2.2.1, (ofList_picks rules).2.2.2,
    RuleIndex.rulesFor_toLower (ofList_basic basic _)]
  rfl

end RuleSet

/--
Rules with basic patterns do not tell apart what differs only in the case of ASCII letters.

Two requests of one type whose addresses differ in no more cross sites both or neither, and get the
same verdict with the same rule, whatever the engines that they are put to were asked before, and
the same directives; and two such addresses of documents have the same options.
-/
theorem answer_ignoresCase (rules : List Rule) (basic : Rule.Basic rules) :
    (∀ request other : Request, request.toLower = other.toLower →
      request.isThirdParty = other.isThirdParty ∧
      (∀ cacheSize otherSize earlier others,
        (((Engine.ofRules rules cacheSize).asked earlier).answer request).1 =
          (((Engine.ofRules rules otherSize).asked others).answer other).1) ∧
      (RuleSet.ofList rules).cspRules request = (RuleSet.ofList rules).cspRules other) ∧
    ∀ document other : String, document.toLower = other.toLower →
      (RuleSet.ofList rules).documentOptions document =
        (RuleSet.ofList rules).documentOptions other := by
  -- Each of two such requests is compared with the one in small letters, which they share.
  refine ⟨fun request other same => ⟨?_, fun _ _ _ _ => ?_, ?_⟩, fun document other same => ?_⟩
  · rw [← request.isThirdParty_toLower, same, other.isThirdParty_toLower]
  · rw [Engine.answer_asked, Engine.answer_asked, ← RuleSet.judge_toLower basic, same,
      RuleSet.judge_toLower basic]
  · rw [← RuleSet.cspRules_toLower basic, same, RuleSet.cspRules_toLower basic]
  · rw [← RuleSet.documentOptions_toLower basic, same, RuleSet.documentOptions_toLower basic]

/-- A script of a page, both with capital letters in their addresses. -/
def scriptForPageInCapitals : Request := ⟨"//ADS/x.js", some "//EXAMPLE.com/", .only .script⟩

/-- Capital letters in the addresses of a script and its page change nothing about it. -/
theorem answer_ignoresCase_script :
    Rule.Basic adsRules ∧ scriptForPage.toLower = scriptForPageInCapitals.toLower ∧
      scriptForPage.isThirdParty = scriptForPageInCapitals.isThirdParty ∧
      (((Engine.ofRules adsRules 1).asked [scriptForPage]).answer scriptForPage).1 =
        (((Engine.ofRules adsRules 1).asked [scriptForPage]).answer scriptForPageInCapitals).1 ∧
      (RuleSet.ofList adsRules).cspRules scriptForPage =
        (RuleSet.ofList adsRules).cspRules scriptForPageInCapitals ∧
      (RuleSet.ofList adsRules).documentOptions "//example.com/" =
        (RuleSet.ofList adsRules).documentOptions "//EXAMPLE.com/" := by
  have basic : Rule.Basic adsRules := by
    intro rule member
    simp only [adsRules, List.mem_cons, Rule.network.injEq, List.not_mem_nil, or_false] at member
    rcases member with rfl | rfl
    · exact ⟨rfl, _, _, compile_adsEverywhere, by unfold Network.IsBasic; decide +kernel⟩
    · exact ⟨rfl, _, _, compile_adsExcepted, by unfold Network.IsBasic; decide +kernel⟩
  have document : "//example.com/".toLower = "//EXAMPLE.com/".toLower := by
    rw [← String.toList_inj, Text.toList_toLower, Text.toList_toLower]
    simp
  -- The two requests are one request in small letters.
  have same : scriptForPage.toLower = scriptForPageInCapitals.toLower := by
    have url : "//ads/x.js".toLower = "//ADS/x.js".toLower := by
      rw [← String.toList_inj, Text.toList_toLower, Text.toList_toLower]
      simp
    simp only [Request.toLower, scriptForPage, scriptForPageInCapitals, Option.map_some, url, document]
  obtain ⟨requests, documents⟩ := answer_ignoresCase adsRules basic
  obtain ⟨sites, answers, directives⟩ := requests _ _ same
  exact ⟨basic, same, sites, answers 1 1 [scriptForPage] [scriptForPage], directives,
    documents _ _ document⟩

end AdFilter
