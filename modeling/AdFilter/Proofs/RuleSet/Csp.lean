import AdFilter.Proofs.Distinct
import AdFilter.Proofs.Network.WellFormed
import AdFilter.Proofs.RuleSet.Optimize

/-!
Which directives about sources apply to a document: all that no exception takes away, each of them once
and by the first rule that has it.
-/

namespace AdFilter

namespace Network

/-- No rule has an empty directive. -/
theorem compile_csp_ne_empty {text : String} {filterId : Nat} {rule : NetworkRule}
    (compiled : compile text filterId = .ok rule) : rule.csp ≠ some "" := by
  -- The directive of a rule is the one of its options, and those are settled as they are read.
  obtain ⟨options, regex, read, _, rfl⟩ := compile_eq_ok compiled
  exact (Options.settled_of_read read).directive

end Network

/-- Directives are for requests for documents and for documents within them. -/
theorem TypeSet.meets_framed (types : TypeSet) :
    types.meets RuleSet.framed = (types.meets (.only .document) || types.meets (.only .subdocument)) := by
  have comm (a b : TypeSet) : a.meets b = b.meets a := by
    rw [meets, meets, BitVec.and_comm]
  -- The frames are documents and subdocuments.
  rw [RuleSet.framed, comm, meets_union, comm types, comm types]

namespace Rule

/-- The rule about requests at a place of a list is about sources, neither cancels nor is cancelled, and
matches the request; it is an exception or it is not. -/
structure SourceAt (rules : List Rule) (request : Request) (isException : Bool) (i : Nat)
    (rule : NetworkRule) : Prop where
  found : rules[i]? = some (.network rule)
  cancels : rule.cancels = none
  kept : rule.info.text ∉ rules.filterMap Rule.cancels
  isCsp : rule.isCsp = true
  kind : rule.info.isException = isException
  answers : rule.answers request.query = true

/-- The rules about requests that meet a condition, each with its place in the list. -/
def numbered (rules : List Rule) (keep : NetworkRule → Bool) : List (NetworkRule × Nat) :=
  rules.zipIdx.filterMap fun entry => (entry.1.network?.filter keep).map (·, entry.2)

section Numbered

variable {rules : List Rule} {keep : NetworkRule → Bool}

/-- A rule has the place at which it stands in the list. -/
theorem mem_numbered_iff {rule : NetworkRule} {i : Nat} :
    (rule, i) ∈ numbered rules keep ↔ rules[i]? = some (.network rule) ∧ keep rule = true := by
  simp only [numbered, List.mem_filterMap, List.mem_zipIdx_iff_getElem?, Prod.exists,
    Option.map_eq_some_iff, Option.filter_eq_some_iff, Prod.mk.injEq]
  constructor
  · rintro ⟨entry, _, found, _, ⟨same, keeps⟩, rfl, rfl⟩
    -- Only entries about requests are numbered.
    cases entry <;> cases same
    exact ⟨found, keeps⟩
  · rintro ⟨found, keeps⟩
    exact ⟨_, i, found, rule, ⟨rfl, keeps⟩, rfl, rfl⟩

/-- The rules come in the order of their places. -/
theorem numbered_pairwise (rules : List Rule) (keep : NetworkRule → Bool) :
    (numbered rules keep).Pairwise fun a b => a.2 < b.2 := by
  refine (zipIdx_pairwise rules).filterMap _ fun a b below c first d second => ?_
  -- A rule that is kept has the place of its entry.
  obtain ⟨_, _, rfl⟩ := Option.map_eq_some_iff.mp first
  obtain ⟨_, _, rfl⟩ := Option.map_eq_some_iff.mp second
  exact below

/-- Without their places, these are the rules that meet the condition. -/
theorem map_fst_numbered (rules : List Rule) (keep : NetworkRule → Bool) :
    (numbered rules keep).map (·.1) = (rules.filterMap network?).filter keep := by
  -- The places are put on at the end, so they go again before anything is kept or dropped.
  calc (numbered rules keep).map (·.1)
      = rules.zipIdx.filterMap fun entry => entry.1.network?.filter keep := by
        rw [numbered, List.map_filterMap]
        simp [Function.comp_def]
    _ = (rules.zipIdx.map (·.1)).filterMap fun entry => entry.network?.filter keep := by
        rw [List.filterMap_map]
        rfl
    _ = (rules.filterMap network?).filter keep := by
        rw [List.zipIdx_map_fst, List.filter_filterMap]

end Numbered

end Rule

namespace Request

variable (request : Request) (rules : List Rule)

/-- The rule is about sources, neither cancels nor is cancelled, and matches the request. -/
def isSource (isException : Bool) (rule : NetworkRule) : Bool :=
  rule.answers request.query && (rule.isCsp == true && rule.info.isException == isException) &&
    (rule.cancels.isNone && !(rules.filterMap Rule.cancels).contains rule.info.text)

/-- All rules about sources that match the request, exceptions or others. -/
def sources (isException : Bool) : List NetworkRule :=
  (rules.filterMap Rule.network?).filter (request.isSource rules isException)

/-- There is a directive, and no exception takes it away. -/
def keepsDirective (directive : Option String) : Bool :=
  directive.any fun directive => !(request.sources rules true).any (·.csp == some directive)

variable {request rules} {isException : Bool} {rule : NetworkRule}

/-- A rule about sources stands at a place if the rule there is one. -/
theorem sourceAt_iff {i : Nat} : Rule.SourceAt rules request isException i rule ↔
    rules[i]? = some (.network rule) ∧ request.isSource rules isException rule = true := by
  simp only [isSource, Bool.and_eq_true, Bool.not_eq_true', beq_iff_eq, Option.isNone_iff_eq_none,
    List.contains_eq_mem, decide_eq_false_iff_not]
  -- The same conditions are asked for in another order.
  constructor
  · rintro ⟨found, cancels, kept, isCsp, kind, answers⟩
    exact ⟨found, ⟨answers, isCsp, kind⟩, cancels, kept⟩
  · rintro ⟨found, ⟨answers, isCsp, kind⟩, cancels, kept⟩
    exact ⟨found, cancels, kept, isCsp, kind, answers⟩

/-- The rules about sources that match are those at the places of such rules. -/
theorem mem_sources_iff : rule ∈ request.sources rules isException ↔
    ∃ i, Rule.SourceAt rules request isException i rule := by
  simp only [sourceAt_iff, exists_and_right, ← List.mem_iff_getElem?, sources, List.mem_filter,
    List.mem_filterMap]
  refine and_congr_left fun _ => ⟨?_, fun member => ⟨_, member, rfl⟩⟩
  -- Only a rule about requests has one to show.
  rintro ⟨entry, member, same⟩
  cases entry <;> cases same
  exact member

/-- A directive is kept just if no exception that matches has it. -/
theorem keepsDirective_iff {directive : Option String} :
    request.keepsDirective rules directive = true ↔ directive ≠ none ∧
      ∀ j other, Rule.SourceAt rules request true j other → other.csp ≠ directive := by
  -- Without a directive there is nothing to be kept.
  cases directive with
  | none => simp [keepsDirective]
  | some directive =>
    simp only [keepsDirective, Option.any_some, Bool.not_eq_true', List.any_eq_false, beq_iff_eq,
      mem_sources_iff, ne_eq, reduceCtorEq, not_false_eq_true, true_and]
    exact ⟨fun free j other there => free other ⟨j, there⟩, fun free other ⟨j, there⟩ => free j other there⟩

end Request

namespace RuleSet

variable {rules : List Rule} {request : Request}

/-- Two indices yield the rules about sources that match, exceptions and others. -/
theorem rulesFor_sources (compiled : Rule.Compiled rules) (address : request.url ≠ "") :
    (ofList rules).csp.rulesFor request.query = request.sources rules false ∧
      (ofList rules).cspExceptions.rulesFor request.query = request.sources rules true := by
  have found (isException : Bool) : (RuleIndex.ofList ((Rule.uncancelled rules).filter fun rule =>
      rule.isCsp == true && rule.info.isException == isException)).rulesFor request.query =
        request.sources rules isException := by
    have named : ∀ rule ∈ (Rule.uncancelled rules).filter (fun rule =>
        rule.isCsp == true && rule.info.isException == isException),
        ∀ d ∈ rule.domains.permitted, d ≠ "" :=
      -- What is picked stood in the list, and so was compiled with its domains named.
      fun rule member => compiled.named_of_uncancelled (List.mem_of_mem_filter member)
    rw [RuleIndex.rulesFor_eq_filter named address, Rule.uncancelled, List.filter_filter,
      List.filter_filter]
    rfl
  rw [(ofList_picks rules).2.2.1, (ofList_picks rules).2.2.2]
  exact ⟨found false, found true⟩

/-- The rules whose directives are kept, with their places. -/
def numberedSources (rules : List Rule) (request : Request) : List (NetworkRule × Nat) :=
  Rule.numbered rules fun rule =>
    request.keepsDirective rules rule.csp && request.isSource rules false rule

/-- Without their places, these are the rules from which the first ones are picked. -/
theorem map_fst_numberedSources (rules : List Rule) (request : Request) :
    (numberedSources rules request).map (·.1) =
      (request.sources rules false).filter fun rule => request.keepsDirective rules rule.csp := by
  rw [numberedSources, Rule.map_fst_numbered, Request.sources, List.filter_filter]

/-- These rules come in the order of their places. -/
theorem numberedSources_pairwise (rules : List Rule) (request : Request) :
    (numberedSources rules request).Pairwise fun a b => a.2 < b.2 :=
  Rule.numbered_pairwise rules _

/-- A rule has a place here if its directive is kept and the rule stands there. -/
theorem mem_numberedSources_iff {rule : NetworkRule} {i : Nat} :
    (rule, i) ∈ numberedSources rules request ↔
      request.keepsDirective rules rule.csp = true ∧ Rule.SourceAt rules request false i rule := by
  rw [numberedSources, Rule.mem_numbered_iff, Request.sourceAt_iff, Bool.and_eq_true, and_left_comm]

/-- Other requests than those for documents and for documents within them have no directives. -/
theorem cspRules_of_elsewhere (set : RuleSet) (noDocument : request.types.meets (.only .document) = false)
    (noFrame : request.types.meets (.only .subdocument) = false) : set.cspRules request = [] := by
  have elsewhere : request.types.meets framed = false := by
    rw [TypeSet.meets_framed, noDocument, noFrame, Bool.or_self]
  -- A request for anything else gets no directive.
  rw [cspRules, elsewhere]
  rfl

/-- An exception without a directive takes all directives away. -/
theorem cspRules_of_bare (compiled : Rule.Compiled rules) (address : request.url ≠ "") {i : Nat}
    {rule : NetworkRule} (there : Rule.SourceAt rules request true i rule) (bare : rule.csp = none) :
    (ofList rules).cspRules request = [] := by
  have all : (request.sources rules true).any (·.csp.all String.isEmpty) = true := by
    -- Having no directive counts as having an empty one here.
    rw [List.any_eq_true]
    exact ⟨rule, Request.mem_sources_iff.mpr ⟨i, there⟩, by rw [bare, Option.all_none]⟩
  rw [cspRules, (rulesFor_sources compiled address).2, all, Bool.or_true]
  rfl

/-- Where all exceptions have directives, the first rule for each directive that is kept is found. -/
theorem cspRules_eq_map_distinctBy (compiled : Rule.Compiled rules) (address : request.url ≠ "")
    (isFramed : request.types.meets (.only .document) = true ∨
      request.types.meets (.only .subdocument) = true)
    (directed : ∀ i rule, Rule.SourceAt rules request true i rule → rule.csp ≠ none) :
    (ofList rules).cspRules request =
      (distinctBy (·.1.csp) (numberedSources rules request)).map (·.1) := by
  have inside : request.types.meets framed = true := by
    rwa [TypeSet.meets_framed, Bool.or_eq_true]
  -- No exception takes all away: each of them has a directive, and none of these is empty.
  have none : (request.sources rules true).any (·.csp.all String.isEmpty) = false := by
    rw [List.any_eq_false]
    intro rule member empty
    obtain ⟨i, there⟩ := Request.mem_sources_iff.mp member
    obtain ⟨text, filterId, made⟩ := compiled rule (List.mem_of_getElem? there.found)
    -- A directive that is there is not empty.
    cases csp : rule.csp with
    | none => exact directed i rule there csp
    | some directive =>
      rw [csp, Option.all_some, String.isEmpty_iff] at empty
      exact Network.compile_csp_ne_empty made (empty ▸ csp)
  obtain ⟨blocking, exceptions⟩ := rulesFor_sources compiled address
  rw [cspRules, blocking, exceptions, inside, none, ← distinctBy_map, map_fst_numberedSources]
  rfl

end RuleSet

/-- The rule at a place is the first one about sources that matches the request and has its directive. -/
def Rule.FirstSourceAt (rules : List Rule) (request : Request) (i : Nat) (rule : NetworkRule) : Prop :=
  SourceAt rules request false i rule ∧
    ∀ j other, SourceAt rules request false j other → other.csp = rule.csp → i ≤ j

/-- What is picked for a directive is the first rule that has it. -/
theorem Rule.firstSourceAt_of_mem {rules : List Rule} {request : Request} {entry : NetworkRule × Nat}
    (picked : entry ∈ distinctBy (·.1.csp) (RuleSet.numberedSources rules request)) :
    FirstSourceAt rules request entry.2 entry.1 := by
  -- What is picked is the first entry with its directive, so it has the lowest place.
  obtain ⟨rule, i⟩ := entry
  rw [mem_distinctBy_iff, find?_eq_some_iff_of_rising (RuleSet.numberedSources_pairwise _ _)] at picked
  obtain ⟨member, _, lowest⟩ := picked
  obtain ⟨keeps, here⟩ := RuleSet.mem_numberedSources_iff.mp member
  refine ⟨here, fun j other there same => lowest (other, j) ?_ (by simpa using same)⟩
  -- Whether a directive is kept does not depend on the rule that has it.
  exact RuleSet.mem_numberedSources_iff.mpr ⟨same ▸ keeps, there⟩

/-- The directives that are found are those of matching rules that are kept. -/
theorem RuleSet.mem_csp_numberedSources_iff {rules : List Rule} {request : Request}
    {directive : Option String} :
    directive ∈ (numberedSources rules request).map (·.1.csp) ↔
      request.keepsDirective rules directive = true ∧
        ∃ i rule, Rule.SourceAt rules request false i rule ∧ rule.csp = directive := by
  simp only [List.mem_map, Prod.exists, mem_numberedSources_iff]
  -- Whether a directive is kept depends on nothing else about its rule.
  constructor
  · rintro ⟨rule, i, ⟨keeps, here⟩, rfl⟩
    exact ⟨keeps, i, rule, here, rfl⟩
  · rintro ⟨keeps, i, rule, here, rfl⟩
    exact ⟨rule, i, ⟨keeps, here⟩, rfl⟩

/--
The directives of all matching rules apply to a document, but for those that an exception takes away.

Each directive comes once, with the first rule that has it, and the rules are in the order of the list. An
exception without a directive takes all of them away, and other requests than those for documents and for
documents within them have none. There is an answer where the host of the document can be held against the
domains of the rules; the program stops at an exception for which it cannot, whatever the others take away,
but gives no other answer.
-/
theorem cspRules_firstSources (rules : List Rule) (compiled : Rule.Compiled rules) (request : Request)
    (address : request.url ≠ "") :
    let isDocument := request.types.meets (.only .document)
    let isFrame := request.types.meets (.only .subdocument)
    (Rule.DefinedOn rules request.query.host →
      ((RuleSet.ofList rules).tryCspRules request).isSome) ∧
    ∀ found, (RuleSet.ofList rules).tryCspRules request = some found →
    (isDocument = false → isFrame = false → found = []) ∧
    ((∃ i rule, Rule.SourceAt rules request true i rule ∧ rule.csp = none) → found = []) ∧
    ((isDocument = true ∨ isFrame = true) →
      (∀ i rule, Rule.SourceAt rules request true i rule → rule.csp ≠ none) →
      (found.map (·.csp)).Nodup ∧ none ∉ found.map (·.csp) ∧
      (∀ directive : String, some directive ∈ found.map (·.csp) ↔
        (∃ i rule, Rule.SourceAt rules request false i rule ∧ rule.csp = some directive) ∧
          ∀ j other, Rule.SourceAt rules request true j other → other.csp ≠ some directive) ∧
      ∃ places : List Nat, places.Pairwise (· < ·) ∧
        List.Forall₂ (Rule.FirstSourceAt rules request) places found) := by
  intro isDocument isFrame
  have attains := (RuleSet.ofList rules).attains_cspRules request
  refine ⟨fun defined => attains.given (RuleSet.isDefinedOn_ofList defined), fun found given => ?_⟩
  have same := attains.right found given
  refine ⟨fun elsewhere frameless => same.trans (RuleSet.cspRules_of_elsewhere _ elsewhere frameless),
    fun ⟨i, rule, there, bare⟩ => same.trans (RuleSet.cspRules_of_bare compiled address there bare),
    fun isFramed directed => ?_⟩
  -- All four parts are read off the entries that were picked, each the first with its directive.
  have picked := same.trans (RuleSet.cspRules_eq_map_distinctBy compiled address isFramed directed)
  have directives : found.map (·.csp) =
      (distinctBy (·.1.csp) (RuleSet.numberedSources rules request)).map (·.1.csp) := by
    rw [picked, List.map_map]
    rfl
  refine ⟨?_, ?_, fun directive => ?_, ?_⟩
  · rw [directives]
    exact nodup_map_distinctBy _ _
  · rw [directives, mem_map_distinctBy_iff, RuleSet.mem_csp_numberedSources_iff]
    exact fun ⟨keeps, _⟩ => (Request.keepsDirective_iff.mp keeps).1 rfl
  · rw [directives, mem_map_distinctBy_iff, RuleSet.mem_csp_numberedSources_iff,
      Request.keepsDirective_iff, and_comm]
    simp
  · let entries := distinctBy (·.1.csp) (RuleSet.numberedSources rules request)
    -- The places are those of the entries; picking keeps the order.
    refine ⟨entries.map (·.2), ?_, ?_⟩
    · rw [List.pairwise_map]
      exact (RuleSet.numberedSources_pairwise _ _).sublist (distinctBy_sublist _ _)
    · rw [picked, List.forall₂_map_left_iff, List.forall₂_map_right_iff,
        List.forall₂_same]
      exact fun entry member => Rule.firstSourceAt_of_mem member

/-- The rule or the exception for every site with a directive, as a line stands for it. -/
def adsCsp (text directive : String) (isException : Bool) : NetworkRule :=
  { adsEverywhere with
    info := ⟨text, 0, isException⟩
    options := .only .csp
    csp := some directive }

/-- Two directives, and an exception that takes away the second. -/
def adsCspRules : List Rule :=
  [.network (adsCsp "ads$csp=a" "a" false), .network (adsCsp "ads$csp=b" "b" false),
    .network (adsCsp "@@ads$csp=b" "b" true)]

/-- The rules are what their lines are compiled to. -/
theorem compiled_adsCspRules : Rule.Compiled adsCspRules := by
  -- Each of the three lines sets one option and one directive.
  have first : Network.compile "ads$csp=a" 0 = .ok (adsCsp "ads$csp=a" "a" false) :=
    Network.compile_of_allowed { set := .only .csp, csp := some "a" } rfl
      ⟨by decide +kernel, fun _ => by decide +kernel⟩ rfl
  have second : Network.compile "ads$csp=b" 0 = .ok (adsCsp "ads$csp=b" "b" false) :=
    Network.compile_of_allowed { set := .only .csp, csp := some "b" } rfl
      ⟨by decide +kernel, fun _ => by decide +kernel⟩ rfl
  have third : Network.compile "@@ads$csp=b" 0 = .ok (adsCsp "@@ads$csp=b" "b" true) :=
    Network.compile_of_allowed { set := .only .csp, csp := some "b" } rfl
      ⟨by decide +kernel, fun _ => by decide +kernel⟩ rfl
  exact .cons first (.cons second (.cons third .nil))

/-- Of two directives for a document within another one, an exception takes away the second. -/
theorem cspRules_firstSources_frame :
    let request : Request := ⟨"//ads/x.html", some "//example.com/", .only .subdocument⟩
    Rule.Compiled adsCspRules ∧ request.url ≠ "" ∧ request.types.meets (.only .subdocument) = true ∧
      (∀ i rule, Rule.SourceAt adsCspRules request true i rule → rule.csp ≠ none) ∧
      ∃ found, (RuleSet.ofList adsCspRules).tryCspRules request = some found ∧
        some "a" ∈ found.map (·.csp) ∧ some "b" ∉ found.map (·.csp) := by
  intro request
  have address : request.url ≠ "" := by decide
  have frame : request.types.meets (.only .subdocument) = true := by decide
  have uncancelled (text : String) : text ∉ adsCspRules.filterMap Rule.cancels := by
    rw [show adsCspRules.filterMap Rule.cancels = [] from rfl]
    exact List.not_mem_nil
  have blocks : Rule.SourceAt adsCspRules request false 0 (adsCsp "ads$csp=a" "a" false) :=
    ⟨rfl, rfl, uncancelled _, rfl, rfl, by cbv⟩
  have excepts : Rule.SourceAt adsCspRules request true 2 (adsCsp "@@ads$csp=b" "b" true) :=
    ⟨rfl, rfl, uncancelled _, rfl, rfl, by cbv⟩
  -- The one exception among the rules has a directive.
  have excepting {i : Nat} {rule : NetworkRule} (there : Rule.SourceAt adsCspRules request true i rule) :
      rule.csp = some "b" := by
    have member : Rule.network rule ∈ adsCspRules := List.mem_of_getElem? there.found
    simp only [adsCspRules, List.mem_cons, Rule.network.injEq, List.not_mem_nil, or_false] at member
    rcases member with rfl | rfl | rfl
    · cases there.kind
    · rfl
    · rfl
  have directed : ∀ i rule, Rule.SourceAt adsCspRules request true i rule → rule.csp ≠ none := by
    intro i rule there
    rw [excepting there]
    exact Option.some_ne_none _
  have defined : Rule.DefinedOn adsCspRules request.query.host :=
    Rule.definedOn_of_closed (by decide +kernel) _
  obtain ⟨ends, right⟩ := cspRules_firstSources adsCspRules compiled_adsCspRules request address
  obtain ⟨found, given⟩ := Option.isSome_iff_exists.mp (ends defined)
  obtain ⟨_, _, kept, _⟩ := (right found given).2.2 (.inr frame) directed
  refine ⟨compiled_adsCspRules, address, frame, directed, found, given,
    (kept "a").mpr ⟨⟨0, _, blocks, rfl⟩, ?_⟩, ?_⟩
  · intro j other there
    rw [excepting there]
    decide
  · exact fun member => ((kept "b").mp member).2 2 _ excepts rfl

end AdFilter
