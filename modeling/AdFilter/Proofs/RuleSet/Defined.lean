import AdFilter.Engine
import AdFilter.Proofs.Index.Rules
import AdFilter.Proofs.Session

/-!
What is asked of rules is answered where no host has to be cut inside a character: each question is about
one host, and all that it takes is that this one can be held against the domains of the rules.
-/

namespace AdFilter

namespace PageRules

variable {R : Type} [PageRule R]

/-- A host can be held against the domains of all rules of one kind, and of the exceptions to them. -/
structure IsDefinedOn (table : PageRules R) (host : String) : Prop where
  rules : ∀ rule ∈ table.rules, (PageRule.domains rule).IsDefinedOn host
  exceptions : ∀ key, ∀ domains ∈ table.exceptions.entries.getD key [], domains.IsDefinedOn host

/-- The rules that apply on a host are found, those that are not wanted left out. -/
theorem attains_activeOn (table : PageRules R) (host : String) (isOff : Bool) (wanted : R → Bool) :
    Attains (table.IsDefinedOn host) (table.tryActiveOn host isOff wanted)
      (if isOff then [] else (table.activeOn host).filter wanted) := by
  rw [tryActiveOn, activeOn, List.filter_filter]
  cases isOff with
  | true => exact .some []
  | false =>
    refine .filterM fun rule member => ?_
    have permits := ((PageRule.domains rule).attains_permits host).mono
      fun defined : table.IsDefinedOn host => defined.rules rule member
    have excepts : Attains (table.IsDefinedOn host)
        (table.exceptions.tryExcepts (PageRule.key rule) host)
        (table.exceptions.excepts (PageRule.key rule) host) :=
      .anyM fun domains listed => (domains.attains_permits host).mono
        fun defined => defined.exceptions _ domains listed
    refine permits.bind ?_
    -- A rule that does not apply or is not wanted is left out before its exceptions are looked at.
    cases applies : (PageRule.domains rule).permits host with
    | false => simpa [applies] using Attains.some false
    | true =>
      cases wants : wanted rule with
      | false => simpa [applies, wants] using Attains.some false
      | true =>
        -- What is left is the answer of the exceptions, turned round.
        simpa [applies, wants] using excepts.bind (.some (!_))

/-- All rules that apply on a host are found, unless they are switched off. -/
theorem attains_activeOn_all (table : PageRules R) (host : String) (isOff : Bool) :
    Attains (table.IsDefinedOn host) (table.tryActiveOn host isOff fun _ => true)
      (if isOff then [] else table.activeOn host) := by
  have attains := table.attains_activeOn host isOff fun _ => true
  -- A filter that wants all rules leaves none out.
  rwa [List.filter_true] at attains

/-- The domains of exceptions that are added in a row are those of the exceptions. -/
theorem mem_foldl_add {rules : List R} {table : ExceptionTable} {key : String} {domains : Domains}
    (listed : domains ∈ (rules.foldl
      (fun table rule => table.add (PageRule.key rule) (PageRule.domains rule)) table).entries.getD key []) :
    domains ∈ table.entries.getD key [] ∨ ∃ rule ∈ rules, domains = PageRule.domains rule := by
  -- Each exception adds to the table that those before it have left.
  induction rules generalizing table with
  | nil => exact .inl listed
  | cons rule rules ih =>
    rcases ih listed with early | ⟨other, member, same⟩
    · simp only [ExceptionTable.add, Std.HashMap.getD_insert] at early
      split at early
      · rename_i same
        rcases List.mem_append.mp early with before | new
        · exact .inl (beq_iff_eq.mp same ▸ before)
        · exact .inr ⟨rule, List.mem_cons_self, List.mem_singleton.mp new⟩
      · exact .inl early
    · exact .inr ⟨other, List.mem_cons_of_mem _ member, same⟩

/-- The rules of a list, and the exceptions among them, have the domains that they have in the list. -/
theorem isDefinedOn_ofList {rules : List R} {host : String}
    (defined : ∀ rule ∈ rules, (PageRule.domains rule).IsDefinedOn host) :
    (ofList rules).IsDefinedOn host where
  rules rule member := defined rule (List.mem_of_mem_filter member)
  exceptions key domains listed := by
    -- What is listed under a key was an exception of the list.
    rcases mem_foldl_add listed with none | ⟨rule, member, rfl⟩
    · simp at none
    · exact defined rule (List.mem_of_mem_filter member)

end PageRules

/-- A host can be held against the domains of all rules. -/
def Rule.DefinedOn (rules : List Rule) (host : String) : Prop :=
  ∀ rule ∈ rules, rule.domains.IsDefinedOn host

/-- A host can be held against fewer rules as well. -/
theorem Rule.DefinedOn.mono {rules fewer : List Rule} {host : String} (defined : DefinedOn rules host)
    (inside : fewer ⊆ rules) : DefinedOn fewer host :=
  fun rule member => defined rule (inside member)

/-- What is read from rules has their domains. -/
theorem Rule.DefinedOn.filterMap {R : Type} {read : Rule → Option R} {rules : List Rule} {host : String}
    (defined : DefinedOn rules host) (domains : R → Domains)
    (same : ∀ rule r, read rule = some r → rule.domains = domains r) :
    ∀ r ∈ rules.filterMap read, (domains r).IsDefinedOn host := by
  intro r listed
  -- The rule is read from one of the list, and has its domains.
  obtain ⟨rule, member, found⟩ := List.mem_filterMap.mp listed
  exact same rule r found ▸ defined rule member

/-- Any host can be held against rules none of whose domains has an open end. -/
theorem Rule.definedOn_of_closed {rules : List Rule}
    (closed : ∀ rule ∈ rules, ∀ entry ∈ rule.domains.restricted ++ rule.domains.permitted,
      DomainTable.isOpenEnded entry = false) (host : String) : DefinedOn rules host :=
  fun rule member => Domains.isDefinedOn_of_closed (closed rule member) host

namespace RuleSet

/-- A host can be held against the domains of all rules that are sorted into a set. -/
structure IsDefinedOn (set : RuleSet) (host : String) : Prop where
  blocking : set.blocking.IsDefinedOn host
  exceptions : set.exceptions.IsDefinedOn host
  csp : set.csp.IsDefinedOn host
  cspExceptions : set.cspExceptions.IsDefinedOn host
  styles : set.styles.IsDefinedOn host
  scripts : set.scripts.IsDefinedOn host
  scriptlets : set.scriptlets.IsDefinedOn host
  contents : set.contents.IsDefinedOn host

/-- Rules are sorted into a set with the domains that they have in the list. -/
theorem isDefinedOn_ofList {rules : List Rule} {host : String} (defined : Rule.DefinedOn rules host) :
    (ofList rules).IsDefinedOn host := by
  -- Each index holds some of the rules about requests.
  have picked {index : List NetworkRule} (inside : index ⊆ rules.filterMap Rule.network?) :
      (RuleIndex.ofList index).IsDefinedOn host := by
    refine RuleIndex.isDefinedOn_ofList.mpr fun rule member => ?_
    refine defined.filterMap NetworkRule.domains ?_ rule (inside member)
    rintro (_ | _ | _ | _ | _) r ⟨⟩
    rfl
  have kept (keep : NetworkRule → Bool) : (RuleIndex.ofList
      ((((rules.filterMap Rule.network?).filter fun rule => rule.cancels.isNone).partition fun rule =>
        (Rule.cancelledTexts rules).contains rule.info.text).2.filter keep)).IsDefinedOn host := by
    refine picked fun rule member => ?_
    simp only [List.partition_eq_filter_filter, List.mem_filter] at member
    exact member.1.1.1
  exact {
    blocking := kept _
    exceptions := kept _
    csp := kept _
    cspExceptions := kept _
    styles := PageRules.isDefinedOn_ofList
      (defined.filterMap PageRule.domains (by rintro (_ | _ | _ | _ | _) r ⟨⟩; rfl))
    scripts := PageRules.isDefinedOn_ofList
      (defined.filterMap PageRule.domains (by rintro (_ | _ | _ | _ | _) r ⟨⟩; rfl))
    scriptlets := PageRules.isDefinedOn_ofList
      (defined.filterMap PageRule.domains (by rintro (_ | _ | _ | _ | _) r ⟨⟩; rfl))
    contents := PageRules.isDefinedOn_ofList
      (defined.filterMap PageRule.domains (by rintro (_ | _ | _ | _ | _) r ⟨⟩; rfl)) }

variable (set : RuleSet)

/-- A document is asked about with its own host. -/
theorem host_documentQuery_of_lowerHost? {url host : String} (hosted : Url.lowerHost? url = some host) :
    (documentQuery url).host = host := by
  rw [documentQuery, hosted, Option.getD_some]

/-- The exceptions for a document are found where its host can be held against all rules. -/
theorem attains_documentRules (url : String) :
    Attains (set.IsDefinedOn (documentQuery url).host) (set.tryDocumentRules url)
      (set.documentRules url) :=
  ((set.exceptions.attains_rulesFor (documentQuery url)).mono (·.exceptions)).map _

/-- The options of a document are found where its host can be held against all rules. -/
theorem attains_documentOptions (url : String) :
    Attains (set.IsDefinedOn (documentQuery url).host) (set.tryDocumentOptions url)
      (set.documentOptions url) :=
  (set.attains_documentRules url).map _

/-- A request is about the host of its document, and of no other one. -/
theorem host_documentQuery (request : Request) :
    (documentQuery (request.document.getD "")).host = request.query.host := by
  -- The document is asked about as a page of its own, with the host that the request gives.
  rw [documentQuery, Request.query, request.documentHost?_eq]

/-- The exception for a request is settled on where the host of its document can be held against all. -/
theorem attains_exception (request : Request) :
    Attains (set.IsDefinedOn request.query.host) (set.tryException request)
      (set.exception? request) :=
  (set.exceptions.attains_ruleBy request.query _).mono (·.exceptions)

/-- The blocking rule for a request is settled on where the host of its document can be held against all. -/
theorem attains_blocking (request : Request) :
    Attains (set.IsDefinedOn request.query.host) (set.tryBlocking request)
      (set.blocking? request) := by
  have options := set.attains_documentOptions (request.document.getD "")
  rw [host_documentQuery] at options
  -- The query without generic rules is about the same host.
  exact options.bind ((set.blocking.attains_ruleBy _ _).mono (·.blocking))

/-- A request is judged where the host of its document can be held against all rules. -/
theorem attains_judge (request : Request) :
    Attains (set.IsDefinedOn request.query.host) (set.tryJudge request) (set.judge request) := by
  rw [judge, tryJudge]
  split
  · exact Attains.some Verdict.unmatched
  · have document := (set.attains_documentRules (request.document.getD "")).map
      (·.find? fun rule => rule.options.has .urlBlock)
    rw [host_documentQuery] at document
    -- The document, the exceptions and the blocking rules are looked up one after the other.
    exact document.bind ((set.attains_exception request).bind
      ((set.attains_blocking request).bind (.some _)))

/-- The directives for a request are found where the host of its document can be held against all rules. -/
theorem attains_cspRules (request : Request) :
    Attains (set.IsDefinedOn request.query.host) (set.tryCspRules request) (set.cspRules request) := by
  have exceptions := (set.cspExceptions.attains_rulesFor request.query).mono
    fun defined : set.IsDefinedOn request.query.host => defined.cspExceptions
  have rules := (set.csp.attains_rulesFor request.query).mono
    fun defined : set.IsDefinedOn request.query.host => defined.csp
  rw [cspRules, tryCspRules]
  cases isFramed : request.types.meets framed with
  | false => exact .some []
  | true =>
    refine exceptions.bind ?_
    -- An exception without a directive is enough to have nothing found.
    cases (set.cspExceptions.rulesFor request.query).any (·.csp.all String.isEmpty) with
    | true => exact .some []
    | false => exact rules.bind (.some _)

/-- What is put into a page is found where its host can be held against all rules. -/
theorem attains_cosmetics (url : String) :
    Attains (set.IsDefinedOn (documentQuery url).host) (set.tryCosmetics url) (set.cosmetics url) := by
  have options := set.attains_documentOptions url
  rw [cosmetics, tryCosmetics]
  cases hosted : Url.lowerHost? url with
  | none => exact Attains.some (A := CosmeticResult) {}
  | some host =>
    rw [host_documentQuery_of_lowerHost? hosted] at options ⊢
    -- Each part of the page is looked for in a table of its own, unless it is switched off.
    have styles := (set.styles.attains_activeOn host ((set.documentOptions url).has .elemHide) fun rule =>
      !(set.documentOptions url).has .genericHide || !rule.isGeneric).mono
        fun defined : set.IsDefinedOn host => defined.styles
    have scripts := (set.scripts.attains_activeOn_all host ((set.documentOptions url).has .jsInject)).mono
      fun defined : set.IsDefinedOn host => defined.scripts
    have scriptlets := (set.scriptlets.attains_activeOn_all host
      ((set.documentOptions url).has .jsInject)).mono
        fun defined : set.IsDefinedOn host => defined.scriptlets
    refine options.bind (styles.bind (scripts.bind (scriptlets.bind ?_)))
    simp only [styleRules, List.partition_eq_filter_filter]
    cases (set.documentOptions url).has .jsInject with
    | true => exact .some _
    | false => exact .some _

/-- The rules about the content of a page are found where its host can be held against all rules. -/
theorem attains_contentRules (url : String) :
    Attains (set.IsDefinedOn (documentQuery url).host) (set.tryContentRules url)
      (set.contentRules url) := by
  have options := set.attains_documentOptions url
  rw [contentRules, tryContentRules]
  cases hosted : Url.lowerHost? url with
  | none => exact .some []
  | some host =>
    -- The options are those of a document on the host of the page.
    rw [host_documentQuery_of_lowerHost? hosted] at options ⊢
    exact options.bind ((set.contents.attains_activeOn_all host _).mono (·.contents))

/-- The page at an address is put together under a condition; the program may stop without it, but gives no
other page. -/
structure GivesPage (set : RuleSet) (sure : Prop) (url : String) : Prop where
  cosmetics : Attains sure (set.tryCosmetics url) (set.cosmetics url)
  contents : Attains sure (set.tryContentRules url) (set.contentRules url)

/-- A page is put together where its host can be held against all rules, those of the list among them. -/
theorem givesPage_ofList {rules fewer : List Rule} (inside : fewer ⊆ rules) (url : String) :
    (ofList fewer).GivesPage (Rule.DefinedOn rules (documentQuery url).host) url where
  cosmetics := ((ofList fewer).attains_cosmetics url).mono fun defined =>
    isDefinedOn_ofList (defined.mono inside)
  contents := ((ofList fewer).attains_contentRules url).mono fun defined =>
    isDefinedOn_ofList (defined.mono inside)

end RuleSet

/-- A request is answered where the host of its document can be held against all rules. -/
theorem Engine.attains_answer (engine : Engine) (request : Request) :
    Attains (engine.rules.IsDefinedOn request.query.host) (engine.tryAnswer request)
      (engine.answer request) := by
  rw [answer, tryAnswer]
  split
  · exact .some _
  -- An answer from memory needs no rule, and any other one is judged.
  · split
    · exact .some _
    · exact (engine.rules.attains_judge request).map _

end AdFilter
