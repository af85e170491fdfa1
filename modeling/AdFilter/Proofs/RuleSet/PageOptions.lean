import AdFilter.Proofs.RuleSet.Document
import AdFilter.Proofs.RuleSet.Page
import AdFilter.Proofs.RuleSet.Permute

/-!
What exceptions for a whole document say about its page: each of four options switches one part of it
off, and nothing else about these exceptions matters to the page.
-/

namespace AdFilter

namespace Rule

variable {rules others : List Rule}

/-- The rule is an exception for whole documents, and cancels no other. -/
def isDocumentException : Rule → Bool
  | network rule => rule.info.isException && rule.isDocumentLevel && rule.cancels.isNone
  | _ => false

/-- The list without its exceptions for whole documents. -/
def withoutDocumentExceptions (rules : List Rule) : List Rule :=
  rules.filter (!·.isDocumentException)

/-- The rule is about style on all sites: it names no domain on which it applies. -/
def isGenericStyle : Rule → Bool
  | style rule => !rule.info.isException && rule.isGeneric
  | _ => false

/-- The list without the rules about style on all sites; exceptions stay. -/
def withoutGenericStyles (rules : List Rule) : List Rule := rules.filter (!·.isGenericStyle)

/-- All exceptions for the whole document that match its address. -/
def documentExceptions (rules : List Rule) (url : String) : List NetworkRule :=
  (standing rules).filter fun rule =>
    rule.info.isException && rule.isDocumentLevel && rule.answers (RuleSet.documentQuery url)

/-- The options of all exceptions for the document at an address. -/
def documentOptions (rules : List Rule) (url : String) : OptionSet :=
  (documentExceptions rules url).foldl (fun options rule => options.union rule.options) .empty

/-- A document has the options that one of the exceptions for it has. -/
theorem has_documentOptions (rules : List Rule) (url : String) (option : RuleOption) :
    (documentOptions rules url).has option =
      (documentExceptions rules url).any (·.options.has option) := by
  rw [documentOptions, RuleSet.has_foldl_union, OptionSet.has_empty, Bool.false_or]

/-- The order of the rules does not change the options of a document. -/
theorem has_documentOptions_of_perm (same : rules.Perm others) (url : String) (option : RuleOption) :
    (documentOptions others url).has option = (documentOptions rules url).has option := by
  -- Which options there are is a matter of which exceptions there are.
  rw [has_documentOptions, has_documentOptions, Bool.eq_iff_iff, List.any_eq_true, List.any_eq_true]
  simp only [documentExceptions, List.mem_filter, mem_standing_of_perm same]

/-- Where no exception for whole documents is left, no document has any. -/
theorem documentExceptions_without (rules : List Rule) (url : String) :
    documentExceptions (withoutDocumentExceptions rules) url = [] := by
  refine List.filter_eq_nil_iff.mpr fun rule stands speaks => ?_
  obtain ⟨listed, kept⟩ := List.mem_filter.mp stands
  obtain ⟨entry, member, same⟩ := List.mem_filterMap.mp listed
  obtain ⟨_, left⟩ := List.mem_filter.mp member
  cases entry <;> cases same
  -- A rule that stands cancels nothing, so it would be one of those that left.
  simp_all [isDocumentException]

/-- Exceptions for whole documents are not for pages. -/
theorem forPages_withoutDocumentExceptions (rules : List Rule) :
    forPages (withoutDocumentExceptions rules) = forPages rules := by
  rw [forPages, forPages, withoutDocumentExceptions, List.filter_filter]
  -- No exception for documents is a rule for pages.
  refine List.filter_congr fun rule _ => ?_
  cases rule <;> simp [pageKey?, isDocumentException]

end Rule

namespace PageRow

/-- Without options everything is allowed. -/
@[simp] theorem allowedBy_empty (row : PageRow) : row.allowedBy .empty = row := by
  simp [allowedBy]

/-- The rules without those about style on all sites. -/
def specific (row : PageRow) : PageRow :=
  { row with styles := row.styles.filter (!·.isGeneric) }

/-- What the options of a document leave of what the rules put into it. -/
theorem cosmetics_allowedBy (row : PageRow) (options : OptionSet) :
    let styled := if options.has .genericHide then row.specific.cosmetics else row.cosmetics
    (row.allowedBy options).cosmetics =
      { css := if options.has .elemHide then [] else styled.css
        extendedCss := if options.has .elemHide then [] else styled.extendedCss
        scripts := if options.has .jsInject then [] else row.cosmetics.scripts
        scriptlets := if options.has .jsInject then [] else row.cosmetics.scriptlets } := by
  have nothing : Stylesheet.build [] = [] := rfl
  simp only [allowedBy, cosmetics, specific]
  -- Each option is set or not, and each part of the page heeds its own.
  cases options.has .elemHide <;> cases options.has .genericHide <;>
    cases options.has .jsInject <;> simp [nothing]

/-- Two rows have the same rules, in whatever order. -/
structure Reorders (row other : PageRow) : Prop where
  styles : row.styles.Perm other.styles
  scripts : row.scripts.Perm other.scripts
  scriptlets : row.scriptlets.Perm other.scriptlets
  contents : row.contents.Perm other.contents

end PageRow

namespace RuleSet

variable {rules others : List Rule}

/-- The options that are found for a document are those of all exceptions that match it. -/
theorem documentOptions_eq (compiled : Rule.Compiled rules) {url : String} (address : url ≠ "") :
    (ofList rules).documentOptions url = Rule.documentOptions rules url := by
  -- The query of the document is the one of a request without anything else.
  have found := documentRules_eq compiled ⟨"", some url, .empty⟩
  simp only [Option.getD_some] at found
  simp only [documentOptions, Rule.documentOptions, found, Request.documentExceptions,
    Rule.documentExceptions, Option.getD_some, bne_iff_ne.mpr address, Bool.and_true]

/-- The rules for pages alone say which of them apply on a host. -/
theorem activeOn_congr (same : Rule.forPages others = Rule.forPages rules) (host : String) :
    (ofList others).activeOn host = (ofList rules).activeOn host := by
  -- Each of the four kinds is read off the rules for pages.
  simp only [activeOn_ofList, Rule.reads_style.filterMap_congr same,
    Rule.reads_script.filterMap_congr same, Rule.reads_scriptlet.filterMap_congr same,
    Rule.reads_content.filterMap_congr same]

/-- An address with a host is not empty. -/
theorem ne_of_lowerHost? {url host : String} (hosted : Url.lowerHost? url = some host) : url ≠ "" := by
  rintro rfl
  -- The empty address has no host.
  cases hosted

/-- The options of a document are heeded on the page that it has without the exceptions for it; of the
list nothing but its rules for pages matters to that page. -/
theorem inForce_eq_allowedBy (compiled : Rule.Compiled rules) (again : Rule.Compiled others)
    (same : Rule.forPages others = Rule.forPages rules) (url : String) :
    (ofList others).inForce url =
      ((ofList (Rule.withoutDocumentExceptions rules)).inForce url).allowedBy
        (Rule.documentOptions others url) := by
  have fewer : Rule.Compiled (Rule.withoutDocumentExceptions rules) :=
    compiled.mono List.filter_sublist.subset
  simp only [inForce]
  cases hosted : Url.lowerHost? url with
  -- Without a host nothing is in force, and nothing is left of that.
  | none => simp [PageRow.allowedBy]
  | some host =>
    have address := ne_of_lowerHost? hosted
    -- On the plain list there is no option at all.
    have unrestricted : Rule.documentOptions (Rule.withoutDocumentExceptions rules) url = .empty := by
      rw [Rule.documentOptions, Rule.documentExceptions_without, List.foldl_nil]
    simp only [documentOptions_eq again address, documentOptions_eq fewer address, unrestricted,
      PageRow.allowedBy_empty, activeOn_congr same,
      activeOn_congr (Rule.forPages_withoutDocumentExceptions rules)]

/-- Without rules about style on all sites the others are in force. -/
theorem inForce_withoutGenericStyles (rules : List Rule) (url : String) :
    (ofList (Rule.withoutGenericStyles rules)).inForce url =
      ((ofList rules).inForce url).specific := by
  -- Only rules about style leave the list.
  have kept {R : Type} (read : Rule → Option R) (apart : ∀ rule, read (.style rule) = none) :
      (Rule.withoutGenericStyles rules).filterMap read = rules.filterMap read := by
    refine Rule.Reads.filterMap_filter _ fun rule found => ?_
    cases rule with
    | style rule => simp [apart] at found
    | _ => rfl
  have requests := kept Rule.network? fun _ => rfl
  have scripts := kept Rule.script? fun _ => rfl
  have scriptlets := kept Rule.scriptlet? fun _ => rfl
  have contents := kept Rule.content? fun _ => rfl
  -- An exception stays in the list, and what it is for is what it was for before.
  have styles : (Rule.withoutGenericStyles rules).filterMap Rule.style? =
      (rules.filterMap Rule.style?).filter fun rule =>
        (PageRule.info rule).isException || !rule.isGeneric := by
    rw [Rule.withoutGenericStyles, List.filterMap_filter, List.filter_filterMap]
    refine List.filterMap_congr fun rule _ => ?_
    cases rule <;> simp [Rule.style?, Rule.isGenericStyle, PageRule.info, Option.filter]
  simp only [inForce]
  cases Url.lowerHost? url with
  | none => rfl
  | some host =>
    simp only [activeOn_ofList, scripts, scriptlets, contents, styles, PageRules.activeOn_filter,
      documentOptions_congr requests, PageRow.specific, PageRow.allowedBy, apply_ite (List.filter _),
      List.filter_nil]
    rw [List.filter_comm]

/-- What the options of a document leave of the page that it has without the exceptions for it. -/
theorem page_eq_allowed (compiled : Rule.Compiled rules) (again : Rule.Compiled others)
    (same : Rule.forPages others = Rule.forPages rules) (url : String) :
    let options := Rule.documentOptions others url
    let plain := Rule.withoutDocumentExceptions rules
    let page := (ofList plain).cosmetics url
    let styled := if options.has .genericHide
      then (ofList (Rule.withoutGenericStyles plain)).cosmetics url else page
    (ofList others).cosmetics url =
        { css := if options.has .elemHide then [] else styled.css
          extendedCss := if options.has .elemHide then [] else styled.extendedCss
          scripts := if options.has .jsInject then [] else page.scripts
          scriptlets := if options.has .jsInject then [] else page.scriptlets } ∧
      (ofList others).contentRules url =
        if options.has .content then [] else (ofList plain).contentRules url := by
  have row := inForce_eq_allowedBy compiled again same url
  -- Each part of the page is left out of the row by the option that is for it.
  constructor
  · simp only [page_eq, row, inForce_withoutGenericStyles, PageRow.cosmetics_allowedBy]
  · simp only [page_eq, row, PageRow.allowedBy]

/-- Rules in another order are in force in another order. -/
theorem inForce_perm (compiled : Rule.Compiled rules) (same : rules.Perm others) (url : String) :
    ((ofList rules).inForce url).Reorders ((ofList others).inForce url) := by
  have again : Rule.Compiled others := compiled.mono same.symm.subset
  simp only [inForce]
  cases hosted : Url.lowerHost? url with
  | none => exact ⟨.refl _, .refl _, .refl _, .refl _⟩
  | some host =>
    have address := ne_of_lowerHost? hosted
    simp only [documentOptions_eq compiled address, documentOptions_eq again address,
      PageRow.allowedBy, Rule.has_documentOptions_of_perm same]
    -- Each part is switched off in both, or its rules apply in both.
    constructor <;> dsimp only <;> split
    all_goals first
      | exact .refl _
      | exact (PageRules.activeOn_perm (same.filterMap _) host).filter _
      | exact PageRules.activeOn_perm (same.filterMap _) host

end RuleSet

/--
Each option of the exceptions for a document switches off its own part of the page, and no more.

What is hidden goes by one option, what is hidden on all sites by another, scripts by a third, and what
is removed by a fourth; otherwise the page is the one that it has without any exception for documents.
Nothing else matters about the rules for requests: a list with the same rules for pages has the same page
as far as its exceptions have the same of these options. The order of the rules does not matter to the
options, and to the page only in that it is the order of what is put in. The pages are put together where
the host of the document can be held against the domains of the rules; at another host the program may stop,
at a rule that is switched off as well, but gives no other page.
-/
theorem page_of_documentOptions (rules : List Rule) (compiled : Rule.Compiled rules) (url : String) :
    let defined := Rule.DefinedOn rules (RuleSet.documentQuery url).host
    let set := RuleSet.ofList rules
    let options := Rule.documentOptions rules url
    let plain := Rule.withoutDocumentExceptions rules
    let page := (RuleSet.ofList plain).cosmetics url
    let styled := if options.has .genericHide
      then (RuleSet.ofList (Rule.withoutGenericStyles plain)).cosmetics url else page
    (set.GivesPage defined url ∧ (RuleSet.ofList plain).GivesPage defined url ∧
      (RuleSet.ofList (Rule.withoutGenericStyles plain)).GivesPage defined url) ∧
    (set.cosmetics url).css = (if options.has .elemHide then [] else styled.css) ∧
    (set.cosmetics url).extendedCss = (if options.has .elemHide then [] else styled.extendedCss) ∧
    (set.cosmetics url).scripts = (if options.has .jsInject then [] else page.scripts) ∧
    (set.cosmetics url).scriptlets = (if options.has .jsInject then [] else page.scriptlets) ∧
    set.contentRules url =
      (if options.has .content then [] else (RuleSet.ofList plain).contentRules url) ∧
    (∀ others, Rule.Compiled others → Rule.forPages others = Rule.forPages rules →
      let other := RuleSet.ofList others
      let agrees (option : RuleOption) :=
        (Rule.documentOptions others url).has option = options.has option
      other.GivesPage (Rule.DefinedOn others (RuleSet.documentQuery url).host) url ∧
      (agrees .elemHide → agrees .genericHide →
        (other.cosmetics url).css = (set.cosmetics url).css ∧
        (other.cosmetics url).extendedCss = (set.cosmetics url).extendedCss) ∧
      (agrees .jsInject → (other.cosmetics url).scripts = (set.cosmetics url).scripts ∧
        (other.cosmetics url).scriptlets = (set.cosmetics url).scriptlets) ∧
      (agrees .content → other.contentRules url = set.contentRules url)) ∧
    ∀ others, rules.Perm others →
      (RuleSet.ofList others).GivesPage defined url ∧
      (∀ option, (Rule.documentOptions others url).has option = options.has option) ∧
      (set.inForce url).Reorders ((RuleSet.ofList others).inForce url) := by
  intro defined set options plain page styled
  -- The list itself is one of those with the same rules for pages.
  obtain ⟨put, removed⟩ := RuleSet.page_eq_allowed compiled compiled rfl url
  have gives {others : List Rule} (inside : others ⊆ rules) :
      (RuleSet.ofList others).GivesPage defined url := RuleSet.givesPage_ofList inside url
  have fewer : plain ⊆ rules := List.filter_sublist.subset
  refine ⟨⟨gives fun _ => id, gives fewer, gives fun _ member => fewer (List.mem_of_mem_filter member)⟩,
    congrArg (·.css) put, congrArg (·.extendedCss) put, congrArg (·.scripts) put,
    congrArg (·.scriptlets) put, removed, fun others again same => ?_, fun others same =>
    ⟨gives same.symm.subset, Rule.has_documentOptions_of_perm same url,
      RuleSet.inForce_perm compiled same url⟩⟩
  obtain ⟨put', removed'⟩ := RuleSet.page_eq_allowed compiled again same url
  -- What is compared follows from the options that are the same, whatever the other options are.
  refine ⟨RuleSet.givesPage_ofList (List.Subset.refl others) url, fun hide generic => ?_, fun inject => ?_,
    fun content => ?_⟩
  · simp only [set, put, put', hide, generic, options, and_self]
  · simp only [set, put, put', inject, options, and_self]
  · simp only [set, removed, removed', content, options]

/-- The exception that the line `@@example$generichide` stands for. -/
def exampleQuiet : NetworkRule :=
  { exampleSpecificOnly with
    info := ⟨"@@example$generichide", 0, true⟩
    options := .only .genericHide }

/-- The exception is what its line is compiled to. -/
theorem compile_exampleQuiet : Network.compile "@@example$generichide" 0 = .ok exampleQuiet := rfl

/-- On a page that is left to specific rules, those hide what they hide and no other does. -/
theorem page_of_documentOptions_quiet :
    let rules := [Rule.network exampleQuiet, .style (hidingRule ".ad" [] false),
      .style (hidingRule ".banner" ["example.com"] false)]
    Rule.Compiled rules ∧
      Rule.documentOptions rules "//example.com/" = .only .genericHide ∧
      ((RuleSet.ofList rules).tryCosmetics "//example.com/").map (·.css) =
        some [".banner \x7b display: none!important; \x7d\n"] := by
  intro rules
  have compiled : Rule.Compiled rules :=
    .cons compile_exampleQuiet fun _ member => by simp at member
  have defined : Rule.DefinedOn rules (RuleSet.documentQuery "//example.com/").host :=
    Rule.definedOn_of_closed (by decide +kernel) _
  have options : Rule.documentOptions rules "//example.com/" = .only .genericHide := by cbv
  obtain ⟨⟨gives, _⟩, styles, _⟩ := page_of_documentOptions rules compiled "//example.com/"
  refine ⟨compiled, options, ?_⟩
  rw [gives.cosmetics.eq_some defined, Option.map_some, styles, Option.some.injEq]
  -- One generic style goes, and the other is for this site.
  have left : Rule.withoutGenericStyles (Rule.withoutDocumentExceptions rules) =
      [.style (hidingRule ".banner" ["example.com"] false)] := rfl
  simp only [options, left]
  cbv

end AdFilter
