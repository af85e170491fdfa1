import AdFilter.Proofs.RuleSet.PageRules
import AdFilter.Proofs.RuleSet.Verdict
import AdFilter.RuleSet.Page
import AdFilter.RuleSet.Verdict

/-! What is put into a page and removed from it comes from four rows of rules, one for each kind. -/

namespace AdFilter

/-- The kinds of rules for pages. -/
inductive PageKind
  | style
  | script
  | scriptlet
  | content
  deriving DecidableEq

namespace Rule

/-- What an exception shares with the rules it is for; rules about requests have nothing of the sort. -/
def pageKey? : Rule → Option (PageKind × String)
  | network _ => none
  | content rule => some (.content, PageRule.key rule)
  | scriptlet rule => some (.scriptlet, PageRule.key rule)
  | style rule => some (.style, PageRule.key rule)
  | script rule => some (.script, PageRule.key rule)

/-- The rules of a list that are for pages. -/
def forPages (rules : List Rule) : List Rule := rules.filter (·.pageKey?.isSome)

/-- The list without the rules of one kind that have a key; exceptions stay. -/
def withoutKey (name : PageKind × String) (rules : List Rule) : List Rule :=
  rules.filter fun rule => rule.info.isException || rule.pageKey? != some name

/-- Rules of one kind, as they are told from rules of any kind. -/
structure Reads (R : Type) [PageRule R] (kind : PageKind) (read : Rule → Option R) : Prop where
  key : ∀ rule, (read rule).map (fun r => (kind, PageRule.key r)) = rule.pageKey?.filter (·.1 == kind)
  info : ∀ rule, ∀ r ∈ read rule, PageRule.info r = rule.info
  domains : ∀ rule, ∀ r ∈ read rule, PageRule.domains r = rule.domains

theorem reads_style : Reads StyleRule .style style? := by
  -- A rule of another kind is read as nothing, and has no key of this kind.
  constructor <;> rintro (_ | _ | _ | _ | _) <;> simp [style?, pageKey?, Rule.info, Rule.domains,
    PageRule.info, PageRule.domains, Option.filter]

theorem reads_script : Reads ScriptRule .script script? := by
  constructor <;> rintro (_ | _ | _ | _ | _) <;> simp [script?, pageKey?, Rule.info, Rule.domains,
    PageRule.info, PageRule.domains, Option.filter]

theorem reads_scriptlet : Reads ScriptletRule .scriptlet scriptlet? := by
  constructor <;> rintro (_ | _ | _ | _ | _) <;> simp [scriptlet?, pageKey?, Rule.info, Rule.domains,
    PageRule.info, PageRule.domains, Option.filter]

theorem reads_content : Reads ContentRule .content content? := by
  constructor <;> rintro (_ | _ | _ | _ | _) <;> simp [content?, pageKey?, Rule.info, Rule.domains,
    PageRule.info, PageRule.domains, Option.filter]

namespace Reads

variable {R : Type} [PageRule R] {kind : PageKind} {read : Rule → Option R}
  {rules before after : List Rule} {added rule : Rule} {r : R}

/-- A rule that is read has its kind, and the key of what is read. -/
theorem pageKey?_of_some (reads : Reads R kind read) (found : read rule = some r) :
    rule.pageKey? = some (kind, PageRule.key r) := by
  -- Both ways to the key lead to the same one.
  have keys := reads.key rule
  rw [found, Option.map_some] at keys
  exact (Option.filter_eq_some_iff.mp keys.symm).1

/-- A rule that is not read has another kind, if any. -/
theorem pageKey?_of_none (reads : Reads R kind read) (missing : read rule = none) (name : String) :
    rule.pageKey? ≠ some (kind, name) := by
  -- With the key it would be of the kind, and would have been read.
  have keys := reads.key rule
  rw [missing, Option.map_none] at keys
  intro same
  simp [same, Option.filter] at keys

omit [PageRule R] in
/-- What is not read may as well leave the list. -/
theorem filterMap_filter (keep : Rule → Bool) (kept : ∀ rule, (read rule).isSome → keep rule = true) :
    (rules.filter keep).filterMap read = rules.filterMap read := by
  rw [List.filterMap_filter]
  refine List.filterMap_congr fun rule _ => ?_
  -- A rule that is not kept is not read as anything.
  cases found : read rule with
  | none => simp
  | some r => simp [kept rule (by simp [found])]

/-- Rules of one kind are read from the rules for pages. -/
theorem filterMap_forPages (reads : Reads R kind read) (rules : List Rule) :
    (forPages rules).filterMap read = rules.filterMap read := by
  refine filterMap_filter _ fun rule found => ?_
  -- What is read has a key, so it is for pages.
  obtain ⟨r, found⟩ := Option.isSome_iff_exists.mp found
  simp [reads.pageKey?_of_some found]

/-- Lists with the same rules for pages have the same ones of each kind. -/
theorem filterMap_congr {others : List Rule} (reads : Reads R kind read)
    (same : forPages others = forPages rules) : others.filterMap read = rules.filterMap read := by
  -- The rules of a kind are read from those for pages only.
  rw [← reads.filterMap_forPages others, same, reads.filterMap_forPages]

/-- An exception leaves out the rules of its kind with its key where it holds. -/
theorem activeOn_insert (reads : Reads R kind read) (excepting : added.info.isException = true)
    (host : String) :
    (PageRules.ofList ((before ++ added :: after).filterMap read)).activeOn host =
      ((PageRules.ofList ((before ++ after).filterMap read)).activeOn host).filter fun rule =>
        !(added.pageKey? == some (kind, PageRule.key rule) && added.domains.permits host) := by
  simp only [List.filterMap_append]
  cases found : read added with
  | none =>
    -- An exception of another kind is for none of the rules.
    rw [List.filterMap_cons_none found, eq_comm, List.filter_eq_self]
    intro rule _
    simp [reads.pageKey?_of_none found]
  | some r =>
    -- One of this kind is among the rules that are read, as an exception still.
    have excepting : (PageRule.info r).isException = true := by
      rw [reads.info added r found, excepting]
    rw [List.filterMap_cons_some found, PageRules.activeOn_insert excepting,
      reads.domains added r found, reads.pageKey?_of_some found]
    refine List.filter_congr fun rule _ => ?_
    rw [Bool.eq_iff_iff]
    simp [@eq_comm _ (PageRule.key r)]

/-- The rules of a kind with a key leave the rules that apply, if they leave the list. -/
theorem activeOn_withoutKey (reads : Reads R kind read) (rules : List Rule)
    (name : PageKind × String) (host : String) :
    (PageRules.ofList ((withoutKey name rules).filterMap read)).activeOn host =
      ((PageRules.ofList (rules.filterMap read)).activeOn host).filter fun rule =>
        name != (kind, PageRule.key rule) := by
  obtain ⟨other, key⟩ := name
  by_cases same : other = kind
  · subst same
    -- What leaves the list are the rules with the key that are no exceptions.
    have left : (withoutKey (other, key) rules).filterMap read = (rules.filterMap read).filter
        fun r => (PageRule.info r).isException || PageRule.key r != key := by
      rw [withoutKey, List.filterMap_filter, List.filter_filterMap]
      refine List.filterMap_congr fun rule _ => ?_
      cases found : read rule with
      | none => simp
      | some r =>
        rw [reads.pageKey?_of_some found, ← reads.info rule r found]
        simp [Option.filter, bne]
    rw [left, PageRules.activeOn_filter]
    refine List.filter_congr fun rule _ => ?_
    simp [bne, eq_comm]
  · -- Rules of another kind are not read.
    rw [withoutKey, filterMap_filter, eq_comm, List.filter_eq_self]
    · intro rule _
      simp [same]
    · intro rule found
      obtain ⟨r, found⟩ := Option.isSome_iff_exists.mp found
      simp [reads.pageKey?_of_some found, Ne.symm same]

end Reads

/-- Rules that are for pages cancel nothing, so the rules about requests alone say what is cancelled. -/
theorem filterMap_cancels_eq (rules : List Rule) :
    rules.filterMap cancels = (rules.filterMap network?).filterMap (·.cancels) := by
  -- Rule by rule: what is no rule about requests is dropped on both sides.
  rw [List.filterMap_filterMap]
  refine List.filterMap_congr fun rule _ => ?_
  cases rule <;> rfl

/-- What is not cancelled follows from the rules about requests. -/
theorem uncancelled_congr {rules others : List Rule}
    (same : rules.filterMap network? = others.filterMap network?) :
    uncancelled rules = uncancelled others := by
  simp only [uncancelled, filterMap_cancels_eq, same]

end Rule

/-- Rules for one page, kind by kind. -/
structure PageRow where
  styles : List StyleRule := []
  scripts : List ScriptRule := []
  scriptlets : List ScriptletRule := []
  contents : List ContentRule := []

namespace PageRow

/-- What the options of a document leave of the rules for it. -/
def allowedBy (row : PageRow) (options : OptionSet) : PageRow where
  styles := if options.has .elemHide then []
    else row.styles.filter fun rule => !options.has .genericHide || !rule.isGeneric
  scripts := if options.has .jsInject then [] else row.scripts
  scriptlets := if options.has .jsInject then [] else row.scriptlets
  contents := if options.has .content then [] else row.contents

/-- What the rules put into the page. -/
def cosmetics (row : PageRow) : CosmeticResult where
  css := Stylesheet.build (row.styles.filter (!·.isExtended))
  extendedCss := Stylesheet.build (row.styles.filter (·.isExtended))
  scripts := row.scripts.map (·.script)
  scriptlets := row.scriptlets.flatMap (·.calls)

end PageRow

namespace RuleSet

variable {rules others : List Rule}

/-- The rules that apply on a host, whatever the options of the document. -/
def activeOn (set : RuleSet) (host : String) : PageRow where
  styles := set.styles.activeOn host
  scripts := set.scripts.activeOn host
  scriptlets := set.scriptlets.activeOn host
  contents := set.contents.activeOn host

/-- The rules in force on the page at an address; none if that has no host. -/
def inForce (set : RuleSet) (url : String) : PageRow :=
  match Url.lowerHost? url with
  | none => {}
  | some host => (set.activeOn host).allowedBy (set.documentOptions url)

/-- The rules in force are all that matters to a page. -/
theorem page_eq (set : RuleSet) (url : String) :
    set.cosmetics url = (set.inForce url).cosmetics ∧ set.contentRules url = (set.inForce url).contents := by
  simp only [cosmetics, contentRules, inForce, PageRow.cosmetics]
  cases Url.lowerHost? url with
  -- A page without a host has nothing put in and nothing removed.
  | none => exact ⟨rfl, rfl⟩
  | some host =>
    refine ⟨?_, rfl⟩
    simp only [List.partition_eq_filter_filter, PageRow.allowedBy, activeOn, styleRules]
    -- No script at all makes no line, and no scriptlet makes no call.
    cases (set.documentOptions url).has .jsInject <;> simp [Function.comp_def]

/-- The rules of each kind that apply are those of that kind in the list. -/
theorem activeOn_ofList (rules : List Rule) (host : String) :
    (ofList rules).activeOn host =
      { styles := (PageRules.ofList (rules.filterMap Rule.style?)).activeOn host
        scripts := (PageRules.ofList (rules.filterMap Rule.script?)).activeOn host
        scriptlets := (PageRules.ofList (rules.filterMap Rule.scriptlet?)).activeOn host
        contents := (PageRules.ofList (rules.filterMap Rule.content?)).activeOn host } := rfl

/-- The indices are picked from the rules about requests, and follow from those. -/
theorem indices_congr (same : rules.filterMap Rule.network? = others.filterMap Rule.network?) :
    (ofList rules).blocking = (ofList others).blocking ∧
      (ofList rules).exceptions = (ofList others).exceptions ∧
      (ofList rules).csp = (ofList others).csp ∧
      (ofList rules).cspExceptions = (ofList others).cspExceptions := by
  obtain ⟨blocking, exceptions, csp, cspExceptions⟩ := ofList_picks rules
  obtain ⟨blocking', exceptions', csp', cspExceptions'⟩ := ofList_picks others
  -- Each of the four tables is built from the rules about requests alone.
  simp only [blocking, exceptions, csp, cspExceptions, blocking', exceptions', csp', cspExceptions',
    Rule.uncancelled_congr same, and_self]

/-- The options of documents follow from the rules about requests. -/
theorem documentOptions_congr (same : rules.filterMap Rule.network? = others.filterMap Rule.network?)
    (url : String) : (ofList rules).documentOptions url = (ofList others).documentOptions url := by
  simp only [documentOptions, documentRules, (indices_congr same).2.1]

/-- The answers about requests follow from the rules about requests, and so does whether there are any. -/
theorem requests_congr (same : rules.filterMap Rule.network? = others.filterMap Rule.network?)
    (request : Request) :
    (ofList rules).tryJudge request = (ofList others).tryJudge request ∧
      (ofList rules).judge request = (ofList others).judge request ∧
      (ofList rules).tryCspRules request = (ofList others).tryCspRules request ∧
      (ofList rules).cspRules request = (ofList others).cspRules request := by
  obtain ⟨blocking, exceptions, csp, cspExceptions⟩ := indices_congr same
  -- Requests are judged by these four tables and nothing else.
  simp only [tryJudge, tryException, tryRequestsAllowed, tryBlocking, tryDocumentOptions,
    tryDocumentRules, judge, exception?, requestsAllowed?, blocking?, documentOptions, documentRules,
    tryCspRules, cspRules, blocking, exceptions, csp, cspExceptions, and_self]

end RuleSet

/-- A rule that hides elements, on all sites or on some. -/
def hidingRule (selector : String) (domains : List String) (isException : Bool) : StyleRule where
  info := ⟨selector, 1, isException⟩
  selector
  isInject := false
  isExtended := false
  domains := ⟨domains, []⟩

end AdFilter
