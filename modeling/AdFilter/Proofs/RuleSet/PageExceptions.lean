import AdFilter.Proofs.RuleSet.Page

/-! An exception for pages leaves out the rules with its key where it holds, and changes nothing else. -/

namespace AdFilter

namespace PageRow

/-- The rules without those of one kind that have a key. -/
def without (row : PageRow) (name : PageKind × String) : PageRow where
  styles := row.styles.filter fun rule => name != (.style, PageRule.key rule)
  scripts := row.scripts.filter fun rule => name != (.script, PageRule.key rule)
  scriptlets := row.scriptlets.filter fun rule => name != (.scriptlet, PageRule.key rule)
  contents := row.contents.filter fun rule => name != (.content, PageRule.key rule)

/-- The rules of a row are among those of another, in the same order. -/
structure Within (row other : PageRow) : Prop where
  styles : row.styles.Sublist other.styles
  scripts : row.scripts.Sublist other.scripts
  scriptlets : row.scriptlets.Sublist other.scriptlets
  contents : row.contents.Sublist other.contents

/-- Two rows have the same rules of one kind. -/
def AgreesOn (row other : PageRow) : PageKind → Prop
  | .style => row.styles = other.styles
  | .script => row.scripts = other.scripts
  | .scriptlet => row.scriptlets = other.scriptlets
  | .content => row.contents = other.contents

theorem Within.refl (row : PageRow) : row.Within row := ⟨.refl _, .refl _, .refl _, .refl _⟩

theorem AgreesOn.refl (row : PageRow) (kind : PageKind) : row.AgreesOn row kind := by
  cases kind <;> rfl

/-- Rules that are left out add nothing. -/
theorem without_within (row : PageRow) (name : PageKind × String) : (row.without name).Within row :=
  ⟨List.filter_sublist, List.filter_sublist, List.filter_sublist, List.filter_sublist⟩

/-- Rules of one kind are left out, and those of the others stay. -/
theorem without_agreesOn (row : PageRow) (name : PageKind × String) {kind : PageKind}
    (other : kind ≠ name.1) : (row.without name).AgreesOn row kind := by
  -- A key of another kind is not the one that is left out.
  have apart (key : String) : name ≠ (kind, key) := by
    rintro rfl
    exact other rfl
  cases kind <;> exact List.filter_eq_self.mpr fun rule _ => by simp [apart]

/-- It is the same to leave rules out before or after the options of a document are heeded. -/
theorem allowedBy_without (row : PageRow) (name : PageKind × String) (options : OptionSet) :
    (row.without name).allowedBy options = (row.allowedBy options).without name := by
  -- Where all rules of a kind are switched off there is nothing to leave out, and two filters commute.
  simp only [allowedBy, without, apply_ite (List.filter _), List.filter_nil]
  rw [List.filter_comm]

end PageRow

namespace RuleSet

variable {before after : List Rule} {added : Rule} {name : PageKind × String} {url : String}

/-- Without the rules of one kind that have a key the others are in force. -/
theorem inForce_withoutKey (rules : List Rule) (name : PageKind × String) (url : String) :
    (ofList (Rule.withoutKey name rules)).inForce url = ((ofList rules).inForce url).without name := by
  -- The rules about requests stay, and with them the options of the document.
  have requests : (Rule.withoutKey name rules).filterMap Rule.network? =
      rules.filterMap Rule.network? := by
    refine Rule.Reads.filterMap_filter _ fun rule found => ?_
    cases rule <;> simp_all [Rule.network?, Rule.pageKey?]
  unfold inForce
  cases Url.lowerHost? url with
  | none => rfl
  | some host =>
    -- For each kind of rules, the same ones are left out before and after.
    have rows : (ofList (Rule.withoutKey name rules)).activeOn host =
        ((ofList rules).activeOn host).without name := by
      simp only [activeOn_ofList, PageRow.without, Rule.reads_style.activeOn_withoutKey,
        Rule.reads_script.activeOn_withoutKey, Rule.reads_scriptlet.activeOn_withoutKey,
        Rule.reads_content.activeOn_withoutKey]
    simp only [documentOptions_congr requests, rows, PageRow.allowedBy_without]

/-- An exception for pages changes nothing in the rules about requests. -/
theorem filterMap_network?_insert (keyed : added.pageKey? = some name) :
    (before ++ added :: after).filterMap Rule.network? = (before ++ after).filterMap Rule.network? := by
  -- A rule with a key for pages is not about requests.
  cases added with
  | network rule => cases keyed
  | _ => simp [Rule.network?, List.filterMap_cons]

/-- With an exception added the rules with its key are in force no longer where it holds. -/
theorem inForce_insert (keyed : added.pageKey? = some name)
    (excepting : added.info.isException = true) {host : String}
    (hosted : Url.lowerHost? url = some host) :
    (ofList (before ++ added :: after)).inForce url =
      if added.domains.permits host then ((ofList (before ++ after)).inForce url).without name
      else (ofList (before ++ after)).inForce url := by
  -- The options of the document stay, and the exception leaves its rules out on hosts where it holds.
  have options : (ofList (before ++ added :: after)).documentOptions url =
      (ofList (before ++ after)).documentOptions url :=
    documentOptions_congr (filterMap_network?_insert keyed) url
  have rows : (ofList (before ++ added :: after)).activeOn host =
      if added.domains.permits host then ((ofList (before ++ after)).activeOn host).without name
      else (ofList (before ++ after)).activeOn host := by
    simp only [activeOn_ofList, Rule.reads_style.activeOn_insert excepting,
      Rule.reads_script.activeOn_insert excepting, Rule.reads_scriptlet.activeOn_insert excepting,
      Rule.reads_content.activeOn_insert excepting, keyed]
    -- Where the exception is silent it is as if it were not in the list.
    cases added.domains.permits host with
    | false => simp
    | true => simp [PageRow.without, bne]
  simp only [inForce, hosted, options, rows]
  cases added.domains.permits host with
  | false => rfl
  | true => exact PageRow.allowedBy_without _ _ _

end RuleSet

/--
An exception for pages changes a page just where it holds, and there by leaving rules out.

On a host on which it does not hold, the page is as without it; on one on which it does, the page is as
if all rules of its kind with its key were not in the list. It brings no rule into force, changes
nothing about rules of other kinds, and nothing about requests. The pages are put together where the host
can be held against the domains of the rules; at another host the program may stop, at a rule that the
exception takes away as well, but gives no other page.
-/
theorem page_of_exception_added (before after : List Rule) (added : Rule)
    (name : PageKind × String) (keyed : added.pageKey? = some name)
    (excepting : added.info.isException = true) (url host : String)
    (hosted : Url.lowerHost? url = some host) :
    let defined := Rule.DefinedOn (before ++ added :: after) host
    let set := RuleSet.ofList (before ++ added :: after)
    let plain := RuleSet.ofList (before ++ after)
    let fewer := RuleSet.ofList (Rule.withoutKey name (before ++ after))
    (set.GivesPage defined url ∧ plain.GivesPage defined url ∧ fewer.GivesPage defined url) ∧
    (added.domains.permits host = false →
      set.cosmetics url = plain.cosmetics url ∧ set.contentRules url = plain.contentRules url) ∧
    (added.domains.permits host = true →
      set.cosmetics url = fewer.cosmetics url ∧ set.contentRules url = fewer.contentRules url) ∧
    (set.inForce url).Within (plain.inForce url) ∧
    (∀ kind ≠ name.1, (set.inForce url).AgreesOn (plain.inForce url) kind) ∧
    ∀ request, set.tryJudge request = plain.tryJudge request ∧
      set.judge request = plain.judge request ∧
      set.tryCspRules request = plain.tryCspRules request ∧
      set.cspRules request = plain.cspRules request := by
  intro defined set plain fewer
  have gives {rules : List Rule} (inside : rules ⊆ before ++ added :: after) :
      (RuleSet.ofList rules).GivesPage defined url := by
    have page := RuleSet.givesPage_ofList inside url
    rwa [RuleSet.host_documentQuery_of_lowerHost? hosted] at page
  have rest : before ++ after ⊆ before ++ added :: after :=
    ((List.sublist_cons_self added after).append_left before).subset
  have row : set.inForce url = if added.domains.permits host then (plain.inForce url).without name
      else plain.inForce url := RuleSet.inForce_insert keyed excepting hosted
  have left : fewer.inForce url = (plain.inForce url).without name := RuleSet.inForce_withoutKey _ _ _
  -- All that is asked is read off the rules that are in force.
  simp only [RuleSet.page_eq, left, row]
  refine ⟨⟨gives fun _ => id, gives rest, gives fun _ member => rest (List.mem_of_mem_filter member)⟩,
    fun silent => by simp [silent], fun holds => by simp [holds], ?_, fun kind other => ?_,
    RuleSet.requests_congr (RuleSet.filterMap_network?_insert keyed)⟩
  · -- Rules are left out, or nothing happens.
    split
    · exact PageRow.without_within _ _
    · exact PageRow.Within.refl _
  · split
    · exact PageRow.without_agreesOn _ _ other
    · exact PageRow.AgreesOn.refl _ _

/-- An exception for one site leaves nothing hidden there, and all that was hidden elsewhere. -/
theorem page_of_exception_added_ad :
    let rules := [Rule.style (hidingRule ".ad" [] false)]
    let others := [Rule.style (hidingRule ".banner" ["example.com"] false)]
    let added := Rule.style (hidingRule ".ad" ["example.org"] true)
    let set := RuleSet.ofList (rules ++ added :: others)
    added.pageKey? = some (.style, ".ad") ∧ added.info.isException = true ∧
      Url.lowerHost? "//example.org/" = some "example.org" ∧
      Url.lowerHost? "//example.com/" = some "example.com" ∧
      added.domains.permits "example.org" = true ∧ added.domains.permits "example.com" = false ∧
      (set.tryCosmetics "//example.org/").map (·.css) = some [] ∧
      set.tryCosmetics "//example.com/" =
        (RuleSet.ofList (rules ++ others)).tryCosmetics "//example.com/" := by
  intro rules others added set
  have keyed : added.pageKey? = some (.style, ".ad") := rfl
  have there : Url.lowerHost? "//example.org/" = some "example.org" := by cbv
  have elsewhere : Url.lowerHost? "//example.com/" = some "example.com" := by cbv
  have defined (host : String) : Rule.DefinedOn (rules ++ added :: others) host :=
    Rule.definedOn_of_closed (by decide +kernel) host
  have holds : added.domains.permits "example.org" = true := by cbv
  have silent : added.domains.permits "example.com" = false := by cbv
  obtain ⟨⟨given, kept, _⟩, same, _⟩ :=
    page_of_exception_added rules others added _ keyed rfl _ _ elsewhere
  obtain ⟨⟨found, _, _⟩, _, less, _⟩ :=
    page_of_exception_added rules others added _ keyed rfl _ _ there
  refine ⟨keyed, rfl, there, elsewhere, holds, silent, ?_, ?_⟩
  swap
  · rw [given.cosmetics.eq_some (defined _), kept.cosmetics.eq_some (defined _), (same silent).1]
  rw [found.cosmetics.eq_some (defined _), (less holds).1, (RuleSet.page_eq _ _).1, Option.map_some, Option.some.injEq]
  -- What is left of the list is for another site.
  have gone : Rule.withoutKey (.style, ".ad") (rules ++ others) = others := rfl
  have apart : (PageRule.domains (hidingRule ".banner" ["example.com"] false)).permits "example.org" =
      false := by cbv
  have nothing : ((RuleSet.ofList others).inForce "//example.org/").styles = [] := by
    simp [RuleSet.inForce, there, RuleSet.activeOn_ofList, PageRow.allowedBy,
      PageRules.activeOn_ofList, others, Rule.style?, apart]
  rw [gone, PageRow.cosmetics, nothing]
  rfl

end AdFilter
