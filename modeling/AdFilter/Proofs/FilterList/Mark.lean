import AdFilter.Proofs.Content.Mark
import AdFilter.Proofs.FilterList.Parser

/-!
The mark behind the domains says what a line of a list is, unless a mark that is looked for earlier stands
further behind.
-/

namespace AdFilter.FilterList

/-- The marks behind the domains of rules for pages. -/
inductive Mark
  | cosmetic (mark : Cosmetic.Mark)
  | content

namespace Mark

variable {mark : Mark} {isException : Bool} {before body : List Char}

/-- How a mark is written, for exceptions and for other rules. -/
def text : Mark → (isException : Bool) → String
  | cosmetic mark => mark.text
  | content => Content.markText

/-- A line with a mark between the domains and the body. -/
def line (mark : Mark) (isException : Bool) (before body : List Char) : List Char :=
  before ++ (mark.text isException).toList ++ body

/-- The rule of a line with a mark, from what stands before the mark and behind it. -/
def ruleAt (mark : Mark) (isException : Bool) (before body : List Char) (filterId : Nat) :
    Except RuleError Rule :=
  match mark with
  | cosmetic mark => mark.ruleAt isException before body filterId
  | content => (Content.ruleAt isException before body filterId).map .content

/-- The marks that are looked for in the whole line before a mark is. -/
def earlier : Mark → (isException : Bool) → List String
  | cosmetic .script, _ => []
  | cosmetic (.style _ _), _ => Cosmetic.scriptMarks
  | content, true => Cosmetic.scriptMarks ++ Cosmetic.styleMarks
  | content, false => Cosmetic.scriptMarks ++ Cosmetic.styleMarks ++ ["$@$"]

/-- No mark that is looked for earlier stands in what begins with the mark. -/
def Leads (mark : Mark) (isException : Bool) (body : List Char) : Prop :=
  ∀ other ∈ mark.earlier isException, ¬ other.toList <:+: (mark.text isException).toList ++ body

/-- White space behind the body has no part in a mark. -/
theorem Leads.trimEnd (leads : mark.Leads isException body) :
    mark.Leads isException (Text.trimEnd body) := fun other member inside =>
  -- What stands in the body once its end is cut off stands in the whole of it.
  leads other member (inside.trans
    ((List.prefix_append_right_inj _).mpr (Text.trimEnd_prefix body)).isInfix)

/-- Marks that are looked for earlier are not found. -/
theorem Leads.isSome_cutMark? {marks : List String} (leads : mark.Leads isException body)
    (opens : Cosmetic.OpenWith '#' marks) (unmarked : '#' ∉ before)
    (among : marks ⊆ mark.earlier isException) :
    (Cosmetic.cutMark? marks (String.ofList (mark.line isException before body)).toList).isSome =
      false := by
  -- The domains hold no such mark, and neither does anything behind them.
  rw [String.toList_ofList, line, List.append_assoc, Cosmetic.cutMark?_append opens unmarked,
    (Cosmetic.cutMark?_eq_none_iff opens).mpr fun other member => leads other (among member)]
  rfl

/-- A mark of rules that put something into a page is found among those that are looked for with it. -/
theorem isSome_cutMark?_siblings (mark : Cosmetic.Mark) (isException : Bool) (unmarked : '#' ∉ before)
    (body : List Char) : (Cosmetic.cutMark? mark.siblings
      (String.ofList ((cosmetic mark).line isException before body)).toList).isSome = true := by
  rw [String.toList_ofList]
  exact Option.isSome_of_eq_some (mark.cutMark?_line isException unmarked body)

/-- A line with a mark of rules about content is one about content. -/
theorem isContentRule_line (isException : Bool) (before body : List Char) :
    Content.isContentRule (String.ofList (content.line isException before body)) = true := by
  -- Either mark about content will do, and the one of this line stands behind its domains.
  rw [Content.isContentRule, String.toList_ofList, Bool.or_eq_true, Text.contains_iff,
    Text.contains_iff]
  cases isException with
  | true => exact .inr ⟨before, body, rfl⟩
  | false => exact .inl ⟨before, body, rfl⟩

/-- White space is cut off in front of the domains and behind the body. -/
theorem trim_line (mark : Mark) (isException : Bool) (before body : List Char) :
    Text.trim (mark.line isException before body) =
      mark.line isException (Text.trimStart before) (Text.trimEnd body) :=
  -- Both families of marks begin and end with a sign that is not white space.
  match mark with
  | cosmetic mark => mark.trim_line isException before body
  | content => Content.trim_line isException before body

/-- A line begins as its domains do, or as its mark does if there are none. -/
theorem head?_line (mark : Mark) (isException : Bool) (before body : List Char) :
    ∃ c, (mark.line isException before body).head? = some c ∧
      (before.head? = some c ∨ c = '#' ∨ c = '$') := by
  -- Nothing but the mark can come first where no domains are named.
  cases before with
  | cons c before => exact ⟨c, rfl, .inl rfl⟩
  | nil =>
    cases mark with
    | cosmetic mark =>
      obtain ⟨inside, chars⟩ := mark.exists_toList_text isException
      exact ⟨'#', by simp [line, text, chars], by simp⟩
    -- Both marks about content begin with a dollar sign.
    | content => exact ⟨'$', by cases isException <;> rfl, by simp⟩

/-- A line with a mark is neither blank nor a comment, if its domains do not begin like one. -/
theorem isEmpty_or_isComment_line (mark : Mark) (isException : Bool) (body : List Char)
    (starts : ∀ c ∈ before.head?, c ≠ '!' ∧ c ≠ '[') :
    ((mark.line isException before body).isEmpty || isComment (mark.line isException before body)) =
      false := by
  obtain ⟨c, head, which⟩ := mark.head?_line isException before body
  have filled : (mark.line isException before body).isEmpty = false := by
    rw [List.isEmpty_eq_false_iff_exists_mem]
    exact ⟨c, List.mem_of_mem_head? head⟩
  -- Neither kind of mark begins like a comment, and the domains do not by assumption.
  have apart : c ≠ '!' ∧ c ≠ '[' := by
    rcases which with begins | rfl | rfl
    · exact starts c begins
    · decide
    · decide
  simp [filled, isComment, head, apart]

/-- What compiles the lines with a mark finds the rule at the mark. -/
theorem Leads.compile_content (leads : content.Leads isException body) (absent : '$' ∉ before)
    (filterId : Nat) :
    (Content.compile (String.ofList (content.line isException before body)) filterId).map
        Rule.content =
      content.ruleAt isException (Text.trimStart before) (Text.trimEnd body) filterId :=
  -- Only a mark of no exception has to fear that of exceptions further behind.
  congrArg (·.map Rule.content) <| Content.compile_line isException absent filterId <| by
    rintro rfl
    exact leads.trimEnd "$@$" (by simp [earlier])

end Mark

/--
The mark behind the domains decides what a line is: its rule, or its error, is the one at this mark.

It is the one for the domains before the mark and the body behind it, of the kind that the mark is for, and
an exception if the mark is. This is so whatever the body is, as long as no mark stands in it that is
looked for earlier in the whole line: that of script in a line about style or content, that of style in
one about content, and that of its exceptions in any other line about content.
-/
theorem parseLine_mark (mark : Mark) (isException : Bool) (before body : List Char) (filterId : Nat)
    (plain : '#' ∉ before ∧ '$' ∉ before)
    (starts : ∀ c ∈ before.head?, Text.isBlank c = false ∧ c ≠ '!' ∧ c ≠ '[')
    (leads : mark.Leads isException body) :
    parseLine (mark.line isException before body) filterId =
      (mark.ruleAt isException before (Text.trimEnd body) filterId).map some := by
  obtain ⟨unmarked, absent⟩ := plain
  -- The domains are not blank in front, so nothing but the end of the body is cut off.
  have kept : Text.trimStart before = before := by
    cases before with
    | nil => rfl
    | cons c before => simp [Text.trimStart, (starts c rfl).1]
  have said := mark.isEmpty_or_isComment_line isException (Text.trimEnd body)
    fun c begins => (starts c begins).2
  simp only [parseLine, mark.trim_line, kept, said, Bool.false_eq_true, if_false]
  -- The marks are looked for in a fixed order; for each one, those before it are not found.
  cases mark with
  | cosmetic mark =>
    have found := Mark.isSome_cutMark?_siblings mark isException unmarked (Text.trimEnd body)
    have compiled := mark.compile_line isException unmarked (Text.trimEnd body) filterId
    rw [kept, Text.trimEnd_trimEnd] at compiled
    cases mark with
    -- The marks of script are looked for first, whatever else stands in the line.
    | script => exact (if_pos found).trans (congrArg (·.map some) compiled)
    | style inject extended =>
      have silent := leads.trimEnd.isSome_cutMark? Cosmetic.openWith_scriptMarks unmarked
        (List.Subset.refl _)
      rw [Cosmetic.isScriptRule, silent, if_neg Bool.false_ne_true, Cosmetic.isStyleRule]
      exact (if_pos found).trans (congrArg (·.map some) compiled)
  | content =>
    have noScript := leads.trimEnd.isSome_cutMark? Cosmetic.openWith_scriptMarks unmarked
      (by cases isException <;> simp [Mark.earlier])
    have noStyle := leads.trimEnd.isSome_cutMark? Cosmetic.openWith_styleMarks unmarked
      (by cases isException <;> simp [Mark.earlier])
    have compiled := leads.trimEnd.compile_content absent filterId
    rw [kept, Text.trimEnd_trimEnd] at compiled
    rw [Cosmetic.isScriptRule, noScript, if_neg Bool.false_ne_true, Cosmetic.isStyleRule, noStyle,
      if_neg Bool.false_ne_true, Mark.isContentRule_line, if_pos rfl, ← compiled]
    cases Content.compile _ filterId <;> rfl

/-- A body that is no call is about style. -/
theorem ruleAt_hide {isException : Bool} {before body : List Char} {domains : Domains} {filterId : Nat}
    (read : Cosmetic.domainsBefore before = .ok domains) (filled : (Text.trim body).isEmpty = false)
    (noCall : Cosmetic.isUboBody body = false) :
    (Cosmetic.Mark.style false false).ruleAt isException before body filterId =
      Cosmetic.styleRule ⟨String.ofList ((Cosmetic.Mark.style false false).line isException before body),
        filterId, isException⟩ false false body domains := by
  simp only [Cosmetic.Mark.ruleAt, Cosmetic.Mark.ruleOf, read, filled, noCall]
  rfl

/-- The rule at the mark of the line `example.org##a[id="$$"]`. -/
def hidingDollars : StyleRule where
  info := ⟨"example.org##a[id=\"$$\"]", 1, false⟩
  selector := "a[id=\"$$\"]"
  isInject := false
  isExtended := false
  domains := ⟨["example.org"], []⟩

/-- In a body about style the mark of rules about content is nothing special. -/
theorem parseLine_mark_dollars :
    ('#' ∉ "example.org".toList ∧ '$' ∉ "example.org".toList) ∧
      (∀ c ∈ "example.org".toList.head?, Text.isBlank c = false ∧ c ≠ '!' ∧ c ≠ '[') ∧
      (Mark.cosmetic (.style false false)).Leads false "a[id=\"$$\"]".toList ∧
      parseLine ((Mark.cosmetic (.style false false)).line false "example.org".toList
        "a[id=\"$$\"]".toList) 1 = .ok (some (.style hidingDollars)) := by
  have plain : '#' ∉ "example.org".toList ∧ '$' ∉ "example.org".toList := by decide
  have starts : ∀ c ∈ "example.org".toList.head?, Text.isBlank c = false ∧ c ≠ '!' ∧ c ≠ '[' := by
    rintro c ⟨⟩
    decide
  have leads : (Mark.cosmetic (.style false false)).Leads false "a[id=\"$$\"]".toList :=
    (Cosmetic.cutMark?_eq_none_iff Cosmetic.openWith_scriptMarks).mp (by cbv)
  refine ⟨plain, starts, leads, (parseLine_mark _ false _ _ 1 plain starts leads).trans ?_⟩
  -- What is compiled at the mark is computed part by part.
  have trimmed : Text.trimEnd "a[id=\"$$\"]".toList = "a[id=\"$$\"]".toList := by cbv
  have whole : String.ofList ((Cosmetic.Mark.style false false).line false "example.org".toList
      "a[id=\"$$\"]".toList) = hidingDollars.info.text := by cbv
  have domains : Cosmetic.domainsBefore "example.org".toList = .ok hidingDollars.domains := by cbv
  have made : Cosmetic.styleRule hidingDollars.info false false "a[id=\"$$\"]".toList
      hidingDollars.domains = .ok (.style hidingDollars) := by cbv
  rw [Mark.ruleAt, trimmed, ruleAt_hide domains (by decide) (by decide), whole]
  exact congrArg (·.map some) made

/-- The rule at the mark of the line `example.org##a[id="#%#"]`. -/
def hidingScriptMarks : StyleRule where
  info := ⟨"example.org##a[id=\"#%#\"]", 1, false⟩
  selector := "a[id=\"#%#\"]"
  isInject := false
  isExtended := false
  domains := ⟨["example.org"], []⟩

/-- The rule that the line is compiled to. -/
def scriptWithin : ScriptRule where
  info := ⟨"example.org##a[id=\"#%#\"]", 1, false⟩
  script := "\"]"
  domains := ⟨["example.org##a[id=\""], []⟩

/-- A mark of script in a value is taken for the mark of the line, and what stands before it for domains. -/
theorem parseLine_mark_script :
    (Mark.cosmetic (.style false false)).line false "example.org".toList "a[id=\"#%#\"]".toList =
        "example.org##a[id=\"#%#\"]".toList ∧
      (Mark.cosmetic (.style false false)).ruleAt false "example.org".toList
        "a[id=\"#%#\"]".toList 1 = .ok (.style hidingScriptMarks) ∧
      parseLine "example.org##a[id=\"#%#\"]".toList 1 = .ok (some (.script scriptWithin)) := by
  refine ⟨by cbv, ?_, ?_⟩
  · have whole : String.ofList ((Cosmetic.Mark.style false false).line false "example.org".toList
        "a[id=\"#%#\"]".toList) = hidingScriptMarks.info.text := by cbv
    have domains : Cosmetic.domainsBefore "example.org".toList = .ok hidingScriptMarks.domains := by cbv
    rw [Mark.ruleAt, ruleAt_hide domains (by decide) (by decide), whole]
    have made : Cosmetic.styleRule hidingScriptMarks.info false false "a[id=\"#%#\"]".toList
        hidingScriptMarks.domains = .ok (.style hidingScriptMarks) := by cbv
    exact made
  -- The whole line is asked for a script mark, and has one in the selector.
  · have trimmed : Text.trim "example.org##a[id=\"#%#\"]".toList =
        "example.org##a[id=\"#%#\"]".toList := by cbv
    have filled : ("example.org##a[id=\"#%#\"]".toList.isEmpty ||
        isComment "example.org##a[id=\"#%#\"]".toList) = false := by decide
    have isScript : Cosmetic.isScriptRule "example.org##a[id=\"#%#\"]" = true := by cbv
    have cut : Cosmetic.cutMark? Cosmetic.scriptMarks "example.org##a[id=\"#%#\"]".toList =
        some ("example.org##a[id=\"".toList, "#%#", "\"]".toList) := by cbv
    have domains : Cosmetic.domainsBefore "example.org##a[id=\"".toList =
        .ok ⟨["example.org##a[id=\""], []⟩ := by cbv
    have body : (Text.trim "\"]".toList).isEmpty = false := by decide
    have noCall : "//scriptlet".toList.isPrefixOf (Text.trimStart "\"]".toList) = false := by
      decide
    have blocking : ("#%#" == "#@%#") = false := by decide
    have compiled : Cosmetic.compileScript "example.org##a[id=\"#%#\"]" 1 =
        .ok (.script scriptWithin) := by
      simp only [Cosmetic.compileScript, trimmed, cut, domains, String.ofList_toList, body, noCall,
        blocking]
      rfl
    simp only [parseLine, trimmed, String.ofList_toList, filled, isScript, compiled]
    rfl

end AdFilter.FilterList
