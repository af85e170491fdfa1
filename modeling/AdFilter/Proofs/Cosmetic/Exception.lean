import AdFilter.Proofs.Cosmetic.Mark
import AdFilter.Proofs.Network.Compile
import AdFilter.Proofs.Scriptlet.Ubo

/-!
A rule that puts something into a page has an exception with the same body: the mark for exceptions
changes what the rule carries about its line, and nothing else.
-/

namespace AdFilter

/-- The rule as if it stood for another line. -/
def Rule.withInfo (info : RuleInfo) : Rule → Rule
  | network rule => network { rule with info }
  | content rule => content { rule with info }
  | scriptlet rule => scriptlet { rule with info }
  | style rule => style { rule with info }
  | script rule => script { rule with info }

/-- The rule carries what it is given. -/
theorem Rule.info_withInfo (info : RuleInfo) (rule : Rule) : (rule.withInfo info).info = info := by
  cases rule <;> rfl

namespace Cosmetic

variable {info : RuleInfo}

/-- The second computation fails if the first does, and else yields the same rule for another line. -/
def SameBut (info : RuleInfo) (first second : Except RuleError Rule) : Prop :=
  second.toOption = first.toOption.map (·.withInfo info)

namespace SameBut

/-- What comes last may depend on the line. -/
theorem bind {A : Type} (first : Except RuleError A) {next other : A → Except RuleError Rule}
    (each : ∀ a, SameBut info (next a) (other a)) : SameBut info (first >>= next) (first >>= other) := by
  -- The first step is the same for both, so only what follows can differ.
  cases first with
  | error error => rfl
  | ok a => exact each a

/-- Two errors are no rules, whatever they say. -/
theorem error (first second : RuleError) : SameBut info (.error first) (.error second) := rfl

end SameBut

/-- A scriptlet rule is the same for another line, if that has the same calls. -/
theorem scriptletRule_sameBut {dialect : Dialect} {source other : List Char}
    (same : Scriptlet.parse? dialect (String.ofList other) =
      Scriptlet.parse? dialect (String.ofList source)) (former : RuleInfo) (body : List Char)
    (domains : Domains) :
    SameBut info (scriptletRule former dialect source body domains)
      (scriptletRule info dialect other body domains) := by
  simp only [SameBut, scriptletRule, same]
  -- A call that is not understood is an error on both sides, with a text of its own on each.
  cases Scriptlet.parse? dialect (String.ofList source) <;> rfl

/-- A style rule is the same for another line. -/
theorem styleRule_sameBut (former : RuleInfo) (inject extended : Bool) (content : List Char)
    (domains : Domains) :
    SameBut info (styleRule former inject extended content domains)
      (styleRule info inject extended content domains) := by
  unfold styleRule
  simp only
  -- The line is part of one error and of the rule, and of nothing that is decided on.
  repeat' first
    | exact .error _ _
    | rfl
    | refine .bind _ fun _ => ?_
    | split

namespace Mark

/-- The calls of a body are found behind a mark as they are found behind that for exceptions. -/
def ReadsAlike (mark : Mark) (before body : List Char) : Prop :=
  mark = style false false → isUboBody body = true →
    "+js(".toList <+: body ∧ ¬ "+js".toList <:+: before

variable {mark : Mark} {before body : List Char}

/-- What is read of the dialect of uBO begins behind the mark. -/
theorem afterMark?_line (isException : Bool) (unmarked : '#' ∉ before)
    (called : "+js(".toList <+: body) (plain : ¬ "+js".toList <:+: before) :
    Scriptlet.Ubo.afterMark? ((style false false).line isException before body) =
      some (body.drop 3) := by
  obtain ⟨rest, rfl⟩ := called
  -- Behind the domains neither mark is one of the dialect, and the body begins with one.
  cases isException <;>
  · simp only [line, List.append_assoc]
    exact (Scriptlet.Ubo.afterMark?_append unmarked plain).trans rfl

/-- The rules at a mark and at that for exceptions say the same but for their lines. -/
theorem ruleAt_sameBut (unmarked : '#' ∉ before) (alike : mark.ReadsAlike before body) (filterId : Nat)
    (isException otherwise : Bool) :
    SameBut ⟨String.ofList (mark.line otherwise before body), filterId, otherwise⟩
      (mark.ruleAt isException before body filterId) (mark.ruleAt otherwise before body filterId) := by
  refine .bind _ fun domains => ?_
  split
  · exact .error _ _
  · cases mark with
    | script =>
      unfold ruleOf
      dsimp only
      split
      · exact scriptletRule_sameBut rfl _ _ _
      · rfl
    | style inject extended =>
      unfold ruleOf
      dsimp only
      split
      · rename_i called
        -- Only here the line itself is read, and what is read of it begins behind the mark.
        simp only [Bool.and_eq_true, Bool.not_eq_true'] at called
        obtain ⟨⟨rfl, rfl⟩, called⟩ := called
        obtain ⟨called, plain⟩ := alike rfl called
        refine scriptletRule_sameBut ?_ _ _ _
        have read (isException : Bool) : Scriptlet.Ubo.afterMark? (String.ofList
            ((style false false).line isException before body)).toList = some (body.drop 3) := by
          rw [String.toList_ofList, afterMark?_line isException unmarked called plain]
        simp only [Scriptlet.parse?, Scriptlet.Ubo.parse?_congr (read otherwise) (read isException)]
      · split
        · exact scriptletRule_sameBut rfl _ _ _
        · exact styleRule_sameBut _ _ _ _ _

/-- White space around a line does not matter to how it is read. -/
theorem ReadsAlike.trim (alike : mark.ReadsAlike before body) :
    mark.ReadsAlike (Text.trimStart before) (Text.trimEnd body) := by
  intro plain called
  have starts (word : String) : word.toList.isPrefixOf (Text.trimEnd body) = true →
      word.toList.isPrefixOf body = true := by
    simp only [List.isPrefixOf_iff_prefix]
    exact fun begins => begins.trans (Text.trimEnd_prefix body)
  -- What begins the shortened body begins the body.
  have called : isUboBody body = true := by
    rw [isUboBody, Bool.or_eq_true] at called ⊢
    exact called.imp (starts "+js(") (starts "script:inject(")
  obtain ⟨⟨rest, rfl⟩, free⟩ := alike plain called
  refine ⟨?_, fun inside => free (inside.trans (Text.trimStart_suffix before).isInfix)⟩
  rw [show "+js(".toList ++ rest = ['+', 'j', 's'] ++ '(' :: rest from rfl,
    Text.trimEnd_append_cons (by decide)]
  exact ⟨_, rfl⟩

/-- An exception for a call behind `script:inject` has no call, if no other one stands in it. -/
theorem parse?_inject {rest : List Char} (unmarked : '#' ∉ before) (plain : ¬ "+js".toList <:+: before)
    (closed : (Text.trimStart before).head? ≠ some '(')
    (unread : Scriptlet.Ubo.afterMark? ("script:inject(".toList ++ rest) = none) :
    Scriptlet.Ubo.parse? (String.ofList
      ((style false false).line true before ("script:inject(".toList ++ rest))) = none := by
  have whole : (style false false).line true before ("script:inject(".toList ++ rest) =
      before ++ '#' :: ("@#script:inject(".toList ++ rest) := by
    simp [line, text]
  rw [whole]
  refine Scriptlet.Ubo.parse?_eq_none ?_ ?_ <;> rw [String.toList_ofList]
  · exact (Scriptlet.Ubo.afterMark?_append unmarked plain).trans unread
  · -- The line begins with the domains, or with its mark if there are none.
    rw [Text.trimStart_append_cons (by decide)]
    cases start : Text.trimStart before <;> simp_all

end Mark

/--
A rule that puts something into a page can be excepted by its own body.

With the mark for exceptions a line is compiled just when it is with the mark for other rules, and to the
same rule: of the same kind, for the same domains, with the same key and the same calls. Only what the
rule carries about its line is that of the other line. This is so for all marks and all bodies but the
calls in the dialect of uBO that are read from the whole line: there they have to begin with `+js(`, and
the domains must have no part of that.
-/
theorem compile_exception (mark : Mark) (before body : List Char) (filterId : Nat)
    (unmarked : '#' ∉ before) (alike : mark.ReadsAlike before body) :
    let rule (isException : Bool) :=
      mark.compile (String.ofList (mark.line isException before body)) filterId
    let info (isException : Bool) : RuleInfo :=
      ⟨String.ofList (Text.trim (mark.line isException before body)), filterId, isException⟩
    (rule true).toOption = (rule false).toOption.map (·.withInfo (info true)) ∧
      ∀ made, rule false = .ok made → made.info = info false := by
  intro rule info
  have unmarked' := Text.not_mem_trimStart unmarked
  simp only [rule, info, mark.compile_line _ unmarked, mark.trim_line]
  refine ⟨Mark.ruleAt_sameBut unmarked' alike.trim filterId false true, fun made compiled => ?_⟩
  -- A rule is the same for its own line, so it carries that.
  have own := Mark.ruleAt_sameBut unmarked' alike.trim filterId false false
  rw [SameBut, compiled] at own
  rw [Option.some.inj own, Rule.info_withInfo]

/-- The rule that the line `example.org##+js(noeval)` stands for. -/
def noevalOnExample : ScriptletRule where
  info := ⟨"example.org##+js(noeval)", 1, false⟩
  calls := [⟨"ubo-noeval", []⟩]
  dialect := .ubo
  body := "+js(noeval)"
  domains := ⟨["example.org"], []⟩

/-- A scriptlet is excepted by its call. -/
theorem compile_exception_call :
    '#' ∉ "example.org".toList ∧
      (Mark.style false false).ReadsAlike "example.org".toList "+js(noeval)".toList ∧
      compileStyle "example.org##+js(noeval)" 1 = .ok (.scriptlet noevalOnExample) ∧
      (compileStyle "example.org#@#+js(noeval)" 1).toOption = some (.scriptlet
        { noevalOnExample with info := ⟨"example.org#@#+js(noeval)", 1, true⟩ }) := by
  have unmarked : '#' ∉ "example.org".toList := by decide
  have alike : (Mark.style false false).ReadsAlike "example.org".toList "+js(noeval)".toList :=
    fun _ _ => ⟨⟨"noeval)".toList, rfl⟩, by decide⟩
  have compiled : compileStyle "example.org##+js(noeval)" 1 = .ok (.scriptlet noevalOnExample) := by
    cbv
  -- What is left is to read off both lines.
  have both := (compile_exception (.style false false) _ _ 1 unmarked alike).1
  have line : String.ofList ((Mark.style false false).line false "example.org".toList
      "+js(noeval)".toList) = "example.org##+js(noeval)" := by cbv
  have other : String.ofList ((Mark.style false false).line true "example.org".toList
      "+js(noeval)".toList) = "example.org#@#+js(noeval)" := by cbv
  have kept : String.ofList (Text.trim ((Mark.style false false).line true "example.org".toList
      "+js(noeval)".toList)) = "example.org#@#+js(noeval)" := by cbv
  simp only [line, kept, other] at both
  refine ⟨unmarked, alike, compiled, both.trans ?_⟩
  rw [show (Mark.style false false).compile = compileStyle from rfl, compiled]
  rfl

/-- A call behind `script:inject` is compiled, and its exception is not. -/
theorem compile_exception_inject :
    (compileStyle "example.org##script:inject(noeval)" 1).isOk = true ∧
      compileStyle "example.org#@#script:inject(noeval)" 1 =
        .error (.invalidScriptlet "example.org#@#script:inject(noeval)") := by
  constructor <;> cbv

/--
A call behind `script:inject` has no exception: where no part of a line begins as other calls do, the
line with the mark for exceptions is refused.
-/
theorem compileStyle_inject_refused (before body : List Char) (filterId : Nat)
    (unmarked : '#' ∉ before) (plain : ¬ "+js".toList <:+: before)
    (closed : (Text.trimStart before).head? ≠ some '(') (called : "script:inject(".toList <+: body)
    (unread : Scriptlet.Ubo.afterMark? body = none) (rule : Rule) :
    compileStyle (String.ofList ((Mark.style false false).line true before body)) filterId ≠
      .ok rule := by
  have unmarked' := Text.not_mem_trimStart unmarked
  have plain' : ¬ "+js".toList <:+: Text.trimStart before :=
    fun inside => plain (inside.trans (Text.trimStart_suffix before).isInfix)
  rw [← Text.trimStart_trimStart] at closed
  obtain ⟨rest, rfl⟩ := called
  have kept : Text.trimEnd ("script:inject(".toList ++ rest) =
      "script:inject(".toList ++ Text.trimEnd rest :=
    Text.trimEnd_append_cons (c := '(') (by decide) "script:inject".toList rest
  -- No mark of the dialect turns up when white space goes.
  have unread' : Scriptlet.Ubo.afterMark? ("script:inject(".toList ++ Text.trimEnd rest) = none := by
    have within := kept ▸ (Text.trimEnd_prefix ("script:inject(".toList ++ rest)).isInfix
    rw [Scriptlet.Ubo.afterMark?_eq_none_iff] at unread ⊢
    exact unread.imp (mt (·.trans within)) (mt (·.trans within))
  have silent := Mark.parse?_inject unmarked' plain' closed unread'
  have called : isUboBody ("script:inject(".toList ++ Text.trimEnd rest) = true := rfl
  rw [show compileStyle = (Mark.style false false).compile from rfl, Mark.compile_line _ _ unmarked,
    kept]
  intro made
  -- Whatever the domains are, no call is found.
  obtain ⟨domains, _, made⟩ := exists_of_bind_eq_ok made
  split at made
  · cases made
  · simp only [Mark.ruleOf, called, scriptletRule, Scriptlet.parse?, silent, Option.map_none,
      Bool.not_false, Bool.and_self, if_true] at made
    cases made

end Cosmetic

end AdFilter
