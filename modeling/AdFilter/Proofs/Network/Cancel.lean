import AdFilter.Proofs.Distinct
import AdFilter.Proofs.Network.Literal
import AdFilter.Proofs.RuleSet.Decision
import AdFilter.Proofs.Text.Search
import Mathlib

/-! A rule that cancels the one it is written for, with the option to cancel added to the line. -/

namespace AdFilter

namespace Network

/-- The options of a line stand behind this dollar sign; before it are the mark and the pattern. -/
structure OptionsAt (before options : List Char) : Prop where
  found : (split (before ++ '$' :: options)).options.isSome = true
  front : (if (split (before ++ '$' :: options)).isException then ['@', '@'] else []) ++
    (split (before ++ '$' :: options)).pattern = before

/-- The second line is the first one with an option more, at any place among those that it has. -/
inductive AddsOption (option : List Char) : List Char → List Char → Prop
  /-- A line without options gets its first one. -/
  | alone {line} (bare : (split line).options = none) :
    AddsOption option line (line ++ '$' :: option)
  | first {before options} (here : OptionsAt before options) :
    AddsOption option (before ++ '$' :: options) (before ++ '$' :: (option ++ ',' :: options))
  /-- A comma behind a backslash belongs to an option, so that none can be added there. -/
  | between {before options more} (here : OptionsAt before (options ++ ',' :: more))
    (ends : options.getLast? ≠ some '\\') :
    AddsOption option (before ++ '$' :: (options ++ ',' :: more))
      (before ++ '$' :: (options ++ ',' :: (option ++ ',' :: more)))
  | last {before options} (here : OptionsAt before options) :
    AddsOption option (before ++ '$' :: options) (before ++ '$' :: (options ++ ',' :: option))

section Cancelled

variable {before after : List Char}

/-- Behind a dollar sign and before a comma, the option is taken away with the comma. -/
theorem cancelledText_first
    (dollar : ¬ "$badfilter".toList <:+: before ++ '$' :: after)
    (comma : ¬ ",badfilter".toList <:+: before ++ '$' :: after) :
    cancelledText (before ++ '$' :: ("badfilter".toList ++ ',' :: after)) = before ++ '$' :: after := by
  -- What is taken away has the option in it, which does not stand further in front.
  have clear : ¬ "$badfilter,".toList <:+: before := fun inside =>
    dollar (((List.prefix_append "$badfilter".toList [',']).isInfix.trans inside).trans
      (List.prefix_append before _).isInfix)
  -- The first step does it, and the other two find nothing in what is left.
  have taken : Text.replaceFirst "$badfilter,".toList ['$']
      (before ++ '$' :: ("badfilter".toList ++ ',' :: after)) = before ++ '$' :: after := by
    have step : Text.replaceFirst ('$' :: "badfilter,".toList) ['$']
        (before ++ '$' :: ("badfilter,".toList ++ after)) = before ++ ['$'] ++ after :=
      Text.replaceFirst_append (by decide) clear
    simpa using step
  rw [cancelledText, taken, Text.replaceFirst_eq_self comma, Text.replaceFirst_eq_self dollar]

/-- Behind a comma, the option is taken away with that. -/
theorem cancelledText_later
    (dollar : ¬ "$badfilter".toList <:+: before ++ after)
    (comma : ¬ ",badfilter".toList <:+: before ++ after) :
    cancelledText (before ++ ',' :: ("badfilter".toList ++ after)) = before ++ after := by
  -- No dollar sign stands right before the option, nor in it.
  have plain : ¬ "$badfilter".toList <:+: before ++ ',' :: ("badfilter".toList ++ after) := by
    intro inside
    rcases (Text.infix_append_cons_iff (by decide)).mp inside with inside | inside
    · exact dollar (inside.trans (List.prefix_append before after).isInfix)
    · have inside := Text.infix_of_infix_append (by decide) inside
      exact dollar (inside.trans (List.suffix_append before after).isInfix)
  have clear : ¬ ",badfilter".toList <:+: before := fun inside =>
    comma (inside.trans (List.prefix_append before after).isInfix)
  have missing : ¬ "$badfilter,".toList <:+: before ++ ',' :: ("badfilter".toList ++ after) :=
    fun inside => plain ((List.prefix_append "$badfilter".toList [',']).isInfix.trans inside)
  -- The first step finds nothing, the second one does it.
  have taken : Text.replaceFirst ",badfilter".toList []
      (before ++ ',' :: ("badfilter".toList ++ after)) = before ++ after := by
    have step : Text.replaceFirst (',' :: "badfilter".toList) []
        (before ++ ',' :: ("badfilter".toList ++ after)) = before ++ [] ++ after :=
      Text.replaceFirst_append (by decide) clear
    simpa using step
  rw [cancelledText, Text.replaceFirst_eq_self missing, taken, Text.replaceFirst_eq_self dollar]

/-- Behind a dollar sign and at the end, the option is taken away with the dollar sign. -/
theorem cancelledText_alone
    (dollar : ¬ "$badfilter".toList <:+: before) (comma : ¬ ",badfilter".toList <:+: before) :
    cancelledText (before ++ '$' :: "badfilter".toList) = before := by
  have missing : ¬ "$badfilter,".toList <:+: before ++ '$' :: "badfilter".toList := by
    intro inside
    -- The option comes last, and there is no room for a comma behind it.
    have later : '$' :: ("badfilter".toList ++ [',']) <:+: '$' :: "badfilter".toList :=
      Text.infix_of_infix_append_cons (by decide) dollar inside
    exact absurd later.length_le (by decide)
  have clear : ¬ ",badfilter".toList <:+: before ++ '$' :: "badfilter".toList := by
    intro inside
    rcases (Text.infix_append_cons_iff (by decide)).mp inside with inside | inside
    · exact comma inside
    · exact absurd (inside.subset (List.mem_cons_self)) (by decide)
  have taken : Text.replaceFirst "$badfilter".toList [] (before ++ '$' :: "badfilter".toList) =
      before := by
    have step : Text.replaceFirst ('$' :: "badfilter".toList) []
        (before ++ '$' :: ("badfilter".toList ++ [])) = before ++ [] ++ [] :=
      Text.replaceFirst_append (by decide) dollar
    simpa using step
  rw [cancelledText, Text.replaceFirst_eq_self missing, Text.replaceFirst_eq_self clear, taken]

end Cancelled

/-- Whatever place the option is added at, taking it away leaves the line that it was added to. -/
theorem cancelledText_of_addsOption {line longer : List Char}
    (adds : AddsOption "badfilter".toList line longer)
    (dollar : ¬ "$badfilter".toList <:+: line) (comma : ¬ ",badfilter".toList <:+: line) :
    cancelledText longer = line := by
  cases adds with
  | alone => exact cancelledText_alone dollar comma
  | first => exact cancelledText_first dollar comma
  -- Behind a comma it does not matter what stands before it.
  | @between before options more =>
    have whole : before ++ '$' :: (options ++ ',' :: more) =
        (before ++ '$' :: options) ++ ',' :: more := by simp
    rw [whole] at dollar comma ⊢
    simpa using cancelledText_later dollar comma
  | @last before options =>
    rw [← List.append_nil (before ++ '$' :: options)] at dollar comma ⊢
    simpa using cancelledText_later dollar comma

/-- A rule carries its line, and the text that it cancels if it cancels one. -/
theorem compile_cancels {text : String} {filterId : Nat} {rule : NetworkRule}
    (compiled : compile text filterId = .ok rule) :
    rule.info.text = String.ofList (Text.trim text.toList) ∧
      (rule.cancels = none ∨
        rule.cancels = some (String.ofList (cancelledText (Text.trim text.toList)))) := by
  obtain ⟨options, regex, _, _, rfl⟩ := compile_eq_ok compiled
  refine ⟨rfl, ?_⟩
  -- The option is the only source of a text that is cancelled.
  by_cases cancels : options.cancels = true
  · right
    exact if_pos cancels
  · left
    exact if_neg cancels

end Network

namespace Rule

/-- A text that some rule cancels. -/
def Cancelled (rules : List Rule) (text : String) : Prop :=
  ∃ rule ∈ rules, rule.cancels = some text

/-- No rule is left that another one cancels. -/
theorem ne_of_mem_optimize {rules : List Rule} {text : String} (cancelled : Cancelled rules text)
    {rule : Rule} (left : rule ∈ (optimize rules).1) : rule.info.text ≠ text := by
  -- What is kept of a list has survived, and a cancelled text does not.
  rintro rfl
  have kept := (distinctBy_sublist key _).subset left
  have listed : rule.info.text ∈ rules.filterMap cancels := List.mem_filterMap.mpr cancelled
  -- A text that is listed keeps a rule from surviving.
  have gone : (cancelledTexts rules).contains rule.info.text = true := by
    simpa [cancelledTexts] using listed
  have survives := (List.mem_filter.mp kept).2
  simp [Rule.survives, gone] at survives

/-- No rule about requests is in use that another one cancels. -/
theorem ne_of_mem_uncancelled {rules : List Rule} {text : String} (cancelled : Cancelled rules text)
    {rule : NetworkRule} (left : rule ∈ uncancelled rules) : rule.info.text ≠ text := by
  rintro rfl
  -- A rule with the text would be one of those that are left out.
  have listed : rule.info.text ∈ rules.filterMap cancels := List.mem_filterMap.mpr cancelled
  have stays := (List.mem_filter.mp left).2
  simp only [Bool.and_eq_true, Bool.not_eq_true', List.contains_eq_mem, decide_eq_false_iff_not]
    at stays
  exact stays.2 listed

end Rule

namespace Network

/--
A rule cancels the one that it is written for.

Where `badfilter` in small letters is added to the options of a line, at any place, the text that the new
rule cancels is that of the old one, which is then dropped from all lists with the new one. The old line
must not have the option behind a dollar sign or a comma, where it would be looked for first.
-/
theorem cancels_of_addsOption {text other : String} {filterId otherId : Nat}
    {rule canceller : NetworkRule} (compiled : compile text filterId = .ok rule)
    (made : compile other otherId = .ok canceller) (cancels : canceller.cancels ≠ none)
    (adds : AddsOption "badfilter".toList (Text.trim text.toList) (Text.trim other.toList))
    (dollar : ¬ "$badfilter".toList <:+: Text.trim text.toList)
    (comma : ¬ ",badfilter".toList <:+: Text.trim text.toList) :
    canceller.cancels = some rule.info.text ∧
      ∀ rules : List Rule, Rule.network canceller ∈ rules →
        (∀ left ∈ (Rule.optimize rules).1, left.info.text ≠ rule.info.text) ∧
        let set := RuleSet.ofList rules
        ∀ index ∈ [set.blocking, set.exceptions, set.csp, set.cspExceptions],
          ∀ left ∈ index.rules, left.info.text ≠ rule.info.text := by
  -- What is cancelled is the line without the option, which is that of the other rule.
  have target : canceller.cancels = some rule.info.text := by
    rw [(compile_cancels compiled).1, ← cancelledText_of_addsOption adds dollar comma]
    exact (compile_cancels made).2.resolve_left cancels
  refine ⟨target, fun rules member => ?_⟩
  have cancelled : Rule.Cancelled rules rule.info.text := ⟨_, member, target⟩
  constructor
  · intro left inside
    exact Rule.ne_of_mem_optimize cancelled inside
  · intro set index listed left inside
    obtain ⟨blocking, exceptions, csp, cspExceptions⟩ := RuleSet.ofList_picks rules
    -- Each of the four indices has a part of the rules that are not cancelled.
    simp only [set, blocking, exceptions, csp, cspExceptions, List.mem_cons, List.not_mem_nil,
      or_false] at listed
    apply Rule.ne_of_mem_uncancelled cancelled
    rcases listed with rfl | rfl | rfl | rfl <;>
    · rw [RuleIndex.rules_ofList, List.mem_toArray] at inside
      exact List.mem_of_mem_filter inside

/-- An option is added between two others. -/
theorem cancels_of_addsOption_between :
    ∃ rule canceller, compile "||ads.com^$script,image" 1 = .ok rule ∧
      compile "||ads.com^$script,badfilter,image" 2 = .ok canceller ∧ canceller.cancels ≠ none ∧
      AddsOption "badfilter".toList (Text.trim "||ads.com^$script,image".toList)
        (Text.trim "||ads.com^$script,badfilter,image".toList) ∧
      ¬ "$badfilter".toList <:+: Text.trim "||ads.com^$script,image".toList ∧
      ¬ ",badfilter".toList <:+: Text.trim "||ads.com^$script,image".toList ∧
      canceller.cancels = some rule.info.text ∧
      ∀ left ∈ (Rule.optimize [.network rule, .network canceller]).1,
        left.info.text ≠ rule.info.text := by
  have first : ((compile "||ads.com^$script,image" 1).toOption.any fun _ => true) = true := by
    decide +kernel
  have second : ((compile "||ads.com^$script,badfilter,image" 2).toOption.any
      (·.cancels.isSome)) = true := by decide +kernel
  obtain ⟨rule, compiled, _⟩ := exists_of_any_toOption first
  obtain ⟨canceller, made, cancels⟩ := exists_of_any_toOption second
  have cancels : canceller.cancels ≠ none := Option.isSome_iff_ne_none.mp cancels
  -- The option stands between two others, and the rule itself has it nowhere.
  have here : OptionsAt "||ads.com^".toList ("script".toList ++ ',' :: "image".toList) :=
    ⟨by decide +kernel, by decide +kernel⟩
  have adds : AddsOption "badfilter".toList (Text.trim "||ads.com^$script,image".toList)
      (Text.trim "||ads.com^$script,badfilter,image".toList) :=
    .between here (by decide +kernel)
  have dollar : ¬ "$badfilter".toList <:+: Text.trim "||ads.com^$script,image".toList := by
    decide +kernel
  have comma : ¬ ",badfilter".toList <:+: Text.trim "||ads.com^$script,image".toList := by
    decide +kernel
  obtain ⟨target, dropped⟩ := cancels_of_addsOption compiled made cancels adds dollar comma
  exact ⟨rule, canceller, compiled, made, cancels, adds, dollar, comma, target,
    (dropped [.network rule, .network canceller] (by simp)).1⟩

/-- In capital letters the option is read, and not found in the text again: such a rule cancels itself. -/
theorem cancels_of_addsOption_capital :
    ∃ rule canceller, compile "||ads^" 1 = .ok rule ∧ rule.cancels = none ∧
      compile "||ads^$BADFILTER" 1 = .ok canceller ∧
      (Text.trim "BADFILTER".toList).map Char.toLower = "badfilter".toList ∧
      AddsOption "BADFILTER".toList (Text.trim "||ads^".toList) (Text.trim "||ads^$BADFILTER".toList) ∧
      rule.info.text = "||ads^" ∧ canceller.cancels = some "||ads^$BADFILTER" := by
  have first : ((compile "||ads^" 1).toOption.any fun rule =>
      rule.cancels == none && rule.info.text == "||ads^") = true := by decide +kernel
  have second : ((compile "||ads^$BADFILTER" 1).toOption.any
      (·.cancels == some "||ads^$BADFILTER")) = true := by decide +kernel
  obtain ⟨rule, compiled, plain⟩ := exists_of_any_toOption first
  obtain ⟨canceller, made, cancels⟩ := exists_of_any_toOption second
  -- The text that is cancelled still has the option, since it is looked for in small letters.
  simp only [Bool.and_eq_true, beq_iff_eq] at plain cancels
  exact ⟨rule, canceller, compiled, plain.1, made, by decide +kernel, .alone (by decide +kernel),
    plain.2, cancels⟩

end Network

end AdFilter
