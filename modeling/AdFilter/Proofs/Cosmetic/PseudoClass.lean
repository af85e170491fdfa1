import AdFilter.Proofs.Cosmetic.Mark
import AdFilter.Proofs.Attempt
import AdFilter.Selector.Token

/-!
Which pseudo classes of a hiding rule are known: the one that its selector is searched for is, and a
pseudo class at any other place may have whatever name it likes.
-/

namespace AdFilter.Cosmetic

/-! ### The pseudo classes of a selector -/

/-- What a place in a selector is inside of: the characters that close it, the innermost first. -/
structure Reading where
  awaited : List Char := []
  /-- A backslash that is not escaped itself stands right before the place. -/
  escaped : Bool := false
  deriving DecidableEq

/-- What closes the brackets or quotes that a character opens. -/
def closer? : Char → Option Char
  | '[' => some ']'
  | '(' => some ')'
  | '"' => some '"'
  | '\'' => some '\''
  | _ => none

/-- The place behind one more character; nothing opens within quotes. -/
def Reading.next (reading : Reading) (c : Char) : Reading :=
  if reading.escaped then { reading with escaped := false }
  else if c = '\\' then { reading with escaped := true }
  else
    match reading.awaited with
    | [] => { reading with awaited := (closer? c).toList }
    | awaited :: outer =>
      if c = awaited then { reading with awaited := outer }
      else if awaited = '"' ∨ awaited = '\'' then reading
      else { reading with awaited := (closer? c).toList ++ awaited :: outer }

/-- The place behind the text is in no brackets and no quotes, and no backslash escapes what is there. -/
def IsFree (text : List Char) : Prop := text.foldl Reading.next {} = {}

instance (text : List Char) : Decidable (IsFree text) := inferInstanceAs (Decidable (_ = _))

/-- A character that names are written with; escapes are written with a backslash. -/
def isNamePart (c : Char) : Bool := Css.isNameChar c || c == '\\'

/-- A colon in a selector and the whole name behind it. -/
structure NamedColon (selector before name after : List Char) : Prop where
  parts : selector = before ++ ':' :: (name ++ after)
  named : name ≠ []
  inName : ∀ c ∈ name, isNamePart c = true
  whole : ∀ c ∈ after.head?, isNamePart c = false

/-- A pseudo class in a selector: outside of brackets and quotes, not escaped, and no pseudo element. -/
structure PseudoClassAt (selector before name after : List Char) : Prop
    extends NamedColon selector before name after where
  free : IsFree before
  /-- No colon stands right before the one of the pseudo class, unless it is escaped. -/
  single : before.getLast? = some ':' → ¬ IsFree before.dropLast

/-! ### The one that is searched for -/

/-- Whether a place is inside of square brackets by the last one that was read. -/
def afterChar (inside : Bool) (c : Char) : Bool :=
  if c = '[' then true else if c = ']' then false else inside

/-- Every colon of the text is inside of square brackets, if they are open at its start or not. -/
def Passes (bracketed : Bool) (text : List Char) : Prop :=
  ∀ front, front ++ [':'] <+: text → front.foldl afterChar bracketed = true

/-- A colon behind the text is the one that the search for a pseudo class is for: it is the first one
outside of square brackets, escaped and quoted ones too, and no backslash stands before it. -/
structure IsSearched (before : List Char) : Prop where
  outside : before.foldl afterChar false = false
  first : Passes false before
  plain : before.getLast? ≠ some '\\'

variable {bracketed : Bool} {passed before name after rest text selector : List Char} {c : Char}

theorem passes_nil : Passes bracketed [] := by
  intro front colon
  simp at colon

/-- The colons of a text are looked at one after another. -/
theorem passes_cons :
    Passes bracketed (c :: text) ↔
      (c = ':' → bracketed = true) ∧ Passes (afterChar bracketed c) text := by
  constructor
  · intro passes
    constructor
    · rintro rfl
      exact passes [] (by simp)
    · intro front colon
      exact passes (c :: front) (by simpa using colon)
  · rintro ⟨here, passes⟩ front colon
    -- The colon is the character itself, or it stands behind it.
    cases front with
    | nil => exact here (List.cons_prefix_cons.mp colon).1.symm
    | cons d front =>
      obtain ⟨rfl, behind⟩ := List.cons_prefix_cons.mp colon
      exact passes front behind

instance decidablePasses : (bracketed : Bool) → (text : List Char) → Decidable (Passes bracketed text)
  | _, [] => isTrue passes_nil
  | bracketed, c :: text =>
    have := decidablePasses (afterChar bracketed c) text
    decidable_of_iff _ passes_cons.symm

instance : Decidable (IsSearched before) :=
  decidable_of_iff (before.foldl afterChar false = false ∧ Passes false before ∧
      before.getLast? ≠ some '\\')
    ⟨fun ⟨outside, first, plain⟩ => ⟨outside, first, plain⟩,
      fun ⟨outside, first, plain⟩ => ⟨outside, first, plain⟩⟩

/-- A character is passed over, or it is a colon outside of square brackets. -/
theorem passed_or_colon (c : Char) (bracketed : Bool) :
    (c = ':' → bracketed = true) ∨ c = ':' ∧ bracketed = false := by
  cases bracketed <;> simp [or_comm, Classical.em]

/-- The search goes on behind a character that it does not end at. -/
theorem cutColon?_cons (goesOn : c = ':' → bracketed = true) :
    cutColon? bracketed passed (c :: rest) =
      cutColon? (afterChar bracketed c) (c :: passed) rest := by
  rw [cutColon?, afterChar]
  -- Opening and closing brackets come first; only then is a colon looked at.
  split
  · rfl
  · split
    · rfl
    · rw [if_neg]
      rintro ⟨colon, outside⟩
      simp [goesOn colon] at outside

/-- The search ends at a colon outside of square brackets. -/
theorem cutColon?_colon :
    cutColon? false passed (':' :: rest) =
      if passed.head? = some '\\' then none else some (passed.reverse, rest) := by
  simp [cutColon?]

/-- The search goes on behind a text whose colons are all inside of square brackets. -/
theorem cutColon?_append (passes : Passes bracketed before) :
    cutColon? bracketed passed (before ++ rest) =
      cutColon? (before.foldl afterChar bracketed) (before.reverse ++ passed) rest := by
  -- The induction is on the text, from any state of the search.
  induction before generalizing bracketed passed with
  | nil => rfl
  | cons c before ih =>
    obtain ⟨here, passes⟩ := passes_cons.mp passes
    rw [List.cons_append, cutColon?_cons here, ih passes]
    simp

/-- The search ends within a text that has a colon outside of square brackets. -/
theorem cutColon?_append_of_not_passes (ends : ¬ Passes bracketed before) :
    cutColon? bracketed passed (before ++ rest) =
      (cutColon? bracketed passed before).map fun cut => (cut.1, cut.2 ++ rest) := by
  induction before generalizing bracketed passed with
  | nil => exact absurd passes_nil ends
  | cons c before ih =>
    -- The search ends here, or goes on to a colon further behind.
    rcases passed_or_colon c bracketed with here | ⟨rfl, rfl⟩
    · rw [List.cons_append, cutColon?_cons here, cutColon?_cons here]
      exact ih fun passes => ends (passes_cons.mpr ⟨here, passes⟩)
    · rw [List.cons_append, cutColon?_colon, cutColon?_colon]
      split <;> rfl

/-- Inside of square brackets it does not matter to what is found what was read before. -/
theorem cutColon?_congr (other : List Char)
    (alike : bracketed = false → passed.head? = other.head?) :
    (cutColon? bracketed passed text).map Prod.snd =
      (cutColon? bracketed other text).map Prod.snd := by
  induction text generalizing bracketed passed other with
  | nil => rfl
  | cons c text ih =>
    rcases passed_or_colon c bracketed with here | ⟨rfl, rfl⟩
    · -- Behind the character both searches have the same one right before them.
      rw [cutColon?_cons here, cutColon?_cons here]
      apply ih
      intro _
      rfl
    · rw [cutColon?_colon, cutColon?_colon, alike rfl]
      split <;> rfl

/-! ### Names -/

/-- The name that the text begins with, as the search reads it. -/
def nameFrom? (text : List Char) : Option (List Char) :=
  let name := text.takeWhile (!endsName ·)
  if name.isEmpty then none else some (':' :: name)

/-- The name of the pseudo class that a selector is searched for. -/
theorem name_firstPseudoClass? (selector : List Char) :
    (firstPseudoClass? selector).map PseudoClass.name =
      ((cutColon? false [] selector).map Prod.snd).bind nameFrom? := by
  rw [firstPseudoClass?]
  cases cutColon? false [] selector with
  | none => rfl
  | some cut =>
    -- The name is read in the same way, whatever stands in brackets behind it.
    simp only [Option.bind_eq_bind, Option.bind_some, Option.map_some, nameFrom?]
    split <;> rfl

/-- The characters of names are neither brackets nor colons, and no name ends at one. -/
theorem isNamePart_spec (inName : isNamePart c = true) :
    c ≠ '[' ∧ c ≠ ']' ∧ c ≠ ':' ∧ endsName c = false := by
  -- All that ends a name, and the brackets that close, are none of its characters.
  have each : ∀ d ∈ "] \t>([.#:+~\"'".toList, isNamePart d = false := by
    simp [isNamePart, Css.isNameChar]
  have absent : c ∉ "] \t>([.#:+~\"'".toList := by
    intro member
    simp [each c member] at inName
  simp_all [endsName]

/-- No character of a name opens or closes brackets. -/
theorem foldl_afterChar_name (inName : ∀ c ∈ name, isNamePart c = true) :
    name.foldl afterChar bracketed = bracketed := by
  induction name with
  | nil => rfl
  | cons c name ih =>
    obtain ⟨here, inName⟩ := List.forall_mem_cons.mp inName
    -- No character of a name opens or closes a bracket.
    obtain ⟨noOpening, noClosing, -⟩ := isNamePart_spec here
    rw [List.foldl_cons, afterChar, if_neg noOpening, if_neg noClosing, ih inName]

/-- A name that is known is a colon and characters of names. -/
theorem isNamePart_of_supported (supported : String.ofList (':' :: name) ∈ supportedPseudoClasses) :
    ∀ c ∈ name, isNamePart c = true := by
  -- There are finitely many known names, each of them looked at.
  have each : ∀ known ∈ supportedPseudoClasses, known.toList.tail.all isNamePart = true := by
    decide +kernel
  simpa using each _ supported

/-- What is read as a name at a colon is the name there and what follows up to the end of names. -/
theorem nameFrom?_append (colon : NamedColon selector before name after) :
    nameFrom? (name ++ after) = some (':' :: (name ++ after.takeWhile (!endsName ·))) := by
  -- The name at the colon is read to its end, and then on to the end of names.
  have inside : ∀ c ∈ name, (!endsName c) = true := by
    intro c inName
    simp [(isNamePart_spec (colon.inName c inName)).2.2.2]
  rw [nameFrom?, List.takeWhile_append_of_pos inside]
  exact if_neg (by simp [colon.named])

/-- Nothing that follows the name at a colon is part of a known name. -/
theorem takeWhile_eq_nil_of_supported (colon : NamedColon selector before name after)
    (supported : String.ofList (':' :: (name ++ after.takeWhile (!endsName ·))) ∈
      supportedPseudoClasses) :
    after.takeWhile (!endsName ·) = [] := by
  cases after with
  | nil => rfl
  | cons c after =>
    -- Where the reading goes on behind the name, what is read is no known name.
    rw [List.takeWhile_cons] at supported ⊢
    split
    · rename_i goesOn
      rw [if_pos goesOn] at supported
      -- The first character that follows is none of names, and known names have no other ones.
      have inName := isNamePart_of_supported supported c (by simp)
      rw [colon.whole c rfl] at inName
      contradiction
    · rfl

/-! ### What the search comes to -/

/-- The pseudo class that the text is searched for is known, if there is one. -/
def Hides (content : List Char) : Prop :=
  ∀ name ∈ (firstPseudoClass? content).map PseudoClass.name,
    String.ofList name ∈ supportedPseudoClasses

instance : Decidable (Hides text) := inferInstanceAs (Decidable (∀ name ∈ Option.map _ _, _))

/-- The pseudo class at the place that is searched for is known. -/
theorem supported_of_isSearched (colon : NamedColon selector before name after)
    (searched : IsSearched before) (hides : Hides selector) :
    String.ofList (':' :: name) ∈ supportedPseudoClasses := by
  -- The first colon outside of brackets is this one, and it has no backslash before it.
  have found : (firstPseudoClass? selector).map PseudoClass.name = nameFrom? (name ++ after) := by
    have plain : before.reverse.head? ≠ some '\\' := by
      rw [List.head?_reverse]
      exact searched.plain
    rw [name_firstPseudoClass?, colon.parts, cutColon?_append searched.first, searched.outside,
      List.append_nil, cutColon?_colon, if_neg plain]
    rfl
  have supported := hides _ (found.trans (nameFrom?_append colon))
  rwa [takeWhile_eq_nil_of_supported colon supported, List.append_nil] at supported

/-- Within square brackets the search goes on behind a name as if it were not there. -/
theorem cutColon?_name (inName : ∀ c ∈ name, isNamePart c = true) :
    (cutColon? true passed (name ++ rest)).map Prod.snd =
      (cutColon? true passed rest).map Prod.snd := by
  -- There is no colon in a name, so nothing ends the search there.
  have passes : Passes true name := by
    intro front colon
    have member : ':' ∈ name := colon.subset (by simp)
    exact absurd rfl (isNamePart_spec (inName _ member)).2.2.1
  rw [cutColon?_append passes, foldl_afterChar_name inName]
  exact cutColon?_congr _ (by simp)

/-- The name that a selector is searched for is the same with another name at any other place. -/
theorem name_firstPseudoClass?_congr (unsearched : ¬ IsSearched before)
    (inName : ∀ c ∈ name, isNamePart c = true) :
    (firstPseudoClass? (before ++ ':' :: (name ++ after))).map PseudoClass.name =
      (firstPseudoClass? (before ++ ':' :: after)).map PseudoClass.name := by
  rw [name_firstPseudoClass?, name_firstPseudoClass?]
  by_cases first : Passes false before
  · rw [cutColon?_append first, cutColon?_append first]
    cases inside : before.foldl afterChar false with
    | true =>
      -- The place is inside of square brackets, so the search goes on behind the name.
      rw [cutColon?_cons (by simp), cutColon?_cons (by simp)]
      exact congrArg (·.bind nameFrom?) (cutColon?_name inName)
    | false =>
      -- The colon ends the search and is taken for an escaped one.
      have escaped : before.reverse.head? = some '\\' := by
        rw [List.head?_reverse]
        by_contra plain
        exact unsearched ⟨inside, first, plain⟩
      rw [List.append_nil, cutColon?_colon, cutColon?_colon, if_pos escaped, if_pos escaped]
  · -- The search ends before the place, and the name that is read there ends before it as well.
    rw [cutColon?_append_of_not_passes first, cutColon?_append_of_not_passes first]
    cases cutColon? false [] before with
    | none => rfl
    | some cut =>
      have ends (behind : List Char) :
          (cut.2 ++ ':' :: behind).takeWhile (!endsName ·) = cut.2.takeWhile (!endsName ·) := by
        rw [List.takeWhile_append, List.takeWhile_cons_of_neg (by decide)]
        split
        · rename_i long
          rw [List.append_nil, (List.takeWhile_prefix _).eq_of_length long]
        · rfl
      simp only [Option.map_some, Option.bind_some, nameFrom?, ends]

/-- A selector that hides something does so with any other name at a place it is not searched for. -/
theorem Hides.rename {other : List Char} (hides : Hides selector)
    (colon : NamedColon selector before name after) (unsearched : ¬ IsSearched before)
    (inName : ∀ c ∈ other, isNamePart c = true) :
    Hides (before ++ ':' :: (other ++ after)) := by
  -- Which name is asked for does not matter, as it is not looked at.
  rw [colon.parts, Hides, name_firstPseudoClass?_congr unsearched colon.inName] at hides
  rwa [Hides, name_firstPseudoClass?_congr unsearched inName]

/-! ### Hiding rules -/

variable {info : RuleInfo} {extended : Bool} {content : List Char} {domains : Domains}
  {rule : StyleRule}

/-- The style rule that hides what a text selects. -/
def hidingStyle (info : RuleInfo) (extended : Bool) (content : List Char) (domains : Domains) :
    StyleRule where
  info
  selector := String.ofList content
  isInject := false
  isExtended := extended || isExtended content
  domains

/-- A text under a mark for hiding is decided on by the pseudo class that it is searched for. -/
theorem styleRule_false (info : RuleInfo) (extended : Bool) (content : List Char) (domains : Domains) :
    styleRule info false extended content domains =
      match firstPseudoClass? content with
      | none => .ok (.style (hidingStyle info extended content domains))
      | some pseudo =>
        if pseudo.name = ":style".toList then do
          let block ← styleBlock pseudo content
          styleRule info true extended block domains
        else if String.ofList pseudo.name ∈ supportedPseudoClasses then
          .ok (.style (hidingStyle info extended content domains))
        else .error (.unsupportedPseudoClass (String.ofList pseudo.name)) := by
  unfold styleRule
  cases firstPseudoClass? content with
  | none => rfl
  | some pseudo =>
    -- The style that is put in and the known names are looked at in turn.
    simp only [List.contains_iff_mem]
    split
    · cases styleBlock pseudo content <;> rfl
    · split <;> rfl

/-- A rule that is made under a mark for putting in puts something in. -/
theorem isInject_of_styleRule_true
    (made : styleRule info true extended content domains = .ok (.style rule)) :
    rule.isInject = true := by
  unfold styleRule at made
  simp only [pure_bind] at made
  -- Without a block of styles there is an error, and with one the rule puts it in.
  split at made
  · cases made
  · cases made
    rfl

/-- A text that hides something is made into a hiding rule. -/
theorem styleRule_of_hides (hides : Hides content) :
    styleRule info false extended content domains =
      .ok (.style (hidingStyle info extended content domains)) := by
  rw [styleRule_false]
  cases found : firstPseudoClass? content with
  | none => rfl
  | some pseudo =>
    have supported := hides pseudo.name (by simp [found])
    -- The name that stands for a style to put in is not among the known ones.
    have notStyle : pseudo.name ≠ ":style".toList := by
      intro style
      rw [style] at supported
      exact absurd supported (by decide)
    simp only [if_neg notStyle, if_pos supported]

/-- The text of a hiding rule hides something, and it is the selector as it is. -/
theorem hides_of_styleRule {inject : Bool}
    (made : styleRule info inject extended content domains = .ok (.style rule))
    (hidden : rule.isInject = false) :
    Hides content ∧ rule = hidingStyle info extended content domains := by
  cases inject with
  | true => simp [isInject_of_styleRule_true made] at hidden
  | false =>
    rw [styleRule_false] at made
    -- A rule is made where there is no pseudo class, or where the first one is known.
    cases found : firstPseudoClass? content with
    | none =>
      rw [found] at made
      cases made
      exact ⟨by simp [Hides, found], rfl⟩
    | some pseudo =>
      simp only [found] at made
      split at made
      · -- What `:style` makes is put in.
        obtain ⟨block, -, made⟩ := exists_of_bind_eq_ok made
        simp [isInject_of_styleRule_true made] at hidden
      · split at made
        · rename_i supported
          cases made
          exact ⟨by simpa [Hides, found] using supported, rfl⟩
        · cases made

/-- A text that hides something and does not end with white space is the selector of a rule, if no
scriptlet is read from it. -/
theorem compileStyle_of_hides (hides : Hides content)
    (filled : ∃ c ∈ content, Text.isBlank c = false) (trimmed : Text.trimEnd content = content)
    (extended : Bool) (silent : extended = true ∨ isUboBody content = false) (filterId : Nat) :
    let line := String.ofList ((Mark.style false extended).line false [] content)
    compileStyle line filterId =
      .ok (.style (hidingStyle ⟨line, filterId, false⟩ extended content {})) := by
  intro line
  have compiled : compileStyle line filterId =
      (Mark.style false extended).ruleAt false [] (Text.trimEnd content) filterId :=
    (Mark.style false extended).compile_line false List.not_mem_nil content filterId
  -- A character that is not blank is left in any case.
  have nonempty : (Text.trim content).isEmpty = false := by
    obtain ⟨c, member, filled⟩ := filled
    obtain ⟨front, back, rfl⟩ := List.append_of_mem member
    simp [Text.trim_append_cons filled]
  have notCalled : (!extended && isUboBody content) = false := by
    rcases silent with rfl | plain
    · rfl
    · simp [plain]
  rw [compiled, trimmed, ← styleRule_of_hides hides]
  simp only [Mark.ruleAt, Mark.ruleOf, nonempty, Bool.not_false, Bool.true_and, notCalled,
    Bool.false_and]
  rfl

/-- No style rule is made of the calls of a scriptlet. -/
theorem scriptletRule_ne_style {dialect : Dialect} {source body : List Char} :
    scriptletRule info dialect source body domains ≠ .ok (.style rule) := by
  unfold scriptletRule
  split <;> simp

/-- A style rule is made of the end of its line. -/
theorem exists_styleRule_of_compileStyle {text : String} {filterId : Nat}
    (compiled : compileStyle text filterId = .ok (.style rule)) :
    ∃ info inject extended body domains,
      styleRule info inject extended body domains = .ok (.style rule) ∧
        body <:+ Text.trim text.toList := by
  unfold compileStyle at compiled
  simp only at compiled
  -- Of the ways that a line may go, only the last one makes a style rule.
  split at compiled
  · rename_i before mark body cut
    obtain ⟨domains, -, compiled⟩ := exists_of_bind_eq_ok compiled
    split at compiled
    · cases compiled
    · split at compiled
      · exact absurd compiled scriptletRule_ne_style
      · split at compiled
        · exact absurd compiled scriptletRule_ne_style
        · exact ⟨_, _, _, body, domains, compiled, suffix_of_cutMark? cut⟩
  · cases compiled

/-- The selector of a hiding rule hides something and does not end with white space. -/
theorem hides_of_compileStyle {text : String} {filterId : Nat}
    (compiled : compileStyle text filterId = .ok (.style rule)) (hidden : rule.isInject = false) :
    Hides rule.selector.toList ∧ Text.trimEnd rule.selector.toList = rule.selector.toList := by
  obtain ⟨info, inject, extended, body, domains, made, ends⟩ :=
    exists_styleRule_of_compileStyle compiled
  obtain ⟨hides, rfl⟩ := hides_of_styleRule made hidden
  -- What is hidden is the end of a body that was trimmed already.
  have trimmed : Text.trimEnd body = body :=
    Text.trimEnd_of_suffix ends (Text.trimEnd_trimEnd _)
  simpa [hidingStyle] using ⟨hides, trimmed⟩

/-- A text with another name in it does not end with white space either. -/
theorem trimEnd_rename {other : List Char}
    (trimmed : Text.trimEnd (before ++ ':' :: (name ++ after)) = before ++ ':' :: (name ++ after))
    (filled : ∀ c ∈ other, Text.isBlank c = false) :
    Text.trimEnd (before ++ ':' :: (other ++ after)) = before ++ ':' :: (other ++ after) := by
  have ends : Text.trimEnd (other ++ after) = other ++ after := by
    -- The end of the text is in the name where nothing follows it, else in what follows.
    cases after with
    | nil =>
      rw [Text.trimEnd_eq_self_iff, List.append_nil]
      exact fun c last => filled c (List.mem_of_getLast? last)
    | cons d after =>
      have last : d :: after <:+ before ++ ':' :: (name ++ d :: after) :=
        ⟨before ++ ':' :: name, by simp⟩
      have behind := Text.trimEnd_of_suffix last trimmed
      rw [Text.trimEnd_eq_self_iff] at behind ⊢
      rwa [List.getLast?_append_cons]
  rw [Text.trimEnd_append_cons (by decide), ends]

/--
In a hiding rule the pseudo class is known that stands at the first colon outside of square brackets.

Every square bracket counts for this, the escaped and the quoted ones too, and with a backslash right
before the colon nothing is looked at. A pseudo class at any other place is not looked at either: whatever
name is put there instead, some line is compiled to a hiding rule with that selector.
-/
theorem compileStyle_pseudoClass {text : String} {filterId : Nat}
    (compiled : compileStyle text filterId = .ok (.style rule)) (hidden : rule.isInject = false)
    (pseudo : PseudoClassAt rule.selector.toList before name after) :
    (IsSearched before → String.ofList (':' :: name) ∈ supportedPseudoClasses) ∧
      (¬ IsSearched before →
        ∀ other : List Char, (∀ c ∈ other, isNamePart c = true ∧ Text.isBlank c = false) →
          ∃ line number made, compileStyle line number = .ok (.style made) ∧
            made.isInject = false ∧
            made.selector = String.ofList (before ++ ':' :: (other ++ after))) := by
  obtain ⟨hides, trimmed⟩ := hides_of_compileStyle compiled hidden
  constructor
  · intro searched
    exact supported_of_isSearched pseudo.toNamedColon searched hides
  · intro unsearched other inName
    have renamed := hides.rename pseudo.toNamedColon unsearched fun c member => (inName c member).1
    rw [pseudo.parts] at trimmed
    have trimmed := trimEnd_rename trimmed fun c member => (inName c member).2
    -- Behind this mark no scriptlet is read from any text.
    have made := compileStyle_of_hides renamed ⟨':', by simp, by decide⟩ trimmed true (.inl rfl) 0
    exact ⟨_, _, _, made, rfl, rfl⟩

/-- The colon in square brackets is passed over, the next one is looked at, and the last one is not. -/
theorem compileStyle_pseudoClass_hover :
    let rule := hidingStyle ⟨"##[id=\":x\"]:hover:focus", 1, false⟩ false
      "[id=\":x\"]:hover:focus".toList {}
    compileStyle "##[id=\":x\"]:hover:focus" 1 = .ok (.style rule) ∧ rule.isInject = false ∧
      PseudoClassAt rule.selector.toList "[id=\":x\"]".toList "hover".toList ":focus".toList ∧
      PseudoClassAt rule.selector.toList "[id=\":x\"]:hover".toList "focus".toList [] ∧
      ":hover" ∈ supportedPseudoClasses ∧
      ∃ line number made, compileStyle line number = .ok (.style made) ∧ made.isInject = false ∧
        made.selector = "[id=\":x\"]:hover:foo" := by
  intro rule
  have hides : Hides "[id=\":x\"]:hover:focus".toList := by decide
  have compiled : compileStyle "##[id=\":x\"]:hover:focus" 1 = .ok (.style rule) :=
    compileStyle_of_hides hides ⟨':', by simp, by decide⟩ (by rfl) false (.inr (by rfl)) 1
  have hover : PseudoClassAt rule.selector.toList "[id=\":x\"]".toList "hover".toList
      ":focus".toList := {
    parts := String.toList_ofList.trans (by rfl)
    named := by simp
    inName := by simp [isNamePart, Css.isNameChar]
    whole := by simp [isNamePart, Css.isNameChar]
    free := by decide
    single := by simp }
  -- The second colon is the last one, and its name ends with the selector.
  have focus : PseudoClassAt rule.selector.toList "[id=\":x\"]:hover".toList "focus".toList [] := {
    parts := String.toList_ofList.trans (by rfl)
    named := by simp
    inName := by simp [isNamePart, Css.isNameChar]
    whole := by simp
    free := by decide
    single := by simp }
  refine ⟨compiled, rfl, hover, focus, ?_, ?_⟩
  · exact (compileStyle_pseudoClass compiled rfl hover).1 (by decide)
  · have filled : ∀ c ∈ "foo".toList, isNamePart c = true ∧ Text.isBlank c = false := by
      simp [isNamePart, Css.isNameChar, Text.isBlank]
    exact (compileStyle_pseudoClass compiled rfl focus).2 (by decide) "foo".toList filled

/-- A later pseudo class survives though it is not known, and so does a style that is to be put in. -/
theorem compileStyle_pseudoClass_later :
    let rule (text selector : String) := hidingStyle ⟨text, 1, false⟩ false selector.toList {}
    (compileStyle "##div:hover:foo" 1 = .ok (.style (rule "##div:hover:foo" "div:hover:foo")) ∧
      PseudoClassAt "div:hover:foo".toList "div:hover".toList "foo".toList [] ∧
      ":foo" ∉ supportedPseudoClasses) ∧
    (compileStyle "##div:hover:style(color: red)" 1 =
        .ok (.style (rule "##div:hover:style(color: red)" "div:hover:style(color: red)")) ∧
      PseudoClassAt "div:hover:style(color: red)".toList "div:hover".toList "style".toList
        "(color: red)".toList ∧
      ":style" ∉ supportedPseudoClasses) := by
  have foo : PseudoClassAt "div:hover:foo".toList "div:hover".toList "foo".toList [] := {
    parts := by rfl
    named := by simp
    inName := by simp [isNamePart, Css.isNameChar]
    whole := by simp
    free := by decide
    single := by simp }
  have style : PseudoClassAt "div:hover:style(color: red)".toList "div:hover".toList "style".toList
      "(color: red)".toList := {
    parts := by rfl
    named := by simp
    inName := by simp [isNamePart, Css.isNameChar]
    whole := by simp [isNamePart, Css.isNameChar]
    free := by decide
    single := by simp }
  -- The first colon is that of `:hover`, which is supported.
  have hidesFoo : Hides "div:hover:foo".toList := by decide
  have hidesStyle : Hides "div:hover:style(color: red)".toList := by decide
  refine ⟨⟨?_, foo, by decide⟩, ?_, style, by decide⟩
  · exact compileStyle_of_hides hidesFoo ⟨':', by simp, by decide⟩ (by rfl) false (.inr (by rfl)) 1
  · exact compileStyle_of_hides hidesStyle ⟨':', by simp, by decide⟩ (by rfl) false
      (.inr (by rfl)) 1

end AdFilter.Cosmetic
