import AdFilter.Proofs.Content.Mark
import AdFilter.Proofs.Domain.Parser
import AdFilter.Proofs.Attempt

/-! A rule about content says what it was written for: its attributes are read back from their values. -/

namespace AdFilter.Content

/-! ### Attributes as they are written -/

/-- A value as it stands between quotes in a rule, where each quote in it is written twice. -/
def doubled (value : List Char) : List Char :=
  value.flatMap fun c => if c = '"' then ['"', '"'] else [c]

namespace Entry

/-- An attribute as a rule writes it. -/
def text (entry : Entry) : List Char :=
  '[' :: (entry.name ++ '=' :: '"' :: (doubled entry.value ++ ['"', ']']))

/--
What an attribute must be like to be written in a rule without exception.

Its name is set off by the equality sign, and neither part has a dollar sign that makes a mark.
-/
structure IsPlain (entry : Entry) : Prop where
  trimmed : Text.trim entry.name = entry.name
  equality : '=' ∉ entry.name
  dollar : '$' ∉ entry.name
  unmarked : ¬ "$@$".toList <:+: entry.value

end Entry

/-- Some attributes as a rule writes them, one behind the other. -/
def entriesText (entries : List Entry) : List Char := entries.flatMap Entry.text

variable {value rest before tag : List Char} {entry : Entry} {entries : List Entry}

/-- Two quotes are one quote of the value, and any other character stands for itself. -/
theorem doubled_cons (c : Char) (value : List Char) :
    doubled (c :: value) = (if c = '"' then ['"', '"'] else [c]) ++ doubled value := rfl

/-- A value is read up to its closing quote, if no quote stands behind that. -/
theorem valueFrom?_doubled (value : List Char) (ends : rest.head? ≠ some '"') :
    valueFrom? (doubled value ++ '"' :: rest) = some (value, rest) := by
  -- The induction is on the value, which is read one character after the other.
  induction value with
  | nil =>
    -- The value is over if no second quote follows the first one.
    cases rest with
    | nil => rfl
    | cons c rest =>
      have other : c ≠ '"' := by simpa using ends
      show valueFrom? ('"' :: c :: rest) = some ([], c :: rest)
      rw [valueFrom?]
      exact fun tail same => other (List.cons.inj same).1
  | cons c value ih =>
    rw [doubled_cons]
    -- A quote is written twice and read as one; any other character is read as it is.
    by_cases quote : c = '"'
    · subst quote
      rw [if_pos rfl]
      show valueFrom? ('"' :: '"' :: (doubled value ++ '"' :: rest)) = _
      rw [valueFrom?, ih]
      rfl
    · rw [if_neg quote]
      show valueFrom? (c :: (doubled value ++ '"' :: rest)) = _
      rw [valueFrom?, ih]
      · rfl
      · exact fun _ same _ => quote same
      · exact fun same => quote same

/-- An attribute is read behind its opening bracket, up to the closing one. -/
theorem attributeFrom?_text (plain : entry.IsPlain) (rest : List Char) :
    attributeFrom? (entry.name ++ '=' :: '"' :: (doubled entry.value ++ '"' :: ']' :: rest)) =
      some (entry, ']' :: rest) := by
  -- Behind the closing quote stands the bracket, so that quote is the only one there.
  have closing : (']' :: rest).head? ≠ some '"' := by simp
  have quote : Text.cutWhere? (· == '"') ('"' :: (doubled entry.value ++ '"' :: ']' :: rest)) =
      some ([], doubled entry.value ++ '"' :: ']' :: rest) := rfl
  -- The equality sign, the quote and the value follow each other.
  rw [attributeFrom?, Text.cutWhere?_first plain.equality]
  dsimp only [Option.bind_eq_bind, Option.bind_some]
  rw [quote]
  dsimp only [Option.bind_some]
  rw [valueFrom?_doubled entry.value closing, plain.trimmed]
  rfl

/-- Attributes are read back one by one, whatever their values contain. -/
theorem attributesFrom_entriesText (plain : ∀ entry ∈ entries, entry.IsPlain)
    (opens : '[' ∉ before) {fuel : Nat} (enough : entries.length < fuel) :
    attributesFrom fuel (before ++ entriesText entries) = entries := by
  -- Between two attributes nothing stands, and something else only before the first one.
  induction entries generalizing before fuel with
  | nil =>
    obtain ⟨fuel, rfl⟩ := Nat.exists_eq_succ_of_ne_zero (Nat.ne_zero_of_lt enough)
    rw [entriesText, List.flatMap_nil, List.append_nil, attributesFrom,
      Text.cutWhere?_absent opens]
  | cons entry entries ih =>
    obtain ⟨fuel, rfl⟩ := Nat.exists_eq_succ_of_ne_zero (Nat.ne_zero_of_lt enough)
    simp only [List.forall_mem_cons] at plain
    have whole : before ++ entriesText (entry :: entries) =
        before ++ '[' :: (entry.name ++ '=' :: '"' ::
          (doubled entry.value ++ '"' :: ']' :: entriesText entries)) := by
      simp [entriesText, Entry.text]
    have closing : Text.cutWhere? (· == ']') (']' :: entriesText entries) =
        some ([], entriesText entries) := rfl
    have others : attributesFrom fuel ([] ++ entriesText entries) = entries :=
      ih plain.2 (by simp) (by simpa using enough)
    rw [List.nil_append] at others
    rw [whole, attributesFrom, Text.cutWhere?_first opens]
    simp only [attributeFrom?_text plain.1, closing, others]

/-- Each attribute takes up some of the text. -/
theorem length_le_entriesText (entries : List Entry) :
    entries.length ≤ (entriesText entries).length := by
  induction entries with
  | nil => exact Nat.le_refl 0
  | cons entry entries ih =>
    have more : (entriesText (entry :: entries)).length =
        entry.text.length + (entriesText entries).length := by
      rw [entriesText, List.flatMap_cons, List.length_append, entriesText]
    -- An entry has an opening bracket at least.
    have filled : 0 < entry.text.length := Nat.succ_pos _
    rw [List.length_cons, more]
    omega

/-! ### No mark for exceptions -/

/-- A word without quotes that begins a value with its quotes doubled begins the value. -/
theorem prefix_of_prefix_doubled {word : List Char} (free : '"' ∉ word)
    (begins : word <+: doubled value) : word <+: value := by
  induction value generalizing word with
  | nil => exact begins
  | cons c value ih =>
    cases word with
    | nil => exact List.nil_prefix
    | cons d word =>
      rw [doubled_cons] at begins
      simp only [List.mem_cons, not_or] at free
      -- The word has no quote to begin with, so the value begins with another character.
      by_cases quote : c = '"'
      · rw [if_pos quote, List.cons_append, List.cons_prefix_cons] at begins
        exact absurd begins.1.symm free.1
      · rw [if_neg quote, List.singleton_append, List.cons_prefix_cons] at begins
        exact List.cons_prefix_cons.mpr ⟨begins.1, ih free.2 begins.2⟩

/-- A word without quotes stands in a value if it stands there once quotes are doubled. -/
theorem infix_of_infix_doubled {word : List Char} (free : '"' ∉ word)
    (inside : word <:+: doubled value) : word <:+: value := by
  induction value with
  | nil => exact inside
  | cons c value ih =>
    -- Between two quotes there is nothing, and any other character is as it was.
    by_cases quote : c = '"'
    · have whole : doubled (c :: value) = ['"'] ++ '"' :: doubled value := by
        rw [doubled_cons, if_pos quote]
        rfl
      rw [whole, Text.infix_append_cons_iff free] at inside
      rcases inside with single | inside
      · -- On its own a quote holds nothing but the empty word.
        have single : word <:+: [] ++ '"' :: [] := single
        rcases (Text.infix_append_cons_iff free).mp single with nothing | nothing
        · rw [List.infix_nil.mp nothing]
          exact List.nil_infix
        · rw [List.infix_nil.mp nothing]
          exact List.nil_infix
      · exact List.infix_cons (ih inside)
    · have whole : doubled (c :: value) = c :: doubled value := by
        rw [doubled_cons, if_neg quote]
        rfl
      rw [whole, List.infix_cons_iff, ← whole] at inside
      rcases inside with begins | inside
      · exact (prefix_of_prefix_doubled free begins).isInfix
      · exact List.infix_cons (ih inside)

/-- No mark for exceptions stands in attributes that are written one behind the other. -/
theorem not_infix_entriesText (plain : ∀ entry ∈ entries, entry.IsPlain)
    (clear : ¬ "$@$".toList <:+: before) : ¬ "$@$".toList <:+: before ++ entriesText entries := by
  -- No bracket, quote or equality sign belongs to the mark, so each of them cuts the text in two.
  have apart {c : Char} (absent : c ∉ "$@$".toList) {front back : List Char}
      (first : ¬ "$@$".toList <:+: front) (second : ¬ "$@$".toList <:+: back) :
      ¬ "$@$".toList <:+: front ++ c :: back := by
    rw [Text.infix_append_cons_iff absent]
    exact not_or.mpr ⟨first, second⟩
  induction entries generalizing before with
  | nil =>
    rw [entriesText, List.flatMap_nil, List.append_nil]
    exact clear
  | cons entry entries ih =>
    simp only [List.forall_mem_cons] at plain
    have whole : before ++ entriesText (entry :: entries) =
        before ++ '[' :: (entry.name ++ '=' :: ([] ++ '"' ::
          (doubled entry.value ++ '"' :: ([] ++ ']' :: ([] ++ entriesText entries))))) := by
      simp [entriesText, Entry.text]
    have nothing : ¬ "$@$".toList <:+: [] := by decide
    rw [whole]
    apply apart (by decide) clear
    apply apart (by decide)
    · exact fun inside => plain.1.dollar (inside.subset (by decide))
    apply apart (by decide) nothing
    apply apart (by decide)
    · exact fun inside => plain.1.unmarked (infix_of_infix_doubled (by decide) inside)
    · exact apart (by decide) nothing (ih plain.2 nothing)

/-! ### What the attributes say -/

/-- The names that set limits; any other one is a condition of the selector. -/
def reservedNames : List String :=
  ["tag-content", "wildcard", "max-length", "min-length", "parent-elements", "parent-search-level"]

/-- The value of the last attribute of a name. -/
def lastValue? (name : String) (entries : List Entry) : Option (List Char) :=
  (entries.reverse.find? fun entry => String.ofList entry.name == name).map (·.value)

/-- The condition of a selector that an attribute stands for. -/
def Entry.condition (entry : Entry) : List Char :=
  '[' :: (entry.name ++ '*' :: '=' :: '"' :: (quoted entry.value ++ ['"', ']']))

/-- The attributes that are conditions of the selector. -/
def conditions (entries : List Entry) : List Entry :=
  entries.filter fun entry => !reservedNames.contains (String.ofList entry.name)

/-- What a rule with a tag and some attributes says: the last one of a name counts. -/
def settingsOf (tag : List Char) (entries : List Entry) : Settings where
  selector := tag ++ (conditions entries).flatMap Entry.condition
  tagContent := (lastValue? "tag-content" entries).map String.ofList
  wildcard := (lastValue? "wildcard" entries).bind fun value =>
    (Glob.compile (String.ofList value)).toOption
  minLength := ((lastValue? "min-length" entries).bind wholeNumber?).getD 0
  maxLength := ((lastValue? "max-length" entries).bind wholeNumber?).getD ContentRule.defaultMaxLength
  parentElements := ((lastValue? "parent-elements" entries).map namesIn).getD []
  parentSearchLevel :=
    ((lastValue? "parent-search-level" entries).bind wholeNumber?).getD
      ContentRule.defaultParentSearchLevel

/-- The value of a limit is a number where it must be one, and a glob where it must be that. -/
structure Entry.IsReadable (entry : Entry) : Prop where
  number : String.ofList entry.name ∈ ["max-length", "min-length", "parent-search-level"] →
    (wholeNumber? entry.value).isSome = true
  glob : String.ofList entry.name = "wildcard" →
    (Glob.compile (String.ofList entry.value)).toOption.isSome = true

/-- A further attribute has the last value of its name, and of no other name. -/
theorem lastValue?_append (name : String) (entries : List Entry) (entry : Entry) :
    lastValue? name (entries ++ [entry]) =
      if String.ofList entry.name = name then some entry.value else lastValue? name entries := by
  rw [lastValue?, List.reverse_append, List.reverse_singleton, List.singleton_append,
    List.find?_cons]
  -- Read backwards, the further attribute comes first.
  by_cases same : String.ofList entry.name = name
  · simp [same]
  · have other : (String.ofList entry.name == name) = false := by simpa using same
    rw [other, if_neg same, lastValue?]

/-- An attribute of a reserved name is no condition. -/
theorem conditions_append_of_reserved {name : String} (named : String.ofList entry.name = name)
    (known : reservedNames.contains name = true) (entries : List Entry) :
    conditions (entries ++ [entry]) = conditions entries := by
  -- A reserved name is no condition, so the entry is left out.
  rw [conditions, List.filter_append, List.filter_singleton, named, known, conditions]
  simp

/-- An attribute of another name is one more condition, and changes nothing else. -/
theorem settingsOf_append_of_free (free : String.ofList entry.name ∉ reservedNames)
    (tag : List Char) (entries : List Entry) :
    settingsOf tag (entries ++ [entry]) =
      { settingsOf tag entries with
        selector := (settingsOf tag entries).selector ++ entry.condition } := by
  -- All limits and the other settings are read off the attributes of reserved names.
  have kept : ∀ name ∈ reservedNames,
      lastValue? name (entries ++ [entry]) = lastValue? name entries := by
    intro name known
    have other : String.ofList entry.name ≠ name := fun same => free (same ▸ known)
    rw [lastValue?_append, if_neg other]
  have more : conditions (entries ++ [entry]) = conditions entries ++ [entry] := by
    simp [conditions, List.filter_append, free]
  simp only [reservedNames, List.forall_mem_cons] at kept
  simp [settingsOf, kept, more]

/-- An attribute more is one more in what the rule says. -/
theorem add_settingsOf (readable : entry.IsReadable) (tag : List Char) (entries : List Entry) :
    (settingsOf tag entries).add entry = .ok (settingsOf tag (entries ++ [entry])) := by
  have number (limit : String.ofList entry.name ∈ ["max-length", "min-length", "parent-search-level"]) :
      ∃ n, wholeNumber? entry.value = some n := Option.isSome_iff_exists.mp (readable.number limit)
  unfold Settings.add
  simp only
  -- One case for each reserved name, and one for all others.
  split
  · rename_i named
    simp [settingsOf, lastValue?_append, named, conditions_append_of_reserved named (by decide)]
  · -- A wildcard is a glob that can be compiled.
    rename_i named
    obtain ⟨glob, made⟩ := exists_of_isSome_toOption (readable.glob named)
    simp [settingsOf, lastValue?_append, named, conditions_append_of_reserved named (by decide),
      made, Except.toOption]
  · -- The value of this limit is a number.
    rename_i named
    obtain ⟨n, read⟩ := number (by rw [named]; decide)
    simp [settingsOf, lastValue?_append, named, conditions_append_of_reserved named (by decide),
      read, Except.map]
  · rename_i named
    obtain ⟨n, read⟩ := number (by rw [named]; decide)
    simp [settingsOf, lastValue?_append, named, conditions_append_of_reserved named (by decide),
      read, Except.map]
  · rename_i named
    simp [settingsOf, lastValue?_append, named, conditions_append_of_reserved named (by decide)]
  · rename_i named
    obtain ⟨n, read⟩ := number (by rw [named]; decide)
    simp [settingsOf, lastValue?_append, named, conditions_append_of_reserved named (by decide),
      read, Except.map]
  · -- Any other name is one more condition of the selector.
    rename_i content wildcard most least parents level
    have free : String.ofList entry.name ∉ reservedNames := by
      simp only [reservedNames, List.mem_cons, List.not_mem_nil, or_false, not_or]
      exact ⟨content, wildcard, most, least, parents, level⟩
    rw [settingsOf_append_of_free free]
    simp [Entry.condition]

/-- All attributes of a rule, put in one after the other, say what the last ones of each name say. -/
theorem foldlM_add (readable : ∀ entry ∈ entries, entry.IsReadable) (tag : List Char) :
    entries.foldlM Settings.add { selector := tag } = .ok (settingsOf tag entries) := by
  -- The attributes that have been put in grow by one at a time.
  have further (done : List Entry) :
      entries.foldlM Settings.add (settingsOf tag done) = .ok (settingsOf tag (done ++ entries)) := by
    induction entries generalizing done with
    | nil => rw [List.append_nil, List.foldlM_nil]; rfl
    | cons entry entries ih =>
      simp only [List.forall_mem_cons] at readable
      rw [List.foldlM_cons, add_settingsOf readable.1]
      show entries.foldlM Settings.add (settingsOf tag (done ++ [entry])) = _
      rw [ih readable.2, List.append_assoc, List.singleton_append]
  have start : settingsOf tag [] = { selector := tag } := by
    simp [settingsOf, conditions, lastValue?]
  rw [← start]
  exact further []

/-! ### The rule of a line with attributes -/

section Line

variable {d : List Char} {domains : Domains}

/-- What stands between the mark and the end of a rule without white space around its tag is kept. -/
theorem trimEnd_body (trimmed : Text.trim tag = tag) (entries : List Entry) :
    Text.trimEnd (tag ++ entriesText entries) = tag ++ entriesText entries := by
  obtain rfl | ⟨others, last, rfl⟩ := List.eq_nil_or_concat' entries
  · rw [entriesText, List.flatMap_nil, List.append_nil, ← trimmed]
    exact Text.trimEnd_trimEnd _
  · -- The last attribute closes with a bracket, which is not blank.
    have whole : tag ++ entriesText (others ++ [last]) = (tag ++ entriesText others ++
        '[' :: (last.name ++ '=' :: '"' :: (doubled last.value ++ ['"']))) ++ ']' :: [] := by
      simp [entriesText, Entry.text]
    rw [whole, Text.trimEnd_append_cons (by decide)]
    rfl

/-- The tag of a rule goes up to its first attribute. -/
theorem takeWhile_body (opens : '[' ∉ tag) (entries : List Entry) :
    (tag ++ entriesText entries).takeWhile (· != '[') = tag := by
  apply Text.takeWhile_append_eq
  · intro c member
    simpa using fun same : c = '[' => opens (same ▸ member)
  · intro c first
    -- Behind the tag there is nothing, or the bracket of the first entry.
    cases entries with
    | nil => cases first
    | cons entry entries =>
      have bracket : c = '[' := by simpa [entriesText, Entry.text, eq_comm] using first
      rw [bracket]
      rfl

/-- The mark of a rule is the only one, if none for exceptions stands in its attributes. -/
theorem not_infix_body (plain : ∀ entry ∈ entries, entry.IsPlain) (dollar : '$' ∉ tag) :
    ¬ "$@$".toList <:+: "$$".toList ++ (tag ++ entriesText entries) := by
  rw [← List.append_assoc]
  apply not_infix_entriesText plain
  intro (inside : '$' :: '@' :: ['$'] <:+: '$' :: '$' :: tag)
  -- Behind the two dollar signs of the mark there is no third one.
  rcases List.infix_cons_iff.mp inside with begins | inside
  · have second := (List.cons_prefix_cons.mp (List.cons_prefix_cons.mp begins).2).1
    exact absurd second (by decide)
  rcases List.infix_cons_iff.mp inside with begins | inside
  · exact dollar ((List.cons_prefix_cons.mp begins).2.subset (by simp))
  · exact dollar (inside.subset (by simp))

/-- A list with a domain on which a rule applies is read in front of a mark as it is by itself. -/
theorem domainsBefore_trimStart (read : Domain.parse (String.ofList d) = .ok domains)
    (named : domains.isGeneric = false) :
    Cosmetic.domainsBefore (Text.trimStart d) = .ok domains := by
  have read := Domain.parse_trimStart read
  unfold Cosmetic.domainsBefore
  by_cases empty : (Text.trimStart d).isEmpty = true
  · -- Nothing but white space names no domain.
    rw [List.isEmpty_iff.mp empty] at read
    have nothing : Domain.parse (String.ofList []) = .ok {} := by decide
    rw [nothing] at read
    cases read
    cases named
  · rw [if_neg empty, read]

/-- A line with attributes is compiled to the rule that says what they say. -/
theorem compile_entries (free : '$' ∉ d) (read : Domain.parse (String.ofList d) = .ok domains)
    (named : domains.isGeneric = false) (opens : '[' ∉ tag) (dollar : '$' ∉ tag)
    (trimmed : Text.trim tag = tag) (plain : ∀ entry ∈ entries, entry.IsPlain)
    (readable : ∀ entry ∈ entries, entry.IsReadable) (filterId : Nat) :
    let body := tag ++ entriesText entries
    let settings := settingsOf tag entries
    compile (String.ofList (line false d body)) filterId =
      match Css.parse? (String.ofList settings.selector) with
      | none => .error (.badSelector (String.ofList settings.selector))
      | some selector => .ok {
          info := ⟨String.ofList (line false (Text.trimStart d) body), filterId, false⟩
          tagName := String.ofList tag
          selector
          selectorText := String.ofList settings.selector
          elementsFilter := String.ofList body
          tagContent := settings.tagContent
          wildcard := settings.wildcard
          minLength := settings.minLength
          maxLength := settings.maxLength
          parentElements := settings.parentElements
          parentSearchLevel := settings.parentSearchLevel
          domains } := by
  intro body settings
  -- Nothing of the body is cut off, and its attributes are read back with the fuel there is.
  have whole : Text.trimEnd body = body := trimEnd_body trimmed entries
  have attributes : attributesFrom (body.length + 1) body = entries := by
    apply attributesFrom_entriesText plain opens
    have short := length_le_entriesText entries
    rw [List.length_append]
    omega
  have alone : ¬ "$@$".toList <:+: "$$".toList ++ Text.trimEnd body := by
    rw [whole]
    exact not_infix_body plain dollar
  rw [compile_line false free filterId (fun _ => alone), whole, ruleAt,
    domainsBefore_trimStart read named]
  show (if (!false && domains.isGeneric) = true then _ else _) = _
  rw [named, takeWhile_body opens, trimmed, attributes, foldlM_add readable]
  rfl

/--
Compiling undoes writing.

A rule for some domains, a tag and any number of attributes has these domains and this tag, says what
the last attribute of each reserved name says, and asks for all others in their order. Brackets, equality
signs, commas and quotes in a value belong to the value.
-/
theorem compile_written {selector : Selector} (free : '$' ∉ d)
    (read : Domain.parse (String.ofList d) = .ok domains) (named : domains.isGeneric = false)
    (opens : '[' ∉ tag) (dollar : '$' ∉ tag) (trimmed : Text.trim tag = tag)
    (plain : ∀ entry ∈ entries, entry.IsPlain) (readable : ∀ entry ∈ entries, entry.IsReadable)
    (selects : Css.parse? (String.ofList (tag ++ (conditions entries).flatMap Entry.condition)) =
      some selector) (filterId : Nat) :
    (∀ fuel, entries.length < fuel → attributesFrom fuel (tag ++ entriesText entries) = entries) ∧
    ∃ rule, compile (String.ofList (line false d (tag ++ entriesText entries))) filterId = .ok rule ∧
      rule.domains = domains ∧ rule.tagName = String.ofList tag ∧ rule.selector = selector ∧
      rule.selectorText = String.ofList (tag ++ (conditions entries).flatMap Entry.condition) ∧
      rule.tagContent = (lastValue? "tag-content" entries).map String.ofList ∧
      rule.wildcard = (lastValue? "wildcard" entries).bind (fun value =>
        (Glob.compile (String.ofList value)).toOption) ∧
      rule.maxLength = ((lastValue? "max-length" entries).bind wholeNumber?).getD
        ContentRule.defaultMaxLength ∧
      rule.minLength = ((lastValue? "min-length" entries).bind wholeNumber?).getD 0 ∧
      rule.parentElements = ((lastValue? "parent-elements" entries).map namesIn).getD [] ∧
      rule.parentSearchLevel = ((lastValue? "parent-search-level" entries).bind wholeNumber?).getD
        ContentRule.defaultParentSearchLevel := by
  constructor
  · intro fuel enough
    exact attributesFrom_entriesText plain opens enough
  · have compiled := compile_entries free read named opens dollar trimmed plain readable filterId
    -- The selector is the tag with the conditions, and is the one that was asked for.
    have selector : (settingsOf tag entries).selector =
        tag ++ (conditions entries).flatMap Entry.condition := rfl
    dsimp only at compiled
    rw [selector, selects] at compiled
    exact ⟨_, compiled, rfl, rfl, rfl, rfl, rfl, rfl, rfl, rfl, rfl, rfl⟩

end Line

/-- A condition, two limits of one name and a text, with all that values may contain. -/
def markedEntries : List Entry := [
  ⟨"id".toList, "a]\"[=,\\".toList⟩, ⟨"max-length".toList, "9".toList⟩,
  ⟨"max-length".toList, " +50 ".toList⟩, ⟨"tag-content".toList, "\"[x=\"y\"]\"".toList⟩]

/-- Quotes and brackets in values, and a limit that is given twice. -/
theorem compile_written_marks :
    Domain.parse "example.org,~x.example.org" = .ok ⟨["example.org"], ["x.example.org"]⟩ ∧
      (∀ entry ∈ markedEntries, entry.IsPlain) ∧ (∀ entry ∈ markedEntries, entry.IsReadable) ∧
      Css.parse? "div[id*=\"a]\\\"[=,\\\\\"]" =
        some [.compound [.tag "div", .hasValue "id" .part "a]\"[=,\\" .exact]] ∧
      ∃ rule, compile ("example.org,~x.example.org$$div[id=\"a]\"\"[=,\\\"][max-length=\"9\"]" ++
          "[max-length=\" +50 \"][tag-content=\"\"\"[x=\"\"y\"\"]\"\"\"]") 1 = .ok rule ∧
        rule.domains = ⟨["example.org"], ["x.example.org"]⟩ ∧ rule.tagName = "div" ∧
        rule.selectorText = "div[id*=\"a]\\\"[=,\\\\\"]" ∧ rule.maxLength = 50 ∧ rule.minLength = 0 ∧
        rule.tagContent = some "\"[x=\"y\"]\"" := by
  have read : Domain.parse (String.ofList "example.org,~x.example.org".toList) =
      .ok ⟨["example.org"], ["x.example.org"]⟩ := by decide
  have plain : ∀ entry ∈ markedEntries, entry.IsPlain := by
    intro entry member
    simp only [markedEntries, List.mem_cons, List.not_mem_nil, or_false] at member
    rcases member with rfl | rfl | rfl | rfl <;>
      exact ⟨by decide, by decide, by decide, by decide⟩
  have readable : ∀ entry ∈ markedEntries, entry.IsReadable := by
    intro entry member
    simp only [markedEntries, List.mem_cons, List.not_mem_nil, or_false] at member
    rcases member with rfl | rfl | rfl | rfl <;>
      exact ⟨by decide, by decide⟩
  -- The value keeps its quotes and brackets, since it is written with escapes.
  have selects : Css.parse? (String.ofList ("div".toList ++
      (conditions markedEntries).flatMap Entry.condition)) =
        some [.compound [.tag "div", .hasValue "id" .part "a]\"[=,\\" .exact]] := by cbv
  obtain ⟨_, rule, compiled, domains, tag, _, text, content, _, most, least, _⟩ :=
    compile_written (by decide) read rfl (by decide) (by decide) (by decide) plain readable selects 1
  refine ⟨read, plain, readable, ?_, rule, ?_, domains, tag, text.trans ?_, most.trans ?_,
    least.trans ?_, content.trans ?_⟩
  · exact selects
  · exact compiled
  · decide
  · decide
  · decide
  · decide

end AdFilter.Content
