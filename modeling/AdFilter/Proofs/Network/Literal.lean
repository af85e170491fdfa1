import AdFilter.Proofs.Network.Blotted
import AdFilter.Proofs.Network.Compile
import AdFilter.Proofs.Text.Lower
import AdFilter.Proofs.Text.Search

/-! The shortcut of an expression, and when every address that matches the expression contains it. -/

namespace AdFilter.Network

open Regex (Chunk Demands source)

/-- The first of the longest literal parts of a text. -/
def longestLiteral (text : List Char) : List Char :=
  (literalParts [] text).foldl
    (fun longest part => if Text.byteLength longest < Text.byteLength part then part else longest) []

/-- What is put in small letters unless it is empty was not empty. -/
theorem nonEmptyLower_eq_some {text s : List Char} (made : nonEmptyLower text = some s) :
    text ≠ [] ∧ s = Text.lower text := by
  unfold nonEmptyLower at made
  -- Nothing is made of an empty text.
  split at made
  · cases made
  · rename_i filled
    cases made
    exact ⟨by simpa using filled, rfl⟩

/-- A shortcut is a literal of the blotted source, and not even a question mark stands in that. -/
theorem regexShortcut_eq_some {body s : List Char} (short : regexShortcut body = some s) :
    '?' ∉ body ∧ longestLiteral (blottedText body) ≠ [] ∧
      s = Text.lower (longestLiteral (blottedText body)) := by
  -- A shortcut is refused for a question mark, for a bar, and where no literal is left.
  unfold regexShortcut at short
  split at short
  · cases short
  · rename_i eager
    simp only at short
    split at short
    · cases short
    · obtain ⟨filled, same⟩ := nonEmptyLower_eq_some short
      exact ⟨by simpa using eager, filled, same⟩

/-- No part holds a character that means something. -/
theorem plain_of_mem_literalParts {current text part : List Char}
    (before : ∀ c ∈ current, isSpecial c = false) (member : part ∈ literalParts current text) :
    ∀ c ∈ part, isSpecial c = false := by
  -- The part under way takes in characters that are not special, and no others.
  induction text generalizing current with
  | nil =>
    obtain rfl := List.mem_singleton.mp member
    simpa using before
  | cons d text ih =>
    unfold literalParts at member
    split at member
    · rename_i plain
      refine ih ?_ member
      intro c within
      rcases List.mem_cons.mp within with rfl | within
      · simpa using plain
      · exact before c within
    · rcases List.mem_cons.mp member with rfl | member
      · split
        · intro c within
          exact before c (List.mem_of_mem_tail (List.mem_reverse.mp within))
        · simpa using before
      · exact ih (by simp) member

/-- An escape stands for no literal text, unless it is one of the character behind the backslash. -/
def unlettered : Chunk → Chunk
  | .escape c => if Regex.isEscapable c then .escape c else .char '.'
  | chunk => chunk

/-- The chunk is a character, or an escape of one. -/
def isSimple : Chunk → Bool
  | .char _ => true
  | .escape c => Regex.isEscapable c
  | _ => false

/-- Without its letter an escape stands for the same character, which is none. -/
theorem letter?_unlettered (chunk : Chunk) : (unlettered chunk).letter? = chunk.letter? := by
  unfold unlettered
  -- Only an escape that stands for no letter is changed.
  split
  · split
    · rfl
    · rename_i other
      simp [Chunk.letter?, other]
  · rfl

/-- Without letters in escapes the same letters are spelled out. -/
theorem spells_unlettered {letters : List Char} {chunks : List Chunk} :
    Spells letters (chunks.map unlettered) ↔ Spells letters chunks := by
  have same : Chunk.letter? ∘ unlettered = Chunk.letter? := funext letter?_unlettered
  -- The letters are the same, chunk by chunk.
  rw [Spells, Spells, List.map_map, same]

/-- Without letters in escapes, what the steps leave are simple chunks. -/
theorem simple_unlettered {chunk : Chunk} (fits : chunk.Fits)
    (flat : step? chunk = none ∨ step? chunk = some .letter) :
    (unlettered chunk).Fits ∧ isSimple (unlettered chunk) = true := by
  -- A dot stands for what is no escape of a character.
  unfold unlettered
  split
  · split
    · rename_i itself
      exact ⟨fits, itself⟩
    · exact ⟨sound_dot.fits, rfl⟩
  · rename_i other
    cases chunk with
    | char c => exact ⟨fits, rfl⟩
    | escape c => exact absurd rfl (other c)
    | set | count | group => simp [step?] at flat

/-- A complete character that means nothing more stands for itself. -/
theorem letter?_char {c : Char} (fits : (Chunk.char c).Fits) :
    (Chunk.char c).letter? = if isSpecial c then none else some c := by
  -- Brackets and backslashes are special too, but a complete character is none of them.
  obtain ⟨bracket, slash, _⟩ := fits
  have special : isSpecial c = "?*+.^$|".toList.contains c := by
    simp_all [isSpecial, Regex.isBracket]
    grind
  simp [Chunk.letter?, special]

/-- A special character ends the part under way, which loses its last character before a star. -/
theorem mem_literalParts_special {c : Char} {current text part : List Char}
    (special : isSpecial c = true) :
    part ∈ literalParts current (c :: text) ↔
      part = (if c = '*' then current.tail.reverse else current.reverse) ∨
        part ∈ literalParts [] text := by
  -- The sign ends the part, and a star takes the letter before it along.
  rw [literalParts, if_neg (by simp [special]), List.mem_cons]

/--
The literal parts of a source of simple chunks are spelled out by them.

The part under way comes first, and may lose its last character.
-/
theorem spells_of_mem_literalParts {chunks : List Chunk} {current part : List Char}
    (fits : ∀ chunk ∈ chunks, chunk.Fits) (simple : ∀ chunk ∈ chunks, isSimple chunk = true)
    (member : part ∈ literalParts current (source chunks)) :
    (∃ letters, part = current.reverse ++ letters ∧
        letters.map some <+: chunks.map Chunk.letter?) ∨
      part = current.tail.reverse ∨ part = [] ∨ Spells part chunks := by
  -- The induction is on the chunks, with the part under way in reverse.
  induction chunks generalizing current with
  | nil =>
    obtain rfl := List.mem_singleton.mp member
    exact Or.inl ⟨[], by simp, List.nil_prefix⟩
  | cons chunk rest ih =>
    replace ih {current : List Char} := @ih current
      (fun other member => fits other (by simp [member]))
      (fun other member => simple other (by simp [member]))
    have later (member : part ∈ literalParts [] (source rest)) :
        part = [] ∨ Spells part (chunk :: rest) := by
      rcases ih member with ⟨letters, rfl, begins⟩ | empty | empty | spells
      · exact Or.inr (List.infix_cons begins.isInfix)
      · exact Or.inl empty
      · exact Or.inl empty
      · exact Or.inr (List.infix_cons spells)
    cases chunk with
    | char c =>
      have letter := letter?_char (fits (.char c) (by simp))
      rw [Regex.source_cons, Chunk.text, List.singleton_append] at member
      by_cases special : isSpecial c = true
      · rcases (mem_literalParts_special special).mp member with rfl | member
        · -- The part under way ends here, and a star takes its last character away.
          by_cases star : c = '*'
          · exact Or.inr (Or.inl (if_pos star))
          · exact Or.inl ⟨[], by simp [star], List.nil_prefix⟩
        · exact Or.inr (Or.inr (later member))
      · have itself : (Chunk.char c).letter? = some c := by rw [letter, if_neg special]
        rw [literalParts, if_pos (by simpa using special)] at member
        rcases ih member with ⟨letters, rfl, begins⟩ | same | empty | spells
        · -- The part goes on with this character.
          refine Or.inl ⟨c :: letters, by simp, ?_⟩
          rw [List.map_cons, List.map_cons, itself]
          exact List.cons_prefix_cons.mpr ⟨rfl, begins⟩
        · -- The star behind takes this character away, and leaves what stands before it.
          exact Or.inl ⟨[], by simpa using same, List.nil_prefix⟩
        · exact Or.inr (Or.inr (Or.inl empty))
        · exact Or.inr (Or.inr (Or.inr (List.infix_cons spells)))
    | escape e =>
      have itself : (Chunk.escape e).letter? = some e := if_pos (simple (.escape e) (by simp))
      rw [Regex.source_cons, Chunk.text, List.cons_append, List.singleton_append] at member
      rcases (mem_literalParts_special rfl).mp member with rfl | member
      · exact Or.inl ⟨[], by simp, List.nil_prefix⟩
      · -- The backslash ends the part under way, and what is escaped may begin the next one.
        by_cases special : isSpecial e = true
        · rcases (mem_literalParts_special special).mp member with rfl | member
          · exact Or.inr (Or.inr (Or.inl (by simp)))
          · exact Or.inr (Or.inr (later member))
        · rw [literalParts, if_pos (by simpa using special)] at member
          rcases ih member with ⟨letters, rfl, begins⟩ | empty | empty | spells
          · -- The part begins with the escaped character.
            refine Or.inr (Or.inr (Or.inr (List.IsPrefix.isInfix ?_)))
            rw [List.map_cons, itself]
            exact List.cons_prefix_cons.mpr ⟨rfl, begins⟩
          · exact Or.inr (Or.inr (Or.inl empty))
          · exact Or.inr (Or.inr (Or.inl empty))
          · exact Or.inr (Or.inr (Or.inr (List.infix_cons spells)))
    | set inner => cases simple (.set inner) (by simp)
    | count inner => cases simple (.count inner) (by simp)
    | group inner => cases simple (.group inner) (by simp)

/-- The chunks with a dot for each character that a match may leave out. -/
def sure : List Chunk → List Chunk
  | [] => []
  | chunk :: rest =>
    (if chunk.letter?.isSome && !Chunk.isSafe rest then .char '.' else chunk) :: sure rest

/-- Nothing but dots is new among what no match leaves out. -/
theorem mem_of_sure {chunks : List Chunk} {chunk : Chunk} (member : chunk ∈ sure chunks) :
    chunk ∈ chunks ∨ chunk = .char '.' := by
  induction chunks with
  | nil => cases member
  | cons first rest ih =>
    -- A chunk that is not sure gives way to a point.
    rcases List.mem_cons.mp member with rfl | member
    · split <;> simp
    · exact (ih member).imp_left (List.mem_cons_of_mem _)

/-- Dots for characters keep a source complete and on one line. -/
theorem sound_sure {chunks : List Chunk} (sound : ∀ chunk ∈ chunks, Sound chunk)
    (line : '\n' ∉ source chunks) :
    (∀ chunk ∈ sure chunks, Sound chunk) ∧ '\n' ∉ source (sure chunks) := by
  -- Points stand in for some chunks, and they are sound and no line feeds.
  constructor
  · intro chunk member
    rcases mem_of_sure member with member | rfl
    · exact sound chunk member
    · exact sound_dot
  · intro member
    obtain ⟨chunk, member, within⟩ := List.mem_flatMap.mp member
    rcases mem_of_sure member with member | rfl
    · exact line (List.mem_flatMap.mpr ⟨chunk, member, within⟩)
    · simp [Chunk.text] at within

/-- A letter that is still there stands for itself, and what follows keeps it. -/
theorem letter?_sure {chunk : Chunk} {rest : List Chunk} {c : Char}
    (letter : (if chunk.letter?.isSome && !Chunk.isSafe rest then .char '.' else chunk).letter? =
      some c) : chunk.letter? = some c ∧ Chunk.isSafe rest = true := by
  -- A dot stands for no letter, so this is the chunk as it was.
  split at letter
  · cases letter
  · rename_i kept
    exact ⟨letter, by simpa [letter] using kept⟩

/-- Letters that begin what no match leaves out are chunks of their own, and what follows is safe. -/
theorem exists_of_isPrefix_sure {letters : List Char} {chunks : List Chunk} (filled : letters ≠ [])
    (begins : letters.map some <+: (sure chunks).map Chunk.letter?) :
    ∃ run behind, chunks = run ++ behind ∧ run.map Chunk.letter? = letters.map some ∧
      Chunk.isSafe behind = true := by
  -- The induction is on the chunks, and it is the last letter that what follows has to keep.
  induction chunks generalizing letters with
  | nil =>
    cases letters with
    | nil => exact absurd rfl filled
    | cons c letters => cases List.prefix_nil.mp begins
  | cons chunk rest ih =>
    cases letters with
    | nil => exact absurd rfl filled
    | cons c letters =>
      rw [List.map_cons, sure, List.map_cons, List.cons_prefix_cons] at begins
      obtain ⟨letter, safe⟩ := letter?_sure begins.1.symm
      cases letters with
      -- The last letter is kept by what follows it.
      | nil => exact ⟨[chunk], rest, rfl, by simp [letter], safe⟩
      | cons d letters =>
        obtain ⟨run, behind, rfl, spelled, safe⟩ := ih (by simp) begins.2
        exact ⟨chunk :: run, behind, rfl, by simp [letter, spelled], safe⟩

/-- Letters that no match leaves out are demanded. -/
theorem demands_of_spells_sure {letters : List Char} {chunks : List Chunk} (filled : letters ≠ [])
    (spells : Spells letters (sure chunks)) : Demands chunks letters := by
  -- The letters begin somewhere, and the chunks up to there stand before them.
  induction chunks with
  | nil => exact absurd (List.map_eq_nil_iff.mp (List.infix_nil.mp spells)) filled
  | cons chunk rest ih =>
    rcases List.infix_cons_iff.mp spells with begins | within
    · -- The letters begin with this chunk.
      have begins : letters.map some <+: (sure (chunk :: rest)).map Chunk.letter? := begins
      obtain ⟨run, behind, same, spelled, safe⟩ := exists_of_isPrefix_sure filled begins
      exact ⟨[], run, behind, same, spelled, safe⟩
    · obtain ⟨before, run, behind, rfl, spelled, safe⟩ := ih within
      exact ⟨chunk :: before, run, behind, rfl, spelled, safe⟩

section Shortcut

variable {chunks left certain : List Chunk} {s : List Char}

/--
The source is one that the steps cut between its chunks.

It is on one line, no backslash is escaped in it, and the first chunk of each kind stands behind a
character. What the steps leave of it has the same longest literal when characters that a match may
leave out are dots from the start, and when letters of escapes are dots in the end.
-/
structure CutsWell (chunks left certain : List Chunk) : Prop where
  fits : ∀ chunk ∈ chunks, chunk.Fits
  single : ¬ ['\\', '\\'] <:+: source chunks
  line : '\n' ∉ source chunks
  blotted : blotted? chunks = some left
  kept : blotted? (sure chunks) = some certain
  chosen : longestLiteral (source (certain.map unlettered)) = longestLiteral (source left)

/-- Where the steps cut well, the source demands the literal that is chosen in the end. -/
theorem CutsWell.demands (cuts : CutsWell chunks left certain) :
    Demands chunks (longestLiteral (blottedText (source chunks))) := by
  have sound : ∀ chunk ∈ chunks, Sound chunk := by
    refine fun chunk member => ⟨cuts.fits chunk member, fun twice => cuts.single ?_⟩
    exact twice.trans (List.infix_of_mem_flatten (List.mem_map_of_mem member))
  -- The literal is one of the parts without escaped letters, and is followed back from there.
  obtain ⟨text, _⟩ := blotted?_spec sound cuts.line cuts.blotted
  obtain ⟨complete, line⟩ := sound_sure sound cuts.line
  obtain ⟨_, fits, flat, back⟩ := blotted?_spec complete line cuts.kept
  rw [text, ← cuts.chosen]
  by_cases filled : longestLiteral (source (certain.map unlettered)) = []
  · -- No letters at all are demanded by any source.
    rw [filled]
    exact ⟨chunks, [], [], by simp, rfl, rfl⟩
  have member : longestLiteral (source (certain.map unlettered)) ∈
      literalParts [] (source (certain.map unlettered)) :=
    (List.mem_cons.mp (Text.foldl_longest_mem ..)).resolve_left filled
  have plain := plain_of_mem_literalParts (by simp) member
  -- Characters and escapes are all that is left, so a literal part is spelled out by them.
  have simple : ∀ chunk ∈ certain.map unlettered, chunk.Fits ∧ isSimple chunk = true := by
    intro chunk within
    obtain ⟨other, origin, rfl⟩ := List.mem_map.mp within
    exact simple_unlettered (fits other origin) (flat other origin)
  have spells : Spells (longestLiteral (source (certain.map unlettered)))
      (certain.map unlettered) := by
    rcases spells_of_mem_literalParts (fun chunk within => (simple chunk within).1)
      (fun chunk within => (simple chunk within).2) member
      with ⟨letters, same, begins⟩ | empty | empty | spells
    · rw [same]
      exact begins.isInfix
    · exact absurd empty filled
    · exact absurd empty filled
    · exact spells
  exact demands_of_spells_sure filled (back _ filled plain (spells_unlettered.mp spells))

/-- What the expression of a character matches is a variant of it, case being ignored or not. -/
theorem mem_caseVariants_of_fold {ignoreCase : Bool} {c d : Char} (ascii : d.toNat < 128)
    (member : (({ ignoreCase } : Regex.Flags).fold (.only c)).has d = true) :
    c ∈ Text.caseVariants d := by
  cases ignoreCase with
  | true => simpa [Regex.Flags.fold, CharSet.has] using member
  | false =>
    -- With regard to case the characters are equal.
    obtain rfl : c = d := by simpa [Regex.Flags.fold] using member
    exact (Text.mem_caseVariants_iff ascii ascii).mpr rfl

/--
The shortcut is taken from letters that stand by themselves in the source.

The source consists of complete chunks, and demands the literal that is chosen in the end. The case of
that literal is regular.
-/
structure Faithful (chunks : List Chunk) : Prop where
  fits : ∀ chunk ∈ chunks, chunk.Fits
  demands : Demands chunks (longestLiteral (blottedText (source chunks)))
  regular : (longestLiteral (blottedText (source chunks))).any Text.foldsIntoAscii = false

/-- What matches a faithful source contains the shortcut once it is in lower case. -/
theorem Faithful.contains_of_search (faithful : Faithful chunks) {ignoreCase : Bool}
    {r : Regex} (compiled : Regex.compile ignoreCase (source chunks) = .ok r)
    (short : regexShortcut (source chunks) = some s) {url : List Char}
    (ascii : ∀ c ∈ url, c.toNat < 128) (found : r.search url = true) :
    Text.contains (Text.lower url) s = true := by
  -- The letters stand in every match as they are, up to case, which lower case does away with.
  obtain ⟨eager, _, rfl⟩ := regexShortcut_eq_some short
  obtain ⟨fits, demands, regular⟩ := faithful
  generalize longestLiteral (blottedText (source chunks)) = letters at demands regular ⊢
  obtain ⟨part, inside, same⟩ := demands.exists_of_search fits eager compiled found
  have regular : ∀ c ∈ letters, Text.foldsIntoAscii c = false := by simpa using regular
  -- Each letter is a variant of what it matches, and has the same lower case.
  have variants : List.Forall₂ (fun c d => c ∈ Text.caseVariants d) letters part := by
    rw [List.forall₂_iff_zip] at same ⊢
    refine ⟨same.1, fun pair => ?_⟩
    have low := ascii _ (inside.subset (List.of_mem_zip pair).2)
    exact mem_caseVariants_of_fold low (same.2 pair)
  have agrees := Text.lowerAgrees_of_ascii ascii regular
  exact Text.contains_iff.mpr (Text.lower_infix agrees variants inside)

end Shortcut

/-- An expression that has no shortcut, or a faithful one. -/
def IsFaithful (body : List Char) : Prop :=
  regexShortcut body = none ∨ ∃ chunks, body = source chunks ∧ Faithful chunks

/-- A rule that is written as an expression has the shortcut of that, or none. -/
theorem shortcut_of_isRegexRule {text : String} {filterId : Nat} {rule : NetworkRule}
    (compiled : compile text filterId = .ok rule) (regex : rule.isRegexRule = true) :
    (∃ ignoreCase, Regex.compile ignoreCase rule.source.toList = .ok rule.regex) ∧
      (rule.shortcut = none ∨
        rule.shortcut = (regexShortcut rule.source.toList).map String.ofList) := by
  -- Only a pattern between slashes, or one for every address, makes such a rule.
  obtain ⟨options, expression, _, read, rfl⟩ := compile_eq_ok compiled
  refine ⟨⟨_, by simpa [assemble] using read⟩, ?_⟩
  generalize Text.trim text.toList = line at regex ⊢
  simp only [assemble, address] at regex ⊢
  split at regex
  · rename_i slashed
    simp only [if_pos slashed]
    split
    · exact Or.inl rfl
    · exact Or.inr (by simp)
  · cases regex

/-- Without a shortcut, a rule asks for the party, the type and the expression alone. -/
theorem filters_without_shortcut (rule : NetworkRule) (url : String) (thirdParty : Bool)
    (types : TypeSet) : { rule with shortcut := none }.filters url thirdParty types =
      (rule.party.accepts thirdParty && rule.acceptsType types && rule.regex.search url.toList) := by
  -- Without a shortcut there is nothing to be looked for in the address.
  simp only [NetworkRule.filters, NetworkRule.hasShortcut, Option.all_none, Bool.and_true]
  rfl

/--
A faithful shortcut changes no answer.

What matches the expression contains the shortcut, and so a rule for the expression means the same
addresses with and without looking for its shortcut first.
-/
theorem regexShortcut_sound {body : List Char} (faithful : IsFaithful body) :
    (∀ ignoreCase r s url, Regex.compile ignoreCase body = .ok r → regexShortcut body = some s →
      (∀ c ∈ url, c.toNat < 128) → r.search url = true →
        Text.contains (Text.lower url) s = true) ∧
    ∀ text filterId rule, compile text filterId = .ok rule → rule.isRegexRule = true →
      rule.source.toList = body → ∀ url thirdParty types, (∀ c ∈ url.toList, c.toNat < 128) →
        rule.filters url thirdParty types =
          { rule with shortcut := none }.filters url thirdParty types := by
  have contains (ignoreCase : Bool) (r : Regex) (s url : List Char)
      (compiled : Regex.compile ignoreCase body = .ok r) (short : regexShortcut body = some s)
      (ascii : ∀ c ∈ url, c.toNat < 128) (found : r.search url = true) :
      Text.contains (Text.lower url) s = true := by
    rcases faithful with absent | ⟨chunks, rfl, faithful⟩
    · rw [absent] at short
      cases short
    · exact faithful.contains_of_search compiled short ascii found
  refine ⟨contains, ?_⟩
  rintro text filterId rule compiled regex rfl url thirdParty types ascii
  -- The rule has the expression of its source, and the shortcut of that or none.
  obtain ⟨⟨ignoreCase, read⟩, shortcut⟩ := shortcut_of_isRegexRule compiled regex
  -- Only where the expression is found does the shortcut matter.
  have present (found : rule.regex.search url.toList = true) : rule.hasShortcut url = true := by
    unfold NetworkRule.hasShortcut
    rcases shortcut with absent | same
    · simp [absent]
    · cases short : regexShortcut rule.source.toList with
      | none => simp [same, short]
      | some s => simpa [same, short] using contains ignoreCase _ s _ read short ascii found
  rw [filters_without_shortcut, NetworkRule.filters]
  cases found : rule.regex.search url.toList with
  -- Where the expression is found, so is the shortcut.
  | true => simp [present found]
  -- Where it is not found, the rule does not mean the address anyway.
  | false => simp

/-- A set and a group behind a name, of which all letters but the last are the shortcut. -/
theorem regexShortcut_sound_banner :
    IsFaithful "banner[0-9]+\\.(gif|png)".toList ∧
      ∃ r s rule, Regex.compile true "banner[0-9]+\\.(gif|png)".toList = .ok r ∧
        regexShortcut "banner[0-9]+\\.(gif|png)".toList = some s ∧
        r.search "http://x.com/Banner12.PNG".toList = true ∧
        Text.contains (Text.lower "http://x.com/Banner12.PNG".toList) s = true ∧
        compile "/banner[0-9]+\\.(gif|png)/" 0 = .ok rule ∧
        rule.filters "http://x.com/Banner12.PNG" false (.only .image) =
          { rule with shortcut := none }.filters "http://x.com/Banner12.PNG" false (.only .image) := by
  -- The chunks are the body as it is written; the steps leave what they compute to.
  have faithful : IsFaithful "banner[0-9]+\\.(gif|png)".toList := by
    let chunks : List Chunk := [.char 'b', .char 'a', .char 'n', .char 'n', .char 'e', .char 'r',
      .set ['0', '-', '9'], .char '+', .escape '.', .group ['g', 'i', 'f', '|', 'p', 'n', 'g']]
    have inside : Regex.Paired ['g', 'i', 'f', '|', 'p', 'n', 'g'] := Regex.paired_of_all rfl
    have fits : ∀ chunk ∈ chunks, chunk.Fits := by
      simp [chunks, Chunk.Fits, Regex.isBracket, Regex.isSetBody, Regex.isShortEscape,
        Regex.isEscapable, inside]
    have cuts : CutsWell chunks _ _ :=
      ⟨fits, by decide +kernel, by decide +kernel, rfl, rfl, by decide +kernel⟩
    exact Or.inr ⟨chunks, by decide +kernel, fits, cuts.demands, by decide +kernel⟩
  -- Everything else is computed for the one address.
  obtain ⟨contains, same⟩ := regexShortcut_sound faithful
  have found : ((Regex.compile true "banner[0-9]+\\.(gif|png)".toList).toOption.any
      (·.search "http://x.com/Banner12.PNG".toList)) = true := by cbv
  have accepted : ((compile "/banner[0-9]+\\.(gif|png)/" 0).toOption.any fun rule =>
      rule.isRegexRule && rule.source.toList == "banner[0-9]+\\.(gif|png)".toList) = true := by
    decide +kernel
  have short : regexShortcut "banner[0-9]+\\.(gif|png)".toList = some "banne".toList := by
    decide +kernel
  have ascii : ∀ c ∈ "http://x.com/Banner12.PNG".toList, c.toNat < 128 := by simp
  obtain ⟨r, compiled, found⟩ := exists_of_any_toOption found
  obtain ⟨rule, read, accepted⟩ := exists_of_any_toOption accepted
  simp only [Bool.and_eq_true, beq_iff_eq] at accepted
  exact ⟨faithful, r, _, rule, compiled, short, found,
    contains true r _ _ compiled short ascii found, read,
    same _ 0 rule read accepted.1 accepted.2 _ false (.only .image) ascii⟩

/--
A set before a group is cut open, and what stands in it is taken for a literal.

The address matches, and the rule is still not found to mean it.
-/
theorem regexShortcut_unsound :
    ∃ r s rule, Regex.compile true "ad[0-9](foo|bar)".toList = .ok r ∧
      regexShortcut "ad[0-9](foo|bar)".toList = some s ∧
      r.search "http://x.com/ad5foo".toList = true ∧
      Text.contains (Text.lower "http://x.com/ad5foo".toList) s = false ∧
      compile "/ad[0-9](foo|bar)/" 0 = .ok rule ∧
      rule.filters "http://x.com/ad5foo" false (.only .script) = false ∧
      { rule with shortcut := none }.filters "http://x.com/ad5foo" false (.only .script) = true := by
  -- The expression and the rule are computed, and so are the shortcut and the search.
  have lacks : Text.contains (Text.lower "http://x.com/ad5foo".toList) "0-9".toList = false := by
    decide +kernel
  have found : ((Regex.compile true "ad[0-9](foo|bar)".toList).toOption.any
      (·.search "http://x.com/ad5foo".toList)) = true := by cbv
  have accepted : ((compile "/ad[0-9](foo|bar)/" 0).toOption.any fun rule =>
      (Regex.compile true "ad[0-9](foo|bar)".toList).toOption == some rule.regex &&
        rule.shortcut == some "0-9" && rule.party.accepts false &&
        rule.acceptsType (.only .script)) = true := by decide +kernel
  obtain ⟨r, compiled, found⟩ := exists_of_any_toOption found
  obtain ⟨rule, read, accepted⟩ := exists_of_any_toOption accepted
  simp only [compiled, Bool.and_eq_true, beq_iff_eq, Except.toOption, Option.some.injEq] at accepted
  obtain ⟨⟨⟨same, short⟩, party⟩, types⟩ := accepted
  refine ⟨r, "0-9".toList, rule, compiled, by decide +kernel, found, lacks, read, ?_, ?_⟩
  · have absent : rule.hasShortcut "http://x.com/ad5foo" = false := by
      simp only [NetworkRule.hasShortcut, short, Option.all_some, lacks]
    simp only [NetworkRule.filters, absent, Bool.and_false, Bool.false_and]
  · rw [filters_without_shortcut, party, types, ← same, found]
    rfl

/-- A group takes the star before it away, and a second escaped letter stays. -/
example : regexShortcut "abc*(d)".toList = some "abc".toList ∧
    regexShortcut "\\d\\dbanner".toList = some "dbanner".toList := by decide +kernel

end AdFilter.Network
