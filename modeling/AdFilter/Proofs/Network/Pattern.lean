import AdFilter.Proofs.Network.PatternSource
import AdFilter.Proofs.Regex.Shapes
import AdFilter.Proofs.Text.AsciiCase

/-! Which addresses a basic pattern means, read directly, and that its expression finds just these. -/

namespace AdFilter

namespace Network

open Regex

/-! ### The direct reading -/

/-- A character that may separate the parts of an address. -/
def isSeparator (c : Char) : Bool := !(c == ' ' || c.isAlphanum || c == '.' || c == '%')

/-- A character that may stand in the name of a host. -/
def isNameChar (c : Char) : Bool := c.isAlphanum || c == '-' || c == '_' || c == '.'

/-- One character of a pattern takes a word of an address, where so much is left behind it. -/
def CharTakes (c : Char) (word left : List Char) : Prop :=
  if c = '*' then '\n' ∉ word
  else if c = '^' then (∃ d, word = [d] ∧ isSeparator d = true) ∨ word = [] ∧ left = []
  else ∃ d, word = [d] ∧ d.toLower = c.toLower

/-- A pattern takes the start of an address and leaves the rest. -/
def Takes : List Char → List Char → List Char → Prop
  | [], text, rest => text = rest
  | c :: body, text, rest =>
    ∃ word left, text = word ++ left ∧ CharTakes c word left ∧ Takes body left rest

/-- What stands behind the anchor of a pattern; a bar at its end leaves nothing of the address. -/
def BodyTakes (body text : List Char) : Prop :=
  if body.getLast? = some '|' then Takes body.dropLast text [] else ∃ rest, Takes body text rest

/-- The start of an address up to its host, or up to a domain that the host belongs to. -/
def IsHostStart (word : List Char) : Prop :=
  ∃ scheme names, word = scheme ++ "://".toList ++ names ∧
    (∃ known ∈ schemes, scheme.map Char.toLower = known.toList) ∧
    (names = [] ∨ ∃ name, names = name ++ ['.'] ∧ name ≠ [] ∧ name.all isNameChar = true)

/-- A pattern means an address. -/
def Means : List Char → List Char → Prop
  | '|' :: '|' :: body, url =>
    ∃ start text, url = start ++ text ∧ IsHostStart start ∧ BodyTakes body text
  | '|' :: body, url => BodyTakes body url
  | body, url => ∃ passed text, url = passed ++ text ∧ BodyTakes body text

/-! ### The expressions of its parts -/

section Sets

variable {c d : Char}

/-- Under folding, the set of a character holds what has the same small letter. -/
theorem has_letter_iff (ascii : c.toNat < 128) (other : d.toNat < 128) :
    (folding.fold (.only c)).has d = true ↔ d.toLower = c.toLower := by
  -- Folding brings in the variants of the letter, and in ASCII these differ in case.
  rw [← Text.mem_caseVariants_iff ascii other]
  simp [folding, Flags.fold, CharSet.has]

/-- All ASCII characters but the separators are plain. -/
theorem has_plainSet (ascii : d.toNat < 128) : (plainSet folding).has d = !isSeparator d :=
  -- There are 128 characters to be asked.
  Text.forall_ascii (P := fun d => (plainSet folding).has d = !isSeparator d) (by decide) ascii

/-- The set for names holds the ASCII characters that may stand in the name of a host. -/
theorem has_nameSet (ascii : d.toNat < 128) : (nameSet folding).has d = isNameChar d :=
  -- There are 128 characters to be asked.
  Text.forall_ascii (P := fun d => (nameSet folding).has d = isNameChar d) (by decide) ascii

end Sets

variable {before after : Option Char} {word text left : List Char}

/-- The expressions of letters match these letters in any case. -/
theorem matches_letters_iff {letters : List Char} (ascii : ∀ c ∈ letters, c.toNat < 128)
    (other : ∀ c ∈ word, c.toNat < 128) :
    Matches (cats (letters.map (letterExpr folding))) before word after ↔
      word.map Char.toLower = letters.map Char.toLower := by
  -- Each letter takes one character off the word, so the word goes on with what is left.
  induction letters generalizing before word with
  | nil => simp [cats]
  | cons c letters ih =>
    simp only [List.forall_mem_cons] at ascii
    rw [List.map_cons, matches_cats_cons_iff]
    constructor
    · rintro ⟨_, v, rfl, first, second⟩
      obtain ⟨d, rfl, member⟩ := matches_chars_iff.mp first
      simp only [List.cons_append, List.nil_append, List.forall_mem_cons] at other ⊢
      rw [List.map_cons, List.map_cons, (has_letter_iff ascii.1 other.1).mp member,
        (ih ascii.2 other.2).mp second]
    · intro same
      cases word with
      | nil => cases same
      | cons d v =>
        simp only [List.forall_mem_cons] at other
        simp only [List.map_cons, List.cons.injEq] at same
        exact ⟨[d], v, rfl, .chars ((has_letter_iff ascii.1 other.1).mpr same.1),
          (ih ascii.2 other.2).mpr same.2⟩

/-- The expression of a character matches what the character takes. -/
theorem matches_charExpr_iff {c : Char} (ascii : c.toNat < 128) (other : ∀ d ∈ word, d.toNat < 128) :
    Matches (charExpr folding c) before word left.head? ↔ CharTakes c word left := by
  unfold charExpr CharTakes
  -- A star, a caret and any other character have expressions of their own.
  split
  · rw [anythingExpr, matches_run_iff]
    simp [CharSet.has, List.forall_mem_ne]
  · split
    · -- A caret takes a separator, or nothing at the end of the address.
      rw [separatorExpr, matches_alt_iff, matches_chars_iff, matches_look_iff]
      constructor
      · rintro (⟨d, rfl, member⟩ | ⟨rfl, stop⟩)
        · refine .inl ⟨d, rfl, ?_⟩
          simpa [CharSet.has, has_plainSet (other d (by simp))] using member
        · exact .inr ⟨rfl, by simpa [Anchor.holds] using stop⟩
      · rintro (⟨d, rfl, separates⟩ | ⟨rfl, rfl⟩)
        · refine .inl ⟨d, rfl, ?_⟩
          simpa [CharSet.has, has_plainSet (other d (by simp))] using separates
        · exact .inr ⟨rfl, rfl⟩
    · rw [letterExpr, matches_chars_iff]
      constructor
      · rintro ⟨d, rfl, member⟩
        exact ⟨d, rfl, (has_letter_iff ascii (other d (by simp))).mp member⟩
      · rintro ⟨d, rfl, same⟩
        exact ⟨d, rfl, (has_letter_iff ascii (other d (by simp))).mpr same⟩

/-- The expressions of a pattern begin a text just where the pattern takes its start. -/
theorem exists_matches_iff_takes {body rest : List Char} (before : Option Char)
    (ascii : ∀ c ∈ body, c.toNat < 128) (other : ∀ c ∈ text, c.toNat < 128) :
    (∃ word, text = word ++ rest ∧
      Matches (cats (body.map (charExpr folding))) before word rest.head?) ↔
      Takes body text rest := by
  -- Each character hands what it leaves of the text to the characters behind it.
  induction body generalizing before text with
  | nil => simp [cats, Takes]
  | cons c body ih =>
    simp only [List.forall_mem_cons] at ascii
    simp only [List.map_cons, matches_cats_cons_iff, Takes]
    constructor
    · rintro ⟨_, rfl, u, v, rfl, first, second⟩
      simp only [List.forall_mem_append] at other
      -- What the character takes is followed by the first character of all that is left.
      rw [firstOr_head?] at first
      refine ⟨u, v ++ rest, by simp, (matches_charExpr_iff ascii.1 other.1.1).mp first, ?_⟩
      have behind : ∀ d ∈ v ++ rest, d.toNat < 128 := List.forall_mem_append.mpr ⟨other.1.2, other.2⟩
      exact (ih (lastOr before u) ascii.2 behind).mp ⟨v, rfl, second⟩
    · rintro ⟨u, left, rfl, first, takes⟩
      simp only [List.forall_mem_append] at other
      obtain ⟨v, rfl, second⟩ := (ih (lastOr before u) ascii.2 other.2).mpr takes
      refine ⟨u ++ v, by simp, u, v, rfl, ?_, second⟩
      rw [firstOr_head?]
      exact (matches_charExpr_iff ascii.1 other.1).mpr first

/-- The expressions of what follows the anchor begin the texts whose start that takes. -/
theorem begins_bodyExprs_iff {body : List Char} (ascii : ∀ c ∈ body, c.toNat < 128)
    (other : ∀ c ∈ text, c.toNat < 128) :
    Begins (cats (bodyExprs folding body)) before text ↔ BodyTakes body text := by
  unfold bodyExprs BodyTakes
  -- A bar at the end of the body is an anchor of its own, behind the expressions of the rest.
  cases ends : List.isSuffixOf? ['|'] body with
  | none =>
    have last : body.getLast? ≠ some '|' := by
      intro last
      obtain ⟨inside, rfl⟩ := List.getLast?_eq_some_iff.mp last
      rw [List.isSuffixOf?_eq_some_iff_append_eq.mpr rfl] at ends
      cases ends
    simp only [if_neg last, ← exists_matches_iff_takes before ascii other, Begins]
    exact exists_comm
  | some inside =>
    rw [List.isSuffixOf?_eq_some_iff_append_eq] at ends
    subst ends
    simp only [List.forall_mem_append] at ascii
    simp only [List.getLast?_concat, List.dropLast_concat, if_true,
      ← exists_matches_iff_takes before ascii.1 other, Begins]
    constructor
    · rintro ⟨_, rest, rfl, here⟩
      obtain ⟨u, v, rfl, first, second⟩ := matches_cats_append_iff.mp here
      obtain ⟨rfl, stop⟩ := matches_look_iff.mp second
      -- The end of the text is where the bar holds, so nothing is left.
      obtain rfl : rest = [] := by simpa [Anchor.holds] using stop
      exact ⟨u, by simp, first⟩
    · rintro ⟨u, rfl, first⟩
      refine ⟨u, [], rfl, matches_cats_append_iff.mpr ⟨u, [], by simp, first, ?_⟩⟩
      exact .look rfl

/-- The schemes are made of small letters. -/
theorem schemes_spec {scheme : String} (known : scheme ∈ schemes) :
    scheme.toList.map Char.toLower = scheme.toList ∧
      ∀ c ∈ scheme.toList, c.toNat < 128 ∧ c ≠ ':' ∧ c ≠ '/' := by
  revert scheme
  -- Each of the schemes is a word in small letters.
  simp [schemes]

/-- The expression of the scheme matches the schemes in any case. -/
theorem matches_schemeExpr_iff (other : ∀ c ∈ word, c.toNat < 128) :
    Matches (schemeExpr folding) before word after ↔
      ∃ name ∈ schemes, word.map Char.toLower = name.toList := by
  -- The letters of a scheme are small already, so only those of the word are made small.
  have matches_name {name : String} (member : name ∈ schemes) :
      Matches (cats (name.toList.map (letterExpr folding))) before word after ↔
        word.map Char.toLower = name.toList := by
    obtain ⟨small, plain⟩ := schemes_spec member
    rw [matches_letters_iff (fun c inside => (plain c inside).1) other, small]
  simp only [schemeExpr, matches_alts_iff, List.mem_map]
  constructor
  · rintro ⟨_, ⟨name, member, rfl⟩, here⟩
    exact ⟨name, member, (matches_name member).mp here⟩
  · rintro ⟨name, member, same⟩
    exact ⟨_, ⟨name, member, rfl⟩, (matches_name member).mpr same⟩

/-- The expression of a subdomain matches names with a dot behind them. -/
theorem matches_subdomainExpr_iff (other : ∀ c ∈ word, c.toNat < 128) :
    Matches (subdomainExpr folding) before word after ↔
      ∃ name, word = name ++ ['.'] ∧ name ≠ [] ∧ name.all isNameChar = true := by
  -- No letter has a dot for its small letter, so folding adds nothing to it.
  have dot {d : Char} (low : d.toNat < 128) : (folding.fold (.only '.')).has d = true ↔ d = '.' := by
    rw [has_letter_iff (by decide) low]
    exact Text.toLower_eq_iff (by decide)
  rw [subdomainExpr, matches_cat_iff]
  constructor
  · rintro ⟨name, _, rfl, first, second⟩
    obtain ⟨d, rfl, member⟩ := matches_chars_iff.mp second
    -- The run takes at least one character, and only such as names are made of.
    obtain ⟨filled, all⟩ := matches_run_iff.mp first
    simp only [List.forall_mem_append] at other
    obtain rfl := (dot (other.2 d (by simp))).mp member
    refine ⟨name, rfl, List.ne_nil_of_length_pos filled, List.all_eq_true.mpr fun c inside => ?_⟩
    rw [← has_nameSet (other.1 c inside)]
    exact all c inside
  · rintro ⟨name, rfl, filled, all⟩
    simp only [List.forall_mem_append] at other
    have run : Matches (.times (.chars (nameSet folding)) 1 none) before name
        (firstOr ['.'] after) := by
      refine matches_run_iff.mpr ⟨List.length_pos_of_ne_nil filled, fun c inside => ?_⟩
      rw [has_nameSet (other.1 c inside)]
      exact List.all_eq_true.mp all c inside
    exact ⟨name, ['.'], rfl, run, .chars ((dot (by decide)).mpr rfl)⟩

/-- The anchor for hosts matches the start of an address up to a domain of its host. -/
theorem matches_hostExprs_iff (other : ∀ c ∈ word, c.toNat < 128) :
    Matches (cats (hostExprs folding)) before word after ↔ before = none ∧ IsHostStart word := by
  -- There are no letters in what stands between the scheme and the host, either.
  have colon {word : List Char} {before after : Option Char} (other : ∀ c ∈ word, c.toNat < 128) :
      Matches (cats ("://".toList.map (letterExpr folding))) before word after ↔ word = "://".toList := by
    rw [matches_letters_iff (by simp) other]
    exact Text.map_toLower_eq_iff (by simp)
  rw [hostExprs, matches_cats_append_iff]
  constructor
  · rintro ⟨_, names, rfl, first, last⟩
    -- The expressions are the start of the text, a scheme, the slashes and a subdomain, if any.
    obtain ⟨_, slashes, rfl, start, middle⟩ := matches_cats_append_iff.mp first
    obtain ⟨_, scheme, rfl, place, first⟩ := matches_cat_iff.mp start
    obtain ⟨rfl, holds⟩ := matches_look_iff.mp place
    simp only [List.nil_append, List.forall_mem_append] at other
    obtain rfl := (colon other.1.2).mp middle
    have known := (matches_schemeExpr_iff other.1.1).mp first
    have site := (matches_optional_iff.mp last).imp_right (matches_subdomainExpr_iff other.2).mp
    exact ⟨by simpa [Anchor.holds] using holds, scheme, names, rfl, known, site⟩
  · rintro ⟨rfl, scheme, names, rfl, known, site⟩
    simp only [List.forall_mem_append] at other
    refine ⟨scheme ++ "://".toList, names, rfl, ?_, ?_⟩
    · refine matches_cats_append_iff.mpr ⟨scheme, "://".toList, rfl, ?_, (colon other.1.2).mpr rfl⟩
      refine matches_cat_iff.mpr ⟨[], scheme, rfl, .look rfl, ?_⟩
      exact (matches_schemeExpr_iff other.1.1).mpr known
    · exact matches_optional_iff.mpr (site.imp_right (matches_subdomainExpr_iff other.2).mpr)

/-- The expression of a pattern occurs in the addresses that the pattern means. -/
theorem occurs_patternExpr_iff {pattern url : List Char} (ascii : ∀ c ∈ pattern, c.toNat < 128)
    (other : ∀ c ∈ url, c.toNat < 128) :
    Occurs (patternExpr folding pattern) url ↔ Means pattern url := by
  simp only [occurs_iff_begins, patternExpr, begins_append_iff]
  -- The three kinds of anchor; both of the first two hold the match at the start of the address.
  fun_cases Means pattern url with
  | case1 _ body =>
    simp only [List.forall_mem_cons] at ascii
    simp only [anchorExprs, cutAnchor]
    constructor
    · rintro ⟨passed, _, rfl, start, text, rfl, first, second⟩
      -- The anchor holds at the start of the text alone, so nothing was passed before it.
      simp only [List.forall_mem_append] at other
      obtain ⟨place, host⟩ := (matches_hostExprs_iff other.2.1).mp first
      obtain rfl := List.getLast?_eq_none_iff.mp place
      exact ⟨start, text, rfl, host, (begins_bodyExprs_iff ascii.2.2 other.2.2).mp second⟩
    · rintro ⟨start, text, rfl, host, takes⟩
      simp only [List.forall_mem_append] at other
      exact ⟨[], _, rfl, start, text, rfl, (matches_hostExprs_iff other.1).mpr ⟨rfl, host⟩,
        (begins_bodyExprs_iff ascii.2.2 other.2).mpr takes⟩
  | case2 body _ single =>
    obtain ⟨cut, anchor⟩ := anchor_bar folding single
    simp only [List.forall_mem_cons] at ascii
    rw [cut, anchor]
    constructor
    · rintro ⟨passed, _, rfl, _, text, rfl, place, second⟩
      -- The anchor takes nothing itself, but holds at the start alone.
      simp only [List.forall_mem_append] at other
      obtain ⟨rfl, holds⟩ := matches_look_iff.mp place
      obtain rfl : passed = [] := by simpa [Anchor.holds] using holds
      exact (begins_bodyExprs_iff ascii.2 other.2.2).mp second
    · intro takes
      exact ⟨[], url, rfl, [], url, rfl, .look rfl,
        (begins_bodyExprs_iff ascii.2 other).mpr takes⟩
  | case3 _ _ _ plain =>
    obtain ⟨cut, anchor⟩ := anchor_none folding plain
    rw [cut, anchor]
    constructor
    · rintro ⟨passed, _, rfl, _, text, rfl, nothing, second⟩
      -- With no anchor, any part of the address may be passed first.
      simp only [List.forall_mem_append] at other
      obtain rfl := matches_empty_iff.mp nothing
      exact ⟨passed, text, rfl, (begins_bodyExprs_iff ascii other.2.2).mp second⟩
    · rintro ⟨passed, text, rfl, takes⟩
      simp only [List.forall_mem_append] at other
      exact ⟨passed, text, rfl, [], text, rfl, .empty,
        (begins_bodyExprs_iff ascii other.2).mpr takes⟩

/-- The search for the expression of a pattern finds it in the addresses that the pattern means. -/
theorem search_patternExpr_iff {pattern url : List Char} (ascii : ∀ c ∈ pattern, c.toNat < 128)
    (other : ∀ c ∈ url, c.toNat < 128) :
    (patternExpr folding pattern).search url = true ↔ Means pattern url := by
  have parsed : parse? true (patternSource pattern) = some (patternExpr folding pattern) :=
    parse?_patternSource true pattern
  -- The expression is small enough for the search to find what occurs.
  rw [search_iff_occurs (bounded_parse? parsed)]
  exact occurs_patternExpr_iff ascii other

/--
The source of a basic pattern is an expression, which is found in the addresses that the pattern means.

Case is ignored, and the expression may turn out too large; nothing else can be wrong with it.
-/
theorem search_patternSource_iff {pattern : List Char} (ascii : ∀ c ∈ pattern, c.toNat < 128) :
    (∀ ignoreCase, Regex.compile ignoreCase (patternSource pattern) ≠ .error .malformed) ∧
      ∃ r, Regex.compile true (patternSource pattern) =
          (if r.weight ≤ maxWeight then .ok r else .error .tooLarge) ∧
        ∀ url : List Char, (∀ c ∈ url, c.toNat < 128) → (r.search url = true ↔ Means pattern url) := by
  refine ⟨fun ignoreCase => ?_, patternExpr folding pattern, compile_patternSource true pattern,
    fun url other => search_patternExpr_iff ascii other⟩
  -- What is too large is another error than what is malformed.
  rw [compile_patternSource]
  split <;> simp

/-- A pattern for a host and all below it. -/
theorem search_patternSource_iff_ads : (∀ c ∈ "||ads^".toList, c.toNat < 128) ∧
    (∀ ignoreCase, Regex.compile ignoreCase (patternSource "||ads^".toList) ≠ .error .malformed) ∧
      ∃ r, Regex.compile true (patternSource "||ads^".toList) =
          (if r.weight ≤ maxWeight then .ok r else .error .tooLarge) ∧
        ∀ url : List Char, (∀ c ∈ url, c.toNat < 128) →
          (r.search url = true ↔ Means "||ads^".toList url) :=
  ⟨by simp, search_patternSource_iff (by simp)⟩

end Network

end AdFilter
