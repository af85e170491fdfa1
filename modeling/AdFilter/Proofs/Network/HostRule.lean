import AdFilter.Proofs.Index.Domains
import AdFilter.Proofs.Network.Compile
import AdFilter.Proofs.Network.Literal
import AdFilter.Proofs.Network.Pattern
import AdFilter.Proofs.Url

/-! Rules for a host, and the hosts whose addresses they mean. -/

namespace AdFilter

/-- An entry without a star is not open-ended. -/
theorem DomainTable.isOpenEnded_eq_false {entry : String} (free : '*' ∉ entry.toList) :
    isOpenEnded entry = false := by
  rw [← Bool.not_eq_true, isOpenEnded, String.endsWith_eq_endsWith_toSlice,
    String.Slice.endsWith_string_iff, String.copy_toSlice]
  -- An open end would bring a star.
  exact fun ends => free (ends.subset (by simp))

namespace Network

open Regex

/-- Labels that are not empty, with dots between them. -/
def IsHost (allowed : Char → Bool) (host : List Char) : Prop :=
  ∃ labels : List (List Char), labels ≠ [] ∧
    (∀ label ∈ labels, label ≠ [] ∧ label.all allowed = true) ∧ host = ['.'].intercalate labels

/-- A character in the host of a rule. -/
def isRuleChar (c : Char) : Bool := c.isLower || c.isDigit || c == '-'

/-- A character in the host of an address. -/
def isHostChar (c : Char) : Bool := c.isAlphanum || c == '_' || c == '-'

section Characters

variable {c : Char}

/-- Whether a character may stand in the name of a host does not depend on its case. -/
theorem isNameChar_toLower (c : Char) : isNameChar c.toLower = isNameChar c := by
  -- Both cases of a letter are allowed, and any other character is its own small letter.
  by_cases upper : c.isUpper = true
  · have letter : c.isAlpha = true := by simp [Char.isAlpha, upper]
    simp [isNameChar, Char.isAlphanum, letter]
  · rw [Char.toLower_eq_of_not_isUpper upper]

/-- The names of hosts are ASCII texts. -/
theorem lt_of_isNameChar (name : isNameChar c = true) : c.toNat < 128 := by
  simp only [isNameChar, Char.isAlphanum, Char.isAlpha, Char.isUpper, Char.isLower, Char.isDigit,
    Bool.or_eq_true, Bool.and_eq_true, decide_eq_true_eq, beq_iff_eq, UInt32.le_iff_toNat_le] at name
  -- Letters and digits are bounded above; the marks are what they are.
  rcases name with ((((⟨_, high⟩ | ⟨_, high⟩) | ⟨_, high⟩) | rfl) | rfl) | rfl
  · exact lt_of_le_of_lt high (by decide)
  · exact lt_of_le_of_lt high (by decide)
  · exact lt_of_le_of_lt high (by decide)
  all_goals decide

/-- What may stand in the host of a rule is in small letters. -/
theorem isRuleChar_spec (allowed : isRuleChar c = true) : isNameChar c = true ∧ c.toLower = c := by
  simp only [isRuleChar, Bool.or_eq_true, beq_iff_eq] at allowed
  -- Small letters, digits and the one sign are what a host is made of, and have no other case.
  rcases allowed with (letter | digit) | rfl
  · exact ⟨by simp [isNameChar, Char.isAlphanum, Char.isAlpha, letter],
      Char.toLower_eq_of_not_isUpper (Char.not_isUpper_of_isLower letter)⟩
  · refine ⟨by simp [isNameChar, Char.isAlphanum, digit], (Text.toLower_eq_iff ?_).mpr rfl⟩
    exact (digit_spec digit).1
  · exact ⟨rfl, rfl⟩

/-- What may stand in the host of an address belongs to a name. -/
theorem isNameChar_of_isHostChar (allowed : isHostChar c = true) : isNameChar c = true := by
  -- All that a host is written with also stands in the list for names.
  simp only [isHostChar, Bool.or_eq_true] at allowed
  rcases allowed with (alnum | mark) | mark <;> simp [isNameChar, *]

/-- No character of a name ends a host or means something in a pattern. -/
theorem ne_of_isNameChar {d : Char} (name : isNameChar c = true) (other : isNameChar d = false) :
    c ≠ d := by
  rintro rfl
  rw [name] at other
  cases other

/-- No character of a name ends the part of an address that holds the host. -/
theorem not_endsAuthority (name : isNameChar c = true) : Url.endsAuthority c = false := by
  simp only [Url.endsAuthority, Bool.or_eq_false_iff, beq_eq_false_iff_ne]
  exact ⟨⟨ne_of_isNameChar name rfl, ne_of_isNameChar name rfl⟩, ne_of_isNameChar name rfl⟩

/-- A text that differs from a name only in case is a name. -/
theorem isNameChar_of_map_eq {name word : List Char} (plain : ∀ c ∈ name, isNameChar c = true)
    (spelled : word.map Char.toLower = name.map Char.toLower) : ∀ c ∈ word, isNameChar c = true := by
  intro c inside
  -- A letter of the word is the same as one of the name, but for its case.
  have lower : c.toLower ∈ name.map Char.toLower := spelled ▸ List.mem_map_of_mem inside
  obtain ⟨d, letter, same⟩ := List.mem_map.mp lower
  rw [← isNameChar_toLower, ← same, isNameChar_toLower]
  exact plain d letter

/-- What stands behind a host separates it from the rest. -/
theorem head_of_isTail {tail : List Char} (ends : Url.IsTail tail) :
    ∀ c ∈ tail.head?, isNameChar c = false ∧ isSeparator c = true := by
  intro c first
  cases tail with
  | nil => cases first
  | cons d rest =>
    obtain rfl : d = c := by simpa using first
    -- Behind a host there is its end, a mark that ends it, or the colon of a port.
    rcases ends with stops | ⟨rfl, _⟩
    · simp only [Url.endsAuthority, Bool.or_eq_true, beq_iff_eq] at stops
      rcases stops with (rfl | rfl) | rfl <;> exact ⟨rfl, rfl⟩
    · exact ⟨rfl, rfl⟩

end Characters

/-- A host is not empty and does not begin with a dot, and its other characters are allowed. -/
theorem IsHost.spec {allowed : Char → Bool} {host : List Char} (hosted : IsHost allowed host)
    (dot : allowed '.' = false) :
    host ≠ [] ∧ host.head? ≠ some '.' ∧ ∀ c ∈ host, allowed c = true ∨ c = '.' := by
  obtain ⟨labels, filled, all, rfl⟩ := hosted
  -- Only the first label is of interest at the front; the others stand behind dots.
  induction labels with
  | nil => exact absurd rfl filled
  | cons label labels ih =>
    simp only [List.forall_mem_cons] at all
    obtain ⟨⟨some, allowed'⟩, others⟩ := all
    cases label with
    | nil => exact absurd rfl some
    | cons c label =>
      have first : c ≠ '.' := by
        rintro rfl
        simp [dot] at allowed'
      have here : ∀ d ∈ c :: label, allowed d = true ∨ d = '.' := fun d member =>
        .inl (List.all_eq_true.mp allowed' d member)
      -- The dot in front of the next label is the one character that may not stand in any.
      cases labels with
      | nil => exact ⟨by simp, by simpa using first, by simpa using here⟩
      | cons next labels =>
        rw [List.intercalate_cons_cons]
        refine ⟨by simp, by simpa using first, fun d member => ?_⟩
        rw [List.mem_append, List.mem_append, List.mem_singleton] at member
        rcases member with (member | rfl) | member
        · exact here d member
        · exact .inr rfl
        · exact (ih (by simp) others).2.2 d member

/-- The host of a rule is a name in small letters. -/
theorem IsHost.rule_spec {name : List Char} (named : IsHost isRuleChar name) :
    name ≠ [] ∧ (∀ c ∈ name, isNameChar c = true) ∧ name.map Char.toLower = name := by
  obtain ⟨filled, _, letters⟩ := named.spec rfl
  -- Characters of a host rule and dots are small already.
  have plain : ∀ c ∈ name, isNameChar c = true ∧ c.toLower = c := fun c member =>
    (letters c member).elim isRuleChar_spec (by rintro rfl; exact ⟨rfl, rfl⟩)
  refine ⟨filled, fun c member => (plain c member).1, ?_⟩
  exact (List.map_congr_left fun c member => (plain c member).2).trans (List.map_id' _)

/-- The host of an address is a name that does not begin with a dot. -/
theorem IsHost.address_spec {host : List Char} (hosted : IsHost isHostChar host) :
    host ≠ [] ∧ host.head? ≠ some '.' ∧ ∀ c ∈ host, isNameChar c = true := by
  obtain ⟨filled, dotless, letters⟩ := hosted.spec rfl
  -- A host is made of its characters and of dots.
  exact ⟨filled, dotless, fun c member =>
    (letters c member).elim isNameChar_of_isHostChar (by rintro rfl; rfl)⟩

/-- The line of a rule for a host. -/
def hostLine (name : List Char) : List Char := '|' :: '|' :: (name ++ ['^'])

section Line

variable {name : List Char}

/-- No dollar sign, no options. -/
theorem cutOptions?_eq_none {after before : List Char} {escaped : Bool} (free : '$' ∉ before) :
    cutOptions? after escaped before = none := by
  -- A dollar sign is all that cuts, wherever the search stands.
  induction before generalizing after with
  | nil => rfl
  | cons c before ih =>
    simp only [List.mem_cons, not_or] at free
    simp [cutOptions?, Ne.symm free.1, ih free.2]

/-- The line of a rule for a host is split into its pattern and no options. -/
theorem split_hostLine (free : '$' ∉ name) :
    split (Text.trim (hostLine name)) = ⟨false, hostLine name, none⟩ := by
  have whole : Text.trim (hostLine name) = hostLine name := by
    have bar : Text.isBlank '|' = false := rfl
    have caret : Text.isBlank '^' = false := rfl
    simp [Text.trim, Text.trimStart, Text.trimEnd, hostLine, bar, caret]
  -- Options stand behind a dollar sign, and there is none in front of the caret.
  have options : cutOptions? ['^'] false (name.reverse ++ ['|', '|']) = none :=
    cutOptions?_eq_none (by simpa using free)
  have blocking : List.isPrefixOf? ['@', '@'] (hostLine name) = none := rfl
  rw [whole]
  simp only [split, blocking]
  simp [splitBody, hostLine, isSlashed, options]

/-- The shortcut of a rule for a host is the host. -/
theorem patternShortcut_hostLine (filled : name ≠ [])
    (plain : ∀ c ∈ name, c ≠ '*' ∧ c ≠ '^' ∧ c ≠ '|') :
    patternShortcut (hostLine name) = some (Text.lower name) := by
  -- The host is followed by a caret, so it is a part of its own between the bars and the end.
  have part : (name ++ ['^']).splitOnP (fun c => c == '*' || c == '^' || c == '|') = [name, []] := by
    rw [List.splitOnP_append_cons_of_forall_mem (by simpa [and_assoc] using plain) '^' rfl]
    simp
  have size : 0 < Text.byteLength name := by
    cases name with
    | nil => exact absurd rfl filled
    | cons c name => exact Nat.add_pos_left (Char.utf8Size_pos c) _
  have nothing : Text.byteLength [] = 0 := rfl
  -- Between the bars and behind the separator there are only empty parts.
  simp [patternShortcut, hostLine, Text.longestPart, List.splitOnP_cons_eq_if_modifyHead, part,
    nothing, size, nonEmptyLower, filled]

end Line

/-! ### What a pattern for a host takes -/

section Takes

variable {body more text rest : List Char}

/-- Two parts of a pattern take a text one after the other. -/
theorem takes_append_iff :
    Takes (body ++ more) text rest ↔ ∃ left, Takes body text left ∧ Takes more left rest := by
  -- The first character of a pattern takes its share; the rest is shared out behind it.
  induction body generalizing text with
  | nil => simp [Takes]
  | cons c body ih =>
    simp only [List.cons_append, Takes, ih]
    constructor
    · rintro ⟨word, left, rfl, first, other, takes, last⟩
      exact ⟨other, ⟨word, left, rfl, first, takes⟩, last⟩
    · rintro ⟨other, ⟨word, left, rfl, first, takes⟩, last⟩
      exact ⟨word, left, rfl, first, other, takes, last⟩

/-- What stands for itself takes itself in any case. -/
theorem takes_plain_iff (plain : ∀ c ∈ body, c ≠ '*' ∧ c ≠ '^') :
    Takes body text rest ↔
      ∃ word, text = word ++ rest ∧ word.map Char.toLower = body.map Char.toLower := by
  induction body generalizing text with
  | nil => simp [Takes]
  | cons c body ih =>
    simp only [List.forall_mem_cons] at plain
    -- A plain character takes one character of the text, the same but for case.
    simp only [Takes, CharTakes, if_neg plain.1.1, if_neg plain.1.2, ih plain.2]
    constructor
    · rintro ⟨_, _, rfl, ⟨d, rfl, one⟩, word, rfl, same⟩
      exact ⟨d :: word, rfl, by simp [one, same]⟩
    · rintro ⟨word, rfl, same⟩
      cases word with
      | nil => cases same
      | cons d word =>
        simp only [List.map_cons, List.cons.injEq] at same
        exact ⟨[d], word ++ rest, rfl, ⟨d, rfl, same.1⟩, word, rfl, same.2⟩

/-- A name with a separator behind it takes the name, where it ends there. -/
theorem bodyTakes_separated_iff (plain : ∀ c ∈ body, c ≠ '*' ∧ c ≠ '^') :
    BodyTakes (body ++ ['^']) text ↔ ∃ word left, text = word ++ left ∧
      word.map Char.toLower = body.map Char.toLower ∧ ∀ c ∈ left.head?, isSeparator c = true := by
  -- The caret is last, so there is no bar at the end of the pattern.
  have last : (body ++ ['^']).getLast? ≠ some '|' := by simp
  simp only [BodyTakes, if_neg last, takes_append_iff, takes_plain_iff plain]
  constructor
  · rintro ⟨rest, _, ⟨word, rfl, same⟩, mark, _, rfl, separates, rfl⟩
    refine ⟨word, _, rfl, same, ?_⟩
    rcases separates with ⟨c, rfl, separates⟩ | ⟨rfl, rfl⟩
    · simpa using separates
    · simp
  · rintro ⟨word, left, rfl, same, separates⟩
    cases left with
    | nil => exact ⟨[], [], ⟨word, rfl, same⟩, [], [], rfl, .inr ⟨rfl, rfl⟩, rfl⟩
    | cons c left =>
      exact ⟨left, c :: left, ⟨word, rfl, same⟩, [c], left, rfl, .inl ⟨c, rfl, separates c rfl⟩, rfl⟩

end Takes

/-- A host may be cut behind a name that it begins with, or that stands behind one of its dots. -/
def IsCut (name host names word more : List Char) : Prop :=
  host = names ++ (word ++ more) ∧ word.map Char.toLower = name.map Char.toLower ∧
    ∀ c ∈ names.getLast?, c = '.'

section Means

variable {name host tail : List Char}

/-- Subdomains with their dot are the names that end in a dot but are no single one. -/
theorem site_iff {names : List Char} :
    (names = [] ∨ ∃ site, names = site ++ ['.'] ∧ site ≠ [] ∧ site.all isNameChar = true) ↔
      names ≠ ['.'] ∧ (∀ c ∈ names, isNameChar c = true) ∧ ∀ c ∈ names.getLast?, c = '.' := by
  have dot : isNameChar '.' = true := rfl
  -- A name with a dot behind it is told apart by its last character.
  obtain rfl | ⟨site, c, rfl⟩ := List.eq_nil_or_concat' names
  · simp
  · constructor
    · rintro (nothing | ⟨other, same, filled, all⟩)
      · simp at nothing
      · obtain ⟨rfl, last⟩ := List.append_inj' same rfl
        cases last
        refine ⟨by simpa using filled, List.forall_mem_append.mpr ⟨?_, by simp [dot]⟩, by simp⟩
        exact List.all_eq_true.mp all
    · rintro ⟨several, all, last⟩
      obtain rfl := last c (by simp)
      refine .inr ⟨site, rfl, by simpa using several, List.all_eq_true.mpr ?_⟩
      exact (List.forall_mem_append.mp all).1

/-- What is read of a host and its tail as a name ends within the host. -/
theorem exists_of_named_prefix {taken left : List Char} (same : host ++ tail = taken ++ left)
    (named : ∀ c ∈ taken, isNameChar c = true) (ends : ∀ c ∈ tail.head?, isNameChar c = false) :
    ∃ more, host = taken ++ more ∧ left = more ++ tail := by
  rcases List.append_eq_append_iff.mp same with ⟨more, beyond, rest⟩ | ⟨more, within, rest⟩
  · cases more with
    | nil => exact ⟨[], by simpa using beyond.symm, by simpa using rest.symm⟩
    | cons c more =>
      -- The tail would begin with a character of the name.
      have first := ends c (by rw [rest]; rfl)
      rw [named c (by rw [beyond]; simp)] at first
      cases first
  · exact ⟨more, within, rest⟩

/-- The pattern for a host means the addresses whose host can be cut between the name and a separator. -/
theorem means_hostLine_iff (plain : ∀ c ∈ name, isNameChar c = true) {scheme : String}
    (known : scheme ∈ schemes) (hosted : ∀ c ∈ host, isNameChar c = true)
    (dotless : host.head? ≠ some '.')
    (ends : ∀ c ∈ tail.head?, isNameChar c = false ∧ isSeparator c = true) :
    Means (hostLine name) (scheme.toList ++ "://".toList ++ host ++ tail) ↔
      ∃ names word more, IsCut name host names word more ∧
        ∀ c ∈ more.head?, isSeparator c = true := by
  have star : ∀ c ∈ name, c ≠ '*' ∧ c ≠ '^' := fun c member =>
    ⟨ne_of_isNameChar (plain c member) rfl, ne_of_isNameChar (plain c member) rfl⟩
  simp only [hostLine, Means, bodyTakes_separated_iff star, IsHostStart, site_iff]
  constructor
  · rintro ⟨_, _, same, ⟨other, names, rfl, ⟨first, member, lower⟩, _, named, dot⟩, word, left, rfl,
      spelled, separates⟩
    have colonless : ':' ∉ other := fun inside =>
      ((schemes_spec member).2 ':' (lower ▸ List.mem_map.mpr ⟨':', inside, rfl⟩)).2.1 rfl
    have whole : scheme.toList ++ ':' :: ('/' :: '/' :: (host ++ tail)) =
        other ++ ':' :: ('/' :: '/' :: (names ++ (word ++ left))) := by simpa using same
    -- The first colon ends the scheme either way, so the rest is the host with its tail.
    obtain ⟨_, rest⟩ := eq_of_append_cons
      (fun inside => ((schemes_spec known).2 ':' inside).2.1 rfl) colonless whole
    simp only [List.cons.injEq, true_and, ← List.append_assoc names] at rest
    obtain ⟨more, rfl, rfl⟩ := exists_of_named_prefix rest
      (List.forall_mem_append.mpr ⟨named, isNameChar_of_map_eq plain spelled⟩)
      fun c inside => (ends c inside).1
    refine ⟨names, word, more, ⟨List.append_assoc .., spelled, dot⟩, fun c inside => separates c ?_⟩
    simp_all
  · rintro ⟨names, word, more, ⟨rfl, spelled, dot⟩, separates⟩
    have several : names ≠ ['.'] := by
      rintro rfl
      simp at dotless
    refine ⟨scheme.toList ++ "://".toList ++ names, word ++ (more ++ tail), by simp,
      ⟨scheme.toList, names, rfl, ⟨scheme, known, (schemes_spec known).1⟩, several,
        fun c inside => hosted c (by simp [inside]), dot⟩, word, more ++ tail, rfl, spelled, ?_⟩
    intro c first
    -- What follows the name is the rest of the host, or else the tail behind it.
    cases more with
    | nil => exact (ends c first).2
    | cons d more => exact separates c first

end Means

/-- Behind the name, which begins the host or stands after a dot, there is a hyphen or an underscore. -/
def GoesOn (name host : List Char) : Prop :=
  ∃ before c after, host = before ++ (name ++ c :: after) ∧ (∀ d ∈ before.getLast?, d = '.') ∧
    (c = '-' ∨ c = '_')

/-- A host can be cut between a name and a separator if it lies within the name, or goes on behind it. -/
theorem exists_isCut_iff {name host : List Char} (small : name.map Char.toLower = name)
    (hosted : ∀ c ∈ host, isHostChar c = true ∨ c = '.') :
    (∃ names word more, IsCut name host names word more ∧ ∀ c ∈ more.head?, isSeparator c = true) ↔
      Domain.within (host.map Char.toLower) name = true ∨ GoesOn name (host.map Char.toLower) := by
  rw [Domain.within_iff]
  constructor
  · rintro ⟨names, word, more, ⟨rfl, spelled, dot⟩, separates⟩
    simp only [List.map_append, spelled, small]
    cases more with
    -- Cut at its end, the host is the name or ends in a dot and the name.
    | nil =>
      refine .inl ?_
      obtain rfl | ⟨n, c, rfl⟩ := List.eq_nil_or_concat' names
      · simp
      · obtain rfl := dot c (by simp)
        exact .inr ⟨n.map Char.toLower, by simp⟩
    | cons c more =>
      -- Of the characters in a host only these two separate.
      have mark : c = '-' ∨ c = '_' := by
        have separates := separates c rfl
        have inside := hosted c (by simp)
        simp only [isSeparator, isHostChar, Bool.not_eq_true', Bool.or_eq_false_iff, Bool.or_eq_true,
          beq_eq_false_iff_ne, beq_iff_eq] at separates inside
        grind
      refine .inr ⟨names.map Char.toLower, c, more.map Char.toLower, ?_, ?_, mark⟩
      · rcases mark with rfl | rfl <;> rfl
      · intro d last
        rw [List.getLast?_map, Option.mem_map] at last
        obtain ⟨e, last, rfl⟩ := last
        rw [dot e last]
        rfl
  · rintro ((same | ⟨before, same⟩) | ⟨before, c, after, same, dot, mark⟩)
    · exact ⟨[], host, [], ⟨by simp, by rw [same, small], by simp⟩, by simp⟩
    · -- The dot in front of the name is no letter, so it is a dot in the host as well.
      obtain ⟨names, other, rfl, rfl, behind⟩ := List.map_eq_append_iff.mp same.symm
      obtain ⟨d, word, rfl, point, spelled⟩ := List.map_eq_cons_iff.mp behind
      obtain rfl := (Text.toLower_eq_iff (by decide)).mp point
      exact ⟨names ++ ['.'], word, [], ⟨by simp, by rw [spelled, small], by simp⟩, by simp⟩
    · -- Neither is the mark behind the name a letter, so it separates in the host as well.
      obtain ⟨names, other, rfl, rfl, behind⟩ := List.map_eq_append_iff.mp same
      obtain ⟨word, other, rfl, spelled, behind⟩ := List.map_eq_append_iff.mp behind
      obtain ⟨d, more, rfl, small', rfl⟩ := List.map_eq_cons_iff.mp behind
      have separates : isSeparator d = true := by
        rcases mark with rfl | rfl <;>
        · obtain rfl := (Text.toLower_eq_iff (by decide)).mp small'
          rfl
      refine ⟨names, word, d :: more, ⟨rfl, by rw [spelled, small], fun e last => ?_⟩,
        by simpa using separates⟩
      have lower := dot e.toLower (by simp [List.getLast?_map, Option.mem_def.mp last])
      exact (Text.toLower_eq_iff (by decide)).mp lower

/-- A rule for a host looks for the host, and for the expression of its pattern. -/
theorem filters_hostLine {name : String} (filled : name.toList ≠ [])
    (plain : ∀ c ∈ name.toList, isNameChar c = true) {filterId : Nat} {rule : NetworkRule}
    (compiled : compile ("||" ++ name ++ "^") filterId = .ok rule) (url : String) (thirdParty : Bool)
    (types : TypeSet) : rule.filters url thirdParty types =
      (Text.contains (Text.lower url.toList) (Text.lower name.toList) &&
        (patternExpr folding (hostLine name.toList)).search url.toList) := by
  have whole : ("||" ++ name ++ "^").toList = hostLine name.toList := by simp [hostLine]
  have unmarked {c d : Char} (other : isNameChar d = false) (member : c ∈ name.toList) : c ≠ d :=
    ne_of_isNameChar (plain c member) other
  have parts := split_hostLine fun member => unmarked (by rfl) member rfl
  have short := patternShortcut_hostLine filled fun c member =>
    ⟨unmarked rfl member, unmarked rfl member, unmarked rfl member⟩
  -- The pattern is no expression in slashes, so it has a source and a shortcut of its own.
  have basic : address (hostLine name.toList) =
      (patternSource (hostLine name.toList), some (Text.lower name.toList), false) := by
    rw [← short]
    simp [address, hostLine, isSlashed]
  obtain ⟨options, regex, read, found, rfl⟩ := compile_eq_ok compiled
  rw [whole, parts] at read found
  cases read
  rw [basic] at found
  have same : regex = patternExpr folding (hostLine name.toList) := eq_patternExpr_of_compile found
  rw [whole]
  -- Without options the rule is for every party and every type.
  have none : TypeSet.empty.meets types = false := by simp [TypeSet.meets, TypeSet.empty]
  have every : TypeSet.empty.isEmpty = true := rfl
  simp [assemble, parts, basic, NetworkRule.filters, NetworkRule.hasShortcut, NetworkRule.acceptsType,
    same, none, every, Party.accepts]

/-- Either way the host contains the name. -/
theorem infix_of_reads {name host : List Char}
    (reads : Domain.within host name = true ∨ GoesOn name host) : name <:+: host := by
  rw [Domain.within_iff] at reads
  -- The name is the whole host, the end of it, or stands in front of the mark.
  rcases reads with (rfl | ends) | ⟨before, c, after, rfl, _⟩
  · exact List.infix_rfl
  · exact (List.suffix_cons '.' name).isInfix.trans ends.isInfix
  · exact ⟨before, c :: after, by simp⟩

/-- The host of an address, in small letters. -/
theorem lowerHost?_hostUrl {scheme host tail : String} (known : scheme ∈ schemes)
    (hosted : IsHost isHostChar host.toList) (ends : Url.IsTail tail.toList) :
    Url.lowerHost? (scheme ++ "://" ++ host ++ tail) =
      some (String.ofList (host.toList.map Char.toLower)) := by
  obtain ⟨filled, _, inside⟩ := hosted.address_spec
  -- No character of the host ends it, nor is one taken for that of a user or a port.
  have plain : ∀ c ∈ host.toList, Url.endsAuthority c = false ∧ c ≠ ':' ∧ c ≠ '@' := fun c member =>
    ⟨not_endsAuthority (inside c member), ne_of_isNameChar (inside c member) rfl,
      ne_of_isNameChar (inside c member) rfl⟩
  have whole : String.ofList (scheme.toList ++ "://".toList ++ host.toList ++ tail.toList) =
      scheme ++ "://" ++ host ++ tail := by
    rw [← String.toList_inj]
    simp
  rw [← whole]
  exact Url.lowerHost?_eq (fun c member => ((schemes_spec known).2 c member).2) filled plain ends

/--
A rule for a host means an address just if the host of that lies within the one of the rule, or
goes on behind it with a hyphen or an underscore.
-/
theorem filters_hostRule_iff {name scheme host tail : String} (named : IsHost isRuleChar name.toList)
    (known : scheme ∈ schemes) (hosted : IsHost isHostChar host.toList)
    (ascii : ∀ c ∈ tail.toList, c.toNat < 128) (ends : Url.IsTail tail.toList) {filterId : Nat}
    {rule : NetworkRule} (compiled : compile ("||" ++ name ++ "^") filterId = .ok rule)
    (thirdParty : Bool) (types : TypeSet) :
    ∃ lower, Url.lowerHost? (scheme ++ "://" ++ host ++ tail) = some lower ∧
      (rule.filters (scheme ++ "://" ++ host ++ tail) thirdParty types = true ↔
        Domain.covers name lower = true ∨ GoesOn name.toList lower.toList) := by
  obtain ⟨filled, plain, small⟩ := named.rule_spec
  obtain ⟨_, dotless, inside⟩ := hosted.address_spec
  have low {text : List Char} (names : ∀ c ∈ text, isNameChar c = true) : ∀ c ∈ text, c.toNat < 128 :=
    fun c member => lt_of_isNameChar (names c member)
  have whole : (scheme ++ "://" ++ host ++ tail).toList =
      scheme.toList ++ "://".toList ++ host.toList ++ tail.toList := by simp
  have asciiUrl : ∀ c ∈ (scheme ++ "://" ++ host ++ tail).toList, c.toNat < 128 := by
    rw [whole]
    simp only [List.forall_mem_append]
    exact ⟨⟨⟨fun c member => ((schemes_spec known).2 c member).1, by simp⟩, low inside⟩, ascii⟩
  have asciiPattern : ∀ c ∈ hostLine name.toList, c.toNat < 128 := by
    simp only [hostLine, List.forall_mem_cons, List.forall_mem_append]
    exact ⟨by decide, by decide, low plain, by simp⟩
  -- There is no star in the name, so it covers just what lies within it.
  have closed : DomainTable.isOpenEnded name = false :=
    DomainTable.isOpenEnded_eq_false fun member => ne_of_isNameChar (plain _ member) (by rfl) rfl
  refine ⟨_, lowerHost?_hostUrl known hosted ends, ?_⟩
  have means := means_hostLine_iff plain known inside dotless (head_of_isTail ends)
  rw [exists_isCut_iff small (hosted.spec rfl).2.2, ← whole] at means
  rw [filters_hostLine filled plain compiled, Bool.and_eq_true,
    search_patternExpr_iff asciiPattern asciiUrl, means, Domain.covers_eq_within closed]
  simp only [String.toList_ofList]
  -- The shortcut refuses nothing more, as the address contains its host and that the name.
  refine and_iff_right_of_imp fun reads => ?_
  rw [Text.contains_iff, Text.lower_of_ascii asciiUrl, Text.lower_of_ascii (low plain), small, whole]
  simp only [List.map_append]
  exact (infix_of_reads reads).trans ⟨_, _, rfl⟩

/-- A rule for a host means a subdomain in capital letters and with a port. -/
theorem filters_hostRule_iff_subdomain :
    IsHost isRuleChar "ads".toList ∧ "wss" ∈ schemes ∧ IsHost isHostChar "X.ADS".toList ∧
      (∀ c ∈ ":80".toList, c.toNat < 128) ∧ Url.IsTail ":80".toList ∧
      ∃ rule lower, compile ("||" ++ "ads" ++ "^") 0 = .ok rule ∧
        Url.lowerHost? ("wss" ++ "://" ++ "X.ADS" ++ ":80") = some lower ∧
        (rule.filters ("wss" ++ "://" ++ "X.ADS" ++ ":80") true (.only .script) = true ↔
          Domain.covers "ads" lower = true ∨ GoesOn "ads".toList lower.toList) := by
  have named : IsHost isRuleChar "ads".toList := ⟨["ads".toList], by decide, by simp; decide, rfl⟩
  have hosted : IsHost isHostChar "X.ADS".toList :=
    ⟨["X".toList, "ADS".toList], by decide, by simp; decide, rfl⟩
  have ends : Url.IsTail ":80".toList := .inr ⟨rfl, by decide⟩
  have ascii : ∀ c ∈ ":80".toList, c.toNat < 128 := by simp
  have known : "wss" ∈ schemes := by simp [schemes]
  have accepted : ((compile ("||" ++ "ads" ++ "^") 0).toOption.any fun _ => true) = true := by
    decide +kernel
  obtain ⟨rule, compiled, _⟩ := exists_of_any_toOption accepted
  obtain ⟨lower, site, reads⟩ :=
    filters_hostRule_iff named known hosted ascii ends compiled true (.only .script)
  exact ⟨named, known, hosted, ascii, ends, rule, lower, compiled, site, reads⟩

/-- A hyphen ends the name as well, so the rule means a host that has nothing to do with it. -/
theorem filters_hostRule_beyond :
    IsHost isRuleChar "ads".toList ∧ "http" ∈ schemes ∧ IsHost isHostChar "ads-x.com".toList ∧
      (∀ c ∈ "/".toList, c.toNat < 128) ∧ Url.IsTail "/".toList ∧
      ∃ rule, compile ("||" ++ "ads" ++ "^") 0 = .ok rule ∧
        Url.lowerHost? ("http" ++ "://" ++ "ads-x.com" ++ "/") = some "ads-x.com" ∧
        rule.filters ("http" ++ "://" ++ "ads-x.com" ++ "/") true (.only .script) = true ∧
        Domain.covers "ads" "ads-x.com" = false := by
  have accepted : ((compile ("||" ++ "ads" ++ "^") 0).toOption.any fun _ => true) = true := by
    decide +kernel
  obtain ⟨rule, compiled, _⟩ := exists_of_any_toOption accepted
  have found : (patternExpr folding (hostLine "ads".toList)).search
      ("http" ++ "://" ++ "ads-x.com" ++ "/").toList = true := by cbv
  have contains : Text.contains (Text.lower ("http" ++ "://" ++ "ads-x.com" ++ "/").toList)
      (Text.lower "ads".toList) = true := by decide +kernel
  -- The hyphen separates, though it goes on with the host.
  refine ⟨⟨["ads".toList], by decide, by simp; decide, rfl⟩, by simp [schemes],
    ⟨["ads-x".toList, "com".toList], by decide, by simp; decide, rfl⟩, by simp, .inl rfl, rule,
    compiled, by decide +kernel, ?_, by decide +kernel⟩
  rw [filters_hostLine (by decide) (by simp; decide) compiled, found, contains]
  rfl

end Network

end AdFilter
