import AdFilter.Proofs.Domain.Parser
import AdFilter.Proofs.Text.Search
import Mathlib

/-!
How domain lists are written: which texts are accepted, which domains they name, and which texts are
refused.
-/

namespace AdFilter

namespace Domain

/-! ### The text of a list -/

/-- A comma or a bar stands between two entries. -/
def separates (c : Char) : Bool := c == ',' || c == '|'

/-- A name as a list may give it, in letters of either case. -/
structure IsWord (name : String) : Prop where
  filled : name.toList ≠ []
  unbroken : ∀ c ∈ name.toList, Text.isBlank c = false
  undivided : ∀ c ∈ name.toList, separates c = false

/-- An entry and how it is written: the name of a domain on which the rule never applies has a tilde
before it, with white space behind that if need be. -/
inductive Spells : Entry → List Char → Prop
  | permitted {name : String} (word : IsWord name) (unmarked : name.toList.head? ≠ some '~') :
    Spells (.permitted name) name.toList
  | restricted {name : String} (word : IsWord name) {blanks : List Char}
    (blank : ∀ c ∈ blanks, Text.isBlank c = true) :
    Spells (.restricted name) ('~' :: (blanks ++ name.toList))

/-- Entries and a text that lists them. -/
inductive Listed : List Entry → List Char → Prop
  | blank {text : List Char} (blank : ∀ c ∈ text, Text.isBlank c = true) : Listed [] text
  | entry {entry : Entry} {before text behind : List Char} (spells : Spells entry text)
    (front : ∀ c ∈ before, Text.isBlank c = true) (back : ∀ c ∈ behind, Text.isBlank c = true) :
    Listed [entry] (before ++ text ++ behind)
  /-- A separator goes between two lists, each of which may be empty. -/
  | separated {entries others : List Entry} {text more : List Char} {mark : Char}
    (first : Listed entries text) (separator : separates mark = true) (next : Listed others more) :
    Listed (entries ++ others) (text ++ mark :: more)

/-- An entry in small letters. -/
def Entry.lower : Entry → Entry
  | permitted name => permitted (String.ofList (Text.lower name.toList))
  | restricted name => restricted (String.ofList (Text.lower name.toList))

/-- The domain of an entry on which the rule applies. -/
def Entry.permitted? : Entry → Option String
  | permitted name => some name
  | restricted _ => none

/-- The domain of an entry on which the rule never applies. -/
def Entry.restricted? : Entry → Option String
  | permitted _ => none
  | restricted name => some name

/-- The domains of some entries, in their order. -/
def ofEntries (entries : List Entry) : Domains where
  permitted := entries.filterMap Entry.permitted?
  restricted := entries.filterMap Entry.restricted?

/-- What an entry names, without the white space around it and the tilde that may stand there. -/
def nameIn (part : List Char) : List Char :=
  let entry := Text.trim part
  Text.trim ((List.isPrefixOf? ['~'] entry).getD entry)

/-- An entry that is not empty names nothing, or there is white space within its name. -/
def IsBroken (part : List Char) : Prop :=
  Text.trim part ≠ [] ∧ (nameIn part = [] ∨ ∃ c ∈ nameIn part, Text.isBlank c = true)

variable {c : Char} {part rest text more : List Char} {entry : Entry} {entries others : List Entry}

/-! ### One entry -/

/-- Behind a tilde, the name begins with what is not white. -/
theorem nameIn_of_tilde (tilde : Text.trim part = '~' :: rest) : nameIn part = Text.trim rest := by
  -- The tilde is taken off, and what is left is trimmed once more.
  have cut : List.isPrefixOf? ['~'] ('~' :: rest) = some rest := by simp
  rw [nameIn, tilde]
  simp only [cut, Option.getD_some]

/-- Without a tilde, the entry is the name. -/
theorem nameIn_of_plain (unmarked : (Text.trim part).head? ≠ some '~') :
    nameIn part = Text.trim part := by
  -- Without a tilde in front there is nothing to take off.
  have none : List.isPrefixOf? ['~'] (Text.trim part) = none := by
    rw [Text.isPrefixOf?_eq_none_iff]
    rintro ⟨rest, whole⟩
    simp [← whole] at unmarked
  rw [nameIn]
  simp only [none, Option.getD_none, Text.trim_trim]

/-- The entry that a part of a list stands for, if it has a name. -/
def entryIn (part : List Char) : Entry :=
  if (Text.trim part).head? = some '~' then .restricted (String.ofList (nameIn part))
  else .permitted (String.ofList (nameIn part))

/-- A part of a list is passed over, is refused, or is the entry that it stands for. -/
theorem readEntry_eq (part : List Char) : readEntry part =
    if Text.trim part = [] then .ok none
    else if (nameIn part).isEmpty || (nameIn part).any Text.isBlank then .error ()
    else .ok (some (entryIn part).lower) := by
  unfold readEntry entryIn
  simp only
  -- The part is empty, begins with a tilde, or begins otherwise.
  split
  · rename_i none
    rw [if_pos none]
  · rename_i rest tilde
    have filled : Text.trim part ≠ [] := by simp [tilde]
    have marked : (Text.trim part).head? = some '~' := by simp [tilde]
    rw [if_neg filled, nameIn_of_tilde tilde, if_pos marked, Entry.lower, String.toList_ofList]
  · rename_i filled unmarked
    have plain : (Text.trim part).head? ≠ some '~' := by
      intro marked
      obtain ⟨rest, tilde⟩ := List.head?_eq_some_iff.mp marked
      exact unmarked rest tilde
    rw [if_neg filled, nameIn_of_plain plain, if_neg plain, Entry.lower, String.toList_ofList]

/-- A part of a list is refused if it is broken. -/
theorem readEntry_eq_error_iff : readEntry part = .error () ↔ IsBroken part := by
  rw [readEntry_eq, IsBroken]
  -- Nothing but white space is passed over, and is never an error.
  by_cases none : Text.trim part = []
  · simp [none]
  · simp [none, or_iff_not_imp_left]

/-- A part of a list that is all white is passed over. -/
theorem readEntry_of_blank (blank : ∀ c ∈ part, Text.isBlank c = true) : readEntry part = .ok none := by
  -- Nothing is left when the white space is cut off.
  rw [readEntry_eq, if_pos (Text.trim_eq_nil_iff.mpr blank)]

/-- What is written for an entry has no white space at its ends. -/
theorem Spells.trim_eq (spells : Spells entry text) : Text.trim text = text := by
  cases spells with
  | permitted word _ => exact Text.trim_eq_self_of_filled word.unbroken
  | @restricted name word blanks blank =>
    -- A tilde stands at one end, and the last character of the name at the other.
    obtain ⟨init, last, whole⟩ := (List.eq_nil_or_concat name.toList).resolve_left word.filled
    rw [whole, List.concat_eq_append, ← List.append_assoc]
    refine Text.trim_eq_self (by decide) (word.unbroken last ?_) _
    simp [whole]

/-- A part of a list in which an entry is written stands for that, and has its name. -/
theorem entryIn_of_spells (cut : Text.trim part = text) (spells : Spells entry text) :
    entryIn part = entry ∧ ∃ name, IsWord name ∧ nameIn part = name.toList := by
  cases spells with
  | @permitted name word unmarked =>
    rw [← cut] at unmarked
    have named : nameIn part = name.toList := by rw [nameIn_of_plain unmarked, cut]
    rw [entryIn, if_neg unmarked, named, String.ofList_toList]
    exact ⟨rfl, name, word, rfl⟩
  | @restricted name word blanks blank =>
    -- The white space behind the tilde is cut off with what is around the name.
    have named : nameIn part = name.toList := by
      have trimmed : Text.trim (blanks ++ name.toList ++ []) = Text.trim name.toList :=
        Text.trim_blanks_append blank (by simp)
      rw [List.append_nil, Text.trim_eq_self_of_filled word.unbroken] at trimmed
      rw [nameIn_of_tilde cut, trimmed]
    rw [entryIn, if_pos (by rw [cut, List.head?_cons]), named, String.ofList_toList]
    exact ⟨rfl, name, word, rfl⟩

/-- Something is written for every entry. -/
theorem Spells.ne_nil (spells : Spells entry text) : text ≠ [] := by
  -- A permitted name is not empty, and a restricted one has its tilde.
  cases spells with
  | permitted word _ => exact word.filled
  | restricted _ _ => simp

/-- What is written for an entry is read as that. -/
theorem readEntry_of_spells {before behind : List Char} (spells : Spells entry text)
    (front : ∀ c ∈ before, Text.isBlank c = true) (back : ∀ c ∈ behind, Text.isBlank c = true) :
    readEntry (before ++ text ++ behind) = .ok (some entry.lower) := by
  have cut : Text.trim (before ++ text ++ behind) = text :=
    (Text.trim_blanks_append front back).trans spells.trim_eq
  have filled : Text.trim (before ++ text ++ behind) ≠ [] := by rw [cut]; exact spells.ne_nil
  obtain ⟨same, name, word, named⟩ := entryIn_of_spells cut spells
  -- A name is neither empty nor broken by white space.
  have sound : ¬ ((nameIn (before ++ text ++ behind)).isEmpty ||
      (nameIn (before ++ text ++ behind)).any Text.isBlank) = true := by
    rw [named]
    simpa using ⟨by simpa using word.filled, word.unbroken⟩
  rw [readEntry_eq, if_neg filled, if_neg sound, same]

/-- Behind a tilde there is white space, and then the name up to the end. -/
theorem exists_append_nameIn (tilde : Text.trim part = '~' :: rest) :
    ∃ blanks, rest = blanks ++ nameIn part ∧ ∀ c ∈ blanks, Text.isBlank c = true := by
  -- Nothing is cut off at the end twice, so only white space in front is left.
  have ending : rest <:+ Text.trim part := tilde ▸ List.suffix_cons '~' rest
  have ends : Text.trimEnd rest = rest := Text.trimEnd_of_suffix ending (Text.trimEnd_trimEnd _)
  have named : nameIn part = Text.trimStart rest := by
    rw [nameIn_of_tilde tilde, Text.trim]
    exact Text.trimEnd_of_suffix (Text.trimStart_suffix rest) ends
  refine ⟨rest.takeWhile Text.isBlank, ?_, fun c member => List.mem_takeWhile_imp member⟩
  rw [named, Text.trimStart, List.takeWhile_append_dropWhile]

/-- A part of a list that is neither passed over nor refused is written for what it stands for. -/
theorem spells_entryIn (filled : Text.trim part ≠ []) (sound : ¬ IsBroken part)
    (undivided : ∀ c ∈ part, separates c = false) : Spells (entryIn part) (Text.trim part) := by
  simp only [IsBroken, filled, ne_eq, not_false_eq_true, true_and, not_or, not_exists, not_and,
    Bool.not_eq_true] at sound
  have inside : Text.trim part ⊆ part := by
    obtain ⟨before, behind, whole, -, -⟩ := Text.exists_append_trim part
    intro c member
    rw [whole]
    simp [member]
  -- What is named is a word, wherever it stands within the part.
  have word (within : nameIn part ⊆ Text.trim part) : IsWord (String.ofList (nameIn part)) := by
    refine ⟨?_, ?_, ?_⟩ <;> rw [String.toList_ofList]
    · exact sound.1
    · exact sound.2
    · exact fun c member => undivided c (inside (within member))
  -- What stands behind a tilde, and the white space there, is written for the name.
  by_cases marked : (Text.trim part).head? = some '~'
  · obtain ⟨rest, tilde⟩ := List.head?_eq_some_iff.mp marked
    obtain ⟨blanks, whole, blank⟩ := exists_append_nameIn tilde
    have name := word fun c member => by simp [tilde, whole, member]
    rw [entryIn, if_pos marked, tilde, whole]
    simpa using Spells.restricted name blank
  · have named := nameIn_of_plain marked
    have name := word fun c member => named ▸ member
    rw [entryIn, if_neg marked, ← named]
    simpa using Spells.permitted name (by simpa [named] using marked)

/-! ### All entries -/

/-- With one more entry in front, its domain comes first among those of its kind. -/
theorem ofEntries_cons (entry : Entry) (entries : List Entry) : ofEntries (entry :: entries) =
    ⟨entry.permitted?.toList ++ (ofEntries entries).permitted,
      entry.restricted?.toList ++ (ofEntries entries).restricted⟩ := by
  cases entry <;> rfl

/-- The domains of a list are those of the entries that were read. -/
theorem foldl_push (read : List (Option Entry)) (domains : Domains) : read.foldl push domains =
    ⟨domains.permitted ++ (ofEntries read.reduceOption).permitted,
      domains.restricted ++ (ofEntries read.reduceOption).restricted⟩ := by
  -- Each entry that is read goes to the end of one of the two lists.
  induction read generalizing domains with
  | nil => simp [ofEntries]
  | cons entry read ih =>
    rw [List.foldl_cons, ih]
    match entry with
    | none => rfl
    | some (.permitted name) =>
      simp [push, List.reduceOption_cons_of_some, ofEntries_cons, Entry.permitted?, Entry.restricted?]
    | some (.restricted name) =>
      simp [push, List.reduceOption_cons_of_some, ofEntries_cons, Entry.permitted?, Entry.restricted?]

/-- The parts of a text are read one by one, and entries come of them. -/
def Reads (text : List Char) (entries : List Entry) : Prop :=
  ∃ read, (text.splitOnP separates).mapM readEntry = .ok read ∧ read.reduceOption = entries

/-- A text that separates nothing is read as one part. -/
theorem reads_iff_of_undivided (undivided : ∀ c ∈ text, separates c = false) :
    Reads text entries ↔ ∃ one, readEntry text = .ok one ∧ one.toList = entries := by
  unfold Reads
  -- Nothing separates, so the text is one part.
  rw [List.splitOnP_eq_singleton undivided, List.mapM_cons, List.mapM_nil]
  cases readEntry text with
  | error _ => simp [bind, Except.bind]
  | ok one => cases one <;> simp [bind, Except.bind, pure, Except.pure]

/-- What stands before a separator is read before what stands behind it. -/
theorem reads_append_iff {mark : Char} (separator : separates mark = true) :
    Reads (text ++ mark :: more) entries ↔
      ∃ front back, Reads text front ∧ Reads more back ∧ front ++ back = entries := by
  unfold Reads
  rw [List.splitOnP_append_cons _ _ separator, List.mapM_append]
  constructor
  · rintro ⟨read, done, rfl⟩
    -- All parts of both halves are read, those in front first.
    obtain ⟨front, first, done⟩ := exists_of_bind_eq_ok done
    obtain ⟨back, others, done⟩ := exists_of_bind_eq_ok done
    cases done
    exact ⟨_, _, ⟨front, first, rfl⟩, ⟨back, others, rfl⟩, (List.reduceOption_append front back).symm⟩
  · rintro ⟨_, _, ⟨front, first, rfl⟩, ⟨back, others, rfl⟩, rfl⟩
    refine ⟨front ++ back, ?_, List.reduceOption_append front back⟩
    rw [first, others]
    rfl

/-- White space separates nothing. -/
theorem separates_of_isBlank (blank : Text.isBlank c = true) : separates c = false := by
  by_contra separator
  simp only [separates, Bool.not_eq_false, Bool.or_eq_true, beq_iff_eq] at separator
  -- What separates is a comma or a bar, and neither is white space.
  rcases separator with rfl | rfl
  · exact absurd blank (by decide)
  · exact absurd blank (by decide)

/-- What is written for an entry separates nothing. -/
theorem Spells.undivided (spells : Spells entry text) : ∀ c ∈ text, separates c = false := by
  cases spells with
  | permitted word _ => exact word.undivided
  | restricted word blank =>
    -- The text is a tilde, white space and the name, and none of them separates.
    intro c member
    simp only [List.mem_cons, List.mem_append] at member
    rcases member with rfl | white | named
    · decide
    · exact separates_of_isBlank (blank c white)
    · exact word.undivided c named

/-- What is listed is read, in small letters. -/
theorem Listed.reads (listed : Listed entries text) : Reads text (entries.map Entry.lower) := by
  -- Each way to write a list is read; at a separator both sides have been read.
  induction listed with
  | blank blank =>
    have undivided := fun c member => separates_of_isBlank (blank c member)
    exact (reads_iff_of_undivided undivided).mpr ⟨none, readEntry_of_blank blank, rfl⟩
  | @entry entry before text behind spells front back =>
    have undivided : ∀ c ∈ before ++ text ++ behind, separates c = false := by
      intro c member
      simp only [List.mem_append] at member
      rcases member with (white | written) | white
      · exact separates_of_isBlank (front c white)
      · exact spells.undivided c written
      · exact separates_of_isBlank (back c white)
    exact (reads_iff_of_undivided undivided).mpr ⟨_, readEntry_of_spells spells front back, rfl⟩
  | separated _ separator _ first next =>
    exact (reads_append_iff separator).mpr ⟨_, _, first, next, List.map_append.symm⟩

/-- A part of a list that is read lists what it stands for. -/
theorem exists_listed_of_readEntry (undivided : ∀ c ∈ part, separates c = false) {one : Option Entry}
    (read : readEntry part = .ok one) :
    ∃ entries, Listed entries part ∧ one.toList = entries.map Entry.lower := by
  -- An empty part lists nothing, and any other one the entry that it stands for.
  by_cases none : Text.trim part = []
  · have blank := Text.trim_eq_nil_iff.mp none
    rw [readEntry_of_blank blank] at read
    cases read
    exact ⟨[], .blank blank, rfl⟩
  · have sound : ¬ IsBroken part := by
      intro broken
      rw [readEntry_eq_error_iff.mpr broken] at read
      cases read
    obtain ⟨before, behind, whole, front, back⟩ := Text.exists_append_trim part
    have spells := spells_entryIn none sound undivided
    have again := readEntry_of_spells spells front back
    have listed := Listed.entry spells front back
    rw [← whole] at again listed
    rw [again] at read
    cases read
    exact ⟨[entryIn part], listed, rfl⟩

/-- What is read was listed. -/
theorem exists_listed_of_reads (reads : Reads text others) :
    ∃ entries, Listed entries text ∧ others = entries.map Entry.lower := by
  -- The induction is on the length of the text, which is cut at its first separator.
  induction length : text.length using Nat.strong_induction_on generalizing text others with
  | _ n ih =>
    subst length
    cases cut : Text.cutWhere? separates text with
    | none =>
      -- Without a separator, the text is one part.
      have undivided := Text.not_stop_of_cutWhere?_none cut
      obtain ⟨one, read, rfl⟩ := (reads_iff_of_undivided undivided).mp reads
      exact exists_listed_of_readEntry undivided read
    | some halves =>
      obtain ⟨before, after⟩ := halves
      obtain ⟨mark, separator, rfl⟩ := Text.eq_append_of_cutWhere? cut
      obtain ⟨front, back, first, rest, rfl⟩ := (reads_append_iff separator).mp reads
      have undivided := Text.not_stop_of_cutWhere? cut
      obtain ⟨one, read, rfl⟩ := (reads_iff_of_undivided undivided).mp first
      obtain ⟨entries, listed, same⟩ := exists_listed_of_readEntry undivided read
      obtain ⟨more, next, alike⟩ := ih after.length (Text.length_of_cutWhere? cut) rest rfl
      refine ⟨entries ++ more, .separated listed separator next, ?_⟩
      rw [List.map_append, same, alike]

/-! ### The whole list -/

/-- Reading the parts of a list fails just if one of them is broken. -/
theorem mapM_readEntry_eq_error_iff {parts : List (List Char)} :
    parts.mapM readEntry = .error () ↔ ∃ part ∈ parts, IsBroken part := by
  simp only [← readEntry_eq_error_iff]
  induction parts with
  | nil => simp [pure, Except.pure]
  | cons part parts ih =>
    -- Reading stops at the first part if that is broken, and else it is left to the others.
    simp only [List.mapM_cons, List.mem_cons, exists_eq_or_imp, ← ih]
    cases readEntry part with
    | error _ => simp [bind, Except.bind]
    | ok one => cases parts.mapM readEntry <;> simp [bind, Except.bind, pure, Except.pure]

/-- All parts of a list are read before their entries are put together. -/
theorem parse_eq (text : String) : parse text =
    match (text.toList.splitOnP separates).mapM readEntry with
    | .error _ => .error (.invalidDomains text)
    | .ok read => .ok (ofEntries read.reduceOption) := by
  -- The entries are pushed one by one, and the parts without a name are passed over.
  have all (read : List (Option Entry)) : read.foldl push {} = ofEntries read.reduceOption := by
    simpa using foldl_push read {}
  simp only [← all]
  rfl

/-- The domains of a list are those of the entries that are read, if all parts can be. -/
theorem parse_eq_ok_iff {text : String} {domains : Domains} :
    parse text = .ok domains ↔ ∃ entries, Reads text.toList entries ∧ domains = ofEntries entries := by
  rw [parse_eq]
  unfold Reads
  -- One part that cannot be read is an error of the whole text.
  cases (text.toList.splitOnP separates).mapM readEntry with
  | error _ => simp
  | ok read => simp [eq_comm]

/-- The error of a list that is refused gives the list. -/
theorem parse_eq_error_iff {text : String} {error : RuleError} :
    parse text = .error error ↔
      error = .invalidDomains text ∧ ∃ part ∈ text.toList.splitOnP separates, IsBroken part := by
  rw [parse_eq, ← mapM_readEntry_eq_error_iff]
  -- The error names the whole text, whichever part is broken.
  cases (text.toList.splitOnP separates).mapM readEntry with
  | error _ => simp [eq_comm]
  | ok read => simp

/--
A list of domains is accepted just if it is written as lists are: entries with white space around them,
any of which may be missing, between commas and bars. Its domains are those of the entries in small
letters, in their order and as often as they come.

It is refused just if some part between separators that is not empty names nothing or has white space
within its name; the error gives the list.
-/
theorem parse_exact (text : String) :
    (∀ domains, parse text = .ok domains ↔ ∃ entries, Listed entries text.toList ∧
      domains = ofEntries (entries.map Entry.lower)) ∧
    ∀ error, parse text = .error error ↔ error = .invalidDomains text ∧
      ∃ part ∈ text.toList.splitOnP separates, IsBroken part := by
  -- A list that is read is one that is written so, and back.
  refine ⟨fun domains => parse_eq_ok_iff.trans ⟨?_, ?_⟩, fun error => parse_eq_error_iff⟩
  · rintro ⟨read, reads, rfl⟩
    obtain ⟨entries, listed, rfl⟩ := exists_listed_of_reads reads
    exact ⟨entries, listed, rfl⟩
  · rintro ⟨entries, listed, rfl⟩
    exact ⟨entries.map Entry.lower, listed.reads, rfl⟩

end Domain

end AdFilter
