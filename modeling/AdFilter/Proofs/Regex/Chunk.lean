import AdFilter.Proofs.Regex.Brackets

/-! The source of an expression in chunks, and what the reader makes of each of them. -/

namespace AdFilter.Regex

/-- What may stand in braces: digits, commas and spaces. -/
def isCountBody (body : List Char) : Bool := body.all fun c => c.isDigit || c == ',' || c == ' '

/-- A text in which parentheses, brackets and braces close each other. -/
inductive Paired : List Char → Prop
  | nil : Paired []
  | plain {c rest} (free : isBracket c = false) (slash : c ≠ '\\') (tail : Paired rest) :
      Paired (c :: rest)
  | escape {c rest} (short : isShortEscape c = true) (tail : Paired rest) :
      Paired ('\\' :: c :: rest)
  | set {inner rest} (fits : isSetBody inner = true) (filled : inner ≠ [])
      (positive : inner ≠ ['^']) (tail : Paired rest) : Paired ('[' :: (inner ++ ']' :: rest))
  | count {inner rest} (fits : isCountBody inner = true) (tail : Paired rest) :
      Paired ('\x7b' :: (inner ++ '\x7d' :: rest))
  | group {inner rest} (filled : inner ≠ []) (inside : Paired inner) (tail : Paired rest) :
      Paired ('(' :: (inner ++ ')' :: rest))

/-- A text without brackets and backslashes has all its brackets paired. -/
theorem paired_of_all {text : List Char}
    (plain : text.all (fun c => !isBracket c && c != '\\') = true) : Paired text := by
  induction text with
  | nil => exact .nil
  | cons c text ih =>
    simp only [List.all_cons, Bool.and_eq_true, Bool.not_eq_true', bne_iff_ne] at plain
    -- No character opens a bracket, closes one or escapes another.
    exact .plain plain.1.1 plain.1.2 (ih plain.2)

/-- A piece of source that stands for one part, or for repetitions of the part before it. -/
inductive Chunk
  | char (c : Char)
  | escape (c : Char)
  | set (inner : List Char)
  | count (inner : List Char)
  | group (inner : List Char)

namespace Chunk

/-- A chunk as it is written. -/
def text : Chunk → List Char
  | char c => [c]
  | escape c => ['\\', c]
  | set inner => '[' :: (inner ++ [']'])
  | count inner => '\x7b' :: (inner ++ ['\x7d'])
  | group inner => '(' :: (inner ++ [')'])

/-- A chunk is complete: its brackets close, and nothing in it reads beyond it. -/
def Fits : Chunk → Prop
  | char c => isBracket c = false ∧ c ≠ '\\' ∧ c ≠ '|'
  | escape c => isShortEscape c = true
  | set inner => isSetBody inner = true ∧ inner ≠ [] ∧ inner ≠ ['^']
  | count inner => isCountBody inner = true ∧ inner ≠ []
  | group inner => Paired inner ∧ inner ≠ []

/-- The chunk asks for repetitions. -/
def repeats : Chunk → Bool
  | char c => c == '*' || c == '+'
  | count _ => true
  | _ => false

/-- The chunk asks for at least one repetition. -/
def isPositive : Chunk → Bool
  | char c => c == '+'
  | count inner => (inner.takeWhile (· != ',')).any isPositiveDigit
  | _ => false

/-- The character that the chunk stands for. -/
def letter? : Chunk → Option Char
  | char c => if "?*+.^$|".toList.contains c then none else some c
  | escape c => if isEscapable c then some c else none
  | _ => none

/-- What stands for a character repeats nothing. -/
theorem repeats_of_letter? {chunk : Chunk} {c : Char} (letter : chunk.letter? = some c) :
    chunk.repeats = false := by
  -- The signs of repetition are among the characters that stand for nothing.
  cases chunk with
  | char d =>
    simp only [letter?] at letter
    split at letter
    · cases letter
    · simp_all [repeats]
  | escape d => rfl
  | set | count | group => cases letter

end Chunk

/-- What becomes of the parts that are read: a chunk adds one, or repeats the last one. -/
inductive Turns (flags : Flags) (chunk : Chunk) : List Part → List Part → Prop
  | adds {part parts} (single : chunk.repeats = false)
      (letter : ∀ c, chunk.letter? = some c → part.expr = .chars (flags.fold (.only c))) :
      Turns flags chunk parts (part :: parts)
  | again {last part parts least most} (asks : chunk.repeats = true)
      (expr : part.expr = .times last.expr least most)
      (once : chunk.isPositive = true → 1 ≤ least) :
      Turns flags chunk (last :: parts) (part :: parts)

/-- No name in braces begins the source. -/
def Unnamed (source : List Char) : Prop :=
  ∀ first inside, source = '\x7b' :: first :: inside → first.isAlpha = false ∧ first ≠ '-'

/-- A digit is neither a letter nor a hyphen. -/
theorem digit_spec {c : Char} (digit : c.isDigit = true) : c.isAlpha = false ∧ c ≠ '-' := by
  constructor
  -- Digits lie below all letters, and the hyphen below the digits.
  · simp only [Char.isDigit, Char.isAlpha, Char.isUpper, Char.isLower, Bool.and_eq_true,
      decide_eq_true_eq, UInt32.le_iff_toNat_le] at *
    simp at *
    omega
  · rintro rfl
    revert digit
    decide

/-- A count is no name. -/
theorem unnamed_count {inner rest : List Char} (fits : isCountBody inner = true) :
    Unnamed ('\x7b' :: (inner ++ '\x7d' :: rest)) := by
  -- What follows the brace closes it, or is a digit, a comma or a blank.
  intro first inside same
  have body := (List.cons.inj same).2
  cases inner with
  | nil =>
    obtain rfl := (List.cons.inj body).1
    decide
  | cons c inner =>
    obtain rfl := (List.cons.inj body).1
    have numeric : (c.isDigit = true ∨ c = ',') ∨ c = ' ' := by
      simpa using (List.all_eq_true.mp fits) c (by simp)
    rcases numeric with (digit | rfl) | rfl
    · exact digit_spec digit
    · decide
    · decide

/-- Where brackets are paired, a name in braces can only stand behind the text. -/
theorem Paired.unnamed {text rest : List Char} (paired : Paired text) (behind : Unnamed rest) :
    Unnamed (text ++ rest) := by
  -- Only a count begins with a brace, and no count begins with a name.
  cases paired with
  | nil => exact behind
  -- A count that begins the text is no name.
  | count fits tail => simpa using unnamed_count fits
  | plain free slash tail =>
    intro first inside same
    rw [(List.cons.inj same).1] at free
    exact absurd free (by decide)
  | _ =>
    intro first inside same
    exact absurd (List.cons.inj same).1 (by decide)

/-- Only the last part changes where repetitions are asked for. -/
theorem exists_of_repeatLast {least : Nat} {most : Option Nat} {parts parts' : List Part}
    (repeated : repeatLast least most parts = some parts') :
    ∃ last more part, parts = last :: more ∧ parts' = part :: more ∧
      part.expr = .times last.expr least most := by
  unfold repeatLast at repeated
  -- There is a part to be repeated, and its bounds are in order.
  split at repeated
  · cases repeated
  · split at repeated <;> cases repeated
    exact ⟨_, _, _, rfl, rfl, rfl⟩

/-- Where no question mark stands, none is dropped. -/
theorem dropLazy_eq {source : List Char} (eager : '?' ∉ source) : dropLazy source = source := by
  unfold dropLazy
  -- Only a question mark makes a repetition lazy.
  split
  · simp at eager
  · rfl

/-- A literal stands for the set of its character. -/
theorem expr_of_literal {flags : Flags} (unicode : flags.unicode = true) {c : Char} {part : Part}
    (made : (Atom.literal c false).part flags = some part) :
    part.expr = .chars (flags.fold (.only c)) := by
  -- With Unicode on, every character is admitted.
  simp only [Atom.part, Flags.admits, unicode, Bool.true_or, Bool.false_and, Bool.false_eq_true,
    if_false, if_true, Option.some.injEq] at made
  rw [← made]

/-- The reader goes on behind a chunk with the parts that the chunk makes. -/
def Passes (fuel : Nat) (now : OpenGroup) (outer : List OpenGroup) (chunk : Chunk)
    (rest : List Char) (result : Part) : Prop :=
  ∃ fuel' now' names', fuel' < fuel ∧ now'.flags = now.flags ∧ now'.branches = now.branches ∧
    Turns now.flags chunk now.parts now'.parts ∧ read fuel' now' outer names' rest = some result

section Reading

variable {fuel : Nat} {now : OpenGroup} {outer : List OpenGroup} {names : List (List Char)}
  {rest : List Char} {result : Part}

/-- The reader has gone on where it reads the rest with new parts. -/
theorem Passes.of_read {fuel' : Nat} {parts : List Part} {chunk : Chunk} (less : fuel' < fuel)
    (turns : Turns now.flags chunk now.parts parts)
    (yields : read fuel' { now with parts } outer names rest = some result) :
    Passes fuel now outer chunk rest result :=
  ⟨fuel', { now with parts }, names, less, rfl, rfl, turns, yields⟩

/-- A reader that is not at the end of the source moves and goes on. -/
theorem exists_of_read_cons (dense : now.flags.spaced = false) {c : Char}
    (yields : read fuel now outer names (c :: rest) = some result) :
    ∃ fuel' now' outer' names' rest', fuel' < fuel ∧ Moves now outer (c :: rest) now' outer' rest' ∧
      read fuel' now' outer' names' rest' = some result := by
  -- The source has a character, so the reading does not end here.
  rcases exists_of_read yields with ⟨none, _⟩ | moved
  · rw [Flags.skip_eq dense] at none
    cases none
  · rwa [Flags.skip_eq dense] at moved

/-- A character that is no bracket, backslash or bar is a chunk. -/
theorem passes_char (dense : now.flags.spaced = false) (unicode : now.flags.unicode = true) {c : Char}
    (fits : (Chunk.char c).Fits) (eager : '?' ∉ c :: rest)
    (yields : read fuel now outer names (c :: rest) = some result) :
    Passes fuel now outer (.char c) rest result := by
  -- The character adds a part of its own, or is a star or a plus and repeats the last one.
  obtain ⟨free, slash, bar⟩ := fits
  have lazy : c ≠ '?' := (List.ne_of_not_mem_cons eager).symm
  have behind : dropLazy rest = rest := dropLazy_eq (List.not_mem_of_not_mem_cons eager)
  obtain ⟨_, _, _, _, _, less, moves, goes⟩ := exists_of_read_cons dense yields
  cases moves with
  | push pushes =>
    cases pushes with
    | set => exact absurd free (by decide)
    | escape => exact absurd rfl slash
    | dot | start | stop =>
      exact .of_read less (.adds rfl fun c none => by simp [Chunk.letter?] at none) goes
    | literal plain made =>
      -- A character that adds a part is no sign of repetition, and stands for itself.
      refine .of_read less (.adds ?_ fun d same => ?_) goes
      · simp only [Chunk.repeats, Bool.or_eq_false_iff, beq_eq_false_iff_ne]
        constructor <;>
        · rintro rfl
          exact plain (by decide)
      · simp only [Chunk.letter?] at same
        split at same <;> cases same
        exact expr_of_literal unicode made
  | again asks repeated =>
    obtain ⟨last, more, part, before, after, expr⟩ := exists_of_repeatLast repeated
    cases asks with
    -- A question mark is ruled out, and so it does not follow a sign of repetition either.
    | optional => exact absurd rfl lazy
    | star =>
      rw [behind] at goes
      rw [after] at goes
      exact .of_read less (before ▸ .again rfl expr (fun positive => by cases positive)) goes
    | plus =>
      rw [behind, after] at goes
      exact .of_read less (before ▸ .again rfl expr fun _ => Nat.le_refl 1) goes
    | count => exact absurd free (by decide)
  | switch | opens | closes => exact absurd free (by decide)
  | bar => exact absurd rfl bar

/-- A short escape is a chunk, where no name in braces follows. -/
theorem passes_escape (dense : now.flags.spaced = false) (unicode : now.flags.unicode = true)
    {c : Char} (fits : (Chunk.escape c).Fits) (unnamed : Unnamed rest)
    (yields : read fuel now outer names ('\\' :: c :: rest) = some result) :
    Passes fuel now outer (.escape c) rest result := by
  -- The atom of an escape is a part of its own, and a literal one where the letter is none.
  obtain ⟨_, _, _, _, _, less, moves, goes⟩ := exists_of_read_cons dense yields
  cases moves with
  | push pushes =>
    cases pushes with
    | escape read made =>
      obtain ⟨rfl, literal⟩ := escape_spec dense fits unnamed read
      refine .of_read less (.adds rfl fun d same => ?_) goes
      simp only [Chunk.letter?] at same
      split at same <;> cases same
      rename_i itself
      rw [literal itself] at made
      exact expr_of_literal unicode made
    | literal plain => exact absurd plain (by decide)
  | again asks => cases asks

/-- A set is a chunk. -/
theorem passes_set (dense : now.flags.spaced = false) {inner : List Char}
    (fits : (Chunk.set inner).Fits)
    (yields : read fuel now outer names ('[' :: (inner ++ ']' :: rest)) = some result) :
    Passes fuel now outer (.set inner) rest result := by
  -- Nothing but the brackets themselves begins with an opening one.
  obtain ⟨body, filled, positive⟩ := fits
  obtain ⟨_, _, _, _, _, less, moves, goes⟩ := exists_of_read_cons dense yields
  cases moves with
  | push pushes =>
    cases pushes with
    | set read =>
      obtain rfl := bracketed_spec dense body filled positive read
      exact .of_read less (.adds rfl fun c none => by cases none) goes
    | literal plain => exact absurd plain (by decide)
  | again asks => cases asks

/-- A count is a chunk. -/
theorem passes_count (dense : now.flags.spaced = false) {inner : List Char}
    (fits : isCountBody inner = true) (eager : '?' ∉ rest)
    (yields : read fuel now outer names ('\x7b' :: (inner ++ '\x7d' :: rest)) = some result) :
    Passes fuel now outer (.count inner) rest result := by
  -- The bounds end with the first closing brace, since none stands inside.
  have inside : '\x7d' ∉ inner := by
    intro member
    exact absurd ((List.all_eq_true.mp fits) _ member) (by decide)
  have behind : rest.head? ≠ some '?' := fun lazy => eager (List.mem_of_head? lazy)
  obtain ⟨_, _, _, _, _, less, moves, goes⟩ := exists_of_read_cons dense yields
  cases moves with
  | push pushes =>
    cases pushes with
    | literal plain => exact absurd plain (by decide)
  | again asks repeated =>
    obtain ⟨last, more, part, before, after, expr⟩ := exists_of_repeatLast repeated
    cases asks with
    | count read =>
      obtain ⟨rfl, positive⟩ := bounds?_spec dense inside behind read
      rw [after] at goes
      exact .of_read less (before ▸ .again rfl expr positive) goes

/-- A group without a question mark begins with its first part. -/
theorem groupHead_eq {flags : Flags} (dense : flags.spaced = false) {source : List Char}
    (eager : '?' ∉ source) : groupHead flags source = some (.opens flags none, source) := by
  unfold groupHead
  rw [Flags.skip_eq dense]
  -- Every other head of a group begins with a question mark.
  split
  any_goals simp at eager
  rfl

/-- An opening parenthesis begins a group with the flags that hold before it. -/
theorem exists_of_read_open (dense : now.flags.spaced = false) (eager : '?' ∉ rest)
    (yields : read fuel now outer names ('(' :: rest) = some result) :
    ∃ fuel' names', fuel' < fuel ∧
      read fuel' ⟨now.flags, [], []⟩ (now :: outer) names' rest = some result := by
  -- Flags and names of groups come behind a question mark, which is ruled out.
  obtain ⟨_, _, _, _, _, less, moves, goes⟩ := exists_of_read_cons dense yields
  cases moves with
  | push pushes =>
    cases pushes with
    | literal plain => exact absurd plain (by decide)
  | again asks => cases asks
  | switch head =>
    rw [groupHead_eq dense eager] at head
    cases head
  | opens head =>
    rw [groupHead_eq dense eager] at head
    cases head
    exact ⟨_, _, less, goes⟩

/-- A closing parenthesis makes the group a part of the one around it. -/
theorem exists_of_read_close {parent : OpenGroup} (dense : now.flags.spaced = false)
    (yields : read fuel now (parent :: outer) names (')' :: rest) = some result) :
    ∃ fuel' names' part, fuel' < fuel ∧
      read fuel' { parent with parts := part :: parent.parts } outer names' rest = some result := by
  obtain ⟨_, _, _, _, _, less, moves, goes⟩ := exists_of_read_cons dense yields
  -- Of all moves only the one that closes a group begins with this character.
  cases moves with
  | push pushes =>
    cases pushes with
    | literal plain => exact absurd plain (by decide)
  | again asks => cases asks
  | closes => exact ⟨_, _, _, less, goes⟩

/-- A bar begins another branch. -/
theorem exists_of_read_bar (dense : now.flags.spaced = false)
    (yields : read fuel now outer names ('|' :: rest) = some result) :
    ∃ fuel' now' names', fuel' < fuel ∧ now'.flags = now.flags ∧
      read fuel' now' outer names' rest = some result := by
  obtain ⟨_, _, _, _, _, less, moves, goes⟩ := exists_of_read_cons dense yields
  -- Of all moves only the one that begins a branch does so with this character.
  cases moves with
  | push pushes =>
    cases pushes with
    | literal plain => exact absurd plain (by decide)
  | again asks => cases asks
  | bar =>
    exact ⟨_, { now with branches := joinParts now.parts :: now.branches, parts := [] }, _, less, rfl,
      goes⟩

/-- The reader comes out of a paired text with the groups and the flags it had before. -/
theorem exists_of_read_paired {text : List Char} (paired : Paired text)
    (dense : now.flags.spaced = false) (unicode : now.flags.unicode = true)
    (eager : '?' ∉ text ++ rest) (unnamed : Unnamed rest)
    (yields : read fuel now outer names (text ++ rest) = some result) :
    ∃ fuel' now' names', fuel' ≤ fuel ∧ now'.flags = now.flags ∧
      read fuel' now' outer names' rest = some result := by
  -- The text is taken apart as it is paired; groups around the place are handed on.
  induction paired generalizing fuel now outer names rest with
  | nil => exact ⟨fuel, now, names, Nat.le_refl _, rfl, yields⟩
  | @plain c text free slash tail ih =>
    simp only [List.cons_append] at eager yields
    have further := List.not_mem_of_not_mem_cons eager
    -- A bar begins another branch of the group, any other character is a chunk.
    by_cases bar : c = '|'
    · subst bar
      obtain ⟨fuel', now', names', less, flags, goes⟩ := exists_of_read_bar dense yields
      obtain ⟨last, final, names', lower, same, goes⟩ :=
        ih (flags ▸ dense) (flags ▸ unicode) further unnamed goes
      exact ⟨last, final, names', by omega, same.trans flags, goes⟩
    · obtain ⟨fuel', now', names', less, flags, _, _, goes⟩ :=
        passes_char dense unicode ⟨free, slash, bar⟩ eager yields
      obtain ⟨last, final, names', lower, same, goes⟩ :=
        ih (flags ▸ dense) (flags ▸ unicode) further unnamed goes
      exact ⟨last, final, names', by omega, same.trans flags, goes⟩
  | escape short tail ih =>
    simp only [List.cons_append] at eager yields
    obtain ⟨fuel', now', names', less, flags, _, _, goes⟩ :=
      passes_escape dense unicode short (tail.unnamed unnamed) yields
    obtain ⟨last, final, names', lower, same, goes⟩ :=
      ih (flags ▸ dense) (flags ▸ unicode) (by simp_all) unnamed goes
    exact ⟨last, final, names', by omega, same.trans flags, goes⟩
  | set fits filled positive tail ih =>
    simp only [List.cons_append, List.append_assoc] at eager yields
    obtain ⟨fuel', now', names', less, flags, _, _, goes⟩ :=
      passes_set dense ⟨fits, filled, positive⟩ yields
    obtain ⟨last, final, names', lower, same, goes⟩ :=
      ih (flags ▸ dense) (flags ▸ unicode) (by simp_all) unnamed goes
    exact ⟨last, final, names', by omega, same.trans flags, goes⟩
  | count fits tail ih =>
    simp only [List.cons_append, List.append_assoc] at eager yields
    obtain ⟨fuel', now', names', less, flags, _, _, goes⟩ :=
      passes_count dense fits (by simp_all) yields
    obtain ⟨last, final, names', lower, same, goes⟩ :=
      ih (flags ▸ dense) (flags ▸ unicode) (by simp_all) unnamed goes
    exact ⟨last, final, names', by omega, same.trans flags, goes⟩
  | @group inner text filled inside tail ihInside ihTail =>
    simp only [List.cons_append, List.append_assoc] at eager yields
    have further := List.not_mem_of_not_mem_cons eager
    -- The group inside is opened, read and closed before the rest.
    obtain ⟨first, names₁, less, goes⟩ := exists_of_read_open dense further yields
    have closed : Unnamed (')' :: (text ++ rest)) := fun d others same =>
      absurd (List.cons.inj same).1 (by decide)
    obtain ⟨second, now₂, names₂, lower, flags, goes⟩ :=
      ihInside (by exact dense) (by exact unicode) further closed goes
    obtain ⟨third, names₃, part, least, goes⟩ := exists_of_read_close (flags ▸ dense) goes
    obtain ⟨last, final, names₄, low, same, goes⟩ :=
      ihTail (by exact dense) (by exact unicode) (by simp_all) unnamed goes
    exact ⟨last, final, names₄, by omega, same, goes⟩

/-- A group is a chunk. -/
theorem passes_group (dense : now.flags.spaced = false) (unicode : now.flags.unicode = true)
    {inner : List Char} (fits : (Chunk.group inner).Fits) (eager : '?' ∉ inner ++ ')' :: rest)
    (yields : read fuel now outer names ('(' :: (inner ++ ')' :: rest)) = some result) :
    Passes fuel now outer (.group inner) rest result := by
  -- The group is opened, its inside is read with the groups around it, and it is closed.
  obtain ⟨first, names₁, less, goes⟩ := exists_of_read_open dense eager yields
  have closed : Unnamed (')' :: rest) := fun d others same =>
    absurd (List.cons.inj same).1 (by decide)
  obtain ⟨second, now₂, names₂, lower, flags, goes⟩ :=
    exists_of_read_paired fits.1 (by exact dense) (by exact unicode) eager closed goes
  obtain ⟨third, names₃, part, least, goes⟩ := exists_of_read_close (flags ▸ dense) goes
  exact .of_read (by omega) (.adds rfl fun c none => by cases none) goes

/-- The reader passes every chunk that is complete. -/
theorem passes_chunk (dense : now.flags.spaced = false) (unicode : now.flags.unicode = true)
    {chunk : Chunk} (fits : chunk.Fits) (eager : '?' ∉ chunk.text ++ rest) (unnamed : Unnamed rest)
    (yields : read fuel now outer names (chunk.text ++ rest) = some result) :
    Passes fuel now outer chunk rest result := by
  cases chunk with
  | char c => exact passes_char dense unicode fits eager yields
  | escape c => exact passes_escape dense unicode fits unnamed yields
  | set inner =>
    simp only [Chunk.text, List.cons_append, List.append_assoc, List.nil_append] at yields
    exact passes_set dense fits yields
  | count inner =>
    simp only [Chunk.text, List.cons_append, List.append_assoc, List.nil_append] at eager yields
    exact passes_count dense fits.1 (by simp_all) yields
  | group inner =>
    simp only [Chunk.text, List.cons_append, List.append_assoc, List.nil_append] at eager yields
    exact passes_group dense unicode fits (List.not_mem_of_not_mem_cons eager) yields

end Reading

/-- Chunks in a row as they are written. -/
def source (chunks : List Chunk) : List Char := chunks.flatMap Chunk.text

@[simp] theorem source_nil : source [] = [] := rfl

@[simp] theorem source_cons (chunk : Chunk) (chunks : List Chunk) :
    source (chunk :: chunks) = chunk.text ++ source chunks := rfl

@[simp] theorem source_append (chunks others : List Chunk) :
    source (chunks ++ others) = source chunks ++ source others := List.flatMap_append

/-- No row of complete chunks begins with a name in braces. -/
theorem unnamed_source {chunks : List Chunk} (fits : ∀ chunk ∈ chunks, chunk.Fits) :
    Unnamed (source chunks) := by
  -- Only a count begins with a brace.
  cases chunks with
  | nil => simp [Unnamed]
  | cons chunk chunks =>
    have first := fits chunk (by simp)
    cases chunk with
    | count inner => simpa [Chunk.text] using @unnamed_count inner (source chunks) first.1
    | char c =>
      intro letter inside same
      have free := first.1
      rw [(List.cons.inj same).1] at free
      exact absurd free (by decide)
    | _ =>
      intro letter inside same
      exact absurd (List.cons.inj same).1 (by decide)

/-- What becomes of the parts over several chunks. -/
inductive Builds (flags : Flags) : List Chunk → List Part → List Part → Prop
  | nil {parts} : Builds flags [] parts parts
  | cons {chunk chunks parts between parts'} (turns : Turns flags chunk parts between)
      (builds : Builds flags chunks between parts') : Builds flags (chunk :: chunks) parts parts'

/-- At the end of a row of complete chunks the reader has the parts that they make. -/
theorem exists_of_read_source {chunks : List Chunk} {fuel : Nat} {now : OpenGroup}
    {names : List (List Char)} {result : Part} (fits : ∀ chunk ∈ chunks, chunk.Fits)
    (dense : now.flags.spaced = false) (unicode : now.flags.unicode = true)
    (eager : '?' ∉ source chunks)
    (yields : read fuel now [] names (source chunks) = some result) :
    ∃ final : OpenGroup, final.branches = now.branches ∧ Builds now.flags chunks now.parts final.parts ∧
      result = final.part := by
  -- The induction is on the chunks, and each of them hands on the parts so far.
  induction chunks generalizing fuel now names with
  | nil =>
    rcases exists_of_read yields with ⟨_, _, rfl⟩ | ⟨_, _, _, _, _, _, moves, _⟩
    · -- At the end of the source the parts are those of the row.
      exact ⟨now, rfl, .nil, rfl⟩
    · rw [Flags.skip_eq dense] at moves
      cases moves with
      | push pushes => cases pushes
      | again asks => cases asks
  | cons chunk chunks ih =>
    have others : ∀ other ∈ chunks, other.Fits := fun other member => fits other (by simp [member])
    -- The first chunk is passed, and the others are read with the parts it makes.
    obtain ⟨fuel', now', names', _, flags, branches, turns, goes⟩ :=
      passes_chunk dense unicode (fits chunk (by simp)) eager (unnamed_source others) yields
    obtain ⟨final, same, builds, rfl⟩ :=
      ih others (flags ▸ dense) (flags ▸ unicode) (by simp_all) goes
    exact ⟨final, same.trans branches, .cons turns (flags ▸ builds), rfl⟩

/-- An expression that is read from complete chunks is the row of the parts that they make. -/
theorem exists_of_compile_source {chunks : List Chunk} {ignoreCase : Bool} {r : Regex}
    (fits : ∀ chunk ∈ chunks, chunk.Fits) (eager : '?' ∉ source chunks)
    (compiled : compile ignoreCase (source chunks) = .ok r) :
    ∃ parts, Builds { ignoreCase } chunks [] parts ∧ r = cats (parts.reverse.map (·.expr)) := by
  -- At the end there is one group without other branches, so its parts are the whole.
  unfold compile at compiled
  split at compiled
  · cases compiled
  · rename_i parsed
    split at compiled
    · cases compiled
      unfold parse? at parsed
      simp only [Option.bind_eq_bind, Option.bind_eq_some_iff] at parsed
      obtain ⟨part, yields, _, _, same⟩ := parsed
      cases same
      obtain ⟨final, branches, builds, rfl⟩ := exists_of_read_source fits rfl rfl eager yields
      refine ⟨final.parts, builds, ?_⟩
      rw [OpenGroup.part, branches, ← expr_joinParts]
      rfl
    · cases compiled

end AdFilter.Regex
