import AdFilter.Proofs.Regex.Chunk
import Mathlib.Data.List.Forall2

/-! Letters that stand for themselves in the source of an expression stand in every match of it. -/

namespace AdFilter.Regex

section Rows

variable {exprs others : List Regex} {before after : Option Char} {word : List Char}

/-- A row of expressions matches what its first and its rest match one after the other. -/
theorem matches_cats_cons_iff {r : Regex} : Matches (cats (r :: exprs)) before word after ↔
    ∃ u v, word = u ++ v ∧ Matches r before u (firstOr v after) ∧
      Matches (cats exprs) (lastOr before u) v after := by
  -- A row of one is that expression alone, and then the empty row behind it matches nothing.
  cases exprs with
  | nil =>
    constructor
    · -- The one expression takes the whole word.
      exact fun here => ⟨word, [], by simp, here, .empty⟩
    · rintro ⟨u, v, rfl, here, nothing⟩
      obtain rfl := matches_empty_iff.mp nothing
      rw [List.append_nil]
      exact here
  | cons s exprs => exact matches_cat_iff

/-- Two rows of expressions match what they match one after the other. -/
theorem matches_cats_append_iff : Matches (cats (exprs ++ others)) before word after ↔
    ∃ u v, word = u ++ v ∧ Matches (cats exprs) before u (firstOr v after) ∧
      Matches (cats others) (lastOr before u) v after := by
  -- The cut between the rows is moved to the right, one expression at a time.
  induction exprs generalizing before word with
  | nil =>
    constructor
    · -- No expression comes first, so the word is that of the second row.
      exact fun here => ⟨[], word, rfl, .empty, here⟩
    · rintro ⟨u, v, rfl, nothing, here⟩
      obtain rfl := matches_empty_iff.mp nothing
      exact here
  | cons r exprs ih =>
    simp only [List.cons_append, matches_cats_cons_iff, ih]
    constructor
    · rintro ⟨u, _, rfl, first, v, w, rfl, second, third⟩
      refine ⟨u ++ v, w, by simp, ⟨u, v, rfl, ?_, second⟩, ?_⟩
      · rwa [← firstOr_append]
      · rwa [lastOr_append]
    · rintro ⟨_, w, rfl, ⟨u, v, rfl, first, second⟩, third⟩
      refine ⟨u, v ++ w, by simp, ?_, v, w, rfl, second, ?_⟩
      · rwa [firstOr_append]
      · rwa [← lastOr_append]

end Rows

variable {flags : Flags}

/-- The expression of a single letter. -/
def letterExpr (flags : Flags) (c : Char) : Regex := .chars (flags.fold (.only c))

/-- A row of letters matches a word of as many characters, each one of the set of its letter. -/
theorem matches_letterExprs_iff {letters word : List Char} {before after : Option Char} :
    Matches (cats (letters.map (letterExpr flags))) before word after ↔
      List.Forall₂ (fun c d => (flags.fold (.only c)).has d = true) letters word := by
  induction letters generalizing before word with
  | nil => simp [cats]
  | cons c letters ih =>
    rw [List.map_cons, matches_cats_cons_iff, List.forall₂_cons_left_iff]
    -- Each set takes one character of the word.
    constructor
    · rintro ⟨_, v, rfl, first, others⟩
      obtain ⟨d, rfl, member⟩ := matches_chars_iff.mp first
      exact ⟨d, v, member, ih.mp others, rfl⟩
    · rintro ⟨d, v, member, others, rfl⟩
      exact ⟨[d], v, rfl, .chars member, ih.mpr others⟩

/-- The expression is that of a letter, repeated at least once if at all. -/
inductive Often (flags : Flags) (c : Char) : Regex → Prop
  | once : Often flags c (letterExpr flags c)
  | again {r least most} (inner : Often flags c r) (some : 1 ≤ least) :
      Often flags c (.times r least most)

/-- A letter that is repeated at least once begins each match. -/
theorem Often.exists_of_matches {c : Char} {r : Regex} (often : Often flags c r)
    {before after : Option Char} {word : List Char} (here : Matches r before word after) :
    ∃ d rest, word = d :: rest ∧ (flags.fold (.only c)).has d = true := by
  -- The least number of repetitions is one at least, so there is a first match.
  induction often generalizing before word after with
  | once =>
    obtain ⟨d, rfl, member⟩ := matches_chars_iff.mp here
    exact ⟨d, [], rfl, member⟩
  | again inner some ih =>
    obtain ⟨count, low, _, repeats⟩ := matches_times_iff.mp here
    cases repeats with
    -- At least one repetition is owed.
    | none => omega
    | more first rest =>
      obtain ⟨d, tail, rfl, member⟩ := ih first
      exact ⟨d, _, rfl, member⟩

/-- A row of letters, the last one perhaps repeated, begins each match with those letters. -/
theorem exists_of_matches_letters {letters : List Char} {c : Char} {last : Regex}
    (often : Often flags c last) {before after : Option Char} {word : List Char}
    (here : Matches (cats (letters.map (letterExpr flags) ++ [last])) before word after) :
    ∃ spelled rest, word = spelled ++ rest ∧
      List.Forall₂ (fun c d => (flags.fold (.only c)).has d = true) (letters ++ [c]) spelled := by
  -- Each letter takes one character, and the last expression begins with one.
  obtain ⟨spelled, rest, rfl, row, here⟩ := matches_cats_append_iff.mp here
  obtain ⟨d, tail, rfl, member⟩ := often.exists_of_matches here
  refine ⟨spelled ++ [d], tail, by simp, ?_⟩
  exact List.rel_append (matches_letterExprs_iff.mp row) (.cons member .nil)

/-- What stands before and after a row of chunks builds on the same parts. -/
theorem builds_append {chunks others : List Chunk} {parts parts' : List Part}
    (builds : Builds flags (chunks ++ others) parts parts') :
    ∃ between, Builds flags chunks parts between ∧ Builds flags others between parts' := by
  -- The parts after the first chunks are what the others build on.
  induction chunks generalizing parts with
  | nil => exact ⟨parts, .nil, builds⟩
  | cons chunk chunks ih =>
    cases builds with
    | cons turns builds =>
      obtain ⟨between, first, second⟩ := ih builds
      exact ⟨between, .cons turns first, second⟩

/-- Chunks that stand for letters add the expressions of those. -/
theorem builds_letters {chunks : List Chunk} {letters : List Char}
    (spelled : chunks.map Chunk.letter? = letters.map some) {parts parts' : List Part}
    (builds : Builds flags chunks parts parts') :
    ∃ added, parts' = added ++ parts ∧
      added.reverse.map (·.expr) = letters.map (letterExpr flags) := by
  -- No chunk that stands for a character repeats anything, so each adds its own part.
  induction chunks generalizing letters parts with
  | nil =>
    cases builds
    cases letters with
    | nil => exact ⟨[], rfl, rfl⟩
    | cons c letters => cases spelled
  | cons chunk chunks ih =>
    cases letters with
    | nil => cases spelled
    | cons c letters =>
      simp only [List.map_cons, List.cons.injEq] at spelled
      cases builds with
      | cons turns builds =>
        cases turns with
        | @adds part _ single letter =>
          obtain ⟨added, rfl, same⟩ := ih spelled.2 builds
          have expr := letter c spelled.1
          -- The part of this letter is below those of the others.
          refine ⟨added ++ [part], by simp, ?_⟩
          rw [List.reverse_append, List.map_append, same]
          simp [expr, letterExpr]
        | again asks =>
          rw [Chunk.repeats_of_letter? spelled.1] at asks
          cases asks

/-- Chunks that come later leave alone all parts below the last one. -/
theorem exists_of_builds {chunks : List Chunk} {last : Part} {below parts : List Part}
    (builds : Builds flags chunks (last :: below) parts) : ∃ above, parts = above ++ below := by
  -- A chunk looks at the last part alone, and puts it back if it repeats it.
  induction chunks generalizing last below with
  | nil =>
    cases builds
    exact ⟨[last], rfl⟩
  | cons chunk chunks ih =>
    cases builds with
    | cons turns builds =>
      cases turns with
      | adds =>
        obtain ⟨above, rfl⟩ := ih builds
        exact ⟨above ++ [last], by simp⟩
      -- The last part is repeated and stays the last one.
      | again => exact ih builds

/-- What follows may repeat the part before it, but not leave it out. -/
def Chunk.isSafe : List Chunk → Bool
  | [] => true
  | chunk :: rest => if chunk.isPositive then isSafe rest else !chunk.repeats

/-- A letter stays where it is if what follows is safe. -/
theorem exists_of_builds_safe {chunks : List Chunk} (safe : Chunk.isSafe chunks = true) {c : Char}
    {last : Part} {below parts : List Part} (often : Often flags c last.expr)
    (builds : Builds flags chunks (last :: below) parts) :
    ∃ above last, parts = above ++ last :: below ∧ Often flags c last.expr := by
  -- The letter is repeated at least once each time, until a chunk of another part follows.
  induction chunks generalizing last with
  | nil =>
    cases builds
    exact ⟨[], last, rfl, often⟩
  | cons chunk chunks ih =>
    cases builds with
    | cons turns builds =>
      cases turns with
      | adds =>
        obtain ⟨above, rfl⟩ := exists_of_builds builds
        exact ⟨above, last, rfl, often⟩
      | again asks expr once =>
        unfold Chunk.isSafe at safe
        split at safe
        · rename_i positive
          refine ih safe ?_ builds
          rw [expr]
          exact .again often (once positive)
        · -- What may leave the letter out is not safe.
          simp [asks] at safe

/--
The letters stand somewhere in the row, one after the other and each by a chunk of its own.

What follows the last one does not let it be left out.
-/
def Demands (chunks : List Chunk) (letters : List Char) : Prop :=
  ∃ before run behind, chunks = before ++ run ++ behind ∧
    run.map Chunk.letter? = letters.map some ∧ Chunk.isSafe behind = true

/-- A text in which an expression is found contains the letters that its source demands. -/
theorem Demands.exists_of_search {chunks : List Chunk} {letters : List Char}
    (demands : Demands chunks letters) (fits : ∀ chunk ∈ chunks, chunk.Fits)
    (eager : '?' ∉ source chunks) {ignoreCase : Bool} {r : Regex}
    (compiled : compile ignoreCase (source chunks) = .ok r) {text : List Char}
    (found : r.search text = true) :
    ∃ part, part <:+: text ∧
      List.Forall₂ (fun c d => (({ ignoreCase } : Flags).fold (.only c)).has d = true) letters part := by
  obtain ⟨before, run, behind, rfl, spelled, safe⟩ := demands
  obtain ⟨parts, builds, rfl⟩ := exists_of_compile_source fits eager compiled
  rw [search_iff_occurs (bounded_compile compiled)] at found
  obtain ⟨first, word, beyond, rfl, here⟩ := found
  obtain ⟨_, builds, further⟩ := builds_append builds
  obtain ⟨below, _, builds⟩ := builds_append builds
  obtain ⟨added, rfl, exprs⟩ := builds_letters spelled builds
  -- The last letter is on top when what follows is read, and stays in its place.
  cases added with
  | nil =>
    obtain rfl : letters = [] := List.map_eq_nil_iff.mp exprs.symm
    -- No letters are asked for.
    exact ⟨[], List.nil_infix, .nil⟩
  | cons top added =>
    obtain rfl | ⟨initial, c, rfl⟩ := List.eq_nil_or_concat' letters
    · simp at exprs
    · simp only [List.reverse_cons, List.map_append, List.map_cons, List.map_nil] at exprs
      -- The part on top is that of the last letter, and the others are below it.
      obtain ⟨row, single⟩ := List.append_inj' exprs rfl
      have often : Often { ignoreCase } c top.expr := by
        rw [(List.cons.inj single).1]
        exact .once
      rw [List.cons_append] at further
      obtain ⟨above, last, rfl, often⟩ := exists_of_builds_safe safe often further
      -- In the order of the source the letters stand in the middle of the row.
      have whole : (above ++ last :: (added ++ below)).reverse.map (·.expr) =
          below.reverse.map (·.expr) ++ (initial.map (letterExpr { ignoreCase }) ++ [last.expr]) ++
            above.reverse.map (·.expr) := by
        simp [← row]
      rw [whole] at here
      obtain ⟨most, tail, rfl, here, _⟩ := matches_cats_append_iff.mp here
      obtain ⟨front, _, rfl, _, here⟩ := matches_cats_append_iff.mp here
      obtain ⟨part, rest, rfl, same⟩ := exists_of_matches_letters often here
      exact ⟨part, ⟨first ++ front, rest ++ (tail ++ beyond), by simp⟩, same⟩

end AdFilter.Regex
