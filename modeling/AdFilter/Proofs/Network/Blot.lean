import AdFilter.Network.Pattern
import AdFilter.Proofs.Regex.Letters
import Mathlib.Data.List.DropRight

/-! Blotting out, told for the chunks of a source: which are left, and that no letters are new. -/

namespace AdFilter.Network

open Regex (Chunk)

/-- The steps of blotting out, each for chunks of one kind. -/
inductive Step
  | group
  | set
  | count
  | letter
  deriving DecidableEq

/-- The step that blots out a chunk. -/
def step? : Chunk → Option Step
  | .group _ => some .group
  | .set _ => some .set
  | .count _ => some .count
  | .escape c => if c.isAlpha then some .letter else none
  | .char _ => none

namespace Step

/-- What a step makes of the source. -/
def apply : Step → List Char → List Char
  | group => blotGroup '(' ')'
  | set => blotGroup '[' ']'
  | count => blotGroup '\x7b' '\x7d'
  | letter => blotLetter

/-- The chunks behind those that a step blots out, which are the first letter or all brackets. -/
def behind (step : Step) (chunks : List Chunk) : List Chunk :=
  if step = letter then chunks.tail
  else chunks.rtakeWhile fun chunk => decide (step? chunk ≠ some step)

end Step

/-- What is left of a chunk when its last character is blotted out. -/
def dots? : Chunk → Option (List Chunk)
  | .char _ => some [.char '.', .char '.', .char '.']
  | .escape _ => some [.escape '.', .char '.', .char '.']
  | _ => none

/-- The chunks that a step leaves; it takes the last character away from the chunk before. -/
def blotOut? (step : Step) : List Chunk → Option (List Chunk)
  | y :: z :: rest =>
    if step? z = some step then (dots? y).map (· ++ step.behind (z :: rest))
    else (blotOut? step (z :: rest)).map (y :: ·)
  | short => some short

/-- The chunks that all steps leave one after the other, with dots before them. -/
def blotted? (chunks : List Chunk) : Option (List Chunk) :=
  [Step.group, .set, .count, .letter].foldlM (fun chunks step => blotOut? step chunks)
    (.char '.' :: .char '.' :: .char '.' :: chunks)

section Left

variable {step : Step} {chunks left : List Chunk}

/-- What stands behind the chunks that a step blots out ends the whole. -/
theorem Step.behind_suffix : step.behind chunks <:+ chunks := by
  unfold behind
  split
  · -- The step for letters takes one chunk away, the others all up to the last of their kind.
    exact List.tail_suffix _
  · exact List.rtakeWhile_suffix ..

/-- What is left of a chunk are dots, the first one escaped if the chunk was. -/
theorem eq_of_dots? {y : Chunk} (dots : dots? y = some left) :
    ∃ first, left = [first, .char '.', .char '.'] ∧ (first = .char '.' ∨ first = .escape '.') := by
  -- Only a character and an escaped one leave something, and it begins with a point.
  cases y with
  | char c =>
    cases dots
    exact ⟨_, rfl, Or.inl rfl⟩
  | escape c =>
    cases dots
    exact ⟨_, rfl, Or.inr rfl⟩
  | set | count | group => cases dots

/-- Each of the dots is escaped or not. -/
theorem eq_of_mem_dots? {y chunk : Chunk} (dots : dots? y = some left) (member : chunk ∈ left) :
    chunk = .char '.' ∨ chunk = .escape '.' := by
  obtain ⟨first, rfl, kind⟩ := eq_of_dots? dots
  simp only [List.mem_cons, List.not_mem_nil, or_false] at member
  -- The first of the three may be escaped, and the others are plain points.
  rcases member with rfl | rfl | rfl
  · exact kind
  · exact Or.inl rfl
  · exact Or.inl rfl

/-- Nothing but dots is new in what a step leaves. -/
theorem mem_of_blotOut? (blotted : blotOut? step chunks = some left) {chunk : Chunk}
    (member : chunk ∈ left) : chunk ∈ chunks ∨ chunk = .char '.' ∨ chunk = .escape '.' := by
  -- The chunks before the cut and behind it are kept, and dots stand between.
  fun_induction blotOut? step chunks generalizing left with
  | case1 y z rest =>
    obtain ⟨dots, eq, rfl⟩ := Option.map_eq_some_iff.mp blotted
    rcases List.mem_append.mp member with member | member
    · -- What is new are dots.
      exact Or.inr (eq_of_mem_dots? eq member)
    · exact Or.inl (List.mem_cons_of_mem _ (Step.behind_suffix.subset member))
  | case2 y z rest _ ih =>
    obtain ⟨tail, eq, rfl⟩ := Option.map_eq_some_iff.mp blotted
    rcases List.mem_cons.mp member with rfl | member
    · simp
    · exact (ih eq member).imp_left (List.mem_cons_of_mem _)
  | case3 =>
    cases blotted
    exact Or.inl member

/-- No brackets are left that a step blots out, unless the whole begins with them. -/
theorem step?_ne_of_blotOut? (blotted : blotOut? step chunks = some left)
    (bracket : step ≠ .letter) (first : ∀ chunk ∈ chunks.head?, step? chunk ≠ some step)
    {chunk : Chunk} (member : chunk ∈ left) : step? chunk ≠ some step := by
  -- All that is kept stands before the first such chunk or behind the last one.
  fun_induction blotOut? step chunks generalizing left with
  | case1 y z rest =>
    obtain ⟨dots, eq, rfl⟩ := Option.map_eq_some_iff.mp blotted
    rcases List.mem_append.mp member with member | member
    · rcases eq_of_mem_dots? eq member with rfl | rfl
      · simp [step?]
      · rw [show step? (.escape '.') = none by decide]
        simp
    · -- Behind the last chunk of the kind there is none.
      rw [Step.behind, if_neg bracket] at member
      simpa using List.mem_rtakeWhile_imp member
  | case2 y z rest other ih =>
    obtain ⟨tail, eq, rfl⟩ := Option.map_eq_some_iff.mp blotted
    rcases List.mem_cons.mp member with rfl | member
    · exact first _ rfl
    · refine ih eq (fun chunk head => ?_) member
      cases head
      exact other
  | case3 short single =>
    cases blotted
    cases short with
    | nil => cases member
    | cons y rest =>
      cases rest with
      | nil =>
        obtain rfl := List.mem_singleton.mp member
        exact first _ rfl
      | cons z rest => exact absurd rfl (single y z rest)

/-- A row that begins with a dot keeps doing so. -/
theorem exists_of_blotOut?_dot {tail : List Chunk}
    (blotted : blotOut? step (.char '.' :: tail) = some left) :
    ∃ tail', left = .char '.' :: tail' := by
  -- If the dot itself is taken away, another one takes its place.
  cases tail with
  | nil =>
    cases blotted
    exact ⟨[], rfl⟩
  | cons z rest =>
    unfold blotOut? at blotted
    split at blotted
    · obtain ⟨dots, eq, rfl⟩ := Option.map_eq_some_iff.mp blotted
      cases eq
      exact ⟨_, rfl⟩
    · obtain ⟨tail, _, rfl⟩ := Option.map_eq_some_iff.mp blotted
      exact ⟨tail, rfl⟩

end Left

/-- The letters stand somewhere in the row, each by a chunk of its own. -/
def Spells (letters : List Char) (chunks : List Chunk) : Prop :=
  letters.map some <:+: chunks.map Chunk.letter?

section Back

variable {step : Step} {letters : List Char} {chunks left : List Chunk}

/-- Letters do not begin where something was blotted out. -/
theorem not_isPrefix_dot {first : Chunk} {c : Char} {rest : List (Option Char)}
    (kind : first = .char '.' ∨ first = .escape '.') (special : isSpecial c = false) :
    ¬ (c :: letters).map some <+: first.letter? :: rest := by
  -- A dot stands for no character, and an escaped one for a character that is special.
  intro begins
  rw [List.map_cons, List.cons_prefix_cons] at begins
  rcases kind with rfl | rfl
  · cases begins.1
  · have same : some c = some '.' := begins.1
    cases same
    cases special

/-- Letters that stand behind a dot do not need it. -/
theorem spells_of_dot {first : Chunk} (kind : first = .char '.' ∨ first = .escape '.')
    (plain : ∀ c ∈ letters, isSpecial c = false) (filled : letters ≠ [])
    (spells : Spells letters (first :: chunks)) : Spells letters chunks := by
  refine (List.infix_cons_iff.mp spells).resolve_left ?_
  -- A point is no plain character, so the letters do not begin here.
  cases letters with
  | nil => exact absurd rfl filled
  | cons c letters => exact not_isPrefix_dot kind (plain c (by simp))

/-- Letters at the beginning of what a step leaves were there before it. -/
theorem isPrefix_of_blotOut? (blotted : blotOut? step chunks = some left)
    (plain : ∀ c ∈ letters, isSpecial c = false)
    (begins : letters.map some <+: left.map Chunk.letter?) :
    letters.map some <+: chunks.map Chunk.letter? := by
  fun_induction blotOut? step chunks generalizing letters left with
  | case1 y z rest =>
    obtain ⟨dots, eq, rfl⟩ := Option.map_eq_some_iff.mp blotted
    obtain ⟨first, rfl, kind⟩ := eq_of_dots? eq
    -- Dots come first, so no letter does.
    cases letters with
    | nil => exact List.nil_prefix
    | cons c letters => exact absurd begins (not_isPrefix_dot kind (plain c (by simp)))
  | case2 y z rest _ ih =>
    obtain ⟨tail, eq, rfl⟩ := Option.map_eq_some_iff.mp blotted
    cases letters with
    | nil => exact List.nil_prefix
    | cons c letters =>
      rw [List.map_cons, List.map_cons, List.cons_prefix_cons] at begins ⊢
      exact ⟨begins.1, ih eq (fun d member => plain d (by simp [member])) begins.2⟩
  | case3 =>
    cases blotted
    exact begins

/-- Letters that stand in what a step leaves stood there before it. -/
theorem spells_of_blotOut? (blotted : blotOut? step chunks = some left)
    (plain : ∀ c ∈ letters, isSpecial c = false) (filled : letters ≠ [])
    (spells : Spells letters left) : Spells letters chunks := by
  fun_induction blotOut? step chunks generalizing left with
  | case1 y z rest =>
    obtain ⟨dots, eq, rfl⟩ := Option.map_eq_some_iff.mp blotted
    obtain ⟨first, rfl, kind⟩ := eq_of_dots? eq
    -- The letters stand behind the dots.
    have within := spells_of_dot kind plain filled spells
    have within := spells_of_dot (Or.inl rfl) plain filled within
    have within := spells_of_dot (Or.inl rfl) plain filled within
    -- What stands behind the cut stood at the end before.
    have suffix : step.behind (z :: rest) <:+ y :: z :: rest :=
      Step.behind_suffix.trans (List.suffix_cons ..)
    exact within.trans (suffix.map _).isInfix
  | case2 y z rest other ih =>
    obtain ⟨tail, eq, rfl⟩ := Option.map_eq_some_iff.mp blotted
    rcases List.infix_cons_iff.mp spells with begins | within
    · -- The letters begin here, and nothing was cut out before them.
      have whole : blotOut? step (y :: z :: rest) = some (y :: tail) := by
        simp [blotOut?, other, eq]
      exact (isPrefix_of_blotOut? whole plain begins).isInfix
    · exact List.infix_cons (ih eq within)
  | case3 =>
    cases blotted
    exact spells

end Back

end AdFilter.Network
