import AdFilter.Text.Bytes
import AdFilter.Text.Search
import Mathlib

/-! Where a word may stand in a text that is put together from parts, and what the parts of a cut text are. -/

namespace AdFilter.Text

variable {c : Char} {word text before rest new : List Char}

/-- A word is not cut off a text that does not begin with it. -/
theorem isPrefixOf?_eq_none_iff : List.isPrefixOf? word text = none ↔ ¬ word <+: text := by
  rw [← Option.not_isSome_iff_eq_none, List.isSome_isPrefixOf?_eq_isPrefixOf,
    List.isPrefixOf_iff_prefix]

/-- A word without a character does not reach to where that stands. -/
theorem prefix_of_prefix_append_cons (absent : c ∉ word) (begins : word <+: before ++ c :: rest) :
    word <+: before := by
  obtain ⟨tail, whole⟩ := begins
  -- The word ends within the first part, or it goes on to the character behind that.
  rcases List.append_eq_append_iff.mp whole with ⟨more, rfl, _⟩ | ⟨more, rfl, left⟩
  · exact List.prefix_append _ _
  · cases more with
    | nil => simp
    | cons first more =>
      rw [List.cons_append, List.cons.injEq] at left
      simp [left.1] at absent

/-- A word without a character stands on one side of it. -/
theorem infix_append_cons_iff (absent : c ∉ word) :
    word <:+: before ++ c :: rest ↔ word <:+: before ∨ word <:+: rest := by
  constructor
  · intro inside
    induction before with
    | nil =>
      rcases List.infix_cons_iff.mp inside with begins | behind
      · -- A word that begins with the character could only be the empty one.
        have short : word <+: [] := prefix_of_prefix_append_cons absent begins
        exact .inl short.isInfix
      · exact .inr behind
    | cons d before ih =>
      rcases List.infix_cons_iff.mp inside with begins | behind
      · have short : word <+: d :: before := prefix_of_prefix_append_cons absent begins
        exact .inl short.isInfix
      · exact (ih behind).imp_left List.infix_cons
  · rintro (inside | inside)
    · exact inside.trans (List.prefix_append before _).isInfix
    · exact inside.trans ((List.suffix_cons c rest).trans (List.suffix_append before _)).isInfix

/-- A word does not begin in what lacks its first character. -/
theorem infix_of_infix_append (absent : c ∉ before) (inside : c :: word <:+: before ++ rest) :
    c :: word <:+: rest := by
  induction before with
  | nil => exact inside
  | cons d before ih =>
    simp only [List.mem_cons, not_or] at absent
    -- The word begins with a character that does not stand in front.
    rcases List.infix_cons_iff.mp inside with begins | behind
    · exact absurd (List.cons_prefix_cons.mp begins).1 absent.1
    · exact ih absent.2 behind

/-- A text without a word is not cut at it. -/
theorem cutFirst?_eq_none (absent : ¬ word <:+: text) : cutFirst? word text = none := by
  induction text with
  | nil =>
    -- Only an empty word is found at the end of the text.
    have filled : word ≠ [] := fun empty => absent (empty ▸ List.infix_rfl)
    simp [cutFirst?, filled]
  | cons d text ih =>
    simp only [List.infix_cons_iff, not_or] at absent
    rw [cutFirst?, isPrefixOf?_eq_none_iff.mpr absent.1, ih absent.2]
    rfl

/-- A word whose first character comes once does not begin in what lacks it and go on from there. -/
theorem not_prefix_append_cons {d : Char} (once : c ∉ word) (absent : ¬ c :: word <+: d :: before) :
    ¬ c :: word <+: d :: (before ++ c :: rest) := by
  intro begins
  obtain ⟨rfl, follows⟩ := List.cons_prefix_cons.mp begins
  exact absent (List.cons_prefix_cons.mpr ⟨rfl, prefix_of_prefix_append_cons once follows⟩)

/-- What begins with such a word stands no earlier than at the next place where it may begin. -/
theorem infix_of_infix_append_cons (once : c ∉ word) (absent : ¬ c :: word <:+: before)
    (inside : c :: (word ++ new) <:+: before ++ c :: rest) : c :: (word ++ new) <:+: c :: rest := by
  induction before with
  | nil => exact inside
  | cons d before ih =>
    simp only [List.infix_cons_iff, not_or] at absent
    rcases List.infix_cons_iff.mp inside with begins | behind
    -- A longer word that began in front would have the shorter one there.
    · have whole : c :: word <+: c :: (word ++ new) := List.prefix_append (c :: word) new
      exact absurd (whole.trans begins) (not_prefix_append_cons once absent.1)
    · exact ih absent.2 behind

/-- A text is cut at a word, if that neither stands before nor has its first character twice. -/
theorem cutFirst?_append (once : c ∉ word) (absent : ¬ c :: word <:+: before) :
    cutFirst? (c :: word) (before ++ c :: (word ++ rest)) = some (before, rest) := by
  induction before with
  | nil =>
    have begins : List.isPrefixOf? (c :: word) (c :: (word ++ rest)) = some rest := by simp
    rw [List.nil_append, cutFirst?, begins]
  | cons d before ih =>
    simp only [List.infix_cons_iff, not_or] at absent
    -- The word does not begin in front and go on behind, as it has its first character once.
    have later : ¬ c :: word <+: d :: (before ++ c :: (word ++ rest)) :=
      not_prefix_append_cons once absent.1
    rw [List.cons_append, cutFirst?, isPrefixOf?_eq_none_iff.mpr later, ih absent.2]
    rfl

/-- A text without a word stays as it is when that is replaced. -/
theorem replaceFirst_eq_self (absent : ¬ word <:+: text) : replaceFirst word new text = text := by
  -- The word is not found, so there is no place to cut.
  rw [replaceFirst, cutFirst?_eq_none absent]

/-- A word is replaced where it stands first. -/
theorem replaceFirst_append (once : c ∉ word) (absent : ¬ c :: word <:+: before) :
    replaceFirst (c :: word) new (before ++ c :: (word ++ rest)) = before ++ new ++ rest := by
  -- The first place of the word is the one behind the text in front.
  rw [replaceFirst, cutFirst?_append once absent]

/-- The characters of a class go no further than to the first one that is not of it. -/
theorem takeWhile_append_eq {goes : Char → Bool} (all : ∀ c ∈ before, goes c = true)
    (ends : ∀ c ∈ rest.head?, goes c = false) : (before ++ rest).takeWhile goes = before := by
  rw [List.takeWhile_append_of_pos all]
  -- The rest is empty, or begins with a character that ends the run.
  cases rest with
  | nil => simp
  | cons c rest => simp [ends c rfl]

section Cut

variable {stop : Char → Bool} {after : List Char}

/-- A text is cut at the first character of the class. -/
theorem cutWhere?_append_cons (clear : ∀ d ∈ before, stop d = false)
    (stops : stop c = true) : cutWhere? stop (before ++ c :: after) = some (before, after) := by
  -- The search goes over all that stands in front.
  induction before with
  | nil => simp [cutWhere?, stops]
  | cons d before ih =>
    simp only [List.forall_mem_cons] at clear
    simp [cutWhere?, clear.1, ih clear.2]

/-- A text without a character of the class is not cut. -/
theorem cutWhere?_eq_none (clear : ∀ d ∈ text, stop d = false) : cutWhere? stop text = none := by
  induction text with
  | nil => rfl
  | cons d text ih =>
    simp only [List.forall_mem_cons] at clear
    simp [cutWhere?, clear.1, ih clear.2]

/-- A text is cut where a character stands first. -/
theorem cutWhere?_first (absent : c ∉ before) :
    cutWhere? (· == c) (before ++ c :: after) = some (before, after) := by
  refine cutWhere?_append_cons (fun d member => beq_false_of_ne ?_) (beq_self_eq_true c)
  rintro rfl
  exact absent member

/-- A text without a character is not cut at it. -/
theorem cutWhere?_absent (absent : c ∉ text) : cutWhere? (· == c) text = none := by
  refine cutWhere?_eq_none fun d member => beq_false_of_ne ?_
  rintro rfl
  exact absent member

/-- The place where a text is cut does not depend on case if the class does not. -/
theorem cutWhere?_map (same : ∀ c, stop c.toLower = stop c) (text : List Char) :
    cutWhere? stop (text.map Char.toLower) =
      (cutWhere? stop text).map (Prod.map (List.map Char.toLower) (List.map Char.toLower)) := by
  induction text with
  | nil => rfl
  | cons c text ih =>
    -- Case does not count for where the text is cut.
    simp only [List.map_cons, cutWhere?, same, ih]
    split
    · rfl
    · cases cutWhere? stop text <;> rfl

/-- No character before a cut belongs to the class that is cut at. -/
theorem not_stop_of_cutWhere? {stop : Char → Bool} {text before after : List Char}
    (cut : cutWhere? stop text = some (before, after)) : ∀ c ∈ before, stop c = false := by
  -- A character is passed only where it does not belong to the class.
  induction text generalizing before with
  | nil => simp [cutWhere?] at cut
  | cons c rest ih =>
    simp only [cutWhere?] at cut
    split at cut
    · cases cut
      simp
    · rename_i goes
      -- The cut lies behind this character, which is passed itself.
      simp only [Option.map_eq_some_iff, Prod.mk.injEq] at cut
      obtain ⟨pair, found, rfl, rfl⟩ := cut
      simp only [List.mem_cons, forall_eq_or_imp]
      exact ⟨by simpa using goes, ih found⟩

/-- A text that is not cut has no character of the class. -/
theorem not_stop_of_cutWhere?_none {stop : Char → Bool} {text : List Char}
    (cut : cutWhere? stop text = none) : ∀ c ∈ text, stop c = false := by
  -- The end is reached only where every character was passed.
  induction text with
  | nil => simp
  | cons c rest ih =>
    simp only [cutWhere?] at cut
    split at cut
    · simp at cut
    · rename_i goes
      simp only [Option.map_eq_none_iff] at cut
      simp only [List.mem_cons, forall_eq_or_imp]
      exact ⟨by simpa using goes, ih cut⟩

/-- A suffix that begins with a mark starts no earlier than the first mark of the text. -/
theorem cons_isSuffix_append_cons {mark : Char} {before after name : List Char}
    (clear : ∀ c ∈ before, c ≠ mark) :
    mark :: name <:+ before ++ mark :: after ↔ name = after ∨ mark :: name <:+ after := by
  -- Each character before the mark can be dropped, since the suffix does not begin with it.
  induction before with
  | nil =>
    -- The suffix begins with this mark or lies behind it.
    rw [List.nil_append, List.suffix_cons_iff]
    simp
  | cons c rest ih =>
    have other : mark ≠ c := fun same => clear c (by simp) same.symm
    have tail : ∀ d ∈ rest, d ≠ mark := fun d member => clear d (by simp [member])
    rw [List.cons_append, List.suffix_cons_iff, ih tail]
    simp [other]

end Cut

section Parts

variable {separator : Char → Bool} {part : List Char}

/-- The first part of a text between separators stands at its beginning. -/
theorem head?_splitOnP_prefix (first : part ∈ (text.splitOnP separator).head?) : part <+: text := by
  induction text generalizing part with
  | nil =>
    rw [List.splitOnP_nil] at first
    cases first
    exact List.prefix_rfl
  | cons c text ih =>
    rw [List.splitOnP_cons_eq_if_modifyHead] at first
    split at first
    · cases first
      -- The first part goes on as long as nothing separates.
      exact List.nil_prefix
    · rw [List.head?_modifyHead] at first
      obtain ⟨short, found, rfl⟩ := Option.map_eq_some_iff.mp first
      exact (List.prefix_append_right_inj [c]).mpr (ih found)

/-- Each part of a text between separators stands in the text, and none of them in the part. -/
theorem infix_of_mem_splitOnP (member : part ∈ text.splitOnP separator) :
    part <:+: text ∧ ∀ c ∈ part, separator c = false := by
  induction text generalizing part with
  | nil =>
    obtain rfl : part = [] := by simpa using member
    exact ⟨List.infix_rfl, by simp⟩
  | cons c text ih =>
    rw [List.splitOnP_cons_eq_if_modifyHead] at member
    split at member
    · rcases List.mem_cons.mp member with rfl | later
      · exact ⟨List.nil_infix, by simp⟩
      · exact ⟨List.infix_cons (ih later).1, (ih later).2⟩
    · -- The character stands at the beginning of the first part, and the others are those of the rest.
      rename_i plain
      obtain ⟨first, others, parts⟩ := List.exists_cons_of_ne_nil (List.splitOnP_ne_nil separator text)
      rw [parts, List.modifyHead_cons] at member
      rcases List.mem_cons.mp member with rfl | later
      · have head : (text.splitOnP separator).head? = some first := by simp [parts]
        have begins := head?_splitOnP_prefix head
        refine ⟨((List.prefix_append_right_inj [c]).mpr begins).isInfix, ?_⟩
        have clear := (ih (parts ▸ List.mem_cons_self)).2
        simpa using ⟨by simpa using plain, clear⟩
      · have inside := ih (parts ▸ List.mem_cons_of_mem _ later)
        exact ⟨List.infix_cons inside.1, inside.2⟩

/-- The longest of some parts is one of them. -/
theorem foldl_longest_mem (parts : List (List Char)) (first : List Char) :
    parts.foldl (fun longest part =>
      if byteLength longest < byteLength part then part else longest) first ∈
        first :: parts := by
  -- The choice stays what it was, or is the part that has just come up.
  induction parts generalizing first with
  | nil => simp
  | cons part parts ih =>
    rw [List.foldl_cons]
    by_cases longer : byteLength first < byteLength part
    · -- A longer part is the choice from now on.
      rw [if_pos longer]
      exact List.mem_cons_of_mem _ (ih part)
    · -- Any other part is passed over.
      rw [if_neg longer]
      rcases List.mem_cons.mp (ih first) with same | member
      · exact List.mem_cons.mpr (Or.inl same)
      · exact List.mem_cons_of_mem _ (List.mem_cons_of_mem _ member)

/-- The longest part between separators stands in the text, and no separator in it. -/
theorem longestPart_spec (separator : Char → Bool) (text : List Char) :
    longestPart separator text <:+: text ∧ ∀ c ∈ longestPart separator text, separator c = false := by
  -- The longest part is the one to begin with, or one of those compared with it.
  rcases List.mem_cons.mp (foldl_longest_mem (text.splitOnP separator) []) with empty | member
  · rw [longestPart, empty]
    exact ⟨List.nil_infix, by simp⟩
  · exact infix_of_mem_splitOnP member

end Parts

end AdFilter.Text
