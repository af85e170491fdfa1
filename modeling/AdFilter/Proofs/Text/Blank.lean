import AdFilter.Text.Search
import Mathlib

/-! What stands between two characters that are not blank is kept when white space is cut off both ends. -/

namespace AdFilter.Text

variable {c opening closing : Char}

/-- What is left without leading white space ends as the text does. -/
theorem trimStart_suffix (text : List Char) : trimStart text <:+ text := List.dropWhile_suffix isBlank

/-- What is left without trailing white space begins as the text does. -/
theorem trimEnd_prefix (text : List Char) : trimEnd text <+: text := List.rdropWhile_prefix isBlank text

/-- There is no leading white space left to cut off. -/
theorem trimStart_trimStart (text : List Char) : trimStart (trimStart text) = trimStart text :=
  List.dropWhile_idempotent isBlank text

/-- There is no trailing white space left to cut off. -/
theorem trimEnd_trimEnd (text : List Char) : trimEnd (trimEnd text) = trimEnd text :=
  List.rdropWhile_idempotent isBlank text

/-- A character that a text lacks is not in it without leading white space either. -/
theorem not_mem_trimStart {text : List Char} (absent : c ∉ text) : c ∉ trimStart text :=
  fun member => absent ((trimStart_suffix text).subset member)

/-- White space in front is cut off up to the first character that is not blank. -/
theorem trimStart_append_cons (filled : isBlank c = false) (before behind : List Char) :
    trimStart (before ++ c :: behind) = trimStart before ++ c :: behind := by
  -- Either all of what stands in front is blank, or its first other character stops the cut.
  rw [trimStart, List.dropWhile_append, List.dropWhile_cons_of_neg (by simp [filled])]
  split
  · simp_all [trimStart]
  · rfl

/-- White space behind is cut off down to the last character that is not blank. -/
theorem trimEnd_append_cons (filled : isBlank c = false) (before behind : List Char) :
    trimEnd (before ++ c :: behind) = before ++ c :: trimEnd behind := by
  -- From behind, the text is cut as its reverse is from the front.
  have turned := trimStart_append_cons filled behind.reverse before.reverse
  simp only [trimStart] at turned
  simp [trimEnd, turned]

/-- White space is cut off on both sides of a character that is not blank. -/
theorem trim_append_cons (filled : isBlank c = false) (before behind : List Char) :
    trim (before ++ c :: behind) = trimStart before ++ c :: trimEnd behind := by
  -- The character in between stops the cut from both sides.
  rw [trim, trimStart_append_cons filled, trimEnd_append_cons filled]

/-- There is nothing to cut off the end of a text if its last character is not blank. -/
theorem trimEnd_eq_self_iff {text : List Char} :
    trimEnd text = text ↔ ∀ c ∈ text.getLast?, isBlank c = false := by
  refine List.rdropWhile_eq_self_iff.trans ⟨fun filled c last => ?_, fun filled nonempty => ?_⟩
  -- Nothing is cut off if the last character, when there is one, stays.
  · obtain ⟨nonempty, rfl⟩ := List.mem_getLast?_eq_getLast last
    exact Bool.not_eq_true _ ▸ filled nonempty
  · simp [filled _ (List.getLast_mem_getLast? nonempty)]

/-- There is nothing to cut off the end of a text if there is none to cut off a longer text. -/
theorem trimEnd_of_suffix {part text : List Char} (ends : part <:+ text) (trimmed : trimEnd text = text) :
    trimEnd part = part := by
  obtain ⟨front, rfl⟩ := ends
  rw [trimEnd_eq_self_iff] at trimmed ⊢
  -- A part at the end has the same last character.
  exact fun c last => trimmed c (List.mem_getLast?_append_of_mem_getLast? last)

/-- White space is cut off in front of what is kept, and behind it. -/
theorem trim_around (opens : isBlank opening = false) (closes : isBlank closing = false)
    (before inside behind : List Char) :
    trim (before ++ (opening :: inside ++ [closing]) ++ behind) =
      trimStart before ++ (opening :: inside ++ [closing]) ++ trimEnd behind := by
  -- White space is cut off in front first, and then at the end of what is left.
  have front : trimStart (before ++ (opening :: inside ++ [closing]) ++ behind) =
      trimStart before ++ (opening :: inside ++ [closing]) ++ behind := by
    simpa using trimStart_append_cons opens before (inside ++ [closing] ++ behind)
  have back := trimEnd_append_cons closes (trimStart before ++ opening :: inside) behind
  rw [trim, front]
  simpa using back

/-- There is nothing to cut off a text that begins and ends with characters that are not blank. -/
theorem trim_eq_self (opens : isBlank opening = false) (closes : isBlank closing = false)
    (inside : List Char) : trim (opening :: (inside ++ [closing])) = opening :: (inside ++ [closing]) := by
  simpa [trimStart, trimEnd] using trim_around opens closes [] inside []

/-- There is nothing to cut off a text without white space. -/
theorem trim_eq_self_of_filled {text : List Char} (filled : ∀ c ∈ text, isBlank c = false) :
    trim text = text := by
  -- The first character stays, and from the other end so does the last.
  have start : trimStart text = text := by
    rw [trimStart, List.dropWhile_eq_self_iff]
    intro long
    simpa using filled _ (List.getElem_mem long)
  rw [trim, start]
  apply List.rdropWhile_eq_self_iff.mpr
  intro nonempty
  simpa using filled _ (List.getLast_mem nonempty)

/-- What has no white space around it does not begin with any. -/
theorem isBlank_head?_of_trim_eq {text : List Char} (trimmed : trim text = text) :
    ∀ c ∈ text.head?, isBlank c = false := by
  intro c first
  obtain ⟨rest, rfl⟩ := List.head?_eq_some_iff.mp first
  by_contra blank
  -- The first character would be cut off, and so the text would be shorter.
  have cut : trimStart (c :: rest) = trimStart rest :=
    List.dropWhile_cons_of_pos (by simpa using blank)
  have begins := Text.trimEnd_prefix (trimStart rest)
  have shorter := begins.length_le.trans (trimStart_suffix rest).length_le
  rw [trim, cut] at trimmed
  rw [trimmed, List.length_cons] at shorter
  omega

section Ends

variable {before text behind : List Char}

/-- A trimmed text has nothing left to trim. -/
theorem trim_trim (text : List Char) : trim (trim text) = trim text := by
  -- What is dropped behind leaves the first character, which is not blank.
  have started : trimStart (trim text) = trim text := by
    have within : trim text <+: trimStart text := List.rdropWhile_prefix isBlank _
    refine List.dropWhile_eq_self_iff.mpr fun filled => ?_
    rw [within.getElem]
    exact List.dropWhile_get_zero_not isBlank text (filled.trans_le within.length_le)
  rw [trim, started]
  exact List.rdropWhile_idempotent isBlank _

/-- White space in front of a text is cut off with what the text begins with. -/
theorem trimStart_blanks_append (blank : ∀ c ∈ before, isBlank c = true) (text : List Char) :
    trimStart (before ++ text) = trimStart text :=
  List.dropWhile_append_of_pos blank

/-- White space behind a text is cut off with what the text ends with. -/
theorem trimEnd_append_blanks (blank : ∀ c ∈ behind, isBlank c = true) (text : List Char) :
    trimEnd (text ++ behind) = trimEnd text := by
  -- From behind, the blanks come first.
  rw [trimEnd, List.reverse_append, List.dropWhile_append_of_pos (by simpa using blank), trimEnd]

/-- What is cut off a text at both ends is white space. -/
theorem exists_append_trim (text : List Char) : ∃ before behind, text = before ++ trim text ++ behind ∧
    (∀ c ∈ before, isBlank c = true) ∧ ∀ c ∈ behind, isBlank c = true := by
  -- What is cut off are the blanks in front, and those at the end of what is left.
  refine ⟨text.takeWhile isBlank, ((trimStart text).reverse.takeWhile isBlank).reverse, ?_,
    fun c member => List.mem_takeWhile_imp member,
    fun c member => List.mem_takeWhile_imp (List.mem_reverse.mp member)⟩
  have back : trim text ++ ((trimStart text).reverse.takeWhile isBlank).reverse = trimStart text := by
    rw [trim, trimEnd, ← List.reverse_append, List.takeWhile_append_dropWhile, List.reverse_reverse]
  rw [List.append_assoc, back, trimStart, List.takeWhile_append_dropWhile]

/-- All of a white text is cut off its beginning. -/
theorem trimStart_of_blank (blank : ∀ c ∈ text, isBlank c = true) : trimStart text = [] := by
  -- All of it is a run of blanks before nothing.
  rw [← List.append_nil text, trimStart_blanks_append blank]
  rfl

/-- There is nothing left of white space. -/
theorem trim_eq_nil_iff : trim text = [] ↔ ∀ c ∈ text, isBlank c = true := by
  constructor
  · intro none
    obtain ⟨before, behind, whole, front, back⟩ := exists_append_trim text
    rw [whole, none]
    -- All of the text lies before or behind what is left.
    simpa [or_imp, forall_and] using ⟨front, back⟩
  · intro blank
    rw [trim, trimStart_of_blank blank]
    rfl

/-- White space around a text is cut off with what the text itself has at its ends. -/
theorem trim_blanks_append (front : ∀ c ∈ before, isBlank c = true)
    (back : ∀ c ∈ behind, isBlank c = true) : trim (before ++ text ++ behind) = trim text := by
  rw [List.append_assoc, trim, trimStart_blanks_append front, trim, trimStart, List.dropWhile_append]
  -- If the text is all white, so is what stands behind it.
  split
  · rename_i empty
    have blank : trimStart text = [] := List.isEmpty_iff.mp empty
    rw [blank]
    exact congrArg trimEnd (trimStart_of_blank back)
  · exact trimEnd_append_blanks back _

end Ends

end AdFilter.Text
