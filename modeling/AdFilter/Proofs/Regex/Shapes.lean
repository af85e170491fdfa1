import AdFilter.Proofs.Regex.Letters
import AdFilter.Proofs.Regex.Parser

/-! What expressions of the simplest shapes match: choices, runs, and rows at the start of a text. -/

namespace AdFilter.Regex

variable {before after : Option Char} {word text : List Char}

/-- A choice matches what any one of its expressions does. -/
theorem matches_alts_iff {choices : List Regex} : Matches (alts choices) before word after ↔
    ∃ r ∈ choices, Matches r before word after := by
  -- The choice among none is a set without characters.
  induction choices with
  | nil => simp [alts, CharSet.has]
  | cons r choices ih =>
    cases choices with
    | nil => simp [alts]
    | cons s choices => simp only [alts, matches_alt_iff, ih, List.mem_cons, exists_eq_or_imp]

/-- What may be left out matches the empty word, too. -/
theorem matches_optional_iff {r : Regex} : Matches (.times r 0 (some 1)) before word after ↔
    word = [] ∨ Matches r before word after := by
  rw [matches_times_iff]
  constructor
  · rintro ⟨count, _, high, repeats⟩
    have once := high 1 rfl
    cases repeats with
    | none => exact .inl rfl
    | more first rest =>
      -- There is room for one match only.
      obtain rfl := Nat.le_zero.mp (Nat.le_of_succ_le_succ once)
      cases rest
      rw [List.append_nil]
      exact .inr first
  · rintro (rfl | here)
    · exact ⟨0, Nat.le_refl 0, by simp, .none⟩
    · exact ⟨1, Nat.zero_le 1, by simp, by simpa using Repeats.more (v := []) here .none⟩

/-- A set that is repeated matches the words of its characters that are long enough. -/
theorem matches_run_iff {set : CharSet} {least : Nat} :
    Matches (.times (.chars set) least none) before word after ↔
      least ≤ word.length ∧ ∀ c ∈ word, set.has c = true := by
  have repeats_iff {count : Nat} : Repeats (.chars set) count before word after ↔
      count = word.length ∧ ∀ c ∈ word, set.has c = true := by
    constructor
    · intro repeats
      -- Each match takes one character.
      induction repeats with
      | none => simp
      | more first _ ih =>
        obtain ⟨c, rfl, member⟩ := matches_chars_iff.mp first
        simpa [ih.1, member] using ih.2
    · rintro ⟨rfl, all⟩
      induction word generalizing before with
      | nil => exact .none
      | cons c word ih =>
        simp only [List.forall_mem_cons] at all
        exact .more (u := [c]) (matches_chars_iff.mpr ⟨c, rfl, all.1⟩) (ih all.2)
  simp [matches_times_iff, repeats_iff]

/-- A row begins a text if its first part does and the rest goes on behind it. -/
theorem begins_append_iff {exprs others : List Regex} : Begins (cats (exprs ++ others)) before text ↔
    ∃ word left, text = word ++ left ∧ Matches (cats exprs) before word left.head? ∧
      Begins (cats others) (lastOr before word) left := by
  constructor
  -- What the first expressions have matched is where the others begin.
  · rintro ⟨word, rest, rfl, here⟩
    obtain ⟨u, v, rfl, first, second⟩ := matches_cats_append_iff.mp here
    rw [firstOr_head?] at first
    exact ⟨u, v ++ rest, by simp, first, v, rest, rfl, second⟩
  · rintro ⟨u, _, rfl, first, v, rest, rfl, second⟩
    rw [← firstOr_head?] at first
    exact ⟨u ++ v, rest, by simp, matches_cats_append_iff.mpr ⟨u, v, rfl, first, second⟩⟩

/-- An expression occurs in a text just if it begins some rest of it. -/
theorem occurs_iff_begins {r : Regex} :
    Occurs r text ↔ ∃ passed left, text = passed ++ left ∧ Begins r passed.getLast? left := by
  -- The word and what follows it are what is left to be read.
  constructor
  · rintro ⟨passed, word, rest, rfl, here⟩
    exact ⟨passed, word ++ rest, by simp, word, rest, rfl, here⟩
  · rintro ⟨passed, _, rfl, word, rest, rfl, here⟩
    exact ⟨passed, word, rest, by simp, here⟩

end AdFilter.Regex
