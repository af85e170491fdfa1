import AdFilter.Proofs.Text.Case
import Mathlib

/-! Texts that differ only in the case of ASCII letters. -/

namespace AdFilter.Text

/-- What holds of the first 128 characters holds of every ASCII character. -/
theorem forall_ascii {P : Char → Prop} (all : ∀ n : Fin 128, P (Char.ofNat n)) {c : Char}
    (ascii : c.toNat < 128) : P c := by
  -- A character is known by its number.
  have here := all ⟨c.toNat, ascii⟩
  rwa [Char.ofNat_toNat] at here

/-- ASCII characters are variants of each other just if they have one small letter. -/
theorem mem_caseVariants_iff {c d : Char} (ascii : c.toNat < 128) (other : d.toNat < 128) :
    c ∈ caseVariants d ↔ d.toLower = c.toLower := by
  constructor
  · intro variant
    have small := (lowerChar_of_mem_caseVariants other variant (foldsIntoAscii_of_lt ascii)).1
    rw [lowerChar_of_lt ascii] at small
    exact (List.cons.inj small).1.symm
  · intro same
    -- The variants are those of the small letter, which both have.
    have variants : caseVariants d = caseVariants c := by
      simp only [caseVariants, foldCase, ascii, other, if_true, same]
    rw [variants]
    exact forall_ascii (P := fun c => c ∈ caseVariants c) (by decide) ascii

/-- No other character has the small letter of one that is not a letter. -/
theorem toLower_eq_iff {c d : Char} (caseless : c.isAlpha = false) : d.toLower = c ↔ d = c := by
  -- A character without case is its own lower case.
  have small {e : Char} (plain : e.isAlpha = false) : e.toLower = e := by
    refine Char.toLower_eq_of_not_isUpper fun upper => ?_
    simp [Char.isAlpha, upper] at plain
  constructor
  · rintro rfl
    rw [Char.isAlpha_toLower_eq_isAlpha] at caseless
    exact (small caseless).symm
  · rintro rfl
    exact small caseless

/-- The characters of a text in small letters are the small ones of its characters. -/
theorem toList_toLower (text : String) : text.toLower.toList = text.toList.map Char.toLower :=
  String.toList_map

/-- A text is put in small letters character by character. -/
theorem toLower_ofList (text : List Char) :
    (String.ofList text).toLower = String.ofList (text.map Char.toLower) := by
  rw [← String.toList_inj, toList_toLower, String.toList_ofList, String.toList_ofList]

/-- A test for a character that is not a letter does not depend on case. -/
theorem toLower_beq {c : Char} (caseless : c.isAlpha = false) (d : Char) :
    (d.toLower == c) = (d == c) := by
  rw [Bool.eq_iff_iff, beq_iff_eq, beq_iff_eq]
  -- Nothing else has this character as its small letter.
  exact toLower_eq_iff caseless

/-- No other text has the small letters of one without letters. -/
theorem map_toLower_eq_iff {letters text : List Char} (caseless : ∀ c ∈ letters, c.isAlpha = false) :
    text.map Char.toLower = letters ↔ text = letters := by
  induction letters generalizing text with
  | nil => simp
  | cons c letters ih =>
    simp only [List.forall_mem_cons] at caseless
    -- Both texts are gone through at once, so they have the same length.
    cases text with
    | nil => simp
    | cons d text => simp [toLower_eq_iff caseless.1, ih caseless.2]

/-- What is the same for each capital letter and its small one does not depend on case. -/
theorem eq_of_letters {A : Type} {f : Char → A}
    (letters : ∀ n : Fin 26, f (Char.ofNat (n + 97)) = f (Char.ofNat (n + 65))) (c : Char) :
    f c.toLower = f c := by
  by_cases upper : c.isUpper = true
  · -- A capital letter is one of 26, counted from the first.
    have range : 65 ≤ c.toNat ∧ c.toNat ≤ 90 := by
      simpa [Char.isUpper, UInt32.le_iff_toNat_le] using upper
    have here := letters ⟨c.toNat - 65, by omega⟩
    have small : c.toNat - 65 + 97 = c.toNat + 32 := by omega
    have capital : c.toNat - 65 + 65 = c.toNat := by omega
    rw [Char.toLower_eq_of_isUpper upper]
    simpa only [small, capital, Char.ofNat_toNat] using here
  · rw [Char.toLower_eq_of_not_isUpper upper]

/-- The variants of a character are those of its small letter. -/
theorem caseVariants_toLower (c : Char) : caseVariants c.toLower = caseVariants c :=
  -- Only the letters have to be looked at.
  eq_of_letters (by decide +kernel) c

/-- The rows of a table are read from its characters. -/
theorem readRows_ofList {table : String} {chars : List Char} (same : table = String.ofList chars) :
    readRows table = ((chars.splitOnP isBlank).filter fun word => !word.isEmpty).map fun word =>
      (word.splitOn '-').map readHex := by
  rw [same, readRows, String.toList_ofList]

set_option maxRecDepth 20000 in
/-- The ranges of characters that case ignores begin and end outside of the letters of ASCII. -/
theorem all_caseIgnorableRanges : caseIgnorableRanges.all (fun range =>
    range.2 < 65 || 122 < range.1 || 90 < range.1 && range.2 < 97) = true := by
  -- The table becomes a list of characters first, which is what can be computed with.
  unfold caseIgnorableRanges readRanges
  rw [readRows_ofList rfl]
  decide +kernel

set_option maxRecDepth 20000 in
/-- The letters of ASCII make up two ranges of those that have case. -/
theorem contains_casedRanges :
    casedRanges.contains (65, 90) = true ∧ casedRanges.contains (97, 122) = true := by
  unfold casedRanges readRanges
  -- The rows are read from a text, so they are computed once, here.
  rw [readRows_ofList rfl]
  decide +kernel

/-- Case ignores none of the letters of ASCII. -/
theorem not_caseIgnorable {n : Nat} (letter : 65 ≤ n ∧ n ≤ 90 ∨ 97 ≤ n ∧ n ≤ 122) :
    caseIgnorableRanges.has n = false := by
  simp only [Ranges.has, List.any_eq_false]
  intro range member
  -- Every range lies outside of the letters, which was computed once.
  have apart := List.all_eq_true.mp all_caseIgnorableRanges range member
  simp only [Bool.or_eq_true, Bool.and_eq_true, decide_eq_true_eq] at apart ⊢
  omega

/-- All letters of ASCII have case. -/
theorem cased_of_letter {n : Nat} (letter : 65 ≤ n ∧ n ≤ 90 ∨ 97 ≤ n ∧ n ≤ 122) :
    casedRanges.has n = true := by
  simp only [Ranges.has, List.any_eq_true]
  -- Capital letters are one of the ranges, and small letters another.
  rcases letter with letter | letter
  · exact ⟨_, List.contains_iff_mem.mp contains_casedRanges.1, by simpa using letter⟩
  · exact ⟨_, List.contains_iff_mem.mp contains_casedRanges.2, by simpa using letter⟩

/-- Whether a text begins with a letter that has case does not depend on its case. -/
theorem startsCased_map_toLower (text : List Char) :
    startsCased (text.map Char.toLower) = startsCased text := by
  -- Both tables treat a capital letter as they treat its small one.
  have code (n : Fin 26) :
      (Char.ofNat (n + 97)).toNat = n + 97 ∧ (Char.ofNat (n + 65)).toNat = n + 65 := by
    revert n
    decide
  have ignorable (c : Char) :
      caseIgnorableRanges.has c.toLower.toNat = caseIgnorableRanges.has c.toNat := by
    refine eq_of_letters (f := fun c => caseIgnorableRanges.has c.toNat) (fun n => ?_) c
    rw [(code n).1, (code n).2, not_caseIgnorable (by omega), not_caseIgnorable (by omega)]
  have cased (c : Char) : casedRanges.has c.toLower.toNat = casedRanges.has c.toNat := by
    refine eq_of_letters (f := fun c => casedRanges.has c.toNat) (fun n => ?_) c
    rw [(code n).1, (code n).2, cased_of_letter (by omega), cased_of_letter (by omega)]
  -- What the tables hold is of no further interest.
  unfold startsCased
  generalize caseIgnorableRanges = ignored at ignorable ⊢
  generalize casedRanges = letters at cased ⊢
  induction text with
  | nil => rfl
  | cons c text ih =>
    by_cases skipped : ignored.has c.toNat = true
    · simp [ignorable, skipped, ih]
    · simp [ignorable, skipped, cased]

/-- The lower case of a text does not depend on the case of its ASCII letters. -/
theorem lower_map_toLower (text : List Char) : lower (text.map Char.toLower) = lower text := by
  have single (c : Char) : lowerChar c.toLower = lowerChar c := eq_of_letters (by decide +kernel) c
  have sigma (c : Char) : (c.toLower.toNat = 0x3A3) = (c.toNat = 0x3A3) :=
    eq_of_letters (f := fun c => c.toNat = 0x3A3) (by decide +kernel) c
  -- What a sigma becomes depends on the letters before it, so these are carried along.
  have after (before : List Char) :
      lowerAfter (before.map Char.toLower) (text.map Char.toLower) = lowerAfter before text := by
    induction text generalizing before with
    | nil => rfl
    | cons c text ih =>
      have rest := ih (c :: before)
      rw [List.map_cons] at rest
      simp only [List.map_cons, lowerAfter, rest, single, sigma, startsCased_map_toLower]
  exact after []

end AdFilter.Text
