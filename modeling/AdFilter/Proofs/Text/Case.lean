import AdFilter.Text.Letter
import Mathlib.Data.List.Basic

/-! The lower case of ASCII texts, and of the characters that stand for ASCII ones. -/

namespace AdFilter.Text

/-- The Kelvin sign and the long s fold into ASCII without being part of it. -/
def foldsIntoAscii (c : Char) : Bool := c == Char.ofNat 0x212A || c == Char.ofNat 0x17F

/-- These two characters are no ASCII characters themselves. -/
theorem foldsIntoAscii_of_lt {c : Char} (ascii : c.toNat < 128) : foldsIntoAscii c = false := by
  simp only [foldsIntoAscii, Bool.or_eq_false_iff, beq_eq_false_iff_ne]
  -- Both characters that fold into ASCII lie outside of it.
  constructor <;>
  · rintro rfl
    exact absurd ascii (by decide)

/-- An ASCII character has its small letter as lower case. -/
theorem lowerChar_of_lt {c : Char} (ascii : c.toNat < 128) : lowerChar c = [c.toLower] := by
  simp [lowerChar, ascii]

/-- But for two, the variants of an ASCII character have the same lower case as itself. -/
theorem lowerChar_of_mem_caseVariants {c d : Char} (ascii : d.toNat < 128)
    (variant : c ∈ caseVariants d) (regular : foldsIntoAscii c = false) :
    lowerChar c = [d.toLower] ∧ c.toNat ≠ 0x3A3 := by
  -- The variants are the small letter, the capital one, and for two letters one more.
  have stays (n : Fin 128) : (Char.ofNat n).toLower.toNat < 128 ∧
      (Char.ofNat n).toLower.toUpper.toNat < 128 ∧
      (Char.ofNat n).toLower.toLower = (Char.ofNat n).toLower ∧
      (Char.ofNat n).toLower.toUpper.toLower = (Char.ofNat n).toLower := by
    revert n
    decide
  obtain ⟨lower, upper, small, smallAgain⟩ := stays ⟨d.toNat, ascii⟩
  simp only [Char.ofNat_toNat] at lower upper small smallAgain
  -- The small letter comes first among the variants.
  have folded : foldCase d = d.toLower := by simp [foldCase, ascii]
  simp only [caseVariants, folded, foldSources, if_pos lower, List.mem_cons] at variant
  rcases variant with rfl | variant
  · exact ⟨by rw [lowerChar_of_lt lower, small], by omega⟩
  · split at variant
    · rcases List.mem_cons.mp variant with rfl | variant
      · exact ⟨by rw [lowerChar_of_lt upper, smallAgain], by omega⟩
      · -- What is left are the two exceptions.
        split at variant
        · obtain rfl := List.mem_singleton.mp variant
          cases regular
        · split at variant
          · obtain rfl := List.mem_singleton.mp variant
            cases regular
          · cases variant
    · cases variant

/-- The lower case of a text without a capital sigma, character by character, whatever stands around them. -/
theorem lower_eq_flatMap {text : List Char} (plain : ∀ c ∈ text, c.toNat ≠ 0x3A3) :
    lower text = text.flatMap lowerChar := by
  -- What stands before a character matters to a capital sigma alone.
  have after (before : List Char) : lowerAfter before text = text.flatMap lowerChar := by
    induction text generalizing before with
    | nil => rfl
    | cons c text ih =>
      rw [List.forall_mem_cons] at plain
      rw [lowerAfter, if_neg plain.1, ih plain.2, List.flatMap_cons]
  exact after []

/-- The lower case of an ASCII text is made of its small letters. -/
theorem lower_of_ascii {text : List Char} (ascii : ∀ c ∈ text, c.toNat < 128) :
    lower text = text.map Char.toLower := by
  -- An ASCII character has the code of no sigma.
  have plain : ∀ c ∈ text, c.toNat ≠ 0x3A3 := by
    intro c member
    have low := ascii c member
    omega
  calc lower text = text.flatMap lowerChar := lower_eq_flatMap plain
    _ = text.flatMap fun c => [c.toLower] :=
      List.flatMap_congr fun c member => lowerChar_of_lt (ascii c member)
    _ = text.map Char.toLower := List.flatMap_pure_eq_map _ text

end AdFilter.Text
