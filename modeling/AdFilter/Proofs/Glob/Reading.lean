import AdFilter.Proofs.Glob
import AdFilter.Proofs.Network.Pattern

/-!
Which texts a glob stands for, read directly from left to right, and that it accepts just these, the empty
text left out.
-/

namespace AdFilter

namespace Glob

open Regex

/-- One character of a glob stands for a word. -/
inductive CharReads : Char → List Char → Prop
  | star {word} : CharReads '*' word
  | any {d} (inLine : d ≠ '\n') : CharReads '?' [d]
  | letter {c d} (noStar : c ≠ '*') (noMark : c ≠ '?') (same : d.toLower = c.toLower) : CharReads c [d]

/-- A glob stands for a whole text, which is made up of the words of its characters. -/
inductive Reads : List Char → List Char → Prop
  | nil : Reads [] []
  | cons {c glob word text} (first : CharReads c word) (rest : Reads glob text) :
      Reads (c :: glob) (word ++ text)

/-- A set of all characters but one has the others. -/
theorem has_compl_only {c d : Char} : (CharSet.compl (.only c)).has d = true ↔ d ≠ c := by
  rw [CharSet.has, CharSet.has_only, Bool.not_eq_true', decide_eq_false_iff_not, ne_comm]

section Expression

variable {before after : Option Char} {glob word text : List Char}

/-- The expression of a character matches the words that the character stands for. -/
theorem matches_charExpr_iff {c : Char} (ascii : c.toNat < 128) (other : ∀ d ∈ word, d.toNat < 128) :
    Matches (charExpr c) before word after ↔ CharReads c word := by
  unfold charExpr
  -- A star, a question mark and any other character have expressions of their own.
  split
  · rename_i star
    subst star
    exact ⟨fun _ => .star, fun _ => matches_starExpr⟩
  · rename_i noStar
    split
    · rename_i mark
      subst mark
      rw [matches_chars_iff]
      constructor
      · rintro ⟨d, rfl, member⟩
        exact .any (has_compl_only.mp member)
      -- Of the ways to read a question mark only one is left, as it is no star and no letter.
      · rintro (_ | ⟨inLine⟩ | ⟨_, noMark, _⟩)
        · exact ⟨_, rfl, has_compl_only.mpr inLine⟩
        · exact absurd rfl noMark
    · rename_i noMark
      rw [letterExpr, matches_chars_iff]
      constructor
      · rintro ⟨d, rfl, member⟩
        exact .letter noStar noMark ((Network.has_letter_iff ascii (other d (by simp))).mp member)
      · rintro (_ | _ | ⟨_, _, same⟩)
        · exact absurd rfl noStar
        · exact absurd rfl noMark
        · exact ⟨_, rfl, (Network.has_letter_iff ascii (other _ (by simp))).mpr same⟩

end Expression

end Glob

end AdFilter
