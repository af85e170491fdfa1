import AdFilter.Glob
import AdFilter.Proofs.Attempt
import AdFilter.Proofs.Network.PatternSource
import AdFilter.Proofs.Regex.Shapes
import AdFilter.Proofs.Text.Lower
import AdFilter.Proofs.Text.Search
import Mathlib

/-! The expression of a glob, and when a text that it matches has the literal part that is looked for first. -/

namespace AdFilter

namespace Glob

open Regex

section Expression

variable {rest : List Char}

/-- A star in a glob: anything, line feeds included. -/
def starExpr : Regex := .times (.chars (folding.fold (.union .blank (.compl .blank)))) 0 none

/-- One character of a glob. -/
def charExpr (c : Char) : Regex :=
  if c = '*' then starExpr else if c = '?' then .chars (.compl (.only '\n')) else letterExpr folding c

/-- The expression of a glob, which is for whole texts. -/
def globExpr (glob : List Char) : Regex :=
  cats ([.look .textStart] ++ glob.map charExpr ++ [.look .textEnd])

/-- A star in a glob adds its expression. -/
theorem adds_star (eager : rest.head? ≠ some '?') :
    Adds folding "[\\s\\S]*".toList [starExpr] rest := by
  refine .single ⟨starExpr, 3, true⟩ (by simp) 2 (by decide) ?_
  intro fuel branches parts outer names
  -- A question mark behind the star of the source would belong to it.
  conv_rhs => rw [← dropLazy_of_head? eager]
  rfl

/-- A character of a glob adds its expression. -/
theorem adds_charSource (c : Char) (eager : rest.head? ≠ some '?') :
    Adds folding (charSource c) [charExpr c] rest := by
  unfold charSource charExpr
  -- A star, a question mark and any other character are written in three ways.
  split
  · exact adds_star eager
  · split
    · exact .single ⟨.chars (.compl (.only '\n')), 0, true⟩ (Nat.zero_le 6) 1 (by simp)
        fun _ _ _ _ _ => rfl
    · exact adds_quoteChar c

/-- A star in a glob matches every word. -/
theorem matches_starExpr {before after : Option Char} {word : List Char} :
    Matches starExpr before word after := by
  rw [starExpr, matches_run_iff]
  refine ⟨Nat.zero_le _, fun c _ => ?_⟩
  -- What a character folds to is blank or not.
  simp [folding, Flags.fold, CharSet.has, Text.caseVariants]

/-- No source of a character begins with a question mark. -/
theorem head?_charSource (c : Char) : (charSource c ++ rest).head? ≠ some '?' := by
  unfold charSource
  -- Neither a point nor a backslash is a question mark, and the character itself is not one either.
  split
  · simp
  · split
    · simp
    · rename_i other
      unfold quoteChar
      split <;> simp [other]

/-- The source of every glob stands for its expression. -/
theorem parse?_sourceOf (glob : List Char) :
    parse? true (sourceOf glob) = some (globExpr glob) := by
  have last : (['$'] ++ []).head? ≠ some '?' := by decide
  -- The sources of the characters stand between those of the two ends.
  have body := (Adds.flatMap (fun c _ => adds_charSource c) (fun c _ _ => head?_charSource c) glob
    last).2
  exact ((adds_textStart.append body).append adds_textEnd).parse?

/-- What a glob is compiled to. -/
theorem compile_eq_ok {pattern : String} {glob : Glob} (compiled : compile pattern = .ok glob) :
    glob.regex = globExpr pattern.toList ∧ glob.regex.Bounded ∧
      glob.shortcut = String.ofList (shortcutOf pattern.toList) := by
  obtain ⟨regex, made, rest⟩ := exists_of_bind_eq_ok compiled
  cases rest
  -- The expression is the only one that the source of the pattern is read as.
  refine ⟨?_, bounded_compile made, rfl⟩
  simp only [Regex.compile, parse?_sourceOf] at made
  split at made <;> cases made
  rfl

end Expression

/-- The longest part of a glob that stands for itself. -/
def literalOf (glob : List Char) : List Char := Text.longestPart (fun c => c == '*' || c == '?') glob

/-- A text that a glob matches has the literal part of the glob in it, in some case. -/
theorem exists_of_search {glob text : List Char} (bounded : (globExpr glob).Bounded)
    (found : (globExpr glob).search text = true) :
    ∃ word, word <:+: text ∧ List.Forall₂ (fun c d => c ∈ Text.caseVariants d) (literalOf glob) word := by
  obtain ⟨⟨front, back, whole⟩, plain⟩ := Text.longestPart_spec (fun c => c == '*' || c == '?') glob
  change front ++ literalOf glob ++ back = glob at whole
  -- No character of the part is a wildcard, so each of them is read as a letter.
  have letters : (literalOf glob).map charExpr = (literalOf glob).map (letterExpr folding) := by
    refine List.map_congr_left fun c member => ?_
    have plain := plain c member
    simp only [Bool.or_eq_false_iff, beq_eq_false_iff_ne] at plain
    rw [charExpr, if_neg plain.1, if_neg plain.2]
  have row : globExpr glob = cats (([.look .textStart] ++ front.map charExpr) ++
      ((literalOf glob).map (letterExpr folding) ++ (back.map charExpr ++ [.look .textEnd]))) := by
    rw [globExpr, ← letters]
    conv_lhs => rw [← whole]
    simp
  obtain ⟨before, word, after, rfl, here⟩ := (search_iff_occurs bounded text).mp found
  rw [row] at here
  -- The word is cut in three, and the part has the middle.
  obtain ⟨first, rest, rfl, _, here⟩ := matches_cats_append_iff.mp here
  obtain ⟨spelled, last, rfl, here, _⟩ := matches_cats_append_iff.mp here
  refine ⟨spelled, ⟨before ++ first, last ++ after, by simp⟩, ?_⟩
  have same := matches_letterExprs_iff.mp here
  simpa [folding, Flags.fold, CharSet.has] using same

/--
A glob accepts a text just if its expression matches the text.

The literal part is looked for in the lower case of the text, while the expression compares what characters
fold to. So the two must agree on the characters of both, and a capital sigma is among none of them.
-/
theorem accepts_eq_search {pattern text : String} {glob : Glob} (compiled : compile pattern = .ok glob)
    (filled : text ≠ "") (agrees : Text.LowerAgrees (literalOf pattern.toList) text.toList) :
    (glob.regex.search text.toList = true →
      Text.contains (Text.lower text.toList) glob.shortcut.toList = true) ∧
    glob.accepts text = glob.regex.search text.toList := by
  obtain ⟨expression, bounded, short⟩ := compile_eq_ok compiled
  have contains (found : glob.regex.search text.toList = true) :
      Text.contains (Text.lower text.toList) glob.shortcut.toList = true := by
    rw [expression] at bounded found
    obtain ⟨word, inside, same⟩ := exists_of_search bounded found
    rw [short, String.toList_ofList, Text.contains_iff]
    exact Text.lower_infix agrees same inside
  refine ⟨contains, ?_⟩
  have some : text.isEmpty = false := by simpa using filled
  rw [accepts, some, Bool.not_false, Bool.true_and]
  -- Where the search fails nothing else matters, and where it succeeds the part is there.
  cases found : glob.regex.search text.toList with
  | false => exact Bool.and_false _
  | true => rw [contains found, Bool.true_and]

/-- A Kelvin sign stands for a letter of the glob, whose lower case it has. -/
theorem accepts_eq_search_kelvin :
    ∃ glob, compile "*k?" = .ok glob ∧ "3\u212a!" ≠ "" ∧
      Text.LowerAgrees (literalOf "*k?".toList) "3\u212a!".toList ∧
      glob.regex.search "3\u212a!".toList = true ∧ glob.accepts "3\u212a!" = true := by
  have made : ((compile "*k?").toOption.any fun _ => true) = true := by decide +kernel
  obtain ⟨glob, compiled, _⟩ := exists_of_any_toOption made
  obtain ⟨small, folded⟩ := Text.lowerChar_kelvin
  have text : "3\u212a!".toList = ['3', '\u212a', '!'] := by simp
  have agrees : Text.LowerAgrees (literalOf "*k?".toList) "3\u212a!".toList := by
    have letters : literalOf "*k?".toList = ['k'] := by decide +kernel
    rw [letters, text]
    intro c member d inside variant
    obtain rfl := List.mem_singleton.mp member
    simp only [List.mem_cons, List.not_mem_nil, or_false] at inside
    -- The other two characters are no variants of the letter.
    rcases inside with rfl | rfl | rfl
    · exact absurd variant (by decide)
    · exact ⟨by rw [small]; decide, by decide, by decide⟩
    · exact absurd variant (by decide)
  have found : glob.regex.search "3\u212a!".toList = true := by
    obtain ⟨expression, bounded, _⟩ := compile_eq_ok compiled
    have letter : (folding.fold (.only 'k')).has '\u212a' = true := by
      simp [folding, Flags.fold, CharSet.has, Text.caseVariants, folded]
    refine (search_iff_occurs bounded _).mpr ⟨[], "3\u212a!".toList, [], by simp, ?_⟩
    rw [expression, text]
    exact .cat (.look rfl) (.cat (u := ['3']) matches_starExpr
      (.cat (u := ['\u212a']) (.chars letter) (.cat (u := ['!']) (.chars (by decide)) (.look rfl))))
  have same := (accepts_eq_search compiled (by decide) agrees).2
  exact ⟨glob, compiled, by decide, agrees, found, same.trans found⟩

/-- A long s is matched for an s, which is then not found in its lower case. -/
theorem accepts_ne_search_longS :
    ∃ glob, compile "s" = .ok glob ∧ "\u017f" ≠ "" ∧ glob.regex.search "\u017f".toList = true ∧
      Text.contains (Text.lower "\u017f".toList) glob.shortcut.toList = false ∧
      glob.accepts "\u017f" = false := by
  have made : ((compile "s").toOption.any (·.shortcut == "s")) = true := by decide +kernel
  obtain ⟨glob, compiled, short⟩ := exists_of_any_toOption made
  obtain ⟨small, folded⟩ := Text.lowerChar_longS
  have text : "\u017f".toList = ['\u017f'] := by simp
  have found : glob.regex.search "\u017f".toList = true := by
    obtain ⟨expression, bounded, _⟩ := compile_eq_ok compiled
    have letter : (folding.fold (.only 's')).has '\u017f' = true := by
      simp [folding, Flags.fold, CharSet.has, Text.caseVariants, folded]
    refine (search_iff_occurs bounded _).mpr ⟨[], "\u017f".toList, [], by simp, ?_⟩
    rw [expression, text]
    exact .cat (.look rfl) (.cat (u := ['\u017f']) (.chars letter) (.look rfl))
  -- The long s is a small letter of its own, so the shortcut is not found.
  have missing : Text.contains (Text.lower "\u017f".toList) glob.shortcut.toList = false := by
    have lower : Text.lower ['\u017f'] = ['\u017f'] := by
      rw [Text.lower_eq_flatMap (by simp), List.flatMap_singleton, small]
    rw [text, lower, beq_iff_eq.mp short]
    decide
  refine ⟨glob, compiled, by decide, found, missing, ?_⟩
  rw [accepts, missing, Bool.and_false, Bool.false_and]

end Glob

end AdFilter
