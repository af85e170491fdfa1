import AdFilter.Proofs.Text.AsciiCase
import Mathlib

/-! The lower case of a text as a row of the lower cases of its characters. -/

namespace AdFilter.Text

/-- Every character has a lower case. -/
theorem lowerChar_ne_nil (c : Char) : lowerChar c ≠ [] := by
  unfold lowerChar
  split
  · simp
  · split <;> simp

/-- The lower case of a text is empty for the empty text alone. -/
theorem lower_ne_nil {text : List Char} (filled : text ≠ []) : lower text ≠ [] := by
  -- The first character has a lower case that is not empty, and nothing takes it away.
  cases text with
  | nil => exact absurd rfl filled
  | cons c rest =>
    simp only [lower, lowerAfter, ne_eq, List.append_eq_nil_iff, not_and]
    split
    · simp
    · -- Any other character brings its own lower case, which is not empty.
      exact fun none => absurd none (lowerChar_ne_nil c)

/-- The lower case of a text ends as that of what stands at its end, in its place. -/
theorem lowerAfter_append_suffix (before front back : List Char) :
    lowerAfter (front.reverse ++ before) back <:+ lowerAfter before (front ++ back) := by
  induction front generalizing before with
  | nil => exact List.suffix_rfl
  | cons c front ih =>
    -- The first character comes before the rest, and only adds to the front of the whole.
    have rest := ih (c :: before)
    rw [List.append_cons, ← List.reverse_cons] at rest
    rw [List.cons_append, lowerAfter]
    exact rest.trans (List.suffix_append _ _)

/-- Without a capital sigma at its beginning, a text has a lower case that begins character by character. -/
theorem flatMap_lowerChar_prefix {part : List Char} (plain : ∀ c ∈ part, c.toNat ≠ 0x3A3)
    (before back : List Char) : part.flatMap lowerChar <+: lowerAfter before (part ++ back) := by
  induction part generalizing before with
  | nil => exact List.nil_prefix
  | cons c part ih =>
    rw [List.forall_mem_cons] at plain
    -- Only the capital sigma looks at its neighbours.
    rw [List.cons_append, lowerAfter, if_neg plain.1, List.flatMap_cons]
    exact (List.prefix_append_right_inj _).mpr (ih plain.2 _)

/-- The lower case of a part without a capital sigma stands in that of the whole text. -/
theorem flatMap_lowerChar_infix {part text : List Char} (plain : ∀ c ∈ part, c.toNat ≠ 0x3A3)
    (inside : part <:+: text) : part.flatMap lowerChar <:+: lower text := by
  obtain ⟨front, back, rfl⟩ := inside
  rw [List.append_assoc]
  -- What stands in front is lower-cased first, and the part begins what follows.
  have ends := lowerAfter_append_suffix [] front (part ++ back)
  have begins := flatMap_lowerChar_prefix plain (front.reverse ++ []) back
  exact begins.isInfix.trans ends.isInfix

/--
Characters of the two texts that differ in case only have one lower case.

A capital sigma is left out, since its lower case depends on what stands around it.
-/
def LowerAgrees (letters text : List Char) : Prop :=
  ∀ c ∈ letters, ∀ d ∈ text, c ∈ caseVariants d →
    lowerChar c = lowerChar d ∧ c.toNat ≠ 0x3A3 ∧ d.toNat ≠ 0x3A3

/-- The lower case of letters stands in that of a text in which they stand in some case. -/
theorem lower_infix {letters word text : List Char} (agrees : LowerAgrees letters text)
    (same : List.Forall₂ (fun c d => c ∈ caseVariants d) letters word) (inside : word <:+: text) :
    lower letters <:+: lower text := by
  have small : letters.flatMap lowerChar = word.flatMap lowerChar ∧
      (∀ c ∈ letters, c.toNat ≠ 0x3A3) ∧ ∀ d ∈ word, d.toNat ≠ 0x3A3 := by
    have within := inside.subset
    clear inside
    -- The induction is on the letters, with the one character that each of them stands for.
    induction same with
    | nil => simp
    | @cons c d letters word variant _ ih =>
      obtain ⟨lower, plain, clear⟩ := agrees c (by simp) d (within (by simp)) variant
      obtain ⟨rest, plains, clears⟩ := ih (fun c member => agrees c (List.mem_cons_of_mem _ member))
        fun d member => within (List.mem_cons_of_mem _ member)
      refine ⟨?_, List.forall_mem_cons.mpr ⟨plain, plains⟩, List.forall_mem_cons.mpr ⟨clear, clears⟩⟩
      rw [List.flatMap_cons, List.flatMap_cons, lower, rest]
  rw [lower_eq_flatMap small.2.1, small.1]
  exact flatMap_lowerChar_infix small.2.2 inside

/-- In an ASCII text all characters agree with their variants but for two. -/
theorem lowerAgrees_of_ascii {letters text : List Char} (ascii : ∀ d ∈ text, d.toNat < 128)
    (regular : ∀ c ∈ letters, foldsIntoAscii c = false) : LowerAgrees letters text := by
  intro c member d inside variant
  have low := ascii d inside
  -- A variant of an ASCII letter has the same small letter, the two exceptions apart.
  obtain ⟨lower, plain⟩ := lowerChar_of_mem_caseVariants low variant (regular c member)
  exact ⟨lower.trans (lowerChar_of_lt low).symm, plain, by omega⟩

set_option maxRecDepth 20000 in
/-- The Kelvin sign folds to the letter that is its lower case. -/
theorem lowerChar_kelvin : lowerChar '\u212a' = ['k'] ∧ foldCase '\u212a' = 'k' := by
  unfold foldCase lowerChar lowerRuns foldRuns readRuns
  -- The tables are read from texts, so the rows are computed here.
  rw [readRows_ofList rfl, readRows_ofList rfl]
  decide +kernel

set_option maxRecDepth 20000 in
/-- The long s folds to an s, and is its own lower case. -/
theorem lowerChar_longS : lowerChar '\u017f' = ['\u017f'] ∧ foldCase '\u017f' = 's' := by
  unfold foldCase lowerChar lowerRuns foldRuns readRuns
  -- The tables are read from texts, so the rows are computed here.
  rw [readRows_ofList rfl, readRows_ofList rfl]
  decide +kernel

/-- All code points of a closed range lie between two neighbours among those of white space. -/
def clearOfBlanks (low high : Nat) : Bool :=
  decide (0x20 < low ∧ high < 0x85) || decide (0xA0 < low ∧ high < 0x1680) ||
    decide (0x1680 < low ∧ high < 0x2000) || decide (0x205F < low ∧ high < 0x3000) ||
    decide (0x3000 < low)

/-- What lies in such a range is not blank. -/
theorem isBlank_of_clearOfBlanks {low high n : Nat} (clear : clearOfBlanks low high = true)
    (above : low ≤ n) (below : n ≤ high) : isBlank (Char.ofNat n) = false := by
  simp only [clearOfBlanks, Bool.or_eq_true, decide_eq_true_eq] at clear
  by_cases valid : n.isValidChar
  · have code : (Char.ofNat n).toNat = n := by
      rw [Char.ofNat, dif_pos valid]
      simp [Char.ofNatAux, Char.toNat]
    simp only [isBlank, code, Bool.or_eq_false_iff, Bool.and_eq_false_iff, decide_eq_false_iff_not,
      beq_eq_false_iff_ne]
    omega
  · -- What is no code point stands for the character zero.
    rw [Char.ofNat, dif_neg valid]
    decide

set_option maxRecDepth 20000 in
/-- White space is no lower case of anything in the table. -/
theorem all_lowerRuns : lowerRuns.all (fun run =>
    clearOfBlanks run.image (run.image + (run.high - run.low))) = true := by
  -- The table becomes a list of characters first, which is what can be computed with.
  unfold lowerRuns readRuns
  rw [readRows_ofList rfl]
  decide +kernel

/-- What is not blank has no blank lower case. -/
theorem isBlank_of_mem_lowerChar {c d : Char} (filled : isBlank c = false) (member : d ∈ lowerChar c) :
    isBlank d = false := by
  unfold lowerChar at member
  split at member
  · -- Small letters of ASCII are never white space.
    rename_i ascii
    obtain rfl := List.mem_singleton.mp member
    revert filled
    exact forall_ascii (P := fun c => isBlank c = false → isBlank c.toLower = false) (by decide) ascii
  · split at member
    · simp only [List.mem_cons, List.not_mem_nil, or_false] at member
      rcases member with rfl | rfl <;> decide
    · rw [List.mem_singleton.mp member]
      cases found : lowerRuns.findSome? (·.image? c.toNat) with
      | none => simpa using filled
      | some image =>
        rw [Option.map_some, Option.getD_some]
        -- The image lies in the range of the images of its run.
        obtain ⟨run, listed, here⟩ := List.exists_of_findSome?_eq_some found
        have clear := List.all_eq_true.mp all_lowerRuns run listed
        unfold CaseRun.image? at here
        split at here
        · rename_i covered
          cases here
          exact isBlank_of_clearOfBlanks clear (by omega) (by omega)
        · cases here

/-- A text without white space has none in lower case. -/
theorem isBlank_of_mem_lower {text : List Char} (filled : ∀ c ∈ text, isBlank c = false) :
    ∀ d ∈ lower text, isBlank d = false := by
  -- The induction is on the text, with the part in front of it for the sake of a sigma.
  have after (before : List Char) : ∀ d ∈ lowerAfter before text, isBlank d = false := by
    induction text generalizing before with
    | nil => simp [lowerAfter]
    | cons c text ih =>
      rw [List.forall_mem_cons] at filled
      intro d member
      rw [lowerAfter, List.mem_append] at member
      rcases member with here | later
      · split at here
        · -- Both forms of a small sigma are letters.
          obtain rfl := List.mem_singleton.mp here
          split <;> decide
        · exact isBlank_of_mem_lowerChar filled.1 here
      · exact ih filled.2 _ d later
  exact after []

end AdFilter.Text
