import AdFilter.Text.Letter

/-! Sets of characters as they are written in an expression, and which characters they hold. -/

namespace AdFilter

/-- A set of characters, built from ranges and named classes. -/
inductive CharSet
  | none
  | between (low high : Char)
  | digit
  | blank
  | word
  | inRanges (ranges : Text.Ranges)
  | union (left right : CharSet)
  | inter (left right : CharSet)
  | diff (left right : CharSet)
  | exclusive (left right : CharSet)
  | compl (set : CharSet)
  /-- The set together with all characters that differ from one of its own in case only. -/
  | folded (set : CharSet)
  deriving DecidableEq, Hashable

namespace CharSet

/-- Membership of a character. -/
def has : CharSet → Char → Bool
  | none, _ => false
  | between low high, c => decide (low ≤ c) && decide (c ≤ high)
  | digit, c => Text.isDigit c
  | blank, c => Text.isBlank c
  | word, c => Text.isWord c
  | inRanges ranges, c => ranges.has c.toNat
  | union a b, c => a.has c || b.has c
  | inter a b, c => a.has c && b.has c
  | diff a b, c => a.has c && !b.has c
  | exclusive a b, c => a.has c != b.has c
  | compl a, c => !a.has c
  -- The variants of a character include itself.
  | folded a, c => (Text.caseVariants c).any fun d => a.has d

/-- The set of one character. -/
def only (c : Char) : CharSet := between c c

/-- The union of any number of sets. -/
def unions : List CharSet → CharSet
  | [] => none
  | [set] => set
  | set :: rest => union set (unions rest)

/-- The union of ranges. -/
def ranges (pairs : List (Char × Char)) : CharSet :=
  unions (pairs.map fun (low, high) => between low high)

/-- All characters of ASCII. -/
def ascii : CharSet := between (Char.ofNat 0) (Char.ofNat 0x7F)

@[simp] theorem has_only (c d : Char) : (only c).has d = decide (c = d) := by
  simp only [only, has]
  by_cases same : c = d
  · subst same; simp
  · -- A character between `c` and `c` is `c` itself.
    have apart : ¬ (c ≤ d ∧ d ≤ c) := fun both => same (Char.le_antisymm both.1 both.2)
    simpa [same] using apart

end CharSet

end AdFilter
