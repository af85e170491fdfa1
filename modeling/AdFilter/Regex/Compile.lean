import AdFilter.Regex.Basic
import AdFilter.Regex.Parser
import AdFilter.Regex.Search

/-! Expressions that are read from their source, with a bound on the bytes of the automaton that runs them. -/

namespace AdFilter

/-- The bytes that a set adds to the states which it leads from and to. -/
def CharSet.weight : CharSet → Nat
  | none => 0
  -- A character of ASCII is one byte, and others are split up by the length of their encoding.
  | between low high => if high.toNat < 128 then 8 else 8 + 40 * (low.utf8Size + high.utf8Size - 2)
  | digit => 1344
  | blank => 360
  | word => 19904
  | inRanges ranges => 30 * ranges.length
  | union a b | inter a b | diff a b | exclusive a b => a.weight + b.weight
  | compl a => 352 + a.weight
  | folded a => 8 + a.weight

/-- The one character of a set, if the set is written as one that has no other case. -/
def CharSet.single? : CharSet → Option Char
  | between low high => if low = high then some low else Option.none
  | folded (between low high) =>
    if low = high ∧ (Text.caseVariants low).length = 1 then some low else Option.none
  | _ => Option.none

namespace Regex

/-- The bytes of the whole automaton; every repetition that is counted takes a copy. -/
def weight : Regex → Nat
  | .empty | .look _ => 32
  | .chars set =>
    match set.single? with
    | some c => 32 * c.utf8Size
    | none => 64 + set.weight
  | .cat r s => r.weight + s.weight
  | .alt r s => r.weight + s.weight + 40
  -- A repetition that is owed at least once is copied as often as that.
  | .times r least none => 72 + r.weight * max least 1
  | .times r least (some most) => 32 + r.weight * most + 40 * (most - least)

/-- Larger automata are refused. -/
def maxWeight : Nat := 10 * 1024 * 1024

end Regex

namespace Regex

/-- Why a source is no expression. -/
inductive Error
  | malformed
  | tooLarge
  deriving DecidableEq

/-- The expression of a source, case being ignored or not, unless it would grow too large. -/
def compile (ignoreCase : Bool) (source : List Char) : Except Error Regex :=
  match parse? ignoreCase source with
  | none => .error .malformed
  | some r => if r.weight ≤ maxWeight then .ok r else .error .tooLarge

end Regex

end AdFilter
