import AdFilter.Text.Search

/-! Tables of code points, written as hexadecimal words and read into ranges and runs. -/

namespace AdFilter.Text

/-- Closed ranges of code points. -/
abbrev Ranges := List (Nat × Nat)

/-- The code point lies in one of the ranges. -/
def Ranges.has (ranges : Ranges) (n : Nat) : Bool :=
  ranges.any fun (low, high) => decide (low ≤ n) && decide (n ≤ high)

/-- The value of a hexadecimal digit of either case. -/
def hexDigit? (c : Char) : Option Nat :=
  if '0' ≤ c ∧ c ≤ '9' then some (c.toNat - '0'.toNat)
  else if 'a' ≤ c ∧ c ≤ 'f' then some (c.toNat - 'a'.toNat + 10)
  else if 'A' ≤ c ∧ c ≤ 'F' then some (c.toNat - 'A'.toNat + 10)
  else none

/-- The number a row of hexadecimal digits stands for; other characters count as zeros. -/
def readHex (digits : List Char) : Nat :=
  digits.foldl (fun value c => value * 16 + (hexDigit? c).getD 0) 0

/-- The words of a table, each a row of hexadecimal numbers joined by hyphens. -/
def readRows (table : String) : List (List Nat) :=
  let words := (table.toList.splitOnP isBlank).filter fun word => !word.isEmpty
  words.map fun word => (word.splitOn '-').map readHex

/-- A table of ranges: one number is a range of its own, two are the ends of one. -/
def readRanges (table : String) : Ranges :=
  (readRows table).filterMap fun row =>
    match row with
    | [only] => some (only, only)
    | [low, high] => some (low, high)
    | _ => none

/-- Code points from `low` to `high` in equal steps, mapped to as many from `image` on. -/
structure CaseRun where
  low : Nat
  high : Nat
  step : Nat
  image : Nat

/-- A table of runs: first, last, step and first image. -/
def readRuns (table : String) : List CaseRun :=
  (readRows table).filterMap fun row =>
    match row with
    | [low, high, step, image] => some ⟨low, high, step, image⟩
    | _ => none

/-- The image of a code point that the run covers. -/
def CaseRun.image? (run : CaseRun) (n : Nat) : Option Nat :=
  if run.low ≤ n ∧ n ≤ run.high ∧ (n - run.low) % run.step = 0 then
    some (run.image + (n - run.low))
  else none

/-- The code point that the run maps to a given one. -/
def CaseRun.source? (run : CaseRun) (n : Nat) : Option Nat :=
  -- The images lie as far apart as the code points themselves.
  let offset := n - run.image
  if run.image ≤ n ∧ run.low + offset ≤ run.high ∧ offset % run.step = 0 then
    some (run.low + offset)
  else none

end AdFilter.Text
