import AdFilter.Regex.CharSet

/-! Regular expressions over characters, and what it means for one to match a part of a text. -/

namespace AdFilter

/-- A condition on the place between two characters. -/
inductive Anchor
  | textStart
  | textEnd
  | lineStart
  | lineEnd
  /-- Like `lineStart`, where a carriage return ends a line as well, alone or before a line feed. -/
  | lineStartCr
  | lineEndCr
  | boundary (ascii : Bool)
  | notBoundary (ascii : Bool)
  | wordStart (ascii : Bool)
  | wordEnd (ascii : Bool)
  | wordStartHalf (ascii : Bool)
  | wordEndHalf (ascii : Bool)
  deriving DecidableEq, Hashable

/-- A regular expression; `times` bounds a number of repetitions, from above only if it says so. -/
inductive Regex
  | empty
  | chars (set : CharSet)
  | look (anchor : Anchor)
  | cat (first second : Regex)
  | alt (left right : Regex)
  | times (inner : Regex) (least : Nat) (most : Option Nat)
  deriving DecidableEq, Hashable

/-- The character exists and belongs to a word. -/
def Anchor.inWord (ascii : Bool) (c : Option Char) : Bool :=
  c.any fun c => if ascii then Text.isAsciiWord c else Text.isWord c

/-- The condition holds between the character before a place and the one after it. -/
def Anchor.holds (before after : Option Char) : Anchor → Bool
  | textStart => before.isNone
  | textEnd => after.isNone
  | lineStart => before.isNone || before == some '\n'
  | lineEnd => after.isNone || after == some '\n'
  | lineStartCr =>
    before.isNone || before == some '\n' || (before == some '\r' && after != some '\n')
  | lineEndCr =>
    after.isNone || after == some '\r' || (after == some '\n' && before != some '\r')
  | boundary ascii => inWord ascii before != inWord ascii after
  | notBoundary ascii => inWord ascii before == inWord ascii after
  | wordStart ascii => !inWord ascii before && inWord ascii after
  | wordEnd ascii => inWord ascii before && !inWord ascii after
  | wordStartHalf ascii => !inWord ascii before
  | wordEndHalf ascii => !inWord ascii after

namespace Regex

/-- The last character of a word, or the one before it if the word is empty. -/
def lastOr (before : Option Char) (word : List Char) : Option Char := word.getLast?.or before

/-- The first character of a word, or the one after it if the word is empty. -/
def firstOr (word : List Char) (after : Option Char) : Option Char := word.head?.or after

/-- The expression matches a word that stands between two neighbouring characters. -/
inductive Matches : Regex → Option Char → List Char → Option Char → Prop
  | empty {before after} : Matches .empty before [] after
  | chars {set c before after} (member : set.has c = true) : Matches (.chars set) before [c] after
  | look {anchor before after} (holds : anchor.holds before after = true) :
      Matches (.look anchor) before [] after
  -- Each of the two sees the nearest character of the other, or what is beyond if that is empty.
  | cat {r s before u v after} (first : Matches r before u (firstOr v after))
      (second : Matches s (lastOr before u) v after) : Matches (.cat r s) before (u ++ v) after
  | left {r s before word after} (here : Matches r before word after) :
      Matches (.alt r s) before word after
  | right {r s before word after} (here : Matches s before word after) :
      Matches (.alt r s) before word after
  | done {r most before after} : Matches (.times r 0 most) before [] after
  -- The least number stays at zero once it is reached.
  | more {r least most before u v after} (room : most ≠ some 0)
      (first : Matches r before u (firstOr v after))
      (rest : Matches (.times r (least - 1) (most.map (· - 1))) (lastOr before u) v after) :
      Matches (.times r least most) before (u ++ v) after

/-- The expression matches some part of the text. -/
def Occurs (r : Regex) (text : List Char) : Prop :=
  ∃ before word after, text = before ++ word ++ after ∧
    Matches r before.getLast? word after.head?

/-- The expression for one given character. -/
def char (c : Char) : Regex := .chars (.only c)

/-- One expression after the other. -/
def cats : List Regex → Regex
  | [] => .empty
  | [r] => r
  | r :: rest => .cat r (cats rest)

/-- Any one of several expressions. -/
def alts : List Regex → Regex
  -- None of no expressions matches anything, as no character is in the empty set.
  | [] => .chars .none
  | [r] => r
  | r :: rest => .alt r (alts rest)

end Regex

end AdFilter
