import AdFilter.Distinct
import AdFilter.Regex.Basic

/-!
Searching a text for an expression: at each place the search holds the set of what may still
follow, and takes it one character further by partial derivatives.
-/

namespace AdFilter.Regex

/-- The expression matches the empty word between the two characters. -/
def nullable (before after : Option Char) : Regex → Bool
  | .empty => true
  | .chars _ => false
  | .look anchor => anchor.holds before after
  | .cat r s => nullable before after r && nullable before after s
  | .alt r s => nullable before after r || nullable before after s
  -- A match of the inside may be repeated as often as it is owed.
  | .times r least most => least == 0 || (most != some 0 && nullable before after r)

/-- Concatenation that leaves no empty expression in front. -/
def andThen : Regex → Regex → Regex
  | .empty, s => s
  | r, s => .cat r s

/-- What may follow once the expression, after the character `before`, has begun with `c`. -/
def step (before : Option Char) (c : Char) : Regex → List Regex
  | .empty => []
  | .chars set => if set.has c then [.empty] else []
  | .look _ => []
  | .cat r s =>
    let through := (step before c r).map (andThen · s)
    -- Past an empty first expression the second one may take the character.
    if nullable before (some c) r then through ++ step before c s else through
  | .alt r s => step before c r ++ step before c s
  | .times r least most =>
    if most = some 0 then []
    else
      -- Repetitions that can be empty here need no characters, so none of them stays owed.
      let owed := if nullable before (some c) r then 0 else least - 1
      (step before c r).map (andThen · (.times r owed (most.map (· - 1))))

/-- The search from a place on, with the expressions under way and a new start at every place. -/
def searchFrom (start : Regex) (before : Option Char) (live : List Regex) : List Char → Bool
  | [] => (start :: live).any (nullable before none)
  | c :: rest =>
    -- One that may end here is a match already.
    (start :: live).any (nullable before (some c)) ||
      searchFrom start (some c) (distinctBy id ((start :: live).flatMap (step before c))) rest

/-- The expression matches some part of the text. -/
def search (r : Regex) (text : List Char) : Bool := searchFrom r none [] text

end AdFilter.Regex
