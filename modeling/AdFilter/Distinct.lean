import Std.Data.HashSet

/-! Lists in which no two elements have the same key: the first of each stays, and the others are counted. -/

namespace AdFilter

variable {A K : Type} [BEq K] [Hashable K]

/-- The elements of a list whose key is neither among those seen nor that of an element before. -/
def distinctFrom (key : A → K) (seen : Std.HashSet K) : List A → List A
  | [] => []
  | a :: rest =>
    if seen.contains (key a) then distinctFrom key seen rest
    else a :: distinctFrom key (seen.insert (key a)) rest

/-- The elements of a list without those whose key an earlier one has. -/
def distinctBy (key : A → K) (list : List A) : List A := distinctFrom key ∅ list

/-- How many elements of a list have a key that was seen, or that an element before has. -/
def repeatsFrom (key : A → K) (seen : Std.HashSet K) : List A → Nat
  | [] => 0
  | a :: rest =>
    if seen.contains (key a) then repeatsFrom key seen rest + 1
    else repeatsFrom key (seen.insert (key a)) rest

/-- How many elements of a list have a key that an earlier one has. -/
def repeatsBy (key : A → K) (list : List A) : Nat := repeatsFrom key ∅ list

end AdFilter
