import AdFilter.Text.Search

/-!
Public suffixes and sites: a suffix is the last label of a host, or its last two where they are
one of the common registries of two labels, and a site is the suffix with one more label.
-/

namespace AdFilter.Site

/-- The common registries of two labels. -/
def registries : List String := [
  "co.uk", "co.jp", "co.nz", "co.za", "co.in", "co.kr", "co.il",
  "com.au", "com.br", "com.cn", "com.mx", "com.tw", "com.hk", "com.tr", "com.ua",
  "net.au", "net.nz", "net.ua",
  "org.uk", "org.au",
  "gov.uk", "gov.au",
  "ac.uk", "ac.jp",
  "ne.jp", "or.jp",
  "msk.ru", "spb.ru"]

/-- Two labels joined by a dot are one of the registries. -/
def isRegistry (suffix : List Char) : Bool := registries.contains (String.ofList suffix)

/-- A host without the dots at its end. -/
def trimDots (host : List Char) : List Char := (host.reverse.dropWhile (· == '.')).reverse

/-- The public suffix of a host, found from its end. -/
def publicSuffixOf (host : List Char) : List Char :=
  let reversed := (trimDots host).reverse
  match Text.cutWhere? (· == '.') reversed with
  | none => reversed.reverse
  | some (last, before) =>
    match Text.cutWhere? (· == '.') before with
    | none => last.reverse
    | some (second, _) =>
      -- A registry is a suffix only where a further label stands before it.
      let both := second.reverse ++ '.' :: last.reverse
      if isRegistry both then both else last.reverse

/-- The public suffix of a host. -/
def publicSuffix (host : String) : String := String.ofList (publicSuffixOf host.toList)

/-- The number of labels in the site of a host with the given labels. -/
def siteLabels (labels : List (List Char)) : Nat :=
  let suffix := labels.drop (labels.length - 2)
  -- A host of two labels is its own site, a registry or not.
  if labels.length ≤ 2 then labels.length
  else if isRegistry (['.'].intercalate suffix) then 3
  else 2

/-- The site of a host, in small letters. -/
def ofHost (host : String) : String :=
  let labels := (trimDots (host.toList.map Char.toLower)).splitOn '.'
  String.ofList (['.'].intercalate (labels.drop (labels.length - siteLabels labels)))

/-- Two hosts belong to one site. -/
def same (host other : String) : Bool := ofHost host == ofHost other

/-- A request to one host from a document on another crosses sites. -/
def crosses (documentHost requestHost : String) : Bool := !same documentHost requestHost

/-- The host without its first label, if anything is left. -/
def parentOf? (host : List Char) : Option (List Char) :=
  match Text.cutWhere? (· == '.') host with
  -- A dot at the end has nothing behind it.
  | some (_, []) => none
  | some (_, parent) => some parent
  | none => none

/-- A parent domain is shorter than the host. -/
theorem length_of_parentOf? {host parent : List Char} (found : parentOf? host = some parent) :
    parent.length < host.length := by
  unfold parentOf? at found
  split at found
  · simp at found
  -- The label and the dot behind it are gone.
  · rename_i cut
    cases found
    exact Text.length_of_cutWhere? cut
  · simp at found

/-- The host without its first label, if anything is left. -/
def parent? (host : String) : Option String := (parentOf? host.toList).map String.ofList

end AdFilter.Site
