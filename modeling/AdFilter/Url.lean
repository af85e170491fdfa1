import AdFilter.Text.Bytes
import AdFilter.Text.Search

/-! The scheme and the host of a URL, found by their separators alone. -/

namespace AdFilter.Url

/-- A URL cut behind its scheme: behind `://` where that is the first colon and the first double
slash, else behind the first colon; a URL without a colon may still begin with a double slash. -/
def cutScheme? (url : List Char) : Option (List Char × List Char) :=
  match Text.cutWhere? (· == ':') url with
  | some (name, rest) =>
    match rest with
    | '/' :: '/' :: tail =>
      -- With a double slash before it the colon separates by itself.
      if Text.contains name ['/', '/'] then some (name ++ [':'], rest)
      else some (name ++ [':', '/', '/'], tail)
    | _ => some (name ++ [':'], rest)
  | none =>
    match url with
    | '/' :: '/' :: tail => some (['/', '/'], tail)
    | _ => none

/-- The path, the query or the fragment begins here. -/
def endsAuthority (c : Char) : Bool := c == '/' || c == '?' || c == '#'

/-- The text behind the scheme, cut behind the user information and before what follows the host. -/
def cutHost (rest : List Char) : List Char × List Char :=
  let (skipped, tail) :=
    -- The first at sign ends the user information, wherever a second one stands.
    match Text.cutWhere? (· == '@') (rest.takeWhile (!endsAuthority ·)) with
    | some (user, _) => (user ++ ['@'], rest.drop (user.length + 1))
    | none => ([], rest)
  -- A port is no part of the host.
  (skipped, tail.takeWhile fun c => !endsAuthority c && c != ':')

/-- What stands before the host, and the host, unless that is empty. -/
def locateHost? (url : List Char) : Option (List Char × List Char) := do
  let (scheme, rest) ← cutScheme? url
  let (skipped, host) := cutHost rest
  if host.isEmpty then none else some (scheme ++ skipped, host)

/-- The number of bytes up to the end of the scheme and its separator. -/
def schemeEnd? (url : String) : Option Nat :=
  (cutScheme? url.toList).map fun (scheme, _) => Text.byteLength scheme

/-- The bytes at which the host begins and ends. -/
def hostPosition? (url : String) : Option (Nat × Nat) :=
  (locateHost? url.toList).map fun (before, host) =>
    (Text.byteLength before, Text.byteLength before + Text.byteLength host)

/-- The host of a URL. -/
def host? (url : String) : Option String :=
  (locateHost? url.toList).map fun (_, host) => String.ofList host

/-- The host of a URL in small letters. -/
def lowerHost? (url : String) : Option String := (host? url).map (·.toLower)

end AdFilter.Url
