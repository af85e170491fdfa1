import AdFilter.Rule.Info
import AdFilter.Site
import AdFilter.Text.Bytes
import AdFilter.Text.Letter
import AdFilter.Text.Search

/-!
The domains a rule is limited to, whether it applies on a host, and how rules write them:
`example.com,~ads.example.com`, with `|` for the comma.
-/

namespace AdFilter.Domain

/-- The host is the domain or one of its subdomains. -/
def within (host domain : List Char) : Bool := host == domain || ('.' :: domain).isSuffixOf host

/-- The number of bytes behind which the public suffix of a host is cut off, with the dot before it, if it
has both. -/
def cutPlace? (host : List Char) : Option Nat :=
  let suffix := Text.byteLength (Site.publicSuffixOf host)
  let size := Text.byteLength host
  -- Dots at the end of the host are no part of the suffix, but they are of its size.
  if suffix = 0 ∨ size ≤ suffix then none else some (size - suffix - 1)

/-- The host lies within an entry that is given in reverse; `.*` at its end stands for any suffix. There is
no answer where the host would be cut inside a character: the program stops there. -/
def tryCoversReversed : List Char → List Char → Option Bool
  -- The name before the `.*` may end in one as well, so it is treated the same way.
  | '*' :: '.' :: name, host =>
    match cutPlace? host with
    | none => some false
    | some place => (Text.takeBytes? place host).bind fun rest => tryCoversReversed name rest
  | entry, host => some (within host entry.reverse)

/-- The host lies within an entry, `name.*` being `name` under any public suffix; there is no answer where
the program stops. -/
def tryCovers (entry host : String) : Option Bool :=
  tryCoversReversed entry.toList.reverse host.toList

/-- The host can be held against the entry: there is an answer. -/
def IsDefined (entry host : String) : Prop := (tryCovers entry host).isSome

/-- The host lies within an entry that it can be held against. Of any other entry this says no, which is
nothing that the program says. -/
def covers (entry host : String) : Bool := (tryCovers entry host).getD false

end AdFilter.Domain

namespace AdFilter

/-- The domains on which a rule applies, all if there are none, and those on which it never does. -/
structure Domains where
  permitted : List String := []
  restricted : List String := []
  deriving DecidableEq

namespace Domains

/-- No domain is named on which the rule applies, so it applies everywhere else. -/
def isGeneric (domains : Domains) : Bool := domains.permitted.isEmpty

/-- There is no restriction at all. -/
def isEmpty (domains : Domains) : Bool := domains.permitted.isEmpty && domains.restricted.isEmpty

/-- The host can be held against all the domains. -/
def IsDefinedOn (domains : Domains) (host : String) : Prop :=
  ∀ entry ∈ domains.restricted ++ domains.permitted, Domain.IsDefined entry host

/-- A rule with these domains applies on the host; there is no answer where the program stops, since it
would cut the host inside a character. -/
def tryPermits (domains : Domains) (host : String) : Option Bool := do
  if host.isEmpty then return false
  if ← domains.restricted.anyM (Domain.tryCovers · host) then return false
  -- A rule without permitted domains is not held against any.
  if domains.isGeneric then return true
  domains.permitted.anyM (Domain.tryCovers · host)

/-- A rule with these domains applies on a host that can be held against them. -/
def permits (domains : Domains) (host : String) : Bool :=
  -- Without a host there is nothing that a rule could apply on.
  if host.isEmpty then false
  -- A restriction wins over a permission.
  else if domains.restricted.any (Domain.covers · host) then false
  else domains.isGeneric || domains.permitted.any (Domain.covers · host)

end Domains

namespace Domain

/-- One entry of a list. -/
inductive Entry
  | permitted (name : String)
  | restricted (name : String)

/-- An entry without the white space around it, none if that is all there was; a tilde restricts. -/
def readEntry (raw : List Char) : Except Unit (Option Entry) :=
  let entry := Text.trim raw
  let accept (make : String → Entry) (name : List Char) : Except Unit (Option Entry) :=
    -- White space within a name is a mistake that spoils the whole list.
    if name.isEmpty || name.any Text.isBlank then .error ()
    else .ok (some (make (String.ofList (Text.lower name))))
  match entry with
  | [] => .ok none
  | '~' :: rest => accept .restricted (Text.trim rest)
  | entry => accept .permitted entry

/-- The domains of a list with one more entry at its end. -/
def push (domains : Domains) : Option Entry → Domains
  | none => domains
  | some (.permitted name) => { domains with permitted := domains.permitted ++ [name] }
  | some (.restricted name) => { domains with restricted := domains.restricted ++ [name] }

/-- The domains of a list; the error names the whole list. -/
def parse (text : String) : Except RuleError Domains :=
  -- The first entry that cannot be read ends the reading.
  let entries := (text.toList.splitOnP fun c => c == ',' || c == '|').mapM readEntry
  match entries with
  | .error _ => .error (.invalidDomains text)
  | .ok entries => .ok (entries.foldl push {})

end Domain

end AdFilter
