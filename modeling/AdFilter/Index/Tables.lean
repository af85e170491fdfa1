import AdFilter.Digest
import AdFilter.Network.Rule
import Std.Data.HashMap

/-!
Two tables of rules. One is keyed by the domains on which rules apply, and looked up from a host through its
parents. The other is keyed by five bytes of their shortcuts: of a shortcut's windows the one that the fewest
rules have used is the key, and a lookup tries every window of the address.
-/

namespace AdFilter

/-- Indices of rules by each of their permitted domains. -/
structure DomainTable where
  buckets : Std.HashMap String (List Nat) := ∅

namespace DomainTable

/-- An entry that ends in `.*` has no one name to be found under. -/
def isOpenEnded (entry : String) : Bool := entry.endsWith ".*"

/-- The table with one more rule, if it names domains and each of them can be found. -/
def insert? (table : DomainTable) (index : Nat) (rule : NetworkRule) : Option DomainTable :=
  let permitted := rule.domains.permitted
  -- One name that cannot be found is enough to leave the rule to others.
  if permitted.isEmpty || permitted.any isOpenEnded then none
  else some ⟨permitted.foldl
    (fun buckets domain => buckets.insert domain (buckets.getD domain [] ++ [index]))
    table.buckets⟩

/-- A host with all its parents, the host first. -/
def lineage (host : List Char) : List (List Char) :=
  match host with
  | [] => []
  | host =>
    host :: match _found : Site.parentOf? host with
      | some parent => lineage parent
      | none => []
termination_by host.length
decreasing_by exact Site.length_of_parentOf? (by assumption)

/-- The rules that name the host or one of its parents. -/
def lookup (table : DomainTable) (host : String) : List Nat :=
  (lineage host.toList).flatMap fun name => table.buckets.getD (String.ofList name) []

/-- The number of domains in use. -/
def size (table : DomainTable) : Nat := table.buckets.size

end DomainTable

/-- Indices of rules by the digest of one window of their shortcut. -/
structure ShortcutTable where
  buckets : Std.HashMap UInt32 (List Nat) := ∅
  /-- How many rules have used a digest: no more than were offered to the table, so no bound is set. -/
  uses : Std.HashMap UInt32 Nat := ∅

namespace ShortcutTable

/-- The width of the windows, in bytes. -/
def width : Nat := 5

/-- The shortcut is too short for a window, or hardly more than the start of any address. -/
def isUnusable (shortcut : String) : Bool :=
  let size := Text.byteLength shortcut.toList
  size < width ||
    (size < 6 && shortcut.startsWith "ws:") ||
    (size < 7 && shortcut.startsWith "|ws:") ||
    (size < 9 && shortcut.startsWith "http") ||
    (size < 10 && shortcut.startsWith "|http")

/-- How many rules have used a digest. -/
def useCount (table : ShortcutTable) (digest : UInt32) : Nat := table.uses.getD digest 0

/-- The digests of the windows of a text, from left to right. -/
def digests (text : String) : List UInt32 :=
  (Text.windows width (Text.bytes text.toList)).map Digest.ofBytes

/-- The first of the digests that the fewest rules have used. -/
def leastUsed? (table : ShortcutTable) (digests : List UInt32) : Option UInt32 :=
  digests.foldl (fun best digest =>
    match best with
    | none => some digest
    -- Of equals the first one stays.
    | some other => if table.useCount digest < table.useCount other then some digest else best) none

/-- The table with one more rule, unless its shortcut is not fit for it. -/
def insert? (table : ShortcutTable) (index : Nat) (rule : NetworkRule) : Option ShortcutTable := do
  let shortcut ← rule.shortcut
  guard (!isUnusable shortcut)
  let digest ← table.leastUsed? (digests shortcut)
  return {
    buckets := table.buckets.insert digest (table.buckets.getD digest [] ++ [index])
    uses := table.uses.insert digest (table.useCount digest + 1) }

/-- The rules whose shortcut stands in an address of small letters, once for each window that leads
to them. -/
def lookup (table : ShortcutTable) (rules : Array NetworkRule) (url : String) : List Nat :=
  (digests url).flatMap fun digest =>
    (table.buckets.getD digest []).filter fun index =>
      -- Digests may agree by chance, so the shortcut itself is looked for as well.
      (rules[index]?.bind (·.shortcut)).any fun shortcut =>
        Text.contains url.toList shortcut.toList

/-- The number of windows in use. -/
def size (table : ShortcutTable) : Nat := table.buckets.size

end ShortcutTable

end AdFilter
