import AdFilter.Index.Tables

/-!
A collection of rules about requests, indexed so that a request is held against few of them, and
the choice of the best rule among those that match.

The program stops where it would cut a host inside a character. The definitions that have `try` in their
names have no answer there; what the others say there means nothing.
-/

namespace AdFilter

/-- What is asked of a collection of rules. -/
structure Query where
  url : String
  /-- The host of the document, empty if there is none. -/
  host : String
  thirdParty : Bool
  types : TypeSet
  /-- Generic rules count as well. -/
  genericAllowed : Bool := true

/-- The rule has something to say about the request. -/
def NetworkRule.answers (rule : NetworkRule) (query : Query) : Bool :=
  rule.permits query.host && (query.genericAllowed || !rule.isGeneric) &&
    rule.filters query.url query.thirdParty query.types

/-- As `answers`, with no answer where the program stops. -/
def NetworkRule.tryAnswers (rule : NetworkRule) (query : Query) : Option Bool :=
  -- The host is looked at first, so nothing else keeps the program from stopping.
  (rule.tryPermits query.host).map fun permits =>
    permits && (query.genericAllowed || !rule.isGeneric) &&
      rule.filters query.url query.thirdParty query.types

/-- The weight of a rule among its peers: important over all others, then specific over generic. -/
def NetworkRule.rank (rule : NetworkRule) : Nat :=
  (if rule.isImportant then 2 else 0) + (if rule.isGeneric then 0 else 1)

/-- Rules, each in the first table that takes it. -/
structure RuleIndex where
  rules : Array NetworkRule
  shortcuts : ShortcutTable
  domains : DomainTable
  /-- The rules that no table has taken. -/
  others : List Nat

namespace RuleIndex

/-- The tables with one more rule. -/
def place (index : RuleIndex) (entry : NetworkRule × Nat) : RuleIndex :=
  let (rule, i) := entry
  -- Shortcuts come first, since they tell most rules apart.
  match index.shortcuts.insert? i rule with
  | some shortcuts => { index with shortcuts }
  | none =>
    match index.domains.insert? i rule with
    | some domains => { index with domains }
    | none => { index with others := index.others ++ [i] }

/-- The rules of a list, indexed. -/
def ofList (rules : List NetworkRule) : RuleIndex :=
  rules.zipIdx.foldl place ⟨rules.toArray, {}, {}, []⟩

/-- The number of rules. -/
def size (index : RuleIndex) : Nat := index.rules.size

/-- The rules that may match, in their order and each once; an empty address has none. -/
def candidates (index : RuleIndex) (query : Query) : List Nat :=
  if query.url.isEmpty then []
  else
    let lower := String.ofList (Text.lower query.url.toList)
    let found := index.shortcuts.lookup index.rules lower ++ index.domains.lookup query.host ++
      index.others
    -- A rule may be led to by several windows or names, and counts once.
    (found.mergeSort (· ≤ ·)).eraseReps

/-- The rule at an index satisfies a condition. -/
def holdsAt (index : RuleIndex) (condition : NetworkRule → Bool) (i : Nat) : Bool :=
  (index.rules[i]?).any condition

/-- The first of the indices whose rule has the greatest weight. -/
def best? (index : RuleIndex) (indices : List Nat) : Option Nat :=
  let rankAt (i : Nat) : Nat := ((index.rules[i]?).map NetworkRule.rank).getD 0
  indices.foldl (fun best i =>
    match best with
    | none => some i
    -- Of rules with the same weight the first one stays.
    | some other => if rankAt other < rankAt i then some i else best) none

/-- The best matching rule among those that are accepted. A request for a document goes to the
rules for whole documents first. -/
def findBy? (index : RuleIndex) (query : Query) (accept : NetworkRule → Bool) : Option Nat :=
  let matching := (index.candidates query).filter
    (index.holdsAt fun rule => accept rule && rule.answers query)
  -- Only a document that is asked for by itself is one.
  let forDocuments := if query.types = .only .document then
    index.best? (matching.filter (index.holdsAt (·.isDocumentLevel))) else none
  forDocuments <|> index.best? matching

/-- The candidates that are accepted and answer, with nothing where the program stops. -/
def tryMatching (index : RuleIndex) (query : Query) (accept : NetworkRule → Bool) :
    Option (List Nat) :=
  (index.candidates query).filterM fun i =>
    match index.rules[i]? with
    | none => some false
    -- A rule that is not accepted is not asked.
    | some rule => if accept rule then rule.tryAnswers query else some false

/-- As `findBy?`, with nothing where the program stops. -/
def tryFindBy (index : RuleIndex) (query : Query) (accept : NetworkRule → Bool) :
    Option (Option Nat) := do
  if query.types = .only .document then
    let forDocuments ← index.tryMatching query fun rule => rule.isDocumentLevel && accept rule
    -- The other rules are asked only if there is no such rule.
    if let some best := index.best? forDocuments then return some best
  return index.best? (← index.tryMatching query accept)

/-- The best matching rule itself. -/
def ruleBy? (index : RuleIndex) (query : Query) (accept : NetworkRule → Bool) :
    Option NetworkRule :=
  (index.findBy? query accept).bind (index.rules[·]?)

/-- As `ruleBy?`, with nothing where the program stops. -/
def tryRuleBy (index : RuleIndex) (query : Query) (accept : NetworkRule → Bool) :
    Option (Option NetworkRule) :=
  (index.tryFindBy query accept).map (·.bind (index.rules[·]?))

/-- All matching rules, in their order. -/
def findAll (index : RuleIndex) (query : Query) : List Nat :=
  (index.candidates query).filter (index.holdsAt (·.answers query))

/-- As `findAll`, with nothing where the program stops. -/
def tryFindAll (index : RuleIndex) (query : Query) : Option (List Nat) :=
  index.tryMatching query fun _ => true

/-- All matching rules themselves, in their order. -/
def rulesFor (index : RuleIndex) (query : Query) : List NetworkRule :=
  (index.findAll query).filterMap (index.rules[·]?)

/-- As `rulesFor`, with nothing where the program stops. -/
def tryRulesFor (index : RuleIndex) (query : Query) : Option (List NetworkRule) :=
  (index.tryFindAll query).map (·.filterMap (index.rules[·]?))

end RuleIndex

end AdFilter
