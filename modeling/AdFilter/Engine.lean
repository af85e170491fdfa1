import AdFilter.Cache
import AdFilter.FilterList.Parser
import AdFilter.RuleSet.Page
import AdFilter.RuleSet.Verdict

/-! Rules in use, with the answers to recent requests remembered. -/

namespace AdFilter

/-- What an answer is remembered under: the address, the document, if only an empty one, and the type. -/
abbrev RequestKey := String × String × TypeSet

/-- The key of a request. -/
def Request.key (request : Request) : RequestKey :=
  (request.url, request.document.getD "", request.types)

/-- Rules, and the answers to recent requests. -/
structure Engine where
  rules : RuleSet
  answers : Cache RequestKey Verdict

namespace Engine

/-- How many answers are remembered unless asked otherwise. -/
def defaultCacheSize : Nat := 1000

/-- An engine for rules that has not answered anything yet. -/
def ofRules (rules : List Rule) (cacheSize : Nat := defaultCacheSize) : Engine :=
  ⟨.ofList rules, .empty cacheSize⟩

/-- An engine for lists with their numbers, and the lines that are not accepted; rules that do
nothing are dropped first if asked. -/
def ofLists (lists : List (Nat × String)) (cacheSize : Nat) (optimize : Bool) :
    Engine × List LineError :=
  let list := FilterList.join (lists.map fun (filterId, text) => .parse text filterId)
  let rules := if optimize then (Rule.optimize list.rules).1 else list.rules
  (ofRules rules cacheSize, list.errors)

/-- What becomes of a request, from memory if it was answered before. -/
def answer (engine : Engine) (request : Request) : Verdict × Engine :=
  -- A request without an address is not worth remembering.
  if request.url.isEmpty then (.unmatched, engine)
  else
    match engine.answers.find request.key with
    -- What is remembered is not judged again, but counts as used.
    | (some verdict, answers) => (verdict, { engine with answers })
    | (none, answers) =>
      let verdict := engine.rules.judge request
      (verdict, { engine with answers := answers.insert request.key verdict })

/-- As `answer`, with nothing where the program stops: an answer from memory is not judged again. -/
def tryAnswer (engine : Engine) (request : Request) : Option (Verdict × Engine) :=
  if request.url.isEmpty then some (.unmatched, engine)
  else
    match engine.answers.find request.key with
    | (some verdict, answers) => some (verdict, { engine with answers })
    | (none, answers) => (engine.rules.tryJudge request).map fun verdict =>
      (verdict, { engine with answers := answers.insert request.key verdict })

/-- What becomes of a request, with nothing where the program stops. -/
def tryVerdict (engine : Engine) (request : Request) : Option Verdict :=
  (engine.tryAnswer request).map (·.1)

/-- The number of answers in memory. -/
def remembered (engine : Engine) : Nat := engine.answers.size

/-- All answers are forgotten. -/
def forget (engine : Engine) : Engine := { engine with answers := engine.answers.clear }

end Engine

end AdFilter
