import AdFilter.Distinct
import AdFilter.Request
import AdFilter.RuleSet.Basic

/-! What becomes of a request, which rule decides that, and the directives about sources for its answer. -/

namespace AdFilter

/-- What becomes of a request. -/
inductive Decision
  | block
  | allow
  /-- No rule has anything to say, so the request goes through. -/
  | none
  deriving DecidableEq

/-- What becomes of a request, with the rule that decides it. -/
inductive Verdict
  | blocked (rule : NetworkRule)
  | allowed (rule : NetworkRule)
  /-- No rule has anything to say, so the request goes through. -/
  | unmatched

namespace Verdict

/-- What becomes of the request. -/
def decision : Verdict → Decision
  | blocked _ => .block
  | allowed _ => .allow
  | unmatched => .none

/-- The rule that decides. -/
def rule? : Verdict → Option NetworkRule
  | blocked rule | allowed rule => some rule
  | unmatched => none

/-- An exception for the request, one for its whole document and a blocking rule against each other:
an important exception wins over all, the document over the rest, and a blocking rule over the
exception if it is important or the only one of the two that names domains. -/
def weigh (exception document blocking : Option NetworkRule) : Verdict :=
  match exception.filter (·.isImportant) <|> document, exception, blocking with
  | some rule, _, _ => .allowed rule
  | none, none, none => .unmatched
  | none, some exception, none => .allowed exception
  | none, none, some blocking => .blocked blocking
  | none, some exception, some blocking =>
    -- The exception is not important here, or it would have won already.
    if blocking.isImportant || (!blocking.isGeneric && exception.isGeneric) then .blocked blocking
    else .allowed exception

end Verdict

/-- The question which rules speak of a request. -/
def Request.query (request : Request) : Query where
  url := request.url
  host := request.documentHost?.getD ""
  thirdParty := request.isThirdParty
  types := request.types

namespace RuleSet

/-- The best exception for the request itself; those for whole documents count if they let all
requests through. -/
def exception? (set : RuleSet) (request : Request) : Option NetworkRule :=
  set.exceptions.ruleBy? request.query fun rule =>
    !rule.isDocumentLevel || rule.options.has .urlBlock

/-- As `exception?`, with nothing where the program stops. -/
def tryException (set : RuleSet) (request : Request) : Option (Option NetworkRule) :=
  set.exceptions.tryRuleBy request.query fun rule =>
    !rule.isDocumentLevel || rule.options.has .urlBlock

/-- The best blocking rule for the request; in some documents generic ones do not count. -/
def blocking? (set : RuleSet) (request : Request) : Option NetworkRule :=
  -- A request without a document is under no options of one.
  let options := set.documentOptions (request.document.getD "")
  set.blocking.ruleBy?
    { request.query with genericAllowed := !options.has .genericBlock } fun _ => true

/-- As `blocking?`, with nothing where the program stops. -/
def tryBlocking (set : RuleSet) (request : Request) : Option (Option NetworkRule) := do
  let options ← set.tryDocumentOptions (request.document.getD "")
  set.blocking.tryRuleBy
    { request.query with genericAllowed := !options.has .genericBlock } fun _ => true

/-- What becomes of a request; one without an address goes through. -/
def judge (set : RuleSet) (request : Request) : Verdict :=
  if request.url.isEmpty then .unmatched
  else .weigh (set.exception? request) (set.requestsAllowed? (request.document.getD ""))
    (set.blocking? request)

/-- As `judge`, with nothing where the program stops. -/
def tryJudge (set : RuleSet) (request : Request) : Option Verdict := do
  if request.url.isEmpty then return .unmatched
  let document ← set.tryRequestsAllowed (request.document.getD "")
  let exception ← set.tryException request
  let blocking ← set.tryBlocking request
  return .weigh exception document blocking

/-- The types of requests that directives are for. -/
def framed : TypeSet := (TypeSet.only .document).union (.only .subdocument)

/-- The rules whose directives apply, the first for each directive. An exception takes away rules
with its own directive, and all of them if it has none. -/
def cspRules (set : RuleSet) (request : Request) : List NetworkRule :=
  let exceptions := set.cspExceptions.rulesFor request.query
  if !request.types.meets framed || exceptions.any (·.csp.all String.isEmpty) then []
  else
    -- A rule without a directive has nothing to put in.
    let isKept (rule : NetworkRule) : Bool :=
      rule.csp.any fun directive => !exceptions.any fun other => other.csp == some directive
    distinctBy (·.csp) ((set.csp.rulesFor request.query).filter isKept)

/-- As `cspRules`, with nothing where the program stops. -/
def tryCspRules (set : RuleSet) (request : Request) : Option (List NetworkRule) := do
  if !request.types.meets framed then return []
  let exceptions ← set.cspExceptions.tryRulesFor request.query
  -- The rules are looked up only if no exception takes all of them away.
  if exceptions.any (·.csp.all String.isEmpty) then return []
  let rules ← set.csp.tryRulesFor request.query
  return distinctBy (·.csp) (rules.filter fun rule =>
    rule.csp.any fun directive => !exceptions.any fun other => other.csp == some directive)

end RuleSet

end AdFilter
