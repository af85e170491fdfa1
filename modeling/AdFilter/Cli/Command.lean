import AdFilter.Cli.Arguments
import AdFilter.Cli.Report
import AdFilter.Engine
import AdFilter.Markup.Tree

/-! What the command line does: it checks lists, and asks them about requests and pages. -/

namespace AdFilter.Cli

/-- What the command line is asked to do, with the paths of the lists. -/
inductive Command
  | check (lists : List String)
  | request (lists : List String) (url : String) (document : Option String) (type : String)
  | cosmetics (lists : List String) (url : String)
  | content (lists : List String) (url page : String)

namespace Command

/-- The switch for the path of a list. -/
def input : Switch := ⟨"input", some 'i', true, true⟩

/-- The switch for the address of a request or a page. -/
def url : Switch := ⟨"url", some 'u', true, false⟩

/-- The switch for the address of the document that makes a request. -/
def document : Switch := ⟨"document", some 'd', true, false⟩

/-- The switch for the type of a request. -/
def type : Switch := ⟨"type", some 't', true, false⟩

/-- The switch for the path of a page. -/
def html : Switch := ⟨"html", none, true, false⟩

/-- The paths of the lists, of which there must be one. -/
def listsOf (given : List Given) : Except Refusal (List String) :=
  match valuesOf given "input" with
  | [] => .error .misuse
  | paths => .ok paths

/-- The command that an action with its arguments stands for. -/
def ofAction (action : String) (arguments : List String) : Except Refusal Command :=
  match action with
  | "check" => do
    let given ← readAction [input] arguments
    return .check (← listsOf given)
  | "match" => do
    let given ← readAction [input, url, document, type] arguments
    return .request (← listsOf given) (← valueOf given "url") (valuesOf given "document").head?
      ((valuesOf given "type").head?.getD "other")
  | "cosmetic" => do
    let given ← readAction [input, url] arguments
    return .cosmetics (← listsOf given) (← valueOf given "url")
  | "content" => do
    let given ← readAction [input, url, html] arguments
    return .content (← listsOf given) (← valueOf given "url") (← valueOf given "html")
  -- Help is asked for and given, whatever stands behind it.
  | "help" => .error .help
  | _ => .error .misuse

/-- The command that arguments stand for; common switches may stand before the action. -/
def ofArguments (arguments : List String) : Except Refusal Command :=
  -- The first argument that is no switch is the action.
  let (before, behind) := arguments.span isSwitch
  match readAction [] before, behind with
  | .error refusal, _ => .error refusal
  | .ok _, [] => .error .misuse
  | .ok _, action :: rest =>
    -- Two hyphens end the switches, so no action may follow them.
    if before.contains "--" then .error .misuse else ofAction action rest

end Command

/-- What the command line leaves behind: its exit code, what it prints, and what it complains of. -/
structure Outcome where
  code : Nat
  output : String
  complaint : Option String := none

/-- The name of the file at the end of a path; a path that ends in two dots has none. -/
def fileName (path : String) : String :=
  let names := (path.toList.splitOn '/').filter fun name => !name.isEmpty && name != ['.']
  match names.getLast? with
  | some name => if name = ['.', '.'] then "" else String.ofList name
  | none => ""

/-- What is said about a line that is not accepted. -/
def complaintText (error : LineError) : String :=
  "      line " ++ Nat.repr error.line ++ ": " ++ error.text ++ " (" ++ error.error.message ++ ")\n"

/-- What is said about one list, given its number, its path and its text. -/
def listText (number : Nat) (path text : String) (list : FilterList) : String :=
  "  [" ++ Nat.repr number ++ "] " ++ fileName path ++ " - " ++
    Nat.repr (Text.lines text.toList).length ++ " lines, " ++ Nat.repr list.rules.length ++
    " rules, " ++ Nat.repr list.errors.length ++ " rejected\n" ++
    String.join (list.errors.map complaintText)

/-- The report of a check, given the paths and texts of the lists. -/
def checkText (files : List (String × String)) : String :=
  let lists := (files.zipIdx 1).map fun ((path, text), number) =>
    -- Each list has its place on the command line as its number.
    (number, path, text, FilterList.parse text number)
  let count (measure : FilterList → Nat) : String :=
    Nat.repr (lists.foldl (fun total (_, _, _, list) => total + measure list) 0)
  String.join (lists.map fun (number, path, text, list) => listText number path text list) ++
    "Checked " ++ Nat.repr files.length ++ " filter lists\n" ++
    "  Rules:    " ++ count (·.rules.length) ++ "\n" ++
    "  Rejected: " ++ count (·.errors.length) ++ "\n"

/-- An engine for lists that are numbered from one on. -/
def engineOf (texts : List String) : Engine :=
  let lists := (texts.zipIdx 1).map fun (text, number) => (number, text)
  (Engine.ofLists lists Engine.defaultCacheSize true).1

/-- How a decision is called in a report. -/
def decisionText : Decision → String
  | .block => "block"
  | .allow => "allow"
  | .none => "none"

/-- The report about a request. -/
def requestReport (engine : Engine) (request : Request) : Report :=
  let verdict := (engine.answer request).1
  let csp := engine.rules.cspRules request
  -- Of a rule the report tells where it comes from and what it says.
  .record [
    ("csp", .ofTexts (csp.filterMap (·.csp))),
    ("decision", .text (decisionText verdict.decision)),
    ("document", .ofText? request.document),
    ("filter_id", ((verdict.rule?).map fun rule => Report.number rule.info.filterId).getD .absent),
    ("rule", .ofText? (verdict.rule?.map (·.info.text))),
    ("third_party", .flag request.isThirdParty),
    ("url", .text request.url)]

/-- The report about what is put into a page. -/
def cosmeticReport (result : CosmeticResult) : Report :=
  let callReport (call : ScriptletCall) : Report :=
    .record [("args", .ofTexts call.args), ("name", .text call.name)]
  .record [
    ("css", .ofTexts result.css),
    ("extended_css", .ofTexts result.extendedCss),
    ("scriptlets", .list (result.scriptlets.map callReport)),
    ("scripts", .ofTexts result.scripts)]

/-- The report about what is removed from a page. -/
def contentReport (engine : Engine) (url source : String) : Report :=
  let rules := engine.rules.contentRules url
  -- The elements are written out as they stand in the page.
  let removed := (Page.parse source).removedBy rules
  .record [
    ("removed", .ofTexts (removed.map (·.outerHtml))),
    ("rules", .ofTexts (rules.map (·.info.text))),
    ("url", .text url)]

section Running

variable {M : Type → Type} [Monad M] (read : String → M (Except String String))

/-- The text at a path, or the complaint that it cannot be read. -/
def readText (path : String) : ExceptT String M String := do
  match ← ExceptT.lift (read path) with
  | .ok text => return text
  | .error reason => throw ("Failed to read '" ++ path ++ "': " ++ reason)

/-- What a command prints; all lists are read before anything else is done. -/
def Command.print : Command → ExceptT String M String
  | .check paths => do
    let texts ← paths.mapM (readText read)
    return checkText (paths.zip texts)
  | .request paths url document type => do
    let texts ← paths.mapM (readText read)
    let request : Request := ⟨url, document, .only (.ofBrowser type)⟩
    return (requestReport (engineOf texts) request).toText
  | .cosmetics paths url => do
    let texts ← paths.mapM (readText read)
    return (cosmeticReport ((engineOf texts).rules.cosmetics url)).toText
  | .content paths url page => do
    let texts ← paths.mapM (readText read)
    let source ← readText read page
    return (contentReport (engineOf texts) url source).toText

/-- What the command line leaves behind for its arguments, given how files are read. -/
def run (arguments : List String) : M Outcome := do
  match Command.ofArguments arguments with
  | .error .help => return ⟨0, "", none⟩
  | .error .misuse => return ⟨2, "", none⟩
  | .ok command =>
    match ← (command.print read).run with
    | .ok output => return ⟨0, output, none⟩
    | .error complaint => return ⟨1, "", some complaint⟩

end Running

end AdFilter.Cli
