import AdFilter.Domain
import AdFilter.Network.Text
import AdFilter.Request
import AdFilter.Rule.Option

/-! The options of a rule about requests, read one after the other. -/

namespace AdFilter.Network

/-- What the options of a rule say. -/
structure Options where
  domains : Domains := {}
  /-- The types that are named, none if the rule is for all. -/
  permittedTypes : TypeSet := .empty
  restrictedTypes : TypeSet := .empty
  party : Party := .any
  set : OptionSet := .empty
  csp : Option String := none
  /-- The rule cancels another one. -/
  cancels : Bool := false
  deriving DecidableEq

namespace Options

/-- The rule speaks of whole documents. -/
def isDocumentLevel (options : Options) : Bool := options.set.meets .documentLevel

/-- Adds options that may make sense on one kind of rule alone. -/
def enable (options : Options) (added : OptionSet) (name : String) (isException : Bool) :
    Except RuleError Options :=
  if !isException && OptionSet.documentLevel.meets added then .error (.exceptionOnly name)
  else if isException && added.has .emptyResponse then .error (.blockingOnly name)
  else .ok { options with set := options.set.union added }

/-- Options that are known and mean nothing. -/
def ignored : List String :=
  ["background", "~background", "extension", "~extension", "collapse", "~collapse", "~document"]

/-- Adds the type that an option names, or forbids. -/
def addType (options : Options) (rawName : List Char) (name : String) :
    Except RuleError Options :=
  match RequestType.ofOption? name with
  | some type => .ok { options with permittedTypes := options.permittedTypes.union (.only type) }
  | none =>
    -- A tilde turns a type into one that is left out.
    let forbidden := match name.toList with
      | '~' :: rest => RequestType.ofOption? (String.ofList rest)
      | _ => none
    match forbidden with
    | some type =>
      .ok { options with restrictedTypes := options.restrictedTypes.union (.only type) }
    | none => .error (.unknownOption (String.ofList rawName))

/-- Adds one option, given by its name and the value behind the equality sign. -/
def add (options : Options) (isException : Bool) (rawName : List Char)
    (value : Option (List Char)) : Except RuleError Options :=
  let name := String.ofList ((Text.trim rawName).map Char.toLower)
  let enable (added : OptionSet) := options.enable added name isException
  let permit (type : RequestType) := options.permittedTypes.union (.only type)
  match name with
  | "domain" =>
    match value with
    | none => .ok options
    | some value => do
      let domains ← Domain.parse (String.ofList value)
      return { options with
        domains.permitted := options.domains.permitted ++ domains.permitted
        domains.restricted := options.domains.restricted ++ domains.restricted }
  | "third-party" => .ok { options with party := .third }
  | "~third-party" => .ok { options with party := .first }
  | "match-case" => .ok { options with set := options.set.union (.only .matchCase) }
  | "important" => .ok { options with set := options.set.union (.only .important) }
  | "~important" => .ok { options with set := options.set.erase .important }
  | "elemhide" => enable (.only .elemHide)
  | "generichide" => enable (.only .genericHide)
  | "jsinject" => enable (.only .jsInject)
  | "content" => enable (.only .content)
  | "urlblock" => enable (.only .urlBlock)
  | "genericblock" => enable (.only .genericBlock)
  | "popup" =>
    .ok { options with
      set := options.set.union (.only .blockPopups)
      -- A window that opens is both an option and a type.
      permittedTypes := permit .popup }
  | "empty" => enable (.only .emptyResponse)
  | "csp" =>
    -- A directive of blanks is none.
    let directive := (value.map Text.trim).filter fun text => !text.isEmpty
    .ok { options with
      set := options.set.union (.only .csp)
      csp := directive.map String.ofList }
  | "badfilter" => .ok { options with cancels := true }
  | name =>
    -- On a blocking rule the same name is a type.
    if name = "document" ∧ isException then enable .wholeDocument
    else if ignored.contains name then .ok options
    else options.addType rawName name

/-- A rule for whole documents is about requests for documents alone. -/
def finish (options : Options) : Options :=
  if options.isDocumentLevel then { options with permittedTypes := .only .document } else options

/-- Adds one option as it is written, with a value or without one. -/
def addText (isException : Bool) (options : Options) (text : List Char) :
    Except RuleError Options :=
  match Text.cutWhere? (· == '=') text with
  | some (name, value) => options.add isException name (some value)
  | none => options.add isException text none

/-- What the text of the options says; the first option that is not accepted decides the error. -/
def parse (text : List Char) (isException : Bool) : Except RuleError Options :=
  ((splitOptions text).foldlM (addText isException) {}).map finish

end Options

/-- A blocking rule needs a directive, and a directive must not ask for reports. -/
def checkCsp (directive : Option String) (isException : Bool) : Except RuleError Unit :=
  match directive with
  | none => if isException then .ok () else .error .emptyCsp
  | some directive =>
    let lower := directive.toList.map Char.toLower
    -- A report would tell the page that something was blocked.
    if Text.contains lower "report-uri".toList || Text.contains lower "report-to".toList then
      .error (.forbiddenCsp (String.ofList lower))
    else .ok ()

end AdFilter.Network
