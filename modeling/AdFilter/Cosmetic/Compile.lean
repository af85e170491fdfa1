import AdFilter.Cosmetic.PseudoClass
import AdFilter.Domain
import AdFilter.Rule.Basic
import AdFilter.Scriptlet.Parser

/-!
From a line to a cosmetic rule: `##` hides, `#$#` puts style in, `#?#` is for extended engines,
`#%#` puts script in, and an at sign after the first character of the mark makes an exception.
-/

namespace AdFilter.Cosmetic

/-- The marks of style rules; where two of them could be read, the longer stands first. -/
def styleMarks : List String := ["#@$?#", "#$?#", "#@$#", "#$#", "#@?#", "#?#", "#@#", "##"]

/-- The marks of script rules. -/
def scriptMarks : List String := ["#@%#", "#%#"]

/-- The first of the marks that the text begins with, and the text behind it. -/
def markAt? (marks : List String) (text : List Char) : Option (String × List Char) :=
  marks.findSome? fun mark => (List.isPrefixOf? mark.toList text).map (mark, ·)

/-- A rule cut at its first mark: what stands before it, the mark, and what stands behind it. -/
def cutMark? (marks : List String) : List Char → Option (List Char × String × List Char)
  | [] => none
  | c :: rest =>
    match markAt? marks (c :: rest) with
    | some (mark, body) => some ([], mark, body)
    | none => (cutMark? marks rest).map fun (before, found) => (c :: before, found)

/-- The line has a mark of script rules. -/
def isScriptRule (text : String) : Bool := (cutMark? scriptMarks text.toList).isSome

/-- The line has a mark of style rules. -/
def isStyleRule (text : String) : Bool := (cutMark? styleMarks text.toList).isSome

/-- The domains before the mark. -/
def domainsBefore (before : List Char) : Except RuleError Domains :=
  if before.isEmpty then .ok {} else Domain.parse (String.ofList before)

/-- A scriptlet rule, read from `source` and keyed by `body`. -/
def scriptletRule (info : RuleInfo) (dialect : Dialect) (source body : List Char)
    (domains : Domains) : Except RuleError Rule :=
  match Scriptlet.parse? dialect (String.ofList source) with
  | some calls =>
    .ok (.scriptlet ⟨info, calls, dialect, String.ofList (Text.trim body), domains⟩)
  | none => .error (.invalidScriptlet info.text)

/-- A style rule with the given body, where the mark says `inject` and `extended`. -/
def styleRule (info : RuleInfo) (inject extended : Bool) (content : List Char)
    (domains : Domains) : Except RuleError Rule := do
  let (selector, inject) ←
    -- What stands behind the first pseudo class is not looked at.
    match inject, firstPseudoClass? content with
    | false, some pseudo =>
      -- A hiding rule may say what style it puts in, and then does not hide.
      if pseudo.name = ":style".toList then do
        let selector ← styleBlock pseudo content
        pure (selector, true)
      else if supportedPseudoClasses.contains (String.ofList pseudo.name) then
        pure (content, false)
      else throw (.unsupportedPseudoClass (String.ofList pseudo.name))
    | inject, _ => pure (content, inject)
  -- A rule that puts style in must have a block, wherever the style comes from.
  if inject && !hasStyleBlock selector then throw (.missingStyle info.text)
  return .style {
    info
    selector := String.ofList selector
    isInject := inject
    isExtended := extended || isExtended selector
    domains }

/-- The body begins as one dialect of scriptlets does. -/
def isUboBody (body : List Char) : Bool :=
  "+js(".toList.isPrefixOf body || "script:inject(".toList.isPrefixOf body

/-- The style rule, or the scriptlet rule of two dialects, that a line stands for. -/
def compileStyle (text : String) (filterId : Nat) : Except RuleError Rule := do
  let line := Text.trim text.toList
  let some (before, mark, body) := cutMark? styleMarks line | throw .notARule
  let has (c : Char) : Bool := mark.toList.contains c
  let domains ← domainsBefore before
  if (Text.trim body).isEmpty then throw .emptyBody
  let info : RuleInfo := ⟨String.ofList line, filterId, has '@'⟩
  if (mark == "##" || mark == "#@#") && isUboBody body then
    -- This dialect is read from the whole line, the others from the body.
    scriptletRule info .ubo line body domains
  -- Without a block what stands behind the mark is a call.
  else if (mark == "#$#" || mark == "#@$#") && !hasStyleBlock body then
    scriptletRule info .abp body body domains
  else styleRule info (has '$') (has '?') body domains

/-- The script rule, or the native scriptlet rule, that a line stands for. -/
def compileScript (text : String) (filterId : Nat) : Except RuleError Rule := do
  let line := Text.trim text.toList
  let some (before, mark, body) := cutMark? scriptMarks line | throw .notARule
  let domains ← domainsBefore before
  if (Text.trim body).isEmpty then throw .emptyBody
  let info : RuleInfo := ⟨String.ofList line, filterId, mark == "#@%#"⟩
  -- Any other body is the text of a script.
  if "//scriptlet".toList.isPrefixOf (Text.trimStart body) then
    scriptletRule info .native body body domains
  else return .script ⟨info, String.ofList body, domains⟩

end AdFilter.Cosmetic
