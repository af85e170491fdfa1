import AdFilter.Content.Rule
import AdFilter.Domain
import AdFilter.Rule.Info
import AdFilter.Selector.Parser

/-!
From a line to a rule about content: `example.org$$div[id="ad"][max-length="500"]`. Reserved names
in brackets set limits, and all others become conditions of the selector.
-/

namespace AdFilter.Content

/-- The line has the mark of a rule about content. -/
def isContentRule (text : String) : Bool :=
  Text.contains text.toList "$$".toList || Text.contains text.toList "$@$".toList

/-- A line cut at its mark: what stands before it and behind it, and whether the mark is that of
exceptions, which is looked for first. -/
def cutMark? (line : List Char) : Option (List Char × List Char × Bool) :=
  match Text.cutFirst? "$@$".toList line with
  | some (before, body) => some (before, body, true)
  | none => (Text.cutFirst? "$$".toList line).map fun (before, body) => (before, body, false)

/-- The value up to its closing quote, and what stands behind that; two quotes are one in the value. -/
def valueFrom? : List Char → Option (List Char × List Char)
  | [] => none
  | '"' :: '"' :: rest => (valueFrom? rest).map fun (value, after) => ('"' :: value, after)
  | '"' :: rest => some ([], rest)
  | c :: rest => (valueFrom? rest).map fun (value, after) => (c :: value, after)

/-- A name and its value, as they stand in brackets. -/
structure Entry where
  name : List Char
  value : List Char

/-- The first attribute behind an opening bracket, and what stands behind its value. -/
def attributeFrom? (text : List Char) : Option (Entry × List Char) := do
  let (name, rest) ← Text.cutWhere? (· == '=') text
  let (_, rest) ← Text.cutWhere? (· == '"') rest
  let (value, rest) ← valueFrom? rest
  return (⟨Text.trim name, value⟩, rest)

/-- The attributes of a text, each behind the bracket that opens after the last one has closed. The
first that cannot be read ends them. -/
def attributesFrom : Nat → List Char → List Entry
  | 0, _ => []
  | fuel + 1, text =>
    match Text.cutWhere? (· == '[') text with
    | none => []
    | some (_, inside) =>
      match attributeFrom? inside with
      | none => []
      | some (entry, rest) =>
        entry ::
          match Text.cutWhere? (· == ']') rest with
          | none => []
          | some (_, rest) => attributesFrom fuel rest

/-- The whole number that a value stands for, if it fits in 64 bits; a plus sign may stand first. -/
def wholeNumber? (value : List Char) : Option Nat :=
  let text := Text.trim value
  -- Only one sign is passed over, so that another one is no digit.
  let digits := if text.head? = some '+' then text.tail else text
  if digits.isEmpty || !digits.all Char.isDigit then none
  else
    let n := digits.foldl (fun n c => n * 10 + (c.toNat - '0'.toNat)) 0
    -- A number that does not fit is no number.
    if n < UInt64.size then some n else none

/-- What the attributes of a rule have said so far. -/
structure Settings where
  selector : List Char
  tagContent : Option String := none
  wildcard : Option Glob := none
  minLength : Nat := 0
  maxLength : Nat := ContentRule.defaultMaxLength
  parentElements : List String := []
  parentSearchLevel : Nat := ContentRule.defaultParentSearchLevel

/-- A value as it stands between quotes in a selector. -/
def quoted (value : List Char) : List Char :=
  value.flatMap fun c => if c = '\\' ∨ c = '"' then ['\\', c] else [c]

/-- The names of elements in a list. -/
def namesIn (value : List Char) : List String :=
  let names := (value.splitOn ',').map fun name => Text.lower (Text.trim name)
  (names.filter fun name => !name.isEmpty).map String.ofList

/-- One attribute more. -/
def Settings.add (settings : Settings) (entry : Entry) : Except RuleError Settings :=
  let name := String.ofList entry.name
  let value := entry.value
  let number : Except RuleError Nat :=
    match wholeNumber? value with
    | some n => .ok n
    | none => .error (.invalidInteger name (String.ofList value))
  match name with
  | "tag-content" => .ok { settings with tagContent := some (String.ofList value) }
  | "wildcard" =>
    match Glob.compile (String.ofList value) with
    | .ok glob => .ok { settings with wildcard := some glob }
    | .error _ => .error .badRegex
  | "max-length" => number.map fun n => { settings with maxLength := n }
  | "min-length" => number.map fun n => { settings with minLength := n }
  | "parent-elements" => .ok { settings with parentElements := namesIn value }
  | "parent-search-level" => number.map fun n => { settings with parentSearchLevel := n }
  | _ =>
    -- The value has to be a part of that of the attribute.
    let condition := ['['] ++ entry.name ++ ['*', '=', '"'] ++ quoted value ++ ['"', ']']
    .ok { settings with selector := settings.selector ++ condition }

/-- The rule that a line stands for. -/
def compile (text : String) (filterId : Nat) : Except RuleError ContentRule := do
  let line := Text.trim text.toList
  let some (before, body, isException) := cutMark? line | throw .notARule
  -- A rule is for the domains before the mark, and only an exception may do without any.
  let domains ← if before.isEmpty then .ok {} else Domain.parse (String.ofList before)
  if !isException && domains.isGeneric then throw .noPermittedDomain
  -- The name of the element is all that stands before the first attribute.
  let tagName := Text.trim (body.takeWhile (· != '['))
  let settings ← (attributesFrom (body.length + 1) body).foldlM Settings.add { selector := tagName }
  let selectorText := String.ofList settings.selector
  -- The name and the conditions must make up a selector.
  match Css.parse? selectorText with
  | none => throw (.badSelector selectorText)
  | some selector =>
    return {
      info := ⟨String.ofList line, filterId, isException⟩
      tagName := String.ofList tagName
      selector
      selectorText
      elementsFilter := String.ofList body
      tagContent := settings.tagContent
      wildcard := settings.wildcard
      minLength := settings.minLength
      maxLength := settings.maxLength
      parentElements := settings.parentElements
      parentSearchLevel := settings.parentSearchLevel
      domains }

end AdFilter.Content
