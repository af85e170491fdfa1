import AdFilter.Text.Search

/-! The parts of a rule about requests as it is written: `[@@]pattern[$options]`. -/

namespace AdFilter.Network

/-- The parts of a rule; the options have an escaped dollar sign undone. -/
structure Parts where
  isException : Bool
  pattern : List Char
  options : Option (List Char)
  deriving DecidableEq

/-- The pattern is an expression between slashes. -/
def isSlashed (pattern : List Char) : Bool :=
  decide (2 ≤ pattern.length) && pattern.head? == some '/' && pattern.getLast? == some '/'

/-- The last dollar sign that no backslash escapes, looked for backwards: what stands before it and
after it, and whether an escaped one was passed. -/
def cutOptions? (after : List Char) (escaped : Bool) :
    List Char → Option (List Char × List Char × Bool)
  | [] => none
  | c :: before =>
    if c != '$' then cutOptions? (c :: after) escaped before
    else if before.head? = some '\\' then cutOptions? (c :: after) true before
    else some (before.reverse, after, escaped)

/-- The body of a rule cut at the dollar sign before its options. -/
def splitBody (body : List Char) : List Char × Option (List Char) :=
  -- An expression between slashes is all pattern, unless it asks for a replacement.
  if isSlashed body && !Text.contains body "replace=".toList then (body, none)
  else
    match body.reverse with
    | [] => (body, none)
    | last :: before =>
      -- A dollar sign at the very end has no options behind it.
      match cutOptions? [last] false before with
      | none => (body, none)
      | some (pattern, options, escaped) =>
        (pattern, some (if escaped then Text.replaceFirst ['\\', '$'] ['$'] options else options))

/-- The parts of a rule. -/
def split (text : List Char) : Parts :=
  match List.isPrefixOf? ['@', '@'] text with
  | some body => let (pattern, options) := splitBody body; ⟨true, pattern, options⟩
  | none => let (pattern, options) := splitBody text; ⟨false, pattern, options⟩

/-- The options before each comma, the one under way in reverse. -/
def optionsFrom (current : List Char) : List Char → List (List Char)
  | [] => if current.isEmpty then [] else [current.reverse]
  | c :: rest =>
    if c != ',' then optionsFrom (c :: current) rest
    else
      match current with
      -- A comma behind a backslash belongs to the option, and the backslash is dropped.
      | '\\' :: kept => optionsFrom (',' :: kept) rest
      | [] => optionsFrom [] rest
      | current => current.reverse :: optionsFrom [] rest

/-- The options of a rule, empty ones left out. -/
def splitOptions (text : List Char) : List (List Char) := optionsFrom [] text

/-- The text of the rule that is meant by one with the option to cancel it. -/
def cancelledText (text : List Char) : List Char :=
  let first := Text.replaceFirst "$badfilter,".toList ['$'] text
  let second := Text.replaceFirst ",badfilter".toList [] first
  Text.replaceFirst "$badfilter".toList [] second

end AdFilter.Network
