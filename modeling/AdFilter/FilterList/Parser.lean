import AdFilter.Content.Compile
import AdFilter.Cosmetic.Compile
import AdFilter.Network.Compile

/-! Filter lists: one rule a line, and a line that is not accepted stops no other one. -/

namespace AdFilter

/-- A line that is not accepted, with its number from one on and its trimmed text. -/
structure LineError where
  line : Nat
  text : String
  error : RuleError

/-- What a list says: its rules, and its lines that are not accepted. -/
structure FilterList where
  rules : List Rule
  errors : List LineError

namespace FilterList

/-- A trimmed line is a comment or the header of a list. -/
def isComment (line : List Char) : Bool :=
  line.head? == some '!' || (line.head? == some '[' && line.getLast? == some ']')

/-- The rule of a line; blank lines and comments have none. The marks of script are looked for first,
then those of style, then those of content. -/
def parseLine (raw : List Char) (filterId : Nat) : Except RuleError (Option Rule) :=
  let trimmed := Text.trim raw
  let line := String.ofList trimmed
  if trimmed.isEmpty || isComment trimmed then .ok none
  else if Cosmetic.isScriptRule line then (Cosmetic.compileScript line filterId).map some
  else if Cosmetic.isStyleRule line then (Cosmetic.compileStyle line filterId).map some
  else if Content.isContentRule line then
    (Content.compile line filterId).map fun rule => some (.content rule)
  -- A line without any mark is a rule about requests.
  else (Network.compile line filterId).map fun rule => some (.network rule)

/-- The list with what one numbered line says in front. -/
def addLine (filterId : Nat) (entry : List Char × Nat) (list : FilterList) : FilterList :=
  match parseLine entry.1 filterId with
  | .ok none => list
  | .ok (some rule) => { list with rules := rule :: list.rules }
  | .error error =>
    { list with errors := ⟨entry.2, String.ofList (Text.trim entry.1), error⟩ :: list.errors }

/-- What the text of a list says. -/
def parse (text : String) (filterId : Nat) : FilterList :=
  -- The lines are added from the last to the first, so that each goes in front.
  ((Text.lines text.toList).zipIdx 1).foldr (addLine filterId) ⟨[], []⟩

/-- What several lists say, one after the other. -/
def join (lists : List FilterList) : FilterList :=
  ⟨lists.flatMap (·.rules), lists.flatMap (·.errors)⟩

end FilterList

end AdFilter
