import AdFilter.Text.BinaryTable
import AdFilter.Text.CategoryTable
import AdFilter.Text.ScriptTable
import AdFilter.Text.Table

/-! Unicode properties by name, as expressions refer to them. -/

namespace AdFilter.Text

/-- The normal form of a property name: small letters without blanks, hyphens and low lines, and
without a leading "is". -/
def propertyName (name : List Char) : List Char :=
  let tail := match name with
    | 'i' :: 's' :: rest | 'I' :: 's' :: rest | 'i' :: 'S' :: rest | 'I' :: 'S' :: rest => rest
    | _ => name
  let kept := tail.filter fun c => c.toNat < 128 && c != ' ' && c != '_' && c != '-'
  let small := lowerLetters kept
  -- The name of the property ISO_Comment would shrink to that of the category Other.
  if tail.length < name.length && small == ['c'] then ['i', 's', 'c'] else small
where
  lowerLetters (text : List Char) : List Char := text.map Char.toLower

/-- The text of the entry that answers to a name. -/
def lookupIn (table : List (String × String)) (name : List Char) : Option String :=
  (table.find? fun (names, _) => (names.toList.splitOn ' ').contains name).map (·.2)

/-- The characters of a general category, given by its name in normal form. -/
def category? (name : List Char) : Option Ranges :=
  if name = "any".toList then some [(0, 0x10FFFF)]
  else if name = "ascii".toList then some [(0, 0x7F)]
  else if name = "assigned".toList then
    -- All that is not unassigned is in one of the other categories.
    some ((categoryTable.filter fun (names, _) => !names.startsWith "cn ").flatMap
      fun (_, text) => readRanges text)
  else match lookupIn categoryGroups name with
    | some members => some <|
        (members.toList.splitOn ' ').flatMap fun member =>
          ((lookupIn categoryTable member).map readRanges).getD []
    | none => (lookupIn categoryTable name).map readRanges

/-- The characters of a property that is asked for by one name. -/
def namedProperty? (name : List Char) : Option Ranges :=
  let name := propertyName name
  let binary :=
    -- Three abbreviations of other properties mean categories here.
    if name = ['c', 'f'] || name = ['s', 'c'] || name = ['l', 'c'] then none
    else (lookupIn binaryTable name).map readRanges
  binary <|> category? name <|> (lookupIn scriptTable name).map readRanges

/-- The characters for which a property has a value. -/
def valuedProperty? (property value : List Char) : Option Ranges :=
  let property := String.ofList (propertyName property)
  let value := propertyName value
  if property = "gc" || property = "generalcategory" then category? value
  else if property = "sc" || property = "script" then (lookupIn scriptTable value).map readRanges
  else if property = "scx" || property = "scriptextensions" then
    (lookupIn scriptExtensionTable value).map readRanges
  else none

end AdFilter.Text
