import AdFilter.Proofs.Content.Attributes
import AdFilter.Proofs.Selector.Identifier

/-! A rule about content selects the elements with its tag and its values, whatever is in the values. -/

namespace AdFilter.Content

variable {value rest tag : List Char} {entry : Entry} {entries : List Entry}

/-! ### Values between quotes -/

namespace Entry

/-- The tokens of a condition. -/
def tokens (entry : Entry) : List Css.Token := [
  .opens .square none, .part (.ident entry.name), .part (.valueMark '*'),
  .part (.string entry.value), .closes .square]

/-- What a condition is once its brackets have been matched. -/
def square (entry : Entry) : Css.Part :=
  .square [.ident entry.name, .valueMark '*', .string entry.value]

/-- What a condition asks of an element. -/
def test (entry : Entry) : Simple :=
  .hasValue (String.ofList entry.name) .part (String.ofList entry.value)
    (if Css.caselessAttributes.contains (Css.lowerName entry.name) then .foldedInHtml else .exact)

end Entry

example :
    let path : Element := ⟨⟨"path", [("lang", "en")], .svg⟩, [], []⟩
    (Entry.test ⟨"lang".toList, "EN".toList⟩).matches false [] path = false := by
  cbv

end AdFilter.Content
