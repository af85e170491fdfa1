import AdFilter.Scriptlet.Machine
import AdFilter.Text.Search

/-! Words that are gathered character by character. -/

namespace AdFilter.Scriptlet

/-- The word under way, in reverse, and the finished ones in order. -/
structure Capture where
  current : List Char := []
  words : List String := []

namespace Capture

/-- One more character. -/
def push (capture : Capture) (c : Char) : Capture := { capture with current := c :: capture.current }

/-- All characters of a text. -/
def pushText (capture : Capture) (text : List Char) : Capture :=
  { capture with current := text.reverse ++ capture.current }

/-- The word is finished. -/
def finish (capture : Capture) : Capture :=
  ⟨[], capture.words ++ [String.ofList capture.current.reverse]⟩

/-- The word is finished, without the white space around it. -/
def finishTrimmed (capture : Capture) : Capture :=
  ⟨[], capture.words ++ [String.ofList (Text.trim capture.current.reverse)]⟩

/-- The word is finished if there is one. -/
def finishNonEmpty (capture : Capture) : Capture :=
  if capture.current.isEmpty then capture else capture.finish

/-- The finished words, which are given away; the one under way stays. -/
def take (capture : Capture) : List String × Capture :=
  (capture.words, { capture with words := [] })

end Capture

/-- How much a reader may still do: two steps for each character, and those its action allows
without reading one. -/
def readerWork (action : State) (remaining : Nat) : Nat :=
  2 * remaining + match action with
    | .betweenParams => 2
    | .inParam => 1
    | _ => 0

end AdFilter.Scriptlet
