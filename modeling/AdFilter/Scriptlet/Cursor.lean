import AdFilter.Text.Search

/-! A place in a text that moves forward as the text is read. -/

namespace AdFilter.Scriptlet

/-- A place in a text: the characters before it, nearest first, and those that follow. -/
structure Cursor where
  passed : List Char
  rest : List Char

namespace Cursor

/-- The start of a text. -/
def start (text : List Char) : Cursor := ⟨[], text⟩

/-- The number of characters before the place. -/
def position (cursor : Cursor) : Nat := cursor.passed.length

/-- The number of characters in the whole text. -/
def count (cursor : Cursor) : Nat := cursor.passed.length + cursor.rest.length

/-- The next character, and the place behind it. -/
def next (cursor : Cursor) : Option Char × Cursor :=
  match cursor.rest with
  | [] => (none, cursor)
  | c :: rest => (some c, ⟨c :: cursor.passed, rest⟩)

/-- The next character. -/
def peek (cursor : Cursor) : Option Char := cursor.rest.head?

/-- The character before the one that was read last. -/
def beforeLast (cursor : Cursor) : Option Char := cursor.passed[1]?

/-- The place behind some characters more. -/
def skip (cursor : Cursor) (n : Nat) : Cursor :=
  ⟨(cursor.rest.take n).reverse ++ cursor.passed, cursor.rest.drop n⟩

/-- The place behind all white space that follows. -/
def skipBlank (cursor : Cursor) : Cursor :=
  cursor.skip (cursor.rest.takeWhile Text.isBlank).length

/-- The place behind the first characters of the text, its end at most. -/
def moveTo (cursor : Cursor) (n : Nat) : Cursor :=
  (start (cursor.passed.reverse ++ cursor.rest)).skip n

theorem length_of_next {cursor after : Cursor} {c : Char} (moved : cursor.next = (some c, after)) :
    cursor.rest.length = after.rest.length + 1 := by
  unfold next at moved
  -- A character was read, so there was one.
  split at moved <;> simp_all
  exact moved.2 ▸ rfl

theorem rest_skipBlank_le (cursor : Cursor) :
    cursor.skipBlank.rest.length ≤ cursor.rest.length := by
  -- What is passed over is taken off the rest.
  simp [skipBlank, skip]

end Cursor

end AdFilter.Scriptlet
