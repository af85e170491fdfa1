/-! The UTF-8 bytes of a text and the measures and windows that are counted in bytes. -/

namespace AdFilter.Text

/-- The UTF-8 encoding of a text. -/
def bytes (text : List Char) : List UInt8 := text.flatMap String.utf8EncodeChar

/-- The length of the UTF-8 encoding. -/
def byteLength : List Char → Nat
  | [] => 0
  | c :: rest => c.utf8Size + byteLength rest

/-- The number of bytes is what the sizes of the characters add up to. -/
theorem length_bytes (text : List Char) : (bytes text).length = byteLength text := by
  induction text with
  | nil => rfl
  | cons c rest step =>
    -- Each character adds the size of its encoding to both.
    simp only [bytes, byteLength, List.flatMap_cons, List.length_append,
      String.length_utf8EncodeChar] at step ⊢
    rw [step]

/-- Texts in a row are encoded one after the other. -/
@[simp] theorem bytes_append (a b : List Char) : bytes (a ++ b) = bytes a ++ bytes b := by
  simp [bytes]

/-- Texts in a row are as long as the two together. -/
@[simp] theorem byteLength_append (a b : List Char) :
    byteLength (a ++ b) = byteLength a + byteLength b := by
  -- The sizes are added up along the first text.
  induction a with
  | nil => simp [byteLength]
  | cons c rest step => simp [byteLength, step, Nat.add_assoc]

/-- The beginning of a text that has a number of bytes. There is none behind the end of the text, and none
where it would end inside a character. -/
def takeBytes? : Nat → List Char → Option (List Char)
  | 0, _ => some []
  | _, [] => none
  | count, c :: rest =>
    if c.utf8Size ≤ count then (takeBytes? (count - c.utf8Size) rest).map (c :: ·) else none

/-- The parts of a text between the characters of a class, the first of the longest in bytes. -/
def longestPart (separator : Char → Bool) (text : List Char) : List Char :=
  (text.splitOnP separator).foldl
    (fun longest part => if byteLength longest < byteLength part then part else longest) []

/-- The windows of a fixed width, from left to right. -/
def windows (width : Nat) : List UInt8 → List (List UInt8)
  | [] => []
  | b :: rest =>
    -- Where the window does not fit any more the next one does not either.
    if width ≤ rest.length + 1 then (b :: rest).take width :: windows width rest else []

end AdFilter.Text
