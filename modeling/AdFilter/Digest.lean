import AdFilter.Text.Bytes

/-! The 32-bit digest of bytes by which tables of rules are keyed: times 33, then exclusive or. -/

namespace AdFilter.Digest

/-- The digest of no bytes. -/
def seed : UInt32 := 5381

/-- The digest of a row of bytes. -/
def ofBytes (bytes : List UInt8) : UInt32 :=
  bytes.foldl (fun digest byte => digest * 33 ^^^ byte.toUInt32) seed

/-- The digest of a text in UTF-8. -/
def ofText (text : String) : UInt32 := ofBytes (Text.bytes text.toList)

/-- The digest of the bytes from `start` to `stop`, that of no bytes unless both lie in the row. -/
def between (bytes : List UInt8) (start stop : Nat) : UInt32 :=
  if start ≤ stop ∧ stop ≤ bytes.length then ofBytes ((bytes.drop start).take (stop - start))
  else seed

end AdFilter.Digest
