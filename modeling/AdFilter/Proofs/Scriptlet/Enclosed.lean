import Mathlib

/-! Bodies between delimiters, in which a backslash keeps a delimiter from closing the body. -/

namespace AdFilter.Scriptlet

variable {delimiter last : Char} {body : List Char}

/-- A delimiter behind the body closes it, and none within does. -/
structure Enclosed (delimiter : Char) (body : List Char) : Prop where
  /-- Each delimiter within the body has a backslash right before it there. -/
  escaped : ∀ before after, body = before ++ delimiter :: after → before.getLast? = some '\\'
  /-- The body does not end with a backslash. -/
  closed : body.getLast? ≠ some '\\'

/-- The same for what is left of a body, of which `last` has been read last. -/
def EnclosedAfter (delimiter : Char) : (last : Char) → List Char → Prop
  | last, [] => last ≠ '\\'
  | last, c :: body => (c = delimiter → last = '\\') ∧ EnclosedAfter delimiter c body

/-- What is left of a body is told by what stands before each delimiter, and at the end. -/
theorem enclosedAfter_iff : EnclosedAfter delimiter last body ↔
    (∀ before after, body = before ++ delimiter :: after → (last :: before).getLast? = some '\\') ∧
      (last :: body).getLast? ≠ some '\\' := by
  induction body generalizing last with
  | nil => simp [EnclosedAfter]
  | cons c body ih =>
    rw [EnclosedAfter, ih, List.getLast?_cons_cons, ← and_assoc]
    refine and_congr_left fun _ => ⟨?_, fun escaped => ⟨?_, ?_⟩⟩
    · rintro ⟨first, later⟩ before after whole
      -- The delimiter is the first character that is left, or it stands behind that.
      cases before with
      | nil =>
        obtain ⟨rfl, rfl⟩ := List.cons.inj whole
        simp [first rfl]
      | cons d before =>
        obtain ⟨rfl, rest⟩ := List.cons.inj whole
        rw [List.getLast?_cons_cons]
        exact later before after rest
    · rintro rfl
      simpa using escaped [] body rfl
    · rintro before after rfl
      simpa using escaped (c :: before) after rfl

/-- A body is read from the delimiter that opens it. -/
theorem enclosed_iff_after (plain : delimiter ≠ '\\') :
    Enclosed delimiter body ↔ EnclosedAfter delimiter delimiter body := by
  -- The delimiter that opens the body is no backslash, so it adds nothing to what is asked.
  have behind (before : List Char) :
      (delimiter :: before).getLast? = some '\\' ↔ before.getLast? = some '\\' := by
    cases before with
    | nil => simp [plain]
    | cons c before => rw [List.getLast?_cons_cons]
  rw [enclosedAfter_iff, ne_eq, behind]
  simp only [behind]
  exact ⟨fun enclosed => ⟨enclosed.escaped, enclosed.closed⟩, fun enclosed => ⟨enclosed.1, enclosed.2⟩⟩

end AdFilter.Scriptlet
