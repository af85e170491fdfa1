import AdFilter.Proofs.Text.AsciiCase
import AdFilter.Proofs.Text.Blank
import AdFilter.Selector.Token

/-! An identifier is read as one token, up to the bracket or the mark that stands behind it. -/

namespace AdFilter.Css

/-- A letter, a low line or a character beyond ASCII, with which an identifier may begin. -/
def StartsIdentifier (c : Char) : Prop := c.isAlpha = true ∨ c = '_' ∨ 128 ≤ c.toNat

instance (c : Char) : Decidable (StartsIdentifier c) :=
  inferInstanceAs (Decidable (c.isAlpha = true ∨ c = '_' ∨ 128 ≤ c.toNat))

/-- A character that may stand in an identifier behind its start. -/
def InIdentifier (c : Char) : Prop := StartsIdentifier c ∨ c.isDigit = true ∨ c = '-'

instance (c : Char) : Decidable (InIdentifier c) :=
  inferInstanceAs (Decidable (StartsIdentifier c ∨ c.isDigit = true ∨ c = '-'))

/-- An identifier that is written without escapes. -/
inductive IsIdentifier : List Char → Prop
  | letter {c : Char} {rest : List Char} (starts : StartsIdentifier c)
      (others : ∀ d ∈ rest, InIdentifier d) : IsIdentifier (c :: rest)
  | dash {c : Char} {rest : List Char} (starts : StartsIdentifier c ∨ c = '-')
      (others : ∀ d ∈ rest, InIdentifier d) : IsIdentifier ('-' :: c :: rest)

variable {c d : Char} {text rest : List Char}

/-! ### Characters -/

/-- The first character of an identifier is a dash, if it starts none by itself. -/
theorem IsIdentifier.starts (identifier : IsIdentifier (c :: text)) :
    StartsIdentifier c ∨ c = '-' := by
  cases identifier with
  | letter starts others => exact .inl starts
  | dash starts others => exact .inr rfl

/-- All characters of an identifier may stand in one. -/
theorem IsIdentifier.inIdentifier (identifier : IsIdentifier text) : ∀ c ∈ text, InIdentifier c := by
  cases identifier with
  | letter starts others => exact List.forall_mem_cons.mpr ⟨.inl starts, others⟩
  | dash starts others =>
    -- A hyphen in front is followed by a letter or another hyphen.
    rename_i c rest
    have second : InIdentifier c := starts.elim .inl fun dash => .inr (.inr dash)
    have first : InIdentifier '-' := by decide
    exact List.forall_mem_cons.mpr ⟨first, List.forall_mem_cons.mpr ⟨second, others⟩⟩

/-- No white space stands around an identifier of ASCII characters. -/
theorem IsIdentifier.trim_eq (identifier : IsIdentifier text) (ascii : ∀ c ∈ text, c.toNat < 128) :
    Text.trim text = text := by
  apply Text.trim_eq_self_of_filled
  intro c member
  -- There are finitely many characters in ASCII, each of them looked at.
  have apart : InIdentifier c → Text.isBlank c = false :=
    Text.forall_ascii (P := fun c => InIdentifier c → Text.isBlank c = false) (by decide)
      (ascii c member)
  exact apart (identifier.inIdentifier c member)

/-! ### Tokens -/

end AdFilter.Css
