import AdFilter.Proofs.Regex.Search
import AdFilter.Proofs.Text.AsciiCase

/-! Expressions that do not tell capital letters of ASCII from small ones. -/

namespace AdFilter

/-- The set holds a letter of ASCII just if it holds the small one. -/
def CharSet.IgnoresCase (set : CharSet) : Prop := ∀ c : Char, set.has c.toLower = set.has c

namespace CharSet

/-- A set that is closed under case ignores case. -/
theorem ignoresCase_folded (set : CharSet) : (folded set).IgnoresCase := by
  intro c
  -- A letter and its small letter have the same variants.
  simp only [has, Text.caseVariants_toLower]

/-- What is not in a set that ignores case ignores it as well. -/
theorem IgnoresCase.compl {set : CharSet} (ignores : set.IgnoresCase) : (compl set).IgnoresCase := by
  intro c
  -- What is not in the set is not in it in small letters either.
  simp only [has, ignores c]

/-- The set of a character that is not a letter ignores case. -/
theorem ignoresCase_only {c : Char} (caseless : c.isAlpha = false) : (only c).IgnoresCase := by
  intro d
  -- A character without case is the small letter of no other one.
  simp only [has_only, eq_comm (a := c), Text.toLower_eq_iff caseless]

end CharSet

namespace Regex

/-- All sets of the expression ignore case, and it looks at no more than the ends of the text. -/
def IgnoresCase : Regex → Prop
  | .empty => True
  | .chars set => set.IgnoresCase
  | .look anchor => anchor = .textStart ∨ anchor = .textEnd
  | .cat r s | .alt r s => r.IgnoresCase ∧ s.IgnoresCase
  | .times r _ _ => r.IgnoresCase

/-- A row of expressions that ignore case ignores it. -/
theorem ignoresCase_cats {exprs : List Regex} (all : ∀ r ∈ exprs, r.IgnoresCase) :
    (cats exprs).IgnoresCase := by
  induction exprs with
  | nil => trivial
  | cons r exprs ih =>
    -- A row of one expression is that expression, so whether more follows is told apart.
    cases exprs with
    | nil => exact all r (by simp)
    | cons s exprs => exact ⟨all r (by simp), ih fun t member => all t (by simp [member])⟩

/-- A choice among expressions that ignore case ignores it. -/
theorem ignoresCase_alts {exprs : List Regex} (all : ∀ r ∈ exprs, r.IgnoresCase) :
    (alts exprs).IgnoresCase := by
  induction exprs with
  | nil => exact fun _ => rfl
  | cons r exprs ih =>
    -- One expression is not joined to anything, and more of them are joined one by one.
    cases exprs with
    | nil => exact all r (by simp)
    | cons s exprs => exact ⟨all r (by simp), ih fun t member => all t (by simp [member])⟩

variable {r s : Regex} {before after : Option Char} {c : Char}

/-- Whether the empty word matches does not depend on the case of what stands around. -/
theorem nullable_toLower (ignores : r.IgnoresCase) (before after : Option Char) :
    nullable (before.map Char.toLower) (after.map Char.toLower) r = nullable before after r := by
  -- Only the ends of the text are looked for, and small letters do not move them.
  induction r with
  | empty | chars => rfl
  | look anchor => rcases ignores with rfl | rfl <;> simp [nullable, Anchor.holds]
  | cat r s ihr ihs | alt r s ihr ihs => simp only [nullable, ihr ignores.1, ihs ignores.2]
  | times r least most ih => simp only [nullable, ih ignores]

/-- Whether any of several expressions matches the empty word does not depend on that case, either. -/
theorem any_nullable_toLower {exprs : List Regex} (all : ∀ r ∈ exprs, r.IgnoresCase)
    (before after : Option Char) :
    exprs.any (nullable (before.map Char.toLower) (after.map Char.toLower)) =
      exprs.any (nullable before after) := by
  rw [Bool.eq_iff_iff, List.any_eq_true, List.any_eq_true]
  -- The same expressions are asked on both sides, one by one.
  exact exists_congr fun r => and_congr_right fun member => by
    rw [nullable_toLower (all r member)]

/-- What may follow a character does not depend on its case, nor on the case of the one before it. -/
theorem step_toLower (ignores : r.IgnoresCase) :
    step (before.map Char.toLower) c.toLower r = step before c r := by
  -- Behind the first part of a row, the second may go on only where the first can be empty.
  have empty {r : Regex} (ignores : r.IgnoresCase) :
      nullable (before.map Char.toLower) (some c.toLower) r = nullable before (some c) r :=
    nullable_toLower ignores before (some c)
  induction r with
  | empty | look => rfl
  | chars set => simp only [step, ignores c]
  | cat r s ihr ihs => simp only [step, ihr ignores.1, ihs ignores.2, empty ignores.1]
  | alt r s ihr ihs => simp only [step, ihr ignores.1, ihs ignores.2]
  | times r least most ih => simp only [step, ih ignores, empty (show r.IgnoresCase from ignores)]

/-- What follows a character ignores case like the whole. -/
theorem ignoresCase_step (ignores : r.IgnoresCase) (member : s ∈ step before c r) : s.IgnoresCase :=
  -- What follows is made of parts of the expression, and the property passes to them.
  of_mem_step trivial (fun _ _ => Iff.rfl) (fun _ _ => id) (fun _ _ _ => id)
    (fun _ _ _ _ inner _ _ => inner) ignores member

/-- The search goes on in the same way through a text in small letters. -/
theorem searchFrom_toLower {start : Regex} (ignores : start.IgnoresCase) {live : List Regex}
    (all : ∀ r ∈ live, r.IgnoresCase) (before : Option Char) (text : List Char) :
    searchFrom start (before.map Char.toLower) live (text.map Char.toLower) =
      searchFrom start before live text := by
  -- Which expressions are live changes on the way, but all of them ignore case.
  induction text generalizing before live with
  | nil => exact any_nullable_toLower (List.forall_mem_cons.mpr ⟨ignores, all⟩) before none
  | cons c text ih =>
    have all : ∀ r ∈ start :: live, r.IgnoresCase := List.forall_mem_cons.mpr ⟨ignores, all⟩
    have here : (start :: live).any (nullable (before.map Char.toLower) (some c.toLower)) =
        (start :: live).any (nullable before (some c)) := any_nullable_toLower all before (some c)
    -- What follows the character is the same, and ignores case as well.
    have next : (start :: live).flatMap (step (before.map Char.toLower) c.toLower) =
        (start :: live).flatMap (step before c) :=
      List.flatMap_congr fun r member => step_toLower (all r member)
    have further : ∀ s ∈ distinctBy id ((start :: live).flatMap (step before c)), s.IgnoresCase := by
      intro s member
      obtain ⟨r, inside, follows⟩ := List.mem_flatMap.mp (mem_distinctBy_id.mp member)
      exact ignoresCase_step (all r inside) follows
    have rest : searchFrom start (some c.toLower)
        (distinctBy id ((start :: live).flatMap (step before c))) (text.map Char.toLower) =
        searchFrom start (some c) (distinctBy id ((start :: live).flatMap (step before c))) text :=
      ih further (some c)
    rw [List.map_cons, searchFrom, searchFrom, here, next, rest]

/-- A search for an expression that ignores case ignores the case of the text. -/
theorem search_toLower (ignores : r.IgnoresCase) (text : List Char) :
    r.search (text.map Char.toLower) = r.search text :=
  -- The search begins at the front, where no character stands before.
  searchFrom_toLower ignores (by simp) none text

end Regex

end AdFilter
