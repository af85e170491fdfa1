import AdFilter.Content.Compile
import AdFilter.Proofs.Cosmetic.Mark

/-! A line about content is cut at its mark, if no mark for exceptions stands behind another one. -/

namespace AdFilter.Content

variable {before rest body : List Char} {mark : String}

/-- The mark of rules about content, for exceptions and for other rules. -/
def markText : (isException : Bool) → String
  | false => "$$"
  | true => "$@$"

/-- Cutting at a word is cutting at the first of one mark. -/
theorem cutFirst?_eq_cutMark? (filled : mark.toList ≠ []) (text : List Char) :
    Text.cutFirst? mark.toList text =
      (Cosmetic.cutMark? [mark] text).map fun (before, _, body) => (before, body) := by
  induction text with
  | nil => simp [Text.cutFirst?, Cosmetic.cutMark?, filled]
  | cons c rest step =>
    -- Both go on to the next character where the mark does not begin here.
    rw [Text.cutFirst?, Cosmetic.cutMark?, step]
    cases begins : List.isPrefixOf? mark.toList (c :: rest) <;>
      simp [Cosmetic.markAt?, begins, Function.comp_def]

/-- Text without dollar signs is passed over. -/
theorem cutFirst?_append (opens : Cosmetic.OpenWith '$' [mark]) (absent : '$' ∉ before) :
    Text.cutFirst? mark.toList (before ++ rest) =
      (Text.cutFirst? mark.toList rest).map fun (front, body) => (before ++ front, body) := by
  -- The mark begins with a dollar sign, so it is not empty.
  have filled : mark.toList ≠ [] := fun empty => by
    simpa [empty] using opens mark (List.mem_singleton.mpr rfl)
  rw [cutFirst?_eq_cutMark? filled, cutFirst?_eq_cutMark? filled,
    Cosmetic.cutMark?_append opens absent]
  simp [Function.comp_def]

/-- A line with the mark of rules about content between the domains and the body. -/
def line (isException : Bool) (before body : List Char) : List Char :=
  before ++ (markText isException).toList ++ body

/-- A line is cut at its mark, unless that for exceptions stands further behind. -/
theorem cutMark?_line (isException : Bool) (absent : '$' ∉ before)
    (alone : isException = false → ¬ "$@$".toList <:+: "$$".toList ++ body) :
    cutMark? (line isException before body) = some (before, body, isException) := by
  have exceptions : Cosmetic.OpenWith '$' ["$@$"] := by unfold Cosmetic.OpenWith; decide
  have others : Cosmetic.OpenWith '$' ["$$"] := by unfold Cosmetic.OpenWith; decide
  rw [line, List.append_assoc, cutMark?, cutFirst?_append exceptions absent]
  cases isException with
  | true =>
    -- The mark stands right behind the domains, so it is the first to be found.
    rw [show Text.cutFirst? "$@$".toList ((markText true).toList ++ body) = some ([], body) from rfl]
    simp
  | false =>
    -- The mark for exceptions is looked for first, and in the whole line.
    have missing : Text.cutFirst? "$@$".toList ("$$".toList ++ body) = none := by
      rw [cutFirst?_eq_cutMark? (by decide), Option.map_eq_none_iff,
        Cosmetic.cutMark?_eq_none_iff exceptions]
      simpa using alone rfl
    rw [show (markText false).toList = "$$".toList from rfl, missing, Option.map_none,
      cutFirst?_append others absent,
      show Text.cutFirst? "$$".toList ("$$".toList ++ body) = some ([], body) from rfl]
    simp

/-- White space is cut off in front of the domains and behind the body. -/
theorem trim_line (isException : Bool) (before body : List Char) :
    Text.trim (line isException before body) =
      line isException (Text.trimStart before) (Text.trimEnd body) := by
  -- Each mark has a dollar sign at both its ends, so no white space is cut off inside of it.
  obtain ⟨inside, chars⟩ : ∃ inside, (markText isException).toList = '$' :: inside ++ ['$'] := by
    refine ⟨(markText isException).toList.tail.dropLast, ?_⟩
    cases isException <;> rfl
  rw [line, line, chars, Text.trim_around (by decide) (by decide)]

/-- The rule of a line about content, from what stands before its mark and behind it. -/
def ruleAt (isException : Bool) (before body : List Char) (filterId : Nat) :
    Except RuleError ContentRule := do
  let domains ← Cosmetic.domainsBefore before
  if !isException && domains.isGeneric then .error .noPermittedDomain
  else
    let tagName := Text.trim (body.takeWhile (· != '['))
    let settings ← (attributesFrom (body.length + 1) body).foldlM Settings.add { selector := tagName }
    let selectorText := String.ofList settings.selector
    match Css.parse? selectorText with
    | none => .error (.badSelector selectorText)
    | some selector =>
      return {
        info := ⟨String.ofList (line isException before body), filterId, isException⟩
        tagName := String.ofList tagName
        selector
        selectorText
        elementsFilter := String.ofList body
        tagContent := settings.tagContent
        wildcard := settings.wildcard
        minLength := settings.minLength
        maxLength := settings.maxLength
        parentElements := settings.parentElements
        parentSearchLevel := settings.parentSearchLevel
        domains }

/-- A line about content is compiled to the rule at its mark. -/
theorem compile_line (isException : Bool) (absent : '$' ∉ before) (filterId : Nat)
    (alone : isException = false → ¬ "$@$".toList <:+: "$$".toList ++ Text.trimEnd body) :
    compile (String.ofList (line isException before body)) filterId =
      ruleAt isException (Text.trimStart before) (Text.trimEnd body) filterId := by
  -- Cutting off white space brings no dollar sign into the domains.
  have absent := Text.not_mem_trimStart absent
  simp only [compile, String.toList_ofList, trim_line, cutMark?_line isException absent alone,
    ruleAt, Cosmetic.domainsBefore]
  split <;> rfl

end AdFilter.Content
