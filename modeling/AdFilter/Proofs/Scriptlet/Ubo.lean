import AdFilter.Proofs.Scriptlet.Machine
import AdFilter.Proofs.Text.Search
import AdFilter.Scriptlet.Ubo

/-! What is read as a call in the dialect of uBO stands behind the first mark of the dialect. -/

namespace AdFilter.Scriptlet

namespace Ubo

variable {text before rest : List Char}

/-- The marks of the dialect are looked for wherever they may stand. -/
theorem afterMark?_eq_none_iff : afterMark? text = none ↔
    ¬ "##script:inject".toList <:+: text ∧ ¬ "+js".toList <:+: text := by
  induction text with
  | nil => decide
  | cons c rest step =>
    -- Neither mark begins here, and neither stands further on.
    simp only [afterMark?, Option.orElse_eq_or, Option.or_eq_none_iff, List.infix_cons_iff, step,
      Text.isPrefixOf?_eq_none_iff]
    tauto

/-- The marks of the dialect are not found in domains that have no part of them. -/
theorem afterMark?_append (unmarked : '#' ∉ before) (plain : ¬ "+js".toList <:+: before) :
    afterMark? (before ++ '#' :: rest) = afterMark? ('#' :: rest) := by
  induction before with
  | nil => rfl
  | cons c before step =>
    rw [List.mem_cons, not_or] at unmarked
    rw [List.infix_cons_iff, not_or] at plain
    -- One mark begins with a number sign, and the other one ends before any.
    have first : List.isPrefixOf? "##script:inject".toList (c :: (before ++ '#' :: rest)) = none :=
      Text.isPrefixOf?_eq_none_iff.mpr fun begins =>
        unmarked.1 (List.cons_prefix_cons.mp begins).1
    have second : List.isPrefixOf? "+js".toList (c :: (before ++ '#' :: rest)) = none := by
      rw [Text.isPrefixOf?_eq_none_iff, ← List.cons_append]
      exact mt (Text.prefix_of_prefix_append_cons (by decide)) plain.1
    rw [List.cons_append, afterMark?, first, second]
    exact step unmarked.2 plain.2

/-- The call of a text is the one that stands behind its mark. -/
theorem parse?_congr {text other : String} (same : afterMark? text.toList = some rest)
    (again : afterMark? other.toList = some rest) : parse? text = parse? other := by
  -- The text is read behind its mark only.
  simp only [parse?, same, again, Option.getD_some]

/-- A text without a mark has no call unless it begins with a parenthesis. -/
theorem parse?_eq_none {text : String} (unmarked : afterMark? text.toList = none)
    (closed : (Text.trimStart text.toList).head? ≠ some '(') : parse? text = none := by
  -- A parenthesis has to open before anything else is read.
  have skipped : text.toList.drop (text.toList.takeWhile Text.isBlank).length =
      Text.trimStart text.toList :=
    (congrArg (List.drop _) List.takeWhile_append_dropWhile.symm).trans List.drop_left
  obtain ⟨after, first⟩ : ∃ after,
      betweenParams { cursor := .start text.toList } = (some .error, after) := by
    simp only [betweenParams, Cursor.skipBlank, Cursor.skip, Cursor.start, skipped, Cursor.next]
    cases chars : Text.trimStart text.toList with
    | nil => simp
    | cons c rest => simp_all
  have stopped : run table .betweenParams { cursor := .start text.toList } = (.error, after) := by
    have opening : table.find? (·.fits .init .betweenParams) =
        some ⟨.init, .betweenParams, betweenParams, betweenParams_progress⟩ := rfl
    have closing : table.find? (·.fits .betweenParams .error) =
        some (.halt .betweenParams .error) := rfl
    rw [run, dispatch_of_next opening first, dispatch_of_last closing rfl]
  simp only [parse?, unmarked, Option.getD_none, stopped]

end Ubo

end AdFilter.Scriptlet
