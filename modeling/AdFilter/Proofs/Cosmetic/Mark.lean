import AdFilter.Cosmetic.Compile
import AdFilter.Proofs.Text.Blank
import AdFilter.Proofs.Text.Search

/-! A line is cut at its first mark, and what stands there says which kind of rule it is compiled to. -/

namespace AdFilter.Cosmetic

section Cut

variable {marks : List String} {sign : Char} {before rest text : List Char}

/-- All marks begin with the same character. -/
def OpenWith (sign : Char) (marks : List String) : Prop :=
  ∀ mark ∈ marks, mark.toList.head? = some sign

theorem openWith_styleMarks : OpenWith '#' styleMarks := by
  unfold OpenWith
  -- There are finitely many of them.
  decide

theorem openWith_scriptMarks : OpenWith '#' scriptMarks := by
  unfold OpenWith
  decide

/-- No mark stands at the beginning of a text that begins with none. -/
theorem markAt?_eq_none_iff : markAt? marks text = none ↔ ∀ mark ∈ marks, ¬ mark.toList <+: text := by
  refine List.findSome?_eq_none_iff.trans (forall₂_congr fun mark _ => ?_)
  rw [Option.map_eq_none_iff, Text.isPrefixOf?_eq_none_iff]

/-- Where another character stands there is no mark. -/
theorem markAt?_eq_none_of_ne (opens : OpenWith sign marks) {c : Char} (other : c ≠ sign) :
    markAt? marks (c :: rest) = none := by
  refine markAt?_eq_none_iff.mpr fun mark member begins => ?_
  -- Both the mark and the text begin with a character, and these differ.
  obtain ⟨others, chars⟩ := List.head?_eq_some_iff.mp (opens mark member)
  rw [chars, List.cons_prefix_cons] at begins
  exact other begins.1.symm

/-- Text without the character that marks begin with is passed over. -/
theorem cutMark?_append (opens : OpenWith sign marks) (absent : sign ∉ before) :
    cutMark? marks (before ++ rest) =
      (cutMark? marks rest).map fun (front, found) => (before ++ front, found) := by
  -- No mark begins with any character of this text.
  induction before with
  | nil => simp
  | cons c before step =>
    rw [List.mem_cons, not_or] at absent
    rw [List.cons_append, cutMark?, markAt?_eq_none_of_ne opens (Ne.symm absent.1)]
    simp [step absent.2, Function.comp_def]

/-- A mark is looked for wherever it may stand. -/
theorem cutMark?_eq_none_iff (opens : OpenWith sign marks) :
    cutMark? marks text = none ↔ ∀ mark ∈ marks, ¬ mark.toList <:+: text := by
  induction text with
  | nil =>
    -- Nothing is left, and no mark is empty.
    refine iff_of_true rfl fun mark member inside => ?_
    have head := opens mark member
    simp [List.infix_nil.mp inside] at head
  | cons c rest step =>
    -- A mark stands right here or further behind, as the search looks for it.
    simp only [List.infix_cons_iff, not_or, forall_and, ← markAt?_eq_none_iff, ← step]
    rw [cutMark?]
    cases markAt? marks (c :: rest) <;> simp

/-- What is read behind a mark is the end of the line. -/
theorem suffix_of_cutMark? {mark : String} {body : List Char}
    (cut : cutMark? marks text = some (before, mark, body)) : body <:+ text := by
  induction text generalizing before with
  | nil => cases cut
  | cons c text step =>
    rw [cutMark?] at cut
    -- The mark is found here, or in what is left of the text.
    split at cut
    · rename_i found
      cases cut
      obtain ⟨mark, -, found⟩ := List.exists_of_findSome?_eq_some found
      obtain ⟨body, begins, same⟩ := Option.map_eq_some_iff.mp found
      cases same
      exact ⟨_, List.isPrefixOf?_eq_some_iff_append_eq.mp begins⟩
    · obtain ⟨⟨front, found⟩, cut, same⟩ := Option.map_eq_some_iff.mp cut
      cases same
      exact (step cut).trans (List.suffix_cons c text)

end Cut

/-- The marks of rules that put something into a page; each has a form of its own for exceptions. -/
inductive Mark
  | style (inject extended : Bool)
  | script

namespace Mark

/-- How a mark is written, for exceptions and for other rules. -/
def text : Mark → (isException : Bool) → String
  | style false false, false => "##"
  | style false false, true => "#@#"
  | style false true, false => "#?#"
  | style false true, true => "#@?#"
  | style true false, false => "#$#"
  | style true false, true => "#@$#"
  | style true true, false => "#$?#"
  | style true true, true => "#@$?#"
  | script, false => "#%#"
  | script, true => "#@%#"

/-- The marks that are looked for together with a mark. -/
def siblings : Mark → List String
  | style _ _ => styleMarks
  | script => scriptMarks

/-- What compiles the lines with a mark. -/
def compile : Mark → String → Nat → Except RuleError Rule
  | style _ _ => compileStyle
  | script => compileScript

/-- A line with a mark between the domains and the body. -/
def line (mark : Mark) (isException : Bool) (before body : List Char) : List Char :=
  before ++ (mark.text isException).toList ++ body

theorem openWith_siblings (mark : Mark) : OpenWith '#' mark.siblings := by
  -- Each of the two families opens with the same sign.
  cases mark
  · exact openWith_styleMarks
  · exact openWith_scriptMarks

/-- A mark begins and ends with the same character. -/
theorem exists_toList_text (mark : Mark) (isException : Bool) :
    ∃ inside, (mark.text isException).toList = '#' :: inside ++ ['#'] := by
  refine ⟨(mark.text isException).toList.tail.dropLast, ?_⟩
  -- There are ten marks, and each of them is long enough for both ends.
  rcases mark with ⟨_ | _, _ | _⟩ | _ <;> cases isException <;> rfl

/-- Where a mark stands no other one is read. -/
theorem cutMark?_text (mark : Mark) (isException : Bool) (body : List Char) :
    cutMark? mark.siblings ((mark.text isException).toList ++ body) =
      some ([], mark.text isException, body) := by
  -- No mark of a family is taken for another one.
  rcases mark with ⟨_ | _, _ | _⟩ | _ <;> cases isException <;> rfl

/-- A line is cut at its first mark. -/
theorem cutMark?_line (mark : Mark) (isException : Bool) {before : List Char}
    (unmarked : '#' ∉ before) (body : List Char) :
    cutMark? mark.siblings (mark.line isException before body) =
      some (before, mark.text isException, body) := by
  -- What stands in front has no sign that a mark opens with.
  rw [line, List.append_assoc, cutMark?_append mark.openWith_siblings unmarked, cutMark?_text]
  simp

/-- White space is cut off in front of the domains and behind the body. -/
theorem trim_line (mark : Mark) (isException : Bool) (before body : List Char) :
    Text.trim (mark.line isException before body) =
      mark.line isException (Text.trimStart before) (Text.trimEnd body) := by
  -- Both ends of the mark are kept, and all that stands between them.
  obtain ⟨inside, chars⟩ := mark.exists_toList_text isException
  rw [line, line, chars, Text.trim_around (by decide) (by decide)]

/-- The rule that a body stands for behind a mark, whatever rule it is. -/
def ruleOf (mark : Mark) (info : RuleInfo) (line body : List Char) (domains : Domains) :
    Except RuleError Rule :=
  match mark with
  | style inject extended =>
    if !inject && !extended && isUboBody body then scriptletRule info .ubo line body domains
    else if inject && !extended && !hasStyleBlock body then
      scriptletRule info .abp body body domains
    else styleRule info inject extended body domains
  | script =>
    if "//scriptlet".toList.isPrefixOf (Text.trimStart body) then
      scriptletRule info .native body body domains
    else .ok (.script ⟨info, String.ofList body, domains⟩)

/-- The rule of a line with a mark, from what stands before the mark and behind it. -/
def ruleAt (mark : Mark) (isException : Bool) (before body : List Char) (filterId : Nat) :
    Except RuleError Rule := do
  let line := mark.line isException before body
  let domains ← domainsBefore before
  if (Text.trim body).isEmpty then .error .emptyBody
  else mark.ruleOf ⟨String.ofList line, filterId, isException⟩ line body domains

/-- A line is compiled to the rule at its first mark. -/
theorem compile_line (mark : Mark) (isException : Bool) {before : List Char}
    (unmarked : '#' ∉ before) (body : List Char) (filterId : Nat) :
    mark.compile (String.ofList (mark.line isException before body)) filterId =
      mark.ruleAt isException (Text.trimStart before) (Text.trimEnd body) filterId := by
  have unmarked := Text.not_mem_trimStart unmarked
  have cut := mark.cutMark?_line isException unmarked (Text.trimEnd body)
  -- The mark that is found spells out what the rule is given for it.
  cases mark with
  | style inject extended =>
    simp only [siblings] at cut
    simp only [compile, compileStyle, String.toList_ofList, trim_line, cut]
    rcases inject with _ | _ <;> rcases extended with _ | _ <;> cases isException <;> rfl
  | script =>
    simp only [siblings] at cut
    simp only [compile, compileScript, String.toList_ofList, trim_line, cut]
    cases isException <;> rfl

end Mark

end AdFilter.Cosmetic
