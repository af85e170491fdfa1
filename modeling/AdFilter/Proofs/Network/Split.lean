import AdFilter.Network.Text
import AdFilter.Proofs.Text.Search
import Mathlib.Data.List.Basic

/-!
Options with dollar signs that are escaped when a rule is written, and how many of these are restored when it
is cut into its parts.
-/

namespace AdFilter

namespace Network

/-- A character of the options as it is written. -/
def escapeDollar (c : Char) : List Char := if c = '$' then ['\\', '$'] else [c]

/-- Options with a backslash before each dollar sign. -/
def escapeDollars (text : List Char) : List Char := text.flatMap escapeDollar

section Escape

variable {text more : List Char} {c : Char}

@[simp] theorem escapeDollars_append :
    escapeDollars (text ++ more) = escapeDollars text ++ escapeDollars more :=
  List.flatMap_append

@[simp] theorem escapeDollars_cons : escapeDollars (c :: text) = escapeDollar c ++ escapeDollars text :=
  List.flatMap_cons

/-- A text without dollar signs is written as it is. -/
theorem escapeDollars_of_notMem (absent : '$' ∉ text) : escapeDollars text = text := by
  induction text with
  | nil => rfl
  | cons c text ih =>
    simp only [List.mem_cons, not_or] at absent
    -- No character is a dollar sign, so each is left as it is.
    rw [escapeDollars_cons, escapeDollar, if_neg (Ne.symm absent.1), ih absent.2, List.singleton_append]

/-- Each dollar sign makes a text longer by its backslash. -/
theorem length_escapeDollars (text : List Char) :
    (escapeDollars text).length = text.length + text.count '$' := by
  induction text with
  | nil => rfl
  | cons c text ih =>
    rw [escapeDollars_cons, List.length_append, ih]
    -- Only a dollar sign is written with two characters.
    by_cases dollar : c = '$'
    · simp only [dollar, escapeDollar, if_pos, List.length_cons, List.length_nil, List.count_cons_self]
      omega
    · simp only [escapeDollar, if_neg dollar, List.length_cons, List.length_nil,
        List.count_cons_of_ne dollar]
      omega

/-- A text is written as it is just if no dollar sign is in it. -/
theorem escapeDollars_eq_self_iff : escapeDollars text = text ↔ text.count '$' = 0 := by
  refine ⟨fun same => ?_, fun none => escapeDollars_of_notMem (List.count_eq_zero.mp none)⟩
  -- Every dollar sign makes the text longer by one.
  have long := length_escapeDollars text
  rw [same] at long
  omega

/-- Where a dollar sign was escaped, the first one is restored and those behind it are not. -/
theorem replaceFirst_escapeDollars (absent : '$' ∉ text) :
    Text.replaceFirst ['\\', '$'] ['$'] (escapeDollars (text ++ '$' :: more)) =
      text ++ '$' :: escapeDollars more := by
  have clear : ¬ ['\\', '$'] <:+: text := fun inside => absent (inside.subset (by simp))
  -- A backslash that stands in the text itself has no dollar sign behind it yet.
  have first : Text.replaceFirst ['\\', '$'] ['$'] (text ++ '\\' :: (['$'] ++ escapeDollars more)) =
      text ++ ['$'] ++ escapeDollars more := Text.replaceFirst_append (by decide) clear
  rw [escapeDollars_append, escapeDollars_cons, escapeDollars_of_notMem absent]
  simpa [escapeDollar] using first

end Escape

section Cut

variable {pattern options after before : List Char} {escaped : Bool}

/-- A character is passed with its backslash, and a dollar sign is seen to have one. -/
theorem cutOptions?_escapeDollar (c : Char) :
    cutOptions? after escaped ((escapeDollar c).reverse ++ before) =
      cutOptions? (escapeDollar c ++ after) (escaped || c == '$') before := by
  -- Read backwards, the dollar sign comes first and its backslash is the next one.
  by_cases dollar : c = '$'
  · subst dollar
    simp [escapeDollar, cutOptions?]
  · have other : (c == '$') = false := beq_eq_false_iff_ne.mpr dollar
    simp [escapeDollar, cutOptions?, dollar, other]

/-- Escaped options are passed as a whole, and it is seen whether there is a dollar sign in them. -/
theorem cutOptions?_escapeDollars :
    cutOptions? after escaped ((escapeDollars options).reverse ++ before) =
      cutOptions? (escapeDollars options ++ after) (escaped || options.contains '$') before := by
  -- The scan runs backwards, so the first character is the last one that is passed.
  induction options generalizing before with
  | nil => simp [escapeDollars]
  | cons c options ih =>
    have seen : (escaped || options.contains '$' || c == '$') =
        (escaped || (c :: options).contains '$') := by
      rw [List.contains_cons, BEq.comm, Bool.or_assoc, Bool.or_comm (_ == _)]
    rw [escapeDollars_cons, List.reverse_append, List.append_assoc, ih, cutOptions?_escapeDollar, seen,
      List.append_assoc]

/-- The last character of the options is not looked at, so that no dollar sign is seen there. -/
theorem cutOptions?_last (c : Char) (escaped : Bool) (before : List Char) :
    ∃ d behind, (escapeDollar c).reverse ++ before = d :: behind ∧
      cutOptions? [d] escaped behind = cutOptions? (escapeDollar c) escaped before := by
  by_cases dollar : c = '$'
  · -- Of an escaped dollar sign only the backslash is looked at.
    subst dollar
    exact ⟨'$', '\\' :: before, by simp [escapeDollar], by simp [escapeDollar, cutOptions?]⟩
  · exact ⟨c, before, by simp [escapeDollar, dollar], by simp [escapeDollar, dollar]⟩

/-- What is read from options that are written with their dollar signs escaped. -/
def restored (options : List Char) : List Char :=
  if options.dropLast.contains '$' then Text.replaceFirst ['\\', '$'] ['$'] (escapeDollars options)
  else escapeDollars options

/-- Options that are written with their dollar signs escaped are cut off the pattern. -/
theorem splitBody_escapeDollars (filled : pattern ≠ []) (basic : pattern.head? ≠ some '/')
    (ends : pattern.getLast? ≠ some '\\') (given : options ≠ []) :
    splitBody (pattern ++ '$' :: escapeDollars options) = (pattern, some (restored options)) := by
  have plain : isSlashed (pattern ++ '$' :: escapeDollars options) = false := by
    simp [isSlashed, List.head?_append_of_ne_nil _ filled, basic]
  obtain ⟨init, last, rfl⟩ := (List.eq_nil_or_concat options).resolve_left given
  rw [List.concat_eq_append] at plain ⊢
  -- The last character is not looked at, so the scan begins with what stands before it.
  obtain ⟨d, behind, whole, here⟩ := cutOptions?_last last false
    ((escapeDollars init).reverse ++ '$' :: pattern.reverse)
  have reversed : (pattern ++ '$' :: escapeDollars (init ++ [last])).reverse = d :: behind := by
    rw [← whole]
    simp [escapeDollars]
  -- No backslash stands before the dollar sign of the options, as that would end the pattern.
  have stop : cutOptions? (escapeDollars (init ++ [last])) (init.contains '$')
      ('$' :: pattern.reverse) =
        some (pattern, escapeDollars (init ++ [last]), init.contains '$') := by
    simp [cutOptions?, ends]
  have cut : cutOptions? [d] false behind =
      some (pattern, escapeDollars (init ++ [last]), init.contains '$') := by
    rw [here, cutOptions?_escapeDollars, ← stop]
    simp [escapeDollars]
  rw [splitBody, plain, reversed, restored, List.dropLast_concat]
  simp [cut]

/-- The options are restored just if there is at most one dollar sign in them, and not at the end. -/
theorem restored_eq_iff :
    restored options = options ↔ options.count '$' ≤ 1 ∧ options.getLast? ≠ some '$' := by
  rcases List.eq_nil_or_concat options with rfl | ⟨init, last, rfl⟩
  · simp [restored, escapeDollars]
  rw [List.concat_eq_append, restored, List.dropLast_concat, List.getLast?_concat, ne_eq,
    Option.some.injEq]
  have ending : [last].count '$' = 0 ↔ ¬ last = '$' := by simp [List.count_eq_zero, eq_comm]
  -- Where a dollar sign stands before the last character, the first of them comes back.
  by_cases inside : '$' ∈ init
  · obtain ⟨front, back, rfl, absent⟩ := List.eq_append_cons_of_mem inside
    have none : front.count '$' = 0 := List.count_eq_zero.mpr absent
    -- All behind the first dollar sign stays as it is written.
    rw [if_pos (by simp), List.append_assoc, List.cons_append, replaceFirst_escapeDollars absent,
      List.append_cancel_left_eq, List.cons_inj_right, escapeDollars_eq_self_iff, List.count_append,
      List.count_append, List.count_cons_self, List.count_append, none, ← ending]
    omega
  · have none : init.count '$' = 0 := List.count_eq_zero.mpr inside
    rw [if_neg (by simpa using inside), escapeDollars_eq_self_iff, List.count_append, none, ← ending]
    omega

end Cut

/--
A rule is cut at the dollar sign before its options, if each dollar sign in these is escaped.

Of the escaped ones only the first is restored, and one at the very end is not seen at all.
-/
theorem split_escapeDollars {pattern options : List Char} (filled : pattern ≠ [])
    (unmarked : ¬ ['@', '@'] <+: pattern) (basic : pattern.head? ≠ some '/')
    (ends : pattern.getLast? ≠ some '\\') (given : options ≠ []) :
    let line := pattern ++ '$' :: escapeDollars options
    split line = ⟨false, pattern, some (restored options)⟩ ∧
      split ('@' :: '@' :: line) = ⟨true, pattern, some (restored options)⟩ ∧
      (restored options = options ↔ options.count '$' ≤ 1 ∧ options.getLast? ≠ some '$') := by
  intro line
  have cut : splitBody line = (pattern, some (restored options)) :=
    splitBody_escapeDollars filled basic ends given
  refine ⟨?_, ?_, restored_eq_iff⟩
  · -- The pattern does not begin like an exception, so the line does not, either.
    have blocking : List.isPrefixOf? ['@', '@'] line = none :=
      Text.isPrefixOf?_eq_none_iff.mpr fun begins =>
        unmarked (Text.prefix_of_prefix_append_cons (by decide) begins)
    rw [split, blocking]
    simp only [cut]
  · have exception : List.isPrefixOf? ['@', '@'] ('@' :: '@' :: line) = some line := by simp
    rw [split, exception]
    simp only [cut]

/-- One dollar sign among the options of a rule comes back, and so it does for an exception. -/
theorem split_escapeDollars_csp :
    let pattern := "||ads^".toList
    let options := "csp=a$b".toList
    pattern ≠ [] ∧ ¬ ['@', '@'] <+: pattern ∧ pattern.head? ≠ some '/' ∧
      pattern.getLast? ≠ some '\\' ∧ options ≠ [] ∧
      split (pattern ++ '$' :: escapeDollars options) = ⟨false, pattern, some options⟩ ∧
      split ('@' :: '@' :: (pattern ++ '$' :: escapeDollars options)) = ⟨true, pattern, some options⟩ := by
  intro pattern options
  have filled : pattern ≠ [] := by decide
  have unmarked : ¬ ['@', '@'] <+: pattern := by decide
  have basic : pattern.head? ≠ some '/' := by decide
  have ends : pattern.getLast? ≠ some '\\' := by decide
  have given : options ≠ [] := by decide
  obtain ⟨blocking, exception, comesBack⟩ := split_escapeDollars filled unmarked basic ends given
  rw [comesBack.mpr (by decide)] at blocking exception
  exact ⟨filled, unmarked, basic, ends, given, blocking, exception⟩

/-- Of two dollar signs in the options of a rule the second one keeps its backslash. -/
theorem split_escapeDollars_twice :
    let pattern := ['a']
    let options := "b$c$d".toList
    pattern ≠ [] ∧ ¬ ['@', '@'] <+: pattern ∧ pattern.head? ≠ some '/' ∧
      pattern.getLast? ≠ some '\\' ∧ options ≠ [] ∧
      split (pattern ++ '$' :: escapeDollars options) = ⟨false, pattern, some "b$c\\$d".toList⟩ ∧
      split (pattern ++ '$' :: escapeDollars options) ≠ ⟨false, pattern, some options⟩ := by
  decide

end Network

end AdFilter
