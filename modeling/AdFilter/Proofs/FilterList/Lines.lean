import AdFilter.Proofs.Distinct
import AdFilter.Proofs.FilterList.Parser
import AdFilter.Proofs.Text.Blank
import Mathlib

/-!
Filter lists are read line by line: what a line says depends on no other line, and on nothing of its own
but its trimmed text.
-/

namespace AdFilter

/-- The error of a line that stands further down. -/
def LineError.later (count : Nat) (error : LineError) : LineError :=
  { error with line := error.line + count }

namespace FilterList

/-- A rule or an error that comes of a line, with the number of the line. -/
structure Outcome where
  number : Nat
  given : Rule ⊕ LineError

namespace Outcome

/-- The rule that has come of a line. -/
def rule? (outcome : Outcome) : Option Rule := outcome.given.getLeft?

/-- The error that has come of a line. -/
def error? (outcome : Outcome) : Option LineError := outcome.given.getRight?

/-- What comes of the same line further down. -/
def later (count : Nat) (outcome : Outcome) : Outcome :=
  ⟨outcome.number + count, outcome.given.map id (·.later count)⟩

/-- The outcome is of one of the numbered lines: a rule carries the line, trimmed, and the number of its
list, and an error carries the line and its number. -/
def IsOf (lines : List (List Char × Nat)) (filterId : Nat) (outcome : Outcome) : Prop :=
  ∃ line, (line, outcome.number) ∈ lines ∧ match outcome.given with
    | .inl rule => rule.info.IsOf (Text.trim line) filterId
    | .inr error => error.line = outcome.number ∧ error.text = String.ofList (Text.trim line)

/-- What comes of one line. -/
def ofLine (filterId : Nat) (line : List Char) (number : Nat) : Option Outcome :=
  match parseLine line filterId with
  | .ok rule => rule.map fun rule => ⟨number, .inl rule⟩
  | .error error => some ⟨number, .inr ⟨number, String.ofList (Text.trim line), error⟩⟩

/-- What comes of some lines, of which the first has the given number. -/
def ofLines (filterId first : Nat) (lines : List (List Char)) : List Outcome :=
  (lines.zipIdx first).filterMap fun entry => ofLine filterId entry.1 entry.2

end Outcome

/-- The rules and the errors that have come of lines. -/
def collect (outcomes : List Outcome) : FilterList :=
  ⟨outcomes.filterMap Outcome.rule?, outcomes.filterMap Outcome.error?⟩

variable {filterId first number : Nat} {line other : List Char} {lines others : List (List Char)}

/-! ### One line -/

/-- White space around a line changes nothing. -/
theorem Outcome.ofLine_congr (same : Text.trim line = Text.trim other) :
    ofLine filterId line number = ofLine filterId other number := by
  rw [ofLine, ofLine, parseLine_congr same, same]

/-- Nothing comes of a line that is all white. -/
theorem Outcome.ofLine_of_blank (blank : Text.trim line = []) : ofLine filterId line number = none := by
  simp [ofLine, parseLine, blank]

/-- A line further down says the same, with its own number. -/
theorem Outcome.ofLine_later (count : Nat) : ofLine filterId line (number + count) =
    (ofLine filterId line number).map (later count) := by
  unfold ofLine
  -- A line gives an error, a rule or nothing, and only the number is moved on.
  cases parseLine line filterId with
  | error error => rfl
  | ok rule => cases rule <;> rfl

/-- A rule is the same further down. -/
theorem Outcome.rule?_later (count : Nat) (outcome : Outcome) :
    (outcome.later count).rule? = outcome.rule? := by
  obtain ⟨number, rule | error⟩ := outcome <;> rfl

/-- An error is that of a line further down. -/
theorem Outcome.error?_later (count : Nat) (outcome : Outcome) :
    (outcome.later count).error? = outcome.error?.map (·.later count) := by
  obtain ⟨number, rule | error⟩ := outcome <;> rfl

/-- One more line adds what comes of it. -/
theorem addLine_collect (entry : List Char × Nat) (outcomes : List Outcome) :
    addLine filterId entry (collect outcomes) =
      collect ((Outcome.ofLine filterId entry.1 entry.2).toList ++ outcomes) := by
  unfold addLine Outcome.ofLine
  -- An error goes to the errors, a rule to the rules, and a comment to neither.
  cases parseLine entry.1 filterId with
  | error error => rfl
  | ok rule => cases rule <;> rfl

/-! ### All lines -/

/-- What is read is what comes of the lines. -/
theorem foldr_addLine (entries : List (List Char × Nat)) :
    entries.foldr (addLine filterId) ⟨[], []⟩ =
      collect (entries.filterMap fun entry => Outcome.ofLine filterId entry.1 entry.2) := by
  -- The fold goes from the last line to the first, so each line is put in front of those behind it.
  induction entries with
  | nil => rfl
  | cons entry entries ih =>
    rw [List.foldr_cons, ih, addLine_collect, List.filterMap_cons]
    cases Outcome.ofLine filterId entry.1 entry.2 <;> rfl

namespace Outcome

/-- Lines in a row are read one after the other, and the numbers go on. -/
theorem ofLines_append : ofLines filterId first (lines ++ others) =
    ofLines filterId first lines ++ ofLines filterId (first + lines.length) others := by
  -- The numbers go on where the first lines end.
  rw [ofLines, List.zipIdx_append, List.filterMap_append, ofLines, ofLines]

/-- White space around lines changes nothing. -/
theorem ofLines_map {change : List Char → List Char}
    (same : ∀ line, Text.trim (change line) = Text.trim line) (lines : List (List Char)) :
    ofLines filterId first (lines.map change) = ofLines filterId first lines := by
  rw [ofLines, List.zipIdx_map, List.filterMap_map, ofLines]
  -- The outcome of a line depends on what is left when it is trimmed.
  exact congrArg (List.filterMap · _) (funext fun entry => ofLine_congr (same entry.1))

/-- What comes of the first line stands before what comes of the others. -/
theorem ofLines_cons : ofLines filterId first (line :: lines) =
    (ofLine filterId line first).toList ++ ofLines filterId (first + 1) lines := by
  rw [ofLines, List.zipIdx_cons, List.filterMap_cons]
  -- A line may have no outcome.
  cases ofLine filterId line first <;> rfl

/-- Lines further down say the same, with their own numbers. -/
theorem ofLines_later (count : Nat) (lines : List (List Char)) :
    ofLines filterId (first + count) lines = (ofLines filterId first lines).map (later count) := by
  -- The induction is on the lines, and the number of the first one grows on the way.
  induction lines generalizing first with
  | nil => rfl
  | cons line lines ih =>
    rw [ofLines_cons, ofLines_cons, ofLine_later, Nat.add_right_comm, ih, List.map_append]
    cases ofLine filterId line first <;> rfl

/-- What comes of a line has its number. -/
theorem number_of_ofLine {outcome : Outcome} (gives : ofLine filterId line number = some outcome) :
    outcome.number = number := by
  -- A rule and an error get the number that is given with the line.
  unfold ofLine at gives
  split at gives
  · obtain ⟨rule, _, rfl⟩ := Option.map_eq_some_iff.mp gives
    rfl
  · cases gives
    rfl

/-- What comes of lines comes in their order, and each line gives one thing at most. -/
theorem ofLines_pairwise (filterId first : Nat) (lines : List (List Char)) :
    (ofLines filterId first lines).Pairwise fun a b => a.number < b.number := by
  -- Lines are numbered in their order, and what comes of them is numbered like them.
  refine (zipIdx_pairwise_from first lines).filterMap _ fun a b below c gives d follows => ?_
  rw [number_of_ofLine gives, number_of_ofLine follows]
  exact below

/-- Rules carry the lines that they come of, and so do errors, with their numbers. -/
theorem isOf_of_mem_ofLines {outcome : Outcome} (member : outcome ∈ ofLines filterId first lines) :
    outcome.IsOf (lines.zipIdx first) filterId := by
  obtain ⟨⟨line, number⟩, inside, gives⟩ := List.mem_filterMap.mp member
  -- The compiler of a line gives the rule its text.
  have made := parseLine_info line filterId
  unfold ofLine at gives
  simp only at gives
  split at gives
  · rename_i rule read
    obtain ⟨one, rfl, rfl⟩ := Option.map_eq_some_iff.mp gives
    exact ⟨line, inside, (made _ read one rfl).1⟩
  · cases gives
    exact ⟨line, inside, rfl, rfl⟩

end Outcome

/-! ### The whole text -/

/-- A carriage return at the end of a line is white space. -/
theorem trim_append_return (line : List Char) : Text.trim (line ++ ['\r']) = Text.trim line := by
  -- White space at the end of a line is cut off before anything is read.
  have blank : ∀ c ∈ ['\r'], Text.isBlank c = true := by
    rw [List.forall_mem_singleton]
    decide
  have trimmed : Text.trim ([] ++ line ++ ['\r']) = Text.trim line :=
    Text.trim_blanks_append (by simp) blank
  exact trimmed

/-- A line without the carriage return at its end is the same line, trimmed. -/
theorem trim_cutReturn (line : List Char) :
    Text.trim ((List.isSuffixOf? ['\r'] line).getD line) = Text.trim line := by
  -- A carriage return at the end is white space, and would be trimmed off.
  cases ends : List.isSuffixOf? ['\r'] line with
  | none => rfl
  | some kept => rw [← List.isSuffixOf?_eq_some_iff_append_eq.mp ends, trim_append_return, Option.getD_some]

/-- What is read of a text comes of what stands between its line feeds. -/
theorem parse_eq_collect (text : String) (filterId : Nat) :
    parse text filterId = collect (Outcome.ofLines filterId 1 (text.toList.splitOn '\n')) := by
  -- The last piece has no line feed behind it, and so it keeps a carriage return.
  have filled := List.splitOn_ne_nil '\n' text.toList
  obtain ⟨ended, last, pieces⟩ := (List.eq_nil_or_concat _).resolve_left filled
  rw [List.concat_eq_append] at pieces
  rw [parse, foldr_addLine, ← Outcome.ofLines, Text.lines, pieces]
  simp only [List.dropLast_concat, List.getLast?_concat]
  split
  · rename_i none
    cases none
  · -- What follows the last line feed is no line, but it would say nothing if it were one.
    rename_i empty
    cases empty
    rw [Outcome.ofLines_map trim_cutReturn, Outcome.ofLines_append, Outcome.ofLines_cons,
      Outcome.ofLine_of_blank rfl]
    simp [Outcome.ofLines]
  · rename_i same
    cases same
    rw [Outcome.ofLines_append, Outcome.ofLines_map trim_cutReturn, List.length_map,
      ← Outcome.ofLines_append]

/-- There is one line more than there are line feeds. -/
theorem length_splitOn (mark : Char) (text : List Char) :
    (text.splitOn mark).length = text.count mark + 1 := by
  -- Each mark begins one more piece, and any other character is put in front of the first.
  induction text with
  | nil => rfl
  | cons c text ih =>
    rw [List.splitOn_cons_eq_if_modifyHead, List.count_cons]
    split
    · simp_all
    · simp_all

/-- The rules and errors of lines in a row are those of the first ones and those of the others. -/
theorem collect_append (outcomes others : List Outcome) : collect (outcomes ++ others) =
    ⟨(collect outcomes).rules ++ (collect others).rules,
      (collect outcomes).errors ++ (collect others).errors⟩ := by
  simp [collect]

/-- Further down, the rules are the same, and the errors have their own numbers. -/
theorem collect_later (count : Nat) (outcomes : List Outcome) :
    collect (outcomes.map (Outcome.later count)) =
      ⟨(collect outcomes).rules, (collect outcomes).errors.map (·.later count)⟩ := by
  -- The number of a line is in its error alone.
  simp only [collect, List.filterMap_map, List.map_filterMap, Function.comp_def, Outcome.rule?_later,
    Outcome.error?_later]

/-- There is nothing in an empty text. -/
theorem parse_empty (filterId : Nat) : parse "" filterId = ⟨[], []⟩ := by
  -- The empty text has one line, which is blank.
  have lines : "".toList.splitOn '\n' = [[]] := rfl
  rw [parse_eq_collect, lines, Outcome.ofLines_cons, Outcome.ofLine_of_blank rfl]
  rfl

/-- The errors of lines come with rising numbers. -/
theorem errors_rise (filterId first : Nat) (lines : List (List Char)) :
    (collect (Outcome.ofLines filterId first lines)).errors.Pairwise fun a b => a.line < b.line := by
  -- An error has the number of its line, and each line gives one thing at most.
  have numbered : ∀ outcome ∈ Outcome.ofLines filterId first lines, ∀ error, outcome.error? = some error →
      error.line = outcome.number := by
    intro outcome member error gives
    obtain ⟨line, _, carries⟩ := Outcome.isOf_of_mem_ofLines member
    obtain ⟨number, rule | other⟩ := outcome
    · cases gives
    · cases gives
      exact carries.1
  refine List.pairwise_filterMap.mpr ?_
  refine (Outcome.ofLines_pairwise filterId first lines).imp_of_mem ?_
  intro a b member other below error gives next follows
  rw [numbered a member error gives, numbered b other next follows]
  exact below

/-- A text behind a line feed is read like the text alone, but further down. -/
theorem parse_append (a b : String) (filterId : Nat) :
    parse (a ++ "\n" ++ b) filterId =
      ⟨(parse a filterId).rules ++ (parse b filterId).rules, (parse a filterId).errors ++
        (parse b filterId).errors.map (·.later (1 + a.toList.count '\n'))⟩ := by
  -- The first text ends where the line feed stands, and its lines are counted by its line feeds.
  have whole : (a ++ "\n" ++ b).toList = a.toList ++ '\n' :: b.toList := by simp
  rw [parse_eq_collect, whole, List.splitOn_append_cons_self, Outcome.ofLines_append, length_splitOn,
    Outcome.ofLines_later, collect_append, collect_later, ← parse_eq_collect, ← parse_eq_collect,
    Nat.add_comm 1]

/-- What is written behind a text, but for line feeds, belongs to its last line. -/
theorem exists_splitOn_append {mark : Char} {more : List Char} (plain : mark ∉ more) (text : List Char) :
    ∃ ended last, text.splitOn mark = ended ++ [last] ∧
      (text ++ more).splitOn mark = ended ++ [last ++ more] := by
  -- The characters are put in front one by one, which leaves the last piece alone until it is reached.
  induction text with
  | nil => exact ⟨[], [], rfl, by simpa using List.splitOn_eq_singleton plain⟩
  | cons c text ih =>
    obtain ⟨ended, last, before, after⟩ := ih
    rw [List.cons_append, List.splitOn_cons_eq_if_modifyHead, List.splitOn_cons_eq_if_modifyHead, before,
      after]
    by_cases ends : (c == mark) = true
    · exact ⟨[] :: ended, last, by simp [ends], by simp [ends]⟩
    · -- The character belongs to the first line, which may be the last one as well.
      cases ended with
      | nil => exact ⟨[], c :: last, by simp [ends], by simp [ends]⟩
      | cons line ended => exact ⟨(c :: line) :: ended, last, by simp [ends], by simp [ends]⟩

/-- A carriage return behind a text changes nothing. -/
theorem parse_append_return (text : String) (filterId : Nat) :
    parse (text ++ "\r") filterId = parse text filterId := by
  -- The carriage return goes to the last line, which is the same line once it is trimmed.
  have plain : '\n' ∉ ['\r'] := by decide
  obtain ⟨ended, last, before, after⟩ := exists_splitOn_append plain text.toList
  have same : Outcome.ofLines filterId (1 + ended.length) [last ++ ['\r']] =
      Outcome.ofLines filterId (1 + ended.length) [last] :=
    Outcome.ofLines_map trim_append_return [last]
  rw [parse_eq_collect, parse_eq_collect, String.toList_append, before]
  have written : "\r".toList = ['\r'] := rfl
  rw [written, after, Outcome.ofLines_append, Outcome.ofLines_append, same]

/--
Lists are read line by line: a text behind a line feed is read like the text alone, but further down, and
neither a carriage return before a line feed nor one more line feed at the end changes anything.

What is read comes of the lines, in their order: one rule or one error of each at most. A rule carries its
line, trimmed, and the number of the list, and an error the number of its line, so that these rise. All of
it is what the compiler of lines gives for each line between two line feeds, none of them left out.
-/
theorem parse_lines (filterId : Nat) :
    (∀ a b : String, parse (a ++ "\n" ++ b) filterId =
      ⟨(parse a filterId).rules ++ (parse b filterId).rules, (parse a filterId).errors ++
        (parse b filterId).errors.map (·.later (1 + a.toList.count '\n'))⟩) ∧
    (∀ a b : String, parse (a ++ "\r\n" ++ b) filterId = parse (a ++ "\n" ++ b) filterId) ∧
    (∀ text : String, parse (text ++ "\n") filterId = parse text filterId) ∧
    ∀ text : String, (parse text filterId).errors.Pairwise (fun a b => a.line < b.line) ∧
      ∃ outcomes : List Outcome, outcomes.Pairwise (fun a b => a.number < b.number) ∧
        (∀ outcome ∈ outcomes, outcome.IsOf ((text.toList.splitOn '\n').zipIdx 1) filterId) ∧
        parse text filterId =
          ⟨outcomes.filterMap Outcome.rule?, outcomes.filterMap Outcome.error?⟩ ∧
        outcomes = (((text.toList.splitOn '\n').zipIdx 1).filterMap fun entry =>
          Outcome.ofLine filterId entry.1 entry.2) := by
  refine ⟨fun a b => parse_append a b filterId, fun a b => ?_, fun text => ?_, fun text => ⟨?_, ?_⟩⟩
  · -- The carriage return ends the text in front, which is read the same without it.
    have feed : a ++ "\r\n" ++ b = a ++ "\r" ++ "\n" ++ b := by
      simp [← String.toList_inj]
    have count : (a ++ "\r").toList.count '\n' = a.toList.count '\n' := by simp
    rw [feed, parse_append, parse_append, parse_append_return, count]
  · -- An empty text says nothing, so the line feed in front of it adds nothing.
    have last := parse_append text "" filterId
    rw [parse_empty] at last
    simpa using last
  · rw [parse_eq_collect]
    exact errors_rise filterId 1 _
  · exact ⟨_, Outcome.ofLines_pairwise filterId 1 _, fun outcome => Outcome.isOf_of_mem_ofLines,
      parse_eq_collect text filterId, rfl⟩

end FilterList

end AdFilter
