import AdFilter.Proofs.Scriptlet.Enclosed
import AdFilter.Proofs.Scriptlet.Machine
import AdFilter.Proofs.Text.Blank
import AdFilter.Proofs.Text.Search
import AdFilter.Scriptlet.Native

/-! What is a call in the native dialect: a row of separators and quoted arguments up to a parenthesis. -/

namespace AdFilter.Scriptlet.Native

section Mark

variable {text body : List Char}

/-- A mark of the dialect: two slashes, any white space, and the word. -/
def IsMark (mark : List Char) : Prop :=
  ∃ blanks, (∀ c ∈ blanks, Text.isBlank c = true) ∧
    mark = "//".toList ++ blanks ++ "scriptlet".toList

/-- What a call is read from: the text behind the first mark, and all of a text without one. -/
inductive IsCallText (text : List Char) : List Char → Prop
  | behind {before mark body : List Char} (isMark : IsMark mark) (whole : text = before ++ mark ++ body)
    (first : ∀ earlier other rest, IsMark other → text = earlier ++ other ++ rest →
      before.length ≤ earlier.length) : IsCallText text body
  | whole (unmarked : ∀ mark, IsMark mark → ¬ mark <:+: text) : IsCallText text text

/-- A mark stands at the beginning of a text, before the body. -/
def OpensWithMark (text body : List Char) : Prop := ∃ mark, IsMark mark ∧ text = mark ++ body

/-- The word of a mark stands behind the white space that follows the slashes. -/
theorem opensWithMark_iff : OpensWithMark text body ↔ ∃ rest, text = '/' :: '/' :: rest ∧
    List.isPrefixOf? "scriptlet".toList (Text.trimStart rest) = some body := by
  constructor
  · rintro ⟨_, ⟨blanks, blank, rfl⟩, rfl⟩
    refine ⟨blanks ++ "scriptlet".toList ++ body, by simp, ?_⟩
    -- The first letter of the word is not blank, and all that stands before it is.
    have word : blanks ++ "scriptlet".toList ++ body = blanks ++ 's' :: ("criptlet".toList ++ body) := by
      simp
    have none : Text.trimStart blanks = [] := List.dropWhile_eq_nil_iff.mpr blank
    rw [word, Text.trimStart_append_cons (by decide), none]
    simp
  · rintro ⟨rest, rfl, found⟩
    refine ⟨_, ⟨rest.takeWhile Text.isBlank, fun c member => List.mem_takeWhile_imp member, rfl⟩, ?_⟩
    have whole : "scriptlet".toList ++ body = Text.trimStart rest :=
      List.isPrefixOf?_eq_some_iff_append_eq.mp found
    have parts : rest.takeWhile Text.isBlank ++ Text.trimStart rest = rest :=
      List.takeWhile_append_dropWhile
    rw [List.append_assoc, List.append_assoc, whole, parts]
    rfl

/-- The body behind a mark at the beginning is the only one. -/
theorem OpensWithMark.unique {other : List Char} (opens : OpensWithMark text body)
    (again : OpensWithMark text other) : body = other := by
  obtain ⟨rest, rfl, found⟩ := opensWithMark_iff.mp opens
  obtain ⟨_, same, found'⟩ := opensWithMark_iff.mp again
  simp only [List.cons.injEq, true_and] at same
  -- Both bodies are cut at the first place of the mark.
  rw [← same, found] at found'
  exact Option.some.inj found'

/-- A mark is looked for at the beginning of a text, and then further on. -/
theorem afterMark?_cons_eq_some_iff {c : Char} : afterMark? (c :: text) = some body ↔
    OpensWithMark (c :: text) body ∨
      (¬ ∃ other, OpensWithMark (c :: text) other) ∧ afterMark? text = some body := by
  by_cases slashes : ∃ rest, c :: text = '/' :: '/' :: rest
  · obtain ⟨rest, whole⟩ := slashes
    obtain ⟨rfl, rfl⟩ := List.cons.inj whole
    have opens (other : List Char) : OpensWithMark ('/' :: '/' :: rest) other ↔
        List.isPrefixOf? "scriptlet".toList (Text.trimStart rest) = some other := by
      simp [opensWithMark_iff]
    simp only [opens, afterMark?, Option.orElse_eq_or, Option.or_eq_some_iff]
    rw [← Option.isSome_iff_exists, Option.not_isSome_iff_eq_none]
  · -- Without two slashes there is no mark here.
    have none (other : List Char) : ¬ OpensWithMark (c :: text) other := by
      intro opens
      obtain ⟨rest, whole, _⟩ := opensWithMark_iff.mp opens
      exact slashes ⟨rest, whole⟩
    have skipped : afterMark? (c :: text) = afterMark? text :=
      afterMark?.eq_2 c text fun rest first second => slashes ⟨rest, by rw [first, second]⟩
    simp [none, skipped]

/-- The mark that is found is the first one. -/
theorem afterMark?_eq_some_iff : afterMark? text = some body ↔
    ∃ before mark, IsMark mark ∧ text = before ++ mark ++ body ∧
      ∀ earlier other rest, IsMark other → text = earlier ++ other ++ rest →
        before.length ≤ earlier.length := by
  induction text with
  | nil =>
    refine iff_of_false (by simp [afterMark?]) ?_
    rintro ⟨before, _, ⟨blanks, _, rfl⟩, whole, _⟩
    simp at whole
  | cons c text ih =>
    rw [afterMark?_cons_eq_some_iff, ih]
    constructor
    · rintro (⟨mark, isMark, whole⟩ | ⟨none, before, mark, isMark, rfl, first⟩)
      · exact ⟨[], mark, isMark, whole, by simp⟩
      · refine ⟨c :: before, mark, isMark, by simp, ?_⟩
        intro earlier other rest isOther whole
        cases earlier with
        | nil => exact absurd ⟨rest, other, isOther, whole⟩ none
        | cons d earlier =>
          simp only [List.cons_append, List.cons.injEq] at whole
          simpa using first earlier other rest isOther whole.2
    · rintro ⟨before, mark, isMark, whole, first⟩
      cases before with
      | nil => exact .inl ⟨mark, isMark, whole⟩
      | cons d before =>
        simp only [List.cons_append, List.cons.injEq] at whole
        obtain ⟨rfl, rfl⟩ := whole
        refine .inr ⟨?_, before, mark, isMark, rfl, ?_⟩
        · -- A mark at the beginning would stand before the first one.
          rintro ⟨rest, other, isOther, whole⟩
          simpa using first [] other rest isOther whole
        · intro earlier other rest isOther whole
          simpa using first (c :: earlier) other rest isOther (by simp [whole])

/-- No mark is found in a text that has none. -/
theorem afterMark?_eq_none_iff : afterMark? text = none ↔ ∀ mark, IsMark mark → ¬ mark <:+: text := by
  induction text with
  | nil =>
    refine iff_of_true rfl ?_
    rintro _ ⟨blanks, _, rfl⟩ inside
    simpa using List.infix_nil.mp inside
  -- A mark is found where the text begins, or further on.
  | cons c text ih =>
    have step : afterMark? (c :: text) = none ↔
        (¬ ∃ body, OpensWithMark (c :: text) body) ∧ afterMark? text = none := by
      simp only [Option.eq_none_iff_forall_ne_some, ne_eq, afterMark?_cons_eq_some_iff, not_or,
        not_and, forall_and, not_exists]
      grind
    rw [step, ih]
    simp only [List.infix_cons_iff, not_or, imp_and, forall_and]
    refine and_congr_left fun _ => ⟨?_, ?_⟩
    · rintro none mark isMark ⟨body, whole⟩
      exact none ⟨body, mark, isMark, whole.symm⟩
    · rintro none ⟨body, mark, isMark, whole⟩
      exact none mark isMark ⟨body, whole.symm⟩

/-- What a call is read from is told by the search for the mark. -/
theorem isCallText_iff : IsCallText text body ↔ (afterMark? text).getD text = body := by
  -- The first mark decides, and without a mark the whole text is the call.
  constructor
  · rintro (⟨isMark, whole, first⟩ | unmarked)
    · rw [afterMark?_eq_some_iff.mpr ⟨_, _, isMark, whole, first⟩, Option.getD_some]
    · rw [afterMark?_eq_none_iff.mpr unmarked, Option.getD_none]
  · rintro rfl
    cases found : afterMark? text with
    | none => exact .whole (afterMark?_eq_none_iff.mp found)
    | some body =>
      obtain ⟨before, mark, isMark, whole, first⟩ := afterMark?_eq_some_iff.mp found
      exact .behind isMark whole first

end Mark

/-- What may stand between the parentheses of a call. -/
inductive Item
  | separator (c : Char)
  | quoted (quote : Char) (body : List Char)

namespace Item

/-- How an item is written. -/
def text : Item → List Char
  | separator c => [c]
  | quoted quote body => quote :: body ++ [quote]

/-- A separator is a space, an opening parenthesis or a comma, and an argument is closed by its own quote. -/
def WellFormed : Item → Prop
  | separator c => c = ' ' ∨ c = '(' ∨ c = ','
  | quoted quote body => (quote = '\'' ∨ quote = '"') ∧ Enclosed quote body

/-- The argument that an item stands for, word for word. -/
def argument? : Item → Option String
  | separator _ => none
  | quoted _ body => some (String.ofList body)

end Item

section Call

variable {passed rest current body : List Char} {words : List String} {quote last c : Char}
  {capture : Capture} {reader after : Reader}

/-- An argument may be read in every state but the final ones. -/
theorem dispatch_inParam :
    dispatch table .inParam .inParam reader = dispatch table .betweenParams .inParam reader :=
  dispatch_congr rfl rfl rfl

/-- Behind an argument the machine goes on as it does behind a separator. -/
theorem dispatch_betweenParams :
    dispatch table .inParam .betweenParams reader = dispatch table .betweenParams .betweenParams reader :=
  dispatch_congr rfl rfl rfl

/-- An error is final. -/
theorem dispatch_error : dispatch table .betweenParams .error reader = (.error, reader) :=
  dispatch_of_last rfl rfl

/-- A character of an argument is kept, a quote too if a backslash stands before it. -/
theorem dispatch_kept (kept : c = quote → last = '\\') :
    dispatch table .betweenParams .inParam ⟨⟨last :: passed, c :: rest⟩, capture, quote⟩ =
      dispatch table .betweenParams .inParam
        ⟨⟨c :: last :: passed, rest⟩, capture.push c, quote⟩ := by
  -- The handler asks whether this is a quote without a backslash before it, and it is not.
  have reply : inParam ⟨⟨last :: passed, c :: rest⟩, capture, quote⟩ =
      (some .inParam, ⟨⟨c :: last :: passed, rest⟩, capture.push c, quote⟩) := by
    refine if_neg ?_
    rintro ⟨same, bare⟩
    exact bare (congrArg some (kept same))
  exact (dispatch_of_next rfl reply).trans dispatch_inParam

/-- The quote without a backslash before it ends the argument. -/
theorem dispatch_closed (bare : last ≠ '\\') :
    dispatch table .betweenParams .inParam ⟨⟨last :: passed, quote :: rest⟩, capture, quote⟩ =
      dispatch table .betweenParams .betweenParams
        ⟨⟨quote :: last :: passed, rest⟩, capture.finish, quote⟩ := by
  -- The quote is not escaped, so it closes the string.
  have reply : inParam ⟨⟨last :: passed, quote :: rest⟩, capture, quote⟩ =
      (some .betweenParams, ⟨⟨quote :: last :: passed, rest⟩, capture.finish, quote⟩) := by
    simp [inParam, Cursor.next, Cursor.beforeLast, bare]
  exact (dispatch_of_next rfl reply).trans dispatch_betweenParams

/-- A body is read up to the quote that closes it. -/
theorem dispatch_body (enclosed : EnclosedAfter quote last body) :
    dispatch table .betweenParams .inParam
        ⟨⟨last :: passed, body ++ quote :: rest⟩, ⟨current, words⟩, quote⟩ =
      dispatch table .betweenParams .betweenParams
        ⟨⟨quote :: (body.reverse ++ last :: passed), rest⟩,
          ⟨[], words ++ [String.ofList (current.reverse ++ body)]⟩, quote⟩ := by
  -- The last character read is the one that the next quote would need a backslash for.
  induction body generalizing last passed current with
  | nil =>
    rw [List.nil_append, dispatch_closed enclosed]
    simp [Capture.finish]
  | cons c body ih =>
    rw [List.cons_append, dispatch_kept enclosed.1, Capture.push, ih enclosed.2]
    simp

/-- A call that is closed has closed each of its arguments. -/
theorem exists_body_of_close
    (closes : dispatch table .betweenParams .inParam ⟨⟨last :: passed, rest⟩, capture, quote⟩ =
      (.close, after)) :
    ∃ body more, rest = body ++ quote :: more ∧ EnclosedAfter quote last body := by
  induction rest generalizing last passed capture with
  | nil =>
    -- Where the text ends within an argument the machine is in error.
    have reply : inParam ⟨⟨last :: passed, []⟩, capture, quote⟩ =
        (some .error, ⟨⟨last :: passed, []⟩, capture, quote⟩) := rfl
    have stopped := (dispatch_of_next rfl reply).symm.trans closes
    rw [dispatch_of_last rfl rfl] at stopped
    cases stopped
  | cons c rest ih =>
    -- Either this character is kept, or it is the quote that closes the argument.
    by_cases kept : c = quote → last = '\\'
    · rw [dispatch_kept kept] at closes
      obtain ⟨body, more, rfl, enclosed⟩ := ih closes
      exact ⟨c :: body, more, rfl, kept, enclosed⟩
    · obtain ⟨rfl, bare⟩ : c = quote ∧ last ≠ '\\' := by tauto
      exact ⟨[], rest, rfl, bare⟩

/-- No backslash opens an argument. -/
theorem plain_of_isQuote (isQuote : quote = '\'' ∨ quote = '"') : quote ≠ '\\' := by
  -- There are two quotes, and neither is a backslash.
  rcases isQuote with rfl | rfl <;> decide

/-- A separator is passed over. -/
theorem dispatch_separator (separates : c = ' ' ∨ c = '(' ∨ c = ',') :
    dispatch table .betweenParams .betweenParams ⟨⟨passed, c :: rest⟩, capture, quote⟩ =
      dispatch table .betweenParams .betweenParams ⟨⟨c :: passed, rest⟩, capture, quote⟩ := by
  -- Blanks, the opening bracket and commas are passed over between arguments.
  have reply : betweenParams ⟨⟨passed, c :: rest⟩, capture, quote⟩ =
      (some .betweenParams, ⟨⟨c :: passed, rest⟩, capture, quote⟩) := by
    rcases separates with rfl | rfl | rfl <;> rfl
  exact dispatch_of_next rfl reply

/-- A quote opens an argument. -/
theorem dispatch_opened {opening : Char} (isQuote : opening = '\'' ∨ opening = '"') :
    dispatch table .betweenParams .betweenParams ⟨⟨passed, opening :: rest⟩, capture, quote⟩ =
      dispatch table .betweenParams .inParam ⟨⟨opening :: passed, rest⟩, capture, opening⟩ := by
  -- Any of the two quotes opens an argument, and is kept to be compared with.
  have reply : betweenParams ⟨⟨passed, opening :: rest⟩, capture, quote⟩ =
      (some .inParam, ⟨⟨opening :: passed, rest⟩, capture, opening⟩) := by
    simp [betweenParams, Cursor.next, isQuote]
  exact dispatch_of_next rfl reply

/-- A closing parenthesis ends the call. -/
theorem dispatch_close :
    dispatch table .betweenParams .betweenParams ⟨⟨passed, ')' :: rest⟩, capture, quote⟩ =
      (.close, ⟨⟨')' :: passed, rest⟩, capture, quote⟩) := by
  -- The closing bracket ends the call.
  have reply : betweenParams ⟨⟨passed, ')' :: rest⟩, capture, quote⟩ =
      (some .close, ⟨⟨')' :: passed, rest⟩, capture, quote⟩) := rfl
  exact (dispatch_of_next rfl reply).trans (dispatch_of_last rfl rfl)

/-- An item is read with anything behind it, and adds its argument. -/
theorem dispatch_item {item : Item} (wellFormed : item.WellFormed) (passed rest : List Char)
    (words : List String) (quote : Char) :
    ∃ passed' quote', dispatch table .betweenParams .betweenParams
        ⟨⟨passed, item.text ++ rest⟩, ⟨[], words⟩, quote⟩ =
      dispatch table .betweenParams .betweenParams
        ⟨⟨passed', rest⟩, ⟨[], words ++ item.argument?.toList⟩, quote'⟩ := by
  -- Neither the place nor the last quote matters for what follows an item.
  cases item with
  | separator c =>
    refine ⟨c :: passed, quote, ?_⟩
    simpa [Item.text, Item.argument?] using dispatch_separator wellFormed
  | quoted opening body =>
    obtain ⟨isQuote, enclosed⟩ := wellFormed
    have whole : (Item.quoted opening body).text ++ rest = opening :: (body ++ opening :: rest) := by
      simp [Item.text]
    refine ⟨opening :: (body.reverse ++ opening :: passed), opening, ?_⟩
    rw [whole, dispatch_opened isQuote,
      dispatch_body ((enclosed_iff_after (plain_of_isQuote isQuote)).mp enclosed)]
    rfl

/-- A row of items up to a closing parenthesis is a call, whose words are the arguments in the row. -/
theorem close_of_items {items : List Item} (wellFormed : ∀ item ∈ items, item.WellFormed)
    (passed rest : List Char) (words : List String) (quote : Char) :
    ∃ after, dispatch table .betweenParams .betweenParams
        ⟨⟨passed, items.flatMap Item.text ++ ')' :: rest⟩, ⟨[], words⟩, quote⟩ = (.close, after) ∧
      after.capture.words = words ++ items.filterMap Item.argument? := by
  -- The quote of the last item is kept, so it changes from item to item.
  induction items generalizing passed words quote with
  | nil => exact ⟨_, dispatch_close, by simp⟩
  | cons item items ih =>
    rw [List.forall_mem_cons] at wellFormed
    obtain ⟨passed', quote', read⟩ := dispatch_item wellFormed.1 passed
      (items.flatMap Item.text ++ ')' :: rest) words quote
    obtain ⟨after, closes, found⟩ := ih wellFormed.2 passed' (words ++ item.argument?.toList) quote'
    refine ⟨after, ?_, ?_⟩
    · rw [List.flatMap_cons, List.append_assoc, read]
      exact closes
    · rw [found]
      cases argument : item.argument? <;> simp [argument]

/-- A call that is closed is a row of items up to a closing parenthesis. -/
theorem exists_items_of_close {text : List Char}
    (closes : dispatch table .betweenParams .betweenParams ⟨⟨passed, text⟩, ⟨[], words⟩, quote⟩ =
      (.close, after)) :
    ∃ (items : List Item) (rest : List Char), (∀ item ∈ items, item.WellFormed) ∧
      text = items.flatMap Item.text ++ ')' :: rest := by
  -- What is left behind an item is shorter than the text.
  induction size : text.length using Nat.strong_induction_on
    generalizing passed text words quote with
  | _ n ih =>
    cases text with
    | nil =>
      have reply : betweenParams ⟨⟨passed, []⟩, ⟨[], words⟩, quote⟩ =
          (some .error, ⟨⟨passed, []⟩, ⟨[], words⟩, quote⟩) := rfl
      rw [dispatch_of_next rfl reply, dispatch_error] at closes
      cases closes
    | cons c text =>
      -- The first character tells which item it is, and what is behind the item is read as the whole is.
      by_cases isQuote : c = '\'' ∨ c = '"'
      · rw [dispatch_opened isQuote] at closes
        obtain ⟨body, more, rfl, enclosed⟩ := exists_body_of_close closes
        rw [dispatch_body enclosed] at closes
        obtain ⟨items, rest, wellFormed, rfl⟩ :=
          ih more.length (by simp at size; omega) closes rfl
        have isItem : (Item.quoted c body).WellFormed :=
          ⟨isQuote, (enclosed_iff_after (plain_of_isQuote isQuote)).mpr enclosed⟩
        exact ⟨.quoted c body :: items, rest, List.forall_mem_cons.mpr ⟨isItem, wellFormed⟩,
          by simp [Item.text]⟩
      by_cases separates : c = ' ' ∨ c = '(' ∨ c = ','
      · rw [dispatch_separator separates] at closes
        obtain ⟨items, rest, wellFormed, rfl⟩ :=
          ih text.length (by simp at size; omega) closes rfl
        exact ⟨.separator c :: items, rest, List.forall_mem_cons.mpr ⟨separates, wellFormed⟩,
          by simp [Item.text]⟩
      by_cases ends : c = ')'
      · exact ⟨[], text, by simp, by simp [ends]⟩
      · -- No other character may stand between the arguments.
        have reply : betweenParams ⟨⟨passed, c :: text⟩, ⟨[], words⟩, quote⟩ =
            (some .error, ⟨⟨c :: passed, text⟩, ⟨[], words⟩, quote⟩) := by
          simp only [betweenParams, Cursor.next, if_neg isQuote, if_neg separates, if_neg ends]
        rw [dispatch_of_next rfl reply, dispatch_error] at closes
        cases closes

/--
A text is a call just if a row of items and a closing parenthesis begin what the call is read from.

The first argument of the row is the name, which is not empty, and the others are the arguments of the call.
What follows the parenthesis does not matter.
-/
theorem parse?_eq_some_iff {text : String} {call : ScriptletCall} : parse? text = some call ↔
    ∃ (items : List Item) (rest : List Char),
      IsCallText text.toList (items.flatMap Item.text ++ ')' :: rest) ∧
      (∀ item ∈ items, item.WellFormed) ∧
      items.filterMap Item.argument? = call.name :: call.args ∧ call.name ≠ "" := by
  -- The machine starts as it goes on behind a separator.
  have start (reader : Reader) : run table .betweenParams reader =
      dispatch table .betweenParams .betweenParams reader := dispatch_congr rfl rfl rfl
  simp only [isCallText_iff, parse?, start]
  constructor
  · intro parsed
    split at parsed
    · rename_i after closes
      obtain ⟨items, rest, wellFormed, whole⟩ := exists_items_of_close closes
      obtain ⟨again, same, found⟩ := close_of_items wellFormed [] rest [] '\''
      -- The words of the reader are those of the row.
      rw [Cursor.start, whole, same] at closes
      cases closes
      obtain ⟨name, words, filled, named⟩ := ScriptletCall.ofWords?_eq_some_iff.mp parsed
      obtain rfl : call.name = name := by simpa [Dialect.namespaceText] using named
      exact ⟨items, rest, whole, wellFormed, by rw [← words, found, List.nil_append], filled⟩
    · cases parsed
  · rintro ⟨items, rest, whole, wellFormed, words, filled⟩
    obtain ⟨after, closes, found⟩ := close_of_items wellFormed [] rest [] '\''
    rw [Cursor.start, whole, closes]
    refine ScriptletCall.ofWords?_eq_some_iff.mpr ⟨call.name, ?_, filled, ?_⟩
    · rw [found, List.nil_append, words]
    · simp [Dialect.namespaceText]

example : parse? "//scriptlet('log', 'it\\'s') x" = some ⟨"log", ["it\\'s"]⟩ := by cbv

end Call

end AdFilter.Scriptlet.Native
