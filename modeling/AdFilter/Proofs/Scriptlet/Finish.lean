import AdFilter.Proofs.Scriptlet.Machine
import AdFilter.Scriptlet.Abp
import AdFilter.Scriptlet.Native
import AdFilter.Scriptlet.Ubo

/-! The tables of all dialects are complete, so that their machines finish on every text. -/

namespace AdFilter.Scriptlet

section Provided

variable {C : Type} {work : State → C → Nat} {table : List (Transition C work)} {cursor : C → Cursor}

/-- A handler goes on with one of these actions, from where it was or from a later place. -/
def GoesOn (cursor : C → Cursor) (allowed : List State) (handler : C → Option State × C) : Prop :=
  ∀ context, ∃ next ∈ allowed, ∃ after, handler context = (some next, after) ∧
    (cursor context).Reaches (cursor after)

/-- An entry of a complete table: one of a final state, or one whose next actions have entries. -/
inductive Provided (table : List (Transition C work)) (cursor : C → Cursor) : Transition C work → Prop
  | final {source action : State} (proper : action = .close ∨ action = .error) :
    Provided table cursor (.halt source action)
  | onward {entry : Transition C work} {allowed : List State}
    (goes : GoesOn cursor allowed entry.handler)
    (answered : ∀ next ∈ allowed, (table.find? (·.fits entry.action next)).isSome = true) :
    Provided table cursor entry

/-- A table is complete if all its entries are provided for. -/
theorem Complete.of_provided (provided : ∀ entry ∈ table, Provided table cursor entry) :
    Complete table cursor where
  answered entry member context next reply := by
    -- A final entry asks for nothing, and any other one for an action that has an entry.
    cases provided entry member with
    | final proper => simp [Transition.halt] at reply
    | onward goes answered =>
      -- What the handler asks for is one of the actions that the table has entries for.
      obtain ⟨asked, allowed, after, replied, -⟩ := goes context
      rw [replied] at reply
      exact Option.some.inj reply ▸ answered asked allowed
  ended entry member context reply := by
    cases provided entry member with
    | final proper => exact proper
    | onward goes answered =>
      obtain ⟨asked, -, after, replied, -⟩ := goes context
      simp [replied] at reply
  onward entry member context := by
    cases provided entry member with
    | final proper => exact .refl _
    | onward goes answered =>
      obtain ⟨asked, -, after, replied, reaches⟩ := goes context
      rwa [replied]

end Provided

namespace Native

/-- What may follow between arguments depends on one character, which is passed over. -/
theorem betweenParams_goesOn :
    GoesOn Reader.cursor [.betweenParams, .inParam, .close, .error] betweenParams := by
  intro reader
  -- All that a handler does is to pass over one character, or none at the end.
  have read := Cursor.Reaches.next reader.cursor
  unfold betweenParams
  split
  next => exact ⟨.error, by decide, _, rfl, .refl _⟩
  next c cursor moved =>
    rw [moved] at read
    -- An opening quote, what may stand before one, the end of the call, and anything else.
    split_ifs
    · exact ⟨.inParam, by decide, _, rfl, read⟩
    · exact ⟨.betweenParams, by decide, _, rfl, read⟩
    · exact ⟨.close, by decide, _, rfl, read⟩
    · exact ⟨.error, by decide, _, rfl, read⟩

/-- No argument closes the call before its own end has been seen. -/
theorem inParam_goesOn : GoesOn Reader.cursor [.inParam, .betweenParams, .error] inParam := by
  intro reader
  have read := Cursor.Reaches.next reader.cursor
  unfold inParam
  -- At the end of the text the reading is over, and otherwise a character was read.
  split
  next => exact ⟨.error, by decide, _, rfl, .refl _⟩
  next c cursor moved =>
    rw [moved] at read
    split_ifs
    · exact ⟨.betweenParams, by decide, _, rfl, read⟩
    · exact ⟨.inParam, by decide, _, rfl, read⟩

/-- Every action of the native dialect has its entry, since no handler closes from inside an argument. -/
theorem complete : Complete table Reader.cursor := by
  -- The entries are taken in the order of the table.
  refine .of_provided fun entry member => ?_
  simp only [table, List.mem_cons, List.not_mem_nil, or_false] at member
  rcases member with rfl | rfl | rfl | rfl | rfl | rfl | rfl | rfl
  · exact .onward betweenParams_goesOn (by decide)
  · exact .onward betweenParams_goesOn (by decide)
  · exact .onward inParam_goesOn (by decide)
  · exact .final (by decide)
  · exact .final (by decide)
  · exact .onward inParam_goesOn (by decide)
  · exact .onward betweenParams_goesOn (by decide)
  · exact .final (by decide)

end Native

namespace Ubo

/-- Before an argument blanks are passed over, and after that a parenthesis or a whole expression. -/
theorem betweenParams_goesOn :
    GoesOn Reader.cursor [.betweenParams, .inParam, .error] betweenParams := by
  intro reader
  -- Without an expression the place behind the blanks is kept, and the next handler reads on from it.
  have blank : reader.cursor.Reaches reader.cursor.skipBlank := ⟨_, rfl⟩
  have read := blank.trans (.next _)
  unfold betweenParams
  dsimp only
  split
  next =>
    split
    next cursor moved =>
      rw [moved] at read
      exact ⟨.betweenParams, by decide, _, rfl, read⟩
    next found cursor other moved =>
      rw [moved] at read
      exact ⟨.error, by decide, _, rfl, read⟩
  next =>
    split
    next rest slash =>
      split
      next body found =>
        exact ⟨.inParam, by decide, _, rfl, blank.trans ⟨_, rfl⟩⟩
      next => exact ⟨.error, by decide, _, rfl, blank⟩
    next => exact ⟨.inParam, by decide, _, rfl, blank⟩

/-- Inside an argument one character is passed over, whatever it leads to. -/
theorem inParam_goesOn :
    GoesOn Reader.cursor [.inParam, .betweenParams, .close, .error] inParam := by
  intro reader
  have read := Cursor.Reaches.next reader.cursor
  unfold inParam
  split
  next => exact ⟨.error, by decide, _, rfl, .refl _⟩
  next c cursor moved =>
    rw [moved] at read
    -- A comma, the end of the call, and anything else.
    split_ifs
    · exact ⟨.betweenParams, by decide, _, rfl, read⟩
    · exact ⟨.close, by decide, _, rfl, read⟩
    · exact ⟨.inParam, by decide, _, rfl, read⟩

/-- Every action of this dialect has its entry, since no handler closes between arguments. -/
theorem complete : Complete table Reader.cursor := by
  -- The entries are taken in the order of the table.
  refine .of_provided fun entry member => ?_
  simp only [table, List.mem_cons, List.not_mem_nil, or_false] at member
  rcases member with rfl | rfl | rfl | rfl | rfl | rfl | rfl | rfl
  · exact .onward betweenParams_goesOn (by decide)
  · exact .onward betweenParams_goesOn (by decide)
  · exact .onward inParam_goesOn (by decide)
  · exact .final (by decide)
  · exact .onward inParam_goesOn (by decide)
  · exact .onward betweenParams_goesOn (by decide)
  · exact .final (by decide)
  · exact .final (by decide)

end Ubo

namespace Abp

/-- Inside an argument one character is passed over, and one more behind a backslash. -/
theorem inParam_goesOn :
    GoesOn Reader.cursor [.inParam, .betweenParams, .close, .error] inParam := by
  intro reader
  have read := Cursor.Reaches.next reader.cursor
  unfold inParam
  split
  next =>
    split_ifs
    · exact ⟨.error, by decide, _, rfl, .refl _⟩
    · exact ⟨.close, by decide, _, rfl, by simp [Cursor.Reaches.refl]⟩
  next c cursor moved =>
    rw [moved] at read
    -- Behind a backslash the next character is taken along.
    have escaped := read.trans (.next _)
    dsimp only
    split
    next quote opened =>
      split_ifs
      · exact ⟨.betweenParams, by decide, _, rfl, read⟩
      · split
        next => exact ⟨.error, by decide, _, rfl, read⟩
        next d cursor again =>
          rw [again] at escaped
          exact ⟨.inParam, by decide, _, rfl, escaped⟩
      · exact ⟨.inParam, by decide, _, rfl, read⟩
    next =>
      split_ifs
      · exact ⟨.inParam, by decide, _, rfl, read⟩
      · exact ⟨.inParam, by decide, _, rfl, read⟩
      · exact ⟨.inParam, by decide, _, rfl, by simpa using read⟩
      · exact ⟨.inParam, by decide, _, rfl, read⟩

/-- Behind a closing quote one character is passed over, if there is one. -/
theorem betweenParams_goesOn : GoesOn Reader.cursor [.inParam, .close, .error] betweenParams := by
  intro reader
  have read := Cursor.Reaches.next reader.cursor
  unfold betweenParams
  split
  next => exact ⟨.close, by decide, _, rfl, by simp [Cursor.Reaches.refl]⟩
  next c cursor moved =>
    rw [moved] at read
    dsimp only
    -- A blank, the end of a statement, and anything else.
    split_ifs
    · exact ⟨.inParam, by decide, _, rfl, read⟩
    · exact ⟨.inParam, by decide, _, rfl, by simpa using read⟩
    · exact ⟨.error, by decide, _, rfl, read⟩

/-- Every action of this dialect has its entry. -/
theorem complete : Complete table Reader.cursor := by
  -- The entries are taken in the order of the table.
  refine .of_provided fun entry member => ?_
  simp only [table, List.mem_cons, List.not_mem_nil, or_false] at member
  rcases member with rfl | rfl | rfl | rfl | rfl | rfl | rfl | rfl
  · exact .onward inParam_goesOn (by decide)
  · exact .onward inParam_goesOn (by decide)
  · exact .onward betweenParams_goesOn (by decide)
  · exact .final (by decide)
  · exact .final (by decide)
  · exact .onward inParam_goesOn (by decide)
  · exact .final (by decide)
  · exact .final (by decide)

end Abp

/-- On every text the machines of all dialects finish, within four transitions and two a character. -/
theorem machines_finish (text : String) :
    Finishes Native.table Native.Reader.cursor .betweenParams
      { cursor := .start ((Native.afterMark? text.toList).getD text.toList) }
      (2 * ((Native.afterMark? text.toList).getD text.toList).length + 4) ∧
    Finishes Ubo.table Ubo.Reader.cursor .betweenParams
      { cursor := .start ((Ubo.afterMark? text.toList).getD text.toList) }
      (2 * ((Ubo.afterMark? text.toList).getD text.toList).length + 4) ∧
    Finishes Abp.table Abp.Reader.cursor .inParam
      { cursor := .start (Text.trim text.toList) } (2 * (Text.trim text.toList).length + 4) := by
  -- What a machine may still do at its start is two steps a character and at most two more.
  refine ⟨Native.complete.finishes rfl ?_, Ubo.complete.finishes rfl ?_, Abp.complete.finishes rfl ?_⟩
  · simp [Native.work, readerWork, Cursor.start]
  · simp [Ubo.work, readerWork, Cursor.start]
  · simp [Abp.work, readerWork, Cursor.start]

end AdFilter.Scriptlet
