import AdFilter.Scriptlet.Cursor
import AdFilter.Scriptlet.Machine
import Mathlib

/-! What a machine does transition by transition, and the end that every run comes to when the table is complete. -/

namespace AdFilter.Scriptlet

namespace Cursor

/-- A later place in the text: some characters more have been passed over. -/
def Reaches (cursor later : Cursor) : Prop := ∃ n, later = cursor.skip n

namespace Reaches

variable {cursor later last : Cursor}

/-- Every place is as late as itself. -/
theorem refl (cursor : Cursor) : cursor.Reaches cursor := ⟨0, rfl⟩

/-- What is passed over in two goes is passed over. -/
theorem trans (first : cursor.Reaches later) (second : later.Reaches last) : cursor.Reaches last := by
  -- The characters of both goes stand next to each other in the text.
  obtain ⟨n, rfl⟩ := first
  obtain ⟨m, rfl⟩ := second
  exact ⟨n + m, by simp [skip, List.take_add]⟩

/-- Reading a character passes over it, and over nothing at the end. -/
theorem next (cursor : Cursor) : cursor.Reaches cursor.next.2 := by
  -- The cursor moves by one character, or by none at the end.
  refine ⟨1, ?_⟩
  rcases cursor with ⟨passed, rest⟩
  cases rest <;> rfl

/-- A later place has no fewer characters before it. -/
theorem position_le (reaches : cursor.Reaches later) : cursor.position ≤ later.position := by
  -- So many characters were passed, or all that were left.
  obtain ⟨n, rfl⟩ := reaches
  simp [position, skip]

end Reaches

end Cursor

variable {C : Type} {work : State → C → Nat} {table : List (Transition C work)}
  {state action next : State} {context after : C} {entry : Transition C work}

section Dispatch

/-- An action whose entry asks for another one gives way to that. -/
theorem dispatch_of_next (found : table.find? (·.fits state action) = some entry)
    (reply : entry.handler context = (some next, after)) :
    dispatch table state action context = dispatch table action next after := by
  rw [dispatch]
  -- The table has the entry, and the entry says what is next.
  split <;> simp_all
  split <;> simp_all

/-- An action whose entry asks for nothing is the last one. -/
theorem dispatch_of_last (found : table.find? (·.fits state action) = some entry)
    (reply : entry.handler context = (none, after)) :
    dispatch table state action context = (action, after) := by
  rw [dispatch]
  -- The table has the entry, and the entry ends the reading.
  split <;> simp_all
  split <;> simp_all

/-- What an action brings about depends on the state through the handler alone. -/
theorem dispatch_congr {other : State} {again : Transition C work}
    (found : table.find? (·.fits state action) = some entry)
    (elsewhere : table.find? (·.fits other action) = some again)
    (same : entry.handler context = again.handler context) :
    dispatch table state action context = dispatch table other action context := by
  -- Once the handler has replied, the machine is in the state of the action either way.
  cases reply : entry.handler context with
  | mk asked after =>
    have answer := same.symm.trans reply
    cases asked with
    | none => rw [dispatch_of_last found reply, dispatch_of_last elsewhere answer]
    | some next => rw [dispatch_of_next found reply, dispatch_of_next elsewhere answer]

end Dispatch

/-- A machine at work: its state, the action that is due, if there is one, and the context. -/
structure Moment (C : Type) where
  state : State
  due : Option State
  context : C

/-- What the machine comes to from here. -/
def Moment.outcome (table : List (Transition C work)) (moment : Moment C) : State × C :=
  match moment.due with
  | none => (moment.state, moment.context)
  | some action => dispatch table moment.state action moment.context

/-- One transition: the action that is due becomes the state, and its handler says what is due next. -/
inductive Transits (table : List (Transition C work)) : Moment C → Moment C → Prop
  | entry {state action : State} {context : C} {entry : Transition C work}
    (found : table.find? (·.fits state action) = some entry) :
    Transits table ⟨state, some action, context⟩
      ⟨action, (entry.handler context).1, (entry.handler context).2⟩

/-- So many transitions, one after the other. -/
inductive Runs (table : List (Transition C work)) : Nat → Moment C → Moment C → Prop
  | stop (moment : Moment C) : Runs table 0 moment moment
  | go {count : Nat} {moment next final : Moment C} (first : Transits table moment next)
    (rest : Runs table count next final) : Runs table (count + 1) moment final

/-- A transition changes nothing about what the machine comes to. -/
theorem Transits.outcome_eq {moment next : Moment C} (transits : Transits table moment next) :
    moment.outcome table = next.outcome table := by
  cases transits with
  | @entry state action context entry found =>
    simp only [Moment.outcome]
    -- What is due next is dispatched in turn, or the machine is where it stays.
    cases reply : entry.handler context with
    | mk asked after =>
      cases asked with
      | none => exact dispatch_of_last found reply
      | some next => exact dispatch_of_next found reply

/-- What the machine comes to is known as soon as nothing is due. -/
theorem Runs.outcome_eq {count : Nat} {moment final : Moment C} (runs : Runs table count moment final)
    (ended : final.due = none) : moment.outcome table = (final.state, final.context) := by
  -- The outcome is the same after each transition, and at the end it is the moment itself.
  induction runs with
  | stop moment => simp only [Moment.outcome, ended]
  | go first rest ih => exact first.outcome_eq.trans (ih ended)

/-- A table in which no action is without an entry, and whose handlers never go back in the text. -/
structure Complete (table : List (Transition C work)) (cursor : C → Cursor) : Prop where
  /-- What a handler asks for has an entry in the state that the machine is in by then. -/
  answered : ∀ entry ∈ table, ∀ context next, (entry.handler context).1 = some next →
    (table.find? (·.fits entry.action next)).isSome = true
  /-- A handler that asks for nothing is one of a final state. -/
  ended : ∀ entry ∈ table, ∀ context, (entry.handler context).1 = none →
    entry.action = .close ∨ entry.action = .error
  /-- A handler passes over characters, if it moves at all. -/
  onward : ∀ entry ∈ table, ∀ context, (cursor context).Reaches (cursor (entry.handler context).2)

/-- A machine comes to a proper end within some number of transitions, and never gets stuck or goes back. -/
structure Finishes (table : List (Transition C work)) (cursor : C → Cursor) (action : State)
    (context : C) (limit : Nat) : Prop where
  /-- The transitions come to an end in a final state, which is what the run gives. -/
  ends : ∃ count final, Runs table count ⟨.init, some action, context⟩ final ∧ count ≤ limit ∧
    final.due = none ∧ (final.state = .close ∨ final.state = .error) ∧
    run table action context = (final.state, final.context)
  /-- No handler asks for an action without an entry. -/
  answered : ∀ moment next : Moment C, Transits table moment next → next.due ≠ none →
    ∃ later, Transits table next later
  /-- No handler moves the cursor back. -/
  onward : ∀ moment next : Moment C, Transits table moment next →
    (cursor moment.context).position ≤ (cursor next.context).position

/-- An entry that is found is one of the table, for the action that was due. -/
theorem of_found (found : table.find? (·.fits state action) = some entry) :
    entry ∈ table ∧ entry.action = action := by
  have member := List.mem_of_find?_eq_some found
  -- An entry fits the state and the action together.
  have fits := List.find?_some found
  simp only [Transition.fits, Bool.and_eq_true, beq_iff_eq] at fits
  exact ⟨member, fits.2⟩

namespace Complete

variable {cursor : C → Cursor}

/-- What is due after a transition has an entry. -/
theorem transits_of_due (complete : Complete table cursor) {moment next : Moment C}
    (transits : Transits table moment next) (due : next.due ≠ none) :
    ∃ later, Transits table next later := by
  cases transits with
  | @entry state action context entry found =>
    obtain ⟨member, rfl⟩ := of_found found
    simp only at due ⊢
    cases reply : (entry.handler context).1 with
    | none => exact absurd reply due
    | some asked =>
      -- The machine is in the state of the entry by now, and the table answers from there.
      have answered := complete.answered entry member context asked reply
      obtain ⟨follower, follows⟩ := Option.isSome_iff_exists.mp answered
      exact ⟨_, .entry follows⟩

/-- No transition goes back in the text. -/
theorem position_le (complete : Complete table cursor) {moment next : Moment C}
    (transits : Transits table moment next) :
    (cursor moment.context).position ≤ (cursor next.context).position := by
  -- Every handler of the table moves the cursor on, or leaves it.
  cases transits with
  | @entry state action context entry found =>
    exact (complete.onward entry (of_found found).1 context).position_le

/-- A run takes no more transitions than there is work left, and one, and comes to a final state. -/
theorem exists_runs (complete : Complete table cursor) (context : C)
    (found : (table.find? (·.fits state action)).isSome = true) :
    ∃ count final, Runs table count ⟨state, some action, context⟩ final ∧
      count ≤ work action context + 1 ∧ final.due = none ∧
      (final.state = .close ∨ final.state = .error) := by
  -- Each handler leaves less work than it found, whatever the state is that follows.
  induction left : work action context using Nat.strong_induction_on
    generalizing state action context with
  | _ amount ih =>
    obtain ⟨entry, found⟩ := Option.isSome_iff_exists.mp found
    obtain ⟨member, rfl⟩ := of_found found
    have first : Transits table ⟨state, some entry.action, context⟩
        ⟨entry.action, (entry.handler context).1, (entry.handler context).2⟩ := .entry found
    cases reply : (entry.handler context).1 with
    | none =>
      -- The first transition is the last one.
      have proper := complete.ended entry member context reply
      exact ⟨1, _, .go first (.stop _), by omega, reply, proper⟩
    | some next =>
      have less := entry.progress context next (entry.handler context).2 (by rw [← reply])
      have answered := complete.answered entry member context next reply
      rw [left] at less
      rw [reply] at first
      obtain ⟨count, final, rest, bounded, ended⟩ := ih _ less _ answered rfl
      exact ⟨count + 1, final, .go first rest, by omega, ended⟩

/-- A machine with a complete table finishes. -/
theorem finishes (complete : Complete table cursor) {limit : Nat}
    (starts : (table.find? (·.fits .init action)).isSome = true) (bound : work action context < limit) :
    Finishes table cursor action context limit where
  ends := by
    -- The work is an upper bound of the steps, and it is below the limit.
    obtain ⟨count, final, runs, few, ended, proper⟩ := complete.exists_runs context starts
    exact ⟨count, final, runs, by omega, ended, proper, runs.outcome_eq ended⟩
  answered _ _ := complete.transits_of_due
  onward _ _ := complete.position_le

end Complete

end AdFilter.Scriptlet
