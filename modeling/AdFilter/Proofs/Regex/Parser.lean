import AdFilter.Proofs.Regex.Search
import AdFilter.Regex.Compile
import Mathlib

/-! What one step of the reader does, and what holds of every expression that is read. -/

namespace AdFilter.Regex

/-- The source begins with something that stands for a part of its own. -/
inductive Pushes (flags : Flags) : List Char → Part → List Char → Prop
  | set {source nested rest} (read : bracketed flags source = some (nested, rest)) :
      Pushes flags ('[' :: source) ⟨.chars nested.set, nested.depth, true⟩ rest
  | escape {source atom part rest} (read : escape flags source = some (atom, rest))
      (made : atom.part flags = some part) : Pushes flags ('\\' :: source) part rest
  | dot {rest set} (found : flags.dot = some set) : Pushes flags ('.' :: rest) ⟨.chars set, 0, true⟩ rest
  | start {rest} : Pushes flags ('^' :: rest) ⟨.look flags.startAnchor, 0, true⟩ rest
  | stop {rest} : Pushes flags ('$' :: rest) ⟨.look flags.endAnchor, 0, true⟩ rest
  | literal {c rest part} (plain : c ∉ "()|[?*+\x7b\\.^$".toList)
      (made : (Atom.literal c false).part flags = some part) : Pushes flags (c :: rest) part rest

/-- The source without a question mark in front, which changes no match. -/
def dropLazy : List Char → List Char
  | '?' :: rest => rest
  | rest => rest

/-- The source begins with a number of repetitions. -/
inductive Asks (flags : Flags) : List Char → Nat → Option Nat → List Char → Prop
  | optional {rest} : Asks flags ('?' :: rest) 0 (some 1) (dropLazy rest)
  | star {rest} : Asks flags ('*' :: rest) 0 none (dropLazy rest)
  | plus {rest} : Asks flags ('+' :: rest) 1 none (dropLazy rest)
  | count {source least most rest} (read : bounds? flags source = some (least, most, rest)) :
      Asks flags ('\x7b' :: source) least most rest

/-- One step of the reader, from the group under way and those around it to the next ones. -/
inductive Moves (now : OpenGroup) : List OpenGroup → List Char → OpenGroup → List OpenGroup →
    List Char → Prop
  | push {outer source part rest} (pushes : Pushes now.flags source part rest) :
      Moves now outer source { now with parts := part :: now.parts } outer rest
  | again {outer source least most parts rest} (asks : Asks now.flags source least most rest)
      (repeated : repeatLast least most now.parts = some parts) :
      Moves now outer source { now with parts } outer rest
  | switch {outer source inner rest} (head : groupHead now.flags source = some (.switch inner, rest)) :
      Moves now outer ('(' :: source)
        { now with flags := inner, parts := ⟨.empty, 0, false⟩ :: now.parts } outer rest
  | opens {outer source inner name rest}
      (head : groupHead now.flags source = some (.opens inner name, rest)) :
      Moves now outer ('(' :: source) ⟨inner, [], []⟩ (now :: outer) rest
  | closes {parent outer rest} :
      Moves now (parent :: outer) (')' :: rest)
        { parent with parts := ⟨now.part.expr, now.part.depth + 1, true⟩ :: parent.parts } outer rest
  | bar {outer rest} :
      Moves now outer ('|' :: rest)
        { now with branches := joinParts now.parts :: now.branches, parts := [] } outer rest

/-- A reader that yields something has come to the end of the source, or moves and goes on. -/
theorem exists_of_read {fuel : Nat} {now : OpenGroup} {outer : List OpenGroup}
    {names : List (List Char)} {source : List Char} {part : Part}
    (yields : read fuel now outer names source = some part) :
    (now.flags.skip source = [] ∧ outer = [] ∧ part = now.part) ∨
      ∃ fuel' now' outer' names' rest, fuel' < fuel ∧
        Moves now outer (now.flags.skip source) now' outer' rest ∧
        read fuel' now' outer' names' rest = some part := by
  -- Each branch of the reader is one of the moves, and hands on less fuel than it has.
  cases fuel with
  | zero => cases yields
  | succ fuel =>
    rw [read] at yields
    simp only at yields
    have go {next : OpenGroup} {outer' : List OpenGroup} {names' : List (List Char)}
        {rest : List Char} (moves : Moves now outer (now.flags.skip source) next outer' rest)
        (yields : read fuel next outer' names' rest = some part) :
        ∃ fuel' now' outer' names' rest, fuel' < fuel + 1 ∧
          Moves now outer (now.flags.skip source) now' outer' rest ∧
          read fuel' now' outer' names' rest = some part :=
      ⟨fuel, next, outer', names', rest, Nat.lt_succ_self fuel, moves, yields⟩
    generalize now.flags.skip source = text at *
    split at yields
    · -- The end of the source is the end of the expression unless a group is open.
      left
      cases outer with
      | nil => simpa using yields.symm
      | cons parent outer => simp at yields
    all_goals
      right
      try simp only [Option.bind_eq_bind, Option.bind_eq_some_iff] at yields
    · -- A parenthesis switches flags or opens a group.
      obtain ⟨⟨head, rest⟩, read, yields⟩ := yields
      cases head with
      | switch inner => exact go (.switch read) yields
      | opens inner name =>
        obtain ⟨_, _, yields⟩ := Option.bind_eq_some_iff.mp yields
        exact go (.opens read) yields
    · split at yields
      · cases yields
      · -- A closing parenthesis belongs to the group around.
        exact go .closes yields
    · -- A bar ends a branch.
      exact go .bar yields
    · -- A set is a part of its own.
      obtain ⟨⟨set, rest⟩, read, yields⟩ := yields
      exact go (.push (.set read)) yields
    · obtain ⟨parts, repeated, yields⟩ := yields
      exact go (.again .optional repeated) yields
    · obtain ⟨parts, repeated, yields⟩ := yields
      exact go (.again .star repeated) yields
    · obtain ⟨parts, repeated, yields⟩ := yields
      exact go (.again .plus repeated) yields
    · -- Bounds in braces repeat the last part, like the three signs before.
      obtain ⟨⟨least, most, rest⟩, read, parts, repeated, yields⟩ := yields
      exact go (.again (.count read) repeated) yields
    · -- An escape is a part of its own, and so are a dot and the two ends.
      obtain ⟨⟨atom, rest⟩, read, part, made, yields⟩ := yields
      exact go (.push (.escape read made)) yields
    · obtain ⟨set, found, yields⟩ := yields
      exact go (.push (.dot found)) yields
    · exact go (.push .start) yields
    · exact go (.push .stop) yields
    · -- Any other character stands for itself.
      rename_i c rest _ _ _ _ _ _ _ _ _ _ _ _
      obtain ⟨part, made, yields⟩ := yields
      exact go (.push (.literal (by simp_all) made)) yields

/-- A row of expressions has its bounds in order if each of them has. -/
theorem bounded_cats {exprs : List Regex} (bounded : ∀ r ∈ exprs, r.Bounded) :
    (cats exprs).Bounded := by
  -- One expression stands for itself, and more of them are joined two by two.
  fun_induction cats exprs with
  | case1 => trivial
  | case2 r => exact bounded r (by simp)
  | case3 r rest _ ih => exact ⟨bounded r (by simp), ih fun s member => bounded s (by simp [member])⟩

/-- A choice of expressions has its bounds in order if each of them has. -/
theorem bounded_alts {exprs : List Regex} (bounded : ∀ r ∈ exprs, r.Bounded) :
    (alts exprs).Bounded := by
  -- One expression stands for itself, and more of them are joined two by two.
  fun_induction alts exprs with
  | case1 => trivial
  | case2 r => exact bounded r (by simp)
  | case3 r rest _ ih => exact ⟨bounded r (by simp), ih fun s member => bounded s (by simp [member])⟩

/-- Several parts in a row are their expressions in a row. -/
theorem expr_joinParts (parts : List Part) :
    (joinParts parts).expr = cats (parts.reverse.map (·.expr)) := by
  unfold joinParts
  split <;> rfl

/-- Several branches are a choice of their expressions. -/
theorem expr_joinBranches (parts : List Part) :
    (joinBranches parts).expr = alts (parts.reverse.map (·.expr)) := by
  unfold joinBranches
  split <;> rfl

/-- All expressions read so far in a group have their bounds in order. -/
structure OpenGroup.Bounded (group : OpenGroup) : Prop where
  branches : ∀ part ∈ group.branches, part.expr.Bounded
  parts : ∀ part ∈ group.parts, part.expr.Bounded

/-- Parts in a row have their bounds in order. -/
theorem bounded_joinParts {parts : List Part} (bounded : ∀ part ∈ parts, part.expr.Bounded) :
    (joinParts parts).expr.Bounded := by
  -- The parts are kept in reverse, which changes none of them.
  rw [expr_joinParts]
  refine bounded_cats fun r member => ?_
  obtain ⟨part, inside, rfl⟩ := List.mem_map.mp member
  exact bounded part (List.mem_reverse.mp inside)

/-- All that stands in a group has its bounds in order. -/
theorem OpenGroup.Bounded.part {group : OpenGroup} (bounded : group.Bounded) :
    group.part.expr.Bounded := by
  -- The branch under way is one more beside those that are done.
  rw [OpenGroup.part, expr_joinBranches]
  refine bounded_alts fun r member => ?_
  obtain ⟨part, inside, rfl⟩ := List.mem_map.mp member
  rcases List.mem_cons.mp (List.mem_reverse.mp inside) with rfl | inside
  · exact bounded_joinParts bounded.parts
  · exact bounded.branches part inside

/-- What stands for a part of its own repeats nothing. -/
theorem Pushes.bounded {flags : Flags} {source rest : List Char} {part : Part}
    (pushes : Pushes flags source part rest) : part.expr.Bounded := by
  -- Sets, conditions and single characters hold no repetition.
  have atoms {atom : Atom} (made : atom.part flags = some part) : part.expr.Bounded := by
    unfold Atom.part at made
    split at made
    · split at made
      · cases made
      · split at made <;> cases made <;> trivial
    all_goals
      cases made
      trivial
  cases pushes with
  | escape read made => exact atoms made
  | literal plain made => exact atoms made
  | _ => trivial

/-- Bounds with what ends them: a closing brace, and a question mark that changes nothing. -/
def boundsEnd (flags : Flags) (least : Nat) (most : Option Nat) :
    List Char → Option (Nat × Option Nat × List Char)
  | '\x7d' :: rest =>
    match flags.skip rest with
    | '?' :: rest => some (least, most, rest)
    | rest => some (least, most, rest)
  | _ => none

/-- Behind the bounds in braces stands the closing one, and the bounds are in order. -/
theorem exists_of_bounds? {flags : Flags} {source rest : List Char} {least : Nat}
    {most : Option Nat} (read : bounds? flags source = some (least, most, rest)) :
    (∀ m ∈ most, least ≤ m) ∧ ∃ behind closing,
      decimal? flags (flags.skip source) = some (least, behind) ∧
      (behind = '}' :: closing ∨
        (∃ further, behind = ',' :: further ∧ flags.skip further = '}' :: closing) ∨
        ∃ further second, behind = ',' :: further ∧
          decimal? flags (flags.skip further) = some (second, '}' :: closing)) ∧
      (flags.skip closing = rest ∨ flags.skip closing = '?' :: rest) := by
  -- All forms of bounds end alike.
  have ending {low : Nat} {high : Option Nat} {behind : List Char}
      (read : (guard (high.all (low ≤ ·) = true) : Option Unit).bind
        (fun _ => boundsEnd flags low high behind) = some (least, most, rest)) :
      (∀ m ∈ most, least ≤ m) ∧ low = least ∧ ∃ closing, behind = '}' :: closing ∧
        (flags.skip closing = rest ∨ flags.skip closing = '?' :: rest) := by
    obtain ⟨_, ordered, read⟩ := Option.bind_eq_some_iff.mp read
    -- The bounds are refused unless they are in order.
    have ordered : ∀ m ∈ high, low ≤ m := by
      have passed : high.all (low ≤ ·) = true := by simpa [guard] using ordered
      simpa [Option.all_eq_true] using passed
    unfold boundsEnd at read
    split at read
    · rename_i closing _
      split at read
      · rename_i same
        cases read
        exact ⟨ordered, rfl, closing, rfl, Or.inr same⟩
      · cases read
        exact ⟨ordered, rfl, closing, rfl, Or.inl rfl⟩
    · cases read
  unfold bounds? at read
  simp only [Option.bind_eq_bind, Option.bind_eq_some_iff] at read
  obtain ⟨⟨first, behind⟩, one, read⟩ := read
  simp only at read
  split at read
  · rename_i further
    split at read
    · rename_i closing skipped
      -- A comma with nothing behind it leaves the number open.
      obtain ⟨ordered, rfl, closing, same, further⟩ := @ending first none ('\x7d' :: closing) read
      cases same
      exact ⟨ordered, _, _, one, Or.inr (Or.inl ⟨_, rfl, skipped⟩), further⟩
    · -- A second number is the most that is asked for.
      obtain ⟨⟨second, behind⟩, two, read⟩ := Option.bind_eq_some_iff.mp read
      obtain ⟨ordered, rfl, closing, same, further⟩ := @ending first (some second) behind read
      cases same
      exact ⟨ordered, _, _, one, Or.inr (Or.inr ⟨_, second, rfl, two⟩), further⟩
  · -- A number alone is the least and the most.
    obtain ⟨ordered, rfl, closing, same, further⟩ := @ending first (some first) behind read
    cases same
    exact ⟨ordered, _, _, one, Or.inl rfl, further⟩

/-- The number of repetitions that is asked for at least is not greater than the most. -/
theorem Asks.bounds {flags : Flags} {source rest : List Char} {least : Nat} {most : Option Nat}
    (asks : Asks flags source least most rest) : ∀ m ∈ most, least ≤ m := by
  -- Only bounds in braces can be out of order, and those are checked as they are read.
  cases asks with
  | count read => exact (exists_of_bounds? read).1
  | _ => simp

/-- A step of the reader keeps all bounds in order. -/
theorem Moves.bounded {now now' : OpenGroup} {outer outer' : List OpenGroup}
    {source rest : List Char} (moves : Moves now outer source now' outer' rest)
    (bounded : now.Bounded) (around : ∀ group ∈ outer, group.Bounded) :
    now'.Bounded ∧ ∀ group ∈ outer', group.Bounded := by
  -- Each move changes the group under way, or opens or closes one around it.
  have pushed {part : Part} {group : OpenGroup} (good : part.expr.Bounded) (bounded : group.Bounded) :
      OpenGroup.Bounded { group with parts := part :: group.parts } :=
    ⟨bounded.branches, fun other member => by
      rcases List.mem_cons.mp member with rfl | member
      · exact good
      · exact bounded.parts other member⟩
  cases moves with
  -- A new part has no bounds that could be out of order.
  | push pushes => exact ⟨pushed pushes.bounded bounded, around⟩
  | again asks repeated =>
    refine ⟨⟨bounded.branches, fun part member => ?_⟩, around⟩
    -- Only the last part changes.
    cases row : now.parts with
    | nil => simp [row, repeatLast] at repeated
    | cons last more =>
      simp only [row, repeatLast] at repeated
      split at repeated
      · cases repeated
        rcases List.mem_cons.mp member with rfl | member
        · -- The part that is repeated gets the bounds that were asked for.
          exact ⟨bounded.parts last (by simp [row]), asks.bounds⟩
        · exact bounded.parts part (by simp [row, member])
      · cases repeated
  | switch head =>
    exact ⟨⟨bounded.branches, (@pushed ⟨.empty, 0, false⟩ _ trivial bounded).parts⟩, around⟩
  | opens head =>
    -- A group that opens has no parts yet, and the one under way is put around it.
    refine ⟨⟨by simp, by simp⟩, fun group member => ?_⟩
    rcases List.mem_cons.mp member with rfl | member
    · exact bounded
    · exact around group member
  | closes =>
    -- A group that closes becomes a part of the one around it.
    exact ⟨pushed bounded.part (around _ (by simp)), fun group member =>
      around group (by simp [member])⟩
  | bar =>
    -- The parts so far become a branch.
    refine ⟨⟨fun part member => ?_, by simp⟩, around⟩
    rcases List.mem_cons.mp member with rfl | member
    · exact bounded_joinParts bounded.parts
    · exact bounded.branches part member

/-- A reader that has its bounds in order yields an expression that has. -/
theorem bounded_read {fuel : Nat} {now : OpenGroup} {outer : List OpenGroup}
    {names : List (List Char)} {source : List Char} {part : Part}
    (yields : read fuel now outer names source = some part) (bounded : now.Bounded)
    (around : ∀ group ∈ outer, group.Bounded) : part.expr.Bounded := by
  -- The induction is on the fuel, which gets less with every move.
  induction fuel using Nat.strongRecOn generalizing now outer names source with
  | _ fuel ih =>
    rcases exists_of_read yields with
      ⟨_, _, rfl⟩ | ⟨less, now', outer', names', rest, lower, moves, yields⟩
    · exact bounded.part
    · -- A move keeps the bounds in order, and the rest is read with less fuel.
      obtain ⟨bounded, around⟩ := moves.bounded bounded around
      exact ih less lower yields bounded around

/-- In every expression that is read the bounds are in order. -/
theorem bounded_parse? {ignoreCase : Bool} {source : List Char} {r : Regex}
    (parsed : parse? ignoreCase source = some r) : r.Bounded := by
  -- The reader starts in a group without parts, where there is nothing to check.
  unfold parse? at parsed
  simp only [Option.bind_eq_bind, Option.bind_eq_some_iff] at parsed
  obtain ⟨part, yields, _, _, same⟩ := parsed
  cases same
  exact bounded_read yields ⟨by simp, by simp⟩ (by simp)

/-- In every expression that is accepted the bounds are in order. -/
theorem bounded_compile {ignoreCase : Bool} {source : List Char} {r : Regex}
    (compiled : compile ignoreCase source = .ok r) : r.Bounded := by
  unfold compile at compiled
  split at compiled
  · cases compiled
  · rename_i parsed
    -- An expression that is small enough is the one that was read.
    split at compiled
    · cases compiled
      exact bounded_parse? parsed
    · cases compiled

end AdFilter.Regex
