import AdFilter.Network.Pattern
import AdFilter.Proofs.Regex.Letters
import AdFilter.Regex.Compile

/-! The source of a basic pattern is always an expression, and which one that is. -/

namespace AdFilter

namespace Regex

/-- A source adds expressions to the row under way, whatever that is, before the rest is read. -/
def Adds (flags : Flags) (source : List Char) (exprs : List Regex) (rest : List Char) : Prop :=
  ∃ added spent, added.reverse.map (·.expr) = exprs ∧ (∀ part ∈ added, part.depth ≤ 6) ∧
    spent ≤ source.length ∧ ∀ fuel branches parts outer names,
      read (fuel + spent) ⟨flags, branches, parts⟩ outer names (source ++ rest) =
        read fuel ⟨flags, branches, added ++ parts⟩ outer names rest

section Adds

variable {flags : Flags} {source more rest : List Char} {exprs others : List Regex}

/-- Nothing adds nothing. -/
theorem Adds.nil : Adds flags [] [] rest := ⟨[], 0, rfl, by simp, by simp, by simp⟩

/-- One source after the other adds the expressions of both. -/
theorem Adds.append (first : Adds flags source exprs (more ++ rest))
    (second : Adds flags more others rest) : Adds flags (source ++ more) (exprs ++ others) rest := by
  obtain ⟨added, spent, rfl, shallow, short, reads⟩ := first
  obtain ⟨further, costs, rfl, flat, brief, goes⟩ := second
  -- What was read last comes first in the row, and the steps add up.
  refine ⟨further ++ added, costs + spent, by simp, ?_, by simp; omega, ?_⟩
  · intro part member
    exact (List.mem_append.mp member).elim (flat part) (shallow part)
  · intro fuel branches parts outer names
    rw [← Nat.add_assoc, List.append_assoc, reads, goes, List.append_assoc]

/-- One part that is read in so many steps adds its expression. -/
theorem Adds.single (part : Part) (shallow : part.depth ≤ 6) (spent : Nat)
    (short : spent ≤ source.length)
    (reads : ∀ fuel branches parts outer names,
      read (fuel + spent) ⟨flags, branches, parts⟩ outer names (source ++ rest) =
        read fuel ⟨flags, branches, part :: parts⟩ outer names rest) :
    Adds flags source [part.expr] rest :=
  ⟨[part], spent, rfl, by simpa using shallow, short, reads⟩

/-- A source that adds expressions is the row of these, if nothing follows it. -/
theorem Adds.parse? {ignoreCase : Bool} (adds : Adds { ignoreCase } source exprs []) :
    parse? ignoreCase source = some (cats exprs) := by
  obtain ⟨added, spent, rfl, shallow, short, reads⟩ := adds
  -- The source costs no more steps than it has characters, so one is left for its end.
  have fuel : source.length + 1 = source.length - spent + 1 + spent := by omega
  -- At the end of the source the row has no other branches beside it.
  have row : read (source.length + 1) ⟨{ ignoreCase }, [], []⟩ [] [] source =
      some (joinParts added) := by
    have whole := reads (source.length - spent + 1) [] [] [] []
    rw [List.append_nil, List.append_nil] at whole
    rw [fuel, whole]
    rfl
  have deepest {depths : List Nat} {depth : Nat} (low : depth ≤ 6) (all : ∀ d ∈ depths, d ≤ 6) :
      depths.foldl max depth ≤ 6 := by
    induction depths generalizing depth with
    | nil => exact low
    | cons d depths ih => exact ih (by simp [low, all d]) fun e member => all e (by simp [member])
  -- The row is one level deeper than its parts, which is far from what is refused.
  have bound : (joinParts added).depth ≤ maxDepth := by
    unfold joinParts
    split
    · decide
    · exact (shallow _ (by simp)).trans (by decide)
    · have low : (added.map (·.depth)).foldl max 0 ≤ 6 :=
        deepest (Nat.zero_le 6) (by simpa using shallow)
      simp only [maxDepth]
      omega
  simp only [Regex.parse?, row, Option.bind_eq_bind, Option.bind_some, guard, if_pos bound,
    expr_joinParts]
  rfl

/-- A row of sources adds the expressions of all of them. -/
theorem Adds.flatMap {A : Type} {source : A → List Char} {expr : A → Regex}
    (each : ∀ a rest, rest.head? ≠ some '?' → Adds flags (source a) [expr a] rest)
    (eager : ∀ a rest, rest.head? ≠ some '?' → (source a ++ rest).head? ≠ some '?')
    (list : List A) (behind : rest.head? ≠ some '?') :
    (list.flatMap source ++ rest).head? ≠ some '?' ∧
      Adds flags (list.flatMap source) (list.map expr) rest := by
  -- What follows a source must not begin with a question mark, so that is carried along.
  induction list with
  | nil => exact ⟨behind, .nil⟩
  | cons a list ih =>
    obtain ⟨next, adds⟩ := ih
    rw [List.flatMap_cons, List.append_assoc]
    exact ⟨eager a _ next, (each a _ next).append adds⟩

end Adds

/-- Case is ignored in the expressions of patterns, unless they ask for it. -/
def folding : Flags := { ignoreCase := true }

/-- Anything, up to the end of a line. -/
def anythingExpr : Regex := .times (.chars (.compl (.only '\n'))) 0 none

/-- The schemes that a pattern for hosts knows. -/
def schemes : List String := ["http", "https", "ws", "wss"]

section Parts

variable (flags : Flags)

/-- The characters that separate no parts of an address. -/
def plainSet : CharSet :=
  flags.fold (.unions
    [.only ' ', .between 'a' 'z', .between 'A' 'Z', .between '0' '9', .only '.', .only '%'])

/-- A character that separates the parts of an address, or the end of the address. -/
def separatorExpr : Regex := .alt (.chars (.compl (plainSet flags))) (.look .textEnd)

/-- The scheme of an address. -/
def schemeExpr : Regex :=
  alts (schemes.map fun name => cats (name.toList.map (letterExpr flags)))

/-- The characters of a host, dots included. -/
def nameSet : CharSet :=
  flags.fold (.unions [.between 'a' 'z', .between '0' '9', .only '-', .only '_', .only '.'])

/-- The names before a host, with the dot behind them. -/
def subdomainExpr : Regex := .cat (.times (.chars (nameSet flags)) 1 none) (letterExpr flags '.')

/-- The start of an address up to the host or a domain that it belongs to. -/
def hostExprs : List Regex :=
  [.look .textStart, schemeExpr flags] ++ "://".toList.map (letterExpr flags) ++
    [.times (subdomainExpr flags) 0 (some 1)]

/-- One character of a pattern. -/
def charExpr (c : Char) : Regex :=
  if c = '*' then anythingExpr else if c = '^' then separatorExpr flags else letterExpr flags c

end Parts

variable {ignoreCase : Bool} {rest : List Char}

/-- A character in its quoted form adds its expression. -/
theorem adds_quoteChar (c : Char) :
    Adds { ignoreCase } (quoteChar c) [letterExpr { ignoreCase } c] rest := by
  cases special : isMeta c with
  | true =>
    -- Behind the backslash the character stands for itself.
    have quoted : quoteChar c = ['\\', c] := by simp [quoteChar, special]
    rw [quoted]
    refine .single ⟨letterExpr { ignoreCase } c, 0, true⟩ (Nat.zero_le 6) 1 (by simp) ?_
    intro fuel branches parts outer names
    simp only [isMeta, List.contains_eq_mem, decide_eq_true_eq] at special
    simp at special
    -- Each of these characters is read in the same way, by its own case.
    rcases special with rfl | rfl | rfl | rfl | rfl | rfl | rfl | rfl | rfl | rfl | rfl | rfl | rfl |
      rfl | rfl | rfl | rfl | rfl <;> rfl
  | false =>
    have quoted : quoteChar c = [c] := by simp [quoteChar, special]
    rw [quoted]
    refine .single ⟨letterExpr { ignoreCase } c, 0, true⟩ (Nat.zero_le 6) 1 (by simp) ?_
    intro fuel branches parts outer names
    -- No character that means something in a source comes into question.
    have dense : Flags.spaced { ignoreCase } = false := rfl
    rw [read]
    simp only [Flags.skip_eq dense, List.cons_append, List.nil_append]
    split
    case h_14 =>
      rename_i same
      cases same
      rfl
    all_goals
      rename_i same
      cases same
      try exact absurd special (by decide)

/-- The anchor at the start of a text adds its condition. -/
theorem adds_textStart : Adds { ignoreCase } ['^'] [.look .textStart] rest :=
  -- The reader takes one step for the sign.
  .single ⟨.look .textStart, 0, true⟩ (Nat.zero_le 6) 1 (by simp) fun _ _ _ _ _ => rfl

/-- The anchor at the end of a text adds its condition. -/
theorem adds_textEnd : Adds { ignoreCase } ['$'] [.look .textEnd] rest :=
  -- The reader takes one step for the sign.
  .single ⟨.look .textEnd, 0, true⟩ (Nat.zero_le 6) 1 (by simp) fun _ _ _ _ _ => rfl

/-- Where no question mark stands in front, none is dropped. -/
theorem dropLazy_of_head? (eager : rest.head? ≠ some '?') : dropLazy rest = rest := by
  unfold dropLazy
  split
  · simp at eager
  · rfl

/-- A star in a pattern adds its expression. -/
theorem adds_anything (eager : rest.head? ≠ some '?') :
    Adds { ignoreCase } Network.anything [anythingExpr] rest := by
  refine .single ⟨anythingExpr, 1, true⟩ (by decide) 2 (by decide) ?_
  intro fuel branches parts outer names
  -- A question mark behind the star of the source would belong to it.
  conv_rhs => rw [← dropLazy_of_head? eager]
  rfl

/-- A separator in a pattern adds its expression. -/
theorem adds_separator :
    Adds { ignoreCase } Network.separator [separatorExpr { ignoreCase }] rest :=
  -- A group with a set and an end of the text takes five steps to be read.
  .single ⟨separatorExpr { ignoreCase }, 4, true⟩ (by simp) 5 (by decide)
    fun _ _ _ _ _ => rfl

/-- The anchor for hosts adds its expressions. -/
theorem adds_hostAnchor (eager : rest.head? ≠ some '?') :
    Adds { ignoreCase } Network.hostAnchor (hostExprs { ignoreCase }) rest := by
  let flags : Flags := { ignoreCase }
  let letter (c : Char) : Part := ⟨letterExpr flags c, 0, true⟩
  refine ⟨[⟨.times (subdomainExpr flags) 0 (some 1), 6, true⟩, letter '/', letter '/', letter ':',
    ⟨schemeExpr flags, 3, true⟩, ⟨.look .textStart, 0, true⟩], 29, rfl, by simp [letter],
    by decide, ?_⟩
  intro fuel branches parts outer names
  -- A question mark behind the subdomains would belong to them; the rest of the source is fixed.
  conv_rhs => rw [← dropLazy_of_head? eager]
  rfl

/-- A character of a pattern adds its expression. -/
theorem adds_charSource (c : Char) (eager : rest.head? ≠ some '?') :
    Adds { ignoreCase } (Network.charSource c) [charExpr { ignoreCase } c] rest := by
  unfold Network.charSource charExpr
  -- A star and a separator have sources of their own, and other characters are quoted.
  split
  · exact adds_anything eager
  · split
    · exact adds_separator
    · exact adds_quoteChar c

/-- No source of a character begins with a question mark. -/
theorem head?_charSource (c : Char) : (Network.charSource c ++ rest).head? ≠ some '?' := by
  unfold Network.charSource
  split
  · simp [Network.anything]
  · split
    · have first : Network.separator.head? = some '(' := rfl
      simp [List.head?_append, first]
    -- A character that is special is written with a backslash before it.
    · unfold quoteChar
      split
      · simp
      · rename_i special
        rintro same
        obtain rfl : c = '?' := by simpa using same
        exact special (by decide)

/-- The characters of a pattern add their expressions. -/
theorem adds_charSources (ignoreCase : Bool) (body : List Char) (eager : rest.head? ≠ some '?') :
    (body.flatMap Network.charSource ++ rest).head? ≠ some '?' ∧
      Adds { ignoreCase } (body.flatMap Network.charSource) (body.map (charExpr { ignoreCase }))
        rest :=
  -- No source begins with a question mark, so none makes the one before it lazy.
  Adds.flatMap (fun c _ => adds_charSource c) (fun c _ _ => head?_charSource c) body eager

end Regex

namespace Network

open Regex

/-- The expressions of the anchor at the start of a pattern. -/
def anchorExprs (flags : Flags) : List Char → List Regex
  | '|' :: '|' :: _ => hostExprs flags
  | '|' :: _ => [.look .textStart]
  | _ => []

/-- The expressions of what follows the anchor. -/
def bodyExprs (flags : Flags) (body : List Char) : List Regex :=
  match List.isSuffixOf? ['|'] body with
  | some inside => inside.map (charExpr flags) ++ [.look .textEnd]
  | none => body.map (charExpr flags)

/-- The expression of a basic pattern. -/
def patternExpr (flags : Flags) (pattern : List Char) : Regex :=
  cats (anchorExprs flags pattern ++ bodyExprs flags (cutAnchor pattern).2)

/-- What a single bar at the start of a pattern stands for. -/
theorem anchor_bar (flags : Flags) {body : List Char} (single : ∀ tail, body ≠ '|' :: tail) :
    cutAnchor ('|' :: body) = (['^'], body) ∧
      anchorExprs flags ('|' :: body) = [.look .textStart] := by
  unfold cutAnchor anchorExprs
  -- A second bar would make the other anchor, and there is none.
  constructor <;>
  · split <;> simp_all

/-- Without a bar at its start a pattern has no anchor. -/
theorem anchor_none (flags : Flags) {pattern : List Char} (plain : ∀ tail, pattern ≠ '|' :: tail) :
    cutAnchor pattern = ([], pattern) ∧ anchorExprs flags pattern = [] := by
  unfold cutAnchor anchorExprs
  -- Both anchors begin with a bar.
  constructor <;>
  · split <;> simp_all

/-- The anchor at the start of a pattern adds its expressions. -/
theorem adds_cutAnchor {ignoreCase : Bool} {rest : List Char} (pattern : List Char)
    (eager : rest.head? ≠ some '?') :
    Adds { ignoreCase } (cutAnchor pattern).1 (anchorExprs { ignoreCase } pattern) rest := by
  -- Two bars, one bar and no bar are the three anchors.
  fun_cases anchorExprs { ignoreCase } pattern with
  | case1 => exact adds_hostAnchor eager
  | case2 body single =>
    rw [(anchor_bar { ignoreCase } single).1]
    exact adds_textStart
  | case3 _ _ plain =>
    rw [(anchor_none { ignoreCase } plain).1]
    exact .nil

/-- The source of every pattern stands for an expression, which is that of its parts. -/
theorem parse?_patternSource (ignoreCase : Bool) (pattern : List Char) :
    parse? ignoreCase (patternSource pattern) = some (patternExpr { ignoreCase } pattern) := by
  cases ends : List.isSuffixOf? ['|'] (cutAnchor pattern).2 with
  -- A bar at the end of the pattern is read as the end of the address.
  | some inside =>
    have last : (['$'] ++ []).head? ≠ some '?' := by decide
    obtain ⟨eager, body⟩ := adds_charSources ignoreCase inside last
    rw [← List.append_assoc] at eager
    simp only [patternSource, patternExpr, bodyExprs, ends, List.append_assoc]
    exact ((adds_cutAnchor pattern eager).append (body.append adds_textEnd)).parse?
  | none =>
    have last : ([] : List Char).head? ≠ some '?' := by decide
    obtain ⟨eager, body⟩ := adds_charSources ignoreCase (cutAnchor pattern).2 last
    simp only [patternSource, patternExpr, bodyExprs, ends]
    exact ((adds_cutAnchor pattern eager).append body).parse?

/-- The source of a pattern is refused only if its expression is too large. -/
theorem compile_patternSource (ignoreCase : Bool) (pattern : List Char) :
    Regex.compile ignoreCase (patternSource pattern) =
      if (patternExpr { ignoreCase } pattern).weight ≤ maxWeight then
        .ok (patternExpr { ignoreCase } pattern)
      else .error .tooLarge := by
  simp only [Regex.compile, parse?_patternSource]

/-- What the source of a pattern is compiled to is the expression of the pattern. -/
theorem eq_patternExpr_of_compile {ignoreCase : Bool} {pattern : List Char} {r : Regex}
    (compiled : Regex.compile ignoreCase (patternSource pattern) = .ok r) :
    r = patternExpr { ignoreCase } pattern := by
  rw [compile_patternSource] at compiled
  -- Either the expression is too large, or it is this one.
  split at compiled <;> cases compiled
  rfl

end Network

end AdFilter
