import AdFilter.FilterList.Optimize
import AdFilter.FilterList.Parser
import AdFilter.Proofs.Network.Compile
import AdFilter.RuleSet.Basic
import Mathlib

/-! What a rule is follows from its text and the number of its list. -/

namespace AdFilter

/-- Whatever a computation yields has the property. -/
def Yields {E A : Type} (property : A → Prop) (result : Except E A) : Prop :=
  ∀ a, result = .ok a → property a

namespace Yields

variable {E A B : Type} {property : B → Prop}

/-- A result with the property is all that is yielded. -/
theorem pure {b : B} (holds : property b) : Yields (E := E) property (.ok b) := by
  rintro _ ⟨⟩
  exact holds

/-- An error yields nothing. -/
theorem error {error : E} : Yields property (.error error) := by
  rintro _ ⟨⟩

/-- What comes last decides what is yielded. -/
theorem bind {first : Except E A} {next : A → Except E B} (each : ∀ a, Yields property (next a)) :
    Yields property (first >>= next) := by
  -- Whatever the first computation yields, the second one has the property.
  intro b yields
  obtain ⟨a, _, rest⟩ := exists_of_bind_eq_ok yields
  exact each a b rest

/-- What has a property has those that follow from it. -/
theorem mono {others : B → Prop} {result : Except E B} (yields : Yields property result)
    (follows : ∀ b, property b → others b) : Yields others result :=
  fun b made => follows b (yields b made)

/-- What is yielded and then changed has what it had before the change. -/
theorem map {result : Except E A} {change : A → B}
    (yields : Yields (fun a => property (change a)) result) :
    Yields property (result.map change) := by
  cases result with
  | error error => exact .error
  | ok a => exact .pure (yields a rfl)

end Yields

/-- What a rule carries comes from a trimmed line of a list. -/
def RuleInfo.IsOf (info : RuleInfo) (line : List Char) (filterId : Nat) : Prop :=
  info.text = String.ofList line ∧ info.filterId = filterId

/-- A rule about requests carries its trimmed line. -/
theorem Network.compile_info (text : String) (filterId : Nat) :
    Yields (·.info.IsOf (Text.trim text.toList) filterId) (compile text filterId) := by
  intro rule compiled
  -- The information is taken from the line, before anything else is read.
  obtain ⟨options, regex, _, _, rfl⟩ := compile_eq_ok compiled
  exact ⟨rfl, rfl⟩

/-- A rule about content carries its trimmed line. -/
theorem Content.compile_info (text : String) (filterId : Nat) :
    Yields (·.info.IsOf (Text.trim text.toList) filterId) (compile text filterId) := by
  unfold compile
  simp only
  -- Each check on the way ends the reading or lets it go on.
  repeat' first
    | exact .pure ⟨rfl, rfl⟩
    | exact .error
    | refine .bind fun _ => ?_
    | split

namespace Cosmetic

/-- A scriptlet rule is not about requests, and carries what it is given. -/
theorem scriptletRule_info (info : RuleInfo) (dialect : Dialect) (source body : List Char)
    (domains : Domains) : Yields (fun rule => rule.network? = none ∧ rule.info = info)
      (scriptletRule info dialect source body domains) := by
  unfold scriptletRule
  -- The call is parsed or not, and the information is the same.
  split
  · exact .pure ⟨rfl, rfl⟩
  · exact .error

/-- A rule that is given what its line says carries the line. -/
theorem isOf_of_info {line : List Char} {filterId : Nat} {isException : Bool}
    {result : Except RuleError Rule} (given : Yields (fun rule => rule.network? = none ∧
      rule.info = ⟨String.ofList line, filterId, isException⟩) result) :
    Yields (fun rule => rule.network? = none ∧ rule.info.IsOf line filterId) result :=
  given.mono fun _ ⟨kind, same⟩ => ⟨kind, same ▸ ⟨rfl, rfl⟩⟩

/-- A style rule is not about requests, and carries what it is given. -/
theorem styleRule_info (info : RuleInfo) (inject extended : Bool) (content : List Char)
    (domains : Domains) : Yields (fun rule => rule.network? = none ∧ rule.info = info)
      (styleRule info inject extended content domains) := by
  -- Every way through ends with an error or with a rule that has the information it was given.
  unfold styleRule
  simp only
  repeat' first
    | exact .pure ⟨rfl, rfl⟩
    | exact .error
    | refine .bind fun _ => ?_
    | split

/-- A line about style has no rule about requests, and its rule carries the trimmed line. -/
theorem compileStyle_info (text : String) (filterId : Nat) :
    Yields (fun rule => rule.network? = none ∧ rule.info.IsOf (Text.trim text.toList) filterId)
      (compileStyle text filterId) := by
  unfold compileStyle
  simp only
  split
  · refine .bind fun domains => ?_
    split
    · exact .error
    · -- Whichever kind of rule it is, it is given the line.
      repeat' split
      · exact isOf_of_info (scriptletRule_info _ _ _ _ _)
      · exact isOf_of_info (scriptletRule_info _ _ _ _ _)
      · exact isOf_of_info (styleRule_info _ _ _ _ _)
  · exact .error

/-- A line with script has no rule about requests, and its rule carries the trimmed line. -/
theorem compileScript_info (text : String) (filterId : Nat) :
    Yields (fun rule => rule.network? = none ∧ rule.info.IsOf (Text.trim text.toList) filterId)
      (compileScript text filterId) := by
  unfold compileScript
  simp only
  -- A line with a mark is a call or a script, and gets its information from the line.
  split
  · refine .bind fun domains => ?_
    split
    · exact .error
    · split
      · exact isOf_of_info (scriptletRule_info _ _ _ _ _)
      · exact .pure ⟨rfl, rfl, rfl⟩
  · exact .error

end Cosmetic

namespace FilterList

variable {raw other : List Char} {filterId : Nat} {rule : Rule}

/-- The rule of a line carries the line, trimmed; one about requests is what the line is compiled to. -/
theorem parseLine_info (raw : List Char) (filterId : Nat) :
    Yields (∀ rule ∈ ·, rule.info.IsOf (Text.trim raw) filterId ∧
        ∀ request, rule = .network request →
          Network.compile (String.ofList (Text.trim raw)) filterId = .ok request)
      (parseLine raw filterId) := by
  -- The line is trimmed already when the rule is read from it.
  have trimmed : Text.trim (String.ofList (Text.trim raw)).toList = Text.trim raw := by
    rw [String.toList_ofList, Text.trim_trim]
  unfold parseLine
  simp only
  -- The kinds of lines, in the order in which they are told apart.
  repeat' split
  · exact .pure (by simp)
  · refine .map fun rule made => ?_
    obtain ⟨kind, carries⟩ := Cosmetic.compileScript_info _ _ rule made
    rintro _ ⟨⟩
    exact ⟨trimmed ▸ carries, by rintro _ rfl; cases kind⟩
  · refine .map fun rule made => ?_
    obtain ⟨kind, carries⟩ := Cosmetic.compileStyle_info _ _ rule made
    rintro _ ⟨⟩
    exact ⟨trimmed ▸ carries, by rintro _ rfl; cases kind⟩
  · refine .map fun rule made => ?_
    rintro _ ⟨⟩
    exact ⟨trimmed ▸ Content.compile_info _ _ rule made, nofun⟩
  · -- Only here a rule about requests comes out, and it is what was compiled.
    refine .map fun request compiled => ?_
    rintro _ ⟨⟩
    refine ⟨trimmed ▸ Network.compile_info _ _ request compiled, fun _ same => ?_⟩
    exact Rule.network.inj same ▸ compiled

/-- Blanks around a line do not change what it says. -/
theorem parseLine_congr (same : Text.trim raw = Text.trim other) :
    parseLine raw filterId = parseLine other filterId := by
  simp only [parseLine, same]

end FilterList

/-- Every rule was read from a line of some list. -/
def Rule.Parsed (rules : List Rule) : Prop :=
  ∀ rule ∈ rules, ∃ raw filterId, FilterList.parseLine raw filterId = .ok (some rule)

namespace Rule

variable {rules : List Rule}

/-- Of rules that were read, those with the same text in the same list are the same. -/
theorem Parsed.injOn_key (parsed : Parsed rules) : Set.InjOn key {rule | rule ∈ rules} := by
  -- What the key of a rule says is what its line says.
  intro rule member other present same
  obtain ⟨raw, filterId, made⟩ := parsed rule member
  obtain ⟨again, otherId, read⟩ := parsed other present
  obtain ⟨ids, texts⟩ := Prod.mk.inj same
  obtain ⟨⟨text, number⟩, _⟩ := FilterList.parseLine_info raw filterId _ made rule rfl
  obtain ⟨⟨text', number'⟩, _⟩ := FilterList.parseLine_info again otherId _ read other rfl
  -- The lines are the same once trimmed, so they say the same.
  have lists : filterId = otherId := number ▸ number' ▸ ids
  have lines : Text.trim raw = Text.trim again := String.ofList_injective (text ▸ text' ▸ texts)
  rw [FilterList.parseLine_congr lines, lists, read] at made
  exact (Option.some.inj (Except.ok.inj made)).symm

end Rule

namespace FilterList

/-- The rules of a list were read. -/
theorem parse_parsed (text : String) (filterId : Nat) : Rule.Parsed (parse text filterId).rules := by
  unfold parse
  -- The induction is on the numbered lines, the last of which is added first.
  induction (Text.lines text.toList).zipIdx 1 with
  | nil => exact fun _ member => nomatch member
  | cons entry entries ih =>
    rw [List.foldr_cons, addLine]
    -- A line without a rule adds none, one with a rule adds that, and one that fails adds none.
    split
    · exact ih
    · rename_i made
      exact List.forall_mem_cons.mpr ⟨⟨_, _, made⟩, ih⟩
    · exact ih

/-- The rules of several lists were read. -/
theorem join_parsed (lists : List (Nat × String)) :
    Rule.Parsed (join (lists.map fun (filterId, text) => parse text filterId)).rules := by
  intro rule member
  simp only [join, List.flatMap_map, List.mem_flatMap] at member
  obtain ⟨⟨filterId, text⟩, _, inside⟩ := member
  -- A rule of the joined lists comes from one of them.
  exact parse_parsed text filterId rule inside

end FilterList

end AdFilter
