import AdFilter.Proofs.Network.Options
import Mathlib

/-!
The order of the options of a rule: each option says something by itself, and what two of them say can
be put together in either order unless they contradict each other.
-/

namespace AdFilter

namespace OptionSet

/-- Two sets with the same options are the same. -/
theorem eq_of_has {a b : OptionSet} (same : ∀ option, a.has option = b.has option) : a = b := by
  -- Each bit of a set belongs to an option.
  have each : ∀ i : Fin 11, ∃ option : RuleOption, option.index = i := by
    intro i
    fin_cases i
    exacts [⟨.elemHide, rfl⟩, ⟨.genericHide, rfl⟩, ⟨.jsInject, rfl⟩, ⟨.urlBlock, rfl⟩,
      ⟨.genericBlock, rfl⟩, ⟨.content, rfl⟩, ⟨.blockPopups, rfl⟩, ⟨.emptyResponse, rfl⟩,
      ⟨.matchCase, rfl⟩, ⟨.important, rfl⟩, ⟨.csp, rfl⟩]
  obtain ⟨bits⟩ := a
  obtain ⟨others⟩ := b
  congr 1
  refine BitVec.eq_of_getLsbD_eq fun i bound => ?_
  obtain ⟨option, place⟩ := each ⟨i, bound⟩
  simpa only [has, place] using same option

/-- The empty set adds nothing. -/
@[simp] theorem union_empty (a : OptionSet) : a.union .empty = a := by
  simp [union, empty]

/-- To the empty set, a set adds just itself. -/
@[simp] theorem empty_union (a : OptionSet) : empty.union a = a := by
  simp [union, empty]

/-- There is nothing to erase from the empty set. -/
@[simp] theorem erase_empty (option : RuleOption) : empty.erase option = empty := by
  simp [erase, empty]

end OptionSet

namespace TypeSet

/-- The empty set adds nothing. -/
@[simp] theorem union_empty (a : TypeSet) : a.union .empty = a := by
  simp [union, empty]

/-- To the empty set, a set adds just itself. -/
@[simp] theorem empty_union (a : TypeSet) : empty.union a = a := by
  simp [union, empty]

/-- Two further sets may be put together with a set in either order. -/
theorem union_right_comm (a b c : TypeSet) : (a.union b).union c = (a.union c).union b := by
  rw [union, union, union, union, BitVec.or_assoc, BitVec.or_comm b.bits, BitVec.or_assoc]

end TypeSet

namespace Network.Options

variable {isException : Bool} {options said other : Options} {name : String}

/-! ### What one option says -/

/-- Options with what a further one says, which may also be that the rule is not important. -/
def join (options : Options) (name : String) (said : Options) : Options where
  domains.permitted := options.domains.permitted ++ said.domains.permitted
  domains.restricted := options.domains.restricted ++ said.domains.restricted
  permittedTypes := options.permittedTypes.union said.permittedTypes
  restrictedTypes := options.restrictedTypes.union said.restrictedTypes
  party := if said.party = .any then options.party else said.party
  set :=
    let set := options.set.union said.set
    if name = "~important" then set.erase .important else set
  csp := if said.set.has .csp then said.csp else options.csp
  cancels := options.cancels || said.cancels

/-- An option that adds others, or is refused, does so whatever was there before. -/
theorem enable_eq (plain : name ≠ "~important") {added : OptionSet} (other : added.has .csp = false)
    (options : Options) (isException : Bool) : options.enable added name isException =
      (enable {} added name isException).map (options.join name) := by
  unfold enable
  -- Whether the option is refused depends on the kind of the rule alone.
  split
  · rfl
  · split
    · rfl
    · simp [Except.map, join, plain, other]

/-- An option that names a type, or is not known, does so whatever was there before. -/
theorem addType_eq (plain : name ≠ "~important") (options : Options) (rawName : List Char) :
    options.addType rawName name = (addType {} rawName name).map (options.join name) := by
  unfold addType
  cases RequestType.ofOption? name with
  | some type => simp [Except.map, join, plain]
  | none =>
    -- A type that is left out is named with a tilde before it.
    simp only
    split
    · simp [Except.map, join, plain]
    · rfl

/-- What an option adds is what it says by itself, whatever was there before. -/
theorem add_eq (options : Options) (isException : Bool) (rawName : List Char)
    (value : Option (List Char)) : options.add isException rawName value =
      (add {} isException rawName value).map
        (options.join (String.ofList ((Text.trim rawName).map Char.toLower))) := by
  unfold add
  simp only
  generalize String.ofList ((Text.trim rawName).map Char.toLower) = name
  -- The cases are the names of the options, in the order in which these are told apart.
  split
  · -- `domain`: what is read of its value goes behind the domains that are there.
    cases value with
    | none => simp [Except.map, join]
    | some value =>
      simp only
      cases Domain.parse (String.ofList value) with
      | error error => rfl
      | ok domains => simp [Except.map, join, bind, Except.bind, pure, Except.pure]
  · -- The two parties, `match-case` and importance, which may be taken back.
    simp [Except.map, join]
  · simp [Except.map, join]
  · simp [Except.map, join]
  · simp [Except.map, join]
  · simp [Except.map, join]
  · -- The six exceptions for whole documents.
    exact enable_eq (by decide) rfl ..
  · exact enable_eq (by decide) rfl ..
  · exact enable_eq (by decide) rfl ..
  · exact enable_eq (by decide) rfl ..
  · exact enable_eq (by decide) rfl ..
  · exact enable_eq (by decide) rfl ..
  · -- `popup`, which is a type as well.
    simp [Except.map, join]
  · -- `empty`.
    exact enable_eq (by decide) rfl ..
  · -- `csp` and `badfilter`.
    simp [Except.map, join]
  · simp [Except.map, join]
  · -- Any other name: that of documents, one that is ignored, or a type.
    have plain : name ≠ "~important" := by assumption
    split
    · exact enable_eq plain rfl ..
    · split
      · simp [Except.map, join, plain]
      · exact addType_eq plain ..

/-- Only options of certain names say something that others may contradict. -/
structure SaysOnly (name : String) (said : Options) : Prop where
  party : said.party ≠ .any →
    name = "third-party" ∧ said.party = .third ∨ name = "~third-party" ∧ said.party = .first
  important : said.set.has .important = true → name = "important"
  csp : said.set.has .csp = true → name = "csp"

/-- Most options ask for no party. -/
theorem saysOnly_of_any (party : said.party = .any)
    (important : said.set.has .important = true → name = "important")
    (csp : said.set.has .csp = true → name = "csp") : SaysOnly name said :=
  ⟨fun some => absurd party some, important, csp⟩

/-- Options that are allowed on some rules only say nothing that others may contradict. -/
theorem saysOnly_of_enable {added : OptionSet} (important : added.has .important = false)
    (csp : added.has .csp = false) (enabled : enable {} added name isException = .ok said) :
    SaysOnly name said := by
  unfold enable at enabled
  -- The option is refused on the other kind of rule, or it is all that is set.
  split at enabled
  · cases enabled
  · split at enabled <;> cases enabled
    exact saysOnly_of_any rfl (by simp [important]) (by simp [csp])

/-- Nor do the names of types. -/
theorem saysOnly_of_addType {rawName : List Char} (added : addType {} rawName name = .ok said) :
    SaysOnly name said := by
  unfold addType at added
  -- A type is added to those that are permitted or to those that are restricted.
  split at added
  · cases added
    exact saysOnly_of_any rfl (by simp) (by simp)
  · simp only at added
    split at added <;> cases added
    exact saysOnly_of_any rfl (by simp) (by simp)

/-- What an option may say goes by its name. -/
theorem saysOnly_of_add {rawName : List Char} {value : Option (List Char)}
    (added : add {} isException rawName value = .ok said) :
    SaysOnly (String.ofList ((Text.trim rawName).map Char.toLower)) said := by
  unfold add at added
  simp only at added
  generalize String.ofList ((Text.trim rawName).map Char.toLower) = name at added ⊢
  -- The cases are those of the names again.
  split at added
  · -- `domain`, with or without a value, asks for no party.
    split at added
    · cases added
      exact saysOnly_of_any rfl (by simp) (by simp)
    · obtain ⟨domains, _, added⟩ := exists_of_bind_eq_ok added
      cases added
      exact saysOnly_of_any rfl (by simp) (by simp)
  · -- The two parties are the only options that ask for one.
    cases added
    exact ⟨fun _ => .inl ⟨rfl, rfl⟩, by simp, by simp⟩
  · cases added
    exact ⟨fun _ => .inr ⟨rfl, rfl⟩, by simp, by simp⟩
  · -- `match-case` and importance, which has its own name.
    cases added
    exact saysOnly_of_any rfl (by simp) (by simp)
  · cases added
    exact saysOnly_of_any rfl (by simp) (by simp)
  · cases added
    exact saysOnly_of_any rfl (by simp) (by simp)
  · -- The six exceptions for whole documents.
    exact saysOnly_of_enable rfl rfl added
  · exact saysOnly_of_enable rfl rfl added
  · exact saysOnly_of_enable rfl rfl added
  · exact saysOnly_of_enable rfl rfl added
  · exact saysOnly_of_enable rfl rfl added
  · exact saysOnly_of_enable rfl rfl added
  · -- `popup`, `empty`, `csp` and `badfilter`, of which one has a directive.
    cases added
    exact saysOnly_of_any rfl (by simp) (by simp)
  · exact saysOnly_of_enable rfl rfl added
  · cases added
    exact saysOnly_of_any rfl (by simp) (by simp)
  · cases added
    exact saysOnly_of_any rfl (by simp) (by simp)
  · -- Any other name: that of documents, one that is ignored, or a type.
    split at added
    · exact saysOnly_of_enable rfl rfl added
    · split at added
      · cases added
        exact saysOnly_of_any rfl (by simp) (by simp)
      · exact saysOnly_of_addType added

/-! ### Two options in either order -/

/-- The same options but for the order of the domains. -/
structure Alike (a b : Options) : Prop where
  permitted : a.domains.permitted.Perm b.domains.permitted
  restricted : a.domains.restricted.Perm b.domains.restricted
  permittedTypes : a.permittedTypes = b.permittedTypes
  restrictedTypes : a.restrictedTypes = b.restrictedTypes
  party : a.party = b.party
  set : a.set = b.set
  csp : a.csp = b.csp
  cancels : a.cancels = b.cancels

/-- Options are like themselves. -/
theorem Alike.refl (options : Options) : Alike options options :=
  ⟨.refl _, .refl _, rfl, rfl, rfl, rfl, rfl, rfl⟩

/-- What is like something like a third is like that. -/
theorem Alike.trans {a b c : Options} (first : Alike a b) (second : Alike b c) : Alike a c where
  permitted := first.permitted.trans second.permitted
  restricted := first.restricted.trans second.restricted
  permittedTypes := first.permittedTypes.trans second.permittedTypes
  restrictedTypes := first.restrictedTypes.trans second.restrictedTypes
  party := first.party.trans second.party
  set := first.set.trans second.set
  csp := first.csp.trans second.csp
  cancels := first.cancels.trans second.cancels

/-- What is said of options that are alike leaves them alike. -/
theorem Alike.join {a b : Options} (alike : Alike a b) (name : String) (said : Options) :
    Alike (a.join name said) (b.join name said) where
  permitted := alike.permitted.append_right _
  restricted := alike.restricted.append_right _
  permittedTypes := by simp [Options.join, alike.permittedTypes]
  restrictedTypes := by simp [Options.join, alike.restrictedTypes]
  party := by simp [Options.join, alike.party]
  set := by simp [Options.join, alike.set]
  csp := by simp [Options.join, alike.csp]
  cancels := by simp [Options.join, alike.cancels]

/-- The names of two options of which one overwrites or undoes what the other says. -/
inductive Clash : String → String → Prop
  | directives : Clash "csp" "csp"
  | parties : Clash "third-party" "~third-party"
  | importance : Clash "important" "~important"

/-- Neither of two options has anything against the other. -/
def Apart (name other : String) : Prop := ¬ Clash name other ∧ ¬ Clash other name

/-- It does not matter which of the two options is named first. -/
theorem Apart.symm {name other : String} (apart : Apart name other) : Apart other name :=
  And.symm apart

/-- An option is in what is joined if it is in one of the parts, unless it is taken away. -/
theorem has_set_join (options : Options) (name : String) (said : Options) (option : RuleOption) :
    (options.join name said).set.has option =
      ((options.set.has option || said.set.has option) &&
        !(name = "~important" ∧ option = .important)) := by
  unfold join
  simp only
  -- One option takes another one out of the set; no other does.
  split
  · rename_i undoes
    simp [undoes, eq_comm]
  · rename_i plain
    simp [plain]

section Both

variable {otherName : String} (apart : Apart name otherName) (first : SaysOnly name said)
  (second : SaysOnly otherName other) (options : Options)

include apart second

/-- Where one option says that the rule is not important, the other does not say that it is. -/
theorem not_important (undoes : name = "~important") : other.set.has .important = false := by
  rw [← Bool.not_eq_true]
  -- The second option would say the opposite of the first, which makes them clash.
  intro important
  rw [undoes, second.important important] at apart
  exact apart.2 .importance

include first

/-- The options that are in the set do not depend on which of two came first. -/
theorem set_join_comm :
    ((options.join name said).join otherName other).set =
      ((options.join otherName other).join name said).set := by
  refine OptionSet.eq_of_has fun option => ?_
  simp only [has_set_join]
  -- Importance is the one option that can be taken away.
  by_cases importance : option = .important
  · subst importance
    have undone := not_important apart second
    have undoing := not_important apart.symm first
    -- An option that takes importance back has another beside it that does not ask for it.
    by_cases one : name = "~important" <;> by_cases two : otherName = "~important"
    · simp [one, two, undone one, undoing two]
    · simp [one, two, undone one]
    · simp [one, two, undoing two]
    · simp [one, two, Bool.or_right_comm]
  · simp [importance, Bool.or_right_comm]

/-- The party does not depend on which of two options came first. -/
theorem party_join_comm :
    ((options.join name said).join otherName other).party =
      ((options.join otherName other).join name said).party := by
  simp only [join]
  by_cases one : said.party = .any
  · simp [one]
  by_cases two : other.party = .any
  · simp [two]
  -- Both ask for a party, and it is the same one since they would clash otherwise.
  rw [if_neg two, if_neg one]
  rcases first.party one with ⟨named, here⟩ | ⟨named, here⟩ <;>
    rcases second.party two with ⟨otherNamed, there⟩ | ⟨otherNamed, there⟩
  · rw [here, there]
  · rw [named, otherNamed] at apart
    exact absurd .parties apart.1
  · rw [named, otherNamed] at apart
    exact absurd .parties apart.2
  · rw [here, there]

/-- The directive does not depend on which of two options came first. -/
theorem csp_join_comm :
    ((options.join name said).join otherName other).csp =
      ((options.join otherName other).join name said).csp := by
  simp only [join]
  -- Only one of two different options has a directive.
  by_cases one : said.set.has .csp = true
  · by_cases two : other.set.has .csp = true
    · rw [first.csp one, second.csp two] at apart
      exact absurd .directives apart.1
    · simp [one, two]
  · simp [one]

/-- What two options say can be put together in either order. -/
theorem join_comm :
    Alike ((options.join name said).join otherName other)
      ((options.join otherName other).join name said) where
  permitted := by
    simp only [join, List.append_assoc]
    exact List.perm_append_comm.append_left _
  restricted := by
    simp only [join, List.append_assoc]
    exact List.perm_append_comm.append_left _
  -- The domains come in another order, and unions do not see the order.
  permittedTypes := TypeSet.union_right_comm ..
  restrictedTypes := TypeSet.union_right_comm ..
  party := party_join_comm apart first second options
  set := set_join_comm apart first second options
  csp := csp_join_comm apart first second options
  cancels := Bool.or_right_comm ..

end Both

/-! ### All options in any order -/

/-- The name of an option as it is written, before any equality sign, trimmed and in small letters. -/
def nameOf (text : List Char) : String :=
  let rawName := match Text.cutWhere? (· == '=') text with
    | some (name, _) => name
    | none => text
  String.ofList ((Text.trim rawName).map Char.toLower)

/-- An option as it is written adds what it says by itself. -/
theorem addText_eq (isException : Bool) (options : Options) (text : List Char) :
    addText isException options text = (addText isException {} text).map (options.join (nameOf text)) := by
  unfold addText nameOf
  -- With a value or without one, the option is added by its name.
  rcases Text.cutWhere? (· == '=') text with _ | ⟨name, value⟩ <;> exact add_eq ..

/-- An option as it is written says what it may say by its name. -/
theorem saysOnly_of_addText {text : List Char} (added : addText isException {} text = .ok said) :
    SaysOnly (nameOf text) said := by
  unfold addText at added
  unfold nameOf
  -- The name ends at the sign of a value, or is the whole text.
  generalize Text.cutWhere? (· == '=') text = cut at added ⊢
  rcases cut with _ | ⟨name, value⟩ <;> exact saysOnly_of_add added

/-- Two readings are both refused, or both accepted with options that are alike. -/
inductive Agree : Except RuleError Options → Except RuleError Options → Prop
  | refused (error other : RuleError) : Agree (.error error) (.error other)
  | accepted {a b : Options} (alike : Alike a b) : Agree (.ok a) (.ok b)

/-- Readings that agree with one between them agree. -/
theorem Agree.trans {a b c : Except RuleError Options} (first : Agree a b) (second : Agree b c) :
    Agree a c := by
  -- Both sides fail, or both give options that are alike.
  cases first with
  | refused => cases second with | refused => exact .refused ..
  | accepted one => cases second with | accepted two => exact .accepted (one.trans two)

variable {texts others : List (List Char)} {a b : Options}

/-- The next option is refused in both readings, or leaves them alike. -/
theorem Alike.cons (alike : Alike a b) (text : List Char)
    (rest : ∀ {a b : Options}, Alike a b →
      Agree (texts.foldlM (addText isException) a) (others.foldlM (addText isException) b)) :
    Agree ((text :: texts).foldlM (addText isException) a)
      ((text :: others).foldlM (addText isException) b) := by
  -- What an option says does not depend on those before it.
  rw [List.foldlM_cons, List.foldlM_cons, addText_eq _ a, addText_eq _ b]
  cases addText isException {} text with
  | error error => exact .refused error error
  | ok said => exact rest (alike.join _ said)

/-- From options that are alike, further ones lead to options that are alike. -/
theorem Alike.run (alike : Alike a b) (texts : List (List Char)) :
    Agree (texts.foldlM (addText isException) a) (texts.foldlM (addText isException) b) := by
  -- The next option says the same of both, or is refused by both.
  induction texts generalizing a b with
  | nil => exact .accepted alike
  | cons text texts ih => exact alike.cons text ih

/-- Two options next to each other may change places. -/
theorem Alike.swap (alike : Alike a b) {x y : List Char} (apart : Apart (nameOf x) (nameOf y))
    (texts : List (List Char)) : Agree ((x :: y :: texts).foldlM (addText isException) a)
      ((y :: x :: texts).foldlM (addText isException) b) := by
  have reads (options : Options) (x y : List Char) :
      (x :: y :: texts).foldlM (addText isException) options =
        ((addText isException {} x).map (options.join (nameOf x))) >>= fun options =>
          ((addText isException {} y).map (options.join (nameOf y))) >>= fun options =>
            texts.foldlM (addText isException) options := by
    rw [List.foldlM_cons, addText_eq]
    congr 1
    funext options
    rw [List.foldlM_cons, addText_eq]
  rw [reads, reads]
  -- An option that is refused is refused in either place, though it may not be the first one then.
  cases one : addText isException {} x with
  | error error =>
    cases two : addText isException {} y with
    | error other => exact .refused error other
    | ok said => exact .refused error error
  | ok said =>
    cases two : addText isException {} y with
    | error error => exact .refused error error
    | ok other =>
      have moved := join_comm apart (saysOnly_of_addText one) (saysOnly_of_addText two) a
      exact (moved.trans ((alike.join _ other).join _ said)).run texts

/-- Options none of which has anything against another may come in any order. -/
theorem agree_of_perm (same : texts.Perm others)
    (apart : texts.Pairwise fun x y => Apart (nameOf x) (nameOf y)) (alike : Alike a b) :
    Agree (texts.foldlM (addText isException) a) (others.foldlM (addText isException) b) := by
  -- The induction is on how the one list is brought into the order of the other.
  induction same generalizing a b with
  | nil => exact .accepted alike
  | cons text _ ih => exact alike.cons text (ih (List.pairwise_cons.mp apart).2)
  | swap x y texts =>
    -- The two options that change places are among those that must be apart.
    have clear := (List.pairwise_cons.mp apart).1 x List.mem_cons_self
    exact alike.swap clear texts
  | trans first _ one two =>
    have between := (first.pairwise_iff Apart.symm).mp apart
    exact (one apart alike).trans (two between (.refl _))

/-- The names of all options of a text. -/
def names (text : List Char) : List String := (splitOptions text).map nameOf

/-- Names of which no two clash, since there is one directive at most and nothing is taken back. -/
theorem apart_of_names {names : List String} (directives : names.count "csp" ≤ 1)
    (parties : ¬ ("third-party" ∈ names ∧ "~third-party" ∈ names))
    (importance : ¬ ("important" ∈ names ∧ "~important" ∈ names)) : names.Pairwise Apart := by
  refine List.pairwise_iff_forall_sublist.mpr fun {x y} both => ?_
  have one : x ∈ names := both.subset (by simp)
  have two : y ∈ names := both.subset (by simp)
  -- Two options for directives, one before the other, would be counted twice.
  have once : ¬ (x = "csp" ∧ y = "csp") := by
    rintro ⟨rfl, rfl⟩
    exact absurd (Nat.le_trans (both.count_le "csp") directives) (by decide)
  constructor
  · rintro (_ | _ | _)
    · exact once ⟨rfl, rfl⟩
    · exact parties ⟨one, two⟩
    · exact importance ⟨one, two⟩
  · rintro (_ | _ | _)
    · exact once ⟨rfl, rfl⟩
    · exact parties ⟨two, one⟩
    · exact importance ⟨two, one⟩

/-- Options that are alike are still so once all are read. -/
theorem Alike.finish (alike : Alike a b) : Alike a.finish b.finish := by
  -- Whether the rule is for whole documents is read off the set alone.
  have level : a.isDocumentLevel = b.isDocumentLevel := by
    rw [isDocumentLevel, alike.set, isDocumentLevel]
  unfold Options.finish
  rw [level]
  split
  · exact { alike with permittedTypes := rfl }
  · exact alike

/-- What comes last keeps two readings in agreement. -/
theorem Agree.finish {first second : Except RuleError Options} (agree : Agree first second) :
    Agree (first.map Options.finish) (second.map Options.finish) := by
  -- The last step changes options only, and alike options in the same way.
  cases agree with
  | refused error other => exact .refused error other
  | accepted alike => exact .accepted alike.finish

/--
The order of the options does not matter.

Two texts with the same options in some order are both refused, or both accepted with the same result
but for the order of the domains. There must be one directive at most, and no option that takes back
what another says.
-/
theorem parse_of_perm {text other : List Char} (same : (splitOptions text).Perm (splitOptions other))
    (directives : (names text).count "csp" ≤ 1)
    (parties : ¬ ("third-party" ∈ names text ∧ "~third-party" ∈ names text))
    (importance : ¬ ("important" ∈ names text ∧ "~important" ∈ names text)) (isException : Bool) :
    Agree (parse text isException) (parse other isException) := by
  -- No two options clash, whichever of them comes first.
  have apart := List.pairwise_map.mp (apart_of_names directives parties importance)
  exact (agree_of_perm same apart (.refl {})).finish

/-- Two lists of domains, a directive and a type that is left out, in another order. -/
theorem parse_of_perm_domains :
    (splitOptions "domain=b.com,csp=a,~font,domain=~c.com|a.com".toList).Perm
        (splitOptions "~font,domain=~c.com|a.com,csp=a,domain=b.com".toList) ∧
      (names "domain=b.com,csp=a,~font,domain=~c.com|a.com".toList).count "csp" ≤ 1 ∧
      ¬ ("third-party" ∈ names "domain=b.com,csp=a,~font,domain=~c.com|a.com".toList ∧
        "~third-party" ∈ names "domain=b.com,csp=a,~font,domain=~c.com|a.com".toList) ∧
      ¬ ("important" ∈ names "domain=b.com,csp=a,~font,domain=~c.com|a.com".toList ∧
        "~important" ∈ names "domain=b.com,csp=a,~font,domain=~c.com|a.com".toList) ∧
      (parse "domain=b.com,csp=a,~font,domain=~c.com|a.com".toList false).toOption.isSome = true ∧
      Agree (parse "domain=b.com,csp=a,~font,domain=~c.com|a.com".toList false)
        (parse "~font,domain=~c.com|a.com,csp=a,domain=b.com".toList false) := by
  have same : (splitOptions "domain=b.com,csp=a,~font,domain=~c.com|a.com".toList).Perm
      (splitOptions "~font,domain=~c.com|a.com,csp=a,domain=b.com".toList) := by decide +kernel
  have directives :
      (names "domain=b.com,csp=a,~font,domain=~c.com|a.com".toList).count "csp" ≤ 1 := by
    decide +kernel
  have parties : ¬ ("third-party" ∈ names "domain=b.com,csp=a,~font,domain=~c.com|a.com".toList ∧
      "~third-party" ∈ names "domain=b.com,csp=a,~font,domain=~c.com|a.com".toList) := by
    decide +kernel
  have importance : ¬ ("important" ∈ names "domain=b.com,csp=a,~font,domain=~c.com|a.com".toList ∧
      "~important" ∈ names "domain=b.com,csp=a,~font,domain=~c.com|a.com".toList) := by
    decide +kernel
  exact ⟨same, directives, parties, importance, by decide +kernel,
    parse_of_perm same directives parties importance false⟩

end Network.Options

end AdFilter
