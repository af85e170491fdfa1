/-! The options of rules about requests, and the party that such a rule asks for. -/

namespace AdFilter

/-- What a rule says about the request beyond its address, or does beyond blocking it. -/
inductive RuleOption
  /-- No element is hidden in the document. -/
  | elemHide
  /-- No element is hidden in the document by a generic rule. -/
  | genericHide
  /-- No script is put into the document. -/
  | jsInject
  /-- No request of the document is blocked. -/
  | urlBlock
  /-- No request of the document is blocked by a generic rule. -/
  | genericBlock
  /-- No element is removed from the document. -/
  | content
  | blockPopups
  /-- The answer is an empty body instead of a failure. -/
  | emptyResponse
  | matchCase
  /-- The rule wins over exceptions that are not important. -/
  | important
  | csp
  deriving DecidableEq

/-- The place of an option in a set of options. -/
def RuleOption.index : RuleOption → Nat
  | elemHide => 0
  | genericHide => 1
  | jsInject => 2
  | urlBlock => 3
  | genericBlock => 4
  | content => 5
  | blockPopups => 6
  | emptyResponse => 7
  | matchCase => 8
  | important => 9
  | csp => 10

/-- A set of options. -/
structure OptionSet where
  bits : BitVec 11
  deriving DecidableEq

namespace OptionSet

/-- The set of no option. -/
def empty : OptionSet := ⟨0⟩

/-- The set of one option. -/
def only (option : RuleOption) : OptionSet := ⟨BitVec.twoPow 11 option.index⟩

/-- The options of two sets. -/
def union (a b : OptionSet) : OptionSet := ⟨a.bits ||| b.bits⟩

/-- The set of several options. -/
def ofList (options : List RuleOption) : OptionSet :=
  options.foldl (fun set option => set.union (only option)) empty

/-- The set without one option. -/
def erase (a : OptionSet) (option : RuleOption) : OptionSet :=
  ⟨a.bits &&& ~~~ (only option).bits⟩

/-- The option is in the set. -/
def has (a : OptionSet) (option : RuleOption) : Bool := a.bits.getLsbD option.index

/-- No option is in the empty set. -/
@[simp] theorem has_empty (option : RuleOption) : empty.has option = false := by
  simp [has, empty]

/-- The set of one option has that one alone. -/
@[simp] theorem has_only (one other : RuleOption) : (only one).has other = decide (one = other) := by
  -- There are eleven options, and no two have the same bit.
  cases one <;> cases other <;> rfl

/-- The options of two sets are in one of them. -/
@[simp] theorem has_union (a b : OptionSet) (option : RuleOption) :
    (a.union b).has option = (a.has option || b.has option) := by
  simp [has, union]

/-- An erased option is gone, and the others stay. -/
@[simp] theorem has_erase (a : OptionSet) (gone option : RuleOption) :
    (a.erase gone).has option = (a.has option && !decide (gone = option)) := by
  have bound : option.index < 11 := by cases option <;> decide
  -- The bit that is cleared is the one of the option.
  have kept : (only gone).bits.getLsbD option.index = decide (gone = option) := has_only gone option
  rw [BitVec.getLsbD_eq_getElem bound] at kept
  simp [has, erase, bound, kept]

/-- The two sets have an option in common. -/
def meets (a b : OptionSet) : Bool := a.bits &&& b.bits != 0

/-- The options that make sense on exceptions alone, all of which speak of whole documents. -/
def documentLevel : OptionSet :=
  ofList [.elemHide, .genericHide, .jsInject, .urlBlock, .genericBlock, .content]

/-- What an exception for a whole document switches off. -/
def wholeDocument : OptionSet := ofList [.elemHide, .urlBlock, .jsInject, .content]

end OptionSet

/-- Whether a rule asks for requests within one site or across sites. -/
inductive Party
  | any
  | first
  | third
  deriving DecidableEq

/-- A request within one site, or across sites, is what the rule asks for. -/
def Party.accepts : Party → Bool → Bool
  | any, _ => true
  | first, thirdParty => !thirdParty
  | third, thirdParty => thirdParty

end AdFilter
