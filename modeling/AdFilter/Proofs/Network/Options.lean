import AdFilter.Network.Options
import AdFilter.Proofs.Domain.Parser
import Mathlib

/-! What each option of a rule may do to those before it, and what holds of all of them in the end. -/

namespace AdFilter

namespace OptionSet

/-- Two sets have in common what either has with the other. -/
theorem meets_comm (a b : OptionSet) : a.meets b = b.meets a := by
  rw [meets, meets, BitVec.and_comm]

/-- The options of two sets are in one of them. -/
@[simp] theorem meets_union (a b c : OptionSet) :
    (a.union b).meets c = (a.meets c || b.meets c) := by
  rw [Bool.eq_iff_iff, Bool.or_eq_true]
  simp only [meets, union, BitVec.and_or_distrib_right, bne_iff_ne, ne_eq]
  rw [show (0 : BitVec 11) = 0#11 from rfl, BitVec.or_eq_zero_iff]
  -- Something in common with both together is in common with one of them.
  tauto

/-- To erase an option adds nothing in common with another set. -/
theorem meets_of_meets_erase {a b : OptionSet} {option : RuleOption}
    (common : (a.erase option).meets b = true) : a.meets b = true := by
  rw [meets, bne_iff_ne] at *
  intro apart
  apply common
  -- What is common without the option is common with it.
  calc (a.erase option).bits &&& b.bits
      = (a.bits &&& b.bits) &&& ~~~(only option).bits := by
        rw [erase, BitVec.and_assoc, BitVec.and_assoc, BitVec.and_comm b.bits]
    _ = 0 := by rw [apart, show (0 : BitVec 11) = 0#11 from rfl, BitVec.zero_and]

end OptionSet

namespace TypeSet

/-- A set of one type has that one alone. -/
@[simp] theorem meets_only (a b : RequestType) :
    (only a).meets (only b) = decide (a = b) := by
  cases a <;> cases b <;> rfl

/-- The types of two sets are in one of them. -/
@[simp] theorem meets_union (a b c : TypeSet) :
    (a.union b).meets c = (a.meets c || b.meets c) := by
  rw [Bool.eq_iff_iff, Bool.or_eq_true]
  simp only [meets, union, BitVec.and_or_distrib_right, bne_iff_ne, ne_eq]
  rw [show (0 : BitVec 14) = 0#14 from rfl, BitVec.or_eq_zero_iff]
  -- Something in common with both together is in common with one of them.
  tauto

end TypeSet

/-- There is one name for requests of documents. -/
theorem RequestType.eq_of_ofOption?_document {name : String} (named : ofOption? name = some .document) :
    name = "document" := by
  unfold ofOption? at named
  -- One name of the list is that of a document.
  split at named <;> first | rfl | cases named

namespace Network.Options

variable {isException : Bool} {options result : Options}

/-- What one option may do to those before it. -/
inductive Step (isException : Bool) (options : Options) : Options → Prop
  | keep : Step isException options options
  | domains {text : String} {domains : Domains} (read : Domain.parse text = .ok domains) :
    Step isException options { options with
      domains.permitted := options.domains.permitted ++ domains.permitted
      domains.restricted := options.domains.restricted ++ domains.restricted }
  | party (party : Party) : Step isException options { options with party }
  /-- Any set of options but that of popups can be added, each on a rule of its kind. -/
  | enable {added : OptionSet} (level : added.meets .documentLevel = true → isException = true)
    (answer : added.has .emptyResponse = true → isException = false)
    (other : added.has .blockPopups = false) :
    Step isException options { options with set := options.set.union added }
  | unimportant : Step isException options { options with set := options.set.erase .important }
  | popup : Step isException options { options with
      set := options.set.union (.only .blockPopups)
      permittedTypes := options.permittedTypes.union (.only .popup) }
  | csp {directive : Option String} (filled : directive ≠ some "") :
    Step isException options { options with set := options.set.union (.only .csp), csp := directive }
  | cancel : Step isException options { options with cancels := true }
  | permit (type : RequestType) :
    Step isException options
      { options with permittedTypes := options.permittedTypes.union (.only type) }
  | restrict {type : RequestType} (part : type ≠ .document) :
    Step isException options
      { options with restrictedTypes := options.restrictedTypes.union (.only type) }

/-- Options that are allowed on some rules only are added to the others. -/
theorem step_of_enable {added : OptionSet} {name : String}
    (enabled : options.enable added name isException = .ok result)
    (other : added.has .blockPopups = false) : Step isException options result := by
  unfold enable at enabled
  -- Options for the other kind of rule are errors, so what is enabled is allowed.
  split at enabled
  · cases enabled
  · rename_i allowed
    split at enabled <;> cases enabled
    rename_i answers
    refine .enable (fun level => ?_) (fun answer => ?_) other
    · simpa [OptionSet.meets_comm, level] using allowed
    · simpa [answer] using answers

/-- A type that is named is added to one of the two sets; a document is never left out. -/
theorem step_of_addType {rawName : List Char} {name : String}
    (known : ignored.contains name = false) (typed : options.addType rawName name = .ok result) :
    Step isException options result := by
  unfold addType at typed
  split at typed
  · cases typed
    exact .permit _
  · simp only at typed
    split at typed <;> cases typed
    rename_i type forbidden
    refine .restrict fun same => ?_
    subst same
    -- The name would be one of those that mean nothing.
    split at forbidden
    · rename_i rest tilde
      have named := RequestType.eq_of_ofOption?_document forbidden
      rw [← String.toList_inj, String.toList_ofList] at named
      have same : name = "~document" := by
        rw [← String.toList_inj, tilde, named]
        decide
      rw [same] at known
      exact absurd known (by decide)
    · cases forbidden

/-- An option that is accepted takes one of these steps. -/
theorem step_of_add {rawName : List Char} {value : Option (List Char)}
    (added : options.add isException rawName value = .ok result) : Step isException options result := by
  -- The cases are the names of the options, in the order in which these are told apart.
  unfold add at added
  simp only at added
  split at added
  · -- Domains are read, or there are none to read.
    split at added
    · cases added
      exact .keep
    · obtain ⟨domains, read, added⟩ := exists_of_bind_eq_ok added
      cases added
      exact .domains read
  · cases added
    exact .party .third
  · cases added
    exact .party .first
  -- Two options are allowed on rules of both kinds.
  · cases added
    exact .enable (fun level => by cases level) (fun answer => by cases answer) (by decide)
  · cases added
    exact .enable (fun level => by cases level) (fun answer => by cases answer) (by decide)
  · cases added
    exact .unimportant
  -- Six options are for exceptions.
  · exact step_of_enable added (by decide)
  · exact step_of_enable added (by decide)
  · exact step_of_enable added (by decide)
  · exact step_of_enable added (by decide)
  · exact step_of_enable added (by decide)
  · exact step_of_enable added (by decide)
  · cases added
    exact .popup
  · exact step_of_enable added (by decide)
  · -- What is left of a directive is not empty.
    cases added
    refine .csp fun empty => ?_
    obtain ⟨directive, kept, same⟩ := Option.map_eq_some_iff.mp empty
    have filled := (Option.filter_eq_some_iff.mp kept).2
    rw [← String.toList_inj, String.toList_ofList] at same
    simp [same] at filled
  · cases added
    exact .cancel
  · -- What is left is the option for the whole document, a name that means nothing, or a type.
    split at added
    · exact step_of_enable added (by decide)
    · split at added
      · cases added
        exact .keep
      · rename_i known
        exact step_of_addType (by simpa using known) added

/-- What holds of the options that were read so far, in whatever order they came. -/
structure Consistent (isException : Bool) (options : Options) : Prop where
  domains : options.domains.AllNamed
  /-- Only an exception can speak of whole documents, and only a blocking rule answers. -/
  level : options.isDocumentLevel = true → isException = true
  answer : options.set.has .emptyResponse = true → isException = false
  popup : options.set.has .blockPopups = true → options.permittedTypes.meets (.only .popup) = true
  restricted : options.restrictedTypes.meets (.only .document) = false
  csp : options.csp ≠ none → options.set.has .csp = true
  directive : options.csp ≠ some ""

/-- Before any option is read, there is nothing to disagree. -/
theorem consistent_empty : Consistent isException {} where
  domains := Domains.allNamed_empty
  level := fun level => by cases level
  answer := fun answer => by cases answer
  popup := fun popup => by cases popup
  restricted := rfl
  csp := fun none => absurd rfl none
  directive := fun none => by cases none

/-- Options stay consistent with each one that is added. -/
theorem Consistent.step (consistent : Consistent isException options)
    (step : Step isException options result) : Consistent isException result := by
  cases step with
  | keep => exact consistent
  | domains read =>
    exact { consistent with domains := consistent.domains.append (Domain.parse_allNamed read) }
  | party => exact { consistent with }
  | enable level answer other =>
    -- An option of the two sets together is in one of them.
    refine { consistent with
      level := fun both => ?_, answer := fun both => ?_, popup := fun both => ?_, csp := fun some => ?_ }
    · rw [isDocumentLevel, OptionSet.meets_union, Bool.or_eq_true] at both
      exact both.elim consistent.level level
    · rw [OptionSet.has_union, Bool.or_eq_true] at both
      exact both.elim consistent.answer answer
    · rw [OptionSet.has_union, other, Bool.or_false] at both
      exact consistent.popup both
    · rw [OptionSet.has_union, consistent.csp some, Bool.true_or]
  | unimportant =>
    -- What is left was there before, and the options asked about are all left.
    exact { consistent with
      level := fun level => consistent.level (OptionSet.meets_of_meets_erase level)
      answer := fun answer => consistent.answer (by simpa using answer)
      popup := fun popup => consistent.popup (by simpa using popup)
      csp := fun some => by simpa using consistent.csp some }
  | popup =>
    -- The option and its type come together.
    have apart : (OptionSet.only .blockPopups).meets .documentLevel = false := by decide
    exact { consistent with
      level := fun level => consistent.level (by simpa [isDocumentLevel, apart] using level)
      answer := fun answer => consistent.answer (by simpa using answer)
      popup := fun _ => by simp
      csp := fun some => by simpa using consistent.csp some }
  | csp filled =>
    have apart : (OptionSet.only .csp).meets .documentLevel = false := by decide
    exact { consistent with
      level := fun level => consistent.level (by simpa [isDocumentLevel, apart] using level)
      answer := fun answer => consistent.answer (by simpa using answer)
      popup := fun popup => consistent.popup (by simpa using popup)
      csp := fun _ => by simp
      directive := filled }
  | cancel => exact { consistent with }
  | permit type => exact { consistent with popup := fun popup => by simp [consistent.popup popup] }
  | restrict part =>
    refine { consistent with restricted := ?_ }
    rw [TypeSet.meets_union, consistent.restricted, TypeSet.meets_only]
    simpa using part

/-- Options that are added one after the other stay consistent. -/
theorem Consistent.run {texts : List (List Char)} (consistent : Consistent isException options)
    (read : texts.foldlM (addText isException) options = .ok result) :
    Consistent isException result := by
  -- The induction is on the texts, with what was read so far as the state.
  induction texts generalizing options with
  | nil =>
    cases read
    exact consistent
  | cons text texts ih =>
    rw [List.foldlM_cons] at read
    obtain ⟨between, first, read⟩ := exists_of_bind_eq_ok read
    refine ih ?_ read
    unfold addText at first
    split at first <;> exact consistent.step (step_of_add first)

/-- What holds of the options of a rule, once all of them are read. -/
structure Settled (isException : Bool) (options : Options) : Prop where
  domains : options.domains.AllNamed
  level : options.isDocumentLevel = true → isException = true
  documents : options.isDocumentLevel = true → options.permittedTypes = .only .document
  answer : options.set.has .emptyResponse = true → isException = false
  popup : options.set.has .blockPopups = true → options.isDocumentLevel = false →
    options.permittedTypes.meets (.only .popup) = true
  restricted : options.restrictedTypes.meets (.only .document) = false
  csp : options.csp ≠ none → options.set.has .csp = true
  directive : options.csp ≠ some ""

/-- What comes last sets the permitted types of a rule for whole documents, and nothing else. -/
theorem Consistent.finish (consistent : Consistent isException options) :
    Settled isException options.finish := by
  unfold Options.finish
  -- An exception for documents is for documents alone, and any other rule stays as it is.
  split
  · rename_i level
    exact { consistent with
      documents := fun _ => rfl
      popup := fun _ part => absurd level (Bool.eq_false_iff.mp part) }
  · rename_i part
    exact { consistent with
      documents := fun level => absurd level part
      popup := fun popup _ => consistent.popup popup }

/-- The options of a rule, which may have none written. -/
def read (text : Option (List Char)) (isException : Bool) : Except RuleError Options :=
  match text with
  | some text => parse text isException
  | none => .ok {}

/-- All options that are accepted are settled, in whatever order they are written. -/
theorem settled_of_read {text : Option (List Char)} (accepted : read text isException = .ok options) :
    Settled isException options := by
  unfold read at accepted
  split at accepted
  · rename_i text
    unfold parse at accepted
    cases all : (splitOptions text).foldlM (addText isException) {} with
    | error error =>
      rw [all] at accepted
      cases accepted
    | ok added =>
      rw [all] at accepted
      cases accepted
      exact (consistent_empty.run all).finish
  · cases accepted
    -- A line without options says nothing, and there is nothing to finish.
    exact consistent_empty.finish

end Network.Options

end AdFilter
