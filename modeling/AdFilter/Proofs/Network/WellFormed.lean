import AdFilter.Proofs.Network.Literal
import Mathlib

/-! What the parts of a rule about requests have to do with each other, whatever line it was read from. -/

namespace AdFilter

/-- No word of the text is a request for reports, in small or capital letters. -/
def AsksForNoReports (text : String) : Prop :=
  ∀ word : List Char, word.map Char.toLower ∈ ["report-uri".toList, "report-to".toList] →
    ¬ word <:+: text.toList

/-- The parts of a rule about requests agree with each other. -/
structure NetworkRule.WellFormed (rule : NetworkRule) : Prop where
  /-- A rule speaks of whole documents by its options, and then is an exception for documents alone. -/
  level : rule.isDocumentLevel = rule.options.meets .documentLevel
  exception : rule.isDocumentLevel = true → rule.info.isException = true
  documents : rule.isDocumentLevel = true → rule.permittedTypes = .only .document
  accepts : rule.isDocumentLevel = true → ∀ type, rule.acceptsType (.only type) = true ↔ type = .document
  /-- An empty answer is given in place of what is blocked. -/
  answer : rule.options.has .emptyResponse = true → rule.info.isException = false
  popup : rule.options.has .blockPopups = true → rule.isDocumentLevel = false →
    rule.permittedTypes.meets (.only .popup) = true
  permitted : rule.permittedTypes ≠ .empty
  restricted : rule.restrictedTypes.meets (.only .document) = false
  /-- A rule has one flag at most, by its type, and so does not leave out requests of either kind. -/
  party : ∃ thirdParty, rule.party.accepts thirdParty = true
  csp : rule.csp ≠ none → rule.options.has .csp = true
  directive : rule.options.has .csp = true → rule.info.isException = false →
    ∃ directive, rule.csp = some directive ∧ directive ≠ "" ∧ AsksForNoReports directive
  shortcut : rule.shortcut ≠ some ""
  domains : rule.domains.AllNamed
  /-- A rule for every address names the domains on which it applies. -/
  narrow : rule.source = ".*" → rule.domains.permitted ≠ []

namespace Network

variable {text : String} {filterId : Nat} {rule : NetworkRule}

/-- A directive that passes the check is there on a blocking rule, and asks for no reports. -/
theorem exists_of_checkCsp {directive : Option String} (passed : checkCsp directive false = .ok ()) :
    ∃ text, directive = some text ∧ AsksForNoReports text := by
  cases directive with
  | none => cases passed
  | some text =>
    -- There is a directive, and neither of the two requests is found in it.
    refine ⟨text, rfl, fun word asks inside => ?_⟩
    unfold checkCsp at passed
    simp only at passed
    split at passed
    · cases passed
    · rename_i silent
      -- In small letters the word would be found.
      have found := inside.map Char.toLower
      simp only [List.mem_cons, List.not_mem_nil, or_false] at asks
      simp only [Bool.or_eq_true, Text.contains_iff, not_or] at silent
      rcases asks with address | group
      · exact silent.1 (address ▸ found)
      · exact silent.2 (group ▸ found)

/-- A shortcut is some text. -/
theorem address_shortcut_ne_nil {pattern shortcut : List Char}
    (short : (address pattern).2.1 = some shortcut) : shortcut ≠ [] := by
  unfold address at short
  -- The pattern is an expression in slashes, or a basic one.
  split at short
  · simp only at short
    split at short
    · cases short
    · obtain ⟨_, filled, rfl⟩ := regexShortcut_eq_some short
      exact Text.lower_ne_nil filled
  · -- The longest part of a basic pattern is left out if it is empty.
    obtain ⟨filled, rfl⟩ := nonEmptyLower_eq_some short
    exact Text.lower_ne_nil filled

/-- Exceptions for documents accept requests for documents, and those of no other type. -/
theorem acceptsType_only_iff (documents : rule.permittedTypes = .only .document)
    (restricted : rule.restrictedTypes.meets (.only .document) = false) {type : RequestType} :
    rule.acceptsType (.only type) = true ↔ type = .document := by
  constructor
  · intro accepted
    exact eq_document_of_acceptsType documents accepted
  · intro same
    subst same
    -- A request for documents is accepted by the one type that is named.
    simp [NetworkRule.acceptsType, documents, restricted]

section Assembled

variable {line : List Char} {options : Options}

/-- A rule without types of its own is for all of them, so there are always some. -/
theorem permittedTypes_assemble_ne_empty (regex : Regex) :
    (assemble line filterId options regex).permittedTypes ≠ .empty := by
  simp only [assemble]
  -- Without a type that is permitted, all of them are.
  split
  · decide
  · rename_i filled
    simpa [TypeSet.isEmpty] using filled

/-- Windows are among the types of a rule about windows, unless it is for whole documents. -/
theorem permittedTypes_assemble_popup (settled : Options.Settled (split line).isException options)
    (regex : Regex) (blocks : options.set.has .blockPopups = true)
    (part : options.isDocumentLevel = false) :
    (assemble line filterId options regex).permittedTypes.meets (.only .popup) = true := by
  have popup := settled.popup blocks part
  have filled : options.permittedTypes.isEmpty = false := by
    rw [← Bool.not_eq_true]
    intro empty
    -- A set with windows in it is not empty.
    rw [beq_iff_eq.mp empty, TypeSet.meets, TypeSet.empty] at popup
    cases popup
  rwa [permittedTypes_assemble line filterId options regex rfl filled]

/-- The directive of a blocking rule has passed the check. -/
theorem exists_of_allowed (settled : Options.Settled (split line).isException options)
    (allowed : Allowed (split line) options) (csp : options.set.has .csp = true)
    (blocking : (split line).isException = false) :
    ∃ directive, options.csp = some directive ∧ directive ≠ "" ∧ AsksForNoReports directive := by
  have passed := allowed.csp csp
  rw [blocking] at passed
  -- An empty directive would have been dropped as it was read.
  obtain ⟨directive, present, silent⟩ := exists_of_checkCsp passed
  refine ⟨directive, present, ?_, silent⟩
  intro empty
  exact settled.directive (empty ▸ present)

/-- A shortcut of a rule is some text. -/
theorem shortcut_assemble_ne_empty (regex : Regex) :
    (assemble line filterId options regex).shortcut ≠ some "" := by
  intro empty
  -- A shortcut that is there was not empty in the pattern.
  obtain ⟨shortcut, short, same⟩ := Option.map_eq_some_iff.mp empty
  rw [← String.toList_inj, String.toList_ofList] at same
  exact address_shortcut_ne_nil short same

/-- A rule whose source means every address names domains. -/
theorem permitted_assemble_ne_nil (allowed : Allowed (split line) options) (regex : Regex)
    (wide : (assemble line filterId options regex).source = ".*") : options.domains.permitted ≠ [] := by
  -- The source stands for anything only if the pattern was written as that.
  have source : (address (split line).pattern).1 = anything := by
    rw [← String.toList_inj] at wide
    simpa [assemble, anything] using wide
  simpa [Domains.isGeneric] using allowed.narrow source

end Assembled

/-- Every rule about requests is well formed, whatever its options are and in whatever order they come. -/
theorem compile_wellFormed (compiled : compile text filterId = .ok rule) : rule.WellFormed := by
  obtain ⟨options, regex, read, allowed, _, rfl⟩ := exists_of_compile_eq_ok compiled
  have settled := Options.settled_of_read read
  generalize Text.trim text.toList = line at *
  -- The options name documents as the only type, and the rule takes over what they name.
  have documents (level : options.isDocumentLevel = true) :
      (assemble line filterId options regex).permittedTypes = .only .document :=
    permittedTypes_assemble line filterId options regex (settled.documents level) (by decide)
  -- Most parts of the rule are those of its options.
  exact {
    level := rfl
    exception := settled.level
    documents
    accepts := fun level _ => acceptsType_only_iff (documents level) settled.restricted
    answer := settled.answer
    popup := permittedTypes_assemble_popup settled regex
    permitted := permittedTypes_assemble_ne_empty regex
    restricted := settled.restricted
    party := by
      cases (assemble line filterId options regex).party with
      | any => exact ⟨true, rfl⟩
      | first => exact ⟨false, rfl⟩
      | third => exact ⟨true, rfl⟩
    csp := settled.csp
    directive := exists_of_allowed settled allowed
    shortcut := shortcut_assemble_ne_empty regex
    domains := settled.domains
    narrow := permitted_assemble_ne_nil allowed regex }

/-- An exception for documents with a type left out, and a blocking rule with a directive and for windows. -/
theorem compile_wellFormed_options :
    (∃ rule, compile "@@||example.com^$document,~script,domain=a.org|~b.a.org" 1 = .ok rule ∧
      rule.isDocumentLevel = true ∧ rule.WellFormed) ∧
    ∃ rule, compile "||ads.net^$Popup,csp=frame-src none,third-party" 1 = .ok rule ∧
      rule.options.has .csp = true ∧ rule.options.has .blockPopups = true ∧ rule.WellFormed := by
  -- Both lines are compiled here, and what they are made into is looked at.
  have first : ((compile "@@||example.com^$document,~script,domain=a.org|~b.a.org" 1).toOption.any
      (·.isDocumentLevel)) = true := by decide +kernel
  have second : ((compile "||ads.net^$Popup,csp=frame-src none,third-party" 1).toOption.any fun rule =>
      rule.options.has .csp && rule.options.has .blockPopups) = true := by decide +kernel
  obtain ⟨exception, compiled, level⟩ := exists_of_any_toOption first
  obtain ⟨blocking, made, options⟩ := exists_of_any_toOption second
  simp only [Bool.and_eq_true] at options
  exact ⟨⟨exception, compiled, level, compile_wellFormed compiled⟩,
    blocking, made, options.1, options.2, compile_wellFormed made⟩

end Network

end AdFilter
