import AdFilter.Network.Compile
import AdFilter.Proofs.Network.Options

/-! What holds of every rule about requests, whatever line it was read from. -/

namespace AdFilter

namespace Network

/-- The rule of a line, once its parts are read. -/
def assemble (line : List Char) (filterId : Nat) (options : Options) (regex : Regex) : NetworkRule :=
  let parts := split line
  let (source, shortcut, isRegexRule) := address parts.pattern
  { info := ⟨String.ofList line, filterId, parts.isException⟩
    regex
    source := String.ofList source
    shortcut := shortcut.map String.ofList
    domains := options.domains
    permittedTypes := if options.permittedTypes.isEmpty then .all else options.permittedTypes
    restrictedTypes := options.restrictedTypes
    party := options.party
    options := options.set
    isRegexRule
    isDocumentLevel := options.isDocumentLevel
    csp := options.csp
    cancels := if options.cancels then some (String.ofList (cancelledText line)) else none }

/-- What is checked once the options of a line are read. -/
structure Allowed (parts : Parts) (options : Options) : Prop where
  narrow : (address parts.pattern).1 = anything → options.domains.isGeneric = false
  csp : options.set.has .csp = true → checkCsp options.csp parts.isException = .ok ()

/-- A line that is accepted passes the checks, and the rule is made from its options and expression. -/
theorem exists_of_compile_eq_ok {text : String} {filterId : Nat} {rule : NetworkRule}
    (compiled : compile text filterId = .ok rule) :
    let parts := split (Text.trim text.toList)
    ∃ options regex, Options.read parts.options parts.isException = .ok options ∧
      Allowed parts options ∧
      Regex.compile (!options.set.has .matchCase) (address parts.pattern).1 = .ok regex ∧
      rule = assemble (Text.trim text.toList) filterId options regex := by
  unfold compile at compiled
  simp only at compiled ⊢
  generalize Text.trim text.toList = line at compiled ⊢
  -- A line without options is made into a rule like one with options that say nothing.
  cases given : (split line).options
  all_goals
    rw [given] at compiled
    -- The options come first, and then the expression with its regard to case.
    obtain ⟨options, read, rest⟩ := exists_of_bind_eq_ok compiled
    simp only [bind, Except.bind, throw, throwThe, MonadExceptOf.throw, pure, Except.pure] at rest
    cases found : Regex.compile (!options.set.has .matchCase) (address (split line).pattern).1 with
    | error error =>
      rw [found] at rest
      split at rest
      · cases rest
      · split at rest
        · split at rest <;> cases rest
        · cases rest
    | ok regex =>
      rw [found] at rest
      -- The checks that follow refuse the rule or leave it as it is.
      split at rest
      · cases rest
      · rename_i narrow
        have narrow : (address (split line).pattern).1 = anything → options.domains.isGeneric = false := by
          simpa using narrow
        split at rest
        · split at rest
          · cases rest
          · rename_i passed
            cases rest
            exact ⟨options, regex, read, ⟨narrow, fun _ => passed⟩, found, rfl⟩
        · rename_i without
          cases rest
          exact ⟨options, regex, read, ⟨narrow, fun some => absurd some without⟩, found, rfl⟩

/-- A line is accepted if its options and its expression are, and they pass the checks. -/
theorem compile_of_allowed {text : String} {filterId : Nat} {regex : Regex} (options : Options)
    (read : Options.read (split (Text.trim text.toList)).options
      (split (Text.trim text.toList)).isException = .ok options)
    (allowed : Allowed (split (Text.trim text.toList)) options)
    (found : Regex.compile (!options.set.has .matchCase)
      (address (split (Text.trim text.toList)).pattern).1 = .ok regex) :
    compile text filterId = .ok (assemble (Text.trim text.toList) filterId options regex) := by
  unfold compile
  generalize Text.trim text.toList = line at *
  -- Both checks are passed, so each of them leaves what comes after it.
  have narrow : ((address (split line).pattern).1 == anything && options.domains.isGeneric) = false := by
    simpa using allowed.narrow
  have passed (rule : NetworkRule) : (if options.set.has .csp = true
      then checkCsp options.csp (split line).isException >>= fun _ => .ok rule else .ok rule) = .ok rule := by
    split
    · rw [allowed.csp ‹_›]
      rfl
    · rfl
  -- Without options the rule is made from options that say nothing.
  cases given : (split line).options with
  | none =>
    rw [given] at read
    cases read
    simp only [given, pure, Except.pure, bind, Except.bind, narrow, found, Bool.false_eq_true, if_false]
    exact passed _
  | some written =>
    rw [given] at read
    have read : Options.parse written (split line).isException = .ok options := read
    simp only [given, read, pure, Except.pure, bind, Except.bind, narrow, found, Bool.false_eq_true,
      if_false]
    exact passed _

/-- A line that is accepted has options and an expression that are, and the rule is made from them. -/
theorem compile_eq_ok {text : String} {filterId : Nat} {rule : NetworkRule}
    (compiled : compile text filterId = .ok rule) :
    ∃ options regex,
      Options.read (split (Text.trim text.toList)).options (split (Text.trim text.toList)).isException
        = .ok options ∧
      Regex.compile (!options.set.has .matchCase)
        (address (split (Text.trim text.toList)).pattern).1 = .ok regex ∧
      rule = assemble (Text.trim text.toList) filterId options regex := by
  obtain ⟨options, regex, read, _, found, same⟩ := exists_of_compile_eq_ok compiled
  exact ⟨options, regex, read, found, same⟩

section Compiled

variable {text : String} {filterId : Nat} {rule : NetworkRule}

/-- The domains on which a rule applies are named. -/
theorem compile_named (compiled : compile text filterId = .ok rule) : rule.domains.Named := by
  obtain ⟨options, regex, read, _, rfl⟩ := compile_eq_ok compiled
  -- Options are read from entries with names only.
  exact (Options.settled_of_read read).domains.named

/-- The types of the options are those of the rule, where there are any. -/
theorem permittedTypes_assemble (line : List Char) (filterId : Nat) (options : Options) (regex : Regex)
    {types : TypeSet} (permitted : options.permittedTypes = types) (filled : types.isEmpty = false) :
    (assemble line filterId options regex).permittedTypes = types := by
  simp [assemble, permitted, filled]

/-- A rule for whole documents means requests for documents alone. -/
theorem compile_permittedTypes (compiled : compile text filterId = .ok rule)
    (level : rule.isDocumentLevel = true) : rule.permittedTypes = .only .document := by
  obtain ⟨options, regex, read, _, rfl⟩ := compile_eq_ok compiled
  have documents := (Options.settled_of_read read).documents level
  -- A rule with types keeps these, and all types are put in for none.
  exact permittedTypes_assemble _ _ options regex documents (by decide)

/-- Only exceptions are rules for whole documents. -/
theorem compile_isDocumentLevel (compiled : compile text filterId = .ok rule)
    (level : rule.isDocumentLevel = true) : rule.info.isException = true := by
  obtain ⟨options, regex, read, _, rfl⟩ := compile_eq_ok compiled
  -- Options for whole documents were refused on a blocking rule.
  exact (Options.settled_of_read read).level level

/-- What means requests for documents alone accepts no others. -/
theorem eq_document_of_acceptsType (documents : rule.permittedTypes = .only .document)
    {type : RequestType} (accepted : rule.acceptsType (.only type) = true) : type = .document := by
  have part : (TypeSet.only .document == TypeSet.all) = false := by decide
  -- Documents are not all types, so only what is among them is accepted.
  rw [NetworkRule.acceptsType, documents, part, Bool.false_or, TypeSet.meets_only, Bool.and_eq_true,
    decide_eq_true_eq] at accepted
  exact accepted.1.symm

end Compiled

end Network

end AdFilter
