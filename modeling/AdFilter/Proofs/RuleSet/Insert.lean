import AdFilter.Proofs.RuleSet.Decision

/-!
One more rule in a list: a blocking rule lets no blocked request through, and an exception blocks a
request only by taking the place of weightier ones.
-/

namespace AdFilter

namespace Rule

variable {before after : List Rule} {added rule : NetworkRule}

/-- A rule that cancels nothing leaves the texts that are cancelled as they are. -/
theorem filterMap_cancels_insert (plain : added.cancels = none) :
    (before ++ network added :: after).filterMap cancels =
      (before ++ after).filterMap cancels := by
  -- A rule that cancels nothing adds no text.
  rw [List.filterMap_append, List.filterMap_append, List.filterMap_cons_none (by exact plain)]

/-- A rule that stands in a list still does with one more in the list. -/
theorem mem_standing_insert (plain : added.cancels = none)
    (stands : rule ∈ standing (before ++ after)) :
    rule ∈ standing (before ++ network added :: after) := by
  rw [mem_standing_iff] at stands ⊢
  rw [filterMap_cancels_insert plain]
  -- What is cancelled goes by the other rules, and these are the same.
  exact ⟨by simpa using Or.imp_right Or.inr (List.mem_append.mp stands.1), stands.2⟩

/-- A rule that stands in a list with one more in it is that one, or stood there before. -/
theorem eq_or_mem_standing_of_insert (plain : added.cancels = none)
    (stands : rule ∈ standing (before ++ network added :: after)) :
    rule = added ∨ rule ∈ standing (before ++ after) := by
  rw [mem_standing_iff, filterMap_cancels_insert plain] at stands
  rw [mem_standing_iff]
  obtain ⟨listed, rest⟩ := stands
  -- The rule stood before the place of the new one, is the new one, or stood behind it.
  rcases List.mem_append.mp listed with early | late
  · exact Or.inr ⟨List.mem_append_left _ early, rest⟩
  · rcases List.mem_cons.mp late with same | late
    · exact Or.inl (network.inj same)
    · exact Or.inr ⟨List.mem_append_right _ late, rest⟩

/-- A list of accepted rules consists of such rules without one of them as well. -/
theorem Compiled.of_insert (compiled : Compiled (before ++ network added :: after)) :
    Compiled (before ++ after) :=
  compiled.mono ((List.sublist_cons_self _ after).append_left before).subset

/-- A host that can be held against rules can be held against them without one of them as well. -/
theorem DefinedOn.of_insert {entry : Rule} {host : String}
    (defined : DefinedOn (before ++ entry :: after) host) : DefinedOn (before ++ after) host :=
  defined.mono ((List.sublist_cons_self _ after).append_left before).subset

end Rule

namespace Request

variable {request : Request} {before after : List Rule} {added : NetworkRule}

/-- One more blocking rule in the list leaves a request blocked. -/
theorem IsBlocked.insert_blocking (blocked : request.IsBlocked (before ++ after))
    (plain : added.cancels = none) (blocking : added.info.isException = false) :
    request.IsBlocked (before ++ Rule.network added :: after) := by
  -- The exceptions are what they were, and so are those for the document.
  have same (rule : NetworkRule) (exception : rule.info.isException = true) :
      rule ∈ Rule.standing (before ++ Rule.network added :: after) ↔
        rule ∈ Rule.standing (before ++ after) := by
    refine ⟨fun stands => ?_, Rule.mem_standing_insert plain⟩
    -- The new rule is no exception, so an exception in the list was there before.
    refine (Rule.eq_or_mem_standing_of_insert plain stands).resolve_left fun equal => ?_
    rw [equal, blocking] at exception
    cases exception
  obtain ⟨blocker, member, outweighs⟩ := blocked.outweighed
  obtain ⟨stands, kind, speaks, allowed⟩ := mem_blockers_iff.mp member
  -- The blocking rule that outweighs them is still there.
  refine ⟨blocked.address, fun rule held => blocked.unimportant rule ?_,
    fun rule held => blocked.closed rule ?_, blocker, ?_, fun rule held => outweighs rule ?_⟩
  · exact (mem_contenders_congr same).mp held
  · exact (mem_documentExceptions_congr same).mp held
  · refine mem_blockers_iff.mpr ⟨Rule.mem_standing_insert plain stands, kind, speaks,
      fun generic exception held => allowed generic exception ?_⟩
    exact (mem_documentExceptions_congr same).mp held
  · exact (mem_contenders_congr same).mp held

/-- An exception takes the place of all others: a document is asked for by itself, and of the exceptions
that count for it this is the only one for whole documents. -/
structure Displaces (request : Request) (rules : List Rule) (exception : NetworkRule) : Prop where
  address : request.url ≠ ""
  asked : request.types = .only .document
  counts : exception ∈ request.counting rules
  whole : exception.isDocumentLevel = true
  alone : ∀ other ∈ request.counting rules, other.isDocumentLevel = true → other = exception

/-- An exception that takes the place of all others is the one that a request is held against. -/
theorem Displaces.mem_contenders_iff {rules : List Rule} {exception rule : NetworkRule}
    (displaces : request.Displaces rules exception) :
    rule ∈ request.contenders rules ↔ rule = exception := by
  rw [contenders, NetworkRule.mem_preferred_iff]
  constructor
  -- The others are not for whole documents, so they step back behind this one.
  · rintro ⟨counts, stepsBack⟩
    exact displaces.alone rule counts
      (stepsBack displaces.asked ⟨exception, displaces.counts, displaces.whole⟩)
  · rintro rfl
    exact ⟨displaces.counts, fun _ _ => displaces.whole⟩

/-- An exception that counts still does with one more rule in the list. -/
theorem mem_counting_insert (plain : added.cancels = none) {rule : NetworkRule}
    (counts : rule ∈ request.counting (before ++ after)) :
    rule ∈ request.counting (before ++ Rule.network added :: after) := by
  rw [mem_counting_iff] at counts ⊢
  -- The added rule takes none out of force.
  exact ⟨Rule.mem_standing_insert plain counts.1, counts.2⟩

/-- An exception that counts with one more rule in the list is that one, or counted before. -/
theorem eq_or_mem_counting_of_insert (plain : added.cancels = none) {rule : NetworkRule}
    (counts : rule ∈ request.counting (before ++ Rule.network added :: after)) :
    rule = added ∨ rule ∈ request.counting (before ++ after) := by
  rw [mem_counting_iff] at counts ⊢
  -- The added rule puts none in force but itself.
  exact (Rule.eq_or_mem_standing_of_insert plain counts.1).imp_right fun stands => ⟨stands, counts.2⟩

/-- One more exception leaves those that a request is held against, or takes the place of them all. -/
theorem contenders_subset_or_displaces (plain : added.cancels = none) (address : request.url ≠ "") :
    request.contenders (before ++ after) ⊆ request.contenders (before ++ Rule.network added :: after) ∨
      request.Displaces (before ++ Rule.network added :: after) added := by
  -- If the new one does not displace the others, none of them steps back for it.
  refine or_iff_not_imp_right.mpr fun stays rule member => ?_
  rw [contenders, NetworkRule.mem_preferred_iff] at member ⊢
  obtain ⟨counts, stepsBack⟩ := member
  refine ⟨mem_counting_insert plain counts, fun asked preferred => ?_⟩
  obtain ⟨other, present, whole⟩ := preferred
  -- A rule for whole documents that counted before is in the way of both.
  by_contra narrow
  have none : ∀ third ∈ request.counting (before ++ after), third.isDocumentLevel = false := by
    intro third member
    rw [← Bool.not_eq_true]
    exact fun level => narrow (stepsBack asked ⟨third, member, level⟩)
  have only {third : NetworkRule}
      (member : third ∈ request.counting (before ++ Rule.network added :: after))
      (level : third.isDocumentLevel = true) : third = added :=
    (eq_or_mem_counting_of_insert plain member).resolve_right fun early => by
      rw [none third early] at level
      cases level
  have new := only present whole
  exact stays ⟨address, asked, new ▸ present, new ▸ whole, fun _ => only⟩

/-- A request that is blocked with one more exception was blocked before, unless that one takes the place
of others. -/
theorem IsBlocked.of_insert_exception
    (blocked : request.IsBlocked (before ++ Rule.network added :: after))
    (plain : added.cancels = none) (excepting : added.info.isException = true)
    (kept : request.contenders (before ++ after) ⊆
      request.contenders (before ++ Rule.network added :: after)) :
    request.IsBlocked (before ++ after) := by
  -- The exceptions for the document only grow by the new one.
  have documents {rule : NetworkRule} (held : rule ∈ request.documentExceptions (before ++ after)) :
      rule ∈ request.documentExceptions (before ++ Rule.network added :: after) := by
    rw [mem_documentExceptions_iff] at held ⊢
    exact ⟨Rule.mem_standing_insert plain held.1, held.2⟩
  obtain ⟨blocker, member, outweighs⟩ := blocked.outweighed
  obtain ⟨stands, blocking, speaks, allowed⟩ := mem_blockers_iff.mp member
  refine ⟨blocked.address, fun rule held => blocked.unimportant rule (kept held),
    fun rule held => blocked.closed rule (documents held), blocker, ?_,
    fun rule held => outweighs rule (kept held)⟩
  -- The blocking rule is not the new one, and no exception for the document is gone.
  refine mem_blockers_iff.mpr ⟨?_, blocking, speaks,
    fun generic exception held => allowed generic exception (documents held)⟩
  refine (Rule.eq_or_mem_standing_of_insert plain stands).resolve_left fun same => ?_
  rw [same, excepting] at blocking
  cases blocking

/-- One more exception blocks a request just if it takes the place of all others and does not outweigh
the blocking rules by itself. -/
theorem isBlocked_insert_exception_iff (plain : added.cancels = none)
    (excepting : added.info.isException = true)
    (unblocked : ¬ request.IsBlocked (before ++ after)) :
    request.IsBlocked (before ++ Rule.network added :: after) ↔
      request.Displaces (before ++ Rule.network added :: after) added ∧
        Decision.byAll [added]
          (request.documentExceptions (before ++ Rule.network added :: after))
          (request.blockers (before ++ Rule.network added :: after)) = .block := by
  rw [Decision.byAll_eq_block_iff]
  constructor
  · intro blocked
    -- Otherwise the same exceptions are still there, and blocked means blocked before.
    have displaces := (contenders_subset_or_displaces plain blocked.address).resolve_left fun kept =>
      unblocked (blocked.of_insert_exception plain excepting kept)
    have held := displaces.mem_contenders_iff.mpr rfl
    obtain ⟨blocker, member, outweighs⟩ := blocked.outweighed
    simp only [List.mem_singleton, forall_eq]
    exact ⟨displaces, blocked.unimportant added held, blocked.closed, blocker, member,
      outweighs added held⟩
  · rintro ⟨displaces, unimportant, closed, blocker, member, outweighs⟩
    -- The new exception stands alone, so what holds of it holds of all.
    have alone {rule : NetworkRule}
        (held : rule ∈ request.contenders (before ++ Rule.network added :: after)) : rule ∈ [added] :=
      List.mem_singleton.mpr (displaces.mem_contenders_iff.mp held)
    exact ⟨displaces.address, fun rule held => unimportant rule (alone held), closed, blocker, member,
      fun rule held => outweighs rule (alone held)⟩

end Request

/--
One more blocking rule, wherever it is put into a list, lets no request through that was blocked.

Whatever the engines for the two lists were asked before, what the one blocks the other blocks. It gives an
answer where the host of the document can be held against the domains of the rules, the new one among them; at
another host the program may stop at the new one, but lets nothing through.
-/
theorem answer_blocked_of_blocking_added (before after : List Rule) (added : NetworkRule)
    (compiled : Rule.Compiled (before ++ Rule.network added :: after))
    (blocking : added.info.isException = false) (plain : added.cancels = none)
    (cacheSize otherSize : Nat) (earlier others : List Request) (request : Request)
    (blocked : (((Engine.ofRules (before ++ after) cacheSize).asked earlier).tryVerdict request).map
      Verdict.decision = some .block) :
    let engine := (Engine.ofRules (before ++ Rule.network added :: after) otherSize).asked others
    (Rule.DefinedOn (before ++ Rule.network added :: after) request.query.host →
      (engine.tryVerdict request).isSome) ∧
    ∀ verdict, engine.tryVerdict request = some verdict → verdict.decision = .block := by
  have attains := Engine.attains_verdict_asked (before ++ Rule.network added :: after) otherSize others
    request
  refine ⟨attains.given, fun verdict given => ?_⟩
  -- Both verdicts are those of the rules, and each says whether these block the request.
  obtain ⟨verdict', given', decides⟩ := Option.map_eq_some_iff.mp blocked
  rw [(Engine.attains_verdict_asked (before ++ after) cacheSize earlier request).right _ given',
    RuleSet.decision_judge_eq_block_iff compiled.of_insert] at decides
  rw [attains.right verdict given, RuleSet.decision_judge_eq_block_iff compiled]
  exact decides.insert_blocking plain blocking

/-- The rule that the line `ads$domain=example.com` stands for. -/
def adsOnExample : NetworkRule :=
  { adsEverywhere with
    info := ⟨"ads$domain=example.com", 0, false⟩
    domains := ⟨["example.com"], []⟩ }

/-- The rule is what its line is compiled to. -/
theorem compile_adsOnExample : Network.compile "ads$domain=example.com" 0 = .ok adsOnExample := rfl

/-- The exception that the line `@@ads$urlblock` stands for. -/
def adsLetThrough : NetworkRule :=
  { adsEverywhere with
    info := ⟨"@@ads$urlblock", 0, true⟩
    permittedTypes := .only .document
    options := .only .urlBlock
    isDocumentLevel := true }

/-- The exception is what its line is compiled to. -/
theorem compile_adsLetThrough : Network.compile "@@ads$urlblock" 0 = .ok adsLetThrough := rfl

/-- A rule for one site, and an exception for documents. -/
def adsOnExampleRules : List Rule := [Rule.network adsOnExample, Rule.network adsLetThrough]

/-- A script that a rule for one site blocks is still blocked with a rule for all sites before it. -/
theorem answer_blocked_of_blocking_added_script :
    Rule.Compiled ([] ++ Rule.network adsEverywhere :: adsOnExampleRules) ∧
      adsEverywhere.info.isException = false ∧ adsEverywhere.cancels = none ∧
      (((Engine.ofRules ([] ++ adsOnExampleRules) 1).asked []).tryVerdict scriptForPage).map
        Verdict.decision = some .block ∧
      (((Engine.ofRules ([] ++ Rule.network adsEverywhere :: adsOnExampleRules) 1).asked
        [scriptForPage]).tryVerdict scriptForPage).map Verdict.decision = some .block := by
  have compiled : Rule.Compiled ([] ++ Rule.network adsEverywhere :: adsOnExampleRules) :=
    .cons compile_adsEverywhere (.cons compile_adsOnExample (.cons compile_adsLetThrough .nil))
  have defined : Rule.DefinedOn ([] ++ Rule.network adsEverywhere :: adsOnExampleRules)
      scriptForPage.query.host :=
    Rule.definedOn_of_closed (by decide +kernel) _
  have blocked : (((Engine.ofRules ([] ++ adsOnExampleRules) 1).asked []).tryVerdict
      scriptForPage).map Verdict.decision = some .block := by
    rw [(Engine.attains_verdict_asked _ 1 [] scriptForPage).eq_some defined.of_insert, Option.map_some,
      Option.some.injEq, RuleSet.decision_judge_eq_block_iff compiled.of_insert, List.nil_append]
    have standing : Rule.standing adsOnExampleRules = [adsOnExample, adsLetThrough] := rfl
    -- The rule matches, and the exception matches neither the script nor the page.
    have speaks : adsOnExample.answers scriptForPage.query = true := by cbv
    have silent : adsLetThrough.answers scriptForPage.query = false := by cbv
    have elsewhere : adsLetThrough.answers (RuleSet.documentQuery "//example.com/") = false := by cbv
    have blocking : adsOnExample.info.isException = false := rfl
    have page : scriptForPage.document.getD "" = "//example.com/" := rfl
    have contenders : scriptForPage.contenders adsOnExampleRules = [] := by
      simp [Request.contenders, Request.counting, standing, silent, blocking, NetworkRule.preferred]
    have documents : scriptForPage.documentExceptions adsOnExampleRules = [] := by
      simp [Request.documentExceptions, standing, elsewhere, blocking, page]
    refine ⟨by decide, by simp [contenders], by simp [documents], adsOnExample, ?_, by simp [contenders]⟩
    rw [Request.mem_blockers_iff, standing, documents]
    exact ⟨by simp, rfl, speaks, by simp⟩
  obtain ⟨ends, right⟩ := answer_blocked_of_blocking_added [] adsOnExampleRules adsEverywhere compiled rfl
    rfl 1 1 [] [scriptForPage] scriptForPage blocked
  obtain ⟨verdict, given⟩ := Option.isSome_iff_exists.mp (ends defined)
  refine ⟨compiled, rfl, rfl, blocked, ?_⟩
  rw [given, Option.map_some, right verdict given]

/--
One more exception, wherever it is put into a list, blocks no request but one for a document, where it
takes the place of all other exceptions.

An exception for whole documents is preferred to others where a document is asked for. If it is the only
such one, the request is blocked just if it is by all blocking rules against this exception alone.
-/
theorem answer_blocked_of_exception_added_iff (before after : List Rule) (added : NetworkRule)
    (compiled : Rule.Compiled (before ++ Rule.network added :: after))
    (excepting : added.info.isException = true) (plain : added.cancels = none)
    (cacheSize otherSize : Nat) (earlier others : List Request) (request : Request)
    (unblocked : (((Engine.ofRules (before ++ after) cacheSize).asked earlier).answer
      request).1.decision ≠ .block) :
    (((Engine.ofRules (before ++ Rule.network added :: after) otherSize).asked others).answer
      request).1.decision = .block ↔
      request.Displaces (before ++ Rule.network added :: after) added ∧
        Decision.byAll [added]
          (request.documentExceptions (before ++ Rule.network added :: after))
          (request.blockers (before ++ Rule.network added :: after)) = .block := by
  -- What was answered before does not matter, so both are read off the lists.
  rw [Engine.answer_asked, ne_eq, RuleSet.decision_judge_eq_block_iff compiled.of_insert] at unblocked
  rw [Engine.answer_asked, RuleSet.decision_judge_eq_block_iff compiled]
  exact Request.isBlocked_insert_exception_iff plain excepting unblocked

/-- A script that an exception lets through is not blocked with an exception for documents before it. -/
theorem answer_blocked_of_exception_added_iff_script :
    Rule.Compiled ([Rule.network adsEverywhere] ++ Rule.network adsLetThrough :: [Rule.network adsExcepted]) ∧
      adsLetThrough.info.isException = true ∧ adsLetThrough.cancels = none ∧
      (((Engine.ofRules ([Rule.network adsEverywhere] ++ [Rule.network adsExcepted]) 1).asked []).answer
        scriptForPage).1.decision ≠ .block ∧
      (((Engine.ofRules ([Rule.network adsEverywhere] ++
        Rule.network adsLetThrough :: [Rule.network adsExcepted]) 1).asked [scriptForPage]).answer
        scriptForPage).1.decision ≠ .block := by
  have compiled : Rule.Compiled
      ([Rule.network adsEverywhere] ++ Rule.network adsLetThrough :: [Rule.network adsExcepted]) :=
    .cons compile_adsEverywhere (.cons compile_adsLetThrough (.cons compile_adsExcepted .nil))
  have unblocked : (((Engine.ofRules ([Rule.network adsEverywhere] ++ [Rule.network adsExcepted]) 1).asked
      []).answer scriptForPage).1.decision ≠ .block := by
    rw [Engine.answer_asked, ne_eq, RuleSet.decision_judge_eq_block_iff compiled.of_insert]
    intro blocked
    obtain ⟨blocker, member, outweighs⟩ := blocked.outweighed
    have standing : Rule.standing ([Rule.network adsEverywhere] ++ [Rule.network adsExcepted]) =
        [adsEverywhere, adsExcepted] := rfl
    -- The only blocking rule weighs less than the exception.
    have excepts : adsExcepted.answers scriptForPage.query = true := by cbv
    have held : adsExcepted ∈ scriptForPage.contenders
        ([Rule.network adsEverywhere] ++ [Rule.network adsExcepted]) := by
      rw [Request.contenders, NetworkRule.preferred_eq_of_ne (by decide), Request.mem_counting_iff,
        standing]
      exact ⟨by simp, rfl, by decide, excepts⟩
    obtain ⟨stands, blocking, _⟩ := Request.mem_blockers_iff.mp member
    rw [standing] at stands
    rcases List.mem_cons.mp stands with rfl | stands
    · exact absurd (outweighs adsExcepted held) (by decide)
    · rw [List.mem_singleton.mp stands] at blocking
      exact absurd blocking (by decide)
  refine ⟨compiled, rfl, rfl, unblocked, fun blocked => ?_⟩
  have displaces := ((answer_blocked_of_exception_added_iff [Rule.network adsEverywhere]
    [Rule.network adsExcepted] adsLetThrough compiled rfl rfl 1 1 [] [scriptForPage] scriptForPage
    unblocked).mp blocked).1
  exact absurd displaces.asked (by decide)

/-- A page of the site leads to another document. -/
def documentForPage : Request := ⟨"//ads/", some "//example.com/", .only .document⟩

/-- An exception for documents has a document blocked that the exception for the site lets through. -/
theorem exception_blocks_document :
    Rule.Compiled ([Rule.network adsOnExample] ++ Rule.network adsLetThrough :: [Rule.network adsExcepted]) ∧
      adsLetThrough.info.isException = true ∧ adsLetThrough.cancels = none ∧
      adsLetThrough.isCsp = false ∧
      (((Engine.ofRules ([Rule.network adsOnExample] ++ [Rule.network adsExcepted]) 1).asked []).answer
        documentForPage).1.decision = .allow ∧
      (((Engine.ofRules ([Rule.network adsOnExample] ++
        Rule.network adsLetThrough :: [Rule.network adsExcepted]) 1).asked []).answer
        documentForPage).1.decision = .block := by
  have compiled : Rule.Compiled
      ([Rule.network adsOnExample] ++ Rule.network adsLetThrough :: [Rule.network adsExcepted]) :=
    .cons compile_adsOnExample (.cons compile_adsLetThrough (.cons compile_adsExcepted .nil))
  -- All three rules match the request, and no exception matches the page that leads to it.
  have blocks : adsOnExample.answers documentForPage.query = true := by cbv
  have excepts : adsExcepted.answers documentForPage.query = true := by cbv
  have allows : adsLetThrough.answers documentForPage.query = true := by cbv
  have elsewhere : adsLetThrough.answers (RuleSet.documentQuery "//example.com/") = false := by cbv
  have page : documentForPage.document.getD "" = "//example.com/" := rfl
  have blocking : adsOnExample.info.isException = false := rfl
  have excepting : adsExcepted.info.isException = true ∧ adsExcepted.isDocumentLevel = false :=
    ⟨rfl, rfl⟩
  have whole : adsLetThrough.info.isException = true ∧ adsLetThrough.isDocumentLevel = true ∧
      adsLetThrough.options.has .urlBlock = true := ⟨rfl, rfl, rfl⟩
  refine ⟨compiled, rfl, rfl, rfl, ?_, ?_⟩
  · have standing : Rule.standing ([Rule.network adsOnExample] ++ [Rule.network adsExcepted]) =
        [adsOnExample, adsExcepted] := rfl
    have counting : documentForPage.counting ([Rule.network adsOnExample] ++ [Rule.network adsExcepted]) =
        [adsExcepted] := by
      rw [Request.counting, standing]
      simp [excepts, blocking, excepting]
    have documents : documentForPage.documentExceptions
        ([Rule.network adsOnExample] ++ [Rule.network adsExcepted]) = [] := by
      rw [Request.documentExceptions, standing]
      simp [blocking, excepting]
    have blockers : documentForPage.blockers ([Rule.network adsOnExample] ++ [Rule.network adsExcepted]) =
        [adsOnExample] := by
      rw [Request.blockers, standing, documents]
      simp [blocks, blocking, excepting]
    rw [Engine.answer_asked, RuleSet.decision_judge compiled.of_insert (by decide),
      Request.contenders, counting, documents, blockers]
    rfl
  · have standing : Rule.standing
        ([Rule.network adsOnExample] ++ Rule.network adsLetThrough :: [Rule.network adsExcepted]) =
        [adsOnExample, adsLetThrough, adsExcepted] := rfl
    have counting : documentForPage.counting
        ([Rule.network adsOnExample] ++ Rule.network adsLetThrough :: [Rule.network adsExcepted]) =
        [adsLetThrough, adsExcepted] := by
      rw [Request.counting, standing]
      simp [excepts, allows, blocking, excepting, whole]
    have documents : documentForPage.documentExceptions
        ([Rule.network adsOnExample] ++ Rule.network adsLetThrough :: [Rule.network adsExcepted]) = [] := by
      rw [Request.documentExceptions, standing]
      simp [blocking, excepting, page, elsewhere]
    have blockers : documentForPage.blockers
        ([Rule.network adsOnExample] ++ Rule.network adsLetThrough :: [Rule.network adsExcepted]) =
        [adsOnExample] := by
      rw [Request.blockers, standing, documents]
      simp [blocks, blocking, excepting, whole]
    -- The exception for documents is all that is left, and it weighs less than the rule for the site.
    rw [Engine.answer_asked, RuleSet.decision_judge compiled (by decide),
      Request.contenders, counting, documents, blockers]
    rfl

end AdFilter
