import AdFilter.Index.Rules
import AdFilter.Proofs.Attempt
import AdFilter.Proofs.Index.Domains

/-!
A host is held against the entries of rules, and the program goes on where none of them cuts it inside a
character. There the search of an index gives what it gives without regard to that; an answer that is
given at all is never another one.
-/

namespace AdFilter

/-- A host that can be held against an entry is covered by it or not; no other answer is given. -/
theorem Domain.attains_covers (entry host : String) :
    Attains (IsDefined entry host) (tryCovers entry host) (covers entry host) where
  given := id
  right found same := by rw [covers, same, Option.getD_some]

namespace Domains

variable {domains : Domains} {host : String}

/-- Domains permit a host that can be held against them, or they do not. -/
theorem attains_permits (domains : Domains) (host : String) :
    Attains (domains.IsDefinedOn host) (domains.tryPermits host) (domains.permits host) := by
  have each (entries : List String) (inside : entries ⊆ domains.restricted ++ domains.permitted) :
      Attains (domains.IsDefinedOn host) (entries.anyM (Domain.tryCovers · host))
        (entries.any (Domain.covers · host)) :=
    .anyM fun entry member =>
      (Domain.attains_covers entry host).mono fun defined => defined entry (inside member)
  rw [permits, tryPermits]
  split
  · exact .some false
  · -- Whether the host is restricted is asked before whether it is permitted.
    refine (each domains.restricted (List.subset_append_left ..)).bind ?_
    cases domains.restricted.any (Domain.covers · host) with
    | true => exact .some false
    | false =>
      cases generic : domains.isGeneric with
      | true => simpa [generic] using Attains.some true
      | false => simpa [generic] using each domains.permitted (List.subset_append_right ..)

example : (⟨["a.*"], []⟩ : Domains).tryPermits "é.." = none := by decide +kernel

/-- Any host can be held against domains none of which has an open end. -/
theorem isDefinedOn_of_closed
    (closed : ∀ entry ∈ domains.restricted ++ domains.permitted,
      DomainTable.isOpenEnded entry = false) (host : String) : domains.IsDefinedOn host := by
  intro entry member
  -- Without an open end an entry is compared letter by letter, which always gives an answer.
  rw [Domain.IsDefined, Domain.tryCovers_eq_within (closed entry member), Option.isSome_some]

end Domains

namespace NetworkRule

/-- A rule applies in a document whose host can be held against its domains, or it does not. -/
theorem attains_permits (rule : NetworkRule) (host : String) :
    Attains (rule.domains.IsDefinedOn host) (rule.tryPermits host) (rule.permits host) := by
  rw [permits, tryPermits]
  -- A generic rule without a document is not held against a host at all.
  split
  · exact .some true
  · exact rule.domains.attains_permits host

/-- A rule answers a query whose host can be held against its domains, or it does not. -/
theorem attains_answers (rule : NetworkRule) (query : Query) :
    Attains (rule.domains.IsDefinedOn query.host) (rule.tryAnswers query) (rule.answers query) :=
  (rule.attains_permits query.host).map _

end NetworkRule

namespace RuleIndex

/-- A host can be held against the domains of all rules of an index. -/
def IsDefinedOn (index : RuleIndex) (host : String) : Prop :=
  ∀ rule ∈ index.rules, rule.domains.IsDefinedOn host

variable (index : RuleIndex) (query : Query)

/-- The candidates that are accepted and answer are found where the host can be held against all rules. -/
theorem attains_matching (accept : NetworkRule → Bool) :
    Attains (index.IsDefinedOn query.host) (index.tryMatching query accept)
      ((index.candidates query).filter
        (index.holdsAt fun rule => accept rule && rule.answers query)) := by
  refine .filterM fun i _ => ?_
  unfold holdsAt
  cases found : index.rules[i]? with
  | none => exact .some false
  | some rule =>
    have speaks := (rule.attains_answers query).mono fun defined : index.IsDefinedOn query.host =>
      defined rule (Array.mem_of_getElem? found)
    -- A rule that is not accepted is not asked, so it cannot stop the search.
    cases accepted : accept rule with
    | true => simpa [accepted] using speaks
    | false => simpa [accepted] using Attains.some false

/-- All matching rules are found where the host can be held against all rules. -/
theorem attains_findAll :
    Attains (index.IsDefinedOn query.host) (index.tryFindAll query) (index.findAll query) := by
  simpa [findAll, tryFindAll] using index.attains_matching query fun _ => true

/-- All matching rules themselves are found where the host can be held against all rules. -/
theorem attains_rulesFor :
    Attains (index.IsDefinedOn query.host) (index.tryRulesFor query) (index.rulesFor query) :=
  (index.attains_findAll query).map _

/-- The best rule is settled on where the host can be held against all rules. -/
theorem attains_findBy (accept : NetworkRule → Bool) :
    Attains (index.IsDefinedOn query.host) (index.tryFindBy query accept)
      (index.findBy? query accept) := by
  have all : Attains (index.IsDefinedOn query.host)
      (do return index.best? (← index.tryMatching query accept))
      (index.best? ((index.candidates query).filter
        (index.holdsAt fun rule => accept rule && rule.answers query))) :=
    (index.attains_matching query accept).bind (.some _)
  rw [findBy?, tryFindBy]
  split
  · -- The rules for whole documents are asked first; they are those of all that match.
    have documents : ((index.candidates query).filter
          (index.holdsAt fun rule => accept rule && rule.answers query)).filter
          (index.holdsAt (·.isDocumentLevel)) =
        (index.candidates query).filter
          (index.holdsAt fun rule => (rule.isDocumentLevel && accept rule) && rule.answers query) := by
      rw [List.filter_filter]
      refine List.filter_congr fun i _ => ?_
      unfold holdsAt
      cases index.rules[i]? <;> simp [Bool.and_assoc]
    simp only [documents]
    refine (index.attains_matching query fun rule => rule.isDocumentLevel && accept rule).bind ?_
    cases index.best? ((index.candidates query).filter
        (index.holdsAt fun rule => (rule.isDocumentLevel && accept rule) && rule.answers query)) with
    | some best => exact Attains.some (some best)
    | none => exact all
  · exact all

/-- The best rule itself is settled on where the host can be held against all rules. -/
theorem attains_ruleBy (accept : NetworkRule → Bool) :
    Attains (index.IsDefinedOn query.host) (index.tryRuleBy query accept)
      (index.ruleBy? query accept) :=
  (index.attains_findBy query accept).map _

end RuleIndex

end AdFilter
