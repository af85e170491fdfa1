import AdFilter.Proofs.Domain.Parser
import AdFilter.Proofs.Index.Domains
import AdFilter.Proofs.Index.Rules
import Mathlib

/-!
Rules that are offered to a table of domains one after the other, and the walk from a host through its
parents that finds those it has taken.
-/

namespace AdFilter

namespace Site

variable {host parent : List Char}

/-- A parent has a dot less than the host. -/
theorem count_of_parentOf? (found : parentOf? host = some parent) :
    parent.count '.' < host.count '.' := by
  unfold parentOf? at found
  split at found
  · cases found
  · rename_i cut
    cases found
    -- The host is cut at its first dot, and the parent stands behind that.
    obtain ⟨dot, stops, whole⟩ := Text.eq_append_of_cutWhere? cut
    obtain rfl : dot = '.' := by simpa using stops
    rw [whole, List.count_append, List.count_cons_self]
    omega
  · cases found

/-- Where the walk from a host through its parents is after some steps, unless it is over. -/
def walk (host : List Char) : Nat → Option (List Char)
  | 0 => some host
  | steps + 1 => (parentOf? host).bind fun parent => walk parent steps

/-- The walk takes no more steps than there are dots in the host. -/
theorem walk_eq_none {steps : Nat} (many : host.count '.' < steps) : walk host steps = none := by
  -- With each step there is a dot less, and where there is none, there is no parent either.
  induction steps generalizing host with
  | zero => exact absurd many (Nat.not_lt_zero _)
  | succ steps ih =>
    rw [walk]
    cases found : parentOf? host with
    | none => rfl
    | some parent =>
      have less := count_of_parentOf? found
      exact ih (by omega)

end Site

namespace DomainTable

/-- The names that are looked up are those that the walk comes to, but for the empty text. -/
theorem mem_lineage_iff_walk {host name : List Char} :
    name ∈ lineage host ↔ name ≠ [] ∧ ∃ steps, Site.walk host steps = some name := by
  -- The induction is on the names that are looked up, of which the host comes first.
  induction host using lineage.induct with
  | case1 =>
    rw [lineage.eq_1]
    refine iff_of_false List.not_mem_nil ?_
    rintro ⟨filled, steps, reached⟩
    -- An empty host has no parent, so the walk does not leave it.
    cases steps with
    | zero => exact filled (Option.some.inj reached).symm
    | succ steps => cases reached
  | case2 host filled ih =>
    rw [lineage.eq_2 host filled, List.mem_cons]
    constructor
    · rintro (rfl | above)
      · exact ⟨filled, 0, rfl⟩
      · -- What is above the parent is one step further from the host.
        split at above
        · rename_i parent found
          obtain ⟨nonempty, steps, reached⟩ := (ih parent found).mp above
          exact ⟨nonempty, steps + 1, by rw [Site.walk, found, Option.bind_some, reached]⟩
        · cases above
    · rintro ⟨nonempty, steps, reached⟩
      cases steps with
      | zero => exact .inl (Option.some.inj reached).symm
      | succ steps =>
        rw [Site.walk] at reached
        split
        · rename_i parent found
          rw [found] at reached
          exact .inr ((ih parent found).mpr ⟨nonempty, steps, reached⟩)
        · rename_i lonely
          rw [lonely] at reached
          cases reached

/-- The table after a rule was offered to it with an index; it stays as it is if it refuses the rule. -/
def offer (table : DomainTable) (entry : Nat × NetworkRule) : DomainTable :=
  (table.insert? entry.1 entry.2).getD table

/-- The table after rules were offered to it one after the other. -/
def ofOffers (entries : List (Nat × NetworkRule)) : DomainTable := entries.foldl offer {}

/-- The rule was offered with the index, and the table took it when its turn came. -/
def Took (entries : List (Nat × NetworkRule)) (i : Nat) (rule : NetworkRule) : Prop :=
  ∃ before after, entries = before ++ (i, rule) :: after ∧
    ((ofOffers before).insert? i rule).isSome = true

variable {entries : List (Nat × NetworkRule)} {entry : Nat × NetworkRule} {table : DomainTable}
  {rule : NetworkRule} {name : String} {i : Nat}

/-- After one more rule was offered, the table lists what it did, and the rule if it has taken it. -/
theorem lists_offer_iff : (table.offer entry).Lists name i ↔ table.Lists name i ∨
    (table.insert? entry.1 entry.2).isSome = true ∧ entry.1 = i ∧
      name ∈ entry.2.domains.permitted := by
  unfold offer
  -- The table takes a rule for all of its names or for none.
  cases taken : table.insert? entry.1 entry.2 with
  | none => simp
  | some added =>
    rw [Option.getD_some, (insert?_eq_some taken).2.2]
    simp [eq_comm]

/-- A rule is among those that were taken, or it is the last one and is taken now. -/
theorem took_concat_iff : Took (entries ++ [entry]) i rule ↔ Took entries i rule ∨
    entry = (i, rule) ∧ ((ofOffers entries).insert? i rule).isSome = true := by
  constructor
  · rintro ⟨before, after, whole, taken⟩
    -- The rule was taken from the last offer, or from one of those before it.
    rcases List.eq_nil_or_concat after with rfl | ⟨after, last, rfl⟩
    · obtain ⟨rfl, last⟩ := List.append_inj' whole rfl
      exact .inr ⟨List.singleton_inj.mp last, taken⟩
    · rw [List.concat_eq_append, ← List.cons_append, ← List.append_assoc] at whole
      exact .inl ⟨before, after, (List.append_inj' whole rfl).1, taken⟩
  · rintro (⟨before, after, rfl, taken⟩ | ⟨rfl, taken⟩)
    · exact ⟨before, after ++ [entry], by simp, taken⟩
    · exact ⟨entries, [], rfl, taken⟩

/-- After all offers, a name leads to the rules that name it and were taken. -/
theorem lists_ofOffers_iff : (ofOffers entries).Lists name i ↔
    ∃ rule, Took entries i rule ∧ name ∈ rule.domains.permitted := by
  -- The last offer is made to the table that the others have left.
  induction entries using List.reverseRecOn with
  | nil => simp [ofOffers, Lists, Took]
  | append_singleton entries entry ih =>
    have last : ofOffers (entries ++ [entry]) = (ofOffers entries).offer entry := by
      rw [ofOffers, List.foldl_append]
      rfl
    rw [last, lists_offer_iff, ih]
    simp only [took_concat_iff]
    constructor
    · rintro (⟨rule, taken, names⟩ | ⟨taken, rfl, names⟩)
      · exact ⟨rule, .inl taken, names⟩
      · exact ⟨entry.2, .inr ⟨rfl, taken⟩, names⟩
    · rintro ⟨rule, taken | ⟨rfl, taken⟩, names⟩
      · exact .inl ⟨rule, taken, names⟩
      · exact .inr ⟨taken, rfl, names⟩

/-- A rule that a table takes names domains of which each covers what lies within it. -/
theorem Took.covers_iff (took : Took entries i rule) (member : name ∈ rule.domains.permitted)
    (host : String) : Domain.covers name host = Domain.within host.toList name.toList := by
  obtain ⟨before, after, _, taken⟩ := took
  -- The table refuses open ends, so the name is compared letter by letter.
  obtain ⟨added, same⟩ := Option.isSome_iff_exists.mp taken
  exact Domain.covers_eq_within ((insert?_eq_some same).2.1 name member)

/--
After any offers, of rules none of which names the empty text, a lookup by host yields just the indices of
those rules that were taken and name a domain that covers the host.

It looks up the names that the walk through the parents of the host comes to, and wherever there are dots in
the host, this walk comes to an end.
-/
theorem mem_lookup_ofOffers_iff (named : ∀ entry ∈ entries, entry.2.domains.Named) (host : String) :
    (∀ i, i ∈ (ofOffers entries).lookup host ↔
      ∃ rule, Took entries i rule ∧ ∃ d ∈ rule.domains.permitted, Domain.covers d host = true) ∧
    (∀ name, name ∈ lineage host.toList ↔ name ≠ [] ∧ ∃ steps, Site.walk host.toList steps = some name) ∧
    ∀ steps, host.toList.count '.' < steps → Site.walk host.toList steps = none := by
  refine ⟨fun i => ?_, fun name => mem_lineage_iff_walk, fun steps => Site.walk_eq_none⟩
  rw [mem_lookup_iff]
  constructor
  · rintro ⟨d, _, lies, listed⟩
    obtain ⟨rule, took, member⟩ := lists_ofOffers_iff.mp listed
    exact ⟨rule, took, d, member, (took.covers_iff member host).trans lies⟩
  · rintro ⟨rule, took, d, member, covers⟩
    -- A name that is not empty and that the host lies within is among those that are looked up.
    have filled : d ≠ "" := by
      obtain ⟨before, after, whole, _⟩ := took
      exact named (i, rule) (by simp [whole]) d member
    exact ⟨d, filled, (took.covers_iff member host).symm.trans covers,
      lists_ofOffers_iff.mpr ⟨rule, took, member⟩⟩

/-- A rule for two domains is found for a host with a dot too many, behind one that was refused. -/
theorem mem_lookup_ofOffers_iff_dots :
    let refused : NetworkRule := { RuleIndex.adsOnSite with domains := ⟨["example.com", "a.*"], []⟩ }
    let taken : NetworkRule := { RuleIndex.adsOnSite with domains := ⟨["b.net", "example.com"], []⟩ }
    let entries := [(7, refused), (3, taken)]
    (∀ entry ∈ entries, entry.2.domains.Named) ∧ 3 ∈ (ofOffers entries).lookup "www..example.com" := by
  intro refused taken entries
  have named : ∀ entry ∈ entries, entry.2.domains.Named := by
    simp [entries, refused, taken, Domains.Named]
  -- The open end is refused, and the other rule is taken after it.
  have took : Took entries 3 taken := ⟨[(7, refused)], [], rfl, by cbv⟩
  refine ⟨named, ((mem_lookup_ofOffers_iff named "www..example.com").1 3).mpr ⟨taken, took, ?_⟩⟩
  exact ⟨"example.com", by simp [taken], by decide +kernel⟩

end DomainTable

end AdFilter
