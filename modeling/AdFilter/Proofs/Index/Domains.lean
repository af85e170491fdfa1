import AdFilter.Index.Tables
import AdFilter.Proofs.Text.Search

/-! A lookup by host finds the rules of every domain that the host lies in. -/

namespace AdFilter

namespace Domain

/-- A host lies within a domain if it is the domain, or ends in a dot and the domain. -/
theorem within_iff {host domain : List Char} :
    within host domain = true ↔ host = domain ∨ '.' :: domain <:+ host := by
  simp [within]

/-- Any host can be held against an entry that names one domain: it is compared as it is. -/
theorem tryCovers_eq_within {entry : String} (closed : DomainTable.isOpenEnded entry = false)
    (host : String) : tryCovers entry host = some (within host.toList entry.toList) := by
  unfold DomainTable.isOpenEnded at closed
  -- The other reading of an entry asks for the mark of an open end.
  have noMark : ∀ name, entry.toList.reverse ≠ '*' :: '.' :: name := by
    intro name reversed
    have whole : entry.toList = name.reverse ++ ['.', '*'] := by
      rw [← List.reverse_reverse entry.toList, reversed]
      simp
    have ends : entry.endsWith ".*" = true := by
      rw [String.endsWith_eq_endsWith_toSlice, String.Slice.endsWith_string_iff,
        String.copy_toSlice, whole]
      exact ⟨name.reverse, rfl⟩
    rw [ends] at closed
    cases closed
  rw [tryCovers, tryCoversReversed.eq_2 _ _ noMark, List.reverse_reverse]

/-- An entry that names one domain covers the hosts within it. -/
theorem covers_eq_within {entry host : String}
    (closed : DomainTable.isOpenEnded entry = false) :
    covers entry host = within host.toList entry.toList := by
  rw [covers, tryCovers_eq_within closed, Option.getD_some]

end Domain

namespace DomainTable

/-- A host with its parents is the row of all names, not empty, that the host lies within. -/
theorem mem_lineage_iff {host name : List Char} :
    name ∈ lineage host ↔ name ≠ [] ∧ Domain.within host name = true := by
  induction host using lineage.induct with
  -- No name is not empty and ends an empty host.
  | case1 => simp [lineage, Domain.within_iff]
  | case2 host filled ih =>
    rw [lineage.eq_2 host filled, List.mem_cons, Domain.within_iff]
    have self : name = host → name ≠ [] := fun same empty => filled (same ▸ empty)
    split
    · rename_i parent found
      have below := ih parent found
      rw [below, Domain.within_iff]
      -- The parent is what stands behind the first dot, so a later dot lies in the parent.
      unfold Site.parentOf? at found
      split at found
      · simp at found
      · rename_i cut
        cases found
        obtain ⟨dot, stops, whole⟩ := Text.eq_append_of_cutWhere? cut
        have isDot : dot = '.' := by simpa using stops
        have clear := Text.not_stop_of_cutWhere? cut
        subst isDot
        rw [whole, Text.cons_isSuffix_append_cons (by simpa using clear)]
        grind
      · simp at found
    · -- Without a parent there is no dot with anything behind it, so the host is all there is.
      rename_i lonely
      simp only [List.not_mem_nil, or_false]
      unfold Site.parentOf? at lonely
      split at lonely
      · rename_i cut
        obtain ⟨dot, stops, whole⟩ := Text.eq_append_of_cutWhere? cut
        have isDot : dot = '.' := by simpa using stops
        have clear := Text.not_stop_of_cutWhere? cut
        subst isDot
        rw [whole, Text.cons_isSuffix_append_cons (by simpa using clear)]
        grind
      · simp at lonely
      · rename_i cut
        have clear := Text.not_stop_of_cutWhere?_none cut
        -- A host without any dot lies within itself alone.
        have dotless : ¬ '.' :: name <:+ host := fun ending =>
          absurd (clear '.' (ending.subset (by simp))) (by simp)
        grind

/-- A rule stands in the bucket of a name. -/
def Lists (table : DomainTable) (name : String) (i : Nat) : Prop :=
  i ∈ table.buckets.getD name []

/-- Filling buckets in a row adds the rule to the bucket of every name in the row. -/
theorem mem_getD_foldl_insert (names : List String) (buckets : Std.HashMap String (List Nat))
    (index : Nat) (name : String) (i : Nat) :
    i ∈ (names.foldl (fun buckets domain =>
      buckets.insert domain (buckets.getD domain [] ++ [index])) buckets).getD name [] ↔
      i ∈ buckets.getD name [] ∨ i = index ∧ name ∈ names := by
  -- The names after the first are filled into the buckets that the first has changed.
  induction names generalizing buckets with
  | nil => simp
  | cons first rest ih =>
    rw [List.foldl_cons, ih, Std.HashMap.getD_insert, List.mem_cons]
    by_cases same : first = name
    · subst same
      -- The bucket of the first name has the rule at its end.
      simp only [beq_self_eq_true, if_true, List.mem_append, List.mem_singleton, true_or, and_true]
      grind
    · -- The bucket of any other name is as it was.
      simp only [beq_eq_false_iff_ne.mpr same, Bool.false_eq_true, if_false]
      grind

/-- The table takes a rule that names domains, all with a fixed end, and lists it under each. -/
theorem insert?_eq_some {table added : DomainTable} {index : Nat} {rule : NetworkRule}
    (taken : table.insert? index rule = some added) :
    rule.domains.permitted ≠ [] ∧ (∀ d ∈ rule.domains.permitted, isOpenEnded d = false) ∧
      ∀ name i, added.Lists name i ↔
        table.Lists name i ∨ i = index ∧ name ∈ rule.domains.permitted := by
  -- The two conditions under which a rule is refused are the ones that are ruled out here.
  simp only [insert?, Option.ite_none_left_eq_some, Bool.or_eq_true, not_or,
    List.isEmpty_iff, List.any_eq_true, not_exists, not_and, Bool.not_eq_true,
    Option.some.injEq] at taken
  obtain ⟨⟨named, closed⟩, rfl⟩ := taken
  exact ⟨named, closed, fun name i => mem_getD_foldl_insert ..⟩

/-- A lookup yields the rules that are listed under a name the host lies within. -/
theorem mem_lookup_iff {table : DomainTable} {host : String} {i : Nat} :
    i ∈ table.lookup host ↔ ∃ name : String, name ≠ "" ∧
      Domain.within host.toList name.toList = true ∧ table.Lists name i := by
  -- The names that are looked up are the host and its parents.
  simp only [lookup, List.mem_flatMap, mem_lineage_iff]
  constructor
  · rintro ⟨name, ⟨filled, lies⟩, listed⟩
    -- Buckets are kept under strings, names are rows of characters.
    exact ⟨String.ofList name, by simpa using filled, by simpa using lies, listed⟩
  · rintro ⟨name, filled, lies, listed⟩
    exact ⟨name.toList, ⟨by simpa using filled, lies⟩, by simpa [Lists] using listed⟩

end DomainTable

end AdFilter
