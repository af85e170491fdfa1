import AdFilter.Proofs.Index.Order

/-! The rule that an index settles on is among those that match, and none of them weighs more. -/

namespace AdFilter

namespace NetworkRule

/-- Importance outweighs everything else. -/
theorem two_le_rank_iff (rule : NetworkRule) : 2 ≤ rule.rank ↔ rule.isImportant = true := by
  unfold rank
  -- Importance is worth two, and a rule for some sites one.
  cases rule.isImportant <;> cases rule.isGeneric <;> simp

/-- Among rules that are not important, the specific ones have weight. -/
theorem rank_pos_iff {rule : NetworkRule} (plain : rule.isImportant = false) :
    0 < rule.rank ↔ rule.isGeneric = false := by
  unfold rank
  -- Without importance, only a rule for some sites is worth anything.
  cases rule.isGeneric <;> simp [plain]

/-- Rules weigh the same if they agree on being important and on being generic. -/
theorem rank_eq_iff {rule other : NetworkRule} : rule.rank = other.rank ↔
    rule.isImportant = other.isImportant ∧ rule.isGeneric = other.isGeneric := by
  -- There are sixteen pairs of answers, and the ranks are told apart by them.
  unfold rank
  cases rule.isImportant <;> cases other.isImportant <;> cases rule.isGeneric <;>
    cases other.isGeneric <;> simp

/-- The choice among some rules: none weighs more, and there is one if there are rules at all. -/
def IsBest (peers : List NetworkRule) : Option NetworkRule → Prop
  | none => peers = []
  | some best => best ∈ peers ∧ ∀ other ∈ peers, other.rank ≤ best.rank

variable {peers : List NetworkRule} {best : NetworkRule}

/-- The best rule is important just if there is an important one. -/
theorem IsBest.isImportant_eq (chosen : IsBest peers (some best)) :
    best.isImportant = peers.any (·.isImportant) := by
  -- An important rule weighs at least two, so the best one weighs as much and is important itself.
  rw [Bool.eq_iff_iff, List.any_eq_true]
  constructor
  · exact fun important => ⟨best, chosen.1, important⟩
  · rintro ⟨other, member, important⟩
    -- The best rule weighs no less than the important one.
    have lower := (two_le_rank_iff other).mpr important
    have upper := chosen.2 other member
    exact (two_le_rank_iff best).mp (by omega)

/-- Where no rule is important, the best one is generic just if all are. -/
theorem IsBest.isGeneric_eq (chosen : IsBest peers (some best))
    (plain : peers.any (·.isImportant) = false) :
    best.isGeneric = peers.all (·.isGeneric) := by
  have unimportant : ∀ rule ∈ peers, rule.isImportant = false := by simpa using plain
  rw [Bool.eq_iff_iff, List.all_eq_true]
  constructor
  · intro generic other member
    -- A specific rule would weigh more than the best one.
    cases specific : other.isGeneric with
    | true => rfl
    | false =>
      have lower := (rank_pos_iff (unimportant other member)).mpr specific
      have upper := chosen.2 other member
      have wrong := (rank_pos_iff (unimportant best chosen.1)).mp (by omega)
      rw [generic] at wrong
      cases wrong
  · exact fun generic => generic best chosen.1

/-- The first of the heaviest rules is the best one. -/
theorem isBest_argmax (peers : List NetworkRule) : IsBest peers (peers.argmax rank) := by
  -- The maximum is one of the rules, and is missing only if there are none.
  cases chosen : peers.argmax rank with
  | none => exact List.argmax_eq_none.mp chosen
  | some best =>
    exact ⟨List.argmax_mem chosen, fun other member => List.le_of_mem_argmax member chosen⟩

/-- The best of rules weighs as much as the best of others with the same members. -/
theorem IsBest.rank_eq {peers others : List NetworkRule} {best second : Option NetworkRule}
    (first : IsBest peers best) (again : IsBest others second)
    (same : ∀ rule, rule ∈ peers ↔ rule ∈ others) : best.map rank = second.map rank := by
  cases best with
  | none =>
    cases second with
    | none => rfl
    -- Where one has no members, the other has none to choose.
    | some other => exact absurd ((same other).mpr again.1) (by simp [show peers = [] from first])
  | some rule =>
    cases second with
    | none => exact absurd ((same rule).mp first.1) (by simp [show others = [] from again])
    | some other =>
      -- Each of the two is among the peers of the other one.
      have above := again.2 rule ((same rule).mp first.1)
      have below := first.2 other ((same other).mpr again.1)
      simp only [Option.map_some, Option.some.injEq]
      omega

end NetworkRule

end AdFilter
