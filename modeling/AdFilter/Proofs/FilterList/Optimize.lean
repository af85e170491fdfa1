import AdFilter.FilterList.Optimize
import AdFilter.Proofs.Distinct

/-!
Which rules of a list are left once those that do nothing are dropped, and why each of the others is gone.
-/

namespace AdFilter.Rule

variable {rules : List Rule}

/-- The rule cancels no other, and no rule of the list, wherever it stands, cancels it. -/
def IsInForce (rules : List Rule) (rule : Rule) : Prop :=
  rule.cancels = none ∧ ∀ other ∈ rules, other.cancels ≠ some rule.info.text

/-- What survives is what neither cancels nor is cancelled. -/
theorem survives_iff {rule : Rule} :
    survives (cancelledTexts rules) rule = true ↔ IsInForce rules rule := by
  simp [survives, cancelledTexts, IsInForce]

/-- Rules that stand in the same list have equal keys just if they have the same text. -/
theorem key_eq_iff {rule other : Rule} : other.key = rule.key ↔
    other.info.filterId = rule.info.filterId ∧ other.info.text = rule.info.text := by
  rw [key, key, Prod.mk.injEq]

/-- The rules that survive, the first for each list and text, each with its place. -/
def placed (rules : List Rule) : List (Rule × Nat) :=
  distinctBy (fun entry => entry.1.key)
    (rules.zipIdx.filter fun entry => survives (cancelledTexts rules) entry.1)

/-- Without their places, these are the rules that are left. -/
theorem map_fst_placed (rules : List Rule) : (placed rules).map (·.1) = (optimize rules).1 := by
  -- To drop rules and to forget places comes to the same in either order.
  have plain : (rules.zipIdx.filter fun entry => survives (cancelledTexts rules) entry.1).map (·.1) =
      rules.filter (survives (cancelledTexts rules)) := by
    rw [← Function.comp_def (survives _), ← List.filter_map, List.zipIdx_map_fst]
  rw [placed, ← distinctBy_map, plain]
  rfl

/-- These rules come in the order of their places. -/
theorem placed_pairwise (rules : List Rule) : (placed rules).Pairwise fun a b => a.2 < b.2 :=
  -- Numbers rise along the list, and what is left out changes nothing about it.
  ((zipIdx_pairwise rules).filter _).sublist (distinctBy_sublist _ _)

/-- A rule is left if it is in force and no rule in force with the same key stands before it. -/
theorem mem_placed_iff {rule : Rule} {i : Nat} :
    (rule, i) ∈ placed rules ↔ rules[i]? = some rule ∧ IsInForce rules rule ∧
      ∀ j other, rules[j]? = some other → IsInForce rules other → other.key = rule.key → i ≤ j := by
  rw [placed, mem_distinctBy_iff, find?_eq_some_iff_of_rising ((zipIdx_pairwise rules).filter _)]
  simp only [List.mem_filter, List.mem_zipIdx_iff_getElem?, beq_iff_eq, Prod.forall, true_and,
    survives_iff]
  -- Both sides speak of the first rule in force with the key, by its place.
  constructor
  · rintro ⟨⟨here, stays⟩, least⟩
    exact ⟨here, stays, fun j other there also same => least other j ⟨there, also⟩ same⟩
  · rintro ⟨here, stays, least⟩
    exact ⟨⟨here, stays⟩, fun other j ⟨there, also⟩ same => least j other there also same⟩

/-- Every rule in force has its key from a rule that is left, which does not stand behind it. -/
theorem exists_mem_placed {rule : Rule} {i : Nat} (here : rules[i]? = some rule)
    (stays : IsInForce rules rule) :
    ∃ first j, (first, j) ∈ placed rules ∧ first.key = rule.key ∧ j ≤ i := by
  have kept : (rule, i) ∈
      rules.zipIdx.filter fun entry => survives (cancelledTexts rules) entry.1 :=
    List.mem_filter.mpr ⟨List.mem_zipIdx_iff_getElem?.mpr here, survives_iff.mpr stays⟩
  -- The keys of the rules that are left are all keys that there are.
  have known : rule.key ∈ (placed rules).map fun entry => entry.1.key :=
    mem_map_distinctBy_iff.mpr (List.mem_map.mpr ⟨_, kept, rfl⟩)
  obtain ⟨⟨first, j⟩, left, same⟩ := List.mem_map.mp known
  exact ⟨first, j, left, same, (mem_placed_iff.mp left).2.2 i rule here stays same.symm⟩

/-- A rule is left if it is in force and no rule that is left, with the same key, stands before it. -/
theorem mem_placed_iff_left {rule : Rule} {i : Nat} (here : rules[i]? = some rule) :
    (rule, i) ∈ placed rules ↔ IsInForce rules rule ∧
      ∀ other j, (other, j) ∈ placed rules → j < i → other.key ≠ rule.key := by
  constructor
  · intro left
    obtain ⟨_, stays, least⟩ := mem_placed_iff.mp left
    refine ⟨stays, fun other j before earlier same => ?_⟩
    obtain ⟨there, also, _⟩ := mem_placed_iff.mp before
    have late := least j other there also same
    omega
  · rintro ⟨stays, new⟩
    obtain ⟨first, j, left, same, early⟩ := exists_mem_placed here stays
    -- The first rule with the key is this one, as it cannot stand before it.
    rcases Nat.lt_or_eq_of_le early with before | rfl
    · exact absurd same (new first j left before)
    · obtain ⟨there, _⟩ := mem_placed_iff.mp left
      cases there.symm.trans here
      exact left

/-- The rule is cancelled by one of the list, and cancels no other itself. -/
def isCancelled (rules : List Rule) (rule : Rule) : Bool :=
  rule.cancels.isNone && rules.any fun other => other.cancels == some rule.info.text

/-- The loop counts just the rules that are cancelled. -/
theorem isCancelledBy_cancelledTexts : isCancelledBy (cancelledTexts rules) = isCancelled rules := by
  funext rule
  -- A text is in the table just if some rule of the list cancels it.
  have known : (cancelledTexts rules).contains rule.info.text =
      rules.any fun other => other.cancels == some rule.info.text := by
    rw [Bool.eq_iff_iff]
    simp [cancelledTexts]
  rw [isCancelledBy, known, isCancelled]

/-- Each rule cancels another one, is cancelled, or survives, and no two of these. -/
theorem length_eq_countP (texts : Std.HashSet String) (rules : List Rule) :
    rules.length = (rules.filter (survives texts)).length +
      rules.countP (fun rule => rule.cancels.isSome) + rules.countP (isCancelledBy texts) := by
  -- The texts come from the whole list, and stay what they are while the list is gone through.
  induction rules with
  | nil => rfl
  | cons rule rest ih =>
    rw [← List.countP_eq_length_filter] at ih ⊢
    simp only [List.countP_cons, List.length_cons, survives, isCancelledBy] at ih ⊢
    -- Only one of the three counts goes up.
    rcases rule.cancels.eq_none_or_eq_some with cancels | ⟨text, cancels⟩
    · by_cases known : texts.contains rule.info.text = true <;> simp [cancels, known] <;> omega
    · simp [cancels]
      omega

/-- Rules that cancel others are dropped. -/
theorem cancels_of_mem_optimize {rule : Rule} (left : rule ∈ (optimize rules).1) :
    rule.cancels = none := by
  rw [← map_fst_placed] at left
  obtain ⟨⟨_, i⟩, member, rfl⟩ := List.mem_map.mp left
  -- A rule that is kept was in force, and such a rule cancels nothing.
  exact (mem_placed_iff.mp member).2.1.1

/-- Once rules that do nothing are dropped, there is nothing more to drop or to count. -/
theorem optimize_optimize (rules : List Rule) :
    let left := (optimize rules).1
    optimize left = (left, {
      before := left.length, after := left.length, repeated := 0, cancelling := 0, cancelled := 0 }) := by
  intro left
  -- No rule that is left cancels another one, so all of them survive.
  have stays : left.filter (survives (cancelledTexts left)) = left := by
    rw [List.filter_eq_self]
    intro rule member
    refine survives_iff.mpr ⟨cancels_of_mem_optimize member, fun other there => ?_⟩
    rw [cancels_of_mem_optimize there]
    exact (Option.some_ne_none _).symm
  have distinct : distinctBy key left = left := distinctBy_eq_self (nodup_map_distinctBy ..)
  -- All of them stay, so no rule is counted for any reason.
  have counted := length_eq_countP (cancelledTexts left) left
  have repeated := length_distinctBy_add_repeatsBy key left
  rw [stays] at counted
  rw [distinct] at repeated
  rw [optimize, stays, distinct]
  congr 2 <;> omega

/-- The counts say how many rules there were, how many are left, and why each of the others is gone. -/
theorem stats_optimize (rules : List Rule) :
    let (left, stats) := optimize rules
    stats.before = rules.length ∧ stats.after = left.length ∧
      stats.cancelling = rules.countP (fun rule => rule.cancels.isSome) ∧
      stats.cancelled = rules.countP (isCancelled rules) ∧
      stats.before = stats.after + stats.repeated + stats.cancelling + stats.cancelled := by
  -- Two sums are enough: over all rules, and over those that survive.
  have counted := length_eq_countP (cancelledTexts rules) rules
  have repeated :=
    length_distinctBy_add_repeatsBy key (rules.filter (survives (cancelledTexts rules)))
  simp only [optimize, true_and, isCancelledBy_cancelledTexts] at counted ⊢
  omega

/--
Dropping rules that do nothing leaves those in force, in their order, and of equal ones in a list the first.

Each rule that is gone is counted once, and a second time nothing is dropped.
-/
theorem optimize_exact (rules : List Rule) :
    let left := (optimize rules).1
    let stats := (optimize rules).2
    (∃ places : List Nat, places.Pairwise (· < ·) ∧
      List.Forall₂ (fun i rule => rules[i]? = some rule) places left ∧
      ∀ i rule, rules[i]? = some rule → (i ∈ places ↔ IsInForce rules rule ∧
        ∀ j ∈ places, j < i → ∀ other, rules[j]? = some other →
          ¬ (other.info.filterId = rule.info.filterId ∧ other.info.text = rule.info.text))) ∧
    (stats.cancelling = rules.countP (fun rule => rule.cancels.isSome) ∧
      stats.cancelled = rules.countP (isCancelled rules) ∧
      stats.before = rules.length ∧ stats.after = left.length ∧
      stats.before = stats.after + stats.repeated + stats.cancelling + stats.cancelled) ∧
    optimize left = (left, {
      before := left.length, after := left.length, repeated := 0, cancelling := 0, cancelled := 0 }) := by
  intro left stats
  obtain ⟨before, after, cancelling, cancelled, sum⟩ := stats_optimize rules
  refine ⟨⟨(placed rules).map (·.2), ?_, ?_, ?_⟩, ⟨cancelling, cancelled, before, after, sum⟩,
    optimize_optimize rules⟩
  · rw [List.pairwise_map]
    exact placed_pairwise rules
  · rw [show left = _ from (map_fst_placed rules).symm, List.forall₂_map_left_iff,
      List.forall₂_map_right_iff, List.forall₂_same]
    exact fun entry member => (mem_placed_iff.mp member).1
  · intro i rule here
    -- A place is that of the rule that stands there.
    have place {j : Nat} {other : Rule} (there : rules[j]? = some other) :
        j ∈ (placed rules).map (·.2) ↔ (other, j) ∈ placed rules := by
      simp only [List.mem_map, Prod.exists, exists_eq_right]
      refine ⟨fun ⟨same, member⟩ => ?_, fun member => ⟨other, member⟩⟩
      obtain ⟨found, _⟩ := mem_placed_iff.mp member
      cases found.symm.trans there
      exact member
    rw [place here, mem_placed_iff_left here]
    refine and_congr_right fun _ => ⟨fun new j member earlier other there same => ?_,
      fun new other j member earlier same => ?_⟩
    · exact new other j ((place there).mp member) earlier (key_eq_iff.mpr same)
    · obtain ⟨there, _⟩ := mem_placed_iff.mp member
      exact new j ((place there).mpr member) earlier other there (key_eq_iff.mp same)

end AdFilter.Rule
