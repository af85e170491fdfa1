import AdFilter.Distinct
import Mathlib

/-! A list and the same without elements that stand in it before answer the same questions. -/

namespace AdFilter

/-- Where some elements were seen already, the second list is the first one without elements that were, or
that stand in it before. -/
inductive Thinned {A : Type} : List A → List A → List A → Prop
  | nil {seen : List A} : Thinned seen [] []
  /-- An element that is kept is one of those seen from there on. -/
  | keep {seen whole thin : List A} {a : A} (rest : Thinned (a :: seen) whole thin) :
    Thinned seen (a :: whole) (a :: thin)
  /-- Only what was seen may be left out. -/
  | drop {seen whole thin : List A} {a : A} (known : a ∈ seen) (rest : Thinned seen whole thin) :
    Thinned seen (a :: whole) thin

/-- The distinct elements of a list stand in it, in their order. -/
theorem distinctBy_sublist {A K : Type} [BEq K] [Hashable K] (key : A → K) (list : List A) :
    (distinctBy key list).Sublist list := by
  have sublist (seen : Std.HashSet K) : (distinctFrom key seen list).Sublist list := by
    -- What was seen decides which elements stay, and none is added or moved for it.
    induction list generalizing seen with
    | nil => exact List.Sublist.slnil
    | cons a rest ih =>
      unfold distinctFrom
      split
      · exact (ih seen).cons a
      · exact (ih _).cons_cons a
  exact sublist ∅

/-- Each element of a list stays or is counted as a repeat. -/
theorem length_distinctBy_add_repeatsBy {A K : Type} [BEq K] [Hashable K] (key : A → K) (list : List A) :
    (distinctBy key list).length + repeatsBy key list = list.length := by
  -- Both loops see the same keys, so at each element just one of the two numbers goes up.
  have counted (seen : Std.HashSet K) :
      (distinctFrom key seen list).length + repeatsFrom key seen list = list.length := by
    induction list generalizing seen with
    | nil => rfl
    | cons a rest ih =>
      rw [distinctFrom, repeatsFrom, List.length_cons]
      split
      · rw [← ih seen]
        rfl
      · rw [List.length_cons, ← ih (seen.insert (key a))]
        omega
  exact counted ∅

/-- Elements may be turned into others before those that stay are picked, or after that. -/
theorem distinctBy_map {A B K : Type} [BEq K] [Hashable K] (key : A → K) (f : B → A)
    (list : List B) :
    distinctBy key (list.map f) = (distinctBy (fun b => key (f b)) list).map f := by
  have turned (seen : Std.HashSet K) :
      distinctFrom key seen (list.map f) = (distinctFrom (fun b => key (f b)) seen list).map f := by
    -- The keys that were seen are the same on both sides.
    induction list generalizing seen with
    | nil => rfl
    | cons b rest ih =>
      rw [List.map_cons, distinctFrom, distinctFrom]
      split
      · exact ih seen
      · rw [List.map_cons, ih]
  exact turned ∅

section Keys

variable {A K : Type} [BEq K] [LawfulBEq K] [Hashable K] [LawfulHashable K] {key : A → K} {list : List A}

/-- An element stays in the rest of a list if its key was not seen and it is the first that has it. -/
theorem mem_distinctFrom_iff {seen : Std.HashSet K} {a : A} :
    a ∈ distinctFrom key seen list ↔
      seen.contains (key a) = false ∧ list.find? (fun b => key b == key a) = some a := by
  induction list generalizing seen with
  | nil => simp [distinctFrom]
  | cons b rest ih =>
    rw [distinctFrom, List.find?_cons]
    by_cases same : key b = key a
    · -- This is the first with its key, and stays unless that was seen.
      simp only [same, beq_self_eq_true]
      split
      · rename_i known
        simp [ih, known]
      · rename_i new
        simp [ih, new, eq_comm]
    · have other : b ≠ a := fun equal => same (equal ▸ rfl)
      simp only [beq_eq_false_iff_ne.mpr same]
      split
      · exact ih
      · simp [ih, same, Ne.symm other]

/-- The elements that stay are the first ones that have their keys. -/
theorem mem_distinctBy_iff {a : A} :
    a ∈ distinctBy key list ↔ list.find? (fun b => key b == key a) = some a := by
  simp [distinctBy, mem_distinctFrom_iff]

/-- No two of the elements that stay have the same key. -/
theorem nodup_map_distinctBy (key : A → K) (list : List A) : ((distinctBy key list).map key).Nodup := by
  have nodup (seen : Std.HashSet K) : ((distinctFrom key seen list).map key).Nodup := by
    induction list generalizing seen with
    | nil => exact List.nodup_nil
    | cons a rest ih =>
      rw [distinctFrom]
      split
      · exact ih seen
      · rw [List.map_cons, List.nodup_cons]
        refine ⟨fun again => ?_, ih _⟩
        -- The key of an element that stays is one of those seen from there on.
        obtain ⟨b, later, same⟩ := List.mem_map.mp again
        have unseen := (mem_distinctFrom_iff.mp later).1
        simp [same] at unseen
  exact nodup ∅

/-- The keys of the elements that stay are all keys that there are. -/
theorem mem_map_distinctBy_iff {k : K} :
    k ∈ (distinctBy key list).map key ↔ k ∈ list.map key := by
  constructor
  · exact fun member => ((distinctBy_sublist key list).map key).subset member
  · intro member
    obtain ⟨a, inside, rfl⟩ := List.mem_map.mp member
    -- Some element is the first with the key, and that one stays.
    obtain ⟨first, found⟩ : ∃ first, list.find? (fun b => key b == key a) = some first := by
      rw [← Option.isSome_iff_exists, List.find?_isSome]
      exact ⟨a, inside, by simp⟩
    have same : key first = key a := by simpa using List.find?_some found
    exact List.mem_map.mpr ⟨first, mem_distinctBy_iff.mpr (same ▸ found), same⟩

/-- In a row that is ordered, an element that stays comes before all others with its key. -/
theorem eq_or_of_mem_distinctBy {before : A → A → Prop} (ordered : list.Pairwise before) {a b : A}
    (stays : a ∈ distinctBy key list) (member : b ∈ list) (same : key b = key a) : b = a ∨ before a b := by
  obtain ⟨_, front, rest, rfl, others⟩ := List.find?_eq_some_iff_append.mp (mem_distinctBy_iff.mp stays)
  rcases List.mem_append.mp member with early | late
  · -- No element in front of the first one has the key.
    have other := others b early
    rw [same, beq_self_eq_true] at other
    cases other
  · rcases List.mem_cons.mp late with rfl | behind
    · exact Or.inl rfl
    · exact Or.inr ((List.pairwise_cons.mp (List.pairwise_append.mp ordered).2.1).1 b behind)

/-- A list in which no two elements have the same key stays as it is. -/
theorem distinctBy_eq_self (nodup : (list.map key).Nodup) : distinctBy key list = list := by
  have kept (seen : Std.HashSet K) (new : ∀ a ∈ list, seen.contains (key a) = false) :
      distinctFrom key seen list = list := by
    -- What is seen on the way are keys of elements before, which no element behind them has.
    induction list generalizing seen with
    | nil => rfl
    | cons a rest ih =>
      rw [List.map_cons, List.nodup_cons] at nodup
      rw [distinctFrom, new a List.mem_cons_self, if_neg Bool.false_ne_true]
      refine congrArg (a :: ·) (ih nodup.2 _ fun b later => ?_)
      have other : key a ≠ key b := fun same => nodup.1 (same ▸ List.mem_map_of_mem later)
      rw [Std.HashSet.contains_insert, beq_eq_false_iff_ne.mpr other, Bool.false_or]
      exact new b (List.mem_cons_of_mem a later)
  exact kept ∅ fun _ _ => Std.HashSet.contains_empty

end Keys

/-- In a row that rises by some measure, the first element that meets a condition is the lowest one. -/
theorem find?_eq_some_iff_of_rising {A : Type} {measure : A → Nat} {list : List A}
    (rising : list.Pairwise fun a b => measure a < measure b) {condition : A → Bool} {a : A} :
    list.find? condition = some a ↔
      a ∈ list ∧ condition a = true ∧ ∀ b ∈ list, condition b = true → measure a ≤ measure b := by
  induction list with
  | nil => simp
  | cons first rest ih =>
    rw [List.pairwise_cons] at rising
    rw [List.find?_cons]
    cases meets : condition first with
    | true =>
      simp only [Option.some.injEq]
      constructor
      · rintro rfl
        refine ⟨List.mem_cons_self, meets, fun b member _ => ?_⟩
        rcases List.mem_cons.mp member with rfl | later
        · exact Nat.le_refl _
        · exact Nat.le_of_lt (rising.1 b later)
      · rintro ⟨member, _, lowest⟩
        rcases List.mem_cons.mp member with rfl | later
        · rfl
        · -- Whatever stands behind the first element is higher.
          have below := lowest first List.mem_cons_self meets
          exact absurd (rising.1 a later) (Nat.not_lt.mpr below)
    | false =>
      -- The first element does not count, on either side.
      have passed {b : A} (holds : condition b = true) : b ∈ first :: rest ↔ b ∈ rest := by
        have other : b ≠ first := by
          rintro rfl
          rw [meets] at holds
          cases holds
        simp [other]
      rw [ih rising.2]
      constructor
      · rintro ⟨member, holds, lowest⟩
        exact ⟨(passed holds).mpr member, holds,
          fun b inside meets => lowest b ((passed meets).mp inside) meets⟩
      · rintro ⟨member, holds, lowest⟩
        exact ⟨(passed holds).mp member, holds,
          fun b inside meets => lowest b ((passed meets).mpr inside) meets⟩

/-- The elements of a list come in the order of their places, whichever number the first one has. -/
theorem zipIdx_pairwise_from {A : Type} (first : Nat) (list : List A) :
    (list.zipIdx first).Pairwise fun a b => a.2 < b.2 := by
  -- The places are the numbers from the first one on.
  rw [← List.pairwise_map (f := Prod.snd)]
  simpa using List.pairwise_lt_range' 1

/-- The elements of a list come in the order of their places. -/
theorem zipIdx_pairwise {A : Type} (list : List A) : list.zipIdx.Pairwise fun a b => a.2 < b.2 :=
  zipIdx_pairwise_from 0 list

/-- The first of the greatest elements is the first that none exceeds. -/
theorem argmax_eq_find? {A : Type} (weight : A → Nat) (list : List A) :
    list.argmax weight = list.find? fun a => list.all fun b => weight b ≤ weight a := by
  classical
  cases found : list.argmax weight with
  | none => simp [List.argmax_eq_none.mp found]
  | some a =>
    obtain ⟨member, above, first⟩ := List.mem_argmax_iff.mp found
    obtain ⟨before, after, rfl, new⟩ := List.eq_append_cons_of_mem member
    refine (List.find?_eq_some_iff_append.mpr ⟨?_, before, after, rfl, fun b early => ?_⟩).symm
    · simpa only [List.all_eq_true, decide_eq_true_eq] using above
    · -- An element before the first one would come first itself.
      by_contra greatest
      rw [Bool.not_eq_true', Bool.not_eq_false, List.all_eq_true] at greatest
      have highest : weight a ≤ weight b := of_decide_eq_true (greatest a member)
      have position := first b (List.mem_append_left _ early) highest
      have place := List.idxOf_lt_length_of_mem early
      rw [List.idxOf_append_of_notMem new, List.idxOf_append_of_mem early] at position
      omega

namespace Thinned

variable {A B K : Type} {seen whole thin : List A}

/-- The distinct elements of a list are the list thinned, if equal keys are those of equal elements. -/
theorem distinctFrom [BEq K] [LawfulBEq K] [Hashable K] [LawfulHashable K] {key : A → K}
    {known : Std.HashSet K} (told : ∀ k, known.contains k = true ↔ ∃ a ∈ seen, key a = k)
    (single : Set.InjOn key {a | a ∈ seen ++ whole}) :
    Thinned seen whole (AdFilter.distinctFrom key known whole) := by
  -- The induction is on the list, with the keys of what was seen in the table.
  induction whole generalizing seen known with
  | nil => exact .nil
  | cons a rest ih =>
    have middle {b : A} : b ∈ seen ++ a :: rest ↔ b ∈ a :: seen ++ rest :=
      List.perm_middle.mem_iff
    unfold AdFilter.distinctFrom
    split
    · -- An element with the same key was seen, and it is the same element.
      rename_i found
      obtain ⟨b, member, same⟩ := (told _).mp found
      have equal := single (List.mem_append_left _ member) (middle.mpr (by simp)) same
      exact .drop (equal ▸ member)
        (ih told (single.mono fun _ inside => middle.mpr (List.mem_cons_of_mem a inside)))
    · refine .keep (ih (fun k => ?_) (single.mono fun _ inside => middle.mpr inside))
      simp [told]

/-- The distinct elements of a whole list are the list thinned. -/
theorem distinctBy [BEq K] [LawfulBEq K] [Hashable K] [LawfulHashable K] {key : A → K}
    (single : Set.InjOn key {a | a ∈ whole}) :
    Thinned [] whole (AdFilter.distinctBy key whole) :=
  distinctFrom (by simp) single

/-- What is thinned is so after each element is turned into at most one other. -/
theorem filterMap (thinned : Thinned seen whole thin) (f : A → Option B) :
    Thinned (seen.filterMap f) (whole.filterMap f) (thin.filterMap f) := by
  induction thinned with
  | nil => exact .nil
  | @keep seen whole thin a _ ih =>
    cases found : f a with
    | none => simpa [List.filterMap_cons, found] using ih
    | some b =>
      rw [List.filterMap_cons_some found] at ih
      rw [List.filterMap_cons_some found, List.filterMap_cons_some found]
      exact .keep ih
  -- The element that was known is known by what it is mapped to.
  | @drop seen whole thin a known _ ih =>
    cases found : f a with
    | none => rwa [List.filterMap_cons_none found]
    | some b =>
      rw [List.filterMap_cons_some found]
      exact .drop (List.mem_filterMap.mpr ⟨a, known, found⟩) ih

/-- What is thinned is so after a condition is put on the elements. -/
theorem filter (thinned : Thinned seen whole thin) (keep : A → Bool) :
    Thinned (seen.filter keep) (whole.filter keep) (thin.filter keep) := by
  -- A filter is a map that may leave out.
  simpa only [List.filterMap_eq_filter] using thinned.filterMap (Option.guard keep)

/-- What is thinned has no new elements, and lacks only elements that were seen. -/
theorem mem_iff (thinned : Thinned seen whole thin) {a : A} :
    a ∈ seen ∨ a ∈ whole ↔ a ∈ seen ∨ a ∈ thin := by
  induction thinned with
  | nil => rfl
  | keep _ ih =>
    simp only [List.mem_cons] at ih ⊢
    tauto
  -- What is dropped is among those that were seen.
  | drop known _ ih =>
    rw [← ih, List.mem_cons]
    constructor
    · rintro (member | rfl | member)
      · exact Or.inl member
      · exact Or.inl known
      · exact Or.inr member
    · exact Or.imp_right Or.inr

/-- The first element stays. -/
theorem head?_eq (thinned : Thinned [] whole thin) : whole.head? = thin.head? := by
  -- The first element has no other before it, so it is not dropped.
  cases thinned with
  | nil => rfl
  | keep _ => rfl
  | drop known _ => cases known

/-- The first element that meets a condition stays. -/
theorem find?_eq (thinned : Thinned [] whole thin) (condition : A → Bool) :
    whole.find? condition = thin.find? condition := by
  -- What is found first is the head of those with the condition.
  rw [← List.head?_filter, ← List.head?_filter]
  exact (thinned.filter condition).head?_eq

/-- Some element meets a condition just if one of those that stay does. -/
theorem any_eq (thinned : Thinned [] whole thin) (condition : A → Bool) :
    whole.any condition = thin.any condition := by
  -- A condition holds of some element, and both lists have the same ones.
  have members {a : A} : a ∈ whole ↔ a ∈ thin := by simpa using thinned.mem_iff
  rw [Bool.eq_iff_iff, List.any_eq_true, List.any_eq_true]
  simp only [members]

/-- The first of the greatest elements stays. -/
theorem argmax_eq (thinned : Thinned [] whole thin) (weight : A → Nat) :
    whole.argmax weight = thin.argmax weight := by
  have members {a : A} : a ∈ whole ↔ a ∈ thin := by simpa using thinned.mem_iff
  rw [argmax_eq_find?, argmax_eq_find?, thinned.find?_eq]
  -- The greatest elements are the same in both.
  simp only [List.all_eq, members]

/-- The distinct elements stay, whatever is compared. -/
theorem distinctFrom_eq [BEq K] [LawfulBEq K] [Hashable K] [LawfulHashable K]
    (thinned : Thinned seen whole thin) (key : A → K) {known : Std.HashSet K}
    (told : ∀ a ∈ seen, known.contains (key a) = true) :
    AdFilter.distinctFrom key known whole = AdFilter.distinctFrom key known thin := by
  induction thinned generalizing known with
  | nil => rfl
  | @keep seen whole thin a _ ih =>
    unfold AdFilter.distinctFrom
    split
    · rename_i found
      exact ih (List.forall_mem_cons.mpr ⟨found, told⟩)
    · rw [ih fun b member => ?_]
      rcases List.mem_cons.mp member with rfl | member
      · simp
      · simp [told b member]
  | @drop seen whole thin a before _ ih =>
    -- What was seen is left out of the distinct elements in any case.
    rw [AdFilter.distinctFrom, if_pos (told a before)]
    exact ih told

/-- The distinct elements of a whole list stay. -/
theorem distinctBy_eq [BEq K] [LawfulBEq K] [Hashable K] [LawfulHashable K]
    (thinned : Thinned [] whole thin) (key : A → K) :
    AdFilter.distinctBy key whole = AdFilter.distinctBy key thin :=
  thinned.distinctFrom_eq key (by simp)

end Thinned

end AdFilter
