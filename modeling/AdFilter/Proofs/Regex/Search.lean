import AdFilter.Regex.Search

/-! A search finds a text just if the expression matches some part of it. -/

namespace AdFilter

/-- Leaving out what was seen leaves all the rest. -/
theorem mem_distinctFrom_id {A : Type} [BEq A] [Hashable A] [LawfulBEq A] {list : List A}
    {seen : Std.HashSet A} {a : A} : a ∈ distinctFrom id seen list ↔ a ∈ list ∧ a ∉ seen := by
  -- An item is kept when it comes up first, and is seen from then on.
  induction list generalizing seen with
  | nil => simp [distinctFrom]
  | cons first rest ih =>
    simp only [distinctFrom, id]
    split
    · -- What was seen is left out, and it is not asked for either.
      rename_i known
      have member : first ∈ seen := by simpa using known
      grind
    · -- What is new is kept, and the rest is compared with one more seen.
      rename_i unknown
      have new : first ∉ seen := by simpa using unknown
      simp only [List.mem_cons, ih, Std.HashSet.mem_insert, beq_iff_eq]
      grind

/-- Leaving out repeats leaves the members of a list. -/
@[simp] theorem mem_distinctBy_id {A : Type} [BEq A] [Hashable A] [LawfulBEq A] {list : List A}
    {a : A} : a ∈ distinctBy id list ↔ a ∈ list := by
  simp [distinctBy, mem_distinctFrom_id]

namespace Regex

@[simp] theorem lastOr_nil (before : Option Char) : lastOr before [] = before := rfl

@[simp] theorem firstOr_nil (after : Option Char) : firstOr [] after = after := rfl

@[simp] theorem firstOr_cons (c : Char) (word : List Char) (after : Option Char) :
    firstOr (c :: word) after = some c := rfl

/-- The last character of a word with one more in front is that of the word behind it. -/
@[simp] theorem lastOr_cons (before : Option Char) (c : Char) (word : List Char) :
    lastOr before (c :: word) = lastOr (some c) word := by
  simp [lastOr, List.getLast?_cons]

/-- The last character of two words is that of the second, behind the first. -/
theorem lastOr_append (before : Option Char) (u v : List Char) :
    lastOr before (u ++ v) = lastOr (lastOr before u) v := by
  simp [lastOr, List.getLast?_append, Option.or_assoc]

/-- The first character of two words is that of the first, before the second. -/
theorem firstOr_append (u v : List Char) (after : Option Char) :
    firstOr (u ++ v) after = firstOr u (firstOr v after) := by
  simp [firstOr, List.head?_append, Option.or_assoc]

/-- Before what follows a word stands its first character, or what comes after it. -/
theorem firstOr_head? (word rest : List Char) : firstOr word rest.head? = (word ++ rest).head? := by
  simp [firstOr, List.head?_append]

section Shapes

variable {r s : Regex} {before after : Option Char} {word : List Char}

/-- The empty expression matches the empty word alone. -/
@[simp] theorem matches_empty_iff : Matches .empty before word after ↔ word = [] :=
  ⟨fun | .empty => rfl, fun nothing => nothing ▸ .empty⟩

/-- A set matches one of its characters. -/
@[simp] theorem matches_chars_iff {set : CharSet} :
    Matches (.chars set) before word after ↔ ∃ c, word = [c] ∧ set.has c = true :=
  ⟨fun | .chars member => ⟨_, rfl, member⟩, fun ⟨_, single, member⟩ => single ▸ .chars member⟩

/-- A condition on a place matches the empty word where it holds. -/
@[simp] theorem matches_look_iff {anchor : Anchor} :
    Matches (.look anchor) before word after ↔ word = [] ∧ anchor.holds before after = true :=
  ⟨fun | .look holds => ⟨rfl, holds⟩, fun ⟨nothing, holds⟩ => nothing ▸ .look holds⟩

/-- One expression after the other matches two words in a row. -/
theorem matches_cat_iff : Matches (.cat r s) before word after ↔
    ∃ u v, word = u ++ v ∧ Matches r before u (firstOr v after) ∧ Matches s (lastOr before u) v after :=
  ⟨fun | .cat first second => ⟨_, _, rfl, first, second⟩,
    fun ⟨_, _, same, first, second⟩ => same ▸ .cat first second⟩

/-- Either of two expressions matches what one of them does. -/
theorem matches_alt_iff : Matches (.alt r s) before word after ↔
    Matches r before word after ∨ Matches s before word after :=
  ⟨fun | .left here => .inl here | .right here => .inr here,
    fun | .inl here => .left here | .inr here => .right here⟩

/-- An empty expression in front changes nothing. -/
theorem matches_andThen_iff : Matches (andThen r s) before word after ↔
    Matches (.cat r s) before word after := by
  -- Only an empty expression in front is dropped, and it matches nothing but the empty word.
  unfold andThen
  split
  · rw [matches_cat_iff]
    constructor
    · -- What follows the empty expression takes the whole word.
      exact fun here => ⟨[], word, rfl, .empty, here⟩
    · rintro ⟨u, v, rfl, first, second⟩
      obtain rfl := matches_empty_iff.mp first
      exact second
  · rfl

end Shapes

/-- An expression matches a word a given number of times in a row. -/
inductive Repeats (r : Regex) : Nat → Option Char → List Char → Option Char → Prop
  | none {before after} : Repeats r 0 before [] after
  | more {count before u v after} (first : Matches r before u (firstOr v after))
      (rest : Repeats r count (lastOr before u) v after) : Repeats r (count + 1) before (u ++ v) after

/-- A repetition matches what its inside matches as often as the bounds allow. -/
theorem matches_times_iff {r : Regex} {least : Nat} {most : Option Nat} {before after : Option Char}
    {word : List Char} : Matches (.times r least most) before word after ↔
      ∃ count, least ≤ count ∧ (∀ m ∈ most, count ≤ m) ∧ Repeats r count before word after := by
  -- One direction counts the matches off, the other puts them back under the bounds.
  constructor
  · intro here
    generalize whole : Regex.times r least most = t at here
    induction here generalizing least most with
    | done =>
      cases whole
      -- No match is owed, and none is made.
      exact ⟨0, Nat.le_refl 0, fun _ _ => Nat.zero_le _, .none⟩
    | more room first rest _ ih =>
      cases whole
      obtain ⟨count, low, high, repeats⟩ := ih rfl
      -- One more match than behind the first is within the bounds, which were lowered by one.
      refine ⟨count + 1, by omega, fun m bound => ?_, .more first repeats⟩
      have inner := high (m - 1) (by simp_all)
      have positive : m ≠ 0 := by
        rintro rfl
        exact room bound
      omega
    | _ => cases whole
  · rintro ⟨count, low, high, repeats⟩
    induction repeats generalizing least most with
    | none =>
      -- Where nothing is matched, nothing was owed.
      obtain rfl : least = 0 := by omega
      exact .done
    | more first rest ih =>
      -- A match is made, so there is room for it and the bounds are lowered.
      refine .more (fun none => ?_) first (ih (by omega) fun m bound => ?_)
      · have := high 0 none
        omega
      · obtain ⟨whole, bounded, rfl⟩ := Option.map_eq_some_iff.mp bound
        have := high whole bounded
        omega

/-- In every repetition the least number is not greater than the most. -/
def Bounded : Regex → Prop
  | .empty | .chars _ | .look _ => True
  | .cat r s | .alt r s => r.Bounded ∧ s.Bounded
  | .times r least most => r.Bounded ∧ ∀ m ∈ most, least ≤ m

/-- An expression is nullable just if it matches the empty word. -/
theorem nullable_iff {r : Regex} (bounded : r.Bounded) (before after : Option Char) :
    nullable before after r = true ↔ Matches r before [] after := by
  -- Only a repetition looks at its bounds: without order between them it might match nothing at all.
  induction r with
  | empty => simp [nullable]
  | chars set => simp [nullable]
  | look anchor => simp [nullable]
  | cat r s ihr ihs =>
    simp only [nullable, Bool.and_eq_true, ihr bounded.1, ihs bounded.2, matches_cat_iff]
    constructor
    · -- The empty word is cut into two empty ones.
      exact fun ⟨first, second⟩ => ⟨[], [], rfl, first, second⟩
    · rintro ⟨u, v, nothing, first, second⟩
      obtain ⟨rfl, rfl⟩ := List.append_eq_nil_iff.mp nothing.symm
      exact ⟨first, second⟩
  | alt r s ihr ihs => simp [nullable, matches_alt_iff, ihr bounded.1, ihs bounded.2]
  | times r least most ih =>
    simp only [nullable, Bool.or_eq_true, beq_iff_eq, Bool.and_eq_true, bne_iff_ne, ne_eq,
      ih bounded.1, matches_times_iff]
    constructor
    · -- Nothing is owed, or the inside matches the empty word and may be repeated.
      rintro (none | ⟨room, here⟩)
      · exact ⟨0, by omega, by simp, .none⟩
      · -- The empty word is matched as often as it has to be.
        have again : ∀ count, Repeats r count before [] after := by
          intro count
          induction count with
          | zero => exact .none
          | succ count ihCount => exact .more (u := []) (v := []) here ihCount
        exact ⟨least, Nat.le_refl _, bounded.2, again least⟩
    · rintro ⟨count, low, high, repeats⟩
      generalize nothing : ([] : List Char) = word at repeats
      cases repeats with
      -- A row without matches is allowed where none is owed.
      | none => exact Or.inl (by omega)
      | more first rest =>
        obtain ⟨rfl, rfl⟩ := List.append_eq_nil_iff.mp nothing.symm
        -- The first match of a row is empty itself, since the whole row is.
        refine Or.inr ⟨fun none => ?_, first⟩
        have := high 0 none
        omega

/-- A row of matches goes on behind any number of empty ones. -/
theorem Repeats.afterEmpty {r : Regex} {count : Nat} {before after : Option Char} {word : List Char}
    (repeats : Repeats r count before word after) {skipped : Nat}
    (empty : 0 < skipped → Matches r before [] (firstOr word after)) :
    Repeats r (skipped + count) before word after := by
  -- An empty match in front leaves the place where it is.
  induction skipped with
  | zero => simpa using repeats
  | succ skipped ih =>
    have here := empty (by omega)
    rw [show skipped + 1 + count = skipped + count + 1 by omega]
    exact .more (u := []) here (ih fun _ => here)

/-- In a row of matches of a word that is not empty, one match takes its first character. -/
theorem Repeats.exists_of_cons {r : Regex} {count : Nat} {before after : Option Char} {c : Char}
    {word : List Char} (repeats : Repeats r count before (c :: word) after) :
    ∃ skipped rest u v, count = skipped + 1 + rest ∧ word = u ++ v ∧
      (0 < skipped → Matches r before [] (some c)) ∧ Matches r before (c :: u) (firstOr v after) ∧
      Repeats r rest (lastOr (some c) u) v after := by
  -- Matches that are empty come first; the one behind them takes the character.
  generalize whole : c :: word = text at repeats
  induction repeats with
  | none => cases whole
  | @more count before u v after first rest ih =>
    cases u with
    | nil =>
      -- The first match is empty, so another one takes the character.
      obtain ⟨skipped, later, u, w, total, same, empty, taken, further⟩ := ih whole
      simp only [List.nil_append] at whole
      subst whole
      exact ⟨skipped + 1, later, u, w, by omega, same, fun _ => first, taken, further⟩
    | cons d u =>
      simp only [List.cons_append, List.cons.injEq] at whole
      obtain ⟨rfl, rfl⟩ := whole
      -- The first match takes the character, and none is skipped.
      exact ⟨0, count, u, v, by omega, rfl, by simp, first, by simpa using rest⟩

/-- How many matches a repetition owes behind one that takes the character: none where empty ones may make up
for them. -/
def owed (before : Option Char) (c : Char) (r : Regex) (least : Nat) : Nat :=
  if nullable before (some c) r then 0 else least - 1

section Step

variable {r s t : Regex} {before after : Option Char} {c : Char} {word : List Char} {least : Nat}
  {most : Option Nat}

/-- In a row, either expression may have taken the character, the second one behind an empty first. -/
theorem mem_step_cat_iff : s ∈ step before c (.cat r t) ↔
    (∃ first ∈ step before c r, andThen first t = s) ∨
      nullable before (some c) r = true ∧ s ∈ step before c t := by
  simp only [step]
  split <;> simp_all

/-- In a repetition the inside takes the character, if there is room for a match. -/
theorem mem_step_times_iff : s ∈ step before c (.times r least most) ↔
    most ≠ some 0 ∧ ∃ first ∈ step before c r,
      andThen first (.times r (owed before c r least) (most.map (· - 1))) = s := by
  simp only [step, owed]
  split <;> simp_all

/-- In a match of a row, the first expression takes the character, or is empty and leaves it to the second. -/
theorem matches_cat_cons_iff : Matches (.cat r t) before (c :: word) after ↔
    (∃ u v, word = u ++ v ∧ Matches r before (c :: u) (firstOr v after) ∧
      Matches t (lastOr (some c) u) v after) ∨
    Matches r before [] (some c) ∧ Matches t before (c :: word) after := by
  rw [matches_cat_iff]
  constructor
  · rintro ⟨u, v, same, first, second⟩
    -- Either the first expression takes the character, or it matches nothing here.
    cases u with
    | nil =>
      rw [List.nil_append] at same
      subst same
      exact Or.inr ⟨first, second⟩
    | cons d u =>
      simp only [List.cons_append, List.cons.injEq] at same
      obtain ⟨rfl, rfl⟩ := same
      exact Or.inl ⟨u, v, rfl, first, by simpa using second⟩
  · rintro (⟨u, v, rfl, first, second⟩ | ⟨first, second⟩)
    · exact ⟨c :: u, v, rfl, first, by simpa using second⟩
    · exact ⟨[], c :: word, rfl, first, second⟩

/-- A repetition goes on behind the match that takes the character, with what it still owes. -/
theorem exists_of_matches_times_cons (bounded : r.Bounded)
    (here : Matches (.times r least most) before (c :: word) after) :
    most ≠ some 0 ∧ ∃ u v, word = u ++ v ∧ Matches r before (c :: u) (firstOr v after) ∧
      Matches (.times r (owed before c r least) (most.map (· - 1))) (lastOr (some c) u) v after := by
  obtain ⟨count, low, high, repeats⟩ := matches_times_iff.mp here
  obtain ⟨skipped, rest, u, v, total, rfl, empty, taken, further⟩ := repeats.exists_of_cons
  -- A match takes the character, so there is room for one.
  have room : most ≠ some 0 := by
    rintro rfl
    have := high 0 rfl
    omega
  refine ⟨room, u, v, rfl, taken, matches_times_iff.mpr ⟨rest, ?_, fun m bound => ?_, further⟩⟩
  · -- The matches that were skipped are empty, and the reduced bounds allow for that.
    unfold owed
    split
    · omega
    · rename_i filled
      have first : skipped = 0 := Nat.eq_zero_of_not_pos fun some =>
        filled ((nullable_iff bounded ..).mpr (empty some))
      omega
  · obtain ⟨whole, bounded, rfl⟩ := Option.map_eq_some_iff.mp bound
    have := high whole bounded
    omega

/-- A match that takes the character, with what a repetition still owes behind it, is a match of the whole. -/
theorem matches_times_cons (bounded : (Regex.times r least most).Bounded) (room : most ≠ some 0)
    {u v : List Char} (taken : Matches r before (c :: u) (firstOr v after))
    (rest : Matches (.times r (owed before c r least) (most.map (· - 1))) (lastOr (some c) u) v after) :
    Matches (.times r least most) before (c :: (u ++ v)) after := by
  obtain ⟨count, low, high, further⟩ := matches_times_iff.mp rest
  have repeats : Repeats r (count + 1) before (c :: u ++ v) after :=
    .more taken (by simpa using further)
  -- The match that takes the character is counted back into the bounds.
  have least_le : ∀ m ∈ most, count + 1 ≤ m := by
    intro m bound
    have := high (m - 1) (by simp_all)
    have : m ≠ 0 := fun none => room (none ▸ bound)
    omega
  rw [matches_times_iff]
  unfold owed at low
  split at low
  · rename_i empty
    -- Empty matches in front make up for what is still owed.
    refine ⟨(least - (count + 1)) + (count + 1), by omega, fun m bound => ?_,
      repeats.afterEmpty fun _ => (nullable_iff bounded.1 ..).mp empty⟩
    have := least_le m bound
    have := bounded.2 m bound
    omega
  · -- No match can be empty, so none was skipped and the bound is that of the rest.
    exact ⟨count + 1, by omega, least_le, repeats⟩

end Step

/-- What may follow a character is what an expression matches behind it. -/
theorem matches_cons_iff {r : Regex} (bounded : r.Bounded) {before after : Option Char} {c : Char}
    {word : List Char} : Matches r before (c :: word) after ↔
      ∃ s ∈ step before c r, Matches s (some c) word after := by
  -- The induction follows the expression; rows and repetitions may be entered past empty matches.
  induction r generalizing word after with
  | empty => simp [step]
  | look anchor => simp [step]
  | chars set =>
    -- A character of the set is followed by nothing.
    by_cases member : set.has c = true <;> simp [step, member, and_assoc]
  | alt r s ihr ihs =>
    simp only [step, matches_alt_iff, ihr bounded.1, ihs bounded.2, List.mem_append, or_and_right,
      exists_or]
  | cat r t ihr iht =>
    simp only [matches_cat_cons_iff, mem_step_cat_iff, ihr bounded.1, iht bounded.2]
    constructor
    · rintro (⟨u, v, rfl, ⟨s, member, first⟩, second⟩ | ⟨first, s, member, here⟩)
      · -- What is left of the first expression comes before the second.
        exact ⟨_, Or.inl ⟨s, member, rfl⟩, matches_andThen_iff.mpr (.cat first second)⟩
      · exact ⟨s, Or.inr ⟨(nullable_iff bounded.1 ..).mpr first, member⟩, here⟩
    · rintro ⟨_, ⟨first, member, rfl⟩ | ⟨empty, member⟩, here⟩
      · obtain ⟨u, v, rfl, one, other⟩ := matches_cat_iff.mp (matches_andThen_iff.mp here)
        exact Or.inl ⟨u, v, rfl, ⟨first, member, one⟩, other⟩
      · exact Or.inr ⟨(nullable_iff bounded.1 ..).mp empty, _, member, here⟩
  | times r least most ih =>
    constructor
    · intro here
      obtain ⟨room, u, v, rfl, taken, further⟩ := exists_of_matches_times_cons bounded.1 here
      obtain ⟨s, member, first⟩ := (ih bounded.1).mp taken
      exact ⟨_, mem_step_times_iff.mpr ⟨room, s, member, rfl⟩,
        matches_andThen_iff.mpr (.cat first further)⟩
    · rintro ⟨s, member, here⟩
      obtain ⟨room, first, inside, rfl⟩ := mem_step_times_iff.mp member
      obtain ⟨u, v, rfl, one, other⟩ := matches_cat_iff.mp (matches_andThen_iff.mp here)
      exact matches_times_cons bounded room ((ih bounded.1).mpr ⟨first, inside, one⟩) other

/-- A property that passes to the parts of an expression, and to what is put together from them, passes to
what may follow a character. -/
theorem of_mem_step {P : Regex → Prop} (empty : P .empty)
    (cat : ∀ r s, P (.cat r s) ↔ P r ∧ P s) (alt : ∀ r s, P (.alt r s) → P r ∧ P s)
    (inner : ∀ r least most, P (.times r least most) → P r)
    (less : ∀ r least most owed, P (.times r least most) → most ≠ some 0 → owed ≤ least - 1 →
      P (.times r owed (most.map (· - 1))))
    {r : Regex} (whole : P r) {before : Option Char} {c : Char} {s : Regex}
    (member : s ∈ step before c r) : P s := by
  -- What follows is put together from parts of the expression, and a repetition has one turn less.
  have joined {r s : Regex} (first : P r) (second : P s) : P (andThen r s) := by
    unfold andThen
    split
    · exact second
    · exact (cat _ _).mpr ⟨first, second⟩
  induction r generalizing s with
  | empty => simp [step] at member
  | chars set =>
    simp only [step] at member
    split at member
    · exact List.mem_singleton.mp member ▸ empty
    · cases member
  | look anchor => simp [step] at member
  | alt r t ihr iht =>
    rcases List.mem_append.mp member with member | member
    · exact ihr (alt _ _ whole).1 member
    · exact iht (alt _ _ whole).2 member
  | cat r t ihr iht =>
    -- What follows is left of the first expression or of the second.
    rcases mem_step_cat_iff.mp member with ⟨first, inside, rfl⟩ | ⟨_, member⟩
    · exact joined (ihr ((cat _ _).mp whole).1 inside) ((cat _ _).mp whole).2
    · exact iht ((cat _ _).mp whole).2 member
  | times r least most ih =>
    obtain ⟨room, first, inside, rfl⟩ := mem_step_times_iff.mp member
    refine joined (ih (inner _ _ _ whole) inside) (less _ _ _ _ whole room ?_)
    unfold owed
    split <;> omega

/-- What may follow a character has its bounds in order as well. -/
theorem bounded_step {r : Regex} (bounded : r.Bounded) {before : Option Char} {c : Char} {s : Regex}
    (member : s ∈ step before c r) : s.Bounded := by
  refine of_mem_step (P := Bounded) trivial (fun _ _ => Iff.rfl) (fun _ _ => id) (fun _ _ _ => And.left)
    (fun r least most owed bounded room fewer => ⟨bounded.1, fun m bound => ?_⟩) bounded member
  obtain ⟨whole, present, rfl⟩ := Option.map_eq_some_iff.mp bound
  -- Both bounds are lowered by one, or the lower one is gone.
  have := bounded.2 whole present
  have : whole ≠ 0 := fun none => room (none ▸ present)
  omega

/-- The expression matches some first part of the text. -/
def Begins (r : Regex) (before : Option Char) (text : List Char) : Prop :=
  ∃ word rest, text = word ++ rest ∧ Matches r before word rest.head?

/-- At the end of the text only the empty word is left. -/
theorem begins_nil_iff {r : Regex} (bounded : r.Bounded) {before : Option Char} :
    Begins r before [] ↔ nullable before none r = true := by
  rw [nullable_iff bounded]
  constructor
  · rintro ⟨word, rest, nothing, here⟩
    -- Nothing is left to be matched, and nothing to be left over.
    obtain ⟨rfl, rfl⟩ := List.append_eq_nil_iff.mp nothing.symm
    exact here
  · exact fun here => ⟨[], [], rfl, here⟩

/-- A match either is empty or goes on behind the next character. -/
theorem begins_cons_iff {r : Regex} (bounded : r.Bounded) {before : Option Char} {c : Char}
    {text : List Char} : Begins r before (c :: text) ↔
      nullable before (some c) r = true ∨ ∃ s ∈ step before c r, Begins s (some c) text := by
  -- The word is empty or begins with the character.
  rw [nullable_iff bounded]
  constructor
  · rintro ⟨word, rest, same, here⟩
    cases word with
    | nil =>
      simp only [List.nil_append] at same
      subst same
      -- The empty word is matched before the character.
      exact Or.inl here
    | cons d word =>
      simp only [List.cons_append, List.cons.injEq] at same
      obtain ⟨rfl, rfl⟩ := same
      obtain ⟨s, member, further⟩ := (matches_cons_iff bounded).mp here
      -- The character is taken, and what follows it matches the rest of the word.
      exact Or.inr ⟨s, member, word, rest, rfl, further⟩
  · rintro (here | ⟨s, member, word, rest, rfl, further⟩)
    · exact ⟨[], c :: text, rfl, here⟩
    · exact ⟨c :: word, rest, rfl, (matches_cons_iff bounded).mpr ⟨s, member, further⟩⟩

/-- What is under way before a character is empty there, or goes on behind it. -/
theorem exists_begins_cons_iff {live : List Regex} (alive : ∀ r ∈ live, r.Bounded)
    (before : Option Char) (c : Char) (text : List Char) :
    (∃ r ∈ live, Begins r before (c :: text)) ↔
      (∃ r ∈ live, nullable before (some c) r = true) ∨
        ∃ s ∈ live.flatMap (step before c), Begins s (some c) text := by
  -- Each of the expressions is asked on its own.
  constructor
  · rintro ⟨r, member, begins⟩
    rcases (begins_cons_iff (alive r member)).mp begins with empty | ⟨s, follows, further⟩
    · exact Or.inl ⟨r, member, empty⟩
    · exact Or.inr ⟨s, List.mem_flatMap.mpr ⟨r, member, follows⟩, further⟩
  · rintro (⟨r, member, empty⟩ | ⟨s, inside, further⟩)
    · exact ⟨r, member, (begins_cons_iff (alive r member)).mpr (Or.inl empty)⟩
    · obtain ⟨r, member, follows⟩ := List.mem_flatMap.mp inside
      exact ⟨r, member, (begins_cons_iff (alive r member)).mpr (Or.inr ⟨s, follows, further⟩)⟩

/-- A start in a text is one at its first place, or one behind its first character. -/
theorem exists_start_cons_iff {start : Regex} {before : Option Char} {c : Char} {text : List Char} :
    (∃ passed rest, c :: text = passed ++ rest ∧ Begins start (lastOr before passed) rest) ↔
      Begins start before (c :: text) ∨
        ∃ passed rest, text = passed ++ rest ∧ Begins start (lastOr (some c) passed) rest := by
  constructor
  · rintro ⟨passed, rest, same, begins⟩
    -- The word begins here, or behind the first character.
    cases passed with
    | nil =>
      rw [List.nil_append] at same
      subst same
      exact Or.inl begins
    | cons d passed =>
      simp only [List.cons_append, List.cons.injEq] at same
      obtain ⟨rfl, rfl⟩ := same
      exact Or.inr ⟨passed, rest, rfl, by simpa using begins⟩
  · rintro (begins | ⟨passed, rest, rfl, begins⟩)
    · exact ⟨[], c :: text, rfl, begins⟩
    · exact ⟨c :: passed, rest, rfl, by simpa using begins⟩

/-- A search finds what is under way, or what starts anew at this place or a later one. -/
theorem searchFrom_iff {start : Regex} (bounded : start.Bounded) {before : Option Char}
    {live : List Regex} (alive : ∀ r ∈ live, r.Bounded) {text : List Char} :
    searchFrom start before live text = true ↔ (∃ r ∈ live, Begins r before text) ∨
      ∃ passed rest, text = passed ++ rest ∧ Begins start (lastOr before passed) rest := by
  -- The expressions under way are those that started at the places passed so far.
  induction text generalizing before live with
  | nil =>
    simp only [searchFrom, List.any_eq_true, List.mem_cons]
    constructor
    · -- What is nullable at the end was under way, or starts there.
      rintro ⟨r, rfl | member, empty⟩
      · exact Or.inr ⟨[], [], rfl, (begins_nil_iff bounded).mpr empty⟩
      · exact Or.inl ⟨r, member, (begins_nil_iff (alive r member)).mpr empty⟩
    · rintro (⟨r, member, begins⟩ | ⟨passed, rest, nothing, begins⟩)
      · exact ⟨r, Or.inr member, (begins_nil_iff (alive r member)).mp begins⟩
      · obtain ⟨rfl, rfl⟩ := List.append_eq_nil_iff.mp nothing.symm
        exact ⟨start, Or.inl rfl, (begins_nil_iff bounded).mp begins⟩
  | cons c text ih =>
    -- All that is under way has its bounds in order, before the character and behind it.
    have all : ∀ r ∈ start :: live, r.Bounded := by
      intro r member
      rcases List.mem_cons.mp member with rfl | member
      · exact bounded
      · exact alive r member
    have next : ∀ r ∈ distinctBy id ((start :: live).flatMap (step before c)), r.Bounded := by
      intro s member
      obtain ⟨r, inside, follows⟩ := List.mem_flatMap.mp (mem_distinctBy_id.mp member)
      exact bounded_step (all r inside) follows
    -- A new start at this place is under way like the others, and is told apart from one further on.
    have here := exists_begins_cons_iff all before c text
    -- Put together, the search goes on behind the character with all that follows it.
    rw [searchFrom, Bool.or_eq_true, List.any_eq_true, ih next, exists_start_cons_iff]
    simp only [mem_distinctBy_id]
    simp only [List.mem_cons, exists_eq_or_imp] at here ⊢
    grind

/-- A search finds a text just if the expression matches some part of it. -/
theorem search_iff_occurs {r : Regex} (bounded : r.Bounded) (text : List Char) :
    search r text = true ↔ Occurs r text := by
  -- At the start of the text nothing is under way, and nothing stands before it.
  rw [search, searchFrom_iff bounded (by simp)]
  simp only [List.not_mem_nil, false_and, exists_false, false_or, Occurs, Begins]
  constructor
  · rintro ⟨passed, rest, rfl, word, after, rfl, here⟩
    exact ⟨passed, word, after, by simp, by simpa [lastOr] using here⟩
  · rintro ⟨passed, word, after, rfl, here⟩
    exact ⟨passed, word ++ after, by simp, word, after, rfl, by simpa [lastOr] using here⟩

end Regex

end AdFilter
