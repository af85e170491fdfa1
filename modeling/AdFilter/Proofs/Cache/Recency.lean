import AdFilter.Proofs.Cache

/-!
A cache answers as a row of keys with their values does, in which what is touched goes to the end, and what
stands at the front is given up for something new.
-/

namespace AdFilter

/-- All answers of a run, and the state after it. -/
def answersOf {S A B : Type} (step : S → A → B × S) (state : S) : List A → List B × S
  | [] => ([], state)
  | next :: rest =>
    let (answer, state) := step state next
    let (answers, state) := answersOf step state rest
    (answer :: answers, state)

/-- Two machines that answer alike step by step, from states that belong together, do so in every run. -/
theorem answersOf_simulates {S T A B : Type} {step : S → A → B × S} {other : T → A → B × T}
    {related : S → T → Prop}
    (simulates : ∀ s t a, related s t →
      (step s a).1 = (other t a).1 ∧ related (step s a).2 (other t a).2)
    {s : S} {t : T} (start : related s t) (run : List A) :
    (answersOf step s run).1 = (answersOf other t run).1 ∧
      related (answersOf step s run).2 (answersOf other t run).2 := by
  -- The induction is on the steps, from any two states that belong together.
  induction run generalizing s t with
  | nil => exact ⟨rfl, start⟩
  | cons next rest ih =>
    obtain ⟨answered, after⟩ := simulates s t next start
    obtain ⟨answers, last⟩ := ih after
    exact ⟨by simp only [answersOf, answered, answers], last⟩

namespace Cache

/-- What may be done with a cache. -/
inductive Step (K V : Type)
  | insert (key : K) (value : V)
  | find (key : K)
  | size
  | clear

/-- What comes back from a step: the value that was found, the number of entries, or nothing. -/
inductive Answer (V : Type)
  | nothing
  | value (found : Option V)
  | count (size : Nat)
  deriving DecidableEq

/-- Keys with their values, the one touched last at the end, and how many of them there may be. -/
structure Row (K V : Type) where
  capacity : Nat
  pairs : List (K × V)

variable {K V : Type} [BEq K] [Hashable K]

/-- One step of a cache. -/
def step (cache : Cache K V) : Step K V → Answer V × Cache K V
  | .insert key value => (.nothing, cache.insert key value)
  | .find key => (.value (cache.find key).1, (cache.find key).2)
  | .size => (.count cache.size, cache)
  | .clear => (.nothing, cache.clear)

namespace Row

omit [Hashable K]

/-- The row with a pair at the end that is the only one with its key. -/
def touch (row : Row K V) (key : K) (value : V) : Row K V :=
  { row with pairs := row.pairs.filter (fun pair => pair.1 != key) ++ [(key, value)] }

/-- The value of a key, which counts as touching it. -/
def find (row : Row K V) (key : K) : Option V × Row K V :=
  match row.pairs.lookup key with
  | some value => (some value, row.touch key value)
  | none => (none, row)

/-- The row with a new pair at the end, for which a full row gives up the first one. -/
def push (row : Row K V) (key : K) (value : V) : Row K V :=
  let kept := if row.pairs.length < row.capacity then row.pairs else row.pairs.drop 1
  { row with pairs := kept ++ [(key, value)] }

/-- The row with a value for a key; one without any room stays empty. -/
def insert (row : Row K V) (key : K) (value : V) : Row K V :=
  if row.capacity = 0 then row
  else if (row.pairs.lookup key).isSome then row.touch key value
  else row.push key value

/-- One step of a row. -/
def step (row : Row K V) : Step K V → Answer V × Row K V
  | .insert key value => (.nothing, row.insert key value)
  | .find key => (.value (row.find key).1, (row.find key).2)
  | .size => (.count row.pairs.length, row)
  | .clear => (.nothing, { row with pairs := [] })

end Row

/-- The row has the keys of the cache in their order, with the values that the cache has for them. -/
structure Mirrors (cache : Cache K V) (row : Row K V) : Prop where
  capacity : cache.capacity = row.capacity
  order : cache.order = row.pairs.map (·.1)
  stored : ∀ pair ∈ row.pairs, cache.entries[pair.1]? = some pair.2

/-- A cache with nothing in it is mirrored by a row with nothing in it. -/
theorem mirrors_empty (capacity : Nat) : (empty capacity : Cache K V).Mirrors ⟨capacity, []⟩ where
  capacity := rfl
  order := rfl
  stored := by simp

section Steps

variable {cache : Cache K V} {row : Row K V}

/-- There are as many pairs as entries. -/
theorem Mirrors.length_pairs (mirrors : cache.Mirrors row) (tidy : cache.Tidy) :
    row.pairs.length = cache.size := by
  -- The order has every key that is kept, once.
  rw [size, ← tidy.length_order, mirrors.order, List.length_map]

/-- A cache that is cleared is mirrored by a row without pairs. -/
theorem Mirrors.clear (mirrors : cache.Mirrors row) :
    cache.clear.Mirrors { row with pairs := [] } :=
  mirrors.capacity ▸ mirrors_empty cache.capacity

variable [LawfulBEq K]

/-- The value of a key in the row is its entry. -/
theorem Mirrors.lookup (mirrors : cache.Mirrors row) (tidy : cache.Tidy) (key : K) :
    row.pairs.lookup key = cache.entries[key]? := by
  -- A pair with the key is stored as an entry.
  cases found : row.pairs.lookup key with
  | some value =>
    obtain ⟨before, after, split, _⟩ := List.lookup_eq_some_iff.mp found
    exact (mirrors.stored (key, value) (by rw [split]; simp)).symm
  | none =>
    -- A key that is not in the row is not in the order of the keys, so it has no entry.
    have absent : key ∉ cache.order := by
      rw [mirrors.order, List.mem_map]
      rintro ⟨pair, member, rfl⟩
      have other := List.lookup_eq_none_iff.mp found pair member
      simp at other
    rw [tidy.mem_order] at absent
    exact (Std.HashMap.getElem?_eq_none absent).symm

/-- Where a key of the cache is touched and has a value, so it is in the row. -/
theorem Mirrors.touch (mirrors : cache.Mirrors row) (tidy : cache.Tidy) {key : K}
    (present : key ∈ cache.entries) {entries : Std.HashMap K V} {value : V}
    (new : entries[key]? = some value)
    (kept : ∀ other, other ≠ key → entries[other]? = cache.entries[other]?) :
    Mirrors { cache with entries, order := touched cache.order key } (row.touch key value) where
  capacity := mirrors.capacity
  order := by
    have member : key ∈ cache.order := (tidy.mem_order key).mpr present
    -- As the key stands once in the row, to erase it is to leave out all pairs with it.
    rw [touched, if_pos (by simpa using member), tidy.nodup.erase_eq_filter, mirrors.order,
      List.filter_map, Row.touch, List.map_append]
    rfl
  stored := by
    intro pair member
    -- The other pairs keep their entries, and the last one has the new value.
    rcases List.mem_append.mp member with old | last
    · obtain ⟨inside, other⟩ := List.mem_filter.mp old
      rw [kept pair.1 (by simpa using other)]
      exact mirrors.stored pair inside
    · obtain rfl := List.mem_singleton.mp last
      exact new

/-- A search answers as the row does, and leads to a cache that the row mirrors. -/
theorem Mirrors.find (mirrors : cache.Mirrors row) (tidy : cache.Tidy) (key : K) :
    (cache.find key).1 = (row.find key).1 ∧ (cache.find key).2.Mirrors (row.find key).2 := by
  rw [Cache.find, Row.find, mirrors.lookup tidy]
  -- What is not found changes nothing, and what is found is touched.
  cases found : cache.entries[key]? with
  | none => exact ⟨rfl, mirrors⟩
  | some value =>
    have present : key ∈ cache.entries := by
      rw [← Std.HashMap.isSome_getElem?_iff_mem, found]
      rfl
    exact ⟨rfl, mirrors.touch tidy present found fun _ _ => rfl⟩

/-- The key that a cache gives up is that of the first pair. -/
theorem Mirrors.evict (mirrors : cache.Mirrors row) (tidy : cache.Tidy) (filled : row.pairs ≠ []) :
    cache.evict.Mirrors { row with pairs := row.pairs.drop 1 } := by
  obtain ⟨capacity, pairs⟩ := row
  cases pairs with
  | nil => exact absurd rfl filled
  | cons oldest rest =>
    have order : cache.order = oldest.1 :: rest.map (·.1) := mirrors.order
    have unique := tidy.nodup
    rw [order, List.nodup_cons] at unique
    simp only [Cache.evict, order, List.drop_one, List.tail_cons]
    refine ⟨mirrors.capacity, rfl, fun pair member => ?_⟩
    -- No other pair has the key that goes, so all of them keep their entries.
    have other : oldest.1 ≠ pair.1 := fun same => unique.1 (same ▸ List.mem_map_of_mem member)
    rw [Std.HashMap.getElem?_erase, if_neg (by simpa using other)]
    exact mirrors.stored pair (List.mem_cons_of_mem _ member)

/-- A key that is new goes to the end of the row. -/
theorem Mirrors.append (mirrors : cache.Mirrors row) {key : K} (absent : key ∉ cache.order) (value : V) :
    Mirrors { cache with entries := cache.entries.insert key value, order := cache.order ++ [key] }
      { row with pairs := row.pairs ++ [(key, value)] } where
  capacity := mirrors.capacity
  order := by rw [mirrors.order, List.map_append, List.map_singleton]
  stored := by
    intro pair member
    -- The key is new, so it is that of no other pair.
    rcases List.mem_append.mp member with old | last
    · have other : key ≠ pair.1 := by
        rintro rfl
        rw [mirrors.order] at absent
        exact absent (List.mem_map_of_mem old)
      rw [Std.HashMap.getElem?_insert, if_neg (by simpa using other)]
      exact mirrors.stored pair old
    · obtain rfl := List.mem_singleton.mp last
      exact Std.HashMap.getElem?_insert_self

/-- A value that is put in leads to a cache that the row with it mirrors. -/
theorem Mirrors.insert (mirrors : cache.Mirrors row) (tidy : cache.Tidy) (key : K) (value : V) :
    (cache.insert key value).Mirrors (row.insert key value) := by
  -- Both sides ask first whether the key is there.
  have known : (row.pairs.lookup key).isSome = cache.entries.contains key := by
    rw [mirrors.lookup tidy, Std.HashMap.isSome_getElem?_eq_contains]
  rw [Cache.insert, Row.insert, ← mirrors.capacity, known]
  split
  · -- Without any room nothing is stored on either side.
    exact mirrors
  rename_i roomy
  split
  · -- The key is there already, and gets its new value where it is touched.
    rename_i present
    refine mirrors.touch tidy (Std.HashMap.mem_iff_contains.mpr present)
      Std.HashMap.getElem?_insert_self fun other apart => ?_
    rw [Std.HashMap.getElem?_insert, if_neg (by simpa using Ne.symm apart)]
  · rename_i absent
    have new : key ∉ cache.order := by
      rw [tidy.mem_order, Std.HashMap.mem_iff_contains]
      exact absent
    have long : row.pairs.length = cache.size := mirrors.length_pairs tidy
    have room : cache.capacity = row.capacity := mirrors.capacity
    by_cases full : cache.capacity ≤ cache.size
    · -- A full cache has an oldest key, as it has room for one at least.
      have filled : row.pairs ≠ [] := by
        rw [← List.length_pos_iff]
        omega
      have gone := mirrors.evict tidy filled
      have still : key ∉ cache.evict.order := by
        rw [gone.order]
        rw [mirrors.order] at new
        exact fun member => new (((List.drop_sublist 1 _).map _).subset member)
      rw [Row.push, if_pos full, if_neg (by omega)]
      exact gone.append still value
    · rw [Row.push, if_neg full, if_pos (by omega)]
      exact mirrors.append new value

/-- The cache is tidy, has the given room, and is mirrored by the row. -/
structure Follows (capacity : Nat) (cache : Cache K V) (row : Row K V) : Prop where
  tidy : cache.Tidy
  room : cache.capacity = capacity
  mirrors : cache.Mirrors row

/-- One step is answered as the row answers it, and leads to a cache that follows the row. -/
theorem Follows.step {capacity : Nat} (follows : Follows capacity cache row) (next : Step K V) :
    (cache.step next).1 = (row.step next).1 ∧
      Follows capacity (cache.step next).2 (row.step next).2 := by
  obtain ⟨tidy, room, mirrors⟩ := follows
  -- Putting in and searching change the order; the other two steps do not.
  cases next with
  | insert key value =>
    obtain ⟨kept, same, _⟩ := insert_spec tidy key value
    exact ⟨rfl, kept, same.trans room, mirrors.insert tidy key value⟩
  | find key =>
    obtain ⟨found, after⟩ := mirrors.find tidy key
    obtain ⟨_, _, same⟩ := find_spec cache key
    exact ⟨congrArg Answer.value found, tidy_find tidy key, same.trans room, after⟩
  | size => exact ⟨congrArg Answer.count (mirrors.length_pairs tidy).symm, tidy, room, mirrors⟩
  | clear => exact ⟨rfl, tidy_empty _, room, mirrors.clear⟩

end Steps

/--
Whatever is done with a cache, it answers as a row of pairs that gives up the one untouched for longest.

The row never has more pairs than there is room for. The order of the keys has no repeat, and holds just the
keys that have entries.
-/
theorem answersOf_eq_row [LawfulBEq K] (capacity : Nat) (steps : List (Step K V)) :
    let (answers, cache) := answersOf step (empty capacity) steps
    let (expected, row) := answersOf Row.step ⟨capacity, []⟩ steps
    answers = expected ∧ row.pairs.length ≤ capacity ∧
      cache.order.Nodup ∧ ∀ key, key ∈ cache.order ↔ key ∈ cache.entries := by
  have start : Follows capacity (empty capacity : Cache K V) ⟨capacity, []⟩ :=
    ⟨tidy_empty capacity, rfl, mirrors_empty capacity⟩
  have simulates (cache : Cache K V) (row : Row K V) (next : Step K V) :
      Follows capacity cache row → (cache.step next).1 = (row.step next).1 ∧
        Follows capacity (cache.step next).2 (row.step next).2 := fun follows => follows.step next
  -- The cache follows the row from the start on, and so it does after the last step.
  obtain ⟨answers, tidy, room, mirrors⟩ := answersOf_simulates simulates start steps
  refine ⟨answers, ?_, tidy.nodup, tidy.mem_order⟩
  rw [mirrors.length_pairs tidy]
  exact Nat.le_trans tidy.bounded (Nat.le_of_eq room)

/-- Of two keys the one that was looked for stays when a third one comes. -/
theorem answersOf_eq_row_three :
    (answersOf step (empty 2) [.insert "a" 1, .insert "b" 2, .find "a", .insert "c" 3, .find "b",
      .find "a", .size]).1 =
      [.nothing, .nothing, .value (some 1), .nothing, .value none, .value (some 1), .count 2] := by
  -- The third key is put in when two are kept, and the one that was asked for last stays.
  rw [(answersOf_eq_row 2 _).1]
  decide

end Cache

end AdFilter
