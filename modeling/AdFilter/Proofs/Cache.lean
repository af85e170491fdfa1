import AdFilter.Cache

/-! A cache keeps its bound, and what holds of all values put into it holds of those it gives back. -/

namespace AdFilter.Cache

section Row

variable {K : Type} [BEq K] [LawfulBEq K]

/-- Touching a key moves it at most, so the row keeps its members. -/
theorem mem_touched {order : List K} {key other : K} :
    other ∈ touched order key ↔ other ∈ order := by
  -- The key is taken out and put at the end, so the row is the same up to order.
  unfold touched
  split
  · rename_i present
    have member : key ∈ order := by simpa using present
    rw [List.perm_append_comm.mem_iff]
    exact (List.perm_cons_erase member).symm.mem_iff
  · rfl

/-- Touching a key leaves the row as long as it was. -/
theorem length_touched (order : List K) (key : K) : (touched order key).length = order.length := by
  -- Taking the key out makes the row shorter by one, and putting it back makes up for that.
  unfold touched
  split
  · rename_i present
    have member : key ∈ order := by simpa using present
    have filled := List.length_pos_of_mem member
    rw [List.length_append, List.length_erase_of_mem member, List.length_singleton]
    omega
  · rfl

/-- Touching a key brings no repeat into the row. -/
theorem nodup_touched {order : List K} (nodup : order.Nodup) (key : K) :
    (touched order key).Nodup := by
  -- Once it is taken out, the key stands nowhere else in the row.
  unfold touched
  split
  · have gone : key ∉ order.erase key := List.Nodup.not_mem_erase nodup
    rw [List.perm_append_comm.nodup_iff]
    exact List.nodup_cons.mpr ⟨gone, nodup.erase key⟩
  · exact nodup

end Row

variable {K V : Type} [BEq K] [Hashable K]

/-- The row of keys is that of the entries, and there are no more of them than the cache has room for. -/
structure Tidy (cache : Cache K V) : Prop where
  nodup : cache.order.Nodup
  mem_order : ∀ key, key ∈ cache.order ↔ key ∈ cache.entries
  length_order : cache.order.length = cache.entries.size
  bounded : cache.size ≤ cache.capacity

/-- Every value is what a function says of its key. -/
def Remembers (f : K → V) (cache : Cache K V) : Prop :=
  ∀ (key : K) (value : V), cache.entries[key]? = some value → value = f key

/-- A new cache is tidy. -/
theorem tidy_empty (capacity : Nat) : (empty capacity : Cache K V).Tidy where
  nodup := List.nodup_nil
  -- Nothing is kept, and nothing stands in the order.
  mem_order := by simp [empty]
  length_order := by simp [empty]
  bounded := by simp [empty, size]

/-- A new cache remembers nothing that could be wrong. -/
theorem remembers_empty (f : K → V) (capacity : Nat) : (empty capacity).Remembers f := by
  simp [Remembers, empty]

/-- A search yields the entry of the key and changes the order of the keys alone. -/
theorem find_spec (cache : Cache K V) (key : K) :
    (cache.find key).1 = cache.entries[key]? ∧ (cache.find key).2.entries = cache.entries ∧
      (cache.find key).2.capacity = cache.capacity := by
  unfold find
  -- A hit moves the key in the order and changes nothing else.
  cases found : cache.entries[key]? <;> simp

variable [LawfulBEq K]

/-- A search leaves a cache tidy. -/
theorem tidy_find {cache : Cache K V} (tidy : cache.Tidy) (key : K) : (cache.find key).2.Tidy := by
  -- Only the order of the keys may change, and touching keeps what is asked of it.
  unfold find
  split
  · exact ⟨nodup_touched tidy.nodup key, fun other => mem_touched.trans (tidy.mem_order other),
      (length_touched ..).trans tidy.length_order, tidy.bounded⟩
  · exact tidy

/-- A tidy cache that is not empty makes room for one entry by giving up one key. -/
theorem evict_spec {cache : Cache K V} (tidy : cache.Tidy) (filled : 0 < cache.size) :
    cache.evict.Tidy ∧ cache.evict.size + 1 = cache.size ∧
      cache.evict.capacity = cache.capacity ∧
      ∀ (key : K) (value : V),
        cache.evict.entries[key]? = some value → cache.entries[key]? = some value := by
  unfold evict
  cases row : cache.order with
  | nil =>
    -- A cache with entries has keys in its row, so this case is void.
    have none := tidy.length_order
    simp only [row, List.length_nil] at none
    simp only [size] at filled
    omega
  | cons oldest order =>
    -- The oldest key has an entry, so erasing it makes the store smaller by one.
    have unique := tidy.nodup
    have members := tidy.mem_order
    have long := tidy.length_order
    have room := tidy.bounded
    rw [row] at unique members long
    obtain ⟨fresh, unique⟩ := List.nodup_cons.mp unique
    have stored : oldest ∈ cache.entries := (members oldest).mp (by simp)
    simp only [List.length_cons] at long
    have shrunk : (cache.entries.erase oldest).size + 1 = cache.entries.size := by
      rw [Std.HashMap.size_erase, if_pos stored]
      omega
    simp only [size] at room ⊢
    -- The row behind the oldest key is that of the entries that are left.
    refine ⟨⟨unique, fun key => ?_, by simp only; omega, by simp only [size]; omega⟩, shrunk,
      trivial, ?_⟩
    · -- The oldest key is the one that leaves both, since it stands only once in the row.
      have before := members key
      simp only [List.mem_cons] at before
      simp only [Std.HashMap.mem_erase, beq_eq_false_iff_ne, ← before]
      grind
    · -- What is found after erasing was there before.
      intro key value found
      rw [Std.HashMap.getElem?_erase] at found
      split at found
      · cases found
      · exact found

/-- A value put in leaves a cache tidy, and is the only entry that is new. -/
theorem insert_spec {cache : Cache K V} (tidy : cache.Tidy) (key : K) (value : V) :
    (cache.insert key value).Tidy ∧ (cache.insert key value).capacity = cache.capacity ∧
      ∀ (other : K) (stored : V), (cache.insert key value).entries[other]? = some stored →
        cache.entries[other]? = some stored ∨ other = key ∧ stored = value := by
  -- Whatever is stored afterwards was stored before or is the new value.
  have added {entries : Std.HashMap K V} {other : K} {stored : V}
      (found : (entries.insert key value)[other]? = some stored) :
      entries[other]? = some stored ∨ other = key ∧ stored = value := by
    rw [Std.HashMap.getElem?_insert] at found
    split at found
    · rename_i same
      exact Or.inr ⟨(by simpa using same : key = other).symm, by simpa using found.symm⟩
    · exact Or.inl found
  unfold insert
  split
  · -- A cache without room stays as it is.
    exact ⟨tidy, rfl, fun other stored found => Or.inl found⟩
  · rename_i positive
    split
    · -- The key has an entry, which is written over.
      rename_i present
      have stored : key ∈ cache.entries := by simpa using present
      have size : (cache.entries.insert key value).size = cache.entries.size := by
        rw [Std.HashMap.size_insert, if_pos stored]
      refine ⟨⟨nodup_touched tidy.nodup key, fun other => ?_, ?_, ?_⟩, rfl, fun _ _ => added⟩
      · rw [mem_touched, tidy.mem_order, Std.HashMap.mem_insert]
        grind
      · rw [length_touched, tidy.length_order, size]
      · simpa only [Cache.size, size] using tidy.bounded
    · -- The key is new; where the cache is full, one entry has gone before it comes.
      rename_i absent
      have room : ∃ roomy : Cache K V,
          (if cache.capacity ≤ cache.size then cache.evict else cache) = roomy ∧ roomy.Tidy ∧
          roomy.size < cache.capacity ∧ roomy.capacity = cache.capacity ∧
          ∀ (other : K) (stored : V), roomy.entries[other]? = some stored →
            cache.entries[other]? = some stored := by
        split
        · rename_i full
          obtain ⟨kept, smaller, same, inside⟩ := evict_spec tidy (by omega)
          have bounded := tidy.bounded
          -- A full cache has something to give up, since it has room for one entry at least.
          exact ⟨_, rfl, kept, by omega, same, inside⟩
        · exact ⟨_, rfl, tidy, by omega, rfl, fun _ _ found => found⟩
      obtain ⟨roomy, same, kept, free, capacity, inside⟩ := room
      simp only [same]
      -- Making room puts nothing in, so the key is still absent.
      have new : key ∉ roomy.entries := by
        intro member
        obtain ⟨stored, found⟩ := Option.isSome_iff_exists.mp
          (Std.HashMap.isSome_getElem?_iff_mem.mpr member)
        have present := Option.isSome_iff_exists.mpr ⟨stored, inside key stored found⟩
        rw [Std.HashMap.isSome_getElem?_iff_mem] at present
        simp [present] at absent
      have size : (roomy.entries.insert key value).size = roomy.entries.size + 1 := by
        rw [Std.HashMap.size_insert, if_neg new]
      refine ⟨⟨?_, fun other => ?_, ?_, ?_⟩, capacity, fun other stored found => ?_⟩
      · -- The key goes to the end of a row that it did not stand in.
        have apart : key ∉ roomy.order := fun member => new ((kept.mem_order key).mp member)
        rw [List.perm_append_comm.nodup_iff]
        exact List.nodup_cons.mpr ⟨apart, kept.nodup⟩
      · rw [List.mem_append, kept.mem_order, Std.HashMap.mem_insert, List.mem_singleton]
        grind
      · rw [List.length_append, kept.length_order, size, List.length_singleton]
      · simp only [Cache.size] at free ⊢
        omega
      · exact (added found).imp (inside other stored) id

/-- A cache still remembers what a function says once it says it of one more key. -/
theorem remembers_insert {f : K → V} {cache : Cache K V} (tidy : cache.Tidy)
    (faithful : cache.Remembers f) (key : K) : (cache.insert key (f key)).Remembers f := by
  -- Only the entry of the key is new, and it says what the function says.
  intro other value found
  rcases (insert_spec tidy key (f key)).2.2 other value found with before | ⟨rfl, rfl⟩
  · exact faithful other value before
  · rfl

end AdFilter.Cache
