import Std.Data.HashMap

/-! A bounded store of answers that gives up the key which has not been touched for longest. -/

namespace AdFilter

/-- At most `capacity` entries, with their keys in the order in which they were last touched. -/
structure Cache (K V : Type) [BEq K] [Hashable K] where
  capacity : Nat
  entries : Std.HashMap K V
  /-- The keys, the one touched last at the end. -/
  order : List K

namespace Cache

variable {K V : Type} [BEq K] [Hashable K]

/-- A cache with nothing in it. -/
def empty (capacity : Nat) : Cache K V := ⟨capacity, ∅, []⟩

/-- The number of entries. -/
def size (cache : Cache K V) : Nat := cache.entries.size

/-- The keys with one of them, if it is there, moved to the end. -/
def touched (order : List K) (key : K) : List K :=
  -- A key that is not in the row is not put into it.
  if order.contains key then order.erase key ++ [key] else order

/-- The value of a key, which counts as touching it. -/
def find (cache : Cache K V) (key : K) : Option V × Cache K V :=
  match cache.entries[key]? with
  | some value => (some value, { cache with order := touched cache.order key })
  -- A key without an entry is not touched.
  | none => (none, cache)

/-- The cache without the key that was touched first. -/
def evict (cache : Cache K V) : Cache K V :=
  match cache.order with
  | [] => cache
  -- The row begins with the key that has waited longest.
  | oldest :: order => { cache with entries := cache.entries.erase oldest, order }

/-- The cache with a value for a key; a full cache makes room first, one of capacity zero stays empty. -/
def insert (cache : Cache K V) (key : K) (value : V) : Cache K V :=
  if cache.capacity = 0 then cache
  -- A key that is there already takes no more room.
  else if cache.entries.contains key then
    { cache with entries := cache.entries.insert key value, order := touched cache.order key }
  else
    let roomy := if cache.capacity ≤ cache.size then cache.evict else cache
    { roomy with entries := roomy.entries.insert key value, order := roomy.order ++ [key] }

/-- The cache with all entries dropped. -/
def clear (cache : Cache K V) : Cache K V := empty cache.capacity

end Cache

end AdFilter
