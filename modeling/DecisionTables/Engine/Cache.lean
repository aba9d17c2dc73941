/-!
# Cache of decisions

A bounded store of compiled decisions under the checksum of their model and their id. Finding or
storing a decision makes its key the most recent one; when the store grows beyond its capacity the
least recent key gives way. Storing under a key that is present keeps what is there.
-/

namespace DecisionTables

/-- The checksum of a model and the id of one of its decisions. -/
structure CacheKey where
  checksum : String
  decisionId : String
  deriving DecidableEq

/-- A store of at most `capacity` items, the least recently touched first. -/
structure Cache (α : Type) where
  capacity : Nat
  positive : 0 < capacity
  entries : List (CacheKey × α)
  hits : Nat
  misses : Nat

/-- A capacity that no store can have. -/
structure CapacityError where
  capacity : Int

def CapacityError.message (error : CapacityError) : String :=
  "Cache capacity must be at least 1, got " ++ toString error.capacity

namespace Cache

variable {α : Type}

def empty (capacity : Nat) (positive : 0 < capacity) : Cache α :=
  ⟨capacity, positive, [], 0, 0⟩

/-- An empty store of a capacity that is to be checked. -/
def ofCapacity (capacity : Int) : Except CapacityError (Cache α) :=
  if positive : 0 < capacity.toNat then .ok (empty capacity.toNat positive)
  else .error ⟨capacity⟩

def size (cache : Cache α) : Nat := cache.entries.length

def get? (cache : Cache α) (key : CacheKey) : Option α :=
  (cache.entries.find? fun entry => entry.1 = key).map Prod.snd

/-- The entries with a key made the most recent one. -/
def touch (key : CacheKey) (item : α) (entries : List (CacheKey × α)) : List (CacheKey × α) :=
  (entries.filter fun entry => entry.1 ≠ key) ++ [(key, item)]

def lookup (cache : Cache α) (key : CacheKey) : Option α × Cache α :=
  match cache.get? key with
  | none => (none, { cache with misses := cache.misses + 1 })
  | some item =>
      (some item,
        { cache with entries := touch key item cache.entries, hits := cache.hits + 1 })

/-- Store an item and give the one that is now under the key. -/
def store (cache : Cache α) (key : CacheKey) (item : α) : α × Cache α :=
  match cache.get? key with
  | some present => (present, { cache with entries := touch key present cache.entries })
  | none =>
      let entries := cache.entries ++ [(key, item)]
      (item, { cache with entries := entries.drop (entries.length - cache.capacity) })

/-- Remove all items and give their number. -/
def clear (cache : Cache α) : Nat × Cache α :=
  (cache.size, { cache with entries := [] })

end Cache

end DecisionTables
