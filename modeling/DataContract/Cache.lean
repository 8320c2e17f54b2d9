import DataContract.Cache.Key
import DataContract.Generation

/-!
# The unit cache

The cache keeps generated units from one run to the next.  A run marks every entry that it looks up
or inserts.  At its end the entries without a mark are evicted, and the marks of the others are
removed.
-/

namespace DataContract

/-- An entry of a cache: a unit under its key, and whether the present run has used it. -/
structure CacheEntry where
  key : CacheKey
  generated : Generated
  touched : Bool
  deriving DecidableEq, Repr

/-- Generated units under their keys. -/
structure UnitCache where
  entries : List CacheEntry
  deriving DecidableEq, Repr

namespace UnitCache

/-- The cache without entries. -/
def empty : UnitCache := ⟨[]⟩

/-- The number of entries. -/
def size (cache : UnitCache) : Nat := cache.entries.length

/-- Whether there are no entries. -/
def isEmpty (cache : UnitCache) : Bool := cache.entries.isEmpty

/-- The entry under a key. -/
def find? (cache : UnitCache) (key : CacheKey) : Option CacheEntry :=
  cache.entries.find? (·.key == key)

/-- The cache with the entry under a key marked. -/
def touch (cache : UnitCache) (key : CacheKey) : UnitCache :=
  ⟨cache.entries.map fun entry =>
    if entry.key == key then { entry with touched := true } else entry⟩

/-- The unit under a key, and the cache with its entry marked. -/
def get? (cache : UnitCache) (key : CacheKey) : Option Generated × UnitCache :=
  ((cache.find? key).map (·.generated), cache.touch key)

/-- The cache with a unit under a key, in place of one that is there. -/
def insert (cache : UnitCache) (key : CacheKey) (generated : Generated) : UnitCache :=
  ⟨⟨key, generated, true⟩ :: cache.entries.filter (·.key != key)⟩

/-- The cache without the entries that are not marked, and without the marks of the others. -/
def sweep (cache : UnitCache) : UnitCache :=
  ⟨(cache.entries.filter (·.touched)).map fun entry => { entry with touched := false }⟩

/-- The number of entries that sweeping evicts. -/
def stale (cache : UnitCache) : Nat := cache.size - cache.sweep.size

end UnitCache

end DataContract
