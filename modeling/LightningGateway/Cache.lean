import LightningGateway.Dialogue

/-!
# Bounded caches

A cache is a list of entries, the most recently used one first. It drops the least
recently used entry when it is full.

A dialogue that wants the value of a key looks into a cache first. Only if the cache does
not have it, the value is fetched and stored. Looking up and storing are single steps;
others may use the cache during the fetch.
-/

namespace LightningGateway

/-- A cache of bounded size. -/
structure Cache (κ : Type) (ν : Type) where
  capacity : Nat
  /-- The entries, the most recently used one first. -/
  entries : List (κ × ν)
  deriving Repr

namespace Cache

variable {κ ν ε : Type} [DecidableEq κ]

/-- An empty cache; it can hold at least one entry. -/
def empty (capacity : Nat) : Cache κ ν := ⟨max capacity 1, []⟩

def length (cache : Cache κ ν) : Nat := cache.entries.length

/-- The value of a key, without using it. -/
def find? (cache : Cache κ ν) (key : κ) : Option ν := cache.entries.lookup key

def others (key : κ) (entries : List (κ × ν)) : List (κ × ν) :=
  entries.filter fun entry => entry.1 ≠ key

/-- Looks up the value of a key, which makes it the most recently used one. -/
def get (cache : Cache κ ν) (key : κ) : Option ν × Cache κ ν :=
  match cache.find? key with
  | some value => (some value, { cache with entries := (key, value) :: others key cache.entries })
  | none => (none, cache)

/-- Stores a value, which makes its key the most recently used one. -/
def insert (cache : Cache κ ν) (key : κ) (value : ν) : Cache κ ν :=
  { cache with entries := ((key, value) :: others key cache.entries).take cache.capacity }

/-- Looks up the value of a key, or fetches and stores it. A fetch that fails stores nothing. -/
def remember (key : κ) (fetch : Dialogue (Cache κ ν) (Except ε ν)) :
    Dialogue (Cache κ ν) (Except ε ν) := do
  match ← modifyGet fun cache => cache.get key with
  | some value => return .ok value
  | none =>
      match ← fetch with
      | .ok value => do
          modify fun cache => cache.insert key value
          return .ok value
      | .error error => return .error error

end Cache

end LightningGateway
