import Mathlib.Logic.Basic
import Mathlib.Tactic.Common

/-!
# Keyed storage

`StorageMap K V` is a keyed store in which a key either has an entry or has none. `get` is the
query that reports a missing entry, `getD` the one that reads a default in its place, and
`iterKeys` lists the keys that have an entry, given an enumeration of the key type. Two maps are
equal when they answer every query alike.
-/

/-- A keyed store. A key without an entry is looked up as `none`. -/
@[ext] structure StorageMap (K V : Type) where
  get : K → Option V

namespace StorageMap

variable {K V : Type}

/-- The store with no entries. -/
def empty : StorageMap K V := ⟨fun _ => none⟩

/-- The value at a key, or a default when the key has no entry. -/
def getD (map : StorageMap K V) (key : K) (default : V) : V :=
  (map.get key).getD default

/-- Whether a key has an entry. -/
def containsKey (map : StorageMap K V) (key : K) : Bool :=
  (map.get key).isSome

/-- The keys that have an entry, in the order of the enumeration `all`. -/
def iterKeys (all : List K) (map : StorageMap K V) : List K :=
  all.filter map.containsKey

@[simp] theorem get_empty (key : K) : (empty : StorageMap K V).get key = none := rfl

@[simp] theorem getD_empty (key : K) (default : V) :
    (empty : StorageMap K V).getD key default = default := rfl

/-- A key is listed exactly when it has an entry, provided the enumeration is complete. -/
theorem mem_iterKeys {all : List K} (hall : ∀ key, key ∈ all) (map : StorageMap K V) (key : K) :
    key ∈ map.iterKeys all ↔ (map.get key).isSome = true := by
  simp [iterKeys, containsKey, hall key]

variable [DecidableEq K]

/-- Write an entry, replacing the one that was there. -/
def insert (map : StorageMap K V) (key : K) (value : V) : StorageMap K V :=
  ⟨fun other => if other = key then some value else map.get other⟩

/-- Delete an entry. -/
def remove (map : StorageMap K V) (key : K) : StorageMap K V :=
  ⟨fun other => if other = key then none else map.get other⟩

@[simp] theorem get_insert (map : StorageMap K V) (key other : K) (value : V) :
    (map.insert key value).get other = if other = key then some value else map.get other := rfl

@[simp] theorem get_remove (map : StorageMap K V) (key other : K) :
    (map.remove key).get other = if other = key then none else map.get other := rfl

@[simp] theorem getD_insert (map : StorageMap K V) (key other : K) (value default : V) :
    (map.insert key value).getD other default =
      if other = key then value else map.getD other default := by
  unfold getD
  rw [get_insert]
  split <;> rfl

/-- Writing a list of keys with one value leaves every other key alone. -/
theorem get_foldl_insert (keys : List K) (value : V) (map : StorageMap K V) (key : K) :
    (keys.foldl (fun current listed => current.insert listed value) map).get key =
      if key ∈ keys then some value else map.get key := by
  induction keys generalizing map with
  | nil => simp
  | cons head rest ih =>
      rw [List.foldl_cons, ih]
      by_cases hrest : key ∈ rest
      · simp [hrest]
      · by_cases hhead : key = head <;> simp [hrest, hhead]

/-- The second of two writes to a key replaces the first. -/
theorem insert_insert (map : StorageMap K V) (key : K) (value other : V) :
    (map.insert key value).insert key other = map.insert key other := by
  ext1
  funext listed
  simp only [get_insert]
  by_cases hlisted : listed = key <;> simp [hlisted]

/-- Writes to two different keys commute. -/
theorem insert_comm (map : StorageMap K V) {first second : K} (value other : V)
    (h : first ≠ second) :
    (map.insert first value).insert second other =
      (map.insert second other).insert first value := by
  ext1
  funext key
  simp only [get_insert]
  by_cases hfirst : key = first
  · simp [hfirst, h]
  · simp [hfirst]

end StorageMap
