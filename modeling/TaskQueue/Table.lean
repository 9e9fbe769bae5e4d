/-!
Finite maps as lists of entries with different keys. The order of the entries means nothing.
-/

namespace TaskQueue

/-- A finite map. -/
structure Table (κ α : Type) where
  entries : List (κ × α)
  distinct : (entries.map (·.1)).Nodup

namespace Table

variable {κ α : Type} [DecidableEq κ]

/-- The map without entries. -/
def empty : Table κ α :=
  ⟨[], .nil⟩

instance : Inhabited (Table κ α) := ⟨empty⟩

/-- The value of a key. -/
def get? (table : Table κ α) (key : κ) : Option α :=
  table.entries.lookup key

/-- Whether a key has a value. -/
def contains (table : Table κ α) (key : κ) : Bool :=
  (table.get? key).isSome

/-- The map without a key. -/
def erase (table : Table κ α) (key : κ) : Table κ α :=
  ⟨table.entries.filter (·.1 ≠ key),
    table.distinct.sublist (List.filter_sublist.map _)⟩

/-- The map in which a key has a new value. -/
def insert (table : Table κ α) (key : κ) (value : α) : Table κ α :=
  ⟨(key, value) :: (table.erase key).entries, by
    refine List.nodup_cons.2 ⟨?_, (table.erase key).distinct⟩
    simp [erase]⟩

/-- The keys. -/
def keys (table : Table κ α) : List κ :=
  table.entries.map (·.1)

/-- The values. -/
def values (table : Table κ α) : List α :=
  table.entries.map (·.2)

/-- The number of keys. -/
def size (table : Table κ α) : Nat :=
  table.entries.length

/-- Whether there is no key. -/
def isEmpty (table : Table κ α) : Bool :=
  table.entries.isEmpty

end Table

end TaskQueue
