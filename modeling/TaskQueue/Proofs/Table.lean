import Mathlib.Data.List.Count
import Mathlib.Data.List.Nodup
import TaskQueue.Table

/-!
# Tables as functions

A table is a function from keys to optional values (`get?`). The lemmas say what each operation does
to that function, and how the number of values with a property changes with it.
-/

namespace TaskQueue.Table

variable {κ α : Type} [DecidableEq κ]

/-! ## Looking a key up -/

@[simp] theorem get?_empty (key : κ) : (empty : Table κ α).get? key = none := rfl

theorem get?_eq_some_iff {table : Table κ α} {key : κ} {value : α} :
    table.get? key = some value ↔ (key, value) ∈ table.entries := by
  obtain ⟨entries, distinct⟩ := table
  induction entries with
  | nil => simp [get?]
  | cons entry rest ih =>
    obtain ⟨head, stored⟩ := entry
    simp only [List.map_cons, List.nodup_cons] at distinct
    have hrest := ih distinct.2
    simp only [get?] at hrest ⊢
    rw [List.lookup_cons]
    by_cases same : key = head
    · subst same
      have absent : ∀ v, (key, v) ∉ rest := by
        intro v member
        exact distinct.1 (List.mem_map.mpr ⟨(key, v), member, rfl⟩)
      simp [absent, eq_comm]
    · have different : (key == head) = false := by simpa using same
      simp [different, same, hrest]

theorem get?_eq_none_iff {table : Table κ α} {key : κ} :
    table.get? key = none ↔ key ∉ table.keys := by
  rw [Option.eq_none_iff_forall_ne_some]
  simp [get?_eq_some_iff, keys]

@[simp] theorem get?_erase (table : Table κ α) (key other : κ) :
    (table.erase key).get? other = if other = key then none else table.get? other := by
  apply Option.ext
  intro value
  split
  · next same => simp [get?_eq_some_iff, erase, same]
  · next differs => simp [get?_eq_some_iff, erase, differs]

@[simp] theorem get?_insert (table : Table κ α) (key other : κ) (value : α) :
    (table.insert key value).get? other = if other = key then some value else table.get? other := by
  have tail := get?_erase table key other
  simp only [get?, insert] at tail ⊢
  rw [List.lookup_cons]
  by_cases same : other = key
  · simp [same]
  · have different : (other == key) = false := by simpa using same
    simpa [different, same] using tail

theorem contains_eq_true_iff {table : Table κ α} {key : κ} :
    table.contains key = true ↔ ∃ value, table.get? key = some value :=
  Option.isSome_iff_exists

theorem mem_values_iff {table : Table κ α} {value : α} :
    value ∈ table.values ↔ ∃ key, table.get? key = some value := by
  simp [values, get?_eq_some_iff]

/-! ## Counting values -/

theorem erase_of_get?_eq_none {table : Table κ α} {key : κ} (absent : table.get? key = none) :
    table.erase key = table := by
  have keeps : table.entries.filter (·.1 ≠ key) = table.entries := by
    rw [List.filter_eq_self]
    intro entry member
    have notKey := get?_eq_none_iff.mp absent
    simp only [keys, List.mem_map, not_exists, not_and] at notKey
    simpa using notKey entry member
  cases table
  simp only [erase, mk.injEq]
  exact keeps

/-- Without a key that has a value there is one value less. -/
theorem countP_erase {table : Table κ α} {key : κ} {value : α} (p : α → Bool)
    (stored : table.get? key = some value) :
    table.values.countP p = (table.erase key).values.countP p + if p value then 1 else 0 := by
  obtain ⟨entries, distinct⟩ := table
  rw [get?_eq_some_iff] at stored
  obtain ⟨front, back, rfl⟩ := List.append_of_mem stored
  have split : (front ++ (key, value) :: back).filter (·.1 ≠ key) = front ++ back := by
    simp only [List.map_append, List.map_cons, List.nodup_append, List.nodup_cons] at distinct
    rw [List.filter_append, List.filter_cons_of_neg (by simp)]
    congr 1
    · rw [List.filter_eq_self]
      intro entry member
      simpa using distinct.2.2 entry.1 (List.mem_map_of_mem member) key List.mem_cons_self
    · rw [List.filter_eq_self]
      intro entry member
      have other : key ∉ back.map (·.1) := distinct.2.1.1
      simp only [decide_eq_true_eq]
      rintro rfl
      exact other (List.mem_map_of_mem member)
  simp only [values, erase, split]
  simp only [List.map_append, List.map_cons, List.countP_append, List.countP_cons]
  omega

theorem size_erase {table : Table κ α} {key : κ} {value : α}
    (stored : table.get? key = some value) : table.size = (table.erase key).size + 1 := by
  have counted := countP_erase (fun _ => true) stored
  simpa [values, size] using counted

@[simp] theorem countP_insert (table : Table κ α) (key : κ) (value : α) (p : α → Bool) :
    (table.insert key value).values.countP p =
      (table.erase key).values.countP p + if p value then 1 else 0 := by
  simp only [values, insert, List.map_cons, List.countP_cons]

end TaskQueue.Table
