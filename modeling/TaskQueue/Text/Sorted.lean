/-!
Finite sets of strings as strictly increasing lists. The order of strings is that of their scalar
values, which is also that of their UTF-8 bytes.
-/

namespace TaskQueue

/-- A set of strings. -/
structure StringSet where
  toList : List String
  sorted : toList.Pairwise (· < ·)
  deriving DecidableEq

namespace StringSet

/-- A string put into its place in an increasing list. -/
def place (s : String) : List String → List String
  | [] => [s]
  | t :: rest => if s < t then s :: t :: rest else if s = t then t :: rest else t :: place s rest

theorem mem_place {s t : String} {ts : List String} : t ∈ place s ts ↔ t = s ∨ t ∈ ts := by
  induction ts with
  | nil => simp [place]
  | cons head tail ih =>
    unfold place
    split
    · simp
    · split
      · rename_i equal
        subst equal
        simp
      · simp only [List.mem_cons, ih]
        exact or_left_comm

theorem place_sorted {s : String} {ts : List String} (h : ts.Pairwise (· < ·)) :
    (place s ts).Pairwise (· < ·) := by
  induction ts with
  | nil => simp [place]
  | cons head tail ih =>
    rw [List.pairwise_cons] at h
    unfold place
    split
    · rename_i less
      refine List.pairwise_cons.2 ⟨?_, List.pairwise_cons.2 h⟩
      intro t member
      rcases List.mem_cons.1 member with rfl | inTail
      · exact less
      · exact String.lt_trans less (h.1 t inTail)
    · split
      · exact List.pairwise_cons.2 h
      · rename_i notLess notEqual
        refine List.pairwise_cons.2 ⟨?_, ih h.2⟩
        intro t member
        rcases mem_place.1 member with rfl | inTail
        · exact Std.lt_of_le_of_ne (String.not_lt.1 notLess) (Ne.symm notEqual)
        · exact h.1 t inTail

/-- The set without elements. -/
def empty : StringSet :=
  ⟨[], .nil⟩

instance : Inhabited StringSet := ⟨empty⟩

/-- The set with one more element. -/
def insert (s : String) (set : StringSet) : StringSet :=
  ⟨place s set.toList, place_sorted set.sorted⟩

/-- The set of the elements of a list. -/
def ofList (strings : List String) : StringSet :=
  strings.foldl (fun set s => set.insert s) empty

/-- Whether a string is an element. -/
def contains (set : StringSet) (s : String) : Bool :=
  decide (s ∈ set.toList)

end StringSet

end TaskQueue
