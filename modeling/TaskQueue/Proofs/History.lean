import Mathlib.Data.List.Induction

/-!
# Histories

A history is a list of what has happened so far, the latest last.

Results:
1. `snoc_eq_append_cons`: a place in a history that goes on by one entry. `append_cons_cases`: two
   places in one list.
2. `since_snoc`: what has held since something happened, when a history goes on.
-/

namespace TaskQueue

variable {α : Type} {h past later : List α} {x y : α}

/-- A place in a history is its last entry, or a place in what came before. -/
theorem snoc_eq_append_cons : h ++ [x] = past ++ y :: later ↔
    h = past ∧ x = y ∧ later = [] ∨ ∃ front, later = front ++ [x] ∧ h = past ++ y :: front := by
  constructor
  · intro split
    rcases List.eq_nil_or_concat later with rfl | ⟨front, z, rfl⟩
    · obtain ⟨rfl, same⟩ := List.append_inj' split rfl
      exact .inl ⟨rfl, by simpa using same, rfl⟩
    · rw [List.concat_eq_append, ← List.cons_append, ← List.append_assoc] at split
      obtain ⟨rfl, same⟩ := List.append_inj' split rfl
      obtain rfl : x = z := by simpa using same
      exact .inr ⟨front, List.concat_eq_append, rfl⟩
  · rintro (⟨rfl, rfl, rfl⟩ | ⟨front, rfl, rfl⟩)
    · rfl
    · simp

/-- Two places in one list are the same, or one stands in front of the other. -/
theorem append_cons_cases {front back ahead behind : List α} {a b : α}
    (same : front ++ a :: back = ahead ++ b :: behind) :
    (front = ahead ∧ a = b ∧ back = behind) ∨
      (∃ between, front = ahead ++ b :: between ∧ behind = between ++ a :: back) ∨
        ∃ between, ahead = front ++ a :: between ∧ back = between ++ b :: behind := by
  rcases List.append_eq_append_iff.mp same with ⟨between, rfl, rest⟩ | ⟨between, rfl, rest⟩
  · rcases List.cons_eq_append_iff.mp rest with ⟨rfl, rest⟩ | ⟨between, rfl, rfl⟩
    · obtain ⟨rfl, rfl⟩ := List.cons.inj rest
      exact .inl ⟨(List.append_nil front).symm, rfl, rfl⟩
    · exact .inr (.inr ⟨between, rfl, rfl⟩)
  · rcases List.cons_eq_append_iff.mp rest with ⟨rfl, rest⟩ | ⟨between, rfl, rfl⟩
    · obtain ⟨rfl, rfl⟩ := List.cons.inj rest
      exact .inl ⟨List.append_nil ahead, rfl, rfl⟩
    · exact .inr (.inl ⟨between, rfl, rfl⟩)

/-- Something of the kind `p` has happened, and only things of the kind `q` since. -/
def Since (h : List α) (p q : α → Prop) : Prop :=
  ∃ past x later, h = past ++ x :: later ∧ p x ∧ ∀ y ∈ later, q y

variable {p q : α → Prop}

theorem since_nil : ¬ Since [] p q := by
  rintro ⟨past, x, later, split, -⟩
  simp at split

theorem since_snoc : Since (h ++ [x]) p q ↔ p x ∨ Since h p q ∧ q x := by
  constructor
  · rintro ⟨past, y, later, split, happened, since⟩
    rcases snoc_eq_append_cons.mp split with ⟨-, rfl, -⟩ | ⟨front, rfl, rfl⟩
    · exact .inl happened
    · have earlier := fun z member => since z (List.mem_append_left [x] member)
      exact .inr ⟨⟨past, y, front, rfl, happened, earlier⟩, since x (by simp)⟩
  · rintro (happened | ⟨⟨past, y, later, rfl, happened, since⟩, now⟩)
    · exact ⟨h, x, [], rfl, happened, nofun⟩
    · refine ⟨past, y, later ++ [x], by simp, happened, fun z member => ?_⟩
      rcases List.mem_append.mp member with earlier | last
      · exact since z earlier
      · obtain rfl := List.mem_singleton.mp last
        exact now

/-- Nothing of a kind has happened since something that is not to happen after it. -/
theorem not_since (broken : ¬ q x) (never : ∀ y ∈ x :: later, ¬ p y) :
    ¬ Since (past ++ x :: later) p q := by
  induction later using List.reverseRecOn with
  | nil =>
    rw [since_snoc]
    rintro (happened | ⟨-, goesOn⟩)
    · exact never x List.mem_cons_self happened
    · exact broken goesOn
  | append_singleton later y ih =>
    rw [← List.cons_append, ← List.append_assoc, since_snoc]
    rintro (happened | ⟨since, -⟩)
    · exact never y (by simp) happened
    · exact ih (fun z member => never z (List.mem_append_left [y] member)) since

end TaskQueue
