import TaskQueue.Proofs.Store.Listings

/-!
# The parts of a store fit together

The index is computed from records that calls replace, and a new record may have another priority,
date of creation and state than the one before. So each write has to find the rank of the old record
in the index. The number of a task is given out once and stays with it.

Results:
1. `grows_answer`: a request gives out numbers from the next one on, and changes none.
2. `Reachable.consistent`: the table, the index and the numbering fit together.
3. `Run.stays_consistent`: so they do in every run, in the committed contents and in what an open
   section has written.
-/

namespace TaskQueue

namespace Contents

variable {c d e : Contents} {id : TaskId} {task : Task}

/-! ## 1. The numbering -/

/-- Tasks keep their numbers, and new ones have numbers from the next one on. -/
structure Grows (c d : Contents) : Prop where
  next : c.nextOrder ≤ d.nextOrder
  numbers : ∀ {id task}, d.tasks.get? id = some task →
    c.nextOrder ≤ task.order ∨ ∃ record, c.tasks.get? id = some record ∧ record.order = task.order

theorem grows_self (c : Contents) : Grows c c :=
  ⟨Nat.le_refl _, fun stored => .inr ⟨_, stored, rfl⟩⟩

theorem Grows.trans (first : Grows c d) (second : Grows d e) : Grows c e := by
  refine ⟨Nat.le_trans first.next second.next, fun stored => ?_⟩
  rcases second.numbers stored with fresh | ⟨record, stored', same⟩
  · exact .inl (Nat.le_trans first.next fresh)
  · rcases first.numbers stored' with fresh | ⟨oldest, stored'', same'⟩
    · exact .inl (same ▸ fresh)
    · exact .inr ⟨oldest, stored'', same'.trans same⟩

theorem grows_take (c : Contents) (id : TaskId) : Grows c (c.take id) := by
  refine ⟨Nat.le_of_eq (nextOrder_take c id).symm, fun stored => ?_⟩
  rw [get?_take] at stored
  split at stored
  · cases stored
  · exact .inr ⟨_, stored, rfl⟩

theorem grows_append (c : Contents) (task : Task) : Grows c (c.append task) := by
  refine ⟨Nat.le_succ c.nextOrder, fun stored => ?_⟩
  simp only [append, get?_put] at stored
  split at stored
  · cases stored
    exact .inl (Nat.le_refl _)
  · exact .inr ⟨_, stored, rfl⟩

/-- A new record of a stored task has the number of the old one. -/
theorem grows_setState {state : TaskState} (written : c.setState task state = .ok d) :
    Grows c d := by
  unfold setState at written
  split at written
  · cases written
  · next stored found =>
    cases written
    refine ⟨Nat.le_of_eq (nextOrder_put c _).symm, fun stored' => ?_⟩
    rw [get?_put] at stored'
    split at stored'
    · next own =>
      cases stored'
      exact .inr ⟨stored, own ▸ found, rfl⟩
    · exact .inr ⟨_, stored', rfl⟩

theorem grows_foldl {α : Type} {change : Contents → α → Contents}
    (each : ∀ c a, Grows c (change c a)) (items : List α) (c : Contents) :
    Grows c (items.foldl change c) := by
  induction items generalizing c with
  | nil => exact grows_self c
  | cons item rest ih => exact (each c item).trans (ih (change c item))

theorem grows_answer (c : Contents) (q : Request) : Grows c (c.answer q).2 := by
  cases q with
  | remove id => exact grows_take c id
  | removeByReference reference => exact grows_foldl grows_take _ c
  | queue batch =>
    simp only [Contents.answer, Contents.queue]
    split
    · next written =>
      split at written
      · cases written
      · cases written
        exact grows_foldl grows_append batch c
    · exact grows_self c
  | setState task state =>
    simp only [Contents.answer]
    split
    · next written => exact grows_setState written
    · exact grows_self c
  | setRateLimit _ _ | setMaxRetries _ _ | addDuration _ _ | setEstimate _ _ =>
    exact ⟨Nat.le_refl _, fun stored => .inr ⟨_, stored, rfl⟩⟩
  | _ => exact grows_self c

/-- Numbers begin with one. -/
structure Positive (c : Contents) : Prop where
  next : 1 ≤ c.nextOrder
  numbers : ∀ {id task}, c.tasks.get? id = some task → 1 ≤ task.order

theorem Positive.grows (positive : c.Positive) (grows : Grows c d) : d.Positive := by
  refine ⟨Nat.le_trans positive.next grows.next, fun stored => ?_⟩
  rcases grows.numbers stored with fresh | ⟨record, stored', same⟩
  · exact Nat.le_trans positive.next fresh
  · exact same ▸ positive.numbers stored'

theorem Reachable.positive (h : c.Reachable) : c.Positive := by
  induction h with
  | empty => exact ⟨Nat.le_refl 1, by simp [Contents.empty]⟩
  | @answer c q _ _ ih => exact ih.grows (grows_answer c q)

/-! ## 2. The representation -/

/-- Each task is stored under its own identifier, the index holds one rank for each stored task, in
order, and nothing else, the numbers of the tasks are different ones of those that were given out,
and no task is pending. -/
structure Consistent (c : Contents) : Prop where
  keyed : ∀ id task, (id, task) ∈ c.tasks.entries → task.id = id
  indexed : c.index.Perm (c.tasks.values.map Rank.of)
  sorted : c.index.Pairwise Rank.Before
  apart : (c.tasks.values.map Task.order).Nodup
  numbered : ∀ task ∈ c.tasks.values, 1 ≤ task.order ∧ task.order < c.nextOrder
  settled : ∀ task ∈ c.tasks.values, task.state ≠ .pending

/-- The index holds the rank of each stored task once. -/
theorem index_perm (h : c.WellFormed) : c.index.Perm (c.tasks.values.map Rank.of) := by
  have once : c.index.Nodup := h.sorted.imp Rank.Before.ne
  have differ : (c.tasks.values.map Rank.of).Nodup := by
    refine List.Nodup.of_map Rank.id ?_
    rw [List.map_map]
    exact values_ids h ▸ c.tasks.distinct
  rw [List.perm_ext_iff_of_nodup once differ]
  intro rank
  rw [h.indexed, List.mem_map]
  constructor
  · rintro ⟨task, stored, own⟩
    exact ⟨task, Table.mem_values_iff.mpr ⟨_, stored⟩, own⟩
  · rintro ⟨task, member, rfl⟩
    obtain ⟨id, stored⟩ := Table.mem_values_iff.mp member
    rw [← h.keyed stored] at stored
    exact ⟨task, stored, rfl⟩

/-- No two stored tasks have the same number. -/
theorem orders_nodup (h : c.WellFormed) (numbered : c.Numbered) :
    (c.tasks.values.map Task.order).Nodup := by
  rw [List.Nodup, List.pairwise_map]
  refine (values_nodup h).imp_of_mem ?_
  intro a b aStored bStored differ same
  obtain ⟨id, stored⟩ := Table.mem_values_iff.mp aStored
  obtain ⟨other, stored'⟩ := Table.mem_values_iff.mp bStored
  obtain rfl := numbered.own stored stored' same
  exact differ (Option.some.inj (stored.symm.trans stored'))

theorem Reachable.consistent (h : c.Reachable) : c.Consistent := by
  have formed := h.wellFormed
  have numbered := h.numbered
  refine ⟨?_, index_perm formed, formed.sorted, orders_nodup formed numbered, ?_, ?_⟩
  · intro id task member
    exact formed.keyed (Table.get?_eq_some_iff.mpr member)
  · intro task member
    obtain ⟨id, stored⟩ := Table.mem_values_iff.mp member
    exact ⟨h.positive.numbers stored, numbered.below stored⟩
  · intro task member
    obtain ⟨id, stored⟩ := Table.mem_values_iff.mp member
    exact formed.settled stored

end Contents

/-! ## 3. Runs -/

namespace Store

variable {s : Store} {h : History} {settings : StoreSettings}

/-- Whatever has happened at a store, the parts of its committed contents fit together, and so do
those of what an open section has written. -/
theorem Run.stays_consistent (run : Run (.new settings) h s) (offered : ∀ x ∈ h, x.IsOffered) :
    s.committed.Consistent ∧
      ∀ id copy, s.opened = some ⟨id, some copy⟩ → copy.Consistent := by
  have reached := run.reached offered
  refine ⟨reached.committed.consistent, fun id copy opened => ?_⟩
  exact (reached.copy opened).consistent

/-- A section starts the second of two tasks, with a record of another priority and date. -/
theorem Run.stays_consistent_rewritten :
    let task (n : Nat) : Task := .new (.ofNat n) 0 "t" .null
    let record : Task := { task 2 with priority := -1, created := 5 }
    ∃ h s copy, Run (.new .inMemory) h s ∧ (∀ x ∈ h, x.IsOffered) ∧
      s.opened = some ⟨0, some copy⟩ ∧ s.committed.Consistent ∧ copy.Consistent ∧
      copy.tasks.get? (.ofNat 2) = some { record with state := .running, order := 2 } ∧
      s.committed.index.map Rank.id = [.ofNat 1, .ofNat 2] ∧
      copy.index.map Rank.id = [.ofNat 2, .ofNat 1] := by
  intro task record
  let queue : Request := .queue [task 1, task 2]
  let start : Request := .setState record .running
  obtain ⟨h, queued, offered⟩ := Run.nil.request (fun _ => nofun) queue trivial
  let first := ((Store.new .inMemory).request none queue).2
  let second := first.begin.2
  let third := (second.request (some 0) start).2
  have begins : Step first (.begin first.begin.1) second := .begin rfl
  have starts : Step second (.inside 0 start (second.request (some 0) start).1) third :=
    .inside rfl rfl
  have started := (queued.snoc begins).snoc starts
  have all := offered_snoc (offered_snoc offered (x := .begin first.begin.1) trivial)
    (x := .inside 0 start (second.request (some 0) start).1) nofun
  have consistent := Run.stays_consistent started all
  let copy := (third.opened.bind Section.copy).get (by decide +kernel)
  have opened : third.opened = some ⟨0, some copy⟩ := rfl
  exact ⟨_, third, copy, started, all, opened, consistent.1, consistent.2 0 copy opened, rfl,
    by decide +kernel, by decide +kernel⟩

end Store

end TaskQueue
