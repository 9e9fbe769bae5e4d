import TaskQueue.Proofs.Table
import TaskQueue.Store.Program

/-!
# The index agrees with the tasks

`Contents.WellFormed`: every task is stored under its own identifier, the index holds exactly the
ranks of the stored tasks in increasing order, and no stored task is `pending`.

Results:
1. `Rank.compare` is a linear order, and `Rank.place` keeps a list of ranks increasing.
2. `wellFormed_answer`: every request keeps contents well-formed; so do any number of them
   (`Reachable.wellFormed`).
3. `mem_list`, `list_sorted`, `list_perm`: a listing shows exactly the tasks that belong to it, each
   once, by rank.
-/

namespace TaskQueue

/-! ## 1. The order of ranks -/

/-- Only pending and queued share a bucket. -/
theorem TaskState.eq_of_bucket {a b : TaskState} (first : a ≠ .pending) (second : b ≠ .pending)
    (same : a.bucket = b.bucket) : a = b := by
  cases a <;> cases b <;> simp_all [bucket]

namespace Rank

instance : Std.TransCmp Rank.compare :=
  inferInstanceAs <| Std.TransCmp <|
    compareLex (compareOn Rank.bucket) <|
    compareLex (fun a b => compareOn Rank.priority b a) <|
    compareLex (compareOn Rank.created) <|
    compareLex (compareOn Rank.order) (compareOn fun rank : Rank => rank.id.toNat)

theorem eq_of_compare {a b : Rank} (same : a.compare b = .eq) : a = b := by
  simp only [compare, Ordering.then_eq_eq, Std.LawfulEqCmp.compare_eq_iff_eq] at same
  obtain ⟨bucket, priority, created, order, id⟩ := same
  obtain ⟨_, _, _, _, ⟨bits⟩⟩ := a
  obtain ⟨_, _, _, _, ⟨bits'⟩⟩ := b
  have sameBits : bits = bits' := BitVec.eq_of_toNat_eq id
  simp_all

/-- One rank comes before another. -/
def Before (a b : Rank) : Prop :=
  a.compare b = .lt

theorem Before.trans {a b c : Rank} (first : a.Before b) (second : b.Before c) : a.Before c :=
  Std.TransCmp.lt_trans first second

theorem Before.ne {a b : Rank} (before : a.Before b) : a ≠ b := by
  rintro rfl
  have same : a.compare a = .eq := Std.ReflCmp.compare_self
  rw [Before, same] at before
  cases before

/-- Running tasks rank before queued ones, and those before failed ones. -/
theorem Before.bucket_le {a b : Rank} (before : a.Before b) : a.bucket ≤ b.bucket := by
  simp only [Before, compare, Ordering.then_eq_lt] at before
  rcases before with less | ⟨same, -⟩
  · exact Nat.le_of_lt (Nat.compare_eq_lt.mp less)
  · exact Nat.le_of_eq (Nat.compare_eq_eq.mp same)

theorem mem_place {rank other : Rank} {ranks : List Rank} :
    other ∈ rank.place ranks ↔ other = rank ∨ other ∈ ranks := by
  induction ranks with
  | nil => simp [place]
  | cons head rest ih =>
    unfold place
    split
    · simp
    · next same =>
      rw [eq_of_compare same]
      simp
    · simp only [List.mem_cons, ih]
      exact or_left_comm

theorem place_sorted {rank : Rank} {ranks : List Rank} (sorted : ranks.Pairwise Before) :
    (rank.place ranks).Pairwise Before := by
  induction ranks with
  | nil => simp [place]
  | cons head rest ih =>
    obtain ⟨headFirst, restSorted⟩ := List.pairwise_cons.mp sorted
    unfold place
    split
    · next less =>
      refine List.pairwise_cons.mpr ⟨?_, sorted⟩
      intro other member
      rcases List.mem_cons.mp member with rfl | inRest
      · exact less
      · exact Before.trans less (headFirst other inRest)
    · exact sorted
    · next greater =>
      refine List.pairwise_cons.mpr ⟨?_, ih restSorted⟩
      intro other member
      rcases mem_place.mp member with rfl | inRest
      · exact Std.OrientedCmp.lt_of_gt greater
      · exact headFirst other inRest

end Rank

namespace Contents

variable {c : Contents}

/-! ## 2. Well-formed contents -/

/-- The index holds the ranks of the stored tasks, each under its own identifier. -/
structure WellFormed (c : Contents) : Prop where
  keyed : ∀ {id task}, c.tasks.get? id = some task → task.id = id
  settled : ∀ {id task}, c.tasks.get? id = some task → task.state ≠ .pending
  sorted : c.index.Pairwise Rank.Before
  indexed : ∀ {rank : Rank},
    rank ∈ c.index ↔ ∃ task, c.tasks.get? rank.id = some task ∧ Rank.of task = rank

theorem wellFormed_empty : Contents.empty.WellFormed where
  keyed stored := by simp [Contents.empty] at stored
  settled stored := by simp [Contents.empty] at stored
  sorted := .nil
  indexed := by simp [Contents.empty]

theorem get?_take (c : Contents) (id other : TaskId) :
    (c.take id).tasks.get? other = if other = id then none else c.tasks.get? other := by
  unfold take
  split
  · next absent =>
    split
    · next same => rw [same, absent]
    · rfl
  · simp

theorem get?_foldl_take {id : TaskId} (ids : List TaskId) :
    (ids.foldl take c).tasks.get? id = if id ∈ ids then none else c.tasks.get? id := by
  induction ids generalizing c with
  | nil => simp
  | cons first rest ih =>
    rw [List.foldl_cons, ih, get?_take]
    by_cases later : id ∈ rest
    · simp [later]
    · simp [later]

theorem get?_put (c : Contents) (task : Task) (other : TaskId) :
    (c.put task).tasks.get? other = if other = task.id then some task else c.tasks.get? other := by
  simp only [put, Table.get?_insert, get?_take]
  split <;> rfl

@[simp] theorem rateLimits_take (c : Contents) (id : TaskId) :
    (c.take id).rateLimits = c.rateLimits := by
  unfold take
  split <;> rfl

@[simp] theorem rateLimits_put (c : Contents) (task : Task) :
    (c.put task).rateLimits = c.rateLimits :=
  rateLimits_take c task.id

theorem WellFormed.take (h : c.WellFormed) (id : TaskId) : (c.take id).WellFormed := by
  cases stored : c.tasks.get? id with
  | none => simpa [Contents.take, stored] using h
  | some task =>
    have own := h.keyed stored
    refine ⟨?_, ?_, ?_, ?_⟩
    · intro other record found
      rw [get?_take] at found
      split at found
      · cases found
      · exact h.keyed found
    · intro other record found
      rw [get?_take] at found
      split at found
      · cases found
      · exact h.settled found
    · simp only [Contents.take, stored]
      exact h.sorted.filter _
    · intro rank
      rw [get?_take]
      simp only [Contents.take, stored, List.mem_filter, decide_eq_true_eq]
      rw [h.indexed]
      -- The task has one rank only, so a rank with another identifier stays in the index.
      by_cases same : rank.id = id
      · simp [same, stored, eq_comm]
      · have differs : rank ≠ Rank.of task := by
          rintro rfl
          exact same own
        simp [same, differs]

/-- A new task goes into the table and into the index. -/
theorem WellFormed.insert (h : c.WellFormed) {task : Task} (absent : c.tasks.get? task.id = none)
    (settled : task.state ≠ .pending) :
    WellFormed { c with
      tasks := c.tasks.insert task.id task, index := (Rank.of task).place c.index } := by
  refine ⟨?_, ?_, Rank.place_sorted h.sorted, ?_⟩
  · intro other record found
    simp only [Table.get?_insert] at found
    split at found
    · next same => cases found; exact same.symm
    · exact h.keyed found
  · intro other record found
    simp only [Table.get?_insert] at found
    split at found
    · cases found; exact settled
    · exact h.settled found
  · intro rank
    simp only [Rank.mem_place, Table.get?_insert]
    rw [h.indexed]
    by_cases same : rank.id = task.id
    · simp [same, absent, eq_comm]
    · have differs : rank ≠ Rank.of task := by
        rintro rfl
        exact same rfl
      simp [same, differs]

theorem WellFormed.put (h : c.WellFormed) {task : Task} (settled : task.state ≠ .pending) :
    (c.put task).WellFormed :=
  (h.take task.id).insert (by simp [get?_take]) settled

theorem WellFormed.append (h : c.WellFormed) (task : Task) : (c.append task).WellFormed :=
  have settled : { task with order := c.nextOrder, state := .queued }.state ≠ .pending :=
    fun same => nomatch same
  have stored := h.put settled
  ⟨stored.keyed, stored.settled, stored.sorted, stored.indexed⟩

/-- A change that keeps contents well-formed may be made for each of some items. -/
theorem WellFormed.foldl {α : Type} {change : Contents → α → Contents} (h : c.WellFormed)
    (each : ∀ {c : Contents}, c.WellFormed → ∀ a, (change c a).WellFormed) (items : List α) :
    (items.foldl change c).WellFormed :=
  List.foldlRecOn items change h fun _ kept item _ => each kept item

/-- What stands beside the tasks does not matter. -/
theorem WellFormed.congr {d : Contents} (h : c.WellFormed) (tasks : d.tasks = c.tasks)
    (index : d.index = c.index) : d.WellFormed := by
  obtain ⟨keyed, settled, sorted, indexed⟩ := h
  exact ⟨by rwa [tasks], by rwa [tasks], by rwa [index], by rwa [tasks, index]⟩

end Contents

/-- Stores offer to mark a task running, failed or queued, never pending. -/
def Request.IsOffered : Request → Prop
  | .setState _ state => state ≠ .pending
  | _ => True

namespace Contents

variable {c : Contents}

/-- Every request that a store offers keeps its contents well-formed. -/
theorem WellFormed.answer (h : c.WellFormed) {q : Request} (offered : q.IsOffered) :
    (c.answer q).2.WellFormed := by
  cases q with
  | remove id => exact h.take id
  | removeByReference reference => exact h.foldl WellFormed.take _
  | queue batch =>
    simp only [Contents.answer, Contents.queue]
    split
    · next eq =>
      split at eq
      · cases eq
      · cases eq; exact h.foldl WellFormed.append batch
    · exact h
  | setState task state =>
    simp only [Contents.answer, Contents.setState]
    split
    · next eq =>
      split at eq
      · cases eq
      · cases eq; exact h.put offered
    · exact h
  | setRateLimit tag limit => exact h.congr rfl rfl
  | setMaxRetries tag limit => exact h.congr rfl rfl
  | addDuration kind ms => exact h.congr rfl rfl
  | setEstimate kind ms => exact h.congr rfl rfl
  | _ => exact h

/-- Contents that requests can lead to, beginning with an empty store. -/
inductive Reachable : Contents → Prop
  | empty : Reachable .empty
  | answer {c : Contents} {q : Request} : Reachable c → q.IsOffered → Reachable (c.answer q).2

theorem Reachable.wellFormed (h : c.Reachable) : c.WellFormed := by
  induction h with
  | empty => exact wellFormed_empty
  | answer _ offered ih => exact ih.answer offered

/-! ## 3. Listings -/

/-- The tasks that some ranks of the index stand for, before those that do not belong to a listing
are left out. -/
theorem ranks_of_index (h : c.WellFormed) (ranks : List Rank)
    (known : ∀ rank ∈ ranks, rank ∈ c.index) :
    (ranks.filterMap fun rank => c.tasks.get? rank.id).map Rank.of = ranks := by
  induction ranks with
  | nil => rfl
  | cons rank rest ih =>
    obtain ⟨task, stored, own⟩ := h.indexed.mp (known rank List.mem_cons_self)
    have rest := ih fun other member => known other (List.mem_cons_of_mem _ member)
    simp only [List.filterMap_cons, stored, List.map_cons, own, rest]

/-- A listing goes through the index in order. -/
theorem list_ranks (h : c.WellFormed) (listing : Listing) :
    ((c.list listing).map Rank.of).Sublist c.index := by
  have known := ranks_of_index h (c.index.filter fun rank => listing.hasBucket rank.bucket)
    fun rank member => (List.mem_filter.mp member).1
  refine .trans ?_ (List.filter_sublist (p := fun rank => listing.hasBucket rank.bucket))
  conv => rhs; rw [← known]
  exact (List.filter_sublist).map _

theorem list_sorted (h : c.WellFormed) (listing : Listing) :
    (c.list listing).Pairwise fun a b => (Rank.of a).Before (Rank.of b) :=
  List.pairwise_map.mp (h.sorted.sublist (list_ranks h listing))

/-- A listing shows exactly the tasks that belong to it. -/
theorem mem_list (h : c.WellFormed) {listing : Listing} {task : Task} :
    task ∈ c.list listing ↔ c.tasks.get? task.id = some task ∧
      listing.hasBucket task.state.bucket = true ∧ listing.includes task = true := by
  simp only [list, List.mem_filter, List.mem_filterMap]
  constructor
  · rintro ⟨⟨rank, ⟨member, bucket⟩, stored⟩, included⟩
    obtain ⟨other, found, own⟩ := h.indexed.mp member
    obtain rfl : other = task := Option.some.inj (found.symm.trans stored)
    subst own
    exact ⟨stored, bucket, included⟩
  · rintro ⟨stored, bucket, included⟩
    exact ⟨⟨Rank.of task, ⟨h.indexed.mpr ⟨task, stored, rfl⟩, bucket⟩, stored⟩, included⟩

/-- The listing of a state shows the stored tasks in that state. -/
theorem mem_inState (h : c.WellFormed) (state : TaskState) (settled : state ≠ .pending)
    {task : Task} : task ∈ c.list (.inState state none) ↔
      c.tasks.get? task.id = some task ∧ task.state = state := by
  rw [mem_list h]
  constructor
  · rintro ⟨stored, bucket, -⟩
    refine ⟨stored, ?_⟩
    have known := h.settled stored
    exact TaskState.eq_of_bucket known settled (of_decide_eq_true bucket)
  · rintro ⟨stored, rfl⟩
    exact ⟨stored, decide_eq_true rfl, rfl⟩

/-- No two rows of a listing are about the same task. -/
theorem list_ids_nodup (h : c.WellFormed) (listing : Listing) :
    ((c.list listing).map Task.id).Nodup := by
  rw [List.Nodup, List.pairwise_map]
  refine (list_sorted h listing).imp_of_mem ?_
  intro a b aListed bListed before same
  have aStored := ((mem_list h).mp aListed).1
  have bStored := ((mem_list h).mp bListed).1
  rw [same] at aStored
  obtain rfl : a = b := Option.some.inj (aStored.symm.trans bStored)
  exact before.ne rfl

/-- The identifiers of the stored tasks are the keys of the table. -/
theorem values_ids (h : c.WellFormed) : c.tasks.values.map Task.id = c.tasks.keys := by
  rw [Table.values, Table.keys, List.map_map]
  refine List.map_congr_left fun entry member => ?_
  exact h.keyed (Table.get?_eq_some_iff.mpr member)

theorem values_nodup (h : c.WellFormed) : c.tasks.values.Nodup := by
  refine List.Nodup.of_map Task.id ?_
  rw [values_ids h]
  exact c.tasks.distinct

/-- A listing is the stored tasks that belong to it, in some order. -/
theorem list_perm (h : c.WellFormed) (listing : Listing) :
    (c.list listing).Perm (c.tasks.values.filter fun task =>
      listing.hasBucket task.state.bucket && listing.includes task) := by
  have nodup := List.Nodup.of_map Task.id (list_ids_nodup h listing)
  rw [List.perm_ext_iff_of_nodup nodup ((values_nodup h).filter _)]
  intro task
  rw [mem_list h, List.mem_filter, Table.mem_values_iff, Bool.and_eq_true]
  constructor
  · rintro ⟨stored, belongs⟩
    exact ⟨⟨task.id, stored⟩, belongs⟩
  · rintro ⟨⟨id, stored⟩, belongs⟩
    rw [← h.keyed stored] at stored
    exact ⟨stored, belongs⟩

/-- No listing has more rows than tasks are stored. -/
theorem length_list_le (h : c.WellFormed) (listing : Listing) :
    (c.list listing).length ≤ c.tasks.size := by
  rw [(list_perm h listing).length_eq]
  refine Nat.le_trans (List.length_filter_le _ _) ?_
  simp [Table.values, Table.size]

/-- The identifiers of the three listings by state. -/
def idsByState (c : Contents) : List TaskId :=
  (c.list (.inState .queued none) ++ c.list (.inState .running none) ++
    c.list (.inState .error none)).map Task.id

/-- A task is in one state only, so no two listings share a row. -/
theorem inState_disjoint (h : c.WellFormed) (first second : TaskState) (differ : first ≠ second)
    (settled : first ≠ .pending ∧ second ≠ .pending) :
    ∀ a ∈ (c.list (.inState first none)).map Task.id,
      ∀ b ∈ (c.list (.inState second none)).map Task.id, a ≠ b := by
  rintro _ inFirst _ inSecond rfl
  obtain ⟨task, listed, rfl⟩ := List.mem_map.mp inFirst
  obtain ⟨other, alsoListed, same⟩ := List.mem_map.mp inSecond
  obtain ⟨stored, state⟩ := (mem_inState h first settled.1).mp listed
  obtain ⟨stored', state'⟩ := (mem_inState h second settled.2).mp alsoListed
  rw [same, stored] at stored'
  cases stored'
  exact differ (state.symm.trans state')

theorem idsByState_nodup (h : c.WellFormed) : c.idsByState.Nodup := by
  rw [idsByState, List.map_append, List.map_append, List.nodup_append, List.nodup_append]
  refine ⟨⟨list_ids_nodup h _, list_ids_nodup h _, ?_⟩, list_ids_nodup h _, ?_⟩
  · exact inState_disjoint h .queued .running nofun ⟨nofun, nofun⟩
  · intro a member
    rcases List.mem_append.mp member with queued | running
    · exact inState_disjoint h .queued .error nofun ⟨nofun, nofun⟩ a queued
    · exact inState_disjoint h .running .error nofun ⟨nofun, nofun⟩ a running

theorem mem_idsByState (h : c.WellFormed) {id : TaskId} :
    id ∈ c.idsByState ↔ ∃ task, c.tasks.get? id = some task := by
  rw [idsByState, List.mem_map]
  constructor
  · rintro ⟨task, member, rfl⟩
    rcases List.mem_append.mp member with earlier | failed
    · rcases List.mem_append.mp earlier with queued | running
      · exact ⟨task, ((mem_inState h .queued nofun).mp queued).1⟩
      · exact ⟨task, ((mem_inState h .running nofun).mp running).1⟩
    · exact ⟨task, ((mem_inState h .error nofun).mp failed).1⟩
  · rintro ⟨task, found⟩
    have own := h.keyed found
    refine ⟨task, ?_, own⟩
    rw [← own] at found
    cases state : task.state with
    | pending => exact absurd state (h.settled found)
    | queued =>
      exact List.mem_append_left _ (List.mem_append_left _
        ((mem_inState h .queued nofun).mpr ⟨found, state⟩))
    | running =>
      exact List.mem_append_left _ (List.mem_append_right _
        ((mem_inState h .running nofun).mpr ⟨found, state⟩))
    | error => exact List.mem_append_right _ ((mem_inState h .error nofun).mpr ⟨found, state⟩)

end Contents

end TaskQueue
