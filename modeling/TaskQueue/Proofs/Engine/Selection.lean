import TaskQueue.Engine.Operation
import TaskQueue.Proofs.Cursor
import TaskQueue.Proofs.Store.Index

/-!
# The task that is handed out next

The next task is chosen while reading the running and queued tasks page by page. All running tasks
come first, so whatever the size of a page, the load of each limited tag is complete when the first
queued task is looked at.

Results:
1. `firstEligible_exec`: reading page by page chooses what `Load.choose` chooses from the whole
   list.
2. `load_over`: the load of a tag is the number of running tasks with the tag.
3. `chooseNext_exec`: the task that is chosen is queued, and its limited tags have room.
-/

namespace TaskQueue

/-- The number of running tasks with a tag. -/
def Contents.runningWith (c : Contents) (tag : String) : Nat :=
  c.tasks.values.countP fun task => task.state = .running && task.hasTag tag

/-- Each tag of a task that has a limit is carried by fewer running tasks. -/
def Contents.HasRoom (c : Contents) (task : Task) : Prop :=
  ∀ tag limit, c.rateLimits.get? tag = some limit → task.hasTag tag = true →
    c.runningWith tag < limit

namespace Operation

variable {c : Contents}

/-! ## 1. Choosing a task -/

/-- The load after the running ones of some tasks. -/
def Load.over (limits : List (String × Nat)) (load : Load) (tasks : List Task) : Load :=
  (tasks.filter (·.state = .running)).foldl (fun load task => load.add limits task) load

/-- The first queued task of a list that no limit blocks. -/
def Load.choose (limits : List (String × Nat)) : Load → List Task → Option Task
  | _, [] => none
  | load, task :: rest =>
    match task.state with
    | .running => choose limits (load.add limits task) rest
    | .queued => if load.blocks limits task then choose limits load rest else some task
    | _ => choose limits load rest

/-- The task that is chosen has only blocked ones before it. -/
theorem choose_eq_some {limits : List (String × Nat)} {load : Load} {tasks : List Task}
    {task : Task} (chosen : load.choose limits tasks = some task) :
    ∃ before after, tasks = before ++ task :: after ∧ task.state = .queued ∧
      (load.over limits before).blocks limits task = false := by
  induction tasks generalizing load with
  | nil => cases chosen
  | cons first rest ih =>
    rw [Load.choose] at chosen
    -- A first task that is not chosen only counts towards the load of those before the choice.
    have skip : ∀ {next : Load}, load.over limits [first] = next →
        next.choose limits rest = some task →
        ∃ before after, first :: rest = before ++ task :: after ∧ task.state = .queued ∧
          (load.over limits before).blocks limits task = false := by
      rintro next rfl later
      obtain ⟨before, after, rfl, queued, room⟩ := ih later
      refine ⟨first :: before, after, rfl, queued, ?_⟩
      rw [← room]
      simp only [Load.over, List.filter_cons, List.filter_nil]
      split <;> rfl
    cases state : first.state with
    | running =>
      rw [state] at chosen
      exact skip (by simp [Load.over, state]) chosen
    | queued =>
      simp only [state] at chosen
      split at chosen
      · exact skip (by simp [Load.over, state]) chosen
      · next room =>
        obtain rfl := Option.some.inj chosen
        exact ⟨[], rest, rfl, state, by simpa [Load.over] using room⟩
    | pending =>
      rw [state] at chosen
      exact skip (by simp [Load.over, state]) chosen
    | error =>
      rw [state] at chosen
      exact skip (by simp [Load.over, state]) chosen

theorem firstEligible_exec (limits : List (String × Nat)) (bound : Nat) (load : Load)
    {cur : Cursor Task} (whole : cur.range = none) :
    (firstEligible limits bound load cur).run.exec c =
      (.ok (load.choose limits ((cur.remaining (c.list (.pending none))).take bound)), c) := by
  induction bound generalizing load cur with
  | zero => rfl
  | succ bound ih =>
    obtain ⟨rest, read, range, others⟩ :=
      Cursor.next_exec (Listing.source_shows (.pending none) c) whole
    rw [firstEligible]
    refine (Action.exec_bind_ok (d := c)
      (a := ((cur.remaining (c.list (.pending none))).head?, rest)) ?_).trans ?_
    · rw [ExceptT.run_mk, Program.exec_bind, read]
      rfl
    cases remaining : cur.remaining (c.list (.pending none)) with
    | nil => rfl
    | cons task tail =>
      rw [remaining, List.tail_cons] at others
      simp only [List.head?_cons, List.take_succ_cons, Load.choose]
      cases task.state with
      | queued =>
        simp only
        split
        · rw [ih load range, others]
        · rfl
      | running => simp only [ih (load.add limits task) range, others]
      | pending => simp only [ih load range, others]
      | error => simp only [ih load range, others]

/-! ## 2. The load of a tag -/

/-- The running tasks that were counted for a tag. -/
def Load.of (load : Load) (tag : String) : Nat :=
  (load.get? tag).getD 0

theorem of_foldl (tags : List String) (load : Load) (tag : String) :
    Load.of (tags.foldl (fun load tag => load.insert tag ((load.get? tag).getD 0 + 1)) load) tag =
      load.of tag + tags.count tag := by
  induction tags generalizing load with
  | nil => rfl
  | cons first rest ih =>
    rw [List.foldl_cons, ih, List.count_cons]
    simp only [Load.of, Table.get?_insert, beq_iff_eq]
    by_cases same : tag = first
    · simp only [same, if_true, Option.getD_some]
      omega
    · simp only [same, Ne.symm same, if_false, Nat.add_zero]

theorem of_add {limits : List (String × Nat)} {tag : String}
    (limited : (limits.lookup tag).isSome = true) (load : Load) (task : Task) :
    (load.add limits task).of tag = load.of tag + if task.hasTag tag then 1 else 0 := by
  have nodup : task.tags.toList.Nodup := by
    refine task.tags.sorted.imp ?_
    rintro tag _ less rfl
    exact String.lt_irrefl _ less
  rw [Load.add, of_foldl, List.count_filter (p := fun tag => (limits.lookup tag).isSome) limited,
    nodup.count]
  simp only [Task.hasTag, StringSet.contains, decide_eq_true_eq]

/-- The load of a limited tag is the number of running tasks with the tag. -/
theorem load_over {limits : List (String × Nat)} {tag : String}
    (limited : (limits.lookup tag).isSome = true) (load : Load) (tasks : List Task) :
    (load.over limits tasks).of tag =
      load.of tag + tasks.countP fun task => task.state = .running && task.hasTag tag := by
  unfold Load.over
  induction tasks generalizing load with
  | nil => rfl
  | cons task rest ih =>
    rw [List.countP_cons]
    by_cases running : task.state = .running
    · rw [List.filter_cons_of_pos (by simpa using running), List.foldl_cons, ih, of_add limited]
      simp only [running, decide_true, Bool.true_and]
      omega
    · rw [List.filter_cons_of_neg (by simpa using running), ih]
      simp only [running, decide_false, Bool.false_and, Bool.false_eq_true, if_false, Nat.add_zero]

/-- A task that a load does not block has room in it. -/
theorem of_lt_of_blocks {limits : List (String × Nat)} {load : Load} {task : Task}
    (room : load.blocks limits task = false) {tag : String} {limit : Nat}
    (limited : limits.lookup tag = some limit) (carries : task.hasTag tag = true) :
    load.of tag < limit := by
  rw [Load.blocks, List.any_eq_false] at room
  have free := room tag (by simpa [Task.hasTag, StringSet.contains] using carries)
  simpa [limited, Load.of] using free

end Operation

/-! ## 3. The choice -/

namespace Contents

variable {c : Contents}

/-- The running tasks of the queue stand in the listing of running and queued tasks. -/
theorem runningWith_eq (h : c.WellFormed) (tag : String) :
    c.runningWith tag = (c.list (.pending none)).countP fun task =>
      task.state = .running && task.hasTag tag := by
  rw [(list_perm h (.pending none)).countP_eq, List.countP_filter, runningWith]
  refine List.countP_congr fun task _ => ?_
  cases task.state <;> simp [Listing.hasBucket, Listing.includes, TaskState.bucket]

/-- Behind a queued task of the listing no running one follows. -/
theorem countP_running_before (h : c.WellFormed) {before after : List Task} {task : Task}
    (split : c.list (.pending none) = before ++ task :: after) (queued : task.state = .queued)
    (tag : String) : c.runningWith tag = before.countP fun task =>
      task.state = .running && task.hasTag tag := by
  have sorted := list_sorted h (.pending none)
  rw [split] at sorted
  have behind := (List.pairwise_cons.mp (List.pairwise_append.mp sorted).2.1).1
  have none : after.countP (fun task => task.state = .running && task.hasTag tag) = 0 := by
    rw [List.countP_eq_zero]
    intro other follows running
    have bucket := (behind other follows).bucket_le
    simp only [Bool.and_eq_true, decide_eq_true_eq] at running
    simp [Rank.of, queued, running.1, TaskState.bucket] at bucket
  rw [runningWith_eq h, split, List.countP_append, List.countP_cons, none]
  simp [queued]

end Contents

namespace Operation

variable {c : Contents}

/-- The task that is chosen next is a stored one that is queued and has room; choosing changes
nothing. -/
theorem chooseNext_exec (h : c.WellFormed) (settings : CursorSettings) (bound : Nat) :
    ∃ choice, (chooseNext settings bound).run.exec c = (.ok choice, c) ∧
      ∀ task, choice = some task →
        c.tasks.get? task.id = some task ∧ task.state = .queued ∧ c.HasRoom task := by
  rw [chooseNext, Action.exec_request_bind rfl]
  split
  · -- Without limits the first queued task is taken, and has room in no limit at all.
    next unlimited =>
    have whole : (Cursor.new settings : Cursor Task).range = none := rfl
    obtain ⟨rest, read, -, -⟩ :=
      Cursor.next_exec (Listing.source_shows (.inState .queued none) c) whole
    refine ⟨_, by rw [ExceptT.run_mk, Program.exec_bind, read]; rfl, ?_⟩
    intro task chosen
    have listed := (Cursor.remaining_new_prefix _ settings).subset (List.mem_of_mem_head? chosen)
    obtain ⟨stored, isQueued⟩ := (Contents.mem_inState h .queued (by decide)).mp listed
    refine ⟨stored, isQueued, ?_⟩
    intro tag limit limited
    rw [Table.get?, List.isEmpty_iff.mp unlimited] at limited
    cases limited
  · rw [firstEligible_exec _ _ _ rfl]
    refine ⟨_, rfl, ?_⟩
    intro task chosen
    obtain ⟨before, after, split, queued, room⟩ := choose_eq_some chosen
    have begins : before ++ task :: after <+: c.list (.pending none) := by
      rw [← split]
      exact (List.take_prefix _ _).trans (Cursor.remaining_new_prefix _ settings)
    obtain ⟨more, whole⟩ := begins
    rw [List.append_assoc, List.cons_append] at whole
    have listed : task ∈ c.list (.pending none) := by
      rw [← whole]
      exact List.mem_append_right before List.mem_cons_self
    refine ⟨((Contents.mem_list h).mp listed).1, queued, ?_⟩
    intro tag limit limited carries
    -- All running tasks stand before the choice, so its load has counted every one of them.
    rw [Contents.countP_running_before h whole.symm queued]
    have lookup : c.rateLimits.entries.lookup tag = some limit := limited
    have below := of_lt_of_blocks room lookup carries
    rw [load_over (by rw [lookup]; rfl)] at below
    simpa [Load.of] using below

end Operation

end TaskQueue
