import TaskQueue.Proofs.Engine.Eligible
import TaskQueue.Proofs.Store.Sorted

/-!
# Which task is handed out

Of the tasks that are eligible the one that is first in dispatch order is handed out, whether there
are limits or not, and whatever the size of a page.

Results:
1. `choose_first`, `follows_lt`: what is passed over is blocked, and what follows comes later.
2. `chooseNext_next`: the task that is chosen is the next one.
3. `Operation.acquire_next`, `Engine.acquire_exact`: what an attempt answers and leaves.
-/

namespace TaskQueue

namespace Contents

/-- The first eligible task in dispatch order. -/
structure Next (c : Contents) (task : Task) : Prop where
  stored : c.tasks.get? task.id = some task
  queued : task.state = .queued
  room : c.HasRoom task
  first : ∀ other, c.tasks.get? other.id = some other → other.state = .queued → c.HasRoom other →
    other ≠ task → Task.dispatchOrder task other = .lt

variable {c : Contents} {task : Task}

theorem Next.eligible (next : c.Next task) : c.Eligible task.id :=
  ⟨task, next.stored, next.queued, next.room⟩

/-! ## 1. The order of a listing -/

/-- Of two tasks in one state the one that is listed first comes first in dispatch order. -/
theorem follows_lt (h : c.WellFormed) (numbered : c.Numbered) {listing : Listing}
    {before after : List Task} {other : Task}
    (split : c.list listing = before ++ task :: after) (follows : other ∈ after)
    (same : task.state = other.state) : Task.dispatchOrder task other = .lt := by
  have stored : c.tasks.get? task.id = some task :=
    ((mem_list h).mp (split ▸ List.mem_append_right before List.mem_cons_self)).1
  have stored' : c.tasks.get? other.id = some other :=
    ((mem_list h).mp (split ▸ List.mem_append_right before (List.mem_cons_of_mem task follows))).1
  have sorted := list_sorted h listing
  rw [split] at sorted
  have ranked := (List.pairwise_cons.mp (List.pairwise_append.mp sorted).2.1).1 other follows
  have ne : task ≠ other := fun equal => ranked.ne (congrArg Rank.of equal)
  have buckets : Ord.compare task.state.bucket other.state.bucket = .eq :=
    Nat.compare_eq_eq.mpr (congrArg _ same)
  rw [Rank.Before, Rank.compare_of, buckets, Ordering.eq_then, Ordering.then_eq_lt] at ranked
  refine ranked.resolve_right fun both => ne ?_
  -- Tasks that are equal in dispatch order have one number, and so are one task.
  have own := numbered.own stored stored' (Task.order_of_dispatchOrder both.1)
  rw [own] at stored
  exact Option.some.inj (stored.symm.trans stored')

end Contents

namespace Operation

variable {c : Contents} {task : Task}

/-- Nothing would be chosen from what stands before the task that is chosen. -/
theorem choose_first {limits : List (String × Nat)} {load : Load} {tasks : List Task}
    (chosen : load.choose limits tasks = some task) :
    ∃ before after, tasks = before ++ task :: after ∧ load.choose limits before = none := by
  induction tasks generalizing load with
  | nil => cases chosen
  | cons first rest ih =>
    rw [Load.choose] at chosen
    cases state : first.state with
    | running | pending | error =>
      rw [state] at chosen
      obtain ⟨before, after, rfl, none⟩ := ih chosen
      refine ⟨first :: before, after, rfl, ?_⟩
      rw [Load.choose, state]
      exact none
    | queued =>
      simp only [state] at chosen
      split at chosen
      · next blocked =>
        obtain ⟨before, after, rfl, none⟩ := ih chosen
        refine ⟨first :: before, after, rfl, ?_⟩
        rw [Load.choose, state]
        simp only [blocked, if_true]
        exact none
      · obtain rfl := Option.some.inj chosen
        exact ⟨[], rest, rfl, rfl⟩

/-! ## 2. The choice -/

/-- The task that is chosen from the whole listing comes before all others that have room. -/
theorem choose_lt (h : c.WellFormed) (numbered : c.Numbered) (queued : task.state = .queued)
    (chosen : Load.choose c.rateLimits.entries .empty (c.list (.pending none)) = some task)
    {other : Task} (stored : c.tasks.get? other.id = some other) (waits : other.state = .queued)
    (room : c.HasRoom other) (ne : other ≠ task) : Task.dispatchOrder task other = .lt := by
  obtain ⟨before, after, split, none⟩ := choose_first chosen
  have listed : other ∈ c.list (.pending Option.none) := by
    refine (Contents.mem_list h).mpr ⟨stored, ?_⟩
    simp [waits, Listing.hasBucket, Listing.includes, TaskState.bucket]
  rw [split, List.mem_append, List.mem_cons] at listed
  rcases listed with passed | rfl | follows
  · obtain ⟨front, back, rfl⟩ := List.append_of_mem passed
    rw [List.append_assoc, List.cons_append] at split
    exact absurd room (no_room_of_blocked h split waits (choose_eq_none none waits))
  · exact absurd rfl ne
  · exact Contents.follows_lt h numbered split follows (queued.trans waits.symm)

/-- The task that is chosen next is the next one, if the pages are not empty and there may be enough
rows. -/
theorem chooseNext_next (h : c.WellFormed) (numbered : c.Numbered) {settings : CursorSettings}
    (somePage : settings.pageSize ≠ 0) {bound : Nat} (enough : c.tasks.size ≤ bound)
    (chosen : ((chooseNext settings bound).run.exec c).1 = .ok (some task)) : c.Next task := by
  obtain ⟨choice, result, known⟩ := chooseNext_exec h settings bound
  rw [result] at chosen
  obtain rfl : choice = some task := Except.ok.inj chosen
  obtain ⟨stored, queued, room⟩ := known task rfl
  refine ⟨stored, queued, room, fun other stored' waits room' ne => ?_⟩
  have chosen := congrArg Prod.fst result
  rw [chooseNext, Action.exec_request_bind rfl] at chosen
  split at chosen
  · -- Without limits the task is the head of the queued ones.
    have whole : (Cursor.new settings : Cursor Task).range = none := rfl
    obtain ⟨rest, read, -, -⟩ :=
      Cursor.next_exec (Listing.source_shows (.inState .queued none) c) whole
    rw [ExceptT.run_mk, Program.exec_bind, read, Cursor.remaining_new somePage] at chosen
    have head : (c.list (.inState .queued none)).head? = some task := Except.ok.inj chosen
    obtain ⟨after, rows⟩ := List.head?_eq_some_iff.mp head
    have split : c.list (.inState .queued none) = [] ++ task :: after := rows
    have listed := (Contents.mem_inState h .queued (by decide)).mpr ⟨stored', waits⟩
    rw [rows] at listed
    have follows := (List.mem_cons.mp listed).resolve_left ne
    exact Contents.follows_lt h numbered split follows (queued.trans waits.symm)
  · rw [firstEligible_exec _ _ _ rfl, Cursor.remaining_new somePage] at chosen
    have short : (c.list (.pending none)).length ≤ bound :=
      Nat.le_trans (Contents.length_list_le h _) enough
    rw [List.take_of_length_le short] at chosen
    exact choose_lt h numbered queued (Except.ok.inj chosen) stored' waits room' ne

end Operation

/-! ## 3. An attempt -/

namespace Contents

variable {c : Contents}

/-- The contents with one record more or another one under its identifier, and nothing else new. -/
structure Rewritten (c : Contents) (task : Task) (d : Contents) : Prop where
  records : ∀ id, d.tasks.get? id = if id = task.id then some task else c.tasks.get? id
  rest : d = { c with tasks := d.tasks, index := d.index }

theorem rewritten_put (c : Contents) (task : Task) : c.Rewritten task (c.put task) where
  records := get?_put c task
  rest := by
    unfold put take
    split <;> rfl

end Contents

namespace Operation

variable {c : Contents}

/-- An attempt finds nothing eligible and changes nothing, or it starts the next task. -/
theorem acquire_next (h : c.WellFormed) (numbered : c.Numbered) {settings : CursorSettings}
    (somePage : settings.pageSize ≠ 0) {bound : Nat} (enough : c.tasks.size ≤ bound) (now : UInt64) :
    (∀ id, ¬ c.Eligible id) ∧
        (acquire settings bound now).body.run.exec c = (.ok (none, .quiet), c) ∨
      ∃ task, c.Next task ∧ (acquire settings bound now).body.run.exec c =
        (.ok (some { task with started := some now, state := .running },
          ⟨false, [.acquired { task with started := some now, state := .running }]⟩),
          c.put { task with started := some now, state := .running }) := by
  obtain ⟨choice, chosen, known⟩ := chooseNext_exec h settings bound
  rw [acquire, Action.exec_bind_ok chosen]
  cases choice with
  | none => exact .inl ⟨chooseNext_none h somePage enough (congrArg Prod.fst chosen), rfl⟩
  | some task =>
    have next := chooseNext_next h numbered somePage enough (congrArg Prod.fst chosen)
    have record : c.tasks.get? { task with started := some now }.id = some task := next.stored
    exact .inr ⟨task, next,
      Action.exec_request_bind (Contents.answer_setState record rfl .running)⟩

end Operation

namespace Engine

variable {e : Engine}

/-- An isolated operation while a section is open gives up in the end, and nothing changes. -/
theorem perform_refused {α : Type} {op : Operation α} (isolated : op.isolated = true)
    (taken : e.store.free = false) :
    e.perform op = (.error (.lockTimeout e.store.settings.lockTimeout), e) := by
  rw [perform, commit, if_pos isolated, Store.isolated, if_neg (by simp [taken])]

/-- An attempt in a store that can be reached. It is always answered if no section is open. It finds
no task if and only if none is eligible, and then nothing changes. A task that it finds is the next
one as it begins to run, and its record is all that changes. -/
theorem acquire_exact (reached : e.store.committed.Reachable)
    (somePage : e.store.settings.cursor.pageSize ≠ 0) (wall : UInt64) :
    (e.store.free = false → e.perform (.acquire e.store.settings.cursor e.rows wall) =
      (.error (.lockTimeout e.store.settings.lockTimeout), e)) ∧
    (e.store.free = true →
      ∃ found e', e.perform (.acquire e.store.settings.cursor e.rows wall) = (.ok found, e') ∧
        (found = none ↔ ∀ id, ¬ e.store.committed.Eligible id) ∧
        (found = none → e'.store = { e.store with nextSection := e.store.nextSection + 1 }) ∧
        ∀ task, found = some task →
          ∃ old d, e.store.committed.Next old ∧
            task = { old with started := some wall, state := .running } ∧
            e.store.committed.Rewritten task d ∧
            e'.store =
              { e.store with committed := d, nextSection := e.store.nextSection + 1 }) := by
  refine ⟨fun taken => perform_refused rfl taken, fun free => ?_⟩
  have enough : e.store.committed.tasks.size ≤ e.rows := Nat.le_succ _
  have closed : e.store.opened = none := Option.isNone_iff_eq_none.mp free
  have isolated : (Operation.acquire e.store.settings.cursor e.rows wall).isolated = true := rfl
  rw [perform, commit, if_pos isolated, Store.isolated_eq free]
  rcases Operation.acquire_next reached.wellFormed reached.numbered somePage enough wall with
    ⟨none, result⟩ | ⟨old, next, result⟩
  · rw [result]
    refine ⟨.none, _, rfl, ⟨fun _ => none, fun _ => rfl⟩, fun _ => by rw [← closed]; rfl, ?_⟩
    intro task found
    cases found
  · rw [result]
    refine ⟨some _, _, rfl, ⟨?_, fun none => absurd next.eligible (none old.id)⟩, ?_, ?_⟩
    · intro found
      cases found
    · intro found
      cases found
    · intro task found
      cases found
      exact ⟨old, _, next, rfl, Contents.rewritten_put _ _, by rw [← closed]; rfl⟩

/-- A limit is used up by a running task. Of the two tasks in the queue it holds back the one of the
higher priority, and the other one is handed out. Pages hold one row. -/
theorem acquire_exact_blocked :
    let id (n : Nat) : TaskId := .ofNat n
    ∃ (e e' : Engine) (old task : Task), e.store.committed.Reachable ∧
      e.store.settings.cursor.pageSize = 1 ∧
      (e.store.committed.tasks.get? (id 2)).map (fun task => (task.state, task.priority)) =
        some (.queued, 5) ∧
      e.perform (.acquire e.store.settings.cursor e.rows 7) = (.ok (some task), e') ∧
      old.id = id 3 ∧ e.store.committed.Next old ∧
      task = { old with started := some 7, state := .running } ∧
      e.store.committed.Rewritten task e'.store.committed := by
  intro id
  let task (n : Nat) (priority : Int32) (tags : List String) : Task :=
    { Task.new (id n) 0 "job" default with priority, tags := .ofList tags }
  let queue : Request := .queue [task 1 9 ["io"], task 2 5 ["io"], task 3 0 []]
  let start : Request := .setState (task 1 9 ["io"]) .running
  let limit : Request := .setRateLimit "io" 1
  let c : Contents := (((Contents.empty.answer queue).2.answer start).2.answer limit).2
  have queued : (Contents.empty.answer queue).2.Reachable := .answer .empty trivial
  have reached : c.Reachable := .answer (.answer queued nofun) trivial
  let settings : StoreSettings :=
    { StoreSettings.inMemory with cursor := { CursorSettings.standard with pageSize := 1 } }
  let e : Engine := { Engine.new settings .standard with
    store := { Store.new settings with committed := c } }
  have third : (e.perform (.acquire e.store.settings.cursor e.rows 7)).1.map (·.map Task.id) =
      .ok (some (id 3)) := by decide +kernel
  have second : (e.store.committed.tasks.get? (id 2)).map (fun task => (task.state, task.priority)) =
      some (.queued, 5) := by decide +kernel
  obtain ⟨found, e', done, -, -, changed⟩ := (e.acquire_exact reached (by decide) 7).2 rfl
  rw [done] at third
  obtain ⟨task, rfl, own⟩ := Option.map_eq_some_iff.mp (Except.ok.inj third)
  obtain ⟨old, d, next, rfl, rewritten, left⟩ := changed task rfl
  refine ⟨e, e', old, _, reached, rfl, second, done, own, next, rfl, ?_⟩
  rw [left]
  exact rewritten

end Engine

end TaskQueue
