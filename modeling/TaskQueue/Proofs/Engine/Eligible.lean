import TaskQueue.Proofs.Engine.Order

/-!
# Tasks that could be handed out

A stored task is eligible if it is queued and no limit of its tags is used up. Nothing else has to
happen before it is handed out.

Results:
1. `chooseNext_none`, `acquire_none_iff`: an attempt that chooses nothing finds nothing eligible, if
   the pages it reads are not empty and it may read all rows.
2. `Order.eligible_silent`: an order that wakes nobody leaves nothing eligible that was not eligible
   before.
-/

namespace TaskQueue

namespace Contents

/-- A stored task waits in the queue, and its limited tags have room. -/
def Eligible (c : Contents) (id : TaskId) : Prop :=
  ∃ task, c.tasks.get? id = some task ∧ task.state = .queued ∧ c.HasRoom task

/-- Something is eligible, and the pages of the cursors are not empty. -/
def Offers (c : Contents) (settings : CursorSettings) : Prop :=
  settings.pageSize ≠ 0 ∧ ∃ id, c.Eligible id

end Contents

namespace Operation

variable {c : Contents}

/-! ## 1. An attempt that finds nothing -/

/-- A task that is blocked has a tag that used up its limit. -/
theorem of_ge_of_blocks {limits : List (String × Nat)} {load : Load} {task : Task}
    (blocked : load.blocks limits task = true) :
    ∃ tag limit, limits.lookup tag = some limit ∧ task.hasTag tag = true ∧ limit ≤ load.of tag := by
  obtain ⟨tag, member, full⟩ := List.any_eq_true.mp blocked
  have carries : task.hasTag tag = true := by
    simpa [Task.hasTag, StringSet.contains] using member
  cases limited : limits.lookup tag with
  | none => simp [limited] at full
  | some limit => exact ⟨tag, limit, limited, carries, by simpa [limited, Load.of] using full⟩

/-- If nothing is chosen, each queued task is blocked by those before it. -/
theorem choose_eq_none {limits : List (String × Nat)} {load : Load} {before after : List Task}
    {task : Task} (nothing : load.choose limits (before ++ task :: after) = none)
    (queued : task.state = .queued) : (load.over limits before).blocks limits task = true := by
  induction before generalizing load with
  | nil =>
    rw [List.nil_append, Load.choose, queued] at nothing
    simp only at nothing
    split at nothing
    · next blocked => exact blocked
    · cases nothing
  | cons first rest ih =>
    rw [List.cons_append, Load.choose] at nothing
    cases state : first.state with
    | running =>
      rw [state] at nothing
      have counted :
          load.over limits (first :: rest) = (load.add limits first).over limits rest := by
        simp [Load.over, state]
      rw [counted]
      exact ih nothing
    | queued =>
      have skipped : load.over limits (first :: rest) = load.over limits rest := by
        simp [Load.over, state]
      simp only [state] at nothing
      split at nothing
      · rw [skipped]
        exact ih nothing
      · cases nothing
    | pending | error =>
      have skipped : load.over limits (first :: rest) = load.over limits rest := by
        simp [Load.over, state]
      rw [state] at nothing
      rw [skipped]
      exact ih nothing

/-- A queued task that those before it in the listing block has no room. -/
theorem no_room_of_blocked (h : c.WellFormed) {before after : List Task} {task : Task}
    (split : c.list (.pending none) = before ++ task :: after) (queued : task.state = .queued)
    (blocked : (Load.over c.rateLimits.entries .empty before).blocks c.rateLimits.entries task =
      true) : ¬ c.HasRoom task := by
  intro room
  obtain ⟨tag, limit, limited, carries, full⟩ := of_ge_of_blocks blocked
  have below := room tag limit limited carries
  -- The load that blocks the task has counted every running one, for they all stand before it.
  rw [Contents.countP_running_before h split queued] at below
  rw [load_over (by rw [limited]; rfl)] at full
  exact absurd below (Nat.not_lt.mpr (by simpa [Load.of] using full))

/-- If nothing is chosen from the whole listing, no stored task is eligible. -/
theorem choose_none_eligible (h : c.WellFormed)
    (nothing : Load.choose c.rateLimits.entries .empty (c.list (.pending none)) = none)
    (id : TaskId) : ¬ c.Eligible id := by
  rintro ⟨task, stored, queued, room⟩
  have own : task.id = id := h.keyed stored
  subst own
  have listed : task ∈ c.list (.pending none) := by
    refine (Contents.mem_list h).mpr ⟨stored, ?_⟩
    simp [queued, Listing.hasBucket, Listing.includes, TaskState.bucket]
  obtain ⟨before, after, split⟩ := List.append_of_mem listed
  rw [split] at nothing
  exact no_room_of_blocked h split queued (choose_eq_none nothing queued) room

/-- An attempt that chooses nothing has looked at every task. -/
theorem chooseNext_none (h : c.WellFormed) {settings : CursorSettings}
    (somePage : settings.pageSize ≠ 0) {bound : Nat} (enough : c.tasks.size ≤ bound)
    (nothing : ((chooseNext settings bound).run.exec c).1 = .ok none) (id : TaskId) :
    ¬ c.Eligible id := by
  rw [chooseNext, Action.exec_request_bind rfl] at nothing
  split at nothing
  · -- Without limits the head of the queued tasks would have been taken.
    have whole : (Cursor.new settings : Cursor Task).range = none := rfl
    obtain ⟨rest, read, -, -⟩ :=
      Cursor.next_exec (Listing.source_shows (.inState .queued none) c) whole
    rw [ExceptT.run_mk, Program.exec_bind, read, Cursor.remaining_new somePage] at nothing
    have empty : (c.list (.inState .queued none)).head? = none := Except.ok.inj nothing
    rintro ⟨task, stored, queued, -⟩
    have own : task.id = id := h.keyed stored
    subst own
    have listed := (Contents.mem_inState h .queued (by decide)).mpr ⟨stored, queued⟩
    rw [List.head?_eq_none_iff.mp empty] at listed
    cases listed
  · rw [firstEligible_exec _ _ _ rfl, Cursor.remaining_new somePage] at nothing
    have short : (c.list (.pending none)).length ≤ bound :=
      Nat.le_trans (Contents.length_list_le h _) enough
    rw [List.take_of_length_le short] at nothing
    exact choose_none_eligible h (Except.ok.inj nothing) id

theorem acquire_none (h : c.WellFormed) {settings : CursorSettings}
    (somePage : settings.pageSize ≠ 0) {bound : Nat} (enough : c.tasks.size ≤ bound) {now : UInt64}
    {after : Aftermath}
    (nothing : ((acquire settings bound now).body.run.exec c).1 = .ok (none, after)) (id : TaskId) :
    ¬ c.Eligible id := by
  obtain ⟨choice, chosen, stored⟩ := chooseNext_exec h settings bound
  cases choice with
  | none => exact chooseNext_none h somePage enough (by rw [chosen]) id
  | some task =>
    have record : c.tasks.get? { task with started := some now }.id = some task :=
      (stored task rfl).1
    have started : (acquire settings bound now).body.run.exec c = _ :=
      (Action.exec_bind_ok chosen).trans
        (Action.exec_request_bind (Contents.answer_setState record rfl .running))
    rw [started] at nothing
    cases nothing

/-- An attempt with empty pages finds nothing. -/
theorem acquire_empty {settings : CursorSettings} (empty : settings.pageSize = 0) (bound : Nat)
    (now : UInt64) : (acquire settings bound now).body.run.exec c = (.ok (none, .quiet), c) := by
  have nothing (rows : List Task) : (Cursor.new settings).remaining rows = [] := by
    simp [Cursor.remaining, Cursor.new, Cursor.fetchesNoMore, empty]
  have chosen : (chooseNext settings bound).run.exec c = (.ok none, c) := by
    rw [chooseNext, Action.exec_request_bind rfl]
    split
    · have whole : (Cursor.new settings : Cursor Task).range = none := rfl
      obtain ⟨rest, read, -, -⟩ :=
        Cursor.next_exec (Listing.source_shows (.inState .queued none) c) whole
      rw [ExceptT.run_mk, Program.exec_bind, read, nothing]
      rfl
    · rw [firstEligible_exec _ _ _ rfl, nothing, List.take_nil]
      rfl
  rw [acquire, Action.exec_bind_ok chosen]
  rfl

/-- An attempt finds nothing if and only if nothing is offered to it. -/
theorem acquire_none_iff (h : c.WellFormed) (settings : CursorSettings) {bound : Nat}
    (enough : c.tasks.size ≤ bound) (now : UInt64) :
    ((acquire settings bound now).body.run.exec c).1 = .ok (none, .quiet) ↔
      ¬ c.Offers settings := by
  constructor
  · rintro nothing ⟨somePage, id, eligible⟩
    exact acquire_none h somePage enough nothing id eligible
  · intro nothing
    rcases acquire_exec h settings bound now with result | ⟨task, stored, queued, room, result⟩
    · rw [result]
    · refine absurd ⟨fun empty => ?_, task.id, task, stored, queued, room⟩ nothing
      rw [acquire_empty empty] at result
      cases result

end Operation

/-! ## 2. Orders that wake nobody -/

namespace Contents

variable {c : Contents}

/-- A task that begins to run counts beside those that ran before. -/
theorem runningWith_start {task : Task} (stored : c.tasks.get? task.id = some task)
    (queued : task.state = .queued) (now : UInt64) (tag : String) :
    c.runningWith tag ≤
      (c.put { task with started := some now, state := .running }).runningWith tag := by
  have absent : (c.take task.id).tasks.get? task.id = none := by rw [get?_take, if_pos rfl]
  have kept : (c.take task.id).runningWith tag = c.runningWith tag := by
    simp only [take, stored, runningWith]
    rw [Table.countP_erase _ stored]
    simp [queued]
  rw [← kept, runningWith, runningWith, values_put, Table.erase_of_get?_eq_none absent]
  exact Nat.le_add_right _ _

/-- A task that begins to run makes room for no other. -/
theorem eligible_start {task : Task} (stored : c.tasks.get? task.id = some task)
    (queued : task.state = .queued) {now : UInt64} {id : TaskId}
    (eligible : (c.put { task with started := some now, state := .running }).Eligible id) :
    c.Eligible id := by
  obtain ⟨other, found, waits, room⟩ := eligible
  rw [get?_put] at found
  split at found
  · cases found
    cases waits
  · refine ⟨other, found, waits, fun tag limit limited carries => ?_⟩
    rw [← rateLimits_put c { task with started := some now, state := .running }] at limited
    have more := runningWith_start stored queued now tag
    exact Nat.lt_of_le_of_lt more (room tag limit limited carries)

end Contents

namespace Order

variable {c : Contents}

/-- What an order that wakes nobody may have done: nothing, the start of a task, or a new retry
limit. -/
inductive Silent (c : Contents) : Contents → Prop
  | same : Silent c c
  | started {task : Task} {now : UInt64} : c.tasks.get? task.id = some task →
      task.state = .queued → Silent c (c.put { task with started := some now, state := .running })
  | retryLimited {retryLimits : Table String Nat} : Silent c { c with retryLimits }

/-- A batch that is not empty wakes those who wait. -/
theorem signal_submitAll {task : Task} {rest : List Task} {answer : Answer} {after : Aftermath}
    {settings : CursorSettings} {bound : Nat}
    (done : ((submitAll (task :: rest)).exec settings bound c).1 = .ok (answer, after)) :
    after.signal = true := by
  rw [exec, operation, Operation.map_exec, Operation.submitAll_exec] at done
  cases queued : c.queue (task :: rest) with
  | ok d =>
    rw [queued] at done
    cases done
    rfl
  | error failure =>
    rw [queued] at done
    cases done

/-- A cancel that wakes nobody changed nothing. -/
theorem cancel_silent {id : TaskId} {requeue : Bool} {answer : Answer} {after : Aftermath}
    {settings : CursorSettings} {bound : Nat} (h : c.WellFormed)
    (done : ((cancel id requeue).exec settings bound c).1 = .ok (answer, after))
    (silent : after.signal = false) : ((cancel id requeue).exec settings bound c).2 = c := by
  rw [exec, operation, Operation.map_exec] at done ⊢
  cases found : c.tasks.get? id with
  | none => rw [Operation.cancel_unknown found]
  | some task =>
    have own : task.id = id := h.keyed found
    subst own
    rw [Operation.cancel_exec found, Operation.retry_exec found] at done ⊢
    split at done
    · cases done
      cases silent
    split at done
    · next keeps notRunning => rw [if_neg keeps, if_pos notRunning]
    simp only at done
    split at done
    · cases done
      cases silent
    split at done
    · cases done
    · cases done
      cases silent

theorem exec_silent (h : c.WellFormed) (settings : CursorSettings) (bound : Nat) (order : Order)
    {answer : Answer} {after : Aftermath}
    (done : (order.exec settings bound c).1 = .ok (answer, after)) (silent : after.signal = false) :
    Silent c (order.exec settings bound c).2 := by
  cases order with
  | submitAll batch =>
    cases batch with
    | nil => exact .same
    | cons task rest =>
      rw [signal_submitAll done] at silent
      cases silent
  | acquire now =>
    rw [exec, operation, Operation.map_exec]
    rcases Operation.acquire_exec h settings bound now with
      result | ⟨task, stored, queued, -, result⟩
    · rw [result]
      exact .same
    · rw [result]
      exact .started stored queued
  | acknowledge now id =>
    rw [exec, operation, Operation.map_exec] at done ⊢
    cases found : c.tasks.get? id with
    | none =>
      rw [Operation.acknowledge_unknown found]
      exact .same
    | some task =>
      obtain ⟨estimates, result⟩ := Operation.acknowledge_exec found now
      rw [result] at done
      cases done
      cases silent
  | cancel id requeue =>
    rw [cancel_silent h done silent]
    exact .same
  | requeueAll =>
    rw [exec, operation, Operation.map_exec] at done ⊢
    rcases Operation.requeueAll_exec h settings bound with
      ⟨failure, result⟩ | ⟨tasks, -, result⟩
    · rw [result] at done
      cases done
    · rw [result] at done ⊢
      cases done
      have none : tasks = [] := by simpa using silent
      rw [none]
      exact .same
  | cancelByReference reference =>
    rw [exec, operation, Operation.map_exec, Operation.cancelByReference_exec] at done ⊢
    cases done
    have none : c.withReference reference = [] := by
      simpa [Contents.removeByReference] using silent
    simp only [Contents.removeByReference, none]
    exact .same
  | setRateLimit tag limit =>
    cases done
    cases silent
  | setMaxRetries tag limit => exact .retryLimited

/-- An order that wakes nobody leaves nothing eligible that was not eligible before. -/
theorem eligible_silent (h : c.WellFormed) {settings : CursorSettings} {bound : Nat} {order : Order}
    {answer : Answer} {after : Aftermath}
    (done : (order.exec settings bound c).1 = .ok (answer, after)) (silent : after.signal = false)
    {id : TaskId} (eligible : (order.exec settings bound c).2.Eligible id) : c.Eligible id := by
  have left := exec_silent h settings bound order done silent
  generalize (order.exec settings bound c).2 = d at left eligible
  cases left with
  | same => exact eligible
  | started stored queued => exact Contents.eligible_start stored queued eligible
  | retryLimited => exact eligible

end Order

end TaskQueue
