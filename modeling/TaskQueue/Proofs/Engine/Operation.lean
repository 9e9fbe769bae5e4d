import TaskQueue.Proofs.Engine.Selection

/-!
# What each operation does to the contents

One lemma for each operation says what its action answers and which contents it leaves when nobody
else changes them: `submitAll_exec`, `acquire_exec`, `acknowledge_exec`, `cancel_exec`,
`requeueAll_exec`, `cancelByReference_exec` and `setRateLimit_exec`.
-/

namespace TaskQueue

namespace Contents

variable {c : Contents}

/-- A record with the number of the stored one takes its place. -/
theorem answer_setState {stored task : Task} (found : c.tasks.get? task.id = some stored)
    (order : task.order = stored.order) (state : TaskState) :
    c.answer (.setState task state) = (.ok (), c.put { task with state }) := by
  simp only [answer, setState, found, ← order]

end Contents

namespace Operation

variable {c : Contents}

/-- Another form of the answer changes nothing else. -/
theorem map_exec {α β : Type} (f : α → β) (op : Operation α) (c : Contents) :
    (op.map f).body.run.exec c =
      ((op.body.run.exec c).1.map fun r => (f r.1, r.2), (op.body.run.exec c).2) := by
  cases result : op.body.run.exec c with
  | mk answer after =>
    cases answer with
    | ok r => exact Action.exec_bind_ok result
    | error failure => exact Action.exec_bind_error result

/-! ## Submitting and acquiring -/

theorem submitAll_exec (batch : List Task) (c : Contents) :
    (submitAll batch).body.run.exec c =
      match c.queue batch with
      | .ok d => (.ok (batch.map Task.id,
          ⟨!batch.isEmpty, batch.map fun task => .submitted { task with state := .queued }⟩), d)
      | .error failure => (.error failure, c) := by
  cases batch with
  | nil => rfl
  | cons task rest =>
    cases queued : c.queue (task :: rest) with
    | ok d =>
      have answered : c.answer (.queue (task :: rest)) = (.ok (), d) := by
        simp only [Contents.answer, queued]
      exact Action.exec_request_bind answered
    | error failure =>
      have answered : c.answer (.queue (task :: rest)) = (.error failure, c) := by
        simp only [Contents.answer, queued]
      exact Action.exec_bind_error answered

/-- An attempt to acquire marks a queued task with room as running, or changes nothing. -/
theorem acquire_exec (h : c.WellFormed) (settings : CursorSettings) (bound : Nat) (now : UInt64) :
    (acquire settings bound now).body.run.exec c = (.ok (none, .quiet), c) ∨
      ∃ task, c.tasks.get? task.id = some task ∧ task.state = .queued ∧ c.HasRoom task ∧
        (acquire settings bound now).body.run.exec c =
          (.ok (some { task with started := some now, state := .running },
            ⟨false, [.acquired { task with started := some now, state := .running }]⟩),
            c.put { task with started := some now, state := .running }) := by
  obtain ⟨choice, chosen, stored⟩ := chooseNext_exec h settings bound
  rw [acquire, Action.exec_bind_ok chosen]
  cases choice with
  | none => exact .inl rfl
  | some task =>
    obtain ⟨found, queued, room⟩ := stored task rfl
    refine .inr ⟨task, found, queued, room, ?_⟩
    have record : c.tasks.get? { task with started := some now }.id = some task := found
    exact Action.exec_request_bind (Contents.answer_setState record rfl .running)

/-! ## Settling -/

theorem acknowledge_unknown {id : TaskId} (unknown : c.tasks.get? id = none) (now : UInt64) :
    (acknowledge now id).body.run.exec c = (.ok (false, .quiet), c) := by
  have answered : c.answer (.get id) = (.ok none, c) := by rw [Contents.answer, unknown]
  exact Action.exec_request_bind answered

theorem acknowledge_exec {id : TaskId} {task : Task} (found : c.tasks.get? id = some task)
    (now : UInt64) :
    ∃ estimates, (acknowledge now id).body.run.exec c =
      (.ok (true, ⟨true, [.done task .completed]⟩), { c.take id with estimates }) := by
  have answered : c.answer (.get id) = (.ok (some task), c) := by rw [Contents.answer, found]
  have removed : c.answer (.remove id) = (.ok true, c.take id) := by
    simp only [Contents.answer, Contents.remove, Table.contains, found, Option.isSome_some]
  rw [acknowledge, Action.exec_request_bind answered]
  simp only
  rw [Action.exec_request_bind removed]
  split
  · exact ⟨_, rfl⟩
  · exact ⟨_, rfl⟩

/-- What a retry of a running task answers and leaves. -/
theorem retry_exec {task : Task} (found : c.tasks.get? task.id = some task) :
    (retry task).run.exec c =
      let limit := Contents.limitOf (Contents.largestLimit c.retryLimits task.tags.toList)
      if 0 < limit ∧ limit ≤ task.attempts.toNat then
        (.ok (true, ⟨true, [.done { task with state := .error } .failed]⟩),
          c.put { task with state := .error })
      else if task.attempts = maxAttempts then (.error .overflow, c)
      else
        let again := { task with
          attempts := task.attempts + 1, started := none, state := .queued }
        (.ok (true, ⟨true, [.done again .requeued]⟩), c.put again) := by
  have limit : (Action.request (.maxRetries task.tags.toList)).run.exec c =
      (.ok (Contents.limitOf (Contents.largestLimit c.retryLimits task.tags.toList)), c) := rfl
  refine (Action.exec_bind_ok limit).trans ?_
  simp only
  split
  · exact Action.exec_request_bind (Contents.answer_setState found rfl .error)
  split
  · rfl
  · have record : c.tasks.get?
        { task with attempts := task.attempts + 1, started := none }.id = some task := found
    exact Action.exec_request_bind (Contents.answer_setState record rfl .queued)

theorem cancel_unknown {id : TaskId} (unknown : c.tasks.get? id = none) (requeue : Bool) :
    (cancel id requeue).body.run.exec c = (.ok (false, .quiet), c) := by
  have answered : c.answer (.get id) = (.ok none, c) := by rw [Contents.answer, unknown]
  exact Action.exec_request_bind answered

/-- Without `requeue` a stored task is removed, else it is retried if it is running. -/
theorem cancel_exec {id : TaskId} {task : Task} (found : c.tasks.get? id = some task)
    (requeue : Bool) :
    (cancel id requeue).body.run.exec c =
      if requeue = false then (.ok (true, ⟨true, [.done task .cancelled]⟩), c.take id)
      else if task.state ≠ .running then (.ok (false, .quiet), c)
      else (retry task).run.exec c := by
  have answered : c.answer (.get id) = (.ok (some task), c) := by rw [Contents.answer, found]
  have removed : c.answer (.remove id) = (.ok true, c.take id) := by
    simp only [Contents.answer, Contents.remove, Table.contains, found, Option.isSome_some]
  rw [cancel, Action.exec_request_bind answered]
  cases requeue with
  | false =>
    simp only [Bool.not_false, if_true]
    rw [Action.exec_request_bind removed]
    rfl
  | true =>
    simp only [Bool.not_true, Bool.false_eq_true, if_false, Bool.true_eq_false]
    split <;> rfl

/-! ## Putting running tasks back -/

/-- The contents after a running task went back into the queue. -/
def putBack (c : Contents) (task : Task) : Contents :=
  c.put { task with started := none, state := .queued }

theorem putBack_each (tasks : List Task)
    (stored : ∀ task ∈ tasks, ∃ old, c.tasks.get? task.id = some old ∧ task.order = old.order) :
    (tasks.forM fun task =>
      Action.request (.setState { task with started := none } .queued)).run.exec c =
        (.ok (), tasks.foldl putBack c) := by
  induction tasks generalizing c with
  | nil => rfl
  | cons task rest ih =>
    obtain ⟨old, found, order⟩ := stored task List.mem_cons_self
    have record : c.tasks.get? { task with started := none }.id = some old := found
    have put : (Action.request (.setState { task with started := none } .queued)).run.exec c =
        (.ok (), putBack c task) := Contents.answer_setState record order .queued
    refine (Action.exec_bind_ok put).trans ?_
    refine ih fun other member => ?_
    obtain ⟨kept, known, same⟩ := stored other (List.mem_cons_of_mem task member)
    rw [putBack, Contents.get?_put]
    split
    · next again =>
      have again : other.id = task.id := again
      rw [again, found] at known
      cases known
      exact ⟨_, rfl, same.trans order.symm⟩
    · exact ⟨kept, known, same⟩

/-- Running tasks of the store go back into the queue, or nothing changes. -/
theorem requeueAll_exec (h : c.WellFormed) (settings : CursorSettings) (bound : Nat) :
    (∃ failure, (requeueAll settings bound).body.run.exec c = (.error failure, c)) ∨
      ∃ tasks : List Task,
        (∀ task ∈ tasks, c.tasks.get? task.id = some task ∧ task.state = .running) ∧
        (requeueAll settings bound).body.run.exec c =
          (.ok (tasks.length, ⟨0 < tasks.length, []⟩), tasks.foldl putBack c) := by
  have shows := Listing.source_shows (.inState .running none) c
  have fresh : (Cursor.new settings : Cursor Task).buffer = [] := rfl
  obtain ⟨result, split, empty⟩ := Cursor.split_exec shows fresh
  cases result with
  | error failure => exact .inl ⟨failure, Action.exec_bind_error split⟩
  | ok parts =>
    obtain ⟨tasks, read, known⟩ := Cursor.collectParts_exec shows bound (empty parts rfl)
    have stored : ∀ task ∈ tasks, c.tasks.get? task.id = some task ∧ task.state = .running :=
      fun task member => (Contents.mem_inState h .running nofun).mp (known task member)
    refine .inr ⟨tasks, stored, ?_⟩
    have put := putBack_each tasks fun task member => ⟨task, (stored task member).1, rfl⟩
    refine (Action.exec_bind_ok (x := ExceptT.mk _) split).trans ?_
    refine (Action.exec_bind_ok (x := ExceptT.mk _) read).trans ?_
    exact Action.exec_bind_ok put

/-! ## Many tasks, and limits -/

theorem cancelByReference_exec (reference : String) (c : Contents) :
    (cancelByReference reference).body.run.exec c =
      (.ok ((c.removeByReference reference).1, ⟨0 < (c.removeByReference reference).1, []⟩),
        (c.removeByReference reference).2) :=
  rfl

theorem setRateLimit_exec (tag : String) (limit : Int) (c : Contents) :
    (setRateLimit tag limit).body.run.exec c =
      (.ok ((), .wake), { c with rateLimits := Contents.setLimit c.rateLimits tag limit }) :=
  rfl

end Operation

end TaskQueue
