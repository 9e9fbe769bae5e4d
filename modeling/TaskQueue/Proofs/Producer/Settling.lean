import TaskQueue.Proofs.Engine.Calls
import TaskQueue.Proofs.Producer.Steps

/-!
# Which tasks run

A task begins to run when someone acquires it, and stops when it is settled: it is reported done, or
given up.

Results:
1. `Order.Outcome.stops`, `Order.Outcome.leaves`: settling a task starts none, stops that one if it
   succeeds, and leaves the others as they are.
2. `Call.Settles.step_cases`: what a step of a call that settles a task does; `Call.Settles.step` and
   `Call.Settles.leaves`: it starts none, and leaves the others as they are.
3. `Acquirer.step_cases`: what a step of someone who acquires does; `Acquirer.step_starts` and
   `Acquirer.step_keeps`: they start only the task that they return, which did not run before, and
   stop none.
-/

namespace TaskQueue

/-! ## 1. Running tasks -/

namespace Contents

/-- A stored task is running. -/
def Runs (c : Contents) (id : TaskId) : Prop :=
  ∃ task, c.tasks.get? id = some task ∧ task.state = .running

variable {c d : Contents} {id other : TaskId}

theorem runs_take (runs : (c.take id).Runs other) : other ≠ id ∧ c.Runs other := by
  obtain ⟨task, stored, running⟩ := runs
  rw [get?_take] at stored
  split at stored
  · cases stored
  · next differs => exact ⟨differs, task, stored, running⟩

/-- A task that is put in and does not run has stopped. -/
theorem runs_put {task : Task} (idle : task.state ≠ .running) (runs : (c.put task).Runs other) :
    other ≠ task.id ∧ c.Runs other := by
  obtain ⟨stored, found, running⟩ := runs
  rw [get?_put] at found
  split at found
  · cases found
    exact absurd running idle
  · next differs => exact ⟨differs, stored, found, running⟩

/-- Whatever is put in, the other tasks run as before. -/
theorem runs_put_other {task : Task} (runs : (c.put task).Runs other) :
    other = task.id ∨ c.Runs other := by
  obtain ⟨stored, found, running⟩ := runs
  rw [get?_put] at found
  split at found
  · next same => exact .inl same
  · exact .inr ⟨stored, found, running⟩

end Contents

theorem Service.isRunning_iff {v : Service} {id : TaskId} :
    v.isRunning id = .ok true ↔ v.engine.store.committed.Runs id := by
  rw [isRunning_eq, Contents.Runs]
  cases v.engine.store.committed.tasks.get? id <;> simp

/-- An order that settles a task: the task is done, or given up. -/
def Order.Settles (id : TaskId) (order : Order) : Prop :=
  (∃ now, order = .acknowledge now id) ∨ ∃ requeue, order = .cancel id requeue

/-- Settling a task starts none, and stops that one if it succeeds. -/
theorem Order.Outcome.stops {c d : Contents} {order : Order} {id : TaskId}
    {result : Except Failure (Order.Answer × Aftermath)} (h : c.WellFormed)
    (outcome : Outcome c order result d) (settles : order.Settles id) {other : TaskId}
    (runs : d.Runs other) : c.Runs other ∧ (other = id → ∃ failure, result = .error failure) := by
  rcases settles with ⟨now, rfl⟩ | ⟨requeue, rfl⟩
  · cases outcome with
    | unknown absent =>
      refine ⟨runs, ?_⟩
      rintro rfl
      obtain ⟨task, stored, -⟩ := runs
      rw [absent] at stored
      cases stored
    | acknowledged _ =>
      have kept : other ≠ id ∧ c.Runs other := Contents.runs_take runs
      exact ⟨kept.2, fun same => absurd same kept.1⟩
  · cases outcome with
    | absent absent =>
      refine ⟨runs, ?_⟩
      rintro rfl
      obtain ⟨task, stored, -⟩ := runs
      rw [absent] at stored
      cases stored
    | cancelled _ =>
      have kept := Contents.runs_take runs
      exact ⟨kept.2, fun same => absurd same kept.1⟩
    | notRunning found idle =>
      refine ⟨runs, ?_⟩
      rintro rfl
      obtain ⟨task, stored, running⟩ := runs
      rw [found] at stored
      cases stored
      exact absurd running idle
    | failed found _ _ =>
      have kept := Contents.runs_put (by simp) runs
      exact ⟨kept.2, fun same => absurd (same.trans (h.keyed found).symm) kept.1⟩
    | retried found _ _ _ =>
      have kept := Contents.runs_put (by simp) runs
      exact ⟨kept.2, fun same => absurd (same.trans (h.keyed found).symm) kept.1⟩
    | overflow _ _ _ _ => exact ⟨runs, fun _ => ⟨_, rfl⟩⟩

/-- Settling a task leaves the others as they are. -/
theorem Order.Outcome.leaves {c d : Contents} {order : Order} {id other : TaskId}
    {result : Except Failure (Order.Answer × Aftermath)} (h : c.WellFormed)
    (outcome : Outcome c order result d) (settles : order.Settles id) (differs : other ≠ id) :
    d.tasks.get? other = c.tasks.get? other := by
  have taken : (c.take id).tasks.get? other = c.tasks.get? other :=
    (Contents.get?_take c id other).trans (if_neg differs)
  have put : ∀ task again : Task, c.tasks.get? id = some task → again.id = task.id →
      (c.put again).tasks.get? other = c.tasks.get? other := by
    intro task again found same
    rw [Contents.get?_put, if_neg (by rwa [same, h.keyed found])]
  rcases settles with ⟨now, rfl⟩ | ⟨requeue, rfl⟩
  · cases outcome with
    | unknown _ => rfl
    | acknowledged _ => exact taken
  · cases outcome with
    | cancelled _ => exact taken
    | failed found _ _ | retried found _ _ _ => exact put _ _ found rfl
    | absent _ | notRunning _ _ | overflow _ _ _ _ => rfl

/-! ## 2. Calls -/

/-- An operation that settles a task. -/
def Operation.Settles (id : TaskId) (op : Operation Bool) : Prop :=
  (∃ now, op = acknowledge now id) ∨ ∃ requeue, op = cancel id requeue

theorem Operation.Settles.isolated {op : Operation Bool} {id : TaskId} (settles : op.Settles id) :
    op.isolated = true := by
  rcases settles with ⟨now, rfl⟩ | ⟨requeue, rfl⟩ <;> rfl

/-- What an operation that settles a task does is done by an order. -/
theorem Operation.Settles.order {op : Operation Bool} {id : TaskId} (settles : op.Settles id)
    (c : Contents) : ∃ order : Order, order.Settles id ∧
      order.exec .standard 0 c = ((op.body.run.exec c).1.map fun r => (.flag r.1, r.2),
        (op.body.run.exec c).2) := by
  rcases settles with ⟨now, rfl⟩ | ⟨requeue, rfl⟩
  · exact ⟨.acknowledge now id, .inl ⟨now, rfl⟩, map_exec _ _ c⟩
  · exact ⟨.cancel id requeue, .inr ⟨requeue, rfl⟩, map_exec _ _ c⟩

/-- Settling a task leaves the others as they are. -/
theorem Operation.Settles.leaves {op : Operation Bool} {c : Contents} {id other : TaskId}
    (settles : op.Settles id) (h : c.WellFormed) (differs : other ≠ id) :
    (op.body.run.exec c).2.tasks.get? other = c.tasks.get? other := by
  obtain ⟨order, settles, exec⟩ := settles.order c
  have outcome := order.exec_outcome h .standard 0
  rw [exec] at outcome
  exact outcome.leaves h settles differs

/-- Settling a task starts none, and stops that one if it succeeds. -/
theorem Operation.Settles.stops {op : Operation Bool} {c : Contents} {id other : TaskId}
    (settles : op.Settles id) (h : c.WellFormed) (runs : (op.body.run.exec c).2.Runs other) :
    c.Runs other ∧ (other = id → ∃ failure, (op.body.run.exec c).1 = .error failure) := by
  obtain ⟨order, settles, exec⟩ := settles.order c
  have outcome := order.exec_outcome h .standard 0
  rw [exec] at outcome
  refine (outcome.stops h settles runs).imp_right fun stops same => ?_
  obtain ⟨failure, failed⟩ := stops same
  cases result : (op.body.run.exec c).1 with
  | ok r =>
    rw [result] at failed
    cases failed
  | error failure => exact ⟨failure, rfl⟩

namespace Call

/-- A call on its way that settles a task. -/
def Settles (id : TaskId) : Call Bool → Prop
  | .starting op => op.Settles id
  | .entering body _ => ∃ op : Operation Bool, op.Settles id ∧ body = op.body
  | .writing _ _ => False
  | .finished _ => True

/-- A call that has failed. -/
def hasFailed (c : Call Bool) : Bool :=
  c.result?.any fun result => !result.isOk

variable {e e' : Engine} {c c' : Call Bool} {id : TaskId} {now : Nat}

/-- A step of a call that settles a task leaves all tasks as they are, and the call goes on or has
failed; or it does what the operation does. -/
theorem Settles.step_cases (settles : c.Settles id) (step : c.step now e = some (e', c')) :
    c'.Settles id ∧
      (e'.store.committed = e.store.committed ∧ (c'.result? = none ∨ c'.hasFailed = true) ∨
        ∃ (op : Operation Bool) (r : Bool × Aftermath), op.Settles id ∧
          op.body.run.exec e.store.committed = (.ok r, e'.store.committed)) := by
  cases step_does step with
  | waits => exact ⟨⟨_, settles, rfl⟩, .inl ⟨rfl, .inl rfl⟩⟩
  | starts outside =>
    rw [Operation.Settles.isolated settles] at outside
    cases outside
  | enters free =>
    obtain ⟨op, settles, rfl⟩ := settles
    rw [Store.isolated_eq free]
    rcases outcome : op.body.run.exec e.store.committed with ⟨result, after⟩
    cases result with
    | ok r =>
      refine ⟨trivial, .inr ⟨op, r, settles, ?_⟩⟩
      rw [outcome, conclude, Order.conclude_committed]
      rfl
    | error failure => exact ⟨trivial, .inl ⟨rfl, .inr rfl⟩⟩
  | givesUp => exact ⟨trivial, .inl ⟨rfl, .inr rfl⟩⟩
  | writes | refused => cases settles

/-- A step of a call that settles a task starts none. While the task runs, the call is not over, or
it has failed. -/
theorem Settles.step (settles : c.Settles id) (h : e.store.committed.WellFormed)
    (step : c.step now e = some (e', c')) :
    c'.Settles id ∧ ∀ other, e'.store.committed.Runs other → e.store.committed.Runs other ∧
      (other = id → c'.result? = none ∨ c'.hasFailed = true) := by
  obtain ⟨settles', ⟨same, goesOn⟩ | ⟨op, r, own, done⟩⟩ := settles.step_cases step
  · rw [same]
    exact ⟨settles', fun other runs => ⟨runs, fun _ => goesOn⟩⟩
  · refine ⟨settles', fun other runs => ?_⟩
    have stops := @Operation.Settles.stops op e.store.committed id other own h
    rw [done] at stops
    refine (stops runs).imp_right fun failed same => ?_
    obtain ⟨failure, ends⟩ := failed same
    cases ends

/-- A step of a call that settles a task leaves the others as they are. -/
theorem Settles.leaves (settles : c.Settles id) (h : e.store.committed.WellFormed)
    (step : c.step now e = some (e', c')) {other : TaskId} (differs : other ≠ id) :
    e'.store.committed.tasks.get? other = e.store.committed.tasks.get? other := by
  obtain ⟨-, ⟨same, -⟩ | ⟨op, r, own, done⟩⟩ := settles.step_cases step
  · rw [same]
  · have left := own.leaves h differs
    rwa [done] at left

end Call

/-! ## 3. Acquirers -/

/-- An acquire that is over takes no step. -/
theorem Acquirer.step_over {e : Engine} {a : Acquirer} {now : Nat} {wall : UInt64}
    (ended : a.result?.isSome = true) : a.step now wall e = none := by
  unfold result? at ended
  unfold Acquirer.step
  cases stage : a.stage with
  | finished result => rfl
  | trying | entering _ | waiting _ => simp [stage] at ended

/-- A step of someone who acquires leaves all tasks as they are and chooses none, or chooses a queued
task, which runs from then on. -/
theorem Acquirer.step_cases {e e' : Engine} {a a' : Acquirer} {now : Nat} {wall : UInt64}
    (h : e.store.committed.WellFormed) (step : a.step now wall e = some (e', a')) :
    (e'.store.committed = e.store.committed ∧ ∀ task, a'.result? ≠ some (.ok (some task))) ∨
      ∃ task : Task, e.store.committed.tasks.get? task.id = some task ∧ task.state = .queued ∧
        e'.store.committed =
          e.store.committed.put { task with started := some wall, state := .running } ∧
        a'.result? = some (.ok (some { task with started := some wall, state := .running })) := by
  cases step_does step with
  | givesUp | enters | retries => exact .inl ⟨rfl, by rintro _ ⟨⟩⟩
  | attempts _ free attempt =>
    rcases attempt_cases h free a now wall with
      ⟨next, ⟨notices, number, rfl⟩, result, -⟩ |
      ⟨next, task, stored, queued, -, ⟨notices, number, rfl⟩, result, -⟩
    · rw [result] at attempt
      cases attempt
      exact .inl ⟨rfl, afterMiss_chosen _ _ _⟩
    · rw [result] at attempt
      cases attempt
      exact .inr ⟨task, stored, queued, rfl, rfl⟩
  | hears => exact .inl ⟨rfl, wake_chosen _ _ _⟩

/-- Someone who acquires starts only the task that they return. -/
theorem Acquirer.step_starts {e e' : Engine} {a a' : Acquirer} {now : Nat} {wall : UInt64}
    (h : e.store.committed.WellFormed) (step : a.step now wall e = some (e', a')) {id : TaskId}
    (runs : e'.store.committed.Runs id) :
    e.store.committed.Runs id ∨ ∃ task, a'.result? = some (.ok (some task)) ∧ task.id = id := by
  obtain ⟨same, -⟩ | ⟨task, -, -, put, chosen⟩ := step_cases h step
  · exact .inl (same ▸ runs)
  · rw [put] at runs
    rcases Contents.runs_put_other runs with own | before
    · exact .inr ⟨_, chosen, own.symm⟩
    · exact .inl before

/-- Someone who acquires stops no task, and the one that they return did not run before. -/
theorem Acquirer.step_keeps {e e' : Engine} {a a' : Acquirer} {now : Nat} {wall : UInt64}
    (h : e.store.committed.WellFormed) (step : a.step now wall e = some (e', a')) :
    (∀ id, e.store.committed.Runs id → e'.store.committed.Runs id) ∧
      ∀ task, a'.result? = some (.ok (some task)) →
        e'.store.committed.Runs task.id ∧ ¬ e.store.committed.Runs task.id := by
  obtain ⟨same, none⟩ | ⟨task, stored, queued, put, chosen⟩ := step_cases h step
  · rw [same]
    exact ⟨fun _ => id, fun task chosen => absurd chosen (none task)⟩
  · rw [put, chosen]
    refine ⟨fun other runs => ?_, ?_⟩
    · by_cases own : other = task.id
      · exact ⟨_, (Contents.get?_put _ _ other).trans (if_pos own), rfl⟩
      · obtain ⟨record, found, running⟩ := runs
        exact ⟨record, (Contents.get?_put _ _ other).trans ((if_neg own).trans found), running⟩
    · rintro _ ⟨⟩
      refine ⟨⟨_, (Contents.get?_put _ _ _).trans (if_pos rfl), rfl⟩, ?_⟩
      rintro ⟨record, found, running⟩
      rw [stored] at found
      cases found
      rw [queued] at running
      cases running

end TaskQueue
