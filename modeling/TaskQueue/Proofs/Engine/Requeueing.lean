import TaskQueue.Proofs.Engine.Dispatch
import TaskQueue.Proofs.Engine.Places

/-!
# Putting all running tasks back

The tasks that run are read to the end, in as many parts and pages as it takes, before the first of
them is put back. So none is missed, although each that goes back leaves the listing that was read.

Results:
1. `Contents.requeues_running`: what putting back all tasks of the listing leaves.
2. `Engine.requeueAll_exact`: what an order to put all running tasks back answers and leaves.
-/

namespace TaskQueue

/-- A task after all that ran went back into the queue. -/
def Task.requeued (task : Task) : Task :=
  if task.state = .running then { task with started := none, state := .queued } else task

theorem Task.requeued_state (task : Task) : task.requeued.state ≠ .running := by
  unfold requeued
  split
  · exact nofun
  · assumption

namespace Contents

variable {c d : Contents}

/-! ## 1. The contents -/

/-- The contents with all running tasks back in the queue, and nothing else new. -/
structure Requeues (c d : Contents) : Prop where
  formed : d.WellFormed
  records : ∀ id, d.tasks.get? id = (c.tasks.get? id).map Task.requeued
  rest : d = { c with tasks := d.tasks, index := d.index }

theorem rest_foldl_putBack (tasks : List Task) :
    tasks.foldl Operation.putBack c =
      { c with
        tasks := (tasks.foldl Operation.putBack c).tasks
        index := (tasks.foldl Operation.putBack c).index } := by
  refine List.foldlRecOn
    (motive := fun d : Contents => d = { c with tasks := d.tasks, index := d.index })
    tasks _ rfl fun d kept task _ => ?_
  have put := (rewritten_put d { task with started := none, state := .queued }).rest
  rw [Operation.putBack]
  generalize d.put _ = next at put ⊢
  rw [put, kept]

theorem requeues_running (h : c.WellFormed) :
    c.Requeues ((c.list (.inState .running none)).foldl Operation.putBack c) := by
  refine ⟨h.foldl WellFormed.putBack _, fun id => ?_, rest_foldl_putBack _⟩
  have listed {task : Task} : task ∈ c.list (.inState .running none) ↔
      c.tasks.get? task.id = some task ∧ task.state = .running := mem_inState h .running nofun
  rcases get?_foldl_putBack (c.list (.inState .running none)) id with
    ⟨same, others⟩ | ⟨task, member, rfl, next, rfl, put⟩
  · rw [same]
    cases stored : c.tasks.get? id with
    | none => rfl
    | some task =>
      have own := h.keyed stored
      have waits : task.state ≠ .running := fun runs =>
        others task (listed.mpr ⟨own ▸ stored, runs⟩) own
      rw [Option.map_some, Task.requeued, if_neg waits]
  · obtain ⟨stored, runs⟩ := listed.mp member
    rw [put, stored, Option.map_some, Task.requeued, if_pos runs]

/-- A listing by state shows as many tasks as there are in that state. -/
theorem count_eq_length (h : c.WellFormed) (numbered : c.Numbered) {state : TaskState}
    (settled : state ≠ .pending) : c.count state .all = (c.list (.inState state none)).length := by
  rw [list_inState h numbered settled, length_sorted]
  rfl

/-- After all went back none is running. -/
theorem Requeues.count (requeues : c.Requeues d) : d.count .running .all = 0 := by
  rw [Contents.count, List.length_eq_zero_iff, List.filter_eq_nil_iff]
  intro task member
  obtain ⟨id, stored⟩ := Table.mem_values_iff.mp member
  rw [requeues.records] at stored
  obtain ⟨before, -, rfl⟩ := Option.map_eq_some_iff.mp stored
  simp [before.requeued_state]

end Contents

namespace Engine

variable {e : Engine}

/-! ## 2. The order -/

/-- An order to put all running tasks back, in a store that can be reached. While a section is open
it gives up in the end, and nothing changes. If none is open it answers with the number of tasks that
ran, and all of them are back in the queue; the other records, the limits, the numbering and the
estimates are as they were. Those who wait are woken if there was any. It fails only if there are so
many that the offsets of the parts do not fit 64 bits, and then nothing has changed. -/
theorem requeueAll_exact (reached : e.store.committed.Reachable)
    (somePage : e.store.settings.cursor.pageSize ≠ 0) :
    let op := Operation.requeueAll e.store.settings.cursor e.rows
    let n := e.store.committed.count .running .all
    let after : Store := { e.store with nextSection := e.store.nextSection + 1 }
    (e.store.free = false →
      e.perform op = (.error (.lockTimeout e.store.settings.lockTimeout), e)) ∧
    (e.store.free = true →
      (∃ d, e.store.committed.Requeues d ∧ d.count .running .all = 0 ∧
        e.perform op = (.ok n, { e with store := { after with
          committed := d
          changes := if 0 < n then e.store.changes.publish else e.store.changes } })) ∨
      e.perform op = (.error .overflow, { e with store := after }) ∧ UInt64.size ≤ n + 3) := by
  intro op n after
  refine ⟨fun taken => perform_refused rfl taken, fun free => ?_⟩
  have formed := reached.wellFormed
  have closed : e.store.opened = none := Option.isNone_iff_eq_none.mp free
  have isolated : op.isolated = true := rfl
  have number : n = _ := Contents.count_eq_length formed reached.numbered nofun
  rw [perform, commit, if_pos isolated, Store.isolated_eq free]
  rcases Operation.requeueAll_complete formed e.store.settings.cursor
    (Nat.lt_succ_self e.store.committed.tasks.size) with done | ⟨overflow, large⟩
  · rw [Cursor.owed_new, if_neg somePage, ← number] at done
    have requeues := Contents.requeues_running formed
    refine .inl ⟨_, requeues, requeues.count, ?_⟩
    rw [show op.body.run.exec e.store.committed = _ from done]
    simp only [conclude, Observer.notify, List.flatMap_nil, List.append_nil, Store.signal]
    have opened : after.opened = none := closed
    rw [opened]
    by_cases some : 0 < n
    · rw [if_pos (decide_eq_true some), if_pos some]
      rfl
    · rw [if_neg (mt of_decide_eq_true some), if_neg some]
      rfl
  · rw [← number] at large
    refine .inr ⟨?_, large⟩
    rw [show op.body.run.exec e.store.committed = _ from overflow, ← closed]
    rfl

/-- Seven tasks run, one waits and one has failed. There are four parts, and pages hold one row. -/
theorem requeueAll_exact_four :
    ∃ e e' : Engine, e.store.committed.Reachable ∧ e.store.settings.cursor = ⟨1, 2, 2⟩ ∧
      e.store.committed.count .running .all = 7 ∧ e.store.committed.count .queued .all = 1 ∧
      e.store.committed.count .error .all = 1 ∧
      e.perform (.requeueAll e.store.settings.cursor e.rows) = (.ok 7, e') ∧
      e.store.committed.Requeues e'.store.committed ∧
      e'.store.committed.count .running .all = 0 := by
  let task (n : Nat) : Task := Task.new (.ofNat n) 0 "job" default
  let queued : Contents := (Contents.empty.answer (.queue ((List.range 9).map task))).2
  let started : Contents := ((List.range 7).map task).foldl
    (fun c task => (c.answer (.setState task .running)).2) queued
  have waiting : queued.Reachable := .answer .empty trivial
  have working : started.Reachable :=
    List.foldlRecOn _ _ waiting fun _ reached _ _ => .answer reached nofun
  obtain ⟨c, reached, seven, one, failed⟩ : ∃ c : Contents, c.Reachable ∧
      c.count .running .all = 7 ∧ c.count .queued .all = 1 ∧ c.count .error .all = 1 :=
    ⟨(started.answer (.setState (task 8) .error)).2, .answer working nofun, by decide +kernel⟩
  let settings : StoreSettings := { StoreSettings.inMemory with cursor := ⟨1, 2, 2⟩ }
  let e : Engine := { Engine.new settings .standard with
    store := { Store.new settings with committed := c } }
  have page : settings.cursor.pageSize ≠ 0 := by decide
  have exact := (e.requeueAll_exact reached page).2 rfl
  rw [show e.store.committed.count .running .all = 7 from seven] at exact
  rcases exact with ⟨d, requeues, none, done⟩ | ⟨-, large⟩
  · exact ⟨e, _, reached, rfl, seven, one, failed, done, requeues, none⟩
  · exact absurd large (by decide)

end Engine

end TaskQueue
