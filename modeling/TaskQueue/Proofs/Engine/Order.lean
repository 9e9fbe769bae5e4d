import TaskQueue.Engine
import TaskQueue.Proofs.Engine.Operation

/-!
# Orders: the operations that change a queue

`Order` lists every operation that changes what an engine stores, with one type of answers, so a
history or an interleaving of operations is a list of orders. `Order.Outcome` says everything an
order can do.

Results:
1. `exec_outcome`: what an order answers and leaves is one of its outcomes.
2. `Outcome.follows`: an order keeps contents well-formed and leaves no more running tasks with a
   tag than there were, or no more than the tag's limit.
3. `perform_order`: an order given to an engine is one change of its committed contents.
-/

namespace TaskQueue

/-- An operation that may change the queue. -/
inductive Order
  | submitAll (batch : List Task)
  /-- One attempt to take a task at a point in time. -/
  | acquire (now : UInt64)
  | acknowledge (now : UInt64) (id : TaskId)
  | cancel (id : TaskId) (requeue : Bool)
  | requeueAll
  | cancelByReference (reference : String)
  | setRateLimit (tag : String) (limit : Int)
  | setMaxRetries (tag : String) (limit : Int)

/-- The answer to an order. -/
inductive Order.Answer
  | ids (ids : List TaskId)
  | task (task : Option Task)
  | flag (flag : Bool)
  | number (n : Nat)
  | done

namespace Order

/-- The operation of an order, for cursors with some settings over at most `bound` rows. -/
def operation (settings : CursorSettings) (bound : Nat) : Order → Operation Order.Answer
  | .submitAll batch => (Operation.submitAll batch).map .ids
  | .acquire now => (Operation.acquire settings bound now).map .task
  | .acknowledge now id => (Operation.acknowledge now id).map .flag
  | .cancel id requeue => (Operation.cancel id requeue).map .flag
  | .requeueAll => (Operation.requeueAll settings bound).map .number
  | .cancelByReference reference => (Operation.cancelByReference reference).map .number
  | .setRateLimit tag limit => (Operation.setRateLimit tag limit).map fun _ => .done
  | .setMaxRetries tag limit =>
    ⟨false, do
      Action.request (.setMaxRetries tag limit)
      return (.done, .quiet)⟩

/-- The answer to an order and the contents after it, when nobody else changes them. -/
def exec (settings : CursorSettings) (bound : Nat) (order : Order) (c : Contents) :
    Except Failure (Order.Answer × Aftermath) × Contents :=
  (order.operation settings bound).body.run.exec c

end Order

/-- The largest retry limit of a task's tags, -1 if none of them has one. -/
def Contents.retryLimit (c : Contents) (task : Task) : Int :=
  limitOf (largestLimit c.retryLimits task.tags.toList)

/-- A task has used up all its retries. -/
def Contents.Exhausts (c : Contents) (task : Task) : Prop :=
  0 < c.retryLimit task ∧ c.retryLimit task ≤ task.attempts.toNat

/-- Everything that an order can do to contents: its answer and what it leaves. -/
inductive Order.Outcome (c : Contents) :
    Order → Except Failure (Order.Answer × Aftermath) → Contents → Prop
  | queued {batch : List Task} {d : Contents} {after : Aftermath} : c.queue batch = .ok d →
      Outcome c (.submitAll batch) (.ok (.ids (batch.map Task.id), after)) d
  | duplicate {batch : List Task} {failure : Failure} : c.queue batch = .error failure →
      Outcome c (.submitAll batch) (.error failure) c
  | idle {now : UInt64} : Outcome c (.acquire now) (.ok (.task none, .quiet)) c
  | started {now : UInt64} {task : Task} {after : Aftermath} :
      c.tasks.get? task.id = some task → task.state = .queued → c.HasRoom task →
      Outcome c (.acquire now)
        (.ok (.task (some { task with started := some now, state := .running }), after))
        (c.put { task with started := some now, state := .running })
  | unknown {now : UInt64} {id : TaskId} : c.tasks.get? id = none →
      Outcome c (.acknowledge now id) (.ok (.flag false, .quiet)) c
  | acknowledged {now : UInt64} {id : TaskId} {task : Task} {after : Aftermath}
      {estimates : Table String Estimate} : c.tasks.get? id = some task →
      Outcome c (.acknowledge now id) (.ok (.flag true, after)) { c.take id with estimates }
  | absent {id : TaskId} {requeue : Bool} : c.tasks.get? id = none →
      Outcome c (.cancel id requeue) (.ok (.flag false, .quiet)) c
  | cancelled {id : TaskId} {task : Task} {after : Aftermath} : c.tasks.get? id = some task →
      Outcome c (.cancel id false) (.ok (.flag true, after)) (c.take id)
  | notRunning {id : TaskId} {task : Task} : c.tasks.get? id = some task → task.state ≠ .running →
      Outcome c (.cancel id true) (.ok (.flag false, .quiet)) c
  | failed {id : TaskId} {task : Task} {after : Aftermath} :
      c.tasks.get? id = some task → task.state = .running → c.Exhausts task →
      Outcome c (.cancel id true) (.ok (.flag true, after)) (c.put { task with state := .error })
  | retried {id : TaskId} {task : Task} {after : Aftermath} :
      c.tasks.get? id = some task → task.state = .running → ¬ c.Exhausts task →
      task.attempts ≠ Operation.maxAttempts →
      Outcome c (.cancel id true) (.ok (.flag true, after)) (c.put { task with
        attempts := task.attempts + 1, started := none, state := .queued })
  | overflow {id : TaskId} {task : Task} :
      c.tasks.get? id = some task → task.state = .running → ¬ c.Exhausts task →
      task.attempts = Operation.maxAttempts → Outcome c (.cancel id true) (.error .overflow) c
  | requeued {tasks : List Task} {after : Aftermath} :
      (∀ task ∈ tasks, c.tasks.get? task.id = some task ∧ task.state = .running) →
      Outcome c .requeueAll (.ok (.number tasks.length, after)) (tasks.foldl Operation.putBack c)
  | unread {failure : Failure} : Outcome c .requeueAll (.error failure) c
  | removed {reference : String} {after : Aftermath} :
      Outcome c (.cancelByReference reference)
        (.ok (.number (c.removeByReference reference).1, after)) (c.removeByReference reference).2
  | limited {tag : String} {limit : Int} {after : Aftermath} :
      Outcome c (.setRateLimit tag limit) (.ok (.done, after))
        { c with rateLimits := Contents.setLimit c.rateLimits tag limit }
  | retryLimited {tag : String} {limit : Int} {after : Aftermath} :
      Outcome c (.setMaxRetries tag limit) (.ok (.done, after))
        { c with retryLimits := Contents.setLimit c.retryLimits tag limit }

namespace Order

variable {c d : Contents} {order : Order} {result : Except Failure (Order.Answer × Aftermath)}

/-! ## 1. Outcomes -/

theorem cancel_outcome (h : c.WellFormed) (settings : CursorSettings) (bound : Nat) (id : TaskId)
    (requeue : Bool) :
    Outcome c (.cancel id requeue) ((cancel id requeue).exec settings bound c).1
      ((cancel id requeue).exec settings bound c).2 := by
  unfold exec operation
  rw [Operation.map_exec]
  cases found : c.tasks.get? id with
  | none =>
    rw [Operation.cancel_unknown found]
    exact .absent found
  | some task =>
    rw [Operation.cancel_exec found]
    cases requeue with
    | false => exact .cancelled found
    | true =>
      rw [if_neg (by simp)]
      split
      · next notRunning => exact .notRunning found notRunning
      · next running =>
        have running : task.state = .running := Decidable.not_not.mp running
        have stored : c.tasks.get? task.id = some task := by rw [h.keyed found, found]
        rw [Operation.retry_exec stored]
        simp only
        split
        · next exhausted => exact .failed found running exhausted
        · next left =>
          split
          · next most => exact .overflow found running left most
          · next most => exact .retried found running left most

theorem exec_outcome (h : c.WellFormed) (settings : CursorSettings) (bound : Nat) (order : Order) :
    Outcome c order (order.exec settings bound c).1 (order.exec settings bound c).2 := by
  cases order with
  | submitAll batch =>
    rw [exec, operation, Operation.map_exec, Operation.submitAll_exec]
    cases queued : c.queue batch with
    | error failure => exact .duplicate queued
    | ok d => exact .queued queued
  | acquire now =>
    rw [exec, operation, Operation.map_exec]
    rcases Operation.acquire_exec h settings bound now with
      result | ⟨task, found, queued, room, result⟩
    · rw [result]
      exact .idle
    · rw [result]
      exact .started found queued room
  | acknowledge now id =>
    rw [exec, operation, Operation.map_exec]
    cases found : c.tasks.get? id with
    | none =>
      rw [Operation.acknowledge_unknown found]
      exact .unknown found
    | some task =>
      obtain ⟨estimates, result⟩ := Operation.acknowledge_exec found now
      rw [result]
      exact .acknowledged found
  | cancel id requeue => exact cancel_outcome h settings bound id requeue
  | requeueAll =>
    rw [exec, operation, Operation.map_exec]
    rcases Operation.requeueAll_exec h settings bound with
      ⟨failure, result⟩ | ⟨tasks, known, result⟩
    · rw [result]
      exact .unread
    · rw [result]
      exact .requeued known
  | cancelByReference reference =>
    rw [exec, operation, Operation.map_exec, Operation.cancelByReference_exec]
    exact .removed
  | setRateLimit tag limit =>
    rw [exec, operation, Operation.map_exec, Operation.setRateLimit_exec]
    exact .limited
  | setMaxRetries tag limit => exact .retryLimited

/-- An order that fails changes nothing. -/
theorem Outcome.of_error {failure : Failure} (outcome : Outcome c order (.error failure) d) :
    d = c := by
  cases outcome <;> rfl

end Order

namespace Contents

variable {c : Contents}

/-! ## 2. Running tasks -/

theorem runningWith_take_le (c : Contents) (id : TaskId) (tag : String) :
    (c.take id).runningWith tag ≤ c.runningWith tag := by
  unfold take
  split
  · exact Nat.le_refl _
  · next stored =>
    simp only [runningWith]
    rw [Table.countP_erase _ stored]
    exact Nat.le_add_right _ _

theorem values_put (c : Contents) (task : Task) (p : Task → Bool) :
    (c.put task).tasks.values.countP p =
      ((c.take task.id).tasks.erase task.id).values.countP p + if p task then 1 else 0 :=
  Table.countP_insert _ _ _ _

/-- A record that is put in counts itself instead of what it replaces. -/
theorem runningWith_put_le (c : Contents) (task : Task) (tag : String) :
    (c.put task).runningWith tag ≤
      c.runningWith tag + if task.state = .running ∧ task.hasTag tag = true then 1 else 0 := by
  have absent : (c.take task.id).tasks.get? task.id = none := by rw [get?_take, if_pos rfl]
  have kept := runningWith_take_le c task.id tag
  rw [runningWith, values_put, Table.erase_of_get?_eq_none absent]
  simp only [Bool.and_eq_true, decide_eq_true_eq]
  exact Nat.add_le_add_right kept _

theorem runningWith_put_idle {task : Task} (idle : task.state ≠ .running) (tag : String) :
    (c.put task).runningWith tag ≤ c.runningWith tag := by
  have counted := runningWith_put_le c task tag
  rw [if_neg fun both => idle both.1] at counted
  exact counted

theorem runningWith_append_le (c : Contents) (task : Task) (tag : String) :
    (c.append task).runningWith tag ≤ c.runningWith tag := by
  have idle : { task with order := c.nextOrder, state := .queued }.state ≠ .running :=
    fun same => nomatch same
  exact runningWith_put_idle idle tag

theorem runningWith_foldl_le {α : Type} {change : Contents → α → Contents} {tag : String}
    (each : ∀ c a, (change c a).runningWith tag ≤ c.runningWith tag) (items : List α) :
    (items.foldl change c).runningWith tag ≤ c.runningWith tag :=
  List.foldlRecOn items change (Nat.le_refl _) fun d fewer item _ =>
    Nat.le_trans (each d item) fewer

theorem runningWith_putBack_le (c : Contents) (task : Task) (tag : String) :
    (Operation.putBack c task).runningWith tag ≤ c.runningWith tag := by
  have idle : { task with started := none, state := .queued }.state ≠ .running :=
    fun same => nomatch same
  exact runningWith_put_idle idle tag

theorem WellFormed.putBack (h : c.WellFormed) (task : Task) :
    (Operation.putBack c task).WellFormed :=
  h.put fun same => nomatch same

/-- What a batch of new tasks leaves. -/
theorem queue_eq_ok {d : Contents} {batch : List Task} (queued : c.queue batch = .ok d) :
    d = batch.foldl append c := by
  unfold queue at queued
  split at queued
  · cases queued
  · exact (Except.ok.inj queued).symm

/-- What may become of contents: each tag has no more running tasks than before, or no more than its
limit. -/
structure Follows (c d : Contents) : Prop where
  wellFormed : d.WellFormed
  running : ∀ tag, d.runningWith tag ≤ c.runningWith tag ∨
    ∀ limit, d.rateLimits.get? tag = some limit → d.runningWith tag ≤ limit

theorem follows_self (h : c.WellFormed) : c.Follows c :=
  ⟨h, fun _ => .inl (Nat.le_refl _)⟩

theorem follows_take (h : c.WellFormed) (id : TaskId) : c.Follows (c.take id) :=
  ⟨h.take id, fun tag => .inl (runningWith_take_le c id tag)⟩

theorem follows_put (h : c.WellFormed) {task : Task} (settled : task.state ≠ .pending)
    (idle : task.state ≠ .running) : c.Follows (c.put task) :=
  ⟨h.put settled, fun tag => .inl (runningWith_put_idle idle tag)⟩

/-- A task with room begins to run. -/
theorem follows_start (h : c.WellFormed) {task : Task} (room : c.HasRoom task) (now : UInt64) :
    c.Follows (c.put { task with started := some now, state := .running }) := by
  have settled : { task with started := some now, state := .running }.state ≠ .pending :=
    fun same => nomatch same
  refine ⟨h.put settled, fun tag => ?_⟩
  have counted := runningWith_put_le c { task with started := some now, state := .running } tag
  cases carries : task.hasTag tag with
  | false =>
    have other : { task with started := some now, state := .running }.hasTag tag = false := carries
    rw [other, if_neg (by simp)] at counted
    exact .inl counted
  | true =>
    refine .inr fun limit limited => ?_
    rw [rateLimits_put] at limited
    have below := room tag limit limited carries
    split at counted <;> omega

end Contents

namespace Order

variable {c d : Contents} {order : Order} {result : Except Failure (Order.Answer × Aftermath)}

open Contents in
theorem Outcome.follows (outcome : Outcome c order result d) (h : c.WellFormed) : c.Follows d := by
  cases outcome with
  | queued queued =>
    rw [queue_eq_ok queued]
    refine ⟨h.foldl WellFormed.append _, fun tag => .inl ?_⟩
    exact runningWith_foldl_le (runningWith_append_le · · tag) _
  | started _ _ room => exact follows_start h room _
  | @acknowledged _ id _ _ _ _ =>
    have taken := follows_take h id
    exact ⟨taken.wellFormed.congr rfl rfl, taken.running⟩
  | cancelled _ => exact follows_take h _
  | failed _ _ _ => exact follows_put h nofun nofun
  | retried _ _ _ _ => exact follows_put h nofun nofun
  | requeued _ =>
    refine ⟨h.foldl WellFormed.putBack _, fun tag => .inl ?_⟩
    exact runningWith_foldl_le (runningWith_putBack_le · · tag) _
  | removed =>
    refine ⟨h.foldl WellFormed.take _, fun tag => .inl ?_⟩
    exact runningWith_foldl_le (runningWith_take_le · · tag) _
  | limited => exact ⟨h.congr rfl rfl, fun _ => .inl (Nat.le_refl _)⟩
  | retryLimited => exact ⟨h.congr rfl rfl, fun _ => .inl (Nat.le_refl _)⟩
  | duplicate _ | idle | unknown _ | absent _ | notRunning _ _ | overflow _ _ _ _ | unread =>
    exact follows_self h

/-! ## 3. An order given to an engine -/

@[simp] theorem conclude_committed (e : Engine) (after : Aftermath) :
    (e.conclude after).store.committed = e.store.committed := by
  unfold Engine.conclude
  split <;> rfl

@[simp] theorem conclude_opened (e : Engine) (after : Aftermath) :
    (e.conclude after).store.opened = e.store.opened := by
  unfold Engine.conclude
  split <;> rfl

@[simp] theorem conclude_settings (e : Engine) (after : Aftermath) :
    (e.conclude after).store.settings = e.store.settings := by
  unfold Engine.conclude
  split <;> rfl

theorem commit_order {e : Engine} (h : e.store.committed.WellFormed) (free : e.store.free = true)
    (settings : CursorSettings) (bound : Nat) (order : Order) :
    ∃ next, e.commit (order.operation settings bound) =
      ((order.exec settings bound e.store.committed).1,
        { e with
          store := { e.store with
            committed := (order.exec settings bound e.store.committed).2
            opened := none
            nextSection := next } }) := by
  have outcome := exec_outcome h settings bound order
  unfold Engine.commit
  split
  · -- A section that fails is rolled back, which is the same as what a failed order leaves.
    refine ⟨e.store.nextSection + 1, ?_⟩
    rw [Store.isolated_eq free]
    change (_, { e with store := _ }) = _
    cases result : (order.exec settings bound e.store.committed).1 with
    | ok answer =>
      rw [exec] at result
      simp only [exec, result, Except.isOk, Except.toBool, if_true]
    | error failure =>
      rw [result] at outcome
      rw [exec] at result
      rw [outcome.of_error]
      simp only [result, Except.isOk, Except.toBool, Bool.false_eq_true, if_false]
  · refine ⟨e.store.nextSection, ?_⟩
    have nothing : e.store.opened = none := by simpa [Store.free] using free
    rw [Store.run_outside free]
    simp only [exec, nothing]

/-- An order given to an engine in which no section is open is answered at once, and is one change
of the committed contents. -/
theorem perform_order {e : Engine} (h : e.store.committed.WellFormed) (free : e.store.free = true)
    (settings : CursorSettings) (bound : Nat) (order : Order) :
    (e.perform (order.operation settings bound)).1 =
        (order.exec settings bound e.store.committed).1.map Prod.fst ∧
      (e.perform (order.operation settings bound)).2.store.committed =
        (order.exec settings bound e.store.committed).2 ∧
      (e.perform (order.operation settings bound)).2.store.opened = none ∧
      (e.perform (order.operation settings bound)).2.store.settings = e.store.settings := by
  obtain ⟨next, commit⟩ := commit_order h free settings bound order
  rw [Engine.perform, commit]
  cases (order.exec settings bound e.store.committed).1 with
  | ok answer => simp [Except.map]
  | error failure => exact ⟨rfl, rfl, rfl, rfl⟩

end Order

end TaskQueue
