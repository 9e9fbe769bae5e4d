import TaskQueue.Proofs.Engine.Conservation

/-!
# The life of a task, and its retries

A stored task is queued, running or failed. It begins to run when it is acquired. It goes back into
the queue with all running tasks, or when it is cancelled to be tried again, and it fails when it is
cancelled without a retry left.

Results:
1. `Outcome.becomes`: what an order may make of a stored task.
2. `Served.retryLimits`, `Served.limits_bounded`: the retry limits are those that were set, positive
   and none above the ceiling.
3. `Tracks.retried`, `Tracks.idle`: a cancellation for another try counts one more attempt below the
   limit, fails the task at the limit, and does nothing to a task that is not running.
4. `Accounts.step`, `Served.accounts`: how often a task was tried again since it was submitted.
5. `served_lifecycle`: all this over any sequence of orders.
-/

namespace TaskQueue

/-- The order cancelled a running task to be tried again, and succeeded. -/
def Receipt.retries (id : TaskId) (x : Receipt) : Bool :=
  match x.order, x.answer with
  | .cancel own true, .ok (.flag true) => own = id
  | _, _ => false

namespace Contents

variable {c d : Contents} {id : TaskId} {task next : Task}

/-! ## 1. What an order makes of a stored task -/

/-- What an order with its answer may make of a stored task. -/
inductive Becomes (c : Contents) : Receipt → Task → Task → Prop
  | stays {x : Receipt} {task : Task} : x.retries task.id = false → Becomes c x task task
  | taken {now : UInt64} {task : Task} : task.state = .queued →
      Becomes c ⟨.acquire now, .ok (.task (some { task with
        started := some now, state := .running }))⟩ task
        { task with started := some now, state := .running }
  | putBack {n : Nat} {task : Task} : task.state = .running →
      Becomes c ⟨.requeueAll, .ok (.number n)⟩ task { task with started := none, state := .queued }
  | retried {task : Task} : task.state = .running → ¬ c.Exhausts task →
      task.attempts ≠ Operation.maxAttempts →
      Becomes c ⟨.cancel task.id true, .ok (.flag true)⟩ task
        { task with attempts := task.attempts + 1, started := none, state := .queued }
  | failed {task : Task} : task.state = .running → c.Exhausts task →
      Becomes c ⟨.cancel task.id true, .ok (.flag true)⟩ task { task with state := .error }

theorem new_of_duplicate {seen : List TaskId} {batch : List Task}
    (none : c.duplicate? seen batch = none) : ∀ task ∈ batch, c.tasks.get? task.id = Option.none := by
  induction batch generalizing seen with
  | nil => exact nofun
  | cons first rest ih =>
    rw [duplicate?] at none
    split at none
    · cases none
    · next new =>
      simp only [Bool.or_eq_true, not_or, Table.contains, Bool.not_eq_true,
        Option.isSome_eq_false_iff, Option.isNone_iff_eq_none] at new
      exact List.forall_mem_cons.mpr ⟨new.1, ih none⟩

/-- A batch that is queued leaves the tasks that were stored before. -/
theorem get?_queue {batch : List Task} (queued : c.queue batch = .ok d)
    (before : c.tasks.get? id = some task) : d.tasks.get? id = some task := by
  have new : ∀ task ∈ batch, c.tasks.get? task.id = none := by
    unfold queue at queued
    split at queued
    · cases queued
    · next none => exact new_of_duplicate none
  rw [queue_eq_ok queued]
  rcases @get?_foldl_append c batch id with ⟨same, _⟩ | ⟨other, member, own, _⟩
  · rw [same, before]
  · have absent := new other member
    rw [own, before] at absent
    cases absent

/-- When running tasks go back into the queue, a stored task stays as it is or is one of them. -/
theorem get?_putBack {tasks : List Task}
    (stored : ∀ task ∈ tasks, c.tasks.get? task.id = some task ∧ task.state = .running)
    (before : c.tasks.get? id = some task) :
    (tasks.foldl Operation.putBack c).tasks.get? id = some task ∨
      task.state = .running ∧ (tasks.foldl Operation.putBack c).tasks.get? id =
        some { task with started := none, state := .queued } := by
  rcases @get?_foldl_putBack c tasks id with ⟨same, _⟩ | ⟨record, member, own, _, rfl, put⟩
  · exact .inl (same.trans before)
  · obtain ⟨found, running⟩ := stored record member
    rw [own, before] at found
    cases found
    exact .inr ⟨running, put⟩

/-- A record that takes the place of an old one leaves the other tasks as they are. -/
theorem put_cases {record old : Task} (after : (c.put record).tasks.get? id = some next)
    (before : c.tasks.get? id = some task) (found : c.tasks.get? record.id = some old) :
    task = old ∧ next = record ∨ record.id ≠ id ∧ next = task := by
  rw [get?_put] at after
  split at after
  · next same =>
    rw [same, found] at before
    cases before
    cases after
    exact .inl ⟨rfl, rfl⟩
  · next other =>
    rw [before] at after
    cases after
    exact .inr ⟨Ne.symm other, rfl⟩

theorem take_same {removed : TaskId} (before : c.tasks.get? id = some task)
    (after : (c.take removed).tasks.get? id = some next) : id ≠ removed ∧ next = task := by
  rw [get?_take] at after
  split at after
  · cases after
  · next other =>
    rw [before] at after
    exact ⟨other, (Option.some.inj after).symm⟩

@[simp] theorem retryLimits_take (c : Contents) (id : TaskId) :
    (c.take id).retryLimits = c.retryLimits := by
  unfold take
  split <;> rfl

@[simp] theorem retryLimits_put (c : Contents) (task : Task) :
    (c.put task).retryLimits = c.retryLimits :=
  retryLimits_take c task.id

theorem retryLimits_append (c : Contents) (task : Task) :
    (c.append task).retryLimits = c.retryLimits :=
  retryLimits_put c _

theorem retryLimits_foldl {α : Type} {change : Contents → α → Contents}
    (each : ∀ c a, (change c a).retryLimits = c.retryLimits) (items : List α) :
    (items.foldl change c).retryLimits = c.retryLimits :=
  List.foldlRecOn (motive := fun d => d.retryLimits = c.retryLimits) items change rfl
    fun d kept item _ => (each d item).trans kept

end Contents

namespace Order

variable {c d : Contents} {order : Order} {result : Except Failure (Order.Answer × Aftermath)}
  {id : TaskId} {task next : Task}

open Contents in
theorem Outcome.becomes (h : c.WellFormed) (outcome : Outcome c order result d)
    (before : c.tasks.get? id = some task) (after : d.tasks.get? id = some next) :
    c.Becomes ⟨order, result.map Prod.fst⟩ task next := by
  have own := h.keyed before
  cases outcome with
  | queued queued =>
    rw [get?_queue queued before] at after
    cases after
    exact .stays rfl
  | started found queued _ =>
    rcases put_cases after before found with ⟨rfl, rfl⟩ | ⟨-, rfl⟩
    · exact .taken queued
    · exact .stays rfl
  | acknowledged _ =>
    obtain ⟨-, rfl⟩ := take_same before after
    exact .stays rfl
  | cancelled _ =>
    obtain ⟨-, rfl⟩ := take_same before after
    exact .stays rfl
  | failed found running exhausted =>
    obtain rfl := h.keyed found
    rcases put_cases after before found with ⟨rfl, rfl⟩ | ⟨other, rfl⟩
    · exact .failed running exhausted
    · exact .stays (decide_eq_false fun same => other (same.trans own))
  | retried found running left most =>
    obtain rfl := h.keyed found
    rcases put_cases after before found with ⟨rfl, rfl⟩ | ⟨other, rfl⟩
    · exact .retried running left most
    · exact .stays (decide_eq_false fun same => other (same.trans own))
  | requeued stored =>
    rcases get?_putBack stored before with same | ⟨running, put⟩
    · rw [same] at after
      cases after
      exact .stays rfl
    · rw [put] at after
      cases after
      exact .putBack running
  | removed =>
    rw [removeByReference, get?_foldl_take] at after
    split at after
    · cases after
    · rw [before] at after
      cases after
      exact .stays rfl
  | @absent _ requeue _ =>
    rw [before] at after
    cases after
    cases requeue with
    | false => exact .stays rfl
    | true => exact .stays rfl
  | duplicate _ | idle | unknown _ | notRunning _ _ | overflow _ _ _ _ | unread | limited
  | retryLimited =>
    obtain rfl : task = next := Option.some.inj (before.symm.trans after)
    exact .stays rfl

/-- The retry limits after an order. -/
def limitRetries (limits : Table String Nat) : Order → Table String Nat
  | .setMaxRetries tag limit => Contents.setLimit limits tag limit
  | _ => limits

theorem Outcome.retryLimits (outcome : Outcome c order result d) :
    d.retryLimits = order.limitRetries c.retryLimits := by
  cases outcome with
  | queued queued =>
    rw [Contents.queue_eq_ok queued]
    exact Contents.retryLimits_foldl Contents.retryLimits_append _
  | started _ _ _ | failed _ _ _ | retried _ _ _ _ => exact Contents.retryLimits_put c _
  | acknowledged _ | cancelled _ => exact Contents.retryLimits_take c _
  | requeued _ => exact Contents.retryLimits_foldl (fun c task => Contents.retryLimits_put c _) _
  | removed => exact Contents.retryLimits_foldl Contents.retryLimits_take _
  | duplicate _ | idle | unknown _ | absent _ | notRunning _ _ | overflow _ _ _ _ | unread | limited
  | retryLimited => rfl

end Order

namespace Contents

variable {limits : Table String Nat}

/-! ## 2. Retry limits -/

theorem get?_setLimit_bounds
    (kept : ∀ tag limit, limits.get? tag = some limit → 1 ≤ limit ∧ limit ≤ limitCeiling)
    {tag other : String} {n : Int} {limit : Nat}
    (found : (setLimit limits tag n).get? other = some limit) :
    1 ≤ limit ∧ limit ≤ limitCeiling := by
  unfold setLimit at found
  split at found
  · rw [Table.get?_erase] at found
    split at found
    · cases found
    · exact kept other limit found
  · next positive =>
    rw [Table.get?_insert] at found
    split at found
    · cases found
      have one : 1 ≤ limitCeiling := by decide
      exact ⟨Nat.le_min.mpr ⟨by omega, one⟩, Nat.min_le_right _ _⟩
    · exact kept other limit found

theorem largestLimit_mem {tags : List String} {limit : Nat}
    (largest : largestLimit limits tags = some limit) : ∃ tag, limits.get? tag = some limit := by
  have member := List.max?_mem largest
  obtain ⟨tag, -, found⟩ := List.mem_filterMap.mp member
  exact ⟨tag, found⟩

end Contents

namespace Engine

variable {start e : Engine} {h : Ledger} {id : TaskId} {task next : Task} {m : Nat}

/-- The record of a stored task. -/
def task? (e : Engine) (id : TaskId) : Option Task :=
  e.store.committed.tasks.get? id

/-- The largest retry limit of a task's tags, -1 if none of them has one. -/
def retryLimit (e : Engine) (task : Task) : Int :=
  e.store.committed.retryLimit task

/-- The last order of a history was given to an engine that the history before it led to. -/
theorem Served.last {x : Receipt} (served : Served start (h ++ [x]) e) :
    ∃ e', Served start h e' ∧ x = ⟨x.order, (e'.give x.order).1⟩ ∧ e = (e'.give x.order).2 := by
  generalize whole : h ++ [x] = all at served
  cases served with
  | nil => simp at whole
  | snoc order earlier =>
    obtain ⟨rfl, same⟩ := List.append_inj' whole rfl
    obtain rfl : x = _ := by simpa using same
    exact ⟨_, earlier, rfl, rfl⟩

theorem Served.retryLimits {settings : StoreSettings} (empty : start.store = .new settings)
    (served : Served start h e) :
    e.store.committed.retryLimits =
      h.foldl (fun limits x => x.order.limitRetries limits) .empty := by
  induction served with
  | nil =>
    rw [empty]
    rfl
  | snoc order earlier ih =>
    obtain ⟨_, outcome, -⟩ := (tracks_served empty earlier).outcome order
    rw [outcome.retryLimits, ih, List.foldl_append]
    rfl

/-- A retry limit stays what it is until one is set. -/
theorem Served.retryLimit_same {settings : StoreSettings} (empty : start.store = .new settings)
    {later : Ledger} {e' : Engine} (served : Served start h e)
    (further : Served start (h ++ later) e')
    (kept : ∀ x ∈ later, ∀ limits, x.order.limitRetries limits = limits) (task : Task) :
    e'.retryLimit task = e.retryLimit task := by
  have same : ∀ limits, later.foldl (fun limits x => x.order.limitRetries limits) limits =
      limits := by
    intro limits
    clear further
    induction later with
    | nil => rfl
    | cons x rest ih =>
      obtain ⟨first, others⟩ := List.forall_mem_cons.mp kept
      rw [List.foldl_cons, first, ih others]
  rw [retryLimit, Contents.retryLimit, further.retryLimits empty, List.foldl_append, same,
    ← served.retryLimits empty]
  rfl

/-- A limit that is set is positive and below the ceiling. -/
theorem Served.limits_bounded {settings : StoreSettings} (empty : start.store = .new settings)
    (served : Served start h e) (tag : String) (limit : Nat)
    (found : e.store.committed.retryLimits.get? tag = some limit) :
    1 ≤ limit ∧ limit ≤ Contents.limitCeiling := by
  induction served generalizing tag limit with
  | nil =>
    rw [empty] at found
    cases found
  | snoc order earlier ih =>
    obtain ⟨_, outcome, -⟩ := (tracks_served empty earlier).outcome order
    rw [outcome.retryLimits] at found
    cases order with
    | setMaxRetries other n => exact Contents.get?_setLimit_bounds ih found
    | _ => exact ih tag limit found

theorem Served.retryLimit_le {settings : StoreSettings} (empty : start.store = .new settings)
    (served : Served start h e) (task : Task) : e.retryLimit task ≤ Contents.limitCeiling := by
  rw [retryLimit, Contents.retryLimit]
  cases largest : Contents.largestLimit e.store.committed.retryLimits task.tags.toList with
  | none => decide
  | some limit =>
    obtain ⟨tag, found⟩ := Contents.largestLimit_mem largest
    exact Int.ofNat_le.mpr (served.limits_bounded empty tag limit found).2

/-! ## 3. One order -/

theorem Tracks.becomes (t : Tracks start h e) {order : Order} (before : e.task? id = some task)
    (after : (e.give order).2.task? id = some next) :
    e.store.committed.Becomes ⟨order, (e.give order).1⟩ task next := by
  obtain ⟨result, outcome, answer⟩ := t.outcome order
  rw [answer]
  exact outcome.becomes t.wellFormed before after

theorem Tracks.queued (t : Tracks start h e) {batch : List Task} {answer : Order.Answer}
    (queued : (e.give (.submitAll batch)).1 = .ok answer) (member : task ∈ batch) :
    ∃ order, (e.give (.submitAll batch)).2.task? task.id =
      some { task with order, state := .queued } := by
  obtain ⟨result, outcome, answered⟩ := t.outcome (.submitAll batch)
  rw [queued] at answered
  rw [task?]
  generalize (e.give (.submitAll batch)).2.store.committed = d at outcome
  cases outcome with
  | duplicate _ => cases answered
  | queued queued =>
    rw [Contents.queue_eq_ok queued]
    rcases @Contents.get?_foldl_append e.store.committed batch task.id with
      ⟨_, others⟩ | ⟨other, member', own, _, ⟨order, rfl⟩, found⟩
    · exact absurd rfl (others task member)
    · obtain rfl := List.inj_on_of_nodup_map (Contents.distinct_of_queue queued) member' member own
      exact ⟨order, found⟩

theorem Tracks.known (t : Tracks start h e) {order : Order}
    (after : (e.give order).2.task? id = some next)
    (other : ∀ reference, ¬ Receipt.Submits id reference ⟨order, (e.give order).1⟩) :
    ∃ task, e.task? id = some task := by
  obtain ⟨result, outcome, answer⟩ := t.outcome order
  rw [answer] at other
  rcases (outcome.has_iff t.wellFormed).mp ⟨next, after, rfl⟩ with submits | ⟨⟨task, found, -⟩, -⟩
  · exact absurd submits (other _)
  · exact ⟨task, found⟩

/-- A failed task is left as it is until it is removed. -/
theorem Tracks.stays_failed (t : Tracks start h e) (order : Order)
    (before : e.task? id = some task) (failed : task.state = .error) :
    (e.give order).2.task? id = some task ∨ (e.give order).2.task? id = none := by
  cases after : (e.give order).2.task? id with
  | none => exact .inr rfl
  | some next =>
    have becomes := t.becomes before after
    generalize (e.give order).1 = answer at becomes
    cases becomes with
    | stays _ => exact .inl rfl
    | taken queued => rw [failed] at queued; cases queued
    | putBack running | retried running _ _ | failed running _ =>
      rw [failed] at running
      cases running

/-- What a cancellation for another try makes of a running task whose retry limit is `m`. -/
def retried (m : Nat) (task : Task) : Task :=
  if task.attempts.toNat < m then
    { task with attempts := task.attempts + 1, started := none, state := .queued }
  else { task with state := .error }

theorem Tracks.retried (t : Tracks start h e) (found : e.task? id = some task)
    (running : task.state = .running) (limited : e.retryLimit task = m) (positive : 1 ≤ m)
    (kept : m ≤ Contents.limitCeiling) :
    (e.give (.cancel id true)).1 = .ok (.flag true) ∧
      (e.give (.cancel id true)).2.task? id = some (retried m task) := by
  obtain ⟨result, outcome, answer⟩ := t.outcome (.cancel id true)
  have own := t.wellFormed.keyed found
  have exhausts : e.store.committed.Exhausts task ↔ ¬ task.attempts.toNat < m := by
    rw [Contents.Exhausts, show e.store.committed.retryLimit task = m from limited]
    omega
  rw [answer, task?]
  rw [task?] at found
  generalize (e.give (.cancel id true)).2.store.committed = d at outcome
  cases outcome with
  | absent absent => rw [found] at absent; cases absent
  | notRunning known idle =>
    rw [found] at known
    cases known
    exact absurd running idle
  | failed known _ exhausted =>
    rw [found] at known
    cases known
    refine ⟨rfl, ?_⟩
    rw [Contents.get?_put, if_pos own.symm, Engine.retried, if_neg (exhausts.mp exhausted)]
  | retried known _ left most =>
    rw [found] at known
    cases known
    refine ⟨rfl, ?_⟩
    rw [Contents.get?_put, if_pos own.symm, Engine.retried, if_pos (by simpa [exhausts] using left)]
  | overflow known _ left most =>
    rw [found] at known
    cases known
    -- Nobody comes to the last number of attempts while there is a limit.
    have most : task.attempts.toNat = Contents.limitCeiling := by rw [most]; rfl
    have below : task.attempts.toNat < m := by simpa [exhausts] using left
    omega

/-- To cancel a task for another try does nothing unless the task is running. -/
theorem Tracks.idle (t : Tracks start h e)
    (idle : ∀ task, e.task? id = some task → task.state ≠ .running) :
    ∃ number, e.give (.cancel id true) =
      (.ok (.flag false), { e with store := { e.store with nextSection := number } }) := by
  have exec : Order.exec e.store.settings.cursor e.rows (.cancel id true) e.store.committed =
      (.ok (.flag false, .quiet), e.store.committed) := by
    rw [Order.exec, Order.operation, Operation.map_exec]
    cases found : e.store.committed.tasks.get? id with
    | none =>
      rw [Operation.cancel_unknown found]
      rfl
    | some task =>
      rw [Operation.cancel_exec found, if_neg (by simp), if_pos (idle task found)]
      rfl
  obtain ⟨number, commit⟩ :=
    Order.commit_order t.wellFormed t.free e.store.settings.cursor e.rows (.cancel id true)
  have closed : e.store.opened = none := by simpa [Store.free] using t.free
  refine ⟨number, ?_⟩
  rw [Engine.give, perform, commit, exec, ← closed]
  simp [conclude, Aftermath.quiet, Observer.notify]

theorem Tracks.requeued (t : Tracks start h e) (found : e.task? id = some task) :
    ∃ next, (e.give .requeueAll).2.task? id = some next ∧ next.attempts = task.attempts := by
  obtain ⟨result, outcome, -⟩ := t.outcome .requeueAll
  rw [task?] at found ⊢
  generalize (e.give .requeueAll).2.store.committed = d at outcome
  cases outcome with
  | unread => exact ⟨task, found, rfl⟩
  | requeued stored =>
    rcases Contents.get?_putBack stored found with same | ⟨_, put⟩
    · exact ⟨task, same, rfl⟩
    · exact ⟨_, put, rfl⟩

/-! ## 4. Tries since a task was submitted -/

/-- What became of a submitted task after a number of successful cancellations for another try, when
its retry limit is `m`. -/
structure Accounts (m tries : Nat) (task now : Task) : Prop where
  /-- Only the number, the attempts, the time of the start and the state differ. -/
  same : now = { task with
    order := now.order, attempts := now.attempts, started := now.started, state := now.state }
  /-- Each of the first ones counted one attempt. -/
  counted : now.attempts.toNat = task.attempts.toNat + min tries (m - task.attempts.toNat)
  bounded : now.attempts.toNat ≤ max task.attempts.toNat m
  /-- The one after them failed the task, and there is none after that. -/
  failed : now.state = .error ↔ tries = m - task.attempts.toNat + 1
  tries_le : tries ≤ m - task.attempts.toNat + 1

theorem accounts_queued (m : Nat) (task : Task) (order : Nat) :
    Accounts m 0 task { task with order, state := .queued } where
  same := rfl
  counted := by simp
  bounded := Nat.le_max_left _ _
  failed := by simp
  tries_le := Nat.zero_le _

/-- A task that has not failed is started or put back. -/
theorem Accounts.moved {tries : Nat} {now : Task} (accounts : Accounts m tries task now)
    (active : now.state ≠ .error) (started : Option UInt64) {state : TaskState}
    (settled : state ≠ .error) : Accounts m tries task { now with started, state } where
  same := by rw [accounts.same]
  counted := accounts.counted
  bounded := accounts.bounded
  failed := iff_of_false settled (accounts.failed.not.mp active)
  tries_le := accounts.tries_le

theorem attempts_add_one {attempts : UInt32} (most : attempts ≠ Operation.maxAttempts) :
    (attempts + 1).toNat = attempts.toNat + 1 := by
  have below : attempts.toNat ≠ 4294967295 := fun same => most (UInt32.toNat_inj.mp same)
  have bound := attempts.toNat_lt
  have one : (1 : UInt32).toNat = 1 := rfl
  rw [UInt32.toNat_add, one]
  omega

theorem Accounts.step {c : Contents} {x : Receipt} {tries : Nat} {now : Task}
    (accounts : Accounts m tries task now) (becomes : c.Becomes x now next)
    (limited : c.retryLimit now = m) (positive : 1 ≤ m) :
    Accounts m (tries + if x.retries task.id then 1 else 0) task next := by
  obtain ⟨same, counted, bounded, failed, tries_le⟩ := id accounts
  have own : now.id = task.id := by rw [same]
  have tried : Receipt.retries task.id ⟨.cancel now.id true, .ok (.flag true)⟩ = true :=
    decide_eq_true own
  have exhausts : c.Exhausts now ↔ m ≤ now.attempts.toNat := by
    rw [Contents.Exhausts, limited]
    omega
  cases becomes with
  | stays quiet =>
    rw [← own, quiet]
    exact accounts
  | taken queued => exact accounts.moved (by rw [queued]; exact nofun) _ nofun
  | putBack running => exact accounts.moved (by rw [running]; exact nofun) _ nofun
  | retried running left most =>
    have active : tries ≠ m - task.attempts.toNat + 1 :=
      failed.not.mp (by rw [running]; exact nofun)
    -- Below the limit each try so far counted one attempt, and so does this one.
    have below : now.attempts.toNat < m := by rwa [exhausts, Nat.not_le] at left
    have more := attempts_add_one most
    rw [if_pos tried]
    refine ⟨by rw [same], ?_, ?_, iff_of_false nofun ?_, ?_⟩
    · simp only [more]
      omega
    · simp only [more]
      omega
    · omega
    · omega
  | failed running exhausted =>
    have active : tries ≠ m - task.attempts.toNat + 1 :=
      failed.not.mp (by rw [running]; exact nofun)
    -- The limit is reached, so this is the first try that counts no attempt.
    have above : m ≤ now.attempts.toNat := exhausts.mp exhausted
    rw [if_pos tried]
    refine ⟨by rw [same], ?_, bounded, iff_of_true rfl ?_, ?_⟩
    · simp only [counted]
      omega
    · omega
    · omega

/-- What holds of a task as it is queued, and is kept by all that an order may make of it, holds as
long as the task is stored and not submitted again. `holds` is about what was ordered since. -/
theorem Served.since_submitted {settings : StoreSettings} (empty : start.store = .new settings)
    (holds : Ledger → Task → Prop)
    {past later : Ledger} {batch : List Task} {answer : Order.Answer} {now : Task}
    (served : Served start (past ++ ⟨.submitAll batch, .ok answer⟩ :: later) e)
    (member : task ∈ batch) (since : ∀ x ∈ later, ∀ reference, ¬ x.Submits task.id reference)
    (queued : ∀ order, holds [] { task with order, state := .queued })
    (moves : ∀ front x e' before after, front ++ [x] <+: later →
      Served start (past ++ ⟨.submitAll batch, .ok answer⟩ :: front) e' →
      e'.task? task.id = some before → holds front before →
      e'.store.committed.Becomes x before after → holds (front ++ [x]) after)
    (stored : e.task? task.id = some now) : holds later now := by
  induction later using List.reverseRecOn generalizing e now with
  | nil =>
    obtain ⟨e', earlier, entry, rfl⟩ := served.last
    have accepted := (Receipt.mk.inj entry).2.symm
    obtain ⟨order, found⟩ := (tracks_served empty earlier).queued accepted member
    rw [found] at stored
    cases stored
    exact queued order
  | append_singleton front x ih =>
    rw [← List.cons_append, ← List.append_assoc] at served
    obtain ⟨e', earlier, entry, rfl⟩ := served.last
    have t := tracks_served empty earlier
    have other := since x (by simp)
    rw [entry] at other
    obtain ⟨before, found⟩ := t.known stored other
    have kept := ih earlier (fun y member => since y (List.mem_append_left [x] member))
      (fun part y e' before after inside =>
        moves part y e' before after (inside.trans (List.prefix_append front [x]))) found
    have becomes := t.becomes found stored
    rw [← entry] at becomes
    exact moves front x e' before now List.prefix_rfl earlier found kept becomes

/-- How often a task was cancelled for another try since it was submitted says how many attempts it
has, and whether it failed. -/
theorem Served.accounts {settings : StoreSettings} (empty : start.store = .new settings)
    {past later : Ledger} {batch : List Task} {answer : Order.Answer} {now : Task}
    (served : Served start (past ++ ⟨.submitAll batch, .ok answer⟩ :: later) e)
    (member : task ∈ batch) (since : ∀ x ∈ later, ∀ reference, ¬ x.Submits task.id reference)
    (limited : ∀ front, front <+: later → ∀ e',
      Served start (past ++ ⟨.submitAll batch, .ok answer⟩ :: front) e' → e'.retryLimit task = m)
    (positive : 1 ≤ m) (stored : e.task? task.id = some now) :
    Accounts m (later.countP (·.retries task.id)) task now := by
  refine served.since_submitted empty
    (fun front => Accounts m (front.countP (·.retries task.id)) task) member since
    (accounts_queued m task) ?_ stored
  intro front x e' before after inside earlier _ accounts becomes
  have limit : e'.retryLimit before = m := by
    have same := limited front ((List.prefix_append front [x]).trans inside) e' earlier
    rw [retryLimit, Contents.retryLimit] at same ⊢
    rw [accounts.same]
    exact same
  rw [List.countP_append, List.countP_singleton]
  exact accounts.step becomes limit positive

/-! ## 5. The life of all tasks -/

/-- What holds of the stored tasks after any sequence of orders, and of the next one. -/
structure Lifecycle (start : Engine) (h : Ledger) (e : Engine) : Prop where
  /-- No stored task is pending. -/
  settled : ∀ id task, e.task? id = some task → task.state ≠ .pending
  /-- A task that stays stored moves as its state allows. -/
  moves : ∀ order id task next, e.task? id = some task →
    (e.give order).2.task? id = some next →
    e.store.committed.Becomes ⟨order, (e.give order).1⟩ task next
  /-- A failed task only leaves the store. -/
  failed : ∀ order id task, e.task? id = some task → task.state = .error →
    (e.give order).2.task? id = some task ∨ (e.give order).2.task? id = none
  /-- A running task that is cancelled for another try gets one below its limit, and fails at it. -/
  retried : ∀ id task m, e.task? id = some task → task.state = .running →
    e.retryLimit task = (m : Nat) → 1 ≤ m →
    (e.give (.cancel id true)).1 = .ok (.flag true) ∧
      (e.give (.cancel id true)).2.task? id = some (retried m task)
  /-- A task that is not running, or not stored, is not cancelled for another try. -/
  idle : ∀ id, (∀ task, e.task? id = some task → task.state ≠ .running) →
    ∃ number, e.give (.cancel id true) =
      (.ok (.flag false), { e with store := { e.store with nextSection := number } })
  /-- Putting all running tasks back changes no number of attempts. -/
  requeued : ∀ id task, e.task? id = some task →
    ∃ next, (e.give .requeueAll).2.task? id = some next ∧ next.attempts = task.attempts
  /-- Under a constant limit the tries since a task was submitted are counted, up to the limit. -/
  counted : ∀ (past : Ledger) batch answer later task m now,
    h = past ++ ⟨.submitAll batch, .ok answer⟩ :: later → task ∈ batch →
    (∀ x ∈ later, ∀ reference, ¬ x.Submits task.id reference) →
    (∀ front, front <+: later → ∀ e',
      Served start (past ++ ⟨.submitAll batch, .ok answer⟩ :: front) e' →
      e'.retryLimit task = (m : Nat)) →
    1 ≤ m → e.task? task.id = some now →
    Accounts m (later.countP (·.retries task.id)) task now

/-- Whatever is ordered of an engine over an empty store, in any sequence, every task lives as its
states allow, and is tried as often as its limit allows. -/
theorem served_lifecycle {settings : StoreSettings} (empty : start.store = .new settings)
    (served : Served start h e) : Lifecycle start h e := by
  have t := tracks_served empty served
  refine ⟨fun id task => t.wellFormed.settled, fun order id task next => t.becomes,
    fun order id task => t.stays_failed order, ?_, fun id => t.idle, fun id task => t.requeued, ?_⟩
  · intro id task m found running limited positive
    have kept := served.retryLimit_le empty task
    rw [limited] at kept
    exact t.retried found running limited positive (Int.ofNat_le.mp kept)
  · rintro past batch answer later task m now rfl member since limited positive stored
    exact served.accounts empty member since limited positive stored

/-- A task with one retry is acquired and cancelled for another try, twice: the second time it
fails. -/
theorem served_lifecycle_one_retry :
    let start := Engine.new .inMemory .standard
    let task := (default : Task).withTag "flaky"
    ∃ past later e, start.store = .new .inMemory ∧
      Served start (past ++ ⟨.submitAll [task], .ok (.ids [task.id])⟩ :: later) e ∧
      Lifecycle start (past ++ ⟨.submitAll [task], .ok (.ids [task.id])⟩ :: later) e ∧
      (e.task? task.id).map (fun now => (now.state, now.attempts)) = some (.error, 1) ∧
      later.countP (·.retries task.id) = 2 ∧ ∀ now, e.task? task.id = some now →
        Accounts 1 (later.countP (·.retries task.id)) task now := by
  intro start task
  have limited := (@Served.nil start).snoc (.setMaxRetries "flaky" 1)
  have queued := limited.snoc (.submitAll [task])
  have tried := (queued.snoc (.acquire 0)).snoc (.cancel task.id true)
  have served := (tried.snoc (.acquire 0)).snoc (.cancel task.id true)
  have accepted : ((start.give (.setMaxRetries "flaky" 1)).2.give (.submitAll [task])).1 =
      .ok (.ids [task.id]) := rfl
  rw [accepted] at queued served
  have life := served_lifecycle rfl served
  refine ⟨[_], [_, _, _, _], _, rfl, served, life, by decide +kernel, by decide +kernel,
    fun now found => ?_⟩
  refine life.counted [_] [task] _ [_, _, _, _] task 1 now rfl (by simp) ?_ ?_ (by decide) found
  · intro x member reference submits
    simp only [List.mem_cons, List.not_mem_nil, or_false] at member
    rcases member with rfl | rfl | rfl | rfl <;> cases submits
  · intro front inside e' earlier
    refine (queued.retryLimit_same rfl earlier (fun x member limits => ?_) task).trans ?_
    · have member := inside.subset member
      simp only [List.mem_cons, List.not_mem_nil, or_false] at member
      rcases member with rfl | rfl | rfl | rfl <;> rfl
    · decide +kernel

end Engine

end TaskQueue
