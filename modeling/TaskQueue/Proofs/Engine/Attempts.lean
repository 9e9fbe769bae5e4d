import TaskQueue.Proofs.Engine.Lifecycle

/-!
# How far attempts are counted

A running task that is cancelled for another try has one attempt more, and 32 bits hold the number
of attempts. Whoever submits a task says how many it has had already, and the one guard in front of
the addition is the retry limit. A limit is never above the largest number of attempts, so any limit
keeps the addition in range. Without one, nothing does.

Results:
1. `Outcome.overflows_iff`: the addition overflows just for a running task with the largest number
   of attempts and no limit.
2. `Becomes.tries`, `Served.tries`: a task has the attempts it was submitted with, and one for each
   try since.
3. `Served.overflows_iff_unlimited`: both over any sequence of orders.
-/

namespace TaskQueue

namespace Contents

variable {c d : Contents} {task now next : Task} {id : TaskId}

/-! ## 1. The guard -/

/-- The retry limits are positive, and none is above the ceiling. -/
def LimitsBounded (c : Contents) : Prop :=
  ∀ tag limit, c.retryLimits.get? tag = some limit → 1 ≤ limit ∧ limit ≤ limitCeiling

/-- No retry limit is set for any tag of a task. -/
def Unlimited (c : Contents) (task : Task) : Prop :=
  ∀ tag ∈ task.tags.toList, c.retryLimits.get? tag = none

/-- A running task has the largest number of attempts, and may be tried again all the same. -/
structure Overflows (c : Contents) (task : Task) : Prop where
  running : task.state = .running
  most : task.attempts = Operation.maxAttempts
  unlimited : c.Unlimited task

theorem unlimited_iff : c.Unlimited task ↔
    largestLimit c.retryLimits task.tags.toList = none := by
  unfold Unlimited largestLimit
  rw [List.max?_eq_none_iff, List.filterMap_eq_nil_iff]

/-- With the largest number of attempts a task has used up all that any limit allows. -/
theorem not_exhausts_iff (bounded : c.LimitsBounded)
    (most : task.attempts = Operation.maxAttempts) : ¬ c.Exhausts task ↔ c.Unlimited task := by
  unfold Exhausts retryLimit
  rw [unlimited_iff]
  cases largest : largestLimit c.retryLimits task.tags.toList with
  | none => simp [limitOf]
  | some limit =>
    obtain ⟨tag, found⟩ := largestLimit_mem largest
    obtain ⟨positive, below⟩ := bounded tag limit found
    have all : task.attempts.toNat = limitCeiling := by
      rw [most]
      rfl
    refine iff_of_false (not_not_intro ⟨Int.ofNat_lt.mpr positive, ?_⟩) nofun
    rw [all]
    exact Int.ofNat_le.mpr below

end Contents

theorem Order.Outcome.overflows_iff {c d : Contents} {id : TaskId}
    {result : Except Failure (Order.Answer × Aftermath)} (bounded : c.LimitsBounded)
    (outcome : Outcome c (.cancel id true) result d) :
    result.map Prod.fst = .error .overflow ↔
      ∃ task, c.tasks.get? id = some task ∧ c.Overflows task := by
  have only {task : Task} (found : c.tasks.get? id = some task) :
      (∃ task, c.tasks.get? id = some task ∧ c.Overflows task) ↔ c.Overflows task := by
    constructor
    · rintro ⟨other, found', overflows⟩
      rw [found] at found'
      cases found'
      exact overflows
    · exact fun overflows => ⟨task, found, overflows⟩
  cases outcome with
  | absent absent =>
    refine iff_of_false nofun ?_
    rintro ⟨task, found, -⟩
    rw [absent] at found
    cases found
  | notRunning found idle =>
    rw [only found]
    exact iff_of_false nofun fun overflows => idle overflows.running
  | failed found running exhausted =>
    rw [only found]
    refine iff_of_false nofun fun overflows => ?_
    exact (Contents.not_exhausts_iff bounded overflows.most).mpr overflows.unlimited exhausted
  | retried found running left most =>
    rw [only found]
    exact iff_of_false nofun fun overflows => most overflows.most
  | overflow found running left most =>
    rw [only found]
    exact iff_of_true rfl ⟨running, most, (Contents.not_exhausts_iff bounded most).mp left⟩

/-- To cancel a task for another try has no other way to fail. -/
theorem Order.Outcome.retry_error {c d : Contents} {id : TaskId} {failure : Failure}
    (outcome : Outcome c (.cancel id true) (.error failure) d) : failure = .overflow := by
  cases outcome
  rfl

/-! ## 2. Tries -/

/-- The number of attempts stays, or grows by one that 32 bits hold. -/
theorem Contents.Becomes.attempts {c : Contents} {x : Receipt} {now next : Task}
    (becomes : c.Becomes x now next) :
    next.attempts.toNat = now.attempts.toNat ∨
      next.attempts.toNat = now.attempts.toNat + 1 ∧ now.attempts.toNat + 1 < UInt32.size := by
  cases becomes with
  | stays _ | taken _ | putBack _ | failed _ _ => exact .inl rfl
  | retried running left most =>
    have more := Engine.attempts_add_one most
    have bound : (now.attempts + 1).toNat < UInt32.size := (now.attempts + 1).toNat_lt
    rw [more] at bound
    exact .inr ⟨more, bound⟩

/-- The tries of a task as its record has them: each counted one attempt, but for the one with which
the task failed. -/
def Task.tries (task : Task) : Nat :=
  task.attempts.toNat + if task.state = .error then 1 else 0

/-- Whatever an order makes of a stored task, its tries grow by one if it was tried again. -/
theorem Contents.Becomes.tries {c : Contents} {x : Receipt} {now next : Task}
    (becomes : c.Becomes x now next) :
    next.tries = now.tries + if x.retries now.id then 1 else 0 := by
  have tried : Receipt.retries now.id ⟨.cancel now.id true, .ok (.flag true)⟩ = true :=
    decide_eq_true rfl
  cases becomes with
  | stays quiet => simp [quiet]
  | taken queued => simp [Task.tries, Receipt.retries, queued]
  | putBack running => simp [Task.tries, Receipt.retries, running]
  | retried running left most =>
    rw [if_pos tried]
    simp [Task.tries, running, Engine.attempts_add_one most]
  | failed running exhausted =>
    rw [if_pos tried]
    simp [Task.tries, running]

theorem Contents.Becomes.id_eq {c : Contents} {x : Receipt} {now next : Task}
    (becomes : c.Becomes x now next) : next.id = now.id := by
  cases becomes <;> rfl

namespace Engine

variable {start e : Engine} {h : Ledger} {id : TaskId} {task : Task} {settings : StoreSettings}

/-- A stored task has the tries it was submitted with and those since. -/
theorem Served.tries (empty : start.store = .new settings) {past later : Ledger}
    {batch : List Task} {answer : Order.Answer} {now : Task}
    (served : Served start (past ++ ⟨.submitAll batch, .ok answer⟩ :: later) e)
    (member : task ∈ batch) (since : ∀ x ∈ later, ∀ reference, ¬ x.Submits task.id reference)
    (stored : e.task? task.id = some now) :
    now.tries = task.attempts.toNat + later.countP (·.retries task.id) := by
  refine (served.since_submitted empty (fun front now => now.id = task.id ∧
    now.tries = task.attempts.toNat + front.countP (·.retries task.id)) member since
    (fun order => ⟨rfl, rfl⟩) ?_ stored).2
  rintro front x e' before after - - - ⟨own, tries⟩ becomes
  refine ⟨becomes.id_eq.trans own, ?_⟩
  rw [becomes.tries, tries, own, List.countP_append, List.countP_singleton, Nat.add_assoc]

/-! ## 3. Runs -/

/-- After any sequence of orders, to cancel a task for another try overflows just if the task runs
with the largest number of attempts and no retry limit is set for its tags; that changes nothing,
and is the only way to fail. Otherwise the number of attempts that is written is one more than
before, as a number without bound, or the same. A stored task has the attempts it was submitted with
and one for each try since, but for the try with which it failed. -/
theorem Served.overflows_iff_unlimited (empty : start.store = .new settings)
    (served : Served start h e) (id : TaskId) :
    ((e.give (.cancel id true)).1 = .error .overflow ↔
      ∃ task, e.task? id = some task ∧ e.store.committed.Overflows task) ∧
    (∀ failure, (e.give (.cancel id true)).1 = .error failure →
      failure = .overflow ∧ (e.give (.cancel id true)).2.store.committed = e.store.committed) ∧
    (∀ task next, e.task? id = some task → (e.give (.cancel id true)).2.task? id = some next →
      next.attempts.toNat = task.attempts.toNat ∨
        next.attempts.toNat = task.attempts.toNat + 1 ∧ task.attempts.toNat + 1 < UInt32.size) ∧
    ∀ past batch answer later task now, h = past ++ ⟨.submitAll batch, .ok answer⟩ :: later →
      task ∈ batch → (∀ x ∈ later, ∀ reference, ¬ x.Submits task.id reference) →
      e.task? task.id = some now →
      now.attempts.toNat + (if now.state = .error then 1 else 0) =
        task.attempts.toNat + later.countP (·.retries task.id) := by
  have t := tracks_served empty served
  obtain ⟨result, outcome, answer⟩ := t.outcome (.cancel id true)
  refine ⟨?_, ?_, ?_, ?_⟩
  · rw [answer]
    exact outcome.overflows_iff (served.limits_bounded empty)
  · intro failure failed
    rw [failed] at answer
    cases result with
    | ok value => cases answer
    | error other =>
      cases answer
      exact ⟨outcome.retry_error, outcome.of_error⟩
  · intro task next before after
    exact (t.becomes before after).attempts
  · rintro past batch answer later task now rfl member since stored
    exact served.tries empty member since stored

/-- A task that was submitted with the largest number of attempts is acquired and cancelled for
another try, which overflows. With a retry limit set, however large, it does not. -/
theorem Served.overflows_iff_unlimited_most :
    let start := Engine.new .inMemory .standard
    let task := { (default : Task).withTag "flaky" with attempts := Operation.maxAttempts }
    let e := ((start.give (.submitAll [task])).2.give (.acquire 0)).2
    let e' := (e.give (.setMaxRetries "flaky" Contents.limitCeiling)).2
    start.store = .new .inMemory ∧ (∃ h, Served start h e) ∧ (∃ h, Served start h e') ∧
      (e.give (.cancel task.id true)).1 = .error .overflow ∧
      (e.give (.cancel task.id true)).2.store.committed = e.store.committed ∧
      (e'.give (.cancel task.id true)).1 ≠ .error .overflow := by
  intro start task e e'
  have served : Served start _ e := (Served.nil.snoc (.submitAll [task])).snoc (.acquire 0)
  have further : Served start _ e' := served.snoc (.setMaxRetries "flaky" Contents.limitCeiling)
  obtain ⟨now, found, running, most, unlimited⟩ : ∃ now ∈ e.task? task.id,
      now.state = .running ∧ now.attempts = Operation.maxAttempts ∧
        ∀ tag ∈ now.tags.toList, e.store.committed.retryLimits.get? tag = none := by
    decide +kernel
  have limited : ∀ now ∈ e'.task? task.id,
      ∃ tag ∈ now.tags.toList, e'.store.committed.retryLimits.get? tag ≠ none := by
    decide +kernel
  obtain ⟨iff, only, -⟩ := served.overflows_iff_unlimited rfl task.id
  have overflows := iff.mpr ⟨now, found, running, most, unlimited⟩
  refine ⟨rfl, ⟨_, served⟩, ⟨_, further⟩, overflows, (only _ overflows).2, ?_⟩
  rw [Ne, (further.overflows_iff_unlimited rfl task.id).1]
  rintro ⟨now, found, -, -, unlimited⟩
  obtain ⟨tag, member, set⟩ := limited now found
  exact set (unlimited tag member)

end Engine

end TaskQueue
