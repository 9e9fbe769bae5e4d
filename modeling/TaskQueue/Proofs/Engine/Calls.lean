import TaskQueue.Engine.Activity
import TaskQueue.Proofs.Engine.Order

/-!
# Calls and acquirers

An operation on its way, and someone who acquires, go from one wait to the next. Whatever they do in
between, they commit an order at most, and nothing while a section is open.

Results:
1. `staysOut_request`, `staysOut_isolated`: one request of an operation without a section, and a
   section of its own, commit an order at most.
2. `Call.step_does`, `Call.step_fits`: what a call can do in one step, which commits an order at
   most.
3. `Acquirer.step_does`: what someone who acquires can do in one step; no step commits more than an
   order.
-/

namespace TaskQueue

variable {α : Type}

/-! ## 1. Operations outside sections -/

/-- Between two moments at most one order was committed. -/
def Store.CommitsOne (s s' : Store) : Prop :=
  s'.committed = s.committed ∨ ∃ (order : Order) (settings : CursorSettings) (bound : Nat),
    s'.committed = (order.exec settings bound s.committed).2

theorem Store.CommitsOne.follows {s s' : Store} (commits : s.CommitsOne s')
    (h : s.committed.WellFormed) : s.committed.Follows s'.committed := by
  rcases commits with same | ⟨order, settings, bound, done⟩
  · rw [same]
    exact Contents.follows_self h
  · rw [done]
    exact (Order.exec_outcome h settings bound order).follows h

/-- What those outside sections do: an order at most, and nothing while a section is open. -/
structure Store.StaysOut (s s' : Store) : Prop where
  opened : s'.opened = s.opened
  taken : s.free = false → s'.committed = s.committed
  commits : s.CommitsOne s'

theorem Store.staysOut_same {s s' : Store} (opened : s'.opened = s.opened)
    (committed : s'.committed = s.committed) : s.StaysOut s' :=
  ⟨opened, fun _ => committed, .inl committed⟩

theorem Store.staysOut_conclude {e : Engine} {s : Store} (out : s.StaysOut e.store)
    (after : Aftermath) : s.StaysOut (e.conclude after).store := by
  obtain ⟨opened, taken, commits⟩ := out
  refine ⟨?_, ?_, ?_⟩
  · rw [Order.conclude_opened, opened]
  · rw [Order.conclude_committed]
    exact taken
  · rw [CommitsOne, Order.conclude_committed]
    exact commits

/-- A program of one request at most. -/
def Program.Brief : Program α → Prop
  | .done _ => True
  | .ask _ next => ∀ reply, ∃ result, next reply = .done result

/-- A request that is refused is the last one. -/
theorem Program.Brief.refuse {p : Program α} (brief : p.Brief) (failure : Failure) :
    ∃ result, p.refuse failure = .done result := by
  cases p with
  | done result => exact ⟨result, rfl⟩
  | ask q next => exact brief (.error failure)

/-- An operation that does to the contents what an order does, in one request if it needs no
section. -/
def Operation.IsOrder (op : Operation α) : Prop :=
  ∃ (order : Order) (settings : CursorSettings) (bound : Nat),
    (∀ c, (op.body.run.exec c).2 = (order.exec settings bound c).2) ∧
      (op.isolated = false → op.body.run.Brief)

theorem Operation.IsOrder.brief {op : Operation α} (order : op.IsOrder)
    (outside : op.isolated = false) : op.body.run.Brief := by
  obtain ⟨-, -, -, -, brief⟩ := order
  exact brief outside

theorem Operation.isOrder_operation (order : Order) (settings : CursorSettings) (bound : Nat) :
    (order.operation settings bound).IsOrder := by
  refine ⟨order, settings, bound, fun _ => rfl, fun outside => ?_⟩
  cases order with
  | submitAll batch =>
    cases batch with
    | nil => exact trivial
    | cons task rest =>
      rintro (failure | reply)
      · exact ⟨_, rfl⟩
      · exact ⟨_, rfl⟩
  | cancelByReference _ | setRateLimit _ _ | setMaxRetries _ _ =>
    rintro (failure | reply)
    · exact ⟨_, rfl⟩
    · exact ⟨_, rfl⟩
  | acquire _ | acknowledge _ _ | cancel _ _ | requeueAll => cases outside

theorem Operation.isOrder_acquire (settings : CursorSettings) (bound : Nat) (now : UInt64) :
    (acquire settings bound now).IsOrder := by
  refine ⟨.acquire now, settings, bound, fun c => ?_, nofun⟩
  rw [Order.exec, Order.operation, map_exec]

theorem Operation.isOrder_acknowledge (now : UInt64) (id : TaskId) :
    (acknowledge now id).IsOrder := by
  refine ⟨.acknowledge now id, .standard, 0, fun c => ?_, nofun⟩
  rw [Order.exec, Order.operation, map_exec]

theorem Operation.isOrder_cancel (id : TaskId) (requeue : Bool) : (cancel id requeue).IsOrder := by
  refine ⟨.cancel id requeue, .standard, 0, fun c => ?_, nofun⟩
  rw [Order.exec, Order.operation, map_exec]

/-- One request outside sections on behalf of an operation of one request. -/
theorem Store.staysOut_request {s s' : Store} {op : Operation α} {q : Request}
    {next : Except Failure q.Reply → Program (Except Failure (α × Aftermath))}
    {reply : Except Failure q.Reply} (order : op.IsOrder) (outside : op.isolated = false)
    (asks : op.body.run = .ask q next) (answered : s.request none q = (reply, s')) :
    s.StaysOut s' := by
  cases taken : q.isWrite && !s.free with
  | true =>
    simp only [Bool.and_eq_true, Bool.not_eq_true'] at taken
    rw [request_refused taken.1 taken.2] at answered
    cases answered
    exact staysOut_same rfl rfl
  | false =>
    have enabled : q.isWrite = true → s.free = true := by
      intro write
      simpa [write] using taken
    obtain ⟨order, settings, bound, carries, brief⟩ := order
    have brief := brief outside
    rw [asks] at brief
    obtain ⟨result, ends⟩ := brief (s.committed.answer q).1
    rw [request_outside enabled] at answered
    cases answered
    have exec : (s.committed.answer q).2 = (order.exec settings bound s.committed).2 := by
      rw [← carries, asks, Program.exec, ends]
      rfl
    refine ⟨rfl, fun closed => ?_, .inr ⟨order, settings, bound, exec⟩⟩
    have read : q.isWrite = false := by
      cases write : q.isWrite with
      | false => rfl
      | true => simp [enabled write] at closed
    exact Contents.answer_read _ read

/-- An operation of one request goes as far as it gets. -/
theorem Store.proceed_staysOut {s : Store} {op : Operation α} (order : op.IsOrder)
    (outside : op.isolated = false) :
    s.StaysOut (s.proceed op.body.run).2 ∧
      ∀ rest, (s.proceed op.body.run).1 = .blocked rest → rest = op.body.run := by
  have brief := order.brief outside
  cases asks : op.body.run with
  | done result =>
    refine ⟨staysOut_same rfl rfl, ?_⟩
    rintro rest ⟨⟩
  | ask q next =>
    rw [asks] at brief
    unfold Store.proceed
    split
    · refine ⟨staysOut_same rfl rfl, fun rest blocked => ?_⟩
      cases blocked
      rfl
    · next enabled =>
      have request : s.request none q = s.answer none q := by
        rw [Store.request, if_neg (by simpa using enabled)]
      have out := staysOut_request order outside asks (request.trans rfl)
      obtain ⟨result, ends⟩ := brief (s.answer none q).1
      simp only [ends, Store.proceed]
      refine ⟨out, ?_⟩
      rintro rest ⟨⟩

/-- What an order does, in a section of its own that is opened and committed at once. -/
theorem Store.staysOut_isolated {s : Store} {op : Operation α} (order : op.IsOrder)
    (free : s.free = true) : s.StaysOut (s.isolated op.body).2 := by
  obtain ⟨order, settings, bound, carries, -⟩ := order
  have closed : s.opened = none := by simpa [Store.free] using free
  rw [isolated_eq free]
  refine ⟨closed.symm, fun taken => ?_, ?_⟩
  · rw [free] at taken
    cases taken
  · rw [CommitsOne]
    simp only
    split
    · exact .inr ⟨order, settings, bound, carries s.committed⟩
    · exact .inl rfl

/-! ## 2. Calls -/

namespace Call

/-- A call that carries out an order. -/
def Fits : Call α → Prop
  | .starting op => op.IsOrder
  | .entering body _ => ∃ op : Operation α, op.IsOrder ∧ body = op.body
  | .writing rest _ => ∃ op : Operation α,
    op.IsOrder ∧ op.isolated = false ∧ rest = op.body.run
  | .finished _ => True

theorem conclude_fits (e : Engine) (result : Except Failure (α × Aftermath)) :
    (conclude e result).2.Fits := by
  cases result <;> exact trivial

theorem conclude_staysOut {s : Store} {e : Engine} (out : s.StaysOut e.store)
    (result : Except Failure (α × Aftermath)) :
    s.StaysOut (conclude e result).1.store := by
  cases result with
  | ok r => exact Store.staysOut_conclude out r.2
  | error failure => exact out

theorem proceed_fits {e : Engine} {op : Operation α} (order : op.IsOrder)
    (outside : op.isolated = false) (now : Nat) :
    e.store.StaysOut (proceed now e op.body.run).1.store ∧ (proceed now e op.body.run).2.Fits := by
  obtain ⟨out, blocked⟩ := Store.proceed_staysOut (s := e.store) order outside
  unfold proceed
  match progress : e.store.proceed op.body.run with
  | (.done result, store) =>
    rw [progress] at out
    exact ⟨conclude_staysOut (e := { e with store }) out result, conclude_fits _ _⟩
  | (.blocked rest, store) =>
    rw [progress] at out blocked
    exact ⟨out, op, order, outside, blocked rest rfl⟩

/-- A request of one that waited too long is refused. -/
theorem refuse_fits {e : Engine} {op : Operation α} (order : op.IsOrder)
    (outside : op.isolated = false) (now : Nat) (failure : Failure) :
    e.store.StaysOut (proceed now e (op.body.run.refuse failure)).1.store ∧
      (proceed now e (op.body.run.refuse failure)).2.Fits := by
  obtain ⟨result, ends⟩ := (order.brief outside).refuse failure
  rw [ends]
  exact ⟨conclude_staysOut (Store.staysOut_same rfl rfl) result, conclude_fits _ _⟩

/-- Everything that a call can do in one step. -/
inductive Does (now : Nat) (e : Engine) : Call α → Engine → Call α → Prop
  | waits {op : Operation α} : op.isolated = true →
      Does now e (.starting op) e (.entering op.body (now + e.store.settings.lockTimeout.toNat))
  | starts {op : Operation α} : op.isolated = false →
      Does now e (.starting op) (proceed now e op.body.run).1 (proceed now e op.body.run).2
  | enters {body : Action (α × Aftermath)} {limit : Nat} : e.store.free = true →
      Does now e (.entering body limit)
        (conclude { e with store := (e.store.isolated body).2 } (e.store.isolated body).1).1
        (conclude { e with store := (e.store.isolated body).2 } (e.store.isolated body).1).2
  | givesUp {body : Action (α × Aftermath)} {limit : Nat} : e.store.free = false → limit ≤ now →
      Does now e (.entering body limit) e (.finished (.error (tooLong e)))
  | writes {rest : Program (Except Failure (α × Aftermath))} {limit : Nat} : e.store.free = true →
      Does now e (.writing rest limit) (proceed now e rest).1 (proceed now e rest).2
  | refused {rest : Program (Except Failure (α × Aftermath))} {limit : Nat} :
      e.store.free = false → limit ≤ now →
      Does now e (.writing rest limit) (proceed now e (rest.refuse (tooLong e))).1
        (proceed now e (rest.refuse (tooLong e))).2

theorem step_does {e e' : Engine} {c c' : Call α} {now : Nat}
    (step : c.step now e = some (e', c')) : Does now e c e' c' := by
  cases c with
  | starting op =>
    rw [Call.step] at step
    split at step
    · next isolated =>
      cases step
      exact .waits isolated
    · next outside =>
      have starts := @Does.starts _ now e op (eq_false_of_ne_true outside)
      rw [Option.some.inj step] at starts
      exact starts
  | entering body limit =>
    rw [Call.step] at step
    split at step
    · next free =>
      have ended : conclude { e with store := (e.store.isolated body).2 }
          (e.store.isolated body).1 = (e', c') := Option.some.inj step
      have enters := @Does.enters _ now e body limit free
      rw [ended] at enters
      exact enters
    split at step
    · next taken late =>
      cases step
      exact .givesUp (eq_false_of_ne_true taken) late
    · cases step
  | writing rest limit =>
    rw [Call.step] at step
    split at step
    · next free =>
      have writes := @Does.writes _ now e rest limit free
      rw [Option.some.inj step] at writes
      exact writes
    split at step
    · next taken late =>
      have refused := @Does.refused _ now e rest limit (eq_false_of_ne_true taken) late
      rw [Option.some.inj step] at refused
      exact refused
    · cases step
  | finished _ => cases step

theorem step_fits {e e' : Engine} {c c' : Call α} {now : Nat} (fits : c.Fits)
    (step : c.step now e = some (e', c')) : e.store.StaysOut e'.store ∧ c'.Fits := by
  have same : e.store.StaysOut e.store := Store.staysOut_same rfl rfl
  cases step_does step with
  | waits => exact ⟨same, _, fits, rfl⟩
  | starts outside => exact proceed_fits fits outside now
  | enters free =>
    obtain ⟨op, order, rfl⟩ := fits
    exact ⟨conclude_staysOut (Store.staysOut_isolated order free) _, conclude_fits _ _⟩
  | givesUp => exact ⟨same, trivial⟩
  | writes =>
    -- Nothing of the operation is done before its write gets through, or is refused in the end.
    obtain ⟨op, order, outside, rfl⟩ := fits
    exact proceed_fits order outside now
  | refused =>
    obtain ⟨op, order, outside, rfl⟩ := fits
    exact refuse_fits order outside now _

end Call

/-! ## 3. Acquirers -/

/-- An engine after a section that left some contents and published nothing. -/
def Engine.Leaves (e : Engine) (c : Contents) (e' : Engine) : Prop :=
  ∃ notices next, e' = { e with
    notices, store := { e.store with committed := c, opened := none, nextSection := next } }

theorem Engine.commit_isolated {α : Type} {e : Engine} {op : Operation α}
    (isolated : op.isolated = true) : e.commit op =
      ((e.store.isolated op.body).1, { e with store := (e.store.isolated op.body).2 }) := by
  rw [commit, if_pos isolated]

/-- An attempt chooses nothing and changes nothing, or it starts a task and is over. -/
theorem Acquirer.attempt_cases {e : Engine} (h : e.store.committed.WellFormed)
    (free : e.store.free = true) (a : Acquirer) (now : Nat) (wall : UInt64) :
    (∃ e', e.Leaves e.store.committed e' ∧ a.attempt now wall e = (e', a.afterMiss now e') ∧
        ((Operation.acquire e.store.settings.cursor e.rows wall).body.run.exec
          e.store.committed).1 = .ok (none, .quiet)) ∨
      ∃ (e' : Engine) (task : Task), e.store.committed.tasks.get? task.id = some task ∧
        task.state = .queued ∧ e.store.committed.HasRoom task ∧
        e.Leaves (e.store.committed.put { task with started := some wall, state := .running }) e' ∧
        a.attempt now wall e =
          (e', a.finish (.ok (some { task with started := some wall, state := .running }))) ∧
        ∃ after, ((Operation.acquire e.store.settings.cursor e.rows wall).body.run.exec
          e.store.committed).1 =
            .ok (some { task with started := some wall, state := .running }, after) := by
  rw [attempt, Engine.perform, Engine.commit_isolated rfl, Store.isolated_eq free]
  rcases Operation.acquire_exec h e.store.settings.cursor e.rows wall with
    result | ⟨task, stored, queued, room, result⟩
  · rw [result]
    exact .inl ⟨_, ⟨_, _, rfl⟩, rfl, rfl⟩
  · rw [result]
    exact .inr ⟨_, task, stored, queued, room, ⟨_, _, rfl⟩, rfl, _, rfl⟩

/-- One attempt of someone who acquires commits an order at most. -/
theorem Acquirer.attempt_staysOut {e : Engine} (free : e.store.free = true) (a : Acquirer)
    (now : Nat) (wall : UInt64) : e.store.StaysOut (a.attempt now wall e).1.store := by
  have order := Operation.isOrder_acquire e.store.settings.cursor e.rows wall
  have out := Store.staysOut_isolated order free
  rw [attempt, Engine.perform, Engine.commit_isolated rfl]
  generalize e.store.isolated (Operation.acquire e.store.settings.cursor e.rows wall).body = done
    at out
  obtain ⟨result, store⟩ := done
  cases result with
  | error failure => exact out
  | ok answer =>
    obtain ⟨chosen, after⟩ := answer
    cases chosen with
    | none => exact Store.staysOut_conclude (e := { e with store }) out after
    | some task => exact Store.staysOut_conclude (e := { e with store }) out after

namespace Acquirer

/-- Everything that someone who acquires can do in one step. -/
inductive Does (now : Nat) (wall : UInt64) (e : Engine) (a : Acquirer) : Engine → Acquirer → Prop
  | givesUp : a.cancelled = true → Does now wall e a e (a.finish (.ok none))
  | enters : a.stage = .trying → a.cancelled = false →
      Does now wall e a e
        { a with stage := .entering (now + e.store.settings.lockTimeout.toNat) }
  | attempts {limit : Nat} {e' : Engine} {a' : Acquirer} : a.stage = .entering limit →
      e.store.free = true → a.attempt now wall e = (e', a') → Does now wall e a e' a'
  | retries {limit : Nat} : a.stage = .entering limit → e.store.free = false → limit ≤ now →
      Does now wall e a e { a with stage := .trying }
  | hears {limit : Nat} {event : ChangeEvent} : a.stage = .waiting limit → a.cancelled = false →
      a.listener.resume e.store.changes (limit ≤ now) = some event →
      Does now wall e a e (a.wake e event)

variable {e e' : Engine} {a a' : Acquirer} {now : Nat} {wall : UInt64}

theorem step_does (step : a.step now wall e = some (e', a')) : Does now wall e a e' a' := by
  rw [Acquirer.step] at step
  cases stage : a.stage with
  | trying =>
    rw [stage] at step
    simp only at step
    split at step
    · next cancelled =>
      cases step
      exact .givesUp cancelled
    · next going =>
      cases step
      exact .enters stage (eq_false_of_ne_true going)
  | entering limit =>
    rw [stage] at step
    simp only at step
    split at step
    · next free => exact .attempts stage free (Option.some.inj step)
    split at step
    · next taken late =>
      cases step
      exact .retries stage (eq_false_of_ne_true taken) late
    · cases step
  | waiting limit =>
    rw [stage] at step
    simp only at step
    split at step
    · next cancelled =>
      cases step
      exact .givesUp cancelled
    · next going =>
      obtain ⟨event, resumes, ends⟩ := Option.map_eq_some_iff.mp step
      cases ends
      exact .hears stage (eq_false_of_ne_true going) resumes
  | finished result =>
    rw [stage] at step
    cases step

/-- A step of someone who acquires is an attempt, or does not touch the contents. -/
theorem step_staysOut (step : a.step now wall e = some (e', a')) : e.store.StaysOut e'.store := by
  cases step_does step with
  | attempts _ free attempt =>
    have out := attempt_staysOut free a now wall
    rw [attempt] at out
    exact out
  | givesUp | enters | retries | hears => exact Store.staysOut_same rfl rfl

theorem afterMiss_chosen (now : Nat) (e : Engine) (a : Acquirer) (task : Task) :
    (a.afterMiss now e).result? ≠ some (.ok (some task)) := by
  unfold afterMiss
  split
  · split
    · exact nofun
    · split <;> exact nofun
  · split <;> exact nofun

theorem wake_chosen (e : Engine) (a : Acquirer) (event : ChangeEvent) (task : Task) :
    (a.wake e event).result? ≠ some (.ok (some task)) := by
  cases event <;> exact nofun

end Acquirer

end TaskQueue
