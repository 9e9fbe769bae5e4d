import TaskQueue.Proofs.Engine.Eligible
import TaskQueue.Proofs.Engine.Floor

/-!
# Nobody sleeps through a change

Whoever changes the queue commits first and wakes those who wait afterwards, and everyone else may
take any number of steps in between. Whoever acquires listens first, then looks, and then waits. So
someone who waits and has no news to hear would find nothing, unless somebody is about to bring
news.

Results:
1. `Store.informs_order`: what an order makes eligible is announced, or its announcement is owed.
2. `Call.step_informs`, `Acquirer.step_watch`: what one step of a call or an acquire announces, and
   when someone begins to wait.
3. `Worker.move_informs`, `Floor.watched_move`: a move on a floor leaves everyone who waits with
   news, with news that somebody owes, or with nothing eligible.
4. `Floor.Course.nothing_eligible`: when nobody owes news and someone waits without any, no task is
   eligible.
-/

namespace TaskQueue

/-! ## 1. News and debts -/

/-- Whether those who wait are still to be woken after a change that was committed. -/
def owesNews {α : Type} : Except Failure (α × Aftermath) → Bool
  | .ok (_, after) => after.signal
  | .error _ => false

/-- An operation is that of an order. -/
def Operation.OfOrder (op : Operation Order.Answer) : Prop :=
  ∃ (order : Order) (settings : CursorSettings) (bound : Nat), op = order.operation settings bound

theorem Operation.OfOrder.isOrder {op : Operation Order.Answer} (order : op.OfOrder) :
    op.IsOrder := by
  obtain ⟨order, settings, bound, rfl⟩ := order
  exact isOrder_operation order settings bound

/-- What an order leaves is what is kept of it: an order that fails changes nothing. -/
theorem Operation.OfOrder.exec_kept {op : Operation Order.Answer} {c : Contents}
    (order : op.OfOrder) (h : c.WellFormed) :
    (if (op.body.run.exec c).1.isOk then (op.body.run.exec c).2 else c) =
      (op.body.run.exec c).2 := by
  obtain ⟨order, settings, bound, rfl⟩ := order
  have outcome := Order.exec_outcome h settings bound order
  change (if (order.exec settings bound c).1.isOk then _ else _) = (order.exec settings bound c).2
  cases result : (order.exec settings bound c).1 with
  | ok answer => rfl
  | error failure =>
    rw [result] at outcome
    exact outcome.of_error.symm

namespace Store

/-- From one moment to another, whatever became eligible was announced, unless news is owed. -/
structure Informs (s s' : Store) (owed : Prop) : Prop where
  settings : s'.settings = s.settings
  version : s.changes.version ≤ s'.changes.version
  eligible : owed ∨ s.changes.version < s'.changes.version ∨
    ∀ id, s'.committed.Eligible id → s.committed.Eligible id

variable {s s' : Store} {owed : Prop}

theorem informs_same (settings : s'.settings = s.settings) (changes : s'.changes = s.changes)
    (committed : s'.committed = s.committed) : s.Informs s' owed where
  settings := settings
  version := Nat.le_of_eq (by rw [changes])
  eligible := .inr (.inr fun id eligible => by rwa [committed] at eligible)

theorem Informs.mono {other : Prop} (informs : s.Informs s' owed) (more : owed → other) :
    s.Informs s' other :=
  ⟨informs.settings, informs.version, informs.eligible.imp_left more⟩

/-- An order is committed: unless it is to wake those who wait, it made nothing eligible. -/
theorem informs_order {op : Operation Order.Answer} (order : op.OfOrder)
    (h : s.committed.WellFormed) (settings : s'.settings = s.settings)
    (changes : s'.changes = s.changes)
    (committed : s'.committed = (op.body.run.exec s.committed).2) :
    s.Informs s' (owesNews (op.body.run.exec s.committed).1 = true) := by
  obtain ⟨order, cursor, bound, rfl⟩ := order
  refine ⟨settings, Nat.le_of_eq (by rw [changes]), ?_⟩
  rw [committed]
  change owesNews (order.exec cursor bound s.committed).1 = true ∨ _
  cases result : (order.exec cursor bound s.committed).1 with
  | error failure =>
    have outcome := Order.exec_outcome h cursor bound order
    rw [result] at outcome
    refine .inr (.inr fun id eligible => ?_)
    rw [← outcome.of_error]
    exact eligible
  | ok answer =>
    cases silent : answer.2.signal with
    | true => exact .inl silent
    | false => exact .inr (.inr fun id => Order.eligible_silent h result silent)

theorem informs_isolated {op : Operation Order.Answer} (order : op.OfOrder)
    (h : s.committed.WellFormed) (free : s.free = true) :
    s.Informs (s.isolated op.body).2 (owesNews (s.isolated op.body).1 = true) := by
  rw [isolated_eq free]
  exact informs_order order h rfl rfl (order.exec_kept h)

/-- What was owed is announced. -/
theorem Informs.conclude {e : Engine} {after : Aftermath}
    (informs : s.Informs e.store (after.signal = true)) :
    s.Informs (e.conclude after).store False := by
  cases signal : after.signal with
  | true =>
    have store : (e.conclude after).store = e.store.signal := by simp [Engine.conclude, signal]
    rw [store]
    have more : s.changes.version < e.store.signal.changes.version :=
      Nat.lt_succ_of_le informs.version
    exact ⟨informs.settings, Nat.le_of_lt more, .inr (.inl more)⟩
  | false =>
    have store : (e.conclude after).store = e.store := by simp [Engine.conclude, signal]
    rw [store]
    exact informs.mono (by rw [signal]; exact nofun)

end Store

theorem Store.commit_settings (s : Store) : s.commit.settings = s.settings := by
  unfold commit
  split <;> rfl

theorem Store.commit_changes (s : Store) : s.commit.changes = s.changes := by
  unfold commit
  split <;> rfl

/-- The only request of an order outside sections is answered or refused. -/
theorem informs_request {s s' : Store} {op : Operation Order.Answer} {q : Request}
    {next : Except Failure q.Reply → Program (Except Failure (Order.Answer × Aftermath))}
    {reply : Except Failure q.Reply} {result : Except Failure (Order.Answer × Aftermath)}
    (order : op.OfOrder) (h : s.committed.WellFormed) (asks : op.body.run = .ask q next)
    (answered : s.request none q = (reply, s'))
    (ends : next reply = .done result) : s.Informs s' (owesNews result = true) := by
  cases taken : q.isWrite && !s.free with
  | true =>
    simp only [Bool.and_eq_true, Bool.not_eq_true'] at taken
    rw [Store.request_refused taken.1 taken.2] at answered
    cases answered
    exact Store.informs_same rfl rfl rfl
  | false =>
    have enabled : q.isWrite = true → s.free = true := by
      intro write
      simpa [write] using taken
    rw [Store.request_outside enabled] at answered
    cases answered
    have exec : op.body.run.exec s.committed = (result, (s.committed.answer q).2) := by
      rw [asks, Program.exec, ends]
      rfl
    have informs : s.Informs { s with committed := (s.committed.answer q).2 }
        (owesNews (op.body.run.exec s.committed).1 = true) :=
      Store.informs_order order h rfl rfl (by rw [exec])
    rwa [exec] at informs

/-! ## 2. Calls and acquirers -/

namespace Call

/-- A call on its way to carry out an order. -/
def Announces : Call Order.Answer → Prop
  | .starting op => op.OfOrder
  | .entering body _ => ∃ op : Operation Order.Answer, op.OfOrder ∧ body = op.body
  | .writing rest _ => ∃ op : Operation Order.Answer,
    op.OfOrder ∧ op.isolated = false ∧ rest = op.body.run
  | .finished _ => True

variable {e e' : Engine} {s : Store} {c c' : Call Order.Answer} {now : Nat}

theorem conclude_informs {result : Except Failure (Order.Answer × Aftermath)}
    (informs : s.Informs e.store (owesNews result = true)) :
    s.Informs (conclude e result).1.store False ∧ (conclude e result).2.Announces := by
  cases result with
  | ok answer => exact ⟨informs.conclude, trivial⟩
  | error failure => exact ⟨informs.mono nofun, trivial⟩

theorem proceed_informs {op : Operation Order.Answer} (order : op.OfOrder)
    (outside : op.isolated = false) (h : e.store.committed.WellFormed) (now : Nat) :
    e.store.Informs (proceed now e op.body.run).1.store False ∧
      (proceed now e op.body.run).2.Announces := by
  have brief := order.isOrder.brief outside
  have same : e.store.Informs e.store False := Store.informs_same rfl rfl rfl
  unfold proceed
  cases asks : op.body.run with
  | done result =>
    exact conclude_informs (Store.informs_same rfl rfl rfl)
  | ask q next =>
    rw [asks] at brief
    cases taken : q.isWrite && !e.store.free with
    | true =>
      simp only [Store.proceed, taken, if_true]
      exact ⟨same, op, order, outside, asks.symm⟩
    | false =>
      have request : e.store.request none q = e.store.answer none q := by
        rw [Store.request, if_neg (by simpa using taken)]
      obtain ⟨result, ends⟩ := brief (e.store.answer none q).1
      have informs := informs_request order h asks request ends
      simp only [Store.proceed, taken, Bool.false_eq_true, if_false, ends]
      exact conclude_informs informs

theorem refuse_informs {op : Operation Order.Answer} (order : op.OfOrder)
    (outside : op.isolated = false) (now : Nat) (e : Engine) (failure : Failure) :
    e.store.Informs (proceed now e (op.body.run.refuse failure)).1.store False ∧
      (proceed now e (op.body.run.refuse failure)).2.Announces := by
  obtain ⟨result, ends⟩ := (order.isOrder.brief outside).refuse failure
  rw [ends]
  exact conclude_informs (Store.informs_same rfl rfl rfl)

/-- A step of a call announces what it makes eligible. -/
theorem step_informs (announces : c.Announces) (h : e.store.committed.WellFormed)
    (step : c.step now e = some (e', c')) : e.store.Informs e'.store False ∧ c'.Announces := by
  have same : e.store.Informs e.store False := Store.informs_same rfl rfl rfl
  cases step_does step with
  | waits => exact ⟨same, _, announces, rfl⟩
  | starts outside => exact proceed_informs announces outside h now
  | @enters body limit free =>
    obtain ⟨op, order, rfl⟩ := announces
    exact conclude_informs (Store.informs_isolated order h free)
  | givesUp => exact ⟨same, trivial⟩
  | writes =>
    obtain ⟨op, order, outside, rfl⟩ := announces
    exact proceed_informs order outside h now
  | refused =>
    obtain ⟨op, order, outside, rfl⟩ := announces
    exact refuse_informs order outside now e _

end Call

namespace Acquirer

/-- Whether someone who acquires waits for a change. -/
def isWaiting (a : Acquirer) : Bool :=
  match a.stage with
  | .waiting _ => true
  | _ => false

variable {e e' : Engine} {a a' : Acquirer} {now : Nat} {wall : UInt64}

theorem afterMiss_listener (now : Nat) (e : Engine) (a : Acquirer) :
    (a.afterMiss now e).listener = a.listener := by
  unfold afterMiss
  split
  · split
    · rfl
    split <;> rfl
  · split <;> rfl

theorem wake_seen {event : ChangeEvent} (seen : a.listener.seen ≤ e.store.changes.version) :
    (a.wake e event).listener.seen ≤ e.store.changes.version := by
  cases event with
  | signalled => exact Nat.le_refl _
  | timedOut | closed => exact seen

theorem wake_isWaiting (event : ChangeEvent) : (a.wake e event).isWaiting = false := by
  cases event <;> rfl

/-- Someone who acquires has not seen more than there is to see. If they wait after a step, nothing
is eligible, or they waited before. -/
theorem step_watch (h : e.store.committed.WellFormed)
    (somePage : e.store.settings.cursor.pageSize ≠ 0) (step : a.step now wall e = some (e', a')) :
    e.store.Informs e'.store False ∧
      (a.listener.seen ≤ e.store.changes.version →
        a'.listener.seen ≤ e'.store.changes.version) ∧
      (a'.isWaiting = true → ∀ id, ¬ e'.store.committed.Eligible id) := by
  have same : e.store.Informs e.store False := Store.informs_same rfl rfl rfl
  cases step_does step with
  | givesUp | enters | retries => exact ⟨same, fun seen => seen, by rintro ⟨⟩⟩
  | attempts _ free attempt =>
    rcases attempt_cases h free a now wall with
      ⟨next, ⟨notices, number, rfl⟩, result, none⟩ |
      ⟨next, task, stored, queued, -, ⟨notices, number, rfl⟩, result, -⟩
    · rw [result] at attempt
      cases attempt
      refine ⟨Store.informs_same rfl rfl rfl, fun seen => ?_, fun _ => ?_⟩
      · rw [afterMiss_listener]
        exact seen
      · exact Operation.acquire_none h somePage (Nat.le_succ _) none
    · rw [result] at attempt
      cases attempt
      refine ⟨⟨rfl, Nat.le_refl _, .inr (.inr fun id eligible => ?_)⟩, fun seen => seen,
        by rintro ⟨⟩⟩
      exact Contents.eligible_start stored queued eligible
  | @hears _ event =>
    refine ⟨same, wake_seen, fun waits => ?_⟩
    rw [wake_isWaiting] at waits
    cases waits

end Acquirer

/-! ## 3. Moves on a floor -/

namespace Worker

/-- A step of a worker, where the end of a section and the news of it may come apart. -/
inductive Move : Engine → Worker → Engine → Worker → Prop
  | step {e e' : Engine} {w w' : Worker} : w.Step e e' w' → Move e w e' w'
  | commit {e : Engine} {id : SectionId} {op : Operation Order.Answer}
      {answer : Order.Answer × Aftermath} :
      Move e (.inside id op (.done (.ok answer))) { e with store := e.store.commit }
        (.outside op (.done (.ok answer)))

/-- Whether a worker has committed a change and still has to wake those who wait. -/
def owes : Worker → Bool
  | .outside _ (.done result) => owesNews result
  | _ => false

/-- A worker that carries out an order, or acquires. -/
def Announces : Worker → Prop
  | .activity (.call c) => c.Announces
  | .activity (.acquire _) => True
  | .arriving op => op.OfOrder
  | .inside _ op _ => op.OfOrder
  | .outside op _ => op.OfOrder
  | .gone => True

variable {e e' : Engine} {w w' : Worker}

theorem New.announces (new : w.New e) : w.Announces := by
  cases new with
  | call => exact ⟨_, _, _, rfl⟩
  | acquire => exact trivial
  | arriving => exact ⟨_, _, _, rfl⟩

/-- Whoever owes news pays with its next move. -/
theorem owes_move (owes : w.owes = true) (move : w.Move e e' w') :
    e.store.changes.version < e'.store.changes.version := by
  cases move with
  | commit => cases owes
  | step step =>
    cases step with
    | @finish op answer after =>
      have signal : after.signal = true := owes
      simp [Engine.conclude, signal, Store.signal, Channel.publish]
    | activity | cancel | enter | refused | start | inside | commit | rollback | drop | outside =>
      cases owes

/-- What a section comes to is committed. -/
theorem commit_informs {id : SectionId} {op : Operation Order.Answer}
    {answer : Order.Answer × Aftermath} (fits : (inside id op (.done (.ok answer))).Fits e.store)
    (order : op.OfOrder) (h : e.store.committed.WellFormed) :
    e.store.Informs e.store.commit (answer.2.signal = true) := by
  have done := fits.commit
  have informs : e.store.Informs e.store.commit _ := Store.informs_order order h
    e.store.commit_settings e.store.commit_changes (by rw [done])
  rwa [done] at informs

theorem move_advance (fits : w.Fits e.store) (move : w.Move e e' w') : w.Advance e e' w' := by
  cases move with
  | step step => exact step_advance fits step
  | commit =>
    have done := fits.commit
    obtain ⟨order, -⟩ := fits
    refine ⟨?_, ⟨order, .inr ⟨_, rfl⟩⟩, fun _ known alone => known.of_not_inside (alone rfl), nofun⟩
    obtain ⟨order, settings, bound, carries, -⟩ := order
    refine .inr ⟨order, settings, bound, ?_⟩
    rw [← carries, done]

/-- A move announces what it makes eligible, or the worker owes it. -/
theorem move_informs (announces : w.Announces) (fits : w.Fits e.store)
    (h : e.store.committed.WellFormed) (somePage : e.store.settings.cursor.pageSize ≠ 0)
    (move : w.Move e e' w') :
    e.store.Informs e'.store (w'.owes = true) ∧ w'.Announces := by
  have same : e.store.Informs e.store (w'.owes = true) := Store.informs_same rfl rfl rfl
  cases move with
  | commit => exact ⟨commit_informs fits announces h, announces⟩
  | step step =>
    cases step with
    | @activity _ a a' _ _ step =>
      cases a with
      | call c =>
        obtain ⟨⟨next, c'⟩, went, ends⟩ := Option.map_eq_some_iff.mp step
        cases ends
        have result := Call.step_informs announces h went
        exact ⟨result.1.mono nofun, result.2⟩
      | acquire a =>
        obtain ⟨⟨next, a'⟩, went, ends⟩ := Option.map_eq_some_iff.mp step
        cases ends
        exact ⟨(Acquirer.step_watch h somePage went).1.mono nofun, trivial⟩
    | cancel => exact ⟨same, trivial⟩
    | enter _ opened =>
      rw [Store.begin] at opened
      split at opened <;> cases opened
      exact ⟨Store.informs_same rfl rfl rfl, announces⟩
    | refused _ refused =>
      rw [Store.begin] at refused
      split at refused <;> cases refused
      exact ⟨same, trivial⟩
    | start _ => exact ⟨same, announces⟩
    | inside answered =>
      obtain ⟨copy, request, -⟩ := Store.request_inside fits.2.1 _
      rw [request] at answered
      cases answered
      exact ⟨Store.informs_same rfl rfl rfl, announces⟩
    | commit => exact ⟨(commit_informs fits announces h).conclude.mono nofun, trivial⟩
    | rollback | drop => exact ⟨Store.informs_same rfl rfl rfl, trivial⟩
    | outside answered =>
      obtain ⟨order, ⟨outside, asks⟩ | ⟨result, ends⟩⟩ := fits
      · have brief := order.brief outside
        rw [← asks] at brief
        obtain ⟨result, ends⟩ := brief _
        refine ⟨?_, announces⟩
        rw [ends]
        exact informs_request announces h asks.symm answered ends
      · cases ends
    | finish =>
      exact ⟨(Store.informs_same rfl rfl rfl).conclude.mono nofun, trivial⟩

/-- A worker that acquires after a move began to wait with it, or has waited before. -/
theorem move_acquirer {a : Acquirer}
    (h : e.store.committed.WellFormed) (somePage : e.store.settings.cursor.pageSize ≠ 0)
    (move : w.Move e e' (.activity (.acquire a))) :
    ∃ b : Acquirer, w = .activity (.acquire b) ∧
      (b.listener.seen ≤ e.store.changes.version → a.listener.seen ≤ e'.store.changes.version) ∧
      (a.isWaiting = true → (∀ id, ¬ e'.store.committed.Eligible id) ∨
        b.isWaiting = true ∧ b.listener = a.listener) := by
  cases move with
  | step step =>
    cases step with
    | @activity _ b _ _ _ step =>
      cases b with
      | call c =>
        obtain ⟨next, -, ends⟩ := Option.map_eq_some_iff.mp step
        cases ends
      | acquire b =>
        obtain ⟨⟨next, a'⟩, went, ends⟩ := Option.map_eq_some_iff.mp step
        cases ends
        have watch := Acquirer.step_watch h somePage went
        exact ⟨b, rfl, watch.2.1, fun waits => .inl (watch.2.2 waits)⟩
    | @cancel b => exact ⟨b, rfl, fun seen => seen, fun waits => .inr ⟨waits, rfl⟩⟩

end Worker

namespace Floor

/-- Someone joins, or one of the workers makes a move. -/
inductive Move : Floor → Floor → Prop
  | join {e : Engine} {workers : List Worker} {w : Worker} : w.New e →
      Move ⟨e, workers⟩ ⟨e, w :: workers⟩
  | work {e e' : Engine} {before after : List Worker} {w w' : Worker} : w.Move e e' w' →
      Move ⟨e, before ++ w :: after⟩ ⟨e', before ++ w' :: after⟩

/-- Any number of moves. -/
inductive Course (start : Floor) : Floor → Prop
  | nil : Course start start
  | snoc {f g : Floor} : Course start f → Move f g → Course start g

variable {f g : Floor}

/-- The number of changes that were published. -/
def version (f : Floor) : Nat :=
  f.engine.store.changes.version

/-- Somebody still has to wake those who wait. -/
def Owes (f : Floor) : Prop :=
  ∃ w ∈ f.workers, w.owes = true

/-- Someone who has seen a number of changes can go on waiting: there is news, somebody owes news,
or nothing is eligible. -/
def Covers (f : Floor) (seen : Nat) : Prop :=
  seen < f.version ∨ f.Owes ∨ ∀ id, ¬ f.committed.Eligible id

/-- A sound floor on which everyone who waits can go on waiting. -/
structure Watched (f : Floor) : Prop where
  sound : f.Sound
  somePage : f.engine.store.settings.cursor.pageSize ≠ 0
  announces : ∀ w ∈ f.workers, w.Announces
  seen : ∀ a : Acquirer, .activity (.acquire a) ∈ f.workers → a.listener.seen ≤ f.version
  covers : ∀ a : Acquirer, .activity (.acquire a) ∈ f.workers → a.isWaiting = true →
    f.Covers a.listener.seen

theorem Covers.join {e : Engine} {workers : List Worker} {w : Worker} {seen : Nat}
    (covers : Covers ⟨e, workers⟩ seen) : Covers ⟨e, w :: workers⟩ seen := by
  rcases covers with news | ⟨v, member, owes⟩ | nothing
  · exact .inl news
  · exact .inr (.inl ⟨v, List.mem_cons_of_mem w member, owes⟩)
  · exact .inr (.inr nothing)

/-- What one worker does leaves those who wait with a reason to. -/
theorem Covers.work {e e' : Engine} {before after : List Worker} {w w' : Worker} {seen : Nat}
    (covers : Covers ⟨e, before ++ w :: after⟩ seen) (heard : seen ≤ e.store.changes.version)
    (move : w.Move e e' w') (informs : e.store.Informs e'.store (w'.owes = true)) :
    Covers ⟨e', before ++ w' :: after⟩ seen := by
  have owed (owes : w'.owes = true) : Owes ⟨e', before ++ w' :: after⟩ :=
    ⟨w', List.mem_append_right _ List.mem_cons_self, owes⟩
  rcases covers with news | ⟨v, member, owes⟩ | nothing
  · exact .inl (Nat.lt_of_lt_of_le news informs.version)
  · -- A debt is paid by this move, or is that of a worker who does not move.
    rcases List.mem_cons.mp (List.perm_middle.mem_iff.mp member) with rfl | other
    · exact .inl (Nat.lt_of_le_of_lt heard (Worker.owes_move owes move))
    · refine .inr (.inl ⟨v, List.perm_middle.mem_iff.mpr (List.mem_cons_of_mem w' other), owes⟩)
  · rcases informs.eligible with owes | more | kept
    · exact .inr (.inl (owed owes))
    · exact .inl (Nat.lt_of_le_of_lt heard more)
    · exact .inr (.inr fun id eligible => nothing id (kept id eligible))

/-- A move leaves everyone who waits with a reason to. -/
theorem watched_move (watched : f.Watched) (move : f.Move g) : g.Watched := by
  obtain ⟨sound, somePage, announces, seen, covers⟩ := watched
  cases move with
  | @join e workers w new =>
    refine ⟨sound_join sound new, somePage,
      List.forall_mem_cons.mpr ⟨new.announces, announces⟩, ?_, ?_⟩
    · intro a member
      rcases List.mem_cons.mp member with rfl | old
      · cases new
        exact Nat.le_refl _
      · exact seen a old
    · intro a member waits
      rcases List.mem_cons.mp member with rfl | old
      · cases new
        cases waits
      · exact (covers a old waits).join
  | @work e e' before after w w' move =>
    have among {v : Worker} : v ∈ before ++ w' :: after ↔ v = w' ∨ v ∈ before ++ after := by
      rw [List.perm_middle.mem_iff, List.mem_cons]
    have others {v : Worker} (member : v ∈ before ++ after) : v ∈ before ++ w :: after :=
      List.perm_middle.mem_iff.mpr (List.mem_cons_of_mem w member)
    have member : w ∈ before ++ w :: after := List.mem_append_right _ List.mem_cons_self
    have informs := Worker.move_informs (announces w member) (sound.fits w member) sound.wellFormed
      somePage move
    refine ⟨sound_advance sound (Worker.move_advance (sound.fits w member) move), ?_, ?_, ?_, ?_⟩
    · rw [← informs.1.settings] at somePage
      exact somePage
    · intro v member
      rcases among.mp member with rfl | other
      · exact informs.2
      · exact announces v (others other)
    · intro a present
      rcases among.mp present with rfl | other
      · obtain ⟨b, rfl, heard, -⟩ := Worker.move_acquirer sound.wellFormed somePage move
        exact heard (seen b member)
      · exact Nat.le_trans (seen a (others other)) informs.1.version
    · intro a present waits
      rcases among.mp present with rfl | other
      · obtain ⟨b, rfl, -, waited⟩ := Worker.move_acquirer sound.wellFormed somePage move
        rcases waited waits with nothing | ⟨before, same⟩
        · exact .inr (.inr nothing)
        · rw [← same]
          exact (covers b member before).work (seen b member) move informs.1
      · exact (covers a (others other) waits).work (seen a (others other)) move informs.1

/-! ## 4. Courses -/

theorem Course.watched {start : Floor} (watched : start.Watched) (course : Course start f) :
    f.Watched := by
  induction course with
  | nil => exact watched
  | snoc _ move ih => exact watched_move ih move

/-- Whatever the interleaving, when nobody is between a commit and its news, and someone waits
without news to hear, no queued task has room. -/
theorem Course.nothing_eligible {start : Floor} (reachable : start.committed.Reachable)
    (idle : start.workers = []) (somePage : start.engine.store.settings.cursor.pageSize ≠ 0)
    (course : Course start f) (settled : ∀ w ∈ f.workers, w.owes = false) {a : Acquirer}
    (present : .activity (.acquire a) ∈ f.workers) (waits : a.isWaiting = true)
    (unaware : a.listener.behind f.engine.store.changes = false) (id : TaskId) :
    ¬ f.committed.Eligible id := by
  have begins : start.Watched := by
    refine ⟨sound_idle reachable.wellFormed idle, somePage, ?_, ?_, ?_⟩
    all_goals
      rw [idle]
      exact nofun
  have same : f.version = a.listener.seen := by simpa [Listener.behind, version] using unaware
  rcases (course.watched begins).covers a present waits with news | ⟨w, member, owes⟩ | nothing
  · rw [same] at news
    exact absurd news (Nat.lt_irrefl _)
  · rw [settled w member] at owes
    cases owes
  · exact nothing id

/-- An activity that need not wait takes its step. -/
theorem move_activity {e : Engine} {a : Activity Order.Answer} (before after : List Worker)
    (wall : UInt64) (now : Nat) (ready : (a.step wall now e).isSome = true) :
    Move ⟨e, before ++ .activity a :: after⟩ ⟨((a.step wall now e).get ready).1,
      before ++ .activity ((a.step wall now e).get ready).2 :: after⟩ :=
  .work (.step (.activity (Option.some_get ready).symm))

theorem move_acquire {e : Engine} {a : Acquirer} (before after : List Worker) (wall : UInt64)
    (now : Nat) (ready : (a.step now wall e).isSome = true) :
    Move ⟨e, before ++ .activity (.acquire a) :: after⟩ ⟨((a.step now wall e).get ready).1,
      before ++ .activity (.acquire ((a.step now wall e).get ready).2) :: after⟩ :=
  .work (.step (Worker.step_acquire ready))

/-- Two queued tasks carry a tag whose limit is one. Someone takes the first, and someone else
waits. The limit is set once more, so the one who waits hears of it, looks again, and waits again
without news, with the second task still in the queue. -/
theorem Course.nothing_eligible_second_wait :
    let task (n : Nat) : Task := (Task.new (.ofNat n) 0 "job" default).withTag "slow"
    let queued := (Contents.empty.answer (.queue [task 1, task 2])).2
    let start : Floor := ⟨{ Engine.new .inMemory .standard with store :=
      { Store.new .inMemory with committed := (queued.answer (.setRateLimit "slow" 1)).2 } }, []⟩
    ∃ (f : Floor) (a : Acquirer), start.committed.Reachable ∧ start.workers = [] ∧
      start.engine.store.settings.cursor.pageSize ≠ 0 ∧ Course start f ∧
      (∀ w ∈ f.workers, w.owes = false) ∧ .activity (.acquire a) ∈ f.workers ∧
      a.isWaiting = true ∧ a.listener.behind f.engine.store.changes = false ∧
      f.version = 1 ∧ (f.committed.tasks.get? (.ofNat 2)).any (·.state = .queued) = true ∧
      ¬ f.committed.Eligible (.ofNat 2) := by
  intro task queued start
  have reachable : start.committed.Reachable := .answer (.answer .empty trivial) trivial
  have idle : Course start start := .nil
  have first := idle.snoc (.join (@Worker.New.acquire _ none))
  have tries := first.snoc (move_acquire [] [] 0 0 rfl)
  have takes := tries.snoc (move_acquire [] [] 0 0 (by decide +kernel))
  have second := takes.snoc (.join (@Worker.New.acquire _ none))
  have tries := second.snoc (move_acquire [] _ 0 0 (by decide +kernel))
  have waits := tries.snoc (move_acquire [] _ 0 0 (by decide +kernel))
  have order := waits.snoc (.join (@Worker.New.call _ (.setRateLimit "slow" 1) .standard 0))
  have wakes := order.snoc (move_activity [] _ 0 0 (by decide +kernel))
  have hears := wakes.snoc (move_acquire [_] _ 0 0 (by decide +kernel))
  have tries := hears.snoc (move_acquire [_] _ 0 0 (by decide +kernel))
  have again := tries.snoc (move_acquire [_] _ 0 0 (by decide +kernel))
  have nothing := again.nothing_eligible reachable rfl (by decide) (by simp [Worker.owes])
    (List.mem_append_right [_] List.mem_cons_self) (by decide +kernel) (by decide +kernel)
  refine ⟨_, _, reachable, rfl, by decide, again, ?_,
    List.mem_append_right [_] List.mem_cons_self, ?_, ?_, ?_, ?_, nothing _⟩
  · simp [Worker.owes]
  all_goals decide +kernel

end Floor

end TaskQueue
