import TaskQueue.Proofs.Store.Serial
import TaskQueue.Store.Change

/-!
# Isolated changes are atomic

A change leaves the committed contents as they were, or applies to them all writes that were made by
it and by the changes within it, at any depth and whether those succeeded or not.

Results:
1. `Change.run_inside`: what a change in an open section ends with, and what the section then sees.
2. `Change.goes_iff`: whatever others do at the store meanwhile.
3. `isolatedChange_atomic`: a change outside of sections and within one.
-/

namespace TaskQueue

variable {α β : Type} {s t : Store} {id : SectionId}

namespace Change

/-! ## 1. Changes in a section -/

/-- What a change ends with on contents that nobody else changes, and the requests that are made by
it and by the changes within it, in order. -/
def trace {α : Type} : Change α → Contents → α × List Request
  | .done result, _ => (result, [])
  | .ask q next, c =>
    let (result, requests) := (next (c.answer q).1).trace (c.answer q).2
    (result, q :: requests)
  | .nested inner next, c =>
    let (result, first) := inner.trace c
    let (result, later) := (next result).trace (c.apply first)
    (result, first ++ later)

theorem flatten_exec (change : Change α) (c : Contents) :
    change.flatten.exec c = ((change.trace c).1, c.apply (change.trace c).2) := by
  induction change generalizing c with
  | done result => rfl
  | ask q next ih => exact ih (c.answer q).1 (c.answer q).2
  | nested inner next first later =>
    have joined := Program.exec_bind inner.flatten (fun result => (next result).flatten) c
    rw [first, later] at joined
    refine joined.trans ?_
    rw [← Contents.apply_append]
    rfl

theorem run_bind (p : Program α) (f : α → Program β) (view : View) (s : Store) :
    s.run view (p.bind f) = (s.run view p).2.run view (f (s.run view p).1) := by
  induction p generalizing s with
  | done a => rfl
  | ask q next ih => exact ih (s.request view q).1 (s.request view q).2

/-- The changes within a change run as if their requests were its own. -/
theorem run_flatten (change : Change α) (id : SectionId) (s : Store) :
    change.run id s = s.run (some id) change.flatten := by
  induction change generalizing s with
  | done result => rfl
  | ask q next ih => exact ih (s.request (some id) q).1 (s.request (some id) q).2
  | nested inner next first later =>
    rw [run, flatten, run_bind, ← first]
    exact later (inner.run id s).1 (inner.run id s).2

theorem run_inside (opened : s.openId = some id) (change : Change α) :
    ∃ copy, change.run id s =
        ((change.trace (s.seen (some id))).1, { s with opened := some ⟨id, copy⟩ }) ∧
      copy.getD s.committed = (s.seen (some id)).apply (change.trace (s.seen (some id))).2 := by
  obtain ⟨copy, run, after⟩ := Store.run_inside opened change.flatten
  rw [flatten_exec] at run after
  exact ⟨copy, (run_flatten change id s).trans run, after⟩

/-! ## 2. Others at the store -/

/-- A change that runs in a section while others use the store, up to its end. -/
inductive Goes (id : SectionId) : {α : Type} → Change α → Store → α → Store → Prop
  | done {α : Type} {result : α} {s : Store} : Goes id (.done result) s result s
  | ask {α : Type} {q : Request} {next : Except Failure q.Reply → Change α} {s s' t : Store}
      {reply : Except Failure q.Reply} {result : α} : s.request (some id) q = (reply, s') →
      Goes id (next reply) s' result t → Goes id (.ask q next) s result t
  | nested {α β : Type} {inner : Change β} {next : β → Change α} {s s' t : Store} {b : β}
      {result : α} : Goes id inner s b s' → Goes id (next b) s' result t →
      Goes id (.nested inner next) s result t
  /-- Someone else does something; only the change makes calls in the section, and ends it. -/
  | other {α : Type} {change : Change α} {s s' t : Store} {x : Store.Happening} {result : α} :
      Store.Step s x s' → x.callOf id = none → x.ends id = false → Goes id change s' result t →
      Goes id change s result t

/-- While a section is open, others read or are refused. -/
theorem other_same {x : Store.Happening} (opened : s.openId = some id) (step : Store.Step s x t)
    (noCall : x.callOf id = none) (noEnd : x.ends id = false) : t = s := by
  have taken : s.free = false := by
    rw [← Bool.not_eq_true, Store.free_iff, opened]
    exact nofun
  cases step with
  | begin result =>
    rw [Store.begin, if_neg (by simp [taken])] at result
    cases result
    rfl
  | inside own =>
    obtain rfl := Option.some.inj (opened.symm.trans own)
    simp [Store.Happening.callOf] at noCall
  | commit own | rollback own | drop own =>
    obtain rfl := Option.some.inj (opened.symm.trans own)
    simp [Store.Happening.ends] at noEnd
  | @outside _ q _ result =>
    cases write : q.isWrite with
    | true =>
      rw [Store.request_refused write taken] at result
      cases result
      rfl
    | false =>
      rw [Store.request_read write none] at result
      cases result
      rfl
  | page paged result =>
    rw [Store.request_read (Request.not_isWrite paged)] at result
    cases result
    rfl

theorem Goes.run_eq {change : Change α} {result : α} (goes : change.Goes id s result t)
    (opened : s.openId = some id) : change.run id s = (result, t) := by
  induction goes with
  | done => rfl
  | @ask _ q next s s' t reply result request _ ih =>
    obtain ⟨copy, same, -⟩ := Store.request_inside opened q
    have after : s'.openId = some id := by
      rw [request] at same
      cases same
      rfl
    rw [run, request]
    exact ih after
  | @nested _ _ inner next s s' t b result _ _ first later =>
    obtain ⟨copy, same, -⟩ := run_inside opened inner
    have after : s'.openId = some id := by
      rw [first opened] at same
      cases same
      rfl
    rw [run, first opened]
    exact later after
  | other step noCall noEnd _ ih =>
    obtain rfl := other_same opened step noCall noEnd
    exact ih opened

/-- A change that nobody comes between. -/
theorem goes_run (change : Change α) (id : SectionId) (s : Store) :
    change.Goes id s (change.run id s).1 (change.run id s).2 := by
  induction change generalizing s with
  | done result => exact .done
  | ask q next ih => exact .ask rfl (ih _ _)
  | nested inner next first later => exact .nested (first s) (later _ _)

theorem goes_iff (opened : s.openId = some id) (change : Change α) {result : α} :
    change.Goes id s result t ↔ change.run id s = (result, t) := by
  constructor
  · intro goes
    exact goes.run_eq opened
  · intro runs
    have goes := goes_run change id s
    rwa [runs] at goes

end Change

/-! ## 3. Isolated changes -/

namespace Store

variable {ε : Type} {refused : Failure → ε}

theorem isolatedChange_enclose (free : s.free = true) (change : Change (Except ε α)) :
    s.isolatedChange refused none change = s.enclose (·.isOk) change.flatten := by
  unfold isolatedChange enclose begin
  rw [if_pos free]
  simp only [Change.run_flatten]

theorem isolatedChange_refused (taken : s.free = false) (change : Change (Except ε α)) :
    s.isolatedChange refused none change =
      (.error (refused (.lockTimeout s.settings.lockTimeout)), s) := by
  unfold isolatedChange begin
  rw [if_neg (by simp [taken])]

/-- A change made outside of sections, when none is open, ends as it would alone. If it succeeds, all
writes that were made are applied to the committed contents in order, those of the changes within it
included; if it fails, the committed contents stay as they were; and no section is open then. When
one is open the change is refused. A change within a section never is: it ends as it would alone on
what the section sees, the section sees its writes then, and what is committed stays. It does not
matter what others do meanwhile. -/
theorem isolatedChange_atomic (s : Store) (change : Change (Except Failure α)) :
    let made (c : Contents) := (change.trace c).2.filter Request.isWrite
    (s.free = true → s.isolatedChange (fun failure => failure) none change =
      ((change.trace s.committed).1,
        { s with
          committed := if (change.trace s.committed).1.isOk then
            s.committed.apply (made s.committed) else s.committed
          opened := none
          nextSection := s.nextSection + 1 })) ∧
    (s.free = false → s.isolatedChange (fun failure => failure) none change =
      (.error (.lockTimeout s.settings.lockTimeout), s)) ∧
    ∀ id, s.openId = some id →
      (∃ copy, s.isolatedChange (fun failure => failure) (some id) change =
          ((change.trace (s.seen (some id))).1, { s with opened := some ⟨id, copy⟩ }) ∧
        copy.getD s.committed = (s.seen (some id)).apply (made (s.seen (some id)))) ∧
      ∀ result t, change.Goes id s result t ↔
        s.isolatedChange (fun failure => failure) (some id) change = (result, t) := by
  intro made
  refine ⟨fun free => ?_, fun taken => isolatedChange_refused taken change, fun id opened => ⟨?_,
    fun result t => Change.goes_iff opened change⟩⟩
  · rw [isolatedChange_enclose free, enclose_eq, Change.flatten_exec]
    simp only [made, Contents.apply_filter_isWrite]
  · obtain ⟨copy, run, after⟩ := Change.run_inside opened change
    refine ⟨copy, run, ?_⟩
    rw [after]
    exact (Contents.apply_filter_isWrite _ _).symm

/-- A change that stores a task and makes two changes, one that fails and one in which another one
stores a task. What became of them is no matter to it; it succeeds, or it fails itself. -/
theorem isolatedChange_atomic_nested :
    let store := Store.new .inMemory
    let queue (n : Nat) : Request := .queue [.new (.ofNat n) 0 "t" .null]
    let failed : Except Failure Unit := .error (.store "failed")
    let change (result : Except Failure Unit) : Change (Except Failure Unit) :=
      .ask (queue 1) fun _ =>
      .nested (.ask (queue 2) fun _ => .done failed) fun _ =>
      .nested (.nested (.ask (queue 3) fun _ => .done ()) .done) fun _ => .done result
    let made (result : Except Failure Unit) :=
      store.isolatedChange (fun failure => failure) none (change result)
    (store.free = true ∧ store.begin.2.free = false ∧ store.begin.2.openId = some 0) ∧
    ((made (.ok ())).1 = .ok () ∧ (made (.ok ())).2.free = true ∧
      (made (.ok ())).2.committed = store.committed.apply [queue 1, queue 2, queue 3]) ∧
    ((made failed).1 = failed ∧ (made failed).2.free = true ∧
      (made failed).2.committed = store.committed) ∧
    store.begin.2.isolatedChange (fun failure => failure) none (change (.ok ())) =
      (.error (.lockTimeout store.settings.lockTimeout), store.begin.2) ∧
    (store.begin.2.isolatedChange (fun failure => failure) (some 0) (change failed)).1 = failed := by
  intro store queue failed change made
  have free : store.free = true := rfl
  have opened : store.begin.2.openId = some 0 := rfl
  have good := (store.isolatedChange_atomic (change (.ok ()))).1 free
  have bad := (store.isolatedChange_atomic (change failed)).1 free
  obtain ⟨-, refused, -⟩ := store.begin.2.isolatedChange_atomic (change (.ok ()))
  obtain ⟨-, -, inside⟩ := store.begin.2.isolatedChange_atomic (change failed)
  obtain ⟨⟨copy, joined, -⟩, -⟩ := inside 0 opened
  refine ⟨⟨free, rfl, opened⟩, ?_, ?_, refused rfl, congrArg Prod.fst joined⟩
  · rw [show made (.ok ()) = _ from good]
    exact ⟨rfl, rfl, rfl⟩
  · rw [show made failed = _ from bad]
    exact ⟨rfl, rfl, rfl⟩

end Store

end TaskQueue
